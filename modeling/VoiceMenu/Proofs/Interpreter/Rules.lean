import VoiceMenu.Proofs.Session.CycleProperties

/-! The rules of call flows as relations: how a key is looked up, what an event and
a decision do, when decisions follow by themselves, and what a response is made of.
The relations read a flow, a resolver and a step limit. They neither call nor unfold
an interpreter. Every report tells the whole of what was done, in order. -/

set_option autoImplicit false

namespace VoiceMenu.Rules

variable {δ : Type}

/-! ## Key look-up -/

/-- The input is the run, as it stands or ended by the terminator. -/
def Spells (digits : Digits) (run : List Char) : Prop :=
  digits.chars = run ∨ digits.chars = run ++ [terminator]

/-- A single key is typed alone. A sequence is typed with or without the terminator,
but takes more than one character of input. -/
inductive MatchesExactly (digits : Digits) : KeyPattern → Prop where
  | key {char : Char} : digits.chars = [char] → MatchesExactly digits (.key char)
  | sequence {keys : String} :
      1 < digits.chars.length → Spells digits keys.toList →
      MatchesExactly digits (.sequence keys)

def Collected (digits : Digits) : Prop :=
  ∃ run, run ≠ [] ∧ (∀ char ∈ run, isRunKey char) ∧ Spells digits run

def WithinLimit (most : Nat) (digits : Digits) : Prop :=
  ∃ run, run ≠ [] ∧ (∀ char ∈ run, char.isDigit) ∧ run.length ≤ most ∧ Spells digits run

/-- The limit in force. A named limit is a query of its text callback, which has to
reply with a whole number that is not negative. -/
inductive LimitIs (resolver : Resolver δ) (domain : δ) : DigitLimit → Query Nat → Prop where
  | fixed {most : Nat} : LimitIs resolver domain (.fixed most) ⟨.ok most, []⟩
  | count {name : String} {most : Nat} :
      resolver.text name domain = .ok (.integer most) →
      LimitIs resolver domain (.callback name) ⟨.ok most, [.asked name]⟩
  | noCount {name : String} {reply : Json} :
      resolver.text name domain = .ok reply → (∀ most : Nat, reply ≠ .integer most) →
      LimitIs resolver domain (.callback name)
        ⟨.error (.callback (.unexpectedReply name reply .digitCount)), [.asked name]⟩
  | failure {name : String} {error : CallbackError} :
      resolver.text name domain = .error error →
      LimitIs resolver domain (.callback name) ⟨.error (.callback error), [.asked name]⟩

/-- Collectors and wildcards are tried one after the other; exact patterns are passed
over. A limit is asked for when its wildcard is tried and not before. -/
inductive Tries (resolver : Resolver δ) (domain : δ) (digits : Digits) :
    List KeyBinding → Query (Option KeyBinding) → Prop where
  | nothing : Tries resolver domain digits [] ⟨.ok none, []⟩
  | exactPattern {binding : KeyBinding} {rest : List KeyBinding}
      {answer : Query (Option KeyBinding)} :
      binding.pattern.isExact → Tries resolver domain digits rest answer →
      Tries resolver domain digits (binding :: rest) answer
  | collected {binding : KeyBinding} {rest : List KeyBinding} :
      binding.pattern = .collector → Collected digits →
      Tries resolver domain digits (binding :: rest) ⟨.ok (some binding), []⟩
  | uncollected {binding : KeyBinding} {rest : List KeyBinding}
      {answer : Query (Option KeyBinding)} :
      binding.pattern = .collector → ¬ Collected digits →
      Tries resolver domain digits rest answer →
      Tries resolver domain digits (binding :: rest) answer
  | limitFailure {binding : KeyBinding} {rest : List KeyBinding} {limit : DigitLimit}
      {error : CycleError} {log : Log} :
      binding.pattern = .wildcard limit → LimitIs resolver domain limit ⟨.error error, log⟩ →
      Tries resolver domain digits (binding :: rest) ⟨.error error, log⟩
  | within {binding : KeyBinding} {rest : List KeyBinding} {limit : DigitLimit} {most : Nat}
      {log : Log} :
      binding.pattern = .wildcard limit → LimitIs resolver domain limit ⟨.ok most, log⟩ →
      WithinLimit most digits →
      Tries resolver domain digits (binding :: rest) ⟨.ok (some binding), log⟩
  | beyond {binding : KeyBinding} {rest : List KeyBinding} {limit : DigitLimit} {most : Nat}
      {log : Log} {answer : Query (Option KeyBinding)} :
      binding.pattern = .wildcard limit → LimitIs resolver domain limit ⟨.ok most, log⟩ →
      ¬ WithinLimit most digits → Tries resolver domain digits rest answer →
      Tries resolver domain digits (binding :: rest) (answer.behind log)

/-- Exact patterns first, whichever stand between them, then the others in order. -/
inductive Resolves (resolver : Resolver δ) (domain : δ) (digits : Digits)
    (keys : List KeyBinding) : Query (Option KeyBinding) → Prop where
  | noInput : digits.chars = [] → Resolves resolver domain digits keys ⟨.ok none, []⟩
  | exact {before after : List KeyBinding} {binding : KeyBinding} :
      digits.chars ≠ [] → keys = before ++ binding :: after →
      (∀ earlier ∈ before, ¬ MatchesExactly digits earlier.pattern) →
      MatchesExactly digits binding.pattern →
      Resolves resolver domain digits keys ⟨.ok (some binding), []⟩
  | run {answer : Query (Option KeyBinding)} :
      digits.chars ≠ [] → (∀ binding ∈ keys, ¬ MatchesExactly digits binding.pattern) →
      Tries resolver domain digits keys answer → Resolves resolver domain digits keys answer

/-! ## Transitions -/

inductive Means : Json → Outcome → Prop where
  | yes : Means (.bool true) .yes
  | yesWord : Means (.string "yes") .yes
  | no : Means (.bool false) .no
  | noWord : Means (.string "no") .no
  | null : Means .null .indeterminate

inductive LeavesOpen : Json → Prop where
  | null : LeavesOpen .null
  | no : LeavesOpen (.bool false)

/-- What a decision is answered with: the reply of its action, unless that leaves it
open, and otherwise whatever its decider replies or fails with. -/
inductive Answered (resolver : Resolver δ) (decision : Decision) (digits : Option String)
    (session : Session δ) : Report δ Json → Prop where
  | byDecider {domain : δ} {reply : Except CallbackError Json} :
      decision.action = none →
      resolver.call decision.decider digits session.domain = (domain, reply) →
      Answered resolver decision digits session
        ⟨reply.mapError .callback, { session with domain }, [.called decision.decider digits]⟩
  | byAction {action : String} {domain : δ} {reply : Json} :
      decision.action = some action →
      resolver.call action digits session.domain = (domain, .ok reply) → ¬ LeavesOpen reply →
      Answered resolver decision digits session
        ⟨.ok reply, { session with domain }, [.called action digits]⟩
  | actionFailure {action : String} {domain : δ} {error : CallbackError} :
      decision.action = some action →
      resolver.call action digits session.domain = (domain, .error error) →
      Answered resolver decision digits session
        ⟨.error (.callback error), { session with domain }, [.called action digits]⟩
  | byDeciderAfterAction {action : String} {between domain : δ} {left : Json}
      {reply : Except CallbackError Json} :
      decision.action = some action →
      resolver.call action digits session.domain = (between, .ok left) → LeavesOpen left →
      resolver.call decision.decider digits between = (domain, reply) →
      Answered resolver decision digits session
        ⟨reply.mapError .callback, { session with domain },
          [.called action digits, .called decision.decider digits]⟩

/-- What a decision does. It gives the new state where it changes the state; a target
that is the state itself is no change. -/
inductive Evaluates (resolver : Resolver δ) (decision : Decision) (digits : Option String)
    (session : Session δ) : Report δ (Option String) → Prop where
  | unanswered {error : CycleError} {after : Session δ} {log : Log} :
      Answered resolver decision digits session ⟨.error error, after, log⟩ →
      Evaluates resolver decision digits session
        ⟨.error error, after, .evaluated session.state decision digits :: log⟩
  | unrecognized {reply : Json} {after : Session δ} {log : Log} :
      Answered resolver decision digits session ⟨.ok reply, after, log⟩ →
      (∀ outcome, ¬ Means reply outcome) →
      Evaluates resolver decision digits session
        ⟨.error (.undecided decision.decider session.state reply), after,
          .evaluated session.state decision digits :: log⟩
  | noTarget {reply : Json} {after : Session δ} {log : Log} {outcome : Outcome} :
      Answered resolver decision digits session ⟨.ok reply, after, log⟩ →
      Means reply outcome → decision.target? outcome = none →
      Evaluates resolver decision digits session
        ⟨.ok none, after, .evaluated session.state decision digits :: log⟩
  | sameState {reply : Json} {after : Session δ} {log : Log} {outcome : Outcome} :
      Answered resolver decision digits session ⟨.ok reply, after, log⟩ →
      Means reply outcome → decision.target? outcome = some session.state →
      Evaluates resolver decision digits session
        ⟨.ok none, after, .evaluated session.state decision digits :: log⟩
  | moves {reply : Json} {after : Session δ} {log : Log} {outcome : Outcome} {target : String} :
      Answered resolver decision digits session ⟨.ok reply, after, log⟩ →
      Means reply outcome → decision.target? outcome = some target → target ≠ session.state →
      Evaluates resolver decision digits session
        ⟨.ok (some target), { after with state := target },
          .evaluated session.state decision digits :: log⟩

/-- The callback that an event runs: its action, else the one registered under its
name, else none. -/
inductive EffectIs (resolver : Resolver δ) (event : Event) : Option String → Prop where
  | action {name : String} : event.action = some name → EffectIs resolver event (some name)
  | ownName : event.action = none → resolver.hasAction event.name = true →
      EffectIs resolver event (some event.name)
  | none : event.action = none → resolver.hasAction event.name = false →
      EffectIs resolver event none

inductive Follows (resolver : Resolver δ) (digits : String) (session : Session δ) :
    Transition → Report δ Unit → Prop where
  | plainEvent {event : Event} :
      EffectIs resolver event none →
      Follows resolver digits session (.event event)
        ⟨.ok (), { session with state := event.target }, []⟩
  | event {event : Event} {effect : String} {domain : δ} {reply : Json} :
      EffectIs resolver event (some effect) →
      resolver.call effect (some digits) session.domain = (domain, .ok reply) →
      Follows resolver digits session (.event event)
        ⟨.ok (), { session with state := event.target, domain }, [.called effect (some digits)]⟩
  | eventFailure {event : Event} {effect : String} {domain : δ} {error : CallbackError} :
      EffectIs resolver event (some effect) →
      resolver.call effect (some digits) session.domain = (domain, .error error) →
      Follows resolver digits session (.event event)
        ⟨.error (.callback error), { session with domain }, [.called effect (some digits)]⟩
  | decision {decision : Decision} {moved : Option String} {after : Session δ} {log : Log} :
      Evaluates resolver decision (some digits) session ⟨.ok moved, after, log⟩ →
      Follows resolver digits session (.decision decision) ⟨.ok (), after, log⟩
  | decisionFailure {decision : Decision} {error : CycleError} {after : Session δ} {log : Log} :
      Evaluates resolver decision (some digits) session ⟨.error error, after, log⟩ →
      Follows resolver digits session (.decision decision) ⟨.error error, after, log⟩

/-! ## Cascades and responses -/

/-- What the pending decisions of the current state do, when `used` decisions of the
cascade were evaluated before. The first that moves the call ends the list; in a silent
state that state's decisions are pending next. -/
inductive Cascades (flow : Flow) (resolver : Resolver δ) (limit : Nat) :
    (used : Nat) → List Decision → Session δ → Report δ String → Prop where
  | settled {used : Nat} {session : Session δ} :
      Cascades flow resolver limit used [] session ⟨.ok session.state, session, []⟩
  | cut {used : Nat} {decision : Decision} {rest : List Decision} {session : Session δ} :
      limit ≤ used →
      Cascades flow resolver limit used (decision :: rest) session
        ⟨.error (.stepLimit limit), session, []⟩
  | failure {used : Nat} {decision : Decision} {rest : List Decision}
      {session after : Session δ} {error : CycleError} {log : Log} :
      used < limit → Evaluates resolver decision none session ⟨.error error, after, log⟩ →
      Cascades flow resolver limit used (decision :: rest) session ⟨.error error, after, log⟩
  | stays {used : Nat} {decision : Decision} {rest : List Decision}
      {session after : Session δ} {log : Log} {report : Report δ String} :
      used < limit → Evaluates resolver decision none session ⟨.ok none, after, log⟩ →
      Cascades flow resolver limit (used + 1) rest after report →
      Cascades flow resolver limit used (decision :: rest) session (report.behind log)
  | passes {used : Nat} {decision : Decision} {rest : List Decision}
      {session after : Session δ} {log : Log} {target : String} {entered : State}
      {report : Report δ String} :
      used < limit → Evaluates resolver decision none session ⟨.ok (some target), after, log⟩ →
      flow.state? target = some entered → entered.prompts = [] →
      Cascades flow resolver limit (used + 1) entered.decisions after report →
      Cascades flow resolver limit used (decision :: rest) session (report.behind log)
  | arrives {used : Nat} {decision : Decision} {rest : List Decision}
      {session after : Session δ} {log : Log} {target : String} {entered : State} :
      used < limit → Evaluates resolver decision none session ⟨.ok (some target), after, log⟩ →
      flow.state? target = some entered → entered.prompts ≠ [] →
      Cascades flow resolver limit used (decision :: rest) session ⟨.ok target, after, log⟩

inductive Decides (flow : Flow) (resolver : Resolver δ) (limit : Nat) (session : Session δ) :
    Report δ String → Prop where
  | cascade {current : State} {report : Report δ String} :
      flow.state? session.state = some current →
      Cascades flow resolver limit 0 current.decisions session report →
      Decides flow resolver limit session report

inductive Responds (flow : Flow) (resolver : Resolver δ) (limit : Nat) (digits : Digits)
    (session : Session δ) : Report δ String → Prop where
  | keyless {current : State} :
      flow.state? session.state = some current → current.keys = [] →
      Responds flow resolver limit digits session
        ⟨.error (.noKeyBindings session.state), session, []⟩
  | lookupFailure {current : State} {error : CycleError} {log : Log} :
      flow.state? session.state = some current → current.keys ≠ [] →
      Resolves resolver session.domain digits current.keys ⟨.error error, log⟩ →
      Responds flow resolver limit digits session ⟨.error error, session, log⟩
  | unbound {current : State} {log : Log} :
      flow.state? session.state = some current → current.keys ≠ [] →
      Resolves resolver session.domain digits current.keys ⟨.ok none, log⟩ →
      Responds flow resolver limit digits session ⟨.ok session.state, session, log⟩
  | failure {current : State} {binding : KeyBinding} {error : CycleError} {after : Session δ}
      {looked log : Log} :
      flow.state? session.state = some current → current.keys ≠ [] →
      Resolves resolver session.domain digits current.keys ⟨.ok (some binding), looked⟩ →
      Follows resolver digits.text session binding.transition ⟨.error error, after, log⟩ →
      Responds flow resolver limit digits session ⟨.error error, after, looked ++ log⟩
  | arrives {current entered : State} {binding : KeyBinding} {after : Session δ}
      {looked log : Log} :
      flow.state? session.state = some current → current.keys ≠ [] →
      Resolves resolver session.domain digits current.keys ⟨.ok (some binding), looked⟩ →
      Follows resolver digits.text session binding.transition ⟨.ok (), after, log⟩ →
      flow.state? after.state = some entered →
      after.state ≠ session.state → entered.prompts ≠ [] →
      Responds flow resolver limit digits session ⟨.ok after.state, after, looked ++ log⟩
  | decides {current entered : State} {binding : KeyBinding} {after : Session δ}
      {looked log : Log} {report : Report δ String} :
      flow.state? session.state = some current → current.keys ≠ [] →
      Resolves resolver session.domain digits current.keys ⟨.ok (some binding), looked⟩ →
      Follows resolver digits.text session binding.transition ⟨.ok (), after, log⟩ →
      flow.state? after.state = some entered →
      after.state = session.state ∨ entered.prompts = [] →
      Decides flow resolver limit after report →
      Responds flow resolver limit digits session (report.behind (looked ++ log))

end VoiceMenu.Rules
