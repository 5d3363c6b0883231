import VoiceMenu.Proofs.Interpreter.RunProperties

/-! Which digits reach the callbacks. The transition that a key fires passes the input on as
it was taken in, and that is a run of keys; the decisions that follow by themselves pass none.
The texts that are asked on the way take no digits at all. -/

set_option autoImplicit false

namespace VoiceMenu

/-! ## Logs -/

/-- The activity is a call or an evaluation with these digits. -/
inductive Activity.Passes (digits : Option String) : Activity → Prop where
  | called {name : String} : Passes digits (.called name digits)
  | evaluated {state : String} {decision : Decision} :
      Passes digits (.evaluated state decision digits)

theorem Activity.Passes.digits_eq {name : String} {given digits : Option String}
    (passes : (Activity.called name given).Passes digits) : given = digits := by
  cases passes
  rfl

def Log.Passes (log : Log) (digits : Option String) : Prop :=
  ∀ activity ∈ log, activity.Passes digits

def Log.OnlyAsks (log : Log) : Prop :=
  ∀ activity ∈ log, ∃ name, activity = .asked name

/-- Nothing was done but to ask for the limits of some of the keys. -/
def Log.AsksLimits (log : Log) (keys : List KeyBinding) : Prop :=
  ∀ activity ∈ log, ∃ binding ∈ keys, ∃ name,
    binding.pattern = .wildcard (.callback name) ∧ activity = .asked name

namespace Log

variable {log later : Log} {digits : Option String} {binding : KeyBinding}
  {keys : List KeyBinding}

theorem Passes.nil : Passes [] digits := by
  intro activity member
  cases member

theorem Passes.cons {activity : Activity} (first : activity.Passes digits)
    (passes : log.Passes digits) : Passes (activity :: log) digits := by
  intro other member
  rcases List.mem_cons.mp member with same | inLog
  · exact same ▸ first
  · exact passes other inLog

theorem Passes.append (passes : log.Passes digits) (passesLater : later.Passes digits) :
    Passes (log ++ later) digits := by
  intro activity member
  rcases List.mem_append.mp member with inLog | inLater
  · exact passes activity inLog
  · exact passesLater activity inLater

theorem OnlyAsks.nil : OnlyAsks [] := by
  intro activity member
  cases member

theorem OnlyAsks.append (asks : log.OnlyAsks) (asksLater : later.OnlyAsks) :
    OnlyAsks (log ++ later) := by
  intro activity member
  obtain inLog | inLater := List.mem_append.mp member
  · exact asks activity inLog
  · exact asksLater activity inLater

theorem AsksLimits.onlyAsks (asks : log.AsksLimits keys) : log.OnlyAsks := by
  intro activity member
  obtain ⟨-, -, name, -, same⟩ := asks activity member
  exact ⟨name, same⟩

theorem AsksLimits.nil : AsksLimits [] keys := by
  intro activity member
  cases member

theorem AsksLimits.append (asks : log.AsksLimits keys) (asksLater : later.AsksLimits keys) :
    AsksLimits (log ++ later) keys := by
  intro activity member
  obtain inLog | inLater := List.mem_append.mp member
  · exact asks activity inLog
  · exact asksLater activity inLater

theorem AsksLimits.cons (asks : log.AsksLimits keys) : log.AsksLimits (binding :: keys) := by
  intro activity member
  obtain ⟨bound, inKeys, name, pattern, same⟩ := asks activity member
  exact ⟨bound, List.mem_cons_of_mem _ inKeys, name, pattern, same⟩

end Log

namespace Rules

variable {δ : Type} {flow : Flow} {resolver : Resolver δ}

/-! ## Key look-up -/

theorem LimitIs.asksLimits {domain : δ} {limit : DigitLimit} {answer : Query Nat}
    (inForce : LimitIs resolver domain limit answer) {binding : KeyBinding}
    (form : binding.pattern = .wildcard limit) (rest : List KeyBinding) :
    answer.log.AsksLimits (binding :: rest) := by
  cases inForce with
  | fixed => exact .nil
  | count | noCount | failure =>
      intro activity member
      exact ⟨binding, List.mem_cons_self, _, form, List.mem_singleton.mp member⟩

theorem Tries.asksLimits {domain : δ} {digits : Digits} {keys : List KeyBinding}
    {answer : Query (Option KeyBinding)} (tried : Tries resolver domain digits keys answer) :
    answer.log.AsksLimits keys := by
  induction tried with
  | nothing => exact .nil
  | exactPattern _ _ ih => exact ih.cons
  | collected => exact .nil
  | uncollected _ _ _ ih => exact ih.cons
  | limitFailure form inForce => exact inForce.asksLimits form _
  | within form inForce => exact inForce.asksLimits form _
  | beyond form inForce _ _ ih => exact (inForce.asksLimits form _).append ih.cons

theorem Resolves.asksLimits {domain : δ} {digits : Digits} {keys : List KeyBinding}
    {answer : Query (Option KeyBinding)}
    (resolves : Resolves resolver domain digits keys answer) : answer.log.AsksLimits keys := by
  cases resolves with
  | noInput => exact .nil
  | exact => exact .nil
  | run _ _ tried => exact tried.asksLimits

/-- The input as a binding of the pattern takes it: a run of keys, and for a wildcard one of
digits within the limit in force. -/
structure Takes (resolver : Resolver δ) (domain : δ) (digits : Digits) (pattern : KeyPattern) :
    Prop where
  collected : Collected digits
  within : ∀ limit, pattern = .wildcard limit →
    ∃ most asked, LimitIs resolver domain limit ⟨.ok most, asked⟩ ∧ WithinLimit most digits

theorem WithinLimit.collected {most : Nat} {digits : Digits} (within : WithinLimit most digits) :
    Collected digits := by
  obtain ⟨run, some, digitsOnly, -, spelled⟩ := within
  exact ⟨run, some, fun char member => isRunKey_of_isDigit (digitsOnly char member), spelled⟩

theorem MatchesExactly.takes {domain : δ} {digits : Digits} {pattern : KeyPattern}
    (matched : MatchesExactly digits pattern) (wellFormed : pattern.WellFormed) :
    Takes resolver domain digits pattern := by
  cases matched with
  | @key char typed =>
      refine ⟨⟨[char], by simp, ?_, .inl typed⟩, fun limit same => by cases same⟩
      intro other member
      rw [List.mem_singleton.mp member]
      exact wellFormed
  | sequence _ spelled =>
      obtain ⟨some, keys⟩ := wellFormed
      exact ⟨⟨_, some, keys, spelled⟩, fun limit same => by cases same⟩

theorem Tries.takes {domain : δ} {digits : Digits} {keys : List KeyBinding}
    {answer : Query (Option KeyBinding)} (tried : Tries resolver domain digits keys answer)
    {binding : KeyBinding} (found : answer.result = .ok (some binding)) :
    Takes resolver domain digits binding.pattern := by
  induction tried with
  | nothing => cases found
  | exactPattern _ _ ih => exact ih found
  | collected form collected =>
      cases found
      exact ⟨collected, fun limit same => by cases form.symm.trans same⟩
  | uncollected _ _ _ ih => exact ih found
  | limitFailure => cases found
  | within form inForce within =>
      cases found
      refine ⟨within.collected, fun limit same => ?_⟩
      cases form.symm.trans same
      exact ⟨_, _, inForce, within⟩
  | beyond _ _ _ _ ih => exact ih found

theorem Resolves.takes {domain : δ} {digits : Digits} {keys : List KeyBinding}
    (wellFormed : ∀ bound ∈ keys, bound.pattern.WellFormed) {binding : KeyBinding} {log : Log}
    (resolves : Resolves resolver domain digits keys ⟨.ok (some binding), log⟩) :
    Takes resolver domain digits binding.pattern := by
  have formed := wellFormed binding resolves.mem_of_some
  cases resolves with
  | exact _ _ _ matched => exact matched.takes formed
  | run _ _ tried => exact tried.takes rfl

/-! ## Transitions and cascades -/

theorem Answered.log_passes {decision : Decision} {digits : Option String} {session : Session δ}
    {report : Report δ Json} (answered : Answered resolver decision digits session report) :
    report.log.Passes digits := by
  cases answered with
  | byDecider | byAction | actionFailure => exact .cons .called .nil
  | byDeciderAfterAction => exact .cons .called (.cons .called .nil)

theorem Evaluates.log_passes {decision : Decision} {digits : Option String} {session : Session δ}
    {report : Report δ (Option String)}
    (evaluated : Evaluates resolver decision digits session report) :
    report.log.Passes digits := by
  cases evaluated with
  | unanswered answered => exact .cons .evaluated answered.log_passes
  | unrecognized answered _ => exact .cons .evaluated answered.log_passes
  | noTarget answered _ _ => exact .cons .evaluated answered.log_passes
  | sameState answered _ _ => exact .cons .evaluated answered.log_passes
  | moves answered _ _ _ => exact .cons .evaluated answered.log_passes

theorem Follows.log_passes {digits : String} {session : Session δ} {transition : Transition}
    {report : Report δ Unit} (follows : Follows resolver digits session transition report) :
    report.log.Passes (some digits) := by
  cases follows with
  | plainEvent => exact .nil
  | event | eventFailure => exact .cons .called .nil
  | decision evaluated => exact evaluated.log_passes
  | decisionFailure evaluated => exact evaluated.log_passes

theorem Cascades.log_passes {limit used : Nat} {pending : List Decision} {session : Session δ}
    {report : Report δ String}
    (cascades : Cascades flow resolver limit used pending session report) :
    report.log.Passes none := by
  induction cascades with
  | settled => exact .nil
  | cut => exact .nil
  | failure _ evaluated => exact evaluated.log_passes
  | stays _ evaluated _ ih => exact evaluated.log_passes.append ih
  | passes _ evaluated _ _ _ ih => exact evaluated.log_passes.append ih
  | arrives _ evaluated => exact evaluated.log_passes

theorem Decides.log_passes {limit : Nat} {session : Session δ} {report : Report δ String}
    (decides : Decides flow resolver limit session report) : report.log.Passes none := by
  cases decides with
  | cascade _ cascades => exact cascades.log_passes

end Rules

/-! ## Responses -/

namespace Interpreter

open Rules

variable {δ : Type}

/-- How a response to the input passes it on. First keys are looked up, which only asks; then
the transition of a bound key gets the input; then decisions may follow by themselves. -/
inductive PassesOn (interpreter : Interpreter δ) (input : Digits) (now : Session δ) :
    Log → Prop where
  | unbound {state : State} {looked : Query (Option KeyBinding)} :
      interpreter.flow.state? now.state = some state →
      interpreter.resolveKey state input now.domain = looked →
      (∀ binding, looked.result ≠ .ok (some binding)) → looked.log.OnlyAsks →
      PassesOn interpreter input now looked.log
  | bound {state : State} {binding : KeyBinding} {looked cascaded : Log} {keyed : Report δ Unit} :
      interpreter.flow.state? now.state = some state →
      interpreter.resolveKey state input now.domain = ⟨.ok (some binding), looked⟩ →
      interpreter.follow binding.transition input.text now = keyed →
      cascaded = [] ∨ cascaded = (interpreter.decide keyed.session).log →
      Takes interpreter.resolver now.domain input binding.pattern →
      looked.OnlyAsks → keyed.log.Passes (some input.text) → cascaded.Passes none →
      PassesOn interpreter input now (looked ++ keyed.log ++ cascaded)

theorem passesOn_of_responds {interpreter : Interpreter δ} (built : interpreter.flow.Built)
    {input : Digits} {now : Session δ} {report : Report δ String}
    (responds : Responds interpreter.flow interpreter.resolver interpreter.stepLimit input now
      report) : interpreter.PassesOn input now report.log := by
  have wellFormed : ∀ {state : State}, interpreter.flow.state? now.state = some state →
      ∀ bound ∈ state.keys, bound.pattern.WellFormed :=
    fun found _ bound => built.pattern_wellFormed (Flow.mem_of_state? found) bound
  cases responds with
  | @keyless state found noKeys =>
      have looked : interpreter.resolveKey state input now.domain = ⟨.ok none, []⟩ := by
        simp [resolveKey, noKeys, exactBinding?, runBinding?]
      exact .unbound found looked (fun binding same => by cases same) .nil
  | lookupFailure found _ resolves =>
      have looked := interpreter.resolveKey_eq_of_resolves (wellFormed found) resolves
      exact .unbound found looked (fun binding same => by cases same) resolves.asksLimits.onlyAsks
  | unbound found _ resolves =>
      have looked := interpreter.resolveKey_eq_of_resolves (wellFormed found) resolves
      exact .unbound found looked (fun binding same => by cases same) resolves.asksLimits.onlyAsks
  | failure found _ resolves follows =>
      have looked := interpreter.resolveKey_eq_of_resolves (wellFormed found) resolves
      have passes := PassesOn.bound found looked (interpreter.follow_eq_of_follows follows)
        (.inl rfl) (resolves.takes (wellFormed found)) resolves.asksLimits.onlyAsks follows.log_passes .nil
      simpa using passes
  | arrives found _ resolves follows =>
      have looked := interpreter.resolveKey_eq_of_resolves (wellFormed found) resolves
      have passes := PassesOn.bound found looked (interpreter.follow_eq_of_follows follows)
        (.inl rfl) (resolves.takes (wellFormed found)) resolves.asksLimits.onlyAsks follows.log_passes .nil
      simpa using passes
  | decides found _ resolves follows _ _ decides =>
      have looked := interpreter.resolveKey_eq_of_resolves (wellFormed found) resolves
      have decided := interpreter.decide_eq_of_decides decides
      exact .bound found looked (interpreter.follow_eq_of_follows follows)
        (.inr (congrArg Report.log decided.symm)) (resolves.takes (wellFormed found))
        resolves.asksLimits.onlyAsks follows.log_passes decides.log_passes

theorem PassesOn.called {interpreter : Interpreter δ} {input : Digits} {now : Session δ} {log : Log}
    (passesOn : interpreter.PassesOn input now log) {name : String} {digits : Option String}
    (called : .called name digits ∈ log) :
    digits = none ∨ digits = some input.text ∧ Collected input := by
  cases passesOn with
  | unbound _ _ _ asks =>
      obtain ⟨asked, same⟩ := asks _ called
      cases same
  | bound _ _ _ _ takes asks passes passesNone =>
      rcases List.mem_append.mp called with first | last
      · rcases List.mem_append.mp first with looked | keyed
        · obtain ⟨asked, same⟩ := asks _ looked
          cases same
        · exact .inr ⟨(passes _ keyed).digits_eq, takes.collected⟩
      · exact .inl (passesNone _ last).digits_eq

/-- After any operations, a response passes its input on to the callbacks of the key that is
pressed, and nothing to those of the decisions that follow. -/
theorem callbacks_get_typed_keys_or_nothing (interpreter : Interpreter δ)
    (built : interpreter.flow.Built) (session : Session δ)
    (declared : interpreter.flow.declares session.state) (operations : List Operation) :
    let now := interpreter.run operations session
    (interpreter.decide now).log.Passes none ∧
      ∀ input, interpreter.PassesOn input now (interpreter.tryRespond input now).log ∧
        (interpreter.respond input now).log = (interpreter.tryRespond input now).log ∧
        (∀ name digits, .called name digits ∈ (interpreter.tryRespond input now).log →
          digits = none ∨ digits = some input.text ∧ Collected input) ∧
        ∀ raw, input = .ofText raw → ∃ before after,
          before ++ input.chars ++ after = raw.toList ∧
            ∀ char ∈ before ++ after, Text.isBlank char := by
  intro now
  have stays : now.OfCall interpreter.flow session.callId :=
    run_ofCall built operations ⟨declared, rfl⟩
  have decides := interpreter.decides_decide built stays.declared
  refine ⟨decides.log_passes, fun input => ?_⟩
  have passesOn := passesOn_of_responds built
    (interpreter.responds_tryRespond built input stays.declared)
  refine ⟨passesOn, interpreter.respond_log input now, fun name digits => passesOn.called, ?_⟩
  rintro raw rfl
  obtain ⟨before, after, split, blank⟩ := Text.trimChars_append raw.toList
  refine ⟨before, after, ?_, blank⟩
  rw [Digits.chars, Digits.ofText, Text.toList_trim, split]

end Interpreter

theorem ratingInterpreter_passes_rating_on :
    ratingInterpreter.flow.Built ∧ ratingInterpreter.flow.declares "hello" ∧
      ratingInterpreter.PassesOn (.ofText " 42#\n") ⟨"call-1", "hello", 0⟩
        ([.asked "most"] ++
          [.evaluated "hello" ⟨"valid?", some "collect", some "check", none⟩ (some "42#"),
            .called "collect" (some "42#"), .called "valid?" (some "42#")] ++
          [.evaluated "check" ⟨"open?", none, some "thanks", some "hello"⟩ none,
            .called "open?" none]) := by
  have passes := ratingInterpreter.callbacks_get_typed_keys_or_nothing ratingFlow_built
    ⟨"call-1", "hello", 0⟩ rfl [.tryRespond ⟨"9*"⟩]
  exact ⟨ratingFlow_built, rfl, (passes.2 (.ofText " 42#\n")).1⟩

end VoiceMenu
