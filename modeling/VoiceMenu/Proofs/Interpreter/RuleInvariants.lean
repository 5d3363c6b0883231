import VoiceMenu.Proofs.Flow.BuiltProperties
import VoiceMenu.Proofs.Interpreter.Rules

/-! What the rules keep. On a built flow a session stays one of its call and in a
declared state, whether the rule ends well or with an error, and no rule ends in
an unknown state. -/

set_option autoImplicit false

namespace VoiceMenu

structure Session.OfCall {δ : Type} (flow : Flow) (callId : String) (session : Session δ) :
    Prop where
  declared : flow.declares session.state
  sameCall : session.callId = callId

/-- The result is no failure on an unknown state. -/
def StatesKnown {α : Type} (result : Except CycleError α) : Prop :=
  ∀ state flow, result ≠ .error (.unknownState state flow)

theorem StatesKnown.ok {α : Type} {value : α} :
    StatesKnown (.ok value : Except CycleError α) := by
  intro state flow failed
  cases failed

theorem StatesKnown.callback {α : Type} {error : CallbackError} :
    StatesKnown (.error (.callback error) : Except CycleError α) := by
  intro state flow failed
  cases failed

theorem StatesKnown.error {α β : Type} {error : CycleError}
    (known : StatesKnown (.error error : Except CycleError α)) :
    StatesKnown (.error error : Except CycleError β) := by
  intro state flow failed
  cases failed
  exact known state flow rfl

theorem StatesKnown.bind {α β : Type} {first : Query α} {next : α → Query β}
    (firstKnown : StatesKnown first.result)
    (nextKnown : ∀ value, StatesKnown (next value).result) :
    StatesKnown (first >>= next).result := by
  cases answered : first.result with
  | error error =>
      rw [Query.bind_of_error answered]
      rw [answered] at firstKnown
      exact firstKnown.error
  | ok value =>
      rw [Query.bind_of_ok answered]
      exact nextKnown value

namespace Rules

variable {δ : Type} {flow : Flow} {resolver : Resolver δ} {callId : String}

/-! ## Key look-up -/

theorem LimitIs.statesKnown {domain : δ} {limit : DigitLimit} {answer : Query Nat}
    (inForce : LimitIs resolver domain limit answer) : StatesKnown answer.result := by
  cases inForce with
  | fixed => exact .ok
  | count => exact .ok
  | noCount => exact .callback
  | failure => exact .callback

theorem Tries.statesKnown {domain : δ} {digits : Digits} {keys : List KeyBinding}
    {answer : Query (Option KeyBinding)} (tried : Tries resolver domain digits keys answer) :
    StatesKnown answer.result := by
  induction tried with
  | nothing => exact .ok
  | exactPattern _ _ ih => exact ih
  | collected => exact .ok
  | uncollected _ _ _ ih => exact ih
  | limitFailure _ inForce => exact inForce.statesKnown.error
  | within => exact .ok
  | beyond _ _ _ _ ih => exact ih

theorem Resolves.statesKnown {domain : δ} {digits : Digits} {keys : List KeyBinding}
    {answer : Query (Option KeyBinding)}
    (resolves : Resolves resolver domain digits keys answer) : StatesKnown answer.result := by
  cases resolves with
  | noInput => exact .ok
  | exact => exact .ok
  | run _ _ tried => exact tried.statesKnown

theorem Tries.mem_of_some {domain : δ} {digits : Digits} {keys : List KeyBinding}
    {answer : Query (Option KeyBinding)} (tried : Tries resolver domain digits keys answer)
    {binding : KeyBinding} (found : answer.result = .ok (some binding)) : binding ∈ keys := by
  induction tried with
  | nothing => cases found
  | exactPattern _ _ ih => exact List.mem_cons_of_mem _ (ih found)
  | collected => cases found; exact List.mem_cons_self
  | uncollected _ _ _ ih => exact List.mem_cons_of_mem _ (ih found)
  | limitFailure => cases found
  | within => cases found; exact List.mem_cons_self
  | beyond _ _ _ _ ih => exact List.mem_cons_of_mem _ (ih found)

theorem Resolves.mem_of_some {domain : δ} {digits : Digits} {keys : List KeyBinding}
    {binding : KeyBinding} {log : Log}
    (resolves : Resolves resolver domain digits keys ⟨.ok (some binding), log⟩) :
    binding ∈ keys := by
  cases resolves with
  | exact _ split _ _ => rw [split]; exact List.mem_append_right _ List.mem_cons_self
  | run _ _ tried => exact tried.mem_of_some rfl

/-! ## Transitions -/

theorem Answered.keeps {decision : Decision} {digits : Option String} {session : Session δ}
    {report : Report δ Json} (answered : Answered resolver decision digits session report) :
    report.session.state = session.state ∧ report.session.callId = session.callId := by
  cases answered <;> exact ⟨rfl, rfl⟩

theorem Answered.ofCall {decision : Decision} {digits : Option String} {session : Session δ}
    {report : Report δ Json} (answered : Answered resolver decision digits session report)
    (ofCall : session.OfCall flow callId) : report.session.OfCall flow callId := by
  obtain ⟨sameState, sameCall⟩ := answered.keeps
  exact ⟨sameState ▸ ofCall.declared, sameCall.trans ofCall.sameCall⟩

theorem Answered.statesKnown {decision : Decision} {digits : Option String}
    {session : Session δ} {report : Report δ Json}
    (answered : Answered resolver decision digits session report) :
    StatesKnown report.result := by
  have ofReply : ∀ reply : Except CallbackError Json,
      StatesKnown (reply.mapError CycleError.callback) := by
    intro reply
    cases reply with
    | error error => exact .callback
    | ok value => exact .ok
  cases answered with
  | byDecider => exact ofReply _
  | byAction => exact .ok
  | actionFailure => exact .callback
  | byDeciderAfterAction => exact ofReply _

namespace Evaluates

variable {decision : Decision} {digits : Option String} {session : Session δ}

theorem ofCall (closed : flow.Closes decision) {report : Report δ (Option String)}
    (evaluated : Evaluates resolver decision digits session report)
    (ofCall : session.OfCall flow callId) : report.session.OfCall flow callId := by
  cases evaluated with
  | unanswered answered => exact answered.ofCall ofCall
  | unrecognized answered _ => exact answered.ofCall ofCall
  | noTarget answered _ _ => exact answered.ofCall ofCall
  | sameState answered _ _ => exact answered.ofCall ofCall
  | moves answered _ leads _ => exact ⟨closed leads, (answered.ofCall ofCall).sameCall⟩

theorem statesKnown {report : Report δ (Option String)}
    (evaluated : Evaluates resolver decision digits session report) :
    StatesKnown report.result := by
  cases evaluated with
  | unanswered answered => exact answered.statesKnown.error
  | unrecognized => intro state flow failed; cases failed
  | noTarget => exact .ok
  | sameState => exact .ok
  | moves => exact .ok

theorem state_eq_of_some {after : Session δ} {log : Log} {target : String}
    (evaluated : Evaluates resolver decision digits session ⟨.ok (some target), after, log⟩) :
    after.state = target := by
  cases evaluated
  rfl

theorem declares_of_some {after : Session δ} {log : Log} {target : String}
    (evaluated : Evaluates resolver decision digits session ⟨.ok (some target), after, log⟩)
    (closed : flow.Closes decision) : flow.declares target := by
  cases evaluated with
  | moves _ _ leads _ => exact closed leads

end Evaluates

def Leads (flow : Flow) : Transition → Prop
  | .event event => flow.declares event.target
  | .decision decision => flow.Closes decision

theorem leads_of_built (built : flow.Built) {state : State} (member : state ∈ flow.states)
    {binding : KeyBinding} (bound : binding ∈ state.keys) : Leads flow binding.transition := by
  cases keyed : binding.transition with
  | event event => exact built.event_declared member bound keyed
  | decision decision => exact built.keyedDecision_closed member bound keyed

theorem Follows.ofCall {digits : String} {session : Session δ} {transition : Transition}
    {report : Report δ Unit} (follows : Follows resolver digits session transition report)
    (leads : Leads flow transition) (ofCall : session.OfCall flow callId) :
    report.session.OfCall flow callId := by
  cases follows with
  | plainEvent => exact ⟨leads, ofCall.sameCall⟩
  | event => exact ⟨leads, ofCall.sameCall⟩
  | eventFailure => exact ⟨ofCall.declared, ofCall.sameCall⟩
  | decision evaluated => exact evaluated.ofCall leads ofCall
  | decisionFailure evaluated => exact evaluated.ofCall leads ofCall

theorem Follows.statesKnown {digits : String} {session : Session δ} {transition : Transition}
    {report : Report δ Unit} (follows : Follows resolver digits session transition report) :
    StatesKnown report.result := by
  cases follows with
  | plainEvent => exact .ok
  | event => exact .ok
  | eventFailure => exact .callback
  | decision => exact .ok
  | decisionFailure evaluated => exact evaluated.statesKnown.error

/-! ## Cascades and responses -/

theorem Cascades.ofCall (built : flow.Built) {limit used : Nat} {pending : List Decision}
    {session : Session δ} {report : Report δ String}
    (cascades : Cascades flow resolver limit used pending session report)
    (closed : ∀ decision ∈ pending, flow.Closes decision)
    (ofCall : session.OfCall flow callId) : report.session.OfCall flow callId := by
  induction cascades with
  | settled => exact ofCall
  | cut => exact ofCall
  | failure _ evaluated => exact evaluated.ofCall (closed _ List.mem_cons_self) ofCall
  | stays _ evaluated _ ih =>
      exact ih (fun later member => closed later (List.mem_cons_of_mem _ member))
        (evaluated.ofCall (closed _ List.mem_cons_self) ofCall)
  | passes _ evaluated found _ _ ih =>
      exact ih (fun later member => built.decision_closed (Flow.mem_of_state? found) member)
        (evaluated.ofCall (closed _ List.mem_cons_self) ofCall)
  | arrives _ evaluated => exact evaluated.ofCall (closed _ List.mem_cons_self) ofCall

theorem Cascades.statesKnown {limit used : Nat} {pending : List Decision}
    {session : Session δ} {report : Report δ String}
    (cascades : Cascades flow resolver limit used pending session report) :
    StatesKnown report.result := by
  induction cascades with
  | settled => exact .ok
  | cut => intro state flow failed; cases failed
  | failure _ evaluated => exact evaluated.statesKnown.error
  | stays _ _ _ ih => exact ih
  | passes _ _ _ _ _ ih => exact ih
  | arrives => exact .ok

theorem Decides.ofCall (built : flow.Built) {limit : Nat} {session : Session δ}
    {report : Report δ String} (decides : Decides flow resolver limit session report)
    (ofCall : session.OfCall flow callId) : report.session.OfCall flow callId := by
  cases decides with
  | cascade found cascades =>
      exact cascades.ofCall built
        (fun decision member => built.decision_closed (Flow.mem_of_state? found) member) ofCall

theorem Decides.statesKnown {limit : Nat} {session : Session δ} {report : Report δ String}
    (decides : Decides flow resolver limit session report) : StatesKnown report.result := by
  cases decides with
  | cascade _ cascades => exact cascades.statesKnown

theorem Responds.ofCall (built : flow.Built) {limit : Nat} {digits : Digits}
    {session : Session δ} {report : Report δ String}
    (responds : Responds flow resolver limit digits session report)
    (ofCall : session.OfCall flow callId) : report.session.OfCall flow callId := by
  have leads : ∀ {current : State} {binding : KeyBinding} {looked : Log},
      flow.state? session.state = some current →
      Resolves resolver session.domain digits current.keys ⟨.ok (some binding), looked⟩ →
      Leads flow binding.transition :=
    fun found resolves => leads_of_built built (Flow.mem_of_state? found) resolves.mem_of_some
  cases responds with
  | keyless => exact ofCall
  | lookupFailure => exact ofCall
  | unbound => exact ofCall
  | failure found _ resolves follows => exact follows.ofCall (leads found resolves) ofCall
  | arrives found _ resolves follows => exact follows.ofCall (leads found resolves) ofCall
  | decides found _ resolves follows _ _ decides =>
      exact decides.ofCall built (follows.ofCall (leads found resolves) ofCall)

theorem Responds.statesKnown {limit : Nat} {digits : Digits} {session : Session δ}
    {report : Report δ String}
    (responds : Responds flow resolver limit digits session report) :
    StatesKnown report.result := by
  cases responds with
  | keyless => intro state flow failed; cases failed
  | lookupFailure _ _ resolves => exact resolves.statesKnown.error
  | unbound => exact .ok
  | failure _ _ _ follows => exact follows.statesKnown.error
  | arrives => exact .ok
  | decides _ _ _ _ _ _ decides => exact decides.statesKnown

end Rules

end VoiceMenu
