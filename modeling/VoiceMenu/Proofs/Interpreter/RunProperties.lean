import VoiceMenu.Interpreter.Presentation
import VoiceMenu.Proofs.Interpreter.ResponseProperties

/-! Runs of a session: it is opened by a start or a resumption, and then any operations
follow, failing ones among them. On a built flow the session never leaves the declared
states and its call. -/

set_option autoImplicit false

namespace VoiceMenu

/-! ## Runs -/

inductive Opening (δ : Type) where
  | start (callId : String) (domain : δ)
  | resume (callId state : String) (domain : δ)

def Opening.callId {δ : Type} : Opening δ → String
  | .start callId _ => callId
  | .resume callId _ _ => callId

inductive Operation where
  | respond (digits : Digits)
  | tryRespond (digits : Digits)
  | decide
  deriving DecidableEq, Repr

namespace Interpreter

variable {δ : Type} (interpreter : Interpreter δ)

def openSession : Opening δ → Except CycleError (Session δ)
  | .start callId domain => .ok (interpreter.start callId domain)
  | .resume callId state domain => interpreter.resume callId state domain

def perform : Operation → Cycle δ String
  | .respond digits => interpreter.respond digits
  | .tryRespond digits => interpreter.tryRespond digits
  | .decide => interpreter.decide

/-- The session after the operations, each on the session that the one before it left. -/
def run (operations : List Operation) (session : Session δ) : Session δ :=
  operations.foldl (fun session operation => (interpreter.perform operation session).session)
    session

/-- What is reported of the operations, each on the session that the one before it left. -/
def reports : List Operation → Session δ → List (Report δ String)
  | [], _ => []
  | operation :: rest, session =>
      let report := interpreter.perform operation session
      report :: reports rest report.session

/-- The interpreter with other behaviour behind the callback names. -/
def withResolver (resolver : Resolver δ) : Interpreter δ :=
  { interpreter with resolver }

/-! ## Opened sessions and single operations -/

variable {interpreter : Interpreter δ} {callId : String} {session : Session δ}

theorem stateNamed_of_declares {name : String} (declared : interpreter.flow.declares name) :
    ∃ state ∈ interpreter.flow.states, interpreter.stateNamed name = .ok state := by
  obtain ⟨state, found⟩ := Flow.state?_of_declares declared
  exact ⟨state, Flow.mem_of_state? found, by simp [stateNamed, found]⟩

theorem resume_of_declares (interpreter : Interpreter δ) (callId : String) {state : String}
    (domain : δ) (declared : interpreter.flow.declares state) :
    interpreter.resume callId state domain = .ok ⟨callId, state, domain⟩ := by
  obtain ⟨current, -, named⟩ := stateNamed_of_declares declared
  rw [resume, named]
  rfl

theorem openSession_ofCall {opening : Opening δ}
    (opened : interpreter.openSession opening = .ok session) :
    session.OfCall interpreter.flow opening.callId := by
  cases opening with
  | start callId domain =>
      cases opened
      exact ⟨Flow.declares_initial _, rfl⟩
  | resume callId state domain =>
      cases found : interpreter.flow.state? state with
      | none =>
          rw [openSession, resume, stateNamed, found] at opened
          cases opened
      | some current =>
          have declared := Flow.declares_of_state? found
          rw [openSession, interpreter.resume_of_declares callId domain declared] at opened
          cases opened
          exact ⟨declared, rfl⟩

theorem tryRespond_ofCall (built : interpreter.flow.Built) (digits : Digits)
    (ofCall : session.OfCall interpreter.flow callId) :
    (interpreter.tryRespond digits session).session.OfCall interpreter.flow callId :=
  (interpreter.responds_tryRespond built digits ofCall.declared).ofCall built ofCall

theorem decide_ofCall (built : interpreter.flow.Built)
    (ofCall : session.OfCall interpreter.flow callId) :
    (interpreter.decide session).session.OfCall interpreter.flow callId :=
  (interpreter.decides_decide built ofCall.declared).ofCall built ofCall

theorem respond_of_ok {digits : Digits} {state : String} {changed : Session δ} {log : Log}
    (tried : interpreter.tryRespond digits session = ⟨.ok state, changed, log⟩) :
    interpreter.respond digits session = ⟨.ok state, changed, log⟩ := by
  rw [respond, tried]

theorem respond_of_error {digits : Digits} {error : CycleError} {changed : Session δ} {log : Log}
    (tried : interpreter.tryRespond digits session = ⟨.error error, changed, log⟩) :
    interpreter.respond digits session =
      ⟨.ok session.state, { changed with state := session.state }, log⟩ := by
  rw [respond, tried]

theorem respond_ofCall (built : interpreter.flow.Built) (digits : Digits)
    (ofCall : session.OfCall interpreter.flow callId) :
    (interpreter.respond digits session).session.OfCall interpreter.flow callId := by
  have responded := tryRespond_ofCall built digits ofCall
  rcases tried : interpreter.tryRespond digits session with ⟨error | state, changed, log⟩
  · rw [tried] at responded
    rw [respond_of_error tried]
    exact ⟨ofCall.declared, responded.sameCall⟩
  · rw [tried] at responded
    rw [respond_of_ok tried]
    exact responded

theorem respond_log (interpreter : Interpreter δ) (digits : Digits) (session : Session δ) :
    (interpreter.respond digits session).log = (interpreter.tryRespond digits session).log := by
  rcases tried : interpreter.tryRespond digits session with ⟨error | state, changed, log⟩
  · rw [respond_of_error tried]
  · rw [respond_of_ok tried]

theorem respond_result (digits : Digits) (session : Session δ) :
    ∃ state, (interpreter.respond digits session).result = .ok state := by
  rcases tried : interpreter.tryRespond digits session with ⟨error | state, changed, log⟩
  · exact ⟨session.state, by rw [respond_of_error tried]⟩
  · exact ⟨state, by rw [respond_of_ok tried]⟩

theorem perform_ofCall (built : interpreter.flow.Built) (operation : Operation)
    (ofCall : session.OfCall interpreter.flow callId) :
    (interpreter.perform operation session).session.OfCall interpreter.flow callId := by
  cases operation with
  | respond digits => exact respond_ofCall built digits ofCall
  | tryRespond digits => exact tryRespond_ofCall built digits ofCall
  | decide => exact decide_ofCall built ofCall

theorem perform_statesKnown (built : interpreter.flow.Built) (operation : Operation)
    (ofCall : session.OfCall interpreter.flow callId) :
    StatesKnown (interpreter.perform operation session).result := by
  cases operation with
  | respond digits =>
      obtain ⟨state, responded⟩ := interpreter.respond_result digits session
      rw [perform, responded]
      exact .ok
  | tryRespond digits =>
      exact (interpreter.responds_tryRespond built digits ofCall.declared).statesKnown
  | decide => exact (interpreter.decides_decide built ofCall.declared).statesKnown

theorem run_ofCall (built : interpreter.flow.Built) (operations : List Operation)
    (ofCall : session.OfCall interpreter.flow callId) :
    (interpreter.run operations session).OfCall interpreter.flow callId := by
  induction operations generalizing session with
  | nil => exact ofCall
  | cons operation rest ih => exact ih (perform_ofCall built operation ofCall)

/-! ## Accessors -/

/-- What holds of all that asks callbacks for texts, takes or refuses their replies, and does
nothing else. -/
structure Inquiry (interpreter : Interpreter δ) (domain : δ)
    (Holds : ∀ {α : Type}, Query α → Prop) : Prop where
  pure {α : Type} (value : α) : Holds (pure value)
  refusal {α : Type} (error : CallbackError) : Holds (Query.fail (.callback error) : Query α)
  asking (name : String) : Holds (interpreter.askText name domain)
  bind {α β : Type} {first : Query α} {next : α → Query β} :
    Holds first → (∀ value, Holds (next value)) → Holds (first >>= next)

namespace Inquiry

variable {domain : δ} {Holds : ∀ {α : Type}, Query α → Prop}

theorem digitLimit (inquiry : interpreter.Inquiry domain Holds) (limit : DigitLimit) :
    Holds (interpreter.digitLimit domain limit) := by
  cases limit with
  | fixed most => exact inquiry.pure most
  | callback name =>
      refine inquiry.bind (inquiry.asking name) fun reply => ?_
      cases reply.digitLimit? with
      | some most => exact inquiry.pure most
      | none => exact inquiry.refusal _

theorem linesOf (inquiry : interpreter.Inquiry domain Holds) (fragments : List Fragment) :
    Holds (interpreter.linesOf domain fragments) := by
  induction fragments with
  | nil => exact inquiry.pure []
  | cons fragment rest ih =>
      refine inquiry.bind ?_ fun first => inquiry.bind ih fun others => inquiry.pure _
      cases fragment with
      | text words => exact inquiry.pure _
      | call name =>
          refine inquiry.bind (inquiry.asking name) fun reply => ?_
          cases reply.lines with
          | ok lines => exact inquiry.pure lines
          | error leaf => exact inquiry.refusal _

theorem mostDigits (inquiry : interpreter.Inquiry domain Holds) (keys : List KeyBinding) :
    Holds (interpreter.mostDigits domain keys) := by
  induction keys with
  | nil => exact inquiry.pure 0
  | cons binding rest ih =>
      have goesOn : ∀ most : Nat, Holds (do
          let others ← interpreter.mostDigits domain rest
          return max most others : Query Nat) :=
        fun most => inquiry.bind ih fun others => inquiry.pure _
      rw [Interpreter.mostDigits]
      cases binding.pattern with
      | key char => exact inquiry.bind (inquiry.pure 1) goesOn
      | sequence keys => exact inquiry.bind (inquiry.pure 0) goesOn
      | collector => exact inquiry.bind (inquiry.pure 0) goesOn
      | wildcard limit => exact inquiry.bind (inquiry.digitLimit limit) goesOn

theorem prompts (inquiry : interpreter.Inquiry session.domain Holds)
    (declared : interpreter.flow.declares session.state) :
    Holds (interpreter.prompts session) := by
  obtain ⟨state, -, named⟩ := stateNamed_of_declares declared
  rw [Interpreter.prompts, named]
  exact inquiry.bind (inquiry.pure state) fun state => inquiry.linesOf state.prompts

theorem gather (inquiry : interpreter.Inquiry session.domain Holds)
    (declared : interpreter.flow.declares session.state) :
    Holds (interpreter.gather session) := by
  obtain ⟨state, -, named⟩ := stateNamed_of_declares declared
  rw [Interpreter.gather, named]
  refine inquiry.bind (inquiry.pure state) fun state => ?_
  refine inquiry.bind (inquiry.mostDigits state.keys) fun most => ?_
  split
  · exact inquiry.pure _
  · exact inquiry.pure _

end Inquiry

theorem statesKnown_inquiry (interpreter : Interpreter δ) (domain : δ) :
    interpreter.Inquiry domain fun query => StatesKnown query.result where
  pure _ := .ok
  refusal _ := .callback
  asking name := by
    cases replied : interpreter.resolver.text name domain with
    | error error => exact askText_of_error _ replied ▸ .callback
    | ok reply => exact askText_of_ok _ replied ▸ .ok
  bind := .bind

theorem prompts_statesKnown (declared : interpreter.flow.declares session.state) :
    StatesKnown (interpreter.prompts session).result :=
  (interpreter.statesKnown_inquiry session.domain).prompts declared

theorem acceptedKeys_statesKnown (declared : interpreter.flow.declares session.state) :
    StatesKnown (interpreter.acceptedKeys session) := by
  obtain ⟨state, -, named⟩ := stateNamed_of_declares declared
  rw [acceptedKeys, named]
  exact .ok

theorem gather_statesKnown (declared : interpreter.flow.declares session.state) :
    StatesKnown (interpreter.gather session).result :=
  (interpreter.statesKnown_inquiry session.domain).gather declared

/-- After any operations a session is in a declared state and of the call it was opened
for. So neither the next operation nor an accessor fails on an unknown state. -/
theorem run_stays_in_flow (interpreter : Interpreter δ) (built : interpreter.flow.Built)
    (opening : Opening δ) (opened : interpreter.openSession opening = .ok session)
    (operations : List Operation) :
    let now := interpreter.run operations session
    interpreter.flow.declares now.state ∧ now.callId = opening.callId ∧
      (∀ operation, StatesKnown (interpreter.perform operation now).result) ∧
      StatesKnown (interpreter.prompts now).result ∧
      StatesKnown (interpreter.acceptedKeys now) ∧
      StatesKnown (interpreter.gather now).result := by
  intro now
  have ofCall : now.OfCall interpreter.flow opening.callId :=
    run_ofCall built operations (openSession_ofCall opened)
  exact ⟨ofCall.declared, ofCall.sameCall, fun operation => perform_statesKnown built operation ofCall,
    prompts_statesKnown ofCall.declared, acceptedKeys_statesKnown ofCall.declared,
    gather_statesKnown ofCall.declared⟩

end Interpreter

theorem ratingInterpreter_run_stays_in_flow :
    ratingInterpreter.flow.Built ∧
      ratingInterpreter.openSession (.resume "call-1" "hello" 0) = .ok ⟨"call-1", "hello", 0⟩ ∧
      ∀ now, now = ratingInterpreter.run
          [.tryRespond ⟨"9*"⟩, .respond ⟨"42#"⟩, .decide, .tryRespond ⟨"1"⟩]
          ⟨"call-1", "hello", 0⟩ →
        ratingFlow.declares now.state ∧ now.callId = "call-1" ∧
          StatesKnown (ratingInterpreter.perform .decide now).result := by
  refine ⟨ratingFlow_built, rfl, ?_⟩
  rintro now rfl
  have stays := ratingInterpreter.run_stays_in_flow ratingFlow_built
    (.resume "call-1" "hello" 0) rfl
    [.tryRespond ⟨"9*"⟩, .respond ⟨"42#"⟩, .decide, .tryRespond ⟨"1"⟩]
  exact ⟨stays.1, stays.2.1, stays.2.2.1 .decide⟩

end VoiceMenu
