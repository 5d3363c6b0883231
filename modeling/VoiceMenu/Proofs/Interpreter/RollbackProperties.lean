import VoiceMenu.Proofs.Interpreter.RunProperties

/-! What a failed response takes back. It is the state alone: whatever was done stays done, and
so do the changes of the domain. A run of responses rests only in states that a successful one
has ended in. -/

set_option autoImplicit false

namespace VoiceMenu

namespace Rules

variable {δ : Type} {flow : Flow} {resolver : Resolver δ} {limit : Nat} {session : Session δ}
  {report : Report δ String} {state : String}

theorem Cascades.state_eq_of_ok {used : Nat} {pending : List Decision}
    (cascades : Cascades flow resolver limit used pending session report)
    (ended : report.result = .ok state) : report.session.state = state := by
  induction cascades with
  | settled =>
      cases ended
      rfl
  | cut => cases ended
  | failure => cases ended
  | stays _ _ _ ih => exact ih ended
  | passes _ _ _ _ _ ih => exact ih ended
  | arrives _ evaluated =>
      cases ended
      exact evaluated.state_eq_of_some

theorem Decides.state_eq_of_ok (decides : Decides flow resolver limit session report)
    (ended : report.result = .ok state) : report.session.state = state := by
  cases decides with
  | cascade _ cascades => exact cascades.state_eq_of_ok ended

theorem Responds.state_eq_of_ok {digits : Digits}
    (responds : Responds flow resolver limit digits session report)
    (ended : report.result = .ok state) : report.session.state = state := by
  cases responds with
  | keyless => cases ended
  | lookupFailure => cases ended
  | unbound =>
      cases ended
      rfl
  | failure => cases ended
  | arrives =>
      cases ended
      rfl
  | decides _ _ _ _ _ _ decides => exact decides.state_eq_of_ok ended

end Rules

/-- The second report is of the same doings as the first, and keeps its session. But a failure
is no failure any more, and takes the state back to the one before. -/
structure Report.TakesBack {δ : Type} (before : Session δ) (tried responded : Report δ String) :
    Prop where
  same_log : responded.log = tried.log
  same_domain : responded.session.domain = tried.session.domain
  same_call : responded.session.callId = tried.session.callId
  of_ok : ∀ state, tried.result = .ok state →
    responded.result = .ok state ∧ responded.session.state = state ∧ tried.session.state = state
  of_error : ∀ error, tried.result = .error error →
    responded.result = .ok before.state ∧ responded.session.state = before.state

namespace Interpreter

variable {δ : Type}

/-- What trying to respond gives for each input of a run of responses. -/
def attempts (interpreter : Interpreter δ) :
    List Digits → Session δ → List (Except CycleError String)
  | [], _ => []
  | input :: rest, session =>
      (interpreter.tryRespond input session).result ::
        interpreter.attempts rest (interpreter.respond input session).session

variable {interpreter : Interpreter δ} {session : Session δ}

theorem respond_takesBack (built : interpreter.flow.Built) (input : Digits)
    (declared : interpreter.flow.declares session.state) :
    (interpreter.tryRespond input session).TakesBack session
      (interpreter.respond input session) := by
  have responds := interpreter.responds_tryRespond built input declared
  have sameLog := interpreter.respond_log input session
  rcases tried : interpreter.tryRespond input session with ⟨error | state, after, log⟩
  · rw [respond_of_error tried, tried] at sameLog
    rw [respond_of_error tried]
    exact ⟨sameLog, rfl, rfl, fun _ ended => (by cases ended), fun _ _ => ⟨rfl, rfl⟩⟩
  · rw [tried] at responds
    rw [respond_of_ok tried, tried] at sameLog
    rw [respond_of_ok tried]
    have rests : after.state = state := responds.state_eq_of_ok rfl
    refine ⟨sameLog, rfl, rfl, fun _ ended => ?_, fun _ failed => (by cases failed)⟩
    cases ended
    exact ⟨rfl, rests, rests⟩

theorem run_responses_state (built : interpreter.flow.Built)
    (declared : interpreter.flow.declares session.state) (inputs : List Digits) :
    (interpreter.run (inputs.map .respond) session).state =
      ((interpreter.attempts inputs session).filterMap Except.toOption).getLast?.getD
        session.state := by
  induction inputs generalizing session with
  | nil => rfl
  -- The state that the first response leaves stands until one of the others succeeds.
  | cons input rest ih =>
      have takesBack := respond_takesBack built input declared
      have declaredAfter := (respond_ofCall built input ⟨declared, rfl⟩).declared
      change (interpreter.run (rest.map .respond) (interpreter.respond input session).session).state
        = _
      rw [ih declaredAfter, attempts]
      cases tried : (interpreter.tryRespond input session).result with
      | error error =>
          rw [(takesBack.of_error error tried).2]
          rfl
      | ok state =>
          have reached : (Except.ok state : Except CycleError String).toOption = some state := rfl
          rw [(takesBack.of_ok state tried).2.1, List.filterMap_cons_some reached,
            List.getLast?_cons, Option.getD_some]

/-- A response does what trying to respond does, and a failure takes back the state alone. So
the state after any responses is the one that the last successful of them ended in; what the
failing ones went through is never seen. -/
theorem failed_response_takes_back_state_only (interpreter : Interpreter δ)
    (built : interpreter.flow.Built) (session : Session δ)
    (declared : interpreter.flow.declares session.state) :
    (∀ input, (interpreter.tryRespond input session).TakesBack session
      (interpreter.respond input session)) ∧
      ∀ inputs : List Digits, (interpreter.run (inputs.map .respond) session).state =
        ((interpreter.attempts inputs session).filterMap Except.toOption).getLast?.getD
          session.state :=
  ⟨fun input => respond_takesBack built input declared, run_responses_state built declared⟩

end Interpreter

/-- Callbacks of which one decider is out of service. -/
def undecidedLine : Resolver Nat where
  call name _ count := (count + 1,
    if name = "open?" then .error (.failed name "offline")
    else .ok (if name = "collect" then .null else .bool true))
  text _ _ := .ok (.integer 2)
  hasAction _ := false

theorem undecidedLine_takes_back_check :
    let interpreter := ratingInterpreter.withResolver undecidedLine
    interpreter.flow.Built ∧ interpreter.flow.declares "hello" ∧
      interpreter.tryRespond ⟨"42#"⟩ ⟨"call-1", "hello", 0⟩ =
        ⟨.error (.callback (.failed "open?" "offline")), ⟨"call-1", "check", 3⟩,
          [.asked "most",
            .evaluated "hello" ⟨"valid?", some "collect", some "check", none⟩ (some "42#"),
            .called "collect" (some "42#"), .called "valid?" (some "42#"),
            .evaluated "check" ⟨"open?", none, some "thanks", some "hello"⟩ none,
            .called "open?" none]⟩ ∧
      (interpreter.respond ⟨"42#"⟩ ⟨"call-1", "hello", 0⟩).result = .ok "hello" ∧
      (interpreter.respond ⟨"42#"⟩ ⟨"call-1", "hello", 0⟩).session.state = "hello" ∧
      (interpreter.respond ⟨"42#"⟩ ⟨"call-1", "hello", 0⟩).session.domain = 3 ∧
      (interpreter.run ([⟨"42#"⟩, ⟨"1"⟩, ⟨"42#"⟩].map .respond) ⟨"call-1", "hello", 0⟩).state =
        "thanks" := by
  intro interpreter
  obtain ⟨takesBack, states⟩ := interpreter.failed_response_takes_back_state_only ratingFlow_built
    ⟨"call-1", "hello", 0⟩ rfl
  have kept := takesBack ⟨"42#"⟩
  obtain ⟨answer, state⟩ := kept.of_error _ rfl
  exact ⟨ratingFlow_built, rfl, rfl, answer, state, kept.same_domain,
    states [⟨"42#"⟩, ⟨"1"⟩, ⟨"42#"⟩]⟩

end VoiceMenu
