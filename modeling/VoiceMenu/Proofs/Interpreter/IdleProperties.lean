import VoiceMenu.Proofs.Interpreter.DigitsProperties

/-! Input that nothing responds to. It changes neither state nor domain, and has no more done
for it than limits asked for; so a run goes on as if it had not been there. -/

set_option autoImplicit false

namespace VoiceMenu

def Operation.input? : Operation → Option Digits
  | .respond input | .tryRespond input => some input
  | .decide => none

/-- One step of a run: an operation of its own, or one that is put in between. -/
inductive Step where
  | own (operation : Operation)
  | between (operation : Operation)
  deriving DecidableEq, Repr

def Step.operation : Step → Operation
  | .own operation | .between operation => operation

def Step.own? : Step → Option Operation
  | .own operation => some operation
  | .between _ => none

/-- Nothing changed, and nothing but limits of the state was asked for. -/
structure Report.Idles {δ : Type} (state : State) (before : Session δ)
    (report : Report δ String) : Prop where
  same_session : report.session = before
  asks_limits : report.log.AsksLimits state.keys

namespace Interpreter

open Rules

variable {δ : Type}

/-! ## Idle input -/

/-- Nothing responds to the input: there are no keys, or no input, or no key is bound to it, or
a limit that it is compared with is not to be had. -/
inductive Idle (interpreter : Interpreter δ) (session : Session δ) (input : Digits) : Prop where
  | keyless {state : State} :
      interpreter.flow.state? session.state = some state → state.keys = [] →
      Idle interpreter session input
  | noInput : input.isEmpty = true → Idle interpreter session input
  | unbound {state : State} {log : Log} :
      interpreter.flow.state? session.state = some state →
      interpreter.resolveKey state input session.domain = ⟨.ok none, log⟩ →
      Idle interpreter session input
  | noLimit {state : State} {error : CycleError} {log : Log} :
      interpreter.flow.state? session.state = some state →
      interpreter.resolveKey state input session.domain = ⟨.error error, log⟩ →
      Idle interpreter session input

variable {interpreter : Interpreter δ} {session : Session δ} {input : Digits}

theorem idle_iff {state : State} (found : interpreter.flow.state? session.state = some state) :
    interpreter.Idle session input ↔
      ∀ binding, (interpreter.resolveKey state input session.domain).result ≠
        .ok (some binding) := by
  constructor
  · intro idle binding bound
    cases idle with
    | keyless here noKeys =>
        cases found.symm.trans here
        have member := interpreter.mem_of_resolveKey bound
        rw [noKeys] at member
        cases member
    | noInput empty =>
        rw [resolveKey, if_pos empty] at bound
        cases bound
    | unbound here resolved =>
        cases found.symm.trans here
        rw [resolved] at bound
        cases bound
    | noLimit here resolved =>
        cases found.symm.trans here
        rw [resolved] at bound
        cases bound
  · intro unbound
    rcases resolved : interpreter.resolveKey state input session.domain with
      ⟨error | _ | binding, log⟩
    · exact .noLimit found resolved
    · exact .unbound found resolved
    · exact absurd (congrArg Query.result resolved) (unbound binding)

theorem tryRespond_of_idle (built : interpreter.flow.Built) {state : State}
    (found : interpreter.flow.state? session.state = some state)
    (idle : interpreter.Idle session input) :
    (interpreter.tryRespond input session).Idles state session := by
  have unbound := (idle_iff found).mp idle
  have bound {binding : KeyBinding} {log : Log}
      (resolves : Resolves interpreter.resolver session.domain input state.keys
        ⟨.ok (some binding), log⟩) : False := by
    have wellFormed : ∀ bound ∈ state.keys, bound.pattern.WellFormed :=
      fun _ bound => built.pattern_wellFormed (Flow.mem_of_state? found) bound
    have resolved := interpreter.resolveKey_eq_of_resolves wellFormed resolves
    exact unbound binding (congrArg Query.result resolved)
  have responds := interpreter.responds_tryRespond built input (Flow.declares_of_state? found)
  generalize interpreter.tryRespond input session = report at responds
  cases responds with
  | keyless => exact ⟨rfl, .nil⟩
  | lookupFailure here _ resolves =>
      cases found.symm.trans here
      exact ⟨rfl, resolves.asksLimits⟩
  | unbound here _ resolves =>
      cases found.symm.trans here
      exact ⟨rfl, resolves.asksLimits⟩
  | failure here _ resolves =>
      cases found.symm.trans here
      exact (bound resolves).elim
  | arrives here _ resolves =>
      cases found.symm.trans here
      exact (bound resolves).elim
  | decides here _ resolves =>
      cases found.symm.trans here
      exact (bound resolves).elim

theorem respond_of_idle (built : interpreter.flow.Built) {state : State}
    (found : interpreter.flow.state? session.state = some state)
    (idle : interpreter.Idle session input) :
    (interpreter.respond input session).Idles state session := by
  obtain ⟨kept, asks⟩ := tryRespond_of_idle built found idle
  refine ⟨?_, (interpreter.respond_log input session).symm ▸ asks⟩
  rcases tried : interpreter.tryRespond input session with ⟨error | state, changed, log⟩
  · rw [tried] at kept
    cases kept
    rw [respond_of_error tried]
  · rw [tried] at kept
    rw [respond_of_ok tried]
    exact kept

/-! ## Runs with idle input in between -/

/-- The reports of a run's own operations, when all the steps are taken. -/
def ownReports (interpreter : Interpreter δ) : List Step → Session δ → List (Report δ String)
  | [], _ => []
  | .own operation :: rest, session =>
      let report := interpreter.perform operation session
      report :: interpreter.ownReports rest report.session
  | .between operation :: rest, session =>
      interpreter.ownReports rest (interpreter.perform operation session).session

/-- Whatever is put in between is input, and idle where it comes. -/
inductive IdleBetween (interpreter : Interpreter δ) : Session δ → List Step → Prop where
  | nil {session : Session δ} : IdleBetween interpreter session []
  | own {operation : Operation} {rest : List Step} {session : Session δ} :
      IdleBetween interpreter (interpreter.perform operation session).session rest →
      IdleBetween interpreter session (.own operation :: rest)
  | between {operation : Operation} {input : Digits} {rest : List Step} {session : Session δ} :
      operation.input? = some input → interpreter.Idle session input →
      IdleBetween interpreter (interpreter.perform operation session).session rest →
      IdleBetween interpreter session (.between operation :: rest)

theorem perform_of_idle (built : interpreter.flow.Built)
    (declared : interpreter.flow.declares session.state) {operation : Operation}
    (takes : operation.input? = some input) (idle : interpreter.Idle session input) :
    (interpreter.perform operation session).session = session := by
  obtain ⟨state, found⟩ := Flow.state?_of_declares declared
  cases operation with
  | respond digits =>
      cases takes
      exact (respond_of_idle built found idle).same_session
  | tryRespond digits =>
      cases takes
      exact (tryRespond_of_idle built found idle).same_session
  | decide => cases takes

theorem ownReports_of_idleBetween (built : interpreter.flow.Built) {steps : List Step}
    (declared : interpreter.flow.declares session.state)
    (idle : interpreter.IdleBetween session steps) :
    interpreter.ownReports steps session =
        interpreter.reports (steps.filterMap Step.own?) session ∧
      interpreter.run (steps.map Step.operation) session =
        interpreter.run (steps.filterMap Step.own?) session := by
  induction idle with
  | nil => exact ⟨rfl, rfl⟩
  | @own operation rest session _ ih =>
      have stays := perform_ofCall built operation ⟨declared, rfl⟩
      obtain ⟨sameReports, sameSession⟩ := ih stays.declared
      exact ⟨congrArg (interpreter.perform operation session :: ·) sameReports, sameSession⟩
  | @between operation input rest session takes idleHere _ ih =>
      have kept := perform_of_idle built declared takes idleHere
      rw [kept] at ih
      obtain ⟨sameReports, sameSession⟩ := ih declared
      constructor
      · rw [ownReports, kept]
        exact sameReports
      · change interpreter.run (rest.map Step.operation)
          (interpreter.perform operation session).session = _
        rw [kept]
        exact sameSession

/-- Idle input is just what no key is bound to. Nothing is done for it but to ask for limits,
and nothing changes; so a run with any amount of it put in between gives the reports that it
gives without, and ends in the same session. -/
theorem idle_input_changes_nothing (interpreter : Interpreter δ) (built : interpreter.flow.Built)
    (session : Session δ) (declared : interpreter.flow.declares session.state) :
    (∀ input, ∃ state, interpreter.flow.state? session.state = some state ∧
      (interpreter.Idle session input ↔ ∀ binding,
        (interpreter.resolveKey state input session.domain).result ≠ .ok (some binding)) ∧
      (interpreter.Idle session input →
        (interpreter.tryRespond input session).Idles state session ∧
          (interpreter.respond input session).Idles state session)) ∧
      ∀ steps, interpreter.IdleBetween session steps →
        interpreter.ownReports steps session =
            interpreter.reports (steps.filterMap Step.own?) session ∧
          interpreter.run (steps.map Step.operation) session =
            interpreter.run (steps.filterMap Step.own?) session := by
  obtain ⟨state, found⟩ := Flow.state?_of_declares declared
  refine ⟨fun input => ⟨state, found, idle_iff found, fun idle => ⟨?_, ?_⟩⟩, fun steps idle => ?_⟩
  · exact tryRespond_of_idle built found idle
  · exact respond_of_idle built found idle
  · exact ownReports_of_idleBetween built declared idle

end Interpreter

/-- A rating with input around it that is too long, blank, or comes too late. -/
def distractedRating : List Step :=
  [.between (.respond (.ofText "123")), .between (.tryRespond (.ofText " \n")),
    .own (.tryRespond (.ofText "42#")), .between (.respond (.ofText "1")), .own .decide]

theorem ratingInterpreter_is_not_distracted :
    ratingInterpreter.flow.Built ∧ ratingInterpreter.flow.declares "hello" ∧
      ratingInterpreter.IdleBetween ⟨"call-1", "hello", 0⟩ distractedRating ∧
      ratingInterpreter.ownReports distractedRating ⟨"call-1", "hello", 0⟩ =
        ratingInterpreter.reports [.tryRespond (.ofText "42#"), .decide]
          ⟨"call-1", "hello", 0⟩ ∧
      ratingInterpreter.respond (.ofText "123") ⟨"call-1", "hello", 0⟩ =
        ⟨.ok "hello", ⟨"call-1", "hello", 0⟩, [.asked "most"]⟩ := by
  have idle : ratingInterpreter.IdleBetween ⟨"call-1", "hello", 0⟩ distractedRating :=
    .between rfl (.unbound rfl rfl) (.between rfl (.noInput rfl)
      (.own (.between rfl (.keyless rfl rfl) (.own .nil))))
  obtain ⟨-, distraction⟩ := ratingInterpreter.idle_input_changes_nothing ratingFlow_built
    ⟨"call-1", "hello", 0⟩ rfl
  exact ⟨ratingFlow_built, rfl, idle, (distraction distractedRating idle).1, rfl⟩

end VoiceMenu
