import VoiceMenu.Proofs.Interpreter.ResponseProperties

/-! Which decisions are evaluated in which states. A cascade is a sequence of visits: in each
state its decisions are evaluated in the order of their declaration, up to the first that moves
the call. The cascade ends in the first state with prompts that it enters, and in a silent
state only after every decision of that state. -/

set_option autoImplicit false

namespace VoiceMenu

/-- The decisions that were evaluated, with the states that the call was in and the digits. -/
def Log.evaluations (log : Log) : List (String × Decision × Option String) :=
  log.filterMap fun
    | .evaluated state decision digits => some (state, decision, digits)
    | .called _ _ | .asked _ => none

/-- A decision that was evaluated by itself, between two states of the call. It has moved the
call if they differ. -/
structure Evaluation where
  before : String
  decision : Decision
  after : String
  deriving DecidableEq, Repr

namespace Evaluation

def Moved (evaluation : Evaluation) : Prop := evaluation.after ≠ evaluation.before

def unmoved (state : String) (decision : Decision) : Evaluation := ⟨state, decision, state⟩

def told (evaluation : Evaluation) : String × Decision × Option String :=
  (evaluation.before, evaluation.decision, none)

end Evaluation

/-- The evaluations end with those of one visit, in which the decisions were evaluated in a
state without moving the call. The visit is the one that began in `first` after the decisions
`done`, or the last evaluation before it has moved the call to the state. -/
inductive Visit (first : String) (done : List Decision) :
    String → List Decision → List Evaluation → Prop where
  | inFirst {more : List Decision} :
      Visit first done first (done ++ more) (more.map (Evaluation.unmoved first))
  | entered {earlier : List Evaluation} {entering : Evaluation} {decisions : List Decision} :
      entering.Moved →
      Visit first done entering.after decisions
        (earlier ++ entering :: decisions.map (Evaluation.unmoved entering.after))

/-- How a cascade comes to rest that began in `first` after the decisions `done`. -/
structure Settles {δ : Type} (flow : Flow) (first : String) (done : List Decision)
    (evaluations : List Evaluation) (report : Report δ String) : Prop where
  /-- A visit that a decision ended has evaluated the decisions declared before that one. -/
  leaves : ∀ {earlier evaluation later}, evaluations = earlier ++ evaluation :: later →
    evaluation.Moved → ∃ state declared rest,
      flow.state? evaluation.before = some state ∧
      state.decisions = declared ++ evaluation.decision :: rest ∧
      Visit first done evaluation.before declared earlier
  /-- Nothing is evaluated after the call has moved to a state with prompts. -/
  stops : ∀ {earlier evaluation later state}, evaluations = earlier ++ evaluation :: later →
    evaluation.Moved → flow.state? evaluation.after = some state → state.prompts ≠ [] →
      later = [] ∧ report.result = .ok evaluation.after
  /-- A silent state is left to its caller only after all its decisions. -/
  rests : ∀ {name state}, report.result = .ok name →
    flow.state? report.session.state = some state → state.prompts = [] →
      Visit first done report.session.state state.decisions evaluations

namespace Visit

variable {first : String} {done : List Decision}

theorem begun : Visit first done first done [] := by
  have visit := @inFirst first done []
  rw [List.append_nil] at visit
  exact visit

theorem afterUnmoved {decision : Decision} {state : String} {decisions : List Decision}
    {evaluations : List Evaluation}
    (visit : Visit first (done ++ [decision]) state decisions evaluations) :
    Visit first done state decisions (.unmoved first decision :: evaluations) := by
  cases visit with
  | @inFirst more =>
      rw [List.append_assoc]
      exact @Visit.inFirst first done (decision :: more)
  | @entered earlier entering decisions moved =>
      exact @Visit.entered first done (.unmoved first decision :: earlier) entering decisions moved

theorem afterMoved {entering : Evaluation} (moved : entering.Moved) {state : String}
    {decisions : List Decision} {evaluations : List Evaluation}
    (visit : Visit entering.after [] state decisions evaluations) :
    Visit first done state decisions (entering :: evaluations) := by
  cases visit with
  | @inFirst more => exact @Visit.entered first done [] entering more moved
  | @entered earlier later decisions movedLater =>
      exact @Visit.entered first done (entering :: earlier) later decisions movedLater

end Visit

/-! ## How a cascade comes to rest -/

namespace Settles

variable {δ : Type} {flow : Flow} {current : State} {done rest : List Decision}
  {decision : Decision} {evaluations : List Evaluation} {report : Report δ String}

theorem nothing (resting : ∀ {name state}, report.result = .ok name →
      flow.state? report.session.state = some state → state.prompts = [] →
      report.session.state = current.name ∧ state.decisions = done) :
    Settles flow current.name done [] report := by
  refine ⟨fun split => by simp at split, fun split => by simp at split, ?_⟩
  intro name state succeeded found silent
  obtain ⟨same, all⟩ := resting succeeded found silent
  rw [same, all]
  exact .begun

theorem speaking {after : Session δ} {log : Log} {target : String} {entered : State}
    (enters : flow.state? target = some entered) (speaks : entered.prompts ≠ [])
    (reached : after.state = target) :
    Settles flow target [] [] (⟨.ok target, after, log⟩ : Report δ String) := by
  rw [← Flow.name_of_state? enters]
  apply nothing
  intro name state _ found silent
  change flow.state? after.state = some state at found
  rw [reached] at found
  cases enters.symm.trans found
  exact absurd silent speaks

/-- One evaluation more at the front. The visits behind it go on as `extend` says. -/
theorem cons {first next : String} {doneNext : List Decision} {evaluation : Evaluation}
    (extend : ∀ {state decisions evaluations}, Visit next doneNext state decisions evaluations →
      Visit first done state decisions (evaluation :: evaluations))
    (leaving : evaluation.Moved → ∃ state declared rest,
      flow.state? evaluation.before = some state ∧
      state.decisions = declared ++ evaluation.decision :: rest ∧
      Visit first done evaluation.before declared [])
    (stopping : evaluation.Moved → ∀ {state}, flow.state? evaluation.after = some state →
      state.prompts ≠ [] → evaluations = [] ∧ report.result = .ok evaluation.after)
    (settles : Settles flow next doneNext evaluations report) (log : Log) :
    Settles flow first done (evaluation :: evaluations) (report.behind log) := by
  refine ⟨?_, ?_, fun succeeded found silent => extend (settles.rests succeeded found silent)⟩
  · intro earlier last later split moved
    rcases List.cons_eq_append_iff.mp split with ⟨rfl, here⟩ | ⟨front, rfl, behind⟩
    · cases here
      exact leaving moved
    · obtain ⟨state, declared, rest, found, decisions, visit⟩ := settles.leaves behind moved
      exact ⟨state, declared, rest, found, decisions, extend visit⟩
  · intro earlier last later state split moved
    rcases List.cons_eq_append_iff.mp split with ⟨-, here⟩ | ⟨front, rfl, behind⟩
    · cases here
      exact stopping moved
    · exact settles.stops behind moved

theorem unmoved (settles : Settles flow current.name (done ++ [decision]) evaluations report)
    (log : Log) :
    Settles flow current.name done (.unmoved current.name decision :: evaluations)
      (report.behind log) :=
  settles.cons Visit.afterUnmoved (fun moved => absurd rfl moved) (fun moved => absurd rfl moved) log

theorem moved (found : flow.state? current.name = some current)
    (declared : current.decisions = done ++ decision :: rest) {target : String}
    (different : target ≠ current.name)
    (stopping : ∀ {state}, flow.state? target = some state → state.prompts ≠ [] →
      evaluations = [] ∧ report.result = .ok target)
    (settles : Settles flow target [] evaluations report) (log : Log) :
    Settles flow current.name done (⟨current.name, decision, target⟩ :: evaluations)
      (report.behind log) := by
  have moved : Evaluation.Moved ⟨current.name, decision, target⟩ := different
  apply settles.cons
  · exact Visit.afterMoved moved
  · intro _
    exact ⟨current, done, rest, found, declared, .begun⟩
  · intro _
    exact stopping

end Settles

namespace Rules

variable {δ : Type} {flow : Flow} {resolver : Resolver δ} {decision : Decision}
  {digits : Option String} {session after : Session δ} {log : Log}

theorem Evaluates.state_eq_of_error {error : CycleError}
    (evaluated : Evaluates resolver decision digits session ⟨.error error, after, log⟩) :
    after.state = session.state := by
  cases evaluated with
  | unanswered answered => exact answered.keeps.1
  | unrecognized answered _ => exact answered.keeps.1

theorem Evaluates.state_eq_of_none
    (evaluated : Evaluates resolver decision digits session ⟨.ok none, after, log⟩) :
    after.state = session.state := by
  cases evaluated with
  | noTarget answered _ _ => exact answered.keeps.1
  | sameState answered _ _ => exact answered.keeps.1

theorem Evaluates.state_ne_of_some {target : String}
    (evaluated : Evaluates resolver decision digits session ⟨.ok (some target), after, log⟩) :
    after.state ≠ session.state := by
  cases evaluated with
  | moves _ _ _ different => exact different

theorem Answered.evaluations_eq {report : Report δ Json}
    (answered : Answered resolver decision digits session report) :
    report.log.evaluations = [] := by
  cases answered <;> rfl

theorem Evaluates.evaluations_eq {report : Report δ (Option String)}
    (evaluated : Evaluates resolver decision digits session report) :
    report.log.evaluations = [(session.state, decision, digits)] := by
  have told : ∀ {calls : Log}, calls.evaluations = [] →
      Log.evaluations (.evaluated session.state decision digits :: calls) =
        [(session.state, decision, digits)] := by
    intro calls none
    rw [Log.evaluations, List.filterMap_cons]
    exact congrArg _ none
  cases evaluated with
  | unanswered answered => exact told answered.evaluations_eq
  | unrecognized answered _ => exact told answered.evaluations_eq
  | noTarget answered _ _ => exact told answered.evaluations_eq
  | sameState answered _ _ => exact told answered.evaluations_eq
  | moves answered _ _ _ => exact told answered.evaluations_eq

end Rules

namespace Interpreter

open Rules

variable {δ : Type}

/-- The decisions are evaluated one after the other, each on the session that the one before
it left. -/
inductive TakesInTurn (interpreter : Interpreter δ) :
    Session δ → List Evaluation → Log → Session δ → Prop where
  | nothing {session : Session δ} : TakesInTurn interpreter session [] [] session
  | next {session after last : Session δ} {decision : Decision}
      {result : Except CycleError (Option String)} {evaluations : List Evaluation}
      {log later : Log} :
      interpreter.evaluate decision none session = ⟨result, after, log⟩ →
      TakesInTurn interpreter after evaluations later last →
      TakesInTurn interpreter session (⟨session.state, decision, after.state⟩ :: evaluations)
        (log ++ later) last

/-- What the interpreter does by itself from the session on is evaluating these decisions. -/
structure Unattended (interpreter : Interpreter δ) (start : Session δ)
    (evaluations : List Evaluation) (report : Report δ String) : Prop where
  taken : interpreter.TakesInTurn start evaluations report.log report.session
  told : report.log.evaluations = evaluations.map Evaluation.told
  settles : Settles interpreter.flow start.state [] evaluations report

variable {interpreter : Interpreter δ}

theorem TakesInTurn.evaluations_eq {session last : Session δ} {evaluations : List Evaluation}
    {log : Log} (takes : interpreter.TakesInTurn session evaluations log last) :
    log.evaluations = evaluations.map Evaluation.told := by
  induction takes with
  | nothing => rfl
  | @next session after last decision result evaluations log later evaluated _ ih =>
      obtain ⟨report, follows⟩ := exists_evaluates interpreter.resolver decision none session
      have same := evaluated.symm.trans (interpreter.evaluate_eq_of_evaluates follows)
      have told := follows.evaluations_eq
      rw [← same] at told
      rw [Log.evaluations, List.filterMap_append]
      change log.evaluations ++ later.evaluations = _
      rw [told, ih]
      rfl

theorem settles_of_cascades {limit used : Nat} {pending : List Decision} {session : Session δ}
    {report : Report δ String}
    (cascades : Cascades interpreter.flow interpreter.resolver limit used pending session report)
    {current : State} {done : List Decision}
    (found : interpreter.flow.state? session.state = some current)
    (declared : current.decisions = done ++ pending) :
    ∃ evaluations, interpreter.TakesInTurn session evaluations report.log report.session ∧
      Settles interpreter.flow current.name done evaluations report := by
  -- The decisions of the current state are those done and those pending, in this order.
  induction cascades generalizing current done with
  | settled =>
      refine ⟨[], .nothing, .nothing ?_⟩
      intro name state _ foundToo _
      cases found.symm.trans foundToo
      exact ⟨(Flow.name_of_state? found).symm, by simpa using declared⟩
  | cut => exact ⟨[], .nothing, .nothing fun failed => by cases failed⟩
  | @failure used decision rest session after error log _ evaluated =>
      have named := Flow.name_of_state? found
      have takes := TakesInTurn.next (interpreter.evaluate_eq_of_evaluates evaluated) .nothing
      have ended : Settles interpreter.flow current.name (done ++ [decision]) []
          (⟨.error error, after, []⟩ : Report δ String) := .nothing fun failed => by cases failed
      have settles := ended.unmoved log
      rw [evaluated.state_eq_of_error, ← named] at takes
      simp only [List.append_nil, Report.behind_mk] at takes settles
      exact ⟨_, takes, settles⟩
  | @stays used decision rest session after log report _ evaluated _ ih =>
      have named := Flow.name_of_state? found
      have same := evaluated.state_eq_of_none
      have further : current.decisions = (done ++ [decision]) ++ rest := by simpa using declared
      rw [← same] at found
      obtain ⟨evaluations, takes, settles⟩ := ih found further
      have takes := TakesInTurn.next (interpreter.evaluate_eq_of_evaluates evaluated) takes
      rw [same, ← named] at takes
      exact ⟨_, takes, settles.unmoved log⟩
  | @passes used decision rest session after log target entered report _ evaluated enters silent _
      ih =>
      have named := Flow.name_of_state? found
      have reached := evaluated.state_eq_of_some
      have different := evaluated.state_ne_of_some
      have entersAfter := enters
      rw [← reached] at entersAfter
      have all : entered.decisions = [] ++ entered.decisions := rfl
      obtain ⟨evaluations, takes, settles⟩ := ih entersAfter all
      have takes := TakesInTurn.next (interpreter.evaluate_eq_of_evaluates evaluated) takes
      rw [← named, reached] at different takes
      rw [← named] at found
      rw [Flow.name_of_state? enters] at settles
      refine ⟨_, takes, settles.moved found declared different ?_ log⟩
      -- The state entered is silent, so nothing has to stop there.
      intro state foundToo speaks
      cases enters.symm.trans foundToo
      exact absurd silent speaks
  | @arrives used decision rest session after log target entered _ evaluated enters speaks =>
      have named := Flow.name_of_state? found
      have reached := evaluated.state_eq_of_some
      have different := evaluated.state_ne_of_some
      have takes := TakesInTurn.next (interpreter.evaluate_eq_of_evaluates evaluated) .nothing
      rw [← named, reached] at different takes
      rw [← named] at found
      have settles : Settles interpreter.flow target [] []
          (⟨.ok target, after, []⟩ : Report δ String) := .speaking enters speaks reached
      have moved := settles.moved found declared different (fun _ _ => ⟨rfl, rfl⟩) log
      simp only [List.append_nil, Report.behind_mk] at takes moved
      exact ⟨_, takes, moved⟩

theorem exists_unattended_decide (interpreter : Interpreter δ) (built : interpreter.flow.Built)
    {session : Session δ} (declared : interpreter.flow.declares session.state) :
    ∃ evaluations, interpreter.Unattended session evaluations (interpreter.decide session) := by
  cases interpreter.decides_decide built declared with
  | @cascade current _ found cascades =>
      have all : current.decisions = [] ++ current.decisions := rfl
      obtain ⟨evaluations, takes, settles⟩ := settles_of_cascades cascades found all
      rw [Flow.name_of_state? found] at settles
      exact ⟨evaluations, takes, takes.evaluations_eq, settles⟩

/-- What a response to a key of the state does after the key's transition has been followed:
nothing where that led to another state with prompts, and a decision by itself otherwise. -/
theorem exists_unattended_after (interpreter : Interpreter δ) (built : interpreter.flow.Built)
    {session after : Session δ} {digits : Digits} {current : State} {binding : KeyBinding}
    {looked log : Log}
    (found : interpreter.flow.state? session.state = some current)
    (resolved :
      interpreter.resolveKey current digits session.domain = ⟨.ok (some binding), looked⟩)
    (followed :
      interpreter.follow binding.transition digits.text session = ⟨.ok (), after, log⟩) :
    ∃ evaluations rest, interpreter.tryRespond digits session = rest.behind (looked ++ log) ∧
      interpreter.Unattended after evaluations rest ∧
      (after.state ≠ session.state → ∀ {entered},
        interpreter.flow.state? after.state = some entered → entered.prompts ≠ [] →
          evaluations = []) := by
  have member := Flow.mem_of_state? found
  have bound : binding ∈ current.keys := by
    apply interpreter.mem_of_resolveKey
    rw [resolved]
  obtain ⟨report, follows⟩ :=
    exists_follows interpreter.resolver digits.text session binding.transition
  obtain rfl := followed.symm.trans (interpreter.follow_eq_of_follows follows)
  have stays : after.OfCall interpreter.flow session.callId :=
    follows.ofCall (leads_of_built built member bound) ⟨Flow.declares_of_state? found, rfl⟩
  obtain ⟨entered, enters⟩ := Flow.state?_of_declares stays.declared
  have responds := interpreter.tryRespond_bound found (List.ne_nil_of_mem bound) resolved
  rw [Cycle.bind_of_ok followed, Cycle.bind_of_ok (interpreter.current_eq enters)] at responds
  -- The response ends here only in a state with prompts that is not the one it began in.
  have goesOn : (Decidable.decide (entered.name = current.name) || entered.isSilent) = true ↔
      ¬ (after.state ≠ session.state ∧ entered.prompts ≠ []) := by
    rw [← Flow.name_of_state? found, ← Flow.name_of_state? enters, State.isSilent, Bool.or_eq_true,
      decide_eq_true_iff, List.isEmpty_iff, Classical.not_and_iff_not_or_not, Classical.not_not,
      Classical.not_not]
  by_cases arrives : after.state ≠ session.state ∧ entered.prompts ≠ []
  · rw [if_neg fun goes => goesOn.mp goes arrives] at responds
    refine ⟨[], ⟨.ok after.state, after, []⟩, ?_, ?_, fun _ _ _ _ => rfl⟩
    · rw [responds]
      simp
    · exact ⟨.nothing, rfl, .speaking enters arrives.2 rfl⟩
  · rw [if_pos (goesOn.mpr arrives)] at responds
    obtain ⟨evaluations, unattended⟩ := interpreter.exists_unattended_decide built stays.declared
    refine ⟨evaluations, interpreter.decide after, ?_, unattended, ?_⟩
    · rw [responds]
      simp [Report.behind]
    · intro different state entersToo speaks
      cases enters.symm.trans entersToo
      exact absurd ⟨different, speaks⟩ arrives

/-- No caller is left in a silent state with a decision still to follow. What the interpreter
evaluates by itself, when it decides or after it has followed a key's transition, comes to rest
in a silent state only after all decisions of that state. A response fails if the transition
does. Where the key has led to another state with prompts, nothing more is evaluated. -/
theorem silent_states_decide_before_resting (interpreter : Interpreter δ)
    (built : interpreter.flow.Built) (session : Session δ)
    (declared : interpreter.flow.declares session.state) :
    (∃ evaluations, interpreter.Unattended session evaluations (interpreter.decide session)) ∧
      ∀ digits current binding looked,
        interpreter.flow.state? session.state = some current →
        interpreter.resolveKey current digits session.domain = ⟨.ok (some binding), looked⟩ →
        (∀ error after log,
          interpreter.follow binding.transition digits.text session = ⟨.error error, after, log⟩ →
          interpreter.tryRespond digits session = ⟨.error error, after, looked ++ log⟩) ∧
        ∀ after log,
          interpreter.follow binding.transition digits.text session = ⟨.ok (), after, log⟩ →
          ∃ evaluations rest,
            interpreter.tryRespond digits session = rest.behind (looked ++ log) ∧
            interpreter.Unattended after evaluations rest ∧
            (after.state ≠ session.state → ∀ entered,
              interpreter.flow.state? after.state = some entered → entered.prompts ≠ [] →
                evaluations = []) := by
  refine ⟨interpreter.exists_unattended_decide built declared, ?_⟩
  intro digits current binding looked found resolved
  constructor
  · intro error after log failed
    have bound : binding ∈ current.keys := by
      apply interpreter.mem_of_resolveKey
      rw [resolved]
    rw [interpreter.tryRespond_bound found (List.ne_nil_of_mem bound) resolved,
      Cycle.bind_of_error failed]
    rfl
  · intro after log followed
    exact interpreter.exists_unattended_after built found resolved followed

end Interpreter

/-- The key leads to the silent state, which is left again by its only decision. -/
theorem ratingInterpreter_leaves_silent_check :
    ratingInterpreter.flow.Built ∧ ratingInterpreter.flow.declares "hello" ∧
      ∃ evaluations rest,
        ratingInterpreter.tryRespond ⟨"42#"⟩ ⟨"call-1", "hello", 0⟩ =
          rest.behind [.asked "most",
            .evaluated "hello" ⟨"valid?", some "collect", some "check", none⟩ (some "42#"),
            .called "collect" (some "42#"), .called "valid?" (some "42#")] ∧
        ratingInterpreter.Unattended ⟨"call-1", "check", 2⟩ evaluations rest :=
  have responds := (ratingInterpreter.silent_states_decide_before_resting ratingFlow_built
    ⟨"call-1", "hello", 0⟩ rfl).2
  have ⟨evaluations, rest, response, unattended, _⟩ :=
    (responds ⟨"42#"⟩ _ _ _ rfl rfl).2 ⟨"call-1", "check", 2⟩ _ rfl
  ⟨ratingFlow_built, rfl, evaluations, rest, response, unattended⟩

end VoiceMenu
