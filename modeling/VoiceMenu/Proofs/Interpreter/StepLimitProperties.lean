import VoiceMenu.Proofs.Interpreter.ResponseProperties

/-! A step limit cuts a cascade short and does nothing else. The cascade without a limit
is stepped through decision by decision; it ends after a number of evaluations or never
does. Under a limit it is reported whole if it ends within the limit, and otherwise as far
as the limit lets it go. -/

set_option autoImplicit false

namespace VoiceMenu

def Activity.isEvaluation : Activity → Bool
  | .evaluated _ _ _ => true
  | .called _ _ | .asked _ => false

def Activity.isCallback : Activity → Bool
  | .called _ _ | .asked _ => true
  | .evaluated _ _ _ => false

/-- The log is one of so many evaluations, each with at most two callbacks. -/
structure Log.Counts (log : Log) (evaluations : Nat) : Prop where
  evaluated : log.countP Activity.isEvaluation = evaluations
  called : log.countP Activity.isCallback ≤ 2 * evaluations

theorem Log.Counts.append {first later : Log} {evaluations more : Nat}
    (counts : first.Counts evaluations) (countsLater : later.Counts more) :
    Log.Counts (first ++ later) (evaluations + more) := by
  obtain ⟨evaluated, called⟩ := counts
  obtain ⟨evaluatedLater, calledLater⟩ := countsLater
  constructor
  · rw [List.countP_append, evaluated, evaluatedLater]
  · rw [List.countP_append]
    omega

namespace Rules

variable {δ : Type} {flow : Flow} {resolver : Resolver δ}

/-! ## Cascades without a limit -/

/-- Where a cascade stands between two evaluations. -/
structure Standing (δ : Type) where
  pending : List Decision
  session : Session δ

/-- The next decision is evaluated, and the cascade may go on. -/
inductive GoesOn (flow : Flow) (resolver : Resolver δ) : Standing δ → Log → Standing δ → Prop where
  | stays {decision : Decision} {rest : List Decision} {session after : Session δ} {log : Log} :
      Evaluates resolver decision none session ⟨.ok none, after, log⟩ →
      GoesOn flow resolver ⟨decision :: rest, session⟩ log ⟨rest, after⟩
  | passes {decision : Decision} {rest : List Decision} {session after : Session δ} {log : Log}
      {target : String} {entered : State} :
      Evaluates resolver decision none session ⟨.ok (some target), after, log⟩ →
      flow.state? target = some entered → entered.prompts = [] →
      GoesOn flow resolver ⟨decision :: rest, session⟩ log ⟨entered.decisions, after⟩

/-- The next decision is evaluated, and the cascade is over. -/
inductive Stops (flow : Flow) (resolver : Resolver δ) : Standing δ → Report δ String → Prop where
  | failure {decision : Decision} {rest : List Decision} {session after : Session δ}
      {error : CycleError} {log : Log} :
      Evaluates resolver decision none session ⟨.error error, after, log⟩ →
      Stops flow resolver ⟨decision :: rest, session⟩ ⟨.error error, after, log⟩
  | arrives {decision : Decision} {rest : List Decision} {session after : Session δ} {log : Log}
      {target : String} {entered : State} :
      Evaluates resolver decision none session ⟨.ok (some target), after, log⟩ →
      flow.state? target = some entered → entered.prompts ≠ [] →
      Stops flow resolver ⟨decision :: rest, session⟩ ⟨.ok target, after, log⟩

/-- What a number of evaluations has led to, none of which ended the cascade. -/
inductive Unfolds (flow : Flow) (resolver : Resolver δ) :
    Nat → Standing δ → Log → Standing δ → Prop where
  | nothing {standing : Standing δ} : Unfolds flow resolver 0 standing [] standing
  | next {count : Nat} {first middle last : Standing δ} {log later : Log} :
      GoesOn flow resolver first log middle → Unfolds flow resolver count middle later last →
      Unfolds flow resolver (count + 1) first (log ++ later) last

/-- The cascade ends with this report after so many evaluations. -/
inductive Ends (flow : Flow) (resolver : Resolver δ) :
    Nat → Standing δ → Report δ String → Prop where
  | settled {session : Session δ} :
      Ends flow resolver 0 ⟨[], session⟩ ⟨.ok session.state, session, []⟩
  | stops {standing : Standing δ} {report : Report δ String} :
      Stops flow resolver standing report → Ends flow resolver 1 standing report
  | goesOn {count : Nat} {first middle : Standing δ} {log : Log} {report : Report δ String} :
      GoesOn flow resolver first log middle → Ends flow resolver count middle report →
      Ends flow resolver (count + 1) first (report.behind log)

/-- After any number of evaluations another decision is pending. -/
def NeverEnds (flow : Flow) (resolver : Resolver δ) (start : Standing δ) : Prop :=
  ∀ count, ∃ log later, Unfolds flow resolver count start log later ∧ later.pending ≠ []

/-! ## What is counted -/

theorem Answered.callbacks {decision : Decision} {digits : Option String} {session : Session δ}
    {report : Report δ Json} (answered : Answered resolver decision digits session report) :
    report.log.countP Activity.isEvaluation = 0 ∧
      report.log.countP Activity.isCallback ≤ 2 := by
  have short : report.log.length ≤ 2 := by cases answered <;> simp
  refine ⟨?_, Nat.le_trans List.countP_le_length short⟩
  cases answered <;> rfl

theorem Evaluates.counts {decision : Decision} {digits : Option String} {session : Session δ}
    {report : Report δ (Option String)}
    (evaluated : Evaluates resolver decision digits session report) : report.log.Counts 1 := by
  have after : ∀ {log : Log}, log.countP Activity.isEvaluation = 0 ∧
        log.countP Activity.isCallback ≤ 2 →
      Log.Counts (.evaluated session.state decision digits :: log) 1 := by
    intro log calls
    constructor
    · rw [List.countP_cons_of_pos rfl, calls.1]
    · rw [List.countP_cons_of_neg (by simp [Activity.isCallback])]
      exact calls.2
  cases evaluated with
  | unanswered answered => exact after answered.callbacks
  | unrecognized answered _ => exact after answered.callbacks
  | noTarget answered _ _ => exact after answered.callbacks
  | sameState answered _ _ => exact after answered.callbacks
  | moves answered _ _ _ => exact after answered.callbacks

theorem GoesOn.counts {first middle : Standing δ} {log : Log}
    (goesOn : GoesOn flow resolver first log middle) : log.Counts 1 := by
  cases goesOn with
  | stays evaluated => exact evaluated.counts
  | passes evaluated _ _ => exact evaluated.counts

theorem Stops.counts {standing : Standing δ} {report : Report δ String}
    (stops : Stops flow resolver standing report) : report.log.Counts 1 := by
  cases stops with
  | failure evaluated => exact evaluated.counts
  | arrives evaluated _ _ => exact evaluated.counts

theorem Unfolds.counts {count : Nat} {first last : Standing δ} {log : Log}
    (unfolds : Unfolds flow resolver count first log last) : log.Counts count := by
  induction unfolds with
  | nothing => exact ⟨rfl, Nat.le_refl 0⟩
  | next goesOn _ ih =>
      rw [Nat.add_comm]
      exact goesOn.counts.append ih

theorem Ends.counts {count : Nat} {standing : Standing δ} {report : Report δ String}
    (ends : Ends flow resolver count standing report) : report.log.Counts count := by
  induction ends with
  | settled => exact ⟨rfl, Nat.le_refl 0⟩
  | stops stops => exact stops.counts
  | goesOn goesOn _ ih =>
      rw [Nat.add_comm]
      exact goesOn.counts.append ih

/-! ## Limits -/

/-- What is left of a cascade that may evaluate `left` decisions more. -/
inductive Limited (flow : Flow) (resolver : Resolver δ) (limit left : Nat) (start : Standing δ) :
    Report δ String → Prop where
  | whole {count : Nat} {report : Report δ String} :
      count ≤ left → Ends flow resolver count start report →
      Limited flow resolver limit left start report
  | cut {log : Log} {later : Standing δ} :
      Unfolds flow resolver left start log later → later.pending ≠ [] →
      Limited flow resolver limit left start ⟨.error (.stepLimit limit), later.session, log⟩

theorem Limited.behind {limit left : Nat} {first middle : Standing δ} {log : Log}
    {report : Report δ String} (goesOn : GoesOn flow resolver first log middle)
    (limited : Limited flow resolver limit left middle report) :
    Limited flow resolver limit (left + 1) first (report.behind log) := by
  cases limited with
  | whole within ends => exact .whole (Nat.succ_le_succ within) (.goesOn goesOn ends)
  | cut unfolds pending => exact .cut (.next goesOn unfolds) pending

theorem Cascades.limited {limit used left : Nat} {pending : List Decision} {session : Session δ}
    {report : Report δ String}
    (cascades : Cascades flow resolver limit used pending session report)
    (all : used + left = limit) :
    Limited flow resolver limit left ⟨pending, session⟩ report := by
  induction cascades generalizing left with
  | settled => exact .whole (Nat.zero_le left) .settled
  | cut spent =>
      obtain rfl : left = 0 := by omega
      exact .cut .nothing (by simp)
  | failure unspent evaluated => exact .whole (by omega) (.stops (.failure evaluated))
  | stays unspent evaluated _ ih =>
      obtain ⟨left, rfl⟩ : ∃ fewer, left = fewer + 1 := ⟨left - 1, by omega⟩
      exact (ih (by omega)).behind (.stays evaluated)
  | passes unspent evaluated found silent _ ih =>
      obtain ⟨left, rfl⟩ : ∃ fewer, left = fewer + 1 := ⟨left - 1, by omega⟩
      exact (ih (by omega)).behind (.passes evaluated found silent)
  | arrives unspent evaluated found speaks =>
      exact .whole (by omega) (.stops (.arrives evaluated found speaks))

theorem GoesOn.cascades {limit used : Nat} {first middle : Standing δ} {log : Log}
    {report : Report δ String} (goesOn : GoesOn flow resolver first log middle)
    (unspent : used < limit)
    (cascades : Cascades flow resolver limit (used + 1) middle.pending middle.session report) :
    Cascades flow resolver limit used first.pending first.session (report.behind log) := by
  cases goesOn with
  | stays evaluated => exact .stays unspent evaluated cascades
  | passes evaluated found silent => exact .passes unspent evaluated found silent cascades

theorem Ends.cascades {limit used count : Nat} {start : Standing δ} {report : Report δ String}
    (ends : Ends flow resolver count start report) (within : used + count ≤ limit) :
    Cascades flow resolver limit used start.pending start.session report := by
  induction ends generalizing used with
  | settled => exact .settled
  | stops stops =>
      have unspent : used < limit := by omega
      cases stops with
      | failure evaluated => exact .failure unspent evaluated
      | arrives evaluated found speaks => exact .arrives unspent evaluated found speaks
  | goesOn goesOn _ ih => exact goesOn.cascades (by omega) (ih (by omega))

theorem Unfolds.cascades {limit used count : Nat} {start later : Standing δ} {log : Log}
    (unfolds : Unfolds flow resolver count start log later) (pending : later.pending ≠ [])
    (all : used + count = limit) :
    Cascades flow resolver limit used start.pending start.session
      ⟨.error (.stepLimit limit), later.session, log⟩ := by
  induction unfolds generalizing used with
  | @nothing standing =>
      obtain ⟨decision, rest, waiting⟩ := List.exists_cons_of_ne_nil pending
      rw [waiting]
      exact .cut (by omega)
  | next goesOn _ ih => exact goesOn.cascades (by omega) (ih pending (by omega))

/-! ## One cascade from each standing -/

theorem Answered.not_stepLimit {decision : Decision} {digits : Option String}
    {session after : Session δ} {log : Log} {limit : Nat} :
    ¬ Answered resolver decision digits session ⟨.error (.stepLimit limit), after, log⟩ := by
  intro answered
  generalize ended : (⟨.error (.stepLimit limit), after, log⟩ : Report δ Json) = report at answered
  have result := congrArg Report.result ended
  cases answered with
  | @byDecider domain reply => cases reply <;> cases result
  | byAction => cases result
  | actionFailure => cases result
  | @byDeciderAfterAction action between domain left reply => cases reply <;> cases result

theorem Evaluates.not_stepLimit {decision : Decision} {digits : Option String}
    {session after : Session δ} {log : Log} {limit : Nat} :
    ¬ Evaluates resolver decision digits session ⟨.error (.stepLimit limit), after, log⟩ := by
  intro evaluated
  cases evaluated with
  | unanswered answered => exact Answered.not_stepLimit answered

/-- Without a limit no cascade fails for one. -/
theorem Ends.not_stepLimit {count limit : Nat} {start : Standing δ} {report : Report δ String}
    (ends : Ends flow resolver count start report) :
    report.result ≠ .error (.stepLimit limit) := by
  induction ends with
  | settled => intro failed; cases failed
  | stops stops =>
      intro failed
      cases stops with
      | failure evaluated =>
          cases failed
          exact Evaluates.not_stepLimit evaluated
      | arrives => cases failed
  | goesOn _ _ ih => exact ih

theorem Limited.cascades {limit left : Nat} {start : Standing δ} {report : Report δ String}
    (limited : Limited flow resolver limit left start report) {used : Nat}
    (all : used + left = limit) :
    Cascades flow resolver limit used start.pending start.session report := by
  cases limited with
  | whole within ends => exact ends.cascades (by omega)
  | cut unfolds pending => exact unfolds.cascades pending all

theorem Limited.unique {limit left : Nat} {start : Standing δ} {report other : Report δ String}
    (positive : 0 < limit) (within : left ≤ limit)
    (limited : Limited flow resolver limit left start report)
    (again : Limited flow resolver limit left start other) : report = other := by
  let interpreter : Interpreter δ := ⟨flow, resolver, limit, positive⟩
  have all : limit - left + left = limit := by omega
  have first := interpreter.cascade_eq_of_cascades (limited.cascades all) all
  have second := interpreter.cascade_eq_of_cascades (again.cascades all) all
  exact first.symm.trans second

theorem Ends.report_unique {count other : Nat} {start : Standing δ}
    {report another : Report δ String} (ends : Ends flow resolver count start report)
    (again : Ends flow resolver other start another) : report = another := by
  let limit := count + other + 1
  have limited : Limited flow resolver limit limit start report := .whole (by omega) ends
  have limitedAgain : Limited flow resolver limit limit start another := .whole (by omega) again
  exact limited.unique (Nat.succ_pos _) (Nat.le_refl limit) limitedAgain

theorem Ends.count_unique {count other : Nat} {start : Standing δ}
    {report another : Report δ String} (ends : Ends flow resolver count start report)
    (again : Ends flow resolver other start another) : count = other := by
  rw [← ends.report_unique again] at again
  exact ends.counts.evaluated.symm.trans again.counts.evaluated

/-- A cascade that ends has no more to evaluate when it has. -/
theorem Ends.lt_of_unfolds {count reached : Nat} {start later : Standing δ}
    {report : Report δ String} {log : Log} (ends : Ends flow resolver count start report)
    (unfolds : Unfolds flow resolver reached start log later) (pending : later.pending ≠ []) :
    reached < count := by
  refine Nat.lt_of_not_le fun past => ?_
  have limited : Limited flow resolver (reached + 1) reached start report :=
    .whole past ends
  have same := limited.unique (Nat.succ_pos _) (Nat.le_succ _) (.cut unfolds pending)
  exact ends.not_stepLimit (congrArg Report.result same)

/-- On a built flow a cascade is cut by every limit that it does not end within. -/
theorem exists_limited (built : flow.Built) (resolver : Resolver δ) (limit : Nat) {start : Standing δ}
    (closed : ∀ decision ∈ start.pending, flow.Closes decision) :
    ∃ report, Limited flow resolver limit limit start report := by
  have all : 0 + limit = limit := Nat.zero_add limit
  obtain ⟨report, cascades⟩ := Interpreter.exists_cascades built resolver all closed start.session
  exact ⟨report, cascades.limited all⟩

theorem neverEnds_of_not_ends (built : flow.Built) {start : Standing δ}
    (closed : ∀ decision ∈ start.pending, flow.Closes decision)
    (endless : ∀ count report, ¬ Ends flow resolver count start report) :
    NeverEnds flow resolver start := by
  intro count
  obtain ⟨report, limited⟩ := exists_limited built resolver count closed
  cases limited with
  | whole _ ends => exact absurd ends (endless _ _)
  | cut unfolds pending => exact ⟨_, _, unfolds, pending⟩

end Rules

namespace Interpreter

open Rules

variable {δ : Type}

theorem limited_decide (interpreter : Interpreter δ) (built : interpreter.flow.Built)
    {session : Session δ} {current : State}
    (found : interpreter.flow.state? session.state = some current) {limit : Nat}
    (positive : 1 ≤ limit) :
    Limited interpreter.flow interpreter.resolver limit limit ⟨current.decisions, session⟩
      ((interpreter.withStepLimit limit).decide session) := by
  have decides := (interpreter.withStepLimit limit).decides_decide built
    (Flow.declares_of_state? found)
  have same : (interpreter.withStepLimit limit).stepLimit = limit := Nat.max_eq_left positive
  rw [same] at decides
  cases decides with
  | cascade foundAgain cascades =>
      cases found.symm.trans foundAgain
      exact cascades.limited (Nat.zero_add limit)

/-- A step limit is exact and only cuts. Under it the decisions fail for the limit if and
only if the cascade without a limit evaluates more of them or never ends; what was done
then are the evaluations up to the limit. Any other cascade is reported whole, as under
every larger limit. -/
theorem step_limit_only_cuts (interpreter : Interpreter δ) (built : interpreter.flow.Built)
    (session : Session δ) (declared : interpreter.flow.declares session.state) (limit : Nat)
    (positive : 1 ≤ limit) :
    ∃ current, interpreter.flow.state? session.state = some current ∧
      let start : Standing δ := ⟨current.decisions, session⟩
      let ends := Ends interpreter.flow interpreter.resolver
      let unfolds := Unfolds interpreter.flow interpreter.resolver
      let decided := (interpreter.withStepLimit limit).decide session
      (decided.result = .error (.stepLimit limit) ↔
        (∃ count report, ends count start report ∧ limit < count) ∨
          NeverEnds interpreter.flow interpreter.resolver start) ∧
      (decided.result = .error (.stepLimit limit) →
        ∃ log later, unfolds limit start log later ∧ later.pending ≠ [] ∧
          decided = ⟨.error (.stepLimit limit), later.session, log⟩ ∧
          log.countP Activity.isEvaluation = limit) ∧
      (decided.result ≠ .error (.stepLimit limit) →
        (∃ count, count ≤ limit ∧ ends count start decided) ∧
          ∀ larger, limit ≤ larger →
            (interpreter.withStepLimit larger).decide session = decided) ∧
      decided.log.countP Activity.isEvaluation ≤ limit ∧
      decided.log.countP Activity.isCallback ≤ 2 * limit ∧
      interpreter.withStepLimit 0 = interpreter.withStepLimit 1 := by
  obtain ⟨current, found⟩ := Flow.state?_of_declares declared
  refine ⟨current, found, ?_⟩
  intro start ends unfolds decided
  have closed : ∀ decision ∈ start.pending, interpreter.flow.Closes decision :=
    fun decision member => built.decision_closed (Flow.mem_of_state? found) member
  have limited : Limited interpreter.flow interpreter.resolver limit limit start decided :=
    interpreter.limited_decide built found positive
  have limitedBy : ∀ larger, limit ≤ larger →
      Limited interpreter.flow interpreter.resolver larger larger start
        ((interpreter.withStepLimit larger).decide session) :=
    fun larger more => interpreter.limited_decide built found (Nat.le_trans positive more)
  clear_value decided
  cases limited with
  | whole within whole =>
      refine ⟨⟨fun failed => absurd failed whole.not_stepLimit, ?_⟩,
        fun failed => absurd failed whole.not_stepLimit, ?_, ?_, ?_, rfl⟩
      · rintro (⟨count, report, later, beyond⟩ | endless)
        · have same := whole.count_unique later
          omega
        · obtain ⟨log, later, unfolded, pending⟩ := endless _
          exact absurd (whole.lt_of_unfolds unfolded pending) (Nat.lt_irrefl _)
      · intro _
        refine ⟨⟨_, within, whole⟩, fun larger more => ?_⟩
        have wholeAgain : Limited interpreter.flow interpreter.resolver larger larger start decided :=
          .whole (Nat.le_trans within more) whole
        exact (limitedBy larger more).unique (Nat.le_trans positive more) (Nat.le_refl larger) wholeAgain
      · rw [whole.counts.evaluated]
        exact within
      · exact Nat.le_trans whole.counts.called (Nat.mul_le_mul_left 2 within)
  | @cut log later unfolded pending =>
      refine ⟨⟨fun _ => ?_, fun _ => rfl⟩, fun _ => ?_, fun unfailed => absurd rfl unfailed,
        ?_, ?_, rfl⟩
      · by_cases ending : ∃ count report, ends count start report
        · obtain ⟨count, report, whole⟩ := ending
          exact .inl ⟨count, report, whole, whole.lt_of_unfolds unfolded pending⟩
        · refine .inr (neverEnds_of_not_ends built closed fun count report whole => ?_)
          exact ending ⟨count, report, whole⟩
      · exact ⟨log, later, unfolded, pending, rfl, unfolded.counts.evaluated⟩
      · exact Nat.le_of_eq unfolded.counts.evaluated
      · exact unfolded.counts.called

end Interpreter

/-! ## A cascade that never ends -/

/-- Two silent states pass the call to each other for as long as they say yes. -/
def circleDraft : FlowDraft where
  name := "circle"
  states :=
    [⟨"left", [.decide "on?" { yes := some "right" }]⟩,
      ⟨"right", [.decide "on?" { yes := some "left" }]⟩]

def circleInterpreter : Interpreter Nat where
  flow :=
    { name := "circle"
      initial := ⟨"left", [], [], [⟨"on?", none, some "right", none⟩]⟩
      others := [⟨"right", [], [], [⟨"on?", none, some "left", none⟩]⟩]
      translations := .empty }
  resolver :=
    { call := fun _ _ count => (count + 1, .ok (.bool true))
      text := fun _ _ => .ok .null
      hasAction := fun _ => false }

theorem circleFlow_built : circleInterpreter.flow.Built := ⟨circleDraft, rfl⟩

theorem circleInterpreter_cut_after_three :
    circleInterpreter.flow.Built ∧ circleInterpreter.flow.declares "left" ∧ 1 ≤ 3 ∧
      ∃ log later, Rules.Unfolds circleInterpreter.flow circleInterpreter.resolver 3
          ⟨[⟨"on?", none, some "right", none⟩], ⟨"call-1", "left", 0⟩⟩ log later ∧
        later.pending ≠ [] ∧
        (circleInterpreter.withStepLimit 3).decide ⟨"call-1", "left", 0⟩ =
          ⟨.error (.stepLimit 3), later.session, log⟩ ∧
        log.countP Activity.isEvaluation = 3 := by
  refine ⟨circleFlow_built, rfl, by decide, ?_⟩
  obtain ⟨current, found, -, cut, -⟩ := circleInterpreter.step_limit_only_cuts circleFlow_built
    ⟨"call-1", "left", 0⟩ rfl 3 (by decide)
  cases found
  exact cut rfl

end VoiceMenu
