import VoiceMenu.Proofs.Interpreter.ConstantProperties
import VoiceMenu.Proofs.Interpreter.StepLimitProperties

/-! Cascades that go round in circles. Where the callbacks leave the domain alone, what a
cascade does in a state depends on that state only. A cascade that evaluates as many decisions
as the flow has, and still has one pending, has come back to a silent state and never ends.
So no cascade that ends is cut by a step limit as large as the flow. -/

set_option autoImplicit false

namespace VoiceMenu

/-- How many decisions the states of the flow take by themselves. -/
def Flow.decisionCount (flow : Flow) : Nat :=
  (flow.states.flatMap (·.decisions)).length

/-- No call changes the domain. -/
def Resolver.Still {δ : Type} (resolver : Resolver δ) : Prop :=
  ∀ name digits domain, (resolver.call name digits domain).1 = domain

theorem Resolver.constant_still {δ : Type} (replies : Table Json) :
    (constant replies : Resolver δ).Still :=
  fun _ _ _ => rfl

/-- The step limit is why the cycle failed. -/
def Report.IsCut {δ α : Type} (report : Report δ α) : Prop :=
  ∃ limit, report.result = .error (.stepLimit limit)

namespace Rules

variable {δ : Type} {flow : Flow} {resolver : Resolver δ}

/-- Where a cascade stands when it enters the state. -/
def entering (state : State) (session : Session δ) : Standing δ :=
  ⟨state.decisions, { session with state := state.name }⟩

def Reaches (flow : Flow) (resolver : Resolver δ) (first last : Standing δ) : Prop :=
  ∃ count log, Unfolds flow resolver count first log last

/-- At least one evaluation leads from the standing to itself. -/
def ComesBack (flow : Flow) (resolver : Resolver δ) (standing : Standing δ) : Prop :=
  ∃ count log, 0 < count ∧ Unfolds flow resolver count standing log standing

/-- The cascade enters a silent state that it comes back to. -/
def GoesRound (flow : Flow) (resolver : Resolver δ) (start : Standing δ) : Prop :=
  ∃ state ∈ flow.states, state.prompts = [] ∧
    Reaches flow resolver start (entering state start.session) ∧
    ComesBack flow resolver (entering state start.session)

/-! ## Callbacks that leave the domain alone -/

theorem Answered.session_eq (still : resolver.Still) {decision : Decision}
    {digits : Option String} {session : Session δ} {report : Report δ Json}
    (answered : Answered resolver decision digits session report) : report.session = session := by
  have kept : ∀ {name : String} {before after : δ} {reply : Except CallbackError Json},
      resolver.call name digits before = (after, reply) → after = before := by
    intro name before after reply replied
    rw [← still name digits before, replied]
  cases answered with
  | byDecider _ replied => simp [kept replied]
  | byAction _ replied _ => simp [kept replied]
  | actionFailure _ failed => simp [kept failed]
  | byDeciderAfterAction _ left _ replied => simp [kept replied, kept left]

theorem Evaluates.session_eq_of_none (still : resolver.Still) {decision : Decision}
    {digits : Option String} {session after : Session δ} {log : Log}
    (evaluated : Evaluates resolver decision digits session ⟨.ok none, after, log⟩) :
    after = session := by
  cases evaluated with
  | noTarget answered _ _ => exact answered.session_eq still
  | sameState answered _ _ => exact answered.session_eq still

theorem Evaluates.session_eq_of_some (still : resolver.Still) {decision : Decision}
    {digits : Option String} {session after : Session δ} {log : Log} {target : String}
    (evaluated : Evaluates resolver decision digits session ⟨.ok (some target), after, log⟩) :
    after = { session with state := target } := by
  cases evaluated with
  | moves answered _ _ _ =>
      have same := answered.session_eq still
      dsimp only at same
      rw [same]

/-! ## Coming back -/

theorem Unfolds.trans {count more : Nat} {first middle last : Standing δ} {log later : Log}
    (unfolds : Unfolds flow resolver count first log middle)
    (goesOn : Unfolds flow resolver more middle later last) :
    Unfolds flow resolver (count + more) first (log ++ later) last := by
  induction unfolds with
  | nothing => simpa using goesOn
  | next step _ ih =>
      rw [List.append_assoc, Nat.succ_add_eq_add_succ]
      exact .next step (ih goesOn)

theorem Reaches.trans {first middle last : Standing δ}
    (reaches : Reaches flow resolver first middle) (goesOn : Reaches flow resolver middle last) :
    Reaches flow resolver first last := by
  obtain ⟨count, log, unfolds⟩ := reaches
  obtain ⟨more, later, unfoldsOn⟩ := goesOn
  exact ⟨count + more, log ++ later, unfolds.trans unfoldsOn⟩

theorem Reaches.refl (standing : Standing δ) : Reaches flow resolver standing standing :=
  ⟨0, [], .nothing⟩

theorem ComesBack.pending_ne_nil {standing : Standing δ}
    (comesBack : ComesBack flow resolver standing) : standing.pending ≠ [] := by
  obtain ⟨count, log, positive, unfolds⟩ := comesBack
  cases unfolds with
  | nothing => exact absurd positive (Nat.lt_irrefl 0)
  | next step _ => cases step <;> exact List.cons_ne_nil _ _

theorem ComesBack.unfolds_long {standing : Standing δ}
    (comesBack : ComesBack flow resolver standing) (bound : Nat) :
    ∃ count log, bound ≤ count ∧ Unfolds flow resolver count standing log standing := by
  obtain ⟨round, log, positive, unfolds⟩ := comesBack
  induction bound with
  | zero => exact ⟨0, [], Nat.le_refl 0, .nothing⟩
  | succ bound ih =>
      obtain ⟨count, earlier, long, unfoldsBefore⟩ := ih
      exact ⟨count + round, earlier ++ log, by omega, unfoldsBefore.trans unfolds⟩

theorem GoesRound.not_ends {start : Standing δ} (goesRound : GoesRound flow resolver start)
    {count : Nat} {report : Report δ String} : ¬ Ends flow resolver count start report := by
  intro ends
  obtain ⟨state, -, -, ⟨first, log, unfolds⟩, comesBack⟩ := goesRound
  obtain ⟨rounds, later, long, unfoldsOn⟩ := comesBack.unfolds_long count
  have short := ends.lt_of_unfolds (unfolds.trans unfoldsOn) comesBack.pending_ne_nil
  omega

/-! ## From state to state -/

/-- After a number of evaluations that leaves a decision pending, either some decisions of the
first state are still to come, or the cascade has entered a silent state on the way. -/
theorem Unfolds.enters (still : resolver.Still) {count : Nat} {first later : Standing δ}
    {log : Log} (unfolds : Unfolds flow resolver count first log later)
    (waiting : later.pending ≠ []) :
    count < first.pending.length ∨ ∃ state ∈ flow.states, state.prompts = [] ∧
      ∃ used more before after, 0 < used ∧ used ≤ first.pending.length ∧ used + more = count ∧
        Unfolds flow resolver used first before (entering state first.session) ∧
        Unfolds flow resolver more (entering state first.session) after later := by
  induction unfolds with
  | nothing => exact .inl (List.length_pos_iff.mpr waiting)
  | @next count first middle last log later step rest ih =>
      cases step with
      | @stays decision pending session after log evaluated =>
          obtain rfl := evaluated.session_eq_of_none still
          rcases ih waiting with short | ⟨state, member, silent, used, more, before, behind,
            -, within, all, enters, goesOn⟩
          · exact .inl (Nat.succ_lt_succ short)
          · exact .inr ⟨state, member, silent, used + 1, more, log ++ before, behind,
              Nat.succ_pos used, Nat.succ_le_succ within, by omega,
              .next (.stays evaluated) enters, goesOn⟩
      | @passes decision pending session after log target entered evaluated found silent =>
          have here : (⟨entered.decisions, after⟩ : Standing δ) = entering entered session := by
            rw [entering, evaluated.session_eq_of_some still, Flow.name_of_state? found]
          have step : GoesOn flow resolver ⟨decision :: pending, session⟩ log
              ⟨entered.decisions, after⟩ := .passes evaluated found silent
          rw [here] at step rest
          exact .inr ⟨entered, Flow.mem_of_state? found, silent, 1, count, log ++ [], later,
            Nat.one_pos, by simp, Nat.add_comm 1 count, .next step .nothing, rest⟩

/-- `left` are the states that the cascade has not left yet, and it came from all others. -/
theorem Unfolds.goesRound (still : resolver.Still) {session : Session δ} {count : Nat}
    {left : List State} {here : State} (isLeft : here ∈ left)
    (cameFrom : ∀ state, state ∈ flow.states → state ∉ left →
      Reaches flow resolver (entering state session) (entering here session))
    {log : Log} {later : Standing δ}
    (unfolds : Unfolds flow resolver count (entering here session) log later)
    (waiting : later.pending ≠ []) (long : (left.flatMap (·.decisions)).length ≤ count) :
    GoesRound flow resolver (entering here session) := by
  induction count using Nat.strongRecOn generalizing left here log with
  | ind count ih =>
      have size : (left.flatMap (·.decisions)).length =
          here.decisions.length + ((left.erase here).flatMap (·.decisions)).length := by
        rw [((List.perm_cons_erase isLeft).flatMap_right _).length_eq, List.flatMap_cons,
          List.length_append]
      rcases unfolds.enters still waiting with short | ⟨next, member, silent, used, more, before,
        after, positive, within, all, enters, goesOn⟩
      · have short : count < here.decisions.length := short
        omega
      · have within : used ≤ here.decisions.length := within
        have reaches : Reaches flow resolver (entering here session) (entering next session) :=
          ⟨used, before, enters⟩
        by_cases unvisited : next ∈ left.erase here
        · have cameToNext : ∀ state, state ∈ flow.states → state ∉ left.erase here →
              Reaches flow resolver (entering state session) (entering next session) := by
            intro state stateMember gone
            by_cases same : state = here
            · exact same ▸ reaches
            · have goneBefore : state ∉ left := fun inside =>
                gone ((List.mem_erase_of_ne same).mpr inside)
              exact (cameFrom state stateMember goneBefore).trans reaches
          obtain ⟨state, stateMember, stateSilent, reachesRound, comesBack⟩ :=
            ih more (by omega) unvisited cameToNext goesOn (by omega)
          exact ⟨state, stateMember, stateSilent, reaches.trans reachesRound, comesBack⟩
        · -- The state entered was left before, or is this one: from it the cascade came here.
          have cameFromNext : Reaches flow resolver (entering next session)
              (entering here session) := by
            by_cases same : next = here
            · exact same ▸ .refl _
            · have gone : next ∉ left := fun inside =>
                unvisited ((List.mem_erase_of_ne same).mpr inside)
              exact cameFrom next member gone
          obtain ⟨round, earlier, unfoldsRound⟩ := cameFromNext
          exact ⟨next, member, silent, reaches, round + used, earlier ++ before, by omega,
            unfoldsRound.trans enters⟩

end Rules

namespace Interpreter

open Rules

variable {δ : Type}

theorem withStepLimit_max (interpreter : Interpreter δ) (limit : Nat) :
    interpreter.withStepLimit (max limit 1) = interpreter.withStepLimit limit := by
  simp [withStepLimit]

/-- Under a limit as large as the flow a cascade is cut only if it goes round. -/
theorem goesRound_of_isCut (interpreter : Interpreter δ) (built : interpreter.flow.Built)
    (still : interpreter.resolver.Still) {session : Session δ} {current : State}
    (found : interpreter.flow.state? session.state = some current) {limit : Nat}
    (large : max interpreter.flow.decisionCount 1 ≤ limit)
    (isCut : ((interpreter.withStepLimit limit).decide session).IsCut) :
    GoesRound interpreter.flow interpreter.resolver ⟨current.decisions, session⟩ := by
  have positive : 1 ≤ limit := by omega
  have limited := interpreter.limited_decide built found positive
  have start : (⟨current.decisions, session⟩ : Standing δ) = entering current session := by
    rw [entering, Flow.name_of_state? found]
  obtain ⟨reached, failed⟩ := isCut
  generalize ran : (interpreter.withStepLimit limit).decide session = report at limited failed
  cases limited with
  | whole _ ends => exact absurd failed ends.not_stepLimit
  | cut unfolds waiting =>
      rw [start] at unfolds ⊢
      exact unfolds.goesRound still (Flow.mem_of_state? found)
        (fun state member gone => absurd member gone) waiting (Nat.le_trans (Nat.le_max_left _ _) large)

theorem decide_of_goesRound (interpreter : Interpreter δ) (built : interpreter.flow.Built)
    {session : Session δ} {current : State}
    (found : interpreter.flow.state? session.state = some current)
    (goesRound : GoesRound interpreter.flow interpreter.resolver ⟨current.decisions, session⟩)
    (limit : Nat) :
    ((interpreter.withStepLimit limit).decide session).result =
      .error (.stepLimit (max limit 1)) := by
  rw [← withStepLimit_max]
  have limited := interpreter.limited_decide built found (Nat.le_max_right limit 1)
  generalize (interpreter.withStepLimit (max limit 1)).decide session = report at limited
  cases limited with
  | whole _ ends => exact absurd ends goesRound.not_ends
  | cut => rfl

theorem ends_of_not_isCut (interpreter : Interpreter δ) (built : interpreter.flow.Built)
    {session : Session δ} {current : State}
    (found : interpreter.flow.state? session.state = some current) {limit : Nat}
    (positive : 1 ≤ limit) (uncut : ¬ ((interpreter.withStepLimit limit).decide session).IsCut) :
    ∃ count, Ends interpreter.flow interpreter.resolver count ⟨current.decisions, session⟩
      ((interpreter.withStepLimit limit).decide session) := by
  have limited := interpreter.limited_decide built found positive
  generalize (interpreter.withStepLimit limit).decide session = report at limited uncut
  cases limited with
  | whole _ ends => exact ⟨_, ends⟩
  | cut => exact absurd ⟨limit, rfl⟩ uncut

/-- With constant replies a limit as large as the flow, counted in decisions, is never the
reason for a failure. A cascade that it cuts goes round silent states and is cut by every
limit; any other is the same under every limit as large as the flow. -/
theorem flow_size_is_limit_enough (flow : Flow) (built : flow.Built) (replies : Table Json)
    (session : Session δ) (declared : flow.declares session.state) :
    ∃ current, flow.state? session.state = some current ∧
      let decides := fun limit => (constant flow replies limit δ).decide session
      ∀ large, max flow.decisionCount 1 ≤ large →
        ((decides large).IsCut →
          GoesRound flow (.constant replies) ⟨current.decisions, session⟩ ∧
            ∀ limit, (decides limit).result = .error (.stepLimit (max limit 1))) ∧
        (¬ (decides large).IsCut →
          ∀ limit, max flow.decisionCount 1 ≤ limit → decides limit = decides large) := by
  obtain ⟨current, found⟩ := Flow.state?_of_declares declared
  refine ⟨current, found, ?_⟩
  intro decides large enough
  let interpreter : Interpreter δ := { flow, resolver := .constant replies }
  have still : interpreter.resolver.Still := Resolver.constant_still replies
  constructor
  · intro isCut
    have goesRound := interpreter.goesRound_of_isCut built still found enough isCut
    exact ⟨goesRound, interpreter.decide_of_goesRound built found goesRound⟩
  · intro uncut limit enoughToo
    have uncutToo : ¬ (decides limit).IsCut := by
      intro isCut
      have goesRound := interpreter.goesRound_of_isCut built still found enoughToo isCut
      exact uncut ⟨_, interpreter.decide_of_goesRound built found goesRound large⟩
    obtain ⟨count, ends⟩ := interpreter.ends_of_not_isCut built found (by omega) uncut
    obtain ⟨countToo, endsToo⟩ := interpreter.ends_of_not_isCut built found (by omega) uncutToo
    exact endsToo.report_unique ends

end Interpreter

/-- Two silent states that say yes to each other go round under any limit. -/
theorem circleFlow_goes_round :
    circleInterpreter.flow.Built ∧ circleInterpreter.flow.declares "left" ∧
      max circleInterpreter.flow.decisionCount 1 ≤ 2 ∧
      let decides := fun limit =>
        (Interpreter.constant circleInterpreter.flow (.ofList [("on?", .bool true)]) limit Nat).decide
          ⟨"call-1", "left", 0⟩
      (decides 2).IsCut ∧ ∀ limit, (decides limit).result = .error (.stepLimit (max limit 1)) := by
  obtain ⟨current, found, sized⟩ := Interpreter.flow_size_is_limit_enough circleInterpreter.flow
    circleFlow_built (.ofList [("on?", .bool true)]) (⟨"call-1", "left", 0⟩ : Session Nat) rfl
  exact ⟨circleFlow_built, rfl, by decide, ⟨2, rfl⟩, ((sized 2 (by decide)).1 ⟨2, rfl⟩).2⟩

end VoiceMenu
