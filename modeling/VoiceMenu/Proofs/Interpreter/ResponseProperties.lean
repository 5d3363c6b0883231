import VoiceMenu.Interpreter.Response
import VoiceMenu.Proofs.Interpreter.KeyLookupProperties
import VoiceMenu.Proofs.Interpreter.RuleInvariants

/-! Decisions, cascades and responses follow the rules. For each there are two facts:
the interpreter reports what the rules derive, and the rules derive something. On a
built flow the second needs no more than a session in a declared state. -/

set_option autoImplicit false

namespace VoiceMenu

open Rules

/-! ## Replies -/

namespace Json

theorem outcome?_eq_some_iff {reply : Json} {outcome : Outcome} :
    reply.outcome? = some outcome ↔ Means reply outcome := by
  constructor
  · intro found
    unfold outcome? at found
    split at found
    · cases found; exact .yes
    · cases found; exact .no
    · split at found
      · rename_i word
        cases found
        exact word ▸ .yesWord
      · split at found
        · rename_i word
          cases found
          exact word ▸ .noWord
        · cases found
    · cases found; exact .null
    · cases found
  · intro means
    cases means <;> rfl

theorem outcome?_eq_none_iff {reply : Json} :
    reply.outcome? = none ↔ ∀ outcome, ¬ Means reply outcome := by
  rw [Option.eq_none_iff_forall_ne_some]
  exact forall_congr' fun outcome => not_congr outcome?_eq_some_iff

theorem isUnset_iff {reply : Json} : reply.isUnset = true ↔ LeavesOpen reply := by
  constructor
  · intro unset
    unfold isUnset at unset
    split at unset
    · exact .null
    · exact .no
    · cases unset
  · intro leftOpen
    cases leftOpen <;> rfl

end Json

namespace Interpreter

variable {δ : Type} (interpreter : Interpreter δ)

theorem call_eq {name : String} {digits : Option String} {session : Session δ} {domain : δ}
    {reply : Except CallbackError Json}
    (replied : interpreter.resolver.call name digits session.domain = (domain, reply)) :
    interpreter.call name digits session =
      ⟨reply.mapError .callback, { session with domain }, [.called name digits]⟩ := by
  simp [call, replied]

theorem current_eq {session : Session δ} {state : State}
    (found : interpreter.flow.state? session.state = some state) :
    interpreter.current session = ⟨.ok state, session, []⟩ := by
  simp [current, stateNamed, found, Query.ofExcept]

/-! ## Decisions -/

theorem replyTo_eq_of_answered {decision : Decision} {digits : Option String}
    {session : Session δ} {report : Report δ Json}
    (answered : Answered interpreter.resolver decision digits session report) :
    interpreter.replyTo decision digits session = report := by
  cases answered with
  | byDecider noAction replied =>
      simp only [replyTo, noAction]
      rw [Cycle.bind_of_ok (Cycle.pure_run _ _)]
      exact interpreter.call_eq replied
  | byAction action replied set =>
      simp only [replyTo, action]
      rw [Cycle.bind_of_ok (interpreter.call_eq replied)]
      rw [if_neg fun unset => set (Json.isUnset_iff.mp unset)]
      rfl
  | actionFailure action failed =>
      simp only [replyTo, action]
      exact Cycle.bind_of_error (interpreter.call_eq failed)
  | byDeciderAfterAction action left leftOpen replied =>
      simp only [replyTo, action]
      rw [Cycle.bind_of_ok (interpreter.call_eq left)]
      rw [if_pos (Json.isUnset_iff.mpr leftOpen), interpreter.call_eq replied]
      rfl

theorem exists_answered (resolver : Resolver δ) (decision : Decision) (digits : Option String)
    (session : Session δ) : ∃ report, Answered resolver decision digits session report := by
  cases inline : decision.action with
  | none => exact ⟨_, .byDecider inline rfl⟩
  | some action =>
      rcases replied : resolver.call action digits session.domain with ⟨domain, error | reply⟩
      · exact ⟨_, .actionFailure inline replied⟩
      · by_cases leftOpen : LeavesOpen reply
        · exact ⟨_, .byDeciderAfterAction inline replied leftOpen rfl⟩
        · exact ⟨_, .byAction inline replied leftOpen⟩

theorem evaluate_eq_of_evaluates {decision : Decision} {digits : Option String}
    {session : Session δ} {report : Report δ (Option String)}
    (evaluated : Evaluates interpreter.resolver decision digits session report) :
    interpreter.evaluate decision digits session = report := by
  simp only [evaluate, Cycle.session_bind_run, Cycle.note_bind_run]
  cases evaluated with
  | unanswered answered =>
      rw [Cycle.bind_of_error (interpreter.replyTo_eq_of_answered answered)]
      rfl
  | unrecognized answered unknown =>
      rw [Cycle.bind_of_ok (interpreter.replyTo_eq_of_answered answered)]
      rw [Json.outcome?_eq_none_iff.mpr unknown]
      simp
  | noTarget answered means leads =>
      rw [Cycle.bind_of_ok (interpreter.replyTo_eq_of_answered answered)]
      rw [Json.outcome?_eq_some_iff.mpr means]
      simp [leads]
  | @sameState reply after log outcome answered means leads =>
      have kept : after.state = session.state := answered.keeps.1
      rw [Cycle.bind_of_ok (interpreter.replyTo_eq_of_answered answered)]
      rw [Json.outcome?_eq_some_iff.mpr means]
      simp [leads, ← kept]
  | moves answered means leads different =>
      rw [Cycle.bind_of_ok (interpreter.replyTo_eq_of_answered answered)]
      rw [Json.outcome?_eq_some_iff.mpr means]
      simp [leads, different]

theorem exists_evaluates (resolver : Resolver δ) (decision : Decision)
    (digits : Option String) (session : Session δ) :
    ∃ report, Evaluates resolver decision digits session report := by
  obtain ⟨⟨error | reply, after, log⟩, answered⟩ :=
    exists_answered resolver decision digits session
  · exact ⟨_, .unanswered answered⟩
  · cases meaning : reply.outcome? with
    | none => exact ⟨_, .unrecognized answered (Json.outcome?_eq_none_iff.mp meaning)⟩
    | some outcome =>
        have means := Json.outcome?_eq_some_iff.mp meaning
        cases leads : decision.target? outcome with
        | none => exact ⟨_, .noTarget answered means leads⟩
        | some target =>
            by_cases same : target = session.state
            · exact ⟨_, .sameState answered means (same ▸ leads)⟩
            · exact ⟨_, .moves answered means leads same⟩

/-! ## Cascades -/

theorem cascade_eq_of_cascades {used steps : Nat} {pending : List Decision}
    {session : Session δ} {report : Report δ String}
    (cascades : Cascades interpreter.flow interpreter.resolver interpreter.stepLimit used pending
      session report)
    (left : used + steps = interpreter.stepLimit) :
    interpreter.cascade steps pending session = report := by
  induction cascades generalizing steps with
  | settled => cases steps <;> rfl
  | cut spent =>
      obtain rfl : steps = 0 := by omega
      rfl
  | failure unspent evaluated =>
      obtain ⟨steps, rfl⟩ : ∃ fewer, steps = fewer + 1 := ⟨steps - 1, by omega⟩
      rw [cascade, Cycle.bind_of_error (interpreter.evaluate_eq_of_evaluates evaluated)]
  | stays unspent evaluated _ ih =>
      obtain ⟨steps, rfl⟩ : ∃ fewer, steps = fewer + 1 := ⟨steps - 1, by omega⟩
      rw [cascade, Cycle.bind_of_ok (interpreter.evaluate_eq_of_evaluates evaluated)]
      exact congrArg (Report.behind _) (ih (by omega))
  | passes unspent evaluated found silent _ ih =>
      obtain ⟨steps, rfl⟩ : ∃ fewer, steps = fewer + 1 := ⟨steps - 1, by omega⟩
      rw [← evaluated.state_eq_of_some] at found
      rw [cascade, Cycle.bind_of_ok (interpreter.evaluate_eq_of_evaluates evaluated)]
      dsimp only
      rw [Cycle.bind_of_ok (interpreter.current_eq found), if_pos (by simp [State.isSilent, silent]),
        ih (by omega)]
      rfl
  | arrives unspent evaluated found speaks =>
      obtain ⟨steps, rfl⟩ : ∃ fewer, steps = fewer + 1 := ⟨steps - 1, by omega⟩
      have moved := evaluated.state_eq_of_some
      rw [← moved] at found
      rw [cascade, Cycle.bind_of_ok (interpreter.evaluate_eq_of_evaluates evaluated)]
      dsimp only
      rw [Cycle.bind_of_ok (interpreter.current_eq found), if_neg (by simp [State.isSilent, speaks]),
        ← moved]
      simp

/-- On a built flow the rules of a cascade never run into an undeclared state. -/
theorem exists_cascades {flow : Flow} (built : flow.Built) (resolver : Resolver δ)
    {limit used steps : Nat} (left : used + steps = limit) {pending : List Decision}
    (closed : ∀ decision ∈ pending, flow.Closes decision) (session : Session δ) :
    ∃ report, Cascades flow resolver limit used pending session report := by
  induction steps generalizing used pending session with
  | zero =>
      cases pending with
      | nil => exact ⟨_, .settled⟩
      | cons decision rest => exact ⟨_, .cut (by omega)⟩
  | succ steps ih =>
      cases pending with
      | nil => exact ⟨_, .settled⟩
      | cons decision rest =>
          have unspent : used < limit := by omega
          have leftAfter : used + 1 + steps = limit := by omega
          obtain ⟨⟨error | moved, after, log⟩, evaluated⟩ :=
            exists_evaluates resolver decision none session
          · exact ⟨_, .failure unspent evaluated⟩
          · cases moved with
            | none =>
                obtain ⟨report, cascades⟩ := ih leftAfter
                  (fun later member => closed later (List.mem_cons_of_mem _ member)) after
                exact ⟨_, .stays unspent evaluated cascades⟩
            | some target =>
                obtain ⟨entered, found⟩ := Flow.state?_of_declares
                  (evaluated.declares_of_some (closed decision List.mem_cons_self))
                by_cases silent : entered.prompts = []
                · obtain ⟨report, cascades⟩ := ih leftAfter
                    (fun later member =>
                      built.decision_closed (Flow.mem_of_state? found) member) after
                  exact ⟨_, .passes unspent evaluated found silent cascades⟩
                · exact ⟨_, .arrives unspent evaluated found silent⟩

theorem decide_eq_of_decides {session : Session δ} {report : Report δ String}
    (decides : Decides interpreter.flow interpreter.resolver interpreter.stepLimit session report) :
    interpreter.decide session = report := by
  cases decides with
  | cascade found cascades =>
      rw [decide, Cycle.bind_of_ok (interpreter.current_eq found),
        interpreter.cascade_eq_of_cascades cascades (Nat.zero_add _)]
      rfl

theorem exists_decides {flow : Flow} (built : flow.Built) (resolver : Resolver δ) (limit : Nat)
    {session : Session δ} (declared : flow.declares session.state) :
    ∃ report, Decides flow resolver limit session report := by
  obtain ⟨current, found⟩ := Flow.state?_of_declares declared
  obtain ⟨report, cascades⟩ := exists_cascades built resolver (Nat.zero_add limit)
    (fun decision member => built.decision_closed (Flow.mem_of_state? found) member) session
  exact ⟨report, .cascade found cascades⟩

theorem decides_decide (built : interpreter.flow.Built) {session : Session δ}
    (declared : interpreter.flow.declares session.state) :
    Decides interpreter.flow interpreter.resolver interpreter.stepLimit session
      (interpreter.decide session) := by
  obtain ⟨report, decides⟩ := exists_decides built interpreter.resolver interpreter.stepLimit
    declared
  rw [interpreter.decide_eq_of_decides decides]
  exact decides

/-! ## Responses -/

theorem effectOf?_eq_of_effectIs {event : Event} {effect : Option String}
    (isEffect : EffectIs interpreter.resolver event effect) :
    interpreter.effectOf? event = effect := by
  cases isEffect with
  | action own => simp [effectOf?, own]
  | ownName none registered => simp [effectOf?, none, registered]
  | none none unregistered => simp [effectOf?, none, unregistered]

theorem exists_effectIs (resolver : Resolver δ) (event : Event) :
    ∃ effect, EffectIs resolver event effect := by
  cases own : event.action with
  | some name => exact ⟨_, .action own⟩
  | none =>
      cases registered : resolver.hasAction event.name with
      | true => exact ⟨_, .ownName own registered⟩
      | false => exact ⟨_, .none own registered⟩

theorem follow_eq_of_follows {digits : String} {session : Session δ} {transition : Transition}
    {report : Report δ Unit}
    (follows : Follows interpreter.resolver digits session transition report) :
    interpreter.follow transition digits session = report := by
  cases follows with
  | plainEvent effect =>
      simp only [follow, fire, interpreter.effectOf?_eq_of_effectIs effect]
      rfl
  | event effect replied =>
      simp only [follow, fire, interpreter.effectOf?_eq_of_effectIs effect]
      rw [Cycle.bind_of_ok (interpreter.call_eq replied)]
      rfl
  | eventFailure effect failed =>
      simp only [follow, fire, interpreter.effectOf?_eq_of_effectIs effect]
      exact Cycle.bind_of_error (interpreter.call_eq failed)
  | decision evaluated =>
      rw [follow, Cycle.bind_of_ok (interpreter.evaluate_eq_of_evaluates evaluated)]
      simp
  | decisionFailure evaluated =>
      exact Cycle.bind_of_error (interpreter.evaluate_eq_of_evaluates evaluated)

theorem exists_follows (resolver : Resolver δ) (digits : String) (session : Session δ)
    (transition : Transition) : ∃ report, Follows resolver digits session transition report := by
  cases transition with
  | event event =>
      obtain ⟨effect, isEffect⟩ := exists_effectIs resolver event
      cases effect with
      | none => exact ⟨_, .plainEvent isEffect⟩
      | some name =>
          rcases replied : resolver.call name (some digits) session.domain with
            ⟨domain, error | reply⟩
          · exact ⟨_, .eventFailure isEffect replied⟩
          · exact ⟨_, .event isEffect replied⟩
  | decision decision =>
      obtain ⟨⟨error | moved, after, log⟩, evaluated⟩ :=
        exists_evaluates resolver decision (some digits) session
      · exact ⟨_, .decisionFailure evaluated⟩
      · exact ⟨_, .decision evaluated⟩

theorem mem_of_resolveKey {state : State} {digits : Digits} {domain : δ} {binding : KeyBinding}
    (resolved : (interpreter.resolveKey state digits domain).result = .ok (some binding)) :
    binding ∈ state.keys := by
  unfold resolveKey at resolved
  split at resolved
  · cases resolved
  · split at resolved
    · rename_i found
      cases resolved
      exact List.mem_of_find?_eq_some found
    · obtain ⟨answer, tried⟩ := exists_tries interpreter.resolver domain digits state.keys
      rw [interpreter.runBinding?_eq_of_tries tried] at resolved
      exact tried.mem_of_some resolved

private theorem lookUp_run {digits : Digits} {session : Session δ} {current : State}
    {result : Except CycleError (Option KeyBinding)} {log : Log}
    (resolved : interpreter.resolveKey current digits session.domain = ⟨result, log⟩) :
    Cycle.query (fun session => interpreter.resolveKey current digits session.domain) session =
      ⟨result, session, log⟩ := by
  rw [Cycle.query_run, resolved]

theorem tryRespond_bound {digits : Digits} {session : Session δ} {current : State}
    {binding : KeyBinding} {looked : Log}
    (found : interpreter.flow.state? session.state = some current) (keyed : current.keys ≠ [])
    (resolved : interpreter.resolveKey current digits session.domain = ⟨.ok (some binding), looked⟩) :
    interpreter.tryRespond digits session =
      ((do
        interpreter.follow binding.transition digits.text
        let entered ← interpreter.current
        if entered.name = current.name || entered.isSilent then interpreter.decide
        else Cycle.stateName : Cycle δ String) session).behind looked := by
  rw [tryRespond, Cycle.bind_of_ok (interpreter.current_eq found), if_neg (by simp [keyed]),
    Cycle.bind_of_ok (interpreter.lookUp_run resolved)]
  rfl

theorem tryRespond_eq_of_responds (built : interpreter.flow.Built) {digits : Digits}
    {session : Session δ} {report : Report δ String}
    (responds : Responds interpreter.flow interpreter.resolver interpreter.stepLimit digits session
      report) :
    interpreter.tryRespond digits session = report := by
  have wellFormed : ∀ {current : State}, interpreter.flow.state? session.state = some current →
      ∀ bound ∈ current.keys, bound.pattern.WellFormed :=
    fun found _ bound => built.pattern_wellFormed (Flow.mem_of_state? found) bound
  cases responds with
  | keyless found noKeys =>
      rw [tryRespond, Cycle.bind_of_ok (interpreter.current_eq found), if_pos (by simp [noKeys]),
        ← Flow.name_of_state? found]
      rfl
  | lookupFailure found keyed resolves =>
      have resolved := interpreter.resolveKey_eq_of_resolves (wellFormed found) resolves
      rw [tryRespond, Cycle.bind_of_ok (interpreter.current_eq found), if_neg (by simp [keyed]),
        Cycle.bind_of_error (interpreter.lookUp_run resolved)]
      rfl
  | unbound found keyed resolves =>
      have resolved := interpreter.resolveKey_eq_of_resolves (wellFormed found) resolves
      rw [tryRespond, Cycle.bind_of_ok (interpreter.current_eq found), if_neg (by simp [keyed]),
        Cycle.bind_of_ok (interpreter.lookUp_run resolved)]
      simp
  | failure found keyed resolves follows =>
      have resolved := interpreter.resolveKey_eq_of_resolves (wellFormed found) resolves
      rw [interpreter.tryRespond_bound found keyed resolved,
        Cycle.bind_of_error (interpreter.follow_eq_of_follows follows)]
      rfl
  | @arrives current entered _ _ _ _ found keyed resolves follows enters different speaks =>
      have resolved := interpreter.resolveKey_eq_of_resolves (wellFormed found) resolves
      have settles : ¬ (Decidable.decide (entered.name = current.name) || entered.isSilent) = true := by
        simpa [State.isSilent, Flow.name_of_state? found, Flow.name_of_state? enters] using
          And.intro different speaks
      rw [interpreter.tryRespond_bound found keyed resolved,
        Cycle.bind_of_ok (interpreter.follow_eq_of_follows follows),
        Cycle.bind_of_ok (interpreter.current_eq enters), if_neg settles]
      simp
  | @decides current entered _ _ _ _ _ found keyed resolves follows enters unsettled decides =>
      have resolved := interpreter.resolveKey_eq_of_resolves (wellFormed found) resolves
      have goesOn : (Decidable.decide (entered.name = current.name) || entered.isSilent) = true := by
        simpa [State.isSilent, Flow.name_of_state? found, Flow.name_of_state? enters] using
          unsettled
      rw [interpreter.tryRespond_bound found keyed resolved,
        Cycle.bind_of_ok (interpreter.follow_eq_of_follows follows),
        Cycle.bind_of_ok (interpreter.current_eq enters), if_pos goesOn,
        interpreter.decide_eq_of_decides decides]
      simp [Report.behind]

theorem exists_responds {flow : Flow} (built : flow.Built) (resolver : Resolver δ) (limit : Nat)
    (digits : Digits) {session : Session δ} (declared : flow.declares session.state) :
    ∃ report, Responds flow resolver limit digits session report := by
  obtain ⟨current, found⟩ := Flow.state?_of_declares declared
  have member := Flow.mem_of_state? found
  by_cases keyed : current.keys = []
  · exact ⟨_, .keyless found keyed⟩
  · obtain ⟨⟨error | bound, looked⟩, resolves⟩ := exists_resolves resolver session.domain digits
      fun binding bound => built.pattern_wellFormed member bound
    · exact ⟨_, .lookupFailure found keyed resolves⟩
    · cases bound with
      | none => exact ⟨_, .unbound found keyed resolves⟩
      | some binding =>
          obtain ⟨⟨error | _, after, log⟩, follows⟩ :=
            exists_follows resolver digits.text session binding.transition
          · exact ⟨_, .failure found keyed resolves follows⟩
          · have stays : after.OfCall flow session.callId :=
              follows.ofCall (leads_of_built built member resolves.mem_of_some) ⟨declared, rfl⟩
            obtain ⟨entered, enters⟩ := Flow.state?_of_declares stays.declared
            by_cases settles : after.state ≠ session.state ∧ entered.prompts ≠ []
            · exact ⟨_, .arrives found keyed resolves follows enters settles.1 settles.2⟩
            · obtain ⟨report, decides⟩ := exists_decides built resolver limit stays.declared
              refine ⟨_, .decides found keyed resolves follows enters ?_ decides⟩
              by_cases same : after.state = session.state
              · exact .inl same
              · exact .inr (Classical.byContradiction fun speaks => settles ⟨same, speaks⟩)

theorem responds_tryRespond (built : interpreter.flow.Built) (digits : Digits)
    {session : Session δ} (declared : interpreter.flow.declares session.state) :
    Responds interpreter.flow interpreter.resolver interpreter.stepLimit digits session
      (interpreter.tryRespond digits session) := by
  obtain ⟨report, responds⟩ := exists_responds built interpreter.resolver interpreter.stepLimit
    digits declared
  rw [interpreter.tryRespond_eq_of_responds built responds]
  exact responds

/-- A response is the one that the rules of call flows derive: with the same result or
error, the same state and domain afterwards, and the same callbacks called and asked, in
the same order and with the same digits. The rules derive exactly one. -/
theorem tryRespond_eq_iff_responds (built : interpreter.flow.Built) (digits : Digits)
    (session : Session δ) (declared : interpreter.flow.declares session.state)
    (report : Report δ String) :
    interpreter.tryRespond digits session = report ↔
      Responds interpreter.flow interpreter.resolver interpreter.stepLimit digits session
        report := by
  constructor
  · rintro rfl
    exact interpreter.responds_tryRespond built digits declared
  · exact interpreter.tryRespond_eq_of_responds built

end Interpreter

/-- Every decider says yes and counts in the domain; ratings have up to two digits. -/
def ratingInterpreter : Interpreter Nat where
  flow := ratingFlow
  resolver :=
    { call := fun name _ count =>
        (count + 1, .ok (if name = "collect" then .null else .bool true))
      text := fun _ _ => .ok (.integer 2)
      hasAction := fun _ => false }

theorem ratingInterpreter_responds_to_rating :
    ratingInterpreter.flow.Built ∧ ratingInterpreter.flow.declares "hello" ∧
      Responds ratingFlow ratingInterpreter.resolver 1024 ⟨"42#"⟩ ⟨"call-1", "hello", 0⟩
        ⟨.ok "thanks", ⟨"call-1", "thanks", 3⟩,
          [.asked "most",
            .evaluated "hello" ⟨"valid?", some "collect", some "check", none⟩ (some "42#"),
            .called "collect" (some "42#"), .called "valid?" (some "42#"),
            .evaluated "check" ⟨"open?", none, some "thanks", some "hello"⟩ none,
            .called "open?" none]⟩ :=
  ⟨ratingFlow_built, rfl,
    (ratingInterpreter.tryRespond_eq_iff_responds ratingFlow_built ⟨"42#"⟩
      ⟨"call-1", "hello", 0⟩ rfl _).mp rfl⟩

end VoiceMenu
