import VoiceMenu.Proofs.Interpreter.RunProperties

/-! The spelling of a reply does not matter. Yes may be a word or a truth value, and so may
no, except from an action that a decision asks before its decider: such an action says no
with the word only. Two resolvers that differ in nothing else drive a session alike. -/

set_option autoImplicit false

namespace VoiceMenu

/-! ## Spellings -/

/-- Two spellings of one reply. No has two of them where `noToo` holds. -/
inductive Json.Respelled (noToo : Prop) : Json → Json → Prop where
  | same {reply : Json} : Respelled noToo reply reply
  | yesAsWord : Respelled noToo (.bool true) (.string "yes")
  | yesAsTruth : Respelled noToo (.string "yes") (.bool true)
  | noAsWord : noToo → Respelled noToo (.bool false) (.string "no")
  | noAsTruth : noToo → Respelled noToo (.string "no") (.bool false)

def State.Takes (state : State) (decision : Decision) : Prop :=
  decision ∈ state.decisions ∨ ∃ binding ∈ state.keys, binding.transition = .decision decision

/-- Some decision of the flow has the callback as its action. -/
def Flow.AsksFirst (flow : Flow) (name : String) : Prop :=
  ∃ state ∈ flow.states, ∃ decision, state.Takes decision ∧ decision.action = some name

/-- Two outcomes of one call: the same domain value, and the same failure or two spellings
of one reply. -/
inductive Resolver.SameCall {δ : Type} (noToo : Prop) :
    δ × Except CallbackError Json → δ × Except CallbackError Json → Prop where
  | failure {domain : δ} {error : CallbackError} :
      SameCall noToo (domain, .error error) (domain, .error error)
  | reply {domain : δ} {one other : Json} :
      one.Respelled noToo other → SameCall noToo (domain, .ok one) (domain, .ok other)

/-- The resolvers differ in the spelling of replies only. -/
structure Resolver.Respells {δ : Type} (flow : Flow) (one other : Resolver δ) : Prop where
  call : ∀ name digits domain,
    SameCall (¬ flow.AsksFirst name) (one.call name digits domain) (other.call name digits domain)
  text : ∀ name domain, other.text name domain = one.text name domain
  hasAction : ∀ name, other.hasAction name = one.hasAction name

namespace Json.Respelled

variable {noToo : Prop} {one other : Json}

theorem mono {wider : Prop} (respelled : one.Respelled noToo other) (wide : noToo → wider) :
    one.Respelled wider other := by
  cases respelled with
  | same => exact .same
  | yesAsWord => exact .yesAsWord
  | yesAsTruth => exact .yesAsTruth
  | noAsWord allowed => exact .noAsWord (wide allowed)
  | noAsTruth allowed => exact .noAsTruth (wide allowed)

theorem outcome?_eq (respelled : one.Respelled noToo other) : other.outcome? = one.outcome? := by
  cases respelled <;> rfl

/-- A reply that is not recognized has one spelling, so it is quoted alike. -/
theorem eq_of_unrecognized (respelled : one.Respelled noToo other)
    (unknown : one.outcome? = none) : other = one := by
  cases respelled with
  | same => rfl
  | yesAsWord | yesAsTruth | noAsWord | noAsTruth => cases unknown

/-- Only no can be left open in one spelling and said in the other. -/
theorem leavesOpen_iff (respelled : one.Respelled noToo other) (never : ¬ noToo) :
    Rules.LeavesOpen other ↔ Rules.LeavesOpen one := by
  rw [← isUnset_iff, ← isUnset_iff]
  cases respelled with
  | same | yesAsWord | yesAsTruth => rfl
  | noAsWord allowed | noAsTruth allowed => exact absurd allowed never

theorem means (respelled : one.Respelled noToo other) {outcome : Outcome}
    (meant : Rules.Means one outcome) : Rules.Means other outcome := by
  rw [← outcome?_eq_some_iff] at meant ⊢
  exact respelled.outcome?_eq.trans meant

end Json.Respelled

/-! ## Decisions -/

namespace Rules

variable {δ : Type} {flow : Flow} {one other : Resolver δ}

/-- The answers to a decision are the same failure or two spellings of one reply, after the
same calls. -/
inductive SameAnswer : Report δ Json → Report δ Json → Prop where
  | failure {error : CycleError} {after : Session δ} {log : Log} :
      SameAnswer ⟨.error error, after, log⟩ ⟨.error error, after, log⟩
  | reply {reply word : Json} {after : Session δ} {log : Log} :
      reply.Respelled True word → SameAnswer ⟨.ok reply, after, log⟩ ⟨.ok word, after, log⟩

theorem respelled_of_call (respells : one.Respells flow other) {name : String}
    {digits : Option String} {domain after : δ} {reply : Json}
    (replied : one.call name digits domain = (after, .ok reply)) :
    ∃ word, other.call name digits domain = (after, .ok word) ∧
      reply.Respelled (¬ flow.AsksFirst name) word := by
  have same := respells.call name digits domain
  rw [replied] at same
  generalize answered : other.call name digits domain = answer at same
  cases same with
  | reply respelled => exact ⟨_, rfl, respelled⟩

theorem failure_of_call (respells : one.Respells flow other) {name : String}
    {digits : Option String} {domain after : δ} {error : CallbackError}
    (failed : one.call name digits domain = (after, .error error)) :
    other.call name digits domain = (after, .error error) := by
  have same := respells.call name digits domain
  rw [failed] at same
  generalize answered : other.call name digits domain = answer at same
  cases same
  rfl

theorem sameAnswer_of_call (respells : one.Respells flow other) {name : String}
    {digits : Option String} {domain after : δ} {reply : Except CallbackError Json}
    (replied : one.call name digits domain = (after, reply)) (session : Session δ) (log : Log) :
    ∃ answer, other.call name digits domain = (after, answer) ∧
      SameAnswer ⟨reply.mapError .callback, session, log⟩
        ⟨answer.mapError .callback, session, log⟩ := by
  cases reply with
  | error error => exact ⟨_, failure_of_call respells replied, .failure⟩
  | ok reply =>
      obtain ⟨word, repliedToo, respelled⟩ := respelled_of_call respells replied
      exact ⟨_, repliedToo, .reply (respelled.mono fun _ => trivial)⟩

theorem Answered.respelled (respells : one.Respells flow other) {decision : Decision}
    (asksFirst : ∀ action, decision.action = some action → flow.AsksFirst action)
    {digits : Option String} {session : Session δ} {report : Report δ Json}
    (answered : Answered one decision digits session report) :
    ∃ another, Answered other decision digits session another ∧ SameAnswer report another := by
  cases answered with
  | byDecider noAction replied =>
      obtain ⟨answer, repliedToo, same⟩ := sameAnswer_of_call respells replied _ _
      exact ⟨_, .byDecider noAction repliedToo, same⟩
  | byAction action replied set =>
      obtain ⟨word, repliedToo, respelled⟩ := respelled_of_call respells replied
      have setToo := mt (respelled.leavesOpen_iff (not_not_intro (asksFirst _ action))).mp set
      exact ⟨_, .byAction action repliedToo setToo, .reply (respelled.mono fun _ => trivial)⟩
  | actionFailure action failed =>
      exact ⟨_, .actionFailure action (failure_of_call respells failed), .failure⟩
  | byDeciderAfterAction action left leftOpen replied =>
      obtain ⟨word, leftToo, respelled⟩ := respelled_of_call respells left
      have openToo := (respelled.leavesOpen_iff (not_not_intro (asksFirst _ action))).mpr leftOpen
      obtain ⟨answer, repliedToo, same⟩ := sameAnswer_of_call respells replied _ _
      exact ⟨_, .byDeciderAfterAction action leftToo openToo repliedToo, same⟩

theorem Answered.respelled_of_ok (respells : one.Respells flow other) {decision : Decision}
    (asksFirst : ∀ action, decision.action = some action → flow.AsksFirst action)
    {digits : Option String} {session after : Session δ} {reply : Json} {log : Log}
    (answered : Answered one decision digits session ⟨.ok reply, after, log⟩) :
    ∃ word, Answered other decision digits session ⟨.ok word, after, log⟩ ∧
      reply.Respelled True word := by
  obtain ⟨another, answeredToo, same⟩ := answered.respelled respells asksFirst
  cases same with
  | reply respelled => exact ⟨_, answeredToo, respelled⟩

/-- A decision of the flow does the same however its answer is spelled. -/
theorem Evaluates.respelled (respells : one.Respells flow other) {decision : Decision}
    (asksFirst : ∀ action, decision.action = some action → flow.AsksFirst action)
    {digits : Option String} {session : Session δ} {report : Report δ (Option String)}
    (evaluated : Evaluates one decision digits session report) :
    Evaluates other decision digits session report := by
  cases evaluated with
  | unanswered answered =>
      obtain ⟨another, answeredToo, same⟩ := answered.respelled respells asksFirst
      cases same
      exact .unanswered answeredToo
  | unrecognized answered unknown =>
      obtain ⟨word, answeredToo, respelled⟩ := answered.respelled_of_ok respells asksFirst
      have quoted := respelled.eq_of_unrecognized (Json.outcome?_eq_none_iff.mpr unknown)
      rw [quoted] at answeredToo
      exact .unrecognized answeredToo unknown
  | noTarget answered meant leads =>
      obtain ⟨word, answeredToo, respelled⟩ := answered.respelled_of_ok respells asksFirst
      exact .noTarget answeredToo (respelled.means meant) leads
  | sameState answered meant leads =>
      obtain ⟨word, answeredToo, respelled⟩ := answered.respelled_of_ok respells asksFirst
      exact .sameState answeredToo (respelled.means meant) leads
  | moves answered meant leads different =>
      obtain ⟨word, answeredToo, respelled⟩ := answered.respelled_of_ok respells asksFirst
      exact .moves answeredToo (respelled.means meant) leads different

theorem EffectIs.respelled (respells : one.Respells flow other) {event : Event}
    {effect : Option String} (isEffect : EffectIs one event effect) :
    EffectIs other event effect := by
  cases isEffect with
  | action own => exact .action own
  | ownName none registered => exact .ownName none ((respells.hasAction _).trans registered)
  | none none unregistered => exact .none none ((respells.hasAction _).trans unregistered)

/-- The reply to an event is ignored, so any spelling will do. -/
theorem Follows.respelled (respells : one.Respells flow other) {transition : Transition}
    (asksFirst : ∀ decision, transition = .decision decision →
      ∀ action, decision.action = some action → flow.AsksFirst action)
    {digits : String} {session : Session δ} {report : Report δ Unit}
    (follows : Follows one digits session transition report) :
    Follows other digits session transition report := by
  cases follows with
  | plainEvent effect => exact .plainEvent (effect.respelled respells)
  | event effect replied =>
      obtain ⟨word, repliedToo, -⟩ := respelled_of_call respells replied
      exact .event (effect.respelled respells) repliedToo
  | eventFailure effect failed =>
      exact .eventFailure (effect.respelled respells) (failure_of_call respells failed)
  | decision evaluated => exact .decision (evaluated.respelled respells (asksFirst _ rfl))
  | decisionFailure evaluated =>
      exact .decisionFailure (evaluated.respelled respells (asksFirst _ rfl))

end Rules

/-! ## Runs -/

namespace Interpreter

variable {δ : Type}

variable {interpreter : Interpreter δ} {other : Resolver δ}

/-- A cycle reaches only states of the flow. -/
theorem mem_of_current {session changed : Session δ} {state : State} {log : Log}
    (ran : interpreter.current session = ⟨.ok state, changed, log⟩) :
    state ∈ interpreter.flow.states := by
  cases found : interpreter.flow.state? session.state with
  | none => simp [current, stateNamed, found, Query.ofExcept] at ran
  | some known =>
      rw [interpreter.current_eq found] at ran
      cases ran
      exact Flow.mem_of_state? found

theorem evaluate_respelled (respells : interpreter.resolver.Respells interpreter.flow other)
    {state : State} (member : state ∈ interpreter.flow.states) {decision : Decision}
    (takes : state.Takes decision) (digits : Option String) :
    (interpreter.withResolver other).evaluate decision digits =
      interpreter.evaluate decision digits := by
  funext session
  obtain ⟨report, evaluated⟩ := exists_evaluates interpreter.resolver decision digits session
  have asksFirst : ∀ action, decision.action = some action → interpreter.flow.AsksFirst action :=
    fun action asked => ⟨state, member, decision, takes, asked⟩
  rw [interpreter.evaluate_eq_of_evaluates evaluated]
  exact (interpreter.withResolver other).evaluate_eq_of_evaluates
    (evaluated.respelled respells asksFirst)

theorem cascade_respelled (respells : interpreter.resolver.Respells interpreter.flow other)
    {state : State} (member : state ∈ interpreter.flow.states) (steps : Nat)
    {pending : List Decision} (ofState : ∀ decision ∈ pending, decision ∈ state.decisions) :
    (interpreter.withResolver other).cascade steps pending = interpreter.cascade steps pending := by
  -- The state varies along with the decisions: those of a silent state belong to that one.
  induction steps generalizing state pending with
  | zero => cases pending <;> rfl
  | succ steps ih =>
      cases pending with
      | nil => rfl
      | cons decision rest =>
          funext session
          have sameFirst := evaluate_respelled respells member
            (.inl (ofState decision List.mem_cons_self)) none
          refine Cycle.bind_congr (congrFun sameFirst session) fun moved changed log _ => ?_
          cases moved with
          | none =>
              exact congrFun (ih member fun later inRest => ofState later (.tail _ inRest)) changed
          | some target =>
              refine Cycle.bind_congr rfl fun entered reached log ran => ?_
              by_cases silent : entered.isSilent = true
              · rw [if_pos silent, if_pos silent]
                exact congrFun (ih (mem_of_current ran) fun _ inState => inState) reached
              · rw [if_neg silent, if_neg silent]

theorem decide_respelled (respells : interpreter.resolver.Respells interpreter.flow other) :
    (interpreter.withResolver other).decide = interpreter.decide := by
  funext session
  refine Cycle.bind_congr rfl fun state reached log ran => ?_
  exact congrFun (cascade_respelled respells (mem_of_current ran) _ fun _ inState => inState)
    reached

theorem follow_respelled (respells : interpreter.resolver.Respells interpreter.flow other)
    {state : State} (member : state ∈ interpreter.flow.states) {binding : KeyBinding}
    (bound : binding ∈ state.keys) (digits : String) :
    (interpreter.withResolver other).follow binding.transition digits =
      interpreter.follow binding.transition digits := by
  funext session
  obtain ⟨report, follows⟩ :=
    exists_follows interpreter.resolver digits session binding.transition
  rw [interpreter.follow_eq_of_follows follows]
  refine (interpreter.withResolver other).follow_eq_of_follows (follows.respelled respells ?_)
  intro decision keyed action asked
  exact ⟨state, member, decision, .inr ⟨binding, bound, keyed⟩, asked⟩

theorem digitLimit_respelled (respells : interpreter.resolver.Respells interpreter.flow other)
    (domain : δ) (limit : DigitLimit) :
    (interpreter.withResolver other).digitLimit domain limit =
      interpreter.digitLimit domain limit := by
  cases limit with
  | fixed most => rfl
  | callback name =>
      have asked : (interpreter.withResolver other).askText name domain =
          interpreter.askText name domain := by
        simp only [askText, withResolver, respells.text]
      rw [digitLimit, asked, digitLimit]

theorem runBinding?_respelled (respells : interpreter.resolver.Respells interpreter.flow other)
    (domain : δ) (digits : Digits) (keys : List KeyBinding) :
    (interpreter.withResolver other).runBinding? domain digits keys =
      interpreter.runBinding? domain digits keys := by
  induction keys with
  | nil => rfl
  | cons binding rest ih =>
      rw [runBinding?, runBinding?, ih]
      simp only [digitLimit_respelled respells]

theorem resolveKey_respelled (respells : interpreter.resolver.Respells interpreter.flow other)
    (state : State) (digits : Digits) (domain : δ) :
    (interpreter.withResolver other).resolveKey state digits domain =
      interpreter.resolveKey state digits domain := by
  rw [resolveKey, resolveKey, runBinding?_respelled respells]

theorem tryRespond_respelled (respells : interpreter.resolver.Respells interpreter.flow other)
    (digits : Digits) :
    (interpreter.withResolver other).tryRespond digits = interpreter.tryRespond digits := by
  funext session
  refine Cycle.bind_congr rfl fun state reached log ran => ?_
  have member := mem_of_current ran
  by_cases keyless : state.keys.isEmpty = true
  · rw [if_pos keyless, if_pos keyless]
  rw [if_neg keyless, if_neg keyless]
  refine Cycle.bind_congr ?_ fun found changed looked resolved => ?_
  · simp only [Cycle.query_run, resolveKey_respelled respells]
  cases found with
  | none => rfl
  | some binding =>
      have bound : binding ∈ state.keys := interpreter.mem_of_resolveKey (congrArg Report.result resolved)
      have sameFollow := follow_respelled respells member bound digits.text
      refine Cycle.bind_congr (congrFun sameFollow changed) fun _ followed log _ => ?_
      refine Cycle.bind_congr rfl fun entered arrived log _ => ?_
      rw [decide_respelled respells]

theorem respond_respelled (respells : interpreter.resolver.Respells interpreter.flow other)
    (digits : Digits) :
    (interpreter.withResolver other).respond digits = interpreter.respond digits := by
  funext session
  rw [respond, tryRespond_respelled respells, respond]

/-- How replies are spelled makes no difference. Whatever is performed on a session, two
resolvers that differ in spelling alone lead to the same results or errors, to the same
sessions after each operation, and on the way to the same calls with the same digits. -/
theorem reply_spelling_is_irrelevant (interpreter : Interpreter δ) (other : Resolver δ)
    (respells : interpreter.resolver.Respells interpreter.flow other)
    (operations : List Operation) (session : Session δ) :
    (interpreter.withResolver other).reports operations session =
      interpreter.reports operations session := by
  have performs : ∀ operation,
      (interpreter.withResolver other).perform operation = interpreter.perform operation := by
    intro operation
    cases operation with
    | respond digits => exact respond_respelled respells digits
    | tryRespond digits => exact tryRespond_respelled respells digits
    | decide => exact decide_respelled respells
  induction operations generalizing session with
  | nil => rfl
  | cons operation rest ih => rw [reports, reports, performs, ih]

end Interpreter

/-! ## Words and truth values -/

/-- Ratings are valid and the line is closed, which is said in words or not. -/
def closedLine (words : Bool) : Resolver Nat where
  call name _ count :=
    (count + 1, .ok (
      if name = "collect" then .null
      else if name = "valid?" then if words then .string "yes" else .bool true
      else if words then .string "no" else .bool false))
  text _ _ := .ok (.integer 2)
  hasAction _ := false

theorem ratingFlow_takes {state : State} {decision : Decision} (member : state ∈ ratingFlow.states)
    (takes : state.Takes decision) :
    decision = ⟨"valid?", some "collect", some "check", none⟩ ∨
      decision = ⟨"open?", none, some "thanks", some "hello"⟩ := by
  simp only [Flow.states, ratingFlow, List.mem_cons, List.not_mem_nil, or_false] at member
  obtain rfl | rfl | rfl := member
  · exact .inl (by simpa [State.Takes, eq_comm] using takes)
  · exact .inr (by simpa [State.Takes] using takes)
  · simp [State.Takes] at takes

theorem ratingFlow_asksFirst {name : String} (first : ratingFlow.AsksFirst name) :
    name = "collect" := by
  obtain ⟨state, member, decision, takes, action⟩ := first
  obtain rfl | rfl := ratingFlow_takes member takes
  · cases action
    rfl
  · cases action

theorem closedLine_respells : (closedLine false).Respells ratingFlow (closedLine true) := by
  refine ⟨fun name digits count => ?_, fun _ _ => rfl, fun _ => rfl⟩
  refine .reply ?_
  by_cases collects : name = "collect"
  · simp only [collects, ↓reduceIte]
    exact .same
  by_cases asks : name = "valid?"
  · simp only [asks, ↓reduceIte]
    exact .yesAsWord
  · simp only [asks, collects, ↓reduceIte]
    exact .noAsWord fun first => collects (ratingFlow_asksFirst first)

theorem closedLine_in_words_as_in_truth_values :
    (closedLine false).Respells ratingFlow (closedLine true) ∧
      ((ratingInterpreter.withResolver (closedLine false)).withResolver (closedLine true)).reports
          [.respond ⟨"42#"⟩, .tryRespond ⟨"1"⟩] ⟨"call-1", "hello", 0⟩ =
        (ratingInterpreter.withResolver (closedLine false)).reports
          [.respond ⟨"42#"⟩, .tryRespond ⟨"1"⟩] ⟨"call-1", "hello", 0⟩ :=
  ⟨closedLine_respells,
    (ratingInterpreter.withResolver (closedLine false)).reply_spelling_is_irrelevant
      (closedLine true) closedLine_respells _ _⟩

/-- An action that replies false leaves the decision to the decider; one that says no has
decided. -/
example :
    let answering (reply : Json) := ratingInterpreter.withResolver
      { call := fun name _ count => (count, .ok (if name = "collect" then reply else .bool true))
        text := fun _ _ => .ok (.integer 2)
        hasAction := fun _ => false }
    let after (reply : Json) := (answering reply).tryRespond ⟨"42#"⟩ ⟨"call-1", "hello", 0⟩
    (after (.bool false)).session.state = "thanks" ∧
      (after (.string "no")).session.state = "hello" :=
  ⟨rfl, rfl⟩

end VoiceMenu
