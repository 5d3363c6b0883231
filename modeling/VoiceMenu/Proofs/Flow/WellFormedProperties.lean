import Mathlib.Data.List.Nodup
import VoiceMenu.Proofs.Flow.BuiltProperties
import VoiceMenu.Proofs.Key.TextProperties

/-! A flow that is built is well formed: its names and its patterns are distinct, look-up
finds exactly the declared states, every decision can lead somewhere, and every target is
declared. Its states are those of the draft, in order. -/

set_option autoImplicit false

namespace VoiceMenu

/-- The state that the declarations mean, when none of them is a problem. -/
def StateDraft.meant (draft : StateDraft) : State where
  name := draft.name
  prompts := draft.declarations.foldl Declaration.spoken []
  keys := draft.declarations.filterMap Declaration.keyBinding?
  decisions := draft.declarations.filterMap Declaration.taken?

def StateDraft.Clear (draft : StateDraft) : Prop :=
  Declaration.Clear draft.name draft.declarations

def Decision.CanLead (decision : Decision) : Prop :=
  decision.onYes.isSome ∨ decision.onNo.isSome

structure State.WellFormed (state : State) : Prop where
  patterns_distinct : (state.keys.map (·.pattern)).Nodup
  patterns_read : ∀ binding ∈ state.keys, ∃ text, KeyPattern.parse text = .ok binding.pattern
  patterns_wellFormed : ∀ binding ∈ state.keys, binding.pattern.WellFormed
  keyed_decisions_lead : ∀ binding ∈ state.keys, ∀ decision,
    binding.transition = .decision decision → decision.CanLead
  decisions_lead : ∀ decision ∈ state.decisions, decision.CanLead

/-- The place of each name among the states; of several the last counts. -/
def Flow.places (flow : Flow) : Table Nat :=
  .ofList (flow.states.zipIdx.map fun (state, place) => (state.name, place))

structure Flow.WellFormed (flow : Flow) : Prop where
  names_distinct : (flow.states.map (·.name)).Nodup
  found_iff : ∀ name state,
    flow.state? name = some state ↔ state ∈ flow.states ∧ state.name = name
  found_by_place : ∀ name,
    flow.state? name = (flow.places.get? name).bind fun place => flow.states[place]?
  states_wellFormed : ∀ state ∈ flow.states, state.WellFormed
  events_declared : ∀ state ∈ flow.states, ∀ binding ∈ state.keys, ∀ event,
    binding.transition = .event event → flow.declares event.target
  keyed_decisions_closed : ∀ state ∈ flow.states, ∀ binding ∈ state.keys, ∀ decision,
    binding.transition = .decision decision → flow.Closes decision
  decisions_closed : ∀ state ∈ flow.states, ∀ decision ∈ state.decisions, flow.Closes decision

/-! ## States -/

theorem Binding.decision_canLead {binding : Binding} (decides : binding.isDecision = true)
    (decider : String) : (binding.decision decider).CanLead := by
  simpa [Decision.CanLead, Binding.decision, Binding.isDecision] using decides

namespace Declaration

theorem canLead_of_bound {declaration : Declaration} {key : String} {decision : Decision}
    (bound : declaration.bound? = some (key, .decision decision)) : decision.CanLead := by
  cases declaration with
  | say fragments => cases bound
  | prompt pressed text name binding | press pressed name binding =>
      obtain ⟨-, ⟨decides, same⟩ | ⟨-, target, -, same⟩⟩ := bound_press_cases bound
      · cases same
        exact Binding.decision_canLead decides name
      · cases same
  | decide decider binding =>
      obtain ⟨decides, -, same⟩ := bound_decide_cases bound
      cases same
      exact Binding.decision_canLead decides decider

theorem canLead_of_taken {declaration : Declaration} {decision : Decision}
    (taken : declaration.taken? = some decision) : decision.CanLead := by
  cases declaration with
  | say | prompt | press => cases taken
  | decide decider binding =>
      rw [taken?] at taken
      split at taken
      · rename_i decides
        cases taken
        exact Binding.decision_canLead decides.1 decider
      · cases taken

theorem keyBinding?_eq_some_iff {declaration : Declaration} {binding : KeyBinding} :
    declaration.keyBinding? = some binding ↔
      ∃ key, declaration.bound? = some (key, binding.transition) ∧
        KeyPattern.parse key = .ok binding.pattern := by
  constructor
  · intro found
    obtain ⟨⟨key, transition⟩, bound, read⟩ := Option.bind_eq_some_iff.mp found
    obtain ⟨pattern, parsed, same⟩ := Option.map_eq_some_iff.mp read
    cases same
    refine ⟨key, bound, ?_⟩
    cases result : KeyPattern.parse key with
    | error reason => simp [result, Except.toOption] at parsed
    | ok pattern => simpa [result, Except.toOption] using parsed
  · rintro ⟨key, bound, read⟩
    exact keyBinding?_of_bound bound read

end Declaration

namespace StateDraft

variable {draft : StateDraft}

theorem declared_state_eq_meant (clear : draft.Clear) : draft.declared.state = draft.meant := by
  have reflects := draft.declared_reflects
  have keys := reflects.keys clear
  cases declared : draft.declared.state with
  | mk name prompts bound decisions =>
      rw [declared] at keys
      have named : name = draft.name := by simpa [declared] using reflects.named
      have spoken := reflects.prompts
      have taken := reflects.decisions
      rw [declared] at spoken taken
      rw [meant, named, ← spoken, ← keys, ← taken]

theorem meant_wellFormed (clear : draft.Clear) : draft.meant.WellFormed := by
  have distinct := draft.declared_reflects.distinct
  rw [declared_state_eq_meant clear] at distinct
  have read : ∀ binding ∈ draft.meant.keys, ∃ key declaration,
      Declaration.bound? declaration = some (key, binding.transition) ∧
        KeyPattern.parse key = .ok binding.pattern := by
    intro binding member
    obtain ⟨declaration, -, found⟩ := List.mem_filterMap.mp member
    obtain ⟨key, bound, parsed⟩ := Declaration.keyBinding?_eq_some_iff.mp found
    exact ⟨key, declaration, bound, parsed⟩
  constructor
  · exact distinct
  · intro binding member
    obtain ⟨key, -, -, parsed⟩ := read binding member
    exact ⟨key, parsed⟩
  · intro binding member
    obtain ⟨key, -, -, parsed⟩ := read binding member
    exact KeyPattern.parse_wellFormed parsed
  · intro binding member decision keyed
    obtain ⟨key, declaration, bound, -⟩ := read binding member
    rw [keyed] at bound
    exact Declaration.canLead_of_bound bound
  · intro decision member
    obtain ⟨declaration, -, taken⟩ := List.mem_filterMap.mp member
    exact Declaration.canLead_of_taken taken

end StateDraft

theorem State.WellFormed.parse_pattern_text {state : State} (wellFormed : state.WellFormed)
    {binding : KeyBinding} (bound : binding ∈ state.keys) :
    KeyPattern.parse binding.pattern.text = .ok binding.pattern := by
  obtain ⟨text, read⟩ := wellFormed.patterns_read binding bound
  exact KeyPattern.parse_text_of_parse read

/-! ## Look-up -/

namespace Flow

variable {flow : Flow}

theorem state?_eq_some_iff (distinct : (flow.states.map (·.name)).Nodup) {name : String}
    {state : State} : flow.state? name = some state ↔ state ∈ flow.states ∧ state.name = name := by
  constructor
  · intro found
    exact ⟨mem_of_state? found, name_of_state? found⟩
  · rintro ⟨member, named⟩
    obtain ⟨found, isFound⟩ := state?_of_declares (declares_iff.mpr ⟨state, member, named⟩)
    have sameName : found.name = state.name := (name_of_state? isFound).trans named.symm
    rw [isFound, List.inj_on_of_nodup_map distinct (mem_of_state? isFound) member sameName]

theorem places_get?_eq_some_iff (distinct : (flow.states.map (·.name)).Nodup) {name : String}
    {place : Nat} : flow.places.get? name = some place ↔
      ∃ state, flow.states[place]? = some state ∧ state.name = name := by
  have keys : (flow.states.zipIdx.map fun (state, place) => (state.name, place)).map Prod.fst =
      flow.states.map (·.name) := by
    calc
      _ = (flow.states.zipIdx.map Prod.fst).map (·.name) := by rw [List.map_map, List.map_map]; rfl
      _ = flow.states.map (·.name) := by rw [List.zipIdx_map_fst]
  rw [places, Table.get?_ofList_iff (by rw [keys]; exact distinct), List.mem_map]
  constructor
  · rintro ⟨⟨state, index⟩, member, same⟩
    cases same
    exact ⟨state, List.mk_mem_zipIdx_iff_getElem?.mp member, rfl⟩
  · rintro ⟨state, present, rfl⟩
    exact ⟨(state, place), List.mk_mem_zipIdx_iff_getElem?.mpr present, rfl⟩

theorem state?_eq_by_place (distinct : (flow.states.map (·.name)).Nodup) (name : String) :
    flow.state? name = (flow.places.get? name).bind fun place => flow.states[place]? := by
  cases filed : flow.places.get? name with
  | some place =>
      obtain ⟨state, present, named⟩ := (places_get?_eq_some_iff distinct).mp filed
      rw [Option.bind_some, present]
      exact (state?_eq_some_iff distinct).mpr ⟨List.mem_of_getElem? present, named⟩
  | none =>
      cases found : flow.state? name with
      | none => rfl
      | some state =>
          obtain ⟨place, present⟩ := List.mem_iff_getElem?.mp (mem_of_state? found)
          have filedAgain := (places_get?_eq_some_iff distinct).mpr
            ⟨state, present, name_of_state? found⟩
          cases filed.symm.trans filedAgain

end Flow

/-! ## Drafts -/

namespace FlowDraft

/-- No state is a problem: their names are distinct, and so is no declaration of them. -/
def Sound (states : List StateDraft) : Prop :=
  (states.map (·.name)).Nodup ∧ ∀ state ∈ states, state.Clear

theorem problemsAfter_eq_nil_iff {names : List String} {states : List StateDraft} :
    problemsAfter names states = [] ↔ (∀ state ∈ states, state.name ∉ names) ∧ Sound states := by
  induction states generalizing names with
  | nil => simp [problemsAfter, Sound]
  | cons state rest ih =>
      have clear : state.declared.problems = [] ↔ state.Clear := state.declared_reports.clear
      rw [problemsAfter, List.append_eq_nil_iff, List.append_eq_nil_iff, ih, clear]
      simp only [Sound, List.map_cons, List.nodup_cons, List.mem_cons, List.mem_map]
      constructor
      · rintro ⟨⟨fresh, clearHere⟩, freshRest, distinct, clearRest⟩
        have freshHere : state.name ∉ names := by
          intro member
          simp [member] at fresh
        refine ⟨?_, ⟨?_, distinct⟩, ?_⟩
        · rintro other (rfl | member)
          · exact freshHere
          · exact fun inside => freshRest other member (.inr inside)
        · rintro ⟨other, member, same⟩
          exact freshRest other member (.inl same)
        · rintro other (rfl | member)
          · exact clearHere
          · exact clearRest other member
      · rintro ⟨fresh, ⟨different, distinct⟩, clear⟩
        refine ⟨⟨by simp [fresh state (.inl rfl)], clear state (.inl rfl)⟩, ?_, distinct,
          fun other member => clear other (.inr member)⟩
        rintro other member (same | inside)
        · exact different ⟨other, member, same⟩
        · exact fresh other (.inr member) inside

theorem declared_states_eq_meant {states : List StateDraft} (sound : Sound states) :
    states.map (·.declared.state) = states.map StateDraft.meant :=
  List.map_congr_left fun state member => StateDraft.declared_state_eq_meant (sound.2 state member)

theorem states_of_build_ok {draft : FlowDraft} {flow : Flow} (built : draft.build = .ok flow) :
    Sound draft.states ∧ flow.states = draft.states.map StateDraft.meant := by
  obtain ⟨problemless, states, -, -, -⟩ := build_ok built
  obtain ⟨-, sound⟩ := problemsAfter_eq_nil_iff.mp problemless
  exact ⟨sound, states.trans (declared_states_eq_meant sound)⟩

theorem map_meant_name (states : List StateDraft) :
    (states.map StateDraft.meant).map (·.name) = states.map (·.name) := by
  rw [List.map_map]
  rfl

end FlowDraft

/-! ## Built flows -/

namespace Flow

variable {flow : Flow}

theorem Built.names_distinct (built : flow.Built) : (flow.states.map (·.name)).Nodup := by
  obtain ⟨draft, builds⟩ := built
  obtain ⟨sound, states⟩ := FlowDraft.states_of_build_ok builds
  rw [states, FlowDraft.map_meant_name]
  exact sound.1

theorem Built.state_wellFormed (built : flow.Built) {state : State} (member : state ∈ flow.states) :
    state.WellFormed := by
  obtain ⟨draft, builds⟩ := built
  obtain ⟨sound, states⟩ := FlowDraft.states_of_build_ok builds
  rw [states] at member
  obtain ⟨declared, inDraft, rfl⟩ := List.mem_map.mp member
  exact StateDraft.meant_wellFormed (sound.2 declared inDraft)

theorem Built.state?_of_mem (built : flow.Built) {state : State} (member : state ∈ flow.states) :
    flow.state? state.name = some state :=
  (state?_eq_some_iff built.names_distinct).mpr ⟨member, rfl⟩

end Flow

namespace FlowDraft

/-- Whatever a draft declares, the flow that it builds is well formed. Its states are those
that the draft means, in their order, and a new call starts in the first of them. -/
theorem build_makes_wellFormed_flow {draft : FlowDraft} {flow : Flow}
    (built : draft.build = .ok flow) :
    flow.WellFormed ∧ draft.states ≠ [] ∧ flow.states = draft.states.map StateDraft.meant ∧
      draft.states.head?.map StateDraft.meant = some flow.initial ∧
      ∀ name, flow.declares name ↔ name ∈ draft.states.map (·.name) := by
  obtain ⟨-, states⟩ := states_of_build_ok built
  have isBuilt : flow.Built := ⟨draft, built⟩
  have distinct := isBuilt.names_distinct
  refine ⟨⟨distinct, fun name state => Flow.state?_eq_some_iff distinct,
    Flow.state?_eq_by_place distinct, ?_, ?_, ?_, ?_⟩, ?_, states, ?_, ?_⟩
  · intro state member
    exact isBuilt.state_wellFormed member
  · intro state member binding bound event fires
    exact isBuilt.event_declared member bound fires
  · intro state member binding bound decision asks
    exact isBuilt.keyedDecision_closed member bound asks
  · intro state member decision taken
    exact isBuilt.decision_closed member taken
  · intro none
    rw [none] at states
    cases states
  · rw [← List.head?_map, ← states]
    rfl
  · intro name
    rw [Flow.declares_iff, ← map_meant_name, ← states, List.mem_map]

end FlowDraft

theorem ratingDraft_makes_wellFormed_flow :
    ratingDraft.build = .ok ratingFlow ∧ ratingFlow.WellFormed ∧
      ratingFlow.states = ratingDraft.states.map StateDraft.meant ∧
      ratingFlow.declares "check" := by
  have wellFormed := FlowDraft.build_makes_wellFormed_flow
    (show ratingDraft.build = .ok ratingFlow from rfl)
  exact ⟨rfl, wellFormed.1, wellFormed.2.2.1, (wellFormed.2.2.2.2 "check").mpr (by decide)⟩

end VoiceMenu
