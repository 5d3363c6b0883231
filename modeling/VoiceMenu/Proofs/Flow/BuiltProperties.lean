import VoiceMenu.Proofs.Flow.DeclarationProperties
import VoiceMenu.Proofs.Key.PatternProperties

/-! What holds of every flow that a draft builds: the targets of its states are
declared, and its keys are bound to well-formed patterns. -/

set_option autoImplicit false

namespace VoiceMenu

theorem Decision.mem_targets {decision : Decision} {outcome : Outcome} {target : String}
    (leads : decision.target? outcome = some target) :
    (decision.pathName outcome, target) ∈ decision.targets := by
  cases outcome with
  | yes => simp [targets, leads]
  | no => simp [targets, leads]
  | indeterminate => cases leads

theorem State.pattern_of_binding? {state : State} {pattern : KeyPattern} {binding : KeyBinding}
    (found : state.binding? pattern = some binding) : binding.pattern = pattern := by
  simpa using List.find?_some found

namespace Flow

def Built (flow : Flow) : Prop := ∃ draft : FlowDraft, draft.build = .ok flow

/-- Wherever the decision leads, there is a state of the flow. -/
def Closes (flow : Flow) (decision : Decision) : Prop :=
  ∀ {outcome target}, decision.target? outcome = some target → flow.declares target

theorem declares_iff {flow : Flow} {name : String} :
    flow.declares name = true ↔ ∃ state ∈ flow.states, state.name = name := by
  simp [declares, state?, List.find?_isSome]

theorem state?_of_declares {flow : Flow} {name : String} (declared : flow.declares name) :
    ∃ state, flow.state? name = some state :=
  Option.isSome_iff_exists.mp declared

theorem mem_of_state? {flow : Flow} {name : String} {state : State}
    (found : flow.state? name = some state) : state ∈ flow.states :=
  List.mem_of_find?_eq_some found

theorem name_of_state? {flow : Flow} {name : String} {state : State}
    (found : flow.state? name = some state) : state.name = name := by
  simpa using List.find?_some found

theorem declares_of_state? {flow : Flow} {name : String} {state : State}
    (found : flow.state? name = some state) : flow.declares name :=
  Option.isSome_iff_exists.mpr ⟨state, found⟩

@[simp] theorem declares_initial (flow : Flow) : flow.declares flow.initial.name :=
  declares_iff.mpr ⟨flow.initial, List.mem_cons_self, rfl⟩

end Flow

namespace FlowDraft

/-- All that a successful build has checked, with the states that it builds from. -/
theorem build_ok {draft : FlowDraft} {flow : Flow} (built : draft.build = .ok flow) :
    problemsAfter [] draft.states = [] ∧
      flow.states = draft.states.map (·.declared.state) ∧
      flow.states.flatMap (unknownTargets (flow.states.map (·.name))) = [] ∧
      flow.name = draft.name ∧ flow.translations = Table.ofList draft.translations := by
  unfold build at built
  split at built
  · cases built
  · rename_i sound
    split at built
    · cases built
    · rename_i initial others states
      dsimp only at built
      split at built
      · cases built
      · rename_i known
        cases built
        exact ⟨sound, states.symm, known, rfl, rfl⟩

theorem target_mem_of_unknownTargets_nil {names : List String} {state : State}
    (known : unknownTargets names state = []) {name target : String}
    (named : (name, target) ∈ state.targets) : target ∈ names := by
  by_cases found : target ∈ names
  · exact found
  · have unknown : DefinitionError.unknownTarget state.name name target ∈
        unknownTargets names state :=
      List.mem_map.mpr ⟨(name, target), List.mem_filter.mpr ⟨named, by simpa using found⟩, rfl⟩
    rw [known] at unknown
    cases unknown

end FlowDraft

namespace Flow.Built

variable {flow : Flow}

theorem target_declared (built : flow.Built) {state : State} (member : state ∈ flow.states)
    {name target : String} (named : (name, target) ∈ state.targets) : flow.declares target := by
  obtain ⟨draft, builds⟩ := built
  obtain ⟨-, -, known, -, -⟩ := FlowDraft.build_ok builds
  have found := FlowDraft.target_mem_of_unknownTargets_nil
    (List.flatMap_eq_nil_iff.mp known state member) named
  obtain ⟨declared, inFlow, same⟩ := List.mem_map.mp found
  exact declares_iff.mpr ⟨declared, inFlow, same⟩

theorem decision_closed (built : flow.Built) {state : State} (member : state ∈ flow.states)
    {decision : Decision} (taken : decision ∈ state.decisions) : flow.Closes decision := by
  intro outcome target leads
  exact built.target_declared member (List.mem_append_right _
    (List.mem_flatMap.mpr ⟨decision, taken, Decision.mem_targets leads⟩))

theorem keyedDecision_closed (built : flow.Built) {state : State} (member : state ∈ flow.states)
    {binding : KeyBinding} (bound : binding ∈ state.keys) {decision : Decision}
    (keyed : binding.transition = .decision decision) : flow.Closes decision := by
  intro outcome target leads
  have named : (decision.pathName outcome, target) ∈ binding.transition.targets := by
    rw [keyed]
    exact Decision.mem_targets leads
  exact built.target_declared member (List.mem_append_left _
    (List.mem_flatMap.mpr ⟨binding, bound, named⟩))

theorem event_declared (built : flow.Built) {state : State} (member : state ∈ flow.states)
    {binding : KeyBinding} (bound : binding ∈ state.keys) {event : Event}
    (keyed : binding.transition = .event event) : flow.declares event.target := by
  have named : (event.name, event.target) ∈ binding.transition.targets := by
    rw [keyed]
    exact List.mem_singleton_self _
  exact built.target_declared member (List.mem_append_left _
    (List.mem_flatMap.mpr ⟨binding, bound, named⟩))

theorem pattern_wellFormed (built : flow.Built) {state : State} (member : state ∈ flow.states)
    {binding : KeyBinding} (bound : binding ∈ state.keys) : binding.pattern.WellFormed := by
  obtain ⟨draft, builds⟩ := built
  obtain ⟨-, states, -, -, -⟩ := FlowDraft.build_ok builds
  rw [states] at member
  obtain ⟨declaration, -, rfl⟩ := List.mem_map.mp member
  obtain ⟨-, -, key, -, -, read⟩ :=
    (declaration.declared_reflects.knows binding.pattern).mp (List.mem_map_of_mem bound)
  exact KeyPattern.parse_wellFormed read

end Flow.Built

/-! ## A flow for examples -/

/-- A caller rates something with as many digits as allowed; the silent state `check`
then passes the call on. -/
def ratingDraft : FlowDraft where
  name := "rating"
  states :=
    [⟨"hello",
      [.say [.text "Please rate us"],
        .press "1" "skip" { go := some "thanks" },
        .press ".:most" "valid?" { yes := some "check", action := some "collect" }]⟩,
      ⟨"check", [.decide "open?" { yes := some "thanks", no := some "hello" }]⟩,
      ⟨"thanks", [.say [.text "Thank you"]]⟩]

def ratingFlow : Flow where
  name := "rating"
  initial :=
    ⟨"hello", [.text "Please rate us"],
      [⟨.key '1', .event ⟨"skip", "thanks", none⟩⟩,
        ⟨.wildcard (.callback "most"),
          .decision ⟨"valid?", some "collect", some "check", none⟩⟩],
      []⟩
  others :=
    [⟨"check", [], [], [⟨"open?", none, some "thanks", some "hello"⟩]⟩,
      ⟨"thanks", [.text "Thank you"], [], []⟩]
  translations := .empty

theorem ratingFlow_built : ratingFlow.Built := ⟨ratingDraft, rfl⟩

end VoiceMenu
