import Mathlib.Data.List.Induction
import VoiceMenu.Proofs.Flow.WellFormedProperties

/-! A draft is built exactly when it is acceptable, which is read off its declarations. The
error of any other draft is its first problem: the declarations come before the lack of states,
and this before the targets that no state declares. -/

set_option autoImplicit false

namespace VoiceMenu

/-! ## What is asked of a draft -/

/-- The outcomes that have a target, yes before no. -/
def Binding.outcomes (binding : Binding) (decider : String) : List (String × String) :=
  (binding.yes.map fun target => (decider ++ "_yes", target)).toList ++
    (binding.no.map fun target => (decider ++ "_no", target)).toList

namespace Declaration

/-- The key text that is written, whether or not the key has anywhere to go. -/
def keyText? : Declaration → Option String
  | .say _ => none
  | .prompt key _ _ _ | .press key _ _ => some key
  | .decide _ binding => binding.press

def Leads : Declaration → Prop
  | .say _ => True
  | .prompt _ _ _ binding | .press _ _ binding =>
      binding.yes.isSome ∨ binding.no.isSome ∨ binding.go.isSome
  | .decide _ binding => binding.yes.isSome ∨ binding.no.isSome

/-- Where the key leads, by the name of the event or outcome. With an outcome, `go` does not
count. -/
def keyedTargets : Declaration → List (String × String)
  | .say _ => []
  | .prompt _ _ name binding | .press _ name binding =>
      if binding.isDecision then binding.outcomes name
      else (binding.go.map fun target => (name, target)).toList
  | .decide decider binding => if binding.press.isSome then binding.outcomes decider else []

def automaticTargets : Declaration → List (String × String)
  | .say _ | .prompt _ _ _ _ | .press _ _ _ => []
  | .decide decider binding => if binding.press.isSome then [] else binding.outcomes decider

structure Acceptable (declarations : List Declaration) : Prop where
  all_lead : ∀ declaration ∈ declarations, declaration.Leads
  keys_read : ∀ text ∈ declarations.filterMap keyText?,
    ∃ pattern, KeyPattern.parse text = .ok pattern
  keys_distinct : (declarations.filterMap keyText?).Pairwise fun earlier later =>
    ∀ pattern, KeyPattern.parse earlier = .ok pattern → KeyPattern.parse later ≠ .ok pattern

end Declaration

/-- Every named target, keys before automatic decisions. -/
def StateDraft.targets (draft : StateDraft) : List (String × String) :=
  draft.declarations.flatMap Declaration.keyedTargets ++
    draft.declarations.flatMap Declaration.automaticTargets

namespace FlowDraft

def names (draft : FlowDraft) : List String := draft.states.map (·.name)

def Knows (draft : FlowDraft) (targets : List (String × String)) : Prop :=
  ∀ path ∈ targets, path.2 ∈ draft.names

structure Acceptable (draft : FlowDraft) : Prop where
  has_states : draft.states ≠ []
  names_distinct : draft.names.Nodup
  declarations_acceptable : ∀ state ∈ draft.states, Declaration.Acceptable state.declarations
  targets_known : ∀ state ∈ draft.states, draft.Knows state.targets

inductive FirstProblem (draft : FlowDraft) : DefinitionError → Prop where
  | duplicateState {before later : List StateDraft} {state : StateDraft} :
      draft.states = before ++ state :: later → Sound before →
      state.name ∈ before.map (·.name) → FirstProblem draft (.duplicateState state.name)
  | declaration {before later : List StateDraft} {state : StateDraft}
      {problem : DefinitionError} :
      draft.states = before ++ state :: later → Sound before →
      state.name ∉ before.map (·.name) →
      Declaration.FirstFault state.name state.declarations problem → FirstProblem draft problem
  | emptyFlow : draft.states = [] → FirstProblem draft (.emptyFlow draft.name)
  | unknownTarget {before later : List StateDraft} {state : StateDraft}
      {known rest : List (String × String)} {name target : String} :
      Sound draft.states → draft.states = before ++ state :: later →
      (∀ earlier ∈ before, draft.Knows earlier.targets) →
      state.targets = known ++ (name, target) :: rest → draft.Knows known →
      target ∉ draft.names → FirstProblem draft (.unknownTarget state.name name target)

end FlowDraft

/-! ## Targets -/

namespace Binding

variable {binding : Binding}

theorem targets_decision (decider : String) :
    (binding.decision decider).targets = binding.outcomes decider := by
  cases yes : binding.yes <;> cases no : binding.no <;>
    simp [Decision.targets, Decision.target?, Decision.pathName, Outcome.text, decision, outcomes,
      yes, no, String.append_assoc]

theorem outcomes_eq_nil (undecided : binding.isDecision = false) (decider : String) :
    binding.outcomes decider = [] := by
  obtain ⟨yes, no⟩ := isDecision_eq_false_iff.mp undecided
  simp [outcomes, yes, no]

end Binding

namespace Declaration

variable {declaration : Declaration} {declarations : List Declaration} {state : String}

theorem keyedTargets_of_unbound (unbound : declaration.bound? = none) :
    declaration.keyedTargets = [] := by
  cases declaration with
  | say fragments => rfl
  | prompt key text name binding | press key name binding =>
      cases decides : binding.isDecision <;> simp_all [bound?, keyedTargets]
  | decide decider binding =>
      cases decides : binding.isDecision with
      | false => simp [keyedTargets, Binding.outcomes_eq_nil decides]
      | true => simp_all [bound?, keyedTargets]

theorem keyedTargets_of_bound {key : String} {transition : Transition}
    (bound : declaration.bound? = some (key, transition)) :
    declaration.keyedTargets = transition.targets := by
  cases declaration with
  | say fragments => cases bound
  | prompt pressed text name binding | press pressed name binding =>
      obtain ⟨rfl, ⟨decides, rfl⟩ | ⟨fires, target, goes, rfl⟩⟩ := bound_press_cases bound
      · rw [keyedTargets, if_pos decides]
        exact (Binding.targets_decision name).symm
      · rw [keyedTargets, if_neg (by simp [fires]), goes]
        rfl
  | decide decider binding =>
      obtain ⟨-, keyed, rfl⟩ := bound_decide_cases bound
      rw [keyedTargets, keyed]
      exact (Binding.targets_decision decider).symm

theorem automaticTargets_eq :
    declaration.automaticTargets = declaration.taken?.toList.flatMap (·.targets) := by
  cases declaration with
  | say | prompt | press => rfl
  | decide decider binding =>
      cases decides : binding.isDecision with
      | false => simp [automaticTargets, taken?, decides, Binding.outcomes_eq_nil decides]
      | true =>
          cases keyed : binding.press <;>
            simp [automaticTargets, taken?, decides, keyed, Binding.targets_decision]

theorem Clear.faultless (clear : Clear state declarations) (member : declaration ∈ declarations) :
    ∃ known, ∀ problem, ¬ Faulty state known declaration problem := by
  obtain ⟨earlier, later, split⟩ := List.append_of_mem member
  exact ⟨Binds earlier, clear earlier declaration later split⟩

theorem keyBinding_targets (clear : Clear state declarations)
    (member : declaration ∈ declarations) :
    declaration.keyBinding?.toList.flatMap (·.transition.targets) = declaration.keyedTargets := by
  cases bound : declaration.bound? with
  | none => rw [keyBinding?_of_unbound bound, keyedTargets_of_unbound bound]; rfl
  | some keyed =>
      obtain ⟨key, transition⟩ := keyed
      obtain ⟨known, faultless⟩ := clear.faultless member
      cases read : KeyPattern.parse key with
      | error reason => exact absurd (.invalidKey bound read) (faultless _)
      | ok pattern =>
          rw [keyBinding?_of_bound bound read, keyedTargets_of_bound bound]
          simp

end Declaration

theorem StateDraft.meant_targets {draft : StateDraft} (clear : draft.Clear) :
    draft.meant.targets = draft.targets := by
  have keyed : draft.meant.keys.flatMap (·.transition.targets) =
      draft.declarations.flatMap Declaration.keyedTargets := by
    change (draft.declarations.filterMap Declaration.keyBinding?).flatMap _ = _
    rw [List.filterMap_eq_flatMap_toList, List.flatMap_assoc]
    exact List.flatMap_congr fun declaration member => Declaration.keyBinding_targets clear member
  have automatic : draft.meant.decisions.flatMap (·.targets) =
      draft.declarations.flatMap Declaration.automaticTargets := by
    change (draft.declarations.filterMap Declaration.taken?).flatMap _ = _
    rw [List.filterMap_eq_flatMap_toList, List.flatMap_assoc]
    exact List.flatMap_congr fun declaration _ => Declaration.automaticTargets_eq.symm
  rw [State.targets, keyed, automatic, targets]

/-! ## Declarations -/

namespace Declaration

variable {declaration : Declaration} {declarations : List Declaration} {state : String}

theorem Lacks.not_leads {problem : DefinitionError} (lacks : declaration.Lacks state problem) :
    ¬ declaration.Leads := by
  cases lacks with
  | promptTarget yes no go => simp [Leads, yes, no, go]
  | pressTarget yes no go => simp [Leads, yes, no, go]
  | outcome yes no => simp [Leads, yes, no]

theorem lacks_of_not_leads (state : String) (leadless : ¬ declaration.Leads) :
    ∃ problem, declaration.Lacks state problem := by
  cases declaration with
  | say fragments => exact absurd trivial leadless
  | prompt key text name binding =>
      obtain ⟨yes, no, go⟩ : binding.yes = none ∧ binding.no = none ∧ binding.go = none := by
        simpa [Leads] using leadless
      exact ⟨_, .promptTarget yes no go⟩
  | press key name binding =>
      obtain ⟨yes, no, go⟩ : binding.yes = none ∧ binding.no = none ∧ binding.go = none := by
        simpa [Leads] using leadless
      exact ⟨_, .pressTarget yes no go⟩
  | decide decider binding =>
      obtain ⟨yes, no⟩ : binding.yes = none ∧ binding.no = none := by
        simpa [Leads] using leadless
      exact ⟨_, .outcome yes no⟩

theorem bound_of_leads (leads : declaration.Leads) :
    declaration.bound?.map Prod.fst = declaration.keyText? := by
  cases declaration with
  | say fragments => rfl
  | prompt key text name binding | press key name binding =>
      cases decides : binding.isDecision with
      | true => simp [bound?, keyText?, decides]
      | false =>
          obtain ⟨yes, no⟩ := Binding.isDecision_eq_false_iff.mp decides
          obtain ⟨target, goes⟩ : ∃ target, binding.go = some target := by
            simpa [Leads, yes, no, Option.isSome_iff_exists] using leads
          simp [bound?, keyText?, decides, goes]
  | decide decider binding =>
      have decides : binding.isDecision = true := by
        simpa [Binding.isDecision, Leads] using leads
      cases keyed : binding.press <;> simp [bound?, keyText?, decides, keyed]

theorem faultless_iff {known : KeyPattern → Prop} :
    (∀ problem, ¬ Faulty state known declaration problem) ↔
      declaration.Leads ∧ ∀ text, declaration.keyText? = some text →
        ∃ pattern, KeyPattern.parse text = .ok pattern ∧ ¬ known pattern := by
  constructor
  · intro faultless
    have leads : declaration.Leads := by
      refine Classical.byContradiction fun leadless => ?_
      obtain ⟨problem, lacks⟩ := lacks_of_not_leads state leadless
      exact faultless problem (.lacks lacks)
    refine ⟨leads, fun text keyed => ?_⟩
    rw [← bound_of_leads leads] at keyed
    obtain ⟨⟨key, transition⟩, bound, rfl⟩ := Option.map_eq_some_iff.mp keyed
    cases read : KeyPattern.parse key with
    | error reason => exact absurd (.invalidKey bound read) (faultless _)
    | ok pattern =>
        exact ⟨pattern, rfl, fun bindsAlready =>
          faultless _ (.duplicateKey bound read bindsAlready)⟩
  · rintro ⟨leads, keys⟩ problem faulty
    have keyed : ∀ {key transition}, declaration.bound? = some (key, transition) →
        ∃ pattern, KeyPattern.parse key = .ok pattern ∧ ¬ known pattern := by
      intro key transition bound
      exact keys key (by rw [← bound_of_leads leads, bound]; rfl)
    cases faulty with
    | lacks lacks => exact lacks.not_leads leads
    | invalidKey bound refused =>
        obtain ⟨pattern, read, -⟩ := keyed bound
        cases refused.symm.trans read
    | duplicateKey bound read bindsAlready =>
        obtain ⟨pattern, readAgain, fresh⟩ := keyed bound
        cases read.symm.trans readAgain
        exact fresh bindsAlready

theorem binds_iff {pattern : KeyPattern}
    (leads : ∀ declaration ∈ declarations, declaration.Leads) :
    Binds declarations pattern ↔
      ∃ text ∈ declarations.filterMap keyText?, KeyPattern.parse text = .ok pattern := by
  simp only [Binds, List.mem_filterMap]
  constructor
  · rintro ⟨declaration, member, text, transition, bound, read⟩
    refine ⟨text, ⟨declaration, member, ?_⟩, read⟩
    rw [← bound_of_leads (leads declaration member), bound]
    rfl
  · rintro ⟨text, ⟨declaration, member, keyed⟩, read⟩
    rw [← bound_of_leads (leads declaration member)] at keyed
    obtain ⟨⟨key, transition⟩, bound, rfl⟩ := Option.map_eq_some_iff.mp keyed
    exact ⟨declaration, member, key, transition, bound, read⟩

theorem acceptable_concat :
    Acceptable (declarations ++ [declaration]) ↔
      Acceptable declarations ∧ declaration.Leads ∧
        ∀ text, declaration.keyText? = some text → ∃ pattern,
          KeyPattern.parse text = .ok pattern ∧
            ∀ earlier ∈ declarations.filterMap keyText?, KeyPattern.parse earlier ≠ .ok pattern := by
  have texts : (declarations ++ [declaration]).filterMap keyText? =
      declarations.filterMap keyText? ++ declaration.keyText?.toList := by
    cases keyed : declaration.keyText? <;> simp [keyed]
  constructor
  · rintro ⟨leads, read, distinct⟩
    rw [texts] at read distinct
    obtain ⟨distinctBefore, -, different⟩ := List.pairwise_append.mp distinct
    refine ⟨⟨fun other member => leads other (List.mem_append_left _ member),
      fun text member => read text (List.mem_append_left _ member), distinctBefore⟩,
      leads declaration (by simp), fun text keyed => ?_⟩
    have last : text ∈ declaration.keyText?.toList := by simp [keyed]
    obtain ⟨pattern, reads⟩ := read text (List.mem_append_right _ last)
    exact ⟨pattern, reads, fun earlier member same =>
      different earlier member text last pattern same reads⟩
  · rintro ⟨⟨leads, read, distinct⟩, leadsLast, last⟩
    refine ⟨fun other member => ?_, ?_, ?_⟩
    · rcases List.mem_append.mp member with before | here
      · exact leads other before
      · rw [List.mem_singleton.mp here]
        exact leadsLast
    · rw [texts]
      intro text member
      rcases List.mem_append.mp member with before | here
      · exact read text before
      · obtain ⟨pattern, reads, -⟩ := last text (Option.mem_toList.mp here)
        exact ⟨pattern, reads⟩
    · rw [texts]
      refine List.pairwise_append.mpr ⟨distinct, ?_, ?_⟩
      · cases declaration.keyText? <;> simp
      · intro earlier member text here pattern readEarlier readLast
        obtain ⟨other, reads, different⟩ := last text (Option.mem_toList.mp here)
        cases readLast.symm.trans reads
        exact different earlier member readEarlier

theorem clear_iff_acceptable : Clear state declarations ↔ Acceptable declarations := by
  induction declarations using List.reverseRecOn with
  | nil => exact ⟨fun _ => ⟨by simp, by simp, by simp⟩, fun _ => by simp [Clear]⟩
  | append_singleton declarations declaration ih =>
      rw [clear_concat, acceptable_concat, ih, faultless_iff]
      refine and_congr_right fun acceptable => and_congr_right fun _ => ?_
      have unbound : ∀ pattern, ¬ Binds declarations pattern ↔
          ∀ earlier ∈ declarations.filterMap keyText?, KeyPattern.parse earlier ≠ .ok pattern := by
        intro pattern
        rw [binds_iff acceptable.all_lead]
        simp only [not_exists, not_and, ne_eq]
      simp only [unbound]

end Declaration

/-! ## Drafts -/

namespace FlowDraft

variable {draft : FlowDraft} {problem : DefinitionError}

/-- The problems of a state after states of the given names. -/
def problemsOf (names : List String) (state : StateDraft) : List DefinitionError :=
  (if state.name ∈ names then [.duplicateState state.name] else []) ++ state.declared.problems

theorem head?_problemsOf_iff {names : List String} {state : StateDraft} :
    (problemsOf names state).head? = some problem ↔
      (state.name ∈ names ∧ problem = .duplicateState state.name) ∨
        (state.name ∉ names ∧
          Declaration.FirstFault state.name state.declarations problem) := by
  by_cases known : state.name ∈ names
  · simp [problemsOf, known, eq_comm]
  · simpa [problemsOf, known] using state.declared_reports.first problem

theorem head?_problemsAfter_iff {names : List String} {states : List StateDraft} :
    (problemsAfter names states).head? = some problem ↔
      ∃ before state later, states = before ++ state :: later ∧ problemsAfter names before = [] ∧
        (problemsOf ((before.map (·.name)).reverse ++ names) state).head? = some problem := by
  induction states generalizing names with
  | nil => simp [problemsAfter]
  | cons first rest ih =>
      have unfolds : ∀ states, problemsAfter names (first :: states) =
          problemsOf names first ++ problemsAfter (first.name :: names) states := fun _ => rfl
      rw [unfolds]
      -- Either the first state is no problem and the rest decides, or its problem is the first.
      cases here : problemsOf names first with
      | nil =>
          rw [List.nil_append, ih]
          constructor
          · rintro ⟨before, state, later, rfl, none, head⟩
            refine ⟨first :: before, state, later, rfl, ?_, by simpa using head⟩
            rw [unfolds, here, none]
            rfl
          · rintro ⟨before, state, later, split, none, head⟩
            cases before with
            | nil =>
                cases split
                rw [List.map_nil, List.reverse_nil, List.nil_append, here] at head
                cases head
            | cons other before =>
                cases split
                rw [unfolds, here] at none
                exact ⟨before, state, later, rfl, none, by simpa using head⟩
      | cons reported others =>
          constructor
          · intro head
            exact ⟨[], first, rest, rfl, rfl, by simpa [here] using head⟩
          · rintro ⟨before, state, later, split, none, head⟩
            cases before with
            | nil =>
                cases split
                simpa [here] using head
            | cons other before =>
                cases split
                rw [unfolds, here] at none
                cases none

theorem unknownTargets_eq_nil_iff {state : State} :
    unknownTargets draft.names state = [] ↔ draft.Knows state.targets := by
  simp [unknownTargets, Knows]

theorem head?_unknownTargets_iff {state : State} :
    (unknownTargets draft.names state).head? = some problem ↔
      ∃ known name target rest, state.targets = known ++ (name, target) :: rest ∧
        draft.Knows known ∧ target ∉ draft.names ∧
        problem = .unknownTarget state.name name target := by
  rw [unknownTargets, List.head?_map, List.head?_filter, Option.map_eq_some_iff]
  constructor
  · rintro ⟨⟨name, target⟩, found, rfl⟩
    obtain ⟨unknown, known, rest, split, before⟩ := List.find?_eq_some_iff_append.mp found
    refine ⟨known, name, target, rest, split, fun path member => ?_, by simpa using unknown, rfl⟩
    simpa using before path member
  · rintro ⟨known, name, target, rest, split, knows, unknown, rfl⟩
    refine ⟨(name, target), List.find?_eq_some_iff_append.mpr ⟨by simpa using unknown, known, rest,
      split, fun path member => ?_⟩, rfl⟩
    simpa using knows path member

/-- The targets that no state declares, when no declaration is a problem. -/
def strayTargets (draft : FlowDraft) : List DefinitionError :=
  (draft.states.map StateDraft.meant).flatMap (unknownTargets draft.names)

theorem strayTargets_eq_nil_iff (sound : Sound draft.states) :
    draft.strayTargets = [] ↔ ∀ state ∈ draft.states, draft.Knows state.targets := by
  rw [strayTargets, List.flatMap_eq_nil_iff, List.forall_mem_map]
  refine forall₂_congr fun state member => ?_
  rw [unknownTargets_eq_nil_iff, StateDraft.meant_targets (sound.2 state member)]

theorem head?_strayTargets_iff (sound : Sound draft.states) :
    draft.strayTargets.head? = some problem ↔
      ∃ before state later known name target rest, draft.states = before ++ state :: later ∧
        (∀ earlier ∈ before, draft.Knows earlier.targets) ∧
        state.targets = known ++ (name, target) :: rest ∧ draft.Knows known ∧
        target ∉ draft.names ∧ problem = .unknownTarget state.name name target := by
  have targets : ∀ state ∈ draft.states, state.meant.targets = state.targets :=
    fun state member => StateDraft.meant_targets (sound.2 state member)
  rw [strayTargets, List.flatMap_map, List.head?_flatMap, List.findSome?_eq_some_iff]
  constructor
  · rintro ⟨before, state, later, split, found, none⟩
    obtain ⟨known, name, target, rest, named, knows, unknown, rfl⟩ :=
      head?_unknownTargets_iff.mp found
    rw [targets state (by simp [split])] at named
    refine ⟨before, state, later, known, name, target, rest, split, fun earlier member => ?_,
      named, knows, unknown, rfl⟩
    rw [← targets earlier (by simp [split, member])]
    exact unknownTargets_eq_nil_iff.mp (List.head?_eq_none_iff.mp (none earlier member))
  · rintro ⟨before, state, later, known, name, target, rest, split, knowsBefore, named, knows,
      unknown, rfl⟩
    refine ⟨before, state, later, split, ?_, fun earlier member => ?_⟩
    · refine head?_unknownTargets_iff.mpr ⟨known, name, target, rest, ?_, knows, unknown, rfl⟩
      rw [targets state (by simp [split]), named]
    · refine List.head?_eq_none_iff.mpr (unknownTargets_eq_nil_iff.mpr ?_)
      rw [targets earlier (by simp [split, member])]
      exact knowsBefore earlier member

theorem problemless_iff {states : List StateDraft} :
    problemsAfter [] states = [] ↔ Sound states := by
  rw [problemsAfter_eq_nil_iff]
  simp

theorem sound_iff : Sound draft.states ↔ draft.names.Nodup ∧
    ∀ state ∈ draft.states, Declaration.Acceptable state.declarations :=
  and_congr_right fun _ => forall₂_congr fun _ _ => Declaration.clear_iff_acceptable

theorem build_of_problem (first : (problemsAfter [] draft.states).head? = some problem) :
    draft.build = .error problem := by
  obtain ⟨others, problems⟩ := List.head?_eq_some_iff.mp first
  simp [build, problems]

theorem build_of_empty (empty : draft.states = []) :
    draft.build = .error (.emptyFlow draft.name) := by
  simp [build, empty, problemsAfter]

theorem build_of_sound (sound : Sound draft.states) (nonempty : draft.states ≠ []) :
    (∃ flow, draft.build = .ok flow ∧ draft.strayTargets = []) ∨
      ∃ problem, draft.build = .error problem ∧ draft.strayTargets.head? = some problem := by
  have names : (draft.states.map StateDraft.meant).map (·.name) = draft.names :=
    map_meant_name draft.states
  rw [build, strayTargets, problemless_iff.mpr sound, declared_states_eq_meant sound]
  cases meant : draft.states.map StateDraft.meant with
  | nil => exact absurd (List.map_eq_nil_iff.mp meant) nonempty
  | cons initial others =>
      rw [meant] at names
      dsimp only
      rw [names]
      cases (initial :: others).flatMap (unknownTargets draft.names) with
      | nil => exact .inl ⟨_, rfl, rfl⟩
      | cons problem rest => exact .inr ⟨problem, rfl, rfl⟩

theorem acceptable_iff :
    draft.Acceptable ↔ Sound draft.states ∧ draft.states ≠ [] ∧ draft.strayTargets = [] := by
  constructor
  · rintro ⟨nonempty, distinct, acceptable, known⟩
    have sound : Sound draft.states := sound_iff.mpr ⟨distinct, acceptable⟩
    exact ⟨sound, nonempty, (strayTargets_eq_nil_iff sound).mpr known⟩
  · rintro ⟨sound, nonempty, stray⟩
    obtain ⟨distinct, acceptable⟩ := sound_iff.mp sound
    exact ⟨nonempty, distinct, acceptable, (strayTargets_eq_nil_iff sound).mp stray⟩

theorem built_iff_acceptable : (∃ flow, draft.build = .ok flow) ↔ draft.Acceptable := by
  rw [acceptable_iff]
  constructor
  · rintro ⟨flow, built⟩
    obtain ⟨sound, states⟩ := states_of_build_ok built
    have nonempty : draft.states ≠ [] := by
      intro empty
      rw [empty] at states
      cases states
    rcases build_of_sound sound nonempty with ⟨-, -, stray⟩ | ⟨problem, refused, -⟩
    · exact ⟨sound, nonempty, stray⟩
    · cases built.symm.trans refused
  · rintro ⟨sound, nonempty, stray⟩
    rcases build_of_sound sound nonempty with ⟨flow, built, -⟩ | ⟨problem, -, first⟩
    · exact ⟨flow, built⟩
    · rw [stray] at first
      cases first

theorem head?_problems_iff :
    (problemsAfter [] draft.states).head? = some problem ↔
      ∃ before state later, draft.states = before ++ state :: later ∧ Sound before ∧
        ((state.name ∈ before.map (·.name) ∧ problem = .duplicateState state.name) ∨
          (state.name ∉ before.map (·.name) ∧
            Declaration.FirstFault state.name state.declarations problem)) := by
  simp only [head?_problemsAfter_iff, problemless_iff, head?_problemsOf_iff, List.append_nil,
    List.mem_reverse]

theorem FirstProblem.of_head (first : (problemsAfter [] draft.states).head? = some problem) :
    draft.FirstProblem problem := by
  obtain ⟨before, state, later, split, sound, ⟨known, rfl⟩ | ⟨fresh, fault⟩⟩ :=
    head?_problems_iff.mp first
  · exact .duplicateState split sound known
  · exact .declaration split sound fresh fault

theorem FirstProblem.of_error (refused : draft.build = .error problem) :
    draft.FirstProblem problem := by
  cases first : (problemsAfter [] draft.states).head? with
  | some reported =>
      cases (build_of_problem first).symm.trans refused
      exact .of_head first
  | none =>
      have sound : Sound draft.states := problemless_iff.mp (List.head?_eq_none_iff.mp first)
      by_cases empty : draft.states = []
      · cases (build_of_empty empty).symm.trans refused
        exact .emptyFlow empty
      · rcases build_of_sound sound empty with ⟨flow, built, -⟩ | ⟨stray, refusedAgain, head⟩
        · cases refused.symm.trans built
        · cases refused.symm.trans refusedAgain
          obtain ⟨before, state, later, known, name, target, rest, split, knowsBefore, named,
            knows, unknown, rfl⟩ := (head?_strayTargets_iff sound).mp head
          exact .unknownTarget sound split knowsBefore named knows unknown

theorem FirstProblem.build_eq (first : draft.FirstProblem problem) :
    draft.build = .error problem := by
  cases first with
  | duplicateState split sound known =>
      exact build_of_problem (head?_problems_iff.mpr
        ⟨_, _, _, split, sound, .inl ⟨known, rfl⟩⟩)
  | declaration split sound fresh fault =>
      exact build_of_problem (head?_problems_iff.mpr
        ⟨_, _, _, split, sound, .inr ⟨fresh, fault⟩⟩)
  | emptyFlow empty => exact build_of_empty empty
  | unknownTarget sound split knowsBefore named knows unknown =>
      have nonempty : draft.states ≠ [] := by simp [split]
      have head := (head?_strayTargets_iff sound).mpr
        ⟨_, _, _, _, _, _, _, split, knowsBefore, named, knows, unknown, rfl⟩
      rcases build_of_sound sound nonempty with ⟨-, -, none⟩ | ⟨stray, refused, headAgain⟩
      · rw [none] at head
        cases head
      · cases head.symm.trans headAgain
        exact refused

/-- A draft is built if and only if it is acceptable. The error of any other draft is its first
problem, and a draft that has a first problem is not built. -/
theorem build_rejects_exactly (draft : FlowDraft) :
    ((∃ flow, draft.build = .ok flow) ↔ draft.Acceptable) ∧
      ∀ problem, draft.build = .error problem ↔ draft.FirstProblem problem :=
  ⟨built_iff_acceptable, fun _ => ⟨FirstProblem.of_error, FirstProblem.build_eq⟩⟩

/-- Two spellings of a pattern are one key. -/
example :
    FlowDraft.build
        { name := "menu"
          states :=
            [⟨"ask", [.press ".5" "few" { go := some "ask" },
              .press " .05" "many" { go := some "ask" }]⟩] } =
      .error (.duplicateKey "ask" (.wildcard (.fixed 5))) := rfl

end FlowDraft

end VoiceMenu
