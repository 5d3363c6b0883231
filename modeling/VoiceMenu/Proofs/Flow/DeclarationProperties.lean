import VoiceMenu.Flow.Draft

/-! What the declarations of a state mean, and when one of them is a problem. A problem
depends on the declaration and on the keys that the declarations before it have bound.
What a draft of a state holds after any declarations is read off them. -/

set_option autoImplicit false

namespace VoiceMenu

def Binding.decision (binding : Binding) (decider : String) : Decision :=
  ⟨decider, binding.action, binding.yes, binding.no⟩

namespace Declaration

/-! ## Reading a declaration -/

/-- What the state says after the declaration. -/
def spoken (said : List Fragment) : Declaration → List Fragment
  | .say fragments => fragments
  | .prompt _ text _ _ => said ++ [text]
  | .press _ _ _ | .decide _ _ => said

/-- The key text that is bound, and what the key does. -/
def bound? : Declaration → Option (String × Transition)
  | .say _ => none
  | .prompt key _ name binding | .press key name binding =>
      if binding.isDecision then some (key, .decision (binding.decision name))
      else binding.go.map fun target => (key, .event ⟨name, target, binding.action⟩)
  | .decide decider binding =>
      if binding.isDecision then
        binding.press.map fun key => (key, .decision (binding.decision decider))
      else none

/-- The decision that the state takes on its own. -/
def taken? : Declaration → Option Decision
  | .say _ | .prompt _ _ _ _ | .press _ _ _ => none
  | .decide decider binding =>
      if binding.isDecision ∧ binding.press = none then some (binding.decision decider) else none

/-- The key binding that comes of the declaration, if its key text is a pattern. -/
def keyBinding? (declaration : Declaration) : Option KeyBinding :=
  declaration.bound?.bind fun (key, transition) =>
    (KeyPattern.parse key).toOption.map fun pattern => ⟨pattern, transition⟩

/-- The declaration has nowhere to go. -/
inductive Lacks (state : String) : Declaration → DefinitionError → Prop where
  | promptTarget {key name : String} {text : Fragment} {binding : Binding} :
      binding.yes = none → binding.no = none → binding.go = none →
      Lacks state (.prompt key text name binding) (.missingTarget state name)
  | pressTarget {key name : String} {binding : Binding} :
      binding.yes = none → binding.no = none → binding.go = none →
      Lacks state (.press key name binding) (.missingTarget state name)
  | outcome {decider : String} {binding : Binding} :
      binding.yes = none → binding.no = none →
      Lacks state (.decide decider binding) (.missingOutcome state decider)

/-- The problem of a declaration in a state that binds the known patterns already. -/
inductive Faulty (state : String) (known : KeyPattern → Prop) (declaration : Declaration) :
    DefinitionError → Prop where
  | lacks {problem : DefinitionError} :
      declaration.Lacks state problem → Faulty state known declaration problem
  | invalidKey {key : String} {transition : Transition} {reason : PatternError} :
      declaration.bound? = some (key, transition) → KeyPattern.parse key = .error reason →
      Faulty state known declaration (.invalidKeyPattern state key reason)
  | duplicateKey {key : String} {transition : Transition} {pattern : KeyPattern} :
      declaration.bound? = some (key, transition) → KeyPattern.parse key = .ok pattern →
      known pattern → Faulty state known declaration (.duplicateKey state pattern)

/-- The patterns that the declarations bind. One that is rejected for what it lacks, or
for its key text, binds none. -/
def Binds (declarations : List Declaration) (pattern : KeyPattern) : Prop :=
  ∃ declaration ∈ declarations, ∃ key transition,
    declaration.bound? = some (key, transition) ∧ KeyPattern.parse key = .ok pattern

/-- No declaration is a problem after those before it. -/
def Clear (state : String) (declarations : List Declaration) : Prop :=
  ∀ earlier declaration later, declarations = earlier ++ declaration :: later →
    ∀ problem, ¬ Faulty state (Binds earlier) declaration problem

/-- The problem of the first declaration that is one. -/
def FirstFault (state : String) (declarations : List Declaration) (problem : DefinitionError) :
    Prop :=
  ∃ earlier declaration later, declarations = earlier ++ declaration :: later ∧
    Clear state earlier ∧ Faulty state (Binds earlier) declaration problem

/-! ## One declaration more -/

variable {state : String} {declarations : List Declaration} {declaration : Declaration}

private theorem concat_eq_append_cons_iff {α : Type} {items front back : List α} {last item : α} :
    items ++ [last] = front ++ item :: back ↔
      (items = front ∧ last = item ∧ back = []) ∨
        ∃ rest, back = rest ++ [last] ∧ items = front ++ item :: rest := by
  constructor
  · intro same
    rcases List.eq_nil_or_concat back with empty | ⟨rest, final, split⟩
    · subst empty
      obtain ⟨sameItems, sameLast⟩ := List.append_inj' same rfl
      cases sameLast
      exact .inl ⟨sameItems, rfl, rfl⟩
    · subst split
      have regrouped : items ++ [last] = (front ++ item :: rest) ++ [final] := by simpa using same
      obtain ⟨sameItems, sameLast⟩ := List.append_inj' regrouped rfl
      cases sameLast
      exact .inr ⟨rest, by simp, sameItems⟩
  · rintro (⟨rfl, rfl, rfl⟩ | ⟨rest, rfl, rfl⟩)
    · rfl
    · simp

private theorem filterMap_concat {α β : Type} (pick : α → Option β) (items : List α) (last : α) :
    (items ++ [last]).filterMap pick = items.filterMap pick ++ (pick last).toList := by
  cases picked : pick last <;> simp [picked]

theorem filterMap_taken_concat :
    (declarations ++ [declaration]).filterMap taken? =
      declarations.filterMap taken? ++ declaration.taken?.toList :=
  filterMap_concat taken? declarations declaration

theorem filterMap_keyBinding_concat :
    (declarations ++ [declaration]).filterMap keyBinding? =
      declarations.filterMap keyBinding? ++ declaration.keyBinding?.toList :=
  filterMap_concat keyBinding? declarations declaration

theorem binds_concat {pattern : KeyPattern} :
    Binds (declarations ++ [declaration]) pattern ↔
      Binds declarations pattern ∨ ∃ key transition,
        declaration.bound? = some (key, transition) ∧ KeyPattern.parse key = .ok pattern := by
  simp [Binds, or_and_right, exists_or]

theorem clear_concat :
    Clear state (declarations ++ [declaration]) ↔
      Clear state declarations ∧
        ∀ problem, ¬ Faulty state (Binds declarations) declaration problem := by
  constructor
  · intro clear
    refine ⟨?_, clear declarations declaration [] rfl⟩
    intro earlier middle later split
    exact clear earlier middle (later ++ [declaration]) (by simp [split])
  · rintro ⟨clear, faultless⟩ earlier middle later split
    rcases concat_eq_append_cons_iff.mp split with ⟨rfl, rfl, -⟩ | ⟨rest, -, splitBefore⟩
    · exact faultless
    · exact clear earlier middle rest splitBefore

theorem firstFault_concat {problem : DefinitionError} :
    FirstFault state (declarations ++ [declaration]) problem ↔
      FirstFault state declarations problem ∨
        Clear state declarations ∧ Faulty state (Binds declarations) declaration problem := by
  constructor
  · rintro ⟨earlier, middle, later, split, clear, faulty⟩
    rcases concat_eq_append_cons_iff.mp split with ⟨rfl, rfl, -⟩ | ⟨rest, -, splitBefore⟩
    · exact .inr ⟨clear, faulty⟩
    · exact .inl ⟨earlier, middle, rest, splitBefore, clear, faulty⟩
  · rintro (⟨earlier, middle, later, split, clear, faulty⟩ | ⟨clear, faulty⟩)
    · exact ⟨earlier, middle, later ++ [declaration], by simp [split], clear, faulty⟩
    · exact ⟨declarations, declaration, [], rfl, clear, faulty⟩

theorem FirstFault.not_clear {problem : DefinitionError}
    (first : FirstFault state declarations problem) : ¬ Clear state declarations := by
  intro clear
  obtain ⟨earlier, declaration, later, split, -, faulty⟩ := first
  exact clear earlier declaration later split problem faulty

end Declaration

/-! ## What a declaration does to a draft -/

theorem Binding.isDecision_eq_false_iff {binding : Binding} :
    binding.isDecision = false ↔ binding.yes = none ∧ binding.no = none := by
  simp [Binding.isDecision]

namespace Declaration

theorem bound_press_cases {key name text : String} {binding : Binding} {transition : Transition}
    (bound : (Declaration.press key name binding).bound? = some (text, transition)) :
    text = key ∧
      ((binding.isDecision = true ∧ transition = .decision (binding.decision name)) ∨
        (binding.isDecision = false ∧ ∃ target, binding.go = some target ∧
          transition = .event ⟨name, target, binding.action⟩)) := by
  rw [bound?] at bound
  split at bound
  · rename_i decides
    cases bound
    exact ⟨rfl, .inl ⟨decides, rfl⟩⟩
  · rename_i fires
    obtain ⟨target, goes, same⟩ := Option.map_eq_some_iff.mp bound
    cases same
    exact ⟨rfl, .inr ⟨Bool.eq_false_iff.mpr fires, target, goes, rfl⟩⟩

theorem bound_decide_cases {decider text : String} {binding : Binding} {transition : Transition}
    (bound : (Declaration.decide decider binding).bound? = some (text, transition)) :
    binding.isDecision = true ∧ binding.press = some text ∧
      transition = .decision (binding.decision decider) := by
  rw [bound?] at bound
  split at bound
  · rename_i decides
    obtain ⟨key, keyed, same⟩ := Option.map_eq_some_iff.mp bound
    cases same
    exact ⟨decides, keyed, rfl⟩
  · cases bound

theorem Lacks.unbound {state : String} {declaration : Declaration} {problem : DefinitionError}
    (lacks : declaration.Lacks state problem) : declaration.bound? = none := by
  cases lacks with
  | promptTarget yes no go =>
      simp [bound?, Binding.isDecision_eq_false_iff.mpr ⟨yes, no⟩, go]
  | pressTarget yes no go =>
      simp [bound?, Binding.isDecision_eq_false_iff.mpr ⟨yes, no⟩, go]
  | outcome yes no => simp [bound?, Binding.isDecision_eq_false_iff.mpr ⟨yes, no⟩]

theorem Lacks.untaken {state : String} {declaration : Declaration} {problem : DefinitionError}
    (lacks : declaration.Lacks state problem) : declaration.taken? = none := by
  cases lacks with
  | promptTarget => rfl
  | pressTarget => rfl
  | outcome yes no => simp [taken?, Binding.isDecision_eq_false_iff.mpr ⟨yes, no⟩]

theorem untaken_of_bound {declaration : Declaration} {bound : String × Transition}
    (binds : declaration.bound? = some bound) : declaration.taken? = none := by
  cases declaration with
  | say | prompt | press => rfl
  | decide decider binding =>
      cases keyed : binding.press <;> simp_all [bound?, taken?]

theorem unbound_of_taken {declaration : Declaration} {decision : Decision}
    (taken : declaration.taken? = some decision) : declaration.bound? = none := by
  cases bound : declaration.bound? with
  | none => rfl
  | some keyed => cases (untaken_of_bound bound).symm.trans taken

theorem keyBinding?_of_unbound {declaration : Declaration} (unbound : declaration.bound? = none) :
    declaration.keyBinding? = none := by
  simp [keyBinding?, unbound]

theorem keyBinding?_of_bound {declaration : Declaration} {key : String} {transition : Transition}
    {pattern : KeyPattern} (bound : declaration.bound? = some (key, transition))
    (read : KeyPattern.parse key = .ok pattern) :
    declaration.keyBinding? = some ⟨pattern, transition⟩ := by
  simp [keyBinding?, bound, read, Except.toOption]

theorem Faulty.untaken {state : String} {known : KeyPattern → Prop} {declaration : Declaration}
    {problem : DefinitionError} (faulty : declaration.Faulty state known problem) :
    declaration.taken? = none := by
  cases faulty with
  | lacks lacks => exact lacks.untaken
  | invalidKey bound => exact untaken_of_bound bound
  | duplicateKey bound => exact untaken_of_bound bound

theorem Lacks.unique {state : String} {declaration : Declaration}
    {problem other : DefinitionError} (lacks : declaration.Lacks state problem)
    (again : declaration.Lacks state other) : problem = other := by
  cases lacks <;> cases again <;> rfl

/-- A declaration is one problem at most. -/
theorem Faulty.unique {state : String} {known : KeyPattern → Prop} {declaration : Declaration}
    {problem other : DefinitionError} (faulty : declaration.Faulty state known problem)
    (again : declaration.Faulty state known other) : problem = other := by
  cases faulty with
  | lacks lacks =>
      cases again with
      | lacks lacksAgain => exact lacks.unique lacksAgain
      | invalidKey bound => cases lacks.unbound.symm.trans bound
      | duplicateKey bound => cases lacks.unbound.symm.trans bound
  | invalidKey bound refused =>
      cases again with
      | lacks lacks => cases lacks.unbound.symm.trans bound
      | invalidKey boundAgain refusedAgain =>
          cases bound.symm.trans boundAgain
          cases refused.symm.trans refusedAgain
          rfl
      | duplicateKey boundAgain read =>
          cases bound.symm.trans boundAgain
          cases refused.symm.trans read
  | duplicateKey bound read known =>
      cases again with
      | lacks lacks => cases lacks.unbound.symm.trans bound
      | invalidKey boundAgain refused =>
          cases bound.symm.trans boundAgain
          cases read.symm.trans refused
      | duplicateKey boundAgain readAgain _ =>
          cases bound.symm.trans boundAgain
          cases read.symm.trans readAgain
          rfl

end Declaration

namespace PartialState

variable {draft : PartialState} {declaration : Declaration}

def voiced (draft : PartialState) (declaration : Declaration) : PartialState :=
  draft.setPrompts (declaration.spoken draft.state.prompts)

def Knows (draft : PartialState) (pattern : KeyPattern) : Prop :=
  pattern ∈ draft.state.keys.map (·.pattern)

/-- The ways in which a declaration changes a draft. -/
inductive Declares (draft : PartialState) (declaration : Declaration) : PartialState → Prop where
  | speaks {fragments : List Fragment} :
      declaration = .say fragments → Declares draft declaration (draft.voiced declaration)
  | decides {decision : Decision} :
      declaration.taken? = some decision →
      Declares draft declaration
        ⟨{ (draft.voiced declaration).state with
            decisions := draft.state.decisions ++ [decision] }, draft.problems⟩
  | binds {key : String} {transition : Transition} {pattern : KeyPattern} :
      declaration.bound? = some (key, transition) → KeyPattern.parse key = .ok pattern →
      ¬ draft.Knows pattern →
      Declares draft declaration
        ⟨{ (draft.voiced declaration).state with
            keys := draft.state.keys ++ [⟨pattern, transition⟩] }, draft.problems⟩
  | fails {problem : DefinitionError} :
      declaration.Faulty draft.state.name draft.Knows problem →
      Declares draft declaration ((draft.voiced declaration).reject problem)

theorem binding?_isSome_iff {state : State} {pattern : KeyPattern} :
    (state.binding? pattern).isSome = true ↔ pattern ∈ state.keys.map (·.pattern) := by
  simp [State.binding?, List.find?_isSome]

theorem declares_addKey {key : String} {transition : Transition}
    (bound : declaration.bound? = some (key, transition)) :
    Declares draft declaration ((draft.voiced declaration).addKey key transition) := by
  unfold addKey
  split
  · rename_i reason refused
    exact .fails (.invalidKey bound refused)
  · rename_i pattern read
    split
    · rename_i known
      exact .fails (.duplicateKey bound read (binding?_isSome_iff.mp known))
    · rename_i unknown
      exact .binds bound read fun known => unknown (binding?_isSome_iff.mpr known)

theorem addPress_of_bound {key name text : String} {binding : Binding} {transition : Transition}
    (bound : (Declaration.press key name binding).bound? = some (text, transition)) :
    draft.addPress key name binding = draft.addKey text transition := by
  obtain ⟨rfl, ⟨decides, rfl⟩ | ⟨fires, target, goes, rfl⟩⟩ := Declaration.bound_press_cases bound
  · rw [addPress, if_pos decides]
    exact if_pos decides
  · rw [addPress, if_neg (by simp [fires]), goes]

theorem addPress_of_unbound (draft : PartialState) {key name : String} {binding : Binding}
    (unbound : (Declaration.press key name binding).bound? = none) :
    draft.addPress key name binding = draft.reject (.missingTarget draft.state.name name) ∧
      binding.yes = none ∧ binding.no = none ∧ binding.go = none := by
  cases decides : binding.isDecision with
  | true => simp [Declaration.bound?, decides] at unbound
  | false =>
      have nowhere : binding.go = none := by simpa [Declaration.bound?, decides] using unbound
      obtain ⟨yes, no⟩ := Binding.isDecision_eq_false_iff.mp decides
      exact ⟨by simp [addPress, decides, nowhere], yes, no, nowhere⟩

theorem declares_declare (draft : PartialState) (declaration : Declaration) :
    Declares draft declaration (draft.declare declaration) := by
  cases declaration with
  | say fragments => exact .speaks rfl
  | prompt key text name binding =>
      cases bound : (Declaration.press key name binding).bound? with
      | none =>
          obtain ⟨rejected, yes, no, go⟩ := addPress_of_unbound
            (draft.voiced (.prompt key text name binding)) bound
          rw [declare]
          change Declares _ _ ((draft.voiced (.prompt key text name binding)).addPress key name binding)
          rw [rejected]
          exact .fails (.lacks (.promptTarget yes no go))
      | some keyed =>
          rw [declare]
          change Declares _ _ ((draft.voiced (.prompt key text name binding)).addPress key name binding)
          rw [addPress_of_bound bound]
          exact declares_addKey bound
  | press key name binding =>
      cases bound : (Declaration.press key name binding).bound? with
      | none =>
          obtain ⟨rejected, yes, no, go⟩ := addPress_of_unbound draft bound
          rw [declare, rejected]
          exact .fails (.lacks (.pressTarget yes no go))
      | some keyed =>
          rw [declare, addPress_of_bound bound]
          exact declares_addKey bound
  | decide decider binding =>
      rw [declare, addDecision]
      split
      · rename_i decides
        dsimp only
        split
        · rename_i key keyed
          exact declares_addKey (by simp [Declaration.bound?, decides, keyed, Binding.decision])
        · rename_i unkeyed
          exact .decides (by simp [Declaration.taken?, decides, unkeyed, Binding.decision])
      · rename_i undecided
        obtain ⟨yes, no⟩ := Binding.isDecision_eq_false_iff.mp (Bool.eq_false_iff.mpr undecided)
        exact .fails (.lacks (.outcome yes no))

/-! ## What a draft holds after some declarations -/

open Declaration

/-- The draft of a state holds what the declarations say. -/
structure Reflects (draft : PartialState) (name : String) (declarations : List Declaration) :
    Prop where
  named : draft.state.name = name
  prompts : draft.state.prompts = declarations.foldl spoken []
  decisions : draft.state.decisions = declarations.filterMap taken?
  knows : ∀ pattern, draft.Knows pattern ↔ Binds declarations pattern
  distinct : (draft.state.keys.map (·.pattern)).Nodup
  keys : Clear name declarations → draft.state.keys = declarations.filterMap keyBinding?

/-- The problems of the draft start with the first problem of the declarations. -/
structure Reports (draft : PartialState) (name : String) (declarations : List Declaration) :
    Prop where
  clear : draft.problems = [] ↔ Clear name declarations
  first : ∀ problem, draft.problems.head? = some problem ↔
    FirstFault name declarations problem

variable {after : PartialState} {name : String} {declarations : List Declaration}

theorem Reflects.faulty_iff (reflects : draft.Reflects name declarations)
    {problem : DefinitionError} :
    Faulty draft.state.name draft.Knows declaration problem ↔
      Faulty name (Binds declarations) declaration problem := by
  have same : draft.Knows = Binds declarations :=
    funext fun pattern => propext (reflects.knows pattern)
  rw [reflects.named, same]

/-- A declaration that binds no key of its own leaves the keys as they are. -/
theorem Reflects.knows_concat (reflects : draft.Reflects name declarations)
    (unbound : declaration.bound? = none) (pattern : KeyPattern) :
    draft.Knows pattern ↔ Binds (declarations ++ [declaration]) pattern := by
  rw [binds_concat, reflects.knows]
  simp [unbound]

theorem Reflects.keys_concat (reflects : draft.Reflects name declarations)
    (unbound : declaration.bound? = none) (clear : Clear name (declarations ++ [declaration])) :
    draft.state.keys = (declarations ++ [declaration]).filterMap keyBinding? := by
  rw [filterMap_keyBinding_concat, keyBinding?_of_unbound unbound,
    reflects.keys (clear_concat.mp clear).1]
  simp

theorem Reflects.declare (reflects : draft.Reflects name declarations)
    (declares : draft.Declares declaration after) :
    after.Reflects name (declarations ++ [declaration]) := by
  have promptsAfter : (draft.voiced declaration).state.prompts =
      (declarations ++ [declaration]).foldl spoken [] := by
    simp [voiced, setPrompts, reflects.prompts]
  have decisionsAfter : (untaken : declaration.taken? = none) → draft.state.decisions =
      (declarations ++ [declaration]).filterMap taken? := by
    intro untaken
    rw [filterMap_taken_concat, untaken, reflects.decisions]
    simp
  cases declares with
  | @speaks fragments speaks =>
      have unbound : declaration.bound? = none := by rw [speaks]; rfl
      have untaken : declaration.taken? = none := by rw [speaks]; rfl
      exact ⟨reflects.named, promptsAfter, decisionsAfter untaken,
        reflects.knows_concat unbound, reflects.distinct, reflects.keys_concat unbound⟩
  | @decides decision taken =>
      have unbound := unbound_of_taken taken
      refine ⟨reflects.named, promptsAfter, ?_, reflects.knows_concat unbound,
        reflects.distinct, reflects.keys_concat unbound⟩
      rw [filterMap_taken_concat, taken, ← reflects.decisions]
      rfl
  | @binds key transition pattern bound read unknown =>
      refine ⟨reflects.named, promptsAfter, decisionsAfter (untaken_of_bound bound),
        fun other => ?_, ?_, fun clear => ?_⟩
      · rw [binds_concat, ← reflects.knows]
        simp [Knows, bound, read, eq_comm]
      · simp only [List.map_append, List.map_cons, List.map_nil]
        refine List.nodup_append.mpr ⟨reflects.distinct, by simp, ?_⟩
        intro earlier member added same equal
        have addedIs : added = pattern := by simpa using same
        exact unknown (by rw [Knows, ← addedIs, ← equal]; exact member)
      · rw [filterMap_keyBinding_concat, keyBinding?_of_bound bound read,
          ← reflects.keys (clear_concat.mp clear).1]
        rfl
  | @fails problem faulty =>
      have faultyHere := reflects.faulty_iff.mp faulty
      refine ⟨reflects.named, promptsAfter, decisionsAfter faulty.untaken, fun pattern => ?_,
        reflects.distinct, fun clear => absurd faultyHere ((clear_concat.mp clear).2 problem)⟩
      -- The pattern of a rejected declaration is known already, if it has one at all.
      have alreadyKnown : (∃ key transition, declaration.bound? = some (key, transition) ∧
          KeyPattern.parse key = .ok pattern) → Binds declarations pattern := by
        rintro ⟨key, transition, bound, read⟩
        cases faultyHere with
        | lacks lacks => cases lacks.unbound.symm.trans bound
        | invalidKey boundAgain refused =>
            cases bound.symm.trans boundAgain
            cases read.symm.trans refused
        | duplicateKey boundAgain readAgain known =>
            cases bound.symm.trans boundAgain
            cases read.symm.trans readAgain
            exact known
      rw [binds_concat]
      exact (reflects.knows pattern).trans
        ⟨.inl, fun binds => binds.elim id alreadyKnown⟩

/-- Only a declaration that fails adds a problem. -/
theorem Declares.problems (declares : draft.Declares declaration after)
    (reflects : draft.Reflects name declarations) :
    (after.problems = draft.problems ∧
        ∀ problem, ¬ Faulty name (Binds declarations) declaration problem) ∨
      ∃ problem, after.problems = draft.problems ++ [problem] ∧
        Faulty name (Binds declarations) declaration problem := by
  cases declares with
  | @speaks fragments speaks =>
      refine .inl ⟨rfl, fun problem faulty => ?_⟩
      subst speaks
      cases faulty with
      | lacks lacks => cases lacks
      | invalidKey bound => cases bound
      | duplicateKey bound => cases bound
  | @decides decision taken =>
      refine .inl ⟨rfl, fun problem faulty => ?_⟩
      cases faulty.untaken.symm.trans taken
  | @binds key transition pattern bound read unknown =>
      refine .inl ⟨rfl, fun problem faulty => ?_⟩
      cases reflects.faulty_iff.mpr faulty with
      | lacks lacks => cases lacks.unbound.symm.trans bound
      | invalidKey boundAgain refused =>
          cases bound.symm.trans boundAgain
          cases read.symm.trans refused
      | duplicateKey boundAgain readAgain known =>
          cases bound.symm.trans boundAgain
          cases read.symm.trans readAgain
          exact unknown known
  | @fails problem faulty => exact .inr ⟨problem, rfl, reflects.faulty_iff.mp faulty⟩

theorem Reports.declare (reports : draft.Reports name declarations)
    (reflects : draft.Reflects name declarations)
    (declares : draft.Declares declaration after) :
    after.Reports name (declarations ++ [declaration]) := by
  obtain ⟨clear, first⟩ := reports
  rcases declares.problems reflects with ⟨same, faultless⟩ | ⟨problem, added, faulty⟩
  · constructor
    · rw [same, clear_concat]
      exact ⟨fun none => ⟨clear.mp none, faultless⟩, fun both => clear.mpr both.1⟩
    · intro problem
      rw [same, firstFault_concat]
      exact (first problem).trans
        ⟨.inl, fun found => found.elim id fun last => absurd last.2 (faultless problem)⟩
  · constructor
    · rw [added, clear_concat]
      exact ⟨fun none => by simp at none, fun both => absurd faulty (both.2 problem)⟩
    · intro other
      rw [added, firstFault_concat]
      cases earlier : draft.problems with
      | nil =>
          have clearBefore := clear.mp earlier
          constructor
          · intro found
            cases found
            exact .inr ⟨clearBefore, faulty⟩
          · rintro (found | ⟨-, faultyAgain⟩)
            · exact absurd clearBefore found.not_clear
            · rw [faulty.unique faultyAgain]
              rfl
      | cons head rest =>
          have unclear : ¬ Clear name declarations := by
            intro clearBefore
            rw [clear.mpr clearBefore] at earlier
            cases earlier
          rw [← first other, earlier]
          simp [unclear]

theorem reflects_ofName (name : String) : (ofName name).Reflects name [] := by
  refine ⟨rfl, rfl, rfl, fun pattern => ?_, List.nodup_nil, fun _ => rfl⟩
  simp [Knows, ofName, Binds]

theorem reports_ofName (name : String) : (ofName name).Reports name [] := by
  constructor
  · simp [ofName, Clear]
  · simp [ofName, FirstFault]

theorem foldl_declare (rest : List Declaration) (reflects : draft.Reflects name declarations)
    (reports : draft.Reports name declarations) :
    (rest.foldl declare draft).Reflects name (declarations ++ rest) ∧
      (rest.foldl declare draft).Reports name (declarations ++ rest) := by
  induction rest generalizing draft declarations with
  | nil => simpa using ⟨reflects, reports⟩
  | cons declaration rest ih =>
      have declares := declares_declare draft declaration
      have later := ih (reflects.declare declares) (reports.declare reflects declares)
      simpa using later

end PartialState

namespace StateDraft

theorem declared_reflects (draft : StateDraft) :
    draft.declared.Reflects draft.name draft.declarations :=
  (PartialState.foldl_declare draft.declarations (PartialState.reflects_ofName draft.name)
    (PartialState.reports_ofName draft.name)).1

theorem declared_reports (draft : StateDraft) :
    draft.declared.Reports draft.name draft.declarations :=
  (PartialState.foldl_declare draft.declarations (PartialState.reflects_ofName draft.name)
    (PartialState.reports_ofName draft.name)).2

end StateDraft

end VoiceMenu
