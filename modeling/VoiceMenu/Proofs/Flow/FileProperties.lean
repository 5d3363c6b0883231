import Mathlib.Data.List.Forall2
import VoiceMenu.Flow.File
import VoiceMenu.Proofs.Flow.AcceptanceProperties

/-! Flow files define the flows that can be built, and no others. What a file defines is read
off its entries, and every flow that is built can be written as a file that defines it. -/

set_option autoImplicit false

namespace VoiceMenu

/-! ## What a file describes -/

/-- The key is bound as the entry says: to a decision if it has an outcome, and otherwise to
an event. -/
inductive KeyEntry.Binds (entry : KeyEntry) : KeyBinding → Prop where
  | decision {pattern : KeyPattern} :
      KeyPattern.parse entry.key = .ok pattern → entry.yes.isSome ∨ entry.no.isSome →
      Binds entry ⟨pattern, .decision ⟨entry.event, entry.action, entry.yes, entry.no⟩⟩
  | event {pattern : KeyPattern} {target : String} :
      KeyPattern.parse entry.key = .ok pattern → entry.yes = none → entry.no = none →
      entry.go = some target →
      Binds entry ⟨pattern, .event ⟨entry.event, target, entry.action⟩⟩

def DecisionEntry.decision (entry : DecisionEntry) : Decision :=
  ⟨entry.decider, entry.action, entry.yes, entry.no⟩

structure StateEntry.Describes (entry : StateEntry) (state : State) : Prop where
  name : state.name = entry.name
  /-- What the keys say follows what the state says. -/
  prompts : state.prompts = entry.say ++ entry.keys.filterMap (·.prompt)
  keys : List.Forall₂ KeyEntry.Binds entry.keys state.keys
  decisions : state.decisions = entry.decisions.map (·.decision)

structure FlowFile.Describes (file : FlowFile) (flow : Flow) : Prop where
  name : flow.name = file.name
  translations : flow.translations = file.translations
  states : List.Forall₂ StateEntry.Describes file.states flow.states

/-! ## Writing a flow -/

def KeyBinding.entry (binding : KeyBinding) : KeyEntry :=
  match binding.transition with
  | .event event =>
      ⟨binding.pattern.text, event.name, none, some event.target, none, none, event.action⟩
  | .decision decision =>
      ⟨binding.pattern.text, decision.decider, none, none, decision.onYes, decision.onNo,
        decision.action⟩

def Decision.entry (decision : Decision) : DecisionEntry :=
  ⟨decision.decider, decision.onYes, decision.onNo, decision.action⟩

def State.entry (state : State) : StateEntry :=
  ⟨state.name, state.prompts, state.keys.map (·.entry), state.decisions.map (·.entry)⟩

def Flow.file (flow : Flow) (callbacks : Table Json) : FlowFile :=
  ⟨flow.name, flow.translations, callbacks, flow.states.map (·.entry)⟩

private theorem forall₂_filterMap {α β : Type} {pick : α → Option β} {Relates : α → β → Prop}
    {items : List α}
    (picks : ∀ item ∈ items, ∃ picked, pick item = some picked ∧ Relates item picked) :
    List.Forall₂ Relates items (items.filterMap pick) := by
  induction items with
  | nil => exact .nil
  | cons item rest ih =>
      obtain ⟨⟨picked, here, relates⟩, picksLater⟩ := List.forall_mem_cons.mp picks
      rw [List.filterMap_cons_some here]
      exact .cons relates (ih picksLater)

/-! ## The declarations of entries -/

namespace KeyEntry

variable {entry : KeyEntry}

theorem spoken_declaration (said : List Fragment) :
    entry.declaration.spoken said = said ++ entry.prompt.toList := by
  cases prompt : entry.prompt <;> simp [declaration, prompt, Declaration.spoken]

@[simp] theorem keyText?_declaration : entry.declaration.keyText? = some entry.key := by
  cases prompt : entry.prompt <;> simp [declaration, prompt, Declaration.keyText?]

@[simp] theorem taken?_declaration : entry.declaration.taken? = none := by
  cases prompt : entry.prompt <;> simp [declaration, prompt, Declaration.taken?]

theorem leads_declaration_iff : entry.declaration.Leads ↔
    entry.yes.isSome ∨ entry.no.isSome ∨ entry.go.isSome := by
  cases prompt : entry.prompt <;> simp [declaration, prompt, Declaration.Leads]

theorem bound?_declaration : entry.declaration.bound? =
    (Declaration.press entry.key entry.event
      { go := entry.go, yes := entry.yes, no := entry.no, action := entry.action }).bound? := by
  cases prompt : entry.prompt <;> simp [declaration, prompt, Declaration.bound?]

theorem keyBinding?_declaration_iff {binding : KeyBinding} :
    entry.declaration.keyBinding? = some binding ↔ entry.Binds binding := by
  rw [Declaration.keyBinding?_eq_some_iff, bound?_declaration]
  constructor
  · rintro ⟨key, bound, read⟩
    obtain ⟨pattern, transition⟩ := binding
    obtain ⟨rfl, ⟨decides, same⟩ | ⟨fires, target, goes, same⟩⟩ :=
      Declaration.bound_press_cases bound
    · cases same
      exact .decision read (by simpa [Binding.isDecision] using decides)
    · cases same
      obtain ⟨yes, no⟩ := Binding.isDecision_eq_false_iff.mp fires
      exact .event read yes no goes
  · intro binds
    cases binds with
    | decision read outcome =>
        refine ⟨entry.key, ?_, read⟩
        rw [Declaration.bound?, if_pos (by simpa [Binding.isDecision] using outcome)]
        rfl
    | event read yes no goes =>
        refine ⟨entry.key, ?_, read⟩
        rw [Declaration.bound?, if_neg (by simp [Binding.isDecision, yes, no]), goes]
        rfl

theorem Binds.leads {binding : KeyBinding} (binds : entry.Binds binding) :
    entry.declaration.Leads := by
  rw [leads_declaration_iff]
  cases binds with
  | decision _ outcome => exact outcome.imp_right .inl
  | event _ _ _ goes => exact .inr (.inr (by simp [goes]))

theorem exists_binds {pattern : KeyPattern}
    (leads : entry.yes.isSome ∨ entry.no.isSome ∨ entry.go.isSome)
    (read : KeyPattern.parse entry.key = .ok pattern) : ∃ binding, entry.Binds binding := by
  by_cases outcome : entry.yes.isSome ∨ entry.no.isSome
  · exact ⟨_, .decision read outcome⟩
  · obtain ⟨yes, no⟩ : entry.yes = none ∧ entry.no = none := by simpa using outcome
    obtain ⟨target, goes⟩ : ∃ target, entry.go = some target := by
      simpa [yes, no, Option.isSome_iff_exists] using leads
    exact ⟨_, .event read yes no goes⟩

end KeyEntry

namespace DecisionEntry

variable {entry : DecisionEntry}

@[simp] theorem keyText?_declaration : entry.declaration.keyText? = none := rfl

@[simp] theorem keyBinding?_declaration : entry.declaration.keyBinding? = none := by
  apply Declaration.keyBinding?_of_unbound
  simp [declaration, Declaration.bound?]

theorem taken?_declaration (leads : entry.declaration.Leads) :
    entry.declaration.taken? = some entry.decision := by
  have decides : entry.yes.isSome ∨ entry.no.isSome := leads
  simp [declaration, Declaration.taken?, Binding.isDecision, decides]
  rfl

end DecisionEntry

namespace StateEntry

variable {entry : StateEntry}

theorem mem_declarations_of_key {key : KeyEntry} (member : key ∈ entry.keys) :
    key.declaration ∈ entry.draft.declarations :=
  List.mem_append_left _ (List.mem_append_right _ (List.mem_map_of_mem member))

theorem mem_declarations_of_decision {decision : DecisionEntry}
    (member : decision ∈ entry.decisions) :
    decision.declaration ∈ entry.draft.declarations :=
  List.mem_append_right _ (List.mem_map_of_mem member)

/-- What is picked from the declarations, where nothing is picked from what the state says. -/
theorem filterMap_declarations {α : Type} {pick : Declaration → Option α}
    (unsaid : ∀ fragments, pick (.say fragments) = none) :
    entry.draft.declarations.filterMap pick =
      entry.keys.filterMap (pick ·.declaration) ++
        entry.decisions.filterMap (pick ·.declaration) := by
  have saying : (if entry.say.isEmpty then [] else [Declaration.say entry.say]).filterMap pick =
      [] := by
    split <;> simp [unsaid]
  rw [draft, List.filterMap_append, List.filterMap_append, saying, List.filterMap_map,
    List.filterMap_map]
  rfl

theorem filterMap_keyText : entry.draft.declarations.filterMap Declaration.keyText? =
    entry.keys.map (·.key) := by
  rw [filterMap_declarations fun _ => rfl]
  simp

theorem foldl_spoken_keys (keys : List KeyEntry) (said : List Fragment) :
    (keys.map (·.declaration)).foldl Declaration.spoken said =
      said ++ keys.filterMap (·.prompt) := by
  induction keys generalizing said with
  | nil => simp
  | cons key rest ih =>
      rw [List.map_cons, List.foldl_cons, ih, KeyEntry.spoken_declaration]
      cases prompt : key.prompt <;> simp [prompt]

theorem foldl_spoken_decisions (decisions : List DecisionEntry) (said : List Fragment) :
    (decisions.map (·.declaration)).foldl Declaration.spoken said = said := by
  induction decisions with
  | nil => rfl
  | cons decision rest ih => exact ih

theorem meant_prompts : entry.draft.meant.prompts =
    entry.say ++ entry.keys.filterMap (·.prompt) := by
  have saying : (if entry.say.isEmpty then [] else [Declaration.say entry.say]).foldl
      Declaration.spoken [] = entry.say := by
    cases say : entry.say <;> simp [Declaration.spoken]
  change List.foldl Declaration.spoken [] _ = _
  rw [draft, List.foldl_append, List.foldl_append, saying, foldl_spoken_keys,
    foldl_spoken_decisions]

theorem meant_keys : entry.draft.meant.keys =
    entry.keys.filterMap (·.declaration.keyBinding?) := by
  change List.filterMap Declaration.keyBinding? _ = _
  rw [filterMap_declarations fun _ => rfl]
  simp

theorem meant_decisions : entry.draft.meant.decisions =
    entry.decisions.filterMap (·.declaration.taken?) := by
  change List.filterMap Declaration.taken? _ = _
  rw [filterMap_declarations fun _ => rfl]
  simp

theorem leads_declarations (keys : ∀ key ∈ entry.keys, key.declaration.Leads)
    (decisions : ∀ decision ∈ entry.decisions, decision.declaration.Leads) :
    ∀ declaration ∈ entry.draft.declarations, declaration.Leads := by
  intro declaration member
  rcases List.mem_append.mp member with first | decided
  · rcases List.mem_append.mp first with said | keyed
    · split at said
      · cases said
      · rw [List.mem_singleton.mp said]
        trivial
    · obtain ⟨key, inKeys, rfl⟩ := List.mem_map.mp keyed
      exact keys key inKeys
  · obtain ⟨decision, inDecisions, rfl⟩ := List.mem_map.mp decided
    exact decisions decision inDecisions

theorem describes_meant (acceptable : Declaration.Acceptable entry.draft.declarations) :
    entry.Describes entry.draft.meant := by
  refine ⟨rfl, meant_prompts, ?_, ?_⟩
  · rw [meant_keys]
    refine forall₂_filterMap fun key member => ?_
    have leads := acceptable.all_lead _ (mem_declarations_of_key member)
    have written : key.key ∈ entry.draft.declarations.filterMap Declaration.keyText? := by
      rw [filterMap_keyText]
      exact List.mem_map_of_mem member
    obtain ⟨pattern, read⟩ := acceptable.keys_read key.key written
    obtain ⟨binding, binds⟩ := KeyEntry.exists_binds (KeyEntry.leads_declaration_iff.mp leads) read
    exact ⟨binding, KeyEntry.keyBinding?_declaration_iff.mpr binds, binds⟩
  · rw [meant_decisions, ← List.filterMap_eq_map]
    refine List.filterMap_congr fun decision member => DecisionEntry.taken?_declaration ?_
    exact acceptable.all_lead _ (mem_declarations_of_decision member)

end StateEntry

/-! ## Reading back what was written -/

theorem KeyBinding.entry_binds {binding : KeyBinding}
    (read : KeyPattern.parse binding.pattern.text = .ok binding.pattern)
    (leads : ∀ decision, binding.transition = .decision decision → decision.CanLead) :
    binding.entry.Binds binding := by
  obtain ⟨pattern, transition⟩ := binding
  cases transition with
  | event event => exact .event read rfl rfl rfl
  | decision decision => exact .decision read (leads decision rfl)

@[simp] theorem KeyBinding.key_entry (binding : KeyBinding) :
    binding.entry.key = binding.pattern.text := by
  cases transition : binding.transition <;> simp [entry, transition]

@[simp] theorem KeyBinding.prompt_entry (binding : KeyBinding) : binding.entry.prompt = none := by
  cases transition : binding.transition <;> simp [entry, transition]

namespace State.WellFormed

variable {state : State}

theorem entry_binds (wellFormed : state.WellFormed) {binding : KeyBinding}
    (bound : binding ∈ state.keys) : binding.entry.Binds binding :=
  KeyBinding.entry_binds (wellFormed.parse_pattern_text bound)
    (wellFormed.keyed_decisions_lead binding bound)

theorem entry_acceptable (wellFormed : state.WellFormed) :
    Declaration.Acceptable state.entry.draft.declarations := by
  have texts : state.entry.draft.declarations.filterMap Declaration.keyText? =
      state.keys.map (·.pattern.text) := by
    rw [StateEntry.filterMap_keyText]
    simp [entry]
  constructor
  · apply StateEntry.leads_declarations
    · intro key member
      obtain ⟨binding, bound, rfl⟩ := List.mem_map.mp member
      exact (wellFormed.entry_binds bound).leads
    · intro decision member
      obtain ⟨taken, inDecisions, rfl⟩ := List.mem_map.mp member
      exact wellFormed.decisions_lead taken inDecisions
  · rw [texts]
    intro text member
    obtain ⟨binding, bound, rfl⟩ := List.mem_map.mp member
    exact ⟨binding.pattern, wellFormed.parse_pattern_text bound⟩
  · rw [texts, List.pairwise_map]
    have distinct := List.pairwise_map.mp wellFormed.patterns_distinct
    refine distinct.imp_of_mem fun {earlier later} boundEarlier boundLater different => ?_
    intro pattern readEarlier readLater
    have first := readEarlier.symm.trans (wellFormed.parse_pattern_text boundEarlier)
    have second := readLater.symm.trans (wellFormed.parse_pattern_text boundLater)
    exact different (Except.ok.inj (first.symm.trans second))

/-- A state is what its own entry means. -/
theorem meant_entry (wellFormed : state.WellFormed) : state.entry.draft.meant = state := by
  have prompts : state.entry.draft.meant.prompts = state.prompts := by
    rw [StateEntry.meant_prompts]
    simp [entry]
  have keys : state.entry.draft.meant.keys = state.keys := by
    rw [StateEntry.meant_keys, entry, List.filterMap_map]
    refine (List.filterMap_congr fun binding bound => ?_).trans List.filterMap_some
    exact KeyEntry.keyBinding?_declaration_iff.mpr (wellFormed.entry_binds bound)
  have decisions : state.entry.draft.meant.decisions = state.decisions := by
    rw [StateEntry.meant_decisions, entry, List.filterMap_map]
    refine (List.filterMap_congr fun decision taken => ?_).trans List.filterMap_some
    exact DecisionEntry.taken?_declaration (wellFormed.decisions_lead decision taken)
  calc
    state.entry.draft.meant
      = ⟨state.name, state.entry.draft.meant.prompts, state.entry.draft.meant.keys,
          state.entry.draft.meant.decisions⟩ := rfl
    _ = state := by rw [prompts, keys, decisions]

end State.WellFormed

/-! ## Files -/

namespace FlowFile

variable {file : FlowFile} {flow : Flow}

theorem describes_of_flow (defines : file.flow = .ok flow) : file.Describes flow := by
  obtain ⟨sound, states⟩ := FlowDraft.states_of_build_ok defines
  obtain ⟨-, -, -, name, translations⟩ := FlowDraft.build_ok defines
  refine ⟨name, translations.trans (Table.ofList_entries _), ?_⟩
  rw [states, draft, List.map_map]
  refine List.forall₂_map_right_iff.mpr (List.forall₂_same.mpr fun entry member => ?_)
  apply StateEntry.describes_meant
  exact Declaration.clear_iff_acceptable.mp (sound.2 entry.draft (List.mem_map_of_mem member))

end FlowFile

namespace Flow

variable {flow : Flow}

theorem eq_of_states {other : Flow} (name : flow.name = other.name)
    (states : flow.states = other.states) (translations : flow.translations = other.translations) :
    flow = other := by
  obtain ⟨_, initial, others, _⟩ := flow
  cases name
  cases states
  cases translations
  rfl

theorem meant_file_states (wellFormed : ∀ state ∈ flow.states, state.WellFormed)
    (callbacks : Table Json) :
    (flow.file callbacks).draft.states.map StateDraft.meant = flow.states := by
  rw [FlowFile.draft, file, List.map_map, List.map_map]
  refine (List.map_congr_left fun state member => ?_).trans (List.map_id flow.states)
  exact (wellFormed state member).meant_entry

/-- The file of a flow that is built defines it, whichever callbacks it holds. -/
theorem Built.file_flow (built : flow.Built) (callbacks : Table Json) :
    (flow.file callbacks).flow = .ok flow := by
  -- The draft that comes of the file means the states of the flow, so it passes every check
  -- that the draft of the flow has passed.
  have wellFormed : ∀ state ∈ flow.states, state.WellFormed := fun _ => built.state_wellFormed
  have meant := meant_file_states wellFormed callbacks
  have names : (flow.file callbacks).draft.names = flow.states.map (·.name) := by
    rw [FlowDraft.names, ← FlowDraft.map_meant_name, meant]
  have distinct := built.names_distinct
  obtain ⟨draft, builds⟩ := built
  have sound : FlowDraft.Sound (flow.file callbacks).draft.states := by
    refine ⟨by rw [← names] at distinct; exact distinct, ?_⟩
    intro entry member
    obtain ⟨_, inFile, rfl⟩ := List.mem_map.mp member
    obtain ⟨state, inFlow, rfl⟩ := List.mem_map.mp inFile
    exact Declaration.clear_iff_acceptable.mpr (wellFormed state inFlow).entry_acceptable
  have known : (flow.file callbacks).draft.strayTargets = [] := by
    rw [FlowDraft.strayTargets, meant, names]
    exact (FlowDraft.build_ok builds).2.2.1
  have nonempty : (flow.file callbacks).draft.states ≠ [] := List.cons_ne_nil _ _
  rcases FlowDraft.build_of_sound sound nonempty with ⟨other, defines, -⟩ | ⟨problem, -, first⟩
  · obtain ⟨-, -, -, name, translations⟩ := FlowDraft.build_ok defines
    have states := (FlowDraft.states_of_build_ok defines).2.trans meant
    have same := eq_of_states name states (translations.trans (Table.ofList_entries _))
    rw [FlowFile.flow, defines, same]
  · rw [known] at first
    cases first

end Flow

/-- Flow files and drafts define the same flows. Whatever a file defines can be built, and is
what its entries describe. Conversely every flow that is built can be written as a file, with
any callbacks, and that file defines the same flow. -/
theorem files_define_built_flows (flow : Flow) :
    (∀ file : FlowFile, file.flow = .ok flow → flow.Built ∧ file.Describes flow) ∧
      (flow.Built → ∀ callbacks, (flow.file callbacks).flow = .ok flow) := by
  constructor
  · intro file defines
    have built : flow.Built := ⟨file.draft, defines⟩
    exact ⟨built, file.describes_of_flow defines⟩
  · intro built callbacks
    exact built.file_flow callbacks

/-- Two keys as people may write them: the greeting belongs to the first, and blanks stand
around the second. -/
def ratingFile : FlowFile where
  name := "rating"
  translations := .empty
  callbacks := .empty
  states :=
    [⟨"hello", [],
      [⟨"1", "skip", some (.text "Please rate us"), some "thanks", none, none, none⟩,
        ⟨" .:most ", "valid?", none, some "thanks", some "check", none, some "collect"⟩], []⟩,
      ⟨"check", [], [], [⟨"open?", some "thanks", some "hello", none⟩]⟩,
      ⟨"thanks", [.text "Thank you"], [], []⟩]

theorem ratingFile_describes_ratingFlow :
    ratingFile.flow = .ok ratingFlow ∧ ratingFile.Describes ratingFlow ∧ ratingFlow.Built ∧
      (ratingFlow.file ratingFile.callbacks).flow = .ok ratingFlow := by
  have filed := files_define_built_flows ratingFlow
  have defines : ratingFile.flow = .ok ratingFlow := rfl
  obtain ⟨built, describes⟩ := filed.1 ratingFile defines
  exact ⟨defines, describes, built, filed.2 built ratingFile.callbacks⟩

end VoiceMenu
