import Mathlib.Data.List.Perm.Basic
import VoiceMenu.Proofs.Call.RecordProperties
import VoiceMenu.Proofs.Flow.WellFormedProperties

/-! The keys that a turn tells are all keys of its state. They are told by the texts of their
patterns, and no two patterns of a state have the same text, so none is lost on the way. -/

set_option autoImplicit false

namespace VoiceMenu

namespace KeyPattern

/-- Among the patterns that can be read, each has a text of its own. -/
theorem text_eq_iff {text other : String} {pattern another : KeyPattern}
    (read : parse text = .ok pattern) (readOther : parse other = .ok another) :
    pattern = another ↔ pattern.text = another.text := by
  refine ⟨congrArg KeyPattern.text, fun same => ?_⟩
  have again := parse_text_of_parse read
  rw [same] at again
  exact Except.ok.inj (again.symm.trans (parse_text_of_parse readOther))

end KeyPattern

/-! ## Keys of a state -/

/-- The text of the entry leads back to the binding, and its flag tells events from decisions. -/
structure State.Names (state : State) (entry : String × Bool) (binding : KeyBinding) : Prop where
  reads : KeyPattern.parse entry.1 = .ok binding.pattern
  finds : state.binding? binding.pattern = some binding
  flagged : entry.2 = true ↔ ∃ event, binding.transition = .event event

/-- The entries name the bindings of the state, each of them once and nothing else. -/
structure State.ListedBy (state : State) (accepted : Table Bool) : Prop where
  one_each : ∃ bindings, List.Forall₂ state.Names accepted.entries bindings ∧
    bindings.Perm state.keys
  empty_iff : accepted.isEmpty = true ↔ state.keys = []

def Turn.ListsKeys (turn : Turn) (flow : Flow) : Prop :=
  ∃ state, flow.state? turn.state = some state ∧ state.ListedBy turn.acceptedKeys

def KeyBinding.named (binding : KeyBinding) : String × Bool :=
  (binding.pattern.text, binding.transition.isEvent)

theorem Transition.isEvent_iff {transition : Transition} :
    transition.isEvent = true ↔ ∃ event, transition = .event event := by
  cases transition with
  | event fired => exact iff_of_true rfl ⟨fired, rfl⟩
  | decision asked => exact iff_of_false (by simp [isEvent]) (by simp)

namespace State.WellFormed

variable {state : State}

theorem binding?_pattern (wellFormed : state.WellFormed) {binding : KeyBinding}
    (bound : binding ∈ state.keys) : state.binding? binding.pattern = some binding := by
  have known := PartialState.binding?_isSome_iff.mpr (List.mem_map_of_mem bound)
  obtain ⟨found, isFound⟩ := Option.isSome_iff_exists.mp known
  have member : found ∈ state.keys := List.mem_of_find?_eq_some isFound
  have samePattern := pattern_of_binding? isFound
  rw [isFound, List.inj_on_of_nodup_map wellFormed.patterns_distinct member bound samePattern]

theorem names_named (wellFormed : state.WellFormed) {binding : KeyBinding}
    (bound : binding ∈ state.keys) : state.Names binding.named binding :=
  ⟨wellFormed.parse_pattern_text bound, wellFormed.binding?_pattern bound,
    Transition.isEvent_iff⟩

theorem texts_distinct (wellFormed : state.WellFormed) :
    ((state.keys.map KeyBinding.named).map Prod.fst).Nodup := by
  rw [List.map_map]
  refine List.Nodup.map_on ?_ (List.Nodup.of_map _ wellFormed.patterns_distinct)
  intro binding bound another boundToo sameText
  have samePattern := (KeyPattern.text_eq_iff (wellFormed.parse_pattern_text bound)
    (wellFormed.parse_pattern_text boundToo)).mpr sameText
  exact List.inj_on_of_nodup_map wellFormed.patterns_distinct bound boundToo samePattern

theorem listedBy (wellFormed : state.WellFormed) :
    state.ListedBy (.ofList (state.keys.map KeyBinding.named)) := by
  have entries := Table.entries_ofList_perm wellFormed.texts_distinct
  constructor
  · have named : List.Forall₂ state.Names (state.keys.map KeyBinding.named) state.keys := by
      rw [List.forall₂_map_left_iff]
      exact List.forall₂_same.mpr fun binding bound => wellFormed.names_named bound
    obtain ⟨bindings, names, reordered⟩ := List.perm_comp_forall₂ entries named
    exact ⟨bindings, names, reordered⟩
  · rw [Table.isEmpty, List.isEmpty_iff, ← List.length_eq_zero_iff, entries.length_eq,
      List.length_map, List.length_eq_zero_iff]

end State.WellFormed

/-! ## Accepted keys and turns -/

namespace Interpreter

variable {δ : Type} {interpreter : Interpreter δ} {session : Session δ}

theorem acceptedKeys_eq {state : State}
    (found : interpreter.flow.state? session.state = some state) :
    interpreter.acceptedKeys session = .ok (.ofList (state.keys.map KeyBinding.named)) := by
  have named : interpreter.stateNamed session.state = .ok state := by simp [stateNamed, found]
  rw [acceptedKeys, named]
  rfl

theorem acceptedKeys_ok (built : interpreter.flow.Built) {accepted : Table Bool}
    (answered : interpreter.acceptedKeys session = .ok accepted) :
    ∃ state, interpreter.flow.state? session.state = some state ∧ state.ListedBy accepted := by
  cases found : interpreter.flow.state? session.state with
  | none =>
      rw [acceptedKeys, stateNamed, found] at answered
      cases answered
  | some state =>
      cases (acceptedKeys_eq found).symm.trans answered
      exact ⟨state, rfl, (built.state_wellFormed (Flow.mem_of_state? found)).listedBy⟩

theorem listsKeys_of_present (built : interpreter.flow.Built) {turn : Turn}
    (shown : (interpreter.present session).result = .ok turn) :
    turn.ListsKeys interpreter.flow := by
  obtain ⟨-, sameState⟩ := Attendant.present_ok shown
  obtain ⟨prompts, -, shown⟩ := Query.of_bind_ok shown
  obtain ⟨accepted, answered, shown⟩ := Query.of_bind_ok shown
  obtain ⟨gathered, -, shown⟩ := Query.of_bind_ok shown
  cases shown
  exact acceptedKeys_ok built answered

end Interpreter

namespace Attendant

variable {δ : Type} {attendant : Attendant δ}

/-- Every session that is opened for a turn is that of some live call. -/
theorem session_of_liveCall {callId : String} {existing : Option CallRecord} {session : Session δ}
    (opened : attendant.sessionOf callId existing = .ok session) :
    ∃ call : LiveCall δ, call.session attendant = session ∧
      call.place.isNone = existing.isNone := by
  cases existing with
  | none =>
      cases opened
      exact ⟨⟨callId, none⟩, rfl, rfl⟩
  | some record =>
      rw [sessionOf] at opened
      cases decoded : attendant.codec.decode record.data with
      | none =>
          rw [decoded] at opened
          cases opened
      | some domain =>
          refine ⟨⟨callId, some ⟨record.state, domain⟩⟩, ?_, rfl⟩
          cases named : attendant.interpreter.stateNamed record.state with
          | error error =>
              simp only [decoded, Interpreter.resume, named] at opened
              cases opened
          | ok state =>
              simp only [decoded, Interpreter.resume, named] at opened
              cases opened
              rfl

theorem present_of_handle {now : Instant} {callId : String} {digits : Option String}
    {store : CallStore} {turn : Turn}
    (answered : (attendant.handle now callId digits store).result = .ok turn) :
    ∃ session, (attendant.interpreter.present session).result = .ok turn := by
  have handles := attendant.handles_handle now callId digits store
  generalize attendant.handle now callId digits store = handled at *
  cases handles with
  | loadFailure | noSession | turnFailure | unwritable | saveFailure => cases answered
  | @answered existing session played _ log data saved loads opens plays written saves =>
      cases answered
      obtain ⟨call, rfl, isNew⟩ := session_of_liveCall opens
      rw [← isNew, attendant.play_run] at plays
      exact ⟨played, outcome_ok plays⟩

/-- The text of a pattern is read as that pattern, and tells the patterns apart. So the accepted
keys of a state, also those of an answered turn, name its bindings one for one. -/
theorem accepted_keys_name_all_bindings (attendant : Attendant δ)
    (built : attendant.interpreter.flow.Built) :
    (∀ text pattern, KeyPattern.parse text = .ok pattern →
      KeyPattern.parse pattern.text = .ok pattern) ∧
    (∀ text other pattern another, KeyPattern.parse text = .ok pattern →
      KeyPattern.parse other = .ok another →
      (pattern = another ↔ pattern.text = another.text)) ∧
    (∀ state ∈ attendant.interpreter.flow.states, ∀ session : Session δ,
      session.state = state.name →
      ∃ accepted, attendant.interpreter.acceptedKeys session = .ok accepted ∧
        state.ListedBy accepted) ∧
    (∀ session turn, (attendant.render session).result = .ok turn →
      turn.ListsKeys attendant.interpreter.flow) ∧
    ∀ now callId digits store turn,
      (attendant.handle now callId digits store).result = .ok turn →
      turn.ListsKeys attendant.interpreter.flow := by
  refine ⟨fun text pattern => KeyPattern.parse_text_of_parse,
    fun text other pattern another => KeyPattern.text_eq_iff, ?_, ?_, ?_⟩
  · intro state member session inState
    have wellFormed := built.state_wellFormed member
    have found : attendant.interpreter.flow.state? session.state = some state := by
      rw [inState]
      exact built.state?_of_mem member
    exact ⟨_, Interpreter.acceptedKeys_eq found, wellFormed.listedBy⟩
  · intro session turn rendered
    rw [attendant.render_run] at rendered
    exact Interpreter.listsKeys_of_present built rendered
  · intro now callId digits store turn answered
    obtain ⟨session, shown⟩ := present_of_handle answered
    exact Interpreter.listsKeys_of_present built shown

end Attendant

def ratingGreeting : Turn :=
  ⟨"call-1", "hello", ["Please rate us"], .ofList [("1", true), (".:most", false)],
    ⟨some 2, none⟩⟩

theorem ratingAttendant_names_its_keys :
    ratingAttendant.interpreter.flow.Built ∧
      KeyPattern.parse " .:most\n" = .ok (.wildcard (.callback "most")) ∧
      KeyPattern.parse ".:most" = .ok (.wildcard (.callback "most")) ∧
      ∃ turn, (ratingAttendant.handle ⟨1, 0⟩ "call-1" none .empty).result = .ok turn ∧
        turn.acceptedKeys.entries = [(".:most", false), ("1", true)] ∧
        turn.ListsKeys ratingFlow := by
  obtain ⟨reads, -, -, -, lists⟩ :=
    ratingAttendant.accepted_keys_name_all_bindings ratingFlow_built
  have greeted : (ratingAttendant.handle ⟨1, 0⟩ "call-1" none .empty).result =
      .ok ratingGreeting := rfl
  have read : KeyPattern.parse " .:most\n" = .ok (.wildcard (.callback "most")) := rfl
  have written : (KeyPattern.wildcard (.callback "most")).text = ".:most" := rfl
  have readAgain := reads " .:most\n" _ read
  rw [written] at readAgain
  exact ⟨ratingFlow_built, read, readAgain, ratingGreeting, greeted, rfl,
    lists ⟨1, 0⟩ "call-1" none .empty ratingGreeting greeted⟩

end VoiceMenu
