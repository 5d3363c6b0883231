import Mathlib.Data.List.Forall2
import VoiceMenu.Flow.File

/-! Flow files survive their JSON form. For every part of a file it is said which values write
it. Reading accepts these values and no others, and the form that a file is written in is one
of them. -/

set_option autoImplicit false

namespace VoiceMenu

/-! ## Values that write a file -/

namespace Json

/-- A table of members, or a list of them that is no longer than the structure. -/
inductive IsStructure (count : Nat) : Json → Prop where
  | named {fields : List (String × Json)} : IsStructure count (.object fields)
  | listed {items : List Json} : items.length ≤ count → IsStructure count (.array items)

/-- The member of the given name, which is the one at `position` in a list. -/
def member? (json : Json) (name : String) (position : Nat) : Option Json :=
  match json with
  | .object fields => Table.lookup name fields
  | .array items => items[position]?
  | _ => none

def IsText (text : String) (json : Json) : Prop := json = .string text

def IsReply (reply json : Json) : Prop := json = reply

section Forms

variable {α : Type} (WrittenAs : α → Json → Prop)

inductive IsList : List α → Json → Prop where
  | items {values : List α} {items : List Json} :
      List.Forall₂ WrittenAs values items → IsList values (.array items)

/-- Of several fields with one key the last counts. -/
inductive IsTable : Table α → Json → Prop where
  | fields {entries : List (String × α)} {fields : List (String × Json)} :
      List.Forall₂ (fun entry field => entry.1 = field.1 ∧ WrittenAs entry.2 field.2)
        entries fields →
      IsTable (.ofList entries) (.object fields)

inductive Required : α → Option Json → Prop where
  | given {value : α} {json : Json} : WrittenAs value json → Required value (some json)

/-- A value that may be missing is written by a member that may be left out or null. -/
inductive Optionally : Option α → Option Json → Prop where
  | leftOut : Optionally none none
  | null : Optionally none (some .null)
  | given {value : α} {json : Json} : WrittenAs value json → Optionally (some value) (some json)

/-- A member that may be left out where it would write the default, but that is not null. -/
inductive Defaulted (default : α) : α → Option Json → Prop where
  | leftOut : Defaulted default default none
  | given {value : α} {json : Json} : WrittenAs value json → Defaulted default value (some json)

end Forms

end Json

open Json (Required Optionally Defaulted IsText IsReply IsList IsTable)

inductive Fragment.WrittenAs : Fragment → Json → Prop where
  | text {words : String} : WrittenAs (.text words) (.string words)
  | call {name : String} {fields : List (String × Json)} :
      Table.lookup "call" fields = some (.string name) → WrittenAs (.call name) (.object fields)

structure KeyEntry.WrittenAs (entry : KeyEntry) (json : Json) : Prop where
  isStructure : json.IsStructure 7
  key : Required IsText entry.key (json.member? "key" 0)
  event : Required IsText entry.event (json.member? "event" 1)
  prompt : Optionally Fragment.WrittenAs entry.prompt (json.member? "prompt" 2)
  go : Optionally IsText entry.go (json.member? "go" 3)
  yes : Optionally IsText entry.yes (json.member? "yes" 4)
  no : Optionally IsText entry.no (json.member? "no" 5)
  action : Optionally IsText entry.action (json.member? "action" 6)

structure DecisionEntry.WrittenAs (entry : DecisionEntry) (json : Json) : Prop where
  isStructure : json.IsStructure 4
  decider : Required IsText entry.decider (json.member? "decider" 0)
  yes : Optionally IsText entry.yes (json.member? "yes" 1)
  no : Optionally IsText entry.no (json.member? "no" 2)
  action : Optionally IsText entry.action (json.member? "action" 3)

structure StateEntry.WrittenAs (entry : StateEntry) (json : Json) : Prop where
  isStructure : json.IsStructure 4
  name : Required IsText entry.name (json.member? "name" 0)
  say : Defaulted (IsList Fragment.WrittenAs) [] entry.say (json.member? "say" 1)
  keys : Defaulted (IsList KeyEntry.WrittenAs) [] entry.keys (json.member? "keys" 2)
  decisions :
    Defaulted (IsList DecisionEntry.WrittenAs) [] entry.decisions (json.member? "decisions" 3)

/-- What stands under `flow` in a file. -/
structure FlowFile.FlowWrittenAs (file : FlowFile) (json : Json) : Prop where
  isStructure : json.IsStructure 4
  name : Required IsText file.name (json.member? "name" 0)
  translations :
    Defaulted (IsTable IsText) .empty file.translations (json.member? "translations" 1)
  callbacks : Defaulted (IsTable IsReply) .empty file.callbacks (json.member? "callbacks" 2)
  states : Defaulted (IsList StateEntry.WrittenAs) [] file.states (json.member? "states" 3)

structure FlowFile.WrittenAs (file : FlowFile) (json : Json) : Prop where
  isStructure : json.IsStructure 1
  flow : Required FlowFile.FlowWrittenAs file (json.member? "flow" 0)

/-! ## Reading members -/

namespace Document

open Members

/-- What is read from a value is what it writes. -/
def Reads {α : Type} (read : Json → Option α) (WrittenAs : α → Json → Prop) : Prop :=
  ∀ (json : Json) (value : α), read json = some value ↔ WrittenAs value json

def membersOf : Json → Members Json
  | .object fields => .named fields
  | .array items => .listed items
  | _ => .listed []

theorem members?_eq_some_iff {count : Nat} {json : Json} {members : Members Json} :
    members? count json = some members ↔ json.IsStructure count ∧ membersOf json = members := by
  constructor
  · intro found
    rcases json with _ | _ | (_ | _) | _ | items | fields
    case array =>
      simp only [members?, view] at found
      split at found
      · rename_i short
        exact ⟨.listed (by simpa [toleratesSurplus] using short), Option.some.inj found⟩
      · cases found
    case object => exact ⟨.named, Option.some.inj found⟩
    all_goals cases found
  · intro found
    obtain ⟨isStructure, rfl⟩ := found
    cases isStructure with
    | named => rfl
    | listed short => exact if_pos (.inl short)

theorem get?_membersOf (json : Json) (name : String) (position : Nat) :
    (membersOf json).get? name position = json.member? name position := by
  cases json <;> rfl

theorem reads_text : Reads text? IsText := by
  intro json text
  rcases json with _ | _ | (_ | _) | _ | _ | _ <;>
    simp [text?, view, IsText]

theorem reads_reply : Reads (some <| Document.toJson ·) IsReply := by
  intro json reply
  exact Option.some_inj

section Reads

variable {α β : Type} {read : Json → Option α} {WrittenAs : α → Json → Prop}

theorem mapM_eq_some_iff {pick : β → Option α} {items : List β} {values : List α} :
    items.mapM pick = some values ↔
      List.Forall₂ (fun value item => pick item = some value) values items := by
  induction items generalizing values with
  | nil => cases values <;> simp
  | cons item rest ih =>
      simp only [List.mapM_cons, Option.bind_eq_bind, Option.bind_eq_some_iff, ih]
      constructor
      · intro found
        obtain ⟨value, here, later, rest, same⟩ := found
        cases same
        exact .cons here rest
      · intro found
        cases found with
        | cons here rest => exact ⟨_, here, _, rest, rfl⟩

theorem list?_eq_some_iff {json : Json} {values : List α} :
    list? read json = some values ↔
      ∃ items, json = .array items ∧ items.mapM read = some values := by
  rcases json with _ | _ | (_ | _) | _ | _ | _ <;> simp [list?, view]

theorem table?_eq_some_iff {json : Json} {table : Table α} :
    table? read json = some table ↔ ∃ fields entries, json = .object fields ∧
      fields.mapM (fun field => (read field.2).map (field.1, ·)) = some entries ∧
        .ofList entries = table := by
  rcases json with _ | _ | (_ | _) | _ | _ | _ <;> simp [table?, view]

theorem Reads.list (reads : Reads read WrittenAs) : Reads (list? read) (IsList WrittenAs) := by
  intro json values
  simp only [list?_eq_some_iff, mapM_eq_some_iff]
  constructor
  · intro found
    obtain ⟨items, rfl, readInTurn⟩ := found
    exact .items (readInTurn.imp fun _ _ => (reads _ _).mp)
  · intro written
    cases written with
    | items inTurn => exact ⟨_, rfl, inTurn.imp fun _ _ => (reads _ _).mpr⟩

theorem Reads.table (reads : Reads read WrittenAs) : Reads (table? read) (IsTable WrittenAs) := by
  intro json table
  have field {entry : String × α} {field : String × Json} :
      (read field.2).map (field.1, ·) = some entry ↔
        entry.1 = field.1 ∧ WrittenAs entry.2 field.2 := by
    obtain ⟨key, value⟩ := entry
    simp [Option.map_eq_some_iff, reads field.2, eq_comm, and_comm]
  simp only [table?_eq_some_iff, mapM_eq_some_iff, field]
  constructor
  · intro found
    obtain ⟨fields, entries, rfl, inTurn, rfl⟩ := found
    exact .fields inTurn
  · intro written
    cases written with
    | fields inTurn => exact ⟨_, _, rfl, inTurn, rfl⟩

variable {json : Json} {name : String} {position : Nat}

theorem Reads.required (reads : Reads read WrittenAs) {value : α} :
    (membersOf json).required name position read = some value ↔
      Required WrittenAs value (json.member? name position) := by
  rw [Members.required, get?_membersOf]
  cases json.member? name position with
  | none => exact ⟨nofun, nofun⟩
  | some node =>
      refine ⟨fun found => .given ((reads _ _).mp found), fun written => ?_⟩
      cases written with
      | given written => exact (reads _ _).mpr written

theorem Reads.optional (reads : Reads read WrittenAs)
    (notNull : ∀ value, ¬ WrittenAs value .null) {value? : Option α} :
    (membersOf json).optional name position read = some value? ↔
      Optionally WrittenAs value? (json.member? name position) := by
  have given : ∀ node : Json, node ≠ .null → ((read node).map some = some value? ↔
      Optionally WrittenAs value? (some node)) := by
    intro node isGiven
    rw [Option.map_eq_some_iff]
    constructor
    · intro found
      obtain ⟨value, isRead, rfl⟩ := found
      exact .given ((reads _ _).mp isRead)
    · intro written
      cases written with
      | null => exact absurd rfl isGiven
      | given written => exact ⟨_, (reads _ _).mpr written, rfl⟩
  rw [Members.optional, get?_membersOf]
  rcases json.member? name position with _ | (_ | _ | (_ | _) | _ | _ | _)
  case none =>
    refine ⟨fun found => ?_, fun written => ?_⟩
    · cases found
      exact .leftOut
    · cases written
      rfl
  case some.null =>
    refine ⟨fun found => ?_, fun written => ?_⟩
    · cases found
      exact .null
    · cases written with
      | null => rfl
      | given written => exact absurd written (notNull _)
  all_goals exact given _ nofun

theorem Reads.withDefault (reads : Reads read WrittenAs) {default value : α} :
    (membersOf json).withDefault name position default read = some value ↔
      Defaulted WrittenAs default value (json.member? name position) := by
  rw [Members.withDefault, get?_membersOf]
  cases json.member? name position with
  | none =>
      refine ⟨fun found => ?_, fun written => ?_⟩
      · cases found
        exact .leftOut
      · cases written
        rfl
  | some node =>
      refine ⟨fun found => .given ((reads _ _).mp found), fun written => ?_⟩
      cases written with
      | given written => exact (reads _ _).mpr written

end Reads

end Document

/-! ## Reading files -/

open Document

theorem Fragment.reads : Reads Fragment.ofDocument? Fragment.WrittenAs := by
  intro json fragment
  constructor
  · intro found
    rcases json with _ | _ | (_ | _) | words | _ | fields
    case string =>
      cases found
      exact .text
    case object =>
      obtain ⟨node, here, named⟩ := Option.bind_eq_some_iff.mp found
      obtain ⟨name, isText, rfl⟩ := Option.map_eq_some_iff.mp named
      cases (reads_text _ _).mp isText
      exact .call here
    all_goals cases found
  · intro written
    cases written with
    | text => rfl
    | call here => simp [ofDocument?, view, here, text?]

theorem Fragment.notNull (fragment : Fragment) : ¬ fragment.WrittenAs .null := nofun

theorem Json.IsText.notNull (text : String) : ¬ IsText text .null := nofun

theorem KeyEntry.reads : Reads KeyEntry.ofDocument? KeyEntry.WrittenAs := by
  intro json entry
  simp only [ofDocument?, Option.bind_eq_bind, Option.bind_eq_some_iff, members?_eq_some_iff,
    and_assoc, exists_and_left, exists_eq_left', reads_text.required,
    reads_text.optional IsText.notNull, Fragment.reads.optional Fragment.notNull]
  constructor
  · intro found
    obtain ⟨isStructure, _, key, _, event, _, prompt, _, go, _, yes, _, no, _, action, same⟩ :=
      found
    cases same
    exact ⟨isStructure, key, event, prompt, go, yes, no, action⟩
  · intro written
    obtain ⟨isStructure, key, event, prompt, go, yes, no, action⟩ := written
    exact ⟨isStructure, _, key, _, event, _, prompt, _, go, _, yes, _, no, _, action, rfl⟩

theorem DecisionEntry.reads : Reads DecisionEntry.ofDocument? DecisionEntry.WrittenAs := by
  intro json entry
  simp only [ofDocument?, Option.bind_eq_bind, Option.bind_eq_some_iff, members?_eq_some_iff,
    and_assoc, exists_and_left, exists_eq_left', reads_text.required,
    reads_text.optional IsText.notNull]
  constructor
  · intro found
    obtain ⟨isStructure, _, decider, _, yes, _, no, _, action, same⟩ := found
    cases same
    exact ⟨isStructure, decider, yes, no, action⟩
  · intro written
    obtain ⟨isStructure, decider, yes, no, action⟩ := written
    exact ⟨isStructure, _, decider, _, yes, _, no, _, action, rfl⟩

theorem StateEntry.reads : Reads StateEntry.ofDocument? StateEntry.WrittenAs := by
  intro json entry
  simp only [ofDocument?, Option.bind_eq_bind, Option.bind_eq_some_iff, members?_eq_some_iff,
    and_assoc, exists_and_left, exists_eq_left', reads_text.required,
    Fragment.reads.list.withDefault, KeyEntry.reads.list.withDefault,
    DecisionEntry.reads.list.withDefault]
  constructor
  · intro found
    obtain ⟨isStructure, _, name, _, say, _, keys, _, decisions, same⟩ := found
    cases same
    exact ⟨isStructure, name, say, keys, decisions⟩
  · intro written
    obtain ⟨isStructure, name, say, keys, decisions⟩ := written
    exact ⟨isStructure, _, name, _, say, _, keys, _, decisions, rfl⟩

namespace FlowFile

theorem reads_flow : Reads ofFlow? FlowWrittenAs := by
  intro json file
  simp only [ofFlow?, Option.bind_eq_bind, Option.bind_eq_some_iff, members?_eq_some_iff,
    and_assoc, exists_and_left, exists_eq_left', reads_text.required,
    reads_text.table.withDefault, reads_reply.table.withDefault,
    StateEntry.reads.list.withDefault]
  constructor
  · intro found
    obtain ⟨isStructure, _, name, _, translations, _, callbacks, _, states, same⟩ := found
    cases same
    exact ⟨isStructure, name, translations, callbacks, states⟩
  · intro written
    obtain ⟨isStructure, name, translations, callbacks, states⟩ := written
    exact ⟨isStructure, _, name, _, translations, _, callbacks, _, states, rfl⟩

/-- Reading accepts the values that write a file, and no others. -/
theorem reads : Reads ofDocument? WrittenAs := by
  intro json file
  simp only [ofDocument?, Option.bind_eq_bind, Option.bind_eq_some_iff, members?_eq_some_iff,
    and_assoc, exists_and_left, exists_eq_left', reads_flow.required]
  exact ⟨fun ⟨isStructure, flow⟩ => ⟨isStructure, flow⟩, fun ⟨isStructure, flow⟩ =>
    ⟨isStructure, flow⟩⟩

end FlowFile

/-! ## The form that is written -/

section Writing

variable {α : Type} {WrittenAs : α → Json → Prop} {write : α → Json}

theorem Json.IsList.written (writes : ∀ value, WrittenAs value (write value)) (values : List α) :
    IsList WrittenAs values (.array (values.map write)) :=
  .items (List.forall₂_map_right_iff.mpr (List.forall₂_same.mpr fun value _ => writes value))

theorem Json.IsTable.written (writes : ∀ value, WrittenAs value (write value))
    (table : Table α) :
    IsTable WrittenAs table
      (.object (table.entries.map fun entry => (entry.1, write entry.2))) := by
  have fields : List.Forall₂ (fun entry field => entry.1 = field.1 ∧ WrittenAs entry.2 field.2)
      table.entries (table.entries.map fun entry => (entry.1, write entry.2)) :=
    List.forall₂_map_right_iff.mpr
      (List.forall₂_same.mpr fun entry _ => ⟨rfl, writes entry.2⟩)
  have written := IsTable.fields fields
  rw [Table.ofList_entries] at written
  exact written

theorem Json.Optionally.written (writes : ∀ value, WrittenAs value (write value))
    (value? : Option α) :
    Optionally WrittenAs value? (some ((value?.map write).getD .null)) := by
  cases value? with
  | none => exact .null
  | some value => exact .given (writes value)

end Writing

theorem Json.Optionally.ofText? (text? : Option String) :
    Optionally IsText text? (some (Json.ofText? text?)) := by
  cases text? with
  | none => exact .null
  | some text => exact .given rfl

theorem Fragment.writtenAs_toJson (fragment : Fragment) : fragment.WrittenAs fragment.toJson := by
  cases fragment with
  | text words => exact .text
  | call name => exact .call rfl

theorem KeyEntry.writtenAs_toJson (entry : KeyEntry) : entry.WrittenAs entry.toJson where
  isStructure := .named
  key := .given rfl
  event := .given rfl
  prompt := .written Fragment.writtenAs_toJson entry.prompt
  go := .ofText? entry.go
  yes := .ofText? entry.yes
  no := .ofText? entry.no
  action := .ofText? entry.action

theorem DecisionEntry.writtenAs_toJson (entry : DecisionEntry) :
    entry.WrittenAs entry.toJson where
  isStructure := .named
  decider := .given rfl
  yes := .ofText? entry.yes
  no := .ofText? entry.no
  action := .ofText? entry.action

theorem StateEntry.writtenAs_toJson (entry : StateEntry) : entry.WrittenAs entry.toJson where
  isStructure := .named
  name := .given rfl
  say := .given (.written Fragment.writtenAs_toJson entry.say)
  keys := .given (.written KeyEntry.writtenAs_toJson entry.keys)
  decisions := .given (.written DecisionEntry.writtenAs_toJson entry.decisions)

namespace FlowFile

theorem writtenAs_toJson (file : FlowFile) : file.WrittenAs file.toJson := by
  have translations : IsTable IsText file.translations
      (.object (file.translations.entries.map fun entry => (entry.1, .string entry.2))) :=
    .written (fun text => show IsText text (.string text) from rfl) file.translations
  have callbacks : IsTable IsReply file.callbacks (Json.ofTable file.callbacks) := by
    have written : IsTable IsReply file.callbacks
        (.object (file.callbacks.entries.map fun entry => (entry.1, id entry.2))) :=
      .written (fun reply => show IsReply reply (id reply) from rfl) file.callbacks
    simpa [Json.ofTable] using written
  refine ⟨.named, .given ?_⟩
  exact
    { isStructure := .named
      name := .given rfl
      translations := .given translations
      callbacks := .given callbacks
      states := .given (.written StateEntry.writtenAs_toJson file.states) }

theorem ofDocument?_toJson (file : FlowFile) : ofDocument? file.toJson = some file :=
  (reads _ _).mpr file.writtenAs_toJson

/-- Flow files survive their JSON form. A file is read back from the form it is written in.
What is read from any value is the file that the value writes, with what is left out filled in,
null for what is missing and unknown members ignored; written and read again it is the same
file, and defines the same flow or has the same definition error. -/
theorem json_form_is_read_back (file : FlowFile) (json : Json) :
    ofDocument? file.toJson = some file ∧
      (ofDocument? json = some file ↔ file.WrittenAs json) ∧
      let again := (ofDocument? json).bind fun read => ofDocument? read.toJson
      again = ofDocument? json ∧ again.map (·.flow) = (ofDocument? json).map (·.flow) := by
  have again : ((ofDocument? json).bind fun read => ofDocument? read.toJson) =
      ofDocument? json := by
    simp only [ofDocument?_toJson, Option.bind_fun_some]
  exact ⟨file.ofDocument?_toJson, reads json file, again, congrArg (Option.map (·.flow)) again⟩

/-- Tables and decisions are left out, `yes` is null, and `note` is unknown. The state is a
list of its members. -/
example : ofDocument? (Json.object [("flow", .object
      [("name", .string "news"), ("note", .bool true), ("states", .array [.array
        [.string "hello", .array [], .array [.object
          [("event", .string "stay"), ("go", .string "hello"), ("key", .string "1"),
            ("yes", .null)]]]])])]) =
    some ⟨"news", .empty, .empty,
      [⟨"hello", [], [⟨"1", "stay", none, some "hello", none, none, none⟩], []⟩]⟩ := rfl

end FlowFile

end VoiceMenu
