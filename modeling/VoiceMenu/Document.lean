import VoiceMenu.Json.Basic

/-!
# Structured documents

Flow files, settings and stored records are read from documents: trees of texts,
numbers, lists and tables. A document type says what its nodes look like; the readers
here work for all of them.

A structure is read from a table by the names of its members, and members that it
does not know are ignored. It may also be given as a list of its members in order.
-/

set_option autoImplicit false

namespace VoiceMenu

inductive View (τ : Type) where
  | null
  | integer (value : Int)
  | text (text : String)
  | list (items : List τ)
  | fields (fields : List (String × τ))
  /-- A node of a kind that no structure uses. -/
  | other

class Document (τ : Type) where
  view : τ → View τ
  toJson : τ → Json
  /-- May a list of members be longer than the structure? -/
  toleratesSurplus : Bool

namespace Document

variable {τ α : Type}

instance : Document Json where
  view
    | .null => .null
    | .number (.integer value) => .integer value
    | .string text => .text text
    | .array items => .list items
    | .object fields => .fields fields
    | _ => .other
  toJson := id
  toleratesSurplus := false

variable [Document τ]

def text? (node : τ) : Option String :=
  match view node with
  | .text text => some text
  | _ => none

/-- A whole number that is not negative. -/
def natural? (node : τ) : Option Nat :=
  match view node with
  | .integer value => value.toNat?
  | _ => none

def list? (item : τ → Option α) (node : τ) : Option (List α) :=
  match view node with
  | .list items => items.mapM item
  | _ => none

/-- A table whose values can all be read, whatever their keys. -/
def table? (value : τ → Option α) (node : τ) : Option (Table α) :=
  match view node with
  | .fields fields =>
      (fields.mapM fun field => (value field.2).map (field.1, ·)).map Table.ofList
  | _ => none

inductive Members (τ : Type) where
  | named (fields : List (String × τ))
  | listed (items : List τ)

/-- The members of a structure that has at most `count` of them. -/
def members? (count : Nat) (node : τ) : Option (Members τ) :=
  match view node with
  | .fields fields => some (.named fields)
  | .list items =>
      if items.length ≤ count ∨ toleratesSurplus τ then some (.listed items) else none
  | _ => none

namespace Members

/-- The member of the given name, which is the one at `position` in a list. -/
def get? (members : Members τ) (name : String) (position : Nat) : Option τ :=
  match members with
  | .named fields => Table.lookup name fields
  | .listed items => items[position]?

def required (members : Members τ) (name : String) (position : Nat)
    (read : τ → Option α) : Option α :=
  (members.get? name position).bind read

/-- A member that may be left out, but is not null. -/
def withDefault (members : Members τ) (name : String) (position : Nat)
    (default : α) (read : τ → Option α) : Option α :=
  match members.get? name position with
  | none => some default
  | some node => read node

/-- A member that may be left out or null. -/
def optional (members : Members τ) (name : String) (position : Nat)
    (read : τ → Option α) : Option (Option α) :=
  match members.get? name position with
  | none => some none
  | some node =>
      match view node with
      | .null => some none
      | _ => (read node).map some

end Members

end Document

end VoiceMenu
