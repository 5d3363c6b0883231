import VoiceMenu.Toml.Value

/-!
# Trees of TOML tables

While a document is read its tables form a tree that remembers how each table came
about: opened by a header, passed through by the header of a table below it, or made
by a dotted key. That decides what may still be added to it.
-/

set_option autoImplicit false

namespace VoiceMenu.Toml

/-- How a table came about. -/
inductive Origin where
  /-- Opened by a header. -/
  | header
  /-- Passed through on the way to another table's header. -/
  | path
  /-- Made by a dotted key. -/
  | dottedKey
  deriving DecidableEq, Repr

inductive Node where
  /-- A finished value; inline tables and arrays are finished. -/
  | value (value : Value)
  | table (origin : Origin) (fields : List (String × Node))
  /-- An array of tables, of which the last can still grow. -/
  | tables (closed : List (List (String × Node))) (last : List (String × Node))
  deriving Inhabited

abbrev Fields := List (String × Node)

namespace Fields

def get? (fields : Fields) (key : String) : Option Node :=
  Table.lookup key fields

def set (fields : Fields) (key : String) (node : Node) : Fields :=
  match fields with
  | [] => [(key, node)]
  | entry :: rest => if entry.1 = key then (key, node) :: rest else entry :: set rest key node

/-- Adds a value under a dotted key to a table of the given origin. The tables on the
way are made, or were made by dotted keys; one that a header opened is never extended
and one that a header passed through gets no direct entries. -/
def insertDotted (key : String) (value : Value) : (origin : Option Origin) → (path : List String) →
    Fields → Option Fields
  | origin, [], fields =>
      if (origin = none ∨ origin = some .dottedKey) ∧ (fields.get? key).isNone then
        some (fields.set key (.value value))
      else none
  | _, part :: path, fields =>
      match fields.get? part with
      | none => do
          let below ← insertDotted key value (some .dottedKey) path []
          some (fields.set part (.table .dottedKey below))
      | some (.value _) => none
      | some (.table .header _) => none
      | some (.table origin below) => do
          let below ← insertDotted key value (some origin) path below
          some (fields.set part (.table origin below))
      | some (.tables closed last) => do
          let last ← insertDotted key value (some .header) path last
          some (fields.set part (.tables closed last))

/-- Changes the table at the end of a header's path; of an array of tables, the last one.
Tables that are missing on the way are made. -/
def atPath (change : Fields → Option Fields) : (path : List String) → Fields → Option Fields
  | [], fields => change fields
  | part :: path, fields =>
      match fields.get? part with
      | none => do
          let below ← atPath change path []
          some (fields.set part (.table .path below))
      | some (.value _) => none
      | some (.table origin below) => do
          let below ← atPath change path below
          some (fields.set part (.table origin below))
      | some (.tables closed last) => do
          let last ← atPath change path last
          some (fields.set part (.tables closed last))

/-- Opens the table that a header names. It must not exist, or only because another
header passed through it. -/
def openTable (key : String) (fields : Fields) : Option Fields :=
  match fields.get? key with
  | none => some (fields.set key (.table .header []))
  | some (.table .path below) => some (fields.set key (.table .header below))
  | some _ => none

/-- Opens one more table of the array of tables that a header names. -/
def openItem (key : String) (fields : Fields) : Option Fields :=
  match fields.get? key with
  | none => some (fields.set key (.tables [] []))
  | some (.tables closed last) => some (fields.set key (.tables (closed ++ [last]) []))
  | some _ => none

end Fields

mutual

def Node.toValue : Node → Value
  | .value value => value
  | .table _ fields => .table (fieldValues fields)
  | .tables closed last => .array (tableValues closed ++ [.table (fieldValues last)])

def fieldValues : List (String × Node) → List (String × Value)
  | [] => []
  | (key, node) :: rest => (key, node.toValue) :: fieldValues rest

def tableValues : List (List (String × Node)) → List Value
  | [] => []
  | fields :: rest => .table (fieldValues fields) :: tableValues rest

end

end VoiceMenu.Toml
