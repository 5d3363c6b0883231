import VoiceMenu.Toml.Lexeme
import VoiceMenu.Toml.Tree

/-!
# Reading TOML documents

A document is a list of statements, one a line: headers that open tables, and keys
with values, which belong to the table opened last. The reader accepts TOML 1.0.
-/

set_option autoImplicit false

namespace VoiceMenu.Toml

open Text

structure Assignment where
  /-- All parts of the key but the last. -/
  path : List String
  key : String
  value : Value

/-- The assignment to a key of the given parts, of which there is at least one. -/
def Assignment.ofParts? (parts : List String) (value : Value) : Option Assignment :=
  parts.getLast?.map fun key => ⟨parts.dropLast, key, value⟩

/-- The table that the assignments of an inline table make. -/
def inlineTable? (assignments : List Assignment) : Option Value := do
  let fields ← assignments.foldlM
    (fun (fields : Fields) assignment =>
      fields.insertDotted assignment.key assignment.value none assignment.path)
    []
  some (.table (fieldValues fields))

def assignment (value : Scanner Value) : Scanner Assignment := do
  let parts ← key
  Scanner.mark '='
  lineBlanks
  let value ← value
  match Assignment.ofParts? parts value with
  | some assignment => pure assignment
  | none => failure

/-- A value in which arrays and inline tables are nested at most `depth` deep. -/
def value : (depth : Nat) → Scanner Value
  | 0 => scalar
  | depth + 1 => do
      match ← Scanner.peek? with
      | some '[' => do
          Scanner.mark '['
          let items ← Scanner.separated (gap *> value depth <* gap) (Scanner.mark ',')
          if !items.isEmpty then
            let _ ← Scanner.optional? (Scanner.mark ',')
          gap
          Scanner.mark ']'
          pure (.array items)
      | some '\x7b' => do
          Scanner.mark '\x7b'
          let assignments ← Scanner.separated (assignment (value depth) <* lineBlanks)
            (Scanner.mark ',')
          lineBlanks
          Scanner.mark '\x7d'
          match inlineTable? assignments with
          | some table => pure table
          | none => failure
      | _ => scalar

inductive Statement where
  | nothing
  | table (parts : List String)
  | item (parts : List String)
  | assign (assignment : Assignment)

def statement : Scanner Statement := do
  lineBlanks
  match ← Scanner.peek? with
  | some '#' => do
      comment
      newline <|> documentEnd
      pure .nothing
  | some '\n' | some '\r' => do
      newline
      pure .nothing
  | some '[' =>
      (do
        Scanner.exactly ['[', '[']
        let parts ← key
        Scanner.exactly [']', ']']
        lineEnd
        pure (.item parts)) <|>
      (do
        Scanner.mark '['
        let parts ← key
        Scanner.mark ']'
        lineEnd
        pure (.table parts))
  | _ => do
      let found ← assignment (value (nestingBound - 1))
      lineEnd
      pure (.assign found)

/-- The tree read so far, and the path of the table opened last. -/
structure Progress where
  fields : Fields
  path : List String

def Progress.apply (progress : Progress) : Statement → Option Progress
  | .nothing => some progress
  | .table parts => do
      let key ← parts.getLast?
      let fields ← progress.fields.atPath (Fields.openTable key) parts.dropLast
      some ⟨fields, parts⟩
  | .item parts => do
      let key ← parts.getLast?
      let fields ← progress.fields.atPath (Fields.openItem key) parts.dropLast
      some ⟨fields, parts⟩
  | .assign assignment => do
      let fields ← progress.fields.atPath
        (Fields.insertDotted assignment.key assignment.value none assignment.path) progress.path
      some ⟨fields, progress.path⟩

/-- All statements of a document. A byte order mark may stand in front. -/
def statements : Scanner (List Statement) := do
  let _ ← Scanner.optional? (Scanner.mark '\uFEFF')
  let found ← Scanner.many statement
  lineBlanks
  pure found

/-- The document that a text writes, as a table. -/
def parse? (text : String) : Option Value := do
  let found ← Scanner.all statements text.toList
  let progress ← found.foldlM Progress.apply ⟨[], []⟩
  some (.table (fieldValues progress.fields))

end VoiceMenu.Toml
