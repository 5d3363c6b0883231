import VoiceMenu.Callback.Resolver
import VoiceMenu.Document
import VoiceMenu.Flow.Draft

/-!
# Flow files

A flow file declares one flow: its name, translations, constant replies for
simulated calls, and its states in order. This module reads and writes the structure
of a flow file and says which flow it declares.
-/

set_option autoImplicit false

namespace VoiceMenu

/-- A key of a state. With `yes` or `no` the event names the decider. -/
structure KeyEntry where
  key : String
  event : String
  /-- Added to what the state says. -/
  prompt : Option Fragment
  go : Option String
  yes : Option String
  no : Option String
  action : Option String
  deriving DecidableEq, Repr

structure DecisionEntry where
  decider : String
  yes : Option String
  no : Option String
  action : Option String
  deriving DecidableEq, Repr

structure StateEntry where
  name : String
  say : List Fragment
  keys : List KeyEntry
  decisions : List DecisionEntry
  deriving DecidableEq, Repr

structure FlowFile where
  name : String
  translations : Table String
  callbacks : Table Json
  states : List StateEntry

/-! ### Written form -/

/-- A fragment is a text, or a table that names a callback. -/
def Fragment.toJson : Fragment → Json
  | .text words => .string words
  | .call name => .object [("call", .string name)]

namespace KeyEntry

def toJson (entry : KeyEntry) : Json :=
  .object
    [("action", Json.ofText? entry.action), ("event", .string entry.event),
      ("go", Json.ofText? entry.go), ("key", .string entry.key), ("no", Json.ofText? entry.no),
      ("prompt", (entry.prompt.map Fragment.toJson).getD .null), ("yes", Json.ofText? entry.yes)]

end KeyEntry

def DecisionEntry.toJson (entry : DecisionEntry) : Json :=
  .object
    [("action", Json.ofText? entry.action), ("decider", .string entry.decider),
      ("no", Json.ofText? entry.no), ("yes", Json.ofText? entry.yes)]

def StateEntry.toJson (entry : StateEntry) : Json :=
  .object
    [("decisions", .array (entry.decisions.map DecisionEntry.toJson)),
      ("keys", .array (entry.keys.map KeyEntry.toJson)), ("name", .string entry.name),
      ("say", .array (entry.say.map Fragment.toJson))]

def FlowFile.toJson (file : FlowFile) : Json :=
  .object
    [("flow", .object
      [("callbacks", Json.ofTable file.callbacks), ("name", .string file.name),
        ("states", .array (file.states.map StateEntry.toJson)),
        ("translations",
          .object (file.translations.entries.map fun (key, text) => (key, .string text)))])]

/-! ### Reading -/

section Reading

open Document

variable {τ : Type} [Document τ]

/-- Reads a fragment. Members beside `call` are ignored. -/
def Fragment.ofDocument? (node : τ) : Option Fragment :=
  match view node with
  | .text words => some (.text words)
  | .fields fields => (Table.lookup "call" fields).bind fun name => (text? name).map .call
  | _ => none

def KeyEntry.ofDocument? (node : τ) : Option KeyEntry := do
  let members ← members? 7 node
  let key ← members.required "key" 0 text?
  let event ← members.required "event" 1 text?
  let prompt ← members.optional "prompt" 2 Fragment.ofDocument?
  let go ← members.optional "go" 3 text?
  let yes ← members.optional "yes" 4 text?
  let no ← members.optional "no" 5 text?
  let action ← members.optional "action" 6 text?
  pure { key, event, prompt, go, yes, no, action }

def DecisionEntry.ofDocument? (node : τ) : Option DecisionEntry := do
  let members ← members? 4 node
  let decider ← members.required "decider" 0 text?
  let yes ← members.optional "yes" 1 text?
  let no ← members.optional "no" 2 text?
  let action ← members.optional "action" 3 text?
  pure { decider, yes, no, action }

def StateEntry.ofDocument? (node : τ) : Option StateEntry := do
  let members ← members? 4 node
  let name ← members.required "name" 0 text?
  let say ← members.withDefault "say" 1 [] (list? Fragment.ofDocument?)
  let keys ← members.withDefault "keys" 2 [] (list? KeyEntry.ofDocument?)
  let decisions ← members.withDefault "decisions" 3 [] (list? DecisionEntry.ofDocument?)
  pure { name, say, keys, decisions }

/-- Reads the flow that a file holds under `flow`. -/
def FlowFile.ofFlow? (node : τ) : Option FlowFile := do
  let members ← members? 4 node
  let name ← members.required "name" 0 text?
  let translations ← members.withDefault "translations" 1 .empty (table? text?)
  let callbacks ← members.withDefault "callbacks" 2 .empty (table? (some <| Document.toJson ·))
  let states ← members.withDefault "states" 3 [] (list? StateEntry.ofDocument?)
  pure { name, translations, callbacks, states }

def FlowFile.ofDocument? (node : τ) : Option FlowFile := do
  let members ← members? 1 node
  members.required "flow" 0 FlowFile.ofFlow?

end Reading

/-! ### Meaning -/

/-- The declaration of a key: with a prompt it is spoken, without one only bound. -/
def KeyEntry.declaration (entry : KeyEntry) : Declaration :=
  let binding : Binding :=
    { go := entry.go, yes := entry.yes, no := entry.no, action := entry.action }
  match entry.prompt with
  | some prompt => .prompt entry.key prompt entry.event binding
  | none => .press entry.key entry.event binding

def DecisionEntry.declaration (entry : DecisionEntry) : Declaration :=
  .decide entry.decider { yes := entry.yes, no := entry.no, action := entry.action }

def StateEntry.draft (entry : StateEntry) : StateDraft :=
  { name := entry.name
    declarations :=
      (if entry.say.isEmpty then [] else [.say entry.say]) ++
        entry.keys.map (·.declaration) ++ entry.decisions.map (·.declaration) }

namespace FlowFile

def draft (file : FlowFile) : FlowDraft :=
  { name := file.name
    translations := file.translations.entries
    states := file.states.map (·.draft) }

def flow (file : FlowFile) : Except DefinitionError Flow := file.draft.build

def resolver (file : FlowFile) {δ : Type} : Resolver δ := .constant file.callbacks

end FlowFile

end VoiceMenu
