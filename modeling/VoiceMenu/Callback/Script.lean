import VoiceMenu.Callback.Resolver

/-!
# Scripted callbacks

For simulated calls the behaviour of a callback can be scripted: a script may set
a variable of the domain, fail, reply from a list, compare or echo the digits, or
read a variable back. The domain is a table of variables.
-/

set_option autoImplicit false

namespace VoiceMenu

inductive TextScript where
  | fail (reason : String)
  /-- Replies with a variable, null if it is not set. -/
  | get (variableName : String)
  | constant (reply : Json)
  deriving Repr

inductive ScriptReply where
  | query (script : TextScript)
  /-- One entry after the other, staying at the last one. -/
  | sequence (replies : List Json)
  | equals (digits : String)
  | digits
  deriving Repr

/-- What an action stores before it replies: the value, or without one the digits. -/
structure ScriptStore where
  variableName : String
  value : Option Json
  deriving Repr

structure ActionScript where
  store : Option ScriptStore
  reply : ScriptReply
  deriving Repr

def TextScript.run (script : TextScript) (domain : Table Json) : Except String Json :=
  match script with
  | .fail reason => .error reason
  | .get variableName => .ok ((domain.get? variableName).getD .null)
  | .constant reply => .ok reply

namespace ActionScript

/-- The variable that counts the replies given from the list of the named action. -/
def counter (name : String) : String := "#" ++ name

/-- The entry at `index`, the last entry past the end, null for an empty list. -/
def entryAt (replies : List Json) (index : Nat) : Json :=
  (replies[min index (replies.length - 1)]?).getD .null

def run (script : ActionScript) (name : String) (digits : Option String)
    (domain : Table Json) : Table Json × Except String Json :=
  let echo := Json.ofText? digits
  let domain := match script.store with
    | none => domain
    | some store => domain.insert store.variableName (store.value.getD echo)
  match script.reply with
  | .query query => (domain, query.run domain)
  | .sequence replies =>
      let index := ((domain.get? (counter name)).bind Json.digitLimit?).getD 0
      (domain.insert (counter name) (.integer (index + 1)), .ok (entryAt replies index))
  | .equals expected => (domain, .ok (.bool (digits = some expected)))
  | .digits => (domain, .ok echo)

end ActionScript

def Resolver.scripted (actions : Table ActionScript) (texts : Table TextScript) :
    Resolver (Table Json) :=
  .registry
    (.ofList (actions.entries.map fun (name, script) => (name, script.run name)))
    (.ofList (texts.entries.map fun (name, script) => (name, script.run)))

end VoiceMenu
