import VoiceMenu.Decimal.Double
import VoiceMenu.Table

/-!
# JSON values

Replies of callbacks and the data stored with a call are JSON values. Whole
numbers and numbers with a fraction are told apart, as in the written form:
`2` is a whole number and `2.0` is not.
-/

set_option autoImplicit false

namespace VoiceMenu

inductive Number where
  | integer (value : Int)
  | float (value : Decimal.Double)
  deriving DecidableEq, Repr, Inhabited

/-- A JSON value. The fields of an object are listed by ascending key. -/
inductive Json where
  | null
  | bool (value : Bool)
  | number (value : Number)
  | string (text : String)
  | array (items : List Json)
  | object (fields : List (String × Json))
  deriving Repr, Inhabited

namespace Json

def ofTable (table : Table Json) : Json := .object table.entries

def table? : Json → Option (Table Json)
  | .object fields => some (Table.ofList fields)
  | _ => none

def integer (value : Int) : Json := .number (.integer value)

def ofText? (text? : Option String) : Json :=
  match text? with
  | some text => .string text
  | none => .null

end Json

end VoiceMenu
