import VoiceMenu.Document

/-!
# TOML values

The values of a TOML document. Dates and times are kept as the text of their standard
form. As a document, and as JSON, a date or time is a table with that text under a
reserved name, and a float that is no finite number has no JSON form but null.
-/

set_option autoImplicit false

namespace VoiceMenu.Toml

inductive Value where
  | text (text : String)
  | integer (value : Int)
  | float (value : Decimal.Double)
  /-- An infinity or a NaN. -/
  | notFinite
  | boolean (value : Bool)
  | moment (text : String)
  | array (items : List Value)
  | table (fields : List (String × Value))
  deriving Repr, Inhabited

namespace Value

/-- The name under which a date or time is found. -/
def momentField : String := "$__toml_private_datetime"

mutual

def toJson : Value → Json
  | .text words => .string words
  | .integer value => .integer value
  | .float value => .number (.float value)
  | .notFinite => .null
  | .boolean value => .bool value
  | .moment words => .object [(momentField, .string words)]
  | .array items => .array (itemsToJson items)
  | .table fields => Json.ofTable (Table.ofList (fieldsToJson fields))

def itemsToJson : List Value → List Json
  | [] => []
  | item :: items => toJson item :: itemsToJson items

def fieldsToJson : List (String × Value) → List (String × Json)
  | [] => []
  | (key, value) :: fields => (key, toJson value) :: fieldsToJson fields

end

instance : Document Value where
  view
    | .text words => .text words
    | .integer value => .integer value
    | .moment words => .fields [(momentField, .text words)]
    | .array items => .list items
    | .table fields => .fields fields
    | _ => .other
  toJson := toJson
  toleratesSurplus := true

end Value

end VoiceMenu.Toml
