import VoiceMenu.Decimal.Shortest
import VoiceMenu.Json.Basic

/-!
# Compact JSON text

Messages quote replies in compact form: no blanks, object keys in ascending
order, and only the quote, the backslash and the control characters escaped.
-/

set_option autoImplicit false

namespace VoiceMenu

/-- How a number with a fraction is laid out: up to which number of digits before
the point, and down to how many zeros after it, no exponent is written, and what
stands before an exponent that is not negative. -/
structure FloatLayout where
  wholeDigits : Int
  leadingZeros : Int
  plusSign : List Char

/-- Numbers below `10 ^ 16` and from `10 ^ -5` on are written without exponent. Every
exponent has a sign. -/
def Json.floatLayout : FloatLayout := ⟨16, 4, ['+']⟩

/-- The digits of a decimal without the zeros at their end, and the exponent of the last
digit that is left. Zero has no digits. -/
def Decimal.Numeral.significantDigits (numeral : Decimal.Numeral) : List Char × Int :=
  let digits := Nat.toDigits 10 numeral.digits
  let kept := (digits.reverse.dropWhile (· == '0')).reverse
  (kept, numeral.exponent + (digits.length - kept.length : Nat))

/-- Lays out the digits of a decimal. The point always has a digit on both sides;
with an exponent it is left out after a single digit. -/
def FloatLayout.text (layout : FloatLayout) (digits : List Char) (exponent : Int) : List Char :=
  let zeros (count : Int) := List.replicate count.toNat '0'
  let point : Int := digits.length + exponent
  if digits.isEmpty then ['0', '.', '0']
  else if 0 ≤ exponent ∧ point ≤ layout.wholeDigits then
    digits ++ zeros exponent ++ ['.', '0']
  else if 0 < point ∧ point ≤ layout.wholeDigits then
    digits.take point.toNat ++ ['.'] ++ digits.drop point.toNat
  else if -layout.leadingZeros ≤ point ∧ point ≤ 0 then
    ['0', '.'] ++ zeros (-point) ++ digits
  else
    let fraction := if digits.length = 1 then [] else '.' :: digits.drop 1
    let power := point - 1
    let sign := if power < 0 then [] else layout.plusSign
    digits.take 1 ++ fraction ++ ['e'] ++ sign ++ (toString power).toList

def Decimal.Double.text (number : Decimal.Double) : String :=
  let (digits, exponent) := number.shortest.significantDigits
  let unsigned := Json.floatLayout.text digits exponent
  String.ofList (if number.negative then '-' :: unsigned else unsigned)

/-- The text of a number. A whole number has neither point nor exponent. -/
def Number.text : Number → String
  | .integer value => toString value
  | .float value => value.text

namespace Json

def hexDigit (value : Nat) : Char :=
  (Nat.toDigits 16 value).headD '0'

def escapeChar (char : Char) : List Char :=
  if char = '"' then ['\\', '"']
  else if char = '\\' then ['\\', '\\']
  else if char = '\x08' then ['\\', 'b']
  else if char = '\x0C' then ['\\', 'f']
  else if char = '\n' then ['\\', 'n']
  else if char = '\r' then ['\\', 'r']
  else if char = '\t' then ['\\', 't']
  else if char.toNat < 0x20 then
    ['\\', 'u', '0', '0', hexDigit (char.toNat / 16), hexDigit (char.toNat % 16)]
  else [char]

def quote (text : String) : String :=
  "\"" ++ String.ofList (text.toList.flatMap escapeChar) ++ "\""

mutual

def compact : Json → String
  | .null => "null"
  | .bool true => "true"
  | .bool false => "false"
  | .number value => value.text
  | .string text => quote text
  | .array items => "[" ++ String.intercalate "," (compactItems items) ++ "]"
  | .object fields =>
      let members := (compactFields fields).mergeSort (fun left right => left.1 ≤ right.1)
      "\x7b" ++ String.intercalate "," (members.map fun (key, text) => quote key ++ ":" ++ text) ++
        "\x7d"

def compactItems : List Json → List String
  | [] => []
  | item :: items => compact item :: compactItems items

def compactFields : List (String × Json) → List (String × String)
  | [] => []
  | (key, value) :: fields => (key, compact value) :: compactFields fields

end

end Json

end VoiceMenu
