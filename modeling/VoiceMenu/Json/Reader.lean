import VoiceMenu.Decimal.Scaling
import VoiceMenu.Json.Basic
import VoiceMenu.Text.Scanner

/-!
# Reading JSON text

The reader accepts the JSON grammar and nothing else. A number with neither
fraction nor exponent is a whole number if it fits 64 bits, signed or unsigned;
every other number is a double, read in steps that each round: the digits that fit
64 bits become a double, and that is scaled by a power of ten. Of several fields with
one key the last counts. Values may be nested 127 deep.
-/

set_option autoImplicit false

namespace VoiceMenu.Json

open Text

/-- Part of a string as written: a character, or a UTF-16 code unit given by its
number. -/
inductive Piece where
  | char (char : Char)
  | codeUnit (value : Nat)

def escaped? : Char → Option Char
  | '"' => some '"'
  | '\\' => some '\\'
  | '/' => some '/'
  | 'b' => some '\x08'
  | 'f' => some '\x0C'
  | 'n' => some '\n'
  | 'r' => some '\r'
  | 't' => some '\t'
  | _ => none

def pieces : List Char → Option (List Piece × List Char)
  | [] => none
  | '"' :: rest => some ([], rest)
  | '\\' :: 'u' :: a :: b :: c :: d :: rest =>
      if [a, b, c, d].all (isDigitOf 16) then do
        let (more, tail) ← pieces rest
        some (.codeUnit (numeral 16 [a, b, c, d]) :: more, tail)
      else none
  | '\\' :: mark :: rest => do
      let char ← escaped? mark
      let (more, tail) ← pieces rest
      some (.char char :: more, tail)
  | char :: rest =>
      if char = '\\' ∨ char.toNat < 0x20 then none
      else do
        let (more, tail) ← pieces rest
        some (.char char :: more, tail)

/-- The characters of a string. A high surrogate must be followed by a low one,
and a low one must not stand alone. -/
def joinPieces : List Piece → Option (List Char)
  | [] => some []
  | .char char :: rest => (char :: ·) <$> joinPieces rest
  | .codeUnit high :: .codeUnit low :: rest =>
      if 0xD800 ≤ high ∧ high < 0xDC00 then
        if 0xDC00 ≤ low ∧ low < 0xE000 then do
          let char ← charOfCode? (0x10000 + (high - 0xD800) * 0x400 + (low - 0xDC00))
          (char :: ·) <$> joinPieces rest
        else none
      else do
        let char ← charOfCode? high
        (char :: ·) <$> joinPieces (.codeUnit low :: rest)
  | .codeUnit value :: rest => do
      let char ← charOfCode? value
      (char :: ·) <$> joinPieces rest

def quotedText : Scanner String := do
  Scanner.mark '"'
  let found ← pieces
  match joinPieces found with
  | some chars => pure (String.ofList chars)
  | none => failure

def exponent : Scanner Int := do
  let _ ← Scanner.one fun char => char == 'e' || char == 'E'
  let sign ← Scanner.optional? (Scanner.one fun char => char == '+' || char == '-')
  let digits ← Scanner.run1 (isDigitOf 10)
  let size : Int := numeral 10 digits
  pure (if sign = some '-' then -size else size)

def fraction : Scanner (List Char) := do
  Scanner.mark '.'
  Scanner.run1 (isDigitOf 10)

/-- The number that a number and digits behind it write, as far as it fits 64 bits, and
the digits from the first one that makes it too large. -/
def leading (size : Nat) : List Char → Nat × List Char
  | [] => (size, [])
  | digit :: rest =>
      let longer := size * 10 + numeral 10 [digit]
      if longer < unsignedBound then leading longer rest else (size, digit :: rest)

/-- The number written by a sign, the digits before the point, and the fraction
and exponent if there are any. Digits of the whole part that do not fit count as zeros,
and the fraction goes on behind those that fit. -/
def numberOf? (negative : Bool) (whole : List Char) (fraction? : Option (List Char))
    (exponent? : Option Int) : Option Number :=
  let decimals := fraction?.getD []
  let (size, surplus) := leading 0 whole
  let (significand, unread) := leading size decimals
  let places : Int := decimals.length - unread.length
  let float := do
    let start ← Decimal.Double.ofNat? negative significand
    let value ← start.scaleByTen? (exponent?.getD 0 + surplus.length - places)
    some (Number.float value)
  if fraction?.isSome ∨ exponent?.isSome ∨ ¬ surplus.isEmpty then float
  else if negative then
    if 0 < size ∧ size ≤ signedBound then some (.integer (-size)) else float
  else some (.integer size)

/-- A number. Its first digit is zero only if it has no other digit before the
point. -/
def anyNumber : Scanner Number := do
  let sign ← Scanner.optional? (Scanner.mark '-')
  let whole ← Scanner.run1 (isDigitOf 10)
  let fraction? ← Scanner.optional? fraction
  let exponent? ← Scanner.optional? exponent
  if 1 < whole.length ∧ whole.head? = some '0' then failure
  else
    match numberOf? sign.isSome whole fraction? exponent? with
    | some value => pure value
    | none => failure

def blanks : Scanner Unit := do
  let _ ← Scanner.run fun char => char == ' ' || char == '\n' || char == '\r' || char == '\t'

def scalar : Scanner Json :=
  (Scanner.exactly ['n', 'u', 'l', 'l'] *> pure .null) <|>
  (Scanner.exactly ['t', 'r', 'u', 'e'] *> pure (.bool true)) <|>
  (Scanner.exactly ['f', 'a', 'l', 's', 'e'] *> pure (.bool false)) <|>
  (.string <$> quotedText) <|>
  (.number <$> anyNumber)

/-- A value with blanks around it, in which arrays and objects are nested at most
`depth` deep. -/
def value : (depth : Nat) → Scanner Json
  | 0 => blanks *> scalar <* blanks
  | depth + 1 => do
      blanks
      let found ← match ← Scanner.peek? with
        | some '[' => do
            Scanner.mark '['
            blanks
            let items ← Scanner.separated (value depth) (Scanner.mark ',')
            Scanner.mark ']'
            pure (.array items)
        | some '\x7b' => do
            Scanner.mark '\x7b'
            blanks
            let fields ← Scanner.separated
              (do
                blanks
                let key ← quotedText
                blanks
                Scanner.mark ':'
                let found ← value depth
                pure (key, found))
              (Scanner.mark ',')
            Scanner.mark '\x7d'
            pure (ofTable (Table.ofList fields))
        | _ => scalar
      blanks
      pure found

def depthLimit : Nat := 127

def parse? (text : String) : Option Json :=
  Scanner.all (value depthLimit) text.toList

end VoiceMenu.Json
