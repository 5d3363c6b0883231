import VoiceMenu.Decimal.Double
import VoiceMenu.Toml.Moment
import VoiceMenu.Toml.Value

/-!
# Parts of TOML lines

Blanks, comments and line ends, the four kinds of strings, keys, and the values that
contain no others.
-/

set_option autoImplicit false

namespace VoiceMenu.Toml

open Text

/-! ### Between values -/

def isLineBlank (char : Char) : Bool := char == ' ' || char == '\t'

/-- A character that comments and single-line strings may contain. -/
def isPlain (char : Char) : Bool :=
  char == '\t' || (0x20 ≤ char.toNat && char.toNat != 0x7F)

/-- Spaces and tabs, possibly none. -/
def lineBlanks : Scanner Unit := do
  let _ ← Scanner.run isLineBlank

def newline : Scanner Unit :=
  Scanner.exactly ['\n'] <|> Scanner.exactly ['\r', '\n']

def documentEnd : Scanner Unit := fun chars =>
  if chars.isEmpty then some ((), chars) else none

def comment : Scanner Unit := do
  Scanner.mark '#'
  let _ ← Scanner.run isPlain

/-- What may follow the last part of a line. -/
def lineEnd : Scanner Unit := do
  lineBlanks
  let _ ← Scanner.optional? comment
  newline <|> documentEnd

/-- Blanks, line ends and comments, possibly none. -/
def gap : Scanner Unit := do
  let _ ← Scanner.many
    ((do let _ ← Scanner.run1 isLineBlank) <|> newline <|> (do comment; newline))

/-! ### Strings -/

def escape : Scanner Char := do
  match ← Scanner.one (fun _ => true) with
  | 'b' => pure '\x08'
  | 't' => pure '\t'
  | 'n' => pure '\n'
  | 'f' => pure '\x0C'
  | 'r' => pure '\r'
  | '"' => pure '"'
  | '\\' => pure '\\'
  | 'u' => codePoint 4
  | 'U' => codePoint 8
  | _ => failure
where
  /-- A character by the hexadecimal digits of its code point. -/
  codePoint (count : Nat) : Scanner Char := do
    let digits ← Scanner.times count (isDigitOf 16)
    match charOfCode? (numeral 16 digits) with
    | some char => pure char
    | none => failure

def basicString : Scanner (List Char) := do
  Scanner.mark '"'
  let pieces ← Scanner.many <|
    Scanner.run1 (fun char => isPlain char && char != '"' && char != '\\') <|>
    (do Scanner.mark '\\'; let char ← escape; pure [char])
  Scanner.mark '"'
  pure pieces.flatten

/-- A string in single quotes, on one line and without escapes. -/
def literalString : Scanner (List Char) := do
  Scanner.mark '\''
  let chars ← Scanner.run fun char => isPlain char && char != '\''
  Scanner.mark '\''
  pure chars

/-- One or two quotes inside a string that three of them end. -/
def innerQuotes (quote : Char) : Scanner (List Char) := fun chars =>
  let count := (chars.takeWhile (· == quote)).length
  if count = 1 ∨ count = 2 then some (List.replicate count quote, chars.drop count) else none

/-- The three quotes that end a string, with up to two quotes before them that belong
to it. -/
def closingQuotes (quote : Char) : Scanner (List Char) := fun chars =>
  let count := min 5 (chars.takeWhile (· == quote)).length
  if 3 ≤ count then some (List.replicate (count - 3) quote, chars.drop count) else none

/-- A string between two sets of three quotes. A line end right after the first set does
not count, and every other one is a line feed. -/
def multilineString (quote : Char) (piece : Scanner (List Char)) : Scanner (List Char) := do
  Scanner.exactly [quote, quote, quote]
  let _ ← Scanner.optional? newline
  let pieces ← Scanner.many (piece <|> (do newline; pure ['\n']) <|> innerQuotes quote)
  let last ← closingQuotes quote
  pure (pieces.flatten ++ last)

/-- A backslash at the end of a line. It removes the line end and all blanks and line
ends after it. -/
def lineContinuation : Scanner Unit := do
  Scanner.mark '\\'
  lineBlanks
  newline
  let _ ← Scanner.many ((do let _ ← Scanner.run1 isLineBlank) <|> newline)

def multilineBasicString : Scanner (List Char) :=
  multilineString '"' <|
    Scanner.run1 (fun char => isPlain char && char != '"' && char != '\\') <|>
    (do lineContinuation; pure []) <|>
    (do Scanner.mark '\\'; let char ← escape; pure [char])

def multilineLiteralString : Scanner (List Char) :=
  multilineString '\'' (Scanner.run1 fun char => isPlain char && char != '\'')

def anyString : Scanner String :=
  String.ofList <$>
    (multilineBasicString <|> basicString <|> multilineLiteralString <|> literalString)

/-! ### Keys -/

def isKeyChar (char : Char) : Bool :=
  char.isAlphanum || char == '_' || char == '-'

def keyPart : Scanner String :=
  String.ofList <$> (basicString <|> literalString <|> Scanner.run1 isKeyChar)

/-- Tables and arrays nested this deep, and keys of this many parts, are refused. -/
def nestingBound : Nat := 80

/-- A key: one or more parts with points between them, blanks allowed around each. -/
def key : Scanner (List String) := do
  let parts ← Scanner.separated1 (lineBlanks *> keyPart <* lineBlanks) (Scanner.mark '.')
  if parts.length < nestingBound then pure parts else failure

/-! ### Values that contain no others -/

/-- One or more digits of the base, with single underscores between digits. The
underscores are left out. -/
def groupedDigits (base : Nat) : Scanner (List Char) := do
  let groups ← Scanner.separated1 (Scanner.run1 (isDigitOf base)) (Scanner.mark '_')
  pure groups.flatten

def isNegative : Scanner Bool := do
  let sign ← Scanner.optional? (Scanner.one fun char => char == '+' || char == '-')
  pure (sign = some '-')

/-- The digits of a decimal whole number. Only zero itself begins with zero. -/
def decimalDigits : Scanner (List Char) := fun chars =>
  match chars with
  | '0' :: rest => some (['0'], rest)
  | _ => groupedDigits 10 chars

def integer : Scanner Int :=
  (do Scanner.exactly ['0', 'x']; unsigned 16) <|>
  (do Scanner.exactly ['0', 'o']; unsigned 8) <|>
  (do Scanner.exactly ['0', 'b']; unsigned 2) <|>
  (do
    let negative ← isNegative
    let digits ← decimalDigits
    let size := numeral 10 digits
    if negative then (if size ≤ signedBound then pure (-(size : Int)) else failure)
    else if size < signedBound then pure (size : Int)
    else failure)
where
  /-- The digits after the mark of a base. -/
  unsigned (base : Nat) : Scanner Int := do
    let digits ← groupedDigits base
    if numeral base digits < signedBound then pure (numeral base digits : Int) else failure

def exponent : Scanner Int := do
  let _ ← Scanner.one fun char => char == 'e' || char == 'E'
  let negative ← isNegative
  let digits ← groupedDigits 10
  let size : Int := numeral 10 digits
  pure (if negative then -size else size)

def fraction : Scanner (List Char) := do
  Scanner.mark '.'
  groupedDigits 10

/-- A float: a fraction, an exponent or both have to be there, or it is one of the values
that are no finite numbers. A number too large for a double is refused; one too far
below zero counts as infinite. -/
def float : Scanner Value :=
  (do
    let negative ← isNegative
    let whole ← decimalDigits
    let decimals ← Scanner.optional? fraction
    let power ← Scanner.optional? exponent
    if decimals.isNone ∧ power.isNone then failure
    else
      let places := decimals.getD []
      match Decimal.Double.ofDecimal? negative (numeral 10 (whole ++ places))
          (power.getD 0 - places.length) with
      | some value => pure (.float value)
      | none => if negative then pure .notFinite else failure) <|>
  (do
    let _ ← isNegative
    Scanner.exactly ['i', 'n', 'f'] <|> Scanner.exactly ['n', 'a', 'n']
    pure .notFinite)

def scalar : Scanner Value :=
  (.text <$> anyString) <|> (.moment <$> moment) <|> float <|> (.integer <$> integer) <|>
  (do Scanner.exactly ['t', 'r', 'u', 'e']; pure (.boolean true)) <|>
  (do Scanner.exactly ['f', 'a', 'l', 's', 'e']; pure (.boolean false))

end VoiceMenu.Toml
