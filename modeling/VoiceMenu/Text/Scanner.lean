/-!
# Scanners

A scanner reads something from the front of a text and says what is left, or
fails. Choice with `<|>` starts the second alternative where the first one
started. Repetition ends because each round has to shorten the text.
-/

set_option autoImplicit false

namespace VoiceMenu.Text

/-- Reads an `α` from the front of a text. -/
abbrev Scanner (α : Type) := StateT (List Char) Option α

namespace Scanner

variable {α β : Type}

/-- The result of a scanner that has to read the whole text. -/
def all (scanner : Scanner α) (text : List Char) : Option α :=
  match scanner text with
  | some (value, []) => some value
  | _ => none

/-- The next character, left in place; `none` at the end. -/
def peek? : Scanner (Option Char) := fun text => some (text.head?, text)

def one (accepts : Char → Bool) : Scanner Char
  | [] => none
  | char :: rest => if accepts char then some (char, rest) else none

def exactly : List Char → Scanner Unit
  | [] => fun text => some ((), text)
  | char :: chars => do
      let _ ← one (· == char)
      exactly chars

def mark (char : Char) : Scanner Unit := exactly [char]

/-- The longest run of characters with the given property, possibly empty. -/
def run (accepts : Char → Bool) : Scanner (List Char) := fun text =>
  some (text.takeWhile accepts, text.dropWhile accepts)

/-- The longest run of characters with the given property, at least one. -/
def run1 (accepts : Char → Bool) : Scanner (List Char) := do
  let chars ← run accepts
  if chars.isEmpty then failure else pure chars

def times (count : Nat) (accepts : Char → Bool) : Scanner (List Char) :=
  match count with
  | 0 => pure []
  | count + 1 => do
      let char ← one accepts
      let chars ← times count accepts
      pure (char :: chars)

/-- The scanner's value, or `none` where it fails and reads nothing. -/
def optional? (scanner : Scanner α) : Scanner (Option α) :=
  (some <$> scanner) <|> pure none

/-- As many items as can be read. An item that leaves the text as long as it was
ends the repetition and is not counted. -/
def many (item : Scanner α) (text : List Char) : Option (List α × List Char) :=
  match item text with
  | none => some ([], text)
  | some (value, rest) =>
      if rest.length < text.length then
        match many item rest with
        | none => none
        | some (values, tail) => some (value :: values, tail)
      else some ([], text)
termination_by text.length

/-- Items with `separator` between any two of them, at least one item. A
separator without an item after it is left in place. -/
def separated1 (item : Scanner α) (separator : Scanner β) : Scanner (List α) := do
  let first ← item
  let others ← many (separator *> item)
  pure (first :: others)

def separated (item : Scanner α) (separator : Scanner β) : Scanner (List α) :=
  separated1 item separator <|> pure []

end Scanner

def digitValue? (char : Char) : Option Nat :=
  if '0' ≤ char ∧ char ≤ '9' then some (char.toNat - '0'.toNat)
  else if 'a' ≤ char ∧ char ≤ 'f' then some (char.toNat - 'a'.toNat + 10)
  else if 'A' ≤ char ∧ char ≤ 'F' then some (char.toNat - 'A'.toNat + 10)
  else none

/-- Is the character a digit of the given base, at most sixteen? -/
def isDigitOf (base : Nat) (char : Char) : Bool :=
  match digitValue? char with
  | some value => value < base
  | none => false

/-- The number that the digits write in the given base, most significant digit
first. Characters that are no digits count as zero. -/
def numeral (base : Nat) (digits : List Char) : Nat :=
  digits.foldl (fun value char => value * base + (digitValue? char).getD 0) 0

/-- The sizes of whole numbers in 64 bits with sign are below this one, apart from the
least of them. -/
def signedBound : Nat := 9223372036854775808

/-- Whole numbers in 64 bits without sign are below this one. -/
def unsignedBound : Nat := 18446744073709551616

/-- The character with the given code point; `none` for surrogates and beyond the
last code point. -/
def charOfCode? (code : Nat) : Option Char :=
  if valid : code.isValidChar then some (Char.ofNatAux code valid) else none

end VoiceMenu.Text
