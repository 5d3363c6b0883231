import VoiceMenu.Text.Blank

/-!
# Digits

What the telephony side reports for one turn: a single key, a run of keys, or a
run ended by the terminator `#`. The text is kept as reported, apart from blanks
around it.
-/

set_option autoImplicit false

namespace VoiceMenu

/-- The key that ends a collected run of digits. -/
def terminator : Char := '#'

/-- A key that can be part of a run: `0` to `9` and the star. -/
def isRunKey (char : Char) : Bool :=
  char.isDigit || char == '*'

structure Digits where
  text : String
  deriving DecidableEq, Repr, Inhabited

namespace Digits

/-- Input reported as text; blanks around it are dropped. -/
def ofText (text : String) : Digits := ⟨Text.trim text⟩

def ofInt (number : Int) : Digits := ⟨toString number⟩

/-- Input reported as one character, whichever it is. -/
def ofChar (char : Char) : Digits := ⟨String.singleton char⟩

def chars (digits : Digits) : List Char := digits.text.toList

def length (digits : Digits) : Nat := digits.chars.length

def isEmpty (digits : Digits) : Bool := digits.chars.isEmpty

/-- The key, if exactly one character was reported. -/
def single? (digits : Digits) : Option Char :=
  match digits.chars with
  | [char] => some char
  | _ => none

/-- Characters without one final terminator. -/
def withoutTerminator (chars : List Char) : List Char :=
  if chars.getLast? = some terminator then chars.dropLast else chars

def body (digits : Digits) : List Char := withoutTerminator digits.chars

end Digits

end VoiceMenu
