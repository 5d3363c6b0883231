import VoiceMenu.Key.Digits
import VoiceMenu.Text.Scanner

/-!
# Key patterns

A state binds its transitions to key patterns:

* `1` or `*`: one key,
* `123#`: that sequence of keys,
* `#`: any run of keys,
* `.5`: any run of up to five digits,
* `.:options`: any run of digits, as many as the callback `options` says.

The module reads and writes these forms and says which input a pattern accepts.
-/

set_option autoImplicit false

namespace VoiceMenu

/-- The most digits that a wildcard accepts. -/
inductive DigitLimit where
  | fixed (most : Nat)
  /-- The named text callback says how many. -/
  | callback (name : String)
  deriving DecidableEq, Repr

inductive KeyPattern where
  | key (char : Char)
  | sequence (keys : String)
  | collector
  | wildcard (limit : DigitLimit)
  deriving DecidableEq, Repr

inductive PatternError where
  | empty
  | namelessCallback
  | notANumber (limit : String)
  | noDigits
  | notAKey (char : Char)
  | notASequence
  deriving DecidableEq, Repr

def PatternError.message : PatternError → String
  | .empty => "empty key"
  | .namelessCallback => "wildcard callback name is empty"
  | .notANumber limit => s!"wildcard limit '{limit}' is not a number"
  | .noDigits => "wildcard must accept at least one digit"
  | .notAKey char => s!"'{char}' is not a telephone key"
  | .notASequence => s!"multi-digit keys must be digits ending in '{terminator}'"

namespace KeyPattern

def text : KeyPattern → String
  | .key char => String.singleton char
  | .sequence keys => keys ++ String.singleton terminator
  | .collector => String.singleton terminator
  | .wildcard (.fixed most) => "." ++ toString most
  | .wildcard (.callback name) => ".:" ++ name

def limitBound : Nat := Text.unsignedBound

/-- The number that a limit writes: ASCII digits after an optional plus sign, with
a value below the bound. -/
def limit? (chars : List Char) : Option Nat :=
  let digits := match chars with
    | '+' :: rest => rest
    | _ => chars
  if digits.isEmpty ∨ ¬ digits.all Char.isDigit then none
  else
    let value := Text.numeral 10 digits
    if value < limitBound then some value else none

def ofChars (chars : List Char) : Except PatternError KeyPattern :=
  match chars with
  | [] => .error .empty
  | ['#'] => .ok .collector
  | ['.', ':'] => .error .namelessCallback
  | '.' :: ':' :: name => .ok (.wildcard (.callback (String.ofList name)))
  | '.' :: limit =>
      match limit? limit with
      | none => .error (.notANumber (String.ofList limit))
      | some 0 => .error .noDigits
      | some most => .ok (.wildcard (.fixed most))
  | [char] => if isRunKey char then .ok (.key char) else .error (.notAKey char)
  | chars =>
      if chars.getLast? = some terminator ∧ chars.dropLast.all isRunKey then
        .ok (.sequence (String.ofList chars.dropLast))
      else .error .notASequence

/-- The pattern that a text writes; blanks around it do not count. -/
def parse (text : String) : Except PatternError KeyPattern :=
  ofChars (Text.trimChars text.toList)

/-- Single keys and sequences are looked up before any other pattern. -/
def isExact : KeyPattern → Bool
  | .key _ | .sequence _ => true
  | .collector | .wildcard _ => false

/-- Does the pattern gather a run that the terminator ends? -/
def isCollecting : KeyPattern → Bool
  | .collector | .sequence _ => true
  | .key _ | .wildcard _ => false

/-- Does an exact pattern accept the input? A sequence needs more than one
character of input, so its terminator may be left out but cannot replace it. -/
def acceptsExactly (pattern : KeyPattern) (digits : Digits) : Bool :=
  match pattern with
  | .key char => digits.single? = some char
  | .sequence keys => 1 < digits.length && digits.body = keys.toList
  | .collector | .wildcard _ => false

/-- A run of keys before an optional terminator. -/
def isRun (body : List Char) : Bool :=
  !body.isEmpty && body.all isRunKey

def collects (digits : Digits) : Bool :=
  isRun digits.body

/-- Does a wildcard with the given limit accept the input? Stars are no digits. -/
def fits (most : Nat) (digits : Digits) : Bool :=
  isRun digits.body && digits.body.all Char.isDigit && digits.body.length ≤ most

end KeyPattern

end VoiceMenu
