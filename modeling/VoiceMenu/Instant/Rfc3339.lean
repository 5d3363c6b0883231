import VoiceMenu.Instant.Basic
import VoiceMenu.Text.Blank
import VoiceMenu.Text.Scanner

/-!
# Instants in RFC 3339 text

Written instants are in UTC with the fewest of 0, 3, 6 or 9 fraction digits that are
exact. The reader takes any offset from UTC and is lenient about the form: numbers
need no leading zeros, blanks may stand between the parts, the date may be followed
by a space instead of `T`, and `UTC` may stand for `Z`.
-/

set_option autoImplicit false

namespace VoiceMenu.Instant

open Text

def padded (width number : Nat) : List Char :=
  let digits := Nat.toDigits 10 number
  List.replicate (width - digits.length) '0' ++ digits

/-- A year in at least four digits. Years that need more, and those before year zero,
carry their sign. -/
def yearText (year : Int) : List Char :=
  if 0 ≤ year ∧ year ≤ 9999 then padded 4 year.toNat
  else (if year < 0 then '-' else '+') :: padded 4 year.natAbs

/-- The fraction of a second with its point, nothing for zero. -/
def fractionText (nanosecond : Nat) : List Char :=
  if nanosecond = 0 then []
  else if nanosecond % 1000000 = 0 then '.' :: padded 3 (nanosecond / 1000000)
  else if nanosecond % 1000 = 0 then '.' :: padded 6 (nanosecond / 1000)
  else '.' :: padded 9 nanosecond

def text (instant : Instant) : String :=
  let calendar := instant.calendar
  String.ofList <|
    yearText calendar.year ++ ['-'] ++ padded 2 calendar.month ++ ['-'] ++
    padded 2 calendar.day ++ ['T'] ++ padded 2 calendar.hour ++ [':'] ++
    padded 2 calendar.minute ++ [':'] ++ padded 2 calendar.second ++
    fractionText calendar.nanosecond ++ ['Z']

def blanks : Scanner Unit := do
  let _ ← Scanner.run isBlank

/-- A number of one digit up to `most` digits, after blanks. -/
def shortNumber (most : Nat) : Scanner Nat := do
  blanks
  fun chars =>
    let digits := (chars.take most).takeWhile Char.isDigit
    if digits.isEmpty then none else some (numeral 10 digits, chars.drop digits.length)

/-- A number of at most two digits that is in the given range. -/
def field (low high : Nat) : Scanner Nat := do
  let value ← shortNumber 2
  if low ≤ value ∧ value ≤ high then pure value else failure

/-- A year: up to four digits, or a sign and any number of digits. -/
def yearNumber : Scanner Int := do
  blanks
  match ← Scanner.optional? (Scanner.one fun char => char == '+' || char == '-') with
  | none => do
      let year ← shortNumber 4
      pure year
  | some sign => do
      let digits ← Scanner.run1 Char.isDigit
      let size : Int := numeral 10 digits
      pure (if sign = '-' then -size else size)

def separator (char : Char) : Scanner Unit := do
  blanks
  Scanner.mark char

/-- The nanoseconds of a fraction, with its point. Digits after the ninth are dropped. -/
def fraction : Scanner Nat := do
  Scanner.mark '.'
  let digits ← Scanner.run1 Char.isDigit
  let kept := digits.take 9
  pure (numeral 10 kept * Nat.pow 10 (9 - kept.length))

/-- The sign of an offset: plus, the ASCII minus or the minus sign U+2212. -/
def offsetSign : Scanner Int := do
  let sign ← Scanner.one fun char => char == '+' || char == '-' || char == '\u2212'
  pure (if sign = '+' then 1 else -1)

/-- An offset from UTC in seconds, less than a day. Colons and blanks may stand between
its hours and minutes. -/
def offset : Scanner Int :=
  (do
    let _ ← Scanner.one fun char => char == 'Z' || char == 'z'
    pure 0) <|>
  (do
    let _ ← Scanner.one fun char => char == 'U' || char == 'u'
    let _ ← Scanner.one fun char => char == 'T' || char == 't'
    let _ ← Scanner.one fun char => char == 'C' || char == 'c'
    pure 0) <|>
  (do
    let sign ← offsetSign
    let hours ← Scanner.times 2 Char.isDigit
    let _ ← Scanner.run fun char => char == ':' || isBlank char
    let minutes ← Scanner.times 2 Char.isDigit
    let minutes := numeral 10 minutes
    let hours := numeral 10 hours
    if minutes < 60 ∧ hours < 24 then pure (sign * (hours * 3600 + minutes * 60 : Nat))
    else failure)

/-- Years outside this range cannot be stored. -/
def yearInRange (year : Int) : Bool :=
  -262143 ≤ year && year ≤ 262142

def instant : Scanner Instant := do
  let year ← yearNumber
  separator '-'
  let month ← field 1 12
  separator '-'
  let day ← field 1 31
  let _ ← Scanner.one fun char => char == 'T' || char == 't' || char == ' '
  let hour ← field 0 23
  separator ':'
  let minute ← field 0 59
  separator ':'
  let second ← field 0 60
  let nanosecond ← Scanner.optional? fraction
  blanks
  let offset ← offset
  blanks
  let calendar : Calendar := ⟨year, month, day, hour, minute, second, nanosecond.getD 0⟩
  let unshifted := ofCalendar calendar
  let found : Instant := { unshifted with seconds := unshifted.seconds - offset }
  if day ≤ daysInMonth year month ∧ yearInRange year ∧ yearInRange found.calendar.year then
    pure found
  else failure

def parse? (text : String) : Option Instant :=
  Scanner.all instant text.toList

end VoiceMenu.Instant
