import VoiceMenu.Instant.Rfc3339

/-!
# Dates and times in TOML

A date, a time of day, or both, in the latter case possibly with an offset from UTC.
The standard form writes the fraction of a second without trailing zeros and at most
nine digits of it.
-/

set_option autoImplicit false

namespace VoiceMenu.Toml

open Text

def twoDigits (low high : Nat) : Scanner (List Char) := do
  let digits ← Scanner.times 2 Char.isDigit
  if low ≤ numeral 10 digits ∧ numeral 10 digits ≤ high then pure digits else failure

def date : Scanner (List Char) := do
  let year ← Scanner.times 4 Char.isDigit
  Scanner.mark '-'
  let month ← twoDigits 1 12
  Scanner.mark '-'
  let day ← twoDigits 1 31
  if numeral 10 day ≤ Instant.daysInMonth (numeral 10 year) (numeral 10 month) then
    pure (year ++ ['-'] ++ month ++ ['-'] ++ day)
  else failure

def secondFraction : Scanner (List Char) := do
  Scanner.mark '.'
  let digits ← Scanner.run1 Char.isDigit
  let kept := ((digits.take 9).reverse.dropWhile (· == '0')).reverse
  pure (if kept.isEmpty then [] else '.' :: kept)

/-- A time of day. The second may be a leap second. -/
def timeOfDay : Scanner (List Char) := do
  let hour ← twoDigits 0 23
  Scanner.mark ':'
  let minute ← twoDigits 0 59
  Scanner.mark ':'
  let second ← twoDigits 0 60
  let fraction ← Scanner.optional? secondFraction
  pure (hour ++ [':'] ++ minute ++ [':'] ++ second ++ fraction.getD [])

/-- An offset from UTC. An offset of zero counts as positive. -/
def utcOffset : Scanner (List Char) :=
  (do
    let _ ← Scanner.one fun char => char == 'Z' || char == 'z'
    pure ['Z']) <|>
  (do
    let sign ← Scanner.one fun char => char == '+' || char == '-'
    let hours ← twoDigits 0 23
    Scanner.mark ':'
    let minutes ← twoDigits 0 59
    let zero := numeral 10 hours = 0 ∧ numeral 10 minutes = 0
    pure ((if zero then '+' else sign) :: hours ++ [':'] ++ minutes))

def moment : Scanner String :=
  (do
    let date ← date
    let time ← Scanner.optional? do
      let _ ← Scanner.one fun char => char == 'T' || char == 't' || char == ' '
      let time ← timeOfDay
      let offset ← Scanner.optional? utcOffset
      pure ('T' :: time ++ offset.getD [])
    pure (String.ofList (date ++ time.getD []))) <|>
  (String.ofList <$> timeOfDay)

end VoiceMenu.Toml
