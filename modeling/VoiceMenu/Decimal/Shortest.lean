import VoiceMenu.Decimal.Double

/-!
# Shortest decimal text

The text of a double is the decimal with the fewest digits that reads back as
the same number; of several such decimals the nearest one is taken, and of two
equally near ones the even one.

The reals that read back as `m * 2 ^ q` lie between the midpoints to its two
neighbours, the midpoints included exactly when `m` is even. Decimals with more
and more digits are tried, and on each grid only the two points around the
number can be inside that interval.
-/

set_option autoImplicit false

namespace VoiceMenu.Decimal

/-- A decimal number `digits * 10 ^ exponent`. -/
structure Numeral where
  digits : Nat
  exponent : Int
  deriving DecidableEq, Repr

namespace Double

/-- Compares `left * 10 ^ tens * 2 ^ twos` with `right`, without rounding. -/
private def compareScaled (left : Nat) (tens twos : Int) (right : Nat) : Ordering :=
  compare (left * tenTo tens * twoTo twos) (right * tenTo (-tens) * twoTo (-twos))

/-- Does `decimal` read back as `number`? It is compared with the two midpoints,
which are whole numbers of quarters of the last binary place. Below a power of
two the neighbour is only half as far away. -/
def readsBack (number : Double) (decimal : Numeral) : Bool :=
  let quarter : Int := number.exponent - 2
  let atBoundary := number.significand = leadingBit ∧ leastExponent < number.exponent
  let low := if atBoundary then 4 * number.significand - 1 else 4 * number.significand - 2
  let high := 4 * number.significand + 2
  let inclusive := number.significand % 2 == 0
  let above := match compareScaled decimal.digits decimal.exponent (-quarter) low with
    | .gt => true
    | .eq => inclusive
    | .lt => false
  let below := match compareScaled decimal.digits decimal.exponent (-quarter) high with
    | .lt => true
    | .eq => inclusive
    | .gt => false
  above && below

/-- The greatest natural number `n` with `n * 10 ^ exponent` at most the size of
`number`. -/
def floorAt (number : Double) (exponent : Int) : Nat :=
  (number.significand * twoTo number.exponent * tenTo (-exponent)) /
    (twoTo (-number.exponent) * tenTo exponent)

/-- The point of the grid `10 ^ exponent` nearest to `number`, among those that
read back as it. -/
def pointAt? (number : Double) (exponent : Int) : Option Numeral :=
  let floor := number.floorAt exponent
  let lower : Numeral := ⟨floor, exponent⟩
  let upper : Numeral := ⟨floor + 1, exponent⟩
  match number.readsBack lower, number.readsBack upper with
  | false, false => none
  | true, false => some lower
  | false, true => some upper
  | true, true =>
      -- The middle of the two points against the number.
      match compareScaled (2 * floor + 1) exponent (-1 - number.exponent)
          number.significand with
      | .lt => some upper
      | .gt => some lower
      | .eq => some (if floor % 2 = 0 then lower else upper)

def searchPoint (number : Double) (exponent : Int) : Nat → Numeral
  | 0 => ⟨number.floorAt exponent, exponent⟩
  | tries + 1 =>
      match number.pointAt? exponent with
      | some decimal => decimal
      | none => searchPoint number (exponent - 1) tries

/-- The number of decimal digits before the point of a nonzero `number`, or minus
the number of zeros right after it. -/
def decimalOrder (number : Double) : Int :=
  let whole := number.floorAt 0
  if 0 < whole then (Nat.toDigits 10 whole).length
  else (Nat.toDigits 10 (number.floorAt (-400))).length - 400

/-- The decimal with the fewest digits that reads back as the size of `number`.
Seventeen digits always suffice. -/
def shortest (number : Double) : Numeral :=
  if number.significand = 0 then ⟨0, 0⟩
  else number.searchPoint (number.decimalOrder - 1) 17

end Double

end VoiceMenu.Decimal
