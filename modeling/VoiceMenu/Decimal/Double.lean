/-!
# Binary fractions of double precision

A number with a fraction is held in the 64-bit binary format: a significand of
at most 53 bits times a power of two. Everything here is exact arithmetic on
natural numbers: a decimal, a product or a quotient is rounded once, to the nearest
such number, and a tie goes to the even significand.
-/

set_option autoImplicit false

namespace VoiceMenu.Decimal

/-- A finite number of the 64-bit binary format. Its size is
`significand * 2 ^ exponent`; zero keeps its sign. -/
structure Double where
  negative : Bool
  significand : Nat
  exponent : Int
  deriving DecidableEq, Repr, Inhabited

/-- Two to the given power, one for a negative power. -/
def twoTo (power : Int) : Nat := Nat.pow 2 power.toNat

/-- Ten to the given power, one for a negative power. -/
def tenTo (power : Int) : Nat := Nat.pow 10 power.toNat

namespace Double

def leastExponent : Int := -1074

def greatestExponent : Int := 971

/-- The first of the 53 bits of a significand. Only numbers with the least exponent have
a significand below it. -/
def leadingBit : Nat := 4503599627370496

def zero (negative : Bool) : Double := ⟨negative, 0, leastExponent⟩

/-- The natural number nearest to `num / den`; a tie goes to the even one. -/
def roundQuotient (num den : Nat) : Nat :=
  let floor := num / den
  let rest := num % den
  if den < 2 * rest || (2 * rest == den && floor % 2 == 1) then floor + 1 else floor

/-- `num / den` divided by `2 ^ exponent`, as a pair of numerator and
denominator. -/
def scaleDown (num den : Nat) (exponent : Int) : Nat × Nat :=
  (num * twoTo (-exponent), den * twoTo exponent)

/-- The exponent at which `num / den` has a significand of 53 bits, or the least
one. -/
def exponentOf (num den : Nat) : Int :=
  let guess : Int := (num.log2 : Int) - (den.log2 : Int)
  let scaled := scaleDown num den guess
  let exponent := if scaled.1 < scaled.2 then guess - 53 else guess - 52
  max exponent leastExponent

/-- The number of the format nearest to `num / den`, for a positive `den`. The
result is `none` where rounding leaves the range of the format. -/
def ofQuotient? (negative : Bool) (num den : Nat) : Option Double :=
  if num = 0 then some (zero negative)
  else
    let exponent := exponentOf num den
    let scaled := scaleDown num den exponent
    let rounded := roundQuotient scaled.1 scaled.2
    let result : Double :=
      if rounded = 2 * leadingBit then ⟨negative, leadingBit, exponent + 1⟩
      else ⟨negative, rounded, exponent⟩
    if greatestExponent < result.exponent then none else some result

def ofNat? (negative : Bool) (size : Nat) : Option Double := ofQuotient? negative size 1

def ratio (number : Double) : Nat × Nat :=
  (number.significand * twoTo number.exponent, twoTo (-number.exponent))

def mul? (left right : Double) : Option Double :=
  ofQuotient? (left.negative != right.negative)
    (left.ratio.1 * right.ratio.1) (left.ratio.2 * right.ratio.2)

/-- The number of the format nearest to a quotient, for a divisor other than zero. -/
def div? (left right : Double) : Option Double :=
  ofQuotient? (left.negative != right.negative)
    (left.ratio.1 * right.ratio.2) (left.ratio.2 * right.ratio.1)

/-- The number of the format nearest to `digits * 10 ^ exponent`, or `none`
beyond its range. Decimals far outside the range are decided by their order of
magnitude alone. -/
def ofDecimal? (negative : Bool) (digits : Nat) (exponent : Int) : Option Double :=
  let magnitude : Int := (Nat.toDigits 10 digits).length + exponent
  if digits = 0 then some (zero negative)
  else if 400 < magnitude then none
  else if magnitude < -400 then some (zero negative)
  else ofQuotient? negative (digits * tenTo exponent) (tenTo (-exponent))

end Double

end VoiceMenu.Decimal
