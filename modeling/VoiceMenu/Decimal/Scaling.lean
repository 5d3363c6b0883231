import VoiceMenu.Decimal.Double

/-!
# Scaling by powers of ten

A double times a power of ten, by operations on doubles that round one after the other:
the power is rounded, and so is the product or quotient with it. A decimal read in this
way is close to its value and need not be the double nearest to it.
-/

set_option autoImplicit false

namespace VoiceMenu.Decimal.Double

def greatestPower : Nat := 308

def powerOfTen? (exponent : Nat) : Option Double := ofNat? false (tenTo exponent)

/-- The number times `10 ^ exponent`. A negative exponent divides, and one below all
powers of the format divides by the greatest of them first. The result is `none` where
a step leaves the range of the format. -/
def scaleByTen? (number : Double) (exponent : Int) : Option Double :=
  if exponent.natAbs ≤ greatestPower then do
    let power ← powerOfTen? exponent.natAbs
    if 0 ≤ exponent then number.mul? power else number.div? power
  else if number.significand = 0 then some number
  else if 0 ≤ exponent then none
  else do
    let power ← powerOfTen? greatestPower
    let smaller ← number.div? power
    smaller.scaleByTen? (exponent + greatestPower)
termination_by exponent.natAbs
decreasing_by simp only [greatestPower] at *; omega

end VoiceMenu.Decimal.Double
