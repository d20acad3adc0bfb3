import Xmodem.Decimal.Binary64

/-!
# Nearest doubles

The double closest to a rational number, a half going to the even neighbour.  The grid of doubles
around the number has a fixed gap; the number is rounded on it once.  Consecutive doubles have
consecutive bit patterns, so the position on the grid is the pattern.
-/

namespace Xmodem.Decimal.Nearest

/-- The greatest exponent of a power of two that is at most a quotient of positive numbers. -/
def magnitude (numerator denominator : Nat) : Int :=
  let guess : Int := (numerator.log2 : Int) - denominator.log2
  if denominator * positivePower 2 guess ≤ numerator * positivePower 2 (-guess) then guess
  else guess - 1

/-- Bit pattern of an infinite magnitude, above all others. -/
def infinite : Nat :=
  0x7FF * Binary64.leadingBit

/-- Bit pattern of the magnitude closest to a quotient. -/
def bits (numerator denominator : Nat) : UInt64 :=
  if numerator = 0 then
    0
  else
    let gap := max (-1074) (magnitude numerator denominator - 52)
    let steps := roundHalfEven (numerator * positivePower 2 (-gap))
      (denominator * positivePower 2 gap)
    let pattern := (gap + 1074).toNat * Binary64.leadingBit + steps
    .ofNat (min pattern infinite)

/-- The double with the bit pattern of its magnitude and a sign. -/
def withSign (negative : Bool) (pattern : UInt64) : Float :=
  .ofBits (if negative then pattern ||| 0x8000000000000000 else pattern)

/-- The double closest to an integer. -/
def ofInt (value : Int) : Float :=
  withSign (value < 0) (bits value.natAbs 1)

/-- The double closest to a quotient, rounded once; nothing when it is beyond all doubles. -/
def ofQuotient? (dividend : Int) (divisor : Nat) : Option Float :=
  let pattern := bits dividend.natAbs divisor
  if pattern = .ofNat infinite then none else some (withSign (dividend < 0) pattern)

/-- The double closest to `digits * 10 ^ exponent` with a sign.  Beyond four hundred places before
or after the point no digit matters. -/
def ofDecimal (negative : Bool) (digits : Nat) (exponent : Int) : Float :=
  let exponent := if digits = 0 then 0 else exponent
  let leading := exponent + (digits.log2 / 3 : Nat)
  withSign negative
    (if 400 < exponent then .ofNat infinite
      else if leading < -400 then 0
      else bits (digits * positivePower 10 exponent) (positivePower 10 (-exponent)))

example : bits 1 10 = 0x3FB999999999999A ∧ bits (2 ^ 53 + 1) 1 = 0x4340000000000000 ∧
    bits 1 (2 ^ 1074) = 1 ∧ bits (2 ^ 1024) 1 = 0x7FF0000000000000 := by
  decide +kernel

end Xmodem.Decimal.Nearest
