/-!
# Exact values of doubles

Every finite double is a natural number times a power of two.  Decoding the bits makes that number
available to exact arithmetic.
-/

namespace Xmodem.Decimal

/-- A power that counts only when the exponent is positive. -/
def positivePower (base : Nat) (exponent : Int) : Nat :=
  Nat.pow base exponent.toNat

/-- A double by its value. -/
inductive Binary64 where
  /-- Not a number. -/
  | nan
  /-- One of the infinities. -/
  | infinite (negative : Bool)
  /-- The number `significand * 2 ^ exponent` with a sign.  The gap to the next smaller magnitude is
  narrow when it is half the gap to the next larger one. -/
  | finite (negative : Bool) (significand : Nat) (exponent : Int) (narrow : Bool)
  deriving DecidableEq, Repr

namespace Binary64

/-- The leading bit of a significand: two to the power of 52. -/
def leadingBit : Nat :=
  0x10000000000000

/-- Decode sign, exponent, and significand. -/
def ofBits (bits : UInt64) : Binary64 :=
  let negative := bits >>> 63 == 1
  let exponent := (bits >>> 52 &&& 0x7FF).toNat
  let fraction := (bits &&& 0xFFFFFFFFFFFFF).toNat
  if exponent = 0x7FF then
    if fraction = 0 then .infinite negative else .nan
  else if exponent = 0 then
    .finite negative fraction (-1074) false
  else
    .finite negative (leadingBit + fraction) (exponent - 1075) (fraction = 0 ∧ 1 < exponent)

/-- The value of a double. -/
def ofFloat (value : Float) : Binary64 :=
  ofBits value.toBits

/-- The integer closest to a double on the side of zero; nothing when the double is not finite. -/
def truncate? : Binary64 → Option Int
  | finite negative significand exponent _ =>
      let magnitude := significand * positivePower 2 exponent / positivePower 2 (-exponent)
      some (if negative then -(magnitude : Int) else magnitude)
  | nan | infinite _ => none

end Binary64

/-- The natural number closest to a quotient; a half goes to the even neighbour. -/
def roundHalfEven (numerator denominator : Nat) : Nat :=
  let quotient := numerator / denominator
  let excess := 2 * (numerator % denominator)
  if excess < denominator ∨ excess = denominator ∧ quotient % 2 = 0 then quotient
  else quotient + 1

end Xmodem.Decimal
