import Xmodem.Decimal.Binary64

/-!
# The fewest digits that identify a double

A double stands for all reals that round to it.  Among the decimals in that interval, those with the
fewest digits are considered, and the one closest to the double is chosen.  All comparisons are
exact.
-/

namespace Xmodem.Decimal

/-- The number `digits * 10 ^ exponent`. -/
structure Scientific where
  /-- Significant digits, read as a natural number. -/
  digits : Nat
  /-- Power of ten. -/
  exponent : Int
  deriving DecidableEq, Repr

namespace Shortest

/-- A positive double, measured in quarters of the gap above it. -/
structure Target where
  /-- The value, a multiple of four quarters. -/
  middle : Nat
  /-- Lower end of the interval that rounds to the value. -/
  lower : Nat
  /-- Upper end of the interval that rounds to the value. -/
  upper : Nat
  /-- Whether the ends belong to the interval. -/
  closed : Bool
  /-- Binary exponent of one quarter. -/
  exponent : Int
  deriving DecidableEq, Repr

/-- The target `significand * 2 ^ exponent`. -/
def Target.ofSignificand (significand : Nat) (exponent : Int) (narrow : Bool) : Target where
  middle := 4 * significand
  lower := 4 * significand - if narrow then 1 else 2
  upper := 4 * significand + 2
  closed := significand % 2 = 0
  exponent := exponent - 2

/-- A decimal brought to the common denominator of a target. -/
def decimalSide (target : Target) (decimal : Scientific) : Nat :=
  decimal.digits * positivePower 10 decimal.exponent * positivePower 2 (-target.exponent)

/-- A number of quarters brought to the common denominator of a decimal. -/
def quarterSide (target : Target) (exponent : Int) (quarters : Nat) : Nat :=
  quarters * positivePower 2 target.exponent * positivePower 10 (-exponent)

/-- Whether a decimal lies in the interval of a target. -/
def readsBack (target : Target) (decimal : Scientific) : Bool :=
  let point := decimalSide target decimal
  let lower := quarterSide target decimal.exponent target.lower
  let upper := quarterSide target decimal.exponent target.upper
  if target.closed then lower ≤ point ∧ point ≤ upper else lower < point ∧ point < upper

/-- The largest decimal with a given exponent that is not above a target. -/
def below (target : Target) (exponent : Int) : Scientific where
  digits := quarterSide target exponent target.middle /
    (positivePower 10 exponent * positivePower 2 (-target.exponent))
  exponent := exponent

/-- The decimal with a given exponent that reads back and is closest to a target; the even one when
both neighbours are equally close. -/
def onGrid (target : Target) (exponent : Int) : Option Scientific :=
  let first := below target exponent
  let second := { first with digits := first.digits + 1 }
  match readsBack target first, readsBack target second with
  | false, false => none
  | true, false => some first
  | false, true => some second
  | true, true =>
      let double := 2 * quarterSide target exponent target.middle
      let sum := decimalSide target first + decimalSide target second
      if double < sum ∨ double = sum ∧ first.digits % 2 = 0 then some first else some second

/-- Number of zeros after the point of a number `numerator / denominator` below one. -/
def leadingZeros (denominator : Nat) : Nat → Nat → Nat
  | 0, _ => 0
  | fuel + 1, numerator =>
      if denominator ≤ 10 * numerator then 0
      else leadingZeros denominator fuel (10 * numerator) + 1

/-- The least exponent of a power of ten above a target. -/
def scale (target : Target) : Int :=
  let numerator := target.middle * positivePower 2 target.exponent
  let denominator := positivePower 2 (-target.exponent)
  if denominator ≤ numerator then (Nat.toDigits 10 (numerator / denominator)).length
  else -(leadingZeros denominator 400 numerator : Int)

/-- Drop the zeros at the end of the digits. -/
def strip : Nat → Scientific → Scientific
  | 0, decimal => decimal
  | fuel + 1, decimal =>
      if decimal.digits ≠ 0 ∧ decimal.digits % 10 = 0 then
        strip fuel ⟨decimal.digits / 10, decimal.exponent + 1⟩
      else
        decimal

/-- The exact decimal value of a target. -/
def exact (target : Target) : Scientific where
  digits := target.middle * positivePower 2 target.exponent * positivePower 5 (-target.exponent)
  exponent := min 0 target.exponent

/-- The shortest decimal that reads back, tried digit by digit. -/
def ofTarget (target : Target) : Scientific :=
  let top := scale target
  let found := (List.range 17).findSome? fun (count : Nat) => onGrid target (top - count - 1)
  strip 20 (found.getD (exact target))

end Shortest

/-- Choices made in writing a number. -/
structure NumberStyle where
  /-- Least decimal exponent of the first digit that is written without a power of ten. -/
  positionalFrom : Int
  /-- Decimal exponent of the first digit from which on a power of ten is written. -/
  positionalBelow : Int
  /-- Least number of digits of a power of ten. -/
  exponentWidth : Nat
  /-- Text for what is not a number. -/
  nan : String
  /-- Text for the positive infinity. -/
  infinity : String

namespace NumberStyle

/-- A whole number ends in a point and a zero. -/
def positional (digits : List Char) (point : Int) : String :=
  if point ≤ 0 then
    String.ofList ('0' :: '.' :: List.replicate (-point).toNat '0' ++ digits)
  else
    let whole := digits.take point.toNat
    let fraction := digits.drop point.toNat
    let zeros := List.replicate (point.toNat - digits.length) '0'
    String.ofList (whole ++ zeros ++ '.' :: if fraction.isEmpty then ['0'] else fraction)

/-- One digit before the point, and a power of ten with a sign. -/
def scientific (style : NumberStyle) (digits : List Char) (exponent : Int) : String :=
  let power := List.leftpad style.exponentWidth '0' (Nat.toDigits 10 exponent.natAbs)
  let sign := if exponent < 0 then '-' else '+'
  let fraction := if digits.length ≤ 1 then [] else '.' :: digits.drop 1
  String.ofList (digits.take 1 ++ fraction ++ 'e' :: sign :: power)

/-- A positive decimal. -/
def layout (style : NumberStyle) (decimal : Scientific) : String :=
  let digits := Nat.toDigits 10 decimal.digits
  let exponent := decimal.exponent + digits.length - 1
  if style.positionalFrom ≤ exponent ∧ exponent < style.positionalBelow then
    positional digits (exponent + 1)
  else
    style.scientific digits exponent

/-- A double with the fewest digits that identify it. -/
def render (style : NumberStyle) (value : Float) : String :=
  match Binary64.ofFloat value with
  | .nan => style.nan
  | .infinite negative => (if negative then "-" else "") ++ style.infinity
  | .finite negative significand exponent narrow =>
      (if negative then "-" else "") ++
        if significand = 0 then "0.0"
        else style.layout (Shortest.ofTarget (.ofSignificand significand exponent narrow))

end NumberStyle
end Xmodem.Decimal
