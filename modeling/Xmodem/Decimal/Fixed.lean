import Xmodem.Decimal.Binary64

/-!
# Numerals with a fixed number of places

The exact value of a double is rounded once, a half going to the even neighbour, and written with
all its places.
-/

namespace Xmodem.Decimal.Fixed

/-- Number of units of the last place closest to `significand * 2 ^ exponent`. -/
def units (places significand : Nat) (exponent : Int) : Nat :=
  roundHalfEven (significand * positivePower 2 exponent * positivePower 10 places)
    (positivePower 2 (-exponent))

/-- A number of units with a point before the last places. -/
def layout (places units : Nat) : String :=
  let digits := List.leftpad (places + 1) '0' (Nat.toDigits 10 units)
  let whole := digits.length - places
  String.ofList (digits.take whole ++ '.' :: digits.drop whole)

/-- A double with some number of places. -/
def ofFloat (places : Nat) (value : Float) : String :=
  match Binary64.ofFloat value with
  | .nan => "nan"
  | .infinite negative => if negative then "-inf" else "inf"
  | .finite negative significand exponent _ =>
      (if negative then "-" else "") ++ layout places (units places significand exponent)

example : ofFloat 2 1.875 = "1.88" ∧ ofFloat 2 0.625 = "0.62" ∧ ofFloat 2 (-0.0) = "-0.00" := by
  decide +kernel

end Xmodem.Decimal.Fixed
