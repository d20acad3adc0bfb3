import Xmodem.Decimal.Shortest

/-!
# Figures

A figure is a number together with how it was given: as a whole number of any size, or as a double.
Doubles are written with the fewest digits that identify them.
-/

namespace Xmodem.Decimal

/-- A number as it was given. -/
inductive Figure where
  /-- A whole number. -/
  | whole (value : Int)
  /-- A double. -/
  | real (value : Float)

namespace Figure

/-- Powers of ten appear below a ten-thousandth and from ten quadrillions on. -/
def style : NumberStyle where
  positionalFrom := -4
  positionalBelow := 16
  exponentWidth := 2
  nan := "nan"
  infinity := "inf"

/-- Text of a figure. -/
def text (style : NumberStyle) : Figure → String
  | whole value => toString value
  | real value => style.render value

/-- Whether a figure has the value of a quotient of small natural numbers. -/
def hasValue (numerator denominator : Nat) : Figure → Bool
  | whole value => value * denominator == numerator
  | real value => value == .ofNat numerator / .ofNat denominator

example : (whole (-8)).text style = "-8" ∧ (real 2.5).text style = "2.5" ∧
    (real 1e16).text style = "1e+16" := by
  decide +kernel

end Figure
end Xmodem.Decimal
