import Xmodem.Decimal.Nearest

/-!
# Quantities

Sessions measure instants, durations, rates, and probabilities with one kind of number.  The class
lists the operations they need.  Binary floating point is the instance that runs; the rational
numbers are the instance in which no sum or difference is ever rounded.
-/

namespace Xmodem

/-- A type of measured quantities. -/
class Quantity (τ : Type) extends Zero τ, Add τ, Sub τ, Div τ, LE τ, LT τ where
  /-- The quantity closest to an integer. -/
  ofInt : Int → τ
  /-- The quantity closest to an integer divided by a positive number, unless it is beyond all
  quantities. -/
  ofQuotient? : Int → Nat → Option τ
  /-- Decision procedure for the weak order. -/
  decideLe : DecidableRel (fun first second : τ => first ≤ second)
  /-- Decision procedure for the strict order. -/
  decideLt : DecidableRel (fun first second : τ => first < second)

namespace Quantity

variable {τ : Type} [Quantity τ]

instance (first second : τ) : Decidable (first ≤ second) :=
  decideLe first second

instance (first second : τ) : Decidable (first < second) :=
  decideLt first second

/-- The smaller quantity; the first one unless the second is strictly below it. -/
def least (first second : τ) : τ :=
  if second < first then second else first

/-- The larger quantity; the first one unless the second is strictly above it. -/
def greatest (first second : τ) : τ :=
  if first < second then second else first

end Quantity

instance : Quantity Float where
  zero := 0.0
  ofInt := Decimal.Nearest.ofInt
  ofQuotient? := Decimal.Nearest.ofQuotient?
  decideLe := fun first second => inferInstanceAs (Decidable (first ≤ second))
  decideLt := fun first second => inferInstanceAs (Decidable (first < second))

instance : Quantity Rat where
  zero := 0
  ofInt value := value
  ofQuotient? dividend divisor := some (mkRat dividend divisor)
  decideLe := fun first second => inferInstanceAs (Decidable (first ≤ second))
  decideLt := fun first second => inferInstanceAs (Decidable (first < second))

end Xmodem
