import Xmodem.Quantity

/-!
# Random numbers

A generator draws fractions, numbers below a bound, and bytes.  What it draws is not known beyond
these bounds.  The generator that runs is a linear congruential one on words of sixty-four bits: a
draw is the next state, and the higher bits of a draw are the ones that are used.
-/

namespace Xmodem

/-- A fraction from zero up to, and not including, one. -/
structure ProperFraction where
  /-- The dividend. -/
  numerator : Nat
  /-- The divisor. -/
  denominator : Nat
  proper : numerator < denominator

namespace ProperFraction

/-- The quantity that a fraction stands for. -/
def value (τ : Type) [Quantity τ] (fraction : ProperFraction) : τ :=
  Quantity.ofInt fraction.numerator / Quantity.ofInt fraction.denominator

end ProperFraction

/-- A type of generators of random numbers. -/
class Generator (γ : Type) where
  /-- The generator with a given seed. -/
  ofSeed : Int → γ
  /-- The generators without a seed: one for each purpose. -/
  unseeded : Nat → γ
  /-- Draw a fraction. -/
  fraction : γ → ProperFraction × γ
  /-- Draw a natural number below a bound. -/
  below : γ → (bound : Nat) → 0 < bound → Fin bound × γ
  /-- Draw a byte. -/
  byte : γ → UInt8 × γ

namespace Generator

variable {γ : Type} [Generator γ]

/-- The generator with a seed if there is one, and one for some purpose otherwise. -/
def start (seed : Option Int) (purpose : Nat) : γ :=
  seed.elim (unseeded purpose) ofSeed

/-- Draw some number of bytes and put them in front of others, the last draw first. -/
def bytesOnto : Nat → γ → List UInt8 → List UInt8
  | 0, _, drawn => drawn
  | count + 1, random, drawn =>
      let (value, random) := byte random
      bytesOnto count random (value :: drawn)

/-- Some number of bytes, in the order of drawing. -/
def bytes (count : Nat) (random : γ) : List UInt8 :=
  (bytesOnto count random []).reverse

theorem length_bytesOnto (count : Nat) (random : γ) (drawn : List UInt8) :
    (bytesOnto count random drawn).length = count + drawn.length := by
  induction count generalizing random drawn with
  | zero => simp [bytesOnto]
  | succ count induction =>
      rw [bytesOnto, induction, List.length_cons]
      omega

@[simp]
theorem length_bytes (count : Nat) (random : γ) : (bytes count random).length = count := by
  rw [bytes, List.length_reverse, length_bytesOnto, List.length_nil, Nat.add_zero]

end Generator

/-- State of the linear congruential generator. -/
structure Random where
  /-- The last draw. -/
  state : UInt64
  deriving DecidableEq, Repr

namespace Random

/-- The state after a state. -/
def step (state : UInt64) : UInt64 :=
  state * 6364136223846793005 + 1442695040888963407

/-- The generator with a given seed, zero when none is given.  The first draw is thrown away. -/
def ofSeed (seed : Option Int) : Random :=
  ⟨step (.ofInt (seed.getD 0))⟩

/-- Draw a word. -/
def draw (random : Random) : UInt64 × Random :=
  let state := step random.state
  (state, ⟨state⟩)

/-- How many fractions there are: two to the power of 53. -/
def fractions : Nat :=
  0x20000000000000

theorem shiftRight_eleven_lt (word : UInt64) : (word >>> 11).toNat < fractions := by
  have bound := word.toNat_lt
  rw [UInt64.toNat_shiftRight]
  change word.toNat >>> 11 < 0x20000000000000
  rw [Nat.shiftRight_eq_div_pow]
  omega

instance : Generator Random where
  ofSeed seed := ofSeed (some seed)
  unseeded _ := ofSeed none
  fraction random :=
    let (word, random) := random.draw
    (⟨(word >>> 11).toNat, fractions, shiftRight_eleven_lt word⟩, random)
  below random bound positive :=
    let (word, random) := random.draw
    (⟨(word >>> 33).toNat % bound, Nat.mod_lt _ positive⟩, random)
  byte random :=
    let (word, random) := random.draw
    ((word >>> 56).toUInt8, random)

end Random
end Xmodem
