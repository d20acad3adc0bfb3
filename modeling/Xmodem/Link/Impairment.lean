import Xmodem.Random

/-!
# Impairments

An impaired end of a link loses some of the bytes that it sends, inverts one bit in some of the
others, and delays every write.  A draw is made only where its result can matter.
-/

namespace Xmodem

/-- Loss, corruption, and delay of what one end sends. -/
structure Impairment (τ : Type) (γ : Type := Random) where
  /-- Share of the bytes that are lost. -/
  lossRate : τ
  /-- Share of the remaining bytes in which one bit is inverted. -/
  corruptRate : τ
  /-- Duration of every write, in thousandths of a second. -/
  delay : τ
  /-- The source of chance. -/
  random : γ

namespace Impairment

variable {τ γ : Type} [Quantity τ] [Generator γ]

/-- Neither loss nor corruption nor delay. -/
def none : Impairment τ γ where
  lossRate := 0
  corruptRate := 0
  delay := 0
  random := Generator.start .none 0

/-- How long every write takes, if it takes time at all. -/
def pause (impairment : Impairment τ γ) : Option τ :=
  if 0 < impairment.delay then some (impairment.delay / Quantity.ofInt 1000) else .none

/-- Decide by chance whether something happens at some rate. -/
def chance (rate : τ) (random : γ) : Bool × γ :=
  if 0 < rate then
    let (fraction, random) := Generator.fraction random
    (fraction.value τ < rate, random)
  else
    (false, random)

/-- Decide whether the next byte is lost. -/
def drop (impairment : Impairment τ γ) : Bool × Impairment τ γ :=
  let (lost, random) := chance impairment.lossRate impairment.random
  (lost, { impairment with random := random })

/-- Decide which bits of the next byte are inverted: none or one. -/
def flips (impairment : Impairment τ γ) : UInt8 × Impairment τ γ :=
  let (corrupt, random) := chance impairment.corruptRate impairment.random
  if corrupt then
    let (position, random) := Generator.below random 8 (by decide)
    (1 <<< UInt8.ofNat position, { impairment with random := random })
  else
    (0, { impairment with random := random })

/-- What becomes of some bytes. -/
structure Passage (τ : Type) (γ : Type := Random) where
  /-- The bytes that arrive. -/
  delivered : List UInt8
  /-- The bytes that are lost. -/
  dropped : List UInt8
  /-- The impairment afterwards. -/
  impairment : Impairment τ γ

/-- Send bytes one by one. -/
def pass (impairment : Impairment τ γ) : List UInt8 → Passage τ γ
  | [] => ⟨[], [], impairment⟩
  | byte :: bytes =>
      let (lost, impairment) := impairment.drop
      if lost then
        let passage := impairment.pass bytes
        { passage with dropped := byte :: passage.dropped }
      else
        let (flips, impairment) := impairment.flips
        let passage := impairment.pass bytes
        { passage with delivered := (byte ^^^ flips) :: passage.delivered }

end Impairment
end Xmodem
