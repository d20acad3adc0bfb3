import Xmodem.Checksum

/-!
# Redundancy codes with wide parameters

A polynomial or an initial value wider than sixteen bits leaves its excess above the register.  Only
the sixteen low bits are shifted; the excess seen at the end is that of the polynomial when the last
shift added it, and nothing otherwise.
-/

namespace Xmodem.Checksum

/-- An integer split at its sixteenth bit. -/
structure Wide where
  /-- The sixteen low bits. -/
  word : BitVec 16
  /-- All higher bits, as a multiple of `2 ^ 16`. -/
  excess : Int
  deriving DecidableEq

namespace Wide

/-- Split an integer. -/
def ofInt (value : Int) : Wide where
  word := BitVec.ofInt 16 value
  excess := value.fdiv 65536

/-- The integer with the given parts. -/
def toInt (wide : Wide) : Int :=
  wide.excess * 65536 + wide.word.toNat

/-- One shift: the excess is dropped, and that of the polynomial enters with the polynomial. -/
def shift (polynomial register : Wide) : Wide where
  word := Checksum.shift polynomial.word register.word
  excess := if register.word.msb then polynomial.excess else 0

/-- The register after eight shifts of a byte added at its high end. -/
def feed (polynomial register : Wide) (byte : UInt8) : Wide :=
  Nat.repeat (shift polynomial) 8
    { register with word := register.word ^^^ (byte.toBitVec.setWidth 16 <<< 8) }

/-- The code of some data for any two integer parameters. -/
def crc (polynomial initial : Int) (data : List UInt8) : Int :=
  (data.foldl (feed (ofInt polynomial)) (ofInt initial)).toInt

theorem word_shift (polynomial register : Wide) :
    (shift polynomial register).word = Checksum.shift polynomial.word register.word := rfl

theorem word_repeat_shift (polynomial register : Wide) (count : Nat) :
    (Nat.repeat (shift polynomial) count register).word =
      Nat.repeat (Checksum.shift polynomial.word) count register.word := by
  induction count with
  | zero => rfl
  | succ count induction => simp only [Nat.repeat, word_shift, induction]

theorem word_feed (polynomial register : Wide) (byte : UInt8) :
    (feed polynomial register byte).word = Checksum.feed polynomial.word register.word byte :=
  word_repeat_shift polynomial _ 8

/-- The low bits of a wide code are the narrow code of the low bits. -/
theorem word_foldl_feed (polynomial register : Wide) (data : List UInt8) :
    (data.foldl (feed polynomial) register).word =
      Checksum.crc polynomial.word register.word data := by
  induction data generalizing register with
  | nil => rfl
  | cons byte data induction =>
      simp only [List.foldl_cons, induction, word_feed, Checksum.crc]

theorem excess_shift {generator : Wide} (narrow : generator.excess = 0) (register : Wide) :
    (shift generator register).excess = 0 := by
  unfold shift
  split
  · exact narrow
  · rfl

theorem excess_feed {generator : Wide} (narrow : generator.excess = 0) (register : Wide)
    (byte : UInt8) : (feed generator register byte).excess = 0 :=
  excess_shift narrow _

theorem excess_foldl_feed {generator register : Wide} (narrow : generator.excess = 0)
    (start : register.excess = 0) (data : List UInt8) :
    (data.foldl (feed generator) register).excess = 0 := by
  induction data generalizing register with
  | nil => exact start
  | cons byte data induction => exact induction (excess_feed narrow register byte)

theorem crc_eq_crc16 (payload : List UInt8) :
    crc 0x1021 0 payload = (crc16 payload).toNat := by
  have narrow := excess_foldl_feed (show (ofInt 0x1021).excess = 0 by decide)
    (show (ofInt 0).excess = 0 by decide) payload
  have word := word_foldl_feed (ofInt 0x1021) (ofInt 0) payload
  rw [crc, toInt, narrow, word, Int.zero_mul, Int.zero_add]
  rfl

end Wide
end Xmodem.Checksum
