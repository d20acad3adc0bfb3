import Xmodem.Proofs.Receiver.Turns

/-!
# Reported lengths

The number of bytes that a receiver reports once it holds a whole image.
-/

namespace Xmodem
namespace Receiver

/-- Padding in front of which something else stands is counted exactly. -/
theorem paddingLength_append_replicate (bytes : List UInt8) (count : Nat) :
    paddingLength (bytes ++ List.replicate count padding) = count + paddingLength bytes := by
  induction count with
  | zero => simp
  | succ count induction =>
      rw [List.replicate_succ', ← List.append_assoc]
      simp only [paddingLength, List.reverse_append, List.reverse_singleton,
        List.singleton_append, List.takeWhile_cons, beq_self_eq_true, if_true,
        List.length_cons] at induction ⊢
      omega

theorem paddingLength_eq_zero {bytes : List UInt8} (ending : bytes.getLast? ≠ some padding) :
    paddingLength bytes = 0 := by
  rw [← List.head?_reverse] at ending
  unfold paddingLength
  cases reversed : bytes.reverse with
  | nil => rfl
  | cons last rest =>
      rw [reversed, List.head?_cons, ne_eq, Option.some.injEq] at ending
      simp [ending]

end Receiver

namespace Packets

open Destination

/-- The length of what a destination holds of a whole image, without the padding at its end. -/
def trimmedLength (capacity : Nat) (source : List UInt8) : Nat :=
  offset capacity (blockCount source) -
    Receiver.paddingLength (((image source (blockCount source)).take capacity).drop
      (offset capacity (blockCount source - 1)))

/-- The length reported for a whole image: the expected one if that many bytes are stored, and
otherwise the number of stored bytes without the padding of the final block. -/
def imageLength (capacity : Nat) (source : List UInt8) : Option Nat → Nat
  | some length =>
      if length ≤ offset capacity (blockCount source) then length
      else trimmedLength capacity source
  | none => trimmedLength capacity source

/-- A source that fits and does not end in padding is reported in full. -/
theorem trimmedLength_eq {capacity : Nat} {source : List UInt8} (fits : source.length ≤ capacity)
    (ending : source.getLast? ≠ some padding) : trimmedLength capacity source = source.length := by
  rcases Nat.eq_zero_or_pos source.length with empty | some_byte
  · have nothing : source = [] := List.length_eq_zero_iff.mp empty
    subst nothing
    simp [trimmedLength, offset, blockCount, blockSize]
  · have all := (blockCount_le_iff source (blockCount source)).mp le_rfl
    have some_block : 0 < blockCount source := by
      rw [lt_blockCount_iff]
      simpa using some_byte
    have before := (lt_blockCount_iff source (blockCount source - 1)).mp (by omega)
    have first : offset capacity (blockCount source - 1) =
        blockSize * (blockCount source - 1) := Nat.min_eq_left (before.le.trans fits)
    have stored : (image source (blockCount source)).take capacity =
        source ++ List.replicate (offset capacity (blockCount source) - source.length) padding := by
      rw [image_eq, List.take_of_length_le all, List.take_append, List.take_of_length_le fits,
        List.take_replicate, offset]
      congr 2
      omega
    have last : (source.drop (blockSize * (blockCount source - 1))).getLast? ≠ some padding := by
      rw [List.getLast?_drop, if_neg (by omega)]
      exact ending
    rw [trimmedLength, stored, first, List.drop_append_of_le_length before.le,
      Receiver.paddingLength_append_replicate, Receiver.paddingLength_eq_zero last]
    simp only [offset]
    omega

end Packets

namespace Receiver

open Packets Destination

theorem reported_completed (setup : Setup Rat) (initial : Destination) (source : List UInt8) :
    reported setup initial source (blockCount source) .completed =
      imageLength initial.capacity source setup.expectedLength := by
  have later : offset initial.capacity (blockCount source - 1) ≤
      offset initial.capacity (blockCount source) := by
    simp only [offset]
    have places : blockSize * (blockCount source - 1) ≤ blockSize * blockCount source :=
      Nat.mul_le_mul_left _ (Nat.sub_le ..)
    omega
  have front : ((image source (blockCount source)).take initial.capacity).length =
      offset initial.capacity (blockCount source) := by
    rw [List.length_take, length_image, offset, Nat.min_comm]
  have final : (initial.holding source (blockCount source)).slice
      (offset initial.capacity (blockCount source) -
        (offset initial.capacity (blockCount source) -
          offset initial.capacity (blockCount source - 1)))
      (offset initial.capacity (blockCount source)) =
      ((image source (blockCount source)).take initial.capacity).drop
        (offset initial.capacity (blockCount source - 1)) := by
    rw [slice_eq _ _ _ (by rw [capacity_holding]; exact offset_le ..), toList_holding,
      List.take_left' front, Nat.sub_sub_self later]
  cases expected : setup.expectedLength <;>
    simp [reported, transferred, atBlocks, expected, imageLength, trimmedLength, final]

end Receiver
end Xmodem
