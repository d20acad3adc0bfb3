import Xmodem.Destination
import Xmodem.Proofs.Packets

/-!
# Stored blocks

A destination that takes one block after the other holds their payloads, as far as they fit, and
behind them what it held before.
-/

namespace Xmodem
namespace Destination

open Packets

/-- Where a block begins, or the end of the destination when that comes first. -/
def offset (capacity place : Nat) : Nat :=
  min (blockSize * place) capacity

theorem offset_le (capacity place : Nat) : offset capacity place ≤ capacity :=
  Nat.min_le_right ..

theorem offset_succ (capacity place : Nat) :
    offset capacity place + min blockSize (capacity - offset capacity place) =
      offset capacity (place + 1) := by
  simp only [offset, Nat.mul_succ]
  omega

/-- The destination after the first blocks. -/
def holding (initial : Destination) (source : List UInt8) : Nat → Destination
  | 0 => initial
  | count + 1 =>
      (holding initial source count).store (offset initial.capacity count)
        ((block source count).payload.take
          (min blockSize (initial.capacity - offset initial.capacity count)))

variable {initial : Destination} {source : List UInt8}

@[simp]
theorem capacity_holding (count : Nat) :
    (initial.holding source count).capacity = initial.capacity := by
  induction count with
  | zero => rfl
  | succ count induction => rw [holding, capacity_store, induction]

theorem take_append_payload (capacity : Nat) {stored payload : List UInt8} {count : Nat}
    (long : stored.length = blockSize * count) (whole : payload.length = blockSize) :
    (stored ++ payload).take capacity =
      stored.take capacity ++
        payload.take (min blockSize (capacity - offset capacity count)) := by
  rw [List.take_append, long, offset]
  congr 1
  rcases Nat.le_total (blockSize * count) capacity with below | above
  · rw [Nat.min_eq_left below, ← whole, List.take_eq_take_iff]
    omega
  · rw [Nat.min_eq_right above]
    simp [Nat.sub_eq_zero_of_le above]

theorem drop_toList_succ (initial : Destination) (count : Nat) :
    (initial.toList.drop (blockSize * count)).drop
        (offset initial.capacity (count + 1) - offset initial.capacity count) =
      initial.toList.drop (blockSize * (count + 1)) := by
  have total := length_toList initial
  rw [List.drop_drop]
  rcases Nat.le_total (blockSize * (count + 1)) initial.capacity with below | above
  · congr 1
    rw [offset, offset, Nat.min_eq_left below]
    rw [Nat.mul_succ] at below ⊢
    omega
  · rw [List.drop_of_length_le, List.drop_of_length_le]
    · rw [total]
      exact above
    · rw [total, offset, offset, Nat.min_eq_right above]
      omega

/-- A destination that holds some payloads, cut at the end, holds one more after it was stored. -/
theorem toList_store_payload {destination : Destination} {stored payload : List UInt8}
    {count : Nat} (same : destination.capacity = initial.capacity)
    (long : stored.length = blockSize * count) (whole : payload.length = blockSize)
    (held : destination.toList =
      stored.take initial.capacity ++ initial.toList.drop (blockSize * count)) :
    (destination.store (offset initial.capacity count)
        (payload.take (min blockSize (initial.capacity - offset initial.capacity count)))).toList =
      (stored ++ payload).take initial.capacity ++
        initial.toList.drop (blockSize * (count + 1)) := by
  have end_eq := offset_succ initial.capacity count
  have end_le := offset_le initial.capacity (count + 1)
  have taken : (payload.take (min blockSize
      (initial.capacity - offset initial.capacity count))).length =
        min blockSize (initial.capacity - offset initial.capacity count) := by
    rw [List.length_take]
    omega
  have fits : offset initial.capacity count + (payload.take (min blockSize
      (initial.capacity - offset initial.capacity count))).length ≤ destination.capacity := by
    rw [taken, same, end_eq]
    exact end_le
  have front : (stored.take initial.capacity).length = offset initial.capacity count := by
    rw [List.length_take, long, offset, Nat.min_comm]
  rw [toList_store _ _ _ fits, taken, end_eq, held, List.take_left' front,
    take_append_payload _ long whole, List.drop_append, front, List.drop_of_length_le (by omega),
    List.nil_append, drop_toList_succ]

/-- The content is the payloads, cut at the end, and the rest of the content before. -/
theorem toList_holding (count : Nat) :
    (initial.holding source count).toList =
      (image source count).take initial.capacity ++ initial.toList.drop (blockSize * count) := by
  induction count with
  | zero => simp [holding, image]
  | succ count induction =>
      rw [image_succ]
      exact toList_store_payload (capacity_holding count) (length_image source count)
        (block source count).length_payload induction

theorem take_image_append {capacity : Nat} (long : source.length ≤ capacity)
    (behind : List UInt8) :
    ((image source (blockCount source)).take capacity ++ behind).take source.length = source := by
  have all := (blockCount_le_iff source (blockCount source)).mp (Nat.le_refl _)
  rw [List.take_append_of_le_length, List.take_take, Nat.min_eq_left long,
    take_image source (Nat.le_refl _)]
  rw [List.length_take, length_image]
  omega

/-- A destination that holds all blocks of a source that fits begins with the source. -/
theorem take_toList_holding (long : source.length ≤ initial.capacity) :
    (initial.holding source (blockCount source)).toList.take source.length = source := by
  rw [toList_holding]
  exact take_image_append long _

end Destination
end Xmodem
