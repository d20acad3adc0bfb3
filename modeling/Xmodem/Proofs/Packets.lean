import Xmodem.Frame

/-!
# The packets of a transfer

A source is cut into blocks, the last of them filled up, and the end of transmission follows.  The
payloads of all blocks, one after the other, are the source and padding.
-/

namespace Xmodem
namespace Packets

/-- How many blocks a source is cut into. -/
def blockCount (source : List UInt8) : Nat :=
  (source.length + (blockSize - 1)) / blockSize

/-- The block at some place. -/
def block (source : List UInt8) (place : Nat) : Block :=
  .ofChunk (.ofNat (place + 1)) ((source.drop (blockSize * place)).take blockSize)
    (List.length_take_le ..)

/-- The bytes of the packet at some place; behind the last block, the end of transmission. -/
def packet (mode : ChecksumMode) (source : List UInt8) (place : Nat) : List UInt8 :=
  if place < blockCount source then Frame.encode mode (block source place)
  else [Signal.byte .endOfTransmission]

/-- Whether a block fits: it begins within the capacity, and only padding lies beyond. -/
def Fits (capacity : Nat) (source : List UInt8) (place : Nat) : Prop :=
  blockSize * place < capacity ∧
    ∀ byte ∈ (block source place).payload.drop (capacity - blockSize * place), byte = padding

instance (capacity : Nat) (source : List UInt8) (place : Nat) :
    Decidable (Fits capacity source place) :=
  inferInstanceAs (Decidable (_ ∧ _))

/-- Whether a payload fits at some place: it begins within the capacity, and only padding lies
beyond. -/
def FitsAt (capacity place : Nat) (payload : List UInt8) : Prop :=
  blockSize * place < capacity ∧
    ∀ byte ∈ payload.drop (capacity - blockSize * place), byte = padding

/-- The payloads of blocks, one after the other. -/
def payloads (blocks : List Block) : List UInt8 :=
  blocks.flatMap Block.payload

/-- The payloads of the first blocks, one after the other. -/
def image (source : List UInt8) (count : Nat) : List UInt8 :=
  (List.range count).flatMap fun place => (block source place).payload

theorem lt_blockCount_iff (source : List UInt8) (place : Nat) :
    place < blockCount source ↔ blockSize * place < source.length := by
  simp only [blockCount, blockSize]
  omega

theorem blockCount_le_iff (source : List UInt8) (place : Nat) :
    blockCount source ≤ place ↔ source.length ≤ blockSize * place := by
  have same := lt_blockCount_iff source place
  omega

theorem payload_block (source : List UInt8) (place : Nat) :
    (block source place).payload =
      (source.drop (blockSize * place)).take blockSize ++
        List.replicate (blockSize - ((source.drop (blockSize * place)).take blockSize).length)
          padding := rfl

theorem fits_of_length_le {capacity place : Nat} {source : List UInt8}
    (inside : place < blockCount source) (long : source.length ≤ capacity) :
    Fits capacity source place := by
  have before := (lt_blockCount_iff source place).mp inside
  constructor
  · exact Nat.lt_of_lt_of_le before long
  · intro byte beyond
    rw [payload_block, List.drop_append, List.drop_of_length_le, List.nil_append] at beyond
    · exact List.eq_of_mem_replicate (List.mem_of_mem_drop beyond)
    · rw [List.length_take, List.length_drop]
      omega

theorem packet_of_lt {mode : ChecksumMode} {source : List UInt8} {place : Nat}
    (inside : place < blockCount source) :
    packet mode source place = Frame.encode mode (block source place) :=
  if_pos inside

theorem packet_eq_cons {mode : ChecksumMode} {source : List UInt8} {place : Nat}
    (inside : place < blockCount source) :
    packet mode source place = startOfBlock :: (Frame.encode mode (block source place)).tail :=
  packet_of_lt inside

theorem length_packet {mode : ChecksumMode} {source : List UInt8} {place : Nat}
    (inside : place < blockCount source) :
    (packet mode source place).length = Frame.length mode := by
  rw [packet_of_lt inside, Frame.length_encode]

theorem length_tail_encode_lt (mode : ChecksumMode) (block : Block) :
    (Frame.encode mode block).tail.length < Frame.length mode := by
  rw [List.length_tail, Frame.length_encode, Frame.length]
  omega

theorem packet_blockCount (mode : ChecksumMode) (source : List UInt8) :
    packet mode source (blockCount source) = [Signal.byte .endOfTransmission] :=
  if_neg (Nat.lt_irrefl _)

theorem packet_ne_nil (mode : ChecksumMode) (source : List UInt8) (place : Nat) :
    packet mode source place ≠ [] := by
  unfold packet
  split <;> exact List.cons_ne_nil _ _

/-- Before its last byte, a frame is not read whole. -/
theorem unread_ne_nil {mode : ChecksumMode} {source raw rest : List UInt8} {place : Nat}
    {value : UInt8} (inside : place < blockCount source)
    (inner : raw.length + 1 < Frame.length mode)
    (whole : raw ++ value :: rest = packet mode source place) : rest ≠ [] := by
  rintro rfl
  have length_eq := congrArg List.length whole
  rw [length_packet inside, List.length_append, List.length_singleton] at length_eq
  omega

theorem decode_of_full {mode : ChecksumMode} {source raw rest : List UInt8} {place : Nat}
    {value : UInt8} (inside : place < blockCount source)
    (whole : raw ++ value :: rest = packet mode source place)
    (full : Frame.length mode ≤ raw.length + 1) :
    rest = [] ∧ Frame.decode mode (raw ++ [value]) = .ok (block source place) := by
  have length_eq := congrArg List.length whole
  rw [length_packet inside, List.length_append, List.length_cons] at length_eq
  obtain rfl : rest = [] := List.eq_nil_of_length_eq_zero (by omega)
  rw [packet_of_lt inside] at whole
  exact ⟨rfl, whole ▸ Frame.decode_encode ..⟩

@[simp]
theorem length_payloads (blocks : List Block) :
    (payloads blocks).length = blockSize * blocks.length := by
  induction blocks with
  | nil => rfl
  | cons block blocks induction =>
      have whole := block.length_payload
      rw [payloads, List.flatMap_cons, List.length_append, ← payloads, induction, whole,
        List.length_cons, Nat.mul_succ, Nat.add_comm]

theorem payloads_append_singleton (blocks : List Block) (block : Block) :
    payloads (blocks ++ [block]) = payloads blocks ++ block.payload := by
  simp [payloads]

theorem payloads_blocks (source : List UInt8) (count : Nat) :
    payloads ((List.range count).map (block source)) = image source count :=
  List.flatMap_map ..

theorem image_succ (source : List UInt8) (count : Nat) :
    image source (count + 1) = image source count ++ (block source count).payload := by
  simp [image, List.range_succ]

@[simp]
theorem length_image (source : List UInt8) (count : Nat) :
    (image source count).length = blockSize * count := by
  induction count with
  | zero => rfl
  | succ count induction =>
      rw [image_succ, List.length_append, induction, (block source count).length_payload,
        Nat.mul_succ]

theorem image_eq (source : List UInt8) (count : Nat) :
    image source count = source.take (blockSize * count) ++
      List.replicate (blockSize * count - source.length) padding := by
  induction count with
  | zero => simp [image]
  | succ count induction =>
      rw [image_succ, induction, payload_block, Nat.mul_succ]
      rcases Nat.le_total source.length (blockSize * count) with short | long
      · have nothing : source.drop (blockSize * count) = [] := List.drop_eq_nil_of_le short
        have more : blockSize * count + blockSize - source.length =
            blockSize * count - source.length + blockSize := by omega
        rw [nothing, List.take_of_length_le short,
          List.take_of_length_le (i := blockSize * count + blockSize) (by omega), more,
          ← List.replicate_append_replicate]
        simp
      · have none_yet : blockSize * count - source.length = 0 := by omega
        have filled : blockSize - ((source.drop (blockSize * count)).take blockSize).length =
            blockSize * count + blockSize - source.length := by
          rw [List.length_take, List.length_drop]
          omega
        rw [none_yet, List.replicate_zero, List.append_nil, filled, ← List.append_assoc,
          List.take_add]

/-- All payloads begin with the source. -/
theorem take_image (source : List UInt8) {count : Nat} (all : blockCount source ≤ count) :
    (image source count).take source.length = source := by
  have long := (blockCount_le_iff source count).mp all
  rw [image_eq, List.take_of_length_le long, List.take_left]

end Packets
end Xmodem
