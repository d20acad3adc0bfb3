import Xmodem.Checksum
import Xmodem.Packet

/-!
# Data frames

A block travels as its opening byte, its number, the complement of the number, the payload, and the
checksum.  Reading checks the length, the opening byte, the complement, and the checksum, in this
order.  Reading what was written gives the block back, and nothing else is read as that block.
-/

namespace Xmodem

/-- The reasons for which bytes are not a data frame. -/
inductive FrameError where
  /-- A number of bytes other than that of a frame. -/
  | wrongLength (expected actual : Nat)
  /-- A first byte that does not open a frame. -/
  | noStart
  /-- A complement that does not belong to the number. -/
  | malformedNumber (number complement : UInt8)
  /-- A checksum that does not belong to the payload. -/
  | checksumMismatch (number : UInt8)
  deriving DecidableEq, Repr

namespace FrameError

/-- Explanation of an error. -/
def message : FrameError → String
  | wrongLength expected actual => s!"data frame must be {expected} bytes, got {actual}"
  | noStart => "data frame does not start with SOH"
  | malformedNumber number complement =>
      "block number 0x" ++ Text.Hexadecimal.ofByte number ++ " with complement 0x" ++
        Text.Hexadecimal.ofByte complement
  | checksumMismatch number => s!"checksum mismatch in block {number.toNat}"

end FrameError

namespace Frame

/-- Number of bytes in a frame. -/
def length (mode : ChecksumMode) : Nat :=
  3 + blockSize + mode.checksumLength

/-- The bytes of a block. -/
def encode (mode : ChecksumMode) (block : Block) : List UInt8 :=
  [startOfBlock, block.number, 255 - block.number] ++ block.payload ++
    Checksum.bytes mode block.payload

/-- The block carried by a frame. -/
def decode (mode : ChecksumMode) (raw : List UInt8) : Except FrameError Block :=
  match raw with
  | start :: number :: complement :: body =>
      if whole : body.length = blockSize + mode.checksumLength then
        if start ≠ startOfBlock then
          .error .noStart
        else if complement ≠ 255 - number then
          .error (.malformedNumber number complement)
        else if Checksum.bytes mode (body.take blockSize) ≠ body.drop blockSize then
          .error (.checksumMismatch number)
        else
          .ok ⟨number, body.take blockSize, by simp [whole]⟩
      else
        .error (.wrongLength (length mode) raw.length)
  | raw => .error (.wrongLength (length mode) raw.length)

@[simp]
theorem length_encode (mode : ChecksumMode) (block : Block) :
    (encode mode block).length = length mode := by
  simp only [encode, length, List.length_append, List.length_cons, List.length_nil,
    Checksum.length_bytes, block.length_payload]

@[simp]
theorem decode_encode (mode : ChecksumMode) (block : Block) :
    decode mode (encode mode block) = .ok block := by
  have take_payload : (block.payload ++ Checksum.bytes mode block.payload).take blockSize =
      block.payload := List.take_left' block.length_payload
  have drop_payload : (block.payload ++ Checksum.bytes mode block.payload).drop blockSize =
      Checksum.bytes mode block.payload := List.drop_left' block.length_payload
  simp [encode, decode, block.length_payload, take_payload, drop_payload]

theorem encode_of_decode {mode : ChecksumMode} {raw : List UInt8} {block : Block}
    (read : decode mode raw = .ok block) : encode mode block = raw := by
  unfold decode at read
  split at read
  · rename_i start number complement body
    repeat' split at read
    all_goals try (simp at read; done)
    rename_i whole start_eq complement_eq checksum_eq
    simp only [Except.ok.injEq] at read
    subst read
    simp only [ne_eq, Decidable.not_not] at start_eq complement_eq checksum_eq
    simp [encode, start_eq, complement_eq, checksum_eq]
  · simp at read

end Frame

namespace Packet

/-- The bytes that a packet puts on the line. -/
def encode (mode : ChecksumMode) : Packet → List UInt8
  | data block => Frame.encode mode block
  | control signal _ _ => [signal.byte]

end Packet
end Xmodem
