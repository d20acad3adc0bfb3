import Mathlib.Logic.Function.Defs
import Xmodem.Checksum.Wide
import Xmodem.Frame

/-!
# Frames and blocks

Writing a block and reading a frame undo each other: exactly the bytes written for a block are read
as that block.  All other bytes are refused, for the first of the four checks that they fail.
-/

namespace Xmodem

theorem toNat_ofInt (number : Int) : ((UInt8.ofInt number).toNat : Int) = number % 256 := by
  have low : 0 ≤ number % 256 := Int.emod_nonneg number (by decide)
  have high : number % 256 < 256 := Int.emod_lt_of_pos number (by decide)
  simp only [UInt8.ofInt, UInt8.toNat_ofNat']
  omega

/-- The complement of a number is what is missing to the largest byte. -/
theorem eq_complement_iff (number complement : UInt8) :
    complement = 255 - number ↔ number.toNat + complement.toNat = 255 := by
  have small : number.toNat < 256 := UInt8.toNat_lt number
  have below : number ≤ 255 := UInt8.le_iff_toNat_le.mpr (Nat.le_of_lt_succ small)
  have missing : (255 - number).toNat = 255 - number.toNat := UInt8.toNat_sub_of_le 255 number below
  rw [← UInt8.toNat_inj, missing]
  omega

namespace Frame

variable {mode : ChecksumMode} {raw : List UInt8} {block : Block} {error : FrameError}

/-- Which bytes are refused, and for which cause. -/
inductive Refuses (mode : ChecksumMode) : List UInt8 → FrameError → Prop
  | wrongLength {raw : List UInt8} :
      raw.length ≠ length mode → Refuses mode raw (.wrongLength (length mode) raw.length)
  | noStart {start : UInt8} {rest : List UInt8} :
      (start :: rest).length = length mode → start ≠ startOfBlock →
      Refuses mode (start :: rest) .noStart
  | malformedNumber {number complement : UInt8} {body : List UInt8} :
      body.length = blockSize + mode.checksumLength →
      number.toNat + complement.toNat ≠ 255 →
      Refuses mode (startOfBlock :: number :: complement :: body)
        (.malformedNumber number complement)
  | checksumMismatch {number complement : UInt8} {payload checksum : List UInt8} :
      payload.length = blockSize → checksum.length = mode.checksumLength →
      number.toNat + complement.toNat = 255 → checksum ≠ Checksum.bytes mode payload →
      Refuses mode (startOfBlock :: number :: complement :: (payload ++ checksum))
        (.checksumMismatch number)

theorem length_cons_cons_cons_iff (start number complement : UInt8) (body : List UInt8) :
    (start :: number :: complement :: body).length = length mode ↔
      body.length = blockSize + mode.checksumLength := by
  simp only [List.length_cons, length]
  omega

theorem decode_eq_ok_iff : decode mode raw = .ok block ↔ encode mode block = raw := by
  constructor
  · exact encode_of_decode
  · rintro rfl
    exact decode_encode mode block

theorem encode_injective (mode : ChecksumMode) : Function.Injective (encode mode) := by
  intro first second same
  have read : decode mode (encode mode second) = .ok first := decode_eq_ok_iff.mpr same
  rw [decode_encode] at read
  exact (Except.ok.inj read).symm

theorem exists_cons_of_length (whole : raw.length = length mode) :
    ∃ start number complement body, raw = start :: number :: complement :: body := by
  match raw, whole with
  | [], whole | [_], whole | [_, _], whole =>
      simp only [length, List.length_cons, List.length_nil] at whole
      omega
  | start :: number :: complement :: body, _ => exact ⟨start, number, complement, body, rfl⟩

theorem refuses_of_decode (read : decode mode raw = .error error) : Refuses mode raw error := by
  unfold decode at read
  split at read
  case h_1 start number complement body =>
    split at read
    case isTrue whole =>
      split at read
      case isTrue other =>
        obtain rfl := Except.error.inj read
        exact .noStart ((length_cons_cons_cons_iff ..).mpr whole) other
      case isFalse opened =>
        obtain rfl : start = startOfBlock := Decidable.not_not.mp opened
        split at read
        case isTrue malformed =>
          obtain rfl := Except.error.inj read
          exact .malformedNumber whole fun sum => malformed ((eq_complement_iff ..).mpr sum)
        case isFalse formed =>
          have sum := (eq_complement_iff number complement).mp (Decidable.not_not.mp formed)
          split at read
          case isTrue mismatch =>
            obtain rfl := Except.error.inj read
            rw [← List.take_append_drop blockSize body]
            exact .checksumMismatch (by simp [whole]) (by simp [whole]) sum mismatch.symm
          case isFalse => cases read
    case isFalse other =>
      obtain rfl := Except.error.inj read
      exact .wrongLength fun same => other ((length_cons_cons_cons_iff ..).mp same)
  case h_2 short =>
    obtain rfl := Except.error.inj read
    refine .wrongLength fun whole => ?_
    obtain ⟨start, number, complement, body, same⟩ := exists_cons_of_length whole
    exact short start number complement body same

theorem decode_of_refuses (refuses : Refuses mode raw error) : decode mode raw = .error error := by
  cases refuses with
  | wrongLength other =>
      unfold decode
      split
      · rw [dif_neg fun whole => other ((length_cons_cons_cons_iff ..).mpr whole)]
      · rfl
  | noStart whole other =>
      obtain ⟨_, number, complement, body, same⟩ := exists_cons_of_length whole
      obtain ⟨rfl, rfl⟩ := List.cons.inj same
      have rest := (length_cons_cons_cons_iff ..).mp whole
      rw [decode, dif_pos rest, if_pos other]
  | @malformedNumber number complement body whole sum =>
      have malformed : complement ≠ 255 - number := fun same =>
        sum ((eq_complement_iff ..).mp same)
      rw [decode, dif_pos whole, if_neg (not_not_intro rfl), if_pos malformed]
  | @checksumMismatch number complement payload checksum payload_length checksum_length sum other =>
      have whole : (payload ++ checksum).length = blockSize + mode.checksumLength := by
        rw [List.length_append, payload_length, checksum_length]
      have formed : complement = 255 - number := (eq_complement_iff ..).mpr sum
      have mismatch : Checksum.bytes mode ((payload ++ checksum).take blockSize) ≠
          (payload ++ checksum).drop blockSize := by
        rw [List.take_left' payload_length, List.drop_left' payload_length]
        exact other.symm
      rw [decode, dif_pos whole, if_neg (not_not_intro rfl), if_neg (not_not_intro formed),
        if_pos mismatch]

theorem decode_eq_error_iff : decode mode raw = .error error ↔ Refuses mode raw error :=
  ⟨refuses_of_decode, decode_of_refuses⟩

end Frame

namespace Packet

theorem kind_eq_data_iff (packet : Packet) :
    packet.kind = .data ↔ ∃ block, packet = data block := by
  cases packet with
  | data block => exact ⟨fun _ => ⟨block, rfl⟩, fun _ => rfl⟩
  | control signal number payload =>
      constructor
      · exact nofun
      · rintro ⟨_, ⟨⟩⟩

end Packet

theorem Block.exists_ofChunk? (number : Int) {chunk : List UInt8}
    (fits : chunk.length ≤ blockSize) :
    ∃ block, ofChunk? number chunk = .ok block ∧ (block.number.toNat : Int) = number % 256 ∧
      block.payload = chunk ++ List.replicate (blockSize - chunk.length) padding :=
  ⟨ofChunk (.ofInt number) chunk fits, dif_pos fits, toNat_ofInt number, rfl⟩

namespace Frame

/-- What writing and reading of frames have to do with each other. -/
structure Corresponds (mode : ChecksumMode) : Prop where
  /-- Exactly the bytes of data packets are read. -/
  reads_iff : ∀ raw (packet : Packet),
    (decode mode raw).map Packet.data = .ok packet ↔
      packet.kind = .data ∧ packet.encode mode = raw
  /-- Every data packet carries a whole payload and a number that is a byte. -/
  whole : ∀ packet : Packet, packet.kind = .data →
    packet.payload.length = 128 ∧ 0 ≤ packet.number ∧ packet.number ≤ 255
  /-- Every data packet can be read again. -/
  round_trip : ∀ packet : Packet, packet.kind = .data →
    (decode mode (packet.encode mode)).map Packet.data = .ok packet
  /-- Any integer and at most 128 bytes make a block, which can be read again. -/
  chunks : ∀ (number : Int) (chunk : List UInt8), chunk.length ≤ 128 →
    ∃ block, Block.ofChunk? number chunk = .ok block ∧
      (block.number.toNat : Int) = number % 256 ∧
      block.payload = chunk ++ List.replicate (128 - chunk.length) 0x1A ∧
      decode mode (encode mode block) = .ok block
  /-- Different data packets are written differently. -/
  injective : ∀ first second : Packet, first.kind = .data → second.kind = .data →
    first.encode mode = second.encode mode → first = second
  /-- All other bytes are refused. -/
  refuses_of_ne : ∀ raw, (∀ packet : Packet, packet.kind = .data → packet.encode mode ≠ raw) →
    ∃ error, decode mode raw = .error error
  /-- The cause of a refusal is the first check that fails. -/
  refuses_iff : ∀ raw error, decode mode raw = .error error ↔ Refuses mode raw error

/-- Exactly the bytes of data packets are read. -/
theorem map_decode_eq_ok_iff (mode : ChecksumMode) (raw : List UInt8) (packet : Packet) :
    (decode mode raw).map Packet.data = .ok packet ↔
      packet.kind = .data ∧ packet.encode mode = raw := by
  rw [Packet.kind_eq_data_iff]
  constructor
  · intro read
    cases decoded : decode mode raw with
    | error error =>
        rw [decoded] at read
        exact absurd read nofun
    | ok block =>
        rw [decoded] at read
        obtain rfl : Packet.data block = packet := Except.ok.inj read
        exact ⟨⟨block, rfl⟩, encode_of_decode decoded⟩
  · rintro ⟨⟨block, rfl⟩, rfl⟩
    change (decode mode (encode mode block)).map Packet.data = _
    rw [decode_encode]
    rfl

theorem corresponds (mode : ChecksumMode) : Corresponds mode where
  reads_iff := map_decode_eq_ok_iff mode
  whole packet data := by
    obtain ⟨block, rfl⟩ := packet.kind_eq_data_iff.mp data
    have small : block.number.toNat < 256 := UInt8.toNat_lt block.number
    refine ⟨block.length_payload, Int.natCast_nonneg _, ?_⟩
    change (block.number.toNat : Int) ≤ 255
    omega
  round_trip packet data := (map_decode_eq_ok_iff mode _ packet).mpr ⟨data, rfl⟩
  chunks number chunk fits := by
    obtain ⟨block, made, number_eq, payload_eq⟩ := Block.exists_ofChunk? number fits
    exact ⟨block, made, number_eq, payload_eq, decode_encode mode block⟩
  injective first second first_data second_data same := by
    obtain ⟨first, rfl⟩ := first.kind_eq_data_iff.mp first_data
    obtain ⟨second, rfl⟩ := second.kind_eq_data_iff.mp second_data
    exact congrArg Packet.data (encode_injective mode same)
  refuses_of_ne raw outside := by
    cases decoded : decode mode raw with
    | ok block => exact absurd (encode_of_decode decoded) (outside (.data block) rfl)
    | error error => exact ⟨error, rfl⟩
  refuses_iff raw error := decode_eq_error_iff

end Frame
end Xmodem
