import Xmodem.Frame

/-!
# Detection of single changes

Both checksums notice when one byte of a payload is replaced, and so a frame with one replaced byte
behind its first one is never read.  A cyclic redundancy code notices since its register can be run
backwards.
-/

namespace Xmodem
namespace Checksum

theorem shift_xor (polynomial first second : BitVec 16) :
    shift polynomial (first ^^^ second) =
      shift polynomial first ^^^ shift polynomial second := by
  have regroup (left right : BitVec 16) :
      (left ^^^ polynomial) ^^^ (right ^^^ polynomial) = left ^^^ right := by
    rw [BitVec.xor_comm right, BitVec.xor_assoc, ← BitVec.xor_assoc polynomial, BitVec.xor_self,
      BitVec.zero_xor]
  unfold shift
  rw [BitVec.msb_xor, BitVec.shiftLeft_xor_distrib]
  cases first.msb <;> cases second.msb <;>
    simp only [Bool.xor_false, Bool.xor_true, Bool.not_true, Bool.not_false, Bool.false_eq_true,
      if_true, if_false]
  · rw [BitVec.xor_assoc]
  · rw [BitVec.xor_assoc, BitVec.xor_comm (second <<< 1), ← BitVec.xor_assoc]
  · exact (regroup _ _).symm

/-- The constant term of the generator shows whether the leading bit has left. -/
theorem eq_zero_of_shift_eq_zero {register : BitVec 16} (shifted : shift generator register = 0) :
    register = 0 := by
  unfold shift at shifted
  have low : (register <<< 1).getLsbD 0 = false := by simp
  split at shifted
  · have bit := congrArg (BitVec.getLsbD · 0) shifted
    rw [BitVec.getLsbD_xor, low] at bit
    exact absurd bit (by decide)
  · rename_i msb
    apply BitVec.eq_of_getLsbD_eq
    intro index inside
    rcases Nat.lt_or_ge index 15 with small | large
    · have bit := congrArg (BitVec.getLsbD · (index + 1)) shifted
      have below : index + 1 < 16 := by omega
      simpa [BitVec.getLsbD_shiftLeft, below, BitVec.getLsbD_eq_getElem inside] using bit
    · obtain rfl : index = 15 := by omega
      simpa [BitVec.msb_eq_getLsbD_last] using msb

theorem shift_injective : Function.Injective (shift generator) := by
  intro first second same
  have difference : shift generator (first ^^^ second) = 0 := by
    rw [shift_xor, same, BitVec.xor_self]
    rfl
  exact BitVec.xor_eq_zero_iff.mp (eq_zero_of_shift_eq_zero difference)

theorem repeat_injective {α : Type} {step : α → α} (injective : Function.Injective step)
    (count : Nat) : Function.Injective (Nat.repeat step count) := by
  induction count with
  | zero => exact fun _ _ same => same
  | succ count induction => exact injective.comp induction

theorem feed_injective (byte : UInt8) : Function.Injective (feed generator · byte) := by
  intro first second same
  have fed := repeat_injective shift_injective 8 same
  exact (BitVec.xor_left_inj _).mp fed

theorem feed_byte_injective (register : BitVec 16) :
    Function.Injective (feed generator register) := by
  intro first second same
  have fed := repeat_injective shift_injective 8 same
  have shifted : first.toBitVec.setWidth 16 <<< 8 = second.toBitVec.setWidth 16 <<< 8 :=
    (BitVec.xor_right_inj register).mp fed
  have values := congrArg BitVec.toNat shifted
  simp only [BitVec.toNat_shiftLeft, BitVec.toNat_setWidth, UInt8.toNat_toBitVec,
    Nat.shiftLeft_eq] at values
  have first_lt := first.toNat_lt
  have second_lt := second.toNat_lt
  apply UInt8.toNat_inj.mp
  omega

/-- Equal ends do not make up for different registers. -/
theorem crc_injective (data : List UInt8) :
    Function.Injective (crc generator · data) := by
  induction data with
  | nil => exact fun _ _ same => same
  | cons byte data induction => exact induction.comp (feed_injective byte)

theorem additive_foldl_injective (data : List UInt8) :
    Function.Injective fun sum : UInt8 => data.foldl (· + ·) sum := by
  induction data with
  | nil => exact fun _ _ same => same
  | cons byte data induction =>
      exact induction.comp fun _ _ same => (UInt8.add_left_inj byte).mp same

theorem code_eq_of_bytes {first second : BitVec 16}
    (high : first.extractLsb' 8 8 = second.extractLsb' 8 8)
    (low : first.extractLsb' 0 8 = second.extractLsb' 0 8) : first = second := by
  apply BitVec.eq_of_getLsbD_eq
  intro index inside
  rcases Nat.lt_or_ge index 8 with small | large
  · have bit := congrArg (BitVec.getLsbD · index) low
    simpa only [BitVec.getLsbD_extractLsb', small, decide_true, Bool.true_and,
      Nat.zero_add] using bit
  · have bit := congrArg (BitVec.getLsbD · (index - 8)) high
    have below : index - 8 < 8 := by omega
    have place : 8 + (index - 8) = index := by omega
    simpa only [BitVec.getLsbD_extractLsb', below, decide_true, Bool.true_and, place] using bit

/-- A checksum notices when one byte is replaced. -/
theorem bytes_replace {mode : ChecksumMode} {before after : List UInt8} {byte other : UInt8}
    (same : bytes mode (before ++ byte :: after) = bytes mode (before ++ other :: after)) :
    byte = other := by
  cases mode with
  | additive =>
      simp only [bytes, additive, List.foldl_append, List.foldl_cons, List.cons.injEq,
        and_true] at same
      exact (UInt8.add_right_inj _).mp (additive_foldl_injective after same)
  | crc16 =>
      simp only [bytes, List.cons.injEq, and_true] at same
      obtain ⟨high, low⟩ := same
      have codes := code_eq_of_bytes (UInt8.toBitVec_inj.mpr high) (UInt8.toBitVec_inj.mpr low)
      rw [crc16, crc16, crc_append, crc_append] at codes
      exact feed_byte_injective _ (crc_injective after codes)

end Checksum

namespace Frame

/-- The payload and the checksum of a frame determine each other so far that one replaced byte does
not fit. -/
theorem body_replace {mode : ChecksumMode} {first second : Block} {before after : List UInt8}
    {byte other : UInt8}
    (first_eq : first.payload ++ Checksum.bytes mode first.payload = before ++ byte :: after)
    (second_eq : second.payload ++ Checksum.bytes mode second.payload =
      before ++ other :: after) : byte = other := by
  have first_payload : first.payload = (before ++ byte :: after).take blockSize := by
    rw [← first_eq, List.take_left' first.length_payload]
  have second_payload : second.payload = (before ++ other :: after).take blockSize := by
    rw [← second_eq, List.take_left' second.length_payload]
  have first_checksum : Checksum.bytes mode first.payload =
      (before ++ byte :: after).drop blockSize := by
    rw [← first_eq, List.drop_left' first.length_payload]
  have second_checksum : Checksum.bytes mode second.payload =
      (before ++ other :: after).drop blockSize := by
    rw [← second_eq, List.drop_left' second.length_payload]
  rcases Nat.lt_or_ge before.length blockSize with inside | outside
  · obtain ⟨left, left_eq⟩ : ∃ left, blockSize = before.length + (left + 1) :=
      ⟨blockSize - before.length - 1, by omega⟩
    rw [left_eq, List.take_length_add_append, List.take_succ_cons] at first_payload second_payload
    rw [left_eq, List.drop_length_add_append, List.drop_succ_cons] at first_checksum second_checksum
    rw [first_payload] at first_checksum
    rw [second_payload] at second_checksum
    exact Checksum.bytes_replace (first_checksum.trans second_checksum.symm)
  · rw [List.take_append_of_le_length outside] at first_payload second_payload
    have whole := congrArg (fun payload => payload ++ Checksum.bytes mode payload)
      (first_payload.trans second_payload.symm)
    rw [first_eq, second_eq, List.append_cancel_left_eq, List.cons.injEq] at whole
    exact whole.1

theorem encode_replace {mode : ChecksumMode} {first second : Block} {before after : List UInt8}
    {byte other : UInt8} (behind : before ≠ [])
    (first_eq : encode mode first = before ++ byte :: after)
    (second_eq : encode mode second = before ++ other :: after) : byte = other := by
  obtain ⟨_, before, rfl⟩ := List.exists_cons_of_ne_nil behind
  simp only [encode, List.cons_append, List.nil_append, List.cons.injEq] at first_eq second_eq
  obtain ⟨_, first_eq⟩ := first_eq
  obtain ⟨_, second_eq⟩ := second_eq
  -- The replaced byte is the number, its complement, or one that the checksum protects.
  cases before with
  | nil =>
      simp only [List.nil_append, List.cons.injEq] at first_eq second_eq
      obtain ⟨rfl, rfl⟩ := first_eq
      simp only [List.cons.injEq] at second_eq
      exact ((UInt8.sub_right_inj 255).mp second_eq.2.1).symm.trans second_eq.1
  | cons number before =>
      cases before with
      | nil =>
          simp only [List.cons_append, List.nil_append, List.cons.injEq] at first_eq second_eq
          rw [← first_eq.2.1, ← second_eq.2.1, first_eq.1, second_eq.1]
      | cons complement before =>
          simp only [List.cons_append, List.cons.injEq] at first_eq second_eq
          exact body_replace first_eq.2.2 second_eq.2.2

/-- A frame with one replaced byte behind the first one is refused. -/
theorem decode_replace {mode : ChecksumMode} {block : Block} {before after : List UInt8}
    {byte other : UInt8} (behind : before ≠ [])
    (written : encode mode block = before ++ byte :: after)
    (differ : byte ≠ other) : ∃ error, decode mode (before ++ other :: after) = .error error := by
  cases read : decode mode (before ++ other :: after) with
  | error error => exact ⟨error, rfl⟩
  | ok wrong => exact absurd (encode_replace behind written (encode_of_decode read)) differ

end Frame
end Xmodem
