import Mathlib.Algebra.Ring.Parity
import Mathlib.RingTheory.Coprime.Basic
import Xmodem.Proofs.FrameCodec
import Xmodem.Proofs.Packets
import Xmodem.Proofs.Remainder

/-!
# Errors that frames detect

A frame with one replaced byte behind its first one is refused.  With a redundancy code, so is a
frame in whose payload and code some bits are inverted, if these lie within sixteen consecutive
bits, are odd in number, or are exactly two: a multiple of the divisor has none of these forms.
-/

open Polynomial

namespace Xmodem

/-- Whether one list of bytes is another one in which exactly the byte at some place is replaced. -/
structure ReplacedAt (place : Nat) (first second : List UInt8) : Prop where
  length_eq : second.length = first.length
  elsewhere : ∀ other, other ≠ place → second[other]? = first[other]?
  differs : second[place]? ≠ first[place]?

/-- Whether one list of bytes is another one in which exactly the marked bits are inverted. -/
structure Inverted (pattern : List Bool) (first second : List UInt8) : Prop where
  length_eq : pattern.length = (Checksum.bits first).length
  bits_eq : Checksum.bits second = List.zipWith xor (Checksum.bits first) pattern

/-- Whether all marks lie within some number of consecutive places. -/
def Burst (width : Nat) (pattern : List Bool) : Prop :=
  ∃ before middle after, pattern = before ++ middle ++ after ∧ middle.length ≤ width ∧
    true ∉ before ∧ true ∉ after

/-- Whether a redundancy code of sixteen bits notices some inverted bits. -/
def Noticeable (pattern : List Bool) : Prop :=
  Burst 16 pattern ∨ Odd (pattern.count true) ∨ pattern.count true = 2

theorem ReplacedAt.exists_split {place : Nat} {first second : List UInt8}
    (replaced : ReplacedAt place first second) :
    ∃ before byte other after, first = before ++ byte :: after ∧
      second = before ++ other :: after ∧ before.length = place ∧ byte ≠ other := by
  obtain ⟨length_eq, elsewhere, differs⟩ := replaced
  have inside : place < first.length := by
    by_contra outside
    rw [List.getElem?_eq_none (by omega), List.getElem?_eq_none (by omega)] at differs
    exact differs rfl
  have within : place < second.length := length_eq ▸ inside
  refine ⟨first.take place, first[place], second[place], first.drop (place + 1), ?_, ?_, ?_, ?_⟩
  · rw [List.getElem_cons_drop, List.take_append_drop]
  · apply List.ext_getElem?
    intro other
    rcases Nat.lt_trichotomy other place with before | rfl | behind
    · rw [elsewhere other (Nat.ne_of_lt before),
        List.getElem?_append_left (by simp [before]; omega), List.getElem?_take_of_lt before]
    · rw [List.getElem?_append_right (by simp)]
      simp [Nat.min_eq_left (Nat.le_of_lt inside)]
    · rw [elsewhere other (Nat.ne_of_gt behind), List.getElem?_append_right (by simp; omega)]
      obtain ⟨gap, rfl⟩ := Nat.exists_eq_add_of_lt behind
      simp [Nat.min_eq_left (Nat.le_of_lt inside), Nat.add_assoc, Nat.add_comm 1 gap]
  · simp [Nat.le_of_lt inside]
  · rintro same
    rw [List.getElem?_eq_getElem inside, List.getElem?_eq_getElem within, same] at differs
    exact differs rfl

theorem inverted_xor {first mask : List UInt8} (same : mask.length = first.length) :
    Inverted (Checksum.bits mask) first (List.zipWith (· ^^^ ·) first mask) := by
  refine ⟨by rw [Checksum.length_bits, Checksum.length_bits, same], ?_⟩
  induction first generalizing mask with
  | nil =>
      obtain rfl := List.length_eq_zero_iff.mp same
      rfl
  | cons byte first induction =>
      obtain ⟨other, mask, rfl⟩ := List.exists_cons_of_length_eq_add_one same
      have rest := induction (Nat.succ.inj same)
      simp only [Checksum.bits, List.zipWith_cons_cons, List.flatMap_cons] at rest ⊢
      rw [rest, UInt8.toBitVec_xor, Checksum.wordBits_xor, List.zipWith_append (by simp)]

namespace Checksum

/-- Whether none of the registers that follow one in so many shifts is the first one.  The register
is passed on as a number so that every shift is carried out before the next one. -/
def neverReturns (first : Nat) : Nat → Nat → Bool
  | 0, _ => true
  | _ + 1, 0 => false
  | count + 1, register + 1 =>
      register + 1 != first &&
        neverReturns first count (shift generator (.ofNat 16 (register + 1))).toNat

theorem repeat_succ {α : Type} (step : α → α) (count : Nat) (start : α) :
    Nat.repeat step (count + 1) start = Nat.repeat step count (step start) := by
  induction count with
  | zero => rfl
  | succ count induction => exact congrArg step induction

theorem repeat_ne_of_neverReturns {first : Nat} {count : Nat} {register : BitVec 16}
    (leaves : neverReturns first count register.toNat = true) {steps : Nat}
    (few : steps < count) : (Nat.repeat (shift generator) steps register).toNat ≠ first := by
  induction count generalizing register steps with
  | zero => exact absurd few (Nat.not_lt_zero steps)
  | succ count induction =>
      cases value : register.toNat with
      | zero => simp [neverReturns, value] at leaves
      | succ before =>
          rw [value, neverReturns, ← value, Bool.and_eq_true, bne_iff_ne,
            BitVec.ofNat_toNat, BitVec.setWidth_eq] at leaves
          cases steps with
          | zero => exact leaves.1
          | succ steps =>
              rw [repeat_succ]
              exact induction leaves.2 (Nat.lt_of_succ_lt_succ few)

/-- Within the length of a frame no number of shifts leads back. -/
theorem repeat_shift_ne_one {count : Nat} (some_shift : count ≠ 0) (few : count < 1040) :
    Nat.repeat (shift generator) count 1 ≠ 1 := by
  obtain ⟨steps, rfl⟩ := Nat.exists_eq_succ_of_ne_zero some_shift
  have leaves : neverReturns 1 1039 (shift generator 1).toNat = true := by
    decide +kernel
  have fewer : steps < 1039 := by omega
  have differs := repeat_ne_of_neverReturns leaves fewer
  rw [Nat.succ_eq_add_one, repeat_succ]
  exact fun returned => differs (congrArg BitVec.toNat returned)

theorem unset_of_divisor_dvd {pattern : List Bool} (short : pattern.length ≤ 16)
    (divides : divisor ∣ toPolynomial pattern) : true ∉ pattern := by
  intro set
  have below := degree_lt_degree_divisor short
  exact toPolynomial_ne_zero set (eq_zero_of_dvd_of_degree_lt divides below)

/-- The constant term of the divisor keeps it apart from the unknown. -/
theorem divisor_dvd_of_dvd_mul_pow {factor : (ZMod 2)[X]} {count : Nat}
    (divides : divisor ∣ factor * X ^ count) : divisor ∣ factor := by
  have coprime : IsCoprime divisor (X : (ZMod 2)[X]) := by
    refine ⟨1, -(X ^ 15 + X ^ 11 + X ^ 4), ?_⟩
    rw [divisor]
    ring
  exact coprime.pow_right.dvd_of_dvd_mul_right divides

theorem not_divisor_dvd_of_burst {pattern : List Bool} (set : true ∈ pattern)
    (burst : Burst 16 pattern) : ¬ divisor ∣ toPolynomial pattern := by
  obtain ⟨before, middle, after, rfl, short, clear_before, clear_after⟩ := burst
  intro divides
  rw [toPolynomial_append, toPolynomial_append, toPolynomial_of_unset clear_before,
    toPolynomial_of_unset clear_after, zero_mul, zero_add, add_zero] at divides
  have clear := unset_of_divisor_dvd short (divisor_dvd_of_dvd_mul_pow divides)
  simp [clear_before, clear, clear_after] at set

/-- The divisor has an even number of terms, and so have its multiples. -/
theorem even_of_divisor_dvd {pattern : List Bool} (divides : divisor ∣ toPolynomial pattern) :
    Even (pattern.count true) := by
  have root : divisor.eval 1 = 0 := by
    simp only [divisor, eval_add, eval_pow, eval_X, eval_one, one_pow]
    decide
  have value := eval_dvd (x := 1) divides
  rw [root, zero_dvd_iff, eval_one_toPolynomial] at value
  exact (ZMod.natCast_eq_zero_iff_even).mp value

theorem not_divisor_dvd_X_pow_add_one {distance : Nat} (apart : distance ≠ 0)
    (near : distance < 1040) : ¬ divisor ∣ (X ^ distance + 1 : (ZMod 2)[X]) := by
  intro divides
  have one : toPolynomial (wordBits (1 : BitVec 16)) = 1 := by
    have last : wordBits (1 : BitVec 16) = List.replicate 15 false ++ [true] := by decide
    have unset : true ∉ List.replicate 15 false := by decide
    rw [last, toPolynomial_append, toPolynomial_of_unset unset]
    simp [toPolynomial]
  have returned : divisor ∣
      toPolynomial (wordBits (Nat.repeat (shift generator) distance 1 ^^^ 1)) := by
    rw [wordBits_xor, toPolynomial_xor (by simp)]
    refine ((divisor_dvd_repeat_shift 1 distance).add divides).trans (dvd_of_eq ?_)
    rw [one]
    ring
  have zero := eq_zero_of_unset (unset_of_divisor_dvd (by simp) returned)
  exact repeat_shift_ne_one apart near (BitVec.xor_eq_zero_iff.mp zero)

theorem exists_two_of_count {pattern : List Bool} (two : pattern.count true = 2) :
    ∃ before between after, pattern = before ++ true :: between ++ true :: after ∧
      true ∉ before ∧ true ∉ between ∧ true ∉ after := by
  have set : true ∈ pattern := List.count_pos_iff.mp (by omega)
  obtain ⟨before, rest, rfl, clear⟩ := List.eq_append_cons_of_mem set
  rw [List.count_append, List.count_cons_self, List.count_eq_zero_of_not_mem clear] at two
  have again : true ∈ rest := List.count_pos_iff.mp (by omega)
  obtain ⟨between, after, rfl, clear_between⟩ := List.eq_append_cons_of_mem again
  rw [List.count_append, List.count_cons_self, List.count_eq_zero_of_not_mem clear_between] at two
  exact ⟨before, between, after, by simp, clear, clear_between,
    List.count_eq_zero.mp (by omega)⟩

theorem not_divisor_dvd_of_two {pattern : List Bool} (short : pattern.length ≤ 1040)
    (two : pattern.count true = 2) : ¬ divisor ∣ toPolynomial pattern := by
  obtain ⟨before, between, after, rfl, clear_before, clear_between, clear_after⟩ :=
    exists_two_of_count two
  intro divides
  have factored : toPolynomial (before ++ true :: between ++ true :: after) =
      (X ^ (between.length + 1) + 1) * X ^ after.length := by
    simp only [toPolynomial_append, toPolynomial, toPolynomial_of_unset clear_before,
      toPolynomial_of_unset clear_between, toPolynomial_of_unset clear_after, if_true,
      List.length_cons]
    ring
  rw [factored] at divides
  have near : between.length + 1 < 1040 := by
    simp only [List.length_append, List.length_cons] at short
    omega
  exact not_divisor_dvd_X_pow_add_one (Nat.succ_ne_zero _) near
    (divisor_dvd_of_dvd_mul_pow divides)

/-- No multiple of the divisor within the length of a frame has a noticeable form. -/
theorem not_divisor_dvd_of_noticeable {pattern : List Bool} (set : true ∈ pattern)
    (short : pattern.length ≤ 1040) (noticeable : Noticeable pattern) :
    ¬ divisor ∣ toPolynomial pattern := by
  obtain burst | odd | two := noticeable
  · exact not_divisor_dvd_of_burst set burst
  · intro divides
    exact Nat.not_even_iff_odd.mpr odd (even_of_divisor_dvd divides)
  · exact not_divisor_dvd_of_two short two

/-- Two guarded payloads differ by a multiple of the divisor. -/
theorem divisor_dvd_of_inverted {pattern : List Bool} {first second : List UInt8}
    (inverted : Inverted pattern (first ++ bytes .crc16 first) (second ++ bytes .crc16 second)) :
    divisor ∣ toPolynomial pattern := by
  have sum := (divisor_dvd_guarded second).sub (divisor_dvd_guarded first)
  rw [inverted.bits_eq, toPolynomial_xor inverted.length_eq.symm] at sum
  simpa using sum

end Checksum

namespace Frame

variable {mode : ChecksumMode} {block : Block}

theorem encode_eq_cons (mode : ChecksumMode) (block : Block) :
    encode mode block = startOfBlock :: block.number :: (255 - block.number) ::
      (block.payload ++ Checksum.bytes mode block.payload) := by
  simp [encode]

theorem decode_eq_checksumMismatch {body : List UInt8}
    (whole : body.length = blockSize + mode.checksumLength)
    (refused : ∀ other,
      decode mode (startOfBlock :: block.number :: (255 - block.number) :: body) ≠ .ok other) :
    decode mode (startOfBlock :: block.number :: (255 - block.number) :: body) =
      .error (.checksumMismatch block.number) := by
  cases read : decode mode (startOfBlock :: block.number :: (255 - block.number) :: body) with
  | ok other => exact absurd read (refused other)
  | error error =>
      have refuses := refuses_of_decode read
      cases refuses with
      | wrongLength other => exact absurd ((length_cons_cons_cons_iff ..).mpr whole) other
      | noStart _ other => exact absurd rfl other
      | malformedNumber _ sum => exact absurd ((eq_complement_iff ..).mp rfl) sum
      | checksumMismatch => rfl

theorem decode_eq_malformedNumber {number complement : UInt8} {body : List UInt8}
    (whole : body.length = blockSize + mode.checksumLength)
    (malformed : complement ≠ 255 - number) :
    decode mode (startOfBlock :: number :: complement :: body) =
      .error (.malformedNumber number complement) :=
  decode_of_refuses (.malformedNumber whole fun sum =>
    malformed ((eq_complement_iff number complement).mpr sum))

theorem decode_of_replacedAt {raw : List UInt8} {place : Nat} (behind : place ≠ 0)
    (replaced : ReplacedAt place (encode mode block) raw) :
    (place < 3 → ∃ number complement,
        decode mode raw = .error (.malformedNumber number complement)) ∧
      (3 ≤ place → decode mode raw = .error (.checksumMismatch block.number)) := by
  have length_body : (block.payload ++ Checksum.bytes mode block.payload).length =
      blockSize + mode.checksumLength := by
    rw [List.length_append, block.length_payload, Checksum.length_bytes]
  obtain ⟨before, byte, other, after, written, rfl, rfl, differ⟩ := replaced.exists_split
  have same := (encode_eq_cons mode block).symm.trans written
  -- The replaced byte is the number, its complement, or one of the body.
  match before, behind with
  | [], behind => exact absurd rfl behind
  | [_], _ =>
      simp only [List.cons_append, List.nil_append, List.cons.injEq] at same
      obtain ⟨rfl, rfl, rfl⟩ := same
      refine ⟨fun _ => ⟨_, _, decode_eq_malformedNumber length_body ?_⟩, by simp⟩
      exact fun complement => differ ((UInt8.sub_right_inj 255).mp complement)
  | [_, _], _ =>
      simp only [List.cons_append, List.nil_append, List.cons.injEq] at same
      obtain ⟨rfl, rfl, rfl, rfl⟩ := same
      exact ⟨fun _ => ⟨_, _, decode_eq_malformedNumber length_body differ.symm⟩, by simp⟩
  | _ :: _ :: _ :: front, _ =>
      have refused (wrong : Block) :
          decode mode (_ :: _ :: _ :: front ++ other :: after) ≠ .ok wrong := fun read =>
        differ (encode_replace (by simp) written (encode_of_decode read))
      simp only [List.cons_append, List.cons.injEq] at same
      obtain ⟨rfl, rfl, rfl, body⟩ := same
      have length_after : (front ++ other :: after).length = blockSize + mode.checksumLength := by
        rw [← length_body, body]
        simp
      refine ⟨fun few => ?_, fun _ => decode_eq_checksumMismatch length_after refused⟩
      simp only [List.length_cons] at few
      omega

theorem decode_of_inverted {raw : List UInt8} {pattern : List Bool}
    (head : raw.take 3 = (encode .crc16 block).take 3)
    (inverted : Inverted pattern ((encode .crc16 block).drop 3) (raw.drop 3))
    (set : true ∈ pattern) (noticeable : Noticeable pattern) :
    decode .crc16 raw = .error (.checksumMismatch block.number) := by
  have body : (encode .crc16 block).drop 3 =
      block.payload ++ Checksum.bytes .crc16 block.payload := by
    rw [encode_eq_cons]
    rfl
  have length_body : (block.payload ++ Checksum.bytes .crc16 block.payload).length = 130 := by
    rw [List.length_append, block.length_payload, Checksum.length_bytes]
    rfl
  rw [body] at inverted
  have marks : pattern.length = 1040 := by
    rw [inverted.length_eq, Checksum.length_bits, length_body]
  have length_rest : (raw.drop 3).length = 130 := by
    have places := congrArg List.length inverted.bits_eq
    rw [List.length_zipWith, ← inverted.length_eq, Nat.min_self, marks,
      Checksum.length_bits] at places
    omega
  have whole : raw = startOfBlock :: block.number :: (255 - block.number) :: raw.drop 3 := by
    rw [encode_eq_cons] at head
    conv => lhs; rw [← List.take_append_drop 3 raw, head]
    rfl
  rw [whole]
  refine decode_eq_checksumMismatch length_rest fun other read => ?_
  have written := encode_of_decode read
  rw [encode_eq_cons] at written
  simp only [List.cons.injEq] at written
  rw [← written.2.2.2] at inverted
  exact Checksum.not_divisor_dvd_of_noticeable set (Nat.le_of_eq marks) noticeable
    (Checksum.divisor_dvd_of_inverted inverted)

/-- A frame with one replaced byte behind the first one is refused, and so is one with a redundancy
code in whose payload and code inverted bits lie within sixteen consecutive ones, are odd in number,
or are exactly two. -/
theorem errors_detected (block : Block) :
    (∀ mode raw place, place ≠ 0 → ReplacedAt place (encode mode block) raw →
      (place < 3 → ∃ number complement,
          decode mode raw = .error (.malformedNumber number complement)) ∧
        (3 ≤ place → decode mode raw = .error (.checksumMismatch block.number))) ∧
    ∀ raw pattern, raw.take 3 = (encode .crc16 block).take 3 →
      Inverted pattern ((encode .crc16 block).drop 3) (raw.drop 3) → true ∈ pattern →
      Burst 16 pattern ∨ Odd (pattern.count true) ∨ pattern.count true = 2 →
      decode .crc16 raw = .error (.checksumMismatch block.number) := by
  constructor
  · intro mode raw place behind replaced
    exact decode_of_replacedAt behind replaced
  · intro raw pattern head inverted set noticeable
    exact decode_of_inverted head inverted set noticeable

/-- The complement of a number is replaced, sixteen bits across the end of the payload are inverted,
and so are the first bit of the payload and the last one of the code. -/
theorem errors_detected_of_three_bytes :
    let block := Packets.block [1, 2, 3] 0
    let frame := encode .crc16 block
    let burst : List UInt8 := List.replicate 127 0 ++ [0xFF, 0xFF] ++ [0]
    let across := frame.take 3 ++ List.zipWith (· ^^^ ·) (frame.drop 3) burst
    let two : List UInt8 := 0x80 :: List.replicate 128 0 ++ [1]
    let apart := frame.take 3 ++ List.zipWith (· ^^^ ·) (frame.drop 3) two
    (ReplacedAt 2 frame (frame.set 2 0) ∧
      ∃ number complement,
        decode .crc16 (frame.set 2 0) = .error (.malformedNumber number complement)) ∧
    (Inverted (Checksum.bits burst) (frame.drop 3) (across.drop 3) ∧
      Burst 16 (Checksum.bits burst) ∧
      decode .crc16 across = .error (.checksumMismatch block.number)) ∧
    Inverted (Checksum.bits two) (frame.drop 3) (apart.drop 3) ∧
      (Checksum.bits two).count true = 2 ∧
      decode .crc16 apart = .error (.checksumMismatch block.number) := by
  intro block frame burst across two apart
  obtain ⟨detects_replaced, detects_inverted⟩ := errors_detected block
  have three : (frame.take 3).length = 3 := by decide +kernel
  have head (rest : List UInt8) : (frame.take 3 ++ rest).take 3 = frame.take 3 :=
    List.take_left' three
  have body (rest : List UInt8) : (frame.take 3 ++ rest).drop 3 = rest := List.drop_left' three
  have replaced : ReplacedAt 2 frame (frame.set 2 0) :=
    ⟨List.length_set, fun _ other => List.getElem?_set_ne other.symm, by decide +kernel⟩
  have across_inverted : Inverted (Checksum.bits burst) (frame.drop 3) (across.drop 3) := by
    rw [body]
    exact inverted_xor (by decide +kernel)
  have across_burst : Burst 16 (Checksum.bits burst) := by
    refine ⟨Checksum.bits (List.replicate 127 0), Checksum.bits [0xFF, 0xFF], Checksum.bits [0],
      ?_, by decide, by decide +kernel, by decide⟩
    simp only [burst, Checksum.bits_append]
  have apart_inverted : Inverted (Checksum.bits two) (frame.drop 3) (apart.drop 3) := by
    rw [body]
    exact inverted_xor (by decide +kernel)
  have apart_two : (Checksum.bits two).count true = 2 := by decide +kernel
  exact ⟨⟨replaced, (detects_replaced .crc16 _ 2 (by decide) replaced).1 (by decide)⟩,
    ⟨across_inverted, across_burst,
      detects_inverted across _ (head _) across_inverted (by decide +kernel) (.inl across_burst)⟩,
    apart_inverted, apart_two,
    detects_inverted apart _ (head _) apart_inverted (by decide +kernel) (.inr (.inr apart_two))⟩

end Frame
end Xmodem
