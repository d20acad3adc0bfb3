import Mathlib.Algebra.CharP.Two
import Mathlib.Algebra.Field.ZMod
import Mathlib.Algebra.Polynomial.FieldDivision
import Mathlib.Tactic.LinearCombination
import Xmodem.Proofs.Detection

/-!
# Redundancy codes as remainders

The bits of some data are the coefficients of a polynomial over two elements.  A shift of the
register multiplies by the unknown, up to a multiple of the divisor, and so the redundancy code is
what data times `X ^ 16` leaves behind: data followed by its code is a multiple of the divisor.
-/

open Polynomial

namespace Xmodem.Checksum

/-- The bits of a word, most significant bit first. -/
def wordBits {width : Nat} (word : BitVec width) : List Bool :=
  List.ofFn fun place : Fin width => word.getMsbD place

/-- The bits of some data, most significant bit first. -/
def bits (data : List UInt8) : List Bool :=
  data.flatMap fun byte => wordBits byte.toBitVec

/-- The polynomial over two elements with some coefficients, highest degree first. -/
noncomputable def toPolynomial : List Bool → (ZMod 2)[X]
  | [] => 0
  | bit :: rest => (if bit then X ^ rest.length else 0) + toPolynomial rest

/-- The generator as a polynomial, with its leading term. -/
noncomputable def divisor : (ZMod 2)[X] :=
  X ^ 16 + X ^ 12 + X ^ 5 + 1

section Bits

@[simp]
theorem length_wordBits {width : Nat} (word : BitVec width) : (wordBits word).length = width :=
  List.length_ofFn

theorem wordBits_xor {width : Nat} (first second : BitVec width) :
    wordBits (first ^^^ second) = List.zipWith xor (wordBits first) (wordBits second) := by
  apply List.ext_getElem
  · simp
  · intro place _ _
    simp [wordBits]

theorem wordBits_append {high low : Nat} (front : BitVec high) (back : BitVec low) :
    wordBits (front ++ back) = wordBits front ++ wordBits back := by
  apply List.ext_getElem
  · simp
  · intro place _ _
    simp only [wordBits, List.getElem_ofFn, List.getElem_append, List.length_ofFn,
      BitVec.getMsbD_append]
    split <;> split <;> first | rfl | omega

theorem wordBits_eq_cons (register : BitVec 16) :
    wordBits register = register.msb :: (wordBits register).tail := by
  simp [wordBits, List.ofFn_succ, BitVec.getMsbD, BitVec.msb]

theorem wordBits_shiftLeft_one (register : BitVec 16) :
    wordBits (register <<< 1) = (wordBits register).tail ++ [false] := by
  apply List.ext_getElem
  · simp
  · intro place inside _
    simp [wordBits] at inside ⊢

/-- A byte at the high end of a register. -/
theorem wordBits_setWidth_shiftLeft (byte : UInt8) :
    wordBits (byte.toBitVec.setWidth 16 <<< 8) =
      wordBits byte.toBitVec ++ List.replicate 8 false := by
  apply List.ext_getElem
  · simp
  · intro place inside _
    simp [wordBits] at inside ⊢

theorem eq_zero_of_unset {width : Nat} {word : BitVec width} (unset : true ∉ wordBits word) :
    word = 0 := by
  apply BitVec.eq_of_getMsbD_eq
  intro place inside
  have clear : word.getMsbD place ≠ true := fun set =>
    unset (List.mem_ofFn.mpr ⟨⟨place, inside⟩, set⟩)
  simpa using clear

@[simp]
theorem bits_append (front back : List UInt8) : bits (front ++ back) = bits front ++ bits back :=
  List.flatMap_append

@[simp]
theorem length_bits (data : List UInt8) : (bits data).length = 8 * data.length := by
  induction data with
  | nil => rfl
  | cons byte data induction =>
      have front : bits (byte :: data) = wordBits byte.toBitVec ++ bits data := rfl
      rw [front, List.length_append, length_wordBits, induction, List.length_cons]
      omega

theorem bits_bytes (payload : List UInt8) :
    bits (bytes .crc16 payload) = wordBits (crc16 payload) := by
  have halves (code : BitVec 16) :
      code.extractLsb' 8 8 ++ code.extractLsb' 0 8 = code := by
    apply BitVec.eq_of_getLsbD_eq
    intro place inside
    rw [BitVec.getLsbD_append]
    simp only [BitVec.getLsbD_extractLsb']
    grind
  simp only [bits, bytes, List.flatMap_cons, List.flatMap_nil, List.append_nil]
  rw [← wordBits_append]
  exact congrArg wordBits (halves _)

end Bits

section Polynomials

theorem toPolynomial_append (front back : List Bool) :
    toPolynomial (front ++ back) = toPolynomial front * X ^ back.length + toPolynomial back := by
  induction front with
  | nil => simp [toPolynomial]
  | cons bit front induction =>
      simp only [List.cons_append, toPolynomial, List.length_append, induction, pow_add]
      split <;> ring

theorem toPolynomial_xor {first second : List Bool} (same : first.length = second.length) :
    toPolynomial (List.zipWith xor first second) = toPolynomial first + toPolynomial second := by
  induction first generalizing second with
  | nil =>
      obtain rfl := List.length_eq_zero_iff.mp same.symm
      simp [toPolynomial]
  | cons bit first induction =>
      obtain ⟨other, second, rfl⟩ := List.exists_cons_of_length_eq_add_one same.symm
      have rest : first.length = second.length := Nat.succ.inj same
      have cancels := CharTwo.add_self_eq_zero (X ^ second.length : (ZMod 2)[X])
      simp only [List.zipWith_cons_cons, toPolynomial, List.length_zipWith, rest, Nat.min_self,
        induction rest]
      cases bit <;> cases other <;> simp only [Bool.xor_false, Bool.xor_true, Bool.not_false,
        Bool.not_true, Bool.false_eq_true, if_true, if_false]
      · ring
      · ring
      · ring
      · linear_combination -cancels

theorem toPolynomial_of_unset {pattern : List Bool} (unset : true ∉ pattern) :
    toPolynomial pattern = 0 := by
  induction pattern with
  | nil => rfl
  | cons bit pattern induction =>
      simp only [List.mem_cons, not_or] at unset
      have clear : bit = false := by simpa using Ne.symm unset.1
      simp [toPolynomial, clear, induction unset.2]

theorem degree_toPolynomial_lt (pattern : List Bool) :
    (toPolynomial pattern).degree < pattern.length := by
  induction pattern with
  | nil => simp [toPolynomial]
  | cons bit pattern induction =>
      have longer : (pattern.length : WithBot Nat) < (bit :: pattern).length := by
        exact_mod_cast Nat.lt_succ_self pattern.length
      refine (degree_add_le _ _).trans_lt (max_lt ?_ (induction.trans longer))
      split
      · rwa [degree_X_pow]
      · simp

theorem toPolynomial_ne_zero {pattern : List Bool} (set : true ∈ pattern) :
    toPolynomial pattern ≠ 0 := by
  induction pattern with
  | nil => exact absurd set List.not_mem_nil
  | cons bit pattern induction =>
      cases bit with
      | false => simpa [toPolynomial] using induction (by simpa using set)
      | true =>
          have below :
              (toPolynomial pattern).degree < (X ^ pattern.length : (ZMod 2)[X]).degree := by
            rw [degree_X_pow]
            exact degree_toPolynomial_lt pattern
          have leading := degree_add_eq_left_of_degree_lt below
          intro zero
          rw [show X ^ pattern.length + toPolynomial pattern = 0 from zero, degree_X_pow,
            degree_zero] at leading
          exact absurd leading nofun

theorem eval_one_toPolynomial (pattern : List Bool) :
    (toPolynomial pattern).eval 1 = (pattern.count true : ZMod 2) := by
  induction pattern with
  | nil => simp [toPolynomial]
  | cons bit pattern induction =>
      cases bit <;> simp [toPolynomial, induction, add_comm]

end Polynomials

theorem divisor_eq : divisor = X ^ 16 + toPolynomial (wordBits generator) := by
  have set : wordBits generator = [false, false, false, true, false, false, false, false,
      false, false, true, false, false, false, false, true] := by decide
  simp only [set, toPolynomial, divisor, List.length_cons, List.length_nil, Bool.false_eq_true,
    if_true, if_false]
  ring

theorem degree_divisor : divisor.degree = 16 := by
  have below := degree_toPolynomial_lt (wordBits generator)
  rw [length_wordBits] at below
  rw [divisor_eq, degree_add_eq_left_of_degree_lt (by rwa [degree_X_pow]), degree_X_pow]
  rfl

theorem degree_lt_degree_divisor {pattern : List Bool} (short : pattern.length ≤ 16) :
    (toPolynomial pattern).degree < divisor.degree := by
  rw [degree_divisor]
  exact (degree_toPolynomial_lt pattern).trans_le (by exact_mod_cast short)

/-- A shift multiplies by the unknown. -/
theorem divisor_dvd_shift (register : BitVec 16) :
    divisor ∣ toPolynomial (wordBits (shift generator register)) -
      X * toPolynomial (wordBits register) := by
  have moved : toPolynomial (wordBits (register <<< 1)) =
      toPolynomial (wordBits register).tail * X := by
    rw [wordBits_shiftLeft_one, toPolynomial_append]
    simp [toPolynomial]
  have leading : toPolynomial (wordBits register) =
      (if register.msb then X ^ 15 else 0) + toPolynomial (wordBits register).tail := by
    rw [wordBits_eq_cons, toPolynomial, List.tail_cons, List.length_tail, length_wordBits]
  unfold shift
  split
  · rename_i set
    rw [wordBits_xor, toPolynomial_xor (by simp), moved, leading, if_pos set]
    refine ⟨1, ?_⟩
    rw [divisor_eq]
    linear_combination -(CharTwo.add_self_eq_zero (X ^ 16 : (ZMod 2)[X]))
  · rename_i clear
    rw [moved, leading, if_neg clear]
    exact ⟨0, by ring⟩

theorem divisor_dvd_repeat_shift (register : BitVec 16) (count : Nat) :
    divisor ∣ toPolynomial (wordBits (Nat.repeat (shift generator) count register)) -
      X ^ count * toPolynomial (wordBits register) := by
  induction count with
  | zero => simp [Nat.repeat]
  | succ count induction =>
      have next := divisor_dvd_shift (Nat.repeat (shift generator) count register)
      refine (next.add (induction.mul_left X)).trans (dvd_of_eq ?_)
      rw [Nat.repeat]
      ring

theorem divisor_dvd_feed (register : BitVec 16) (byte : UInt8) :
    divisor ∣ toPolynomial (wordBits (feed generator register byte)) -
      (X ^ 8 * toPolynomial (wordBits register) + X ^ 16 * toPolynomial (bits [byte])) := by
  have fed := divisor_dvd_repeat_shift (register ^^^ (byte.toBitVec.setWidth 16 <<< 8)) 8
  have unset : true ∉ List.replicate 8 false := by decide
  have added : toPolynomial (wordBits (register ^^^ (byte.toBitVec.setWidth 16 <<< 8))) =
      toPolynomial (wordBits register) + toPolynomial (bits [byte]) * X ^ 8 := by
    rw [wordBits_xor, toPolynomial_xor (by simp), wordBits_setWidth_shiftLeft,
      toPolynomial_append, toPolynomial_of_unset unset]
    simp [bits]
  rw [added] at fed
  refine fed.trans (dvd_of_eq ?_)
  rw [feed]
  ring

/-- The redundancy code is what the data leave behind when multiples of the divisor are taken
out. -/
theorem divisor_dvd_crc16 (data : List UInt8) :
    divisor ∣ toPolynomial (wordBits (crc16 data)) - X ^ 16 * toPolynomial (bits data) := by
  induction data using List.reverseRecOn with
  | nil =>
      have clear : toPolynomial (wordBits (crc16 [])) = 0 := toPolynomial_of_unset (by decide)
      simp [clear, bits, toPolynomial]
  | append_singleton data byte induction =>
      have next := divisor_dvd_feed (crc16 data) byte
      have fed : crc16 (data ++ [byte]) = feed generator (crc16 data) byte := by
        rw [crc16, crc_append]
        rfl
      have eight : (bits [byte]).length = 8 := length_bits [byte]
      refine (next.add (induction.mul_left (X ^ 8))).trans (dvd_of_eq ?_)
      rw [fed, bits_append, toPolynomial_append, eight]
      ring

/-- A payload with its redundancy code is a multiple of the divisor. -/
theorem divisor_dvd_guarded (payload : List UInt8) :
    divisor ∣ toPolynomial (bits (payload ++ bytes .crc16 payload)) := by
  have sixteen : (wordBits (crc16 payload)).length = 16 := length_wordBits _
  rw [bits_append, bits_bytes, toPolynomial_append, sixteen]
  refine (divisor_dvd_crc16 payload).trans (dvd_of_eq ?_)
  rw [CharTwo.sub_eq_add]
  ring

end Xmodem.Checksum
