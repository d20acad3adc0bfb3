import Xmodem.Checksum.Wide
import Xmodem.Proofs.ErrorPatterns

/-!
# The redundancy code of some data

As a polynomial, the code is the remainder of the data times `X ^ 16` modulo the divisor.  So data
followed by their code have the code zero, and the code of a sum is the sum of the codes.  With any
generator and any initial register the code fits into sixteen bits, and data may be fed piece by
piece.
-/

open Polynomial

namespace Xmodem.Checksum

theorem divisor_monic : divisor.Monic := by
  have below := degree_toPolynomial_lt (wordBits generator)
  rw [length_wordBits] at below
  rw [divisor_eq]
  exact monic_X_pow_add below

theorem eq_of_toPolynomial_eq {width : Nat} {first second : BitVec width}
    (same : toPolynomial (wordBits first) = toPolynomial (wordBits second)) : first = second := by
  have difference : toPolynomial (wordBits (first ^^^ second)) = 0 := by
    rw [wordBits_xor, toPolynomial_xor (by simp), same, CharTwo.add_self_eq_zero]
  have unset : true ∉ wordBits (first ^^^ second) := fun set => toPolynomial_ne_zero set difference
  exact BitVec.xor_eq_zero_iff.mp (eq_zero_of_unset unset)

/-- The code is the remainder of a division by the divisor. -/
theorem toPolynomial_crc16 (data : List UInt8) :
    toPolynomial (wordBits (crc16 data)) = (toPolynomial (bits data) * X ^ 16) %ₘ divisor := by
  have below := degree_lt_degree_divisor (length_wordBits (crc16 data)).le
  calc
    toPolynomial (wordBits (crc16 data)) = toPolynomial (wordBits (crc16 data)) %ₘ divisor :=
      ((modByMonic_eq_self_iff divisor_monic).mpr below).symm
    _ = (X ^ 16 * toPolynomial (bits data)) %ₘ divisor :=
      modByMonic_eq_of_dvd_sub divisor_monic (divisor_dvd_crc16 data)
    _ = (toPolynomial (bits data) * X ^ 16) %ₘ divisor := by rw [mul_comm]

example : crc16 [0x31, 0x32, 0x33, 0x34, 0x35, 0x36, 0x37, 0x38, 0x39] = 0x31C3 := by
  decide +kernel

theorem crc16_eq_zero_of_dvd {data : List UInt8} (divides : divisor ∣ toPolynomial (bits data)) :
    crc16 data = 0 := by
  have remainder := toPolynomial_crc16 data
  rw [(modByMonic_eq_zero_iff_dvd divisor_monic).mpr (divides.mul_right _)] at remainder
  exact eq_zero_of_unset fun set => toPolynomial_ne_zero set remainder

/-- The code of bytes added without carry is the sum of their codes. -/
theorem crc16_xor {first second : List UInt8} (same : first.length = second.length) :
    crc16 (List.zipWith (· ^^^ ·) first second) = crc16 first ^^^ crc16 second := by
  have added : toPolynomial (bits (List.zipWith (· ^^^ ·) first second)) =
      toPolynomial (bits first) + toPolynomial (bits second) := by
    rw [(inverted_xor same.symm).bits_eq, toPolynomial_xor (by simp [same])]
  apply eq_of_toPolynomial_eq
  rw [wordBits_xor, toPolynomial_xor (by simp)]
  simp only [toPolynomial_crc16, added, add_mul, add_modByMonic]

/-- The two bytes of a code are its value, higher byte first. -/
theorem exists_bytes (data : List UInt8) :
    ∃ high low : UInt8, bytes .crc16 data = [high, low] ∧
      (crc16 data).toNat = 256 * high.toNat + low.toNat := by
  refine ⟨_, _, rfl, ?_⟩
  have high_eq : (UInt8.ofBitVec ((crc16 data).extractLsb' 8 8)).toNat =
      (crc16 data).toNat / 256 % 256 := by
    simp [Nat.shiftRight_eq_div_pow]
  have low_eq : (UInt8.ofBitVec ((crc16 data).extractLsb' 0 8)).toNat =
      (crc16 data).toNat % 256 := by
    simp
  have small := (crc16 data).isLt
  omega

namespace Wide

theorem word_ofInt_toNat (word : BitVec 16) : (ofInt word.toNat).word = word := by
  simp [ofInt]

theorem excess_ofInt_toNat (word : BitVec 16) : (ofInt word.toNat).excess = 0 := by
  have small := word.isLt
  simp only [ofInt]
  rw [Int.fdiv_eq_ediv_of_nonneg _ (by decide)]
  omega

theorem crc_eq_toNat (polynomial initial : BitVec 16) (data : List UInt8) :
    crc polynomial.toNat initial.toNat data = (Checksum.crc polynomial initial data).toNat := by
  have narrow := excess_foldl_feed (excess_ofInt_toNat polynomial) (excess_ofInt_toNat initial) data
  have word := word_foldl_feed (ofInt polynomial.toNat) (ofInt initial.toNat) data
  rw [word_ofInt_toNat, word_ofInt_toNat] at word
  rw [crc, toInt, narrow, word, Int.zero_mul, Int.zero_add]

/-- With parameters of sixteen bits, feeding two pieces of data is feeding one after the other. -/
theorem crc_append (polynomial initial : BitVec 16) (front back : List UInt8) :
    crc polynomial.toNat initial.toNat (front ++ back) =
      crc polynomial.toNat (crc polynomial.toNat initial.toNat front) back := by
  rw [crc_eq_toNat, Checksum.crc_append, crc_eq_toNat, crc_eq_toNat]

end Wide

/-- The code of sixteen bits is the remainder of the data times `X ^ 16` modulo
`X ^ 16 + X ^ 12 + X ^ 5 + 1`.  Data with their code have the code zero, sums of data have the sum
of the codes, and the code fits into its two bytes.  Whatever the generator and the initial
register, the code stays below `2 ^ 16` and can be computed piece by piece. -/
theorem crc_is_remainder :
    (∀ data : List UInt8,
      Wide.crc 0x1021 0 data = (crc16 data).toNat ∧
      toPolynomial (wordBits (crc16 data)) = (toPolynomial (bits data) * X ^ 16) %ₘ divisor ∧
      crc16 (data ++ bytes .crc16 data) = 0 ∧
      ∃ high low : UInt8, bytes .crc16 data = [high, low] ∧
        Wide.crc 0x1021 0 data = 256 * high.toNat + low.toNat) ∧
    (∀ first second : List UInt8, first.length = second.length →
      crc16 (List.zipWith (· ^^^ ·) first second) = crc16 first ^^^ crc16 second) ∧
    ∀ (polynomial initial : BitVec 16) (front back : List UInt8),
      0 ≤ Wide.crc polynomial.toNat initial.toNat front ∧
      Wide.crc polynomial.toNat initial.toNat front ≤ 0xFFFF ∧
      Wide.crc polynomial.toNat initial.toNat (front ++ back) =
        Wide.crc polynomial.toNat (Wide.crc polynomial.toNat initial.toNat front) back := by
  refine ⟨fun data => ⟨Wide.crc_eq_crc16 data, toPolynomial_crc16 data,
    crc16_eq_zero_of_dvd (divisor_dvd_guarded data), ?_⟩, fun first second same => crc16_xor same,
    fun polynomial initial front back => ⟨?_, ?_, Wide.crc_append polynomial initial front back⟩⟩
  · obtain ⟨high, low, bytes_eq, value_eq⟩ := exists_bytes data
    refine ⟨high, low, bytes_eq, ?_⟩
    rw [Wide.crc_eq_crc16, value_eq]
    push_cast
    rfl
  · rw [Wide.crc_eq_toNat]
    exact Int.natCast_nonneg _
  · have small := (crc polynomial initial front).isLt
    rw [Wide.crc_eq_toNat]
    omega

/-- The codes of two pairs of bytes, and of their sum. -/
theorem crc_is_remainder_of_two_bytes :
    [1, 2].length = [3, 4].length ∧ crc16 [2, 6] = crc16 [1, 2] ^^^ crc16 [3, 4] :=
  ⟨rfl, crc_is_remainder.2.1 [1, 2] [3, 4] rfl⟩

end Xmodem.Checksum
