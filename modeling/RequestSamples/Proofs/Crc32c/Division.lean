import Mathlib.Algebra.Field.ZMod
import Mathlib.Algebra.Polynomial.Div
import Mathlib.Algebra.Polynomial.OfFn
import Mathlib.Tactic.LinearCombination
import RequestSamples.Proofs.Crc32c.Register

/-!
# The checksum as a remainder

Bits are the coefficients of a polynomial over the field of two elements.  A shift of the register multiplies its
polynomial, read from the other end, by `X` and takes the divisor away where the degree would be 32
(`X_mul_reflected`).  So the register is congruent to what has been fed to it, multiplied by `X ^ 32`, and to what it
held before, moved up in front of that (`dvd_feed`).  A polynomial of a degree below 32 is its own remainder; hence the
main fact, `checksum_is_remainder`.
-/

namespace RequestSamples.Crc32c

open Polynomial

/-- A bit as an element of the field of two elements. -/
def coefficient (d : Bool) : ZMod 2 := if d then 1 else 0

/-- The polynomial of some bits, of which the last is the constant coefficient. -/
noncomputable def ofBits : List Bool → (ZMod 2)[X]
  | [] => 0
  | d :: ds => C (coefficient d) * X ^ ds.length + ofBits ds

/-- The polynomial of a word, of which the least significant bit is the constant coefficient. -/
noncomputable def ofWord (r : BitVec 32) : (ZMod 2)[X] := ofFn 32 fun i => coefficient (r.getLsbD i)

/-- The word of the coefficients below `X ^ 32`, of which the constant one is the least significant bit. -/
noncomputable def toWord (p : (ZMod 2)[X]) : BitVec 32 := word ((List.range 32).map fun i => p.coeff i = 1)

/-- The polynomial of Castagnoli. -/
noncomputable def castagnoli : (ZMod 2)[X] := X ^ 32 + ofWord 0x1EDC6F41#32

/-- What is divided for the checksum of a byte string: its bits moved up by 32, and 32 ones in the first places. -/
noncomputable def dividend (bs : Bytes) : (ZMod 2)[X] :=
  ofBits bs.bits * X ^ 32 + ofWord (BitVec.allOnes 32) * X ^ bs.bits.length

private theorem coefficient_xor (d e : Bool) : coefficient (xor d e) = coefficient d + coefficient e := by
  cases d <;> cases e <;> rfl

private theorem coeff_ofWord (r : BitVec 32) (i : Nat) : (ofWord r).coeff i = coefficient (r.getLsbD i) := by
  by_cases h : i < 32
  · exact ofFn_coeff_eq_val_of_lt _ h
  · rw [ofWord, ofFn_coeff_eq_zero_of_ge _ (by omega), BitVec.getLsbD_of_ge r i (by omega)]
    rfl

private theorem toWord_ofWord (r : BitVec 32) : toWord (ofWord r) = r := by
  apply BitVec.eq_of_getLsbD_eq
  intro i hi
  have hone : ∀ d : Bool, decide (coefficient d = 1) = d := by decide
  rw [toWord, getLsbD_word]
  simp [hi, coeff_ofWord, hone]

private theorem degree_ofWord_lt (r : BitVec 32) : (ofWord r).degree < (32 : Nat) := ofFn_degree_lt _

private theorem castagnoli_monic : castagnoli.Monic := monic_X_pow_add (degree_ofWord_lt _)

private theorem degree_castagnoli : castagnoli.degree = (32 : Nat) := by
  have h : (ofWord 0x1EDC6F41#32).degree < ((X : (ZMod 2)[X]) ^ 32).degree := by
    rw [degree_X_pow]
    exact degree_ofWord_lt _
  rw [castagnoli, degree_add_eq_left_of_degree_lt h, degree_X_pow]

/-- The polynomial of a register, of which the most significant bit is the constant coefficient. -/
noncomputable def reflected (r : BitVec 32) : (ZMod 2)[X] := ofWord r.reverse

theorem reverse_reverse (r : BitVec 32) : r.reverse.reverse = r := by
  apply BitVec.eq_of_getLsbD_eq
  intro i hi
  have hback : 32 - 1 - (32 - 1 - i) = i := by omega
  rw [BitVec.getLsbD_reverse, BitVec.getMsbD_eq_getLsbD, BitVec.getLsbD_reverse, BitVec.getMsbD_eq_getLsbD, hback]
  simp [hi, show 32 - 1 - i < 32 by omega]

private theorem coeff_reflected (r : BitVec 32) (i : Nat) :
    (reflected r).coeff i = coefficient (decide (i < 32) && r.getLsbD (31 - i)) := by
  rw [reflected, coeff_ofWord, BitVec.getLsbD_reverse, BitVec.getMsbD_eq_getLsbD]

private theorem reflected_xor (r q : BitVec 32) : reflected (r ^^^ q) = reflected r + reflected q := by
  ext i
  rw [coeff_add, coeff_reflected, coeff_reflected, coeff_reflected, BitVec.getLsbD_xor, ← coefficient_xor]
  cases decide (i < 32) <;> rfl

private theorem reflected_add_self (r : BitVec 32) : reflected r + reflected r = 0 := by
  ext i
  rw [← reflected_xor, BitVec.xor_self, coeff_reflected, BitVec.getLsbD_zero, Bool.and_false]
  rfl

/-- A bit that is fed to the register comes in at its highest power. -/
private theorem reflected_bit (d : Bool) : reflected (bit d) = C (coefficient d) * X ^ 31 := by
  ext i
  rw [coeff_reflected, coeff_C_mul_X_pow, getLsbD_bit]
  by_cases h : i = 31
  · subst h
    rfl
  · rw [if_neg h]
    by_cases hi : i < 32
    · have hne : ¬ 31 - i = 0 := by omega
      simp [hne, coefficient]
    · simp [hi, coefficient]

private theorem castagnoli_eq : castagnoli = X ^ 32 + reflected divisor := by
  have hreverse : divisor.reverse = 0x1EDC6F41#32 := by decide +kernel
  rw [castagnoli, reflected, hreverse]

private theorem X_mul_reflected_ushiftRight (r : BitVec 32) :
    X * reflected r = reflected (r >>> 1) + C (coefficient (r.getLsbD 0)) * X ^ 32 := by
  ext i
  rw [coeff_add, coeff_C_mul_X_pow, coeff_reflected, BitVec.getLsbD_ushiftRight]
  cases i with
  | zero =>
    rw [coeff_X_mul_zero, BitVec.getLsbD_of_ge r _ (by omega)]
    rfl
  | succ i =>
    rw [coeff_X_mul, coeff_reflected]
    rcases Nat.lt_trichotomy i 31 with h | rfl | h
    · have hi : 1 + (31 - (i + 1)) = 31 - i := by omega
      rw [hi]
      simp [show i < 32 by omega, show i + 1 < 32 by omega, show i + 1 ≠ 32 by omega]
    · simp [coefficient]
    · simp [show ¬ i < 32 by omega, show ¬ i + 1 < 32 by omega, show i + 1 ≠ 32 by omega]

/-- A shift multiplies by `X` and takes the divisor away where the bit that leaves the register is set. -/
theorem X_mul_reflected (r : BitVec 32) :
    X * reflected r = reflected (shift r) + C (coefficient (r.getLsbD 0)) * castagnoli := by
  rw [X_mul_reflected_ushiftRight, castagnoli_eq, shift]
  cases r.getLsbD 0 with
  | false => simp [coefficient]
  | true =>
    have hone : C (coefficient true) = (1 : (ZMod 2)[X]) := C_1
    rw [if_pos rfl, reflected_xor, hone]
    linear_combination -reflected_add_self divisor

/-- The register is congruent to the bits that have been fed to it, multiplied by `X ^ 32`, and to what it held before
them, which is moved up by their number. -/
theorem dvd_feed (r : BitVec 32) (ds : List Bool) :
    castagnoli ∣ reflected (feed r ds) - (ofBits ds * X ^ 32 + reflected r * X ^ ds.length) := by
  induction ds generalizing r with
  | nil =>
    have hzero : reflected (feed r []) - (ofBits [] * X ^ 32 + reflected r * X ^ ([] : List Bool).length) = 0 := by
      show reflected r - (0 * X ^ 32 + reflected r * X ^ 0) = 0
      ring
    rw [hzero]
    exact dvd_zero _
  | cons d ds ih =>
    have hfeed : feed r (d :: ds) = feed (shift (r ^^^ bit d)) ds := rfl
    have hshift := X_mul_reflected (r ^^^ bit d)
    rw [reflected_xor, reflected_bit] at hshift
    -- The divisor that this shift takes away has been moved up with the register by the bits behind it.
    have htaken : castagnoli ∣ C (coefficient ((r ^^^ bit d).getLsbD 0)) * castagnoli * X ^ ds.length :=
      (dvd_mul_left _ _).mul_right _
    have hsplit : reflected (feed r (d :: ds)) - (ofBits (d :: ds) * X ^ 32 + reflected r * X ^ (d :: ds).length) =
        reflected (feed (shift (r ^^^ bit d)) ds) -
            (ofBits ds * X ^ 32 + reflected (shift (r ^^^ bit d)) * X ^ ds.length) -
          C (coefficient ((r ^^^ bit d).getLsbD 0)) * castagnoli * X ^ ds.length := by
      rw [hfeed, ofBits, List.length_cons, pow_succ]
      linear_combination -(X ^ ds.length) * hshift
    rw [hsplit]
    exact dvd_sub (ih _) htaken

private theorem reflected_register (bs : Bytes) : reflected (~~~checksum bs) = dividend bs %ₘ castagnoli := by
  have hones : reflected (~~~0#32) = ofWord (BitVec.allOnes 32) := by
    have hreverse : (~~~0#32).reverse = BitVec.allOnes 32 := by decide +kernel
    rw [reflected, hreverse]
  have hregister : ~~~checksum bs = feed (~~~0#32) bs.bits := by rw [checksum, BitVec.not_not, foldl_update]
  have hsmall : (reflected (~~~checksum bs)).degree < castagnoli.degree := by
    rw [degree_castagnoli]
    exact degree_ofWord_lt _
  have hdvd := dvd_feed (~~~0#32) bs.bits
  rw [← hregister, hones] at hdvd
  calc reflected (~~~checksum bs) = reflected (~~~checksum bs) %ₘ castagnoli :=
        ((modByMonic_eq_self_iff castagnoli_monic).mpr hsmall).symm
    _ = dividend bs %ₘ castagnoli := modByMonic_eq_of_dvd_sub castagnoli_monic hdvd

/-- The checksum is below `2 ^ 32`, and it is the reflected and complemented remainder of a division over the field of
two elements: of the bits of the byte string, those of each byte from the least significant on, moved up by 32, with
32 ones added in the first places, by the polynomial of Castagnoli, which has degree 32 and leading coefficient one. -/
theorem checksum_is_remainder (bs : Bytes) :
    (checksum bs).toNat < 2 ^ 32 ∧ castagnoli.Monic ∧ castagnoli.degree = (32 : Nat) ∧
      checksum bs = ~~~(toWord (dividend bs %ₘ castagnoli)).reverse := by
  refine ⟨(checksum bs).isLt, castagnoli_monic, degree_castagnoli, ?_⟩
  rw [← reflected_register, reflected, toWord_ofWord, reverse_reverse, BitVec.not_not]

example : checksum [0x31, 0x32, 0x33, 0x34, 0x35, 0x36, 0x37, 0x38, 0x39] = 0xE3069283#32 := by decide +kernel

end RequestSamples.Crc32c
