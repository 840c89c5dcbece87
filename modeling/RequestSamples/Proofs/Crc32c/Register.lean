import RequestSamples.Bytes.Crc32c

/-!
# The checksum register, bit by bit

* (linearity) a shift of the register is linear in exclusive or, and so are several (`shifts_xor`);
* (nothing is lost) the divisor has its highest bit set, so only the zero register is shifted to zero
  (`shifts_eq_zero`);
* (bytes are bits) the table look-up for a byte is eight shifts of the register with the byte added to it, so a
  byte string feeds its bits to the register one after the other (`foldl_update`);
* (words) up to 32 bits fed to the register are one word added to it and as many shifts (`feed_eq_shifts`).
-/

namespace RequestSamples

/-- The bits of a byte string, those of each byte from the least significant on. -/
def Bytes.bits (bs : Bytes) : List Bool := bs.flatMap fun b => (List.range 8).map b.toBitVec.getLsbD

namespace Crc32c

private theorem shift_xor (r q : BitVec 32) : shift (r ^^^ q) = shift r ^^^ shift q := by
  unfold shift
  simp only [BitVec.getLsbD_xor, BitVec.ushiftRight_xor_distrib]
  have hcancel : ∀ x y : BitVec 32, x ^^^ divisor ^^^ (y ^^^ divisor) = x ^^^ y := by
    intro x y
    rw [BitVec.xor_assoc, BitVec.xor_comm y, ← BitVec.xor_assoc divisor, BitVec.xor_self, BitVec.zero_xor]
  cases r.getLsbD 0 <;> cases q.getLsbD 0
  · rfl
  · exact BitVec.xor_assoc ..
  · show r >>> 1 ^^^ q >>> 1 ^^^ divisor = r >>> 1 ^^^ divisor ^^^ q >>> 1
    rw [BitVec.xor_assoc, BitVec.xor_assoc, BitVec.xor_comm divisor]
  · exact (hcancel ..).symm

theorem shifts_xor (n : Nat) (r q : BitVec 32) : shifts n (r ^^^ q) = shifts n r ^^^ shifts n q := by
  induction n with
  | zero => rfl
  | succ n ih => rw [shifts, ih, shift_xor]; rfl

private theorem shift_eq_zero {r : BitVec 32} : shift r = 0#32 ↔ r = 0#32 := by
  constructor
  · intro h
    unfold shift at h
    split at h
    · -- The highest bit of the divisor stays, since a shifted register has none.
      have h31 := congrArg (·.getLsbD 31) h
      simp at h31
      exact absurd h31 (by decide)
    · rename_i hlow
      apply BitVec.eq_of_getLsbD_eq
      intro i _
      rw [BitVec.getLsbD_zero]
      cases i with
      | zero => exact Bool.eq_false_iff.mpr hlow
      | succ i =>
        have hi := congrArg (·.getLsbD i) h
        rwa [BitVec.getLsbD_ushiftRight, BitVec.getLsbD_zero, Nat.add_comm] at hi
  · rintro rfl
    rfl

theorem shifts_eq_zero {n : Nat} {r : BitVec 32} : shifts n r = 0#32 ↔ r = 0#32 := by
  induction n with
  | zero => rfl
  | succ n ih => rw [shifts, shift_eq_zero, ih]

private theorem shift_shiftLeft {r : BitVec 32} (h : r.getLsbD 31 = false) : shift (r <<< 1) = r := by
  have hlow : (r <<< 1).getLsbD 0 = false := by simp
  rw [shift, hlow, if_neg Bool.false_ne_true]
  apply BitVec.eq_of_getLsbD_eq
  intro i hi
  rw [BitVec.getLsbD_ushiftRight, BitVec.getLsbD_shiftLeft]
  by_cases h31 : i = 31
  · rw [h31, h]
    simp
  · have hlt : 1 + i < 32 := by omega
    simp [hlt]

/-- Shifts take back what has been shifted the other way without loss. -/
private theorem shifts_shiftLeft {n : Nat} {r : BitVec 32} (h : ∀ i, 32 ≤ i + n → r.getLsbD i = false) :
    shifts n (r <<< n) = r := by
  induction n generalizing r with
  | zero => rw [BitVec.shiftLeft_zero]; rfl
  | succ n ih =>
    have hstep : shifts n (r <<< 1 <<< n) = r <<< 1 := by
      apply ih
      intro i hi
      rw [BitVec.getLsbD_shiftLeft]
      by_cases hzero : i < 1
      · simp [hzero]
      · simp [h (i - 1) (by omega)]
    rw [Nat.add_comm, BitVec.shiftLeft_add, Nat.add_comm, shifts, hstep]
    exact shift_shiftLeft (h 31 (by omega))

/-- A bit in the lowest place of a word. -/
def bit (b : Bool) : BitVec 32 := (BitVec.ofBool b).setWidth 32

/-- The register after some bits more. -/
def feed (r : BitVec 32) (ds : List Bool) : BitVec 32 := ds.foldl (fun r d => shift (r ^^^ bit d)) r

/-- The word of some bits, of which the first is the least significant. -/
def word : List Bool → BitVec 32
  | [] => 0#32
  | d :: ds => bit d ^^^ word ds <<< 1

theorem feed_append (r : BitVec 32) (ds es : List Bool) : feed r (ds ++ es) = feed (feed r ds) es :=
  List.foldl_append

theorem getLsbD_bit (d : Bool) (i : Nat) : (bit d).getLsbD i = (decide (i = 0) && d) := by
  cases i with
  | zero => simp [bit]
  | succ i => simp [bit, BitVec.getLsbD_setWidth]

theorem getLsbD_word (ds : List Bool) (i : Nat) : (word ds).getLsbD i = (decide (i < 32) && ds.getD i false) := by
  induction ds generalizing i with
  | nil => simp [word]
  | cons d ds ih =>
    rw [word, BitVec.getLsbD_xor, getLsbD_bit, BitVec.getLsbD_shiftLeft, ih]
    cases i with
    | zero => simp
    | succ i =>
      have hlt : i + 1 < 32 → i < 32 := by omega
      by_cases h : i + 1 < 32
      · simp [h, hlt h]
      · simp [h]

theorem feed_eq_shifts {ds : List Bool} (h : ds.length ≤ 32) (r : BitVec 32) :
    feed r ds = shifts ds.length (r ^^^ word ds) := by
  induction ds generalizing r with
  | nil => rw [word, BitVec.xor_zero]; rfl
  | cons d ds ih =>
    rw [List.length_cons] at h
    -- The bits after the first one are a shift behind it.
    have htail : shift (word ds <<< 1) = word ds := by
      apply shift_shiftLeft
      rw [getLsbD_word, List.getD_eq_getElem?_getD, List.getElem?_eq_none (by omega), Option.getD_none,
        Bool.and_false]
    calc feed r (d :: ds) = feed (shift (r ^^^ bit d)) ds := rfl
      _ = shifts ds.length (shift (r ^^^ bit d) ^^^ word ds) := ih (by omega) _
      _ = shifts ds.length (shift (r ^^^ bit d ^^^ word ds <<< 1)) := by rw [shift_xor (r ^^^ bit d), htail]
      _ = shifts (ds.length + 1) (r ^^^ word (d :: ds)) := by rw [shifts_add, word, BitVec.xor_assoc]; rfl

theorem feed_replicate_false (r : BitVec 32) (n : Nat) : feed r (List.replicate n false) = shifts n r := by
  induction n generalizing r with
  | zero => rfl
  | succ n ih =>
    have hbit : bit false = 0#32 := rfl
    rw [List.replicate_succ, shifts_add]
    show feed (shift (r ^^^ bit false)) _ = _
    rw [hbit, BitVec.xor_zero, ih]
    rfl

theorem feed_xor {as bs : List Bool} (h : as.length = bs.length) (r q : BitVec 32) :
    feed (r ^^^ q) (List.zipWith xor as bs) = feed r as ^^^ feed q bs := by
  induction as generalizing r q bs with
  | nil => rw [List.length_eq_zero_iff.mp h.symm]; rfl
  | cons a as ih =>
    obtain ⟨b, bs, rfl⟩ : ∃ b bs', bs = b :: bs' := List.exists_cons_of_length_eq_add_one h.symm
    have hbit : bit (xor a b) = bit a ^^^ bit b := by cases a <;> cases b <;> rfl
    have hshift : shift (r ^^^ q ^^^ bit (xor a b)) = shift (r ^^^ bit a) ^^^ shift (q ^^^ bit b) := by
      rw [hbit, ← shift_xor]
      congr 1
      ac_rfl
    show feed (shift (r ^^^ q ^^^ bit (xor a b))) (List.zipWith xor as bs) = _
    rw [hshift, ih (Nat.succ.inj h)]
    rfl

/-- A byte is eight shifts of the register with the byte added to it. -/
private theorem update_eq_shifts (r : BitVec 32) (b : UInt8) :
    update r b = shifts 8 (r ^^^ b.toBitVec.setWidth 32) := by
  have hhigh : shifts 8 (r >>> 8 <<< 8) = r >>> 8 := by
    apply shifts_shiftLeft
    intro i hi
    rw [BitVec.getLsbD_ushiftRight]
    exact BitVec.getLsbD_of_ge r _ (by omega)
  have hsplit : r ^^^ b.toBitVec.setWidth 32 =
      BitVec.ofNat 32 (r.setWidth 8 ^^^ b.toBitVec).toNat ^^^ r >>> 8 <<< 8 := by
    apply BitVec.eq_of_getLsbD_eq
    intro i hi
    rw [BitVec.ofNat_toNat]
    simp only [BitVec.getLsbD_xor, BitVec.getLsbD_setWidth, BitVec.getLsbD_shiftLeft,
      BitVec.getLsbD_ushiftRight, hi, decide_true, Bool.true_and]
    by_cases h : i < 8
    · simp [h]
    · have hb : b.toBitVec.getLsbD i = false := BitVec.getLsbD_of_ge _ _ (by omega)
      simp [h, hb, show 8 + (i - 8) = i by omega]
  rw [update_eq, hsplit, shifts_xor, hhigh]

private theorem word_bits (b : UInt8) : word ((List.range 8).map b.toBitVec.getLsbD) = b.toBitVec.setWidth 32 := by
  apply BitVec.eq_of_getLsbD_eq
  intro i hi
  rw [getLsbD_word, BitVec.getLsbD_setWidth]
  by_cases h : i < 8
  · simp [h]
  · have hb : b.toBitVec.getLsbD i = false := BitVec.getLsbD_of_ge _ _ (by omega)
    simp [h, hb]

/-- Bytes feed their bits to the register. -/
theorem foldl_update (r : BitVec 32) (bs : Bytes) : bs.foldl update r = feed r bs.bits := by
  induction bs generalizing r with
  | nil => rfl
  | cons b bs ih =>
    have hbyte : feed r ((List.range 8).map b.toBitVec.getLsbD) = update r b := by
      rw [feed_eq_shifts (by simp), word_bits, update_eq_shifts]
      rfl
    have hcons : Bytes.bits (b :: bs) = (List.range 8).map b.toBitVec.getLsbD ++ Bytes.bits bs := rfl
    rw [List.foldl_cons, ih, hcons, feed_append, hbyte]

end Crc32c

end RequestSamples
