import RequestSamples.Uuid.Layout

/-!
# What random ids keep

A random id is of version 4 and of the standard variant, and has all other bits from what was drawn for it
(`IsRandom`).  These facts determine the id (`isRandom_iff`): it is never the one that stands for "not set"
(`IsRandom.ne_zero`), and two draws give the same id if and only if they agree outside the six fixed places
(`IsRandom.eq_iff`).
-/

namespace RequestSamples.Uuid

/-- The places of the variant and of the version, counted from the lowest bit. -/
def IsFixed (i : Nat) : Prop := (62 ≤ i ∧ i < 64) ∨ (76 ≤ i ∧ i < 80)

instance (i : Nat) : Decidable (IsFixed i) :=
  inferInstanceAs (Decidable ((62 ≤ i ∧ i < 64) ∨ (76 ≤ i ∧ i < 80)))

example : (List.range 128).countP (¬IsFixed ·) = 122 := by decide +kernel

/-- The id is of version 4, its variant is the standard one, which has the bits `10`, and its other bits are those of
the drawn ones. -/
structure IsRandom (u : Uuid) (drawn : BitVec 128) : Prop where
  version : u.number 76 4 = 4
  variant : u.number 62 2 = 0b10
  kept : ∀ i < 128, ¬IsFixed i → u.bits.getLsbD i = drawn.getLsbD i

/-- A number of the layout has the bits that are found at its place. -/
private theorem testBit_number (u : Uuid) {n w j : Nat} (h : j < w) :
    (u.number n w).testBit j = u.bits.getLsbD (n + j) := by
  rw [number, BitVec.testBit_toNat, BitVec.getLsbD_extractLsb', decide_eq_true h, Bool.true_and]

/-- A number of the layout is told by its bits. -/
private theorem number_eq_iff {u : Uuid} {n w k : Nat} (hk : k < 2 ^ w) :
    u.number n w = k ↔ ∀ j < w, u.bits.getLsbD (n + j) = k.testBit j := by
  constructor
  · rintro rfl j hj
    exact (u.testBit_number hj).symm
  · intro h
    have hlt : u.number n w < 2 ^ w := BitVec.isLt _
    apply Nat.eq_of_testBit_eq
    intro j
    by_cases hj : j < w
    · rw [u.testBit_number hj, h j hj]
    · have hle : 2 ^ w ≤ 2 ^ j := Nat.pow_le_pow_right (by decide) (Nat.not_lt.mp hj)
      rw [Nat.testBit_lt_two_pow (by omega), Nat.testBit_lt_two_pow (by omega)]

/-- The masks cover the fixed places, and what is put there sets two of the bits. -/
private theorem getLsbD_masks : ∀ i : Fin 128,
    (versionMask.getLsbD i || variantMask.getLsbD i) = decide (IsFixed i) ∧
      ((0x4000#128 <<< 64).getLsbD i || (0x8000#128 <<< 48).getLsbD i) = decide (i.val = 63 ∨ i.val = 78) := by
  decide +kernel

private theorem getLsbD_random (drawn : BitVec 128) {i : Nat} (hi : i < 128) :
    (random drawn).bits.getLsbD i = if IsFixed i then decide (i = 63 ∨ i = 78) else drawn.getLsbD i := by
  obtain ⟨hmask, hset⟩ := getLsbD_masks ⟨i, hi⟩
  simp only [random, BitVec.getLsbD_or, BitVec.getLsbD_and, BitVec.getLsbD_not, decide_eq_true hi, Bool.true_and,
    Bool.or_assoc, hset]
  rw [Bool.and_assoc, ← Bool.not_or, hmask]
  by_cases hfixed : IsFixed i
  · rw [if_pos hfixed, decide_eq_true hfixed, Bool.not_true, Bool.and_false, Bool.false_or]
  · have hunset : ¬(i = 63 ∨ i = 78) := by
      unfold IsFixed at hfixed
      omega
    rw [if_neg hfixed, decide_eq_false hfixed, decide_eq_false hunset, Bool.not_false, Bool.and_true, Bool.or_false]

variable {u v : Uuid} {drawn drawn' : BitVec 128}

theorem isRandom_random (drawn : BitVec 128) : (random drawn).IsRandom drawn := by
  refine ⟨(number_eq_iff (by decide)).mpr ?_, (number_eq_iff (by decide)).mpr ?_, ?_⟩
  · have hbits : ∀ j < 4, IsFixed (76 + j) ∧ decide (76 + j = 63 ∨ 76 + j = 78) = Nat.testBit 4 j := by decide
    intro j hj
    rw [getLsbD_random drawn (by omega), if_pos (hbits j hj).1, (hbits j hj).2]
  · have hbits : ∀ j < 2, IsFixed (62 + j) ∧ decide (62 + j = 63 ∨ 62 + j = 78) = Nat.testBit 0b10 j := by decide
    intro j hj
    rw [getLsbD_random drawn (by omega), if_pos (hbits j hj).1, (hbits j hj).2]
  · intro i hi hfree
    rw [getLsbD_random drawn hi, if_neg hfree]

/-- Ids of the same version and variant are equal if they agree at all other places. -/
private theorem IsRandom.eq_of_agree (h : u.IsRandom drawn) (h' : v.IsRandom drawn')
    (hagree : ∀ i < 128, ¬IsFixed i → drawn.getLsbD i = drawn'.getLsbD i) : u = v := by
  have hfixed : ∀ i, IsFixed i → u.bits.getLsbD i = v.bits.getLsbD i := by
    rintro i (⟨hlow, hhigh⟩ | ⟨hlow, hhigh⟩)
    · obtain ⟨j, rfl⟩ := Nat.exists_eq_add_of_le hlow
      rw [← u.testBit_number (w := 2) (by omega), ← v.testBit_number (w := 2) (by omega), h.variant, h'.variant]
    · obtain ⟨j, rfl⟩ := Nat.exists_eq_add_of_le hlow
      rw [← u.testBit_number (w := 4) (by omega), ← v.testBit_number (w := 4) (by omega), h.version, h'.version]
  have hbits : u.bits = v.bits := by
    apply BitVec.eq_of_getLsbD_eq
    intro i hi
    by_cases hi' : IsFixed i
    · exact hfixed i hi'
    · rw [h.kept i hi hi', h'.kept i hi hi', hagree i hi hi']
  cases u
  cases v
  exact congrArg Uuid.mk hbits

/-- The random id of the drawn bits is the only id that is random for them. -/
theorem isRandom_iff : u.IsRandom drawn ↔ u = random drawn := by
  constructor
  · intro h
    exact h.eq_of_agree (isRandom_random drawn) fun _ _ _ => rfl
  · rintro rfl
    exact isRandom_random drawn

/-- Random ids are equal if and only if the draws agree outside the fixed places. -/
theorem IsRandom.eq_iff (h : u.IsRandom drawn) (h' : v.IsRandom drawn') :
    u = v ↔ ∀ i < 128, ¬IsFixed i → drawn.getLsbD i = drawn'.getLsbD i := by
  constructor
  · rintro rfl i hi hfree
    rw [← h.kept i hi hfree, ← h'.kept i hi hfree]
  · exact h.eq_of_agree h'

theorem IsRandom.version? (h : u.IsRandom drawn) : u.version? = some 4 := by
  rw [isRandom_iff.mp h, version?_random]

theorem IsRandom.ne_zero (h : u.IsRandom drawn) : u ≠ zero := by
  rw [isRandom_iff.mp h]
  exact random_ne_zero drawn

end RequestSamples.Uuid
