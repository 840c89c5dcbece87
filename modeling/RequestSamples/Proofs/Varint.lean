import RequestSamples.Bytes.Varint

/-!
# Reading variable-length integers back

Ten groups of seven bits hold every natural number below `2 ^ 64`, and the groups are read back in front of
whatever follows (`readNat?_writeNat`).  Folding takes the integers of 64 bits onto these numbers, and unfolding
takes them back (`unfold_fold`).  So a signed integer of 64 bits is read back in front of whatever follows
(`read?_write`).
-/

namespace RequestSamples.Varint

private theorem readNat?_cons_last {n : Nat} (h : n < 0x80) (rest : Bytes) :
    readNat? (UInt8.ofNat n :: rest) = some (n, rest) := by
  have hn : (UInt8.ofNat n).toNat = n := by
    rw [UInt8.toNat_ofNat']; omega
  have hlt : UInt8.ofNat n < 0x80 := by
    rw [UInt8.lt_iff_toNat_lt, hn]; exact h
  rw [readNat?, if_pos hlt, hn]

private theorem readNat?_cons_more {n : Nat} (h : n < 0x80) (bs : Bytes) :
    readNat? (UInt8.ofNat (n + 0x80) :: bs) = (readNat? bs).map fun (m, rest) => (n + 0x80 * m, rest) := by
  have hn : (UInt8.ofNat (n + 0x80)).toNat = n + 0x80 := by
    rw [UInt8.toNat_ofNat']; omega
  have hge : ¬ UInt8.ofNat (n + 0x80) < 0x80 := by
    rw [UInt8.lt_iff_toNat_lt, hn]
    exact Nat.not_lt.2 (Nat.le_add_left ..)
  rw [readNat?, if_neg hge, hn, show (n + 0x80) % 0x80 = n by omega]

theorem div_lt_of_lt_pow {more n : Nat} (h : n < 0x80 ^ (more + 1 + 1)) : n / 0x80 < 0x80 ^ (more + 1) := by
  rw [Nat.div_lt_iff_lt_mul (by decide)]
  rwa [Nat.pow_succ] at h

theorem readNat?_writeGroups {more n : Nat} (h : n < 0x80 ^ (more + 1)) (rest : Bytes) :
    readNat? (writeGroups more n ++ rest) = some (n, rest) := by
  induction more generalizing n with
  | zero => exact readNat?_cons_last (by simpa using h) rest
  | succ more ih =>
    unfold writeGroups
    split
    · rename_i hn
      exact readNat?_cons_last hn rest
    · rw [List.cons_append, readNat?_cons_more (Nat.mod_lt n (by decide)), ih (div_lt_of_lt_pow h), Option.map_some]
      exact congrArg (fun m => some (m, rest)) (Nat.mod_add_div n 0x80)

/-- Ten groups hold 64 bits. -/
theorem readNat?_writeNat {n : Nat} (h : n < 2 ^ 64) (rest : Bytes) :
    readNat? (writeNat n ++ rest) = some (n, rest) :=
  readNat?_writeGroups (Nat.lt_of_lt_of_le h (by decide)) rest

private theorem length_writeGroups_pos (more n : Nat) : 0 < (writeGroups more n).length := by
  cases more with
  | zero => exact Nat.one_pos
  | succ more =>
    unfold writeGroups
    split <;> exact Nat.succ_pos _

theorem length_write_pos (v : Int) : 0 < (write v).length := length_writeGroups_pos 9 (fold v)

/-- A number takes no more groups than hold it. -/
private theorem length_writeGroups_le_iff {more k n : Nat} (hk : k ≤ more) (hn : n < 0x80 ^ (more + 1)) :
    (writeGroups more n).length ≤ k + 1 ↔ n < 0x80 ^ (k + 1) := by
  induction k generalizing more n with
  | zero =>
    cases more with
    | zero => exact iff_of_true (Nat.le_refl 1) hn
    | succ more =>
      unfold writeGroups
      split
      · exact iff_of_true (Nat.le_refl 1) (by omega)
      · have hpos := length_writeGroups_pos more (n / 0x80)
        rw [List.length_cons]
        omega
  | succ k ih =>
    obtain ⟨more, rfl⟩ := Nat.exists_eq_add_of_le' (Nat.lt_of_lt_of_le (Nat.succ_pos k) hk)
    unfold writeGroups
    split
    · rename_i hsmall
      have hpow : 0x80 ≤ 0x80 ^ (k + 1 + 1) := Nat.le_pow (Nat.succ_pos _)
      exact iff_of_true (by rw [List.length_singleton]; omega) (by omega)
    · rw [List.length_cons, Nat.add_le_add_iff_right, ih (by omega) (div_lt_of_lt_pow hn),
        Nat.div_lt_iff_lt_mul (by decide), ← Nat.pow_succ]

theorem fold_lt (v : Int) : fold v < 2 ^ 64 := BitVec.isLt _

theorem fold_of_nonneg {v : Int} (low : 0 ≤ v) (high : v < 2 ^ 63) : fold v = (2 * v).toNat := by
  have hs : v / 2 ^ 63 = 0 := Int.ediv_eq_zero_of_lt low high
  have hz : BitVec.ofInt 64 0 = 0#64 := rfl
  rw [fold, hs, hz, BitVec.xor_zero, BitVec.toNat_ofInt]
  omega

theorem fold_of_neg {v : Int} (low : -2 ^ 63 ≤ v) (high : v < 0) : fold v = (-2 * v - 1).toNat := by
  have hs : v / 2 ^ 63 = -1 := by omega
  have hx : BitVec.ofInt 64 (-1) = BitVec.allOnes 64 := by decide
  rw [fold, hs, hx, BitVec.xor_allOnes, BitVec.toNat_not, BitVec.toNat_ofInt]
  omega

/-- A natural number takes as many groups as hold its double. -/
theorem length_write_le_iff {k n : Nat} (hk : k ≤ 9) (hn : n < 2 ^ 63) :
    (write n).length ≤ k + 1 ↔ 2 * n < 0x80 ^ (k + 1) := by
  have hfold : fold n = 2 * n := by
    rw [fold_of_nonneg (by omega) (by omega)]
    omega
  rw [write, hfold]
  exact length_writeGroups_le_iff hk (by omega)

theorem unfold_fold {v : Int} (low : -2 ^ 63 ≤ v) (high : v < 2 ^ 63) : unfold (fold v) = v := by
  unfold unfold
  by_cases h : 0 ≤ v
  · rw [fold_of_nonneg h high]
    split <;> omega
  · rw [fold_of_neg low (by omega)]
    split <;> omega

/-- A signed integer of 64 bits is read back, whatever follows it. -/
theorem read?_write {v : Int} (low : -2 ^ 63 ≤ v) (high : v < 2 ^ 63) (rest : Bytes) :
    read? (write v ++ rest) = some (v, rest) := by
  rw [read?, write, readNat?_writeNat (fold_lt v), Option.map_some]
  exact congrArg (fun w => some (w, rest)) (unfold_fold low high)

end RequestSamples.Varint
