import Mathlib.Data.Nat.Digits.Defs
import Mathlib.Data.Set.Function
import RequestSamples.Proofs.Varint

/-!
# Variable-length integers as a code

A number has many spellings in groups of seven bits, and one that has no more groups than needed; for the numbers below
`2 ^ 64` these are the canonical strings.

* (writing) what is written is canonical and spells the fold of the integer (`canonical_writeNat`,
  `payload_writeNat`);
* (reading) a canonical string is read to its end, whatever follows it, and is what is written for the number that it
  spells (`readNat?_append`, `writeNat_payload`);
* (folding) unfolding takes the numbers below `2 ^ 64` to the integers of 64 bits, and folding takes them back
  (`fold_unfold`).

So on the integers of 64 bits writing is a bijection onto the canonical strings.  The other integers have no strings
of their own (`write_is_code`).
-/

namespace RequestSamples.Varint

/-- The number that groups of seven bits spell, the least significant group first. -/
def payload (bs : Bytes) : Nat := Nat.ofDigits 0x80 (bs.map fun b => b.toNat % 0x80)

/-- The high bit is set on all bytes but the last. -/
inductive Marked : Bytes → Prop
  | last {b : UInt8} (low : b < 0x80) : Marked [b]
  | more {b : UInt8} {bs : Bytes} (high : 0x80 ≤ b) (rest : Marked bs) : Marked (b :: bs)

/-- One to ten bytes that spell a number below `2 ^ 64`, with no group of zeros at the end that could be left out. -/
structure Canonical (bs : Bytes) : Prop where
  marked : Marked bs
  size : 1 ≤ bs.length ∧ bs.length ≤ 10
  shortest : 1 < bs.length → bs.getLast? ≠ some 0
  payload_lt : payload bs < 2 ^ 64

private theorem payload_cons (b : UInt8) (bs : Bytes) : payload (b :: bs) = b.toNat % 0x80 + 0x80 * payload bs :=
  Nat.ofDigits_cons ..

private theorem payload_of_lt {b : UInt8} (h : b < 0x80) : payload [b] = b.toNat := by
  have hlt : b.toNat < 0x80 := h
  rw [payload_cons, Nat.mod_eq_of_lt hlt]
  rfl

private theorem Marked.ne_nil {bs : Bytes} (h : Marked bs) : bs ≠ [] := by
  cases h <;> exact List.cons_ne_nil _ _

theorem Marked.getLast?_cons {bs : Bytes} (h : Marked bs) (b : UInt8) : (b :: bs).getLast? = bs.getLast? := by
  cases h <;> exact List.getLast?_cons_cons

private theorem marked_cons_iff {b : UInt8} {bs : Bytes} :
    Marked (b :: bs) ↔ b < 0x80 ∧ bs = [] ∨ 0x80 ≤ b ∧ Marked bs := by
  constructor
  · rintro (⟨low⟩ | ⟨high, rest⟩)
    · exact .inl ⟨low, rfl⟩
    · exact .inr ⟨high, rest⟩
  · rintro (⟨low, rfl⟩ | ⟨high, rest⟩)
    · exact .last low
    · exact .more high rest

instance decidableMarked : (bs : Bytes) → Decidable (Marked bs)
  | [] => isFalse nofun
  | _ :: bs =>
    have := decidableMarked bs
    decidable_of_iff _ marked_cons_iff.symm

instance (bs : Bytes) : Decidable (Canonical bs) :=
  decidable_of_iff
    (Marked bs ∧ (1 ≤ bs.length ∧ bs.length ≤ 10) ∧ (1 < bs.length → bs.getLast? ≠ some 0) ∧ payload bs < 2 ^ 64)
    ⟨fun ⟨marked, size, shortest, lt⟩ => ⟨marked, size, shortest, lt⟩,
      fun ⟨marked, size, shortest, lt⟩ => ⟨marked, size, shortest, lt⟩⟩

example : ¬Canonical [0x80, 0x00] := by decide

/-- The bytes up to the first one without its high bit are read, whatever follows them. -/
theorem readNat?_append {bs : Bytes} (h : Marked bs) (rest : Bytes) :
    readNat? (bs ++ rest) = some (payload bs, rest) := by
  induction h with
  | last low => rw [List.singleton_append, readNat?, if_pos low, payload_of_lt low]
  | more high _ ih =>
    rw [List.cons_append, readNat?, if_neg (UInt8.not_lt.mpr high), ih, Option.map_some, payload_cons]

/-- A last group that is not zero counts. -/
private theorem payload_ne_zero {bs : Bytes} (h : Marked bs) (hlast : bs.getLast? ≠ some 0) : payload bs ≠ 0 := by
  induction h with
  | @last b low =>
    rw [payload_of_lt low]
    exact fun hzero => hlast (congrArg some (UInt8.toNat_inj.mp hzero))
  | more _ rest ih =>
    rw [rest.getLast?_cons] at hlast
    have htail := ih hlast
    rw [payload_cons]
    omega

private theorem writeGroups_of_lt (more : Nat) {n : Nat} (h : n < 0x80) : writeGroups more n = [UInt8.ofNat n] := by
  cases more with
  | zero => rfl
  | succ more => rw [writeGroups, if_pos h]

private theorem writeGroups_of_le (more : Nat) {n : Nat} (h : 0x80 ≤ n) :
    writeGroups (more + 1) n = UInt8.ofNat (n % 0x80 + 0x80) :: writeGroups more (n / 0x80) := by
  rw [writeGroups, if_neg (by omega)]

private theorem length_writeGroups_le (more n : Nat) : (writeGroups more n).length ≤ more + 1 := by
  induction more generalizing n with
  | zero => exact Nat.le_refl 1
  | succ more ih =>
    unfold writeGroups
    split
    · rw [List.length_singleton]
      omega
    · have := ih (n / 0x80)
      rw [List.length_cons]
      omega

private theorem marked_writeGroups {more n : Nat} (h : n < 0x80 ^ (more + 1)) : Marked (writeGroups more n) := by
  have hlast : ∀ {m : Nat}, m < 0x80 → Marked [UInt8.ofNat m] := by
    intro m hm
    refine .last ?_
    rw [UInt8.lt_iff_toNat_lt, UInt8.toNat_ofNat']
    exact Nat.lt_of_le_of_lt (Nat.mod_le m _) hm
  induction more generalizing n with
  | zero => exact hlast (by simpa using h)
  | succ more ih =>
    by_cases hlt : n < 0x80
    · rw [writeGroups_of_lt _ hlt]
      exact hlast hlt
    · have hhigh : (0x80 : UInt8) ≤ UInt8.ofNat (n % 0x80 + 0x80) := by
        rw [UInt8.le_iff_toNat_le, UInt8.toNat_ofNat']
        show 0x80 ≤ _
        omega
      rw [writeGroups_of_le _ (Nat.not_lt.mp hlt)]
      exact .more hhigh (ih (div_lt_of_lt_pow h))

/-- Nothing but zero is spelled with zero as the last group. -/
private theorem getLast?_writeGroups_ne {more n : Nat} (h : n < 0x80 ^ (more + 1)) (hn : n ≠ 0) :
    (writeGroups more n).getLast? ≠ some 0 := by
  have hlast : ∀ {m : Nat}, m < 0x80 → m ≠ 0 → [UInt8.ofNat m].getLast? ≠ some 0 := by
    intro m hm hne hzero
    have hbyte : UInt8.ofNat m = 0 := Option.some.inj hzero
    rw [← UInt8.toNat_inj, UInt8.toNat_ofNat', UInt8.toNat_zero] at hbyte
    omega
  induction more generalizing n with
  | zero => exact hlast (by simpa using h) hn
  | succ more ih =>
    by_cases hlt : n < 0x80
    · rw [writeGroups_of_lt _ hlt]
      exact hlast hlt hn
    · have hdiv := div_lt_of_lt_pow h
      rw [writeGroups_of_le _ (Nat.not_lt.mp hlt), (marked_writeGroups hdiv).getLast?_cons]
      exact ih hdiv (by omega)

theorem payload_writeNat {n : Nat} (h : n < 2 ^ 64) : payload (writeNat n) = n := by
  have hpow : n < 0x80 ^ (9 + 1) := Nat.lt_of_lt_of_le h (by decide)
  have hread := readNat?_append (marked_writeGroups hpow) []
  rw [readNat?_writeGroups hpow] at hread
  exact (congrArg Prod.fst (Option.some.inj hread)).symm

theorem canonical_writeNat {n : Nat} (h : n < 2 ^ 64) : Canonical (writeNat n) := by
  have hpow : n < 0x80 ^ (9 + 1) := Nat.lt_of_lt_of_le h (by decide)
  have hmarked : Marked (writeNat n) := marked_writeGroups hpow
  refine ⟨hmarked, ⟨List.length_pos_iff.mpr hmarked.ne_nil, length_writeGroups_le 9 n⟩, ?_, ?_⟩
  · intro hlen
    apply getLast?_writeGroups_ne hpow
    rintro rfl
    exact absurd hlen (by decide)
  · rw [payload_writeNat h]
    exact h

/-- A string with no superfluous group is what is written for the number that it spells. -/
private theorem writeGroups_payload {more : Nat} {bs : Bytes} (h : Marked bs) (hlen : bs.length ≤ more + 1)
    (hshort : 1 < bs.length → bs.getLast? ≠ some 0) : writeGroups more (payload bs) = bs := by
  induction h generalizing more with
  | @last b low =>
    have hlt : b.toNat < 0x80 := low
    rw [payload_of_lt low, writeGroups_of_lt _ hlt, UInt8.ofNat_toNat]
  | @more b bs high rest ih =>
    have hlt := b.toNat_lt
    have hle : 0x80 ≤ b.toNat := high
    have hpos : 0 < bs.length := List.length_pos_iff.mpr rest.ne_nil
    rw [List.length_cons] at hlen hshort
    rw [rest.getLast?_cons] at hshort
    have hlast := hshort (by omega)
    -- The groups behind the first one do not spell zero, so the number needs them.
    have hrest := payload_ne_zero rest hlast
    have hnumber : 0x80 ≤ payload (b :: bs) := by rw [payload_cons]; omega
    have hdiv : payload (b :: bs) / 0x80 = payload bs := by rw [payload_cons]; omega
    have hmod : payload (b :: bs) % 0x80 + 0x80 = b.toNat := by rw [payload_cons]; omega
    obtain ⟨more, rfl⟩ : ∃ m, more = m + 1 := ⟨more - 1, by omega⟩
    rw [writeGroups_of_le _ hnumber, hdiv, hmod, UInt8.ofNat_toNat, ih (by omega) fun _ => hlast]

theorem writeNat_payload {bs : Bytes} (h : Canonical bs) : writeNat (payload bs) = bs :=
  writeGroups_payload h.marked h.size.2 h.shortest

/-- The integers of 64 bits. -/
def domain : Set Int := {v | -2 ^ 63 ≤ v ∧ v < 2 ^ 63}

private theorem fold_eq (v : Int) : fold v = (2 * (v % 2 ^ 63)).toNat ^^^ (v / 2 ^ 63 % 2 ^ 64).toNat := by
  have hdouble : 2 * v % (2 ^ 64 : Nat) = 2 * (v % 2 ^ 63) := by omega
  rw [fold, BitVec.toNat_xor, BitVec.toNat_ofInt, BitVec.toNat_ofInt, hdouble]
  rfl

private theorem unfold_mem {n : Nat} (h : n < 2 ^ 64) : unfold n ∈ domain := by
  show -2 ^ 63 ≤ unfold n ∧ unfold n < 2 ^ 63
  unfold unfold
  split <;> omega

theorem fold_unfold {n : Nat} (h : n < 2 ^ 64) : fold (unfold n) = n := by
  obtain ⟨low, high⟩ := unfold_mem h
  unfold unfold at low high ⊢
  split
  · rw [fold_of_nonneg (by omega) (by omega)]
    omega
  · rw [fold_of_neg (by omega) (by omega)]
    omega

private theorem write_unfold {bs : Bytes} (h : Canonical bs) : write (unfold (payload bs)) = bs := by
  rw [write, fold_unfold h.payload_lt, writeNat_payload h]

private theorem payload_write (v : Int) : payload (write v) = fold v := payload_writeNat (fold_lt v)

private theorem canonical_write (v : Int) : Canonical (write v) := canonical_writeNat (fold_lt v)

private theorem invOn_write : Set.InvOn (fun bs => unfold (payload bs)) write domain {bs | Canonical bs} := by
  constructor
  · rintro v ⟨low, high⟩
    show unfold (payload (write v)) = v
    rw [payload_write, unfold_fold low high]
  · intro bs h
    exact write_unfold h

private theorem bijOn_write : Set.BijOn write domain {bs | Canonical bs} :=
  invOn_write.bijOn (fun v _ => canonical_write v) fun _ h => unfold_mem h.payload_lt

private theorem read?_append {bs : Bytes} (h : Marked bs) (rest : Bytes) :
    read? (bs ++ rest) = some (unfold (payload bs), rest) := by
  rw [read?, readNat?_append h, Option.map_some]

private theorem read?_write_eq (v : Int) : read? (write v) = some (unfold (fold v), []) := by
  have hread := read?_append (canonical_write v).marked []
  rwa [List.append_nil, payload_write] at hread

/-- What a canonical string begins with is no canonical string, unless it is all of it. -/
private theorem eq_of_prefix {as bs : Bytes} (ha : Marked as) (hb : Marked bs) (h : as <+: bs) : as = bs := by
  obtain ⟨rest, rfl⟩ := h
  have hread := readNat?_append hb []
  rw [List.append_nil, readNat?_append ha] at hread
  have hrest : rest = [] := congrArg Prod.snd (Option.some.inj hread)
  rw [hrest, List.append_nil]

/-- Writing integers of any size gives canonical strings, which spell the fold.  On the integers of 64 bits this is a
bijection onto all canonical strings; its inverse reads the number that is spelled and unfolds it, whatever bytes
follow, and no string that is written begins with another one.  An integer is read back exactly if it has 64 bits;
every other one is written as just one of these is. -/
theorem write_is_code :
    (∀ v : Int, Canonical (write v) ∧
      payload (write v) = (2 * (v % 2 ^ 63)).toNat ^^^ (v / 2 ^ 63 % 2 ^ 64).toNat) ∧
    Set.BijOn write domain {bs | Canonical bs} ∧
    Set.InvOn (fun bs => unfold (payload bs)) write domain {bs | Canonical bs} ∧
    (∀ bs rest : Bytes, Canonical bs → read? (bs ++ rest) = some (unfold (payload bs), rest)) ∧
    (∀ v w : Int, write v <+: write w → write v = write w) ∧
    (∀ v : Int, read? (write v) = some (v, []) ↔ v ∈ domain) ∧
    ∀ v : Int, v ∉ domain → ∃! w : Int, w ∈ domain ∧ write w = write v := by
  refine ⟨?_, bijOn_write, invOn_write, ?_, ?_, ?_, ?_⟩
  · intro v
    rw [payload_write]
    exact ⟨canonical_write v, fold_eq v⟩
  · intro bs rest h
    exact read?_append h.marked rest
  · intro v w h
    exact eq_of_prefix (canonical_write v).marked (canonical_write w).marked h
  · intro v
    rw [read?_write_eq, Option.some.injEq, Prod.mk.injEq]
    constructor
    · rintro ⟨h, -⟩
      rw [← h]
      exact unfold_mem (fold_lt v)
    · rintro ⟨low, high⟩
      exact ⟨unfold_fold low high, rfl⟩
  · intro v _
    obtain ⟨w, hw, heq⟩ := bijOn_write.surjOn (canonical_write v)
    refine ⟨w, ⟨hw, heq⟩, ?_⟩
    rintro w' ⟨hw', heq'⟩
    exact bijOn_write.injOn hw' hw (heq'.trans heq.symm)

/-- The first integer that has more than 64 bits is written as another one; two bytes are read in front of a third. -/
theorem write_is_code_beyond :
    2 ^ 63 ∉ domain ∧ write (2 ^ 63) = [0x01] ∧ read? (write (2 ^ 63)) ≠ some (2 ^ 63, []) ∧
      (∃! w : Int, w ∈ domain ∧ write w = write (2 ^ 63)) ∧
      Canonical [0x80, 0x01] ∧ read? ([0x80, 0x01] ++ [0x07]) = some (64, [0x07]) := by
  obtain ⟨hwritten, -, -, hread, -, hback, hother⟩ := write_is_code
  have hbeyond : (2 : Int) ^ 63 ∉ domain := fun h => absurd h.2 (by decide)
  have htwo : Canonical [0x80, 0x01] := (hwritten 64).1
  have hunfold : unfold (payload [0x80, 0x01]) = 64 := by decide
  refine ⟨hbeyond, by decide, ?_, hother _ hbeyond, htwo, ?_⟩
  · rw [ne_eq, hback]
    exact hbeyond
  · rw [hread _ _ htwo, hunfold]

end RequestSamples.Varint
