import RequestSamples.Proofs.Batch.Reading
import RequestSamples.Proofs.Crc32c.Register

/-!
# The checksum detects short bursts

Two byte strings of one length that differ only within 32 bits that follow each other have different checksums.
By linearity the registers differ by what the differing bits alone make of an empty register: up to the first of
them it stays empty, the 32 bits of the burst are one word that is not zero, and no shift makes it zero again
(`feed_ne_zero`).  The main fact is `checksum_detects_bursts`, which also says it of the checksum that is stored
in a batch.
-/

namespace RequestSamples

namespace Bytes

/-- The byte strings have one length and differ, but only within `w` bits that follow each other. -/
structure Burst (w : Nat) (as bs : Bytes) : Prop where
  length_eq : as.length = bs.length
  ne : as ≠ bs
  within : ∃ start, ∀ i : Nat, (bits as)[i]? ≠ (bits bs)[i]? → start ≤ i ∧ i < start + w

private theorem bits_cons (b : UInt8) (bs : Bytes) : bits (b :: bs) =
    (List.range 8).map b.toBitVec.getLsbD ++ bits bs :=
  rfl

private theorem bits_append (as bs : Bytes) : bits (as ++ bs) = bits as ++ bits bs := List.flatMap_append

private theorem length_bits (bs : Bytes) : (bits bs).length = 8 * bs.length := by
  induction bs with
  | nil => rfl
  | cons b bs ih =>
    rw [bits_cons, List.length_append, List.length_map, List.length_range, ih, List.length_cons]
    omega

private theorem bits_injective {as bs : Bytes} (h : bits as = bits bs) : as = bs := by
  induction as generalizing bs with
  | nil =>
    have hlen := congrArg List.length h
    rw [length_bits, length_bits, List.length_nil] at hlen
    have hzero : bs.length = 0 := by omega
    exact (List.length_eq_zero_iff.mp hzero).symm
  | cons a as ih =>
    cases bs with
    | nil =>
      have hlen := congrArg List.length h
      rw [length_bits, length_bits] at hlen
      simp at hlen
    | cons b bs =>
      rw [bits_cons, bits_cons] at h
      obtain ⟨hbyte, hrest⟩ := List.append_inj h (by simp)
      have hbit : a.toBitVec = b.toBitVec := by
        apply BitVec.eq_of_getLsbD_eq
        intro i hi
        have hmap := congrArg (·[i]?) hbyte
        simpa [hi] using hmap
      rw [UInt8.toBitVec_inj.mp hbit, ih hrest]

/-- Bit strings that stand in the same place of otherwise equal ones are a burst. -/
private theorem burst_of_bits {w : Nat} {as bs : Bytes} {front olds news back : List Bool}
    (has : bits as = front ++ olds ++ back) (hbs : bits bs = front ++ news ++ back)
    (hlen : olds.length = news.length) (hw : olds.length ≤ w) (hne : as ≠ bs) : Burst w as bs := by
  refine ⟨?_, hne, front.length, ?_⟩
  · have ha := length_bits as
    have hb := length_bits bs
    rw [has, List.length_append, List.length_append] at ha
    rw [hbs, List.length_append, List.length_append] at hb
    omega
  · intro i hi
    rw [has, hbs, List.append_assoc, List.append_assoc] at hi
    by_cases hfront : i < front.length
    · rw [List.getElem?_append_left hfront, List.getElem?_append_left hfront] at hi
      exact absurd rfl hi
    · -- Behind the front only positions within the replaced bits can differ, since the backs are the same.
      have hright : ∀ ds : List Bool, (front ++ ds)[i]? = ds[i - front.length]? := fun ds =>
        List.getElem?_append_right (by omega)
      rw [hright, hright] at hi
      by_cases hback : i - front.length < olds.length
      · omega
      · rw [List.getElem?_append_right (by omega), List.getElem?_append_right (by omega), hlen] at hi
        exact absurd rfl hi

/-- Other bytes in place of up to four that follow each other are a burst of 32 bits. -/
private theorem burst_of_adjacent {olds news : Bytes} (hlen : olds.length = news.length) (hfour : olds.length ≤ 4)
    (hne : olds ≠ news) (front back : Bytes) : Burst 32 (front ++ olds ++ back) (front ++ news ++ back) := by
  have hbits : ∀ bs : Bytes, bits (front ++ bs ++ back) = bits front ++ bits bs ++ bits back := fun bs => by
    rw [bits_append, bits_append]
  refine burst_of_bits (hbits olds) (hbits news) ?_ ?_ ?_
  · rw [length_bits, length_bits, hlen]
  · rw [length_bits]
    omega
  · intro h
    exact hne (List.append_cancel_left (List.append_cancel_right h))

end Bytes

namespace Crc32c

/-- The bits in which two bit strings differ. -/
private theorem getElem?_zipWith_xor {as bs : List Bool} (h : as.length = bs.length) (i : Nat) :
    (List.zipWith xor as bs)[i]? = some true ↔ as[i]? ≠ bs[i]? := by
  rw [List.getElem?_zipWith]
  by_cases hi : i < as.length
  · rw [List.getElem?_eq_getElem hi, List.getElem?_eq_getElem (h ▸ hi)]
    cases as[i] <;> cases bs[i] <;> decide
  · rw [List.getElem?_eq_none (by omega), List.getElem?_eq_none (by omega)]
    simp

private theorem eq_replicate_false {ds : List Bool} (h : true ∉ ds) : ds = List.replicate ds.length false := by
  refine List.eq_replicate_iff.mpr ⟨rfl, ?_⟩
  intro d hd
  refine Bool.eq_false_iff.mpr ?_
  rintro rfl
  exact h hd

private theorem word_ne_zero {ds : List Bool} (hlen : ds.length ≤ 32) (hset : true ∈ ds) : word ds ≠ 0#32 := by
  obtain ⟨i, hi, htrue⟩ := List.getElem_of_mem hset
  intro hzero
  have hbit := congrArg (·.getLsbD i) hzero
  simp only [getLsbD_word, BitVec.getLsbD_zero, List.getD_eq_getElem?_getD, List.getElem?_eq_getElem hi,
    htrue, Option.getD_some, Bool.and_true, decide_eq_false_iff_not] at hbit
  omega

/-- Bits of which some are set, all of them within 32 that follow each other, do not leave the register empty. -/
theorem feed_ne_zero {ds : List Bool} (start : Nat) (hset : true ∈ ds)
    (hwithin : ∀ i : Nat, ds[i]? = some true → start ≤ i ∧ i < start + 32) : feed 0#32 ds ≠ 0#32 := by
  obtain ⟨burst, hburst⟩ : ∃ burst, burst = (ds.drop start).take 32 := ⟨_, rfl⟩
  have hlen : burst.length ≤ 32 := by rw [hburst]; exact List.length_take_le ..
  have hbefore : true ∉ ds.take start := by
    intro h
    obtain ⟨i, hi⟩ := List.mem_iff_getElem?.mp h
    rw [List.getElem?_take] at hi
    split at hi
    · have hstart := (hwithin i hi).1
      omega
    · cases hi
  have hafter : true ∉ ds.drop (start + 32) := by
    intro h
    obtain ⟨i, hi⟩ := List.mem_iff_getElem?.mp h
    rw [List.getElem?_drop] at hi
    have hend := (hwithin _ hi).2
    omega
  have hsplit : ds = ds.take start ++ (burst ++ ds.drop (start + 32)) := by
    rw [hburst, ← List.drop_drop, List.take_append_drop, List.take_append_drop]
  have hin : true ∈ burst := by
    rw [hsplit] at hset
    rcases List.mem_append.mp hset with h | h
    · exact absurd h hbefore
    · exact (List.mem_append.mp h).resolve_right hafter
  -- The register is empty up to the burst, and stays occupied after it.
  rw [hsplit, feed_append, feed_append, eq_replicate_false hbefore, eq_replicate_false hafter,
    feed_replicate_false, feed_replicate_false, shifts_eq_zero.mpr rfl, feed_eq_shifts hlen, BitVec.zero_xor]
  intro hzero
  exact word_ne_zero hlen hin (shifts_eq_zero.mp (shifts_eq_zero.mp hzero))

/-- The checksums of byte strings of one length differ by what the bits in which they differ make of an empty
register. -/
private theorem checksum_xor {as bs : Bytes} (h : as.length = bs.length) :
    checksum as ^^^ checksum bs = feed 0#32 (List.zipWith xor as.bits bs.bits) := by
  have hbits : as.bits.length = bs.bits.length := by rw [Bytes.length_bits, Bytes.length_bits, h]
  have hnot : ∀ r q : BitVec 32, ~~~r ^^^ ~~~q = r ^^^ q := by
    intro r q
    apply BitVec.eq_of_getLsbD_eq
    intro i hi
    simp [hi]
  rw [checksum, checksum, foldl_update, foldl_update, hnot, ← feed_xor hbits, BitVec.xor_self]

private theorem checksum_ne_of_burst {as bs : Bytes} (h : Bytes.Burst 32 as bs) : checksum as ≠ checksum bs := by
  obtain ⟨hlen, hne, start, hwithin⟩ := h
  have hbits : as.bits.length = bs.bits.length := by rw [Bytes.length_bits, Bytes.length_bits, hlen]
  have hset : true ∈ List.zipWith xor as.bits bs.bits := by
    refine Classical.byContradiction fun hnone => hne (Bytes.bits_injective ?_)
    apply List.ext_getElem?
    intro i
    refine Classical.byContradiction fun hi => hnone ?_
    exact List.mem_of_getElem? ((getElem?_zipWith_xor hbits i).mpr hi)
  intro heq
  refine feed_ne_zero start hset ?_ ?_
  · intro i hi
    exact hwithin i ((getElem?_zipWith_xor hbits i).mp hi)
  · rw [← checksum_xor hlen, heq, BitVec.xor_self]

end Crc32c

namespace Batch

/-- The checksum that is stored in a batch. -/
def storedChecksum (bytes : Bytes) : Nat := BigEndian.readNat ((bytes.drop 17).take 4)

private theorem storedChecksum_of_encode {base time : Value} {rs : List Record} {bytes : Bytes}
    (h : encode base time rs = .ok bytes) : storedChecksum bytes = (Crc32c.checksum (bytes.drop 21)).toNat := by
  obtain ⟨b, t, cs, -, -, -, -, rfl⟩ := (encode_eq_ok base time rs bytes).mp h
  have hstored : ((Layout.batch b t cs).drop 17).take 4 =
      BigEndian.write 4 (Crc32c.checksum (Layout.checked t cs)).toNat := by
    unfold Layout.batch
    rw [List.append_assoc, List.drop_left' (by simp), List.take_left' (by simp)]
  have hread := BigEndian.readNat_write 4 (Crc32c.checksum (Layout.checked t cs)).toNat
  have hlt := (Crc32c.checksum (Layout.checked t cs)).isLt
  rw [storedChecksum, hstored, drop_batch]
  omega

/-- What is stored stays as it is if nothing before the checked bytes changes. -/
private theorem storedChecksum_congr {as bs : Bytes} (h : as.take 21 = bs.take 21) :
    storedChecksum as = storedChecksum bs := by
  have htake : ∀ cs : Bytes, (cs.drop 17).take 4 = (cs.take 21).drop 17 := fun cs => by
    rw [List.drop_take]
  rw [storedChecksum, storedChecksum, htake, htake, h]

/-- Byte strings of one length that differ only within 32 bits that follow each other have different checksums.
So the checksum that is stored in a batch, which is that of the bytes behind it, is no longer theirs after a burst
of up to 32 bits there, in particular if up to four bytes that follow each other are replaced. -/
theorem checksum_detects_bursts :
    (∀ as bs : Bytes, Bytes.Burst 32 as bs → Crc32c.checksum as ≠ Crc32c.checksum bs) ∧
    ∀ (base time : Value) (rs : List Record) (bytes : Bytes), encode base time rs = .ok bytes →
      storedChecksum bytes = (Crc32c.checksum (bytes.drop 21)).toNat ∧
      (∀ corrupted : Bytes, corrupted.take 21 = bytes.take 21 →
        Bytes.Burst 32 (bytes.drop 21) (corrupted.drop 21) →
        storedChecksum corrupted ≠ (Crc32c.checksum (corrupted.drop 21)).toNat) ∧
      ∀ front olds news back : Bytes, bytes = front ++ olds ++ back → 21 ≤ front.length →
        olds.length = news.length → olds.length ≤ 4 → olds ≠ news →
        storedChecksum (front ++ news ++ back) ≠ (Crc32c.checksum ((front ++ news ++ back).drop 21)).toNat := by
  refine ⟨fun as bs h => Crc32c.checksum_ne_of_burst h, ?_⟩
  intro base time rs bytes h
  have hstored := storedChecksum_of_encode h
  have hburst : ∀ corrupted : Bytes, corrupted.take 21 = bytes.take 21 →
      Bytes.Burst 32 (bytes.drop 21) (corrupted.drop 21) →
      storedChecksum corrupted ≠ (Crc32c.checksum (corrupted.drop 21)).toNat := by
    intro corrupted hhead hb heq
    rw [storedChecksum_congr hhead, hstored] at heq
    exact Crc32c.checksum_ne_of_burst hb (BitVec.eq_of_toNat_eq heq)
  refine ⟨hstored, hburst, ?_⟩
  rintro front olds news back rfl hfront hlen hfour hne
  have hdrop : ∀ xs : Bytes, (front ++ xs ++ back).drop 21 = front.drop 21 ++ xs ++ back := fun xs => by
    rw [List.append_assoc, List.drop_append_of_le_length hfront, List.append_assoc]
  have htake : ∀ xs : Bytes, (front ++ xs ++ back).take 21 = front.take 21 := fun xs => by
    rw [List.append_assoc, List.take_append_of_le_length hfront]
  refine hburst _ (by rw [htake, htake]) ?_
  rw [hdrop, hdrop]
  exact Bytes.burst_of_adjacent hlen hfour hne (front.drop 21) back

/-- In the batch of one record a burst of 32 bits begins with the last bit of one byte and ends four bytes further
on; in another one its value is replaced. -/
theorem checksum_detects_bursts_across_bytes :
    ∃ bytes corrupted replaced, encode (.int 0) (.int 0) [⟨.null, .bytes [97], .list []⟩] = .ok bytes ∧
      corrupted = bytes.take 61 ++ [0x8e, 0, 0, 0, 0x40] ++ bytes.drop 66 ∧
      replaced = bytes.take 67 ++ [98] ++ bytes.drop 68 ∧
      Bytes.Burst 32 (bytes.drop 21) (corrupted.drop 21) ∧
      storedChecksum corrupted ≠ (Crc32c.checksum (corrupted.drop 21)).toNat ∧
      storedChecksum replaced ≠ (Crc32c.checksum (replaced.drop 21)).toNat := by
  obtain ⟨bytes, h⟩ : ∃ bytes, encode (.int 0) (.int 0) [⟨.null, .bytes [97], .list []⟩] = .ok bytes := ⟨_, rfl⟩
  obtain ⟨-, hburst, hadjacent⟩ := checksum_detects_bursts.2 _ _ _ _ h
  obtain ⟨head, hhead, hbytes⟩ : ∃ head : Bytes, head.length = 21 ∧
      bytes = head ++ Layout.checked 0 [⟨none, some [97], []⟩] := by
    obtain rfl : bytes = Layout.batch 0 0 [⟨none, some [97], []⟩] := (Except.ok.inj h).symm
    refine ⟨(Layout.batch 0 0 [⟨none, some [97], []⟩]).take 21, rfl, ?_⟩
    rw [← drop_batch, List.take_append_drop]
  -- The bytes behind the checksum are known without the checksum itself.
  obtain ⟨checked, hchecked⟩ : ∃ checked : Bytes, checked = List.replicate 22 0 ++ List.replicate 14 255 ++
      [0, 0, 0, 1] ++ [14, 0, 0, 0, 1, 2, 97, 0] := ⟨_, rfl⟩
  have hlayout : Layout.checked 0 [⟨none, some [97], []⟩] = checked := by rw [hchecked]; decide
  rw [hlayout] at hbytes
  have htake : ∀ n, bytes.take (21 + n) = head ++ checked.take n := fun n => by
    rw [hbytes, ← hhead, List.take_length_add_append]
  have hdrop : ∀ n, bytes.drop (21 + n) = checked.drop n := fun n => by
    rw [hbytes, ← hhead, List.drop_length_add_append]
  have hb : Bytes.Burst 32 checked (checked.take 40 ++ [0x8e, 0, 0, 0, 0x40] ++ checked.drop 45) := by
    refine @Bytes.burst_of_bits 32 _ _ ((Bytes.bits checked).take 327) (((Bytes.bits checked).drop 327).take 32)
      (true :: List.replicate 30 false ++ [true]) ((Bytes.bits checked).drop 359) ?_ ?_ ?_ ?_ ?_ <;>
      rw [hchecked] <;> decide +kernel
  have hcorrupted : (bytes.take 61 ++ [0x8e, 0, 0, 0, 0x40] ++ bytes.drop 66).drop 21 =
      checked.take 40 ++ [0x8e, 0, 0, 0, 0x40] ++ checked.drop 45 := by
    rw [htake 40, hdrop 45, List.append_assoc, List.append_assoc, ← hhead, List.drop_left, List.append_assoc]
  have hhead' : (bytes.take 61 ++ [0x8e, 0, 0, 0, 0x40] ++ bytes.drop 66).take 21 = bytes.take 21 := by
    rw [htake 40, List.append_assoc, List.append_assoc, ← hhead, List.take_left, hbytes, List.take_left]
  have hvalue : bytes = bytes.take 67 ++ [97] ++ bytes.drop 68 := by
    rw [htake 46, hdrop 47, hbytes, hchecked]
    simp
  have hdrop21 : bytes.drop 21 = checked := hdrop 0
  rw [← hcorrupted, ← hdrop21] at hb
  refine ⟨bytes, _, _, h, rfl, rfl, hb, hburst _ hhead' hb, ?_⟩
  refine hadjacent (bytes.take 67) [97] [98] (bytes.drop 68) hvalue ?_ rfl (by decide) (by decide)
  rw [htake 46, List.length_append, hhead]
  exact Nat.le_add_right ..

end Batch

end RequestSamples
