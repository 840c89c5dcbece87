import RequestSamples.Proofs.Batch.Layout

/-!
# What the stamps of a batch change

The base offset of a batch stands in front of everything that the checksum covers, and nothing else is made of it; so
it can be replaced in a batch that has been written (`batch_eq_write_append`).  The time stamp stands in two fields
behind the checksum, and the checksum is made of them; no length and no record depends on it (`agreeBut_batch_time`).
Byte strings are compared field by field: laid end to end, they agree where their parts do (`AgreeBut.append`).
-/

namespace RequestSamples

namespace Bytes

/-- The byte strings have one length, and they agree in all places but the excepted ones. -/
structure AgreeBut (excepted : Nat → Prop) (as bs : Bytes) : Prop where
  length_eq : as.length = bs.length
  agree : ∀ i, ¬ excepted i → as[i]? = bs[i]?

variable {excepted : Nat → Prop} {as as' bs bs' : Bytes}

theorem AgreeBut.refl (as : Bytes) : AgreeBut excepted as as := ⟨rfl, fun _ _ => rfl⟩

/-- Where all places are excepted, nothing but the length matters. -/
private theorem AgreeBut.of_length (h : as.length = bs.length) (hall : ∀ i, i < as.length → excepted i) :
    AgreeBut excepted as bs := by
  refine ⟨h, fun i hi => ?_⟩
  have hout : as.length ≤ i := Nat.le_of_not_lt fun hlt => hi (hall i hlt)
  rw [List.getElem?_eq_none hout, List.getElem?_eq_none (h ▸ hout)]

theorem AgreeBut.append (h : AgreeBut excepted as as')
    (h' : AgreeBut (fun i => excepted (as.length + i)) bs bs') : AgreeBut excepted (as ++ bs) (as' ++ bs') := by
  constructor
  · rw [List.length_append, List.length_append, h.length_eq, h'.length_eq]
  · intro i hi
    by_cases hlt : i < as.length
    · rw [List.getElem?_append_left hlt, List.getElem?_append_left (h.length_eq ▸ hlt)]
      exact h.agree i hi
    · have hsplit : as.length + (i - as.length) = i := by omega
      rw [List.getElem?_append_right (by omega), List.getElem?_append_right (by have := h.length_eq; omega),
        ← h.length_eq]
      exact h'.agree _ (by rwa [hsplit])

end Bytes

namespace Batch

open Bytes (AgreeBut)

/-- A field of another content in places that are all excepted. -/
private theorem agreeBut_write {excepted : Nat → Prop} (w : Nat) (m n : Int) (h : ∀ i, i < w → excepted i) :
    AgreeBut excepted (BigEndian.write w m) (BigEndian.write w n) := by
  refine .of_length (by rw [BigEndian.write_length, BigEndian.write_length]) fun i hi => h i ?_
  rwa [BigEndian.write_length] at hi

/-- What stands behind the base offset. -/
def Layout.behindBase (time : Int) (cs : List Record.Contents) : Bytes :=
  BigEndian.write 4 (9 + (checked time cs).length : Nat) ++ (BigEndian.write 4 (-1) ++ (BigEndian.write 1 magic ++
    (BigEndian.write 4 (Crc32c.checksum (checked time cs)).toNat ++ checked time cs)))

theorem batch_eq_write_append (base time : Int) (cs : List Record.Contents) :
    Layout.batch base time cs = BigEndian.write 8 base ++ Layout.behindBase time cs := by
  simp only [Layout.batch, Layout.behindBase, List.append_assoc]

private theorem agreeBut_batch_base (base base' time : Int) (cs : List Record.Contents) :
    AgreeBut (· < 8) (Layout.batch base time cs) (Layout.batch base' time cs) := by
  rw [batch_eq_write_append, batch_eq_write_append]
  exact (agreeBut_write 8 base base' fun _ hi => hi).append (.refl _)

/-- Another base offset can be put into a batch that has been written. -/
private theorem encode_rebased {base time : Value} {rs : List Record} {bytes : Bytes}
    (h : encode base time rs = .ok bytes) {n : Int} (hn : -2 ^ 63 ≤ n ∧ n < 2 ^ 63) :
    encode (.int n) time rs = .ok (BigEndian.write 8 n ++ bytes.drop 8) := by
  obtain ⟨b, t, cs, -, ht, hcs, fits, rfl⟩ := (encode_eq_ok base time rs bytes).mp h
  refine (encode_eq_ok _ _ _ _).mpr ⟨n, t, cs, rfl, ht, hcs, { fits with baseRange := hn }, ?_⟩
  rw [batch_eq_write_append, batch_eq_write_append, List.drop_left' (BigEndian.write_length ..)]

/-- The places that depend on the time stamp: the checksum, and the first and the last time stamp. -/
def OfTime (i : Nat) : Prop := 17 ≤ i ∧ i ≤ 20 ∨ 27 ≤ i ∧ i ≤ 42

private theorem agreeBut_checked (time time' : Int) (cs : List Record.Contents) :
    AgreeBut (fun i => OfTime (21 + i)) (Layout.checked time cs) (Layout.checked time' cs) := by
  unfold Layout.checked
  simp only [List.append_assoc]
  refine .append (.refl _) (.append (.refl _) ?_)
  simp only [BigEndian.write_length]
  refine .append (agreeBut_write 8 _ _ ?_) (.append (agreeBut_write 8 _ _ ?_) (.refl _))
  · intro i hi
    exact .inr (by omega)
  · intro i hi
    rw [BigEndian.write_length]
    exact .inr (by omega)

theorem agreeBut_batch_time (base time time' : Int) (cs : List Record.Contents) :
    AgreeBut OfTime (Layout.batch base time cs) (Layout.batch base time' cs) := by
  have hchecked := agreeBut_checked time time' cs
  unfold Layout.batch
  rw [hchecked.length_eq]
  simp only [List.append_assoc]
  refine .append (.refl _) (.append (.refl _) (.append (.refl _) (.append (.refl _) ?_)))
  simp only [BigEndian.write_length]
  refine .append (agreeBut_write 4 _ _ ?_) ?_
  · intro i hi
    exact .inl (by omega)
  · refine ⟨hchecked.length_eq, fun i hi => hchecked.agree i fun h => hi ?_⟩
    rw [BigEndian.write_length]
    rwa [show 8 + (4 + (4 + (1 + (4 + i)))) = 21 + i by omega]

/-- Batches of the same records have the same length.  If only their base offsets differ, they agree from the eighth
byte on, checksum included; so with any base offset of 64 bits put into its first eight bytes, a batch is the one of
that base offset.  If only their time stamps differ, they agree in all bytes but the four of the checksum and the
sixteen of the first and the last time stamp. -/
theorem stamps_stay_in_place {base time : Value} {rs : List Record} {bytes : Bytes}
    (h : encode base time rs = .ok bytes) :
    (∀ base' bytes', encode base' time rs = .ok bytes' → AgreeBut (· < 8) bytes bytes') ∧
    (∀ n : Int, -2 ^ 63 ≤ n ∧ n < 2 ^ 63 → encode (.int n) time rs = .ok (BigEndian.write 8 n ++ bytes.drop 8)) ∧
    ∀ time' bytes', encode base time' rs = .ok bytes' →
      AgreeBut (fun i => 17 ≤ i ∧ i ≤ 20 ∨ 27 ≤ i ∧ i ≤ 42) bytes bytes' := by
  obtain ⟨b, t, cs, hb, ht, hcs, -, hbytes⟩ := (encode_eq_ok base time rs bytes).mp h
  refine ⟨?_, fun n hn => encode_rebased h hn, ?_⟩
  · intro base' bytes' h'
    obtain ⟨b', t', cs', -, ht', hcs', -, rfl⟩ := (encode_eq_ok base' time rs bytes').mp h'
    obtain rfl := Option.some.inj (ht.symm.trans ht')
    obtain rfl := Option.some.inj (hcs.symm.trans hcs')
    rw [hbytes]
    exact agreeBut_batch_base b b' t cs
  · intro time' bytes' h'
    obtain ⟨b', t', cs', hb', -, hcs', -, rfl⟩ := (encode_eq_ok base time' rs bytes').mp h'
    obtain rfl := Option.some.inj (hb.symm.trans hb')
    obtain rfl := Option.some.inj (hcs.symm.trans hcs')
    rw [hbytes]
    exact agreeBut_batch_time b t t' cs

/-- A record with a header and one without anything, and what other stamps make of their batch. -/
theorem stamps_stay_in_place_two :
    ∃ rs bytes later timed, rs = [⟨.null, .bytes [7], .list [.tuple [.text "a", .null]]⟩, .empty] ∧
      encode (.int 0) (.int 0) rs = .ok bytes ∧ encode (.int 7) (.int 0) rs = .ok later ∧
      encode (.int 0) (.int (-1)) rs = .ok timed ∧ AgreeBut (· < 8) bytes later ∧
      later = BigEndian.write 8 7 ++ bytes.drop 8 ∧
      AgreeBut (fun i => 17 ≤ i ∧ i ≤ 20 ∨ 27 ≤ i ∧ i ≤ 42) bytes timed := by
  obtain ⟨rs, hrs⟩ : ∃ rs : List Record,
      rs = [⟨.null, .bytes [7], .list [.tuple [.text "a", .null]]⟩, .empty] := ⟨_, rfl⟩
  obtain ⟨bytes, hbytes⟩ : ∃ bytes, encode (.int 0) (.int 0) rs = .ok bytes := ⟨_, by rw [hrs]; rfl⟩
  obtain ⟨later, hlater⟩ : ∃ later, encode (.int 7) (.int 0) rs = .ok later := ⟨_, by rw [hrs]; rfl⟩
  obtain ⟨timed, htimed⟩ : ∃ timed, encode (.int 0) (.int (-1)) rs = .ok timed := ⟨_, by rw [hrs]; rfl⟩
  obtain ⟨hbase, hrebased, htime⟩ := stamps_stay_in_place hbytes
  have heq : later = BigEndian.write 8 7 ++ bytes.drop 8 :=
    Except.ok.inj (hlater.symm.trans (hrebased 7 (by decide)))
  exact ⟨rs, bytes, later, timed, hrs, hbytes, hlater, htimed, hbase _ _ hlater, heq, htime _ _ htimed⟩

end Batch

end RequestSamples
