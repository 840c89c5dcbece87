import RequestSamples.Proofs.Batch.Reading
import RequestSamples.Proofs.Batch.Refusal

/-!
# When a batch is accepted

Nothing checks a record before it is written, so what is refused is what cannot be written.

* (records) they can be written exactly if they are well-formed (`exists_body_eq_ok`);
* (numbers) the base offset and the time stamp must fit into 64 bits, and what is counted into 31 bits: the number of
  records does if the length of the batch does (`fits_iff`);
* (refusal) well-formed records are refused for a number that does not fit only (`kind_of_refused`);
* (soundness) what is written is right about itself (`isSound_batch`).

All of this is about the values that there are here (`acceptance_is_exact`); buffers that are no bytes are not among
them.
-/

namespace RequestSamples

/-- Bytes or nothing. -/
def Value.IsBlob (v : Value) : Prop := v = .null ∨ ∃ bs, v = .bytes bs

/-- What unpacks into a text and bytes or nothing.  Every text has a UTF-8 form. -/
def Value.IsHeader (v : Value) : Prop := ∃ name w, v.elements? = some [.text name, w] ∧ w.IsBlob

/-- A record with bytes or nothing as key and value, and with headers that can be counted and run through. -/
structure Record.WellFormed (r : Record) : Prop where
  key : r.key.IsBlob
  value : r.value.IsBlob
  headers : ∃ rows, r.headers.elements? = some rows ∧ ∀ row ∈ rows, row.IsHeader

private theorem Value.exists_blob? {v : Value} : (∃ b, v.blob? = some b) ↔ v.IsBlob := by
  constructor
  · rintro ⟨b, hb⟩
    unfold Value.blob? at hb
    split at hb
    · exact .inl rfl
    · exact .inr ⟨_, rfl⟩
    · cases hb
  · rintro (rfl | ⟨bs, rfl⟩)
    · exact ⟨none, rfl⟩
    · exact ⟨some bs, rfl⟩

private theorem Value.exists_header? {v : Value} : (∃ h, v.header? = some h) ↔ v.IsHeader := by
  constructor
  · rintro ⟨h, hh⟩
    unfold Value.header? at hh
    split at hh
    · rename_i name w hv
      obtain ⟨b, hb, -⟩ := Option.map_eq_some_iff.mp hh
      exact ⟨name, w, hv, exists_blob?.mp ⟨b, hb⟩⟩
    · cases hh
  · rintro ⟨name, w, hv, hw⟩
    obtain ⟨b, hb⟩ := exists_blob?.mpr hw
    exact ⟨(name, b), by simp [Value.header?, hv, hb]⟩

private theorem Record.exists_contents? {r : Record} : (∃ c, r.contents? = some c) ↔ r.WellFormed := by
  simp only [Record.contents?, Option.bind_eq_bind, Option.bind_eq_some_iff, Option.pure_def, Option.some.injEq]
  constructor
  · rintro ⟨_, key, hkey, value, hvalue, rows, hrows, headers, hheaders, -⟩
    refine ⟨Value.exists_blob?.mp ⟨key, hkey⟩, Value.exists_blob?.mp ⟨value, hvalue⟩, rows, hrows, ?_⟩
    intro row hrow
    exact Value.exists_header?.mp (exists_mapM_eq_some.mp ⟨headers, hheaders⟩ row hrow)
  · rintro ⟨hkey, hvalue, rows, hrows, hall⟩
    obtain ⟨key, hkey⟩ := Value.exists_blob?.mpr hkey
    obtain ⟨value, hvalue⟩ := Value.exists_blob?.mpr hvalue
    obtain ⟨headers, hheaders⟩ := exists_mapM_eq_some.mpr fun row hrow => Value.exists_header?.mpr (hall row hrow)
    exact ⟨_, key, hkey, value, hvalue, rows, hrows, headers, hheaders, rfl⟩

namespace Batch

open RequestSamples.Except (OnlyFails)

private theorem exists_contents {rs : List Record} :
    (∃ cs, rs.mapM Record.contents? = some cs) ↔ ∀ r ∈ rs, r.WellFormed := by
  rw [exists_mapM_eq_some]
  exact forall₂_congr fun _ _ => Record.exists_contents?

/-- Records can be written exactly if they are well-formed. -/
theorem exists_body_eq_ok {delta : Nat} {rs : List Record} :
    (∃ bytes, body delta rs = .ok bytes) ↔ ∀ r ∈ rs, r.WellFormed := by
  rw [← exists_contents]
  constructor
  · rintro ⟨bytes, h⟩
    obtain ⟨cs, hcs, -⟩ := (body_eq_ok delta rs bytes).mp h
    exact ⟨cs, hcs⟩
  · rintro ⟨cs, hcs⟩
    exact ⟨_, (body_eq_ok delta rs _).mpr ⟨cs, hcs, rfl⟩⟩

private theorem length_le_length_body (delta : Nat) (cs : List Record.Contents) :
    cs.length ≤ (Layout.body delta cs).length := by
  induction cs generalizing delta with
  | nil => exact Nat.le_refl 0
  | cons c cs ih =>
    have hpos := Varint.length_write_pos (Layout.record delta c).length
    have htail := ih (delta + 1)
    rw [Layout.body, List.length_append, List.length_append, List.length_cons]
    omega

theorem fits_iff {base time : Int} {cs : List Record.Contents} :
    Layout.Fits base time cs ↔ cs ≠ [] ∧ (-2 ^ 63 ≤ time ∧ time < 2 ^ 63) ∧ (-2 ^ 63 ≤ base ∧ base < 2 ^ 63) ∧
      49 + (Layout.body 0 cs).length ≤ 2 ^ 31 - 1 := by
  have hcount := length_le_length_body 0 cs
  have hlength := length_checked time cs
  constructor
  · rintro ⟨hne, hbase, htime, -, hrange⟩
    exact ⟨hne, htime, hbase, by omega⟩
  · rintro ⟨hne, htime, hbase, hrange⟩
    exact ⟨hne, hbase, htime, by omega, by omega⟩

/-- Well-formed records are refused only for a number that does not fit into its field, or is none. -/
theorem kind_of_refused {base time : Value} {rs : List Record} (hne : rs ≠ []) (hrs : ∀ r ∈ rs, r.WellFormed)
    {e : Failure} (h : encode base time rs = .error e) : e.kind = "struct.error" := by
  obtain ⟨records, hbody⟩ := exists_body_eq_ok.mpr hrs
  have hwritten : OnlyFails IsMisfit (body 0 rs) := hbody ▸ .ok records
  exact (encode_onlyFails_of_body (fun _ he => he) hwritten hne base time e h).kind

/-- What a batch says about itself is right: its version, that it is neither compressed nor a producer's, its lengths
and counts, its offset differences and its checksum. -/
structure Reading.Sound (r : Reading) (bytes : Bytes) : Prop where
  magic : r.magic = 2
  attributes : r.attributes = 0
  producer : r.producerId = -1 ∧ r.producerEpoch = -1 ∧ r.baseSequence = -1
  length : r.length = bytes.length - 12
  checksum : r.checksum = (Crc32c.checksum (bytes.drop 21)).toNat
  maxTime : r.maxTime = r.baseTime
  nonempty : r.entries ≠ []
  count : r.count = r.entries.length
  lastOffsetDelta : r.lastOffsetDelta = r.entries.length - 1
  offsetDeltas : r.entries.map (·.stored.offsetDelta) = (List.range r.entries.length).map Int.ofNat
  sizes : ∀ e ∈ r.entries, e.length = e.size

/-- A byte string that is a batch to its last byte, and right about itself. -/
def IsSound (bytes : Bytes) : Prop := ∃ r : Reading, read.run bytes = some (r, []) ∧ r.Sound bytes

private theorem length_ofContents (delta : Nat) (cs : List Record.Contents) :
    (Entry.ofContents delta cs).length = cs.length := by
  induction cs generalizing delta with
  | nil => rfl
  | cons c cs ih => exact congrArg (· + 1) (ih (delta + 1))

theorem isSound_batch {base time : Int} {cs : List Record.Contents} (fits : Layout.Fits base time cs) :
    IsSound (Layout.batch base time cs) := by
  have hentries := length_ofContents 0 cs
  have hpos : 0 < cs.length := List.length_pos_iff.mpr fits.nonempty
  have hlength := length_batch base time cs
  refine ⟨.ofContents base time cs, (takes_batch fits).run_eq, ?_⟩
  constructor
  case magic => rfl
  case attributes => rfl
  case producer => exact ⟨rfl, rfl, rfl⟩
  case length =>
    show ((9 + (Layout.checked time cs).length : Nat) : Int) = _
    omega
  case checksum =>
    rw [drop_batch]
    rfl
  case maxTime => rfl
  case nonempty => exact List.length_pos_iff.mp (hentries ▸ hpos)
  case count => exact congrArg Int.ofNat hentries.symm
  case lastOffsetDelta =>
    show ((cs.length - 1 : Nat) : Int) = (Entry.ofContents 0 cs).length - 1
    omega
  case offsetDeltas =>
    show _ = (List.range (Entry.ofContents 0 cs).length).map Int.ofNat
    rw [hentries, List.range_eq_range']
    exact offsets_ofContents 0 cs
  case sizes =>
    intro e he
    exact length_eq_size_ofContents he

/-- With integers of any size as base offset and time stamp, records are written as a batch exactly if there are some,
all of them are well-formed, both integers have 64 bits, and what follows the length field has a length of 31 bits:
49 bytes and the records.  No records at all are refused as such before anything else; well-formed records are refused
for numbers that do not fit.  Whatever is given, a batch that is written is sound. -/
theorem acceptance_is_exact (rs : List Record) :
    (∀ (base time : Value) (b t : Int), base.integer? = some b → time.integer? = some t →
      ((∃ bytes, encode base time rs = .ok bytes) ↔
        rs ≠ [] ∧ (∀ r ∈ rs, r.WellFormed) ∧ (-2 ^ 63 ≤ t ∧ t < 2 ^ 63) ∧ (-2 ^ 63 ≤ b ∧ b < 2 ^ 63) ∧
          ∃ records, body 0 rs = .ok records ∧ 49 + records.length ≤ 2 ^ 31 - 1)) ∧
    (∀ base time : Value, encode base time [] = .error .emptyBatch ∧ Failure.emptyBatch.kind = "ValueError") ∧
    (∀ (base time : Value) (e : Failure), rs ≠ [] → (∀ r ∈ rs, r.WellFormed) → encode base time rs = .error e →
      e.kind = "struct.error") ∧
    ∀ (base time : Value) (bytes : Bytes), encode base time rs = .ok bytes → IsSound bytes := by
  refine ⟨?_, fun _ _ => ⟨rfl, rfl⟩, fun base time e hne hrs h => kind_of_refused hne hrs h, ?_⟩
  · intro base time b t hb ht
    simp only [encode_eq_ok, hb, ht, Option.some.injEq, fits_iff, body_eq_ok]
    constructor
    · rintro ⟨_, _, _, cs, rfl, rfl, hcs, ⟨hne, htime, hbase, hrange⟩, -⟩
      refine ⟨?_, exists_contents.mp ⟨cs, hcs⟩, htime, hbase, _, ⟨cs, hcs, rfl⟩, hrange⟩
      rintro rfl
      cases hcs
      exact hne rfl
    · rintro ⟨hne, -, htime, hbase, _, ⟨cs, hcs, rfl⟩, hrange⟩
      refine ⟨_, b, t, cs, rfl, rfl, hcs, ⟨?_, htime, hbase, hrange⟩, rfl⟩
      rintro rfl
      exact hne (List.length_eq_zero_iff.mp (length_eq_of_mapM_eq_some hcs).symm)
  · intro base time bytes h
    obtain ⟨b, t, cs, -, -, -, fits, rfl⟩ := (encode_eq_ok base time rs bytes).mp h
    exact isSound_batch fits

end Batch

end RequestSamples
