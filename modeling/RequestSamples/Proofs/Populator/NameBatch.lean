import RequestSamples.Proofs.Batch.Reading
import RequestSamples.Proofs.Batch.Twins
import RequestSamples.Proofs.Entries
import RequestSamples.Proofs.Populator.Supply

/-!
# The batch of a name

A Produce request gets one topic with one partition, and the records of the partition are a batch that holds the drawn
name.

* (size) a name goes into a batch if and only if its UTF-8 form has at most `maxName` bytes (`fitsBatch_iff`);
* (contents) the batch is read back to the last byte and holds the name (`holdsName_batch`), so batches of different
  names differ (`name_eq_of_nameBatch`);
* (time) the batch is the same whatever a clock shows (`nameBatchAt_eq`).
-/

namespace RequestSamples

/-- An object answers for its fields first. -/
private theorem Value.field_of_lookup {shape : Shape} {fields extras : Entries} {name : String} {v : Value}
    (h : fields.lookup name = some v) : (object shape fields extras).field name = .ok v := by
  simp only [field, attribute?, h]
  rfl

namespace Populator

/-- An object answers with what has been put into its fields. -/
private theorem field_assign {v w : Value} {shape : Shape} {es : Entries} {name : String} (hv : v.hasShape shape = true)
    (hnodup : (es.map (·.1)).Nodup) (h : (name, w) ∈ es) : (assign es v).field name = .ok w := by
  cases v with
  | object => exact Value.field_of_lookup (Entries.lookup_putAll_of_mem hnodup h)
  | _ => cases hv

theorem field_assign_singleton {v w : Value} {shape : Shape} {name : String} (hv : v.hasShape shape = true) :
    (assign [(name, w)] v).field name = .ok w :=
  field_assign hv (List.pairwise_singleton _ name) List.mem_cons_self

/-- The most bytes that a name may have. -/
def maxName : Nat := 2 ^ 31 - 65

/-- A name goes into a batch if and only if it is short enough. -/
theorem fitsBatch_iff {name : String} : FitsBatch name ↔ (Bytes.ofText name).length ≤ maxName := by
  rw [FitsBatch, nameContents, Batch.Layout.length_checked_single, maxName]
  generalize (Bytes.ofText name).length = size
  -- In question are only sizes for which both lengths take five bytes.
  by_cases hsize : size < 2 ^ 31
  · have hle := Varint.length_write_le_iff (k := 4) (n := size) (by decide) (by omega)
    have hgt := Varint.length_write_le_iff (k := 3) (n := size) (by decide) (by omega)
    generalize (Varint.write size).length = a at hle hgt ⊢
    have hle' := Varint.length_write_le_iff (k := 4) (n := 5 + a + size) (by decide) (by omega)
    have hgt' := Varint.length_write_le_iff (k := 3) (n := 5 + a + size) (by decide) (by omega)
    omega
  · omega

/-- The bytes are those of one batch and no others.  All that the batch says about itself is right, and its only record
has the name as its value and neither key nor headers, at base offset and time zero. -/
def HoldsName (bytes : Bytes) (name : String) : Prop :=
  ∃ r : Batch.Reading, Batch.read.run bytes = some (r, []) ∧ r.magic = 2 ∧ r.baseOffset = 0 ∧ r.baseTime = 0 ∧
    r.maxTime = 0 ∧ r.count = 1 ∧ r.lastOffsetDelta = 0 ∧ r.length = bytes.length - 12 ∧
    r.checksum = (Crc32c.checksum (bytes.drop 21)).toNat ∧
    ∃ size : Nat, r.entries = [⟨size, size, ⟨0, 0, 0, ⟨none, some (Bytes.ofText name), []⟩⟩⟩]

theorem holdsName_batch {name : String} (h : FitsBatch name) :
    HoldsName (Batch.Layout.batch 0 0 [nameContents name]) name := by
  have fits : Batch.Layout.Fits 0 0 [nameContents name] := ⟨by simp, by decide, by decide, by simp, h⟩
  refine ⟨.ofContents 0 0 [nameContents name], (Batch.takes_batch fits).run_eq, rfl, rfl, rfl, rfl, rfl, rfl, ?_, ?_,
    _, rfl⟩
  · rw [Batch.length_batch]
    show ((9 + (Batch.Layout.checked 0 [nameContents name]).length : Nat) : Int) = _
    omega
  · rw [Batch.drop_batch]
    rfl

/-- Bytes hold one name at most. -/
private theorem HoldsName.name_eq {bytes : Bytes} {name name' : String} (h : HoldsName bytes name)
    (h' : HoldsName bytes name') : name = name' := by
  obtain ⟨r, hr, -, -, -, -, -, -, -, -, size, hentries⟩ := h
  obtain ⟨r', hr', -, -, -, -, -, -, -, -, size', hentries'⟩ := h'
  obtain rfl : r = r' := congrArg Prod.fst (Option.some.inj (hr.symm.trans hr'))
  have hbytes : Bytes.ofText name = Bytes.ofText name' := by
    have hboth := hentries.symm.trans hentries'
    simp only [List.cons.injEq, Batch.Entry.mk.injEq, Batch.Stored.mk.injEq, Record.Contents.mk.injEq,
      Option.some.injEq] at hboth
    tauto
  have htext := congrArg Bytes.toText? hbytes
  rw [Bytes.toText?_ofText, Bytes.toText?_ofText] at htext
  exact Option.some.inj htext

/-- Exactly the names that fit have a batch. -/
private theorem nameBatch_eq_ok {name : String} {v : Value} :
    nameBatch (.text name) = .ok v ↔ FitsBatch name ∧ v = .bytes (Batch.Layout.batch 0 0 [nameContents name]) := by
  constructor
  · intro h
    obtain ⟨record, hrecord, h⟩ := Except.bind_eq_ok.mp h
    obtain ⟨bytes, hbytes, h⟩ := Except.bind_eq_ok.mp h
    cases h
    cases hrecord
    obtain ⟨base, time, cs, hbase, htime, hcs, fits, rfl⟩ := (Batch.encode_eq_ok _ _ _ _).mp hbytes
    cases hbase
    cases htime
    cases hcs
    exact ⟨fits.lengthRange, rfl⟩
  · rintro ⟨hfits, rfl⟩
    exact nameBatch_of_fitsBatch hfits

/-- Names with one batch are one name. -/
theorem name_eq_of_nameBatch {name name' : String} {v : Value} (h : nameBatch (.text name) = .ok v)
    (h' : nameBatch (.text name') = .ok v) : name = name' := by
  obtain ⟨hfits, rfl⟩ := nameBatch_eq_ok.mp h
  obtain ⟨hfits', hv⟩ := nameBatch_eq_ok.mp h'
  have hholds := holdsName_batch hfits'
  rw [← Value.bytes.inj hv] at hholds
  exact (holdsName_batch hfits).name_eq hholds

/-- The batch of a name, made when a clock shows this. -/
def nameBatchAt (clock name : Value) : Except Failure Value := do
  let record ← Record.make name .null .null
  return .bytes (← Batch.encodeAt clock (.int 0) recordTimestamp [record])

/-- The time stamp is given, so the clock is not asked. -/
theorem nameBatchAt_eq (clock name : Value) : nameBatchAt clock name = nameBatch name := rfl

/-- The value asks for full acknowledgement and for one topic without a name, which has one partition, at index zero,
with these bytes as its records. -/
def Publishes (v : Value) (bytes : Bytes) : Prop :=
  v.field "acks" = .ok (.int (-1)) ∧
    ∃ topic partition, v.field "topic_data" = .ok (.list [topic]) ∧ topic.hasShape .topicProduceData = true ∧
      topic.field "name" = .ok (.text "") ∧ topic.field "partition_data" = .ok (.list [partition]) ∧
      partition.hasShape .partitionProduceData = true ∧ partition.field "index" = .ok (.int 0) ∧
      partition.field "records" = .ok (.bytes bytes)

variable {σ : Type} {source : NameSource σ} {s s' : σ} {name : String}

/-- The populator of Produce requests puts the batch of the name that it draws into any such request. -/
theorem publishes_of_draw (hdraw : source.name.on s = (.ok (.text name), s')) (h : FitsBatch name)
    (fields extras : Entries) :
    ∃ writes, produce.run source (.object .produce fields extras) s = (.ok (), ⟨s', writes⟩) ∧
      Publishes (assign writes (.object .produce fields extras)) (Batch.Layout.batch 0 0 [nameContents name]) := by
  have hvs : drawAll source produce.demand s = (.ok [.text name], s') := by
    rw [demand, drawAll_cons (d := .name) hdraw]
    rfl
  obtain ⟨topic, partition, hes, hshape, hname, hpartitions, hshape', hindex, hrecords⟩ :
      ∃ topic partition, produce.fields [.text name] = .ok [("acks", .int (-1)), ("topic_data", .list [topic])] ∧
        topic.hasShape .topicProduceData = true ∧ topic.field "name" = .ok (.text "") ∧
        topic.field "partition_data" = .ok (.list [partition]) ∧
        partition.hasShape .partitionProduceData = true ∧ partition.field "index" = .ok (.int 0) ∧
        partition.field "records" = .ok (.bytes (Batch.Layout.batch 0 0 [nameContents name])) := by
    simp only [Populator.fields, nameBatch_of_fitsBatch h]
    exact ⟨_, _, rfl, rfl, rfl, rfl, rfl, rfl, rfl⟩
  have hnodup : ["acks", "topic_data"].Nodup := by decide
  have hshaped : (Value.object .produce fields extras).hasShape .produce = true := rfl
  refine ⟨_, run_of_drawAll rfl hvs hes, ?_, topic, partition, ?_, hshape, hname, hpartitions, hshape', hindex,
    hrecords⟩
  · exact field_assign hshaped hnodup List.mem_cons_self
  · exact field_assign hshaped hnodup (List.mem_cons_of_mem _ List.mem_cons_self)

end Populator

end RequestSamples
