import RequestSamples.Proofs.Batch.Layout

/-!
# Batches that differ in one value

Of a batch with a single record that has neither key nor headers, all but the checksum and the value of the record
follows from the length of the value (`batch_single`).  So such batches agree everywhere else if their values have
one length (`twins_of_length`).
-/

namespace RequestSamples.Batch

/-- Both batches hold one record, and they agree except for the four bytes of the checksum and for the bytes of the
value of the record, of which there are as many. -/
def Twins (a b : Bytes) : Prop :=
  ∃ front checksum checksum' middle value value' back : Bytes,
    front.length = 17 ∧ checksum.length = 4 ∧ checksum'.length = 4 ∧ value.length = value'.length ∧ back.length = 1 ∧
      a = front ++ checksum ++ middle ++ value ++ back ∧ b = front ++ checksum' ++ middle ++ value' ++ back ∧
      a = Layout.batch 0 0 [⟨none, some value, []⟩] ∧ b = Layout.batch 0 0 [⟨none, some value', []⟩]

namespace Layout

/-- What stands before the value in a record without key and headers. -/
def beforeValue (n : Nat) : Bytes := [0] ++ Varint.write 0 ++ Varint.write 0 ++ Varint.write (-1) ++ Varint.write n

/-- What stands between the checksum and the value in a batch of such a record. -/
def middle (n : Nat) : Bytes :=
  BigEndian.write 2 0 ++ BigEndian.write 4 0 ++ BigEndian.write 8 0 ++ BigEndian.write 8 0 ++
    BigEndian.write 8 (-1) ++ BigEndian.write 2 (-1) ++ BigEndian.write 4 (-1) ++ BigEndian.write 4 1 ++
    Varint.write ((beforeValue n).length + n + (Varint.write 0).length : Nat) ++ beforeValue n

private theorem checked_single (value : Bytes) :
    checked 0 [⟨none, some value, []⟩] = middle value.length ++ value ++ Varint.write 0 := by
  have hrecord : record 0 ⟨none, some value, []⟩ = beforeValue value.length ++ value ++ Varint.write 0 := by
    simp [record, sized, beforeValue]
  have hlength : (record 0 ⟨none, some value, []⟩).length =
      (beforeValue value.length).length + value.length + (Varint.write 0).length := by
    rw [hrecord, List.length_append, List.length_append]
  rw [checked, body, body, hlength, hrecord, middle]
  simp

theorem length_checked_single (value : Bytes) :
    (checked 0 [⟨none, some value, []⟩]).length =
      45 + value.length + (Varint.write value.length).length +
        (Varint.write (5 + (Varint.write value.length).length + value.length : Nat)).length := by
  have hone : (Varint.write 0).length = 1 ∧ (Varint.write (-1)).length = 1 := ⟨rfl, rfl⟩
  have hsize : (beforeValue value.length).length + value.length + 1 =
      5 + (Varint.write value.length).length + value.length := by
    simp only [beforeValue, List.length_append, List.length_singleton, hone]
    omega
  rw [checked_single]
  simp only [middle, List.length_append, BigEndian.write_length, hone, hsize]
  omega

/-- What stands before the checksum. -/
def front (n : Nat) : Bytes :=
  BigEndian.write 8 0 ++ BigEndian.write 4 (9 + ((middle n).length + n + (Varint.write 0).length) : Nat) ++
    BigEndian.write 4 (-1) ++ BigEndian.write 1 magic

theorem batch_single (value : Bytes) :
    batch 0 0 [⟨none, some value, []⟩] =
      front value.length ++ BigEndian.write 4 (Crc32c.checksum (checked 0 [⟨none, some value, []⟩])).toNat ++
        middle value.length ++ value ++ Varint.write 0 := by
  have hlength : (checked 0 [⟨none, some value, []⟩]).length =
      (middle value.length).length + value.length + (Varint.write 0).length := by
    rw [checked_single, List.length_append, List.length_append]
  rw [batch, hlength]
  generalize Crc32c.checksum (checked 0 [⟨none, some value, []⟩]) = crc
  rw [checked_single, front]
  simp only [List.append_assoc]

end Layout

/-- Batches of values of one length differ only in the checksum and in the values. -/
theorem twins_of_length {value value' : Bytes} (h : value.length = value'.length) :
    Twins (Layout.batch 0 0 [⟨none, some value, []⟩]) (Layout.batch 0 0 [⟨none, some value', []⟩]) := by
  have hbatch := Layout.batch_single value
  have hbatch' := Layout.batch_single value'
  rw [← h] at hbatch'
  have hfront : (Layout.front value.length).length = 17 := by simp [Layout.front]
  exact ⟨_, _, _, _, value, value', _, hfront, BigEndian.write_length 4 _, BigEndian.write_length 4 _, h, rfl, hbatch,
    hbatch', rfl, rfl⟩

end RequestSamples.Batch
