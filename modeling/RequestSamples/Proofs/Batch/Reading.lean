import RequestSamples.Proofs.Batch.Layout
import RequestSamples.Proofs.Reader

/-!
# Reading a batch back

A reader of the layout of magic 2: a head of 61 bytes, then as many records as the head counts, each with its
length before it.  It takes numbers as it finds them and checks none of them against another, so that what a
batch says about itself can be compared with what it is.  The main fact is that the bytes of a batch are read
back to the last one: the records come out as they went in, and every length, count and offset difference of the
batch, and its checksum, is the right one (`read_encode`).
-/

namespace RequestSamples.Batch

open Reader

/-- Bytes with their length before them; the length `-1` stands for nothing. -/
def readBlob : Reader (Option Bytes) := do
  let n ← varint
  if n = -1 then return none
  else if n < 0 then failure
  else some <$> bytes n.toNat

/-- The text of which these bytes are the UTF-8 form. -/
def readText (blob : Option Bytes) : Reader String := fun bs => (blob.bind Bytes.toText?).map (·, bs)

/-- A header. -/
def readHeader : Reader (String × Option Bytes) := do
  let name ← readBlob
  let name ← readText name
  let value ← readBlob
  return (name, value)

/-- A record as it stands in a batch. -/
structure Stored where
  attributes : Int
  timeDelta : Int
  offsetDelta : Int
  contents : Record.Contents
deriving DecidableEq, Repr

/-- A record without its length. -/
def readStored : Reader Stored := do
  let attributes ← integer 1
  let timeDelta ← varint
  let offsetDelta ← varint
  let key ← readBlob
  let value ← readBlob
  let count ← varint
  let headers ← counted readHeader count
  return ⟨attributes, timeDelta, offsetDelta, key, value, headers⟩

/-- A record with the length that stands before it and the number of bytes that it takes. -/
structure Entry where
  length : Int
  size : Nat
  stored : Stored
deriving DecidableEq, Repr

/-- A record with its length. -/
def readEntry : Reader Entry := do
  let length ← varint
  let (stored, size) ← measured readStored
  return ⟨length, size, stored⟩

/-- A batch as it is read: the fields of its head, and its records. -/
structure Reading where
  baseOffset : Int
  length : Int
  leaderEpoch : Int
  magic : Int
  checksum : Nat
  attributes : Int
  lastOffsetDelta : Int
  baseTime : Int
  maxTime : Int
  producerId : Int
  producerEpoch : Int
  baseSequence : Int
  count : Int
  entries : List Entry
deriving DecidableEq, Repr

/-- A batch. -/
def read : Reader Reading := do
  let baseOffset ← integer 8
  let length ← integer 4
  let leaderEpoch ← integer 4
  let magic ← integer 1
  let checksum ← natural 4
  let attributes ← integer 2
  let lastOffsetDelta ← integer 4
  let baseTime ← integer 8
  let maxTime ← integer 8
  let producerId ← integer 8
  let producerEpoch ← integer 2
  let baseSequence ← integer 4
  let count ← integer 4
  let entries ← counted readEntry count
  return ⟨baseOffset, length, leaderEpoch, magic, checksum, attributes, lastOffsetDelta, baseTime, maxTime,
    producerId, producerEpoch, baseSequence, count, entries⟩

private theorem length_sized_some (bs : Bytes) : bs.length < (Layout.sized (some bs)).length := by
  have := Varint.length_write_pos bs.length
  rw [Layout.sized, List.length_append]
  omega

private theorem length_header_pos (h : String × Option Bytes) : 0 < (Layout.header h).length := by
  have := length_sized_some (Bytes.ofText h.1)
  rw [Layout.header, List.length_append]
  omega

private theorem length_le_length_flatten (hs : List (String × Option Bytes)) :
    hs.length ≤ (hs.map Layout.header).flatten.length := by
  induction hs with
  | nil => exact Nat.le_refl _
  | cons h hs ih =>
    have := length_header_pos h
    rw [List.map_cons, List.flatten_cons, List.length_append, List.length_cons]
    omega

private theorem length_header_le {h : String × Option Bytes} {hs : List (String × Option Bytes)} (hm : h ∈ hs) :
    (Layout.header h).length ≤ (hs.map Layout.header).flatten.length :=
  (List.sublist_flatten_of_mem (List.mem_map_of_mem hm)).length_le

private theorem takes_blob {b : Option Bytes} (h : (Layout.sized b).length < 2 ^ 63) :
    Takes readBlob (Layout.sized b) b := by
  cases b with
  | none =>
    rw [Layout.sized, ← List.append_nil (Varint.write (-1))]
    refine Takes.bind (takes_varint (by decide) (by decide)) ?_
    rw [if_pos rfl]
    exact Takes.pure none
  | some bs =>
    have hlen := length_sized_some bs
    refine Takes.bind (takes_varint (by omega) (by omega)) ?_
    rw [if_neg (by omega), if_neg (by omega)]
    exact (takes_bytes bs).map some

private theorem takes_header {h : String × Option Bytes} (hl : (Layout.header h).length < 2 ^ 63) :
    Takes readHeader (Layout.header h) h := by
  rw [Layout.header, List.length_append] at hl
  refine Takes.bind (takes_blob (by omega)) ?_
  have ht : Takes (readText (some (Bytes.ofText h.1))) [] h.1 := by
    intro rest
    show ((Bytes.toText? (Bytes.ofText h.1)).map (·, rest)) = _
    rw [Bytes.toText?_ofText]
    rfl
  exact ht.bind (takes_blob (by omega)).last

/-- A record as it is read back. -/
def Stored.ofContents (delta : Nat) (c : Record.Contents) : Stored := ⟨0, 0, delta, c⟩

private theorem takes_stored {delta : Nat} {c : Record.Contents} (hd : delta < 2 ^ 63)
    (hl : (Layout.record delta c).length < 2 ^ 63) :
    Takes readStored (Layout.record delta c) (.ofContents delta c) := by
  -- The count of the headers is a varint as well, so it must be bounded by the bytes that they take.
  have hn := length_le_length_flatten c.headers
  unfold Layout.record at hl ⊢
  simp only [List.length_append] at hl
  simp only [List.append_assoc]
  refine Takes.bind (takes_integer (w := 1) (n := 0) (by decide) (by decide)) ?_
  refine Takes.bind (takes_varint (by decide) (by decide)) ?_
  refine Takes.bind (takes_varint (by omega) (by omega)) ?_
  refine Takes.bind (takes_blob (by omega)) ?_
  refine Takes.bind (takes_blob (by omega)) ?_
  refine Takes.bind (takes_varint (by omega) (by omega)) ?_
  have hs : Takes (counted readHeader c.headers.length) (c.headers.map Layout.header).flatten c.headers := by
    unfold counted
    rw [if_neg (by omega)]
    exact takes_several fun h hm => takes_header (by have := length_header_le hm; omega)
  exact hs.last

/-- Records as they are read back, the first one `delta` records after the start of the batch. -/
def Entry.ofContents (delta : Nat) : List Record.Contents → List Entry
  | [] => []
  | c :: cs =>
    ⟨(Layout.record delta c).length, (Layout.record delta c).length, .ofContents delta c⟩ ::
      ofContents (delta + 1) cs

private theorem takes_entries {delta : Nat} {cs : List Record.Contents} (hd : delta + cs.length < 2 ^ 63)
    (hl : (Layout.body delta cs).length < 2 ^ 63) :
    Takes (several readEntry cs.length) (Layout.body delta cs) (Entry.ofContents delta cs) := by
  induction cs generalizing delta with
  | nil => exact Takes.pure []
  | cons c cs ih =>
    rw [List.length_cons] at hd
    simp only [Layout.body, List.length_append] at hl
    have he : Takes readEntry (Varint.write (Layout.record delta c).length ++ Layout.record delta c)
        ⟨(Layout.record delta c).length, (Layout.record delta c).length, .ofContents delta c⟩ := by
      refine Takes.bind (takes_varint (by omega) (by omega)) ?_
      exact (takes_stored (by omega) (by omega)).measured.last
    exact he.bind (ih (by omega) (by omega)).last

/-- A batch as it is read back. -/
def Reading.ofContents (base time : Int) (cs : List Record.Contents) : Reading where
  baseOffset := base
  length := (9 + (Layout.checked time cs).length : Nat)
  leaderEpoch := -1
  magic := Batch.magic
  checksum := (Crc32c.checksum (Layout.checked time cs)).toNat
  attributes := 0
  lastOffsetDelta := (cs.length - 1 : Nat)
  baseTime := time
  maxTime := time
  producerId := -1
  producerEpoch := -1
  baseSequence := -1
  count := cs.length
  entries := Entry.ofContents 0 cs

theorem takes_batch {base time : Int} {cs : List Record.Contents} (fits : Layout.Fits base time cs) :
    Takes read (Layout.batch base time cs) (.ofContents base time cs) := by
  obtain ⟨-, ⟨hb, hb'⟩, ⟨ht, ht'⟩, hn, hl⟩ := fits
  have hbody := length_checked time cs
  unfold Layout.batch
  -- Under the checksum and the length, what is checked stays folded: there only its size matters.
  conv => arg 2; arg 2; unfold Layout.checked
  simp only [List.append_assoc]
  refine Takes.bind (takes_integer (by omega) (by omega)) ?_
  refine Takes.bind (takes_integer (by omega) (by omega)) ?_
  refine Takes.bind (takes_integer (by decide) (by decide)) ?_
  refine Takes.bind (takes_integer (by decide) (by decide)) ?_
  refine Takes.bind (takes_natural (BitVec.isLt _)) ?_
  refine Takes.bind (takes_integer (by decide) (by decide)) ?_
  refine Takes.bind (takes_integer (by omega) (by omega)) ?_
  refine Takes.bind (takes_integer (by omega) (by omega)) ?_
  refine Takes.bind (takes_integer (by omega) (by omega)) ?_
  refine Takes.bind (takes_integer (by decide) (by decide)) ?_
  refine Takes.bind (takes_integer (by decide) (by decide)) ?_
  refine Takes.bind (takes_integer (by decide) (by decide)) ?_
  refine Takes.bind (takes_integer (by omega) (by omega)) ?_
  have he : Takes (counted readEntry cs.length) (Layout.body 0 cs) (Entry.ofContents 0 cs) := by
    unfold counted
    rw [if_neg (by omega)]
    exact takes_entries (by omega) (by omega)
  exact he.last

theorem length_batch (base time : Int) (cs : List Record.Contents) :
    (Layout.batch base time cs).length = 21 + (Layout.checked time cs).length := by
  simp only [Layout.batch, List.length_append, BigEndian.write_length]

/-- The checksum covers everything behind itself. -/
theorem drop_batch (base time : Int) (cs : List Record.Contents) :
    (Layout.batch base time cs).drop 21 = Layout.checked time cs := by
  unfold Layout.batch
  apply List.drop_left'
  simp only [List.length_append, BigEndian.write_length]

private theorem contents_ofContents (delta : Nat) (cs : List Record.Contents) :
    (Entry.ofContents delta cs).map (·.stored.contents) = cs := by
  induction cs generalizing delta with
  | nil => rfl
  | cons c cs ih => exact congrArg (List.cons c) (ih (delta + 1))

theorem offsets_ofContents (delta : Nat) (cs : List Record.Contents) :
    (Entry.ofContents delta cs).map (·.stored.offsetDelta) = (List.range' delta cs.length).map Int.ofNat := by
  induction cs generalizing delta with
  | nil => rfl
  | cons c cs ih => exact congrArg (List.cons (Int.ofNat delta)) (ih (delta + 1))

theorem length_eq_size_ofContents {delta : Nat} {cs : List Record.Contents} {e : Entry}
    (h : e ∈ Entry.ofContents delta cs) : e.length = e.size := by
  induction cs generalizing delta with
  | nil => cases h
  | cons c cs ih =>
    rcases List.mem_cons.1 h with rfl | h
    · rfl
    · exact ih h

/-- What is written is read back to the last byte, and all that a batch says about itself is right: it gives the
base offset, the time stamp and the contents of the records in their order; the offset differences count from
zero; the lengths are those of what follows them, and the checksum is that of everything behind it. -/
theorem read_encode {base time : Value} {rs : List Record} {bytes : Bytes}
    (h : encode base time rs = .ok bytes) :
    ∃ r : Reading, read.run bytes = some (r, []) ∧ r.magic = 2 ∧
      base.integer? = some r.baseOffset ∧ time.integer? = some r.baseTime ∧ r.maxTime = r.baseTime ∧
      rs.mapM Record.contents? = some (r.entries.map (·.stored.contents)) ∧
      r.entries.map (·.stored.offsetDelta) = (List.range rs.length).map Int.ofNat ∧
      r.lastOffsetDelta = rs.length - 1 ∧ r.count = rs.length ∧ r.length = bytes.length - 12 ∧
      (∀ e ∈ r.entries, e.length = e.size) ∧
      r.checksum = (Crc32c.checksum (bytes.drop 21)).toNat := by
  obtain ⟨b, t, cs, hb, ht, hcs, fits, rfl⟩ := (encode_eq_ok base time rs bytes).1 h
  have hn := length_eq_of_mapM_eq_some hcs
  have hpos : 0 < cs.length := List.length_pos_iff.2 fits.nonempty
  refine ⟨.ofContents b t cs, (takes_batch fits).run_eq, rfl, hb, ht, rfl, ?_, ?_, ?_, ?_, ?_, ?_, ?_⟩
  · rw [hcs]
    exact congrArg some (contents_ofContents 0 cs).symm
  · rw [← hn, List.range_eq_range']
    exact offsets_ofContents 0 cs
  · show ((cs.length - 1 : Nat) : Int) = rs.length - 1
    omega
  · show (cs.length : Int) = rs.length
    omega
  · show ((9 + (Layout.checked t cs).length : Nat) : Int) = _
    rw [length_batch]
    omega
  · intro e he
    exact length_eq_size_ofContents he
  · rw [drop_batch]
    rfl

/-- A header may be repeated and may have no value; an empty value is not the same as none. -/
theorem read_encode_repeated_header :
    ∃ bytes r,
      encode (.int 5) (.int (-1))
        [⟨.null, .bytes [], .list [.tuple [.text "a", .null], .tuple [.text "a", .bytes [7]]]⟩, .empty] =
          .ok bytes ∧
      read.run bytes = some (r, []) ∧ r.baseOffset = 5 ∧ r.baseTime = -1 ∧
      r.entries.map (·.stored.contents) =
        [⟨none, some [], [("a", none), ("a", some [7])]⟩, ⟨none, none, []⟩] := by
  obtain ⟨bytes, h⟩ : ∃ bytes,
      encode (.int 5) (.int (-1))
        [⟨.null, .bytes [], .list [.tuple [.text "a", .null], .tuple [.text "a", .bytes [7]]]⟩, .empty] =
          .ok bytes := ⟨_, rfl⟩
  obtain ⟨r, hr, -, hb, ht, -, hc, -⟩ := read_encode h
  exact ⟨bytes, r, h, hr, (Option.some.inj hb).symm, (Option.some.inj ht).symm, (Option.some.inj hc).symm⟩

end RequestSamples.Batch
