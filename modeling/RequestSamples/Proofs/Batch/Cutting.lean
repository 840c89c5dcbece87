import RequestSamples.Proofs.Batch.Reading

/-!
# Batches laid end to end

A byte string is cut into pieces by reading the size of the next piece from the front of what is left, until
nothing is left.  If every piece tells its size whatever follows it, then the pieces laid end to end are cut
back into the same pieces (`pieces?_flatten`).  A batch tells its size in its head, and a record by the length
before it.  So batches laid end to end come apart again, and so do the records within each of them
(`batches_come_apart`).
-/

namespace RequestSamples

namespace Bytes

/-- The bytes in pieces of the sizes that `size?` reads at the front of what is left.  A piece without bytes, one
that is longer than what is left and one of no size are refused. -/
def pieces? (size? : Bytes → Option Nat) (bs : Bytes) : Option (List Bytes) :=
  if bs.isEmpty then some []
  else match size? bs with
    | none => none
    | some n =>
      if 0 < n ∧ n ≤ bs.length then (pieces? size? (bs.drop n)).map (bs.take n :: ·) else none
termination_by bs.length
decreasing_by
  rw [List.length_drop]
  omega

/-- A piece that has bytes and tells how many, whatever follows it. -/
structure TellsSize (size? : Bytes → Option Nat) (p : Bytes) : Prop where
  nonempty : p ≠ []
  size (rest : Bytes) : size? (p ++ rest) = some p.length

private theorem pieces?_nil (size? : Bytes → Option Nat) : pieces? size? [] = some [] := by
  rw [pieces?, List.isEmpty_nil, if_pos rfl]

private theorem pieces?_append {size? : Bytes → Option Nat} {p : Bytes} (h : TellsSize size? p) (rest : Bytes) :
    pieces? size? (p ++ rest) = (pieces? size? rest).map (p :: ·) := by
  have hpos : 0 < p.length := List.length_pos_iff.2 h.nonempty
  have hlen : (p ++ rest).length = p.length + rest.length := List.length_append
  have hne : ¬ (p ++ rest).isEmpty = true := by
    rw [List.isEmpty_iff_length_eq_zero]
    omega
  rw [pieces?, if_neg hne, h.size rest]
  simp only
  rw [if_pos ⟨hpos, by omega⟩, List.drop_left, List.take_left]

/-- Pieces that tell their sizes are cut apart where they were laid end to end, and nothing is left over. -/
theorem pieces?_flatten {size? : Bytes → Option Nat} {ps : List Bytes} (h : ∀ p ∈ ps, TellsSize size? p) :
    pieces? size? ps.flatten = some ps := by
  induction ps with
  | nil => exact pieces?_nil size?
  | cons p ps ih =>
    rw [List.flatten_cons, pieces?_append (h p (List.mem_cons_self ..)),
      ih fun q hq => h q (List.mem_cons_of_mem _ hq), Option.map_some]

end Bytes

namespace Batch

open Bytes

/-- The size of the batch at the front: the signed length of 32 bits at index 8 counts what follows it. -/
def batchSize? (bs : Bytes) : Option Nat :=
  let length := BigEndian.read ((bs.drop 8).take 4)
  if 12 ≤ bs.length ∧ 0 ≤ length then some (12 + length.toNat) else none

/-- The size of the record at the front: the varint there counts what follows it. -/
def entrySize? (bs : Bytes) : Option Nat := do
  let ((length, size), _) ← (Reader.measured Reader.varint).run bs
  if 0 ≤ length then some (size + length.toNat) else none

private theorem batch_tellsSize {base time : Int} {cs : List Record.Contents} (fits : Layout.Fits base time cs) :
    TellsSize batchSize? (Layout.batch base time cs) := by
  have hlen := length_batch base time cs
  have hrange := fits.lengthRange
  refine ⟨List.length_pos_iff.1 (by omega), fun rest => ?_⟩
  have hfield : ((Layout.batch base time cs ++ rest).drop 8).take 4 =
      BigEndian.write 4 (9 + (Layout.checked time cs).length : Nat) := by
    simp only [Layout.batch, List.append_assoc]
    rw [List.drop_left' (BigEndian.write_length ..), List.take_left' (BigEndian.write_length ..)]
  have hread : BigEndian.read (BigEndian.write 4 (9 + (Layout.checked time cs).length : Nat)) =
      (9 + (Layout.checked time cs).length : Nat) := BigEndian.read_write (by omega) (by omega)
  unfold batchSize?
  rw [hfield, hread]
  simp only
  rw [if_pos ⟨by rw [List.length_append]; omega, by omega⟩, hlen]
  exact congrArg some (by omega)

private theorem entry_tellsSize {bytes : Bytes} (h : bytes.length < 2 ^ 63) :
    TellsSize entrySize? (Varint.write bytes.length ++ bytes) := by
  have hpos := Varint.length_write_pos bytes.length
  refine ⟨List.length_pos_iff.1 (by rw [List.length_append]; omega), fun rest => ?_⟩
  have hvarint := (Reader.takes_varint (v := bytes.length) (by omega) (by omega)).measured (bytes ++ rest)
  unfold entrySize?
  rw [List.append_assoc, hvarint]
  show (if 0 ≤ (bytes.length : Int) then some (_ + (bytes.length : Int).toNat) else none) = _
  rw [if_pos (Int.natCast_nonneg _), Int.toNat_natCast, List.length_append]

/-- The records of a batch with their lengths, the first one `delta` records after its start. -/
def Layout.entries (delta : Nat) : List Record.Contents → List Bytes
  | [] => []
  | c :: cs => (Varint.write (record delta c).length ++ record delta c) :: entries (delta + 1) cs

private theorem Layout.flatten_entries (delta : Nat) (cs : List Record.Contents) :
    (entries delta cs).flatten = body delta cs := by
  induction cs generalizing delta with
  | nil => rfl
  | cons c cs ih => rw [entries, List.flatten_cons, ih, body]

private theorem Layout.length_entries (delta : Nat) (cs : List Record.Contents) :
    (entries delta cs).length = cs.length := by
  induction cs generalizing delta with
  | nil => rfl
  | cons c cs ih => rw [entries, List.length_cons, List.length_cons, ih]

private theorem Layout.getElem?_entries (delta : Nat) (cs : List Record.Contents) (i : Nat) :
    (entries delta cs)[i]? =
      cs[i]?.map fun c => Varint.write (record (delta + i) c).length ++ record (delta + i) c := by
  induction cs generalizing delta i with
  | nil => rfl
  | cons c cs ih =>
    cases i with
    | zero => rfl
    | succ i =>
      rw [entries, List.getElem?_cons_succ, List.getElem?_cons_succ, ih, Nat.add_right_comm, Nat.add_assoc]

private theorem entries_tellSize {delta : Nat} {cs : List Record.Contents}
    (h : (Layout.body delta cs).length < 2 ^ 63) : ∀ p ∈ Layout.entries delta cs, TellsSize entrySize? p := by
  induction cs generalizing delta with
  | nil => intro p hp; cases hp
  | cons c cs ih =>
    simp only [Layout.body, List.length_append] at h
    intro p hp
    rcases List.mem_cons.1 hp with rfl | hp
    · exact entry_tellsSize (by omega)
    · exact ih (by omega) p hp

/-- The records stand behind the first 61 bytes. -/
private theorem drop_head (base time : Int) (cs : List Record.Contents) :
    (Layout.batch base time cs).drop 61 = Layout.body 0 cs := by
  rw [show 61 = 21 + 40 from rfl, ← List.drop_drop, drop_batch]
  unfold Layout.checked
  exact List.drop_left' (by simp only [List.length_append, BigEndian.write_length])

/-- The last field before the records is their number. -/
private theorem read_count {base time : Int} {cs : List Record.Contents} (fits : Layout.Fits base time cs) :
    BigEndian.read (((Layout.batch base time cs).drop 57).take 4) = cs.length := by
  have hn := fits.countRange
  have hfield : ((Layout.batch base time cs).drop 57).take 4 = BigEndian.write 4 cs.length := by
    rw [show 57 = 21 + 36 from rfl, ← List.drop_drop, drop_batch]
    unfold Layout.checked
    rw [List.append_assoc _ (BigEndian.write 4 cs.length),
      List.drop_left' (by simp only [List.length_append, BigEndian.write_length]),
      List.take_left' (BigEndian.write_length ..)]
  rw [hfield, BigEndian.read_write (by omega) (by omega)]

/-- Batches laid end to end are cut back into the same batches by the lengths in their heads, with nothing left
over.  Within each of them, the bytes behind the head are cut by the lengths of the records into as many pieces
as the head counts, again with nothing left over, and the pieces are the records in their order. -/
theorem batches_come_apart {batches : List Bytes}
    (h : ∀ bytes ∈ batches, ∃ base time rs, encode base time rs = .ok bytes) :
    pieces? batchSize? batches.flatten = some batches ∧
      ∀ bytes ∈ batches, ∀ base time rs, encode base time rs = .ok bytes →
        ∃ pieces, pieces? entrySize? (bytes.drop 61) = some pieces ∧ pieces.length = rs.length ∧
          BigEndian.read ((bytes.drop 57).take 4) = pieces.length ∧ bytes.take 61 ++ pieces.flatten = bytes ∧
          ∀ i r, rs[i]? = some r → ∃ enc, record i r = .ok enc ∧
            pieces[i]? = some (Varint.write enc.length ++ enc) := by
  constructor
  · refine pieces?_flatten fun bytes hb => ?_
    obtain ⟨base, time, rs, he⟩ := h bytes hb
    obtain ⟨b, t, cs, -, -, -, fits, rfl⟩ := (encode_eq_ok base time rs bytes).1 he
    exact batch_tellsSize fits
  · intro bytes _ base time rs he
    obtain ⟨b, t, cs, -, -, hcs, fits, rfl⟩ := (encode_eq_ok base time rs bytes).1 he
    have hn := length_eq_of_mapM_eq_some hcs
    have hcut := drop_head b t cs
    rw [← Layout.flatten_entries] at hcut
    have hbody : (Layout.body 0 cs).length < 2 ^ 63 := by
      have hl := fits.lengthRange
      unfold Layout.checked at hl
      simp only [List.length_append] at hl
      omega
    refine ⟨Layout.entries 0 cs, ?_, ?_, ?_, ?_, ?_⟩
    · rw [hcut]
      exact pieces?_flatten (entries_tellSize hbody)
    · rw [Layout.length_entries, hn]
    · rw [read_count fits, Layout.length_entries]
    · rw [← hcut, List.take_append_drop]
    · intro i r hr
      obtain ⟨c, hc, hrc⟩ := getElem?_of_mapM_eq_some hcs hr
      refine ⟨Layout.record i c, (record_eq_ok i r _).2 ⟨c, hrc, rfl⟩, ?_⟩
      rw [Layout.getElem?_entries, hc, Option.map_some, Nat.zero_add]

/-- A batch with a repeated header and an empty record, and a batch with one record behind it. -/
theorem batches_come_apart_two :
    ∃ first second,
      encode (.int 5) (.int (-1))
        [⟨.null, .bytes [], .list [.tuple [.text "a", .null], .tuple [.text "a", .bytes [7]]]⟩, .empty] =
          .ok first ∧
      encode (.int 0) (.int 0) [⟨.bytes [1, 2], .null, .list []⟩] = .ok second ∧
      pieces? batchSize? (first ++ second) = some [first, second] ∧
      (pieces? entrySize? (first.drop 61)).map List.length = some 2 ∧
      (pieces? entrySize? (second.drop 61)).map List.length = some 1 := by
  obtain ⟨first, hfirst⟩ : ∃ first,
      encode (.int 5) (.int (-1))
        [⟨.null, .bytes [], .list [.tuple [.text "a", .null], .tuple [.text "a", .bytes [7]]]⟩, .empty] =
          .ok first := ⟨_, rfl⟩
  obtain ⟨second, hsecond⟩ : ∃ second,
      encode (.int 0) (.int 0) [⟨.bytes [1, 2], .null, .list []⟩] = .ok second := ⟨_, rfl⟩
  have written : ∀ bytes ∈ [first, second], ∃ base time rs, encode base time rs = .ok bytes := by
    intro bytes hb
    rcases List.mem_cons.1 hb with rfl | hb
    · exact ⟨_, _, _, hfirst⟩
    · obtain rfl := List.mem_singleton.1 hb
      exact ⟨_, _, _, hsecond⟩
  obtain ⟨apart, records⟩ := batches_come_apart written
  obtain ⟨ps, hps, hn, -⟩ := records first (by simp) _ _ _ hfirst
  obtain ⟨qs, hqs, hm, -⟩ := records second (by simp) _ _ _ hsecond
  refine ⟨first, second, hfirst, hsecond, ?_, ?_, ?_⟩
  · simpa using apart
  · rw [hps, Option.map_some, hn]
    rfl
  · rw [hqs, Option.map_some, hm]
    rfl

end Batch

end RequestSamples
