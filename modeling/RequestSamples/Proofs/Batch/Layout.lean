import RequestSamples.Batch
import RequestSamples.Proofs.Success

/-!
# The layout of a batch

A well-formed record holds bytes or nothing as key and value, and headers that are pairs of a text and of bytes
or nothing.  The contents of such records, a base offset and a time stamp have a layout as bytes, whatever their
size.  The main fact is that writing a batch succeeds exactly if there are records, all of them are well-formed
and everything fits into its field; what it gives then is the layout (`encode_eq_ok`).
-/

namespace RequestSamples

/-- Bytes or nothing. -/
def Value.blob? : Value → Option (Option Bytes)
  | .null => some none
  | .bytes bs => some (some bs)
  | _ => none

/-- A pair of a text and of bytes or nothing. -/
def Value.header? (v : Value) : Option (String × Option Bytes) :=
  match v.elements? with
  | some [.text name, w] => w.blob?.map (name, ·)
  | _ => none

namespace Record

/-- What a well-formed record holds. -/
structure Contents where
  key : Option Bytes
  value : Option Bytes
  headers : List (String × Option Bytes)
deriving DecidableEq, Repr

/-- What a record holds, if it is well-formed. -/
def contents? (r : Record) : Option Contents := do
  return ⟨← r.key.blob?, ← r.value.blob?, ← (← r.headers.elements?).mapM Value.header?⟩

end Record

namespace Batch

namespace Layout

/-- A length and that many bytes, or the length `-1`. -/
def sized : Option Bytes → Bytes
  | none => Varint.write (-1)
  | some bs => Varint.write bs.length ++ bs

/-- A header: its name and its value. -/
def header (h : String × Option Bytes) : Bytes := sized (some (Bytes.ofText h.1)) ++ sized h.2

/-- A record without its length. -/
def record (delta : Nat) (c : Record.Contents) : Bytes :=
  [0] ++ Varint.write 0 ++ Varint.write delta ++ sized c.key ++ sized c.value ++
    Varint.write c.headers.length ++ (c.headers.map header).flatten

/-- Records with their lengths, the first one `delta` records after the start of the batch. -/
def body (delta : Nat) : List Record.Contents → Bytes
  | [] => []
  | c :: cs => Varint.write (record delta c).length ++ record delta c ++ body (delta + 1) cs

/-- What the checksum covers. -/
def checked (time : Int) (cs : List Record.Contents) : Bytes :=
  BigEndian.write 2 0 ++ BigEndian.write 4 (cs.length - 1 : Nat) ++ BigEndian.write 8 time ++
    BigEndian.write 8 time ++ BigEndian.write 8 (-1) ++ BigEndian.write 2 (-1) ++ BigEndian.write 4 (-1) ++
    BigEndian.write 4 cs.length ++ body 0 cs

/-- A batch. -/
def batch (base time : Int) (cs : List Record.Contents) : Bytes :=
  BigEndian.write 8 base ++ BigEndian.write 4 (9 + (checked time cs).length : Nat) ++
    BigEndian.write 4 (-1) ++ BigEndian.write 1 magic ++
    BigEndian.write 4 (Crc32c.checksum (checked time cs)).toNat ++ checked time cs

/-- There are records, and everything fits into its field. -/
structure Fits (base time : Int) (cs : List Record.Contents) : Prop where
  nonempty : cs ≠ []
  baseRange : -2 ^ 63 ≤ base ∧ base < 2 ^ 63
  timeRange : -2 ^ 63 ≤ time ∧ time < 2 ^ 63
  countRange : cs.length < 2 ^ 31
  lengthRange : 9 + (checked time cs).length < 2 ^ 31

end Layout

theorem length_checked (time : Int) (cs : List Record.Contents) :
    (Layout.checked time cs).length = 40 + (Layout.body 0 cs).length := by
  simp only [Layout.checked, List.length_append, BigEndian.write_length]

private theorem sized_eq_ok (v : Value) (bytes : Bytes) :
    sized v = .ok bytes ↔ ∃ b, v.blob? = some b ∧ bytes = Layout.sized b := by
  constructor
  · intro h
    unfold sized at h
    split at h
    · cases h; exact ⟨none, rfl, rfl⟩
    · rename_i bs
      cases h; exact ⟨some bs, rfl, rfl⟩
    · split at h <;> cases h
  · rintro ⟨b, hb, rfl⟩
    unfold Value.blob? at hb
    split at hb <;> cases hb <;> rfl

private theorem pair_eq_ok {v a b : Value} : v.pair = .ok (a, b) ↔ v.elements? = some [a, b] := by
  unfold Value.pair
  split <;> simp_all

private theorem elements_eq_ok {v : Value} {vs : List Value} : v.elements = .ok vs ↔ v.elements? = some vs := by
  unfold Value.elements
  split <;> simp_all

private theorem length_eq_ok {v : Value} {n : Nat} :
    v.length = .ok n ↔ ∃ vs, v.elements? = some vs ∧ n = vs.length := by
  unfold Value.length
  cases v.elements? with
  | none => simp
  | some vs => simp [eq_comm]

private theorem header_eq_ok (v : Value) (bytes : Bytes) :
    header v = .ok bytes ↔ ∃ h, v.header? = some h ∧ bytes = Layout.header h := by
  simp only [header, Except.bind_eq_ok, Prod.exists, pair_eq_ok]
  constructor
  · rintro ⟨name, w, hv, h⟩
    split at h
    · rename_i s
      simp only [Except.bind_eq_ok, Except.pure_eq_ok, sized_eq_ok] at h
      obtain ⟨_, ⟨n, hn, rfl⟩, _, ⟨b, hb, rfl⟩, rfl⟩ := h
      obtain rfl : some (Bytes.ofText s) = n := Option.some.inj hn
      exact ⟨s, b, by simp [Value.header?, hv, hb], rfl⟩
    · exact absurd h Except.throw_ne_ok
  · rintro ⟨s, b, hh, rfl⟩
    unfold Value.header? at hh
    split at hh
    · rename_i _ w hv
      obtain ⟨b', hb, he⟩ := Option.map_eq_some_iff.1 hh
      cases he
      refine ⟨_, w, hv, ?_⟩
      simp only [Except.bind_eq_ok, Except.pure_eq_ok, sized_eq_ok]
      exact ⟨_, ⟨some (Bytes.ofText s), rfl, rfl⟩, _, ⟨b, hb, rfl⟩, rfl⟩
    · cases hh

theorem record_eq_ok (delta : Nat) (r : Record) (bytes : Bytes) :
    record delta r = .ok bytes ↔ ∃ c, r.contents? = some c ∧ bytes = Layout.record delta c := by
  simp only [record, Except.bind_eq_ok, Except.pure_eq_ok, sized_eq_ok, length_eq_ok, elements_eq_ok,
    Except.mapM_eq_ok header_eq_ok, Record.contents?, Option.bind_eq_bind, Option.bind_eq_some_iff,
    Option.pure_def, Option.some.injEq]
  constructor
  · rintro ⟨_, ⟨key, hkey, rfl⟩, _, ⟨value, hvalue, rfl⟩, _, ⟨rows, hrows, rfl⟩, rows', hrows', _,
      ⟨hs, hhs, rfl⟩, rfl⟩
    obtain rfl : rows = rows' := Option.some.inj (hrows.symm.trans hrows')
    refine ⟨⟨key, value, hs⟩, ⟨key, hkey, value, hvalue, rows, hrows, hs, hhs, rfl⟩, ?_⟩
    rw [Layout.record, length_eq_of_mapM_eq_some hhs]
  · rintro ⟨_, ⟨key, hkey, value, hvalue, rows, hrows, hs, hhs, rfl⟩, rfl⟩
    refine ⟨_, ⟨key, hkey, rfl⟩, _, ⟨value, hvalue, rfl⟩, _, ⟨rows, hrows, rfl⟩, rows, hrows, _, ⟨hs, hhs, rfl⟩,
      ?_⟩
    rw [Layout.record, length_eq_of_mapM_eq_some hhs]

theorem body_eq_ok (delta : Nat) (rs : List Record) (bytes : Bytes) :
    body delta rs = .ok bytes ↔ ∃ cs, rs.mapM Record.contents? = some cs ∧ bytes = Layout.body delta cs := by
  induction rs generalizing delta bytes with
  | nil =>
    constructor
    · intro h; cases h; exact ⟨[], rfl, rfl⟩
    · rintro ⟨cs, hcs, rfl⟩; cases hcs; rfl
  | cons r rs ih =>
    simp only [body, Except.bind_eq_ok, Except.pure_eq_ok, record_eq_ok, ih, List.mapM_cons, Option.bind_eq_bind,
      Option.bind_eq_some_iff, Option.pure_def, Option.some.injEq]
    constructor
    · rintro ⟨_, ⟨c, hc, rfl⟩, _, ⟨cs, hcs, rfl⟩, rfl⟩
      exact ⟨c :: cs, ⟨c, hc, cs, hcs, rfl⟩, rfl⟩
    · rintro ⟨_, ⟨c, hc, cs, hcs, rfl⟩, rfl⟩
      exact ⟨_, ⟨c, hc, rfl⟩, _, ⟨cs, hcs, rfl⟩, rfl⟩

private theorem long_eq_ok (v : Value) (bytes : Bytes) :
    long v = .ok bytes ↔
      ∃ n, v.integer? = some n ∧ (-2 ^ 63 ≤ n ∧ n < 2 ^ 63) ∧ bytes = BigEndian.write 8 n := by
  unfold long
  split
  · rename_i h
    constructor
    · intro hl; cases hl
    · rintro ⟨n, hn, -⟩
      rw [h] at hn
      cases hn
  · rename_i n h
    simp only [h, Option.some.injEq, exists_eq_left', Bool.and_eq_true, decide_eq_true_eq]
    split
    · rename_i hr
      exact ⟨fun hl => ⟨hr, (Except.ok.inj hl).symm⟩, fun hl => congrArg _ hl.2.symm⟩
    · rename_i hr
      exact ⟨fun hl => (nomatch hl), fun hl => absurd hl.1 hr⟩

private theorem count_eq_ok (n : Nat) (bytes : Bytes) :
    count n = .ok bytes ↔ n < 2 ^ 31 ∧ bytes = BigEndian.write 4 n := by
  unfold count
  split
  · rename_i h
    exact ⟨fun hc => ⟨h, (Except.ok.inj hc).symm⟩, fun hc => congrArg _ hc.2.symm⟩
  · rename_i h
    exact ⟨fun hc => (nomatch hc), fun hc => absurd hc.1 h⟩

/-- A batch is written exactly if there are records, all of them are well-formed and everything fits, and then
it has the layout of what they hold. -/
theorem encode_eq_ok (base time : Value) (rs : List Record) (bytes : Bytes) :
    encode base time rs = .ok bytes ↔
      ∃ b t cs, base.integer? = some b ∧ time.integer? = some t ∧ rs.mapM Record.contents? = some cs ∧
        Layout.Fits b t cs ∧ bytes = Layout.batch b t cs := by
  unfold encode
  split
  · rename_i hempty
    constructor
    · intro h; cases h
    · rintro ⟨b, t, cs, -, -, hcs, fits, -⟩
      rw [List.isEmpty_iff.1 hempty] at hcs
      cases hcs
      exact absurd rfl fits.nonempty
  · rename_i hne
    simp only [checked, Except.bind_eq_ok, Except.pure_eq_ok, body_eq_ok, long_eq_ok, count_eq_ok]
    constructor
    · rintro ⟨_, ⟨_, ⟨cs, hcs, rfl⟩, _, ⟨-, rfl⟩, _, ⟨t, ht, htr, rfl⟩, _, ⟨hn, rfl⟩, rfl⟩, _, ⟨b, hb, hbr, rfl⟩,
        _, ⟨hl, rfl⟩, rfl⟩
      have hlen := length_eq_of_mapM_eq_some hcs
      rw [← hlen] at hl hn ⊢
      refine ⟨b, t, cs, hb, ht, hcs, ⟨?_, hbr, htr, hn, hl⟩, rfl⟩
      rintro rfl
      exact hne (List.isEmpty_iff.2 (List.length_eq_zero_iff.1 hlen.symm))
    · rintro ⟨b, t, cs, hb, ht, hcs, fits, rfl⟩
      have hlen := length_eq_of_mapM_eq_some hcs
      have hn := fits.countRange
      refine ⟨Layout.checked t cs,
        ⟨_, ⟨cs, hcs, rfl⟩, _, ⟨?_, rfl⟩, _, ⟨t, ht, fits.timeRange, rfl⟩, _, ⟨?_, rfl⟩, ?_⟩, _,
        ⟨b, hb, fits.baseRange, rfl⟩, _, ⟨fits.lengthRange, rfl⟩, rfl⟩
      · omega
      · omega
      · rw [← hlen]; rfl

end Batch

end RequestSamples
