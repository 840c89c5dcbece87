import RequestSamples.Json.Plain
import RequestSamples.Proofs.Entries
import RequestSamples.Proofs.Json.Number

/-!
# Reading data back

Data is made of what a JSON text can say: null, truth values, integers, texts, and lists and tables of these.  The
text of data is read back as the data itself (`read_write`), if no integer is too long, no table has a name twice
and the data is not nested too deep.  What is read of a value inside is the text of that value, up to the comma or
the bracket that follows it; two nested calls for each byte are enough.
-/

namespace RequestSamples

namespace Json

/-- Data in which at most `room` lists and tables are open at once. -/
inductive IsData : Nat → Value → Prop
  | null {room} : IsData room .null
  | bool {room} (b : Bool) : IsData room (.bool b)
  | int {room} {n : Int} (h : (Numeral.write n).length ≤ 4300) : IsData room (.int n)
  | text {room} (s : String) : IsData room (.text s)
  | list {room} {vs : List Value} (h : ∀ v ∈ vs, IsData room v) : IsData (room + 1) (.list vs)
  | dict {room} {es : List (String × Value)} (names : (es.map (·.1)).Nodup) (h : ∀ e ∈ es, IsData room e.2) :
    IsData (room + 1) (.dict es)

/-- The byte can be the first one of a value. -/
def Opens (b : UInt8) : Prop := b ≠ 0x20 ∧ b ≠ 0x09 ∧ b ≠ 0x0a ∧ b ≠ 0x0d ∧ b ≠ 0x5d

/-- These bytes are read as the value, whatever may follow them. -/
structure Reads (room : Nat) (v : Value) (bs : Bytes) : Prop where
  opens : ∃ b more, bs = b :: more ∧ Opens b
  reads : ∀ fuel rest, 2 * bs.length ≤ fuel → Stops rest →
    readValue .standard room fuel (bs ++ rest) = .ok (v, rest)

variable {room fuel : Nat} {rest bs : Bytes} {v : Value}

private theorem skipBlanks_opens {b : UInt8} (h : Opens b) : skipBlanks (b :: bs) = b :: bs := by
  obtain ⟨h₁, h₂, h₃, h₄, -⟩ := h
  simp [skipBlanks, h₁, h₂, h₃, h₄]

private theorem opens_of_isDigit {b : UInt8} (h : isDigit b = true) : Opens b := by
  refine ⟨?_, ?_, ?_, ?_, ?_⟩ <;> rintro rfl <;> cases h

/-- It is enough to look at how a value is read in one call. -/
theorem Reads.intro {b : UInt8} {more : Bytes} (hb : Opens b)
    (h : ∀ fuel rest, 2 * more.length ≤ fuel → Stops rest →
      readValue .standard room (fuel + 1) (b :: (more ++ rest)) = .ok (v, rest)) : Reads room v (b :: more) := by
  refine ⟨⟨b, more, rfl, hb⟩, ?_⟩
  intro fuel rest hfuel hrest
  cases fuel with
  | zero => simp at hfuel
  | succ fuel => exact h fuel rest (by simp at hfuel; omega) hrest

private theorem reads_null : Reads room .null (Bytes.ofChars "null".toList) := by
  have hbytes : Bytes.ofChars "null".toList = [0x6e, 0x75, 0x6c, 0x6c] := by decide +kernel
  rw [hbytes]
  exact .intro (by simp [Opens]) fun fuel rest _ _ => rfl

private theorem reads_bool (b : Bool) : Reads room (.bool b) (Bytes.ofChars (write (.bool b))) := by
  cases b with
  | true =>
    have hbytes : Bytes.ofChars (write (.bool true)) = [0x74, 0x72, 0x75, 0x65] := by decide +kernel
    rw [hbytes]
    exact .intro (by simp [Opens]) fun fuel rest _ _ => rfl
  | false =>
    have hbytes : Bytes.ofChars (write (.bool false)) = [0x66, 0x61, 0x6c, 0x73, 0x65] := by decide +kernel
    rw [hbytes]
    exact .intro (by simp [Opens]) fun fuel rest _ _ => rfl

private theorem reads_int {n : Int} (hlen : (Numeral.write n).length ≤ 4300) :
    Reads room (.int n) (Bytes.ofChars (Numeral.write n)) := by
  obtain ⟨b, more, hbytes, hb⟩ : ∃ b more, Bytes.ofChars (Numeral.write n) = b :: more ∧
      (b = 0x2d ∨ isDigit b = true) := by
    cases n with
    | ofNat m =>
      obtain ⟨d, ds, hds, hd⟩ := exists_cons_of_digits m
      exact ⟨d, ds, hds, .inr hd⟩
    | negSucc m => exact ⟨0x2d, digits (m + 1), rfl, .inl rfl⟩
  have hopens : Opens b := by
    rcases hb with rfl | hb
    · simp [Opens]
    · exact opens_of_isDigit hb
  have hnumber : b ≠ 0x22 ∧ b ≠ 0x5b ∧ b ≠ 0x7b ∧ b ≠ 0x6e ∧ b ≠ 0x74 ∧ b ≠ 0x66 := by
    rcases hb with rfl | hb
    · decide
    · refine ⟨?_, ?_, ?_, ?_, ?_, ?_⟩ <;> rintro rfl <;> cases hb
  rw [hbytes]
  refine .intro hopens ?_
  intro fuel rest _ hrest
  have hread := readNumber_write hlen hrest
  rw [hbytes] at hread
  rw [readValue, skipBlanks_opens hopens]
  simp only [hnumber, if_false]
  exact hread

private theorem reads_text (cs : List Char) : Reads room (.text (String.ofList cs)) (Bytes.ofChars (writeText cs)) := by
  obtain ⟨body, hbody, -⟩ := readText_writeText cs []
  have hopens : Opens 0x22 := by simp [Opens]
  rw [hbody]
  refine .intro hopens ?_
  intro fuel rest _ hrest
  obtain ⟨body', hbody', hread⟩ := readText_writeText cs rest
  have : body' = body := by simpa [hbody] using hbody'.symm
  subst this
  rw [readValue, skipBlanks_opens hopens]
  simp only [if_true, hread]
  rfl

variable {vs : List Value} {ts : List (List Char)} {es : List (String × Value)}

private theorem exists_joined (t : List Char) (ts : List (List Char)) : ∃ cs, joined (t :: ts) = t ++ cs := by
  cases ts with
  | nil => exact ⟨[], (List.append_nil t).symm⟩
  | cons u us => exact ⟨',' :: joined (u :: us), rfl⟩

private theorem ofChars_joined_cons (t u : List Char) (ts : List (List Char)) :
    Bytes.ofChars (joined (t :: u :: ts)) = Bytes.ofChars t ++ 0x2c :: Bytes.ofChars (joined (u :: ts)) := by
  have hjoined : joined (t :: u :: ts) = t ++ ',' :: joined (u :: ts) := rfl
  rw [hjoined, Bytes.ofChars_append]
  rfl

/-- The items of a list are read up to the closing bracket. -/
private theorem readItems_joined (h : List.Forall₂ (fun v t => Reads room v (Bytes.ofChars t)) vs ts) (hne : ts ≠ [])
    (hfuel : 2 * (Bytes.ofChars (joined ts)).length < fuel) :
    readItems .standard room fuel (Bytes.ofChars (joined ts) ++ 0x5d :: rest) = .ok (vs, rest) := by
  -- An item pays for the calls inside it, and the comma behind it for the call that goes on.
  induction h generalizing fuel with
  | nil => exact absurd rfl hne
  | @cons v t vs ts hv hvs ih =>
    obtain ⟨fuel, rfl⟩ : ∃ n, fuel = n + 1 := ⟨fuel - 1, by omega⟩
    cases hvs with
    | nil =>
      rw [joined] at hfuel
      rw [readItems, joined, hv.reads fuel (0x5d :: rest) (by omega) (by simp [Stops])]
      rfl
    | @cons v' t' vs ts hv' hvs =>
      rw [ofChars_joined_cons, List.length_append, List.length_cons] at hfuel
      have hread := hv.reads fuel (0x2c :: (Bytes.ofChars (joined (t' :: ts)) ++ 0x5d :: rest)) (by omega)
        (by simp [Stops])
      rw [readItems, ofChars_joined_cons, List.append_assoc, List.cons_append, hread]
      show ((readItems .standard room fuel _) >>= _) = _
      rw [ih (by simp) (by omega)]
      rfl

/-- The text of an entry. -/
def member (name : String) (t : List Char) : List Char := writeText name.toList ++ ':' :: t

/-- An entry is read up to the comma or the brace behind it. -/
private theorem readEntries_member {name : String} {t : List Char} {b : UInt8} (hv : Reads room v (Bytes.ofChars t))
    (hfuel : 2 * (Bytes.ofChars t).length ≤ fuel) (hb : b = 0x7d ∨ b = 0x2c) :
    readEntries .standard room (fuel + 1) (Bytes.ofChars (member name t) ++ b :: rest) =
      if b = 0x7d then .ok ([(name, v)], rest)
      else (readEntries .standard room fuel rest) >>= fun (es, rest) => .ok ((name, v) :: es, rest) := by
  obtain ⟨body, hbody, hname⟩ := readText_writeText name.toList (0x3a :: (Bytes.ofChars t ++ b :: rest))
  have hbytes : Bytes.ofChars (member name t) = 0x22 :: (body ++ 0x3a :: Bytes.ofChars t) := by
    rw [member, Bytes.ofChars_append, hbody]
    rfl
  have hstops : Stops (b :: rest) := by
    rcases hb with rfl | rfl <;> simp [Stops]
  have hread := hv.reads fuel (b :: rest) hfuel hstops
  rw [hbytes]
  simp only [List.cons_append, List.append_assoc]
  rw [readEntries, skipBlanks_opens (by simp [Opens])]
  simp only [ne_eq, not_true_eq_false, if_false]
  show ((readText _) >>= _) = _
  rw [hname, String.ofList_toList]
  show ((readValue .standard room fuel _) >>= _) = _
  rw [hread]
  rcases hb with rfl | rfl
  · rfl
  · rfl

/-- The entries of a table are read up to the closing brace. -/
private theorem readEntries_joined {ts : List (String × List Char)}
    (h : List.Forall₂ (fun e t => e.1 = t.1 ∧ Reads room e.2 (Bytes.ofChars t.2)) es ts) (hne : ts ≠ [])
    (hfuel : 2 * (Bytes.ofChars (joined (members ts))).length < fuel) :
    readEntries .standard room fuel (Bytes.ofChars (joined (members ts)) ++ 0x7d :: rest) = .ok (es, rest) := by
  induction h generalizing fuel with
  | nil => exact absurd rfl hne
  | @cons e t es ts he hes ih =>
    obtain ⟨fuel, rfl⟩ : ∃ n, fuel = n + 1 := ⟨fuel - 1, by omega⟩
    obtain ⟨name, v⟩ := e
    obtain ⟨_, t⟩ := t
    dsimp only at he
    obtain ⟨rfl, hv⟩ := he
    -- The name is read without a nested call, so the text of the value alone pays for it.
    have hlen : (Bytes.ofChars t).length ≤ (Bytes.ofChars (member name t)).length := by
      rw [member, Bytes.ofChars_append, Bytes.ofChars_cons]
      simp only [List.length_append]
      omega
    cases hes with
    | nil =>
      have hmembers : joined (members [(name, t)]) = member name t := rfl
      rw [hmembers] at hfuel ⊢
      rw [readEntries_member hv (by omega) (.inl rfl)]
      rfl
    | @cons e' t' es ts he' hes =>
      have hmembers : joined (members ((name, t) :: t' :: ts)) =
          member name t ++ ',' :: joined (members (t' :: ts)) := rfl
      have hcomma : Bytes.ofChars (member name t ++ ',' :: joined (members (t' :: ts))) =
          Bytes.ofChars (member name t) ++ 0x2c :: Bytes.ofChars (joined (members (t' :: ts))) := by
        rw [Bytes.ofChars_append]
        rfl
      rw [hmembers, hcomma, List.length_append, List.length_cons] at hfuel
      rw [hmembers, hcomma, List.append_assoc, List.cons_append, readEntries_member hv (by omega) (.inr rfl),
        ih (by simp) (by omega)]
      rfl

private theorem reads_list (h : List.Forall₂ (fun v t => Reads room v (Bytes.ofChars t)) vs ts) :
    Reads (room + 1) (.list vs) (Bytes.ofChars ('[' :: joined ts ++ [']'])) := by
  have hbytes : Bytes.ofChars ('[' :: joined ts ++ [']']) = 0x5b :: (Bytes.ofChars (joined ts) ++ [0x5d]) := by
    rw [Bytes.ofChars_append, Bytes.ofChars_cons]
    rfl
  have hopens : Opens 0x5b := by simp [Opens]
  rw [hbytes]
  refine .intro hopens ?_
  intro fuel rest hfuel _
  rw [List.length_append, List.length_singleton] at hfuel
  rw [readValue, skipBlanks_opens hopens, List.append_assoc]
  cases h with
  | nil => rfl
  | @cons v t vs ts hv hvs =>
    have hread : readItems .standard room fuel (Bytes.ofChars (joined (t :: ts)) ++ 0x5d :: rest) =
        .ok (v :: vs, rest) := readItems_joined (.cons hv hvs) (by simp) (by omega)
    -- The reader looks at the first byte to tell whether the list is empty.
    obtain ⟨b, more, hhead, hb⟩ : ∃ b more, Bytes.ofChars (joined (t :: ts)) = b :: more ∧ Opens b := by
      obtain ⟨b, more, hbytes, hb⟩ := hv.opens
      obtain ⟨cs, hcs⟩ := exists_joined t ts
      rw [hcs, Bytes.ofChars_append, hbytes]
      exact ⟨b, _, rfl, hb⟩
    rw [hhead, List.cons_append] at hread
    rw [hhead]
    simp only [List.cons_append, List.nil_append, skipBlanks_opens hb, hb.2.2.2.2, if_false, if_true, hread]
    rfl

private theorem reads_dict {ts : List (String × List Char)} (names : (es.map (·.1)).Nodup)
    (h : List.Forall₂ (fun e t => e.1 = t.1 ∧ Reads room e.2 (Bytes.ofChars t.2)) es ts) :
    Reads (room + 1) (.dict es) (Bytes.ofChars ('\x7b' :: joined (members ts) ++ ['\x7d'])) := by
  have hbytes : Bytes.ofChars ('\x7b' :: joined (members ts) ++ ['\x7d']) =
      0x7b :: (Bytes.ofChars (joined (members ts)) ++ [0x7d]) := by
    rw [Bytes.ofChars_append, Bytes.ofChars_cons]
    rfl
  have hopens : Opens 0x7b := by simp [Opens]
  rw [hbytes]
  refine .intro hopens ?_
  intro fuel rest hfuel _
  rw [List.length_append, List.length_singleton] at hfuel
  rw [readValue, skipBlanks_opens hopens, List.append_assoc]
  cases h with
  | nil => rfl
  | @cons e t es ts he hes =>
    have hread : readEntries .standard room fuel (Bytes.ofChars (joined (members (t :: ts))) ++ 0x7d :: rest) =
        .ok (e :: es, rest) := readEntries_joined (.cons he hes) (by simp) (by omega)
    obtain ⟨more, hhead⟩ : ∃ more, Bytes.ofChars (joined (members (t :: ts))) = 0x22 :: more := by
      obtain ⟨cs, hcs⟩ := exists_joined (member t.1 t.2) (members ts)
      obtain ⟨body, hbody, -⟩ := readText_writeText t.1.toList []
      have hmembers : joined (members (t :: ts)) = member t.1 t.2 ++ cs := hcs
      rw [hmembers, member, Bytes.ofChars_append, Bytes.ofChars_append, hbody]
      exact ⟨_, rfl⟩
    have hquote : Opens 0x22 := by simp [Opens]
    have hclose : (0x22 : UInt8) ≠ 0x7d := by decide
    rw [hhead, List.cons_append] at hread
    rw [hhead]
    simp only [List.cons_append, List.nil_append, skipBlanks_opens hquote, hclose, if_false, if_true, hread]
    show Except.ok (Value.dict (Entries.ofList (e :: es)), rest) = _
    rw [Entries.ofList_of_nodup names]

private theorem writeItems_eq_map (numbers : Decimal.Layout) (vs : List Value) :
    writeItems numbers vs = vs.map (writeWith numbers) := by
  induction vs with
  | nil => rfl
  | cons v vs ih => simp [writeItems, ih]

private theorem writeEntries_eq_map (numbers : Decimal.Layout) (es : List (String × Value)) :
    writeEntries numbers es = es.map fun e => (e.1, writeWith numbers e.2) := by
  induction es with
  | nil => rfl
  | cons e es ih => simp [writeEntries, ih]

/-- The text of data is read back, whatever may follow it. -/
private theorem reads_of_isData (h : IsData room v) : Reads room v (Bytes.ofChars (write v)) := by
  induction h with
  | null => exact reads_null
  | bool b => exact reads_bool b
  | int hlen => exact reads_int hlen
  | @text room s =>
    have hread : Reads room (.text (String.ofList s.toList)) (Bytes.ofChars (write (.text s))) := reads_text s.toList
    rw [String.ofList_toList] at hread
    exact hread
  | @list room vs _ ih =>
    apply reads_list
    rw [writeItems_eq_map, List.forall₂_map_right_iff]
    exact List.forall₂_same.mpr ih
  | @dict room es names _ ih =>
    apply reads_dict names
    rw [writeEntries_eq_map, List.forall₂_map_right_iff]
    exact List.forall₂_same.mpr fun e he => ⟨rfl, ih e he⟩

/-- The JSON text of data is read back as the data. -/
theorem read_write (h : IsData Value.maxNesting v) : read (Bytes.ofText (String.ofList (write v))) = .ok v := by
  have hread := (reads_of_isData h).reads (2 * (Bytes.ofChars (write v)).length + 2) [] (by omega) stops_nil
  rw [List.append_nil] at hread
  rw [Bytes.ofText_ofList, read, readWithin]
  show (readValue .standard Value.maxNesting _ _ >>= _) = _
  rw [hread]
  rfl

private theorem sizeOf_snd_lt {e : String × Value} {es : Entries} (he : e ∈ es) : sizeOf e.2 < sizeOf es := by
  have hmem := List.sizeOf_lt_of_mem he
  have hpair : sizeOf e = 1 + sizeOf e.1 + sizeOf e.2 := rfl
  omega

/-- A value and its plain data have the same text. -/
theorem writeWith_plain (numbers : Decimal.Layout) : ∀ v : Value, writeWith numbers (plain v) = writeWith numbers v
  | .bytes _ | .uuid _ => by simp [plain, writeWith]
  | .key _ | .null | .bool _ | .int _ | .float _ | .text _ | .inner _ | .safety _ => rfl
  | .list vs | .tuple vs => by
    have hitems : writeItems numbers (plainItems vs) = writeItems numbers vs := by
      rw [writeItems_eq_map, writeItems_eq_map, plainItems_eq_map, List.map_map]
      exact List.map_congr_left fun v hv => writeWith_plain numbers v
    simp only [plain, writeWith, hitems]
  | .dict es => by
    have hentries : writeEntries numbers (plainEntries es) = writeEntries numbers es := by
      rw [writeEntries_eq_map, writeEntries_eq_map, plainEntries_eq_map, List.map_map]
      refine List.map_congr_left fun e he => congrArg (Prod.mk e.1) ?_
      have hsize := sizeOf_snd_lt he
      exact writeWith_plain numbers e.2
    simp only [plain, writeWith, hentries]
  | .object s es xs => by
    have hentries : writeEntries numbers (plainEntries es ++ plainEntries xs) =
        writeEntries numbers es ++ writeEntries numbers xs := by
      simp only [writeEntries_eq_map, plainEntries_eq_map, ← List.map_append, List.map_map]
      refine List.map_congr_left fun e he => congrArg (Prod.mk e.1) ?_
      have hsize : sizeOf e.2 < 1 + sizeOf es + sizeOf xs := by
        rcases List.mem_append.mp he with he | he <;> have h := sizeOf_snd_lt he <;> omega
      exact writeWith_plain numbers e.2
    have hpick : writeEntries numbers (s.written (plainEntries es ++ plainEntries xs)) =
        s.written (writeEntries numbers (plainEntries es ++ plainEntries xs)) := by
      simp only [writeEntries_eq_map, Shape.written, Entries.pick_map]
    simp only [plain, writeWith, hpick, hentries]

/-- The JSON text of a value is read back as its plain data, if that is data. -/
theorem read_write_of_plain (h : IsData Value.maxNesting (plain v)) :
    read (Bytes.ofText (String.ofList (write v))) = .ok (plain v) := by
  have hread := read_write h
  rw [write, writeWith_plain] at hread
  exact hread

end Json

end RequestSamples
