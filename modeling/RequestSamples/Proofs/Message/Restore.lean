import RequestSamples.Proofs.Message.Forms

/-!
# Rebuilding messages from their text

For every shape there is a reader that rebuilds an object from its JSON text: the declared kinds say which texts are
bytes or ids, which numbers are request kinds, and which tables are objects.  It gives the object back with all fields
of all objects in it (`restore_text`), so objects of one shape that are written as the same bytes are equal
(`bytes_lose_nothing`).  Only what an object has been given beside its fields is lost.
-/

namespace RequestSamples

/-- The kind that a value is of if it is there. -/
def Kind.present : Kind → Kind
  | .optional k => k.present
  | k => k

/-- The kind has a value for what is not there. -/
def Kind.isOptional : Kind → Bool
  | .optional _ => true
  | _ => false

namespace Value

mutual

/-- The value of a kind that plain data shows. -/
def restore : Value → Kind → Option Value
  | .null, k => if k.isOptional then some .null else none
  | .bool b, k => if k.present = .bool then some (.bool b) else none
  | .int n, k =>
    match k.present with
    | .int => some (.int n)
    | .key => (ApiKey.ofId? n.toNat).map .key
    | _ => none
  | .text s, k =>
    match k.present with
    | .text => some (.text s)
    | .bytes => (Base64.decode? s.toList).map .bytes
    | .uuid => (Uuid.read? s.toList).map .uuid
    | _ => none
  | .list ws, k =>
    match k.present with
    | .listOf k => ((restoreItems ws).mapM fun (read : Kind → Option Value) => read k).map .list
    | _ => none
  | .dict ws, k =>
    match k.present with
    | .entry s =>
      (s.fields.mapM fun (f : Field) => do
        let read ← (restoreEntries ws).lookup f.name
        return (f.name, ← read f.kind)).map fun es => .object s es []
    | _ => none
  | _, _ => none
termination_by structural w => w

/-- What each item is read as. -/
def restoreItems : List Value → List (Kind → Option Value)
  | [] => []
  | w :: ws => restore w :: restoreItems ws
termination_by structural ws => ws

/-- What each entry is read as. -/
def restoreEntries : List (String × Value) → List (String × (Kind → Option Value))
  | [] => []
  | (n, w) :: ws => (n, restore w) :: restoreEntries ws
termination_by structural ws => ws

end

mutual

/-- The value without anything that its objects have been given beside their fields. -/
def bare : Value → Value
  | .list vs => .list (bareItems vs)
  | .tuple vs => .tuple (bareItems vs)
  | .dict es => .dict (bareEntries es)
  | .object s es _ => .object s (bareEntries es) []
  | v => v
termination_by structural v => v

/-- The items without anything given beside fields. -/
def bareItems : List Value → List Value
  | [] => []
  | v :: vs => bare v :: bareItems vs
termination_by structural vs => vs

/-- The entries without anything given beside fields. -/
def bareEntries : List (String × Value) → List (String × Value)
  | [] => []
  | (n, v) :: es => (n, bare v) :: bareEntries es
termination_by structural es => es

end

end Value

/-- The object of a shape that is read from a JSON text. -/
def Shape.restore (s : Shape) (bs : Bytes) : Option Value :=
  match Json.read bs with
  | .ok w => w.restore (.entry s)
  | .error _ => none

namespace Json

open Value

variable {k : Kind} {v w u : Value} {s : Shape}

private theorem restoreItems_eq_map (ws : List Value) : restoreItems ws = ws.map restore := by
  induction ws with
  | nil => rfl
  | cons w ws ih => simp [restoreItems, ih]

private theorem restoreEntries_eq_map (ws : Entries) : restoreEntries ws = ws.map fun e => (e.1, restore e.2) := by
  induction ws with
  | nil => rfl
  | cons w ws ih => simp [restoreEntries, ih]

private theorem bareItems_eq_map (vs : List Value) : bareItems vs = vs.map bare := by
  induction vs with
  | nil => rfl
  | cons v vs ih => simp [bareItems, ih]

private theorem bareEntries_eq_map (es : Entries) : bareEntries es = es.map fun e => (e.1, bare e.2) := by
  induction es with
  | nil => rfl
  | cons e es ih => simp [bareEntries, ih]

/-- What may be missing is read as what it is if it is there. -/
private theorem restore_optional (h : w.restore k = some u) : w.restore (.optional k) = some u := by
  cases w with
  | null =>
    have hnull : k.isOptional = true ∧ Value.null = u := by simpa [restore] using h
    simp [restore, Kind.isOptional, hnull.2]
  | _ => exact h

private theorem restore_list {vs : List Value} (h : ∀ v ∈ vs, (plain v).restore k = some v.bare) :
    (plain (.list vs)).restore (.listOf k) = some (Value.list vs).bare := by
  have hitems : (restoreItems (vs.map plain)).mapM (fun (read : Kind → Option Value) => read k) =
      some (vs.map bare) := by
    apply mapM_eq_some_of_forall₂
    rw [restoreItems_eq_map, List.map_map, List.forall₂_map_left_iff, List.forall₂_map_right_iff]
    exact List.forall₂_same.mpr h
  rw [plain, plainItems_eq_map, bare, bareItems_eq_map]
  exact congrArg (Option.map Value.list) hitems

/-- The entry of a field is found in the plain data of its object. -/
private theorem lookup_restoreEntries {es : Entries} (names : es.map (·.1) = s.fieldNames) (xs : Entries) {n : String}
    (hv : (n, v) ∈ es) :
    (restoreEntries ((Entries.pick s.attributes xs ++ es).map fun e => (e.1, plain e.2))).lookup n =
      some (restore (plain v)) := by
  have hfound := Entries.lookup_of_mem (Shape.names_written_nodup names)
    (List.mem_append_right (Entries.pick s.attributes xs) hv)
  rw [restoreEntries_eq_map, Entries.lookup_map, Entries.lookup_map, hfound]
  rfl

private theorem restore_object {es xs : Entries} (names : es.map (·.1) = s.fieldNames)
    (h : ∀ f ∈ s.fields, ∀ v, (f.name, v) ∈ es → (plain v).restore f.kind = some v.bare) :
    (plain (.object s es xs)).restore (.entry s) = some (Value.object s es xs).bare := by
  have hfields : (s.fields.mapM fun (f : Field) => do
      let read ← (restoreEntries ((Entries.pick s.attributes xs ++ es).map fun e => (e.1, plain e.2))).lookup f.name
      return (f.name, ← read f.kind)) = some (bareEntries es) := by
    apply mapM_eq_some_of_forall₂
    rw [bareEntries_eq_map, List.forall₂_map_right_iff]
    refine (forall₂_of_names names fun f hf v hv => And.intro (lookup_restoreEntries names xs hv) (h f hf v hv)).imp ?_
    rintro f e ⟨hname, hread, hvalue⟩
    rw [hread, ← hname]
    show ((restore (plain e.2) f.kind) >>= _) = _
    rw [hvalue]
    rfl
  rw [plain_object names, bare]
  exact congrArg (Option.map fun es => Value.object s es []) hfields

/-- The plain data of what is of a kind is read as the value, except for what objects have been given beside fields. -/
private theorem restore_plain (h : k.Holds v) : (plain v).restore k = some v.bare := by
  induction h with
  | int _ _ => rfl
  | bool b => rfl
  | text s => rfl
  | bytes bs =>
    show (Base64.decode? (String.ofList (Base64.encode bs)).toList).map Value.bytes = _
    rw [String.toList_ofList, Base64.decode?_encode]
    rfl
  | uuid u =>
    show (Uuid.read? (String.ofList u.write).toList).map Value.uuid = _
    rw [String.toList_ofList, Uuid.read?_write]
    rfl
  | key k =>
    show (ApiKey.ofId? k.id).map Value.key = _
    rw [ApiKey.ofId?_id]
    rfl
  | none => rfl
  | some _ ih => exact restore_optional ih
  | list _ ih => exact restore_list ih
  | entry _ names _ _ ih => exact restore_object names ih

/-- The text of an object is read as the object, except for what has been given beside fields. -/
theorem restore_text (h : (Kind.entry s).Holds v) :
    s.restore (Bytes.ofText (String.ofList (write v))) = some v.bare := by
  rw [Shape.restore, read_write_of_plain (isData_of_holds h).1]
  exact restore_plain h

private theorem sameList_of_bare {vs ws : List Value} (h : ∀ v ∈ vs, ∀ w, v.bare = w.bare → v.same w = true)
    (hbare : vs.map bare = ws.map bare) : sameList vs ws = true := by
  induction vs generalizing ws with
  | nil =>
    rw [List.map_nil, eq_comm, List.map_eq_nil_iff] at hbare
    rw [hbare]
    rfl
  | cons v vs ih =>
    obtain ⟨w, ws, rfl, hvw, hrest⟩ := List.map_eq_cons_iff.mp hbare.symm
    have hsame := h v List.mem_cons_self w hvw.symm
    have hsames := ih (fun v hv => h v (List.mem_cons_of_mem _ hv)) hrest.symm
    simp [sameList, hsame, hsames]

private theorem sameEntries_of_lookup {es fs : Entries}
    (h : ∀ e ∈ es, ∃ w, fs.lookup e.1 = some w ∧ e.2.same w = true) : sameEntries es fs = true := by
  induction es with
  | nil => rfl
  | cons e es ih =>
    obtain ⟨w, hw, hsame⟩ := h e List.mem_cons_self
    simp [sameEntries, hw, hsame, ih fun e he => h e (List.mem_cons_of_mem _ he)]

/-- Tables are equal if they differ only in what the objects in them have been given beside fields. -/
private theorem sameEntries_of_bare {es fs : Entries} (names : (es.map (·.1)).Nodup)
    (h : ∀ e ∈ es, ∀ w, e.2.bare = w.bare → e.2.same w = true)
    (hbare : es.map (fun e => (e.1, bare e.2)) = fs.map fun e => (e.1, bare e.2)) : sameEntries es fs = true := by
  apply sameEntries_of_lookup
  rintro ⟨n, v⟩ hv
  have hlookup : (fs.lookup n).map bare = some v.bare := by
    rw [← Entries.lookup_map, ← hbare, Entries.lookup_map, Entries.lookup_of_mem names hv]
    rfl
  obtain ⟨w, hw, hvw⟩ := Option.map_eq_some_iff.mp hlookup
  exact ⟨w, hw, h (n, v) hv w hvw.symm⟩

/-- Values are equal if they differ only in what their objects have been given beside fields. -/
private theorem same_of_bare (h : k.Holds v) (hbare : v.bare = w.bare) : v.same w = true := by
  induction h generalizing w with
  | int _ _ => cases w <;> simp_all [bare, same, sameNumber, number?]
  | bool b => cases w <;> simp_all [bare, same, sameNumber, number?]
  | text s => cases w <;> simp_all [bare, same]
  | bytes bs => cases w <;> simp_all [bare, same]
  | uuid u => cases w <;> simp_all [bare, same]
  | key k => cases w <;> simp_all [bare, same, sameNumber, number?]
  | none => cases w <;> simp_all [bare, same]
  | some _ ih => exact ih hbare
  -- Only a list has the bare form of a list, and only an object of the same shape that of an object.
  | @list k vs _ ih =>
    obtain ⟨ws, rfl⟩ : ∃ ws, w = .list ws := by
      cases w <;> simp [bare] at hbare
      exact ⟨_, rfl⟩
    have hitems : vs.map bare = ws.map bare := by
      simpa [bare, bareItems_eq_map] using hbare
    exact sameList_of_bare (fun v hv w => ih v hv) hitems
  | @entry s es xs known names _ _ ih =>
    obtain ⟨fs, ys, rfl⟩ : ∃ fs ys, w = .object s fs ys := by
      cases w <;> simp [bare] at hbare
      rw [hbare.1]
      exact ⟨_, _, rfl⟩
    have hentries : es.map (fun e => (e.1, bare e.2)) = fs.map fun e => (e.1, bare e.2) := by
      simpa [bare, bareEntries_eq_map] using hbare
    have hnodup : (es.map (·.1)).Nodup := by
      rw [names]
      exact s.fieldNames_nodup
    have hfields : sameEntries es fs = true := by
      refine sameEntries_of_bare hnodup ?_ hentries
      intro e he w hw
      obtain ⟨f, hf, hname⟩ := exists_field names he
      exact ih f hf e.2 (by rw [hname]; exact he) hw
    simp [same, known, hfields]

/-- An object with fields of their kinds is rebuilt from the bytes that it is written as, so no other object of its
shape is written as the same bytes. -/
theorem bytes_lose_nothing (hv : (Kind.entry s).Holds v) (hw : (Kind.entry s).Holds w) :
    (∃ bs, bytesOf v = .ok bs ∧ s.restore bs = some v.bare) ∧
      (bytesOf v = bytesOf w → v.bare = w.bare ∧ v.same w = true) := by
  have hbytes {u : Value} (hu : (Kind.entry s).Holds u) :
      ∃ bs, bytesOf u = .ok bs ∧ s.restore bs = some u.bare := by
    exact ⟨_, bytesOf_of_holds hu, restore_text hu⟩
  obtain ⟨bs, hbs, hrestore⟩ := hbytes hv
  refine ⟨⟨bs, hbs, hrestore⟩, ?_⟩
  intro hsame
  obtain ⟨cs, hcs, hrestore'⟩ := hbytes hw
  rw [hbs, hcs] at hsame
  cases hsame
  have hbare : v.bare = w.bare := by
    rw [hrestore] at hrestore'
    exact Option.some.inj hrestore'
  exact ⟨hbare, same_of_bare hv hbare⟩

/-- A note that a nested topic has been given is no field of the message. -/
theorem bytes_lose_nothing_noted_topic :
    let topic (given : Entries) := Value.object .metadataRequestTopic [("topic_id", .uuid .zero), ("name", .null)] given
    let message (given : Entries) := Value.object .metadata
      [("topics", .list [topic given]), ("allow_auto_topic_creation", .bool true),
        ("include_cluster_authorized_operations", .bool false),
        ("include_topic_authorized_operations", .bool false)] []
    let noted := message [("note", .text "\u2603")]
    (Kind.entry .metadata).Holds noted ∧ (Kind.entry .metadata).Holds (message []) ∧
      bytesOf noted = bytesOf (message []) ∧ noted.bare = (message []).bare ∧ noted.same (message []) = true ∧
      ∃ bs, bytesOf noted = .ok bs ∧ Shape.metadata.restore bs = some (message []) := by
  intro topic message noted
  have htopic (given : Entries) : (Kind.entry .metadataRequestTopic).Holds (topic given) :=
    .ofFields (by decide) (.cons ⟨rfl, .uuid _⟩ (.cons ⟨rfl, .none⟩ .nil))
      (by simp [Shape.attributes, Shape.apiKey?, Shape.mandatory])
  have hmessage (given : Entries) : (Kind.entry .metadata).Holds (message given) :=
    .ofFields (by decide)
      (.cons ⟨rfl, .list (by simpa using htopic given)⟩
        (.cons ⟨rfl, .bool _⟩ (.cons ⟨rfl, .bool _⟩ (.cons ⟨rfl, .bool _⟩ .nil))))
      (by simp)
  have hsame : bytesOf noted = bytesOf (message []) := by
    have hplain : plain noted = plain (message []) := rfl
    have hwrite : write noted = write (message []) := by
      rw [write, write, ← writeWith_plain, hplain, writeWith_plain]
    rw [bytesOf_of_holds (hmessage _), bytesOf_of_holds (hmessage _), hwrite]
  obtain ⟨hrestore, hequal⟩ := bytes_lose_nothing (hmessage [("note", .text "\u2603")]) (hmessage [])
  exact ⟨hmessage _, hmessage _, hsame, (hequal hsame).1, (hequal hsame).2, hrestore⟩

end Json

end RequestSamples
