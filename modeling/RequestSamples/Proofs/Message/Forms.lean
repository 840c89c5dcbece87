import RequestSamples.Proofs.Message.Typed

/-!
# The two forms of a message

A message is shown as plain data and as JSON text.  For an object with fields of their kinds both exist, and they
agree: the text is read back as the plain data, entry by entry and in the same order (`serializations_agree`).  The
plain data shows every field under its name in the order of the shape: bytes as base64 text, ids as their canonical
text, request kinds as their wire ids, and nested objects as tables of their fields.
-/

namespace RequestSamples

/-- Plain data shows a value of a kind.  The table of an object names its fields in the order of the shape.  What the
shape gives all its objects stands in it, before the fields, only if the object has replaced it for itself. -/
inductive Kind.Shows : Kind → Value → Value → Prop
  | int (n : Int) : Shows .int (.int n) (.int n)
  | bool (b : Bool) : Shows .bool (.bool b) (.bool b)
  | text (s : String) : Shows .text (.text s) (.text s)
  | bytes (bs : Bytes) : Shows .bytes (.bytes bs) (.text (String.ofList (Base64.encode bs)))
  | uuid (u : Uuid) : Shows .uuid (.uuid u) (.text (String.ofList u.write))
  | key (k : ApiKey) : Shows .key (.key k) (.int k.id)
  | none {k : Kind} : Shows (.optional k) .null .null
  | some {k : Kind} {v w : Value} (h : Shows k v w) : Shows (.optional k) v w
  | list {k : Kind} {vs ws : List Value} (length : ws.length = vs.length)
    (items : ∀ p ∈ vs.zip ws, Shows k p.1 p.2) : Shows (.listOf k) (.list vs) (.list ws)
  | entry {s : Shape} {es xs ws : Entries}
    (names : ws.map (·.1) = (s.attributes.filter fun n => (xs.lookup n).isSome) ++ s.fieldNames)
    (fields : ∀ f ∈ s.fields, ∀ v w, (f.name, v) ∈ es → ws.lookup f.name = Option.some w → Shows f.kind v w) :
    Shows (.entry s) (.object s es xs) (.dict ws)

namespace Json

variable {k : Kind} {v : Value} {s : Shape}

/-- The plain data of a value shows it. -/
private theorem shows_plain (h : k.Holds v) : k.Shows v (plain v) := by
  induction h with
  | int _ _ => exact .int _
  | bool b => exact .bool b
  | text s => exact .text s
  | bytes bs => exact .bytes bs
  | uuid u => exact .uuid u
  | key k => exact .key k
  | none => exact .none
  | some _ ih => exact .some ih
  | @list k vs _ ih =>
    rw [plain, plainItems_eq_map]
    refine .list (List.length_map _) ?_
    intro p hp
    have hzip : vs.zip (vs.map plain) = vs.map fun v => (v, plain v) := by
      simpa using List.zip_map' (f := id) (g := plain) (l := vs)
    rw [hzip] at hp
    obtain ⟨v, hv, rfl⟩ := List.mem_map.mp hp
    exact ih v hv
  | @entry s es xs known names _ constants ih =>
    rw [plain_object names]
    refine .entry ?_ ?_
    · rw [List.map_map]
      exact Shape.names_written names
    · intro f hf v w hv hw
      have hlookup := Entries.lookup_of_mem (Shape.names_written_nodup names)
        (List.mem_append_right (Entries.pick s.attributes xs) hv)
      rw [Entries.lookup_map, hlookup] at hw
      cases hw
      exact ih f hf v hv

/-- The bytes that a value is written as. -/
def bytesOf (v : Value) : Except Failure Bytes := (encode v).map fun text => Bytes.ofText (String.ofList text)

theorem bytesOf_of_holds (h : (Kind.entry s).Holds v) : bytesOf v = .ok (Bytes.ofText (String.ofList (write v))) := by
  rw [bytesOf, encode_of_holds h]
  rfl

/-- An object with fields of their kinds is written as bytes that are read as its plain data, and the plain data shows
all of its fields. -/
theorem serializations_agree (h : (Kind.entry s).Holds v) :
    ∃ bs data, bytesOf v = .ok bs ∧ reduce v = .ok data ∧ read bs = .ok data ∧ (Kind.entry s).Shows v data := by
  have hread := read_write_of_plain (isData_of_holds h).1
  exact ⟨_, plain v, bytesOf_of_holds h, reduce_of_holds h, hread, shows_plain h⟩

/-- The example message of a topic with one record. -/
theorem serializations_agree_produce :
    let partition := Value.object .partitionProduceData [("index", .int (-3)), ("records", .bytes [1, 2])] []
    let topic := Value.object .topicProduceData [("name", .text "t\"\n"), ("partition_data", .list [partition])] []
    let message := Value.object .produce
      [("transactional_id", .null), ("acks", .int (-1)), ("timeout_ms", .int 9), ("topic_data", .list [topic])] []
    (Kind.entry .produce).Holds message ∧ ∃ bs data, bytesOf message = .ok bs ∧ reduce message = .ok data ∧
      read bs = .ok data ∧ (Kind.entry .produce).Shows message data := by
  intro partition topic message
  have hpartition : (Kind.entry .partitionProduceData).Holds partition :=
    .ofFields (by decide) (.cons ⟨rfl, .int (by decide) (by decide)⟩ (.cons ⟨rfl, .some (.bytes _)⟩ .nil)) (by simp)
  have htopic : (Kind.entry .topicProduceData).Holds topic :=
    .ofFields (by decide) (.cons ⟨rfl, .text _⟩ (.cons ⟨rfl, .list (by simpa using hpartition)⟩ .nil)) (by simp)
  have hmessage : (Kind.entry .produce).Holds message :=
    .ofFields (by decide)
      (.cons ⟨rfl, .none⟩ (.cons ⟨rfl, .int (by decide) (by decide)⟩
        (.cons ⟨rfl, .int (by decide) (by decide)⟩ (.cons ⟨rfl, .list (by simpa using htopic)⟩ .nil))))
      (by simp)
  exact ⟨hmessage, serializations_agree hmessage⟩

end Json

end RequestSamples
