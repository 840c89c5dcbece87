import RequestSamples.Proofs.Batch.Reading
import RequestSamples.Proofs.Names.Textual
import RequestSamples.Proofs.Populator.Filled

/-!
# What filled requests carry

A request carries what its populator has drawn for it: names and ids in its fields, or a name in the only record
of a batch.  The main facts are that all of it can be read off the filled request in the order of drawing
(`carried_assign`), and that nothing else about the request depends on what was drawn: neither its class and its
kind nor the sizes of its collections (`sizes_assign`).
-/

namespace RequestSamples

namespace Value

/-- The items of the list that a value has under a name. -/
def itemsAt (v : Value) (name : String) : List Value :=
  match v.attribute? name with
  | some (.list vs) => vs
  | _ => []

/-- What a value has under a name, if anything. -/
def partAt (v : Value) (name : String) : List Value := (v.attribute? name).toList

/-- The values of the records in a batch that is read to its last byte, as texts. -/
def recordTexts : Value → List Value
  | .bytes bs =>
    match Batch.read.run bs with
    | some (r, []) => r.entries.filterMap fun e => (e.stored.contents.value.bind Bytes.toText?).map .text
    | _ => []
  | _ => []

mutual

/-- The sizes of the collections in a value, from outside to inside and from left to right. -/
def sizes : Value → List Nat
  | .list vs | .tuple vs => vs.length :: sizesOfItems vs
  | .dict es => es.length :: sizesOfEntries es
  | .object _ es xs => sizesOfEntries es ++ sizesOfEntries xs
  | _ => []
termination_by structural v => v

/-- The sizes of the collections in the items of a list. -/
def sizesOfItems : List Value → List Nat
  | [] => []
  | v :: vs => sizes v ++ sizesOfItems vs
termination_by structural vs => vs

/-- The sizes of the collections in the entries of a table. -/
def sizesOfEntries : List (String × Value) → List Nat
  | [] => []
  | (_, v) :: es => sizes v ++ sizesOfEntries es
termination_by structural es => es

end

end Value

namespace Populator

/-- What a request carries where a populator puts what it draws, in the order of drawing. -/
def carried : Populator → Value → List Value
  | noop, _ => []
  | produce, v =>
    (v.itemsAt "topic_data").flatMap fun topic =>
      (topic.itemsAt "partition_data").flatMap fun partition =>
        (partition.partAt "records").flatMap Value.recordTexts
  | listOffsets, v => (v.itemsAt "topics").flatMap (·.partAt "name")
  | offsetFetch, v => (v.itemsAt "topics").flatMap (·.partAt "name") ++ v.partAt "group_id"
  | metadata, v => (v.itemsAt "topics").flatMap fun topic => topic.partAt "name" ++ topic.partAt "topic_id"
  | updateMetadata, v => (v.itemsAt "topic_states").flatMap (·.partAt "topic_id")
  | leaveGroup, v => (v.itemsAt "members").flatMap (·.partAt "member_id")
  | describeGroups, v => v.itemsAt "groups"
  | consumerGroupDescribe, v => v.itemsAt "group_ids"

/-- The batch that holds a text gives it back. -/
private theorem recordTexts_of_nameBatch {t : String} {records : Value} (h : nameBatch (.text t) = .ok records) :
    records.recordTexts = [.text t] := by
  obtain ⟨record, hrecord, h⟩ := Except.bind_eq_ok.mp h
  obtain ⟨bytes, hbytes, h⟩ := Except.bind_eq_ok.mp h
  cases h
  cases hrecord
  obtain ⟨r, hread, -, -, -, -, hcontents, -⟩ := Batch.read_encode hbytes
  have hc : r.entries.map (·.stored.contents) = [⟨none, some (Bytes.ofText t), []⟩] :=
    (Option.some.inj hcontents).symm
  obtain ⟨e, he⟩ := List.length_eq_one_iff.mp (by simpa using congrArg List.length hc)
  rw [he] at hc
  have hv : e.stored.contents.value = some (Bytes.ofText t) :=
    congrArg Record.Contents.value (List.singleton_inj.mp hc)
  simp only [Value.recordTexts, hread, he, List.filterMap_cons, hv, Option.bind_some, Bytes.toText?_ofText,
    Option.map_some, List.filterMap_nil]

/-- A filled request carries all that was drawn for it. -/
theorem carried_assign {p : Populator} {shape : Shape} {vs : List Value} {es : Entries}
    (hp : p.shape? = some shape) (hvs : List.Forall₂ Draw.Fits p.demand vs) (hes : p.fields vs = .ok es) :
    p.carried (assign es shape.fresh) = vs := by
  cases p with
  | noop => cases hp
  | produce =>
    -- The only populator that does not put a name as it is.
    cases hp
    obtain ⟨name, _, ⟨t, rfl⟩, hnil, rfl⟩ := List.forall₂_cons_left_iff.mp hvs
    cases hnil
    cases hb : nameBatch (.text t) with
    | error e => simp only [fields, hb] at hes; cases hes
    | ok records =>
      simp only [fields, hb] at hes
      cases hes
      show Value.recordTexts records ++ [] ++ [] ++ [] = [.text t]
      rw [recordTexts_of_nameBatch hb]
      rfl
  | listOffsets | updateMetadata | leaveGroup =>
    cases hp
    obtain ⟨v, _, -, hnil, rfl⟩ := List.forall₂_cons_left_iff.mp hvs
    cases hnil
    cases hes
    rfl
  | offsetFetch | metadata | describeGroups | consumerGroupDescribe =>
    cases hp
    obtain ⟨v, _, -, hrest, rfl⟩ := List.forall₂_cons_left_iff.mp hvs
    obtain ⟨w, _, -, hnil, rfl⟩ := List.forall₂_cons_left_iff.mp hrest
    cases hnil
    cases hes
    rfl

/-- The sizes of the collections in the requests of a shape that its populator has filled. -/
def filledSizes : Populator → List Nat
  | noop => []
  | produce | listOffsets => [1, 1]
  | offsetFetch => [1, 2, 0]
  | metadata | leaveGroup => [1]
  | updateMetadata => [0, 1, 0, 0]
  | describeGroups | consumerGroupDescribe => [2]

/-- The collections of a filled request have the same sizes whatever was drawn for it. -/
theorem sizes_assign {p : Populator} {shape : Shape} {vs : List Value} {es : Entries}
    (hp : p.shape? = some shape) (hvs : List.Forall₂ Draw.Fits p.demand vs) (hes : p.fields vs = .ok es) :
    (assign es shape.fresh).sizes = p.filledSizes := by
  cases p with
  | noop => cases hp
  | produce =>
    cases hp
    obtain ⟨name, _, -, hnil, rfl⟩ := List.forall₂_cons_left_iff.mp hvs
    cases hnil
    cases hb : nameBatch name with
    | error e => simp only [fields, hb] at hes; cases hes
    | ok records =>
      obtain ⟨bytes, rfl⟩ : ∃ bytes, records = .bytes bytes := by
        obtain ⟨_, -, h⟩ := Except.bind_eq_ok.mp hb
        obtain ⟨bytes, -, h⟩ := Except.bind_eq_ok.mp h
        cases h
        exact ⟨bytes, rfl⟩
      simp only [fields, hb] at hes
      cases hes
      rfl
  | listOffsets | leaveGroup | updateMetadata =>
    cases hp
    obtain ⟨v, _, ⟨_, rfl⟩, hnil, rfl⟩ := List.forall₂_cons_left_iff.mp hvs
    cases hnil
    cases hes
    rfl
  | offsetFetch | metadata | describeGroups | consumerGroupDescribe =>
    cases hp
    obtain ⟨v, _, ⟨_, rfl⟩, hrest, rfl⟩ := List.forall₂_cons_left_iff.mp hvs
    obtain ⟨w, _, ⟨_, rfl⟩, hnil, rfl⟩ := List.forall₂_cons_left_iff.mp hrest
    cases hnil
    cases hes
    rfl

end Populator

end RequestSamples
