import Mathlib.Data.List.Nodup
import RequestSamples.Message
import RequestSamples.Proofs.Json.Data

/-!
# Values of their declared kinds

A value holds what its kind declares if all that is nested in it does: integers have 64 bits, and an object has the
fields of its shape.  What an object has been given beside its fields does not matter, unless its shape names it.
Shapes nest other shapes only to a small depth, so such an object can always be written, and its plain data can be
read (`isData_of_holds`).
-/

namespace RequestSamples

namespace Entries

variable {α : Type} {names : List String} {es : List (String × α)}

private theorem names_pick (names : List String) (es : List (String × α)) :
    (pick names es).map (·.1) = names.filter fun n => (es.lookup n).isSome := by
  induction names with
  | nil => rfl
  | cons n names ih =>
    rw [pick] at ih ⊢
    rw [List.filterMap_cons, List.filter_cons]
    cases h : es.lookup n with
    | none => simpa [h] using ih
    | some a => simpa [h] using ih

private theorem lookup_of_mem_pick {e : String × α} (h : e ∈ pick names es) :
    e.1 ∈ names ∧ es.lookup e.1 = some e.2 := by
  obtain ⟨n, hn, he⟩ := List.mem_filterMap.mp h
  obtain ⟨a, ha, rfl⟩ := Option.map_eq_some_iff.mp he
  exact ⟨hn, ha⟩

private theorem pick_cons_of_not_mem {n : String} (h : n ∉ names) (a : α) (es : List (String × α)) :
    pick names ((n, a) :: es) = pick names es := by
  apply List.filterMap_congr
  intro m hm
  have hne : (m == n) = false := by
    rw [beq_eq_false_iff_ne]
    rintro rfl
    exact h hm
  rw [List.lookup_cons, hne]

/-- The first entries are picked by their names. -/
private theorem pick_names (h : (es.map (·.1)).Nodup) (fs : List (String × α)) :
    pick (es.map (·.1)) (es ++ fs) = es := by
  induction es with
  | nil => rfl
  | cons e es ih =>
    obtain ⟨n, a⟩ := e
    rw [List.map_cons, List.nodup_cons] at h
    have hlookup : ((n, a) :: (es ++ fs)).lookup n = some a := by simp
    have hrest : pick (es.map (·.1)) ((n, a) :: (es ++ fs)) = es := by
      rw [pick_cons_of_not_mem h.1, ih h.2]
    rw [List.map_cons, List.cons_append, pick, List.filterMap_cons, hlookup]
    exact congrArg ((n, a) :: ·) hrest

/-- Entries with other names are not picked. -/
private theorem pick_append_of_disjoint (h : ∀ n ∈ names, n ∉ es.map (·.1)) (fs : List (String × α)) :
    pick names (es ++ fs) = pick names fs := by
  induction es with
  | nil => rfl
  | cons e es ih =>
    have hfirst : e.1 ∉ names := fun hmem => h e.1 hmem List.mem_cons_self
    rw [List.cons_append, pick_cons_of_not_mem hfirst e.2]
    exact ih fun n hn hmem => h n hn (List.mem_cons_of_mem _ hmem)

end Entries

namespace Shape

variable {α : Type} {s : Shape} {es xs : List (String × α)}

private theorem writtenNames_nodup (s : Shape) : s.writtenNames.Nodup := by
  cases s <;> decide

/-- Of an object that has its fields, they are written, and before them what else the shape names. -/
private theorem written_of_names (names : es.map (·.1) = s.fieldNames) :
    s.written (es ++ xs) = Entries.pick s.attributes xs ++ es := by
  have hnames := s.writtenNames_nodup
  rw [writtenNames, List.nodup_append] at hnames
  obtain ⟨-, hfields, hdisjoint⟩ := hnames
  have hothers : Entries.pick s.attributes (es ++ xs) = Entries.pick s.attributes xs := by
    apply Entries.pick_append_of_disjoint
    intro n hn hmem
    rw [names] at hmem
    exact hdisjoint n hn n hmem rfl
  have hfirst : Entries.pick s.fieldNames (es ++ xs) = es := by
    rw [← names] at hfields ⊢
    exact Entries.pick_names hfields xs
  rw [Entries.pick] at hothers hfirst
  rw [written, writtenNames, Entries.pick, List.filterMap_append, hothers, hfirst]

/-- The names that an object is written with: those of its shape that it has for itself, then its fields. -/
theorem names_written (names : es.map (·.1) = s.fieldNames) :
    (Entries.pick s.attributes xs ++ es).map (·.1) =
      (s.attributes.filter fun n => (xs.lookup n).isSome) ++ s.fieldNames := by
  rw [List.map_append, Entries.names_pick, names]

theorem names_written_nodup (names : es.map (·.1) = s.fieldNames) :
    ((Entries.pick s.attributes xs ++ es).map (·.1)).Nodup := by
  rw [names_written names]
  exact s.writtenNames_nodup.sublist (List.filter_sublist.append (List.Sublist.refl _))

end Shape

/-- What an object can have for itself in place of what its shape gives all its objects: a request kind, or names. -/
inductive Value.ReplacesConstant : Value → Prop
  | kind (k : ApiKey) : ReplacesConstant (.key k)
  | names (ns : List String) : ReplacesConstant (.tuple (ns.map .text))

/-- A value is of a kind, and so is all that it holds. -/
inductive Kind.Holds : Kind → Value → Prop
  | int {n : Int} (low : -2 ^ 63 ≤ n) (high : n < 2 ^ 63) : Holds .int (.int n)
  | bool (b : Bool) : Holds .bool (.bool b)
  | text (s : String) : Holds .text (.text s)
  | bytes (bs : Bytes) : Holds .bytes (.bytes bs)
  | uuid (u : Uuid) : Holds .uuid (.uuid u)
  | key (k : ApiKey) : Holds .key (.key k)
  | none {k : Kind} : Holds (.optional k) .null
  | some {k : Kind} {v : Value} (h : Holds k v) : Holds (.optional k) v
  | list {k : Kind} {vs : List Value} (items : ∀ v ∈ vs, Holds k v) : Holds (.listOf k) (.list vs)
  | entry {s : Shape} {es xs : Entries} (known : s ≠ .request) (names : es.map (·.1) = s.fieldNames)
    (fields : ∀ f ∈ s.fields, ∀ v, (f.name, v) ∈ es → Holds f.kind v)
    (constants : ∀ n ∈ s.attributes, ∀ v, xs.lookup n = Option.some v → v.ReplacesConstant) :
    Holds (.entry s) (.object s es xs)

theorem exists_field {s : Shape} {es : Entries} (names : es.map (·.1) = s.fieldNames) {e : String × Value}
    (he : e ∈ es) : ∃ f ∈ s.fields, f.name = e.1 := by
  have hname : e.1 ∈ s.fieldNames := by
    rw [← names]
    exact List.mem_map_of_mem he
  exact List.mem_map.mp hname

/-- What holds of all fields by name holds of the fields in their order. -/
theorem forall₂_of_names {P : Field → Value → Prop} {fs : List Field} {es : Entries}
    (names : es.map (·.1) = fs.map (·.name)) (h : ∀ f ∈ fs, ∀ v, (f.name, v) ∈ es → P f v) :
    List.Forall₂ (fun f e => f.name = e.1 ∧ P f e.2) fs es := by
  induction fs generalizing es with
  | nil =>
    rw [List.map_nil, List.map_eq_nil_iff] at names
    rw [names]
    exact .nil
  | cons f fs ih =>
    obtain ⟨e, es, rfl, hname, hrest⟩ := List.map_eq_cons_iff.mp names
    dsimp only at hname
    refine .cons ⟨hname.symm, h f List.mem_cons_self e.2 ?_⟩ (ih hrest ?_)
    · rw [← hname]
      exact List.mem_cons_self
    · intro f' hf' v hv
      exact h f' (List.mem_cons_of_mem _ hf') v (List.mem_cons_of_mem _ hv)

private theorem exists_of_forall₂ {P : Field → Value → Prop} {fs : List Field} {es : Entries}
    (h : List.Forall₂ (fun f e => f.name = e.1 ∧ P f e.2) fs es) {e : String × Value} (he : e ∈ es) :
    ∃ f ∈ fs, f.name = e.1 ∧ P f e.2 := by
  induction h with
  | nil => cases he
  | cons hfe _ ih =>
    rcases List.mem_cons.mp he with rfl | he
    · exact ⟨_, List.mem_cons_self, hfe⟩
    · obtain ⟨f, hf, hfe⟩ := ih he
      exact ⟨f, List.mem_cons_of_mem _ hf, hfe⟩

/-- An object is of its shape if its fields are those of the shape in their order. -/
theorem Kind.Holds.ofFields {s : Shape} {es xs : Entries} (known : s ≠ .request)
    (fields : List.Forall₂ (fun f e => f.name = e.1 ∧ f.kind.Holds e.2) s.fields es)
    (constants : ∀ n ∈ s.attributes, ∀ v, xs.lookup n = Option.some v → v.ReplacesConstant) :
    (Kind.entry s).Holds (.object s es xs) := by
  refine .entry known ?_ ?_ constants
  · have hnames : List.Forall₂ (fun a b => a = b) s.fieldNames (es.map (·.1)) := by
      rw [Shape.fieldNames, List.forall₂_map_left_iff, List.forall₂_map_right_iff]
      exact fields.imp fun _ _ h => h.1
    rw [List.forall₂_eq_eq_eq] at hnames
    exact hnames.symm
  · intro f hf v hv
    obtain ⟨f', hf', hname, hholds⟩ := exists_of_forall₂ fields hv
    have hself : f' = f := List.inj_on_of_nodup_map s.fieldNames_nodup hf' hf hname
    rw [← hself]
    exact hholds

/-- The most lists and tables that are open at once in the plain data of a value of a kind, if `levels` says so for
shapes. -/
def Kind.levels (levels : Shape → Nat) : Kind → Nat
  | .optional k => k.levels levels
  | .listOf k => k.levels levels + 1
  | .entry s => levels s
  | .int | .bool | .text | .bytes | .uuid | .key => 0

/-- The levels of a shape of which no more than so many shapes nest each other.  Names that an object has for itself
take one level below its own. -/
def Shape.levelsWithin : Nat → Shape → Nat
  | 0, _ => 0
  | n + 1, s => ((s.fields.map fun f => f.kind.levels (levelsWithin n)).foldl max 1) + 1

/-- The most lists and tables that are open at once in the plain data of an object of a shape. -/
def Shape.levels (s : Shape) : Nat := s.levelsWithin 3

private theorem Shape.one_lt_levels (s : Shape) : 1 < s.levels := by
  cases s <;> decide

private theorem Shape.levels_le (s : Shape) : s.levels ≤ 6 := by
  cases s <;> decide

/-- What a field nests is less deep than its object. -/
private theorem Shape.levels_field {s : Shape} {f : Field} (h : f ∈ s.fields) :
    f.kind.levels Shape.levels < s.levels := by
  have hall : ∀ f ∈ s.fields, f.kind.levels Shape.levels < s.levels := by
    cases s <;> decide
  exact hall f h

namespace Json

private theorem obstacles_eq_map (room : Nat) (vs : List Value) : obstacles room vs = vs.map (obstacleWithin room) := by
  induction vs with
  | nil => rfl
  | cons v vs ih => simp [obstacles, ih]

private theorem entryObstacles_eq_map (room : Nat) (es : List (String × Value)) :
    entryObstacles room es = es.map fun e => (e.1, obstacleWithin room e.2) := by
  induction es with
  | nil => rfl
  | cons e es ih => simp [entryObstacles, ih]

/-- The plain data of an object that has its fields. -/
theorem plain_object {s : Shape} {es xs : Entries} (names : es.map (·.1) = s.fieldNames) :
    plain (.object s es xs) = .dict ((Entries.pick s.attributes xs ++ es).map fun e => (e.1, plain e.2)) := by
  rw [plain, plainEntries_eq_map, plainEntries_eq_map, ← List.map_append, Shape.written, Entries.pick_map,
    ← Shape.written, Shape.written_of_names names]

private theorem below_eq_none {room : Nat} {parts : Nat → List (Option Failure)} (h : ∀ o ∈ parts room, o = none) :
    below (room + 1) parts = none := by
  rw [below, List.findSome?_eq_none_iff]
  exact h

variable {room : Nat} {v : Value} {k : Kind}

private theorem isData_id (k : ApiKey) : IsData room (.int k.id) := by
  have := k.id_lt
  exact .int (Nat.le_trans (length_write_le (by omega) (by omega)) (by decide))

private theorem isData_of_replacesConstant (h : v.ReplacesConstant) :
    IsData (room + 1) (plain v) ∧ obstacleWithin (room + 1) v = none := by
  cases h with
  | kind k => exact ⟨isData_id k, rfl⟩
  | names ns =>
    constructor
    · rw [plain, plainItems_eq_map]
      apply IsData.list
      simp [plain, IsData.text]
    · rw [obstacleWithin]
      apply below_eq_none
      simp [obstacles_eq_map, obstacleWithin]

private theorem isData_list {vs : List Value}
    (items : ∀ v ∈ vs, IsData room (plain v) ∧ obstacleWithin room v = none) :
    IsData (room + 1) (plain (.list vs)) ∧ obstacleWithin (room + 1) (.list vs) = none := by
  constructor
  · rw [plain, plainItems_eq_map]
    apply IsData.list
    intro w hw
    obtain ⟨v, hv, rfl⟩ := List.mem_map.mp hw
    exact (items v hv).1
  · rw [obstacleWithin]
    apply below_eq_none
    intro o ho
    rw [obstacles_eq_map] at ho
    obtain ⟨v, hv, rfl⟩ := List.mem_map.mp ho
    exact (items v hv).2

/-- What the object has for itself in place of a constant is written before its fields. -/
private theorem isData_object {s : Shape} {es xs : Entries} (known : s ≠ .request)
    (names : es.map (·.1) = s.fieldNames)
    (written : ∀ e ∈ Entries.pick s.attributes xs ++ es,
      IsData room (plain e.2) ∧ obstacleWithin room e.2 = none) :
    IsData (room + 1) (plain (.object s es xs)) ∧ obstacleWithin (room + 1) (.object s es xs) = none := by
  constructor
  · rw [plain_object names]
    apply IsData.dict
    · rw [List.map_map]
      exact Shape.names_written_nodup names
    · intro e he
      obtain ⟨e', he', rfl⟩ := List.mem_map.mp he
      exact (written e' he').1
  · rw [obstacleWithin, if_neg known]
    apply below_eq_none
    intro o ho
    rw [entryObstacles_eq_map, entryObstacles_eq_map, ← List.map_append, Shape.written, Entries.pick_map,
      ← Shape.written, Shape.written_of_names names, List.map_map] at ho
    obtain ⟨e, he, rfl⟩ := List.mem_map.mp ho
    exact (written e he).2

/-- What is of a kind can be written, and its plain data can be read, if there is room for what the kind nests. -/
private theorem isData_plain (h : k.Holds v) (hroom : k.levels Shape.levels ≤ room) :
    IsData room (plain v) ∧ obstacleWithin room v = none := by
  induction h generalizing room with
  | int low high => exact ⟨.int (Nat.le_trans (length_write_le low high) (by decide)), rfl⟩
  | bool b => exact ⟨.bool b, rfl⟩
  | text s => exact ⟨.text s, rfl⟩
  | bytes bs => exact ⟨.text _, rfl⟩
  | uuid u => exact ⟨.text _, rfl⟩
  | key k => exact ⟨isData_id k, rfl⟩
  | none => exact ⟨.null, rfl⟩
  | some _ ih => exact ih hroom
  | @list k vs _ ih =>
    have hlist : k.levels Shape.levels + 1 ≤ room := hroom
    obtain ⟨room, rfl⟩ : ∃ n, room = n + 1 := ⟨room - 1, by omega⟩
    exact isData_list fun v hv => ih v hv (by omega)
  | @entry s es xs known names _ constants ih =>
    -- One level is for the table, and another one for own names, which nest in it like a field.
    have hshape : s.levels ≤ room := hroom
    have hlevels := s.one_lt_levels
    obtain ⟨room, rfl⟩ : ∃ n, room = n + 2 := ⟨room - 2, by omega⟩
    refine isData_object known names fun e he => ?_
    rcases List.mem_append.mp he with he | he
    · obtain ⟨hn, hv⟩ := Entries.lookup_of_mem_pick he
      exact isData_of_replacesConstant (constants e.1 hn e.2 hv)
    · obtain ⟨f, hf, hfe⟩ := exists_field names he
      have := Shape.levels_field hf
      exact ih f hf e.2 (by rw [hfe]; exact he) (by omega)

/-- Every object of a shape with fields of their kinds can be written, and its plain data can be read. -/
theorem isData_of_holds {s : Shape} (h : (Kind.entry s).Holds v) :
    IsData Value.maxNesting (plain v) ∧ obstacle? v = none := by
  have hlevels : s.levels ≤ Value.maxNesting := Nat.le_trans s.levels_le (by decide)
  exact isData_plain h hlevels

theorem encode_of_holds {s : Shape} (h : (Kind.entry s).Holds v) : encode v = .ok (write v) := by
  rw [encode, writable, (isData_of_holds h).2]
  rfl

theorem reduce_of_holds {s : Shape} (h : (Kind.entry s).Holds v) : reduce v = .ok (plain v) := by
  rw [reduce, writable, (isData_of_holds h).2]
  rfl

end Json

end RequestSamples
