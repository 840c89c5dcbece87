import Mathlib.Data.Option.Basic
import RequestSamples.Proofs.Success
import RequestSamples.Session.Assignment

/-!
# What getting and setting attributes does

Whatever item is asked for an attribute, and under whatever name, it answers with something that belongs to no message,
with an entry of a table or a table itself, or with something that is bound to the item (`answers_of_attributeOf?`).
And whatever item is given an attribute, an object gets another shape, another table or an entry in its table, or a
member or a family gets an entry (`sets_of_setAttribute`).
-/

namespace RequestSamples.Session.Store

variable {s s' : Store} {x y owner : Item} {v : Value} {a t : Nat} {name taken : String} {f g : Family} {m : Member}
  {shape : Shape}

/-- What an item can answer to a name, where one has gone into it. -/
inductive Answers (s : Store) (x : Item) (name : String) : Item → Prop
  | value (v : Value) : Answers s x name (.value v)
  | family (f : Family) : Answers s x name (.family f)
  /-- What an object has in its table. -/
  | entry {a t : Nat} {shape : Shape} {y : Item} (hx : x = .ref a) (hnode : s.node a = .object shape t)
    (hy : (s.table t).lookup name = some y) : Answers s x name y
  /-- The table of an object. -/
  | table {a t : Nat} {shape : Shape} (hx : x = .ref a) (hnode : s.node a = .object shape t)
    (hname : name = "__dict__") : Answers s x name (.ref t)
  /-- What a member or a family has been given. -/
  | given {r : Holder} {n : String} {y : Item} (hy : s.given? r n = some y) : Answers s x name y
  /-- The table of a member. -/
  | memberTable {m : Member} {t : Nat} (hname : name = "__dict__") (ht : s.given.lookup (.member m) = some t) :
    Answers s x name (.ref t)
  /-- Something that is bound to the item. -/
  | bound (f : Family) : Answers s x name (.bound f name x)
  /-- What the item is bound to. -/
  | owner {f : Family} {taken : String} {owner : Item} (hx : x = .bound f taken owner) : Answers s x name owner
  /-- The function of a method, which is bound to a family. -/
  | function (taken : String) (g : Family) : Answers s x name (.bound .function taken (.family g))

private theorem answers_answer : Answers s x name (x.answer name f) := by
  unfold Item.answer
  split
  · exact .value _
  · split
    · exact .bound _
    · exact .value _

private theorem answers_memberFamily? (h : memberFamily? f name = some y) : Answers s x name y := by
  unfold memberFamily? at h
  split at h
  · obtain ⟨g, -, rfl⟩ := Option.map_eq_some_iff.mp h
    exact .family g
  · cases h

private theorem answers_held? (h : s.held? f name = some y) : Answers s x name y := by
  unfold held? at h
  rcases (Option.orElse_eq_some _ _ _).mp h with h | ⟨-, h⟩
  · exact .given h
  rcases (Option.orElse_eq_some _ _ _).mp h with h | ⟨-, h⟩
  · obtain ⟨v, -, rfl⟩ := Option.map_eq_some_iff.mp h
    exact .value v
  · obtain ⟨base, -, h⟩ := Option.bind_eq_some_iff.mp h
    exact .given h

private theorem answers_common? (h : s.common? x f name = some y) : Answers s x name y := by
  unfold common? at h
  rcases (Option.orElse_eq_some _ _ _).mp h with h | ⟨-, h⟩
  · exact answers_held? h
  rcases (Option.orElse_eq_some _ _ _).mp h with h | ⟨-, h⟩
  · exact answers_memberFamily? h
  · obtain ⟨g, -, rfl⟩ := Option.map_eq_some_iff.mp h
    exact answers_answer

private theorem answers_trait? (h : s.trait? f name = some y) : Answers s (.family f) name y := by
  unfold trait? at h
  split at h
  · cases h
    unfold baseOf
    split
    · exact .family _
    · exact .value _
  rcases (Option.orElse_eq_some _ _ _).mp h with h | ⟨-, h⟩
  · exact answers_held? h
  rcases (Option.orElse_eq_some _ _ _).mp h with h | ⟨-, h⟩
  · exact answers_memberFamily? h
  · obtain ⟨g, -, rfl⟩ := Option.map_eq_some_iff.mp h
    exact answers_answer

private theorem answers_memberAttribute? (h : s.memberAttribute? m name = some y) : Answers s x name y := by
  unfold memberAttribute? at h
  split at h
  · rename_i hname
    obtain ⟨t, ht, rfl⟩ := Option.map_eq_some_iff.mp h
    exact .memberTable hname ht
  · exact .given h

private theorem answers_valueAttribute? (h : s.valueAttribute? v name = some y) : Answers s (.value v) name y := by
  have hrest : ((v.parts.get? name).map Item.value <|> s.common? (.value v) v.family name) = some y →
      Answers s (.value v) name y := by
    intro h
    rcases (Option.orElse_eq_some _ _ _).mp h with h | ⟨-, h⟩
    · obtain ⟨w, -, rfl⟩ := Option.map_eq_some_iff.mp h
      exact .value w
    · exact answers_common? h
  unfold valueAttribute? at h
  dsimp only at h
  split at h
  · rcases (Option.orElse_eq_some _ _ _).mp h with h | ⟨-, h⟩
    · exact answers_memberAttribute? h
    · exact hrest h
  · exact hrest h

private theorem answers_objectAttribute? (hnode : s.node a = .object shape t)
    (h : s.objectAttribute? a shape t name = some y) : Answers s (.ref a) name y := by
  unfold objectAttribute? at h
  split at h
  · rename_i hname
    cases h
    exact .table rfl hnode hname
  split at h
  · cases h
    exact .value _
  rcases (Option.orElse_eq_some _ _ _).mp h with h | ⟨-, h⟩
  · exact .entry rfl hnode h
  · exact answers_common? h

private theorem answers_subject (f g : Family) (taken : String) (owner : Item) (h : Family) :
    Answers s (.bound h taken owner) name (subject f g taken owner) := by
  unfold subject
  split
  · exact .owner rfl
  split
  · exact .value _
  split
  · exact .family _
  split <;> exact .family _

private theorem answers_origin? (h : origin? f g taken name = some y) : Answers s x name y := by
  unfold origin? at h
  split at h
  · cases h
  split at h
  · cases h
    exact .family _
  split at h
  · cases h
    exact .value _
  split at h
  · cases h
    exact .value _
  · cases h

private theorem answers_boundAttribute? (h : s.boundAttribute? f taken owner name = some y) :
    Answers s (.bound f taken owner) name y := by
  unfold boundAttribute? at h
  dsimp only at h
  split at h
  · cases h
    exact answers_subject _ _ _ _ _
  split at h
  · cases h
    exact .function _ _
  rcases (Option.orElse_eq_some _ _ _).mp h with h | ⟨-, h⟩
  · exact answers_origin? h
  rcases (Option.orElse_eq_some _ _ _).mp h with h | ⟨-, h⟩
  · exact answers_common? h
  · split at h
    · exact answers_common? h
    · cases h

theorem answers_of_attributeOf? (h : s.attributeOf? x name = some y) : Answers s x name y := by
  unfold attributeOf? at h
  split at h
  · cases h
    exact .family _
  split at h
  · exact answers_valueAttribute? h
  · exact answers_trait? h
  · exact answers_boundAttribute? h
  · split at h
    · rename_i hnode
      exact answers_objectAttribute? hnode h
    · exact answers_common? h

theorem eq_enterItem_of_attributeOf (h : s.attributeOf x name = .ok (y, s')) :
    s' = s.enterItem x ∧ s'.attributeOf? x name = some y := by
  unfold attributeOf at h
  dsimp only at h
  split at h
  · rename_i hy
    cases h
    exact ⟨rfl, hy⟩
  · cases h

/-- What setting an attribute of an item can do, where one has gone into the item. -/
inductive Sets (s : Store) (x : Item) (name : String) (y : Item) : Store → Prop
  /-- Nothing; what has been set is gone at once. -/
  | nothing : Sets s x name y s
  /-- An object gets another shape. -/
  | shape {a t : Nat} {shape u : Shape} (hx : x = .ref a) (hnode : s.node a = .object shape t)
    (hy : y = .family (.shape u)) : Sets s x name y (s.setNode a (.object u t))
  /-- An object gets another table, which is not that of a member or a family. -/
  | table {a t u : Nat} {shape : Shape} {s' : Store} (hx : x = .ref a) (hnode : s.node a = .object shape t)
    (hname : name = "__dict__") (hu : s.tableAt y = .ok (u, s')) (hgiven : ∀ e ∈ s'.given, e.2 ≠ u) :
    Sets s x name y (s'.setNode a (.object shape u))
  /-- The table of an object gets an entry. -/
  | entry {a t : Nat} {shape : Shape} (hx : x = .ref a) (hnode : s.node a = .object shape t)
    (hname : name ≠ "__dict__") : Sets s x name y (s.setEntry t name y)
  /-- A member gets an attribute. -/
  | member {v : Value} {m : Member} (hx : x = .value v) (hname : name ≠ "__dict__") :
    Sets s x name y (s.give (.member m) name y)
  /-- A family gets an attribute. -/
  | trait {f : Family} (hx : x = .family f) (hname : name ≠ "__dict__") : Sets s x name y (s.give (.family f) name y)

private theorem sets_of_setObjectAttribute (hnode : s.node a = .object shape t)
    (h : s.setObjectAttribute a shape t name y = .ok s') : Sets s (.ref a) name y s' := by
  unfold setObjectAttribute at h
  split at h
  · unfold reshape at h
    split at h
    · cases h
      exact .shape rfl hnode rfl
    · cases h
  split at h
  · rename_i hname
    obtain ⟨⟨u, s₁⟩, hu, h⟩ := Except.bind_eq_ok.mp h
    dsimp only at h
    split at h
    · cases h
    · rename_i hgiven
      cases h
      refine .table rfl hnode hname hu fun e he hfree => hgiven ?_
      exact List.any_eq_true.mpr ⟨e, he, decide_eq_true hfree⟩
  split at h
  · cases h
  · rename_i hname _
    cases h
    exact .entry rfl hnode hname

private theorem sets_of_setMemberAttribute {v : Value} (h : s.setMemberAttribute m name y = .ok s') :
    Sets s (.value v) name y s' := by
  unfold setMemberAttribute at h
  dsimp only at h
  split at h
  · cases h
  split at h
  · cases h
  split at h
  · -- The family of a member can only be set to what it is.
    split at h
    · split at h <;> cases h
      exact .nothing
    · cases h
  split at h
  · obtain ⟨-, -, h⟩ := Except.bind_eq_ok.mp h
    cases h
  rename_i hname
  iterate 4
    split at h
    · cases h
  cases h
  exact .member rfl hname

private theorem sets_of_setTrait (h : s.setTrait f name y = .ok s') : Sets s (.family f) name y s' := by
  unfold setTrait at h
  iterate 5
    split at h
    · cases h
  split at h
  · cases h
  rename_i hname
  split at h
  · cases h
  split at h <;> cases h
  exact .trait rfl hname

private theorem eq_of_setBoundAttribute (h : s.setBoundAttribute f name y = .ok s') : s' = s := by
  unfold setBoundAttribute at h
  split at h
  · cases h
  split at h
  · cases h
    rfl
  split at h
  · cases h
  split at h <;> cases h

theorem sets_of_setAttribute (h : s.setAttribute x name y = .ok s') : Sets (s.enterItem x) x name y s' := by
  unfold setAttribute at h
  dsimp only at h
  split at h
  · split at h
    · rename_i hnode
      exact sets_of_setObjectAttribute hnode h
    · cases h
  · cases h
  · split at h
    · exact sets_of_setMemberAttribute h
    · cases h
  · exact sets_of_setTrait h
  · cases eq_of_setBoundAttribute h
    exact .nothing

end RequestSamples.Session.Store
