import RequestSamples.Proofs.Populator.Atomic
import RequestSamples.Proofs.Session.Frame

/-!
# What the methods of messages give

A method of an object gives what follows from the attributes of the object, wherever in the store they stand, unless
the method has been given to the family of the object (`SameObject.answered`).  So as long as no family has been given
anything, it gives the same before and after others have changed (`Untouched.throughMethod`), and objects that nobody
has gone into give the same in any two stores (`throughMethod_of_whole`).
-/

namespace RequestSamples.Session.Store

open Entries (Agree agree_self)

variable {own : Owners} {s s' e e' : Store} {c : Option String} {x x' y : Item} {a a' t t' n : Nat} {f : Family}
  {name method : String} {shape : Shape} {v : Value}

/-- No family has been given an attribute. -/
def Untaught (s : Store) : Prop := ∀ f, s.given.lookup (.family f) = none

/-- Families have been given the same in both stores. -/
def TaughtAlike (e e' : Store) : Prop := ∀ f name, e'.given? (.family f) name = e.given? (.family f) name

theorem Untaught.given? (h : s.Untaught) : s.given? (.family f) name = none := by
  rw [Store.given?, h f]
  rfl

private theorem Untaught.taughtAlike (h : e.Untaught) (h' : e'.Untaught) : TaughtAlike e e' :=
  fun _ _ => h'.given?.trans h.given?.symm

theorem TaughtAlike.held? (h : TaughtAlike e e') (f : Family) (name : String) : e'.held? f name = e.held? f name := by
  have hgiven : (fun g => e'.given? (.family g) name) = fun g => e.given? (.family g) name :=
    funext fun g => h g name
  unfold Store.held?
  rw [h f name, hgiven]

/-- What a family holds is a value, or a family has been given it. -/
private theorem held?_eq_some (h : s.held? f name = some y) :
    (∃ v, y = .value v) ∨ ∃ g, s.given? (.family g) name = some y := by
  unfold held? at h
  rcases (Option.orElse_eq_some _ _ _).mp h with h | ⟨-, h⟩
  · exact .inr ⟨f, h⟩
  rcases (Option.orElse_eq_some _ _ _).mp h with h | ⟨-, h⟩
  · obtain ⟨v, -, rfl⟩ := Option.map_eq_some_iff.mp h
    exact .inl ⟨v, rfl⟩
  · obtain ⟨base, -, h⟩ := Option.bind_eq_some_iff.mp h
    exact .inr ⟨base, h⟩

/-- What two items answer is alike: both answers have one family, or are the same thing bound to each item, or one
thing that a family has been given. -/
def AnswersAlike (e : Store) (x : Item) (e' : Store) (x' : Item) (name : String) : Option Item → Option Item → Prop
  | none, none => True
  | some y, some y' =>
    (y.IsFree ∧ y'.IsFree ∧ e.family y = e'.family y') ∨ (∃ f, y = .bound f name x ∧ y' = .bound f name x') ∨
      y = y' ∧ ∃ f, e.given? (.family f) name = some y
  | _, _ => False

private theorem answersAlike_common? (h : TaughtAlike e e') :
    AnswersAlike e x e' x' name (e.common? x f name) (e'.common? x' f name) := by
  unfold common?
  rw [h.held?]
  cases hheld : e.held? f name with
  | some y =>
    rcases held?_eq_some hheld with ⟨v, rfl⟩ | hgiven
    · exact .inl ⟨trivial, trivial, rfl⟩
    · exact .inr (.inr ⟨rfl, hgiven⟩)
  | none =>
    cases hmember : memberFamily? f name with
    | some y =>
      unfold memberFamily? at hmember
      split at hmember
      · obtain ⟨g, -, rfl⟩ := Option.map_eq_some_iff.mp hmember
        exact .inl ⟨trivial, trivial, rfl⟩
      · cases hmember
    | none =>
      cases f.attribute? name with
      | none => trivial
      | some g =>
        show AnswersAlike e x e' x' name (some (x.answer name g)) (some (x'.answer name g))
        unfold Item.answer
        split
        · exact .inl ⟨trivial, trivial, rfl⟩
        · split
          · exact .inr (.inl ⟨g, rfl, rfl⟩)
          · exact .inl ⟨trivial, trivial, rfl⟩

/-- At two addresses stand objects of one shape that have been gone into, with attributes that show the same. -/
structure SameObject (e : Store) (a : Nat) (e' : Store) (a' : Nat) (shape : Shape) (t t' : Nat) : Prop where
  node : e.node a = .object shape t
  node' : e'.node a' = .object shape t'
  table : (e.node t).IsTable
  table' : (e'.node t').IsTable
  attributes : Agree (fun y y' => y.IsFree ∧ y'.IsFree ∧ e.family y = e'.family y' ∧
    ∀ room, e.reduceWithin room y = e'.reduceWithin room y') (e.table t) (e'.table t')

theorem family_of_object (h : e.node a = .object shape t) : e.family (.ref a) = .shape shape := by
  rw [family, form, h]
  rfl

theorem SameObject.attributeOf? (h : SameObject e a e' a' shape t t') (htaught : TaughtAlike e e') (name : String) :
    AnswersAlike e (.ref a) e' (.ref a') name (e.attributeOf? (.ref a) name) (e'.attributeOf? (.ref a') name) := by
  unfold Store.attributeOf?
  rw [family_of_object h.node, family_of_object h.node']
  split
  · exact .inl ⟨trivial, trivial, rfl⟩
  dsimp only
  rw [h.node, h.node']
  dsimp only
  unfold objectAttribute?
  split
  · obtain ⟨es, hes⟩ := h.table
    obtain ⟨es', hes'⟩ := h.table'
    refine .inl ⟨trivial, trivial, ?_⟩
    rw [family, family, form, form, hes, hes']
    rfl
  split
  · exact .inl ⟨trivial, trivial, rfl⟩
  -- Own attributes come first; only without one the common ones are asked, and these may be bound to the object.
  rcases h.attributes.lookup name with ⟨hy, hy'⟩ | ⟨y, y', hy, hy', hfree, hfree', hfamily, -⟩
  · rw [hy, hy']
    exact answersAlike_common? htaught
  · rw [hy, hy']
    exact .inl ⟨hfree, hfree', hfamily⟩

theorem SameObject.reduce (h : SameObject e a e' a' shape t t') : e.reduce (.ref a) = e'.reduce (.ref a') := by
  have hform : e.form (.ref a) = .object shape (e.table t) := by rw [form, h.node]
  have hform' : e'.form (.ref a') = .object shape (e'.table t') := by rw [form, h.node']
  unfold Store.reduce
  generalize Value.maxNesting = room
  unfold reduceWithin
  rw [hform, hform']
  dsimp only
  split
  · rfl
  cases room with
  | zero => rfl
  | succ room =>
    have hagree : Agree (fun y y' => e.reduceWithin room y = e'.reduceWithin room y') (e.table t) (e'.table t') :=
      h.attributes.imp fun y y' hy => hy.2.2.2 room
    dsimp only
    rw [Shape.written, Shape.written, Agree.traverse (hagree.pick shape.writtenNames)]

/-- What calling an item gives: the plain data of a message, if it is a method. -/
def called (e : Store) : Item → Except Failure Value
  | .bound .method _ owner => e.reduce owner
  | y => .error (.notCallable (e.family y).name)

/-- What a method of an item gives, where one has gone into the item. -/
def answered (e : Store) (x : Item) (method : String) : Except Failure Value :=
  match e.attributeOf? x method with
  | some y => e.called y
  | none => .error (e.lacking x method)

theorem throughMethod_eq : s.throughMethod x method = (s.enterItem x).answered x method := by
  unfold throughMethod receiver attributeOf answered
  dsimp only
  cases (s.enterItem x).attributeOf? x method with
  | none => rfl
  | some y =>
    cases y with
    | bound f => cases f <;> rfl
    | _ => rfl

theorem called_of_isFree (hy : y.IsFree) : e.called y = .error (.notCallable (e.family y).name) := by
  cases y with
  | bound => cases hy
  | _ => rfl

theorem SameObject.answered (h : SameObject e a e' a' shape t t') (htaught : TaughtAlike e e')
    (hgiven : ∀ {f y}, e.given? (.family f) method = some y → e.attributeOf? (.ref a) method = some y →
      e.called y = e'.called y) :
    e.answered (.ref a) method = e'.answered (.ref a') method := by
  have halike := h.attributeOf? htaught method
  have hlacking : e.lacking (.ref a) method = e'.lacking (.ref a') method := by
    show Failure.noAttribute (e.family (.ref a)).name method = .noAttribute (e'.family (.ref a')).name method
    rw [family_of_object h.node, family_of_object h.node']
  unfold Store.answered
  generalize e.attributeOf? (.ref a) method = y? at halike hgiven
  generalize e'.attributeOf? (.ref a') method = y'? at halike
  cases y? with
  | none =>
    cases y'? with
    | none => exact congrArg Except.error hlacking
    | some y' => cases halike
  | some y =>
    cases y'? with
    | none => cases halike
    | some y' =>
      rcases halike with ⟨hfree, hfree', hfamily⟩ | ⟨f, rfl, rfl⟩ | ⟨rfl, f, hf⟩
      · dsimp only
        rw [called_of_isFree hfree, called_of_isFree hfree', hfamily]
      · cases f <;> first | exact h.reduce | rfl
      · exact hgiven hf rfl

private theorem SameObject.answered_of_untaught (h : SameObject e a e' a' shape t t') (hu : e.Untaught)
    (hu' : e'.Untaught) : e.answered (.ref a) method = e'.answered (.ref a') method := by
  refine h.answered (hu.taughtAlike hu') fun hf _ => ?_
  rw [hu.given?] at hf
  cases hf

theorem enterItem_of_object (h : s.node a = .object shape t) : s.enterItem (.ref a) = s := by
  rw [enterItem, enter, h]

private theorem Untouched.sameObject (h : Untouched own c s s') (hs : Sound own s)
    (hx : Within own s.nodes.size c (.ref a)) (hnode : s.node a = .object shape t) : SameObject s' a s a shape t t := by
  have hholds := hs.nodes a hx.1
  rw [hnode, hx.2] at hholds
  obtain ⟨ht, hown, htable⟩ := hholds
  refine ⟨(h a hx.1 hx.2).trans hnode, hnode, ?_, htable, ?_⟩
  · rw [h t ht hown]
    exact htable
  · rw [h.table ht hown]
    refine agree_self fun entry he => ?_
    obtain ⟨hwithin, hfree⟩ := within_table hs ht entry he
    rw [hown] at hwithin
    exact ⟨hfree, hfree, h.family hs hwithin, fun room => h.reduceWithin hs room hwithin⟩

/-- The store has got further nodes, and nothing else has changed. -/
structure Grows (s s' : Store) : Prop where
  size : s.nodes.size ≤ s'.nodes.size
  nodes : ∀ b, b < s.nodes.size → s'.node b = s.node b
  ids : s'.ids = s.ids
  given : s'.given = s.given

theorem Grows.trans {s'' : Store} (h : Grows s s') (h' : Grows s' s'') : Grows s s'' where
  size := Nat.le_trans h.size h'.size
  nodes := fun b hb => (h'.nodes b (Nat.lt_of_lt_of_le hb h.size)).trans (h.nodes b hb)
  ids := h'.ids.trans h.ids
  given := h'.given.trans h.given

theorem grows_push {node : Node} : Grows s (s.push node) :=
  ⟨by rw [size_push]; omega, fun _ hb => node_push_of_lt hb, rfl, rfl⟩

/-- The item stands for a whole value: it is the value, or refers to one of the nodes from `n` on, which holds it. -/
def StandsFor (s : Store) (n : Nat) (v : Value) : Item → Prop
  | .value w => w = v
  | .ref b => n ≤ b ∧ b < s.nodes.size ∧ s.node b = .whole v
  | _ => False

theorem StandsFor.form (h : s.StandsFor n v x) : s.form x = .whole v := by
  cases x with
  | value w => exact congrArg Form.whole h
  | ref b => rw [Store.form, h.2.2]
  | _ => cases h

theorem StandsFor.isFree (h : s.StandsFor n v x) : x.IsFree := by
  cases x with
  | bound => cases h
  | _ => trivial

theorem StandsFor.mono {n' : Nat} (h : s.StandsFor n v x) (hn : n' ≤ n) (hsize : s.nodes.size ≤ s'.nodes.size)
    (hnodes : ∀ b, n ≤ b → b < s.nodes.size → s'.node b = s.node b) : s'.StandsFor n' v x := by
  cases x with
  | value w => exact h
  | ref b =>
    obtain ⟨hb, hlt, hnode⟩ := h
    exact ⟨Nat.le_trans hn hb, Nat.lt_of_lt_of_le hlt hsize, (hnodes b hb hlt).trans hnode⟩
  | _ => cases h

private theorem StandsFor.grow (h : s.StandsFor n v x) (hs : Grows s s') : s'.StandsFor n v x :=
  h.mono (Nat.le_refl n) hs.size fun b _ hb => hs.nodes b hb

theorem grows_allocate (s : Store) (v : Value) :
    Grows s (s.allocate v).2 ∧ (s.allocate v).2.StandsFor s.nodes.size v (s.allocate v).1 := by
  have hpush : Grows s (s.push (.whole v)) ∧
      (s.push (.whole v)).StandsFor s.nodes.size v (.ref s.nodes.size) := by
    refine ⟨grows_push, Nat.le_refl _, ?_, node_push_size⟩
    rw [size_push]
    omega
  cases v with
  | list | dict | object => exact hpush
  | _ => exact ⟨⟨Nat.le_refl _, fun _ _ => rfl, rfl, rfl⟩, rfl⟩

theorem grows_allocateAll (s : Store) (vs : List Value) :
    Grows s (s.allocateAll vs).2 ∧
      List.Forall₂ (fun v x => (s.allocateAll vs).2.StandsFor s.nodes.size v x) vs (s.allocateAll vs).1 := by
  induction vs generalizing s with
  | nil => exact ⟨⟨Nat.le_refl _, fun _ _ => rfl, rfl, rfl⟩, .nil⟩
  | cons v vs ih =>
    obtain ⟨hv, hx⟩ := grows_allocate s v
    obtain ⟨hvs, hxs⟩ := ih (s.allocate v).2
    refine ⟨hv.trans hvs, .cons (hx.grow hvs) (hxs.imp fun w y hy => ?_)⟩
    exact hy.mono hv.size (Nat.le_refl _) fun _ _ _ => rfl

theorem grows_allocateEntries (s : Store) (es : Entries) :
    Grows s (s.allocateEntries es).2 ∧
      Agree (fun v x => (s.allocateEntries es).2.StandsFor s.nodes.size v x) es (s.allocateEntries es).1 := by
  obtain ⟨hgrows, hxs⟩ := grows_allocateAll s (es.map (·.2))
  exact ⟨hgrows, Entries.agree_zip hxs⟩

/-- Of a whole object the attributes, each as a whole, have come into a new table, and nothing else has changed. -/
structure Unfolded (s : Store) (a : Nat) (shape : Shape) (es : Entries) (s' : Store) (t : Nat) : Prop where
  size : s.nodes.size ≤ s'.nodes.size
  nodes : ∀ b, b < s.nodes.size → b ≠ a → s'.node b = s.node b
  ids : s'.ids = s.ids
  given : s'.given = s.given
  fresh : s.nodes.size ≤ t
  object : s'.node a = .object shape t
  table : (s'.node t).IsTable
  attributes : Agree (fun v x => s'.StandsFor s.nodes.size v x) es (s'.table t)

theorem enter_whole {fields extras : Entries} (ha : a < s.nodes.size)
    (hnode : s.node a = .whole (.object shape fields extras)) :
    ∃ t, Unfolded s a shape (fields ++ extras) (s.enter a) t := by
  obtain ⟨hgrows, hxs⟩ := grows_allocateEntries s (fields ++ extras)
  have henter : s.enter a =
      ((s.allocateEntries (fields ++ extras)).2.push (.table (s.allocateEntries (fields ++ extras)).1)).setNode a
        (.object shape (s.allocateEntries (fields ++ extras)).2.nodes.size) := by
    rw [enter, hnode]
    rfl
  rw [henter]
  generalize (s.allocateEntries (fields ++ extras)).1 = xs at hxs ⊢
  generalize (s.allocateEntries (fields ++ extras)).2 = s₁ at hgrows hxs ⊢
  have hpush : Grows s₁ (s₁.push (.table xs)) := grows_push
  have hall := hgrows.trans hpush
  have hlt := Nat.lt_of_lt_of_le ha hall.size
  -- The table stands behind all nodes that there have been, so putting the object in its place does not touch it.
  have hne : s₁.nodes.size ≠ a := (Nat.ne_of_lt (Nat.lt_of_lt_of_le ha hgrows.size)).symm
  have htable : ((s₁.push (.table xs)).setNode a (.object shape s₁.nodes.size)).node s₁.nodes.size = .table xs := by
    rw [node_setNode_ne hne, node_push_size]
  refine ⟨s₁.nodes.size, ?_, ?_, hall.ids, hall.given, hgrows.size, node_setNode_self hlt, ⟨xs, htable⟩, ?_⟩
  · rw [size_setNode]
    exact hall.size
  · intro b hb hba
    rw [node_setNode_ne hba, hall.nodes b hb]
  · rw [Store.table, htable]
    refine hxs.imp fun v x hx => ?_
    refine (hx.grow hpush).mono (Nat.le_refl _) (Nat.le_of_eq size_setNode.symm) fun b hb _ => ?_
    exact node_setNode_ne (Nat.ne_of_gt (Nat.lt_of_lt_of_le ha hb))

theorem reduceWithin_of_whole (h : s.form x = .whole v) (h' : s'.form x' = .whole v) (room : Nat) :
    s.reduceWithin room x = s'.reduceWithin room x' := by
  unfold reduceWithin
  rw [h, h']

/-- One who goes into two objects that are the same as a whole finds the same attributes. -/
theorem sameObject_enter {fields extras : Entries} (ha : a < s.nodes.size) (ha' : a' < s'.nodes.size)
    (hnode : s.node a = .whole (.object shape fields extras))
    (hnode' : s'.node a' = .whole (.object shape fields extras)) :
    ∃ t t', SameObject (s.enter a) a (s'.enter a') a' shape t t' := by
  obtain ⟨t, h⟩ := enter_whole ha hnode
  obtain ⟨t', h'⟩ := enter_whole ha' hnode'
  refine ⟨t, t', h.object, h'.object, h.table, h'.table, (h.attributes.join h'.attributes).imp ?_⟩
  rintro y y' ⟨v, hy, hy'⟩
  refine ⟨hy.isFree, hy'.isFree, ?_, reduceWithin_of_whole hy.form hy'.form⟩
  show ((s.enter a).form y).family = ((s'.enter a').form y').family
  rw [hy.form, hy'.form]

theorem Untaught.enter {fields extras : Entries} (h : s.Untaught) (ha : a < s.nodes.size)
    (hnode : s.node a = .whole (.object shape fields extras)) : (s.enter a).Untaught := by
  obtain ⟨t, hunfolded⟩ := enter_whole ha hnode
  intro f
  rw [hunfolded.given]
  exact h f

/-- An object that nobody has gone into gives the same in every store. -/
theorem throughMethod_of_whole {fields extras : Entries} (hu : s.Untaught) (hu' : s'.Untaught)
    (ha : a < s.nodes.size) (ha' : a' < s'.nodes.size) (hnode : s.node a = .whole (.object shape fields extras))
    (hnode' : s'.node a' = .whole (.object shape fields extras)) :
    s.throughMethod (.ref a) method = s'.throughMethod (.ref a') method := by
  obtain ⟨t, t', h⟩ := sameObject_enter ha ha' hnode hnode'
  rw [throughMethod_eq, throughMethod_eq]
  exact h.answered_of_untaught (hu.enter ha hnode) (hu'.enter ha' hnode')

theorem exists_ref_of_shapeOf? (hput : x.IsPut) (h : s.shapeOf? x = some shape) :
    ∃ a, x = .ref a ∧ ((∃ fields extras, s.node a = .whole (.object shape fields extras)) ∨
      ∃ t, s.node a = .object shape t) := by
  cases x with
  | ref a =>
    refine ⟨a, rfl, ?_⟩
    rw [shapeOf?, form] at h
    cases hnode : s.node a with
    | whole v =>
      rw [hnode] at h
      cases v with
      | object => cases h; exact .inl ⟨_, _, rfl⟩
      | _ => cases h
    | object shape' t =>
      rw [hnode] at h
      cases h
      exact .inr ⟨t, rfl⟩
    | _ =>
      rw [hnode] at h
      cases h
  | value v =>
    cases v with
    | object => exact absurd rfl (hput _ _ _)
    | _ => cases h
  | _ => cases hput

/-- What the methods of an object give does not change with the nodes of others. -/
theorem Untouched.throughMethod (h : Untouched own c s s') (hs : Sound own s) (hsize : s.nodes.size ≤ s'.nodes.size)
    (hu : s.Untaught) (hu' : s'.Untaught) (hx : Within own s.nodes.size c x) (hput : x.IsPut)
    (hshape : s.shapeOf? x = some shape) : s'.throughMethod x method = s.throughMethod x method := by
  obtain ⟨a, rfl, ⟨fields, extras, hnode⟩ | ⟨t, hnode⟩⟩ := exists_ref_of_shapeOf? hput hshape
  · have hnode' := (h a hx.1 hx.2).trans hnode
    exact throughMethod_of_whole hu' hu (Nat.lt_of_lt_of_le hx.1 hsize) hx.1 hnode' hnode
  · have hnode' := (h a hx.1 hx.2).trans hnode
    rw [throughMethod_eq, throughMethod_eq, enterItem_of_object hnode, enterItem_of_object hnode']
    exact (h.sameObject hs hx hnode).answered_of_untaught hu' hu

end RequestSamples.Session.Store
