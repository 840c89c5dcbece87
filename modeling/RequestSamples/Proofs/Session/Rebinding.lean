import RequestSamples.Proofs.Session.Settled
import RequestSamples.Session.Comparison

/-!
# Filling a message

Setting attributes of an object changes no node that has been there but that of the object and its table.  The table
names what has been set, each as a whole value of its own, and otherwise what it has named before (`Rebinds`).  So what
the object is afterwards follows from its attributes and what has been set (`Rebinds.likeness`), however it has got the
attributes.
-/

namespace RequestSamples.Session.Store

open Entries (Agree agree_self putAll)

variable {k : Prop} {s s' s'' : Store} {x y y' y'' : Item} {a b t n : Nat} {shape : Shape} {name id : String}
  {v : Value} {ws ws' : Entries}

/-- At the address stands an object, as a whole or with its attributes in a table. -/
inductive ObjectAt (s : Store) (a : Nat) (shape : Shape) : Prop
  | whole {fields extras : Entries} (hnode : s.node a = .whole (.object shape fields extras))
  | entered {t : Nat} {es : Attributes} (hnode : s.node a = .object shape t) (htable : s.node t = .table es)

/-- The attributes of an item, whether or not someone has gone into it. -/
def attributes (s : Store) (x : Item) : Attributes :=
  match s.openForm x with
  | .object _ es => es
  | _ => []

/-- Attributes of which some have been set to values. -/
def rebound (ws : Entries) (es : Attributes) : Attributes := putAll (ws.map fun e => (e.1, .value e.2)) es

private theorem attributes_whole {fields extras : Entries} (hnode : s.node a = .whole (.object shape fields extras)) :
    s.attributes (.ref a) = (fields ++ extras).map fun e => (e.1, .value e.2) := by
  rw [attributes, openForm, form, hnode]
  rfl

private theorem attributes_object (hnode : s.node a = .object shape t) : s.attributes (.ref a) = s.table t := by
  rw [attributes, openForm, form, hnode]

private theorem table_of_node {es : Attributes} (h : s.node t = .table es) : s.table t = es := by
  rw [Store.table, h]

theorem ObjectAt.lt (h : s.ObjectAt a shape) : a < s.nodes.size := by
  refine lt_of_node_ne fun hnull => ?_
  cases h with
  | whole hnode => cases hnode.symm.trans hnull
  | entered hnode => cases hnode.symm.trans hnull

/-- The second item is the first one, or stands for it if it is a whole value. -/
def Renders (s : Store) (n : Nat) (y y' : Item) : Prop := y' = y ∨ ∃ v, y = .value v ∧ s.StandsFor n v y'

/-- Fresh items stand for what they have stood for. -/
def Carries (n : Nat) (s s' : Store) : Prop := ∀ {v y}, s.StandsFor n v y → s'.StandsFor n v y

theorem Renders.trans (h : s.Renders n y y') (h' : s'.Renders n y' y'') (hcarries : Carries n s s') :
    s'.Renders n y y'' := by
  rcases h with rfl | ⟨v, rfl, hstands⟩
  · exact h'
  · rcases h' with rfl | ⟨w, rfl, hstands'⟩
    · exact .inr ⟨v, rfl, hcarries hstands⟩
    · obtain rfl : w = v := hstands
      exact .inr ⟨w, rfl, hstands'⟩

/-- Attributes of the object at an address have been set. -/
structure Rebinds (n : Nat) (s : Store) (a : Nat) (shape : Shape) (ws : Entries) (s' : Store) : Prop where
  size : s.nodes.size ≤ s'.nodes.size
  ids : s'.ids = s.ids
  given : s'.given = s.given
  object : s'.ObjectAt a shape
  nodes : ∀ b, b < s.nodes.size → b ≠ a → (∀ u, s.node a ≠ .object u b) → s'.node b = s.node b
  stays : ∀ {u t}, s.node a = .object u t → s'.node a = .object u t
  entered : ws ≠ [] → ∃ t, s'.node a = .object shape t
  table : ∀ {u t}, s'.node a = .object u t → s.node a = .object u t ∨ s.nodes.size ≤ t
  attributes : Agree (s'.Renders n) (rebound ws (s.attributes (.ref a))) (s'.attributes (.ref a))

/-- What is whole and not the object itself is no table, so it stays as it is. -/
private theorem Rebinds.carries (h : Rebinds n s a shape ws s') (hobject : s.ObjectAt a shape) (ha : a < n) :
    Carries n s s' := by
  intro v y hy
  cases y with
  | value w => exact hy
  | ref b =>
    obtain ⟨hb, hlt, hnode⟩ := hy
    refine ⟨hb, Nat.lt_of_lt_of_le hlt h.size, (h.nodes b hlt (Nat.ne_of_gt (Nat.lt_of_lt_of_le ha hb)) ?_).trans hnode⟩
    intro u hu
    cases hobject with
    | whole hnode' => cases hnode'.symm.trans hu
    | entered hnode' htable =>
      cases hnode'.symm.trans hu
      cases htable.symm.trans hnode
  | _ => cases hy

theorem Rebinds.trans (h : Rebinds n s a shape ws s') (h' : Rebinds n s' a shape ws' s'') (ha : a < n) :
    Rebinds n s a shape (ws ++ ws') s'' where
  size := Nat.le_trans h.size h'.size
  ids := h'.ids.trans h.ids
  given := h'.given.trans h.given
  object := h'.object
  nodes := by
    intro b hb hba htable
    refine (h'.nodes b (Nat.lt_of_lt_of_le hb h.size) hba fun u hu => ?_).trans (h.nodes b hb hba htable)
    rcases h.table hu with hold | hnew
    · exact htable u hold
    · exact absurd hb (Nat.not_lt.mpr hnew)
  stays := fun hu => h'.stays (h.stays hu)
  entered := by
    intro hne
    by_cases hws : ws' = []
    · subst hws
      obtain ⟨t, ht⟩ := h.entered (List.append_nil ws ▸ hne)
      exact ⟨t, h'.stays ht⟩
    · exact h'.entered hws
  table := by
    intro u t ht
    rcases h'.table ht with ht | hnew
    · exact h.table ht
    · exact .inr (Nat.le_trans h.size hnew)
  attributes := by
    have hcarries : Carries n s' s'' := h'.carries h.object ha
    have hwrites : Agree (s'.Renders n) (ws'.map fun e => (e.1, Item.value e.2))
        (ws'.map fun e => (e.1, Item.value e.2)) := agree_self fun e _ => .inl rfl
    have hboth := h.attributes.putAll hwrites
    rw [rebound, List.map_append, putAll, List.foldl_append]
    exact hboth.trans h'.attributes fun _ _ _ hy hy' => hy.trans hy' hcarries

private theorem rebinds_of_grows (h : Grows s s') (hobject : s.ObjectAt a shape) : Rebinds n s a shape [] s' := by
  have hnode := h.nodes a hobject.lt
  have hattributes : s'.ObjectAt a shape ∧ s'.attributes (.ref a) = s.attributes (.ref a) := by
    cases hobject with
    | whole hwhole =>
      rw [attributes_whole hwhole, attributes_whole (hnode.trans hwhole)]
      exact ⟨.whole (hnode.trans hwhole), rfl⟩
    | @entered t es hentered htable =>
      have htable' := (h.nodes t (lt_of_isTable ⟨es, htable⟩)).trans htable
      rw [attributes_object hentered, attributes_object (hnode.trans hentered), table_of_node htable,
        table_of_node htable']
      exact ⟨.entered (hnode.trans hentered) htable', rfl⟩
  refine ⟨h.size, h.ids, h.given, hattributes.1, fun b hb _ _ => h.nodes b hb, fun hu => hnode.trans hu,
    fun hne => absurd rfl hne, fun ht => .inl (hnode.symm.trans ht), ?_⟩
  · rw [hattributes.2]
    exact agree_self fun e _ => .inl rfl

private theorem rebinds_enter (hobject : s.ObjectAt a shape) (hn : n ≤ s.nodes.size) :
    Rebinds n s a shape [] (s.enter a) := by
  cases hobject with
  | @entered t es hnode htable =>
    have hsame : s.enter a = s := by rw [enter, hnode]
    rw [hsame]
    exact rebinds_of_grows ⟨Nat.le_refl _, fun _ _ => rfl, rfl, rfl⟩ (.entered hnode htable)
  | @whole fields extras hnode =>
    obtain ⟨t, h⟩ := enter_whole (ObjectAt.whole hnode).lt hnode
    obtain ⟨xs, hxs⟩ := h.table
    refine ⟨h.size, h.ids, h.given, .entered h.object hxs, fun b hb hba _ => h.nodes b hb hba, ?_,
      fun hne => absurd rfl hne, ?_, ?_⟩
    · intro u t' ht'
      cases hnode.symm.trans ht'
    · intro u t' ht'
      cases h.object.symm.trans ht'
      exact .inr h.fresh
    · rw [attributes_whole hnode, attributes_object h.object]
      refine List.forall₂_map_left_iff.mpr (List.Forall₂.imp ?_ h.attributes)
      rintro ⟨m, v⟩ ⟨_, x⟩ ⟨rfl, hx⟩
      exact ⟨rfl, .inr ⟨v, rfl, hx.mono hn (Nat.le_refl _) fun _ _ _ => rfl⟩⟩

private theorem rebinds_setEntry {es : Attributes} (hnode : s.node a = .object shape t) (htable : s.node t = .table es)
    (hy : s.StandsFor n v y) : Rebinds n s a shape [(name, v)] (s.setEntry t name y) := by
  have hne : a ≠ t := by
    rintro rfl
    cases hnode.symm.trans htable
  have hnode' : (s.setEntry t name y).node a = .object shape t := (node_setNode_ne hne).trans hnode
  have htable' : (s.setEntry t name y).node t = .table (Entries.put name y es) := by
    rw [setEntry, node_setNode_self (lt_of_isTable ⟨es, htable⟩), table_of_node htable]
  have hsize : (s.setEntry t name y).nodes.size = s.nodes.size := size_setNode
  refine ⟨Nat.le_of_eq hsize.symm, rfl, rfl, .entered hnode' htable', ?_, ?_, fun _ => ⟨t, hnode'⟩, ?_, ?_⟩
  · intro b _ _ hb
    refine node_setNode_ne ?_
    rintro rfl
    exact hb shape hnode
  · intro u t' ht'
    cases hnode.symm.trans ht'
    exact hnode'
  · intro u t' ht'
    cases hnode'.symm.trans ht'
    exact .inl hnode
  · rw [attributes_object hnode, attributes_object hnode', table_of_node htable, table_of_node htable']
    have hold : Agree ((s.setEntry t name y).Renders n) es es := agree_self fun e _ => .inl rfl
    refine hold.put (.inr ⟨v, rfl, ?_⟩) name
    -- What stands for a value is no table, so it has not been changed.
    cases y with
    | value w => exact hy
    | ref b =>
      obtain ⟨hb, hlt, hwhole⟩ := hy
      refine ⟨hb, hsize ▸ hlt, (node_setNode_ne ?_).trans hwhole⟩
      rintro rfl
      cases htable.symm.trans hwhole
    | _ => cases hy

/-- The name is that of an entry in the table of an object. -/
def IsOrdinary (name : String) : Prop := name ≠ "__class__" ∧ name ≠ "__dict__" ∧ name ≠ "__weakref__"

private theorem setAttribute_object (hname : IsOrdinary name) (hnode : (s.enter a).node a = .object shape t) :
    s.setAttribute (.ref a) name y = .ok ((s.enter a).setEntry t name y) := by
  simp only [setAttribute, enterItem, hnode, setObjectAttribute, hname.1, hname.2.1, hname.2.2, if_false]

private theorem assign_cons (e : String × Value) (ws : Entries) :
    s.assign x (e :: ws) = (s.assign x [e]).assign x ws := rfl

private theorem rebinds_assign_single (hobject : s.ObjectAt a shape) (ha : a < n) (hn : n ≤ s.nodes.size)
    (hname : IsOrdinary name) : Rebinds n s a shape [(name, v)] (s.assign (.ref a) [(name, v)]) := by
  obtain ⟨hgrows, hstands⟩ := grows_allocate s v
  have h₁ : Rebinds n s a shape [] (s.allocate v).2 := rebinds_of_grows hgrows hobject
  have h₂ := rebinds_enter h₁.object (Nat.le_trans hn h₁.size)
  have hstands₂ := h₂.carries h₁.object ha (hstands.mono hn (Nat.le_refl _) fun _ _ _ => rfl)
  have hentered : ∃ t es, ((s.allocate v).2.enter a).node a = .object shape t ∧
      ((s.allocate v).2.enter a).node t = .table es := by
    cases h₁.object with
    | whole hnode =>
      obtain ⟨t, h⟩ := enter_whole (ObjectAt.whole hnode).lt hnode
      obtain ⟨es, hes⟩ := h.table
      exact ⟨t, es, h.object, hes⟩
    | @entered t es hnode htable =>
      rw [enter, hnode]
      exact ⟨t, es, hnode, htable⟩
  obtain ⟨t, es, hnode, htable⟩ := hentered
  have h₃ : Rebinds n _ a shape [(name, v)] _ := rebinds_setEntry hnode htable hstands₂
  have hassign : s.assign (.ref a) [(name, v)] =
      ((s.allocate v).2.enter a).setEntry t name (s.allocate v).1 := by
    rw [assign, List.foldl_cons, List.foldl_nil]
    dsimp only
    rw [setAttribute_object hname hnode]
  rw [hassign]
  exact (h₁.trans h₂ ha).trans h₃ ha

theorem rebinds_assign (hobject : s.ObjectAt a shape) (ha : a < n) (hn : n ≤ s.nodes.size)
    (hws : ∀ e ∈ ws, IsOrdinary e.1) : Rebinds n s a shape ws (s.assign (.ref a) ws) := by
  induction ws generalizing s with
  | nil => exact rebinds_of_grows ⟨Nat.le_refl _, fun _ _ => rfl, rfl, rfl⟩ hobject
  | cons e ws ih =>
    have h := rebinds_assign_single (v := e.2) hobject ha hn (hws e List.mem_cons_self)
    rw [assign_cons]
    exact h.trans (ih h.object (Nat.le_trans hn h.size) fun e' he' => hws e' (List.mem_cons_of_mem _ he')) ha

private theorem Settled.known_of_mem_items (hs : Settled k s) (h : y ∈ (s.node b).items) : s.Known y := by
  rintro c rfl
  exact (hs.items ⟨b, h⟩).1

private theorem Settled.known_of_mem_table (hs : Settled k s) {e : String × Item} (he : e ∈ s.table t) : s.Known e.2 :=
  fun _ hb => (hs.items (mentions_of_mem_table he hb)).1

theorem mentions_of_mem_attributes {e : String × Item} (he : e ∈ s.attributes x) (hb : e.2 = .ref b) :
    s.Mentions b := by
  have hform : ∀ {u es}, s.form x = .object u es → e ∈ es → s.Mentions b := by
    intro u es h he
    unfold form at h
    split at h
    · cases h
    · cases h
    · cases h
    · split at h <;> cases h
      exact mentions_of_mem_table he hb
  unfold attributes openForm at he
  cases hx : s.form x with
  | whole v =>
    -- What is whole has values for attributes, and no nodes.
    rw [hx] at he
    cases v with
    | object =>
      obtain ⟨w, -, rfl⟩ := List.mem_map.mp he
      cases hb
    | _ => cases he
  | object u es =>
    rw [hx] at he
    exact hform hx he
  | _ =>
    rw [hx] at he
    cases he

private theorem Settled.known_of_mem_rebound (hs : Settled k s) {e : String × Item}
    (he : e ∈ rebound ws (s.attributes x)) : s.Known e.2 := by
  rcases Entries.mem_putAll he with he | he
  · obtain ⟨w, -, rfl⟩ := List.mem_map.mp he
    exact nofun
  · exact fun b hb => (hs.items (mentions_of_mem_attributes he hb)).1

/-- The items are one that has been known before, or stand for one value in each store. -/
def Twins (s : Store) (n : Nat) (s' s'' : Store) (y z : Item) : Prop :=
  y = z ∧ s.Known y ∨ ∃ v, s'.StandsFor n v y ∧ s''.StandsFor n v z

section

variable (h : Rebinds n s a shape ws s') (h' : Rebinds n s a shape ws' s'') (hs : Settled k s)
  (hws : rebound ws (s.attributes (.ref a)) = rebound ws' (s.attributes (.ref a)))
include h h' hs hws

/-- What follows from the same attributes agrees. -/
theorem Rebinds.agree : Agree (Twins s n s' s'') (s'.attributes (.ref a)) (s''.attributes (.ref a)) := by
  have hfirst := h.attributes.and_left (p := s.Known) fun e he => hs.known_of_mem_rebound he
  have hsecond := h'.attributes
  rw [← hws] at hsecond
  refine (hfirst.join hsecond).imp ?_
  rintro y z ⟨f, ⟨hknown, rfl | ⟨v, rfl, hy⟩⟩, rfl | ⟨w, hw, hz⟩⟩
  · exact .inl ⟨rfl, hknown⟩
  · subst hw
    exact .inr ⟨w, rfl, hz⟩
  · exact .inr ⟨v, hy, rfl⟩
  · cases hw
    exact .inr ⟨v, hy, hz⟩

private theorem Rebinds.agree_table (ht : t < s.nodes.size) : Agree (Twins s n s' s'') (s'.table t) (s''.table t) := by
  by_cases htable : ∃ u, s.node a = .object u t
  · obtain ⟨u, hu⟩ := htable
    have hagree := h.agree h' hs hws
    rwa [attributes_object (h.stays hu), attributes_object (h'.stays hu)] at hagree
  · by_cases hta : t = a
    · -- The object itself is no table.
      subst hta
      have hnone : ∀ {r : Store}, r.ObjectAt t shape → r.table t = [] := by
        intro r hr
        cases hr with
        | whole hnode | entered hnode => rw [Store.table, hnode]
      rw [hnone h.object, hnone h'.object]
      exact .nil
    · have hnot : ∀ u, s.node a ≠ .object u t := fun u hu => htable ⟨u, hu⟩
      rw [Store.table, Store.table, h.nodes t ht hta hnot, h'.nodes t ht hta hnot]
      exact agree_self fun e he => .inl ⟨rfl, hs.known_of_mem_table he⟩

/-- Related items look alike, the object and its table among them. -/
theorem Rebinds.mirrors (hne : ws ≠ []) (hne' : ws' ≠ []) : Mirrors (Twins s n s' s'') s' s'' := by
  rintro y z (⟨rfl, hknown⟩ | ⟨v, hy, hz⟩)
  · cases y with
    | ref b =>
      have hb := hknown b rfl
      by_cases hba : b = a
      · subst hba
        obtain ⟨t, ht⟩ := h.entered hne
        obtain ⟨t', ht'⟩ := h'.entered hne'
        have hagree := h.agree h' hs hws
        rw [attributes_object ht, attributes_object ht'] at hagree
        rw [form, form, ht, ht']
        exact .object shape hagree
      by_cases htable : ∃ u, s.node a = .object u b
      · obtain ⟨u, hu⟩ := htable
        have hform : ∀ {r : Store}, r.ObjectAt a shape → r.node a = .object u b →
            r.form (.ref b) = .table (r.table b) := by
          intro r hr hnode
          cases hr with
          | whole hwhole => cases hwhole.symm.trans hnode
          | entered hentered hes =>
            cases hentered.symm.trans hnode
            rw [form, hes, Store.table, hes]
        rw [hform h.object (h.stays hu), hform h'.object (h'.stays hu)]
        exact .table (h.agree_table h' hs hws hb)
      · have hnot : ∀ u, s.node a ≠ .object u b := fun u hu => htable ⟨u, hu⟩
        rw [form, form, h.nodes b hb hba hnot, h'.nodes b hb hba hnot]
        cases hnode : s.node b with
        | whole v => exact .whole v
        | list xs =>
          refine .list (List.forall₂_same.mpr fun y hy => .inl ⟨rfl, hs.known_of_mem_items (b := b) ?_⟩)
          rw [hnode]
          exact hy
        | table es =>
          refine .table (agree_self fun e he => .inl ⟨rfl, hs.known_of_mem_items (b := b) ?_⟩)
          rw [hnode]
          exact List.mem_map_of_mem he
        | object u t => exact .object u (h.agree_table h' hs hws (lt_of_isTable (hs.tables hnode)))
    | _ => exact .whole _
  · rw [hy.form, hz.form]
    exact .whole v

end

end RequestSamples.Session.Store
