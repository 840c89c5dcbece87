import Mathlib.Logic.Relation
import RequestSamples.Proofs.Session.Methods

/-!
# Where messages are referred to

Whatever messages have been made to share, nothing leads to a message as a whole but its own id: no list and no table
has it among its items, and no two ids are those of one node (`Settled`).  Nothing leads to the tables of members and
families either.  The attributes of an object stand in a table of their own, to which nothing else leads, unless someone
has let another object take that very table, and nothing bound stands in any list or table, unless someone has put it
there.  All this stays so when someone goes into items, and then nothing is referred to that has not been before
(`Opens`).
-/

namespace RequestSamples.Session

/-- The items that stand in a node. -/
def Node.items : Node → List Item
  | list xs => xs
  | table es => es.map (·.2)
  | _ => []

/-- If the item refers to a node, it is one of those from `n` on. -/
def Item.IsFrom (n : Nat) (x : Item) : Prop := ∀ b, x = .ref b → n ≤ b

namespace Store

/-- The node at the address is kept under an id. -/
def IsRoot (s : Store) (b : Nat) : Prop := ∃ id, (id, .ref b) ∈ s.ids

/-- Some list or table has the node at the address among its items. -/
def Mentions (s : Store) (b : Nat) : Prop := ∃ c, .ref b ∈ (s.node c).items

/-- Some object has its attributes at the address. -/
def IsAttributes (s : Store) (b : Nat) : Prop := ∃ c shape, s.node c = .object shape b

/-- Some member or family has its attributes at the address. -/
def IsGiven (s : Store) (b : Nat) : Prop := ∃ r, (r, b) ∈ s.given

/-- If the item refers to a node, that is in the store. -/
def Known (s : Store) (x : Item) : Prop := ∀ b, x = .ref b → b < s.nodes.size

/-- Kept messages are referred to only by their ids, objects have their attributes in tables, and nothing leads to the
tables of members and families.  What stands in lists and tables is bound to known items only.  If `k` holds, nothing
but the object itself leads to its table, and nothing in lists and tables is bound at all. -/
structure Settled (k : Prop) (s : Store) : Prop where
  items : ∀ {b}, s.Mentions b → b < s.nodes.size ∧ ¬ s.IsRoot b
  tables : ∀ {a shape t}, s.node a = .object shape t → (s.node t).IsTable
  apart : k → ∀ {a shape t}, s.node a = .object shape t →
    ¬ s.IsRoot t ∧ ¬ s.Mentions t ∧ ∀ {c u}, s.node c = .object u t → c = a
  bound : ∀ {c f name owner}, .bound f name owner ∈ (s.node c).items → ¬ k ∧ s.Known owner
  given : ∀ {t}, s.IsGiven t → (s.node t).IsTable ∧ ¬ s.IsRoot t ∧ ¬ s.Mentions t ∧ ¬ s.IsAttributes t
  kept : ∀ e ∈ s.ids, e.2.IsPut ∧ ∀ b, e.2 = .ref b → b < s.nodes.size
  distinct : ∀ {id id' b}, (id, .ref b) ∈ s.ids → (id', .ref b) ∈ s.ids → id = id'

/-- The item can be put into lists and tables. -/
structure Storable (k : Prop) (s : Store) (x : Item) : Prop where
  bound : ∀ {f name owner}, x = .bound f name owner → ¬ k ∧ s.Known owner
  known : ∀ b, x = .ref b → b < s.nodes.size ∧ ¬ s.IsRoot b ∧ ¬ s.IsGiven b
  apart : k → ∀ b, x = .ref b → ¬ s.IsAttributes b

/-- If the item refers to a node, nothing else does; and it is not bound. -/
structure Loose (s : Store) (x : Item) : Prop where
  free : x.IsFree
  known : ∀ b, x = .ref b → b < s.nodes.size ∧ ¬ s.IsRoot b ∧ ¬ s.IsGiven b
  apart : ∀ b, x = .ref b → ¬ s.Mentions b ∧ ¬ s.IsAttributes b

variable {k : Prop} {s s' s'' : Store} {x y : Item} {a b t n : Nat} {node : Node} {id : String}

theorem Known.mono (h : s.Known x) (hsize : s.nodes.size ≤ s'.nodes.size) : s'.Known x :=
  fun b hb => Nat.lt_of_lt_of_le (h b hb) hsize

theorem Loose.storable (h : s.Loose x) : s.Storable k x := by
  refine ⟨?_, h.known, fun _ b hb => (h.apart b hb).2⟩
  rintro f name owner rfl
  exact h.free.elim

private theorem loose_of_ne_ref (hfree : x.IsFree) (h : ∀ b, x ≠ .ref b) : s.Loose x :=
  ⟨hfree, fun b hb => absurd hb (h b), fun b hb => absurd hb (h b)⟩

theorem mem_items_of_mem_table {e : String × Item} (he : e ∈ s.table t) : e.2 ∈ (s.node t).items := by
  unfold table at he
  split at he
  · rename_i hnode
    rw [hnode]
    exact List.mem_map_of_mem he
  · cases he

theorem mentions_of_mem_table {e : String × Item} (he : e ∈ s.table t) (hb : e.2 = .ref b) : s.Mentions b :=
  ⟨t, hb ▸ mem_items_of_mem_table he⟩

/-! ### Changes of one node -/

/-- Nothing has changed but the node at one address, which is still a table if it has been one. -/
structure Changes (a : Nat) (s s' : Store) : Prop where
  size : s.nodes.size ≤ s'.nodes.size
  ids : s'.ids = s.ids
  given : s'.given = s.given
  nodes : ∀ c, c ≠ a → s'.node c = s.node c
  table : (s.node a).IsTable → (s'.node a).IsTable

private theorem node_of_size_le (h : s.nodes.size ≤ a) : s.node a = .whole .null := by
  simp only [node, Array.getD_eq_getD_getElem?, Array.getElem?_eq_none h, Option.getD_none]

theorem lt_of_node_ne (h : s.node a ≠ .whole .null) : a < s.nodes.size :=
  Nat.lt_of_not_le fun hle => h (node_of_size_le hle)

theorem lt_of_isTable (h : (s.node a).IsTable) : a < s.nodes.size := by
  refine lt_of_node_ne fun hnull => ?_
  obtain ⟨es, hes⟩ := h
  cases hes.symm.trans hnull

private theorem changes_push (s : Store) (node : Node) : Changes s.nodes.size s (s.push node) := by
  refine ⟨?_, rfl, rfl, ?_, ?_⟩
  · rw [size_push]
    exact Nat.le_succ _
  · intro c hc
    by_cases hlt : c < s.nodes.size
    · exact node_push_of_lt hlt
    · have hpush : (s.push node).nodes.size ≤ c := by rw [size_push]; omega
      rw [node_of_size_le hpush, node_of_size_le (Nat.le_of_not_lt hlt)]
  · intro h
    exact absurd (lt_of_isTable h) (Nat.lt_irrefl _)

private theorem changes_setNode (h : (s.node a).IsTable → node.IsTable) : Changes a s (s.setNode a node) := by
  refine ⟨Nat.le_of_eq size_setNode.symm, rfl, rfl, fun c hc => node_setNode_ne hc, ?_⟩
  intro htable
  rw [node_setNode_self (lt_of_isTable htable)]
  exact h htable

/-- An object can take the table at an address: it is not that of a member or a family, and if `k` holds, nothing leads
to it. -/
structure Takes (k : Prop) (s : Store) (t : Nat) : Prop where
  table : (s.node t).IsTable
  given : ¬ s.IsGiven t
  loose : k → s.Loose (.ref t)

/-- The node can come to an address: it holds what has stood there or can be put there, and an object keeps its table or
takes another one. -/
structure Admits (k : Prop) (s : Store) (a : Nat) (node : Node) : Prop where
  items : ∀ y ∈ node.items, y ∈ (s.node a).items ∨ s.Storable k y
  object : ∀ shape t, node = .object shape t → (∃ u, s.node a = .object u t) ∨ s.Takes k t

namespace Changes

private theorem isRoot_iff (h : Changes a s s') : s'.IsRoot b ↔ s.IsRoot b := by rw [IsRoot, IsRoot, h.ids]

private theorem isGiven_iff (h : Changes a s s') : s'.IsGiven b ↔ s.IsGiven b := by rw [IsGiven, IsGiven, h.given]

private theorem isTable (h : Changes a s s') (hb : (s.node b).IsTable) : (s'.node b).IsTable := by
  by_cases hba : b = a
  · subst hba
    exact h.table hb
  · rw [h.nodes b hba]
    exact hb

theorem item (h : Changes a s s') (hadmits : Admits k s a (s'.node a)) {c : Nat} (hy : y ∈ (s'.node c).items) :
    y ∈ (s.node c).items ∨ s.Storable k y := by
  by_cases hca : c = a
  · subst hca
    exact hadmits.items _ hy
  · rw [h.nodes c hca] at hy
    exact .inl hy

private theorem mentions (h : Changes a s s') (hadmits : Admits k s a (s'.node a)) (hb : s'.Mentions b) :
    s.Mentions b ∨ s.Storable k (.ref b) := by
  obtain ⟨c, hc⟩ := hb
  exact (h.item hadmits hc).imp (fun hc => ⟨c, hc⟩) id

theorem object (h : Changes a s s') (hadmits : Admits k s a (s'.node a)) {c t : Nat} {shape : Shape}
    (hc : s'.node c = .object shape t) : (∃ u, s.node c = .object u t) ∨ c = a ∧ s.Takes k t := by
  by_cases hca : c = a
  · subst hca
    exact (hadmits.object shape t hc).imp id fun htakes => ⟨rfl, htakes⟩
  · exact .inl ⟨shape, (h.nodes c hca).symm.trans hc⟩

/-- Tables of objects stay apart: what comes into lists is none of them, and an object gets none of them. -/
theorem apart (h : Changes a s s') (hs : Settled k s) (hadmits : Admits k s a (s'.node a)) (hk : k) {c t : Nat}
    {shape : Shape} (hc : s'.node c = .object shape t) :
    ¬ s'.IsRoot t ∧ ¬ s'.Mentions t ∧ ∀ {d u}, s'.node d = .object u t → d = c := by
  rw [h.isRoot_iff]
  rcases h.object hadmits hc with ⟨u, hold⟩ | ⟨rfl, htakes⟩
  · obtain ⟨hroot, hnot, hunique⟩ := hs.apart hk hold
    refine ⟨hroot, ?_, ?_⟩
    · intro hmention
      rcases h.mentions hadmits hmention with hmention | hstorable
      · exact hnot hmention
      · exact hstorable.apart hk t rfl ⟨c, u, hold⟩
    · intro d v hd
      rcases h.object hadmits hd with ⟨w, hd⟩ | ⟨-, htakes⟩
      · exact hunique hd
      · exact absurd ⟨c, u, hold⟩ ((htakes.loose hk).apart t rfl).2
  · have hloose := htakes.loose hk
    obtain ⟨hnot, hattributes⟩ := hloose.apart t rfl
    refine ⟨(hloose.known t rfl).2.1, ?_, ?_⟩
    · -- The changed node is the object, which has no items.
      rintro ⟨d, hd⟩
      by_cases hdc : d = c
      · subst hdc
        rw [hc] at hd
        cases hd
      · rw [h.nodes d hdc] at hd
        exact hnot ⟨d, hd⟩
    · intro d v hd
      rcases h.object hadmits hd with ⟨w, hd⟩ | ⟨rfl, -⟩
      · exact absurd ⟨d, w, hd⟩ hattributes
      · rfl

/-- Nothing comes to lead to the tables of members and families. -/
private theorem given_apart (h : Changes a s s') (hs : Settled k s) (hadmits : Admits k s a (s'.node a))
    (ht : s'.IsGiven t) : (s'.node t).IsTable ∧ ¬ s'.IsRoot t ∧ ¬ s'.Mentions t ∧ ¬ s'.IsAttributes t := by
  rw [h.isGiven_iff] at ht
  obtain ⟨htable, hroot, hnot, hattributes⟩ := hs.given ht
  rw [h.isRoot_iff]
  refine ⟨h.isTable htable, hroot, ?_, ?_⟩
  · intro hmention
    rcases h.mentions hadmits hmention with hmention | hstorable
    · exact hnot hmention
    · exact (hstorable.known t rfl).2.2 ht
  · rintro ⟨c, shape, hc⟩
    rcases h.object hadmits hc with ⟨u, hc⟩ | ⟨-, htakes⟩
    · exact hattributes ⟨c, u, hc⟩
    · exact htakes.given ht

theorem settled (h : Changes a s s') (hs : Settled k s) (hadmits : Admits k s a (s'.node a)) : Settled k s' := by
  refine ⟨?_, ?_, fun hk => h.apart hs hadmits hk, ?_, h.given_apart hs hadmits, ?_, ?_⟩
  · intro b hb
    rw [h.isRoot_iff]
    rcases h.mentions hadmits hb with hb | hstorable
    · exact ⟨Nat.lt_of_lt_of_le (hs.items hb).1 h.size, (hs.items hb).2⟩
    · obtain ⟨hlt, hroot, -⟩ := hstorable.known b rfl
      exact ⟨Nat.lt_of_lt_of_le hlt h.size, hroot⟩
  · intro c shape t hc
    rcases h.object hadmits hc with ⟨u, hc⟩ | ⟨-, htakes⟩
    · exact h.isTable (hs.tables hc)
    · exact h.isTable htakes.table
  · intro c f name owner hbound
    have hold : ¬ k ∧ s.Known owner := by
      rcases h.item hadmits hbound with hbound | hstorable
      · exact hs.bound hbound
      · exact hstorable.bound rfl
    exact ⟨hold.1, hold.2.mono h.size⟩
  · intro e he
    rw [h.ids] at he
    exact ⟨(hs.kept e he).1, fun b hb => Nat.lt_of_lt_of_le ((hs.kept e he).2 b hb) h.size⟩
  · rw [h.ids]
    exact hs.distinct

end Changes

private theorem setNode_of_size_le (h : s.nodes.size ≤ a) : s.setNode a node = s := by
  rw [setNode, Array.setIfInBounds_eq_of_size_le h]

theorem settled_setNode (hs : Settled k s) (hadmits : Admits k s a node) (htable : (s.node a).IsTable → node.IsTable) :
    Settled k (s.setNode a node) := by
  by_cases ha : a < s.nodes.size
  · refine (changes_setNode htable).settled hs ?_
    rw [node_setNode_self ha]
    exact hadmits
  · rw [setNode_of_size_le (Nat.le_of_not_lt ha)]
    exact hs

/-- A member or a family can get a table to which nothing leads. -/
theorem Settled.give (hs : Settled k s) (ht : s.Loose (.ref t)) (htable : (s.node t).IsTable) (r : Holder) :
    Settled k { s with given := (r, t) :: s.given } := by
  refine ⟨hs.items, hs.tables, hs.apart, hs.bound, ?_, hs.kept, hs.distinct⟩
  rintro b ⟨r', hb⟩
  rcases List.mem_cons.mp hb with heq | hb
  · cases heq
    exact ⟨htable, (ht.known _ rfl).2.1, ht.apart _ rfl⟩
  · exact hs.given ⟨r', hb⟩

/-! ### Going into items -/

/-- Someone has gone into items: all is settled, objects are what they were, and nothing refers to one of the first `n`
nodes that has not been referred to before. -/
structure Opens (k : Prop) (n : Nat) (s s' : Store) : Prop where
  size : s.nodes.size ≤ s'.nodes.size
  ids : s'.ids = s.ids
  mentions : ∀ b, b < n → s'.Mentions b → s.Mentions b
  attributes : ∀ b, b < n → s'.IsAttributes b → s.IsAttributes b
  given : ∀ b, b < n → s'.IsGiven b → s.IsGiven b
  objects : ∀ {c shape t}, s.node c = .object shape t → s'.node c = .object shape t
  settled : Settled k s'

theorem Opens.refl (hs : Settled k s) (n : Nat) : Opens k n s s :=
  ⟨Nat.le_refl _, rfl, fun _ _ h => h, fun _ _ h => h, fun _ _ h => h, id, hs⟩

theorem Opens.trans (h : Opens k n s s') (h' : Opens k n s' s'') : Opens k n s s'' where
  size := Nat.le_trans h.size h'.size
  ids := h'.ids.trans h.ids
  mentions := fun b hb hmention => h.mentions b hb (h'.mentions b hb hmention)
  attributes := fun b hb hobject => h.attributes b hb (h'.attributes b hb hobject)
  given := fun b hb hgiven => h.given b hb (h'.given b hb hgiven)
  objects := fun hc => h'.objects (h.objects hc)
  settled := h'.settled

theorem Opens.mono {n' : Nat} (h : Opens k n s s') (hn : n' ≤ n) : Opens k n' s s' where
  size := h.size
  ids := h.ids
  mentions := fun b hb => h.mentions b (Nat.lt_of_lt_of_le hb hn)
  attributes := fun b hb => h.attributes b (Nat.lt_of_lt_of_le hb hn)
  given := fun b hb => h.given b (Nat.lt_of_lt_of_le hb hn)
  objects := h.objects
  settled := h.settled

theorem Opens.known (h : Opens k s.nodes.size s s') (hb : b < s.nodes.size ∧ ¬ s.IsRoot b ∧ ¬ s.IsGiven b) :
    b < s'.nodes.size ∧ ¬ s'.IsRoot b ∧ ¬ s'.IsGiven b := by
  obtain ⟨hlt, hroot, hgiven⟩ := hb
  refine ⟨Nat.lt_of_lt_of_le hlt h.size, ?_, fun hnew => hgiven (h.given b hlt hnew)⟩
  rw [IsRoot, h.ids]
  exact hroot

theorem Storable.opens (hx : s.Storable k x) (h : Opens k s.nodes.size s s') : s'.Storable k x :=
  ⟨fun hb => ⟨(hx.bound hb).1, (hx.bound hb).2.mono h.size⟩, fun b hb => h.known (hx.known b hb),
    fun hk b hb hobject => hx.apart hk b hb (h.attributes b (hx.known b hb).1 hobject)⟩

theorem Loose.opens (hx : s.Loose x) (h : Opens k s.nodes.size s s') : s'.Loose x := by
  refine ⟨hx.free, fun b hb => h.known (hx.known b hb), fun b hb => ?_⟩
  obtain ⟨hnot, hattributes⟩ := hx.apart b hb
  have hlt := (hx.known b hb).1
  exact ⟨fun hmention => hnot (h.mentions b hlt hmention), fun hobject => hattributes (h.attributes b hlt hobject)⟩

/-- A whole value is gone into if all that stands in its place then is new. -/
theorem Changes.opens (h : Changes a s s') (hs : Settled k s) (hwhole : ∃ v, s.node a = .whole v)
    (hitems : ∀ y ∈ (s'.node a).items, s.Storable k y ∧ y.IsFrom n)
    (hobject : ∀ shape t, s'.node a = .object shape t → n ≤ t ∧ (s.node t).IsTable ∧ s.Loose (.ref t)) :
    Opens k n s s' := by
  have hadmits : Admits k s a (s'.node a) := by
    refine ⟨fun y hy => .inr (hitems y hy).1, fun shape t hc => .inr ?_⟩
    obtain ⟨-, htable, hloose⟩ := hobject shape t hc
    exact ⟨htable, (hloose.known t rfl).2.2, fun _ => hloose⟩
  refine ⟨h.size, h.ids, ?_, ?_, fun b _ => h.isGiven_iff.mp, ?_, h.settled hs hadmits⟩
  · rintro b hb ⟨c, hc⟩
    by_cases hca : c = a
    · subst hca
      exact absurd hb (Nat.not_lt.mpr ((hitems _ hc).2 b rfl))
    · rw [h.nodes c hca] at hc
      exact ⟨c, hc⟩
  · rintro b hb ⟨c, shape, hc⟩
    by_cases hca : c = a
    · subst hca
      exact absurd hb (Nat.not_lt.mpr (hobject _ _ hc).1)
    · exact ⟨c, shape, (h.nodes c hca).symm.trans hc⟩
  · rintro c shape t hc
    refine (h.nodes c ?_).trans hc
    rintro rfl
    obtain ⟨v, hv⟩ := hwhole
    cases hv.symm.trans hc

private theorem opens_push (hs : Settled k s) (hitems : ∀ y ∈ node.items, s.Storable k y ∧ y.IsFrom n)
    (hobject : ∀ shape t, node ≠ .object shape t) :
    Opens k n s (s.push node) ∧ (s.push node).Loose (.ref s.nodes.size) := by
  have hchanges := changes_push s node
  refine ⟨hchanges.opens hs ⟨_, node_of_size_le (Nat.le_refl _)⟩ ?_ ?_, ?_⟩
  · rw [node_push_size]
    exact hitems
  · intro shape t hc
    rw [node_push_size] at hc
    exact absurd hc (hobject shape t)
  · -- Nothing that has been there can refer to a node that has not.
    refine ⟨trivial, ?_, ?_⟩ <;> rintro _ ⟨⟩
    · rw [hchanges.isRoot_iff, hchanges.isGiven_iff, size_push]
      refine ⟨Nat.lt_succ_self _, ?_, fun hgiven => Nat.lt_irrefl _ (lt_of_isTable (hs.given hgiven).1)⟩
      rintro ⟨id, hid⟩
      exact Nat.lt_irrefl _ ((hs.kept _ hid).2 _ rfl)
    refine ⟨?_, ?_⟩
    · rintro ⟨c, hc⟩
      by_cases hcs : c = s.nodes.size
      · subst hcs
        rw [node_push_size] at hc
        exact Nat.lt_irrefl _ ((hitems _ hc).1.known _ rfl).1
      · rw [hchanges.nodes c hcs] at hc
        exact Nat.lt_irrefl _ (hs.items ⟨c, hc⟩).1
    · rintro ⟨c, shape, hc⟩
      by_cases hcs : c = s.nodes.size
      · subst hcs
        rw [node_push_size] at hc
        exact hobject _ _ hc
      · rw [hchanges.nodes c hcs] at hc
        exact Nat.lt_irrefl _ (lt_of_isTable (hs.tables hc))

theorem opens_allocate (hs : Settled k s) (v : Value) :
    Opens k s.nodes.size s (s.allocate v).2 ∧ (s.allocate v).2.Loose (s.allocate v).1 ∧
      (s.allocate v).1.IsFrom s.nodes.size ∧ (s.allocate v).1.IsPut := by
  have hpush : ∀ w, Opens k s.nodes.size s (s.push (.whole w)) ∧ (s.push (.whole w)).Loose (.ref s.nodes.size) :=
    fun w => opens_push hs nofun nofun
  cases v with
  | list | dict | object =>
    refine ⟨(hpush _).1, (hpush _).2, ?_, trivial⟩
    rintro _ ⟨⟩
    exact Nat.le_refl _
  | _ => exact ⟨.refl hs _, loose_of_ne_ref trivial nofun, nofun, nofun⟩

private theorem opens_allocateAll (hs : Settled k s) (vs : List Value) :
    Opens k s.nodes.size s (s.allocateAll vs).2 ∧
      ∀ x ∈ (s.allocateAll vs).1, (s.allocateAll vs).2.Storable k x ∧ x.IsFrom s.nodes.size := by
  induction vs generalizing s with
  | nil => exact ⟨.refl hs _, nofun⟩
  | cons v vs ih =>
    obtain ⟨h, hloose, hfrom, -⟩ := opens_allocate hs v
    obtain ⟨hrest, hxs⟩ := ih h.settled
    refine ⟨h.trans (hrest.mono h.size), ?_⟩
    intro x hx
    rcases List.mem_cons.mp hx with rfl | hx
    · exact ⟨hloose.storable.opens hrest, hfrom⟩
    · exact ⟨(hxs x hx).1, fun b hb => Nat.le_trans h.size ((hxs x hx).2 b hb)⟩

private theorem opens_allocateEntries (hs : Settled k s) (es : Entries) :
    Opens k s.nodes.size s (s.allocateEntries es).2 ∧
      ∀ x ∈ (s.allocateEntries es).1.map (·.2), (s.allocateEntries es).2.Storable k x ∧ x.IsFrom s.nodes.size := by
  obtain ⟨h, hxs⟩ := opens_allocateAll hs (es.map (·.2))
  refine ⟨h, fun x hx => ?_⟩
  obtain ⟨e, he, rfl⟩ := List.mem_map.mp hx
  exact hxs _ (List.of_mem_zip he).2

private theorem opens_setNode (hs : Settled k s) (hwhole : ∃ v, s.node a = .whole v)
    (hitems : ∀ y ∈ node.items, s.Storable k y ∧ y.IsFrom n)
    (hobject : ∀ shape t, node = .object shape t → n ≤ t ∧ (s.node t).IsTable ∧ s.Loose (.ref t)) :
    Opens k n s (s.setNode a node) := by
  by_cases ha : a < s.nodes.size
  · have hchanges : Changes a s (s.setNode a node) := by
      refine changes_setNode ?_
      rintro ⟨es, hes⟩
      obtain ⟨v, hv⟩ := hwhole
      cases hv.symm.trans hes
    refine hchanges.opens hs hwhole ?_ ?_
    · rw [node_setNode_self ha]
      exact hitems
    · rw [node_setNode_self ha]
      exact hobject
  · rw [setNode_of_size_le (Nat.le_of_not_lt ha)]
    exact .refl hs n

private theorem opens_enter (hs : Settled k s) (a : Nat) : Opens k s.nodes.size s (s.enter a) := by
  have hwhole : ∀ {v s'}, s.node a = .whole v → v ≠ .null → Grows s s' → ∃ v, s'.node a = .whole v := by
    intro v s' hnode hv hgrows
    have ha : a < s.nodes.size := lt_of_node_ne fun h => hv (Node.whole.inj (hnode.symm.trans h))
    exact ⟨v, (hgrows.nodes a ha).trans hnode⟩
  unfold enter
  split
  · rename_i vs hnode
    obtain ⟨h, hxs⟩ := opens_allocateAll hs vs
    exact h.trans (opens_setNode h.settled (hwhole hnode nofun (grows_allocateAll s vs).1) hxs nofun)
  · rename_i es hnode
    obtain ⟨h, hxs⟩ := opens_allocateEntries hs es
    exact h.trans (opens_setNode h.settled (hwhole hnode nofun (grows_allocateEntries s es).1) hxs nofun)
  · rename_i shape fields extras hnode
    obtain ⟨h, hxs⟩ := opens_allocateEntries hs (fields ++ extras)
    have hgrows := (grows_allocateEntries s (fields ++ extras)).1
    generalize s.allocateEntries (fields ++ extras) = p at h hxs hgrows ⊢
    obtain ⟨xs, s₁⟩ := p
    -- The table of the object is new, so nothing else leads to it.
    have hitems : ∀ y ∈ (Node.table xs).items, s₁.Storable k y ∧ y.IsFrom s.nodes.size := hxs
    obtain ⟨h', hloose⟩ := opens_push h.settled hitems nofun
    refine (h.trans h').trans (opens_setNode h'.settled (hwhole hnode nofun (hgrows.trans grows_push)) nofun ?_)
    rintro _ _ ⟨⟩
    refine ⟨h.size, ?_, hloose⟩
    rw [node_push_size]
    exact ⟨xs, rfl⟩
  · exact .refl hs _

theorem opens_enterHolder (hs : Settled k s) (r : Holder) {es : Attributes}
    (hes : ∀ e ∈ es, e.2.IsFree ∧ ∀ b, e.2 ≠ .ref b) : Opens k s.nodes.size s (s.enterHolder r es) := by
  unfold enterHolder
  split
  · exact .refl hs _
  · have hitems : ∀ y ∈ (Node.table es).items, s.Storable k y ∧ y.IsFrom s.nodes.size := by
      intro y hy
      obtain ⟨e, he, rfl⟩ := List.mem_map.mp hy
      obtain ⟨hfree, hne⟩ := hes e he
      exact ⟨(loose_of_ne_ref hfree hne).storable, fun b hb => absurd hb (hne b)⟩
    obtain ⟨h, hloose⟩ := opens_push hs hitems nofun
    have htable : ((s.push (.table es)).node s.nodes.size).IsTable := by
      rw [node_push_size]
      exact ⟨es, rfl⟩
    refine ⟨h.size, h.ids, h.mentions, h.attributes, ?_, h.objects, h.settled.give hloose htable r⟩
    rintro b hb ⟨r', hgiven⟩
    rcases List.mem_cons.mp hgiven with heq | hgiven
    · cases heq
      exact absurd hb (Nat.lt_irrefl _)
    · exact ⟨r', hgiven⟩

theorem opens_enterItem (hs : Settled k s) (x : Item) : Opens k s.nodes.size s (s.enterItem x) := by
  unfold enterItem
  split
  · exact opens_enter hs _
  · split
    · refine opens_enterHolder hs _ ?_
      intro e he
      rcases List.mem_cons.mp he with rfl | he
      · exact ⟨trivial, nofun⟩
      · obtain ⟨e, -, rfl⟩ := List.mem_map.mp he
        exact ⟨trivial, nofun⟩
    · exact .refl hs _
  · exact .refl hs _

/-! ### Looking around -/

/-- Someone has gone into items, one after the other. -/
def Entered : Store → Store → Prop := Relation.ReflTransGen fun s s' => ∃ x, s' = s.enterItem x

private theorem entered_enterItem (s : Store) (x : Item) : Entered s (s.enterItem x) := .single ⟨x, rfl⟩

theorem Entered.opens (h : Entered s s') (hs : Settled k s) : Opens k s.nodes.size s s' := by
  induction h with
  | refl => exact .refl hs _
  | tail _ hlast ih =>
    obtain ⟨x, rfl⟩ := hlast
    exact ih.trans ((opens_enterItem ih.settled x).mono ih.size)

private theorem entered_follow {step : Value} (h : s.follow x step = .ok (y, s')) : Entered s s' := by
  have hentered := entered_enterItem s x
  unfold follow at h
  dsimp only at h
  split at h
  · obtain ⟨z, -, h⟩ := Except.bind_eq_ok.mp h
    cases h
    exact hentered
  · obtain ⟨i, -, h⟩ := Except.bind_eq_ok.mp h
    cases h
  · obtain ⟨name, -, h⟩ := Except.bind_eq_ok.mp h
    rw [(eq_enterItem_of_attributeOf h).1]
    exact hentered.trans (entered_enterItem _ x)

theorem entered_walk {path : Path} (h : s.walk x path = .ok (y, s')) : Entered s s' := by
  unfold walk at h
  induction path generalizing s x with
  | nil =>
    cases h
    exact .refl
  | cons step path ih =>
    rw [List.foldlM_cons] at h
    obtain ⟨⟨z, s₁⟩, hz, h⟩ := Except.bind_eq_ok.mp h
    exact (entered_follow hz).trans (ih h)

theorem entered_view {shown : View Item} (h : s.view id = .ok (shown, s')) : Entered s s' := by
  unfold view at h
  obtain ⟨x, -, h⟩ := Except.bind_eq_ok.mp h
  dsimp only at h
  split at h
  · split at h
    · obtain ⟨⟨request, s₁⟩, hrequest, h⟩ := Except.bind_eq_ok.mp h
      cases h
      unfold viewRequest at hrequest
      obtain ⟨⟨collections, s₂⟩, hcollections, hrequest⟩ := Except.bind_eq_ok.mp hrequest
      obtain ⟨⟨mandatory, s₃⟩, hmandatory, hrequest⟩ := Except.bind_eq_ok.mp hrequest
      cases hrequest
      rw [eq_enterItem_of_elements hmandatory, (eq_enterItem_of_attributeOf hcollections).1]
      exact (entered_enterItem s x).trans (entered_enterItem _ collections)
    · cases h
      exact .refl
  · cases h
    exact .refl

end Store

end RequestSamples.Session
