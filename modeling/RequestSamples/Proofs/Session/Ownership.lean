import RequestSamples.Proofs.Success
import RequestSamples.Session.Edit

/-!
# Whose the nodes are

Every node belongs to the message under one id, or to nobody: the tables of members and families, and what has been
put into them.  A node refers only to nodes of the same owner, and what is kept under an id to nodes of that id
(`Sound`).  Whatever goes on in a store for one owner leaves all nodes of other messages as they are (`Evolves`), and
so does one such change after another (`Evolves.trans`).  Here this is shown for going into items; edits are made of
that.
-/

namespace RequestSamples.Session

namespace Item

/-- The item can be put into a message: it is a value, but no object, or refers to a node. -/
def IsPut : Item → Prop
  | value v => ∀ shape fields extras, v ≠ .object shape fields extras
  | ref _ => True
  | _ => False

/-- The item is not bound to another one. -/
def IsFree : Item → Prop
  | bound .. => False
  | _ => True

/-- The item is the same for all messages. -/
def IsShared : Item → Prop
  | value _ | family _ => True
  | _ => False

theorem IsPut.isFree {x : Item} (h : x.IsPut) : x.IsFree := by
  cases x <;> trivial

end Item

/-- The node is a table that has been gone into. -/
def Node.IsTable (n : Node) : Prop := ∃ es, n = .table es

/-- The family of what a node holds, and its shape if it is an object. -/
def Node.kind : Node → Family × Option Shape
  | whole (.object shape _ _) | object shape _ => (.shape shape, some shape)
  | whole v => (v.family, none)
  | list _ => (.list, none)
  | table _ => (.dict, none)

private theorem Node.kind_of_isTable {n : Node} (h : n.IsTable) : n.kind = (.dict, none) := by
  obtain ⟨es, rfl⟩ := h
  rfl

namespace Store

/-- The owners of nodes: the ids of messages, or nobody. -/
abbrev Owners := Nat → Option String

/-- All nodes that the item leads to belong to `c`. -/
def Within (own : Owners) (n : Nat) (c : Option String) : Item → Prop
  | .value _ | .family _ => True
  | .ref a => a < n ∧ own a = c
  | .bound _ _ owner => Within own n c owner

/-- The node of an owner refers to nothing else, and objects have their attributes in tables. -/
def Holds (own : Owners) (s : Store) (c : Option String) : Node → Prop
  | .whole _ => True
  | .list xs => ∀ x ∈ xs, Within own s.nodes.size c x ∧ x.IsFree
  | .table es => ∀ e ∈ es, Within own s.nodes.size c e.2 ∧ e.2.IsFree
  | .object _ t => t < s.nodes.size ∧ own t = c ∧ (s.node t).IsTable

/-- Every node refers only to nodes of its owner, and what members and families have been given belongs to nobody. -/
structure Sound (own : Owners) (s : Store) : Prop where
  nodes : ∀ a, a < s.nodes.size → Holds own s (own a) (s.node a)
  given : ∀ e ∈ s.given, e.2 < s.nodes.size ∧ own e.2 = none ∧ (s.node e.2).IsTable
  ids : ∀ e ∈ s.ids, Within own s.nodes.size (some e.1) e.2 ∧ e.2.IsPut

/-- The store has gone on for owner `c`: nodes of other messages are as they were, and no node has become another
kind of thing.  If `k` holds, families have no other tables than before. -/
structure Evolves (k : Prop) (c : Option String) (own : Owners) (s : Store) (own' : Owners) (s' : Store) :
    Prop where
  size : s.nodes.size ≤ s'.nodes.size
  owners : ∀ a, a < s.nodes.size → own' a = own a
  nodes : ∀ a, a < s.nodes.size → own a ≠ c → own a ≠ none → s'.node a = s.node a
  kinds : ∀ a, a < s.nodes.size → (s'.node a).kind = (s.node a).kind
  tables : ∀ a, a < s.nodes.size → (s.node a).IsTable → (s'.node a).IsTable
  ids : s'.ids = s.ids
  families : k → ∀ f, s'.given.lookup (.family f) = s.given.lookup (.family f)
  sound : Sound own' s'

variable {k : Prop} {own own' own'' : Owners} {s s' s'' : Store} {c d : Option String} {x y : Item} {a b : Nat}
  {n : Node}

theorem Evolves.refl (hs : Sound own s) : Evolves k c own s own s where
  size := Nat.le_refl _
  owners := fun _ _ => rfl
  nodes := fun _ _ _ _ => rfl
  kinds := fun _ _ => rfl
  tables := fun _ _ h => h
  ids := rfl
  families := fun _ _ => rfl
  sound := hs

theorem Evolves.trans (h : Evolves k c own s own' s') (h' : Evolves k c own' s' own'' s'') :
    Evolves k c own s own'' s'' where
  size := Nat.le_trans h.size h'.size
  owners := fun a ha => (h'.owners a (Nat.lt_of_lt_of_le ha h.size)).trans (h.owners a ha)
  nodes := by
    intro a ha hc hnone
    rw [h'.nodes a (Nat.lt_of_lt_of_le ha h.size), h.nodes a ha hc hnone]
    · rw [h.owners a ha]; exact hc
    · rw [h.owners a ha]; exact hnone
  kinds := fun a ha => (h'.kinds a (Nat.lt_of_lt_of_le ha h.size)).trans (h.kinds a ha)
  tables := fun a ha htable => h'.tables a (Nat.lt_of_lt_of_le ha h.size) (h.tables a ha htable)
  ids := h'.ids.trans h.ids
  families := fun hk f => (h'.families hk f).trans (h.families hk f)
  sound := h'.sound

/-- What goes on for nobody goes on for everybody. -/
theorem Evolves.weaken (h : Evolves k d own s own' s') (hd : d = c ∨ d = none) : Evolves k c own s own' s' := by
  refine ⟨h.size, h.owners, ?_, h.kinds, h.tables, h.ids, h.families, h.sound⟩
  intro a ha hc hnone
  refine h.nodes a ha ?_ hnone
  rcases hd with rfl | rfl
  · exact hc
  · exact hnone

theorem Evolves.mono {k' : Prop} (h : Evolves k' c own s own' s') (hk : k → k') : Evolves k c own s own' s' :=
  ⟨h.size, h.owners, h.nodes, h.kinds, h.tables, h.ids, fun hk' => h.families (hk hk'), h.sound⟩

theorem Within.mono {n n' : Nat} (h : Within own n d x) (hn : n ≤ n') (hown : ∀ a, a < n → own' a = own a) :
    Within own' n' d x := by
  induction x with
  | value | family => trivial
  | ref a => exact ⟨Nat.lt_of_lt_of_le h.1 hn, (hown a h.1).trans h.2⟩
  | bound f name owner ih => exact ih h

theorem Within.evolve (hx : Within own s.nodes.size d x) (h : Evolves k c own s own' s') :
    Within own' s'.nodes.size d x :=
  hx.mono h.size h.owners

theorem Holds.mono (h : Holds own s d n) (hsize : s.nodes.size ≤ s'.nodes.size)
    (hown : ∀ a, a < s.nodes.size → own' a = own a)
    (htables : ∀ a, a < s.nodes.size → (s.node a).IsTable → (s'.node a).IsTable) : Holds own' s' d n := by
  cases n with
  | whole => trivial
  | list xs => exact fun x hx => ⟨(h x hx).1.mono hsize hown, (h x hx).2⟩
  | table es => exact fun e he => ⟨(h e he).1.mono hsize hown, (h e he).2⟩
  | object shape t => exact ⟨Nat.lt_of_lt_of_le h.1 hsize, (hown t h.1).trans h.2.1, htables t h.1 h.2.2⟩

/-- The store with one more node. -/
def push (s : Store) (n : Node) : Store := { s with nodes := s.nodes.push n }

/-- The owners when all further nodes belong to `c`. -/
def Owners.extend (own : Owners) (n : Nat) (c : Option String) : Owners := fun a => if a < n then own a else c

private theorem Owners.extend_of_lt {n : Nat} (h : a < n) : own.extend n c a = own a := if_pos h

private theorem Owners.extend_self (n : Nat) : own.extend n c n = c := if_neg (Nat.lt_irrefl n)

theorem size_push : (s.push n).nodes.size = s.nodes.size + 1 := Array.size_push _

theorem node_push_of_lt (h : a < s.nodes.size) : (s.push n).node a = s.node a := by
  have hne : a ≠ s.nodes.size := Nat.ne_of_lt h
  simp only [node, push, Array.getD_eq_getD_getElem?, Array.getElem?_push, if_neg hne]

theorem node_push_size : (s.push n).node s.nodes.size = n := by
  simp only [node, push, Array.getD_eq_getD_getElem?, Array.getElem?_push, if_true, Option.getD_some]

private theorem evolves_push (hs : Sound own s) (hn : Holds own s d n) :
    Evolves k c own s (own.extend s.nodes.size d) (s.push n) := by
  have hsize : s.nodes.size ≤ (s.push n).nodes.size := by rw [size_push]; omega
  have hown : ∀ a, a < s.nodes.size → own.extend s.nodes.size d a = own a := fun a h => Owners.extend_of_lt h
  have htables : ∀ a, a < s.nodes.size → (s.node a).IsTable → ((s.push n).node a).IsTable := by
    intro a ha h
    rw [node_push_of_lt ha]
    exact h
  refine ⟨hsize, hown, ?_, ?_, htables, rfl, fun _ _ => rfl, ⟨?_, ?_, ?_⟩⟩
  · intro a ha _ _
    exact node_push_of_lt ha
  · intro a ha
    rw [node_push_of_lt ha]
  · intro a ha
    rw [size_push] at ha
    -- The new node may refer to all that there has been, but nothing refers to it yet.
    by_cases h : a < s.nodes.size
    · rw [hown a h, node_push_of_lt h]
      exact (hs.nodes a h).mono hsize hown htables
    · obtain rfl : a = s.nodes.size := by omega
      rw [Owners.extend_self, node_push_size]
      exact hn.mono hsize hown htables
  · intro e he
    obtain ⟨hlt, hnone, htable⟩ := hs.given e he
    exact ⟨Nat.lt_of_lt_of_le hlt hsize, (hown _ hlt).trans hnone, htables _ hlt htable⟩
  · intro e he
    exact ⟨(hs.ids e he).1.mono hsize hown, (hs.ids e he).2⟩

private theorem within_push (own : Owners) (s : Store) (c : Option String) (n : Node) :
    Within (own.extend s.nodes.size c) (s.push n).nodes.size c (.ref s.nodes.size) :=
  ⟨by rw [size_push]; omega, Owners.extend_self _⟩

theorem size_setNode : (s.setNode a n).nodes.size = s.nodes.size := Array.size_setIfInBounds

theorem node_setNode_self (h : a < s.nodes.size) : (s.setNode a n).node a = n := by
  simp only [node, setNode, Array.getD_eq_getD_getElem?, Array.getElem?_setIfInBounds_self_of_lt h, Option.getD_some]

theorem node_setNode_ne (h : b ≠ a) : (s.setNode a n).node b = s.node b := by
  simp only [node, setNode, Array.getD_eq_getD_getElem?, Array.getElem?_setIfInBounds_ne (Ne.symm h)]

/-- The new node is of the same kind as the old one, and a table where one has gone into a dictionary. -/
theorem evolves_setNode (hs : Sound own s) (ha : a < s.nodes.size) (hc : own a = c ∨ own a = none)
    (hn : Holds own s (own a) n) (hkind : n.kind = (s.node a).kind) (htable : n.kind = (.dict, none) → n.IsTable) :
    Evolves k c own s own (s.setNode a n) := by
  have hsize : (s.setNode a n).nodes.size = s.nodes.size := size_setNode
  have htables : ∀ b, b < s.nodes.size → (s.node b).IsTable → ((s.setNode a n).node b).IsTable := by
    intro b hb h
    by_cases hba : b = a
    · subst hba
      rw [node_setNode_self hb]
      exact htable (hkind.trans (Node.kind_of_isTable h))
    · rw [node_setNode_ne hba]
      exact h
  refine ⟨Nat.le_of_eq hsize.symm, fun _ _ => rfl, ?_, ?_, htables, rfl, fun _ _ => rfl, ⟨?_, ?_, ?_⟩⟩
  · intro b hb hbc hnone
    refine node_setNode_ne ?_
    rintro rfl
    rcases hc with h | h
    · exact hbc h
    · exact hnone h
  · intro b hb
    by_cases hba : b = a
    · subst hba
      rw [node_setNode_self hb, hkind]
    · rw [node_setNode_ne hba]
  · intro b hb
    rw [hsize] at hb
    by_cases hba : b = a
    · subst hba
      rw [node_setNode_self hb]
      exact hn.mono (Nat.le_of_eq hsize.symm) (fun _ _ => rfl) htables
    · rw [node_setNode_ne hba]
      exact (hs.nodes b hb).mono (Nat.le_of_eq hsize.symm) (fun _ _ => rfl) htables
  · intro e he
    obtain ⟨hlt, hnone, htable⟩ := hs.given e he
    exact ⟨by rw [hsize]; exact hlt, hnone, htables _ hlt htable⟩
  · intro e he
    rw [hsize]
    exact hs.ids e he

/-- What has gone on for the owner of a node goes on with a new node in its place. -/
theorem Evolves.setNode (h : Evolves k (own a) own s own' s') (ha : a < s.nodes.size)
    (hc : own a = c ∨ own a = none) (hn : Holds own' s' (own a) n) (hkind : n.kind = (s.node a).kind)
    (htable : n.kind = (.dict, none) → n.IsTable) : Evolves k c own s own' (s'.setNode a n) := by
  have hown := h.owners a ha
  refine (h.weaken hc).trans (evolves_setNode h.sound (Nat.lt_of_lt_of_le ha h.size) ?_ ?_ ?_ htable)
  · rw [hown]
    exact hc
  · rw [hown]
    exact hn
  · rw [h.kinds a ha]
    exact hkind

theorem evolves_allocate (hs : Sound own s) (c : Option String) (v : Value) :
    ∃ own', Evolves k c own s own' (s.allocate v).2 ∧
      Within own' (s.allocate v).2.nodes.size c (s.allocate v).1 ∧ (s.allocate v).1.IsPut := by
  cases v with
  | list vs => exact ⟨_, evolves_push hs (d := c) (n := .whole (.list vs)) trivial, within_push own s c _, trivial⟩
  | dict es => exact ⟨_, evolves_push hs (d := c) (n := .whole (.dict es)) trivial, within_push own s c _, trivial⟩
  | object shape es xs =>
    exact ⟨_, evolves_push hs (d := c) (n := .whole (.object shape es xs)) trivial, within_push own s c _, trivial⟩
  | _ => exact ⟨own, .refl hs, trivial, nofun⟩

private theorem evolves_allocateAll (hs : Sound own s) (c : Option String) (vs : List Value) :
    ∃ own', Evolves k c own s own' (s.allocateAll vs).2 ∧
      ∀ x ∈ (s.allocateAll vs).1, Within own' (s.allocateAll vs).2.nodes.size c x ∧ x.IsFree := by
  induction vs generalizing own s with
  | nil => exact ⟨own, .refl hs, fun x hx => by cases hx⟩
  | cons v vs ih =>
    obtain ⟨own₁, h₁, hx, hput⟩ := evolves_allocate hs c v
    obtain ⟨own₂, h₂, hxs⟩ := ih h₁.sound
    refine ⟨own₂, h₁.trans h₂, ?_⟩
    intro x hmem
    rcases List.mem_cons.mp hmem with rfl | hmem
    · exact ⟨hx.evolve h₂, hput.isFree⟩
    · exact hxs x hmem

private theorem evolves_allocateEntries (hs : Sound own s) (c : Option String) (es : Entries) :
    ∃ own', Evolves k c own s own' (s.allocateEntries es).2 ∧
      ∀ e ∈ (s.allocateEntries es).1, Within own' (s.allocateEntries es).2.nodes.size c e.2 ∧ e.2.IsFree := by
  obtain ⟨own', h, hxs⟩ := evolves_allocateAll hs c (es.map (·.2))
  exact ⟨own', h, fun e he => hxs _ (List.of_mem_zip he).2⟩

private theorem evolves_enter (hs : Sound own s) (ha : a < s.nodes.size) (hc : own a = c ∨ own a = none) :
    ∃ own', Evolves k c own s own' (s.enter a) := by
  unfold enter
  split
  · rename_i vs hnode
    obtain ⟨own', h, hxs⟩ := evolves_allocateAll (k := k) hs (own a) vs
    refine ⟨own', h.setNode ha hc hxs ?_ nofun⟩
    rw [hnode]
    rfl
  · rename_i es hnode
    obtain ⟨own', h, hxs⟩ := evolves_allocateEntries (k := k) hs (own a) es
    refine ⟨own', h.setNode ha hc hxs ?_ fun _ => ⟨_, rfl⟩⟩
    rw [hnode]
    rfl
  · -- An object gets a table of its own, which stands behind all that it holds.
    rename_i shape fields extras hnode
    obtain ⟨own₁, h₁, hxs⟩ := evolves_allocateEntries (k := k) hs (own a) (fields ++ extras)
    generalize s.allocateEntries (fields ++ extras) = p at h₁ hxs ⊢
    obtain ⟨xs, s₁⟩ := p
    have h₂ := evolves_push (k := k) (c := own a) (d := own a) (n := .table _) h₁.sound hxs
    refine ⟨_, (h₁.trans h₂).setNode ha hc ⟨?_, Owners.extend_self _, ?_⟩ ?_ nofun⟩
    · rw [size_push]
      exact Nat.lt_succ_self _
    · rw [node_push_size]
      exact ⟨_, rfl⟩
    · rw [hnode]
      rfl
  · exact ⟨own, .refl hs⟩

/-- A member or a family that has no table yet gets one, which belongs to nobody. -/
theorem evolves_enterHolder (hs : Sound own s) (c : Option String) {r : Holder} {es : Attributes}
    (hr : k → ∀ f, r ≠ .family f) (hes : ∀ e ∈ es, Within own s.nodes.size none e.2 ∧ e.2.IsFree) :
    ∃ own', Evolves k c own s own' (s.enterHolder r es) := by
  unfold enterHolder
  split
  · exact ⟨own, .refl hs⟩
  · have h := evolves_push (k := k) (c := c) (d := none) (n := .table es) hs hes
    refine ⟨_, h.size, h.owners, h.nodes, h.kinds, h.tables, h.ids, ?_, h.sound.nodes, ?_, h.sound.ids⟩
    · intro hk f
      rw [List.lookup_cons, beq_false_of_ne (Ne.symm (hr hk f))]
    intro e he
    rcases List.mem_cons.mp he with rfl | he
    · refine ⟨?_, Owners.extend_self _, ?_⟩
      · show s.nodes.size < (s.push _).nodes.size
        rw [size_push]; omega
      · show ((s.push _).node s.nodes.size).IsTable
        rw [node_push_size]; exact ⟨_, rfl⟩
    · exact h.sound.given e he

theorem evolves_enterItem (hs : Sound own s) (hx : Within own s.nodes.size d x) (hd : d = c ∨ d = none) :
    ∃ own', Evolves k c own s own' (s.enterItem x) := by
  unfold enterItem
  split
  · rename_i a
    exact evolves_enter hs hx.1 (by rw [hx.2]; exact hd)
  · split
    · refine evolves_enterHolder hs c (fun _ => nofun) ?_
      intro e he
      rcases List.mem_cons.mp he with rfl | he
      · exact ⟨trivial, trivial⟩
      · obtain ⟨e', -, rfl⟩ := List.mem_map.mp he
        exact ⟨trivial, trivial⟩
    · exact ⟨own, .refl hs⟩
  · exact ⟨own, .refl hs⟩

end Store

end RequestSamples.Session
