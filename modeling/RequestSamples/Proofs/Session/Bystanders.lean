import RequestSamples.Proofs.Session.Rebinding
import RequestSamples.Proofs.Session.Separation
import RequestSamples.Proofs.Session.Settling

/-!
# What filling a message leaves as it is

Filling a message changes its own node and its table of attributes, so whatever leads to neither of them stays what it
is (`Rebinds.node_of_part`), and other messages hold the same as before (`Rebinds.same`).  Their methods give the same
as well (`Rebinds.throughMethod`), unless they have been made to answer for the filled message.
-/

namespace RequestSamples.Session.Store

variable {k : Prop} {s s' : Store} {x y : Item} {a b c t : Nat} {shape : Shape} {id method : String} {ws : Entries}

/-- The item has its attributes in the table at an address. -/
def OwnTable (s : Store) (x : Item) (t : Nat) : Prop := ∃ a shape, x = .ref a ∧ s.node a = .object shape t

/-- The first item leads to the very table of attributes that the second one has. -/
def LeadsInto (s : Store) (y x : Item) : Prop := ∃ t, s.OwnTable x t ∧ s.Part y (.ref t)

/-- A node that is part of an item is the item itself, stands in a list or table, or is the table of an object. -/
private theorem Part.inv (h : s.Part y (.ref b)) :
    y = .ref b ∨ s.Mentions b ∨ ∃ c shape, s.Part y (.ref c) ∧ s.node c = .object shape b := by
  generalize hz : Item.ref b = z at h
  cases h with
  | self => exact .inl rfl
  | @element c xs _ hc hnode hmem =>
    subst hz
    refine .inr (.inl ⟨c, ?_⟩)
    rw [hnode]
    exact hmem
  | @entry c es e hc hnode hmem =>
    refine .inr (.inl ⟨c, ?_⟩)
    rw [hnode, hz]
    exact List.mem_map_of_mem hmem
  | @attributes c shape t hc hnode =>
    cases hz
    exact .inr (.inr ⟨c, shape, hc, hnode⟩)

private theorem Settled.lt_of_part (hs : Settled k s) (hy : s.Known y) (h : s.Part y (.ref b)) : b < s.nodes.size := by
  rcases h.inv with rfl | hmention | ⟨c, shape, -, hnode⟩
  · exact hy b rfl
  · exact (hs.items hmention).1
  · exact lt_of_isTable (hs.tables hnode)

/-- Nothing else leads to a message as a whole. -/
private theorem Settled.ne_of_part (hs : Settled k s) (hobject : s.ObjectAt a shape) (hroot : s.IsRoot a)
    (hy : y ≠ .ref a) (h : s.Part y (.ref b)) : b ≠ a := by
  rintro rfl
  rcases h.inv with rfl | hmention | ⟨c, shape', -, hnode⟩
  · exact hy rfl
  · exact (hs.items hmention).2 hroot
  · obtain ⟨es, hes⟩ := hs.tables hnode
    cases hobject with
    | whole hwhole => cases hwhole.symm.trans hes
    | entered hentered => cases hentered.symm.trans hes

/-- Unless tables have been shared, nothing else leads to the table of a message. -/
theorem Settled.not_leadsInto (hs : Settled True s) (hx : s.item id = .ok x) (hyx : ∀ a, x = .ref a → y ≠ .ref a)
    (hy : ∀ b, y = .ref b → s.IsRoot b ∨ s.Mentions b) : ¬ s.LeadsInto y x := by
  rintro ⟨t, ⟨a, shape, rfl, hnode⟩, hpart⟩
  obtain ⟨es, hes⟩ := hs.tables hnode
  obtain ⟨hroot, hnot, hunique⟩ := hs.apart trivial hnode
  rcases hpart.inv with rfl | hmention | ⟨c, shape', hc, hnode'⟩
  · rcases hy t rfl with hy | hy
    · exact hroot hy
    · exact hnot hy
  · exact hnot hmention
  · obtain rfl := hunique hnode'
    exact hs.ne_of_part (.entered hnode hes) ⟨id, item_eq_ok hx⟩ (hyx c rfl) hc rfl

theorem ObjectAt.shapeOf? (h : s.ObjectAt a shape) : s.shapeOf? (.ref a) = some shape := by
  cases h with
  | whole hnode | entered hnode => rw [Store.shapeOf?, form, hnode]

private theorem Settled.known_of_item (hs : Settled k s) (hx : s.item id = .ok x) : s.Known x :=
  (hs.kept _ (item_eq_ok hx)).2

/-- Messages under different ids are different nodes. -/
theorem Settled.ne_of_item (hs : Settled k s) {id' : String} {x' : Item} (hx : s.item id = .ok (.ref a))
    (hx' : s.item id' = .ok x') (hid : id' ≠ id) : x' ≠ .ref a := by
  rintro rfl
  exact hid (hs.distinct (item_eq_ok hx') (item_eq_ok hx))

theorem ObjectAt.kind (h : s.ObjectAt a shape) :
    (s.family (.ref a), s.shapeOf? (.ref a)) = (.shape shape, some shape) := by
  rw [family_eq_of_shapeOf? h.shapeOf?, h.shapeOf?]

/-- The family of an item depends on its own node only. -/
private theorem family_of_node (h : ∀ b, y = .ref b → s'.node b = s.node b) : s'.family y = s.family y := by
  cases y with
  | ref b =>
    rw [family, family, form, form, h b rfl]
    cases s.node b <;> rfl
  | _ => rfl

private theorem reduce_of_parts (h : ∀ b, s.Part y (.ref b) → s'.node b = s.node b) : s'.reduce y = s.reduce y :=
  (mirrors_parts h).reduceWithin _ ⟨rfl, .self⟩

/-- What calling an item gives follows from its family, or from what it is bound to. -/
private theorem called_congr (hfamily : y.IsFree → s'.family y = s.family y)
    (howner : ∀ {n owner}, y = .bound .method n owner → s'.reduce owner = s.reduce owner) :
    s'.called y = s.called y := by
  by_cases hfree : y.IsFree
  · rw [called_of_isFree hfree, called_of_isFree hfree, hfamily hfree]
  · cases y with
    | bound f n owner => cases f <;> first | exact howner rfl | rfl
    | _ => exact absurd trivial hfree

private theorem attributeOf?_of_table (hnode : s.node a = .object shape t) (hnode' : s'.node a = .object shape t)
    (htable : s'.table t = s.table t) (htaught : TaughtAlike s s') (name : String) :
    s'.attributeOf? (.ref a) name = s.attributeOf? (.ref a) name := by
  unfold attributeOf?
  rw [family_of_object hnode, family_of_object hnode']
  dsimp only
  rw [hnode, hnode']
  dsimp only
  unfold objectAttribute? common?
  rw [htable, htaught.held?]

private theorem receiver_of_attributeOf? {n : String} {owner : Item}
    (h : (s.enterItem x).attributeOf? x method = some (.bound .method n owner)) :
    s.receiver x method = .ok (owner, s.enterItem x) := by
  unfold receiver attributeOf
  dsimp only
  rw [h]
  rfl

/-- Going into a whole object changes no table of a family. -/
private theorem given?_enter {fields extras : Entries} (hnode : s.node c = .whole (.object shape fields extras))
    (htables : ∀ {t}, s.IsGiven t → (s.node t).IsTable) (r : Holder) (name : String) :
    (s.enter c).given? r name = s.given? r name := by
  obtain ⟨t, h⟩ := enter_whole (ObjectAt.whole hnode).lt hnode
  unfold given?
  rw [h.given]
  cases hr : s.given.lookup r with
  | none => rfl
  | some u =>
    have hu := htables ⟨r, mem_of_lookup hr⟩
    have huc : u ≠ c := by
      rintro rfl
      obtain ⟨es, hes⟩ := hu
      cases hnode.symm.trans hes
    show ((s.enter c).table u).lookup name = (s.table u).lookup name
    rw [Store.table, Store.table, h.nodes u (lt_of_isTable hu) huc]

section

variable (h : Rebinds s.nodes.size s a shape ws s') (hs : Settled k s) (hobject : s.ObjectAt a shape)
  (hx : s.item id = .ok (.ref a))
include h hobject

/-- Nothing gets into another family: the message keeps its shape, and its table is still a table. -/
private theorem Rebinds.family_eq (hy : s.Known y) : s'.family y = s.family y := by
  by_cases hya : y = .ref a
  · subst hya
    exact congrArg Prod.fst (h.object.kind.trans hobject.kind.symm)
  · by_cases htable : ∃ b, y = .ref b ∧ ∃ u, s.node a = .object u b
    · obtain ⟨b, rfl, u, hu⟩ := htable
      have hfamily : ∀ {r : Store}, r.ObjectAt a shape → r.node a = .object u b → r.family (.ref b) = .dict := by
        intro r hr hnode
        cases hr with
        | whole hwhole => cases hwhole.symm.trans hnode
        | entered hentered hes =>
          cases hentered.symm.trans hnode
          rw [family, form, hes]
          rfl
      rw [hfamily h.object (h.stays hu), hfamily hobject hu]
    · refine family_of_node fun b hb => h.nodes b (hy b hb) ?_ fun u hu => htable ⟨b, hb, u, hu⟩
      rintro rfl
      exact hya hb

include hs

/-- Nothing else has the table of a member or a family for its own. -/
private theorem Rebinds.node_of_isGiven (ht : s.IsGiven t) : s'.node t = s.node t := by
  obtain ⟨htable, -, -, hattributes⟩ := hs.given ht
  refine h.nodes t (lt_of_isTable htable) ?_ fun u hu => hattributes ⟨a, u, hu⟩
  rintro rfl
  obtain ⟨es, hes⟩ := htable
  cases hobject with
  | whole hnode | entered hnode => cases hnode.symm.trans hes

private theorem Rebinds.given?_eq (r : Holder) (name : String) : s'.given? r name = s.given? r name := by
  unfold given?
  rw [h.given]
  cases hr : s.given.lookup r with
  | none => rfl
  | some t =>
    show (s'.table t).lookup name = (s.table t).lookup name
    rw [Store.table, Store.table, h.node_of_isGiven hs hobject ⟨r, mem_of_lookup hr⟩]

include hx

/-- What does not lead to the message or its table is made of nodes that stay as they are. -/
theorem Rebinds.node_of_part (hy : s.Known y) (hya : y ≠ .ref a) (hleads : ¬ s.LeadsInto y (.ref a))
    (hb : s.Part y (.ref b)) : s'.node b = s.node b := by
  refine h.nodes b (hs.lt_of_part hy hb) (hs.ne_of_part hobject ⟨id, item_eq_ok hx⟩ hya hb) fun u hu => ?_
  exact hleads ⟨b, ⟨a, u, rfl, hu⟩, hb⟩

theorem Rebinds.readWithin_eq (hy : s.Known y) (hya : y ≠ .ref a) (hleads : ¬ s.LeadsInto y (.ref a)) (room : Nat) :
    s'.readWithin room y = s.readWithin room y :=
  (mirrors_parts fun _ hb => h.node_of_part hs hobject hx hy hya hleads hb).readWithin room ⟨rfl, .self⟩

theorem Rebinds.same {id' : String} {x' : Item} (hid : id' ≠ id) (hx' : s.item id' = .ok x')
    (hleads : ¬ s.LeadsInto x' (.ref a)) : s.Same s' id' x' := by
  have hknown := hs.known_of_item hx'
  have hne := hs.ne_of_item hx hx' hid
  have hmirrors : Mirrors _ s s' := mirrors_parts fun _ hb => h.node_of_part hs hobject hx hknown hne hleads hb
  refine ⟨?_, fun b hb => h.node_of_part hs hobject hx hknown hne hleads hb,
    fun room => hmirrors.readWithin room ⟨rfl, .self⟩, hmirrors.reduceWithin _ ⟨rfl, .self⟩⟩
  rw [item, h.ids]
  exact hx'

private theorem Rebinds.reduce_eq (hy : s.Known y) (hya : y ≠ .ref a) (hleads : ¬ s.LeadsInto y (.ref a)) :
    s'.reduce y = s.reduce y :=
  reduce_of_parts fun _ hb => h.node_of_part hs hobject hx hy hya hleads hb

private theorem Rebinds.throughMethod_entered {shape' : Shape} (hca : c ≠ a) (hnode : s.node c = .object shape' t)
    (hleads : ¬ s.LeadsInto (.ref c) (.ref a))
    (howner : ∀ {owner e}, s.receiver (.ref c) method = .ok (owner, e) →
      owner ≠ .ref a ∧ ¬ s.LeadsInto owner (.ref a)) :
    s'.throughMethod (.ref c) method = s.throughMethod (.ref c) method := by
  have hc : s.Known (.ref c) := by
    rintro _ ⟨⟩
    exact lt_of_node_ne fun hnull => by cases hnode.symm.trans hnull
  have hnode_eq : ∀ {b}, s.Part (.ref c) (.ref b) → s'.node b = s.node b :=
    h.node_of_part hs hobject hx hc (fun heq => hca (Item.ref.inj heq)) hleads
  have hnode' : s'.node c = .object shape' t := (hnode_eq .self).trans hnode
  have htable : s'.table t = s.table t := by
    rw [Store.table, Store.table, hnode_eq (Part.self.attributes hnode)]
  have hattribute := attributeOf?_of_table hnode hnode' htable (fun f => h.given?_eq hs hobject (.family f)) method
  have henter : s.enterItem (.ref c) = s := enterItem_of_object hnode
  rw [throughMethod_eq, throughMethod_eq, henter, enterItem_of_object hnode', answered, answered, hattribute]
  cases hy : s.attributeOf? (.ref c) method with
  | none =>
    have hlacking : s'.lacking (.ref c) method = s.lacking (.ref c) method := by
      show Failure.noAttribute (s'.family (.ref c)).name method = .noAttribute (s.family (.ref c)).name method
      rw [family_of_object hnode, family_of_object hnode']
    exact congrArg Except.error hlacking
  | some y =>
    have hanswers := answers_of_attributeOf? hy
    refine called_congr (fun _ => h.family_eq hobject (hs.known_of_answers hc trivial hanswers)) ?_
    rintro n owner rfl
    rw [← henter] at hy
    obtain ⟨hne, hnot⟩ := howner (receiver_of_attributeOf? hy)
    exact h.reduce_eq hs hobject hx (hs.known_owner_of_answers hc trivial hanswers) hne hnot

/-- What stands in a list or a table gives the same where someone has gone into another message, too. -/
private theorem Rebinds.called_of_mem {e e' : Store} {shape' : Shape} (hmem : y ∈ (s.node b).items)
    (hc : s.ObjectAt c shape') (hroot : s.IsRoot c)
    (hnodes : ∀ d, d < s.nodes.size → d ≠ c → e.node d = s.node d ∧ e'.node d = s'.node d)
    (hself : e'.reduce (.ref c) = e.reduce (.ref c))
    (howner : ∀ {n owner}, y = .bound .method n owner → owner ≠ .ref a ∧ ¬ s.LeadsInto owner (.ref a)) :
    e'.called y = e.called y := by
  refine called_congr (fun _ => ?_) ?_
  · have hy : ∀ d, y = .ref d → d < s.nodes.size ∧ d ≠ c := by
      rintro d rfl
      obtain ⟨hlt, hnot⟩ := hs.items ⟨b, hmem⟩
      refine ⟨hlt, ?_⟩
      rintro rfl
      exact hnot hroot
    calc e'.family y = s'.family y := family_of_node fun d hd => (hnodes d (hy d hd).1 (hy d hd).2).2
      _ = s.family y := h.family_eq hobject fun d hd => (hy d hd).1
      _ = e.family y := (family_of_node fun d hd => (hnodes d (hy d hd).1 (hy d hd).2).1).symm
  · rintro n owner rfl
    obtain ⟨hne, hnot⟩ := howner rfl
    have hknown := (hs.bound hmem).2
    by_cases hoc : owner = .ref c
    · rw [hoc]
      exact hself
    · -- Nothing leads to the message that has been gone into.
      have hpart : ∀ d, s.Part owner (.ref d) → d < s.nodes.size ∧ d ≠ c :=
        fun d hd => ⟨hs.lt_of_part hknown hd, hs.ne_of_part hc hroot hoc hd⟩
      have hfilled : ∀ {d}, s.Part owner (.ref d) → s'.node d = s.node d :=
        h.node_of_part hs hobject hx hknown hne hnot
      calc e'.reduce owner = s.reduce owner :=
            reduce_of_parts fun d hd => (hnodes d (hpart d hd).1 (hpart d hd).2).2.trans (hfilled hd)
        _ = e.reduce owner := (reduce_of_parts fun d hd => (hnodes d (hpart d hd).1 (hpart d hd).2).1).symm

private theorem Rebinds.throughMethod_whole {shape' : Shape} {fields extras : Entries} (hca : c ≠ a)
    (hroot : s.IsRoot c) (hnode : s.node c = .whole (.object shape' fields extras))
    (howner : ∀ {owner e}, s.receiver (.ref c) method = .ok (owner, e) →
      owner ≠ .ref a ∧ ¬ s.LeadsInto owner (.ref a)) :
    s'.throughMethod (.ref c) method = s.throughMethod (.ref c) method := by
  have hc : c < s.nodes.size := (ObjectAt.whole hnode).lt
  have hc' : c < s'.nodes.size := Nat.lt_of_lt_of_le hc h.size
  have hnot : ∀ u, s.node a ≠ .object u c := by
    intro u hu
    obtain ⟨es, hes⟩ := hs.tables hu
    cases hnode.symm.trans hes
  have hnode' : s'.node c = .whole (.object shape' fields extras) := (h.nodes c hc hca hnot).trans hnode
  obtain ⟨t, hentered⟩ := enter_whole hc hnode
  obtain ⟨t', hentered'⟩ := enter_whole hc' hnode'
  obtain ⟨u, u', hsame⟩ := sameObject_enter hc hc' hnode hnode'
  have hgiven : ∀ r name, (s.enter c).given? r name = s.given? r name :=
    given?_enter hnode fun ht => (hs.given ht).1
  have hgiven' : ∀ r name, (s'.enter c).given? r name = s'.given? r name := by
    refine given?_enter hnode' fun {t} ht => ?_
    have ht : s.IsGiven t := by rwa [IsGiven, h.given] at ht
    rw [h.node_of_isGiven hs hobject ht]
    exact (hs.given ht).1
  have htaught : TaughtAlike (s.enter c) (s'.enter c) := by
    intro f name
    rw [hgiven', hgiven, h.given?_eq hs hobject]
  rw [throughMethod_eq, throughMethod_eq]
  refine (hsame.answered htaught fun {f y} hf hy => ?_).symm
  rw [hgiven] at hf
  obtain ⟨b, -, hmem⟩ := Option.bind_eq_some_iff.mp hf
  refine (h.called_of_mem hs hobject hx (mem_items_of_mem_table (mem_of_lookup hmem)) (.whole hnode) hroot
    (fun d hd hdc => ⟨hentered.nodes d hd hdc, hentered'.nodes d (Nat.lt_of_lt_of_le hd h.size) hdc⟩)
    hsame.reduce.symm ?_).symm
  rintro n owner rfl
  exact howner (receiver_of_attributeOf? hy)

/-- What the methods of another message give stays as it is, unless one of them answers for the filled message or for
what leads to its table. -/
theorem Rebinds.throughMethod {id' : String} {x' : Item} {shape' : Shape} (hid : id' ≠ id)
    (hx' : s.item id' = .ok x') (hshape : s.shapeOf? x' = some shape') (hleads : ¬ s.LeadsInto x' (.ref a))
    (howner : ∀ {owner e}, s.receiver x' method = .ok (owner, e) →
      owner ≠ .ref a ∧ ¬ s.LeadsInto owner (.ref a)) :
    s'.throughMethod x' method = s.throughMethod x' method := by
  have hca := hs.ne_of_item hx hx' hid
  obtain ⟨c, rfl, ⟨fields, extras, hnode⟩ | ⟨t, hnode⟩⟩ := exists_ref_of_shapeOf? (hs.kept _ (item_eq_ok hx')).1 hshape
  · have hroot : s.IsRoot c := ⟨id', item_eq_ok hx'⟩
    exact h.throughMethod_whole hs hobject hx (fun heq => hca (congrArg Item.ref heq)) hroot hnode howner
  · exact h.throughMethod_entered hs hobject hx (fun heq => hca (congrArg Item.ref heq)) hnode hleads howner

end

end RequestSamples.Session.Store
