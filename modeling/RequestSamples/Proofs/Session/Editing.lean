import RequestSamples.Proofs.Session.Walking
import RequestSamples.Session.Display

/-!
# Whom edits touch

Setting, adding and filling change nodes of the edited message and of nobody, and what they put in gets nodes of the
same owner.  Nobody's are the attributes of families, which show in all their values: a family is given one only by
setting at a path that leads to it (`LeadsToFamily`).
-/

namespace RequestSamples.Session.Store

variable {k : Prop} {own : Owners} {s s' : Store} {c d : Option String} {x y : Item} {a t : Nat}
  {name id : String} {v : Value}

private theorem evolves_setEntry (hs : Sound own s) (ht : t < s.nodes.size) (hc : own t = c ∨ own t = none)
    (htable : (s.node t).IsTable) (hy : Within own s.nodes.size (own t) y) (hfree : y.IsFree) :
    Evolves k c own s own (s.setEntry t name y) := by
  obtain ⟨es, hes⟩ := htable
  have hholds := hs.nodes t ht
  rw [hes] at hholds
  refine evolves_setNode hs ht hc ?_ ?_ fun _ => ⟨_, rfl⟩
  · intro e he
    rw [table, hes] at he
    rcases Entries.mem_put he with rfl | he
    · exact ⟨hy, hfree⟩
    · exact hholds e he
  · rw [hes]
    rfl

/-- A list keeps its elements, or gets others of its owner. -/
private theorem evolves_setList (hs : Sound own s) (hx : Within own s.nodes.size d (.ref a)) {xs ys : List Item}
    (hform : s.form (.ref a) = .list xs) (hys : ∀ z ∈ ys, z ∈ xs ∨ Within own s.nodes.size d z ∧ z.IsFree) :
    Evolves k d own s own (s.setNode a (.list ys)) := by
  obtain ⟨ha, rfl⟩ := hx
  have hnode := node_of_form_list hform
  have hholds := hs.nodes a ha
  rw [hnode] at hholds
  refine evolves_setNode hs ha (.inl rfl) ?_ ?_ nofun
  · intro z hz
    rcases hys z hz with hz | hz
    · exact hholds z hz
    · exact hz
  · rw [hnode]
    rfl

theorem eq_ref_of_tableAt (h : s.tableAt y = .ok (t, s')) :
    s' = s.enterItem y ∧ y = .ref t ∧ (s'.node t).IsTable := by
  unfold tableAt at h
  dsimp only at h
  split at h
  · rename_i es hform
    cases h
    exact ⟨rfl, rfl, es, node_of_form_table hform⟩
  · cases h

/-- The table that something put in can be. -/
private theorem evolves_tableAt (hs : Sound own s) (hy : Within own s.nodes.size d y) (h : s.tableAt y = .ok (t, s')) :
    ∃ own', Evolves k d own s own' s' ∧ t < s'.nodes.size ∧ own' t = d ∧ (s'.node t).IsTable := by
  obtain ⟨own', hevolves⟩ := evolves_enterItem (k := k) (c := d) hs hy (.inl rfl)
  obtain ⟨rfl, rfl, htable⟩ := eq_ref_of_tableAt h
  obtain ⟨ht, hown⟩ := hy.evolve hevolves
  exact ⟨own', hevolves, ht, hown, htable⟩

private theorem evolves_give (hs : Sound own s) {r : Holder} (hr : k → ∀ f, r ≠ .family f)
    (hy : Within own s.nodes.size none y) (hput : y.IsPut) : ∃ own', Evolves k none own s own' (s.give r name y) := by
  have hentries : ∀ e ∈ ([] : Attributes), Within own s.nodes.size none e.2 ∧ e.2.IsFree := nofun
  obtain ⟨own', hevolves⟩ := evolves_enterHolder hs none hr hentries
  unfold give
  dsimp only
  split
  · rename_i t ht
    obtain ⟨hlt, hnone, htable⟩ := hevolves.sound.given (r, t) (mem_of_lookup ht)
    refine ⟨own', hevolves.trans (evolves_setEntry hevolves.sound hlt (.inl hnone) htable ?_ hput.isFree)⟩
    rw [hnone]
    exact hy.evolve hevolves
  · exact ⟨own', hevolves⟩

/-- What setting an attribute does is done for the owner of the item, and gives something to a family only if the item
is one. -/
private theorem evolves_sets (hs : Sound own s) (hx : Within own s.nodes.size d x) (hshared : x.IsShared → d = none)
    (hy : Within own s.nodes.size d y) (hput : y.IsPut) (h : Sets s x name y s') :
    ∃ own', Evolves (∀ f, x ≠ .family f) d own s own' s' := by
  cases h with
  | nothing => exact ⟨own, .refl hs⟩
  | shape _ _ hfamily =>
    -- No family can be put in, so objects keep their shapes.
    rw [hfamily] at hput
    cases hput
  | @table a t u shape s₁ hobject hnode _ hu =>
    subst hobject
    obtain ⟨ha, rfl⟩ := hx
    obtain ⟨own', hevolves, hlt, hownu, htableu⟩ := evolves_tableAt (k := ∀ f, Item.ref a ≠ .family f) hs hy hu
    refine ⟨own', hevolves.setNode ha (.inl rfl) ⟨hlt, hownu, htableu⟩ ?_ nofun⟩
    rw [hnode]
    rfl
  | entry hobject hnode =>
    subst hobject
    obtain ⟨ha, rfl⟩ := hx
    have hholds := hs.nodes _ ha
    rw [hnode] at hholds
    obtain ⟨ht, hown, htable⟩ := hholds
    exact ⟨own, evolves_setEntry hs ht (.inl hown) htable (by rw [hown]; exact hy) hput.isFree⟩
  | member hvalue =>
    subst hvalue
    obtain rfl := hshared trivial
    exact evolves_give hs (fun _ => nofun) hy hput
  | @trait f hfamily =>
    -- The only case in which a family is given something, which the premise excludes.
    subst hfamily
    obtain rfl := hshared trivial
    exact evolves_give hs (fun hf => absurd rfl (hf f)) hy hput

private theorem evolves_setAttribute (hs : Sound own s) (hx : Within own s.nodes.size d x)
    (hshared : x.IsShared → d = none)
    (hy : Within own s.nodes.size d y) (hput : y.IsPut) (h : s.setAttribute x name y = .ok s') :
    ∃ own', Evolves (∀ f, x ≠ .family f) d own s own' s' := by
  obtain ⟨own₁, h₁⟩ := evolves_enterItem (k := ∀ f, x ≠ .family f) (c := d) hs hx (.inl rfl)
  obtain ⟨own₂, h₂⟩ := evolves_sets h₁.sound (hx.evolve h₁) hshared (hy.evolve h₁) hput (sets_of_setAttribute h)
  exact ⟨own₂, h₁.trans h₂⟩

/-- Where something is put into an item: with the owner of its nodes, or with nobody. -/
private theorem exists_owner (hx : Within own s.nodes.size d x) :
    ∃ d', (d' = d ∨ d' = none) ∧ Within own s.nodes.size d' x ∧ (x.IsShared → d' = none) := by
  cases x with
  | value | family => exact ⟨none, .inr rfl, trivial, fun _ => rfl⟩
  | ref | bound => exact ⟨d, .inl rfl, hx, False.elim⟩

theorem item_eq_ok (h : s.item id = .ok x) : (id, x) ∈ s.ids := by
  unfold item at h
  split at h <;> cases h
  rename_i hlookup
  exact mem_of_lookup hlookup

theorem within_item (hs : Sound own s) (h : s.item id = .ok x) :
    Within own s.nodes.size (some id) x ∧ x.IsPut :=
  hs.ids _ (item_eq_ok h)

theorem mem_set {xs : List Item} {i : Value} {ys : List Item} (h : Value.setItem xs i y = .ok ys) {z : Item}
    (hz : z ∈ ys) : z = y ∨ z ∈ xs := by
  unfold Value.setItem at h
  obtain ⟨n, -, h⟩ := Except.bind_eq_ok.mp h
  split at h <;> cases h
  exact (List.mem_or_eq_of_mem_set hz).symm

/-- The path leads to a family, whose attributes belong to all its values. -/
def LeadsToFamily (s : Store) (id : String) (path : Path) : Prop :=
  ∃ x f s', s.item id = .ok x ∧ s.walk x path = .ok (.family f, s')

theorem evolves_setAt (hs : Sound own s) {path : Path} {w : Given Value} (h : s.setAt id path w = .ok s') :
    ∃ own', Evolves (¬ s.LeadsToFamily id path.dropLast) (some id) own s own' s' := by
  unfold setAt at h
  obtain ⟨root, hroot, h⟩ := Except.bind_eq_ok.mp h
  split at h
  · cases h
  rename_i last _
  obtain ⟨⟨x, s₁⟩, hwalk, h⟩ := Except.bind_eq_ok.mp h
  obtain ⟨own₁, d, h₁, hd, hx⟩ :=
    evolves_walk (k := ¬ s.LeadsToFamily id path.dropLast) hs (within_item hs hroot).1 hwalk
  obtain ⟨d', hd', hx, hshared⟩ := exists_owner hx
  have hdid : d' = some id ∨ d' = none := by
    rcases hd' with rfl | rfl
    · exact hd
    · exact .inr rfl
  obtain ⟨v, -, h⟩ := Except.bind_eq_ok.mp h
  -- What is put in has the owner of what it is put into.
  obtain ⟨own₂, h₂, hy, hput⟩ := evolves_allocate h₁.sound d' v
  have hx₂ := hx.evolve h₂
  obtain ⟨own₃, h₃⟩ := evolves_enterItem (c := d') h₂.sound hx₂ (.inl rfl)
  have h₁₃ := h₁.trans ((h₂.trans h₃).weaken hdid)
  dsimp only at h
  split at h
  · rename_i a xs _ _ hform
    obtain ⟨ys, hys, h⟩ := Except.bind_eq_ok.mp h
    cases h
    refine ⟨own₃, h₁₃.trans ((evolves_setList h₃.sound (hx₂.evolve h₃) hform ?_).weaken hdid)⟩
    intro z hz
    rcases mem_set hys hz with rfl | hz
    · exact .inr ⟨hy.evolve h₃, hput.isFree⟩
    · exact .inl hz
  · obtain ⟨i, -, h⟩ := Except.bind_eq_ok.mp h
    cases h
  · obtain ⟨name, -, h⟩ := Except.bind_eq_ok.mp h
    obtain ⟨own₄, h₄⟩ := evolves_setAttribute h₃.sound (hx₂.evolve h₃) hshared (hy.evolve h₃) hput h
    refine ⟨own₄, h₁₃.trans ((h₄.weaken hdid).mono ?_)⟩
    rintro hpath f rfl
    exact hpath ⟨root, f, s₁, hroot, hwalk⟩

private theorem evolves_callAppend (hs : Sound own s) (hx : Within own s.nodes.size d x)
    (h : s.callAppend x v = .ok s') : ∃ own', Evolves k d own s own' s' := by
  unfold callAppend at h
  split at h
  · rename_i f owner
    obtain ⟨own₁, h₁, hy, hput⟩ := evolves_allocate (k := k) hs d v
    have howner : Within own s.nodes.size d owner := hx
    obtain ⟨own₂, h₂⟩ := evolves_enterItem (k := k) (c := d) h₁.sound (howner.evolve h₁) (.inl rfl)
    dsimp only at h
    split at h
    · rename_i a xs hform
      cases h
      refine ⟨own₂, (h₁.trans h₂).trans (evolves_setList h₂.sound ((howner.evolve h₁).evolve h₂) hform ?_)⟩
      intro z hz
      rcases List.mem_append.mp hz with hz | hz
      · exact .inl hz
      · cases List.mem_singleton.mp hz
        exact .inr ⟨hy.evolve h₂, hput.isFree⟩
    · cases h
  · cases h

theorem evolves_appendAt (hs : Sound own s) {path : Path} {w : Given Value} (h : s.appendAt id path w = .ok s') :
    ∃ own', Evolves k (some id) own s own' s' := by
  unfold appendAt at h
  obtain ⟨root, hroot, h⟩ := Except.bind_eq_ok.mp h
  split at h
  · cases h
  obtain ⟨⟨x, s₁⟩, hwalk, h⟩ := Except.bind_eq_ok.mp h
  obtain ⟨⟨called, s₂⟩, hcalled, h⟩ := Except.bind_eq_ok.mp h
  obtain ⟨v, -, h⟩ := Except.bind_eq_ok.mp h
  obtain ⟨own₁, d₁, h₁, hd₁, hx⟩ := evolves_walk hs (within_item hs hroot).1 hwalk
  obtain ⟨own₂, d₂, h₂, hd₂, hcalled⟩ := evolves_attributeOf h₁.sound hx hcalled
  obtain ⟨own₃, h₃⟩ := evolves_callAppend h₂.sound hcalled h
  exact ⟨own₃, h₁.trans ((h₂.trans (h₃.weaken hd₂)).weaken hd₁)⟩

theorem evolves_assign (hs : Sound own s) (hx : Within own s.nodes.size (some id) x) (hput : x.IsPut)
    (writes : Entries) : ∃ own', Evolves k (some id) own s own' (s.assign x writes) := by
  have hfamily : ∀ f, x ≠ .family f := by
    rintro f rfl
    exact hput
  unfold assign
  induction writes generalizing own s with
  | nil => exact ⟨own, .refl hs⟩
  | cons e writes ih =>
    obtain ⟨d, hd, hxd, hshared⟩ := exists_owner hx
    obtain ⟨own₁, h₁, hy, hyput⟩ := evolves_allocate (k := k) hs d e.2
    have h₁' := h₁.weaken hd
    rw [List.foldl_cons]
    -- A write that is refused still leaves the nodes of its value behind.
    cases hset : (s.allocate e.2).2.setAttribute x e.1 (s.allocate e.2).1 with
    | error failure =>
      simp only [hset]
      obtain ⟨own₂, h₂⟩ := ih h₁.sound (hx.evolve h₁)
      exact ⟨own₂, h₁'.trans h₂⟩
    | ok s₂ =>
      simp only [hset]
      obtain ⟨own₂, h₂⟩ := evolves_setAttribute h₁.sound (hxd.evolve h₁) hshared hy hyput hset
      obtain ⟨own₃, h₃⟩ := ih h₂.sound ((hx.evolve h₁).evolve h₂)
      exact ⟨own₃, h₁'.trans (((h₂.weaken hd).mono fun _ => hfamily).trans h₃)⟩

theorem eq_enterItem_of_elements {xs : List Item} (h : s.elements x = .ok (xs, s')) : s' = s.enterItem x := by
  unfold elements at h
  dsimp only at h
  split at h
  · cases h; rfl
  · cases h; rfl
  · obtain ⟨_, -, h⟩ := Except.bind_eq_ok.mp h
    cases h
    rfl
  · cases h

private theorem evolves_viewRequest (hs : Sound own s) (hx : Within own s.nodes.size d x) {request : RequestView Item}
    (h : s.viewRequest x = .ok (request, s')) : ∃ own', Evolves k d own s own' s' := by
  unfold viewRequest at h
  obtain ⟨⟨collections, s₁⟩, hcollections, h⟩ := Except.bind_eq_ok.mp h
  obtain ⟨⟨mandatory, s₂⟩, hmandatory, h⟩ := Except.bind_eq_ok.mp h
  obtain ⟨own₁, d', h₁, hd', hy⟩ := evolves_attributeOf (k := k) hs hx hcollections
  obtain ⟨own₂, h₂⟩ := evolves_enterItem (k := k) (c := d') h₁.sound hy (.inl rfl)
  cases eq_enterItem_of_elements hmandatory
  cases h
  exact ⟨own₂, h₁.trans (h₂.weaken hd')⟩

theorem evolves_view (hs : Sound own s) {shown : View Item} (h : s.view id = .ok (shown, s')) :
    ∃ own', Evolves k (some id) own s own' s' := by
  unfold view at h
  obtain ⟨x, hx, h⟩ := Except.bind_eq_ok.mp h
  dsimp only at h
  split at h
  · split at h
    · obtain ⟨⟨request, s₁⟩, hrequest, h⟩ := Except.bind_eq_ok.mp h
      cases h
      exact evolves_viewRequest hs (within_item hs hx).1 hrequest
    · cases h
      exact ⟨own, .refl hs⟩
  · cases h
    exact ⟨own, .refl hs⟩

theorem sound_keep (hs : Sound own s) (hx : Within own s.nodes.size (some id) x) (hput : x.IsPut) :
    Sound own (s.keep id x) := by
  refine ⟨hs.nodes, hs.given, ?_⟩
  intro e he
  rcases List.mem_cons.mp he with rfl | he
  · exact ⟨hx, hput⟩
  · exact hs.ids e (List.mem_filter.mp he).1

end RequestSamples.Session.Store
