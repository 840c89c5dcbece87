import RequestSamples.Proofs.Entries
import RequestSamples.Proofs.Session.Access
import RequestSamples.Proofs.Session.Ownership

/-!
# What is found on the way

Whatever an item answers to a name belongs to the owner of the item or to nobody (`within_answers`).  So a path from a
message leads to nodes of that message or of nobody, and going there leaves the nodes of other messages alone
(`evolves_walk`).
-/

namespace RequestSamples.Session.Store

variable {k : Prop} {own : Owners} {s s' : Store} {c d : Option String} {x y : Item} {a t : Nat} {name : String}

/-- What stands in a table belongs to the owner of the table. -/
theorem within_table (hs : Sound own s) (ht : t < s.nodes.size) :
    ∀ e ∈ s.table t, Within own s.nodes.size (own t) e.2 ∧ e.2.IsFree := by
  have hholds := hs.nodes t ht
  unfold table
  split
  · rename_i hnode
    rw [hnode] at hholds
    exact hholds
  · intro e he
    cases he

/-- What a member or a family has been given belongs to nobody. -/
private theorem within_given? (hs : Sound own s) {r : Holder} (h : s.given? r name = some y) :
    Within own s.nodes.size none y := by
  obtain ⟨t, ht, h⟩ := Option.bind_eq_some_iff.mp h
  obtain ⟨hlt, hnone, -⟩ := hs.given (r, t) (mem_of_lookup ht)
  rw [← hnone]
  exact (within_table hs hlt _ (mem_of_lookup h)).1

/-- What an item answers belongs to the owner of the item or to nobody. -/
theorem within_answers (hs : Sound own s) (hx : Within own s.nodes.size d x) (h : Answers s x name y) :
    ∃ d', (d' = d ∨ d' = none) ∧ Within own s.nodes.size d' y := by
  cases h with
  | value | family | function => exact ⟨d, .inl rfl, trivial⟩
  | @entry a t shape _ hobject hnode hy =>
    subst hobject
    obtain ⟨ha, rfl⟩ := hx
    have hholds := hs.nodes a ha
    rw [hnode] at hholds
    exact ⟨own t, .inl hholds.2.1, (within_table hs hholds.1 _ (mem_of_lookup hy)).1⟩
  | @table a t shape hobject hnode =>
    subst hobject
    obtain ⟨ha, rfl⟩ := hx
    have hholds := hs.nodes a ha
    rw [hnode] at hholds
    exact ⟨own a, .inl rfl, hholds.1, hholds.2.1⟩
  | given hy => exact ⟨none, .inr rfl, within_given? hs hy⟩
  | memberTable _ ht =>
    obtain ⟨hlt, hnone, -⟩ := hs.given _ (mem_of_lookup ht)
    exact ⟨none, .inr rfl, hlt, hnone⟩
  | bound => exact ⟨d, .inl rfl, hx⟩
  | owner hbound =>
    subst hbound
    exact ⟨d, .inl rfl, hx⟩

theorem evolves_attributeOf (hs : Sound own s) (hx : Within own s.nodes.size d x)
    (h : s.attributeOf x name = .ok (y, s')) :
    ∃ own' d', Evolves k d own s own' s' ∧ (d' = d ∨ d' = none) ∧ Within own' s'.nodes.size d' y := by
  obtain ⟨own', hevolves⟩ := evolves_enterItem (k := k) (c := d) hs hx (.inl rfl)
  obtain ⟨rfl, hy⟩ := eq_enterItem_of_attributeOf h
  obtain ⟨d', hd', hy⟩ := within_answers hevolves.sound (hx.evolve hevolves) (answers_of_attributeOf? hy)
  exact ⟨own', d', hevolves, hd', hy⟩

private theorem mem_of_item {xs : List Item} {i : Value} (h : Value.item xs i = .ok y) : y ∈ xs := by
  unfold Value.item at h
  obtain ⟨n, -, h⟩ := Except.bind_eq_ok.mp h
  split at h
  · rename_i hy
    cases h
    obtain ⟨j, -, hj⟩ := Option.bind_eq_some_iff.mp hy
    exact List.mem_of_getElem? hj
  · cases h

theorem node_of_form_list {xs : List Item} (h : s.form (.ref a) = .list xs) : s.node a = .list xs := by
  rw [form] at h
  split at h <;> cases h
  assumption

theorem node_of_form_table {es : Attributes} (h : s.form (.ref a) = .table es) : s.node a = .table es := by
  rw [form] at h
  split at h <;> cases h
  assumption

private theorem eq_ref_of_form_list {xs : List Item} (h : s.form x = .list xs) : ∃ a, x = .ref a := by
  cases x with
  | ref a => exact ⟨a, rfl⟩
  | _ => cases h

private theorem evolves_follow (hs : Sound own s) (hx : Within own s.nodes.size d x) {step : Value}
    (h : s.follow x step = .ok (y, s')) :
    ∃ own' d', Evolves k d own s own' s' ∧ (d' = d ∨ d' = none) ∧ Within own' s'.nodes.size d' y := by
  obtain ⟨own', hevolves⟩ := evolves_enterItem (k := k) (c := d) hs hx (.inl rfl)
  unfold follow at h
  dsimp only at h
  split at h
  · rename_i xs hform
    obtain ⟨z, hz, h⟩ := Except.bind_eq_ok.mp h
    cases h
    obtain ⟨a, rfl⟩ := eq_ref_of_form_list hform
    have hnode := node_of_form_list hform
    obtain ⟨ha, hown⟩ := hx.evolve hevolves
    have hholds := hevolves.sound.nodes a ha
    rw [hnode, hown] at hholds
    exact ⟨own', d, hevolves, .inl rfl, (hholds _ (mem_of_item hz)).1⟩
  · obtain ⟨n, -, h⟩ := Except.bind_eq_ok.mp h
    cases h
  · obtain ⟨name, -, h⟩ := Except.bind_eq_ok.mp h
    obtain ⟨own'', d', h', hd', hy⟩ := evolves_attributeOf hevolves.sound (hx.evolve hevolves) h
    exact ⟨own'', d', hevolves.trans h', hd', hy⟩

/-- A path leads from a message to what belongs to it or to nobody. -/
theorem evolves_walk (hs : Sound own s) (hx : Within own s.nodes.size d x) {path : Path}
    (h : s.walk x path = .ok (y, s')) :
    ∃ own' d', Evolves k d own s own' s' ∧ (d' = d ∨ d' = none) ∧ Within own' s'.nodes.size d' y := by
  unfold walk at h
  induction path generalizing own s d x with
  | nil =>
    cases h
    exact ⟨own, d, .refl hs, .inl rfl, hx⟩
  | cons step path ih =>
    rw [List.foldlM_cons] at h
    obtain ⟨⟨z, s₁⟩, hz, h⟩ := Except.bind_eq_ok.mp h
    obtain ⟨own₁, d₁, h₁, hd₁, hz⟩ := evolves_follow hs hx hz
    obtain ⟨own₂, d₂, h₂, hd₂, hy⟩ := ih h₁.sound hz h
    refine ⟨own₂, d₂, h₁.trans (h₂.weaken hd₁), ?_, hy⟩
    rcases hd₂ with rfl | rfl
    · exact hd₁
    · exact .inr rfl

end RequestSamples.Session.Store
