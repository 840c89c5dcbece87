import RequestSamples.Proofs.Session.Beside
import RequestSamples.Proofs.Session.Settled

/-!
# Steps keep messages to their ids

Edits put in what is new or, if they share, what stands in a table already; neither leads to a message as a whole or to
the attributes of an object.  So no step lets anything but its id lead to a message (`settled_step`).  A table of
attributes gets a second object only by sharing it under its own name, and a message something that is bound to another
one only by sharing that (`Entangles`).
-/

namespace RequestSamples.Session

/-- The step lets an object have the very table of attributes that a message has, or something bound to a message. -/
def Entangles (s : Session) : Step → Prop
  | .share id source path => ∃ x name y store, s.store.lent id source path = .ok (x, name, y, store) ∧
    (name = "__dict__" ∨ ¬ y.IsFree)
  | _ => False

namespace Store

variable {k : Prop} {s s' : Store} {x y : Item} {a b t : Nat} {name id : String} {v : Value}

/-- The item can be set under a name. -/
structure Settable (k : Prop) (s : Store) (name : String) (y : Item) : Prop where
  entry : name ≠ "__dict__" → s.Storable k y
  table : k → name = "__dict__" → s.Loose y

private theorem Loose.settable (h : s.Loose y) : Settable k s name y := ⟨fun _ => h.storable, fun _ _ => h⟩

theorem Settable.opens (hy : Settable k s name y) (h : Opens k s.nodes.size s s') : Settable k s' name y :=
  ⟨fun hname => (hy.entry hname).opens h, fun hk hname => (hy.table hk hname).opens h⟩

private theorem settled_setEntry (hs : Settled k s) (hy : s.Storable k y) : Settled k (s.setEntry t name y) := by
  refine settled_setNode hs ⟨?_, nofun⟩ fun _ => ⟨_, rfl⟩
  intro z hz
  obtain ⟨e, he, rfl⟩ := List.mem_map.mp hz
  rcases Entries.mem_put he with rfl | he
  · exact .inr hy
  · unfold table at he
    split at he
    · rename_i hnode
      rw [hnode]
      exact .inl (List.mem_map_of_mem he)
    · cases he

private theorem settled_give (hs : Settled k s) (hy : s.Storable k y) (r : Holder) : Settled k (s.give r name y) := by
  have h : Opens k s.nodes.size s (s.enterHolder r []) := opens_enterHolder hs r fun _ he => nomatch he
  unfold give
  dsimp only
  split
  · exact settled_setEntry h.settled (hy.opens h)
  · exact h.settled

private theorem settled_sets (hs : Settled k s) (hy : Settable k s name y) (h : Sets s x name y s') : Settled k s' := by
  cases h with
  | nothing => exact hs
  | @shape a t shape _ _ hnode =>
    refine settled_setNode hs ⟨nofun, ?_⟩ ?_
    · rintro _ _ ⟨⟩
      exact .inl ⟨shape, hnode⟩
    · rintro ⟨es, hes⟩
      cases hnode.symm.trans hes
  | @table a t u shape s₁ _ hnode hname hu hgiven =>
    obtain ⟨rfl, rfl, htable⟩ := eq_ref_of_tableAt hu
    have hopens := opens_enterItem hs (.ref u)
    refine settled_setNode hopens.settled ⟨nofun, ?_⟩ ?_
    · rintro _ _ ⟨⟩
      exact .inr ⟨htable, fun ⟨r, hr⟩ => hgiven _ hr rfl, fun hk => (hy.table hk hname).opens hopens⟩
    · -- An object is not gone into a second time.
      rintro ⟨es, hes⟩
      cases (hopens.objects hnode).symm.trans hes
  | entry _ _ hname => exact settled_setEntry hs (hy.entry hname)
  | member _ hname | trait _ hname => exact settled_give hs (hy.entry hname) _

private theorem settled_setAttribute (hs : Settled k s) (hy : Settable k s name y)
    (h : s.setAttribute x name y = .ok s') : Settled k s' := by
  have hopens := opens_enterItem hs x
  exact settled_sets hopens.settled (hy.opens hopens) (sets_of_setAttribute h)

/-- A list keeps its items, or gets others that can be put there. -/
private theorem settled_setList (hs : Settled k s) {xs ys : List Item} (hform : s.form (.ref a) = .list xs)
    (hys : ∀ z ∈ ys, z ∈ xs ∨ s.Storable k z) : Settled k (s.setNode a (.list ys)) := by
  have hnode := node_of_form_list hform
  refine settled_setNode hs ⟨?_, nofun⟩ ?_
  · rw [hnode]
    exact hys
  · rintro ⟨es, hes⟩
    cases hnode.symm.trans hes

private theorem settled_setAt (hs : Settled k s) {path : Path} {w : Given Value} (h : s.setAt id path w = .ok s') :
    Settled k s' := by
  unfold setAt at h
  obtain ⟨root, -, h⟩ := Except.bind_eq_ok.mp h
  split at h
  · cases h
  obtain ⟨⟨x, s₁⟩, hwalk, h⟩ := Except.bind_eq_ok.mp h
  have h₁ := (entered_walk hwalk).opens hs
  obtain ⟨v, -, h⟩ := Except.bind_eq_ok.mp h
  obtain ⟨h₂, hloose, -, -⟩ := opens_allocate h₁.settled v
  have h₃ := opens_enterItem h₂.settled x
  have hy := hloose.opens h₃
  dsimp only at h
  split at h
  · rename_i a xs _ _ hform
    obtain ⟨ys, hys, h⟩ := Except.bind_eq_ok.mp h
    cases h
    refine settled_setList h₃.settled hform fun z hz => ?_
    rcases mem_set hys hz with rfl | hz
    · exact .inr hy.storable
    · exact .inl hz
  · obtain ⟨i, -, h⟩ := Except.bind_eq_ok.mp h
    cases h
  · obtain ⟨name, -, h⟩ := Except.bind_eq_ok.mp h
    exact settled_setAttribute h₃.settled hy.settable h

private theorem settled_callAppend (hs : Settled k s) (h : s.callAppend x v = .ok s') : Settled k s' := by
  unfold callAppend at h
  split at h
  · rename_i f owner
    obtain ⟨h₁, hloose, -, -⟩ := opens_allocate hs v
    have h₂ := opens_enterItem h₁.settled owner
    have hy := hloose.opens h₂
    dsimp only at h
    split at h
    · rename_i a xs hform
      cases h
      refine settled_setList h₂.settled hform fun z hz => ?_
      rcases List.mem_append.mp hz with hz | hz
      · exact .inl hz
      · cases List.mem_singleton.mp hz
        exact .inr hy.storable
    · cases h
  · cases h

private theorem settled_appendAt (hs : Settled k s) {path : Path} {w : Given Value}
    (h : s.appendAt id path w = .ok s') : Settled k s' := by
  unfold appendAt at h
  obtain ⟨root, -, h⟩ := Except.bind_eq_ok.mp h
  split at h
  · cases h
  obtain ⟨⟨x, s₁⟩, hwalk, h⟩ := Except.bind_eq_ok.mp h
  obtain ⟨⟨called, s₂⟩, hcalled, h⟩ := Except.bind_eq_ok.mp h
  obtain ⟨v, -, h⟩ := Except.bind_eq_ok.mp h
  obtain ⟨rfl, -⟩ := eq_enterItem_of_attributeOf hcalled
  have h₁ := (entered_walk hwalk).opens hs
  exact settled_callAppend (opens_enterItem h₁.settled x).settled h

private theorem settled_assign (hs : Settled k s) (x : Item) (writes : Entries) : Settled k (s.assign x writes) := by
  unfold assign
  induction writes generalizing s with
  | nil => exact hs
  | cons e writes ih =>
    obtain ⟨h, hloose, -, -⟩ := opens_allocate hs e.2
    rw [List.foldl_cons]
    refine ih ?_
    dsimp only
    split
    · rename_i s₁ hset
      exact settled_setAttribute h.settled hloose.settable hset
    · exact h.settled

/-- Whatever node a message answers with stands in a table, but for the table of its attributes. -/
private theorem mentions_of_answers (hput : x.IsPut) (hname : name ≠ "__dict__") (h : Answers s x name (.ref b)) :
    s.Mentions b := by
  cases h with
  | entry _ _ hy => exact mentions_of_mem_table (mem_of_lookup hy) rfl
  | table _ _ hdict | memberTable hdict => exact absurd hdict hname
  | given hy =>
    obtain ⟨t, -, hy⟩ := Option.bind_eq_some_iff.mp hy
    exact mentions_of_mem_table (mem_of_lookup hy) rfl
  | owner hbound =>
    subst hbound
    cases hput

private theorem Settled.storable_of_mentions (hs : Settled k s)
    (hbound : ∀ {f n owner}, y = .bound f n owner → ¬ k ∧ s.Known owner) (h : ∀ b, y = .ref b → s.Mentions b) :
    s.Storable k y := by
  refine ⟨hbound, fun b hb => ?_, ?_⟩
  · obtain ⟨hlt, hroot⟩ := hs.items (h b hb)
    exact ⟨hlt, hroot, fun hgiven => (hs.given hgiven).2.2.1 (h b hb)⟩
  · rintro hk b hb ⟨c, shape, hc⟩
    exact (hs.apart hk hc).2.1 (h b hb)

/-- Whatever a known item answers with is known. -/
theorem Settled.known_of_answers (hs : Settled k s) (hx : s.Known x) (hfree : x.IsFree) (h : Answers s x name y) :
    s.Known y := by
  rintro b rfl
  cases h with
  | entry _ _ hy => exact (hs.items (mentions_of_mem_table (mem_of_lookup hy) rfl)).1
  | table _ hnode => exact lt_of_isTable (hs.tables hnode)
  | given hy =>
    obtain ⟨t, -, hy⟩ := Option.bind_eq_some_iff.mp hy
    exact (hs.items (mentions_of_mem_table (mem_of_lookup hy) rfl)).1
  | memberTable _ ht => exact lt_of_isTable (hs.given ⟨_, mem_of_lookup ht⟩).1
  | owner hbound =>
    subst hbound
    exact hfree.elim

/-- Whatever a known item answers with is bound to nothing but known items. -/
theorem Settled.known_owner_of_answers (hs : Settled k s) {f : Family} {n : String} {owner : Item} (hx : s.Known x)
    (hfree : x.IsFree) (h : Answers s x name (.bound f n owner)) : s.Known owner := by
  cases h with
  | entry _ _ hy => exact (hs.bound (mem_items_of_mem_table (mem_of_lookup hy))).2
  | given hy =>
    obtain ⟨t, -, hy⟩ := Option.bind_eq_some_iff.mp hy
    exact (hs.bound (mem_items_of_mem_table (mem_of_lookup hy))).2
  | bound => exact hx
  | owner hbound =>
    subst hbound
    exact hfree.elim
  | function => exact nofun

/-- If nothing bound stands in lists and tables, the methods of a message answer for the message itself. -/
theorem Settled.receiver_eq (hs : Settled True s) (hx : s.item id = .ok x) {method : String} {owner : Item}
    (h : s.receiver x method = .ok (owner, s')) : owner = x := by
  have hfree := (hs.kept _ (item_eq_ok hx)).1.isFree
  have hs := (opens_enterItem hs x).settled
  unfold receiver at h
  obtain ⟨⟨y, s₁⟩, hy, h⟩ := Except.bind_eq_ok.mp h
  obtain ⟨rfl, hy⟩ := eq_enterItem_of_attributeOf hy
  split at h
  · rename_i heq
    cases heq
    cases h
    cases answers_of_attributeOf? hy with
    | entry _ _ hy => exact absurd trivial (hs.bound (mem_items_of_mem_table (mem_of_lookup hy))).1
    | given hy =>
      obtain ⟨t, -, hy⟩ := Option.bind_eq_some_iff.mp hy
      exact absurd trivial (hs.bound (mem_items_of_mem_table (mem_of_lookup hy))).1
    | bound => rfl
    | owner hbound =>
      subst hbound
      exact hfree.elim
  · cases h

private theorem lent_of_share {source : String} {path : Path} (h : s.share id source path = .ok s') :
    ∃ z name y s₁, s.lent id source path = .ok (z, name, y, s₁) ∧ s₁.setAttribute z name y = .ok s' := by
  obtain ⟨⟨z, name, y, s₁⟩, hlent, hset⟩ := Except.bind_eq_ok.mp h
  exact ⟨z, name, y, s₁, hlent, hset⟩

/-- What is lent is what a kept message answers to a name, and before that someone has only gone into items. -/
private theorem exists_of_lent {source : String} {path : Path} (h : s.lent id source path = .ok (x, name, y, s')) :
    ∃ z s₁, Entered s s₁ ∧ s₁.item source = .ok z ∧ s' = s₁.enterItem z ∧ s'.attributeOf? z name = some y := by
  unfold lent at h
  obtain ⟨root, -, h⟩ := Except.bind_eq_ok.mp h
  split at h
  · cases h
  obtain ⟨⟨x, s₁⟩, hwalk, h⟩ := Except.bind_eq_ok.mp h
  obtain ⟨z, hz, h⟩ := Except.bind_eq_ok.mp h
  obtain ⟨name, -, h⟩ := Except.bind_eq_ok.mp h
  obtain ⟨⟨y, s₂⟩, hy, h⟩ := Except.bind_eq_ok.mp h
  cases h
  obtain ⟨rfl, hy⟩ := eq_enterItem_of_attributeOf hy
  exact ⟨z, s₁, entered_walk hwalk, hz, rfl, hy⟩

private theorem settled_share (hs : Settled k s) {source : String} {path : Path}
    (hlent : k → ∀ {z name y s₁}, s.lent id source path = .ok (z, name, y, s₁) → name ≠ "__dict__" ∧ y.IsFree)
    (h : s.share id source path = .ok s') : Settled k s' := by
  obtain ⟨w, name, y, s₂, hok, hset⟩ := lent_of_share h
  obtain ⟨z, s₁, hentered, hz, rfl, hy⟩ := exists_of_lent hok
  have h₁ := hentered.opens hs
  obtain ⟨hput, hknown⟩ := h₁.settled.kept _ (item_eq_ok hz)
  have h₂ := opens_enterItem h₁.settled z
  have hanswers := answers_of_attributeOf? hy
  refine settled_setAttribute h₂.settled ⟨?_, fun hk hname => absurd hname (hlent hk hok).1⟩ hset
  intro hname
  refine h₂.settled.storable_of_mentions ?_ ?_
  · rintro f n owner rfl
    have hz : Known _ z := Known.mono hknown h₂.size
    exact ⟨fun hk => (hlent hk hok).2, h₂.settled.known_owner_of_answers hz hput.isFree hanswers⟩
  · rintro b rfl
    exact mentions_of_answers hput hname hanswers

private theorem settled_keep (hs : Settled k s) (hloose : s.Loose x) (hput : x.IsPut) : Settled k (s.keep id x) := by
  have hroot : ∀ {b}, (s.keep id x).IsRoot b → x = .ref b ∨ s.IsRoot b := by
    rintro b ⟨id', hid⟩
    rcases List.mem_cons.mp hid with heq | hid
    · cases heq
      exact .inl rfl
    · exact .inr ⟨id', (List.mem_filter.mp hid).1⟩
  refine ⟨?_, hs.tables, ?_, hs.bound, ?_, ?_, ?_⟩
  · intro b hb
    refine ⟨(hs.items hb).1, fun hnew => ?_⟩
    rcases hroot hnew with hx | hold
    · exact (hloose.apart b hx).1 hb
    · exact (hs.items hb).2 hold
  · intro hk c shape t hc
    refine ⟨fun hnew => ?_, (hs.apart hk hc).2⟩
    rcases hroot hnew with hx | hold
    · exact (hloose.apart t hx).2 ⟨c, shape, hc⟩
    · exact (hs.apart hk hc).1 hold
  · intro t ht
    obtain ⟨htable, hold, hrest⟩ := hs.given ht
    refine ⟨htable, fun hnew => ?_, hrest⟩
    rcases hroot hnew with hx | hroot
    · exact (hloose.known t hx).2.2 ht
    · exact hold hroot
  · intro e he
    rcases List.mem_cons.mp he with rfl | he
    · exact ⟨hput, fun b hb => (hloose.known b hb).1⟩
    · exact hs.kept e (List.mem_filter.mp he).1
  · intro id₁ id₂ b h₁ h₂
    rcases List.mem_cons.mp h₁ with heq₁ | hold₁ <;> rcases List.mem_cons.mp h₂ with heq₂ | hold₂
    · cases heq₁
      cases heq₂
      rfl
    · cases heq₁
      exact absurd ⟨id₂, (List.mem_filter.mp hold₂).1⟩ (hloose.known b rfl).2.1
    · cases heq₂
      exact absurd ⟨id₁, (List.mem_filter.mp hold₁).1⟩ (hloose.known b rfl).2.1
    · exact hs.distinct (List.mem_filter.mp hold₁).1 (List.mem_filter.mp hold₂).1

private theorem settled_put (hs : Settled k s) (id : String) (v : Value) : Settled k (s.put id v) := by
  obtain ⟨h, hloose, -, hput⟩ := opens_allocate hs v
  exact settled_keep h.settled hloose hput

theorem settled_empty : Settled k empty := by
  have hnode : ∀ a, empty.node a = .whole .null := fun a => rfl
  refine ⟨?_, nofun, fun _ => nofun, nofun, ?_, nofun, nofun⟩
  · rintro b ⟨c, hc⟩
    cases hc
  · rintro b ⟨r, hr⟩
    cases hr

end Store

variable {t : Tables} {k : Prop} {s : Session} {st : Step}

private theorem settled_stored {r : Except Failure Store} (hs : Store.Settled k s.store)
    (h : ∀ store, r = .ok store → Store.Settled k store) : Store.Settled k (s.stored r).2.store := by
  cases r with
  | error e => exact hs
  | ok store => exact h store rfl

theorem settled_step (hs : Store.Settled k s.store) (hst : k → ¬ s.Entangles st) :
    Store.Settled k (s.step t st).2.store := by
  cases st with
  | populate id key source =>
    rw [step_populate]
    split
    · exact hs
    · rename_i p i _
      dsimp only [withStore]
      unfold Store.populate
      split
      · exact hs
      · exact Store.settled_assign hs _ _
  | «show» id =>
    simp only [step]
    split
    · exact hs
    · rename_i hview
      exact ((Store.entered_view hview).opens hs).settled
  | equal => exact hs
  | set id path w => exact settled_stored hs fun _ => Store.settled_setAt hs
  | append id path w => exact settled_stored hs fun _ => Store.settled_appendAt hs
  | share id source path =>
    refine settled_stored hs fun store => Store.settled_share hs fun hk z name y s₁ hlent => ?_
    by_contra hnot
    refine hst hk ⟨z, name, y, s₁, hlent, ?_⟩
    by_cases hname : name = "__dict__"
    · exact .inl hname
    · exact .inr fun hfree => hnot ⟨hname, hfree⟩
  | _ =>
    rw [store_step (by exact id)]
    cases made? t s _ with
    | none => exact hs
    | some e => exact Store.settled_put hs e.1 e.2

/-- In every session only its id leads to a message. -/
theorem settled_run (sts : List Step) (hsts : k → s.Along t (fun s st => ¬ s.Entangles st) sts)
    (hs : Store.Settled k s.store) : Store.Settled k (s.run t sts).2.store := by
  induction sts generalizing s with
  | nil => exact hs
  | cons st sts ih => exact ih (fun hk => (hsts hk).2) (settled_step hs fun hk => (hsts hk).1)

end RequestSamples.Session
