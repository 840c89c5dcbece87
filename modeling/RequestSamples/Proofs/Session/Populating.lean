import RequestSamples.Proofs.Session.Bystanders

/-!
# Populating overwrites, and touches nothing else

A populator sets the fields that it is responsible for, each to a new value that follows from its draws.  All else that
the message holds stays what it is, and so do all other messages, even those that have been made to share lists with it
(`populating_overwrites`).  So it does not matter whether the message has been populated before.  Only what has been
made to use the very table of attributes of the message, or a method of the message for one of its own, shows the new
fields as well (`populating_shows_in_others`).
-/

namespace RequestSamples

/-- The fields that a populator sets. -/
def Populator.responsible : Populator → List String
  | noop => []
  | produce => ["acks", "topic_data"]
  | listOffsets => ["replica_id", "topics"]
  | offsetFetch => ["group_id", "topics"]
  | metadata => ["topics"]
  | updateMetadata => ["topic_states"]
  | leaveGroup => ["members"]
  | describeGroups => ["groups"]
  | consumerGroupDescribe => ["group_ids"]

namespace Session

open Entries (Agree agree_self putAll)

namespace Store

variable {k : Prop} {s s' s'' : Store} {x y : Item} {a b t : Nat} {shape : Shape} {id : String} {ws ws' : Entries}
  {p : Populator} {vs : List Value} {σ : Type} {draws : NameSource σ} {source source' : σ}

private theorem names_of_fields (hvs : vs.length = p.demand.length) (h : p.fields vs = .ok ws) :
    ws.map (·.1) = p.responsible := by
  cases p with
  | noop =>
    cases h
    rfl
  | produce =>
    obtain ⟨name, rfl⟩ := List.length_eq_one_iff.mp hvs
    cases hb : Populator.nameBatch name <;> simp only [Populator.fields, hb] at h <;> cases h
    rfl
  | listOffsets | updateMetadata | leaveGroup =>
    obtain ⟨v, rfl⟩ := List.length_eq_one_iff.mp hvs
    cases h
    rfl
  | offsetFetch | metadata | describeGroups | consumerGroupDescribe =>
    obtain ⟨v, w, rfl⟩ := Populator.eq_pair_of_length hvs
    cases h
    rfl

private theorem nodup_responsible (p : Populator) : p.responsible.Nodup := by
  cases p <;> decide

private theorem isOrdinary_of_responsible {name : String} (h : name ∈ p.responsible) : IsOrdinary name := by
  have hall : ∀ name ∈ p.responsible, name ≠ "__class__" ∧ name ≠ "__dict__" ∧ name ≠ "__weakref__" := by
    cases p <;> decide
  exact hall name h

private theorem responsible_ne_nil (h : p.shape? = some shape) : p.responsible ≠ [] := by
  cases p with
  | noop => cases h
  | _ => exact List.cons_ne_nil _ _

/-- The message `x` under an id has had fields set, and all else is what it has been. -/
structure Filled (s : Store) (id : String) (x : Item) (ws : Entries) (s' : Store) : Prop where
  item : s'.item id = .ok x
  shape : s'.shapeOf? x = s.shapeOf? x
  /-- The fields that have been set are new values. -/
  set : ∀ {name v}, (name, v) ∈ ws →
    ∃ y, (s'.attributes x).lookup name = some y ∧ s'.StandsFor s.nodes.size v y
  /-- All other fields name what they have named. -/
  kept : ∀ {name}, name ∉ ws.map (·.1) →
    Option.Rel (s'.Renders s.nodes.size) ((s.attributes x).lookup name) ((s'.attributes x).lookup name)
  /-- They read as before as well, unless they lead back to the fields of the message. -/
  read : ∀ {name y y'}, name ∉ ws.map (·.1) → (s.attributes x).lookup name = some y →
    (s'.attributes x).lookup name = some y' → ¬ s.LeadsInto y x → ∀ room, s'.readWithin room y' = s.readWithin room y
  /-- No node but those of the message itself has changed, whoever has referred to it. -/
  nodes : ∀ b, b < s.nodes.size → x ≠ .ref b → ¬ s.OwnTable x b → s'.node b = s.node b
  given : s'.given = s.given
  others : ∀ {id' x'}, id' ≠ id → s.item id' = .ok x' → ¬ s.LeadsInto x' x → s.Same s' id' x'
  /-- A method of another message gives what it has given, unless it answers for the message or for what leads to the
  fields of the message. -/
  methods : ∀ {id' x' shape' method}, id' ≠ id → s.item id' = .ok x' → s.shapeOf? x' = some shape' →
    ¬ s.LeadsInto x' x →
    (∀ {owner e}, s.receiver x' method = .ok (owner, e) → owner ≠ x ∧ ¬ s.LeadsInto owner x) →
      s'.throughMethod x' method = s.throughMethod x' method

theorem Rebinds.kept (h : Rebinds s.nodes.size s a shape ws s') {name : String} (hname : name ∉ ws.map (·.1)) :
    Option.Rel (s'.Renders s.nodes.size) ((s.attributes (.ref a)).lookup name)
      ((s'.attributes (.ref a)).lookup name) := by
  have hnames : name ∉ (ws.map fun e => (e.1, Item.value e.2)).map (·.1) := by rwa [List.map_map]
  have hlookup := h.attributes.lookup name
  rw [rebound, Entries.lookup_putAll_of_not_mem hnames] at hlookup
  rcases hlookup with ⟨hy, hy'⟩ | ⟨y, y', hy, hy', hrenders⟩
  · rw [hy, hy']
    exact .none
  · rw [hy, hy']
    exact .some hrenders

section

variable (h : Rebinds s.nodes.size s a shape ws s') (hs : Settled k s) (hobject : s.ObjectAt a shape)
  (hx : s.item id = .ok (.ref a))
include h hs hobject hx

theorem Rebinds.filled (hnodup : (ws.map (·.1)).Nodup) : s.Filled id (.ref a) ws s' := by
  refine ⟨?_, h.object.shapeOf?.trans hobject.shapeOf?.symm, ?_, fun hname => h.kept hname, ?_, ?_, h.given,
    fun hid hx' hleads => h.same hs hobject hx hid hx' hleads,
    fun hid hx' hshape hleads howner => h.throughMethod hs hobject hx hid hx' hshape hleads howner⟩
  · rw [item, h.ids]
    exact hx
  · intro name v hmem
    have hnodup' : ((ws.map fun e => (e.1, Item.value e.2)).map (·.1)).Nodup := by rwa [List.map_map]
    have hmem' : (name, Item.value v) ∈ ws.map fun e => (e.1, Item.value e.2) := List.mem_map.mpr ⟨_, hmem, rfl⟩
    have hlookup := h.attributes.lookup name
    rw [rebound, Entries.lookup_putAll_of_mem hnodup' hmem'] at hlookup
    rcases hlookup with ⟨hnone, -⟩ | ⟨_, y, heq, hy, hrenders⟩
    · cases hnone
    · cases heq
      refine ⟨y, hy, ?_⟩
      rcases hrenders with rfl | ⟨w, hw, hstands⟩
      · rfl
      · cases hw
        exact hstands
  · intro name y y' hname hy hy' hleads room
    have hrenders := h.kept hname
    rw [hy, hy'] at hrenders
    cases hrenders with
    | some hrenders =>
      rcases hrenders with rfl | ⟨v, rfl, hstands⟩
      · have hmention : ∀ b, y' = .ref b → s.Mentions b := fun b => mentions_of_mem_attributes (mem_of_lookup hy)
        refine h.readWithin_eq hs hobject hx (fun b hb => (hs.items (hmention b hb)).1) ?_ hleads room
        rintro rfl
        exact (hs.items (hmention a rfl)).2 ⟨id, item_eq_ok hx⟩
      · rw [readWithin_whole hstands.form, readWithin_whole rfl]
  · intro b hb hba htable
    refine h.nodes b hb ?_ fun u hu => htable ⟨a, u, rfl, hu⟩
    rintro rfl
    exact hba rfl

end

private theorem filled_nil (hx : s.item id = .ok x) : s.Filled id x [] s := by
  refine ⟨hx, rfl, nofun, ?_, ?_, fun _ _ _ _ => rfl, rfl, fun _ hx' _ => ⟨hx', fun _ _ => rfl, fun _ => rfl, rfl⟩,
    fun _ _ _ _ _ => rfl⟩
  · intro name _
    cases (s.attributes x).lookup name with
    | none => exact .none
    | some y => exact .some (.inl rfl)
  · intro name y y' _ hy hy' _ room
    cases hy.symm.trans hy'
    rfl

private theorem populate_of_item (hx : s.item id = .ok x) :
    s.populate id p draws source =
      ((p.run draws (s.outline x) source).1, s.assign x (p.run draws (s.outline x) source).2.writes,
        (p.run draws (s.outline x) source).2.source) := by
  simp only [populate, hx]

/-- A message that a populator fits is an object, unless the populator fits everything. -/
private theorem Settled.objectAt (hs : Settled k s) (hx : s.item id = .ok x) (hp : p.shape? = some shape)
    (hfits : p.fits (s.outline x) = .ok ()) : ∃ a, x = .ref a ∧ s.ObjectAt a shape := by
  have hshape : s.shapeOf? x = some shape := by
    have h := Populator.hasShape_of_fits hp hfits
    rw [hasShape_outline] at h
    exact of_decide_eq_true h
  obtain ⟨a, rfl, ⟨fields, extras, hnode⟩ | ⟨t, hnode⟩⟩ :=
    exists_ref_of_shapeOf? (hs.kept _ (item_eq_ok hx)).1 hshape
  · exact ⟨a, rfl, .whole hnode⟩
  · obtain ⟨es, hes⟩ := hs.tables hnode
    exact ⟨a, rfl, .entered hnode hes⟩

/-- A populator that succeeds has set the fields that it is responsible for. -/
private theorem writes_of_run {v : Value} {done : Populator.Filling σ} (h : p.run draws v source = (.ok (), done)) :
    p.fits v = .ok () ∧ ∃ vs, Populator.drawAll draws p.demand source = (.ok vs, done.source) ∧
      p.fields vs = .ok done.writes ∧ done.writes.map (·.1) = p.responsible := by
  have ends := p.run_ends draws v source
  rw [h] at ends
  cases ends with
  | @filled vs s₁ ws hfits hdrawn hfields =>
    exact ⟨hfits, vs, hdrawn, hfields, names_of_fields (Populator.length_of_drawAll hdrawn) hfields⟩

private theorem rebinds_populate (hobject : s.ObjectAt a shape) {n : Nat} (ha : a < n) (hn : n ≤ s.nodes.size)
    (hnames : ws.map (·.1) = p.responsible) : Rebinds n s a shape ws (s.assign (.ref a) ws) := by
  refine rebinds_assign hobject ha hn fun e he => isOrdinary_of_responsible (p := p) ?_
  rw [← hnames]
  exact List.mem_map_of_mem he

theorem Settled.filled (hs : Settled k s) (hx : s.item id = .ok x) (hfits : p.fits (s.outline x) = .ok ())
    (hnames : ws.map (·.1) = p.responsible) : s.Filled id x ws (s.assign x ws) := by
  cases hp : p.shape? with
  | none =>
    obtain rfl := Populator.shape?_eq_none hp
    obtain rfl : ws = [] := List.map_eq_nil_iff.mp hnames
    exact filled_nil hx
  | some shape =>
    obtain ⟨a, rfl, hobject⟩ := hs.objectAt hx hp hfits
    have h := rebinds_populate hobject hobject.lt (Nat.le_refl _) hnames
    exact h.filled hs hobject hx (hnames ▸ nodup_responsible p)

/-- The message `x` has the same fields in both stores, and looks the same from outside. -/
structure LooksSame (s s' : Store) (x : Item) : Prop where
  attributes : Agree (fun y y' => (∀ room, s'.readWithin room y' = s.readWithin room y) ∧ s'.reduce y' = s.reduce y)
    (s.attributes x) (s'.attributes x)
  read : ∀ room, s'.readWithin room x = s.readWithin room x
  data : s'.reduce x = s.reduce x

private theorem looksSame_refl : s.LooksSame s x :=
  ⟨agree_self fun _ _ => ⟨fun _ => rfl, rfl⟩, fun _ => rfl, rfl⟩

/-- Setting the same fields once more leaves nothing of what they have been set to before. -/
private theorem Rebinds.looksSame {n : Nat} (h : Rebinds n s a shape ws s') (h' : Rebinds n s a shape (ws' ++ ws) s'')
    (hs : Settled k s) (hobject : s.ObjectAt a shape) (hne : ws ≠ []) (hnames : ws'.map (·.1) = ws.map (·.1))
    (hnodup : (ws'.map (·.1)).Nodup) : s'.LooksSame s'' (.ref a) := by
  have hsame : rebound ws (s.attributes (.ref a)) = rebound (ws' ++ ws) (s.attributes (.ref a)) := by
    rw [rebound, rebound, List.map_append, putAll, putAll, List.foldl_append]
    refine (Entries.putAll_putAll ?_ ?_).symm
    · rwa [List.map_map, List.map_map]
    · rwa [List.map_map]
  have hne' : ws' ++ ws ≠ [] := fun h => hne (List.append_eq_nil_iff.mp h).2
  have hmirrors := h.mirrors h' hs hsame hne hne'
  have hknown : Twins s n s' s'' (.ref a) (.ref a) := by
    refine .inl ⟨rfl, ?_⟩
    rintro _ ⟨⟩
    exact hobject.lt
  refine ⟨(h.agree h' hs hsame).imp fun y z hyz => ⟨fun room => ?_, ?_⟩, fun room => ?_, ?_⟩
  · exact hmirrors.readWithin room hyz
  · exact hmirrors.reduceWithin _ hyz
  · exact hmirrors.readWithin room hknown
  · exact hmirrors.reduceWithin _ hknown

/-- A run leaves the store as it is, or sets the fields of an object. -/
private theorem Settled.rebinds (hs : Settled k s) (hx : s.item id = .ok x) (p : Populator) (draws : NameSource σ)
    (source : σ) : (s.populate id p draws source).2.1 = s ∨
      ∃ a shape ws, x = .ref a ∧ s.ObjectAt a shape ∧ ws.map (·.1) = p.responsible ∧ ws ≠ [] ∧
        Rebinds s.nodes.size s a shape ws (s.populate id p draws source).2.1 := by
  rw [populate_of_item hx]
  rcases hrun : p.run draws (s.outline x) source with ⟨e | _, done⟩
  · have hfails : (p.run draws (s.outline x) source).1 = .error e := by rw [hrun]
    have hnone := Populator.writes_of_run_error hfails
    rw [hrun] at hnone
    exact .inl (by rw [hnone]; rfl)
  · obtain ⟨hfits, vs, -, -, hnames⟩ := writes_of_run hrun
    cases hp : p.shape? with
    | none =>
      obtain rfl := Populator.shape?_eq_none hp
      exact .inl (by rw [List.map_eq_nil_iff.mp hnames]; rfl)
    | some shape =>
      obtain ⟨a, rfl, hobject⟩ := hs.objectAt hx hp hfits
      refine .inr ⟨a, shape, done.writes, rfl, hobject, hnames, ?_, ?_⟩
      · rintro hnil
        rw [hnil] at hnames
        exact responsible_ne_nil hp hnames.symm
      · exact rebinds_populate hobject hobject.lt (Nat.le_refl _) hnames

private theorem Settled.populate_twice {τ : Type} (hs : Settled k s) (hx : s.item id = .ok x) (p : Populator)
    (draws : NameSource σ) (source : σ) (draws' : NameSource τ) (source' : τ) :
    let s' := (s.populate id p draws source).2.1
    (s'.populate id p draws' source').1 = (s.populate id p draws' source').1 ∧
      (s'.populate id p draws' source').2.2 = (s.populate id p draws' source').2.2 ∧
      ((s.populate id p draws' source').1 = .ok () →
        (s.populate id p draws' source').2.1.LooksSame (s'.populate id p draws' source').2.1 x) := by
  intro s'
  rcases hs.rebinds hx p draws source with hsame | ⟨a, shape, ws', rfl, hobject, hnames', hne', h'⟩
  · rw [show s' = s from hsame]
    exact ⟨rfl, rfl, fun _ => looksSame_refl⟩
  · -- The second run does the same as it would have done at first.
    have hx' : s'.item id = .ok (.ref a) := by
      rw [item, h'.ids]
      exact hx
    have hrun : p.run draws' (s'.outline (.ref a)) source' = p.run draws' (s.outline (.ref a)) source' :=
      run_outline (h'.object.kind.trans hobject.kind.symm)
    rw [populate_of_item hx', populate_of_item hx, hrun]
    refine ⟨rfl, rfl, fun hok => ?_⟩
    rcases hdone : p.run draws' (s.outline (.ref a)) source' with ⟨r, done⟩
    rw [hdone] at hok
    obtain rfl : r = .ok () := hok
    obtain ⟨-, vs, -, -, hnames⟩ := writes_of_run hdone
    have h₁ := rebinds_populate hobject hobject.lt (Nat.le_refl _) hnames
    have h₂ := rebinds_populate h'.object hobject.lt h'.size hnames
    have hne : done.writes ≠ [] := by
      intro hnil
      rw [hnil, ← hnames'] at hnames
      exact hne' (List.map_eq_nil_iff.mp hnames.symm)
    exact h₁.looksSame (h'.trans h₂ hobject.lt) hs hobject hne (hnames'.trans hnames.symm)
      (hnames' ▸ nodup_responsible p)

end Store

/-- In every session, whatever its messages have been made to share, a successful run of a populator on a message sets
exactly the fields that it is responsible for, to new values that follow from its draws.  All other fields and all other
messages stay what they are, unless they lead to the very table of attributes of the message; and the methods of other
messages give what they have given, unless they answer for the message or for what leads to its table.  For any of
this a step has to share a table under its own name or something that is bound to a message.  And after any run, a
further one leaves the message as it would have done without the first. -/
theorem populating_overwrites (t : Tables) (sts : List Step) (p : Populator) {σ : Type} (draws : NameSource σ)
    (source : σ) {id : String} {x : Item} :
    let s := (initial.run t sts).2.store
    s.item id = .ok x →
      (∀ {s' source'}, s.populate id p draws source = (.ok (), s', source') →
        ∃ vs ws, Populator.drawAll draws p.demand source = (.ok vs, source') ∧ p.fields vs = .ok ws ∧
          ws.map (·.1) = p.responsible ∧ s.Filled id x ws s') ∧
      (initial.Along t (fun s st => ¬ s.Entangles st) sts →
        (∀ {id' x'}, id' ≠ id → s.item id' = .ok x' → ¬ s.LeadsInto x' x ∧
          ∀ {method owner e}, s.receiver x' method = .ok (owner, e) → owner = x') ∧
        ∀ {name y}, (s.attributes x).lookup name = some y → ¬ s.LeadsInto y x) ∧
      ∀ (τ : Type) (draws' : NameSource τ) (source' : τ),
        let s' := (s.populate id p draws source).2.1
        (s'.populate id p draws' source').1 = (s.populate id p draws' source').1 ∧
          (s'.populate id p draws' source').2.2 = (s.populate id p draws' source').2.2 ∧
          ((s.populate id p draws' source').1 = .ok () →
            (s.populate id p draws' source').2.1.LooksSame (s'.populate id p draws' source').2.1 x) := by
  intro s hx
  have hs : Store.Settled False s := settled_run sts False.elim Store.settled_empty
  refine ⟨?_, ?_, ?_⟩
  · intro s' source' h
    rw [Store.populate_of_item hx] at h
    rcases hrun : p.run draws (s.outline x) source with ⟨r, done⟩
    rw [hrun] at h
    cases h
    obtain ⟨hfits, vs, hdrawn, hfields, hnames⟩ := Store.writes_of_run hrun
    exact ⟨vs, done.writes, hdrawn, hfields, hnames, hs.filled hx hfits hnames⟩
  · intro hsts
    have hs : Store.Settled True s := settled_run sts (fun _ => hsts) Store.settled_empty
    refine ⟨?_, ?_⟩
    · intro id' x' hid hx'
      refine ⟨hs.not_leadsInto hx ?_ ?_, fun hreceiver => hs.receiver_eq hx' hreceiver⟩
      · rintro a rfl
        exact hs.ne_of_item hx hx' hid
      · rintro b rfl
        exact .inl ⟨id', Store.item_eq_ok hx'⟩
    · intro name y hy
      have hmention : ∀ b, y = .ref b → s.Mentions b := fun b => Store.mentions_of_mem_attributes (mem_of_lookup hy)
      refine hs.not_leadsInto hx ?_ fun b hb => .inr (hmention b hb)
      rintro a rfl hya
      exact (hs.items (hmention a hya)).2 ⟨id, Store.item_eq_ok hx⟩
  · exact fun τ draws' source' => hs.populate_twice hx p draws source draws' source'

/-- Two skeletons of one kind, of which the second is given an attribute of the first. -/
def lent (name : String) : List Step := [
  .makeSkeleton "a" (.ok (.int 3)), .makeSkeleton "b" (.ok (.int 3)), .share "b" "a" [.text name]]

/-- A source that gives one name and one id. -/
def oneTopic (name : String) : Names.Source := .scripted [.ok (.text name)] [.ok (.uuid .zero)]

/-- Two messages have one list of topics.  One of them is populated, and once more; the other has the list as before. -/
theorem populating_overwrites_one_list :
    let s := (initial.run .standard (lent "topics")).2.store
    let s' := (s.populate "a" .metadata Names.Source.draws (oneTopic "t")).2.1
    let s'' := (s'.populate "a" .metadata Names.Source.draws (oneTopic "u")).2.1
    (s.attributes (.ref 0)).lookup "topics" = (s.attributes (.ref 1)).lookup "topics" ∧
      s.Filled "a" (.ref 0) [("topics", .list [Populator.entry .metadataRequestTopic
        [("name", .text "t"), ("topic_id", .uuid .zero)]])] s' ∧
      s.Same s' "b" (.ref 1) ∧ s'.throughMethod (.ref 1) "to_dict" = s.throughMethod (.ref 1) "to_dict" ∧
      (s.populate "a" .metadata Names.Source.draws (oneTopic "u")).2.1.LooksSame s'' (.ref 0) := by
  intro s s' s''
  have hsts : initial.Along .standard (fun s st => ¬ s.Entangles st) (lent "topics") := by
    refine ⟨False.elim, False.elim, ?_, trivial⟩
    rintro ⟨z, name, y, r, hlent, hbad⟩
    cases hlent
    rcases hbad with hname | hbound
    · exact absurd hname (by decide)
    · exact hbound trivial
  have ha : s.item "a" = .ok (.ref 0) := rfl
  have hb : s.item "b" = .ok (.ref 1) := rfl
  obtain ⟨hfilled, happart, htwice⟩ :=
    populating_overwrites .standard (lent "topics") .metadata Names.Source.draws (oneTopic "t") ha
  have hrun : s.populate "a" .metadata Names.Source.draws (oneTopic "t") = (.ok (), s', .scripted [] []) := rfl
  obtain ⟨vs, ws, hdrawn, hfields, -, hfilled⟩ := hfilled hrun
  cases hdrawn
  cases hfields
  obtain ⟨-, -, hlooks⟩ := htwice Names.Source Names.Source.draws (oneTopic "u")
  have hid : "b" ≠ "a" := by decide
  obtain ⟨hnot, howner⟩ := (happart hsts).1 hid hb
  refine ⟨rfl, hfilled, hfilled.others hid hb hnot, hfilled.methods hid hb rfl hnot fun hreceiver => ?_, hlooks rfl⟩
  rw [howner hreceiver]
  exact ⟨nofun, hnot⟩

/-- One of two messages is populated, and the other shows it: it has the same table of attributes, or the method of the
first one. -/
theorem populating_shows_in_others :
    let plain topics := Value.dict [("topics", .list topics), ("allow_auto_topic_creation", .bool true),
      ("include_cluster_authorized_operations", .bool false), ("include_topic_authorized_operations", .bool false)]
    let filled := plain [.dict [("topic_id", .text "00000000-0000-0000-0000-000000000000"), ("name", .text "t")]]
    let s := (initial.run .standard (lent "__dict__")).2.store
    let populated := s.populate "a" .metadata Names.Source.draws (oneTopic "t")
    let r := (initial.run .standard (lent "to_dict")).2.store
    let populated' := r.populate "a" .metadata Names.Source.draws (oneTopic "t")
    s.item "a" = .ok (.ref 0) ∧ s.item "b" = .ok (.ref 1) ∧ populated.1 = .ok () ∧
      s.reduce (.ref 1) = .ok (plain []) ∧ populated.2.1.reduce (.ref 1) = .ok filled ∧
      r.item "a" = .ok (.ref 0) ∧ r.item "b" = .ok (.ref 1) ∧ populated'.1 = .ok () ∧
      r.throughMethod (.ref 1) "to_dict" = .ok (plain []) ∧
      populated'.2.1.throughMethod (.ref 1) "to_dict" = .ok filled :=
  ⟨rfl, rfl, rfl, rfl, rfl, rfl, rfl, rfl, rfl, rfl⟩

end Session

end RequestSamples
