import RequestSamples.Proofs.Session.Apart
import RequestSamples.Proofs.Session.Run

/-!
# Sessions that differ in their messages

Of what messages hold, no other part of a session depends on more than their kinds: populators ask for the shape of a
request, and nothing else asks anything.  No step but sharing changes the kind of a message that is kept.  So two
sessions that differ in what their messages hold go on beside each other (`beside_step`), and whatever steps that look
at no message answer is the same in both (`beside_run`).
-/

namespace RequestSamples.Session

variable {t : Tables} {s s' : Session} {st : Step} {r : Store} {id id' : String} {k : Prop} {own : Store.Owners}

namespace Store

variable {s s' : Store} {c : Option String} {own' : Owners} {p : Populator} {x y : Item} {σ : Type}

/-- The family of what is kept under an id, and its shape if it is an object. -/
def kindAt (s : Store) (id : String) : Except Failure (Family × Option Shape) :=
  (s.item id).map fun x => (s.family x, s.shapeOf? x)

private theorem kind_whole {v : Value} (h : s.form x = .whole v) :
    (s.family x, s.shapeOf? x) = (Node.whole v).kind := by
  unfold family shapeOf?
  rw [h]
  cases v <;> rfl

private theorem kind_ref (a : Nat) : (s.family (.ref a), s.shapeOf? (.ref a)) = (s.node a).kind := by
  unfold family shapeOf? form
  dsimp only
  cases s.node a with
  | whole v => cases v <;> rfl
  | _ => rfl

theorem Evolves.kindAt (h : Evolves k c own s own' s') (hs : Sound own s) (id : String) :
    s'.kindAt id = s.kindAt id := by
  have hitem : s'.item id = s.item id := by rw [item, item, h.ids]
  unfold Store.kindAt
  rw [hitem]
  cases hx : s.item id with
  | error e => rfl
  | ok x =>
    obtain ⟨hwithin, hput⟩ := within_item hs hx
    refine congrArg Except.ok ?_
    cases x with
    | value v => exact (kind_whole (x := .value v) rfl).trans (kind_whole (x := .value v) rfl).symm
    | ref a =>
      refine (kind_ref a).trans ?_
      rw [h.kinds a hwithin.1]
      exact (kind_ref a).symm
    | _ => cases hput

private theorem kindAt_put (hs : Sound own s) (v : Value) :
    (s.put id v).kindAt id' = if id' = id then .ok (Node.whole v).kind else s.kindAt id' := by
  obtain ⟨own', h, -, -⟩ := evolves_allocate (k := True) hs (some id) v
  have hkeep : ∀ x,
      (((s.allocate v).2.keep id (s.allocate v).1).family x, ((s.allocate v).2.keep id (s.allocate v).1).shapeOf? x) =
        ((s.allocate v).2.family x, (s.allocate v).2.shapeOf? x) := by
    intro x
    cases x <;> rfl
  unfold put
  by_cases hid : id' = id
  · subst hid
    rw [if_pos rfl, Store.kindAt, item_keep_self]
    exact congrArg Except.ok ((hkeep _).trans (kind_whole (form_allocate s v)))
  · rw [if_neg hid, ← h.kindAt hs id']
    unfold Store.kindAt
    rw [item_keep_ne hid]
    exact congrArg (fun f => Except.map f _) (funext hkeep)

/-- A populator does the same to requests of one kind. -/
theorem run_outline {draws : NameSource σ} {source : σ}
    (h : (s'.family y, s'.shapeOf? y) = (s.family x, s.shapeOf? x)) :
    p.run draws (s'.outline y) source = p.run draws (s.outline x) source := by
  obtain ⟨hfamily, hshape⟩ := Prod.mk.inj h
  have hfits : p.fits (s'.outline y) = p.fits (s.outline x) := by
    unfold Populator.fits
    cases p.shape? with
    | none => rfl
    | some shape =>
      dsimp only
      rw [hasShape_outline, hasShape_outline, typeName_outline, typeName_outline, hfamily, hshape]
  rw [Populator.run, Populator.run, hfits]

/-- What populating a message answers and draws depends only on the kind of the message. -/
private theorem populate_of_kindAt {draws : NameSource σ} {source : σ} (h : s'.kindAt id = s.kindAt id) :
    (s'.populate id p draws source).1 = (s.populate id p draws source).1 ∧
      (s'.populate id p draws source).2.2 = (s.populate id p draws source).2.2 := by
  unfold Store.kindAt at h
  unfold populate
  cases hx : s.item id with
  | error e =>
    cases hy : s'.item id with
    | error e' =>
      rw [hx, hy] at h
      cases h
      exact ⟨rfl, rfl⟩
    | ok y =>
      rw [hx, hy] at h
      cases h
  | ok x =>
    cases hy : s'.item id with
    | error e' =>
      rw [hx, hy] at h
      cases h
    | ok y =>
      rw [hx, hy] at h
      dsimp only
      rw [run_outline (Except.ok.inj h)]
      exact ⟨rfl, rfl⟩

end Store

/-- The sessions differ in nothing but what their messages hold. -/
structure Beside (s s' : Session) : Prop where
  rest : s' = s.withStore s'.store
  kinds : ∀ id, s'.store.kindAt id = s.store.kindAt id
  sound : ∃ own, s.store.Sound own
  sound' : ∃ own, s'.store.Sound own

private theorem made?_withStore : made? t (s.withStore r) st = made? t s st := by
  unfold made?
  split
  · rfl
  · rfl
  · rw [show (s.withStore r).generator = s.generator from rfl]
    simp only [pull_withStore]
  · rfl

private theorem beside_stored {r' r'' : Except Failure Store} (hrest : s' = s.withStore s'.store) :
    (s'.stored r'').2 = (s.stored r').2.withStore (s'.stored r'').2.store := by
  cases r'' with
  | error e =>
    cases r' <;> exact hrest
  | ok r'' =>
    rw [hrest]
    cases r' <;> rfl

/-- The populator that populating takes, and the place of the source. -/
def populating (t : Tables) (s : Session) (id : String) (key : Given Value) (source : String) :
    Except Failure (Populator × Nat) := do
  let p ← t.populator (← key)
  let _ ← s.store.item id
  return (p, ← s.sourcePlace source)

theorem step_populate {key : Given Value} {source : String} :
    s.step t (.populate id key source) =
      match s.populating t id key source with
      | .error e => (.error e, s)
      | .ok (p, i) =>
        ((s.store.populate id p Names.Source.draws (s.sourceAt i)).1.map fun () => .nothing,
          (s.setSource i (s.store.populate id p Names.Source.draws (s.sourceAt i)).2.2).withStore
            (s.store.populate id p Names.Source.draws (s.sourceAt i)).2.1) :=
  rfl

private theorem populating_eq (h : Beside s s') {key : Given Value} {source : String} :
    s'.populating t id key source = s.populating t id key source := by
  have hplace : s'.sourcePlace source = s.sourcePlace source := by
    rw [h.rest]
    rfl
  have hitem : ∀ p : Populator, (s'.store.item id >>= fun _ => return (p, ← s'.sourcePlace source)) =
      (s.store.item id >>= fun _ => return (p, ← s.sourcePlace source)) := by
    intro p
    have hkind := h.kinds id
    unfold Store.kindAt at hkind
    rw [hplace]
    cases hx : s.store.item id <;> cases hy : s'.store.item id <;> rw [hx, hy] at hkind <;>
      first | rfl | cases hkind <;> rfl
  unfold populating
  simp only [hitem]

/-- A step changes something besides messages only by draws, and these depend only on the kinds of messages. -/
private theorem rest_step (h : Beside s s') (hst : st.Looks) :
    (s'.step t st).2 = (s.step t st).2.withStore (s'.step t st).2.store := by
  have hrest := h.rest
  cases st with
  | populate id key source =>
    rw [step_populate, step_populate, populating_eq h]
    cases s.populating t id key source with
    | error e => exact hrest
    | ok found =>
      obtain ⟨p, i⟩ := found
      have hsource : s'.sourceAt i = s.sourceAt i := by
        rw [hrest]
        rfl
      -- How many draws are made, and whether any, depends on the kind of the message alone.
      dsimp only
      rw [hsource, (Store.populate_of_kindAt (h.kinds id)).2]
      generalize (s'.store.populate id p Names.Source.draws (s.sourceAt i)).2.1 = store
      rw [hrest]
      rfl
  | «show» id =>
    simp only [step]
    cases s.store.view id <;> cases s'.store.view id <;> first | exact hrest | (rw [hrest]; rfl)
  | equal => exact hrest
  | set id path w => exact beside_stored hrest
  | append id path w => exact beside_stored hrest
  | share id source path => exact beside_stored hrest
  | _ => cases hst

theorem beside_step (h : Beside s s') (hshares : ¬ st.Shares) : Beside (s.step t st).2 (s'.step t st).2 := by
  obtain ⟨own, hs⟩ := h.sound
  obtain ⟨own', hs'⟩ := h.sound'
  by_cases hst : st.Looks
  · obtain ⟨own₁, h₁⟩ := evolves_step (t := t) hs hst hshares
    obtain ⟨own₁', h₁'⟩ := evolves_step (t := t) hs' hst hshares
    refine ⟨rest_step h hst, ?_, ⟨own₁, h₁.sound⟩, ⟨own₁', h₁'.sound⟩⟩
    intro id
    rw [h₁.kindAt hs, h₁'.kindAt hs', h.kinds]
  · obtain ⟨own₁, h₁⟩ := keeps_step (t := t) (P := fun _ => False) hs hshares nofun
    obtain ⟨own₁', h₁'⟩ := keeps_step (t := t) (P := fun _ => False) hs' hshares nofun
    refine ⟨?_, ?_, ⟨own₁, h₁.sound⟩, ⟨own₁', h₁'.sound⟩⟩
    · have hstep := step_withStore (t := t) (s := s) (r := s'.store) hst
      rw [← h.rest] at hstep
      rw [hstep]
      rfl
    · intro id
      rw [store_step hst, store_step hst, h.rest, made?_withStore]
      cases made? t s st with
      | none => exact h.kinds id
      | some e =>
        show (s'.store.put e.1 e.2).kindAt id = (s.store.put e.1 e.2).kindAt id
        rw [Store.kindAt_put hs, Store.kindAt_put hs', h.kinds]

private theorem answer_step (h : Beside s s') (hst : ¬ st.Looks) : (s'.step t st).1 = (s.step t st).1 := by
  rw [h.rest, step_withStore hst]

/-- Whatever looks at no message is answered alike in sessions that go on beside each other. -/
theorem beside_run (h : Beside s s') {sts : List Step} (hsts : ∀ st ∈ sts, ¬ st.Shares) {p : Step → Bool}
    (hp : ∀ st, p st → ¬ st.Looks) :
    (s'.run t sts).1.filter (fun e => p e.1) = (s.run t sts).1.filter fun e => p e.1 := by
  induction sts generalizing s s' with
  | nil => rfl
  | cons st sts ih =>
    have htail := ih (beside_step (t := t) h (hsts st List.mem_cons_self)) fun st' h' =>
      hsts st' (List.mem_cons_of_mem _ h')
    rw [run, run, List.filter_cons, List.filter_cons, htail]
    dsimp only
    split
    · rename_i hst
      rw [answer_step h (hp st hst)]
    · rfl

end RequestSamples.Session
