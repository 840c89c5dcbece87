import Mathlib.Logic.Relation
import RequestSamples.Proofs.Session.Methods
import RequestSamples.Proofs.Session.Parts

/-!
# What steps do to messages

A step makes at most one message and changes at most one (`Step.touched?`).  Steps that look at no message do the same
whatever messages are kept (`step_withStore`), and of all others only those that share leave the nodes of messages
without owners (`step_evolves`).  So as long as nothing is shared, a message stays as it is until a step touches it
(`keeps_goes`).
-/

namespace RequestSamples.Session

/-- The message that a step makes or may change. -/
def Step.touched? : Step → Option String
  | .makeSkeleton id _ | .makeMessage id _ | .populate id _ _ | .show id | .set id _ _ | .append id _ _
  | .share id _ _ => some id
  | .next _ into => into
  | _ => none

/-- The step looks at messages that are kept. -/
def Step.Looks : Step → Prop
  | .populate .. | .show _ | .equal .. | .set .. | .append .. | .share .. => True
  | _ => False

/-- The step lets messages share something. -/
def Step.Shares : Step → Prop
  | .share .. => True
  | _ => False

/-- The step sets no attribute of a family. -/
def Step.SparesFamilies (s : Session) : Step → Prop
  | .set id path _ => ¬ s.store.LeadsToFamily id path.dropLast
  | _ => True

/-- The session with another store. -/
def withStore (s : Session) (r : Store) : Session := { s with store := r }

/-- The message that a step makes, which looks at none. -/
def made? (t : Tables) (s : Session) : Step → Option (String × Value)
  | .makeSkeleton id key => (key.bind t.skeleton).toOption.map (id, ·)
  | .makeMessage id v => v.toOption.map (id, ·)
  | .next id (some name) =>
    match (s.generator id).bind fun g => (pull t s id g).1 with
    | .ok (some sample) => some (name, sample.message)
    | _ => none
  | _ => none

/-- The store in which a message is kept, if there is one. -/
def Store.putMade (r : Store) : Option (String × Value) → Store
  | some (id, v) => r.put id v
  | none => r

variable {t : Tables} {s s' : Session} {st : Step} {r : Store} {id : String} {k : Prop}

private theorem sharedPlace_withStore : (s.withStore r).sharedPlace = s.sharedPlace.map fun p =>
    (p.1, p.2.withStore r) :=
  sharedPlace_withParts (fun gs => gs) (fun _ => r) (fun l => l)

private theorem turn_withStore {g : Suspended} {i : Nat} :
    turn t (s.withStore r) id g i = ((turn t s id g i).1, (turn t s id g i).2.withStore r) := by
  unfold turn
  rw [show (s.withStore r).sourceAt i = s.sourceAt i from rfl]
  rcases Generator.step t g.resolver Names.Source.draws g.progress (s.sourceAt i) with ⟨progress, _ | now⟩ <;> rfl

theorem pull_withStore {g : Suspended} :
    pull t (s.withStore r) id g = ((pull t s id g).1, (pull t s id g).2.withStore r) := by
  unfold pull
  split
  · rfl
  · exact turn_withStore
  · rw [sharedPlace_withStore]
    cases s.sharedPlace with
    | error e => rfl
    | ok p => exact turn_withStore

theorem step_makeSkeleton {key : Given Value} :
    s.step t (.makeSkeleton id key) = s.stored ((key.bind t.skeleton).map (s.store.put id)) := by
  cases key with
  | error e => rfl
  | ok v =>
    show s.stored (t.skeleton v >>= fun w => .ok (s.store.put id w)) = s.stored ((t.skeleton v).map (s.store.put id))
    cases t.skeleton v <;> rfl

/-- A step that looks at no message does the same whatever the store is, and at most puts a message into it. -/
theorem step_withStore (hst : ¬ st.Looks) :
    (s.withStore r).step t st = ((s.step t st).1, (s.step t st).2.withStore (r.putMade (made? t s st))) := by
  cases st with
  | setEnvironment | reset | seed | sharedSeed | sharedIsSame | sharedDraw | makeSource | setSuffixDigits | draw
  | left =>
    exact step_withParts (by trivial) (fun gs => gs) (fun _ => r) (fun l => l)
  | openGenerator id selection resolver source =>
    simp only [step]
    rw [show (s.withStore r).sourcePlace = s.sourcePlace from rfl]
    cases source.mapM s.sourcePlace with
    | error e => rfl
    | ok place => cases resolver <;> cases selection <;> rfl
  | next id into =>
    simp only [step]
    rw [show (s.withStore r).generator id = s.generator id from rfl]
    cases hg : s.generator id with
    | error e => cases into <;> simp only [made?, hg] <;> rfl
    | ok g =>
      dsimp only
      rw [pull_withStore]
      cases into with
      | none => rcases pull t s id g with ⟨e | _ | sample, s'⟩ <;> rfl
      | some name =>
        simp only [made?, hg, Except.bind]
        rcases pull t s id g with ⟨e | _ | sample, s'⟩ <;> rfl
  | close id =>
    simp only [step]
    rw [show (s.withStore r).generator id = s.generator id from rfl]
    cases s.generator id <;> rfl
  | makeSkeleton id key =>
    rw [step_makeSkeleton, step_makeSkeleton, made?]
    cases key.bind t.skeleton <;> rfl
  | makeMessage id v => cases v <;> rfl
  | setUpLog =>
    simp only [step]
    rw [show (s.withStore r).logger.setUp (s.withStore r).environment = s.logger.setUp s.environment from rfl]
    cases s.logger.setUp s.environment <;> rfl
  | addHandler | takeLines => rfl
  | populate | «show» | equal | set | append | share => exact absurd trivial hst

private theorem evolves_stored {c : Option String} {own : Store.Owners} {r' : Except Failure Store}
    (hs : s.store.Sound own) (h : ∀ r, r' = .ok r → ∃ own', Store.Evolves k c own s.store own' r) :
    ∃ own', Store.Evolves k c own s.store own' (s.stored r').2.store := by
  cases r' with
  | error e => exact ⟨own, .refl hs⟩
  | ok r => exact h r rfl

/-- A step that looks at messages changes at most the one that it touches, and what families have been given only if
it sets an attribute of one. -/
theorem evolves_step {own : Store.Owners} (hs : s.store.Sound own) (hst : st.Looks) (hshares : ¬ st.Shares) :
    ∃ own', Store.Evolves (st.SparesFamilies s) st.touched? own s.store own' (s.step t st).2.store := by
  cases st with
  | populate id key source =>
    simp only [step]
    split
    · exact ⟨own, .refl hs⟩
    · rename_i p i _
      dsimp only
      unfold Store.populate
      cases hx : s.store.item id with
      | error e => exact ⟨own, .refl hs⟩
      | ok x =>
        obtain ⟨hwithin, hput⟩ := Store.within_item hs hx
        exact Store.evolves_assign hs hwithin hput _
  | «show» id =>
    simp only [step]
    split
    · exact ⟨own, .refl hs⟩
    · rename_i shown store hview
      exact Store.evolves_view hs hview
  | equal => exact ⟨own, .refl hs⟩
  | set id path w => exact evolves_stored hs fun r hr => Store.evolves_setAt hs hr
  | append id path w => exact evolves_stored hs fun r hr => Store.evolves_appendAt hs hr
  | share => exact absurd trivial hshares
  | _ => cases hst

namespace Store

/-- The messages under ids with `P` have been left as they were.  If `k` holds, families have no other tables than
before. -/
structure Keeps (k : Prop) (P : String → Prop) (own : Owners) (s : Store) (own' : Owners) (s' : Store) : Prop where
  size : s.nodes.size ≤ s'.nodes.size
  owners : ∀ a, a < s.nodes.size → own' a = own a
  nodes : ∀ id, P id → Untouched own (some id) s s'
  items : ∀ id, P id → s'.item id = s.item id
  families : k → ∀ f, s'.given.lookup (.family f) = s.given.lookup (.family f)
  sound : Sound own' s'

variable {P : String → Prop} {own own' own'' : Owners} {s s' s'' : Store} {c : Option String} {id id' : String}

theorem Keeps.refl (hs : Sound own s) : Keeps k P own s own s :=
  ⟨Nat.le_refl _, fun _ _ => rfl, fun _ _ _ _ _ => rfl, fun _ _ => rfl, fun _ _ => rfl, hs⟩

theorem Keeps.trans (h : Keeps k P own s own' s') (h' : Keeps k P own' s' own'' s'') : Keeps k P own s own'' s'' where
  size := Nat.le_trans h.size h'.size
  owners := fun a ha => (h'.owners a (Nat.lt_of_lt_of_le ha h.size)).trans (h.owners a ha)
  nodes := by
    intro id hid a ha hown
    have hown' : own' a = some id := (h.owners a ha).trans hown
    exact (h'.nodes id hid a (Nat.lt_of_lt_of_le ha h.size) hown').trans (h.nodes id hid a ha hown)
  items := fun id hid => (h'.items id hid).trans (h.items id hid)
  families := fun hk f => (h'.families hk f).trans (h.families hk f)
  sound := h'.sound

theorem Evolves.keeps (h : Evolves k c own s own' s') (hP : ∀ id, P id → c ≠ some id) : Keeps k P own s own' s' where
  size := h.size
  owners := h.owners
  nodes := by
    intro id hid a ha hown
    refine h.nodes a ha ?_ ?_
    · rw [hown]
      exact (hP id hid).symm
    · rw [hown]
      exact nofun
  items := by
    intro id _
    rw [item, item, h.ids]
  families := h.families
  sound := h.sound

theorem item_keep_ne {x : Item} (h : id' ≠ id) : (s.keep id x).item id' = s.item id' := by
  unfold item keep
  rw [List.lookup_cons, beq_false_of_ne h, lookup_filter_ne h]

private theorem keeps_put (hs : Sound own s) (hP : ¬ P id) (v : Value) : ∃ own', Keeps k P own s own' (s.put id v) := by
  obtain ⟨own', h, hx, hput⟩ := evolves_allocate (k := k) hs (some id) v
  have hkeeps : Keeps k P own s own' (s.allocate v).2 := by
    refine h.keeps ?_
    rintro _ hid ⟨⟩
    exact hP hid
  refine ⟨own', hkeeps.size, hkeeps.owners, hkeeps.nodes, ?_, hkeeps.families, sound_keep h.sound hx hput⟩
  intro id' hid'
  have hne : id' ≠ id := by
    rintro rfl
    exact hP hid'
  exact (item_keep_ne hne).trans (hkeeps.items id' hid')

theorem sound_empty : Sound (fun _ => none) empty :=
  ⟨fun _ ha => absurd ha (Nat.not_lt_zero _), nofun, nofun⟩

end Store

private theorem touched?_of_made? {e : String × Value} (h : made? t s st = some e) : st.touched? = some e.1 := by
  unfold made? at h
  split at h
  · obtain ⟨v, -, rfl⟩ := Option.map_eq_some_iff.mp h
    rfl
  · obtain ⟨v, -, rfl⟩ := Option.map_eq_some_iff.mp h
    rfl
  · split at h <;> cases h
    rfl
  · cases h

theorem store_step (hst : ¬ st.Looks) : (s.step t st).2.store = s.store.putMade (made? t s st) :=
  congrArg (fun p => p.2.store) (step_withStore (r := s.store) hst)

variable {P : String → Prop} {own : Store.Owners}

theorem keeps_step (hs : s.store.Sound own) (hshares : ¬ st.Shares) (hP : ∀ id, P id → st.touched? ≠ some id) :
    ∃ own', Store.Keeps (st.SparesFamilies s) P own s.store own' (s.step t st).2.store := by
  by_cases hst : st.Looks
  · obtain ⟨own', h⟩ := evolves_step (t := t) hs hst hshares
    exact ⟨own', h.keeps hP⟩
  · rw [store_step hst]
    cases hmade : made? t s st with
    | none => exact ⟨own, .refl hs⟩
    | some e =>
      refine Store.keeps_put hs ?_ e.2
      intro he
      exact hP e.1 he (touched?_of_made? hmade)

/-- One session becomes the other by allowed steps. -/
def Goes (t : Tables) (allowed : Session → Step → Prop) : Session → Session → Prop :=
  Relation.ReflTransGen fun s s' => ∃ st, allowed s st ∧ s' = (s.step t st).2

/-- Messages that no step touches are left as they were, as long as nothing is shared. -/
theorem keeps_goes {allowed : Session → Step → Prop} (hs : s.store.Sound own)
    (hallowed : ∀ s st, allowed s st → ¬ st.Shares ∧ (∀ id, P id → st.touched? ≠ some id) ∧ (k → st.SparesFamilies s))
    (h : Goes t allowed s s') : ∃ own', Store.Keeps k P own s.store own' s'.store := by
  induction h with
  | refl => exact ⟨own, .refl hs⟩
  | tail _ hlast ih =>
    obtain ⟨own₁, h₁⟩ := ih
    obtain ⟨st, hst, rfl⟩ := hlast
    obtain ⟨hshares, htouched, hspares⟩ := hallowed _ st hst
    obtain ⟨own₂, h₂⟩ := keeps_step (t := t) h₁.sound hshares htouched
    exact ⟨own₂, h₁.trans ⟨h₂.size, h₂.owners, h₂.nodes, h₂.items, fun hk => h₂.families (hspares hk), h₂.sound⟩⟩

end RequestSamples.Session
