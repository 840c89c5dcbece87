import RequestSamples.Proofs.Session.Beside
import RequestSamples.Proofs.Session.Shared

/-!
# Messages share nothing

As long as no step lets messages share something or edits what belongs to no message alone, no two messages lead to the
same node, and what one of them holds and gives is changed by no step that does not touch it
(`messages_share_nothing`).  Families, their functions and lists, and members are what messages have in common all the
same: an attribute that is set in a family shows in every message (`messages_share_families`).
-/

namespace RequestSamples.Session

variable {t : Tables} {s s' : Session} {st : Step} {id : String} {k : Prop} {own : Store.Owners}

/-- The step edits a message. -/
def Step.Edits : Step → Prop
  | .set .. | .append .. | .populate .. => True
  | _ => False

/-- The item belongs to no message, and can be changed: it is a family, a member, a function, or a list that a family
has for all its values. -/
def Item.IsCommon : Item → Prop
  | value v => v.member?.isSome ∨ v = .inner .list
  | family _ => True
  | bound f .. => f = .function
  | ref _ => False

/-- A path from a message leads to something that belongs to no message. -/
def Store.LeadsToCommon (s : Store) (id : String) (path : Path) : Prop :=
  ∃ x y s', s.item id = .ok x ∧ s.walk x path = .ok (y, s') ∧ y.IsCommon

/-- The step edits nothing that belongs to no message. -/
def Step.SparesCommon (s : Session) : Step → Prop
  | .set id path _ => ¬ s.store.LeadsToCommon id path.dropLast
  | .append id path _ => ¬ s.store.LeadsToCommon id path
  | _ => True

/-- Steps that let messages share nothing and edit nothing that belongs to no message. -/
def Secluded (s : Session) (st : Step) : Prop := ¬ st.Shares ∧ st.SparesCommon s

/-- The allowed steps that do not touch a message. -/
def Leaving (allowed : Session → Step → Prop) (id : String) (s : Session) (st : Step) : Prop :=
  allowed s st ∧ st.touched? ≠ some id

/-- The answers to pulls. -/
def pulls (told : Transcript) : Transcript := told.filter fun e => e.1.pulled?.isSome

/-- The session as it would be without the edit of a step, except that its draws have been made. -/
def unedited (t : Tables) (s : Session) (st : Step) : Session := { s with sources := (s.step t st).2.sources }

/-- The message `x` under an id holds the same in both stores. -/
structure Store.Same (s s' : Store) (id : String) (x : Item) : Prop where
  item : s'.item id = .ok x
  parts : ∀ a, s.Part x (.ref a) → s'.node a = s.node a
  read : ∀ room, s'.readWithin room x = s.readWithin room x
  data : s'.reduce x = s.reduce x

variable {t : Tables} {s s' : Session} {st : Step} {id : String} {x : Item} {k : Prop} {own : Store.Owners}

private theorem Secluded.sparesFamilies (h : Secluded s st) : st.SparesFamilies s := by
  cases st with
  | set =>
    rintro ⟨x, f, s', hx, hwalk⟩
    exact h.2 ⟨x, .family f, s', hx, hwalk, trivial⟩
  | _ => trivial

/-- In secluded sessions every node has an owner, and families have been given nothing. -/
private theorem sound_of_goes (h : Goes t Secluded initial s) : (∃ own, s.store.Sound own) ∧ s.store.Untaught := by
  obtain ⟨own, hkeeps⟩ := keeps_goes (k := True) (P := fun _ => False) Store.sound_empty
    (fun _ _ hst => ⟨hst.1, fun _ h => h.elim, fun _ => hst.sparesFamilies⟩) h
  exact ⟨⟨own, hkeeps.sound⟩, fun f => hkeeps.families trivial f⟩

/-- Messages are left as they are by steps that do not touch them. -/
private theorem keeps_leaving (hs : s.store.Sound own) (h : Goes t (Leaving Secluded id) s s') :
    ∃ own', Store.Keeps True (· = id) own s.store own' s'.store := by
  refine keeps_goes hs (fun s st hst => ⟨hst.1.1, ?_, fun _ => hst.1.sparesFamilies⟩) h
  rintro _ rfl
  exact hst.2

private theorem same_of_goes (hs : s.store.Sound own) (hx : s.store.item id = .ok x)
    (h : Goes t (Leaving Secluded id) s s') : s.store.Same s'.store id x := by
  obtain ⟨hwithin, -⟩ := Store.within_item hs hx
  obtain ⟨own', hkeeps⟩ := keeps_leaving hs h
  have hnodes := hkeeps.nodes id rfl
  refine ⟨(hkeeps.items id rfl).trans hx, ?_, ?_, hnodes.reduceWithin hs _ hwithin⟩
  · intro a hpart
    obtain ⟨ha, howner⟩ := hwithin.part hs hpart
    exact hnodes a ha howner
  · exact fun room => hnodes.readWithin hs room hwithin

private theorem throughMethod_of_goes {shape : Shape} (hs : s.store.Sound own) (huntaught : s.store.Untaught)
    (hx : s.store.item id = .ok x) (hshape : s.store.shapeOf? x = some shape)
    (h : Goes t (Leaving Secluded id) s s') (method : String) :
    s'.store.throughMethod x method = s.store.throughMethod x method := by
  obtain ⟨hwithin, hput⟩ := Store.within_item hs hx
  obtain ⟨own', hkeeps⟩ := keeps_leaving hs h
  refine (hkeeps.nodes id rfl).throughMethod hs hkeeps.size huntaught ?_ hwithin hput hshape
  intro f
  rw [hkeeps.families trivial f]
  exact huntaught f

private theorem exists_object_of_skeleton {key v : Value} (h : t.skeleton key = .ok v) :
    ∃ shape fields extras, v = .object shape fields extras := by
  obtain ⟨kind, -, h⟩ := Except.bind_eq_ok.mp h
  cases h
  have hshape := kind.skeleton_hasShape
  cases hv : kind.skeleton with
  | object shape fields extras => exact ⟨shape, fields, extras, rfl⟩
  | _ =>
    rw [hv] at hshape
    cases hshape

namespace Store

variable {s s' : Store} {shape : Shape} {fields extras : Entries} {method : String}

private theorem item_put_object (s : Store) : (s.put id (.object shape fields extras)).item id = .ok
    (.ref s.nodes.size) :=
  item_keep_self _ _ _

private theorem node_put_object (s : Store) :
    (s.put id (.object shape fields extras)).node s.nodes.size = .whole (.object shape fields extras) :=
  node_push_size

private theorem form_put_object (s : Store) :
    (s.put id (.object shape fields extras)).form (.ref s.nodes.size) = .whole (.object shape fields extras) := by
  rw [form, node_put_object]

/-- An object that has just been kept gives the same in every store. -/
private theorem throughMethod_put (hs : s.Untaught) (hs' : s'.Untaught) :
    (s.put id (.object shape fields extras)).throughMethod (.ref s.nodes.size) method =
      (s'.put id (.object shape fields extras)).throughMethod (.ref s'.nodes.size) method := by
  have hlt : ∀ r : Store, r.nodes.size < (r.put id (.object shape fields extras)).nodes.size := by
    intro r
    show r.nodes.size < (r.push _).nodes.size
    rw [size_push]
    exact Nat.lt_succ_self _
  exact throughMethod_of_whole hs hs' (hlt s) (hlt s') (node_put_object s) (node_put_object s')

end Store

private theorem beside_unedited (hs : s.store.Sound own) (hst : st.Edits) :
    Beside (s.unedited t st) (s.step t st).2 := by
  have hlooks : st.Looks ∧ ¬ st.Shares := by
    cases st <;> first | exact ⟨trivial, False.elim⟩ | cases hst
  obtain ⟨own', h⟩ := evolves_step (t := t) hs hlooks.1 hlooks.2
  refine ⟨?_, fun id => h.kindAt hs id, ⟨own, hs⟩, ⟨own', h.sound⟩⟩
  have hstored : ∀ r, s.step t st = s.stored r →
      (s.step t st).2 = (s.unedited t st).withStore (s.step t st).2.store := by
    intro r hr
    rw [unedited, hr]
    cases r <;> rfl
  cases st with
  | set => exact hstored _ rfl
  | append => exact hstored _ rfl
  | populate id key source =>
    rw [unedited, step_populate]
    cases s.populating t id key source <;> rfl
  | _ => cases hst

private theorem unedited_of_stored {r : Except Failure Store} (h : s.step t st = s.stored r) : s.unedited t st = s := by
  rw [unedited, h]
  cases r <;> rfl

private theorem pulls_of_edit (hs : s.store.Sound own) (hst : st.Edits) {sts : List Step}
    (hsts : ∀ st' ∈ sts, ¬ st'.Shares) :
    pulls ((s.step t st).2.run t sts).1 = pulls ((s.unedited t st).run t sts).1 := by
  refine beside_run (p := fun st' => st'.pulled?.isSome) (beside_unedited hs hst) hsts ?_
  intro st' hpulled
  cases st' <;> first | exact False.elim | cases hpulled

/-- As long as nothing is shared and nothing is edited that belongs to no message, nothing in a message belongs to
another message as well.  A message and what its methods give are left as they are by all that happens without touching
it.  A skeleton that is made later is the default one and shows what it would show in a store that keeps nothing else.
Whatever is pulled after an edit is what would be pulled without it. -/
theorem messages_share_nothing (t : Tables) {s : Session} (hs : Goes t Secluded initial s) :
    (∀ {id id' x x' a}, s.store.item id = .ok x → s.store.item id' = .ok x' →
      s.store.Part x (.ref a) → s.store.Part x' (.ref a) → id = id') ∧
    (∀ {id x s'}, s.store.item id = .ok x → Goes t (Leaving Secluded id) s s' → s.store.Same s'.store id x ∧
      ∀ {shape}, s.store.shapeOf? x = some shape →
        ∀ method, s'.store.throughMethod x method = s.store.throughMethod x method) ∧
    (∀ id {key v}, t.skeleton key = .ok v → ∃ s' x y, s.step t (.makeSkeleton id (.ok key)) = (.ok .nothing, s') ∧
      s'.store.item id = .ok x ∧ s'.store.read x = some v ∧
      (Store.empty.put id v).item id = .ok y ∧ s'.store.reduce x = (Store.empty.put id v).reduce y ∧
      ∀ method, s'.store.throughMethod x method = (Store.empty.put id v).throughMethod y method) ∧
    (∀ {st sts}, st.Edits → Secluded s st → (s.step t st).2.Along t Secluded sts →
      (s.unedited t st).Along t Secluded sts →
        pulls ((s.step t st).2.run t sts).1 = pulls ((s.unedited t st).run t sts).1) ∧
    ∀ id path w, s.unedited t (.set id path w) = s ∧ s.unedited t (.append id path w) = s := by
  obtain ⟨⟨own, hsound⟩, huntaught⟩ := sound_of_goes hs
  refine ⟨?_, ?_, ?_, ?_, ?_⟩
  · -- A part has one owner only, the id of the message.
    intro id id' x x' a hx hx' hpart hpart'
    have howner := ((Store.within_item hsound hx).1.part hsound hpart).2
    have howner' := ((Store.within_item hsound hx').1.part hsound hpart').2
    exact Option.some.inj (howner.symm.trans howner')
  · intro id x s' hx hgoes
    exact ⟨same_of_goes hsound hx hgoes, fun hshape => throughMethod_of_goes hsound huntaught hx hshape hgoes⟩
  · intro id key v hv
    obtain ⟨shape, fields, extras, rfl⟩ := exists_object_of_skeleton hv
    refine ⟨s.withStore (s.store.put id (.object shape fields extras)), .ref s.store.nodes.size, .ref 0, ?_,
      s.store.item_put_object, ?_, Store.empty.item_put_object, ?_, ?_⟩
    · rw [step_makeSkeleton]
      show s.stored ((t.skeleton key).map _) = _
      rw [hv]
      rfl
    · exact Store.readWithin_whole s.store.form_put_object _
    · exact Store.reduceWithin_of_whole s.store.form_put_object Store.empty.form_put_object _
    · have hempty : Store.empty.Untaught := fun f => rfl
      exact fun method => Store.throughMethod_put huntaught hempty
  · intro st sts hst _ halong _
    exact pulls_of_edit hsound hst (halong.mem fun _ _ hst => hst.1)
  · intro id path w
    exact ⟨unedited_of_stored rfl, unedited_of_stored rfl⟩

/-- The session in which two skeletons of one kind have been made. -/
def twoMade (key : Int) : Session :=
  (initial.run .standard [.makeSkeleton "a" (.ok (.int key)), .makeSkeleton "b" (.ok (.int key))]).2

private theorem goes_twoMade (key : Int) : Goes .standard Secluded initial (twoMade key) := by
  have hmade : ∀ s id, Secluded s (.makeSkeleton id (.ok (.int key))) := fun _ _ => ⟨False.elim, trivial⟩
  exact .tail (.tail .refl ⟨_, hmade _ "a", rfl⟩) ⟨_, hmade _ "b", rfl⟩

/-- A generator is opened and pulled. -/
def onePulled : List Step := [
  .makeSource "n" (.scripted [.ok (.text "t")] [.ok (.uuid .zero)]),
  .openGenerator "g" (.ok (.listed [.key .metadata])) (.ok (.constant (.int 1))) (some "n"), .next "g" none]

/-- One of two skeletons is edited, and the other shows nothing of it, nor does a third one; and a generator that is
opened afterwards gives what it would have given. -/
theorem messages_share_nothing_two_skeletons :
    let edit : Step := .set "a" [.text "topics"] (.ok (.list [.int 5]))
    let s := ((twoMade 3).step .standard edit).2
    ¬ s.store.Part (.ref 0) (.ref 1) ∧ s.store.item "b" = .ok (.ref 1) ∧
      s.store.read (.ref 1) = (twoMade 3).store.read (.ref 1) ∧
      s.store.throughMethod (.ref 1) "to_dict" = (twoMade 3).store.throughMethod (.ref 1) "to_dict" ∧
      (∃ s' x, s.step .standard (.makeSkeleton "c" (.ok (.int 3))) = (.ok .nothing, s') ∧
        s'.store.item "c" = .ok x ∧ s'.store.read x = some ApiKey.metadata.skeleton) ∧
      pulls (s.run .standard onePulled).1 = pulls ((twoMade 3).run .standard onePulled).1 := by
  intro edit s
  have hedit : Secluded (twoMade 3) edit := by
    refine ⟨False.elim, ?_⟩
    rintro ⟨x, y, s', hx, hwalk, hcommon⟩
    cases hx
    cases hwalk
    exact hcommon
  have hmade := goes_twoMade 3
  have hafter : Goes .standard Secluded initial s := .tail hmade ⟨edit, hedit, rfl⟩
  obtain ⟨-, hleft, -, hpulls, hunedited⟩ := messages_share_nothing .standard hmade
  obtain ⟨hpart, -, hskeleton, -, -⟩ := messages_share_nothing .standard hafter
  have ha : s.store.item "a" = .ok (.ref 0) := rfl
  have hb : (twoMade 3).store.item "b" = .ok (.ref 1) := rfl
  obtain ⟨hsame, hmethod⟩ := hleft hb (.single ⟨edit, ⟨hedit, by decide⟩, rfl⟩)
  refine ⟨?_, hsame.item, hsame.read _, hmethod rfl _, ?_, ?_⟩
  · intro h
    have hid := hpart ha hsame.item h .self
    exact absurd hid (by decide)
  · have hthree : Tables.standard.skeleton (.int 3) = .ok ApiKey.metadata.skeleton := rfl
    obtain ⟨s', x, -, hstep, hx, hread, -⟩ := hskeleton "c" hthree
    exact ⟨s', x, hstep, hx, hread⟩
  · have halong : ∀ s : Session, s.Along .standard Secluded onePulled :=
      fun s => ⟨⟨False.elim, trivial⟩, ⟨False.elim, trivial⟩, ⟨False.elim, trivial⟩, trivial⟩
    have h := hpulls (show edit.Edits from trivial) hedit (halong _) (halong _)
    rwa [(hunedited _ _ _).1] at h

/-- Families are shared: what is set in the family of one message takes the place of a method of another, although
nothing that a message holds is shared. -/
theorem messages_share_families :
    let edit : Step := .set "a" [.text "__class__", .text "to_dict"] (.ok (.int 5))
    Goes .standard Secluded initial (twoMade 16) ∧ ¬ edit.Shares ∧ edit.touched? = some "a" ∧
      (twoMade 16).store.item "b" = .ok (.ref 1) ∧
      (twoMade 16).store.throughMethod (.ref 1) "to_dict" = .ok (.dict [("states_filter", .list [])]) ∧
      ((twoMade 16).step .standard edit).2.store.throughMethod (.ref 1) "to_dict" = .error (.notCallable "int") :=
  ⟨goes_twoMade 16, False.elim, rfl, rfl, rfl, rfl⟩

end RequestSamples.Session
