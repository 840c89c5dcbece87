import RequestSamples.Proofs.Entries
import RequestSamples.Session.Display

/-!
# Items that are alike

What an item reads as and its plain data follow from its form and from those of its parts.  So if items that are
related have forms that are alike, part by part again with related items, then related items read as the same and have
the same plain data (`Mirrors.readWithin`, `Mirrors.reduceWithin`), wherever in two stores they stand.  In particular
an item reads as before as long as the nodes of what it leads to are as before (`mirrors_parts`).
-/

namespace RequestSamples.Session

open Entries (Agree agree_self)

/-- The forms are of one sort, and their parts are related one by one. -/
inductive Form.Alike (r : Item → Item → Prop) : Form → Form → Prop
  | whole (v : Value) : Alike r (.whole v) (.whole v)
  | list {xs ys : List Item} (h : List.Forall₂ r xs ys) : Alike r (.list xs) (.list ys)
  | table {es fs : Attributes} (h : Agree r es fs) : Alike r (.table es) (.table fs)
  | object (shape : Shape) {es fs : Attributes} (h : Agree r es fs) : Alike r (.object shape es) (.object shape fs)

theorem Form.Alike.family {r : Item → Item → Prop} {f g : Form} (h : f.Alike r g) : g.family = f.family := by
  cases h <;> rfl

namespace Store

/-- Related items of the two stores have forms that are alike. -/
def Mirrors (r : Item → Item → Prop) (s s' : Store) : Prop := ∀ x y, r x y → (s.form x).Alike r (s'.form y)

variable {r : Item → Item → Prop} {s s' : Store} {x y : Item}

theorem Mirrors.family (h : Mirrors r s s') (hxy : r x y) : s'.family y = s.family x := (h x y hxy).family

theorem Mirrors.readWithin (h : Mirrors r s s') (room : Nat) (hxy : r x y) :
    s'.readWithin room y = s.readWithin room x := by
  induction room generalizing x y with
  | zero =>
    have halike := h x y hxy
    unfold Store.readWithin
    generalize s.form x = f at halike ⊢
    generalize s'.form y = g at halike ⊢
    cases halike <;> rfl
  | succ room ih =>
    have halike := h x y hxy
    have below : ∀ x y, r x y → s.readWithin room x = s'.readWithin room y := fun x y hxy => (ih hxy).symm
    unfold Store.readWithin
    generalize s.form x = f at halike ⊢
    generalize s'.form y = g at halike ⊢
    cases halike with
    | whole v => rfl
    | list hxs =>
      dsimp only
      rw [mapM_eq_of_forall₂ (hxs.imp below)]
    | table hes =>
      dsimp only
      rw [Agree.traverse (hes.imp below)]
    | object shape hes =>
      dsimp only
      rw [Agree.traverse ((hes.imp below).pick shape.writtenNames)]

theorem Mirrors.reduceWithin (h : Mirrors r s s') (room : Nat) (hxy : r x y) :
    s'.reduceWithin room y = s.reduceWithin room x := by
  induction room generalizing x y with
  | zero =>
    have halike := h x y hxy
    unfold Store.reduceWithin
    generalize s.form x = f at halike ⊢
    generalize s'.form y = g at halike ⊢
    cases halike <;> rfl
  | succ room ih =>
    have halike := h x y hxy
    have below : ∀ x y, r x y → s.reduceWithin room x = s'.reduceWithin room y := fun x y hxy => (ih hxy).symm
    unfold Store.reduceWithin
    generalize s.form x = f at halike ⊢
    generalize s'.form y = g at halike ⊢
    cases halike with
    | whole v => rfl
    | list hxs =>
      dsimp only
      rw [mapM_eq_of_forall₂ (hxs.imp below)]
    | table hes =>
      dsimp only
      rw [Agree.traverse (hes.imp below)]
    | object shape hes =>
      dsimp only
      rw [Shape.written, Shape.written, Agree.traverse ((hes.imp below).pick shape.writtenNames)]

/-- What an item leads to: its elements, its entries, its table of attributes, and what these lead to. -/
inductive Part (s : Store) (x : Item) : Item → Prop
  | self : Part s x x
  | element {a : Nat} {xs : List Item} {y : Item} : Part s x (.ref a) → s.node a = .list xs → y ∈ xs → Part s x y
  | entry {a : Nat} {es : Attributes} {e : String × Item} :
    Part s x (.ref a) → s.node a = .table es → e ∈ es → Part s x e.2
  | attributes {a : Nat} {shape : Shape} {t : Nat} :
    Part s x (.ref a) → s.node a = .object shape t → Part s x (.ref t)

theorem Part.table {t : Nat} (h : s.Part x (.ref t)) {e : String × Item} (he : e ∈ s.table t) : s.Part x e.2 := by
  unfold Store.table at he
  split at he
  · rename_i hnode
    exact h.entry hnode he
  · cases he

/-- The parts of an item are what they were, if their nodes are. -/
theorem mirrors_parts (h : ∀ b, s.Part x (.ref b) → s'.node b = s.node b) :
    Mirrors (fun y z => y = z ∧ s.Part x y) s s' := by
  rintro y _ ⟨rfl, hy⟩
  cases y with
  | ref a =>
    rw [form, form, h a hy]
    cases hnode : s.node a with
    | whole v => exact .whole v
    | list xs => exact .list (List.forall₂_same.mpr fun z hz => ⟨rfl, hy.element hnode hz⟩)
    | table es => exact .table (agree_self fun e he => ⟨rfl, hy.entry hnode he⟩)
    | object shape t =>
      have ht := hy.attributes hnode
      have htable : s'.table t = s.table t := by rw [Store.table, Store.table, h t ht]
      dsimp only
      rw [htable]
      exact .object shape (agree_self fun e he => ⟨rfl, ht.table he⟩)
  | _ => exact .whole _

end Store

end RequestSamples.Session
