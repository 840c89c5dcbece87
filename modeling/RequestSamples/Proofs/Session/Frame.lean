import RequestSamples.Proofs.Session.Editing
import RequestSamples.Proofs.Session.Likeness

/-!
# What does not change with the nodes of others

A message consists of what it leads to (`Part`), and all of it belongs to the message (`Within.part`).  What the
message reads as and its plain data depend on nothing else: they are the same in stores in which its nodes are the
same (`Untouched.readWithin`, `Untouched.reduceWithin`).
-/

namespace RequestSamples.Session.Store

variable {own : Owners} {s s' : Store} {c : Option String} {x y : Item} {a t : Nat}

theorem Within.part (hx : Within own s.nodes.size c x) (hs : Sound own s) (hy : s.Part x y) :
    Within own s.nodes.size c y := by
  induction hy with
  | self => exact hx
  | @element a xs y _ hnode hmem ih =>
    have hholds := hs.nodes a ih.1
    rw [hnode, ih.2] at hholds
    exact (hholds y hmem).1
  | @entry a es e _ hnode hmem ih =>
    have hholds := hs.nodes a ih.1
    rw [hnode, ih.2] at hholds
    exact (hholds e hmem).1
  | @attributes a shape t _ hnode ih =>
    have hholds := hs.nodes a ih.1
    rw [hnode, ih.2] at hholds
    exact ⟨hholds.1, hholds.2.1⟩

/-- The nodes of an owner are the same in both stores. -/
def Untouched (own : Owners) (c : Option String) (s s' : Store) : Prop :=
  ∀ a, a < s.nodes.size → own a = c → s'.node a = s.node a

theorem Untouched.table (h : Untouched own c s s') (ht : t < s.nodes.size) (hown : own t = c) :
    s'.table t = s.table t := by
  rw [Store.table, Store.table, h t ht hown]

theorem Untouched.mirrors (h : Untouched own c s s') (hs : Sound own s) (hx : Within own s.nodes.size c x) :
    Mirrors (fun y z => y = z ∧ s.Part x y) s s' :=
  mirrors_parts fun b hb => h b (hx.part hs hb).1 (hx.part hs hb).2

theorem Untouched.family (h : Untouched own c s s') (hs : Sound own s) (hx : Within own s.nodes.size c x) :
    s'.family x = s.family x :=
  (h.mirrors hs hx).family ⟨rfl, .self⟩

theorem Untouched.readWithin (h : Untouched own c s s') (hs : Sound own s) (room : Nat)
    (hx : Within own s.nodes.size c x) : s'.readWithin room x = s.readWithin room x :=
  (h.mirrors hs hx).readWithin room ⟨rfl, .self⟩

theorem Untouched.reduceWithin (h : Untouched own c s s') (hs : Sound own s) (room : Nat)
    (hx : Within own s.nodes.size c x) : s'.reduceWithin room x = s.reduceWithin room x :=
  (h.mirrors hs hx).reduceWithin room ⟨rfl, .self⟩

end RequestSamples.Session.Store
