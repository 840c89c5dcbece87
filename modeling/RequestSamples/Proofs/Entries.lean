import Mathlib.Data.List.Forall2
import RequestSamples.Value

/-!
# Lists of named things

Looking names up in lists, and lists in which the same names stand in the same order.  Of such lists one finds and
traverses the same, as far as what they name is the same.
-/

namespace RequestSamples

theorem lookup_filter_ne {α β : Type} [DecidableEq α] {n n' : α} (h : n' ≠ n) (es : List (α × β)) :
    (es.filter fun e => e.1 ≠ n).lookup n' = es.lookup n' := by
  induction es with
  | nil => rfl
  | cons e es ih =>
    rw [List.filter_cons]
    by_cases he : e.1 = n
    · have hne : (n' == e.1) = false := by rw [he]; exact beq_false_of_ne h
      simp only [he, ne_eq, not_true_eq_false, decide_false, Bool.false_eq_true, if_false]
      rw [List.lookup_cons, hne]
      exact ih
    · simp only [he, ne_eq, not_false_eq_true, decide_true, if_true]
      rw [List.lookup_cons, List.lookup_cons]
      split
      · rfl
      · exact ih

theorem mem_of_lookup {α β : Type} [BEq α] [LawfulBEq α] {n : α} {b : β} {es : List (α × β)}
    (h : es.lookup n = some b) : (n, b) ∈ es := by
  obtain ⟨l₁, l₂, rfl, -⟩ := List.lookup_eq_some_iff.mp h
  exact List.mem_append_right _ List.mem_cons_self

theorem mapM_eq_of_forall₂ {m : Type → Type} [Monad m] [LawfulMonad m] {α β γ : Type} {f : α → m γ} {g : β → m γ}
    {as : List α} {bs : List β} (h : List.Forall₂ (fun a b => f a = g b) as bs) : as.mapM f = bs.mapM g := by
  induction h with
  | nil => rfl
  | cons hab _ ih => rw [List.mapM_cons, List.mapM_cons, hab, ih]

theorem mapM_eq_some_of_forall₂ {α β : Type} {f : α → Option β} {as : List α} {bs : List β}
    (h : List.Forall₂ (fun a b => f a = some b) as bs) : as.mapM f = some bs := by
  induction h with
  | nil => rfl
  | cons hab _ ih => rw [List.mapM_cons, hab, Option.bind_eq_bind, Option.bind_some, ih]; rfl

namespace Entries

theorem mem_put {α : Type} {name : String} {a : α} {es : List (String × α)} {e : String × α}
    (h : e ∈ put name a es) : e = (name, a) ∨ e ∈ es := by
  induction es with
  | nil => exact .inl (List.mem_singleton.mp h)
  | cons e' es ih =>
    unfold put at h
    split at h
    · rcases List.mem_cons.mp h with rfl | h
      · exact .inl rfl
      · exact .inr (List.mem_cons_of_mem _ h)
    · rcases List.mem_cons.mp h with rfl | h
      · exact .inr List.mem_cons_self
      · rcases ih h with h | h
        · exact .inl h
        · exact .inr (List.mem_cons_of_mem _ h)

/-- The entries agree: names are the same, and what they name is related. -/
def Agree {α β : Type} (r : α → β → Prop) : List (String × α) → List (String × β) → Prop :=
  List.Forall₂ fun e f => e.1 = f.1 ∧ r e.2 f.2

variable {α β : Type} {r : α → β → Prop} {es : List (String × α)} {fs : List (String × β)}

theorem Agree.lookup (h : Agree r es fs) (name : String) :
    (es.lookup name = none ∧ fs.lookup name = none) ∨
      ∃ a b, es.lookup name = some a ∧ fs.lookup name = some b ∧ r a b := by
  induction h with
  | nil => exact .inl ⟨rfl, rfl⟩
  | @cons e f _ _ hef _ ih =>
    obtain ⟨n, a⟩ := e
    obtain ⟨_, b⟩ := f
    obtain ⟨rfl, hab⟩ := hef
    rw [List.lookup_cons, List.lookup_cons]
    cases name == n with
    | true => exact .inr ⟨a, b, rfl, rfl, hab⟩
    | false => exact ih

theorem Agree.pick (h : Agree r es fs) (names : List String) : Agree r (pick names es) (pick names fs) := by
  unfold Entries.pick
  induction names with
  | nil => exact .nil
  | cons name names ih =>
    rcases h.lookup name with ⟨he, hf⟩ | ⟨a, b, he, hf, hab⟩
    · rw [List.filterMap_cons, List.filterMap_cons, he, hf]
      exact ih
    · rw [List.filterMap_cons, List.filterMap_cons, he, hf]
      exact .cons ⟨rfl, hab⟩ ih

theorem Agree.traverse {m : Type → Type} [Monad m] [LawfulMonad m] {γ : Type} {f : α → m γ} {g : β → m γ}
    (h : Agree (fun a b => f a = g b) es fs) : traverse f es = traverse g fs := by
  refine mapM_eq_of_forall₂ (h.imp ?_)
  rintro ⟨n, a⟩ ⟨_, b⟩ ⟨rfl, hab⟩
  dsimp only at hab ⊢
  rw [hab]

theorem Agree.imp {q : α → β → Prop} (h : Agree r es fs) (hq : ∀ a b, r a b → q a b) : Agree q es fs :=
  List.Forall₂.imp (fun _ _ hef => ⟨hef.1, hq _ _ hef.2⟩) h

theorem agree_self {r : α → α → Prop} (h : ∀ e ∈ es, r e.2 e.2) : Agree r es es :=
  List.forall₂_same.mpr fun e he => ⟨rfl, h e he⟩

theorem Agree.and_left {p : α → Prop} (h : Agree r es fs) (hp : ∀ e ∈ es, p e.2) :
    Agree (fun a b => p a ∧ r a b) es fs :=
  ((List.forall₂_and_left es fs).mpr ⟨hp, h⟩).imp fun _ _ hef => ⟨hef.2.1, hef.1, hef.2.2⟩

theorem Agree.trans {γ : Type} {q : β → γ → Prop} {p : α → γ → Prop} {gs : List (String × γ)} (h : Agree r es fs)
    (h' : Agree q fs gs) (hp : ∀ a b c, r a b → q b c → p a c) : Agree p es gs := by
  induction h generalizing gs with
  | nil =>
    cases h'
    exact .nil
  | cons hef _ ih =>
    cases h' with
    | cons hfg htail => exact .cons ⟨hef.1.trans hfg.1, hp _ _ _ hef.2 hfg.2⟩ (ih htail)

/-- Lists that agree with the same list agree with each other. -/
theorem Agree.join {γ : Type} {q : α → γ → Prop} {gs : List (String × γ)} (h : Agree r es fs) (h' : Agree q es gs) :
    Agree (fun b c => ∃ a, r a b ∧ q a c) fs gs := by
  induction h generalizing gs with
  | nil =>
    cases h'
    exact .nil
  | cons hef _ ih =>
    cases h' with
    | cons heg htail => exact .cons ⟨hef.1.symm.trans heg.1, _, hef.2, heg.2⟩ (ih htail)

theorem agree_zip {bs : List β} (h : List.Forall₂ r (es.map (·.2)) bs) : Agree r es ((es.map (·.1)).zip bs) := by
  induction es generalizing bs with
  | nil => exact .nil
  | cons e es ih =>
    cases h with
    | cons hb htail => exact .cons ⟨rfl, hb⟩ (ih htail)

private theorem put_concat {name : String} (h : name ∉ es.map (·.1)) (a : α) :
    put name a es = es ++ [(name, a)] := by
  induction es with
  | nil => rfl
  | cons e es ih =>
    rw [List.map_cons, List.mem_cons, not_or] at h
    rw [put, if_neg (Ne.symm h.1), ih h.2]
    rfl

private theorem foldl_put {es acc : Entries} (h : ((acc ++ es).map (·.1)).Nodup) :
    es.foldl (fun acc (n, v) => put n v acc) acc = acc ++ es := by
  induction es generalizing acc with
  | nil => simp
  | cons e es ih =>
    obtain ⟨n, v⟩ := e
    have hnew : n ∉ acc.map (·.1) := by
      intro hmem
      rw [List.map_append, List.nodup_append] at h
      exact h.2.2 n hmem n List.mem_cons_self rfl
    have hrest : ((acc ++ [(n, v)] ++ es).map (·.1)).Nodup := by simpa using h
    rw [List.foldl_cons]
    dsimp only
    rw [put_concat hnew, ih hrest]
    simp

/-- Entries in which no name stands twice stay as they are when they are put one after the other. -/
theorem ofList_of_nodup {es : Entries} (h : (es.map (·.1)).Nodup) : ofList es = es :=
  foldl_put (by simpa using h)

theorem lookup_of_mem {name : String} {a : α} (h : (es.map (·.1)).Nodup) (hmem : (name, a) ∈ es) :
    es.lookup name = some a := by
  induction es with
  | nil => cases hmem
  | cons e es ih =>
    rw [List.map_cons, List.nodup_cons] at h
    rcases List.mem_cons.mp hmem with rfl | hmem
    · simp
    · have hne : (name == e.1) = false := by
        rw [beq_eq_false_iff_ne]
        rintro rfl
        exact h.1 (List.mem_map.mpr ⟨(e.1, a), hmem, rfl⟩)
      rw [List.lookup_cons, hne]
      exact ih h.2 hmem

theorem lookup_map (f : α → β) (es : List (String × α)) (name : String) :
    (es.map fun e => (e.1, f e.2)).lookup name = (es.lookup name).map f := by
  induction es with
  | nil => rfl
  | cons e es ih =>
    rw [List.map_cons, List.lookup_cons, List.lookup_cons, ih]
    split <;> rfl

/-- Picking entries and making something else of each value can be exchanged. -/
theorem pick_map (f : α → β) (names : List String) (es : List (String × α)) :
    pick names (es.map fun e => (e.1, f e.2)) = (pick names es).map fun e => (e.1, f e.2) := by
  rw [pick, pick, List.map_filterMap]
  simp only [lookup_map, Option.map_map]
  rfl

/-- Entries put into others, one after the other. -/
def putAll (ws es : List (String × α)) : List (String × α) := ws.foldl (fun es w => put w.1 w.2 es) es

variable {name n : String} {a b : α} {ws ws' : List (String × α)}

private theorem lookup_put_self (name : String) (a : α) (es : List (String × α)) :
    (put name a es).lookup name = some a := by
  induction es with
  | nil => exact List.lookup_cons_self
  | cons e es ih =>
    rw [put]
    split
    · exact List.lookup_cons_self
    · rename_i hne
      rw [List.lookup_cons, beq_false_of_ne (Ne.symm hne), ih]

private theorem lookup_put_ne (h : name ≠ n) (a : α) (es : List (String × α)) :
    (put n a es).lookup name = es.lookup name := by
  induction es with
  | nil => rw [put, List.lookup_cons, beq_false_of_ne h]
  | cons e es ih =>
    rw [put]
    split
    · rename_i heq
      rw [List.lookup_cons, List.lookup_cons, heq, beq_false_of_ne h]
    · rw [List.lookup_cons, List.lookup_cons, ih]

/-- What is put under a name replaces what has been put there before. -/
private theorem put_put (name : String) (a b : α) (es : List (String × α)) :
    put name b (put name a es) = put name b es := by
  induction es with
  | nil => exact if_pos rfl
  | cons e es ih =>
    rw [put]
    split
    · rename_i heq
      rw [put, put, if_pos rfl, if_pos heq]
    · rename_i hne
      rw [put, put, if_neg hne, if_neg hne, ih]

/-- A name that is there already has its place, whatever is put under other names. -/
private theorem put_comm (h : name ∈ es.map (·.1)) (hne : n ≠ name) (a b : α) :
    put n b (put name a es) = put name a (put n b es) := by
  induction es with
  | nil => cases h
  | cons e es ih =>
    obtain ⟨m, c⟩ := e
    by_cases hm : m = name
    · subst hm
      have hnm : m ≠ n := Ne.symm hne
      rw [put, if_pos rfl, put, if_neg hnm, put, if_neg hnm, put, if_pos rfl]
    · have htail : name ∈ es.map (·.1) := by
        rcases List.mem_cons.mp h with heq | h
        · exact absurd heq.symm hm
        · exact h
      rw [put, if_neg hm]
      by_cases hn : m = n
      · rw [put, if_pos hn, put, if_pos hn, put, if_neg hne]
      · rw [put, if_neg hn, put, if_neg hn, put, if_neg hm, ih htail]

private theorem mem_names_put {m : String} : m ∈ (put n a es).map (·.1) ↔ m = n ∨ m ∈ es.map (·.1) := by
  induction es with
  | nil => rw [put, List.map_cons, List.mem_cons, List.map_nil]
  | cons e es ih =>
    rw [put]
    split
    · rename_i heq
      rw [List.map_cons, List.mem_cons, List.map_cons, List.mem_cons, heq]
      tauto
    · rw [List.map_cons, List.mem_cons, List.map_cons, List.mem_cons, ih]
      tauto

private theorem put_putAll (hname : name ∈ es.map (·.1)) (hws : name ∉ ws.map (·.1)) :
    put name a (putAll ws es) = putAll ws (put name a es) := by
  induction ws generalizing es with
  | nil => rfl
  | cons w ws ih =>
    rw [List.map_cons, List.mem_cons, not_or] at hws
    rw [putAll, List.foldl_cons, putAll, List.foldl_cons]
    show put name a (putAll ws (put w.1 w.2 es)) = putAll ws (put w.1 w.2 (put name a es))
    rw [ih (mem_names_put.mpr (.inr hname)) hws.2, put_comm hname (Ne.symm hws.1)]

/-- What is put under some names replaces all that has been put under them before. -/
theorem putAll_putAll (h : ws.map (·.1) = ws'.map (·.1)) (hnodup : (ws.map (·.1)).Nodup) :
    putAll ws' (putAll ws es) = putAll ws' es := by
  induction ws generalizing ws' es with
  | nil => rfl
  | cons w ws ih =>
    cases ws' with
    | nil => cases h
    | cons w' ws' =>
      obtain ⟨n, a⟩ := w
      obtain ⟨n', b⟩ := w'
      rw [List.map_cons, List.map_cons, List.cons.injEq] at h
      obtain ⟨rfl, htail⟩ := h
      rw [List.map_cons, List.nodup_cons] at hnodup
      show putAll ws' (put n b (putAll ws (put n a es))) = putAll ws' (put n b es)
      rw [put_putAll (mem_names_put.mpr (.inl rfl)) hnodup.1, put_put, ih htail hnodup.2]

theorem lookup_putAll_of_not_mem (h : name ∉ ws.map (·.1)) : (putAll ws es).lookup name = es.lookup name := by
  induction ws generalizing es with
  | nil => rfl
  | cons w ws ih =>
    rw [List.map_cons, List.mem_cons, not_or] at h
    exact (ih h.2).trans (lookup_put_ne h.1 _ _)

theorem lookup_putAll_of_mem (hnodup : (ws.map (·.1)).Nodup) (h : (name, a) ∈ ws) :
    (putAll ws es).lookup name = some a := by
  induction ws generalizing es with
  | nil => cases h
  | cons w ws ih =>
    rw [List.map_cons, List.nodup_cons] at hnodup
    rcases List.mem_cons.mp h with rfl | h
    · exact (lookup_putAll_of_not_mem hnodup.1).trans (lookup_put_self _ _ _)
    · exact ih hnodup.2 h

theorem mem_putAll {e : String × α} (h : e ∈ putAll ws es) : e ∈ ws ∨ e ∈ es := by
  induction ws generalizing es with
  | nil => exact .inr h
  | cons w ws ih =>
    rcases ih h with h | h
    · exact .inl (List.mem_cons_of_mem _ h)
    · rcases mem_put h with rfl | h
      · exact .inl List.mem_cons_self
      · exact .inr h

theorem Agree.put {b : β} (h : Agree r es fs) (hab : r a b) (name : String) :
    Agree r (put name a es) (put name b fs) := by
  induction h with
  | nil => exact .cons ⟨rfl, hab⟩ .nil
  | @cons e f es fs hef htail ih =>
    rw [Entries.put, Entries.put, hef.1]
    split
    · exact .cons ⟨rfl, hab⟩ htail
    · exact .cons ⟨rfl, hef.2⟩ ih

theorem Agree.putAll {us : List (String × β)} (h : Agree r es fs) (hws : Agree r ws us) :
    Agree r (putAll ws es) (putAll us fs) := by
  induction hws generalizing es fs with
  | nil => exact h
  | @cons w u ws us hwu _ ih =>
    show Agree r (Entries.putAll ws (Entries.put w.1 w.2 es)) (Entries.putAll us (Entries.put u.1 u.2 fs))
    rw [← hwu.1]
    exact ih (h.put hwu.2 w.1)

end Entries

end RequestSamples
