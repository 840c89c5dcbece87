/-!
# Computations that have succeeded or failed

A chain of computations succeeds with a result exactly if every link succeeds in turn, and fails exactly if
one of them does.  Going through a list succeeds exactly if every turn does, so what a turn gives can be read
off element by element.  If all links fail only with failures of a kind, so does the chain.
-/

namespace RequestSamples

variable {ε α β γ : Type}

namespace Except

theorem bind_eq_ok {x : Except ε α} {f : α → Except ε β} {b : β} :
    (x >>= f) = .ok b ↔ ∃ a, x = .ok a ∧ f a = .ok b := by
  cases x with
  | error e =>
    constructor
    · intro h; cases h
    · rintro ⟨a, ha, -⟩; cases ha
  | ok a =>
    constructor
    · intro h; exact ⟨a, rfl, h⟩
    · rintro ⟨a', ha, h⟩; cases ha; exact h

theorem bind_eq_error {x : Except ε α} {f : α → Except ε β} {e : ε} :
    (x >>= f) = .error e ↔ x = .error e ∨ ∃ a, x = .ok a ∧ f a = .error e := by
  cases x with
  | error e' =>
    constructor
    · intro h; cases h; exact .inl rfl
    · rintro (h | ⟨a, ha, -⟩)
      · cases h; rfl
      · cases ha
  | ok a =>
    constructor
    · intro h; exact .inr ⟨a, rfl, h⟩
    · rintro (h | ⟨a', ha, h⟩)
      · cases h
      · cases ha; exact h

theorem pure_eq_ok {a b : α} : (pure a : Except ε α) = .ok b ↔ a = b :=
  ⟨fun h => Except.ok.inj h, fun h => h ▸ rfl⟩

theorem throw_ne_ok {e : ε} {b : α} : (throw e : Except ε α) ≠ .ok b := by
  intro h; cases h

/-- Going through a list gives what its elements give, if the results of the turns are those of a partial
function. -/
theorem mapM_eq_ok {f : α → Except ε β} {g : α → Option γ} {h : γ → β}
    (turn : ∀ a b, f a = .ok b ↔ ∃ c, g a = some c ∧ b = h c) {as : List α} {bs : List β} :
    as.mapM f = .ok bs ↔ ∃ cs, as.mapM g = some cs ∧ bs = cs.map h := by
  induction as generalizing bs with
  | nil =>
    rw [List.mapM_nil, pure_eq_ok]
    constructor
    · rintro rfl; exact ⟨[], rfl, rfl⟩
    · rintro ⟨cs, hc, rfl⟩; cases hc; rfl
  | cons a as ih =>
    simp only [List.mapM_cons, bind_eq_ok, pure_eq_ok, turn, ih, Option.bind_eq_bind, Option.bind_eq_some_iff,
      Option.pure_def, Option.some.injEq]
    constructor
    · rintro ⟨_, ⟨c, hc, rfl⟩, _, ⟨cs, hcs, rfl⟩, rfl⟩
      exact ⟨c :: cs, ⟨c, hc, cs, hcs, rfl⟩, rfl⟩
    · rintro ⟨_, ⟨c, hc, cs, hcs, rfl⟩, rfl⟩
      exact ⟨_, ⟨c, hc, rfl⟩, _, ⟨cs, hcs, rfl⟩, rfl⟩

/-- All failures of a computation are of a kind. -/
def OnlyFails (P : ε → Prop) (x : Except ε α) : Prop := ∀ e, x = .error e → P e

section

variable {P : ε → Prop}

theorem OnlyFails.ok (a : α) : OnlyFails P (.ok a) := by
  intro e h; cases h

theorem OnlyFails.error {e : ε} (he : P e) : OnlyFails (α := α) P (.error e) := by
  intro e' h; cases h; exact he

theorem OnlyFails.mono {Q : ε → Prop} {x : Except ε α} (hx : OnlyFails P x) (h : ∀ e, P e → Q e) :
    OnlyFails Q x :=
  fun e he => h e (hx e he)

theorem OnlyFails.bind {x : Except ε α} {f : α → Except ε β} (hx : OnlyFails P x)
    (hf : ∀ a, OnlyFails P (f a)) : OnlyFails P (x >>= f) := by
  intro e h
  rcases bind_eq_error.mp h with h | ⟨a, -, h⟩
  · exact hx e h
  · exact hf a e h

theorem OnlyFails.map {x : Except ε α} (hx : OnlyFails P x) (f : α → β) : OnlyFails P (x.map f) := by
  intro e h
  cases x with
  | error e' => cases h; exact hx e rfl
  | ok a => cases h

theorem OnlyFails.mapM {f : α → Except ε β} (hf : ∀ a, OnlyFails P (f a)) (as : List α) :
    OnlyFails P (as.mapM f) := by
  induction as with
  | nil => rw [List.mapM_nil]; exact .ok _
  | cons a as ih =>
    rw [List.mapM_cons]
    exact (hf a).bind fun b => ih.bind fun bs => .ok _

end

end Except

theorem length_eq_of_mapM_eq_some {f : α → Option β} {as : List α} {bs : List β} (h : as.mapM f = some bs) :
    bs.length = as.length := by
  induction as generalizing bs with
  | nil => cases h; rfl
  | cons a as ih =>
    simp only [List.mapM_cons, Option.bind_eq_bind, Option.bind_eq_some_iff, Option.pure_def,
      Option.some.injEq] at h
    obtain ⟨b, -, cs, hcs, rfl⟩ := h
    rw [List.length_cons, List.length_cons, ih hcs]

theorem getElem?_of_mapM_eq_some {f : α → Option β} {as : List α} {bs : List β} (h : as.mapM f = some bs)
    {i : Nat} {a : α} (ha : as[i]? = some a) : ∃ b, bs[i]? = some b ∧ f a = some b := by
  induction as generalizing bs i with
  | nil => cases ha
  | cons a' as ih =>
    simp only [List.mapM_cons, Option.bind_eq_bind, Option.bind_eq_some_iff, Option.pure_def,
      Option.some.injEq] at h
    obtain ⟨b, hb, cs, hcs, rfl⟩ := h
    cases i with
    | zero =>
      rw [List.getElem?_cons_zero, Option.some.injEq] at ha
      exact ⟨b, rfl, ha ▸ hb⟩
    | succ i => exact ih hcs ha

theorem exists_mapM_eq_some {f : α → Option β} {as : List α} :
    (∃ bs, as.mapM f = some bs) ↔ ∀ a ∈ as, ∃ b, f a = some b := by
  induction as with
  | nil =>
    constructor
    · intro _ a ha; cases ha
    · intro _; exact ⟨[], rfl⟩
  | cons a as ih =>
    simp only [List.mapM_cons, Option.bind_eq_bind, Option.bind_eq_some_iff, Option.pure_def, Option.some.injEq,
      List.forall_mem_cons]
    rw [← ih]
    constructor
    · rintro ⟨_, b, hb, bs, hbs, -⟩
      exact ⟨⟨b, hb⟩, bs, hbs⟩
    · rintro ⟨⟨b, hb⟩, bs, hbs⟩
      exact ⟨b :: bs, b, hb, bs, hbs, rfl⟩

end RequestSamples
