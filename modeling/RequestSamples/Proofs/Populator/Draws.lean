import RequestSamples.Proofs.Populator.Demand

/-!
# Draws that follow each other

A history of draws from a source tells for each draw what it gave.  The draws of a history follow each other if
each was made on the source as the one before it had left it (`Consecutive`).  What a populator draws is such a
history, also if it stops at a draw that fails (`consecutive_made`).
-/

namespace RequestSamples.Populator

variable {σ : Type}

open RequestSamples.Session (drawFrom)

/-- Draws with what they gave, in order. -/
abbrev History := List (Draw × Except Failure Value)

/-- The draws of the history follow each other and lead from one state of the source to another. -/
inductive Consecutive (source : NameSource σ) : σ → History → σ → Prop
  | nil (s : σ) : Consecutive source s [] s
  | cons {s s' : σ} {d : Draw} {h : History} (rest : Consecutive source ((drawFrom source d).on s).2 h s') :
    Consecutive source s ((d, ((drawFrom source d).on s).1) :: h) s'

/-- The draws that have given these values: ids, or else names. -/
def givings (vs : List Value) : History :=
  vs.map fun
    | .uuid u => (.uuid, .ok (.uuid u))
    | v => (.name, .ok v)

/-- The history of draws of these kinds up to the first that fails. -/
def made (source : NameSource σ) : List Draw → σ → History
  | [], _ => []
  | d :: ds, s =>
    match (drawFrom source d).on s with
    | (.error e, _) => [(d, .error e)]
    | (.ok v, s) => (d, .ok v) :: made source ds s

variable {source : NameSource σ} {s s' s'' : σ}

theorem Consecutive.append {h k : History} (first : Consecutive source s h s')
    (second : Consecutive source s' k s'') : Consecutive source s (h ++ k) s'' := by
  induction first with
  | nil => exact second
  | cons _ ih => exact .cons (ih second)

theorem consecutive_single (source : NameSource σ) (s : σ) (d : Draw) :
    Consecutive source s [(d, ((drawFrom source d).on s).1)] ((drawFrom source d).on s).2 :=
  .cons (.nil _)

theorem consecutive_made (source : NameSource σ) (ds : List Draw) (s : σ) :
    Consecutive source s (made source ds s) (drawAll source ds s).2 := by
  induction ds generalizing s with
  | nil => exact .nil s
  | cons d ds ih =>
    have hd := consecutive_single source s d
    unfold made drawAll
    rcases hr : (drawFrom source d).on s with ⟨e | v, s'⟩
    · rw [hr] at hd
      exact hd
    · have hrest := ih s'
      rw [hr] at hd
      dsimp only
      rcases hds : drawAll source ds s' with ⟨e | vs, s''⟩ <;> rw [hds] at hrest <;> exact hd.append hrest

end RequestSamples.Populator
