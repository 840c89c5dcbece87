import RequestSamples.Numeral
import RequestSamples.Value

/-!
# Nesting

How deep it is possible to go into a value.  Values nested too deep can be kept and passed on, but they are
neither written, nor read, nor shown in messages, and a comparison does not go down so far.  Lists and tables
take one level.  Objects take three levels where they are shown or compared, and what stops there is told by
the level that is missing.  Integers of too many digits are not shown in messages either.
-/

namespace RequestSamples

/-- What goes down into a value level by level.  The last two are steps of showing and comparing objects. -/
inductive Descent
  | reading
  | writing
  | quoting
  | comparing
  | entering
  | calling
deriving DecidableEq, Repr

/-- What stops a value from being shown. -/
inductive Stop
  /-- The value is nested too deep. -/
  | deep (descent : Descent)
  /-- An integer has too many digits. -/
  | long
deriving DecidableEq, Repr

namespace Value

/-- The most levels that are gone into. -/
def maxNesting : Nat := 990

mutual

/-- What stops a value from being shown, if there are so many levels left. -/
def stopWithin (room : Nat) : Value → Option Stop
  | list vs | tuple vs => match room with
    | 0 => some (.deep .quoting)
    | room + 1 => stopInItems room vs
  | dict es => match room with
    | 0 => some (.deep .quoting)
    | room + 1 => stopInEntries room es
  | object _ es _ => match room with
    | 0 => some (.deep .quoting)
    | 1 => some (.deep .entering)
    | 2 => some (.deep .calling)
    | room + 3 => stopInEntries room es
  | int n =>
    if room = 0 then some (.deep .quoting)
    else if Numeral.isLong n then some .long
    else none
  | null | bool _ | float _ | text _ | bytes _ | uuid _ | key _ | inner _ | safety _ =>
    if room = 0 then some (.deep .quoting) else none
termination_by structural v => v

/-- What stops the first item that cannot be shown. -/
def stopInItems (room : Nat) : List Value → Option Stop
  | [] => none
  | v :: vs => stopWithin room v <|> stopInItems room vs
termination_by structural vs => vs

/-- What stops the first entry that cannot be shown. -/
def stopInEntries (room : Nat) : List (String × Value) → Option Stop
  | [] => none
  | (_, v) :: es => stopWithin room v <|> stopInEntries room es
termination_by structural es => es

end

/-- What stops a value from being shown. -/
def stop? (v : Value) : Option Stop := stopWithin maxNesting v

@[simp] theorem stop?_int (n : Int) : (int n).stop? = if Numeral.isLong n then some .long else none := rfl

/-- What denotes a number can be shown, unless it is an integer of too many digits. -/
private theorem stop?_of_number {v : Value} {q : Number} (h : v.number? = some q)
    (hint : ∀ n, v = int n → ¬ Numeral.isLong n) : v.stop? = none := by
  cases v with
  | int n => rw [stop?_int, if_neg (hint n rfl)]
  | bool | float | key => rfl
  | _ => cases h

/-- What denotes a request kind can be shown. -/
theorem stop?_of_toKey? {v : Value} {k : ApiKey} (h : v.toKey? = some k) : v.stop? = none := by
  obtain ⟨q, hq⟩ := number?_of_toKey? h
  refine stop?_of_number hq ?_
  rintro n rfl hlong
  have hid : n = k.id := by
    simp only [toKey?, number?_int] at h
    split at h
    · rename_i hnat
      have hk := ApiKey.ofId?_eq_some_iff.mp h
      have hpos := (Bool.and_eq_true_iff.mp hnat).2
      rw [decide_eq_true_iff, Rat.num_intCast] at hpos
      rw [Rat.num_intCast] at hk
      omega
    · cases h
  have hall : ∀ k : ApiKey, Numeral.isLong k.id = false := by
    intro k
    cases k <;> decide
  rw [hid, hall] at hlong
  cases hlong

end Value

end RequestSamples
