import RequestSamples.Power

/-!
# Numbers from digits

The number that digits in a base spell.  Neighbouring digits are put together to digits in the square of
the base until one is left, so that long numbers are built from numbers of like size.  The main facts are that
this gives the same as taking the digits one by one, and that `n` digits spell a number below the `n`-th power
of the base.
-/

namespace RequestSamples.Numeral

/-- Puts neighbouring digits together, least significant first. -/
private def pairs (base : Nat) : List Nat → List Nat
  | low :: high :: ds => (low + base * high) :: pairs base ds
  | ds => ds

/-- The number that digits spell one by one, least significant first. -/
private def ofLowFirst (base : Nat) (ds : List Nat) : Nat := ds.foldr (fun d n => d + base * n) 0

/-- The number that digits spell, least significant first, after so many rounds of putting neighbours
together. -/
private def ofPairs : (rounds base : Nat) → List Nat → Nat
  | rounds + 1, base, low :: high :: ds => ofPairs rounds (base * base) (pairs base (low :: high :: ds))
  | _, base, ds => ofLowFirst base ds

/-- The number with the given digits, most significant first. -/
def ofDigits (base : Nat) (ds : List Nat) : Nat := ofPairs ds.length base ds.reverse

private theorem ofLowFirst_pairs (base : Nat) (ds : List Nat) :
    ofLowFirst (base * base) (pairs base ds) = ofLowFirst base ds := by
  fun_induction pairs base ds with
  | case1 low high ds ih =>
    have h : base * base * ofLowFirst base ds = base * (base * ofLowFirst base ds) := Nat.mul_assoc ..
    simp only [ofLowFirst, List.foldr_cons] at ih h ⊢
    rw [ih, h, Nat.mul_add, Nat.add_assoc]
  | case2 ds h =>
    match ds, h with
    | [], _ => rfl
    | [d], _ => simp [ofLowFirst]
    | a :: b :: ds, h => exact absurd rfl (h a b ds)

private theorem ofPairs_eq (rounds base : Nat) (ds : List Nat) :
    ofPairs rounds base ds = ofLowFirst base ds := by
  fun_induction ofPairs rounds base ds with
  | case1 rounds base low high ds ih => rw [ih, ofLowFirst_pairs]
  | case2 => rfl

/-- The digits can be taken one by one. -/
theorem ofDigits_eq_foldl (base : Nat) (ds : List Nat) :
    ofDigits base ds = ds.foldl (fun n d => d + base * n) 0 := by
  rw [ofDigits, ofPairs_eq, ofLowFirst, List.foldr_reverse]

theorem ofDigits_concat (base : Nat) (ds : List Nat) (d : Nat) :
    ofDigits base (ds ++ [d]) = base * ofDigits base ds + d := by
  simp [ofDigits_eq_foldl, Nat.add_comm]

private theorem foldl_eq (base start : Nat) (ds : List Nat) :
    ds.foldl (fun n d => d + base * n) start =
      start * base ^ ds.length + ds.foldl (fun n d => d + base * n) 0 := by
  induction ds generalizing start with
  | nil => simp
  | cons d ds ih =>
    rw [List.foldl_cons, ih, List.foldl_cons, ih (d + base * 0), List.length_cons, Nat.pow_succ]
    simp only [Nat.add_mul, Nat.mul_comm base, Nat.mul_assoc]
    omega

/-- The first digit counts the power of the base that the others stay below. -/
theorem ofDigits_cons (base d : Nat) (ds : List Nat) :
    ofDigits base (d :: ds) = d * base ^ ds.length + ofDigits base ds := by
  simpa [ofDigits_eq_foldl] using foldl_eq base d ds

theorem ofDigits_lt {base : Nat} {ds : List Nat} (h : ∀ d ∈ ds, d < base) :
    ofDigits base ds < base ^ ds.length := by
  induction ds with
  | nil => simp [ofDigits_eq_foldl]
  | cons d ds ih =>
    obtain ⟨hd, hs⟩ := List.forall_mem_cons.mp h
    have hm := Nat.mul_le_mul_right (base ^ ds.length) hd
    rw [Nat.succ_mul] at hm
    have := ih hs
    rw [ofDigits_cons, List.length_cons, Nat.pow_succ, Nat.mul_comm (base ^ ds.length)]
    omega

end RequestSamples.Numeral
