import Mathlib.Data.List.TakeDrop
import RequestSamples.Json.Read
import RequestSamples.Json.Write
import RequestSamples.Proofs.Json.Text

/-!
# Reading integers back

The decimal digits of a number are read back as the number (`ofDigits_digits`), and no zero leads them.  So an
integer is read back to its last digit if what follows it is no part of a number (`readNumber_write`).
-/

namespace RequestSamples.Json

/-- The bytes of the decimal digits of a number. -/
def digits (n : Nat) : Bytes := Bytes.ofChars (Nat.toDigits 10 n)

private theorem ascii_of_mem_toDigits {n : Nat} {c : Char} (h : c ∈ Nat.toDigits 10 n) :
    0x30 ≤ c.toNat ∧ c.toNat ≤ 0x39 := by
  have hd := Nat.isDigit_of_mem_toDigits (by decide) (by decide) h
  rw [Char.isDigit, Bool.and_eq_true, decide_eq_true_eq, decide_eq_true_eq] at hd
  exact hd

private theorem digits_eq_map (n : Nat) : digits n = (Nat.toDigits 10 n).map fun c => UInt8.ofNat c.toNat := by
  apply Bytes.ofChars_ascii
  intro c hc
  have := ascii_of_mem_toDigits hc
  omega

private theorem isDigit_of_mem_digits {n : Nat} {b : UInt8} (h : b ∈ digits n) : isDigit b = true := by
  rw [digits_eq_map] at h
  obtain ⟨c, hc, rfl⟩ := List.mem_map.mp h
  obtain ⟨low, high⟩ := ascii_of_mem_toDigits hc
  have hb : (UInt8.ofNat c.toNat).toNat = c.toNat := by
    rw [UInt8.toNat_ofNat']
    omega
  rw [isDigit, Bool.and_eq_true, decide_eq_true_eq, decide_eq_true_eq, UInt8.le_iff_toNat_le,
    UInt8.le_iff_toNat_le, hb]
  exact ⟨low, high⟩

private theorem length_digits (n : Nat) : (digits n).length = (Nat.toDigits 10 n).length := by
  rw [digits_eq_map, List.length_map]

/-- Digits spell the number that they were written for. -/
theorem ofDigits_digits (n : Nat) : ofDigits (digits n) = n := by
  have hvalues : (digits n).map (fun d => d.toNat - 0x30) = (Nat.toDigits 10 n).map fun c => c.toNat - 0x30 := by
    rw [digits_eq_map, List.map_map]
    apply List.map_congr_left
    intro c hc
    have := ascii_of_mem_toDigits hc
    simp only [Function.comp_apply, UInt8.toNat_ofNat']
    omega
  have hn := Nat.ofDigitChars_ten_toDigits (n := n)
  rw [Nat.ofDigitChars_eq_foldl] at hn
  rw [ofDigits, hvalues, Numeral.ofDigits_eq_foldl, List.foldl_map]
  simp only [Nat.add_comm (_ - 0x30)]
  exact hn

private theorem head?_toDigits_ne_zero {n : Nat} (h : 0 < n) : (Nat.toDigits 10 n).head? ≠ some '0' := by
  induction n using Nat.base_induction 10 (by decide) with
  | single m hm =>
    have hdigit : ∀ k : Fin 10, 0 < k.val → [Nat.digitChar k.val].head? ≠ some '0' := by decide
    rw [Nat.toDigits_of_lt_base hm]
    exact hdigit ⟨m, hm⟩ h
  | digit m k hk hm ih =>
    obtain ⟨c, cs, hcs⟩ := List.exists_cons_of_ne_nil (Nat.toDigits_ne_nil (n := m) (b := 10))
    have hc := ih hm
    rw [← Nat.toDigits_append_toDigits (by decide) hm hk]
    rw [hcs] at hc ⊢
    exact hc

/-- No zero leads the digits of a number, unless it is the only digit. -/
private theorem length_of_head?_digits {n : Nat} (h : (digits n).head? = some 0x30) : (digits n).length = 1 := by
  rcases Nat.eq_zero_or_pos n with rfl | hpos
  · rfl
  · exfalso
    rw [digits_eq_map, List.head?_map, Option.map_eq_some_iff] at h
    obtain ⟨c, hc, hb⟩ := h
    obtain ⟨low, high⟩ := ascii_of_mem_toDigits (List.mem_of_mem_head? hc)
    have hzero : c = '0' := by
      rw [← Bytes.char_of_ascii (c := c) (by omega), hb]
      rfl
    rw [hzero] at hc
    exact head?_toDigits_ne_zero hpos hc

theorem exists_cons_of_digits (n : Nat) : ∃ d ds, digits n = d :: ds ∧ isDigit d = true := by
  obtain ⟨d, ds, hds⟩ : ∃ d ds, digits n = d :: ds := by
    apply List.exists_cons_of_ne_nil
    intro hnil
    have := length_digits n
    rw [hnil] at this
    exact Nat.toDigits_ne_nil (List.length_eq_zero_iff.mp this.symm)
  refine ⟨d, ds, hds, ?_⟩
  apply isDigit_of_mem_digits
  rw [hds]
  exact List.mem_cons_self

/-- The bytes are none, or they go on as bytes behind a value do. -/
def Stops (rest : Bytes) : Prop := ∀ b, rest.head? = some b → b = 0x2c ∨ b = 0x5d ∨ b = 0x7d

variable {rest : Bytes}

theorem stops_nil : Stops [] := by
  intro b h
  cases h

private theorem readDigits_digits (n : Nat) (h : Stops rest) :
    readDigits (digits n ++ rest) = .ok (digits n, rest) := by
  have hspan : (digits n ++ rest).span isDigit = (digits n, rest) := by
    have htake : (digits n ++ rest).takeWhile isDigit = digits n ++ rest.takeWhile isDigit :=
      List.takeWhile_append_of_pos fun b hb => isDigit_of_mem_digits hb
    have hdrop : (digits n ++ rest).dropWhile isDigit = rest.dropWhile isDigit :=
      List.dropWhile_append_of_pos fun b hb => isDigit_of_mem_digits hb
    rw [List.span_eq_takeWhile_dropWhile, htake, hdrop]
    cases rest with
    | nil => simp
    | cons b bs =>
      have hb : isDigit b = false := by
        rcases h b rfl with rfl | rfl | rfl <;> rfl
      rw [List.takeWhile_cons, List.dropWhile_cons, hb]
      simp
  obtain ⟨d, ds, hds, -⟩ := exists_cons_of_digits n
  rw [readDigits, hspan, hds]

private theorem readFraction_stops (h : Stops rest) : readFraction rest = .ok (none, rest) := by
  cases rest with
  | nil => rfl
  | cons b bs => rcases h b rfl with rfl | rfl | rfl <;> rfl

private theorem readExponent_stops (h : Stops rest) : readExponent rest = .ok (none, rest) := by
  cases rest with
  | nil => rfl
  | cons b bs => rcases h b rfl with rfl | rfl | rfl <;> rfl

/-- What follows the sign is read as digits to the last one, and the sign is kept. -/
private theorem readNumber_of_readDigits {more ds : Bytes} (bs : Bytes) (negative : Bool)
    (hsign : (∃ b, bs = b :: more ∧ b = 0x2d ∧ negative = true) ∨
      (∃ b bs', bs = b :: bs' ∧ b ≠ 0x2d ∧ more = bs ∧ negative = false))
    (hdigits : readDigits more = .ok (ds, rest)) (hzero : ds.head? = some 0x30 → ds.length = 1)
    (hlen : ds.length + (if negative then 1 else 0) ≤ 4300) (h : Stops rest) :
    readNumber .standard bs = .ok (.int (if negative then -ofDigits ds else ofDigits ds), rest) := by
  have hlead : (ds.head? = some 0x30 && ds.length ≠ 1) = false := by
    rw [Bool.and_eq_false_imp]
    intro hhead
    rw [hzero (of_decide_eq_true hhead)]
    rfl
  have hfinite : Limits.standard.infinities = false := rfl
  have hfits : ¬ Limits.standard.integerLength < ds.length + (if negative then 1 else 0) := Nat.not_lt.mpr hlen
  rcases hsign with ⟨b, rfl, hb, rfl⟩ | ⟨b, bs', rfl, hb, rfl, rfl⟩
  -- Behind the sign both go on alike: no zero in front, no places, no exponent, and not too long.
  all_goals
    simp only [readNumber, hfinite, Bool.false_and, Bool.false_eq_true, hb, if_true, if_false, hdigits]
    show (if (ds.head? = some 0x30 && ds.length ≠ 1) = true then _ else readFraction rest >>= _) = _
    rw [hlead, if_neg Bool.false_ne_true, readFraction_stops h]
    show (readExponent rest >>= _) = _
    rw [readExponent_stops h]
    exact if_neg hfits

/-- An integer of at most 4300 characters is read back, if no more digits follow. -/
theorem readNumber_write {n : Int} (hlen : (Numeral.write n).length ≤ 4300) (h : Stops rest) :
    readNumber .standard (Bytes.ofChars (Numeral.write n) ++ rest) = .ok (.int n, rest) := by
  have hzero (m : Nat) : (digits m).head? = some 0x30 → (digits m).length = 1 := length_of_head?_digits
  cases n with
  | ofNat m =>
    obtain ⟨d, ds, hds, hd⟩ := exists_cons_of_digits m
    have hsign : d ≠ 0x2d := by
      rintro rfl
      cases hd
    have hfits : (digits m).length + 0 ≤ 4300 := by
      rw [length_digits]
      exact hlen
    have hread := readNumber_of_readDigits (digits m ++ rest) false
      (.inr ⟨d, ds ++ rest, by rw [hds, List.cons_append], hsign, rfl, rfl⟩) (readDigits_digits m h) (hzero m) hfits h
    rw [ofDigits_digits] at hread
    exact hread
  | negSucc m =>
    have hfits : (digits (m + 1)).length + 1 ≤ 4300 := by
      rw [length_digits]
      exact hlen
    have hread := readNumber_of_readDigits (0x2d :: (digits (m + 1) ++ rest)) true
      (.inl ⟨0x2d, rfl, rfl, rfl⟩) (readDigits_digits (m + 1) h) (hzero (m + 1)) hfits h
    rw [ofDigits_digits] at hread
    exact hread

/-- Integers of 64 bits are short enough to be read. -/
theorem length_write_le {n : Int} (hlow : -2 ^ 63 ≤ n) (hhigh : n < 2 ^ 63) : (Numeral.write n).length ≤ 20 := by
  have hdigits {m : Nat} (hm : m < 10 ^ 19) : (Nat.toDigits 10 m).length ≤ 19 :=
    (Nat.length_toDigits_le_iff (by decide) (by decide)).mpr hm
  cases n with
  | ofNat m =>
    have hm : (m : Int) < 2 ^ 63 := hhigh
    have := hdigits (m := m) (by omega)
    show (Nat.toDigits 10 m).length ≤ 20
    omega
  | negSucc m =>
    have := hdigits (m := m + 1) (by omega)
    show (Nat.toDigits 10 (m + 1)).length + 1 ≤ 20
    omega

end RequestSamples.Json
