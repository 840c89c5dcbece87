import Mathlib.Data.String.Basic
import RequestSamples.Proofs.Numeral.Spelling
import RequestSamples.Uuid.Text

/-!
# Reading canonical texts

The canonical text of an id is one of the texts that give it (`parse_write`).  Reading takes nothing off but the
dashes: there are neither the words of a name of its namespace (`without_eq_self`) nor braces in it, and what is left is
read as a number without white space, sign or prefix (`readHex?_write`).
-/

namespace RequestSamples

/-- Nothing is taken off the ends of a text without characters of the kind. -/
private theorem strip_eq_self {p : Char → Bool} {cs : List Char} (h : ∀ c ∈ cs, p c = false) :
    ((cs.dropWhile p).reverse.dropWhile p).reverse = cs := by
  have hkeep : ∀ cs : List Char, (∀ c ∈ cs, p c = false) → cs.dropWhile p = cs := by
    rintro (_ | ⟨c, cs⟩) h
    · rfl
    · exact List.dropWhile_cons_of_neg (Bool.eq_false_iff.mp (h c List.mem_cons_self))
  rw [hkeep cs h, hkeep cs.reverse fun c hc => h c (List.mem_reverse.mp hc), List.reverse_reverse]

namespace Numeral

private theorem denotes_digit {d : Nat} (h : d < 16) : Denotes 16 (Text.Hex.digit d) d := by
  have hall : ∀ d : Fin 16, Denotes 16 (Text.Hex.digit d) d := by decide
  exact hall ⟨d, h⟩

/-- The hexadecimal digits of a number spell it, as far as they go. -/
private theorem exists_spelled_write (w n : Nat) :
    ∃ ds, Spelled 16 (Text.Hex.write (w + 1) n) ds ∧ ofDigits 16 ds = n % 16 ^ (w + 1) := by
  induction w generalizing n with
  | zero =>
    have hdigit : n % 16 < 16 := Nat.mod_lt n (by decide)
    refine ⟨[n % 16], ?_, by rw [ofDigits_eq]; exact Nat.ofDigits_singleton⟩
    rw [Text.Hex.write_succ]
    exact .last (denotes_digit hdigit)
  | succ w ih =>
    obtain ⟨ds, hspelled, hvalue⟩ := ih (n / 16)
    have hdigit : n % 16 < 16 := Nat.mod_lt n (by decide)
    refine ⟨ds ++ [n % 16], ?_, ?_⟩
    · rw [Text.Hex.write_succ]
      exact hspelled.concat (denotes_digit hdigit)
    · have hlast : n % 16 ^ (w + 2) = n % 16 + 16 * (n / 16 % 16 ^ (w + 1)) := by rw [Nat.pow_succ', Nat.mod_mul]
      rw [ofDigits_concat, hvalue, hlast, Nat.add_comm]

/-- A property of all hexadecimal digits holds of all characters of a number. -/
private theorem forall_mem_write {P : Char → Prop} (h : ∀ d : Fin 16, P (Text.Hex.digit d)) {w n : Nat} :
    ∀ c ∈ Text.Hex.write w n, P c := by
  intro c hc
  obtain ⟨d, rfl⟩ := Text.Hex.exists_digit_of_mem_write hc
  exact h d

private theorem splitSign_of_unsigned {cs : List Char} (h : ∀ c ∈ cs, c ≠ '-' ∧ c ≠ '+') :
    splitSign cs = (false, cs) := by
  unfold splitSign
  split
  · exact absurd rfl (h '-' List.mem_cons_self).1
  · exact absurd rfl (h '+' List.mem_cons_self).2
  · rfl

/-- The hexadecimal digits of a number are read as the number, if there are enough of them. -/
theorem readHex?_write {w n : Nat} (h : n < 16 ^ (w + 1)) : readHex? (Text.Hex.write (w + 1) n) = some n := by
  have hunpadded : unpadded (Text.Hex.write (w + 1) n) = Text.Hex.write (w + 1) n :=
    strip_eq_self (forall_mem_write (by decide))
  have hunsigned : splitSign (Text.Hex.write (w + 1) n) = (false, Text.Hex.write (w + 1) n) :=
    splitSign_of_unsigned (forall_mem_write (by decide))
  have ascii : IsAscii (Text.Hex.write (w + 1) n) := forall_mem_write (by decide)
  have hletters : ∀ c ∈ Text.Hex.write (w + 1) n, (c, 16) ∉ letters := forall_mem_write (by decide)
  have hsplit : ∀ cs, splitPrefix? (Text.Hex.write (w + 1) n) ≠ some (16, cs) := by
    intro cs hcs
    obtain ⟨letter, gap, hletter, -, hwrite⟩ := exists_of_splitPrefix? ascii hcs
    refine hletters letter ?_ hletter
    rw [hwrite]
    exact List.mem_cons_of_mem _ List.mem_cons_self
  obtain ⟨ds, hspelled, hvalue⟩ := exists_spelled_write w n
  rw [Nat.mod_eq_of_lt h] at hvalue
  have hdigits := (digits?_eq_some_iff (by decide) ascii ds).1.mpr hspelled
  rw [readHex?, hunpadded, hunsigned]
  dsimp only
  split
  · rename_i cs hcs
    exact absurd hcs (hsplit cs)
  · rw [hdigits, Option.map_some, hvalue]
    rfl

end Numeral

namespace Uuid

private theorem splitOnAux_of_not_mem {word : String} {c : Char} {cs : List Char}
    (hword : word = String.ofList (c :: cs)) (front : List Char) {back : List Char} (h : c ∉ back) :
    (String.ofList (front ++ back)).splitOnAux word 0 ⟨String.utf8Len front⟩ 0 [] =
      [String.ofList (front ++ back)] := by
  induction back generalizing front with
  | nil =>
    have hend : String.Pos.Raw.atEnd (String.ofList (front ++ [])) ⟨String.utf8Len front⟩ = true :=
      (String.atEnd_of_valid front []).mpr rfl
    have hwhole := String.extract_zero_rawEndPos (String.ofList front)
    rw [String.rawEndPos_ofList] at hwhole
    rw [String.splitOnAux, if_pos hend, List.append_nil, hwhole]
    rfl
  | cons d back ih =>
    have hmore : ¬String.Pos.Raw.atEnd (String.ofList (front ++ d :: back)) ⟨String.utf8Len front⟩ = true :=
      mt (String.atEnd_of_valid front (d :: back)).mp (List.cons_ne_nil d back)
    have hhere : String.Pos.Raw.get (String.ofList (front ++ d :: back)) ⟨String.utf8Len front⟩ = d :=
      String.get_of_valid front (d :: back)
    have hfirst : String.Pos.Raw.get word 0 = c := by
      rw [hword]
      exact String.get_of_valid [] (c :: cs)
    have hdiffers : ¬(d == c) = true := by
      rw [beq_iff_eq]
      rintro rfl
      exact h List.mem_cons_self
    have hstay : (⟨String.utf8Len front⟩ : String.Pos.Raw).unoffsetBy 0 = ⟨String.utf8Len front⟩ := rfl
    have hrest := ih (front ++ [d]) (mt (List.mem_cons_of_mem d) h)
    rw [List.append_assoc, String.utf8Len_append, String.utf8Len_cons, String.utf8Len_nil, Nat.zero_add] at hrest
    rw [String.splitOnAux, if_neg hmore, hhere, hfirst, if_neg hdiffers, hstay, String.next_of_valid]
    exact hrest

/-- A text is not split at a word whose first letter is not in it. -/
theorem without_eq_self {word s : String} {c : Char} {cs : List Char} (hword : word = String.ofList (c :: cs))
    (h : c ∉ s.toList) : without word s = s := by
  have hnonempty : ¬(word == "") = true := by
    rw [beq_iff_eq, hword, String.ofList_eq_empty_iff]
    exact List.cons_ne_nil c cs
  have hsplit := splitOnAux_of_not_mem hword [] h
  rw [List.nil_append, String.ofList_toList] at hsplit
  have hjoin : String.join [s] = s := String.empty_append
  rw [without, String.splitOn, if_neg hnonempty]
  exact (congrArg String.join hsplit).trans hjoin

/-- A property of dashes and of all hexadecimal digits holds of all characters of a canonical text. -/
private theorem forall_mem_canonical {P : Char → Prop} (hdash : P '-') (h : ∀ d : Fin 16, P (Text.Hex.digit d))
    (u : Uuid) : ∀ c ∈ u.write, P c := by
  intro c hc
  by_cases hc' : c = '-'
  · rwa [hc']
  · have hdigit : c ∈ u.write.filter (· ≠ '-') := List.mem_filter.mpr ⟨hc, decide_eq_true hc'⟩
    rw [filter_write] at hdigit
    exact Numeral.forall_mem_write h c hdigit

/-- The canonical text of an id gives the id. -/
theorem parse_write (u : Uuid) : parse (String.ofList u.write) = .ok u := by
  have hletter : 'u' ∉ (String.ofList u.write).toList := by
    rw [String.toList_ofList]
    exact fun h => forall_mem_canonical (P := (· ≠ 'u')) (by decide) (by decide) u 'u' h rfl
  have hurn : without "urn:" (String.ofList u.write) = String.ofList u.write := without_eq_self rfl hletter
  have huuid : without "uuid:" (String.ofList u.write) = String.ofList u.write := without_eq_self rfl hletter
  have hcore : core (String.ofList u.write) = Text.Hex.write 32 u.bits.toNat := by
    rw [core, hurn, huuid, String.toList_ofList, ← filter_write]
    exact congrArg (List.filter (· ≠ '-')) (strip_eq_self (forall_mem_canonical (by decide) (by decide) u))
  have hread : Numeral.readHex? (Text.Hex.write 32 u.bits.toNat) = some (u.bits.toNat : Int) :=
    Numeral.readHex?_write u.bits.isLt
  have hlength : ¬(Text.Hex.write 32 u.bits.toNat).length ≠ 32 := not_not.mpr (Text.Hex.write_length 32 _)
  rw [parse, hcore, if_neg hlength, hread]
  dsimp only
  rw [BitVec.ofInt_natCast, BitVec.ofNat_toNat, BitVec.setWidth_eq]

end Uuid

end RequestSamples
