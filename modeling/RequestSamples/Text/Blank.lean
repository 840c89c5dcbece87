import RequestSamples.Text.Range

/-!
# Blank characters

The characters that are trimmed from both ends of a setting: white space in the sense of the Unicode
database, together with the four separators `0x1c` to `0x1f`.  The main facts are that trimming on the left
leaves no blank in front, that it keeps a text that has none there, and that trimming leaves the one text that is
found between blanks and neither begins nor ends with a blank.
-/

namespace RequestSamples.Text

/-- The blank code points. -/
def blanks : Ranges := [
  (0x9, 0xd), (0x1c, 0x20), (0x85, 0x85), (0xa0, 0xa0), (0x1680, 0x1680), (0x2000, 0x200a),
  (0x2028, 0x2029), (0x202f, 0x202f), (0x205f, 0x205f), (0x3000, 0x3000)]

/-- A character that trimming removes. -/
def isBlank (c : Char) : Bool := blanks.holds c

/-- The text without the blanks before it. -/
def trimLeft (cs : List Char) : List Char := cs.dropWhile isBlank

/-- The text without the blanks at either end. -/
def trim (cs : List Char) : List Char := (trimLeft (trimLeft cs).reverse).reverse

private theorem trimLeft_head {cs : List Char} {c : Char} (h : (trimLeft cs).head? = some c) :
    isBlank c = false := by
  induction cs with
  | nil => simp [trimLeft] at h
  | cons d ds ih =>
    rw [trimLeft, List.dropWhile_cons] at h
    split at h
    · exact ih h
    · simp_all

private theorem trimLeft_eq_self {cs : List Char} (h : ∀ c ∈ cs.head?, isBlank c = false) : trimLeft cs = cs := by
  cases cs with
  | nil => rfl
  | cons d ds => simp [trimLeft, h d (by simp)]

/-- The body is what stands in a text between the blanks at its ends. -/
structure Trimmed (cs body : List Char) : Prop where
  between : ∃ before after, cs = before ++ body ++ after ∧ (∀ c ∈ before, isBlank c = true) ∧
    ∀ c ∈ after, isBlank c = true
  head : ∀ c ∈ body.head?, isBlank c = false
  last : ∀ c ∈ body.getLast?, isBlank c = false

/-- Trimming on the left takes away blanks only. -/
private theorem exists_append_trimLeft (cs : List Char) :
    ∃ before, cs = before ++ trimLeft cs ∧ ∀ c ∈ before, isBlank c = true := by
  refine ⟨cs.takeWhile isBlank, (List.takeWhile_append_dropWhile ..).symm, ?_⟩
  intro c hc
  exact List.all_eq_true.mp List.all_takeWhile c hc

private theorem trimLeft_append {before : List Char} (h : ∀ c ∈ before, isBlank c = true) (cs : List Char) :
    trimLeft (before ++ cs) = trimLeft cs :=
  List.dropWhile_append_of_pos h

theorem trimmed_trim (cs : List Char) : Trimmed cs (trim cs) := by
  obtain ⟨before, hbefore, hblank⟩ := exists_append_trimLeft cs
  obtain ⟨after, hafter, hblank'⟩ := exists_append_trimLeft (trimLeft cs).reverse
  have hleft : trimLeft cs = trim cs ++ after.reverse := by
    rw [← List.reverse_reverse (trimLeft cs), hafter, List.reverse_append]
    rfl
  refine ⟨⟨before, after.reverse, ?_, hblank, ?_⟩, ?_, ?_⟩
  · rw [List.append_assoc, ← hleft]
    exact hbefore
  · intro c hc
    exact hblank' c (List.mem_reverse.mp hc)
  · intro c hc
    have hfirst : c ∈ (trimLeft cs).head? := by
      rw [hleft, List.head?_append, hc]
      rfl
    exact trimLeft_head hfirst
  · intro c hc
    have hlast : c ∈ (trimLeft (trimLeft cs).reverse).head? := by
      rw [← List.getLast?_reverse]
      exact hc
    exact trimLeft_head hlast

theorem Trimmed.trim_eq {cs body : List Char} (h : Trimmed cs body) : trim cs = body := by
  obtain ⟨before, after, rfl, hbefore, hafter⟩ := h.between
  have hbody : trimLeft body = body := trimLeft_eq_self h.head
  have hreverse : trimLeft body.reverse = body.reverse := by
    apply trimLeft_eq_self
    rw [List.head?_reverse]
    exact h.last
  have hafter' : ∀ c ∈ after.reverse, isBlank c = true := fun c hc => hafter c (List.mem_reverse.mp hc)
  rw [trim, List.append_assoc, trimLeft_append hbefore]
  cases body with
  | nil =>
    have hnone : trimLeft after = [] := by
      have h := trimLeft_append hafter []
      rwa [List.append_nil] at h
    rw [List.nil_append, hnone]
    rfl
  | cons c cs =>
    have hkeep : trimLeft (c :: cs ++ after) = c :: cs ++ after := trimLeft_eq_self h.head
    rw [hkeep, List.reverse_append, trimLeft_append hafter', hreverse, List.reverse_reverse]

end RequestSamples.Text
