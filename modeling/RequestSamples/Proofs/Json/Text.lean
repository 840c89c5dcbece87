import Mathlib.Tactic.SplitIfs
import RequestSamples.Json.Read
import RequestSamples.Json.Write
import RequestSamples.Proofs.Success

/-!
# Reading texts back

The UTF-8 form of a text in quotes is read back to the closing quote, whatever follows it (`readText_writeText`).
The reader undoes the writer character by character: an escape gives the character that it stands for, and all
bytes of other characters are taken as they are (`readBody_escape`).
-/

namespace RequestSamples

namespace Bytes

/-- The UTF-8 form of characters. -/
def ofChars (cs : List Char) : Bytes := cs.flatMap String.utf8EncodeChar

theorem ofText_ofList (cs : List Char) : ofText (String.ofList cs) = ofChars cs := by
  simp [ofText, ofChars, List.utf8Encode]

private theorem toText?_ofChars (cs : List Char) : toText? (ofChars cs) = some (String.ofList cs) := by
  rw [← ofText_ofList]
  exact toText?_ofText _

theorem ofChars_append (cs ds : List Char) : ofChars (cs ++ ds) = ofChars cs ++ ofChars ds :=
  List.flatMap_append

theorem ofChars_cons (c : Char) (cs : List Char) : ofChars (c :: cs) = String.utf8EncodeChar c ++ ofChars cs :=
  rfl

private theorem utf8EncodeChar_ascii {c : Char} (h : c.toNat < 0x80) :
    String.utf8EncodeChar c = [UInt8.ofNat c.toNat] := by
  have hc : c.val.toNat ≤ 0x7f := Nat.le_of_lt_succ h
  simp only [String.utf8EncodeChar, hc, if_true]
  rfl

/-- All bytes of a character beyond ASCII have the high bit set. -/
private theorem le_of_mem_utf8EncodeChar {c : Char} (h : 0x80 ≤ c.toNat) {b : UInt8}
    (hb : b ∈ String.utf8EncodeChar c) : 0x80 ≤ b := by
  have hc : ¬ c.val.toNat ≤ 0x7f := Nat.not_le.mpr h
  have high {n : Nat} (h₁ : 0x80 ≤ n) (h₂ : n < 0x100) : 0x80 ≤ UInt8.ofNat n := by
    rw [UInt8.le_iff_toNat_le, UInt8.toNat_ofNat']
    show 128 ≤ n % 2 ^ 8
    omega
  simp only [String.utf8EncodeChar, hc, if_false] at hb
  split at hb
  · simp only [List.mem_cons, List.not_mem_nil, or_false] at hb
    rcases hb with rfl | rfl <;> exact high (by omega) (by omega)
  · split at hb
    · simp only [List.mem_cons, List.not_mem_nil, or_false] at hb
      rcases hb with rfl | rfl | rfl <;> exact high (by omega) (by omega)
    · simp only [List.mem_cons, List.not_mem_nil, or_false] at hb
      rcases hb with rfl | rfl | rfl | rfl <;> exact high (by omega) (by omega)

theorem ofChars_ascii {cs : List Char} (h : ∀ c ∈ cs, c.toNat < 0x80) :
    ofChars cs = cs.map fun c => UInt8.ofNat c.toNat := by
  induction cs with
  | nil => rfl
  | cons c cs ih =>
    obtain ⟨hc, hcs⟩ := List.forall_mem_cons.mp h
    rw [ofChars_cons, utf8EncodeChar_ascii hc, ih hcs]
    rfl

theorem char_of_ascii {c : Char} (h : c.toNat < 0x80) : Char.ofNat (UInt8.ofNat c.toNat).toNat = c := by
  have hn : (UInt8.ofNat c.toNat).toNat = c.toNat := by
    rw [UInt8.toNat_ofNat']
    omega
  rw [hn, Char.ofNat_toNat]

end Bytes

private theorem Text.Hex.lt_of_mem_write {w n : Nat} {c : Char} (h : c ∈ write w n) : c.toNat < 0x80 := by
  obtain ⟨m, rfl⟩ := exists_digit_of_mem_write h
  have hdigit : ∀ m : Fin 16, (digit m).toNat < 0x80 := by decide
  exact hdigit m

namespace Json

variable {acc bs : Bytes}

private theorem readBody_quote : readBody none acc (0x22 :: bs) = .ok (acc.reverse, bs) := by
  rw [readBody.eq_def]
  rfl

private theorem readBody_raw {b : UInt8} (hquote : b ≠ 0x22) (hslash : b ≠ 0x5c) (hcontrol : ¬ b < 0x20) :
    readBody none acc (b :: bs) = readBody none (b :: acc) bs := by
  rw [readBody.eq_def]
  simp only [hslash, hquote, hcontrol, if_false, Option.isSome_none, Bool.false_or, decide_false, Bool.false_eq_true]

private theorem readBody_short {c e : UInt8} (h : unescape? c = some e) (hu : c ≠ 0x75) :
    readBody none acc (0x5c :: c :: bs) = readBody none (e :: acc) bs := by
  rw [readBody.eq_def]
  simp only [hu, h, if_true, if_false]

private theorem readBody_unit {p q r s : UInt8} {n : Nat} (h : unit? p q r s = some n) (hn : n < 0xd800) :
    readBody none acc (0x5c :: 0x75 :: p :: q :: r :: s :: bs) = readBody none (pushPoint n acc) bs := by
  have high : (0xd800 ≤ n && n < 0xdc00) = false := by simp; omega
  have low : (0xdc00 ≤ n && n < 0xe000) = false := by simp; omega
  rw [readBody.eq_def]
  simp only [h, high, low, if_true, if_false, Bool.false_eq_true]

/-- Bytes that are neither special nor control characters are taken as they are. -/
private theorem readBody_raws {as : Bytes} (h : ∀ b ∈ as, b ≠ 0x22 ∧ b ≠ 0x5c ∧ ¬ b < 0x20) :
    readBody none acc (as ++ bs) = readBody none (as.reverse ++ acc) bs := by
  induction as generalizing acc with
  | nil => rfl
  | cons a as ih =>
    obtain ⟨⟨hquote, hslash, hcontrol⟩, has⟩ := List.forall_mem_cons.mp h
    rw [List.cons_append, readBody_raw hquote hslash hcontrol, ih has, List.reverse_cons, List.append_assoc]
    rfl

/-- A short escape stands for the character that it was made of. -/
private theorem unescape?_shortEscape {c e : Char} (h : shortEscape? c = some e) :
    c.toNat < 0x80 ∧ e.toNat < 0x80 ∧ unescape? (UInt8.ofNat e.toNat) = some (UInt8.ofNat c.toNat) ∧
      UInt8.ofNat e.toNat ≠ 0x75 := by
  unfold shortEscape? at h
  split_ifs at h with h₁ h₂ h₃ h₄ h₅ h₆ h₇ <;> cases h <;> subst c <;> decide

/-- Four hexadecimal digits are read as the number that they were written for. -/
private theorem exists_unit_of_write (n : Nat) :
    ∃ p q r s, Bytes.ofChars (Text.Hex.write 4 n) = [p, q, r, s] ∧ unit? p q r s = some (n % 16 ^ 4) := by
  have hascii : ∀ d ∈ Text.Hex.write 4 n, d.toNat < 0x80 := fun d hd => Text.Hex.lt_of_mem_write hd
  have hlen := Text.Hex.write_length 4 n
  have hread := Text.Hex.read?_write 4 n
  rw [Bytes.ofChars_ascii hascii]
  match Text.Hex.write 4 n, hlen, hascii, hread with
  | [p, q, r, s], _, hascii, hread =>
    refine ⟨_, _, _, _, rfl, ?_⟩
    -- The reader takes the bytes for characters, as all of them are ASCII.
    simp only [List.forall_mem_cons] at hascii
    obtain ⟨hp, hq, hr, hs, -⟩ := hascii
    simp only [unit?, List.map_cons, List.map_nil, Bytes.char_of_ascii hp, Bytes.char_of_ascii hq,
      Bytes.char_of_ascii hr, Bytes.char_of_ascii hs]
    exact hread

/-- A character that needs no escape has no special bytes. -/
private theorem plain_of_mem_utf8EncodeChar {c : Char} (hshort : shortEscape? c = none) (hcontrol : ¬ c.toNat < 0x20)
    {b : UInt8} (hb : b ∈ String.utf8EncodeChar c) : b ≠ 0x22 ∧ b ≠ 0x5c ∧ ¬ b < 0x20 := by
  by_cases hc : c.toNat < 0x80
  · rw [Bytes.utf8EncodeChar_ascii hc, List.mem_singleton] at hb
    have hbyte : b.toNat = c.toNat := by
      rw [hb, UInt8.toNat_ofNat']
      omega
    refine ⟨?_, ?_, ?_⟩
    · rintro rfl
      have hquote : c = '"' := Char.toNat_inj.mp hbyte.symm
      subst hquote
      cases hshort
    · rintro rfl
      have hslash : c = '\\' := Char.toNat_inj.mp hbyte.symm
      subst hslash
      cases hshort
    · rw [UInt8.lt_iff_toNat_lt, hbyte]
      exact hcontrol
  · have hhigh := Bytes.le_of_mem_utf8EncodeChar (Nat.not_lt.mp hc) hb
    rw [UInt8.le_iff_toNat_le] at hhigh
    have h128 : 128 ≤ b.toNat := hhigh
    refine ⟨?_, ?_, ?_⟩
    · rintro rfl
      exact absurd h128 (by decide)
    · rintro rfl
      exact absurd h128 (by decide)
    · rw [UInt8.lt_iff_toNat_lt]
      show ¬ b.toNat < 32
      omega

/-- The reader takes one character of the text for each that was written. -/
theorem readBody_escape (c : Char) :
    readBody none acc (Bytes.ofChars (escape c) ++ bs) =
      readBody none ((String.utf8EncodeChar c).reverse ++ acc) bs := by
  unfold escape
  cases hshort : shortEscape? c with
  | some e =>
    obtain ⟨hc, he, hread, hu⟩ := unescape?_shortEscape hshort
    have hbytes : Bytes.ofChars ['\\', e] = [0x5c, UInt8.ofNat e.toNat] := by
      rw [Bytes.ofChars_ascii (by simpa using he)]
      rfl
    rw [hbytes, Bytes.utf8EncodeChar_ascii hc]
    exact readBody_short hread hu
  | none =>
    -- A control character without a short escape, or a character that stands for itself.
    dsimp only
    split
    · rename_i hcontrol
      obtain ⟨p, q, r, s, hdigits, hread⟩ := exists_unit_of_write c.toNat
      have hn : c.toNat % 16 ^ 4 = c.toNat := Nat.mod_eq_of_lt (by omega)
      have hbytes : Bytes.ofChars ('\\' :: 'u' :: Text.Hex.write 4 c.toNat) = [0x5c, 0x75, p, q, r, s] := by
        rw [Bytes.ofChars_cons, Bytes.ofChars_cons, hdigits]
        rfl
      rw [hbytes]
      refine (readBody_unit hread (by omega)).trans ?_
      rw [hn, pushPoint, Char.ofNat_toNat]
      rfl
    · rename_i hcontrol
      have hbytes : Bytes.ofChars [c] = String.utf8EncodeChar c := List.append_nil _
      rw [hbytes]
      exact readBody_raws fun b hb => plain_of_mem_utf8EncodeChar hshort hcontrol hb

private theorem readBody_escapes (cs : List Char) :
    readBody none acc (Bytes.ofChars (cs.flatMap escape) ++ bs) =
      readBody none ((Bytes.ofChars cs).reverse ++ acc) bs := by
  induction cs generalizing acc with
  | nil => rfl
  | cons c cs ih =>
    rw [List.flatMap_cons, Bytes.ofChars_append, List.append_assoc, readBody_escape, ih, Bytes.ofChars_cons,
      List.reverse_append, List.append_assoc]

/-- A text is read back, whatever follows its closing quote. -/
theorem readText_writeText (cs : List Char) (rest : Bytes) :
    ∃ body, Bytes.ofChars (writeText cs) = 0x22 :: body ∧
      readText (body ++ rest) = .ok (String.ofList cs, rest) := by
  have hquote : Bytes.ofChars ['"'] = [0x22] := rfl
  refine ⟨Bytes.ofChars (cs.flatMap escape ++ ['"']), rfl, ?_⟩
  have hbody : readBody none [] (Bytes.ofChars (cs.flatMap escape ++ ['"']) ++ rest) =
      .ok (Bytes.ofChars cs, rest) := by
    rw [Bytes.ofChars_append, hquote, List.append_assoc, readBody_escapes, List.append_nil]
    refine readBody_quote.trans ?_
    rw [List.reverse_reverse]
    rfl
  rw [readText, Except.bind_eq_ok]
  refine ⟨_, hbody, ?_⟩
  simp only [Bytes.toText?_ofChars]
  rfl

end Json

end RequestSamples
