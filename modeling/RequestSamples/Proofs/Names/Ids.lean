import RequestSamples.Proofs.Names.Choices

/-!
# Drawn ids

The number that is drawn for an id has four words of the twister, one above the other (`bits_eq_fourWords`).  A seeded
source never fails to give an id, whatever has been drawn from it before, and the id is the random one of these bits
(`uuid_on`).
-/

namespace RequestSamples.Names

/-- The 128 bits of the next four words, the first one lowest, and the twister after them. -/
def Twister.fourWords (t : Twister) : BitVec 128 × Twister :=
  let (w₀, t) := t.word
  let (w₁, t) := t.word
  let (w₂, t) := t.word
  let (w₃, t) := t.word
  (w₃.toBitVec ++ w₂.toBitVec ++ w₁.toBitVec ++ w₀.toBitVec, t)

private theorem toNat_append_word {n : Nat} (high : BitVec n) (w : UInt32) :
    (high ++ w.toBitVec).toNat = w.toNat + 2 ^ 32 * high.toNat := by
  rw [BitVec.toNat_append, ← Nat.shiftLeft_add_eq_or_of_lt w.toBitVec.isLt, Nat.shiftLeft_eq, Nat.add_comm,
    Nat.mul_comm, UInt32.toNat_toBitVec]

/-- A number of 128 bits is made of the next four words. -/
theorem Twister.bits_eq_fourWords (t : Twister) : t.bits 128 = (t.fourWords.1.toNat, t.fourWords.2) := by
  have hwide : t.bits 128 = wideBits 3 32 t := rfl
  have hcut (w : Nat) : w >>> (32 - 32) = w := Nat.shiftRight_zero
  -- The digits come from the last word to the first, in the base of a word.
  simp only [hwide, wideBits, wordsOnto, fourWords, hcut, Numeral.ofDigits_eq_foldl, List.foldl_cons, List.foldl_nil,
    Nat.mul_zero, Nat.add_zero, toNat_append_word, UInt32.toNat_toBitVec]

namespace Seeded

/-- A seeded source gives the random id of the next four words. -/
theorem uuid_on (s : Seeded) :
    uuid.on s = (.ok (.uuid (.random s.twister.fourWords.1)), { s with twister := s.twister.fourWords.2 }) := by
  have hbits : (bits 128).on s = _ := bits_on 32 s
  rw [Twister.bits_eq_fourWords] at hbits
  rw [uuid, Drawing.on_bind_of_ok hbits, BitVec.ofNat_toNat, BitVec.setWidth_eq]
  rfl

end Seeded

theorem Source.draw_id (s : Seeded) : (Session.drawFrom draws .uuid).on (.seeded s) =
    (.ok (.uuid (.random s.twister.fourWords.1)), .seeded { s with twister := s.twister.fourWords.2 }) := by
  have hdraw : (Session.drawFrom draws .uuid).on (.seeded s) =
      ((Seeded.uuid.on s).1, .seeded (Seeded.uuid.on s).2) := rfl
  rw [hdraw, Seeded.uuid_on]

end RequestSamples.Names
