import RequestSamples.Power

/-!
# Byte strings

A byte string is a list of bytes.  A text has one byte string, its UTF-8 form, and the main fact is that
reading that form gives the text back; byte strings that are no UTF-8 form are no text.
-/

namespace RequestSamples

/-- A byte string. -/
abbrev Bytes := List UInt8

namespace Bytes

/-- The UTF-8 form of a text. -/
def ofText (s : String) : Bytes := s.toUTF8.data.toList

/-- The text with this UTF-8 form. -/
def toText? (bs : Bytes) : Option String := String.fromUTF8? ⟨bs.toArray⟩

theorem toText?_ofText (s : String) : toText? (ofText s) = some s := by
  have h : (⟨(ofText s).toArray⟩ : ByteArray) = s.toUTF8 := by simp [ofText]
  simp only [toText?, h, String.fromUTF8?, String.toUTF8_eq_toByteArray, Option.dite_none_right_eq_some,
    Option.some.injEq]
  exact ⟨s.isValidUTF8, rfl⟩

end Bytes

end RequestSamples
