import RequestSamples.Text.Hex

/-!
# Unique ids

An id has 128 bits.  Its canonical text is 32 lower-case hexadecimal digits in groups of 8, 4, 4, 4 and 12.  A
random id keeps 122 of its bits: four say that its version is 4, two that its variant is the standard one.  The main
fact is that reading the canonical text gives the id back.
-/

namespace RequestSamples

/-- An id of 128 bits. -/
structure Uuid where
  bits : BitVec 128
deriving DecidableEq, Repr

namespace Uuid

/-- How sure it is that no other maker of ids has made the same id. -/
inductive Safety
  | safe
  | doubtful
  | unknown
deriving DecidableEq, Repr

/-- The name of a degree of safety. -/
def Safety.name : Safety → String
  | safe => "safe"
  | doubtful => "unsafe"
  | unknown => "unknown"

/-- Every degree of safety. -/
def Safety.all : List Safety := [safe, doubtful, unknown]

/-- The id that stands for "not set". -/
def zero : Uuid := ⟨0⟩

instance : Inhabited Uuid := ⟨zero⟩

/-- Puts dashes between the groups of digits. -/
def dashed (cs : List Char) : List Char :=
  cs.take 8 ++ '-' :: (cs.drop 8).take 4 ++ '-' :: (cs.drop 12).take 4 ++ '-' :: (cs.drop 16).take 4 ++
    '-' :: cs.drop 20

/-- The canonical text. -/
def write (u : Uuid) : List Char := dashed (Text.Hex.write 32 u.bits.toNat)

/-- The id with the given text; dashes are skipped. -/
def read? (cs : List Char) : Option Uuid :=
  let digits := cs.filter (· ≠ '-')
  if digits.length = 32 then (Text.Hex.read? digits).map fun n => ⟨BitVec.ofNat 128 n⟩ else none

/-- The bits that hold the version, and those that hold the variant. -/
def versionMask : BitVec 128 := 0xf000#128 <<< 64
def variantMask : BitVec 128 := 0xc000#128 <<< 48

/-- The random id made of these bits. -/
def random (bits : BitVec 128) : Uuid :=
  ⟨(bits &&& ~~~ versionMask &&& ~~~ variantMask) ||| 0x4000#128 <<< 64 ||| 0x8000#128 <<< 48⟩

/-- A random id is set. -/
theorem random_ne_zero (bits : BitVec 128) : random bits ≠ zero := by
  intro h
  have hb : (random bits).bits.getLsbD 78 = false := by rw [h]; simp [zero]
  simp [random, versionMask, variantMask] at hb

/-- Dashes between the groups of digits can be taken out again. -/
private theorem filter_dashed {cs : List Char} (h : ∀ c ∈ cs, c ≠ '-') : (dashed cs).filter (· ≠ '-') = cs := by
  have hpart {ds : List Char} (hds : ds ⊆ cs) : ds.filter (· ≠ '-') = ds := by
    rw [List.filter_eq_self]
    intro c hc
    simpa using h c (hds hc)
  have htake (m n : Nat) : (cs.drop m).take n ⊆ cs :=
    fun c hc => List.mem_of_mem_drop (List.mem_of_mem_take hc)
  have hjoin (m n : Nat) : (cs.drop m).take n ++ cs.drop (m + n) = cs.drop m := by
    rw [← List.drop_drop, List.take_append_drop]
  have hskip (ds es : List Char) : (ds ++ '-' :: es).filter (· ≠ '-') = ds.filter (· ≠ '-') ++ es.filter (· ≠ '-') := by
    simp
  rw [dashed, List.append_assoc, List.append_assoc, List.append_assoc]
  simp only [List.cons_append]
  rw [hskip, hskip, hskip, hskip, hpart (List.take_subset 8 cs), hpart (htake 8 4), hpart (htake 12 4),
    hpart (htake 16 4), hpart (List.drop_subset 20 cs), hjoin 16 4, hjoin 12 4, hjoin 8 4, List.take_append_drop]

/-- The canonical text without its dashes. -/
theorem filter_write (u : Uuid) : u.write.filter (· ≠ '-') = Text.Hex.write 32 u.bits.toNat := by
  apply filter_dashed
  intro c hc
  obtain ⟨m, rfl⟩ := Text.Hex.exists_digit_of_mem_write hc
  have hdash : ∀ m : Fin 16, Text.Hex.digit m ≠ '-' := by decide
  exact hdash m

/-- The canonical text of an id is read as the id. -/
theorem read?_write (u : Uuid) : read? u.write = some u := by
  have hbits : u.bits.toNat % 16 ^ 32 = u.bits.toNat := Nat.mod_eq_of_lt u.bits.isLt
  simp only [read?, filter_write, Text.Hex.write_length, if_true, Text.Hex.read?_write, hbits, Option.map_some,
    BitVec.ofNat_toNat, BitVec.setWidth_eq]

end Uuid

end RequestSamples
