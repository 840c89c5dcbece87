import RequestSamples.Uuid

/-!
# The layout of an id

An id is laid out as six numbers, of which the first three give a time stamp and the next two a clock
sequence.  The leading bits of the clock sequence tell the variant, and the standard variant keeps a version
in the last of the three numbers of the time stamp.  The main fact is that a random id is of the standard
variant and of version 4.
-/

namespace RequestSamples.Uuid

/-- The number in the `w` bits that have `n` bits below them. -/
def number (u : Uuid) (n w : Nat) : Nat := (u.bits.extractLsb' n w).toNat

/-- The number of the time stamp that changes fastest. -/
def timeLow (u : Uuid) : Nat := u.number 96 32

/-- The middle number of the time stamp. -/
def timeMid (u : Uuid) : Nat := u.number 80 16

/-- The number of the time stamp that changes slowest, together with the version. -/
def timeHiVersion (u : Uuid) : Nat := u.number 64 16

/-- The upper number of the clock sequence, together with the variant. -/
def clockSeqHiVariant (u : Uuid) : Nat := u.number 56 8

/-- The lower number of the clock sequence. -/
def clockSeqLow (u : Uuid) : Nat := u.number 48 8

/-- The number of the place where the id was made. -/
def node (u : Uuid) : Nat := u.number 0 48

/-- The six numbers, in their order. -/
def layout (u : Uuid) : List Nat :=
  [u.timeLow, u.timeMid, u.timeHiVersion, u.clockSeqHiVariant, u.clockSeqLow, u.node]

/-- The time stamp. -/
def time (u : Uuid) : Nat := u.number 64 12 * 2 ^ 48 + u.timeMid * 2 ^ 32 + u.timeLow

/-- The clock sequence. -/
def clockSeq (u : Uuid) : Nat := u.number 48 14

/-- The sixteen bytes, the first one highest. -/
def bytes (u : Uuid) : List UInt8 :=
  (List.range 16).map fun i => UInt8.ofNat (u.number (8 * (15 - i)) 8)

/-- The sixteen bytes with those of the three numbers of the time stamp in reverse order. -/
def bytesReversed (u : Uuid) : List UInt8 :=
  (u.bytes.take 4).reverse ++ ((u.bytes.drop 4).take 2).reverse ++ ((u.bytes.drop 6).take 2).reverse ++
    u.bytes.drop 8

/-- Who has laid down what the other bits mean. -/
inductive Variant
  | network
  | standard
  | microsoft
  | future
deriving DecidableEq, Repr

/-- The variant in words. -/
def Variant.words : Variant → String
  | network => "reserved for NCS compatibility"
  | standard => "specified in RFC 4122"
  | microsoft => "reserved for Microsoft compatibility"
  | future => "reserved for future definition"

/-- The variant of an id. -/
def variant (u : Uuid) : Variant :=
  if !u.bits.getLsbD 63 then .network
  else if !u.bits.getLsbD 62 then .standard
  else if !u.bits.getLsbD 61 then .microsoft
  else .future

/-- The version of an id of the standard variant. -/
def version? (u : Uuid) : Option Nat :=
  if u.variant = .standard then some (u.number 76 4) else none

private theorem variant_random (bits : BitVec 128) : (random bits).variant = .standard := by
  simp [variant, random, versionMask, variantMask]

/-- A random id is of version 4. -/
theorem version?_random (bits : BitVec 128) : (random bits).version? = some 4 := by
  have h : (random bits).bits.extractLsb' 76 4 = 4#4 := by
    apply BitVec.eq_of_getLsbD_eq
    intro i hi
    have : i = 0 ∨ i = 1 ∨ i = 2 ∨ i = 3 := by omega
    rcases this with rfl | rfl | rfl | rfl <;>
      simp [random, versionMask, variantMask]
  simp [version?, variant_random, number, h]

end RequestSamples.Uuid
