import RequestSamples.Bytes

/-!
# The Castagnoli checksum

The remainder register of 32 bits takes the bits of each byte least significant first.  Eight shifts of the
register are one look-up in a table of 256 words, and a shift of the rest.
-/

namespace RequestSamples.Crc32c

/-- The coefficients of the divisor below `x ^ 32`, reflected: `0x1EDC6F41` read from its other end. -/
def divisor : BitVec 32 := 0x82F63B78#32

/-- One bit leaves the register; the divisor is added if it was set. -/
def shift (r : BitVec 32) : BitVec 32 := if r.getLsbD 0 then (r >>> 1) ^^^ divisor else r >>> 1

/-- Several shifts. -/
def shifts : Nat → BitVec 32 → BitVec 32
  | 0, r => r
  | n + 1, r => shift (shifts n r)

/-- What eight shifts make of a byte. -/
def table : Vector (BitVec 32) 256 := Vector.ofFn fun i => shifts 8 (BitVec.ofNat 32 i.val)

/-- The register after one byte more. -/
def update (r : BitVec 32) (b : UInt8) : BitVec 32 :=
  table[(r.setWidth 8 ^^^ b.toBitVec).toFin] ^^^ (r >>> 8)

/-- The checksum of a byte string. -/
def checksum (bs : Bytes) : BitVec 32 := ~~~ bs.foldl update (~~~ 0#32)

theorem shifts_add (m n : Nat) (r : BitVec 32) : shifts (m + n) r = shifts m (shifts n r) := by
  induction m with
  | zero => simp [shifts]
  | succ m ih => rw [Nat.succ_add, shifts, ih, shifts]

theorem update_eq (r : BitVec 32) (b : UInt8) :
    update r b = shifts 8 (BitVec.ofNat 32 (r.setWidth 8 ^^^ b.toBitVec).toNat) ^^^ (r >>> 8) := by
  simp [update, table]

end RequestSamples.Crc32c
