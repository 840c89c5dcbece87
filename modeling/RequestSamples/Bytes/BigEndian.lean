import RequestSamples.Bytes

/-!
# Big-endian integers

Integers of a fixed number of bytes, most significant byte first, in two's complement.  The main facts are
the number of bytes and that reading them gives the integer back modulo the power of 256 of that width.
-/

namespace RequestSamples.BigEndian

/-- The last `w` bytes of an integer. -/
def write : Nat → Int → Bytes
  | 0, _ => []
  | w + 1, n => write w (n / 256) ++ [UInt8.ofNat (n % 256).toNat]

/-- The natural number that bytes spell. -/
def readNat (bs : Bytes) : Nat := bs.foldl (fun n b => 256 * n + b.toNat) 0

/-- The integer that bytes spell in two's complement. -/
def read (bs : Bytes) : Int :=
  if 2 * readNat bs < 256 ^ bs.length then readNat bs else readNat bs - 256 ^ bs.length

@[simp] theorem write_length (w : Nat) (n : Int) : (write w n).length = w := by
  induction w generalizing n with
  | zero => rfl
  | succ w ih => simp [write, ih]

private theorem readNat_append (bs : Bytes) (b : UInt8) : readNat (bs ++ [b]) = 256 * readNat bs + b.toNat := by
  simp [readNat]

theorem readNat_write (w : Nat) (n : Int) : (readNat (write w n) : Int) = n % 256 ^ w := by
  induction w generalizing n with
  | zero => simp [write, readNat]
  | succ w ih =>
    have h0 : 0 ≤ n % 256 := Int.emod_nonneg _ (by decide)
    have h1 : n % 256 < 256 := Int.emod_lt_of_pos _ (by decide)
    have hb : ((UInt8.ofNat (n % 256).toNat).toNat : Int) = n % 256 := by
      simp only [UInt8.toNat_ofNat']; omega
    rw [write, readNat_append, Int.natCast_add, Int.natCast_mul, ih, hb]
    have hp : (0 : Int) < 256 ^ w := Int.pow_pos (by decide)
    have : n % 256 ^ (w + 1) = 256 * (n / 256 % 256 ^ w) + n % 256 := by
      rw [Int.pow_succ, Int.mul_comm (256 ^ w) 256]
      have e1 := Int.mul_ediv_add_emod n 256
      have e2 := Int.mul_ediv_add_emod (n / 256) (256 ^ w)
      have e3 : n = 256 * 256 ^ w * (n / 256 / 256 ^ w) + (256 * (n / 256 % 256 ^ w) + n % 256) := by
        conv => lhs; rw [← e1, ← e2]
        rw [Int.mul_add, ← Int.mul_assoc, Int.add_assoc]
      have l0 := Int.emod_nonneg (n / 256) (Int.ne_of_gt hp)
      have l1 := Int.emod_lt_of_pos (n / 256) hp
      conv => lhs; rw [e3]
      rw [Int.mul_add_emod_self_left]
      exact Int.emod_eq_of_lt (by omega) (by omega)
    omega

/-- An integer in the range of `w` bytes is read back. -/
theorem read_write {w : Nat} {n : Int} (low : -(256 ^ w) ≤ 2 * n) (high : 2 * n < 256 ^ w) :
    read (write w n) = n := by
  have hp : (0 : Int) < 256 ^ w := Int.pow_pos (by decide)
  have hr := readNat_write w n
  have hc : ((256 ^ w : Nat) : Int) = 256 ^ w := Int.natCast_pow ..
  simp only [read, write_length]
  by_cases hn : 0 ≤ n
  · have : n % 256 ^ w = n := Int.emod_eq_of_lt hn (by omega)
    split <;> omega
  · have : n % 256 ^ w = n + 256 ^ w := by
      rw [← Int.add_emod_right]; exact Int.emod_eq_of_lt (by omega) (by omega)
    split <;> omega

end RequestSamples.BigEndian
