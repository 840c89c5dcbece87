import RequestSamples.Power

/-!
# Hexadecimal text of a fixed width

A number below `16 ^ w` has exactly one text of `w` lower-case hexadecimal digits.  The main facts are the
length of that text and that reading it gives the number back.
-/

namespace RequestSamples.Text.Hex

/-- The lower-case digit of a number below sixteen. -/
def digit (n : Nat) : Char := if n < 10 then Char.ofNat (0x30 + n) else Char.ofNat (0x57 + n)

/-- The value of a hexadecimal digit, in either case. -/
def digit? (c : Char) : Option Nat :=
  if '0' ≤ c && c ≤ '9' then some (c.toNat - 0x30)
  else if 'a' ≤ c && c ≤ 'f' then some (c.toNat - 0x57)
  else if 'A' ≤ c && c ≤ 'F' then some (c.toNat - 0x37)
  else none

private def writeOnto : Nat → Nat → List Char → List Char
  | 0, _, acc => acc
  | w + 1, n, acc => writeOnto w (n / 16) (digit (n % 16) :: acc)

/-- Long texts are written in two halves, so that only short numbers are taken apart digit by digit. -/
private def writeHalves : (rounds w n : Nat) → List Char → List Char
  | 0, w, n, acc => writeOnto w n acc
  | rounds + 1, w, n, acc =>
    if w < 64 then writeOnto w n acc
    else
      writeHalves rounds (w - w / 2) (n / 16 ^ (w / 2))
        (writeHalves rounds (w / 2) (n % 16 ^ (w / 2)) acc)

/-- The last `w` hexadecimal digits of `n`, most significant first. -/
def write (w n : Nat) : List Char := writeHalves w w n []

/-- The number that a text of hexadecimal digits spells. -/
def read? (cs : List Char) : Option Nat :=
  cs.foldlM (fun n c => (digit? c).map (16 * n + ·)) 0

/-- The bytes that a text of pairs of hexadecimal digits spells. -/
def bytes? : List Char → Option (List UInt8)
  | [] => some []
  | a :: b :: cs => do
    let high ← digit? a
    let low ← digit? b
    return UInt8.ofNat (16 * high + low) :: (← bytes? cs)
  | [_] => none

/-- The bytes as pairs of hexadecimal digits. -/
def ofBytes (bs : List UInt8) : List Char := bs.flatMap fun b => write 2 b.toNat

private theorem writeOnto_eq (w n : Nat) (acc : List Char) : writeOnto w n acc = writeOnto w n [] ++ acc := by
  induction w generalizing n acc with
  | zero => rfl
  | succ w ih => rw [writeOnto, ih, writeOnto, ih _ [digit (n % 16)]]; simp

/-- The low digits are written first. -/
private theorem writeOnto_add (v w n : Nat) (acc : List Char) :
    writeOnto (v + w) n acc = writeOnto v (n / 16 ^ w) (writeOnto w (n % 16 ^ w) acc) := by
  induction w generalizing n acc with
  | zero => simp [writeOnto]
  | succ w ih =>
    have hd : n / 16 / 16 ^ w = n / 16 ^ (w + 1) := by
      rw [Nat.div_div_eq_div_mul, Nat.pow_succ, Nat.mul_comm]
    have hm : n % 16 ^ (w + 1) / 16 = n / 16 % 16 ^ w := by
      rw [Nat.pow_succ, Nat.mul_comm, Nat.mod_mul_right_div_self]
    have hl : n % 16 ^ (w + 1) % 16 = n % 16 :=
      Nat.mod_mod_of_dvd n ⟨16 ^ w, by rw [Nat.pow_succ, Nat.mul_comm]⟩
    rw [← Nat.add_assoc, writeOnto, ih, hd, writeOnto, hm, hl]

private theorem writeHalves_eq (rounds w n : Nat) (acc : List Char) :
    writeHalves rounds w n acc = writeOnto w n acc := by
  induction rounds generalizing w n acc with
  | zero => rfl
  | succ rounds ih =>
    rw [writeHalves]
    split
    · rfl
    · rw [ih, ih, ← writeOnto_add, Nat.sub_add_cancel (Nat.div_le_self w 2)]

theorem write_succ (w n : Nat) : write (w + 1) n = write w (n / 16) ++ [digit (n % 16)] := by
  rw [write, writeHalves_eq, writeOnto, writeOnto_eq, write, writeHalves_eq]

theorem write_length (w n : Nat) : (write w n).length = w := by
  induction w generalizing n with
  | zero => rfl
  | succ w ih => simp [write_succ, ih]

/-- A text of hexadecimal digits has no other characters. -/
theorem exists_digit_of_mem_write {w n : Nat} {c : Char} (h : c ∈ write w n) : ∃ m : Fin 16, c = digit m := by
  induction w generalizing n with
  | zero =>
    have := List.length_pos_of_mem h
    rw [write_length] at this
    omega
  | succ w ih =>
    rw [write_succ, List.mem_append, List.mem_singleton] at h
    rcases h with h | rfl
    · exact ih h
    · exact ⟨⟨n % 16, Nat.mod_lt n (by decide)⟩, rfl⟩

private theorem digit?_digit {n : Nat} (h : n < 16) : digit? (digit n) = some n := by
  have : ∀ m : Fin 16, digit? (digit m) = some m.val := by decide
  exact this ⟨n, h⟩

/-- Reading the text of a fixed width gives the number modulo the power of sixteen of that width. -/
theorem read?_write (w n : Nat) : read? (write w n) = some (n % 16 ^ w) := by
  induction w generalizing n with
  | zero => simp [write, writeHalves, writeOnto, read?, Nat.mod_one]
  | succ w ih =>
    have h := ih (n / 16)
    simp only [read?] at h ⊢
    rw [write_succ, List.foldlM_append, h]
    simp only [Option.bind_eq_bind, Option.bind_some, List.foldlM_cons, List.foldlM_nil,
      digit?_digit (Nat.mod_lt n (by decide : 0 < 16)), Option.map_some, Option.pure_def]
    rw [Nat.pow_succ, Nat.mul_comm (16 ^ w) 16, Nat.mod_mul, Nat.add_comm]

end RequestSamples.Text.Hex
