import RequestSamples.Numeral.Digits

/-!
# The twisted shift register

A generator of 32-bit words with 624 words of state, arranged in a ring.  Each step replaces one word of the
ring, made of the word itself, its successor and the word 397 places further, and yields it tempered.  Numbers
of any width are put together from words, least significant first.  The main facts are the bounds of the drawn
numbers.
-/

namespace RequestSamples.Names

/-- The ring of words and the place of the word that is replaced next. -/
structure Twister where
  words : Vector UInt32 624
  next : Fin 624

namespace Twister

/-- The words of the ring before the key is mixed in. -/
def basic : Vector UInt32 624 :=
  let rec fill (n : Nat) (w : UInt32) (i : Nat) (acc : List UInt32) : List UInt32 :=
    match n with
    | 0 => acc.reverse
    | n + 1 => fill n ((1812433253 : UInt32) * (w ^^^ w >>> 30) + UInt32.ofNat (i + 1)) (i + 1) (w :: acc)
  let ws := fill 624 19650218 0 []
  Vector.ofFn fun i => ws.getD i 0

/-- Mixes `f word mixed` into the word at `i`, where `mixed` depends on the word before it, and goes on to the
next place; the places run from 1 to 623, and behind the last one the first word is set to the last. -/
def mix (f : UInt32 → UInt32 → UInt32) (ws : Vector UInt32 624) (i : Fin 624) :
    Vector UInt32 624 × Fin 624 :=
  let before := ws[i - 1]
  let ws := ws.set i (f ws[i] (before ^^^ before >>> 30))
  if i = 623 then (ws.set 0 ws[(623 : Fin 624)], 1) else (ws, i + 1)

/-- Mixes the key in, its words taken in turn: `rest` are those left of the present turn, `j` is the number of
the next. -/
def mixKey (key : List UInt32) :
    (n : Nat) → (rest : List UInt32) → (j : Nat) → Vector UInt32 624 × Fin 624 → Vector UInt32 624 × Fin 624
  | 0, _, _, s => s
  | n + 1, rest, j, (ws, i) =>
    match rest with
    | k :: rest =>
      mixKey key n rest (j + 1) (mix (fun w m => (w ^^^ m * 1664525) + k + UInt32.ofNat j) ws i)
    | [] =>
      match key with
      | k :: rest => mixKey key n rest 1 (mix (fun w m => (w ^^^ m * 1664525) + k) ws i)
      | [] => (ws, i)

/-- Mixes the places in. -/
def mixPlaces : (n : Nat) → Vector UInt32 624 × Fin 624 → Vector UInt32 624 × Fin 624
  | 0, s => s
  | n + 1, (ws, i) => mixPlaces n (mix (fun w m => (w ^^^ m * 1566083941) - UInt32.ofNat i.val) ws i)

/-- The generator of a key. -/
def ofKey (key : List UInt32) : Twister :=
  let s := mixKey key (max 624 key.length) key 0 (basic, 1)
  let (ws, _) := mixPlaces 623 s
  ⟨ws.set 0 0x80000000, 0⟩

/-- The words of a number, least significant first; at least one. -/
def keyWords (n : Nat) : List UInt32 :=
  let rec go (fuel n : Nat) : List UInt32 :=
    match fuel with
    | 0 => []
    | fuel + 1 => if n < 2 ^ 32 then [UInt32.ofNat n] else UInt32.ofNat n :: go fuel (n / 2 ^ 32)
  go (n.log2 + 1) n

/-- The generator of a seed; a seed and its negative give the same. -/
def ofSeed (seed : Int) : Twister := ofKey (keyWords seed.natAbs)

/-- The tempered form of a word. -/
def temper (y : UInt32) : UInt32 :=
  let y := y ^^^ y >>> 11
  let y := y ^^^ (y <<< 7 &&& 0x9d2c5680)
  let y := y ^^^ (y <<< 15 &&& 0xefc60000)
  y ^^^ y >>> 18

/-- The next word. -/
def word (t : Twister) : UInt32 × Twister :=
  let i := t.next
  let y := (t.words[i] &&& 0x80000000) ||| (t.words[i + 1] &&& 0x7fffffff)
  let w := t.words[i + 397] ^^^ y >>> 1 ^^^ (if y &&& 1 = 0 then 0 else 0x9908b0df)
  (temper w, ⟨t.words.set i w, i + 1⟩)

/-- Draws `n` words onto a list, so that the last one comes first. -/
def wordsOnto : (n : Nat) → List Nat → Twister → List Nat × Twister
  | 0, ws, t => (ws, t)
  | n + 1, ws, t =>
    let (w, t) := t.word
    wordsOnto n (w.toNat :: ws) t

/-- A number of `32 * full + last` bits, for `last` from 1 to 32: its digits in the base `2 ^ 32` are words,
of which the last one is cut. -/
def wideBits (full last : Nat) (t : Twister) : Nat × Twister :=
  let (ws, t) := wordsOnto full [] t
  let (w, t) := t.word
  (Numeral.ofDigits (2 ^ 32) (w.toNat >>> (32 - last) :: ws), t)

/-- A number of `k` bits; none draws no word. -/
def bits (t : Twister) (k : Nat) : Nat × Twister :=
  if k = 0 then (0, t) else wideBits ((k - 1) / 32) ((k - 1) % 32 + 1) t

/-- The number of bits of `n`. -/
def width (n : Nat) : Nat := if n = 0 then 0 else n.log2 + 1

/-- Draws numbers of the width of `n` until one is below `n`, at most `fuel` times. -/
def below? (n : Nat) : (fuel : Nat) → Twister → Option Nat × Twister
  | 0, t => (none, t)
  | fuel + 1, t =>
    let (r, t) := t.bits (width n)
    if r < n then (some r, t) else below? n fuel t

private theorem wordsOnto_length (n : Nat) (ws : List Nat) (t : Twister) :
    (wordsOnto n ws t).1.length = n + ws.length := by
  induction n generalizing ws t with
  | zero => simp [wordsOnto]
  | succ n ih => simp only [wordsOnto, ih, List.length_cons]; omega

private theorem wordsOnto_lt (n : Nat) {ws : List Nat} (h : ∀ w ∈ ws, w < 2 ^ 32) (t : Twister) :
    ∀ w ∈ (wordsOnto n ws t).1, w < 2 ^ 32 := by
  induction n generalizing ws t with
  | zero => exact h
  | succ n ih => exact ih (List.forall_mem_cons.mpr ⟨t.word.1.toNat_lt, h⟩) _

private theorem wideBits_lt (full : Nat) {last : Nat} (h : last ≤ 32) (t : Twister) :
    (wideBits full last t).1 < 2 ^ (32 * full + last) := by
  have hl : (wordsOnto full [] t).1.length = full := wordsOnto_length full [] t
  have hs := Numeral.ofDigits_lt (wordsOnto_lt full (List.forall_mem_nil _) t)
  simp only [wideBits, Numeral.ofDigits_cons, Nat.shiftRight_eq_div_pow]
  generalize (wordsOnto full [] t).2.word.1 = w
  have hw : w.toNat / 2 ^ (32 - last) < 2 ^ last := by
    rw [Nat.div_lt_iff_lt_mul (Nat.two_pow_pos _), ← Nat.pow_add, show last + (32 - last) = 32 by omega]
    exact w.toNat_lt
  have hm := Nat.mul_le_mul_right ((2 ^ 32) ^ full) hw
  rw [Nat.succ_mul] at hm
  rw [hl] at hs ⊢
  rw [Nat.add_comm (32 * full), Nat.pow_add, Nat.pow_mul]
  exact Nat.lt_of_lt_of_le (Nat.add_lt_add_left hs _) hm

/-- A number of `k` bits is below `2 ^ k`. -/
theorem bits_lt (t : Twister) (k : Nat) : (t.bits k).1 < 2 ^ k := by
  unfold bits
  split
  · subst_vars; simp
  · have h := wideBits_lt ((k - 1) / 32) (show (k - 1) % 32 + 1 ≤ 32 by omega) t
    rwa [show 32 * ((k - 1) / 32) + ((k - 1) % 32 + 1) = k by omega] at h

theorem below?_lt {n fuel : Nat} {t : Twister} {r : Nat} (h : (below? n fuel t).1 = some r) : r < n := by
  induction fuel generalizing t with
  | zero => simp [below?] at h
  | succ fuel ih =>
    simp only [below?] at h
    split at h
    · simp at h; omega
    · exact ih h

end Twister

end RequestSamples.Names
