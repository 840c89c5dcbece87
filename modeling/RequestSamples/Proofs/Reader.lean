import RequestSamples.Bytes.BigEndian
import RequestSamples.Proofs.Varint

/-!
# Reading bytes from the front

A reader takes bytes from the front of a byte string, gives what they spell and leaves the rest, or refuses.
A reader takes a byte string as a value if it does so whatever follows (`Takes`).  Readers that run one after
the other take the strings that stand one after the other (`Takes.bind`), so a layout is read back part by part.
-/

namespace RequestSamples

/-- A computation that takes bytes from the front of a byte string and may refuse them. -/
abbrev Reader (α : Type) := StateT Bytes Option α

namespace Reader

variable {α β : Type}

/-- The next `n` bytes. -/
def bytes (n : Nat) : Reader Bytes := fun bs =>
  if n ≤ bs.length then some (bs.take n, bs.drop n) else none

/-- A signed integer of `w` bytes. -/
def integer (w : Nat) : Reader Int := BigEndian.read <$> bytes w

/-- A natural number of `w` bytes. -/
def natural (w : Nat) : Reader Nat := BigEndian.readNat <$> bytes w

/-- A signed integer of variable length. -/
def varint : Reader Int := Varint.read?

/-- The same `n` times. -/
def several (p : Reader α) : Nat → Reader (List α)
  | 0 => return []
  | n + 1 => do
    let a ← p
    let as ← several p n
    return a :: as

/-- The same as often as a number says. -/
def counted (p : Reader α) (n : Int) : Reader (List α) := if n < 0 then failure else several p n.toNat

/-- What a reader gives, and how many bytes it takes for it. -/
def measured (p : Reader α) : Reader (α × Nat) := fun bs => do
  let (a, rest) ← p.run bs
  return ((a, bs.length - rest.length), rest)

/-- The reader takes just these bytes, whatever follows them, and gives this value. -/
def Takes (p : Reader α) (bs : Bytes) (a : α) : Prop := ∀ rest, p.run (bs ++ rest) = some (a, rest)

theorem Takes.run_eq {p : Reader α} {bs : Bytes} {a : α} (h : Takes p bs a) : p.run bs = some (a, []) := by
  have := h []
  rwa [List.append_nil] at this

theorem Takes.pure (a : α) : Takes (pure a) [] a := fun _ => rfl

theorem Takes.bind {p : Reader α} {f : α → Reader β} {as bs : Bytes} {a : α} {b : β} (hp : Takes p as a)
    (hf : Takes (f a) bs b) : Takes (p >>= f) (as ++ bs) b := by
  intro rest
  rw [StateT.run_bind, List.append_assoc, hp (bs ++ rest)]
  exact hf rest

/-- The last reader of a chain decides about what the whole chain gives. -/
theorem Takes.last {p : Reader α} {f : α → β} {bs : Bytes} {a : α} (h : Takes p bs a) :
    Takes (do let a ← p; return f a) bs (f a) := by
  have := Takes.bind (f := fun a => Pure.pure (f a)) h (Takes.pure (f a))
  rwa [List.append_nil] at this

theorem Takes.map {p : Reader α} {bs : Bytes} {a : α} (f : α → β) (h : Takes p bs a) :
    Takes (f <$> p) bs (f a) := by
  intro rest
  rw [StateT.run_map, h rest]
  rfl

theorem Takes.measured {p : Reader α} {bs : Bytes} {a : α} (h : Takes p bs a) :
    Takes (measured p) bs (a, bs.length) := by
  intro rest
  have hlen : (bs ++ rest).length - rest.length = bs.length := by
    rw [List.length_append, Nat.add_sub_cancel]
  show ((p.run (bs ++ rest)).bind fun x => some ((x.1, (bs ++ rest).length - x.2.length), x.2)) = _
  rw [h rest, Option.bind_some, hlen]

theorem takes_bytes (bs : Bytes) : Takes (bytes bs.length) bs bs := by
  intro rest
  show (if bs.length ≤ (bs ++ rest).length then _ else _) = _
  rw [if_pos (by rw [List.length_append]; omega), List.take_left, List.drop_left]

theorem takes_integer {w : Nat} {n : Int} (low : -(256 ^ w) ≤ 2 * n) (high : 2 * n < 256 ^ w) :
    Takes (integer w) (BigEndian.write w n) n := by
  have h := (takes_bytes (BigEndian.write w n)).map BigEndian.read
  rwa [BigEndian.write_length, BigEndian.read_write low high] at h

theorem takes_natural {w n : Nat} (h : n < 256 ^ w) : Takes (natural w) (BigEndian.write w n) n := by
  have hr : BigEndian.readNat (BigEndian.write w n) = n := by
    have hw := BigEndian.readNat_write w n
    have hc : ((256 ^ w : Nat) : Int) = 256 ^ w := Int.natCast_pow ..
    rw [Int.emod_eq_of_lt (Int.natCast_nonneg n) (by omega)] at hw
    exact Int.ofNat.inj hw
  have ht := (takes_bytes (BigEndian.write w n)).map BigEndian.readNat
  rwa [BigEndian.write_length, hr] at ht

theorem takes_varint {v : Int} (low : -2 ^ 63 ≤ v) (high : v < 2 ^ 63) : Takes varint (Varint.write v) v :=
  fun rest => Varint.read?_write low high rest

/-- Elements that stand one after the other are taken one after the other. -/
theorem takes_several {p : Reader α} {write : α → Bytes} {as : List α}
    (h : ∀ a ∈ as, Takes p (write a) a) : Takes (several p as.length) (as.map write).flatten as := by
  induction as with
  | nil => exact Takes.pure []
  | cons a as ih =>
    rw [List.map_cons, List.flatten_cons]
    refine Takes.bind (h a (List.mem_cons_self ..)) ?_
    exact (ih fun b hb => h b (List.mem_cons_of_mem _ hb)).last

end Reader

end RequestSamples
