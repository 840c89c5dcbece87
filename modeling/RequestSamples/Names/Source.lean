import RequestSamples.Failure
import RequestSamples.Names.Twister
import RequestSamples.Names.Words

/-!
# Sources of names and ids

A source yields names and random ids, and may fail at any draw.  A seeded source makes names of an
adjective, a surname and a hexadecimal suffix; a scripted one hands out what it was given, and then fails.
Whatever a failing draw has consumed stays consumed, also what was given but could not be made.
-/

namespace RequestSamples

/-- A computation that draws from a source of type `σ` and may fail; the source changes either way. -/
abbrev Drawing (σ : Type) := ExceptT Failure (StateM σ)

/-- Runs a computation on a source. -/
def Drawing.on {σ α : Type} (d : Drawing σ α) (s : σ) : Except Failure α × σ := (ExceptT.run d).run s

/-- How names and ids are drawn from a source of type `σ`. -/
structure NameSource (σ : Type) where
  name : Drawing σ Value
  uuid : Drawing σ Value

namespace Names

/-- A source whose draws its seed determines. -/
structure Seeded where
  seed : Option Int
  twister : Twister
  suffixDigits : Given Int

namespace Seeded

/-- The source of a seed.  Without a seed any state of the generator will do. -/
def ofSeed (seed : Option Int) : Seeded := ⟨seed, Twister.ofSeed (seed.getD 0), .ok 6⟩

/-- The number of digits that a value gives.  Four times that number counts bits, and must fit into 32 bits
with a sign. -/
def digitsOf (v : Value) : Given Int :=
  match v, v.integer? with
  | _, some n => if -2 ^ 31 ≤ 4 * n && 4 * n < 2 ^ 31 then .ok n else .error .tooWide
  | .float _, _ | .text _, _ | .bytes _, _ | .list _, _ | .tuple _, _ => .error (.notWhole v.typeName)
  | _, _ => .error (.leftOperand .multiply v.typeName)

/-- The most numbers that are drawn for one choice.  The bound is the model's own: what is modelled draws until a
number is in range. -/
def attempts : Nat := 10000

/-- A member of a list. -/
def choose (ws : List String) : Drawing Seeded String := fun s =>
  match s.twister.below? ws.length attempts with
  | (some i, t) => (.ok (ws.getD i ""), { s with twister := t })
  | (none, t) => (.error .undecided, { s with twister := t })

/-- A number of so many bits. -/
def bits (k : Int) : Drawing Seeded Nat := fun s =>
  if k < 0 then (.error .negativeBits, s)
  else
    let (n, t) := s.twister.bits k.toNat
    (.ok n, { s with twister := t })

/-- The text of a name with a suffix of `digits` digits, or of one if that is none. -/
def nameText (adjective surname : String) (digits : Int) (suffix : Nat) : String :=
  adjective ++ "_" ++ surname ++ "_" ++ String.ofList (Text.Hex.write (max digits 1).toNat suffix)

/-- A name such as `pensive_hopper_4f01c3`. -/
def name : Drawing Seeded Value := do
  let adjective ← choose adjectives
  let surname ← choose surnames
  let digits ← liftM (← get).suffixDigits
  let suffix ← bits (4 * digits)
  return .text (nameText adjective surname digits suffix)

/-- A random id. -/
def uuid : Drawing Seeded Value := do
  let n ← bits 128
  return .uuid (.random (BitVec.ofNat 128 n))

end Seeded

/-- A source: seeded, or a script of the names and ids that are left. -/
inductive Source
  | seeded (s : Seeded)
  | scripted (names uuids : List (Given Value))

namespace Source

/-- The source of a seed. -/
def ofSeed (seed : Option Int) : Source := seeded (Seeded.ofSeed seed)

/-- The source with another length of suffixes; a script has none. -/
def withSuffixDigits (digits : Value) : Source → Source
  | seeded s => seeded { s with suffixDigits := Seeded.digitsOf digits }
  | s => s

/-- A draw from a seeded source. -/
def lift (d : Drawing Seeded Value) (s : Seeded) : Except Failure Value × Source :=
  let (v, s) := d.on s
  (v, seeded s)

/-- The next name. -/
def name : Drawing Source Value := fun
  | seeded s => lift Seeded.name s
  | scripted [] us => (.error (.exhausted .name), scripted [] us)
  | scripted (n :: ns) us => (n, scripted ns us)

/-- The next id. -/
def uuid : Drawing Source Value := fun
  | seeded s => lift Seeded.uuid s
  | scripted ns [] => (.error (.exhausted .uuid), scripted ns [])
  | scripted ns (u :: us) => (u, scripted ns us)

/-- Drawing from sources of either kind. -/
def draws : NameSource Source := ⟨name, uuid⟩

end Source

end Names

end RequestSamples
