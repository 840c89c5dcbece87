import RequestSamples.Numeral.Digits
import RequestSamples.Value.Nesting

/-!
# Reading JSON text

The reader goes once through the bytes and stops at the first fault.  A text is checked to be UTF-8 when its
closing quote is reached, so a text that never closes is malformed whatever its bytes are.  Of entries with
one name the last value stays, in the place of the first.  Too many brackets that are open at once are a fault
of their own, even if some of them are never closed.
-/

namespace RequestSamples.Json

/-- Why bytes are no JSON text. -/
inductive Fault
  | malformed
  | invalidUtf8
  | outOfRange
  | tooDeep
deriving DecidableEq, Repr

/-- The numbers and the levels that are accepted. -/
structure Limits where
  /-- A number beyond the largest finite one is read as an infinity, and numbers that are not finite may be
  named. -/
  infinities : Bool
  /-- The most characters of an integer. -/
  integerLength : Nat
  /-- The most lists and tables that are open at once. -/
  levels : Nat

/-- Finite numbers, integers of at most 4300 characters, and no value that is nested too deep. -/
def Limits.standard : Limits := ⟨false, 4300, Value.maxNesting⟩

/-- The bytes without the blanks before them. -/
def skipBlanks (bs : Bytes) : Bytes :=
  bs.dropWhile fun b => b = 0x20 || b = 0x09 || b = 0x0a || b = 0x0d

def isDigit (b : UInt8) : Bool := 0x30 ≤ b && b ≤ 0x39

/-- The number that digits spell. -/
def ofDigits (ds : Bytes) : Nat := Numeral.ofDigits 10 (ds.map fun d => d.toNat - 0x30)

/-- At least one digit. -/
def readDigits (bs : Bytes) : Except Fault (Bytes × Bytes) :=
  match bs.span isDigit with
  | ([], _) => .error .malformed
  | (ds, rest) => .ok (ds, rest)

/-- The digits after a point, if there is one. -/
def readFraction (bs : Bytes) : Except Fault (Option Bytes × Bytes) :=
  match bs with
  | b :: rest =>
    if b = 0x2e then (readDigits rest).map fun (ds, rest) => (some ds, rest) else .ok (none, bs)
  | [] => .ok (none, [])

/-- The exponent, if there is one. -/
def readExponent (bs : Bytes) : Except Fault (Option Int × Bytes) :=
  match bs with
  | b :: rest =>
    if b = 0x65 || b = 0x45 then
      let (negative, rest) := match rest with
        | s :: more => if s = 0x2d then (true, more) else if s = 0x2b then (false, more) else (false, rest)
        | [] => (false, rest)
      (readDigits rest).map fun (ds, rest) =>
        (some (if negative then -(ofDigits ds : Int) else ofDigits ds), rest)
    else .ok (none, bs)
  | [] => .ok (none, [])

/-- The name of an infinity, which may have a minus sign. -/
def infinityName : Bytes := Bytes.ofText "Infinity"

/-- The name of the undefined number. -/
def undefinedName : Bytes := Bytes.ofText "NaN"

/-- A number: an integer if it has neither fraction nor exponent. -/
def readNumber (limits : Limits) (bs : Bytes) : Except Fault (Value × Bytes) := do
  let (negative, rest) := match bs with
    | b :: more => if b = 0x2d then (true, more) else (false, bs)
    | [] => (false, bs)
  if limits.infinities && infinityName.isPrefixOf rest then
    return (.float (.infinite negative), rest.drop infinityName.length)
  if limits.infinities && undefinedName.isPrefixOf bs then
    return (.float .undefined, bs.drop undefinedName.length)
  let (whole, rest) ← readDigits rest
  if whole.head? = some 0x30 && whole.length ≠ 1 then throw .malformed
  let (fraction, rest) ← readFraction rest
  let (exponent, rest) ← readExponent rest
  if fraction.isNone && exponent.isNone then
    if limits.integerLength < whole.length + (if negative then 1 else 0) then throw .outOfRange
    let n : Int := ofDigits whole
    return (.int (if negative then -n else n), rest)
  else
    let places := fraction.getD []
    let x := Binary64.ofDecimal negative (ofDigits (whole ++ places)) (exponent.getD 0 - places.length)
    match x with
    | .infinite _ => if limits.infinities then return (.float x, rest) else throw .outOfRange
    | _ => return (.float x, rest)

/-- The byte that a short escape stands for. -/
def unescape? (c : UInt8) : Option UInt8 :=
  if c = 0x22 || c = 0x5c || c = 0x2f then some c
  else if c = 0x62 then some 0x08
  else if c = 0x66 then some 0x0c
  else if c = 0x6e then some 0x0a
  else if c = 0x72 then some 0x0d
  else if c = 0x74 then some 0x09
  else none

/-- The number of four hexadecimal digits. -/
def unit? (p q r s : UInt8) : Option Nat := Text.Hex.read? ([p, q, r, s].map fun b => Char.ofNat b.toNat)

/-- The UTF-8 form of a code point, last byte first, before what has been read. -/
def pushPoint (n : Nat) (acc : Bytes) : Bytes := (String.utf8EncodeChar (Char.ofNat n)).reverse ++ acc

/-- The bytes of a text up to its closing quote, without their escapes.  `high` is the first half of a pair of
escapes whose second half must follow; `acc` holds what has been read, last byte first. -/
def readBody : (high : Option Nat) → (acc : Bytes) → Bytes → Except Fault (Bytes × Bytes)
  | _, _, [] => .error .malformed
  | high, acc, b :: bs =>
    if b = 0x5c then
      match bs with
      | [] => .error .malformed
      | c :: cs =>
        if c = 0x75 then
          match cs with
          | p :: q :: r :: s :: rest =>
            match unit? p q r s, high with
            | none, _ => .error .malformed
            | some n, some h =>
              if 0xdc00 ≤ n && n < 0xe000 then
                readBody none (pushPoint (0x10000 + (h - 0xd800) * 0x400 + (n - 0xdc00)) acc) rest
              else .error .malformed
            | some n, none =>
              if 0xd800 ≤ n && n < 0xdc00 then readBody (some n) acc rest
              else if 0xdc00 ≤ n && n < 0xe000 then .error .malformed
              else readBody none (pushPoint n acc) rest
          | _ => .error .malformed
        else
          match unescape? c, high with
          | some e, none => readBody none (e :: acc) cs
          | _, _ => .error .malformed
    else if high.isSome || b < 0x20 then .error .malformed
    else if b = 0x22 then .ok (acc.reverse, bs)
    else readBody none (b :: acc) bs

/-- A text, after its opening quote. -/
def readText (bs : Bytes) : Except Fault (String × Bytes) := do
  let (body, rest) ← readBody none [] bs
  match Bytes.toText? body with
  | some s => return (s, rest)
  | none => throw .invalidUtf8

/-- A word, of which the first letter has been seen. -/
def readWord (word : String) (v : Value) (bs : Bytes) : Except Fault (Value × Bytes) :=
  let letters := Bytes.ofText word
  if letters.isPrefixOf bs then .ok (v, bs.drop letters.length) else .error .malformed

mutual

/-- A value, blanks before it skipped, in which at most `room` lists and tables are open at once. -/
def readValue (limits : Limits) (room : Nat) : (fuel : Nat) → Bytes → Except Fault (Value × Bytes)
  | 0, _ => .error .malformed
  | fuel + 1, bs =>
    match skipBlanks bs with
    | [] => .error .malformed
    | b :: rest =>
      if b = 0x22 then (readText rest).map fun (s, rest) => (.text s, rest)
      else if b = 0x5b then
        match room, skipBlanks rest with
        | 0, _ => .error .tooDeep
        | _ + 1, [] => .error .malformed
        | room + 1, c :: more =>
          if c = 0x5d then .ok (.list [], more)
          else (readItems limits room fuel (c :: more)).map fun (vs, rest) => (.list vs, rest)
      else if b = 0x7b then
        match room, skipBlanks rest with
        | 0, _ => .error .tooDeep
        | _ + 1, [] => .error .malformed
        | room + 1, c :: more =>
          if c = 0x7d then .ok (.dict [], more)
          else
            (readEntries limits room fuel (c :: more)).map fun (es, rest) => (.dict (Entries.ofList es), rest)
      else if b = 0x6e then readWord "null" .null (b :: rest)
      else if b = 0x74 then readWord "true" (.bool true) (b :: rest)
      else if b = 0x66 then readWord "false" (.bool false) (b :: rest)
      else readNumber limits (b :: rest)

/-- The items of a list up to its closing bracket. -/
def readItems (limits : Limits) (room : Nat) : (fuel : Nat) → Bytes → Except Fault (List Value × Bytes)
  | 0, _ => .error .malformed
  | fuel + 1, bs => do
    let (v, rest) ← readValue limits room fuel bs
    match skipBlanks rest with
    | [] => throw .malformed
    | b :: rest =>
      if b = 0x5d then return ([v], rest)
      else if b = 0x2c then
        let (vs, rest) ← readItems limits room fuel rest
        return (v :: vs, rest)
      else throw .malformed

/-- The entries of a table up to its closing brace. -/
def readEntries (limits : Limits) (room : Nat) :
    (fuel : Nat) → Bytes → Except Fault (List (String × Value) × Bytes)
  | 0, _ => .error .malformed
  | fuel + 1, bs => do
    match skipBlanks bs with
    | [] => throw .malformed
    | q :: rest =>
      if q ≠ 0x22 then throw .malformed
      let (name, rest) ← readText rest
      match skipBlanks rest with
      | [] => throw .malformed
      | c :: rest =>
        if c ≠ 0x3a then throw .malformed
        let (v, rest) ← readValue limits room fuel rest
        match skipBlanks rest with
        | [] => throw .malformed
        | b :: rest =>
          if b = 0x7d then return ([(name, v)], rest)
          else if b = 0x2c then
            let (es, rest) ← readEntries limits room fuel rest
            return ((name, v) :: es, rest)
          else throw .malformed

end

/-- The value of a JSON text with numbers within limits.  A value of `n` bytes is reached in at most `2 * n`
nested calls. -/
def readWithin (limits : Limits) (bs : Bytes) : Except Fault Value := do
  let (v, rest) ← readValue limits limits.levels (2 * bs.length + 2) bs
  if (skipBlanks rest).isEmpty then return v else throw .malformed

/-- The value of a JSON text. -/
def read (bs : Bytes) : Except Fault Value := readWithin .standard bs

end RequestSamples.Json
