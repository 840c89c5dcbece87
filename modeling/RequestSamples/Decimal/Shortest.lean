import RequestSamples.Binary64

/-!
# The shortest decimal of a binary number

Of the decimals that read back as a given number, the one with the fewest digits; among those with equally
few the nearest, and of two equally near ones the even one.  Grids of 1, 2, …, 17 digits are tried in turn: if
some point of a grid reads back, one of the two neighbours of the number on that grid does.
-/

namespace RequestSamples.Decimal

/-- The decimal `0.d₁d₂d₃… * 10 ^ point`. -/
structure Digits where
  digits : List Char
  point : Int
deriving DecidableEq, Repr

/-- The decimals that round to `m * 2 ^ e`, in quarters of the last binary place. -/
structure Interval where
  low : Nat
  value : Nat
  high : Nat
  closed : Bool
deriving DecidableEq, Repr

/-- The interval around `m * 2 ^ e`: below a power of two the numbers lie twice as dense. -/
def Interval.around (m : Nat) (e : Int) : Interval where
  low := if m = 2 ^ 52 && -1074 < e then 4 * m - 1 else 4 * m - 2
  value := 4 * m
  high := 4 * m + 2
  closed := m % 2 = 0

/-- The point `j * b` of a grid lies in the interval whose ends are counted in units of `a`. -/
def Interval.holds (i : Interval) (a b j : Nat) : Bool :=
  if i.closed then i.low * a ≤ j * b && j * b ≤ i.high * a
  else i.low * a < j * b && j * b < i.high * a

/-- The point of the grid of step `10 ^ grid` that reads back, if there is one: the nearer of the two
neighbours of the value. -/
def Interval.nearest? (i : Interval) (e grid : Int) : Option Nat :=
  let a := 2 ^ (e - 2).toNat * 10 ^ (-grid).toNat
  let b := 2 ^ (2 - e).toNat * 10 ^ grid.toNat
  let j := i.value * a / b
  let r := i.value * a % b
  match i.holds a b j, i.holds a b (j + 1) with
  | true, false => some j
  | false, true => some (j + 1)
  | false, false => none
  | true, true =>
    if 2 * r < b then some j
    else if b < 2 * r then some (j + 1)
    else if j % 2 = 0 then some j else some (j + 1)

/-- The greatest `k` with `10 ^ k ≤ m * 2 ^ e`, for positive `m`. -/
def decade (m : Nat) (e : Int) : Int :=
  let reaches (k : Int) : Bool :=
    2 ^ (-e).toNat * 10 ^ k.toNat ≤ m * 2 ^ e.toNat * 10 ^ (-k).toNat
  let guess := ((m.log2 : Int) + e) * 30103 / 100000
  if reaches (guess + 1) then guess + 1 else if reaches guess then guess else guess - 1

/-- The digits of `n` without the zeros at the end, and how many digits there are. -/
def significant (n : Nat) : List Char × Nat :=
  let cs := Nat.toDigits 10 n
  ((cs.reverse.dropWhile (· = '0')).reverse, cs.length)

/-- The shortest decimal that reads back as `m * 2 ^ e`. -/
def shortest (m : Nat) (e : Int) : Digits :=
  if m = 0 then ⟨['0'], 1⟩
  else
    let i := Interval.around m e
    let top := decade m e
    let hit := (List.range 17).findSome? fun (n : Nat) =>
      (i.nearest? e (top - (n : Int))).map fun j => (j, top - (n : Int))
    match hit with
    | some (j, grid) =>
      let (cs, length) := significant j
      ⟨cs, length + grid⟩
    | none => ⟨['0'], 1⟩

end RequestSamples.Decimal
