import RequestSamples.Binary64
import RequestSamples.Bytes
import RequestSamples.Family
import RequestSamples.Uuid

/-!
# Values

The values that fields, keys and versions may hold.  Nothing checks the kind of a field, so a field may hold
any of them.  Numbers of all kinds are compared by what they denote: a truth value counts as zero or one and a
request kind as its wire id; the undefined number is one value, found again wherever it was put.  Tables keep
the order of their entries but are compared without it.  Two bare requests are never equal.  Request kinds and
degrees of safety are members of enumerations: there is only one of each.
-/

namespace RequestSamples

/-- A value.  A tuple is a list that cannot change.  An object has the fields of its shape, and may carry
further attributes that are not compared.  An inner value is something of a family about which no more is
known, such as a method, or the code of one. -/
inductive Value
  | null
  | bool (b : Bool)
  | int (n : Int)
  | float (x : Binary64)
  | text (s : String)
  | bytes (bs : Bytes)
  | uuid (u : Uuid)
  | key (k : ApiKey)
  | list (items : List Value)
  | tuple (items : List Value)
  | dict (entries : List (String × Value))
  | object (shape : Shape) (fields extras : List (String × Value))
  | inner (f : Family)
  | safety (s : Uuid.Safety)

/-- A member of an enumeration. -/
inductive Member
  | kind (k : ApiKey)
  | safety (s : Uuid.Safety)
deriving DecidableEq, Repr

/-- What a number denotes. -/
inductive Number
  | finite (q : Rat)
  | infinite (negative : Bool)
  | undefined
deriving DecidableEq

/-- The order of numbers.  The undefined one is neither below nor above any other. -/
def Number.lt : Number → Number → Bool
  | .finite p, .finite q => p < q
  | .finite _, .infinite negative => !negative
  | .infinite negative, .finite _ => negative
  | .infinite m, .infinite n => m && !n
  | _, _ => false

/-- Named values, in the order in which they were put. -/
abbrev Entries := List (String × Value)

namespace Entries

/-- Replaces the value of a name where it stands, or adds the name at the end. -/
def put {α : Type} (name : String) (v : α) : List (String × α) → List (String × α)
  | [] => [(name, v)]
  | (m, w) :: es => if m = name then (name, v) :: es else (m, w) :: put name v es

/-- The value of a name. -/
def get? (es : Entries) (name : String) : Option Value := es.lookup name

/-- The entries with these names, in the order of the names. -/
def pick {α : Type} (names : List String) (es : List (String × α)) : List (String × α) :=
  names.filterMap fun n => (es.lookup n).map (n, ·)

/-- The entries with something else made of each value. -/
def traverse {m : Type → Type} [Monad m] {α β : Type} (f : α → m β) (es : List (String × α)) :
    m (List (String × β)) :=
  es.mapM fun e => do return (e.1, ← f e.2)

/-- The entries put one after the other: the last value of a name stays, in the place of the first. -/
def ofList (es : List (String × Value)) : Entries := es.foldl (fun acc (n, v) => put n v acc) []

end Entries

namespace Value

instance : Inhabited Value := ⟨null⟩

/-- The family of a value. -/
def family : Value → Family
  | null => .null
  | bool _ => .bool
  | int _ => .int
  | float _ => .float
  | text _ => .text
  | bytes _ => .bytes
  | uuid _ => .uuid
  | key _ => .kinds
  | list _ => .list
  | tuple _ => .tuple
  | dict _ => .dict
  | object s _ _ => .shape s
  | inner f => f
  | safety _ => .safeties

/-- The word for the kind of a value in messages about it. -/
def typeName (v : Value) : String := v.family.name

/-- The member of an enumeration that a value is. -/
def member? : Value → Option Member
  | key k => some (.kind k)
  | safety s => some (.safety s)
  | _ => none

/-- What a value denotes as a number. -/
def number? : Value → Option Number
  | bool b => some (.finite (if b then 1 else 0))
  | int n => some (.finite n)
  | float (.infinite negative) => some (.infinite negative)
  | float .undefined => some .undefined
  | float x => x.toRat?.map .finite
  | key k => some (.finite k.id)
  | _ => none

/-- The integer that a value is; no other number is one, whatever it denotes. -/
def integer? : Value → Option Int
  | bool b => some (if b then 1 else 0)
  | int n => some n
  | key k => some k.id
  | _ => none

/-- The value is the undefined number.  There is only one, so it is found in tables and makes no difference
between lists; but asked directly it equals nothing. -/
def isUndefined : Value → Bool
  | float x => x = .undefined
  | _ => false

/-- Both values are numbers and denote the same. -/
def sameNumber (v w : Value) : Bool :=
  match v.number?, w.number? with
  | some p, some q => p = q
  | _, _ => false

mutual

/-- The values are equal in what they denote. -/
def same : Value → Value → Bool
  | null, w => match w with | null => true | _ => false
  | text s, w => match w with | text t => s = t | _ => false
  | bytes as, w => match w with | bytes bs => as = bs | _ => false
  | uuid u, w => match w with | uuid v => u = v | _ => false
  | list xs, w => match w with | list ys => sameList xs ys | _ => false
  | tuple xs, w => match w with | tuple ys => sameList xs ys | _ => false
  | dict es, w => match w with | dict fs => es.length = fs.length && sameEntries es fs | _ => false
  | object s es _, w =>
    match w with | object t fs _ => s = t && s ≠ .request && sameEntries es fs | _ => false
  | inner _, _ => false
  | safety s, w => match w with | safety t => s = t | _ => false
  | bool b, w => sameNumber (bool b) w
  | int n, w => sameNumber (int n) w
  | float x, w => sameNumber (float x) w
  | key k, w => sameNumber (key k) w
termination_by structural v => v

/-- The lists are equal element by element. -/
def sameList : List Value → List Value → Bool
  | [], ys => ys.isEmpty
  | x :: xs, ys => match ys with | y :: ys => same x y && sameList xs ys | [] => false
termination_by structural xs => xs

/-- Every entry of the first list has an equal value in the second. -/
def sameEntries : List (String × Value) → List (String × Value) → Bool
  | [], _ => true
  | (n, v) :: es, fs => (match fs.lookup n with | some w => same v w | none => false) && sameEntries es fs
termination_by structural es => es

end

/-- The request kind that a value denotes. -/
def toKey? (v : Value) : Option ApiKey :=
  match v.number? with
  | some (.finite q) => if q.den = 1 && 0 ≤ q.num then ApiKey.ofId? q.num.toNat else none
  | _ => none

/-- The value can be the key of a table: lists, tables and objects with fields cannot. -/
def isHashable : Value → Bool
  | list _ | dict _ => false
  | object s _ _ => s = .request
  | _ => true

/-- The value is neither zero nor empty. -/
def isTruthy : Value → Bool
  | null => false
  | text s => s ≠ ""
  | bytes bs => !bs.isEmpty
  | list vs | tuple vs => !vs.isEmpty
  | dict es => !es.isEmpty
  | uuid _ | object .. | inner _ | safety _ => true
  | v => v.number? != some (.finite 0)

/-- The elements of a value that can be run through: the characters of a text, the numbers of the bytes, the
items of a list or a tuple, the names of a table. -/
def elements? : Value → Option (List Value)
  | text s => some (s.toList.map fun c => text (String.singleton c))
  | bytes bs => some (bs.map fun b => int b.toNat)
  | list vs | tuple vs => some vs
  | dict es => some (es.map fun e => text e.1)
  | _ => none

@[simp] theorem number?_int (n : Int) : (int n).number? = some (.finite n) := rfl

/-- A number is equal to what denotes the same number, and to nothing else. -/
theorem same_of_number? {v : Value} {p : Number} (h : v.number? = some p) (w : Value) :
    v.same w = decide (w.number? = some p) := by
  have hnumber : v.same w = v.sameNumber w := by
    cases v <;> first | rfl | cases h
  rw [hnumber, sameNumber, h]
  cases hw : w.number? with
  | none => simp
  | some q => simp [eq_comm]

@[simp] theorem toKey?_key (k : ApiKey) : (key k).toKey? = some k := by
  simp [toKey?, number?]

/-- What is no number is equal to none. -/
theorem same_number {v w : Value} {p : Number} (hv : v.number? = none) (hw : w.number? = some p) :
    v.same w = false := by
  cases w with
  | bool | int | float | key =>
    cases v with
    | bool | int | key => cases hv
    | float x => cases x <;> cases hv
    | _ => rfl
  | _ => cases hw

theorem number?_of_toKey? {v : Value} {k : ApiKey} (h : v.toKey? = some k) : ∃ p, v.number? = some p := by
  unfold toKey? at h
  split at h
  · rename_i q hq
    exact ⟨_, hq⟩
  · cases h

theorem isHashable_of_toKey? {v : Value} {k : ApiKey} (h : v.toKey? = some k) : v.isHashable = true := by
  cases v <;> first | rfl | cases h

/-- Values that denote the same number denote the same request kind. -/
theorem toKey?_eq_of_number?_eq {v w : Value} (h : v.number? = w.number?) : v.toKey? = w.toKey? := by
  simp [toKey?, h]

end Value

/-- A member of an enumeration as a value. -/
def Member.value : Member → Value
  | kind k => .key k
  | safety s => .safety s

end RequestSamples
