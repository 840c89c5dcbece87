import RequestSamples.Bytes.BigEndian
import RequestSamples.Bytes.Crc32c
import RequestSamples.Bytes.Varint
import RequestSamples.Record

/-!
# Record batches

The bytes of a batch of records in the layout of magic 2, uncompressed and without a producer.  A head of 61
bytes is followed by the records, each with its length before it.  The checksum covers everything from the
attributes on, so the base offset, the length and the leader epoch before it can change without it.

Records are checked from left to right, within a record key, value and headers in this order; then the count
and the time stamp, at last the base offset and the length.
-/

namespace RequestSamples.Batch

/-- The layout version. -/
def magic : Int := 2

/-- A length and that many bytes; nothing has the length `-1`. -/
def sized : Value → Except Failure Bytes
  | .null => .ok (Varint.write (-1))
  | .bytes bs => .ok (Varint.write bs.length ++ bs)
  | v => match v.length with
    | .ok _ => .error (.notBytes v.typeName)
    | .error e => .error e

/-- One header: a text and bytes or nothing. -/
def header (v : Value) : Except Failure Bytes := do
  let (name, value) ← v.pair
  match name with
  | .text s => return (← sized (.bytes (Bytes.ofText s))) ++ (← sized value)
  | n => throw (.noAttribute n.typeName "encode")

/-- One record without its length: attributes, the differences of its time stamp and offset from those of the
batch, key, value and headers. -/
def record (delta : Nat) (r : Record) : Except Failure Bytes := do
  let key ← sized r.key
  let value ← sized r.value
  let count ← r.headers.length
  let headers ← (← r.headers.elements).mapM header
  return [0] ++ Varint.write 0 ++ Varint.write delta ++ key ++ value ++ Varint.write count ++ headers.flatten

/-- The records with their lengths, the first one `delta` records after the start of the batch. -/
def body (delta : Nat) : List Record → Except Failure Bytes
  | [] => .ok []
  | r :: rs => do
    let bytes ← record delta r
    let rest ← body (delta + 1) rs
    return Varint.write bytes.length ++ bytes ++ rest

/-- A signed integer of 64 bits. -/
def long (v : Value) : Except Failure Bytes :=
  match v.integer? with
  | none => .error .notInteger
  | some n => if -2 ^ 63 ≤ n && n < 2 ^ 63 then .ok (BigEndian.write 8 n) else .error .tooLarge

/-- A count or a length of 32 bits. -/
def count (n : Nat) : Except Failure Bytes :=
  if n < 2 ^ 31 then .ok (BigEndian.write 4 n) else .error .outOfRange

/-- What the checksum covers: attributes, the last offset difference, the first and the last time stamp, no
producer, the number of records and the records. -/
def checked (timestamp : Value) (records : List Record) : Except Failure Bytes := do
  let bytes ← body 0 records
  let last ← count (records.length - 1)
  let time ← long timestamp
  let total ← count records.length
  return BigEndian.write 2 0 ++ last ++ time ++ time ++ BigEndian.write 8 (-1) ++ BigEndian.write 2 (-1) ++
    BigEndian.write 4 (-1) ++ total ++ bytes

/-- The bytes of a batch. -/
def encode (baseOffset timestamp : Value) (records : List Record) : Except Failure Bytes := do
  if records.isEmpty then throw .emptyBatch
  let bytes ← checked timestamp records
  let base ← long baseOffset
  let length ← count (9 + bytes.length)
  return base ++ length ++ BigEndian.write 4 (-1) ++ BigEndian.write 1 magic ++
    BigEndian.write 4 (Crc32c.checksum bytes).toNat ++ bytes

/-- The time stamp, in milliseconds, that a clock counting seconds gives. -/
def timestampAt (clock : Value) : Except Failure Value :=
  match clock with
  | .int n => .ok (.int (n * 1000))
  | .bool b => .ok (.int (if b then 1000 else 0))
  | .float x => match (x.scale 1000).truncate? with
    | some n => .ok (.int n)
    | none => .error (if x = .undefined then .undefinedTime else .infiniteTime)
  | _ => .error .notInteger

/-- The bytes of a batch whose time stamp, if it is null, is what a clock shows. -/
def encodeAt (clock baseOffset timestamp : Value) (records : List Record) : Except Failure Bytes := do
  let time ← match timestamp with
    | .null => timestampAt clock
    | time => pure time
  encode baseOffset time records

end RequestSamples.Batch
