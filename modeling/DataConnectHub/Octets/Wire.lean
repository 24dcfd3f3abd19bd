import Mathlib.Algebra.Order.Ring.Int

/-! The wire format of protocol buffers: numbers in groups of seven bits, and messages
as sequences of fields, each with its number and a value of one of four types. -/
namespace Octets

/-- A number in base 128, least significant group first, and the bytes behind it. -/
def readVarint : List UInt8 → Option (Nat × List UInt8)
  | [] => none
  | byte :: rest =>
    if byte.toNat < 128 then some (byte.toNat, rest)
    else (readVarint rest).map fun read => (byte.toNat % 128 + 128 * read.1, read.2)

inductive WireValue where
  | varint (value : Nat)
  | fixed64 (bytes : List UInt8)
  | bytes (bytes : List UInt8)
  | fixed32 (bytes : List UInt8)
  deriving DecidableEq, Repr

def readBytes (size : Nat) (bytes : List UInt8) : Option (List UInt8 × List UInt8) :=
  if size ≤ bytes.length then some (bytes.take size, bytes.drop size) else none

/-- The value of a wire type. Groups are not in use any more. -/
def readValue (bytes : List UInt8) : (wireType : Nat) → Option (WireValue × List UInt8)
  | 0 => (readVarint bytes).map (Prod.map .varint id)
  | 1 => (readBytes 8 bytes).map (Prod.map .fixed64 id)
  | 2 => (readVarint bytes).bind fun size => (readBytes size.1 size.2).map (Prod.map .bytes id)
  | 5 => (readBytes 4 bytes).map (Prod.map .fixed32 id)
  | _ => none

/-- At most `fuel` fields, up to the end of the bytes. -/
def readFields : (fuel : Nat) → List UInt8 → Option (List (Nat × WireValue))
  | _, [] => some []
  | 0, _ :: _ => none
  | fuel + 1, bytes => do
    let (tag, bytes) ← readVarint bytes
    let (value, bytes) ← readValue bytes (tag % 8)
    let fields ← readFields fuel bytes
    if tag / 8 = 0 then none else some ((tag / 8, value) :: fields)

/-- A field takes a byte at least, so that there are no more fields than bytes. -/
def readMessage (bytes : List UInt8) : Option (List (Nat × WireValue)) := readFields (bytes.length + 1) bytes

theorem readBytes_append (bytes rest : List UInt8) : readBytes bytes.length (bytes ++ rest) = some (bytes, rest) := by
  simp [readBytes]

theorem readFields_cons {fuel tag : Nat} {bytes body rest : List UInt8} {value : WireValue}
    {fields : List (Nat × WireValue)} (hTag : readVarint bytes = some (tag, body)) (hNumber : 8 ≤ tag)
    (hValue : readValue body (tag % 8) = some (value, rest)) (hRest : readFields fuel rest = some fields) :
    readFields (fuel + 1) bytes = some ((tag / 8, value) :: fields) := by
  cases bytes with
  | nil => cases hTag
  | cons byte bytes => simp [readFields, hTag, hValue, hRest, hNumber]

end Octets
