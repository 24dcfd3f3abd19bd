import DataConnectHub.Binary.Rounding
import DataConnectHub.Serde.Json

/-! What code reads from a JSON value. A number that is written without a
fraction is a signed or unsigned 64-bit integer if it fits into one. Any other
number is a float, and the decimal is then the exact value of that float. -/
namespace Serde

open Binary

namespace Number

def IsInteger (number : Number) : Prop :=
  number.scale = 0 ∧ -2 ^ 63 ≤ number.mantissa ∧ number.mantissa < 2 ^ 64

instance (number : Number) : Decidable number.IsInteger := inferInstanceAs (Decidable (_ ∧ _))

def asI64 (number : Number) : Option Int64 :=
  if number.scale = 0 ∧ -2 ^ 63 ≤ number.mantissa ∧ number.mantissa < 2 ^ 63 then
    some (.ofInt number.mantissa)
  else none

def asU64 (number : Number) : Option UInt64 :=
  if number.scale = 0 ∧ 0 ≤ number.mantissa ∧ number.mantissa < 2 ^ 64 then
    some (.ofNat number.mantissa.toNat)
  else none

def asF64 (number : Number) : Option Rounded :=
  some (if number.IsInteger then binary64.round number.mantissa
    else .finite (number.mantissa / 10 ^ number.scale))

/-- The text of a number; that of a float is left to the library. -/
def display (displayFloat : Number → String) (number : Number) : String :=
  if number.IsInteger then toString number.mantissa else displayFloat number

theorem asI64_of_lt {n : Int} (hLow : -2 ^ 63 ≤ n) (hHigh : n < 2 ^ 63) : asI64 ⟨n, 0⟩ = some (.ofInt n) :=
  if_pos ⟨rfl, hLow, hHigh⟩

theorem asI64_of_le {n : Int} (h : 2 ^ 63 ≤ n) : asI64 ⟨n, 0⟩ = none :=
  if_neg fun hFits => absurd hFits.2.2 (not_lt.mpr h)

theorem toInt_of_asI64 {number : Number} {n : Int64} (h : number.asI64 = some n) :
    number.scale = 0 ∧ number.mantissa = n.toInt := by
  unfold asI64 at h
  split at h
  next hFits =>
      obtain rfl := Option.some.inj h
      exact ⟨hFits.1, (Int64.toInt_ofInt_of_le hFits.2.1 hFits.2.2).symm⟩
  · cases h

end Number

namespace Json

def asBool : Json → Option Bool
  | .bool value => some value
  | _ => none

def asI64 : Json → Option Int64
  | .number value => value.asI64
  | _ => none

def asU64 : Json → Option UInt64
  | .number value => value.asU64
  | _ => none

def asF64 : Json → Option Rounded
  | .number value => value.asF64
  | _ => none

def asStr : Json → Option String
  | .string value => some value
  | _ => none

def asArray : Json → Option (List Json)
  | .array items => some items
  | _ => none

def asObject : Json → Option Members
  | .object members => some members
  | _ => none

mutual
/-- The text of a value without any spaces. -/
def display (displayFloat : Number → String) : Json → String
  | .null => "null"
  | .bool value => if value then "true" else "false"
  | .number value => value.display displayFloat
  | .string value => quote value
  | .array items => "[" ++ ",".intercalate (displayItems displayFloat items) ++ "]"
  | .object members => "\x7b" ++ ",".intercalate (displayMembers displayFloat members) ++ "\x7d"

def displayItems (displayFloat : Number → String) : List Json → List String
  | [] => []
  | item :: rest => item.display displayFloat :: displayItems displayFloat rest

def displayMembers (displayFloat : Number → String) : Members → List String
  | [] => []
  | (name, value) :: rest =>
    (quote name ++ ":" ++ value.display displayFloat) :: displayMembers displayFloat rest
end

end Json
end Serde
