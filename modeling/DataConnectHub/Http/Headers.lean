import Mathlib.Data.List.Basic

/-! HTTP headers and statuses. A header map is an ordered multimap: a name may
occur with several values, and a lookup returns the first of them. A value is a
sequence of octets and need not be text. A gRPC call that fails has a status of
its own. -/
namespace Http

def IsSuccess (status : Nat) : Prop := 200 ≤ status ∧ status < 300

instance decidableIsSuccess (status : Nat) : Decidable (IsSuccess status) := inferInstanceAs (Decidable (_ ∧ _))

abbrev HeaderValue := List UInt8

/-- Visible ASCII and the tab, the octets a value may contain to be text. -/
def isVisibleAscii (octet : UInt8) : Bool :=
  (32 ≤ octet && octet < 127) || octet == 9

namespace HeaderValue

def toStr (value : HeaderValue) : Option String :=
  if value.all isVisibleAscii then some (String.ofList (value.map fun octet => Char.ofNat octet.toNat))
  else none

theorem toStr_eq_some_empty {value : HeaderValue} : toStr value = some "" ↔ value = [] := by
  constructor
  · intro h
    unfold toStr at h
    split at h
    · have hEmpty := congrArg String.toList (Option.some.inj h)
      simpa using hEmpty
    · cases h
  · rintro rfl
    rfl

end HeaderValue

/-- The value with these ASCII characters. -/
def asciiValue (text : String) : HeaderValue :=
  text.toList.map fun char => UInt8.ofNat char.toNat

/-- Names are in lower case, as the map stores them. -/
abbrev HeaderMap := List (String × HeaderValue)

namespace HeaderMap

def get (headers : HeaderMap) (name : String) : Option HeaderValue :=
  (headers.find? fun header => header.1 == name).map Prod.snd

/-- Set a header, dropping all values it had. -/
def insert (headers : HeaderMap) (name : String) (value : HeaderValue) : HeaderMap :=
  headers.filter (fun header => header.1 != name) ++ [(name, value)]

theorem get_insert_of_ne {headers : HeaderMap} {name other : String} (value : HeaderValue)
    (h : other ≠ name) : (headers.insert name value).get other = headers.get other := by
  have hOld : (fun header : String × HeaderValue =>
      decide ((header.1 != name) = true ∧ (header.1 == other) = true)) =
      fun header => header.1 == other := by
    funext header
    by_cases hOther : header.1 = other
    · simp [hOther, h]
    · simp [hOther]
  unfold get insert
  rw [List.find?_append, List.find?_filter, hOld]
  cases headers.find? fun header => header.1 == other with
  | some header => rfl
  | none => simp [h.symm]

end HeaderMap

namespace Grpc

inductive Code where
  | cancelled
  | unknown
  | invalidArgument
  | deadlineExceeded
  | notFound
  | alreadyExists
  | permissionDenied
  | resourceExhausted
  | failedPrecondition
  | aborted
  | outOfRange
  | unimplemented
  | internal
  | unavailable
  | dataLoss
  | unauthenticated
  deriving DecidableEq, Repr

structure Status where
  code : Code
  message : String
  deriving DecidableEq, Repr

end Grpc
end Http
