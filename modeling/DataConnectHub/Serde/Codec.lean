import DataConnectHub.Serde.Json
import Mathlib.Data.List.AList

/-! Serialization of typed values, with the round trip as part of the codec.
Reading a struct accepts what a derived deserializer accepts: an object with
the named members in any order, or an array of the fields by position. -/
namespace Serde

/-- `toValue` and `fromValue` of a type; a value is read back as it was
written. -/
class Codec (α : Type) where
  toValue : α → Json
  fromValue : Json → Option α
  fromValue_toValue : ∀ value, fromValue (toValue value) = some value

export Codec (toValue fromValue)

attribute [simp] Codec.fromValue_toValue

/-- A map with string keys, each bound once. -/
abbrev StringMap (Value : Type) := AList fun _ : String => Value

/-- Equality of maps that evaluates: maps are equal when their entries are. -/
instance (Value : Type) [DecidableEq Value] : DecidableEq (StringMap Value) := fun first second =>
  decidable_of_iff (first.entries = second.entries) AList.ext_iff.symm

variable {α : Type}

instance : Codec String where
  toValue := .string
  fromValue
    | .string value => some value
    | _ => none
  fromValue_toValue _ := rfl

instance : Codec Bool where
  toValue := .bool
  fromValue
    | .bool value => some value
    | _ => none
  fromValue_toValue _ := rfl

theorem mapM_fromValue_toValue [Codec α] (values : List α) :
    (values.map toValue).mapM (fromValue (α := α)) = some values := by
  induction values with
  | nil => rfl
  | cons value rest ih => simp [ih]

instance [Codec α] : Codec (List α) where
  toValue values := .array (values.map toValue)
  fromValue
    | .array items => items.mapM fromValue
    | _ => none
  fromValue_toValue := mapM_fromValue_toValue

def readMember [Codec α] (member : String × Json) : Option ((_ : String) × α) :=
  (fromValue member.2).map fun value => ⟨member.1, value⟩

def writeMember [Codec α] (entry : (_ : String) × α) : String × Json :=
  (entry.1, toValue entry.2)

theorem mapM_readMember_writeMember [Codec α] (entries : List ((_ : String) × α)) :
    (entries.map writeMember).mapM (readMember (α := α)) = some entries := by
  induction entries with
  | nil => rfl
  | cons entry rest ih => simp [ih, readMember, writeMember]

theorem dedupKeys_eq_self {entries : List ((_ : String) × α)} (h : entries.NodupKeys) :
    entries.dedupKeys = entries := by
  induction entries with
  | nil => rfl
  | cons entry rest ih =>
    obtain ⟨hNew, hRest⟩ := List.nodupKeys_cons.mp h
    rw [List.dedupKeys_cons, ih hRest, List.kinsert_def, List.kerase_of_notMem_keys hNew]

theorem toAList_entries (map : StringMap α) : map.entries.toAList = map :=
  AList.ext (dedupKeys_eq_self map.nodupKeys)

instance [Codec α] : Codec (StringMap α) where
  toValue map := .object (map.entries.map writeMember)
  fromValue
    | .object members => (members.mapM readMember).map List.toAList
    | _ => none
  fromValue_toValue map := by
    simp only [mapM_readMember_writeMember, Option.map_some, toAList_entries]

/-- What the deserializer of a struct finds for one field. -/
inductive Slot where
  | value (found : Json)
  | absent
  | exhausted

def Slot.ofMember : Option Json → Slot
  | some found => .value found
  | none => .absent

/-- The fields of a struct, by name. An array that is too long is refused. -/
def slots (names : List String) : Json → Option (String → Slot)
  | .object members => some fun name => .ofMember (members.lookup name)
  | .array items =>
    if items.length ≤ names.length then
      some fun name => items[names.idxOf name]?.elim .exhausted .value
    else none
  | _ => none

/-- An `Option` written as `null` when there is no value. -/
def nullOr [Codec α] (value : Option α) : Json :=
  value.elim .null toValue

namespace Slot

def required [Codec α] : Slot → Option α
  | .value found => fromValue found
  | _ => none

/-- A field with `#[serde(default)]`. -/
def defaulted [Codec α] (fallback : α) : Slot → Option α
  | .value found => fromValue found
  | _ => some fallback

def nullable [Codec α] : Json → Option (Option α)
  | .null => some none
  | found => (fromValue found).map some

/-- An `Option` field: an object may leave it out, an array may not. -/
def optional [Codec α] : Slot → Option (Option α)
  | .value found => nullable found
  | .absent => some none
  | .exhausted => none

/-- An `Option` field with `#[serde(default)]`. -/
def optionalDefaulted [Codec α] : Slot → Option (Option α)
  | .value found => nullable found
  | _ => some none

@[simp] theorem required_ofMember [Codec α] (value : α) : (ofMember (some (toValue value))).required = some value :=
  Codec.fromValue_toValue value

@[simp] theorem defaulted_ofMember [Codec α] (fallback value : α) :
    (ofMember (some (toValue value))).defaulted fallback = some value :=
  Codec.fromValue_toValue value

theorem defaulted_ofMember_skipped [Codec α] {skip : Prop} [Decidable skip] {fallback value : α}
    (h : skip → value = fallback) :
    (ofMember (if skip then none else some (toValue value))).defaulted fallback = some value := by
  by_cases hSkip : skip
  · rw [if_pos hSkip, h hSkip]
    rfl
  · rw [if_neg hSkip]
    exact Codec.fromValue_toValue value

/-- Values whose documents are never `null` are told apart from a missing one. -/
theorem nullable_toValue [Codec α] (value : α) (h : toValue value ≠ .null) :
    nullable (toValue value) = some (some value) := by
  have hFound : ∀ found : Json, found ≠ .null → nullable (α := α) found = (fromValue found).map some := by
    intro found hNull
    cases found <;> first | contradiction | rfl
  rw [hFound _ h, Codec.fromValue_toValue, Option.map_some]

section

variable [Codec α] (h : ∀ value : α, toValue value ≠ .null) (value : Option α)

include h

theorem optional_ofMember : (ofMember (value.map toValue)).optional = some value := by
  cases value with
  | none => rfl
  | some value => exact nullable_toValue value (h value)

theorem optionalDefaulted_ofMember : (ofMember (value.map toValue)).optionalDefaulted = some value := by
  cases value with
  | none => rfl
  | some value => exact nullable_toValue value (h value)

theorem optional_ofMember_nullOr : (ofMember (some (nullOr value))).optional = some value := by
  cases value with
  | none => rfl
  | some value => exact nullable_toValue value (h value)

end

/-- A required text is the text that the database reads there. -/
theorem text?_of_required {found : Option Json} {text : String}
    (h : (ofMember found).required = some text) : found.bind Json.text? = some text := by
  cases found with
  | none => cases h
  | some value =>
    cases value with
    | string _ => exact h
    | _ => cases h

/-- An optional text left out or `null` is `NULL` for the database. -/
theorem text?_of_optional {found : Option Json} {text : Option String}
    (h : (ofMember found).optional = some text) : found.bind Json.text? = text := by
  cases found with
  | none => exact Option.some.inj h
  | some value =>
    cases value with
    | null | string _ => exact Option.some.inj h
    | _ => cases h

end Slot

theorem string_ne_null (text : String) : toValue text ≠ .null := by
  intro h
  cases h

theorem list_ne_null [Codec α] (values : List α) : toValue values ≠ .null := by
  intro h
  cases h

/-- A member with `skip_serializing_if = "Option::is_none"`. -/
def optionalMember [Codec α] (name : String) (value : Option α) : Members :=
  (value.map fun found => (name, toValue found)).toList

@[simp] theorem lookup_optionalMember [Codec α] (name key : String) (value : Option α) :
    (optionalMember name value).lookup key = if key == name then value.map toValue else none := by
  cases value with
  | none => simp [optionalMember]
  | some found =>
    by_cases h : key == name <;> simp [optionalMember, List.lookup_cons, h]

/-- A member with another `skip_serializing_if`. -/
def memberUnless [Codec α] (skip : Bool) (name : String) (value : α) : Members :=
  if skip then [] else [(name, toValue value)]

@[simp] theorem lookup_memberUnless [Codec α] (skip : Bool) (name key : String) (value : α) :
    (memberUnless skip name value).lookup key =
      if key == name then (if skip then none else some (toValue value)) else none := by
  cases skip <;> by_cases h : key == name <;> simp [memberUnless, List.lookup_cons, h]

/-- The name of a unit variant of an enum, which may stand alone or as the
only member of an object. -/
def variant : Json → Option String
  | .string name => some name
  | .object [(name, .null)] => some name
  | _ => none

@[simp] theorem slots_object (names : List String) (members : Members) :
    slots names (.object members) = some fun name => .ofMember (members.lookup name) := rfl

end Serde
