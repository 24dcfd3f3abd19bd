import DataConnectHub.Serde.Value

/-! Objects without a type of their own: JSON trees that are read and written along
paths of names. A write makes the objects that are missing on its way, and fails
where something else is in the way. -/
namespace Unstructured

open Serde Option

/-- `NestedFieldNoCopy`. -/
def nested? : List String → Json → Option Json
  | [], value => some value
  | name :: path, value => (value.field? name).bind (nested? path)

def nestedSlice? (path : List String) (value : Json) : Option (List Json) :=
  (nested? path value).bind Json.asArray

/-- The text at a path, empty when there is none. -/
def nestedString (path : List String) (value : Json) : String :=
  ((nested? path value).bind Json.asStr).getD ""

/-- `SetNestedField`. -/
def setNested? : List String → Json → Json → Option Json
  | [], new, _ => some new
  | name :: path, new, .object members =>
    (setNested? path new ((members.lookup name).getD (.object []))).map fun value =>
      .object (Json.put name value members)
  | _ :: _, _, _ => none

/-- The object after a write whose error is ignored. -/
def setNested (path : List String) (new value : Json) : Json := (setNested? path new value).getD value

section Writes

variable {path : List String} {new value result : Json}

theorem setNested_of_some (h : setNested? path new value = some result) : setNested path new value = result := by
  rw [setNested, h]
  rfl

theorem setNested_of_none (h : setNested? path new value = none) : setNested path new value = value := by
  rw [setNested, h]
  rfl

/-- What a write along a path with a first name does. -/
theorem setNested?_cons {name : String} (h : setNested? (name :: path) new value = some result) :
    ∃ members inner, value = .object members ∧ result = .object (Json.put name inner members) ∧
      setNested? path new ((members.lookup name).getD (.object [])) = some inner := by
  cases value with
  | object members =>
    obtain ⟨inner, hInner, rfl⟩ := map_eq_some_iff.mp h
    exact ⟨members, inner, rfl, rfl, hInner⟩
  | _ => cases h

theorem nested?_setNested? (h : setNested? path new value = some result) : nested? path result = some new := by
  induction path generalizing value result with
  | nil => rw [nested?, some.inj h]
  | cons name path ih =>
    obtain ⟨members, inner, rfl, rfl, hInner⟩ := setNested?_cons h
    rw [nested?, Json.field?, Json.members, Json.lookup_put, if_pos rfl]
    exact ih hInner

theorem put_self {members : Members} {name : String} {found : Json}
    (h : members.lookup name = some found) : Json.put name found members = members := by
  induction members with
  | nil => cases h
  | cons member members ih =>
    obtain ⟨other, old⟩ := member
    rw [Json.lookup_cons] at h
    by_cases hName : name = other
    · subst hName
      rw [if_pos rfl] at h
      obtain rfl := some.inj h
      simp [Json.put]
    · rw [if_neg hName] at h
      have hMiss : (other == name) = false := by simpa using Ne.symm hName
      rw [Json.put, hMiss, if_neg Bool.false_ne_true, ih h]

theorem setNested?_self (h : nested? path value = some new) : setNested? path new value = some value := by
  induction path generalizing value with
  | nil => rw [setNested?, ← h, nested?]
  | cons name path ih =>
    obtain ⟨found, hFound, hNested⟩ := bind_eq_some_iff.mp h
    cases value with
    | object members =>
      have hLookup : members.lookup name = some found := hFound
      rw [setNested?, hLookup, getD_some, ih hNested, map_some, put_self hLookup]
    | _ => cases hFound

theorem put_put (members : Members) (name : String) (first second : Json) :
    Json.put name second (Json.put name first members) = Json.put name second members := by
  induction members with
  | nil => simp [Json.put]
  | cons member members ih =>
    obtain ⟨other, old⟩ := member
    by_cases hName : other = name
    · subst hName
      simp [Json.put]
    · have hMiss : (other == name) = false := by simpa using hName
      simp only [Json.put, hMiss, Bool.false_eq_true, if_false, ih]

/-- Where one value can be written, every other can. -/
theorem setNested?_isSome (path : List String) (new other value : Json) :
    (setNested? path new value).isSome = (setNested? path other value).isSome := by
  induction path generalizing value with
  | nil => rfl
  | cons name path ih =>
    cases value with
    | object members => simp only [setNested?, isSome_map, ih]
    | _ => rfl

theorem setNested?_setNested? {other : Json} (h : setNested? path new value = some result) :
    setNested? path other result = setNested? path other value := by
  induction path generalizing value result with
  | nil => rfl
  | cons name path ih =>
    obtain ⟨members, inner, rfl, rfl, hInner⟩ := setNested?_cons h
    have hLookup : (Json.put name inner members).lookup name = some inner := by
      rw [Json.lookup_put, if_pos rfl]
    rw [setNested?, hLookup, getD_some, ih hInner, setNested?]
    simp only [put_put]

theorem setNested_setNested (path : List String) (first second value : Json) :
    setNested path second (setNested path first value) = setNested path second value := by
  cases h : setNested? path first value with
  | none => rw [setNested_of_none h]
  | some result =>
    have hSome : (setNested? path second value).isSome = true := by
      rw [setNested?_isSome path second first value, h]
      rfl
    obtain ⟨written, hWritten⟩ := isSome_iff_exists.mp hSome
    rw [setNested_of_some h, setNested_of_some hWritten]
    exact setNested_of_some ((setNested?_setNested? h).trans hWritten)

variable {items : List Json}

theorem nestedSlice?_eq_some_iff : nestedSlice? path value = some items ↔ nested? path value = some (.array items) := by
  rw [nestedSlice?, bind_eq_some_iff]
  constructor
  · rintro ⟨found, hFound, hItems⟩
    cases found with
    | array found =>
      rw [hFound, some.inj hItems]
    | _ => cases hItems
  · intro h
    exact ⟨_, h, rfl⟩

theorem nestedSlice?_setNested {items' : List Json} (h : nestedSlice? path value = some items) :
    nestedSlice? path (setNested path (.array items') value) = some items' := by
  have hSome : (setNested? path (.array items') value).isSome = true := by
    rw [setNested?_isSome path _ (.array items) value, setNested?_self (nestedSlice?_eq_some_iff.mp h)]
    rfl
  obtain ⟨written, hWritten⟩ := isSome_iff_exists.mp hSome
  rw [setNested_of_some hWritten, nestedSlice?_eq_some_iff]
  exact nested?_setNested? hWritten

theorem setNested_self (h : nestedSlice? path value = some items) : setNested path (.array items) value = value :=
  setNested_of_some (setNested?_self (nestedSlice?_eq_some_iff.mp h))

/-- A write leaves the other members of an object alone. -/
theorem nested?_setNested_ne {first name : String} (hName : name ≠ first) (path rest : List String) (new value : Json) :
    nested? (name :: rest) (setNested (first :: path) new value) = nested? (name :: rest) value := by
  cases h : setNested? (first :: path) new value with
  | none => rw [setNested_of_none h]
  | some result =>
    obtain ⟨members, inner, rfl, rfl, -⟩ := setNested?_cons h
    rw [setNested_of_some h, nested?, nested?, Json.field?, Json.members, Json.lookup_put, if_neg hName]
    rfl

end Writes

end Unstructured
