import DataConnectHub.Binary.Rounding
import Mathlib.Data.List.Forall2

/-! Columns and record batches. A column has the type of its values, and a
record batch has columns of the types of its schema, all of one length. -/
namespace Arrow

open Binary List

inductive TimeUnit where
  | second
  | millisecond
  | microsecond
  | nanosecond
  deriving DecidableEq, Repr

/-- The types of columns; `other` stands for those that no column here has. -/
inductive DataType where
  | boolean
  | int8
  | int16
  | int32
  | int64
  | float32
  | float64
  | timestamp (unit : TimeUnit) (timezone : Option String)
  | utf8
  | other (name : String)
  deriving DecidableEq, Repr

/-- A column, with `none` at the places that are null. -/
inductive ArrayRef where
  | boolean (values : List (Option Bool))
  | int8 (values : List (Option Int8))
  | int16 (values : List (Option Int16))
  | int32 (values : List (Option Int32))
  | int64 (values : List (Option Int64))
  | float32 (values : List (Option Rounded))
  | float64 (values : List (Option Rounded))
  | timestamp (unit : TimeUnit) (timezone : Option String) (values : List (Option Int64))
  | utf8 (values : List (Option String))
  deriving DecidableEq

namespace ArrayRef

def dataType : ArrayRef → DataType
  | .boolean _ => .boolean
  | .int8 _ => .int8
  | .int16 _ => .int16
  | .int32 _ => .int32
  | .int64 _ => .int64
  | .float32 _ => .float32
  | .float64 _ => .float64
  | .timestamp unit timezone _ => .timestamp unit timezone
  | .utf8 _ => .utf8

/-- Which places hold a value. -/
def validity : ArrayRef → List Bool
  | .boolean values => values.map Option.isSome
  | .int8 values => values.map Option.isSome
  | .int16 values => values.map Option.isSome
  | .int32 values => values.map Option.isSome
  | .int64 values => values.map Option.isSome
  | .float32 values => values.map Option.isSome
  | .float64 values => values.map Option.isSome
  | .timestamp _ _ values => values.map Option.isSome
  | .utf8 values => values.map Option.isSome

def length (array : ArrayRef) : Nat := array.validity.length

def nullCount (array : ArrayRef) : Nat := array.validity.count false

/-- The integers in a column of integers or of timestamps. -/
def integers : ArrayRef → List (Option Int)
  | .int8 values => values.map (·.map Int8.toInt)
  | .int16 values => values.map (·.map Int16.toInt)
  | .int32 values => values.map (·.map Int32.toInt)
  | .int64 values => values.map (·.map Int64.toInt)
  | .timestamp _ _ values => values.map (·.map Int64.toInt)
  | _ => []

end ArrayRef

/-- What a batch asks of its columns. -/
class Columnar (Array : Type) where
  dataType : Array → DataType
  length : Array → Nat
  nullCount : Array → Nat

instance : Columnar ArrayRef := ⟨ArrayRef.dataType, ArrayRef.length, ArrayRef.nullCount⟩

structure Field where
  name : String
  dataType : DataType
  nullable : Bool
  deriving DecidableEq

structure Schema where
  fields : List Field
  deriving DecidableEq

/-- Why columns are no batch of a schema. -/
inductive ArrowError where
  | columnCount (columns fields : Nat)
  | noColumns
  | nulls (name : String)
  | lengths
  | types (expected found : DataType) (index : Nat)
  deriving DecidableEq

def ArrowError.display (typeText : DataType → String) : ArrowError → String
  | .columnCount columns fields =>
    s!"Invalid argument error: number of columns({columns}) must match number of fields({fields}) in schema"
  | .noColumns => "Invalid argument error: must either specify a row count or at least one column"
  | .nulls name =>
    s!"Invalid argument error: Column '{name}' is declared as non-nullable but contains null values"
  | .lengths => "Invalid argument error: all columns in a record batch must have the same length"
  | .types expected found index =>
    "Invalid argument error: column types must match schema types, expected " ++ typeText expected ++
      " but found " ++ typeText found ++ s!" at column index {index}"

open Columnar (dataType length nullCount)

variable {Array : Type} [Columnar Array]

/-- The first column that has not the type of its field. -/
def mismatch : Nat → List Array → List Field → Option ArrowError
  | index, column :: columns, field :: fields =>
    if dataType column ≠ field.dataType then some (.types field.dataType (dataType column) index)
    else mismatch (index + 1) columns fields
  | _, _, _ => none

variable {columns : List Array} {fields : List Field}

theorem types_of_mismatch {index : Nat} (hLength : fields.length = columns.length)
    (h : mismatch index columns fields = none) :
    columns.map dataType = fields.map Field.dataType := by
  induction columns generalizing index fields with
  | nil => rw [length_eq_zero_iff.mp hLength, map_nil, map_nil]
  | cons column columns ih =>
    cases fields with
    | nil => cases hLength
    | cons field fields =>
      rw [mismatch] at h
      split at h
      · cases h
      next hSame =>
          rw [map_cons, map_cons, not_not.mp hSame, ih (Nat.succ.inj hLength) h]

theorem mismatch_of_types (index : Nat) (h : columns.map dataType = fields.map Field.dataType) :
    mismatch index columns fields = none := by
  induction columns generalizing index fields with
  | nil => rfl
  | cons column columns ih =>
    cases fields with
    | nil => rfl
    | cons field fields =>
      obtain ⟨hHead, hTail⟩ := cons.inj h
      rw [mismatch, if_neg (not_not.mpr hHead), ih _ hTail]

/-- Columns of the types of a schema, all of one length. -/
structure Table (Array : Type) [Columnar Array] where
  schema : Schema
  columns : List Array
  rowCount : Nat
  types : columns.map dataType = schema.fields.map Field.dataType
  lengths : ∀ column ∈ columns, length column = rowCount

abbrev RecordBatch : Type := Table ArrayRef

namespace Table

/-- `RecordBatch::try_new`. -/
def tryNew (schema : Schema) (columns : List Array) : Except ArrowError (Table Array) :=
  if hCount : schema.fields.length = columns.length then
    match columns.head? with
    | none => .error .noColumns
    | some first =>
      match (columns.zip schema.fields).find? fun pair => !pair.2.nullable && 0 < nullCount pair.1 with
      | some (_, field) => .error (.nulls field.name)
      | none =>
        if hLengths : ∀ column ∈ columns, length column = length first then
          match hTypes : mismatch 0 columns schema.fields with
          | some error => .error error
          | none => .ok ⟨schema, columns, length first, types_of_mismatch hCount hTypes, hLengths⟩
        else .error .lengths
  else .error (.columnCount columns.length schema.fields.length)

variable {schema : Schema} {batch : Table Array}

/-- Columns that fit the schema are a batch. -/
theorem tryNew_of_fits {rowCount : Nat} (hSome : columns ≠ [])
    (hTypes : columns.map dataType = schema.fields.map Field.dataType)
    (hLengths : ∀ column ∈ columns, length column = rowCount)
    (hNulls : ∀ pair ∈ columns.zip schema.fields, pair.2.nullable = false → nullCount pair.1 = 0) :
    tryNew schema columns = .ok ⟨schema, columns, rowCount, hTypes, hLengths⟩ := by
  obtain ⟨first, rest, rfl⟩ := exists_cons_of_ne_nil hSome
  have hCount : schema.fields.length = (first :: rest).length := by
    rw [← length_map Field.dataType, ← hTypes, length_map]
  have hNoNull : ((first :: rest).zip schema.fields).find?
      (fun pair => !pair.2.nullable && 0 < nullCount pair.1) = none := by
    refine find?_eq_none.mpr fun pair hPair hNull => ?_
    rw [Bool.and_eq_true, Bool.not_eq_true', decide_eq_true_iff] at hNull
    exact absurd (hNulls pair hPair hNull.1) (Nat.ne_of_gt hNull.2)
  obtain rfl : length first = rowCount := hLengths first (mem_cons_self ..)
  unfold tryNew
  rw [dif_pos hCount]
  dsimp only [head?_cons]
  rw [hNoNull]
  dsimp only
  rw [dif_pos hLengths]
  split
  next error hError => cases (mismatch_of_types 0 hTypes).symm.trans hError
  · rfl

/-- There are columns in a batch, of the types of their fields, and without nulls
where the field takes none. -/
theorem of_tryNew (h : tryNew schema columns = .ok batch) : columns ≠ [] ∧ ∀ pair ∈ columns.zip schema.fields,
      dataType pair.1 = pair.2.dataType ∧ (pair.2.nullable = false → nullCount pair.1 = 0) := by
  unfold tryNew at h
  split at h
  · cases columns with
    | nil => cases h
    | cons first rest =>
      dsimp only [head?_cons] at h
      split at h
      · cases h
      next hNoNull =>
          split at h
          · split at h
            · cases h
            · cases h
              refine ⟨nofun, fun pair hPair => ⟨?_, fun hRequired => ?_⟩⟩
              · have hTypes := types_of_mismatch ‹_› ‹_›
                rw [← forall₂_eq_eq_eq, forall₂_map_left_iff, forall₂_map_right_iff] at hTypes
                exact (forall₂_iff_zip.mp hTypes).2 hPair
              · have hNull := find?_eq_none.mp hNoNull pair hPair
                rw [hRequired] at hNull
                simpa using hNull
          · cases h
  · cases h

theorem columns_of_tryNew (h : tryNew schema columns = .ok batch) : batch.columns = columns := by
  unfold tryNew at h
  split at h
  · split at h
    · cases h
    · split at h
      · cases h
      · split at h
        · split at h
          · cases h
          · cases h
            rfl
        · cases h
  · cases h

end Table
end Arrow
