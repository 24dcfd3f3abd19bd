import DataConnectHub.Api.ArrowConvert

/-! Record batches of JSON rows. The columns are converted one after another,
each from the values that a field has in the rows, and put together under the
schema. -/
namespace DataConnectHub.Connectors

open Serde Arrow RustStd Flight List

/-- The size of a page, in the body of a request for it. -/
def numberOf : Option Json → Nat
  | some (.number value) => value.mantissa.toNat
  | _ => 0

/-- The batch of the columns that `column` makes of the fields of a schema. -/
def jsonRecordBatch (library : ConvertLibrary) (schema : Schema) (column : Arrow.Field → Except ConnectorError ArrayRef) :
    Except ConnectorError Arrow.RecordBatch := do
  let arrays ← schema.fields.mapM column
  mapErr (fun error => .sqlError (error.display library.displayType)) (Arrow.Table.tryNew schema arrays)

/-- A schema whose columns can be made of JSON values. -/
structure JsonSchema (schema : Schema) : Prop where
  convertible : ∀ field ∈ schema.fields, Convertible field.dataType
  nullable : ∀ field ∈ schema.fields, field.nullable = true

/-- What was built from `values` fits the schema: each column has the type of
its field and the length of the list of rows, columns are never rejected, and
an error comes from the conversion of a column. -/
structure FitsSchema (library : ConvertLibrary) (schema : Schema) (rowCount : Nat)
    (values : Arrow.Field → List (Option Json)) (built : Except ConnectorError Arrow.RecordBatch) : Prop where
  columns : ∀ field ∈ schema.fields, ∀ array,
    jsonValuesToArray library field.name field.dataType (values field) = .ok array →
      array.dataType = field.dataType ∧ array.length = rowCount
  accepted : ∀ arrays,
    schema.fields.mapM (fun field => jsonValuesToArray library field.name field.dataType (values field)) = .ok arrays →
      ∃ batch, Arrow.Table.tryNew schema arrays = .ok batch ∧ built = .ok batch ∧
        batch.schema = schema ∧ batch.columns = arrays ∧ batch.rowCount = rowCount
  errors : ∀ error, built = .error error → ∃ field ∈ schema.fields,
    jsonValuesToArray library field.name field.dataType (values field) = .error error ∧
      ColumnError library field.name (values field) field.dataType error

section Building

variable {library : ConvertLibrary} {schema : Schema} {rowCount : Nat} {values : Arrow.Field → List (Option Json)}
  {arrays : List ArrayRef}

/-- Converted columns are a batch of the schema. -/
theorem tryNew_converted (hSome : schema.fields ≠ [])
    (hConvertible : ∀ field ∈ schema.fields, Convertible field.dataType)
    (hLength : ∀ field, (values field).length = rowCount)
    (h : schema.fields.mapM (fun field => jsonValuesToArray library field.name field.dataType (values field)) =
      .ok arrays) (hNulls : ∀ pair ∈ arrays.zip schema.fields, pair.2.nullable = false → pair.1.nullCount = 0) :
    ∃ batch, Arrow.Table.tryNew schema arrays = .ok batch ∧ batch.schema = schema ∧
      batch.columns = arrays ∧ batch.rowCount = rowCount := by
  have hColumns := mapM_eq_ok h
  have hTypes : arrays.map ArrayRef.dataType = schema.fields.map Arrow.Field.dataType :=
    map_eq_map_of_forall₂ hColumns fun field hField array hConverted =>
      (fits_of_jsonValuesToArray (hConvertible field hField) hConverted).1
  have hLengths : ∀ array ∈ arrays, array.length = rowCount := by
    intro array hArray
    obtain ⟨field, hField, hConverted⟩ := exists_of_forall₂_right hColumns hArray
    rw [(fits_of_jsonValuesToArray (hConvertible field hField) hConverted).2, hLength]
  have hArrays : arrays ≠ [] := by
    rintro rfl
    exact hSome (forall₂_nil_right_iff.mp hColumns)
  exact ⟨_, Arrow.Table.tryNew_of_fits hArrays hTypes hLengths hNulls, rfl, rfl, rfl⟩

/-- A batch of the columns, when there are any. -/
theorem jsonRecordBatch_of_columns {column : Arrow.Field → Except ConnectorError ArrayRef} {batch : Arrow.RecordBatch}
    (hArrays : schema.fields.mapM column = .ok arrays) (hBatch : Arrow.Table.tryNew schema arrays = .ok batch) :
    jsonRecordBatch library schema column = .ok batch :=
  bind_eq_ok.mpr ⟨arrays, hArrays, mapErr_eq_ok.mpr hBatch⟩

theorem JsonSchema.no_nulls (hSchema : JsonSchema schema) (arrays : List ArrayRef) :
    ∀ pair ∈ arrays.zip schema.fields, pair.2.nullable = false → pair.1.nullCount = 0 := by
  intro pair hPair hRequired
  rw [hSchema.nullable _ (of_mem_zip hPair).2] at hRequired
  cases hRequired

theorem fitsSchema_jsonRecordBatch (hSchema : JsonSchema schema) (hSome : schema.fields ≠ [])
    (hLength : ∀ field, (values field).length = rowCount) :
    FitsSchema library schema rowCount values (jsonRecordBatch library schema fun field =>
      jsonValuesToArray library field.name field.dataType (values field)) := by
  refine ⟨fun field hField array hArray => ?_, fun arrays hArrays => ?_, fun error hError => ?_⟩
  · obtain ⟨hType, hCount⟩ := fits_of_jsonValuesToArray (hSchema.convertible field hField) hArray
    exact ⟨hType, hCount.trans (hLength field)⟩
  · obtain ⟨batch, hBatch, hParts⟩ :=
      tryNew_converted hSome hSchema.convertible hLength hArrays (hSchema.no_nulls arrays)
    exact ⟨batch, hBatch, jsonRecordBatch_of_columns hArrays hBatch, hParts⟩
  · cases hArrays : schema.fields.mapM fun field =>
        jsonValuesToArray library field.name field.dataType (values field) with
    | error reason =>
      rw [jsonRecordBatch, hArrays] at hError
      cases hError
      obtain ⟨field, hField, hColumn⟩ := mapM_eq_error hArrays
      exact ⟨field, hField, hColumn, columnError_of_jsonValuesToArray hColumn⟩
    | ok arrays =>
      obtain ⟨batch, hBatch, -⟩ :=
        tryNew_converted hSome hSchema.convertible hLength hArrays (hSchema.no_nulls arrays)
      cases (jsonRecordBatch_of_columns hArrays hBatch).symm.trans hError

end Building

section Rows

variable {Row : Type} {library : ConvertLibrary} {schema : Schema} {cell : Arrow.Field → Row → Option Json}
  {column : Arrow.Field → Except ConnectorError ArrayRef} {rows : List Row}

theorem of_jsonRecordBatch {batch : Arrow.RecordBatch} (h : jsonRecordBatch library schema column = .ok batch) :
    ∃ arrays, List.Forall₂ (fun field array => column field = .ok array) schema.fields arrays ∧
      Arrow.Table.tryNew schema arrays = .ok batch := by
  obtain ⟨arrays, hArrays, hBatch⟩ := bind_eq_ok.mp h
  exact ⟨arrays, mapM_eq_ok hArrays, mapErr_eq_ok.mp hBatch⟩

/-- The columns of a batch that was built: there are some, and they fit their fields. -/
theorem columns_of_jsonRecordBatch {batch : Arrow.RecordBatch} (h : jsonRecordBatch library schema column = .ok batch) :
    schema.fields ≠ [] ∧ ∀ field ∈ schema.fields, ∃ array, column field = .ok array ∧
      array.dataType = field.dataType ∧ (field.nullable = false → array.nullCount = 0) := by
  obtain ⟨arrays, hColumns, hNew⟩ := of_jsonRecordBatch h
  obtain ⟨hSome, hFits⟩ := Arrow.Table.of_tryNew hNew
  constructor
  · intro hNil
    rw [hNil] at hColumns
    exact hSome (forall₂_nil_left_iff.mp hColumns)
  · intro field hField
    obtain ⟨array, hZip, hArray⟩ := exists_mem_zip_of_forall₂ hColumns hField
    exact ⟨array, hArray, hFits _ hZip⟩

/-- A batch has as many rows as its columns were made of. -/
theorem rowCount_of_jsonRecordBatch {batch : Arrow.RecordBatch} (h : jsonRecordBatch library schema (fun field =>
      jsonValuesToArray library field.name field.dataType (rows.map (cell field))) = .ok batch) :
    batch.rowCount = rows.length := by
  obtain ⟨arrays, hColumns, hNew⟩ := of_jsonRecordBatch h
  obtain ⟨field, hField⟩ := exists_mem_of_ne_nil _ (columns_of_jsonRecordBatch h).1
  obtain ⟨array, hPair, hColumn⟩ := exists_mem_zip_of_forall₂ hColumns hField
  have hType := ((Arrow.Table.of_tryNew hNew).2 _ hPair).1
  have hLength := (fits_of_jsonValuesToArray (convertible_of_dataType hColumn hType) hColumn).2
  have hArray := (of_mem_zip hPair).1
  rw [← batch.lengths array (Arrow.Table.columns_of_tryNew hNew ▸ hArray)]
  exact hLength.trans (length_map _)

/-- Rows can be put into one batch when each of them alone can. -/
theorem exists_jsonRecordBatch (hSome : rows ≠ [])
    (h : ∀ row ∈ rows, ∃ batch, jsonRecordBatch library schema (fun field =>
      jsonValuesToArray library field.name field.dataType [cell field row]) = .ok batch) :
    ∃ batch, jsonRecordBatch library schema (fun field =>
      jsonValuesToArray library field.name field.dataType (rows.map (cell field))) = .ok batch := by
  have hRow : ∀ row ∈ rows, ∀ field ∈ schema.fields, ∃ array,
      jsonValuesToArray library field.name field.dataType [cell field row] = .ok array ∧
        array.dataType = field.dataType ∧ (field.nullable = false → array.nullCount = 0) := by
    intro row hMem field hField
    obtain ⟨batch, hBatch⟩ := h row hMem
    exact (columns_of_jsonRecordBatch hBatch).2 field hField
  obtain ⟨first, hFirst⟩ := exists_mem_of_ne_nil _ hSome
  have hFields : schema.fields ≠ [] := by
    obtain ⟨batch, hBatch⟩ := h first hFirst
    exact (columns_of_jsonRecordBatch hBatch).1
  have hConvertible : ∀ field ∈ schema.fields, Convertible field.dataType := by
    intro field hField
    obtain ⟨array, hArray, hType, -⟩ := hRow first hFirst field hField
    exact convertible_of_dataType hArray hType
  -- the columns of all rows can be converted, and have nulls only where those of single rows do
  obtain ⟨arrays, hArrays⟩ : ∃ arrays, schema.fields.mapM (fun field =>
      jsonValuesToArray library field.name field.dataType (rows.map (cell field))) = .ok arrays := by
    refine exists_mapM_eq_ok_iff.mpr fun field hField => exists_jsonValuesToArray_iff.mpr fun value hValue => ?_
    obtain ⟨row, hMem, rfl⟩ := mem_map.mp hValue
    obtain ⟨array, hArray, -⟩ := hRow row hMem field hField
    exact ⟨array, hArray⟩
  have hNulls : ∀ pair ∈ arrays.zip schema.fields, pair.2.nullable = false → pair.1.nullCount = 0 := by
    rintro ⟨column, field⟩ hPair hRequired
    refine count_eq_zero.mpr fun hNull => ?_
    have hColumn := (forall₂_iff_zip.mp (mapM_eq_ok hArrays).flip).2 hPair
    obtain ⟨value, hValue, single, hSingle, hValidity⟩ := validity_jsonValuesToArray hColumn hNull
    obtain ⟨row, hMem, rfl⟩ := mem_map.mp hValue
    obtain ⟨array, hArray, -, hNone⟩ := hRow row hMem field (of_mem_zip hPair).2
    obtain rfl := Except.ok.inj (hArray.symm.trans hSingle)
    have hCount := hNone hRequired
    rw [ArrayRef.nullCount, hValidity] at hCount
    exact absurd hCount (by decide)
  obtain ⟨batch, hBatch, -⟩ :=
    tryNew_converted hFields hConvertible (fun _ => length_map ..) hArrays hNulls
  exact ⟨batch, jsonRecordBatch_of_columns hArrays hBatch⟩

end Rows

end DataConnectHub.Connectors
