import DataConnectHub.Flight.Connectors
import DataConnectHub.Interaction.Program
import DataConnectHub.Neo4j.Bolt
import DataConnectHub.RustStd.TryStream
import Mathlib.Data.List.Infix

/-! Reading rows from Neo4j. The schema of a query is taken from its first row;
the rows are read by running the query again, and each is converted to the types
of that schema. -/
namespace DataConnectHub.Neo4j

open Serde Arrow RustStd Flight Interaction List

variable {F64 : Type}

/-- A column, with `none` at the places that are null. -/
inductive Column (F64 : Type) where
  | boolean (values : List (Option Bool))
  | int64 (values : List (Option Int64))
  | float64 (values : List (Option F64))
  | date32 (values : List (Option Int32))
  | timestamp (timezone : Option String) (values : List (Option Int64))
  | binary (values : List (Option (List UInt8)))
  | utf8 (values : List (Option String))

namespace Column

def dataType : Column F64 → DataType
  | .boolean _ => .boolean
  | .int64 _ => .int64
  | .float64 _ => .float64
  | .date32 _ => Neo4j.date32
  | .timestamp timezone _ => .timestamp .millisecond timezone
  | .binary _ => Neo4j.binary
  | .utf8 _ => .utf8

/-- Which places hold a value. -/
def validity : Column F64 → List Bool
  | .boolean values => values.map Option.isSome
  | .int64 values => values.map Option.isSome
  | .float64 values => values.map Option.isSome
  | .date32 values => values.map Option.isSome
  | .timestamp _ values => values.map Option.isSome
  | .binary values => values.map Option.isSome
  | .utf8 values => values.map Option.isSome

def length (column : Column F64) : Nat := column.validity.length

def nullCount (column : Column F64) : Nat := column.validity.count false

end Column

instance : Columnar (Column F64) := ⟨Column.dataType, Column.length, Column.nullCount⟩

abbrev Table (F64 : Type) : Type := Arrow.Table (Column F64)

/-- Which places of a column hold a value; there are none without the column. -/
def Table.validity (table : Table F64) (name : String) : List Bool :=
  match (table.schema.fields.zip table.columns).find? fun pair => pair.1.name = name with
  | some (_, column) => column.validity
  | none => []

section Rows

variable (library : BoltLibrary F64)

def extractAsString (row : Row F64) (key : String) : Option String :=
  match (row.lookup key).bind library.getString with
  | some (some text) => some text
  | _ =>
    match row.lookup key with
    | none | some .null => none
    | some other => some ((boltValueToJson library other).display library.displayFloat)

def timestampMillis : BoltType F64 → Option Int64
  | .dateTime seconds nanoseconds offsetSeconds =>
    (library.tryDateTime seconds nanoseconds offsetSeconds).map Instant.millis
  | .dateTimeZoneId seconds nanoseconds zone =>
    (library.getDateTime (.dateTimeZoneId seconds nanoseconds zone)).map Instant.millis
  | .localDateTime seconds nanoseconds => (library.tryLocalDateTime seconds nanoseconds).map Instant.millis
  | _ => none

/-- The values of one field; one that is not converted is null. -/
def buildColumnArray (fieldName : String) (dataType : DataType) (rows : List (Row F64)) : Column F64 :=
  match dataType with
  | .boolean => .boolean (rows.map fun row => ((row.lookup fieldName).bind library.getBool).join)
  | .int64 => .int64 (rows.map fun row => ((row.lookup fieldName).bind library.getI64).join)
  | .float64 => .float64 (rows.map fun row => ((row.lookup fieldName).bind library.getF64).join)
  | .timestamp .millisecond timezone =>
    .timestamp timezone (rows.map fun row => (row.lookup fieldName).bind (timestampMillis library))
  | dataType =>
    if dataType = date32 then .date32 (rows.map fun row => (row.lookup fieldName).bind library.getNaiveDate)
    else if dataType = binary then .binary (rows.map fun row => (row.lookup fieldName).bind library.getBytes)
    else .utf8 (rows.map fun row => extractAsString library row fieldName)

def rowsToRecordBatch (schema : Schema) (rows : List (Row F64)) : Except ConnectorError (Table F64) :=
  match Arrow.Table.tryNew schema
      (schema.fields.map fun field => buildColumnArray library field.name field.dataType rows) with
  | .error e => .error (.sqlError (e.display library.typeText))
  | .ok table => .ok table

def contains (text part : String) : Bool := decide (part.toList <:+: text.toList)

def mapNeo4jError (error : String) : ConnectorError :=
  let msg := library.toLowercase error
  if contains msg "permission" || contains msg "not allowed" || contains msg "read only" ||
      contains msg "write operations are not allowed" then .invalidRequest "Data source is read-only"
  else .sqlError error

/-- The field of a column of the first row. -/
def fieldOf (row : Row F64) (key : String) : Arrow.Field :=
  ⟨key, ((row.lookup key).map boltTypeToArrow).getD .utf8, true⟩

def schemaOfRow (row : Row F64) : Except ConnectorError Schema :=
  match library.rowToJson row with
  | .error e => .error (.sqlError s!"Failed to deserialize row: {e}")
  | .ok (.object members) => .ok ⟨members.map fun member => fieldOf row member.1⟩
  | .ok _ => .error (.sqlError "Expected row to be a JSON object")

end Rows

section Conversion

variable {library : BoltLibrary F64}

theorem length_buildColumnArray (fieldName : String) (dataType : DataType) (rows : List (Row F64)) :
    (buildColumnArray library fieldName dataType rows).length = rows.length := by
  unfold buildColumnArray
  split
  case h_5 =>
      split
      · simp [Column.length, Column.validity]
      · split <;> simp [Column.length, Column.validity]
  all_goals simp [Column.length, Column.validity]

/-- A column of the type that a value begins has that type. -/
theorem dataType_buildColumnArray (fieldName : String) (value : BoltType F64) (rows : List (Row F64)) :
    (buildColumnArray library fieldName (boltTypeToArrow value) rows).dataType = boltTypeToArrow value := by
  cases value <;> rfl

/-- A schema of the kind that is taken from a row. -/
def Inferred (F64 : Type) (schema : Schema) : Prop :=
  ∀ field ∈ schema.fields, field.nullable = true ∧ ∃ value : BoltType F64, field.dataType = boltTypeToArrow value

variable {row : Row F64} {schema : Schema}

theorem schemaOfRow_eq_ok (h : schemaOfRow library row = .ok schema) :
    ∃ members, library.rowToJson row = .ok (.object members) ∧
      schema = ⟨members.map fun member => fieldOf row member.1⟩ := by
  unfold schemaOfRow at h
  split at h
  · cases h
  next members hJson =>
      cases h
      exact ⟨members, hJson, rfl⟩
  · cases h

theorem schemaOfRow_inferred (h : schemaOfRow library row = .ok schema) : Inferred F64 schema := by
  obtain ⟨members, -, rfl⟩ := schemaOfRow_eq_ok h
  intro field hField
  obtain ⟨member, -, rfl⟩ := mem_map.mp hField
  refine ⟨rfl, ?_⟩
  cases hFirst : row.lookup member.1 with
  | none => exact ⟨.null, by rw [fieldOf, hFirst]; rfl⟩
  | some value => exact ⟨value, by rw [fieldOf, hFirst]; rfl⟩

/-- All rows are converted to the fields of such a schema, if there are any. -/
theorem rowsToRecordBatch_eq (h : Inferred F64 schema) (hSome : schema.fields ≠ []) (rows : List (Row F64)) :
    ∃ table, rowsToRecordBatch library schema rows = .ok table ∧ table.schema = schema ∧
      table.columns = schema.fields.map fun field => buildColumnArray library field.name field.dataType rows := by
  have hTypes : (schema.fields.map fun field => buildColumnArray library field.name field.dataType rows).map
      Column.dataType = schema.fields.map Arrow.Field.dataType := by
    rw [map_map]
    refine map_congr_left fun field hField => ?_
    obtain ⟨value, hValue⟩ := (h field hField).2
    rw [Function.comp_apply, hValue, dataType_buildColumnArray]
  have hLengths : ∀ column ∈ schema.fields.map fun field => buildColumnArray library field.name field.dataType rows,
      column.length = rows.length := by
    intro column hColumn
    obtain ⟨field, -, rfl⟩ := mem_map.mp hColumn
    exact length_buildColumnArray ..
  have hTable := Arrow.Table.tryNew_of_fits (by simpa using hSome) hTypes hLengths fun pair hPair hRequired => by
    rw [(h pair.2 (of_mem_zip hPair).2).1] at hRequired
    cases hRequired
  exact ⟨_, by rw [rowsToRecordBatch, hTable], rfl, rfl⟩

end Conversion

/-- The rows of a query as they are polled, and the error they may end with. -/
abbrev RowStream (Record : Type) := List (Except String Record)

/-- A program that executes queries. -/
abbrev Neo4jProgram (Record Result : Type) := Program String (fun _ => Except String (RowStream Record)) Result

abbrev Neo4jEnvironment (Record : Type) := Program.Environment String fun _ => Except String (RowStream Record)

section Loop

variable {Record Batch : Type} (onError : String → ConnectorError) (convert : List Record → Except ConnectorError Batch)

/-- The last batch, unless no rows are waiting. -/
def flush (yielded : List Batch) (chunk : List Record) : Yielded Batch ConnectorError Unit :=
  if chunk = [] then ⟨yielded, .ok ()⟩
  else
    match convert chunk with
    | .error e => ⟨yielded, .error e⟩
    | .ok batch => ⟨yielded ++ [batch], .ok ()⟩

def readRows (batchSize : Nat) : RowStream Record → List Batch → List Record → Yielded Batch ConnectorError Unit
  | [], yielded, chunk => flush convert yielded chunk
  | .error e :: _, yielded, _ => ⟨yielded, .error (onError e)⟩
  | .ok row :: rows, yielded, chunk =>
    if batchSize ≤ (chunk ++ [row]).length then
      match convert (chunk ++ [row]) with
      | .error e => ⟨yielded, .error e⟩
      | .ok batch => readRows batchSize rows (yielded ++ [batch]) []
    else readRows batchSize rows yielded (chunk ++ [row])

/-- `Neo4jReader::read_tabular`, for any conversion of rows. -/
def readWith (batchSize : Nat) (query : String) : Neo4jProgram Record (Yielded Batch ConnectorError Unit) :=
  .call query fun
    | .error e => .done ⟨[], .error (onError e)⟩
    | .ok rows => .done (readRows onError convert batchSize rows [] [])

end Loop

structure Neo4jReader (F64 : Type) where
  library : BoltLibrary F64

namespace Neo4jReader

variable (reader : Neo4jReader F64)

def schema (query : String) : Neo4jProgram (Row F64) (Except ConnectorError Schema) :=
  .call query fun
    | .error e => .done (.error (mapNeo4jError reader.library e))
    | .ok [] => .done (.ok ⟨[]⟩)
    | .ok (.error e :: _) => .done (.error (mapNeo4jError reader.library e))
    | .ok (.ok row :: _) => .done (schemaOfRow reader.library row)

def readTabular (query : String) (schema : Schema) (batchSize : Nat) :
    Neo4jProgram (Row F64) (Yielded (Table F64) ConnectorError Unit) :=
  readWith (mapNeo4jError reader.library) (rowsToRecordBatch reader.library schema) batchSize query

end Neo4jReader

section Samples

/-- Conversions that take only values of the type itself. -/
def plainBolt : BoltLibrary Unit where
  getBool
    | .boolean value => some (some value)
    | .null => some none
    | _ => none
  getI64
    | .integer value => some (some value)
    | .null => some none
    | _ => none
  getF64
    | .float value => some (some value)
    | .null => some none
    | _ => none
  getString
    | .string value => some (some value)
    | .null => some none
    | _ => none
  getBytes
    | .bytes value => some value
    | _ => none
  getNaiveDate
    | .date days => some days.toInt32
    | _ => none
  getDateTime _ := none
  tryDate _ := none
  tryDateTime _ _ _ := none
  tryLocalDateTime _ _ := none
  rowToJson row := .ok (.object (row.map fun member => (member.1, .null)))
  jsonFloat _ := .null
  debugText _ := ""
  labelText _ := ""
  displayFloat := Number.render
  typeText _ := ""
  toLowercase := id

end Samples

end DataConnectHub.Neo4j
