import DataConnectHub.Arrow.RecordBatch
import DataConnectHub.Serde.Value

/-! Values of the Bolt protocol, as the Neo4j connector sees them: the type of the
column that begins with a value, and the JSON that stands for a value in a column
of texts. -/
namespace DataConnectHub.Neo4j

open Serde Arrow

/-- A value; the type of floats is left open. The members of a map stand in the
order of their names. A path has nodes, and relationships that do not name their
ends. -/
inductive BoltType (F64 : Type) where
  | null
  | boolean (value : Bool)
  | integer (value : Int64)
  | float (value : F64)
  | string (value : String)
  | bytes (value : List UInt8)
  | list (items : List (BoltType F64))
  | map (members : List (String × BoltType F64))
  | node (id : Int64) (labels : List (BoltType F64)) (properties : List (String × BoltType F64))
  | relation (id startNodeId endNodeId : Int64) (typ : String) (properties : List (String × BoltType F64))
  | unboundedRelation (id : Int64) (typ : String) (properties : List (String × BoltType F64))
  | path (nodes : List (Int64 × List (BoltType F64) × List (String × BoltType F64)))
      (rels : List (Int64 × String × List (String × BoltType F64)))
  | point2D (srId : Int64) (x y : F64)
  | point3D (srId : Int64) (x y z : F64)
  | duration (months days seconds nanoseconds : Int64)
  | date (days : Int64)
  | time (nanoseconds offsetSeconds : Int64)
  | localTime (nanoseconds : Int64)
  | dateTime (seconds nanoseconds offsetSeconds : Int64)
  | localDateTime (seconds nanoseconds : Int64)
  | dateTimeZoneId (seconds nanoseconds : Int64) (zone : String)

abbrev Row (F64 : Type) := List (String × BoltType F64)

/-- An instant of the calendar library, with its text. -/
structure Instant where
  millis : Int64
  text : String

/-- The libraries: what a value is converted to when a certain type is asked for,
and the texts of values. A conversion that fails has no value. -/
structure BoltLibrary (F64 : Type) where
  getBool : BoltType F64 → Option (Option Bool)
  getI64 : BoltType F64 → Option (Option Int64)
  getF64 : BoltType F64 → Option (Option F64)
  getString : BoltType F64 → Option (Option String)
  getBytes : BoltType F64 → Option (List UInt8)
  /-- The days from the beginning of 1970 to a date. -/
  getNaiveDate : BoltType F64 → Option Int32
  getDateTime : BoltType F64 → Option Instant
  tryDate : Int64 → Option String
  tryDateTime : Int64 → Int64 → Int64 → Option Instant
  tryLocalDateTime : Int64 → Int64 → Option Instant
  rowToJson : Row F64 → Except String Json
  jsonFloat : F64 → Json
  debugText : BoltType F64 → String
  labelText : BoltType F64 → String
  displayFloat : Number → String
  typeText : DataType → String
  toLowercase : String → String

variable {F64 : Type}

def date32 : DataType := .other "Date32"

def binary : DataType := .other "Binary"

def boltTypeToArrow : BoltType F64 → DataType
  | .boolean _ => .boolean
  | .integer _ => .int64
  | .float _ => .float64
  | .string _ => .utf8
  | .bytes _ => binary
  | .date _ => date32
  | .dateTime .. | .dateTimeZoneId .. => .timestamp .millisecond (some "UTC")
  | .localDateTime .. => .timestamp .millisecond none
  | _ => .utf8

variable (library : BoltLibrary F64)

mutual

def boltValueToJson : BoltType F64 → Json
  | .null => .null
  | .boolean value => .bool value
  | .integer value => .number ⟨value.toInt, 0⟩
  | .float value => library.jsonFloat value
  | .string value => .string value
  | .list items => .array (boltItemsToJson items)
  | .map members => .object (boltMapToJsonObject members)
  | .node id labels properties => .object [("id", .number ⟨id.toInt, 0⟩),
      ("labels", .array (labels.map fun label => .string (library.labelText label))),
      ("properties", .object (boltMapToJsonObject properties))]
  | .relation id startNodeId endNodeId typ properties => .object [
      ("end_node_id", .number ⟨endNodeId.toInt, 0⟩), ("id", .number ⟨id.toInt, 0⟩),
      ("properties", .object (boltMapToJsonObject properties)),
      ("start_node_id", .number ⟨startNodeId.toInt, 0⟩), ("typ", .string typ)]
  | .unboundedRelation id typ properties => .object [("id", .number ⟨id.toInt, 0⟩),
      ("properties", .object (boltMapToJsonObject properties)), ("typ", .string typ)]
  | .path nodes rels => .object [("nodes", .array (pathNodesToJson nodes)),
      ("relationships", .array (pathRelsToJson rels))]
  | .point2D srId x y => .object [("srid", .number ⟨srId.toInt, 0⟩), ("x", library.jsonFloat x),
      ("y", library.jsonFloat y)]
  | .point3D srId x y z => .object [("srid", .number ⟨srId.toInt, 0⟩), ("x", library.jsonFloat x),
      ("y", library.jsonFloat y), ("z", library.jsonFloat z)]
  | .date days => .string ((library.tryDate days).getD "1970-01-01")
  | .dateTime seconds nanoseconds offsetSeconds =>
    .string (((library.tryDateTime seconds nanoseconds offsetSeconds).map Instant.text).getD
      "1970-01-01T00:00:00+00:00")
  | .localDateTime seconds nanoseconds =>
    .string (((library.tryLocalDateTime seconds nanoseconds).map Instant.text).getD "1970-01-01 00:00:00")
  | .duration months days seconds nanoseconds => .string (library.debugText (.duration months days seconds nanoseconds))
  | .time nanoseconds offsetSeconds => .string (library.debugText (.time nanoseconds offsetSeconds))
  | .localTime nanoseconds => .string (library.debugText (.localTime nanoseconds))
  | .dateTimeZoneId seconds nanoseconds zone =>
    .string (library.debugText (.dateTimeZoneId seconds nanoseconds zone))
  | .bytes value => .string (library.debugText (.bytes value))

def boltItemsToJson : List (BoltType F64) → List Json
  | [] => []
  | item :: items => boltValueToJson item :: boltItemsToJson items

def boltMapToJsonObject : List (String × BoltType F64) → Members
  | [] => []
  | (name, value) :: members => (name, boltValueToJson value) :: boltMapToJsonObject members

def pathNodesToJson : List (Int64 × List (BoltType F64) × List (String × BoltType F64)) → List Json
  | [] => []
  | (id, labels, properties) :: nodes =>
    .object [("id", .number ⟨id.toInt, 0⟩),
      ("labels", .array (labels.map fun label => .string (library.labelText label))),
      ("properties", .object (boltMapToJsonObject properties))] :: pathNodesToJson nodes

def pathRelsToJson : List (Int64 × String × List (String × BoltType F64)) → List Json
  | [] => []
  | (id, typ, properties) :: rels =>
    .object [("id", .number ⟨id.toInt, 0⟩), ("properties", .object (boltMapToJsonObject properties)),
      ("typ", .string typ)] :: pathRelsToJson rels

end

end DataConnectHub.Neo4j
