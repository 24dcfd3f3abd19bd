import DataConnectHub.Connectors.JsonBatches

/-! Schemas of Milvus collections. The fields of a schema are those that the
query asks for, or all that are no vectors. -/
namespace DataConnectHub.Milvus

open Serde Arrow Flight Connectors

inductive MilvusOperation where
  | query
  | search
  | get
  deriving DecidableEq, Repr

structure MilvusFieldDesc where
  name : String
  fieldType : String
  deriving DecidableEq, Repr

def milvusTypeToArrow (milvusType : String) : DataType :=
  if milvusType = "Bool" then .boolean
  else if milvusType = "Int8" then .int8
  else if milvusType = "Int16" then .int16
  else if milvusType = "Int32" then .int32
  else if milvusType = "Int64" then .int64
  else if milvusType = "Float" then .float32
  else if milvusType = "Double" then .float64
  else .utf8

def isVectorType (milvusType : String) : Bool :=
  ["FloatVector", "Float16Vector", "BFloat16Vector", "BinaryVector", "SparseFloatVector"].contains milvusType

section Fields

variable (descs : List MilvusFieldDesc)

/-- The type of a field by its name; among fields of one name the last counts. -/
def typeMap (name : String) : Option String :=
  (descs.reverse.find? fun desc => desc.name = name).map MilvusFieldDesc.fieldType

def expandedFields (fields : List String) : List String :=
  fields.flatMap fun name => if name = "*" then descs.map MilvusFieldDesc.name else [name]

def arrowFields : Option (List String) → List Arrow.Field
  | some fields => (expandedFields descs fields).map fun name =>
    ⟨name, ((typeMap descs name).map milvusTypeToArrow).getD .utf8, true⟩
  | none => (descs.filter fun desc => !isVectorType desc.fieldType).map fun desc =>
    ⟨desc.name, milvusTypeToArrow desc.fieldType, true⟩

def buildSchema (outputFields : Option (List String)) (operation : MilvusOperation) : Schema :=
  let fields := arrowFields descs outputFields
  if operation = .search ∧ fields.any (fun field => field.name == "distance") = false then
    ⟨fields ++ [⟨"distance", .float64, true⟩]⟩
  else ⟨fields⟩

end Fields

def rowsToRecordBatch (library : ConvertLibrary) (schema : Schema) (rows : List Json) :
    Except ConnectorError Arrow.RecordBatch :=
  jsonRecordBatch library schema fun field =>
    jsonValuesToArray library field.name field.dataType (rows.map fun row => row.field? field.name)

theorem convertible_milvusTypeToArrow (milvusType : String) : Convertible (milvusTypeToArrow milvusType) := by
  unfold milvusTypeToArrow
  repeat' split
  all_goals trivial

theorem jsonSchema_buildSchema (descs : List MilvusFieldDesc) (outputFields : Option (List String))
    (operation : MilvusOperation) : JsonSchema (buildSchema descs outputFields operation) := by
  have hFields : ∀ field ∈ arrowFields descs outputFields, Convertible field.dataType ∧ field.nullable = true := by
    intro field hField
    cases outputFields with
    | some fields =>
      obtain ⟨name, -, rfl⟩ := List.mem_map.mp hField
      refine ⟨?_, rfl⟩
      cases typeMap descs name with
      | none => trivial
      | some milvusType => exact convertible_milvusTypeToArrow milvusType
    | none =>
      obtain ⟨desc, -, rfl⟩ := List.mem_map.mp hField
      exact ⟨convertible_milvusTypeToArrow desc.fieldType, rfl⟩
  have hAll : ∀ field ∈ (buildSchema descs outputFields operation).fields,
      Convertible field.dataType ∧ field.nullable = true := by
    intro field hField
    unfold buildSchema at hField
    dsimp only at hField
    split at hField
    · rcases List.mem_append.mp hField with hField | hField
      · exact hFields field hField
      · rw [List.mem_singleton.mp hField]
        exact ⟨trivial, rfl⟩
    · exact hFields field hField
  exact ⟨fun field hField => (hAll field hField).1, fun field hField => (hAll field hField).2⟩

end DataConnectHub.Milvus
