import DataConnectHub.Serde.Codec

/-! The resources of the metadata store and their JSON documents, with the
member names, defaults and omissions of the wire format. -/
namespace DataConnectHub

open Serde

structure ResourceMetadata where
  id : String
  tenantId : Option String
  createdAt : String
  updatedAt : String
  deriving DecidableEq

inductive DataFormat where
  | tabular
  | binary
  deriving DecidableEq, Repr

inductive DataConnectionState where
  | ready
  | ingestionNotReady
  | notReady
  deriving DecidableEq, Repr

structure DataConnectionStatus where
  state : DataConnectionState
  message : Option String
  updatedAt : Option String
  deriving DecidableEq

def DataConnectionStatus.default : DataConnectionStatus :=
  { state := .notReady, message := none, updatedAt := none }

structure CredentialsRef where
  secret : String
  deriving DecidableEq

structure DataConnection where
  name : String
  dataConnectionTypeId : String
  format : DataFormat
  credentialsRef : CredentialsRef
  properties : StringMap String
  deriving DecidableEq

structure DataConnectionResource where
  metadata : ResourceMetadata
  resource : DataConnection
  status : DataConnectionStatus
  deriving DecidableEq

structure EnumValue where
  value : String
  label : String
  deriving DecidableEq

structure Field where
  name : String
  label : String
  description : Option String
  required : Bool
  dType : String
  enumValues : Option (List EnumValue)
  defaultValue : Option String
  sensitive : Bool
  multiple : Bool
  deriving DecidableEq

structure DataConnectionType where
  name : String
  label : Option String
  provider : String
  description : Option String
  credentialsFields : List Field
  tags : Option (List String)
  deriving DecidableEq

structure DataConnectionTypeStatus where
  supportedFormats : List DataFormat
  flightReady : Bool
  flightUrl : Option String
  message : Option String
  updatedAt : Option String
  deriving DecidableEq

def DataConnectionTypeStatus.default : DataConnectionTypeStatus :=
  { supportedFormats := [], flightReady := false, flightUrl := none, message := none, updatedAt := none }

structure DataConnectionTypeResource where
  metadata : ResourceMetadata
  resource : DataConnectionType
  status : DataConnectionTypeStatus
  deriving DecidableEq

structure FlightServiceStatus where
  ready : Bool
  deriving DecidableEq

structure FlightService where
  name : String
  namespaceName : String
  externalUrl : String
  internalUrl : String
  supportedConnectors : List String
  connectorCapabilities : StringMap (List String)
  status : FlightServiceStatus
  deriving DecidableEq

structure FlightServiceResource where
  metadata : ResourceMetadata
  resource : FlightService
  deriving DecidableEq

structure ResourceList (Item : Type) where
  totalCount : Nat
  items : List Item
  deriving DecidableEq

inductive MetaStoreError where
  | connection (message : String)
  | resourceNotFound (message : String)
  | invalidRequest (message : String)
  | config (message : String)
  | query (message : String)
  | conflict (message : String)
  | serialization (message : String)
  | deserialization (message : String)
  | validation (message : String)
  | unprocessableEntity (message : String)
  deriving DecidableEq, Repr

/-- A change of a stored value, which may be refused. -/
abbrev UpdateFn (Resource : Type) := Resource → Except MetaStoreError Resource

instance : Codec ResourceMetadata where
  toValue metadata := .object ([("id", toValue metadata.id)] ++ optionalMember "tenant_id" metadata.tenantId ++
    [("created_at", toValue metadata.createdAt), ("updated_at", toValue metadata.updatedAt)])
  fromValue value := do
    let slot ← slots ["id", "tenant_id", "created_at", "updated_at"] value
    return {
      id := ← (slot "id").required
      tenantId := ← (slot "tenant_id").optional
      createdAt := ← (slot "created_at").required
      updatedAt := ← (slot "updated_at").required }
  fromValue_toValue metadata := by
    obtain ⟨id, tenantId, createdAt, updatedAt⟩ := metadata
    simp [List.lookup_cons, List.lookup_append, Slot.optional_ofMember string_ne_null]

instance : Codec DataFormat where
  toValue
    | .tabular => .string "tabular"
    | .binary => .string "binary"
  fromValue value := match variant value with
    | some "tabular" => some .tabular
    | some "binary" => some .binary
    | _ => none
  fromValue_toValue format := by cases format <;> rfl

instance : Codec DataConnectionState where
  toValue
    | .ready => .string "ready"
    | .ingestionNotReady => .string "ingestion_not_ready"
    | .notReady => .string "not_ready"
  fromValue value := match variant value with
    | some "ready" => some .ready
    | some "ingestion_not_ready" => some .ingestionNotReady
    | some "not_ready" => some .notReady
    | _ => none
  fromValue_toValue state := by cases state <;> rfl

instance : Codec DataConnectionStatus where
  toValue status := .object ([("state", toValue status.state)] ++
    optionalMember "message" status.message ++ optionalMember "updated_at" status.updatedAt)
  fromValue value := do
    let slot ← slots ["state", "message", "updated_at"] value
    return {
      state := ← (slot "state").required
      message := ← (slot "message").optional
      updatedAt := ← (slot "updated_at").optional }
  fromValue_toValue status := by
    simp [List.lookup_cons, List.lookup_append, Slot.optional_ofMember string_ne_null]

instance : Codec CredentialsRef where
  toValue credentialsRef := .object [("secret", toValue credentialsRef.secret)]
  fromValue value := do
    let slot ← slots ["secret"] value
    return { secret := ← (slot "secret").required }
  fromValue_toValue credentialsRef := by simp [List.lookup_cons]

instance : Codec DataConnection where
  toValue connection := .object [("name", toValue connection.name),
    ("data_connection_type_id", toValue connection.dataConnectionTypeId),
    ("format", toValue connection.format), ("credentials_ref", toValue connection.credentialsRef),
    ("properties", toValue connection.properties)]
  fromValue value := do
    let slot ← slots ["name", "data_connection_type_id", "format", "credentials_ref", "properties"] value
    return {
      name := ← (slot "name").required
      dataConnectionTypeId := ← (slot "data_connection_type_id").required
      format := ← (slot "format").required
      credentialsRef := ← (slot "credentials_ref").required
      properties := ← (slot "properties").required }
  fromValue_toValue connection := by simp [List.lookup_cons]

instance : Codec DataConnectionResource where
  toValue resource := .object [("metadata", toValue resource.metadata),
    ("resource", toValue resource.resource), ("status", toValue resource.status)]
  fromValue value := do
    let slot ← slots ["metadata", "resource", "status"] value
    return {
      metadata := ← (slot "metadata").required
      resource := ← (slot "resource").required
      status := ← (slot "status").defaulted .default }
  fromValue_toValue resource := by simp [List.lookup_cons]

instance : Codec EnumValue where
  toValue enumValue := .object [("value", toValue enumValue.value), ("label", toValue enumValue.label)]
  fromValue value := do
    let slot ← slots ["value", "label"] value
    return { value := ← (slot "value").required, label := ← (slot "label").required }
  fromValue_toValue enumValue := by simp [List.lookup_cons]

instance : Codec Field where
  toValue field := .object ([("name", toValue field.name), ("label", toValue field.label)] ++
    optionalMember "description" field.description ++
    [("required", toValue field.required), ("type", toValue field.dType)] ++
    optionalMember "enum_values" field.enumValues ++ optionalMember "default_value" field.defaultValue ++
    [("sensitive", toValue field.sensitive), ("multiple", toValue field.multiple)])
  fromValue value := do
    let slot ← slots ["name", "label", "description", "required", "type", "enum_values",
      "default_value", "sensitive", "multiple"] value
    return {
      name := ← (slot "name").required
      label := ← (slot "label").required
      description := ← (slot "description").optional
      required := ← (slot "required").required
      dType := ← (slot "type").required
      enumValues := ← (slot "enum_values").optional
      defaultValue := ← (slot "default_value").optional
      sensitive := ← (slot "sensitive").defaulted false
      multiple := ← (slot "multiple").defaulted false }
  fromValue_toValue field := by
    simp [List.lookup_cons, List.lookup_append, Slot.optional_ofMember string_ne_null,
      Slot.optional_ofMember list_ne_null]

instance : Codec DataConnectionType where
  toValue connectionType := .object ([("name", toValue connectionType.name)] ++
    optionalMember "label" connectionType.label ++ [("provider", toValue connectionType.provider)] ++
    optionalMember "description" connectionType.description ++
    [("credentials_fields", toValue connectionType.credentialsFields)] ++
    optionalMember "tags" connectionType.tags)
  fromValue value := do
    let slot ← slots ["name", "label", "provider", "description", "credentials_fields", "tags"] value
    return {
      name := ← (slot "name").required
      label := ← (slot "label").optionalDefaulted
      provider := ← (slot "provider").required
      description := ← (slot "description").optional
      credentialsFields := ← (slot "credentials_fields").required
      tags := ← (slot "tags").optionalDefaulted }
  fromValue_toValue connectionType := by
    simp [List.lookup_cons, List.lookup_append, Slot.optional_ofMember string_ne_null,
      Slot.optionalDefaulted_ofMember string_ne_null, Slot.optionalDefaulted_ofMember list_ne_null]

instance : Codec DataConnectionTypeStatus where
  toValue status := .object ([("supported_formats", toValue status.supportedFormats),
    ("flight_ready", toValue status.flightReady), ("flight_url", nullOr status.flightUrl)] ++
    optionalMember "message" status.message ++ [("updated_at", nullOr status.updatedAt)])
  fromValue value := do
    let slot ← slots ["supported_formats", "flight_ready", "flight_url", "message", "updated_at"] value
    return {
      supportedFormats := ← (slot "supported_formats").defaulted []
      flightReady := ← (slot "flight_ready").required
      flightUrl := ← (slot "flight_url").optional
      message := ← (slot "message").optional
      updatedAt := ← (slot "updated_at").optional }
  fromValue_toValue status := by
    simp [List.lookup_cons, List.lookup_append, Slot.optional_ofMember string_ne_null,
      Slot.optional_ofMember_nullOr string_ne_null]

instance : Codec DataConnectionTypeResource where
  toValue resource := .object [("metadata", toValue resource.metadata),
    ("resource", toValue resource.resource), ("status", toValue resource.status)]
  fromValue value := do
    let slot ← slots ["metadata", "resource", "status"] value
    return {
      metadata := ← (slot "metadata").required
      resource := ← (slot "resource").required
      status := ← (slot "status").defaulted .default }
  fromValue_toValue resource := by simp [List.lookup_cons]

instance : Codec FlightServiceStatus where
  toValue status := .object [("ready", toValue status.ready)]
  fromValue value := do
    let slot ← slots ["ready"] value
    return { ready := ← (slot "ready").required }
  fromValue_toValue status := by simp [List.lookup_cons]

instance : Codec FlightService where
  toValue service := .object ([("name", toValue service.name),
    ("namespace", toValue service.namespaceName), ("external_url", toValue service.externalUrl),
    ("internal_url", toValue service.internalUrl)] ++
    memberUnless service.supportedConnectors.isEmpty "supported_connectors" service.supportedConnectors ++
    memberUnless service.connectorCapabilities.entries.isEmpty "connector_capabilities" service.connectorCapabilities ++
    [("status", toValue service.status)])
  fromValue value := do
    let slot ← slots ["name", "namespace", "external_url", "internal_url", "supported_connectors",
      "connector_capabilities", "status"] value
    return {
      name := ← (slot "name").required
      namespaceName := ← (slot "namespace").required
      externalUrl := ← (slot "external_url").required
      internalUrl := ← (slot "internal_url").required
      supportedConnectors := ← (slot "supported_connectors").defaulted []
      connectorCapabilities := ← (slot "connector_capabilities").defaulted ∅
      status := ← (slot "status").required }
  fromValue_toValue service := by
    have hCapabilities : service.connectorCapabilities.entries = [] →
        service.connectorCapabilities = ∅ := fun h => AList.ext h
    simp [List.lookup_cons, List.lookup_append, Slot.defaulted_ofMember_skipped id,
      Slot.defaulted_ofMember_skipped hCapabilities]

instance : Codec FlightServiceResource where
  toValue resource := .object [("metadata", toValue resource.metadata), ("resource", toValue resource.resource)]
  fromValue value := do
    let slot ← slots ["metadata", "resource"] value
    return { metadata := ← (slot "metadata").required, resource := ← (slot "resource").required }
  fromValue_toValue resource := by simp [List.lookup_cons]

end DataConnectHub
