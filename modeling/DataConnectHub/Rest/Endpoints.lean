import DataConnectHub.Rest.Audit
import DataConnectHub.RustStd.DebugFormat

/-! The endpoints of the REST service and their dispatch. A body that was
accepted by its extractor is the argument of its endpoint. -/
namespace DataConnectHub.Rest

open Serde Http

/-- Texts that libraries produce: which characters the debug format prints as
they are, and why a document is not a value of the named struct. -/
structure LibraryTexts where
  printable : Char → Bool
  deserializationError : String → Json → String

structure InlineCreds where
  secret : String
  properties : StringMap String

structure DataConnectionWithCreds where
  name : String
  dataConnectionTypeId : String
  format : DataFormat
  credentials : InlineCreds
  properties : StringMap String

def DataConnectionWithCreds.toDataConnection (creds : DataConnectionWithCreds) : DataConnection :=
  { name := creds.name
    dataConnectionTypeId := creds.dataConnectionTypeId
    format := creds.format
    credentialsRef := ⟨creds.credentials.secret⟩
    properties := creds.properties }

inductive CreateConnectionRequest where
  | dataConnectionWithSecretRef (connection : DataConnection)
  | dataConnectionWithInlineCreds (creds : DataConnectionWithCreds)

inductive ResponseBody where
  | empty
  | health (service : String)
  | dataConnections (list : ResourceList DataConnectionResource)
  | dataConnection (resource : DataConnectionResource)
  | dataConnectionTypes (list : ResourceList DataConnectionTypeResource)
  | dataConnectionType (resource : DataConnectionTypeResource)
  | flightService (resource : FlightServiceResource)
  | binary (contentDisposition : String) (chunks : List (Except String (List UInt8)))

structure HttpResponse where
  status : Nat
  body : ResponseBody

def defaultSecretLabels : StringMap String :=
  AList.singleton "dataconnecthub.opendatahub.io/attached" "true"

/-- Without an authorizer there is nothing to check. -/
def authorizeSecretRef (service : ApiService) (ctx : ApiContext) (secretName : String) : ApiM Unit :=
  if service.authorizer then
    match ctx.identity with
    | none => throw (.ofAuth (.unauthenticated "no authenticated identity on request"))
    | some identity => do
        orFail .ofAuth (← ask (.checkSecretAccess identity ctx.tenantId secretName))
  else return ()

def health : ApiM HttpResponse := return ⟨200, .health "Data Connect Hub"⟩

def notFound : ApiM HttpResponse := throw (.ofEndpoint .pathNotFound)

def listConnections (ctx : ApiContext) : ApiM HttpResponse := do
  let connections ← store (.getDataConnections ctx.tenantId) .ofMetaStore
  return ⟨200, .dataConnections connections⟩

def getConnection (ctx : ApiContext) (id : String) : ApiM HttpResponse := do
  let connection ← store (.getDataConnection ctx.tenantId id) .ofMetaStore
  return ⟨200, .dataConnection connection⟩

/-- The secret is created first and deleted again when the connection cannot
be stored; a failure of that deletion is only logged. -/
def createConnectionWithCreds (tenantId : String) (creds : DataConnectionWithCreds) :
    ApiM HttpResponse := do
  let type ← store (.getDataConnectionType tenantId creds.dataConnectionTypeId) .ofMetaStore
  orFail (fun error => .ofValidation (.credentialsCheckFailed error.display))
    (type.resource.checkCredentialsSchema creds.credentials.properties)
  let secret : Secret :=
    { name := creds.credentials.secret, namespaceName := tenantId
      properties := creds.credentials.properties
      labels := some defaultSecretLabels, annotations := some ∅ }
  orFail .ofSecretStore (← ask (.createSecret secret false))
  match ← ask (.store (.createDataConnection tenantId creds.toDataConnection)) with
  | .ok connection => return ⟨201, .dataConnection connection⟩
  | .error error =>
    let _ ← ask (.deleteSecret tenantId secret.name)
    throw (.ofMetaStore error)

def createConnection (ctx : ApiContext) : CreateConnectionRequest → ApiM HttpResponse
  | .dataConnectionWithInlineCreds creds => createConnectionWithCreds ctx.tenantId creds
  | .dataConnectionWithSecretRef connection => do
      let created ← store (.createDataConnection ctx.tenantId connection) .ofMetaStore
      return ⟨201, .dataConnection created⟩

def listConnectionTypes (ctx : ApiContext) : ApiM HttpResponse := do
  let types ← store (.getDataConnectionTypes ctx.tenantId) .ofMetaStore
  return ⟨200, .dataConnectionTypes types⟩

def getConnectionType (ctx : ApiContext) (id : String) : ApiM HttpResponse := do
  let type ← store (.getDataConnectionType ctx.tenantId id) .ofMetaStore
  return ⟨200, .dataConnectionType type⟩

/-- The document of the resource, patched and read back. -/
def applyPatch {Resource : Type} [Codec Resource] (texts : LibraryTexts) (struct : String) (patch : Json)
    (resource : Resource) : Except MetaStoreError Resource :=
  let value := (toValue resource).merge patch
  match fromValue value with
  | some patched => .ok patched
  | none => .error (.deserialization (texts.deserializationError struct value))

def validateType (type : DataConnectionType) : Except MetaStoreError Unit := do
  (type.validateLabel).mapError fun error => .invalidRequest error.display
  (type.validateTags).mapError fun error => .invalidRequest error.display

def patchConnection (texts : LibraryTexts) (ctx : ApiContext) (id : String) (patch : Json) :
    ApiM HttpResponse := do
  let connection ← store (.updateDataConnection ctx.tenantId id (applyPatch texts "DataConnection" patch)) .ofMetaStore
  return ⟨200, .dataConnection connection⟩

def createConnectionType (ctx : ApiContext) (type : DataConnectionType) : ApiM HttpResponse := do
  orFail .ofMetaStore (validateType type)
  let created ← store (.createDataConnectionType ctx.tenantId type) .ofMetaStore
  auditDataConnectionTypes
  return ⟨201, .dataConnectionType created⟩

def patchType (texts : LibraryTexts) (patch : Json) (type : DataConnectionType) :
    Except MetaStoreError DataConnectionType := do
  let updated ← applyPatch texts "DataConnectionType" patch type
  validateType updated
  return updated

def patchConnectionType (texts : LibraryTexts) (ctx : ApiContext) (id : String) (patch : Json) :
    ApiM HttpResponse := do
  let type ← store (.updateDataConnectionType ctx.tenantId id (patchType texts patch)) .ofMetaStore
  auditDataConnectionTypes
  return ⟨200, .dataConnectionType type⟩

def deleteConnection (ctx : ApiContext) (id : String) : ApiM HttpResponse := do
  store (.deleteDataConnection ctx.tenantId id) .ofMetaStore
  return ⟨204, .empty⟩

def deleteConnectionType (ctx : ApiContext) (id : String) : ApiM HttpResponse := do
  store (.deleteDataConnectionType ctx.tenantId id) .ofMetaStore
  return ⟨204, .empty⟩

def flightServiceByConnection (tenantId dataConnectionId : String) : ApiM FlightServiceResource := do
  let connection ← store (.getDataConnection tenantId dataConnectionId) .ofMetaStore
  let type ← store (.getDataConnectionType tenantId connection.resource.dataConnectionTypeId) .ofMetaStore
  store (.getFlightServiceByConnector type.resource.provider) .ofMetaStore

/-- One chunk of the response body for one batch of the download. -/
def binaryChunk : Except Grpc.Status DownloadBatch → Except String (List UInt8)
  | .ok (some values) => .ok values.flatten
  | .ok none => .error "missing 'data' column in response"
  | .error _ => .error "binary stream read failed"

/-- The part of the path after its last slash. -/
def fileName (path : String) : String :=
  String.ofList ((path.toList.reverse.takeWhile fun char => char != '/').reverse)

def getBinaryData (ctx : ApiContext) (id path : String) : ApiM HttpResponse := do
  let flight ← flightServiceByConnection ctx.tenantId id
  let batches ← orFail .ofGrpc (← ask (.downloadBinary flight.resource.internalUrl ctx.tenantId id path))
  return ⟨200, .binary s!"attachment; filename=\"{fileName path}\"" (batches.map binaryChunk)⟩

/-- The connectors of a new service that some registered service has. -/
def takenConnectors (flights : List FlightServiceResource) (names : List String) : List String :=
  names.filter fun name => (flights.flatMap fun flight => flight.resource.supportedConnectors).contains name

/-- The service as it is registered: what it supports is what it reported. -/
def withConnectors (flight : FlightService) (connectors : List SupportedConnector) : FlightService :=
  { flight with
    connectorCapabilities := connectors.foldl
      (fun capabilities connector => capabilities.insert connector.name connector.supportedFormats) ∅
    supportedConnectors := connectors.map SupportedConnector.name }

def createFlightService (service : ApiService) (texts : LibraryTexts) (flight : FlightService) :
    ApiM HttpResponse := do
  let connectors ← orFail .ofGrpc (← ask (.getSupportedConnectors flight.internalUrl service.globalTenantId))
  let flights ← store .getAllFlightServices .ofMetaStore
  let taken := takenConnectors flights.items (connectors.map SupportedConnector.name)
  if taken.isEmpty then do
    let created ← store (.createFlightService (withConnectors flight connectors)) .ofMetaStore
    auditDataConnectionTypes
    return ⟨201, .flightService created⟩
  else
    throw (.ofValidation (.connectorsAlreadyExists
      s!"connectors already exists: {RustStd.debugList texts.printable taken}"))

def deleteFlightService (id : String) : ApiM HttpResponse := do
  store (.deleteFlightService id) .ofMetaStore
  auditDataConnectionTypes
  return ⟨204, .empty⟩

def patchFlightService (texts : LibraryTexts) (id : String) (patch : Json) : ApiM HttpResponse := do
  let _ ← store (.updateFlightService id (applyPatch texts "FlightService" patch)) .ofMetaStore
  auditDataConnectionTypes
  return ⟨204, .empty⟩

def checkExistentConnection (ctx : ApiContext) (id : String) : ApiM HttpResponse := do
  auditDataConnection ctx.tenantId id
  return ⟨204, .empty⟩

def testCredentials (ctx : ApiContext) (body : TestCredentials) : ApiM HttpResponse := do
  let type ← store (.getDataConnectionType ctx.tenantId body.dataConnectionTypeId) .ofMetaStore
  let flight ← store (.getFlightServiceByConnector type.resource.provider) .ofMetaStore
  orFail (fun error : Grpc.Status => .ofValidation (.connectionCheckFailed error.message))
    (← ask (.testCredentials flight.resource.internalUrl ctx.tenantId body))
  return ⟨204, .empty⟩

/-- The properties of an exported secret. Those of the connection win over
the credentials. -/
def exportProperties (connection : DataConnectionResource) (credentials : StringMap String) : StringMap String :=
  let own := (((credentials.insert "data_connection.id" connection.metadata.id).insert
    "data_connection_type.id" connection.resource.dataConnectionTypeId).insert
    "data_connection.name" connection.resource.name).insert
    "data_connection.format" connection.resource.format.display
  connection.resource.properties.entries.foldl
    (fun properties entry => properties.insert s!"data_connection.properties.{entry.1}" entry.2) own

/-- The part of the export after the caller was let through. -/
def exportSecret (ctx : ApiContext) (connection : DataConnectionResource) (secretName : String) :
    ApiM HttpResponse := do
  let existing ← orFail .ofSecretStore (← ask (.getSecret ctx.tenantId connection.resource.credentialsRef.secret))
  let secret : Secret :=
    { name := secretName, namespaceName := ctx.tenantId
      properties := exportProperties connection existing.properties
      labels := some defaultSecretLabels, annotations := none }
  orFail .ofSecretStore (← ask (.createSecret secret true))
  return ⟨204, .empty⟩

def exportConnection (service : ApiService) (ctx : ApiContext) (id secretName : String) :
    ApiM HttpResponse := do
  let connection ← store (.getDataConnection ctx.tenantId id) .ofMetaStore
  if connection.resource.credentialsRef.secret.isEmpty then throw (.ofValidation .invalidSecret)
  else do
    authorizeSecretRef service ctx connection.resource.credentialsRef.secret
    exportSecret ctx connection secretName

/-- The routes of the data scope, with what the extractors take from them. -/
inductive DataEndpoint where
  | listConnectionTypes
  | createConnectionType (type : DataConnectionType)
  | getConnectionType (id : String)
  | patchConnectionType (id : String) (patch : Json)
  | deleteConnectionType (id : String)
  | listConnections
  | createConnection (body : CreateConnectionRequest)
  | getConnection (id : String)
  | patchConnection (id : String) (patch : Json)
  | deleteConnection (id : String)
  | exportConnection (id secretName : String)
  | checkExistentConnection (id : String)
  | getBinaryData (id path : String)
  | testCredentials (body : TestCredentials)
  | createFlightService (flight : FlightService)
  | deleteFlightService (id : String)
  | patchFlightService (id : String) (patch : Json)
  | notFound

inductive Endpoint where
  | health
  | data (endpoint : DataEndpoint)
  | notFound

structure Request where
  headers : HeaderMap
  endpoint : Endpoint

def DataEndpoint.handle (service : ApiService) (texts : LibraryTexts) (ctx : ApiContext) :
    DataEndpoint → ApiM HttpResponse
  | .listConnectionTypes => Rest.listConnectionTypes ctx
  | .createConnectionType type => Rest.createConnectionType ctx type
  | .getConnectionType id => Rest.getConnectionType ctx id
  | .patchConnectionType id patch => Rest.patchConnectionType texts ctx id patch
  | .deleteConnectionType id => Rest.deleteConnectionType ctx id
  | .listConnections => Rest.listConnections ctx
  | .createConnection body => Rest.createConnection ctx body
  | .getConnection id => Rest.getConnection ctx id
  | .patchConnection id patch => Rest.patchConnection texts ctx id patch
  | .deleteConnection id => Rest.deleteConnection ctx id
  | .exportConnection id secretName => Rest.exportConnection service ctx id secretName
  | .checkExistentConnection id => Rest.checkExistentConnection ctx id
  | .getBinaryData id path => Rest.getBinaryData ctx id path
  | .testCredentials body => Rest.testCredentials ctx body
  | .createFlightService flight => Rest.createFlightService service texts flight
  | .deleteFlightService id => Rest.deleteFlightService id
  | .patchFlightService id patch => Rest.patchFlightService texts id patch
  | .notFound => Rest.notFound

/-- Only the data scope looks at the headers. -/
def handle (service : ApiService) (texts : LibraryTexts) (request : Request) : ApiM HttpResponse :=
  match request.endpoint with
  | .health => health
  | .notFound => notFound
  | .data endpoint =>
    match validateHeaders request.headers with
    | .error error => throw (.ofEndpoint error)
    | .ok ctx => endpoint.handle service texts ctx

/-- A request of one user to an endpoint, for examples. -/
def sampleRequest (endpoint : DataEndpoint) : Request :=
  { headers := [(xTenantId, asciiValue "team-a"), (xRemoteUser, asciiValue "mallory")]
    endpoint := .data endpoint }

/-- Flight servers that report these connectors, and a store that is away. -/
def sampleReply (connectors : List String) : (call : ApiCall) → call.Response
  | .store _ => .error (.connection "unavailable")
  | .getSecret _ _ => .error (.secretNotFound "no secret")
  | .createSecret _ _ => .ok ()
  | .deleteSecret _ _ => .ok ()
  | .checkSecretAccess _ _ _ => .ok ()
  | .getSupportedConnectors _ _ => .ok (connectors.map fun name => ⟨name, ["tabular"]⟩)
  | .checkDataConnection _ _ _ => .ok ()
  | .testCredentials _ _ _ => .ok ()
  | .downloadBinary _ _ _ _ => .ok []

def sampleTexts : LibraryTexts := ⟨fun _ => true, fun _ _ => "invalid document"⟩

end DataConnectHub.Rest
