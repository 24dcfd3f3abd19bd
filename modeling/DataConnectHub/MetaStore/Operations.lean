import DataConnectHub.MetaStore.Schema

/-! The operations of the metadata store as programs over its statements. The
generated identifier and the clock reading of a call are arguments. A
statement executed on the pool commits by itself, which the `commit` call
after it stands for. Serializing a resource cannot fail, and the document
column can always be read. -/
namespace DataConnectHub

open Serde RowStore Interaction

abbrev MetaStoreM := ExceptT MetaStoreError (Program (Call metaSchema) Call.Response)

/-- One call to the database; a failed call ends the operation. -/
def request (call : Call metaSchema) (onFailure : Failure → MetaStoreError) : MetaStoreM call.Value :=
  ExceptT.mk (.call call fun
    | .ok value => .done (.ok value)
    | .error failure => .done (.error (onFailure failure)))

def fetchOne (table : MetaTable) (uid : String) (filter : Json → Bool) (lock : Option LockMode)
    (missing failed : MetaStoreError) : MetaStoreM Json := do
  match ← request (.query (.fetchRow table uid filter lock)) fun _ => failed with
  | some doc => return doc
  | none => throw missing

def decode {α : Type} [Codec α] (doc : Json) (malformed : MetaStoreError) : Except MetaStoreError α :=
  match fromValue doc with
  | some value => .ok value
  | none => .error malformed

/-- `data->'metadata'->>'tenant_id' = $1`. -/
def ofTenant (tenantId : String) (doc : Json) : Bool :=
  doc.path? "metadata" "tenant_id" == some tenantId

def visibleTo (globalTenantId tenantId : String) (doc : Json) : Bool :=
  ofTenant tenantId doc || ofTenant globalTenantId doc

def anyTenant (_ : Json) : Bool := true

def refersTo (typeId : String) (doc : Json) : Bool :=
  doc.path? "resource" "data_connection_type_id" == some typeId

def supports (connector : String) (doc : Json) : Bool :=
  (((doc.field? "resource").bind fun resource => resource.field? "supported_connectors").map
    (Json.containsString connector)).getD false

def mapSqlxError : Failure → MetaStoreError
  | .uniqueViolation => .conflict "a resource with the same identity already exists"
  | .other => .query "failed to execute database operation"

def connectionNotFound (uid : String) : MetaStoreError :=
  .resourceNotFound s!"data connection '{uid}' not found"

def typeNotFound (uid : String) : MetaStoreError :=
  .resourceNotFound s!"connection type '{uid}' not found"

def serviceNotFound (id : String) : MetaStoreError :=
  .resourceNotFound s!"flight service '{id}' not found"

def malformedConnection : MetaStoreError :=
  .deserialization "failed to deserialize data connection"

def malformedType : MetaStoreError :=
  .deserialization "failed to deserialize connection type; see service logs for details"

def malformedService : MetaStoreError :=
  .deserialization "failed to deserialize flight service"

def validateConnectionType (globalTenantId tenantId connectionTypeId : String) : MetaStoreM Unit := do
  let _ ← fetchOne .dataConnectionTypes connectionTypeId (visibleTo globalTenantId tenantId)
    (some .share) (.unprocessableEntity s!"connection type '{connectionTypeId}' not found")
    (.query "failed to validate connection type")
  return ()

def connectionTypeInUseMessage (uid : String) (count : Nat) : String :=
  let subject := if count = 1 then "1 connection still references it"
    else s!"{count} connections still reference it"
  s!"cannot delete connection type '{uid}': {subject}; delete the connections first"

def newConnection (tenantId : String) (dataConnection : DataConnection) (id now : String) : DataConnectionResource :=
  { metadata := { id := id, tenantId := some tenantId, createdAt := now, updatedAt := now }
    resource := dataConnection
    status := { state := .notReady, message := none, updatedAt := some now } }

def createDataConnection (globalTenantId tenantId : String) (dataConnection : DataConnection)
    (id now : String) : MetaStoreM DataConnectionResource := do
  let failed := MetaStoreError.query "failed to create data connection"
  request .begin fun _ => failed
  validateConnectionType globalTenantId tenantId dataConnection.dataConnectionTypeId
  let resource := newConnection tenantId dataConnection id now
  request (.query (.insert .dataConnections (toValue resource))) mapSqlxError
  request .commit fun _ => failed
  return resource

/-- Write the changed resource back over its row and commit. -/
def writeBack (table : MetaTable) (uid : String) (filter : Json → Bool) (failed : MetaStoreError)
    (resource : table.Row) : MetaStoreM table.Row := do
  let _ ← request (.query (.update table uid filter (toValue resource))) fun _ => failed
  request .commit fun _ => failed
  return resource

/-- The end of an update: nothing is written when the change was refused. -/
def settle (table : MetaTable) (uid : String) (filter : Json → Bool) (failed : MetaStoreError)
    (check : table.Row → MetaStoreM Unit) : Except MetaStoreError table.Row → MetaStoreM table.Row
  | .error error => throw error
  | .ok resource => do
      check resource
      writeBack table uid filter failed resource

/-- The update operations of all three tables: lock the row, rewrite the whole
document, write it back. `change` is the new resource computed from the old
one, and `check` what is validated before the write. -/
def updateRow (table : MetaTable) (uid : String) (filter : Json → Bool) (missing malformed failed : MetaStoreError)
    (change : UpdateFn table.Row) (check : table.Row → MetaStoreM Unit) :
    MetaStoreM table.Row := do
  request .begin fun _ => failed
  let doc ← fetchOne table uid filter (some .update) missing failed
  settle table uid filter failed check (decode doc malformed >>= change)

def noCheck {α : Type} (_ : α) : MetaStoreM Unit := return ()

def editConnection (updateFn : UpdateFn DataConnection) (now : String)
    (existing : DataConnectionResource) : Except MetaStoreError DataConnectionResource :=
  (updateFn existing.resource).map fun dataConnection =>
    { metadata := { existing.metadata with updatedAt := now }
      resource := dataConnection
      status := existing.status }

def editConnectionStatus (updateFn : UpdateFn DataConnectionStatus)
    (now : String) (existing : DataConnectionResource) : Except MetaStoreError DataConnectionResource :=
  (updateFn existing.status).map fun status =>
    { metadata := { existing.metadata with updatedAt := now }
      resource := existing.resource
      status := status }

def editType (updateFn : UpdateFn DataConnectionType) (now : String)
    (existing : DataConnectionTypeResource) : Except MetaStoreError DataConnectionTypeResource :=
  (updateFn existing.resource).map fun dataConnectionType =>
    { metadata := { existing.metadata with updatedAt := now }
      resource := dataConnectionType
      status := existing.status }

def editTypeStatus (updateFn : UpdateFn DataConnectionTypeStatus)
    (now : String) (existing : DataConnectionTypeResource) :
    Except MetaStoreError DataConnectionTypeResource :=
  (updateFn existing.status).map fun status =>
    { metadata := { existing.metadata with updatedAt := now }
      resource := existing.resource
      status := status }

def editService (updateFn : UpdateFn FlightService) (now : String)
    (existing : FlightServiceResource) : Except MetaStoreError FlightServiceResource :=
  (updateFn existing.resource).map fun service =>
    { metadata := { existing.metadata with updatedAt := now }, resource := service }

def updateDataConnection (globalTenantId tenantId uid : String)
    (updateFn : UpdateFn DataConnection) (now : String) :
    MetaStoreM DataConnectionResource :=
  updateRow .dataConnections uid (ofTenant tenantId) (connectionNotFound uid) malformedConnection
    (.query "failed to update data connection")
    (editConnection updateFn now)
    fun resource => validateConnectionType globalTenantId tenantId resource.resource.dataConnectionTypeId

def updateDataConnectionStatus (tenantId uid : String)
    (updateFn : UpdateFn DataConnectionStatus) (now : String) :
    MetaStoreM DataConnectionResource :=
  updateRow .dataConnections uid (ofTenant tenantId) (connectionNotFound uid) malformedConnection
    (.query "failed to update data connection status") (editConnectionStatus updateFn now) noCheck

/-- A `DELETE` that has to find its row, and the commit of its transaction. -/
def deleteRow (table : MetaTable) (uid : String) (filter : Json → Bool)
    (missing failed : MetaStoreError) : MetaStoreM Unit := do
  let affected ← request (.query (.delete table uid filter)) fun _ => failed
  if affected = 0 then throw missing
  else request .commit fun _ => failed

def deleteDataConnection (tenantId uid : String) : MetaStoreM Unit :=
  deleteRow .dataConnections uid (ofTenant tenantId) (connectionNotFound uid)
    (.query "failed to delete data connection")

/-- An `INSERT` on the pool, with the conflict reported under the name. -/
def insertRow (table : MetaTable) (resource : table.Row) (conflict : String) : MetaStoreM table.Row := do
  let failed (failure : Failure) := match mapSqlxError failure with
    | .conflict _ => .conflict conflict
    | other => other
  request (.query (.insert table (toValue resource))) failed
  request .commit fun _ => mapSqlxError .other
  return resource

def newType (tenantId : String) (dataConnectionType : DataConnectionType) (id now : String) :
    DataConnectionTypeResource :=
  { metadata := { id := id, tenantId := some tenantId, createdAt := now, updatedAt := now }
    resource := dataConnectionType
    status := .default }

def createDataConnectionType (tenantId : String) (dataConnectionType : DataConnectionType)
    (id now : String) : MetaStoreM DataConnectionTypeResource :=
  insertRow .dataConnectionTypes (newType tenantId dataConnectionType id now)
    s!"a connection type named '{dataConnectionType.name}' already exists for this tenant"

def updateDataConnectionType (tenantId uid : String)
    (updateFn : UpdateFn DataConnectionType) (now : String) :
    MetaStoreM DataConnectionTypeResource :=
  updateRow .dataConnectionTypes uid (ofTenant tenantId) (typeNotFound uid) malformedType
    (.query "failed to update connection type") (editType updateFn now) noCheck

def updateDataConnectionTypeStatus (uid : String)
    (updateFn : UpdateFn DataConnectionTypeStatus) (now : String) :
    MetaStoreM DataConnectionTypeResource :=
  updateRow .dataConnectionTypes uid anyTenant (typeNotFound uid) malformedType
    (.query "failed to update connection type status") (editTypeStatus updateFn now) noCheck

def deleteDataConnectionType (tenantId uid : String) : MetaStoreM Unit := do
  let failed := MetaStoreError.query "failed to delete connection type"
  request .begin fun _ => failed
  let _ ← fetchOne .dataConnectionTypes uid (ofTenant tenantId) (some .update) (typeNotFound uid) failed
  let count ← request (.query (.count .dataConnections (refersTo uid))) fun _ => failed
  if 0 < count then throw (.conflict (connectionTypeInUseMessage uid count))
  else deleteRow .dataConnectionTypes uid (ofTenant tenantId) (typeNotFound uid) failed

def newService (flightService : FlightService) (id now : String) : FlightServiceResource :=
  { metadata := { id := id, tenantId := none, createdAt := now, updatedAt := now }
    resource := flightService }

def createFlightService (flightService : FlightService) (id now : String) : MetaStoreM FlightServiceResource :=
  insertRow .flightServices (newService flightService id now)
    (s!"a flight service named '{flightService.name}' already exists in namespace " ++
      s!"'{flightService.namespaceName}'")

/-- The write selects by the id of the document read, which is `id` itself. -/
def updateFlightService (id : String) (updateFn : UpdateFn FlightService) (now : String) :
    MetaStoreM FlightServiceResource :=
  updateRow .flightServices id anyTenant (serviceNotFound id) malformedService
    (.query "failed to update flight service") (editService updateFn now) noCheck

def deleteFlightService (id : String) : MetaStoreM Unit :=
  deleteRow .flightServices id anyTenant (serviceNotFound id) (.query "failed to delete flight service")

def getDataConnections (tenantId : String) : MetaStoreM (ResourceList DataConnectionResource) := do
  let docs ← request (.query (.fetchAll .dataConnections (ofTenant tenantId)))
    fun _ => .query "failed to list data connections"
  let items : List DataConnectionResource ← ExceptT.mk (.done (docs.mapM fun doc =>
    decode doc malformedConnection))
  return { totalCount := items.length, items := items }

def getDataConnection (tenantId uid : String) : MetaStoreM DataConnectionResource := do
  let doc ← fetchOne .dataConnections uid (ofTenant tenantId) none (connectionNotFound uid)
    (.query "failed to retrieve data connection")
  ExceptT.mk (.done (decode doc malformedConnection))

/-- Types of the global tenant are listed without their tenant. -/
def hideGlobalTenant (globalTenantId : String) (resource : DataConnectionTypeResource) : DataConnectionTypeResource :=
  if resource.metadata.tenantId = some globalTenantId then
    { resource with metadata := { resource.metadata with tenantId := none } }
  else resource

def deserializeConnectionType (doc : Json) (globalTenantId : String) : Option DataConnectionTypeResource :=
  (fromValue doc).map (hideGlobalTenant globalTenantId)

def getDataConnectionTypes (globalTenantId tenantId : String) :
    MetaStoreM (ResourceList DataConnectionTypeResource) := do
  let docs ← request (.query (.fetchAll .dataConnectionTypes (visibleTo globalTenantId tenantId)))
    fun _ => .query "failed to list connection types"
  let items := docs.filterMap fun doc => deserializeConnectionType doc globalTenantId
  return { totalCount := items.length, items := items }

def getDataConnectionType (globalTenantId tenantId id : String) :
    MetaStoreM DataConnectionTypeResource := do
  let doc ← fetchOne .dataConnectionTypes id (visibleTo globalTenantId tenantId) none (typeNotFound id)
    (.query "failed to retrieve connection type")
  ExceptT.mk (.done (decode doc malformedType))

def getAllDataConnectionTypes (globalTenantId : String) : MetaStoreM (ResourceList DataConnectionTypeResource) := do
  let docs ← request (.query (.fetchAll .dataConnectionTypes anyTenant))
    fun _ => .query "failed to list connection types"
  let items : List DataConnectionTypeResource ← ExceptT.mk (.done (docs.mapM fun doc => do
    let resource ← decode doc malformedType
    return hideGlobalTenant globalTenantId resource))
  return { totalCount := items.length, items := items }

def getAllFlightServices : MetaStoreM (ResourceList FlightServiceResource) := do
  let docs ← request (.query (.fetchAll .flightServices anyTenant)) fun _ => .query "failed to list flight services"
  let items : List FlightServiceResource ← ExceptT.mk (.done (docs.mapM fun doc =>
    decode doc malformedService))
  return { totalCount := items.length, items := items }

/-- The first matching row, in whatever order the table is scanned. -/
def getFlightServiceByConnector (connector : String) : MetaStoreM FlightServiceResource := do
  let docs ← request (.query (.fetchAll .flightServices (supports connector)))
    fun _ => .query "failed to retrieve flight service"
  match docs with
  | doc :: _ => ExceptT.mk (.done (decode doc malformedService))
  | [] => throw (.resourceNotFound s!"no flight service supports connector '{connector}'")

/-- A writing call of the store. -/
inductive MetaCall where
  | createDataConnection (tenantId : String) (dataConnection : DataConnection) (id now : String)
  | updateDataConnection (tenantId uid : String)
      (updateFn : UpdateFn DataConnection) (now : String)
  | updateDataConnectionStatus (tenantId uid : String)
      (updateFn : UpdateFn DataConnectionStatus) (now : String)
  | deleteDataConnection (tenantId uid : String)
  | createDataConnectionType (tenantId : String) (dataConnectionType : DataConnectionType)
      (id now : String)
  | updateDataConnectionType (tenantId uid : String)
      (updateFn : UpdateFn DataConnectionType) (now : String)
  | updateDataConnectionTypeStatus (uid : String)
      (updateFn : UpdateFn DataConnectionTypeStatus)
      (now : String)
  | deleteDataConnectionType (tenantId uid : String)
  | createFlightService (flightService : FlightService) (id now : String)
  | updateFlightService (id : String) (updateFn : UpdateFn FlightService) (now : String)
  | deleteFlightService (id : String)

/-- The resource a writing call returns, if it returns one. -/
inductive MetaAnswer where
  | row (table : MetaTable) (resource : table.Row)
  | deleted

open Transaction in
def MetaCall.program (globalTenantId : String) : MetaCall → Transaction metaSchema (Except MetaStoreError MetaAnswer)
  | .createDataConnection tenantId dataConnection id now =>
    mapAnswer (.row .dataConnections)
      (DataConnectHub.createDataConnection globalTenantId tenantId dataConnection id now)
  | .updateDataConnection tenantId uid updateFn now =>
    mapAnswer (.row .dataConnections) (DataConnectHub.updateDataConnection globalTenantId tenantId uid updateFn now)
  | .updateDataConnectionStatus tenantId uid updateFn now =>
    mapAnswer (.row .dataConnections) (DataConnectHub.updateDataConnectionStatus tenantId uid updateFn now)
  | .deleteDataConnection tenantId uid =>
    mapAnswer (fun _ => .deleted) (DataConnectHub.deleteDataConnection tenantId uid)
  | .createDataConnectionType tenantId dataConnectionType id now =>
    mapAnswer (.row .dataConnectionTypes) (DataConnectHub.createDataConnectionType tenantId dataConnectionType id now)
  | .updateDataConnectionType tenantId uid updateFn now =>
    mapAnswer (.row .dataConnectionTypes) (DataConnectHub.updateDataConnectionType tenantId uid updateFn now)
  | .updateDataConnectionTypeStatus uid updateFn now =>
    mapAnswer (.row .dataConnectionTypes) (DataConnectHub.updateDataConnectionTypeStatus uid updateFn now)
  | .deleteDataConnectionType tenantId uid =>
    mapAnswer (fun _ => .deleted) (DataConnectHub.deleteDataConnectionType tenantId uid)
  | .createFlightService flightService id now =>
    mapAnswer (.row .flightServices) (DataConnectHub.createFlightService flightService id now)
  | .updateFlightService id updateFn now =>
    mapAnswer (.row .flightServices) (DataConnectHub.updateFlightService id updateFn now)
  | .deleteFlightService id =>
    mapAnswer (fun _ => .deleted) (DataConnectHub.deleteFlightService id)

end DataConnectHub
