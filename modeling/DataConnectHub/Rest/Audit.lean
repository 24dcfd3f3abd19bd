import DataConnectHub.Api.Validation
import DataConnectHub.Rest.Service

/-! The audits of the REST service. They compute the status of connections and
connection types and write it back to the metadata store. -/
namespace DataConnectHub.Rest

open Serde

def setDataConnectionStatus (tenantId dataConnectionId : String) (state : DataConnectionState)
    (message : Option String) : ApiM Unit := do
  let updateFn (now : String) (_ : DataConnectionStatus) :
      Except MetaStoreError DataConnectionStatus := .ok ⟨state, message, some now⟩
  let _ ← store (.updateDataConnectionStatus tenantId dataConnectionId updateFn) fun _ =>
    .ofValidation (.statusUpdateFailed "Failed to update data connection status")
  return ()

/-- The part of the audit after the secret has been read. -/
def auditCredentials (tenantId dataConnectionId : String) (dataConnection : DataConnectionResource)
    (type : DataConnectionTypeResource) (keys : StringMap String) : ApiM Unit := do
  match type.resource.checkCredentialsSchema keys with
  | .error error =>
    setDataConnectionStatus tenantId dataConnectionId .notReady (some error.display)
    throw (.ofValidation (.credentialsCheckFailed error.display))
  | .ok () =>
    let connectionId := dataConnection.metadata.id
    let flight ← store (.getFlightServiceByConnector type.resource.provider) fun error =>
      .ofValidation (.flightServiceError error.display)
    match ← ask (.checkDataConnection flight.resource.internalUrl tenantId connectionId) with
    | .ok () =>
      setDataConnectionStatus tenantId dataConnectionId .ready (some "Connection check successful")
    | .error _ =>
      setDataConnectionStatus tenantId dataConnectionId .ingestionNotReady (some "Connection check failed")
      throw (.ofValidation (.connectionCheckFailed connectionId))

def auditDataConnection (tenantId dataConnectionId : String) : ApiM Unit := do
  let dataConnection ← store (.getDataConnection tenantId dataConnectionId) fun _ =>
    .ofValidation (.invalidDataConnectionId dataConnectionId)
  let typeId := dataConnection.resource.dataConnectionTypeId
  let type ← store (.getDataConnectionType tenantId typeId) fun _ =>
    .ofValidation (.invalidDataConnectionType typeId)
  match ← ask (.getSecret tenantId dataConnection.resource.credentialsRef.secret) with
  | .ok secret => auditCredentials tenantId dataConnectionId dataConnection type secret.properties
  | .error _ =>
    setDataConnectionStatus tenantId dataConnectionId .notReady (some "Secret cannot be read")
    throw (.ofValidation .invalidSecret)

/-- The status of a type: what the first Flight service with its connector
can do. -/
def typeStatus (flights : List FlightServiceResource) (provider now : String) : DataConnectionTypeStatus :=
  let flight := flights.find? fun flight => flight.resource.supportedConnectors.contains provider
  let formats := (flight.bind fun flight => flight.resource.connectorCapabilities.lookup provider).getD []
  let url := (flight.filter fun flight => flight.resource.status.ready).map fun flight =>
    flight.resource.externalUrl
  { supportedFormats := formats.filterMap fun format => (DataFormat.fromString format).toOption
    flightReady := url.isSome
    flightUrl := url
    message := none
    updatedAt := some now }

/-- The types are updated one after another; the first failure ends the audit. -/
def updateTypes (flights : List FlightServiceResource) : List DataConnectionTypeResource → ApiM Unit
  | [] => return ()
  | type :: rest => do
      let updateFn (now : String) (_ : DataConnectionTypeStatus) : Except MetaStoreError DataConnectionTypeStatus :=
        .ok (typeStatus flights type.resource.provider now)
      let _ ← store (.updateDataConnectionTypeStatus type.metadata.id updateFn) fun _ =>
        .ofValidation (.statusUpdateFailed type.metadata.id)
      updateTypes flights rest

def auditDataConnectionTypes : ApiM Unit := do
  let flights ← store .getAllFlightServices fun error =>
    .ofValidation (.flightServiceError error.display)
  let types ← store .getAllDataConnectionTypes fun _ => .ofValidation .cannotGetDataConnectionTypes
  updateTypes flights.items types.items

end DataConnectHub.Rest
