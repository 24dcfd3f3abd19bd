import DataConnectHub.Http.Headers
import DataConnectHub.Interaction.Program
import DataConnectHub.Rest.Errors

/-! What an endpoint of the REST service can see and call: the request context,
the metadata store, the secret store, the Flight service and the authorizer.
A status update reads the clock when the store applies it. -/
namespace DataConnectHub.Rest

open Serde Interaction Http

def xTenantId : String := "x-tenant-id"
def xRemoteUser : String := "x-remote-user"

structure RequestIdentity where
  username : String
  deriving DecidableEq, Repr

def resolveIdentity (remoteUser : Option String) : Option RequestIdentity :=
  (remoteUser.filter fun username => !username.isEmpty).map RequestIdentity.mk

structure ApiContext where
  tenantId : String
  identity : Option RequestIdentity

def validateHeaders (headers : HeaderMap) : Except EndpointError ApiContext :=
  match headers.get xTenantId with
  | none => .error (.headerNotFound xTenantId)
  | some value =>
    match value.toStr with
    | none => .error (.invalidHeaderValue xTenantId)
    | some tenantId =>
      if tenantId.isEmpty then .error (.invalidHeaderValue xTenantId)
      else .ok ⟨tenantId, resolveIdentity ((headers.get xRemoteUser).bind HeaderValue.toStr)⟩

structure Secret where
  name : String
  namespaceName : String
  properties : StringMap String
  labels : Option (StringMap String)
  annotations : Option (StringMap String)

structure TestCredentials where
  dataConnectionTypeId : String
  credentials : StringMap String

structure SupportedConnector where
  name : String
  supportedFormats : List String

/-- A record batch of a download: its `data` column, if it has one. -/
abbrev DownloadBatch := Option (List (List UInt8))

/-- The operations of the metadata store that the service uses. -/
inductive StoreCall where
  | getDataConnections (tenantId : String)
  | getDataConnection (tenantId uid : String)
  | getDataConnectionTypes (tenantId : String)
  | getDataConnectionType (tenantId id : String)
  | getAllDataConnectionTypes
  | getAllFlightServices
  | getFlightServiceByConnector (connector : String)
  | createDataConnection (tenantId : String) (dataConnection : DataConnection)
  | updateDataConnection (tenantId uid : String)
      (updateFn : UpdateFn DataConnection)
  | updateDataConnectionStatus (tenantId uid : String)
      (updateFn : String → UpdateFn DataConnectionStatus)
  | deleteDataConnection (tenantId uid : String)
  | createDataConnectionType (tenantId : String) (dataConnectionType : DataConnectionType)
  | updateDataConnectionType (tenantId uid : String)
      (updateFn : UpdateFn DataConnectionType)
  | updateDataConnectionTypeStatus (uid : String)
      (updateFn : String → UpdateFn DataConnectionTypeStatus)
  | deleteDataConnectionType (tenantId uid : String)
  | createFlightService (flightService : FlightService)
  | updateFlightService (id : String) (updateFn : UpdateFn FlightService)
  | deleteFlightService (id : String)

@[reducible] def StoreCall.Value : StoreCall → Type
  | .getDataConnections _ => ResourceList DataConnectionResource
  | .getDataConnection _ _ => DataConnectionResource
  | .getDataConnectionTypes _ => ResourceList DataConnectionTypeResource
  | .getDataConnectionType _ _ => DataConnectionTypeResource
  | .getAllDataConnectionTypes => ResourceList DataConnectionTypeResource
  | .getAllFlightServices => ResourceList FlightServiceResource
  | .getFlightServiceByConnector _ => FlightServiceResource
  | .createDataConnection _ _ => DataConnectionResource
  | .updateDataConnection _ _ _ => DataConnectionResource
  | .updateDataConnectionStatus _ _ _ => DataConnectionResource
  | .deleteDataConnection _ _ => Unit
  | .createDataConnectionType _ _ => DataConnectionTypeResource
  | .updateDataConnectionType _ _ _ => DataConnectionTypeResource
  | .updateDataConnectionTypeStatus _ _ => DataConnectionTypeResource
  | .deleteDataConnectionType _ _ => Unit
  | .createFlightService _ => FlightServiceResource
  | .updateFlightService _ _ => FlightServiceResource
  | .deleteFlightService _ => Unit

inductive ApiCall where
  | store (operation : StoreCall)
  | getSecret (namespaceName name : String)
  | createSecret (secret : Secret) (overwrite : Bool)
  | deleteSecret (namespaceName name : String)
  | checkSecretAccess (identity : RequestIdentity) (tenantId secretName : String)
  | getSupportedConnectors (endpoint tenantId : String)
  | checkDataConnection (endpoint tenantId connectionId : String)
  | testCredentials (endpoint tenantId : String) (credentials : TestCredentials)
  | downloadBinary (endpoint tenantId connectionId path : String)

@[reducible] def ApiCall.Response : ApiCall → Type
  | .store operation => Except MetaStoreError operation.Value
  | .getSecret _ _ => Except SecretStoreError Secret
  | .createSecret _ _ => Except SecretStoreError Unit
  | .deleteSecret _ _ => Except SecretStoreError Unit
  | .checkSecretAccess _ _ _ => Except AuthError Unit
  | .getSupportedConnectors _ _ => Except Grpc.Status (List SupportedConnector)
  | .checkDataConnection _ _ _ => Except Grpc.Status Unit
  | .testCredentials _ _ _ => Except Grpc.Status Unit
  | .downloadBinary _ _ _ _ => Except Grpc.Status (List (Except Grpc.Status DownloadBatch))

/-- A call of a request with its answer. -/
abbrev ApiEvent := Program.Event ApiCall ApiCall.Response

abbrev ApiM := ExceptT RestErrorResponse (Program ApiCall ApiCall.Response)

def ask (call : ApiCall) : ApiM call.Response :=
  ExceptT.mk (.call call fun answer => .done (.ok answer))

/-- The operator `?`, with the conversion of the error. -/
def orFail {Error Value : Type} (onError : Error → RestErrorResponse) : Except Error Value → ApiM Value
  | .ok value => return value
  | .error error => throw (onError error)

/-- A store call that ends the request when it fails. -/
def store (operation : StoreCall) (onError : MetaStoreError → RestErrorResponse) : ApiM operation.Value := do
  orFail onError (← ask (.store operation))

/-- The configuration of the service; without an authorizer secrets are
resolved for anyone. -/
structure ApiService where
  globalTenantId : String
  authorizer : Bool

end DataConnectHub.Rest
