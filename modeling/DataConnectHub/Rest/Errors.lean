import DataConnectHub.Api.Resources
import DataConnectHub.Auth.KubeClient
import DataConnectHub.Http.Headers

/-! The errors of the REST service and the responses they become. -/
namespace DataConnectHub

def MetaStoreError.display : MetaStoreError → String
  | .connection message => s!"Connection error: {message}"
  | .resourceNotFound message => s!"Not found: {message}"
  | .invalidRequest message => s!"Invalid request: {message}"
  | .config message => s!"Config error: {message}"
  | .query message => s!"Query error: {message}"
  | .conflict message => s!"Resource conflict: {message}"
  | .serialization message => s!"Serialization error: {message}"
  | .deserialization message => s!"Deserialization error: {message}"
  | .validation message => s!"Validation error: {message}"
  | .unprocessableEntity message => s!"Unprocessable entity: {message}"

inductive SecretStoreError where
  | secretNotFound (message : String)
  | forbidden (message : String)
  | cannotCreateSecret (message : String)
  | cannotDeleteSecret (message : String)
  | cannotSetSecretLabels (message : String)
  deriving DecidableEq, Repr

def SecretStoreError.display : SecretStoreError → String
  | .secretNotFound message => s!"Secret not found: {message}"
  | .forbidden message => s!"Access denied: {message}"
  | .cannotCreateSecret message => s!"Cannot create secret: {message}"
  | .cannotDeleteSecret message => s!"Cannot delete secret: {message}"
  | .cannotSetSecretLabels message => s!"Cannot set secret labels: {message}"

namespace Rest

inductive EndpointError where
  | pathNotFound
  | headerNotFound (header : String)
  | invalidHeaderValue (header : String)

inductive ValidationError where
  | deserializationError (error : String)
  | invalidTenantId
  | invalidSecret
  | unsupportedProvider (error : String)
  | flightServiceError (error : String)
  | flightServiceNotFound (error : String)
  | missingField (field : String)
  | connectionCheckFailed (error : String)
  | credentialsCheckFailed (error : String)
  | statusUpdateFailed (error : String)
  | invalidDataConnectionType (error : String)
  | invalidDataConnectionId (error : String)
  | cannotGetDataConnectionTypes
  | connectorsAlreadyExists (error : String)

structure RestErrorResponse where
  code : String
  message : String
  status : Nat
  deriving DecidableEq, Repr

namespace RestErrorResponse

def ofMetaStore (error : MetaStoreError) : RestErrorResponse :=
  let (code, status) := match error with
    | .resourceNotFound _ => ("not_found", 404)
    | .invalidRequest _ => ("invalid_request", 400)
    | .config _ => ("config", 500)
    | .connection _ => ("connection", 503)
    | .query _ => ("query_error", 500)
    | .conflict _ => ("conflict", 409)
    | .serialization _ => ("serialization", 400)
    | .deserialization _ => ("deserialization", 400)
    | .validation _ => ("validation", 400)
    | .unprocessableEntity _ => ("unprocessable_entity", 422)
  ⟨code, error.display, status⟩

def ofSecretStore (error : SecretStoreError) : RestErrorResponse :=
  let (code, status) := match error with
    | .secretNotFound _ => ("secret_not_found", 404)
    | .forbidden _ => ("forbidden", 403)
    | .cannotCreateSecret _ => ("cannot_create_secret", 400)
    | .cannotDeleteSecret _ => ("cannot_delete_secret", 400)
    | .cannotSetSecretLabels _ => ("cannot_set_secret_labels", 400)
  ⟨code, error.display, status⟩

def ofGrpc (error : Http.Grpc.Status) : RestErrorResponse :=
  let (code, status) := match error.code with
    | .invalidArgument => ("invalid_request", 400)
    | .unauthenticated => ("unauthenticated", 401)
    | .permissionDenied => ("forbidden", 403)
    | .notFound => ("not_found", 404)
    | .unavailable => ("connection", 503)
    | .unimplemented => ("unsupported_operation", 501)
    | _ => ("flight_service_error", 500)
  ⟨code, error.message, status⟩

/-- Reasons of a rejected identity are not shown to the caller. -/
def ofAuth : AuthError → RestErrorResponse
  | .unauthenticated _ => ⟨"unauthenticated", "An authenticated identity is required", 401⟩
  | .forbidden message => ⟨"forbidden", message, 403⟩
  | _ => ⟨"auth_error", "Authorization check failed", 500⟩

def ofEndpoint : EndpointError → RestErrorResponse
  | .pathNotFound => ⟨"path_not_found", "Path not found", 404⟩
  | .headerNotFound header => ⟨"header_not_found", s!"Header '{header}' not found", 400⟩
  | .invalidHeaderValue header => ⟨"invalid_header_value", s!"Header '{header}' has an invalid value", 400⟩

def ofValidation : ValidationError → RestErrorResponse
  | .flightServiceNotFound error => ⟨"flight_service_not_found", error, 404⟩
  | .deserializationError error => ⟨"deserialization_error", error, 400⟩
  | .invalidTenantId => ⟨"invalid_tenant_id", "Invalid tenant ID", 400⟩
  | .invalidSecret => ⟨"invalid_secret", "Invalid secret", 400⟩
  | .flightServiceError error => ⟨"flight_service_error", error, 500⟩
  | .connectionCheckFailed error => ⟨"connection_check_failed", error, 502⟩
  | .unsupportedProvider error => ⟨"unsupported_provider", error, 400⟩
  | .missingField field => ⟨"missing_field", s!"Missing field: {field}", 400⟩
  | .credentialsCheckFailed error => ⟨"credentials_check_failed", error, 400⟩
  | .statusUpdateFailed error => ⟨"status_update_failed", error, 500⟩
  | .invalidDataConnectionType error => ⟨"invalid_data_connection_type", error, 400⟩
  | .invalidDataConnectionId error => ⟨"invalid_data_connection_id", error, 400⟩
  | .cannotGetDataConnectionTypes =>
    ⟨"cannot_get_data_connection_types", "Cannot get data connection types", 500⟩
  | .connectorsAlreadyExists error => ⟨"connectors_already_exists", error, 400⟩

end RestErrorResponse
end Rest
end DataConnectHub
