import DataConnectHub.Sdk.Client

/-! The methods of the client that list, get, create, update and delete: the request
each of them makes, and how it reads the response. -/
namespace DataConnectHub.Sdk

open PyStd

/-- How the JSON of a body fails to decode: with the `JSONDecodeError` of the language,
or with another exception. -/
inductive JsonFailure where
  | decodeError
  | other (exception : PyException)

/-- What is used of the libraries to read a body: the JSON of a response, and the
fields of the models. A payload that does not fit a model gives the text of the
`ValidationError`. -/
structure Decoders (Connection ConnectionType : Type) where
  json : Response → Except JsonFailure PyValue
  connection : PyValue → Except String Connection
  connectionType : PyValue → Except String ConnectionType

section Payloads

/-- `_unwrap_list`. -/
def unwrapList : PyValue → Except Raised (List PyValue)
  | .list items => .ok items
  | .dict members =>
    match members.lookup (str "items") with
    | some (.list items) => .ok items
    | some items =>
      .error (.dch (.response ("Unexpected response format: \x7b\"items\"\x7d must be a list, got " ++ items.typeName)))
    | none =>
      .error (.dch (.response "Unexpected response format: expected list or \x7b\"items\": [...]\x7d, got dict"))
  | data =>
    .error (.dch (.response
      ("Unexpected response format: expected list or \x7b\"items\": [...]\x7d, got " ++ data.typeName)))

/-- `_flatten_resource` of both models. -/
def flattenResource : PyValue → Except PyException PyValue
  | .dict members =>
    match members.lookup (str "metadata"), members.lookup (str "resource") with
    | some metadata, some resource => do
        let metadata ← metadata.unpack
        let resource ← resource.unpack
        let flat := resource.foldl (fun flat member => PyValue.setItem member.1 member.2 flat) metadata
        match members.lookup (str "status") with
        | some status => return .dict (PyValue.setItem (str "status") status flat)
        | none => return .dict flat
    | _, _ => return .dict members
  | data => return data

/-- `_validate`, for the model of this name. -/
def validate {Model : Type} (name : String) (fields : PyValue → Except String Model) (data : PyValue) :
    Except Raised Model :=
  match flattenResource data with
  | .error exception =>
    if exception.className = "TypeError" then
      let text := exception.message
      .error (.dch (.response s!"Server returned malformed {name} payload: {text}"))
    else .error (.foreign exception)
  | .ok flat =>
    match fields flat with
    | .error text => .error (.dch (.response s!"Server returned an unexpected {name} payload: {text}"))
    | .ok model => .ok model

variable {Connection ConnectionType : Type} (platform : Platform) (decoders : Decoders Connection ConnectionType)

/-- `_parse_json`. -/
def parseJson (response : Response) : Except Raised PyValue :=
  match decoders.json response with
  | .ok value => .ok value
  | .error (.other exception) => .error (.foreign exception)
  | .error .decodeError =>
    match platform.text response with
    | .error exception => .error (.foreign exception)
    | .ok text =>
      let statusCode := response.statusCode
      let text := String.ofList (text.toList.take 200)
      .error (.dch (.response s!"Unexpected non-JSON response (status {statusCode}): {text}"))

def validateConnection : PyValue → Except Raised Connection := validate "DataConnection" decoders.connection

def validateConnectionType : PyValue → Except Raised ConnectionType :=
  validate "ConnectionType" decoders.connectionType

end Payloads

/-- A method and its arguments. A request of the caller is given as what `model_dump`
makes of it: without the fields that are `None`, and for a connection type to update,
the fields that were set. -/
inductive Operation where
  | listConnections
  | getConnection (connectionId : PyStr)
  | createConnection (request : List (PyStr × PyValue))
  | updateConnection (connectionId : PyStr) (request : List (PyStr × PyValue))
  | deleteConnection (connectionId : PyStr)
  | listConnectionTypes
  | getConnectionType (typeId : PyStr)
  | createConnectionType (request : List (PyStr × PyValue))
  | updateConnectionType (typeId : PyStr) (request : List (PyStr × PyValue))
  | deleteConnectionType (typeId : PyStr)

/-- What a method returns. -/
inductive Reply (Connection ConnectionType : Type) where
  | connections (items : List Connection)
  | connection (item : Connection)
  | connectionTypes (items : List ConnectionType)
  | connectionType (item : ConnectionType)
  | nothing
  deriving DecidableEq

namespace Operation

def method : Operation → Method
  | listConnections | getConnection _ | listConnectionTypes | getConnectionType _ => .get
  | createConnection _ | createConnectionType _ => .post
  | updateConnection _ _ | updateConnectionType _ _ => .patch
  | deleteConnection _ | deleteConnectionType _ => .delete

def path : Operation → Except Raised String
  | listConnections | createConnection _ => .ok connectionsEndpoint
  | listConnectionTypes | createConnectionType _ => .ok connectionTypesEndpoint
  | getConnection connectionId => (ResourceCall.getConnection connectionId).path
  | updateConnection connectionId _ => (ResourceCall.updateConnection connectionId).path
  | deleteConnection connectionId => (ResourceCall.deleteConnection connectionId).path
  | getConnectionType typeId => (ResourceCall.getConnectionType typeId).path
  | updateConnectionType typeId _ => (ResourceCall.updateConnectionType typeId).path
  | deleteConnectionType typeId => (ResourceCall.deleteConnectionType typeId).path

/-- `None` is sent only for the fields that it clears. -/
def isPatched : PyStr × PyValue → Bool
  | (field, .null) => decide (field ∈ [str "description", str "label", str "tags"])
  | _ => true

def json : Operation → Option PyValue
  | createConnection request | updateConnection _ request | createConnectionType request => some (.dict request)
  | updateConnectionType _ request => some (.dict (request.filter isPatched))
  | _ => none

variable {Connection ConnectionType : Type} (platform : Platform) (decoders : Decoders Connection ConnectionType)

/-- How the method reads a successful response. -/
def reply (response : Response) : Operation → Except Raised (Reply Connection ConnectionType)
  | listConnections => do
      let items ← unwrapList (← parseJson platform decoders response)
      return .connections (← items.mapM (validateConnection decoders))
  | listConnectionTypes => do
      let items ← unwrapList (← parseJson platform decoders response)
      return .connectionTypes (← items.mapM (validateConnectionType decoders))
  | getConnection _ | createConnection _ | updateConnection _ _ => do
      return .connection (← validateConnection decoders (← parseJson platform decoders response))
  | getConnectionType _ | createConnectionType _ | updateConnectionType _ _ => do
      return .connectionType (← validateConnectionType decoders (← parseJson platform decoders response))
  | deleteConnection _ | deleteConnectionType _ => return .nothing

def query (operation : Operation) (path : String) : Query where
  method := operation.method
  path := path
  json := operation.json
  params := []

end Operation

variable {Connection ConnectionType : Type}

/-- The method as a whole. -/
def RestClient.perform (client : RestClient) (platform : Platform) (decoders : Decoders Connection ConnectionType)
    (operation : Operation) : Py (Reply Connection ConnectionType) := do
  let path ← Py.ofExcept operation.path
  let response ← client.request platform (operation.query path)
  Py.ofExcept (operation.reply platform decoders response)

end DataConnectHub.Sdk
