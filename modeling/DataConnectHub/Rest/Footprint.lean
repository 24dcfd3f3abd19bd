import DataConnectHub.Rest.Endpoints

/-! Which calls an endpoint can issue. Most endpoints neither read a secret nor
write anything that the status of a type is computed from. -/
namespace DataConnectHub.Rest

open Serde Interaction Program

/-- Neither a read of a secret nor a write of connectors. -/
def ApiCall.Plain : ApiCall → Prop
  | .getSecret _ _ => False
  | .store (.createFlightService _) => False
  | .store (.updateFlightService _ _) => False
  | _ => True

def ApiCall.ReadsNoSecret : ApiCall → Prop
  | .getSecret _ _ => False
  | _ => True

theorem ApiCall.Plain.readsNoSecret {call : ApiCall} (h : call.Plain) : call.ReadsNoSecret := by
  cases call with
  | getSecret namespaceName name => exact h.elim
  | _ => trivial

/-- Neither registers a Flight service nor changes one. -/
def ApiCall.KeepsConnectors : ApiCall → Prop
  | .store (.createFlightService _) => False
  | .store (.updateFlightService _ _) => False
  | _ => True

theorem ApiCall.Plain.keepsConnectors {call : ApiCall} (h : call.Plain) : call.KeepsConnectors := by
  cases call with
  | store operation => cases operation <;> trivial
  | _ => trivial

/-- Leaves alone the Flight services, the types and the statuses of types,
except to delete a type. -/
def ApiCall.Quiet : ApiCall → Prop
  | .store (.createFlightService _) => False
  | .store (.updateFlightService _ _) => False
  | .store (.deleteFlightService _) => False
  | .store (.createDataConnectionType _ _) => False
  | .store (.updateDataConnectionType _ _ _) => False
  | .store (.updateDataConnectionTypeStatus _ _) => False
  | _ => True

theorem ApiCall.Quiet.keepsConnectors {call : ApiCall} (h : call.Quiet) : call.KeepsConnectors := by
  cases call with
  | store operation => cases operation <;> trivial
  | _ => trivial

def ApiCall.Tame (call : ApiCall) : Prop := call.Plain ∧ call.Quiet

section Rules

variable {Value Result Error : Type} {allowed : ApiCall → Prop}

/-- The code issues only calls of this kind. -/
abbrev Only (allowed : ApiCall → Prop) (code : ApiM Result) : Prop :=
  Program.Issues allowed (ExceptT.run code)

theorem Only.imp {wider : ApiCall → Prop} {code : ApiM Result} (h : Only allowed code)
    (hWider : ∀ call, allowed call → wider call) : Only wider code :=
  Issues.imp h hWider

theorem only_pure (result : Result) : Only allowed (pure result : ApiM Result) := trivial

theorem only_throw (error : RestErrorResponse) : Only allowed (throw error : ApiM Result) := trivial

theorem only_bind {first : ApiM Value} {rest : Value → ApiM Result} (hFirst : Only allowed first)
    (hRest : ∀ value, Only allowed (rest value)) : Only allowed (first >>= rest) := by
  refine Issues.bind hFirst fun outcome => ?_
  cases outcome with
  | ok value => exact hRest value
  | error error => trivial

theorem only_ask {call : ApiCall} (h : allowed call) : Only allowed (ask call) :=
  ⟨h, fun _ => trivial⟩

theorem only_orFail (onError : Error → RestErrorResponse) (outcome : Except Error Value) :
    Only allowed (orFail onError outcome) := by
  cases outcome <;> trivial

variable {operation : StoreCall}

theorem only_store (h : allowed (.store operation)) (onError : MetaStoreError → RestErrorResponse) :
    Only allowed (store operation onError) :=
  only_bind (only_ask h) fun outcome => only_orFail onError outcome

/-- A store call and an answer made from its result. -/
theorem only_store_map (h : allowed (.store operation)) (onError : MetaStoreError → RestErrorResponse)
    (answer : operation.Value → Result) :
    Only allowed (do return answer (← store operation onError)) :=
  only_bind (only_store h onError) fun value => only_pure (answer value)

end Rules

variable (tenantId : String) (service : ApiService) (texts : LibraryTexts) (dataConnectionId : String)
  (ctx : ApiContext) (id : String)

theorem setDataConnectionStatus_tame (state : DataConnectionState) (message : Option String) :
    Only ApiCall.Tame (setDataConnectionStatus tenantId dataConnectionId state message) :=
  only_bind (only_store ⟨trivial, trivial⟩ _) fun _ => only_pure ()

theorem auditCredentials_tame (dataConnection : DataConnectionResource) (type : DataConnectionTypeResource)
    (keys : StringMap String) :
    Only ApiCall.Tame (auditCredentials tenantId dataConnectionId dataConnection type keys) := by
  unfold auditCredentials
  cases type.resource.checkCredentialsSchema keys with
  | error error => exact only_bind (setDataConnectionStatus_tame ..) fun _ => only_throw _
  | ok _ =>
    refine only_bind (only_store ⟨trivial, trivial⟩ _) fun flight =>
      only_bind (only_ask ⟨trivial, trivial⟩) fun outcome => ?_
    cases outcome with
    | ok _ => exact setDataConnectionStatus_tame ..
    | error _ => exact only_bind (setDataConnectionStatus_tame ..) fun _ => only_throw _

theorem updateTypes_plain (flights : List FlightServiceResource) (types : List DataConnectionTypeResource) :
    Only ApiCall.Plain (updateTypes flights types) := by
  induction types with
  | nil => exact only_pure ()
  | cons type rest ih => exact only_bind (only_store trivial _) fun _ => ih

theorem auditDataConnectionTypes_plain : Only ApiCall.Plain auditDataConnectionTypes :=
  only_bind (only_store trivial _) fun flights =>
    only_bind (only_store trivial _) fun types => updateTypes_plain flights.items types.items

/-- The audit of the types and an answer that does not depend on it. -/
theorem audited_plain {Result : Type} (result : Result) :
    Only ApiCall.Plain (do auditDataConnectionTypes; return result) :=
  only_bind auditDataConnectionTypes_plain fun _ => only_pure result

theorem flightServiceByConnection_tame : Only ApiCall.Tame (flightServiceByConnection tenantId dataConnectionId) :=
  only_bind (only_store ⟨trivial, trivial⟩ _) fun _ =>
    only_bind (only_store ⟨trivial, trivial⟩ _) fun _ => only_store ⟨trivial, trivial⟩ _

theorem createConnectionWithCreds_tame (creds : DataConnectionWithCreds) :
    Only ApiCall.Tame (createConnectionWithCreds tenantId creds) := by
  refine only_bind (only_store ⟨trivial, trivial⟩ _) fun type => only_bind (only_orFail _ _) fun _ => ?_
  refine only_bind (only_ask ⟨trivial, trivial⟩) fun made => only_bind (only_orFail _ made) fun _ => ?_
  refine only_bind (only_ask ⟨trivial, trivial⟩) fun outcome => ?_
  cases outcome with
  | ok connection => exact only_pure _
  | error error => exact only_bind (only_ask ⟨trivial, trivial⟩) fun _ => only_throw _

theorem createFlightService_readsNoSecret (flight : FlightService) :
    Only ApiCall.ReadsNoSecret (createFlightService service texts flight) := by
  refine only_bind (only_ask trivial) fun reported => only_bind (only_orFail _ reported) fun connectors => ?_
  refine only_bind (only_store trivial _) fun flights => ?_
  dsimp only
  split
  · exact only_bind (only_store trivial _) fun _ =>
      (audited_plain _).imp fun _ => ApiCall.Plain.readsNoSecret
  · exact only_throw _

theorem patchFlightService_readsNoSecret (patch : Json) :
    Only ApiCall.ReadsNoSecret (patchFlightService texts id patch) :=
  only_bind (only_store trivial _) fun _ =>
    (audited_plain _).imp fun _ => ApiCall.Plain.readsNoSecret

theorem exportConnection_quiet (secretName : String) :
    Only ApiCall.Quiet (exportConnection service ctx id secretName) := by
  refine only_bind (only_store trivial _) fun connection => ?_
  split
  · exact only_throw _
  · refine only_bind ?_ fun _ => only_bind (only_ask trivial) fun secret =>
      only_bind (only_orFail _ secret) fun _ => only_bind (only_ask trivial) fun made =>
        only_bind (only_orFail _ made) fun _ => only_pure _
    unfold authorizeSecretRef
    split
    · cases ctx.identity with
      | none => exact only_throw _
      | some identity => exact only_bind (only_ask trivial) fun verdict => only_orFail _ verdict
    · exact only_pure ()

theorem checkExistentConnection_quiet : Only ApiCall.Quiet (checkExistentConnection ctx id) := by
  refine only_bind (only_bind (only_store trivial _) fun connection =>
    only_bind (only_store trivial _) fun type => only_bind (only_ask trivial) fun secret => ?_)
    fun _ => only_pure _
  cases secret with
  | ok secret => exact (auditCredentials_tame ..).imp fun _ => And.right
  | error error =>
    exact only_bind ((setDataConnectionStatus_tame ..).imp fun _ => And.right) fun _ => only_throw _

/-- The endpoints that neither read a secret nor audit the types. -/
def DataEndpoint.ordinary : DataEndpoint → Bool
  | .exportConnection _ _ => false
  | .checkExistentConnection _ => false
  | .createConnectionType _ => false
  | .patchConnectionType _ _ => false
  | .createFlightService _ => false
  | .deleteFlightService _ => false
  | .patchFlightService _ _ => false
  | _ => true

variable {endpoint : DataEndpoint}

theorem DataEndpoint.handle_tame (h : endpoint.ordinary = true) :
    Only ApiCall.Tame (endpoint.handle service texts ctx) := by
  cases endpoint with
  | exportConnection | checkExistentConnection | createConnectionType | patchConnectionType
  | createFlightService | deleteFlightService | patchFlightService => cases h
  | listConnectionTypes | getConnectionType id | deleteConnectionType id | listConnections | getConnection id
  | patchConnection id patch | deleteConnection id => exact only_store_map ⟨trivial, trivial⟩ _ _
  | createConnection body =>
    cases body with
    | dataConnectionWithInlineCreds creds => exact createConnectionWithCreds_tame _ creds
    | dataConnectionWithSecretRef connection => exact only_store_map ⟨trivial, trivial⟩ _ _
  | getBinaryData id path =>
    exact only_bind (flightServiceByConnection_tame _ _) fun _ =>
      only_bind (only_ask ⟨trivial, trivial⟩) fun outcome =>
        only_bind (only_orFail _ outcome) fun _ => only_pure _
  | testCredentials body =>
    exact only_bind (only_store ⟨trivial, trivial⟩ _) fun _ =>
      only_bind (only_store ⟨trivial, trivial⟩ _) fun _ =>
        only_bind (only_ask ⟨trivial, trivial⟩) fun outcome =>
          only_bind (only_orFail _ outcome) fun _ => only_pure _
  | notFound => exact only_throw _

/-- The endpoints with a call that is not plain. -/
def DataEndpoint.special : DataEndpoint → Bool
  | .exportConnection _ _ => true
  | .checkExistentConnection _ => true
  | .createFlightService _ => true
  | .patchFlightService _ _ => true
  | _ => false

theorem DataEndpoint.handle_plain (h : endpoint.special = false) :
    Only ApiCall.Plain (endpoint.handle service texts ctx) := by
  cases endpoint with
  | exportConnection | checkExistentConnection | createFlightService | patchFlightService => cases h
  | createConnectionType type =>
    exact only_bind (only_orFail _ _) fun _ => only_bind (only_store trivial _) fun _ => audited_plain _
  | patchConnectionType id patch
  | deleteFlightService id => exact only_bind (only_store trivial _) fun _ => audited_plain _
  | _ => exact (handle_tame service texts ctx rfl).imp fun _ => And.left

/-- The call is for this tenant, or for what the tenants share: the types as a whole, their
statuses and the Flight services. -/
def StoreCall.Within (tenantId : String) : StoreCall → Prop
  | .getDataConnections owner | .getDataConnection owner _ | .getDataConnectionTypes owner
  | .getDataConnectionType owner _ | .createDataConnection owner _ | .updateDataConnection owner ..
  | .updateDataConnectionStatus owner .. | .deleteDataConnection owner _ | .createDataConnectionType owner _
  | .updateDataConnectionType owner .. | .deleteDataConnectionType owner _ => owner = tenantId
  | _ => True

def ApiCall.Within (tenantId : String) : ApiCall → Prop
  | .store operation => operation.Within tenantId
  | .createSecret secret _ => secret.namespaceName = tenantId
  | .getSecret owner _ | .deleteSecret owner _ | .checkSecretAccess _ owner _ | .checkDataConnection _ owner _
  | .testCredentials _ owner _ | .downloadBinary _ owner .. => owner = tenantId
  | .getSupportedConnectors .. => True

theorem auditDataConnectionTypes_within : Only (ApiCall.Within tenantId) auditDataConnectionTypes := by
  refine only_bind (only_store trivial _) fun flights => only_bind (only_store trivial _) fun types => ?_
  induction types.items with
  | nil => exact only_pure ()
  | cons type rest ih => exact only_bind (only_store trivial _) fun _ => ih

theorem DataEndpoint.handle_within (endpoint : DataEndpoint) :
    Only (ApiCall.Within ctx.tenantId) (endpoint.handle service texts ctx) := by
  have hAudit := auditDataConnectionTypes_within ctx.tenantId
  cases endpoint with
  | listConnectionTypes | getConnectionType | deleteConnectionType | listConnections | getConnection
  | patchConnection | deleteConnection => exact only_store_map (by trivial) _ _
  | patchConnectionType | deleteFlightService | patchFlightService =>
    exact only_bind (only_store (by trivial) _) fun _ => only_bind hAudit fun _ => only_pure _
  | notFound => exact only_throw _
  | _ =>
    simp only [handle, Rest.createConnectionType, Rest.createConnection, createConnectionWithCreds,
      Rest.exportConnection, exportSecret, authorizeSecretRef, Rest.checkExistentConnection, auditDataConnection,
      auditCredentials, setDataConnectionStatus, Rest.getBinaryData, flightServiceByConnection,
      Rest.testCredentials, Rest.createFlightService]
    -- One rule for each form of code. What is left of a call is whose it is.
    repeat' first
      | with_reducible first
        | assumption | exact only_pure _ | exact only_throw _ | exact only_orFail _ _
        | refine only_ask ?_ | refine only_store ?_ _ | refine only_bind ?_ fun _ => ?_
      | trivial | split

end DataConnectHub.Rest
