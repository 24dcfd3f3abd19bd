import DataConnectHub.Auth.KubeClient
import DataConnectHub.Http.Headers
import DataConnectHub.Interaction.Program

/-! The authentication layer of the Flight service and the handlers' reading of
the tenant. The layer decides on the tenant header with one rule and the
handlers read the same header with another; the results below say when the
tenant a handler acts for has been authorized. -/
namespace DataConnectHub.Flight

open Http Http.Grpc Interaction

def xTenantId : String := "x-tenant-id"
def xRemoteUser : String := "x-remote-user"
def xRemoteGroups : String := "x-remote-groups"

def healthPathPrefix : String := "/grpc.health.v1.Health/"
def doActionPath : String := "/arrow.flight.protocol.FlightService/DoAction"
def bearerPrefix : String := "Bearer "

structure Request (Body : Type) where
  path : String
  headers : HeaderMap
  body : Body

def authErrorToStatus : AuthError → Status
  | .unauthenticated reason => ⟨.unauthenticated, reason⟩
  | .forbidden reason => ⟨.permissionDenied, reason⟩
  | .tokenReviewError _ => ⟨.internal, "token verification failed"⟩
  | .accessReviewError _ => ⟨.internal, "authorization check failed"⟩
  | .internal reason => ⟨.internal, reason⟩

variable {Body Answer : Type}

def extractBearerToken (request : Request Body) : Option String :=
  (request.headers.get "authorization").bind fun value =>
    value.toStr.bind fun text =>
      (text.toList.dropPrefix? bearerPrefix.toList).map String.ofList

/-- The tenant as the layer reads it: an empty header counts as none. -/
def requestTenant (request : Request Body) : Option String :=
  ((request.headers.get xTenantId).bind HeaderValue.toStr).filter fun value => !value.isEmpty

/-- What the layer calls: the authentication service and the inner service. -/
inductive AuthCall (Body : Type) where
  | authenticate (token : String)
  | authorize (info : AuthInfo) (tenantId verb : String)
  | inner (request : Request Body)

@[reducible] def AuthCall.Response (Answer : Type) : AuthCall Body → Type
  | .authenticate _ => Except AuthError AuthInfo
  | .authorize _ _ _ => Except AuthError Unit
  | .inner _ => Answer

abbrev AuthProgram (Body Answer : Type) :=
  Program (AuthCall Body) (AuthCall.Response Answer)

/-- Set the header if the text can be a header value. -/
def setHeader (fromStr : String → Option HeaderValue) (name text : String) (headers : HeaderMap) : HeaderMap :=
  match fromStr text with
  | some value => headers.insert name value
  | none => headers

def withIdentity (fromStr : String → Option HeaderValue) (info : AuthInfo) (request : Request Body) : Request Body :=
  let headers := setHeader fromStr xRemoteUser info.username request.headers
  { request with headers := setHeader fromStr xRemoteGroups (String.intercalate "," info.groups) headers }

section Middleware

variable (fromStr : String → Option HeaderValue) (discoveryServiceAccount : String)

def forward (request : Request Body) : AuthProgram Body Answer (Except Status Answer) :=
  .call (.inner request) fun answer => .done (.ok answer)

/-- The part of the layer after the identity is known. -/
def authorizeTenant (request : Request Body) (info : AuthInfo) : AuthProgram Body Answer (Except Status Answer) :=
  let tenantId := requestTenant request
  if tenantId.isNone && (request.path != doActionPath || info.username != discoveryServiceAccount) then
    .done (.error ⟨.permissionDenied, "x-tenant-id header is required"⟩)
  else
    match tenantId with
    | none => forward (withIdentity fromStr info request)
    | some tenantId =>
      .call (.authorize info tenantId "get") fun
        | .error error => .done (.error (authErrorToStatus error))
        | .ok () => forward (withIdentity fromStr info request)

/-- One request through the layer. An error is a response made of the status;
anything else is the response of the inner service. -/
def call (request : Request Body) : AuthProgram Body Answer (Except Status Answer) :=
  if healthPathPrefix.toList.isPrefixOf request.path.toList then forward request
  else
    match extractBearerToken request with
    | none => .done (.error ⟨.unauthenticated, "invalid or missing bearer token"⟩)
    | some token =>
      .call (.authenticate token) fun
        | .error error => .done (.error (authErrorToStatus error))
        | .ok info => authorizeTenant fromStr discoveryServiceAccount request info

end Middleware

/-- The tenant as a handler reads it from the request it receives. -/
def QueryContext.tenantId (metadata : HeaderMap) : Except Status String :=
  match metadata.get xTenantId with
  | none => .error ⟨.invalidArgument, s!"{xTenantId} header is required"⟩
  | some value =>
    match value.toStr with
    | none => .error ⟨.invalidArgument, s!"{xTenantId} header must be valid ASCII"⟩
    | some tenantId => .ok tenantId

theorem QueryContext.tenantId_eq_ok {metadata : HeaderMap} {tenantId : String} :
    QueryContext.tenantId metadata = .ok tenantId ↔
      (metadata.get xTenantId).bind HeaderValue.toStr = some tenantId := by
  unfold QueryContext.tenantId
  cases metadata.get xTenantId with
  | none => simp
  | some value => cases hText : value.toStr <;> simp [hText]

variable (fromStr : String → Option HeaderValue)

theorem setHeader_get {name other : String} (text : String) (headers : HeaderMap) (h : other ≠ name) :
    (setHeader fromStr name text headers).get other = headers.get other := by
  unfold setHeader
  cases fromStr text with
  | none => rfl
  | some value => exact HeaderMap.get_insert_of_ne value h

/-- The layer's own headers do not touch the tenant header. -/
theorem withIdentity_tenant (info : AuthInfo) (request : Request Body) :
    (withIdentity fromStr info request).headers.get xTenantId = request.headers.get xTenantId := by
  simp only [withIdentity]
  rw [setHeader_get _ _ _ (by decide), setHeader_get _ _ _ (by decide)]

/-- A tenant a handler would accept was seen by the layer, unless it is empty. -/
theorem requestTenant_eq {request : Request Body} {tenantId : String}
    (h : (request.headers.get xTenantId).bind HeaderValue.toStr = some tenantId) :
    requestTenant request = if tenantId.isEmpty then none else some tenantId := by
  unfold requestTenant
  rw [h]
  cases hEmpty : tenantId.isEmpty <;> simp [Option.filter, hEmpty]

section Authorization

variable (fromStr : String → Option HeaderValue) (discoveryServiceAccount : String)
  (environment : Program.Environment (AuthCall Body) (AuthCall.Response Answer)) (request : Request Body)

/-- Whatever tenant a handler reads from the request it receives, the identity
of the bearer token was authorized for it beforehand. -/
def ActsForAuthorizedTenant : Prop :=
  ∀ before forwarded answer after, ((call fromStr discoveryServiceAccount request).run environment []).2 =
      before ++ ⟨.inner forwarded, answer⟩ :: after →
    ∀ tenantId, QueryContext.tenantId forwarded.headers = .ok tenantId →
      ∃ token info, extractBearerToken request = some token ∧
        ⟨.authenticate token, .ok info⟩ ∈ before ∧ ⟨.authorize info tenantId "get", .ok ()⟩ ∈ before

/-- The discovery account calls an action and sends an empty tenant header. -/
def EmptyTenantDiscovery : Prop :=
  request.path = doActionPath ∧ request.headers.get xTenantId = some [] ∧
    ∃ token info, extractBearerToken request = some token ∧
      environment [] (.authenticate token) = .ok info ∧ info.username = discoveryServiceAccount

/-- What the layer owes each request it forwards. -/
def TenantAuthorized (past : List (Program.Event (AuthCall Body) (AuthCall.Response Answer))) : AuthCall Body → Prop
  | .inner forwarded => ∀ tenantId, QueryContext.tenantId forwarded.headers = .ok tenantId →
      ∃ token info, extractBearerToken request = some token ∧
        ⟨.authenticate token, .ok info⟩ ∈ past ∧ ⟨.authorize info tenantId "get", .ok ()⟩ ∈ past
  | _ => True

variable {fromStr discoveryServiceAccount environment request}

theorem actsForAuthorizedTenant_iff : ActsForAuthorizedTenant fromStr discoveryServiceAccount environment request ↔
      (call fromStr discoveryServiceAccount request).Along environment (TenantAuthorized request) [] := by
  rw [Program.along_iff]
  constructor
  · rintro h before ⟨issued, answer⟩ after hTrace -
    cases issued with
    | authenticate token | authorize info tenantId verb => trivial
    | inner forwarded => exact h before forwarded answer after hTrace
  · intro h before forwarded answer after hTrace
    exact h before ⟨.inner forwarded, answer⟩ after hTrace (Nat.zero_le _)

/-- An empty tenant text is an empty header. -/
theorem header_eq_nil {headers : HeaderMap}
    (h : (headers.get xTenantId).bind HeaderValue.toStr = some "") : headers.get xTenantId = some [] := by
  obtain ⟨value, hValue, hText⟩ := Option.bind_eq_some_iff.mp h
  rw [hValue, HeaderValue.toStr_eq_some_empty.mp hText]

theorem authorizeTenant_along {token : String} {info : AuthInfo} (hToken : extractBearerToken request = some token)
    (hInfo : environment [] (.authenticate token) = .ok info)
    (hTenant : ¬EmptyTenantDiscovery discoveryServiceAccount environment request) :
    (authorizeTenant fromStr discoveryServiceAccount request info).Along environment (TenantAuthorized request)
      [⟨.authenticate token, .ok info⟩] := by
  unfold authorizeTenant
  cases hRead : requestTenant request with
  | none =>
    by_cases hReject : (request.path != doActionPath || info.username != discoveryServiceAccount) = true
    · simp only [Option.isNone_none, Bool.true_and, hReject, if_true]
      trivial
    · simp only [Option.isNone_none, Bool.true_and, hReject]
      refine ⟨fun tenantId hOk => ?_, trivial⟩
      rw [QueryContext.tenantId_eq_ok, withIdentity_tenant] at hOk
      have hSeen := requestTenant_eq hOk
      by_cases hEmpty : tenantId.isEmpty = true
      · obtain rfl : tenantId = "" := by simpa using hEmpty
        simp only [Bool.or_eq_true, bne_iff_ne, not_or, not_not] at hReject
        exact absurd ⟨hReject.1, header_eq_nil hOk, token, info, hToken, hInfo, hReject.2⟩ hTenant
      · rw [if_neg hEmpty, hRead] at hSeen
        cases hSeen
  | some seen =>
    refine ⟨trivial, ?_⟩
    cases environment _ (.authorize info seen "get") with
    | error error => trivial
    | ok done =>
      refine ⟨fun tenantId hOk => ⟨token, info, hToken, by simp, ?_⟩, trivial⟩
      rw [QueryContext.tenantId_eq_ok, withIdentity_tenant] at hOk
      have hSeen := requestTenant_eq hOk
      by_cases hEmpty : tenantId.isEmpty = true
      · rw [if_pos hEmpty, hRead] at hSeen
        cases hSeen
      · rw [if_neg hEmpty, hRead] at hSeen
        rw [Option.some.inj hSeen]
        simp

theorem not_along_of_emptyTenantDiscovery (h : EmptyTenantDiscovery discoveryServiceAccount environment request) :
    ¬(call fromStr discoveryServiceAccount request).Along environment (TenantAuthorized request) [] := by
  obtain ⟨hPath, hHeader, token, info, hToken, hInfo, hAccount⟩ := h
  have hHealth : healthPathPrefix.toList.isPrefixOf request.path.toList = false := by
    rw [hPath]
    decide
  have hRead : requestTenant request = none := by simp [requestTenant, hHeader, HeaderValue.toStr]
  rw [call, hHealth, hToken]
  rintro ⟨-, hTenantStep⟩
  rw [hInfo] at hTenantStep
  have hForward : authorizeTenant fromStr discoveryServiceAccount request info =
      (forward (withIdentity fromStr info request) : AuthProgram Body Answer _) := by
    simp [authorizeTenant, hRead, hPath, hAccount]
  change (authorizeTenant fromStr discoveryServiceAccount request info).Along _ _ _ at hTenantStep
  rw [hForward] at hTenantStep
  obtain ⟨_, _, -, -, hCalled⟩ := hTenantStep.1 "" (by
    rw [QueryContext.tenantId_eq_ok, withIdentity_tenant, hHeader]
    rfl)
  simp at hCalled

end Authorization

/-- A request outside the health service reaches a handler only with an
authorized tenant, if and only if it is not an action of the discovery account
with an empty tenant header. -/
theorem tenant_authorized_iff (fromStr : String → Option HeaderValue) (discoveryServiceAccount : String)
    (environment : Program.Environment (AuthCall Body) (AuthCall.Response Answer)) (request : Request Body)
    (hPath : healthPathPrefix.toList.isPrefixOf request.path.toList = false) :
    ActsForAuthorizedTenant fromStr discoveryServiceAccount environment request ↔
      ¬EmptyTenantDiscovery discoveryServiceAccount environment request := by
  rw [actsForAuthorizedTenant_iff]
  refine ⟨fun hActs hEmpty => not_along_of_emptyTenantDiscovery hEmpty hActs, fun hTenant => ?_⟩
  rw [call, hPath]
  cases hToken : extractBearerToken request with
  | none => trivial
  | some token =>
    refine ⟨trivial, ?_⟩
    cases hInfo : environment [] (.authenticate token) with
    | error error => trivial
    | ok info => exact authorizeTenant_along hToken hInfo hTenant

/-- An action request with the given tenant header. -/
def sampleRequest (tenantId : String) : Request Unit :=
  { path := doActionPath
    headers := [("authorization", asciiValue "Bearer discovery-token"), (xTenantId, asciiValue tenantId)]
    body := () }

/-- Everyone is the discovery account, and no one may access any tenant. -/
def denyingEnvironment : Program.Environment (AuthCall Unit) (AuthCall.Response Unit)
  | _, .authenticate _ => .ok ⟨"system:serviceaccount:dch:discovery", []⟩
  | _, .authorize _ _ _ => .error (.forbidden "access denied")
  | _, .inner _ => ()

/-- Everyone is another account, and may access any tenant. -/
def allowingEnvironment : Program.Environment (AuthCall Unit) (AuthCall.Response Unit)
  | _, .authenticate _ => .ok ⟨"system:serviceaccount:dch:notebook", []⟩
  | _, .authorize _ _ _ => .ok ()
  | _, .inner _ => ()

theorem tenant_authorized_iff_sample :
    let fromStr := fun text => some (asciiValue text)
    let record := ((call fromStr "system:serviceaccount:dch:discovery" (sampleRequest "team-a")).run
      allowingEnvironment []).2
    (∃ event ∈ record, ∃ forwarded, event.1 = .inner forwarded) ∧
      ActsForAuthorizedTenant fromStr "system:serviceaccount:dch:discovery" allowingEnvironment
        (sampleRequest "team-a") := by
  refine ⟨⟨_, .tail _ (.tail _ (.head _)), _, rfl⟩, (tenant_authorized_iff _ _ _ _ (by decide)).mpr fun h => ?_⟩
  exact absurd h.2.1 (by decide)

/-- With an empty tenant header the discovery account is let through, and the
handlers act for the empty tenant although nobody authorized it. -/
theorem empty_tenant_unauthorized : healthPathPrefix.toList.isPrefixOf (sampleRequest "").path.toList = false ∧
      QueryContext.tenantId (sampleRequest "").headers = .ok "" ∧
      ¬ActsForAuthorizedTenant (fun text => some (asciiValue text))
        "system:serviceaccount:dch:discovery" denyingEnvironment (sampleRequest "") := by
  refine ⟨by decide, rfl, fun hActs => ?_⟩
  have hEmpty : EmptyTenantDiscovery "system:serviceaccount:dch:discovery" denyingEnvironment
      (sampleRequest "") := ⟨rfl, rfl, _, _, rfl, rfl, rfl⟩
  rw [actsForAuthorizedTenant_iff] at hActs
  exact absurd hActs (not_along_of_emptyTenantDiscovery hEmpty)

end DataConnectHub.Flight
