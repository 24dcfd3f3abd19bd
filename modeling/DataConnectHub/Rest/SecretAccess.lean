import DataConnectHub.MetaStore.Runs
import DataConnectHub.Rest.Footprint

/-! Who the service reads secrets for. It resolves them under its own account,
so the caller has to be checked first. The export endpoint does so; the
readiness check reads the secret of a connection for anyone. -/
namespace DataConnectHub.Rest

open Interaction Program

section Guard

variable (service : ApiService) (texts : LibraryTexts)
  (environment : Environment ApiCall ApiCall.Response) (request : Request)

/-- Each secret that is read lies in the tenant of the request, and the
authorizer has let the identity of the request read it. -/
def SecretsGuarded : Prop :=
  ∀ before namespaceName name answer after, ((ExceptT.run (handle service texts request)).run environment []).2 =
      before ++ ⟨.getSecret namespaceName name, answer⟩ :: after →
    ∃ ctx identity, validateHeaders request.headers = .ok ctx ∧ ctx.identity = some identity ∧
      namespaceName = ctx.tenantId ∧ ⟨.checkSecretAccess identity ctx.tenantId name, .ok ()⟩ ∈ before

/-- A readiness check of a connection that the store has, with its type. -/
def ChecksStoredConnection : Prop :=
  ∃ ctx id connection type, validateHeaders request.headers = .ok ctx ∧
    request.endpoint = .data (.checkExistentConnection id) ∧
    environment [] (.store (.getDataConnection ctx.tenantId id)) = .ok connection ∧
    environment [⟨.store (.getDataConnection ctx.tenantId id), .ok connection⟩]
      (.store (.getDataConnectionType ctx.tenantId connection.resource.dataConnectionTypeId)) = .ok type

/-- What the service owes each read of a secret. -/
def Guarded (past : List ApiEvent) : ApiCall → Prop
  | .getSecret namespaceName name => ∃ ctx identity, validateHeaders request.headers = .ok ctx ∧
      ctx.identity = some identity ∧ namespaceName = ctx.tenantId ∧
      ⟨.checkSecretAccess identity ctx.tenantId name, .ok ()⟩ ∈ past
  | _ => True

variable {service texts environment request}

theorem secretsGuarded_iff : SecretsGuarded service texts environment request ↔
      (ExceptT.run (handle service texts request)).Along environment (Guarded request) [] := by
  rw [along_iff]
  constructor
  · rintro h before ⟨issued, answer⟩ after hTrace -
    cases issued with
    | getSecret namespaceName name => exact h before namespaceName name answer after hTrace
    | _ => trivial
  · intro h before namespaceName name answer after hTrace
    exact h before ⟨.getSecret namespaceName name, answer⟩ after hTrace (Nat.zero_le _)

theorem Only.guarded {Result : Type} {code : ApiM Result} (h : Only ApiCall.ReadsNoSecret code)
    (past : List ApiEvent) :
    (ExceptT.run code).Always (Guarded request) past := by
  refine h.always (fun past call hCall => ?_) past
  cases call with
  | getSecret namespaceName name => exact hCall.elim
  | _ => trivial

variable {ctx : ApiContext}

/-- The export reads the secret right after the check of the same secret. -/
theorem exportConnection_guarded (hAuthorizer : service.authorizer = true)
    (hHeaders : validateHeaders request.headers = .ok ctx) (id secretName : String) :
    (ExceptT.run (exportConnection service ctx id secretName)).Always (Guarded request) [] := by
  refine ⟨trivial, fun found => ?_⟩
  cases found with
  | error error => trivial
  | ok connection =>
    change Always _ _ (ExceptT.run (if connection.resource.credentialsRef.secret.isEmpty then _ else _))
    split
    · trivial
    · unfold authorizeSecretRef
      rw [if_pos hAuthorizer]
      cases hIdentity : ctx.identity with
      | none => trivial
      | some identity =>
        refine ⟨trivial, fun verdict => ?_⟩
        cases verdict with
        | error error => trivial
        | ok allowed =>
          refine ⟨⟨ctx, identity, hHeaders, hIdentity, rfl, by simp⟩, fun secret => ?_⟩
          cases secret with
          | error error => trivial
          | ok existing => exact ⟨trivial, fun made => by cases made <;> trivial⟩

/-- Every endpoint but the readiness check guards the secrets it reads. -/
theorem DataEndpoint.handle_guarded (hAuthorizer : service.authorizer = true)
    (hHeaders : validateHeaders request.headers = .ok ctx) {endpoint : DataEndpoint}
    (hEndpoint : ∀ id, endpoint ≠ .checkExistentConnection id) :
    (ExceptT.run (endpoint.handle service texts ctx)).Always (Guarded request) [] := by
  cases hSpecial : endpoint.special with
  | false => exact ((endpoint.handle_plain service texts ctx hSpecial).imp
      fun _ => ApiCall.Plain.readsNoSecret).guarded []
  | true =>
    cases endpoint with
    | exportConnection id secretName => exact exportConnection_guarded hAuthorizer hHeaders id secretName
    | checkExistentConnection id => exact absurd rfl (hEndpoint id)
    | createFlightService flight => exact (createFlightService_readsNoSecret service texts flight).guarded []
    | patchFlightService id patch => exact (patchFlightService_readsNoSecret texts id patch).guarded []
    | _ => cases hSpecial

/-- The readiness check reads the secret as soon as both lookups succeed. -/
theorem checkExistentConnection_along (hHeaders : validateHeaders request.headers = .ok ctx) {id : String}
    (hEndpoint : request.endpoint = .data (.checkExistentConnection id)) :
    (ExceptT.run (checkExistentConnection ctx id)).Along environment (Guarded request) [] ↔
      ¬ChecksStoredConnection environment request := by
  constructor
  · rintro hAlong ⟨ctx', id', connection, type, hHeaders', hEndpoint', hConnection, hType⟩
    obtain rfl : ctx = ctx' := Except.ok.inj (hHeaders.symm.trans hHeaders')
    obtain rfl : id = id' := by
      rw [hEndpoint] at hEndpoint'
      cases hEndpoint'
      rfl
    obtain ⟨-, hRest⟩ := hAlong
    rw [hConnection] at hRest
    obtain ⟨-, hRest⟩ := hRest
    simp only [List.nil_append] at hRest
    rw [hType] at hRest
    obtain ⟨⟨_, _, -, -, -, hChecked⟩, -⟩ := hRest
    simp at hChecked
  · intro hMissing
    refine ⟨trivial, ?_⟩
    cases hConnection : environment [] (.store (.getDataConnection ctx.tenantId id)) with
    | error error => trivial
    | ok connection =>
      refine ⟨trivial, ?_⟩
      cases hType : environment [⟨.store (.getDataConnection ctx.tenantId id), .ok connection⟩]
          (.store (.getDataConnectionType ctx.tenantId connection.resource.dataConnectionTypeId)) with
      | error error => simp only [List.nil_append]; rw [hType]; trivial
      | ok type =>
        exact absurd ⟨ctx, id, connection, type, hHeaders, hEndpoint, hConnection, hType⟩ hMissing

/-- A request that makes a call has a tenant in its headers, and no call that it makes is
for another one. -/
theorem requests_stay_in_tenant : ∀ event ∈ ((ExceptT.run (handle service texts request)).run environment []).2,
    ∃ ctx, validateHeaders request.headers = .ok ctx ∧ event.1.Within ctx.tenantId := by
  intro event hEvent
  unfold handle at hEvent
  split at hEvent
  · cases hEvent
  · cases hEvent
  next endpoint _ =>
      split at hEvent
      · cases hEvent
      next ctx hHeaders =>
          obtain ⟨before, after, hRecord⟩ := List.append_of_mem hEvent
          have hAlong := ((endpoint.handle_within service texts ctx).always (fun _ _ => id) []).along environment
          exact ⟨ctx, hHeaders, along_iff.mp hAlong before event after hRecord (Nat.zero_le _)⟩

end Guard

/-- With an authorizer, a request reads only secrets its caller was checked
for, if and only if it is not a readiness check that finds its connection and
the type of it. -/
theorem secrets_guarded_iff (service : ApiService) (hAuthorizer : service.authorizer = true)
    (texts : LibraryTexts) (environment : Environment ApiCall ApiCall.Response) (request : Request) :
    SecretsGuarded service texts environment request ↔ ¬ChecksStoredConnection environment request := by
  rw [secretsGuarded_iff, handle]
  cases hEndpoint : request.endpoint with
  | health | notFound => exact iff_of_true trivial (by simp [ChecksStoredConnection, hEndpoint])
  | data endpoint =>
    cases hHeaders : validateHeaders request.headers with
    | error error => exact iff_of_true trivial (by simp [ChecksStoredConnection, hHeaders])
    | ok ctx =>
      by_cases hReadiness : ∃ id, endpoint = .checkExistentConnection id
      · obtain ⟨id, rfl⟩ := hReadiness
        exact checkExistentConnection_along hHeaders hEndpoint
      · have hOther : ∀ id, endpoint ≠ .checkExistentConnection id :=
          fun id hSame => hReadiness ⟨id, hSame⟩
        refine iff_of_true ((endpoint.handle_guarded hAuthorizer hHeaders hOther).along environment) ?_
        rintro ⟨_, id, _, _, -, hSame, -⟩
        exact hOther id (Endpoint.data.inj (hEndpoint.symm.trans hSame))

/-- A store with one connection and its type, a readable secret, and an
authorizer with the same verdict for everybody. -/
def gatedEnvironment (verdict : Except AuthError Unit) : Environment ApiCall ApiCall.Response
  | _, .store (.getDataConnection tenantId uid) =>
    .ok (newConnection tenantId sampleConnection uid "2026-01-01T00:00:00Z")
  | _, .store (.getDataConnectionType tenantId id) =>
    .ok (newType tenantId sampleType id "2026-01-01T00:00:00Z")
  | _, .getSecret namespaceName name => .ok ⟨name, namespaceName, ∅, none, none⟩
  | _, .checkSecretAccess _ _ _ => verdict
  | _, issued => sampleReply [] issued

def refusingEnvironment : Environment ApiCall ApiCall.Response := gatedEnvironment (.error (.forbidden "access denied"))

/-- The calls of an export that the authorizer lets through. -/
def exportCalls : List ApiEvent :=
  ((ExceptT.run (handle ⟨"global", true⟩ sampleTexts (sampleRequest (.exportConnection "connection-1" "copy")))).run
    (gatedEnvironment (.ok ())) []).2

theorem exportCalls_reads : ∃ event ∈ exportCalls, ∃ name, event.1 = .getSecret "team-a" name :=
  ⟨_, .tail _ (.tail _ (.head _)), _, rfl⟩

theorem validateHeaders_sampleRequest (endpoint : DataEndpoint) :
    validateHeaders (sampleRequest endpoint).headers = .ok ⟨"team-a", some ⟨"mallory"⟩⟩ :=
  rfl

theorem secrets_guarded_iff_sample : (∃ event ∈ exportCalls, ∃ name, event.1 = .getSecret "team-a" name) ∧
      SecretsGuarded ⟨"global", true⟩ sampleTexts (gatedEnvironment (.ok ()))
        (sampleRequest (.exportConnection "connection-1" "copy")) :=
  ⟨exportCalls_reads, (secrets_guarded_iff ⟨"global", true⟩ rfl _ _ _).mpr fun ⟨_, _, _, _, _, hEndpoint, _⟩ => by
    cases hEndpoint⟩

/-- The readiness check reads the secret of the connection for a caller who
may not read it, and without asking the authorizer. -/
theorem readiness_reads_secret : ¬SecretsGuarded ⟨"global", true⟩ sampleTexts refusingEnvironment
      (sampleRequest (.checkExistentConnection "connection-1")) := by
  have hHeaders := validateHeaders_sampleRequest (.checkExistentConnection "connection-1")
  have hStored : ChecksStoredConnection refusingEnvironment (sampleRequest (.checkExistentConnection "connection-1")) :=
    ⟨_, _, _, _, hHeaders, rfl, rfl, rfl⟩
  rw [secretsGuarded_iff]
  intro hAlong
  exact (checkExistentConnection_along hHeaders rfl).mp hAlong hStored

theorem requests_stay_in_tenant_sample : ∃ event ∈ exportCalls, event.1.Within "team-a" := by
  obtain ⟨event, hEvent, -⟩ := exportCalls_reads
  obtain ⟨ctx, hHeaders, hWithin⟩ := requests_stay_in_tenant event hEvent
  obtain rfl := Except.ok.inj ((validateHeaders_sampleRequest _).symm.trans hHeaders)
  exact ⟨event, hEvent, hWithin⟩

end DataConnectHub.Rest
