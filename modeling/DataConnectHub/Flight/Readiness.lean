import DataConnectHub.Flight.Actions
import DataConnectHub.Rest.Interleaving

/-! Readiness checks across both services. The REST service asks the Flight
service to check a connection, and the Flight service does so with the client
it keeps for the connection. In between, connections are patched, secrets are
changed and clients are made by queries or dropped. Each successful check is
recorded with the client it was made through and the credentials that the
connection had at that moment. -/
namespace DataConnectHub.Flight

open Serde RowStore Interaction Program Transaction RustStd Rest List

/-- What the Flight service meets while it works on one request. -/
structure Circumstances where
  stamp : Stamp
  connectionFaults : Nat → Option Failure
  typeFaults : Nat → Option Failure
  secretRefused : Option SecretStoreError
  source : DataSource

structure Check (Client : Type) where
  asker : Client
  tenantId : String
  connectionId : String
  provider : Provider
  used : SourceClient
  credentials : Option (StringMap String)

/-- The client of the check is the one that the credentials describe. -/
def Check.Fresh {Client : Type} (drivers : Drivers) (check : Check Client) : Prop :=
  check.credentials.map (fun credentials => check.provider.configure drivers credentials) = some (.ok check.used)

instance {Client : Type} (drivers : Drivers) (check : Check Client) : Decidable (check.Fresh drivers) :=
  inferInstanceAs (Decidable (_ = _))

/-- What both services are set up with. -/
structure Setup where
  service : ApiService
  texts : LibraryTexts
  connectors : List Provider
  drivers : Drivers

def Setup.globalTenantId (setup : Setup) : String := setup.service.globalTenantId

structure Hub (Client : Type) where
  system : System Client
  secrets : String → String → Option Secret
  cache : ClientCache
  checks : List (Check Client)

inductive Event (Client : Type) where
  | turn (turn : Client × Choice) (met : Circumstances)
  | query (tenantId connectionId : String) (met : Circumstances)
  | setSecret (namespaceName name : String) (secret : Option Secret)
  | expire (dropped : Provider → String → Bool)

namespace Hub

variable {Client : Type} (setup : Setup) (hub : Hub Client)

def initial (store : Tables) (secrets : String → String → Option Secret) (cache : ClientCache)
    (requests : Client → Rest.Request) : Hub Client :=
  { system := System.initial setup.service setup.texts store requests
    secrets := secrets, cache := cache, checks := [] }

def getSecret (namespaceName name : String) : Except SecretStoreError Secret :=
  okOr (.secretNotFound "Failed to obtain credentials") (hub.secrets namespaceName name)

/-- The Flight service on the tables and secrets of the moment. -/
def flight (met : Circumstances) : DataIngestionService :=
  { connectorsRegistry := setup.connectors
    getDataConnection := fun tenantId uid => ((StoreCall.getDataConnection tenantId uid).run
      setup.globalTenantId met.stamp met.connectionFaults hub.system.store).1
    getDataConnectionType := fun tenantId id => ((StoreCall.getDataConnectionType tenantId id).run
      setup.globalTenantId met.stamp met.typeFaults hub.system.store).1
    getSecret := fun namespaceName name =>
      match met.secretRefused with
      | some error => .error error
      | none => hub.getSecret namespaceName name
    drivers := setup.drivers
    source := met.source }

/-- What the credentials of a connection are at the moment. -/
def credentialsOf (tenantId connectionId : String) : Option (StringMap String) :=
  ((rows hub.system.store .dataConnections).find? fun row => row.metadata.id = connectionId).bind fun row =>
    (hub.secrets tenantId row.resource.credentialsRef.secret).map Secret.properties

def record (client : Client) (tenantId connectionId : String) :
    Except Http.Grpc.Status (Provider × SourceClient) → List (Check Client)
  | .ok (provider, used) =>
    [⟨client, tenantId, connectionId, provider, used, hub.credentialsOf tenantId connectionId⟩]
  | .error _ => []

/-- The answer to a call that is not one of the store. `reply` tells whether
the call gets through. -/
def serve (met : Circumstances) (client : Client) : (issued : ApiCall) → issued.Response → issued.Response × Hub Client
  | .getSecret namespaceName name, .ok _ => (hub.getSecret namespaceName name, hub)
  | .checkDataConnection _ tenantId connectionId, .ok _ =>
    let checked := (hub.flight setup met).checkConnection tenantId connectionId hub.cache
    (checked.1.map fun _ => (), { hub with
      cache := checked.2
      checks := hub.checks ++ hub.record client tenantId connectionId checked.1 })
  | _, reply => (reply, hub)

def choice (met : Circumstances) (turn : Client × Choice) : Choice :=
  { turn.2 with reply := fun issued => (hub.serve setup met turn.1 issued (turn.2.reply issued)).1 }

/-- Every client that is kept for a stored connection is the one that the
credentials of the connection describe. -/
def Current : Prop :=
  ∀ row ∈ rows hub.system.store .dataConnections, ∀ provider client, hub.cache provider row.metadata.id = some client →
      ∃ tenantId secret, row.metadata.tenantId = some tenantId ∧
        hub.secrets tenantId row.resource.credentialsRef.secret = some secret ∧
        provider.configure setup.drivers secret.properties = .ok client

/-- Every connection of the changed tables was there before, and has the
credentials it had unless no client is kept for it. -/
def Keeps (store : Tables) : Prop :=
  ∀ row ∈ rows store .dataConnections, ∃ old ∈ rows hub.system.store .dataConnections,
    old.metadata.id = row.metadata.id ∧ old.metadata.tenantId = row.metadata.tenantId ∧
      (old.resource.credentialsRef = row.resource.credentialsRef ∨
        ∀ provider, hub.cache provider old.metadata.id = none)

def setSecret (namespaceName name : String) (secret : Option Secret) : Hub Client :=
  let secrets := Function.update (hub.secrets namespaceName) name secret
  { hub with secrets := Function.update hub.secrets namespaceName secrets }

end Hub

namespace Hub

variable {Client : Type} [DecidableEq Client]

/-- A call of the REST service, a whole query of the Flight service, a change
of a secret, or clients dropped by a connector. -/
def step (setup : Setup) (hub : Hub Client) : Event Client → Hub Client
  | .turn turn met =>
    match (hub.system.sessions turn.1).program with
    | .done _ => hub
    | .call issued _ =>
      { (hub.serve setup met turn.1 issued (turn.2.reply issued)).2 with
        system := hub.system.step setup.globalTenantId (turn.1, hub.choice setup met turn) }
  | .query tenantId connectionId met =>
    { hub with cache := ((hub.flight setup met).openReader tenantId connectionId hub.cache).2 }
  | .setSecret namespaceName name secret => hub.setSecret namespaceName name secret
  | .expire dropped =>
    { hub with cache := fun provider id => if dropped provider id then none else hub.cache provider id }

def run (setup : Setup) (hub : Hub Client) (events : List (Event Client)) : Hub Client :=
  events.foldl (step setup) hub

end Hub

section Code

/-- Of the tables, changes a connection at most. -/
def Editing : ApiCall → Prop
  | .store (.updateDataConnection _ _ _) => True
  | .store (.updateDataConnectionStatus _ _ _) => True
  | issued => issued.Reads

/-- The code of a readiness check for a connection that has not been checked:
it cannot succeed but by a successful check of that connection. -/
inductive Probing (tenantId id : String) : RequestProgram → Prop where
  | failed (response : RestErrorResponse) : Probing tenantId id (.done (.error response))
  | find {next : (ApiCall.store (.getDataConnection tenantId id)).Response → RequestProgram}
      (hError : ∀ error, Probing tenantId id (next (.error error)))
      (hOk : ∀ row : DataConnectionResource, row.metadata.id = id → Probing tenantId id (next (.ok row))) :
      Probing tenantId id (.call (.store (.getDataConnection tenantId id)) next)
  | ask {issued : ApiCall} {next : issued.Response → RequestProgram}
      (hNext : ∀ answer, Probing tenantId id (next answer)) : Probing tenantId id (.call issued next)
  | probe {endpoint : String}
      {next : (ApiCall.checkDataConnection endpoint tenantId id).Response → RequestProgram}
      (hError : ∀ status, Probing tenantId id (next (.error status))) :
      Probing tenantId id (.call (.checkDataConnection endpoint tenantId id) next)

theorem setDataConnectionStatus_editing (tenantId id : String) (state : DataConnectionState)
    (message : Option String) : Only Editing (setDataConnectionStatus tenantId id state message) :=
  only_bind (only_store (by trivial) _) fun _ => only_pure ()

theorem checkExistentConnection_editing (ctx : ApiContext) (id : String) :
    Only Editing (checkExistentConnection ctx id) := by
  refine only_bind ?_ fun _ => only_pure _
  refine only_bind (only_store (fun _ => rfl) _) fun connection => ?_
  refine only_bind (only_store (fun _ => rfl) _) fun type => only_bind (only_ask (by trivial)) fun found => ?_
  cases found with
  | error error => exact only_bind (setDataConnectionStatus_editing ..) fun _ => only_throw _
  | ok secret =>
    change Only Editing (auditCredentials _ _ _ _ _)
    unfold auditCredentials
    cases type.resource.checkCredentialsSchema secret.properties with
    | error error => exact only_bind (setDataConnectionStatus_editing ..) fun _ => only_throw _
    | ok _ =>
      refine only_bind (only_store (fun _ => rfl) _) fun flight =>
        only_bind (only_ask (by trivial)) fun outcome => ?_
      cases outcome with
      | ok _ => exact setDataConnectionStatus_editing ..
      | error _ => exact only_bind (setDataConnectionStatus_editing ..) fun _ => only_throw _

theorem patchConnection_editing (texts : LibraryTexts) (ctx : ApiContext) (id : String) (patch : Json) :
    Only Editing (patchConnection texts ctx id patch) :=
  only_store_map (by trivial) _ _

theorem checkExistentConnection_probing (ctx : ApiContext) (id : String) :
    Probing ctx.tenantId id (ExceptT.run (checkExistentConnection ctx id)) := by
  refine .find (fun error => .failed _) fun connection hId => .ask fun found => ?_
  cases found with
  | error error => exact .failed _
  | ok type =>
    refine .ask fun read => ?_
    cases read with
    | error error =>
      refine .ask fun answer => ?_
      cases answer <;> exact .failed _
    | ok secret =>
      change Probing _ _ (ExceptT.run (do
        auditCredentials ctx.tenantId id connection type secret.properties
        return ⟨204, .empty⟩ : ApiM HttpResponse))
      unfold auditCredentials
      cases type.resource.checkCredentialsSchema secret.properties with
      | error error =>
        refine .ask fun answer => ?_
        cases answer <;> exact .failed _
      | ok _ =>
        refine .ask fun located => ?_
        cases located with
        | error error => exact .failed _
        | ok flight =>
          subst hId
          refine .probe fun status => .ask fun answer => ?_
          cases answer <;> exact .failed _

end Code

namespace Hub

variable {Client : Type} {setup : Setup} {hub : Hub Client} {met : Circumstances} {tenantId connectionId : String}
  {row : DataConnectionResource}

theorem resolve_flight {credentials : StringMap String} (h : (hub.flight setup met).resolve row = .ok credentials) :
    ∃ tenantId secret, row.metadata.tenantId = some tenantId ∧
      hub.secrets tenantId row.resource.credentialsRef.secret = some secret ∧
      secret.properties = credentials := by
  unfold DataIngestionService.resolve at h
  cases hTenant : row.metadata.tenantId with
  | none =>
    rw [hTenant] at h
    cases h
  | some tenantId =>
    rw [hTenant] at h
    obtain ⟨secret, hSecret, hProperties⟩ := bind_eq_ok.mp h
    refine ⟨tenantId, secret, rfl, ?_, Except.ok.inj hProperties⟩
    have hFound := mapErr_eq_ok.mp hSecret
    simp only [flight] at hFound
    split at hFound
    · cases hFound
    · exact okOr_eq_ok.mp hFound

/-- The client that the Flight service uses for a connection, from the cache
or newly made, is the one that the credentials of the connection describe. -/
theorem Current.openReader (hStore : Reachable setup.globalTenantId hub.system.store) (h : hub.Current setup)
    {provider : Provider} {client : SourceClient}
    (hOpen : ((hub.flight setup met).openReader tenantId connectionId hub.cache).1 = .ok (row, provider, client)) :
    row ∈ rows hub.system.store .dataConnections ∧ row.metadata.id = connectionId ∧
      row.metadata.tenantId = some tenantId ∧
      ∃ secret, hub.secrets tenantId row.resource.credentialsRef.secret = some secret ∧
        provider.configure setup.drivers secret.properties = .ok client := by
  rcases openReader_cases (hub.flight setup met) tenantId connectionId hub.cache with
    ⟨status, hError⟩ | ⟨found, connector, used, hFound, hReader, hUsed⟩
  · rw [hError] at hOpen
    cases hOpen
  · rw [hReader] at hOpen
    cases hOpen
    obtain ⟨hRow, hId, hTenant⟩ := StoreCall.found_of_getDataConnection hStore.wellFormed hFound
    refine ⟨hRow, hId, hTenant, ?_⟩
    rcases hUsed with ⟨hCached, -⟩ | ⟨credentials, hResolved, hConfigured, -⟩
    · obtain ⟨owner, secret, hOwner, hSecret, hConfigured⟩ := h row hRow provider client hCached
      rw [hTenant] at hOwner
      cases hOwner
      exact ⟨secret, hSecret, hConfigured⟩
    · obtain ⟨owner, secret, hOwner, hSecret, rfl⟩ := resolve_flight hResolved
      rw [hTenant] at hOwner
      cases hOwner
      exact ⟨secret, hSecret, hConfigured⟩

/-- Whatever the Flight service keeps after a request is current. -/
theorem Current.cache (hStore : Reachable setup.globalTenantId hub.system.store) (h : hub.Current setup)
    (met : Circumstances) (tenantId connectionId : String) :
    Hub.Current setup { hub with cache := ((hub.flight setup met).openReader tenantId connectionId hub.cache).2 } := by
  intro row hRow provider client hKept
  rcases openReader_cases (hub.flight setup met) tenantId connectionId hub.cache with
    ⟨status, hError⟩ | ⟨found, connector, used, -, hReader, ⟨-, hSame⟩ | ⟨credentials, -, -, hInsert⟩⟩
  · rw [hError] at hKept
    exact h row hRow provider client hKept
  · simp only [hSame] at hKept
    exact h row hRow provider client hKept
  · simp only [hInsert] at hKept
    by_cases hEntry : provider = connector ∧ row.metadata.id = found.metadata.id
    · obtain ⟨rfl, hId⟩ := hEntry
      obtain ⟨hFound, -, hTenant, secret, hSecret, hConfigured⟩ := h.openReader hStore hReader
      obtain rfl : row = found := hStore.sound.eq_of_id hRow hFound hId
      rw [ClientCache.insert_self] at hKept
      cases hKept
      exact ⟨tenantId, secret, hTenant, hSecret, hConfigured⟩
    · rw [ClientCache.insert_other _ _ hEntry] at hKept
      exact h row hRow provider client hKept

theorem keeps_self (hub : Hub Client) : hub.Keeps hub.system.store :=
  fun row hRow => ⟨row, hRow, rfl, rfl, .inl rfl⟩

theorem Current.store {system : System Client} (h : hub.Current setup) (hKeeps : hub.Keeps system.store) :
    Hub.Current setup { hub with system := system } := by
  intro row hRow provider client hKept
  obtain ⟨old, hOld, hId, hTenant, hRef | hNone⟩ := hKeeps row hRow
  · obtain ⟨tenantId, secret, hOwner, hSecret, hConfigured⟩ := h old hOld provider client (hId ▸ hKept)
    exact ⟨tenantId, secret, hTenant ▸ hOwner, hRef ▸ hSecret, hConfigured⟩
  · have hGone := hNone provider
    rw [hId] at hGone
    exact absurd (hKept.symm.trans hGone) nofun

/-- A successful check is recorded with the credentials its client is made
from. -/
theorem Current.record (hStore : Reachable setup.globalTenantId hub.system.store) (h : hub.Current setup)
    (client : Client) :
    ∀ check ∈ hub.record client tenantId connectionId
        ((hub.flight setup met).checkConnection tenantId connectionId hub.cache).1,
      check.Fresh setup.drivers := by
  intro check hCheck
  unfold DataIngestionService.checkConnection at hCheck
  cases hOpen : ((hub.flight setup met).openReader tenantId connectionId hub.cache).1 with
  | error status =>
    simp only [hOpen] at hCheck
    exact absurd hCheck not_mem_nil
  | ok opened =>
    obtain ⟨row, provider, used⟩ := opened
    obtain ⟨hRow, hId, hTenant, secret, hSecret, hConfigured⟩ := h.openReader hStore hOpen
    have hCredentials : hub.credentialsOf tenantId connectionId = some secret.properties := by
      have hFind : (rows hub.system.store .dataConnections).find? (fun other : DataConnectionResource =>
          other.metadata.id = connectionId) = some row := hStore.sound.find?_id hRow hId
      rw [credentialsOf, hFind, Option.bind_some, hSecret, Option.map_some]
    simp only [hOpen] at hCheck
    change check ∈ hub.record client tenantId connectionId (do
      mapErr mapConnectorError (used.checkConnection setup.drivers met.source)
      return (provider, used)) at hCheck
    cases hSource : used.checkConnection setup.drivers met.source with
    | error error =>
      rw [hSource] at hCheck
      exact absurd hCheck not_mem_nil
    | ok _ =>
      rw [hSource] at hCheck
      rw [mem_singleton.mp hCheck, Check.Fresh, hCredentials]
      simp [hConfigured]

/-- A call leaves everything but the tables alone, or it is a check. -/
theorem serve_cases (hub : Hub Client) (setup : Setup) (met : Circumstances) (client : Client)
    (issued : ApiCall) (reply : issued.Response) :
    (hub.serve setup met client issued reply).2 = hub ∨
      ∃ endpoint tenantId connectionId, issued = .checkDataConnection endpoint tenantId connectionId ∧
        (hub.serve setup met client issued reply).2 = { hub with
          cache := ((hub.flight setup met).openReader tenantId connectionId hub.cache).2
          checks := hub.checks ++ hub.record client tenantId connectionId
            ((hub.flight setup met).checkConnection tenantId connectionId hub.cache).1 } := by
  cases issued with
  | getSecret namespaceName name => cases reply <;> exact .inl rfl
  | checkDataConnection endpoint tenantId connectionId =>
    cases reply with
    | error status => exact .inl rfl
    | ok _ => exact .inr ⟨endpoint, tenantId, connectionId, rfl, rfl⟩
  | _ => exact .inl rfl

theorem mem_checks_serve {client : Client} {issued : ApiCall} {check : Check Client} (h : check ∈ hub.checks)
    (reply : issued.Response) : check ∈ (hub.serve setup met client issued reply).2.checks := by
  rcases hub.serve_cases setup met client issued reply with hSame | ⟨_, _, _, -, hServed⟩
  · rwa [hSame]
  · rw [hServed]
    exact mem_append_left _ h

section Turn

variable [DecidableEq Client] {turn : Client × Choice} {issued : ApiCall} {next : issued.Response → RequestProgram}

theorem step_turn (h : (hub.system.sessions turn.1).program = .call issued next) : hub.step setup (.turn turn met) =
      { (hub.serve setup met turn.1 issued (turn.2.reply issued)).2 with
        system := hub.system.step setup.globalTenantId (turn.1, hub.choice setup met turn) } := by
  rw [step, h]

theorem step_turn_of_done {result : Except RestErrorResponse HttpResponse}
    (h : (hub.system.sessions turn.1).program = .done result) : hub.step setup (.turn turn met) = hub := by
  rw [step, h]

/-- The answer to the call of a turn. -/
def answer (setup : Setup) (hub : Hub Client) (met : Circumstances) (turn : Client × Choice)
    (issued : ApiCall) : issued.Response :=
  (System.serve setup.globalTenantId (hub.choice setup met turn) hub.system.store issued).1

theorem step_turn_program (h : (hub.system.sessions turn.1).program = .call issued next) :
    ((hub.step setup (.turn turn met)).system.sessions turn.1).program =
      next (hub.answer setup met turn issued) := by
  rw [step_turn h]
  have hSelf : (hub.system.sessions (turn.1, hub.choice setup met turn).1).program = .call issued next := h
  exact congrArg Rest.Session.program (System.step_self hSelf)

theorem step_turn_other {client : Client} (h : client ≠ turn.1) :
    (hub.step setup (.turn turn met)).system.sessions client = hub.system.sessions client := by
  rw [step]
  split
  · rfl
  · exact System.step_other _ h

theorem step_turn_store (h : (hub.system.sessions turn.1).program = .call issued next) :
    (hub.step setup (.turn turn met)).system.store =
      (System.serve setup.globalTenantId (hub.choice setup met turn) hub.system.store issued).2 := by
  rw [step_turn h]
  change (hub.system.step setup.globalTenantId (turn.1, hub.choice setup met turn)).store = _
  exact System.step_store h

end Turn

end Hub

section Runs

/-- The connection that the next call changes, and how. -/
def nextEdit : RequestProgram → Option (String × UpdateFn DataConnection)
  | .call (.store (.updateDataConnection _ uid updateFn)) _ => some (uid, updateFn)
  | _ => none

variable {Client : Type}

/-- No client is kept for a connection when its credentials change: neither
when a patch is about to give it another secret, nor when the contents of its
secret are about to change. -/
def Event.Cautious (hub : Hub Client) : Event Client → Prop
  | .turn taken _ => ∀ edit ∈ nextEdit (hub.system.sessions taken.1).program,
      ∀ row ∈ rows hub.system.store .dataConnections, row.metadata.id = edit.1 →
        (∀ changed ∈ (edit.2 row.resource).toOption, changed.credentialsRef = row.resource.credentialsRef) ∨
          ∀ provider, hub.cache provider row.metadata.id = none
  | .setSecret namespaceName name _ => ∀ row ∈ rows hub.system.store .dataConnections,
      row.metadata.tenantId = some namespaceName → row.resource.credentialsRef.secret = name →
        ∀ provider, hub.cache provider row.metadata.id = none
  | _ => True

instance (hub : Hub Client) : (event : Event Client) → Decidable (event.Cautious hub)
  | .turn taken _ => inferInstanceAs (Decidable (∀ edit ∈ nextEdit (hub.system.sessions taken.1).program,
      ∀ row ∈ rows hub.system.store .dataConnections, row.metadata.id = edit.1 →
        (∀ changed ∈ (edit.2 row.resource).toOption, changed.credentialsRef = row.resource.credentialsRef) ∨
          ∀ provider, hub.cache provider row.metadata.id = none))
  | .setSecret namespaceName name _ => inferInstanceAs (Decidable (∀ row ∈ rows hub.system.store .dataConnections,
      row.metadata.tenantId = some namespaceName → row.resource.credentialsRef.secret = name →
        ∀ provider, hub.cache provider row.metadata.id = none))
  | .query _ _ _ => isTrue trivial
  | .expire _ => isTrue trivial

/-- What holds between the events of a cautious run. -/
structure InStep (setup : Setup) (requests : Client → Rest.Request) (hub : Hub Client) : Prop where
  reachable : Reachable setup.globalTenantId hub.system.store
  current : hub.Current setup
  fresh : ∀ check ∈ hub.checks, check.Fresh setup.drivers
  editing : ∀ client, (hub.system.sessions client).program.Issues Editing
  probing : ∀ client id ctx, (requests client).endpoint = .data (.checkExistentConnection id) →
    validateHeaders (requests client).headers = .ok ctx →
    Probing ctx.tenantId id (hub.system.sessions client).program ∨
      ∃ check ∈ hub.checks, check.asker = client ∧ check.tenantId = ctx.tenantId ∧ check.connectionId = id

variable {setup : Setup} {hub : Hub Client} {met : Circumstances}

section Edits

variable {registry after : Registry} {globalTenantId tenantId uid now : String} {reply : MetaAnswer}
  {row : DataConnectionResource}

/-- After a patch a row is an old one, or the patched one with its identity. -/
theorem row_of_patch {updateFn : UpdateFn DataConnection}
    (h : MetaCall.Effect globalTenantId registry (.updateDataConnection tenantId uid updateFn now) reply after)
    (hRow : row ∈ after .dataConnections) :
    row ∈ registry .dataConnections ∨ ∃ existing ∈ registry .dataConnections,
      existing.metadata.id = uid ∧ existing.metadata.id = row.metadata.id ∧
        existing.metadata.tenantId = row.metadata.tenantId ∧ updateFn existing.resource = .ok row.resource := by
  cases h with
  | @updateDataConnection _ _ _ _ existing _ hExisting hFinds hChange hType =>
    refine (Registry.mem_replace hRow).imp_right fun hNew => ⟨existing, hExisting, hFinds.1, ?_⟩
    obtain ⟨changed, hChanged, rfl⟩ := map_eq_ok.mp hChange
    rw [hNew]
    exact ⟨rfl, rfl, hChanged⟩

/-- After a change of a status every connection is what it was. -/
theorem row_of_status {updateFn : UpdateFn DataConnectionStatus}
    (h : MetaCall.Effect globalTenantId registry (.updateDataConnectionStatus tenantId uid updateFn now) reply
      after) (hRow : row ∈ after .dataConnections) :
    ∃ existing ∈ registry .dataConnections, existing.metadata.id = row.metadata.id ∧
      existing.metadata.tenantId = row.metadata.tenantId ∧ existing.resource = row.resource := by
  cases h with
  | @updateDataConnectionStatus _ _ _ _ existing _ hExisting hFinds hChange =>
    rcases Registry.mem_replace hRow with hOld | hNew
    · exact ⟨row, hOld, rfl, rfl, rfl⟩
    · obtain ⟨status, -, rfl⟩ := map_eq_ok.mp hChange
      rw [hNew]
      exact ⟨existing, hExisting, rfl, rfl, rfl⟩

end Edits

/-- A store call of a cautious turn leaves every connection its credentials,
or finds no client kept for it. -/
theorem keeps_of_edit {operation : StoreCall} (hStore : Reachable setup.globalTenantId hub.system.store)
    (hEditing : Editing (.store operation)) (stamp : Stamp) (faults : Nat → Option Failure)
    (hCautious : ∀ tenantId uid updateFn, operation = .updateDataConnection tenantId uid updateFn →
      ∀ row ∈ rows hub.system.store .dataConnections, row.metadata.id = uid →
        (∀ changed ∈ (updateFn row.resource).toOption, changed.credentialsRef = row.resource.credentialsRef) ∨
          ∀ provider, hub.cache provider row.metadata.id = none) :
    hub.Keeps (operation.run setup.globalTenantId stamp faults hub.system.store).2 := by
  cases hWriting : operation.writing stamp with
  | none =>
    rw [StoreCall.run_store_of_reading hWriting]
    exact hub.keeps_self
  | some call =>
    rcases StoreCall.run_cases_of_writing hWriting hStore.wellFormed with ⟨value, -, hEffect⟩ | ⟨-, hSame⟩
    · intro row hRow
      cases operation with
      | updateDataConnection tenantId uid updateFn =>
        cases hWriting
        rcases row_of_patch hEffect hRow with hOld | ⟨existing, hExisting, hUid, hId, hTenant, hPatch⟩
        · exact hub.keeps_self row hOld
        · refine ⟨existing, hExisting, hId, hTenant, ?_⟩
          refine (hCautious tenantId uid updateFn rfl existing hExisting hUid).imp_left fun hRef => ?_
          exact (hRef row.resource (by rw [hPatch]; rfl)).symm
      | updateDataConnectionStatus tenantId uid updateFn =>
        cases hWriting
        obtain ⟨existing, hExisting, hId, hTenant, hResource⟩ := row_of_status hEffect hRow
        exact ⟨existing, hExisting, hId, hTenant, .inl (by rw [hResource])⟩
      | _ => exact absurd (hWriting.symm.trans (hEditing stamp)) nofun
    · rw [hSame]
      exact hub.keeps_self

variable [DecidableEq Client] {requests : Client → Rest.Request} {turn : Client × Choice} {issued : ApiCall}
  {next : issued.Response → RequestProgram}

theorem keeps_of_turn (hStore : Reachable setup.globalTenantId hub.system.store) (hEditing : Editing issued)
    (hProgram : (hub.system.sessions turn.1).program = .call issued next)
    (hCautious : (Event.turn turn met).Cautious hub) :
    hub.Keeps (hub.step setup (.turn turn met)).system.store := by
  rw [Hub.step_turn_store hProgram]
  cases issued with
  | store operation =>
    refine keeps_of_edit hStore hEditing _ _ fun tenantId uid updateFn hOperation => ?_
    subst hOperation
    exact hCautious (uid, updateFn) (by rw [hProgram]; rfl)
  | _ => exact hub.keeps_self

theorem InStep.current_turn (h : InStep setup requests hub) (hEditing : Editing issued)
    (hProgram : (hub.system.sessions turn.1).program = .call issued next)
    (hCautious : (Event.turn turn met).Cautious hub) :
    (hub.step setup (.turn turn met)).Current setup := by
  have hKeeps := keeps_of_turn h.reachable hEditing hProgram hCautious
  rw [Hub.step_turn hProgram] at hKeeps ⊢
  rcases hub.serve_cases setup met turn.1 issued (turn.2.reply issued) with
    hServed | ⟨endpoint, tenantId, connectionId, rfl, hServed⟩
  · rw [hServed]
    exact h.current.store hKeeps
  · have hTurn : (hub.system.sessions (turn.1, hub.choice setup met turn).1).program = .call _ next := hProgram
    have hSame : (hub.system.step setup.globalTenantId (turn.1, hub.choice setup met turn)).store =
        hub.system.store := System.step_store hTurn
    rw [hServed]
    intro row hRow
    exact h.current.cache h.reachable met tenantId connectionId row (hSame ▸ hRow)

theorem InStep.fresh_turn (h : InStep setup requests hub)
    (hProgram : (hub.system.sessions turn.1).program = .call issued next) :
    ∀ check ∈ (hub.step setup (.turn turn met)).checks, check.Fresh setup.drivers := by
  rw [Hub.step_turn hProgram]
  rcases hub.serve_cases setup met turn.1 issued (turn.2.reply issued) with
    hServed | ⟨endpoint, tenantId, connectionId, -, hServed⟩
  · rw [hServed]
    exact h.fresh
  · rw [hServed]
    intro check hCheck
    rcases mem_append.mp hCheck with hOld | hNew
    · exact h.fresh check hOld
    · exact h.current.record h.reachable turn.1 check hNew

/-- A readiness check that goes on has still to check its connection, or has
just done so. -/
theorem probing_turn {tenantId id : String} (hStore : Reachable setup.globalTenantId hub.system.store)
    (hProgram : (hub.system.sessions turn.1).program = .call issued next)
    (hCode : Probing tenantId id (.call issued next)) :
    Probing tenantId id (next (hub.answer setup met turn issued)) ∨ ∃ check ∈ (hub.step setup (.turn turn met)).checks,
        check.asker = turn.1 ∧ check.tenantId = tenantId ∧ check.connectionId = id := by
  cases hCode with
  | find hError hOk =>
    left
    cases hAnswer : hub.answer setup met turn (.store (.getDataConnection tenantId id)) with
    | error error => exact hError error
    | ok row => exact hOk row (StoreCall.found_of_getDataConnection hStore.wellFormed hAnswer).2.1
  | ask hNext => exact .inl (hNext _)
  | @probe endpoint next hError =>
    rw [Hub.step_turn hProgram]
    change Probing tenantId id (next (hub.serve setup met turn.1
      (.checkDataConnection endpoint tenantId id) (turn.2.reply _)).1) ∨ _
    cases turn.2.reply (.checkDataConnection endpoint tenantId id) with
    | error status => exact .inl (hError status)
    | ok _ =>
      simp only [Hub.serve]
      cases hChecked : ((hub.flight setup met).checkConnection tenantId id hub.cache).1 with
      | error status => exact .inl (hError status)
      | ok found =>
        refine .inr ⟨_, mem_append_right _ (mem_singleton_self _), rfl, rfl, rfl⟩

theorem InStep.step_turn (h : InStep setup requests hub) (hCautious : (Event.turn turn met).Cautious hub) :
    InStep setup requests (hub.step setup (.turn turn met)) := by
  cases hProgram : (hub.system.sessions turn.1).program with
  | done result => rwa [Hub.step_turn_of_done hProgram]
  | call issued next =>
    have hIssues := h.editing turn.1
    rw [hProgram] at hIssues
    obtain ⟨hEditing, hNext⟩ := hIssues
    refine ⟨?_, h.current_turn hEditing hProgram hCautious, h.fresh_turn hProgram, ?_, ?_⟩
    · rw [Hub.step_turn_store hProgram]
      exact System.serve_reachable _ issued h.reachable
    · intro client
      by_cases hSelf : client = turn.1
      · rw [hSelf, Hub.step_turn_program hProgram]
        exact hNext _
      · rw [Hub.step_turn_other hSelf]
        exact h.editing client
    · intro client id ctx hEndpoint hHeaders
      have hKept : (∃ check ∈ hub.checks, check.asker = client ∧ check.tenantId = ctx.tenantId ∧
          check.connectionId = id) → ∃ check ∈ (hub.step setup (.turn turn met)).checks,
            check.asker = client ∧ check.tenantId = ctx.tenantId ∧ check.connectionId = id := by
        rintro ⟨check, hCheck, hAbout⟩
        rw [Hub.step_turn hProgram]
        exact ⟨check, Hub.mem_checks_serve hCheck _, hAbout⟩
      rcases h.probing client id ctx hEndpoint hHeaders with hCode | hDone
      · by_cases hSelf : client = turn.1
        · subst hSelf
          rw [Hub.step_turn_program hProgram]
          exact probing_turn h.reachable hProgram (hProgram ▸ hCode)
        · rw [Hub.step_turn_other hSelf]
          exact .inl hCode
      · exact .inr (hKept hDone)

variable {cache : ClientCache}

omit [DecidableEq Client] in
theorem InStep.with_cache (h : InStep setup requests hub) (hCurrent : Hub.Current setup { hub with cache := cache }) :
    InStep setup requests { hub with cache := cache } :=
  ⟨h.reachable, hCurrent, h.fresh, h.editing, h.probing⟩

theorem InStep.step (h : InStep setup requests hub) {event : Event Client} (hCautious : event.Cautious hub) :
    InStep setup requests (hub.step setup event) := by
  cases event with
  | turn turn met => exact h.step_turn hCautious
  | query tenantId connectionId met =>
    exact h.with_cache (h.current.cache h.reachable met tenantId connectionId)
  | setSecret namespaceName name secret =>
    refine ⟨h.reachable, ?_, h.fresh, h.editing, h.probing⟩
    intro row hRow provider client hKept
    obtain ⟨tenantId, held, hTenant, hSecret, hConfigured⟩ := h.current row hRow provider client hKept
    refine ⟨tenantId, held, hTenant, ?_, hConfigured⟩
    have hOther : ¬(tenantId = namespaceName ∧ row.resource.credentialsRef.secret = name) := by
      rintro ⟨rfl, hName⟩
      have hNone := hCautious row hRow hTenant hName provider
      exact absurd (hKept.symm.trans hNone) nofun
    by_cases hNamespace : tenantId = namespaceName
    · have hName : row.resource.credentialsRef.secret ≠ name := fun hName => hOther ⟨hNamespace, hName⟩
      subst hNamespace
      simpa [Hub.step, Hub.setSecret, hName] using hSecret
    · simpa [Hub.step, Hub.setSecret, hNamespace] using hSecret
  | expire dropped =>
    refine h.with_cache fun row hRow provider client hKept => h.current row hRow provider client ?_
    by_cases hDropped : dropped provider row.metadata.id = true
    · simp [hDropped] at hKept
    · simpa [hDropped] using hKept

/-- A request to patch a connection, or one to check whether it is ready. -/
def OnConnection (request : Rest.Request) : Prop :=
  (∃ id patch, request.endpoint = .data (.patchConnection id patch)) ∨
    ∃ id, request.endpoint = .data (.checkExistentConnection id)

theorem handle_editing (service : ApiService) (texts : LibraryTexts) {request : Rest.Request}
    (h : OnConnection request) : Only Editing (handle service texts request) := by
  unfold handle
  rcases h with ⟨id, patch, hEndpoint⟩ | ⟨id, hEndpoint⟩
  · rw [hEndpoint]
    cases validateHeaders request.headers with
    | error error => exact only_throw _
    | ok ctx => exact patchConnection_editing texts ctx id patch
  · rw [hEndpoint]
    cases validateHeaders request.headers with
    | error error => exact only_throw _
    | ok ctx => exact checkExistentConnection_editing ctx id

omit [DecidableEq Client] in
theorem InStep.initial {store : Tables} {secrets : String → String → Option Secret}
    (hRequests : ∀ client, OnConnection (requests client)) (hStore : Reachable setup.globalTenantId store)
    (hCurrent : (Hub.initial setup store secrets cache requests).Current setup) :
    InStep setup requests (Hub.initial setup store secrets cache requests) := by
  have hUnchecked : ∀ check ∈ (Hub.initial setup store secrets cache requests).checks, check.Fresh setup.drivers :=
    fun _ hCheck => absurd hCheck not_mem_nil
  refine ⟨hStore, hCurrent, hUnchecked, fun client => handle_editing _ _ (hRequests client), ?_⟩
  intro client id ctx hEndpoint hHeaders
  left
  change Probing ctx.tenantId id (ExceptT.run (handle setup.service setup.texts (requests client)))
  unfold handle
  rw [hEndpoint, hHeaders]
  exact checkExistentConnection_probing ctx id

/-- In every run of patches, readiness checks, queries and changes of secrets
in which no client is kept for a connection whose credentials change: a
readiness check that succeeds has relied on a check of its connection through
the client that the credentials of that moment describe. -/
theorem ready_with_current_credentials (setup : Setup) (store : Tables)
    (secrets : String → String → Option Secret) (cache : ClientCache) (requests : Client → Rest.Request)
    (events : List (Event Client)) (hStore : Reachable setup.globalTenantId store)
    (hRequests : ∀ client, OnConnection (requests client))
    (hCurrent : (Hub.initial setup store secrets cache requests).Current setup)
    (hEvents : Throughout (Hub.step setup) (fun hub event => event.Cautious hub)
      (Hub.initial setup store secrets cache requests) events) :
    let hub := (Hub.initial setup store secrets cache requests).run setup events
    ∀ client id ctx, (requests client).endpoint = .data (.checkExistentConnection id) →
      validateHeaders (requests client).headers = .ok ctx → (hub.system.sessions client).Succeeded →
      ∃ check ∈ hub.checks, check.asker = client ∧ check.tenantId = ctx.tenantId ∧
        check.connectionId = id ∧ check.Fresh setup.drivers := by
  intro hub client id ctx hEndpoint hHeaders hSucceeded
  have hInStep : InStep setup requests hub :=
    hEvents.preserves (fun h hCautious => h.step hCautious) (.initial hRequests hStore hCurrent)
  rcases hInStep.probing client id ctx hEndpoint hHeaders with hCode | ⟨check, hCheck, hAsker, hTenant, hId⟩
  · obtain ⟨response, hDone⟩ := hSucceeded.program_eq
    rw [hDone] at hCode
    cases hCode
  · exact ⟨check, hCheck, hAsker, hTenant, hId, hInStep.fresh check hCheck⟩

end Runs

section Samples

/-- A stored connection with its type and a Flight service for it. -/
def readyStore : Tables :=
  ((MetaCall.createFlightService { sampleFlight "flight" with supportedConnectors := ["postgres"] }
    "flight-1" "2026-01-01T00:00:02Z").run "global" noFaults sampleStore).2

def readySetup : Setup := ⟨⟨"global", false⟩, sampleTexts, [.postgres], sampleDrivers⟩

def pgSecret (name url : String) : Secret := ⟨name, "tenant-1", collect [("URI", url)], none, none⟩

def readySecrets (_ name : String) : Option Secret :=
  if name = "orders-secret" then some (pgSecret name "postgres://old")
  else if name = "new-secret" then some (pgSecret name "postgres://new")
  else none

/-- The first client gives the connection another secret, the second checks
whether it is ready. -/
def readyRequests : Bool → Rest.Request
  | false => tenantRequest (.patchConnection "connection-1"
      (.object [("credentials_ref", .object [("secret", .string "new-secret")])]))
  | true => tenantRequest (.checkExistentConnection "connection-1")

def readyHub : Hub Bool := Hub.initial readySetup readyStore readySecrets .empty readyRequests

def readyMet : Circumstances := ⟨⟨"", "", ""⟩, noFaults, noFaults, none, sampleSource 200⟩

def readyTurns (clients : List Bool) : List (Event Bool) :=
  clients.map fun client => .turn (client, openChoice "" (pgSecret "" "")) readyMet

/-- A query makes a client, the connection gets another secret, and the check
that follows is made through the client of the old one. -/
def staleEvents : List (Event Bool) :=
  .query "tenant-1" "connection-1" readyMet :: readyTurns [false, true, true, true, true, true, true]

theorem ready_with_stale_client :
    let hub := readyHub.run readySetup staleEvents
    (hub.system.sessions true).Succeeded ∧ hub.checks.map (fun check => (check.asker, check.used, check.credentials)) =
        [(true, .pg ⟨"postgres://old", none⟩, some (collect [("URI", "postgres://new")]))] ∧
      ∀ check ∈ hub.checks, ¬check.Fresh readySetup.drivers := by
  decide +kernel

/-- The connectors drop their clients before the connection gets its new
secret. -/
def freshEvents : List (Event Bool) :=
  .query "tenant-1" "connection-1" readyMet :: .expire (fun _ _ => true) ::
    readyTurns [false, true, true, true, true, true, true]

theorem ready_with_current_credentials_sample :
    ∃ check ∈ (readyHub.run readySetup freshEvents).checks, check.asker = true ∧
      check.tenantId = "tenant-1" ∧ check.connectionId = "connection-1" ∧
      check.Fresh readySetup.drivers := by
  have hRequests (client : Bool) : OnConnection (readyRequests client) := by
    cases client with
    | false => exact .inl ⟨_, _, rfl⟩
    | true => exact .inr ⟨_, rfl⟩
  have hCurrent : readyHub.Current readySetup := fun row hRow provider client hKept => by cases hKept
  have hEvents : Throughout (Hub.step readySetup) (fun hub event => event.Cautious hub) readyHub freshEvents := by
    decide +kernel
  have hDone : ((readyHub.run readySetup freshEvents).system.sessions true).Succeeded := by decide +kernel
  have hResult := ready_with_current_credentials readySetup readyStore readySecrets .empty readyRequests
    freshEvents (sampleStore_reachable.run _ noFaults) hRequests hCurrent hEvents
  have hHeaders : validateHeaders (readyRequests true).headers = .ok ⟨"tenant-1", some ⟨"mallory"⟩⟩ := rfl
  exact hResult true "connection-1" _ rfl hHeaders hDone

end Samples

end DataConnectHub.Flight
