import DataConnectHub.Rest.Interleaving

/-! Connections created with inline credentials, next to exports that write
secrets. A create makes a secret and a row in two stores and deletes the
secret again, by its name, when the row cannot be stored. The secrets are
those of a cluster: a create without overwriting fails when the name is taken,
an export replaces what is there, and a deletion goes by the name. -/
namespace DataConnectHub.Rest

open RowStore Interaction Program Transaction

abbrev SecretKey := String × String

def Secret.key (secret : Secret) : SecretKey := (secret.namespaceName, secret.name)

/-- A secret of the cluster and the request that created it. -/
structure Held (Client : Type) where
  secret : Secret
  creator : Option Client

/-- The secrets of the cluster, and which request wrote each name last. -/
structure Vault (Client : Type) where
  held : SecretKey → Option (Held Client)
  writer : SecretKey → Option Client

namespace Vault

variable {Client : Type}

def initial (secrets : SecretKey → Option Secret) : Vault Client :=
  { held := fun key => (secrets key).map fun secret => ⟨secret, none⟩, writer := fun _ => none }

/-- A secret that is replaced keeps its creator. -/
def put (vault : Vault Client) (client : Client) (secret : Secret) : Vault Client :=
  { held := Function.update vault.held secret.key (some
      ⟨secret, match vault.held secret.key with
        | some old => old.creator
        | none => some client⟩)
    writer := Function.update vault.writer secret.key (some client) }

def remove (vault : Vault Client) (key : SecretKey) : Vault Client :=
  { vault with held := Function.update vault.held key none }

/-- The secret store at work. `reply` tells whether the call reaches it; the
deletion of a rollback always does. -/
def serve (vault : Vault Client) (client : Client) :
    (issued : ApiCall) → issued.Response → issued.Response × Vault Client
  | .getSecret namespaceName name, reply =>
    match reply, vault.held (namespaceName, name) with
    | .error error, _ => (.error error, vault)
    | .ok _, some found => (.ok found.secret, vault)
    | .ok _, none => (.error (.secretNotFound "Failed to obtain credentials"), vault)
  | .createSecret secret overwrite, reply =>
    match reply with
    | .error error => (.error error, vault)
    | .ok () =>
      if !overwrite && (vault.held secret.key).isSome then
        (.error (.cannotCreateSecret secret.name), vault)
      else (.ok (), vault.put client secret)
  | .deleteSecret namespaceName name, _ =>
    if (vault.held (namespaceName, name)).isSome then (.ok (), vault.remove (namespaceName, name))
    else (.error (.secretNotFound s!"{namespaceName}/{name}"), vault)
  | _, reply => (reply, vault)

/-- The client has created the secret of this name that is there. -/
def Owns (vault : Vault Client) (client : Client) (key : SecretKey) : Prop :=
  ∃ found, vault.held key = some found ∧ found.creator = some client

end Vault

/-- The REST service with its metadata store and the secrets of the cluster. -/
structure Cluster (Client : Type) where
  system : System Client
  vault : Vault Client

namespace Cluster

variable {Client : Type} [DecidableEq Client]

def initial (service : ApiService) (texts : LibraryTexts) (store : Tables)
    (secrets : SecretKey → Option Secret) (requests : Client → Request) : Cluster Client :=
  { system := System.initial service texts store requests, vault := Vault.initial secrets }

/-- Calls for secrets are answered by the vault. -/
def choice (cluster : Cluster Client) (turn : Client × Choice) : Choice :=
  { turn.2 with reply := fun issued => (cluster.vault.serve turn.1 issued (turn.2.reply issued)).1 }

/-- The next call of one client. -/
def step (globalTenantId : String) (cluster : Cluster Client) (turn : Client × Choice) : Cluster Client :=
  { system := cluster.system.step globalTenantId (turn.1, cluster.choice turn)
    vault := match (cluster.system.sessions turn.1).program with
      | .done _ => cluster.vault
      | .call issued _ => (cluster.vault.serve turn.1 issued (turn.2.reply issued)).2 }

def run (globalTenantId : String) (cluster : Cluster Client) (turns : List (Client × Choice)) : Cluster Client :=
  turns.foldl (step globalTenantId) cluster

end Cluster

section Code

/-- Neither changes a table nor a secret. -/
def ApiCall.Aside : ApiCall → Prop
  | .createSecret _ _ => False
  | .deleteSecret _ _ => False
  | issued => issued.Reads

theorem ApiCall.Aside.reads {issued : ApiCall} (h : issued.Aside) : issued.Reads := by
  cases issued with
  | createSecret secret overwrite | deleteSecret namespaceName name => exact h.elim
  | _ => exact h

/-- The code of a create once its row could not be stored. -/
inductive RollingBack (key : SecretKey) : RequestProgram → Prop where
  | delete {next : (ApiCall.deleteSecret key.1 key.2).Response → RequestProgram}
      (hNext : ∀ answer, ∃ response, next answer = .done (.error response)) :
      RollingBack key (.call (.deleteSecret key.1 key.2) next)

/-- The code of a create once it has its secret. -/
inductive Storing (key : SecretKey) : RequestProgram → Prop where
  | insert {connection : DataConnection}
      {next : (ApiCall.store (.createDataConnection key.1 connection)).Response → RequestProgram}
      (hSecret : connection.credentialsRef.secret = key.2)
      (hOk : ∀ row, next (.ok row) = .done (.ok ⟨201, .dataConnection row⟩))
      (hError : ∀ error, RollingBack key (next (.error error))) :
      Storing key (.call (.store (.createDataConnection key.1 connection)) next)

/-- The code of a create that has no secret. -/
inductive Creating (key : SecretKey) : RequestProgram → Prop where
  | failed (response : RestErrorResponse) : Creating key (.done (.error response))
  | ask {issued : ApiCall} {next : issued.Response → RequestProgram} (hAside : issued.Aside)
      (hNext : ∀ answer, Creating key (next answer)) : Creating key (.call issued next)
  | create {secret : Secret} {next : (ApiCall.createSecret secret false).Response → RequestProgram}
      (hKey : secret.key = key) (hError : ∀ error, ∃ response, next (.error error) = .done (.error response))
      (hOk : Storing key (next (.ok ()))) : Creating key (.call (.createSecret secret false) next)

inductive Exporting : RequestProgram → Prop where
  | failed (response : RestErrorResponse) : Exporting (.done (.error response))
  | exported : Exporting (.done (.ok ⟨204, .empty⟩))
  | ask {issued : ApiCall} {next : issued.Response → RequestProgram} (hAside : issued.Aside)
      (hNext : ∀ answer, Exporting (next answer)) : Exporting (.call issued next)
  | write {secret : Secret} {next : (ApiCall.createSecret secret true).Response → RequestProgram}
      (hNext : ∀ answer, Exporting (next answer)) : Exporting (.call (.createSecret secret true) next)

def Request.Inline (request : Request) : Prop :=
  ∃ creds, request.endpoint = .data (.createConnection (.dataConnectionWithInlineCreds creds))

def Request.Export (request : Request) : Prop :=
  ∃ id secretName, request.endpoint = .data (.exportConnection id secretName)

theorem createConnectionWithCreds_creating (tenantId : String) (creds : DataConnectionWithCreds) :
    Creating (tenantId, creds.credentials.secret) (ExceptT.run (createConnectionWithCreds tenantId creds)) := by
  refine .ask (fun _ => rfl) fun found => ?_
  cases found with
  | error error => exact .failed _
  | ok type =>
    change Creating _ (ExceptT.run (do
      orFail _ (type.resource.checkCredentialsSchema creds.credentials.properties)
      _ : ApiM HttpResponse))
    cases type.resource.checkCredentialsSchema creds.credentials.properties with
    | error error => exact .failed _
    | ok _ =>
      exact .create rfl (fun error => ⟨_, rfl⟩)
        (.insert rfl (fun row => rfl) fun error => .delete fun answer => ⟨_, rfl⟩)

variable (service : ApiService) (ctx : ApiContext) (texts : LibraryTexts)

theorem exportSecret_exporting (connection : DataConnectionResource) (secretName : String) :
    Exporting (ExceptT.run (exportSecret ctx connection secretName)) := by
  refine .ask trivial fun found => ?_
  cases found with
  | error error => exact .failed _
  | ok existing =>
    refine .write fun written => ?_
    cases written with
    | error error => exact .failed _
    | ok _ => exact .exported

theorem exportConnection_exporting (id secretName : String) :
    Exporting (ExceptT.run (exportConnection service ctx id secretName)) := by
  refine .ask (fun _ => rfl) fun found => ?_
  cases found with
  | error error => exact .failed _
  | ok connection =>
    change Exporting (ExceptT.run (if connection.resource.credentialsRef.secret.isEmpty then _ else do
      authorizeSecretRef service ctx connection.resource.credentialsRef.secret
      exportSecret ctx connection secretName))
    unfold authorizeSecretRef
    split
    · exact .failed _
    · split
      · cases ctx.identity with
        | none => exact .failed _
        | some identity =>
          refine .ask trivial fun verdict => ?_
          cases verdict with
          | error error => exact .failed _
          | ok _ => exact exportSecret_exporting ctx connection secretName
      · exact exportSecret_exporting ctx connection secretName

variable {request : Request}

theorem handle_creating (h : request.Inline) : ∃ key, Creating key (ExceptT.run (handle service texts request)) := by
  obtain ⟨creds, hEndpoint⟩ := h
  unfold handle
  rw [hEndpoint]
  cases validateHeaders request.headers with
  | error error => exact ⟨("", ""), .failed _⟩
  | ok ctx => exact ⟨_, createConnectionWithCreds_creating ctx.tenantId creds⟩

theorem handle_exporting (h : request.Export) : Exporting (ExceptT.run (handle service texts request)) := by
  obtain ⟨id, secretName, hEndpoint⟩ := h
  unfold handle
  rw [hEndpoint]
  cases validateHeaders request.headers with
  | error error => exact .failed _
  | ok ctx => exact exportConnection_exporting service ctx id secretName

end Code

namespace Vault

variable {Client : Type} {vault : Vault Client} {client other : Client} {key : SecretKey}

theorem isSome_of_owns (h : vault.Owns client key) : (vault.held key).isSome = true := by
  obtain ⟨found, hHeld, -⟩ := h
  rw [hHeld]
  rfl

theorem Owns.unique (h : vault.Owns client key) (hOther : vault.Owns other key) : client = other := by
  obtain ⟨found, hHeld, hCreator⟩ := h
  obtain ⟨found', hHeld', hCreator'⟩ := hOther
  rw [hHeld] at hHeld'
  rw [Option.some.inj hHeld'] at hCreator
  exact Option.some.inj (hCreator.symm.trans hCreator')

theorem not_owns_initial (secrets : SecretKey → Option Secret) : ¬(initial secrets : Vault Client).Owns client key := by
  rintro ⟨found, hHeld, hCreator⟩
  obtain ⟨secret, -, rfl⟩ := Option.map_eq_some_iff.mp hHeld
  cases hCreator

theorem owns_remove {removed : SecretKey} :
    (vault.remove removed).Owns client key ↔ key ≠ removed ∧ vault.Owns client key := by
  by_cases hKey : key = removed
  · simp [Owns, remove, hKey]
  · simp [Owns, remove, hKey]

/-- Writing a secret changes the secrets of no other client. -/
theorem owns_put_other (secret : Secret) (hOther : other ≠ client) :
    (vault.put client secret).Owns other key ↔ vault.Owns other key := by
  by_cases hKey : key = secret.key
  · subst hKey
    unfold Owns put
    cases vault.held secret.key with
    | none => simp [hOther.symm]
    | some old => simp
  · simp [Owns, put, hKey]

/-- A secret that was not there before is owned by the client who wrote it. -/
theorem owns_put_self (secret : Secret) (hNone : vault.held secret.key = none) :
    (vault.put client secret).Owns client key ↔ key = secret.key ∨ vault.Owns client key := by
  by_cases hKey : key = secret.key
  · subst hKey
    simp [Owns, put, hNone]
  · simp [Owns, put, hKey]

variable {issued : ApiCall}

theorem serve_aside (h : issued.Aside) (reply : issued.Response) : (vault.serve client issued reply).2 = vault := by
  cases issued with
  | createSecret secret overwrite | deleteSecret namespaceName name => exact h.elim
  | getSecret namespaceName name =>
    simp only [serve]
    split <;> rfl
  | _ => rfl

/-- A create without overwriting fails, or it adds a secret that was not there. -/
theorem serve_create (vault : Vault Client) (client : Client) (secret : Secret)
    (reply : (ApiCall.createSecret secret false).Response) :
    (∃ error, vault.serve client (.createSecret secret false) reply = (.error error, vault)) ∨
      (vault.held secret.key = none ∧
        vault.serve client (.createSecret secret false) reply = (.ok (), vault.put client secret)) := by
  cases reply with
  | error error => exact .inl ⟨error, rfl⟩
  | ok _ =>
    cases hHeld : vault.held secret.key with
    | none => exact .inr ⟨rfl, by simp [serve, hHeld]⟩
    | some found => exact .inl ⟨.cannotCreateSecret secret.name, by simp [serve, hHeld]⟩

/-- A call changes the secrets of no other client, unless it deletes a secret
that is not its own. -/
theorem serve_owns_other (reply : issued.Response) (hOther : other ≠ client)
    (hDelete : ∀ namespaceName name, issued = .deleteSecret namespaceName name →
      vault.Owns client (namespaceName, name)) :
    (vault.serve client issued reply).2.Owns other key ↔ vault.Owns other key := by
  cases issued with
  | createSecret secret overwrite =>
    cases reply with
    | error error => rfl
    | ok _ =>
      simp only [serve]
      split
      · rfl
      · exact owns_put_other secret hOther
  | deleteSecret namespaceName name =>
    have hOwn := hDelete namespaceName name rfl
    simp only [serve, isSome_of_owns hOwn, if_true, owns_remove]
    refine and_iff_right_of_imp fun hOwns hKey => hOther ?_
    exact (hKey ▸ hOwns).unique hOwn
  | getSecret namespaceName name => rw [serve_aside (by trivial)]
  | _ => rfl

/-- After any call but a deletion of the name, the last writer of a name is who
it was and the secret is what it was, or the name has just been written. -/
theorem serve_writer (reply : issued.Response) (hDelete : issued ≠ .deleteSecret key.1 key.2) :
    ((vault.serve client issued reply).2.held key).isSome = true ∨
      ((vault.serve client issued reply).2.writer key = vault.writer key ∧
        (vault.serve client issued reply).2.held key = vault.held key) := by
  cases issued with
  | createSecret secret overwrite =>
    cases reply with
    | error error => exact .inr ⟨rfl, rfl⟩
    | ok _ =>
      simp only [serve]
      split
      · exact .inr ⟨rfl, rfl⟩
      · by_cases hKey : key = secret.key
        · simp [put, hKey]
        · simp [put, hKey]
  | deleteSecret namespaceName name =>
    have hKey : key ≠ (namespaceName, name) := by
      rintro rfl
      exact hDelete rfl
    simp only [serve]
    split
    · exact .inr ⟨rfl, by simp [remove, hKey]⟩
    · exact .inr ⟨rfl, rfl⟩
  | getSecret namespaceName name =>
    rw [serve_aside (by trivial)]
    exact .inr ⟨rfl, rfl⟩
  | _ => exact .inr ⟨rfl, rfl⟩

end Vault

namespace Cluster

variable {Client : Type} [DecidableEq Client] {globalTenantId : String} {cluster : Cluster Client}
  {turn : Client × Choice} {issued : ApiCall} {next : issued.Response → RequestProgram}

theorem step_of_done {result : Except RestErrorResponse HttpResponse}
    (h : (cluster.system.sessions turn.1).program = .done result) :
    cluster.step globalTenantId turn = cluster := by
  have hSystem : cluster.system.step globalTenantId (turn.1, cluster.choice turn) = cluster.system :=
    System.step_of_done h
  rw [step, hSystem, h]

theorem step_vault (h : (cluster.system.sessions turn.1).program = .call issued next) :
    (cluster.step globalTenantId turn).vault = (cluster.vault.serve turn.1 issued (turn.2.reply issued)).2 := by
  rw [step, h]

/-- The answer to a call of the client whose turn it is. -/
def answer (globalTenantId : String) (cluster : Cluster Client) (turn : Client × Choice)
    (issued : ApiCall) : issued.Response :=
  (System.serve globalTenantId (cluster.choice turn) cluster.system.store issued).1

theorem step_program (h : (cluster.system.sessions turn.1).program = .call issued next) :
    ((cluster.step globalTenantId turn).system.sessions turn.1).program =
      next (cluster.answer globalTenantId turn issued) := by
  have hSelf : (cluster.system.sessions (turn.1, cluster.choice turn).1).program = .call issued next := h
  exact congrArg Session.program (System.step_self hSelf)

theorem step_other {client : Client} (h : client ≠ turn.1) :
    (cluster.step globalTenantId turn).system.sessions client = cluster.system.sessions client :=
  System.step_other _ h

theorem step_store (h : (cluster.system.sessions turn.1).program = .call issued next) :
    (cluster.step globalTenantId turn).system.store =
      (System.serve globalTenantId (cluster.choice turn) cluster.system.store issued).2 := by
  change (cluster.system.step globalTenantId (turn.1, cluster.choice turn)).store = _
  exact System.step_store h

theorem step_store_of_reads (h : (cluster.system.sessions turn.1).program = .call issued next)
    (hReads : issued.Reads) : (cluster.step globalTenantId turn).system.store = cluster.system.store :=
  (step_store h).trans (System.serve_reads _ hReads _)

end Cluster

section Runs

variable {Client : Type} {cluster changed : Cluster Client} {client : Client}

/-- How far a create with inline credentials has come, and what it owns. -/
inductive InlineStanding (cluster : Cluster Client) (client : Client) : Prop where
  | creating {key : SecretKey} (hCode : Creating key (cluster.system.sessions client).program)
      (hOwns : ∀ other, ¬cluster.vault.Owns client other)
  | storing {key : SecretKey} (hCode : Storing key (cluster.system.sessions client).program)
      (hOwns : ∀ other, cluster.vault.Owns client other ↔ other = key)
  | rollingBack {key : SecretKey} (hCode : RollingBack key (cluster.system.sessions client).program)
      (hOwns : ∀ other, cluster.vault.Owns client other ↔ other = key)
  | created {row : DataConnectionResource} {tenantId : String}
      (hDone : (cluster.system.sessions client).program = .done (.ok ⟨201, .dataConnection row⟩))
      (hRow : row ∈ rows cluster.system.store .dataConnections)
      (hTenant : row.metadata.tenantId = some tenantId)
      (hOwns : cluster.vault.Owns client (tenantId, row.resource.credentialsRef.secret))

/-- Turns of other clients do not change how far a create has come. -/
theorem InlineStanding.frame (h : InlineStanding cluster client)
    (hSession : changed.system.sessions client = cluster.system.sessions client)
    (hOwns : ∀ key, changed.vault.Owns client key ↔ cluster.vault.Owns client key)
    (hRows : ∀ row ∈ rows cluster.system.store .dataConnections,
      row ∈ rows changed.system.store .dataConnections) : InlineStanding changed client := by
  cases h with
  | creating hCode hNone =>
    exact .creating (hSession ▸ hCode) fun other => (hOwns other).not.mpr (hNone other)
  | storing hCode hOwn => exact .storing (hSession ▸ hCode) fun other => (hOwns other).trans (hOwn other)
  | rollingBack hCode hOwn =>
    exact .rollingBack (hSession ▸ hCode) fun other => (hOwns other).trans (hOwn other)
  | created hDone hRow hTenant hOwn =>
    exact .created (hSession ▸ hDone) (hRows _ hRow) hTenant ((hOwns _).mpr hOwn)

/-- What holds between the turns of any run. -/
structure Consistent (globalTenantId : String) (requests : Client → Request)
    (start : List DataConnectionResource) (cluster : Cluster Client) : Prop where
  reachable : Reachable globalTenantId cluster.system.store
  inline : ∀ client, (requests client).Inline → InlineStanding cluster client
  exporting : ∀ client, (requests client).Export → Exporting (cluster.system.sessions client).program
  rows : ∀ row ∈ rows cluster.system.store .dataConnections, row ∈ start ∨
    ∃ client, (cluster.system.sessions client).program = .done (.ok ⟨201, .dataConnection row⟩)

variable {requests : Client → Request} {start : List DataConnectionResource}

theorem Consistent.initial {service : ApiService} (texts : LibraryTexts) {store : Tables}
    (secrets : SecretKey → Option Secret) (requests : Client → Request)
    (h : Reachable service.globalTenantId store) :
    Consistent service.globalTenantId requests (DataConnectHub.rows store .dataConnections)
      (Cluster.initial service texts store secrets requests) where
  reachable := h
  inline client hInline := by
    obtain ⟨key, hCode⟩ := handle_creating service texts hInline
    exact .creating hCode fun other => Vault.not_owns_initial secrets
  exporting client hExport := handle_exporting service texts hExport
  rows row hRow := .inl hRow

theorem Request.Inline.not_export {request : Request} (h : request.Inline) : ¬request.Export := by
  obtain ⟨creds, hInline⟩ := h
  rintro ⟨id, secretName, hExport⟩
  rw [hInline] at hExport
  cases hExport

/-- Only a create that takes its secret back deletes, and it fails then. -/
theorem Consistent.fails_of_deletion {globalTenantId : String} {key : SecretKey}
    (hRequests : ∀ client, (requests client).Inline ∨ (requests client).Export)
    (h : Consistent globalTenantId requests start cluster)
    {next : (ApiCall.deleteSecret key.1 key.2).Response → RequestProgram}
    (hProgram : (cluster.system.sessions client).program = .call (.deleteSecret key.1 key.2) next)
    (answer : (ApiCall.deleteSecret key.1 key.2).Response) :
    ∃ response, next answer = .done (.error response) := by
  rcases hRequests client with hInline | hExport
  · cases h.inline client hInline with
    | creating hCode hOwns =>
      rw [hProgram] at hCode
      cases hCode with
      | ask hAside hNext => exact hAside.elim
    | storing hCode hOwns =>
      rw [hProgram] at hCode
      cases hCode
    | rollingBack hCode hOwns =>
      rw [hProgram] at hCode
      generalize hIssued : ApiCall.deleteSecret key.1 key.2 = issued at *
      cases hCode with
      | delete hNext => exact hNext answer
    | created hDone hRow hTenant hOwns =>
      rw [hProgram] at hDone
      cases hDone
  · have hCode := h.exporting client hExport
    rw [hProgram] at hCode
    cases hCode with
    | ask hAside hNext => exact hAside.elim

variable [DecidableEq Client] {globalTenantId : String} {turn : Client × Choice} {issued : ApiCall}
  {next : issued.Response → RequestProgram}

/-- A turn is settled by what it does to its own client and to the rows. -/
theorem Consistent.step_of (h : Consistent globalTenantId requests start cluster)
    (hProgram : (cluster.system.sessions turn.1).program = .call issued next)
    (hDelete : ∀ namespaceName name, issued = .deleteSecret namespaceName name →
      cluster.vault.Owns turn.1 (namespaceName, name))
    (hRows : ∀ row ∈ DataConnectHub.rows cluster.system.store .dataConnections,
      row ∈ DataConnectHub.rows (cluster.step globalTenantId turn).system.store .dataConnections)
    (hNew : ∀ row ∈ DataConnectHub.rows (cluster.step globalTenantId turn).system.store .dataConnections,
      row ∈ DataConnectHub.rows cluster.system.store .dataConnections ∨
        next (cluster.answer globalTenantId turn issued) = .done (.ok ⟨201, .dataConnection row⟩))
    (hInline : (requests turn.1).Inline → InlineStanding (cluster.step globalTenantId turn) turn.1)
    (hExport : (requests turn.1).Export → Exporting (next (cluster.answer globalTenantId turn issued))) :
    Consistent globalTenantId requests start (cluster.step globalTenantId turn) where
  reachable := System.step_reachable _ h.reachable
  inline client hClient := by
    by_cases hSelf : client = turn.1
    · subst hSelf
      exact hInline hClient
    · refine (h.inline client hClient).frame (Cluster.step_other hSelf) (fun key => ?_) hRows
      rw [Cluster.step_vault hProgram]
      exact Vault.serve_owns_other _ hSelf hDelete
  exporting client hClient := by
    by_cases hSelf : client = turn.1
    · subst hSelf
      rw [Cluster.step_program hProgram]
      exact hExport hClient
    · rw [Cluster.step_other hSelf]
      exact h.exporting client hClient
  rows row hRow := by
    rcases hNew row hRow with hOld | hDone
    · refine (h.rows row hOld).imp_right fun ⟨client, hClient⟩ => ⟨client, ?_⟩
      have hOther : client ≠ turn.1 := by
        rintro rfl
        rw [hProgram] at hClient
        cases hClient
      rwa [Cluster.step_other hOther]
    · exact .inr ⟨turn.1, (Cluster.step_program hProgram).trans hDone⟩

variable {tenantId : String} {connection : DataConnection}

theorem appends_of_effect {registry after : Registry} {answer : MetaAnswer} {id now : String}
    (h : MetaCall.Effect globalTenantId registry (.createDataConnection tenantId connection id now) answer after) :
    answer = .row .dataConnections (newConnection tenantId connection id now) ∧
      after .dataConnections = registry .dataConnections ++ [newConnection tenantId connection id now] := by
  cases h with
  | createDataConnection hType => exact ⟨rfl, Registry.insert_self _ _⟩

/-- The insert of a create fails and changes nothing, or it adds the row. -/
theorem Cluster.insert_cases
    {next : (ApiCall.store (.createDataConnection tenantId connection)).Response → RequestProgram}
    (hStore : Reachable globalTenantId cluster.system.store) (hProgram : (cluster.system.sessions turn.1).program =
      .call (.store (.createDataConnection tenantId connection)) next) :
    (∃ error, cluster.answer globalTenantId turn (.store (.createDataConnection tenantId connection)) = .error error ∧
      rows (cluster.step globalTenantId turn).system.store = rows cluster.system.store) ∨
    ∃ row : DataConnectionResource,
      cluster.answer globalTenantId turn (.store (.createDataConnection tenantId connection)) = .ok row ∧
        row.metadata.tenantId = some tenantId ∧ row.resource.credentialsRef = connection.credentialsRef ∧
        rows (cluster.step globalTenantId turn).system.store .dataConnections =
          rows cluster.system.store .dataConnections ++ [row] := by
  rw [Cluster.step_store hProgram]
  have hWriting : (StoreCall.createDataConnection tenantId connection).writing turn.2.stamp = some _ := rfl
  rcases StoreCall.run_cases_of_writing hWriting hStore.wellFormed with
    ⟨row, hRow, hEffect⟩ | ⟨⟨error, hError⟩, hSame⟩
  · obtain ⟨hAnswer, hAppend⟩ := appends_of_effect hEffect
    cases hAnswer
    exact .inr ⟨_, hRow, rfl, rfl, hAppend⟩
  · exact .inl ⟨error, hError, congrArg rows hSame⟩

section

variable (h : Consistent globalTenantId requests start cluster)
  (hProgram : (cluster.system.sessions turn.1).program = .call issued next)

include h hProgram

theorem Consistent.step_of_reads (hReads : issued.Reads)
    (hDelete : ∀ namespaceName name, issued = .deleteSecret namespaceName name →
      cluster.vault.Owns turn.1 (namespaceName, name))
    (hInline : (requests turn.1).Inline → InlineStanding (cluster.step globalTenantId turn) turn.1)
    (hExport : (requests turn.1).Export → Exporting (next (cluster.answer globalTenantId turn issued))) :
    Consistent globalTenantId requests start (cluster.step globalTenantId turn) := by
  have hStore : (cluster.step globalTenantId turn).system.store = cluster.system.store :=
    Cluster.step_store_of_reads hProgram hReads
  refine h.step_of hProgram hDelete ?_ ?_ hInline hExport
  · intro row hRow
    rwa [hStore]
  · intro row hRow
    rw [hStore] at hRow
    exact .inl hRow

theorem Consistent.step_export (hRequest : (requests turn.1).Export) :
    Consistent globalTenantId requests start (cluster.step globalTenantId turn) := by
  have hCode := h.exporting turn.1 hRequest
  have hNotInline : ¬(requests turn.1).Inline := fun hInline => hInline.not_export hRequest
  rw [hProgram] at hCode
  cases hCode with
  | ask hAside hNext =>
    refine h.step_of_reads hProgram hAside.reads ?_ hNotInline.elim fun _ => hNext _
    rintro namespaceName name rfl
    exact hAside.elim
  | write hNext =>
    exact h.step_of_reads hProgram trivial nofun hNotInline.elim fun _ => hNext _

variable {key : SecretKey} (hRequest : (requests turn.1).Inline)

include hRequest

/-- A create that has no secret asks for something, or creates its secret. -/
theorem Consistent.step_creating (hCode : Creating key (.call issued next))
    (hOwns : ∀ other, ¬cluster.vault.Owns turn.1 other) :
    Consistent globalTenantId requests start (cluster.step globalTenantId turn) := by
  have hAfter : _ = next (cluster.answer globalTenantId turn issued) := Cluster.step_program hProgram
  have hVault : (cluster.step globalTenantId turn).vault = _ := Cluster.step_vault hProgram
  cases hCode with
  | ask hAside hNext =>
    refine h.step_of_reads hProgram hAside.reads ?_ (fun _ => .creating (hAfter ▸ hNext _) ?_)
      hRequest.not_export.elim
    · rintro namespaceName name rfl
      exact hAside.elim
    · rwa [hVault, Vault.serve_aside hAside]
  | @create secret _ hKey hError hOk =>
    refine h.step_of_reads hProgram trivial nofun (fun _ => ?_) hRequest.not_export.elim
    have hAnswer : cluster.answer globalTenantId turn (.createSecret secret false) =
      (cluster.vault.serve turn.1 (.createSecret secret false) (turn.2.reply _)).1 := rfl
    rcases Vault.serve_create cluster.vault turn.1 secret (turn.2.reply _) with
      ⟨error, hServe⟩ | ⟨hNew, hServe⟩
    · rw [hAnswer, hServe] at hAfter
      rw [hServe] at hVault
      obtain ⟨response, hFailed⟩ := hError error
      exact .creating (hAfter ▸ hFailed ▸ .failed response : Creating key _) (hVault ▸ hOwns)
    · rw [hAnswer, hServe] at hAfter
      rw [hServe] at hVault
      refine .storing (hAfter ▸ hOk) fun other => ?_
      rw [hVault, Vault.owns_put_self secret hNew, hKey]
      exact or_iff_left (hOwns other)

/-- A create that has its secret stores its row, or has to take the secret back. -/
theorem Consistent.step_storing (hCode : Storing key (.call issued next))
    (hOwns : ∀ other, cluster.vault.Owns turn.1 other ↔ other = key) :
    Consistent globalTenantId requests start (cluster.step globalTenantId turn) := by
  have hAfter : _ = next (cluster.answer globalTenantId turn issued) := Cluster.step_program hProgram
  have hVault : (cluster.step globalTenantId turn).vault = _ := Cluster.step_vault hProgram
  cases hCode with
  | insert hSecret hOk hError =>
    replace hVault : (cluster.step globalTenantId turn).vault = cluster.vault := hVault
    rcases Cluster.insert_cases h.reachable hProgram with
      ⟨error, hAnswer, hSame⟩ | ⟨row, hAnswer, hTenant, hRef, hRows⟩
    · rw [hAnswer] at hAfter
      refine h.step_of hProgram nofun ?_ ?_ (fun _ => .rollingBack (hAfter ▸ hError error) (hVault ▸ hOwns))
        hRequest.not_export.elim
      · intro row hRow
        rwa [hSame]
      · intro row hRow
        rw [hSame] at hRow
        exact .inl hRow
    · rw [hAnswer, hOk] at hAfter
      refine h.step_of hProgram nofun ?_ ?_ (fun _ => .created hAfter ?_ hTenant ?_)
        hRequest.not_export.elim
      · intro old hOld
        rw [hRows]
        exact List.mem_append_left _ hOld
      · intro old hOld
        rw [hRows, List.mem_append, List.mem_singleton] at hOld
        refine hOld.imp_right fun hNew => ?_
        rw [hNew, hAnswer, hOk]
      · rw [hRows]
        exact List.mem_append_right _ (List.mem_singleton_self row)
      · rw [hVault, hRef, hSecret]
        exact (hOwns _).mpr rfl

/-- A create that takes its secret back has none afterwards. -/
theorem Consistent.step_rollingBack (hCode : RollingBack key (.call issued next))
    (hOwns : ∀ other, cluster.vault.Owns turn.1 other ↔ other = key) :
    Consistent globalTenantId requests start (cluster.step globalTenantId turn) := by
  have hAfter : _ = next (cluster.answer globalTenantId turn issued) := Cluster.step_program hProgram
  have hVault : (cluster.step globalTenantId turn).vault = _ := Cluster.step_vault hProgram
  cases hCode with
  | delete hNext =>
    have hOwn : cluster.vault.Owns turn.1 key := (hOwns key).mpr rfl
    refine h.step_of_reads hProgram trivial ?_ (fun _ => ?_) hRequest.not_export.elim
    · rintro namespaceName name hDelete
      cases hDelete
      exact hOwn
    · obtain ⟨response, hFailed⟩ := hNext (cluster.answer globalTenantId turn _)
      refine .creating (hAfter ▸ hFailed ▸ .failed response : Creating key _) fun other => ?_
      rw [hVault]
      simp only [Vault.serve, Vault.isSome_of_owns hOwn, if_true, Vault.owns_remove]
      rintro ⟨hOther, hOwned⟩
      exact hOther ((hOwns other).mp hOwned)

end

theorem Consistent.step (hRequests : ∀ client, (requests client).Inline ∨ (requests client).Export)
    (h : Consistent globalTenantId requests start cluster) (turn : Client × Choice) :
    Consistent globalTenantId requests start (cluster.step globalTenantId turn) := by
  cases hProgram : (cluster.system.sessions turn.1).program with
  | done result => rwa [Cluster.step_of_done hProgram]
  | call issued next =>
    rcases hRequests turn.1 with hInline | hExport
    · cases h.inline turn.1 hInline with
      | creating hCode hOwns => exact h.step_creating hProgram hInline (hProgram ▸ hCode) hOwns
      | storing hCode hOwns => exact h.step_storing hProgram hInline (hProgram ▸ hCode) hOwns
      | rollingBack hCode hOwns => exact h.step_rollingBack hProgram hInline (hProgram ▸ hCode) hOwns
      | created hDone hRow hTenant hOwns =>
        rw [hProgram] at hDone
        cases hDone
    · exact h.step_export hProgram hExport

/-- What a request wrote last is still there unless the request has failed. -/
def WritersStand (cluster : Cluster Client) : Prop :=
  ∀ key client, cluster.vault.writer key = some client → (cluster.vault.held key).isSome = true ∨
      ∃ error, (cluster.system.sessions client).program = .done (.error error)

/-- The secret that the next call deletes. -/
def nextDeletion : RequestProgram → Option SecretKey
  | .call (.deleteSecret namespaceName name) _ => some (namespaceName, name)
  | _ => none

/-- The client whose turn it is deletes a secret only if it wrote it last. -/
def Cluster.TakesBackOwn (cluster : Cluster Client) (turn : Client × Choice) : Prop :=
  ∀ key ∈ nextDeletion (cluster.system.sessions turn.1).program, cluster.vault.writer key = some turn.1

instance (cluster : Cluster Client) (turn : Client × Choice) : Decidable (cluster.TakesBackOwn turn) :=
  inferInstanceAs (Decidable (∀ key ∈ nextDeletion _, _))

theorem WritersStand.step (hRequests : ∀ client, (requests client).Inline ∨ (requests client).Export)
    (hConsistent : Consistent globalTenantId requests start cluster) (h : WritersStand cluster)
    (hOwn : cluster.TakesBackOwn turn) : WritersStand (cluster.step globalTenantId turn) := by
  cases hProgram : (cluster.system.sessions turn.1).program with
  | done result => rwa [Cluster.step_of_done hProgram]
  | call issued next =>
    intro key client hWriter
    rw [Cluster.step_vault hProgram] at hWriter ⊢
    by_cases hDelete : issued = .deleteSecret key.1 key.2
    · subst hDelete
      right
      have hSame : (cluster.vault.serve turn.1 (.deleteSecret key.1 key.2) (turn.2.reply _)).2.writer =
          cluster.vault.writer := by
        simp only [Vault.serve]
        split <;> rfl
      have hClient : client = turn.1 := by
        rw [hSame, hOwn key (by rw [hProgram]; rfl)] at hWriter
        exact (Option.some.inj hWriter).symm
      rw [hClient, Cluster.step_program hProgram]
      exact hConsistent.fails_of_deletion hRequests hProgram _
    · rcases Vault.serve_writer (turn.2.reply issued) hDelete with hHeld | ⟨hSame, hHeld⟩
      · exact .inl hHeld
      · rw [hSame] at hWriter
        rw [hHeld]
        refine (h key client hWriter).imp_right fun ⟨error, hError⟩ => ⟨error, ?_⟩
        have hOther : client ≠ turn.1 := by
          rintro rfl
          rw [hProgram] at hError
          cases hError
        rwa [Cluster.step_other hOther]

end Runs

section Results

variable {Client : Type}

/-- Every create with inline credentials has happened or has not. A row in the
tables is one of the start or one that a successful create returned. -/
structure AllOrNothing (requests : Client → Request) (start : List DataConnectionResource)
    (cluster : Cluster Client) : Prop where
  created : ∀ client response, (requests client).Inline →
    (cluster.system.sessions client).program = .done (.ok response) →
    ∃ row tenantId, response = ⟨201, .dataConnection row⟩ ∧
      row ∈ rows cluster.system.store .dataConnections ∧ row.metadata.tenantId = some tenantId ∧
      (cluster.vault.held (tenantId, row.resource.credentialsRef.secret)).isSome = true
  failed : ∀ client error, (requests client).Inline → (cluster.system.sessions client).program = .done (.error error) →
    ∀ key, ¬cluster.vault.Owns client key
  rows : ∀ row ∈ rows cluster.system.store .dataConnections, row ∈ start ∨ ∃ client, (requests client).Inline ∧
      (cluster.system.sessions client).program = .done (.ok ⟨201, .dataConnection row⟩)

/-- Every secret that a successful request wrote last is there. -/
def SecretsKept (cluster : Cluster Client) : Prop :=
  ∀ key client, cluster.vault.writer key = some client → (cluster.system.sessions client).Succeeded →
    (cluster.vault.held key).isSome = true

variable {globalTenantId : String} {requests : Client → Request} {start : List DataConnectionResource}
  {cluster : Cluster Client}

theorem Consistent.allOrNothing (hRequests : ∀ client, (requests client).Inline ∨ (requests client).Export)
    (h : Consistent globalTenantId requests start cluster) : AllOrNothing requests start cluster where
  created client response hInline hDone := by
    cases h.inline client hInline with
    | creating hCode | storing hCode | rollingBack hCode =>
      rw [hDone] at hCode
      cases hCode
    | @created row tenantId hCreated hRow hTenant hOwns =>
      rw [hDone] at hCreated
      cases hCreated
      exact ⟨row, tenantId, rfl, hRow, hTenant, Vault.isSome_of_owns hOwns⟩
  failed client error hInline hDone := by
    cases h.inline client hInline with
    | creating hCode hOwns => exact hOwns
    | storing hCode | rollingBack hCode =>
      rw [hDone] at hCode
      cases hCode
    | created hCreated hRow hTenant hOwns =>
      rw [hDone] at hCreated
      cases hCreated
  rows row hRow := by
    refine (h.rows row hRow).imp_right fun ⟨client, hDone⟩ => ⟨client, ?_, hDone⟩
    refine (hRequests client).resolve_right fun hExport => ?_
    have hCode := h.exporting client hExport
    rw [hDone] at hCode
    cases hCode

theorem WritersStand.secretsKept (h : WritersStand cluster) : SecretsKept cluster := by
  intro key client hWriter hSucceeded
  refine (h key client hWriter).resolve_right ?_
  rintro ⟨error, hError⟩
  obtain ⟨response, hDone⟩ := hSucceeded.program_eq
  rw [hDone] at hError
  cases hError

variable [DecidableEq Client]

/-- Any number of creates with inline credentials and exports, interleaved in
any way with any calls failing: every create has happened or has not, and no
secret of a successful request is lost as long as a rollback deletes only what
its own request wrote last. -/
theorem inline_creation_all_or_nothing (service : ApiService) (texts : LibraryTexts)
    (store : Tables) (hStore : Reachable service.globalTenantId store)
    (secrets : SecretKey → Option Secret) (requests : Client → Request)
    (hRequests : ∀ client, (requests client).Inline ∨ (requests client).Export)
    (turns : List (Client × Choice)) :
    let initial := Cluster.initial service texts store secrets requests
    AllOrNothing requests (rows store .dataConnections) (initial.run service.globalTenantId turns) ∧
      (Throughout (Cluster.step service.globalTenantId) Cluster.TakesBackOwn initial turns →
        SecretsKept (initial.run service.globalTenantId turns)) := by
  have hInitial := Consistent.initial texts secrets requests hStore
  have hRun : Consistent service.globalTenantId requests (rows store .dataConnections)
      (turns.foldl (Cluster.step service.globalTenantId) (Cluster.initial service texts store secrets requests)) :=
    List.foldlRecOn turns _ hInitial fun _ h turn _ => h.step hRequests turn
  refine ⟨hRun.allOrNothing hRequests, fun hTurns => WritersStand.secretsKept ?_⟩
  let Holds (cluster : Cluster Client) : Prop :=
    Consistent service.globalTenantId requests (rows store .dataConnections) cluster ∧ WritersStand cluster
  have hStep {cluster : Cluster Client} {turn : Client × Choice} (h : Holds cluster)
      (hOwn : cluster.TakesBackOwn turn) : Holds (cluster.step service.globalTenantId turn) :=
    ⟨h.1.step hRequests turn, h.2.step hRequests h.1 hOwn⟩
  have hStart : Holds (Cluster.initial service texts store secrets requests) := ⟨hInitial, nofun⟩
  exact (hTurns.preserves hStep hStart).2

end Results

/-- The first client creates a connection with a secret of its own, under the
name given; the second exports the secret of the stored connection. -/
def secretRequests (name : String) : Bool → Request
  | false => tenantRequest (.createConnection (.dataConnectionWithInlineCreds
      ⟨name, "type-1", .tabular, ⟨"fresh", ∅⟩, ∅⟩))
  | true => tenantRequest (.exportConnection "connection-1" "fresh")

def ordersSecret : Secret := ⟨"orders-secret", "tenant-1", ∅, none, none⟩

def secretCluster (name : String) : Cluster Bool :=
  Cluster.initial ⟨"global", false⟩ sampleTexts sampleStore
    (fun key => if key = ordersSecret.key then some ordersSecret else none) (secretRequests name)

def secretTurns (clients : List Bool) : List (Bool × Choice) :=
  clients.map fun client => (client, openChoice "connection-2" ordersSecret)

/-- The export writes the secret that the create has just made, and the
rollback of the create, whose name is taken, deletes it. -/
theorem rollback_deletes_exported_secret :
    let cluster := (secretCluster "orders").run "global" (secretTurns [false, false, true, true, true, false, false])
    (cluster.system.sessions true).Succeeded ∧ cluster.vault.writer ("tenant-1", "fresh") = some true ∧
      (cluster.vault.held ("tenant-1", "fresh")).isSome = false := by
  decide +kernel

/-- The rollback comes before the export. -/
theorem inline_creation_sample :
    let cluster := (secretCluster "orders").run "global" (secretTurns [false, false, false, false, true, true, true])
    (cluster.system.sessions true).Succeeded ∧ ¬(cluster.system.sessions false).Succeeded ∧
      (cluster.vault.held ("tenant-1", "fresh")).isSome = true := by
  have hResult := inline_creation_all_or_nothing ⟨"global", false⟩ sampleTexts sampleStore
    sampleStore_reachable (fun key => if key = ordersSecret.key then some ordersSecret else none)
    (secretRequests "orders")
    (fun | false => .inl ⟨_, rfl⟩ | true => .inr ⟨_, _, rfl⟩)
    (secretTurns [false, false, false, false, true, true, true])
  have hDone : (((secretCluster "orders").run "global"
      (secretTurns [false, false, false, false, true, true, true])).system.sessions true).Succeeded := by
    decide +kernel
  refine ⟨hDone, by decide +kernel, hResult.2 (by decide +kernel) _ true (by decide +kernel) hDone⟩

end DataConnectHub.Rest
