import DataConnectHub.Controller.Kube
import DataConnectHub.Controller.RestClient

/-! The migration of the dashboard's connection secrets. A reconcile of the
watcher creates a connection that refers to the secret and then marks the
secret as migrated. It takes a conflict for a connection it has created before,
although a connection of another secret may have the name. -/
namespace DataConnectHub.Controller

open Serde RowStore Interaction Transaction Rest

def annotationConnectionTypeRef : String := "opendatahub.io/connection-type-ref"

/-- A labelled secret of the dashboard. -/
structure OdhSecret where
  namespaceName : String
  name : String
  annotations : StringMap String

namespace OdhSecret

def isSynced (secret : OdhSecret) : Bool :=
  annotationValue secret.annotations annotationDCHSynced == valueSyncedTrue

def typeRef (secret : OdhSecret) : String := annotationValue secret.annotations annotationConnectionTypeRef

def displayName (secret : OdhSecret) : String :=
  let name := annotationValue secret.annotations annotationDisplayName
  if name = "" then secret.name else name

def connection (secret : OdhSecret) (typeId : String) : DataConnection :=
  { name := secret.displayName
    dataConnectionTypeId := typeId
    format := .tabular
    credentialsRef := ⟨secret.name⟩
    properties := ∅ }

end OdhSecret

/-- The secrets of the cluster and the tables behind the REST service. -/
structure Migration where
  secrets : List OdhSecret
  store : Tables

/-- One reconcile request, and how the calls made for it turn out. -/
structure WatcherPass where
  namespaceName : String
  name : String
  getFault : Option ApiError
  services : Except ApiError (List Bool)
  listing : Delivery
  creation : Delivery
  patchFault : Option ApiError

namespace Migration

def find? (migration : Migration) (namespaceName name : String) : Option OdhSecret :=
  migration.secrets.find? fun secret => secret.namespaceName == namespaceName && secret.name == name

def get (migration : Migration) (pass : WatcherPass) : Except ApiError OdhSecret :=
  match pass.getFault, migration.find? pass.namespaceName pass.name with
  | some error, _ => .error error
  | none, some secret => .ok secret
  | none, none => .error ⟨.notFound, s!"secrets \"{pass.name}\" not found"⟩

def isSynced (migration : Migration) (namespaceName name : String) : Bool :=
  (migration.find? namespaceName name).any OdhSecret.isSynced

def marked (secret other : OdhSecret) : OdhSecret :=
  if other.namespaceName = secret.namespaceName ∧ other.name = secret.name then
    { other with annotations := other.annotations.insert annotationDCHSynced valueSyncedTrue }
  else other

/-- The merge patch holds the annotation alone: the rest of the secret stays as
it is by then. -/
def markSynced (migration : Migration) (pass : WatcherPass) (secret : OdhSecret) :
    Except ApiError CtrlResult × Migration :=
  match pass.patchFault with
  | some error => (.error error, migration)
  | none => (.ok .done, { migration with secrets := migration.secrets.map (marked secret) })

end Migration

def resolveConnectionTypeID (typeRef : String) (types : List DataConnectionTypeResource) : Except ClientError String :=
  match types.find? fun type => type.resource.name == typeRef with
  | some type => .ok type.metadata.id
  | none =>
    match (builtinProviderAliases typeRef).bind fun provider =>
        types.find? fun type => type.resource.provider == provider with
    | some type => .ok type.metadata.id
    | none => .error .notFound

/-- The part of a reconcile that talks to the REST service. -/
def migrate (api : RestApi) (migration : Migration) (pass : WatcherPass) (secret : OdhSecret) :
    Except ApiError CtrlResult × Migration :=
  let listed := api.listConnectionTypes secret.namespaceName pass.listing migration.store
  let migration := { migration with store := listed.2 }
  match listed.1.bind (resolveConnectionTypeID secret.typeRef) with
  | .error .serviceUnavailable => (.ok (.requeueAfter requeueOnMigrationServiceUnavailable), migration)
  | .error .notFound => (.ok (.requeueAfter requeueOnMigrationServiceUnavailable), migration)
  | .error _ => (.ok .done, migration)
  | .ok typeId =>
    let created := api.createConnection secret.namespaceName (secret.connection typeId) pass.creation migration.store
    let migration := { migration with store := created.2 }
    match created.1 with
    | .ok () => migration.markSynced pass secret
    | .error .conflict => migration.markSynced pass secret
    | .error .serviceUnavailable => (.ok (.requeueAfter requeueOnMigrationServiceUnavailable), migration)
    | .error _ => (.ok .done, migration)

def reconcileSecret (api : RestApi) (migration : Migration) (pass : WatcherPass) :
    Except ApiError CtrlResult × Migration :=
  match migration.get pass with
  | .error error =>
    (if error.reason = .notFound then .ok .done else .error error, migration)
  | .ok secret =>
    match dataConnectServiceDeleting pass.services with
    | .error error => (.error error, migration)
    | .ok true => (.ok .done, migration)
    | .ok false =>
      if secret.isSynced then (.ok .done, migration)
      else if secret.typeRef = "" then (.ok .done, migration)
      else migrate api migration pass secret

/-- A connection of the tenant that refers to the secret. -/
def HasConnection (store : Tables) (namespaceName name : String) : Prop :=
  ∃ row ∈ rows store .dataConnections, row.metadata.tenantId = some namespaceName ∧
    row.resource.credentialsRef.secret = name

instance (store : Tables) (namespaceName name : String) :
    Decidable (HasConnection store namespaceName name) :=
  inferInstanceAs (Decidable (∃ row ∈ _, _))

def NameTaken (store : Tables) (namespaceName name : String) : Prop :=
  ∃ row ∈ rows store .dataConnections, row.metadata.tenantId = some namespaceName ∧ row.resource.name = name

instance (store : Tables) (namespaceName name : String) : Decidable (NameTaken store namespaceName name) :=
  inferInstanceAs (Decidable (∃ row ∈ _, _))

namespace Migration

variable {api : RestApi} {migration : Migration} {pass : WatcherPass} {secret : OdhSecret}

theorem find?_marked (secrets : List OdhSecret) (store : Tables) (secret : OdhSecret) (namespaceName name : String) :
    find? ⟨secrets.map (marked secret), store⟩ namespaceName name =
      (find? ⟨secrets, store⟩ namespaceName name).map (marked secret) := by
  have hKey (other : OdhSecret) : (marked secret other).namespaceName = other.namespaceName ∧
      (marked secret other).name = other.name := by
    unfold marked
    split <;> exact ⟨rfl, rfl⟩
  simp only [find?, List.find?_map]
  congr 2
  funext other
  simp only [Function.comp, (hKey other).1, (hKey other).2]

/-- Only the secret that a reconcile is about can become marked. -/
theorem eq_of_marked {namespaceName name : String} {store after : Tables}
    {secrets : List OdhSecret} (hBefore : isSynced ⟨secrets, store⟩ namespaceName name = false)
    (hAfter : isSynced ⟨secrets.map (marked secret), after⟩ namespaceName name = true) :
    namespaceName = secret.namespaceName ∧ name = secret.name := by
  rw [isSynced, find?_marked, Option.any_map] at hAfter
  obtain ⟨found, hFound, hMarked⟩ := (Option.any_eq_true _ _).mp hAfter
  by_cases hKey : found.namespaceName = secret.namespaceName ∧ found.name = secret.name
  · have hSelf := List.find?_some hFound
    simp only [Bool.and_eq_true, beq_iff_eq] at hSelf
    exact ⟨hSelf.1.symm.trans hKey.1, hSelf.2.symm.trans hKey.2⟩
  · have hSynced : found.isSynced = true := by simpa only [Function.comp, marked, if_neg hKey] using hMarked
    have hContra : isSynced ⟨secrets, store⟩ namespaceName name = true :=
      (Option.any_eq_true _ _).mpr ⟨found, hFound, hSynced⟩
    exact absurd (hBefore.symm.trans hContra) nofun

/-- What a reconcile that marks its secret has found: its own new connection,
or a connection with the same name. -/
def Marks (before after : Migration) (pass : WatcherPass) (secret : OdhSecret) : Prop :=
  after.secrets = before.secrets.map (marked secret) ∧ (HasConnection after.store secret.namespaceName secret.name ∨
      after.store = before.store ∧ ∃ typeId id now, pass.creation.newId 0 = some id ∧
        (rows before.store).Occupied .dataConnections
          (newConnection secret.namespaceName (secret.connection typeId) id now))

theorem markSynced_cases (before : Migration) (pass : WatcherPass) {store : Tables}
    (h : HasConnection store secret.namespaceName secret.name ∨
      store = before.store ∧ ∃ typeId id now, pass.creation.newId 0 = some id ∧
        (rows before.store).Occupied .dataConnections
          (newConnection secret.namespaceName (secret.connection typeId) id now)) :
    let after := (markSynced ⟨before.secrets, store⟩ pass secret).2
    after.store = store ∧ (after.secrets = before.secrets ∨ Marks before after pass secret) := by
  unfold markSynced
  cases pass.patchFault with
  | some error => exact ⟨rfl, .inl rfl⟩
  | none => exact ⟨rfl, .inr ⟨rfl, h⟩⟩

theorem migrate_cases (hStore : WellFormed migration.store) :
    let after := (migrate api migration pass secret).2
    WellFormed after.store ∧ (after.secrets = migration.secrets ∨ Marks migration after pass secret) := by
  unfold migrate
  simp only [RestApi.listConnectionTypes_store]
  split
  · exact ⟨hStore, .inl rfl⟩
  · exact ⟨hStore, .inl rfl⟩
  · exact ⟨hStore, .inl rfl⟩
  next typeId hType =>
      have hCreated := api.exchange_wellFormed secret.namespaceName
        (.createConnection (.dataConnectionWithSecretRef (secret.connection typeId))) hStore pass.creation
      have hCases := api.createConnection_cases secret.namespaceName (secret.connection typeId) pass.creation hStore
      dsimp only at hCases
      generalize hDone : api.createConnection secret.namespaceName (secret.connection typeId) pass.creation
        migration.store = done at hCases
      have hAfter : WellFormed done.2 := by
        rw [← hDone]
        exact hCreated
      rcases hCases with ⟨hOk, id, now, hRows⟩ | ⟨hConflict, hSame, hOccupied⟩ | ⟨error, hError, hOther⟩
      · simp only [hOk]
        have hHas : HasConnection done.2 secret.namespaceName secret.name := by
          refine ⟨newConnection secret.namespaceName (secret.connection typeId) id now, ?_, rfl, rfl⟩
          rw [hRows, Registry.insert_self]
          exact List.mem_append_right _ (List.mem_singleton_self _)
        obtain ⟨hKept, hMarks⟩ := markSynced_cases migration pass (.inl hHas)
        exact ⟨by rwa [hKept], hMarks⟩
      · simp only [hConflict]
        obtain ⟨hKept, hMarks⟩ := markSynced_cases migration pass (.inr ⟨hSame, typeId, hOccupied⟩)
        exact ⟨by rwa [hKept], hMarks⟩
      · simp only [hError]
        cases error with
        | conflict => exact absurd rfl hOther
        | _ => exact ⟨hAfter, .inl rfl⟩

theorem find?_of_get (h : migration.get pass = .ok secret) :
    migration.find? pass.namespaceName pass.name = some secret := by
  unfold get at h
  split at h
  · cases h
  next hFound =>
      cases h
      exact hFound
  · cases h

theorem reconcileSecret_cases (api : RestApi) (pass : WatcherPass) (hStore : WellFormed migration.store) :
    let after := (reconcileSecret api migration pass).2
    WellFormed after.store ∧ (after.secrets = migration.secrets ∨ ∃ secret,
      migration.find? pass.namespaceName pass.name = some secret ∧ Marks migration after pass secret) := by
  unfold reconcileSecret
  split
  · exact ⟨hStore, .inl rfl⟩
  next secret hGet =>
      split
      · exact ⟨hStore, .inl rfl⟩
      · exact ⟨hStore, .inl rfl⟩
      · split
        · exact ⟨hStore, .inl rfl⟩
        · split
          · exact ⟨hStore, .inl rfl⟩
          · obtain ⟨hAfter, hCases⟩ := migrate_cases hStore
            exact ⟨hAfter, hCases.imp_right fun hMarks => ⟨secret, find?_of_get hGet, hMarks⟩⟩

/-- A reconcile leaves this behind. -/
def step (api : RestApi) (migration : Migration) (pass : WatcherPass) : Migration :=
  (reconcileSecret api migration pass).2

/-- A secret that the reconcile has marked has a connection. -/
def MarksMigrated (api : RestApi) (migration : Migration) (pass : WatcherPass) : Prop :=
  ∀ namespaceName name, migration.isSynced namespaceName name = false →
    (migration.step api pass).isSynced namespaceName name = true →
    HasConnection (migration.step api pass).store namespaceName name

/-- When the display name of the secret is taken in its namespace, then the
secret has a connection there already. Generated ids are new. -/
def NameIsOwn (migration : Migration) (pass : WatcherPass) : Prop :=
  (∀ secret ∈ migration.find? pass.namespaceName pass.name,
    NameTaken migration.store secret.namespaceName secret.displayName →
      HasConnection migration.store secret.namespaceName secret.name) ∧
  ∀ id ∈ pass.creation.newId 0, ∀ row ∈ rows migration.store .dataConnections, row.metadata.id ≠ id

instance (migration : Migration) (pass : WatcherPass) : Decidable (NameIsOwn migration pass) :=
  inferInstanceAs (Decidable (_ ∧ _))

/-- A conflict over a new id is about the display name. -/
theorem nameTaken_of_occupied {typeId id now : String}
    (hFresh : ∀ row ∈ rows migration.store .dataConnections, row.metadata.id ≠ id)
    (h : (rows migration.store).Occupied .dataConnections
      (newConnection secret.namespaceName (secret.connection typeId) id now)) :
    NameTaken migration.store secret.namespaceName secret.displayName := by
  obtain ⟨row, hRow, hId | hName⟩ := h
  · exact absurd hId (hFresh row hRow)
  · exact ⟨row, hRow, congrArg Prod.snd hName, Option.some.inj (congrArg Prod.fst hName)⟩

theorem step_marksMigrated (hStore : WellFormed migration.store) (hOwn : NameIsOwn migration pass) :
    MarksMigrated api migration pass := by
  intro namespaceName name hBefore hAfter
  obtain ⟨-, hKept | ⟨secret, hFound, hMarked, hCause⟩⟩ :=
    reconcileSecret_cases api pass hStore
  · have hSame : (migration.step api pass).isSynced namespaceName name = migration.isSynced namespaceName name := by
      unfold isSynced find? step
      rw [hKept]
    exact absurd (hBefore.symm.trans (hSame.symm.trans hAfter)) nofun
  · have hNow : isSynced ⟨migration.secrets.map (marked secret), (migration.step api pass).store⟩
        namespaceName name = true := by
      rw [← hMarked]
      exact hAfter
    obtain ⟨rfl, rfl⟩ := eq_of_marked hBefore hNow
    rcases hCause with hHas | ⟨hSame, typeId, id, now, hId, hOccupied⟩
    · exact hHas
    · rw [step, hSame]
      exact hOwn.1 secret hFound (nameTaken_of_occupied (hOwn.2 id hId) hOccupied)

theorem step_wellFormed (api : RestApi) (pass : WatcherPass) (hStore : WellFormed migration.store) :
    WellFormed (migration.step api pass).store :=
  (reconcileSecret_cases api pass hStore).1

/-- In every run of reconciles in which no secret meets a foreign connection
with its display name, every secret that gets marked has a connection. -/
theorem synced_secret_has_connection (api : RestApi) (initial : Migration) (hStore : WellFormed initial.store)
    (passes : List WatcherPass) (hOwn : Throughout (step api) NameIsOwn initial passes) :
    Throughout (step api) (MarksMigrated api) initial passes := by
  let Holds (migration : Migration) : Prop := WellFormed migration.store
  have hStep {migration : Migration} {pass : WatcherPass} (hState : Holds migration)
      (_ : NameIsOwn migration pass) : Holds (migration.step api pass) := step_wellFormed api pass hState
  have hTurn {migration : Migration} {pass : WatcherPass} (hState : Holds migration)
      (hPass : NameIsOwn migration pass) : MarksMigrated api migration pass := step_marksMigrated hState hPass
  exact hOwn.imp hStep hTurn hStore

end Migration

/-- A connection secret of the dashboard, for examples. -/
def sampleSecret (name displayName : String) : OdhSecret :=
  { namespaceName := "tenant-1", name := name
    annotations := ((∅ : StringMap String).insert annotationConnectionTypeRef "postgres").insert
      annotationDisplayName displayName }

/-- A reconcile during which every call succeeds. -/
def samplePass (name id : String) : WatcherPass :=
  { namespaceName := "tenant-1", name := name, getFault := none, services := .ok [false]
    listing := sampleDelivery id, creation := sampleDelivery id, patchFault := none }

/-- Two secrets, and a store that has the type they refer to. -/
def sampleMigration (first second : String) : Migration :=
  { secrets := [sampleSecret "orders-a" first, sampleSecret "orders-b" second]
    store := ((sampleCalls false).run "global" noFaults emptyStore).2 }

def samplePasses : List WatcherPass :=
  [samplePass "orders-a" "connection-1", samplePass "orders-b" "connection-2"]

/-- Two secrets share a display name: the second one is marked as migrated,
and no connection refers to it. -/
theorem synced_secret_without_connection : ¬Throughout (Migration.step sampleApi) (Migration.MarksMigrated sampleApi)
      (sampleMigration "Orders" "Orders") samplePasses := by
  intro h
  have hHas := h.2.1 "tenant-1" "orders-b" (by decide +kernel) (by decide +kernel)
  exact absurd hHas (by decide +kernel)

theorem synced_secret_has_connection_sample :
    (samplePasses.foldl (Migration.step sampleApi) (sampleMigration "Orders" "Returns")).isSynced
      "tenant-1" "orders-b" = true ∧
    Throughout (Migration.step sampleApi) (Migration.MarksMigrated sampleApi)
      (sampleMigration "Orders" "Returns") samplePasses := by
  have hStore : Reachable "global" (sampleMigration "Orders" "Returns").store :=
    Reachable.empty.run (sampleCalls false) noFaults
  exact ⟨by decide +kernel, Migration.synced_secret_has_connection sampleApi
    (sampleMigration "Orders" "Returns") hStore.wellFormed samplePasses (by decide +kernel)⟩

end DataConnectHub.Controller
