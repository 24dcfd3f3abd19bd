import DataConnectHub.MetaStore.Conflicts
import DataConnectHub.Rest.Errors

/-! What a caller is told when the row of a create or an update is refused by a
unique index. A create reports the index as a conflict. An update maps every
failure of its `UPDATE` to the same internal error, the index included. -/
namespace DataConnectHub

open Serde RowStore Transaction Rest Option

section Writes

variable (globalTenantId : String) (store : Tables)

def hasType (tenantId typeId : String) : Bool :=
  ((store .dataConnectionTypes).find? (metaSchema.selects typeId (visibleTo globalTenantId tenantId))).isSome

/-- The `UPDATE` that an update comes to: the row is there and can be read, and
the change of it is accepted and passes the check. -/
def updateOf (table : MetaTable) (uid : String) (filter : Json → Bool)
    (change : UpdateFn table.Row) (passes : table.Row → Bool) :
    Option (Statement metaSchema) := do
  let doc ← (store table).find? (metaSchema.selects uid filter)
  let existing : table.Row ← fromValue doc
  let resource ← (change existing).toOption
  if passes resource then some (.update table uid filter (toValue resource)) else none

/-- The statement that writes the row of a create or an update. -/
def MetaCall.rowWrite : MetaCall → Option (Statement metaSchema)
  | .createDataConnection tenantId dataConnection id now =>
    if hasType globalTenantId store tenantId dataConnection.dataConnectionTypeId then
      some (.insert .dataConnections (toValue (newConnection tenantId dataConnection id now)))
    else none
  | .updateDataConnection tenantId uid updateFn now =>
    updateOf store .dataConnections uid (ofTenant tenantId) (editConnection updateFn now)
      fun resource => hasType globalTenantId store tenantId resource.resource.dataConnectionTypeId
  | .updateDataConnectionStatus tenantId uid updateFn now =>
    updateOf store .dataConnections uid (ofTenant tenantId) (editConnectionStatus updateFn now) fun _ => true
  | .createDataConnectionType tenantId dataConnectionType id now =>
    some (.insert .dataConnectionTypes (toValue (newType tenantId dataConnectionType id now)))
  | .updateDataConnectionType tenantId uid updateFn now =>
    updateOf store .dataConnectionTypes uid (ofTenant tenantId) (editType updateFn now) fun _ => true
  | .updateDataConnectionTypeStatus uid updateFn now =>
    updateOf store .dataConnectionTypes uid anyTenant (editTypeStatus updateFn now) fun _ => true
  | .createFlightService flightService id now =>
    some (.insert .flightServices (toValue (newService flightService id now)))
  | .updateFlightService id updateFn now =>
    updateOf store .flightServices id anyTenant (editService updateFn now) fun _ => true
  | .deleteDataConnection .. | .deleteDataConnectionType .. | .deleteFlightService .. => none

end Writes

def MetaCall.isCreate : MetaCall → Bool
  | .createDataConnection .. | .createDataConnectionType .. | .createFlightService .. => true
  | _ => false

section Refusals

variable {Answer : Type} {globalTenantId : String} {store committed view : Tables}
  {statement : Statement metaSchema}

theorem answer_of_violates (h : statement.violates store = true) :
    statement.answer store = .error .uniqueViolation := by
  cases statement with
  | insert table doc | update table uid filter doc => simp [Statement.answer, h]
  | _ => cases h

/-- A statement refused by an index ends the operation and its transaction. -/
theorem isolated_violates (h : statement.violates view = true) (onFailure : Failure → MetaStoreError)
    (rest : (Call.query statement : Call metaSchema).Value → MetaStoreM Answer) :
    isolated noFaults (request (.query statement) onFailure >>= rest : MetaStoreM Answer)
      committed view = (.error (onFailure .uniqueViolation), committed) := by
  rw [isolated_request]
  simp only [noFaults, serve, answer_of_violates h]

theorem insertRow_violates {table : MetaTable} {resource : table.Row} {conflict : String}
    (h : (Statement.insert (S := metaSchema) table (toValue resource)).violates store = true) :
    isolated noFaults (insertRow table resource conflict) store store = (.error (.conflict conflict), store) :=
  isolated_violates h _ _

theorem createDataConnection_violates {tenantId : String} {dataConnection : DataConnection} {id now : String}
    (hType : hasType globalTenantId store tenantId dataConnection.dataConnectionTypeId = true)
    (h : (Statement.insert (S := metaSchema) .dataConnections
      (toValue (newConnection tenantId dataConnection id now))).violates store = true) :
    isolated noFaults (createDataConnection globalTenantId tenantId dataConnection id now) store store =
      (.error (mapSqlxError .uniqueViolation), store) := by
  obtain ⟨doc, hFind⟩ := isSome_iff_exists.mp hType
  rw [createDataConnection, isolated_request]
  simp only [noFaults, serve]
  change isolated noFaults (do
    validateConnectionType globalTenantId tenantId dataConnection.dataConnectionTypeId
    _ : MetaStoreM DataConnectionResource) store store = _
  rw [isolated_validateConnectionType, hFind]
  exact isolated_violates h _ _

variable {uid : String} {filter : Json → Bool} {missing malformed failed : MetaStoreError}

theorem updateRow_violates {table : MetaTable} {change : UpdateFn table.Row}
    {check : table.Row → MetaStoreM Unit} {passes : table.Row → Bool}
    (hCheck : ∀ resource (rest : MetaStoreM table.Row), passes resource = true →
      isolated noFaults (do check resource; rest : MetaStoreM table.Row) store store =
        isolated noFaults rest store store) (hWrite : updateOf store table uid filter change passes = some statement)
    (h : statement.violates store = true) :
    isolated noFaults (updateRow table uid filter missing malformed failed change check) store store =
      (.error failed, store) := by
  simp only [updateOf, bind_eq_bind, bind_eq_some_iff] at hWrite
  obtain ⟨doc, hFind, existing, hRead, resource, hChange, hWrite⟩ := hWrite
  rw [ite_none_right_eq_some, some_inj] at hWrite
  obtain ⟨hPasses, rfl⟩ := hWrite
  have hDecode : decode doc malformed = .ok existing := by simp [decode, hRead]
  have hOk : change existing = .ok resource := RustStd.toOption_eq_some.mp hChange
  rw [updateRow, isolated_request]
  simp only [noFaults, serve]
  change isolated noFaults (fetchOne table uid filter (some .update) missing failed >>= _ :
    MetaStoreM table.Row) store store = _
  rw [isolated_fetchOne, hFind]
  dsimp only
  rw [hDecode]
  change isolated noFaults (settle table uid filter failed check (change existing)) store store = _
  rw [hOk, settle, hCheck resource _ hPasses, writeBack, isolated_violates h]

theorem updateRow_violates_noCheck {table : MetaTable} {change : UpdateFn table.Row}
    (hWrite : updateOf store table uid filter change (fun _ => true) = some statement)
    (h : statement.violates store = true) :
    isolated noFaults (updateRow table uid filter missing malformed failed change noCheck) store store =
      (.error failed, store) :=
  updateRow_violates (fun _ _ _ => rfl) hWrite h

theorem isolated_mapAnswer_error {rename : Answer → MetaAnswer} {operation : MetaStoreM Answer}
    {error : MetaStoreError} (h : isolated noFaults operation store store = (.error error, store)) :
    isolated noFaults (mapAnswer rename operation) store store = (.error error, store) := by
  rw [isolated_mapAnswer, h]
  rfl

/-- Whether the error of a clash is a conflict depends on the kind of the call
alone, and the tables stay as they are either way. -/
theorem MetaCall.run_violates {call : MetaCall} (hWrite : call.rowWrite globalTenantId store = some statement)
    (h : statement.violates store = true) :
    ∃ error, call.run globalTenantId noFaults store = (.error error, store) ∧
      ((∃ message, error = .conflict message) ↔ call.isCreate = true) := by
  have hCreate : ∀ message, (∃ same, MetaStoreError.conflict message = .conflict same) ↔ true = true :=
    fun message => iff_of_true ⟨message, rfl⟩ rfl
  have hUpdate : ∀ message, (∃ same, MetaStoreError.query message = .conflict same) ↔ false = true :=
    fun message => iff_of_false (by rintro ⟨_, hSame⟩; cases hSame) nofun
  cases call with
  | createDataConnection tenantId dataConnection id now =>
    rw [MetaCall.rowWrite, ite_none_right_eq_some, some_inj] at hWrite
    obtain ⟨hType, rfl⟩ := hWrite
    exact ⟨_, isolated_mapAnswer_error (createDataConnection_violates hType h), hCreate _⟩
  | createDataConnectionType tenantId dataConnectionType id now | createFlightService flightService id now =>
    obtain rfl := some.inj hWrite
    exact ⟨_, isolated_mapAnswer_error (insertRow_violates h), hCreate _⟩
  | updateDataConnection tenantId uid updateFn now =>
    refine ⟨_, isolated_mapAnswer_error (updateRow_violates ?_ hWrite h), hUpdate _⟩
    intro resource rest hType
    obtain ⟨doc, hFind⟩ := isSome_iff_exists.mp hType
    rw [isolated_validateConnectionType, hFind]
  | updateDataConnectionStatus | updateDataConnectionType | updateDataConnectionTypeStatus
  | updateFlightService =>
    exact ⟨_, isolated_mapAnswer_error (updateRow_violates_noCheck hWrite h), hUpdate _⟩
  | _ => cases hWrite

end Refusals

/-- A create or update whose row a unique index refuses is answered with a
conflict, which becomes the status 409, just if it is a create. It changes
nothing in any case. -/
theorem clash_reported_iff (globalTenantId : String) (store : Tables) (call : MetaCall)
    (statement : Statement metaSchema)
    (hWrite : call.rowWrite globalTenantId store = some statement)
    (hClash : statement.violates store = true) :
    ((∃ message, call.run globalTenantId noFaults store = (.error (.conflict message), store) ∧
      (RestErrorResponse.ofMetaStore (.conflict message)).status = 409) ↔ call.isCreate = true) := by
  obtain ⟨error, hRun, hConflict⟩ := MetaCall.run_violates hWrite hClash
  rw [← hConflict, hRun]
  constructor
  · rintro ⟨message, hSame, -⟩
    exact ⟨message, Except.error.inj (Prod.mk.inj hSame).1⟩
  · rintro ⟨message, rfl⟩
    exact ⟨message, rfl, rfl⟩

/-- The tables of the example, with its connection created a second time. -/
def createTwice : MetaCall :=
  .createDataConnection "tenant-1" sampleConnection "connection-2" "2026-01-01T00:00:02Z"

theorem clash_reported_sample : ∃ statement, createTwice.rowWrite "global" sampleStore = some statement ∧
    statement.violates sampleStore = true ∧
    ∃ message, createTwice.run "global" noFaults sampleStore = (.error (.conflict message), sampleStore) ∧
      (RestErrorResponse.ofMetaStore (.conflict message)).status = 409 := by
  have hWrite : createTwice.rowWrite "global" sampleStore = some (.insert .dataConnections
      (toValue (newConnection "tenant-1" sampleConnection "connection-2" "2026-01-01T00:00:02Z"))) := by
    have hType : hasType "global" sampleStore "tenant-1" sampleConnection.dataConnectionTypeId = true := by
      decide +kernel
    rw [createTwice, MetaCall.rowWrite, if_pos hType]
  have hClash : (Statement.insert (S := metaSchema) .dataConnections (toValue
      (newConnection "tenant-1" sampleConnection "connection-2" "2026-01-01T00:00:02Z"))).violates
        sampleStore = true := by
    decide +kernel
  exact ⟨_, hWrite, hClash, (clash_reported_iff "global" sampleStore createTwice _ hWrite hClash).mpr rfl⟩

/-- Two connections of one tenant, the second of which is renamed to the first. -/
def twoConnections : Tables :=
  (MetaCall.run "global" (.createDataConnection "tenant-1" { sampleConnection with name := "sales" }
    "connection-2" "2026-01-01T00:00:02Z") noFaults sampleStore).2

def renameToOrders : MetaCall :=
  .updateDataConnection "tenant-1" "connection-2" (fun connection => .ok { connection with name := "orders" })
    "2026-01-01T00:00:03Z"

theorem rename_clash_not_conflict :
    ((renameToOrders.rowWrite "global" twoConnections).any (·.violates twoConnections)) = true ∧
      (renameToOrders.run "global" noFaults twoConnections).1.map (fun _ => ()) =
        .error (.query "failed to update data connection") ∧
      (RestErrorResponse.ofMetaStore (.query "failed to update data connection")).status = 500 := by
  decide +kernel

end DataConnectHub
