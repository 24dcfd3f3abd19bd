import DataConnectHub.MetaStore.Operations
import DataConnectHub.RowStore.Alone
import DataConnectHub.RustStd.Result

/-! Every writing operation of the store follows the locking discipline:
connections are locked before types, references are stored only under a lock
of their target, and a type is deleted only under its own exclusive lock with
no reference left. -/
namespace DataConnectHub

open Serde RowStore RustStd

variable {table : MetaTable} {Answer : Type}

/-- An update changes nothing of the metadata but its last part. -/
def KeepsIdentity (table : MetaTable) (change : UpdateFn table.Row) : Prop :=
  ∀ existing resource, change existing = .ok resource →
    ∃ now, table.metadata resource = { table.metadata existing with updatedAt := now }

variable (globalTenantId : String) (failed : MetaStoreError)

theorem commits_request (value : Answer) :
    Commits (do request .commit fun _ => failed; return value : MetaStoreM Answer) :=
  ⟨_, rfl, ⟨value, rfl⟩, fun _ => ⟨failed, rfl⟩⟩

theorem commits_last : Commits (request .commit fun _ => failed : MetaStoreM Unit) :=
  ⟨_, rfl, ⟨(), rfl⟩, fun _ => ⟨failed, rfl⟩⟩

/-- Locking the referenced type covers the reference of a connection. -/
theorem validateConnectionType_disciplined {globalTenantId tenantId connectionTypeId : String}
    {facts : List (Fact metaSchema)} {rest : MetaStoreM Answer}
    (hAbove : Above MetaTable.dataConnectionTypes facts)
    (hRest : ∀ doc, Disciplined (.row MetaTable.dataConnectionTypes connectionTypeId .share doc :: facts) rest) :
    Disciplined facts (do validateConnectionType globalTenantId tenantId connectionTypeId; rest : MetaStoreM Answer) :=
  .lockRow hAbove (fun _ => ⟨_, rfl⟩) ⟨_, rfl⟩ fun doc _ _ _ => hRest doc

theorem createDataConnection_disciplined (tenantId : String) (dataConnection : DataConnection) (id now : String) :
    Disciplined [] (createDataConnection globalTenantId tenantId dataConnection id now) := by
  refine .begin (fun _ => ⟨_, rfl⟩) (validateConnectionType_disciplined (by simp [Above]) fun doc => ?_)
  refine .insert ⟨_, rfl, fun _ => rfl⟩ ?_ (fun _ => ⟨_, rfl⟩) (commits_request _ _)
  intro target hTarget
  obtain rfl := List.mem_singleton.mp hTarget
  exact ⟨.share, doc, List.mem_singleton_self _⟩

/-- What an update has to validate: every reference of the new document is
that of the old one, or is locked. -/
def Validates (table : MetaTable) (uid : String)
    (change : UpdateFn table.Row) (check : table.Row → MetaStoreM Unit) : Prop :=
  ∀ existing resource (rest : MetaStoreM table.Row), change existing = .ok resource →
    (∀ facts, .row table uid .update (toValue existing) ∈ facts →
      (∀ target ∈ MetaTable.references table (toValue resource),
        target ∈ MetaTable.references table (toValue existing) ∨
          ∃ mode doc, Fact.row (S := metaSchema) target.1 target.2 mode doc ∈ facts) →
      Disciplined facts rest) →
    Disciplined (S := metaSchema) [.row table uid .update (toValue existing)]
      (do check resource; rest : MetaStoreM table.Row)

variable {uid : String} {change : UpdateFn table.Row}

theorem validates_noCheck (h : ∀ existing resource, change existing = .ok resource →
      MetaTable.references table (toValue resource) = MetaTable.references table (toValue existing)) :
    Validates table uid change noCheck := by
  intro existing resource rest hChange hRest
  refine hRest _ (List.mem_singleton_self _) fun target hTarget => .inl ?_
  rwa [← h existing resource hChange]

theorem updateRow_disciplined {filter : Json → Bool} {missing malformed failed : MetaStoreError}
    {check : table.Row → MetaStoreM Unit} (hKeeps : KeepsIdentity table change)
    (hCheck : Validates table uid change check) :
    Disciplined [] (updateRow table uid filter missing malformed failed change check) := by
  refine .begin (fun _ => ⟨_, rfl⟩) (.lockRow (by simp [Above]) (fun _ => ⟨_, rfl⟩) ⟨_, rfl⟩ ?_)
  rintro doc hKey hFilter ⟨existing, rfl, hOwned⟩
  have hDecode : decode (toValue existing) malformed = .ok existing := by simp [decode]
  change Disciplined _ (settle table uid filter failed check (decode (toValue existing) malformed >>= change))
  rw [hDecode]
  change Disciplined _ (settle table uid filter failed check (change existing))
  cases hChange : change existing with
  | error error => exact .failed error
  | ok resource =>
    obtain ⟨now, hMetadata⟩ := hKeeps existing resource hChange
    refine hCheck existing resource _ hChange fun facts hHeld hCovered => ?_
    refine .update ⟨resource, rfl, ?_⟩ ?_ hHeld hFilter hCovered (fun _ => ⟨_, rfl⟩) (commits_request _ _)
    · intro hTable
      rw [hMetadata]
      exact hOwned hTable
    · have hId : (table.metadata existing).id = uid := by simpa using hKey
      simp [hMetadata, hId]

theorem editConnection_keeps (updateFn : UpdateFn DataConnection)
    (now : String) : KeepsIdentity .dataConnections (editConnection updateFn now) := by
  intro existing resource hChange
  obtain ⟨_, _, rfl⟩ := map_eq_ok.mp hChange
  exact ⟨now, rfl⟩

theorem editConnectionStatus_keeps
    (updateFn : UpdateFn DataConnectionStatus) (now : String) :
    KeepsIdentity .dataConnections (editConnectionStatus updateFn now) := by
  intro existing resource hChange
  obtain ⟨_, _, rfl⟩ := map_eq_ok.mp hChange
  exact ⟨now, rfl⟩

theorem editType_keeps (updateFn : UpdateFn DataConnectionType)
    (now : String) : KeepsIdentity .dataConnectionTypes (editType updateFn now) := by
  intro existing resource hChange
  obtain ⟨_, _, rfl⟩ := map_eq_ok.mp hChange
  exact ⟨now, rfl⟩

theorem editTypeStatus_keeps
    (updateFn : UpdateFn DataConnectionTypeStatus) (now : String) :
    KeepsIdentity .dataConnectionTypes (editTypeStatus updateFn now) := by
  intro existing resource hChange
  obtain ⟨_, _, rfl⟩ := map_eq_ok.mp hChange
  exact ⟨now, rfl⟩

theorem editService_keeps (updateFn : UpdateFn FlightService)
    (now : String) : KeepsIdentity .flightServices (editService updateFn now) := by
  intro existing resource hChange
  obtain ⟨_, _, rfl⟩ := map_eq_ok.mp hChange
  exact ⟨now, rfl⟩

theorem updateDataConnection_disciplined (tenantId uid : String)
    (updateFn : UpdateFn DataConnection) (now : String) :
    Disciplined [] (updateDataConnection globalTenantId tenantId uid updateFn now) := by
  refine updateRow_disciplined (editConnection_keeps updateFn now) ?_
  intro existing resource rest _ hRest
  refine validateConnectionType_disciplined ?_ fun doc => hRest _ ?_ ?_
  · simp [Above, Fact.lock, MetaTable.rank]
  · simp
  · intro target hTarget
    obtain rfl := List.mem_singleton.mp hTarget
    exact .inr ⟨.share, doc, List.mem_cons_self ..⟩

theorem updateDataConnectionStatus_disciplined (tenantId uid : String)
    (updateFn : UpdateFn DataConnectionStatus) (now : String) :
    Disciplined [] (updateDataConnectionStatus tenantId uid updateFn now) := by
  refine updateRow_disciplined (editConnectionStatus_keeps updateFn now) (validates_noCheck ?_)
  intro existing resource hChange
  obtain ⟨status, -, rfl⟩ := map_eq_ok.mp hChange
  rfl

theorem deleteRow_disciplined (uid : String) (filter : Json → Bool) (missing failed : MetaStoreError) :
    Disciplined [] (deleteRow table uid filter missing failed) :=
  .delete (.inl (by simp [Above])) (fun _ => ⟨_, rfl⟩) ⟨_, rfl⟩ (commits_last _)

/-- An `INSERT` on the pool is of a row without references. -/
theorem insertRow_disciplined (resource : table.Row) (conflict : String)
    (hOwned : table.Owned resource) (hNone : MetaTable.references table (toValue resource) = []) :
    Disciplined [] (insertRow table resource conflict) := by
  refine .insert ⟨resource, rfl, hOwned⟩ ?_ (fun _ => ⟨_, rfl⟩) (commits_request _ _)
  intro target hTarget
  have hMem : target ∈ MetaTable.references table (toValue resource) := hTarget
  simp [hNone] at hMem

theorem deleteDataConnectionType_disciplined (tenantId uid : String) :
    Disciplined [] (deleteDataConnectionType tenantId uid) := by
  refine .begin (fun _ => ⟨_, rfl⟩) (.lockRow (by simp [Above]) (fun _ => ⟨_, rfl⟩) ⟨_, rfl⟩ ?_)
  intro doc _ _ _
  refine .countReferences (List.mem_singleton_self _) ?_ (fun _ => ⟨_, rfl⟩) (fun _ => ⟨_, rfl⟩) ?_
  · intro other
    simp [refersTo, MetaTable.references]
  · exact .delete (.inr ⟨doc, by simp⟩) (fun _ => ⟨_, rfl⟩) ⟨_, rfl⟩ (commits_last _)

/-- Every writing call follows the locking discipline. -/
theorem MetaCall.disciplined (call : MetaCall) : Disciplined [] (call.program globalTenantId) := by
  cases call with
  | createDataConnection tenantId dataConnection id now =>
    exact (createDataConnection_disciplined globalTenantId tenantId dataConnection id now).map _
  | updateDataConnection tenantId uid updateFn now =>
    exact (updateDataConnection_disciplined globalTenantId tenantId uid updateFn now).map _
  | updateDataConnectionStatus tenantId uid updateFn now =>
    exact (updateDataConnectionStatus_disciplined tenantId uid updateFn now).map _
  | deleteDataConnection tenantId uid => exact (deleteRow_disciplined uid _ _ _).map _
  | createDataConnectionType tenantId dataConnectionType id now =>
    exact (insertRow_disciplined _ _ (fun _ => rfl) rfl).map _
  | updateDataConnectionType tenantId uid updateFn now =>
    exact (updateRow_disciplined (editType_keeps updateFn now) (validates_noCheck fun _ _ _ => rfl)).map _
  | updateDataConnectionTypeStatus uid updateFn now =>
    exact (updateRow_disciplined (editTypeStatus_keeps updateFn now) (validates_noCheck fun _ _ _ => rfl)).map _
  | deleteDataConnectionType tenantId uid =>
    exact (deleteDataConnectionType_disciplined tenantId uid).map _
  | createFlightService flightService id now =>
    exact (insertRow_disciplined _ _ (fun h => absurd rfl h) rfl).map _
  | updateFlightService id updateFn now =>
    exact (updateRow_disciplined (editService_keeps updateFn now) (validates_noCheck fun _ _ _ => rfl)).map _
  | deleteFlightService id => exact (deleteRow_disciplined id _ _ _).map _

end DataConnectHub
