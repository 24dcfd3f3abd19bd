import DataConnectHub.MetaStore.Locking

/-! What a successful call does to the resources. `MetaCall.Effect` states it
for each call in terms of typed rows; a call run on the tables either has one
of these effects or returns an error and changes nothing. -/
namespace DataConnectHub

open Serde RowStore Transaction RustStd List

namespace Registry

variable (registry : Registry) (table : MetaTable)

def insert (resource : table.Row) : Registry :=
  Function.update registry table (registry table ++ [resource])

def replace (uid : String) (resource : table.Row) : Registry :=
  Function.update registry table
    ((registry table).map fun row => if (table.metadata row).id = uid then resource else row)

def remove (uid : String) : Registry :=
  Function.update registry table ((registry table).filter fun row => (table.metadata row).id ≠ uid)

/-- The type a connection of the tenant may refer to. -/
def HasType (globalTenantId tenantId typeId : String) : Prop :=
  ∃ type ∈ registry .dataConnectionTypes, type.metadata.id = typeId ∧
    (type.metadata.tenantId = some tenantId ∨ type.metadata.tenantId = some globalTenantId)

variable {registry table} {uid : String}

@[simp] theorem insert_self (registry : Registry) (resource : table.Row) :
    registry.insert table resource table = registry table ++ [resource] := by
  simp [insert]

@[simp] theorem replace_self (registry : Registry) (uid : String) (resource : table.Row) :
    registry.replace table uid resource table =
      (registry table).map fun row => if (table.metadata row).id = uid then resource else row := by
  simp [replace]

@[simp] theorem remove_self (registry : Registry) (uid : String) :
    registry.remove table uid table = (registry table).filter fun row => (table.metadata row).id ≠ uid := by
  simp [remove]

variable {other : MetaTable} {resource row : table.Row}

theorem insert_other (registry : Registry) (resource : table.Row) (h : other ≠ table) :
    registry.insert table resource other = registry other := by
  simp [insert, h]

theorem replace_other (registry : Registry) (uid : String) (resource : table.Row) (h : other ≠ table) :
    registry.replace table uid resource other = registry other := by
  simp [replace, h]

theorem remove_other (registry : Registry) (uid : String) (h : other ≠ table) :
    registry.remove table uid other = registry other := by
  simp [remove, h]

theorem mem_replace_cases (h : row ∈ registry.replace table uid resource table) :
    (row ∈ registry table ∧ (table.metadata row).id ≠ uid) ∨ row = resource := by
  rw [replace_self] at h
  obtain ⟨old, hOld, rfl⟩ := mem_map.mp h
  split
  · exact .inr rfl
  next hOther => exact .inl ⟨hOld, hOther⟩

theorem mem_replace (h : row ∈ registry.replace table uid resource table) : row ∈ registry table ∨ row = resource :=
  (mem_replace_cases h).imp_left And.left

theorem mem_remove : row ∈ registry.remove table uid table ↔ row ∈ registry table ∧ (table.metadata row).id ≠ uid := by
  simp

end Registry

/-- The row of a table with this id, in the given tenant if one is given. -/
def MetaTable.Finds (table : MetaTable) (uid : String) (tenantId : Option String) (row : table.Row) : Prop :=
  (table.metadata row).id = uid ∧ ∀ tenant, tenantId = some tenant → (table.metadata row).tenantId = some tenant

/-- What each call does when it succeeds. -/
inductive MetaCall.Effect (globalTenantId : String) (registry : Registry) :
    MetaCall → MetaAnswer → Registry → Prop where
  | createDataConnection {tenantId : String} {dataConnection : DataConnection} {id now : String}
      (hType : registry.HasType globalTenantId tenantId dataConnection.dataConnectionTypeId) :
      Effect globalTenantId registry (.createDataConnection tenantId dataConnection id now)
        (.row .dataConnections (newConnection tenantId dataConnection id now))
        (registry.insert .dataConnections (newConnection tenantId dataConnection id now))
  | updateDataConnection {tenantId uid : String}
      {updateFn : UpdateFn DataConnection} {now : String}
      {existing resource : DataConnectionResource} (hExisting : existing ∈ registry .dataConnections)
      (hFinds : MetaTable.Finds .dataConnections uid (some tenantId) existing)
      (hChange : editConnection updateFn now existing = .ok resource)
      (hType : registry.HasType globalTenantId tenantId resource.resource.dataConnectionTypeId) :
      Effect globalTenantId registry (.updateDataConnection tenantId uid updateFn now)
        (.row .dataConnections resource) (registry.replace .dataConnections uid resource)
  | updateDataConnectionStatus {tenantId uid : String}
      {updateFn : UpdateFn DataConnectionStatus} {now : String}
      {existing resource : DataConnectionResource} (hExisting : existing ∈ registry .dataConnections)
      (hFinds : MetaTable.Finds .dataConnections uid (some tenantId) existing)
      (hChange : editConnectionStatus updateFn now existing = .ok resource) :
      Effect globalTenantId registry (.updateDataConnectionStatus tenantId uid updateFn now)
        (.row .dataConnections resource) (registry.replace .dataConnections uid resource)
  | deleteDataConnection {tenantId uid : String} {existing : DataConnectionResource}
      (hExisting : existing ∈ registry .dataConnections)
      (hFinds : MetaTable.Finds .dataConnections uid (some tenantId) existing) :
      Effect globalTenantId registry (.deleteDataConnection tenantId uid) .deleted
        (registry.remove .dataConnections uid)
  | createDataConnectionType {tenantId : String} {dataConnectionType : DataConnectionType}
      {id now : String} :
      Effect globalTenantId registry (.createDataConnectionType tenantId dataConnectionType id now)
        (.row .dataConnectionTypes (newType tenantId dataConnectionType id now))
        (registry.insert .dataConnectionTypes (newType tenantId dataConnectionType id now))
  | updateDataConnectionType {tenantId uid : String}
      {updateFn : UpdateFn DataConnectionType} {now : String}
      {existing resource : DataConnectionTypeResource}
      (hExisting : existing ∈ registry .dataConnectionTypes)
      (hFinds : MetaTable.Finds .dataConnectionTypes uid (some tenantId) existing)
      (hChange : editType updateFn now existing = .ok resource) :
      Effect globalTenantId registry (.updateDataConnectionType tenantId uid updateFn now)
        (.row .dataConnectionTypes resource) (registry.replace .dataConnectionTypes uid resource)
  | updateDataConnectionTypeStatus {uid : String}
      {updateFn : UpdateFn DataConnectionTypeStatus}
      {now : String} {existing resource : DataConnectionTypeResource}
      (hExisting : existing ∈ registry .dataConnectionTypes)
      (hFinds : MetaTable.Finds .dataConnectionTypes uid none existing)
      (hChange : editTypeStatus updateFn now existing = .ok resource) :
      Effect globalTenantId registry (.updateDataConnectionTypeStatus uid updateFn now)
        (.row .dataConnectionTypes resource) (registry.replace .dataConnectionTypes uid resource)
  | deleteDataConnectionType {tenantId uid : String} {existing : DataConnectionTypeResource}
      (hExisting : existing ∈ registry .dataConnectionTypes)
      (hFinds : MetaTable.Finds .dataConnectionTypes uid (some tenantId) existing)
      (hUnused : ∀ connection ∈ registry .dataConnections, connection.resource.dataConnectionTypeId ≠ uid) :
      Effect globalTenantId registry (.deleteDataConnectionType tenantId uid) .deleted
        (registry.remove .dataConnectionTypes uid)
  | createFlightService {flightService : FlightService} {id now : String} :
      Effect globalTenantId registry (.createFlightService flightService id now)
        (.row .flightServices (newService flightService id now))
        (registry.insert .flightServices (newService flightService id now))
  | updateFlightService {id : String}
      {updateFn : UpdateFn FlightService} {now : String}
      {existing resource : FlightServiceResource} (hExisting : existing ∈ registry .flightServices)
      (hFinds : MetaTable.Finds .flightServices id none existing)
      (hChange : editService updateFn now existing = .ok resource) :
      Effect globalTenantId registry (.updateFlightService id updateFn now)
        (.row .flightServices resource) (registry.replace .flightServices id resource)
  | deleteFlightService {id : String} {existing : FlightServiceResource}
      (hExisting : existing ∈ registry .flightServices)
      (hFinds : MetaTable.Finds .flightServices id none existing) :
      Effect globalTenantId registry (.deleteFlightService id) .deleted (registry.remove .flightServices id)

/-- The table that a writing call changes. -/
def MetaCall.table : MetaCall → MetaTable
  | .createDataConnection .. | .updateDataConnection .. | .updateDataConnectionStatus ..
  | .deleteDataConnection .. => .dataConnections
  | .createDataConnectionType .. | .updateDataConnectionType .. | .updateDataConnectionTypeStatus ..
  | .deleteDataConnectionType .. => .dataConnectionTypes
  | .createFlightService .. | .updateFlightService .. | .deleteFlightService .. => .flightServices

theorem MetaCall.Effect.other {globalTenantId : String} {registry changed : Registry} {call : MetaCall}
    {answer : MetaAnswer} (h : call.Effect globalTenantId registry answer changed) {table : MetaTable}
    (hOther : table ≠ call.table) : changed table = registry table := by
  cases h with
  | createDataConnection | createDataConnectionType | createFlightService =>
    exact Registry.insert_other _ _ hOther
  | updateDataConnection | updateDataConnectionStatus | updateDataConnectionType
  | updateDataConnectionTypeStatus | updateFlightService => exact Registry.replace_other _ _ _ hOther
  | _ =>
    exact Registry.remove_other _ _ hOther

section Rows

variable {registry : Registry} {table : MetaTable} {uid : String} {filter : Json → Bool}

theorem ofTenant_toValue (tenantId : String) (row : table.Row) :
    ofTenant tenantId (toValue row) = true ↔ (table.metadata row).tenantId = some tenantId := by
  simp [ofTenant]

theorem Registry.exists_of_find {doc : Json}
    (h : (registry.store table).find? (metaSchema.selects uid filter) = some doc) :
    ∃ row ∈ registry table, doc = toValue row ∧ (table.metadata row).id = uid ∧ filter (toValue row) = true := by
  obtain ⟨row, hRow, rfl⟩ := mem_map.mp (mem_of_find?_eq_some h)
  obtain ⟨hKey, hFilter⟩ := (metaSchema.selects_iff uid filter (toValue row)).mp (find?_some h)
  exact ⟨row, hRow, rfl, by simpa using hKey, hFilter⟩

theorem Registry.Sound.eq_of_id (h : registry.Sound) {first second : table.Row}
    (hFirst : first ∈ registry table) (hSecond : second ∈ registry table)
    (hId : (table.metadata first).id = (table.metadata second).id) : first = second :=
  inj_on_of_nodup_map (h.ids table) hFirst hSecond hId

variable {row existing : table.Row}

theorem Registry.Sound.find?_id (h : registry.Sound) (hRow : row ∈ registry table)
    (hId : (table.metadata row).id = uid) :
    (registry table).find? (fun other => (table.metadata other).id = uid) = some row := by
  cases hFind : (registry table).find? fun other => (table.metadata other).id = uid with
  | none => exact absurd hId (by simpa using find?_eq_none.mp hFind row hRow)
  | some other =>
    have hOther : (table.metadata other).id = uid := by simpa using find?_some hFind
    rw [h.eq_of_id (mem_of_find?_eq_some hFind) hRow (hOther.trans hId.symm)]

/-- A statement that finds its row selects by the id alone. -/
theorem Registry.Sound.selects_eq (h : registry.Sound) (hExisting : existing ∈ registry table)
    (hId : (table.metadata existing).id = uid) (hFilter : filter (toValue existing) = true)
    (hRow : row ∈ registry table) :
    metaSchema.selects uid filter (toValue row) = decide ((table.metadata row).id = uid) := by
  rw [Bool.eq_iff_iff, metaSchema.selects_iff, key_toValue, Option.some.injEq, decide_eq_true_iff]
  refine and_iff_left_of_imp fun hSame => ?_
  rwa [h.eq_of_id hRow hExisting (hSame.trans hId.symm)]

theorem Registry.store_update (registry : Registry) (table : MetaTable) (changed : List table.Row) :
    Registry.store (Function.update registry table changed) =
      Function.update registry.store table (changed.map toValue) := by
  funext other
  by_cases hOther : other = table
  · subst hOther
    simp [Registry.store]
  · simp [Registry.store, hOther]

theorem Registry.apply_insert (registry : Registry) (resource : table.Row) :
    (Write.insert (S := metaSchema) table (toValue resource)).apply registry.store =
      (registry.insert table resource).store := by
  rw [Registry.insert, Registry.store_update]
  simp [Write.apply, Write.rows, Write.table, Registry.store]

section

variable (h : registry.Sound) (hExisting : existing ∈ registry table) (hId : (table.metadata existing).id = uid)
  (hFilter : filter (toValue existing) = true)

include h hExisting hId hFilter

theorem Registry.Sound.apply_replace (resource : table.Row) :
    (Write.replace (S := metaSchema) table uid filter (toValue resource)).apply registry.store =
      (registry.replace table uid resource).store := by
  rw [Registry.replace, Registry.store_update]
  simp only [Write.apply, Write.rows, Write.table, Registry.store, map_map]
  congr 1
  refine map_congr_left fun row hRow => ?_
  simp only [Function.comp_apply, h.selects_eq hExisting hId hFilter hRow, decide_eq_true_iff]
  split <;> rfl

theorem Registry.Sound.apply_remove :
    (Write.remove (S := metaSchema) table uid filter).apply registry.store = (registry.remove table uid).store := by
  rw [Registry.remove, Registry.store_update]
  simp only [Write.apply, Write.rows, Write.table, Registry.store, filter_map]
  congr 2
  refine filter_congr fun row hRow => ?_
  simp [h.selects_eq hExisting hId hFilter hRow]

end

end Rows

section Inversion

variable {Answer : Type} {committed view after : Tables} {answer : Answer} (faults : Nat → Option Failure)

/-- One database call of an operation that runs alone. -/
theorem isolated_request (issued : Call metaSchema) (onFailure : Failure → MetaStoreError)
    (rest : issued.Value → MetaStoreM Answer) (committed view : Tables) :
    isolated faults (request issued onFailure >>= rest : MetaStoreM Answer) committed view =
      let served := serve committed view (faults 0) issued
      match served.1 with
      | .ok value => isolated (fun n => faults (n + 1)) (rest value) served.2.1 served.2.2
      | .error failure => (.error (onFailure failure), served.2.1) := by
  change isolated faults (.call issued _) committed view = _
  rw [isolated]
  dsimp only
  cases (serve committed view (faults 0) issued).1 <;> rfl

variable {table : MetaTable} {filter : Json → Bool} {onFailure : Failure → MetaStoreError} {uid : String}
  {missing : MetaStoreError} {doc : Json} {rest : Nat → MetaStoreM Answer}

theorem isolated_fetchAll {rest : List Json → MetaStoreM Answer} (store : Tables) :
    isolated faults (request (.query (.fetchAll table filter)) onFailure >>= rest : MetaStoreM Answer) store store =
      match faults 0 with
      | some failure => (.error (onFailure failure), store)
      | none => isolated (fun n => faults (n + 1)) (rest ((store table).filter filter)) store store := by
  rw [isolated_request]
  cases faults 0 <;> rfl

section

variable (table : MetaTable) (uid : String) (filter : Json → Bool) (lock : Option LockMode)
  (missing failed : MetaStoreError) (rest : Json → MetaStoreM Answer) (committed view : Tables)

/-- A read of one row, which fails with the database or finds the row or misses it. -/
theorem isolated_fetchRow :
    isolated faults (fetchOne table uid filter lock missing failed >>= rest : MetaStoreM Answer) committed view =
      match faults 0, (view table).find? (metaSchema.selects uid filter) with
      | some _, _ => (.error failed, committed)
      | none, some doc => isolated (fun n => faults (n + 1)) (rest doc) committed view
      | none, none => (.error missing, committed) := by
  rw [fetchOne, bind_assoc, isolated_request]
  cases faults 0 with
  | some failure => rfl
  | none =>
    simp only [serve, Statement.answer, Statement.writes, applyAll_nil]
    cases (view table).find? (metaSchema.selects uid filter) <;> rfl

theorem isolated_fetchOne :
    isolated noFaults (fetchOne table uid filter lock missing failed >>= rest : MetaStoreM Answer) committed view =
      match (view table).find? (metaSchema.selects uid filter) with
      | some doc => isolated noFaults (rest doc) committed view
      | none => (.error missing, committed) := by
  rw [isolated_fetchRow]
  cases (view table).find? (metaSchema.selects uid filter) <;> rfl

end

theorem isolated_validateConnectionType (globalTenantId tenantId connectionTypeId : String)
    (rest : MetaStoreM Answer) (committed view : Tables) :
    isolated noFaults (do validateConnectionType globalTenantId tenantId connectionTypeId; rest : MetaStoreM Answer)
        committed view =
      match (view .dataConnectionTypes).find?
          (metaSchema.selects connectionTypeId (visibleTo globalTenantId tenantId)) with
      | some _ => isolated noFaults rest committed view
      | none => (.error (.unprocessableEntity s!"connection type '{connectionTypeId}' not found"), committed) := by
  rw [validateConnectionType, bind_assoc, isolated_fetchOne]
  rfl

theorem ok_of_fetchOne {lock : Option LockMode} {rest : Json → MetaStoreM Answer} (failed : MetaStoreError)
    (h : isolated noFaults (fetchOne table uid filter lock missing failed >>= rest : MetaStoreM Answer)
      committed view = (.ok answer, after)) :
    ∃ doc, (view table).find? (metaSchema.selects uid filter) = some doc ∧
      isolated noFaults (rest doc) committed view = (.ok answer, after) := by
  rw [isolated_fetchOne] at h
  split at h
  next doc hFind => exact ⟨doc, hFind, h⟩
  · cases h

theorem ok_of_validateConnectionType {globalTenantId tenantId connectionTypeId : String} {rest : MetaStoreM Answer}
    (h : isolated noFaults
      (do validateConnectionType globalTenantId tenantId connectionTypeId; rest : MetaStoreM Answer)
      committed view = (.ok answer, after)) :
    ∃ doc, (view .dataConnectionTypes).find?
        (metaSchema.selects connectionTypeId (visibleTo globalTenantId tenantId)) = some doc ∧
      isolated noFaults rest committed view = (.ok answer, after) := by
  rw [isolated_validateConnectionType] at h
  split at h
  next doc hFind => exact ⟨doc, hFind, h⟩
  · cases h

theorem ok_of_insert {rest : Unit → MetaStoreM Answer}
    (h : isolated noFaults (request (.query (.insert table doc)) onFailure >>= rest : MetaStoreM Answer)
      committed view = (.ok answer, after)) :
    isolated noFaults (rest ()) committed
      ((Write.insert (S := metaSchema) table doc).apply view) = (.ok answer, after) := by
  change isolated noFaults (.call (.query (.insert table doc)) _) committed view = _ at h
  rw [isolated_query] at h
  cases hViolates : (Statement.insert (S := metaSchema) table doc).violates view with
  | true =>
    simp only [Statement.answer, hViolates] at h
    cases h
  | false =>
    simp only [Statement.answer, Statement.writes, hViolates] at h
    exact h

theorem ok_of_update (h : isolated noFaults (request (.query (.update table uid filter doc)) onFailure >>= rest :
      MetaStoreM Answer) committed view = (.ok answer, after))
    (hAny : (view table).any (metaSchema.selects uid filter) = true) :
    ∃ affected, isolated noFaults (rest affected) committed
      ((Write.replace (S := metaSchema) table uid filter doc).apply view) = (.ok answer, after) := by
  change isolated noFaults (.call (.query (.update table uid filter doc)) _) committed view = _ at h
  rw [isolated_query] at h
  cases hViolates : (Statement.update (S := metaSchema) table uid filter doc).violates view with
  | true =>
    simp only [Statement.answer, hViolates] at h
    cases h
  | false =>
    simp only [Statement.answer, Statement.writes, hViolates, hAny] at h
    exact ⟨_, h⟩

theorem ok_of_delete (h : isolated noFaults (request (.query (.delete table uid filter)) onFailure >>= rest :
      MetaStoreM Answer) committed view = (.ok answer, after)) :
    isolated noFaults (rest ((view table).countP (metaSchema.selects uid filter))) committed
      (applyAll ((Statement.delete (S := metaSchema) table uid filter).writes view) view) = (.ok answer, after) := h

theorem ok_of_count (h : isolated noFaults (request (.query (.count table filter)) onFailure >>= rest :
      MetaStoreM Answer) committed view = (.ok answer, after)) :
    isolated noFaults (rest ((view table).countP filter)) committed view = (.ok answer, after) := h

theorem ok_of_deleteRow {failed : MetaStoreError} {after : Tables}
    (h : isolated noFaults (deleteRow table uid filter missing failed) committed view = (.ok (), after)) :
    (∃ doc, (view table).find? (metaSchema.selects uid filter) = some doc) ∧
      after = (Write.remove (S := metaSchema) table uid filter).apply view := by
  have hRest := ok_of_delete h
  cases hFind : (view table).find? (metaSchema.selects uid filter) with
  | none =>
    have hZero : (view table).countP (metaSchema.selects uid filter) = 0 :=
      countP_eq_zero.mpr (find?_eq_none.mp hFind)
    rw [hZero] at hRest
    cases hRest
  | some doc =>
    have hSelected := find?_some hFind
    have hMem := mem_of_find?_eq_some hFind
    have hAny : (view table).any (metaSchema.selects uid filter) = true :=
      any_eq_true.mpr ⟨doc, hMem, hSelected⟩
    have hPos : (view table).countP (metaSchema.selects uid filter) ≠ 0 :=
      Nat.ne_of_gt (countP_pos_iff.mpr ⟨doc, hMem, hSelected⟩)
    simp only [Statement.writes, hAny, if_true, applyAll_singleton, if_neg hPos] at hRest
    exact ⟨⟨doc, rfl⟩, (congrArg Prod.snd hRest).symm⟩

end Inversion

section Operations

variable {registry : Registry} {after : Tables} {globalTenantId tenantId : String} {table : MetaTable}
  {answer : table.Row} {uid : String} {filter : Json → Bool} {missing : MetaStoreError}

/-- The type found by a validation, among the typed rows. -/
theorem hasType_of_find {typeId : String} {doc : Json} (h : (registry.store .dataConnectionTypes).find?
      (metaSchema.selects typeId (visibleTo globalTenantId tenantId)) = some doc) :
    registry.HasType globalTenantId tenantId typeId := by
  obtain ⟨type, hType, -, hId, hVisible⟩ := Registry.exists_of_find h
  refine ⟨type, hType, hId, ?_⟩
  rw [visibleTo, Bool.or_eq_true] at hVisible
  exact hVisible.imp (ofTenant_toValue tenantId type).mp (ofTenant_toValue globalTenantId type).mp

theorem createDataConnection_effect {dataConnection : DataConnection} {id now : String}
    {answer : DataConnectionResource}
    (h : atomically (createDataConnection globalTenantId tenantId dataConnection id now)
      registry.store = (.ok answer, after)) :
    registry.HasType globalTenantId tenantId dataConnection.dataConnectionTypeId ∧
      answer = newConnection tenantId dataConnection id now ∧
      after = (registry.insert .dataConnections answer).store := by
  obtain ⟨doc, hFind, hRest⟩ := ok_of_validateConnectionType h
  have hInsert := ok_of_insert hRest
  obtain ⟨hAnswer, hAfter⟩ := Prod.mk.inj hInsert
  obtain rfl := Except.ok.inj hAnswer
  exact ⟨hasType_of_find hFind, rfl, by rw [← hAfter]; exact registry.apply_insert _⟩

theorem insertRow_effect {resource : table.Row} {conflict : String}
    (h : atomically (insertRow table resource conflict) registry.store = (.ok answer, after)) :
    answer = resource ∧ after = (registry.insert table answer).store := by
  have hInsert := ok_of_insert h
  obtain ⟨hAnswer, hAfter⟩ := Prod.mk.inj hInsert
  obtain rfl := Except.ok.inj hAnswer
  exact ⟨rfl, by rw [← hAfter]; exact registry.apply_insert _⟩

theorem deleteRow_effect {failed : MetaStoreError} (hSound : registry.Sound)
    (h : atomically (deleteRow table uid filter missing failed) registry.store = (.ok (), after)) :
    ∃ existing ∈ registry table, (table.metadata existing).id = uid ∧
      filter (toValue existing) = true ∧ after = (registry.remove table uid).store := by
  obtain ⟨⟨doc, hFind⟩, hAfter⟩ := ok_of_deleteRow h
  obtain ⟨existing, hExisting, -, hId, hFilter⟩ := Registry.exists_of_find hFind
  exact ⟨existing, hExisting, hId, hFilter, hAfter.trans (hSound.apply_remove hExisting hId hFilter)⟩

theorem updateRow_effect {malformed failed : MetaStoreError} {change : UpdateFn table.Row}
    {check : table.Row → MetaStoreM Unit} (hSound : registry.Sound) (Checked : table.Row → Prop)
    (hCheck : ∀ resource (rest : MetaStoreM table.Row),
      isolated noFaults (do check resource; rest : MetaStoreM table.Row) registry.store registry.store =
        (.ok answer, after) →
      Checked resource ∧ isolated noFaults rest registry.store registry.store = (.ok answer, after))
    (h : atomically (updateRow table uid filter missing malformed failed change check) registry.store =
      (.ok answer, after)) :
    ∃ existing ∈ registry table, (table.metadata existing).id = uid ∧
      filter (toValue existing) = true ∧ change existing = .ok answer ∧ Checked answer ∧
      after = (registry.replace table uid answer).store := by
  obtain ⟨doc, hFind, hRest⟩ := ok_of_fetchOne failed h
  obtain ⟨existing, hExisting, rfl, hId, hFilter⟩ := Registry.exists_of_find hFind
  have hDecode : decode (toValue existing) malformed = .ok existing := by simp [decode]
  rw [hDecode] at hRest
  change isolated noFaults (settle table uid filter failed check (change existing)) _ _ = _ at hRest
  cases hChange : change existing with
  | error error =>
    rw [hChange] at hRest
    cases hRest
  | ok resource =>
    rw [hChange] at hRest
    obtain ⟨hChecked, hWrite⟩ := hCheck resource _ hRest
    have hAny : (registry.store table).any (metaSchema.selects uid filter) = true :=
      any_eq_true.mpr ⟨_, mem_of_find?_eq_some hFind, find?_some hFind⟩
    obtain ⟨affected, hEnd⟩ := ok_of_update hWrite hAny
    obtain ⟨hAnswer, hAfter⟩ := Prod.mk.inj hEnd
    obtain rfl := Except.ok.inj hAnswer
    refine ⟨existing, hExisting, hId, hFilter, hChange, hChecked, ?_⟩
    rw [← hAfter]
    exact hSound.apply_replace hExisting hId hFilter resource

theorem deleteDataConnectionType_effect (hSound : registry.Sound)
    (h : atomically (deleteDataConnectionType tenantId uid) registry.store = (.ok (), after)) :
    ∃ existing ∈ registry .dataConnectionTypes, existing.metadata.id = uid ∧
      existing.metadata.tenantId = some tenantId ∧
      (∀ connection ∈ registry .dataConnections, connection.resource.dataConnectionTypeId ≠ uid) ∧
      after = (registry.remove .dataConnectionTypes uid).store := by
  obtain ⟨doc, -, hCount⟩ := ok_of_fetchOne (.query "failed to delete connection type") h
  have hRest := ok_of_count hCount
  change isolated noFaults (if 0 < (registry.store .dataConnections).countP (refersTo uid) then
    throw _ else deleteRow .dataConnectionTypes uid _ _ _ : MetaStoreM Unit) registry.store
    registry.store = _ at hRest
  split at hRest
  · cases hRest
  next hNone =>
  have hZero : (registry.store .dataConnections).countP (refersTo uid) = 0 := by omega
  obtain ⟨⟨row, hFind⟩, hAfter⟩ := ok_of_deleteRow hRest
  obtain ⟨existing, hExisting, -, hId, hFilter⟩ := Registry.exists_of_find hFind
  refine ⟨existing, hExisting, hId, (ofTenant_toValue tenantId existing).mp hFilter, ?_,
    hAfter.trans (hSound.apply_remove hExisting hId hFilter)⟩
  intro connection hConnection hRefers
  have hNot := countP_eq_zero.mp hZero (toValue connection) (mem_map_of_mem hConnection)
  exact hNot (beq_iff_eq.mpr (congrArg some hRefers))

end Operations

section Calls

variable {globalTenantId : String} {registry : Registry} {call : MetaCall} {answer : MetaAnswer}
  {after : Tables}

theorem ok_of_mapAnswer {Answer : Type} {rename : Answer → MetaAnswer} {operation : MetaStoreM Answer}
    {store : Tables} (h : atomically (mapAnswer rename operation) store = (.ok answer, after)) :
    ∃ found, atomically operation store = (.ok found, after) ∧ rename found = answer := by
  rw [atomically, isolated_mapAnswer] at h
  obtain ⟨hResult, hAfter⟩ := Prod.mk.inj h
  obtain ⟨found, hFound, hRename⟩ := map_eq_ok.mp hResult
  exact ⟨found, Prod.ext hFound hAfter, hRename⟩

variable {table : MetaTable} {uid : String} {row : table.Row}

theorem finds_of_tenant {tenantId : String} (hId : (table.metadata row).id = uid)
    (hOwner : ofTenant tenantId (toValue row) = true) :
    table.Finds uid (some tenantId) row := by
  refine ⟨hId, fun tenant hSame => ?_⟩
  rw [← Option.some.inj hSame]
  exact (ofTenant_toValue tenantId row).mp hOwner

theorem finds_of_id (hId : (table.metadata row).id = uid) : table.Finds uid none row :=
  ⟨hId, fun _ hNone => by cases hNone⟩

theorem updateRow_effect_noCheck {filter : Json → Bool} {missing malformed failed : MetaStoreError}
    {change : UpdateFn table.Row} {found : table.Row} (hSound : registry.Sound)
    (h : atomically (updateRow table uid filter missing malformed failed change noCheck) registry.store =
      (.ok found, after)) :
    ∃ existing ∈ registry table, (table.metadata existing).id = uid ∧
      filter (toValue existing) = true ∧ change existing = .ok found ∧
      after = (registry.replace table uid found).store := by
  have hUnchecked : ∀ (resource : table.Row) (rest : MetaStoreM table.Row),
      isolated noFaults (do noCheck resource; rest : MetaStoreM table.Row) registry.store
        registry.store = (.ok found, after) →
      True ∧ isolated noFaults rest registry.store registry.store = (.ok found, after) :=
    fun _ _ hRest => ⟨trivial, hRest⟩
  obtain ⟨existing, hExisting, hId, hFilter, hChange, -, hAfter⟩ :=
    updateRow_effect hSound (fun _ => True) hUnchecked h
  exact ⟨existing, hExisting, hId, hFilter, hChange, hAfter⟩

/-- A successful call has the effect stated for it. -/
theorem MetaCall.effect_of_ok (hSound : registry.Sound)
    (h : atomically (call.program globalTenantId) registry.store = (.ok answer, after)) :
    ∃ changed, after = Registry.store changed ∧ call.Effect globalTenantId registry answer changed := by
  cases call with
  | createDataConnection tenantId dataConnection id now =>
    obtain ⟨found, hFound, rfl⟩ := ok_of_mapAnswer h
    obtain ⟨hType, rfl, hAfter⟩ := createDataConnection_effect hFound
    exact ⟨_, hAfter, .createDataConnection hType⟩
  | updateDataConnection tenantId uid updateFn now =>
    obtain ⟨found, hFound, rfl⟩ := ok_of_mapAnswer h
    obtain ⟨existing, hExisting, hId, hOwner, hChange, hType, hAfter⟩ :=
      updateRow_effect hSound (fun resource : DataConnectionResource =>
        registry.HasType globalTenantId tenantId resource.resource.dataConnectionTypeId)
        (fun resource rest hRest => by
          obtain ⟨doc, hFind, hRest'⟩ := ok_of_validateConnectionType hRest
          exact ⟨hasType_of_find hFind, hRest'⟩) hFound
    exact ⟨_, hAfter, .updateDataConnection hExisting (finds_of_tenant hId hOwner) hChange hType⟩
  | updateDataConnectionStatus tenantId uid updateFn now =>
    obtain ⟨found, hFound, rfl⟩ := ok_of_mapAnswer h
    obtain ⟨existing, hExisting, hId, hOwner, hChange, hAfter⟩ :=
      updateRow_effect_noCheck hSound hFound
    exact ⟨_, hAfter, .updateDataConnectionStatus hExisting (finds_of_tenant hId hOwner) hChange⟩
  | deleteDataConnection tenantId uid =>
    obtain ⟨found, hFound, rfl⟩ := ok_of_mapAnswer h
    obtain ⟨existing, hExisting, hId, hOwner, hAfter⟩ := deleteRow_effect hSound hFound
    exact ⟨_, hAfter, .deleteDataConnection hExisting (finds_of_tenant hId hOwner)⟩
  | createDataConnectionType tenantId dataConnectionType id now =>
    obtain ⟨found, hFound, rfl⟩ := ok_of_mapAnswer h
    obtain ⟨rfl, hAfter⟩ := insertRow_effect hFound
    exact ⟨_, hAfter, .createDataConnectionType⟩
  | updateDataConnectionType tenantId uid updateFn now =>
    obtain ⟨found, hFound, rfl⟩ := ok_of_mapAnswer h
    obtain ⟨existing, hExisting, hId, hOwner, hChange, hAfter⟩ :=
      updateRow_effect_noCheck hSound hFound
    exact ⟨_, hAfter, .updateDataConnectionType hExisting (finds_of_tenant hId hOwner) hChange⟩
  | updateDataConnectionTypeStatus uid updateFn now =>
    obtain ⟨found, hFound, rfl⟩ := ok_of_mapAnswer h
    obtain ⟨existing, hExisting, hId, -, hChange, hAfter⟩ :=
      updateRow_effect_noCheck hSound hFound
    exact ⟨_, hAfter, .updateDataConnectionTypeStatus hExisting (finds_of_id hId) hChange⟩
  | deleteDataConnectionType tenantId uid =>
    obtain ⟨found, hFound, rfl⟩ := ok_of_mapAnswer h
    obtain ⟨existing, hExisting, hId, hOwner, hUnused, hAfter⟩ :=
      deleteDataConnectionType_effect hSound hFound
    exact ⟨_, hAfter, .deleteDataConnectionType hExisting
      ⟨hId, fun tenant hSame => Option.some.inj hSame ▸ hOwner⟩ hUnused⟩
  | createFlightService flightService id now =>
    obtain ⟨found, hFound, rfl⟩ := ok_of_mapAnswer h
    obtain ⟨rfl, hAfter⟩ := insertRow_effect hFound
    exact ⟨_, hAfter, .createFlightService⟩
  | updateFlightService id updateFn now =>
    obtain ⟨found, hFound, rfl⟩ := ok_of_mapAnswer h
    obtain ⟨existing, hExisting, hId, -, hChange, hAfter⟩ :=
      updateRow_effect_noCheck hSound hFound
    exact ⟨_, hAfter, .updateFlightService hExisting (finds_of_id hId) hChange⟩
  | deleteFlightService id =>
    obtain ⟨found, hFound, rfl⟩ := ok_of_mapAnswer h
    obtain ⟨existing, hExisting, hId, -, hAfter⟩ := deleteRow_effect hSound hFound
    exact ⟨_, hAfter, .deleteFlightService hExisting (finds_of_id hId)⟩

end Calls

end DataConnectHub
