import DataConnectHub.MetaStore.Runs

/-! When the store refuses a new resource as a duplicate. A database call may
fail for reasons of its own, but it is the unique indexes alone that report a
duplicate, so a conflict says that a row with the id or the name is there. -/
namespace DataConnectHub

open Serde RowStore Transaction

/-- No call is reported as a duplicate for a reason outside the tables. -/
def Truthful (faults : Nat → Option Failure) : Prop :=
  ∀ n, faults n ≠ some .uniqueViolation

theorem Truthful.tail {faults : Nat → Option Failure} (h : Truthful faults) :
    Truthful fun n => faults (n + 1) := fun n => h (n + 1)

/-- A row that has the id or the name of the resource. -/
def Registry.Occupied (registry : Registry) (table : MetaTable) (resource : table.Row) : Prop :=
  ∃ row ∈ registry table, (table.metadata row).id = (table.metadata resource).id ∨ table.name row = table.name resource

variable {store committed view : Tables} {table : MetaTable}
  {faults : Nat → Option Failure} {message : String} {resource : table.Row} {id now : String}

theorem occupied_of_violates (hStore : WellFormed store)
    (h : (Statement.insert (S := metaSchema) table (toValue resource)).violates store = true) :
    (rows store).Occupied table resource := by
  obtain ⟨doc, hDoc, hClash⟩ := List.any_eq_true.mp h
  obtain ⟨row, rfl, -⟩ := hStore.valid table doc hDoc
  refine ⟨row, (mem_store_iff hStore row).mp hDoc, ?_⟩
  change MetaTable.clashes table (toValue resource) (toValue row) = true at hClash
  rw [MetaTable.clashes, Bool.or_eq_true, Bool.and_eq_true] at hClash
  simp only [MetaTable.path_id, MetaTable.nameIndex_toValue, sqlEqual_iff] at hClash
  rcases hClash with ⟨id, hNew, hOld⟩ | ⟨⟨_, hNew, hOld⟩, ⟨_, hNewScope, hOldScope⟩⟩
  · exact .inl (Option.some.inj (hOld.trans hNew.symm))
  · exact .inr (Prod.ext (hOld.trans hNew.symm) (hOldScope.trans hNewScope.symm))

section Calls

variable {Answer : Type}

/-- An insert and its commit report a conflict only over the index. -/
theorem violates_of_conflict (hFaults : Truthful faults) {doc : Json} {resource : Answer}
    {onFailure : Failure → MetaStoreError} {failed : MetaStoreError}
    (h : (isolated faults (do
      request (.query (.insert table doc)) onFailure
      request .commit fun _ => failed
      return resource : MetaStoreM Answer) committed view).1 = .error (.conflict message))
    (hOther : onFailure .other ≠ .conflict message) (hFailed : failed ≠ .conflict message) :
    (Statement.insert (S := metaSchema) table doc).violates view = true := by
  rw [isolated_request] at h
  cases hFault : faults 0 with
  | some failure =>
    rw [hFault] at h
    cases failure with
    | uniqueViolation => exact absurd hFault (hFaults 0)
    | other => exact absurd (Except.error.inj h) hOther
  | none =>
    rw [hFault] at h
    cases hViolates : (Statement.insert (S := metaSchema) table doc).violates view with
    | true => rfl
    | false =>
      simp only [serve, Statement.answer, hViolates, Bool.false_eq_true, ↓reduceIte] at h
      rw [isolated_request] at h
      cases hCommit : faults (0 + 1) with
      | some failure =>
        rw [hCommit] at h
        exact absurd (Except.error.inj h) hFailed
      | none =>
        rw [hCommit] at h
        cases h

end Calls

/-- An insert is refused with its conflict, or because the database failed. -/
theorem error_of_insertRow {conflict : String} {error : MetaStoreError}
    (h : (isolated faults (insertRow table resource conflict) store store).1 = .error error) :
    error = .conflict conflict ∨ error = mapSqlxError .other := by
  rw [insertRow, isolated_request] at h
  dsimp only at h
  split at h
  next value hServed =>
      rw [isolated_request] at h
      dsimp only at h
      split at h
      · cases h
      · exact .inr (Except.error.inj h).symm
  next failure hServed =>
      cases failure with
      | uniqueViolation => exact .inl (Except.error.inj h).symm
      | other => exact .inr (Except.error.inj h).symm

/-- A conflict over a new flight service is about its id or its name. -/
theorem occupied_of_createFlightService (hStore : WellFormed store) (hFaults : Truthful faults)
    {flightService : FlightService}
    (h : (isolated faults (createFlightService flightService id now) store store).1 = .error (.conflict message)) :
    (rows store).Occupied .flightServices (newService flightService id now) :=
  occupied_of_violates hStore (violates_of_conflict hFaults h nofun nofun)

/-- A conflict over a new connection is about its id or its name. -/
theorem occupied_of_createDataConnection (hStore : WellFormed store) (hFaults : Truthful faults)
    {globalTenantId tenantId : String} {dataConnection : DataConnection}
    (h : (isolated faults (createDataConnection globalTenantId tenantId dataConnection id now)
      store store).1 = .error (.conflict message)) :
    (rows store).Occupied .dataConnections (newConnection tenantId dataConnection id now) := by
  have hOther : mapSqlxError .other ≠ .conflict message := nofun
  have hFailed : MetaStoreError.query "failed to create data connection" ≠ .conflict message := nofun
  rw [createDataConnection, isolated_request] at h
  cases hBegin : faults 0 with
  | some failure =>
    rw [hBegin] at h
    cases h
  | none =>
    rw [hBegin] at h
    simp only [serve, validateConnectionType, bind_assoc] at h
    rw [isolated_fetchRow] at h
    split at h
    · cases h
    · exact occupied_of_violates hStore (violates_of_conflict hFaults.tail.tail h hOther hFailed)
    · cases h

end DataConnectHub
