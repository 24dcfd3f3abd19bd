import DataConnectHub.MetaStore.Integrity

/-! Invariants of every run of the store: unique identifiers and names, the
identity of rows from their creation on, what an update may change, and that
a call that fails changes nothing. -/
namespace DataConnectHub

open RowStore Transaction RustStd List

/-- The identifier a creating call generated. -/
def MetaCall.generatedId? : MetaCall → Option String
  | .createDataConnection _ _ id _ => some id
  | .createDataConnectionType _ _ id _ => some id
  | .createFlightService _ id _ => some id
  | _ => none

/-- The call creates a row with this id, tenant and creation time. -/
def MetaCall.Creates : MetaCall → MetaTable → ResourceMetadata → Prop
  | .createDataConnection tenantId _ id now, .dataConnections, metadata =>
    metadata.id = id ∧ metadata.tenantId = some tenantId ∧ metadata.createdAt = now
  | .createDataConnectionType tenantId _ id now, .dataConnectionTypes, metadata =>
    metadata.id = id ∧ metadata.tenantId = some tenantId ∧ metadata.createdAt = now
  | .createFlightService _ id now, .flightServices, metadata =>
    metadata.id = id ∧ metadata.tenantId = none ∧ metadata.createdAt = now
  | _, _, _ => False

theorem MetaCall.Creates.generatedId {call : MetaCall} {table : MetaTable} {metadata : ResourceMetadata}
    (h : call.Creates table metadata) : call.generatedId? = some metadata.id := by
  cases call <;> cases table <;> first | exact congrArg some h.1.symm | exact absurd h id

theorem MetaCall.Creates.agree {call : MetaCall} {table : MetaTable} {first second : ResourceMetadata}
    (hFirst : call.Creates table first) (hSecond : call.Creates table second) :
    first.tenantId = second.tenantId ∧ first.createdAt = second.createdAt := by
  cases call <;> cases table <;> first
      | exact ⟨hFirst.2.1.trans hSecond.2.1.symm, hFirst.2.2.trans hSecond.2.2.symm⟩
      | exact absurd hFirst id

variable {registry changed : Registry} {uid : String}

section

variable {globalTenantId : String} {call : MetaCall} {answer : MetaAnswer}
  (h : call.Effect globalTenantId registry answer changed)

include h

/-- Every effect adds one row, rewrites one row under its identity, or removes
rows of one id. -/
theorem MetaCall.Effect.shape :
    (∃ (table : MetaTable) (resource : table.Row), changed = registry.insert table resource ∧
      call.Creates table (table.metadata resource)) ∨
    (∃ (table : MetaTable) (existing resource : table.Row) (now : String), existing ∈ registry table ∧
      table.metadata resource = { table.metadata existing with updatedAt := now } ∧
      changed = registry.replace table (table.metadata existing).id resource) ∨
    (∃ (table : MetaTable) (uid : String), changed = registry.remove table uid) := by
  have hReplace : ∀ {table : MetaTable} {change : UpdateFn table.Row}
      {existing resource : table.Row} {uid : String}, KeepsIdentity table change →
      existing ∈ registry table → (table.metadata existing).id = uid → change existing = .ok resource →
      ∃ (table' : MetaTable) (existing' resource' : table'.Row) (now : String), existing' ∈ registry table' ∧
        table'.metadata resource' = { table'.metadata existing' with updatedAt := now } ∧
        registry.replace table uid resource = registry.replace table' (table'.metadata existing').id resource' := by
    intro table change existing resource uid hKeeps hExisting hId hChange
    obtain ⟨now, hKept⟩ := hKeeps existing resource hChange
    exact ⟨table, existing, resource, now, hExisting, hKept, by rw [hId]⟩
  cases h with
  | createDataConnection hType | createDataConnectionType | createFlightService => exact .inl ⟨_, _, rfl, rfl, rfl, rfl⟩
  | updateDataConnection hExisting hFinds hChange hType =>
    exact .inr (.inl (hReplace (editConnection_keeps _ _) hExisting hFinds.1 hChange))
  | updateDataConnectionStatus hExisting hFinds hChange =>
    exact .inr (.inl (hReplace (editConnectionStatus_keeps _ _) hExisting hFinds.1 hChange))
  | deleteDataConnection hExisting hFinds | deleteDataConnectionType hExisting hFinds hUnused
  | deleteFlightService hExisting hFinds => exact .inr (.inr ⟨_, _, rfl⟩)
  | updateDataConnectionType hExisting hFinds hChange =>
    exact .inr (.inl (hReplace (editType_keeps _ _) hExisting hFinds.1 hChange))
  | updateDataConnectionTypeStatus hExisting hFinds hChange =>
    exact .inr (.inl (hReplace (editTypeStatus_keeps _ _) hExisting hFinds.1 hChange))
  | updateFlightService hExisting hFinds hChange =>
    exact .inr (.inl (hReplace (editService_keeps _ _) hExisting hFinds.1 hChange))

/-- A row after a call has the identity of a row before it, or was created by
the call. -/
theorem MetaCall.Effect.identity {table : MetaTable} {row : table.Row} (hRow : row ∈ changed table) :
    (∃ old ∈ registry table, ∃ now, table.metadata row = { table.metadata old with updatedAt := now }) ∨
    call.Creates table (table.metadata row) := by
  have hKept : row ∈ registry table → ∃ old ∈ registry table, ∃ now,
      table.metadata row = { table.metadata old with updatedAt := now } :=
    fun hOld => ⟨row, hOld, (table.metadata row).updatedAt, rfl⟩
  rcases h.shape with ⟨target, resource, rfl, hCreates⟩ | ⟨target, existing, resource, now, hExisting, hKeeps, rfl⟩ |
    ⟨target, uid, rfl⟩
  · by_cases hTable : table = target
    · subst hTable
      rw [Registry.insert_self] at hRow
      rcases mem_append.mp hRow with hOld | hNew
      · exact .inl (hKept hOld)
      · rw [mem_singleton.mp hNew]
        exact .inr hCreates
    · rw [Registry.insert_other _ _ hTable] at hRow
      exact .inl (hKept hRow)
  · by_cases hTable : table = target
    · subst hTable
      rcases Registry.mem_replace hRow with hOld | rfl
      · exact .inl (hKept hOld)
      · exact .inl ⟨existing, hExisting, now, hKeeps⟩
    · rw [Registry.replace_other _ _ _ hTable] at hRow
      exact .inl (hKept hRow)
  · by_cases hTable : table = target
    · subst hTable
      exact .inl (hKept (Registry.mem_remove.mp hRow).1)
    · rw [Registry.remove_other _ _ hTable] at hRow
      exact .inl (hKept hRow)

end

/-- Calls one after another from the empty store, each with its own faults. -/
def runCalls (globalTenantId : String) (calls : List (MetaCall × (Nat → Option Failure))) : Tables :=
  calls.foldl (fun store call => (call.1.run globalTenantId call.2 store).2) emptyStore

variable {globalTenantId : String} {calls : List (MetaCall × (Nat → Option Failure))}

theorem runCalls_concat (globalTenantId : String) (calls : List (MetaCall × (Nat → Option Failure)))
    (call : MetaCall) (faults : Nat → Option Failure) :
    runCalls globalTenantId (calls ++ [(call, faults)]) =
      (call.run globalTenantId faults (runCalls globalTenantId calls)).2 := by
  simp [runCalls]

theorem runCalls_reachable (globalTenantId : String) (calls : List (MetaCall × (Nat → Option Failure))) :
    Reachable globalTenantId (runCalls globalTenantId calls) := by
  induction calls using reverseRecOn with
  | nil => exact .empty
  | append_singleton calls call ih =>
    rw [runCalls_concat]
    exact ih.run call.1 call.2

/-- Every row was created by a call of the run, and has kept its identity. -/
theorem exists_creates {table : MetaTable} {row : table.Row} (hRow : row ∈ rows (runCalls globalTenantId calls) table) :
    ∃ call ∈ calls, call.1.Creates table (table.metadata row) := by
  induction calls using reverseRecOn generalizing row with
  | nil => cases hRow
  | append_singleton calls call ih =>
    have hOld : ∀ {old : table.Row}, old ∈ rows (runCalls globalTenantId calls) table →
        ∃ creator ∈ calls ++ [call], creator.1.Creates table (table.metadata old) := by
      intro old hMem
      obtain ⟨creator, hCreator, hCreates⟩ := ih hMem
      exact ⟨creator, mem_append_left _ hCreator, hCreates⟩
    rw [runCalls_concat] at hRow
    rcases call.1.run_cases globalTenantId (runCalls_reachable globalTenantId calls).wellFormed call.2 with
      ⟨answer, -, -, hEffect⟩ | ⟨-, hSame⟩
    · rcases hEffect.identity hRow with ⟨old, hMem, now, hKept⟩ | hCreates
      · obtain ⟨creator, hCreator, hCreates⟩ := hOld hMem
        refine ⟨creator, hCreator, ?_⟩
        rw [hKept]
        obtain ⟨creation, faults⟩ := creator
        cases creation <;> cases table <;> exact hCreates
      · exact ⟨call, by simp, hCreates⟩
    · rw [hSame] at hRow
      exact hOld hRow

/-- A call is determined by the identifier it generated. -/
theorem eq_of_generatedId {first second : MetaCall × (Nat → Option Failure)} {id : String}
    (hFresh : (calls.filterMap fun call => call.1.generatedId?).Nodup) (hFirst : first ∈ calls)
    (hSecond : second ∈ calls) (hId : first.1.generatedId? = some id)
    (hId' : second.1.generatedId? = some id) : first = second := by
  by_contra hne
  have hSymm : Std.Symm fun first second : MetaCall × (Nat → Option Failure) =>
      ∀ id, first.1.generatedId? = some id → ∀ id', second.1.generatedId? = some id' → id ≠ id' :=
    ⟨fun _ _ h id hId id' hId' => (h id' hId' id hId).symm⟩
  exact (pairwise_filterMap.mp hFresh).forall hFirst hSecond hne id hId id hId' rfl

/-- Rewrite the row with this id by a function of the row. -/
def Registry.modify (registry : Registry) (table : MetaTable) (uid : String)
    (update : table.Row → table.Row) : Registry :=
  Function.update registry table
    ((registry table).map fun row => if (table.metadata row).id = uid then update row else row)

theorem Registry.Sound.replace_eq_modify (h : registry.Sound) {table : MetaTable} {existing : table.Row}
    (hExisting : existing ∈ registry table) (hId : (table.metadata existing).id = uid)
    (update : table.Row → table.Row) :
    registry.replace table uid (update existing) = registry.modify table uid update := by
  unfold Registry.replace Registry.modify
  congr 1
  refine map_congr_left fun row hRow => ?_
  by_cases hSame : (table.metadata row).id = uid
  · rw [if_pos hSame, if_pos hSame, h.eq_of_id hRow hExisting (hSame.trans hId.symm)]
  · rw [if_neg hSame, if_neg hSame]

/-- What an update of the resource part does to a row. -/
def DataConnectionResource.withResource (row : DataConnectionResource) (dataConnection : DataConnection)
    (now : String) : DataConnectionResource :=
  { row with metadata := { row.metadata with updatedAt := now }, resource := dataConnection }

def DataConnectionResource.withStatus (row : DataConnectionResource) (status : DataConnectionStatus)
    (now : String) : DataConnectionResource :=
  { row with metadata := { row.metadata with updatedAt := now }, status := status }

def DataConnectionTypeResource.withResource (row : DataConnectionTypeResource)
    (dataConnectionType : DataConnectionType) (now : String) : DataConnectionTypeResource :=
  { row with metadata := { row.metadata with updatedAt := now }, resource := dataConnectionType }

def DataConnectionTypeResource.withStatus (row : DataConnectionTypeResource)
    (status : DataConnectionTypeStatus) (now : String) : DataConnectionTypeResource :=
  { row with metadata := { row.metadata with updatedAt := now }, status := status }

/-- The invariants of a store reached by `calls`, and of the next call on it. -/
structure RunInvariants (globalTenantId : String) (calls : List (MetaCall × (Nat → Option Failure)))
    (store : Tables) : Prop where
  readable : (rows store).store = store
  connectionIds : ((rows store .dataConnections).map fun row => row.metadata.id).Nodup
  typeIds : ((rows store .dataConnectionTypes).map fun row => row.metadata.id).Nodup
  connectionNames : ((rows store .dataConnections).map fun row =>
    (row.resource.name, row.metadata.tenantId)).Nodup
  typeNames : ((rows store .dataConnectionTypes).map fun row =>
    (row.resource.name, row.metadata.tenantId)).Nodup
  created : ∀ table, ∀ row ∈ rows store table, ∃ call ∈ calls, call.1.Creates table (table.metadata row)
  kept : ∀ before after, calls = before ++ after → ∀ table,
    ∀ old ∈ rows (runCalls globalTenantId before) table, ∀ row ∈ rows store table,
      (table.metadata row).id = (table.metadata old).id →
      (table.metadata row).tenantId = (table.metadata old).tenantId ∧
        (table.metadata row).createdAt = (table.metadata old).createdAt
  failed : ∀ (call : MetaCall) faults error, (call.run globalTenantId faults store).1 = .error error →
    (call.run globalTenantId faults store).2 = store
  updatedConnection : ∀ tenantId uid updateFn now faults answer after,
    (MetaCall.updateDataConnection tenantId uid updateFn now).run globalTenantId faults store = (.ok answer, after) →
    ∃ dataConnection, rows after =
      (rows store).modify .dataConnections uid fun row => row.withResource dataConnection now
  updatedConnectionStatus : ∀ tenantId uid updateFn now faults answer after,
    (MetaCall.updateDataConnectionStatus tenantId uid updateFn now).run globalTenantId faults store =
      (.ok answer, after) →
    ∃ status, rows after = (rows store).modify .dataConnections uid fun row => row.withStatus status now
  updatedType : ∀ tenantId uid updateFn now faults answer after,
    (MetaCall.updateDataConnectionType tenantId uid updateFn now).run globalTenantId faults store =
      (.ok answer, after) →
    ∃ dataConnectionType, rows after =
      (rows store).modify .dataConnectionTypes uid fun row => row.withResource dataConnectionType now
  updatedTypeStatus : ∀ uid updateFn now faults answer after,
    (MetaCall.updateDataConnectionTypeStatus uid updateFn now).run globalTenantId faults store = (.ok answer, after) →
    ∃ status, rows after = (rows store).modify .dataConnectionTypes uid fun row => row.withStatus status now

section

variable {store : Tables} (h : Reachable globalTenantId store) {call : MetaCall}
  {faults : Nat → Option Failure}

include h

/-- A call that returned a value has its effect. -/
theorem Reachable.effect {after : Tables} {answer : MetaAnswer}
    (hRun : call.run globalTenantId faults store = (.ok answer, after)) :
    call.Effect globalTenantId (rows store) answer (rows after) := by
  rcases call.run_cases globalTenantId h.wellFormed faults with ⟨answer', hOk, -, hEffect⟩ | ⟨⟨error, hError⟩, -⟩
  · rw [hRun] at hOk hEffect
    rwa [Except.ok.inj hOk]
  · rw [hRun] at hError
    cases hError

theorem Reachable.unchanged_of_error {error : MetaStoreError}
    (hRun : (call.run globalTenantId faults store).1 = .error error) :
    (call.run globalTenantId faults store).2 = store := by
  rcases call.run_cases globalTenantId h.wellFormed faults with ⟨answer, hOk, -⟩ | ⟨-, hSame⟩
  · rw [hRun] at hOk
    cases hOk
  · exact hSame

end

/-- An edit of one part of a row, with the part that it put there. -/
theorem Registry.Sound.modify_of_edit (h : registry.Sound) {table : MetaTable} {existing resource : table.Row}
    (hExisting : existing ∈ registry table) (hId : (table.metadata existing).id = uid) {Part : Type}
    {edited : Except MetaStoreError Part} (rebuild : table.Row → Part → table.Row)
    (hChange : edited.map (rebuild existing) = .ok resource) :
    ∃ part, registry.replace table uid resource = registry.modify table uid fun row => rebuild row part := by
  obtain ⟨part, -, rfl⟩ := map_eq_ok.mp hChange
  exact ⟨part, h.replace_eq_modify hExisting hId fun row => rebuild row part⟩

/-- Index columns without `NULL` are unique as plain values. -/
theorem nodup_of_nodup_some {Row : Type} {rows : List Row} {name : Row → String}
    {tenant : Row → Option String} (h : (rows.map fun row => (some (name row), tenant row)).Nodup) :
    (rows.map fun row => (name row, tenant row)).Nodup := by
  refine List.Nodup.of_map (Prod.map some id) ?_
  rwa [map_map]

/-- Rows with one id at two moments of a run come from the same creation. -/
theorem identity_kept {before after : List (MetaCall × (Nat → Option Failure))}
    (hFresh : ((before ++ after).filterMap fun call => call.1.generatedId?).Nodup) {table : MetaTable}
    {old row : table.Row} (hOld : old ∈ rows (runCalls globalTenantId before) table)
    (hRow : row ∈ rows (runCalls globalTenantId (before ++ after)) table)
    (hId : (table.metadata row).id = (table.metadata old).id) :
    (table.metadata row).tenantId = (table.metadata old).tenantId ∧
      (table.metadata row).createdAt = (table.metadata old).createdAt := by
  obtain ⟨first, hFirst, hCreatesOld⟩ := exists_creates hOld
  obtain ⟨second, hSecond, hCreates⟩ := exists_creates hRow
  have hSame := eq_of_generatedId hFresh hSecond (mem_append_left _ hFirst) hCreates.generatedId
    (hId ▸ hCreatesOld.generatedId)
  subst hSame
  exact hCreates.agree hCreatesOld

/-- The invariants hold in every state of every run of calls with fresh
identifiers. -/
theorem run_invariants (globalTenantId : String) (calls : List (MetaCall × (Nat → Option Failure)))
    (hFresh : (calls.filterMap fun call => call.1.generatedId?).Nodup) :
    RunInvariants globalTenantId calls (runCalls globalTenantId calls) := by
  have hReachable := runCalls_reachable globalTenantId calls
  have hSound := hReachable.sound
  refine {
    readable := store_rows hReachable.wellFormed
    connectionIds := hSound.ids .dataConnections
    typeIds := hSound.ids .dataConnectionTypes
    connectionNames := nodup_of_nodup_some (hSound.names .dataConnections)
    typeNames := nodup_of_nodup_some (hSound.names .dataConnectionTypes)
    created := fun table row hRow => exists_creates hRow
    kept := ?_
    failed := fun call faults error => hReachable.unchanged_of_error
    updatedConnection := ?_
    updatedConnectionStatus := ?_
    updatedType := ?_
    updatedTypeStatus := ?_ }
  · rintro before after rfl table old hOld row hRow hId
    exact identity_kept hFresh hOld hRow hId
  · intro tenantId uid updateFn now faults answer after hRun
    have hEffect := hReachable.effect hRun
    generalize rows after = changed at hEffect ⊢
    cases hEffect with
    | updateDataConnection hExisting hFinds hChange hType =>
      exact hSound.modify_of_edit hExisting hFinds.1
        (fun row part => DataConnectionResource.withResource row part now) hChange
  · intro tenantId uid updateFn now faults answer after hRun
    have hEffect := hReachable.effect hRun
    generalize rows after = changed at hEffect ⊢
    cases hEffect with
    | updateDataConnectionStatus hExisting hFinds hChange =>
      exact hSound.modify_of_edit hExisting hFinds.1
        (fun row part => DataConnectionResource.withStatus row part now) hChange
  · intro tenantId uid updateFn now faults answer after hRun
    have hEffect := hReachable.effect hRun
    generalize rows after = changed at hEffect ⊢
    cases hEffect with
    | updateDataConnectionType hExisting hFinds hChange =>
      exact hSound.modify_of_edit hExisting hFinds.1
        (fun row part => DataConnectionTypeResource.withResource row part now) hChange
  · intro uid updateFn now faults answer after hRun
    have hEffect := hReachable.effect hRun
    generalize rows after = changed at hEffect ⊢
    cases hEffect with
    | updateDataConnectionTypeStatus hExisting hFinds hChange =>
      exact hSound.modify_of_edit hExisting hFinds.1
        (fun row part => DataConnectionTypeResource.withStatus row part now) hChange

theorem run_invariants_sample : (rows (runCalls "global" [(sampleCalls false, noFaults), (sampleCalls true, noFaults)])
      .dataConnections).length = 1 ∧
    RunInvariants "global" [(sampleCalls false, noFaults), (sampleCalls true, noFaults)]
      (runCalls "global" [(sampleCalls false, noFaults), (sampleCalls true, noFaults)]) :=
  ⟨rfl, run_invariants "global" [(sampleCalls false, noFaults), (sampleCalls true, noFaults)] (by decide)⟩

end DataConnectHub
