import DataConnectHub.MetaStore.Runs

/-! Referential integrity. The schema declares no foreign key; that every
connection refers to an existing type of its own tenant or of the global one
is an invariant of the calls. -/
namespace DataConnectHub

open Serde RowStore RustStd List

namespace Registry

variable {registry : Registry} {table : MetaTable} {uid : String}

variable {globalTenantId tenantId typeId : String}

section

variable (h : registry.HasType globalTenantId tenantId typeId)

include h

theorem HasType.insert (resource : table.Row) :
    (registry.insert table resource).HasType globalTenantId tenantId typeId := by
  obtain ⟨type, hType, hKnown⟩ := h
  refine ⟨type, ?_, hKnown⟩
  by_cases hTable : MetaTable.dataConnectionTypes = table
  · subst hTable
    rw [insert_self]
    exact mem_append_left _ hType
  · rwa [insert_other _ _ hTable]

/-- A type whose document is rewritten keeps its id and tenant. -/
theorem HasType.replace (hSound : registry.Sound) {existing resource : table.Row}
    (hExisting : existing ∈ registry table) (hId : (table.metadata existing).id = uid) {now : String}
    (hKept : table.metadata resource = { table.metadata existing with updatedAt := now }) :
    (registry.replace table uid resource).HasType globalTenantId tenantId typeId := by
  obtain ⟨type, hType, hTypeId, hTenant⟩ := h
  by_cases hTable : MetaTable.dataConnectionTypes = table
  · subst hTable
    by_cases hSame : type.metadata.id = uid
    · obtain rfl := hSound.eq_of_id hType hExisting (hSame.trans hId.symm)
      refine ⟨resource, ?_, ?_, ?_⟩
      · rw [replace_self]
        exact mem_map.mpr ⟨type, hType, if_pos hSame⟩
      · change (MetaTable.metadata .dataConnectionTypes resource).id = _
        rw [hKept]
        exact hTypeId
      · change (MetaTable.metadata .dataConnectionTypes resource).tenantId = _ ∨
          (MetaTable.metadata .dataConnectionTypes resource).tenantId = _
        rw [hKept]
        exact hTenant
    · refine ⟨type, ?_, hTypeId, hTenant⟩
      rw [replace_self]
      exact mem_map.mpr ⟨type, hType, if_neg hSame⟩
  · refine ⟨type, ?_, hTypeId, hTenant⟩
    rwa [replace_other _ _ _ hTable]

theorem HasType.remove (hOther : table = .dataConnectionTypes → typeId ≠ uid) :
    (registry.remove table uid).HasType globalTenantId tenantId typeId := by
  obtain ⟨type, hType, hId, hTenant⟩ := h
  refine ⟨type, ?_, hId, hTenant⟩
  by_cases hTable : MetaTable.dataConnectionTypes = table
  · subst hTable
    refine mem_remove.mpr ⟨hType, fun hSame => hOther rfl ?_⟩
    rw [← hId]
    exact hSame
  · rwa [remove_other _ _ hTable]

end

/-- Every connection refers to an existing type that its tenant may use. -/
def Integral (registry : Registry) (globalTenantId : String) : Prop :=
  ∀ connection ∈ registry .dataConnections, ∃ tenantId, connection.metadata.tenantId = some tenantId ∧
    registry.HasType globalTenantId tenantId connection.resource.dataConnectionTypeId

/-- A connection that keeps its tenant and type stays covered when all types
do, and so does the whole registry. -/
theorem Integral.of_connections {changed : Registry} (h : registry.Integral globalTenantId)
    (hTypes : ∀ tenantId typeId, registry.HasType globalTenantId tenantId typeId →
      changed.HasType globalTenantId tenantId typeId)
    (hConnections : ∀ connection ∈ changed .dataConnections, connection ∈ registry .dataConnections ∨
      ∃ tenantId, connection.metadata.tenantId = some tenantId ∧
        changed.HasType globalTenantId tenantId connection.resource.dataConnectionTypeId) :
    changed.Integral globalTenantId := by
  intro connection hConnection
  rcases hConnections connection hConnection with hOld | hNew
  · obtain ⟨tenantId, hTenant, hType⟩ := h connection hOld
    exact ⟨tenantId, hTenant, hTypes _ _ hType⟩
  · exact hNew

end Registry

variable {globalTenantId : String}

theorem Registry.Integral.effect {registry changed : Registry} {call : MetaCall} {answer : MetaAnswer}
    (hSound : registry.Sound) (h : registry.Integral globalTenantId)
    (hEffect : call.Effect globalTenantId registry answer changed) : changed.Integral globalTenantId := by
  cases hEffect with
  | @createDataConnection tenantId dataConnection id now hType =>
    refine h.of_connections (fun _ _ hKnown => hKnown.insert _) fun connection hConnection => ?_
    rw [insert_self] at hConnection
    rcases mem_append.mp hConnection with hOld | hNew
    · exact .inl hOld
    · obtain rfl := mem_singleton.mp hNew
      exact .inr ⟨tenantId, rfl, hType.insert _⟩
  | @updateDataConnection tenantId uid updateFn now existing resource hExisting hFinds hChange hType =>
    obtain ⟨now', hKept⟩ := editConnection_keeps updateFn now existing resource hChange
    refine h.of_connections (fun _ _ hKnown => hKnown.replace hSound hExisting hFinds.1 hKept) ?_
    intro connection hConnection
    refine (mem_replace hConnection).imp_right ?_
    rintro rfl
    refine ⟨tenantId, ?_, hType.replace hSound hExisting hFinds.1 hKept⟩
    exact (congrArg ResourceMetadata.tenantId hKept).trans (hFinds.2 tenantId rfl)
  | @updateDataConnectionStatus tenantId uid updateFn now existing resource hExisting hFinds hChange =>
    obtain ⟨now', hKept⟩ := editConnectionStatus_keeps updateFn now existing resource hChange
    refine h.of_connections (fun _ _ hKnown => hKnown.replace hSound hExisting hFinds.1 hKept) ?_
    intro connection hConnection
    refine (mem_replace hConnection).imp_right ?_
    rintro rfl
    obtain ⟨tenantId', hTenant, hType⟩ := h existing hExisting
    refine ⟨tenantId', (congrArg ResourceMetadata.tenantId hKept).trans hTenant, ?_⟩
    obtain ⟨status, -, rfl⟩ := map_eq_ok.mp hChange
    exact hType.replace hSound hExisting hFinds.1 hKept
  | deleteDataConnection hExisting hFinds =>
    refine h.of_connections (fun _ _ hKnown => hKnown.remove (by simp)) fun connection hConnection => ?_
    exact .inl (mem_remove.mp hConnection).1
  | createDataConnectionType | createFlightService =>
    exact h.of_connections (fun _ _ hKnown => hKnown.insert _) fun connection hConnection => .inl hConnection
  | @updateDataConnectionType tenantId uid updateFn now existing resource hExisting hFinds hChange =>
    obtain ⟨now', hKept⟩ := editType_keeps updateFn now existing resource hChange
    exact h.of_connections (fun _ _ hKnown => hKnown.replace hSound hExisting hFinds.1 hKept)
      fun connection hConnection => .inl hConnection
  | @updateDataConnectionTypeStatus uid updateFn now existing resource hExisting hFinds hChange =>
    obtain ⟨now', hKept⟩ := editTypeStatus_keeps updateFn now existing resource hChange
    exact h.of_connections (fun _ _ hKnown => hKnown.replace hSound hExisting hFinds.1 hKept)
      fun connection hConnection => .inl hConnection
  | deleteDataConnectionType hExisting hFinds hUnused =>
    intro connection hConnection
    obtain ⟨tenantId, hTenant, hType⟩ := h connection hConnection
    exact ⟨tenantId, hTenant, hType.remove fun _ => hUnused connection hConnection⟩
  | @updateFlightService id updateFn now existing resource hExisting hFinds hChange =>
    obtain ⟨now', hKept⟩ := editService_keeps updateFn now existing resource hChange
    exact h.of_connections (fun _ _ hKnown => hKnown.replace hSound hExisting hFinds.1 hKept)
      fun connection hConnection => .inl hConnection
  | deleteFlightService hExisting hFinds =>
    exact h.of_connections (fun _ _ hKnown => hKnown.remove (by simp)) fun connection hConnection => .inl hConnection

theorem Reachable.integral {store : Tables} (h : Reachable globalTenantId store) :
    (rows store).Integral globalTenantId := by
  refine h.invariant (fun registry => registry.Integral globalTenantId) ?_ ?_
  · intro connection hConnection
    cases hConnection
  · intro registry call answer changed hSound hIntegral hEffect
    exact hIntegral.effect hSound hEffect

/-- Whatever calls are interleaved from the empty store, and whatever fails:
in every committed state each connection's type id is the id of an existing
type of the connection's own tenant or of the global tenant. -/
theorem committed_types_exist {Client : Type} [DecidableEq Client] (calls : Client → MetaCall)
    {config : Config metaSchema Client (Except MetaStoreError MetaAnswer)}
    (hReach : Config.Reaches (Config.initial emptyStore fun client => (calls client).program globalTenantId) config) :
    ∀ connection ∈ config.committed .dataConnections, ∃ typeId tenantId,
      connection.path? "resource" "data_connection_type_id" = some typeId ∧
      connection.path? "metadata" "tenant_id" = some tenantId ∧
      ∃ type ∈ config.committed .dataConnectionTypes, type.path? "metadata" "id" = some typeId ∧
        (type.path? "metadata" "tenant_id" = some tenantId ∨
          type.path? "metadata" "tenant_id" = some globalTenantId) := by
  have hReachable : Reachable globalTenantId config.committed := .committed .empty hReach
  intro doc hDoc
  rw [← store_rows hReachable.wellFormed] at hDoc ⊢
  obtain ⟨connection, hConnection, rfl⟩ := mem_map.mp hDoc
  obtain ⟨tenantId, hTenant, type, hType, hId, hOwner⟩ := hReachable.integral connection hConnection
  refine ⟨connection.resource.dataConnectionTypeId, tenantId, rfl,
    (MetaTable.path_tenant .dataConnections connection).trans hTenant, toValue type,
    mem_map_of_mem hType, ?_, ?_⟩
  · rw [← hId]
    exact MetaTable.path_id .dataConnectionTypes type
  · have hPath := MetaTable.path_tenant .dataConnectionTypes type
    exact hOwner.imp hPath.trans hPath.trans

/-- A run that commits a type and then a connection of it. -/
theorem committed_types_exist_sample : ∃ config : Config metaSchema Bool (Except MetaStoreError MetaAnswer),
      Config.Reaches (Config.initial emptyStore fun client => (sampleCalls client).program "global") config ∧
      (config.committed .dataConnections).length = 1 ∧
      ∀ connection ∈ config.committed .dataConnections, ∃ typeId tenantId,
        connection.path? "resource" "data_connection_type_id" = some typeId ∧
        connection.path? "metadata" "tenant_id" = some tenantId ∧
        ∃ type ∈ config.committed .dataConnectionTypes, type.path? "metadata" "id" = some typeId ∧
          (type.path? "metadata" "tenant_id" = some tenantId ∨ type.path? "metadata" "tenant_id" = some "global") := by
  obtain ⟨config, hReach, hCommitted, -⟩ := exists_reaches_serially
    (fun client => (sampleCalls client).program "global") emptyStore [false, true] (by decide)
  refine ⟨config, hReach, ?_, committed_types_exist sampleCalls hReach⟩
  rw [hCommitted]
  rfl

end DataConnectHub
