import DataConnectHub.MetaStore.Integrity
import DataConnectHub.RowStore.WaitFor

/-! Concurrent calls: rewrites of one row compose in commit order, and calls
never wait for each other in a cycle. -/
namespace DataConnectHub

open Serde RowStore Transaction RustStd List

/-- Fallible functions applied one after another. -/
def applyInOrder {Error α : Type} (functions : List (α → Except Error α)) (start : α) : Except Error α :=
  functions.foldlM (fun value function => function value) start

section InOrder

variable {Error α β Client : Type}

@[simp] theorem applyInOrder_cons (function : α → Except Error α) (functions : List (α → Except Error α)) (start : α) :
    applyInOrder (function :: functions) start = (function start).bind (applyInOrder functions) := rfl

theorem applyInOrder_concat {functions : List (α → Except Error α)} {function : α → Except Error α}
    {start middle : α} (h : applyInOrder functions start = .ok middle) :
    applyInOrder (functions ++ [function]) start = function middle := by
  induction functions generalizing start with
  | nil =>
    obtain rfl := Except.ok.inj h
    rw [nil_append, applyInOrder_cons]
    cases function start <;> rfl
  | cons first rest ih =>
    rw [cons_append, applyInOrder_cons]
    rw [applyInOrder_cons] at h
    cases hFirst : first start with
    | error error =>
      rw [hFirst] at h
      cases h
    | ok value =>
      rw [hFirst] at h
      exact ih h

/-- What an edit of the whole does to one part of it: it applies the function
to that part, or leaves it alone when there is none. -/
def Follows (edit : α → Except Error α) (part : α → β) : Option (β → Except Error β) → Prop
  | some function => ∀ whole changed, edit whole = .ok changed → function (part whole) = .ok (part changed)
  | none => ∀ whole changed, edit whole = .ok changed → part changed = part whole

/-- Under edits of the whole, a part ends as the functions applied to it make
it in order. -/
theorem applyInOrder_part {edit : Client → α → Except Error α} {part : α → β}
    {function? : Client → Option (β → Except Error β)}
    (hFollows : ∀ client, Follows (edit client) part (function? client))
    {log : List Client} {start final : α} (h : applyInOrder (log.map edit) start = .ok final) :
    applyInOrder (log.filterMap function?) (part start) = .ok (part final) := by
  induction log generalizing start with
  | nil =>
    obtain rfl := Except.ok.inj h
    rfl
  | cons client log ih =>
    rw [map_cons, applyInOrder_cons] at h
    cases hEdit : edit client start with
    | error error =>
      rw [hEdit] at h
      cases h
    | ok changed =>
      rw [hEdit] at h
      have hRest := ih h
      have hPart := hFollows client
      cases hFunction : function? client with
      | none =>
        rw [hFunction] at hPart
        rw [filterMap_cons_none hFunction, ← hPart start changed hEdit]
        exact hRest
      | some function =>
        rw [hFunction] at hPart
        rw [filterMap_cons_some hFunction, applyInOrder_cons, hPart start changed hEdit]
        exact hRest

end InOrder

section LostUpdates

variable {globalTenantId uid : String} {Client : Type} [DecidableEq Client] {start : Tables}
  {table : MetaTable} {calls : Client → MetaCall}
  {config : Config metaSchema Client (Except MetaStoreError MetaAnswer)}

/-- A call that, when it succeeds, rewrites the row `uid` of the table. -/
def MetaCall.Rewrites (call : MetaCall) (globalTenantId : String) (table : MetaTable) (uid : String)
    (edit : UpdateFn table.Row) : Prop :=
  ∀ {registry answer changed}, call.Effect globalTenantId registry answer changed →
    ∃ existing resource, existing ∈ registry table ∧ (table.metadata existing).id = uid ∧
      edit existing = .ok resource ∧ changed = registry.replace table uid resource ∧
      (table.metadata resource).id = uid

/-- Concurrent rewrites of one row leave it as they would one after another,
in the order in which they committed. -/
theorem rewrites_in_commit_order {edit : Client → UpdateFn table.Row}
    (hStart : Reachable globalTenantId start) {row : table.Row} (hRow : toValue row ∈ start table)
    (hId : (table.metadata row).id = uid)
    (hCalls : ∀ client, (calls client).Rewrites globalTenantId table uid (edit client))
    (hReach : Config.Reaches (Config.initial start fun client => (calls client).program globalTenantId) config) :
    ∃ final, toValue final ∈ config.committed table ∧ (table.metadata final).id = uid ∧
      applyInOrder (config.log.map edit) row = .ok final := by
  have hConsistent := serializable hStart.wellFormed (fun client => (calls client).disciplined globalTenantId) hReach
  suffices hPrefix : ∀ before after, config.log = before ++ after → Reachable globalTenantId
        (serially (fun client => (calls client).program globalTenantId) start before) ∧
      ∃ final, toValue final ∈ serially (fun client => (calls client).program globalTenantId) start before table ∧
        (table.metadata final).id = uid ∧ applyInOrder (before.map edit) row = .ok final by
    rw [hConsistent.serial]
    exact (hPrefix config.log [] (by simp)).2
  intro before
  induction before using reverseRecOn with
  | nil => exact fun _ _ => ⟨hStart, row, hRow, hId, rfl⟩
  | append_singleton before client ih =>
    intro after hLog
    rw [append_assoc, singleton_append] at hLog
    obtain ⟨hReachable, last, hLast, hLastId, hOrder⟩ := ih (client :: after) hLog
    obtain ⟨answer, hTurn⟩ := hConsistent.atomically_of_log hLog
    have hNext := hReachable.run (calls client) noFaults
    change Reachable globalTenantId (((calls client).program globalTenantId).atomically _).2 at hNext
    rw [hTurn] at hNext
    rw [← store_rows hReachable.wellFormed] at hTurn
    obtain ⟨changed, hAfter, hEffect⟩ := (calls client).effect_of_ok hReachable.sound hTurn
    obtain ⟨existing, resource, hExisting, hExistingId, hEdit, rfl, hResourceId⟩ :=
      hCalls client hEffect
    have hSame : existing = last := hReachable.sound.eq_of_id hExisting
      ((mem_store_iff hReachable.wellFormed last).mp hLast) (hExistingId.trans hLastId.symm)
    subst hSame
    refine ⟨hNext, resource, ?_, hResourceId, ?_⟩
    · rw [hAfter, Registry.store, Registry.replace_self]
      exact mem_map_of_mem (mem_map.mpr ⟨existing, hExisting, if_pos hExistingId⟩)
    · rw [map_append, map_singleton, applyInOrder_concat hOrder, hEdit]

end LostUpdates

/-- An update of a stored row: of its resource or of its status. -/
inductive RowUpdate (Resource Status : Type) where
  | resource (updateFn : UpdateFn Resource) (now : String)
  | status (updateFn : UpdateFn Status) (now : String)

def RowUpdate.resourceFn? {Resource Status : Type} : RowUpdate Resource Status → Option (UpdateFn Resource)
  | .resource updateFn _ => some updateFn
  | .status .. => none

def RowUpdate.statusFn? {Resource Status : Type} : RowUpdate Resource Status → Option (UpdateFn Status)
  | .resource .. => none
  | .status updateFn _ => some updateFn

abbrev ConnectionUpdate := RowUpdate DataConnection DataConnectionStatus

namespace ConnectionUpdate

def call (tenantId uid : String) : ConnectionUpdate → MetaCall
  | .resource updateFn now => .updateDataConnection tenantId uid updateFn now
  | .status updateFn now => .updateDataConnectionStatus tenantId uid updateFn now

def edit : ConnectionUpdate → UpdateFn DataConnectionResource
  | .resource updateFn now => editConnection updateFn now
  | .status updateFn now => editConnectionStatus updateFn now

variable (update : ConnectionUpdate)

theorem rewrites (globalTenantId tenantId uid : String) :
    (update.call tenantId uid).Rewrites globalTenantId .dataConnections uid update.edit := by
  intro registry answer changed hEffect
  cases update with
  | resource updateFn now =>
    cases hEffect with
    | @updateDataConnection _ _ _ _ existing resource hExisting hFinds hChange hType =>
      obtain ⟨_, hKept⟩ := editConnection_keeps updateFn now existing resource hChange
      exact ⟨existing, resource, hExisting, hFinds.1, hChange, rfl, (congrArg ResourceMetadata.id hKept).trans hFinds.1⟩
  | status updateFn now =>
    cases hEffect with
    | @updateDataConnectionStatus _ _ _ _ existing resource hExisting hFinds hChange =>
      obtain ⟨_, hKept⟩ := editConnectionStatus_keeps updateFn now existing resource hChange
      exact ⟨existing, resource, hExisting, hFinds.1, hChange, rfl, (congrArg ResourceMetadata.id hKept).trans hFinds.1⟩

theorem follows_resource : Follows update.edit DataConnectionResource.resource update.resourceFn? := by
  cases update with
  | resource updateFn now | status updateFn now =>
    intro whole changed hEdit
    obtain ⟨value, hValue, rfl⟩ := map_eq_ok.mp hEdit
    first | exact hValue | rfl

theorem follows_status : Follows update.edit DataConnectionResource.status update.statusFn? := by
  cases update with
  | resource updateFn now | status updateFn now =>
    intro whole changed hEdit
    obtain ⟨value, hValue, rfl⟩ := map_eq_ok.mp hEdit
    first | exact hValue | rfl

end ConnectionUpdate

abbrev TypeUpdate := RowUpdate DataConnectionType DataConnectionTypeStatus

namespace TypeUpdate

def call (tenantId uid : String) : TypeUpdate → MetaCall
  | .resource updateFn now => .updateDataConnectionType tenantId uid updateFn now
  | .status updateFn now => .updateDataConnectionTypeStatus uid updateFn now

def edit : TypeUpdate → UpdateFn DataConnectionTypeResource
  | .resource updateFn now => editType updateFn now
  | .status updateFn now => editTypeStatus updateFn now

variable (update : TypeUpdate)

theorem rewrites (globalTenantId tenantId uid : String) :
    (update.call tenantId uid).Rewrites globalTenantId .dataConnectionTypes uid update.edit := by
  intro registry answer changed hEffect
  cases update with
  | resource updateFn now =>
    cases hEffect with
    | @updateDataConnectionType _ _ _ _ existing resource hExisting hFinds hChange =>
      obtain ⟨_, hKept⟩ := editType_keeps updateFn now existing resource hChange
      exact ⟨existing, resource, hExisting, hFinds.1, hChange, rfl, (congrArg ResourceMetadata.id hKept).trans hFinds.1⟩
  | status updateFn now =>
    cases hEffect with
    | @updateDataConnectionTypeStatus _ _ _ existing resource hExisting hFinds hChange =>
      obtain ⟨_, hKept⟩ := editTypeStatus_keeps updateFn now existing resource hChange
      exact ⟨existing, resource, hExisting, hFinds.1, hChange, rfl, (congrArg ResourceMetadata.id hKept).trans hFinds.1⟩

theorem follows_resource : Follows update.edit DataConnectionTypeResource.resource update.resourceFn? := by
  cases update with
  | resource updateFn now | status updateFn now =>
    intro whole changed hEdit
    obtain ⟨value, hValue, rfl⟩ := map_eq_ok.mp hEdit
    first | exact hValue | rfl

theorem follows_status : Follows update.edit DataConnectionTypeResource.status update.statusFn? := by
  cases update with
  | resource updateFn now | status updateFn now =>
    intro whole changed hEdit
    obtain ⟨value, hValue, rfl⟩ := map_eq_ok.mp hEdit
    first | exact hValue | rfl

end TypeUpdate

section Composition

variable {globalTenantId : String} {Client : Type} [DecidableEq Client] {start : Tables}
  {config : Config metaSchema Client (Except MetaStoreError MetaAnswer)}

/-- The row `uid` as the successful calls of the log leave it: `edit`, applied
in commit order to the row they started from. -/
structure ComposedInOrder (config : Config metaSchema Client (Except MetaStoreError MetaAnswer))
    (table : MetaTable) (uid : String) (row : table.Row)
    (edit : Client → UpdateFn table.Row) (final : table.Row) : Prop where
  successful : ∀ client, client ∈ config.log ↔ ∃ answer, (config.sessions client).program = .done (.ok answer)
  once : config.log.Nodup
  stored : toValue final ∈ config.committed table
  only : ∀ doc ∈ config.committed table, doc.path? "metadata" "id" = some uid → doc = toValue final
  composed : applyInOrder (config.log.map edit) row = .ok final

theorem composedInOrder {table : MetaTable} {uid : String} {row : table.Row} {calls : Client → MetaCall}
    {edit : Client → UpdateFn table.Row} (hStart : Reachable globalTenantId start) (hRow : toValue row ∈ start table)
    (hId : (table.metadata row).id = uid)
    (hCalls : ∀ client, (calls client).Rewrites globalTenantId table uid (edit client))
    (hReach : Config.Reaches (Config.initial start fun client => (calls client).program globalTenantId) config) :
    ∃ final, ComposedInOrder config table uid row edit final := by
  have hConsistent := serializable hStart.wellFormed (fun client => (calls client).disciplined globalTenantId) hReach
  obtain ⟨final, hFinal, hFinalId, hComposed⟩ :=
    rewrites_in_commit_order hStart hRow hId hCalls hReach
  refine ⟨final, hConsistent.mem_log_iff, hConsistent.nodup, hFinal, ?_, hComposed⟩
  intro doc hDoc hKey
  refine hConsistent.wellFormed.eq_of_key hDoc hFinal hKey ?_
  rw [← hFinalId]
  exact key_toValue table final

/-- No update is lost. Whatever updates and status updates of one stored
connection, or of one stored type, are interleaved, the row is what the
successful calls make of it one after another in commit order; its resource is
the composition of the successful resource functions and its status that of
the successful status functions. -/
theorem updates_compose_in_commit_order (hStart : Reachable globalTenantId start) (tenantId uid : String) :
    (∀ (updates : Client → ConnectionUpdate) (row : DataConnectionResource),
      toValue row ∈ start .dataConnections → row.metadata.id = uid →
      Config.Reaches (Config.initial start fun client =>
        ((updates client).call tenantId uid).program globalTenantId) config →
      ∃ final : DataConnectionResource,
        ComposedInOrder config .dataConnections uid row (fun client => (updates client).edit) final ∧
        applyInOrder (config.log.filterMap fun client => (updates client).resourceFn?) row.resource =
          .ok final.resource ∧
        applyInOrder (config.log.filterMap fun client => (updates client).statusFn?) row.status = .ok final.status) ∧
    (∀ (updates : Client → TypeUpdate) (row : DataConnectionTypeResource),
      toValue row ∈ start .dataConnectionTypes → row.metadata.id = uid →
      Config.Reaches (Config.initial start fun client =>
        ((updates client).call tenantId uid).program globalTenantId) config →
      ∃ final : DataConnectionTypeResource,
        ComposedInOrder config .dataConnectionTypes uid row (fun client => (updates client).edit) final ∧
        applyInOrder (config.log.filterMap fun client => (updates client).resourceFn?) row.resource =
          .ok final.resource ∧
        applyInOrder (config.log.filterMap fun client => (updates client).statusFn?) row.status =
          .ok final.status) := by
  constructor
  all_goals
    intro updates row hRow hId hReach
    obtain ⟨final, hFinal⟩ := composedInOrder hStart hRow hId
      (fun client => (updates client).rewrites globalTenantId tenantId uid) hReach
    have hResource := applyInOrder_part (fun client => (updates client).follows_resource) hFinal.composed
    have hStatus := applyInOrder_part (fun client => (updates client).follows_status) hFinal.composed
    exact ⟨final, hFinal, hResource, hStatus⟩

/-- One client renames the sample connection while another marks it ready. -/
def sampleUpdates : Bool → ConnectionUpdate
  | false => .resource (fun connection => .ok { connection with name := "invoices" }) "2026-01-02T00:00:00Z"
  | true => .status (fun status => .ok { status with state := .ready }) "2026-01-02T00:00:01Z"

theorem updates_compose_in_commit_order_sample :
    ∃ (config : Config metaSchema Bool (Except MetaStoreError MetaAnswer)) (final : DataConnectionResource),
      config.committed .dataConnections = [toValue final] ∧
      final.resource.name = "invoices" ∧ final.status.state = .ready ∧
      ComposedInOrder config .dataConnections "connection-1"
        (newConnection "tenant-1" sampleConnection "connection-1" "2026-01-01T00:00:01Z")
        (fun client => (sampleUpdates client).edit) final ∧
      applyInOrder (config.log.filterMap fun client => (sampleUpdates client).resourceFn?)
        sampleConnection = .ok final.resource := by
  obtain ⟨config, hReach, hCommitted, -⟩ := exists_reaches_serially
    (fun client => ((sampleUpdates client).call "tenant-1" "connection-1").program "global")
    sampleStore [false, true] (by decide)
  obtain ⟨final, hFinal, hResource, -⟩ := (updates_compose_in_commit_order sampleStore_reachable
    "tenant-1" "connection-1").1 sampleUpdates
    (newConnection "tenant-1" sampleConnection "connection-1" "2026-01-01T00:00:01Z")
    (mem_singleton_self _) rfl hReach
  have hStored := hFinal.stored
  rw [hCommitted] at hStored
  have hSame := mem_singleton.mp hStored
  have hFound := congrArg (fromValue (α := DataConnectionResource)) hSame
  rw [Codec.fromValue_toValue] at hFound
  obtain rfl := Option.some.inj hFound
  exact ⟨config, _, by rw [hCommitted]; rfl, rfl, rfl, hFinal, hResource⟩

/-- The calls of these clients, one after another. -/
def inTurn {Client : Type} (globalTenantId : String) (calls : Client → MetaCall) (start : Tables)
    (clients : List Client) : Tables :=
  clients.foldl (fun store client => ((calls client).run globalTenantId noFaults store).2) start

/-- Interleaved calls refine atomic ones. Those that returned a value ran in the order
of their commits, each with the answer of its turn, and the others left no trace. -/
theorem calls_refine_atomic (hStart : Reachable globalTenantId start) (calls : Client → MetaCall)
    (hReach : Config.Reaches (Config.initial start fun client => (calls client).program globalTenantId) config) :
    config.log.Nodup ∧ config.committed = inTurn globalTenantId calls start config.log ∧
      (∀ client, client ∈ config.log ↔ ∃ answer, (config.sessions client).program = .done (.ok answer)) ∧
      ∀ before client after, config.log = before ++ client :: after → (config.sessions client).program =
        .done ((calls client).run globalTenantId noFaults (inTurn globalTenantId calls start before)).1 := by
  have hConsistent := serializable hStart.wellFormed (fun client => (calls client).disciplined globalTenantId) hReach
  exact ⟨hConsistent.nodup, hConsistent.serial, hConsistent.mem_log_iff, hConsistent.returned⟩

theorem calls_refine_atomic_sample : ∃ config : Config metaSchema Bool (Except MetaStoreError MetaAnswer),
    (config.committed .dataConnections).length = 1 ∧
      config.committed = inTurn "global" sampleCalls emptyStore config.log := by
  obtain ⟨config, hReach, hCommitted, -⟩ := exists_reaches_serially
    (fun client => (sampleCalls client).program "global") emptyStore [false, true] (by decide)
  exact ⟨config, by rw [hCommitted]; rfl, (calls_refine_atomic .empty sampleCalls hReach).2.1⟩

end Composition

/-- The wait-for relation of interleaved calls, by row locks and by
uncommitted duplicates under a unique index, is acyclic in every reachable
state. -/
theorem calls_never_deadlock {globalTenantId : String} {Client : Type} [DecidableEq Client]
    {start : Tables} (hStart : Reachable globalTenantId start) (calls : Client → MetaCall)
    {config : Config metaSchema Client (Except MetaStoreError MetaAnswer)}
    (hReach : Config.Reaches (Config.initial start fun client => (calls client).program globalTenantId) config)
    (client : Client) : ¬ Relation.TransGen config.WaitsFor client client :=
  (serializable hStart.wellFormed (fun client => (calls client).disciplined globalTenantId) hReach).acyclic client

/-- Two clients create types of the same name. -/
def duplicateCalls : Bool → MetaCall
  | false => .createDataConnectionType "tenant-1" sampleType "type-1" "2026-01-01T00:00:00Z"
  | true => .createDataConnectionType "tenant-1" sampleType "type-2" "2026-01-01T00:00:00Z"

/-- The second insert waits for the first, and not the other way round. -/
theorem calls_never_deadlock_sample : ∃ config : Config metaSchema Bool (Except MetaStoreError MetaAnswer),
      Config.Reaches (Config.initial emptyStore fun client => (duplicateCalls client).program "global") config ∧
      config.WaitsFor true false ∧ ∀ client, ¬ Relation.TransGen config.WaitsFor client client := by
  have hFree : ∀ other, other ≠ false → ¬ (Config.initial emptyStore fun client =>
      (duplicateCalls client).program "global").Blocks false (.insert .dataConnectionTypes
        (toValue (newType "tenant-1" sampleType "type-1" "2026-01-01T00:00:00Z"))) other := by
    rintro other - (⟨_, _, held, hHeld, _⟩ | ⟨_, _, _, write, hWrite, _⟩)
    · cases hHeld
    · cases hWrite
  have hReach := Relation.ReflTransGen.single (Config.Step.query false _ _ rfl hFree)
  refine ⟨_, hReach, ?_, calls_never_deadlock .empty duplicateCalls hReach⟩
  exact ⟨by decide, .insert .dataConnectionTypes
    (toValue (newType "tenant-1" sampleType "type-2" "2026-01-01T00:00:00Z")), _, rfl,
    .inr ⟨.dataConnectionTypes, _, rfl, _, mem_singleton_self _, rfl, _, mem_singleton_self _, rfl⟩⟩

end DataConnectHub
