import DataConnectHub.MetaStore.TenantLockstep

/-! Tenant isolation. An operation of one tenant depends only on that tenant's
rows and the global types, and touches only that tenant's rows. -/
namespace DataConnectHub

open Serde RowStore Transaction List

section Changes

/-- The one row a successful call adds, rewrites or removes. -/
inductive Change where
  | insert (table : MetaTable) (resource : table.Row)
  | replace (table : MetaTable) (uid : String) (resource : table.Row)
  | remove (table : MetaTable) (uid : String)

namespace Change

def apply (registry : Registry) : Change → Registry
  | .insert table resource => registry.insert table resource
  | .replace table uid resource => registry.replace table uid resource
  | .remove table uid => registry.remove table uid

/-- The change stays within the tenant's rows. -/
def Within (tenantId : String) (registry : Registry) : Change → Prop
  | .insert table resource => (table.metadata resource).tenantId = some tenantId
  | .replace table uid resource => (table.metadata resource).tenantId = some tenantId ∧
      ∃ existing ∈ registry table, table.Finds uid (some tenantId) existing
  | .remove table uid => ∃ existing ∈ registry table, table.Finds uid (some tenantId) existing

/-- The documents a change takes out of a table. -/
def Drops : Change → MetaTable → Json → Prop
  | .insert _ _, _, _ => False
  | .replace target uid _, table, doc => table = target ∧ metaSchema.key doc = some uid
  | .remove target uid, table, doc => table = target ∧ metaSchema.key doc = some uid

/-- The documents a change puts into a table. -/
def Adds : Change → MetaTable → Json → Prop
  | .insert target resource, table, doc => table = target ∧ doc = toValue resource
  | .replace target _ resource, table, doc => table = target ∧ doc = toValue resource
  | .remove _ _, _, _ => False

variable {tenantId : String} {registry : Registry}

theorem mem_insert (table target : MetaTable) (resource : target.Row) (doc : Json) :
    doc ∈ (registry.insert target resource).store table ↔
      doc ∈ registry.store table ∨ (table = target ∧ doc = toValue resource) := by
  by_cases hTable : table = target
  · subst hTable
    simp [Registry.store, eq_comm]
  · simp [Registry.store, Registry.insert_other _ _ hTable, hTable]

theorem mem_replace {target : MetaTable} {uid : String} {existing : target.Row}
    (hExisting : existing ∈ registry target) (hId : (target.metadata existing).id = uid)
    (table : MetaTable) (resource : target.Row) (doc : Json) :
    doc ∈ (registry.replace target uid resource).store table ↔
      (doc ∈ registry.store table ∧ ¬(table = target ∧ metaSchema.key doc = some uid)) ∨
        (table = target ∧ doc = toValue resource) := by
  by_cases hTable : table = target
  · subst hTable
    simp only [Registry.store, Registry.replace_self, mem_map, true_and]
    constructor
    · rintro ⟨_, ⟨row, hRow, rfl⟩, rfl⟩
      by_cases hSame : (table.metadata row).id = uid
      · exact .inr (by rw [if_pos hSame])
      · rw [if_neg hSame]
        exact .inl ⟨⟨row, hRow, rfl⟩, by rwa [MetaTable.path_id, Option.some.injEq]⟩
    · rintro (⟨⟨row, hRow, rfl⟩, hOther⟩ | rfl)
      · rw [MetaTable.path_id, Option.some.injEq] at hOther
        exact ⟨row, ⟨row, hRow, if_neg hOther⟩, rfl⟩
      · exact ⟨resource, ⟨existing, hExisting, if_pos hId⟩, rfl⟩
  · simp [Registry.store, Registry.replace_other _ _ _ hTable, hTable]

theorem mem_remove (table target : MetaTable) (uid : String) (doc : Json) :
    doc ∈ (registry.remove target uid).store table ↔
      doc ∈ registry.store table ∧ ¬(table = target ∧ metaSchema.key doc = some uid) := by
  by_cases hTable : table = target
  · subst hTable
    simp only [Registry.store, mem_map, Registry.mem_remove, true_and]
    constructor
    · rintro ⟨row, ⟨hRow, hOther⟩, rfl⟩
      exact ⟨⟨row, hRow, rfl⟩, by rwa [MetaTable.path_id, Option.some.injEq]⟩
    · rintro ⟨⟨row, hRow, rfl⟩, hOther⟩
      rw [MetaTable.path_id, Option.some.injEq] at hOther
      exact ⟨row, ⟨hRow, hOther⟩, rfl⟩
  · simp [Registry.store, Registry.remove_other _ _ hTable, hTable]

variable {change : Change}

theorem mem_apply (h : change.Within tenantId registry) (table : MetaTable) (doc : Json) :
    doc ∈ (change.apply registry).store table ↔
      (doc ∈ registry.store table ∧ ¬change.Drops table doc) ∨ change.Adds table doc := by
  cases change with
  | insert target resource =>
    change _ ↔ (_ ∧ ¬False) ∨ _
    rw [not_false_iff, and_true]
    exact mem_insert table target resource doc
  | replace target uid resource =>
    obtain ⟨-, existing, hExisting, hFinds⟩ := h
    exact mem_replace hExisting hFinds.1 table resource doc
  | remove target uid =>
    change _ ↔ _ ∨ False
    rw [or_false]
    exact mem_remove table target uid doc

theorem filter_map_update {table : MetaTable} {keep : Json → Bool} {update : table.Row → table.Row}
    {items : List table.Row} (h : ∀ row ∈ items,
      update row = row ∨ (keep (toValue row) = false ∧ keep (toValue (update row)) = false)) :
    ((items.map update).map toValue).filter keep = (items.map toValue).filter keep := by
  induction items with
  | nil => rfl
  | cons row rest ih =>
    have hRest := ih fun other hOther => h other (mem_cons_of_mem _ hOther)
    rcases h row (mem_cons_self ..) with hSame | ⟨hOld, hNew⟩
    · simp only [map_cons, filter_cons, hSame, hRest]
    · simpa [hOld, hNew] using hRest

/-- The rows of any other tenant stay where they are. -/
theorem frame (hSound : registry.Sound) (h : change.Within tenantId registry) {other : String}
    (hOther : other ≠ tenantId) (table : MetaTable) :
    ((change.apply registry).store table).filter (ofTenant other) = (registry.store table).filter (ofTenant other) := by
  have hOwned : ∀ {target : MetaTable} {row : target.Row},
      (target.metadata row).tenantId = some tenantId → ofTenant other (toValue row) = false := by
    intro target row hTenant
    rw [Bool.eq_false_iff, Ne, ofTenant_toValue, hTenant]
    exact fun hSame => hOther (Option.some.inj hSame).symm
  have hFound : ∀ {target : MetaTable} {existing row : target.Row} {uid : String},
      existing ∈ registry target → target.Finds uid (some tenantId) existing → row ∈ registry target →
      (target.metadata row).id = uid → ofTenant other (toValue row) = false := by
    intro target existing row uid hExisting hFinds hRow hId
    rw [hSound.eq_of_id hRow hExisting (hId.trans hFinds.1.symm)]
    exact hOwned (hFinds.2 tenantId rfl)
  cases change with
  | insert target resource =>
    by_cases hTable : table = target
    · subst hTable
      simp [apply, Registry.store, hOwned h]
    · simp [apply, Registry.store, Registry.insert_other _ _ hTable]
  | replace target uid resource =>
    obtain ⟨hTenant, existing, hExisting, hFinds⟩ := h
    by_cases hTable : table = target
    · subst hTable
      simp only [apply, Registry.store, Registry.replace_self]
      refine filter_map_update fun row hRow => ?_
      by_cases hSame : (table.metadata row).id = uid
      · rw [if_pos hSame]
        exact .inr ⟨hFound hExisting hFinds hRow hSame, hOwned hTenant⟩
      · exact .inl (if_neg hSame)
    · simp [apply, Registry.store, Registry.replace_other _ _ _ hTable]
  | remove target uid =>
    obtain ⟨existing, hExisting, hFinds⟩ := h
    by_cases hTable : table = target
    · subst hTable
      simp only [apply, Registry.store, Registry.remove_self, filter_map, filter_filter]
      congr 1
      refine filter_congr fun row hRow => ?_
      by_cases hSame : (table.metadata row).id = uid
      · simp [hFound hExisting hFinds hRow hSame]
      · simp [hSame]
    · simp [apply, Registry.store, Registry.remove_other _ _ hTable]

end Change

/-- What a call did, read off its answer. -/
def MetaCall.change? : MetaCall → MetaAnswer → Option Change
  | .createDataConnection .., .row table resource => some (.insert table resource)
  | .updateDataConnection _ uid _ _, .row table resource => some (.replace table uid resource)
  | .updateDataConnectionStatus _ uid _ _, .row table resource => some (.replace table uid resource)
  | .deleteDataConnection _ uid, .deleted => some (.remove .dataConnections uid)
  | .createDataConnectionType .., .row table resource => some (.insert table resource)
  | .updateDataConnectionType _ uid _ _, .row table resource => some (.replace table uid resource)
  | .deleteDataConnectionType _ uid, .deleted => some (.remove .dataConnectionTypes uid)
  | _, _ => none

variable {globalTenantId tenantId : String} {registry : Registry} {call : MetaCall}

theorem Change.within_replace {table : MetaTable} {edit : UpdateFn table.Row}
    {existing resource : table.Row} {uid : String} (hKeeps : KeepsIdentity table edit)
    (hExisting : existing ∈ registry table) (hFinds : table.Finds uid (some tenantId) existing)
    (hChange : edit existing = .ok resource) :
    (Change.replace table uid resource).Within tenantId registry := by
  obtain ⟨now, hKept⟩ := hKeeps existing resource hChange
  refine ⟨?_, existing, hExisting, hFinds⟩
  rw [hKept]
  exact hFinds.2 tenantId rfl

/-- A call of the tenant changes rows of the tenant only. -/
theorem MetaCall.Effect.within {changed : Registry} {answer : MetaAnswer}
    (h : call.Effect globalTenantId registry answer changed) (hCall : call.tenant? = some tenantId) :
    ∃ change, call.change? answer = some change ∧ changed = change.apply registry ∧
      change.Within tenantId registry := by
  cases h with
  | createDataConnection hType | createDataConnectionType =>
    obtain rfl := Option.some.inj hCall
    exact ⟨.insert _ _, rfl, rfl, rfl⟩
  | updateDataConnection hExisting hFinds hChange hType =>
    obtain rfl := Option.some.inj hCall
    exact ⟨.replace _ _ _, rfl, rfl, Change.within_replace (editConnection_keeps _ _) hExisting hFinds hChange⟩
  | updateDataConnectionStatus hExisting hFinds hChange =>
    obtain rfl := Option.some.inj hCall
    exact ⟨.replace _ _ _, rfl, rfl, Change.within_replace (editConnectionStatus_keeps _ _) hExisting hFinds hChange⟩
  | deleteDataConnection hExisting hFinds | deleteDataConnectionType hExisting hFinds hUnused =>
    obtain rfl := Option.some.inj hCall
    exact ⟨.remove _ _, rfl, rfl, _, hExisting, hFinds⟩
  | updateDataConnectionType hExisting hFinds hChange =>
    obtain rfl := Option.some.inj hCall
    exact ⟨.replace _ _ _, rfl, rfl, Change.within_replace (editType_keeps _ _) hExisting hFinds hChange⟩
  | _ => cases hCall

/-- A call of the tenant on a reachable store: an error and no change, or an
answer and the change it tells of. -/
theorem Reachable.run_change {store : Tables} (h : Reachable globalTenantId store)
    (hCall : call.tenant? = some tenantId) (faults : Nat → Option Failure) :
    (∃ answer change, (call.run globalTenantId faults store).1 = .ok answer ∧
      call.change? answer = some change ∧ change.Within tenantId (rows store) ∧
      (call.run globalTenantId faults store).2 = (change.apply (rows store)).store) ∨
    ((∃ error, (call.run globalTenantId faults store).1 = .error error) ∧
      (call.run globalTenantId faults store).2 = store) := by
  rcases call.run_cases globalTenantId h.wellFormed faults with ⟨answer, hOk, hAfter, hEffect⟩ | hError
  · obtain ⟨change, hChange, hRows, hWithin⟩ := hEffect.within hCall
    refine .inl ⟨answer, change, hOk, hChange, hWithin, ?_⟩
    rw [← hRows, store_rows hAfter]
  · exact .inr hError

end Changes

section Reads

variable {globalTenantId tenantId : String} {store : Tables}

theorem mapM_decode {α : Type} [Codec α] (items : List α) (malformed : MetaStoreError) :
    (items.map toValue).mapM (fun doc => decode doc malformed) = Except.ok items := by
  induction items with
  | nil => rfl
  | cons item rest ih =>
    have hItem : decode (toValue item) malformed = .ok item := by simp [decode]
    rw [map_cons, mapM_cons, hItem, ih]
    rfl

/-- The rows a filtering statement returns, as resources. -/
def listed (store : Tables) (table : MetaTable) (filter : Json → Bool) : List table.Row :=
  (rows store table).filter fun row => filter (toValue row)

theorem filter_eq_listed (h : WellFormed store) (table : MetaTable) (filter : Json → Bool) :
    (store table).filter filter = (listed store table filter).map toValue := by
  conv_lhs => rw [← store_rows h]
  exact filter_map

theorem listed_perm {first second : Tables} (hFirst : WellFormed first)
    (hSecond : WellFormed second) {table : MetaTable} {filter : Json → Bool}
    (hSame : ∀ doc, filter doc = true → (doc ∈ first table ↔ doc ∈ second table)) :
    (listed first table filter).Perm (listed second table filter) := by
  have hNodup : ∀ {store : Tables}, WellFormed store → (listed store table filter).Nodup :=
    fun h => (List.Nodup.of_map _ ((Registry.sound_of_wellFormed (by rwa [store_rows h])).ids table)).filter _
  refine (perm_ext_iff_of_nodup (hNodup hFirst) (hNodup hSecond)).mpr fun row => ?_
  simp only [listed, mem_filter, ← mem_store_iff hFirst, ← mem_store_iff hSecond]
  exact ⟨fun h => ⟨(hSame _ h.2).mp h.1, h.2⟩, fun h => ⟨(hSame _ h.2).mpr h.1, h.2⟩⟩

theorem getDataConnections_run (h : WellFormed store) (faults : Nat → Option Failure) :
    isolated faults (getDataConnections tenantId) store store = match faults 0 with
      | some _ => (.error (.query "failed to list data connections"), store)
      | none => (.ok { totalCount := (listed store .dataConnections (ofTenant tenantId)).length,
                       items := listed store .dataConnections (ofTenant tenantId) }, store) := by
  rw [getDataConnections, isolated_fetchAll]
  cases faults 0 with
  | some failure => rfl
  | none =>
    simp only [filter_eq_listed h]
    have hDecode : ((listed store .dataConnections (ofTenant tenantId)).map toValue).mapM
        (fun doc => decode doc malformedConnection) = Except.ok _ := mapM_decode _ _
    rw [hDecode]
    rfl

theorem getDataConnectionTypes_run (h : WellFormed store) (faults : Nat → Option Failure) :
    isolated faults (getDataConnectionTypes globalTenantId tenantId) store store = match faults 0 with
      | some _ => (.error (.query "failed to list connection types"), store)
      | none =>
        let items := (listed store .dataConnectionTypes (visibleTo globalTenantId tenantId)).map
          (hideGlobalTenant globalTenantId)
        (.ok { totalCount := items.length, items := items }, store) := by
  rw [getDataConnectionTypes, isolated_fetchAll]
  cases faults 0 with
  | some failure => rfl
  | none =>
    simp only [filter_eq_listed h]
    have hItems : ((listed store .dataConnectionTypes (visibleTo globalTenantId tenantId)).map toValue).filterMap
        (fun doc => deserializeConnectionType doc globalTenantId) =
        (listed store .dataConnectionTypes (visibleTo globalTenantId tenantId)).map
          (hideGlobalTenant globalTenantId) := by
      rw [filterMap_map, ← filterMap_eq_map]
      exact filterMap_congr fun row _ =>
        congrArg (Option.map (hideGlobalTenant globalTenantId)) (Codec.fromValue_toValue row)
    rw [hItems]
    rfl

end Reads

/-- An operation called for a tenant. The writing ones carry the tenant in
their arguments. -/
inductive TenantOperation (tenantId : String) where
  | getDataConnections
  | getDataConnection (uid : String)
  | getDataConnectionTypes
  | getDataConnectionType (id : String)
  | write (call : MetaCall) (hOwn : call.tenant? = some tenantId)

inductive TenantAnswer where
  | connections (list : ResourceList DataConnectionResource)
  | types (list : ResourceList DataConnectionTypeResource)
  | single (answer : MetaAnswer)

/-- Answers that say the same. No statement of the store orders its rows, so
the lists they return are compared up to order. -/
inductive TenantAnswer.Same : TenantAnswer → TenantAnswer → Prop where
  | connections {first second : ResourceList DataConnectionResource}
      (hCount : first.totalCount = second.totalCount) (hItems : first.items.Perm second.items) :
      Same (.connections first) (.connections second)
  | types {first second : ResourceList DataConnectionTypeResource}
      (hCount : first.totalCount = second.totalCount) (hItems : first.items.Perm second.items) :
      Same (.types first) (.types second)
  | single (answer : MetaAnswer) : Same (.single answer) (.single answer)

inductive SameResult : Except MetaStoreError TenantAnswer → Except MetaStoreError TenantAnswer → Prop where
  | error (error : MetaStoreError) : SameResult (.error error) (.error error)
  | ok {first second : TenantAnswer} (hSame : first.Same second) : SameResult (.ok first) (.ok second)

theorem SameResult.of_eq {first second : Except MetaStoreError TenantAnswer} (h : first = second) :
    SameResult first second := by
  subst h
  cases first with
  | error error => exact .error error
  | ok answer =>
    cases answer with
    | connections list => exact .ok (.connections rfl (List.Perm.refl _))
    | types list => exact .ok (.types rfl (List.Perm.refl _))
    | single answer => exact .ok (.single answer)

namespace TenantOperation

variable {globalTenantId tenantId : String} {first second store : Tables}

def program (globalTenantId : String) :
    TenantOperation tenantId → Transaction metaSchema (Except MetaStoreError TenantAnswer)
  | getDataConnections => mapAnswer .connections (DataConnectHub.getDataConnections tenantId)
  | getDataConnection uid => mapAnswer (fun resource => .single (.row .dataConnections resource))
      (DataConnectHub.getDataConnection tenantId uid)
  | getDataConnectionTypes =>
    mapAnswer .types (DataConnectHub.getDataConnectionTypes globalTenantId tenantId)
  | getDataConnectionType id => mapAnswer (fun resource => .single (.row .dataConnectionTypes resource))
      (DataConnectHub.getDataConnectionType globalTenantId tenantId id)
  | write call _ => mapAnswer .single (call.program globalTenantId)

def run (globalTenantId : String) (operation : TenantOperation tenantId)
    (faults : Nat → Option Failure) (store : Tables) :
    Except MetaStoreError TenantAnswer × Tables :=
  isolated faults (operation.program globalTenantId) store store

/-- The identifier the operation generates, if it creates a row, is not in use. -/
def Fresh : TenantOperation tenantId → Tables → Prop
  | write call _, store => call.Fresh store
  | _, _ => True

theorem run_write {call : MetaCall} (hOwn : call.tenant? = some tenantId)
    (faults : Nat → Option Failure) (store : Tables) :
    (write call hOwn).run globalTenantId faults store =
      ((call.run globalTenantId faults store).1.map .single, (call.run globalTenantId faults store).2) :=
  isolated_mapAnswer _ _ _ _ _

theorem same_answers (hFirst : Reachable globalTenantId first) (hSecond : Reachable globalTenantId second)
    (hTenant : tenantId ≠ globalTenantId) (hSame : SameFor globalTenantId tenantId first second)
    (operation : TenantOperation tenantId) (faults : Nat → Option Failure)
    (hFresh : operation.Fresh first) (hFresh' : operation.Fresh second) :
    SameResult (operation.run globalTenantId faults first).1 (operation.run globalTenantId faults second).1 := by
  cases operation with
  | getDataConnections =>
    simp only [run, program, isolated_mapAnswer, getDataConnections_run hFirst.wellFormed,
      getDataConnections_run hSecond.wellFormed]
    have hItems := listed_perm hFirst.wellFormed hSecond.wellFormed (hSame .dataConnections)
    cases faults 0 with
    | some failure => exact .error _
    | none => exact .ok (.connections hItems.length_eq hItems)
  | getDataConnection uid =>
    refine .of_eq (Lockstep.result_eq (Lockstep.map ?_ _) faults first second)
    exact lockstep_fetchOne (hSecond.wellFormed.find_congr (hSame .dataConnections)) fun _ _ => trivial
  | getDataConnectionTypes =>
    simp only [run, program, isolated_mapAnswer, getDataConnectionTypes_run hFirst.wellFormed,
      getDataConnectionTypes_run hSecond.wellFormed]
    have hItems := (listed_perm hFirst.wellFormed hSecond.wellFormed (hSame .dataConnectionTypes)).map
      (hideGlobalTenant globalTenantId)
    cases faults 0 with
    | some failure => exact .error _
    | none => exact .ok (.types hItems.length_eq hItems)
  | getDataConnectionType id =>
    refine .of_eq (Lockstep.result_eq (Lockstep.map ?_ _) faults first second)
    exact lockstep_fetchOne (hSecond.wellFormed.find_congr (hSame .dataConnectionTypes)) fun _ _ => trivial
  | write call hOwn =>
    exact .of_eq (Lockstep.result_eq
      ((call.lockstep hFirst hSecond hTenant hSame hOwn hFresh hFresh').map _) faults first second)

def Reads : TenantOperation tenantId → Prop
  | write _ _ => False
  | _ => True

theorem Reads.unchanged (hStore : WellFormed store) {operation : TenantOperation tenantId}
    (h : operation.Reads) (faults : Nat → Option Failure) :
    (operation.run globalTenantId faults store).2 = store := by
  have hRead : ∀ {Answer : Type} {operation : MetaStoreM Answer} (rename : Answer → TenantAnswer), ReadOnly operation →
      (isolated faults (mapAnswer rename operation) store store).2 = store := by
    intro Answer operation rename hReadOnly
    rw [isolated_mapAnswer]
    exact hReadOnly.unchanged faults store store
  cases operation with
  | getDataConnections =>
    rw [run, program, isolated_mapAnswer, getDataConnections_run hStore]
    cases faults 0 <;> rfl
  | getDataConnection uid | getDataConnectionType id =>
    refine hRead _ ⟨by nofun, ?_⟩
    rintro (failure | _ | doc) <;> exact trivial
  | getDataConnectionTypes =>
    rw [run, program, isolated_mapAnswer, getDataConnectionTypes_run hStore]
    cases faults 0 <;> rfl
  | write call hOwn => exact absurd h id

theorem same_after (hFirst : Reachable globalTenantId first) (hSecond : Reachable globalTenantId second)
    (hTenant : tenantId ≠ globalTenantId) (hSame : SameFor globalTenantId tenantId first second)
    (operation : TenantOperation tenantId) (faults : Nat → Option Failure)
    (hFresh : operation.Fresh first) (hFresh' : operation.Fresh second) :
    SameFor globalTenantId tenantId (operation.run globalTenantId faults first).2
      (operation.run globalTenantId faults second).2 := by
  by_cases hReads : operation.Reads
  · rwa [hReads.unchanged hFirst.wellFormed, hReads.unchanged hSecond.wellFormed]
  · cases operation with
    | write call hOwn =>
      have hAnswers : (call.run globalTenantId faults first).1 = (call.run globalTenantId faults second).1 :=
        (call.lockstep hFirst hSecond hTenant hSame hOwn hFresh hFresh').result_eq faults first second
      simp only [run_write]
      rcases hFirst.run_change hOwn faults with
        ⟨answer, change, hOk, hChange, hWithin, hAfter⟩ | ⟨⟨error, hError⟩, hAfter⟩
      · rcases hSecond.run_change hOwn faults with
          ⟨answer', change', hOk', hChange', hWithin', hAfter'⟩ | ⟨⟨error', hError'⟩, -⟩
        · -- The answers are equal, and so the changes they tell of.
          rw [hOk, hOk', Except.ok.injEq] at hAnswers
          subst hAnswers
          obtain rfl := Option.some.inj (hChange.symm.trans hChange')
          intro table doc hVisible
          rw [hAfter, hAfter', change.mem_apply hWithin, change.mem_apply hWithin',
            store_rows hFirst.wellFormed, store_rows hSecond.wellFormed, hSame table doc hVisible]
        · rw [hOk, hError'] at hAnswers
          cases hAnswers
      · rcases hSecond.run_change hOwn faults with ⟨answer', -, hOk', -⟩ | ⟨-, hAfter'⟩
        · rw [hError, hOk'] at hAnswers
          cases hAnswers
        · rwa [hAfter, hAfter']
    | _ => exact absurd trivial hReads

/-- The rows of every other tenant, and the global types, stay as they are. -/
theorem others_unchanged (h : Reachable globalTenantId store) (operation : TenantOperation tenantId)
    (faults : Nat → Option Failure) {other : String} (hOther : other ≠ tenantId) (table : MetaTable) :
    ((operation.run globalTenantId faults store).2 table).filter (ofTenant other) =
      (store table).filter (ofTenant other) := by
  by_cases hReads : operation.Reads
  · rw [hReads.unchanged h.wellFormed]
  · cases operation with
    | write call hOwn =>
      rw [run_write]
      rcases h.run_change hOwn faults with ⟨answer, change, -, -, hWithin, hAfter⟩ | ⟨-, hAfter⟩
      · rw [hAfter, change.frame h.sound hWithin hOther, store_rows h.wellFormed]
      · rw [hAfter]
    | _ => exact absurd trivial hReads

end TenantOperation

/-- An operation of a tenant returns the same on two reachable stores that show
the tenant the same rows, leaves them showing it the same rows, and in each of
them leaves the rows of every other tenant alone. -/
theorem tenant_isolation {globalTenantId tenantId : String} (hTenant : tenantId ≠ globalTenantId)
    {first second : Tables} (hFirst : Reachable globalTenantId first)
    (hSecond : Reachable globalTenantId second) (hSame : SameFor globalTenantId tenantId first second)
    (operation : TenantOperation tenantId) (faults : Nat → Option Failure)
    (hFresh : operation.Fresh first) (hFresh' : operation.Fresh second) :
    SameResult (operation.run globalTenantId faults first).1 (operation.run globalTenantId faults second).1 ∧
      SameFor globalTenantId tenantId (operation.run globalTenantId faults first).2
        (operation.run globalTenantId faults second).2 ∧
      ∀ other, other ≠ tenantId → ∀ table,
        ((operation.run globalTenantId faults first).2 table).filter (ofTenant other) =
          (first table).filter (ofTenant other) ∧
        ((operation.run globalTenantId faults second).2 table).filter (ofTenant other) =
          (second table).filter (ofTenant other) :=
  ⟨operation.same_answers hFirst hSecond hTenant hSame faults hFresh hFresh',
    operation.same_after hFirst hSecond hTenant hSame faults hFresh hFresh',
    fun _ hOther table => ⟨operation.others_unchanged hFirst faults hOther table,
      operation.others_unchanged hSecond faults hOther table⟩⟩

/-- The sample store with a type of another tenant added. -/
def foreignStore : Tables :=
  ((MetaCall.createDataConnectionType "tenant-2" sampleType "type-2" "2026-01-02T00:00:00Z").run "global"
    noFaults sampleStore).2

theorem sampleStore_same_foreignStore : SameFor "global" "tenant-1" sampleStore foreignStore := by
  intro table doc hVisible
  cases table with
  | dataConnections => exact Iff.rfl
  | dataConnectionTypes =>
    change _ ↔ doc ∈ sampleStore .dataConnectionTypes ++
      [toValue (newType "tenant-2" sampleType "type-2" "2026-01-02T00:00:00Z")]
    refine ⟨mem_append_left _, fun h => (mem_append.mp h).resolve_right fun hNew => ?_⟩
    rw [mem_singleton.mp hNew] at hVisible
    exact absurd hVisible (by decide)
  | flightServices => cases hVisible

/-- Deleting the type of the sample store is refused in both stores. -/
def sampleDeletion : TenantOperation "tenant-1" :=
  .write (.deleteDataConnectionType "tenant-1" "type-1") rfl

theorem tenant_isolation_sample : (sampleDeletion.run "global" noFaults foreignStore).1 =
      .error (.conflict (connectionTypeInUseMessage "type-1" 1)) ∧
    SameResult (sampleDeletion.run "global" noFaults sampleStore).1
      (sampleDeletion.run "global" noFaults foreignStore).1 :=
  ⟨rfl, (tenant_isolation (by decide) sampleStore_reachable (sampleStore_reachable.run _ _)
    sampleStore_same_foreignStore sampleDeletion noFaults (fun _ h => by cases h) (fun _ h => by cases h)).1⟩

end DataConnectHub
