import DataConnectHub.MetaStore.Invariants
import DataConnectHub.RowStore.Lockstep

/-! The calls of one tenant on two stores that show it the same rows. Both runs
receive the same answers. Deleting a type counts references of all tenants;
that this tells nothing about them rests on referential integrity, since
another tenant cannot refer to the type. -/
namespace DataConnectHub

open Serde RowStore Transaction List

/-- The rows a tenant works with: its connections, its types and the global
types. -/
def visible (globalTenantId tenantId : String) : MetaTable → Json → Bool
  | .dataConnections => ofTenant tenantId
  | .dataConnectionTypes => visibleTo globalTenantId tenantId
  | .flightServices => fun _ => false

/-- The two stores show the tenant the same rows. -/
def SameFor (globalTenantId tenantId : String) (first second : Tables) : Prop :=
  ∀ table doc, visible globalTenantId tenantId table doc = true → (doc ∈ first table ↔ doc ∈ second table)

section Lockstep

variable {globalTenantId tenantId : String} {first second : Tables} {table : MetaTable}
  {Answer : Type} {uid : String} {filter : Json → Bool} {missing failed : MetaStoreError} {rest : MetaStoreM Answer}
  {doc : Json} {onFailure : Failure → MetaStoreError} {resource : table.Row} {now : String}

theorem lockstep_fetchOne {lock : Option LockMode} {rest : Json → MetaStoreM Answer}
    (hFind : (first table).find? (metaSchema.selects uid filter) = (second table).find? (metaSchema.selects uid filter))
    (hRest : ∀ doc, (first table).find? (metaSchema.selects uid filter) = some doc → Lockstep (rest doc) first second) :
    Lockstep (fetchOne table uid filter lock missing failed >>= rest : MetaStoreM Answer) first second := by
  refine ⟨congrArg Except.ok hFind, fun _ => trivial, ?_⟩
  simp only [serve, Statement.answer, Statement.writes, applyAll_nil]
  cases hFound : (first table).find? (metaSchema.selects uid filter) with
  | none => exact trivial
  | some doc => exact hRest doc hFound

theorem lockstep_validateConnectionType {connectionTypeId : String} (hFind : (first .dataConnectionTypes).find?
        (metaSchema.selects connectionTypeId (visibleTo globalTenantId tenantId)) =
      (second .dataConnectionTypes).find? (metaSchema.selects connectionTypeId (visibleTo globalTenantId tenantId)))
    (hRest : Lockstep rest first second) :
    Lockstep (do validateConnectionType globalTenantId tenantId connectionTypeId; rest : MetaStoreM Answer)
      first second := by
  refine ⟨congrArg Except.ok hFind, fun _ => trivial, ?_⟩
  simp only [serve, Statement.answer, Statement.writes, applyAll_nil]
  cases (first .dataConnectionTypes).find?
      (metaSchema.selects connectionTypeId (visibleTo globalTenantId tenantId)) with
  | none => exact trivial
  | some doc => exact hRest

/-- A write that both stores allow or both refuse; only a commit follows. -/
theorem lockstep_insert (hViolates : (Statement.insert (S := metaSchema) table doc).violates first =
      (Statement.insert (S := metaSchema) table doc).violates second) (hRest : Commits rest) :
    Lockstep (do request (.query (.insert table doc)) onFailure; rest : MetaStoreM Answer) first second := by
  refine ⟨?_, fun _ => trivial, ?_⟩
  · simp only [serve, Statement.answer, hViolates]
  · simp only [serve, Statement.answer]
    cases (Statement.insert (S := metaSchema) table doc).violates first with
    | true => exact trivial
    | false => exact hRest.lockstep _ _

theorem lockstep_update (hViolates : (Statement.update (S := metaSchema) table uid filter doc).violates first =
      (Statement.update (S := metaSchema) table uid filter doc).violates second)
    (hCount : (first table).countP (metaSchema.selects uid filter) =
      (second table).countP (metaSchema.selects uid filter)) (hRest : Commits rest) :
    Lockstep (do let _ ← request (.query (.update table uid filter doc)) onFailure; rest :
      MetaStoreM Answer) first second := by
  refine ⟨?_, fun _ => trivial, ?_⟩
  · simp only [serve, Statement.answer, hViolates, hCount]
  · simp only [serve, Statement.answer]
    cases (Statement.update (S := metaSchema) table uid filter doc).violates first with
    | true => exact trivial
    | false => exact hRest.lockstep _ _

theorem lockstep_deleteRow (hCount : (first table).countP (metaSchema.selects uid filter) =
      (second table).countP (metaSchema.selects uid filter)) :
    Lockstep (deleteRow table uid filter missing failed) first second := by
  refine ⟨congrArg Except.ok hCount, fun _ => trivial, ?_⟩
  simp only [serve, Statement.answer]
  cases (first table).countP (metaSchema.selects uid filter) with
  | zero => exact trivial
  | succ n => exact (commits_last failed).lockstep _ _

/-- A row of a tenant clashes with another only by its id or within the tenant. -/
theorem clashes_toValue (hTable : table ≠ .flightServices)
    (hTenant : (table.metadata resource).tenantId = some tenantId)
    (hClash : table.clashes (toValue resource) doc = true) :
    metaSchema.key doc = some (table.metadata resource).id ∨ ofTenant tenantId doc = true := by
  simp only [MetaTable.clashes, Bool.or_eq_true, Bool.and_eq_true, sqlEqual_iff, MetaTable.path_id,
    MetaTable.nameIndex_toValue] at hClash
  rcases hClash with ⟨id, hId, hDoc⟩ | ⟨-, tenant, hOwner, hDoc⟩
  · left
    rw [hId]
    exact hDoc
  · right
    cases table with
    | dataConnections | dataConnectionTypes =>
      have hSame : some tenant = some tenantId := hOwner.symm.trans hTenant
      exact beq_iff_eq.mpr (hDoc.trans hSame)
    | flightServices => exact absurd rfl hTable

/-- Whether a row of the tenant clashes is the same in both stores, as long as
the candidates cannot clash by id. -/
theorem any_clashes_congr (hTable : table ≠ .flightServices)
    (hTenant : (table.metadata resource).tenantId = some tenantId) (candidate : Json → Bool)
    (hSame : ∀ doc, ofTenant tenantId doc = true → (doc ∈ first table ↔ doc ∈ second table))
    (hFirst : ∀ doc ∈ first table, candidate doc = true → metaSchema.key doc ≠ some (table.metadata resource).id)
    (hSecond : ∀ doc ∈ second table, candidate doc = true → metaSchema.key doc ≠ some (table.metadata resource).id) :
    ((first table).any fun doc => candidate doc && table.clashes (toValue resource) doc) =
      (second table).any fun doc => candidate doc && table.clashes (toValue resource) doc := by
  rw [Bool.eq_iff_iff, any_eq_true, any_eq_true]
  constructor
  · rintro ⟨doc, hDoc, hBoth⟩
    obtain ⟨hCandidate, hClash⟩ := Bool.and_eq_true_iff.mp hBoth
    rcases clashes_toValue hTable hTenant hClash with hId | hOwner
    · exact absurd hId (hFirst doc hDoc hCandidate)
    · exact ⟨doc, (hSame doc hOwner).mp hDoc, hBoth⟩
  · rintro ⟨doc, hDoc, hBoth⟩
    obtain ⟨hCandidate, hClash⟩ := Bool.and_eq_true_iff.mp hBoth
    rcases clashes_toValue hTable hTenant hClash with hId | hOwner
    · exact absurd hId (hSecond doc hDoc hCandidate)
    · exact ⟨doc, (hSame doc hOwner).mpr hDoc, hBoth⟩

theorem violates_insert_congr (table : MetaTable) (hTable : table ≠ .flightServices) {resource : table.Row}
    (hTenant : (table.metadata resource).tenantId = some tenantId)
    (hSame : ∀ doc, ofTenant tenantId doc = true → (doc ∈ first table ↔ doc ∈ second table))
    (hFirst : ∀ doc ∈ first table, metaSchema.key doc ≠ some (table.metadata resource).id)
    (hSecond : ∀ doc ∈ second table, metaSchema.key doc ≠ some (table.metadata resource).id) :
    (Statement.insert (S := metaSchema) table (toValue resource)).violates first =
      (Statement.insert (S := metaSchema) table (toValue resource)).violates second := by
  have hAny := any_clashes_congr hTable hTenant (fun _ => true) hSame
    (fun doc hDoc _ => hFirst doc hDoc) (fun doc hDoc _ => hSecond doc hDoc)
  simp only [Bool.true_and] at hAny
  exact hAny

section

variable (hTable : table ≠ .flightServices) (hFirst : WellFormed first) (hSecond : WellFormed second)
  (hSame : ∀ doc, ofTenant tenantId doc = true → (doc ∈ first table ↔ doc ∈ second table))

include hTable hFirst hSecond hSame

theorem violates_update_congr {existing : table.Row} (hExisting : toValue existing ∈ first table)
    (hOwner : ofTenant tenantId (toValue existing) = true)
    (hKept : table.metadata resource = { table.metadata existing with updatedAt := now }) :
    (Statement.update (S := metaSchema) table (table.metadata existing).id (ofTenant tenantId)
        (toValue resource)).violates first =
      (Statement.update (S := metaSchema) table (table.metadata existing).id (ofTenant tenantId)
        (toValue resource)).violates second := by
  have hTenant : (table.metadata resource).tenantId = some tenantId := by
    rw [hKept]
    exact (ofTenant_toValue tenantId existing).mp hOwner
  have hApart : ∀ store : Tables, WellFormed store → toValue existing ∈ store table → ∀ doc ∈ store table,
        (!metaSchema.selects (table.metadata existing).id (ofTenant tenantId) doc) = true →
        metaSchema.key doc ≠ some (table.metadata resource).id := by
    intro store hStore hStored doc hDoc hNot hKey
    rw [hKept] at hKey
    have hEq := hStore.eq_of_key hDoc hStored hKey (key_toValue table existing)
    rw [hEq, (metaSchema.selects_iff _ _ _).mpr ⟨key_toValue table existing, hOwner⟩] at hNot
    cases hNot
  have hExisting' := (hSame _ hOwner).mp hExisting
  have hSelected : ∀ store : Tables, toValue existing ∈ store table →
      (store table).any (metaSchema.selects (table.metadata existing).id (ofTenant tenantId)) = true :=
    fun store hStored => any_eq_true.mpr ⟨_, hStored,
      (metaSchema.selects_iff _ _ _).mpr ⟨key_toValue table existing, hOwner⟩⟩
  simp only [Statement.violates, hSelected first hExisting, hSelected second hExisting', Bool.true_and]
  exact any_clashes_congr hTable hTenant _ hSame (hApart first hFirst hExisting) (hApart second hSecond hExisting')

/-- Updates of the tenant's own rows are in step. -/
theorem updateRow_lockstep {malformed : MetaStoreError} {change : UpdateFn table.Row}
    {check : table.Row → MetaStoreM Unit} (hKeeps : KeepsIdentity table change)
    (hCheck : ∀ resource (rest : MetaStoreM table.Row), Lockstep rest first second →
      Lockstep (do check resource; rest : MetaStoreM table.Row) first second) :
    Lockstep (updateRow table uid (ofTenant tenantId) missing malformed failed change check) first second := by
  have hFind : (first table).find? (metaSchema.selects uid (ofTenant tenantId)) =
      (second table).find? (metaSchema.selects uid (ofTenant tenantId)) := hSecond.find_congr hSame
  refine ⟨rfl, fun _ => trivial, lockstep_fetchOne hFind fun doc hFound => ?_⟩
  have hStored := mem_of_find?_eq_some hFound
  obtain ⟨hKey, hOwner⟩ := (metaSchema.selects_iff _ _ _).mp (find?_some hFound)
  obtain ⟨existing, rfl, -⟩ := hFirst.valid table doc hStored
  have hDecode : decode (toValue existing) malformed = .ok existing := by simp [decode]
  rw [hDecode]
  change Lockstep (settle table uid (ofTenant tenantId) failed check (change existing)) first second
  cases hChange : change existing with
  | error error => exact trivial
  | ok resource =>
    obtain ⟨now, hKept⟩ := hKeeps existing resource hChange
    have hId : (table.metadata existing).id = uid := by simpa using hKey
    refine hCheck resource _ (lockstep_update ?_ ?_ (commits_request _ _))
    · rw [← hId]
      exact violates_update_congr hTable hFirst hSecond hSame hStored hOwner hKept
    · rw [hFirst.countP_selects, hSecond.countP_selects, hFind]

end

theorem WellFormed.nodup {store : Tables} (h : WellFormed store) (table : MetaTable) :
    (store table).Nodup := by
  refine List.Pairwise.imp_of_mem ?_ (h.unique table)
  rintro doc other hDoc - hApart rfl
  obtain ⟨row, rfl, -⟩ := h.valid table doc hDoc
  have hClash := metaSchema.clashes_of_key table _ _ _ (key_toValue table row) (key_toValue table row)
  rw [hApart] at hClash
  cases hClash

/-- Only the owner of a type refers to it, unless it is a global one. -/
theorem Reachable.owner_of_reference {store : Tables} (h : Reachable globalTenantId store)
    (hTenant : tenantId ≠ globalTenantId) {type : DataConnectionTypeResource}
    (hType : toValue type ∈ store .dataConnectionTypes) (hOwner : type.metadata.tenantId = some tenantId)
    (hDoc : doc ∈ store .dataConnections) (hRefers : refersTo type.metadata.id doc = true) :
    ofTenant tenantId doc = true := by
  obtain ⟨connection, rfl, -⟩ := h.wellFormed.valid .dataConnections doc hDoc
  have hMem : type ∈ rows store .dataConnectionTypes := (mem_store_iff h.wellFormed _).mp hType
  have hConnection : connection ∈ rows store .dataConnections := (mem_store_iff h.wellFormed _).mp hDoc
  obtain ⟨owner, hOwned, other, hOther, hId, hVisible⟩ := h.integral connection hConnection
  have hTypeId : connection.resource.dataConnectionTypeId = type.metadata.id :=
    Option.some.inj (beq_iff_eq.mp hRefers)
  obtain rfl : other = type := h.sound.eq_of_id hOther hMem (hId.trans hTypeId)
  refine (@ofTenant_toValue .dataConnections tenantId connection).mpr ?_
  rcases hVisible with hSame | hGlobal
  · rw [hOwner] at hSame
    exact hOwned.trans hSame.symm
  · rw [hOwner] at hGlobal
    exact absurd (Option.some.inj hGlobal) hTenant

theorem countP_eq_of_mem_iff {first second : List Json} (hFirst : first.Nodup) (hSecond : second.Nodup)
    (hSame : ∀ doc, filter doc = true → (doc ∈ first ↔ doc ∈ second)) :
    first.countP filter = second.countP filter := by
  rw [countP_eq_length_filter, countP_eq_length_filter]
  refine ((perm_ext_iff_of_nodup (hFirst.filter _) (hSecond.filter _)).mpr fun doc => ?_).length_eq
  simp only [mem_filter]
  exact ⟨fun h => ⟨(hSame doc h.2).mp h.1, h.2⟩, fun h => ⟨(hSame doc h.2).mpr h.1, h.2⟩⟩

theorem SameFor.own (h : SameFor globalTenantId tenantId first second) (hTable : table ≠ .flightServices)
    (doc : Json) (hOwner : ofTenant tenantId doc = true) : doc ∈ first table ↔ doc ∈ second table := by
  refine h table doc ?_
  cases table with
  | dataConnections => exact hOwner
  | dataConnectionTypes => simp [visible, visibleTo, hOwner]
  | flightServices => exact absurd rfl hTable

/-- The references to the tenant's own type are the same in both stores. -/
theorem count_references_congr (hFirst : Reachable globalTenantId first) (hSecond : Reachable globalTenantId second)
    (hTenant : tenantId ≠ globalTenantId) (hSame : SameFor globalTenantId tenantId first second)
    (hFound : (first .dataConnectionTypes).find? (metaSchema.selects uid (ofTenant tenantId)) = some doc) :
    (first .dataConnections).countP (refersTo uid) = (second .dataConnections).countP (refersTo uid) := by
  have hStored := mem_of_find?_eq_some hFound
  obtain ⟨hKey, hOwner⟩ := (metaSchema.selects_iff _ _ _).mp (find?_some hFound)
  obtain ⟨type, rfl, -⟩ := hFirst.wellFormed.valid .dataConnectionTypes doc hStored
  have hId : type.metadata.id = uid := Option.some.inj ((key_toValue .dataConnectionTypes type).symm.trans hKey)
  have hTypeOwner : type.metadata.tenantId = some tenantId :=
    (@ofTenant_toValue .dataConnectionTypes tenantId type).mp hOwner
  subst hId
  refine countP_eq_of_mem_iff (WellFormed.nodup hFirst.wellFormed _) (WellFormed.nodup hSecond.wellFormed _) ?_
  intro connection hRefers
  constructor
  · intro hConnection
    exact (hSame .dataConnections _
      (hFirst.owner_of_reference hTenant hStored hTypeOwner hConnection hRefers)).mp hConnection
  · intro hConnection
    exact (hSame .dataConnections _ (hSecond.owner_of_reference hTenant
      ((hSame.own (by decide) _ hOwner).mp hStored) hTypeOwner hConnection hRefers)).mpr hConnection

theorem createDataConnection_lockstep (hSecond : WellFormed second)
    (hSame : SameFor globalTenantId tenantId first second) {dataConnection : DataConnection} {id : String}
    (hFresh : ∀ doc ∈ first .dataConnections, metaSchema.key doc ≠ some id)
    (hFresh' : ∀ doc ∈ second .dataConnections, metaSchema.key doc ≠ some id) :
    Lockstep (createDataConnection globalTenantId tenantId dataConnection id now) first second := by
  refine ⟨rfl, fun _ => trivial, lockstep_validateConnectionType ?_ ?_⟩
  · exact hSecond.find_congr (hSame .dataConnectionTypes)
  · exact lockstep_insert (violates_insert_congr .dataConnections (by decide) rfl
      (hSame .dataConnections) hFresh hFresh') (commits_request _ _)

theorem insertRow_lockstep (hTable : table ≠ .flightServices) (hSame : SameFor globalTenantId tenantId first second)
    {conflict : String} (hTenant : (table.metadata resource).tenantId = some tenantId)
    (hFresh : ∀ doc ∈ first table, metaSchema.key doc ≠ some (table.metadata resource).id)
    (hFresh' : ∀ doc ∈ second table, metaSchema.key doc ≠ some (table.metadata resource).id) :
    Lockstep (insertRow table resource conflict) first second :=
  lockstep_insert (violates_insert_congr table hTable hTenant (hSame.own hTable) hFresh hFresh') (commits_request _ _)

theorem deleteRow_lockstep (hTable : table ≠ .flightServices) (hFirst : WellFormed first)
    (hSecond : WellFormed second) (hSame : SameFor globalTenantId tenantId first second) :
    Lockstep (deleteRow table uid (ofTenant tenantId) missing failed) first second :=
  lockstep_deleteRow (by
    rw [hFirst.countP_selects, hSecond.countP_selects, hSecond.find_congr (hSame.own hTable)])

theorem deleteDataConnectionType_lockstep (hFirst : Reachable globalTenantId first)
    (hSecond : Reachable globalTenantId second) (hTenant : tenantId ≠ globalTenantId)
    (hSame : SameFor globalTenantId tenantId first second) (uid : String) :
    Lockstep (deleteDataConnectionType tenantId uid) first second := by
  refine ⟨rfl, fun _ => trivial, lockstep_fetchOne ?_ fun doc hFound => ?_⟩
  · exact hSecond.wellFormed.find_congr (hSame.own (by decide))
  · have hCount := count_references_congr hFirst hSecond hTenant hSame hFound
    refine ⟨congrArg Except.ok hCount, fun _ => trivial, ?_⟩
    change Lockstep (if 0 < (first .dataConnections).countP (refersTo uid) then throw _
      else deleteRow .dataConnectionTypes uid _ _ _ : MetaStoreM Unit) first second
    split
    · exact trivial
    · exact deleteRow_lockstep (by decide) hFirst.wellFormed hSecond.wellFormed hSame

/-- The tenant a call works for, if it works for one. -/
def MetaCall.tenant? : MetaCall → Option String
  | .createDataConnection tenantId _ _ _ => some tenantId
  | .updateDataConnection tenantId _ _ _ => some tenantId
  | .updateDataConnectionStatus tenantId _ _ _ => some tenantId
  | .deleteDataConnection tenantId _ => some tenantId
  | .createDataConnectionType tenantId _ _ _ => some tenantId
  | .updateDataConnectionType tenantId _ _ _ => some tenantId
  | .deleteDataConnectionType tenantId _ => some tenantId
  | _ => none

/-- The identifier the call generates is not in use. -/
def MetaCall.Fresh (call : MetaCall) (store : Tables) : Prop :=
  ∀ id, call.generatedId? = some id → ∀ table, ∀ doc ∈ store table, metaSchema.key doc ≠ some id

/-- A writing call of the tenant receives the same answers on both stores. -/
theorem MetaCall.lockstep (hFirst : Reachable globalTenantId first)
    (hSecond : Reachable globalTenantId second) (hTenant : tenantId ≠ globalTenantId)
    (hSame : SameFor globalTenantId tenantId first second) {call : MetaCall}
    (hCall : call.tenant? = some tenantId) (hFresh : call.Fresh first) (hFresh' : call.Fresh second) :
    Lockstep (call.program globalTenantId) first second := by
  cases call with
  | createDataConnection tenant dataConnection id now =>
    obtain rfl := Option.some.inj hCall
    exact (createDataConnection_lockstep hSecond.wellFormed hSame (hFresh id rfl _) (hFresh' id rfl _)).map _
  | updateDataConnection tenant uid updateFn now =>
    obtain rfl := Option.some.inj hCall
    refine (updateRow_lockstep (by decide) hFirst.wellFormed hSecond.wellFormed
      (hSame.own (by decide)) (editConnection_keeps _ _) fun resource rest hRest => ?_).map _
    exact lockstep_validateConnectionType (hSecond.wellFormed.find_congr (hSame .dataConnectionTypes)) hRest
  | updateDataConnectionStatus tenant uid updateFn now =>
    obtain rfl := Option.some.inj hCall
    refine (updateRow_lockstep (by decide) hFirst.wellFormed hSecond.wellFormed
      (hSame.own (by decide)) (editConnectionStatus_keeps _ _) fun resource rest hRest => ?_).map _
    exact hRest
  | deleteDataConnection tenant uid =>
    obtain rfl := Option.some.inj hCall
    exact (deleteRow_lockstep (by decide) hFirst.wellFormed hSecond.wellFormed hSame).map _
  | createDataConnectionType tenant dataConnectionType id now =>
    obtain rfl := Option.some.inj hCall
    exact (insertRow_lockstep (by decide) hSame rfl (hFresh id rfl _) (hFresh' id rfl _)).map _
  | updateDataConnectionType tenant uid updateFn now =>
    obtain rfl := Option.some.inj hCall
    refine (updateRow_lockstep (by decide) hFirst.wellFormed hSecond.wellFormed
      (hSame.own (by decide)) (editType_keeps _ _) fun resource rest hRest => ?_).map _
    exact hRest
  | deleteDataConnectionType tenant uid =>
    obtain rfl := Option.some.inj hCall
    exact (deleteDataConnectionType_lockstep hFirst hSecond hTenant hSame uid).map _
  | _ => cases hCall

end Lockstep

end DataConnectHub
