import DataConnectHub.MetaStore.Isolation

/-! The two ways to read a connection type. The listing takes the tenant off
the types of the global tenant; the read of a single type returns its document
as stored. Both filter on the text of the document, so nothing is assumed of a
row but that it can be deserialized. -/
namespace DataConnectHub

open Serde RowStore Transaction List Option

section Documents

variable {doc : Json} {resource : DataConnectionTypeResource} {key text : String}

/-- The database finds texts under `metadata` only in an object of an object. -/
theorem metadata_of_path (h : doc.path? "metadata" key = some text) :
    ∃ members metadata, doc = .object members ∧ members.lookup "metadata" = some (.object metadata) := by
  rw [Json.path?, bind_eq_some_iff] at h
  obtain ⟨value, hValue, -⟩ := h
  rw [bind_eq_some_iff] at hValue
  obtain ⟨found, hFound, hValue⟩ := hValue
  cases doc with
  | object members =>
    cases found with
    | object metadata => exact ⟨members, metadata, rfl, hFound⟩
    | _ => cases hValue
  | _ => cases hFound

theorem fromValue_metadata {members : Members} {found : Json} (hFound : members.lookup "metadata" = some found)
    (h : fromValue (.object members) = some resource) : fromValue found = some resource.metadata := by
  simp only [fromValue, slots_object, bind_eq_bind, bind_some] at h
  obtain ⟨metadata, hMetadata, h⟩ := bind_eq_some_iff.mp h
  obtain ⟨_, -, h⟩ := bind_eq_some_iff.mp h
  obtain ⟨_, -, h⟩ := bind_eq_some_iff.mp h
  cases h
  rw [hFound] at hMetadata
  exact hMetadata

theorem texts_of_metadata {members : Members} {metadata : ResourceMetadata}
    (h : fromValue (.object members) = some metadata) :
    (members.lookup "id").bind Json.text? = some metadata.id ∧
      (members.lookup "tenant_id").bind Json.text? = metadata.tenantId := by
  simp only [fromValue, slots_object, bind_eq_bind, bind_some] at h
  obtain ⟨id, hId, h⟩ := bind_eq_some_iff.mp h
  obtain ⟨tenantId, hTenant, h⟩ := bind_eq_some_iff.mp h
  obtain ⟨_, -, h⟩ := bind_eq_some_iff.mp h
  obtain ⟨_, -, h⟩ := bind_eq_some_iff.mp h
  cases h
  exact ⟨Slot.text?_of_required hId, Slot.text?_of_optional hTenant⟩

/-- What is read from a document that the database can select by its metadata
is what the database sees in it. -/
theorem path_of_fromValue (hPath : doc.path? "metadata" key = some text) (hRead : fromValue doc = some resource) :
    doc.path? "metadata" "id" = some resource.metadata.id ∧
      doc.path? "metadata" "tenant_id" = resource.metadata.tenantId := by
  obtain ⟨members, metadata, rfl, hMetadata⟩ := metadata_of_path hPath
  have hTexts := texts_of_metadata (fromValue_metadata hMetadata hRead)
  simpa [Json.path?, Json.field?, Json.members, hMetadata] using hTexts

end Documents

section Reads

variable {globalTenantId tenantId id : String} {store : Tables} {resource : DataConnectionTypeResource}

/-- A row that the store selects for the tenant under this id, and the resource
it stands for. -/
def SelectedType (globalTenantId tenantId id : String) (store : Tables)
    (resource : DataConnectionTypeResource) : Prop :=
  ∃ doc ∈ store .dataConnectionTypes, metaSchema.selects id (visibleTo globalTenantId tenantId) doc = true ∧
      fromValue doc = some resource

/-- Every row can be deserialized, and no two have the same id. -/
structure DistinctTypes (store : Tables) : Prop where
  reads : ∀ doc ∈ store .dataConnectionTypes, ∃ resource : DataConnectionTypeResource, fromValue doc = some resource
  ids : ((rows store .dataConnectionTypes).map fun resource => resource.metadata.id).Nodup

/-- The tables that the store itself has written are of this kind. -/
theorem distinctTypes_of_wellFormed (h : WellFormed store) : DistinctTypes store := by
  refine ⟨fun doc hDoc => ?_, ?_⟩
  · obtain ⟨row, rfl, -⟩ := h.valid .dataConnectionTypes doc hDoc
    exact ⟨row, Codec.fromValue_toValue row⟩
  · exact (Registry.sound_of_wellFormed (by rwa [store_rows h])).ids .dataConnectionTypes

theorem DistinctTypes.eq_of_id (h : DistinctTypes store) {first second : DataConnectionTypeResource}
    {firstDoc secondDoc : Json} (hFirst : firstDoc ∈ store .dataConnectionTypes)
    (hSecond : secondDoc ∈ store .dataConnectionTypes) (hFirstRead : fromValue firstDoc = some first)
    (hSecondRead : fromValue secondDoc = some second) (hId : first.metadata.id = second.metadata.id) :
    first = second :=
  inj_on_of_nodup_map h.ids (mem_filterMap.mpr ⟨_, hFirst, hFirstRead⟩)
    (mem_filterMap.mpr ⟨_, hSecond, hSecondRead⟩) hId

theorem tenant_of_visibleTo {doc : Json} (h : visibleTo globalTenantId tenantId doc = true) :
    ∃ tenant, doc.path? "metadata" "tenant_id" = some tenant := by
  rw [visibleTo, Bool.or_eq_true, ofTenant, ofTenant, beq_iff_eq, beq_iff_eq] at h
  exact h.elim (⟨_, ·⟩) (⟨_, ·⟩)

theorem SelectedType.id_eq (h : SelectedType globalTenantId tenantId id store resource) :
    resource.metadata.id = id := by
  obtain ⟨doc, -, hSelects, hRead⟩ := h
  have hKey : doc.path? "metadata" "id" = some id := ((metaSchema.selects_iff id _ doc).mp hSelects).1
  exact some.inj ((path_of_fromValue hKey hRead).1.symm.trans hKey)

@[simp] theorem hideGlobalTenant_id : (hideGlobalTenant globalTenantId resource).metadata.id =
    resource.metadata.id := by
  unfold hideGlobalTenant
  split <;> rfl

theorem hideGlobalTenant_resource (globalTenantId : String) (type : DataConnectionTypeResource) :
    (hideGlobalTenant globalTenantId type).resource = type.resource := by
  unfold hideGlobalTenant
  split <;> rfl

theorem hideGlobalTenant_tenant_ne :
    (hideGlobalTenant globalTenantId resource).metadata.tenantId ≠ some globalTenantId := by
  unfold hideGlobalTenant
  split
  · nofun
  next hOther => exact hOther

theorem hideGlobalTenant_of_ne (h : resource.metadata.tenantId ≠ some globalTenantId) :
    hideGlobalTenant globalTenantId resource = resource := if_neg h

theorem getDataConnectionType_run (globalTenantId tenantId id : String) (store : Tables) :
    isolated noFaults (getDataConnectionType globalTenantId tenantId id) store store =
      match (store .dataConnectionTypes).find? (metaSchema.selects id (visibleTo globalTenantId tenantId)) with
      | some doc => (decode doc malformedType, store)
      | none => (.error (typeNotFound id), store) := by
  rw [getDataConnectionType, isolated_fetchOne]
  cases (store .dataConnectionTypes).find? (metaSchema.selects id (visibleTo globalTenantId tenantId)) <;> rfl

theorem getDataConnectionType_iff (hStore : DistinctTypes store) :
    (isolated noFaults (getDataConnectionType globalTenantId tenantId id) store store).1 =
        .ok resource ↔ SelectedType globalTenantId tenantId id store resource := by
  rw [getDataConnectionType_run]
  constructor
  · intro h
    split at h
    next doc hFind =>
        refine ⟨doc, mem_of_find?_eq_some hFind, find?_some hFind, ?_⟩
        cases hRead : fromValue (α := DataConnectionTypeResource) doc with
        | none => simp [decode, hRead] at h
        | some found => simpa [decode, hRead] using h
    · cases h
  · rintro hSelected
    obtain ⟨doc, hDoc, hSelects, hRead⟩ := hSelected
    split
    next first hFind =>
        -- the row that is found first has the same id, so it is the same type
        have hFirst := mem_of_find?_eq_some hFind
        obtain ⟨found, hFound⟩ := hStore.reads first hFirst
        have hFoundId := SelectedType.id_eq ⟨first, hFirst, find?_some hFind, hFound⟩
        have hSame := hStore.eq_of_id hFirst hDoc hFound hRead
          (hFoundId.trans (SelectedType.id_eq ⟨doc, hDoc, hSelects, hRead⟩).symm)
        simp [decode, hFound, hSame]
    next hNone => exact absurd hSelects (find?_eq_none.mp hNone doc hDoc)

theorem getDataConnectionTypes_items (globalTenantId tenantId : String) (store : Tables) :
    ∃ list, (isolated noFaults (getDataConnectionTypes globalTenantId tenantId) store store).1 = .ok list ∧
      list.items = ((store .dataConnectionTypes).filter (visibleTo globalTenantId tenantId)).filterMap
        fun doc => deserializeConnectionType doc globalTenantId := by
  rw [getDataConnectionTypes, isolated_fetchAll]
  exact ⟨_, rfl, rfl⟩

theorem listed_type_iff {items : List DataConnectionTypeResource} (hItems : items = ((store .dataConnectionTypes).filter
      (visibleTo globalTenantId tenantId)).filterMap fun doc => deserializeConnectionType doc globalTenantId) :
    (resource ∈ items ∧ resource.metadata.id = id) ↔ ∃ found, SelectedType globalTenantId tenantId id store found ∧
        resource = hideGlobalTenant globalTenantId found := by
  subst hItems
  simp only [mem_filterMap, mem_filter, deserializeConnectionType, map_eq_some_iff]
  constructor
  · rintro ⟨⟨doc, ⟨hDoc, hVisible⟩, found, hRead, rfl⟩, hId⟩
    obtain ⟨tenant, hTenant⟩ := tenant_of_visibleTo hVisible
    have hKey := (path_of_fromValue hTenant hRead).1
    rw [hideGlobalTenant_id] at hId
    rw [hId] at hKey
    exact ⟨found, ⟨doc, hDoc, (metaSchema.selects_iff id _ doc).mpr ⟨hKey, hVisible⟩, hRead⟩, rfl⟩
  · rintro ⟨found, hSelected, rfl⟩
    have hId := hSelected.id_eq
    obtain ⟨doc, hDoc, hSelects, hRead⟩ := hSelected
    exact ⟨⟨doc, ⟨hDoc, ((metaSchema.selects_iff id _ doc).mp hSelects).2⟩, found, hRead, rfl⟩,
      hideGlobalTenant_id.trans hId⟩

end Reads

/-- The read of one type agrees with the listing just if the type under that id
is not one of the global tenant: the listing takes the tenant off such a type,
and the single read leaves it on. -/
theorem type_reads_agree_iff (globalTenantId tenantId id : String) (store : Tables) (hStore : DistinctTypes store) :
    (∀ resource, (isolated noFaults (getDataConnectionType globalTenantId tenantId id) store store).1 = .ok resource ↔
        ∃ list, (isolated noFaults (getDataConnectionTypes globalTenantId tenantId) store store).1 =
            .ok list ∧ resource ∈ list.items ∧ resource.metadata.id = id) ↔
      ∀ doc ∈ store .dataConnectionTypes, doc.path? "metadata" "id" = some id →
        doc.path? "metadata" "tenant_id" ≠ some globalTenantId := by
  obtain ⟨list, hList, hItems⟩ := getDataConnectionTypes_items globalTenantId tenantId store
  have hListed : ∀ resource,
      (∃ list, (isolated noFaults (getDataConnectionTypes globalTenantId tenantId) store store).1 =
          .ok list ∧ resource ∈ list.items ∧ resource.metadata.id = id) ↔
        ∃ found, SelectedType globalTenantId tenantId id store found ∧
          resource = hideGlobalTenant globalTenantId found := by
    intro resource
    rw [← listed_type_iff hItems, hList]
    simp only [Except.ok.injEq, exists_eq_left']
  simp only [getDataConnectionType_iff hStore, hListed]
  constructor
  · intro hAgree doc hDoc hKey hGlobal
    obtain ⟨found, hRead⟩ := hStore.reads doc hDoc
    have hVisible : visibleTo globalTenantId tenantId doc = true := by
      rw [visibleTo, ofTenant, ofTenant, hGlobal]
      simp
    have hSelected : SelectedType globalTenantId tenantId id store found :=
      ⟨doc, hDoc, (metaSchema.selects_iff id _ doc).mpr ⟨hKey, hVisible⟩, hRead⟩
    obtain ⟨other, -, hSame⟩ := (hAgree found).mp hSelected
    have hTenant : found.metadata.tenantId = some globalTenantId :=
      (path_of_fromValue hKey hRead).2.symm.trans hGlobal
    rw [hSame] at hTenant
    exact hideGlobalTenant_tenant_ne hTenant
  · intro hOwn resource
    have hShown : ∀ found, SelectedType globalTenantId tenantId id store found →
        hideGlobalTenant globalTenantId found = found := by
      rintro found ⟨doc, hDoc, hSelects, hRead⟩
      have hKey : doc.path? "metadata" "id" = some id := ((metaSchema.selects_iff id _ doc).mp hSelects).1
      refine hideGlobalTenant_of_ne ?_
      rw [← (path_of_fromValue hKey hRead).2]
      exact hOwn doc hDoc hKey
    constructor
    · intro hSelected
      exact ⟨resource, hSelected, (hShown resource hSelected).symm⟩
    · rintro ⟨found, hSelected, rfl⟩
      rwa [hShown found hSelected]

/-- A type of the global tenant, read by a tenant on its own and in the list. -/
theorem global_type_reads_differ :
    let store := (MetaCall.run "global" (.createDataConnectionType "global" sampleType "type-1"
      "2026-01-01T00:00:00Z") noFaults emptyStore).2
    let single := (isolated noFaults (getDataConnectionType "global" "tenant-1" "type-1") store store).1
    let listing := (isolated noFaults (getDataConnectionTypes "global" "tenant-1") store store).1
    single.map (·.metadata.tenantId) = .ok (some "global") ∧
      listing.map (·.items.map (·.metadata.tenantId)) = .ok [none] := by
  decide +kernel

theorem type_reads_agree_sample : DistinctTypes sampleStore ∧ ∀ resource,
      (isolated noFaults (getDataConnectionType "global" "tenant-1" "type-1") sampleStore
          sampleStore).1 = .ok resource ↔
        ∃ list, (isolated noFaults (getDataConnectionTypes "global" "tenant-1") sampleStore
            sampleStore).1 = .ok list ∧ resource ∈ list.items ∧ resource.metadata.id = "type-1" := by
  have hStore := distinctTypes_of_wellFormed sampleStore_reachable.wellFormed
  exact ⟨hStore, (type_reads_agree_iff "global" "tenant-1" "type-1" sampleStore hStore).mpr (by decide +kernel)⟩

end DataConnectHub
