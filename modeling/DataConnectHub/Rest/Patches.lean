import DataConnectHub.Rest.Endpoints
import DataConnectHub.Serde.Patch

/-! Patches of resources. A resource is written as a document, the patch is
merged into it, and the result is read back; a connection type is also
validated. The resources are records, so their patches have the laws of merge
patches. -/
namespace DataConnectHub.Rest

open Serde List Option

section Records

theorem flat_dataFormat : Flat DataFormat := by
  intro format
  cases format <;> rfl

def credentialsRefFields : List (RecordField CredentialsRef) :=
  [⟨"secret", _, CredentialsRef.secret, _, _, lawful_required flat_string.stable⟩]

theorem isRecord_credentialsRef : IsRecord CredentialsRef credentialsRefFields where
  names := by decide
  writes _ := rfl
  reads members record := by
    simp only [fromValue, slots_object, bind_eq_bind, bind_some, bind_eq_some_iff,
      Option.pure_def, Option.some.injEq, credentialsRefFields, forall_mem_singleton]
    constructor
    · rintro ⟨secret, hSecret, rfl⟩
      exact hSecret
    · intro hSecret
      exact ⟨_, hSecret, rfl⟩

def dataConnectionFields : List (RecordField DataConnection) :=
  [⟨"name", _, DataConnection.name, _, _, lawful_required flat_string.stable⟩,
    ⟨"data_connection_type_id", _, DataConnection.dataConnectionTypeId, _, _, lawful_required flat_string.stable⟩,
    ⟨"format", _, DataConnection.format, _, _, lawful_required flat_dataFormat.stable⟩,
    ⟨"credentials_ref", _, DataConnection.credentialsRef, _, _, lawful_required isRecord_credentialsRef.stable⟩,
    ⟨"properties", _, DataConnection.properties, _, _, lawful_required (stable_map flat_string)⟩]

theorem isRecord_dataConnection : IsRecord DataConnection dataConnectionFields where
  names := by decide
  writes _ := rfl
  reads members record := by
    simp only [fromValue, slots_object, bind_eq_bind, bind_some, bind_eq_some_iff,
      Option.pure_def, Option.some.injEq, dataConnectionFields, forall_mem_cons]
    constructor
    · rintro ⟨name, hName, typeId, hType, format, hFormat, credentials, hCredentials, properties, hProperties, rfl⟩
      exact ⟨hName, hType, hFormat, hCredentials, hProperties, forall_mem_nil _⟩
    · rintro ⟨hName, hType, hFormat, hCredentials, hProperties, -⟩
      exact ⟨_, hName, _, hType, _, hFormat, _, hCredentials, _, hProperties, rfl⟩

def dataConnectionTypeFields : List (RecordField DataConnectionType) :=
  [⟨"name", _, DataConnectionType.name, _, _, lawful_required flat_string.stable⟩,
    ⟨"label", _, DataConnectionType.label, _, _, lawful_optionalDefaulted flat_string string_ne_null⟩,
    ⟨"provider", _, DataConnectionType.provider, _, _, lawful_required flat_string.stable⟩,
    ⟨"description", _, DataConnectionType.description, _, _, lawful_optional flat_string string_ne_null⟩,
    ⟨"credentials_fields", _, DataConnectionType.credentialsFields, _, _, lawful_required flat_list.stable⟩,
    ⟨"tags", _, DataConnectionType.tags, _, _, lawful_optionalDefaulted flat_list list_ne_null⟩]

theorem isRecord_dataConnectionType : IsRecord DataConnectionType dataConnectionTypeFields where
  names := by decide
  writes type := by
    simp [dataConnectionTypeFields, RecordField.members, toValue, optionalMember, Function.comp_def]
  reads members record := by
    simp only [fromValue, slots_object, bind_eq_bind, bind_some, bind_eq_some_iff,
      Option.pure_def, Option.some.injEq, dataConnectionTypeFields, forall_mem_cons]
    constructor
    · rintro ⟨name, hName, label, hLabel, provider, hProvider, text, hText, fields, hFields, tags, hTags, rfl⟩
      exact ⟨hName, hLabel, hProvider, hText, hFields, hTags, forall_mem_nil _⟩
    · rintro ⟨hName, hLabel, hProvider, hText, hFields, hTags, -⟩
      exact ⟨_, hName, _, hLabel, _, hProvider, _, hText, _, hFields, _, hTags, rfl⟩

def flightServiceStatusFields : List (RecordField FlightServiceStatus) :=
  [⟨"ready", _, FlightServiceStatus.ready, _, _, lawful_required flat_bool.stable⟩]

theorem isRecord_flightServiceStatus : IsRecord FlightServiceStatus flightServiceStatusFields where
  names := by decide
  writes _ := rfl
  reads members record := by
    simp only [fromValue, slots_object, bind_eq_bind, bind_some, bind_eq_some_iff,
      Option.pure_def, Option.some.injEq, flightServiceStatusFields, forall_mem_singleton]
    constructor
    · rintro ⟨ready, hReady, rfl⟩
      exact hReady
    · intro hReady
      exact ⟨_, hReady, rfl⟩

theorem lawful_supportedConnectors : Lawful
    (fun connectors : List String => if connectors.isEmpty then none else some (toValue connectors))
    (Slot.defaulted []) :=
  lawful_defaulted flat_list.stable fun connectors hEmpty => by
    rw [List.isEmpty_iff.mp hEmpty]
    exact ⟨rfl, rfl⟩

theorem lawful_connectorCapabilities : Lawful (fun capabilities : StringMap (List String) =>
      if capabilities.entries.isEmpty then none else some (toValue capabilities)) (Slot.defaulted ∅) :=
  lawful_defaulted (stable_map flat_list) fun capabilities hEmpty => by
    have hNone : capabilities = ∅ := AList.ext (List.isEmpty_iff.mp hEmpty)
    rw [hNone]
    exact ⟨rfl, rfl⟩

def flightServiceFields : List (RecordField FlightService) :=
  [⟨"name", _, FlightService.name, _, _, lawful_required flat_string.stable⟩,
    ⟨"namespace", _, FlightService.namespaceName, _, _, lawful_required flat_string.stable⟩,
    ⟨"external_url", _, FlightService.externalUrl, _, _, lawful_required flat_string.stable⟩,
    ⟨"internal_url", _, FlightService.internalUrl, _, _, lawful_required flat_string.stable⟩,
    ⟨"supported_connectors", _, FlightService.supportedConnectors, _, _, lawful_supportedConnectors⟩,
    ⟨"connector_capabilities", _, FlightService.connectorCapabilities, _, _, lawful_connectorCapabilities⟩,
    ⟨"status", _, FlightService.status, _, _, lawful_required isRecord_flightServiceStatus.stable⟩]

theorem isRecord_flightService : IsRecord FlightService flightServiceFields where
  names := by decide
  writes service := by
    simp [flightServiceFields, RecordField.members, toValue, memberUnless_eq]
  reads members record := by
    simp only [fromValue, slots_object, bind_eq_bind, bind_some, bind_eq_some_iff,
      Option.pure_def, Option.some.injEq, flightServiceFields, forall_mem_cons]
    constructor
    · rintro ⟨name, hName, space, hSpace, external, hExternal, internal, hInternal, connectors, hConnectors,
        capabilities, hCapabilities, status, hStatus, rfl⟩
      exact ⟨hName, hSpace, hExternal, hInternal, hConnectors, hCapabilities, hStatus, forall_mem_nil _⟩
    · rintro ⟨hName, hSpace, hExternal, hInternal, hConnectors, hCapabilities, hStatus, -⟩
      exact ⟨_, hName, _, hSpace, _, hExternal, _, hInternal, _, hConnectors, _, hCapabilities, _, hStatus, rfl⟩

end Records

section Laws

variable {Resource : Type} [Codec Resource] {texts : LibraryTexts} {struct : String}
  {fields : List (RecordField Resource)}

/-- The laws of merge patches, for an update that accepts the resources that are
`Valid`: what results is the resource whose document is merged, name by name,
with the patch. The last two say of what a patch does not name that it is as before,
of the fields and of the document. -/
structure PatchLaws (fields : List (RecordField Resource)) (Valid : Resource → Prop)
    (update : Json → UpdateFn Resource) : Prop where
  merged : ∀ patch resource result, update patch resource = .ok result ↔
    fromValue ((toValue resource).merge patch) = some result ∧ Valid result
  valid : ∀ patch resource result, update patch resource = .ok result → Valid result
  empty : ∀ resource, (Valid resource → update (.object []) resource = .ok resource) ∧
    ∀ result, update (.object []) resource = .ok result → result = resource
  again : ∀ patch resource result, patch.Distinct → update patch resource = .ok result →
    update patch result = .ok result
  untouched : ∀ changes resource result, (Json.object changes).Distinct →
    update (.object changes) resource = .ok result →
    ∀ field ∈ fields, field.name ∉ changes.map Prod.fst → field.get result = field.get resource
  written : ∀ changes resource result, (Json.object changes).Distinct → update (.object changes) resource = .ok result →
    ∀ name, name ∉ changes.map Prod.fst → (toValue result).field? name = (toValue resource).field? name

theorem applyPatch_eq_ok {patch : Json} {resource result : Resource} :
    applyPatch texts struct patch resource = .ok result ↔ fromValue ((toValue resource).merge patch) = some result := by
  unfold applyPatch
  dsimp only
  cases fromValue (α := Resource) ((toValue resource).merge patch) <;> simp

theorem applyPatch_empty (h : IsRecord Resource fields) (resource : Resource) :
    applyPatch texts struct (.object []) resource = .ok resource := by
  rw [applyPatch_eq_ok, h.merge_empty, Codec.fromValue_toValue]

/-- An update that merges the patch, and then accepts what is `Valid`. -/
theorem patchLaws_of_merge {Valid : Resource → Prop} {update : Json → UpdateFn Resource}
    (h : IsRecord Resource fields)
    (hUpdate : ∀ patch resource result, update patch resource = .ok result ↔
      applyPatch texts struct patch resource = .ok result ∧ Valid result) : PatchLaws fields Valid update where
  merged patch resource result := by rw [hUpdate, applyPatch_eq_ok]
  valid patch resource result hResult := ((hUpdate ..).mp hResult).2
  empty resource := by
    have hEmpty : applyPatch texts struct (.object []) resource = .ok resource := applyPatch_empty h resource
    refine ⟨fun hValid => (hUpdate ..).mpr ⟨hEmpty, hValid⟩, fun result hResult => ?_⟩
    have hSame := ((hUpdate ..).mp hResult).1
    rw [hEmpty] at hSame
    exact (Except.ok.inj hSame).symm
  again patch resource result hPatch hResult := by
    obtain ⟨hMerged, hValid⟩ := (hUpdate ..).mp hResult
    rw [applyPatch_eq_ok] at hMerged
    exact (hUpdate ..).mpr ⟨applyPatch_eq_ok.mpr (h.stable patch hPatch resource result hMerged), hValid⟩
  untouched changes resource result hPatch hResult field hField hName := by
    rw [Json.Distinct] at hPatch
    exact h.get_of_notMem hPatch.1 (applyPatch_eq_ok.mp ((hUpdate ..).mp hResult).1) hField hName
  written changes resource result hPatch hResult name hName := by
    rw [Json.Distinct] at hPatch
    exact h.field?_of_notMem hPatch.1 (applyPatch_eq_ok.mp ((hUpdate ..).mp hResult).1) hName

theorem patchType_eq_ok {patch : Json} {type result : DataConnectionType} : patchType texts patch type = .ok result ↔
      applyPatch texts "DataConnectionType" patch type = .ok result ∧ validateType result = .ok () := by
  unfold patchType
  cases applyPatch texts "DataConnectionType" patch type with
  | error error => simp [bind, Except.bind]
  | ok merged =>
    simp only [bind, Except.bind, Except.ok.injEq]
    constructor
    · intro hResult
      cases hValid : validateType merged with
      | error error =>
        rw [hValid] at hResult
        cases hResult
      | ok _ =>
        rw [hValid] at hResult
        cases hResult
        exact ⟨rfl, hValid⟩
    · rintro ⟨rfl, hValid⟩
      rw [hValid]
      rfl

/-- Connections, connection types and Flight services are patched by merge
patches. The patch of a connection type is refused when its result is not
valid. -/
theorem patches_are_merge_patches (texts : LibraryTexts) :
    PatchLaws dataConnectionFields (fun _ => True) (applyPatch texts "DataConnection") ∧
    PatchLaws dataConnectionTypeFields (fun type => validateType type = .ok ()) (patchType texts) ∧
    PatchLaws flightServiceFields (fun _ => True) (applyPatch texts "FlightService") :=
  ⟨patchLaws_of_merge isRecord_dataConnection fun _ _ _ => (and_iff_left trivial).symm,
    patchLaws_of_merge isRecord_dataConnectionType fun _ _ _ => patchType_eq_ok,
    patchLaws_of_merge isRecord_flightService fun _ _ _ => (and_iff_left trivial).symm⟩

/-- A patch that renames a connection and takes a property away. -/
def samplePatch : Json := .object [("name", .string "new"), ("properties", .object [("bucket", .null)])]

def bucketConnection (name : String) (properties : StringMap String) : DataConnection :=
  ⟨name, "s3", .tabular, ⟨"key"⟩, properties⟩

theorem patches_are_merge_patches_sample :
    let update := applyPatch sampleTexts "DataConnection" samplePatch
    update (bucketConnection "old" (AList.singleton "bucket" "files")) = .ok (bucketConnection "new" ∅) ∧
      update (bucketConnection "new" ∅) = .ok (bucketConnection "new" ∅) := by
  have hLaws := (patches_are_merge_patches sampleTexts).1
  have hMerged := (hLaws.merged samplePatch (bucketConnection "old" (AList.singleton "bucket" "files"))
    (bucketConnection "new" ∅)).mpr ⟨rfl, trivial⟩
  exact ⟨hMerged, hLaws.again _ _ _ (by decide) hMerged⟩

end Laws

end DataConnectHub.Rest
