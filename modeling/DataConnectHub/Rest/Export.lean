import DataConnectHub.Interaction.Traces
import DataConnectHub.Rest.Endpoints
import DataConnectHub.RustStd.Str

/-! The secret that an export writes. It starts as a copy of the credentials,
and the connection is written over it: four fixed keys, and a key for each
property. What the copy brings along under other keys stays, which matters when
the credentials are an earlier export. -/
namespace DataConnectHub.Rest

open Serde Http Interaction Program RustStd List

section Keys

def exportPrefix : String := "data_connection"

def propertyPrefix : String := "data_connection.properties."

/-- The key of a property in an exported secret. -/
def propertyKey (name : String) : String := s!"data_connection.properties.{name}"

theorem propertyKey_toList (name : String) : (propertyKey name).toList = propertyPrefix.toList ++ name.toList := by
  change ("data_connection.properties." ++ name).toList = _
  rw [String.toList_append]
  rfl

theorem propertyKey_injective : Function.Injective propertyKey := by
  intro first second h
  have hChars := congrArg String.toList h
  rw [propertyKey_toList, propertyKey_toList] at hChars
  exact String.toList_injective (append_cancel_left hChars)

theorem startsWith_propertyKey (name : String) : startsWith (propertyKey name) propertyPrefix = true := by
  rw [startsWith, propertyKey_toList, isPrefixOf_iff_prefix]
  exact prefix_append _ _

theorem exists_propertyKey {key : String} (h : startsWith key propertyPrefix = true) :
    ∃ name, key = propertyKey name := by
  rw [startsWith, isPrefixOf_iff_prefix] at h
  obtain ⟨rest, hRest⟩ := h
  refine ⟨.ofList rest, String.toList_injective ?_⟩
  rw [propertyKey_toList, String.toList_ofList, hRest]

/-- Every key of a property is one of the export. -/
theorem startsWith_exportPrefix (name : String) : startsWith (propertyKey name) exportPrefix = true := by
  have hShort : exportPrefix.toList <+: propertyPrefix.toList := by decide
  rw [startsWith, propertyKey_toList, isPrefixOf_iff_prefix]
  exact hShort.trans (prefix_append _ _)

theorem propertyKey_ne {key : String} (h : startsWith key propertyPrefix = false) (name : String) :
    key ≠ propertyKey name := by
  rintro rfl
  rw [startsWith_propertyKey] at h
  cases h

end Keys

section Maps

variable {Value : Type} {rename : String → String} {entries : List ((_ : String) × Value)}

/-- Entries that are written under new names are found under these. -/
theorem lookup_foldl_insert (hRename : Function.Injective rename) (hNodup : entries.NodupKeys)
    (map : StringMap Value) (name : String) :
    (entries.foldl (fun found entry => found.insert (rename entry.1) entry.2) map).lookup (rename name) =
      (entries.dlookup name).or (map.lookup (rename name)) := by
  induction entries generalizing map with
  | nil => rfl
  | cons entry rest ih =>
    obtain ⟨hNew, hRest⟩ := nodupKeys_cons.mp hNodup
    rw [foldl_cons, ih hRest]
    by_cases hName : name = entry.1
    · subst hName
      rw [dlookup_eq_none.mpr hNew, AList.lookup_insert, dlookup_cons_eq]
      rfl
    · rw [AList.lookup_insert_ne (hRename.ne hName), dlookup_cons_ne rest entry hName]

theorem lookup_insert_ite (map : StringMap Value) (key other : String) (value : Value) :
    (map.insert other value).lookup key = if key = other then some value else map.lookup key := by
  split
  next hKey => rw [hKey, AList.lookup_insert]
  next hKey => rw [AList.lookup_insert_ne hKey]

theorem lookup_foldl_insert_ne {key : String} (h : ∀ name, key ≠ rename name) (map : StringMap Value) :
    (entries.foldl (fun found entry => found.insert (rename entry.1) entry.2) map).lookup key = map.lookup key := by
  induction entries generalizing map with
  | nil => rfl
  | cons entry rest ih => rw [foldl_cons, ih, AList.lookup_insert_ne (h entry.1)]

end Maps

section KubeSecrets

/-- A Secret of the cluster. Its values are bytes. -/
structure K8sSecret where
  data : Option (StringMap ByteArray)
  labels : Option (StringMap String)
  annotations : Option (StringMap String)

/-- An entry whose value is text. -/
def textEntry (entry : (_ : String) × ByteArray) : Option ((_ : String) × String) :=
  (String.fromUTF8? entry.2).map (Sigma.mk entry.1)

/-- Values that are not UTF-8 are left out. -/
def extractProperties (k8sSecret : K8sSecret) : StringMap String :=
  ((k8sSecret.data.getD ∅).entries.filterMap textEntry).toAList

/-- `get_secret`, given what the cluster has under the name. -/
def KubeSecretStore.getSecret (namespaceName name : String) : Option K8sSecret → Except SecretStoreError Secret
  | none => .error (.secretNotFound "Failed to obtain credentials")
  | some k8sSecret => .ok
    { name := name, namespaceName := namespaceName
      properties := extractProperties k8sSecret
      labels := some (k8sSecret.labels.getD ∅), annotations := some (k8sSecret.annotations.getD ∅) }

theorem fromUTF8?_toUTF8 (text : String) : String.fromUTF8? text.toUTF8 = some text :=
  dif_pos text.isValidUTF8

theorem dlookup_filterMap_textEntry {entries : List ((_ : String) × ByteArray)} (hNodup : entries.NodupKeys)
    (key : String) : (entries.filterMap textEntry).dlookup key = (entries.dlookup key).bind String.fromUTF8? := by
  induction entries with
  | nil => rfl
  | cons entry rest ih =>
    obtain ⟨hNew, hRest⟩ := nodupKeys_cons.mp hNodup
    by_cases hKey : key = entry.1
    · subst hKey
      rw [dlookup_cons_eq, Option.bind_some, filterMap_cons, textEntry]
      cases String.fromUTF8? entry.2 with
      -- the key of a value that is left out does not occur again
      | none => exact (ih hRest).trans (by rw [dlookup_eq_none.mpr hNew]; rfl)
      | some text => exact dlookup_cons_eq _ _ _
    · rw [dlookup_cons_ne _ _ hKey, ← ih hRest, filterMap_cons, textEntry]
      cases String.fromUTF8? entry.2 with
      | none => rfl
      | some text => exact dlookup_cons_ne _ _ hKey

theorem lookup_extractProperties (k8sSecret : K8sSecret) (key : String) :
    (extractProperties k8sSecret).lookup key = ((k8sSecret.data.getD ∅).lookup key).bind String.fromUTF8? :=
  (AList.lookup_to_alist _).trans (dlookup_filterMap_textEntry (AList.nodupKeys _) key)

end KubeSecrets

section Export

variable (connection : DataConnectionResource) (source : StringMap ByteArray) (credentials : StringMap String)

/-- A faithful export: the foreign values of the source are kept, byte by byte,
and the connection can be read back from the keys that are its own. -/
structure Faithful (written : StringMap String) : Prop where
  credentials : ∀ key value, startsWith key exportPrefix = false → source.lookup key = some value →
    (written.lookup key).map String.toUTF8 = some value
  id : written.lookup "data_connection.id" = some connection.metadata.id
  type : written.lookup "data_connection_type.id" = some connection.resource.dataConnectionTypeId
  name : written.lookup "data_connection.name" = some connection.resource.name
  format : written.lookup "data_connection.format" = some connection.resource.format.display
  format_read : (written.lookup "data_connection.format").map DataFormat.fromString =
    some (.ok connection.resource.format)
  properties : ∀ name, written.lookup (propertyKey name) = connection.resource.properties.lookup name
  properties_only : ∀ key ∈ written, startsWith key propertyPrefix = true →
    ∃ name ∈ connection.resource.properties, key = propertyKey name

variable {connection source credentials}

/-- A key that is not of a property is looked up among the fixed keys and the
credentials. -/
theorem lookup_exportProperties_fixed {key : String} (h : startsWith key propertyPrefix = false) :
    (exportProperties connection credentials).lookup key =
      if key = "data_connection.format" then some connection.resource.format.display
      else if key = "data_connection.name" then some connection.resource.name
      else if key = "data_connection_type.id" then some connection.resource.dataConnectionTypeId
      else if key = "data_connection.id" then some connection.metadata.id
      else credentials.lookup key := by
  refine (lookup_foldl_insert_ne (propertyKey_ne h) _).trans ?_
  simp only [lookup_insert_ite]

/-- A property of the connection wins over a credential under its key. -/
theorem lookup_exportProperties_property (name : String) :
    (exportProperties connection credentials).lookup (propertyKey name) =
      (connection.resource.properties.lookup name).or (credentials.lookup (propertyKey name)) := by
  refine (lookup_foldl_insert propertyKey_injective connection.resource.properties.nodupKeys _ name).trans ?_
  have hFixed : ∀ key, startsWith key propertyPrefix = false → propertyKey name ≠ key :=
    fun key hKey => (propertyKey_ne hKey name).symm
  rw [AList.lookup_insert_ne (hFixed _ (by decide)), AList.lookup_insert_ne (hFixed _ (by decide)),
    AList.lookup_insert_ne (hFixed _ (by decide)), AList.lookup_insert_ne (hFixed _ (by decide))]
  rfl

theorem propertyKey_mem_exportProperties {name : String} : propertyKey name ∈ exportProperties connection credentials ↔
    name ∈ connection.resource.properties ∨ propertyKey name ∈ credentials := by
  rw [← AList.lookup_isSome, lookup_exportProperties_property, Option.isSome_or, Bool.or_eq_true,
    AList.lookup_isSome, AList.lookup_isSome]

theorem not_property_of_foreign {key : String} (h : startsWith key exportPrefix = false) :
    startsWith key propertyPrefix = false := by
  cases hProperty : startsWith key propertyPrefix with
  | false => rfl
  | true =>
    obtain ⟨name, rfl⟩ := exists_propertyKey hProperty
    rw [startsWith_exportPrefix] at h
    cases h

theorem lookup_exportProperties_foreign {key : String} (h : startsWith key exportPrefix = false) :
    (exportProperties connection credentials).lookup key = credentials.lookup key := by
  have hOther : ∀ fixed, startsWith fixed exportPrefix = true → key ≠ fixed := by
    rintro fixed hFixed rfl
    rw [hFixed] at h
    cases h
  rw [lookup_exportProperties_fixed (not_property_of_foreign h), if_neg (hOther _ (by decide)),
    if_neg (hOther _ (by decide)), if_neg (hOther _ (by decide)), if_neg (hOther _ (by decide))]

variable (connection credentials) in
/-- The credentials have no key of a property but those of the connection. -/
def OwnProperties : Prop :=
  ∀ key ∈ credentials, startsWith key propertyPrefix = true →
    ∃ name ∈ connection.resource.properties, key = propertyKey name

theorem lookup_property_of_own (h : OwnProperties connection credentials) (name : String) :
    (exportProperties connection credentials).lookup (propertyKey name) =
      connection.resource.properties.lookup name := by
  rw [lookup_exportProperties_property]
  cases hName : connection.resource.properties.lookup name with
  | some value => rfl
  | none =>
    rw [Option.none_or, AList.lookup_eq_none]
    intro hKey
    obtain ⟨other, hOther, hSame⟩ := h _ hKey (startsWith_propertyKey name)
    rw [propertyKey_injective hSame, AList.lookup_eq_none] at hName
    exact hName hOther

variable (source) in
/-- The foreign values are all text. -/
def TextValues : Prop :=
  ∀ key value, startsWith key exportPrefix = false → source.lookup key = some value → value.IsValidUTF8

variable (connection) in
theorem faithful_exportProperties_iff
    (hSource : ∀ key, credentials.lookup key = (source.lookup key).bind String.fromUTF8?) :
    Faithful connection source (exportProperties connection credentials) ↔
      TextValues source ∧ OwnProperties connection credentials := by
  have hFormat : (exportProperties connection credentials).lookup "data_connection.format" =
      some connection.resource.format.display := by
    rw [lookup_exportProperties_fixed (by decide)]
    rfl
  constructor
  · refine fun h => ⟨fun key value hForeign hValue => ?_, fun key hKey hProperty => ?_⟩
    · obtain ⟨text, -, hText⟩ := Option.map_eq_some_iff.mp (h.credentials key value hForeign hValue)
      exact hText ▸ text.isValidUTF8
    · obtain ⟨name, rfl⟩ := exists_propertyKey hProperty
      -- a credential under the key of a property is written, if not with the same value
      exact h.properties_only _ (propertyKey_mem_exportProperties.mpr (.inr hKey)) hProperty
  · intro ⟨hTexts, h⟩
    refine ⟨fun key value hForeign hValue => ?_, ?_, ?_, ?_, hFormat, ?_, lookup_property_of_own h,
      fun key hKey hProperty => ?_⟩
    · rw [lookup_exportProperties_foreign hForeign, hSource, hValue, Option.bind_some, String.fromUTF8?,
        dif_pos (hTexts key value hForeign hValue)]
      rfl
    · rw [lookup_exportProperties_fixed (by decide)]
      rfl
    · rw [lookup_exportProperties_fixed (by decide)]
      rfl
    · rw [lookup_exportProperties_fixed (by decide)]
      rfl
    · rw [hFormat, Option.map_some, DataFormat.fromString_display]
    · obtain ⟨name, rfl⟩ := exists_propertyKey hProperty
      rcases propertyKey_mem_exportProperties.mp hKey with hName | hKey
      · exact ⟨name, hName, rfl⟩
      · exact h _ hKey hProperty

end Export

section Endpoint

variable (service : ApiService) (ctx : ApiContext) (id secretName : String)

/-- A secret is written from a connection and a secret that were read before. -/
def WrittenFromReads (past : List ApiEvent) : ApiCall → Prop
  | .createSecret secret _ => ∃ connection source,
      ⟨.store (.getDataConnection ctx.tenantId id), .ok connection⟩ ∈ past ∧
        ⟨.getSecret ctx.tenantId connection.resource.credentialsRef.secret, .ok source⟩ ∈ past ∧
        secret.properties = exportProperties connection source.properties
  | _ => True

theorem exportSecret_writes {connection : DataConnectionResource} {past : List ApiEvent}
    (h : ⟨.store (.getDataConnection ctx.tenantId id), .ok connection⟩ ∈ past) :
    (ExceptT.run (exportSecret ctx connection secretName)).Always (WrittenFromReads ctx id) past := by
  refine ⟨trivial, fun found => ?_⟩
  cases found with
  | error error => trivial
  | ok source =>
    refine ⟨⟨connection, source, ?_, ?_, rfl⟩, fun made => by cases made <;> trivial⟩
    · exact mem_append_left _ h
    · exact mem_append_right _ (mem_singleton_self _)

theorem exportConnection_writes :
    (ExceptT.run (exportConnection service ctx id secretName)).Always (WrittenFromReads ctx id) [] := by
  refine ⟨trivial, fun found => ?_⟩
  cases found with
  | error error => trivial
  | ok connection =>
    change Always _ _ (ExceptT.run (if connection.resource.credentialsRef.secret.isEmpty then _ else do
      authorizeSecretRef service ctx connection.resource.credentialsRef.secret
      exportSecret ctx connection secretName))
    have hRead : (⟨.store (.getDataConnection ctx.tenantId id), .ok connection⟩ :
        ApiEvent) ∈ [(⟨.store (.getDataConnection ctx.tenantId id), .ok connection⟩ :
        ApiEvent)] := mem_singleton_self _
    unfold authorizeSecretRef
    split
    · trivial
    · split
      · cases ctx.identity with
        | none => trivial
        | some identity =>
          refine ⟨trivial, fun verdict => ?_⟩
          cases verdict with
          | error error => trivial
          | ok _ => exact exportSecret_writes ctx id secretName (mem_append_left _ hRead)
      · exact exportSecret_writes ctx id secretName hRead

end Endpoint

/-- Whatever an export meets, the secret it writes is faithful to the connection
and the Secret of the cluster it has read just if the foreign values of that
Secret are all text, and its texts have no key of a property but those of the
connection. -/
theorem export_faithful_iff (service : ApiService) (ctx : ApiContext) (id secretName : String)
    (environment : Environment ApiCall ApiCall.Response) (before after : List ApiEvent)
    (secret : Secret) (overwrite : Bool) (answer : Except SecretStoreError Unit)
    (hWritten : ((ExceptT.run (exportConnection service ctx id secretName)).run environment []).2 =
      before ++ ⟨.createSecret secret overwrite, answer⟩ :: after) :
    ∃ connection source, ⟨.store (.getDataConnection ctx.tenantId id), .ok connection⟩ ∈ before ∧
      ⟨.getSecret ctx.tenantId connection.resource.credentialsRef.secret, .ok source⟩ ∈ before ∧
      ∀ k8sSecret, KubeSecretStore.getSecret ctx.tenantId connection.resource.credentialsRef.secret (some k8sSecret) =
          .ok source →
        (Faithful connection (k8sSecret.data.getD ∅) secret.properties ↔
          TextValues (k8sSecret.data.getD ∅) ∧ OwnProperties connection (extractProperties k8sSecret)) := by
  have hAlong := (exportConnection_writes service ctx id secretName).along environment
  obtain ⟨connection, source, hConnection, hSource, hProperties⟩ :=
    along_iff.mp hAlong before ⟨.createSecret secret overwrite, answer⟩ after hWritten (Nat.zero_le _)
  refine ⟨connection, source, hConnection, hSource, fun k8sSecret hRead => ?_⟩
  obtain rfl := Except.ok.inj hRead
  rw [hProperties]
  exact faithful_exportProperties_iff connection (lookup_extractProperties k8sSecret)

section Samples

def exportedConnection : DataConnectionResource :=
  { metadata := ⟨"connection-1", some "team-a", "2026-01-01T00:00:00Z", "2026-01-01T00:00:00Z"⟩
    resource :=
      { name := "orders", dataConnectionTypeId := "type-1", format := .tabular,
        credentialsRef := ⟨"orders-secret"⟩, properties := AList.singleton "schema" "public" }
    status := .default }

/-- A service whose stores have the connection and this Secret. -/
def exportEnvironment (k8sSecret : K8sSecret) : Environment ApiCall ApiCall.Response
  | _, .store (.getDataConnection _ _) => (.ok exportedConnection : Except MetaStoreError DataConnectionResource)
  | _, .getSecret namespaceName name => KubeSecretStore.getSecret namespaceName name (some k8sSecret)
  | _, issued => sampleReply [] issued

/-- The record of an export into the secret `fresh`. -/
def exportRecord (k8sSecret : K8sSecret) : List ApiEvent :=
  ((ExceptT.run (exportConnection ⟨"global", false⟩ ⟨"team-a", none⟩ "connection-1" "fresh")).run
    (exportEnvironment k8sSecret) []).2

def exportedSecret (k8sSecret : K8sSecret) : Secret :=
  { name := "fresh", namespaceName := "team-a"
    properties := exportProperties exportedConnection (extractProperties k8sSecret)
    labels := some defaultSecretLabels, annotations := none }

theorem exportRecord_eq (k8sSecret : K8sSecret) : exportRecord k8sSecret =
      [⟨.store (.getDataConnection "team-a" "connection-1"), .ok exportedConnection⟩,
        ⟨.getSecret "team-a" "orders-secret",
          KubeSecretStore.getSecret "team-a" "orders-secret" (some k8sSecret)⟩] ++
      ⟨.createSecret (exportedSecret k8sSecret) true, .ok ()⟩ :: [] :=
  rfl

def sourceSecret (entries : List ((_ : String) × ByteArray)) : K8sSecret := ⟨some entries.toAList, none, none⟩

/-- The credentials of an earlier export, made when the connection had another
property. -/
def earlierExport : K8sSecret :=
  sourceSecret [⟨"PASSWORD", "hunter2".toUTF8⟩, ⟨"data_connection.properties.table", "old".toUTF8⟩]

/-- The property that the connection no longer has is exported again. -/
theorem stale_property_exported : ∃ before after answer, exportRecord earlierExport =
        before ++ ⟨.createSecret (exportedSecret earlierExport) true, answer⟩ :: after ∧
      (exportedSecret earlierExport).properties.lookup "data_connection.properties.table" = some "old" ∧
      ¬Faithful exportedConnection (earlierExport.data.getD ∅) (exportedSecret earlierExport).properties := by
  have hStale : (exportedSecret earlierExport).properties.lookup (propertyKey "table") = some "old" := by
    refine (lookup_exportProperties_property "table").trans ?_
    rw [lookup_extractProperties]
    exact fromUTF8?_toUTF8 "old"
  refine ⟨_, _, _, exportRecord_eq earlierExport, hStale, fun hFaithful => ?_⟩
  exact absurd ((hFaithful.properties "table").symm.trans hStale) (by decide)

def plainSecret : K8sSecret := sourceSecret [⟨"PASSWORD", "hunter2".toUTF8⟩]

theorem export_faithful_sample : TextValues (plainSecret.data.getD ∅) ∧
      OwnProperties exportedConnection (extractProperties plainSecret) ∧
      Faithful exportedConnection (plainSecret.data.getD ∅) (exportedSecret plainSecret).properties := by
  obtain ⟨connection, source, hConnection, hSource, hIff⟩ :=
    export_faithful_iff ⟨"global", false⟩ ⟨"team-a", none⟩ "connection-1" "fresh"
      (exportEnvironment plainSecret) _ _ _ _ _ (exportRecord_eq plainSecret)
  have hOnly : ∀ key value, (plainSecret.data.getD ∅).lookup key = some value →
      key = "PASSWORD" ∧ value = "hunter2".toUTF8 := by
    intro key value hValue
    have hEntry : (⟨key, value⟩ : (_ : String) × ByteArray) ∈ [⟨"PASSWORD", "hunter2".toUTF8⟩] :=
      AList.mem_lookup_iff.mp hValue
    cases mem_singleton.mp hEntry
    exact ⟨rfl, rfl⟩
  have hTexts : TextValues (plainSecret.data.getD ∅) := by
    intro key value _ hValue
    rw [(hOnly key value hValue).2]
    exact String.isValidUTF8 _
  have hOwn : OwnProperties exportedConnection (extractProperties plainSecret) := by
    intro key hKey hProperty
    obtain ⟨text, hText⟩ := Option.isSome_iff_exists.mp (AList.lookup_isSome.mpr hKey)
    rw [lookup_extractProperties] at hText
    obtain ⟨value, hValue, -⟩ := Option.bind_eq_some_iff.mp hText
    rw [(hOnly key value hValue).1] at hProperty
    exact absurd hProperty (by decide)
  simp only [mem_cons, not_mem_nil, or_false] at hConnection hSource
  rcases hConnection with hConnection | hConnection
  · cases hConnection
    rcases hSource with hSource | hSource
    · cases hSource
    · cases hSource
      exact ⟨hTexts, hOwn, (hIff plainSecret rfl).mpr ⟨hTexts, hOwn⟩⟩
  · cases hConnection

end Samples

end DataConnectHub.Rest
