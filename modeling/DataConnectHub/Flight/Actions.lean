import DataConnectHub.Flight.Auth
import DataConnectHub.Flight.Connectors
import DataConnectHub.Rest.Service
import Mathlib.Data.List.Induction

/-! The actions of the Flight service that check a data source: one for
credentials sent with the request, one for a saved connection. Both go through
the reader of a connector. The first is content when the reader can be made;
the second also has the reader check the source. -/
namespace DataConnectHub.Flight

open Serde Http Http.Grpc RustStd List

def mapMetaStoreError : MetaStoreError → Status
  | .resourceNotFound message => ⟨.notFound, message⟩
  | .invalidRequest message => ⟨.invalidArgument, message⟩
  | .validation message => ⟨.invalidArgument, message⟩
  | .unprocessableEntity message => ⟨.invalidArgument, message⟩
  | .connection _ => ⟨.unavailable, "metadata service unavailable"⟩
  | .config _ => ⟨.internal, "metadata service configuration error"⟩
  | .query _ => ⟨.internal, "metadata query error"⟩
  | .conflict _ => ⟨.alreadyExists, "resource already exists"⟩
  | .serialization _ => ⟨.internal, "metadata serialization error"⟩
  | .deserialization _ => ⟨.internal, "metadata deserialization error; see service logs for details"⟩

def mapConnectorError : ConnectorError → Status
  | .invalidRequest message => ⟨.invalidArgument, message⟩
  | .noDataError => ⟨.notFound, "no data found"⟩
  | .connectionError message => ⟨.unavailable, s!"data source connection failed: {message}"⟩
  | .sqlError message => ⟨.internal, s!"query execution failed: {message}"⟩
  | .configError message => ⟨.internal, s!"connector configuration error: {message}"⟩
  | .ioError _ => ⟨.internal, "data source IO error"⟩
  | .notFound message => ⟨.notFound, message⟩
  | .unsupportedOperation _ => ⟨.unimplemented, "unsupported operation"⟩

def xDataConnectionId : String := "x-data-connection-id"

def QueryContext.connectionId (metadata : HeaderMap) : Except Status String := do
  let value ← okOr ⟨.invalidArgument, s!"{xDataConnectionId} header is required"⟩ (metadata.get xDataConnectionId)
  okOr ⟨.invalidArgument, s!"{xDataConnectionId} header must be valid ASCII"⟩ value.toStr

/-- The service with the stores it reads, the connectors that are enabled, and
the libraries and data sources behind them. -/
structure DataIngestionService where
  connectorsRegistry : List Provider
  getDataConnection : String → String → Except MetaStoreError DataConnectionResource
  getDataConnectionType : String → String → Except MetaStoreError DataConnectionTypeResource
  getSecret : String → String → Except SecretStoreError Rest.Secret
  drivers : Drivers
  source : DataSource

namespace DataIngestionService

variable (service : DataIngestionService)

def getConnector (provider : String) : Except ConnectorError Provider :=
  okOr (.configError s!"no connector registered for provider '{provider}'")
    (service.connectorsRegistry.find? fun connector => connector.name = provider)

def getConnectorByTypeId (tenantId dataConnectionTypeId : String) :
    Except Status (DataConnectionTypeResource × Provider) := do
  let dataConnectionType ← mapErr mapMetaStoreError (service.getDataConnectionType tenantId dataConnectionTypeId)
  let connector ← mapErr mapConnectorError (service.getConnector dataConnectionType.resource.provider)
  return (dataConnectionType, connector)

def getConnectorByConnectionId (tenantId dataConnectionId : String) :
    Except Status (DataConnectionResource × Provider) := do
  let connection ← mapErr mapMetaStoreError (service.getDataConnection tenantId dataConnectionId)
  let (_, connector) ← service.getConnectorByTypeId tenantId connection.resource.dataConnectionTypeId
  return (connection, connector)

/-- The credentials of a saved connection: the properties of its secret. -/
def resolve : CredentialsResolver := fun connection =>
  match connection.metadata.tenantId with
  | some tenantId => do
      let secret ← mapErr (fun error => .connectionError error.display)
        (service.getSecret tenantId connection.resource.credentialsRef.secret)
      return secret.properties
  | none => .error (.connectionError "No credentials found")

/-- How every handler for a saved connection goes on once it has read the
headers. -/
def openReader (tenantId connectionId : String) (cache : ClientCache) :
    Except Status (DataConnectionResource × Provider × SourceClient) × ClientCache :=
  match service.getConnectorByConnectionId tenantId connectionId with
  | .error status => (.error status, cache)
  | .ok (connection, connector) =>
    let (reader, cache) :=
      getReader service.drivers service.source connector connection service.resolve cache
    (mapErr mapConnectorError (reader.map fun client => (connection, connector, client)), cache)

/-- A check of the data source, with the client it was made through. -/
def checkConnection (tenantId connectionId : String) (cache : ClientCache) :
    Except Status (Provider × SourceClient) × ClientCache :=
  let (reader, cache) := service.openReader tenantId connectionId cache
  (do
    let (_, connector, client) ← reader
    mapErr mapConnectorError (client.checkConnection service.drivers service.source)
    return (connector, client), cache)

def actionCheckConnection (metadata : HeaderMap) (cache : ClientCache) : Except Status Unit × ClientCache :=
  let requested : Except Status (String × String) := do
    return (← QueryContext.tenantId metadata, ← QueryContext.connectionId metadata)
  match requested with
  | .error status => (.error status, cache)
  | .ok (tenantId, connectionId) =>
    let (checked, cache) := service.checkConnection tenantId connectionId cache
    (checked.map fun _ => (), cache)

end DataIngestionService

section Body

/-- A column of a record batch; only columns of strings are looked at. -/
inductive Column where
  | utf8 (values : List String)
  | other

abbrev RecordBatch := List (String × Column)

/-- What the reader of an Arrow stream makes of the octets of a body: it
refuses them, or it yields batches. -/
abbrev ActionBody := Except String (List (Except String RecordBatch))

def RecordBatch.strings (batch : RecordBatch) (name : String) : Option (List String) :=
  match batch.find? fun column => column.1 == name with
  | some (_, .utf8 values) => some values
  | _ => none

/-- A map filled entry by entry; a later entry replaces an earlier one. -/
def collect {Value : Type} (entries : List (String × Value)) : StringMap Value :=
  entries.foldl (fun map entry => map.insert entry.1 entry.2) ∅

def parseKvBody (body : ActionBody) : Except Status (StringMap String) := do
  let batches ← mapErr (fun error => ⟨.invalidArgument, s!"invalid credentials payload: {error}"⟩) body
  let next ← okOr ⟨.invalidArgument, "credentials payload is empty"⟩ batches.head?
  let batch ← mapErr (fun error => ⟨.invalidArgument, s!"failed to read credentials: {error}"⟩) next
  let keys ← okOr ⟨.invalidArgument, "credentials payload missing 'key' column"⟩ (batch.strings "key")
  let values ← okOr ⟨.invalidArgument, "credentials payload missing 'value' column"⟩ (batch.strings "value")
  return collect (keys.zip values)

def dataConnectionTypeIdKey : String := "data_connection_type_id"
def secretPrefix : String := "secret."

def stripPrefix (start text : String) : Option String :=
  (text.toList.dropPrefix? start.toList).map String.ofList

/-- The entries under `secret.`, without it. -/
def secretEntries (keys : StringMap String) : StringMap String :=
  collect (keys.entries.filterMap fun entry =>
    (stripPrefix secretPrefix entry.1).map fun name => (name, entry.2))

/-- How `action_check_credentials` reads the body: the type id and the
credentials. -/
def decodeCredentials (body : ActionBody) : Except Status (String × StringMap String) := do
  let keys ← parseKvBody body
  let dctId ← okOr ⟨.invalidArgument, "data_connection_type_id is required"⟩ (keys.lookup dataConnectionTypeIdKey)
  return (dctId, secretEntries (keys.erase dataConnectionTypeIdKey))

/-- The body with which the REST service sends credentials to be tested. -/
def credentialsBody (dataConnectionTypeId : String) (credentials : StringMap String) : ActionBody :=
  let keys := dataConnectionTypeIdKey :: credentials.entries.map fun entry => secretPrefix ++ entry.1
  let values := dataConnectionTypeId :: credentials.entries.map fun entry => entry.2
  .ok [.ok [("key", .utf8 keys), ("value", .utf8 values)]]

end Body

/-- The connection that stands in for one that is not saved. -/
def unsavedConnection (id tenantId dataConnectionTypeId : String) : DataConnectionResource :=
  { metadata := ⟨id, some tenantId, "2021-01-01", "2021-01-01"⟩
    resource :=
      { name := "test", dataConnectionTypeId := dataConnectionTypeId, format := .tabular,
        credentialsRef := ⟨""⟩, properties := ∅ }
    status := .default }

namespace DataIngestionService

variable (service : DataIngestionService)

/-- What a request to check credentials asks for. The type's required fields
are looked at before any client is made. -/
def credentialsUnderTest (metadata : HeaderMap) (body : ActionBody) (uuid : String) :
    Except Status (DataConnectionResource × Provider × StringMap String) := do
  let tenantId ← QueryContext.tenantId metadata
  let (dctId, credentials) ← decodeCredentials body
  let (dataConnectionType, connector) ← service.getConnectorByTypeId tenantId dctId
  mapErr (fun error => ⟨.invalidArgument, error.display⟩)
    (dataConnectionType.resource.checkCredentialsSchema credentials)
  return (unsavedConnection uuid tenantId dctId, connector, credentials)

/-- The client is kept under a random id that no connection has. -/
def actionCheckCredentials (metadata : HeaderMap) (body : ActionBody) (uuid : String) (cache : ClientCache) :
    Except Status Unit × ClientCache :=
  match service.credentialsUnderTest metadata body uuid with
  | .error status => (.error status, cache)
  | .ok (connection, connector, credentials) =>
    let (reader, cache) := getReader service.drivers service.source connector connection
      (fun _ => .ok credentials) cache
    (mapErr mapConnectorError (reader.map fun _ => ()), cache)

end DataIngestionService

section BodyRoundTrip

theorem stripPrefix_eq_some {start text rest : String} : stripPrefix start text = some rest ↔ text = start ++ rest := by
  unfold stripPrefix
  rw [Option.map_eq_some_iff]
  constructor
  · rintro ⟨tail, hTail, rfl⟩
    obtain ⟨front, hText, hFront⟩ := dropPrefix?_eq_some_iff.mp hTail
    rw [← String.toList_inj]
    simpa [← eq_of_beq hFront] using hText
  · rintro rfl
    refine ⟨rest.toList, ?_, by simp⟩
    rw [String.toList_append]
    exact dropPrefix?_append_of_beq _ (by simp)

variable {key value : String}

/-- A map filled from entries with different keys has exactly these entries. -/
theorem lookup_collect {Value : Type} {entries : List (String × Value)} (h : (entries.map Prod.fst).Nodup)
    {value : Value} :
    (collect entries).lookup key = some value ↔ (key, value) ∈ entries := by
  induction entries using reverseRecOn with
  | nil => simp [collect]
  | append_singleton entries entry ih =>
    have hInsert : collect (entries ++ [entry]) = (collect entries).insert entry.1 entry.2 := by
      simp [collect]
    rw [map_append, nodup_append] at h
    obtain ⟨hEntries, -, hNew⟩ := h
    rw [hInsert, mem_append, mem_singleton]
    by_cases hKey : key = entry.1
    · subst hKey
      have hOld : (entry.1, value) ∉ entries := fun hMem =>
        hNew entry.1 (mem_map.mpr ⟨_, hMem, rfl⟩) entry.1 (by simp) rfl
      rw [AList.lookup_insert, Option.some.injEq, Prod.ext_iff]
      simp [hOld, eq_comm]
    · rw [AList.lookup_insert_ne hKey, ih hEntries]
      simp [Prod.ext_iff, hKey]

variable {credentials keys : StringMap String}

theorem lookup_eq_some_iff_mem :
    credentials.lookup key = some value ↔ (⟨key, value⟩ : Sigma fun _ => String) ∈ credentials.entries :=
  AList.mem_lookup_iff

/-- The entries under `secret.` are those of the map, under shorter names. -/
theorem lookup_secretEntries {name : String} :
    (secretEntries keys).lookup name = some value ↔ keys.lookup (secretPrefix ++ name) = some value := by
  have hKeys : ((keys.entries.filterMap fun entry =>
      (stripPrefix secretPrefix entry.1).map fun name => (name, entry.2)).map Prod.fst).Nodup := by
    have hNames : (keys.entries.filterMap fun entry =>
        (stripPrefix secretPrefix entry.1).map fun name => (name, entry.2)).map Prod.fst =
        keys.keys.filterMap (stripPrefix secretPrefix) := by
      simp [AList.keys, List.keys, List.map_filterMap, List.filterMap_map, Function.comp_def]
    rw [hNames]
    refine keys.keys_nodup.filterMap fun first second name hFirst hSecond => ?_
    rw [stripPrefix_eq_some.mp hFirst, stripPrefix_eq_some.mp hSecond]
  rw [secretEntries, lookup_collect hKeys, lookup_eq_some_iff_mem, mem_filterMap]
  constructor
  · rintro ⟨entry, hEntry, hName⟩
    obtain ⟨found, hStrip, hPair⟩ := Option.map_eq_some_iff.mp hName
    cases hPair
    rw [← stripPrefix_eq_some.mp hStrip]
    exact hEntry
  · intro hEntry
    refine ⟨_, hEntry, ?_⟩
    rw [stripPrefix_eq_some.mpr rfl]
    rfl

/-- The rows of the body that carries credentials. -/
def credentialsRows (dataConnectionTypeId : String) (credentials : StringMap String) : List (String × String) :=
  (dataConnectionTypeIdKey, dataConnectionTypeId) ::
    credentials.entries.map fun entry => (secretPrefix ++ entry.1, entry.2)

variable (dataConnectionTypeId : String)

theorem parseKvBody_credentialsBody : parseKvBody (credentialsBody dataConnectionTypeId credentials) =
      .ok (collect (credentialsRows dataConnectionTypeId credentials)) := by
  change Except.ok (collect (zip _ _)) = _
  rw [credentialsRows, zip_cons_cons, zip_map']

theorem secretPrefix_ne (name : String) : secretPrefix ++ name ≠ dataConnectionTypeIdKey := by
  intro h
  have hHead := congrArg (fun text => text.toList.head?) h
  simp [secretPrefix, dataConnectionTypeIdKey] at hHead

theorem secretPrefix_injective : Function.Injective (secretPrefix ++ ·) := by
  intro first second h
  have hFirst : stripPrefix secretPrefix (secretPrefix ++ first) = some first := stripPrefix_eq_some.mpr rfl
  exact Option.some.inj (hFirst.symm.trans (stripPrefix_eq_some.mpr h))

theorem credentialsRows_nodup : ((credentialsRows dataConnectionTypeId credentials).map Prod.fst).Nodup := by
  have hNames : (credentialsRows dataConnectionTypeId credentials).map Prod.fst =
      dataConnectionTypeIdKey :: credentials.keys.map (secretPrefix ++ ·) := by
    simp [credentialsRows, AList.keys, List.keys, Function.comp_def]
  rw [hNames, nodup_cons]
  refine ⟨fun hMem => ?_, credentials.keys_nodup.map secretPrefix_injective⟩
  obtain ⟨name, -, hName⟩ := mem_map.mp hMem
  exact secretPrefix_ne name hName

theorem lookup_typeId : (collect (credentialsRows dataConnectionTypeId credentials)).lookup dataConnectionTypeIdKey =
      some dataConnectionTypeId :=
  (lookup_collect (credentialsRows_nodup _)).mpr (mem_cons_self ..)

/-- Whoever reads the body gets back the credentials that were sent. -/
theorem lookup_sent (name : String) : (secretEntries ((collect (credentialsRows dataConnectionTypeId credentials)).erase
      dataConnectionTypeIdKey)).lookup name = credentials.lookup name := by
  ext value
  rw [lookup_secretEntries, AList.lookup_erase_ne (secretPrefix_ne name),
    lookup_collect (credentialsRows_nodup _), lookup_eq_some_iff_mem, credentialsRows, mem_cons,
    Prod.mk.injEq, mem_map]
  constructor
  · rintro (⟨hName, -⟩ | ⟨entry, hEntry, hPair⟩)
    · exact absurd hName (secretPrefix_ne name)
    · obtain ⟨hName, rfl⟩ := Prod.mk.inj hPair
      rwa [← secretPrefix_injective hName]
  · intro hEntry
    exact .inr ⟨_, hEntry, rfl⟩

end BodyRoundTrip

section Verdicts

variable {service : DataIngestionService} {tenantId : String} {metadata : HeaderMap}
  {dataConnectionType : DataConnectionTypeResource} {credentials : StringMap String} {cache : ClientCache}
  {first second : StringMap String} {dctId connectionId : String} {secret : Rest.Secret}

theorem checkCredentialsSchema_congr (h : ∀ key, first.lookup key = second.lookup key) (type : DataConnectionType) :
    type.checkCredentialsSchema first = type.checkCredentialsSchema second := by
  simp only [DataConnectionType.checkCredentialsSchema, h]

theorem newClient_congr (h : ∀ key, first.lookup key = second.lookup key) (drivers : Drivers) (source : DataSource)
    (provider : Provider) :
    provider.newClient drivers source first = provider.newClient drivers source second := by
  rw [Provider.newClient, Provider.configure_congr h, Provider.newClient]

theorem getConnectorByTypeId_eq_ok {target : DataConnectionTypeResource × Provider}
    (hType : service.getDataConnectionType tenantId dctId = .ok dataConnectionType) :
    service.getConnectorByTypeId tenantId dctId = .ok target ↔ target.1 = dataConnectionType ∧
        service.getConnector dataConnectionType.resource.provider = .ok target.2 := by
  rw [DataIngestionService.getConnectorByTypeId, hType]
  change (do
    let connector ← mapErr mapConnectorError (service.getConnector dataConnectionType.resource.provider)
    return (dataConnectionType, connector)) = _ ↔ _
  simp only [bind_eq_ok, mapErr_eq_ok]
  constructor
  · rintro ⟨connector, hConnector, hTarget⟩
    cases hTarget
    exact ⟨rfl, hConnector⟩
  · rintro ⟨rfl, hConnector⟩
    exact ⟨target.2, hConnector, rfl⟩

/-- What is tested are the credentials that were sent. -/
theorem credentialsUnderTest_eq_ok (uuid : String) {target : DataConnectionResource × Provider × StringMap String}
    (hTenant : QueryContext.tenantId metadata = .ok tenantId)
    (hType : service.getDataConnectionType tenantId dctId = .ok dataConnectionType)
    (hSchema : dataConnectionType.resource.checkCredentialsSchema credentials = .ok ()) :
    service.credentialsUnderTest metadata (credentialsBody dctId credentials) uuid = .ok target ↔
      ∃ provider, service.getConnector dataConnectionType.resource.provider = .ok provider ∧
        (unsavedConnection uuid tenantId dctId, provider,
          secretEntries ((collect (credentialsRows dctId credentials)).erase dataConnectionTypeIdKey)) =
          target := by
  have hSent : dataConnectionType.resource.checkCredentialsSchema (secretEntries
      ((collect (credentialsRows dctId credentials)).erase dataConnectionTypeIdKey)) = .ok () :=
    (checkCredentialsSchema_congr (lookup_sent dctId) _).trans hSchema
  have hDecoded : decodeCredentials (credentialsBody dctId credentials) = .ok (dctId, secretEntries
      ((collect (credentialsRows dctId credentials)).erase dataConnectionTypeIdKey)) := by
    rw [decodeCredentials, parseKvBody_credentialsBody]
    dsimp only [bind, Except.bind]
    rw [lookup_typeId]
    rfl
  unfold DataIngestionService.credentialsUnderTest
  simp only [bind_eq_ok, hTenant, hDecoded, mapErr_eq_ok]
  constructor
  · rintro ⟨_, hT, _, hSent, ⟨type, connector⟩, hConnector, _, -, hTarget⟩
    cases hT
    cases hSent
    exact ⟨connector, ((getConnectorByTypeId_eq_ok hType).mp hConnector).2, Except.ok.inj hTarget⟩
  · rintro ⟨provider, hProvider, rfl⟩
    exact ⟨tenantId, rfl, _, rfl, (dataConnectionType, provider),
      (getConnectorByTypeId_eq_ok hType).mpr ⟨rfl, hProvider⟩, (), hSent, rfl⟩

/-- Credentials that pass the schema are accepted exactly when a client can be
made from them. -/
theorem actionCheckCredentials_iff {uuid : String} (hTenant : QueryContext.tenantId metadata = .ok tenantId)
    (hType : service.getDataConnectionType tenantId dctId = .ok dataConnectionType)
    (hSchema : dataConnectionType.resource.checkCredentialsSchema credentials = .ok ())
    (hFresh : ∀ provider, cache provider uuid = none) :
    (service.actionCheckCredentials metadata (credentialsBody dctId credentials) uuid cache).1 = .ok () ↔
      ∃ provider client, service.getConnector dataConnectionType.resource.provider = .ok provider ∧
        provider.newClient service.drivers service.source credentials = .ok client := by
  unfold DataIngestionService.actionCheckCredentials
  cases hUnderTest : service.credentialsUnderTest metadata (credentialsBody dctId credentials) uuid with
  | error status =>
    refine iff_of_false nofun ?_
    rintro ⟨provider, client, hProvider, -⟩
    have hOk := (credentialsUnderTest_eq_ok uuid hTenant hType hSchema).mpr ⟨provider, hProvider, rfl⟩
    rw [hUnderTest] at hOk
    cases hOk
  | ok target =>
    obtain ⟨provider, hProvider, rfl⟩ :=
      (credentialsUnderTest_eq_ok uuid hTenant hType hSchema).mp hUnderTest
    have hMiss : cache provider (unsavedConnection uuid tenantId dctId).metadata.id = none := hFresh provider
    simp only [mapErr_eq_ok, getReader_miss hMiss, map_eq_ok, and_true]
    change (∃ client, provider.newClient service.drivers service.source _ = .ok client) ↔ _
    rw [newClient_congr (lookup_sent dctId)]
    constructor
    · rintro ⟨client, hClient⟩
      exact ⟨provider, client, hProvider, hClient⟩
    · rintro ⟨other, client, hOther, hClient⟩
      rw [hProvider] at hOther
      cases hOther
      exact ⟨client, hClient⟩

/-- A saved connection leads to the connector of its type. -/
theorem getConnectorByConnectionId_eq_ok {connection : DataConnectionResource}
    {target : DataConnectionResource × Provider}
    (hConnection : service.getDataConnection tenantId connectionId = .ok connection)
    (hType : service.getDataConnectionType tenantId connection.resource.dataConnectionTypeId = .ok dataConnectionType) :
    service.getConnectorByConnectionId tenantId connectionId = .ok target ↔ target.1 = connection ∧
        service.getConnector dataConnectionType.resource.provider = .ok target.2 := by
  rw [DataIngestionService.getConnectorByConnectionId, hConnection]
  change (do
    let (_, connector) ← service.getConnectorByTypeId tenantId connection.resource.dataConnectionTypeId
    return (connection, connector)) = _ ↔ _
  simp only [bind_eq_ok, getConnectorByTypeId_eq_ok hType]
  constructor
  · rintro ⟨⟨_, connector⟩, ⟨-, hConnector⟩, hTarget⟩
    cases hTarget
    exact ⟨rfl, hConnector⟩
  · rintro ⟨rfl, hConnector⟩
    exact ⟨(dataConnectionType, target.2), ⟨rfl, hConnector⟩, rfl⟩

theorem resolve_eq_ok {connection : DataConnectionResource} (hOwner : connection.metadata.tenantId = some tenantId)
    (hSecret : service.getSecret tenantId connection.resource.credentialsRef.secret = .ok secret) :
    service.resolve connection = .ok secret.properties := by
  rw [DataIngestionService.resolve, hOwner]
  change (do
    let secret ← mapErr _ (service.getSecret tenantId connection.resource.credentialsRef.secret)
    return secret.properties) = _
  rw [hSecret]
  rfl

/-- A request for a saved connection gets the client that is kept for it, or
one made from what its credentials resolve to; otherwise it fails and nothing
new is kept. -/
theorem openReader_cases (service : DataIngestionService) (tenantId connectionId : String) (cache : ClientCache) :
    (∃ status, service.openReader tenantId connectionId cache = (.error status, cache)) ∨
    ∃ connection provider client, service.getDataConnection tenantId connectionId = .ok connection ∧
      (service.openReader tenantId connectionId cache).1 = .ok (connection, provider, client) ∧
      ((cache provider connection.metadata.id = some client ∧
          (service.openReader tenantId connectionId cache).2 = cache) ∨
        ∃ credentials, service.resolve connection = .ok credentials ∧
          provider.configure service.drivers credentials = .ok client ∧
          (service.openReader tenantId connectionId cache).2 =
            cache.insert provider connection.metadata.id client) := by
  unfold DataIngestionService.openReader
  cases hTarget : service.getConnectorByConnectionId tenantId connectionId with
  | error status => exact .inl ⟨status, rfl⟩
  | ok target =>
    obtain ⟨connection, provider⟩ := target
    obtain ⟨found, hConnection, hRest⟩ := bind_eq_ok.mp hTarget
    obtain ⟨⟨_, connector⟩, -, hSame⟩ := bind_eq_ok.mp hRest
    cases hSame
    have hFound := mapErr_eq_ok.mp hConnection
    rcases getReader_cases service.drivers service.source provider connection service.resolve cache with
      ⟨client, hCached, hReader⟩ | ⟨credentials, client, hResolved, hClient, hReader⟩ | ⟨error, hReader⟩
    · simp only [hReader]
      exact .inr ⟨connection, provider, client, hFound, rfl, .inl ⟨hCached, trivial⟩⟩
    · simp only [hReader]
      exact .inr ⟨connection, provider, client, hFound, rfl, .inr ⟨credentials, hResolved, hClient, rfl⟩⟩
    · simp only [hReader]
      exact .inl ⟨mapConnectorError error, rfl⟩

/-- A saved connection whose client is not kept is accepted exactly when a
client can be made from its secret and the data source accepts its check. -/
theorem actionCheckConnection_iff {connection : DataConnectionResource}
    (hTenant : QueryContext.tenantId metadata = .ok tenantId)
    (hId : QueryContext.connectionId metadata = .ok connectionId)
    (hConnection : service.getDataConnection tenantId connectionId = .ok connection)
    (hType : service.getDataConnectionType tenantId connection.resource.dataConnectionTypeId =
      .ok dataConnectionType) (hOwner : connection.metadata.tenantId = some tenantId)
    (hSecret : service.getSecret tenantId connection.resource.credentialsRef.secret = .ok secret)
    (hMiss : ∀ provider, cache provider connection.metadata.id = none) :
    (service.actionCheckConnection metadata cache).1 = .ok () ↔
      ∃ provider client, service.getConnector dataConnectionType.resource.provider = .ok provider ∧
        provider.newClient service.drivers service.source secret.properties = .ok client ∧
        client.checkConnection service.drivers service.source = .ok () := by
  unfold DataIngestionService.actionCheckConnection
  rw [hTenant, hId]
  change (service.checkConnection tenantId connectionId cache).1.map (fun _ => ()) = .ok () ↔ _
  unfold DataIngestionService.checkConnection DataIngestionService.openReader
  cases hTarget : service.getConnectorByConnectionId tenantId connectionId with
  | error status =>
    refine iff_of_false nofun ?_
    rintro ⟨provider, client, hProvider, -⟩
    have hOk : service.getConnectorByConnectionId tenantId connectionId = .ok (connection, provider) :=
      (getConnectorByConnectionId_eq_ok hConnection hType).mpr ⟨rfl, hProvider⟩
    rw [hTarget] at hOk
    cases hOk
  | ok target =>
    obtain ⟨found, provider⟩ := target
    obtain ⟨hFound, hProvider⟩ := (getConnectorByConnectionId_eq_ok hConnection hType).mp hTarget
    cases hFound
    simp only [bind_eq_ok, mapErr_eq_ok, map_eq_ok, getReader_miss (hMiss provider),
      resolve_eq_ok hOwner hSecret, Except.ok.injEq, exists_eq_left', and_true]
    constructor
    · rintro ⟨_, _, ⟨client, hClient, rfl⟩, _, hCheck, -⟩
      exact ⟨provider, client, hProvider, hClient, hCheck⟩
    · rintro ⟨other, client, hOther, hClient, hCheck⟩
      rw [hProvider] at hOther
      cases hOther
      exact ⟨_, _, ⟨client, hClient, rfl⟩, _, hCheck, rfl⟩

/-- For every type, connector, credentials and data source: testing the
credentials and checking a saved connection with the same credentials agree
exactly when the source accepts the check of the client, if one can be made. -/
theorem checks_agree_iff (service : DataIngestionService) (tenantId dctId connectionId uuid : String)
    (testMetadata metadata : HeaderMap) (dataConnectionType : DataConnectionTypeResource)
    (connection : DataConnectionResource) (secret : Rest.Secret) (cache : ClientCache)
    (hTestTenant : QueryContext.tenantId testMetadata = .ok tenantId)
    (hTenant : QueryContext.tenantId metadata = .ok tenantId)
    (hId : QueryContext.connectionId metadata = .ok connectionId)
    (hConnection : service.getDataConnection tenantId connectionId = .ok connection)
    (hTypeId : connection.resource.dataConnectionTypeId = dctId)
    (hOwner : connection.metadata.tenantId = some tenantId)
    (hType : service.getDataConnectionType tenantId dctId = .ok dataConnectionType)
    (hSecret : service.getSecret tenantId connection.resource.credentialsRef.secret = .ok secret)
    (hSchema : dataConnectionType.resource.checkCredentialsSchema secret.properties = .ok ())
    (hFresh : ∀ provider, cache provider uuid = none) :
    ((service.actionCheckCredentials testMetadata (credentialsBody dctId secret.properties) uuid cache).1 = .ok () ↔
      (service.actionCheckConnection metadata .empty).1 = .ok ()) ↔
    ∀ provider client, service.getConnector dataConnectionType.resource.provider = .ok provider →
      provider.newClient service.drivers service.source secret.properties = .ok client →
      client.checkConnection service.drivers service.source = .ok () := by
  subst hTypeId
  rw [actionCheckCredentials_iff hTestTenant hType hSchema hFresh,
    actionCheckConnection_iff hTenant hId hConnection hType hOwner hSecret fun _ => rfl]
  constructor
  · intro hAgree provider client hProvider hClient
    obtain ⟨other, made, hOther, hMade, hCheck⟩ := hAgree.mp ⟨provider, client, hProvider, hClient⟩
    rw [hProvider] at hOther
    cases hOther
    rw [hClient] at hMade
    cases hMade
    exact hCheck
  · intro hAccepts
    constructor
    · rintro ⟨provider, client, hProvider, hClient⟩
      exact ⟨provider, client, hProvider, hClient, hAccepts provider client hProvider hClient⟩
    · rintro ⟨provider, client, hProvider, hClient, -⟩
      exact ⟨provider, client, hProvider, hClient⟩

end Verdicts

section Samples

/-- Libraries that accept every text; a path is joined to the base as it is. -/
def sampleDrivers : Drivers :=
  { pgConnectOptions := fun _ => .ok (), s3Operator := fun _ => .ok (), pemBundle := fun _ => .ok 1,
    tlsClient := fun _ => .ok (), parseUrl := fun text => .ok ⟨text, "/", none, none⟩,
    setPath := fun url path => { url with path := path },
    join := fun url path => .ok { url with path := url.path ++ path }, certificate := fun _ => .ok (),
    httpClient := fun _ => .ok () }

/-- A data source that answers every HTTP request with this status. -/
def sampleSource (status : Nat) : DataSource :=
  { connect := fun _ => .ok (), select1 := fun _ => .ok (), check := fun _ => .ok (),
    send := fun _ => .ok status }

def uriType : DataConnectionTypeResource :=
  { metadata := ⟨"type-1", some "tenant-1", "2026-01-01", "2026-01-01"⟩
    resource :=
      { name := "files", label := none, provider := "uri", description := none, credentialsFields := [],
        tags := none }
    status := ⟨[], true, none, none, none⟩ }

def uriConnection : DataConnectionResource :=
  { metadata := ⟨"connection-1", some "tenant-1", "2026-01-01", "2026-01-01"⟩
    resource :=
      { name := "files", dataConnectionTypeId := "type-1", format := .binary,
        credentialsRef := ⟨"files-secret"⟩, properties := ∅ }
    status := .default }

def uriSecret : Rest.Secret :=
  ⟨"files-secret", "tenant-1", collect [("URI", "https://files"), ("TOKEN", "wrong")], none, none⟩

def sampleService (status : Nat) : DataIngestionService :=
  { connectorsRegistry := [.postgres, .s3, .uri]
    getDataConnection := fun _ _ => .ok uriConnection
    getDataConnectionType := fun _ _ => .ok uriType
    getSecret := fun _ _ => .ok uriSecret
    drivers := sampleDrivers
    source := sampleSource status }

def sampleMetadata : HeaderMap :=
  [(xTenantId, asciiValue "tenant-1"), (xDataConnectionId, asciiValue "connection-1")]

/-- The server answers 401: the credentials pass their test, the connection
with the same credentials does not pass its check. -/
theorem rejected_credentials_pass : ((sampleService 401).actionCheckCredentials sampleMetadata
        (credentialsBody "type-1" uriSecret.properties) "uuid-1" .empty).1 = .ok () ∧
      ((sampleService 401).actionCheckConnection sampleMetadata .empty).1 =
        .error ⟨.unavailable, "data source connection failed: Authentication failed (HTTP 401 Unauthorized)"⟩ := by
  decide +kernel

/-- The server answers 200. -/
theorem checks_agree_accepting : ((sampleService 200).actionCheckCredentials sampleMetadata
        (credentialsBody "type-1" uriSecret.properties) "uuid-1" .empty).1 = .ok () ↔
      ((sampleService 200).actionCheckConnection sampleMetadata .empty).1 = .ok () := by
  refine (checks_agree_iff (sampleService 200) "tenant-1" "type-1" "connection-1" "uuid-1" sampleMetadata
    sampleMetadata uriType uriConnection uriSecret .empty (by decide +kernel) (by decide +kernel)
    (by decide +kernel) rfl rfl rfl rfl rfl (by decide +kernel) (fun _ => rfl)).mpr ?_
  intro provider client hProvider hClient
  cases provider with
  | postgres | s3 => exact absurd hProvider (by decide +kernel)
  | uri =>
    cases hClient
    decide +kernel

end Samples

end DataConnectHub.Flight
