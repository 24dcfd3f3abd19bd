import DataConnectHub.Flight.CredentialCodec

/-! How the REST service learns what a Flight service can do. The service
answers with one record batch: for each of its connectors a name, a description
and the formats, joined by commas into one string. The client takes the batch out
of the octets of an Arrow stream and splits that string again. -/
namespace DataConnectHub.Flight

open Serde Http.Grpc RustStd

/-- What a connector says about itself. -/
structure FlightConnector where
  provider : String
  description : String
  supportedFormats : List DataFormat
  deriving DecidableEq

/-- The connectors of a service by the names of their providers. The entries
stand in the order in which the map gives its values, which can be any. -/
structure ConnectorsRegistry where
  connectors : StringMap FlightConnector
  keyed : ∀ entry ∈ connectors.entries, entry.2.provider = entry.1

namespace ConnectorsRegistry

def new : ConnectorsRegistry where
  connectors := ∅
  keyed := by simp

/-- A connector takes the place of an earlier one of the same provider. -/
def withConnector (registry : ConnectorsRegistry) (connector : FlightConnector) : ConnectorsRegistry where
  connectors := registry.connectors.insert connector.provider connector
  keyed := by
    intro entry hEntry
    rw [AList.entries_insert] at hEntry
    rcases List.mem_cons.mp hEntry with rfl | hOld
    · rfl
    · exact registry.keyed entry ((List.kerase_sublist ..).subset hOld)

def getSupportedConnectors (registry : ConnectorsRegistry) : List FlightConnector :=
  registry.connectors.entries.map Sigma.snd

theorem providers_eq (registry : ConnectorsRegistry) :
    registry.getSupportedConnectors.map FlightConnector.provider = registry.connectors.keys := by
  rw [getSupportedConnectors, List.map_map]
  exact List.map_congr_left registry.keyed

theorem providers_nodup (registry : ConnectorsRegistry) :
    (registry.getSupportedConnectors.map FlightConnector.provider).Nodup := by
  rw [providers_eq]
  exact registry.connectors.keys_nodup

end ConnectorsRegistry

/-- The connectors of the default build, in the order of
`build_connectors_registry`. Only two override the default of the trait, which
is the tabular format alone. -/
def defaultConnectors : List FlightConnector :=
  [⟨"postgres", "PostgreSQL connector", [.tabular]⟩, ⟨"sqlite", "SQLite connector", [.tabular]⟩,
    ⟨"s3", "Amazon compatible S3 connector", [.tabular, .binary]⟩,
    ⟨"milvus", "Milvus vector database connector", [.tabular]⟩,
    ⟨"elasticsearch", "Elasticsearch connector", [.tabular]⟩,
    ⟨"neo4j", "Neo4j graph database connector", [.tabular]⟩,
    ⟨"uri", "URI connector", [.tabular, .binary]⟩]

def buildConnectorsRegistry (enabled : String → Bool) : ConnectorsRegistry :=
  (defaultConnectors.filter fun connector => enabled connector.provider).foldl ConnectorsRegistry.withConnector .new

def joinFormats (formats : List DataFormat) : String :=
  ",".intercalate (formats.map DataFormat.display)

/-- The body of the answer to the action `GetSupportedConnectors`. -/
def actionGetSupportedConnectors (ipc : ArrowIpc) (registry : ConnectorsRegistry) : Except Status (List UInt8) := do
  let connectors := registry.getSupportedConnectors
  let names := connectors.map FlightConnector.provider
  let descriptions := connectors.map FlightConnector.description
  let formats := connectors.map fun connector => joinFormats connector.supportedFormats
  let batch ← mapErr (fun _ => ⟨.internal, "failed to build response"⟩)
    (RecordBatch.tryFromIter [("name", names), ("description", descriptions), ("supported_formats", formats)])
  let writer ← mapErr (fun _ => ⟨.internal, "failed to encode response"⟩) (ipc.tryNew batch.schema)
  let writer ← mapErr (fun _ => ⟨.internal, "failed to encode response"⟩) (ipc.write writer batch)
  mapErr (fun _ => ⟨.internal, "failed to encode response"⟩) (ipc.finish writer)

/-- What `concat_batches` makes of the batches of an answer. -/
abbrev ConcatBatches := List RecordBatch → Except String RecordBatch

namespace FlightClient

/-- Code of the client, which returns a status or a value; no outcome stands for
a panic. -/
abbrev ClientM := ExceptT Status Option

def columnByName (batch : RecordBatch) (name : String) : Option Column :=
  (batch.find? fun column => column.1 == name).map Prod.snd

/-- `as_string`, which panics at a column of another type. -/
def asString : Column → ClientM (List String)
  | .utf8 values => pure values
  | .other => ExceptT.mk none

/-- `value`, which panics outside of the array. -/
def valueAt (values : List String) (index : Nat) : ClientM String :=
  ExceptT.mk ((values[index]?).map .ok)

def splitFormats (text : String) : List String :=
  ((text.toList.splitOn ',').map String.ofList).filter fun part => !part.isEmpty

/-- The formats in one row; a service without that column has none to tell. -/
def formatsAt (formats : Option Column) (index : Nat) : ClientM (List String) :=
  match formats with
  | some column => do
      let values ← asString column
      return splitFormats (← valueAt values index)
  | none => return []

def connectorAt (names descriptions : List String) (formats : Option Column) (index : Nat) :
    ClientM Rest.SupportedConnector := do
  let name ← valueAt names index
  let _ ← valueAt descriptions index
  return ⟨name, ← formatsAt formats index⟩

/-- The batch in the first message of the answer, if there is one. -/
def answeredBatch (ipc : ArrowIpc) (concatBatches : ConcatBatches) (message : Option (List UInt8)) :
    Except Status RecordBatch := do
  let body ← okOr ⟨.internal, "empty response from GetSupportedConnectors"⟩ message
  let reader ← mapErr (fun error => ⟨.internal, s!"failed to read IPC stream: {error}"⟩) (ipc.read body)
  let batches ← mapErr (fun error => ⟨.internal, s!"failed to read IPC batches: {error}"⟩) (reader.mapM id)
  if batches.isEmpty then .error ⟨.internal, "no batches returned from GetSupportedConnectors"⟩
  else mapErr (fun error => ⟨.internal, s!"failed to concat batches: {error}"⟩) (concatBatches batches)

/-- The columns of a batch have one length, so the rows are counted by the
names. -/
def connectorsIn (batch : RecordBatch) : ClientM (List Rest.SupportedConnector) := do
  let names ← asString (← MonadExcept.ofExcept (okOr ⟨.internal, "missing 'name' column"⟩ (columnByName batch "name")))
  let descriptions ← asString (← MonadExcept.ofExcept
    (okOr ⟨.internal, "missing 'description' column"⟩ (columnByName batch "description")))
  let formats := columnByName batch "supported_formats"
  (List.range names.length).mapM (connectorAt names descriptions formats)

def getSupportedConnectors (ipc : ArrowIpc) (concatBatches : ConcatBatches) (message : Option (List UInt8)) :
    ClientM (List Rest.SupportedConnector) := do
  connectorsIn (← MonadExcept.ofExcept (answeredBatch ipc concatBatches message))

end FlightClient

section Formats

theorem display_plain (format : DataFormat) : ',' ∉ format.display.toList ∧ format.display ≠ "" := by
  cases format <;> decide

/-- No format has a comma in its name and none is empty, so the list comes back
as it was, the empty one included. -/
theorem splitFormats_joinFormats (formats : List DataFormat) :
    FlightClient.splitFormats (joinFormats formats) = formats.map DataFormat.display := by
  unfold FlightClient.splitFormats joinFormats
  cases formats with
  | nil => decide
  | cons format formats =>
    have hParts : ∀ part ∈ ((format :: formats).map DataFormat.display).map String.toList, ',' ∉ part := by
      intro part hPart
      rw [List.map_map] at hPart
      obtain ⟨member, -, rfl⟩ := List.mem_map.mp hPart
      exact (display_plain member).1
    rw [String.toList_intercalate]
    change List.filter _ (((([',']).intercalate _).splitOn ',').map _) = _
    rw [List.splitOn_intercalate ',' hParts (by simp)]
    simp only [List.map_map, Function.comp_def, String.ofList_toList]
    refine List.filter_eq_self.mpr fun text hText => ?_
    obtain ⟨member, -, rfl⟩ := List.mem_map.mp hText
    simpa using (display_plain member).2

end Formats

section RoundTrip

/-- Every batch of strings that can be built comes back as it was written. -/
def ArrowIpc.KeepsStrings (ipc : ArrowIpc) : Prop :=
  ∀ columns batch, RecordBatch.tryFromIter columns = .ok batch → ∃ body, (do
        let writer ← ipc.tryNew batch.schema
        let writer ← ipc.write writer batch
        ipc.finish writer) = .ok body ∧
      ipc.read body = .ok [.ok batch]

/-- What the REST service should learn from a service with this registry. -/
def ConnectorsRegistry.reported (registry : ConnectorsRegistry) : List Rest.SupportedConnector :=
  registry.getSupportedConnectors.map fun connector =>
    ⟨connector.provider, connector.supportedFormats.map DataFormat.display⟩

variable {ipc : ArrowIpc} {concatBatches : ConcatBatches}

/-- A loop over the rows gives what stands in them. -/
theorem mapM_range {Item : Type} {items : List Item} {row : Nat → FlightClient.ClientM Item}
    (h : ∀ index item, items[index]? = some item → row index = pure item) :
    (List.range items.length).mapM row = pure items := by
  induction items using List.reverseRecOn with
  | nil => rfl
  | append_singleton items item ih =>
    have hItems : (List.range items.length).mapM row = pure items := by
      refine ih fun index found hFound => h index found ?_
      rwa [List.getElem?_append_left (List.getElem?_eq_some_iff.mp hFound).1]
    have hLast : row items.length = pure item := h _ _ (by simp)
    rw [List.length_append, List.length_singleton, List.range_succ, List.mapM_append, hItems]
    simp [hLast]

theorem connectorAt_columns {connectors : List FlightConnector} {index : Nat} {connector : FlightConnector}
    (h : connectors[index]? = some connector) :
    FlightClient.connectorAt (connectors.map FlightConnector.provider) (connectors.map FlightConnector.description)
      (some (.utf8 (connectors.map fun connector => joinFormats connector.supportedFormats))) index =
      pure ⟨connector.provider, connector.supportedFormats.map DataFormat.display⟩ := by
  have hValue (column : FlightConnector → String) :
      FlightClient.valueAt (connectors.map column) index = pure (column connector) := by
    rw [FlightClient.valueAt, List.getElem?_map, h]
    rfl
  simp [FlightClient.connectorAt, FlightClient.formatsAt, FlightClient.asString, hValue, splitFormats_joinFormats]

/-- The batch of the answer. -/
def ConnectorsRegistry.batch (registry : ConnectorsRegistry) : RecordBatch :=
  let connectors := registry.getSupportedConnectors
  [("name", .utf8 (connectors.map FlightConnector.provider)),
    ("description", .utf8 (connectors.map FlightConnector.description)),
    ("supported_formats", .utf8 (connectors.map fun connector => joinFormats connector.supportedFormats))]

theorem connectorsIn_batch (registry : ConnectorsRegistry) :
    FlightClient.connectorsIn registry.batch = pure registry.reported := by
  have hLength : (registry.getSupportedConnectors.map FlightConnector.provider).length = registry.reported.length := by
    simp [ConnectorsRegistry.reported]
  change (List.range (registry.getSupportedConnectors.map FlightConnector.provider).length).mapM _ = _
  rw [hLength]
  refine mapM_range fun index reported hReported => ?_
  rw [ConnectorsRegistry.reported, List.getElem?_map] at hReported
  obtain ⟨connector, hConnector, rfl⟩ := Option.map_eq_some_iff.mp hReported
  exact connectorAt_columns hConnector

theorem answeredBatch_single {body : List UInt8} {batch : RecordBatch} (hRead : ipc.read body = .ok [.ok batch])
    (hConcat : ∀ batch, concatBatches [batch] = .ok batch) :
    FlightClient.answeredBatch ipc concatBatches (some body) = .ok batch := by
  refine bind_eq_ok.mpr ⟨body, rfl, bind_eq_ok.mpr ⟨[.ok batch], mapErr_eq_ok.mpr hRead, ?_⟩⟩
  exact bind_eq_ok.mpr ⟨[batch], rfl, mapErr_eq_ok.mpr (hConcat batch)⟩

/-- The answer of the action, read by the client, is what the registry has. -/
theorem discovery_roundtrip (hIpc : ipc.KeepsStrings) (hConcat : ∀ batch, concatBatches [batch] = .ok batch)
    (registry : ConnectorsRegistry) :
    ∃ body, actionGetSupportedConnectors ipc registry = .ok body ∧
      FlightClient.getSupportedConnectors ipc concatBatches (some body) = pure registry.reported := by
  have hBatch : RecordBatch.tryFromIter [("name", registry.getSupportedConnectors.map FlightConnector.provider),
        ("description", registry.getSupportedConnectors.map FlightConnector.description),
        ("supported_formats",
          registry.getSupportedConnectors.map fun connector => joinFormats connector.supportedFormats)] =
      .ok registry.batch := by
    simp [RecordBatch.tryFromIter, ConnectorsRegistry.batch]
  obtain ⟨body, hWritten, hRead⟩ := hIpc _ _ hBatch
  obtain ⟨opened, hOpened, hWritten⟩ := bind_eq_ok.mp hWritten
  obtain ⟨written, hWrite, hFinished⟩ := bind_eq_ok.mp hWritten
  refine ⟨body, ?_, ?_⟩
  · refine bind_eq_ok.mpr ⟨registry.batch, mapErr_eq_ok.mpr hBatch, ?_⟩
    refine bind_eq_ok.mpr ⟨opened, mapErr_eq_ok.mpr hOpened, ?_⟩
    exact bind_eq_ok.mpr ⟨written, mapErr_eq_ok.mpr hWrite, mapErr_eq_ok.mpr hFinished⟩
  · unfold FlightClient.getSupportedConnectors
    rw [answeredBatch_single hRead hConcat]
    exact connectorsIn_batch registry

end RoundTrip

theorem tryFromIter_eq_ok {columns : List (String × List String)} {batch : RecordBatch}
    (h : RecordBatch.tryFromIter columns = .ok batch) :
    batch = columns.map fun column => (column.1, .utf8 column.2) := by
  cases columns with
  | nil => cases h
  | cons column columns =>
    rw [RecordBatch.tryFromIter] at h
    split at h
    · exact (Except.ok.inj h).symm
    · cases h

theorem textStream_keepsStrings : textStream.KeepsStrings := by
  intro columns batch hBatch
  rw [tryFromIter_eq_ok hBatch]
  let names := columns.map Prod.fst
  let values := columns.map Prod.snd
  have hTexts := getList_putList getText_putText
  have hValues := getList_putList (getList_putList hTexts) [values] []
  rw [List.append_nil] at hValues
  refine ⟨putList putText names ++ putList (putList (putList putText)) [values], ?_, ?_⟩
  · have hSchema : RecordBatch.schema (columns.map fun column => (column.1, .utf8 column.2)) = names := by
      simp [RecordBatch.schema, names]
    have hColumns : (columns.mapM fun column => some column.2) = some values := List.mapM_pure
    rw [hSchema]
    refine bind_eq_ok.mpr ⟨(names, []), rfl, bind_eq_ok.mpr ⟨(names, [values]), ?_, rfl⟩⟩
    simp only [textStream, List.mapM_map, Function.comp_def, hColumns, List.nil_append]
  · have hZip : names.zip (values.map Column.utf8) = columns.map fun column => (column.1, .utf8 column.2) := by
      simp [names, values, List.zip_map']
    simp [textStream, hTexts, hValues, hZip]

end DataConnectHub.Flight
