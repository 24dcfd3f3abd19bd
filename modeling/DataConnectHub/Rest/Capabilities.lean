import DataConnectHub.Flight.Discovery
import DataConnectHub.MetaStore.TypeReads
import DataConnectHub.Rest.FailedRequests

/-! What a connector can do, on its way from the registry of a Flight service to
the status of the connection types. The REST service asks a new service for its
connectors, stores the formats of each of them as strings under its name, and the
audit at the end of the request reads the strings as formats again. -/
namespace DataConnectHub.Rest

open RowStore Interaction Program Transaction Flight List

section Statuses

variable {registry : ConnectorsRegistry} {provider : String} {connector : FlightConnector}

theorem lookup_capabilities (flight : FlightService) (registry : ConnectorsRegistry) {formats : List String} :
    (withConnectors flight registry.reported).connectorCapabilities.lookup provider = some formats ↔
      ∃ connector ∈ registry.getSupportedConnectors, connector.provider = provider ∧
        connector.supportedFormats.map DataFormat.display = formats := by
  have hCollect : (withConnectors flight registry.reported).connectorCapabilities =
      collect (registry.reported.map fun connector => (connector.name, connector.supportedFormats)) := by
    rw [collect, foldl_map]
    rfl
  have hNames : ((registry.reported.map fun connector =>
      (connector.name, connector.supportedFormats)).map Prod.fst).Nodup := by
    simpa [ConnectorsRegistry.reported, Function.comp_def] using registry.providers_nodup
  rw [hCollect, lookup_collect hNames]
  simp [ConnectorsRegistry.reported]

theorem mem_connectors (flight : FlightService) (registry : ConnectorsRegistry) :
    provider ∈ (withConnectors flight registry.reported).supportedConnectors ↔
      ∃ connector ∈ registry.getSupportedConnectors, connector.provider = provider := by
  simp [withConnectors, ConnectorsRegistry.reported]

/-- Every format is read back from its name, so none is left out. -/
theorem filterMap_display (formats : List DataFormat) :
    formats.filterMap (fun format => (DataFormat.fromString format.display).toOption) = formats := by
  simp [DataFormat.fromString_display, Except.toOption]

variable {flight : FlightService} {id now clock : String}

/-- The status of a type when the only service has its connector. -/
theorem typeStatus_of_mem (hConnector : connector ∈ registry.getSupportedConnectors) :
    (typeStatus [newService (withConnectors flight registry.reported) id now] connector.provider
      clock).supportedFormats = connector.supportedFormats := by
  have hMem := (mem_connectors flight registry).mpr ⟨connector, hConnector, rfl⟩
  have hLookup := (lookup_capabilities flight registry).mpr ⟨connector, hConnector, rfl, rfl⟩
  simp [typeStatus, newService, hMem, hLookup, filterMap_display]

theorem typeStatus_of_not_mem (h : ∀ connector ∈ registry.getSupportedConnectors, connector.provider ≠ provider) :
    (typeStatus [newService (withConnectors flight registry.reported) id now] provider
      clock).supportedFormats = [] := by
  have hMem : provider ∉ (withConnectors flight registry.reported).supportedConnectors := by
    rw [mem_connectors]
    rintro ⟨connector, hConnector, hProvider⟩
    exact h connector hConnector hProvider
  simp [typeStatus, newService, hMem]

end Statuses

section Audit

variable {globalTenantId : String} {store : Tables} {outcomes : Nat → Outcome} {operation : StoreCall}
  {next : (ApiCall.store operation).Response → RequestProgram}

/-- A writing call that has succeeded had its effect. -/
theorem StoreCall.effect_of_run {call : MetaCall} {stamp : Stamp} {faults : Nat → Option Failure}
    {value : operation.Value} {after : Tables} (hWriting : operation.writing stamp = some call)
    (hStore : WellFormed store) (hRun : operation.run globalTenantId stamp faults store = (.ok value, after)) :
    call.Effect globalTenantId (rows store) (operation.answer value) (rows after) := by
  rcases StoreCall.run_cases_of_writing hWriting hStore with ⟨found, hFound, hEffect⟩ | ⟨⟨error, hError⟩, -⟩
  · rw [hRun] at hFound hEffect
    cases hFound
    exact hEffect
  · rw [hRun] at hError
    cases hError

theorem conduct_answer {issued : ApiCall} {next : issued.Response → RequestProgram} {answer : issued.Response}
    {after : Tables} (h : ¬(conduct globalTenantId outcomes (.call issued next) store).Failed)
    (hServed : (outcomes 0).serve globalTenantId store issued = (answer, after)) :
    let rest := conduct globalTenantId (fun n => outcomes (n + 1)) (next answer) after
    ¬rest.Failed ∧ (conduct globalTenantId outcomes (.call issued next) store).store = rest.store := by
  rw [conduct_call hServed] at h ⊢
  exact ⟨h, rfl⟩

/-- A request that has not failed went on from the answer of its store call. -/
theorem conduct_store_succeeds (hStore : WellFormed store)
    (hFails : ∀ error, ∃ response, next (.error error) = .done (.error response))
    (h : ¬(conduct globalTenantId outcomes (.call (.store operation) next) store).Failed) :
    ∃ value after, operation.run globalTenantId (outcomes 0).choice.stamp (outcomes 0).choice.faults store =
        (.ok value, after) ∧ WellFormed after ∧
      (let rest := conduct globalTenantId (fun n => outcomes (n + 1)) (next (.ok value)) after
      ¬rest.Failed ∧ (conduct globalTenantId outcomes (.call (.store operation) next) store).store = rest.store) := by
  have hAfter := operation.run_wellFormed globalTenantId (outcomes 0).choice.stamp (outcomes 0).choice.faults hStore
  have hError (error : MetaStoreError) (after : Tables) :
      (outcomes 0).serve globalTenantId store (.store operation) ≠ (.error error, after) := by
    intro hServed
    obtain ⟨response, hDone⟩ := hFails error
    rw [conduct_call hServed, hDone] at h
    exact h rfl
  cases hRefused : (outcomes 0).refused with
  | some error =>
    refine absurd ?_ (hError error store)
    simp [Outcome.serve, hRefused]
  | none =>
    have hServed : (outcomes 0).serve globalTenantId store (.store operation) =
        operation.run globalTenantId (outcomes 0).choice.stamp (outcomes 0).choice.faults store := by
      simp [Outcome.serve, hRefused]
    cases hResult : (operation.run globalTenantId (outcomes 0).choice.stamp (outcomes 0).choice.faults store).1 with
    | error error => exact (hError error _ (hServed.trans (Prod.ext hResult rfl))).elim
    | ok value =>
      exact ⟨value, _, Prod.ext hResult rfl, hAfter, conduct_answer h (hServed.trans (Prod.ext hResult rfl))⟩

theorem conduct_read_succeeds (hReads : ∀ stamp, operation.writing stamp = none) (hStore : WellFormed store)
    (hFails : ∀ error, ∃ response, next (.error error) = .done (.error response))
    (h : ¬(conduct globalTenantId outcomes (.call (.store operation) next) store).Failed) :
    ∃ value, (operation.run globalTenantId (outcomes 0).choice.stamp (outcomes 0).choice.faults store).1 = .ok value ∧
      (let rest := conduct globalTenantId (fun n => outcomes (n + 1)) (next (.ok value)) store
      ¬rest.Failed ∧ (conduct globalTenantId outcomes (.call (.store operation) next) store).store = rest.store) := by
  obtain ⟨value, after, hRun, -, hRest⟩ := conduct_store_succeeds hStore hFails h
  have hAfter : after = store :=
    (congrArg Prod.snd hRun).symm.trans (StoreCall.run_store_of_reading (hReads _))
  subst hAfter
  exact ⟨value, congrArg Prod.fst hRun, hRest⟩

/-- A row after an update of statuses is another old row, or the one that was
updated, which keeps its id and its resource. -/
theorem row_of_statusUpdate {registry changed : Registry} {uid now : String} {status : DataConnectionTypeStatus}
    {answer : MetaAnswer} {row : DataConnectionTypeResource}
    (hEffect : (MetaCall.updateDataConnectionTypeStatus uid (fun _ => .ok status) now).Effect globalTenantId
      registry answer changed)
    (hRow : row ∈ changed .dataConnectionTypes) :
    (row ∈ registry .dataConnectionTypes ∧ row.metadata.id ≠ uid) ∨
      row.status = status ∧ ∃ existing ∈ registry .dataConnectionTypes,
        existing.metadata.id = uid ∧ row.metadata.id = uid ∧ row.resource = existing.resource := by
  cases hEffect with
  | updateDataConnectionTypeStatus hExisting hFinds hChange =>
    cases hChange
    refine (Registry.mem_replace_cases hRow).imp_right fun hNew => ?_
    subst hNew
    exact ⟨rfl, _, hExisting, hFinds.1, hFinds.1, rfl⟩

/-- The types in the list stand for rows of their provider. -/
def Listed (types : List DataConnectionTypeResource) (registry : Registry) : Prop :=
  ∀ type ∈ types, ∀ row ∈ registry .dataConnectionTypes,
    row.metadata.id = type.metadata.id → row.resource.provider = type.resource.provider

/-- After the updates a row has its new status, or it is an old row for which
there was no type in the list. -/
theorem updateTypes_conduct (flights : List FlightServiceResource) (response : HttpResponse)
    {types : List DataConnectionTypeResource} (hStore : WellFormed store) (hListed : Listed types (rows store))
    (h : ¬(conduct globalTenantId outcomes (updateThen flights types response) store).Failed) :
    ∀ row ∈ rows (conduct globalTenantId outcomes (updateThen flights types response) store).store
        .dataConnectionTypes,
      (∃ clock, row.status = typeStatus flights row.resource.provider clock) ∨
        row ∈ rows store .dataConnectionTypes ∧ ∀ type ∈ types, type.metadata.id ≠ row.metadata.id := by
  induction types generalizing store outcomes with
  | nil => exact fun row hRow => .inr ⟨hRow, by simp⟩
  | cons type rest ih =>
    obtain ⟨value, after, hRun, hAfter, hNotFailed, hSame⟩ :=
      conduct_store_succeeds hStore (fun _ => ⟨_, rfl⟩) h
    have hEffect := StoreCall.effect_of_run rfl hStore hRun
    have hRest : Listed rest (rows after) := by
      intro other hOther row hRow hId
      have hOld := hListed other (mem_cons_of_mem _ hOther)
      rcases row_of_statusUpdate hEffect hRow with ⟨hKept, -⟩ | ⟨-, existing, hExisting, hType, hSameId, hResource⟩
      · exact hOld row hKept hId
      · rw [hResource]
        exact hOld existing hExisting (hType.trans (hSameId.symm.trans hId))
    intro row hRow
    rcases ih hAfter hRest hNotFailed row (hSame ▸ hRow) with hDone | ⟨hKept, hNotListed⟩
    · exact .inl hDone
    · rcases row_of_statusUpdate hEffect hKept with ⟨hOld, hOther⟩ | ⟨hStatus, existing, hExisting, hType, -, hResource⟩
      · refine .inr ⟨hOld, fun other hMem => ?_⟩
        rcases mem_cons.mp hMem with rfl | hMem
        · exact hOther.symm
        · exact hNotListed other hMem
      · have hProvider := hListed type mem_cons_self existing hExisting hType
        rw [hResource, hProvider]
        exact .inl ⟨_, hStatus⟩

/-- After an audit that has not failed every type has the status that follows
from the registered services. -/
theorem audit_conduct (response : HttpResponse) (hStore : WellFormed store)
    (h : ¬(conduct globalTenantId outcomes (auditThen response) store).Failed) :
    ∀ row ∈ rows (conduct globalTenantId outcomes (auditThen response) store).store .dataConnectionTypes,
      ∃ clock, row.status = typeStatus (rows store .flightServices) row.resource.provider clock := by
  obtain ⟨flights, hFlights, hAfterFlights, hFlightsStore⟩ :=
    conduct_read_succeeds (fun _ => rfl) hStore (fun _ => ⟨_, rfl⟩) h
  obtain ⟨types, hTypes, hAfterTypes, hTypesStore⟩ :=
    conduct_read_succeeds (fun _ => rfl) hStore (fun _ => ⟨_, rfl⟩) hAfterFlights
  have hItems := StoreCall.items_of_getAllDataConnectionTypes hStore hTypes
  have hListed : Listed types.items (rows store) := by
    rw [hItems]
    rintro type hType row hRow hId
    obtain ⟨known, hKnown, rfl⟩ := mem_map.mp hType
    rw [hideGlobalTenant_id] at hId
    rw [hideGlobalTenant_resource, (sound_rows hStore).eq_of_id hRow hKnown hId]
  intro row hRow
  rw [← StoreCall.items_of_getAllFlightServices hStore hFlights]
  rcases updateTypes_conduct flights.items response hStore hListed hAfterTypes row
    (hTypesStore ▸ hFlightsStore ▸ hRow) with hDone | ⟨hOld, hNotListed⟩
  · exact hDone
  · refine absurd hideGlobalTenant_id (hNotListed (hideGlobalTenant globalTenantId row) ?_)
    rw [hItems]
    exact mem_map_of_mem hOld

end Audit

/-- The reply to the question for the connectors of a service with this registry:
if the call gets through, it is what the client makes of the answer. -/
def RepliesWith (ipc : ArrowIpc) (concatBatches : Flight.ConcatBatches) (registry : ConnectorsRegistry)
    (reply : Except Http.Grpc.Status (List SupportedConnector)) : Prop :=
  ∀ connectors, reply = .ok connectors → ∃ body, actionGetSupportedConnectors ipc registry = .ok body ∧
      FlightClient.getSupportedConnectors ipc concatBatches (some body) = pure connectors

section Registration

variable {ipc : ArrowIpc} {concatBatches : Flight.ConcatBatches}
variable {registry : ConnectorsRegistry} {connectors : List SupportedConnector}

theorem RepliesWith.eq_reported {reply : Except Http.Grpc.Status (List SupportedConnector)}
    (h : RepliesWith ipc concatBatches registry reply) (hIpc : ipc.KeepsStrings)
    (hConcat : ∀ batch, concatBatches [batch] = .ok batch) (hReply : reply = .ok connectors) :
    connectors = registry.reported := by
  obtain ⟨body, hBody, hRead⟩ := h connectors hReply
  obtain ⟨sent, hSent, hReported⟩ := discovery_roundtrip hIpc hConcat registry
  cases hBody.symm.trans hSent
  exact Except.ok.inj (Option.some.inj (hRead.symm.trans hReported))

variable {service : ApiService} {texts : LibraryTexts} {flight : FlightService} {outcomes : Nat → Outcome}
variable {globalTenantId : String} {store : Tables}

theorem effect_createFlightService {registry changed : Registry} {id now : String} {answer : MetaAnswer}
    (h : (MetaCall.createFlightService flight id now).Effect globalTenantId registry answer changed) :
    changed = registry.insert .flightServices (newService flight id now) := by
  cases h
  rfl

/-- The types are the same, with the statuses that follow from this service as
the only one. -/
def Announced (flight : FlightService) (before after : Tables) : Prop :=
  requested (rows after) = requested (rows before) ∧
    ∃ id now, ∀ type ∈ rows after .dataConnectionTypes, ∃ clock,
      type.status = typeStatus [newService flight id now] type.resource.provider clock

/-- The end of `createFlightService`, when no connector is taken. -/
abbrev registering (flight : FlightService) (response : FlightServiceResource → HttpResponse) : RequestProgram :=
  ExceptT.run (do
    let created ← Rest.store (.createFlightService flight) .ofMetaStore
    auditDataConnectionTypes
    return response created)

theorem register_conduct {response : FlightServiceResource → HttpResponse} (hStore : WellFormed store)
    (hAlone : rows store .flightServices = [])
    (h : ¬(conduct globalTenantId outcomes (registering flight response) store).Failed) :
    Announced flight store (conduct globalTenantId outcomes (registering flight response) store).store := by
  obtain ⟨created, after, hRun, hAfter, hCreated, hSame⟩ := conduct_store_succeeds hStore (fun _ => ⟨_, rfl⟩) h
  have hChanged := effect_createFlightService (StoreCall.effect_of_run rfl hStore hRun)
  have hServices : rows after .flightServices =
      [newService flight (outcomes 0).choice.stamp.id (outcomes 0).choice.stamp.now] := by
    rw [hChanged, Registry.insert_self, hAlone, nil_append]
  have hRequested : requested (rows after) = requested (rows store) := by
    rw [requested, hChanged, Registry.insert_other _ _ (by decide), requested]
  have hAudited : Announced flight store (conduct globalTenantId (fun n => outcomes (n + 1))
      (auditThen (response created)) after).store := by
    have hStatuses := audit_conduct (response created) hAfter hCreated
    rw [hServices] at hStatuses
    refine ⟨Eq.trans ?_ hRequested, _, _, hStatuses⟩
    exact ((audit_auditing (response created)).conduct (fun _ => True) (fun _ => trivial) hAfter).1.requested
  exact hSame ▸ hAudited

theorem createFlightService_conduct (hStore : WellFormed store) (hAlone : rows store .flightServices = [])
    (hReply : (outcomes 0).choice.reply (.getSupportedConnectors flight.internalUrl service.globalTenantId) =
      .ok connectors) (h : ¬(conduct service.globalTenantId outcomes
      (ExceptT.run (createFlightService service texts flight)) store).Failed) :
    Announced (withConnectors flight connectors) store (conduct service.globalTenantId outcomes
      (ExceptT.run (createFlightService service texts flight)) store).store := by
  obtain ⟨hAnswered, hAnsweredStore⟩ := conduct_answer h (Prod.ext hReply rfl)
  obtain ⟨flights, hFlights, hListed, hListedStore⟩ :=
    conduct_read_succeeds (fun _ => rfl) hStore (fun _ => ⟨_, rfl⟩) hAnswered
  have hItems := StoreCall.items_of_getAllFlightServices hStore hFlights
  have hNone : (takenConnectors flights.items (connectors.map SupportedConnector.name)).isEmpty = true := by
    simp [takenConnectors, hItems, hAlone]
  change ¬(conduct _ _ (ExceptT.run (if (takenConnectors flights.items
    (connectors.map SupportedConnector.name)).isEmpty then _ else _)) store).Failed at hListed
  change _ = (conduct _ _ (ExceptT.run (if (takenConnectors flights.items
    (connectors.map SupportedConnector.name)).isEmpty then _ else _)) store).store at hListedStore
  rw [if_pos hNone] at hListed hListedStore
  exact (hAnsweredStore.trans hListedStore) ▸ register_conduct hStore hAlone hListed

end Registration

/-- What a registry says about its connectors arrives in the statuses. For every
registry, every table of types, every request to register a service with that
registry and every outcome of its calls: where no service is registered and the
request succeeds, the types are the same, each type of a connector has the formats
of this connector, in their order, and every other type has none. -/
theorem capabilities_arrive (ipc : ArrowIpc) (concatBatches : Flight.ConcatBatches)
    (registry : ConnectorsRegistry) (service : ApiService) (texts : LibraryTexts) (request : Request)
    (flight : FlightService) (outcomes : Nat → Outcome) (store : Tables)
    (hIpc : ipc.KeepsStrings) (hConcat : ∀ batch, concatBatches [batch] = .ok batch)
    (hRequest : request.endpoint = .data (.createFlightService flight)) (hStore : WellFormed store)
    (hAlone : rows store .flightServices = [])
    (hReplies : RepliesWith ipc concatBatches registry
      ((outcomes 0).choice.reply (.getSupportedConnectors flight.internalUrl service.globalTenantId)))
    (hSucceeds : ¬(conduct service.globalTenantId outcomes (ExceptT.run (handle service texts request)) store).Failed) :
    let run := conduct service.globalTenantId outcomes (ExceptT.run (handle service texts request)) store
    requested (rows run.store) = requested (rows store) ∧
      ∀ type ∈ rows run.store .dataConnectionTypes,
        (∀ connector ∈ registry.getSupportedConnectors, connector.provider = type.resource.provider →
          type.status.supportedFormats = connector.supportedFormats) ∧
        ((∀ connector ∈ registry.getSupportedConnectors, connector.provider ≠ type.resource.provider) →
          type.status.supportedFormats = []) := by
  unfold handle at hSucceeds ⊢
  rw [hRequest] at hSucceeds ⊢
  cases hHeaders : validateHeaders request.headers with
  | error error =>
    rw [hHeaders] at hSucceeds
    exact (hSucceeds rfl).elim
  | ok ctx =>
    rw [hHeaders] at hSucceeds
    cases hReply : (outcomes 0).choice.reply (.getSupportedConnectors flight.internalUrl service.globalTenantId) with
    | error status => exact ((conduct_answer hSucceeds (Prod.ext hReply rfl)).1 rfl).elim
    | ok connectors =>
      obtain rfl := hReplies.eq_reported hIpc hConcat hReply
      obtain ⟨hSame, id, now, hStatuses⟩ :=
        createFlightService_conduct hStore hAlone hReply hSucceeds
      refine ⟨hSame, fun type hType => ?_⟩
      obtain ⟨clock, hStatus⟩ := hStatuses type hType
      rw [hStatus]
      constructor
      · intro connector hConnector hProvider
        rw [← hProvider]
        exact typeStatus_of_mem hConnector
      · exact typeStatus_of_not_mem

section Sample

/-- A store with a type, entered with the given id. -/
def withType (id provider : String) (store : Tables) : Tables :=
  ((StoreCall.createDataConnectionType "global" { sampleType with name := provider, provider := provider }).run
    "global" ⟨id, "2026-01-01T00:00:00Z", "2026-01-01T00:00:00Z"⟩ noFaults store).2

def sampleTypes : Tables := withType "type-2" "ftp" (withType "type-1" "s3" emptyStore)

/-- A concatenation that knows only one batch. -/
def concatOne : Flight.ConcatBatches
  | [batch] => .ok batch
  | _ => .error "one batch expected"

def sampleRegistry : ConnectorsRegistry := buildConnectorsRegistry fun provider => provider != "milvus"

/-- Calls without faults to a service with this registry. -/
def openOutcome (registry : ConnectorsRegistry) : Outcome :=
  ⟨none, ⟨⟨"flight-1", "2026-01-01T00:00:02Z", "2026-01-01T00:00:02Z"⟩, noFaults, fun
    | .getSupportedConnectors _ _ => .ok registry.reported
    | issued => sampleReply [] issued⟩⟩

def sampleAnnouncement : Conducted :=
  conduct "global" (fun _ => openOutcome sampleRegistry)
    (ExceptT.run (handle ⟨"global", true⟩ sampleTexts (sampleRequest (.createFlightService (sampleFlight "alpha")))))
    sampleTypes

theorem capabilities_arrive_sample :
    (rows sampleAnnouncement.store .dataConnectionTypes).map (fun type => type.resource.provider) = ["s3", "ftp"] ∧
      ∀ type ∈ rows sampleAnnouncement.store .dataConnectionTypes,
        (type.resource.provider = "s3" → type.status.supportedFormats = [.tabular, .binary]) ∧
        (type.resource.provider = "ftp" → type.status.supportedFormats = []) := by
  have hReplies : RepliesWith textStream concatOne sampleRegistry (.ok sampleRegistry.reported) := by
    intro connectors hConnectors
    rw [← Except.ok.inj hConnectors]
    exact discovery_roundtrip textStream_keepsStrings (fun _ => rfl) sampleRegistry
  have hTypes : WellFormed sampleTypes :=
    StoreCall.run_wellFormed _ _ _ _ (StoreCall.run_wellFormed _ _ _ _ WellFormed.empty)
  have hArrive := capabilities_arrive textStream concatOne sampleRegistry ⟨"global", true⟩ sampleTexts
    (sampleRequest (.createFlightService (sampleFlight "alpha"))) (sampleFlight "alpha")
    (fun _ => openOutcome sampleRegistry) sampleTypes textStream_keepsStrings (fun _ => rfl) rfl hTypes
    (by decide +kernel) hReplies (by decide +kernel)
  refine ⟨by decide +kernel, fun type hType => ⟨fun hProvider => ?_, fun hProvider => ?_⟩⟩
  · exact (hArrive.2 type hType).1 ⟨"s3", "Amazon compatible S3 connector", [.tabular, .binary]⟩
      (by decide +kernel) hProvider.symm
  · refine (hArrive.2 type hType).2 ?_
    rw [hProvider]
    decide +kernel

end Sample

end DataConnectHub.Rest
