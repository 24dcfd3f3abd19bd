import DataConnectHub.Rest.Interleaving

/-! Which Flight service owns a connector. The create endpoint refuses
connectors that it found registered, but other requests run between that read
and the insert, and the patch endpoint checks nothing. The results below say
which turns keep every connector with at most one service. -/
namespace DataConnectHub.Rest

open Serde RowStore Interaction Program Transaction RustStd List

def Apart (first second : FlightServiceResource) : Prop :=
  ∀ connector ∈ first.resource.supportedConnectors, connector ∉ second.resource.supportedConnectors

instance (first second : FlightServiceResource) : Decidable (Apart first second) :=
  inferInstanceAs (Decidable (∀ connector ∈ first.resource.supportedConnectors, _))

instance : Std.Symm Apart where
  symm _ _ h connector hSecond hFirst := h connector hFirst hSecond

/-- No connector is supported by two of the registered services. -/
def OneOwner (registry : Registry) : Prop :=
  (registry .flightServices).Pairwise Apart

instance (registry : Registry) : Decidable (OneOwner registry) :=
  inferInstanceAs (Decidable (List.Pairwise _ _))

section Patch

variable {service : FlightService} {names : List String} {name : String}

theorem connectors_of_fromValue {members : Members} (h : fromValue (.object members) = some service) :
    (Slot.ofMember (members.lookup "supported_connectors")).defaulted [] = some service.supportedConnectors := by
  simp only [fromValue, slots_object, Option.pure_def, Option.bind_eq_bind, Option.bind_some,
    Option.bind_eq_some_iff, Option.some.injEq] at h
  obtain ⟨_, -, _, -, _, -, _, -, connectors, hConnectors, _, -, _, -, rfl⟩ := h
  exact hConnectors

theorem mem_of_mapM_fromValue {items : List Json} (h : items.mapM fromValue = some names) (hName : name ∈ names) :
    Json.string name ∈ items := by
  induction items generalizing names with
  | nil =>
    rw [mapM_nil] at h
    rw [← Option.some.inj h] at hName
    cases hName
  | cons item rest ih =>
    simp only [mapM_cons, Option.pure_def, Option.bind_eq_bind, Option.bind_eq_some_iff, Option.some.injEq] at h
    obtain ⟨first, hFirst, others, hOthers, rfl⟩ := h
    rcases mem_cons.mp hName with rfl | hRest
    · cases item with
      | string text =>
        obtain rfl : text = name := Option.some.inj hFirst
        exact mem_cons_self ..
      | _ => cases hFirst
    · exact mem_cons_of_mem _ (ih hOthers hRest)

theorem containsString_of_fromValue {value : Json} (h : fromValue value = some names) (hName : name ∈ names) :
    value.containsString name = true := by
  cases value with
  | array items => exact any_eq_true.mpr ⟨.string name, mem_of_mapM_fromValue h hName, by simp⟩
  | _ => cases h

/-- The connectors of a patched service are its own or those of the patch. -/
theorem connectors_of_applyPatch {texts : LibraryTexts} {struct : String} {changes : Members}
    {patched : FlightService} (h : applyPatch texts struct (.object changes) service = .ok patched)
    {connector : String} (hConnector : connector ∈ patched.supportedConnectors) :
    connector ∈ service.supportedConnectors ∨
      ∃ value, ("supported_connectors", value) ∈ changes ∧ value.containsString connector = true := by
  have hRead : fromValue ((toValue service).merge (.object changes)) = some patched := by
    unfold applyPatch at h
    dsimp only at h
    split at h
    · rename_i found hFound
      rw [hFound, Except.ok.inj h]
    · cases h
  rw [Json.merge] at hRead
  have hSlot := connectors_of_fromValue hRead
  cases hLookup : (Json.mergeMembers (toValue service).members changes).lookup "supported_connectors" with
  | none =>
    rw [hLookup] at hSlot
    rw [← Option.some.inj hSlot] at hConnector
    cases hConnector
  | some value =>
    rw [hLookup] at hSlot
    have hValue : fromValue value = some patched.supportedConnectors := hSlot
    rcases Json.lookup_mergeMembers hLookup with hOld | ⟨old, change, hChange, rfl⟩
    · left
      have hOwn : (Slot.ofMember ((toValue service).members.lookup "supported_connectors")).defaulted [] =
          some service.supportedConnectors :=
        connectors_of_fromValue (Codec.fromValue_toValue service)
      rw [hOld] at hOwn
      rwa [← Option.some.inj (hValue.symm.trans hOwn)]
    · right
      refine ⟨change, hChange, ?_⟩
      have hSame : Json.merge old change = change := by
        cases change with
        | object members => rw [Json.merge] at hValue; cases hValue
        | _ => simp [Json.merge]
      rw [hSame] at hValue
      exact containsString_of_fromValue hValue hConnector

end Patch

section Registry

variable {globalTenantId : String} {registry changed : Registry}

/-- Registered services other than the one with this id lack these connectors. -/
def Unclaimed (registry : Registry) (id : Option String) (connectors : List String) : Prop :=
  ∀ row ∈ registry .flightServices, some row.metadata.id ≠ id →
    ∀ connector ∈ row.resource.supportedConnectors, connector ∉ connectors

theorem OneOwner.congr (h : OneOwner registry)
    (hSame : changed .flightServices = registry .flightServices) : OneOwner changed := by
  rwa [OneOwner, hSame]

variable {resource : FlightServiceResource}

theorem OneOwner.insert (h : OneOwner registry)
    (hFree : Unclaimed registry none resource.resource.supportedConnectors) :
    OneOwner (registry.insert .flightServices resource) := by
  rw [OneOwner, Registry.insert_self, pairwise_append]
  refine ⟨h, pairwise_singleton .., fun row hRow other hOther => ?_⟩
  rw [mem_singleton.mp hOther]
  exact hFree row hRow nofun

theorem OneOwner.remove (h : OneOwner registry) (id : String) : OneOwner (registry.remove .flightServices id) := by
  rw [OneOwner, Registry.remove_self]
  exact List.Pairwise.filter _ h

/-- Replacing one row keeps the owners apart when its connectors are free. -/
theorem OneOwner.replace (h : OneOwner registry) (hSound : registry.Sound) {id : String}
    (hFree : Unclaimed registry (some id) resource.resource.supportedConnectors) :
    OneOwner (registry.replace .flightServices id resource) := by
  rw [OneOwner, Registry.replace_self, pairwise_map]
  have hIds := pairwise_map.mp (hSound.ids .flightServices)
  refine List.Pairwise.imp_of_mem ?_ (h.and hIds)
  intro first second hFirst hSecond ⟨hApart, hNe⟩
  have hNe : first.metadata.id ≠ second.metadata.id := hNe
  change Apart (if first.metadata.id = id then resource else first)
    (if second.metadata.id = id then resource else second)
  by_cases hThis : first.metadata.id = id
  · have hOther : second.metadata.id ≠ id := fun hSame => hNe (hThis.trans hSame.symm)
    rw [if_pos hThis, if_neg hOther]
    exact fun connector hNew hOld => hFree second hSecond (by simpa using hOther) connector hOld hNew
  · by_cases hThat : second.metadata.id = id
    · rw [if_neg hThis, if_pos hThat]
      exact hFree first hFirst (by simpa using hThis)
    · rw [if_neg hThis, if_neg hThat]
      exact hApart

/-- What a writing call must meet to keep the owners apart. -/
def Admits (registry : Registry) : MetaCall → Prop
  | .createFlightService service _ _ => Unclaimed registry none service.supportedConnectors
  | .updateFlightService id updateFn _ => ∀ existing ∈ registry .flightServices, ∀ service,
      existing.metadata.id = id → updateFn existing.resource = .ok service →
        Unclaimed registry (some id) service.supportedConnectors
  | _ => True

theorem OneOwner.effect (h : OneOwner registry) (hSound : registry.Sound) {call : MetaCall}
    {answer : MetaAnswer} (hAdmits : Admits registry call)
    (hEffect : call.Effect globalTenantId registry answer changed) : OneOwner changed := by
  cases hEffect with
  | createFlightService => exact h.insert hAdmits
  | deleteFlightService => exact h.remove _
  | updateFlightService hExisting hFinds hChange =>
    obtain ⟨service, hService, rfl⟩ := map_eq_ok.mp hChange
    exact h.replace hSound (hAdmits _ hExisting service hFinds.1 hService)
  | createDataConnection | createDataConnectionType =>
    exact h.congr (Registry.insert_other _ _ (by decide))
  | updateDataConnection | updateDataConnectionStatus | updateDataConnectionType
  | updateDataConnectionTypeStatus => exact h.congr (Registry.replace_other _ _ _ (by decide))
  | deleteDataConnection | deleteDataConnectionType =>
    exact h.congr (Registry.remove_other _ _ (by decide))

end Registry

section Requests

variable (texts : LibraryTexts) (request : Request)

/-- What a request has seen when it writes connectors: a create has the report
of the service and a list of the registered ones without its connectors, and
a patch is applied as it was sent. -/
def Checked (past : List ApiEvent) : ApiCall → Prop
  | .store (.createFlightService service) => ∃ url tenantId connectors flights,
      ⟨.getSupportedConnectors url tenantId, .ok connectors⟩ ∈ past ∧
      ⟨.store .getAllFlightServices, .ok flights⟩ ∈ past ∧
      service.supportedConnectors = connectors.map SupportedConnector.name ∧
      takenConnectors flights.items service.supportedConnectors = []
  | .store (.updateFlightService id updateFn) => ∃ patch, request.endpoint = .data (.patchFlightService id patch) ∧
      updateFn = applyPatch texts "FlightService" patch
  | _ => True

variable {texts request} {Result : Type}

theorem Only.checked {code : ApiM Result} (h : Only ApiCall.KeepsConnectors code)
    (past : List ApiEvent) :
    (ExceptT.run code).Always (Checked texts request) past := by
  refine h.always (fun past call hCall => ?_) past
  cases call with
  | store operation => cases operation <;> trivial
  | _ => trivial

theorem audited_checked (result : Result) (past : List ApiEvent) :
    (ExceptT.run (do auditDataConnectionTypes; return result : ApiM Result)).Always
      (Checked texts request) past :=
  ((audited_plain result).imp fun _ => ApiCall.Plain.keepsConnectors).checked past

theorem createFlightService_checked (service : ApiService) (flight : FlightService) :
    (ExceptT.run (createFlightService service texts flight)).Always (Checked texts request) [] := by
  refine ⟨trivial, fun reported => ?_⟩
  cases reported with
  | error error => trivial
  | ok connectors =>
    refine ⟨trivial, fun registered => ?_⟩
    cases registered with
    | error error => trivial
    | ok flights =>
      change Always _ _ (ExceptT.run (if (takenConnectors flights.items
        (connectors.map SupportedConnector.name)).isEmpty then _ else _))
      split
      · rename_i hFree
        refine ⟨⟨flight.internalUrl, service.globalTenantId, connectors, flights, by simp, by simp, rfl,
          List.isEmpty_iff.mp hFree⟩, fun created => ?_⟩
        cases created with
        | error error => trivial
        | ok resource => exact audited_checked _ _
      · trivial

theorem patchFlightService_checked {id : String} {patch : Json}
    (hEndpoint : request.endpoint = .data (.patchFlightService id patch)) :
    (ExceptT.run (patchFlightService texts id patch)).Always (Checked texts request) [] := by
  refine ⟨⟨patch, hEndpoint, rfl⟩, fun patched => ?_⟩
  cases patched with
  | error error => trivial
  | ok resource => exact audited_checked _ _

theorem handle_checked (service : ApiService) (texts : LibraryTexts) (request : Request) :
    (ExceptT.run (handle service texts request)).Always (Checked texts request) [] := by
  unfold handle
  cases hEndpoint : request.endpoint with
  | health | notFound => trivial
  | data endpoint =>
    cases validateHeaders request.headers with
    | error error => trivial
    | ok ctx =>
      cases hSpecial : endpoint.special with
      | false =>
        exact ((endpoint.handle_plain service texts ctx hSpecial).imp fun _ => ApiCall.Plain.keepsConnectors).checked []
      | true =>
        cases endpoint with
        | exportConnection id secretName =>
          exact ((exportConnection_quiet service ctx id secretName).imp
            fun _ => ApiCall.Quiet.keepsConnectors).checked []
        | checkExistentConnection id =>
          exact ((checkExistentConnection_quiet ctx id).imp fun _ => ApiCall.Quiet.keepsConnectors).checked []
        | createFlightService flight => exact createFlightService_checked service flight
        | patchFlightService id patch => exact patchFlightService_checked hEndpoint
        | _ => cases hSpecial

end Requests

section Runs

variable {Client : Type} (requests : Client → Request)

/-- The conditions on a turn. At the insert of a create, what the new service
reports and someone supports by now was already registered when the request
read the registry. A patch is an object, and lists no connector of another
registered service. -/
def Careful (system : System Client) (client : Client) : Prop :=
  match (system.sessions client).program with
  | .call (.store (.createFlightService _)) _ =>
    ∀ url tenantId connectors flights,
      ⟨.getSupportedConnectors url tenantId, .ok connectors⟩ ∈ (system.sessions client).past →
      ⟨.store .getAllFlightServices, .ok flights⟩ ∈ (system.sessions client).past →
      ∀ row ∈ rows system.store .flightServices, ∀ connector ∈ connectors,
        connector.name ∈ row.resource.supportedConnectors →
          ∃ flight ∈ flights.items, connector.name ∈ flight.resource.supportedConnectors
  | .call (.store (.updateFlightService id _)) _ =>
    ∀ patch, (requests client).endpoint = .data (.patchFlightService id patch) →
      ∃ changes, patch = .object changes ∧ ∀ value, ("supported_connectors", value) ∈ changes →
        ∀ row ∈ rows system.store .flightServices, row.metadata.id ≠ id →
          ∀ connector ∈ row.resource.supportedConnectors, value.containsString connector = false
  | _ => True

variable {requests} {service : ApiService} {texts : LibraryTexts} {system : System Client}

/-- What holds between the turns of a careful run. -/
structure Kept (service : ApiService) (texts : LibraryTexts) (requests : Client → Request)
    (system : System Client) : Prop where
  reachable : Reachable service.globalTenantId system.store
  checked : ∀ client, (system.sessions client).program.Always (Checked texts (requests client)) (system.sessions client).past
  oneOwner : OneOwner (rows system.store)

variable {client : Client}

section

variable (h : Kept service texts requests system)

include h

/-- The insert of a careful create finds its connectors unclaimed. -/
theorem Kept.unclaimed_create {flight : FlightService}
    {next : (ApiCall.store (.createFlightService flight)).Response → _}
    (hProgram : (system.sessions client).program = .call (.store (.createFlightService flight)) next)
    (hCareful : Careful requests system client) :
    Unclaimed (rows system.store) none flight.supportedConnectors := by
  have hChecked := h.checked client
  rw [hProgram] at hChecked
  obtain ⟨url, tenantId, connectors, flights, hReport, hRead, hConnectors, hFree⟩ := hChecked.1
  rw [Careful, hProgram] at hCareful
  intro row hRow _ name hName hTaken
  rw [hConnectors] at hTaken
  obtain ⟨connector, hConnector, rfl⟩ := mem_map.mp hTaken
  obtain ⟨found, hFound, hSupports⟩ :=
    hCareful url tenantId connectors flights hReport hRead row hRow connector hConnector hName
  have hInside : connector.name ∈ takenConnectors flights.items flight.supportedConnectors := by
    rw [takenConnectors, mem_filter, hConnectors]
    refine ⟨mem_map_of_mem hConnector, ?_⟩
    rw [contains_iff_mem]
    exact mem_flatMap.mpr ⟨found, hFound, hSupports⟩
  rw [hFree] at hInside
  cases hInside

/-- A careful patch leaves its service with unclaimed connectors. -/
theorem Kept.unclaimed_patch {id : String} {updateFn : UpdateFn FlightService}
    {next : (ApiCall.store (.updateFlightService id updateFn)).Response → _}
    (hProgram : (system.sessions client).program = .call (.store (.updateFlightService id updateFn)) next)
    (hCareful : Careful requests system client) {existing : FlightServiceResource}
    (hExisting : existing ∈ rows system.store .flightServices) (hId : existing.metadata.id = id)
    {patched : FlightService} (hPatched : updateFn existing.resource = .ok patched) :
    Unclaimed (rows system.store) (some id) patched.supportedConnectors := by
  have hChecked := h.checked client
  rw [hProgram] at hChecked
  obtain ⟨patch, hEndpoint, rfl⟩ := hChecked.1
  rw [Careful, hProgram] at hCareful
  obtain ⟨changes, rfl, hFree⟩ := hCareful patch hEndpoint
  intro row hRow hOther name hName hNew
  have hNe : row.metadata.id ≠ id := by simpa using hOther
  rcases connectors_of_applyPatch hPatched hNew with hOwn | ⟨value, hChange, hListed⟩
  · have hRows : row ≠ existing := fun hSame => hNe (hSame ▸ hId)
    exact h.oneOwner.forall hRow hExisting hRows name hName hOwn
  · rw [hFree value hChange row hRow hNe name hName] at hListed
    cases hListed

/-- A careful store call is one that the registry admits. -/
theorem Kept.admits {operation : StoreCall} {next : (ApiCall.store operation).Response → _}
    (hProgram : (system.sessions client).program = .call (.store operation) next)
    (hCareful : Careful requests system client) {stamp : Stamp} {call : MetaCall}
    (hWriting : operation.writing stamp = some call) : Admits (rows system.store) call := by
  cases operation with
  | createFlightService flight =>
    cases hWriting
    exact h.unclaimed_create hProgram hCareful
  | updateFlightService id updateFn =>
    cases hWriting
    exact fun existing hExisting patched hId hPatched =>
      h.unclaimed_patch hProgram hCareful hExisting hId hPatched
  | _ => cases hWriting <;> trivial

/-- The tables after a careful call. -/
theorem Kept.serve {issued : ApiCall} {next : issued.Response → _}
    (hProgram : (system.sessions client).program = .call issued next) (hCareful : Careful requests system client)
    (choice : Choice) :
    let after := (System.serve service.globalTenantId choice system.store issued).2
    Reachable service.globalTenantId after ∧ OneOwner (rows after) := by
  cases issued with
  | store operation =>
    change Reachable _ (operation.run _ choice.stamp choice.faults system.store).2 ∧
      OneOwner (rows (operation.run _ choice.stamp choice.faults system.store).2)
    cases hWriting : operation.writing choice.stamp with
    | none =>
      rw [StoreCall.run_store_of_reading hWriting]
      exact ⟨h.reachable, h.oneOwner⟩
    | some call =>
      refine ⟨operation.run_reachable choice.stamp choice.faults h.reachable, ?_⟩
      rcases StoreCall.run_cases_of_writing hWriting h.reachable.wellFormed with
        ⟨value, -, hEffect⟩ | ⟨-, hSame⟩
      · exact h.oneOwner.effect h.reachable.sound (h.admits hProgram hCareful hWriting) hEffect
      · rw [hSame]
        exact h.oneOwner
  | _ => exact ⟨h.reachable, h.oneOwner⟩

end

theorem Kept.initial (service : ApiService) (texts : LibraryTexts) (requests : Client → Request) :
    Kept service texts requests (System.initial service texts emptyStore requests) :=
  ⟨.empty, fun client => handle_checked service texts (requests client), List.Pairwise.nil⟩

variable [DecidableEq Client]

theorem Kept.step (h : Kept service texts requests system) (turn : Client × Choice)
    (hCareful : Careful requests system turn.1) :
    Kept service texts requests (system.step service.globalTenantId turn) := by
  cases hProgram : (system.sessions turn.1).program with
  | done result => simpa only [System.step, hProgram] using h
  | call issued next =>
    obtain ⟨hReachable, hOwner⟩ := h.serve hProgram hCareful turn.2
    simp only [System.step, hProgram]
    refine ⟨hReachable, fun client => ?_, hOwner⟩
    by_cases hClient : client = turn.1
    · subst hClient
      have hChecked := h.checked turn.1
      rw [hProgram] at hChecked
      simpa using hChecked.2 _
    · simpa [hClient] using h.checked client

end Runs

theorem containsString_toValue (name : String) (names : List String) :
    (toValue names).containsString name = true ↔ name ∈ names := by
  change (names.map Json.string).any _ = true ↔ _
  rw [any_map, any_eq_true]
  constructor
  · rintro ⟨item, hItem, hSame⟩
    rwa [← beq_iff_eq.mp hSame]
  · intro hName
    exact ⟨name, hName, beq_self_eq_true name⟩

theorem supports_toValue (connector : String) (row : FlightServiceResource) :
    supports connector (toValue row) = true ↔ connector ∈ row.resource.supportedConnectors := by
  have hField : (((toValue row).field? "resource").bind fun resource =>
      resource.field? "supported_connectors") =
      if row.resource.supportedConnectors.isEmpty then none
      else some (toValue row.resource.supportedConnectors) := by
    simp [toValue, Json.field?, Json.members, lookup_cons, lookup_append]
  rw [supports, hField]
  cases hConnectors : row.resource.supportedConnectors with
  | nil => simp
  | cons first rest => exact containsString_toValue connector (first :: rest)

/-- At most one registered service is found by a connector. -/
theorem OneOwner.countP_supports {store : Tables} (hStore : WellFormed store)
    (h : OneOwner (rows store)) (connector : String) :
    (store .flightServices).countP (supports connector) ≤ 1 := by
  rw [← store_rows hStore, Registry.store, countP_map, countP_eq_length_filter]
  have hFound := h.filter (supports connector ∘ toValue)
  cases hRows : (rows store .flightServices).filter (supports connector ∘ toValue) with
  | nil => simp
  | cons first rest =>
    cases rest with
    | nil => simp
    | cons second rest =>
      have hMem : ∀ row ∈ [first, second], connector ∈ row.resource.supportedConnectors := by
        intro row hRow
        have hKept : row ∈ (rows store .flightServices).filter (supports connector ∘ toValue) := by
          rw [hRows]
          exact mem_append_left rest hRow
        exact (supports_toValue connector row).mp (mem_filter.mp hKept).2
      rw [hRows] at hFound
      have hApart := (pairwise_cons.mp hFound).1 second (mem_cons_self ..)
      exact absurd (hMem second (by simp)) (hApart connector (hMem first (by simp)))

/-- From the empty registry, however requests interleave: while every turn is
careful, each connector has at most one owner, and a lookup by connector has
at most one answer. -/
theorem connectors_owned_once {Client : Type} [DecidableEq Client] (service : ApiService)
    (texts : LibraryTexts) (requests : Client → Request) (turns : List (Client × Choice))
    (hTurns : Throughout (System.step service.globalTenantId) (fun system turn => Careful requests system turn.1)
      (System.initial service texts emptyStore requests) turns) :
    let system := (System.initial service texts emptyStore requests).run service.globalTenantId turns
    OneOwner (rows system.store) ∧ ∀ connector, (system.store .flightServices).countP (supports connector) ≤ 1 := by
  have hKept := hTurns.preserves (fun h hCareful => Kept.step h _ hCareful) (Kept.initial service texts requests)
  exact ⟨hKept.oneOwner, hKept.oneOwner.countP_supports hKept.reachable.wellFormed⟩

/-- Two services are created, and the second one is patched. -/
def sampleRequests (change : String × Json) : Fin 3 → Request
  | 0 => sampleRequest (.createFlightService (sampleFlight "alpha"))
  | 1 => sampleRequest (.createFlightService (sampleFlight "beta"))
  | 2 => sampleRequest (.patchFlightService "flight-2" (.object [change]))

/-- The registry after the turns. -/
def sampleRun (change : String × Json) (turns : List (Fin 3 × Choice)) : Registry :=
  rows ((System.initial ⟨"global", true⟩ sampleTexts emptyStore (sampleRequests change)).run "global" turns).store

/-- Each create runs on its own, and the patch follows. -/
def serialTurns : List (Fin 3 × Choice) :=
  List.replicate 3 (sampleTurn 0 "flight-1" ["postgres"]) ++
    List.replicate 3 (sampleTurn 1 "flight-2" ["s3"]) ++ [sampleTurn 2 "" []]

/-- The connectors that services have reported to a client. -/
def reports (past : List ApiEvent) : List (List SupportedConnector) :=
  past.filterMap fun
    | ⟨.getSupportedConnectors _ _, .ok connectors⟩ => some connectors
    | _ => none

/-- Two services are created, and the address of the second one is patched. -/
theorem connectors_owned_once_sample :
    let registry := sampleRun ("external_url", .string "grpc://moved") serialTurns
    (registry .flightServices).map (·.resource.supportedConnectors) = [["postgres"], ["s3"]] ∧ OneOwner registry := by
  refine ⟨by decide +kernel, (connectors_owned_once ⟨"global", true⟩ sampleTexts _ _ ?_).1⟩
  refine ⟨trivial, trivial, ?_, trivial, trivial, ?_, ?_, trivial⟩
  · intro url tenantId connectors flights _ _ row hRow
    exact absurd hRow not_mem_nil
  · intro url tenantId connectors flights hReport _ row hRow connector hConnector hName
    suffices hApart : ∀ connectors ∈ reports _, ∀ row ∈ rows _ .flightServices, ∀ connector ∈ connectors,
        connector.name ∉ row.resource.supportedConnectors from
      absurd hName (hApart connectors (mem_filterMap.mpr ⟨_, hReport, rfl⟩) row hRow connector hConnector)
    decide +kernel
  · intro patch hPatch
    obtain rfl : Json.object [("external_url", .string "grpc://moved")] = patch := by
      injection hPatch with hPatch
      injection hPatch
    refine ⟨_, rfl, fun value hChange => ?_⟩
    simp at hChange

/-- Both creates read the registry before either inserts. -/
def racingTurns : List (Fin 3 × Choice) :=
  List.replicate 2 (sampleTurn 0 "flight-1" ["postgres"]) ++
    List.replicate 3 (sampleTurn 1 "flight-2" ["postgres"]) ++ [sampleTurn 0 "flight-1" ["postgres"]]

/-- A patch gives a service the connector of another one, and so do two
creates that overlap. -/
theorem connector_owned_twice :
    ¬OneOwner (sampleRun ("supported_connectors", .array [.string "postgres"]) serialTurns) ∧
      ¬OneOwner (sampleRun ("external_url", .string "grpc://moved") racingTurns) := by
  decide +kernel

end DataConnectHub.Rest
