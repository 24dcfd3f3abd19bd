import DataConnectHub.Controller.Reconcile

/-! The registration of the Flight service. Each reconcile posts it again; the
REST service refuses a name or a connector that is registered, and the client
takes both refusals for a registration made before. Nothing updates what is
registered, so it need not be what the running service reports. -/
namespace DataConnectHub.Controller

open Serde RowStore Interaction Transaction Http Rest List

section Requests

/-- The endpoint of the registration, call by call: the service is inserted, -/
def insertion (flight : FlightService) : RequestProgram :=
  .call (.store (.createFlightService flight)) fun
    | .error error => .done (.error (.ofMetaStore error))
    | .ok created => ExceptT.run (do
        auditDataConnectionTypes
        return ⟨201, .flightService created⟩)

/-- if none of its connectors is taken, -/
def connectorCheck (texts : LibraryTexts) (flight : FlightService) (connectors : List SupportedConnector) :
    RequestProgram :=
  .call (.store .getAllFlightServices) fun
    | .error error => .done (.error (.ofMetaStore error))
    | .ok flights =>
      let taken := takenConnectors flights.items (connectors.map SupportedConnector.name)
      if taken.isEmpty then insertion (withConnectors flight connectors)
      else .done (.error (.ofValidation (.connectorsAlreadyExists
        s!"connectors already exists: {RustStd.debugList texts.printable taken}")))

/-- after it was asked for them. -/
def registration (service : ApiService) (texts : LibraryTexts) (flight : FlightService) : RequestProgram :=
  .call (.getSupportedConnectors flight.internalUrl service.globalTenantId) fun
    | .error status => .done (.error (.ofGrpc status))
    | .ok connectors => connectorCheck texts flight connectors

variable (service : ApiService) (globalTenantId : String) (texts : LibraryTexts) (flight : FlightService)
  (attempts : Nat → Attempt)

theorem run_createFlightService :
    ExceptT.run (Rest.createFlightService service texts flight) = registration service texts flight := by
  unfold registration connectorCheck insertion
  change Program.call _ _ = Program.call _ _
  congr 1
  funext connectors
  cases connectors with
  | error status => rfl
  | ok connectors =>
    change Program.call _ _ = Program.call _ _
    congr 1
    funext flights
    cases flights with
    | error error => rfl
    | ok flights =>
      change ExceptT.run (if _ then _ else _) = _
      dsimp only
      split
      · change Program.call _ _ = Program.call _ _
        congr 1
        funext created
        cases created <;> rfl
      · rfl

variable {store : Tables}

/-- A registered service that has one of the connectors. -/
def Shares (registry : Registry) (connectors : List SupportedConnector) : Prop :=
  ∃ row ∈ registry .flightServices, ∃ connector ∈ connectors, connector.name ∈ row.resource.supportedConnectors

instance (registry : Registry) (connectors : List SupportedConnector) :
    Decidable (Shares registry connectors) :=
  inferInstanceAs (Decidable (∃ row ∈ _, ∃ connector ∈ _, _))

theorem shares_of_takenConnectors {registry : Registry} {connectors : List SupportedConnector}
    (h : (takenConnectors (registry .flightServices)
      (connectors.map SupportedConnector.name)).isEmpty = false) : Shares registry connectors := by
  obtain ⟨name, hName⟩ := exists_mem_of_ne_nil _ (by simpa using h)
  obtain ⟨hReported, hTaken⟩ := mem_filter.mp hName
  obtain ⟨connector, hConnector, rfl⟩ := mem_map.mp hReported
  obtain ⟨row, hRow, hSupports⟩ := mem_flatMap.mp (contains_iff_mem.mp hTaken)
  exact ⟨row, hRow, connector, hConnector, hSupports⟩

/-- The audit after a registration leaves the services alone. -/
theorem services_of_audit (globalTenantId : String) (outcomes : Nat → Outcome) (hStore : WellFormed store)
    (response : HttpResponse) :
    rows (conduct globalTenantId outcomes (auditThen response) store).store .flightServices =
      rows store .flightServices :=
  ((audit_auditing response).conduct (fun _ => True) (fun _ => trivial) hStore).1.others _ (by decide)

/-- Whether the client takes the reply for a registration, new or made before. -/
def Accepted (reply : Reply) : Prop :=
  ∀ error, creationResult RestApi.connectorsRefused (some reply) = .error error → error = .conflict

theorem not_accepted_of_status {reply : Reply} (hCreated : reply.status ≠ 201)
    (hConflict : reply.status ≠ 409) (hRefused : RestApi.connectorsRefused reply = false) :
    ¬Accepted reply := by
  intro hAccepted
  simp only [Accepted, creationResult, if_neg hCreated, if_neg hConflict, hRefused] at hAccepted
  split at hAccepted
  · exact absurd (hAccepted _ rfl) nofun
  · exact absurd (hAccepted _ rfl) nofun

theorem not_accepted_of_grpc {status : Grpc.Status}
    (hQuiet : RestApi.connectorsRefused (.error (.ofGrpc status)) = false) :
    ¬Accepted (.error (.ofGrpc status)) := by
  have hStatus : (RestErrorResponse.ofGrpc status).status ≠ 201 ∧ (RestErrorResponse.ofGrpc status).status ≠ 409 := by
    obtain ⟨code, message⟩ := status
    cases code <;> simp [RestErrorResponse.ofGrpc]
  exact not_accepted_of_status hStatus.1 hStatus.2 hQuiet

theorem not_accepted_of_query (message : String) : ¬Accepted (.error (.ofMetaStore (.query message))) :=
  not_accepted_of_status nofun nofun rfl

theorem rows_of_creation {registry changed : Registry} {answer : MetaAnswer} {stamp : Stamp} {call : MetaCall}
    (hCall : (StoreCall.createFlightService flight).writing stamp = some call)
    (hEffect : call.Effect globalTenantId registry answer changed) :
    changed .flightServices = registry .flightServices ++ [newService flight stamp.id stamp.now] := by
  cases hCall
  cases hEffect
  exact Registry.insert_self ..

/-- A service that is registered stays so. -/
theorem mem_registration (hStore : WellFormed store) {row : FlightServiceResource}
    (hRow : row ∈ rows store .flightServices) : row ∈ rows (conduct globalTenantId
      (fun n => (attempts n).outcome) (registration service texts flight) store).store .flightServices := by
  rw [registration, conduct_call rfl]
  dsimp only
  split
  · exact hRow
  next connectors _ =>
    obtain ⟨answer, hListed⟩ : ∃ answer, (attempts 1).outcome.serve globalTenantId store
        (.store .getAllFlightServices) = (answer, store) := ⟨_, Prod.ext rfl (Outcome.serve_reads _ fun _ => rfl)⟩
    rw [connectorCheck, conduct_call hListed]
    cases answer with
    | error error => exact hRow
    | ok flights =>
      dsimp only
      split
      · rcases (attempts 2).outcome.serve_store globalTenantId
            (.createFlightService (withConnectors flight connectors)) hStore with
          ⟨error, hFailed⟩ | ⟨value, after, hServed, hAfter, ⟨hReads, -⟩ | ⟨call, hCall, hEffect⟩⟩
        · rw [insertion, conduct_call hFailed]
          exact hRow
        · cases hReads
        · rw [insertion, conduct_call hServed]
          dsimp only
          rw [services_of_audit _ _ hAfter, rows_of_creation _ _ hCall hEffect]
          exact mem_append_left _ hRow
      · exact hRow

/-- An accepted insertion has its row, or met one with its id or name. -/
theorem sources_of_insertion (hStore : WellFormed store)
    (hAccepted : Accepted (conduct globalTenantId (fun n => (attempts n).outcome) (insertion flight) store).result) :
    (rows store).Occupied .flightServices (newService flight (attempts 0).stamp.id (attempts 0).stamp.now) ∨
      ∃ row ∈ rows (conduct globalTenantId (fun n => (attempts n).outcome) (insertion flight)
        store).store .flightServices, row.resource = flight := by
  rcases (attempts 0).outcome.serve_store globalTenantId (.createFlightService flight) hStore with
    ⟨error, hFailed⟩ | ⟨value, after, hServed, hAfter, ⟨hReads, -⟩ | ⟨call, hCall, hEffect⟩⟩
  · left
    rw [insertion, conduct_call hFailed] at hAccepted
    have hError := congrArg Prod.fst hFailed
    rcases error_of_insertRow hError with rfl | rfl
    · exact occupied_of_createFlightService hStore (attempts 0).truthful hError
    · exact absurd hAccepted (not_accepted_of_query _)
  · cases hReads
  · right
    rw [insertion, conduct_call hServed]
    dsimp only
    rw [services_of_audit _ _ hAfter, rows_of_creation _ _ hCall hEffect]
    exact ⟨_, mem_append_right _ (mem_singleton_self _), rfl⟩

theorem serve_getAllFlightServices {attempt : Attempt} (hFaults : attempt.faults 0 = none) (hStore : WellFormed store) :
    attempt.outcome.serve globalTenantId store (.store .getAllFlightServices) =
      (.ok ⟨(rows store .flightServices).length, rows store .flightServices⟩, store) := by
  have hListed := StoreCall.getAllFlightServices_run globalTenantId attempt.stamp attempt.faults hStore
  rw [hFaults] at hListed
  exact Prod.ext hListed (Outcome.serve_reads _ fun _ => rfl)

theorem sources_of_check (reported : List SupportedConnector) (attempts : Nat → Attempt) (hStore : WellFormed store)
    (hAccepted : Accepted (conduct globalTenantId (fun n => (attempts n).outcome)
      (connectorCheck texts flight reported) store).result) :
    Shares (rows store) reported ∨ (rows store).Occupied .flightServices
        (newService (withConnectors flight reported) (attempts 1).stamp.id (attempts 1).stamp.now) ∨
      ∃ row ∈ rows (conduct globalTenantId (fun n => (attempts n).outcome)
        (connectorCheck texts flight reported) store).store .flightServices,
        row.resource = withConnectors flight reported := by
  cases hFault : (attempts 0).faults 0 with
  | some failure =>
    have hListed := StoreCall.getAllFlightServices_run globalTenantId (attempts 0).stamp (attempts 0).faults hStore
    rw [hFault] at hListed
    have hServed : (attempts 0).outcome.serve globalTenantId store (.store .getAllFlightServices) =
        (.error (.query "failed to list flight services"), store) :=
      Prod.ext hListed (Outcome.serve_reads _ fun _ => rfl)
    rw [connectorCheck, conduct_call hServed] at hAccepted
    exact absurd hAccepted (not_accepted_of_query _)
  | none =>
    have hServed := serve_getAllFlightServices globalTenantId hFault hStore
    rw [connectorCheck, conduct_call hServed] at hAccepted ⊢
    dsimp only at hAccepted ⊢
    by_cases hTaken : (takenConnectors (rows store .flightServices)
        (reported.map SupportedConnector.name)).isEmpty = true
    · rw [if_pos hTaken] at hAccepted ⊢
      exact .inr (sources_of_insertion globalTenantId _ (fun n => attempts (n + 1)) hStore hAccepted)
    · exact .inl (shares_of_takenConnectors (Bool.not_eq_true _ ▸ hTaken))

/-- Where an accepted registration comes from: the service is in the tables
with the connectors it has reported, or its name or one of these connectors was
registered before. -/
theorem sources_of_accepted (hStore : WellFormed store) {connectors : Except Grpc.Status (List SupportedConnector)}
    (hReply : (attempts 0).reply (.getSupportedConnectors flight.internalUrl service.globalTenantId) = connectors)
    (hQuiet : ∀ status, connectors = .error status → RestApi.connectorsRefused (.error (.ofGrpc status)) = false)
    (hAccepted : Accepted (conduct service.globalTenantId (fun n => (attempts n).outcome)
      (registration service texts flight) store).result) :
    ∃ reported, connectors = .ok reported ∧ (Shares (rows store) reported ∨ (rows store).Occupied .flightServices
        (newService (withConnectors flight reported) (attempts 2).stamp.id (attempts 2).stamp.now) ∨
      ∃ row ∈ rows (conduct service.globalTenantId (fun n => (attempts n).outcome)
        (registration service texts flight) store).store .flightServices,
        row.resource = withConnectors flight reported) := by
  have hAsked : (attempts 0).outcome.serve service.globalTenantId store
      (.getSupportedConnectors flight.internalUrl service.globalTenantId) = (connectors, store) := by
    rw [← hReply]
    rfl
  rw [registration, conduct_call hAsked] at hAccepted ⊢
  cases connectors with
  | error status => exact absurd hAccepted (not_accepted_of_grpc (hQuiet status rfl))
  | ok reported =>
    exact ⟨reported, rfl, sources_of_check service.globalTenantId texts flight reported
      (fun n => attempts (n + 1)) hStore hAccepted⟩

/-- Without faults, a service that reports no connector can be registered in
empty tables. -/
theorem registered_empty (stamp : Stamp) {reply : (call : ApiCall) → call.Response}
    (hReply : reply (.getSupportedConnectors flight.internalUrl service.globalTenantId) = .ok []) :
    ∃ created, (conduct service.globalTenantId (fun _ => (Attempt.mk stamp (fun _ => false) reply).outcome)
      (registration service texts flight) emptyStore).result = .ok ⟨201, .flightService created⟩ := by
  let attempt : Attempt := ⟨stamp, fun _ => false, reply⟩
  let row : FlightServiceResource := newService (withConnectors flight []) stamp.id stamp.now
  let after : Tables := Function.update emptyStore .flightServices [toValue row]
  have hAsked : attempt.outcome.serve service.globalTenantId emptyStore
      (.getSupportedConnectors flight.internalUrl service.globalTenantId) = (.ok [], emptyStore) := by
    rw [← hReply]
    rfl
  have hFaults : attempt.faults 0 = none := rfl
  have hListed := serve_getAllFlightServices service.globalTenantId hFaults WellFormed.empty
  have hCreated : attempt.outcome.serve service.globalTenantId emptyStore
      (.store (.createFlightService (withConnectors flight []))) = (.ok row, after) := rfl
  have hAfter : WellFormed after :=
    StoreCall.run_wellFormed (.createFlightService (withConnectors flight [])) service.globalTenantId stamp
      attempt.faults WellFormed.empty
  have hAgain := serve_getAllFlightServices service.globalTenantId hFaults hAfter
  have hTypes : attempt.outcome.serve service.globalTenantId after (.store .getAllDataConnectionTypes) =
      (.ok ⟨0, []⟩, after) := rfl
  refine ⟨row, ?_⟩
  rw [registration, conduct_call hAsked]
  dsimp only
  rw [connectorCheck, conduct_call hListed]
  dsimp only
  rw [if_pos (by rfl), insertion, conduct_call hCreated]
  dsimp only
  change (conduct _ _ (.call (.store .getAllFlightServices) _) after).result = _
  rw [conduct_call hAgain]
  dsimp only
  change (conduct _ _ (.call (.store .getAllDataConnectionTypes) _) after).result = _
  rw [conduct_call hTypes]
  rfl

theorem registerFlightService_answered (api : RestApi) (tenantId : String) (flight : FlightService)
    (attempts : Nat → Attempt) (store : Tables) :
    let run := conduct api.service.globalTenantId (fun n => (attempts n).outcome)
      (registration api.service api.texts flight) store
    api.registerFlightService tenantId flight (.answered attempts) store =
      (creationResult RestApi.connectorsRefused (some run.result), run.store) := by
  rw [← run_createFlightService]
  rfl

end Requests

section Reconciles

variable {registry : Registry} {cr : DataConnectService} {reported : List SupportedConnector}

/-- The Flight service of the resource is registered with its name, its URL
and exactly these connectors. -/
def Registered (registry : Registry) (cr : DataConnectService) (reported : List SupportedConnector) : Prop :=
  ∃ row ∈ registry .flightServices, row.resource.name = flightServiceResourceName cr.name ∧
    row.resource.internalUrl = internalURL cr ∧
    (∀ connector ∈ row.resource.supportedConnectors, connector ∈ reported.map SupportedConnector.name) ∧
    ∀ connector ∈ reported.map SupportedConnector.name, connector ∈ row.resource.supportedConnectors

instance : Decidable (Registered registry cr reported) := inferInstanceAs (Decidable (∃ row ∈ _, _))

/-- A service of the name is registered in the namespace of the resource. -/
def NameRegistered (registry : Registry) (cr : DataConnectService) : Prop :=
  ∃ row ∈ registry .flightServices, row.resource.name = flightServiceResourceName cr.name ∧
    row.resource.namespaceName = cr.namespaceName

instance : Decidable (NameRegistered registry cr) := inferInstanceAs (Decidable (∃ row ∈ _, _))

/-- A Flight service that fails to report its connectors does not talk about
registered ones, and generated ids are new. -/
def Pass.Ordinary (pass : Pass) (registry : Registry) : Prop :=
  (∀ status ∈ pass.flightFault, RestApi.connectorsRefused (.error (.ofGrpc status)) = false) ∧
    ∀ id ∈ pass.registration.newId 2, ∀ row ∈ registry .flightServices, row.metadata.id ≠ id

instance (pass : Pass) (registry : Registry) : Decidable (pass.Ordinary registry) :=
  inferInstanceAs (Decidable (_ ∧ _))

theorem registered_of_resource {row : FlightServiceResource} (hRow : row ∈ registry .flightServices)
    (h : row.resource = withConnectors (flightServiceRegistration cr) reported) :
    Registered registry cr reported := by
  refine ⟨row, hRow, ?_⟩
  rw [h]
  exact ⟨rfl, rfl, fun _ => id, fun _ => id⟩

theorem nameRegistered_of_occupied {id now : String} (hFresh : ∀ row ∈ registry .flightServices, row.metadata.id ≠ id)
    (h : registry.Occupied .flightServices
      (newService (withConnectors (flightServiceRegistration cr) reported) id now)) :
    NameRegistered registry cr := by
  obtain ⟨row, hRow, hId | hName⟩ := h
  · exact absurd hId (hFresh row hRow)
  · exact ⟨row, hRow, Option.some.inj (congrArg Prod.snd hName), Option.some.inj (congrArg Prod.fst hName)⟩

variable {api : RestApi} {buildVersion : String} {pass : Pass} {store : Tables} {cluster : Cluster}

/-- The registration of a reconcile succeeds when its request is accepted. -/
theorem registerFlightService_ok (h : (registerFlightService ⟨buildVersion, some api⟩ pass store cr).1 = .ok ()) :
    ∃ attempts, pass.registration = .answered attempts ∧
      let run := conduct api.service.globalTenantId (fun n => ((attempts n).withConnectors pass.connectors).outcome)
        (registration api.service api.texts (flightServiceRegistration cr)) store
      Accepted run.result ∧ (registerFlightService ⟨buildVersion, some api⟩ pass store cr).2 = run.store := by
  unfold registerFlightService at h ⊢
  dsimp only at h ⊢
  unfold Pass.delivery at h ⊢
  cases hDelivery : pass.registration with
  | lost | cut attempts =>
    rw [hDelivery] at h
    cases h
  | answered attempts =>
    rw [hDelivery] at h
    dsimp only at h
    rw [registerFlightService_answered] at h
    refine ⟨attempts, rfl, ?_, congrArg Prod.snd (registerFlightService_answered ..)⟩
    intro error hError
    rw [hError] at h
    cases error with
    | conflict => rfl
    | _ => cases h

/-- What is known after the registration of a reconcile has succeeded. -/
theorem sources_of_registerFlightService (hStore : WellFormed store) (hOrdinary : pass.Ordinary (rows store))
    (h : (registerFlightService ⟨buildVersion, some api⟩ pass store cr).1 = .ok ()) :
    Registered (rows (registerFlightService ⟨buildVersion, some api⟩ pass store cr).2) cr pass.reported ∨
      NameRegistered (rows store) cr ∨ Shares (rows store) pass.reported := by
  obtain ⟨attempts, hDelivery, hAccepted, hAfter⟩ := registerFlightService_ok h
  obtain ⟨hQuiet, hFresh⟩ := hOrdinary
  rw [hDelivery] at hFresh
  have hReported {status : Grpc.Status} (hError : pass.connectors = .error status) :
      RestApi.connectorsRefused (.error (.ofGrpc status)) = false := by
    unfold Pass.connectors at hError
    split at hError
    next hFault => exact hQuiet status (hFault.trans (congrArg some (Except.error.inj hError)))
    · cases hError
  obtain ⟨reported, hConnectors, hShares | hOccupied | ⟨row, hRow, hResource⟩⟩ :=
    sources_of_accepted api.service api.texts (flightServiceRegistration cr)
      (fun n => (attempts n).withConnectors pass.connectors) hStore rfl (fun _ => hReported) hAccepted
  all_goals
    obtain rfl : pass.reported = reported := by
      unfold Pass.connectors at hConnectors
      split at hConnectors
      · cases hConnectors
      · exact Except.ok.inj hConnectors
  · exact .inr (.inr hShares)
  · exact .inr (.inl (nameRegistered_of_occupied (hFresh _ rfl) hOccupied))
  · rw [hAfter]
    exact .inl (registered_of_resource hRow hResource)

/-- A reconcile that writes the phase Ready leaves the running Flight service
registered as it is. -/
def ReadyIsRegistered (r : Reconciler) (cluster : Cluster) : ClusterEvent → Prop
  | .put _ => True
  | .reconcile pass => ∀ cr ∈ cluster.service, ∀ status ∈ (reconcile r pass cluster).written,
      status.phase = .ready → Registered (rows (reconcile r pass cluster).cluster.store) cr pass.reported

instance (r : Reconciler) (cluster : Cluster) :
    (event : ClusterEvent) → Decidable (ReadyIsRegistered r cluster event)
  | .put _ => inferInstanceAs (Decidable True)
  | .reconcile _ => inferInstanceAs (Decidable (∀ cr ∈ _, ∀ status ∈ _, _ → _))

/-- The Flight service is registered as it runs, or neither its name nor one of its
connectors is registered. -/
def Unobstructed (cluster : Cluster) : ClusterEvent → Prop
  | .put _ => True
  | .reconcile pass => pass.Ordinary (rows cluster.store) ∧ ∀ cr ∈ cluster.service,
      Registered (rows cluster.store) cr pass.reported ∨
        ¬NameRegistered (rows cluster.store) cr ∧ ¬Shares (rows cluster.store) pass.reported

instance (cluster : Cluster) : (event : ClusterEvent) → Decidable (Unobstructed cluster event)
  | .put _ => inferInstanceAs (Decidable True)
  | .reconcile _ => inferInstanceAs (Decidable (_ ∧ ∀ cr ∈ _, _))

theorem registerFlightService_wellFormed (r : Reconciler) (pass : Pass) (cr : DataConnectService)
    (hStore : WellFormed store) :
    WellFormed (registerFlightService r pass store cr).2 := by
  unfold registerFlightService
  split
  · exact hStore
  next api _ => exact api.exchange_wellFormed _ _ hStore _

theorem step_wellFormed (r : Reconciler) (event : ClusterEvent) (hStore : WellFormed cluster.store) :
    WellFormed (cluster.step r event).store := by
  cases event with
  | put service => exact hStore
  | reconcile pass =>
    rcases store_reconcile r pass cluster with hSame | ⟨cr, hRegistered⟩
    · rwa [Cluster.step, hSame]
    · rw [Cluster.step, hRegistered]
      exact registerFlightService_wellFormed r pass cr hStore

theorem registered_after (hStore : WellFormed store) (hRegistered : Registered (rows store) cr reported)
    (h : (registerFlightService ⟨buildVersion, some api⟩ pass store cr).1 = .ok ()) :
    Registered (rows (registerFlightService ⟨buildVersion, some api⟩ pass store cr).2) cr reported := by
  obtain ⟨attempts, -, -, hAfter⟩ := registerFlightService_ok h
  obtain ⟨row, hRow, hSame⟩ := hRegistered
  rw [hAfter]
  exact ⟨row, mem_registration _ _ _ _ _ hStore hRow, hSame⟩

theorem step_readyIsRegistered {event : ClusterEvent} (hStore : WellFormed cluster.store)
    (h : Unobstructed cluster event) : ReadyIsRegistered ⟨buildVersion, some api⟩ cluster event := by
  cases event with
  | put service => trivial
  | reconcile pass =>
    intro cr hService status hWritten hPhase
    obtain ⟨found, finalizers, hFound, -, hWrites⟩ := writes_reconcile hWritten
    obtain rfl : found = cr := Option.some.inj (hFound.symm.trans hService)
    cases hWrites with
    | held hOther => exact absurd hPhase hOther
    | ready hDeployments hPending hRegistered hAfter =>
      rw [hAfter]
      rcases h.2 _ hService with hBefore | ⟨hName, hShares⟩
      · exact registered_after hStore hBefore hRegistered
      · exact (sources_of_registerFlightService hStore h.1 hRegistered).resolve_right
          (not_or.mpr ⟨hName, hShares⟩)

/-- In every run whose reconciles find the Flight service registered as it runs, or
nothing registered in its way, a reconcile that writes the phase Ready leaves it
registered with the connectors it reports. -/
theorem ready_is_registered (buildVersion : String) (api : RestApi) (initial : Cluster)
    (hStore : WellFormed initial.store) (events : List ClusterEvent)
    (hUnobstructed : Throughout (Cluster.step ⟨buildVersion, some api⟩) Unobstructed initial events) :
    Throughout (Cluster.step ⟨buildVersion, some api⟩) (ReadyIsRegistered ⟨buildVersion, some api⟩)
      initial events := by
  let Holds (cluster : Cluster) : Prop := WellFormed cluster.store
  have hStep {cluster : Cluster} {event : ClusterEvent} (hState : Holds cluster)
      (_ : Unobstructed cluster event) : Holds (cluster.step ⟨buildVersion, some api⟩ event) :=
    step_wellFormed _ event hState
  have hTurn {cluster : Cluster} {event : ClusterEvent} (hState : Holds cluster)
      (hEvent : Unobstructed cluster event) : ReadyIsRegistered ⟨buildVersion, some api⟩ cluster event :=
    step_readyIsRegistered hState hEvent
  exact hUnobstructed.imp hStep hTurn hStore

end Reconciles

section Samples

/-- A resource without a status, for examples. -/
def sampleService : DataConnectService :=
  { name := "hub", namespaceName := "dch", uid := "uid-1", generation := 1, deleting := false, finalizers := []
    status := ⟨0, ⟨"", ""⟩, [], .unset, []⟩ }

def sampleReconciler : Reconciler := ⟨"1.0.0", some sampleApi⟩

/-- A pass in which every check succeeds. -/
def smoothPass (deployments : List Deployment) (connectors : List String) (id : String) : Pass :=
  { getFault := none, updateFault := none, cleanupFault := none
    platformConfig := .ok ((∅ : StringMap String).insert "platformVersion" "2.20.0")
    databaseSecret := .ok ((∅ : StringMap String).insert nameSecretConfigTOML "url")
    manifestsFault := none
    deployments := .ok deployments
    reported := connectors.map fun name => ⟨name, ["tabular"]⟩
    flightFault := none
    registration := sampleDelivery id
    statusGetFault := none
    gatewayFault := none
    clusterIngress := .error ⟨.noMatch, "no matches for kind Ingress"⟩
    ingressControllers := .error ⟨.noMatch, "no matches for kind IngressController"⟩
    statusUpdate := .stored }

/-- The service is registered, and then a further connector is enabled. -/
def connectorEnabled : List ClusterEvent :=
  [.reconcile (smoothPass [] ["postgres"] "flight-1"), .reconcile (smoothPass [] ["postgres", "s3"] "flight-2")]

/-- A connector enabled later is never registered, and the status is Ready. -/
theorem ready_with_unregistered_connector :
    ¬Throughout (Cluster.step sampleReconciler) (ReadyIsRegistered sampleReconciler)
      ⟨some sampleService, emptyStore⟩ connectorEnabled := by
  decide +kernel

/-- The second reconcile finds the service registered. -/
theorem ready_is_registered_sample :
    let events : List ClusterEvent :=
      [.reconcile (smoothPass [] ["postgres"] "flight-1"), .reconcile (smoothPass [] ["postgres"] "flight-2")]
    ((events.foldl (Cluster.step sampleReconciler) ⟨some sampleService, emptyStore⟩).service.map
      fun cr => cr.status.phase) = some .ready ∧
    Throughout (Cluster.step sampleReconciler) (ReadyIsRegistered sampleReconciler)
      ⟨some sampleService, emptyStore⟩ events :=
  ⟨by decide +kernel, ready_is_registered "1.0.0" sampleApi ⟨some sampleService, emptyStore⟩
    WellFormed.empty _ (by decide +kernel)⟩

end Samples
end DataConnectHub.Controller
