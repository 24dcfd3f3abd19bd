import DataConnectHub.Rest.Interleaving

/-! The status of the connection types after requests have changed the
registry. Every request that changes a Flight service or a type ends with an
audit of all types. Audits of different requests interleave, and each of them
writes what follows from the services and types it has read. The results below
say which turns leave every status as an audit would compute it. -/
namespace DataConnectHub.Rest

open RowStore Interaction Program Transaction RustStd List

/-- The service that an audit takes the status of a type from. -/
def supporter (flights : List FlightServiceResource) (provider : String) : Option FlightServiceResource :=
  flights.find? fun flight => flight.resource.supportedConnectors.contains provider

/-- The status is the one an audit computes now, apart from its time. -/
def UpToDate (registry : Registry) (type : DataConnectionTypeResource) : Prop :=
  { type.status with updatedAt := none } =
    { typeStatus (registry .flightServices) type.resource.provider "" with updatedAt := none }

instance (registry : Registry) (type : DataConnectionTypeResource) : Decidable (UpToDate registry type) :=
  inferInstanceAs (Decidable (_ = _))

variable {registry : Registry} {type : DataConnectionTypeResource}

theorem UpToDate.congr {changed : Registry} (h : UpToDate registry type)
    (hSame : changed .flightServices = registry .flightServices) :
    UpToDate changed type := by
  rwa [UpToDate, hSame]

/-- A status computed from other services is up to date when those had the
same service for the provider. -/
theorem upToDate_of_supporter {flights : List FlightServiceResource} {now : String}
    (hStatus : type.status = typeStatus flights type.resource.provider now)
    (hSame : supporter flights type.resource.provider = supporter (registry .flightServices) type.resource.provider) :
    UpToDate registry type := by
  unfold supporter at hSame
  rw [UpToDate, hStatus]
  simp only [typeStatus, hSame]

/-- A call after which the statuses may be out of date. -/
def ApiCall.Outdates : ApiCall → Prop
  | .store (.createFlightService _) => True
  | .store (.updateFlightService _ _) => True
  | .store (.deleteFlightService _) => True
  | .store (.createDataConnectionType _ _) => True
  | .store (.updateDataConnectionType _ _ _) => True
  | _ => False

section Record

variable {Read : Type}

/-- The last answer of one kind in a record. -/
def latest (read : ApiEvent → Option Read) (past : List ApiEvent) : Option Read :=
  past.reverse.findSome? read

theorem latest_append (read : ApiEvent → Option Read) (past : List ApiEvent) (event : ApiEvent) :
    latest read (past ++ [event]) = (read event).or (latest read past) := by
  rw [latest, reverse_append, reverse_singleton, singleton_append, findSome?_cons]
  cases read event <;> rfl

def servicesRead : ApiEvent → Option (List FlightServiceResource)
  | ⟨.store .getAllFlightServices, .ok list⟩ => some list.items
  | _ => none

def typesRead : ApiEvent → Option (List DataConnectionTypeResource)
  | ⟨.store .getAllDataConnectionTypes, .ok list⟩ => some list.items
  | _ => none

end Record

section Code

/-- Whenever the request succeeds, it still writes the status of this type,
provided that the type is listed to it. -/
def Owes (id : String) : RequestProgram → Prop
  | .done (.ok _) => False
  | .done (.error _) => True
  | .call (.store (.updateDataConnectionTypeStatus uid _)) next =>
    (uid = id ∧ ∀ error, Owes id (next (.error error))) ∨ ∀ answer, Owes id (next answer)
  | .call (.store .getAllDataConnectionTypes) next =>
    (∀ error, Owes id (next (.error error))) ∧
      ∀ list, (∃ type ∈ list.items, type.metadata.id = id) → Owes id (next (.ok list))
  | .call _ next => ∀ answer, Owes id (next answer)

/-- A status is written from the services and the types read last. -/
def FromRecord (past : List ApiEvent) : ApiCall → Prop
  | .store (.updateDataConnectionTypeStatus uid updateFn) => ∃ flights known type,
      latest servicesRead past = some flights ∧ latest typesRead past = some known ∧ type ∈ known ∧
        type.metadata.id = uid ∧ updateFn = fun now _ => .ok (typeStatus flights type.resource.provider now)
  | _ => True

/-- Statuses are written from the record, and after a call that outdates
statuses the request owes all of them. -/
def Accountable : List ApiEvent → RequestProgram → Prop
  | _, .done _ => True
  | past, .call issued next => FromRecord past issued ∧ ∀ answer,
      (issued.Outdates → ∀ id, Owes id (next answer)) ∧ Accountable (past ++ [⟨issued, answer⟩]) (next answer)

theorem ApiCall.Quiet.not_outdates {call : ApiCall} (h : call.Quiet) : ¬call.Outdates := by
  cases call with
  | store operation => cases operation <;> first | exact h.elim | exact not_false
  | _ => exact not_false

theorem ApiCall.Quiet.fromRecord {call : ApiCall} (h : call.Quiet)
    (past : List ApiEvent) : FromRecord past call := by
  cases call with
  | store operation => cases operation <;> trivial
  | _ => trivial

variable {past : List ApiEvent} {types : List DataConnectionTypeResource}

theorem accountable_of_issues {program : RequestProgram} (h : program.Issues ApiCall.Quiet) :
    Accountable past program := by
  induction program generalizing past with
  | done result => trivial
  | call issued next ih =>
    exact ⟨h.1.fromRecord past, fun answer =>
      ⟨fun hOutdates => absurd hOutdates h.1.not_outdates, ih answer (h.2 answer)⟩⟩

theorem updateTypes_owes (flights : List FlightServiceResource) (response : HttpResponse) {id : String}
    (h : ∃ type ∈ types, type.metadata.id = id) :
    Owes id (updateThen flights types response) := by
  induction types with
  | nil => simp at h
  | cons type rest ih =>
    by_cases hHere : type.metadata.id = id
    · exact .inl ⟨hHere, fun error => trivial⟩
    · right
      intro answer
      cases answer with
      | error error => trivial
      | ok updated =>
        obtain ⟨found, hFound, hId⟩ := h
        rcases mem_cons.mp hFound with rfl | hRest
        · exact absurd hId hHere
        · exact ih ⟨found, hRest, hId⟩

variable (service : ApiService) (response : HttpResponse) (texts : LibraryTexts)

theorem audit_owes (id : String) : Owes id (auditThen response) := by
  intro services
  cases services with
  | error error => trivial
  | ok flights =>
    exact ⟨fun error => trivial, fun list hListed => updateTypes_owes flights.items response hListed⟩

theorem updateTypes_accountable {flights : List FlightServiceResource} {known : List DataConnectionTypeResource}
    (hFlights : latest servicesRead past = some flights) (hKnown : latest typesRead past = some known)
    (hTypes : ∀ type ∈ types, type ∈ known) (response : HttpResponse) :
    Accountable past (updateThen flights types response) := by
  induction types generalizing past with
  | nil => trivial
  | cons type rest ih =>
    refine ⟨⟨flights, known, type, hFlights, hKnown, hTypes type (mem_cons_self ..), rfl, rfl⟩,
      fun answer => ⟨False.elim, ?_⟩⟩
    cases answer with
    | error error => trivial
    | ok updated =>
      refine ih ?_ ?_ fun other hOther => hTypes other (mem_cons_of_mem _ hOther)
      · rw [latest_append]
        exact hFlights
      · rw [latest_append]
        exact hKnown

theorem audit_accountable (past : List ApiEvent) : Accountable past (auditThen response) := by
  refine ⟨trivial, fun services => ⟨False.elim, ?_⟩⟩
  cases services with
  | error error => trivial
  | ok flights =>
    refine ⟨trivial, fun listed => ⟨False.elim, ?_⟩⟩
    cases listed with
    | error error => trivial
    | ok types =>
      refine updateTypes_accountable ?_ ?_ (fun _ => id) response
      · rw [latest_append, latest_append]
        rfl
      · rw [latest_append]
        rfl

/-- A store call, and then the audit of the types. -/
theorem store_accountable (operation : StoreCall) (h : FromRecord past (.store operation))
    (onError : MetaStoreError → RestErrorResponse) (response : operation.Value → HttpResponse) :
    Accountable past (ExceptT.run (do
      let value ← store operation onError
      auditDataConnectionTypes
      return response value : ApiM HttpResponse)) := by
  refine ⟨h, fun answer => ?_⟩
  cases answer with
  | error error => exact ⟨fun _ id => trivial, trivial⟩
  | ok value => exact ⟨fun _ id => audit_owes (response value) id, audit_accountable (response value) _⟩

theorem createFlightService_accountable (flight : FlightService) :
    Accountable [] (ExceptT.run (createFlightService service texts flight)) := by
  refine ⟨trivial, fun reported => ⟨False.elim, ?_⟩⟩
  cases reported with
  | error error => trivial
  | ok connectors =>
    refine ⟨trivial, fun registered => ⟨False.elim, ?_⟩⟩
    cases registered with
    | error error => trivial
    | ok flights =>
      change Accountable _ (ExceptT.run (if (takenConnectors flights.items
        (connectors.map SupportedConnector.name)).isEmpty then _ else _))
      split
      · exact store_accountable (.createFlightService _) trivial _ _
      · trivial

theorem createConnectionType_accountable (ctx : ApiContext) (type : DataConnectionType) :
    Accountable [] (ExceptT.run (createConnectionType ctx type)) := by
  unfold createConnectionType
  cases validateType type with
  | error error => trivial
  | ok _ => exact store_accountable (.createDataConnectionType _ _) trivial _ _

theorem handle_accountable (request : Request) : Accountable [] (ExceptT.run (handle service texts request)) := by
  unfold handle
  cases request.endpoint with
  | health | notFound => trivial
  | data endpoint =>
    cases validateHeaders request.headers with
    | error error => trivial
    | ok ctx =>
      cases hOrdinary : endpoint.ordinary with
      | true =>
        exact accountable_of_issues ((endpoint.handle_tame service texts ctx hOrdinary).imp fun _ => And.right)
      | false =>
        cases endpoint with
        | exportConnection id secretName =>
          exact accountable_of_issues (exportConnection_quiet service ctx id secretName)
        | checkExistentConnection id =>
          exact accountable_of_issues (checkExistentConnection_quiet ctx id)
        | createConnectionType type => exact createConnectionType_accountable ctx type
        | patchConnectionType id patch =>
          exact store_accountable (.updateDataConnectionType _ _ _) trivial _ _
        | createFlightService flight => exact createFlightService_accountable service texts flight
        | deleteFlightService id =>
          exact store_accountable (.deleteFlightService _) trivial _ _
        | patchFlightService id patch =>
          exact store_accountable (.updateFlightService _ _) trivial _ _
        | _ => cases hOrdinary

end Code

section Store

variable {globalTenantId : String} {store : Tables} {choice : Choice}

/-- A quiet call changes no Flight service and adds or changes no type. -/
theorem quiet_effect {operation : StoreCall} {stamp : Stamp} {call : MetaCall} {answer : MetaAnswer}
    {changed : Registry} (hQuiet : (ApiCall.store operation).Quiet) (hWriting : operation.writing stamp = some call)
    (hEffect : call.Effect globalTenantId registry answer changed) :
    changed .flightServices = registry .flightServices ∧
      ∀ type ∈ changed .dataConnectionTypes, type ∈ registry .dataConnectionTypes := by
  cases operation with
  | createDataConnection | updateDataConnection | updateDataConnectionStatus | deleteDataConnection =>
    cases hWriting
    have hTypes : changed .dataConnectionTypes = registry .dataConnectionTypes := hEffect.other nofun
    exact ⟨hEffect.other nofun, fun type hType => hTypes ▸ hType⟩
  | deleteDataConnectionType tenantId uid =>
    cases hWriting
    refine ⟨hEffect.other nofun, fun type hType => ?_⟩
    cases hEffect
    exact (Registry.mem_remove.mp hType).1
  | _ => first | exact hQuiet.elim | cases hWriting

variable {issued : ApiCall}

theorem serve_quiet (hStore : WellFormed store) (h : issued.Quiet) :
    let after := rows (System.serve globalTenantId choice store issued).2
    after .flightServices = rows store .flightServices ∧
      ∀ type ∈ after .dataConnectionTypes, type ∈ rows store .dataConnectionTypes := by
  cases issued with
  | store operation =>
    change rows (operation.run globalTenantId choice.stamp choice.faults store).2 .flightServices = _ ∧
      ∀ type ∈ rows (operation.run globalTenantId choice.stamp choice.faults store).2 .dataConnectionTypes, _
    cases hWriting : operation.writing choice.stamp with
    | none =>
      rw [StoreCall.run_store_of_reading hWriting]
      exact ⟨rfl, fun type => id⟩
    | some call =>
      rcases StoreCall.run_cases_of_writing hWriting hStore with ⟨value, -, hEffect⟩ | ⟨-, hSame⟩
      · exact quiet_effect h hWriting hEffect
      · rw [hSame]
        exact ⟨rfl, fun type => id⟩
  | _ => exact ⟨rfl, fun type => id⟩

/-- A status update fails, or it changes the status of one type only. -/
theorem serve_typeStatus (choice : Choice) (hStore : WellFormed store) {uid : String}
    (updateFn : String → UpdateFn DataConnectionTypeStatus) :
    let served := System.serve globalTenantId choice store (.store (.updateDataConnectionTypeStatus uid updateFn))
    (∃ error, served.1 = .error error) ∧ served.2 = store ∨
    ∃ existing ∈ rows store .dataConnectionTypes, existing.metadata.id = uid ∧ ∃ status,
      updateFn choice.stamp.clock existing.status = .ok status ∧
      rows served.2 .flightServices = rows store .flightServices ∧
      ∀ type ∈ rows served.2 .dataConnectionTypes, (type ∈ rows store .dataConnectionTypes ∧ type.metadata.id ≠ uid) ∨
          (type.resource = existing.resource ∧ type.status = status) := by
  have hWriting : (StoreCall.updateDataConnectionTypeStatus uid updateFn).writing choice.stamp =
    some (.updateDataConnectionTypeStatus uid (updateFn choice.stamp.clock) choice.stamp.now) := rfl
  rcases StoreCall.run_cases_of_writing hWriting hStore with ⟨value, -, hEffect⟩ | hFailed
  · right
    change ∃ existing ∈ rows store .dataConnectionTypes, existing.metadata.id = uid ∧ ∃ status, _ ∧
      rows (StoreCall.run globalTenantId choice.stamp choice.faults store _).2 .flightServices = _ ∧
      ∀ type ∈ rows (StoreCall.run globalTenantId choice.stamp choice.faults store _).2 .dataConnectionTypes, _
    revert hEffect
    generalize rows (StoreCall.run globalTenantId choice.stamp choice.faults store _).2 = after
    intro hEffect
    have hFlights : after .flightServices = rows store .flightServices := hEffect.other nofun
    cases hEffect with
    | updateDataConnectionTypeStatus hExisting hFinds hChange =>
      obtain ⟨status, hStatus, rfl⟩ := map_eq_ok.mp hChange
      refine ⟨_, hExisting, hFinds.1, status, hStatus, hFlights, fun type hType => ?_⟩
      rcases Registry.mem_replace_cases hType with hOld | rfl
      · exact .inl hOld
      · exact .inr ⟨rfl, rfl⟩
  · exact .inl hFailed

/-- A debt stays while a quiet call is answered: the type is in the table, so
it is listed. -/
theorem Owes.serve_quiet (hStore : WellFormed store) (hType : type ∈ rows store .dataConnectionTypes)
    {next : issued.Response → RequestProgram} (hQuiet : issued.Quiet) (h : Owes type.metadata.id (.call issued next)) :
    Owes type.metadata.id (next (System.serve globalTenantId choice store issued).1) := by
  cases issued with
  | store operation =>
    cases operation with
    | getAllDataConnectionTypes =>
      cases hList : (System.serve globalTenantId choice store (.store .getAllDataConnectionTypes)).1 with
      | error error => exact h.1 error
      | ok list =>
        refine h.2 list ⟨hideGlobalTenant globalTenantId type, ?_, ?_⟩
        · rw [StoreCall.items_of_getAllDataConnectionTypes hStore hList]
          exact mem_map_of_mem hType
        · rw [hideGlobalTenant]
          split <;> rfl
    | updateDataConnectionTypeStatus uid updateFn => exact hQuiet.elim
    | _ => exact h _
  | _ => exact h _

end Store

section Runs

variable {Client : Type}

/-- The type whose status the code is about to write. -/
def nextStatus : RequestProgram → Option String
  | .call (.store (.updateDataConnectionTypeStatus uid _)) _ => some uid
  | _ => none

/-- The condition on a turn: when an audit writes the status of a type, the
type has the provider that the audit read, and the provider has the service
that the audit read. -/
def Fresh (system : System Client) (client : Client) : Prop :=
  ∀ uid ∈ nextStatus (system.sessions client).program, ∀ flights ∈ latest servicesRead (system.sessions client).past,
      ∀ known ∈ latest typesRead (system.sessions client).past,
        ∀ type ∈ rows system.store .dataConnectionTypes, type.metadata.id = uid →
          supporter flights type.resource.provider =
              supporter (rows system.store .flightServices) type.resource.provider ∧
            ∀ read ∈ known, read.metadata.id = uid → read.resource.provider = type.resource.provider

instance (system : System Client) (client : Client) : Decidable (Fresh system client) :=
  inferInstanceAs (Decidable (∀ uid ∈ nextStatus _, _))

variable {globalTenantId : String} {system : System Client}

/-- A status is up to date, or a request that is still running owes it. -/
def Settled (system : System Client) : Prop :=
  ∀ type ∈ rows system.store .dataConnectionTypes, UpToDate (rows system.store) type ∨
    ∃ client, Owes type.metadata.id (system.sessions client).program

/-- What holds between the turns. -/
structure Settling (globalTenantId : String) (system : System Client) : Prop where
  reachable : Reachable globalTenantId system.store
  accountable : ∀ client, Accountable (system.sessions client).past (system.sessions client).program
  settled : Settled system

theorem Settling.initial {service : ApiService} (texts : LibraryTexts) (requests : Client → Request)
    {store : Tables} (hReachable : Reachable service.globalTenantId store)
    (hCurrent : ∀ type ∈ rows store .dataConnectionTypes, UpToDate (rows store) type) :
    Settling service.globalTenantId (System.initial service texts store requests) :=
  ⟨hReachable, fun client => handle_accountable service texts (requests client),
    fun type hType => .inl (hCurrent type hType)⟩

variable [DecidableEq Client] {turn : Client × Choice} {issued : ApiCall} {next : issued.Response → RequestProgram}

/-- Debts of other clients stay, and a debt of this client stays if its code
keeps it. -/
theorem owed_step {id : String} (hProgram : (system.sessions turn.1).program = .call issued next)
    (hOwes : Owes id (.call issued next) → Owes id (next (System.serve globalTenantId turn.2 system.store issued).1))
    (h : ∃ client, Owes id (system.sessions client).program) :
    ∃ client, Owes id ((system.step globalTenantId turn).sessions client).program := by
  obtain ⟨client, hClient⟩ := h
  refine ⟨client, ?_⟩
  by_cases hSelf : client = turn.1
  · subst hSelf
    rw [hProgram] at hClient
    rw [System.step_self hProgram]
    exact hOwes hClient
  · rwa [System.step_other turn hSelf]

theorem Settling.settled_quiet (h : Settling globalTenantId system)
    (hProgram : (system.sessions turn.1).program = .call issued next) (hQuiet : issued.Quiet) :
    Settled (system.step globalTenantId turn) := by
  intro type hType
  have hStore := h.reachable.wellFormed
  rw [System.step_store hProgram] at hType ⊢
  obtain ⟨hFlights, hTypes⟩ := serve_quiet hStore hQuiet
  have hOld := hTypes type hType
  rcases h.settled type hOld with hCurrent | hOwed
  · exact .inl (hCurrent.congr hFlights)
  · exact .inr (owed_step hProgram (fun hOwes => hOwes.serve_quiet hStore hOld hQuiet) hOwed)

/-- The types after a fresh status update: the type it wrote is up to date. -/
theorem Settling.settled_typeStatus (h : Settling globalTenantId system) {uid : String}
    {updateFn : String → UpdateFn DataConnectionTypeStatus}
    {next : (ApiCall.store (.updateDataConnectionTypeStatus uid updateFn)).Response → RequestProgram}
    (hProgram : (system.sessions turn.1).program = .call (.store (.updateDataConnectionTypeStatus uid updateFn)) next)
    (hFresh : Fresh system turn.1) : Settled (system.step globalTenantId turn) := by
  intro type hType
  rw [System.step_store hProgram] at hType ⊢
  rcases serve_typeStatus turn.2 h.reachable.wellFormed updateFn with
    ⟨⟨error, hError⟩, hSame⟩ | ⟨existing, hExisting, hId, status, hStatus, hFlights, hTypes⟩
  · -- a failed update changes no table, and the request still owes what it owed
    rw [hSame] at hType ⊢
    refine (h.settled type hType).imp_right (owed_step hProgram fun hOwes => ?_)
    rw [hError]
    rcases hOwes with ⟨-, hOwes⟩ | hOwes
    · exact hOwes error
    · exact hOwes _
  · rcases hTypes type hType with ⟨hOld, hOther⟩ | ⟨hResource, hWritten⟩
    · refine (h.settled type hOld).imp (fun hCurrent => hCurrent.congr hFlights) (owed_step hProgram fun hOwes => ?_)
      rcases hOwes with ⟨hUid, -⟩ | hOwes
      · exact absurd hUid.symm hOther
      · exact hOwes _
    · left
      have hAccount := h.accountable turn.1
      rw [hProgram] at hAccount
      obtain ⟨flights, known, read, hServices, hKnown, hRead, hReadId, rfl⟩ := hAccount.1
      rw [Fresh, hProgram] at hFresh
      obtain ⟨hSupporter, hProvider⟩ :=
        hFresh uid rfl flights hServices known hKnown existing hExisting hId
      rw [← hResource] at hSupporter hProvider
      have hComputed : type.status = typeStatus flights type.resource.provider turn.2.stamp.clock := by
        rw [hWritten, ← Except.ok.inj hStatus, hProvider read hRead hReadId]
      exact upToDate_of_supporter hComputed (by rwa [hFlights])

theorem ApiCall.quiet_or (issued : ApiCall) : issued.Quiet ∨ issued.Outdates ∨ ∃ uid updateFn,
      issued = .store (.updateDataConnectionTypeStatus uid updateFn) := by
  cases issued with
  | store operation =>
    cases operation with
    | updateDataConnectionTypeStatus uid updateFn => exact .inr (.inr ⟨uid, updateFn, rfl⟩)
    | createFlightService | updateFlightService | deleteFlightService | createDataConnectionType
    | updateDataConnectionType => exact .inr (.inl trivial)
    | _ => exact .inl trivial
  | _ => exact .inl trivial

theorem Settling.step (h : Settling globalTenantId system) (hFresh : Fresh system turn.1) :
    Settling globalTenantId (system.step globalTenantId turn) := by
  cases hProgram : (system.sessions turn.1).program with
  | done result => rwa [System.step_of_done hProgram]
  | call issued next =>
    have hAccount := h.accountable turn.1
    rw [hProgram] at hAccount
    refine ⟨System.step_reachable turn h.reachable, fun client => ?_, ?_⟩
    · by_cases hSelf : client = turn.1
      · subst hSelf
        rw [System.step_self hProgram]
        exact (hAccount.2 _).2
      · rw [System.step_other turn hSelf]
        exact h.accountable client
    · rcases issued.quiet_or with hQuiet | hOutdates | ⟨uid, updateFn, rfl⟩
      · exact h.settled_quiet hProgram hQuiet
      · refine fun type _ => .inr ⟨turn.1, ?_⟩
        rw [System.step_self hProgram]
        exact (hAccount.2 _).1 hOutdates type.metadata.id
      · exact h.settled_typeStatus hProgram hFresh

end Runs

/-- However requests interleave: while every status is written fresh, once all
requests have succeeded every type has the status that an audit of the
registered services would give it. -/
theorem statuses_settle {Client : Type} [DecidableEq Client] (service : ApiService) (texts : LibraryTexts)
    (requests : Client → Request) (store : Tables) (turns : List (Client × Choice))
    (hReachable : Reachable service.globalTenantId store)
    (hCurrent : ∀ type ∈ rows store .dataConnectionTypes, UpToDate (rows store) type)
    (hTurns : Throughout (System.step service.globalTenantId) (fun system turn => Fresh system turn.1)
      (System.initial service texts store requests) turns) :
    let system := (System.initial service texts store requests).run service.globalTenantId turns
    (∀ client, (system.sessions client).Succeeded) →
      ∀ type ∈ rows system.store .dataConnectionTypes, UpToDate (rows system.store) type := by
  intro system hDone type hType
  have hSettling : Settling service.globalTenantId system :=
    hTurns.preserves (fun h hFresh => h.step hFresh) (.initial texts requests hReachable hCurrent)
  rcases hSettling.settled type hType with hUpToDate | ⟨client, hOwes⟩
  · exact hUpToDate
  · obtain ⟨response, hProgram⟩ := (hDone client).program_eq
    rw [hProgram] at hOwes
    exact hOwes.elim

/-- A type is created, a service for it is created and deleted again. -/
def registryRequests : Fin 3 → Request
  | 0 => sampleRequest (.createFlightService (sampleFlight "alpha"))
  | 1 => sampleRequest (.deleteFlightService "flight-1")
  | 2 => sampleRequest (.createConnectionType sampleType)

/-- The create reads the registry for its audit, the delete runs to its end,
and then the create writes what it had computed. -/
def overtakenTurns : List (Fin 3 × Choice) :=
  List.replicate 4 (sampleTurn 2 "type-1" []) ++ List.replicate 5 (sampleTurn 0 "flight-1" ["postgres"]) ++
    List.replicate 4 (sampleTurn 1 "" []) ++ [sampleTurn 0 "" []]

/-- All three requests run one after another. -/
def orderlyTurns : List (Fin 3 × Choice) :=
  List.replicate 4 (sampleTurn 2 "type-1" []) ++ List.replicate 6 (sampleTurn 0 "flight-1" ["postgres"]) ++
    List.replicate 4 (sampleTurn 1 "" [])

/-- All three requests succeed, and the type has the status of a service that
is not registered. -/
theorem status_of_deleted_service :
    let system := (System.initial ⟨"global", true⟩ sampleTexts emptyStore registryRequests).run "global" overtakenTurns
    (∀ client, (system.sessions client).Succeeded) ∧ rows system.store .flightServices = [] ∧
      ∃ type ∈ rows system.store .dataConnectionTypes, type.status.flightReady = true ∧
        ¬UpToDate (rows system.store) type := by
  decide +kernel

theorem statuses_settle_sample :
    let system := (System.initial ⟨"global", true⟩ sampleTexts emptyStore registryRequests).run "global" orderlyTurns
    ∀ type ∈ rows system.store .dataConnectionTypes, UpToDate (rows system.store) type :=
  statuses_settle ⟨"global", true⟩ sampleTexts registryRequests emptyStore orderlyTurns .empty
    (by decide) (by decide +kernel) (by decide +kernel)

end DataConnectHub.Rest
