import DataConnectHub.Rest.FailedRequests

/-! What a readiness check leaves in the status of its connection. Each way in
which the check can end writes the status first, except one: when no Flight
service is found for the connector, the check ends with the status it found. -/
namespace DataConnectHub.Rest

open Serde RowStore Interaction Program Transaction List

/-- The state in the stored status of a connection. -/
def storedState (store : Tables) (tenantId id : String) : Option DataConnectionState :=
  ((rows store .dataConnections).find? fun row =>
    row.metadata.id = id && row.metadata.tenantId = some tenantId).map fun row => row.status.state

def Conducted.Succeeded (run : Conducted) : Prop := run.result.toOption.isSome = true

instance (run : Conducted) : Decidable run.Succeeded := inferInstanceAs (Decidable (_ = _))

/-- The connection and its type are there, and the status can be written. -/
def granted : ApiEvent → Bool
  | ⟨.store (.getDataConnection _ _), .error _⟩ => false
  | ⟨.store (.getDataConnectionType _ _), .error _⟩ => false
  | ⟨.store (.updateDataConnectionStatus _ _ _), .error _⟩ => false
  | _ => true

/-- The check has come to the lookup of a Flight service, and that has failed. -/
def LookupFailed (record : List ApiEvent) : Prop :=
  ∃ connector error, ⟨.store (.getFlightServiceByConnector connector), .error error⟩ ∈ record

/-- The result of a check says what is stored afterwards. -/
def Recorded (run : Conducted) (tenantId id : String) : Prop :=
  (run.Succeeded ↔ storedState run.store tenantId id = some .ready) ∧
    (run.Failed → storedState run.store tenantId id = some .notReady ∨
      storedState run.store tenantId id = some .ingestionNotReady)

section Status

variable {globalTenantId tenantId id : String} {store : Tables} {outcomes : Nat → Outcome}

theorem storedState_of_mem (hStore : WellFormed store) {row : DataConnectionResource}
    (hRow : row ∈ rows store .dataConnections) (hId : row.metadata.id = id)
    (hTenant : row.metadata.tenantId = some tenantId) :
    storedState store tenantId id = some row.status.state := by
  rw [storedState]
  cases hFind : (rows store .dataConnections).find? fun row =>
      row.metadata.id = id && row.metadata.tenantId = some tenantId with
  | none =>
    have hMiss := find?_eq_none.mp hFind row hRow
    simp [hId, hTenant] at hMiss
  | some other =>
    have hOther := find?_some hFind
    simp only [Bool.and_eq_true, decide_eq_true_eq] at hOther
    have hSame : other = row := @Registry.Sound.eq_of_id _ .dataConnections (sound_rows hStore) _ _
      (mem_of_find?_eq_some hFind) hRow (hOther.1.trans hId.symm)
    rw [hSame]
    rfl

variable {state : DataConnectionState} {message : Option String}

/-- A status that is written is the one stored afterwards. -/
theorem storedState_of_update {after : Tables} (hAfter : WellFormed after) {now clock : String}
    {answer : MetaAnswer} (h : (MetaCall.updateDataConnectionStatus tenantId id
      (fun _ => .ok ⟨state, message, some clock⟩) now).Effect globalTenantId (rows store) answer (rows after)) :
    storedState after tenantId id = some state := by
  generalize hRows : rows after = changed at h
  cases h with
  | @updateDataConnectionStatus _ _ _ _ existing resource hExisting hFinds hChange =>
    cases hChange
    have hWritten : (⟨{ existing.metadata with updatedAt := now }, existing.resource,
        ⟨state, message, some clock⟩⟩ : DataConnectionResource) ∈ rows after .dataConnections := by
      rw [hRows, Registry.replace_self, mem_map]
      exact ⟨existing, hExisting, if_pos hFinds.1⟩
    exact storedState_of_mem hAfter hWritten hFinds.1 (hFinds.2 tenantId rfl)

/-- The call that writes a status. -/
def statusCall (tenantId id : String) (state : DataConnectionState) (message : Option String) : ApiCall :=
  .store (.updateDataConnectionStatus tenantId id fun now _ => .ok ⟨state, message, some now⟩)

/-- A check that ends with a write of the status leaves it stored. -/
theorem conduct_setStatus (hStore : WellFormed store) {result : Except RestErrorResponse HttpResponse}
    {next : (statusCall tenantId id state message).Response → RequestProgram}
    (hNext : ∀ value, next (.ok value) = .done result) (hGranted : ∀ event ∈ (conduct globalTenantId outcomes
      (.call (statusCall tenantId id state message) next) store).record, granted event = true) :
    let run := conduct globalTenantId outcomes (.call (statusCall tenantId id state message) next) store
    run.result = result ∧ storedState run.store tenantId id = some state ∧ ¬LookupFailed run.record := by
  rcases (outcomes 0).serve_store globalTenantId (.updateDataConnectionStatus tenantId id
      fun now _ => .ok ⟨state, message, some now⟩) hStore with
    ⟨error, hServed⟩ | ⟨value, after, hServed, hAfter, ⟨hWriting, -⟩ | ⟨call, hWriting, hEffect⟩⟩
  · have hRun : conduct globalTenantId outcomes (.call (statusCall tenantId id state message) next) store = _ :=
      conduct_call hServed
    rw [hRun] at hGranted
    cases hGranted _ (mem_cons_self ..)
  · cases hWriting
  · cases hWriting
    have hRun : conduct globalTenantId outcomes (.call (statusCall tenantId id state message) next) store = _ :=
      conduct_call hServed
    rw [hRun, hNext]
    refine ⟨rfl, storedState_of_update hAfter hEffect, ?_⟩
    rintro ⟨connector, error, hEvent⟩
    cases mem_singleton.mp hEvent

end Status

section Checks

variable (globalTenantId tenantId id : String)

/-- How a check can end. -/
inductive Verdict (store : Tables) (run : Conducted) : Prop where
  | ready (hSucceeded : run.Succeeded) (hState : storedState run.store tenantId id = some .ready)
      (hServed : ¬LookupFailed run.record) : Verdict store run
  | refused {state : DataConnectionState} (hFailed : run.Failed)
      (hState : storedState run.store tenantId id = some state) (hRefused : state ≠ .ready)
      (hServed : ¬LookupFailed run.record) : Verdict store run
  | unserved (hFailed : run.Failed) (hLookup : LookupFailed run.record) (hSame : run.store = store) :
      Verdict store run

/-- Code that ends in one of these ways, whatever its calls meet. -/
def Checks (program : RequestProgram) : Prop :=
  ∀ outcomes store, WellFormed store →
    (∀ event ∈ (conduct globalTenantId outcomes program store).record, granted event = true) →
      Verdict tenantId id store (conduct globalTenantId outcomes program store)

variable {globalTenantId tenantId id} {event : ApiEvent} {issued : ApiCall}
  {message : Option String}

theorem lookupFailed_cons {record : List ApiEvent} (h : ¬LookupFailed [event]) :
    LookupFailed (event :: record) ↔ LookupFailed record := by
  constructor
  · rintro ⟨connector, error, hEvent⟩
    rcases mem_cons.mp hEvent with rfl | hLater
    · exact absurd ⟨connector, error, mem_singleton_self _⟩ h
    · exact ⟨connector, error, hLater⟩
  · rintro ⟨connector, error, hEvent⟩
    exact ⟨connector, error, mem_cons_of_mem _ hEvent⟩

theorem not_lookupFailed (h : ∀ connector, issued ≠ .store (.getFlightServiceByConnector connector))
    (answer : issued.Response) : ¬LookupFailed [⟨issued, answer⟩] := by
  rintro ⟨connector, error, hEvent⟩
  cases mem_singleton.mp hEvent
  exact h connector rfl

theorem Verdict.cons {store : Tables} {run : Conducted} (hEvent : ¬LookupFailed [event])
    (h : Verdict tenantId id store run) :
    Verdict tenantId id store ⟨run.result, run.store, event :: run.record⟩ := by
  cases h with
  | ready hSucceeded hState hServed => exact .ready hSucceeded hState (mt (lookupFailed_cons hEvent).mp hServed)
  | refused hFailed hState hRefused hServed =>
    exact .refused hFailed hState hRefused (mt (lookupFailed_cons hEvent).mp hServed)
  | unserved hFailed hLookup hSame => exact .unserved hFailed ((lookupFailed_cons hEvent).mpr hLookup) hSame

/-- A read that is no lookup of a Flight service. -/
theorem checks_read {next : issued.Response → RequestProgram} (hReads : issued.Reads)
    (hOther : ∀ connector, issued ≠ .store (.getFlightServiceByConnector connector))
    (hNext : ∀ answer, granted ⟨issued, answer⟩ = true → Checks globalTenantId tenantId id (next answer)) :
    Checks globalTenantId tenantId id (.call issued next) := by
  intro outcomes store hStore hGranted
  have hServed : (outcomes 0).serve globalTenantId store issued =
      (((outcomes 0).serve globalTenantId store issued).1, store) :=
    Prod.ext rfl ((outcomes 0).serve_reads hReads)
  rw [conduct_call hServed] at hGranted ⊢
  have hChecks := hNext _ (hGranted _ (mem_cons_self ..))
  exact (hChecks _ _ hStore fun event hEvent => hGranted event (mem_cons_of_mem _ hEvent)).cons
    (not_lookupFailed hOther _)

/-- The lookup of a Flight service ends the check when it fails. -/
theorem checks_lookup {connector : String}
    {next : (ApiCall.store (.getFlightServiceByConnector connector)).Response → RequestProgram}
    (hFails : ∀ error, ∃ response, next (.error error) = .done (.error response))
    (hNext : ∀ flight, Checks globalTenantId tenantId id (next (.ok flight))) :
    Checks globalTenantId tenantId id (.call (.store (.getFlightServiceByConnector connector)) next) := by
  intro outcomes store hStore hGranted
  have hReads : (ApiCall.store (.getFlightServiceByConnector connector)).Reads := fun _ => rfl
  have hServed : ((outcomes 0).serve globalTenantId store
      (.store (.getFlightServiceByConnector connector))).2 = store := (outcomes 0).serve_reads hReads
  generalize hAnswer : (outcomes 0).serve globalTenantId store
    (.store (.getFlightServiceByConnector connector)) = served at hServed
  obtain ⟨answer, after⟩ := served
  obtain rfl : after = store := hServed
  rw [conduct_call hAnswer] at hGranted ⊢
  cases answer with
  | error error =>
    obtain ⟨response, hDone⟩ := hFails error
    rw [hDone]
    exact .unserved rfl ⟨connector, error, mem_cons_self ..⟩ rfl
  | ok flight =>
    refine (hNext flight _ _ hStore fun event hEvent => hGranted event (mem_cons_of_mem _ hEvent)).cons ?_
    rintro ⟨other, error, hEvent⟩
    cases mem_singleton.mp hEvent

theorem checks_ready {response : HttpResponse}
    {next : (statusCall tenantId id .ready message).Response → RequestProgram}
    (hNext : ∀ value, next (.ok value) = .done (.ok response)) :
    Checks globalTenantId tenantId id (.call (statusCall tenantId id .ready message) next) := by
  intro outcomes store hStore hGranted
  obtain ⟨hResult, hState, hServed⟩ := conduct_setStatus hStore hNext hGranted
  refine .ready ?_ hState hServed
  exact congrArg (fun result => result.toOption.isSome) hResult

theorem checks_refused {state : DataConnectionState} {error : RestErrorResponse}
    {next : (statusCall tenantId id state message).Response → RequestProgram} (hRefused : state ≠ .ready)
    (hNext : ∀ value, next (.ok value) = .done (.error error)) :
    Checks globalTenantId tenantId id (.call (statusCall tenantId id state message) next) := by
  intro outcomes store hStore hGranted
  obtain ⟨hResult, hState, hServed⟩ := conduct_setStatus hStore hNext hGranted
  refine .refused ?_ hState hRefused hServed
  exact congrArg (fun result => result.toOption.isNone) hResult

theorem auditCredentials_checks (connection : DataConnectionResource) (type : DataConnectionTypeResource)
    (keys : StringMap String) (response : HttpResponse) :
    Checks globalTenantId tenantId id (ExceptT.run (do
      auditCredentials tenantId id connection type keys
      return response)) := by
  have hNotReady : DataConnectionState.notReady ≠ .ready := nofun
  have hIngestion : DataConnectionState.ingestionNotReady ≠ .ready := nofun
  unfold auditCredentials
  cases type.resource.checkCredentialsSchema keys with
  | error error => exact checks_refused hNotReady fun _ => rfl
  | ok _ =>
    refine checks_lookup (fun error => ⟨_, rfl⟩) fun flight => ?_
    refine checks_read trivial nofun fun answer _ => ?_
    cases answer with
    | ok _ => exact checks_ready fun _ => rfl
    | error status => exact checks_refused hIngestion fun _ => rfl

theorem checkExistentConnection_checks (ctx : ApiContext) :
    Checks globalTenantId ctx.tenantId id (ExceptT.run (checkExistentConnection ctx id)) := by
  have hNotReady : DataConnectionState.notReady ≠ .ready := nofun
  refine checks_read (fun _ => rfl) nofun fun answer hGranted => ?_
  cases answer with
  | error error => cases hGranted
  | ok connection =>
    refine checks_read (fun _ => rfl) nofun fun answer hGranted => ?_
    cases answer with
    | error error => cases hGranted
    | ok type =>
      refine checks_read trivial nofun fun answer _ => ?_
      cases answer with
      | ok secret => exact auditCredentials_checks connection type secret.properties ⟨204, .empty⟩
      | error error => exact checks_refused hNotReady fun _ => rfl

end Checks

theorem Conducted.not_succeeded {run : Conducted} (h : run.Failed) : ¬run.Succeeded := by
  obtain ⟨result, store, record⟩ := run
  cases result with
  | error error => exact nofun
  | ok response => cases h

theorem Conducted.not_failed {run : Conducted} (h : run.Succeeded) : ¬run.Failed :=
  fun hFailed => run.not_succeeded hFailed h

/-- The first call of the check finds the connection in the table. -/
theorem exists_storedState {globalTenantId id : String} {ctx : ApiContext} {outcomes : Nat → Outcome}
    {store : Tables} (hStore : WellFormed store) (hGranted : ∀ event ∈ (conduct globalTenantId outcomes
      (ExceptT.run (checkExistentConnection ctx id)) store).record, granted event = true) :
    ∃ state, storedState store ctx.tenantId id = some state := by
  have hFirst := hGranted _ (mem_cons_self ..)
  generalize outcomes 0 = outcome at hFirst
  obtain ⟨refused, choice⟩ := outcome
  cases refused with
  | some error => cases hFirst
  | none =>
    cases hFound : ((StoreCall.getDataConnection ctx.tenantId id).run globalTenantId choice.stamp
        choice.faults store).1 with
    | error error =>
      change granted ⟨.store (.getDataConnection ctx.tenantId id), ((StoreCall.getDataConnection ctx.tenantId id).run
        globalTenantId choice.stamp choice.faults store).1⟩ = true at hFirst
      rw [hFound] at hFirst
      cases hFirst
    | ok connection =>
      obtain ⟨hRow, hId, hTenant⟩ := StoreCall.found_of_getDataConnection hStore hFound
      exact ⟨_, storedState_of_mem hStore hRow hId hTenant⟩

/-- For every stored connection and every outcome of the calls of a readiness
check, where the connection and its type are there and the status can be
written: the check succeeds exactly when it leaves the connection ready, and
leaves it in one of the other states when it fails, unless the lookup of the
Flight service has failed for a connection that was ready before. -/
theorem readiness_recorded_iff (globalTenantId : String) (ctx : ApiContext) (id : String)
    (outcomes : Nat → Outcome) (store : Tables) (hStore : WellFormed store)
    (hGranted : ∀ event ∈ (conduct globalTenantId outcomes
      (ExceptT.run (checkExistentConnection ctx id)) store).record, granted event = true) :
    let run := conduct globalTenantId outcomes (ExceptT.run (checkExistentConnection ctx id)) store
    Recorded run ctx.tenantId id ↔ ¬(LookupFailed run.record ∧ storedState store ctx.tenantId id = some .ready) := by
  intro run
  obtain ⟨state, hState⟩ := exists_storedState hStore hGranted
  have hVerdict : Verdict ctx.tenantId id store run :=
    checkExistentConnection_checks ctx outcomes store hStore hGranted
  cases hVerdict with
  | ready hSucceeded hReady hServed =>
    refine iff_of_true ⟨iff_of_true hSucceeded hReady, fun hFailed => ?_⟩ fun h => hServed h.1
    exact absurd hFailed (run.not_failed hSucceeded)
  | @refused left hFailed hLeft hRefused hServed =>
    refine iff_of_true ⟨iff_of_false (run.not_succeeded hFailed) ?_, fun _ => ?_⟩ fun h => hServed h.1
    · rw [hLeft]
      exact fun h => hRefused (Option.some.inj h)
    · rw [hLeft]
      cases left with
      | ready => exact absurd rfl hRefused
      | notReady => exact .inl rfl
      | ingestionNotReady => exact .inr rfl
  | unserved hFailed hLookup hSameStore =>
    rw [Recorded, hSameStore, hState]
    cases state with
    | ready =>
      refine iff_of_false (fun h => ?_) (not_not_intro ⟨hLookup, rfl⟩)
      exact run.not_succeeded hFailed (h.1.mpr rfl)
    | notReady =>
      exact iff_of_true ⟨iff_of_false (run.not_succeeded hFailed) nofun, fun _ => .inl rfl⟩ nofun
    | ingestionNotReady =>
      exact iff_of_true ⟨iff_of_false (run.not_succeeded hFailed) nofun, fun _ => .inr rfl⟩ nofun

section Samples

/-- A store with a connection whose last check has succeeded. -/
def checkedStore : Tables :=
  ((MetaCall.updateDataConnectionStatus "tenant-1" "connection-1" (fun _ => .ok ⟨.ready, none, none⟩)
    "2026-01-01T00:00:01Z").run "global" noFaults sampleStore).2

theorem checkedStore_reachable : Reachable "global" checkedStore :=
  sampleStore_reachable.run _ noFaults

/-- A check without faults, for which the secret is this. -/
def sampleCheck (secret : Choice) (store : Tables) : Conducted :=
  conduct "global" (fun _ => ⟨none, secret⟩)
    (ExceptT.run (checkExistentConnection ⟨"tenant-1", none⟩ "connection-1")) store

def readableSecret : Choice := openChoice "" ⟨"orders-secret", "tenant-1", ∅, none, none⟩

/-- No Flight service has the connector any more: the check fails, and the
connection stays ready. -/
theorem unserved_stays_ready : (∀ event ∈ (sampleCheck readableSecret checkedStore).record, granted event = true) ∧
      (sampleCheck readableSecret checkedStore).Failed ∧
      storedState (sampleCheck readableSecret checkedStore).store "tenant-1" "connection-1" = some .ready ∧
      ¬Recorded (sampleCheck readableSecret checkedStore) "tenant-1" "connection-1" := by
  have hGranted : ((sampleCheck readableSecret checkedStore).record.all granted) = true := by decide +kernel
  have hFailed : (sampleCheck readableSecret checkedStore).Failed := by decide +kernel
  have hReady : storedState (sampleCheck readableSecret checkedStore).store "tenant-1" "connection-1" =
      some .ready := by decide +kernel
  refine ⟨all_eq_true.mp hGranted, hFailed, hReady, fun hRecorded => ?_⟩
  exact Conducted.not_succeeded hFailed (hRecorded.1.mpr hReady)

def isLookup : ApiEvent → Bool
  | ⟨.store (.getFlightServiceByConnector _), _⟩ => true
  | _ => false

/-- The secret cannot be read: the check fails, and the connection is no longer
ready. -/
theorem readiness_recorded_sample : (sampleCheck (sampleTurn 0 "" []).2 checkedStore).Failed ∧
      Recorded (sampleCheck (sampleTurn 0 "" []).2 checkedStore) "tenant-1" "connection-1" := by
  have hGranted : ((sampleCheck (sampleTurn 0 "" []).2 checkedStore).record.all granted) = true := by
    decide +kernel
  have hFailed : (sampleCheck (sampleTurn 0 "" []).2 checkedStore).Failed := by decide +kernel
  have hIff := readiness_recorded_iff "global" ⟨"tenant-1", none⟩ "connection-1"
    (fun _ => ⟨none, (sampleTurn 0 "" []).2⟩) checkedStore checkedStore_reachable.wellFormed
    (all_eq_true.mp hGranted)
  refine ⟨hFailed, hIff.mpr ?_⟩
  rintro ⟨⟨connector, error, hEvent⟩, -⟩
  have hNone : ((sampleCheck (sampleTurn 0 "" []).2 checkedStore).record.all (!isLookup ·)) = true := by
    decide +kernel
  exact absurd (all_eq_true.mp hNone _ hEvent) Bool.false_ne_true

end Samples

end DataConnectHub.Rest
