import DataConnectHub.Rest.Interleaving

/-! What a failed request leaves behind. The endpoints that register something
commit their own write first and audit the types afterwards, so an error
response says only that one of the two went wrong. The results below say for
which outcomes of the store calls a failed request has changed nothing. -/
namespace DataConnectHub.Rest

open RowStore Interaction Program Transaction RustStd List

/-- How one call of a request turns out. A store call that is refused has no
effect; otherwise it runs on the tables. -/
structure Outcome where
  refused : Option MetaStoreError
  choice : Choice

def Outcome.serve (globalTenantId : String) (outcome : Outcome) (store : Tables) :
    (issued : ApiCall) → issued.Response × Tables
  | .store operation =>
    match outcome.refused with
    | some error => (.error error, store)
    | none => operation.run globalTenantId outcome.choice.stamp outcome.choice.faults store
  | issued => (outcome.choice.reply issued, store)

/-- A request that has been run to its end. -/
structure Conducted where
  result : Except RestErrorResponse HttpResponse
  store : Tables
  record : List ApiEvent

/-- One request on its own; `outcomes n` is how its call with number `n` goes. -/
def conduct (globalTenantId : String) : (Nat → Outcome) → RequestProgram → Tables → Conducted
  | _, .done result, store => ⟨result, store, []⟩
  | outcomes, .call issued next, store =>
    let served := (outcomes 0).serve globalTenantId store issued
    let rest := conduct globalTenantId (fun n => outcomes (n + 1)) (next served.1) served.2
    ⟨rest.result, rest.store, ⟨issued, served.1⟩ :: rest.record⟩

def Conducted.Failed (run : Conducted) : Prop := run.result.toOption.isNone = true

instance (run : Conducted) : Decidable run.Failed := inferInstanceAs (Decidable (_ = _))

/-- The table in which a call registers, changes or removes a type or service,
and the id of the row if it names one. -/
def StoreCall.registers : StoreCall → Option (MetaTable × Option String)
  | .createDataConnectionType _ _ => some (.dataConnectionTypes, none)
  | .updateDataConnectionType _ uid _ => some (.dataConnectionTypes, some uid)
  | .createFlightService _ => some (.flightServices, none)
  | .updateFlightService id _ => some (.flightServices, some id)
  | .deleteFlightService id => some (.flightServices, some id)
  | _ => none

def DataEndpoint.registers : DataEndpoint → Option (MetaTable × Option String)
  | .createConnectionType _ => some (.dataConnectionTypes, none)
  | .patchConnectionType id _ => some (.dataConnectionTypes, some id)
  | .createFlightService _ => some (.flightServices, none)
  | .patchFlightService id _ => some (.flightServices, some id)
  | .deleteFlightService id => some (.flightServices, some id)
  | _ => none

/-- The row that a request was to change or delete has the id it names, and a row
that it was to create has a new one. -/
def Targets (before : Registry) (table : MetaTable) (row : table.Row) : Option String → Prop
  | some uid => (table.metadata row).id = uid
  | none => ∀ other ∈ before table, (table.metadata other).id ≠ (table.metadata row).id

/-- The row that the request is about is in the table just if it was before, and
it is the same row then. -/
def RowKept (table : MetaTable) (uid : Option String) (before after : Registry) : Prop :=
  ∀ row, Targets before table row uid → (row ∈ after table ↔ row ∈ before table)

/-- The times written are not those of the last changes. -/
def ClockMoves (table : MetaTable) (registry : Registry) (outcomes : Nat → Outcome) : Prop :=
  ∀ n, ∀ row ∈ registry table, (table.metadata row).updatedAt ≠ (outcomes n).choice.stamp.now

def Refused : ApiEvent → Prop
  | ⟨.store _, .error _⟩ => True
  | _ => False

/-- The request's own write has succeeded. -/
def Applied : ApiEvent → Prop
  | ⟨.store operation, .ok _⟩ => operation.registers.isSome = true
  | _ => False

/-- The own write succeeded, and a later store call failed. -/
def CutShort (record : List ApiEvent) : Prop :=
  ∃ before own after, record = before ++ own :: after ∧ Applied own ∧ ∃ event ∈ after, Refused event

section Code

def StoreCall.audits : StoreCall → Bool
  | .getAllFlightServices => true
  | .getAllDataConnectionTypes => true
  | .updateDataConnectionTypeStatus _ _ => true
  | _ => false

/-- Code that succeeds when all its store calls do and fails with the first
one that fails. -/
inductive Auditing : RequestProgram → Prop where
  | done (response : HttpResponse) : Auditing (.done (.ok response))
  | call {operation : StoreCall} {next : (ApiCall.store operation).Response → RequestProgram}
      (hAudits : operation.audits = true)
      (hFails : ∀ error, ∃ response, next (.error error) = .done (.error response))
      (hNext : ∀ value, Auditing (next (.ok value))) : Auditing (.call (.store operation) next)

/-- Code that reads, then makes one write to the table, and then audits. -/
inductive Registering (target : MetaTable × Option String) : RequestProgram → Prop where
  | failed (response : RestErrorResponse) : Registering target (.done (.error response))
  | read {issued : ApiCall} {next : issued.Response → RequestProgram} (hReads : issued.Reads)
      (hNext : ∀ answer, Registering target (next answer)) : Registering target (.call issued next)
  | write {operation : StoreCall} {next : (ApiCall.store operation).Response → RequestProgram}
      (hTarget : operation.registers = some target)
      (hFails : ∀ error, ∃ response, next (.error error) = .done (.error response))
      (hNext : ∀ value, Auditing (next (.ok value))) : Registering target (.call (.store operation) next)

theorem updateTypes_auditing (flights : List FlightServiceResource)
    (types : List DataConnectionTypeResource) (response : HttpResponse) :
    Auditing (updateThen flights types response) := by
  induction types with
  | nil => exact .done response
  | cons type rest ih => exact .call rfl (fun _ => ⟨_, rfl⟩) fun _ => ih

theorem audit_auditing (response : HttpResponse) : Auditing (auditThen response) :=
  .call rfl (fun _ => ⟨_, rfl⟩) fun flights =>
    .call rfl (fun _ => ⟨_, rfl⟩) fun types => updateTypes_auditing flights.items types.items response

variable {target : MetaTable × Option String}

/-- A write to the table, and then the audit of the types. -/
theorem store_registering (operation : StoreCall) (h : operation.registers = some target)
    (onError : MetaStoreError → RestErrorResponse) (response : operation.Value → HttpResponse) :
    Registering target (ExceptT.run (do
      let value ← store operation onError
      auditDataConnectionTypes
      return response value : ApiM HttpResponse)) :=
  .write h (fun error => ⟨onError error, rfl⟩) fun value => audit_auditing (response value)

theorem createConnectionType_registering (ctx : ApiContext) (type : DataConnectionType) :
    Registering (.dataConnectionTypes, none) (ExceptT.run (createConnectionType ctx type)) := by
  unfold createConnectionType
  cases validateType type with
  | error error => exact .failed _
  | ok _ => exact store_registering (.createDataConnectionType _ _) rfl _ _

variable (service : ApiService) (texts : LibraryTexts)

theorem createFlightService_registering (flight : FlightService) :
    Registering (.flightServices, none) (ExceptT.run (createFlightService service texts flight)) := by
  refine .read trivial fun reported => ?_
  cases reported with
  | error error => exact .failed _
  | ok connectors =>
    refine .read (fun _ => rfl) fun registered => ?_
    cases registered with
    | error error => exact .failed _
    | ok flights =>
      change Registering _ (ExceptT.run (if (takenConnectors flights.items
        (connectors.map SupportedConnector.name)).isEmpty then _ else _))
      split
      · exact store_registering (.createFlightService _) rfl _ _
      · exact .failed _

theorem DataEndpoint.handle_registering (ctx : ApiContext) {endpoint : DataEndpoint}
    (h : endpoint.registers = some target) :
    Registering target (ExceptT.run (endpoint.handle service texts ctx)) := by
  cases endpoint with
  | createConnectionType type =>
    cases h
    exact createConnectionType_registering ctx type
  | patchConnectionType id patch =>
    cases h
    exact store_registering (.updateDataConnectionType _ _ _) rfl _ _
  | createFlightService flight =>
    cases h
    exact createFlightService_registering service texts flight
  | patchFlightService id patch =>
    cases h
    exact store_registering (.updateFlightService _ _) rfl _ _
  | deleteFlightService id =>
    cases h
    exact store_registering (.deleteFlightService _) rfl _ _
  | _ => cases h

end Code

section Effects

variable {globalTenantId : String} {registry changed : Registry} {table : MetaTable} {operation : StoreCall}
  {stamp : Stamp} {call : MetaCall}

theorem fresh_of_insert {resource : table.Row} (h : (registry.insert table resource).Sound) :
    ∀ other ∈ registry table, (table.metadata other).id ≠ (table.metadata resource).id := by
  have hIds := h.ids table
  rw [Registry.insert_self, map_append, nodup_append] at hIds
  exact fun other hOther => hIds.2.2 _ (mem_map_of_mem hOther) _ (mem_singleton_self _)

theorem mem_replaced {uid : String} {existing : table.Row} (hExisting : existing ∈ registry table)
    (hId : (table.metadata existing).id = uid) (resource : table.Row) :
    resource ∈ registry.replace table uid resource table := by
  rw [Registry.replace_self]
  exact mem_map.mpr ⟨existing, hExisting, if_pos hId⟩

/-- The row is entered with this time, or it is removed. -/
def Rewrites (table : MetaTable) (uid : Option String) (before after : Registry) (now : String) : Prop :=
  (∃ row ∈ after table, Targets before table row uid ∧ (table.metadata row).updatedAt = now) ∨
    table ≠ .dataConnectionTypes ∧ ∃ row ∈ before table, Targets before table row uid ∧ row ∉ after table

theorem rewrites_of_effect (hChanged : changed.Sound) {uid : Option String} {value : operation.Value}
    (hTarget : operation.registers = some (table, uid)) (hWriting : operation.writing stamp = some call)
    (hEffect : call.Effect globalTenantId registry (operation.answer value) changed) :
    Rewrites table uid registry changed stamp.now := by
  cases operation with
  | createDataConnectionType tenantId type | createFlightService flight =>
    cases hTarget
    cases hWriting
    cases hEffect
    exact .inl ⟨_, by simp, fresh_of_insert hChanged, rfl⟩
  | deleteFlightService id =>
    cases hTarget
    cases hWriting
    cases hEffect with
    | deleteFlightService hExisting hFinds =>
      exact .inr ⟨by decide, _, hExisting, hFinds.1, fun hKept => (Registry.mem_remove.mp hKept).2 hFinds.1⟩
  | updateDataConnectionType tenantId id updateFn =>
    cases hTarget
    cases hWriting
    cases hEffect with
    | updateDataConnectionType hExisting hFinds hChange =>
      obtain ⟨type, -, rfl⟩ := map_eq_ok.mp hChange
      exact .inl ⟨_, mem_replaced hExisting hFinds.1 _, hFinds.1, rfl⟩
  | updateFlightService id updateFn =>
    cases hTarget
    cases hWriting
    cases hEffect with
    | updateFlightService hExisting hFinds hChange =>
      obtain ⟨flight, -, rfl⟩ := map_eq_ok.mp hChange
      exact .inl ⟨_, mem_replaced hExisting hFinds.1 _, hFinds.1, rfl⟩
  | _ => cases hTarget

/-- A type without what audits write. -/
def requestedPart (type : DataConnectionTypeResource) : DataConnectionTypeResource :=
  { type with metadata := { type.metadata with updatedAt := "" }, status := .default }

/-- The types as requests have registered them. -/
def requested (registry : Registry) : List DataConnectionTypeResource :=
  (registry .dataConnectionTypes).map requestedPart

/-- What audits leave: types have new statuses and the times of the audit. -/
structure Restamped (times : String → Prop) (before after : Registry) : Prop where
  others : ∀ table, table ≠ .dataConnectionTypes → after table = before table
  requested : requested after = requested before
  stamped : ∀ row ∈ before .dataConnectionTypes, ∃ kept ∈ after .dataConnectionTypes,
    kept.metadata.id = row.metadata.id ∧ (kept = row ∨ times kept.metadata.updatedAt)

variable {times : String → Prop} {middle : Registry}

theorem Restamped.refl (times : String → Prop) (registry : Registry) : Restamped times registry registry :=
  ⟨fun _ _ => rfl, rfl, fun row hRow => ⟨row, hRow, rfl, .inl rfl⟩⟩

theorem Restamped.trans (h : Restamped times registry middle) (h' : Restamped times middle changed) :
    Restamped times registry changed where
  others table hTable := (h'.others table hTable).trans (h.others table hTable)
  requested := h'.requested.trans h.requested
  stamped row hRow := by
    obtain ⟨kept, hKept, hId, hTime⟩ := h.stamped row hRow
    obtain ⟨last, hLast, hLastId, rfl | hLastTime⟩ := h'.stamped kept hKept
    · exact ⟨last, hLast, hId, hTime⟩
    · exact ⟨last, hLast, hLastId.trans hId, .inr hLastTime⟩

theorem restamped_of_effect (hSound : registry.Sound) {answer : MetaAnswer} (hAudits : operation.audits = true)
    (hWriting : operation.writing stamp = some call) (hEffect : call.Effect globalTenantId registry answer changed)
    (hTime : times stamp.now) : Restamped times registry changed := by
  cases operation with
  | updateDataConnectionTypeStatus id updateFn =>
    cases hWriting
    have hOthers (table : MetaTable) (hTable : table ≠ .dataConnectionTypes) := hEffect.other hTable
    cases hEffect with
    | @updateDataConnectionTypeStatus _ _ _ existing _ hExisting hFinds hChange =>
      obtain ⟨status, -, rfl⟩ := map_eq_ok.mp hChange
      refine ⟨hOthers, ?_, fun row hRow => ?_⟩
      · rw [requested, requested, Registry.replace_self, map_map]
        refine map_congr_left fun row hRow => ?_
        by_cases hThis : row.metadata.id = id
        · obtain rfl : row = existing := hSound.eq_of_id hRow hExisting (hThis.trans hFinds.1.symm)
          exact (congrArg requestedPart (if_pos hThis)).trans rfl
        · exact congrArg requestedPart (if_neg hThis)
      · by_cases hThis : row.metadata.id = id
        · exact ⟨_, mem_replaced hExisting hFinds.1 _, hFinds.1.trans hThis.symm, .inr hTime⟩
        · rw [Registry.replace_self]
          exact ⟨row, mem_map.mpr ⟨row, hRow, if_neg hThis⟩, rfl, .inl rfl⟩
  | getAllFlightServices | getAllDataConnectionTypes => cases hWriting
  | _ => cases hAudits

end Effects

section Runs

variable {globalTenantId : String} {store : Tables} {target : MetaTable × Option String}

/-- A store call fails and changes nothing, or it succeeds with its effect. -/
theorem Outcome.serve_store (globalTenantId : String) (outcome : Outcome) (operation : StoreCall)
    (hStore : WellFormed store) :
    (∃ error, outcome.serve globalTenantId store (.store operation) = (.error error, store)) ∨
    ∃ value after, outcome.serve globalTenantId store (.store operation) = (.ok value, after) ∧
      WellFormed after ∧ (operation.writing outcome.choice.stamp = none ∧ after = store ∨
        ∃ call, operation.writing outcome.choice.stamp = some call ∧
          call.Effect globalTenantId (rows store) (operation.answer value) (rows after)) := by
  obtain ⟨refused, choice⟩ := outcome
  cases refused with
  | some error => exact .inl ⟨error, rfl⟩
  | none =>
    have hAfter := operation.run_wellFormed globalTenantId choice.stamp choice.faults hStore
    cases hWriting : operation.writing choice.stamp with
    | none =>
      have hSame : (operation.run globalTenantId choice.stamp choice.faults store).2 = store :=
        StoreCall.run_store_of_reading hWriting
      cases hResult : (operation.run globalTenantId choice.stamp choice.faults store).1 with
      | error error => exact .inl ⟨error, Prod.ext hResult hSame⟩
      | ok value => exact .inr ⟨value, _, Prod.ext hResult rfl, hAfter, .inl ⟨rfl, hSame⟩⟩
    | some call =>
      rcases StoreCall.run_cases_of_writing hWriting hStore with
        ⟨value, hValue, hEffect⟩ | ⟨⟨error, hError⟩, hSame⟩
      · exact .inr ⟨value, _, Prod.ext hValue rfl, hAfter, .inr ⟨call, rfl, hEffect⟩⟩
      · exact .inl ⟨error, Prod.ext hError hSame⟩

theorem sound_rows (hStore : WellFormed store) : (rows store).Sound :=
  Registry.sound_of_wellFormed (by rwa [store_rows hStore])

variable {event : ApiEvent} {operation : StoreCall}
  {record : List ApiEvent} {issued : ApiCall} {program : RequestProgram}

theorem StoreCall.registers_of_audits (h : operation.audits = true) : operation.registers = none := by
  cases operation <;> first | rfl | cases h

theorem StoreCall.registers_of_writing {stamp : Stamp} (h : operation.writing stamp = none) :
    operation.registers = none := by
  cases operation <;> first | rfl | cases h

theorem not_applied_of_registers (h : operation.registers = none) (answer : (ApiCall.store operation).Response) :
    ¬Applied ⟨.store operation, answer⟩ := by
  cases answer with
  | error error => exact id
  | ok value => simp [Applied, h]

theorem not_applied_of_error (operation : StoreCall) (error : MetaStoreError) :
    ∀ event ∈ [(⟨.store operation, .error error⟩ : ApiEvent)], ¬Applied event := by
  intro event hEvent
  rw [mem_singleton.mp hEvent]
  exact id

theorem cutShort_cons : CutShort (event :: record) ↔
      (Applied event ∧ ∃ later ∈ record, Refused later) ∨ CutShort record := by
  constructor
  · rintro ⟨before, own, after, hRecord, hApplied, hRefused⟩
    cases before with
    | nil =>
      obtain ⟨rfl, rfl⟩ := cons.inj hRecord
      exact .inl ⟨hApplied, hRefused⟩
    | cons first before =>
      exact .inr ⟨before, own, after, (cons.inj hRecord).2, hApplied, hRefused⟩
  · rintro (⟨hApplied, hRefused⟩ | ⟨before, own, after, rfl, hApplied, hRefused⟩)
    · exact ⟨[], event, record, rfl, hApplied, hRefused⟩
    · exact ⟨event :: before, own, after, rfl, hApplied, hRefused⟩

theorem not_cutShort_of_not_applied (h : ∀ event ∈ record, ¬Applied event) : ¬CutShort record := by
  rintro ⟨before, own, after, rfl, hApplied, -⟩
  exact h own (by simp) hApplied

theorem conduct_call {outcomes : Nat → Outcome} {next : issued.Response → RequestProgram} {answer : issued.Response}
    {after : Tables} (h : (outcomes 0).serve globalTenantId store issued = (answer, after)) :
    conduct globalTenantId outcomes (.call issued next) store =
      let rest := conduct globalTenantId (fun n => outcomes (n + 1)) (next answer) after
      ⟨rest.result, rest.store, ⟨issued, answer⟩ :: rest.record⟩ := by
  rw [conduct, h]

/-- An audit fails exactly when one of its store calls does. -/
theorem Auditing.conduct (h : Auditing program) (times : String → Prop) {outcomes : Nat → Outcome}
    (hTimes : ∀ n, times (outcomes n).choice.stamp.now) (hStore : WellFormed store) :
    let run := conduct globalTenantId outcomes program store
    Restamped times (rows store) (rows run.store) ∧
      (run.Failed ↔ ∃ event ∈ run.record, Refused event) ∧ ∀ event ∈ run.record, ¬Applied event := by
  induction h generalizing outcomes store with
  | done response =>
    refine ⟨.refl _ _, iff_of_false Bool.false_ne_true ?_, ?_⟩ <;> simp [Rest.conduct]
  | @call operation next hAudits hFails hNext ih =>
    rcases (outcomes 0).serve_store globalTenantId operation hStore with
      ⟨error, hServed⟩ | ⟨value, after, hServed, hAfter, hEffect⟩
    · obtain ⟨response, hDone⟩ := hFails error
      rw [conduct_call hServed, hDone]
      exact ⟨.refl _ _, iff_of_true rfl ⟨_, mem_cons_self .., trivial⟩, not_applied_of_error operation error⟩
    · obtain ⟨hRest, hFailed, hOwn⟩ := ih value (fun n => hTimes (n + 1)) hAfter
      rw [conduct_call hServed]
      have hFirst : Restamped times (rows store) (rows after) := by
        rcases hEffect with ⟨-, rfl⟩ | ⟨call, hWriting, hEffect⟩
        · exact .refl _ _
        · exact restamped_of_effect (sound_rows hStore) hAudits hWriting hEffect (hTimes 0)
      have hAnswered : ¬Refused ⟨.store operation, .ok value⟩ := id
      have hNot := not_applied_of_registers (StoreCall.registers_of_audits hAudits) (.ok value)
      dsimp only
      rw [exists_mem_cons_iff, or_iff_right hAnswered]
      exact ⟨hFirst.trans hRest, hFailed, forall_mem_cons.mpr ⟨hNot, hOwn⟩⟩

theorem Outcome.serve_reads (outcome : Outcome) (h : issued.Reads) :
    (outcome.serve globalTenantId store issued).2 = store := by
  obtain ⟨refused, choice⟩ := outcome
  cases issued with
  | store operation =>
    cases refused with
    | some error => rfl
    | none => exact StoreCall.run_store_of_reading (h choice.stamp)
  | _ => rfl

theorem ApiCall.Reads.not_applied (h : issued.Reads) (answer : issued.Response) : ¬Applied ⟨issued, answer⟩ := by
  cases issued with
  | store operation =>
    exact not_applied_of_registers (StoreCall.registers_of_writing (h ⟨"", "", ""⟩)) answer
  | _ => exact id

/-- A row that was entered with a new time, or removed, is not kept by an audit
that follows. -/
theorem not_kept_of_restamped {table : MetaTable} {uid : Option String} {times : String → Prop} {now : String}
    {registry changed after : Registry} (hClock : ∀ row ∈ registry table, ¬times (table.metadata row).updatedAt)
    (hNow : times now) (hWrite : Rewrites table uid registry changed now) (h : Restamped times changed after) :
    ¬RowKept table uid registry after := by
  intro hKept
  rcases hWrite with ⟨row, hRow, hTarget, rfl⟩ | ⟨hTable, row, hRow, hTarget, hGone⟩
  · -- the row of that id has one of the times of the request
    obtain ⟨last, hLast, hId, hTime⟩ : ∃ last ∈ after table, (table.metadata last).id = (table.metadata row).id ∧
        times (table.metadata last).updatedAt := by
      by_cases hTable : table = .dataConnectionTypes
      · subst hTable
        obtain ⟨last, hLast, hId, rfl | hTime⟩ := h.stamped row hRow
        · exact ⟨last, hLast, rfl, hNow⟩
        · exact ⟨last, hLast, hId, hTime⟩
      · exact ⟨row, h.others table hTable ▸ hRow, rfl, hNow⟩
    have hLastTarget : Targets registry table last uid := by
      cases uid with
      | some uid => exact hId.trans hTarget
      | none => exact fun other hOther => hId ▸ hTarget other hOther
    exact hClock last ((hKept last hLastTarget).mp hLast) hTime
  · have hLast := (hKept row hTarget).mpr hRow
    rw [h.others table hTable] at hLast
    exact hGone hLast

/-- For every outcome of the calls of a registering request: it fails after its
own write exactly when a later store call fails, and its row is changed then.
Without a successful own write no table changes at all. -/
theorem Registering.conduct {table : MetaTable} {uid : Option String} (h : Registering (table, uid) program)
    (outcomes : Nat → Outcome) (hStore : WellFormed store) :
    let run := conduct globalTenantId outcomes program store
    (CutShort run.record → run.Failed ∧
        (ClockMoves table (rows store) outcomes → ¬RowKept table uid (rows store) (rows run.store))) ∧
      (¬CutShort run.record → run.Failed → ∀ event ∈ run.record, ¬Applied event) ∧
      ((∀ event ∈ run.record, ¬Applied event) → run.store = store) := by
  induction h generalizing outcomes with
  | failed response =>
    have hNone : ∀ event ∈ ([] : List ApiEvent), ¬Applied event := by simp
    exact ⟨fun hCut => absurd hCut (not_cutShort_of_not_applied hNone), fun _ _ => hNone, fun _ => rfl⟩
  | @read issued next hReads hNext ih =>
    have hServed : (outcomes 0).serve globalTenantId store issued =
        (((outcomes 0).serve globalTenantId store issued).1, store) :=
      Prod.ext rfl ((outcomes 0).serve_reads hReads)
    obtain ⟨hCut, hWhole, hSame⟩ := ih _ (fun n => outcomes (n + 1))
    have hNot := hReads.not_applied ((outcomes 0).serve globalTenantId store issued).1
    rw [conduct_call hServed]
    dsimp only
    rw [cutShort_cons, or_iff_right fun hHere => hNot hHere.1]
    refine ⟨fun hShort => ⟨(hCut hShort).1, fun hClock => (hCut hShort).2 fun n => hClock (n + 1)⟩, ?_, ?_⟩
    · intro hShort hFailed
      exact forall_mem_cons.mpr ⟨hNot, hWhole hShort hFailed⟩
    · intro hNone
      exact hSame (forall_mem_cons.mp hNone).2
  | @write operation next hTarget hFails hNext =>
    rcases (outcomes 0).serve_store globalTenantId operation hStore with
      ⟨error, hServed⟩ | ⟨value, after, hServed, hAfter, hEffect⟩
    · obtain ⟨response, hDone⟩ := hFails error
      rw [conduct_call hServed, hDone]
      have hNone := not_applied_of_error operation error
      exact ⟨fun hCut => absurd hCut (not_cutShort_of_not_applied hNone), fun _ _ => hNone, fun _ => rfl⟩
    · obtain ⟨hRestamped, hFailed, hOwn⟩ := (hNext value).conduct
        (fun time => ∃ n, time = (outcomes n).choice.stamp.now) (fun n => ⟨n + 1, rfl⟩) hAfter
      rw [conduct_call hServed]
      dsimp only
      have hApplied : Applied ⟨.store operation, .ok value⟩ := by
        change operation.registers.isSome = true
        rw [hTarget]
        rfl
      rw [cutShort_cons, or_iff_left (not_cutShort_of_not_applied hOwn), and_iff_right hApplied, ← hFailed]
      refine ⟨fun hShort => ⟨hShort, fun hClock => ?_⟩, fun hWhole hShort => absurd hShort hWhole, fun hNone => ?_⟩
      · rcases hEffect with ⟨hReading, -⟩ | ⟨call, hWriting, hEffect⟩
        · rw [StoreCall.registers_of_writing hReading] at hTarget
          cases hTarget
        · exact not_kept_of_restamped (fun row hRow ⟨n, hTime⟩ => hClock n row hRow hTime) ⟨0, rfl⟩
            (rewrites_of_effect (sound_rows hAfter) hTarget hWriting hEffect) hRestamped
      · exact absurd hApplied (hNone _ (mem_cons_self ..))

end Runs

theorem handle_registering (service : ApiService) (texts : LibraryTexts) {request : Request}
    {endpoint : DataEndpoint} {target : MetaTable × Option String} (hRequest : request.endpoint = .data endpoint)
    (hEndpoint : endpoint.registers = some target) :
    Registering target (ExceptT.run (handle service texts request)) := by
  unfold handle
  rw [hRequest]
  cases validateHeaders request.headers with
  | error error => exact .failed _
  | ok ctx => exact endpoint.handle_registering service texts ctx hEndpoint

/-- For every request to register, change or remove a type or service, every
store and every outcome of its calls: a failed request leaves the row it is about
as it was, unless a store call failed after its own write succeeded; then the row
is changed, if the clock moves. Without a successful own write the tables are the
same. -/
theorem failed_requests_keep_iff (service : ApiService) (texts : LibraryTexts) (request : Request)
    (endpoint : DataEndpoint) (table : MetaTable) (uid : Option String) (outcomes : Nat → Outcome)
    (store : Tables) (hRequest : request.endpoint = .data endpoint)
    (hEndpoint : endpoint.registers = some (table, uid)) (hStore : WellFormed store) :
    let run := conduct service.globalTenantId outcomes (ExceptT.run (handle service texts request)) store
    (¬CutShort run.record → run.Failed → RowKept table uid (rows store) (rows run.store)) ∧
      (ClockMoves table (rows store) outcomes →
        (run.Failed → RowKept table uid (rows store) (rows run.store)) → ¬CutShort run.record) ∧
      ((∀ event ∈ run.record, ¬Applied event) → run.store = store) := by
  obtain ⟨hCut, hWhole, hSame⟩ := (handle_registering service texts hRequest hEndpoint).conduct outcomes hStore
  refine ⟨fun hShort hFailed => ?_, fun hClock hKept hShort => ?_, hSame⟩
  · rw [hSame (hWhole hShort hFailed)]
    exact fun _ _ => .rfl
  · obtain ⟨hFailed, hChanged⟩ := hCut hShort
    exact hChanged hClock (hKept hFailed)

/-- Calls without faults, of which the one with this number is refused. -/
def refusedAt (number n : Nat) : Outcome :=
  ⟨if n = number then some (.query "failed to list flight services") else none, (sampleTurn 0 "type-1" []).2⟩

/-- The request to create a type, with one of its calls refused. -/
def failedCreate (number : Nat) : Conducted :=
  conduct "global" (refusedAt number)
    (ExceptT.run (handle ⟨"global", true⟩ sampleTexts (sampleRequest (.createConnectionType sampleType))))
    emptyStore

/-- The audit cannot list the services: the response is an error, and the type
is registered. -/
theorem failed_create_registers : (failedCreate 1).Failed ∧ rows emptyStore .dataConnectionTypes = [] ∧
      (rows (failedCreate 1).store .dataConnectionTypes).map (fun type => type.resource) = [sampleType] := by
  decide +kernel

/-- The insert itself is refused. -/
theorem failed_requests_keep_sample : (failedCreate 0).Failed ∧
      RowKept .dataConnectionTypes none (rows emptyStore) (rows (failedCreate 0).store) := by
  have hKeep := failed_requests_keep_iff ⟨"global", true⟩ sampleTexts
    (sampleRequest (.createConnectionType sampleType)) (.createConnectionType sampleType)
    .dataConnectionTypes none (refusedAt 0) emptyStore rfl rfl WellFormed.empty
  have hFailed : (failedCreate 0).Failed := by decide +kernel
  refine ⟨hFailed, hKeep.1 (not_cutShort_of_not_applied ?_) hFailed⟩
  intro event hEvent
  rw [mem_singleton.mp hEvent]
  exact id

end DataConnectHub.Rest
