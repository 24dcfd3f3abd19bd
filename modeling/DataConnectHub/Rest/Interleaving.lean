import DataConnectHub.Interaction.Program
import DataConnectHub.MetaStore.Runs
import DataConnectHub.Rest.Footprint
import DataConnectHub.RowStore.Lockstep

/-! Many requests at once over one metadata store. Requests take turns call by
call. A store call takes effect in one piece, which is what interleaved store
calls amount to by their serializability; the other calls are answered in any
way. -/
namespace DataConnectHub.Rest

open Serde Http RowStore Interaction Program Transaction RustStd

/-- What a store call takes from outside: the generated id, the clock of the
store and the clock an update function reads. -/
structure Stamp where
  id : String
  now : String
  clock : String

namespace StoreCall

variable (globalTenantId : String) (stamp : Stamp)

/-- The code that the metadata store runs for the call. -/
def program : (operation : StoreCall) → MetaStoreM operation.Value
  | .getDataConnections tenantId => DataConnectHub.getDataConnections tenantId
  | .getDataConnection tenantId uid => DataConnectHub.getDataConnection tenantId uid
  | .getDataConnectionTypes tenantId => DataConnectHub.getDataConnectionTypes globalTenantId tenantId
  | .getDataConnectionType tenantId id => DataConnectHub.getDataConnectionType globalTenantId tenantId id
  | .getAllDataConnectionTypes => DataConnectHub.getAllDataConnectionTypes globalTenantId
  | .getAllFlightServices => DataConnectHub.getAllFlightServices
  | .getFlightServiceByConnector connector => DataConnectHub.getFlightServiceByConnector connector
  | .createDataConnection tenantId dataConnection =>
    DataConnectHub.createDataConnection globalTenantId tenantId dataConnection stamp.id stamp.now
  | .updateDataConnection tenantId uid updateFn =>
    DataConnectHub.updateDataConnection globalTenantId tenantId uid updateFn stamp.now
  | .updateDataConnectionStatus tenantId uid updateFn =>
    DataConnectHub.updateDataConnectionStatus tenantId uid (updateFn stamp.clock) stamp.now
  | .deleteDataConnection tenantId uid => DataConnectHub.deleteDataConnection tenantId uid
  | .createDataConnectionType tenantId dataConnectionType =>
    DataConnectHub.createDataConnectionType tenantId dataConnectionType stamp.id stamp.now
  | .updateDataConnectionType tenantId uid updateFn =>
    DataConnectHub.updateDataConnectionType tenantId uid updateFn stamp.now
  | .updateDataConnectionTypeStatus uid updateFn =>
    DataConnectHub.updateDataConnectionTypeStatus uid (updateFn stamp.clock) stamp.now
  | .deleteDataConnectionType tenantId uid => DataConnectHub.deleteDataConnectionType tenantId uid
  | .createFlightService flightService =>
    DataConnectHub.createFlightService flightService stamp.id stamp.now
  | .updateFlightService id updateFn => DataConnectHub.updateFlightService id updateFn stamp.now
  | .deleteFlightService id => DataConnectHub.deleteFlightService id

/-- The writing call of the store that this is, if it is one. -/
def writing : StoreCall → Option MetaCall
  | .createDataConnection tenantId dataConnection =>
    some (.createDataConnection tenantId dataConnection stamp.id stamp.now)
  | .updateDataConnection tenantId uid updateFn =>
    some (.updateDataConnection tenantId uid updateFn stamp.now)
  | .updateDataConnectionStatus tenantId uid updateFn =>
    some (.updateDataConnectionStatus tenantId uid (updateFn stamp.clock) stamp.now)
  | .deleteDataConnection tenantId uid => some (.deleteDataConnection tenantId uid)
  | .createDataConnectionType tenantId dataConnectionType =>
    some (.createDataConnectionType tenantId dataConnectionType stamp.id stamp.now)
  | .updateDataConnectionType tenantId uid updateFn =>
    some (.updateDataConnectionType tenantId uid updateFn stamp.now)
  | .updateDataConnectionTypeStatus uid updateFn =>
    some (.updateDataConnectionTypeStatus uid (updateFn stamp.clock) stamp.now)
  | .deleteDataConnectionType tenantId uid => some (.deleteDataConnectionType tenantId uid)
  | .createFlightService flightService => some (.createFlightService flightService stamp.id stamp.now)
  | .updateFlightService id updateFn => some (.updateFlightService id updateFn stamp.now)
  | .deleteFlightService id => some (.deleteFlightService id)
  | _ => none

variable (faults : Nat → Option Failure) (store : Tables)

def run (operation : StoreCall) : Except MetaStoreError operation.Value × Tables :=
  isolated faults (operation.program globalTenantId stamp) store store

variable {globalTenantId stamp faults store} {operation : StoreCall}

/-- What a writing call returns, as an answer of the store. -/
def answer : (operation : StoreCall) → operation.Value → MetaAnswer
  | .createDataConnection _ _, resource => .row .dataConnections resource
  | .updateDataConnection _ _ _, resource => .row .dataConnections resource
  | .updateDataConnectionStatus _ _ _, resource => .row .dataConnections resource
  | .createDataConnectionType _ _, resource => .row .dataConnectionTypes resource
  | .updateDataConnectionType _ _ _, resource => .row .dataConnectionTypes resource
  | .updateDataConnectionTypeStatus _ _, resource => .row .dataConnectionTypes resource
  | .createFlightService _, resource => .row .flightServices resource
  | .updateFlightService _ _, resource => .row .flightServices resource
  | _, _ => .deleted

/-- A writing call is run as the call of the store is. -/
theorem run_of_writing {call : MetaCall} (h : operation.writing stamp = some call) :
    call.run globalTenantId faults store = ((operation.run globalTenantId stamp faults store).1.map operation.answer,
        (operation.run globalTenantId stamp faults store).2) := by
  cases operation <;> cases h <;> simp only [run, MetaCall.run, MetaCall.program, isolated_mapAnswer] <;> rfl

/-- A writing call succeeds with its effect, or it fails and changes nothing. -/
theorem run_cases_of_writing {call : MetaCall} (h : operation.writing stamp = some call) (hStore : WellFormed store) :
    (∃ value, (operation.run globalTenantId stamp faults store).1 = .ok value ∧
      call.Effect globalTenantId (rows store) (operation.answer value)
        (rows (operation.run globalTenantId stamp faults store).2)) ∨
    (∃ error, (operation.run globalTenantId stamp faults store).1 = .error error) ∧
      (operation.run globalTenantId stamp faults store).2 = store := by
  have hRun : call.run globalTenantId faults store = _ := run_of_writing h
  rcases call.run_cases globalTenantId hStore faults with
    ⟨answer, hAnswer, -, hEffect⟩ | ⟨⟨error, hError⟩, hSame⟩
  · left
    rw [hRun] at hAnswer hEffect
    obtain ⟨value, hValue, rfl⟩ := map_eq_ok.mp hAnswer
    exact ⟨value, hValue, hEffect⟩
  · right
    rw [hRun] at hError hSame
    refine ⟨?_, hSame⟩
    cases hResult : (operation.run globalTenantId stamp faults store).1 with
    | ok value =>
      rw [hResult] at hError
      cases hError
    | error error => exact ⟨error, rfl⟩

variable {Item Value : Type} {read : Json → Except MetaStoreError Item}

/-- Code that lists rows: one statement, and an answer made of its rows. -/
theorem readOnly_list {statement : Statement metaSchema} {onFailure : Failure → MetaStoreError}
    (read : statement.Value → Except MetaStoreError Item) (answer : Item → Value) :
    ReadOnly (ExceptT.run (do
      let rows ← request (.query statement) onFailure
      let items ← ExceptT.mk (.done (read rows))
      return answer items : MetaStoreM Value)) := by
  refine ⟨by simp, fun outcome => ?_⟩
  cases outcome with
  | error failure => trivial
  | ok rows =>
    change ReadOnly (ExceptT.run (do return answer (← ExceptT.mk (.done (read rows))) : MetaStoreM Value))
    cases read rows <;> trivial

/-- Code that reads one row without a lock. -/
theorem readOnly_fetchOne (table : MetaTable) (uid : String) (filter : Json → Bool) (missing failed : MetaStoreError)
    (read : Json → Except MetaStoreError Value) :
    ReadOnly (ExceptT.run (do
      let doc ← fetchOne table uid filter none missing failed
      ExceptT.mk (.done (read doc)) : MetaStoreM Value)) := by
  refine ⟨by simp, ?_⟩
  rintro (failure | _ | doc) <;> trivial

/-- Any other call leaves the tables as they are. -/
theorem run_store_of_reading (h : operation.writing stamp = none) :
    (operation.run globalTenantId stamp faults store).2 = store := by
  refine ReadOnly.unchanged ?_ faults store store
  cases operation with
  | getDataConnections tenantId | getAllDataConnectionTypes | getAllFlightServices => exact readOnly_list _ _
  | getDataConnection tenantId uid | getDataConnectionType tenantId id => exact readOnly_fetchOne _ _ _ _ _ _
  | getDataConnectionTypes tenantId => exact ⟨by simp, fun outcome => by cases outcome <;> trivial⟩
  | getFlightServiceByConnector connector =>
    refine ⟨by simp, ?_⟩
    rintro (failure | _ | ⟨doc, docs⟩) <;> trivial
  | _ => cases h

theorem run_wellFormed (operation : StoreCall) (globalTenantId : String) (stamp : Stamp)
    (faults : Nat → Option Failure) (h : WellFormed store) :
    WellFormed (operation.run globalTenantId stamp faults store).2 := by
  cases hWriting : operation.writing stamp with
  | none => rwa [run_store_of_reading hWriting]
  | some call =>
    have hAfter : WellFormed (call.run globalTenantId faults store).2 := by
      rcases call.run_cases globalTenantId h faults with ⟨_, _, hAfter, _⟩ | ⟨_, hSame⟩
      · exact hAfter
      · rwa [hSame]
    rwa [run_of_writing hWriting] at hAfter

theorem run_reachable (operation : StoreCall) (stamp : Stamp) (faults : Nat → Option Failure)
    (h : Reachable globalTenantId store) :
    Reachable globalTenantId (operation.run globalTenantId stamp faults store).2 := by
  cases hWriting : operation.writing stamp with
  | none => rwa [run_store_of_reading hWriting]
  | some call =>
    have hRun := h.run call faults
    rwa [run_of_writing hWriting] at hRun

theorem mapM_store {table : MetaTable} (hStore : WellFormed store) {item : table.Row → Item}
    (h : ∀ row, read (toValue row) = .ok (item row)) :
    (store table).mapM read = .ok ((rows store table).map item) := by
  rw [← store_rows hStore, rows_store, Registry.store]
  induction rows store table with
  | nil => rfl
  | cons row rest ih =>
    rw [List.map_cons, List.mapM_cons, ih, h row]
    rfl

/-- A listing of a whole table has an item for every row, unless the database
fails. -/
theorem run_listing (table : MetaTable) (onFailure : Failure → MetaStoreError) (faults : Nat → Option Failure)
    (hStore : WellFormed store) {item : table.Row → Item} (hRead : ∀ row, read (toValue row) = .ok (item row)) :
    (isolated faults (ExceptT.run (do
        let docs ← request (.query (.fetchAll table anyTenant)) onFailure
        let items ← ExceptT.mk (.done (docs.mapM read))
        return { totalCount := items.length, items := items } : MetaStoreM (ResourceList Item)))
      store store).1 =
      match faults 0 with
      | some failure => .error (onFailure failure)
      | none => .ok ⟨((rows store table).map item).length, (rows store table).map item⟩ := by
  rw [ExceptT.run, isolated_fetchAll]
  cases faults 0 with
  | some failure => rfl
  | none =>
    have hAll : (store table).filter anyTenant = store table := List.filter_eq_self.mpr fun _ _ => rfl
    dsimp only
    rw [hAll, mapM_store hStore hRead]
    rfl

theorem getAllFlightServices_run (globalTenantId : String) (stamp : Stamp)
    (faults : Nat → Option Failure) (hStore : WellFormed store) :
    (getAllFlightServices.run globalTenantId stamp faults store).1 = match faults 0 with
      | some _ => .error (.query "failed to list flight services")
      | none => .ok ⟨(rows store .flightServices).length, rows store .flightServices⟩ := by
  let read (doc : Json) : Except MetaStoreError FlightServiceResource := decode doc malformedService
  have hRead (row : FlightServiceResource) : read (toValue row) = .ok (id row) := by simp [read, decode]
  have hRun := run_listing .flightServices (fun _ => .query "failed to list flight services") faults hStore hRead
  rw [List.map_id] at hRun
  exact hRun

theorem items_of_getAllFlightServices (hStore : WellFormed store) {list : ResourceList FlightServiceResource}
    (h : (getAllFlightServices.run globalTenantId stamp faults store).1 = .ok list) :
    list.items = rows store .flightServices := by
  rw [getAllFlightServices_run globalTenantId stamp faults hStore] at h
  split at h
  · cases h
  · rw [← Except.ok.inj h]

theorem items_of_getAllDataConnectionTypes (hStore : WellFormed store) {list : ResourceList DataConnectionTypeResource}
    (h : (getAllDataConnectionTypes.run globalTenantId stamp faults store).1 = .ok list) :
    list.items = (rows store .dataConnectionTypes).map (hideGlobalTenant globalTenantId) := by
  let read (doc : Json) : Except MetaStoreError DataConnectionTypeResource := do
    let resource ← decode doc malformedType
    return hideGlobalTenant globalTenantId resource
  have hRead (row : DataConnectionTypeResource) : read (toValue row) = .ok (hideGlobalTenant globalTenantId row) := by
    simp [read, decode]
  have hRun := run_listing .dataConnectionTypes (fun _ => .query "failed to list connection types") faults hStore hRead
  cases hFault : faults 0 with
  | some failure =>
    rw [hFault] at hRun
    cases h.symm.trans hRun
  | none =>
    rw [hFault] at hRun
    rw [← Except.ok.inj (hRun.symm.trans h)]

/-- A connection that is found is a row of the table, with the id and in the
tenant that were asked for. -/
theorem found_of_getDataConnection {tenantId uid : String} {row : DataConnectionResource} (hStore : WellFormed store)
    (h : ((getDataConnection tenantId uid).run globalTenantId stamp faults store).1 = .ok row) :
    row ∈ rows store .dataConnections ∧ row.metadata.id = uid ∧ row.metadata.tenantId = some tenantId := by
  change (isolated faults (DataConnectHub.getDataConnection tenantId uid) store store).1 = _ at h
  rw [DataConnectHub.getDataConnection, isolated_fetchRow] at h
  split at h
  · cases h
  next doc hFault hFind =>
    change decode doc malformedConnection = .ok row at h
    rw [← store_rows hStore] at hFind
    obtain ⟨found, hFound, rfl, hId, hTenant⟩ := Registry.exists_of_find hFind
    have hDecode : decode (toValue found) malformedConnection = .ok found := by simp [decode]
    have hOwner := (ofTenant_toValue tenantId found).mp hTenant
    rw [hDecode] at h
    cases h
    exact ⟨hFound, hId, hOwner⟩
  · cases h

end StoreCall

/-- A call that changes no table. -/
def ApiCall.Reads : ApiCall → Prop
  | .store operation => ∀ stamp, operation.writing stamp = none
  | _ => True

/-- The code of a request. -/
abbrev RequestProgram := Program ApiCall ApiCall.Response (Except RestErrorResponse HttpResponse)

/-- The end of a request: the updates of an audit, and the response. -/
abbrev updateThen (flights : List FlightServiceResource) (types : List DataConnectionTypeResource)
    (response : HttpResponse) : RequestProgram :=
  ExceptT.run (do updateTypes flights types; return response)

abbrev auditThen (response : HttpResponse) : RequestProgram :=
  ExceptT.run (do auditDataConnectionTypes; return response)

/-- One request in progress: the calls it has made and the code that remains. -/
structure Session where
  past : List ApiEvent
  program : RequestProgram

/-- The successful response of a request that is done. -/
def Session.response? (session : Session) : Option HttpResponse :=
  match session.program with
  | .done (.ok response) => some response
  | _ => none

def Session.Succeeded (session : Session) : Prop := session.response?.isSome = true

instance (session : Session) : Decidable session.Succeeded := inferInstanceAs (Decidable (_ = _))

theorem Session.Succeeded.program_eq {session : Session} (h : session.Succeeded) :
    ∃ response, session.program = .done (.ok response) := by
  obtain ⟨past, program⟩ := session
  rcases program with (_ | response) | _
  · cases h
  · exact ⟨response, rfl⟩
  · cases h

structure System (Client : Type) where
  store : Tables
  sessions : Client → Session

/-- How the next call of a request goes: which database calls fail, and what
anything else than the store answers. -/
structure Choice where
  stamp : Stamp
  faults : Nat → Option Failure
  reply : (call : ApiCall) → call.Response

namespace System

variable {Client : Type}

def initial (service : ApiService) (texts : LibraryTexts) (store : Tables)
    (requests : Client → Request) : System Client :=
  { store := store, sessions := fun client => ⟨[], handle service texts (requests client)⟩ }

/-- The answer to a call and the tables after it. -/
def serve (globalTenantId : String) (choice : Choice) (store : Tables) :
    (call : ApiCall) → call.Response × Tables
  | .store operation => operation.run globalTenantId choice.stamp choice.faults store
  | issued => (choice.reply issued, store)

variable [DecidableEq Client]

/-- The next call of one client. A client that is done stays so. -/
def step (globalTenantId : String) (system : System Client) (turn : Client × Choice) : System Client :=
  match (system.sessions turn.1).program with
  | .done _ => system
  | .call issued next =>
    let served := serve globalTenantId turn.2 system.store issued
    { store := served.2
      sessions := Function.update system.sessions turn.1
        ⟨(system.sessions turn.1).past ++ [⟨issued, served.1⟩], next served.1⟩ }

/-- Any number of turns of any clients, in any order. -/
def run (globalTenantId : String) (system : System Client) (turns : List (Client × Choice)) : System Client :=
  turns.foldl (step globalTenantId) system

variable {globalTenantId : String} {system : System Client}

theorem step_of_done {turn : Client × Choice} {result : Except RestErrorResponse HttpResponse}
    (h : (system.sessions turn.1).program = .done result) : system.step globalTenantId turn = system := by
  rw [step, h]

section Call

variable {turn : Client × Choice} {issued : ApiCall} {next : issued.Response → RequestProgram}

theorem step_store (h : (system.sessions turn.1).program = .call issued next) :
    (system.step globalTenantId turn).store = (serve globalTenantId turn.2 system.store issued).2 := by
  rw [step, h]

theorem step_self (h : (system.sessions turn.1).program = .call issued next) :
    (system.step globalTenantId turn).sessions turn.1 =
      ⟨(system.sessions turn.1).past ++ [⟨issued, (serve globalTenantId turn.2 system.store issued).1⟩],
        next (serve globalTenantId turn.2 system.store issued).1⟩ := by
  simp [step, h]

end Call

theorem step_other (turn : Client × Choice) {client : Client} (h : client ≠ turn.1) :
    (system.step globalTenantId turn).sessions client = system.sessions client := by
  rw [step]
  split
  · rfl
  · simp [h]

theorem serve_reads (choice : Choice) {issued : ApiCall} (h : issued.Reads) (store : Tables) :
    (serve globalTenantId choice store issued).2 = store := by
  cases issued with
  | store operation => exact StoreCall.run_store_of_reading (h choice.stamp)
  | _ => rfl

theorem serve_reachable (choice : Choice) (issued : ApiCall) {store : Tables}
    (h : Reachable globalTenantId store) : Reachable globalTenantId (serve globalTenantId choice store issued).2 := by
  cases issued with
  | store operation => exact operation.run_reachable choice.stamp choice.faults h
  | _ => exact h

theorem step_reachable (turn : Client × Choice) (h : Reachable globalTenantId system.store) :
    Reachable globalTenantId (system.step globalTenantId turn).store := by
  cases hProgram : (system.sessions turn.1).program with
  | done result => rwa [step_of_done hProgram]
  | call issued next =>
    rw [step_store hProgram]
    exact serve_reachable turn.2 issued h

end System

def sampleFlight (name : String) : FlightService :=
  { name := name, namespaceName := "dch", externalUrl := "grpc://external", internalUrl := "grpc://internal",
    supportedConnectors := [], connectorCapabilities := ∅, status := ⟨true⟩ }

def tenantRequest (endpoint : DataEndpoint) : Request :=
  { headers := [(xTenantId, asciiValue "tenant-1"), (xRemoteUser, asciiValue "mallory")]
    endpoint := .data endpoint }

/-- Calls without faults, all of which get through. -/
def openChoice (id : String) (found : Secret) : Choice :=
  ⟨⟨id, "2026-01-01T00:00:02Z", "2026-01-01T00:00:02Z"⟩, noFaults, fun
    | .getSecret _ _ => .ok found
    | issued => sampleReply [] issued⟩

/-- Three clients take turns in the examples. -/
instance threeClients : NeZero 3 := ⟨by decide⟩

/-- A turn without faults, in which a service reports these connectors. -/
def sampleTurn (client : Fin 3) (id : String) (connectors : List String) : Fin 3 × Choice :=
  (client, ⟨⟨id, "2026-01-01T00:00:00Z", "2026-01-01T00:00:00Z"⟩, noFaults, sampleReply connectors⟩)

end DataConnectHub.Rest
