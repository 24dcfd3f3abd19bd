import DataConnectHub.MetaStore.Conflicts
import DataConnectHub.Rest.FailedRequests

/-! The controller's client of the REST service. A request may get lost on the
way, or be carried out with its response getting lost on the way back, and the
client reports both as an unavailable service. The namespace of a resource is
the tenant of the request. -/
namespace DataConnectHub.Controller

open Serde RowStore Rest

inductive ClientError where
  | conflict
  | serviceUnavailable
  | notFound
  | other (message : String)
  deriving DecidableEq, Repr

/-- How one call of the REST service goes while it serves a request. Any of
its database calls may fail, but a duplicate is reported by the tables only. -/
structure Attempt where
  stamp : Stamp
  fails : Nat → Bool
  reply : (call : ApiCall) → call.Response

def Attempt.faults (attempt : Attempt) (n : Nat) : Option Failure :=
  if attempt.fails n then some .other else none

def Attempt.outcome (attempt : Attempt) : Outcome :=
  ⟨none, attempt.stamp, attempt.faults, attempt.reply⟩

theorem Attempt.truthful (attempt : Attempt) : Truthful attempt.faults := by
  intro n
  unfold Attempt.faults
  split <;> nofun

/-- What becomes of a request. -/
inductive Delivery where
  | lost
  | answered (attempts : Nat → Attempt)
  | cut (attempts : Nat → Attempt)

/-- The id that the service generates for a call of the request. -/
def Delivery.newId (delivery : Delivery) (call : Nat) : Option String :=
  match delivery with
  | .lost => none
  | .answered attempts => some (attempts call).stamp.id
  | .cut attempts => some (attempts call).stamp.id

/-- The REST service as the controller reaches it. -/
structure RestApi where
  service : ApiService
  texts : LibraryTexts
  identity : Option RequestIdentity

abbrev Reply := Except RestErrorResponse HttpResponse

def Reply.status : Reply → Nat
  | .ok response => response.status
  | .error response => response.status

/-- The text of an error response. The client never reads another body that
it does not decode. -/
def Reply.body : Reply → String
  | .ok _ => ""
  | .error response =>
    "\x7b\"code\":" ++ Json.quote response.code ++ ",\"message\":" ++ Json.quote response.message ++ "\x7d"

def unexpectedStatus (reply : Reply) : ClientError :=
  .other s!"unexpected status {reply.status}: {reply.body}"

/-- How the client reads the response to a request that creates something.
`duplicate` recognizes further refusals that count as a conflict. -/
def creationResult (duplicate : Reply → Bool) : Option Reply → Except ClientError Unit
  | none => .error .serviceUnavailable
  | some reply =>
    if reply.status = 201 then .ok ()
    else if reply.status = 409 then .error .conflict
    else if 500 ≤ reply.status then .error .serviceUnavailable
    else if duplicate reply then .error .conflict
    else .error (unexpectedStatus reply)

namespace RestApi

variable (api : RestApi)

def program (tenantId : String) (endpoint : DataEndpoint) : RequestProgram :=
  ExceptT.run (endpoint.handle api.service api.texts ⟨tenantId, api.identity⟩)

/-- The response that arrives, if one does, and the tables afterwards. -/
def exchange (tenantId : String) (endpoint : DataEndpoint) (store : Tables) :
    Delivery → Option Reply × Tables
  | .lost => (none, store)
  | .answered attempts =>
    let run := conduct api.service.globalTenantId (fun n => (attempts n).outcome) (api.program tenantId endpoint) store
    (some run.result, run.store)
  | .cut attempts =>
    let run := conduct api.service.globalTenantId (fun n => (attempts n).outcome) (api.program tenantId endpoint) store
    (none, run.store)

def listConnectionTypes (tenantId : String) (delivery : Delivery) (store : Tables) :
    Except ClientError (List DataConnectionTypeResource) × Tables :=
  let exchanged := api.exchange tenantId .listConnectionTypes store delivery
  (match exchanged.1 with
    | none => .error .serviceUnavailable
    | some reply =>
      if 500 ≤ reply.status then .error .serviceUnavailable
      else if reply.status ≠ 200 then .error (unexpectedStatus reply)
      else match reply with
        | .ok ⟨_, .dataConnectionTypes types⟩ => .ok types.items
        | _ => .error (.other "decoding connection types"),
    exchanged.2)

def createConnection (tenantId : String) (connection : DataConnection) (delivery : Delivery)
    (store : Tables) : Except ClientError Unit × Tables :=
  let exchanged := api.exchange tenantId (.createConnection (.dataConnectionWithSecretRef connection)) store delivery
  (creationResult (fun _ => false) exchanged.1, exchanged.2)

/-- The service refuses connectors that are registered with status 400. -/
def connectorsRefused (reply : Reply) : Bool :=
  reply.status == 400 && decide ("connectors_already_exists".toList <:+: reply.body.toList)

def registerFlightService (tenantId : String) (flight : FlightService) (delivery : Delivery)
    (store : Tables) : Except ClientError Unit × Tables :=
  let exchanged := api.exchange tenantId (.createFlightService flight) store delivery
  (creationResult connectorsRefused exchanged.1, exchanged.2)

section Exchange

variable {store : Tables}

theorem conduct_wellFormed (globalTenantId : String) (outcomes : Nat → Outcome) (program : RequestProgram)
    (hStore : WellFormed store) : WellFormed (conduct globalTenantId outcomes program store).store := by
  induction program generalizing outcomes store with
  | done result => exact hStore
  | call issued next ih =>
    have hServed : WellFormed ((outcomes 0).serve globalTenantId store issued).2 := by
      cases issued with
      | store operation =>
        rcases (outcomes 0).serve_store globalTenantId operation hStore with
          ⟨error, hFailed⟩ | ⟨value, after, hDone, hAfter, -⟩
        · rwa [hFailed]
        · rwa [hDone]
      | _ => exact hStore
    exact ih _ _ hServed

theorem exchange_wellFormed (tenantId : String) (endpoint : DataEndpoint) (hStore : WellFormed store)
    (delivery : Delivery) : WellFormed (api.exchange tenantId endpoint store delivery).2 := by
  cases delivery with
  | lost => exact hStore
  | answered attempts | cut attempts => exact conduct_wellFormed _ _ _ hStore

/-- The reply of an endpoint that makes a single call of the store. -/
def Reply.ofStore {Value : Type} (respond : Value → HttpResponse) : Except MetaStoreError Value → Reply
  | .ok value => .ok (respond value)
  | .error error => .error (.ofMetaStore error)

theorem conduct_store (globalTenantId : String) (outcomes : Nat → Outcome) (operation : StoreCall)
    (respond : operation.Value → HttpResponse) (store : Tables) :
    let served := (outcomes 0).serve globalTenantId store (.store operation)
    let run := conduct globalTenantId outcomes (ExceptT.run (do
      let value ← Rest.store operation .ofMetaStore
      return respond value)) store
    (run.result, run.store) = (Reply.ofStore respond served.1, served.2) := by
  dsimp only
  change (Conducted.result (conduct _ outcomes (.call (.store operation) _) store),
    Conducted.store (conduct _ outcomes (.call (.store operation) _) store)) = _
  rw [conduct]
  cases ((outcomes 0).serve globalTenantId store (.store operation)).1 <;> rfl

/-- Listing the types changes nothing. -/
theorem listConnectionTypes_store (tenantId : String) (delivery : Delivery) (store : Tables) :
    (api.listConnectionTypes tenantId delivery store).2 = store := by
  have hRun (attempts : Nat → Attempt) : (conduct api.service.globalTenantId
      (fun n => (attempts n).outcome) (api.program tenantId .listConnectionTypes) store).store = store := by
    have hStored := congrArg Prod.snd (conduct_store api.service.globalTenantId
      (fun n => (attempts n).outcome) (.getDataConnectionTypes tenantId)
      (fun types => ⟨200, .dataConnectionTypes types⟩) store)
    exact hStored.trans (Outcome.serve_reads _ fun _ => rfl)
  cases delivery with
  | lost => rfl
  | answered attempts | cut attempts => exact hRun attempts

/-- A refusal of the store is read as a conflict exactly when it is one. -/
theorem creationResult_ofMetaStore (error : MetaStoreError) :
    let result := creationResult (fun _ => false) (some (.error (.ofMetaStore error)))
    (result = .error .conflict ∧ ∃ message, error = .conflict message) ∨
      ∃ other, result = .error other ∧ other ≠ .conflict := by
  cases error with
  | conflict message => exact .inl ⟨rfl, message, rfl⟩
  | _ => exact .inr ⟨_, rfl, nofun⟩

/-- A response to the creation of a connection is a success, a conflict about
its id or name, or says neither. -/
theorem createConnection_cases (tenantId : String) (connection : DataConnection) (delivery : Delivery)
    (hStore : WellFormed store) :
    let done := api.createConnection tenantId connection delivery store
    (done.1 = .ok () ∧ ∃ id now, rows done.2 =
      (rows store).insert .dataConnections (newConnection tenantId connection id now)) ∨
    (done.1 = .error .conflict ∧ done.2 = store ∧ ∃ id now, delivery.newId 0 = some id ∧
      (rows store).Occupied .dataConnections (newConnection tenantId connection id now)) ∨
    ∃ error, done.1 = .error error ∧ error ≠ .conflict := by
  intro done
  cases delivery with
  | lost | cut attempts => exact .inr (.inr ⟨_, rfl, nofun⟩)
  | answered attempts =>
    let operation := StoreCall.createDataConnection tenantId connection
    let outcome := (attempts 0).outcome
    have hDone : done = (creationResult (fun _ => false) (some (Reply.ofStore
          (fun created => ⟨201, .dataConnection created⟩)
          (outcome.serve api.service.globalTenantId store (.store operation)).1)),
        (outcome.serve api.service.globalTenantId store (.store operation)).2) :=
      congrArg (fun run => (creationResult (fun _ => false) (some run.1), run.2))
        (conduct_store api.service.globalTenantId (fun n => (attempts n).outcome) operation _ store)
    rcases outcome.serve_store api.service.globalTenantId operation hStore with
      ⟨error, hFailed⟩ | ⟨value, after, hServed, -, ⟨hReads, -⟩ | ⟨call, hCall, hEffect⟩⟩
    · right
      rw [hDone, hFailed]
      rcases creationResult_ofMetaStore error with ⟨hConflict, message, rfl⟩ | hOther
      · exact .inl ⟨hConflict, rfl, _, _, rfl, occupied_of_createDataConnection hStore
          (attempts 0).truthful (congrArg Prod.fst hFailed)⟩
      · exact .inr hOther
    · cases hReads
    · left
      rw [hDone, hServed]
      cases hCall
      refine ⟨rfl, outcome.choice.stamp.id, outcome.choice.stamp.now, ?_⟩
      change rows after = _
      generalize rows after = changed at hEffect ⊢
      cases hEffect
      rfl

end Exchange
end RestApi

/-- A service without an authorizer, for examples. -/
def sampleApi : RestApi := ⟨⟨"global", false⟩, sampleTexts, none⟩

def sampleDelivery (id : String) : Delivery :=
  .answered fun _ => ⟨⟨id, "2026-01-01T00:00:00Z", "2026-01-01T00:00:00Z"⟩, fun _ => false, sampleReply []⟩

end DataConnectHub.Controller
