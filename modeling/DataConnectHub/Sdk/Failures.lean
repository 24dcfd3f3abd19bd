import DataConnectHub.Sdk.Responses
import DataConnectHub.Sdk.Retries

/-! Whether a failure of the SDK is one of its own exceptions. A method lets an
exception of another package through when it waits for a delay that cannot be slept
for, or when the body of the last response cannot be decoded as text or as JSON. -/
namespace DataConnectHub.Sdk

open Interaction PyStd Retry RestClient

variable {Connection ConnectionType Value Next : Type}

def Raised.InHierarchy : Raised → Prop
  | .dch _ => True
  | .foreign _ => False

/-- A value, or an exception below `DCHError`. -/
def InHierarchy : Except Raised Value → Prop
  | .ok _ => True
  | .error raised => raised.InHierarchy

section Payloads

variable {first : Except Raised Value} {exception : PyException}

/-- Code whose rest stays in the hierarchy is in it when its beginning is. -/
theorem inHierarchy_bind_iff {rest : Value → Except Raised Next} (h : ∀ value, InHierarchy (rest value)) :
    InHierarchy (first >>= rest) ↔ InHierarchy first := by
  cases first with
  | error raised => rfl
  | ok value => exact ⟨fun _ => trivial, fun _ => h value⟩

theorem inHierarchy_wrap_iff (wrap : Value → Next) :
    InHierarchy (first >>= fun value => pure (wrap value)) ↔ InHierarchy first := by
  cases first with
  | error raised | ok value => rfl

theorem inHierarchy_mapM {Item : Type} {check : Item → Except Raised Value} (h : ∀ item, InHierarchy (check item))
    (items : List Item) : InHierarchy (items.mapM check) := by
  induction items with
  | nil => trivial
  | cons item items ih =>
    rw [List.mapM_cons, inHierarchy_bind_iff]
    · exact h item
    · intro value
      rw [inHierarchy_wrap_iff]
      exact ih

theorem inHierarchy_unwrapList (data : PyValue) : InHierarchy (unwrapList data) := by
  cases data with
  | list items => trivial
  | dict members =>
    rw [unwrapList]
    split
    · trivial
    · trivial
    · trivial
  | _ => trivial

/-- Unpacking is the only thing that fails in `_flatten_resource`. -/
theorem className_of_unpack {value : PyValue} (h : value.unpack = .error exception) :
    exception.className = "TypeError" := by
  cases value with
  | dict members => cases h
  | _ => cases h; rfl

theorem className_of_flattenResource {data : PyValue} (h : flattenResource data = .error exception) :
    exception.className = "TypeError" := by
  cases data with
  | dict members =>
    rw [flattenResource] at h
    split at h
    next metadata resource hMetadata hResource =>
      cases hFirst : metadata.unpack with
      | error found =>
        rw [hFirst] at h
        cases h
        exact className_of_unpack hFirst
      | ok first =>
        rw [hFirst] at h
        cases hSecond : resource.unpack with
        | error found =>
          rw [hSecond] at h
          cases h
          exact className_of_unpack hSecond
        | ok second =>
          rw [hSecond] at h
          cases hStatus : members.lookup (str "status") with
          | some status | none => simp only [hStatus] at h; cases h
    next => cases h
  | _ => cases h

theorem inHierarchy_validate {name : String} {fields : PyValue → Except String Value} (data : PyValue) :
    InHierarchy (validate name fields data) := by
  rw [validate]
  split
  next exception hFlat =>
    rw [if_pos (className_of_flattenResource hFlat)]
    trivial
  next =>
    split
    · trivial
    · trivial

variable (platform : Platform) (decoders : Decoders Connection ConnectionType)

/-- The body can be decoded as text. -/
def IsText (response : Response) : Prop :=
  ∃ text, platform.text response = .ok text

/-- The body is JSON, or it is found not to be and can be quoted. -/
def IsReadable (response : Response) : Prop :=
  match decoders.json response with
  | .ok _ => True
  | .error .decodeError => IsText platform response
  | .error (.other _) => False

def Operation.isDelete : Operation → Bool
  | deleteConnection _ | deleteConnectionType _ => true
  | _ => false

/-- The response a call ends on can be judged: the body of one that is read, and the
text of an unsuccessful one. -/
def Operation.Understands (operation : Operation) : Outcome → Prop
  | .error _ => True
  | .ok response =>
    if response.isSuccess then operation.isDelete = true ∨ IsReadable platform decoders response
    else IsText platform response

theorem inHierarchy_parseJson_iff :
    InHierarchy (parseJson platform decoders response) ↔ IsReadable platform decoders response := by
  rw [parseJson, IsReadable]
  cases decoders.json response with
  | ok value => rfl
  | error failure =>
    cases failure with
    | other exception => rfl
    | decodeError =>
      rw [IsText]
      cases platform.text response with
      | error exception | ok text => simp [InHierarchy, Raised.InHierarchy]

variable {platform decoders} {response : Response} {operation : Operation} {Model : Type}
  {check : PyValue → Except Raised Model}

/-- A method that reads a response first parses it. What comes after that stays in the
hierarchy. -/
theorem inHierarchy_read_iff {rest : PyValue → Except Raised (Reply Connection ConnectionType)}
    (hReads : operation.isDelete = false) (h : ∀ data, InHierarchy (rest data)) :
    InHierarchy (parseJson platform decoders response >>= rest) ↔
      operation.isDelete = true ∨ IsReadable platform decoders response := by
  rw [inHierarchy_bind_iff h, inHierarchy_parseJson_iff, hReads]
  simp

theorem inHierarchy_readItem_iff {wrap : Model → Reply Connection ConnectionType}
    (hReads : operation.isDelete = false) (h : ∀ data, InHierarchy (check data)) :
    InHierarchy (do return wrap (← check (← parseJson platform decoders response))) ↔
      operation.isDelete = true ∨ IsReadable platform decoders response := by
  apply inHierarchy_read_iff hReads
  intro data
  rw [inHierarchy_wrap_iff]
  exact h data

theorem inHierarchy_readList_iff {wrap : List Model → Reply Connection ConnectionType}
    (hReads : operation.isDelete = false) (h : ∀ data, InHierarchy (check data)) :
    InHierarchy (do
        let items ← unwrapList (← parseJson platform decoders response)
        return wrap (← items.mapM check)) ↔
      operation.isDelete = true ∨ IsReadable platform decoders response := by
  apply inHierarchy_read_iff hReads
  intro data
  rw [inHierarchy_bind_iff]
  · exact inHierarchy_unwrapList data
  · intro items
    rw [inHierarchy_wrap_iff]
    exact inHierarchy_mapM h items

theorem inHierarchy_reply_iff (operation : Operation) : InHierarchy (operation.reply platform decoders response) ↔
      operation.isDelete = true ∨ IsReadable platform decoders response := by
  cases operation with
  | listConnections | listConnectionTypes => exact inHierarchy_readList_iff rfl inHierarchy_validate
  | getConnection _ | createConnection _ | updateConnection _ _ | getConnectionType _ | createConnectionType _
  | updateConnectionType _ _ => exact inHierarchy_readItem_iff rfl inHierarchy_validate
  | deleteConnection _ | deleteConnectionType _ => exact ⟨fun _ => .inl rfl, fun _ => trivial⟩

theorem inHierarchy_mapHttpError_iff : (mapHttpError platform response).InHierarchy ↔ IsText platform response := by
  rw [mapHttpError, IsText]
  cases platform.text response with
  | error exception | ok body => simp [Raised.InHierarchy]

variable (platform decoders) in
/-- What a method makes of the response its sends end on. -/
def RestClient.judge (client : RestClient) (operation : Operation) (received : Received) :
    Except Raised (Reply Connection ConnectionType) := do
  let response ← client.verdict platform (.ok received.response)
  operation.reply platform decoders response

theorem inHierarchy_settle_iff (client : RestClient) (operation : Operation) (index : Nat) (outcome : Outcome) :
    InHierarchy (client.settle index outcome >>= client.judge platform decoders operation) ↔
      operation.Understands platform decoders outcome := by
  cases outcome with
  | error error => exact ⟨fun _ => trivial, fun _ => trivial⟩
  | ok response =>
    have hJudge : client.settle index (.ok response) >>= client.judge platform decoders operation =
        client.verdict platform (.ok response) >>= fun response => operation.reply platform decoders response := rfl
    rw [hJudge, Operation.Understands, verdict]
    cases hSuccess : response.isSuccess with
    | true => exact inHierarchy_reply_iff operation
    | false => exact inHierarchy_mapHttpError_iff

end Payloads

section Calls

variable {client : RestClient} {platform : Platform} {decoders : Decoders Connection ConnectionType}
  {operation : Operation} {path : String} {memory after : Memory} {trace : Record}

theorem perform_cases {result : Except Raised (Reply Connection ConnectionType)} (hPath : operation.path = .ok path)
    (h : (client.perform platform decoders operation).Runs memory trace result after) :
    ∃ received, (client.authorizedRequest platform (operation.query path) false).Runs memory trace received after ∧
      result = received >>= client.judge platform decoders operation := by
  have hPerform : client.perform platform decoders operation =
      client.request platform (operation.query path) >>= fun response =>
        Py.ofExcept (operation.reply platform decoders response) := by
    rw [perform, hPath]
    rfl
  rw [hPerform] at h
  obtain ⟨response, hRequest, rfl⟩ := Py.runs_bind_ofExcept h
  obtain ⟨received, hFirst, rfl⟩ := request_cases hRequest
  exact ⟨received, hFirst, bind_assoc received _ _⟩

variable {raised : Raised}

/-- A wait that failed could not have succeeded. -/
theorem not_canWait_of_waitEnd {index attempt : Nat} {outcome : Outcome} {closed : List Nat}
    (h : client.WaitEnd platform index attempt outcome trace closed (.error raised))
    (hMax : client.backoffMax * 10 ^ 9 < 2 ^ 63) :
    ¬ raised.InHierarchy ∧ ¬ client.CanWait platform attempt outcome := by
  cases h with
  | overflowed hAsks hCapped =>
    refine ⟨?_, ?_⟩
    · rw [floatBackoff_eq] at hCapped
      cases hFloat : (client.backoffBase.shift attempt).bind fun delay =>
          (delay.min client.backoffMax).toFloat with
      | none =>
        rw [hFloat] at hCapped
        cases hCapped
        exact id
      | some value =>
        rw [hFloat] at hCapped
        cases hCapped
    · rw [CanWait, hAsks]
      rintro ⟨capped, hFound, -⟩
      rw [hCapped] at hFound
      cases hFound
  | sleepless hDelay hSlept hSleep =>
    refine ⟨id, ?_⟩
    cases hDelay with
    | asked hAsks =>
      rw [CanWait, hAsks]
      intro hSleepable
      rw [hSleepable] at hSleep
      cases hSleep
    | @backoff capped jitter hAsks hCapped =>
      rw [CanWait, hAsks]
      rintro ⟨found, hFound, hNonneg⟩
      cases hCapped.symm.trans hFound
      have hFactor := jitter.atLeast
      have hDelay : 0 ≤ capped * jitter.factor := mul_nonneg hNonneg (by linarith)
      have hLess : capped * jitter.factor ≤ capped := mul_le_of_le_one_right hNonneg jitter.atMost
      have hCap := floatBackoff_le hCapped
      have hSleepable := PyFloat.sleepable_finite_iff.mpr ⟨hDelay, by linarith⟩
      rw [hSleepable] at hSleep
      cases hSleep

/-- The tokens a call can use make headers, and a request can be built from them. -/
def Sendable (client : RestClient) (platform : Platform) (query : Query) (memory : Memory) (trace : Record) : Prop :=
  ∀ token, client.Uses memory trace token →
    (∀ exception, PyToken.buildHeaders platform.cases token client.tenantId ≠ .error (.foreign exception)) ∧
      ∀ headers, PyToken.buildHeaders platform.cases token client.tenantId = .ok headers →
        platform.build (client.requestOf query headers) = none

theorem inHierarchy_of_unprepared {query : Query} (h : client.Unprepared platform query memory trace raised)
    (hSendable : Sendable client platform query memory trace) :
    raised.InHierarchy := by
  cases h with
  | tenant h | provider h => trivial
  | @token token raised hUsed hHeaders =>
    cases raised with
    | dch error => trivial
    | foreign exception => exact absurd hHeaders ((hSendable token hUsed).1 exception)
  | @request token headers exception hUsed hHeaders hBuild =>
    rw [(hSendable token hUsed).2 headers hHeaders] at hBuild
    cases hBuild

variable (client platform decoders operation memory) in
/-- A method ends with a value or with an exception of the SDK exactly when it can wait
after each answer that it tries again, and can decode the one it ends on. -/
theorem inHierarchy_iff (environment : Program.Environment Call Call.Answer) (hPath : operation.path = .ok path)
    (hMax : client.backoffMax * 10 ^ 9 < 2 ^ 63)
    (hSendable : Sendable client platform (operation.query path) memory
      ((client.perform platform decoders operation memory).run environment []).2) :
    InHierarchy ((client.perform platform decoders operation memory).run environment []).1.1 ↔
      (client.policy (operation.query path)).Meets (client.Waits platform (operation.query path))
        (operation.Understands platform decoders) (client.start (operation.query path))
        (sends ((client.perform platform decoders operation memory).run environment []).2) := by
  have hYields := Program.yields_run_nil environment (client.perform platform decoders operation memory)
  generalize (client.perform platform decoders operation memory).run environment [] = run at hYields hSendable
  obtain ⟨⟨result, after⟩, trace⟩ := run
  obtain ⟨received, hFirst, rfl⟩ := perform_cases hPath hYields
  obtain ⟨passed, phase, hConversation⟩ := authorizedRequest_conversation hFirst
  obtain ⟨ended, closed, hSends, -, hEnding⟩ := hConversation.ending
  rw [hSends, Policy.meets_append_iff hConversation.reaches]
  cases hEnding with
  | unprepared hUnprepared =>
    exact ⟨fun _ => trivial, fun _ => inHierarchy_of_unprepared hUnprepared hSendable⟩
  | @settled outcome hSettles =>
    rw [Policy.Meets, hSettles]
    exact inHierarchy_settle_iff client operation _ outcome
  | @stalled outcome closed raised hTransient hRetries hWait =>
    obtain ⟨hRaised, hCannot⟩ := not_canWait_of_waitEnd hWait hMax
    constructor
    · intro h
      exact absurd h hRaised
    · intro h
      obtain ⟨retries, hLeft⟩ := Nat.exists_eq_succ_of_ne_zero hRetries
      have hAdvance : (client.policy (operation.query path)).advance phase outcome =
          some ⟨retries, phase.renewals⟩ := by
        obtain ⟨found, renewals⟩ := phase
        cases hLeft
        exact Policy.advance_transient hTransient retries renewals
      rw [Policy.Meets, hAdvance] at h
      exact absurd (h.1 hTransient) hCannot

end Calls

section Samples

/-- A client with a token of its own. -/
def staticClient : RestClient :=
  { providedClient with hasProvider := false, token := str "secret" }

def emptyDecoders : Decoders Unit Unit where
  json := fun _ => .ok (.list [])
  connection := fun _ => .ok ()
  connectionType := fun _ => .ok ()

theorem inHierarchy_sample :
    let run := (staticClient.perform plainPlatform emptyDecoders .listConnections ⟨none, 0⟩).run fickleServer []
    run.1.1 = .error (.dch (.http .authentication "HTTP 401: " 401 "")) ∧
      (staticClient.policy listQuery).Meets (staticClient.Waits plainPlatform listQuery)
        (Operation.listConnections.Understands plainPlatform emptyDecoders) (staticClient.start listQuery)
        (sends run.2) := by
  intro run
  have hResult : run.1.1 = .error (.dch (.http .authentication "HTTP 401: " 401 "")) := by decide +kernel
  have hSendable : Sendable staticClient plainPlatform listQuery ⟨none, 0⟩ run.2 := by
    intro token hUsed
    cases (hUsed : token = str "secret")
    have hHeaders : PyToken.buildHeaders PyToken.asciiMapping (str "secret") (str "t") =
        .ok [("Authorization", str "Bearer secret"), ("x-tenant-id", str "t")] := by
      decide +kernel
    refine ⟨fun exception hError => ?_, fun headers _ => rfl⟩
    cases hHeaders.symm.trans hError
  have hIff := inHierarchy_iff staticClient plainPlatform emptyDecoders .listConnections ⟨none, 0⟩ fickleServer rfl
    (by norm_num [staticClient, providedClient]) hSendable
  refine ⟨hResult, hIff.mp ?_⟩
  change InHierarchy run.1.1
  rw [hResult]
  trivial

def rudeServer : Program.Environment Call Call.Answer :=
  server fun _ => answer 503 [("Retry-After", "-1")]

/-- A server that asks for a negative delay is obeyed, and `time.sleep` raises. -/
theorem negative_delay_escapes :
    let run := (staticClient.perform plainPlatform emptyDecoders .listConnections ⟨none, 0⟩).run rudeServer []
    run.1.1 = .error (.foreign ⟨"ValueError", "sleep length must be non-negative"⟩) ∧ ¬ InHierarchy run.1.1 := by
  intro run
  have hResult : run.1.1 = .error (.foreign ⟨"ValueError", "sleep length must be non-negative"⟩) := by
    decide +kernel
  rw [hResult]
  exact ⟨rfl, id⟩

end Samples

end DataConnectHub.Sdk
