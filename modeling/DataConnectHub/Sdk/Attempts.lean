import DataConnectHub.Retry.Protocol
import DataConnectHub.Sdk.Records

/-! The parts of an attempt: preparing the request, and waiting for the next attempt.
Each is described by what it leaves in the record and by the ways in which it can
fail. -/
namespace DataConnectHub.Sdk

open PyStd Retry

namespace RestClient

variable (client : RestClient) (platform : Platform) (query : Query)

section Policy

def isTransient : Outcome → Bool
  | .error error => error.errorClass.isTransport
  | .ok response => decide (response.statusCode ∈ retryableStatusCodes)

def isRefusal : Outcome → Bool
  | .error _ => false
  | .ok response => response.statusCode == 401 && client.hasProvider

variable {client} in
theorem not_isTransient_of_isRefusal {outcome : Outcome} (h : client.isRefusal outcome = true) :
    isTransient outcome = false := by
  cases outcome with
  | error error => cases h
  | ok response =>
    simp only [isRefusal, Bool.and_eq_true, beq_iff_eq] at h
    simp [isTransient, h.1, retryableStatusCodes]

/-- The protocol of the client's calls. -/
def policy : Policy Outcome where
  transient := isTransient
  refused := client.isRefusal
  retries := if client.isRetryable query.method then client.maxRetries else 0
  disjoint := fun _ => not_isTransient_of_isRefusal

/-- A call starts with one renewal. -/
def start : Phase where
  retries := (client.policy query).retries
  renewals := 1

theorem attempts_eq : client.attempts query.method = (client.policy query).retries + 1 := by
  rw [attempts, policy]
  split
  · rfl
  · rfl

end Policy

section Preparing

/-- A token the cache held before a call, or got during it. -/
def Known (memory : Memory) (trace : Record) (token : PyStr) : Prop :=
  memory.token = some token ∨ ∃ refresh, ⟨.provide refresh, (.ok token : Except String PyStr)⟩ ∈ trace

/-- A token a call can use. -/
def Uses (memory : Memory) (trace : Record) (token : PyStr) : Prop :=
  if client.hasProvider then Known memory trace token else token = client.token

/-- The reasons for which no request could be prepared. None of them lies with the
server. -/
inductive Unprepared (memory : Memory) (trace : Record) : Raised → Prop where
  | tenant (h : client.tenantId = []) :
      Unprepared memory trace (.dch (.config "tenant_id must be provided for REST operations"))
  | provider {refresh : Bool} {text : String}
      (h : ⟨.provide refresh, (.error text : Except String PyStr)⟩ ∈ trace) :
      Unprepared memory trace (.dch (.config s!"Token provider failed: {text}"))
  | token {token : PyStr} {raised : Raised} (hUsed : client.Uses memory trace token)
      (h : PyToken.buildHeaders platform.cases token client.tenantId = .error raised) : Unprepared memory trace raised
  | request {token : PyStr} {headers : List (String × PyStr)} {exception : PyException}
      (hUsed : client.Uses memory trace token) (hHeaders : PyToken.buildHeaders platform.cases token client.tenantId = .ok headers)
      (h : platform.build (client.requestOf query headers) = some exception) :
      Unprepared memory trace (.foreign exception)

variable {client platform query} {memory middle after : Memory} {trace later : Record} {token : PyStr}
  {result : Except Raised PyStr}

theorem Known.mono (h : Known middle later token)
    (hMiddle : ∀ token, middle.token = some token → Known memory trace token) (hLater : later ⊆ trace) :
    Known memory trace token := by
  rcases h with hToken | ⟨refresh, hMem⟩
  · exact hMiddle token hToken
  · exact .inr ⟨refresh, hLater hMem⟩

theorem Uses.mono (h : client.Uses middle later token)
    (hMiddle : ∀ token, middle.token = some token → Known memory trace token) (hLater : later ⊆ trace) :
    client.Uses memory trace token := by
  rw [Uses] at h ⊢
  split
  next hProvider =>
    rw [if_pos hProvider] at h
    exact h.mono hMiddle hLater
  next hProvider =>
    rw [if_neg hProvider] at h
    exact h

theorem Unprepared.mono {raised : Raised} (h : client.Unprepared platform query middle later raised)
    (hMiddle : ∀ token, middle.token = some token → Known memory trace token) (hLater : later ⊆ trace) :
    client.Unprepared platform query memory trace raised := by
  cases h with
  | tenant h => exact .tenant h
  | provider h => exact .provider (hLater h)
  | token hUsed h => exact .token (hUsed.mono hMiddle hLater) h
  | request hUsed hHeaders h => exact .request (hUsed.mono hMiddle hLater) hHeaders h

/-- What a step does to the state when it sends nothing: the cache may get a token. -/
structure Keeps (memory : Memory) (trace : Record) (after : Memory) : Prop where
  sent : after.sent = memory.sent
  known : ∀ token, after.token = some token → Known memory trace token

theorem Keeps.refl (memory : Memory) (trace : Record) : Keeps memory trace memory where
  sent := rfl
  known := fun _ h => .inl h

/-- The provider is asked once, and either fails or gives the token that is cached
from then on. -/
theorem callProvider_cases {refresh : Bool} (h : (callProvider refresh).Runs memory trace result after) :
    (∃ text, trace = [⟨.provide refresh, (.error text : Except String PyStr)⟩] ∧
        result = .error (.dch (.config s!"Token provider failed: {text}")) ∧ after = memory) ∨
      ∃ token, trace = [⟨.provide refresh, (.ok token : Except String PyStr)⟩] ∧
        result = .ok token ∧ after = { memory with token := some token } := by
  obtain ⟨answer, rest, rfl, hRest⟩ := h
  cases answer with
  | error text =>
    obtain ⟨rfl, hResult⟩ := hRest
    obtain ⟨rfl, rfl⟩ := Prod.mk.inj hResult
    exact .inl ⟨text, rfl, rfl, rfl⟩
  | ok token =>
    obtain ⟨rfl, hResult⟩ := hRest
    obtain ⟨rfl, rfl⟩ := Prod.mk.inj hResult
    exact .inr ⟨token, rfl, rfl, rfl⟩

/-- A record in which at most the provider was asked for a first token. -/
def Asking (trace : Record) : Prop :=
  trace = [] ∨ ∃ answer, trace = [⟨.provide false, answer⟩]

theorem Asking.idle (h : Asking trace) : Idle trace := by
  rcases h with rfl | ⟨answer, rfl⟩
  · exact ⟨rfl, rfl, rfl⟩
  · exact ⟨rfl, rfl, rfl⟩

theorem Asking.closes (h : Asking trace) : closes trace = [] := by
  rcases h with rfl | ⟨answer, rfl⟩
  · rfl
  · rfl

theorem cachedToken_cases (h : cachedToken.Runs memory trace result after) : Asking trace ∧ Keeps memory trace after ∧
      ((∃ text, ⟨.provide false, (.error text : Except String PyStr)⟩ ∈ trace ∧
          result = .error (.dch (.config s!"Token provider failed: {text}"))) ∨
        ∃ token, Known memory trace token ∧ result = .ok token) := by
  rw [Py.Runs, cachedToken] at h
  cases hToken : memory.token with
  | some token =>
    simp only [hToken] at h
    obtain ⟨rfl, hResult⟩ := h
    obtain ⟨rfl, rfl⟩ := Prod.mk.inj hResult
    exact ⟨.inl rfl, .refl _ _, .inr ⟨token, .inl hToken, rfl⟩⟩
  | none =>
    simp only [hToken] at h
    rcases callProvider_cases h with ⟨text, rfl, rfl, rfl⟩ | ⟨token, rfl, rfl, rfl⟩
    · exact ⟨.inr ⟨_, rfl⟩, .refl _ _, .inl ⟨text, by simp, rfl⟩⟩
    · have hKnown : Known memory [⟨.provide false, (.ok token : Except String PyStr)⟩] token :=
        .inr ⟨false, by simp⟩
      refine ⟨.inr ⟨_, rfl⟩, ⟨rfl, fun found hFound => ?_⟩, .inr ⟨token, hKnown, rfl⟩⟩
      cases hFound
      exact hKnown

variable (platform query) in
theorem headers_cases {result : Except Raised (List (String × PyStr))}
    (h : (client.headers platform).Runs memory trace result after) :
    Asking trace ∧ Keeps memory trace after ∧
      ((∃ raised, result = .error raised ∧ client.Unprepared platform query memory trace raised) ∨
        ∃ token headers, client.Uses memory trace token ∧ PyToken.buildHeaders platform.cases token client.tenantId = .ok headers ∧
          result = .ok headers) := by
  rw [headers] at h
  split at h
  next hTenant =>
    obtain ⟨rfl, rfl, rfl⟩ := Py.runs_raise.mp h
    exact ⟨.inl rfl, .refl _ _, .inl ⟨_, rfl, .tenant hTenant⟩⟩
  next =>
    -- Whatever the token is, what is left is to build headers from it.
    have hBuild : ∀ token, client.Uses memory trace token → result = PyToken.buildHeaders platform.cases token client.tenantId →
        (∃ raised, result = .error raised ∧ client.Unprepared platform query memory trace raised) ∨
          ∃ token headers, client.Uses memory trace token ∧ PyToken.buildHeaders platform.cases token client.tenantId = .ok headers ∧
            result = .ok headers := by
      intro token hUsed hResult
      cases hHeaders : PyToken.buildHeaders platform.cases token client.tenantId with
      | error raised => exact .inl ⟨raised, hResult.trans hHeaders, .token hUsed hHeaders⟩
      | ok headers => exact .inr ⟨token, headers, hUsed, hHeaders, hResult.trans hHeaders⟩
    cases hProvider : client.hasProvider with
    | true =>
      simp only [hProvider, if_true] at h
      rcases Py.runs_bind.mp h with ⟨raised, rfl, hCached⟩ | ⟨before, later, token, middle, rfl, hCached, hRest⟩
      · obtain ⟨hAsking, hKeeps, ⟨text, hMem, hResult⟩ | ⟨token, -, hResult⟩⟩ := cachedToken_cases hCached
        · cases hResult
          exact ⟨hAsking, hKeeps, .inl ⟨_, rfl, .provider hMem⟩⟩
        · cases hResult
      · obtain ⟨hAsking, hKeeps, ⟨text, -, hResult⟩ | ⟨_, hKnown, hResult⟩⟩ := cachedToken_cases hCached
        · cases hResult
        · cases hResult
          obtain ⟨rfl, hResult, rfl⟩ := Py.runs_ofExcept.mp hRest
          rw [List.append_nil] at *
          exact ⟨hAsking, hKeeps, hBuild token (by rw [Uses, if_pos hProvider]; exact hKnown) hResult⟩
    | false =>
      simp only [hProvider, Bool.false_eq_true, if_false] at h
      rcases Py.runs_bind.mp h with ⟨raised, rfl, hPure⟩ | ⟨before, later, token, middle, rfl, hPure, hRest⟩
      · obtain ⟨-, hResult, -⟩ := Py.runs_pure.mp hPure
        cases hResult
      · obtain ⟨rfl, hResult, rfl⟩ := Py.runs_pure.mp hPure
        cases hResult
        obtain ⟨rfl, hResult, rfl⟩ := Py.runs_ofExcept.mp hRest
        exact ⟨.inl rfl, .refl _ _, hBuild client.token (by rw [Uses, hProvider]; rfl) hResult⟩

theorem prepare_cases {result : Except Raised Request}
    (h : (client.prepare platform query).Runs memory trace result after) :
    Asking trace ∧ Keeps memory trace after ∧
      (∀ raised, result = .error raised → client.Unprepared platform query memory trace raised) := by
  rcases Py.runs_bind.mp h with ⟨raised, rfl, hHeaders⟩ | ⟨before, later, headers, middle, rfl, hHeaders, hRest⟩
  · obtain ⟨hAsking, hKeeps, ⟨_, hResult, hUnprepared⟩ | ⟨_, _, -, -, hResult⟩⟩ :=
      headers_cases platform query hHeaders
    · cases hResult
      exact ⟨hAsking, hKeeps, fun raised hRaised => by cases hRaised; exact hUnprepared⟩
    · cases hResult
  · obtain ⟨hAsking, hKeeps, ⟨_, hResult, -⟩ | ⟨token, _, hUsed, hBuilt, hResult⟩⟩ :=
      headers_cases platform query hHeaders
    · cases hResult
    · cases hResult
      cases hBuild : platform.build (client.requestOf query headers) with
      | some exception =>
        simp only [hBuild] at hRest
        obtain ⟨rfl, rfl, rfl⟩ := Py.runs_raise.mp hRest
        rw [List.append_nil]
        refine ⟨hAsking, hKeeps, fun raised hRaised => ?_⟩
        cases hRaised
        exact .request hUsed hBuilt hBuild
      | none =>
        simp only [hBuild] at hRest
        obtain ⟨rfl, rfl, rfl⟩ := Py.runs_pure.mp hRest
        rw [List.append_nil]
        exact ⟨hAsking, hKeeps, fun raised hRaised => by cases hRaised⟩

end Preparing

section Waiting

/-- The delay an outcome asks for. -/
def asks : Outcome → Option PyFloat
  | .error _ => none
  | .ok response => client.askedDelay platform response

/-- The delay that is varied at random, or what computing it raises. -/
def floatBackoff (attempt : Nat) : Except Raised ℚ :=
  client.cappedBackoff attempt >>= asFloat

/-- A delay after an outcome of this attempt. -/
inductive Delays (attempt : Nat) (outcome : Outcome) : PyFloat → Prop where
  | asked {delay : PyFloat} (h : client.asks platform outcome = some delay) : Delays attempt outcome delay
  | backoff {capped : ℚ} (jitter : Jitter) (hAsks : client.asks platform outcome = none)
      (h : client.floatBackoff attempt = .ok capped) :
      Delays attempt outcome (.finite (capped * jitter.factor))

/-- The client can wait after an outcome: for as long as the outcome asks, or for a
delay of its own that it can compute and that is not negative. -/
def CanWait (attempt : Nat) (outcome : Outcome) : Prop :=
  match client.asks platform outcome with
  | some delay => delay.Sleepable
  | none => ∃ capped, client.floatBackoff attempt = .ok capped ∧ 0 ≤ capped

/-- The same in a phase of a call, when the attempts of the round are counted. -/
def Waits (phase : Phase) (outcome : Outcome) : Prop :=
  client.CanWait platform ((client.policy query).retries - phase.retries) outcome

/-- How a wait ends, with the numbers of the responses it closes. A response is closed
only once the delay is known. -/
inductive WaitEnd (index attempt : Nat) (outcome : Outcome) (trace : Record) :
    List Nat → Except Raised Unit → Prop where
  | slept (h : client.CanWait platform attempt outcome) :
      WaitEnd index attempt outcome trace (receivedFrom index [outcome]) (.ok ())
  | overflowed {raised : Raised} (hAsks : client.asks platform outcome = none)
      (h : client.floatBackoff attempt = .error raised) : WaitEnd index attempt outcome trace [] (.error raised)
  | sleepless {delay : PyFloat} {exception : PyException} (hDelay : client.Delays platform attempt outcome delay)
      (hSlept : delay ∈ delays trace) (h : delay.sleep = .error exception) :
      WaitEnd index attempt outcome trace (receivedFrom index [outcome]) (.error (.foreign exception))

variable {client platform query} {memory middle after : Memory} {trace later : Record} {attempt : Nat}

theorem nonneg_of_mul_jitter {value : ℚ} {jitter : Jitter} (h : 0 ≤ value * jitter.factor) : 0 ≤ value := by
  have hFactor : 0 < jitter.factor := by
    have := jitter.atLeast
    linarith
  exact nonneg_of_mul_nonneg_left h hFactor

theorem Delays.canWait {outcome : Outcome} {delay : PyFloat} (h : client.Delays platform attempt outcome delay)
    (hSleep : delay.Sleepable) : client.CanWait platform attempt outcome := by
  cases h with
  | asked h =>
    rw [CanWait, h]
    exact hSleep
  | backoff jitter hAsks h =>
    rw [CanWait, hAsks]
    exact ⟨_, h, nonneg_of_mul_jitter (PyFloat.sleepable_finite_iff.mp hSleep).1⟩

variable {result : Except Raised PyFloat}

theorem backoffDelay_cases (h : (client.backoffDelay attempt).Runs memory trace result after) :
    after = memory ∧ Idle trace ∧ closes trace = [] ∧
      ((∃ raised, client.floatBackoff attempt = .error raised ∧ result = .error raised) ∨
        ∃ capped jitter, trace = [⟨.uniform, (jitter : Jitter)⟩] ∧ client.floatBackoff attempt = .ok capped ∧
          result = .ok (.finite (capped * jitter.factor))) := by
  rw [floatBackoff]
  rcases Py.runs_bind.mp h with ⟨raised, rfl, hCapped⟩ | ⟨before, later, capped, middle, rfl, hCapped, hRest⟩
  · obtain ⟨rfl, hResult, rfl⟩ := Py.runs_ofExcept.mp hCapped
    exact ⟨rfl, ⟨rfl, rfl, rfl⟩, rfl, .inl ⟨raised, by rw [← hResult]; rfl, rfl⟩⟩
  · obtain ⟨rfl, hValue, rfl⟩ := Py.runs_ofExcept.mp hCapped
    obtain ⟨jitter, _, rfl, hTail⟩ := Py.runs_perform_bind.mp hRest
    rw [← hValue]
    rcases Py.runs_bind.mp hTail with ⟨raised, rfl, hFloat⟩ | ⟨_, _, delay, _, rfl, hFloat, hDone⟩
    · obtain ⟨rfl, hResult, rfl⟩ := Py.runs_ofExcept.mp hFloat
      exact ⟨rfl, ⟨rfl, rfl, rfl⟩, rfl, .inl ⟨raised, hResult.symm, rfl⟩⟩
    · obtain ⟨rfl, hResult, rfl⟩ := Py.runs_ofExcept.mp hFloat
      obtain ⟨rfl, rfl, rfl⟩ := Py.runs_pure.mp hDone
      exact ⟨rfl, ⟨rfl, rfl, rfl⟩, rfl, .inr ⟨delay, jitter, rfl, hResult.symm, rfl⟩⟩

/-- The delay after a response, whether it asks for one or not. -/
theorem retryAfter_cases {response : Response}
    (h : (client.retryAfter platform response attempt).Runs memory trace result after) :
    after = memory ∧ Idle trace ∧ closes trace = [] ∧
      ((∃ raised, client.asks platform (.ok response) = none ∧ client.floatBackoff attempt = .error raised ∧
          result = .error raised) ∨
        ∃ delay, client.Delays platform attempt (.ok response) delay ∧ result = .ok delay) := by
  rw [retryAfter] at h
  cases hAsks : client.askedDelay platform response with
  | some delay =>
    simp only [hAsks] at h
    obtain ⟨rfl, rfl, rfl⟩ := Py.runs_pure.mp h
    exact ⟨rfl, ⟨rfl, rfl, rfl⟩, rfl, .inr ⟨delay, .asked hAsks, rfl⟩⟩
  | none =>
    simp only [hAsks] at h
    obtain ⟨rfl, hIdle, hCloses, ⟨raised, hCapped, rfl⟩ | ⟨capped, jitter, -, hCapped, rfl⟩⟩ := backoffDelay_cases h
    · exact ⟨rfl, hIdle, hCloses, .inl ⟨raised, hAsks, hCapped, rfl⟩⟩
    · exact ⟨rfl, hIdle, hCloses, .inr ⟨_, .backoff jitter hAsks hCapped, rfl⟩⟩

theorem backOff_cases (index : Nat) (error : RequestError) {result : Except Raised Unit}
    (h : (client.backOff attempt).Runs memory trace result after) :
    after = memory ∧ Idle trace ∧ client.WaitEnd platform index attempt (.error error) trace (closes trace) result := by
  rcases Py.runs_bind.mp h with ⟨raised, rfl, hDelay⟩ | ⟨before, later, delay, middle, rfl, hDelay, hSleep⟩
  · obtain ⟨rfl, hIdle, hCloses, ⟨_, hCapped, hResult⟩ | ⟨_, _, -, -, hResult⟩⟩ := backoffDelay_cases hDelay
    · cases hResult
      rw [hCloses]
      exact ⟨rfl, hIdle, .overflowed rfl hCapped⟩
    · cases hResult
  · obtain ⟨rfl, -, -, ⟨_, -, hResult⟩ | ⟨capped, jitter, rfl, hCapped, hResult⟩⟩ := backoffDelay_cases hDelay
    · cases hResult
    · cases hResult
      obtain ⟨rfl, rfl, ⟨rfl, hSleepable⟩ | ⟨exception, rfl, hFails⟩⟩ := sleep_cases hSleep
      · exact ⟨rfl, ⟨rfl, rfl, rfl⟩, .slept ((Delays.backoff jitter rfl hCapped).canWait hSleepable)⟩
      · refine ⟨rfl, ⟨rfl, rfl, rfl⟩, ?_⟩
        exact .sleepless (.backoff jitter rfl hCapped) (by simp [delays, sleptDelay]) hFails

theorem backOffAfter_cases {received : Received} {result : Except Raised Unit}
    (h : (client.backOffAfter platform received attempt).Runs memory trace result after) :
    after = memory ∧ Idle trace ∧
      client.WaitEnd platform received.index attempt (.ok received.response) trace (closes trace) result := by
  rcases Py.runs_bind.mp h with ⟨raised, rfl, hDelay⟩ | ⟨before, later, delay, middle, rfl, hDelay, hRest⟩
  · obtain ⟨rfl, hIdle, hCloses, ⟨_, hAsks, hCapped, hResult⟩ | ⟨_, -, hResult⟩⟩ := retryAfter_cases hDelay
    · cases hResult
      rw [hCloses]
      exact ⟨rfl, hIdle, .overflowed hAsks hCapped⟩
    · cases hResult
  · obtain ⟨rfl, hIdle, hCloses, ⟨_, -, -, hResult⟩ | ⟨_, hDelays, hResult⟩⟩ := retryAfter_cases hDelay
    · cases hResult
    · cases hResult
      obtain ⟨_, rfl, hSleep⟩ := runs_close_bind.mp hRest
      obtain ⟨rfl, rfl, hEnd⟩ := sleep_cases hSleep
      have hClosed : closes (before ++ [⟨.close received.index, ()⟩, ⟨.sleep delay, ()⟩]) =
          receivedFrom received.index [.ok received.response] := by
        rw [closes_append, hCloses]
        rfl
      rw [hClosed]
      refine ⟨rfl, hIdle.append ⟨rfl, rfl, rfl⟩, ?_⟩
      rcases hEnd with ⟨rfl, hSleepable⟩ | ⟨exception, rfl, hFails⟩
      · exact .slept (hDelays.canWait hSleepable)
      · exact .sleepless hDelays (by simp [delays, sleptDelay]) hFails

end Waiting

end RestClient
end DataConnectHub.Sdk
