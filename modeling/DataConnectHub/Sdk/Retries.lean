import DataConnectHub.Sdk.Rounds

/-! The retry protocol of the SDK: how often a call sends, after which answers it
sends again, how often it refreshes the token, what decides its result, and that a
streamed call closes what it receives. -/
namespace DataConnectHub.Sdk

open Interaction PyStd Retry List

namespace RestClient

section Discipline

/-- What a call does with its sends. -/
structure Disciplined (client : RestClient) (query : Query) (outcomes : List Outcome) (refreshes : Nat) : Prop where
  /-- What is not idempotent is sent twice at most, and only after a refusal. -/
  once : query.method ∈ [Method.post, Method.patch] → outcomes.length ≤ 2 ∧
      (outcomes.length = 2 → ∃ first, outcomes.head? = some first ∧ client.isRefusal first = true)
  bounded : query.method ∈ idempotentMethods → outcomes.length ≤ 2 * (client.maxRetries + 1)
  /-- An outcome after which the call sends again is transient, or the first refusal. -/
  again : ∀ before outcome after, outcomes = before ++ outcome :: after → after ≠ [] → isTransient outcome = true ∨
      client.isRefusal outcome = true ∧ ∀ earlier ∈ before, client.isRefusal earlier = false
  refreshed : refreshes ≤ 1

variable {client : RestClient} {platform : Platform} {query : Query} {memory : Memory} {trace : Record}
  {stream : Bool} {result : Except Raised Received} {passed : List Outcome} {phase : Phase}

theorem Ending.length_le {settles : Outcome → Prop} {index attempt retries : Nat} {ended : List Outcome}
    {closed : List Nat}
    (h : client.Ending platform query memory trace settles index attempt retries ended closed result) :
    ended.length ≤ 1 := by
  cases h with
  | unprepared h => exact Nat.zero_le 1
  | settled h | stalled hTransient hRetries hWait => exact Nat.le_refl 1

/-- The outcomes of a call are those it goes past, and at most one other. -/
theorem Conversation.sends_eq (h : client.Conversation platform query stream memory trace result passed phase) :
    ∃ ended, sends trace = passed ++ ended ∧ ended.length ≤ 1 := by
  obtain ⟨ended, closed, hSends, -, hEnding⟩ := h.ending
  exact ⟨ended, hSends, hEnding.length_le⟩

theorem Conversation.length_le (h : client.Conversation platform query stream memory trace result passed phase) :
    (sends trace).length ≤ 2 * ((client.policy query).retries + 1) := by
  obtain ⟨ended, hSends, hEnded⟩ := h.sends_eq
  have hWeight := h.reaches.length_add_weight_le
  rw [hSends, length_append]
  simp only [Policy.Reaches.weight, start] at hWeight
  omega

theorem policy_retries (hMethods : client.retryMethods = some idempotentMethods) :
    (client.policy query).retries = if query.method ∈ idempotentMethods then client.maxRetries else 0 := by
  rw [policy]
  simp only [isRetryable, hMethods, contains_iff_mem]

section

variable (h : client.Conversation platform query stream memory trace result passed phase)

include h

/-- A call that is sent again without retries was refused. -/
theorem Conversation.head_isRefusal (hRetries : (client.policy query).retries = 0) (hTwice : (sends trace).length = 2) :
    ∃ first, (sends trace).head? = some first ∧ client.isRefusal first = true := by
  obtain ⟨ended, hSends, hEnded⟩ := h.sends_eq
  have hLength : passed ≠ [] := by
    rintro rfl
    rw [hSends, nil_append] at hTwice
    omega
  cases hReaches : h.reaches with
  | refl => exact absurd rfl hLength
  | @step _ _ _ first rest hAdvance hRest =>
    refine ⟨first, by rw [hSends]; rfl, ?_⟩
    rcases Policy.advance_cases hAdvance with ⟨-, -, hLeft, -⟩ | ⟨hRefused, -⟩
    · rw [start, hRetries] at hLeft
      cases hLeft
    · exact hRefused

/-- What stands before another outcome is among those gone past. -/
theorem Conversation.passed_of_sends {before after : List Outcome} {outcome : Outcome}
    (hSplit : sends trace = before ++ outcome :: after) (hAfter : after ≠ []) :
    ∃ rest, passed = before ++ outcome :: rest := by
  obtain ⟨ended, hSends, hEnded⟩ := h.sends_eq
  have hLong : 1 ≤ after.length := length_pos_iff.mpr hAfter
  rcases append_eq_append_iff.mp (hSends.symm.trans hSplit) with ⟨middle, -, hMiddle⟩ | ⟨middle, hPassed, hMiddle⟩
  · have hLength := congrArg length hMiddle
    rw [length_append, length_cons] at hLength
    omega
  · cases middle with
    | nil =>
      have hLength := congrArg length hMiddle
      rw [nil_append, length_cons] at hLength
      omega
    | cons first rest =>
      obtain ⟨rfl, -⟩ := cons.inj hMiddle
      exact ⟨rest, hPassed⟩

theorem Conversation.disciplined (hMethods : client.retryMethods = some idempotentMethods) :
    client.Disciplined query (sends trace) (refreshes trace) := by
  have hRetries : (client.policy query).retries = _ := policy_retries hMethods
  have hRenewals : passed.countP client.isRefusal + phase.renewals = 1 := h.reaches.countP_refused
  constructor
  case once =>
    intro hMethod
    have hNone : (client.policy query).retries = 0 := by
      rw [hRetries, if_neg]
      intro hIdempotent
      simp only [idempotentMethods, mem_cons, not_mem_nil, or_false] at hMethod hIdempotent
      rcases hMethod with hMethod | hMethod
      · simp [hMethod] at hIdempotent
      · simp [hMethod] at hIdempotent
    have hLength := h.length_le
    rw [hNone] at hLength
    exact ⟨hLength, h.head_isRefusal hNone⟩
  case bounded =>
    intro hMethod
    have hLength := h.length_le
    rw [hRetries, if_pos hMethod] at hLength
    exact hLength
  case again =>
    intro before outcome after hSplit hAfter
    obtain ⟨rest, rfl⟩ := h.passed_of_sends hSplit hAfter
    rcases h.reaches.advances outcome (by simp) with hTransient | hRefused
    · exact .inl hTransient
    · refine .inr ⟨hRefused, fun earlier hMem => ?_⟩
      -- A second refusal would cost a second renewal.
      have hOne : client.isRefusal outcome = true := hRefused
      rw [countP_append, countP_cons_of_pos hOne] at hRenewals
      have hZero : before.countP client.isRefusal = 0 := by omega
      exact Bool.eq_false_iff.mpr (countP_eq_zero.mp hZero earlier hMem)
  case refreshed =>
    rw [h.refreshed]
    omega

end

end Discipline

section Results

/-- No attempt takes the delay beyond the floats. An int may grow, and is capped; below
the cap it only grows downwards. -/
def InFloatRange (client : RestClient) : Prop :=
  match client.backoffBase with
  | .float _ => client.maxRetries ≤ 1024
  | .int base => -2 ^ 1023 ≤ base * 2 ^ client.maxRetries

/-- The settings under which every delay can be computed, and slept for when it is
not negative. -/
structure WithinRange (client : RestClient) : Prop where
  retries : client.InFloatRange
  delay : client.backoffMax * 10 ^ 9 < 2 ^ 63

/-- What `_request` makes of the outcome of the last send. -/
def verdict (client : RestClient) (platform : Platform) : Outcome → Except Raised Response
  | .error error => .error (.dch (mapRequestError error client.baseUrl))
  | .ok response => if response.isSuccess then .ok response else .error (mapHttpError platform response)

/-- What `_stream_request` makes of it: the chunks it yields, and how it ends. A
consumer that closes the generator has got the chunks up to there. -/
inductive StreamVerdict (client : RestClient) (platform : Platform) :
    Outcome → List (List UInt8) → Except Raised StreamEnd → Prop where
  | failed (error : RequestError) :
      StreamVerdict client platform (.error error) [] (.error (.dch (mapRequestError error client.baseUrl)))
  | refused {response : Response} (h : response.isSuccess = false) :
      StreamVerdict client platform (.ok response) [] (.error (client.streamError platform response))
  | finished {response : Response} (h : response.isSuccess = true) (hFailure : response.failure = none) :
      StreamVerdict client platform (.ok response) response.chunks (.ok .finished)
  | broken {response : Response} {error : RequestError} (h : response.isSuccess = true)
      (hFailure : response.failure = some error) :
      StreamVerdict client platform (.ok response) response.chunks
        (.error (.dch (mapRequestError error client.baseUrl)))
  | closed {response : Response} {chunks : List (List UInt8)} (h : response.isSuccess = true) (hSome : chunks ≠ [])
      (hChunks : chunks <+: response.chunks) : StreamVerdict client platform (.ok response) chunks (.ok .closed)

variable {client : RestClient} {platform : Platform} {query : Query} {memory after : Memory} {trace : Record}
  {stream : Bool} {passed : List Outcome} {phase : Phase} {attempt : Nat} {raised : Raised} {outcome : Outcome}
  {result : Except Raised StreamEnd}

theorem floatBackoff_eq (client : RestClient) (attempt : Nat) : client.floatBackoff attempt =
    ((client.backoffBase.shift attempt).bind fun delay => (delay.min client.backoffMax).toFloat).elim
      (.error overflow) .ok := by
  rw [floatBackoff, cappedBackoff]
  cases client.backoffBase.shift attempt <;> rfl

theorem floatBackoff_le {capped : ℚ} (h : client.floatBackoff attempt = .ok capped) : capped ≤ client.backoffMax := by
  rw [floatBackoff_eq] at h
  cases hFloat : (client.backoffBase.shift attempt).bind fun delay => (delay.min client.backoffMax).toFloat with
  | none =>
    rw [hFloat] at h
    cases h
  | some value =>
    rw [hFloat] at h
    cases h
    obtain ⟨delay, -, hValue⟩ := Option.bind_eq_some_iff.mp hFloat
    exact (PyNumber.value_of_toFloat hValue).symm.trans_le (delay.value_min_le client.backoffMax)

/-- An int that the cap is not below is within the floats. -/
theorem toFloat_int {base : Int} (hRange : client.WithinRange) (hBase : client.backoffBase = .int base)
    (h : attempt ≤ client.maxRetries) (hCap : ((base * 2 ^ attempt : Int) : ℚ) ≤ client.backoffMax) :
    (PyNumber.int (base * 2 ^ attempt)).toFloat ≠ none := by
  have hRetries := hRange.retries
  rw [InFloatRange, hBase] at hRetries
  have hDelay := hRange.delay
  have hLow : -2 ^ 1023 ≤ base * 2 ^ attempt := by
    rcases le_or_gt 0 base with hSign | hSign
    · exact le_trans (by norm_num) (mul_nonneg hSign (by positivity))
    · have hPower : (2 : Int) ^ attempt ≤ 2 ^ client.maxRetries := pow_le_pow_right₀ (by norm_num) h
      exact hRetries.trans (mul_le_mul_of_nonpos_left hPower hSign.le)
  have hHigh : base * 2 ^ attempt < 2 ^ 63 := by
    have hLess : ((base * 2 ^ attempt : Int) : ℚ) < (2 ^ 63 : Int) := by
      push_cast at hCap ⊢
      linarith
    exact_mod_cast hLess
  have hRoom : |base * 2 ^ attempt| < 2 ^ 1024 - 2 ^ 970 := by
    have hHalf : (2 : Int) ^ 970 < 2 ^ 1023 := pow_lt_pow_right₀ (by norm_num) (by norm_num)
    have hSmall : (2 : Int) ^ 63 < 2 ^ 1023 := pow_lt_pow_right₀ (by norm_num) (by norm_num)
    rw [abs_lt, pow_succ' (2 : Int) 1023]
    generalize (2 : Int) ^ 1023 = half at hLow hHalf hSmall ⊢
    generalize (2 : Int) ^ 970 = unit at hHalf ⊢
    constructor
    · linarith
    · linarith
  rw [PyNumber.toFloat, if_neg (not_le.mpr hRoom)]
  exact Option.some_ne_none _

theorem floatBackoff_ne_error (hRange : client.WithinRange) (h : attempt ≤ client.maxRetries - 1) :
    client.floatBackoff attempt ≠ .error raised := by
  have hFloat : ((client.backoffBase.shift attempt).bind fun delay => (delay.min client.backoffMax).toFloat) ≠ none := by
    cases hBase : client.backoffBase with
    | float base =>
      have hRetries := hRange.retries
      rw [InFloatRange, hBase] at hRetries
      rw [PyNumber.shift, if_pos (by omega), Option.bind_some, PyNumber.min]
      split
      · exact Option.some_ne_none _
      · exact Option.some_ne_none _
    | int base =>
      rw [PyNumber.shift, Option.bind_some, PyNumber.min]
      split
      · exact Option.some_ne_none _
      next hCap => exact toFloat_int hRange hBase (by omega) (not_lt.mp hCap)
  obtain ⟨value, hValue⟩ := Option.ne_none_iff_exists'.mp hFloat
  rw [floatBackoff_eq, hValue]
  exact fun h => by cases h

theorem Delays.sleepable {delay : PyFloat} (h : client.Delays platform attempt outcome delay)
    (hRange : client.WithinRange) (hDelay : delay.NonNegative) :
    delay.Sleepable := by
  cases h with
  | asked h =>
    cases outcome with
    | error error => cases h
    | ok response =>
      rw [asks, askedDelay] at h
      split at h
      · cases h
      next =>
        split at h
        · cases h
        next =>
          obtain ⟨float, -, rfl⟩ := Option.map_eq_some_iff.mp h
          exact PyFloat.sleepable_min hRange.delay hDelay
  | @backoff capped jitter hAsks h =>
    have hNonneg : 0 ≤ capped * jitter.factor := hDelay
    have hCapped := floatBackoff_le h
    have hProduct : capped * jitter.factor ≤ capped :=
      mul_le_of_le_one_right (nonneg_of_mul_jitter hNonneg) jitter.atMost
    have hMax := hRange.delay
    exact PyFloat.sleepable_finite_iff.mpr ⟨hNonneg, by linarith⟩

/-- No wait of a call fails within the range. -/
theorem WaitEnd.not_error {index : Nat} {closed : List Nat}
    (h : client.WaitEnd platform index attempt outcome trace closed (.error raised)) (hRange : client.WithinRange)
    (hAttempt : attempt ≤ client.maxRetries - 1) (hDelays : ∀ delay ∈ delays trace, delay.NonNegative) : False := by
  cases h with
  | overflowed hAsks h => exact floatBackoff_ne_error hRange hAttempt h
  | sleepless hDelay hSlept h =>
    have hSleepable := hDelay.sleepable hRange (hDelays _ hSlept)
    rw [hSleepable] at h
    cases h

theorem policy_retries_le : (client.policy query).retries ≤ client.maxRetries := by
  rw [policy]
  split
  · exact Nat.le_refl _
  · exact Nat.zero_le _

/-- Within the range, a call ends without another request or on the outcome that
settles it. -/
theorem Conversation.ending_of_range {result : Except Raised Received}
    (h : client.Conversation platform query stream memory trace result passed phase) (hRange : client.WithinRange)
    (hDelays : ∀ delay ∈ delays trace, delay.NonNegative) :
    (∃ raised, result = .error raised ∧ client.Unprepared platform query memory trace raised ∧
        sends trace = passed ∧ (stream = true → closes trace = receivedFrom memory.sent passed)) ∨
      ∃ last, sends trace = passed ++ [last] ∧ result = client.settle (memory.sent + passed.length) last ∧
        (stream = true → closes trace = receivedFrom memory.sent passed) := by
  obtain ⟨ended, closed, hSends, hCloses, hEnding⟩ := h.ending
  cases hEnding with
  | unprepared hUnprepared =>
    rw [append_nil] at hSends hCloses
    exact .inl ⟨_, rfl, hUnprepared, hSends, hCloses⟩
  | settled hSettles =>
    rw [append_nil] at hCloses
    exact .inr ⟨_, hSends, rfl, hCloses⟩
  | stalled hTransient hRetries hWait =>
    have hLe : (client.policy query).retries ≤ client.maxRetries := policy_retries_le
    exact (hWait.not_error hRange (by omega) hDelays).elim

/-- The result of a call comes from the outcome of its last send, or else no request
could be prepared. -/
def Determined (client : RestClient) (platform : Platform) (query : Query) (memory : Memory) (trace : Record)
    {Value : Type} (decides : Outcome → Except Raised Value → Prop) (result : Except Raised Value) : Prop :=
  (∃ raised, result = .error raised ∧ client.Unprepared platform query memory trace raised) ∨
    ∃ last, (sends trace).getLast? = some last ∧ decides last result

/-- `_request` judges the response that the sends ended on. -/
theorem request_cases {result : Except Raised Response}
    (h : (client.request platform query).Runs memory trace result after) :
    ∃ received, (client.authorizedRequest platform query false).Runs memory trace received after ∧
      result = received >>= fun received => client.verdict platform (.ok received.response) := by
  have hJudge : client.request platform query = client.authorizedRequest platform query false >>= fun received =>
      Py.ofExcept (client.verdict platform (.ok received.response)) := by
    rw [request]
    congr 1
    funext received
    rw [verdict]
    split
    · rfl
    · rfl
  rw [hJudge] at h
  exact Py.runs_bind_ofExcept h

/-- What a generator does with a body leaves nothing else in the record. -/
structure Emission (trace : Record) : Prop where
  sends : sends trace = []
  refreshes : refreshes trace = 0
  delays : delays trace = []

theorem emitAll_cases {chunks : List (List UInt8)} {result : Except Raised Consumer}
    (h : (emitAll chunks).Runs memory trace result after) :
    after = memory ∧ Emission trace ∧ closes trace = [] ∧ (result = .ok .next ∧ emitted trace = chunks ∨
        result = .ok .close ∧ emitted trace ≠ [] ∧ emitted trace <+: chunks) := by
  induction chunks generalizing trace with
  | nil =>
    obtain ⟨rfl, rfl, rfl⟩ := Py.runs_pure.mp h
    exact ⟨rfl, ⟨rfl, rfl, rfl⟩, rfl, .inl ⟨rfl, rfl⟩⟩
  | cons chunk chunks ih =>
    rw [emitAll] at h
    obtain ⟨consumer, later, rfl, hRest⟩ := Py.runs_perform_bind.mp h
    cases consumer with
    | close =>
      obtain ⟨rfl, rfl, rfl⟩ := Py.runs_pure.mp hRest
      exact ⟨rfl, ⟨rfl, rfl, rfl⟩, rfl, .inr ⟨rfl, cons_ne_nil _ _, by simp [emitted, emittedChunk]⟩⟩
    | next =>
      obtain ⟨rfl, hEmission, hCloses, hEnd⟩ := ih hRest
      refine ⟨rfl, ⟨hEmission.sends, hEmission.refreshes, hEmission.delays⟩, hCloses, ?_⟩
      rcases hEnd with ⟨rfl, hAll⟩ | ⟨rfl, -, hSome⟩
      · exact .inl ⟨rfl, congrArg (chunk :: ·) hAll⟩
      · exact .inr ⟨rfl, cons_ne_nil _ _, (prefix_cons_inj chunk).mpr hSome⟩

theorem streamBody_cases {received : Received} (hSuccess : received.response.isSuccess = true)
    (h : (client.streamBody received).Runs memory trace result after) :
    after = memory ∧ Emission trace ∧ closes trace = [received.index] ∧
      client.StreamVerdict platform (.ok received.response) (emitted trace) result := by
  rcases Py.runs_bind.mp h with ⟨raised, -, hEmit⟩ | ⟨body, _, consumer, middle, rfl, hEmit, hRest⟩
  · obtain ⟨-, -, -, ⟨hResult, -⟩ | ⟨hResult, -⟩⟩ := emitAll_cases hEmit
    · cases hResult
    · cases hResult
  obtain ⟨rfl, hEmission, hCloses, hConsumer⟩ := emitAll_cases hEmit
  obtain ⟨rest, rfl, hEnd⟩ := runs_close_bind.mp hRest
  -- Nothing is left to do once the response is closed.
  have hVerdict : rest = [] ∧ after = middle ∧
      client.StreamVerdict platform (.ok received.response) (emitted body) result := by
    rcases hConsumer with ⟨hNext, hAll⟩ | ⟨hClosed, hSome, hChunks⟩
    · cases hNext
      rw [hAll]
      cases hFailure : received.response.failure with
      | none =>
        simp only [hFailure] at hEnd
        obtain ⟨rfl, rfl, rfl⟩ := Py.runs_pure.mp hEnd
        exact ⟨rfl, rfl, .finished hSuccess hFailure⟩
      | some error =>
        simp only [hFailure] at hEnd
        obtain ⟨rfl, rfl, rfl⟩ := Py.runs_raise.mp hEnd
        exact ⟨rfl, rfl, .broken hSuccess hFailure⟩
    · cases hClosed
      obtain ⟨rfl, rfl, rfl⟩ := Py.runs_pure.mp hEnd
      exact ⟨rfl, rfl, .closed hSuccess hSome hChunks⟩
  obtain ⟨rfl, rfl, hVerdict⟩ := hVerdict
  refine ⟨rfl, ⟨?_, ?_, ?_⟩, ?_, ?_⟩
  · rw [sends_append, hEmission.sends]; rfl
  · rw [refreshes_append, hEmission.refreshes]; rfl
  · rw [delays_append, hEmission.delays]; rfl
  · rw [closes_append, hCloses]; rfl
  · have hTail : emitted [⟨.close received.index, ()⟩] = [] := rfl
    rw [emitted_append, hTail, append_nil]
    exact hVerdict

theorem streamRequest_cases (h : (client.streamRequest platform query).Runs memory trace result after) :
    (∃ raised, result = .error raised ∧
        (client.authorizedRequest platform query true).Runs memory trace (.error raised) after) ∨
      ∃ before received tail, trace = before ++ tail ∧
        (client.authorizedRequest platform query true).Runs memory before (.ok received) after ∧ Emission tail ∧
        closes tail = [received.index] ∧
        client.StreamVerdict platform (.ok received.response) (emitted tail) result := by
  rcases Py.runs_bind.mp h with ⟨raised, rfl, hFirst⟩ | ⟨before, later, received, middle, rfl, hFirst, hRest⟩
  · exact .inl ⟨raised, rfl, hFirst⟩
  refine .inr ⟨before, received, later, rfl, ?_⟩
  split at hRest
  next hSuccess =>
    obtain ⟨rfl, hEmission, hCloses, hVerdict⟩ := streamBody_cases hSuccess hRest
    exact ⟨hFirst, hEmission, hCloses, hVerdict⟩
  next hFailure =>
    obtain ⟨_, rfl, hRaise⟩ := runs_close_bind.mp hRest
    obtain ⟨rfl, rfl, rfl⟩ := Py.runs_raise.mp hRaise
    exact ⟨hFirst, ⟨rfl, rfl, rfl⟩, rfl, .refused (Bool.eq_false_iff.mpr hFailure)⟩

theorem request_disciplined {result : Except Raised Response}
    (h : (client.request platform query).Runs memory trace result after)
    (hMethods : client.retryMethods = some idempotentMethods) :
    client.Disciplined query (sends trace) (refreshes trace) := by
  obtain ⟨received, hFirst, -⟩ := request_cases h
  obtain ⟨passed, phase, hConversation⟩ := authorizedRequest_conversation hFirst
  exact hConversation.disciplined hMethods

theorem request_determined {result : Except Raised Response}
    (h : (client.request platform query).Runs memory trace result after) (hRange : client.WithinRange)
    (hDelays : ∀ delay ∈ delays trace, delay.NonNegative) :
    client.Determined platform query memory trace (fun last result => result = client.verdict platform last)
      result := by
  obtain ⟨received, hFirst, rfl⟩ := request_cases h
  obtain ⟨passed, phase, hConversation⟩ := authorizedRequest_conversation hFirst
  rcases hConversation.ending_of_range hRange hDelays with ⟨raised, rfl, hUnprepared, -⟩ | ⟨last, hSends, rfl, -⟩
  · exact .inl ⟨raised, rfl, hUnprepared⟩
  · refine .inr ⟨last, by rw [hSends, getLast?_concat], ?_⟩
    cases last with
    | error error | ok response => rfl

theorem streamRequest_disciplined (h : (client.streamRequest platform query).Runs memory trace result after)
    (hMethods : client.retryMethods = some idempotentMethods) :
    client.Disciplined query (sends trace) (refreshes trace) := by
  rcases streamRequest_cases h with ⟨raised, rfl, hFirst⟩ | ⟨before, received, tail, rfl, hFirst, hEmission, -⟩
  · obtain ⟨passed, phase, hConversation⟩ := authorizedRequest_conversation hFirst
    exact hConversation.disciplined hMethods
  · obtain ⟨passed, phase, hConversation⟩ := authorizedRequest_conversation hFirst
    rw [sends_append, hEmission.sends, append_nil, refreshes_append, hEmission.refreshes]
    exact hConversation.disciplined hMethods

/-- A streamed call within the range: its result is determined, and it closes what it
receives, each response once. -/
theorem streamRequest_determined (h : (client.streamRequest platform query).Runs memory trace result after)
    (hRange : client.WithinRange) (hDelays : ∀ delay ∈ delays trace, delay.NonNegative) :
    client.Determined platform query memory trace
        (fun last result => client.StreamVerdict platform last (emitted trace) result) result ∧
      closes trace = receivedFrom memory.sent (sends trace) := by
  rcases streamRequest_cases h with
    ⟨raised, rfl, hFirst⟩ | ⟨before, received, tail, rfl, hFirst, hEmission, hTail, hVerdict⟩
  · obtain ⟨passed, phase, hConversation⟩ := authorizedRequest_conversation hFirst
    rcases hConversation.ending_of_range hRange hDelays with
      ⟨_, hResult, hUnprepared, hSends, hCloses⟩ | ⟨last, hSends, hResult, hCloses⟩
    · cases hResult
      exact ⟨.inl ⟨raised, rfl, hUnprepared⟩, by rw [hCloses rfl, hSends]⟩
    · cases last with
      | ok response => cases hResult
      | error error =>
        cases hResult
        refine ⟨.inr ⟨.error error, by rw [hSends, getLast?_concat], ?_⟩, ?_⟩
        · rw [hConversation.silent]
          exact .failed error
        · rw [hCloses rfl, hSends, receivedFrom_append, receivedFrom, receivedFrom, append_nil]
  · obtain ⟨passed, phase, hConversation⟩ := authorizedRequest_conversation hFirst
    rw [delays_append, hEmission.delays, append_nil] at hDelays
    rcases hConversation.ending_of_range hRange hDelays with
      ⟨_, hResult, -⟩ | ⟨last, hSends, hResult, hCloses⟩
    · cases hResult
    · cases last with
      | error error => cases hResult
      | ok response =>
        cases hResult
        rw [sends_append, hEmission.sends, append_nil, emitted_append, hConversation.silent, nil_append,
          closes_append, hCloses rfl, hTail, hSends, receivedFrom_append]
        exact ⟨.inr ⟨.ok response, by rw [sends_append, hEmission.sends, append_nil, hSends,
          getLast?_concat], hVerdict⟩, rfl⟩

end Results

section Protocol

variable (client : RestClient) (platform : Platform) (query : Query) (memory : Memory)
  (environment : Program.Environment Call Call.Answer)

/-- The retry protocol, whatever the server, the token provider and the consumer do,
for settings within the range. -/
theorem retry_protocol (hMethods : client.retryMethods = some idempotentMethods) (hRange : client.WithinRange) :
    (∀ result after trace, (client.request platform query memory).run environment [] = ((result, after), trace) →
      client.Disciplined query (sends trace) (refreshes trace) ∧ ((∀ delay ∈ delays trace, delay.NonNegative) →
          client.Determined platform query memory trace (fun last result => result = client.verdict platform last)
            result)) ∧
      ∀ result after trace, (client.streamRequest platform query memory).run environment [] = ((result, after), trace) →
        client.Disciplined query (sends trace) (refreshes trace) ∧ ((∀ delay ∈ delays trace, delay.NonNegative) →
            client.Determined platform query memory trace
                (fun last result => client.StreamVerdict platform last (emitted trace) result) result ∧
              closes trace = receivedFrom memory.sent (sends trace)) := by
  constructor
  · intro result after trace hRun
    have hYields := Program.yields_run_nil environment (client.request platform query memory)
    rw [hRun] at hYields
    exact ⟨request_disciplined hYields hMethods, request_determined hYields hRange⟩
  · intro result after trace hRun
    have hYields := Program.yields_run_nil environment (client.streamRequest platform query memory)
    rw [hRun] at hYields
    exact ⟨streamRequest_disciplined hYields hMethods, streamRequest_determined hYields hRange⟩

end Protocol

section Samples

/-- A client with the default settings and a token provider. -/
def providedClient : RestClient where
  baseUrl := "https://hub"
  token := []
  hasProvider := true
  tenantId := str "t"
  apiBase := defaultApiBase
  maxRetries := 3
  backoffBase := .float (1 / 2)
  backoffMax := 30
  retryMethods := some idempotentMethods

def plainPlatform : Platform where
  cases := PyToken.asciiMapping
  decimal := fun _ => none
  build := fun _ => none
  text := fun _ => .ok ""

def listQuery : Query where
  method := .get
  path := connectionsEndpoint
  json := none
  params := []

def answer (statusCode : Nat) (headers : List (String × String)) : Response where
  statusCode := statusCode
  headers := headers
  chunks := [[123, 125]]
  failure := none

def fullJitter : Jitter where
  factor := 1
  atLeast := by norm_num
  atMost := le_refl 1

/-- A server that answers by script, with a provider and a consumer that never fail. -/
def server (script : Nat → Response) : Program.Environment Call Call.Answer
  | _, .provide refresh => (.ok (str (if refresh then "new" else "old")) : Except String PyStr)
  | past, .send _ _ => (.ok (script (sends past).length) : Except RequestError Response)
  | _, .uniform => fullJitter
  | _, .sleep _ => ()
  | _, .close _ => ()
  | _, .emit _ => Consumer.next

/-- Busy at first, then it wants another token. -/
def fickleServer : Program.Environment Call Call.Answer :=
  server fun
    | 0 => answer 503 [("Retry-After", "2")]
    | 1 => answer 401 []
    | _ => answer 200 []

theorem retry_protocol_sample :
    let run := (providedClient.streamRequest plainPlatform listQuery ⟨none, 0⟩).run fickleServer []
    run.1.1 = .ok .finished ∧ (sends run.2).length = 3 ∧ refreshes run.2 = 1 ∧ delays run.2 = [.finite 2] ∧
      providedClient.Disciplined listQuery (sends run.2) (refreshes run.2) ∧
      closes run.2 = receivedFrom 0 (sends run.2) := by
  intro run
  have hRange : providedClient.WithinRange := ⟨(by decide : 3 ≤ 1024), by norm_num [providedClient]⟩
  have hSlept : delays run.2 = [.finite 2] := by decide +kernel
  have hDelays : ∀ delay ∈ delays run.2, delay.NonNegative := by
    rw [hSlept]
    decide
  obtain ⟨hDisciplined, hRest⟩ :=
    (retry_protocol providedClient plainPlatform listQuery ⟨none, 0⟩ fickleServer rfl hRange).2
      run.1.1 run.1.2 run.2 rfl
  exact ⟨by decide +kernel, by decide +kernel, by decide +kernel, hSlept, hDisciplined, (hRest hDelays).2⟩

/-- A client that is told to be patient. -/
def patientClient : RestClient :=
  { providedClient with hasProvider := false, maxRetries := 1025 }

def busyServer : Program.Environment Call Call.Answer :=
  server fun _ => answer 503 []

def busyRequest : Request :=
  patientClient.requestOf listQuery [("x-tenant-id", str "t")]

theorem prepare_runs (memory : Memory) :
    (patientClient.prepare plainPlatform listQuery).Runs memory [] (.ok busyRequest) memory := by
  have hPrepare : patientClient.prepare plainPlatform listQuery memory = .done (.ok busyRequest, memory) := by rfl
  rw [Py.Runs, hPrepare]
  exact ⟨rfl, rfl⟩

/-- The record of an attempt after which the patient client waits. -/
def busyAttempt (index : Nat) (delay : PyFloat) : Record :=
  [⟨.send busyRequest true, (.ok (answer 503 []) : Except RequestError Response)⟩, ⟨.uniform, fullJitter⟩,
    ⟨.close index, ()⟩, ⟨.sleep delay, ()⟩]

variable {attempt count : Nat}

/-- A wait of the patient client after one of its first attempts. -/
theorem backOffAfter_runs (hAttempt : attempt < 1024) (index : Nat) (memory : Memory) :
    ∃ delay : PyFloat, delay.NonNegative ∧
      (patientClient.backOffAfter plainPlatform ⟨index, answer 503 []⟩ attempt).Runs memory
        [⟨.uniform, fullJitter⟩, ⟨.close index, ()⟩, ⟨.sleep delay, ()⟩] (.ok ()) memory := by
  obtain ⟨capped, hNonneg, hMost, hCapped⟩ : ∃ capped : ℚ, 0 ≤ capped ∧ capped ≤ 30 ∧
      patientClient.cappedBackoff attempt = .ok (.float capped) := by
    rw [cappedBackoff, show patientClient.backoffBase = .float (1 / 2) from rfl, PyNumber.shift, if_pos hAttempt,
      Option.elim_some, PyNumber.min]
    split
    · exact ⟨30, by norm_num, le_refl _, rfl⟩
    next hCap => exact ⟨1 / 2 * 2 ^ attempt, by positivity, not_lt.mp hCap, rfl⟩
  have hDelay : (patientClient.retryAfter plainPlatform (answer 503 []) attempt).Runs memory
      [⟨.uniform, fullJitter⟩] (.ok (.finite (capped * 1))) memory := by
    apply Py.Runs.bind (Py.runs_ofExcept.mpr ⟨rfl, hCapped.symm, rfl⟩)
    refine Py.runs_perform_bind.mpr ⟨fullJitter, [], rfl, ?_⟩
    exact Py.Runs.bind (Py.runs_ofExcept.mpr ⟨rfl, rfl, rfl⟩) (Py.runs_pure.mpr ⟨rfl, rfl, rfl⟩)
  refine ⟨.finite (capped * 1), by rw [mul_one]; exact hNonneg, ?_⟩
  apply Py.Runs.bind hDelay
  refine runs_close_bind.mpr ⟨_, rfl, ?_⟩
  exact runs_sleep (PyFloat.sleepable_finite_iff.mpr ⟨by linarith, by linarith⟩) memory

/-- The power of two that no float can hold. -/
theorem backOffAfter_overflows (index : Nat) (memory : Memory) :
    (patientClient.backOffAfter plainPlatform ⟨index, answer 503 []⟩ 1024).Runs memory [] (.error overflow) memory := by
  apply Py.Runs.bind_error
  apply Py.Runs.bind_error
  exact Py.runs_ofExcept.mpr ⟨rfl, rfl, rfl⟩

/-- What the patient client leaves behind at a busy server, when it still has this many
attempts that it can wait after. -/
structure Patience (count : Nat) (memory : Memory) (trace : Record) : Prop where
  answers : ∀ event ∈ trace, ∀ past, busyServer past event.1 = event.2
  delays : ∀ delay ∈ delays trace, delay.NonNegative
  sends : sends trace = List.replicate (count + 1) (.ok (answer 503 []))
  closes : closes trace = List.range' memory.sent count

theorem Patience.succ {memory : Memory} {trace : Record} {delay : PyFloat} (h : Patience count memory.next trace)
    (hDelay : delay.NonNegative) :
    Patience (count + 1) memory (busyAttempt memory.sent delay ++ trace) where
  answers := by
    intro event hMem past
    rcases mem_append.mp hMem with hMem | hMem
    · simp only [busyAttempt, mem_cons, not_mem_nil, or_false] at hMem
      rcases hMem with rfl | rfl | rfl | rfl
      · rfl
      · rfl
      · rfl
      · rfl
    · exact h.answers event hMem past
  delays := by
    rw [delays_append]
    exact forall_mem_cons.mpr ⟨hDelay, h.delays⟩
  sends := by
    rw [sends_append, h.sends, replicate_succ]
    rfl
  closes := by
    rw [closes_append, h.closes, range'_succ]
    rfl

theorem receivedFrom_replicate (index count : Nat) (response : Response) :
    receivedFrom index (List.replicate count (.ok response)) = List.range' index count := by
  induction count generalizing index with
  | zero => rfl
  | succ count ih => rw [replicate_succ, receivedFrom, ih, range'_succ]

theorem attemptFrom_overflows (h : attempt + count = 1024) (memory : Memory) :
    ∃ trace after, (patientClient.attemptFrom plainPlatform listQuery true (count + 2) attempt).Runs memory trace
        (.error overflow) after ∧ Patience count memory trace := by
  induction count generalizing attempt memory with
  | zero =>
    cases h
    refine ⟨[⟨.send busyRequest true, (.ok (answer 503 []) : Except RequestError Response)⟩], memory.next, ?_, ?_⟩
    · apply Py.Runs.bind (prepare_runs memory)
      exact runs_send_bind.mpr ⟨.ok (answer 503 []), [], rfl, (backOffAfter_overflows memory.sent _).bind_error _⟩
    · refine ⟨fun event hMem past => ?_, forall_mem_nil _, rfl, rfl⟩
      rw [mem_singleton.mp hMem]
      rfl
  | succ count ih =>
    obtain ⟨delay, hDelay, hWait⟩ := backOffAfter_runs (by omega : attempt < 1024) memory.sent memory.next
    obtain ⟨trace, after, hRuns, hPatience⟩ := ih (by omega : attempt + 1 + count = 1024) memory.next
    refine ⟨busyAttempt memory.sent delay ++ trace, after, ?_, ?_⟩
    · apply Py.Runs.bind (prepare_runs memory)
      exact runs_send_bind.mpr ⟨.ok (answer 503 []), _, rfl, hWait.bind hRuns⟩
    · exact hPatience.succ hDelay

/-- After 1025 answers the delay of the patient client overflows. It raises that, and
leaves the last response open. -/
theorem patient_stream_leaks :
    let run := (patientClient.streamRequest plainPlatform listQuery ⟨none, 0⟩).run busyServer []
    (∀ delay ∈ delays run.2, delay.NonNegative) ∧ run.1.1 = .error overflow ∧
      1024 ∈ receivedFrom 0 (sends run.2) ∧ 1024 ∉ closes run.2 := by
  intro run
  obtain ⟨trace, after, hRuns, hPatience⟩ := attemptFrom_overflows (rfl : 0 + 1024 = 1024) ⟨none, 0⟩
  have hStream : (patientClient.streamRequest plainPlatform listQuery).Runs ⟨none, 0⟩ trace (.error overflow) after :=
    (hRuns.bind_error _).bind_error _
  have hRun : run = ((.error overflow, after), trace) := Program.run_of_yields hStream hPatience.answers []
  rw [hRun]
  refine ⟨hPatience.delays, rfl, ?_, ?_⟩
  · rw [hPatience.sends, receivedFrom_replicate, mem_range']
    exact ⟨1024, by decide, rfl⟩
  · rw [hPatience.closes, mem_range']
    rintro ⟨index, hIndex, hEq⟩
    simp only at hEq
    omega

end Samples

end RestClient
end DataConnectHub.Sdk
