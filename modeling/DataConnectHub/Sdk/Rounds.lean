import DataConnectHub.Sdk.Attempts

/-! The sends of a call follow the retry protocol. Each outcome but the last is one
the protocol goes past, and the result of the call comes from the last outcome,
unless a request could not be prepared or a wait failed. -/
namespace DataConnectHub.Sdk

open Retry List

namespace RestClient

variable (client : RestClient) (platform : Platform) (query : Query)

section Rounds

/-- What a call makes of the outcome it ends on. -/
def settle (index : Nat) : Outcome → Except Raised Received
  | .error error => .error (.dch (mapRequestError error client.baseUrl))
  | .ok response => .ok ⟨index, response⟩

/-- What one attempt does, when this many retries are left after it. -/
inductive Attempt (stream : Bool) (retries attempt : Nat) (memory : Memory) :
    Record → Except Raised Received → Memory → Prop where
  | unprepared {trace : Record} {raised : Raised} {after : Memory} (hAsking : Asking trace)
      (hKeeps : Keeps memory trace after) (h : client.Unprepared platform query memory trace raised) :
      Attempt stream retries attempt memory trace (.error raised) after
  | settled {before : Record} {request : Request} {answer outcome : Outcome} {middle : Memory}
      (hAsking : Asking before) (hKeeps : Keeps memory before middle) (hOutcome : receive stream answer = outcome)
      (h : ¬ (isTransient outcome = true ∧ retries ≠ 0)) :
      Attempt stream retries attempt memory (before ++ [⟨.send request stream, answer⟩])
        (client.settle memory.sent outcome) middle.next
  | stalled {before wait : Record} {request : Request} {answer outcome : Outcome} {middle : Memory}
      {raised : Raised} (hAsking : Asking before) (hKeeps : Keeps memory before middle)
      (hOutcome : receive stream answer = outcome) (hTransient : isTransient outcome = true)
      (hRetries : retries ≠ 0) (hIdle : Idle wait)
      (hWait : client.WaitEnd platform memory.sent attempt outcome wait (closes wait) (.error raised)) :
      Attempt stream retries attempt memory (before ++ ⟨.send request stream, answer⟩ :: wait) (.error raised)
        middle.next
  | again {before wait later : Record} {request : Request} {answer outcome : Outcome}
      {middle after : Memory} {result : Except Raised Received} (hAsking : Asking before)
      (hKeeps : Keeps memory before middle) (hOutcome : receive stream answer = outcome)
      (hTransient : isTransient outcome = true) (hRetries : retries ≠ 0) (hIdle : Idle wait)
      (hWait : client.WaitEnd platform memory.sent attempt outcome wait (closes wait) (.ok ()))
      (hLater : (client.attemptFrom platform query stream retries (attempt + 1)).Runs middle.next later result after) :
      Attempt stream retries attempt memory (before ++ ⟨.send request stream, answer⟩ :: (wait ++ later)) result after

/-- How sending ends once some outcomes have been gone past: no other request could be
prepared, an outcome settled the call, or a wait failed. -/
inductive Ending (memory : Memory) (trace : Record) (settles : Outcome → Prop) (index attempt retries : Nat) :
    List Outcome → List Nat → Except Raised Received → Prop where
  | unprepared {raised : Raised} (h : client.Unprepared platform query memory trace raised) :
      Ending memory trace settles index attempt retries [] [] (.error raised)
  | settled {outcome : Outcome} (h : settles outcome) :
      Ending memory trace settles index attempt retries [outcome] [] (client.settle index outcome)
  | stalled {outcome : Outcome} {closed : List Nat} {raised : Raised} (hTransient : isTransient outcome = true)
      (hRetries : retries ≠ 0)
      (hWait : client.WaitEnd platform index attempt outcome trace closed (.error raised)) :
      Ending memory trace settles index attempt retries [outcome] closed (.error raised)

/-- A round of attempts: the outcomes it goes past, the retries it has left then, and
how it ends. -/
structure Round (retries attempt : Nat) (memory : Memory) (trace : Record) (result : Except Raised Received)
    (after : Memory) (passed : List Outcome) (rest : Nat) : Prop where
  retries_eq : retries = rest + passed.length
  transient : ∀ outcome ∈ passed, isTransient outcome = true
  reaches : ∀ renewals,
    (client.policy query).Reaches (client.Waits platform query) ⟨retries, renewals⟩ passed ⟨rest, renewals⟩
  unrefreshed : refreshes trace = 0
  silent : emitted trace = []
  sent : after.sent = memory.sent + (sends trace).length
  known : ∀ token, after.token = some token → Known memory trace token
  ending : ∃ ended closed, sends trace = passed ++ ended ∧ closes trace = receivedFrom memory.sent passed ++ closed ∧
    client.Ending platform query memory trace (fun outcome => ¬ (isTransient outcome = true ∧ rest ≠ 0))
      (memory.sent + passed.length) (attempt + passed.length) rest ended closed result

variable {client platform query} {memory middle after : Memory} {trace later : Record} {attempt retries : Nat}
  {stream : Bool} {result : Except Raised Received} {index : Nat} {closed : List Nat} {before rest : Record}

theorem attempt_cases
    (h : (client.attemptFrom platform query stream (retries + 1) attempt).Runs memory trace result after) :
    client.Attempt platform query stream retries attempt memory trace result after := by
  rw [attemptFrom] at h
  rcases Py.runs_bind.mp h with ⟨raised, rfl, hPrepare⟩ | ⟨before, later, request, middle, rfl, hPrepare, hSend⟩
  · obtain ⟨hAsking, hKeeps, hUnprepared⟩ := prepare_cases hPrepare
    exact .unprepared hAsking hKeeps (hUnprepared raised rfl)
  obtain ⟨hAsking, hKeeps, -⟩ := prepare_cases hPrepare
  obtain ⟨answer, later, rfl, hRest⟩ := runs_send_bind.mp hSend
  rw [hKeeps.sent] at hRest
  cases hOutcome : receive stream answer with
  | error error =>
    simp only [hOutcome, Except.map] at hRest
    split at hRest
    next hAgain =>
      rcases Py.runs_bind.mp hRest with ⟨raised, rfl, hWait⟩ | ⟨wait, later, _, _, rfl, hWait, hLater⟩
      · obtain ⟨rfl, hIdle, hEnd⟩ := backOff_cases memory.sent error hWait
        exact .stalled hAsking hKeeps hOutcome hAgain.1 hAgain.2 hIdle hEnd
      · obtain ⟨rfl, hIdle, hEnd⟩ := backOff_cases memory.sent error hWait
        exact .again hAsking hKeeps hOutcome hAgain.1 hAgain.2 hIdle hEnd hLater
    next hAgain =>
      obtain ⟨rfl, rfl, rfl⟩ := Py.runs_raise.mp hRest
      exact .settled hAsking hKeeps hOutcome hAgain
  | ok response =>
    simp only [hOutcome, Except.map] at hRest
    split at hRest
    next hAgain =>
      have hTransient : isTransient (.ok response) = true := decide_eq_true hAgain.1
      rcases Py.runs_bind.mp hRest with ⟨raised, rfl, hWait⟩ | ⟨wait, later, _, _, rfl, hWait, hLater⟩
      · obtain ⟨rfl, hIdle, hEnd⟩ := backOffAfter_cases hWait
        exact .stalled hAsking hKeeps hOutcome hTransient hAgain.2 hIdle hEnd
      · obtain ⟨rfl, hIdle, hEnd⟩ := backOffAfter_cases hWait
        exact .again hAsking hKeeps hOutcome hTransient hAgain.2 hIdle hEnd hLater
    next hAgain =>
      obtain ⟨rfl, rfl, rfl⟩ := Py.runs_pure.mp hRest
      exact .settled hAsking hKeeps hOutcome fun h => hAgain ⟨of_decide_eq_true h.1, h.2⟩

theorem WaitEnd.mono {outcome : Outcome} {result : Except Raised Unit}
    (h : client.WaitEnd platform index attempt outcome later closed result) (hLater : later ⊆ trace) :
    client.WaitEnd platform index attempt outcome trace closed result := by
  cases h with
  | slept h => exact .slept h
  | overflowed hAsks h => exact .overflowed hAsks h
  | sleepless hDelay hSlept h =>
    refine .sleepless hDelay ?_ h
    obtain ⟨event, hMem, hEvent⟩ := mem_filterMap.mp hSlept
    exact mem_filterMap.mpr ⟨event, hLater hMem, hEvent⟩

theorem WaitEnd.of_ok {outcome : Outcome} (h : client.WaitEnd platform index attempt outcome trace closed (.ok ())) :
    client.CanWait platform attempt outcome ∧ closed = receivedFrom index [outcome] := by
  cases h with
  | slept h => exact ⟨h, rfl⟩

theorem Ending.mono {settles : Outcome → Prop} {ended : List Outcome}
    (h : client.Ending platform query middle later settles index attempt retries ended closed result)
    (hMiddle : ∀ token, middle.token = some token → Known memory trace token) (hLater : later ⊆ trace) :
    client.Ending platform query memory trace settles index attempt retries ended closed result := by
  cases h with
  | unprepared h => exact .unprepared (h.mono hMiddle hLater)
  | settled h => exact .settled h
  | stalled hTransient hRetries hWait => exact .stalled hTransient hRetries (hWait.mono hLater)

section

variable {request : Request} {answer : Outcome} (hAsking : Asking before)

include hAsking

/-- The record of a send, with what was asked for before it. -/
theorem sends_attempt {outcome : Outcome} (hOutcome : receive stream answer = outcome) :
    sends (before ++ ⟨.send request stream, answer⟩ :: rest) = outcome :: sends rest := by
  rw [sends_append, hAsking.idle.sends, ← hOutcome]
  rfl

theorem closes_attempt : closes (before ++ ⟨.send request stream, answer⟩ :: rest) = closes rest := by
  rw [closes_append, hAsking.closes]
  rfl

theorem refreshes_attempt : refreshes (before ++ ⟨.send request stream, answer⟩ :: rest) = refreshes rest := by
  rw [refreshes_append, hAsking.idle.refreshes, Nat.zero_add]
  exact countP_cons_of_neg (by simp [isRefresh])

theorem emitted_attempt : emitted (before ++ ⟨.send request stream, answer⟩ :: rest) = emitted rest := by
  rw [emitted_append, hAsking.idle.emitted]
  rfl

end

namespace Round

variable {before wait : Record} {request : Request} {answer outcome : Outcome} {raised : Raised}
  {result : Except Raised Received}

theorem unprepared (hAsking : Asking trace) (hKeeps : Keeps memory trace after)
    (h : client.Unprepared platform query memory trace raised) :
    client.Round platform query retries attempt memory trace (.error raised) after [] retries where
  retries_eq := rfl
  transient := List.forall_mem_nil _
  reaches := fun renewals => .refl _
  unrefreshed := hAsking.idle.refreshes
  silent := hAsking.idle.emitted
  sent := by rw [hAsking.idle.sends, hKeeps.sent]; rfl
  known := hKeeps.known
  ending := ⟨[], [], hAsking.idle.sends, hAsking.closes, .unprepared h⟩

theorem single (hAsking : Asking before) (hKeeps : Keeps memory before middle)
    (hOutcome : receive stream answer = outcome) (hIdle : Idle wait)
    (hEnding : client.Ending platform query memory (before ++ ⟨.send request stream, answer⟩ :: wait)
      (fun outcome => ¬ (isTransient outcome = true ∧ retries ≠ 0)) memory.sent attempt retries [outcome]
      (closes wait) result) :
    client.Round platform query retries attempt memory (before ++ ⟨.send request stream, answer⟩ :: wait) result
      middle.next [] retries where
  retries_eq := rfl
  transient := List.forall_mem_nil _
  reaches := fun renewals => .refl _
  unrefreshed := by rw [refreshes_attempt hAsking, hIdle.refreshes]
  silent := by rw [emitted_attempt hAsking, hIdle.emitted]
  sent := by
    rw [sends_attempt hAsking hOutcome, hIdle.sends, Memory.next, hKeeps.sent]
    rfl
  known := fun token hToken => (hKeeps.known token hToken).mono (fun _ h => .inl h) (by simp)
  ending := by
    refine ⟨[outcome], closes wait, ?_, closes_attempt hAsking, hEnding⟩
    rw [sends_attempt hAsking hOutcome, hIdle.sends]
    rfl

theorem again {passed : List Outcome} {rest : Nat} (hAsking : Asking before) (hKeeps : Keeps memory before middle)
    (hOutcome : receive stream answer = outcome) (hTransient : isTransient outcome = true) (hIdle : Idle wait)
    (hWait : client.WaitEnd platform memory.sent attempt outcome wait (closes wait) (.ok ()))
    (hCount : attempt + (retries + 1) = (client.policy query).retries)
    (hRound : client.Round platform query retries (attempt + 1) middle.next later result after passed rest) :
    client.Round platform query (retries + 1) attempt memory
      (before ++ ⟨.send request stream, answer⟩ :: (wait ++ later)) result after (outcome :: passed) rest := by
  have hSent : middle.next.sent = memory.sent + 1 := by rw [Memory.next, hKeeps.sent]
  have hSends : sends (before ++ ⟨.send request stream, answer⟩ :: (wait ++ later)) = outcome :: sends later := by
    rw [sends_attempt hAsking hOutcome, sends_append, hIdle.sends, nil_append]
  have hKnown : ∀ token, middle.next.token = some token →
      Known memory (before ++ ⟨.send request stream, answer⟩ :: (wait ++ later)) token :=
    fun token hToken => (hKeeps.known token hToken).mono (fun _ h => .inl h) (by simp)
  have hLater : later ⊆ before ++ ⟨.send request stream, answer⟩ :: (wait ++ later) := by
    intro event hMem
    simp [hMem]
  obtain ⟨hCanWait, hClosed⟩ := hWait.of_ok
  have hWaits : ∀ renewals, client.Waits platform query ⟨retries + 1, renewals⟩ outcome := by
    intro renewals
    rw [Waits, ← hCount, Nat.add_sub_cancel]
    exact hCanWait
  obtain ⟨ended, closed, hEnded, hCloses, hEnding⟩ := hRound.ending
  rw [hSent] at hCloses hEnding
  have hIndex : memory.sent + 1 + passed.length = memory.sent + (outcome :: passed).length := by
    rw [length_cons]
    omega
  have hAttempt : attempt + 1 + passed.length = attempt + (outcome :: passed).length := by
    rw [length_cons]
    omega
  rw [hIndex, hAttempt] at hEnding
  exact {
    retries_eq := by rw [hRound.retries_eq, length_cons]; rfl
    transient := forall_mem_cons.mpr ⟨hTransient, hRound.transient⟩
    reaches := fun renewals =>
      .step (Policy.advance_transient hTransient retries renewals) (fun _ => hWaits renewals) (hRound.reaches renewals)
    unrefreshed := by
      rw [refreshes_attempt hAsking, refreshes_append, hIdle.refreshes, hRound.unrefreshed]
    silent := by
      rw [emitted_attempt hAsking, emitted_append, hIdle.emitted, hRound.silent]
      rfl
    sent := by
      rw [hRound.sent, hSent, hSends, length_cons]
      omega
    known := fun token hToken => (hRound.known token hToken).mono hKnown hLater
    ending := by
      refine ⟨ended, closed, by rw [hSends, hEnded]; rfl, ?_, hEnding.mono hKnown hLater⟩
      have hReceived := receivedFrom_append memory.sent [outcome] passed
      rw [closes_attempt hAsking, closes_append, hClosed, hCloses, ← append_assoc]
      exact congrArg (· ++ closed) hReceived.symm }

end Round

theorem attemptFrom_round (hCount : attempt + retries = (client.policy query).retries)
    (h : (client.attemptFrom platform query stream (retries + 1) attempt).Runs memory trace result after) :
    ∃ passed rest, client.Round platform query retries attempt memory trace result after passed rest := by
  induction retries generalizing attempt memory trace with
  | zero =>
    cases attempt_cases h with
    | unprepared hAsking hKeeps hUnprepared => exact ⟨[], 0, .unprepared hAsking hKeeps hUnprepared⟩
    | settled hAsking hKeeps hOutcome hSettles =>
      exact ⟨[], 0, .single hAsking hKeeps hOutcome ⟨rfl, rfl, rfl⟩ (.settled hSettles)⟩
    | stalled hAsking hKeeps hOutcome hTransient hRetries
    | again hAsking hKeeps hOutcome hTransient hRetries => exact absurd rfl hRetries
  | succ retries ih =>
    cases attempt_cases h with
    | unprepared hAsking hKeeps hUnprepared => exact ⟨[], retries + 1, .unprepared hAsking hKeeps hUnprepared⟩
    | settled hAsking hKeeps hOutcome hSettles =>
      exact ⟨[], retries + 1, .single hAsking hKeeps hOutcome ⟨rfl, rfl, rfl⟩ (.settled hSettles)⟩
    | stalled hAsking hKeeps hOutcome hTransient hRetries hIdle hWait =>
      exact ⟨[], retries + 1, .single hAsking hKeeps hOutcome hIdle
        (.stalled hTransient hRetries (hWait.mono (by simp)))⟩
    | again hAsking hKeeps hOutcome hTransient hRetries hIdle hWait hLater =>
      obtain ⟨passed, rest, hRound⟩ := ih (by omega) hLater
      exact ⟨_ :: passed, rest, .again hAsking hKeeps hOutcome hTransient hIdle hWait hCount hRound⟩

end Rounds

section Conversations

/-- A call up to the response it judges: the outcomes it goes past, the phase it is in
then, and how it ends. -/
structure Conversation (stream : Bool) (memory : Memory) (trace : Record) (result : Except Raised Received)
    (passed : List Outcome) (phase : Phase) : Prop where
  reaches : (client.policy query).Reaches (client.Waits platform query) (client.start query) passed phase
  refreshed : refreshes trace = passed.countP client.isRefusal
  silent : emitted trace = []
  ending : ∃ ended closed, sends trace = passed ++ ended ∧
    (stream = true → closes trace = receivedFrom memory.sent passed ++ closed) ∧
    client.Ending platform query memory trace (fun outcome => (client.policy query).advance phase outcome = none)
      (memory.sent + passed.length) ((client.policy query).retries - phase.retries) phase.retries ended closed result

variable {client platform query} {memory middle after : Memory} {trace later : Record} {stream : Bool}
  {result : Except Raised Received} {passed : List Outcome} {rest : Nat}

theorem doRequest_round (h : (client.doRequest platform query stream).Runs memory trace result after) : ∃ passed rest,
      client.Round platform query (client.policy query).retries 0 memory trace result after passed rest := by
  rw [doRequest, attempts_eq] at h
  exact attemptFrom_round (Nat.zero_add _) h

/-- The end of a round is the end of the call, unless the call goes on to another. -/
theorem Round.ending_of_call {renewals : Nat}
    (h : client.Round platform query (client.policy query).retries 0 memory trace result after passed rest)
    (hRenewal : ∀ received, result = .ok received → client.isRefused received = true → renewals = 0) :
    ∃ ended closed, sends trace = passed ++ ended ∧ closes trace = receivedFrom memory.sent passed ++ closed ∧
      client.Ending platform query memory trace
        (fun outcome => (client.policy query).advance ⟨rest, renewals⟩ outcome = none)
        (memory.sent + passed.length) ((client.policy query).retries - rest) rest ended closed result := by
  obtain ⟨ended, closed, hSends, hCloses, hEnding⟩ := h.ending
  refine ⟨ended, closed, hSends, hCloses, ?_⟩
  have hAttempt : (client.policy query).retries - rest = 0 + passed.length := by
    have := h.retries_eq
    omega
  rw [hAttempt]
  cases hEnding with
  | unprepared hUnprepared => exact .unprepared hUnprepared
  | @settled outcome hSettles =>
    refine .settled (Policy.advance_eq_none_iff.mpr ⟨hSettles, fun hRenew => hRenew.2 ?_⟩)
    cases outcome with
    | error error => cases hRenew.1
    | ok response => exact hRenewal _ rfl hRenew.1
  | stalled hTransient hRetries hWait => exact .stalled hTransient hRetries hWait

theorem countP_isRefusal_of_transient {outcomes : List Outcome} (h : ∀ outcome ∈ outcomes, isTransient outcome = true) :
    outcomes.countP client.isRefusal = 0 := by
  rw [countP_eq_zero]
  intro outcome hMem hRefused
  exact absurd (h outcome hMem) (Bool.eq_false_iff.mp (not_isTransient_of_isRefusal hRefused))

theorem Round.conversation
    (h : client.Round platform query (client.policy query).retries 0 memory trace result after passed rest)
    (hAccepted : ∀ received, result = .ok received → client.isRefused received = false) :
    client.Conversation platform query stream memory trace result passed ⟨rest, 1⟩ where
  reaches := h.reaches 1
  refreshed := by rw [h.unrefreshed, countP_isRefusal_of_transient h.transient]
  silent := h.silent
  ending := by
    have hRenewal : ∀ received, result = .ok received → client.isRefused received = true → 1 = 0 := by
      intro received hResult hRefused
      rw [hAccepted received hResult] at hRefused
      cases hRefused
    obtain ⟨ended, closed, hSends, hCloses, hEnding⟩ := h.ending_of_call hRenewal
    exact ⟨ended, closed, hSends, fun _ => hCloses, hEnding⟩

/-- The first round of a call that is refused. -/
theorem Round.refused {received : Received}
    (h : client.Round platform query (client.policy query).retries 0 memory trace (.ok received) after passed rest)
    (hRefused : client.isRefused received = true) :
    sends trace = passed ++ [.ok received.response] ∧ closes trace = receivedFrom memory.sent passed ∧
      received.index = memory.sent + passed.length ∧ client.isRefusal (.ok received.response) = true := by
  obtain ⟨ended, closed, hSends, hCloses, hEnding⟩ := h.ending
  generalize hResult : (Except.ok received : Except Raised Received) = result at hEnding
  cases hEnding with
  | unprepared hUnprepared | stalled hTransient hRetries hWait => cases hResult
  | @settled outcome hSettles =>
    cases outcome with
    | error error => cases hResult
    | ok response =>
      cases hResult
      exact ⟨hSends, by rw [hCloses, append_nil], rfl, hRefused⟩

theorem release_cases {received : Received} {result : Except Raised Unit}
    (h : (release stream received).Runs memory trace result after) :
    Idle trace ∧ result = .ok () ∧ after = memory ∧ (stream = true → closes trace = [received.index]) := by
  rw [release] at h
  split at h
  next =>
    obtain ⟨rfl, rfl, rfl⟩ := close_cases h
    exact ⟨⟨rfl, rfl, rfl⟩, rfl, rfl, fun _ => rfl⟩
  next hStream =>
    obtain ⟨rfl, rfl, rfl⟩ := Py.runs_pure.mp h
    exact ⟨⟨rfl, rfl, rfl⟩, rfl, rfl, fun h => absurd h hStream⟩

/-- The record between two rounds: the refused response is released and the token
refreshed. -/
structure Renewal (stream : Bool) (index : Nat) (trace : Record) : Prop where
  sends : sends trace = []
  emitted : emitted trace = []
  refreshes : refreshes trace = 1
  closes : stream = true → closes trace = [index]

theorem Renewal.of_release {index : Nat} {released : Record} (answer : Except String PyStd.PyStr) (hIdle : Idle released)
    (hCloses : stream = true → Sdk.closes released = [index]) :
    Renewal stream index (released ++ [⟨.provide true, answer⟩]) where
  sends := by rw [sends_append, hIdle.sends]; rfl
  emitted := by rw [emitted_append, hIdle.emitted]; rfl
  refreshes := by rw [refreshes_append, hIdle.refreshes]; rfl
  closes := fun hStream => by rw [closes_append, hCloses hStream]; rfl

variable {first : Record}

section

variable {received : Received}
  (h : client.Round platform query (client.policy query).retries 0 memory first (.ok received) middle passed rest)
  (hRefused : client.isRefused received = true)

include h hRefused

/-- A refused call goes on in a second round, from the phase in which no renewal is
left. -/
theorem Round.renewed {renewal : Record} {more : List Outcome} {left : Nat}
    (hRenewal : Renewal stream received.index renewal) (hMore : ∀ outcome ∈ more, isTransient outcome = true)
    (hReaches : (client.policy query).Reaches (client.Waits platform query) ⟨(client.policy query).retries, 0⟩ more
      ⟨left, 0⟩) (hUnrefreshed : refreshes later = 0) (hSilent : emitted later = [])
    (hEnding : ∃ ended closed, sends later = more ++ ended ∧ closes later = receivedFrom middle.sent more ++ closed ∧
      client.Ending platform query memory (first ++ (renewal ++ later))
        (fun outcome => (client.policy query).advance ⟨left, 0⟩ outcome = none) (middle.sent + more.length)
        ((client.policy query).retries - left) left ended closed result) :
    client.Conversation platform query stream memory (first ++ (renewal ++ later)) result
      (passed ++ .ok received.response :: more) ⟨left, 0⟩ := by
  obtain ⟨hSends, hCloses, hIndex, hRefusal⟩ := h.refused hRefused
  obtain ⟨ended, closed, hSendsLater, hClosesLater, hEnding⟩ := hEnding
  have hMiddle : middle.sent = memory.sent + passed.length + 1 := by
    rw [h.sent, hSends, length_append]
    rfl
  have hPosition : middle.sent + more.length = memory.sent + (passed ++ .ok received.response :: more).length := by
    rw [hMiddle, length_append, length_cons]
    omega
  rw [hPosition] at hEnding
  exact {
    reaches := by
      apply (h.reaches 1).trans
      refine .step (Policy.advance_refused hRefusal rest 0) (fun hTransient => ?_) hReaches
      exact absurd hTransient (Bool.eq_false_iff.mp (not_isTransient_of_isRefusal hRefusal))
    refreshed := by
      rw [refreshes_append, refreshes_append, h.unrefreshed, hRenewal.refreshes, hUnrefreshed, countP_append,
        countP_cons_of_pos hRefusal, countP_isRefusal_of_transient h.transient,
        countP_isRefusal_of_transient hMore]
    silent := by
      rw [emitted_append, emitted_append, h.silent, hRenewal.emitted, hSilent]
      rfl
    ending := by
      refine ⟨ended, closed, ?_, fun hStream => ?_, hEnding⟩
      · rw [sends_append, sends_append, hSends, hRenewal.sends, hSendsLater]
        simp
      · rw [closes_append, closes_append, hCloses, hRenewal.closes hStream, hClosesLater, hIndex, hMiddle,
          receivedFrom_append, receivedFrom, append_assoc]
        rfl }

theorem Round.conversation_of_refused (hAgain : Py.Runs (do
      release stream received
      let _ ← refreshToken
      client.doRequest platform query stream) middle later result after) :
    ∃ passed phase, client.Conversation platform query stream memory (first ++ later) result passed phase := by
  rcases Py.runs_bind.mp hAgain with ⟨raised, -, hRelease⟩ | ⟨released, _, _, _, rfl, hRelease, hRest⟩
  · obtain ⟨-, hResult, -⟩ := release_cases hRelease
    cases hResult
  obtain ⟨hIdle, -, rfl, hCloses⟩ := release_cases hRelease
  rcases Py.runs_bind.mp hRest with ⟨raised, rfl, hRefresh⟩ | ⟨_, second, _, renewed, rfl, hRefresh, hSecond⟩
  · rcases callProvider_cases hRefresh with ⟨text, rfl, hResult, rfl⟩ | ⟨token, -, hResult, -⟩
    · cases hResult
      have hFailed : ⟨.provide true, (.error text : Except String PyStd.PyStr)⟩ ∈
          first ++ ((released ++ [⟨.provide true, (.error text : Except String PyStd.PyStr)⟩]) ++ []) := by simp
      have hRenewed := h.renewed hRefused (.of_release (.error text) hIdle hCloses)
        (forall_mem_nil _) (.refl _) rfl rfl ⟨[], [], rfl, rfl, .unprepared (.provider hFailed)⟩
      rw [append_nil] at hRenewed
      exact ⟨_, _, hRenewed⟩
    · cases hResult
  · rcases callProvider_cases hRefresh with ⟨text, -, hResult, -⟩ | ⟨token, rfl, hResult, rfl⟩
    · cases hResult
    · obtain ⟨more, left, hRound⟩ := doRequest_round hSecond
      obtain ⟨ended, closed, hSends, hClosed, hEnding⟩ := hRound.ending_of_call fun _ _ _ => (rfl : 0 = 0)
      rw [← append_assoc released]
      refine ⟨_, _, h.renewed hRefused (.of_release (.ok token) hIdle hCloses) hRound.transient
        (hRound.reaches 0) hRound.unrefreshed hRound.silent
        ⟨ended, closed, hSends, hClosed, hEnding.mono (fun found hFound => ?_) ?_⟩⟩
      · cases hFound
        exact .inr ⟨true, by simp⟩
      · intro event hMem
        simp [hMem]

end

theorem authorizedRequest_conversation
    (h : (client.authorizedRequest platform query stream).Runs memory trace result after) :
    ∃ passed phase, client.Conversation platform query stream memory trace result passed phase := by
  rcases Py.runs_bind.mp h with ⟨raised, rfl, hFirst⟩ | ⟨first, later, received, middle, rfl, hFirst, hRest⟩
  · obtain ⟨passed, rest, hRound⟩ := doRequest_round hFirst
    exact ⟨passed, _, hRound.conversation fun received hResult => by cases hResult⟩
  obtain ⟨passed, rest, hRound⟩ := doRequest_round hFirst
  split at hRest
  next hRefused => exact hRound.conversation_of_refused hRefused hRest
  next hAccepted =>
    obtain ⟨rfl, rfl, rfl⟩ := Py.runs_pure.mp hRest
    rw [append_nil]
    refine ⟨passed, _, hRound.conversation fun found hFound => ?_⟩
    cases hFound
    exact Bool.eq_false_iff.mpr hAccepted

end Conversations

end RestClient
end DataConnectHub.Sdk
