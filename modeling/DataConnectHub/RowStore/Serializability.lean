import DataConnectHub.RowStore.Live

/-! Sessions that follow the locking discipline are serializable in commit
order. Since every live session keeps its invariant, its commit is the atomic
run of its code at that moment. -/
namespace RowStore

open Interaction Transaction List

variable {S : Schema} {Client Error Answer : Type}

/-- The transactions of a commit log, run alone one after another. -/
def serially (programs : Client → Tx S Error Answer) (start : Store S) (log : List Client) : Store S :=
  log.foldl (fun store client => ((programs client).atomically store).2) start

variable (programs : Client → Tx S Error Answer)

@[simp] theorem serially_nil (start : Store S) : serially programs start [] = start := rfl

@[simp] theorem serially_append_singleton (start : Store S) (log : List Client) (client : Client) :
    serially programs start (log ++ [client]) = ((programs client).atomically (serially programs start log)).2 := by
  simp [serially]

namespace Session

/-- No lock of one session conflicts with a lock of the other. -/
def Compatible (session other : Session S (Except Error Answer)) : Prop :=
  ∀ lock ∈ session.locks, ∀ held ∈ other.locks, ¬ lock.Conflicts held

/-- No row written by one session clashes with a row written by the other. -/
def Apart (session other : Session S (Except Error Answer)) : Prop :=
  ∀ own ∈ session.writes, ∀ write ∈ other.writes, own.table = write.table → ∀ doc ∈ own.stored,
    ∀ new ∈ write.stored, S.clashes own.table doc new = false

variable {session other : Session S (Except Error Answer)}

theorem Compatible.symm (h : session.Compatible other) : other.Compatible session :=
  fun lock hLock held hHeld hConflict => h held hHeld lock hLock hConflict.symm

theorem Apart.symm (h : session.Apart other) : other.Apart session := by
  intro own hOwn write hWrite hTable doc hDoc new hNew
  rw [S.clashes_symm, hTable]
  exact h write hWrite own hOwn hTable.symm new hNew doc hDoc

end Session

/-- A symmetric relation between all sessions survives the change of one that
is related to the others. -/
theorem pairwise_update {State : Type} [DecidableEq Client] (Related : State → State → Prop)
    (hSymm : ∀ {first second}, Related first second → Related second first) (states : Client → State)
    (client : Client) (state : State)
    (hPairs : ∀ first second, first ≠ second → Related (states first) (states second))
    (hNew : ∀ other, other ≠ client → Related state (states other)) :
    ∀ first second, first ≠ second →
      Related (Function.update states client state first) (Function.update states client state second) := by
  intro first second hne
  by_cases hFirst : first = client
  · subst hFirst
    rw [Function.update_self, Function.update_of_ne hne.symm]
    exact hNew second hne.symm
  · rw [Function.update_of_ne hFirst]
    by_cases hSecond : second = client
    · subst hSecond
      rw [Function.update_self]
      exact hSymm (hNew first hne)
    · rw [Function.update_of_ne hSecond]
      exact hPairs first second hne

/-- Where a session stands: committed, failed, or on its way. -/
inductive Standing (initial : Tx S Error Answer) (committed : Store S)
    (logged : Prop) (session : Session S (Except Error Answer)) : Prop where
  | committed (hLog : logged) (hLocks : session.locks = []) (hWrites : session.writes = [])
      (value : Answer) (hProgram : session.program = .done (.ok value))
  | failed (hLog : ¬ logged) (hProgram : Fails session.program)
  | live (hLog : ¬ logged) (facts : List (Fact S)) (hLive : Live initial committed session facts)

/-- The invariant of interleaved sessions. -/
structure Consistent (start : Store S) (programs : Client → Tx S Error Answer)
    (config : Config S Client (Except Error Answer)) : Prop where
  wellFormed : WellFormed config.committed
  compatible : ∀ first second, first ≠ second → ∀ lock ∈ (config.sessions first).locks,
    ∀ held ∈ (config.sessions second).locks, ¬ lock.Conflicts held
  apart : ∀ first second, first ≠ second → ∀ own ∈ (config.sessions first).writes,
    ∀ write ∈ (config.sessions second).writes, own.table = write.table → ∀ doc ∈ own.stored,
      ∀ new ∈ write.stored, S.clashes own.table doc new = false
  serial : config.committed = serially programs start config.log
  nodup : config.log.Nodup
  returned : ∀ before client after, config.log = before ++ client :: after → (config.sessions client).program =
      .done ((programs client).atomically (serially programs start before)).1
  standing : ∀ client, Standing (programs client) config.committed (client ∈ config.log) (config.sessions client)

namespace Consistent

variable {start : Store S} {programs : Client → Tx S Error Answer}
  {config config' : Config S Client (Except Error Answer)}

/-- The sessions of the log are exactly those that returned a value. -/
theorem mem_log_iff (h : Consistent start programs config) (client : Client) :
    client ∈ config.log ↔ ∃ value, (config.sessions client).program = .done (.ok value) := by
  constructor
  · intro hLog
    cases h.standing client with
    | committed _ _ _ value hProgram => exact ⟨value, hProgram⟩
    | failed hNot | live hNot => exact absurd hLog hNot
  · rintro ⟨value, hProgram⟩
    cases h.standing client with
    | committed hLog => exact hLog
    | failed hNot hFails =>
      obtain ⟨error, hError⟩ := hFails
      rw [hProgram] at hError
      cases hError
    | live hNot facts hLive =>
      obtain ⟨error, hError⟩ := hLive.rollback hProgram
      cases hError

variable {client : Client} {statement : Statement S} {write : Write S}

/-- Each session of the log returned the value of its turn in the serial run. -/
theorem atomically_of_log (h : Consistent start programs config) {before after : List Client}
    (hLog : config.log = before ++ client :: after) :
    ∃ value, (programs client).atomically (serially programs start before) =
      (.ok value, serially programs start (before ++ [client])) := by
  obtain ⟨value, hValue⟩ := (h.mem_log_iff client).mp (by simp [hLog])
  rw [h.returned before client after hLog] at hValue
  refine ⟨value, Prod.ext (Program.done.inj hValue) ?_⟩
  rw [serially_append_singleton]

theorem initial (hStart : WellFormed start) (hPrograms : ∀ client, Disciplined [] (programs client)) :
    Consistent start programs (Config.initial start programs) where
  wellFormed := hStart
  compatible := by simp [Config.initial]
  apart := by simp [Config.initial]
  serial := rfl
  nodup := nodup_nil
  returned := by simp [Config.initial]
  standing client := .live (by simp [Config.initial]) [] (Live.of_disciplined (hPrograms client))

/-- A session that still has a call to make is on its way. -/
theorem live_of_call (h : Consistent start programs config) {request : Call S}
    {next : request.Response → Tx S Error Answer} (hProgram : (config.sessions client).program = .call request next) :
    client ∉ config.log ∧ ∃ facts, Live (programs client) config.committed (config.sessions client) facts := by
  cases h.standing client with
  | committed hLog hLocks hWrites value hDone =>
    rw [hProgram] at hDone
    cases hDone
  | failed hLog hFails =>
    obtain ⟨error, hDone⟩ := hFails
    rw [hProgram] at hDone
    cases hDone
  | live hLog facts hLive => exact ⟨hLog, facts, hLive⟩

/-- Nobody blocks the statement, so its new row versions are apart from the
uncommitted ones of every other session. -/
theorem writes_apart_of_free {own : Write S} (hOwn : own ∈ statement.writes (config.view client)) {other : Client}
    (hFree : ¬ config.Blocks client statement other) (hWrite : write ∈ (config.sessions other).writes)
    (hTable : own.table = write.table) {doc new : S.Doc} (hDoc : doc ∈ own.stored) (hNew : new ∈ write.stored) :
    S.clashes own.table doc new = false := by
  have hStored : statement.stored (config.view client) = some (own.table, doc) := by
    cases statement with
    | insert table row =>
      simp only [Statement.writes] at hOwn
      split at hOwn
      · cases hOwn
      · obtain rfl := mem_singleton.mp hOwn
        obtain rfl := mem_singleton.mp hDoc
        rfl
    | update table k filter row =>
      simp only [Statement.writes] at hOwn
      split at hOwn
      · cases hOwn
      · split at hOwn
        next hAny =>
          obtain rfl := mem_singleton.mp hOwn
          obtain rfl := mem_singleton.mp hDoc
          simp [Statement.stored, hAny, Write.table]
        next => cases hOwn
    | delete table k filter =>
      simp only [Statement.writes] at hOwn
      split at hOwn
      · obtain rfl := mem_singleton.mp hOwn
        cases hDoc
      · cases hOwn
    | _ => cases hOwn
  rw [Bool.eq_false_iff]
  intro hClash
  exact hFree (.inr ⟨own.table, doc, hStored, write, hWrite, hTable.symm, new,
    write.stored_subset_versions config.committed hNew, hClash⟩)

/-- Where another session stands after a commit. -/
theorem standing_of_commit (h : Consistent start programs config) {other : Client}
    (hOwn : write ∈ (config.sessions client).writes) {facts : List (Fact S)}
    (hPrepared : write.Prepared facts (config.sessions client).locks)
    (hLive : Live (programs client) config.committed (config.sessions client) facts) (hOther : other ≠ client) :
    Standing (programs other) (write.apply config.committed) (other ∈ config.log) (config.sessions other) := by
  cases h.standing other with
  | committed hLog hLocks hWrites value hDone => exact .committed hLog hLocks hWrites value hDone
  | failed hLog hFails => exact .failed hLog hFails
  | live hLog facts' hLive' =>
    refine .live hLog facts'
      (hLive'.apply hPrepared hLive.holds hLive.locked (h.compatible client other hOther.symm) ?_)
    intro own hOwn' hTable doc hDoc new hNew
    exact h.apart other client hOther own hOwn' write hOwn hTable doc hDoc new hNew

variable [DecidableEq Client]

section

variable (h : Consistent start programs config)

include h

/-- A step of one session that commits nothing. Its new locks and changes must
be compatible with those of every other session. -/
theorem setSession {session : Session S (Except Error Answer)} (hLog : client ∉ config.log)
    (hLocks : ∀ lock ∈ session.locks, lock ∈ (config.sessions client).locks ∨
      ∀ other, other ≠ client → ∀ held ∈ (config.sessions other).locks, ¬ lock.Conflicts held)
    (hWrites : ∀ own ∈ session.writes, own ∈ (config.sessions client).writes ∨
      ∀ other, other ≠ client → ∀ write ∈ (config.sessions other).writes, own.table = write.table →
        ∀ doc ∈ own.stored, ∀ new ∈ write.stored, S.clashes own.table doc new = false)
    (hStanding : Standing (programs client) config.committed (client ∈ config.log) session) :
    Consistent start programs (config.setSession client session) := by
  refine ⟨h.wellFormed, pairwise_update Session.Compatible Session.Compatible.symm _ client session h.compatible ?_,
    pairwise_update Session.Apart Session.Apart.symm _ client session h.apart ?_, h.serial, h.nodup, ?_, ?_⟩
  · intro other hne lock hLock
    rcases hLocks lock hLock with hOld | hNew
    · exact h.compatible client other hne.symm lock hOld
    · exact hNew other hne
  · intro other hne own hOwn
    rcases hWrites own hOwn with hOld | hNew
    · exact h.apart client other hne.symm own hOld
    · exact hNew other hne
  · intro before other after hSplit
    have hne : other ≠ client := by
      rintro rfl
      exact hLog (by rw [Config.setSession_log] at hSplit; simp [hSplit])
    rw [Config.setSession_other _ _ hne]
    exact h.returned before other after hSplit
  · intro other
    by_cases hOther : other = client
    · subst hOther
      rw [Config.setSession_self]
      exact hStanding
    · rw [Config.setSession_other _ _ hOther]
      exact h.standing other

theorem step_begin {next : (Call.begin : Call S).Response → Tx S Error Answer}
    (hProgram : (config.sessions client).program = .call .begin next) :
    Consistent start programs (config.setSession client { config.sessions client with program := next (.ok ()) }) := by
  obtain ⟨hLog, facts, hLive⟩ := h.live_of_call hProgram
  exact h.setSession hLog (fun _ => .inl) (fun _ => .inl) (.live hLog facts (hLive.begin hProgram))

theorem step_fault {request : Call S} {next : request.Response → Tx S Error Answer}
    (hProgram : (config.sessions client).program = .call request next) (failure : Failure) :
    Consistent start programs
      (config.setSession client { config.sessions client with program := next (.error failure) }) := by
  obtain ⟨hLog, facts, hLive⟩ := h.live_of_call hProgram
  exact h.setSession hLog (fun _ => .inl) (fun _ => .inl) (.failed hLog (hLive.fault hProgram failure))

theorem step_rollback {result : Except Error Answer} (hProgram : (config.sessions client).program = .done result) :
    Consistent start programs (config.setSession client ⟨.done result, [], []⟩) := by
  cases h.standing client with
  | committed hLog hLocks hWrites value hDone =>
    have hSame : (⟨.done result, [], []⟩ : Session S (Except Error Answer)) = config.sessions client := by
      rw [← hProgram, ← hLocks, ← hWrites]
    rw [hSame, Config.setSession, Function.update_eq_self]
    exact h
  | failed hLog hFails =>
    exact h.setSession hLog (by simp) (by simp) (.failed hLog (hProgram ▸ hFails))
  | live hLog facts hLive =>
    exact h.setSession hLog (by simp) (by simp) (.failed hLog (hLive.rollback hProgram))

theorem step_query {next : (Call.query statement).Response → Tx S Error Answer}
    (hProgram : (config.sessions client).program = .call (.query statement) next)
    (hFree : ∀ other, other ≠ client → ¬ config.Blocks client statement other) :
    Consistent start programs (config.setSession client
      { program := next (statement.answer (config.view client))
        locks := (config.sessions client).locks ++ statement.locks (config.view client)
        writes := (config.sessions client).writes ++ statement.writes (config.view client) }) := by
  obtain ⟨hLog, facts, hLive⟩ := h.live_of_call hProgram
  obtain ⟨hWrites, hContinues⟩ := hLive.query h.wellFormed hProgram
  have hView : config.view client = config.committed := by simp [Config.view, hWrites]
  refine h.setSession hLog ?_ ?_ ?_
  · intro lock hLock
    refine (mem_append.mp hLock).imp_right fun hNew other hne held hHeld hConflict => ?_
    exact hFree other hne (.inl ⟨lock, hNew, held, hHeld, hConflict⟩)
  · intro own hOwn
    refine (mem_append.mp hOwn).imp_right fun hNew other hne write hWrite hTable doc hDoc new => ?_
    exact writes_apart_of_free hNew (hFree other hne) hWrite hTable hDoc
  · rw [hView, hWrites, nil_append]
    rcases hContinues with hFails | ⟨facts', hLive'⟩
    · exact .failed hLog hFails
    · exact .live hLog facts' hLive'

theorem step_commit {next : (Call.commit : Call S).Response → Tx S Error Answer}
    (hProgram : (config.sessions client).program = .call .commit next) :
    Consistent start programs
      { committed := config.view client
        sessions := Function.update config.sessions client ⟨next (.ok ()), [], []⟩
        log := config.log ++ [client] } := by
  obtain ⟨hLog, facts, hLive⟩ := h.live_of_call hProgram
  obtain ⟨write, value, hWrites, hPrepared, hValue, hAtomic⟩ := hLive.commit h.wellFormed hProgram
  have hView : config.view client = write.apply config.committed := by simp [Config.view, hWrites]
  have hOwn : write ∈ (config.sessions client).writes := by simp [hWrites]
  rw [hView, hValue]
  refine ⟨h.wellFormed.apply_write hPrepared hLive.holds (hLive.fits write hOwn),
    pairwise_update Session.Compatible Session.Compatible.symm _ client _ h.compatible ?_,
    pairwise_update Session.Apart Session.Apart.symm _ client _ h.apart ?_, ?_, ?_, ?_, ?_⟩
  · simp [Session.Compatible]
  · simp [Session.Apart]
  · rw [serially_append_singleton, ← h.serial, hAtomic]
  · simpa [nodup_append, h.nodup] using fun other hOther (hSelf : other = client) => hLog (hSelf ▸ hOther)
  · intro before other after hSplit
    rcases eq_nil_or_concat after with rfl | ⟨after', last, rfl⟩
    · obtain ⟨rfl, hLast⟩ := append_inj' hSplit rfl
      obtain rfl := singleton_inj.mp hLast
      rw [← h.serial, hAtomic]
      simp
    · have hInit : config.log = before ++ other :: after' := by
        rw [concat_eq_append, ← cons_append, ← append_assoc] at hSplit
        exact (append_inj' hSplit rfl).1
      have hne : other ≠ client := by
        rintro rfl
        exact hLog (by simp [hInit])
      simpa [hne] using h.returned before other after' hInit
  · intro other
    dsimp only
    by_cases hOther : other = client
    · subst hOther
      rw [Function.update_self]
      exact .committed (by simp) rfl rfl value rfl
    · rw [Function.update_of_ne hOther, mem_append, mem_singleton, or_iff_left hOther]
      exact h.standing_of_commit hOwn hPrepared hLive hOther

theorem step (hStep : Config.Step config config') : Consistent start programs config' := by
  cases hStep with
  | begin client next hProgram => exact h.step_begin hProgram
  | query client statement next hProgram hFree => exact h.step_query hProgram hFree
  | fault client request next failure hProgram => exact h.step_fault hProgram failure
  | commit client next hProgram => exact h.step_commit hProgram
  | rollback client result hProgram => exact h.step_rollback hProgram

end

end Consistent

/-- Disciplined sessions are serializable in commit order: in every reachable
configuration the committed tables are those of running the committed
sessions alone, one after another, and each of them returned what its own
turn of that serial run returns. -/
theorem serializable [DecidableEq Client] {start : Store S} {programs : Client → Tx S Error Answer}
    {config : Config S Client (Except Error Answer)} (hStart : WellFormed start)
    (hPrograms : ∀ client, Disciplined [] (programs client))
    (hReach : Config.Reaches (Config.initial start programs) config) :
    Consistent start programs config := by
  induction hReach with
  | refl => exact Consistent.initial hStart hPrograms
  | tail _ hStep ih => exact ih.step hStep

end RowStore
