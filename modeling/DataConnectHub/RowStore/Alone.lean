import DataConnectHub.RowStore.Serializability
import Mathlib.Data.List.Induction

/-! A transaction run alone is a run of its session while no other moves, so
what holds of interleaved sessions holds of it, whatever calls fail. -/
namespace RowStore

open Interaction Transaction

variable {S : Schema} {Client Error Answer : Type}

section Alone

variable {Result : Type} [DecidableEq Client]

/-- No other session is in the middle of something. -/
def Config.Alone (config : Config S Client Result) (client : Client) : Prop :=
  ∀ other, other ≠ client → (config.sessions other).locks = [] ∧ (config.sessions other).writes = []

/-- A session that runs alone is never blocked. -/
theorem Config.step_serve (config : Config S Client Result) {client : Client}
    (hAlone : config.Alone client) {request : Call S} {next : request.Response → Transaction S Result}
    (hProgram : (config.sessions client).program = .call request next) (fault : Option Failure) :
    let served := serve config.committed (config.view client) fault request
    ∃ config', Config.Step config config' ∧ (config'.sessions client).program = next served.1 ∧
      config'.committed = served.2.1 ∧ config'.view client = served.2.2 ∧
      ∀ other, other ≠ client → config'.sessions other = config.sessions other := by
  cases fault with
  | some failure =>
    exact ⟨_, .fault client request next failure hProgram, by simp [serve], rfl, by simp [serve, view],
      fun other hne => setSession_other _ _ hne⟩
  | none =>
    cases request with
    | begin =>
      exact ⟨_, .begin client next hProgram, by simp [serve], rfl, by simp [serve, view],
        fun other hne => setSession_other _ _ hne⟩
    | commit =>
      exact ⟨_, .commit client next hProgram, by simp [serve], rfl, by simp [serve, view],
        fun other hne => by simp [hne]⟩
    | query statement =>
      have hFree : ∀ other, other ≠ client → ¬ config.Blocks client statement other := by
        intro other hne hBlocks
        obtain ⟨hLocks, hWrites⟩ := hAlone other hne
        rcases hBlocks with ⟨_, _, held, hHeld, _⟩ | ⟨_, _, _, write, hWrite, _⟩
        · simp [hLocks] at hHeld
        · simp [hWrites] at hWrite
      refine ⟨_, .query client statement next hProgram hFree, ?_, rfl, ?_, fun other hne => setSession_other _ _ hne⟩
      · simp [serve]
      · simp [serve, view, applyAll_append]

/-- A transaction run alone is a run of its session while no other moves. -/
theorem Transaction.reaches_isolated (transaction : Transaction S Result)
    (faults : Nat → Option Failure) (config : Config S Client Result) {client : Client}
    (hAlone : config.Alone client) (hProgram : (config.sessions client).program = transaction) :
    ∃ config', Config.Reaches config config' ∧ config'.sessions client =
        ⟨.done (transaction.isolated faults config.committed (config.view client)).1, [], []⟩ ∧
      config'.committed = (transaction.isolated faults config.committed (config.view client)).2 ∧
      ∀ other, other ≠ client → config'.sessions other = config.sessions other := by
  induction transaction generalizing faults config with
  | done result =>
    exact ⟨_, .single (.rollback client result hProgram), Config.setSession_self .., rfl,
      fun other hne => Config.setSession_other _ _ hne⟩
  | call request next ih =>
    obtain ⟨config', hStep, hNext, hCommitted, hView, hOthers⟩ :=
      config.step_serve hAlone hProgram (faults 0)
    have hAlone' : config'.Alone client := fun other hne => by
      rw [hOthers other hne]
      exact hAlone other hne
    obtain ⟨last, hReach, hResult, hStore, hKept⟩ :=
      ih _ (fun n => faults (n + 1)) config' hAlone' hNext
    rw [hCommitted, hView] at hResult hStore
    exact ⟨last, .head hStep hReach, hResult, hStore, fun other hne => (hKept other hne).trans (hOthers other hne)⟩

/-- Every serial order of sessions is one of their interleavings. -/
theorem exists_reaches_serially (programs : Client → Tx S Error Answer)
    (start : Store S) (order : List Client) (hNodup : order.Nodup) :
    ∃ config, Config.Reaches (Config.initial start programs) config ∧ config.committed = serially programs start order ∧
      ∀ client, (config.sessions client).locks = [] ∧ (config.sessions client).writes = [] ∧
        (client ∉ order → (config.sessions client).program = programs client) := by
  induction order using List.reverseRecOn with
  | nil => exact ⟨_, .refl, rfl, fun client => ⟨rfl, rfl, fun _ => rfl⟩⟩
  | append_singleton order client ih =>
    rw [List.nodup_append] at hNodup
    obtain ⟨config, hReach, hCommitted, hSessions⟩ := ih hNodup.1
    have hNew : client ∉ order := fun hMem => hNodup.2.2 client hMem client (List.mem_singleton_self _) rfl
    have hAlone : config.Alone client := fun other _ => ⟨(hSessions other).1, (hSessions other).2.1⟩
    obtain ⟨last, hTurn, hSession, hAfter, hOthers⟩ :=
      (programs client).reaches_isolated noFaults config hAlone ((hSessions client).2.2 hNew)
    have hView : config.view client = config.committed := by simp [Config.view, (hSessions client).2.1]
    refine ⟨last, hReach.trans hTurn, ?_, fun other => ?_⟩
    · rw [serially_append_singleton, ← hCommitted, hAfter, hView]
      rfl
    · by_cases hOther : other = client
      · subst hOther
        rw [hSession]
        exact ⟨rfl, rfl, fun hNot => absurd (by simp) hNot⟩
      · rw [hOthers other hOther]
        exact ⟨(hSessions other).1, (hSessions other).2.1,
          fun hNot => (hSessions other).2.2 fun hMem => hNot (List.mem_append_left _ hMem)⟩

end Alone

/-- A disciplined transaction run alone, whatever calls fail: either it
returns a value and has the effect of its atomic run, or it returns an error
and has no effect. -/
theorem Disciplined.isolated_cases {transaction : Tx S Error Answer}
    (h : Disciplined [] transaction) {store : Store S} (hStore : WellFormed store)
    (faults : Nat → Option Failure) :
    (∃ value after, transaction.isolated faults store store = (.ok value, after) ∧
      transaction.atomically store = (.ok value, after) ∧ WellFormed after) ∨
    ∃ error, transaction.isolated faults store store = (.error error, store) := by
  have hAlone : (Config.initial store fun _ : Unit => transaction).Alone () :=
    fun other hne => absurd rfl hne
  obtain ⟨config, hReach, hSession, hAfter, -⟩ := transaction.reaches_isolated faults _ hAlone rfl
  have hConsistent := serializable hStore (fun _ => h) hReach
  have hResult : (config.sessions ()).program = .done (transaction.isolated faults store store).1 := by
    rw [hSession]
    rfl
  change _ = (transaction.isolated faults store store).2 at hAfter
  have hLog : config.log = [] ∨ config.log = [()] := by
    have hNodup := hConsistent.nodup
    match config.log, hNodup with
    | [], _ => exact .inl rfl
    | [()], _ => exact .inr rfl
    | () :: () :: _, hNodup => simp at hNodup
  rcases hLog with hLog | hLog
  · have hSame : config.committed = store := by rw [hConsistent.serial, hLog, serially_nil]
    right
    cases hConsistent.standing () with
    | committed hLogged => simp [hLog] at hLogged
    | failed _ hFails =>
      obtain ⟨error, hError⟩ := hFails
      rw [hResult] at hError
      exact ⟨error, Prod.ext (Program.done.inj hError) (hAfter.symm.trans hSame)⟩
    | live _ facts hLive =>
      obtain ⟨error, hError⟩ := hLive.rollback hResult
      exact ⟨error, Prod.ext (Program.done.inj hError) (hAfter.symm.trans hSame)⟩
  · left
    cases hConsistent.standing () with
    | committed _ _ _ value hValue =>
      have hTurn := hConsistent.returned [] () [] hLog
      have hEnd := hConsistent.serial
      rw [hLog, ← List.nil_append [()], serially_append_singleton, serially_nil] at hEnd
      rw [hValue] at hTurn hResult
      refine ⟨value, config.committed, Prod.ext (Program.done.inj hResult).symm hAfter.symm,
        Prod.ext (Program.done.inj hTurn).symm hEnd.symm, hConsistent.wellFormed⟩
    | failed hLogged | live hLogged => simp [hLog] at hLogged

end RowStore
