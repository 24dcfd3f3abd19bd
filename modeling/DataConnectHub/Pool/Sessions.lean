import DataConnectHub.Interaction.Program
import Mathlib.Logic.Function.Basic

/-! Jobs on pooled connections to one database. A connection serves one job at a
time, and keeps its session from one job to the next. The statements of jobs on
different connections are interleaved in any way, and a job may be abandoned
between two of its statements. -/
namespace Pool

open Interaction

variable {Session Contents Statement Answer Result : Type}

/-- A statement, and what is executed instead if the job is abandoned before. -/
structure Request (Statement : Type) where
  statement : Statement
  guard : List Statement

abbrev Job (Statement Answer Result : Type) := Program (Request Statement) (fun _ => Answer) Result

/-- A database, with the session of a new connection and what a statement does
to its session and to the contents. -/
structure Engine (Session Contents Statement Answer : Type) where
  fresh : Session
  exec : Statement → Session → Contents → Answer × Session × Contents

structure State (Session Contents Statement Answer Result : Type) where
  contents : Contents
  sessions : Nat → Session
  jobs : Nat → Option (Job Statement Answer Result)

/-- The state after a turn of one connection. -/
def State.put (state : State Session Contents Statement Answer Result) (connection : Nat) (contents : Contents)
    (session : Session) (job : Option (Job Statement Answer Result)) :
    State Session Contents Statement Answer Result where
  contents := contents
  sessions := Function.update state.sessions connection session
  jobs := Function.update state.jobs connection job

inductive Turn (Job : Type) where
  | start (connection : Nat) (job : Job)
  | advance (connection : Nat)
  | abandon (connection : Nat)

namespace Engine

variable (engine : Engine Session Contents Statement Answer)

def initial (contents : Contents) : State Session Contents Statement Answer Result where
  contents := contents
  sessions _ := engine.fresh
  jobs _ := none

/-- Statements executed one after the other, whatever they answer. -/
def execAll (statements : List Statement) (session : Session) (contents : Contents) : Session × Contents :=
  statements.foldl (fun (session, contents) statement => (engine.exec statement session contents).2) (session, contents)

/-- A connection that is busy takes no other job; one that is free has nothing
to do. -/
def step (state : State Session Contents Statement Answer Result) :
    Turn (Job Statement Answer Result) → State Session Contents Statement Answer Result
  | .start connection job =>
    match state.jobs connection with
    | none => state.put connection state.contents (state.sessions connection) (some job)
    | some _ => state
  | .advance connection =>
    match state.jobs connection with
    | none => state
    | some (.done _) => state.put connection state.contents (state.sessions connection) none
    | some (.call request next) =>
      let (answer, session, contents) :=
        engine.exec request.statement (state.sessions connection) state.contents
      state.put connection contents session (some (next answer))
  | .abandon connection =>
    match state.jobs connection with
    | none => state
    | some (.done _) => state.put connection state.contents (state.sessions connection) none
    | some (.call request _) =>
      let (session, contents) :=
        engine.execAll request.guard (state.sessions connection) state.contents
      state.put connection contents session none

section Harmless

variable (Idle : Session → Prop)

/-- The statements leave the contents alone and the session idle. -/
def Settles (session : Session) (statements : List Statement) : Prop :=
  ∀ contents, (engine.execAll statements session contents).2 = contents ∧
    Idle (engine.execAll statements session contents).1

/-- No statement of the job changes the contents, and wherever the job stops,
the session it leaves behind is idle. -/
def Harmless : Session → Job Statement Answer Result → Prop
  | session, .done _ => Idle session
  | session, .call request next =>
    engine.Settles Idle session request.guard ∧ ∀ contents,
        (engine.exec request.statement session contents).2.2 = contents ∧
        Harmless (engine.exec request.statement session contents).2.1
          (next (engine.exec request.statement session contents).1)

/-- An idle session on a free connection, a harmless job on another one. -/
def Fits (session : Session) : Option (Job Statement Answer Result) → Prop
  | none => Idle session
  | some job => engine.Harmless Idle session job

def Undisturbed (contents : Contents) (state : State Session Contents Statement Answer Result) : Prop :=
  state.contents = contents ∧ ∀ connection, engine.Fits Idle (state.sessions connection) (state.jobs connection)

end Harmless

variable {engine} {Idle : Session → Prop} {contents : Contents} {state : State Session Contents Statement Answer Result}

theorem Undisturbed.put (h : engine.Undisturbed Idle contents state) (connection : Nat) {later : Contents}
    {session : Session} {job : Option (Job Statement Answer Result)} (hContents : later = state.contents)
    (hHere : engine.Fits Idle session job) :
    engine.Undisturbed Idle contents (state.put connection later session job) := by
  refine ⟨hContents.trans h.1, fun other => ?_⟩
  simp only [State.put]
  by_cases hOther : other = connection
  · rw [hOther, Function.update_self, Function.update_self]
    exact hHere
  · rw [Function.update_of_ne hOther, Function.update_of_ne hOther]
    exact h.2 other

/-- Every turn leaves the contents alone, if the jobs that are started are
harmless on an idle connection. -/
theorem Undisturbed.step (h : engine.Undisturbed Idle contents state) {turn : Turn (Job Statement Answer Result)}
    (hStart : ∀ connection job, turn = .start connection job →
      ∀ session, Idle session → engine.Harmless Idle session job) :
    engine.Undisturbed Idle contents (engine.step state turn) := by
  cases turn with
  | start connection job =>
    have hHere := h.2 connection
    rw [Engine.step]
    split
    next hFree =>
      rw [hFree] at hHere
      exact h.put connection rfl (hStart connection job rfl _ hHere)
    next => exact h
  | advance connection =>
    have hHere := h.2 connection
    rw [Engine.step]
    split
    next => exact h
    next hDone =>
      rw [hDone] at hHere
      exact h.put connection rfl hHere
    next request rest hCall =>
      rw [hCall] at hHere
      obtain ⟨hUnchanged, hRest⟩ := hHere.2 state.contents
      exact h.put connection hUnchanged hRest
  | abandon connection =>
    have hHere := h.2 connection
    rw [Engine.step]
    split
    next => exact h
    next hDone =>
      rw [hDone] at hHere
      exact h.put connection rfl hHere
    next request rest hCall =>
      rw [hCall] at hHere
      obtain ⟨hUnchanged, hIdle⟩ := hHere.1 state.contents
      exact h.put connection hUnchanged hIdle

/-- Harmless jobs leave the contents as they were, however they are run. -/
theorem contents_of_harmless (hFresh : Idle engine.fresh) {turns : List (Turn (Job Statement Answer Result))}
    (hStart : ∀ connection job, .start connection job ∈ turns →
      ∀ session, Idle session → engine.Harmless Idle session job) (contents : Contents) :
    (turns.foldl engine.step (engine.initial contents)).contents = contents := by
  have hInitial : engine.Undisturbed Idle contents (engine.initial contents : State _ _ Statement Answer Result) :=
    ⟨rfl, fun _ => hFresh⟩
  have hRun : engine.Undisturbed Idle contents (turns.foldl engine.step (engine.initial contents)) :=
    List.foldlRecOn turns engine.step hInitial fun state h turn hTurn =>
      Undisturbed.step h fun connection job hStarted => hStart connection job (hStarted ▸ hTurn)
  exact hRun.1

end Engine
end Pool
