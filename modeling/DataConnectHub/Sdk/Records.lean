import DataConnectHub.Sdk.Client

/-! The record of a call of the client: what it sent, closed, emitted and slept for,
and how often it refreshed the token. Code of the client is peeled apart statement by
statement along its record. -/
namespace DataConnectHub.Sdk

open Interaction PyStd List

abbrev Outcome := Except RequestError Response
abbrev Record := List (Program.Event Call Call.Answer)

section Records

def sentOutcome : Program.Event Call Call.Answer → Option Outcome
  | ⟨.send _ stream, answer⟩ => some (receive stream answer)
  | _ => none

def closedIndex : Program.Event Call Call.Answer → Option Nat
  | ⟨.close index, _⟩ => some index
  | _ => none

def emittedChunk : Program.Event Call Call.Answer → Option (List UInt8)
  | ⟨.emit chunk, _⟩ => some chunk
  | _ => none

def sleptDelay : Program.Event Call Call.Answer → Option PyFloat
  | ⟨.sleep delay, _⟩ => some delay
  | _ => none

def isRefresh : Program.Event Call Call.Answer → Bool
  | ⟨.provide refresh, _⟩ => refresh
  | _ => false

def sends (trace : Record) : List Outcome := trace.filterMap sentOutcome
def closes (trace : Record) : List Nat := trace.filterMap closedIndex
def emitted (trace : Record) : List (List UInt8) := trace.filterMap emittedChunk
def delays (trace : Record) : List PyFloat := trace.filterMap sleptDelay
def refreshes (trace : Record) : Nat := trace.countP isRefresh

/-- The numbers of the responses among these outcomes, when the first of them has
this number. -/
def receivedFrom : Nat → List Outcome → List Nat
  | _, [] => []
  | index, .ok _ :: outcomes => index :: receivedFrom (index + 1) outcomes
  | index, .error _ :: outcomes => receivedFrom (index + 1) outcomes

theorem receivedFrom_append (index : Nat) (outcomes later : List Outcome) : receivedFrom index (outcomes ++ later) =
      receivedFrom index outcomes ++ receivedFrom (index + outcomes.length) later := by
  induction outcomes generalizing index with
  | nil => rfl
  | cons outcome outcomes ih =>
    have hShift : index + 1 + outcomes.length = index + (outcomes.length + 1) := by omega
    cases outcome with
    | ok response | error error => simp only [cons_append, receivedFrom, ih, length_cons, hShift]

variable (trace later : Record)

@[simp] theorem sends_append : sends (trace ++ later) = sends trace ++ sends later :=
  filterMap_append
@[simp] theorem closes_append : closes (trace ++ later) = closes trace ++ closes later :=
  filterMap_append
@[simp] theorem emitted_append : emitted (trace ++ later) = emitted trace ++ emitted later :=
  filterMap_append
@[simp] theorem delays_append : delays (trace ++ later) = delays trace ++ delays later :=
  filterMap_append
@[simp] theorem refreshes_append : refreshes (trace ++ later) = refreshes trace + refreshes later :=
  countP_append

/-- A record without a send, a refresh or a chunk. -/
structure Idle (trace : Record) : Prop where
  sends : sends trace = []
  refreshes : refreshes trace = 0
  emitted : emitted trace = []

variable {trace later}

theorem Idle.append (h : Idle trace) (hLater : Idle later) : Idle (trace ++ later) where
  sends := by simp [h.sends, hLater.sends]
  refreshes := by simp [h.refreshes, hLater.refreshes]
  emitted := by simp [h.emitted, hLater.emitted]

end Records

namespace Py

variable {Value Next : Type}

/-- The code can leave this record, this result and this state. -/
def Runs (code : Py Value) (memory : Memory) (trace : Record) (result : Except Raised Value) (after : Memory) : Prop :=
  (code memory).Yields trace (result, after)

variable {memory after : Memory} {trace : Record} {value : Value} {raised : Raised} {call : Call} {first : Py Value}
  {rest : Value → Py Next} {result : Except Raised Next}

theorem runs_pure {result : Except Raised Value} :
    Runs (pure value) memory trace result after ↔ trace = [] ∧ result = .ok value ∧ after = memory := by
  simp [Runs, pure, Py.pure, Program.Yields]

theorem runs_raise {result : Except Raised Value} :
    Runs (raise raised) memory trace result after ↔ trace = [] ∧ result = .error raised ∧ after = memory := by
  simp [Runs, raise, Program.Yields]

theorem runs_ofExcept {value result : Except Raised Value} :
    Runs (ofExcept value) memory trace result after ↔ trace = [] ∧ result = value ∧ after = memory := by
  cases value with
  | ok value => exact runs_pure
  | error raised => exact runs_raise

theorem runs_perform {result : Except Raised call.Answer} : Runs (perform call) memory trace result after ↔
      ∃ answer, trace = [⟨call, answer⟩] ∧ result = .ok answer ∧ after = memory := by
  simp only [Runs, perform, Program.Yields, Prod.mk.injEq]
  constructor
  · rintro ⟨answer, rest, hTrace, rfl, hResult⟩
    exact ⟨answer, hTrace, hResult⟩
  · rintro ⟨answer, hTrace, hResult⟩
    exact ⟨answer, [], hTrace, rfl, hResult⟩

theorem runs_bind : Runs (first >>= rest) memory trace result after ↔
      (∃ raised, result = .error raised ∧ Runs first memory trace (.error raised) after) ∨
        ∃ before later value middle, trace = before ++ later ∧
          Runs first memory before (.ok value) middle ∧ Runs (rest value) middle later result after := by
  have hBind : Runs (first >>= rest) memory trace result after ↔
      ∃ before value later, trace = before ++ later ∧ (first memory).Yields before value ∧
        (andThen rest value).Yields later (result, after) :=
    Program.yields_bind
  rw [hBind]
  constructor
  · rintro ⟨before, ⟨value, middle⟩, later, rfl, hFirst, hRest⟩
    cases value with
    | error raised =>
      obtain ⟨rfl, hResult⟩ := hRest
      obtain ⟨rfl, rfl⟩ := Prod.mk.inj hResult
      rw [append_nil]
      exact .inl ⟨raised, rfl, hFirst⟩
    | ok value => exact .inr ⟨before, later, value, middle, rfl, hFirst, hRest⟩
  · rintro (⟨raised, rfl, hFirst⟩ | ⟨before, later, value, middle, rfl, hFirst, hRest⟩)
    · exact ⟨trace, (.error raised, after), [], by simp, hFirst, rfl, rfl⟩
    · exact ⟨before, (.ok value, middle), later, rfl, hFirst, hRest⟩

/-- A call never raises: code that begins with one goes on with the answer. -/
theorem runs_perform_bind {rest : call.Answer → Py Next} : Runs (perform call >>= rest) memory trace result after ↔
      ∃ answer later, trace = ⟨call, answer⟩ :: later ∧ Runs (rest answer) memory later result after :=
  Iff.rfl

/-- Code that only judges the value of other code at its end. -/
theorem runs_bind_ofExcept {judge : Value → Except Raised Next}
    (h : Runs (first >>= fun value => ofExcept (judge value)) memory trace result after) :
    ∃ value, Runs first memory trace value after ∧ result = value >>= judge := by
  rcases runs_bind.mp h with ⟨raised, rfl, hFirst⟩ | ⟨before, later, value, middle, rfl, hFirst, hRest⟩
  · exact ⟨.error raised, hFirst, rfl⟩
  · obtain ⟨rfl, rfl, rfl⟩ := runs_ofExcept.mp hRest
    rw [append_nil]
    exact ⟨.ok value, hFirst, rfl⟩

theorem Runs.bind {middle : Memory} {later : Record} (hFirst : Runs first memory trace (.ok value) middle)
    (hRest : Runs (rest value) middle later result after) :
    Runs (first >>= rest) memory (trace ++ later) result after :=
  runs_bind.mpr (.inr ⟨trace, later, value, middle, rfl, hFirst, hRest⟩)

theorem Runs.bind_error (h : Runs first memory trace (.error raised) after) (rest : Value → Py Next) :
    Runs (first >>= rest) memory trace (.error raised) after :=
  runs_bind.mpr (.inl ⟨raised, rfl, h⟩)

end Py

section Primitives

variable {memory after : Memory} {trace : Record}

/-- The state after a send. -/
def Memory.next (memory : Memory) : Memory :=
  { memory with sent := memory.sent + 1 }

variable {Next : Type} {result : Except Raised Next} {received : Received} {delay : PyFloat}

theorem runs_send_bind {request : Request} {stream : Bool} {rest : Except RequestError Received → Py Next} :
    (send request stream >>= rest).Runs memory trace result after ↔
      ∃ answer later, trace = ⟨.send request stream, answer⟩ :: later ∧
        (rest ((receive stream answer).map fun response => ⟨memory.sent, response⟩)).Runs memory.next later
          result after :=
  Iff.rfl

theorem runs_close_bind {rest : Unit → Py Next} : (close received >>= rest).Runs memory trace result after ↔
      ∃ later, trace = ⟨.close received.index, ()⟩ :: later ∧ (rest ()).Runs memory later result after := by
  constructor
  · intro h
    obtain ⟨_, later, hTrace, hRest⟩ := Py.runs_perform_bind.mp h
    exact ⟨later, hTrace, hRest⟩
  · rintro ⟨later, hTrace, hRest⟩
    exact Py.runs_perform_bind.mpr ⟨(), later, hTrace, hRest⟩

theorem sleep_cases {result : Except Raised Unit} (h : (sleep delay).Runs memory trace result after) :
    trace = [⟨.sleep delay, ()⟩] ∧ after = memory ∧ (result = .ok () ∧ delay.Sleepable ∨
        ∃ exception, result = .error (.foreign exception) ∧ delay.sleep = .error exception) := by
  obtain ⟨_, later, rfl, hRest⟩ := Py.runs_perform_bind.mp h
  cases hSleep : delay.sleep with
  | ok value =>
    simp only [hSleep] at hRest
    obtain ⟨rfl, rfl, rfl⟩ := Py.runs_pure.mp hRest
    exact ⟨rfl, rfl, .inl ⟨rfl, hSleep⟩⟩
  | error exception =>
    simp only [hSleep] at hRest
    obtain ⟨rfl, rfl, rfl⟩ := Py.runs_raise.mp hRest
    exact ⟨rfl, rfl, .inr ⟨exception, rfl, rfl⟩⟩

theorem runs_sleep (h : delay.Sleepable) (memory : Memory) :
    (sleep delay).Runs memory [⟨.sleep delay, ()⟩] (.ok ()) memory := by
  refine Py.runs_perform_bind.mpr ⟨(), [], rfl, ?_⟩
  rw [h]
  exact Py.runs_pure.mpr ⟨rfl, rfl, rfl⟩

theorem close_cases {result : Except Raised Unit} (h : (close received).Runs memory trace result after) :
    trace = [⟨.close received.index, ()⟩] ∧ result = .ok () ∧ after = memory := by
  obtain ⟨_, rfl, rfl, rfl⟩ := Py.runs_perform.mp h
  exact ⟨rfl, rfl, rfl⟩

end Primitives
end DataConnectHub.Sdk
