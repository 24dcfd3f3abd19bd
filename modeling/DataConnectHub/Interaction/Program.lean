import Mathlib.Data.List.Basic

/-! Sequential code that talks to its environment only through typed calls.
A program is the whole tree of its possible continuations, so one definition
serves an isolated run, a run against an arbitrary environment and a run
interleaved with other programs. A system that moves in turns runs as the fold of
a step function over a list of turns. -/
namespace Interaction

inductive Program (Call : Type) (Response : Call → Type) (Result : Type) where
  | done (result : Result)
  | call (request : Call) (next : Response request → Program Call Response Result)

namespace Program

variable {Call : Type} {Response : Call → Type} {Result Value : Type}

protected def bind : Program Call Response Value → (Value → Program Call Response Result) → Program Call Response Result
  | .done value, rest => rest value
  | .call request next, rest => .call request fun answer => (next answer).bind rest

instance : Monad (Program Call Response) where
  pure := .done
  bind := Program.bind

theorem bind_done (program : Program Call Response Result) : program.bind .done = program := by
  induction program with
  | done result => rfl
  | call request next ih => exact congrArg (Program.call request) (funext ih)

theorem bind_bind {Middle : Type} (program : Program Call Response Middle)
    (first : Middle → Program Call Response Value) (second : Value → Program Call Response Result) :
    (program.bind first).bind second = program.bind fun value => (first value).bind second := by
  induction program with
  | done result => rfl
  | call request next ih => exact congrArg (Program.call request) (funext ih)

instance : LawfulMonad (Program Call Response) :=
  .mk' _ bind_done (fun _ _ => rfl) bind_bind

/-- One answered call, as an observer of the boundary records it. -/
abbrev Event (Call : Type) (Response : Call → Type) := (request : Call) × Response request

/-- An environment answers each call from everything answered before. No
other restriction is placed on it, so it may be stateful, concurrent or
hostile. -/
abbrev Environment (Call : Type) (Response : Call → Type) :=
  List (Event Call Response) → (request : Call) → Response request

/-- The result of a run and the complete record of its calls, oldest first. -/
def run (environment : Environment Call Response) :
    Program Call Response Result → List (Event Call Response) → Result × List (Event Call Response)
  | .done result, past => (result, past)
  | .call request next, past =>
    (next (environment past request)).run environment (past ++ [⟨request, environment past request⟩])

variable (environment : Environment Call Response)

theorem run_bind (first : Program Call Response Value) (rest : Value → Program Call Response Result)
    (past : List (Event Call Response)) :
    (first.bind rest).run environment past =
      (rest (first.run environment past).1).run environment (first.run environment past).2 := by
  induction first generalizing past with
  | done value => rfl
  | call request next ih => exact ih _ _

/-- Every call the program can ever issue meets a condition on the calls
answered before it, whatever the answers are. -/
def Always (condition : List (Event Call Response) → Call → Prop) :
    List (Event Call Response) → Program Call Response Result → Prop
  | _, .done _ => True
  | past, .call request next =>
    condition past request ∧ ∀ answer, (next answer).Always condition (past ++ [⟨request, answer⟩])

/-- The program issues no other calls than these. -/
def Issues (allowed : Call → Prop) : Program Call Response Result → Prop
  | .done _ => True
  | .call request next => allowed request ∧ ∀ answer, (next answer).Issues allowed

variable {allowed : Call → Prop} {program : Program Call Response Result} {past : List (Event Call Response)}

theorem Issues.imp {wider : Call → Prop} (h : program.Issues allowed)
    (hWider : ∀ request, allowed request → wider request) :
    program.Issues wider := by
  induction program with
  | done result => trivial
  | call request next ih => exact ⟨hWider request h.1, fun answer => ih answer (h.2 answer)⟩

theorem Issues.bind {first : Program Call Response Value} {rest : Value → Program Call Response Result}
    (hFirst : first.Issues allowed) (hRest : ∀ value, (rest value).Issues allowed) :
    (first.bind rest).Issues allowed := by
  induction first with
  | done value => exact hRest value
  | call request next ih => exact ⟨hFirst.1, fun answer => ih answer (hFirst.2 answer)⟩

variable {condition : List (Event Call Response) → Call → Prop}

/-- Calls that meet the condition after any record meet it in this program. -/
theorem Issues.always (h : program.Issues allowed)
    (hAllowed : ∀ past request, allowed request → condition past request) (past : List (Event Call Response)) :
    program.Always condition past := by
  induction program generalizing past with
  | done result => trivial
  | call request next ih => exact ⟨hAllowed past request h.1, fun answer => ih answer (h.2 answer) _⟩

/-- A record of the calls of a program and its result, whatever the answers in the
record are. -/
def Yields : Program Call Response Result → List (Event Call Response) → Result → Prop
  | .done value, trace, result => trace = [] ∧ result = value
  | .call request next, trace, result =>
    ∃ answer rest, trace = ⟨request, answer⟩ :: rest ∧ (next answer).Yields rest result

/-- A run extends the record it starts from by such a record. -/
theorem yields_run (program : Program Call Response Result) (past : List (Event Call Response)) :
    ∃ added, (program.run environment past).2 = past ++ added ∧
      program.Yields added (program.run environment past).1 := by
  induction program generalizing past with
  | done result => exact ⟨[], by simp [run], rfl, rfl⟩
  | call request next ih =>
    obtain ⟨added, hAdded, hYields⟩ := ih (environment past request) (past ++ [⟨request, environment past request⟩])
    refine ⟨⟨request, environment past request⟩ :: added, ?_, _, added, rfl, hYields⟩
    rw [run, hAdded, List.append_assoc, List.singleton_append]

/-- Every call of the run against this environment meets the condition. -/
def Along (environment : Environment Call Response) (condition : List (Event Call Response) → Call → Prop) :
    List (Event Call Response) → Program Call Response Result → Prop
  | _, .done _ => True
  | past, .call request next =>
    condition past request ∧ (next (environment past request)).Along environment condition
      (past ++ [⟨request, environment past request⟩])

theorem Always.along (h : program.Always condition past) (environment : Environment Call Response) :
    program.Along environment condition past := by
  induction program generalizing past with
  | done result => trivial
  | call request next ih => exact ⟨h.1, ih _ (h.2 _)⟩

/-- The condition along a run, read off the record of the run. -/
theorem along_iff {environment : Environment Call Response} : program.Along environment condition past ↔
      ∀ before event after, (program.run environment past).2 = before ++ event :: after →
        past.length ≤ before.length → condition before event.1 := by
  induction program generalizing past with
  | done result =>
    refine ⟨fun _ before event after hTrace hNew => ?_, fun _ => trivial⟩
    have hLength := congrArg List.length hTrace
    simp only [Program.run, List.length_append, List.length_cons] at hLength
    omega
  | call request next ih =>
    obtain ⟨added, hAdded, -⟩ := yields_run environment (next (environment past request))
      (past ++ [⟨request, environment past request⟩])
    have hRun : ((Program.call request next).run environment past).2 =
        past ++ ⟨request, environment past request⟩ :: added := by
      rw [Program.run, hAdded, List.append_assoc, List.singleton_append]
    rw [Along, ih]
    constructor
    · rintro ⟨hHere, hRest⟩ before event after hTrace hNew
      by_cases hLater : past.length + 1 ≤ before.length
      · exact hRest before event after hTrace (by simpa using hLater)
      · have hBefore : past.length = before.length := by omega
        rw [hRun] at hTrace
        obtain ⟨rfl, hEvent⟩ := List.append_inj hTrace hBefore
        obtain ⟨rfl, -⟩ := List.cons.inj hEvent
        exact hHere
    · intro h
      refine ⟨h past _ added hRun (Nat.le_refl _), fun before event after hTrace hNew => ?_⟩
      exact h before event after hTrace (by simp at hNew; omega)

end Program

variable {State Turn : Type} {step : State → Turn → State} {condition : State → Turn → Prop}
  {state : State} {turns : List Turn}

/-- Every turn of the run meets the condition in the state it is taken in. -/
def Throughout (step : State → Turn → State) (condition : State → Turn → Prop) : State → List Turn → Prop
  | _, [] => True
  | state, turn :: turns => condition state turn ∧ Throughout step condition (step state turn) turns

instance [∀ state turn, Decidable (condition state turn)] :
    (state : State) → (turns : List Turn) → Decidable (Throughout step condition state turns)
  | _, [] => isTrue trivial
  | state, turn :: turns =>
    have := instDecidableThroughout (step state turn) turns
    inferInstanceAs (Decidable (_ ∧ _))

variable {Holds : State → Prop}

/-- What every turn under the condition preserves holds after the run. -/
theorem Throughout.preserves (hStep : ∀ {state turn}, Holds state → condition state turn → Holds (step state turn))
    (hTurns : Throughout step condition state turns) (h : Holds state) : Holds (turns.foldl step state) := by
  induction turns generalizing state with
  | nil => exact h
  | cons turn turns ih => exact ih hTurns.2 (hStep h hTurns.1)

/-- What the condition gives at each turn, under an invariant it keeps. -/
theorem Throughout.imp {other : State → Turn → Prop}
    (hStep : ∀ {state turn}, Holds state → condition state turn → Holds (step state turn))
    (hTurn : ∀ {state turn}, Holds state → condition state turn → other state turn)
    (hTurns : Throughout step condition state turns) (h : Holds state) :
    Throughout step other state turns := by
  induction turns generalizing state with
  | nil => trivial
  | cons turn turns ih => exact ⟨hTurn h hTurns.1, ih hTurns.2 (hStep h hTurns.1)⟩

end Interaction
