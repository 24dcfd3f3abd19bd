import DataConnectHub.Interaction.Program

/-! Sessions. A component with a state performs one operation after another, and
each operation is a program that ends with the next state. `Keeps` is a
condition on all calls of a program together with one on its result, so that
an invariant of the component can be carried from operation to operation. -/
namespace Interaction.Program

variable {Call : Type} {Response : Call → Type} {Result Value State Operation : Type}
  {condition : List (Event Call Response) → Call → Prop}
  {post other : List (Event Call Response) → Result → Prop} {past : List (Event Call Response)}

/-- Whatever the answers are, every call meets the condition on the calls answered
before it, and the result the one on all of them. -/
def Keeps (condition : List (Event Call Response) → Call → Prop) (post : List (Event Call Response) → Result → Prop) :
    List (Event Call Response) → Program Call Response Result → Prop
  | past, .done result => post past result
  | past, .call request next =>
    condition past request ∧ ∀ answer, (next answer).Keeps condition post (past ++ [⟨request, answer⟩])

theorem Keeps.always {program : Program Call Response Result} (h : program.Keeps condition post past) :
    program.Always condition past := by
  induction program generalizing past with
  | done result => trivial
  | call request next ih => exact ⟨h.1, fun answer => ih answer (h.2 answer)⟩

theorem Keeps.bind {first : Program Call Response Value} {rest : Value → Program Call Response Result}
    {middle : List (Event Call Response) → Value → Prop} (hFirst : first.Keeps condition middle past)
    (hRest : ∀ past value, middle past value → (rest value).Keeps condition post past) :
    (first.bind rest).Keeps condition post past := by
  induction first generalizing past with
  | done value => exact hRest past value hFirst
  | call request next ih => exact ⟨hFirst.1, fun answer => ih answer (hFirst.2 answer)⟩

/-- The operations of a session, from a state. -/
def perform (operate : State → Operation → Program Call Response State) :
    List Operation → State → Program Call Response State
  | [], state => .done state
  | operation :: operations, state => (operate state operation).bind (perform operate operations)

variable {operate : State → Operation → Program Call Response State}
  {Holds : List (Event Call Response) → State → Prop} {state : State}

section

variable (hOperate : ∀ past state operation, Holds past state → (operate state operation).Keeps condition Holds past)
  (operations : List Operation)

include hOperate

/-- What every operation keeps, a session keeps. -/
theorem keeps_perform (h : Holds past state) : (perform operate operations state).Keeps condition Holds past := by
  induction operations generalizing past state with
  | nil => exact h
  | cons operation operations ih => exact (hOperate past state operation h).bind fun past state hState => ih hState

/-- What holds of all calls of a session, read off the record of a run. -/
theorem condition_of_perform (h : Holds [] state) (environment : Environment Call Response)
    {before after : List (Event Call Response)} {event : Event Call Response}
    (hRecord : ((perform operate operations state).run environment []).2 = before ++ event :: after) :
    condition before event.1 :=
  along_iff.mp ((keeps_perform hOperate operations h).always.along environment) before event after hRecord
    (Nat.zero_le _)

end

end Interaction.Program
