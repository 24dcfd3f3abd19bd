import Mathlib.Logic.Function.Basic

/-! A cache in front of a remote question. A request is answered from the
entry under its key if there is one; otherwise the question is asked, and the
answer is kept unless it is an error. Entries may be dropped at any time. The
cache is sound when an answer is only ever given to a request for whose own
question it was obtained, which depends on what the key identifies. -/
namespace Memo

structure Memoizer (Request Key Question Reply Error Value : Type) where
  key : Request → Key
  question : Request → Question
  interpret : Reply → Except Error Value

/-- The entries, and the questions asked so far with the replies to them. -/
structure State (Key Question Reply Value : Type) where
  entries : Key → Option Value
  asked : List (Question × Reply)

def State.empty {Key Question Reply Value : Type} : State Key Question Reply Value :=
  ⟨fun _ => none, []⟩

/-- The reply of a call is the one its question would get at that moment. -/
inductive Action (Request Key Reply : Type) where
  | expire (dropped : Key → Bool)
  | call (request : Request) (reply : Reply)

namespace Memoizer

variable {Request Key Question Reply Error Value : Type} [DecidableEq Key]
  (memo : Memoizer Request Key Question Reply Error Value)

def tryGetWith (request : Request) (reply : Reply) (state : State Key Question Reply Value) :
    Except Error Value × State Key Question Reply Value :=
  match state.entries (memo.key request) with
  | some value => (.ok value, state)
  | none =>
    let asked := state.asked ++ [(memo.question request, reply)]
    match memo.interpret reply with
    | .ok value => (.ok value, ⟨Function.update state.entries (memo.key request) (some value), asked⟩)
    | .error error => (.error error, ⟨state.entries, asked⟩)

def step (state : State Key Question Reply Value) : Action Request Key Reply → State Key Question Reply Value
  | .expire dropped => { state with entries := fun k => if dropped k then none else state.entries k }
  | .call request reply => (memo.tryGetWith request reply state).2

def run (actions : List (Action Request Key Reply)) : State Key Question Reply Value :=
  actions.foldl memo.step .empty

end Memoizer

/-- The requests of a run meet a condition. -/
def Action.Meets {Request Key Reply : Type} (Allowed : Request → Prop) : Action Request Key Reply → Prop
  | .expire _ => True
  | .call request _ => Allowed request

namespace Memoizer

variable {Request Key Question Reply Error Value : Type} [DecidableEq Key]
  {memo : Memoizer Request Key Question Reply Error Value}

/-- The value was obtained for this question. -/
def Answered (memo : Memoizer Request Key Question Reply Error Value)
    (state : State Key Question Reply Value) (question : Question) (value : Value) : Prop :=
  ∃ reply, (question, reply) ∈ state.asked ∧ memo.interpret reply = .ok value

variable {state : State Key Question Reply Value} {value : Value} {Allowed : Request → Prop}

theorem Answered.tryGetWith {question : Question} (h : memo.Answered state question value) (request : Request)
    (reply : Reply) :
    memo.Answered (memo.tryGetWith request reply state).2 question value := by
  obtain ⟨answer, hAsked, hValue⟩ := h
  refine ⟨answer, ?_, hValue⟩
  unfold Memoizer.tryGetWith
  cases state.entries (memo.key request) with
  | some cached => exact hAsked
  | none => cases memo.interpret reply <;> exact List.mem_append_left _ hAsked

/-- An entry was obtained for a request of the run with its key. -/
def Backed (memo : Memoizer Request Key Question Reply Error Value) (Allowed : Request → Prop)
    (state : State Key Question Reply Value) : Prop :=
  ∀ k value, state.entries k = some value →
    ∃ request, Allowed request ∧ memo.key request = k ∧ memo.Answered state (memo.question request) value

theorem answered_of_miss {request : Request} {reply : Reply} (hMiss : state.entries (memo.key request) = none)
    (hValue : memo.interpret reply = .ok value) :
    memo.Answered (memo.tryGetWith request reply state).2 (memo.question request) value := by
  refine ⟨reply, ?_, hValue⟩
  simp [Memoizer.tryGetWith, hMiss, hValue]

theorem Backed.step (h : memo.Backed Allowed state) {action : Action Request Key Reply}
    (hAction : action.Meets Allowed) :
    memo.Backed Allowed (memo.step state action) := by
  cases action with
  | expire dropped =>
    intro k value hEntry
    simp only [Memoizer.step] at hEntry
    split at hEntry
    · cases hEntry
    · exact h k value hEntry
  | call request reply =>
    intro k value hEntry
    have hOld : state.entries k = some value → ∃ other, Allowed other ∧ memo.key other = k ∧
        memo.Answered (memo.tryGetWith request reply state).2 (memo.question other) value := by
      intro hBefore
      obtain ⟨other, hAllowed, hKey, hAnswered⟩ := h k value hBefore
      exact ⟨other, hAllowed, hKey, hAnswered.tryGetWith request reply⟩
    cases hHit : state.entries (memo.key request) with
    | some cached =>
      refine hOld ?_
      simpa [Memoizer.step, Memoizer.tryGetWith, hHit] using hEntry
    | none =>
      cases hReply : memo.interpret reply with
      | error error =>
        refine hOld ?_
        simpa [Memoizer.step, Memoizer.tryGetWith, hHit, hReply] using hEntry
      | ok obtained =>
        by_cases hKey : k = memo.key request
        · subst hKey
          have hSame : obtained = value := by
            simpa [Memoizer.step, Memoizer.tryGetWith, hHit, hReply] using hEntry
          subst hSame
          exact ⟨request, hAction, rfl, answered_of_miss hHit hReply⟩
        · refine hOld ?_
          simpa [Memoizer.step, Memoizer.tryGetWith, hHit, hReply, hKey] using hEntry

theorem Backed.run {actions : List (Action Request Key Reply)} (h : ∀ action ∈ actions, action.Meets Allowed) :
    memo.Backed Allowed (memo.run actions) :=
  List.foldlRecOn actions memo.step (fun _ _ hEntry => by cases hEntry) fun _ hState action hAction =>
    Backed.step hState (h action hAction)

/-- In every run of allowed requests an answer was obtained for the question
of the request it is given to. -/
def Sound (memo : Memoizer Request Key Question Reply Error Value) (Allowed : Request → Prop) : Prop :=
  ∀ actions : List (Action Request Key Reply), (∀ action ∈ actions, action.Meets Allowed) →
    ∀ request reply value, Allowed request → (memo.tryGetWith request reply (memo.run actions)).1 = .ok value →
      memo.Answered (memo.tryGetWith request reply (memo.run actions)).2 (memo.question request) value

theorem sound_of_key (memo : Memoizer Request Key Question Reply Error Value)
    (h : ∀ first second, Allowed first → Allowed second → memo.key first = memo.key second →
      memo.question first = memo.question second) : memo.Sound Allowed := by
  intro actions hActions request reply value hRequest hResult
  cases hHit : (memo.run actions).entries (memo.key request) with
  | some cached =>
    have hSame : cached = value := by simpa [Memoizer.tryGetWith, hHit] using hResult
    subst hSame
    obtain ⟨other, hAllowed, hKey, hAnswered⟩ := Backed.run hActions _ _ hHit
    rw [h request other hRequest hAllowed hKey.symm]
    exact hAnswered.tryGetWith request reply
  | none =>
    cases hReply : memo.interpret reply with
    | error error => simp [Memoizer.tryGetWith, hHit, hReply] at hResult
    | ok obtained =>
      have hSame : obtained = value := by simpa [Memoizer.tryGetWith, hHit, hReply] using hResult
      subst hSame
      exact answered_of_miss hHit hReply

/-- Two requests under one key with different questions: the second is given
the answer to the first. -/
theorem not_answered_of_clash (memo : Memoizer Request Key Question Reply Error Value) (first second : Request)
    {reply : Reply} (hKey : memo.key first = memo.key second) (hQuestion : memo.question first ≠ memo.question second)
    (hReply : memo.interpret reply = .ok value) (unused : Reply) :
    (memo.tryGetWith second unused (memo.run [.call first reply])).1 = .ok value ∧
      ¬memo.Answered (memo.tryGetWith second unused (memo.run [.call first reply])).2 (memo.question second) value := by
  have hState : memo.run [.call first reply] =
      ⟨Function.update (fun _ => none) (memo.key second) (some value), [(memo.question first, reply)]⟩ := by
    simp [Memoizer.run, Memoizer.step, Memoizer.tryGetWith, State.empty, hReply, hKey]
  rw [hState]
  refine ⟨by simp [Memoizer.tryGetWith], ?_⟩
  rintro ⟨answer, hAsked, -⟩
  have hPair : (memo.question second, answer) = (memo.question first, reply) := by
    simpa [Memoizer.tryGetWith] using hAsked
  exact hQuestion (Prod.mk.inj hPair).1.symm

end Memoizer
end Memo
