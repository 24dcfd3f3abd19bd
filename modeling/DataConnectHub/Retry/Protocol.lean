import Mathlib.Data.List.Count

/-! Sending again. A call sends until an outcome settles it. A transient outcome is
tried again for as long as the round has retries left. A refusal renews the
authorization of the call, for as long as it has renewals left, and starts a new
round. -/
namespace Retry

variable {Outcome : Type}

structure Policy (Outcome : Type) where
  transient : Outcome → Bool
  refused : Outcome → Bool
  /-- How often a round may try again. -/
  retries : Nat
  disjoint : ∀ outcome, refused outcome = true → transient outcome = false

/-- What a call has left before it sends. -/
structure Phase where
  retries : Nat
  renewals : Nat

namespace Policy

variable (policy : Policy Outcome)

/-- The phase after an outcome, unless the outcome settles the call. -/
def advance (phase : Phase) (outcome : Outcome) : Option Phase :=
  if policy.transient outcome = true ∧ phase.retries ≠ 0 then
    some { phase with retries := phase.retries - 1 }
  else if policy.refused outcome = true ∧ phase.renewals ≠ 0 then
    some { retries := policy.retries, renewals := phase.renewals - 1 }
  else none

variable {policy}

theorem advance_transient {outcome : Outcome} (h : policy.transient outcome = true) (retries renewals : Nat) :
    policy.advance ⟨retries + 1, renewals⟩ outcome = some ⟨retries, renewals⟩ := by
  simp [advance, h]

theorem advance_refused {outcome : Outcome} (h : policy.refused outcome = true) (retries renewals : Nat) :
    policy.advance ⟨retries, renewals + 1⟩ outcome = some ⟨policy.retries, renewals⟩ := by
  simp [advance, h, policy.disjoint outcome h]

theorem advance_eq_none_iff {phase : Phase} {outcome : Outcome} : policy.advance phase outcome = none ↔
      ¬ (policy.transient outcome = true ∧ phase.retries ≠ 0) ∧
        ¬ (policy.refused outcome = true ∧ phase.renewals ≠ 0) := by
  rw [advance]
  split
  next hAgain => simp [hAgain]
  next hAgain =>
    split
    next hRenew => simp [hRenew]
    next hRenew => exact ⟨fun _ => ⟨hAgain, hRenew⟩, fun _ => rfl⟩

theorem advance_cases {phase next : Phase} {outcome : Outcome} (h : policy.advance phase outcome = some next) :
    (policy.transient outcome = true ∧ policy.refused outcome = false ∧
        phase.retries = next.retries + 1 ∧ phase.renewals = next.renewals) ∨
      (policy.refused outcome = true ∧ next.retries = policy.retries ∧ phase.renewals = next.renewals + 1) := by
  rw [advance] at h
  split at h
  next hAgain =>
    left
    cases h
    refine ⟨hAgain.1, ?_, by simp only; omega, rfl⟩
    cases hRefused : policy.refused outcome with
    | false => rfl
    | true => rw [policy.disjoint outcome hRefused] at hAgain; cases hAgain.1
  next =>
    split at h
    next hRenew =>
      right
      cases h
      exact ⟨hRenew.1, rfl, by simp only; omega⟩
    next => cases h

variable (policy) (waits : Phase → Outcome → Prop)

/-- A call goes past these outcomes, from one phase to another, and can wait after each
of them that it tries again. -/
inductive Reaches : Phase → List Outcome → Phase → Prop where
  | refl (phase : Phase) : Reaches phase [] phase
  | step {phase next last : Phase} {outcome : Outcome} {outcomes : List Outcome}
      (hAdvance : policy.advance phase outcome = some next)
      (hWaits : policy.transient outcome = true → waits phase outcome) (hRest : Reaches next outcomes last) :
      Reaches phase (outcome :: outcomes) last

variable {policy waits}

namespace Reaches

variable {phase next last : Phase} {outcomes later : List Outcome}

section

variable (h : policy.Reaches waits phase outcomes next)

include h

theorem trans (hLater : policy.Reaches waits next later last) :
    policy.Reaches waits phase (outcomes ++ later) last := by
  induction h with
  | refl phase => exact hLater
  | step hAdvance hWaits hRest ih => exact .step hAdvance hWaits (ih hLater)

theorem advances : ∀ outcome ∈ outcomes, policy.transient outcome = true ∨ policy.refused outcome = true := by
  induction h with
  | refl phase => simp
  | step hAdvance hWaits hRest ih =>
    intro outcome hMem
    rcases List.mem_cons.mp hMem with rfl | hMem
    · rcases advance_cases hAdvance with ⟨hTransient, -⟩ | ⟨hRefused, -⟩
      · exact .inl hTransient
      · exact .inr hRefused
    · exact ih outcome hMem

/-- Every refusal costs a renewal, and nothing else does. -/
theorem countP_refused : outcomes.countP policy.refused + next.renewals = phase.renewals := by
  induction h with
  | refl phase => simp
  | step hAdvance hWaits hRest ih =>
    rcases advance_cases hAdvance with ⟨-, hRefused, -, hRenewals⟩ | ⟨hRefused, -, hRenewals⟩
    · rw [List.countP_cons_of_neg (by simp [hRefused])]
      omega
    · rw [List.countP_cons_of_pos hRefused]
      omega

end

/-- The sends a phase has left, beyond the next one. -/
def weight (policy : Policy Outcome) (phase : Phase) : Nat :=
  phase.retries + phase.renewals * (policy.retries + 1)

theorem length_add_weight_le (h : policy.Reaches waits phase outcomes next) :
    outcomes.length + weight policy next ≤ weight policy phase := by
  induction h with
  | refl phase => simp
  | step hAdvance hWaits hRest ih =>
    rw [List.length_cons]
    simp only [weight] at ih ⊢
    rcases advance_cases hAdvance with ⟨-, -, hRetries, hRenewals⟩ | ⟨-, hRetries, hRenewals⟩
    · rw [hRetries, hRenewals]
      omega
    · rw [hRetries] at ih
      rw [hRenewals, Nat.add_one_mul]
      omega

end Reaches

/-- The outcomes of a call meet a condition each: one condition on those that it tries
again, another on the one that settles it. -/
def Meets (policy : Policy Outcome) (waits : Phase → Outcome → Prop) (settles : Outcome → Prop) :
    Phase → List Outcome → Prop
  | _, [] => True
  | phase, outcome :: outcomes =>
    match policy.advance phase outcome with
    | none => settles outcome
    | some next =>
      (policy.transient outcome = true → waits phase outcome) ∧ Meets policy waits settles next outcomes

theorem meets_append_iff {settles : Outcome → Prop} {phase next : Phase} {outcomes later : List Outcome}
    (h : policy.Reaches waits phase outcomes next) :
    policy.Meets waits settles phase (outcomes ++ later) ↔ policy.Meets waits settles next later := by
  induction h with
  | refl phase => rfl
  | step hAdvance hWaits hRest ih =>
    rw [List.cons_append, Meets, hAdvance]
    simp only [ih]
    exact ⟨And.right, fun h => ⟨hWaits, h⟩⟩

end Policy
end Retry
