import DataConnectHub.Interaction.Program

/-! The records a program can leave, and how they are put together from those of its
parts. A run against any environment leaves such a record. -/
namespace Interaction.Program

variable {Call : Type} {Response : Call → Type} {Result Value : Type}

variable (environment : Environment Call Response) (program : Program Call Response Result)

theorem yields_run_nil : program.Yields (program.run environment []).2 (program.run environment []).1 := by
  obtain ⟨added, hAdded, hYields⟩ := yields_run environment program []
  rw [hAdded]
  exact hYields

variable {trace : List (Event Call Response)} {result : Result}

theorem yields_bind {first : Program Call Response Value} {rest : Value → Program Call Response Result} :
    (first.bind rest).Yields trace result ↔ ∃ before value after, trace = before ++ after ∧ first.Yields before value ∧
        (rest value).Yields after result := by
  induction first generalizing trace with
  | done value =>
    constructor
    · intro h
      exact ⟨[], value, trace, rfl, ⟨rfl, rfl⟩, h⟩
    · rintro ⟨before, found, after, rfl, ⟨rfl, rfl⟩, hRest⟩
      exact hRest
  | call request next ih =>
    constructor
    · rintro ⟨answer, later, rfl, hLater⟩
      obtain ⟨before, value, after, rfl, hBefore, hAfter⟩ := (ih answer).mp hLater
      exact ⟨⟨request, answer⟩ :: before, value, after, rfl, ⟨answer, before, rfl, hBefore⟩, hAfter⟩
    · rintro ⟨_, value, after, rfl, ⟨answer, before, rfl, hBefore⟩, hAfter⟩
      exact ⟨answer, before ++ after, rfl, (ih answer).mpr ⟨before, value, after, rfl, hBefore, hAfter⟩⟩

/-- An environment that gives the answers of a record leaves that record. -/
theorem run_of_yields {environment : Environment Call Response} {program : Program Call Response Result}
    (h : program.Yields trace result) (hAnswers : ∀ event ∈ trace, ∀ past, environment past event.1 = event.2)
    (past : List (Event Call Response)) :
    program.run environment past = (result, past ++ trace) := by
  induction program generalizing trace past with
  | done value =>
    obtain ⟨rfl, rfl⟩ := h
    rw [run, List.append_nil]
  | call request next ih =>
    obtain ⟨answer, rest, rfl, hRest⟩ := h
    have hAnswer : environment past request = answer := hAnswers ⟨request, answer⟩ (by simp) past
    rw [run, hAnswer, ih answer hRest fun event hMem => hAnswers event (by simp [hMem]), List.append_assoc]
    rfl

end Interaction.Program
