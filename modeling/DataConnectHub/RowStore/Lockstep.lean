import DataConnectHub.RowStore.Discipline

/-! Two runs of the same transaction on two stores. When both stores answer
every call of the run in the same way, the runs return the same result,
whatever calls fail. -/
namespace RowStore

open Transaction List

variable {S : Schema} {Result Error Answer Answer' : Type}

/-- The runs on the two stores receive the same answers throughout. -/
def Transaction.Lockstep : Transaction S Result → Store S → Store S → Prop
  | .done _, _, _ => True
  | .call request next, first, second =>
    (serve first first none request).1 = (serve second second none request).1 ∧
      (∀ failure, Lockstep (next (.error failure)) first second) ∧
      Lockstep (next (serve first first none request).1) (serve first first none request).2.2
        (serve second second none request).2.2

/-- The answer and the new view of a call depend on the view alone. -/
theorem Transaction.serve_view (committed view : Store S) (fault : Option Failure) (request : Call S) :
    (serve committed view fault request).1 = (serve view view fault request).1 ∧
      (serve committed view fault request).2.2 = (serve view view fault request).2.2 := by
  cases fault with
  | some failure => exact ⟨rfl, rfl⟩
  | none => cases request <;> exact ⟨rfl, rfl⟩

variable {transaction : Transaction S Result} {first second : Store S}

theorem Transaction.Lockstep.result_eq (h : transaction.Lockstep first second) (faults : Nat → Option Failure)
    (committed committed' : Store S) :
    (transaction.isolated faults committed first).1 = (transaction.isolated faults committed' second).1 := by
  induction transaction generalizing faults first second committed committed' with
  | done result => rfl
  | call request next ih =>
    obtain ⟨hAnswer, hFails, hNext⟩ := h
    simp only [isolated]
    cases hFault : faults 0 with
    | some failure => exact ih _ (hFails failure) _ _ _
    | none =>
      obtain ⟨hFirst, hFirstView⟩ := serve_view committed first none request
      obtain ⟨hSecond, hSecondView⟩ := serve_view committed' second none request
      rw [hFirst, hFirstView, hSecond, hSecondView, ← hAnswer]
      exact ih _ hNext _ _ _

theorem Transaction.Lockstep.map {transaction : Tx S Error Answer}
    (h : transaction.Lockstep first second) (rename : Answer → Answer') :
    Lockstep (mapAnswer rename transaction) first second := by
  induction transaction generalizing first second with
  | done result => trivial
  | call request next ih => exact ⟨h.1, fun failure => ih _ (h.2.1 failure), ih _ h.2.2⟩

/-- Sessions that have only to commit are in step. -/
theorem Commits.lockstep {transaction : Tx S Error Answer} (h : Commits transaction)
    (first second : Store S) : transaction.Lockstep first second := by
  obtain ⟨next, rfl, ⟨value, hValue⟩, hFails⟩ := h
  refine ⟨rfl, fun failure => ?_, ?_⟩
  · obtain ⟨error, hError⟩ := hFails failure
    rw [hError]
    trivial
  · change Lockstep (next (.ok ())) _ _
    rw [hValue]
    trivial

/-- The code never commits anything. -/
def Transaction.ReadOnly : Transaction S Result → Prop
  | .done _ => True
  | .call request next => request ≠ .commit ∧ ∀ answer, ReadOnly (next answer)

theorem Transaction.ReadOnly.unchanged (h : transaction.ReadOnly) (faults : Nat → Option Failure)
    (committed view : Store S) :
    (transaction.isolated faults committed view).2 = committed := by
  induction transaction generalizing faults view with
  | done result => rfl
  | call request next ih =>
    obtain ⟨hRequest, hNext⟩ := h
    have hSame : (serve committed view (faults 0) request).2.1 = committed := by
      cases faults 0 with
      | some failure => rfl
      | none => cases request <;> first | rfl | exact absurd rfl hRequest
    simp only [isolated, hSame]
    exact ih _ (hNext _) _ _

section Answers

variable {first second : Store S} {table : S.Table} {k : S.Key} {filter : S.Doc → Bool}

/-- Stores with the same rows under the filter find the same row. -/
theorem WellFormed.find_congr (hSecond : WellFormed second)
    (hSame : ∀ doc, filter doc = true → (doc ∈ first table ↔ doc ∈ second table)) :
    (first table).find? (S.selects k filter) = (second table).find? (S.selects k filter) := by
  cases hFind : (first table).find? (S.selects k filter) with
  | some doc =>
    obtain ⟨hKey, hFilter⟩ := (S.selects_iff k filter doc).mp (find?_some hFind)
    have hDoc := (hSame doc hFilter).mp (mem_of_find?_eq_some hFind)
    exact (hSecond.find_eq hDoc hKey hFilter).symm
  | none =>
    symm
    rw [find?_eq_none]
    intro doc hDoc hSelected
    obtain ⟨-, hFilter⟩ := (S.selects_iff k filter doc).mp hSelected
    exact find?_eq_none.mp hFind doc ((hSame doc hFilter).mpr hDoc) hSelected

theorem WellFormed.countP_selects (h : WellFormed first) : (first table).countP (S.selects k filter) =
      if ((first table).find? (S.selects k filter)).isSome then 1 else 0 := by
  cases hFind : (first table).find? (S.selects k filter) with
  | none => exact countP_eq_zero.mpr (find?_eq_none.mp hFind)
  | some doc =>
    obtain ⟨hKey, hFilter⟩ := (S.selects_iff k filter doc).mp (find?_some hFind)
    exact h.countP_eq_one (mem_of_find?_eq_some hFind) hKey hFilter

end Answers
end RowStore
