import DataConnectHub.RowStore.Serializability
import Mathlib.Order.WithBot

/-! Disciplined sessions never deadlock. A session that waits for an
uncommitted row version waits for a session that has made its write and waits
for nobody. A session that waits for a row lock waits for a session whose own
next lock, if it still needs one, is in a table of higher rank. -/
namespace RowStore

open Relation

variable {S : Schema} {Client Error Answer : Type}

/-- The rank of the row lock a statement takes first, or the top when it only
writes a row that its session has already locked. -/
def Statement.level : Statement S → WithTop Nat
  | .fetchRow table .. => WithTop.some (S.rank table)
  | .delete table .. => WithTop.some (S.rank table)
  | _ => ⊤

def Config.level (config : Config S Client (Except Error Answer)) (client : Client) : WithTop Nat :=
  match (config.sessions client).program with
  | .call (.query statement) _ => statement.level
  | _ => ⊤

/-- A statement that locks one row, if it selects it, takes no other lock. -/
theorem eq_of_mem_locks {selected : Prop} [Decidable selected] {wanted lock : Lock S}
    (h : wanted ∈ if selected then [lock] else []) : wanted = lock :=
  List.mem_singleton.mp (List.mem_ite_nil_right.mp h).2

namespace Consistent

variable {start : Store S} {programs : Client → Tx S Error Answer}
  {config : Config S Client (Except Error Answer)} {client other : Client}

section

variable (h : Consistent start programs config)

include h

/-- A session at a query has changed nothing yet and follows the discipline. -/
theorem disciplined_of_query {statement : Statement S}
    {next : (Call.query statement).Response → Tx S Error Answer}
    (hProgram : (config.sessions client).program = .call (.query statement) next) :
    ∃ facts, Live (programs client) config.committed (config.sessions client) facts ∧
      (config.sessions client).writes = [] ∧ Disciplined facts (.call (.query statement) next) := by
  obtain ⟨-, facts, hLive⟩ := h.live_of_call hProgram
  refine ⟨facts, hLive, ?_⟩
  rcases hLive.stage with ⟨hWrites, hDisciplined⟩ | ⟨write, -, -, next', hCommit, -⟩
  · exact ⟨hWrites, hProgram ▸ hDisciplined⟩
  · rw [hProgram] at hCommit
    cases hCommit

/-- Nobody else holds a row that a session relies on exclusively. -/
theorem not_held_of_row (hne : client ≠ other) {facts : List (Fact S)}
    (hLive : Live (programs client) config.committed (config.sessions client) facts) {table : S.Table} {k : S.Key}
    {old : S.Doc} (hOld : .row table k .update old ∈ facts) {held : Lock S}
    (hHeld : held ∈ (config.sessions other).locks) :
    ¬ (⟨table, k, .update⟩ : Lock S).Conflicts held :=
  h.compatible client other hne _ (hLive.locked (.row table k .update old) hOld) held hHeld

/-- A wait for a session that itself waits is a wait for a row lock in the
table of the waiting statement. -/
theorem lock_of_waits {third : Client} (hWaits : config.WaitsFor client other) (hOther : config.WaitsFor other third) :
    ∃ held ∈ (config.sessions other).locks, config.level client = WithTop.some (S.rank held.table) := by
  obtain ⟨hne, statement, next, hProgram, hBlocks⟩ := hWaits
  obtain ⟨-, statement', next', hProgram', -⟩ := hOther
  obtain ⟨facts, hLive, -, hDisciplined⟩ := h.disciplined_of_query hProgram
  obtain ⟨-, -, hIdle, -⟩ := h.disciplined_of_query hProgram'
  rcases hBlocks with ⟨wanted, hWanted, held, hHeld, hConflict⟩ | ⟨table, doc, -, write, hWrite, -⟩
  · refine ⟨held, hHeld, ?_⟩
    simp only [Config.level, hProgram]
    cases hDisciplined with
    | lockRow above failing missing rest | delete above failing missing rest =>
      obtain rfl := eq_of_mem_locks hWanted
      exact congrArg (fun table => WithTop.some (S.rank table)) hConflict.1
    | update valid keyed row selected covered failing rest =>
      obtain rfl := eq_of_mem_locks hWanted
      exact absurd hConflict (h.not_held_of_row hne hLive row hHeld)
    | countReferences row counts failing referenced rest | insert valid covered failing rest => cases hWanted
  · rw [hIdle] at hWrite
    cases hWrite

/-- Every lock of a waiting session has a rank below that of its next lock. -/
theorem lt_level_of_waits (hWaits : config.WaitsFor client other) {lock : Lock S}
    (hLock : lock ∈ (config.sessions client).locks) :
    WithTop.some (S.rank lock.table) < config.level client := by
  obtain ⟨hne, statement, next, hProgram, hBlocks⟩ := hWaits
  obtain ⟨facts, hLive, hWrites, hDisciplined⟩ := h.disciplined_of_query hProgram
  obtain ⟨fact, hFact, rfl⟩ := hLive.backed hWrites lock hLock
  simp only [Config.level, hProgram]
  cases hDisciplined with
  | lockRow above failing missing rest => exact WithTop.coe_lt_coe.mpr (above fact hFact)
  | delete above failing missing rest =>
    rcases above with hAbove | ⟨old, hOld⟩
    · exact WithTop.coe_lt_coe.mpr (hAbove fact hFact)
    · rcases hBlocks with ⟨wanted, hWanted, held, hHeld, hConflict⟩ | ⟨table, doc, hStored, -⟩
      · obtain rfl := eq_of_mem_locks hWanted
        exact absurd hConflict (h.not_held_of_row hne hLive hOld hHeld)
      · cases hStored
  | _ => exact WithTop.coe_lt_top _

/-- The level rises along every chain of waits that ends in a waiting session. -/
theorem level_lt_of_waits (hChain : TransGen config.WaitsFor client other) :
    ∀ third, config.WaitsFor other third → config.level client < config.level other := by
  have hOne : ∀ first second third, config.WaitsFor first second → config.WaitsFor second third →
      config.level first < config.level second := by
    intro first second third hFirst hSecond
    obtain ⟨held, hHeld, hLevel⟩ := h.lock_of_waits hFirst hSecond
    rw [hLevel]
    exact h.lt_level_of_waits hSecond hHeld
  induction hChain with
  | single hWaits => exact fun third hThird => hOne _ _ third hWaits hThird
  | tail _ hWaits ih => exact fun third hThird => (ih _ hWaits).trans (hOne _ _ third hWaits hThird)

/-- The wait-for relation has no cycle. -/
theorem acyclic (client : Client) : ¬ TransGen config.WaitsFor client client := by
  intro hCycle
  obtain ⟨next, hWaits, -⟩ := TransGen.head'_iff.mp hCycle
  exact lt_irrefl _ (h.level_lt_of_waits hCycle next hWaits)

end

end Consistent
end RowStore
