import DataConnectHub.RowStore.Discipline

/-! A session on its way to a commit. The invariant says that its original
code, run alone on whatever store satisfies the facts it relies on, would have
come to exactly where it stands now. Statements of the session extend the
facts, and commits of others keep them. -/
namespace RowStore

open Transaction List

variable {S : Schema} {Error Answer : Type}

/-- No other row stands in the way of an uncommitted change. -/
def Write.Fits (store : Store S) : Write S → Prop
  | .insert table doc => ∀ row ∈ store table, S.clashes table doc row = false
  | .replace table k _ doc =>
    ∀ row ∈ store table, S.key row ≠ some k → S.clashes table doc row = false
  | .remove .. => True

/-- An uncommitted change made under the discipline. -/
def Write.Prepared (facts : List (Fact S)) (locks : List (Lock S)) : Write S → Prop
  | .insert table doc => S.valid table doc ∧
      ∀ target ∈ S.references table doc, ∃ mode, ⟨target.1, target.2, mode⟩ ∈ locks
  | .replace table k filter doc => S.valid table doc ∧ S.key doc = some k ∧
      ∃ old, .row table k .update old ∈ facts ∧ filter old = true ∧
        ∀ target ∈ S.references table doc, target ∈ S.references table old ∨ ∃ mode, ⟨target.1, target.2, mode⟩ ∈ locks
  | .remove table k filter => ∃ old, .row table k .update old ∈ facts ∧ filter old = true

variable {write : Write S} {doc : S.Doc} {facts : List (Fact S)} {locks : List (Lock S)}

theorem Write.mem_apply {store : Store S} {table : S.Table} (h : doc ∈ write.apply store table) :
    doc ∈ store table ∨ (table = write.table ∧ doc ∈ write.stored) := by
  by_cases hTable : table = write.table
  · subst hTable
    rw [apply_table] at h
    cases write with
    | insert table new =>
      rcases mem_append.mp h with h | h
      · exact .inl h
      · exact .inr ⟨rfl, h⟩
    | replace table k filter new =>
      obtain ⟨row, hRow, hDoc⟩ := mem_map.mp h
      by_cases hSelected : S.selects k filter row = true
      · rw [if_pos hSelected] at hDoc
        exact .inr ⟨rfl, by simp [stored, hDoc]⟩
      · rw [if_neg hSelected] at hDoc
        exact .inl (hDoc ▸ hRow)
    | remove table k filter => exact .inl (mem_filter.mp h).1
  · rw [apply_other store write hTable] at h
    exact .inl h

/-- A prepared change that fits keeps the indexes and the row shapes. -/
theorem WellFormed.apply_write {store : Store S} (hStore : WellFormed store) (hPrepared : write.Prepared facts locks)
    (hFacts : ∀ fact ∈ facts, fact.Holds store) (hFits : write.Fits store) :
    WellFormed (write.apply store) := by
  refine ⟨fun table => ?_, fun table doc hDoc => ?_⟩
  · by_cases hTable : table = write.table
    · subst hTable
      rw [Write.apply_table]
      cases write with
      | insert table doc =>
        refine pairwise_append.mpr ⟨hStore.unique table, pairwise_singleton _ _, ?_⟩
        intro row hRow other hOther
        obtain rfl := mem_singleton.mp hOther
        rw [S.clashes_symm]
        exact hFits row hRow
      | replace table k filter doc =>
        obtain ⟨-, -, old, hOld, hSelected, -⟩ := hPrepared
        obtain ⟨hMem, hKey⟩ := hFacts _ hOld
        have hOnly : ∀ row ∈ store table, S.selects k filter row = true → row = old :=
          fun row hRow h => hStore.eq_of_key hRow hMem ((S.selects_iff k filter row).mp h).1 hKey
        have hOther : ∀ row ∈ store table, S.selects k filter row ≠ true → S.key row ≠ some k := by
          intro row hRow h hk
          have hSame := hStore.eq_of_key hRow hMem hk hKey
          exact h ((S.selects_iff k filter row).mpr ⟨hk, by rw [hSame]; exact hSelected⟩)
        refine pairwise_map.mpr (List.Pairwise.imp_of_mem ?_ (hStore.unique table))
        intro first second hFirst hSecond hApart
        by_cases h1 : S.selects k filter first = true <;> by_cases h2 : S.selects k filter second = true
        · have hClash := S.clashes_of_key table first second k
            ((S.selects_iff k filter first).mp h1).1 ((S.selects_iff k filter second).mp h2).1
          rw [hApart] at hClash
          cases hClash
        · rw [if_pos h1, if_neg h2]
          exact hFits second hSecond (hOther second hSecond h2)
        · rw [if_neg h1, if_pos h2, S.clashes_symm]
          exact hFits first hFirst (hOther first hFirst h1)
        · rw [if_neg h1, if_neg h2]
          exact hApart
      | remove table k filter => exact (hStore.unique table).filter _
    · rw [Write.apply_other store write hTable]
      exact hStore.unique table
  · rcases Write.mem_apply hDoc with hOld | ⟨rfl, hNew⟩
    · exact hStore.valid table doc hOld
    · cases write with
      | insert table new | replace table k filter new => rw [mem_singleton.mp hNew]; exact hPrepared.1
      | remove table k filter => cases hNew

/-- The facts of one session survive the committed change of another, because
their locks exclude each other. -/
theorem Fact.Holds.apply {store : Store S} {fact : Fact S} (h : fact.Holds store)
    (hPrepared : write.Prepared facts locks) (hFacts : ∀ other ∈ facts, other.Holds store)
    (hLocked : ∀ other ∈ facts, other.lock ∈ locks) (hApart : ∀ lock ∈ locks, ¬ lock.Conflicts fact.lock) :
    fact.Holds (write.apply store) := by
  cases fact with
  | row table k mode doc =>
    obtain ⟨hDoc, hKey⟩ := h
    refine ⟨?_, hKey⟩
    by_cases hTable : table = write.table
    · subst hTable
      have hUntouched : ∀ old k' filter, .row write.table k' .update old ∈ facts → S.selects k' filter doc = false := by
        intro old k' filter hOld
        rw [Bool.eq_false_iff]
        intro hSelected
        have hSame : k' = k := by
          have hk' := ((S.selects_iff k' filter doc).mp hSelected).1
          rw [hKey] at hk'
          exact (Option.some.inj hk').symm
        exact hApart _ (hLocked _ hOld) ⟨rfl, hSame, LockMode.update_conflicts mode⟩
      rw [Write.apply_table]
      cases write with
      | insert table new => exact mem_append_left _ hDoc
      | replace table k' filter new =>
        obtain ⟨-, -, old, hOld, -⟩ := hPrepared
        refine mem_map.mpr ⟨doc, hDoc, ?_⟩
        rw [hUntouched old k' filter hOld]
        simp
      | remove table k' filter =>
        obtain ⟨old, hOld, -⟩ := hPrepared
        exact mem_filter.mpr ⟨hDoc, by rw [hUntouched old k' filter hOld]; rfl⟩
    · rw [Write.apply_other store write hTable]
      exact hDoc
  | unreferenced source table k =>
    intro doc hDoc hRef
    rcases Write.mem_apply hDoc with hOld | ⟨rfl, hNew⟩
    · exact h doc hOld hRef
    · have hUnlocked : ∀ mode, ⟨table, k, mode⟩ ∉ locks := fun mode hLock =>
        hApart _ hLock ⟨rfl, rfl, LockMode.conflicts_update mode⟩
      cases write with
      | insert source new =>
        obtain rfl := mem_singleton.mp hNew
        obtain ⟨mode, hLock⟩ := hPrepared.2 _ hRef
        exact hUnlocked mode hLock
      | replace source k' filter new =>
        obtain rfl := mem_singleton.mp hNew
        obtain ⟨-, -, old, hOld, -, hCovered⟩ := hPrepared
        rcases hCovered _ hRef with hKept | ⟨mode, hLock⟩
        · exact h old (hFacts _ hOld).1 hKept
        · exact hUnlocked mode hLock
      | remove source k' filter => cases hNew

theorem Write.Fits.apply {store : Store S} {other : Write S} (h : write.Fits store)
    (hApart : other.table = write.table → ∀ doc ∈ write.stored, ∀ new ∈ other.stored,
      S.clashes write.table doc new = false) : write.Fits (other.apply store) := by
  cases write with
  | insert table doc =>
    intro row hRow
    rcases Write.mem_apply hRow with hOld | ⟨hTable, hNew⟩
    · exact h row hOld
    · exact hApart hTable.symm doc (mem_singleton_self doc) row hNew
  | replace table k filter doc =>
    intro row hRow hKey
    rcases Write.mem_apply hRow with hOld | ⟨hTable, hNew⟩
    · exact h row hOld hKey
    · exact hApart hTable.symm doc (mem_singleton_self doc) row hNew
  | remove table k filter => exact trivial

/-- An update of a row that is there violates no index exactly if the new row
fits beside all others. -/
theorem WellFormed.update_fits_iff {store : Store S} (hStore : WellFormed store) {table : S.Table} {k : S.Key}
    {filter : S.Doc → Bool} {old : S.Doc} (hMem : old ∈ store table) (hKey : S.key old = some k)
    (hSelected : filter old = true) :
    (Statement.update table k filter doc).violates store = false ↔ (Write.replace table k filter doc).Fits store := by
  have hOld : S.selects k filter old = true := (S.selects_iff k filter old).mpr ⟨hKey, hSelected⟩
  have hAny : (store table).any (S.selects k filter) = true := any_eq_true.mpr ⟨old, hMem, hOld⟩
  have hRow : ∀ row ∈ store table, S.selects k filter row = false ↔ S.key row ≠ some k := by
    intro row hRow
    constructor
    · intro hNot hk
      rw [hStore.eq_of_key hRow hMem hk hKey, hOld] at hNot
      cases hNot
    · intro hk
      simp [Schema.selects, hk]
  simp only [Statement.violates, hAny, Bool.true_and, any_eq_false, Bool.and_eq_true,
    Bool.not_eq_true', not_and, Bool.not_eq_true, Write.Fits]
  exact ⟨fun hAll row hMem' hk => hAll row hMem' ((hRow row hMem').mpr hk),
    fun hAll row hMem' hNot => hAll row hMem' ((hRow row hMem').mp hNot)⟩

/-- A session on its way to a commit, relying on `facts`. -/
structure Live (initial : Tx S Error Answer) (committed : Store S)
    (session : Session S (Except Error Answer)) (facts : List (Fact S)) : Prop where
  holds : ∀ fact ∈ facts, fact.Holds committed
  locked : ∀ fact ∈ facts, fact.lock ∈ session.locks
  backed : session.writes = [] → ∀ lock ∈ session.locks, ∃ fact ∈ facts, fact.lock = lock
  fits : ∀ write ∈ session.writes, write.Fits committed
  run : ∀ store, WellFormed store → (∀ fact ∈ facts, fact.Holds store) → (∀ write ∈ session.writes, write.Fits store) →
    initial.atomically store = session.program.isolated noFaults store (applyAll session.writes store)
  stage : (session.writes = [] ∧ Disciplined facts session.program) ∨
    ∃ write, session.writes = [write] ∧ write.Prepared facts session.locks ∧ Commits session.program

theorem Live.of_disciplined {initial : Tx S Error Answer} {committed : Store S}
    (h : Disciplined [] initial) : Live initial committed ⟨initial, [], []⟩ [] where
  holds := by simp
  locked := by simp
  backed := by simp
  fits := by simp
  run := by
    intro store _ _ _
    rfl
  stage := .inl ⟨rfl, h⟩

namespace Live

variable {initial : Tx S Error Answer} {committed : Store S}
  {session : Session S (Except Error Answer)} {facts : List (Fact S)}

theorem begin (h : Live initial committed session facts)
    {next : (Call.begin : Call S).Response → Tx S Error Answer} (hProgram : session.program = .call .begin next) :
    Live initial committed { session with program := next (.ok ()) } facts := by
  rcases h.stage with ⟨hWrites, hDisciplined⟩ | ⟨write, _, _, next', hCommit, _⟩
  · rw [hProgram] at hDisciplined
    cases hDisciplined with
    | begin failing rest =>
      refine ⟨h.holds, h.locked, h.backed, h.fits, ?_, .inl ⟨hWrites, rest⟩⟩
      intro store hStore hFacts hFits
      have hRun := h.run store hStore hFacts hFits
      rw [hProgram, isolated_begin] at hRun
      exact hRun
  · rw [hProgram] at hCommit
    cases hCommit

theorem fault (h : Live initial committed session facts) {request : Call S}
    {next : request.Response → Tx S Error Answer}
    (hProgram : session.program = .call request next) (failure : Failure) :
    Fails (next (.error failure)) := by
  rcases h.stage with ⟨-, hDisciplined⟩ | ⟨write, -, -, next', hCommit, -, failing⟩
  · rw [hProgram] at hDisciplined
    exact hDisciplined.fails_of_fault failure
  · rw [hProgram] at hCommit
    cases hCommit
    exact failing failure

/-- The outcome of a query that nobody blocks: the session either fails, or
stays live with the facts its answer added. -/
def Continues (initial : Tx S Error Answer) (committed : Store S) (locks : List (Lock S)) (statement : Statement S)
    (next : (Call.query statement).Response → Tx S Error Answer) : Prop :=
  Fails (next (statement.answer committed)) ∨ ∃ facts, Live initial committed
      ⟨next (statement.answer committed), locks ++ statement.locks committed, statement.writes committed⟩ facts

/-- A query keeps the session live when every store with the enlarged facts
answers it in the same way, with the same changes. -/
theorem answered (h : Live initial committed session facts) (hWrites : session.writes = []) {statement : Statement S}
    {next : (Call.query statement).Response → Tx S Error Answer}
    (hProgram : session.program = .call (.query statement) next) (facts' : List (Fact S))
    (hKept : facts ⊆ facts') (hHolds : ∀ fact ∈ facts', fact.Holds committed)
    (hLocked : ∀ fact ∈ facts', fact.lock ∈ session.locks ++ statement.locks committed)
    (hBacked : statement.writes committed = [] → ∀ lock ∈ statement.locks committed, ∃ fact ∈ facts', fact.lock = lock)
    (hFits : ∀ write ∈ statement.writes committed, write.Fits committed)
    (hSame : ∀ store, WellFormed store → (∀ fact ∈ facts', fact.Holds store) →
      (∀ write ∈ statement.writes committed, write.Fits store) →
      statement.answer store = statement.answer committed ∧ statement.writes store = statement.writes committed)
    (hStage : (statement.writes committed = [] ∧ Disciplined facts' (next (statement.answer committed))) ∨
      ∃ write, statement.writes committed = [write] ∧
        write.Prepared facts' (session.locks ++ statement.locks committed) ∧
        Commits (next (statement.answer committed))) :
    Continues initial committed session.locks statement next := by
  refine .inr ⟨facts', hHolds, hLocked, ?_, hFits, ?_, hStage⟩
  · intro hNone lock hLock
    rcases mem_append.mp hLock with hOld | hNew
    · obtain ⟨fact, hFact, hSame⟩ := h.backed hWrites lock hOld
      exact ⟨fact, hKept hFact, hSame⟩
    · exact hBacked hNone lock hNew
  intro store hStore hFacts' hFits'
  have hRun := h.run store hStore (fun fact hFact => hFacts' fact (hKept hFact)) (by simp [hWrites])
  obtain ⟨hAnswer, hEffect⟩ := hSame store hStore hFacts' hFits'
  rw [hProgram, hWrites, applyAll_nil, isolated_query, hAnswer, hEffect] at hRun
  exact hRun

section Query

variable (h : Live initial committed session facts) (hWrites : session.writes = [])

include h hWrites

variable {table : S.Table} {k : S.Key} {filter : S.Doc → Bool} {doc : S.Doc}

theorem lockRow (hStore : WellFormed committed) {mode : LockMode}
    {next : (Call.query (.fetchRow table k filter (some mode))).Response → Tx S Error Answer}
    (hProgram : session.program = .call (.query (.fetchRow table k filter (some mode))) next)
    (missing : Fails (next (.ok (none : Option S.Doc))))
    (rest : ∀ doc, S.key doc = some k → filter doc = true → S.valid table doc →
      Disciplined (.row table k mode doc :: facts) (next (.ok (some doc)))) :
    Continues initial committed session.locks (.fetchRow table k filter (some mode)) next := by
  cases hFind : (committed table).find? (S.selects k filter) with
  | none =>
    left
    simpa [Statement.answer, hFind] using missing
  | some doc =>
    have hSelected := (S.selects_iff k filter doc).mp (find?_some hFind)
    have hMem := mem_of_find?_eq_some hFind
    have hAny : (committed table).any (S.selects k filter) = true :=
      any_eq_true.mpr ⟨doc, hMem, find?_some hFind⟩
    refine h.answered hWrites hProgram (.row table k mode doc :: facts)
      (subset_cons_self ..) ?_ ?_ ?_ (by simp [Statement.writes]) ?_ (.inl ⟨rfl, ?_⟩)
    · exact forall_mem_cons.mpr ⟨⟨hMem, hSelected.1⟩, h.holds⟩
    · refine forall_mem_cons.mpr ⟨?_, fun fact hFact => mem_append_left _ (h.locked fact hFact)⟩
      simp [Statement.locks, hAny, Fact.lock]
    · simp [Statement.locks, hAny, Fact.lock]
    · intro store hStore' hFacts _
      have hFound := hStore'.find_eq (hFacts _ (mem_cons_self ..)).1 hSelected.1 hSelected.2
      exact ⟨by simp only [Statement.answer, hFind, hFound], rfl⟩
    · simpa only [Statement.answer, hFind] using rest doc hSelected.1 hSelected.2 (hStore.valid table doc hMem)

theorem countReferences {source target : S.Table}
    {next : (Call.query (.count source filter)).Response → Tx S Error Answer}
    (hProgram : session.program = .call (.query (.count source filter)) next)
    (held : .row target k .update doc ∈ facts)
    (counts : ∀ other, filter other = true ↔ (target, k) ∈ S.references source other)
    (referenced : ∀ n : Nat, Fails (next (.ok (n + 1 : Nat))))
    (rest : Disciplined (.unreferenced source target k :: facts) (next (.ok (0 : Nat)))) :
    Continues initial committed session.locks (.count source filter) next := by
  have hCount : ∀ store : Store S, (store source).countP filter = 0 ↔
      (Fact.unreferenced source target k).Holds store := by
    intro store
    simp only [countP_eq_zero, Fact.Holds, ← counts]
  cases hZero : (committed source).countP filter with
  | succ n =>
    left
    simpa [Statement.answer, hZero] using referenced n
  | zero =>
    refine h.answered hWrites hProgram (.unreferenced source target k :: facts)
      (subset_cons_self ..) ?_ ?_ (by simp [Statement.locks]) (by simp [Statement.writes]) ?_
      (.inl ⟨rfl, ?_⟩)
    · exact forall_mem_cons.mpr ⟨(hCount committed).mp hZero, h.holds⟩
    · exact forall_mem_cons.mpr ⟨mem_append_left _ (h.locked (.row target k .update doc) held),
        fun fact hFact => mem_append_left _ (h.locked fact hFact)⟩
    · intro store _ hFacts _
      have hStill := (hCount store).mpr (hFacts _ (mem_cons_self ..))
      exact ⟨by simp only [Statement.answer, hZero, hStill], rfl⟩
    · simpa only [Statement.answer, hZero] using rest

/-- A statement that makes one change unless it violates an index. -/
theorem written (hStore : WellFormed committed) {statement : Statement S}
    {next : (Call.query statement).Response → Tx S Error Answer}
    (hProgram : session.program = .call (.query statement) next) (write : Write S) {value : statement.Value}
    (hFree : ∀ store, WellFormed store → (∀ fact ∈ facts, fact.Holds store) →
      (statement.violates store = false ↔ write.Fits store))
    (hDone : ∀ store, WellFormed store → (∀ fact ∈ facts, fact.Holds store) → statement.violates store = false →
      statement.answer store = .ok value ∧ statement.writes store = [write])
    (failing : statement.violates committed = true → Fails (next (statement.answer committed)))
    (hPrepared : write.Prepared facts (session.locks ++ statement.locks committed))
    (rest : Commits (next (.ok value))) : Continues initial committed session.locks statement next := by
  cases hViolates : statement.violates committed with
  | true => exact .inl (failing hViolates)
  | false =>
    obtain ⟨hAnswer, hStep⟩ := hDone committed hStore h.holds hViolates
    refine h.answered hWrites hProgram facts (List.Subset.refl _) h.holds
      (fun fact hFact => mem_append_left _ (h.locked fact hFact)) (by simp [hStep]) ?_ ?_
      (.inr ⟨write, hStep, hPrepared, hAnswer ▸ rest⟩)
    · rw [hStep]
      simpa using (hFree committed hStore h.holds).mp hViolates
    · intro store hStore' hFacts hFits
      rw [hStep] at hFits
      obtain ⟨hSame, hSameStep⟩ := hDone store hStore' hFacts
        ((hFree store hStore' hFacts).mpr (hFits _ (mem_singleton_self _)))
      exact ⟨hSame.trans hAnswer.symm, hSameStep.trans hStep.symm⟩

theorem insert (hStore : WellFormed committed)
    {next : (Call.query (.insert table doc)).Response → Tx S Error Answer}
    (hProgram : session.program = .call (.query (.insert table doc)) next) (valid : S.valid table doc)
    (covered : ∀ target ∈ S.references table doc, ∃ mode row, .row target.1 target.2 mode row ∈ facts)
    (failing : ∀ failure, Fails (next (.error failure))) (rest : Commits (next (.ok ()))) :
    Continues initial committed session.locks (.insert table doc) next := by
  refine h.written hWrites hStore hProgram (.insert table doc) (fun store _ _ => ?_) (fun store _ _ hFree => ?_)
    (fun hViolates => ?_) ⟨valid, fun target hTarget => ?_⟩ rest
  · simp [Statement.violates, Write.Fits]
  · simp [Statement.answer, Statement.writes, hFree]
  · simpa [Statement.answer, hViolates] using failing .uniqueViolation
  · obtain ⟨mode, row, hRow⟩ := covered target hTarget
    exact ⟨mode, mem_append_left _ (h.locked _ hRow)⟩

theorem update (hStore : WellFormed committed) {old : S.Doc}
    {next : (Call.query (.update table k filter doc)).Response → Tx S Error Answer}
    (hProgram : session.program = .call (.query (.update table k filter doc)) next) (valid : S.valid table doc)
    (keyed : S.key doc = some k) (held : .row table k .update old ∈ facts) (selected : filter old = true)
    (covered : ∀ target ∈ S.references table doc, target ∈ S.references table old ∨
      ∃ mode row, .row target.1 target.2 mode row ∈ facts) (failing : ∀ failure, Fails (next (.error failure)))
    (rest : Commits (next (.ok (1 : Nat)))) :
    Continues initial committed session.locks (.update table k filter doc) next := by
  refine h.written hWrites hStore hProgram (.replace table k filter doc) (fun store hStore' hFacts => ?_)
    (fun store hStore' hFacts hFree => ?_) (fun hViolates => ?_)
    ⟨valid, keyed, old, held, selected, fun target hTarget => ?_⟩ rest
  · obtain ⟨hMem, hKey⟩ := hFacts _ held
    exact hStore'.update_fits_iff hMem hKey selected
  · obtain ⟨hMem, hKey⟩ := hFacts _ held
    have hAny : (store table).any (S.selects k filter) = true :=
      any_eq_true.mpr ⟨old, hMem, (S.selects_iff k filter old).mpr ⟨hKey, selected⟩⟩
    simp [Statement.answer, Statement.writes, hFree, hAny, hStore'.countP_eq_one hMem hKey selected]
  · simpa [Statement.answer, hViolates] using failing .uniqueViolation
  · rcases covered target hTarget with hKept | ⟨mode, row, hRow⟩
    · exact .inl hKept
    · exact .inr ⟨mode, mem_append_left _ (h.locked _ hRow)⟩

theorem delete (hStore : WellFormed committed)
    {next : (Call.query (.delete table k filter)).Response → Tx S Error Answer}
    (hProgram : session.program = .call (.query (.delete table k filter)) next)
    (missing : Fails (next (.ok (0 : Nat)))) (rest : Commits (next (.ok (1 : Nat)))) :
    Continues initial committed session.locks (.delete table k filter) next := by
  cases hFind : (committed table).find? (S.selects k filter) with
  | none =>
    have hNone : (committed table).countP (S.selects k filter) = 0 :=
      countP_eq_zero.mpr (fun row hRow => find?_eq_none.mp hFind row hRow)
    left
    simpa [Statement.answer, hNone] using missing
  | some old =>
    have hSelected := (S.selects_iff k filter old).mp (find?_some hFind)
    have hMem := mem_of_find?_eq_some hFind
    have hAny : ∀ store : Store S, old ∈ store table → (store table).any (S.selects k filter) = true :=
      fun store hOld => any_eq_true.mpr ⟨old, hOld, find?_some hFind⟩
    have hOne : ∀ store : Store S, WellFormed store → old ∈ store table →
        (store table).countP (S.selects k filter) = 1 :=
      fun store hStore' hOld => hStore'.countP_eq_one hOld hSelected.1 hSelected.2
    have hStep : (Statement.delete table k filter).writes committed = [.remove table k filter] := by
      simp [Statement.writes, hAny committed hMem]
    refine h.answered hWrites hProgram (.row table k .update old :: facts)
      (subset_cons_self ..) ?_ ?_ (by simp [hStep]) (by rw [hStep]; simp [Write.Fits]) ?_
      (.inr ⟨.remove table k filter, hStep, ⟨old, mem_cons_self .., hSelected.2⟩, ?_⟩)
    · exact forall_mem_cons.mpr ⟨⟨hMem, hSelected.1⟩, h.holds⟩
    · refine forall_mem_cons.mpr ⟨?_, fun fact hFact => mem_append_left _ (h.locked fact hFact)⟩
      simp [Statement.locks, hAny committed hMem, Fact.lock]
    · intro store hStore' hFacts _
      have hOld := (hFacts _ (mem_cons_self ..)).1
      simp only [Statement.answer, Statement.writes, hOne store hStore' hOld, hOne committed hStore hMem,
        hAny store hOld, hAny committed hMem, and_self]
    · simpa [Statement.answer, hOne committed hStore hMem] using rest

omit hWrites in
/-- The step lemma of a query, by the cases of the discipline. -/
theorem query (hStore : WellFormed committed) {statement : Statement S}
    {next : (Call.query statement).Response → Tx S Error Answer}
    (hProgram : session.program = .call (.query statement) next) :
    session.writes = [] ∧ Continues initial committed session.locks statement next := by
  rcases h.stage with ⟨hWrites, hDisciplined⟩ | ⟨write, -, -, next', hCommit, -⟩
  · rw [hProgram] at hDisciplined
    refine ⟨hWrites, ?_⟩
    cases hDisciplined with
    | lockRow above failing missing rest => exact h.lockRow hWrites hStore hProgram missing rest
    | countReferences held counts failing referenced rest =>
      exact h.countReferences hWrites hProgram held counts referenced rest
    | insert valid covered failing rest => exact h.insert hWrites hStore hProgram valid covered failing rest
    | update valid keyed held selected covered failing rest =>
      exact h.update hWrites hStore hProgram valid keyed held selected covered failing rest
    | delete above failing missing rest => exact h.delete hWrites hStore hProgram missing rest
  · rw [hProgram] at hCommit
    cases hCommit

end Query

section

variable (h : Live initial committed session facts)

include h

/-- A live session at its commit: the atomic run of its code on the committed
tables is the change it is about to publish. -/
theorem commit (hStore : WellFormed committed)
    {next : (Call.commit : Call S).Response → Tx S Error Answer} (hProgram : session.program = .call .commit next) :
    ∃ write value, session.writes = [write] ∧ write.Prepared facts session.locks ∧
      next (.ok ()) = .done (.ok value) ∧
      initial.atomically committed = (.ok value, write.apply committed) := by
  rcases h.stage with ⟨-, hDisciplined⟩ | ⟨write, hWrites, hPrepared, next', hCommit, ⟨value, hValue⟩, -⟩
  · rw [hProgram] at hDisciplined
    cases hDisciplined
  · rw [hProgram] at hCommit
    cases hCommit
    refine ⟨write, value, hWrites, hPrepared, hValue, ?_⟩
    rw [h.run committed hStore h.holds h.fits, hProgram, isolated_commit, hValue, hWrites]
    rfl

theorem rollback {result : Except Error Answer} (hProgram : session.program = .done result) :
    Fails (.done result : Tx S Error Answer) := by
  rcases h.stage with ⟨-, hDisciplined⟩ | ⟨write, -, -, next, hCommit, -⟩
  · rw [hProgram] at hDisciplined
    cases hDisciplined with
    | failed error => exact ⟨error, rfl⟩
  · rw [hProgram] at hCommit
    cases hCommit

/-- The commit of another session leaves a live session live. -/
theorem apply {facts' : List (Fact S)} (hPrepared : write.Prepared facts' locks)
    (hFacts : ∀ fact ∈ facts', fact.Holds committed) (hLocked : ∀ fact ∈ facts', fact.lock ∈ locks)
    (hLocks : ∀ lock ∈ locks, ∀ held ∈ session.locks, ¬ lock.Conflicts held)
    (hWrites : ∀ own ∈ session.writes, own.table = write.table → ∀ doc ∈ own.stored,
      ∀ new ∈ write.stored, S.clashes own.table doc new = false) :
    Live initial (write.apply committed) session facts where
  holds fact hFact := (h.holds fact hFact).apply hPrepared hFacts hLocked
    fun lock hLock => hLocks lock hLock _ (h.locked fact hFact)
  locked := h.locked
  backed := h.backed
  fits own hOwn := (h.fits own hOwn).apply fun hTable => hWrites own hOwn hTable.symm
  run := h.run
  stage := h.stage

end

end Live

end RowStore
