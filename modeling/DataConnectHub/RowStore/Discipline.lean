import DataConnectHub.RowStore.Session

/-! A locking discipline for transactions. A session reads rows only under
row locks, counts the references to a row only while holding that row
exclusively, and stores a reference only to a row it has locked or that the
replaced version already referred to. It locks tables in the order of their
rank, one row of each, and ends with one write and a commit. Commit-order
serializability of such sessions is proved in `RowStore.Serializability`, and
freedom of deadlock in `RowStore.WaitFor`. -/
namespace RowStore

open List

variable {S : Schema} {Error Answer : Type}

/-- What a session has learned from the tables and relies on until it
commits. A `row` fact rests on a lock of that row; an `unreferenced` fact on
an exclusive lock of the row nobody in `source` refers to. -/
inductive Fact (S : Schema) where
  | row (table : S.Table) (key : S.Key) (mode : LockMode) (doc : S.Doc)
  | unreferenced (source table : S.Table) (key : S.Key)

def Fact.Holds (store : Store S) : Fact S → Prop
  | .row table k _ doc => doc ∈ store table ∧ S.key doc = some k
  | .unreferenced source table k => ∀ doc ∈ store source, (table, k) ∉ S.references source doc

def Fact.lock : Fact S → Lock S
  | .row table k mode _ => ⟨table, k, mode⟩
  | .unreferenced _ table k => ⟨table, k, .update⟩

/-- The unique indexes hold, and every row has the shape its table expects. -/
structure WellFormed (store : Store S) : Prop where
  unique : ∀ table, (store table).Pairwise fun first second => S.clashes table first second = false
  valid : ∀ table, ∀ doc ∈ store table, S.valid table doc

theorem WellFormed.empty : WellFormed (fun _ => [] : Store S) :=
  ⟨fun _ => List.Pairwise.nil, fun _ _ h => by cases h⟩

variable {store : Store S} {k : S.Key} {doc : S.Doc} {filter : S.Doc → Bool}

section

variable (h : WellFormed store) {table : S.Table}

include h

/-- A key column value belongs to at most one row. -/
theorem WellFormed.eq_of_key {first second : S.Doc} (hFirst : first ∈ store table) (hSecond : second ∈ store table)
    (hk : S.key first = some k) (hk' : S.key second = some k) : first = second := by
  by_contra hne
  have hClash := S.clashes_of_key table first second k hk hk'
  have hSymm : Std.Symm fun first second => S.clashes table first second = false :=
    ⟨fun a b hab => by rw [S.clashes_symm]; exact hab⟩
  have hApart := (h.unique table).forall hFirst hSecond hne
  rw [hClash] at hApart
  cases hApart

theorem WellFormed.find_eq (hDoc : doc ∈ store table) (hk : S.key doc = some k) (hf : filter doc = true) :
    (store table).find? (S.selects k filter) = some doc := by
  cases hFind : (store table).find? (S.selects k filter) with
  | none =>
    have hNot := find?_eq_none.mp hFind doc hDoc
    exact absurd ((S.selects_iff k filter doc).mpr ⟨hk, hf⟩) hNot
  | some found =>
    have hSelected := (S.selects_iff k filter found).mp (find?_some hFind)
    rw [h.eq_of_key (mem_of_find?_eq_some hFind) hDoc hSelected.1 hk]

theorem WellFormed.countP_eq_one (hDoc : doc ∈ store table) (hk : S.key doc = some k) (hf : filter doc = true) :
    (store table).countP (S.selects k filter) = 1 := by
  obtain ⟨before, after, hSplit⟩ := append_of_mem hDoc
  have hUnique := h.unique table
  rw [hSplit, pairwise_append] at hUnique
  obtain ⟨-, hTail, hCross⟩ := hUnique
  have hNone : ∀ other, S.clashes table doc other = false → S.selects k filter other = false := by
    intro other hApart
    rw [Bool.eq_false_iff]
    intro hSelected
    have hClash := S.clashes_of_key table doc other k hk ((S.selects_iff k filter other).mp hSelected).1
    rw [hApart] at hClash
    cases hClash
  have hBefore : before.countP (S.selects k filter) = 0 := by
    rw [countP_eq_zero]
    intro other hOther
    rw [hNone other (by rw [S.clashes_symm]; exact hCross other hOther doc (mem_cons_self ..))]
    simp
  have hAfter : after.countP (S.selects k filter) = 0 := by
    rw [countP_eq_zero]
    intro other hOther
    rw [hNone other (rel_of_pairwise_cons hTail hOther)]
    simp
  have hHere : S.selects k filter doc = true := (S.selects_iff k filter doc).mpr ⟨hk, hf⟩
  rw [hSplit, countP_append, hBefore, countP_cons_of_pos hHere, hAfter]

end

/-- The code returns an error; whatever it did is rolled back. -/
def Fails (transaction : Tx S Error Answer) : Prop :=
  ∃ error, transaction = .done (.error error)

/-- The code commits and returns a value, unless the commit itself fails. -/
def Commits (transaction : Tx S Error Answer) : Prop :=
  ∃ next, transaction = .call .commit next ∧
    (∃ value, next (.ok ()) = .done (.ok value)) ∧ ∀ failure, Fails (next (.error failure))

/-- A row of the table is locked after everything the session relies on. -/
def Above (table : S.Table) (facts : List (Fact S)) : Prop :=
  ∀ fact ∈ facts, S.rank fact.lock.table < S.rank table

/-- The discipline, for a session that already relies on `facts`. Failed
calls, rows that are not found and rows still referenced all end in an error,
so only the answers a later commit depends on add facts. -/
inductive Disciplined : List (Fact S) → Tx S Error Answer → Prop where
  | failed {facts : List (Fact S)} (error : Error) : Disciplined facts (.done (.error error))
  | begin {facts : List (Fact S)}
      {next : (Call.begin : Call S).Response → Tx S Error Answer}
      (failing : ∀ failure, Fails (next (.error failure)))
      (rest : Disciplined facts (next (.ok ()))) : Disciplined facts (.call .begin next)
  | lockRow {facts : List (Fact S)} {table : S.Table} {k : S.Key} {filter : S.Doc → Bool}
      {mode : LockMode}
      {next : (Call.query (.fetchRow table k filter (some mode))).Response → Tx S Error Answer}
      (above : Above table facts)
      (failing : ∀ failure, Fails (next (.error failure)))
      (missing : Fails (next (.ok (none : Option S.Doc))))
      (rest : ∀ doc, S.key doc = some k → filter doc = true → S.valid table doc →
        Disciplined (.row table k mode doc :: facts) (next (.ok (some doc)))) :
      Disciplined facts (.call (.query (.fetchRow table k filter (some mode))) next)
  | countReferences {facts : List (Fact S)} {source target : S.Table} {k : S.Key} {doc : S.Doc}
      {filter : S.Doc → Bool}
      {next : (Call.query (.count source filter)).Response → Tx S Error Answer}
      (held : .row target k .update doc ∈ facts)
      (counts : ∀ other, filter other = true ↔ (target, k) ∈ S.references source other)
      (failing : ∀ failure, Fails (next (.error failure)))
      (referenced : ∀ n : Nat, Fails (next (.ok (n + 1 : Nat))))
      (rest : Disciplined (.unreferenced source target k :: facts) (next (.ok (0 : Nat)))) :
      Disciplined facts (.call (.query (.count source filter)) next)
  | insert {facts : List (Fact S)} {table : S.Table} {doc : S.Doc}
      {next : (Call.query (.insert table doc)).Response → Tx S Error Answer}
      (valid : S.valid table doc)
      (covered : ∀ target ∈ S.references table doc, ∃ mode row, .row target.1 target.2 mode row ∈ facts)
      (failing : ∀ failure, Fails (next (.error failure)))
      (rest : Commits (next (.ok ()))) : Disciplined facts (.call (.query (.insert table doc)) next)
  | update {facts : List (Fact S)} {table : S.Table} {k : S.Key} {filter : S.Doc → Bool}
      {doc old : S.Doc}
      {next : (Call.query (.update table k filter doc)).Response → Tx S Error Answer}
      (valid : S.valid table doc) (keyed : S.key doc = some k)
      (held : .row table k .update old ∈ facts) (selected : filter old = true)
      (covered : ∀ target ∈ S.references table doc, target ∈ S.references table old ∨
        ∃ mode row, .row target.1 target.2 mode row ∈ facts)
      (failing : ∀ failure, Fails (next (.error failure)))
      (rest : Commits (next (.ok (1 : Nat)))) :
      Disciplined facts (.call (.query (.update table k filter doc)) next)
  | delete {facts : List (Fact S)} {table : S.Table} {k : S.Key} {filter : S.Doc → Bool}
      {next : (Call.query (.delete table k filter)).Response → Tx S Error Answer}
      (above : Above table facts ∨ ∃ old, .row table k .update old ∈ facts)
      (failing : ∀ failure, Fails (next (.error failure)))
      (missing : Fails (next (.ok (0 : Nat)))) (rest : Commits (next (.ok (1 : Nat)))) :
      Disciplined facts (.call (.query (.delete table k filter)) next)

/-- A failed call ends a disciplined session with an error. -/
theorem Disciplined.fails_of_fault {facts : List (Fact S)} {request : Call S}
    {next : request.Response → Tx S Error Answer} (h : Disciplined facts (.call request next)) (failure : Failure) :
    Fails (next (.error failure)) := by
  cases h with
  | begin failing rest | lockRow above failing missing rest | countReferences held counts failing referenced rest
  | insert valid covered failing rest | update valid keyed held selected covered failing rest
  | delete above failing missing rest => exact failing failure

section Map

variable {Answer' : Type}

/-- Rename the value a transaction returns. -/
def Transaction.mapAnswer (rename : Answer → Answer') (transaction : Tx S Error Answer) :
    Transaction S (Except Error Answer') :=
  transaction.bind fun result => .done (result.map rename)

theorem Transaction.isolated_mapAnswer (rename : Answer → Answer') (faults : Nat → Option Failure)
    (transaction : Tx S Error Answer) (committed view : Store S) :
    isolated faults (mapAnswer rename transaction) committed view =
      ((isolated faults transaction committed view).1.map rename, (isolated faults transaction committed view).2) := by
  induction transaction generalizing faults committed view with
  | done result => rfl
  | call request next ih =>
    exact ih (serve committed view (faults 0) request).1 (fun n => faults (n + 1))
      (serve committed view (faults 0) request).2.1 (serve committed view (faults 0) request).2.2

variable {transaction : Tx S Error Answer}

theorem Fails.map (h : Fails transaction) (rename : Answer → Answer') : Fails (transaction.mapAnswer rename) := by
  obtain ⟨error, rfl⟩ := h
  exact ⟨error, rfl⟩

theorem Commits.map (h : Commits transaction) (rename : Answer → Answer') : Commits (transaction.mapAnswer rename) := by
  obtain ⟨next, rfl, ⟨value, hValue⟩, hFails⟩ := h
  refine ⟨fun answer => Transaction.mapAnswer rename (next answer), rfl, ⟨rename value, ?_⟩, ?_⟩
  · change Transaction.mapAnswer rename (next (.ok ())) = _
    rw [hValue]
    rfl
  · exact fun failure => (hFails failure).map rename

theorem Disciplined.map {facts : List (Fact S)} (h : Disciplined facts transaction) (rename : Answer → Answer') :
    Disciplined facts (transaction.mapAnswer rename) := by
  induction h with
  | failed error => exact .failed error
  | begin failing rest ih => exact .begin (fun failure => (failing failure).map rename) ih
  | lockRow above failing missing rest ih =>
    exact .lockRow above (fun failure => (failing failure).map rename) (missing.map rename) ih
  | countReferences held counts failing referenced rest ih =>
    exact .countReferences held counts (fun failure => (failing failure).map rename)
      (fun n => (referenced n).map rename) ih
  | insert valid covered failing rest =>
    exact .insert valid covered (fun failure => (failing failure).map rename) (rest.map rename)
  | update valid keyed held selected covered failing rest =>
    exact .update valid keyed held selected covered (fun failure => (failing failure).map rename) (rest.map rename)
  | delete above failing missing rest =>
    exact .delete above (fun failure => (failing failure).map rename) (missing.map rename) (rest.map rename)

end Map

end RowStore
