import DataConnectHub.Interaction.Program
import Mathlib.Data.List.Pairwise

/-! Tables of documents with one key column, unique indexes and soft
references between rows. Statements select by key and filter, as a `WHERE`
clause does, and are answered from one snapshot of the tables. A transaction
is a program over statements, so its code is the same object whether it runs
alone or interleaved with others. -/
namespace RowStore

open Interaction

/-- What a store keeps. `key` is the value of the unique key column, with SQL
`NULL` as `none`; `clashes` says that two rows may not coexist under the
unique indexes of their table. `references` lists the rows a document points
to, without any database-level foreign key. `rank` is the order in which the
code locks rows of different tables. -/
structure Schema where
  Table : Type
  Doc : Type
  Key : Type
  tableEq : DecidableEq Table
  keyEq : DecidableEq Key
  key : Doc → Option Key
  clashes : Table → Doc → Doc → Bool
  clashes_symm : ∀ table first second, clashes table first second = clashes table second first
  clashes_of_key : ∀ table first second k, key first = some k → key second = some k → clashes table first second = true
  references : Table → Doc → List (Table × Key)
  valid : Table → Doc → Prop
  rank : Table → Nat

attribute [instance] Schema.tableEq Schema.keyEq

variable {S : Schema}

abbrev Store (S : Schema) := S.Table → List S.Doc

/-- `WHERE key = k AND filter`. -/
def Schema.selects (S : Schema) (k : S.Key) (filter : S.Doc → Bool) (doc : S.Doc) : Bool :=
  decide (S.key doc = some k) && filter doc

@[simp] theorem Schema.selects_iff (k : S.Key) (filter : S.Doc → Bool) (doc : S.Doc) :
    S.selects k filter doc = true ↔ S.key doc = some k ∧ filter doc = true := by
  simp [selects]

inductive LockMode where
  | share
  | update
  deriving DecidableEq, Repr

/-- `FOR SHARE` locks of one row coexist; `FOR UPDATE` excludes both. -/
def LockMode.conflicts : LockMode → LockMode → Bool
  | .share, .share => false
  | _, _ => true

theorem LockMode.update_conflicts (mode : LockMode) : LockMode.update.conflicts mode = true := by
  cases mode <;> rfl

theorem LockMode.conflicts_update (mode : LockMode) : mode.conflicts .update = true := by
  cases mode <;> rfl

theorem LockMode.conflicts_symm (first second : LockMode) : first.conflicts second = second.conflicts first := by
  cases first <;> cases second <;> rfl

/-- Why a statement was refused: a unique index, or anything else. -/
inductive Failure where
  | uniqueViolation
  | other
  deriving DecidableEq, Repr

inductive Statement (S : Schema) where
  | fetchAll (table : S.Table) (filter : S.Doc → Bool)
  | fetchRow (table : S.Table) (key : S.Key) (filter : S.Doc → Bool) (lock : Option LockMode)
  | count (table : S.Table) (filter : S.Doc → Bool)
  | insert (table : S.Table) (doc : S.Doc)
  | update (table : S.Table) (key : S.Key) (filter : S.Doc → Bool) (doc : S.Doc)
  | delete (table : S.Table) (key : S.Key) (filter : S.Doc → Bool)

/-- Rows for a read, the number of affected rows for a write. -/
@[reducible] def Statement.Value : Statement S → Type
  | .fetchAll .. => List S.Doc
  | .fetchRow .. => Option S.Doc
  | .count .. => Nat
  | .insert .. => Unit
  | .update .. => Nat
  | .delete .. => Nat

/-- A change of the tables that is visible to others only after a commit. -/
inductive Write (S : Schema) where
  | insert (table : S.Table) (doc : S.Doc)
  | replace (table : S.Table) (key : S.Key) (filter : S.Doc → Bool) (doc : S.Doc)
  | remove (table : S.Table) (key : S.Key) (filter : S.Doc → Bool)

/-- The rows of the changed table after the change. -/
def Write.rows (store : Store S) : Write S → List S.Doc
  | .insert table doc => store table ++ [doc]
  | .replace table k filter doc =>
    (store table).map fun row => if S.selects k filter row then doc else row
  | .remove table k filter => (store table).filter fun row => !S.selects k filter row

def Write.table : Write S → S.Table
  | .insert table _ => table
  | .replace table .. => table
  | .remove table .. => table

def Write.apply (store : Store S) (write : Write S) : Store S :=
  Function.update store write.table (write.rows store)

def applyAll (writes : List (Write S)) (store : Store S) : Store S :=
  writes.foldl Write.apply store

section

variable (store : Store S) (write : Write S)

@[simp] theorem applyAll_nil : applyAll [] store = store := rfl

@[simp] theorem applyAll_singleton : applyAll [write] store = write.apply store := rfl

theorem applyAll_append (first second : List (Write S)) :
    applyAll (first ++ second) store = applyAll second (applyAll first store) := by
  simp [applyAll]

theorem Write.apply_table : write.apply store write.table = write.rows store := by
  simp [apply]

theorem Write.apply_other {table : S.Table} (h : table ≠ write.table) : write.apply store table = store table := by
  simp [apply, h]

end

namespace Statement

/-- The row a writing statement would violate an index with. -/
def violates (store : Store S) : Statement S → Bool
  | .insert table doc => (store table).any (S.clashes table doc)
  | .update table k filter doc =>
    (store table).any (S.selects k filter) &&
      (store table).any fun row => !S.selects k filter row && S.clashes table doc row
  | _ => false

/-- The answer computed from one snapshot. An `UPDATE` or `DELETE` that
matches no row succeeds and reports zero affected rows. -/
def answer (store : Store S) : (statement : Statement S) → Except Failure statement.Value
  | .fetchAll table filter => .ok ((store table).filter filter)
  | .fetchRow table k filter _ => .ok ((store table).find? (S.selects k filter))
  | .count table filter => .ok ((store table).countP filter)
  | .insert table doc => if violates store (.insert table doc) then .error .uniqueViolation else .ok ()
  | .update table k filter doc =>
    if violates store (.update table k filter doc) then .error .uniqueViolation
    else .ok ((store table).countP (S.selects k filter))
  | .delete table k filter => .ok ((store table).countP (S.selects k filter))

/-- The changes the statement makes, none when it fails or matches no row. -/
def writes (store : Store S) : Statement S → List (Write S)
  | .insert table doc => if violates store (.insert table doc) then [] else [.insert table doc]
  | .update table k filter doc =>
    if violates store (.update table k filter doc) then []
    else if (store table).any (S.selects k filter) then [.replace table k filter doc] else []
  | .delete table k filter =>
    if (store table).any (S.selects k filter) then [.remove table k filter] else []
  | _ => []

end Statement

/-- What the code of a transaction asks the database for. -/
inductive Call (S : Schema) where
  | begin
  | commit
  | query (statement : Statement S)

@[reducible] def Call.Value : Call S → Type
  | .begin => Unit
  | .commit => Unit
  | .query statement => statement.Value

abbrev Call.Response (call : Call S) := Except Failure call.Value

/-- The code of one client of the store. -/
abbrev Transaction (S : Schema) (Result : Type) := Program (Call S) Call.Response Result

/-- A transaction that may fail. -/
abbrev Tx (S : Schema) (Error Answer : Type) := Transaction S (Except Error Answer)

namespace Transaction

variable {Result : Type}

/-- One call of a session that runs alone: the answer, the committed tables
and the session's own view of them afterwards. A fault changes nothing. -/
def serve (committed view : Store S) : Option Failure → (call : Call S) → call.Response × Store S × Store S
  | some failure, _ => (.error failure, committed, view)
  | none, .begin => (.ok (), committed, view)
  | none, .commit => (.ok (), view, view)
  | none, .query statement =>
    (statement.answer view, committed, applyAll (statement.writes view) view)

/-- Run alone against the tables. The call with number `n` fails when
`faults n` says so; whatever is not committed when the code returns is rolled
back. -/
def isolated (faults : Nat → Option Failure) : Transaction S Result → Store S → Store S → Result × Store S
  | .done result, committed, _ => (result, committed)
  | .call request next, committed, view =>
    let served := serve committed view (faults 0) request
    isolated (fun n => faults (n + 1)) (next served.1) served.2.1 served.2.2

/-- No call fails for a reason outside the tables. -/
def noFaults : Nat → Option Failure := fun _ => none

/-- The atomic meaning of a transaction. -/
def atomically (transaction : Transaction S Result) (store : Store S) : Result × Store S :=
  transaction.isolated noFaults store store

@[simp] theorem isolated_begin (next : (Call.begin : Call S).Response → Transaction S Result)
    (committed view : Store S) :
    isolated noFaults (.call .begin next) committed view = isolated noFaults (next (.ok ())) committed view := rfl

@[simp] theorem isolated_commit (next : (Call.commit : Call S).Response → Transaction S Result)
    (committed view : Store S) :
    isolated noFaults (.call .commit next) committed view = isolated noFaults (next (.ok ())) view view := rfl

@[simp] theorem isolated_query (statement : Statement S) (next : (Call.query statement).Response → Transaction S Result)
    (committed view : Store S) :
    isolated noFaults (.call (.query statement) next) committed view =
      isolated noFaults (next (statement.answer view)) committed (applyAll (statement.writes view) view) := rfl

end Transaction
end RowStore
