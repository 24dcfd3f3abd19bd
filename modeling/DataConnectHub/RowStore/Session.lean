import DataConnectHub.RowStore.Statement
import Mathlib.Logic.Function.Basic
import Mathlib.Logic.Relation

/-! Many sessions over one store, interleaved statement by statement under
READ COMMITTED. Each statement reads the tables committed when it executes,
with the session's own uncommitted changes on top. Row locks are kept until
the session commits or rolls back. A statement that needs a row locked in a
conflicting mode, or that runs into an uncommitted row version under a unique
index, has to wait: it executes only once nobody blocks it, and then answers
from the tables committed by that time. -/
namespace RowStore

variable {S : Schema} {Client Result : Type}

structure Lock (S : Schema) where
  table : S.Table
  key : S.Key
  mode : LockMode

def Lock.Conflicts (first second : Lock S) : Prop :=
  first.table = second.table ∧ first.key = second.key ∧ first.mode.conflicts second.mode = true

theorem Lock.Conflicts.symm {first second : Lock S} (h : first.Conflicts second) : second.Conflicts first :=
  ⟨h.1.symm, h.2.1.symm, by rw [LockMode.conflicts_symm]; exact h.2.2⟩

/-- The locks a statement takes on the rows it selects. Writing a row locks
it exclusively, as a `FOR UPDATE` read does. -/
def Statement.locks (store : Store S) : Statement S → List (Lock S)
  | .fetchRow table k filter (some mode) =>
    if (store table).any (S.selects k filter) then [⟨table, k, mode⟩] else []
  | .update table k filter _ =>
    if (store table).any (S.selects k filter) then [⟨table, k, .update⟩] else []
  | .delete table k filter =>
    if (store table).any (S.selects k filter) then [⟨table, k, .update⟩] else []
  | _ => []

/-- The row version a statement is about to enter into the indexes. -/
def Statement.stored (store : Store S) : Statement S → Option (S.Table × S.Doc)
  | .insert table doc => some (table, doc)
  | .update table k filter doc =>
    if (store table).any (S.selects k filter) then some (table, doc) else none
  | _ => none

/-- The new row version of an uncommitted change. -/
def Write.stored : Write S → List S.Doc
  | .insert _ doc => [doc]
  | .replace _ _ _ doc => [doc]
  | .remove .. => []

/-- The row versions of an uncommitted change that an index check of another
session waits for: the new one, and the committed ones it is to supersede. -/
def Write.versions (committed : Store S) : Write S → List S.Doc
  | .insert _ doc => [doc]
  | .replace table k filter doc => doc :: (committed table).filter (S.selects k filter)
  | .remove table k filter => (committed table).filter (S.selects k filter)

theorem Write.stored_subset_versions (committed : Store S) (write : Write S) :
    write.stored ⊆ write.versions committed := by
  cases write <;> simp [stored, versions]

structure Session (S : Schema) (Result : Type) where
  program : Transaction S Result
  locks : List (Lock S)
  writes : List (Write S)

/-- `log` records the sessions in the order in which they committed. -/
structure Config (S : Schema) (Client Result : Type) where
  committed : Store S
  sessions : Client → Session S Result
  log : List Client

namespace Config

def initial (store : Store S) (programs : Client → Transaction S Result) :
    Config S Client Result :=
  { committed := store, sessions := fun client => ⟨programs client, [], []⟩, log := [] }

/-- What a statement of the client reads. -/
def view (config : Config S Client Result) (client : Client) : Store S :=
  applyAll (config.sessions client).writes config.committed

/-- `other` keeps `client` from executing the statement. -/
def Blocks (config : Config S Client Result) (client : Client) (statement : Statement S)
    (other : Client) : Prop :=
  (∃ wanted ∈ statement.locks (config.view client), ∃ held ∈ (config.sessions other).locks, wanted.Conflicts held) ∨
  (∃ table doc, statement.stored (config.view client) = some (table, doc) ∧
    ∃ write ∈ (config.sessions other).writes, write.table = table ∧
      ∃ version ∈ write.versions config.committed, S.clashes table doc version = true)

/-- The next statement of `client` cannot execute because of `other`. -/
def WaitsFor (config : Config S Client Result) (client other : Client) : Prop :=
  client ≠ other ∧ ∃ statement next, (config.sessions client).program = .call (.query statement) next ∧
      config.Blocks client statement other

variable [DecidableEq Client]

def setSession (config : Config S Client Result) (client : Client) (session : Session S Result) :
    Config S Client Result :=
  { config with sessions := Function.update config.sessions client session }

/-- One step of one session. Any call may also fail without an effect, so
every session can abort at any statement, its commit included. -/
inductive Step : Config S Client Result → Config S Client Result → Prop where
  | begin {config : Config S Client Result} (client : Client)
      (next : (Call.begin : Call S).Response → Transaction S Result)
      (h : (config.sessions client).program = .call .begin next) :
      Step config (config.setSession client { config.sessions client with program := next (.ok ()) })
  | query {config : Config S Client Result} (client : Client) (statement : Statement S)
      (next : (Call.query statement).Response → Transaction S Result)
      (h : (config.sessions client).program = .call (.query statement) next)
      (free : ∀ other, other ≠ client → ¬ config.Blocks client statement other) :
      Step config (config.setSession client
        { program := next (statement.answer (config.view client))
          locks := (config.sessions client).locks ++ statement.locks (config.view client)
          writes := (config.sessions client).writes ++ statement.writes (config.view client) })
  | fault {config : Config S Client Result} (client : Client) (request : Call S)
      (next : request.Response → Transaction S Result) (failure : Failure)
      (h : (config.sessions client).program = .call request next) :
      Step config (config.setSession client { config.sessions client with program := next (.error failure) })
  | commit {config : Config S Client Result} (client : Client)
      (next : (Call.commit : Call S).Response → Transaction S Result)
      (h : (config.sessions client).program = .call .commit next) :
      Step config
        { committed := config.view client
          sessions := Function.update config.sessions client ⟨next (.ok ()), [], []⟩
          log := config.log ++ [client] }
  | rollback {config : Config S Client Result} (client : Client) (result : Result)
      (h : (config.sessions client).program = .done result) :
      Step config (config.setSession client ⟨.done result, [], []⟩)

/-- Any finite number of steps of any sessions, in any order. -/
abbrev Reaches : Config S Client Result → Config S Client Result → Prop :=
  Relation.ReflTransGen Step

section

variable (config : Config S Client Result) (client : Client) (session : Session S Result)

@[simp] theorem setSession_committed : (config.setSession client session).committed = config.committed := rfl

@[simp] theorem setSession_log : (config.setSession client session).log = config.log := rfl

@[simp] theorem setSession_self : (config.setSession client session).sessions client = session := by
  simp [setSession]

end

theorem setSession_other (config : Config S Client Result) {client other : Client}
    (session : Session S Result) (h : other ≠ client) :
    (config.setSession client session).sessions other = config.sessions other := by
  simp [setSession, h]

end Config
end RowStore
