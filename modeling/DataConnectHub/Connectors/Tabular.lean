import DataConnectHub.Flight.Connectors
import DataConnectHub.Pool.Sessions
import DataConnectHub.RustStd.TryStream

/-! Reading rows from SQLite and from PostgreSQL. A reader takes a connection from
its pool, puts it into a state in which the database should refuse to write, runs
the query of the caller and turns the rows into batches. The two readers differ in
that state: a pragma of the connection, or a transaction. -/
namespace DataConnectHub.Connectors

open Flight Pool RustStd

variable {Row Batch Statement : Type}

/-- An error of the database, with its code. -/
structure DbError where
  code : Option String
  text : String
  deriving DecidableEq, Repr

abbrev Rows (Row : Type) := Except DbError (List Row)

/-- A call of `read_tabular` on a connection it has acquired. -/
abbrev Reading (Statement Row Batch : Type) :=
  Job Statement (Rows Row) (Yielded Batch ConnectorError Unit)

section Fetch

variable (rowsToBatch : List Row → Except ConnectorError Batch) (batchSize : Nat)

/-- The rows of one statement: those still waiting come first, and a batch is
yielded as soon as there are enough. -/
def pushRows : List Row → List Batch → List Row → Yielded Batch ConnectorError (List Row)
  | [], yielded, chunk => ⟨yielded, .ok chunk⟩
  | row :: rows, yielded, chunk =>
    if batchSize ≤ (chunk ++ [row]).length then
      match rowsToBatch (chunk ++ [row]) with
      | .error error => ⟨yielded, .error error⟩
      | .ok batch => pushRows rows (yielded ++ [batch]) []
    else pushRows rows yielded (chunk ++ [row])

/-- The loop over the rows of a query, statement by statement. An error ends it
by `failed`, the last row by `finished`. -/
def fetch (onError : DbError → ConnectorError) (guard : List Statement)
    (failed : List Batch → ConnectorError → Reading Statement Row Batch)
    (finished : List Batch → Reading Statement Row Batch) :
    List Statement → List Batch → List Row → Reading Statement Row Batch
  | [], yielded, chunk =>
    if chunk = [] then finished yielded
    else
      match rowsToBatch chunk with
      | .error error => failed yielded error
      | .ok batch => finished (yielded ++ [batch])
  | statement :: rest, yielded, chunk =>
    .call ⟨statement, guard⟩ fun
      | .error error => failed yielded (onError error)
      | .ok rows =>
        match pushRows rowsToBatch batchSize rows yielded chunk with
        | ⟨yielded, .error error⟩ => failed yielded error
        | ⟨yielded, .ok chunk⟩ => fetch onError guard failed finished rest yielded chunk

end Fetch

def ended (yielded : List Batch) (result : Except ConnectorError Unit) : Reading Statement Row Batch :=
  .done ⟨yielded, result⟩

section Sqlite

/-- SQLite. A text may hold several statements; they are executed in order, on the
connection that was acquired. -/
structure Sqlite (Contents Row : Type) where
  Session : Type
  Statement : Type
  engine : Engine Session Contents Statement (Rows Row)
  statements : String → List Statement

variable {Contents : Type} (sqlite : Sqlite Contents Row)

def queryOnlyText : String := "PRAGMA query_only = ON"

def sqliteError (error : DbError) : ConnectorError := .sqlError error.text

/-- `execute` of a text without looking at its rows. -/
def execute (next : Reading Statement Row Batch) : List Statement → Reading Statement Row Batch
  | [] => next
  | statement :: rest => .call ⟨statement, []⟩ fun
      | .error error => ended [] (.error (sqliteError error))
      | .ok _ => execute next rest

/-- `SqliteReader::read_tabular`. -/
def Sqlite.readTabular (rowsToBatch : List Row → Except ConnectorError Batch) (batchSize : Nat)
    (acquired : Except String Unit) (query : String) : Reading sqlite.Statement Row Batch :=
  match acquired with
  | .error error => ended [] (.error (.connectionError error))
  | .ok _ =>
    execute (fetch rowsToBatch batchSize sqliteError [] (fun yielded error => ended yielded (.error error))
        (fun yielded => ended yielded (.ok ())) (sqlite.statements query) [] [])
      (sqlite.statements queryOnlyText)

end Sqlite

section Postgres

/-- PostgreSQL. A text is prepared as one statement or refused. The other
statements are those the driver sends for a transaction. -/
structure Postgres (Contents Row : Type) where
  Session : Type
  Statement : Type
  engine : Engine Session Contents Statement (Rows Row)
  prepare : String → Statement
  begin : Statement
  commit : Statement
  rollback : Statement

variable {Contents : Type} (postgres : Postgres Contents Row)

def readOnlyText : String := "SET TRANSACTION READ ONLY"

def pgReadOnlySqlTransaction : String := "25006"

def mapSqlxError (error : DbError) : ConnectorError :=
  if error.code = some pgReadOnlySqlTransaction then .invalidRequest "data source is read-only"
  else .sqlError error.text

namespace Postgres

/-- A transaction that goes out of scope is rolled back. -/
def rolledBack (yielded : List Batch) (error : ConnectorError) : Reading postgres.Statement Row Batch :=
  .call ⟨postgres.rollback, [postgres.rollback]⟩ fun _ => ended yielded (.error error)

/-- `PgReader::read_tabular`. -/
def readTabular (rowsToBatch : List Row → Except ConnectorError Batch) (batchSize : Nat)
    (acquired : Except String Unit) (query : String) : Reading postgres.Statement Row Batch :=
  match acquired with
  | .error error => ended [] (.error (.connectionError error))
  | .ok _ =>
    .call ⟨postgres.begin, []⟩ fun
      | .error error => ended [] (.error (mapSqlxError error))
      | .ok _ => .call ⟨postgres.prepare readOnlyText, [postgres.rollback]⟩ fun
          | .error error => postgres.rolledBack [] (mapSqlxError error)
          | .ok _ =>
            fetch rowsToBatch batchSize mapSqlxError [postgres.rollback] postgres.rolledBack
              (fun yielded => .call ⟨postgres.commit, [postgres.rollback]⟩ fun
                | .error error => postgres.rolledBack yielded (mapSqlxError error)
                | .ok _ => ended yielded (.ok ()))
              [postgres.prepare query] [] []

end Postgres

end Postgres

end DataConnectHub.Connectors
