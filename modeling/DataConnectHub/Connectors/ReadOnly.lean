import DataConnectHub.Connectors.Tabular

/-! Whether reading leaves the data source as it was. On PostgreSQL it does: the
query runs alone in a transaction that refuses to write. On SQLite the protection
is a pragma of the connection, and a statement of the query may turn it off before
the next one writes. -/
namespace DataConnectHub.Connectors

open Flight Pool

variable {Contents Row Batch : Type}

section Protection

/-- What SQLite documents of `query_only`. A session may have changes that are not
committed yet. -/
structure Sqlite.Protection (sqlite : Sqlite Contents Row) where
  queryOnly : sqlite.Session → Bool
  pending : sqlite.Session → Bool
  writes : sqlite.Statement → Bool
  sets : sqlite.Statement → Option Bool
  fresh : pending sqlite.engine.fresh = false
  /-- While the pragma is on, nothing is written. Nor does a statement write that
  is no writing statement, unless it commits what is pending. -/
  refused : ∀ {statement session contents}, pending session = false →
    queryOnly session = true ∨ writes statement = false →
    (sqlite.engine.exec statement session contents).2.2 = contents ∧
      pending (sqlite.engine.exec statement session contents).2.1 = false
  set : ∀ {statement session contents value rows}, sets statement = some value →
    (sqlite.engine.exec statement session contents).1 = .ok rows →
    queryOnly (sqlite.engine.exec statement session contents).2.1 = value
  kept : ∀ {statement session contents}, sets statement = none →
    queryOnly (sqlite.engine.exec statement session contents).2.1 = queryOnly session
  pragma : ∃ statement, sqlite.statements queryOnlyText = [statement] ∧ sets statement = some true ∧
    writes statement = false

/-- No statement writes after one that turned the pragma off and before one that
turns it on. -/
def Sqlite.Protection.guarded {sqlite : Sqlite Contents Row} (protection : sqlite.Protection) :
    Bool → List sqlite.Statement → Bool
  | _, [] => true
  | queryOnly, statement :: rest =>
    (queryOnly || !protection.writes statement) && guarded protection ((protection.sets statement).getD queryOnly) rest

/-- What PostgreSQL documents of read-only transactions. -/
structure Postgres.Protection (postgres : Postgres Contents Row) where
  inTransaction : postgres.Session → Bool
  readOnly : postgres.Session → Bool
  pending : postgres.Session → Bool
  fresh : pending postgres.engine.fresh = false
  refused : ∀ {statement session contents}, pending session = false → readOnly session = true →
    (postgres.engine.exec statement session contents).2.2 = contents ∧
      pending (postgres.engine.exec statement session contents).2.1 = false
  /-- The statements around the query write nothing themselves. -/
  bracket : ∀ {session contents}, pending session = false →
    ∀ statement ∈ [postgres.begin, postgres.prepare readOnlyText, postgres.commit, postgres.rollback],
    (postgres.engine.exec statement session contents).2.2 = contents ∧
      pending (postgres.engine.exec statement session contents).2.1 = false
  begun : ∀ {session contents rows}, (postgres.engine.exec postgres.begin session contents).1 = .ok rows →
    inTransaction (postgres.engine.exec postgres.begin session contents).2.1 = true
  set : ∀ {session contents rows}, inTransaction session = true →
    (postgres.engine.exec (postgres.prepare readOnlyText) session contents).1 = .ok rows →
    readOnly (postgres.engine.exec (postgres.prepare readOnlyText) session contents).2.1 = true

end Protection

section Runs

variable (rowsToBatch : List Row → Except ConnectorError Batch)

/-- A turn of the calls that share the connections of one pool. -/
inductive CallTurn where
  | start (connection : Nat) (query : String) (batchSize : Nat)
  | advance (connection : Nat)
  | abandon (connection : Nat)

def CallTurn.turn {Statement : Type} (read : Nat → Except String Unit → String → Reading Statement Row Batch) :
    CallTurn → Turn (Reading Statement Row Batch)
  | .start connection query batchSize => .start connection (read batchSize (.ok ()) query)
  | .advance connection => .advance connection
  | .abandon connection => .abandon connection

def Sqlite.contentsAfter (sqlite : Sqlite Contents Row) (turns : List CallTurn) (contents : Contents) : Contents :=
  ((turns.map (CallTurn.turn (sqlite.readTabular rowsToBatch))).foldl sqlite.engine.step
    (sqlite.engine.initial contents)).contents

def Postgres.contentsAfter (postgres : Postgres Contents Row) (turns : List CallTurn) (contents : Contents) :
    Contents :=
  ((turns.map (CallTurn.turn (postgres.readTabular rowsToBatch))).foldl postgres.engine.step
    (postgres.engine.initial contents)).contents

end Runs

section SqliteCalls

variable {sqlite : Sqlite Contents Row} (protection : sqlite.Protection)
  {rowsToBatch : List Row → Except ConnectorError Batch} {batchSize : Nat}

/-- Between calls nothing is pending. -/
abbrev Sqlite.Protection.Idle (session : sqlite.Session) : Prop := protection.pending session = false

variable {session : sqlite.Session}

theorem Sqlite.Protection.settles_nil (h : protection.Idle session) :
    sqlite.engine.Settles protection.Idle session [] :=
  fun _ => ⟨rfl, h⟩

/-- The state of the pragma after a statement that succeeded. -/
theorem Sqlite.Protection.queryOnly_after {statement : sqlite.Statement} {contents : Contents} {rows : List Row}
    (h : (sqlite.engine.exec statement session contents).1 = .ok rows) :
    protection.queryOnly (sqlite.engine.exec statement session contents).2.1 =
      (protection.sets statement).getD (protection.queryOnly session) := by
  cases hSets : protection.sets statement with
  | some value => exact protection.set hSets h
  | none => exact protection.kept hSets

theorem Sqlite.Protection.harmless_fetch {statements : List sqlite.Statement} {yielded : List Batch}
    {chunk : List Row} (hIdle : protection.Idle session)
    (hGuarded : protection.guarded (protection.queryOnly session) statements = true) :
    sqlite.engine.Harmless protection.Idle session
      (fetch rowsToBatch batchSize sqliteError [] (fun yielded error => ended yielded (.error error))
        (fun yielded => ended yielded (.ok ())) statements yielded chunk) := by
  induction statements generalizing session yielded chunk with
  | nil =>
    rw [fetch]
    split
    · exact hIdle
    · split <;> exact hIdle
  | cons statement rest ih =>
    rw [guarded, Bool.and_eq_true, Bool.or_eq_true, Bool.not_eq_true'] at hGuarded
    rw [fetch]
    refine ⟨protection.settles_nil hIdle, fun contents => ?_⟩
    obtain ⟨hContents, hPending⟩ := protection.refused hIdle hGuarded.1
    refine ⟨hContents, ?_⟩
    cases hAnswer : (sqlite.engine.exec statement session contents).1 with
    | error error => exact hPending
    | ok rows =>
      have hNext := hGuarded.2
      rw [← protection.queryOnly_after hAnswer] at hNext
      simp only
      split
      · exact hPending
      · exact ih hPending hNext

theorem Sqlite.Protection.harmless_readTabular {query : String}
    (hGuarded : protection.guarded true (sqlite.statements query) = true) (hIdle : protection.Idle session) :
    sqlite.engine.Harmless protection.Idle session (sqlite.readTabular rowsToBatch batchSize (.ok ()) query) := by
  obtain ⟨pragma, hPragma, hSets, hWrites⟩ := protection.pragma
  rw [readTabular, hPragma]
  refine ⟨protection.settles_nil hIdle, fun contents => ?_⟩
  obtain ⟨hContents, hPending⟩ := protection.refused hIdle (.inr hWrites)
  refine ⟨hContents, ?_⟩
  cases hAnswer : (sqlite.engine.exec pragma session contents).1 with
  | error error => exact hPending
  | ok rows =>
    refine protection.harmless_fetch hPending ?_
    rw [protection.set hSets hAnswer]
    exact hGuarded

end SqliteCalls

section PostgresCalls

variable {postgres : Postgres Contents Row} (protection : postgres.Protection)
  {rowsToBatch : List Row → Except ConnectorError Batch} {batchSize : Nat}

abbrev Postgres.Protection.Idle (session : postgres.Session) : Prop := protection.pending session = false

variable {session : postgres.Session} {yielded : List Batch} {query : String}

theorem Postgres.Protection.settles_rollback (h : protection.Idle session) :
    postgres.engine.Settles protection.Idle session [postgres.rollback] :=
  fun _ => protection.bracket h postgres.rollback (by simp)

theorem Postgres.Protection.harmless_rolledBack {error : ConnectorError} (h : protection.Idle session) :
    postgres.engine.Harmless protection.Idle session (postgres.rolledBack yielded error) :=
  ⟨protection.settles_rollback h, fun _ => protection.bracket h postgres.rollback (by simp)⟩

theorem Postgres.Protection.harmless_commit (h : protection.Idle session) :
    postgres.engine.Harmless protection.Idle session (.call ⟨postgres.commit, [postgres.rollback]⟩ fun
      | .error error => postgres.rolledBack yielded (mapSqlxError error)
      | .ok _ => ended yielded (.ok ())) := by
  refine ⟨protection.settles_rollback h, fun contents => ?_⟩
  obtain ⟨hContents, hPending⟩ := protection.bracket h postgres.commit (by simp)
  refine ⟨hContents, ?_⟩
  cases (postgres.engine.exec postgres.commit session contents).1 with
  | error error => exact protection.harmless_rolledBack hPending
  | ok rows => exact hPending

/-- The query itself, in a transaction that is read-only. -/
theorem Postgres.Protection.harmless_query (hIdle : protection.Idle session)
    (hReadOnly : protection.readOnly session = true) :
    postgres.engine.Harmless protection.Idle session
      (fetch rowsToBatch batchSize mapSqlxError [postgres.rollback] postgres.rolledBack
        (fun yielded => .call ⟨postgres.commit, [postgres.rollback]⟩ fun
          | .error error => postgres.rolledBack yielded (mapSqlxError error)
          | .ok _ => ended yielded (.ok ()))
        [postgres.prepare query] [] []) := by
  refine ⟨protection.settles_rollback hIdle, fun contents => ?_⟩
  obtain ⟨hContents, hPending⟩ := protection.refused hIdle hReadOnly
  refine ⟨hContents, ?_⟩
  cases (postgres.engine.exec (postgres.prepare query) session contents).1 with
  | error error => exact protection.harmless_rolledBack hPending
  | ok rows =>
    simp only
    split
    · exact protection.harmless_rolledBack hPending
    · rw [fetch]
      split
      · exact protection.harmless_commit hPending
      · split
        · exact protection.harmless_rolledBack hPending
        · exact protection.harmless_commit hPending

/-- The query is the only statement between the one that makes the transaction
read-only and the end of the transaction. -/
theorem Postgres.Protection.harmless_readTabular (hIdle : protection.Idle session) :
    postgres.engine.Harmless protection.Idle session (postgres.readTabular rowsToBatch batchSize (.ok ()) query) := by
  refine ⟨fun _ => ⟨rfl, hIdle⟩, fun begun => ?_⟩
  obtain ⟨hBegin, hBegun⟩ := protection.bracket hIdle postgres.begin (by simp)
  refine ⟨hBegin, ?_⟩
  cases hOpened : (postgres.engine.exec postgres.begin session begun).1 with
  | error error => exact hBegun
  | ok rows =>
    refine ⟨protection.settles_rollback hBegun, fun contents => ?_⟩
    obtain ⟨hSet, hPending⟩ := protection.bracket hBegun (postgres.prepare readOnlyText) (by simp)
    refine ⟨hSet, ?_⟩
    cases hAnswer : (postgres.engine.exec (postgres.prepare readOnlyText)
      (postgres.engine.exec postgres.begin session begun).2.1 contents).1 with
    | error error => exact protection.harmless_rolledBack hPending
    | ok rows => exact protection.harmless_query hPending (protection.set (protection.begun hOpened) hAnswer)

end PostgresCalls

/-- Calls that are harmless on an idle connection leave the contents alone. -/
theorem contents_of_calls {Session Statement : Type} {engine : Engine Session Contents Statement (Rows Row)}
    {read : Nat → Except String Unit → String → Reading Statement Row Batch} {Idle : Session → Prop}
    (hFresh : Idle engine.fresh) {turns : List CallTurn}
    (hCalls : ∀ connection query batchSize, .start connection query batchSize ∈ turns →
      ∀ session, Idle session → engine.Harmless Idle session (read batchSize (.ok ()) query))
    (contents : Contents) :
    ((turns.map (CallTurn.turn read)).foldl engine.step (engine.initial contents)).contents = contents := by
  refine Engine.contents_of_harmless hFresh (fun connection job hMem => ?_) contents
  obtain ⟨turn, hTurn, hStart⟩ := List.mem_map.mp hMem
  cases turn with
  | start other query batchSize =>
    obtain ⟨rfl, rfl⟩ := Turn.start.inj hStart
    exact hCalls _ query batchSize hTurn
  | advance other | abandon other => cases hStart

/-- Reading leaves the contents of the source as they were, whatever the queries
are and however the calls share connections: on PostgreSQL always, and on SQLite if
no query writes after it turned `query_only` off. -/
theorem readTabular_preserves_contents {PgContents PgRow PgBatch : Type} {sqlite : Sqlite Contents Row}
    (protection : sqlite.Protection) {postgres : Postgres PgContents PgRow} (pgProtection : postgres.Protection)
    (rowsToBatch : List Row → Except ConnectorError Batch)
    (pgRowsToBatch : List PgRow → Except ConnectorError PgBatch) (turns pgTurns : List CallTurn)
    (contents : Contents) (pgContents : PgContents)
    (hGuarded : ∀ connection query batchSize, .start connection query batchSize ∈ turns →
      protection.guarded true (sqlite.statements query) = true) :
    sqlite.contentsAfter rowsToBatch turns contents = contents ∧
    postgres.contentsAfter pgRowsToBatch pgTurns pgContents = pgContents := by
  have hFresh : protection.Idle sqlite.engine.fresh := protection.fresh
  have hPgFresh : pgProtection.Idle postgres.engine.fresh := pgProtection.fresh
  exact ⟨contents_of_calls hFresh (fun connection query batchSize hStart session =>
      protection.harmless_readTabular (hGuarded connection query batchSize hStart)) contents,
    contents_of_calls hPgFresh (fun _ _ _ _ _ => pgProtection.harmless_readTabular) pgContents⟩

section Sample

/-- The statements of a small SQL, over one table of texts. -/
inductive SmallStatement where
  | queryOnly (on : Bool)
  | readOnly
  | begin
  | commit
  | rollback
  | select
  | delete
  | unknown
  deriving DecidableEq

/-- A session: whether it may write, and the transaction it is in, with the
contents that the transaction would commit if it has changed them. -/
structure SmallSession where
  refuses : Bool
  transaction : Option (Option (List String))

namespace SmallSession

def pending (session : SmallSession) : Bool :=
  session.transaction.any Option.isSome

def failed (session : SmallSession) (contents : List String) (code : Option String) (text : String) :
    Rows String × SmallSession × List String :=
  (.error ⟨code, text⟩, session, contents)

def exec : SmallStatement → SmallSession → List String → Rows String × SmallSession × List String
  | .queryOnly on, session, contents => (.ok [], { session with refuses := on }, contents)
  | .readOnly, session, contents => (.ok [], { session with refuses := true }, contents)
  | .begin, ⟨refuses, none⟩, contents => (.ok [], ⟨refuses, some none⟩, contents)
  | .commit, ⟨refuses, some changed⟩, contents => (.ok [], ⟨refuses, none⟩, changed.getD contents)
  | .rollback, ⟨refuses, some _⟩, contents => (.ok [], ⟨refuses, none⟩, contents)
  | .select, session, contents => (.ok ((session.transaction.bind id).getD contents), session, contents)
  | .delete, ⟨true, transaction⟩, contents =>
    failed ⟨true, transaction⟩ contents (some pgReadOnlySqlTransaction) "attempt to write a readonly database"
  | .delete, ⟨false, none⟩, _ => (.ok [], ⟨false, none⟩, [])
  | .delete, ⟨false, some _⟩, contents => (.ok [], ⟨false, some (some [])⟩, contents)
  | _, session, contents => failed session contents none "cannot execute statement"

end SmallSession

def SmallStatement.writes : SmallStatement → Bool
  | .delete => true
  | _ => false

def SmallStatement.parse (text : List Char) : SmallStatement :=
  match String.ofList (text.dropWhile (· = ' ')) with
  | "PRAGMA query_only = ON" => .queryOnly true
  | "PRAGMA query_only = OFF" => .queryOnly false
  | "SET TRANSACTION READ ONLY" => .readOnly
  | "BEGIN" => .begin
  | "COMMIT" => .commit
  | "ROLLBACK" => .rollback
  | "SELECT * FROM t" => .select
  | "DELETE FROM t" => .delete
  | _ => .unknown

def SmallStatement.parseAll (text : String) : List SmallStatement :=
  (text.toList.splitOn ';').map parse

variable {statement : SmallStatement} {session : SmallSession} {contents : List String}

theorem SmallSession.exec_refused (hPending : session.pending = false)
    (h : session.refuses = true ∨ statement.writes = false) :
    (SmallSession.exec statement session contents).2.2 = contents ∧
      (SmallSession.exec statement session contents).2.1.pending = false := by
  obtain ⟨refuses, transaction⟩ := session
  obtain _ | (_ | changed) := transaction
  · cases refuses <;> cases statement <;> first | exact ⟨rfl, rfl⟩ | exact absurd h (by decide)
  · cases refuses <;> cases statement <;> first | exact ⟨rfl, rfl⟩ | exact absurd h (by decide)
  · cases hPending

theorem SmallSession.exec_refuses (hPragma : ∀ on, statement ≠ .queryOnly on) (hReadOnly : statement ≠ .readOnly) :
    (SmallSession.exec statement session contents).2.1.refuses = session.refuses := by
  obtain ⟨refuses, transaction⟩ := session
  cases statement with
  | queryOnly on => exact absurd rfl (hPragma on)
  | readOnly => exact absurd rfl hReadOnly
  | delete => cases refuses <;> cases transaction <;> rfl
  | _ => cases transaction <;> rfl

theorem parseAll_queryOnlyText : SmallStatement.parseAll queryOnlyText = [.queryOnly true] := by
  decide +kernel

theorem parse_readOnlyText : SmallStatement.parse readOnlyText.toList = .readOnly := by
  decide +kernel

def smallSqlite : Sqlite (List String) String where
  Session := SmallSession
  Statement := SmallStatement
  engine := { fresh := ⟨false, none⟩, exec := SmallSession.exec }
  statements := SmallStatement.parseAll

def smallSqliteProtection : smallSqlite.Protection where
  queryOnly := SmallSession.refuses
  pending := SmallSession.pending
  writes := SmallStatement.writes
  sets
    | .queryOnly on => some on
    | .readOnly => some true
    | _ => none
  fresh := rfl
  refused := SmallSession.exec_refused
  set := by
    intro statement session contents value rows hSets _
    cases statement with
    | queryOnly on =>
      cases hSets
      rfl
    | readOnly =>
      cases hSets
      rfl
    | _ => cases hSets
  kept := by
    intro statement session contents hSets
    cases statement with
    | queryOnly on => cases hSets
    | readOnly => cases hSets
    | _ => exact SmallSession.exec_refuses (by decide) (by decide)
  pragma := ⟨.queryOnly true, parseAll_queryOnlyText, rfl, rfl⟩

/-- The same statements in PostgreSQL: a transaction is read-only until it ends. -/
def SmallSession.pgExec : SmallStatement → SmallSession → List String → Rows String × SmallSession × List String
  | .queryOnly _, session, contents => failed session contents none "unrecognized statement"
  | .readOnly, ⟨_, some changed⟩, contents => (.ok [], ⟨true, some changed⟩, contents)
  | .readOnly, session, contents => (.ok [], session, contents)
  | .commit, session, contents =>
    let (answer, session, contents) := exec .commit session contents
    (answer, { session with refuses := false }, contents)
  | .rollback, session, contents =>
    let (answer, session, contents) := exec .rollback session contents
    (answer, { session with refuses := false }, contents)
  | statement, session, contents => exec statement session contents

theorem SmallSession.pgExec_refused (hPending : session.pending = false)
    (h : session.refuses = true ∨ statement.writes = false) :
    (SmallSession.pgExec statement session contents).2.2 = contents ∧
      (SmallSession.pgExec statement session contents).2.1.pending = false := by
  have hExec := @SmallSession.exec_refused statement session contents hPending h
  cases statement with
  | queryOnly on => exact ⟨rfl, hPending⟩
  | readOnly =>
    obtain ⟨refuses, transaction⟩ := session
    cases transaction <;> exact ⟨rfl, hPending⟩
  | _ => exact hExec

def smallPostgres : Postgres (List String) String where
  Session := SmallSession
  Statement := SmallStatement
  engine := { fresh := ⟨false, none⟩, exec := SmallSession.pgExec }
  prepare query := SmallStatement.parse query.toList
  begin := .begin
  commit := .commit
  rollback := .rollback

theorem smallPostgres_prepare : smallPostgres.prepare readOnlyText = SmallStatement.readOnly :=
  parse_readOnlyText

def smallPostgresProtection : smallPostgres.Protection where
  inTransaction session := session.transaction.isSome
  readOnly := SmallSession.refuses
  pending := SmallSession.pending
  fresh := rfl
  refused hPending hRefuses := SmallSession.pgExec_refused hPending (.inl hRefuses)
  bracket := by
    intro session contents hPending statement hMem
    rw [smallPostgres_prepare] at hMem
    have hReads : ∀ statement ∈ [SmallStatement.begin, .readOnly, .commit, .rollback], statement.writes = false := by
      decide
    exact SmallSession.pgExec_refused hPending (.inr (hReads statement hMem))
  begun := by
    intro session contents rows h
    obtain ⟨refuses, _ | changed⟩ := session
    · rfl
    · cases h
  set := by
    intro session contents rows hTransaction h
    obtain ⟨refuses, _ | changed⟩ := session
    · cases hTransaction
    · rw [smallPostgres_prepare]
      rfl

/-- One column, taken as it is. -/
def columnBatch (rows : List String) : Except ConnectorError (List String) := .ok rows

/-- Two calls that share a connection, the second of them abandoned. -/
def sharedCalls : List CallTurn :=
  [.start 0 "PRAGMA query_only = OFF; SELECT * FROM t" 10, .advance 0, .advance 0, .advance 0, .advance 0,
    .start 0 "BEGIN; DELETE FROM t; COMMIT" 10, .start 1 "SELECT * FROM t" 1, .advance 0, .advance 1, .advance 0,
    .abandon 0]

theorem readTabular_preserves_contents_sample :
    smallSqlite.contentsAfter columnBatch sharedCalls ["a", "b"] = ["a", "b"] ∧
    smallPostgres.contentsAfter columnBatch sharedCalls ["a", "b"] = ["a", "b"] := by
  refine readTabular_preserves_contents smallSqliteProtection smallPostgresProtection columnBatch columnBatch
    sharedCalls sharedCalls ["a", "b"] ["a", "b"] fun connection query batchSize hMem => ?_
  have hQueries : query ∈ ["PRAGMA query_only = OFF; SELECT * FROM t", "BEGIN; DELETE FROM t; COMMIT",
      "SELECT * FROM t"] := by
    simp only [sharedCalls, List.mem_cons, CallTurn.start.injEq, reduceCtorEq, List.not_mem_nil, or_false,
      false_or] at hMem
    rcases hMem with ⟨-, rfl, -⟩ | ⟨-, rfl, -⟩ | ⟨-, rfl, -⟩ <;> decide
  have hAll : ∀ query ∈ ["PRAGMA query_only = OFF; SELECT * FROM t", "BEGIN; DELETE FROM t; COMMIT",
      "SELECT * FROM t"], smallSqliteProtection.guarded true (smallSqlite.statements query) = true := by
    decide +kernel
  exact hAll query hQueries

/-- One call on SQLite empties the table. -/
theorem sqlite_read_deletes : Nonempty smallSqlite.Protection ∧ smallSqlite.contentsAfter columnBatch
      [.start 0 "PRAGMA query_only = OFF; DELETE FROM t" 10, .advance 0, .advance 0, .advance 0]
      ["a", "b"] = [] := by
  refine ⟨⟨smallSqliteProtection⟩, ?_⟩
  decide +kernel

end Sample

end DataConnectHub.Connectors
