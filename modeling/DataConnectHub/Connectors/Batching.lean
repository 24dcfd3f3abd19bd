import DataConnectHub.Connectors.Tabular
import DataConnectHub.FormatReaders.JsonRows
import DataConnectHub.Milvus.Paging
import DataConnectHub.Neo4j.Reading
import DataConnectHub.Paging.Groups

/-! The readers lose no rows when they make batches. The loops are written in
different ways: rows wait in a buffer until it is full, they are cut at offsets,
or each chunk of them goes through a reader of its own. They all cut the rows
into the same groups. -/
namespace DataConnectHub.Connectors

open Flight Interaction Pool RustStd Paging Serde List

variable {Row Batch Statement : Type}

def Made (convert : List Row → Except ConnectorError Batch) (group : List Row) (batch : Batch) : Prop :=
  convert group = .ok batch

/-- Rows that follow each other make a batch. -/
def Converts (convert : List Row → Except ConnectorError Batch) (rows : List Row) : Prop :=
  ∀ group, group ≠ [] → group <:+: rows → ∃ batch, Made convert group batch

variable {batchSize : Nat}

theorem Converts.of_grouped {convert : List Row → Except ConnectorError Batch} {rows : List Row}
    {groups : List (List Row)} (h : Converts convert rows) (hGrouped : Grouped batchSize rows groups) :
    ∀ group ∈ groups, ∃ batch, Made convert group batch :=
  fun group hGroup => h group (hGrouped.sizes group hGroup).1 (hGrouped.consecutive hGroup)

/-- A stream that ends well, with the batches of consecutive groups of the rows,
all of one size but for the last. -/
structure Lossless (Made : List Row → Batch → Prop) (batchSize : Nat) (rows : List Row)
    (outcome : Yielded Batch ConnectorError Unit) : Prop where
  ended : outcome.ended = .ok ()
  grouped : ∃ groups, Grouped batchSize rows groups ∧ List.Forall₂ Made groups outcome.items
  nothing : rows = [] → outcome.items = []

theorem Lossless.of_grouped {Made : List Row → Batch → Prop} {rows : List Row} {groups : List (List Row)}
    {batches : List Batch} (h : Grouped batchSize rows groups) (hMade : List.Forall₂ Made groups batches) :
    Lossless Made batchSize rows ⟨batches, .ok ()⟩ where
  ended := rfl
  grouped := ⟨groups, h, hMade⟩
  nothing := by
    rintro rfl
    rw [h.eq_nil, forall₂_nil_left_iff] at hMade
    exact hMade

section Buffer

variable {convert : List Row → Except ConnectorError Batch} {batchSize : Nat} {chunk : List Row}

theorem pushRows_eq {rows : List Row} {batches : List Batch}
    (h : List.Forall₂ (Made convert) (push batchSize chunk rows).1 batches) (yielded : List Batch) :
    pushRows convert batchSize rows yielded chunk = ⟨yielded ++ batches, .ok (push batchSize chunk rows).2⟩ := by
  induction rows generalizing chunk batches yielded with
  | nil =>
    rw [push, forall₂_nil_left_iff] at h
    rw [h, append_nil]
    rfl
  | cons row rows ih =>
    rw [push] at h ⊢
    rw [pushRows]
    split at h
    next hFull =>
        rw [if_pos hFull, if_pos hFull]
        cases h with
        | cons hHead hTail =>
          rw [hHead]
          dsimp only
          rw [ih hTail, append_assoc]
          rfl
    next hMore =>
        rw [if_neg hMore, if_neg hMore]
        exact ih h yielded

/-- What is left when all rows have come is one batch more. -/
theorem exists_flush (h : ∀ group ∈ leftover chunk, ∃ batch, Made convert group batch) :
    ∃ last, List.Forall₂ (Made convert) (leftover chunk) last ∧
      ((chunk = [] ∧ last = []) ∨ ∃ batch, chunk ≠ [] ∧ convert chunk = .ok batch ∧ last = [batch]) := by
  rw [leftover] at h ⊢
  split
  next hNone => exact ⟨[], .nil, .inl ⟨hNone, rfl⟩⟩
  next hSome =>
      rw [if_neg hSome] at h
      obtain ⟨batch, hBatch⟩ := h chunk (mem_singleton_self chunk)
      exact ⟨[batch], .cons hBatch .nil, .inr ⟨batch, hSome, hBatch, rfl⟩⟩

end Buffer

section Sql

variable {convert : List Row → Except ConnectorError Batch} {batchSize : Nat}
  {environment : Program.Environment (Pool.Request Statement) fun _ => Rows Row} {guard : List Statement}

/-- The environment answers statements one after the other, with these rows in
all. The records are those before and after. -/
inductive Answered (environment : Program.Environment (Pool.Request Statement) fun _ => Rows Row)
    (guard : List Statement) : List (Program.Event (Pool.Request Statement) fun _ => Rows Row) → List Statement →
      List Row → List (Program.Event (Pool.Request Statement) fun _ => Rows Row) → Prop where
  | nil (past) : Answered environment guard past [] [] past
  | cons {past final : List (Program.Event (Pool.Request Statement) fun _ => Rows Row)} {statement : Statement}
      {rest : List Statement} {rows later : List Row}
      (hAnswer : environment past ⟨statement, guard⟩ = .ok rows)
      (hRest : Answered environment guard (past ++ [⟨⟨statement, guard⟩, environment past ⟨statement, guard⟩⟩])
        rest later final) :
      Answered environment guard past (statement :: rest) (rows ++ later) final

variable {onError : DbError → ConnectorError} {failed : List Batch → ConnectorError → Reading Statement Row Batch}
  {finished : List Batch → Reading Statement Row Batch} {statements : List Statement}
  {past final : List (Program.Event (Pool.Request Statement) fun _ => Rows Row)} {statement : Statement}
  {Contents : Type} {query : String}

/-- The loop ends in `finished`, with the batches of the rows after those already
yielded. -/
theorem exists_run_fetch {rows chunk : List Row} (hAnswered : Answered environment guard past statements rows final)
    (h : ∀ group ∈ (push batchSize chunk rows).1 ++ leftover (push batchSize chunk rows).2,
      ∃ batch, Made convert group batch) (yielded : List Batch) :
    ∃ batches,
      List.Forall₂ (Made convert) ((push batchSize chunk rows).1 ++ leftover (push batchSize chunk rows).2) batches ∧
      (fetch convert batchSize onError guard failed finished statements yielded chunk).run environment past =
        (finished (yielded ++ batches)).run environment final := by
  induction hAnswered generalizing chunk yielded with
  | nil past =>
    rw [push, nil_append] at h ⊢
    obtain ⟨last, hLast, hNone | hSome⟩ := exists_flush h
    · obtain ⟨rfl, rfl⟩ := hNone
      exact ⟨[], hLast, by rw [fetch, if_pos rfl, append_nil]⟩
    · obtain ⟨batch, hChunk, hBatch, rfl⟩ := hSome
      refine ⟨[batch], hLast, ?_⟩
      rw [fetch, if_neg hChunk, hBatch]
  | @cons past final statement rest rows later hAnswer hRest ih =>
    rw [push_append, append_assoc] at h ⊢
    obtain ⟨full, hFull⟩ := exists_forall₂ fun group hGroup => h group (mem_append_left _ hGroup)
    obtain ⟨batches, hBatches, hRun⟩ :=
      ih (fun group hGroup => h group (mem_append_right _ hGroup)) (yielded ++ full)
    refine ⟨full ++ batches, rel_append hFull hBatches, ?_⟩
    rw [fetch, Program.run]
    simp only [hAnswer, pushRows_eq hFull] at hRun ⊢
    rw [hRun, append_assoc]

/-- The loop over all statements of a query. -/
theorem exists_fetch_lossless {rows : List Row} (hSize : 1 ≤ batchSize)
    (hAnswered : Answered environment guard past statements rows final) (hConverts : Converts convert rows) :
    ∃ batches, Lossless (Made convert) batchSize rows ⟨batches, .ok ()⟩ ∧
      (fetch convert batchSize onError guard failed finished statements [] []).run environment past =
        (finished batches).run environment final := by
  have hGrouped := @grouped_push Row batchSize hSize [] hSize rows
  obtain ⟨batches, hBatches, hRun⟩ := @exists_run_fetch Row Batch Statement convert batchSize environment guard onError
    failed finished statements past final rows [] hAnswered (hConverts.of_grouped hGrouped) []
  exact ⟨batches, .of_grouped hGrouped hBatches, hRun⟩

theorem Answered.run_execute {rows : List Row} (h : Answered environment [] past statements rows final)
    (next : Reading Statement Row Batch) :
    (execute next statements).run environment past = next.run environment final := by
  generalize hGuard : ([] : List Statement) = guard at h
  induction h with
  | nil past => rfl
  | cons hAnswer hRest ih =>
    subst hGuard
    rw [execute, Program.run]
    simp only [hAnswer] at ih ⊢
    exact ih

theorem Answered.single {rows : List Row} (h : environment past ⟨statement, guard⟩ = .ok rows) :
    Answered environment guard past [statement] rows
      (past ++ [⟨⟨statement, guard⟩, environment past ⟨statement, guard⟩⟩]) := by
  simpa using Answered.cons h (.nil _)

theorem Answered.run_call {Result : Type} {rows : List Row}
    (h : Answered environment guard past [statement] rows final) (next : Rows Row → Job Statement (Rows Row) Result) :
    (Program.call ⟨statement, guard⟩ next).run environment past = (next (.ok rows)).run environment final := by
  cases h with
  | cons hAnswer hRest =>
    cases hRest
    rw [Program.run, hAnswer, append_nil]

/-- The pragma and the query are answered, the query with these rows. -/
def Sqlite.Serves {Contents : Type} (sqlite : Sqlite Contents Row)
    (environment : Program.Environment (Pool.Request sqlite.Statement) fun _ => Rows Row) (query : String)
    (rows : List Row) : Prop :=
  ∃ ignored ready final, Answered environment [] [] (sqlite.statements queryOnlyText) ignored ready ∧
    Answered environment [] ready (sqlite.statements query) rows final

theorem Sqlite.readTabular_lossless {sqlite : Sqlite Contents Row} {rows : List Row}
    {environment : Program.Environment (Pool.Request sqlite.Statement) fun _ => Rows Row} (hSize : 1 ≤ batchSize)
    (hServes : sqlite.Serves environment query rows) (hConverts : Converts convert rows) :
    Lossless (Made convert) batchSize rows
      ((sqlite.readTabular convert batchSize (.ok ()) query).run environment []).1 := by
  obtain ⟨ignored, ready, final, hPragma, hQuery⟩ := hServes
  rw [Sqlite.readTabular, hPragma.run_execute]
  obtain ⟨batches, hLossless, hRun⟩ := exists_fetch_lossless hSize hQuery hConverts
  rw [hRun]
  exact hLossless

/-- The statements of the transaction and the query are answered, the query with
these rows. -/
def Postgres.Serves {Contents : Type} (postgres : Postgres Contents Row)
    (environment : Program.Environment (Pool.Request postgres.Statement) fun _ => Rows Row) (query : String)
    (rows : List Row) : Prop :=
  ∃ first second last begun ready read final, Answered environment [] [] [postgres.begin] first begun ∧
    Answered environment [postgres.rollback] begun [postgres.prepare readOnlyText] second ready ∧
    Answered environment [postgres.rollback] ready [postgres.prepare query] rows read ∧
    Answered environment [postgres.rollback] read [postgres.commit] last final

theorem Postgres.readTabular_lossless {postgres : Postgres Contents Row} {rows : List Row}
    {environment : Program.Environment (Pool.Request postgres.Statement) fun _ => Rows Row} (hSize : 1 ≤ batchSize)
    (hServes : postgres.Serves environment query rows) (hConverts : Converts convert rows) :
    Lossless (Made convert) batchSize rows
      ((postgres.readTabular convert batchSize (.ok ()) query).run environment []).1 := by
  obtain ⟨first, second, last, begun, ready, read, final, hBegin, hReadOnly, hQuery, hCommit⟩ := hServes
  rw [Postgres.readTabular, hBegin.run_call, hReadOnly.run_call]
  obtain ⟨batches, hLossless, hRun⟩ := exists_fetch_lossless hSize hQuery hConverts
  rw [hRun, hCommit.run_call]
  exact hLossless

end Sql

section Neo4j

open Neo4j

variable {convert : List Row → Except ConnectorError Batch} {batchSize : Nat} {onError : String → ConnectorError}

theorem readRows_of_pushRows {rows chunk waiting : List Row} {yielded batches : List Batch}
    (h : pushRows convert batchSize rows yielded chunk = ⟨batches, .ok waiting⟩) :
    readRows onError convert batchSize (rows.map .ok) yielded chunk = flush convert batches waiting := by
  induction rows generalizing yielded chunk with
  | nil =>
    rw [pushRows] at h
    cases h
    rfl
  | cons row rows ih =>
    rw [map_cons, readRows]
    rw [pushRows] at h
    split at h
    next hFull =>
        rw [if_pos hFull]
        cases hBatch : convert (chunk ++ [row]) with
        | error error =>
          simp only [hBatch] at h
          cases h
        | ok batch =>
          simp only [hBatch] at h ⊢
          exact ih h
    next hMore =>
        rw [if_neg hMore]
        exact ih h

/-- No rows wait for a batch of none, nor for a batch of one. -/
theorem readRows_zero (rows : RowStream Row) (yielded : List Batch) (chunk : List Row) :
    readRows onError convert 0 rows yielded chunk = readRows onError convert 1 rows yielded chunk := by
  induction rows generalizing yielded chunk with
  | nil => rfl
  | cons reply rows ih =>
    cases reply with
    | error e => rfl
    | ok row =>
      rw [readRows, readRows, if_pos (Nat.zero_le _), if_pos (by simp)]
      split
      · rfl
      · exact ih ..

theorem readWith_zero (query : String) : readWith onError convert 0 query = readWith onError convert 1 query := by
  unfold readWith
  congr 1
  funext reply
  cases reply with
  | error e => rfl
  | ok rows => exact congrArg Program.done (readRows_zero rows [] [])

theorem readWith_lossless {query : String} {rows : List Row} {environment : Neo4jEnvironment Row}
    {past : List (Program.Event String fun _ => Except String (RowStream Row))} (hSize : 1 ≤ batchSize)
    (hServes : environment past query = .ok (rows.map .ok)) (hConverts : Converts convert rows) :
    Lossless (Made convert) batchSize rows ((readWith onError convert batchSize query).run environment past).1 := by
  have hGrouped := @grouped_push Row batchSize hSize [] hSize rows
  have hEach := hConverts.of_grouped hGrouped
  obtain ⟨full, hFull⟩ := exists_forall₂ fun group hGroup => hEach group (mem_append_left _ hGroup)
  obtain ⟨last, hLast, hFlush⟩ := exists_flush fun group hGroup => hEach group (mem_append_right _ hGroup)
  have hRead := @readRows_of_pushRows Row Batch convert batchSize onError rows [] _ [] _ (pushRows_eq hFull [])
  have hFlushed : flush convert full (push batchSize [] rows).2 = ⟨full ++ last, .ok ()⟩ := by
    rcases hFlush with ⟨hNone, rfl⟩ | ⟨batch, hSome, hBatch, rfl⟩
    · rw [flush, if_pos hNone, append_nil]
    · rw [flush, if_neg hSome, hBatch]
  have hAll := Lossless.of_grouped hGrouped (rel_append hFull hLast)
  rw [readWith, Program.run, hServes]
  rw [nil_append, hFlushed] at hRead
  change Lossless _ _ _ (readRows onError convert batchSize (rows.map .ok) [] [])
  rw [hRead]
  exact hAll

end Neo4j

section Milvus

open Milvus

variable {convert : List Json → Except ConnectorError Batch} {batchSize : Nat} {rows : List Json} {offset : Nat}
  {batches : List Batch} {fuel : Nat}

theorem sliceBatches_end (hEnd : rows.length ≤ offset)
    (h : List.Forall₂ (Made convert) (Streaming.groups batchSize (rows.drop offset)) batches) (fuel : Nat) :
    sliceBatches convert rows batchSize fuel offset = some ⟨batches, .ok ()⟩ := by
  rw [drop_of_length_le hEnd, Streaming.groups, forall₂_nil_left_iff] at h
  unfold sliceBatches
  rw [if_neg (Nat.not_lt.mpr hEnd), h, TryStream.pure]

/-- The slices from an offset on are the groups of the rows from there. -/
theorem sliceBatches_eq (hSize : 1 ≤ batchSize) (hFuel : rows.length ≤ offset + fuel)
    (h : List.Forall₂ (Made convert) (Streaming.groups batchSize (rows.drop offset)) batches) :
    sliceBatches convert rows batchSize fuel offset = some ⟨batches, .ok ()⟩ := by
  induction fuel generalizing offset batches with
  | zero => exact sliceBatches_end hFuel h 0
  | succ fuel ih =>
    by_cases hMore : offset < rows.length
    · rw [groups_eq hSize (by simpa using hMore), drop_drop] at h
      have hTake : (rows.drop offset).take (min (offset + batchSize) rows.length - offset) =
          (rows.drop offset).take batchSize := by
        rw [take_eq_take_iff, length_drop]
        omega
      have hDrop : rows.drop (min (offset + batchSize) rows.length) = rows.drop (offset + batchSize) := by
        rcases Nat.le_total (offset + batchSize) rows.length with hIn | hOut
        · rw [Nat.min_eq_left hIn]
        · rw [Nat.min_eq_right hOut, drop_length, drop_of_length_le hOut]
      cases h with
      | cons hHead hTail =>
        rw [← hDrop] at hTail
        have hRest := ih (by omega) hTail
        rw [sliceBatches, if_pos hMore]
        dsimp only
        rw [hTake, hHead, hRest]
        rfl
    · exact sliceBatches_end (Nat.not_lt.mp hMore) h _

theorem MilvusReader.readTabular_lossless {reader : MilvusReader} {build : Build} {query : String}
    {request : MilvusRequestInput} {schema : Arrow.Schema} {response : Json} {environment : MilvusEnvironment}
    (hSize : 1 ≤ batchSize) (hRequest : MilvusRequestInput.parse reader.library.fromStr query = .ok request)
    (hOperation : request.operation ≠ .query) (hResponse : responseOf reader.library (environment []
      (reader.client.post (operationEndpoint request.operation) request.body)) = .ok response)
    (hConverts : Converts (rowsToRecordBatch reader.library.convert schema) (extractDataRows response))
    (hFuel : (extractDataRows response).length ≤ fuel) :
    ∃ outcome, ((reader.readTabular build fuel query schema batchSize).run environment []).1 =
        .ok (.done (some outcome)) ∧
      Lossless (Made (rowsToRecordBatch reader.library.convert schema)) batchSize (extractDataRows response)
        outcome := by
  have hGrouped := grouped_groups hSize (extractDataRows response)
  obtain ⟨batches, hBatches⟩ := exists_forall₂ (hConverts.of_grouped hGrouped)
  refine ⟨⟨batches, .ok ()⟩, ?_, .of_grouped hGrouped hBatches⟩
  have hSlices := @sliceBatches_eq _ (rowsToRecordBatch reader.library.convert schema) batchSize
    (extractDataRows response) 0 batches fuel hSize (by omega) (by rwa [drop_zero])
  rw [MilvusReader.readTabular, hRequest]
  cases hKind : request.operation with
  | query => exact absurd hKind hOperation
  | search | get =>
    rw [hKind] at hResponse
    simp only [hKind, MilvusClient.execute, Program.bind, Program.run, hResponse, hSlices]

end Milvus

section Json

open FormatReaders

variable {library : JsonLibrary Batch} {schema : Arrow.Schema} {batchSize : Nat}

/-- The reader that is built for a chunk decodes its rows in order, into batches
that are filled up to the size it was built with. -/
def Decodes (library : JsonLibrary Batch) (schema : Arrow.Schema) (batchSize : Nat)
    (Holds : List Json → Batch → Prop) (rows : List Json) : Prop :=
  ∀ chunk, chunk ≠ [] → chunk.length ≤ batchSize → chunk <:+: rows →
    ∃ groups batches, Grouped batchSize chunk groups ∧ List.Forall₂ Holds groups batches ∧
      library.build schema batchSize (jsonLines library chunk) = .ok (batches.map .ok)

theorem readJsonBatches_lossless {Holds : List Json → Batch → Prop} {data : List UInt8} {dataPath : Option String}
    {json : Json} {rows : List Json} (hSize : 1 ≤ batchSize) (hParse : library.fromSlice data = .ok json)
    (hRows : extractRows json dataPath = .ok rows) (hDecodes : Decodes library schema batchSize Holds rows) :
    ∃ outcome, readJsonBatches library schema batchSize data dataPath = some outcome ∧
      Lossless Holds batchSize rows outcome := by
  have hGrouped := grouped_groups hSize rows
  -- a chunk is not longer than a batch, so it is decoded into one batch
  have hEach : ∀ chunk ∈ Streaming.groups batchSize rows, ∃ batch, Holds chunk batch ∧
      library.build schema batchSize (jsonLines library chunk) = .ok [.ok batch] := by
    intro chunk hChunk
    obtain ⟨hSome, hLength⟩ := hGrouped.sizes chunk hChunk
    obtain ⟨groups, batches, hGroups, hHolds, hBuild⟩ :=
      hDecodes chunk hSome hLength (hGrouped.consecutive hChunk)
    rw [hGroups.eq_single hSome hLength] at hHolds
    cases hHolds with
    | cons hHead hTail =>
      cases hTail
      exact ⟨_, hHead, hBuild⟩
  obtain ⟨batches, hBatches⟩ := exists_forall₂ hEach
  refine ⟨⟨batches, .ok ()⟩, ?_, .of_grouped hGrouped (hBatches.imp fun _ _ h => h.1)⟩
  have hChunks := readChunks_ok (hBatches.imp fun _ _ h => h.2)
  rw [readJsonBatches, hParse]
  change (TryStream.pure json).andThen _ = _
  rw [TryStream.pure_andThen, hRows]
  change (TryStream.pure rows).andThen _ = _
  rw [TryStream.pure_andThen, if_neg (Nat.ne_of_gt hSize), hChunks]

end Json

section Readers

open Milvus Neo4j FormatReaders

/-- For every size of batches and any rows that convert: the readers of SQLite, of
PostgreSQL and of Neo4j, the searches and gets of Milvus and the reader of JSON
documents all yield the batches of consecutive groups of that size, only the last
of them shorter and none empty, which make up the rows. -/
theorem batching_lossless (batchSize : Nat) (hSize : 1 ≤ batchSize) :
    (∀ (Contents Row Batch : Type) (sqlite : Sqlite Contents Row) (convert : List Row → Except ConnectorError Batch)
      (environment : Program.Environment (Pool.Request sqlite.Statement) fun _ => Rows Row) (query : String)
      (rows : List Row), sqlite.Serves environment query rows → Converts convert rows →
      Lossless (Made convert) batchSize rows
        ((sqlite.readTabular convert batchSize (.ok ()) query).run environment []).1) ∧
    (∀ (Contents Row Batch : Type) (postgres : Postgres Contents Row) (convert : List Row → Except ConnectorError Batch)
      (environment : Program.Environment (Pool.Request postgres.Statement) fun _ => Rows Row) (query : String)
      (rows : List Row), postgres.Serves environment query rows → Converts convert rows →
      Lossless (Made convert) batchSize rows
        ((postgres.readTabular convert batchSize (.ok ()) query).run environment []).1) ∧
    (∀ (F64 : Type) (reader : Neo4jReader F64) (schema : Arrow.Schema) (environment : Neo4jEnvironment (Neo4j.Row F64))
      (query : String) (rows : List (Neo4j.Row F64)), environment [] query = .ok (rows.map .ok) →
      Converts (Neo4j.rowsToRecordBatch reader.library schema) rows →
      Lossless (Made (Neo4j.rowsToRecordBatch reader.library schema)) batchSize rows
        ((reader.readTabular query schema batchSize).run environment []).1) ∧
    (∀ (reader : MilvusReader) (build : Build) (schema : Arrow.Schema) (environment : MilvusEnvironment)
      (query : String) (request : MilvusRequestInput) (response : Json) (fuel : Nat),
      MilvusRequestInput.parse reader.library.fromStr query = .ok request → request.operation ≠ .query →
      responseOf reader.library (environment []
        (reader.client.post (operationEndpoint request.operation) request.body)) = .ok response →
      Converts (Milvus.rowsToRecordBatch reader.library.convert schema) (extractDataRows response) →
      (extractDataRows response).length ≤ fuel →
      ∃ outcome, ((reader.readTabular build fuel query schema batchSize).run environment []).1 =
          .ok (.done (some outcome)) ∧
        Lossless (Made (Milvus.rowsToRecordBatch reader.library.convert schema)) batchSize (extractDataRows response)
          outcome) ∧
    (∀ (Batch : Type) (library : JsonLibrary Batch) (Holds : List Json → Batch → Prop) (schema : Arrow.Schema)
      (data : List UInt8) (dataPath : Option String) (json : Json) (rows : List Json),
      library.fromSlice data = .ok json → extractRows json dataPath = .ok rows →
      Decodes library schema batchSize Holds rows →
      ∃ outcome, readJsonBatches library schema batchSize data dataPath = some outcome ∧
        Lossless Holds batchSize rows outcome) := by
  refine ⟨?_, ?_, ?_, ?_, ?_⟩
  · intro Contents Row Batch sqlite convert environment query rows hServes hConverts
    exact Sqlite.readTabular_lossless hSize hServes hConverts
  · intro Contents Row Batch postgres convert environment query rows hServes hConverts
    exact Postgres.readTabular_lossless hSize hServes hConverts
  · intro F64 reader schema environment query rows hServes hConverts
    exact readWith_lossless hSize hServes hConverts
  · intro reader build schema environment query request response fuel hRequest hOperation hResponse hConverts hFuel
    exact MilvusReader.readTabular_lossless hSize hRequest hOperation hResponse hConverts hFuel
  · intro Batch library Holds schema data dataPath json rows hParse hRows hDecodes
    exact readJsonBatches_lossless hSize hParse hRows hDecodes

def sampleSqlite : Sqlite Unit Nat :=
  ⟨Unit, String, ⟨(), fun _ _ _ => (.ok [], (), ())⟩, fun text => [text]⟩

def samplePostgres : Postgres Unit Nat :=
  ⟨Unit, String, ⟨(), fun _ _ _ => (.ok [], (), ())⟩, id, "BEGIN", "COMMIT", "ROLLBACK"⟩

def sampleRows : Program.Environment (Pool.Request String) fun _ => Rows Nat := fun _ request =>
  .ok (if request.statement = "q" then [1, 2, 3] else [])

def searchQuery : String := "\x7b\"collectionName\":\"c\",\"data\":[]\x7d"

def sampleSearch : MilvusReader :=
  ⟨⟨"http://m", none, none⟩, toString, fun text =>
    if text = searchQuery then .ok (.object [("collectionName", .string "c"), ("data", .array [])])
    else sampleLibrary.fromStr text, plainLibrary⟩

def sampleBytes : List UInt8 := "[\x7b\"n\":1\x7d,\x7b\"n\":2\x7d,\x7b\"n\":3\x7d]".toUTF8.toList

/-- A reader that gives back the lines it is built for. -/
def sampleJson : JsonLibrary String :=
  ⟨fun data => if data = sampleBytes then .ok (.array ([1, 2, 3].map sampleRow)) else .error "expected value",
    Number.render, fun _ _ text => .ok [.ok text]⟩

/-- Three rows in batches of two, in each of the readers. -/
theorem batching_lossless_sample :
    Lossless (Made .ok) 2 [1, 2, 3] ((sampleSqlite.readTabular .ok 2 (.ok ()) "q").run sampleRows []).1 ∧
    Lossless (Made .ok) 2 [1, 2, 3] ((samplePostgres.readTabular .ok 2 (.ok ()) "q").run sampleRows []).1 ∧
    Lossless (Made (Neo4j.rowsToRecordBatch plainBolt ⟨[⟨"n", .int64, true⟩]⟩)) 2
      [[("n", .integer 1)], [("n", .integer 2)], [("n", .integer 3)]]
      ((Neo4jReader.readTabular ⟨plainBolt⟩ "q" ⟨[⟨"n", .int64, true⟩]⟩ 2).run
        (fun _ _ => .ok ([[("n", .integer 1)], [("n", .integer 2)], [("n", .integer 3)]].map .ok)) []).1 ∧
    (∃ outcome, ((sampleSearch.readTabular .debug 3 searchQuery ⟨[⟨"n", .int64, true⟩]⟩ 2).run
        (fun _ _ => .answered 200 (answerText [1, 2, 3])) []).1 = .ok (.done (some outcome)) ∧
      Lossless (Made (Milvus.rowsToRecordBatch plainLibrary ⟨[⟨"n", .int64, true⟩]⟩)) 2 ([1, 2, 3].map sampleRow)
        outcome) ∧
    (∃ outcome, readJsonBatches sampleJson ⟨[]⟩ 2 sampleBytes none = some outcome ∧
      Lossless (fun group batch => batch = jsonLines sampleJson group) 2 ([1, 2, 3].map sampleRow) outcome) := by
  obtain ⟨hSqlite, hPostgres, hNeo4j, hMilvus, hJson⟩ := batching_lossless 2 (by decide)
  refine ⟨hSqlite _ _ _ sampleSqlite .ok sampleRows "q" _ ⟨_, _, _, .single rfl, .single rfl⟩ ?_,
    hPostgres _ _ _ samplePostgres .ok sampleRows "q" _
      ⟨_, _, _, _, _, _, _, .single rfl, .single rfl, .single rfl, .single rfl⟩ ?_,
    hNeo4j _ ⟨plainBolt⟩ _ _ "q" _ rfl ?_,
    hMilvus sampleSearch .debug _ (fun _ _ => .answered 200 (answerText [1, 2, 3])) searchQuery _
      (.object [("data", .array ([1, 2, 3].map sampleRow))]) 3 rfl ?_ rfl ?_ ?_,
    hJson _ sampleJson _ _ _ _ _ _ (if_pos rfl) rfl ?_⟩
  · exact fun group _ _ => ⟨group, rfl⟩
  · exact fun group _ _ => ⟨group, rfl⟩
  · intro group _ _
    have hInferred : Inferred Unit ⟨[⟨"n", .int64, true⟩]⟩ := by
      intro field hField
      cases mem_singleton.mp hField
      exact ⟨rfl, .integer 0, rfl⟩
    obtain ⟨table, hTable, -⟩ := rowsToRecordBatch_eq hInferred (cons_ne_nil _ _) group
    exact ⟨table, hTable⟩
  · decide
  · refine fun group hSome hInfix => exists_rowsToRecordBatch hSome fun row hRow => ?_
    obtain ⟨n, -, rfl⟩ := mem_map.mp (hInfix.subset hRow)
    exact ⟨_, rfl⟩
  · decide
  · exact fun chunk hSome hLength _ => ⟨[chunk], [_], .single hSome hLength, .cons rfl .nil, rfl⟩

end Readers

end DataConnectHub.Connectors
