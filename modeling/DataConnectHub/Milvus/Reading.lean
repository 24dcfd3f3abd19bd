import DataConnectHub.Http.Headers
import DataConnectHub.Interaction.Program
import DataConnectHub.Milvus.Query
import DataConnectHub.RustStd.Cast
import DataConnectHub.RustStd.TryStream

/-! Reading rows from Milvus. The rows of a query are asked for page by page,
with an offset that grows by the rows received; a search or a get is answered
at once and cut into batches afterwards. -/
namespace DataConnectHub.Milvus

open Serde Arrow RustStd Flight Interaction

/-- A `POST` of a body, with the token if there is one. -/
structure MilvusPost where
  url : String
  bearer : Option String
  body : Json

/-- The answer: it may not arrive, and its text may not be readable. -/
inductive HttpText where
  | failed (error : String)
  | unreadable (status : Nat) (error : String)
  | answered (status : Nat) (text : String)

abbrev MilvusProgram (Result : Type) := Program MilvusPost (fun _ => HttpText) Result

abbrev MilvusEnvironment := Program.Environment MilvusPost fun _ => HttpText

structure MilvusClient where
  baseUrl : String
  token : Option String
  database : Option String

/-- What the reader uses of its libraries: how a status is written and how a
text is parsed. -/
structure MilvusLibrary where
  statusText : Nat → String
  fromStr : String → Except String Json
  convert : ConvertLibrary

section Client

variable (library : MilvusLibrary)

/-- The body of an answer; a code other than zero is an error of the server. -/
def responseOf : HttpText → Except ConnectorError Json
  | .failed e => .error (.connectionError s!"Milvus request failed: {e}")
  | .unreadable _ e => .error (.connectionError s!"Failed to read Milvus response body: {e}")
  | .answered status text =>
    if Http.IsSuccess status then do
      let json ← mapErr (fun e => .connectionError s!"Failed to parse Milvus response: {e}") (library.fromStr text)
      let code := ((json.field? "code").bind Json.asI64).getD 0
      if code ≠ 0 then
        let message := ((json.field? "message").bind Json.asStr).getD "unknown error"
        .error (.connectionError s!"Milvus error (code {code.toInt}): {message}")
      else .ok json
    else .error (.connectionError ("Milvus error (HTTP " ++ library.statusText status ++ "): " ++ text))

/-- The name of the database is added unless the query has one. -/
def withDatabase (database : Option String) (body : Json) : Json :=
  match database, body with
  | some db, .object members =>
    .object (if (members.lookup "dbName").isSome then members else Json.put "dbName" (.string db) members)
  | _, body => body

def trimEndSlashes (url : String) : String :=
  .ofList (url.toList.reverse.dropWhile (· = '/')).reverse

def MilvusClient.post (client : MilvusClient) (path : String) (body : Json) : MilvusPost :=
  ⟨trimEndSlashes client.baseUrl ++ path, client.token, withDatabase client.database body⟩

def MilvusClient.execute (client : MilvusClient) (path : String) (body : Json) :
    MilvusProgram (Except ConnectorError Json) :=
  .call (client.post path body) fun reply => .done (responseOf library reply)

end Client

def operationEndpoint : MilvusOperation → String
  | .query => "/v2/vectordb/entities/query"
  | .search => "/v2/vectordb/entities/search"
  | .get => "/v2/vectordb/entities/get"

def extractDataRows (response : Json) : List Json :=
  ((response.field? "data").bind Json.asArray).getD []

/-- What the rows of a page lead to: the end of the loop, the next page, or a
count of rows that does not fit. -/
inductive Turn (Batch : Type) where
  | stop (batch : Option Batch) (error : Option ConnectorError)
  | next (batch : Batch) (fetched : Int)
  | panic

section Loops

variable {Batch : Type} (build : Build) (convert : List Json → Except ConnectorError Batch)

/-- The rows of a page. The batch is yielded before the rows are counted. -/
def pageTurn (thisPage fetched : Int) (rows : List Json) : Turn Batch :=
  if rows = [] then .stop none none
  else
    match convert rows with
    | .error e => .stop none (some e)
    | .ok batch =>
      match build.i64 (fetched + wrapI64 rows.length) with
      | none => .panic
      | some fetched => if wrapI64 rows.length < thisPage then .stop (some batch) none else .next batch fetched

/-- The size of the next page; nothing ends the loop. -/
def thisPage (pageSize : Int) : Option Int → Option Int
  | some remaining => if remaining ≤ 0 then none else some (min remaining pageSize)
  | none => some pageSize

def endedWith (batches : List Batch) : Option ConnectorError → TryStream Batch ConnectorError Unit
  | some e => some ⟨batches, .error e⟩
  | none => some ⟨batches, .ok ()⟩

/-- What follows the rows of a page, with the rest of the loop. -/
def afterTurn (rest : Int → List Batch → MilvusProgram (TryStream Batch ConnectorError Unit)) (batches : List Batch) :
    Turn Batch → MilvusProgram (TryStream Batch ConnectorError Unit)
  | .stop batch error => .done (endedWith (batches ++ batch.toList) error)
  | .next batch fetched => rest fetched (batches ++ [batch])
  | .panic => .done none

def afterResponse (rest : Int → List Batch → MilvusProgram (TryStream Batch ConnectorError Unit)) (batches : List Batch)
    (thisPage fetched : Int) : Except ConnectorError Json → MilvusProgram (TryStream Batch ConnectorError Unit)
  | .error e => .done (some ⟨batches, .error e⟩)
  | .ok response => afterTurn rest batches (pageTurn build convert thisPage fetched (extractDataRows response))

variable (library : MilvusLibrary) (client : MilvusClient) (request : MilvusRequestInput) (pageSize : Int)

/-- What remains of the limit; nothing if the subtraction panics. -/
def remaining (fetched : Int) : Option (Option Int) :=
  match request.limit with
  | none => some none
  | some limit => (build.i64 (limit.toInt - fetched)).map some

/-- The loop of `read_query_paginated`. It has no outcome when the fuel does not
last or where it panics. -/
def readPages : Nat → Int → List Batch → MilvusProgram (TryStream Batch ConnectorError Unit)
  | fuel, fetched, batches =>
    match (remaining build request fetched).map (thisPage pageSize) with
    | none => .done none
    | some none => .done (some ⟨batches, .ok ()⟩)
    | some (some page) =>
      match fuel, build.i64 ((request.offset.map Int64.toInt).getD 0 + fetched) with
      | 0, _ | _, none => .done none
      | fuel + 1, some offset =>
        (client.execute library "/v2/vectordb/entities/query" (request.pageBody page offset)).bind
          (afterResponse build convert (readPages fuel) batches page fetched)

/-- The rows of one answer in batches, from an offset on. -/
def sliceBatches (rows : List Json) (batchSize : Nat) : Nat → Nat → TryStream Batch ConnectorError Unit
  | fuel, offset =>
    if offset < rows.length then
      match fuel with
      | 0 => none
      | fuel + 1 =>
        let stop := min (offset + batchSize) rows.length
        (TryStream.ofResult (convert ((rows.drop offset).take (stop - offset)))).andThen fun batch =>
          (TryStream.yield batch).andThen fun _ => sliceBatches rows batchSize fuel stop
    else .pure ()

variable {build convert library client request pageSize}

theorem readPages_stop {fetched : Int} (h : (remaining build request fetched).map (thisPage pageSize) = some none)
    (fuel : Nat) (batches : List Batch) :
    readPages build convert library client request pageSize fuel fetched batches = .done (some ⟨batches, .ok ()⟩) := by
  unfold readPages
  simp only [h]

/-- One turn of the loop against an environment. -/
theorem run_readPages {fetched page offset : Int}
    (hPage : (remaining build request fetched).map (thisPage pageSize) = some (some page))
    (hOffset : build.i64 ((request.offset.map Int64.toInt).getD 0 + fetched) = some offset)
    (environment : MilvusEnvironment) (past : List (Program.Event MilvusPost fun _ => HttpText))
    (fuel : Nat) (batches : List Batch) :
    (readPages build convert library client request pageSize (fuel + 1) fetched batches).run environment past =
      (afterResponse build convert (readPages build convert library client request pageSize fuel) batches page fetched
        (responseOf library (environment past
          (client.post "/v2/vectordb/entities/query" (request.pageBody page offset))))).run environment
        (past ++ [⟨client.post "/v2/vectordb/entities/query" (request.pageBody page offset),
          environment past (client.post "/v2/vectordb/entities/query" (request.pageBody page offset))⟩]) := by
  rw [readPages]
  simp only [hPage, hOffset, MilvusClient.execute, Program.bind, Program.run]

end Loops

structure MilvusReader where
  client : MilvusClient
  library : MilvusLibrary

/-- The stream of a reading; it makes requests of its own while it is polled. -/
abbrev MilvusStream := MilvusProgram (TryStream Arrow.RecordBatch ConnectorError Unit)

def MilvusReader.readQueryPaginated (reader : MilvusReader) (build : Build) (fuel : Nat)
    (request : MilvusRequestInput) (schema : Schema) (batchSize : Nat) : MilvusStream :=
  readPages build (rowsToRecordBatch reader.library.convert schema) reader.library reader.client request
    (wrapI64 batchSize) fuel 0 []

def MilvusReader.readTabular (reader : MilvusReader) (build : Build) (fuel : Nat) (query : String) (schema : Schema)
    (batchSize : Nat) : MilvusProgram (Except ConnectorError MilvusStream) :=
  match MilvusRequestInput.parse reader.library.fromStr query with
  | .error e => .done (.error e)
  | .ok request =>
    match request.operation with
    | .query => .done (.ok (reader.readQueryPaginated build fuel request schema batchSize))
    | .search | .get =>
      (reader.client.execute reader.library (operationEndpoint request.operation) request.body).bind fun
        | .error e => .done (.error e)
        | .ok response => .done (.ok (.done (sliceBatches (rowsToRecordBatch reader.library.convert schema)
            (extractDataRows response) batchSize fuel 0)))

end DataConnectHub.Milvus
