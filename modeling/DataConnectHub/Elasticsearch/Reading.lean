import DataConnectHub.Elasticsearch.Documents
import DataConnectHub.Elasticsearch.Query
import DataConnectHub.Http.Headers
import DataConnectHub.Interaction.Traces
import DataConnectHub.RustStd.TryStream

/-! Reading hits from Elasticsearch. A reading opens a point in time, searches
for one page after another until it has enough or there are no more, and closes
the point in time. Every answer may bring another id for it, and the latest one
counts. -/
namespace DataConnectHub.Elasticsearch

open Serde Arrow Flight RustStd Interaction List

inductive EsCall where
  | openPit (index : String)
  | search (body : Json)
  | closePit (pitId : String)

/-- The answer to a request: it may not arrive, and what arrives may be no JSON. -/
inductive HttpReply where
  | failed (error : String)
  | unreadable (status : Nat) (error : String)
  | answered (status : Nat) (json : Json)

/-- Nothing is read from the answer to the closing request. -/
def EsCall.Reply : EsCall → Type
  | .openPit _ | .search _ => HttpReply
  | .closePit _ => Except String Unit

abbrev EsEvent := Program.Event EsCall EsCall.Reply

abbrev EsEnvironment := Program.Environment EsCall EsCall.Reply

section Answers

/-- The id of a new point in time; the status is not looked at. -/
def openedPit : HttpReply → Except ConnectorError String
  | .failed e => .error (.connectionError s!"Failed to open PIT: {e}")
  | .unreadable _ e => .error (.connectionError s!"Failed to parse PIT response: {e}")
  | .answered _ json => okOr (.connectionError "PIT response missing 'id'") ((json.field? "id").bind Json.asStr)

/-- The answer to a search. `statusText` writes a status with its reason. -/
def fetchSearchPage (statusText : Nat → String) : HttpReply → Except ConnectorError Json
  | .failed e => .error (.connectionError s!"Search failed: {e}")
  | .unreadable _ e => .error (.connectionError s!"Failed to parse search response: {e}")
  | .answered status json =>
    if Http.IsSuccess status then .ok json
    else
      let reason := (((json.field? "error").bind fun e => e.field? "reason").bind Json.asStr).getD "unknown error"
      .error (.sqlError ("Search failed (HTTP " ++ statusText status ++ "): " ++ reason))

def pitIdOf (json : Json) : Option String := (json.field? "pit_id").bind Json.asStr

def hitsOf (json : Json) : Option (List Json) :=
  ((json.field? "hits").bind fun hits => hits.field? "hits").bind Json.asArray

end Answers

/-- Where a reading is: after which hit, in which point in time, and how many
hits it has. -/
structure Cursor where
  searchAfter : Option Json
  pitId : String
  totalFetched : Nat

/-- How the loop ended. -/
structure LoopEnd (Batch : Type) where
  batches : List Batch
  pitId : String
  error : Option ConnectorError

/-- What an answer leads to: the next turn of the loop, or its end. -/
inductive Turn (Batch : Type) where
  | stop (batch : Option Batch) (pitId : String) (error : Option ConnectorError)
  | next (batch : Batch) (cursor : Cursor)

section Loop

variable {Batch : Type} (statusText : Nat → String) (convert : List Json → Except ConnectorError Batch)

/-- The hits of an answer, turned into a batch. -/
def hitsTurn (pageSize totalFetched : Nat) (pitId : String) (hits : List Json) : Turn Batch :=
  match convert hits with
  | .error e => .stop none pitId (some e)
  | .ok batch =>
    match hits.getLast?.bind fun hit => hit.field? "sort" with
    | none => .stop (some batch) pitId none
    | some sort =>
      if hits.length < pageSize then .stop (some batch) pitId none
      else .next batch ⟨some sort, pitId, (totalFetched + hits.length) % 2 ^ 64⟩

/-- One answer. The id is taken from every page, also from one without hits. -/
def turn (pageSize : Nat) (cursor : Cursor) (reply : HttpReply) : Turn Batch :=
  match fetchSearchPage statusText reply with
  | .error e => .stop none cursor.pitId (some e)
  | .ok json =>
    match hitsOf json with
    | none | some [] => .stop none ((pitIdOf json).getD cursor.pitId) none
    | some hits => hitsTurn convert pageSize cursor.totalFetched ((pitIdOf json).getD cursor.pitId) hits

variable (request : EsRequestInput) (batchSize : Nat)

def remaining (cursor : Cursor) : Option Nat :=
  request.size.map fun limit => limit.toNat - cursor.totalFetched

def pageSize (cursor : Cursor) : Nat :=
  match remaining request cursor with
  | some r => min r batchSize
  | none => batchSize

/-- The loop of `read_tabular`. It has no end when the fuel does not last. -/
def readPages : Nat → Cursor → List Batch → Program EsCall EsCall.Reply (Option (LoopEnd Batch))
  | fuel, cursor, batches =>
    if remaining request cursor = some 0 then .done (some ⟨batches, cursor.pitId, none⟩)
    else
      match fuel with
      | 0 => .done none
      | fuel + 1 =>
        .call (.search (request.buildPitSearchBody cursor.pitId (pageSize request batchSize cursor)
          cursor.searchAfter)) fun reply =>
            match turn statusText convert (pageSize request batchSize cursor) cursor reply with
            | .stop batch pitId error => .done (some ⟨batches ++ batch.toList, pitId, error⟩)
            | .next batch cursor => readPages fuel cursor (batches ++ [batch])

/-- The end of the stream: the point in time is closed, and then an error of the
loop is reported. -/
def finish : Option (LoopEnd Batch) → Program EsCall EsCall.Reply (TryStream Batch ConnectorError Unit)
  | none => .done none
  | some ended => .call (.closePit ended.pitId) fun _ => .done (some ⟨ended.batches, match ended.error with
      | some e => .error e
      | none => .ok ()⟩)

def stream (fuel : Nat) (index : String) : Program EsCall EsCall.Reply (TryStream Batch ConnectorError Unit) :=
  .call (.openPit index) fun reply =>
    match openedPit reply with
    | .error e => .done (TryStream.throw e)
    | .ok pitId => (readPages statusText convert request batchSize fuel ⟨none, pitId, 0⟩ []).bind finish

end Loop

/-- A reader, with the libraries it uses. -/
structure ElasticsearchReader where
  defaultIndex : Option String
  fromStr : String → Except String Json
  statusText : Nat → String
  library : ConvertLibrary

/-- What is read under a schema, in batches of the given size. -/
def ElasticsearchReader.readTabular (reader : ElasticsearchReader) (fuel : Nat) (query : String) (schema : Schema)
    (batchSize : Nat) :
    Except ConnectorError (Program EsCall EsCall.Reply (TryStream Arrow.RecordBatch ConnectorError Unit)) := do
  let request ← EsRequestInput.parse reader.fromStr query
  let index ← request.resolveIndex reader.defaultIndex
  return stream reader.statusText (hitsToRecordBatch reader.library schema) request batchSize fuel index

section Release

variable {Batch : Type} {statusText : Nat → String} {convert : List Json → Except ConnectorError Batch}
  {request : EsRequestInput} {batchSize : Nat}

/-- The id of a point in time that an answer brings. A failed search brings none. -/
def received (statusText : Nat → String) : EsEvent → Option String
  | ⟨.openPit _, reply⟩ => (openedPit reply).toOption
  | ⟨.search _, reply⟩ => (fetchSearchPage statusText reply).toOption.bind pitIdOf
  | ⟨.closePit _, _⟩ => none

/-- The latest id received. -/
def latestPit (statusText : Nat → String) (past : List EsEvent) : Option String :=
  past.foldl (fun latest event => (received statusText event).or latest) none

variable {past : List EsEvent} {cursor : Cursor} {fuel : Nat} {trace : List EsEvent}

end Release

end DataConnectHub.Elasticsearch
