import DataConnectHub.FormatReaders.FileFormat
import DataConnectHub.Interaction.Sessions
import DataConnectHub.Serde.Value

/-! Readers of files, behind a URI or in a bucket. The schema of a file is asked
for before its rows, and both readers keep what they have fetched for the schema,
so that it need not be fetched again for the rows. Every call to a format reader
is recorded with the query it is made for, as is every request for a URI. -/
namespace DataConnectHub.Connectors

open Flight FormatReaders Interaction RustStd Serde

structure Query (Schema : Type) where
  query : String
  schema : Schema

/-- What is asked of a reader. -/
inductive ReaderOperation (Schema : Type) where
  | schema (query : String)
  | readTabular (view : Query Schema) (batchSize : Nat)

namespace Uri

structure UriRequest where
  path : String
  dataPath : Option String
  format : Option String
  deriving DecidableEq

/-- Members that are no strings count as missing, also the method. -/
def UriRequest.ofMembers (members : Members) : Except ConnectorError UriRequest := do
  let rawPath ← okOr (.invalidRequest "'path' is required") ((members.lookup "path").bind Json.asStr)
  match (members.lookup "method").bind Json.asStr with
  | some method =>
    if method.toLower ≠ "get" then throw (.invalidRequest s!"Only GET is supported, got '{method}'")
  | none => pure ()
  return { path := .ofList (rawPath.toList.dropWhile (· == '/'))
           dataPath := (members.lookup "data_path").bind Json.asStr
           format := (members.lookup "format").bind Json.asStr }

def UriRequest.parse (fromStr : String → Except String Json) (query : String) : Except ConnectorError UriRequest := do
  let value ← mapErr (fun e => .invalidRequest s!"Invalid JSON: {e}") (fromStr query)
  let members ← okOr (.invalidRequest "Query must be a JSON object") value.asObject
  UriRequest.ofMembers members

/-- The JSON text of a query for a path. -/
def pathQuery (path : String) : String := "\x7b\"path\":\"" ++ path ++ "\"\x7d"

/-- Reads such a text, of a path without quotes and escapes. -/
def readPathQuery (text : String) : Except String Json :=
  let path := String.ofList ((text.toList.drop 9).takeWhile fun c => c != '"' && c != '\\')
  if text = pathQuery path then .ok (.object [("path", .string path)]) else .error "expected value"

structure CachedResponse where
  format : FileFormat
  bytes : List UInt8
  deriving DecidableEq

/-- An answer. The content type may be no text, and the body may not arrive. -/
structure HttpResponse where
  status : Nat
  contentType : Option (Except String String)
  contentLength : Option Nat
  body : Except String (List UInt8)

abbrev HttpReply := Except String HttpResponse

/-- The libraries of the reader: for JSON texts, letters, media types, the reason of
a status, texts in a body and URLs. -/
structure Libraries where
  fromStr : String → Except String Json
  toLowercase : String → String
  parseMime : String → Except String Mime
  statusText : Nat → String
  text : List UInt8 → String
  drivers : Drivers

/-- Every call has the query it is made for. Only JSON has a data path, and Parquet
does without the schema. -/
inductive UriCall (Schema : Type) where
  | get (query : String) (request : HttpRequest)
  | readSchema (query : String) (response : CachedResponse) (dataPath : Option String)
  | readBatches (query : String) (response : CachedResponse) (schema : Schema) (batchSize : Nat)
      (dataPath : Option String)

def UriCall.Reply (Output : Type) {Schema : Type} : UriCall Schema → Type
  | .get .. => HttpReply
  | .readSchema .. => Except ConnectorError Schema
  | .readBatches .. => Except ConnectorError Output

structure UriReader where
  client : UriClient
  cachedResponse : Option CachedResponse

def maxResponseBytes : Nat := 128 * 1024 * 1024

variable (libraries : Libraries) {Schema Output : Type}

def UriRequest.formatOfPath (request : UriRequest) : Except ConnectorError FileFormat :=
  match FileFormat.detect libraries.toLowercase request.path none with
  | .ok format => .ok format
  | .error _ => .error (.connectionError ("Cannot determine response format. Set 'format' in query or ensure " ++
      "the server returns a recognized Content-Type header."))

def detectFormat (contentType : Option (Except String String)) (request : UriRequest) :
    Except ConnectorError FileFormat :=
  match request.format, contentType with
  | some fmt, _ => FileFormat.fromFormatStr libraries.toLowercase fmt
  | none, none => request.formatOfPath libraries
  | none, some (.error e) => .error (.connectionError s!"Invalid HTTP Content-Type header: {e}")
  | none, some (.ok contentType) =>
    match FileFormat.fromContentType libraries.parseMime contentType with
    | .ok format => .ok format
    | .error _ => request.formatOfPath libraries

/-- What is made of an answer. A failed request is reported with what can be read of
its body; the length is checked as it is announced and as it is. -/
def received (request : UriRequest) : HttpReply → Except ConnectorError CachedResponse
  | .error e => .error (.connectionError s!"HTTP request failed: {e}")
  | .ok response => do
      if ¬(200 ≤ response.status ∧ response.status < 300) then
        let body := (response.body.toOption.map libraries.text).getD ""
        throw (.connectionError ("HTTP request failed (status " ++ libraries.statusText response.status ++ "): " ++
          body))
      let format ← detectFormat libraries response.contentType request
      if let some len := response.contentLength then
        if len > maxResponseBytes then
          throw (.connectionError s!"Response too large ({len} bytes, limit {maxResponseBytes})")
      let bytes ← mapErr (fun e => .connectionError s!"Failed to read response: {e}") response.body
      if bytes.length > maxResponseBytes then
        throw (.connectionError s!"Response too large ({bytes.length} bytes, limit {maxResponseBytes})")
      return ⟨format, bytes⟩

abbrev UriProgram (Schema Output Result : Type) := Program (UriCall Schema) (UriCall.Reply Output) Result

def fetchResponse (client : UriClient) (query : String) (request : UriRequest) :
    UriProgram Schema Output (Except ConnectorError CachedResponse) :=
  match client.request libraries.drivers .get request.path with
  | .error e => .done (.error e)
  | .ok http => .call (.get query http) fun reply => .done (received libraries request reply)

def CachedResponse.dataPath (response : CachedResponse) (request : UriRequest) : Option String :=
  match response.format with
  | .json => request.dataPath
  | _ => none

namespace UriReader

/-- The response is kept only once its schema is known. -/
def schema (reader : UriReader) (query : String) :
    UriProgram Schema Output (Except ConnectorError (Query Schema) × UriReader) :=
  match UriRequest.parse libraries.fromStr query with
  | .error e => .done (.error e, reader)
  | .ok request => (fetchResponse libraries reader.client query request).bind fun
      | .error e => .done (.error e, reader)
      | .ok cached => .call (.readSchema query cached (cached.dataPath request)) fun
          | .error e => .done (.error e, reader)
          | .ok schema => .done (.ok ⟨query, schema⟩, { reader with cachedResponse := some cached })

def decode (reader : UriReader) (view : Query Schema) (batchSize : Nat) (request : UriRequest)
    (response : CachedResponse) : UriProgram Schema Output (Except ConnectorError Output × UriReader) :=
  .call (.readBatches view.query response view.schema batchSize (response.dataPath request)) fun output =>
    .done (output, reader)

/-- A kept response is taken whatever it was fetched for. -/
def readTabular (reader : UriReader) (view : Query Schema) (batchSize : Nat) :
    UriProgram Schema Output (Except ConnectorError Output × UriReader) :=
  match UriRequest.parse libraries.fromStr view.query with
  -- a query that does not parse leaves the kept response
  | .error e => .done (.error e, reader)
  | .ok request =>
    match reader.cachedResponse with
    | some cached => decode { reader with cachedResponse := none } view batchSize request cached
    | none => (fetchResponse libraries reader.client view.query request).bind fun
        | .error e => .done (.error e, reader)
        | .ok response => decode reader view batchSize request response

def operate (reader : UriReader) : ReaderOperation Schema → UriProgram Schema Output UriReader
  | .schema query => (reader.schema libraries query).bind fun (_, next) => .done next
  | .readTabular view batchSize => (reader.readTabular libraries view batchSize).bind fun (_, next) => .done next

end UriReader
end Uri

namespace S3

inductive OpendalError where
  | notFound
  | permissionDenied
  | other
  deriving DecidableEq

def mapOpendalError (context path : String) : OpendalError → ConnectorError
  | .notFound => .notFound s!"'{path}' not found"
  | .permissionDenied => .connectionError s!"access denied for '{path}'"
  | .other => .ioError s!"{context} '{path}'"

/-- What a format reader works on: an object of the bucket, or its bytes. -/
inductive Source where
  | object (path : String)
  | bytes (data : List UInt8)
  deriving DecidableEq

/-- Calls for an object name its path, those of a format reader the query. -/
inductive S3Call (Schema : Type) where
  | reader (path : String)
  | stream (path : String)
  | readSchema (query : String) (format : FileFormat) (source : Source)
  | readBatches (query : String) (format : FileFormat) (source : Source) (schema : Schema) (batchSize : Nat)

def S3Call.Reply (Output : Type) {Schema : Type} : S3Call Schema → Type
  | .reader _ => Except OpendalError Unit
  | .stream _ => Except OpendalError (List (Except OpendalError (List UInt8)))
  | .readSchema .. => Except ConnectorError Schema
  | .readBatches .. => Except ConnectorError Output

abbrev S3Program (Schema Output Result : Type) := Program (S3Call Schema) (S3Call.Reply Output) Result

/-- A lock is poisoned when its holder has panicked. -/
structure Mutex (Value : Type) where
  value : Value
  poisoned : Bool

structure S3Reader where
  formatHint : Option String
  jsonCache : Mutex (Option (String × List UInt8))

def maxJsonBytes : Nat := 128 * 1024 * 1024

/-- The chunks of an object, up to a limit on all of them. -/
def collectChunks (path : String) :
    List (Except OpendalError (List UInt8)) → List UInt8 → Except ConnectorError (List UInt8)
  | [], bytes => .ok bytes
  | .error e :: _, _ => .error (mapOpendalError "Failed to read" path e)
  | .ok chunk :: rest, bytes =>
    if bytes.length + chunk.length > maxJsonBytes then
      .error (.ioError s!"JSON file too large (limit {maxJsonBytes} bytes)")
    else collectChunks path rest (bytes ++ chunk)

variable (toLowercase : String → String) {Schema Output : Type}

def readJsonChecked (path : String) : S3Program Schema Output (Except ConnectorError (List UInt8)) :=
  .call (.reader path) fun
    | .error e => .done (.error (mapOpendalError "Failed to create reader for" path e))
    | .ok () => .call (.stream path) fun
        | .error e => .done (.error (mapOpendalError "Failed to open stream for" path e))
        | .ok chunks => .done (collectChunks path chunks [])

def makeReader (path : String) : S3Program Schema Output (Except ConnectorError Source) :=
  .call (.reader path) fun
    | .error e => .done (.error (mapOpendalError "Failed to create S3 reader for" path e))
    | .ok () => .done (.ok (.object path))

namespace S3Reader

def detectFormat (reader : S3Reader) (path : String) : Except ConnectorError FileFormat :=
  FileFormat.detect toLowercase path reader.formatHint

/-- A poisoned cache is not written. -/
def keep (reader : S3Reader) (query : String) (data : List UInt8) : S3Reader :=
  if reader.jsonCache.poisoned then reader
  else { reader with jsonCache := { reader.jsonCache with value := some (query, data) } }

/-- The kept document of this query, which is then no longer kept. -/
def takeCached (reader : S3Reader) (query : String) : Option (List UInt8) × S3Reader :=
  if reader.jsonCache.poisoned then (none, reader)
  else
    match reader.jsonCache.value with
    | some (path, data) =>
      if path = query then (some data, { reader with jsonCache := { reader.jsonCache with value := none } })
      else (none, reader)
    | none => (none, reader)

def objectSchema (reader : S3Reader) (query : String) (format : FileFormat) :
    S3Program Schema Output (Except ConnectorError (Query Schema) × S3Reader) :=
  (makeReader query).bind fun
    | .error e => .done (.error e, reader)
    | .ok source => .call (.readSchema query format source) fun answer => .done (answer.map (Query.mk query), reader)

def jsonSchema (reader : S3Reader) (query : String) :
    S3Program Schema Output (Except ConnectorError (Query Schema) × S3Reader) :=
  (readJsonChecked query).bind fun
    | .error e => .done (.error e, reader)
    | .ok data => .call (.readSchema query .json (.bytes data)) fun
        | .error e => .done (.error e, reader)
        | .ok schema => .done (.ok ⟨query, schema⟩, reader.keep query data)

/-- Only JSON is read as a whole, and kept. -/
def schema (reader : S3Reader) (query : String) :
    S3Program Schema Output (Except ConnectorError (Query Schema) × S3Reader) :=
  match reader.detectFormat toLowercase query with
  | .error e => .done (.error e, reader)
  | .ok .json => reader.jsonSchema query
  | .ok format => reader.objectSchema query format

def decode (reader : S3Reader) (format : FileFormat) (view : Query Schema) (batchSize : Nat) (source : Source) :
    S3Program Schema Output (Except ConnectorError Output × S3Reader) :=
  .call (.readBatches view.query format source view.schema batchSize) fun output => .done (output, reader)

def objectRows (reader : S3Reader) (format : FileFormat) (view : Query Schema) (batchSize : Nat) :
    S3Program Schema Output (Except ConnectorError Output × S3Reader) :=
  (makeReader view.query).bind fun
    | .error e => .done (.error e, reader)
    | .ok source => reader.decode format view batchSize source

def jsonRows (reader : S3Reader) (view : Query Schema) (batchSize : Nat) :
    S3Program Schema Output (Except ConnectorError Output × S3Reader) :=
  match reader.takeCached view.query with
  | (some data, next) => next.decode .json view batchSize (.bytes data)
  | (none, next) => (readJsonChecked view.query).bind fun
      | .error e => .done (.error e, next)
      | .ok data => next.decode .json view batchSize (.bytes data)

def readTabular (reader : S3Reader) (view : Query Schema) (batchSize : Nat) :
    S3Program Schema Output (Except ConnectorError Output × S3Reader) :=
  match reader.detectFormat toLowercase view.query with
  | .error e => .done (.error e, reader)
  | .ok .json => reader.jsonRows view batchSize
  | .ok format => reader.objectRows format view batchSize

def operate (reader : S3Reader) : ReaderOperation Schema → S3Program Schema Output S3Reader
  | .schema query => (reader.schema toLowercase query).bind fun (_, next) => .done next
  | .readTabular view batchSize => (reader.readTabular toLowercase view batchSize).bind fun (_, next) => .done next

end S3Reader
end S3

end DataConnectHub.Connectors
