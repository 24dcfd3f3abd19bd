import DataConnectHub.Connectors.FileReaders

/-! Whose bytes a reader decodes. A reader keeps what was fetched for a schema and
decodes it for a later reading of rows. The kept document of a bucket goes with its
path; the kept response of a URI does not go with its query. -/
namespace DataConnectHub.Connectors

open Flight FormatReaders Interaction Program List

variable {Schema Output : Type}

namespace Uri

abbrev UriEvent (Schema Output : Type) := Event (UriCall Schema) (UriCall.Reply Output)

variable (libraries : Libraries) (client : UriClient)

section Records

/-- What was fetched for a query: it was asked for at the URL of the query, and is
what the query makes of the answer. -/
def fetched : UriEvent Schema Output → Option (String × CachedResponse)
  | ⟨.get query http, reply⟩ => do
      let request ← (UriRequest.parse libraries.fromStr query).toOption
      let own ← (client.request libraries.drivers .get request.path).toOption
      let response ← (received libraries request reply).toOption
      if own = http then some (query, response) else none
  | _ => none

def Fetched (past : List (UriEvent Schema Output)) (query : String) (response : CachedResponse) : Prop :=
  (query, response) ∈ past.filterMap (fetched libraries client)

instance decidableFetched (past : List (UriEvent Schema Output)) (query : String) (response : CachedResponse) :
    Decidable (Fetched libraries client past query response) :=
  inferInstanceAs (Decidable (_ ∈ _))

/-- No response was fetched for two queries. -/
def Separate (past : List (UriEvent Schema Output)) : Prop :=
  ∀ first second response, Fetched libraries client past first response →
    Fetched libraries client past second response → first = second

def nextWaiting (waiting : Option String) : UriEvent Schema Output → Option String
  | ⟨.get .., _⟩ => waiting
  | ⟨.readSchema query .., .ok _⟩ => some query
  | ⟨.readSchema .., .error _⟩ => waiting
  | ⟨.readBatches .., _⟩ => none

/-- The query of the last schema that was read, unless rows were read after it. -/
def waiting (past : List (UriEvent Schema Output)) : Option String := past.foldl nextWaiting none

/-- The rows are decoded from a response that was fetched for their query. -/
def Serves (past : List (UriEvent Schema Output)) : UriCall Schema → Prop
  | .readBatches query response .. => Fetched libraries client past query response
  | _ => True

/-- Rows are read for the query of the last schema, or after other rows. -/
def Orderly (past : List (UriEvent Schema Output)) : UriCall Schema → Prop
  | .readBatches query .. => waiting past = none ∨ waiting past = some query
  | _ => True

end Records

section Invariant

variable {libraries client} {past : List (UriEvent Schema Output)} {query : String} {request : UriRequest}

theorem waiting_concat (past : List (UriEvent Schema Output)) (event : UriEvent Schema Output) :
    waiting (past ++ [event]) = nextWaiting (waiting past) event := by
  rw [waiting, foldl_append]
  rfl

variable {response : CachedResponse} {reader : UriReader}

theorem Fetched.concat (h : Fetched libraries client past query response) (event : UriEvent Schema Output) :
    Fetched libraries client (past ++ [event]) query response := by
  rw [Fetched, filterMap_append]
  exact mem_append_left _ h

theorem fetched_get {http : HttpRequest} {reply : HttpReply}
    (hParse : UriRequest.parse libraries.fromStr query = .ok request)
    (hRequest : client.request libraries.drivers .get request.path = .ok http)
    (hReceived : received libraries request reply = .ok response) :
    Fetched libraries client (past ++ [⟨.get query http, reply⟩]) query response := by
  rw [Fetched, filterMap_append]
  refine mem_append_right _ ?_
  have hFetched : fetched libraries client (⟨.get query http, reply⟩ : UriEvent Schema Output) =
      some (query, response) := by
    simp [fetched, hParse, hRequest, hReceived, Except.toOption]
  rw [filterMap_cons, hFetched]
  exact mem_cons_self ..

/-- A kept response was fetched for the query that is waiting for its rows. -/
structure Held (client : UriClient) (libraries : Libraries) (past : List (UriEvent Schema Output))
    (reader : UriReader) : Prop where
  sameClient : reader.client = client
  empty : reader.cachedResponse = none → waiting past = none
  kept : ∀ cached, reader.cachedResponse = some cached →
    ∃ query, waiting past = some query ∧ Fetched libraries client past query cached

/-- A reading of rows gets what was fetched for it exactly if its turn is in order. -/
def Traced (libraries : Libraries) (client : UriClient) (past : List (UriEvent Schema Output))
    (call : UriCall Schema) : Prop :=
  (Orderly past call → Serves libraries client past call) ∧
    (Separate libraries client past → Serves libraries client past call → Orderly past call)

section

variable (h : Held client libraries past reader)

include h

/-- Calls that neither keep nor take a response. -/
theorem Held.concat {event : UriEvent Schema Output} (hEvent : nextWaiting (waiting past) event = waiting past) :
    Held client libraries (past ++ [event]) reader where
  sameClient := h.sameClient
  empty hNone := by
    rw [waiting_concat, hEvent]
    exact h.empty hNone
  kept cached hCached := by
    obtain ⟨owner, hOwner, hFetched⟩ := h.kept cached hCached
    exact ⟨owner, by rw [waiting_concat, hEvent, hOwner], hFetched.concat event⟩

theorem keeps_fetchResponse (hParse : UriRequest.parse libraries.fromStr query = .ok request) :
    (fetchResponse libraries reader.client query request).Keeps (Traced libraries client)
      (fun past result => Held client libraries past reader ∧
        ∀ response, result = .ok response → Fetched libraries client past query response) past := by
  unfold fetchResponse
  rw [h.sameClient]
  cases hRequest : client.request libraries.drivers .get request.path with
  | error error => exact ⟨h, nofun⟩
  | ok http =>
    refine ⟨⟨fun _ => trivial, fun _ _ => trivial⟩, fun reply => ⟨h.concat rfl, fun response hReceived => ?_⟩⟩
    exact fetched_get hParse hRequest hReceived

theorem keeps_schema (query : String) : (reader.schema libraries query).Keeps (Traced libraries client)
      (fun past result => Held client libraries past result.2) past := by
  unfold UriReader.schema
  cases hParse : UriRequest.parse libraries.fromStr query with
  | error error => exact h
  | ok request =>
    refine (keeps_fetchResponse h hParse).bind fun past result hResult => ?_
    obtain ⟨hHeld, hFetched⟩ := hResult
    cases result with
    | error error => exact hHeld
    | ok cached =>
      refine ⟨⟨fun _ => trivial, fun _ _ => trivial⟩, fun answer => ?_⟩
      cases answer with
      | error error => exact hHeld.concat rfl
      | ok schema =>
        refine ⟨hHeld.sameClient, nofun, fun found hFound => ⟨query, waiting_concat .., ?_⟩⟩
        cases hFound
        exact (hFetched cached rfl).concat _

/-- Rows are decoded from the response that was kept, or from a new one. -/
theorem keeps_readTabular (view : Query Schema) (batchSize : Nat) :
    (reader.readTabular libraries view batchSize).Keeps (Traced libraries client)
      (fun past result => Held client libraries past result.2) past := by
  unfold UriReader.readTabular
  cases hParse : UriRequest.parse libraries.fromStr view.query with
  | error error => exact h
  | ok request =>
    cases hKept : reader.cachedResponse with
    | some cached =>
      -- the kept response is that of `owner`, whatever the view asks for
      obtain ⟨owner, hOwner, hFetched⟩ := h.kept cached hKept
      refine ⟨⟨fun hOrder => ?_, fun hSeparate hServed => .inr ?_⟩, fun output => ?_⟩
      · rcases hOrder with hNone | hSame
        · rw [hOwner] at hNone
          cases hNone
        · rw [hOwner] at hSame
          cases hSame
          exact hFetched
      · rw [hOwner, hSeparate owner view.query cached hFetched hServed]
      · exact ⟨h.sameClient, fun _ => waiting_concat .., nofun⟩
    | none =>
      refine (keeps_fetchResponse h hParse).bind fun past result hResult => ?_
      obtain ⟨hHeld, hFetched⟩ := hResult
      cases result with
      | error error => exact hHeld
      | ok response =>
        refine ⟨⟨fun _ => hFetched response rfl, fun _ _ => .inl (hHeld.empty hKept)⟩, fun output => ?_⟩
        refine ⟨hHeld.sameClient, fun _ => waiting_concat .., fun cached hCached => ?_⟩
        rw [hKept] at hCached
        cases hCached

theorem keeps_operate (operation : ReaderOperation Schema) :
    (reader.operate libraries operation).Keeps (Traced libraries client) (Held client libraries) past := by
  cases operation with
  | schema query => exact (keeps_schema h query).bind fun _ _ hHeld => hHeld
  | readTabular view batchSize => exact (keeps_readTabular h view batchSize).bind fun _ _ hHeld => hHeld

end

end Invariant

end Uri

namespace S3

abbrev S3Event (Schema Output : Type) := Event (S3Call Schema) (S3Call.Reply Output)

variable (toLowercase : String → String) (formatHint : Option String)

/-- What was fetched for a query: the bytes of the object at its path, or a reader on
that object. -/
def Fetched (past : List (S3Event Schema Output)) (query : String) : Source → Prop
  | .object path => path = query ∧ (⟨.reader query, .ok ()⟩ : S3Event Schema Output) ∈ past
  | .bytes data => ∃ chunks, (⟨.stream query, .ok chunks⟩ : S3Event Schema Output) ∈ past ∧
      collectChunks query chunks [] = .ok data

/-- The rows are decoded from what was fetched for their query, in its format. -/
def Serves (past : List (S3Event Schema Output)) : S3Call Schema → Prop
  | .readBatches query format source .. =>
    FileFormat.detect toLowercase query formatHint = .ok format ∧ Fetched past query source
  | _ => True

/-- A kept document was fetched for the path it is kept under. -/
structure Held (past : List (S3Event Schema Output)) (reader : S3Reader) : Prop where
  sameHint : reader.formatHint = formatHint
  kept : ∀ query data, reader.jsonCache.value = some (query, data) → Fetched past query (.bytes data)

variable {toLowercase formatHint} {past : List (S3Event Schema Output)} {query : String} {reader : S3Reader}
  {source : Source} {format : FileFormat}

theorem Fetched.concat (h : Fetched past query source) (event : S3Event Schema Output) :
    Fetched (past ++ [event]) query source := by
  cases source with
  | object path => exact ⟨h.1, mem_append_left _ h.2⟩
  | bytes data =>
    obtain ⟨chunks, hMem, hData⟩ := h
    exact ⟨chunks, mem_append_left _ hMem, hData⟩

section

variable (h : Held formatHint past reader)

include h

theorem Held.concat (event : S3Event Schema Output) : Held formatHint (past ++ [event]) reader :=
  ⟨h.sameHint, fun query data hKept => (h.kept query data hKept).concat event⟩

theorem Held.keep {data : List UInt8} (hData : Fetched past query (.bytes data)) :
    Held formatHint past (reader.keep query data) := by
  unfold S3Reader.keep
  split
  · exact h
  · refine ⟨h.sameHint, fun path found hFound => ?_⟩
    cases hFound
    exact hData

/-- A document is taken only for the path it is kept under. -/
theorem Held.takeCached (query : String) : Held formatHint past (reader.takeCached query).2 ∧
      ∀ data, (reader.takeCached query).1 = some data → Fetched past query (.bytes data) := by
  unfold S3Reader.takeCached
  split
  · exact ⟨h, nofun⟩
  · split
    next path data hKept =>
      split
      next hPath =>
        subst hPath
        refine ⟨⟨h.sameHint, nofun⟩, fun found hFound => ?_⟩
        cases hFound
        exact h.kept path data hKept
      · exact ⟨h, nofun⟩
    · exact ⟨h, nofun⟩

theorem keeps_readJsonChecked (path : String) :
    (readJsonChecked path).Keeps (Serves toLowercase formatHint) (fun past result => Held formatHint past reader ∧
      ∀ data, result = .ok data → Fetched past path (.bytes data)) past := by
  refine ⟨trivial, fun opened => ?_⟩
  cases opened with
  | error error => exact ⟨h.concat _, nofun⟩
  | ok _ =>
    refine ⟨trivial, fun streamed => ?_⟩
    cases streamed with
    | error error => exact ⟨(h.concat _).concat _, nofun⟩
    | ok chunks =>
      exact ⟨(h.concat _).concat _, fun data hData =>
        ⟨chunks, mem_append_right _ (mem_singleton_self _), hData⟩⟩

theorem keeps_makeReader (path : String) :
    (makeReader path).Keeps (Serves toLowercase formatHint) (fun past result => Held formatHint past reader ∧
      ∀ source, result = .ok source → Fetched past path source) past := by
  refine ⟨trivial, fun opened => ?_⟩
  cases opened with
  | error error => exact ⟨h.concat _, nofun⟩
  | ok _ =>
    refine ⟨h.concat _, fun source hSource => ?_⟩
    cases hSource
    exact ⟨rfl, mem_append_right _ (mem_singleton_self _)⟩

theorem keeps_objectSchema (query : String) (format : FileFormat) :
    (reader.objectSchema query format).Keeps (Serves toLowercase formatHint)
      (fun past result => Held formatHint past result.2) past := by
  refine (keeps_makeReader h query).bind fun past result hResult => ?_
  cases result with
  | error error => exact hResult.1
  | ok source => exact ⟨trivial, fun answer => hResult.1.concat _⟩

theorem keeps_jsonSchema (query : String) : (reader.jsonSchema query).Keeps (Serves toLowercase formatHint)
      (fun past result => Held formatHint past result.2) past := by
  refine (keeps_readJsonChecked h query).bind fun past result hResult => ?_
  obtain ⟨hHeld, hFetched⟩ := hResult
  cases result with
  | error error => exact hHeld
  | ok data =>
    refine ⟨trivial, fun answer => ?_⟩
    cases answer with
    | error error => exact hHeld.concat _
    | ok schema => exact (hHeld.concat _).keep ((hFetched data rfl).concat _)

theorem keeps_schema (query : String) : (reader.schema toLowercase query).Keeps (Serves toLowercase formatHint)
      (fun past result => Held formatHint past result.2) past := by
  unfold S3Reader.schema
  split
  · exact h
  · exact keeps_jsonSchema h query
  · exact keeps_objectSchema h query _

theorem keeps_decode {view : Query Schema} (hFormat : FileFormat.detect toLowercase view.query formatHint = .ok format)
    (hFetched : Fetched past view.query source) (batchSize : Nat) :
    (reader.decode format view batchSize source).Keeps (Serves toLowercase formatHint)
      (fun past result => Held formatHint past result.2) past :=
  ⟨⟨hFormat, hFetched⟩, fun _ => h.concat _⟩

theorem keeps_objectRows {view : Query Schema}
    (hFormat : FileFormat.detect toLowercase view.query formatHint = .ok format) (batchSize : Nat) :
    (reader.objectRows format view batchSize).Keeps (Serves toLowercase formatHint)
      (fun past result => Held formatHint past result.2) past := by
  refine (keeps_makeReader h view.query).bind fun past result hResult => ?_
  cases result with
  | error error => exact hResult.1
  | ok source => exact keeps_decode hResult.1 hFormat (hResult.2 source rfl) batchSize

theorem keeps_jsonRows {view : Query Schema}
    (hFormat : FileFormat.detect toLowercase view.query formatHint = .ok .json) (batchSize : Nat) :
    (reader.jsonRows view batchSize).Keeps (Serves toLowercase formatHint)
      (fun past result => Held formatHint past result.2) past := by
  obtain ⟨hHeld, hTaken⟩ := h.takeCached view.query
  unfold S3Reader.jsonRows
  split
  next data next hCached =>
    rw [hCached] at hHeld hTaken
    exact keeps_decode hHeld hFormat (hTaken data rfl) batchSize
  next next hCached =>
    rw [hCached] at hHeld
    refine (keeps_readJsonChecked hHeld view.query).bind fun past result hResult => ?_
    cases result with
    | error error => exact hResult.1
    | ok data => exact keeps_decode hResult.1 hFormat (hResult.2 data rfl) batchSize

theorem keeps_readTabular (view : Query Schema) (batchSize : Nat) :
    (reader.readTabular toLowercase view batchSize).Keeps (Serves toLowercase formatHint)
      (fun past result => Held formatHint past result.2) past := by
  have hDetect : reader.detectFormat toLowercase view.query =
      FileFormat.detect toLowercase view.query formatHint := by rw [S3Reader.detectFormat, h.sameHint]
  unfold S3Reader.readTabular
  rw [hDetect]
  split
  · exact h
  next hFormat => exact keeps_jsonRows h hFormat batchSize
  next format _ hFormat => exact keeps_objectRows h hFormat batchSize

theorem keeps_operate (operation : ReaderOperation Schema) :
    (reader.operate toLowercase operation).Keeps (Serves toLowercase formatHint) (Held formatHint) past := by
  cases operation with
  | schema query => exact (keeps_schema h query).bind fun _ _ hHeld => hHeld
  | readTabular view batchSize => exact (keeps_readTabular h view batchSize).bind fun _ _ hHeld => hHeld

end

end S3

/-- The calls of a session with a new reader of URIs. -/
def Uri.record (libraries : Libraries) (client : UriClient) (operations : List (ReaderOperation Schema))
    (environment : Environment (UriCall Schema) (UriCall.Reply Output)) : List (UriEvent Schema Output) :=
  ((perform (UriReader.operate libraries) operations ⟨client, none⟩).run environment []).2

/-- The calls of a session with a new reader of a bucket. -/
def S3.record (toLowercase : String → String) (formatHint : Option String) (poisoned : Bool)
    (operations : List (ReaderOperation Schema)) (environment : Environment (S3Call Schema) (S3Call.Reply Output)) :
    List (S3Event Schema Output) :=
  ((perform (S3Reader.operate toLowercase) operations ⟨formatHint, none, poisoned⟩).run environment []).2

/-- Whatever is asked of a reader and whatever the answers are: rows of a bucket are
always decoded from what was fetched for their query. Rows of a URI are when no
other query is waiting for its rows, and only then, unless the same response was
fetched for two queries. -/
theorem rows_from_own_query_iff (libraries : Uri.Libraries) (client : UriClient) (toLowercase : String → String)
    (formatHint : Option String) (poisoned : Bool) (operations : List (ReaderOperation Schema))
    (web : Environment (Uri.UriCall Schema) (Uri.UriCall.Reply Output))
    (bucket : Environment (S3.S3Call Schema) (S3.S3Call.Reply Output)) :
    (∀ before event after, Uri.record libraries client operations web = before ++ event :: after →
      (Uri.Orderly before event.1 → Uri.Serves libraries client before event.1) ∧
      (Uri.Separate libraries client before → Uri.Serves libraries client before event.1 →
        Uri.Orderly before event.1)) ∧
    ∀ before event after, S3.record toLowercase formatHint poisoned operations bucket = before ++ event :: after →
      S3.Serves toLowercase formatHint before event.1 := by
  constructor
  · intro before event after hRecord
    have hNew : Uri.Held client libraries ([] : List (Uri.UriEvent Schema Output)) ⟨client, none⟩ :=
      ⟨rfl, fun _ => rfl, nofun⟩
    exact condition_of_perform (fun _ _ operation h => Uri.keeps_operate h operation) operations hNew web hRecord
  · intro before event after hRecord
    have hNew : S3.Held formatHint ([] : List (S3.S3Event Schema Output)) ⟨formatHint, none, poisoned⟩ :=
      ⟨rfl, nofun⟩
    exact condition_of_perform (fun _ _ operation h => S3.keeps_operate h operation) operations hNew bucket hRecord

section Samples

def sampleLibraries : Uri.Libraries where
  fromStr := Uri.readPathQuery
  toLowercase := id
  parseMime _ := .error "unknown"
  statusText _ := "OK"
  text _ := ""
  drivers :=
    { pgConnectOptions := fun _ => .ok ()
      s3Operator := fun _ => .ok ()
      pemBundle := fun _ => .ok 1
      tlsClient := fun _ => .ok ()
      parseUrl := fun text => .ok ⟨text, "/", none, none⟩
      setPath := fun url path => { url with path }
      join := fun url path => .ok { url with path := url.path ++ path }
      certificate := fun _ => .ok ()
      httpClient := fun _ => .ok () }

def sampleClient : UriClient := ⟨none, ⟨"https://files", "/", none, none⟩, .none⟩

/-- A server of two files, one octet each. -/
def sampleWeb : Environment (Uri.UriCall Unit) (Uri.UriCall.Reply Unit) := fun _ call =>
  match call with
  | .get _ request => .ok ⟨200, none, none, .ok (if request.url.path = "/a.csv" then [1] else [2])⟩
  | .readSchema .. => .ok ()
  | .readBatches .. => .ok ()

def sampleBucket : Environment (S3.S3Call Unit) (S3.S3Call.Reply Unit) := fun _ call =>
  match call with
  | .reader _ => .ok ()
  | .stream path => .ok [.ok (if path = "a.json" then [1] else [2])]
  | .readSchema .. => .ok ()
  | .readBatches .. => .ok ()

def aQuery : String := Uri.pathQuery "a.csv"
def bQuery : String := Uri.pathQuery "b.csv"

/-- The rows of one file are decoded from the other, whose schema was read before. -/
theorem kept_response_for_another_query :
    ∃ before, Uri.record sampleLibraries sampleClient [.schema aQuery, .readTabular ⟨bQuery, ()⟩ 10] sampleWeb =
        before ++ [⟨.readBatches bQuery ⟨.csv, [1]⟩ () 10 none, .ok ()⟩] ∧
      Uri.Fetched sampleLibraries sampleClient before aQuery ⟨.csv, [1]⟩ ∧
      ¬Uri.Serves sampleLibraries sampleClient before (.readBatches bQuery ⟨.csv, [1]⟩ () 10 none) :=
  ⟨(Uri.record sampleLibraries sampleClient [.schema aQuery, .readTabular ⟨bQuery, ()⟩ 10] sampleWeb).dropLast,
    rfl, by decide, by unfold Uri.Serves; decide⟩

/-- A schema and its rows from the web, and the rows of another file from a bucket. -/
theorem rows_from_own_query_sample :
    (∃ before, Uri.record sampleLibraries sampleClient [.schema aQuery, .readTabular ⟨aQuery, ()⟩ 10] sampleWeb =
        before ++ [⟨.readBatches aQuery ⟨.csv, [1]⟩ () 10 none, .ok ()⟩] ∧
      Uri.Serves sampleLibraries sampleClient before (.readBatches aQuery ⟨.csv, [1]⟩ () 10 none)) ∧
    ∃ before, S3.record id none false [.schema "a.json", .readTabular ⟨"b.json", ()⟩ 10] sampleBucket =
        before ++ [⟨.readBatches "b.json" .json (.bytes [2]) () 10, .ok ()⟩] ∧
      S3.Serves id none before (.readBatches "b.json" .json (.bytes [2]) () 10) := by
  have hWeb := (rows_from_own_query_iff sampleLibraries sampleClient id none false
    [.schema aQuery, .readTabular ⟨aQuery, ()⟩ 10] sampleWeb sampleBucket).1
  have hBucket := (rows_from_own_query_iff sampleLibraries sampleClient id none false
    [.schema "a.json", .readTabular ⟨"b.json", ()⟩ 10] sampleWeb sampleBucket).2
  constructor
  · refine ⟨_, rfl, (hWeb _ ⟨.readBatches aQuery ⟨.csv, [1]⟩ () 10 none, .ok ()⟩ [] rfl).1 ?_⟩
    exact .inr rfl
  · exact ⟨_, rfl, hBucket _ ⟨.readBatches "b.json" .json (.bytes [2]) () 10, .ok ()⟩ [] rfl⟩

end Samples

end DataConnectHub.Connectors
