import DataConnectHub.Connectors.FileReaders
import DataConnectHub.Connectors.UriPaths
import DataConnectHub.RustStd.TryStream

/-! Tabular and binary reads of the URI connector. Both join a path to the base of
the client. A tabular read takes the path from its query and drops the slashes it
begins with; a binary read takes the path as it is. -/
namespace DataConnectHub.Connectors.Uri

open Flight Interaction RustStd Serde List

section Binary

/-- An answer to a binary read: its body as a text, or in chunks as they arrive. -/
structure BinaryResponse where
  status : Nat
  text : Except String String
  chunks : List (Except String (List UInt8))

abbrev BinaryProgram (Result : Type) := Program HttpRequest (fun _ => Except String BinaryResponse) Result

variable (libraries : Libraries)

/-- A request for a path is sent, unless the client rejects the path. -/
def UriReader.send {Value : Type} (reader : UriReader) (method : Method) (path : String)
    (next : Except String BinaryResponse → BinaryProgram (Except ConnectorError Value)) :
    BinaryProgram (Except ConnectorError Value) :=
  match reader.client.request libraries.drivers method path with
  | .error e => .done (.error e)
  | .ok http => .call http next

/-- `UriReader::can_read_binary`. -/
def UriReader.canReadBinary (reader : UriReader) (path : String) : BinaryProgram (Except ConnectorError Unit) :=
  reader.send libraries .head path fun
    | .error e => .done (.error (.connectionError s!"HTTP HEAD failed: {e}"))
    | .ok response =>
      if response.status = 404 then .done (.error (.notFound s!"'{path}' not found"))
      else if ¬(200 ≤ response.status ∧ response.status < 300) then
        .done (.error (.ioError (s!"Cannot read '{path}': HTTP " ++ libraries.statusText response.status)))
      else .done (.ok ())

/-- The batches of a body: a chunk is the only cell of its batch. -/
def binaryBatches : List (Except String (List UInt8)) → TryStream (List UInt8) ConnectorError Unit
  | [] => .pure ()
  | .error e :: _ => .throw (.ioError s!"Stream read error: {e}")
  | .ok chunk :: rest => (TryStream.yield chunk).andThen fun _ => binaryBatches rest

/-- `UriReader::read_binary`. -/
def UriReader.readBinary (reader : UriReader) (path : String) :
    BinaryProgram (Except ConnectorError (TryStream (List UInt8) ConnectorError Unit)) :=
  reader.send libraries .get path fun
    | .error e => .done (.error (.connectionError s!"HTTP request failed: {e}"))
    | .ok response =>
      if response.status = 404 then .done (.error (.notFound s!"'{path}' not found"))
      else if ¬(200 ≤ response.status ∧ response.status < 300) then
        .done (.error (.connectionError ("HTTP request failed (status " ++
          libraries.statusText response.status ++ "): " ++ response.text.toOption.getD "")))
      else .done (.ok (binaryBatches response.chunks))

end Binary

section Requests

variable {Schema Output Result : Type}

/-- The URL that a tabular read asks for first; nothing if it refuses the path. -/
def tabularUrl : UriProgram Schema Output Result → Option Url
  | .call (.get _ request) _ => some request.url
  | _ => none

def binaryUrl : BinaryProgram Result → Option Url
  | .call request _ => some request.url
  | .done _ => none

/-- All reads of a path ask for one URL, or all of them refuse the path. The query
is that of the tabular reads. -/
structure SameObject (libraries : Libraries) (reader : UriReader) (view : Query Schema) (batchSize : Nat)
    (Output : Type) (path : String) : Prop where
  schema : tabularUrl (reader.schema libraries view.query : UriProgram Schema Output _) =
    binaryUrl (reader.readBinary libraries path)
  readTabular : tabularUrl (reader.readTabular libraries view batchSize : UriProgram Schema Output _) =
    binaryUrl (reader.readBinary libraries path)
  canReadBinary : binaryUrl (reader.canReadBinary libraries path) = binaryUrl (reader.readBinary libraries path)

def trimSlashes (path : String) : String := .ofList (path.toList.dropWhile (· == '/'))

variable {libraries : Libraries} {reader : UriReader} {view : Query Schema} {batchSize : Nat} {path : String}

theorem binaryUrl_send {Value : Type} (libraries : Libraries) (reader : UriReader) (method : Method) (path : String)
    (next : Except String BinaryResponse → BinaryProgram (Except ConnectorError Value)) :
    binaryUrl (reader.send libraries method path next) = requestUrl libraries.drivers reader.client path := by
  rw [UriReader.send]
  rcases request_cases libraries.drivers reader.client method path with
    ⟨reason, hNone, hRequest⟩ | ⟨url, hUrl, hRequest⟩
  · rw [hRequest, hNone]
    rfl
  · rw [hRequest, hUrl]
    rfl

/-- Fetching asks for the URL of the request, whatever is done with the response. -/
theorem tabularUrl_fetchResponse (query : String) (request : UriRequest)
    (rest : Except ConnectorError CachedResponse → UriProgram Schema Output Result)
    (hRest : ∀ e, tabularUrl (rest (.error e)) = none) :
    tabularUrl ((fetchResponse libraries reader.client query request).bind rest) =
      requestUrl libraries.drivers reader.client request.path := by
  rw [fetchResponse]
  rcases request_cases libraries.drivers reader.client .get request.path with
    ⟨reason, hNone, hRequest⟩ | ⟨url, hUrl, hRequest⟩
  · rw [hRequest, hNone]
    exact hRest _
  · rw [hRequest, hUrl]
    rfl

theorem sameObject_iff (hQuery : libraries.fromStr view.query = .ok (.object [("path", .string path)]))
    (hCache : reader.cachedResponse = none) :
    SameObject libraries reader view batchSize Output path ↔
      requestUrl libraries.drivers reader.client (trimSlashes path) =
        requestUrl libraries.drivers reader.client path := by
  have hParse : UriRequest.parse libraries.fromStr view.query = .ok ⟨trimSlashes path, none, none⟩ := by
    rw [UriRequest.parse, hQuery]
    rfl
  have hSchema : tabularUrl (reader.schema libraries view.query : UriProgram Schema Output _) =
      requestUrl libraries.drivers reader.client (trimSlashes path) := by
    rw [UriReader.schema, hParse]
    exact tabularUrl_fetchResponse _ _ _ fun _ => rfl
  have hRead : tabularUrl (reader.readTabular libraries view batchSize : UriProgram Schema Output _) =
      requestUrl libraries.drivers reader.client (trimSlashes path) := by
    rw [UriReader.readTabular, hParse, hCache]
    exact tabularUrl_fetchResponse _ _ _ fun _ => rfl
  constructor
  · intro h
    rw [← hSchema, h.schema, UriReader.readBinary, binaryUrl_send]
  · intro h
    refine ⟨?_, ?_, ?_⟩
    · rw [hSchema, h, UriReader.readBinary, binaryUrl_send]
    · rw [hRead, h, UriReader.readBinary, binaryUrl_send]
    · rw [UriReader.canReadBinary, UriReader.readBinary, binaryUrl_send, binaryUrl_send]

end Requests

section Ordinary

/-- A character that is no more than itself in the path of a URL, or its escape. -/
def PlainChar (c : Char) : Prop := ' ' < c ∧ c ∉ ['/', '\\', '?', '#', ':']

instance decidablePlainChar (c : Char) : Decidable (PlainChar c) := inferInstanceAs (Decidable (_ ∧ _))

/-- Segments, the first of them not empty, of such characters. A dot segment is one
without escapes. -/
structure Ordinary (parts : List Uri.Segment) : Prop where
  head : ∃ first rest, parts = first :: rest ∧ first ≠ []
  chars : ∀ part ∈ parts, ∀ c ∈ part, PlainChar c
  dots : ∀ part ∈ parts, Uri.IsDot part ∨ ¬IsDotted part

/-- Segments that stay what they are in a path. -/
structure Plain (parts : List Uri.Segment) : Prop extends Ordinary parts where
  dotFree : ∀ part ∈ parts, ¬IsDotted part

def textOf (parts : List Uri.Segment) : List Char := ['/'].intercalate parts

/-- What the URL standard says of ordinary paths that are joined to a base with the
scheme `http` or `https`. Dot segments are removed. After two slashes or more the
first segment is a host, which may be refused. -/
structure Joins (drivers : Drivers) (base : Url) where
  encode : Uri.Segment → Uri.Segment
  encode_ne_nil : ∀ {part : Uri.Segment}, part ≠ [] → encode part ≠ []
  encode_slash : ∀ {part : Uri.Segment}, '/' ∉ part → '/' ∉ encode part
  encode_plain : ∀ {part : Uri.Segment}, ¬IsDotted part → ¬Uri.IsDot (encode part)
  base_plain : ∀ part ∈ Uri.segments (directoryOf base.path), ¬Uri.IsDot part
  relative : ∀ {parts : List Uri.Segment}, Ordinary parts → drivers.join base (.ofList (textOf parts)) =
    .ok ⟨base.origin, .ofList (Uri.pathText (Uri.removeDotSegments
      (Uri.segments (directoryOf base.path) ++ parts.map encode))), none, none⟩
  absolute : ∀ {parts : List Uri.Segment}, Ordinary parts → drivers.join base (.ofList ('/' :: textOf parts)) =
    .ok ⟨base.origin, .ofList (Uri.pathText (Uri.removeDotSegments (parts.map encode))), none, none⟩
  authority : ∀ {first : Uri.Segment} {rest : List Uri.Segment} {slashes : Nat} {url : Url}, Plain (first :: rest) →
    2 ≤ slashes → drivers.join base (.ofList (List.replicate slashes '/' ++ textOf (first :: rest))) = .ok url →
    url.path.toList = '/' :: textOf (rest.map encode)

variable (first : Uri.Segment) (rest : List Uri.Segment)

theorem textOf_cons : textOf (first :: rest) = first ++ (if rest = [] then [] else '/' :: textOf rest) := by
  cases rest with
  | nil => simp [textOf, intercalate]
  | cons second rest => simp [textOf, intercalate, intersperse]

/-- The text begins with a character that is no slash. -/
theorem Ordinary.textOf_eq (h : Ordinary parts) : ∃ c chars, textOf parts = c :: chars ∧ c ≠ '/' := by
  obtain ⟨first, rest, rfl, hSome⟩ := h.head
  obtain ⟨c, chars, rfl⟩ := exists_cons_of_ne_nil hSome
  refine ⟨c, _, by rw [textOf_cons, cons_append], ?_⟩
  rintro rfl
  exact (h.chars _ (mem_cons_self ..) '/' (mem_cons_self ..)).2 (mem_cons_self ..)

/-- No slash is dropped from the text but those before it. -/
theorem Ordinary.trimSlashes_eq (h : Ordinary parts) (slashes : Nat) :
    trimSlashes (.ofList (List.replicate slashes '/' ++ textOf parts)) = .ofList (textOf parts) := by
  obtain ⟨c, chars, hText, hNoSlash⟩ := h.textOf_eq
  rw [trimSlashes, String.toList_ofList, hText]
  congr 1
  induction slashes with
  | zero => simp [hNoSlash]
  | succ slashes ih => rw [replicate_succ, cons_append, dropWhile_cons_of_pos rfl, ih]

variable {path : String}

theorem trimSlashes_eq_self (h : path.toList.head? ≠ some '/') : trimSlashes path = path := by
  have hKept : path.toList.dropWhile (· == '/') = path.toList := by
    cases hChars : path.toList with
    | nil => rfl
    | cons c chars =>
      rw [hChars, head?_cons, ne_eq, Option.some.injEq] at h
      exact dropWhile_cons_of_neg (by simpa using h)
  rw [trimSlashes, hKept, String.ofList_toList]

/-- From the base and from the root the same object is meant, or none: the path
climbs out of the whole base, or out of a part of it and then enters the base neither
from there nor from the root. -/
def SameFromRoot (base parts : List Uri.Segment) : Prop :=
  base.length ≤ Uri.climb [] parts ∨
    ¬Uri.Enters (base.drop (base.length - Uri.climb [] parts)) (Uri.removeDotSegments parts) ∧
      ¬Uri.Enters base (Uri.removeDotSegments parts)

instance decidableSameFromRoot (base parts : List Uri.Segment) : Decidable (SameFromRoot base parts) :=
  inferInstanceAs (Decidable (_ ∨ _))

variable {drivers : Drivers} {client : UriClient} {parts : List Uri.Segment}

/-- A base whose path has one slash at its end. -/
def EndsInSlash (base : Url) : Prop :=
  base.path.toList = directoryOf base.path ++ ['/'] ∧
    (directoryOf base.path = [] ∨ (directoryOf base.path).head? = some '/')

section

variable (hBase : EndsInSlash client.baseUrl) (hParts : ∀ part ∈ parts, '/' ∉ part)
  (hJoin : drivers.join client.baseUrl path = .ok ⟨client.baseUrl.origin, .ofList (Uri.pathText parts), none, none⟩)

include hBase hParts hJoin

theorem requestUrl_of_enters (h : Uri.Enters (Uri.segments (directoryOf client.baseUrl.path)) parts) :
    requestUrl drivers client path = some ⟨client.baseUrl.origin, .ofList (Uri.pathText parts), none, none⟩ := by
  refine requestUrl_eq_some.mpr ⟨hJoin, rfl, ?_⟩
  rw [hBase.1, String.toList_ofList]
  exact (Uri.leads_pathText_iff hBase.2 hParts).mpr h

theorem requestUrl_of_not_enters (h : ¬Uri.Enters (Uri.segments (directoryOf client.baseUrl.path)) parts) :
    requestUrl drivers client path = none := by
  rw [Option.eq_none_iff_forall_ne_some]
  intro url hUrl
  obtain ⟨hJoined, -, hLeads⟩ := requestUrl_eq_some.mp hUrl
  cases hJoin.symm.trans hJoined
  rw [hBase.1, String.toList_ofList] at hLeads
  exact h ((Uri.leads_pathText_iff hBase.2 hParts).mp hLeads)

end

/-- Two paths are requested alike if they have the same segments, or if neither lies
under the base. -/
theorem requestUrl_eq_iff {first second : String} {other : List Uri.Segment} (hBase : EndsInSlash client.baseUrl)
    (hParts : ∀ part ∈ parts, '/' ∉ part) (hOther : ∀ part ∈ other, '/' ∉ part)
    (hFirst : drivers.join client.baseUrl first = .ok ⟨client.baseUrl.origin, .ofList (Uri.pathText parts), none, none⟩)
    (hSecond : drivers.join client.baseUrl second =
      .ok ⟨client.baseUrl.origin, .ofList (Uri.pathText other), none, none⟩) :
    requestUrl drivers client first = requestUrl drivers client second ↔
      parts = other ∨ ¬Uri.Enters (Uri.segments (directoryOf client.baseUrl.path)) parts ∧
        ¬Uri.Enters (Uri.segments (directoryOf client.baseUrl.path)) other := by
  constructor
  · intro hSame
    by_cases hOne : Uri.Enters (Uri.segments (directoryOf client.baseUrl.path)) parts
    · rw [requestUrl_of_enters hBase hParts hFirst hOne] at hSame
      obtain ⟨hJoin, -⟩ := requestUrl_eq_some.mp hSame.symm
      have hText := congrArg Url.path (Except.ok.inj (hJoin.symm.trans hSecond))
      rw [String.ofList_inj] at hText
      left
      rw [← Uri.segments_pathText hParts, hText, Uri.segments_pathText hOther]
    · rw [requestUrl_of_not_enters hBase hParts hFirst hOne] at hSame
      refine .inr ⟨hOne, fun hTwo => ?_⟩
      rw [requestUrl_of_enters hBase hOther hSecond hTwo] at hSame
      cases hSame
  · rintro (rfl | ⟨hOne, hTwo⟩)
    · rw [requestUrl, requestUrl, hFirst, hSecond]
    · rw [requestUrl_of_not_enters hBase hParts hFirst hOne, requestUrl_of_not_enters hBase hOther hSecond hTwo]

section Targets

variable (joins : Joins drivers client.baseUrl) (h : Ordinary parts)

include h

theorem Ordinary.encode_slash {part : Uri.Segment} (hPart : part ∈ parts.map joins.encode) : '/' ∉ part := by
  obtain ⟨source, hSource, rfl⟩ := mem_map.mp hPart
  exact joins.encode_slash fun hSlash => (h.chars source hSource '/' hSlash).2 (mem_cons_self ..)

theorem Joins.absolute_slash : ∀ part ∈ Uri.removeDotSegments (parts.map joins.encode), '/' ∉ part := by
  intro part hPart
  rcases Uri.mem_removeDotSegments hPart with rfl | ⟨hMem, -⟩
  · simp
  · exact h.encode_slash joins hMem

theorem Joins.relative_slash : ∀ part ∈ Uri.removeDotSegments
    (Uri.segments (directoryOf client.baseUrl.path) ++ parts.map joins.encode), '/' ∉ part := by
  intro part hPart
  rcases Uri.mem_removeDotSegments hPart with rfl | ⟨hMem, -⟩
  · simp
  · rcases mem_append.mp hMem with hBase | hMem
    · exact Uri.slash_notMem_of_mem_segments hBase
    · exact h.encode_slash joins hMem

theorem Joins.relative_climb : Uri.removeDotSegments
    (Uri.segments (directoryOf client.baseUrl.path) ++ parts.map joins.encode) =
      (Uri.segments (directoryOf client.baseUrl.path)).take
        ((Uri.segments (directoryOf client.baseUrl.path)).length - Uri.climb [] (parts.map joins.encode)) ++
      Uri.removeDotSegments (parts.map joins.encode) := by
  refine Uri.removeDotSegments_climb joins.base_plain ?_
  obtain ⟨first, rest, rfl, -⟩ := h.head
  exact cons_ne_nil _ _

/-- One slash before an ordinary path. -/
theorem Joins.absolute_agrees_iff (hBase : EndsInSlash client.baseUrl) :
    requestUrl drivers client (.ofList (textOf parts)) = requestUrl drivers client (.ofList ('/' :: textOf parts)) ↔
      SameFromRoot (Uri.segments (directoryOf client.baseUrl.path)) (parts.map joins.encode) := by
  rw [requestUrl_eq_iff hBase (joins.relative_slash h) (joins.absolute_slash h) (joins.relative h) (joins.absolute h),
    joins.relative_climb h, Uri.enters_take_append, append_left_eq_self, take_eq_nil_iff, SameFromRoot]
  refine or_congr_left ⟨fun hNone => ?_, fun hWhole => .inl (Nat.sub_eq_zero_of_le hWhole)⟩
  rcases hNone with hWhole | hRoot
  · exact Nat.le_of_sub_eq_zero hWhole
  · rw [hRoot]
    exact Nat.zero_le _

end Targets

theorem length_textOf_cons : first.length + (textOf rest).length ≤ (textOf (first :: rest)).length := by
  rw [textOf_cons, length_append]
  split
  next hNone =>
      subst hNone
      exact Nat.le_refl _
  · rw [length_cons]
    omega

/-- A plain path is always accepted by a tabular read. -/
theorem Joins.requestUrl_relative (joins : Joins drivers client.baseUrl) (hBase : EndsInSlash client.baseUrl)
    (h : Plain parts) :
    requestUrl drivers client (.ofList (textOf parts)) = some ⟨client.baseUrl.origin, .ofList (Uri.pathText
      (Uri.segments (directoryOf client.baseUrl.path) ++ parts.map joins.encode)), none, none⟩ := by
  have hPlain : ∀ part ∈ parts.map joins.encode, ¬Uri.IsDot part := by
    intro part hPart
    obtain ⟨source, hSource, rfl⟩ := mem_map.mp hPart
    exact joins.encode_plain (h.dotFree source hSource)
  have hSome : parts.map joins.encode ≠ [] := by
    obtain ⟨first, rest, rfl, -⟩ := h.head
    exact cons_ne_nil _ _
  have hJoin := joins.relative h.toOrdinary
  have hSlash := joins.relative_slash h.toOrdinary
  rw [Uri.removeDotSegments_append hPlain hSome, Uri.directory_of_plain joins.base_plain] at hJoin hSlash
  exact requestUrl_of_enters hBase hSlash hJoin ⟨_, hSome, rfl⟩

/-- After two slashes another host is meant, or a shorter path. -/
theorem Joins.authority_disagrees (joins : Joins drivers client.baseUrl) (hBase : EndsInSlash client.baseUrl)
    (h : Plain parts) {slashes : Nat} (hSlashes : 2 ≤ slashes) :
    requestUrl drivers client (.ofList (textOf parts)) ≠
      requestUrl drivers client (.ofList (List.replicate slashes '/' ++ textOf parts)) := by
  rw [joins.requestUrl_relative hBase h]
  obtain ⟨first, rest, rfl, hSome⟩ := h.head
  intro hSame
  obtain ⟨hJoin, -⟩ := requestUrl_eq_some.mp hSame.symm
  have hPath := congrArg length (joins.authority h hSlashes hJoin)
  have hLonger := length_textOf_cons (joins.encode first) (rest.map joins.encode)
  have hFirst := length_pos_iff.mpr (joins.encode_ne_nil hSome)
  have hText : (Uri.pathText ((first :: rest).map joins.encode)).length =
      (textOf ((first :: rest).map joins.encode)).length + 1 := by
    rw [map_cons, Uri.pathText_cons]
    rfl
  rw [String.toList_ofList, Uri.pathText_append, length_append, hText, length_cons, map_cons] at hPath
  omega

end Ordinary

section Agreement

variable {Schema : Type}

/-- The base of a client has a path that ends in one slash, with the directory of the
base it was built from. -/
theorem endsInSlash_of_buildClient {drivers : Drivers} (standard : UrlStandard drivers)
    {credentials : StringMap String} {client : UriClient} {text : String} {base : Url}
    (hClient : buildClient drivers credentials = .ok client) (hText : credentials.lookup keyUri = some text)
    (hBase : drivers.parseUrl text = .ok base) (hHttp : (standard.parts base).IsHttp) :
    EndsInSlash client.baseUrl ∧ directoryOf client.baseUrl.path = directoryOf base.path := by
  obtain ⟨-, hPath⟩ := baseUrl_of_buildClient standard hClient hText hBase hHttp
  have hDirectory : directoryOf client.baseUrl.path = directoryOf base.path := by
    rw [directoryOf, hPath, getLast?_concat, if_pos rfl, dropLast_concat]
  have hHead := head_directoryOf (standard.parse_rooted hBase hHttp)
  refine ⟨⟨hPath.trans (by rw [hDirectory]), ?_⟩, hDirectory⟩
  rw [hDirectory]
  cases hChars : directoryOf base.path with
  | nil => exact .inl rfl
  | cons c chars =>
    rw [hChars] at hHead
    exact .inr hHead

/-- For every path that does not begin with a slash, tabular and binary reads ask
for one URL, whatever the base is. Under a base with the scheme `http` or `https` and
for ordinary paths they do so just if there is no slash before the path, or one slash
and the path means the same from the base and from the root. After more slashes, a
plain path never does. -/
theorem tabular_binary_same_iff (libraries : Libraries) (reader : UriReader) (view : Query Schema) (batchSize : Nat)
    (Output : Type) (path : String)
    (hQuery : libraries.fromStr view.query = .ok (.object [("path", .string path)]))
    (hCache : reader.cachedResponse = none) :
    (path.toList.head? ≠ some '/' → SameObject libraries reader view batchSize Output path) ∧
    ∀ (standard : UrlStandard libraries.drivers) (joins : Joins libraries.drivers reader.client.baseUrl)
      (credentials : StringMap String) (text : String) (base : Url) (slashes : Nat) (parts : List Uri.Segment),
      buildClient libraries.drivers credentials = .ok reader.client → credentials.lookup keyUri = some text →
      libraries.drivers.parseUrl text = .ok base → (standard.parts base).IsHttp → Ordinary parts →
      (2 ≤ slashes → Plain parts) → path = .ofList (List.replicate slashes '/' ++ textOf parts) →
      (SameObject libraries reader view batchSize Output path ↔ slashes = 0 ∨ slashes = 1 ∧
          SameFromRoot (Uri.segments (directoryOf base.path)) (parts.map joins.encode)) := by
  rw [sameObject_iff hQuery hCache]
  constructor
  · intro hStart
    rw [trimSlashes_eq_self hStart]
  · rintro standard joins credentials text base slashes parts hClient hText hBase hHttp hOrdinary hPlain rfl
    obtain ⟨hSlash, hDirectory⟩ := endsInSlash_of_buildClient standard hClient hText hBase hHttp
    rw [hOrdinary.trimSlashes_eq, ← hDirectory]
    rcases slashes with _ | _ | slashes
    · simp
    · rw [replicate_one, singleton_append, joins.absolute_agrees_iff hOrdinary hSlash]
      simp
    · have hMany : 2 ≤ slashes + 1 + 1 := Nat.le_add_left 2 slashes
      exact iff_of_false (joins.authority_disagrees hSlash (hPlain hMany) hMany) (by omega)

def plainLibraries : Libraries where
  fromStr := readPathQuery
  toLowercase := id
  parseMime _ := .error "none"
  statusText := toString
  text _ := ""
  drivers := plainDrivers

variable {parts : List Uri.Segment}

theorem splitOn_textOf (h : Ordinary parts) : (textOf parts).splitOn '/' = parts := by
  refine splitOn_intercalate '/' (fun part hPart hSlash => ?_) ?_
  · exact (h.chars part hPart '/' hSlash).2 (mem_cons_self ..)
  · obtain ⟨first, rest, rfl, -⟩ := h.head
    exact cons_ne_nil first rest

/-- The join of the sample for a path with known segments. -/
theorem plainDrivers_join {path : String}
    (hTarget : plainTarget plainClient.baseUrl path = .ofList (Uri.pathText (Uri.removeDotSegments parts)))
    (hSlashes : path.toList.take 2 ≠ ['/', '/']) (hParts : ∀ part ∈ parts, '/' ∉ part)
    (hDots : ∀ part ∈ parts, Uri.IsDot part ∨ ¬IsDotted part) :
    plainDrivers.join plainClient.baseUrl path =
      .ok ⟨plainClient.baseUrl.origin, .ofList (Uri.pathText (Uri.removeDotSegments parts)), none, none⟩ := by
  have hSlashFree : ∀ part ∈ Uri.removeDotSegments parts, '/' ∉ part := by
    intro part hPart
    rcases Uri.mem_removeDotSegments hPart with rfl | ⟨hMem, -⟩
    · simp
    · exact hParts part hMem
  refine (if_pos ⟨hSlashes, ?_⟩).trans (by rw [hTarget]; rfl)
  rw [hTarget, String.toList_ofList, Uri.segments_pathText hSlashFree]
  intro part hPart
  rcases Uri.mem_removeDotSegments hPart with rfl | ⟨hMem, hPlain⟩
  · decide
  · exact (hDots part hMem).resolve_left hPlain

def plainJoins : Joins plainDrivers plainClient.baseUrl where
  encode := id
  encode_ne_nil := id
  encode_slash := id
  encode_plain := by
    rintro part hPlain (rfl | rfl)
    · exact hPlain (by decide)
    · exact hPlain (by decide)
  base_plain := by decide
  relative := by
    intro parts hOrdinary
    obtain ⟨c, chars, hText, hNoSlash⟩ := hOrdinary.textOf_eq
    rw [List.map_id]
    refine plainDrivers_join ?_ ?_ ?_ ?_
    · rw [plainTarget, String.toList_ofList, if_neg (by simpa [hText] using hNoSlash), splitOn_textOf hOrdinary]
    · rw [String.toList_ofList, hText]
      simp [hNoSlash]
    · intro part hPart
      rcases List.mem_append.mp hPart with hBase | hMem
      · exact Uri.slash_notMem_of_mem_segments hBase
      · exact fun hSlash => (hOrdinary.chars part hMem '/' hSlash).2 (List.mem_cons_self ..)
    · have hBase : ∀ part ∈ Uri.segments (directoryOf plainClient.baseUrl.path), ¬IsDotted part := by decide
      intro part hPart
      rcases List.mem_append.mp hPart with hMem | hMem
      · exact .inr (hBase part hMem)
      · exact hOrdinary.dots part hMem
  absolute := by
    intro parts hOrdinary
    obtain ⟨c, chars, hText, hNoSlash⟩ := hOrdinary.textOf_eq
    rw [List.map_id]
    refine plainDrivers_join ?_ ?_ ?_ hOrdinary.dots
    · rw [plainTarget, String.toList_ofList, List.head?_cons, if_pos rfl]
      rw [← List.nil_append ('/' :: textOf parts), Uri.segments_append_slash, splitOn_textOf hOrdinary]
      rfl
    · rw [String.toList_ofList, hText]
      simp [hNoSlash]
    · exact fun part hPart hSlash => (hOrdinary.chars part hPart '/' hSlash).2 (List.mem_cons_self ..)
  authority := by
    intro first rest slashes url hPlain hSlashes hJoin
    obtain ⟨more, rfl⟩ := Nat.exists_eq_add_of_le' hSlashes
    have hRefused : plainDrivers.join plainClient.baseUrl
        (.ofList (List.replicate (more + 2) '/' ++ textOf (first :: rest))) = .error "refused" := by
      refine if_neg fun hAllowed => hAllowed.1 ?_
      rw [String.toList_ofList]
      rfl
    cases hRefused.symm.trans hJoin

theorem forall_chars_of_all (h : (parts.all fun part => part.all fun c => decide (PlainChar c)) = true) :
    ∀ part ∈ parts, ∀ c ∈ part, PlainChar c := by
  simpa using h

/-- One slash before a path under a base that has a path of its own, and the same
after the path has climbed out of it and back. -/
theorem tabular_binary_same_sample :
    ¬SameObject plainLibraries ⟨plainClient, none⟩ (⟨pathQuery "/x", ()⟩ : Query Unit) 512 Unit "/x" ∧
      SameObject plainLibraries ⟨plainClient, none⟩ (⟨pathQuery "/../v1/x", ()⟩ : Query Unit) 512 Unit "/../v1/x" := by
  have hClient : buildClient plainDrivers (AList.singleton keyUri "http://h/v1") = .ok plainClient := by decide
  have hAgrees (path : String) (parts : List Uri.Segment) (hOrdinary : Ordinary parts)
      (hPath : path = .ofList (replicate 1 '/' ++ textOf parts))
      (hRead : readPathQuery (pathQuery path) = .ok (.object [("path", .string path)])) :=
    (tabular_binary_same_iff plainLibraries ⟨plainClient, none⟩ (⟨pathQuery path, ()⟩ : Query Unit) 512 Unit path
      hRead rfl).2 plainStandard plainJoins (AList.singleton keyUri "http://h/v1") "http://h/v1"
      ⟨"http://h", "/v1", none, none⟩ 1 parts hClient (by decide) rfl (.inl rfl) hOrdinary (by omega) hPath
  constructor
  · rw [hAgrees "/x" [['x']] ⟨⟨_, _, rfl, by decide⟩, forall_chars_of_all (by decide), by decide⟩ rfl rfl]
    decide
  · rw [hAgrees "/../v1/x" [['.', '.'], ['v', '1'], ['x']]
      ⟨⟨_, _, rfl, by decide⟩, forall_chars_of_all (by decide), by decide⟩ rfl rfl]
    decide

/-- The tabular read asks for an object below the base, the binary reads refuse the
path. -/
theorem slash_splits_reads :
    tabularUrl (UriReader.schema plainLibraries ⟨plainClient, none⟩ (pathQuery "/x") : UriProgram Unit Unit _) =
        some ⟨"http://h", "/v1/x", none, none⟩ ∧
      binaryUrl (UriReader.canReadBinary plainLibraries ⟨plainClient, none⟩ "/x") = none ∧
      binaryUrl (UriReader.readBinary plainLibraries ⟨plainClient, none⟩ "/x") = none :=
  ⟨rfl, rfl, rfl⟩

end Agreement

end DataConnectHub.Connectors.Uri
