import DataConnectHub.Flight.Connectors
import DataConnectHub.Uri.Path
import DataConnectHub.Uri.PercentEncoding

/-! Requests of the URI connector stay under the base. A path is joined to the base
URL by the rules of the URL standard and then compared with it as a text; the base
ends in a slash by then, so that the comparison is one of segments. -/
namespace DataConnectHub.Connectors

open Serde Flight RustStd List

structure UrlParts where
  scheme : String
  host : Option String
  port : Option Nat
  deriving DecidableEq

def UrlParts.IsHttp (parts : UrlParts) : Prop := parts.scheme = "http" ∨ parts.scheme = "https"

/-- A segment that a reader may take as `.` or `..`, its escapes decoded. -/
def IsDotted (segment : Uri.Segment) : Prop :=
  Uri.percentDecode segment = some [46] ∨ Uri.percentDecode segment = some [46, 46]

instance decidableIsDotted : DecidablePred IsDotted :=
  fun _ => inferInstanceAs (Decidable (_ ∨ _))

/-- Only URLs with a hierarchy have a path of this kind. -/
def Rooted (url : Url) : Prop := url.path.toList.head? = some '/'

/-- What the URL library promises with the URL standard. An origin that is the
origin of an `http` URL stands for its scheme, host and port, unless the URL is
one without a hierarchy that refers to another. A slash can be added to a path that
has been parsed, and joining removes the dot segments, also where they are written
with escapes. -/
structure UrlStandard (drivers : Drivers) where
  parts : Url → UrlParts
  parts_eq : ∀ {base url : Url}, (parts base).IsHttp → url.origin = base.origin → Rooted url → parts url = parts base
  parse_rooted : ∀ {text : String} {url : Url}, drivers.parseUrl text = .ok url → (parts url).IsHttp → Rooted url
  setPath_slash : ∀ {text : String} {url : Url}, drivers.parseUrl text = .ok url → (parts url).IsHttp →
    drivers.setPath { url with query := none, fragment := none } (url.path ++ "/") =
      { url with path := url.path ++ "/", query := none, fragment := none }
  join_dots : ∀ {base url : Url} {path : String}, drivers.join base path = .ok url → Rooted url →
    ∀ segment ∈ Uri.segments url.path.toList, ¬IsDotted segment

/-- A path without the slash at its end. -/
def directoryOf (path : String) : List Char :=
  if path.toList.getLast? = some '/' then path.toList.dropLast else path.toList

/-- A URL under a base: its path has no dot segments and begins with the segments of
the base. -/
structure Under (base url : Url) : Prop where
  dotFree : ∀ segment ∈ Uri.segments url.path.toList, ¬IsDotted segment
  segments_leads : Uri.segments (directoryOf base.path) <+: Uri.segments url.path.toList

section Client

variable {drivers : Drivers} {credentials : StringMap String} {client : UriClient}

theorem of_buildClient (h : buildClient drivers credentials = .ok client) :
    ∃ text base, credentials.lookup keyUri = some text ∧ drivers.parseUrl text = .ok base ∧
      client.baseUrl = if base.path.toList.getLast? = some '/' then { base with query := none, fragment := none }
        else drivers.setPath { base with query := none, fragment := none } (base.path ++ "/") := by
  obtain ⟨text, hText, h⟩ := bind_eq_ok.mp h
  obtain ⟨base, hBase, h⟩ := bind_eq_ok.mp h
  have hClient : client.baseUrl = if base.path.toList.getLast? = some '/' then
      { base with query := none, fragment := none }
      else drivers.setPath { base with query := none, fragment := none } (base.path ++ "/") := by
    dsimp only at h
    split at h
    · obtain ⟨-, -, h⟩ := bind_eq_ok.mp h
      obtain ⟨-, -, h⟩ := bind_eq_ok.mp h
      cases h
      rfl
    · obtain ⟨-, -, h⟩ := bind_eq_ok.mp h
      cases h
      rfl
  exact ⟨text, base, okOr_eq_ok.mp hText, mapErr_eq_ok.mp hBase, hClient⟩

/-- The URL that a path leads to, if it has the origin and the beginning of the base. -/
def requestUrl (drivers : Drivers) (client : UriClient) (path : String) : Option Url :=
  match drivers.join client.baseUrl path with
  | .error _ => none
  | .ok url =>
    if url.origin = client.baseUrl.origin ∧ client.baseUrl.path.toList <+: url.path.toList then some url else none

variable {url base : Url}

theorem requestUrl_eq_some {path : String} :
    requestUrl drivers client path = some url ↔ drivers.join client.baseUrl path = .ok url ∧
      url.origin = client.baseUrl.origin ∧ client.baseUrl.path.toList <+: url.path.toList := by
  unfold requestUrl
  cases drivers.join client.baseUrl path with
  | error e => simp
  | ok found =>
    rw [Option.ite_none_right_eq_some, Option.some.injEq, Except.ok.injEq]
    constructor
    · rintro ⟨hStays, rfl⟩
      exact ⟨rfl, hStays⟩
    · rintro ⟨rfl, hStays⟩
      exact ⟨hStays, rfl⟩

/-- A path is refused, or its URL is requested. -/
theorem request_cases (drivers : Drivers) (client : UriClient) (method : Method) (path : String) :
    (∃ reason, requestUrl drivers client path = none ∧
      client.request drivers method path = .error (.invalidRequest reason)) ∨
    ∃ url, requestUrl drivers client path = some url ∧
      client.request drivers method path = .ok ⟨method, url, client.auth, client.rootCertificate⟩ := by
  unfold requestUrl UriClient.request
  cases drivers.join client.baseUrl path with
  | error e => exact .inl ⟨_, rfl, rfl⟩
  | ok url =>
    by_cases hEscapes : url.origin ≠ client.baseUrl.origin ∨ ¬client.baseUrl.path.toList.isPrefixOf url.path.toList
    · refine .inl ⟨s!"Path '{path}' must not escape the base URI", if_neg ?_, (if_pos hEscapes).trans rfl⟩
      rwa [List.isPrefixOf_iff_prefix, ← not_and_or] at hEscapes
    · refine .inr ⟨url, if_pos ?_, (if_neg hEscapes).trans rfl⟩
      rwa [List.isPrefixOf_iff_prefix, ← not_and_or, not_not] at hEscapes

/-- The base of a client is the given one without query and fragment, with one
slash at the end of its path. -/
theorem baseUrl_of_buildClient (standard : UrlStandard drivers) {text : String}
    (h : buildClient drivers credentials = .ok client) (hText : credentials.lookup keyUri = some text)
    (hBase : drivers.parseUrl text = .ok base) (hHttp : (standard.parts base).IsHttp) :
    client.baseUrl.origin = base.origin ∧ client.baseUrl.path.toList = directoryOf base.path ++ ['/'] := by
  obtain ⟨text', base', hText', hBase', hUrl⟩ := of_buildClient h
  obtain rfl : text' = text := Option.some.inj (hText'.symm.trans hText)
  obtain rfl : base' = base := Except.ok.inj (hBase'.symm.trans hBase)
  rw [hUrl, directoryOf]
  split
  next hSlash => exact ⟨rfl, (dropLast_append_getLast? '/' hSlash).symm⟩
  · rw [standard.setPath_slash hBase hHttp]
    exact ⟨rfl, String.toList_append⟩

theorem rooted_of_leads {start : List Char} (hStart : start.head? = some '/') (h : start <+: url.path.toList) :
    Rooted url := by
  obtain ⟨rest, hRest⟩ := h
  rw [Rooted, ← hRest, head?_append, hStart]
  rfl

theorem head_directoryOf (h : Rooted base) : (directoryOf base.path ++ ['/']).head? = some '/' := by
  rw [directoryOf]
  split
  next hSlash => rwa [dropLast_append_getLast? '/' hSlash]
  · rw [head?_append, h]
    rfl

/-- Texts that begin alike up to a slash have segments that begin alike. -/
theorem segments_leads_of {directory path : List Char} (h : directory ++ ['/'] <+: path) :
    Uri.segments directory <+: Uri.segments path := by
  obtain ⟨rest, rfl⟩ := h
  rw [append_assoc, singleton_append, Uri.segments_append_slash]
  exact prefix_append ..

/-- For every base URI with the scheme `http` or `https` and for every path: a
request that is built has the scheme, host and port of the base and lies under it
segment by segment; any other path is an invalid request. -/
theorem uri_requests_confined (drivers : Drivers) (standard : UrlStandard drivers) (credentials : StringMap String)
    (client : UriClient) (text : String) (base : Url) (method : Method) (path : String)
    (hClient : buildClient drivers credentials = .ok client) (hText : credentials.lookup keyUri = some text)
    (hBase : drivers.parseUrl text = .ok base) (hHttp : (standard.parts base).IsHttp) :
    (∃ reason, client.request drivers method path = .error (.invalidRequest reason)) ∨
    ∃ request, client.request drivers method path = .ok request ∧
      standard.parts request.url = standard.parts base ∧ Under base request.url := by
  obtain ⟨hOrigin, hPath⟩ := baseUrl_of_buildClient standard hClient hText hBase hHttp
  rcases request_cases drivers client method path with ⟨reason, -, hRefused⟩ | ⟨url, hUrl, hRequest⟩
  · exact .inl ⟨reason, hRefused⟩
  · obtain ⟨hJoin, hSame, hLeads⟩ := requestUrl_eq_some.mp hUrl
    rw [hPath] at hLeads
    have hRooted := rooted_of_leads (head_directoryOf (standard.parse_rooted hBase hHttp)) hLeads
    refine .inr ⟨_, hRequest, standard.parts_eq hHttp (hSame.trans hOrigin) hRooted, ?_, segments_leads_of hLeads⟩
    exact standard.join_dots hJoin hRooted

end Client

section Samples

def plainTarget (base : Url) (path : String) : String :=
  .ofList (Uri.pathText (Uri.removeDotSegments (if path.toList.head? = some '/' then Uri.segments path.toList
    else Uri.segments (directoryOf base.path) ++ path.toList.splitOn '/')))

/-- One base, `http://h/v1`, and a join that refuses escaped dot segments and other
hosts. -/
def plainDrivers : Drivers where
  pgConnectOptions _ := .ok ()
  s3Operator _ := .ok ()
  pemBundle _ := .ok 1
  tlsClient _ := .ok ()
  parseUrl _ := .ok ⟨"http://h", "/v1", none, none⟩
  setPath url path := { url with path := path }
  join base path :=
    if path.toList.take 2 ≠ ['/', '/'] ∧ ∀ segment ∈ Uri.segments (plainTarget base path).toList, ¬IsDotted segment then
      .ok { base with path := plainTarget base path }
    else .error "refused"
  certificate _ := .ok ()
  httpClient _ := .ok ()

def plainStandard : UrlStandard plainDrivers where
  parts url := if url.origin = "http://h" then ⟨"http", some "h", some 80⟩ else ⟨"", none, none⟩
  parts_eq := by
    intro base url _ hOrigin _
    rw [hOrigin]
  parse_rooted := by
    intro text url hParse _
    cases hParse
    rfl
  setPath_slash := by
    intro text url hParse _
    rfl
  join_dots := by
    intro base url path hJoin _
    change (if _ then _ else _) = _ at hJoin
    split at hJoin
    next hPlain =>
        cases hJoin
        exact hPlain.2
    · cases hJoin

def plainClient : UriClient := ⟨none, ⟨"http://h", "/v1/", none, none⟩, .none⟩

/-- A path below the base, and one that only begins with the same letters. -/
theorem uri_requests_confined_sample :
    buildClient plainDrivers (AList.singleton keyUri "http://h/v1") = .ok plainClient ∧
      (∃ request, plainClient.request plainDrivers .get "x" = .ok request ∧
        plainStandard.parts request.url = ⟨"http", some "h", some 80⟩ ∧
        Under ⟨"http://h", "/v1", none, none⟩ request.url) ∧
      ∃ reason, plainClient.request plainDrivers .get "/v10/x" = .error (.invalidRequest reason) := by
  have hBuilt : buildClient plainDrivers (AList.singleton keyUri "http://h/v1") = .ok plainClient := by decide
  have hConfined := fun path => uri_requests_confined plainDrivers plainStandard _ plainClient "http://h/v1"
    ⟨"http://h", "/v1", none, none⟩ .get path hBuilt (by decide) rfl (.inl rfl)
  refine ⟨hBuilt, (hConfined "x").resolve_left ?_, (hConfined "/v10/x").resolve_right ?_⟩
  · rintro ⟨reason, hRefused⟩
    cases hRefused
  · rintro ⟨request, hRequest, -⟩
    cases hRequest

end Samples

end DataConnectHub.Connectors
