import DataConnectHub.Api.Validation
import DataConnectHub.RustStd.Result
import Mathlib.Logic.Function.Basic

/-! The connectors of the Flight service. A connector turns credentials into a
client of a data source and keeps one client per connection. What a client is
depends on the credentials alone; only PostgreSQL is contacted when a client
is made. The readers of a connector work through its client. -/
namespace DataConnectHub.Flight

open Serde RustStd

inductive ConnectorError where
  | sqlError (reason : String)
  | connectionError (reason : String)
  | noDataError
  | invalidRequest (reason : String)
  | configError (reason : String)
  | ioError (reason : String)
  | notFound (reason : String)
  | unsupportedOperation (reason : String)
  deriving DecidableEq, Repr

section Clients

structure PgConnectOptions where
  url : String
  sslRootCert : Option String
  deriving DecidableEq

/-- An operator on a bucket, with the certificates its transport trusts. -/
structure S3Operator where
  bucket : String
  accessKeyId : String
  secretAccessKey : String
  region : String
  endpoint : Option String
  certificates : Option String
  deriving DecidableEq

structure Url where
  origin : String
  path : String
  query : Option String
  fragment : Option String
  deriving DecidableEq

inductive UriAuth where
  | none
  | token (token : String)
  | basic (username password : String)
  deriving DecidableEq

structure UriClient where
  rootCertificate : Option String
  baseUrl : Url
  auth : UriAuth
  deriving DecidableEq

inductive Method where
  | get
  | head
  deriving DecidableEq

structure HttpRequest where
  method : Method
  url : Url
  auth : UriAuth
  rootCertificate : Option String
  deriving DecidableEq

inductive SourceClient where
  | pg (pool : PgConnectOptions)
  | s3 (operator : S3Operator)
  | uri (client : UriClient)
  deriving DecidableEq

end Clients

/-- What the libraries under the connectors decide without any data source:
which texts are URLs and certificates, and which clients can be configured.
An error is the text of the library. -/
structure Drivers where
  pgConnectOptions : String → Except String Unit
  s3Operator : S3Operator → Except String Unit
  pemBundle : String → Except String Nat
  tlsClient : String → Except String Unit
  parseUrl : String → Except String Url
  setPath : Url → String → Url
  join : Url → String → Except String Url
  certificate : String → Except String Unit
  httpClient : Option String → Except String Unit

/-- How the data sources behave: whether a pool can be opened, and what the
answer to each request is. -/
structure DataSource where
  connect : PgConnectOptions → Except String Unit
  select1 : PgConnectOptions → Except String Unit
  check : S3Operator → Except String Unit
  send : HttpRequest → Except String Nat

def keyUri : String := "URI"
def keyCaCert : String := "CA_CERT"
def keyToken : String := "TOKEN"
def keyUsername : String := "USERNAME"
def keyPassword : String := "PASSWORD"

namespace S3

def keyBucket : String := "AWS_S3_BUCKET"
def keyAccessKeyId : String := "AWS_ACCESS_KEY_ID"
def keySecretAccessKey : String := "AWS_SECRET_ACCESS_KEY"
def keyRegion : String := "AWS_DEFAULT_REGION"
def keyEndpoint : String := "AWS_S3_ENDPOINT"
def keyCaCert : String := "AWS_S3_CA_CERT"

end S3

section Build

variable (drivers : Drivers) (credentials : StringMap String)

def pgConnectOptions : Except ConnectorError PgConnectOptions := do
  let url ← okOr (.connectionError s!"'{keyUri}' credential is required") (credentials.lookup keyUri)
  mapErr (fun error => .connectionError s!"invalid PostgreSQL URL: {error}") (drivers.pgConnectOptions url)
  return ⟨url, credentials.lookup keyCaCert⟩

def S3.resolveRegion : String :=
  match ((credentials.lookup S3.keyRegion).map trim).filter fun region => !region.isEmpty with
  | some region => region
  | none => "us-east-1"

def S3.buildHttpTransport (caCert : String) : Except ConnectorError Unit := do
  let certificates ← mapErr (fun error => .configError s!"{S3.keyCaCert} contains invalid PEM data: {error}")
    (drivers.pemBundle caCert)
  if certificates = 0 then
    throw (.configError s!"{S3.keyCaCert} must contain at least one certificate")
  mapErr (fun error => .configError s!"failed to configure S3 TLS client: {error}") (drivers.tlsClient caCert)

/-- Certificates are looked at only after the operator itself has been made. -/
def S3.buildOperator : Except ConnectorError S3Operator := do
  let bucket ← okOr (.configError s!"{S3.keyBucket} is required") (credentials.lookup S3.keyBucket)
  let accessKey ← okOr (.configError s!"{S3.keyAccessKeyId} is required") (credentials.lookup S3.keyAccessKeyId)
  let secretKey ← okOr (.configError s!"{S3.keySecretAccessKey} is required") (credentials.lookup S3.keySecretAccessKey)
  let endpoint := ((credentials.lookup S3.keyEndpoint).map trim).filter fun endpoint => !endpoint.isEmpty
  let operator : S3Operator :=
    ⟨bucket, accessKey, secretKey, S3.resolveRegion credentials, endpoint, none⟩
  mapErr (fun error => .connectionError s!"failed to create S3 operator: {error}") (drivers.s3Operator operator)
  match (credentials.lookup S3.keyCaCert).filter fun value => !isBlank value with
  | some caCert =>
    S3.buildHttpTransport drivers caCert
    return { operator with certificates := some caCert }
  | none => return operator

def uriAuth : UriAuth :=
  match credentials.lookup keyToken, credentials.lookup keyUsername, credentials.lookup keyPassword with
  | some token, _, _ => .token token
  | none, some username, some password => .basic username password
  | none, _, _ => .none

def buildClient : Except ConnectorError UriClient := do
  let rawUrl ← okOr (.connectionError s!"'{keyUri}' credential is required") (credentials.lookup keyUri)
  let parsed ← mapErr (fun error => .connectionError s!"Invalid URI: {error}") (drivers.parseUrl rawUrl)
  let url : Url := { parsed with query := none, fragment := none }
  let baseUrl := if url.path.toList.getLast? = some '/' then url else drivers.setPath url (url.path ++ "/")
  match credentials.lookup keyCaCert with
  | some caPem =>
    mapErr (fun error => .connectionError s!"Invalid CA certificate: {error}") (drivers.certificate caPem)
  | none => pure ()
  mapErr (fun error => .connectionError s!"Failed to build HTTP client: {error}")
    (drivers.httpClient (credentials.lookup keyCaCert))
  return ⟨credentials.lookup keyCaCert, baseUrl, uriAuth credentials⟩

end Build

inductive Provider where
  | postgres
  | s3
  | uri
  deriving DecidableEq, Repr

namespace Provider

def name : Provider → String
  | .postgres => "postgres"
  | .s3 => "s3"
  | .uri => "uri"

instance {Holds : Provider → Prop} [DecidablePred Holds] : Decidable (∀ provider, Holds provider) :=
  decidable_of_iff (Holds .postgres ∧ Holds .s3 ∧ Holds .uri) ⟨fun ⟨hPostgres, hS3, hUri⟩ => fun
      | .postgres => hPostgres
      | .s3 => hS3
      | .uri => hUri,
    fun h => ⟨h .postgres, h .s3, h .uri⟩⟩

/-- The client that the credentials describe. -/
def configure (drivers : Drivers) (credentials : StringMap String) : Provider → Except ConnectorError SourceClient
  | .postgres => (pgConnectOptions drivers credentials).map .pg
  | .s3 => (S3.buildOperator drivers credentials).map .s3
  | .uri => (buildClient drivers credentials).map .uri

end Provider

/-- Making a client contacts the data source only for PostgreSQL, whose pool
opens a connection. -/
def SourceClient.connect (source : DataSource) : SourceClient → Except ConnectorError Unit
  | .pg pool => mapErr (fun error => .connectionError s!"unable to connect to PostgreSQL: {error}")
      (source.connect pool)
  | .s3 _ => .ok ()
  | .uri _ => .ok ()

def Provider.newClient (drivers : Drivers) (source : DataSource) (provider : Provider)
    (credentials : StringMap String) : Except ConnectorError SourceClient := do
  let client ← provider.configure drivers credentials
  client.connect source
  return client

/-- The clients that the connectors keep, by connection id. -/
abbrev ClientCache := Provider → String → Option SourceClient

def ClientCache.empty : ClientCache := fun _ _ => none

def ClientCache.insert (cache : ClientCache) (provider : Provider) (id : String) (client : SourceClient) :
    ClientCache :=
  Function.update cache provider (Function.update (cache provider) id (some client))

abbrev CredentialsResolver := DataConnectionResource → Except ConnectorError (StringMap String)

/-- `try_get_with` on the client of the connection: the credentials are
resolved only when the connector has none. -/
def getReader (drivers : Drivers) (source : DataSource) (provider : Provider)
    (dataConnection : DataConnectionResource) (resolver : CredentialsResolver) (cache : ClientCache) :
    Except ConnectorError SourceClient × ClientCache :=
  match cache provider dataConnection.metadata.id with
  | some client => (.ok client, cache)
  | none =>
    match resolver dataConnection >>= provider.newClient drivers source with
    | .ok client => (.ok client, cache.insert provider dataConnection.metadata.id client)
    | .error error => (.error error, cache)

/-- A path may lead neither to another origin nor out of the base path. -/
def UriClient.request (drivers : Drivers) (client : UriClient) (method : Method) (path : String) :
    Except ConnectorError HttpRequest := do
  let url ← mapErr (fun error => .invalidRequest s!"Invalid path '{path}': {error}") (drivers.join client.baseUrl path)
  if url.origin ≠ client.baseUrl.origin ∨ ¬client.baseUrl.path.toList.isPrefixOf url.path.toList then
    throw (.invalidRequest s!"Path '{path}' must not escape the base URI")
  return ⟨method, url, client.auth, client.rootCertificate⟩

/-- The check that a reader makes of its data source. -/
def SourceClient.checkConnection (drivers : Drivers) (source : DataSource) : SourceClient → Except ConnectorError Unit
  | .pg pool => mapErr (fun _ => .connectionError "PostgreSQL connection check failed") (source.select1 pool)
  | .s3 operator => mapErr (fun error => .connectionError s!"S3 connection check failed: {error}")
      (source.check operator)
  | .uri client => do
      let request ← client.request drivers .head ""
      let status ← mapErr (fun error => .connectionError s!"Connection test failed: {error}") (source.send request)
      if status = 401 then throw (.connectionError "Authentication failed (HTTP 401 Unauthorized)")
      if status = 403 then throw (.connectionError "Authentication failed (HTTP 403 Forbidden)")

section Lookups

variable {drivers : Drivers} {first second : StringMap String}

/-- The connectors read single credentials, so the order in which a map holds
them does not matter. -/
theorem Provider.configure_congr (h : ∀ key, first.lookup key = second.lookup key) (provider : Provider) :
    provider.configure drivers first = provider.configure drivers second := by
  cases provider with
  | postgres => simp only [configure, pgConnectOptions, h]
  | s3 => simp only [configure, S3.buildOperator, S3.resolveRegion, h]
  | uri => simp only [configure, buildClient, uriAuth, h]

end Lookups

section Reader

variable {drivers : Drivers} {source : DataSource} {provider : Provider}
  {dataConnection : DataConnectionResource} {resolver : CredentialsResolver} {cache : ClientCache}
  {client : SourceClient}

theorem ClientCache.insert_self (cache : ClientCache) (provider : Provider) (id : String)
    (client : SourceClient) : cache.insert provider id client provider id = some client := by
  simp [insert]

theorem ClientCache.insert_other (cache : ClientCache) {provider other : Provider} {id otherId : String}
    (client : SourceClient) (h : ¬(other = provider ∧ otherId = id)) :
    cache.insert provider id client other otherId = cache other otherId := by
  by_cases hProvider : other = provider
  · have hId : otherId ≠ id := fun hSame => h ⟨hProvider, hSame⟩
    subst hProvider
    simp [insert, hId]
  · simp [insert, hProvider]

theorem Provider.configure_of_newClient {credentials : StringMap String}
    (h : provider.newClient drivers source credentials = .ok client) :
    provider.configure drivers credentials = .ok client := by
  obtain ⟨made, hMade, hRest⟩ := bind_eq_ok.mp h
  obtain ⟨-, -, hClient⟩ := bind_eq_ok.mp hRest
  cases hClient
  exact hMade

theorem getReader_miss (h : cache provider dataConnection.metadata.id = none) :
    (getReader drivers source provider dataConnection resolver cache).1 =
      resolver dataConnection >>= provider.newClient drivers source := by
  rw [getReader, h]
  cases resolver dataConnection >>= provider.newClient drivers source <;> rfl

/-- A reader works through the client that was there, or through one just made
from the credentials of the connection, which is kept. -/
theorem getReader_cases (drivers : Drivers) (source : DataSource) (provider : Provider)
    (dataConnection : DataConnectionResource) (resolver : CredentialsResolver) (cache : ClientCache) :
    (∃ client, cache provider dataConnection.metadata.id = some client ∧
      getReader drivers source provider dataConnection resolver cache = (.ok client, cache)) ∨
    (∃ credentials client, resolver dataConnection = .ok credentials ∧
      provider.configure drivers credentials = .ok client ∧
      getReader drivers source provider dataConnection resolver cache =
        (.ok client, cache.insert provider dataConnection.metadata.id client)) ∨
    ∃ error, getReader drivers source provider dataConnection resolver cache = (.error error, cache) := by
  unfold getReader
  cases hCached : cache provider dataConnection.metadata.id with
  | some client => exact .inl ⟨client, rfl, rfl⟩
  | none =>
    right
    cases hResolved : resolver dataConnection with
    | error error => exact .inr ⟨error, rfl⟩
    | ok credentials =>
      change _ ∨ ∃ error, (match provider.newClient drivers source credentials with
        | .ok client => (Except.ok client, cache.insert provider dataConnection.metadata.id client)
        | .error error => (.error error, cache)) = (.error error, cache)
      cases hNew : provider.newClient drivers source credentials with
      | error error => exact .inr ⟨error, rfl⟩
      | ok client =>
        refine .inl ⟨credentials, client, rfl, Provider.configure_of_newClient hNew, ?_⟩
        change (match provider.newClient drivers source credentials with
          | .ok client => (Except.ok client, cache.insert provider dataConnection.metadata.id client)
          | .error error => (.error error, cache)) = _
        rw [hNew]

end Reader

end DataConnectHub.Flight
