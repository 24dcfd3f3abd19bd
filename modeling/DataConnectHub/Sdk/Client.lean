import DataConnectHub.Interaction.Traces
import DataConnectHub.PyStd.Float
import DataConnectHub.Sdk.Tokens

/-! The REST client of the SDK: how a request is authorized, sent, retried and, after
a 401 with a token provider, sent again with a fresh token. The code is a program
that talks to the HTTP library, the token provider, the clock and, where it is a
generator, to whoever consumes it. -/
namespace DataConnectHub.Sdk

open Interaction PyStd

section Http

/-- The classes below `httpx.RequestError`. -/
inductive RequestErrorClass where
  | connectTimeout
  | readTimeout
  | writeTimeout
  | poolTimeout
  | connectError
  | readError
  | writeError
  | closeError
  | localProtocolError
  | remoteProtocolError
  | proxyError
  | unsupportedProtocol
  | decodingError
  | tooManyRedirects
  deriving DecidableEq, Repr

namespace RequestErrorClass

def isTimeout : RequestErrorClass → Bool
  | connectTimeout | readTimeout | writeTimeout | poolTimeout => true
  | _ => false

/-- Below `httpx.TransportError`. -/
def isTransport : RequestErrorClass → Bool
  | decodingError | tooManyRedirects => false
  | _ => true

def name : RequestErrorClass → String
  | connectTimeout => "ConnectTimeout"
  | readTimeout => "ReadTimeout"
  | writeTimeout => "WriteTimeout"
  | poolTimeout => "PoolTimeout"
  | connectError => "ConnectError"
  | readError => "ReadError"
  | writeError => "WriteError"
  | closeError => "CloseError"
  | localProtocolError => "LocalProtocolError"
  | remoteProtocolError => "RemoteProtocolError"
  | proxyError => "ProxyError"
  | unsupportedProtocol => "UnsupportedProtocol"
  | decodingError => "DecodingError"
  | tooManyRedirects => "TooManyRedirects"

end RequestErrorClass

structure RequestError where
  errorClass : RequestErrorClass
  text : String
  deriving DecidableEq, Repr

/-- A response, with its body as it arrives and the error that breaks it off, if
one does. -/
structure Response where
  statusCode : Nat
  headers : List (String × String)
  chunks : List (List UInt8)
  failure : Option RequestError
  deriving DecidableEq, Repr

/-- All values of a header, whatever the case of its name. -/
def Response.header (response : Response) (name : String) : Option String :=
  match (response.headers.filter fun header => header.1.toLower == name).map Prod.snd with
  | [] => none
  | values => some (", ".intercalate values)

def Response.isSuccess (response : Response) : Bool :=
  200 ≤ response.statusCode && response.statusCode < 300

structure Request where
  method : Method
  target : String
  headers : List (String × PyStr)
  json : Option PyValue
  params : List (String × PyStr)

/-- The outcome of a send. Unless the response is streamed, its body is read before
it is returned. -/
def receive (stream : Bool) : Except RequestError Response → Except RequestError Response
  | .error error => .error error
  | .ok response =>
    match response.failure with
    | some error => if stream then .ok response else .error error
    | none => .ok response

/-- What is used of the libraries below: the character database behind `upper`, `lower`
and `float`, the requests that cannot be built, and how a body is decoded as text. -/
structure Platform where
  cases : CaseMapping
  decimal : PyFloat.DecimalDigits
  build : Request → Option PyException
  text : Response → Except PyException String

end Http

section Errors

/-- `_map_request_error`. -/
def mapRequestError (error : RequestError) (baseUrl : String) : DchError :=
  let text := error.text
  let name := error.errorClass.name
  if error.errorClass.isTimeout then .timeout s!"Request timed out: {text}"
  else if error.errorClass = .connectError then .connection s!"Failed to connect to {baseUrl}: {text}"
  else .connection s!"Transport error contacting {baseUrl} ({name}): {text}"

def httpErrorClass (statusCode : Nat) : HttpErrorClass :=
  if statusCode = 400 ∨ statusCode = 422 then .validation
  else if statusCode = 401 then .authentication
  else if statusCode = 403 then .forbidden
  else if statusCode = 404 then .notFound
  else if statusCode = 409 then .conflict
  else if 500 ≤ statusCode then .server
  else .http

/-- `map_http_error`, or what decoding the body raises. -/
def mapHttpError (platform : Platform) (response : Response) : Raised :=
  match platform.text response with
  | .error exception => .foreign exception
  | .ok body =>
    let truncated :=
      if 200 < body.length then String.ofList (body.toList.take 200) ++ "…" else body
    let statusCode := response.statusCode
    .dch (.http (httpErrorClass statusCode) s!"HTTP {statusCode}: {truncated}" statusCode body)

end Errors

section Code

/-- What a consumer of a generator does with a chunk: go on, or close the generator. -/
inductive Consumer where
  | next
  | close
  deriving DecidableEq

/-- A value of `random.uniform(0.5, 1.0)`. -/
structure Jitter where
  factor : ℚ
  atLeast : 1 / 2 ≤ factor
  atMost : factor ≤ 1

inductive Call where
  | provide (refresh : Bool)
  | send (request : Request) (stream : Bool)
  | uniform
  | sleep (delay : PyFloat)
  | close (index : Nat)
  | emit (chunk : List UInt8)

def Call.Answer : Call → Type
  | .provide _ => Except String PyStr
  | .send _ _ => Except RequestError Response
  | .uniform => Jitter
  | .sleep _ => Unit
  | .close _ => Unit
  | .emit _ => Consumer

/-- The state of the client that its calls share: the cached token. Sends are
counted, and the count names the response of a send. -/
structure Memory where
  token : Option PyStr
  sent : Nat

/-- Code that may raise. -/
def Py (Value : Type) : Type := Memory → Program Call Call.Answer (Except Raised Value × Memory)

namespace Py

variable {Value Next : Type}

protected def pure (value : Value) : Py Value := fun memory => .done (.ok value, memory)

def raise (raised : Raised) : Py Value := fun memory => .done (.error raised, memory)

/-- An exception ends the code. -/
def andThen (rest : Value → Py Next) :
    Except Raised Value × Memory → Program Call Call.Answer (Except Raised Next × Memory)
  | (.error raised, memory) => .done (.error raised, memory)
  | (.ok value, memory) => rest value memory

protected def bind (first : Py Value) (rest : Value → Py Next) : Py Next := fun memory =>
  (first memory).bind (andThen rest)

instance instMonad : Monad Py where
  pure := Py.pure
  bind := Py.bind

def ofExcept : Except Raised Value → Py Value
  | .ok value => .pure value
  | .error raised => .raise raised

def perform (call : Call) : Py call.Answer := fun memory =>
  .call call fun answer => .done (.ok answer, memory)

end Py

/-- A response that was received, with the number of its send. -/
structure Received where
  index : Nat
  response : Response
  deriving DecidableEq

def send (request : Request) (stream : Bool) : Py (Except RequestError Received) := fun memory =>
  .call (.send request stream) fun answer =>
    .done (.ok ((receive stream answer).map fun response => ⟨memory.sent, response⟩),
      { memory with sent := memory.sent + 1 })

def sleep (delay : PyFloat) : Py Unit := do
  let _ ← Py.perform (.sleep delay)
  match delay.sleep with
  | .ok _ => pure ()
  | .error exception => Py.raise (.foreign exception)

def close (received : Received) : Py Unit :=
  Py.perform (.close received.index)

end Code

/-- The settings of a client. -/
structure RestClient where
  baseUrl : String
  token : PyStr
  hasProvider : Bool
  tenantId : PyStr
  apiBase : ApiBase
  maxRetries : Nat
  backoffBase : PyNumber
  backoffMax : ℚ
  retryMethods : Option (List Method)

def retryableStatusCodes : List Nat := [429, 502, 503, 504]
def idempotentMethods : List Method := [.get, .head, .put, .delete, .options]

/-- What a method of the client asks for. -/
structure Query where
  method : Method
  path : String
  json : Option PyValue
  params : List (String × PyStr)

namespace RestClient

variable (client : RestClient) (platform : Platform)

section Authorization

/-- `TokenCache._call_provider`, whose result replaces the cached token. -/
def callProvider (refresh : Bool) : Py PyStr := fun memory =>
  .call (.provide refresh) fun
    | .error text => .done (.error (.dch (.config s!"Token provider failed: {text}")), memory)
    | .ok token => .done (.ok token, { memory with token := some token })

/-- `TokenCache.get`. -/
def cachedToken : Py PyStr := fun memory =>
  match memory.token with
  | some token => .done (.ok token, memory)
  | none => callProvider false memory

/-- `TokenCache.refresh`. -/
def refreshToken : Py PyStr := callProvider true

/-- `_headers`. -/
def headers : Py (List (String × PyStr)) :=
  if client.tenantId = [] then Py.raise (.dch (.config "tenant_id must be provided for REST operations"))
  else do
    let token ← if client.hasProvider then cachedToken else pure client.token
    Py.ofExcept (PyToken.buildHeaders platform.cases token client.tenantId)

end Authorization

section Delays

def isRetryable (method : Method) : Bool :=
  match client.retryMethods with
  | none => true
  | some methods => methods.contains method

def overflow : Raised := .foreign ⟨"OverflowError", "int too large to convert to float"⟩

/-- The delay before it is varied. A power of two that no float can hold raises, if the
base is a float. -/
def cappedBackoff (attempt : Nat) : Except Raised PyNumber :=
  (client.backoffBase.shift attempt).elim (.error overflow) fun delay => .ok (delay.min client.backoffMax)

/-- An operand of a float is made one. -/
def asFloat (number : PyNumber) : Except Raised ℚ :=
  number.toFloat.elim (.error overflow) .ok

/-- `_backoff_delay`. -/
def backoffDelay (attempt : Nat) : Py PyFloat := do
  let capped ← Py.ofExcept (client.cappedBackoff attempt)
  let jitter : Jitter ← Py.perform .uniform
  let delay ← Py.ofExcept (asFloat capped)
  return .finite (delay * jitter.factor)

/-- The delay a response asks for, if it has a header that is a number. -/
def askedDelay (response : Response) : Option PyFloat :=
  match response.header "retry-after" with
  | none => none
  | some text =>
    if text = "" then none
    else (PyFloat.ofText platform.decimal text).map fun float => float.min client.backoffMax

/-- `_retry_after`. -/
def retryAfter (response : Response) (attempt : Nat) : Py PyFloat :=
  match client.askedDelay platform response with
  | some delay => pure delay
  | none => client.backoffDelay attempt

/-- The wait after an attempt that got no response. -/
def backOff (attempt : Nat) : Py Unit := do
  let delay ← client.backoffDelay attempt
  sleep delay

/-- The wait after an attempt that got a response. -/
def backOffAfter (received : Received) (attempt : Nat) : Py Unit := do
  let delay ← client.retryAfter platform received.response attempt
  close received
  sleep delay

end Delays

section Sending

variable (query : Query) (stream : Bool)

def requestOf (headers : List (String × PyStr)) : Request where
  method := query.method
  target := client.apiBase.text ++ query.path
  headers := headers
  json := query.json
  params := query.params

/-- The request of an attempt, with headers of its own. -/
def prepare : Py Request := do
  let headers ← client.headers platform
  let request := client.requestOf query headers
  match platform.build request with
  | some exception => Py.raise (.foreign exception)
  | none => pure request

def attempts (method : Method) : Nat :=
  if client.isRetryable method then client.maxRetries + 1 else 1

/-- The loop of `_do_request`, with as many attempts left as the first argument
says. -/
def attemptFrom : Nat → Nat → Py Received
  | 0, _ => Py.raise (.dch (.dch "Request failed after retries"))
  | remaining + 1, attempt => do
      let request ← client.prepare platform query
      match ← send request stream with
      | .error error =>
        if error.errorClass.isTransport ∧ remaining ≠ 0 then
          client.backOff attempt
          attemptFrom remaining (attempt + 1)
        else Py.raise (.dch (mapRequestError error client.baseUrl))
      | .ok received =>
        if received.response.statusCode ∈ retryableStatusCodes ∧ remaining ≠ 0 then
          client.backOffAfter platform received attempt
          attemptFrom remaining (attempt + 1)
        else pure received

/-- `_do_request`. -/
def doRequest : Py Received :=
  client.attemptFrom platform query stream (client.attempts query.method) 0

def isRefused (received : Received) : Bool :=
  received.response.statusCode == 401 && client.hasProvider

/-- A streamed response is closed; another one has been read already. -/
def release (received : Received) : Py Unit :=
  if stream then close received else pure ()

/-- Both kinds of request begin with this. -/
def authorizedRequest : Py Received := do
  let received ← client.doRequest platform query stream
  if client.isRefused received then do
    release stream received
    let _ ← refreshToken
    client.doRequest platform query stream
  else pure received

/-- `_request`. -/
def request : Py Response := do
  let received ← client.authorizedRequest platform query false
  if received.response.isSuccess then pure received.response
  else Py.raise (mapHttpError platform received.response)

inductive StreamEnd where
  | finished
  | closed
  deriving DecidableEq

/-- The chunks go to the consumer until there are no more or it closes the
generator. -/
def emitAll : List (List UInt8) → Py Consumer
  | [] => pure .next
  | chunk :: rest => do
      match ← Py.perform (.emit chunk) with
      | .close => pure .close
      | .next => emitAll rest

/-- What an unsuccessful response that was streamed raises: its body has to be read
first. -/
def streamError (response : Response) : Raised :=
  match response.failure with
  | some error => .dch (mapRequestError error client.baseUrl)
  | none => mapHttpError platform response

/-- The body of a successful response, for as long as the consumer wants it. -/
def streamBody (received : Received) : Py StreamEnd := do
  let consumer ← emitAll received.response.chunks
  close received
  match consumer, received.response.failure with
  | .close, _ => return .closed
  | .next, none => return .finished
  | .next, some error => Py.raise (.dch (mapRequestError error client.baseUrl))

/-- `_stream_request`. -/
def streamRequest : Py StreamEnd := do
  let received ← client.authorizedRequest platform query true
  if received.response.isSuccess then client.streamBody received
  else do
    close received
    Py.raise (client.streamError platform received.response)

end Sending

end RestClient

end DataConnectHub.Sdk
