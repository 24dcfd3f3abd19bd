import DataConnectHub.Memo.Cache
import DataConnectHub.RustStd.DebugFormat
import DataConnectHub.RustStd.SipHash

/-! The client of the Kubernetes authentication and authorization API. Both of
its caches are filled through `try_get_with`. The reply the API would give is
an argument of each call, and whatever it is, entries may expire at any time. -/
namespace DataConnectHub

open Memo RustStd

structure AuthInfo where
  username : String
  groups : List String
  deriving DecidableEq, Repr

inductive AuthError where
  | unauthenticated (reason : String)
  | forbidden (reason : String)
  | tokenReviewError (reason : String)
  | accessReviewError (reason : String)
  | internal (reason : String)
  deriving DecidableEq, Repr

section TokenReview

structure UserInfo where
  username : Option String
  groups : Option (List String)

structure TokenReviewStatus where
  authenticated : Option Bool
  error : Option String
  audiences : Option (List String)
  user : Option UserInfo

/-- The API call fails with a text, or returns an object with or without a status. -/
abbrev TokenReviewReply := Except String (Option TokenReviewStatus)

def hashToken (token : String) : Int64 :=
  (hashText token).toInt64

def hasCompatibleAudience (requested : List String) (returned : Option (List String)) : Bool :=
  requested.isEmpty || (returned.getD []).any fun audience => requested.any fun candidate => candidate == audience

def UserInfo.authInfo (user : UserInfo) : AuthInfo :=
  ⟨user.username.getD "", user.groups.getD []⟩

/-- What a review says about the caller. A rejection is a value and is kept; a
failure of the review is not. -/
def tokenVerdict (audiences : List String) : TokenReviewReply → Except AuthError (Except AuthError AuthInfo)
  | .error reason => .error (.tokenReviewError reason)
  | .ok none => .error (.internal "TokenReview returned no status")
  | .ok (some status) =>
    if status.authenticated.getD false = false then
      .ok (.error (.unauthenticated (status.error.getD "token not authenticated")))
    else if hasCompatibleAudience audiences status.audiences = false then
      .ok (.error (.unauthenticated "token audience mismatch"))
    else
      match status.user with
      | none => .error (.internal "TokenReview returned no user info")
      | some user => .ok (.ok user.authInfo)

/-- The token cache. Every token is a question of its own; the key is its hash. -/
def tokenCache (audiences : List String) :
    Memoizer String Int64 String TokenReviewReply AuthError (Except AuthError AuthInfo) where
  key := hashToken
  question := id
  interpret := tokenVerdict audiences

abbrev TokenCacheState := State Int64 String TokenReviewReply (Except AuthError AuthInfo)

def authenticate (audiences : List String) (token : String) (reply : TokenReviewReply)
    (state : TokenCacheState) : Except AuthError AuthInfo × TokenCacheState :=
  match (tokenCache audiences).tryGetWith token reply state with
  | (.ok verdict, state) => (verdict, state)
  | (.error error, state) => (.error error, state)

end TokenReview

section AccessReview

def apiGroup : String := "dataconnecthub.opendatahub.io"
def resourceName : String := "data-connections"

/-- The fields of a review that the client sets; all others stay unset. -/
structure ResourceAttributes where
  namespaceName : Option String
  verb : Option String
  group : Option String
  resource : Option String
  name : Option String := none
  deriving DecidableEq

structure SubjectAccessReviewSpec where
  user : Option String
  groups : Option (List String)
  resourceAttributes : Option ResourceAttributes
  deriving DecidableEq

/-- A call of `authorize` or of `authorize_secret`. -/
inductive AccessRequest where
  | connections (info : AuthInfo) (tenantId verb : String)
  | secret (info : AuthInfo) (tenantId secretName : String)

def connectionsReviewSpec (info : AuthInfo) (tenantId verb : String) : SubjectAccessReviewSpec :=
  { user := some info.username
    groups := some info.groups
    resourceAttributes := some
      { namespaceName := some tenantId, verb := some verb, group := some apiGroup,
        resource := some resourceName } }

def secretReviewSpec (info : AuthInfo) (tenantId secretName : String) : SubjectAccessReviewSpec :=
  { user := some info.username
    groups := some info.groups
    resourceAttributes := some
      { namespaceName := some tenantId, verb := some "get", group := some "",
        resource := some "secrets", name := some secretName } }

def AccessRequest.reviewSpec : AccessRequest → SubjectAccessReviewSpec
  | .connections info tenantId verb => connectionsReviewSpec info tenantId verb
  | .secret info tenantId secretName => secretReviewSpec info tenantId secretName

variable (printable : Char → Bool)

def connectionsCacheKey (info : AuthInfo) (tenantId verb : String) : String :=
  "conn:" ++ info.username ++ ":" ++ debugList printable info.groups ++ ":" ++ tenantId ++ ":" ++ verb

def secretCacheKey (info : AuthInfo) (tenantId secretName : String) : String :=
  "secret:" ++ info.username ++ ":" ++ debugList printable info.groups ++ ":" ++ tenantId ++
    ":secrets:get:" ++ secretName

def AccessRequest.cacheKey : AccessRequest → String
  | .connections info tenantId verb => connectionsCacheKey printable info tenantId verb
  | .secret info tenantId secretName => secretCacheKey printable info tenantId secretName

/-- The API call fails with a text, or returns an object with or without a
status; of the status only `allowed` is read. -/
abbrev AccessReviewReply := Except String (Option Bool)

def accessVerdict : AccessReviewReply → Except AuthError Bool
  | .error reason => .error (.accessReviewError reason)
  | .ok none => .error (.internal "SAR returned no status")
  | .ok (some allowed) => .ok allowed

def sarCache :
    Memoizer AccessRequest String SubjectAccessReviewSpec AccessReviewReply AuthError Bool where
  key := AccessRequest.cacheKey printable
  question := AccessRequest.reviewSpec
  interpret := accessVerdict

abbrev SarCacheState := State String SubjectAccessReviewSpec AccessReviewReply Bool

def AccessRequest.denial : AccessRequest → String
  | .connections _ tenantId _ => s!"access denied for {resourceName} in namespace {tenantId}"
  | .secret _ tenantId secretName => s!"access denied for secret {secretName} in namespace {tenantId}"

/-- `authorize` and `authorize_secret`, which differ in the key, the review and
the text of the denial. -/
def AccessRequest.authorize (request : AccessRequest) (reply : AccessReviewReply) (state : SarCacheState) :
    Except AuthError Unit × SarCacheState :=
  match (sarCache printable).tryGetWith request reply state with
  | (.ok true, state) => (.ok (), state)
  | (.ok false, state) => (.error (.forbidden request.denial), state)
  | (.error error, state) => (.error error, state)

end AccessReview

end DataConnectHub
