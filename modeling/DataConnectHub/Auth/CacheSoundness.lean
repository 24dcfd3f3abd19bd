import DataConnectHub.Auth.KubeClient

/-! What the two caches of the authentication client guarantee. A cached answer
is about the request it is given to only as far as the cache key identifies the
request. The token cache is keyed by a hash of the token, the access cache by a
text joined with colons. -/
namespace DataConnectHub

open Memo RustStd

section Tokens

variable {audiences : List String}

/-- A review of this very token named the user as authenticated. -/
def ReviewedAs (audiences : List String) (state : TokenCacheState) (token : String) (info : AuthInfo) : Prop :=
  ∃ status user, (token, .ok (some status)) ∈ state.asked ∧ status.authenticated = some true ∧
    hasCompatibleAudience audiences status.audiences = true ∧ status.user = some user ∧
    info = user.authInfo

variable {info : AuthInfo} {state : TokenCacheState} {token : String}

theorem tokenVerdict_eq_ok {reply : TokenReviewReply} : tokenVerdict audiences reply = .ok (.ok info) ↔
      ∃ status user, reply = .ok (some status) ∧ status.authenticated = some true ∧
        hasCompatibleAudience audiences status.audiences = true ∧ status.user = some user ∧
        info = user.authInfo := by
  constructor
  · intro h
    match reply with
    | .error reason => cases h
    | .ok none => cases h
    | .ok (some status) =>
      simp only [tokenVerdict] at h
      split_ifs at h with hAuthenticated hAudience
      · cases h
      · cases h
      · cases hUser : status.user with
        | none => simp [hUser] at h
        | some user =>
          have hInfo : user.authInfo = info := by simpa [hUser] using h
          refine ⟨status, user, rfl, ?_, by simpa using hAudience, hUser, hInfo.symm⟩
          cases hFlag : status.authenticated with
          | none => simp [hFlag] at hAuthenticated
          | some flag => simpa [hFlag] using hAuthenticated
  · rintro ⟨status, user, rfl, hAuthenticated, hAudience, hUser, rfl⟩
    simp [tokenVerdict, hAuthenticated, hAudience, hUser]

theorem reviewedAs_iff_answered :
    ReviewedAs audiences state token info ↔ (tokenCache audiences).Answered state token (.ok info) := by
  constructor
  · rintro ⟨status, user, hAsked, hVerdict⟩
    exact ⟨_, hAsked, tokenVerdict_eq_ok.mpr ⟨status, user, rfl, hVerdict⟩⟩
  · rintro ⟨reply, hAsked, hReply⟩
    obtain ⟨status, user, rfl, hVerdict⟩ := tokenVerdict_eq_ok.mp hReply
    exact ⟨status, user, hAsked, hVerdict⟩

theorem authenticate_eq_ok {reply : TokenReviewReply} : (authenticate audiences token reply state).1 = .ok info ↔
      ((tokenCache audiences).tryGetWith token reply state).1 = .ok (.ok info) := by
  unfold authenticate
  split
  next verdict after hGet =>
      rw [hGet]
      exact ⟨fun h => congrArg Except.ok h, fun h => Except.ok.inj h⟩
  next error after hGet =>
      rw [hGet]
      constructor <;> intro h <;> cases h

theorem authenticate_state (token : String) (reply : TokenReviewReply) (state : TokenCacheState) :
    (authenticate audiences token reply state).2 = ((tokenCache audiences).tryGetWith token reply state).2 := by
  unfold authenticate
  split
  next verdict after hGet => rw [hGet]
  next error after hGet => rw [hGet]

/-- In every run with these tokens, an authenticated identity was reviewed for
the token it is returned for. -/
def TokenCacheSound (audiences : List String) (Allowed : String → Prop) : Prop :=
  ∀ actions : List (Action String Int64 TokenReviewReply), (∀ action ∈ actions, action.Meets Allowed) →
    ∀ token reply info, Allowed token →
      (authenticate audiences token reply ((tokenCache audiences).run actions)).1 = .ok info →
      ReviewedAs audiences (authenticate audiences token reply ((tokenCache audiences).run actions)).2 token info

/-- The review of an ordinary user. -/
def sampleReview (audiences : List String) (username : String) : TokenReviewReply :=
  .ok (some ⟨some true, none, some audiences, some ⟨some username, some []⟩⟩)

theorem tokenVerdict_sampleReview (audiences : List String) (username : String) :
    tokenVerdict audiences (sampleReview audiences username) = .ok (.ok ⟨username, []⟩) := by
  refine tokenVerdict_eq_ok.mpr ⟨_, _, rfl, rfl, ?_, rfl, rfl⟩
  cases audiences with
  | nil => rfl
  | cons audience rest => simp [hasCompatibleAudience]

/-- Two tokens with one hash: the second is taken for the first. -/
theorem not_reviewedAs_of_collision {first second : String} (hHash : hashToken first = hashToken second)
    (hTokens : first ≠ second) (username : String) (reply : TokenReviewReply) :
    (authenticate audiences second reply
        ((tokenCache audiences).run [.call first (sampleReview audiences username)])).1 =
      .ok ⟨username, []⟩ ∧
    ¬ReviewedAs audiences (authenticate audiences second reply
      ((tokenCache audiences).run [.call first (sampleReview audiences username)])).2 second ⟨username, []⟩ := by
  rw [authenticate_eq_ok, authenticate_state, reviewedAs_iff_answered]
  have hReply : (tokenCache audiences).interpret (sampleReview audiences username) =
      .ok (.ok ⟨username, []⟩) := tokenVerdict_sampleReview audiences username
  exact (tokenCache audiences).not_answered_of_clash first second hHash hTokens hReply reply

/-- The token cache is sound for a set of tokens exactly when no two of them
have the same hash. -/
theorem token_cache_sound_iff (audiences : List String) (Allowed : String → Prop) : TokenCacheSound audiences Allowed ↔
      ∀ first second, Allowed first → Allowed second → hashToken first = hashToken second → first = second := by
  constructor
  · intro hSound first second hFirst hSecond hHash
    by_contra hTokens
    obtain ⟨hServed, hNot⟩ := not_reviewedAs_of_collision hHash hTokens "user" (sampleReview audiences "user")
    refine hNot (hSound [.call first (sampleReview audiences "user")] ?_ second _ _ hSecond hServed)
    simpa [Action.Meets] using hFirst
  · intro hInjective actions hActions token reply info hToken hResult
    rw [authenticate_state, reviewedAs_iff_answered]
    exact (tokenCache audiences).sound_of_key hInjective actions hActions token reply _
      hToken (authenticate_eq_ok.mp hResult)

/-- Two tokens of sixteen characters have the same hash. After the first was
reviewed as one user, the second is accepted as that user, although its own
review would be a rejection. -/
theorem token_collision_accepted : (authenticate [] "538729932a6cedcd" (.ok (some ⟨some false, none, none, none⟩))
        ((tokenCache []).run [.call "548ec7897d2f4ab5" (sampleReview [] "alice")])).1 =
      .ok ⟨"alice", []⟩ ∧
    ¬ReviewedAs [] (authenticate [] "538729932a6cedcd" (.ok (some ⟨some false, none, none, none⟩))
      ((tokenCache []).run [.call "548ec7897d2f4ab5" (sampleReview [] "alice")])).2 "538729932a6cedcd" ⟨"alice", []⟩ :=
  not_reviewedAs_of_collision (by decide +kernel) (by decide) "alice" _

end Tokens

section Access

variable {printable : Char → Bool}

/-- The parts that follow the groups in the key contain no colon. -/
def AccessRequest.Plain : AccessRequest → Prop
  | .connections _ tenantId verb => ':' ∉ tenantId.toList ∧ ':' ∉ verb.toList
  | .secret _ tenantId secretName => ':' ∉ tenantId.toList ∧ ':' ∉ secretName.toList

/-- The beginning of a key: the kind of review, the user and the groups. -/
def identityChars (printable : Char → Bool) (kind : String) (info : AuthInfo) : List Char :=
  (kind.toList ++ info.username.toList) ++ ':' :: debugItems printable info.groups

variable {first second : AuthInfo} {tenant tenant' : String} {allowed : Bool}

theorem identityChars_inj {kind : String}
    (h : identityChars printable kind first = identityChars printable kind second) : first = second := by
  obtain ⟨hUser, hGroups⟩ := append_debugItems_inj h
  have hName := String.toList_injective (List.append_cancel_left hUser)
  cases first
  cases second
  exact AuthInfo.mk.injEq .. ▸ ⟨hName, hGroups⟩

theorem connectionsCacheKey_toList (info : AuthInfo) (tenantId verb : String) :
    (connectionsCacheKey printable info tenantId verb).toList =
      (identityChars printable "conn:" info ++ ':' :: tenantId.toList) ++ ':' :: verb.toList := by
  simp [connectionsCacheKey, identityChars, debugList, String.toList_append]

theorem secretCacheKey_toList (info : AuthInfo) (tenantId secretName : String) :
    (secretCacheKey printable info tenantId secretName).toList =
      (((identityChars printable "secret:" info ++ ':' :: tenantId.toList) ++ ':' :: "secrets".toList) ++
        ':' :: "get".toList) ++ ':' :: secretName.toList := by
  simp [secretCacheKey, identityChars, debugList, String.toList_append]

theorem connectionsCacheKey_inj {verb verb' : String} (hFirst : (AccessRequest.connections first tenant verb).Plain)
    (hSecond : (AccessRequest.connections second tenant' verb').Plain)
    (h : connectionsCacheKey printable first tenant verb = connectionsCacheKey printable second tenant' verb') :
    first = second ∧ tenant = tenant' ∧ verb = verb' := by
  have hChars := congrArg String.toList h
  rw [connectionsCacheKey_toList, connectionsCacheKey_toList] at hChars
  obtain ⟨hRest, hVerb⟩ := append_cons_inj_of_not_mem hFirst.2 hSecond.2 hChars
  obtain ⟨hIdentity, hTenant⟩ := append_cons_inj_of_not_mem hFirst.1 hSecond.1 hRest
  exact ⟨identityChars_inj hIdentity, String.toList_injective hTenant, String.toList_injective hVerb⟩

theorem secretCacheKey_inj {name name' : String} (hFirst : (AccessRequest.secret first tenant name).Plain)
    (hSecond : (AccessRequest.secret second tenant' name').Plain)
    (h : secretCacheKey printable first tenant name = secretCacheKey printable second tenant' name') :
    first = second ∧ tenant = tenant' ∧ name = name' := by
  have hChars := congrArg String.toList h
  rw [secretCacheKey_toList, secretCacheKey_toList] at hChars
  obtain ⟨hGet, hName⟩ := append_cons_inj_of_not_mem hFirst.2 hSecond.2 hChars
  have hSecrets := List.append_cancel_right (List.append_cancel_right hGet)
  obtain ⟨hIdentity, hTenant⟩ := append_cons_inj_of_not_mem hFirst.1 hSecond.1 hSecrets
  exact ⟨identityChars_inj hIdentity, String.toList_injective hTenant, String.toList_injective hName⟩

/-- The keys of the two kinds of review differ in their first character. -/
theorem connectionsCacheKey_ne_secretCacheKey (first second : AuthInfo) (tenant verb tenant' secretName : String) :
    connectionsCacheKey printable first tenant verb ≠ secretCacheKey printable second tenant' secretName := by
  intro h
  have hChars := congrArg String.toList h
  rw [connectionsCacheKey_toList, secretCacheKey_toList] at hChars
  simp [identityChars] at hChars

theorem reviewSpec_eq_of_cacheKey {first second : AccessRequest} (hFirst : first.Plain)
    (hSecond : second.Plain) (h : first.cacheKey printable = second.cacheKey printable) :
    first.reviewSpec = second.reviewSpec := by
  cases first with
  | connections info tenantId verb =>
    cases second with
    | connections info' tenantId' verb' =>
      obtain ⟨rfl, rfl, rfl⟩ := connectionsCacheKey_inj hFirst hSecond h
      rfl
    | secret info' tenantId' secretName =>
      exact absurd h (connectionsCacheKey_ne_secretCacheKey _ _ _ _ _ _)
  | secret info tenantId secretName =>
    cases second with
    | connections info' tenantId' verb =>
      exact absurd h.symm (connectionsCacheKey_ne_secretCacheKey _ _ _ _ _ _)
    | secret info' tenantId' secretName' =>
      obtain ⟨rfl, rfl, rfl⟩ := secretCacheKey_inj hFirst hSecond h
      rfl

/-- The answer of a call comes from a review of exactly its own specification. -/
structure AnsweredForItself (printable : Char → Bool) (request : AccessRequest) (reply : AccessReviewReply)
    (state : SarCacheState) : Prop where
  allowed : (request.authorize printable reply state).1 = .ok () →
    (request.reviewSpec, .ok (some true)) ∈ (request.authorize printable reply state).2.asked
  denied : ∀ reason, (request.authorize printable reply state).1 = .error (.forbidden reason) →
    (request.reviewSpec, .ok (some false)) ∈ (request.authorize printable reply state).2.asked

theorem accessVerdict_eq_ok {reply : AccessReviewReply} :
    accessVerdict reply = .ok allowed ↔ reply = .ok (some allowed) := by
  match reply with
  | .error reason => simp [accessVerdict]
  | .ok none => simp [accessVerdict]
  | .ok (some answer) => simp [accessVerdict]

theorem answered_iff {state : SarCacheState} {spec : SubjectAccessReviewSpec} :
    (sarCache printable).Answered state spec allowed ↔ (spec, .ok (some allowed)) ∈ state.asked := by
  constructor
  · rintro ⟨reply, hAsked, hReply⟩
    rwa [accessVerdict_eq_ok.mp hReply] at hAsked
  · exact fun hAsked => ⟨_, hAsked, rfl⟩

/-- A failed review is not a denial. -/
theorem tryGetWith_ne_forbidden (request : AccessRequest) (reply : AccessReviewReply) (state : SarCacheState)
    (reason : String) : ((sarCache printable).tryGetWith request reply state).1 ≠ .error (.forbidden reason) := by
  unfold Memoizer.tryGetWith
  cases state.entries ((sarCache printable).key request) with
  | some allowed => simp
  | none =>
    match reply with
    | .error text => simp [sarCache, accessVerdict]
    | .ok none => simp [sarCache, accessVerdict]
    | .ok (some allowed) => simp [sarCache, accessVerdict]

section Authorize

variable {request : AccessRequest} {reply : AccessReviewReply} {state : SarCacheState}

theorem authorize_state : (request.authorize printable reply state).2 =
    ((sarCache printable).tryGetWith request reply state).2 := by
  unfold AccessRequest.authorize
  generalize (sarCache printable).tryGetWith request reply state = served
  match served with
  | (.ok true, after) => rfl
  | (.ok false, after) => rfl
  | (.error error, after) => rfl

theorem authorize_eq_ok : (request.authorize printable reply state).1 = .ok () ↔
    ((sarCache printable).tryGetWith request reply state).1 = .ok true := by
  unfold AccessRequest.authorize
  generalize (sarCache printable).tryGetWith request reply state = served
  match served with
  | (.ok true, after) => simp
  | (.ok false, after) => simp
  | (.error error, after) => simp

theorem authorize_eq_forbidden {reason : String}
    (h : (request.authorize printable reply state).1 = .error (.forbidden reason)) :
    ((sarCache printable).tryGetWith request reply state).1 = .ok false := by
  have hFailed := @tryGetWith_ne_forbidden printable request reply state reason
  unfold AccessRequest.authorize at h
  generalize (sarCache printable).tryGetWith request reply state = served at h hFailed ⊢
  match served with
  | (.ok true, after) => cases h
  | (.ok false, after) => rfl
  | (.error error, after) => exact absurd (congrArg Except.error (Except.error.inj h)) hFailed

theorem AccessRequest.answeredForItself
    (h : ∀ allowed, ((sarCache printable).tryGetWith request reply state).1 = .ok allowed →
      (sarCache printable).Answered ((sarCache printable).tryGetWith request reply state).2
        request.reviewSpec allowed) : AnsweredForItself printable request reply state := by
  constructor
  · intro hResult
    rw [authorize_state]
    exact answered_iff.mp (h true (authorize_eq_ok.mp hResult))
  · intro reason hResult
    rw [authorize_state]
    exact answered_iff.mp (h false (authorize_eq_forbidden hResult))

end Authorize

/-- As long as no tenant, verb or secret name contains a colon, requests with
one key are about the same review, and in every run, whatever entries expire,
each answer comes from a review of exactly the request it is given to. -/
theorem access_cache_sound (printable : Char → Bool) : (∀ first second : AccessRequest, first.Plain → second.Plain →
      first.cacheKey printable = second.cacheKey printable → first.reviewSpec = second.reviewSpec) ∧
    ∀ actions : List (Action AccessRequest String AccessReviewReply),
      (∀ action ∈ actions, action.Meets AccessRequest.Plain) →
      ∀ request reply, request.Plain →
        AnsweredForItself printable request reply ((sarCache printable).run actions) := by
  refine ⟨fun first second => reviewSpec_eq_of_cacheKey, fun actions hActions request reply hRequest => ?_⟩
  refine AccessRequest.answeredForItself fun allowed hServed => ?_
  exact (sarCache printable).sound_of_key (fun first second => reviewSpec_eq_of_cacheKey) actions hActions
    request reply allowed hRequest hServed

/-- Two users whose requests have the same key. -/
def sampleAccess : AccessRequest := .connections ⟨"mallory:[]:a", []⟩ "victim" "get"

def clashingAccess : AccessRequest := .connections ⟨"mallory", []⟩ "a:[]:victim" "get"

theorem access_cache_sound_sample : AnsweredForItself (fun _ => true) sampleAccess (.ok (some false))
      ((sarCache fun _ => true).run [.call sampleAccess (.ok (some true))]) :=
  (access_cache_sound fun _ => true).2 [.call sampleAccess (.ok (some true))]
    (by simp [Action.Meets, sampleAccess, AccessRequest.Plain]) sampleAccess (.ok (some false))
    (by simp [sampleAccess, AccessRequest.Plain])

/-- After one user was allowed into a tenant, another is let into a tenant
whose own review would deny it. -/
theorem access_clash_allowed : clashingAccess.cacheKey (fun _ => true) = sampleAccess.cacheKey (fun _ => true) ∧
      clashingAccess.reviewSpec ≠ sampleAccess.reviewSpec ∧
      ¬AnsweredForItself (fun _ => true) clashingAccess (.ok (some false))
        ((sarCache fun _ => true).run [.call sampleAccess (.ok (some true))]) := by
  have hKey : sampleAccess.cacheKey (fun _ => true) = clashingAccess.cacheKey fun _ => true := by decide
  have hSpec : sampleAccess.reviewSpec ≠ clashingAccess.reviewSpec := by decide
  refine ⟨hKey.symm, hSpec.symm, fun hAnswered => ?_⟩
  have hReply : (sarCache fun _ => true).interpret (.ok (some true)) = .ok true := rfl
  obtain ⟨hServed, hNot⟩ := (sarCache fun _ => true).not_answered_of_clash sampleAccess clashingAccess
    hKey hSpec hReply (.ok (some false))
  have hAsked := hAnswered.allowed (authorize_eq_ok.mpr hServed)
  rw [authorize_state] at hAsked
  exact hNot (answered_iff.mpr hAsked)

end Access

end DataConnectHub
