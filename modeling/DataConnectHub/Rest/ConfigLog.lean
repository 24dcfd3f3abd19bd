import DataConnectHub.Unstructured.Nested
import Mathlib.Data.List.Infix

/-! What the service logs of its configuration. Values under names that suggest a
credential are masked at any depth, and so is the password in the user-info part of
the database URL. A password in the query of that URL is not. -/
namespace DataConnectHub.Rest

open Serde Unstructured Option

/-- A parsed URL: the password of the user-info part, the pairs of the query as they
are written, and everything else. -/
structure DbUrl where
  rest : String
  password : Option String
  query : List (String × String)
  deriving DecidableEq

def mask : String := "***"

/-- What the `url` crate documents. A URL with a password has a host and takes another
password, and what it is printed as is parsed to it again. -/
structure UrlCrate where
  parse : String → Option DbUrl
  setPassword : String → DbUrl → Option DbUrl
  into : DbUrl → String
  setPassword_mask : ∀ url, url.password ≠ none → setPassword mask url = some { url with password := some mask }
  parse_into : ∀ text url, parse text = some url → url.password ≠ none →
    parse (into { url with password := some mask }) = some { url with password := some mask }

section Code

variable (crate : UrlCrate)

def redactDbUrl (text : String) : String :=
  (crate.parse text).elim text fun url =>
    if url.password = none then text else (crate.setPassword mask url).elim text crate.into

def sensitiveWords : List String := ["password", "secret", "token", "api_key", "private_key"]

/-- `key.to_ascii_lowercase().contains(..)` for one of the words. -/
def isSensitive (key : String) : Bool :=
  sensitiveWords.any fun word => decide (word.toList <:+: key.toList.map Char.toLower)

mutual
def redactSensitiveFields : Json → Json
  | .object members => .object (redactMembers members)
  | .array items => .array (redactItems items)
  | value => value

def redactItems : List Json → List Json
  | [] => []
  | item :: rest => redactSensitiveFields item :: redactItems rest

def redactMembers : Members → Members
  | [] => []
  | (key, value) :: rest =>
      (key, if isSensitive key then .string mask else redactSensitiveFields value) :: redactMembers rest
end

def urlPath : List String := ["database", "url"]

def databaseUrl (params : Json) : Option String := (nested? urlPath params).bind Json.asStr

/-- The parameters that `log_config_source` logs of a file that could be read. -/
def logConfigSource (params : Json) : Option Json :=
  if params.members.isEmpty then none
  else some (redactSensitiveFields ((databaseUrl params).elim params fun url =>
    setNested urlPath (.string (redactDbUrl crate url)) params))

end Code

section Relation

mutual
/-- Values that are equal but for what stands under sensitive names. -/
def SameBut : Json → Json → Prop
  | .object members, .object others => SameMembers members others
  | .array items, .array others => SameItems items others
  | value, other => value = other

def SameItems : List Json → List Json → Prop
  | [], [] => True
  | item :: rest, other :: others => SameBut item other ∧ SameItems rest others
  | _, _ => False

def SameMembers : Members → Members → Prop
  | [], [] => True
  | (key, value) :: rest, (other, value') :: others =>
      key = other ∧ (isSensitive key = true ∨ SameBut value value') ∧ SameMembers rest others
  | _, _ => False
end

/-- Texts of URLs that are equal but for passwords in the user-info part or in pairs
that are named so, none of them empty; `decode` undoes the escapes of a name. -/
def SameUrl (crate : UrlCrate) (decode : String → String) (text other : String) : Prop :=
  text = other ∨ ∃ url url', crate.parse text = some url ∧ crate.parse other = some url' ∧ url.rest = url'.rest ∧
    (url.password = url'.password ∨
      ∃ first second, url.password = some first ∧ url'.password = some second ∧ first ≠ "" ∧ second ≠ "") ∧
    List.Forall₂ (fun pair pair' => pair.1 = pair'.1 ∧
      (pair.2 = pair'.2 ∨ decode pair.1 = "password" ∧ pair.2 ≠ "" ∧ pair'.2 ≠ "")) url.query url'.query

/-- Configurations that are equal but for credentials. -/
def Alike (crate : UrlCrate) (decode : String → String) (first second : Json) : Prop :=
  databaseUrl first = none ∧ databaseUrl second = none ∧ SameBut first second ∨
    ∃ text other, databaseUrl first = some text ∧ databaseUrl second = some other ∧
      SameUrl crate decode text other ∧ SameBut first (setNested urlPath (.string text) second)

/-- The URLs are the same, or have a password in front and the same query. -/
def SameMasked (crate : UrlCrate) (text other : String) : Prop :=
  text = other ∨ ∃ url url', crate.parse text = some url ∧ crate.parse other = some url' ∧ url.password ≠ none ∧
    url'.password ≠ none ∧ url.query = url'.query

def QueriesAgree (crate : UrlCrate) (first second : Json) : Prop :=
  ∀ text other, databaseUrl first = some text → databaseUrl second = some other → SameMasked crate text other

end Relation

section Masking

mutual
theorem redact_of_sameBut : (first second : Json) → SameBut first second →
    redactSensitiveFields first = redactSensitiveFields second
  | .object members, .object others, h => congrArg Json.object (redactMembers_of_same members others h)
  | .array items, .array others, h => congrArg Json.array (redactItems_of_same items others h)
  | .object _, .null, h | .object _, .bool _, h | .object _, .number _, h | .object _, .string _, h
  | .object _, .array _, h | .array _, .null, h | .array _, .bool _, h | .array _, .number _, h
  | .array _, .string _, h | .array _, .object _, h => congrArg redactSensitiveFields h
  | .null, _, h | .bool _, _, h | .number _, _, h | .string _, _, h => congrArg redactSensitiveFields h

theorem redactItems_of_same : (items others : List Json) → SameItems items others →
    redactItems items = redactItems others
  | [], [], _ => rfl
  | item :: rest, other :: others, h =>
      congrArg₂ List.cons (redact_of_sameBut item other h.1) (redactItems_of_same rest others h.2)

theorem redactMembers_of_same : (members others : Members) → SameMembers members others →
    redactMembers members = redactMembers others
  | [], [], _ => rfl
  | (key, value) :: rest, (_, value') :: others, ⟨rfl, hValue, hRest⟩ => by
      rw [redactMembers, redactMembers, redactMembers_of_same rest others hRest]
      rcases hValue with hSensitive | hSame
      · rw [hSensitive, if_pos rfl, if_pos rfl]
      · rw [redact_of_sameBut value value' hSame]
end

mutual
/-- Nothing but what stands under sensitive names is changed. -/
theorem sameBut_redact : (value : Json) → SameBut value (redactSensitiveFields value)
  | .object members => sameMembers_redact members
  | .array items => sameItems_redact items
  | .null | .bool _ | .number _ | .string _ => rfl

theorem sameItems_redact : (items : List Json) → SameItems items (redactItems items)
  | [] => trivial
  | item :: rest => ⟨sameBut_redact item, sameItems_redact rest⟩

theorem sameMembers_redact : (members : Members) → SameMembers members (redactMembers members)
  | [] => trivial
  | (key, value) :: rest => by
      refine ⟨rfl, ?_, sameMembers_redact rest⟩
      cases hSensitive : isSensitive key with
      | true => exact .inl rfl
      | false => exact .inr (sameBut_redact value)
end

theorem lookup_redactMembers {name : String} (h : isSensitive name = false) (members : Members) :
    (redactMembers members).lookup name = (members.lookup name).map redactSensitiveFields := by
  induction members with
  | nil => rfl
  | cons member rest ih =>
    obtain ⟨key, value⟩ := member
    rw [redactMembers, Json.lookup_cons, Json.lookup_cons, ih]
    by_cases hName : name = key
    · subst hName
      rw [if_pos rfl, if_pos rfl, h]
      rfl
    · rw [if_neg hName, if_neg hName]

theorem redactMembers_put {name : String} (h : isSensitive name = false) (new : Json) (members : Members) :
    redactMembers (Json.put name new members) = Json.put name (redactSensitiveFields new) (redactMembers members) := by
  induction members with
  | nil => simp [Json.put, redactMembers, h]
  | cons member rest ih =>
    obtain ⟨key, value⟩ := member
    by_cases hName : key = name
    · subst hName
      simp [Json.put, redactMembers, h]
    · simp [Json.put, redactMembers, hName, ih]

variable {path : List String} {params : Json} {text : String}

/-- Masking and writing below names that are not sensitive can be exchanged. -/
theorem redact_setNested? (h : ∀ name ∈ path, isSensitive name = false) (new value : Json) :
    setNested? path (redactSensitiveFields new) (redactSensitiveFields value) =
      (setNested? path new value).map redactSensitiveFields := by
  induction path generalizing value with
  | nil => rfl
  | cons name path ih =>
    obtain ⟨hName, hPath⟩ := List.forall_mem_cons.mp h
    cases value with
    | object members =>
      have hInner : ((redactMembers members).lookup name).getD (.object []) =
          redactSensitiveFields ((members.lookup name).getD (.object [])) := by
        rw [lookup_redactMembers hName]
        cases members.lookup name <;> rfl
      rw [redactSensitiveFields, setNested?, hInner, ih hPath, setNested?, map_map, map_map]
      congr 1
      funext inner
      rw [Function.comp_apply, Function.comp_apply, redactSensitiveFields, redactMembers_put hName]
    | _ => rfl

theorem redact_setNested (h : ∀ name ∈ path, isSensitive name = false) (new value : Json) :
    redactSensitiveFields (setNested path new value) =
      setNested path (redactSensitiveFields new) (redactSensitiveFields value) := by
  rw [setNested, setNested, redact_setNested? h]
  cases setNested? path new value <;> rfl

theorem urlPath_plain : ∀ name ∈ urlPath, isSensitive name = false := by
  decide

theorem nested?_redact (h : ∀ name ∈ path, isSensitive name = false) (value : Json) :
    nested? path (redactSensitiveFields value) = (nested? path value).map redactSensitiveFields := by
  induction path generalizing value with
  | nil => rfl
  | cons name path ih =>
    obtain ⟨hName, hPath⟩ := List.forall_mem_cons.mp h
    have hField : (redactSensitiveFields value).field? name = (value.field? name).map redactSensitiveFields := by
      cases value with
      | object members => exact lookup_redactMembers hName members
      | _ => rfl
    rw [nested?, hField, nested?]
    cases value.field? name with
    | none => rfl
    | some found => exact ih hPath found

theorem nested?_of_databaseUrl (h : databaseUrl params = some text) : nested? urlPath params = some (.string text) := by
  obtain ⟨found, hFound, hText⟩ := bind_eq_some_iff.mp h
  cases found with
  | string found => rw [hFound, some.inj hText]
  | _ => cases hText

theorem databaseUrl_redact (h : databaseUrl params = some text) :
    databaseUrl (redactSensitiveFields params) = some text := by
  rw [databaseUrl, nested?_redact urlPath_plain, nested?_of_databaseUrl h]
  rfl

theorem nested?_setUrl (h : databaseUrl params = some text) (new : Json) :
    nested? urlPath (setNested urlPath new params) = some new := by
  have hSome : (setNested? urlPath new params).isSome = true := by
    rw [setNested?_isSome urlPath new (.string text), setNested?_self (nested?_of_databaseUrl h)]
    rfl
  obtain ⟨written, hWritten⟩ := isSome_iff_exists.mp hSome
  rw [setNested_of_some hWritten]
  exact nested?_setNested? hWritten

end Masking

section Urls

variable {crate : UrlCrate} {text other : String} {url url' : DbUrl}

theorem redactDbUrl_of_none (hParse : crate.parse text = some url) (hNone : url.password = none) :
    redactDbUrl crate text = text := by
  rw [redactDbUrl, hParse, elim_some, if_pos hNone]

theorem redactDbUrl_of_some (hParse : crate.parse text = some url) (hSome : url.password ≠ none) :
    redactDbUrl crate text = crate.into { url with password := some mask } := by
  rw [redactDbUrl, hParse, elim_some, if_neg hSome, crate.setPassword_mask url hSome]
  rfl

/-- The masked URLs are printed alike just if they are the same. -/
theorem redactDbUrl_eq_iff (hParse : crate.parse text = some url) (hParse' : crate.parse other = some url')
    (hRest : url.rest = url'.rest) (hSome : url.password ≠ none) (hSome' : url'.password ≠ none) :
    redactDbUrl crate text = redactDbUrl crate other ↔ url.query = url'.query := by
  rw [redactDbUrl_of_some hParse hSome, redactDbUrl_of_some hParse' hSome']
  constructor
  · intro hInto
    have hSame := crate.parse_into text url hParse hSome
    rw [hInto, crate.parse_into other url' hParse' hSome'] at hSame
    exact (DbUrl.mk.inj (some.inj hSame)).2.2.symm
  · intro hQuery
    rw [hRest, hQuery]

theorem redact_same_iff {decode : String → String} (h : SameUrl crate decode text other) :
    redactDbUrl crate text = redactDbUrl crate other ↔ SameMasked crate text other := by
  rcases h with rfl | ⟨url, url', hParse, hParse', hRest, hPassword, -⟩
  · exact iff_of_true rfl (.inl rfl)
  · have hBoth : url.password = none ↔ url'.password = none := by
      rcases hPassword with hSame | ⟨first, second, hFirst, hSecond, -⟩
      · rw [hSame]
      · rw [hFirst, hSecond]
        exact iff_of_false (some_ne_none _) (some_ne_none _)
    by_cases hNone : url.password = none
    · rw [redactDbUrl_of_none hParse hNone, redactDbUrl_of_none hParse' (hBoth.mp hNone)]
      refine ⟨.inl, ?_⟩
      rintro (hSame | ⟨found, -, hFound, -, hSome, -⟩)
      · exact hSame
      · obtain rfl := some.inj (hParse.symm.trans hFound)
        exact absurd hNone hSome
    · rw [redactDbUrl_eq_iff hParse hParse' hRest hNone (hBoth.not.mp hNone)]
      constructor
      · intro hQuery
        exact .inr ⟨url, url', hParse, hParse', hNone, hBoth.not.mp hNone, hQuery⟩
      · rintro (rfl | ⟨found, found', hFound, hFound', -, -, hQuery⟩)
        · rw [some.inj (hParse.symm.trans hParse')]
        · obtain rfl := some.inj (hParse.symm.trans hFound)
          obtain rfl := some.inj (hParse'.symm.trans hFound')
          exact hQuery

end Urls

section Log

variable {crate : UrlCrate} {params : Json} {text : String}

theorem logConfigSource_url (h : databaseUrl params = some text) : logConfigSource crate params =
      some (setNested urlPath (.string (redactDbUrl crate text)) (redactSensitiveFields params)) := by
  have hSome : params.members.isEmpty = false := by
    have hThere := nested?_of_databaseUrl h
    rw [urlPath, nested?, Json.field?] at hThere
    cases hMembers : params.members with
    | nil =>
      rw [hMembers] at hThere
      cases hThere
    | cons member rest => rfl
  rw [logConfigSource, hSome, if_neg Bool.false_ne_true, h, elim_some, redact_setNested urlPath_plain]
  rfl

theorem isEmpty_redact (value : Json) : (redactSensitiveFields value).members.isEmpty = value.members.isEmpty := by
  cases value with
  | object members => cases members <;> rfl
  | _ => rfl

/-- Configurations that differ in credentials only are logged alike just if the
queries of their database URLs agree. -/
theorem logged_alike_iff {decode : String → String} {first second : Json} (h : Alike crate decode first second) :
    logConfigSource crate first = logConfigSource crate second ↔ QueriesAgree crate first second := by
  rcases h with ⟨hNone, hNone', hSame⟩ | ⟨text, other, hText, hOther, hUrl, hSame⟩
  · have hMasked := redact_of_sameBut first second hSame
    refine iff_of_true ?_ fun text other hText => ?_
    · rw [logConfigSource, logConfigSource, hNone, hNone', ← isEmpty_redact first, hMasked, isEmpty_redact]
      simp only [elim_none, hMasked]
    · rw [hNone] at hText
      cases hText
  · have hMasked := redact_of_sameBut first _ hSame
    have hAgree : QueriesAgree crate first second ↔ redactDbUrl crate text = redactDbUrl crate other := by
      rw [redact_same_iff hUrl]
      refine ⟨fun hQueries => hQueries text other hText hOther, fun hQueries found found' hFound hFound' => ?_⟩
      obtain rfl := some.inj (hText.symm.trans hFound)
      obtain rfl := some.inj (hOther.symm.trans hFound')
      exact hQueries
    rw [redact_setNested urlPath_plain] at hMasked
    rw [logConfigSource_url hText, logConfigSource_url hOther, hMasked, setNested_setNested, hAgree]
    refine ⟨fun hEqual => ?_, fun hEqual => by rw [hEqual]⟩
    have hNested := congrArg (nested? urlPath) (some.inj hEqual)
    rw [nested?_setUrl (databaseUrl_redact hOther), nested?_setUrl (databaseUrl_redact hOther)] at hNested
    exact Json.string.inj (some.inj hNested)

/-- With the URL put back, what is logged is what was read but for sensitive names. -/
theorem sameBut_logged {logged : Json} (h : logConfigSource crate params = some logged) :
    SameBut params ((databaseUrl params).elim logged fun text => setNested urlPath (.string text) logged) := by
  cases hText : databaseUrl params with
  | none =>
    rw [logConfigSource, hText] at h
    split at h
    · cases h
    · obtain rfl := some.inj h
      exact sameBut_redact params
  | some text =>
    rw [logConfigSource_url hText] at h
    obtain rfl := some.inj h
    have hBack : setNested urlPath (.string text) (redactSensitiveFields params) = redactSensitiveFields params := by
      refine (redact_setNested urlPath_plain (.string text) params).symm.trans ?_
      rw [setNested_of_some (setNested?_self (nested?_of_databaseUrl hText))]
    rw [elim_some, setNested_setNested, hBack]
    exact sameBut_redact params

end Log

/-- The log hides credentials just if the queries of the database URLs agree, and it
changes nothing but the values under sensitive names and the database URL. -/
theorem config_log_hides_iff (crate : UrlCrate) (decode : String → String) (first second : Json)
    (h : Alike crate decode first second) :
    (logConfigSource crate first = logConfigSource crate second ↔ QueriesAgree crate first second) ∧
      ∀ params logged, logConfigSource crate params = some logged →
        SameBut params ((databaseUrl params).elim logged fun text => setNested urlPath (.string text) logged) :=
  ⟨logged_alike_iff h, fun _ _ => sameBut_logged⟩

section Samples

/-- A URL of one host, with a password in front or in the query. -/
def sampleUrl (password : Option String) (query : List (String × String)) : DbUrl :=
  ⟨"postgresql://dch@h/db", password, query⟩

def sampleInto (url : DbUrl) : String :=
  "postgresql://dch" ++ url.password.elim "" (":" ++ ·) ++ "@h/db" ++
    String.join (url.query.map fun pair => "?" ++ pair.1 ++ "=" ++ pair.2)

def frontUrl (password : String) : String := sampleInto (sampleUrl (some password) [])

def queryUrl (password : String) : String := sampleInto (sampleUrl none [("password", password)])

def sampleUrls : List DbUrl :=
  ["a", "b"].map (fun password => sampleUrl none [("password", password)]) ++
    ["a", "b", mask].map fun password => sampleUrl (some password) []

def sampleCrate : UrlCrate where
  parse text := sampleUrls.find? fun url => sampleInto url = text
  setPassword new url := some { url with password := some new }
  into := sampleInto
  setPassword_mask _ _ := rfl
  parse_into _ url hParse := by
    have hUrl : url ∈ sampleUrls := List.mem_of_find?_eq_some hParse
    clear hParse
    revert url
    decide

def sampleConfig (url token : String) : Json :=
  .object [("database", .object [("url", .string url)]), ("authToken", .string token)]

theorem config_log_hides_sample : frontUrl "a" ≠ frontUrl "b" ∧
    logConfigSource sampleCrate (sampleConfig (frontUrl "a") "a") =
      logConfigSource sampleCrate (sampleConfig (frontUrl "b") "b") := by
  have hUrls : SameUrl sampleCrate id (frontUrl "a") (frontUrl "b") :=
    .inr ⟨_, _, rfl, rfl, rfl, .inr ⟨"a", "b", rfl, rfl, by decide, by decide⟩, .nil⟩
  refine ⟨by decide, (config_log_hides_iff sampleCrate id _ _ (.inr ⟨_, _, rfl, rfl, hUrls, ?_⟩)).1.mpr ?_⟩
  · exact ⟨rfl, .inr ⟨rfl, .inr rfl, trivial⟩, rfl, .inl (by decide), trivial⟩
  · intro _ _ h h'
    obtain rfl := some.inj h
    obtain rfl := some.inj h'
    exact .inr ⟨_, _, rfl, rfl, some_ne_none _, some_ne_none _, rfl⟩

/-- The password is logged with the query. -/
theorem query_password_logged : Alike sampleCrate id (sampleConfig (queryUrl "a") "t") (sampleConfig (queryUrl "b") "t") ∧
    (logConfigSource sampleCrate (sampleConfig (queryUrl "a") "t")).bind databaseUrl = some (queryUrl "a") ∧
    (logConfigSource sampleCrate (sampleConfig (queryUrl "b") "t")).bind databaseUrl = some (queryUrl "b") ∧
    queryUrl "a" ≠ queryUrl "b" := by
  refine ⟨.inr ⟨_, _, rfl, rfl, .inr ⟨_, _, rfl, rfl, rfl, .inl rfl, ?_⟩, ?_⟩, rfl, rfl, by decide⟩
  · exact .cons ⟨rfl, .inr ⟨rfl, by decide, by decide⟩⟩ .nil
  · exact ⟨rfl, .inr ⟨rfl, .inr rfl, trivial⟩, rfl, .inr rfl, trivial⟩

end Samples

end DataConnectHub.Rest
