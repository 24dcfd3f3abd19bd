import DataConnectHub.PyStd.Case
import DataConnectHub.Sdk.Paths
import Mathlib.Data.Bool.AllAny

/-! The authorization header. A token may be any string of Python, with surrogates and
letters from beyond ASCII, and upper and lower case are those of Unicode. -/
namespace DataConnectHub.Sdk.PyToken

open PyStd

def bearerPrefix : String := "Bearer "

/-- `_BEARER_PREFIX.upper()`. -/
def bearerUpper : List Char := "BEARER ".toList

theorem length_bearerPrefix : bearerPrefix.length = 7 := by
  decide

theorem recognizable_bearerUpper : Recognizable bearerUpper :=
  ⟨List.all_iff_forall_prop.mp (by decide), List.all_iff_forall_prop.mp (by decide), by decide⟩

section Code

variable (mapping : CaseMapping)

theorem upperText_bearerPrefix : mapping.upperText (str bearerPrefix) = bearerUpper.map .scalar :=
  mapping.upperText_ascii (List.all_iff_forall_prop.mp (by decide))

/-- The loop of `_normalize_token`. -/
def stripBearer (token : PyStr) : PyStr :=
  if (mapping.upperText (str bearerPrefix)).isPrefixOf (mapping.upperText token) then
    stripBearer (token.drop bearerPrefix.length)
  else token
termination_by token.length
decreasing_by
  rename_i hStarts
  cases token with
  | nil =>
    rw [upperText_bearerPrefix] at hStarts
    cases hStarts
  | cons c token =>
    rw [List.length_drop, List.length_cons]
    exact Nat.sub_lt (Nat.succ_pos _) (by decide)

/-- `text.split(None, 1)[0]`; a blank text has no first word. -/
def firstWord (text : PyStr) : Option PyStr :=
  let words := text.dropWhile isSpace
  if words = [] then none else some (words.takeWhile fun c => !isSpace c)

/-- A word of letters as a text, which `repr` puts between quotes. -/
def wordText (word : PyStr) : String := .ofList ((scalars? word).getD [])

def unsupportedScheme (scheme : String) : Raised :=
  .dch (.config s!"Unsupported auth scheme '{scheme}' — pass only the raw Bearer token value")

/-- The end of `_normalize_token`, with the scheme that was found in front of the token. -/
def judgeScheme (token : PyStr) : Option PyStr → Except Raised PyStr
  | none => .error (.foreign ⟨"IndexError", "list index out of range"⟩)
  | some scheme =>
    if mapping.lower scheme = str "basic" ∨ mapping.lower scheme = str "digest" then
      .error (unsupportedScheme (wordText scheme))
    else .ok (str bearerPrefix ++ token)

/-- `_normalize_token`. -/
def normalizeToken (token : PyStr) : Except Raised PyStr :=
  if token = [] then .ok token
  else
    let token := stripBearer mapping token
    judgeScheme mapping token (if token = [] then some [] else firstWord token)

/-- `build_headers`. -/
def buildHeaders (token tenantId : PyStr) : Except Raised (List (String × PyStr)) :=
  let tenant := if tenantId = [] then [] else [("x-tenant-id", tenantId)]
  if token = [] then .ok tenant
  else (normalizeToken mapping token).map fun token => ("Authorization", token) :: tenant

end Code

open List

section Prefixes

/-- The prefix in some letter case. -/
def IsBearer (text : PyStr) : Prop :=
  ∃ chars : List Char, text = chars.map .scalar ∧ chars.map Char.toUpper = bearerUpper

variable {mapping : CaseMapping} {bearer token : PyStr}

theorem IsBearer.opens (h : IsBearer bearer) (rest : PyStr) : Opens bearerUpper (bearer ++ rest) := by
  obtain ⟨chars, rfl, hUpper⟩ := h
  exact ⟨chars, rest, rfl, hUpper⟩

theorem IsBearer.length_eq (h : IsBearer bearer) : bearer.length = bearerPrefix.length := by
  obtain ⟨chars, rfl, hUpper⟩ := h
  have hLength := congrArg length hUpper
  rw [length_map] at hLength
  rw [length_map, hLength, length_bearerPrefix]
  rfl

theorem exists_isBearer_of_opens (h : Opens bearerUpper token) : IsBearer (token.take bearerPrefix.length) ∧
      token.take bearerPrefix.length ++ token.drop bearerPrefix.length = token := by
  obtain ⟨chars, rest, rfl, hUpper⟩ := h
  have hBearer : IsBearer (chars.map .scalar) := ⟨chars, rfl, hUpper⟩
  refine ⟨?_, take_append_drop ..⟩
  rwa [← hBearer.length_eq, take_left]

theorem starts_iff (mapping : CaseMapping) (token : PyStr) :
    (mapping.upperText (str bearerPrefix)).isPrefixOf (mapping.upperText token) = true ↔ Opens bearerUpper token := by
  rw [List.isPrefixOf_iff_prefix, upperText_bearerPrefix, mapping.starts_upperText_iff recognizable_bearerUpper]

theorem stripBearer_append (h : IsBearer bearer) (rest : PyStr) :
    stripBearer mapping (bearer ++ rest) = stripBearer mapping rest := by
  rw [stripBearer, if_pos ((starts_iff mapping _).mpr (h.opens rest)), ← h.length_eq, drop_left]

theorem stripBearer_eq_self (h : ¬Opens bearerUpper token) : stripBearer mapping token = token := by
  rw [stripBearer, if_neg ((starts_iff mapping token).not.mpr h)]

/-- Nothing but prefixes is taken off. -/
theorem exists_prefixes (mapping : CaseMapping) (token : PyStr) :
    ∃ prefixes : List PyStr, token = prefixes.flatten ++ stripBearer mapping token ∧ ∀ bearer ∈ prefixes, IsBearer bearer := by
  induction token using stripBearer.induct mapping with
  | case1 token hStarts ih =>
    obtain ⟨hBearer, hSplit⟩ := exists_isBearer_of_opens ((starts_iff mapping token).mp hStarts)
    obtain ⟨prefixes, hRest, hPrefixes⟩ := ih
    refine ⟨token.take bearerPrefix.length :: prefixes, ?_, forall_mem_cons.mpr ⟨hBearer, hPrefixes⟩⟩
    rw [stripBearer, if_pos hStarts, flatten_cons, append_assoc, ← hRest, hSplit]
  | case2 token hStarts =>
    refine ⟨[], ?_, forall_mem_nil _⟩
    rw [stripBearer, if_neg hStarts]
    rfl

theorem not_opens_stripBearer (mapping : CaseMapping) (token : PyStr) :
    ¬Opens bearerUpper (stripBearer mapping token) := by
  induction token using stripBearer.induct mapping with
  | case1 token hStarts ih =>
    rwa [stripBearer, if_pos hStarts]
  | case2 token hStarts =>
    rw [stripBearer, if_neg hStarts]
    exact (starts_iff mapping token).not.mp hStarts

theorem stripBearer_flatten {prefixes : List PyStr} (h : ∀ bearer ∈ prefixes, IsBearer bearer) (rest : PyStr) :
    stripBearer mapping (prefixes.flatten ++ rest) = stripBearer mapping rest := by
  induction prefixes with
  | nil => rfl
  | cons bearer prefixes ih =>
    obtain ⟨hBearer, hPrefixes⟩ := forall_mem_cons.mp h
    rw [flatten_cons, append_assoc, stripBearer_append hBearer, ih hPrefixes]

end Prefixes

section Normalization

variable {mapping : CaseMapping} {token : PyStr}

/-- The first word is the scheme, given in lower case, in some letter case. -/
def HasScheme (scheme : String) (text : PyStr) : Prop :=
  ∃ word : List Char, firstWord text = some (word.map .scalar) ∧ word.map Char.toLower = scheme.toList

/-- After prefixes there is something, and it is blank. -/
def BlankBehindBearers (token : PyStr) : Prop :=
  ∃ prefixes blanks, token = List.flatten prefixes ++ blanks ∧ (∀ bearer ∈ prefixes, IsBearer bearer) ∧
    blanks ≠ [] ∧ ∀ c ∈ blanks, isSpace c = true

theorem firstWord_eq_none_iff (text : PyStr) : firstWord text = none ↔ ∀ c ∈ text, isSpace c = true := by
  rw [firstWord, ← dropWhile_eq_nil_iff]
  simp

theorem isSpace_of_toUpper {c : Char} (h : c.toUpper = 'B') : isSpace (.scalar c) = false := by
  unfold Char.toUpper at h
  split at h
  next hLetter =>
      have hLow : 97 ≤ c.toNat := hLetter.1
      have hHigh : c.toNat ≤ 122 := hLetter.2
      simp [isSpace]
      omega
  · subst h
    rfl

theorem not_opens_of_blank {blanks : PyStr} (h : ∀ c ∈ blanks, isSpace c = true) : ¬Opens bearerUpper blanks := by
  rintro ⟨start, rest, rfl, hUpper⟩
  cases start with
  | nil => cases hUpper
  | cons c start =>
    have hSpace := h (.scalar c) (.head _)
    rw [isSpace_of_toUpper (cons.inj hUpper).1] at hSpace
    cases hSpace

theorem blankBehindBearers_iff (mapping : CaseMapping) (token : PyStr) : BlankBehindBearers token ↔
    stripBearer mapping token ≠ [] ∧ firstWord (stripBearer mapping token) = none := by
  rw [firstWord_eq_none_iff]
  constructor
  · rintro ⟨prefixes, blanks, rfl, hPrefixes, hSome, hBlank⟩
    rw [stripBearer_flatten hPrefixes, stripBearer_eq_self (not_opens_of_blank hBlank)]
    exact ⟨hSome, hBlank⟩
  · rintro ⟨hSome, hBlank⟩
    obtain ⟨prefixes, hToken, hPrefixes⟩ := exists_prefixes mapping token
    exact ⟨prefixes, _, hToken, hPrefixes, hSome, hBlank⟩

theorem not_hasScheme {scheme : String} {text word : PyStr} (hWord : firstWord text = some word)
    (hAscii : ∀ c ∈ scheme.toList, c.toNat < 128) (h : mapping.lower word ≠ str scheme) : ¬HasScheme scheme text := by
  rintro ⟨found, hFound, hLower⟩
  obtain rfl : word = found.map .scalar := Option.some.inj (hWord.symm.trans hFound)
  rw [← hLower] at hAscii
  rw [mapping.lower_ascii found (ascii_of_toLower hAscii), hLower] at h
  exact h rfl

/-- What is compared with the schemes: the first word of the remainder, nothing for an
empty one. -/
theorem normalizeToken_eq (hToken : token ≠ []) : normalizeToken mapping token =
    judgeScheme mapping (stripBearer mapping token)
      (if stripBearer mapping token = [] then some [] else firstWord (stripBearer mapping token)) :=
  if_neg hToken

theorem normalizeToken_cases (mapping : CaseMapping) (hToken : token ≠ []) : (BlankBehindBearers token ∧
      normalizeToken mapping token = .error (.foreign ⟨"IndexError", "list index out of range"⟩)) ∨
    ¬BlankBehindBearers token ∧ ((∃ message, normalizeToken mapping token = .error (.dch (.config message))) ∨
        normalizeToken mapping token = .ok (str bearerPrefix ++ stripBearer mapping token) ∧
          ¬HasScheme "basic" (stripBearer mapping token) ∧ ¬HasScheme "digest" (stripBearer mapping token)) := by
  rw [normalizeToken_eq hToken, blankBehindBearers_iff mapping]
  by_cases hEmpty : stripBearer mapping token = []
  · rw [if_pos hEmpty]
    have hNone (scheme : String) : ¬HasScheme scheme (stripBearer mapping token) := by
      rintro ⟨word, hWord, -⟩
      rw [hEmpty] at hWord
      cases hWord
    have hLower : mapping.lower [] = [] := mapping.lower_ascii [] (forall_mem_nil _)
    refine .inr ⟨fun h => h.1 hEmpty, .inr ⟨if_neg ?_, hNone _, hNone _⟩⟩
    rw [hLower]
    decide
  · rw [if_neg hEmpty]
    cases hWord : firstWord (stripBearer mapping token) with
    | none => exact .inl ⟨⟨hEmpty, rfl⟩, rfl⟩
    | some word =>
      refine .inr ⟨fun hBlank => Option.some_ne_none word hBlank.2, ?_⟩
      by_cases hScheme : mapping.lower word = str "basic" ∨ mapping.lower word = str "digest"
      · exact .inl ⟨_, if_pos hScheme⟩
      · obtain ⟨hBasic, hDigest⟩ := not_or.mp hScheme
        exact .inr ⟨if_neg hScheme, not_hasScheme hWord (all_iff_forall_prop.mp (by decide)) hBasic,
          not_hasScheme hWord (all_iff_forall_prop.mp (by decide)) hDigest⟩

/-- A header that came out of a token comes out of itself again. -/
theorem normalizeToken_again (hToken : token ≠ []) {header : PyStr} (h : normalizeToken mapping token = .ok header) :
    normalizeToken mapping header = .ok header := by
  obtain rfl : str bearerPrefix ++ stripBearer mapping token = header := by
    rcases normalizeToken_cases mapping hToken with ⟨-, hError⟩ | ⟨-, ⟨_, hError⟩ | ⟨hOk, -⟩⟩
    · cases hError.symm.trans h
    · cases hError.symm.trans h
    · exact Except.ok.inj (hOk.symm.trans h)
  have hBearer : IsBearer (str bearerPrefix) := ⟨bearerPrefix.toList, rfl, by decide⟩
  have hStrip : stripBearer mapping (str bearerPrefix ++ stripBearer mapping token) = stripBearer mapping token := by
    rw [stripBearer_append hBearer, stripBearer_eq_self (not_opens_stripBearer mapping token)]
  have hSome : str bearerPrefix ++ stripBearer mapping token ≠ [] := append_ne_nil_of_left_ne_nil (by decide) _
  rw [normalizeToken_eq hSome, hStrip, ← normalizeToken_eq hToken, h]

/-- The headers refuse the token as the configuration's fault, or hold it behind one
prefix: what is left when all prefixes are taken off, which neither begins with one nor
names another scheme. The header stands for itself. -/
def NormalizedSafely (mapping : CaseMapping) (token tenantId : PyStr) : Prop :=
  (∃ message, buildHeaders mapping token tenantId = .error (.dch (.config message))) ∨
    ∃ headers prefixes remainder, buildHeaders mapping token tenantId = .ok headers ∧
      headers.lookup "Authorization" = some (str bearerPrefix ++ remainder) ∧
      token = List.flatten prefixes ++ remainder ∧ (∀ bearer ∈ prefixes, IsBearer bearer) ∧
      ¬Opens bearerUpper remainder ∧ ¬HasScheme "basic" remainder ∧ ¬HasScheme "digest" remainder ∧
      normalizeToken mapping (str bearerPrefix ++ remainder) = .ok (str bearerPrefix ++ remainder)

/-- A token is normalized safely unless there is something blank behind its prefixes. -/
theorem token_normalized_iff (mapping : CaseMapping) (token tenantId : PyStr) (hToken : token ≠ []) :
    NormalizedSafely mapping token tenantId ↔ ¬BlankBehindBearers token := by
  have hBuild : buildHeaders mapping token tenantId = (normalizeToken mapping token).map fun token =>
      ("Authorization", token) :: if tenantId = [] then [] else [("x-tenant-id", tenantId)] := if_neg hToken
  rw [NormalizedSafely, hBuild]
  rcases normalizeToken_cases mapping hToken with
    ⟨hBlank, hError⟩ | ⟨hBlank, ⟨message, hError⟩ | ⟨hOk, hBasic, hDigest⟩⟩
  · refine iff_of_false ?_ (not_not.mpr hBlank)
    rw [hError]
    rintro (⟨message, hRaised⟩ | ⟨headers, prefixes, remainder, hHeaders, -⟩)
    · cases hRaised
    · cases hHeaders
  · refine iff_of_true (.inl ⟨message, ?_⟩) hBlank
    rw [hError]
    rfl
  · obtain ⟨prefixes, hSplit, hPrefixes⟩ := exists_prefixes mapping token
    refine iff_of_true (.inr ⟨_, prefixes, stripBearer mapping token, by rw [hOk]; rfl, rfl, hSplit, hPrefixes,
      not_opens_stripBearer mapping token, hBasic, hDigest, normalizeToken_again hToken hOk⟩) hBlank

end Normalization

section Samples

/-- Case within ASCII alone. -/
def asciiMapping : CaseMapping where
  upper
    | .scalar c => [.scalar c.toUpper]
    | .surrogate low => [.surrogate low]
  lower text := text.map fun
    | .scalar c => .scalar c.toLower
    | .surrogate low => .surrogate low
  upper_ascii _ _ := rfl
  upper_other := by
    intro c hBeyond
    cases c with
    | scalar c =>
      refine ⟨_, [], rfl, fun hAscii => ?_⟩
      rw [toUpper_of_not_ascii (of_decide_eq_false hBeyond), hBeyond] at hAscii
      cases hAscii
    | surrogate low => exact ⟨_, [], rfl, fun hAscii => nomatch hAscii⟩
  lower_ascii chars _ := by simp

theorem token_normalized_sample : NormalizedSafely asciiMapping (str "bearer Bearer abc") (str "t") := by
  refine (token_normalized_iff asciiMapping (str "bearer Bearer abc") (str "t") (by decide)).mpr ?_
  have hStrip : stripBearer asciiMapping (str "bearer Bearer abc") = str "abc" := by
    rw [stripBearer, if_pos (by decide), stripBearer, if_pos (by decide), stripBearer, if_neg (by decide)]
    rfl
  rw [blankBehindBearers_iff asciiMapping, hStrip]
  decide

/-- A second blank behind the prefix: the first word of a blank text is asked for. -/
theorem blank_token_raises : buildHeaders asciiMapping (str "Bearer  ") (str "t") =
        .error (.foreign ⟨"IndexError", "list index out of range"⟩) ∧
      ¬NormalizedSafely asciiMapping (str "Bearer  ") (str "t") := by
  have hRaised : buildHeaders asciiMapping (str "Bearer  ") (str "t") =
      .error (.foreign ⟨"IndexError", "list index out of range"⟩) := by
    have hStrip : stripBearer asciiMapping (str "Bearer  ") = str " " := by
      rw [stripBearer, if_pos (by decide), stripBearer, if_neg (by decide)]
      rfl
    rw [buildHeaders, if_neg (by decide), normalizeToken_eq (by decide), hStrip]
    rfl
  refine ⟨hRaised, ?_⟩
  rw [NormalizedSafely, hRaised]
  rintro (⟨message, h⟩ | ⟨headers, prefixes, remainder, h, -⟩)
  · cases h
  · cases h

end Samples

end DataConnectHub.Sdk.PyToken
