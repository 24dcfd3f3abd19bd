import DataConnectHub.Wildcard.Matching
import Mathlib.Data.List.Basic
import Mathlib.Order.Basic

/-! The matcher of table name filters in the S3 connector. It keeps one
position in the value and one in the pattern, and goes back to the last `%` it
passed. A pattern character equal to the value character is taken before it is
looked at as a wildcard, so a `%` in the value is matched by a `%` of the
pattern alone. -/
namespace DataConnectHub.S3

open Wildcard List Option

/-- `p[pi] == '_' || p[pi] == v[vi]`. -/
abbrev Meets (c x : Char) : Prop := c = '_' ∨ c = x

abbrev IsPercent (c : Char) : Prop := c = '%'

/-- SQL `LIKE`: a `%` stands for any stretch, a `_` for one character and every
other character for itself. -/
def Like (pattern value : String) : Prop :=
  Matches Meets IsPercent pattern.toList value.toList

/-- A `LIKE` match in which each `%` that stands at a `%` of the value takes
exactly that character. -/
def LiteralPercentLike (pattern value : String) : Prop :=
  SingleFirst Meets IsPercent pattern.toList value.toList

/-- The variables of the loop. The position to go back to never passes the
current one, so a step back still moves forward in the value. -/
structure Cursor where
  vi : Nat
  pi : Nat
  starPi : Option Nat
  starVi : Nat
  hStar : starVi ≤ vi

def Cursor.start : Cursor := { vi := 0, pi := 0, starPi := none, starVi := 0, hStar := le_rfl }

def Cursor.advance (s : Cursor) : Cursor :=
  { vi := s.vi + 1, pi := s.pi + 1, starPi := s.starPi, starVi := s.starVi
    hStar := s.hStar.trans (Nat.le_succ _) }

def Cursor.passPercent (s : Cursor) : Cursor :=
  { vi := s.vi, pi := s.pi + 1, starPi := some s.pi, starVi := s.vi, hStar := le_rfl }

def Cursor.goBack (s : Cursor) (sp : Nat) : Cursor :=
  { vi := s.starVi + 1, pi := sp + 1, starPi := s.starPi, starVi := s.starVi + 1, hStar := le_rfl }

def skipPercents (p : List Char) (pi : Nat) : Nat :=
  if pi < p.length ∧ p[pi]? = some '%' then skipPercents p (pi + 1) else pi
termination_by p.length - pi

def matchLoop (v p : List Char) (s : Cursor) : Bool :=
  if s.vi < v.length then
    if s.pi < p.length ∧ (p[s.pi]? = some '_' ∨ p[s.pi]? = v[s.vi]?) then
      matchLoop v p s.advance
    else if s.pi < p.length ∧ p[s.pi]? = some '%' then
      matchLoop v p s.passPercent
    else
      match s.starPi with
      | some sp => matchLoop v p (s.goBack sp)
      | none => false
  else
    skipPercents p s.pi == p.length
termination_by (v.length - s.starVi, p.length - s.pi)
decreasing_by
  · simp only [Cursor.advance]
    exact Prod.Lex.right _ (by omega)
  · simp only [Cursor.passPercent]
    rcases s.hStar.eq_or_lt with hSame | hAhead
    · rw [hSame]
      exact Prod.Lex.right _ (by omega)
    · exact Prod.Lex.left _ _ (by omega)
  · have := s.hStar
    exact Prod.Lex.left _ _ (by simp only [Cursor.goBack]; omega)

def sqlLikeMatch (value pattern : String) : Bool :=
  matchLoop value.toList pattern.toList .start

section Correctness

variable {v p : List Char} {s : Cursor}

/-- What was taken since the last `%` met the value character by character. -/
structure Aligned (v p : List Char) (s : Cursor) : Prop where
  vi_le : s.vi ≤ v.length
  pi_le : s.pi ≤ p.length
  star_lt : ∀ sp, s.starPi = some sp → sp < p.length
  since : ∀ sp, s.starPi = some sp → ∃ chunk piece, List.Forall₂ Meets chunk piece ∧
    p.drop (sp + 1) = chunk ++ p.drop s.pi ∧ v.drop s.starVi = piece ++ v.drop s.vi

theorem aligned_start : Aligned v p .start :=
  ⟨Nat.zero_le _, Nat.zero_le _, nofun, nofun⟩

/-- The matches still open to the loop: go on from here, or let the last `%`
take at least one more character. -/
def Open (v p : List Char) (s : Cursor) : Prop :=
  SingleFirst Meets IsPercent (p.drop s.pi) (v.drop s.vi) ∨ ∃ sp, s.starPi = some sp ∧
      ∃ w, w <:+ v.drop (s.starVi + 1) ∧ SingleFirst Meets IsPercent (p.drop (sp + 1)) w

theorem skipPercents_eq_length_iff (pi : Nat) (hPi : pi ≤ p.length) :
    skipPercents p pi = p.length ↔ ∀ c ∈ p.drop pi, IsPercent c := by
  fun_induction skipPercents p pi with
  | case1 pi h ih =>
    obtain ⟨hLt, hPercent⟩ := h
    rw [getElem?_eq_getElem hLt, some_inj] at hPercent
    rw [ih hLt, drop_eq_getElem_cons hLt, forall_mem_cons]
    exact ⟨fun h => ⟨hPercent, h⟩, And.right⟩
  | case2 pi h =>
    constructor
    · rintro rfl
      simp
    · intro hAll
      by_contra hNe
      have hLt : pi < p.length := lt_of_le_of_ne hPi hNe
      refine h ⟨hLt, ?_⟩
      rw [getElem?_eq_getElem hLt, hAll p[pi]]
      rw [drop_eq_getElem_cons hLt]
      exact mem_cons_self

theorem Aligned.advance (h : Aligned v p s) (hVi : s.vi < v.length) (hPi : s.pi < p.length)
    (hMeets : Meets p[s.pi] v[s.vi]) : Aligned v p s.advance := by
  refine ⟨hVi, hPi, h.star_lt, fun sp hStar => ?_⟩
  obtain ⟨chunk, piece, hAll, hChunk, hPiece⟩ := h.since sp hStar
  refine ⟨chunk ++ [p[s.pi]], piece ++ [v[s.vi]], ?_, ?_, ?_⟩
  · exact rel_append hAll (.cons hMeets .nil)
  · rw [hChunk, drop_eq_getElem_cons hPi]
    simp [Cursor.advance]
  · change v.drop s.starVi = _
    rw [hPiece, drop_eq_getElem_cons hVi]
    simp [Cursor.advance]

theorem Aligned.passPercent (h : Aligned v p s) (hPi : s.pi < p.length) : Aligned v p s.passPercent := by
  refine ⟨h.vi_le, hPi, fun sp hStar => ?_, fun sp hStar => ?_⟩
  · obtain rfl : s.pi = sp := some.inj hStar
    exact hPi
  · obtain rfl : s.pi = sp := some.inj hStar
    exact ⟨[], [], .nil, rfl, rfl⟩

variable {sp : Nat}

theorem Aligned.goBack (h : Aligned v p s) (hVi : s.vi < v.length) (hStar : s.starPi = some sp) :
    Aligned v p (s.goBack sp) := by
  refine ⟨lt_of_le_of_lt s.hStar hVi, h.star_lt sp hStar, h.star_lt, fun sp' hStar' => ?_⟩
  obtain rfl : sp = sp' := some.inj (hStar.symm.trans hStar')
  exact ⟨[], [], .nil, rfl, rfl⟩

/-- The last `%` passed loses nothing over the one before: whatever an earlier
`%` could still reach, the new one reaches as well. -/
theorem Aligned.exists_suffix (h : Aligned v p s) (hStar : s.starPi = some sp) {w : List Char}
    (hSuffix : w <:+ v.drop (s.starVi + 1)) (hMatch : SingleFirst Meets IsPercent (p.drop (sp + 1)) w) :
    ∃ w', w' <:+ v.drop s.vi ∧ SingleFirst Meets IsPercent (p.drop s.pi) w' := by
  obtain ⟨chunk, piece, hAll, hChunk, hPiece⟩ := h.since sp hStar
  rw [hChunk] at hMatch
  refine hMatch.overtakes hAll ?_
  rw [← hPiece, ← drop_drop] at *
  exact hSuffix.trans (drop_suffix 1 _)

theorem open_advance (hVi : s.vi < v.length) (hPi : s.pi < p.length)
    (hMeets : Meets p[s.pi] v[s.vi]) : Open v p s.advance ↔ Open v p s := by
  unfold Open
  rw [drop_eq_getElem_cons hVi, drop_eq_getElem_cons hPi, singleFirst_cons_of_meets hMeets]
  rfl

theorem open_passPercent (h : Aligned v p s) (hVi : s.vi < v.length) (hPi : s.pi < p.length)
    (hMeets : ¬ Meets p[s.pi] v[s.vi]) (hPercent : p[s.pi] = '%') :
    Open v p s.passPercent ↔ Open v p s := by
  have hNew : Open v p s.passPercent ↔ ∃ w, w <:+ v.drop s.vi ∧ SingleFirst Meets IsPercent (p.drop (s.pi + 1)) w := by
    rw [exists_suffix_iff, tail_drop]
    simp [Open, Cursor.passPercent]
  have hHere : SingleFirst Meets IsPercent (p.drop s.pi) (v.drop s.vi) ↔
      ∃ w, w <:+ v.drop s.vi ∧ SingleFirst Meets IsPercent (p.drop (s.pi + 1)) w := by
    rw [drop_eq_getElem_cons hVi, drop_eq_getElem_cons hPi]
    exact singleFirst_cons_of_run hPercent hMeets
  rw [hNew, Open, hHere]
  refine ⟨.inl, ?_⟩
  rintro (hHere | ⟨sp, hStar, w, hSuffix, hMatch⟩)
  · exact hHere
  · obtain ⟨w', hSuffix', hMatch'⟩ := h.exists_suffix hStar hSuffix hMatch
    rw [drop_eq_getElem_cons hPi] at hMatch'
    obtain ⟨w'', hShorter, hRest⟩ := hMatch'.tail
    exact ⟨w'', hShorter.trans hSuffix', hRest⟩

/-- Where the pattern ends or its character fits neither way, only a step back
is left. -/
theorem open_goBack (hStar : s.starPi = some sp) (hStuck : ¬ SingleFirst Meets IsPercent (p.drop s.pi) (v.drop s.vi)) :
    Open v p (s.goBack sp) ↔ Open v p s := by
  have hNew : Open v p (s.goBack sp) ↔
      ∃ w, w <:+ v.drop (s.starVi + 1) ∧ SingleFirst Meets IsPercent (p.drop (sp + 1)) w := by
    rw [exists_suffix_iff, tail_drop]
    simp [Open, Cursor.goBack, hStar]
  rw [hNew, Open, or_iff_right hStuck]
  simp [hStar]

theorem open_end (h : Aligned v p s) (hVi : ¬ s.vi < v.length) : Open v p s ↔ ∀ c ∈ p.drop s.pi, IsPercent c := by
  have hEmpty : v.drop s.vi = [] := drop_eq_nil_of_le (not_lt.mp hVi)
  rw [← @singleFirst_nil_iff _ _ Meets]
  constructor
  · rintro (hHere | ⟨sp, hStar, w, hSuffix, hMatch⟩)
    · rwa [hEmpty] at hHere
    · obtain ⟨w', hSuffix', hMatch'⟩ := h.exists_suffix hStar hSuffix hMatch
      rw [hEmpty] at hSuffix'
      rwa [suffix_nil.mp hSuffix'] at hMatch'
  · intro hMatch
    exact .inl (hEmpty ▸ hMatch)

theorem not_singleFirst_of_stuck (hVi : s.vi < v.length)
    (hTake : ¬ (s.pi < p.length ∧ (p[s.pi]? = some '_' ∨ p[s.pi]? = v[s.vi]?)))
    (hPass : ¬ (s.pi < p.length ∧ p[s.pi]? = some '%')) :
    ¬ SingleFirst Meets IsPercent (p.drop s.pi) (v.drop s.vi) := by
  rw [drop_eq_getElem_cons hVi]
  by_cases hPi : s.pi < p.length
  · rw [drop_eq_getElem_cons hPi]
    simp only [getElem?_eq_getElem, hPi, hVi, true_and, some_inj] at hTake hPass
    exact not_singleFirst_cons hPass hTake
  · rw [drop_eq_nil_of_le (not_lt.mp hPi)]
    exact not_singleFirst_nil_cons

/-- The loop returns true just if one of the matches open to it exists. Each
step keeps the open matches, so the induction is on the loop itself. -/
theorem matchLoop_iff (h : Aligned v p s) : matchLoop v p s = true ↔ Open v p s := by
  fun_induction matchLoop v p s with
  | case1 s hVi hTake ih =>
    obtain ⟨hPi, hMeets⟩ := hTake
    rw [getElem?_eq_getElem hPi, getElem?_eq_getElem hVi] at hMeets
    simp only [some_inj] at hMeets
    rw [ih (h.advance hVi hPi hMeets), open_advance hVi hPi hMeets]
  | case2 s hVi hTake hPass ih =>
    obtain ⟨hPi, hPercent⟩ := hPass
    rw [getElem?_eq_getElem hPi, some_inj] at hPercent
    have hMeets : ¬ Meets p[s.pi] v[s.vi] := by
      intro hMeets
      refine hTake ⟨hPi, ?_⟩
      simpa [getElem?_eq_getElem, hPi, hVi] using hMeets
    rw [ih (h.passPercent hPi), open_passPercent h hVi hPi hMeets hPercent]
  | case3 s hVi hTake hPass sp hStar ih =>
    have hStuck := not_singleFirst_of_stuck hVi hTake hPass
    rw [ih (h.goBack hVi hStar), open_goBack hStar hStuck]
  | case4 s hVi hTake hPass hStar =>
    have hStuck := not_singleFirst_of_stuck hVi hTake hPass
    simp [Open, hStuck, hStar]
  | case5 s hVi =>
    rw [beq_iff_eq, skipPercents_eq_length_iff s.pi h.pi_le, open_end h hVi]

end Correctness

theorem sqlLikeMatch_iff (value pattern : String) :
    sqlLikeMatch value pattern = true ↔ LiteralPercentLike pattern value := by
  rw [sqlLikeMatch, matchLoop_iff aligned_start]
  simp [Open, Cursor.start, LiteralPercentLike]

variable {pattern value : String}

theorem LiteralPercentLike.like (h : LiteralPercentLike pattern value) :
    Like pattern value := h.matches

theorem Like.literalPercentLike (h : Like pattern value) (hApart : '%' ∉ value.toList ∨ '%' ∉ pattern.toList) :
    LiteralPercentLike pattern value := by
  refine h.singleFirst ?_
  rintro c hc rfl x hx (hUnderscore | rfl)
  · exact absurd hUnderscore (by decide)
  · exact hApart.elim (· hx) (· hc)

theorem forall₂_meets_self (chunk : List Char) : List.Forall₂ Meets chunk chunk :=
  forall₂_same.mpr fun _ _ => .inr rfl

theorem forall₂_meets_underscores (piece : List Char) : List.Forall₂ Meets (List.replicate piece.length '_') piece := by
  induction piece with
  | nil => exact .nil
  | cons x piece ih => exact .cons (.inl rfl) ih

/-- A value with a `%` has a pattern it should match and is refused for: let
the `%` take nothing and ask for one character for each one that follows. -/
theorem exists_pattern_refused (hPercent : '%' ∈ value.toList) :
    ∃ pattern, Like pattern value ∧ ¬ LiteralPercentLike pattern value := by
  obtain ⟨front, back, hValue⟩ := append_of_mem hPercent
  refine ⟨.ofList (front ++ '%' :: replicate (back.length + 1) '_'), ?_, ?_⟩
  · rw [Like, hValue, String.toList_ofList]
    have hRest : Matches Meets IsPercent (replicate (back.length + 1) '_') ('%' :: back) :=
      .of_forall₂ (forall₂_meets_underscores ('%' :: back))
    exact .append (forall₂_meets_self front) (.stretch [] rfl hRest)
  · have hMeets : Meets '%' '%' := .inr rfl
    rw [LiteralPercentLike, hValue, String.toList_ofList,
      singleFirst_append_iff (forall₂_meets_self front), singleFirst_cons_of_meets hMeets]
    intro h
    have hLength := h.length_le fun c hc => by
      rw [eq_of_mem_replicate hc]
      decide
    rw [length_replicate] at hLength
    omega

/-- A pattern with a `%` refuses a value it should match: the pattern itself,
then one more character and the part after the `%` once more. -/
theorem exists_value_refused (hPercent : '%' ∈ pattern.toList) :
    ∃ value, Like pattern value ∧ ¬ LiteralPercentLike pattern value := by
  obtain ⟨front, back, hPattern⟩ := append_of_mem hPercent
  refine ⟨.ofList (pattern.toList ++ 'x' :: back), ?_, ?_⟩
  · rw [Like, hPattern, String.toList_ofList, append_assoc]
    have hBack : Matches Meets IsPercent back back := .of_forall₂ (forall₂_meets_self back)
    have hRest : Matches Meets IsPercent ('%' :: back) (('%' :: back ++ ['x']) ++ back) :=
      .stretch _ rfl hBack
    rw [append_assoc] at hRest
    exact .append (forall₂_meets_self front) hRest
  · rw [LiteralPercentLike, String.toList_ofList, ← append_nil pattern.toList,
      append_assoc, singleFirst_append_iff (forall₂_meets_self pattern.toList)]
    exact not_singleFirst_nil_cons

/-- The matcher decides `LIKE` for a value and a pattern unless every match
needs a `%` at a `%` of the value to take more or less than that character.
So it is right about a value for all patterns only if the value has no `%`,
and about a pattern for all values only if the pattern has none. -/
theorem sqlLikeMatch_decides_like_iff (value pattern : String) :
    ((sqlLikeMatch value pattern = true ↔ Like pattern value) ↔
      (Like pattern value → LiteralPercentLike pattern value)) ∧
    ((∀ other, sqlLikeMatch value other = true ↔ Like other value) ↔ '%' ∉ value.toList) ∧
    ((∀ other, sqlLikeMatch other pattern = true ↔ Like pattern other) ↔ '%' ∉ pattern.toList) := by
  have hPair : ∀ value pattern, (sqlLikeMatch value pattern = true ↔ Like pattern value) ↔
      (Like pattern value → LiteralPercentLike pattern value) := by
    intro value pattern
    rw [sqlLikeMatch_iff]
    exact ⟨Iff.mpr, fun h => ⟨LiteralPercentLike.like, h⟩⟩
  refine ⟨hPair value pattern, ?_, ?_⟩
  · simp only [hPair]
    constructor
    · intro hAll hPercent
      obtain ⟨pattern, hLike, hNot⟩ := exists_pattern_refused hPercent
      exact hNot (hAll pattern hLike)
    · intro hApart pattern hLike
      exact hLike.literalPercentLike (.inl hApart)
  · simp only [hPair]
    constructor
    · intro hAll hPercent
      obtain ⟨value, hLike, hNot⟩ := exists_value_refused hPercent
      exact hNot (hAll value hLike)
    · intro hApart value hLike
      exact hLike.literalPercentLike (.inr hApart)

/-- The filter `50%` misses the object `50%-off.csv`. -/
theorem percent_key_refused : sqlLikeMatch "50%-off.csv" "50%" = false ∧ Like "50%" "50%-off.csv" := by
  constructor
  · simp [sqlLikeMatch, matchLoop, Cursor.start, Cursor.advance]
  · have hRest : Matches Meets IsPercent ['%'] ("%-off.csv".toList ++ []) := .stretch _ rfl .done
    exact .one (by decide) (.inr rfl) (.one (by decide) (.inr rfl) hRest)

end DataConnectHub.S3
