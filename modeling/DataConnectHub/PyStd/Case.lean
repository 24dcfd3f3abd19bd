import DataConnectHub.PyStd.Str

/-! Upper and lower case. The tables are Unicode's and stay a parameter. What is said
of them is that they are the usual ones within ASCII, and which characters from
beyond it they bring into it. -/
namespace PyStd

open List

def isAscii : PyChar → Bool
  | .scalar c => c.toNat < 128
  | .surrogate _ => false

/-- `str.upper` goes character by character. `str.lower` looks at neighbours, for the
sake of sigma. Ligatures and letters with marks are the characters beyond ASCII whose
upper case begins in ASCII. -/
structure CaseMapping where
  upper : PyChar → PyStr
  lower : PyStr → PyStr
  upper_ascii : ∀ c : Char, c.toNat < 128 → upper (.scalar c) = [.scalar c.toUpper]
  upper_other : ∀ c, isAscii c = false → ∃ first rest, upper c = first :: rest ∧
    (isAscii first = true → first ∈ str "FHIJSTWY" ∨
      first = .scalar 'A' ∧ ∃ mark more, rest = mark :: more ∧ isAscii mark = false)
  lower_ascii : ∀ chars : List Char, (∀ c ∈ chars, c.toNat < 128) →
    lower (chars.map .scalar) = (chars.map Char.toLower).map .scalar

def CaseMapping.upperText (mapping : CaseMapping) (text : PyStr) : PyStr :=
  text.flatMap mapping.upper

variable {c : Char} {chars pattern : List Char}

theorem toUpper_of_not_ascii (h : ¬c.toNat < 128) : c.toUpper = c := by
  refine dif_neg fun hLetter => h ?_
  have hHigh : c.val.toNat ≤ 'z'.val.toNat := hLetter.2
  have hLetter : 'z'.val.toNat = 122 := rfl
  have hValue : c.toNat = c.val.toNat := rfl
  omega

theorem toLower_of_not_ascii (h : ¬c.toNat < 128) : c.toLower = c := by
  refine dif_neg fun hLetter => h ?_
  have hHigh : c.val.toNat ≤ 'Z'.val.toNat := hLetter.2
  have hLetter : 'Z'.val.toNat = 90 := rfl
  have hValue : c.toNat = c.val.toNat := rfl
  omega

/-- Letters whose lower case is ASCII are ASCII themselves. -/
theorem ascii_of_toLower (h : ∀ c ∈ chars.map Char.toLower, c.toNat < 128) : ∀ c ∈ chars, c.toNat < 128 := by
  intro c hMem
  by_contra hBeyond
  have hLower := h c.toLower (mem_map_of_mem hMem)
  rw [toLower_of_not_ascii hBeyond] at hLower
  exact hBeyond hLower

theorem CaseMapping.upperText_ascii (mapping : CaseMapping) (h : ∀ c ∈ chars, c.toNat < 128) :
    mapping.upperText (chars.map .scalar) = (chars.map Char.toUpper).map .scalar := by
  induction chars with
  | nil => rfl
  | cons c chars ih =>
    have hRest := ih fun d hMem => h d (.tail c hMem)
    rw [upperText, map_cons, flatMap_cons, mapping.upper_ascii c (h c (.head _)), ← upperText, hRest]
    rfl

/-- A text of ASCII characters that nothing beyond ASCII is turned into. -/
structure Recognizable (pattern : List Char) : Prop where
  ascii : ∀ c ∈ pattern, c.toNat < 128
  unmixed : ∀ c ∈ pattern, c ∉ "FHIJSTWY".toList
  last : pattern.getLast? ≠ some 'A'

theorem Recognizable.tail (h : Recognizable (c :: pattern)) : Recognizable pattern := by
  refine ⟨fun d hMem => h.ascii d (.tail c hMem), fun d hMem => h.unmixed d (.tail c hMem), fun hLast => h.last ?_⟩
  rw [getLast?_cons, hLast]
  rfl

/-- The text begins with the pattern, which is in upper case, in some letter case. -/
def Opens (pattern : List Char) (text : PyStr) : Prop :=
  ∃ (start : List Char) (rest : PyStr), text = start.map .scalar ++ rest ∧ start.map Char.toUpper = pattern

theorem not_opens_nil (p : Char) (pattern : List Char) : ¬Opens (p :: pattern) [] := by
  rintro ⟨start, rest, hText, hStart⟩
  cases start with
  | nil => cases hStart
  | cons c start => cases hText

theorem opens_cons_iff (p : Char) (pattern : List Char) (c : PyChar) (text : PyStr) :
    Opens (p :: pattern) (c :: text) ↔ ∃ d : Char, c = .scalar d ∧ d.toUpper = p ∧ Opens pattern text := by
  constructor
  · rintro ⟨start, rest, hText, hStart⟩
    cases start with
    | nil => cases hStart
    | cons d start =>
      obtain ⟨hHead, hTail⟩ := cons.inj hText
      obtain ⟨hFirst, hRest⟩ := cons.inj hStart
      exact ⟨d, hHead, hFirst, start, rest, hTail, hRest⟩
  · rintro ⟨d, rfl, rfl, start, rest, rfl, rfl⟩
    exact ⟨d :: start, rest, rfl, rfl⟩

/-- The upper case of a text begins with such a pattern just if the text opens with it. -/
theorem CaseMapping.starts_upperText_iff (mapping : CaseMapping) (h : Recognizable pattern) (text : PyStr) :
    pattern.map .scalar <+: mapping.upperText text ↔ Opens pattern text := by
  induction pattern generalizing text with
  | nil => exact iff_of_true (List.nil_prefix ..) ⟨[], text, rfl, rfl⟩
  | cons p pattern ih =>
    cases text with
    | nil =>
      refine iff_of_false (fun hStarts => ?_) (not_opens_nil p pattern)
      cases prefix_nil.mp hStarts
    | cons c text =>
      have hUpper : mapping.upperText (c :: text) = mapping.upper c ++ mapping.upperText text :=
        flatMap_cons
      rw [opens_cons_iff, hUpper]
      cases hAscii : isAscii c with
      | true =>
        cases c with
        | surrogate low => cases hAscii
        | scalar d =>
          rw [mapping.upper_ascii d (of_decide_eq_true hAscii), map_cons, singleton_append, cons_prefix_cons, ih h.tail]
          constructor
          · rintro ⟨hSame, hRest⟩
            exact ⟨d, rfl, (PyChar.scalar.inj hSame).symm, hRest⟩
          · rintro ⟨e, hSame, rfl, hRest⟩
            obtain rfl := PyChar.scalar.inj hSame
            exact ⟨rfl, hRest⟩
      | false =>
        refine iff_of_false (fun hStarts => ?_) ?_
        · obtain ⟨first, rest, hFirst, hMixed⟩ := mapping.upper_other c hAscii
          rw [hFirst, map_cons, cons_append, cons_prefix_cons] at hStarts
          obtain ⟨rfl, hStarts⟩ := hStarts
          rcases hMixed (decide_eq_true (h.ascii p (.head _))) with hListed | ⟨hA, mark, more, rfl, hMark⟩
          · obtain ⟨d, hMem, hSame⟩ := mem_map.mp hListed
            obtain rfl := PyChar.scalar.inj hSame
            exact h.unmixed d (.head _) hMem
          · obtain rfl := PyChar.scalar.inj hA
            cases pattern with
            | nil => exact h.last rfl
            | cons q pattern =>
              rw [map_cons, cons_append, cons_prefix_cons] at hStarts
              obtain ⟨rfl, -⟩ := hStarts
              have hHere : isAscii (.scalar q) = true := decide_eq_true (h.ascii q (.tail _ (.head _)))
              rw [hHere] at hMark
              cases hMark
        · rintro ⟨d, rfl, rfl, -⟩
          have hBeyond : ¬d.toNat < 128 := of_decide_eq_false hAscii
          have hHere := h.ascii d.toUpper (.head _)
          rw [toUpper_of_not_ascii hBeyond] at hHere
          exact hBeyond hHere

end PyStd
