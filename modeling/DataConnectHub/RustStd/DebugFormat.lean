import Mathlib.Data.Nat.Digits.Lemmas

/-! The debug format of strings and lists of strings. A string is quoted, with
quotes, backslashes and characters that are not printable escaped; a list is
bracketed. Which other characters are printable is a parameter. The format can
be read back from the left, and from the right after a separator. -/
namespace RustStd

open List

def hexDigit (digit : Nat) : Char :=
  if digit < 10 then Char.ofNat (48 + digit) else Char.ofNat (87 + digit)

/-- Lower-case hexadecimal without leading zeros. -/
def hexDigits (number : Nat) : List Char :=
  ((Nat.digits 16 number).map hexDigit).reverse

variable (printable : Char → Bool)

def escapeDebug (char : Char) : List Char :=
  if char = '\x00' then ['\\', '0']
  else if char = '\t' then ['\\', 't']
  else if char = '\r' then ['\\', 'r']
  else if char = '\n' then ['\\', 'n']
  else if char = '\\' then ['\\', '\\']
  else if char = '"' then ['\\', '"']
  else if printable char then [char]
  else '\\' :: 'u' :: '\x7b' :: hexDigits char.toNat ++ ['\x7d']

def escapeAll (chars : List Char) : List Char :=
  chars.flatMap (escapeDebug printable)

/-- A quoted string, followed by the rest of the output. -/
def quoted (text : String) (rest : List Char) : List Char :=
  '"' :: escapeAll printable text.toList ++ '"' :: rest

/-- The items after the first one, and the closing bracket. -/
def debugTail : List String → List Char
  | [] => [']']
  | text :: texts => ',' :: ' ' :: quoted printable text (debugTail texts)

def debugItems : List String → List Char
  | [] => ['[', ']']
  | text :: texts => '[' :: quoted printable text (debugTail printable texts)

def debugList (texts : List String) : String :=
  String.ofList (debugItems printable texts)

def debugString (text : String) : String := String.ofList (quoted printable text [])

example : debugList (fun _ => true) ["a", "b\"c"] = "[\"a\", \"b\\\"c\"]" := by decide

section ReadBack

def hexValue (digit : Char) : Nat :=
  if digit.toNat < 58 then digit.toNat - 48 else digit.toNat - 87

theorem hexValue_hexDigit : ∀ digit < 16, hexValue (hexDigit digit) = digit := by decide

theorem hexDigit_plain : ∀ digit < 16,
    hexDigit digit ≠ '\x7d' ∧ hexDigit digit ≠ '"' ∧ hexDigit digit ≠ '\\' := by decide

theorem mem_hexDigits {number : Nat} {char : Char} (h : char ∈ hexDigits number) :
    ∃ digit < 16, char = hexDigit digit := by
  obtain ⟨digit, hDigit, rfl⟩ := mem_map.mp (mem_reverse.mp h)
  exact ⟨digit, Nat.digits_lt_base (by decide) hDigit, rfl⟩

/-- The number a sequence of hexadecimal digits stands for. -/
def hexNumber (digits : List Char) : Nat :=
  Nat.ofDigits 16 (digits.reverse.map hexValue)

theorem hexNumber_hexDigits (number : Nat) : hexNumber (hexDigits number) = number := by
  have hDigits : ((Nat.digits 16 number).map hexDigit).map hexValue = Nat.digits 16 number := by
    rw [map_map]
    refine (map_congr_left fun digit hDigit => ?_).trans (map_id _)
    exact hexValue_hexDigit digit (Nat.digits_lt_base (by decide) hDigit)
  rw [hexNumber, hexDigits, reverse_reverse, hDigits, Nat.ofDigits_digits]

/-- Read one character of an escaped text. -/
def readEscaped : List Char → Option (Char × List Char)
  | [] => none
  | char :: rest =>
    if char = '\\' then
      match rest with
      | '0' :: rest => some ('\x00', rest)
      | 't' :: rest => some ('\t', rest)
      | 'r' :: rest => some ('\r', rest)
      | 'n' :: rest => some ('\n', rest)
      | '\\' :: rest => some ('\\', rest)
      | '"' :: rest => some ('"', rest)
      | 'u' :: _ :: rest =>
        some (Char.ofNat (hexNumber (rest.takeWhile (· != '\x7d'))), (rest.dropWhile (· != '\x7d')).tail)
      | _ => none
    else some (char, rest)

variable {printable}

theorem readEscaped_escapeDebug (char : Char) (rest : List Char) :
    readEscaped (escapeDebug printable char ++ rest) = some (char, rest) := by
  unfold escapeDebug
  split_ifs with h0 ht hr hn hBackslash hQuote hPrintable
  · rw [h0]; rfl
  · rw [ht]; rfl
  · rw [hr]; rfl
  · rw [hn]; rfl
  · rw [hBackslash]; rfl
  · rw [hQuote]; rfl
  · simp [readEscaped, hBackslash]
  · have hPlain : ∀ digit ∈ hexDigits char.toNat, (digit != '\x7d') = true := by
      intro digit hDigit
      obtain ⟨value, hValue, rfl⟩ := mem_hexDigits hDigit
      exact bne_iff_ne.mpr (hexDigit_plain value hValue).1
    simp only [cons_append, append_assoc, readEscaped, if_true]
    rw [takeWhile_append_of_pos hPlain, dropWhile_append_of_pos hPlain]
    simp [hexNumber_hexDigits]

variable {rest rest' : List Char} {first second : List String}

theorem escapeDebug_append_inj {first second : Char}
    (h : escapeDebug printable first ++ rest = escapeDebug printable second ++ rest') :
    first = second ∧ rest = rest' := by
  have hRead := congrArg readEscaped h
  rw [readEscaped_escapeDebug, readEscaped_escapeDebug] at hRead
  exact Prod.mk.inj (Option.some.inj hRead)

/-- An escaped character never looks like the closing quote. -/
theorem escapeDebug_ne_quote (char : Char) (rest rest' : List Char) :
    escapeDebug printable char ++ rest ≠ '"' :: rest' := by
  unfold escapeDebug
  split_ifs with h0 ht hr hn hBackslash hQuote hPrintable <;> simp_all

theorem escapeAll_append_inj {first second : List Char}
    (h : escapeAll printable first ++ '"' :: rest = escapeAll printable second ++ '"' :: rest') :
    first = second ∧ rest = rest' := by
  induction first generalizing second with
  | nil =>
    cases second with
    | nil => exact ⟨rfl, (cons.inj h).2⟩
    | cons char chars =>
      simp only [escapeAll, flatMap_nil, nil_append, flatMap_cons, append_assoc] at h
      exact absurd h.symm (escapeDebug_ne_quote char _ _)
  | cons char chars ih =>
    cases second with
    | nil =>
      simp only [escapeAll, flatMap_nil, nil_append, flatMap_cons, append_assoc] at h
      exact absurd h (escapeDebug_ne_quote char _ _)
    | cons char' chars' =>
      simp only [escapeAll, flatMap_cons, append_assoc] at h
      obtain ⟨rfl, hRest⟩ := escapeDebug_append_inj h
      obtain ⟨rfl, hEnd⟩ := ih hRest
      exact ⟨rfl, hEnd⟩

theorem quoted_inj {first second : String} (h : quoted printable first rest = quoted printable second rest') :
    first = second ∧ rest = rest' := by
  obtain ⟨hText, hRest⟩ := escapeAll_append_inj (cons.inj h).2
  exact ⟨String.toList_injective hText, hRest⟩

theorem debugTail_inj (h : debugTail printable first = debugTail printable second) : first = second := by
  induction first generalizing second with
  | nil =>
    cases second with
    | nil => rfl
    | cons text texts => simp [debugTail] at h
  | cons text texts ih =>
    cases second with
    | nil => simp [debugTail] at h
    | cons text' texts' =>
      obtain ⟨rfl, hRest⟩ := quoted_inj (cons.inj (cons.inj h).2).2
      rw [ih hRest]

theorem debugItems_inj (h : debugItems printable first = debugItems printable second) : first = second := by
  cases first with
  | nil =>
    cases second with
    | nil => rfl
    | cons text texts => simp [debugItems, quoted] at h
  | cons text texts =>
    cases second with
    | nil => simp [debugItems, quoted] at h
    | cons text' texts' =>
      obtain ⟨rfl, hRest⟩ := quoted_inj (cons.inj h).2
      rw [debugTail_inj hRest]

end ReadBack

section Scan

/-- Where a reader of a formatted list is. -/
inductive Place where
  | outside
  | inside
  | escaped
  deriving DecidableEq

/-- One character further, if it can stand there. -/
def Place.next : Place → Char → Option Place
  | .outside, char =>
    if char = '"' then some .inside
    else if char = '[' ∨ char = ']' ∨ char = ',' ∨ char = ' ' then some .outside
    else none
  | .inside, char =>
    if char = '"' then some .outside else if char = '\\' then some .escaped else some .inside
  | .escaped, char =>
    if char = '0' ∨ char = 't' ∨ char = 'r' ∨ char = 'n' ∨ char = '\\' ∨ char = '"' ∨ char = 'u'
    then some .inside else none

def scan : Place → List Char → Option Place
  | place, [] => some place
  | place, char :: rest => (place.next char).bind fun after => scan after rest

theorem scan_append (place : Place) (first second : List Char) :
    scan place (first ++ second) = (scan place first).bind fun after => scan after second := by
  induction first generalizing place with
  | nil => rfl
  | cons char rest ih =>
    simp only [cons_append, scan]
    cases place.next char with
    | none => rfl
    | some after => exact ih after

variable {chars : List Char}

theorem scan_plain (h : ∀ char ∈ chars, char ≠ '"' ∧ char ≠ '\\') : scan .inside chars = some .inside := by
  induction chars with
  | nil => rfl
  | cons char rest ih =>
    obtain ⟨hQuote, hBackslash⟩ := h char (mem_cons_self ..)
    simp only [scan, Place.next, hQuote, hBackslash, if_false, Option.bind_some]
    exact ih fun other hOther => h other (mem_cons_of_mem _ hOther)

variable {printable}

theorem scan_escapeDebug (char : Char) : scan .inside (escapeDebug printable char) = some .inside := by
  unfold escapeDebug
  split_ifs with h0 ht hr hn hBackslash hQuote hPrintable
  · rfl
  · rfl
  · rfl
  · rfl
  · rfl
  · rfl
  · exact scan_plain (by simp [hQuote, hBackslash])
  · refine (scan_append .inside ['\\', 'u', '\x7b'] (hexDigits char.toNat ++ ['\x7d'])).trans ?_
    refine scan_plain fun other hOther => ?_
    rcases mem_append.mp hOther with hDigit | hClose
    · obtain ⟨value, hValue, rfl⟩ := mem_hexDigits hDigit
      exact (hexDigit_plain value hValue).2
    · rw [mem_singleton.mp hClose]
      decide

theorem scan_escapeAll (chars : List Char) : scan .inside (escapeAll printable chars) = some .inside := by
  induction chars with
  | nil => rfl
  | cons char rest ih =>
    rw [escapeAll, flatMap_cons, scan_append, scan_escapeDebug]
    exact ih

theorem scan_quoted (text : String) (rest : List Char) :
    scan .outside (quoted printable text rest) = scan .outside rest := by
  change scan .inside (escapeAll printable text.toList ++ '"' :: rest) = _
  rw [scan_append, scan_escapeAll]
  rfl

theorem scan_debugTail (texts : List String) : scan .outside (debugTail printable texts) = some .outside := by
  induction texts with
  | nil => rfl
  | cons text texts ih => exact (scan_quoted text _).trans ih

theorem scan_debugItems (texts : List String) : scan .outside (debugItems printable texts) = some .outside := by
  cases texts with
  | nil => rfl
  | cons text texts => exact (scan_quoted text _).trans (scan_debugTail texts)

/-- A reader inside a string and one outside of it never agree: each quote
moves both, and a backslash is not allowed outside. -/
theorem not_scan_both (hOutside : scan .outside chars = some .outside) (hInside : scan .inside chars = some .outside) :
    False := by
  induction chars with
  | nil => cases hInside
  | cons char rest ih =>
    simp only [scan, Place.next] at hOutside hInside
    by_cases hQuote : char = '"'
    · simp only [hQuote, if_true, Option.bind_some] at hOutside hInside
      exact ih hInside hOutside
    · by_cases hBetween : char = '[' ∨ char = ']' ∨ char = ',' ∨ char = ' '
      · have hBackslash : char ≠ '\\' := by
          rintro rfl
          exact absurd hBetween (by decide)
        simp only [hQuote, hBetween, hBackslash, if_true, if_false, Option.bind_some] at hOutside hInside
        exact ih hOutside hInside
      · simp [hQuote, hBetween] at hOutside

/-- A colon within a formatted list is never followed by a formatted list that
ends with it. -/
theorem debugItems_ne_append_colon (front : List Char) (texts texts' : List String) :
    debugItems printable texts ≠ front ++ ':' :: debugItems printable texts' := by
  intro h
  have hScan := @scan_debugItems printable texts
  rw [h, scan_append] at hScan
  cases hPlace : scan .outside front with
  | none =>
    rw [hPlace] at hScan
    cases hScan
  | some place =>
    rw [hPlace] at hScan
    cases place with
    | outside | escaped => cases hScan
    | inside => exact not_scan_both (scan_debugItems texts') hScan

/-- What stands before the last formatted list, and the list, can be told from
the whole. -/
theorem append_debugItems_inj {first second : List Char} {texts texts' : List String}
    (h : first ++ ':' :: debugItems printable texts = second ++ ':' :: debugItems printable texts') :
    first = second ∧ texts = texts' := by
  rcases append_eq_append_iff.mp h with ⟨between, rfl, hRest⟩ | ⟨between, rfl, hRest⟩
  · cases between with
    | nil => exact ⟨(append_nil _).symm, debugItems_inj (cons.inj hRest).2⟩
    | cons char between =>
      exact absurd (cons.inj hRest).2 (debugItems_ne_append_colon between texts texts')
  · cases between with
    | nil => exact ⟨append_nil _, debugItems_inj (cons.inj hRest).2.symm⟩
    | cons char between =>
      exact absurd (cons.inj hRest).2 (debugItems_ne_append_colon between texts' texts)

end Scan

/-- The part after the last separator, where it contains none. -/
theorem append_cons_inj_of_not_mem {α : Type} {separator : α} {first second last last' : List α}
    (hLast : separator ∉ last) (hLast' : separator ∉ last')
    (h : first ++ separator :: last = second ++ separator :: last') : first = second ∧ last = last' := by
  rcases append_eq_append_iff.mp h with ⟨between, rfl, hRest⟩ | ⟨between, rfl, hRest⟩
  · cases between with
    | nil => exact ⟨(append_nil _).symm, (cons.inj hRest).2⟩
    | cons char between =>
      obtain ⟨-, rfl⟩ := cons.inj hRest
      exact absurd (by simp) hLast
  · cases between with
    | nil => exact ⟨append_nil _, (cons.inj hRest).2.symm⟩
    | cons char between =>
      obtain ⟨-, rfl⟩ := cons.inj hRest
      exact absurd (by simp) hLast'

end RustStd
