import Mathlib.Data.List.Basic

/-! Absolute paths of URIs. A path is the list of its segments. A reader takes
the segments `.` and `..` as moves in the hierarchy and removes them before it
looks the path up; `removeDotSegments` is that reading. -/
namespace Uri

open List

abbrev Segment := List Char

/-- What stands between the slashes of a path that is empty or starts with one. -/
def segments (path : List Char) : List Segment :=
  (path.splitOn '/').tail

/-- The path of a reference ends where a query or a fragment begins. -/
def pathOf (reference : List Char) : List Char :=
  reference.takeWhile fun c => c != '?' && c != '#'

def IsDot (segment : Segment) : Prop :=
  segment = ['.'] ∨ segment = ['.', '.']

instance decidableIsDot : DecidablePred IsDot :=
  fun _ => inferInstanceAs (Decidable (_ ∨ _))

/-- One move in the hierarchy. The place is a list of segments, innermost first. -/
def descend (place : List Segment) (segment : Segment) : List Segment :=
  if segment = ['.'] then place
  else if segment = ['.', '.'] then place.tail
  else segment :: place

/-- The place a path leads to. -/
def directory (path : List Segment) : List Segment :=
  (path.foldl descend []).reverse

/-- A path that ends in a dot segment names a directory, and keeps the slash
after it. -/
def removeDotSegments (path : List Segment) : List Segment :=
  if path.getLast?.any fun last => decide (IsDot last) then directory path ++ [[]] else directory path

section Text

theorem segments_append_slash (base rest : List Char) :
    segments (base ++ '/' :: rest) = segments base ++ rest.splitOn '/' := by
  unfold segments
  rw [splitOn_append_cons_self, tail_append_of_ne_nil (splitOn_ne_nil _ _)]

variable {parts : List Segment} {part : Segment} {path : List Char}

theorem segments_append (base : List Char) (h : ∀ part ∈ parts, '/' ∉ part) :
    segments (base ++ parts.flatMap fun part => '/' :: part) = segments base ++ parts := by
  induction parts generalizing base with
  | nil => simp
  | cons part parts ih =>
    have hPart : segments (base ++ '/' :: part) = segments base ++ [part] := by
      rw [segments_append_slash, splitOn_eq_singleton (h part mem_cons_self)]
    have hText : base ++ (part :: parts).flatMap (fun part => '/' :: part) =
        (base ++ '/' :: part) ++ parts.flatMap fun part => '/' :: part := by
      simp
    rw [hText, ih _ fun other hOther => h other (mem_cons_of_mem _ hOther), hPart]
    simp

theorem pathOf_eq_self {reference : List Char} (h : ∀ c ∈ reference, c ≠ '?' ∧ c ≠ '#') :
    pathOf reference = reference := by
  induction reference with
  | nil => rfl
  | cons c rest ih =>
    have hKeep : (c != '?' && c != '#') = true := by
      simpa using h c mem_cons_self
    rw [pathOf, takeWhile_cons, if_pos hKeep]
    exact congrArg (c :: ·) (ih fun other hOther => h other (mem_cons_of_mem _ hOther))

theorem slash_notMem_of_mem_splitOn {text : List Char} (h : part ∈ text.splitOn '/') : '/' ∉ part := by
  induction text generalizing part with
  | nil =>
    rw [splitOn_nil, mem_singleton] at h
    simp [h]
  | cons c rest ih =>
    rw [splitOn_cons_eq_if_modifyHead] at h
    split at h
    · rcases mem_cons.mp h with rfl | hRest
      · simp
      · exact ih hRest
    next hSlash =>
        obtain ⟨first, others, hSplit⟩ := exists_cons_of_ne_nil (splitOn_ne_nil '/' rest)
        rw [hSplit, modifyHead_cons] at h
        rw [hSplit] at ih
        rcases mem_cons.mp h with rfl | hOther
        · intro hMem
          rcases mem_cons.mp hMem with rfl | hMem
          · exact hSlash (beq_self_eq_true _)
          · exact ih mem_cons_self hMem
        · exact ih (mem_cons_of_mem _ hOther)

theorem slash_notMem_of_mem_segments (h : part ∈ segments path) : '/' ∉ part :=
  slash_notMem_of_mem_splitOn (mem_of_mem_tail h)

/-- The path with these segments. -/
def pathText (parts : List Segment) : List Char :=
  parts.flatMap fun part => '/' :: part

theorem segments_pathText (h : ∀ part ∈ parts, '/' ∉ part) : segments (pathText parts) = parts := by
  simpa [pathText, segments] using segments_append [] h

theorem pathText_append (first second : List Segment) : pathText (first ++ second) = pathText first ++ pathText second :=
  flatMap_append

theorem pathText_cons (first : Segment) (rest : List Segment) :
    pathText (first :: rest) = '/' :: ['/'].intercalate (first :: rest) := by
  induction rest generalizing first with
  | nil => simp [pathText, intercalate]
  | cons second rest ih =>
    have hRest := ih second
    simp only [pathText, flatMap_cons, cons_append] at hRest ⊢
    rw [hRest]
    simp [intercalate]

/-- A path that is empty or begins with a slash is made of its segments. -/
theorem pathText_segments (h : path = [] ∨ path.head? = some '/') : pathText (segments path) = path := by
  cases path with
  | nil => rfl
  | cons c rest =>
    obtain rfl : c = '/' := by simpa using h
    obtain ⟨first, others, hSplit⟩ := exists_cons_of_ne_nil (splitOn_ne_nil '/' rest)
    have hSegments : segments ('/' :: rest) = rest.splitOn '/' := segments_append_slash [] rest
    rw [hSegments, hSplit, pathText_cons, ← hSplit, intercalate_splitOn]

/-- A path lies below a place, if only by a slash at its end. -/
def Enters (place path : List Segment) : Prop :=
  ∃ rest, rest ≠ [] ∧ path = place ++ rest

theorem enters_iff {place path : List Segment} : Enters place path ↔ place <+: path ∧ place.length < path.length := by
  constructor
  · rintro ⟨rest, hRest, rfl⟩
    refine ⟨prefix_append .., ?_⟩
    rw [length_append]
    exact Nat.lt_add_of_pos_right (length_pos_iff.mpr hRest)
  · rintro ⟨⟨rest, rfl⟩, hLength⟩
    refine ⟨rest, ?_, rfl⟩
    rintro rfl
    simp at hLength

instance decidableEnters (place path : List Segment) : Decidable (Enters place path) :=
  decidable_of_iff _ enters_iff.symm

/-- From inside of a place, the rest of the way into it is left. -/
theorem enters_take_append (place path : List Segment) (depth : Nat) :
    Enters place (place.take depth ++ path) ↔ Enters (place.drop depth) path := by
  have hPlace (rest : List Segment) : place ++ rest = place.take depth ++ (place.drop depth ++ rest) := by
    rw [← append_assoc, take_append_drop]
  unfold Enters
  simp only [hPlace, append_cancel_left_eq]

theorem leads_pathText_iff {directory : List Char} (hDirectory : directory = [] ∨ directory.head? = some '/')
    (hParts : ∀ part ∈ parts, '/' ∉ part) :
    directory ++ ['/'] <+: pathText parts ↔ Enters (segments directory) parts := by
  constructor
  · rintro ⟨rest, hRest⟩
    refine ⟨rest.splitOn '/', splitOn_ne_nil '/' rest, ?_⟩
    rw [← segments_append_slash, ← segments_pathText hParts, ← hRest, append_assoc, singleton_append]
  · rintro ⟨rest, hRest, rfl⟩
    obtain ⟨first, others, rfl⟩ := exists_cons_of_ne_nil hRest
    rw [pathText_append, pathText_segments hDirectory]
    exact ⟨first ++ pathText others, by simp [pathText]⟩

end Text

section Removal

variable {base rest : List Segment}

theorem descend_of_not_isDot {segment : Segment} (h : ¬ IsDot segment) (place : List Segment) :
    descend place segment = segment :: place := by
  unfold IsDot at h
  rw [not_or] at h
  rw [descend, if_neg h.1, if_neg h.2]

theorem length_descend_le {segment : Segment} (h : IsDot segment) (place : List Segment) :
    (descend place segment).length ≤ place.length := by
  rcases h with rfl | rfl
  · simp [descend]
  · simp [descend]

theorem foldl_descend_of_plain (hRest : ∀ segment ∈ rest, ¬ IsDot segment) (place : List Segment) :
    rest.foldl descend place = rest.reverse ++ place := by
  induction rest generalizing place with
  | nil => rfl
  | cons segment rest ih =>
    rw [foldl_cons, descend_of_not_isDot (hRest segment mem_cons_self),
      ih fun other hOther => hRest other (mem_cons_of_mem _ hOther)]
    simp

/-- Segments that are not dots stay, after the place the base leads to. -/
theorem removeDotSegments_append (hRest : ∀ segment ∈ rest, ¬ IsDot segment) (hNonempty : rest ≠ []) :
    removeDotSegments (base ++ rest) = directory base ++ rest := by
  have hLast : ((base ++ rest).getLast?.any fun last => decide (IsDot last)) = false := by
    rw [getLast?_append_of_ne_nil _ hNonempty, getLast?_eq_some_getLast hNonempty]
    simpa using hRest _ (getLast_mem hNonempty)
  rw [removeDotSegments, hLast, directory, foldl_append, foldl_descend_of_plain hRest, directory]
  simp

theorem length_foldl_descend_le (rest place : List Segment) :
    (rest.foldl descend place).length + rest.countP IsDot ≤ place.length + rest.length := by
  induction rest generalizing place with
  | nil => simp
  | cons segment rest ih =>
    have hRest := ih (descend place segment)
    rw [foldl_cons, countP_cons, length_cons]
    by_cases hDot : IsDot segment
    · have hPlace := length_descend_le hDot place
      simp only [hDot, decide_true, if_true]
      omega
    · rw [descend_of_not_isDot hDot, length_cons] at hRest
      simp only [hDot, decide_false, Bool.false_eq_true, if_false]
      rw [descend_of_not_isDot hDot]
      omega

/-- A dot among the added segments takes at least one of them away, unless it
is the last one, and then the last segment left is empty. -/
theorem last_of_removeDotSegments {found : List Segment} (hDot : ∃ segment ∈ rest, IsDot segment)
    (hFound : removeDotSegments (base ++ rest) = directory base ++ found) (hLength : found.length = rest.length) :
    found.getLast? = some [] ∧ ∃ last, rest.getLast? = some last ∧ IsDot last := by
  obtain ⟨segment, hMem, hSegment⟩ := hDot
  have hCount : 0 < rest.countP IsDot := countP_pos_iff.mpr ⟨segment, hMem, by simpa using hSegment⟩
  have hShort : (directory (base ++ rest)).length + rest.countP IsDot ≤ (directory base).length + rest.length := by
    have h := length_foldl_descend_le rest (base.foldl descend [])
    rw [← foldl_append] at h
    simpa [directory] using h
  have hNonempty : rest ≠ [] := ne_nil_of_mem hMem
  have hFoundNonempty : found ≠ [] := by
    rw [← length_pos_iff, hLength]
    exact length_pos_of_mem hMem
  by_cases hLast : IsDot (rest.getLast hNonempty)
  · refine ⟨?_, _, getLast?_eq_some_getLast hNonempty, hLast⟩
    have hEnds : (base ++ rest).getLast?.any (fun last => decide (IsDot last)) = true := by
      rw [getLast?_append_of_ne_nil _ hNonempty, getLast?_eq_some_getLast hNonempty]
      simpa using hLast
    rw [removeDotSegments, if_pos hEnds] at hFound
    have hEnd := congrArg getLast? hFound
    rw [getLast?_append_of_ne_nil _ hFoundNonempty, getLast?_concat] at hEnd
    exact hEnd.symm
  · have hEnds : (base ++ rest).getLast?.any (fun last => decide (IsDot last)) = false := by
      rw [getLast?_append_of_ne_nil _ hNonempty, getLast?_eq_some_getLast hNonempty]
      simpa using hLast
    rw [removeDotSegments, hEnds, if_neg Bool.false_ne_true] at hFound
    have hLengths := congrArg length hFound
    rw [length_append] at hLengths
    omega

theorem directory_of_plain (hBase : ∀ segment ∈ base, ¬ IsDot segment) : directory base = base := by
  rw [directory, foldl_descend_of_plain hBase, append_nil, reverse_reverse]

/-- How many levels of the place it starts from a path leaves, where `place` is how
far it has gone into that place by now. -/
def climb (place : List Segment) : List Segment → Nat
  | [] => 0
  | segment :: rest =>
    if segment = ['.', '.'] ∧ place = [] then climb [] rest + 1 else climb (descend place segment) rest

variable {place : List Segment}

theorem descend_append {segment : Segment} (h : ¬(segment = ['.', '.'] ∧ place = [])) (outer : List Segment) :
    descend (place ++ outer) segment = descend place segment ++ outer := by
  unfold descend
  split
  · rfl
  · split
    next hUp => exact tail_append_of_ne_nil fun hPlace => h ⟨hUp, hPlace⟩
    · rfl

/-- What a path leaves of the place it starts from depends on how far it climbs. -/
theorem foldl_descend_append (rest place outer : List Segment) :
    rest.foldl descend (place ++ outer) = rest.foldl descend place ++ outer.drop (climb place rest) := by
  induction rest generalizing place outer with
  | nil => rfl
  | cons segment rest ih =>
    rw [foldl_cons, foldl_cons, climb]
    split
    next hUp =>
        obtain ⟨rfl, rfl⟩ := hUp
        have hTail := ih [] outer.tail
        rw [nil_append, drop_tail] at hTail
        exact hTail
    next hStays => rw [descend_append hStays, ih]

theorem removeDotSegments_climb (hBase : ∀ segment ∈ base, ¬ IsDot segment) (hRest : rest ≠ []) :
    removeDotSegments (base ++ rest) = base.take (base.length - climb [] rest) ++ removeDotSegments rest := by
  have hPlace : directory (base ++ rest) = base.take (base.length - climb [] rest) ++ directory rest := by
    have hFold := foldl_descend_append rest [] base.reverse
    rw [nil_append] at hFold
    rw [directory, foldl_append, foldl_descend_of_plain hBase, append_nil, hFold, reverse_append,
      reverse_drop, reverse_reverse, length_reverse, directory]
  rw [removeDotSegments, removeDotSegments, getLast?_append_of_ne_nil _ hRest, hPlace]
  split
  · rw [append_assoc]
  · rfl

theorem mem_foldl_descend {segment : Segment} (h : segment ∈ rest.foldl descend place) :
    segment ∈ place ∨ segment ∈ rest ∧ ¬ IsDot segment := by
  induction rest generalizing place with
  | nil => exact .inl h
  | cons first rest ih =>
    rcases ih h with hPlace | ⟨hRest, hPlain⟩
    · by_cases hDot : IsDot first
      · rcases hDot with rfl | rfl
        · exact .inl hPlace
        · exact .inl (mem_of_mem_tail hPlace)
      · rw [descend_of_not_isDot hDot] at hPlace
        rcases mem_cons.mp hPlace with rfl | hPlace
        · exact .inr ⟨mem_cons_self, hDot⟩
        · exact .inl hPlace
    · exact .inr ⟨mem_cons_of_mem _ hRest, hPlain⟩

theorem mem_removeDotSegments {segment : Segment} (h : segment ∈ removeDotSegments rest) :
    segment = [] ∨ segment ∈ rest ∧ ¬ IsDot segment := by
  have hDirectory (hMem : segment ∈ directory rest) : segment ∈ rest ∧ ¬ IsDot segment := by
    rcases mem_foldl_descend (mem_reverse.mp hMem) with hNone | hRest
    · cases hNone
    · exact hRest
  rw [removeDotSegments] at h
  split at h
  · rcases mem_append.mp h with hMem | hLast
    · exact .inr (hDirectory hMem)
    · exact .inl (mem_singleton.mp hLast)
  · exact .inr (hDirectory h)

end Removal

end Uri
