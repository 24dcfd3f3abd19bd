import Mathlib.Data.List.Forall2

/-! Formats that are read octet by octet, and the grouping of their rows. A
format says what the rows of a whole input are. A decoder is a machine that is
fed pieces of the input and keeps the rows it has completed until they are taken
from it, at most as many as it was made for. -/
namespace Streaming

open List

variable {State Octet Row Value Batch Error : Type}

/-- The reading of one format: what an octet does, and what is left to say at
the end of the input. -/
structure Format (State Octet Row Error : Type) where
  start : State
  feed : State → Octet → Except Error (State × Option Row)
  finish : State → Except Error (Option Row)

/-- What an input that cannot be read to its end suffers from. -/
inductive Defect (Error : Type) where
  | malformed (error : Error)
  | unfinished (error : Error)

namespace Format

variable (format : Format State Octet Row Error)

/-- The rows completed on the way, and the state reached or the first error. -/
def scan : State → List Octet → List Row × Except Error State
  | state, [] => ([], .ok state)
  | state, octet :: rest =>
    match format.feed state octet with
    | .error error => ([], .error error)
    | .ok (next, row) =>
      let (rows, ended) := scan next rest
      (row.toList ++ rows, ended)

/-- The rows from a state on to the end of the input, and what is wrong with it,
if anything is. -/
def documentFrom (state : State) (octets : List Octet) : List Row × Option (Defect Error) :=
  match format.scan state octets with
  | (rows, .error error) => (rows, some (.malformed error))
  | (rows, .ok state) =>
    match format.finish state with
    | .error error => (rows, some (.unfinished error))
    | .ok row => (rows ++ row.toList, none)

/-- The rows of a whole input. -/
def document (octets : List Octet) : List Row × Option (Defect Error) :=
  format.documentFrom format.start octets

variable {format} {state next : State} {first : List Octet} {rows : List Row} {error : Error}

theorem scan_append (format : Format State Octet Row Error) (state : State) (first rest : List Octet) :
    format.scan state (first ++ rest) = match format.scan state first with
      | (rows, .ok next) => (rows ++ (format.scan next rest).1, (format.scan next rest).2)
      | (rows, .error error) => (rows, .error error) := by
  induction first generalizing state with
  | nil => rfl
  | cons octet first ih =>
    rw [cons_append, scan, scan]
    cases format.feed state octet with
    | error error => rfl
    | ok fed =>
      simp only [ih]
      rcases format.scan fed.1 first with ⟨rows, _ | next⟩
      · rfl
      · simp only [append_assoc]

theorem documentFrom_nil (format : Format State Octet Row Error) (state : State) : format.documentFrom state [] =
      match format.finish state with
      | .error error => ([], some (.unfinished error))
      | .ok row => (row.toList, none) := by
  cases hFinish : format.finish state <;> simp [documentFrom, scan, hFinish]

/-- Rows that are complete stay in front of whatever follows. -/
theorem documentFrom_append (h : format.scan state first = (rows, .ok next)) (rest : List Octet) :
    format.documentFrom state (first ++ rest) =
      (rows ++ (format.documentFrom next rest).1, (format.documentFrom next rest).2) := by
  rw [documentFrom, scan_append, h, documentFrom]
  dsimp only
  obtain ⟨added, ended⟩ := format.scan next rest
  cases ended with
  | error error => rfl
  | ok last =>
    cases hFinish : format.finish last with
    | error error | ok row => simp [hFinish]

theorem documentFrom_malformed (h : format.scan state first = (rows, .error error)) (rest : List Octet) :
    format.documentFrom state (first ++ rest) = (rows, some (.malformed error)) := by
  rw [documentFrom, scan_append, h]

end Format

section Groups

variable {size : Nat} {first rest rows : List Row}

/-- The rows in consecutive groups of one size, the last of them shorter. -/
def groups (size : Nat) : List Row → List (List Row)
  | [] => []
  | row :: rows => (row :: rows.take (size - 1)) :: groups size (rows.drop (size - 1))
  termination_by rows => rows.length
  decreasing_by
    rw [List.length_drop, List.length_cons]
    omega

/-- The groups that have the whole size. -/
def complete (size : Nat) (rows : List Row) : List (List Row) :=
  (groups size rows).filter fun group => group.length == size

theorem groups_cons (hFirst : first.length = size) (hSize : 0 < size) (rest : List Row) :
    groups size (first ++ rest) = first :: groups size rest := by
  cases first with
  | nil => simp at hFirst; omega
  | cons row first =>
    have hLength : size - 1 = first.length := by
      rw [← hFirst]
      simp
    rw [cons_append, groups, hLength, take_left, drop_left]

theorem groups_of_le (hRows : rows ≠ []) (h : rows.length ≤ size) : groups size rows = [rows] := by
  cases rows with
  | nil => exact absurd rfl hRows
  | cons row rows =>
    have hLength : rows.length ≤ size - 1 := by
      rw [length_cons] at h
      omega
    rw [groups, take_of_length_le hLength, drop_of_length_le hLength, groups]

theorem complete_cons (hFirst : first.length = size) (hSize : 0 < size) (rest : List Row) :
    complete size (first ++ rest) = first :: complete size rest := by
  rw [complete, groups_cons hFirst hSize, filter_cons_of_pos (by simpa using hFirst), complete]

theorem complete_of_lt (h : rows.length < size) : complete size rows = [] := by
  cases rows with
  | nil => simp [complete, groups]
  | cons row rows =>
    rw [complete, groups_of_le (cons_ne_nil _ _) (Nat.le_of_lt h)]
    exact filter_cons_of_neg (by simpa using Nat.ne_of_lt h)

theorem flatten_groups (size : Nat) (rows : List Row) : (groups size rows).flatten = rows := by
  fun_induction groups size rows with
  | case1 => rfl
  | case2 row rows ih =>
    rw [flatten_cons, ih, cons_append, take_append_drop]

theorem length_of_mem_groups (hSize : 0 < size) {group : List Row} (h : group ∈ groups size rows) :
    0 < group.length ∧ group.length ≤ size := by
  fun_induction groups size rows with
  | case1 => cases h
  | case2 row rows ih =>
    rcases mem_cons.mp h with rfl | h
    · rw [length_cons, length_take]
      omega
    · exact ih h

/-- Only the last group can be incomplete. -/
theorem complete_leads (hSize : 0 < size) (rows : List Row) : complete size rows <+: groups size rows := by
  unfold complete
  fun_induction groups size rows with
  | case1 => simp
  | case2 row rows ih =>
    by_cases hFull : size - 1 ≤ rows.length
    · have hLength : (row :: rows.take (size - 1)).length = size := by
        rw [length_cons, length_take]
        omega
      rw [filter_cons_of_pos (by simpa using hLength)]
      exact cons_prefix_cons.mpr ⟨rfl, ih⟩
    · have hShort : (row :: rows.take (size - 1)).length ≠ size := by
        rw [length_cons, length_take]
        omega
      rw [drop_of_length_le (by omega), filter_cons_of_neg (by simpa using hShort), groups]
      simp

/-- Rows that correspond one by one correspond group by group. -/
theorem forall₂_groups {Related : Row → Value → Prop} {values : List Value} (h : List.Forall₂ Related rows values) :
    List.Forall₂ (List.Forall₂ Related) (groups size rows) (groups size values) := by
  fun_induction groups size rows generalizing values with
  | case1 =>
    cases h
    rw [groups]
    exact .nil
  | case2 row rows ih =>
    cases h with
    | cons hRow hRows =>
      rw [groups]
      exact .cons (.cons hRow (forall₂_take _ hRows)) (ih (forall₂_drop _ hRows))

end Groups

/-- The call of a decoder that reports an unfinished record. -/
inductive Phase where
  | decode
  | flush
  deriving DecidableEq

/-- A decoder: it takes octets off the front of a piece, or gives up its rows as
a batch. -/
structure Machine (Octet Batch Error : Type) where
  State : Type
  decode : State → List Octet → Except Error (Nat × State)
  flush : State → Except Error (Option Batch × State)

/-- The decoder reads the format and holds at most `size` rows. `Holds` says for
a state of it how far it has read and which rows it has not given up yet. It
takes some of the octets it is shown unless it is full; only then may it take
none. Octets it takes have been read for good. A decoder that is full has not begun
another record. -/
structure Machine.Reads (machine : Machine Octet Batch Error) (format : Format State Octet Row Error)
    (size : Nat) (build : List Row → Except Error Batch) (unfinished : Phase)
    (Holds : machine.State → State → List Row → Prop) : Prop where
  decode_ok : ∀ {d state rows octets taken d'}, Holds d state rows → octets ≠ [] →
    machine.decode d octets = .ok (taken, d') →
    taken ≤ octets.length ∧ ∃ added next, format.scan state (octets.take taken) = (added, .ok next) ∧
      Holds d' next (rows ++ added)
  decode_none : ∀ {d state rows octets d'}, Holds d state rows → octets ≠ [] →
    machine.decode d octets = .ok (0, d') → rows.length = size
  decode_error : ∀ {d state rows octets error}, Holds d state rows → octets ≠ [] →
    machine.decode d octets = .error error →
    ∃ added, format.scan state octets = (added, .error error) ∧ (rows ++ added).length < size
  length_le : ∀ {d state rows}, Holds d state rows → rows.length ≤ size
  settled : ∀ {d state rows}, Holds d state rows → rows.length = size → format.finish state = .ok none
  decode_end : ∀ {d state rows row}, Holds d state rows → format.finish state = .ok row →
    ∃ taken d' next, machine.decode d [] = .ok (taken, d') ∧ Holds d' next (rows ++ row.toList) ∧
      format.finish next = .ok none
  decode_unfinished : ∀ {d state rows error}, Holds d state rows → format.finish state = .error error →
    match unfinished with
    | .decode => machine.decode d [] = .error error
    | .flush => ∃ taken d', machine.decode d [] = .ok (taken, d') ∧ machine.flush d' = .error error
  flush_empty : ∀ {d state}, Holds d state [] → format.finish state = .ok none →
    ∃ d', machine.flush d = .ok (none, d') ∧ Holds d' state []
  flush_ok : ∀ {d state rows batch}, Holds d state rows → format.finish state = .ok none → rows ≠ [] →
    build rows = .ok batch → ∃ d', machine.flush d = .ok (some batch, d') ∧ Holds d' state []
  flush_error : ∀ {d state rows error}, Holds d state rows → format.finish state = .ok none → rows ≠ [] →
    build rows = .error error → machine.flush d = .error error

/-- A decoder that another one is part of reads what that one reads. -/
theorem Machine.Reads.embed {machine other : Machine Octet Batch Error} {format : Format State Octet Row Error}
    {size : Nat} {build : List Row → Except Error Batch} {unfinished : Phase}
    {Holds : machine.State → State → List Row → Prop} (h : machine.Reads format size build unfinished Holds)
    (inject : machine.State → other.State)
    (hDecode : ∀ d octets, other.decode (inject d) octets =
      (machine.decode d octets).map fun (taken, next) => (taken, inject next))
    (hFlush : ∀ d, other.flush (inject d) = (machine.flush d).map fun (batch, next) => (batch, inject next)) :
    other.Reads format size build unfinished fun d state rows => ∃ inner, d = inject inner ∧ Holds inner state rows where
  decode_ok := by
    rintro _ state rows octets taken d' ⟨d, rfl, hHolds⟩ hOctets hDecoded
    rw [hDecode] at hDecoded
    cases hInner : machine.decode d octets with
    | error error => simp [hInner, Except.map] at hDecoded
    | ok decoded =>
      simp only [hInner, Except.map, Except.ok.injEq, Prod.mk.injEq] at hDecoded
      obtain ⟨rfl, rfl⟩ := hDecoded
      obtain ⟨hTaken, added, next, hScan, hNext⟩ := h.decode_ok hHolds hOctets hInner
      exact ⟨hTaken, added, next, hScan, _, rfl, hNext⟩
  decode_none := by
    rintro _ state rows octets d' ⟨d, rfl, hHolds⟩ hOctets hDecoded
    rw [hDecode] at hDecoded
    cases hInner : machine.decode d octets with
    | error error => simp [hInner, Except.map] at hDecoded
    | ok decoded =>
      obtain ⟨taken, next⟩ := decoded
      simp only [hInner, Except.map, Except.ok.injEq, Prod.mk.injEq] at hDecoded
      rw [hDecoded.1] at hInner
      exact h.decode_none hHolds hOctets hInner
  decode_error := by
    rintro _ state rows octets error ⟨d, rfl, hHolds⟩ hOctets hDecoded
    rw [hDecode] at hDecoded
    cases hInner : machine.decode d octets with
    | error error =>
      simp only [hInner, Except.map, Except.error.injEq] at hDecoded
      rw [hDecoded] at hInner
      exact h.decode_error hHolds hOctets hInner
    | ok decoded => simp [hInner, Except.map] at hDecoded
  length_le := by
    rintro _ state rows ⟨d, -, hHolds⟩
    exact h.length_le hHolds
  settled := by
    rintro _ state rows ⟨d, -, hHolds⟩ hFull
    exact h.settled hHolds hFull
  decode_end := by
    rintro _ state rows row ⟨d, rfl, hHolds⟩ hFinish
    obtain ⟨taken, d', next, hDecoded, hNext, hSettled⟩ := h.decode_end hHolds hFinish
    exact ⟨taken, inject d', next, by rw [hDecode, hDecoded]; rfl, ⟨d', rfl, hNext⟩, hSettled⟩
  decode_unfinished := by
    rintro _ state rows error ⟨d, rfl, hHolds⟩ hFinish
    have hInner := h.decode_unfinished hHolds hFinish
    cases unfinished with
    | decode =>
      change other.decode (inject d) [] = _
      rw [hDecode, hInner]
      rfl
    | flush =>
      obtain ⟨taken, d', hDecoded, hFlushed⟩ := hInner
      exact ⟨taken, inject d', by rw [hDecode, hDecoded]; rfl, by rw [hFlush, hFlushed]; rfl⟩
  flush_empty := by
    rintro _ state ⟨d, rfl, hHolds⟩ hFinish
    obtain ⟨d', hFlushed, hNext⟩ := h.flush_empty hHolds hFinish
    exact ⟨inject d', by rw [hFlush, hFlushed]; rfl, d', rfl, hNext⟩
  flush_ok := by
    rintro _ state rows batch ⟨d, rfl, hHolds⟩ hFinish hRows hBuild
    obtain ⟨d', hFlushed, hNext⟩ := h.flush_ok hHolds hFinish hRows hBuild
    exact ⟨inject d', by rw [hFlush, hFlushed]; rfl, d', rfl, hNext⟩
  flush_error := by
    rintro _ state rows error ⟨d, rfl, hHolds⟩ hFinish hRows hBuild
    rw [hFlush, h.flush_error hHolds hFinish hRows hBuild]
    rfl

end Streaming
