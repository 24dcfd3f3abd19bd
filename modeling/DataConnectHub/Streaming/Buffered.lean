import DataConnectHub.Streaming.Format

/-! The plainest decoder of a format: it feeds the format octet by octet and
stops when it holds as many rows as it may. -/
namespace Streaming

open List

variable {State Octet Row Batch Error : Type}

/-- Nothing is pending at the start and after a row. -/
structure Format.Settles (format : Format State Octet Row Error) : Prop where
  start : format.finish format.start = .ok none
  row : ∀ {state octet next row}, format.feed state octet = .ok (next, some row) → format.finish next = .ok none

section Buffered

variable (format : Format State Octet Row Error) (size : Nat) (build : List Row → Except Error Batch)

/-- Octets are taken until the decoder is full. -/
def fill : State → List Row → List Octet → Except Error (Nat × State × List Row)
  | state, rows, [] => .ok (0, state, rows)
  | state, rows, octet :: rest =>
    if rows.length = size then .ok (0, state, rows)
    else
      match format.feed state octet with
      | .error error => .error error
      | .ok (next, row) =>
        (fill next (rows ++ row.toList) rest).map fun (taken, filled) => (taken + 1, filled)

def buffered : Machine Octet Batch Error where
  State := State × List Row
  decode
    | (state, rows), [] => (format.finish state).map fun row => (0, format.start, rows ++ row.toList)
    | (state, rows), octet :: rest => fill format size state rows (octet :: rest)
  flush
    | (state, []) => .ok (none, state, [])
    | (state, row :: rows) => (build (row :: rows)).map fun batch => (some batch, state, [])

/-- The state of the decoder is what it holds; when it is full nothing is
pending. -/
def BufferedHolds (d : State × List Row) (state : State) (rows : List Row) : Prop :=
  d = (state, rows) ∧ rows.length ≤ size ∧ (rows.length = size → format.finish state = .ok none)

end Buffered

section Laws

variable {format : Format State Octet Row Error} {size : Nat} {build : List Row → Except Error Batch}
  {state : State} {rows : List Row} {octets : List Octet}

theorem bufferedHolds_feed (hSettles : format.Settles) {octet : Octet} {next : State} {row : Option Row}
    (hLength : rows.length < size) (hFeed : format.feed state octet = .ok (next, row)) :
    BufferedHolds format size (next, rows ++ row.toList) next (rows ++ row.toList) := by
  cases row with
  | none =>
    rw [Option.toList_none, append_nil]
    exact ⟨rfl, Nat.le_of_lt hLength, fun hFull => absurd hFull (Nat.ne_of_lt hLength)⟩
  | some row =>
    refine ⟨rfl, ?_, fun _ => hSettles.row hFeed⟩
    rw [Option.toList_some, length_append, length_singleton]
    exact hLength

variable {d : State × List Row}

theorem fill_ok (hSettles : format.Settles) {taken : Nat} (hHolds : BufferedHolds format size (state, rows) state rows)
    (h : fill format size state rows octets = .ok (taken, d)) :
    taken ≤ octets.length ∧ ∃ added next, format.scan state (octets.take taken) = (added, .ok next) ∧
      BufferedHolds format size d next (rows ++ added) := by
  induction octets generalizing state rows taken with
  | nil =>
    cases h
    exact ⟨Nat.le_refl _, [], state, rfl, by rwa [append_nil]⟩
  | cons octet rest ih =>
    rw [fill] at h
    split at h
    · cases h
      exact ⟨Nat.zero_le _, [], state, rfl, by rwa [append_nil]⟩
    next hRoom =>
      cases hFeed : format.feed state octet with
      | error error => simp [hFeed] at h
      | ok fed =>
        obtain ⟨next, row⟩ := fed
        simp only [hFeed] at h
        cases hFill : fill format size next (rows ++ row.toList) rest with
        | error error => simp [hFill, Except.map] at h
        | ok filled =>
          obtain ⟨later, d'⟩ := filled
          simp only [hFill, Except.map, Except.ok.injEq, Prod.mk.injEq] at h
          obtain ⟨rfl, rfl⟩ := h
          have hNext := bufferedHolds_feed hSettles (Nat.lt_of_le_of_ne hHolds.2.1 hRoom) hFeed
          obtain ⟨hTaken, added, last, hScan, hLast⟩ := ih hNext hFill
          refine ⟨Nat.succ_le_succ hTaken, row.toList ++ added, last, ?_, ?_⟩
          · simp [Format.scan, hFeed, hScan]
          · rwa [← append_assoc]

theorem fill_none (hOctets : octets ≠ []) (h : fill format size state rows octets = .ok (0, d)) :
    rows.length = size := by
  cases octets with
  | nil => exact absurd rfl hOctets
  | cons octet rest =>
    rw [fill] at h
    split at h
    · assumption
    · split at h
      · cases h
      next next row hFeed =>
        cases hFill : fill format size next (rows ++ row.toList) rest with
        | error error | ok filled => simp [hFill, Except.map] at h

theorem fill_error (hSettles : format.Settles) {error : Error}
    (hHolds : BufferedHolds format size (state, rows) state rows)
    (h : fill format size state rows octets = .error error) :
    ∃ added, format.scan state octets = (added, .error error) ∧ (rows ++ added).length < size := by
  induction octets generalizing state rows with
  | nil => cases h
  | cons octet rest ih =>
    rw [fill] at h
    split at h
    · cases h
    next hRoom =>
      have hLength := Nat.lt_of_le_of_ne hHolds.2.1 hRoom
      cases hFeed : format.feed state octet with
      | error other =>
        simp only [hFeed, Except.error.injEq] at h
        subst h
        exact ⟨[], by simp [Format.scan, hFeed], by rwa [append_nil]⟩
      | ok fed =>
        obtain ⟨next, row⟩ := fed
        simp only [hFeed] at h
        cases hFill : fill format size next (rows ++ row.toList) rest with
        | ok filled => simp [hFill, Except.map] at h
        | error other =>
          simp only [hFill, Except.map, Except.error.injEq] at h
          subst h
          obtain ⟨added, hScan, hShort⟩ := ih (bufferedHolds_feed hSettles hLength hFeed) hFill
          refine ⟨row.toList ++ added, by simp [Format.scan, hFeed, hScan], ?_⟩
          rwa [← append_assoc]

theorem buffered_reads (hSettles : format.Settles) :
    (buffered format size build).Reads format size build .decode (BufferedHolds format size) where
  decode_ok := by
    rintro _ state rows octets taken d' ⟨rfl, hHolds⟩ hOctets hDecode
    cases octets with
    | nil => exact absurd rfl hOctets
    | cons octet rest => exact fill_ok hSettles ⟨rfl, hHolds⟩ hDecode
  decode_none := by
    rintro _ state rows octets d' ⟨rfl, hHolds⟩ hOctets hDecode
    cases octets with
    | nil => exact absurd rfl hOctets
    | cons octet rest => exact fill_none hOctets hDecode
  decode_error := by
    rintro _ state rows octets error ⟨rfl, hHolds⟩ hOctets hDecode
    cases octets with
    | nil => exact absurd rfl hOctets
    | cons octet rest => exact fill_error hSettles ⟨rfl, hHolds⟩ hDecode
  length_le := fun hHolds => hHolds.2.1
  settled := fun hHolds => hHolds.2.2
  decode_end := by
    rintro _ state rows row ⟨rfl, hLength, hFull⟩ hFinish
    refine ⟨0, (format.start, rows ++ row.toList), format.start, ?_, ⟨rfl, ?_, fun _ => hSettles.start⟩, hSettles.start⟩
    · change (format.finish state).map _ = _
      rw [hFinish]
      rfl
    · cases row with
      | none => simpa using hLength
      | some row =>
        rw [Option.toList_some, length_append, length_singleton]
        refine Nat.lt_of_le_of_ne hLength fun h => ?_
        rw [hFull h] at hFinish
        cases hFinish
  decode_unfinished := by
    rintro _ state rows error ⟨rfl, -⟩ hFinish
    change (format.finish state).map _ = _
    rw [hFinish]
    rfl
  flush_empty := by
    rintro _ state ⟨rfl, hHolds⟩ -
    exact ⟨(state, []), rfl, rfl, hHolds⟩
  flush_ok := by
    rintro _ state rows batch ⟨rfl, hLength, -⟩ hFinish hRows hBuild
    cases rows with
    | nil => exact absurd rfl hRows
    | cons row rows =>
      refine ⟨(state, []), ?_, rfl, Nat.zero_le _, fun _ => hFinish⟩
      change (build (row :: rows)).map _ = _
      rw [hBuild]
      rfl
  flush_error := by
    rintro _ state rows error ⟨rfl, -⟩ - hRows hBuild
    cases rows with
    | nil => exact absurd rfl hRows
    | cons row rows =>
      change (build (row :: rows)).map _ = _
      rw [hBuild]
      rfl

end Laws

end Streaming
