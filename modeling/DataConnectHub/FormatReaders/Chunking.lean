import DataConnectHub.FormatReaders.DecodeStream
import DataConnectHub.Streaming.Buffered

/-! The batches of a stream depend on the octets of the object, and not on how
they are cut into chunks. The batches a reader is expected to yield are stated
for any point of the input, from the state of the format and the rows that are
not given up yet; every call of the decoder keeps that expectation. -/
namespace DataConnectHub.FormatReaders

open Flight RustStd Streaming List

variable {State Row Value Batch : Type}

section Expectation

variable (format : Format State UInt8 Row String) (size : Nat) (build : List Row → Except String Batch)
  (unfinished : Phase) (name : String)

def defectError : Defect String → ConnectorError
  | .malformed error => decodeError name error
  | .unfinished error =>
    match unfinished with
    | .decode => decodeError name error
    | .flush => flushError name error

/-- The groups as batches, up to the first that cannot be built. -/
def emitAll (ended : Except ConnectorError Unit) : List (List Row) → Yielded Batch ConnectorError Unit
  | [] => ⟨[], ended⟩
  | group :: groups =>
    match build group with
    | .error error => ⟨[], .error (flushError name error)⟩
    | .ok batch =>
      let later := emitAll ended groups
      ⟨batch :: later.items, later.ended⟩

/-- All rows in groups if the input is sound. Otherwise only the groups that were
complete before its defect. -/
def batchesOf (rows : List Row) : Option (Defect String) → Yielded Batch ConnectorError Unit
  | none => emitAll build name (.ok ()) (groups size rows)
  | some defect => emitAll build name (.error (defectError unfinished name defect)) (complete size rows)

def expectedFrom (state : State) (rows : List Row) (octets : List UInt8) : Yielded Batch ConnectorError Unit :=
  batchesOf size build unfinished name (rows ++ (format.documentFrom state octets).1)
    (format.documentFrom state octets).2

end Expectation

section Steps

variable {format : Format State UInt8 Row String} {size : Nat} {build : List Row → Except String Batch}
  {unfinished : Phase} {name : String} {state next : State} {rows added : List Row}

theorem expectedFrom_append {first : List UInt8} (h : format.scan state first = (added, .ok next)) (rest : List UInt8) :
    expectedFrom format size build unfinished name state rows (first ++ rest) =
      expectedFrom format size build unfinished name next (rows ++ added) rest := by
  rw [expectedFrom, Format.documentFrom_append h, expectedFrom, append_assoc]

theorem batchesOf_full (hRows : rows.length = size) (hSize : 0 < size) (later : List Row)
    (defect : Option (Defect String)) :
    batchesOf size build unfinished name (rows ++ later) defect = match build rows with
      | .error error => ⟨[], .error (flushError name error)⟩
      | .ok batch =>
        ⟨batch :: (batchesOf size build unfinished name later defect).items,
          (batchesOf size build unfinished name later defect).ended⟩ := by
  cases defect with
  | none =>
    simp only [batchesOf, groups_cons hRows hSize, emitAll]
  | some defect =>
    simp only [batchesOf, complete_cons hRows hSize, emitAll]

variable (format size build unfinished name) {machine : Machine UInt8 Batch String}
  (Holds : machine.State → State → List Row → Prop)

/-- A part of the run over these octets that yields what is expected of it:
either the rest of the input does not matter any more, or the decoder it ends
with is to yield what is left. -/
def Continues (state : State) (rows : List Row) (octets : List UInt8)
    (outcome : TryStream Batch ConnectorError machine.State) : Prop :=
  (∃ items error, outcome = some ⟨items, .error error⟩ ∧ ∀ tail,
    expectedFrom format size build unfinished name state rows (octets ++ tail) = ⟨items, .error error⟩) ∨
  ∃ items decoder next kept, outcome = some ⟨items, .ok decoder⟩ ∧ Holds decoder next kept ∧ ∀ tail,
    expectedFrom format size build unfinished name state rows (octets ++ tail) =
      ⟨items ++ (expectedFrom format size build unfinished name next kept tail).items,
        (expectedFrom format size build unfinished name next kept tail).ended⟩

variable {format size build unfinished name Holds} {octets more : List UInt8}
  {outcome : TryStream Batch ConnectorError machine.State}

theorem Continues.pure {decoder : machine.State} (h : Holds decoder state rows) :
    Continues format size build unfinished name Holds state rows [] (.pure decoder) :=
  .inr ⟨[], decoder, state, rows, rfl, h, fun _ => rfl⟩

theorem Continues.andThen {rest : machine.State → TryStream Batch ConnectorError machine.State}
    (hFirst : Continues format size build unfinished name Holds state rows octets outcome)
    (hRest : ∀ {decoder next kept}, Holds decoder next kept →
      Continues format size build unfinished name Holds next kept more (rest decoder)) :
    Continues format size build unfinished name Holds state rows (octets ++ more) (outcome.andThen rest) := by
  rcases hFirst with ⟨items, error, rfl, hExpected⟩ | ⟨items, decoder, next, kept, rfl, hHolds, hExpected⟩
  · refine .inl ⟨items, error, rfl, fun tail => ?_⟩
    rw [append_assoc, hExpected]
  · rcases hRest hHolds with ⟨later, error, hOutcome, hLater⟩ | ⟨later, last, final, left, hOutcome, hLast, hLater⟩
    · refine .inl ⟨items ++ later, error, ?_, fun tail => ?_⟩
      · rw [TryStream.andThen, hOutcome]
        rfl
      · rw [append_assoc, hExpected, hLater]
    · refine .inr ⟨items ++ later, last, final, left, ?_, hLast, fun tail => ?_⟩
      · rw [TryStream.andThen, hOutcome]
        rfl
      · rw [append_assoc, hExpected, hLater, append_assoc]

theorem Continues.of_taken {taken : Nat} (hScan : format.scan state (octets.take taken) = (added, .ok next))
    (h : Continues format size build unfinished name Holds next (rows ++ added) (octets.drop taken) outcome) :
    Continues format size build unfinished name Holds state rows octets outcome := by
  have hSplit : ∀ tail, expectedFrom format size build unfinished name state rows (octets ++ tail) =
      expectedFrom format size build unfinished name next (rows ++ added) (octets.drop taken ++ tail) := by
    intro tail
    rw [← expectedFrom_append hScan, ← append_assoc, take_append_drop]
  simpa only [Continues, hSplit] using h

/-- A full decoder gives up its rows as the next batch. -/
theorem Continues.of_batch {batch : Batch} (hSize : 0 < size) (hRows : rows.length = size)
    (hBuild : build rows = .ok batch)
    (h : Continues format size build unfinished name Holds state [] octets outcome) :
    Continues format size build unfinished name Holds state rows octets
      ((TryStream.yield batch).andThen fun _ => outcome) := by
  have hExpected : ∀ tail, expectedFrom format size build unfinished name state rows (octets ++ tail) =
      ⟨batch :: (expectedFrom format size build unfinished name state [] (octets ++ tail)).items,
        (expectedFrom format size build unfinished name state [] (octets ++ tail)).ended⟩ := by
    intro tail
    rw [expectedFrom, batchesOf_full hRows hSize, hBuild]
    rfl
  rcases h with ⟨items, error, rfl, hLater⟩ | ⟨items, decoder, next, kept, rfl, hHolds, hLater⟩
  · refine .inl ⟨batch :: items, error, rfl, fun tail => ?_⟩
    rw [hExpected, hLater]
  · refine .inr ⟨batch :: items, decoder, next, kept, rfl, hHolds, fun tail => ?_⟩
    rw [hExpected, hLater]
    rfl

end Steps

section Runs

variable {format : Format State UInt8 Row String} {size : Nat} {build : List Row → Except String Batch}
  {unfinished : Phase} {name : String} {state : State} {rows : List Row}
  {machine : Machine UInt8 Batch String} {Holds : machine.State → State → List Row → Prop}
  {decoder : machine.State}

/-- Emptying a full decoder, in the middle of the loop. -/
theorem continues_of_full {octets : List UInt8} {rest : machine.State → TryStream Batch ConnectorError machine.State}
    (hReads : machine.Reads format size build unfinished Holds) (hSize : 0 < size)
    (hHolds : Holds decoder state rows) (hFull : rows.length = size)
    (hRest : ∀ {emptied}, Holds emptied state [] →
      Continues format size build unfinished name Holds state [] octets (rest emptied)) :
    Continues format size build unfinished name Holds state rows octets
      ((TryStream.ofResult (mapErr (flushError name) (machine.flush decoder))).andThen fun
        | (some batch, decoder) => (TryStream.yield batch).andThen fun _ => rest decoder
        | (none, decoder) => .pure decoder) := by
  have hSettled := hReads.settled hHolds hFull
  have hRows : rows ≠ [] := by
    rintro rfl
    rw [← hFull] at hSize
    simp at hSize
  cases hBuild : build rows with
  | error error =>
    rw [hReads.flush_error hHolds hSettled hRows hBuild]
    refine .inl ⟨[], flushError name error, rfl, fun tail => ?_⟩
    rw [expectedFrom, batchesOf_full hFull hSize, hBuild]
  | ok batch =>
    obtain ⟨emptied, hFlush, hEmptied⟩ := hReads.flush_ok hHolds hSettled hRows hBuild
    simp only [hFlush, mapErr, TryStream.ofResult, TryStream.pure_andThen]
    exact .of_batch hSize hFull hBuild (hRest hEmptied)

variable {fuel : Nat} {chunks : List (List UInt8)}

section

variable (hReads : machine.Reads format size build unfinished Holds)

include hReads

/-- The inner loop comes to its end and yields what is expected. A pass takes
octets or empties a full decoder; after the latter the next pass takes octets, so
twice as many passes as octets are enough, and one more. -/
theorem decodeChunk_continues (hSize : 0 < size) (chunk : List UInt8) {offset : Nat} (hHolds : Holds decoder state rows)
    (hFuel : 2 * (chunk.length - offset) + (if rows.length = size then 1 else 0) ≤ fuel) :
    Continues format size build unfinished name Holds state rows (chunk.drop offset)
      (decodeChunk machine name chunk fuel offset decoder) := by
  induction fuel generalizing offset decoder state rows with
  | zero =>
    have hDone : chunk.length ≤ offset := by omega
    rw [decodeChunk, if_neg (by omega), drop_of_length_le hDone]
    exact .pure hHolds
  | succ fuel ih =>
    by_cases hOffset : offset < chunk.length
    · have hOctets : chunk.drop offset ≠ [] := by
        rw [ne_eq, drop_eq_nil_iff]
        omega
      rw [decodeChunk, if_pos hOffset]
      cases hDecode : machine.decode decoder (chunk.drop offset) with
      | error error =>
        obtain ⟨added, hScan, hShort⟩ := hReads.decode_error hHolds hOctets hDecode
        refine .inl ⟨[], decodeError name error, rfl, fun tail => ?_⟩
        rw [expectedFrom, Format.documentFrom_malformed hScan, batchesOf, complete_of_lt hShort]
        rfl
      | ok decoded =>
        obtain ⟨taken, decoder'⟩ := decoded
        obtain ⟨hTaken, added, next, hScan, hNext⟩ := hReads.decode_ok hHolds hOctets hDecode
        simp only [mapErr, TryStream.ofResult, TryStream.pure_andThen]
        by_cases hNone : taken = 0
        · subst hNone
          cases hScan
          rw [append_nil] at hNext
          have hFull := hReads.decode_none hHolds hOctets hDecode
          rw [if_pos rfl]
          refine continues_of_full hReads hSize hNext hFull fun hEmptied => ih hEmptied ?_
          rw [if_pos hFull] at hFuel
          rw [if_neg (by simp; omega)]
          omega
        · rw [if_neg hNone]
          refine .of_taken hScan ?_
          rw [drop_drop]
          refine ih hNext ?_
          rw [length_drop] at hTaken
          split <;> omega
    · rw [decodeChunk, if_neg hOffset, drop_of_length_le (by omega)]
      exact .pure hHolds

theorem decodeChunks_continues (hSize : 0 < size) (hFuel : ∀ chunk ∈ chunks, 2 * chunk.length + 1 ≤ fuel)
    (hHolds : Holds decoder state rows) :
    Continues format size build unfinished name Holds state rows chunks.flatten
      (decodeChunks machine name fuel (chunks.map .ok) decoder) := by
  induction chunks generalizing decoder state rows with
  | nil => exact .pure hHolds
  | cons chunk chunks ih =>
    have hChunk := hFuel chunk mem_cons_self
    have hFirst : Continues format size build unfinished name Holds state rows (chunk.drop 0)
        (decodeChunk machine name chunk fuel 0 decoder) := by
      refine decodeChunk_continues hReads hSize chunk hHolds ?_
      split <;> omega
    rw [flatten_cons, map_cons, decodeChunks]
    exact hFirst.andThen fun hNext =>
      ih (fun other hOther => hFuel other (mem_cons_of_mem _ hOther)) hNext

theorem decodeEnd_eq (hHolds : Holds decoder state rows) :
    decodeEnd machine name decoder = some (expectedFrom format size build unfinished name state rows []) := by
  rw [decodeEnd, expectedFrom, Format.documentFrom_nil]
  cases hFinish : format.finish state with
  | error error =>
    have hShort : rows.length < size := by
      refine Nat.lt_of_le_of_ne (hReads.length_le hHolds) fun hFull => ?_
      rw [hReads.settled hHolds hFull] at hFinish
      cases hFinish
    have hUnfinished := hReads.decode_unfinished hHolds hFinish
    simp only [append_nil, batchesOf, complete_of_lt hShort, emitAll]
    cases unfinished with
    | decode =>
      rw [hUnfinished]
      rfl
    | flush =>
      obtain ⟨taken, decoder', hDecode, hFlush⟩ := hUnfinished
      simp only [hDecode, mapErr, TryStream.ofResult, TryStream.pure_andThen, hFlush]
      rfl
  | ok row =>
    obtain ⟨taken, decoder', next, hDecode, hNext, hSettled⟩ := hReads.decode_end hHolds hFinish
    simp only [hDecode, mapErr, TryStream.ofResult, TryStream.pure_andThen, batchesOf]
    generalize rows ++ row.toList = kept at hNext
    by_cases hKept : kept = []
    · subst hKept
      obtain ⟨emptied, hFlush, -⟩ := hReads.flush_empty hNext hSettled
      simp only [hFlush, TryStream.pure_andThen, groups, emitAll]
      rfl
    · rw [groups_of_le hKept (hReads.length_le hNext), emitAll]
      cases hBuild : build kept with
      | error error =>
        rw [hReads.flush_error hNext hSettled hKept hBuild]
        rfl
      | ok batch =>
        obtain ⟨emptied, hFlush, -⟩ := hReads.flush_ok hNext hSettled hKept hBuild
        simp only [hFlush, TryStream.pure_andThen]
        rfl

end

variable {Schema : Type} {arrow : Arrow Batch Schema}

theorem decodeStream_eq {Holds : Decoder arrow → State → List Row → Prop} {decoder : Decoder arrow}
    (hReads : (Decoder.machine arrow).Reads format size build unfinished Holds) (hSize : 0 < size)
    (hStart : Holds decoder format.start []) (hFuel : ∀ chunk ∈ chunks, 2 * chunk.length + 1 ≤ fuel) :
    decodeStream fuel (.ok (chunks.map .ok)) decoder name = .ok (some
      (expectedFrom format size build unfinished name format.start [] chunks.flatten)) := by
  change Except.ok ((decodeChunks (Decoder.machine arrow) name fuel (chunks.map .ok) decoder).andThen
    (decodeEnd (Decoder.machine arrow) name)) = _
  have hChunks : Continues format size build unfinished name Holds format.start [] chunks.flatten
      (decodeChunks (Decoder.machine arrow) name fuel (chunks.map .ok) decoder) :=
    decodeChunks_continues hReads hSize hFuel hStart
  rcases hChunks with ⟨items, error, hOutcome, hExpected⟩ | ⟨items, last, next, kept, hOutcome, hLast, hExpected⟩
  · have hWhole := hExpected []
    rw [append_nil] at hWhole
    rw [hOutcome, hWhole]
    rfl
  · have hWhole := hExpected []
    rw [append_nil] at hWhole
    rw [hOutcome, TryStream.andThen, decodeEnd_eq hReads hLast, hWhole]
    rfl

end Runs

section Rows

/-- A file format: how octets become rows, and rows become the values of a
batch. A batch can be built exactly when each of its rows can be converted. -/
structure Reading (Value : Type) where
  State : Type
  Row : Type
  format : Format State UInt8 Row String
  convert : Row → Option Value
  build : List Row → Except String (List Value)
  unfinished : Phase
  build_ok : ∀ {rows values}, build rows = .ok values →
    List.Forall₂ (fun row value => convert row = some value) rows values
  build_error : ∀ {rows error}, build rows = .error error → ∃ row ∈ rows, convert row = none

variable (reading : Reading Value)

namespace Reading

/-- The decoder, not yet fed, reads this format in batches of this size. -/
def ReadBy (machine : Machine UInt8 (List Value) String) (size : Nat) (decoder : machine.State) : Prop :=
  ∃ Holds, machine.Reads reading.format size reading.build reading.unfinished Holds ∧
    Holds decoder reading.format.start []

/-- The input has no defect, and its rows have these values. -/
def Sound (octets : List UInt8) (values : List Value) : Prop :=
  (reading.format.document octets).2 = none ∧
    List.Forall₂ (fun row value => reading.convert row = some value) (reading.format.document octets).1 values

/-- The outcome is the input cut into groups of rows: all of them if the input is
sound, and otherwise an error after some of the first groups. -/
structure Cuts (size : Nat) (octets : List UInt8) (outcome : Yielded (List Value) ConnectorError Unit) : Prop where
  ended_iff : outcome.ended = .ok () ↔ ∃ values, reading.Sound octets values
  items_eq : ∀ {values}, reading.Sound octets values → outcome.items = groups size values
  leading : ∃ count, List.Forall₂ (List.Forall₂ fun row value => reading.convert row = some value)
    ((groups size (reading.format.document octets).1).take count) outcome.items
  length : ∀ batch ∈ outcome.items, 0 < batch.length ∧ batch.length ≤ size

end Reading

variable {reading} {size : Nat} {name : String} {ended : Except ConnectorError Unit}

theorem emitAll_leading {whole : List (List reading.Row)} (cut : List (List reading.Row)) (hCut : cut <+: whole) :
    ∃ count, List.Forall₂ (List.Forall₂ fun row value => reading.convert row = some value) (whole.take count)
      (emitAll reading.build name ended cut).items := by
  induction cut generalizing whole with
  | nil => exact ⟨0, .nil⟩
  | cons group cut ih =>
    obtain ⟨rest, rfl⟩ := hCut
    rw [emitAll]
    cases hBuild : reading.build group with
    | error error => exact ⟨0, .nil⟩
    | ok batch =>
      obtain ⟨count, hCount⟩ := ih (prefix_append cut rest)
      exact ⟨count + 1, .cons (reading.build_ok hBuild) hCount⟩

theorem rightUnique_convert :
    Relator.RightUnique fun (row : reading.Row) value => reading.convert row = some value := by
  intro row first second hFirst hSecond
  exact Option.some.inj (hFirst.symm.trans hSecond)

variable {cut : List (List reading.Row)}

theorem emitAll_of_convertible {batches : List (List Value)}
    (h : List.Forall₂ (List.Forall₂ fun row value => reading.convert row = some value) cut batches) :
    emitAll reading.build name ended cut = ⟨batches, ended⟩ := by
  induction h with
  | nil => rfl
  | @cons group batch cut batches hGroup _ ih =>
    rw [emitAll]
    cases hBuild : reading.build group with
    | error error =>
      obtain ⟨row, hMem, hNone⟩ := reading.build_error hBuild
      obtain ⟨value, -, hValue⟩ := exists_of_forall₂_left hGroup hMem
      rw [hNone] at hValue
      cases hValue
    | ok other =>
      have hSame : other = batch :=
        Relator.RightUnique.forall₂ rightUnique_convert (reading.build_ok hBuild) hGroup
      rw [hSame, ih]

theorem convertible_of_emitAll (h : (emitAll reading.build name ended cut).ended = .ok ()) :
    ended = .ok () ∧ ∃ batches,
      List.Forall₂ (List.Forall₂ fun row value => reading.convert row = some value) cut batches := by
  induction cut with
  | nil => exact ⟨h, [], .nil⟩
  | cons group cut ih =>
    rw [emitAll] at h
    cases hBuild : reading.build group with
    | error error => simp [hBuild] at h
    | ok batch =>
      simp only [hBuild] at h
      obtain ⟨hEnded, batches, hBatches⟩ := ih h
      exact ⟨hEnded, batch :: batches, .cons (reading.build_ok hBuild) hBatches⟩

theorem batchesOf_leading (hSize : 0 < size) (rows : List reading.Row) (defect : Option (Defect String)) :
    ∃ count, List.Forall₂ (List.Forall₂ fun row value => reading.convert row = some value)
      ((groups size rows).take count) (batchesOf size reading.build reading.unfinished name rows defect).items := by
  cases defect with
  | none => exact emitAll_leading _ (prefix_refl _)
  | some defect => exact emitAll_leading _ (complete_leads hSize rows)

theorem sound_of_ended {octets : List UInt8}
    (h : (batchesOf size reading.build reading.unfinished name (reading.format.document octets).1
      (reading.format.document octets).2).ended = .ok ()) : ∃ values, reading.Sound octets values := by
  cases hDefect : (reading.format.document octets).2 with
  | some defect =>
    rw [hDefect, batchesOf] at h
    cases (convertible_of_emitAll h).1
  | none =>
    rw [hDefect, batchesOf] at h
    obtain ⟨-, batches, hBatches⟩ := convertible_of_emitAll h
    have hRows := rel_flatten hBatches
    rw [flatten_groups] at hRows
    exact ⟨batches.flatten, hDefect, hRows⟩

theorem cuts_batchesOf (name : String) (hSize : 0 < size) (octets : List UInt8) :
    reading.Cuts size octets (batchesOf size reading.build reading.unfinished name
      (reading.format.document octets).1 (reading.format.document octets).2) := by
  have hSound : ∀ {values}, reading.Sound octets values →
      batchesOf size reading.build reading.unfinished name (reading.format.document octets).1
        (reading.format.document octets).2 = ⟨groups size values, .ok ()⟩ := by
    rintro values ⟨hNone, hValues⟩
    rw [hNone, batchesOf, emitAll_of_convertible (forall₂_groups hValues)]
  obtain ⟨count, hCount⟩ := batchesOf_leading hSize (reading.format.document octets).1
    (reading.format.document octets).2
  refine ⟨⟨sound_of_ended, fun ⟨values, hValues⟩ => by rw [hSound hValues]⟩,
    fun hValues => by rw [hSound hValues], ⟨count, hCount⟩, fun batch hBatch => ?_⟩
  obtain ⟨group, hGroup, hRows⟩ := exists_of_forall₂_right hCount hBatch
  rw [← hRows.length_eq]
  exact length_of_mem_groups hSize (mem_of_mem_take hGroup)

/-- One outcome, the input cut into groups of rows, is what a reader yields
however the input is cut into chunks, once the loop over each chunk may run as
long as it needs. -/
def Delivers (reading : Reading Value) (size : Nat) (octets : List UInt8)
    (read : Nat → Except String ByteStream → Except ConnectorError (BatchStream (List Value))) : Prop :=
  ∃ outcome, reading.Cuts size octets outcome ∧ ∀ (chunks : List (List UInt8)) (fuel : Nat), chunks.flatten = octets →
      (∀ chunk ∈ chunks, 2 * chunk.length + 1 ≤ fuel) → read fuel (.ok (chunks.map .ok)) = .ok (some outcome)

variable {Schema : Type} {arrow : Arrow (List Value) Schema}

theorem decodeStream_delivers {Holds : Decoder arrow → reading.State → List reading.Row → Prop}
    {decoder : Decoder arrow}
    (hReads : (Decoder.machine arrow).Reads reading.format size reading.build reading.unfinished Holds)
    (hStart : Holds decoder reading.format.start []) (hSize : 0 < size) (octets : List UInt8) :
    Delivers reading size octets fun fuel reader => decodeStream fuel reader decoder name := by
  refine ⟨_, cuts_batchesOf name hSize octets, fun chunks fuel hOctets hFuel => ?_⟩
  subst hOctets
  exact decodeStream_eq hReads hSize hStart hFuel

/-- Reading a CSV file and reading a JSONL file do not depend on chunking. -/
theorem batches_independent_of_chunking (schema : Schema) {csv json : Reading Value}
    {jsonDecoder : arrow.json.State} (hSize : 0 < size)
    (hCsv : csv.ReadBy arrow.csv size (arrow.buildCsv schema size))
    (hBuild : arrow.buildJson schema size = .ok jsonDecoder) (hJson : json.ReadBy arrow.json size jsonDecoder)
    (octets : List UInt8) :
    Delivers csv size octets (fun fuel reader => readCsvBatches arrow fuel reader schema size) ∧
    Delivers json size octets (fun fuel reader => readJsonlBatches arrow fuel reader schema size) := by
  obtain ⟨CsvHolds, hCsvReads, hCsvStart⟩ := hCsv
  obtain ⟨JsonHolds, hJsonReads, hJsonStart⟩ := hJson
  have hCsvMachine : (Decoder.machine arrow).Reads csv.format size csv.build csv.unfinished _ :=
    hCsvReads.embed (fun d => (.csv d : Decoder arrow)) (fun _ _ => rfl) (fun _ => rfl)
  have hJsonMachine : (Decoder.machine arrow).Reads json.format size json.build json.unfinished _ :=
    hJsonReads.embed (fun d => (.json d : Decoder arrow)) (fun _ _ => rfl) (fun _ => rfl)
  refine ⟨decodeStream_delivers hCsvMachine ⟨_, rfl, hCsvStart⟩ hSize octets, ?_⟩
  simp only [readJsonlBatches, hBuild, mapErr]
  exact decodeStream_delivers hJsonMachine ⟨_, rfl, hJsonStart⟩ hSize octets

end Rows

section Sample

/-- Lines, of which empty ones are skipped. A zero octet is an error. -/
def lines : Format (List UInt8) UInt8 (List UInt8) String where
  start := []
  feed pending octet :=
    if octet = 10 then .ok ([], if pending = [] then none else some pending)
    else if octet = 0 then .error "zero octet"
    else .ok (pending ++ [octet], none)
  finish pending := .ok (if pending = [] then none else some pending)

theorem lines_settles : lines.Settles where
  start := rfl
  row := by
    intro pending octet next row h
    simp only [lines] at h
    split at h
    · obtain ⟨rfl, -⟩ := Prod.mk.inj (Except.ok.inj h)
      rfl
    · split at h
      · cases h
      · cases h

/-- The decimal number a line stands for. -/
def number (line : List UInt8) : Option Nat :=
  line.foldlM (fun value octet =>
    if 48 ≤ octet ∧ octet ≤ 57 then some (10 * value + (octet.toNat - 48)) else none) 0

def numbers : Reading Nat where
  State := List UInt8
  Row := List UInt8
  format := lines
  convert := number
  build rows := rows.mapM fun line => okOr "not a number" (number line)
  unfinished := .decode
  build_ok h := (mapM_eq_ok h).imp fun _ _ hLine => okOr_eq_ok.mp hLine
  build_error := by
    intro rows error h
    obtain ⟨line, hMem, hLine⟩ := mapM_eq_error h
    refine ⟨line, hMem, ?_⟩
    cases hNumber : number line with
    | none => rfl
    | some value => simp [hNumber, okOr] at hLine

/-- An Arrow library that reads numbers from lines, whatever the format. -/
def plainArrow : Arrow (List Nat) Unit where
  csv := buffered lines 2 numbers.build
  json := buffered lines 2 numbers.build
  buildCsv _ _ := (([], []) : List UInt8 × List (List UInt8))
  buildJson _ _ := .ok (([], []) : List UInt8 × List (List UInt8))

theorem numbers_readBy :
    numbers.ReadBy (buffered lines 2 numbers.build) 2 (([], []) : List UInt8 × List (List UInt8)) :=
  ⟨_, buffered_reads lines_settles, rfl, Nat.zero_le _, fun _ => rfl⟩

theorem batches_independent_of_chunking_sample : Delivers numbers 2 [49, 10, 50, 50, 10, 10, 51]
      (fun fuel reader => readCsvBatches plainArrow fuel reader () 2) ∧
    Delivers numbers 2 [49, 10, 50, 50, 10, 10, 51] (fun fuel reader => readJsonlBatches plainArrow fuel reader () 2) :=
  batches_independent_of_chunking () (by decide) numbers_readBy rfl numbers_readBy _

example : readCsvBatches plainArrow 9 (.ok [.ok [49, 10, 50], .ok [], .ok [50, 10, 10, 51]]) () 2 =
    .ok (some ⟨[[1, 22], [3]], .ok ()⟩) := by
  rfl

end Sample

end DataConnectHub.FormatReaders
