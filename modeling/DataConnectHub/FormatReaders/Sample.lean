import DataConnectHub.FormatReaders.DecodeStream
import Mathlib.Data.List.Infix

/-! The sample of a file from which its schema is inferred. Chunks are read until
they reach a limit, and the sample is then cut after its last line. Whether the
limit or the end of the file came first is not the same question as whether
there is more to read. -/
namespace DataConnectHub.FormatReaders

open Flight RustStd List

section Lines

/-- `Iterator::rposition`: the index of the last item that passes. -/
def rposition {Item : Type} (test : Item → Bool) (items : List Item) : Option Nat :=
  (items.reverse.findIdx? test).map fun index => items.length - 1 - index

def newline : UInt8 := 10

variable {buf : List UInt8}

theorem rposition_none (h : newline ∉ buf) : rposition (· == newline) buf = none := by
  simp only [rposition, Option.map_eq_none_iff, findIdx?_eq_none_iff, mem_reverse]
  intro byte hByte
  simpa using fun hNewline : byte = newline => h (hNewline ▸ hByte)

/-- The last newline ends the complete lines. -/
theorem rposition_last {lines rest : List UInt8} (h : newline ∉ rest) :
    rposition (· == newline) (lines ++ newline :: rest) = some lines.length := by
  have hRest : rest.reverse.findIdx? (· == newline) = none := by
    simp only [findIdx?_eq_none_iff, mem_reverse]
    intro byte hByte
    simpa using fun hNewline : byte = newline => h (hNewline ▸ hByte)
  simp [rposition, findIdx?_append, hRest, findIdx?_cons]

theorem exists_last_newline (h : newline ∈ buf) : ∃ lines rest, buf = lines ++ newline :: rest ∧ newline ∉ rest := by
  obtain ⟨before, after, hSplit, hBefore⟩ := eq_append_cons_of_mem (mem_reverse.mpr h)
  refine ⟨after.reverse, before.reverse, ?_, by simpa using hBefore⟩
  rw [← reverse_reverse buf, hSplit]
  simp

end Lines

def maxSchemaSample : Nat := 1048576

/-- The loop over the stream: what was read, and whether the limit ended it. -/
def fillSample : ByteStream → List UInt8 → Except ConnectorError (List UInt8 × Bool)
  | [], buf => .ok (buf, false)
  | .error error :: _, _ => .error (.ioError s!"Stream read error: {error}")
  | .ok chunk :: rest, buf =>
    if maxSchemaSample ≤ (buf ++ chunk).length then .ok (buf ++ chunk, true)
    else fillSample rest (buf ++ chunk)

/-- A sample that the limit ended is cut after its last newline, if it has one. -/
def truncateSample (buf : List UInt8) (hitLimit : Bool) : List UInt8 :=
  if hitLimit then
    match rposition (· == newline) buf with
    | some pos => buf.take (pos + 1)
    | none => buf
  else buf

def readSample (reader : Except String ByteStream) : Except ConnectorError (List UInt8) := do
  let stream ← mapErr (fun error => .ioError s!"Failed to open stream: {error}") reader
  let (buf, hitLimit) ← fillSample stream []
  return truncateSample buf hitLimit

section Whole

variable (chunks : List (List UInt8))

/-- The chunks up to the one that reaches the limit, with `size` bytes before them. -/
def chunksRead : Nat → List (List UInt8) → List (List UInt8)
  | _, [] => []
  | size, chunk :: rest =>
    if maxSchemaSample ≤ size + chunk.length then [chunk]
    else chunk :: chunksRead (size + chunk.length) rest

/-- A sample of whole lines, with every line if every byte was read. -/
structure WholeLines (sample : List UInt8) : Prop where
  isPrefix : sample <+: chunks.flatten
  complete : sample = chunks.flatten ∨ ∃ lines, sample = lines ++ [newline]
  everything : (chunksRead 0 chunks).flatten = chunks.flatten → sample = chunks.flatten

/-- Less than the limit is read; or the file goes on after the limit, and there
is a newline before; or the file ends with the chunk that reaches the limit, and
either ends with a newline or has none. -/
def Sampled : Prop :=
  let read := (chunksRead 0 chunks).flatten
  read.length < maxSchemaSample ∨ (read ≠ chunks.flatten ∧ newline ∈ read) ∨
    (read = chunks.flatten ∧ ((∃ lines, read = lines ++ [newline]) ∨ newline ∉ read))

end Whole

section Truncation

theorem truncateSample_lines {lines rest : List UInt8} (h : newline ∉ rest) :
    truncateSample (lines ++ newline :: rest) true = lines ++ [newline] := by
  simp [truncateSample, rposition_last h, take_append]

theorem truncateSample_none {buf : List UInt8} (h : newline ∉ buf) (hitLimit : Bool) :
    truncateSample buf hitLimit = buf := by
  simp [truncateSample, rposition_none h]

end Truncation

theorem fillSample_eq (chunks : List (List UInt8)) {buf : List UInt8} (h : buf.length < maxSchemaSample) :
    fillSample (chunks.map .ok) buf = .ok (buf ++ (chunksRead buf.length chunks).flatten,
        decide (maxSchemaSample ≤ buf.length + (chunksRead buf.length chunks).flatten.length)) := by
  induction chunks generalizing buf with
  | nil => simp [fillSample, chunksRead, h]
  | cons chunk rest ih =>
    by_cases hLimit : maxSchemaSample ≤ buf.length + chunk.length
    · simp [fillSample, chunksRead, hLimit]
    · have hRest := ih (by rw [length_append]; omega : (buf ++ chunk).length < maxSchemaSample)
      rw [length_append] at hRest
      simp [fillSample, chunksRead, hLimit, hRest, Nat.add_assoc]

theorem chunksRead_initial (size : Nat) (chunks : List (List UInt8)) : chunksRead size chunks <+: chunks := by
  induction chunks generalizing size with
  | nil => exact prefix_refl []
  | cons chunk rest ih =>
    rw [chunksRead]
    split
    · exact ⟨rest, rfl⟩
    · exact prefix_cons_inj chunk |>.mpr (ih _)

variable {chunks : List (List UInt8)}

/-- A loop that the limit did not end has read everything. -/
theorem chunksRead_short {size : Nat} (h : size + (chunksRead size chunks).flatten.length < maxSchemaSample) :
    chunksRead size chunks = chunks := by
  induction chunks generalizing size with
  | nil => rfl
  | cons chunk rest ih =>
    rw [chunksRead] at h ⊢
    split at h
    · simp at h
      omega
    · rename_i hLimit
      rw [if_neg hLimit]
      simp only [flatten_cons, length_append] at h
      rw [ih (by omega)]

theorem readSample_eq (chunks : List (List UInt8)) :
    readSample (.ok (chunks.map .ok)) = .ok (truncateSample (chunksRead 0 chunks).flatten
      (decide (maxSchemaSample ≤ (chunksRead 0 chunks).flatten.length))) := by
  have hFill := fillSample_eq chunks (by decide : ([] : List UInt8).length < maxSchemaSample)
  simp only [nil_append, length_nil, Nat.zero_add] at hFill
  simp only [readSample, mapErr, bind, Except.bind, hFill]
  rfl

theorem flatten_chunksRead (chunks : List (List UInt8)) : (chunksRead 0 chunks).flatten <+: chunks.flatten := by
  obtain ⟨rest, hRest⟩ := chunksRead_initial 0 chunks
  exact ⟨rest.flatten, by rw [← flatten_append, hRest]⟩

/-- What was read is the sample, unless it is cut. -/
theorem wholeLines_read
    (h : (chunksRead 0 chunks).flatten = chunks.flatten ∨ ∃ lines, (chunksRead 0 chunks).flatten = lines ++ [newline]) :
    WholeLines chunks (chunksRead 0 chunks).flatten :=
  ⟨flatten_chunksRead chunks, h, id⟩

/-- A cut sample consists of whole lines just when the bytes that were cut off
are not the last of the file. -/
theorem wholeLines_cut {lines rest : List UInt8} (hRead : (chunksRead 0 chunks).flatten = lines ++ newline :: rest)
    (hRest : newline ∉ rest) :
    WholeLines chunks (lines ++ [newline]) ↔
      (chunksRead 0 chunks).flatten ≠ chunks.flatten ∨ ∃ before, (chunksRead 0 chunks).flatten = before ++ [newline] := by
  have hCut : (chunksRead 0 chunks).flatten = (lines ++ [newline]) ++ rest := by simp [hRead]
  constructor
  · intro hWhole
    by_cases hAll : (chunksRead 0 chunks).flatten = chunks.flatten
    · exact .inr ⟨lines, by rw [hAll, ← hWhole.everything hAll]⟩
    · exact .inl hAll
  · intro h
    have hInitial : lines ++ [newline] <+: chunks.flatten :=
      List.IsPrefix.trans ⟨rest, hCut.symm⟩ (flatten_chunksRead chunks)
    refine ⟨hInitial, .inr ⟨lines, rfl⟩, fun hAll => ?_⟩
    rcases h with hMore | ⟨before, hBefore⟩
    · exact absurd hAll hMore
    · -- the last byte read is a newline, so nothing came after the last newline
      have hLast : ((lines ++ [newline]) ++ rest).getLast? = some newline := by
        rw [← hCut, hBefore, getLast?_concat]
      have hNil : rest = [] := by
        by_contra hSome
        rw [getLast?_append_of_ne_nil _ hSome] at hLast
        exact hRest (mem_of_getLast? hLast)
      rw [← hAll, hCut, hNil, append_nil]

/-- The sample of a file in chunks. -/
theorem readSample_wholeLines_iff (chunks : List (List UInt8)) :
    (∃ sample, readSample (.ok (chunks.map .ok)) = .ok sample ∧ WholeLines chunks sample) ↔ Sampled chunks := by
  have hExists : (∃ sample, readSample (.ok (chunks.map .ok)) = .ok sample ∧ WholeLines chunks sample) ↔
      WholeLines chunks (truncateSample (chunksRead 0 chunks).flatten
        (decide (maxSchemaSample ≤ (chunksRead 0 chunks).flatten.length))) := by
    simp [readSample_eq]
  rw [hExists, Sampled]
  by_cases hShort : (chunksRead 0 chunks).flatten.length < maxSchemaSample
  · have hAll : chunksRead 0 chunks = chunks := chunksRead_short (by omega)
    have hLimit : decide (maxSchemaSample ≤ (chunksRead 0 chunks).flatten.length) = false := by simpa using hShort
    rw [hLimit]
    exact iff_of_true (wholeLines_read (.inl (by rw [hAll]))) (.inl hShort)
  · have hLimit : decide (maxSchemaSample ≤ (chunksRead 0 chunks).flatten.length) = true := by simpa using hShort
    rw [hLimit]
    by_cases hNewline : newline ∈ (chunksRead 0 chunks).flatten
    · obtain ⟨lines, rest, hRead, hRest⟩ := exists_last_newline hNewline
      have hSample : truncateSample (chunksRead 0 chunks).flatten true = lines ++ [newline] := by
        rw [hRead, truncateSample_lines hRest]
      rw [hSample, wholeLines_cut hRead hRest]
      tauto
    · rw [truncateSample_none hNewline]
      have hEnd : ¬∃ lines, (chunksRead 0 chunks).flatten = lines ++ [newline] := by
        rintro ⟨lines, hLines⟩
        exact hNewline (by simp [hLines])
      have hWhole : WholeLines chunks (chunksRead 0 chunks).flatten ↔ (chunksRead 0 chunks).flatten = chunks.flatten :=
        ⟨fun h => h.complete.resolve_right hEnd, fun hAll => wholeLines_read (.inl hAll)⟩
      rw [hWhole]
      tauto

theorem chunksRead_single {chunk : List UInt8} (h : maxSchemaSample ≤ chunk.length) :
    (chunksRead 0 [chunk]).flatten = chunk := by
  rw [chunksRead, if_pos (by omega), flatten_singleton]

/-- A file that reaches the limit with its last byte loses a last line without
newline, although every byte was read. -/
theorem readSample_cuts_whole_file : readSample (.ok ([newline :: List.replicate 1048575 97].map .ok)) = .ok [newline] ∧
      ¬WholeLines [newline :: List.replicate 1048575 97] [newline] := by
  have hLength : (newline :: replicate 1048575 (97 : UInt8)).length = maxSchemaSample := by
    rw [length_cons, length_replicate]
    rfl
  have hText : newline ∉ replicate 1048575 (97 : UInt8) :=
    fun hNewline => absurd (eq_of_mem_replicate hNewline) (by decide)
  generalize replicate 1048575 (97 : UInt8) = text at hLength hText ⊢
  have hRead := chunksRead_single hLength.ge
  constructor
  · rw [readSample_eq, hRead, decide_eq_true hLength.ge]
    exact congrArg Except.ok (@truncateSample_lines [] text hText)
  · intro hWhole
    have hAll := hWhole.everything (by rw [hRead, flatten_singleton])
    rw [flatten_singleton] at hAll
    rw [← hAll] at hLength
    exact absurd hLength (by decide)

end DataConnectHub.FormatReaders
