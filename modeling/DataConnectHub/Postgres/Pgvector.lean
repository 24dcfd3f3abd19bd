import DataConnectHub.Octets.BigEndian

/-! Binary values of the `vector`, `halfvec` and `sparsevec` columns of the
pgvector extension. The counts in the headers come from the server, so every
read has to be shown to stay inside the value. -/
namespace DataConnectHub.Postgres

open Octets List Option

/-- Floats as functions of their bit patterns. -/
structure FloatLibrary (F32 : Type) where
  fromBits : UInt32 → F32
  halfToF32 : UInt16 → F32
  display : F32 → String

section Reads

variable (bytes : List UInt8) (offset : Nat)

-- An index outside of the bytes panics; the reads have no value then.
def readBeU16 : Option UInt16 :=
  (window bytes offset 2).map fun read => UInt16.ofNat (ofBytes read)

def readBeU32 : Option UInt32 :=
  (window bytes offset 4).map fun read => UInt32.ofNat (ofBytes read)

def readBeI32 : Option Int32 :=
  (readBeU32 bytes offset).map UInt32.toInt32

end Reads

def checkLen (typeName : String) (bytes : List UInt8) (expected : Nat) : Except String Unit :=
  if bytes.length ≠ expected then
    .error s!"invalid {typeName} binary value: expected {expected} bytes, got {bytes.length}"
  else .ok ()

/-- What follows a check; the reads after it have no value where they panic. -/
def whenOk {Value : Type} (check : Except String Unit) (rest : Option Value) : Option (Except String Value) :=
  match check with
  | .error message => some (.error message)
  | .ok () => rest.map .ok

/-- A count, two unused bytes and the components one after the other. -/
def decodeDense {F32 : Type} (typeName : String) (width : Nat) (component : List UInt8 → Nat → Option F32)
    (bytes : List UInt8) : Option (Except String (List F32)) :=
  if bytes.length < 4 then some (.error s!"invalid {typeName} binary value: {bytes.length} bytes")
  else do
    let dim ← readBeU16 bytes 0
    whenOk (checkLen typeName bytes (4 + dim.toNat * width))
      ((List.range dim.toNat).mapM fun i => component bytes (4 + i * width))

section Decoders

variable {F32 : Type} (library : FloatLibrary F32)

def decodeVector : List UInt8 → Option (Except String (List F32)) :=
  decodeDense "vector" 4 fun bytes offset => (readBeU32 bytes offset).map library.fromBits

def decodeHalfvec : List UInt8 → Option (Except String (List F32)) :=
  decodeDense "halfvec" 2 fun bytes offset => (readBeU16 bytes offset).map library.halfToF32

/-- An element in text; the indices of the text begin at one. -/
def sparseElement (index : Int32) (value : UInt32) : String :=
  s!"{index.toInt + 1}:" ++ library.display (library.fromBits value)

def sparseText (dim : Int32) (elements : List String) : String :=
  "\x7b" ++ ",".intercalate elements ++ "\x7d/" ++ toString dim.toInt

def readSparseElement (bytes : List UInt8) (nnz i : Nat) : Option String := do
  let index ← readBeI32 bytes (12 + i * 4)
  let value ← readBeU32 bytes (12 + nnz * 4 + i * 4)
  return sparseElement library index value

def decodeSparsevec (bytes : List UInt8) : Option (Except String String) :=
  if bytes.length < 12 then some (.error s!"invalid sparsevec binary value: {bytes.length} bytes")
  else do
    let dim ← readBeI32 bytes 0
    let count ← readBeI32 bytes 4
    if count.toInt < 0 then some (.error "invalid sparsevec nnz")
    else
      let nnz := count.toInt.toNat
      whenOk (checkLen "sparsevec" bytes (12 + nnz * 8))
        (((List.range nnz).mapM (readSparseElement library bytes nnz)).map (sparseText dim))

end Decoders

section Encoding

def writeU16 (value : UInt16) : List UInt8 :=
  toBytes 2 value.toNat

def writeU32 (value : UInt32) : List UInt8 :=
  toBytes 4 value.toNat

/-- The binary form of a dense vector with components of either width. -/
def encodeDense {Component : Type} (write : Component → List UInt8) (unused : UInt16)
    (components : List Component) : List UInt8 :=
  toBytes 2 components.length ++ writeU16 unused ++ components.flatMap write

def encodeSparsevec (dim : Int32) (unused : UInt32) (entries : List (Int32 × UInt32)) : List UInt8 :=
  writeU32 dim.toUInt32 ++ toBytes 4 entries.length ++ writeU32 unused ++
    entries.flatMap (fun entry => writeU32 entry.1.toUInt32) ++ entries.flatMap (fun entry => writeU32 entry.2)

theorem length_writeU16 (value : UInt16) : (writeU16 value).length = 2 := length_toBytes 2 value.toNat

theorem length_writeU32 (value : UInt32) : (writeU32 value).length = 4 := length_toBytes 4 value.toNat

theorem ofBytes_writeU16 (value : UInt16) : UInt16.ofNat (ofBytes (writeU16 value)) = value := by
  rw [writeU16, ofBytes_toBytes value.toNat_lt, UInt16.ofNat_toNat]

theorem ofBytes_writeU32 (value : UInt32) : UInt32.ofNat (ofBytes (writeU32 value)) = value := by
  rw [writeU32, ofBytes_toBytes value.toNat_lt, UInt32.ofNat_toNat]

end Encoding

section Bounds

variable {bytes : List UInt8} {offset : Nat}

theorem readBeU16_eq (h : offset + 2 ≤ bytes.length) :
    readBeU16 bytes offset = some (UInt16.ofNat (ofBytes ((bytes.drop offset).take 2))) := by
  rw [readBeU16, window_eq h, map_some]

theorem readBeU32_eq (h : offset + 4 ≤ bytes.length) :
    readBeU32 bytes offset = some (UInt32.ofNat (ofBytes ((bytes.drop offset).take 4))) := by
  rw [readBeU32, window_eq h, map_some]

theorem readBeI32_eq (h : offset + 4 ≤ bytes.length) :
    readBeI32 bytes offset = some (UInt32.ofNat (ofBytes ((bytes.drop offset).take 4))).toInt32 := by
  rw [readBeI32, readBeU32_eq h, map_some]

end Bounds

/-- The length that the header of a dense vector asks for. -/
def denseLength (width : Nat) (bytes : List UInt8) : Option Nat :=
  if bytes.length < 4 then none else some (4 + ofBytes (bytes.take 2) * width)

/-- The length that the header of a sparse vector asks for; a negative count
asks for none. -/
def sparseLength (bytes : List UInt8) : Option Nat :=
  let nnz := ofBytes ((bytes.drop 4).take 4)
  if bytes.length < 12 ∨ 2 ^ 31 ≤ nnz then none else some (12 + nnz * 8)

/-- No read leaves the bytes, and a value is accepted if and only if it has the
length that its header asks for. -/
structure Guarded {Value : Type} (decode : List UInt8 → Option (Except String Value))
    (wanted : List UInt8 → Option Nat) : Prop where
  inBounds : ∀ bytes, ∃ result, decode bytes = some result
  accepts : ∀ bytes, (∃ value, decode bytes = some (.ok value)) ↔ wanted bytes = some bytes.length

/-- A decoder's two ends, as they follow from the length of the value. -/
def Ends {Value : Type} (result : Option (Except String Value)) (accepted : Prop) : Prop :=
  (accepted ∧ ∃ value, result = some (.ok value)) ∨ (¬accepted ∧ ∃ message, result = some (.error message))

theorem guarded_of_ends {Value : Type} {decode : List UInt8 → Option (Except String Value)} {wanted : List UInt8 → Option Nat}
    (h : ∀ bytes, Ends (decode bytes) (wanted bytes = some bytes.length)) : Guarded decode wanted := by
  refine ⟨fun bytes => ?_, fun bytes => ?_⟩
  · rcases h bytes with ⟨-, value, hResult⟩ | ⟨-, message, hResult⟩
    · exact ⟨_, hResult⟩
    · exact ⟨_, hResult⟩
  · rcases h bytes with ⟨hLength, hAccepted⟩ | ⟨hLength, message, hResult⟩
    · simp [hLength, hAccepted]
    · simp [hLength, hResult]

section Dense

variable {F32 : Type} {width : Nat} {component : List UInt8 → Nat → Option F32} {bytes : List UInt8}

theorem dim_eq : (UInt16.ofNat (ofBytes (bytes.take 2))).toNat = ofBytes (bytes.take 2) := by
  have hBound := ofBytes_lt (bytes.take 2)
  have hPow : 256 ^ (bytes.take 2).length ≤ 256 ^ 2 :=
    Nat.pow_le_pow_right (by decide) (length_take_le 2 bytes)
  rw [UInt16.toNat_ofNat']
  exact Nat.mod_eq_of_lt (by omega)

variable (typeName : String)

/-- The decoder, once the header has been read. -/
theorem decodeDense_eq (hHeader : 4 ≤ bytes.length) : decodeDense typeName width component bytes =
      whenOk (checkLen typeName bytes (4 + ofBytes (bytes.take 2) * width))
        ((List.range (ofBytes (bytes.take 2))).mapM fun i => component bytes (4 + i * width)) := by
  have hRead : readBeU16 bytes 0 = _ := readBeU16_eq (by omega)
  rw [decodeDense, if_neg (by omega), hRead]
  simp only [drop_zero, bind_eq_bind, bind_some, dim_eq]

/-- Every component lies inside a value of the length that the header asks for. -/
theorem ends_decodeDense (bytes : List UInt8)
    (hComponent : ∀ offset, offset + width ≤ bytes.length → ∃ value, component bytes offset = some value) :
    Ends (decodeDense typeName width component bytes) (denseLength width bytes = some bytes.length) := by
  by_cases hShort : bytes.length < 4
  · exact .inr ⟨by simp [denseLength, hShort], _, by rw [decodeDense, if_pos hShort]⟩
  · rw [decodeDense_eq typeName (by omega), denseLength, if_neg hShort, some.injEq]
    by_cases hLength : 4 + ofBytes (bytes.take 2) * width = bytes.length
    · have hRead : ∀ i < ofBytes (bytes.take 2), ∃ value, component bytes (4 + i * width) = some value := by
        intro i hIndex
        have hEnd : (i + 1) * width ≤ ofBytes (bytes.take 2) * width := Nat.mul_le_mul_right width hIndex
        rw [Nat.succ_mul] at hEnd
        exact hComponent _ (by omega)
      obtain ⟨components, hComponents⟩ := mapM_range_some hRead
      exact .inl ⟨hLength, components, by simp [checkLen, whenOk, hLength, hComponents]⟩
    · exact .inr ⟨hLength, _, by rw [checkLen, if_pos (Ne.symm hLength), whenOk]⟩

theorem decodeDense_encodeDense {Component : Type} {write : Component → List UInt8} {value : Component → F32}
    (hWidth : ∀ item, (write item).length = width)
    (hRead : ∀ bytes offset item, window bytes offset width = some (write item) →
      component bytes offset = some (value item)) (unused : UInt16) {components : List Component}
    (hCount : components.length < 2 ^ 16) :
    decodeDense typeName width component (encodeDense write unused components) = some (.ok (components.map value)) := by
  have hHeader : (toBytes 2 components.length ++ writeU16 unused).length = 4 := by
    simp [length_writeU16]
  have hLength : (encodeDense write unused components).length = 4 + components.length * width := by
    rw [encodeDense, length_append, hHeader, length_flatMap hWidth]
  have hDim : ofBytes ((encodeDense write unused components).take 2) = components.length := by
    rw [encodeDense, append_assoc, take_left' (length_toBytes 2 _), ofBytes_toBytes hCount]
  have hComponents : (range components.length).mapM
      (fun i => component (encodeDense write unused components) (4 + i * width)) = some (components.map value) := by
    rw [← length_map value]
    apply mapM_range_list
    intro index hIndex
    rw [length_map] at hIndex
    rw [getElem_map]
    apply hRead
    have hWindow := window_item hWidth (toBytes 2 components.length ++ writeU16 unused) [] hIndex
    rwa [hHeader, append_nil] at hWindow
  rw [decodeDense_eq typeName (by omega), hDim, hComponents, checkLen, if_neg (by omega), whenOk, map_some]

end Dense

section Decoders

variable {F32 : Type} (library : FloatLibrary F32)

theorem guarded_decodeVector : Guarded (decodeVector library) (denseLength 4) := by
  refine guarded_of_ends fun bytes => ends_decodeDense "vector" bytes fun offset hOffset => ?_
  exact ⟨_, by rw [readBeU32_eq hOffset, map_some]⟩

theorem guarded_decodeHalfvec : Guarded (decodeHalfvec library) (denseLength 2) := by
  refine guarded_of_ends fun bytes => ends_decodeDense "halfvec" bytes fun offset hOffset => ?_
  exact ⟨_, by rw [readBeU16_eq hOffset, map_some]⟩

theorem decodeVector_encode (unused : UInt16) {components : List UInt32} (hCount : components.length < 2 ^ 16) :
    decodeVector library (encodeDense writeU32 unused components) = some (.ok (components.map library.fromBits)) := by
  refine decodeDense_encodeDense "vector" length_writeU32 (fun bytes offset item hWindow => ?_) unused hCount
  rw [readBeU32, hWindow, map_some, map_some, ofBytes_writeU32]

theorem decodeHalfvec_encode (unused : UInt16) {components : List UInt16} (hCount : components.length < 2 ^ 16) :
    decodeHalfvec library (encodeDense writeU16 unused components) = some (.ok (components.map library.halfToF32)) := by
  refine decodeDense_encodeDense "halfvec" length_writeU16 (fun bytes offset item hWindow => ?_) unused hCount
  rw [readBeU16, hWindow, map_some, map_some, ofBytes_writeU16]

/-- The sign of a count is the first bit of its number. -/
theorem toInt_ofNat {value : Nat} (h : value < 2 ^ 32) :
    (UInt32.ofNat value).toInt32.toInt = if value < 2 ^ 31 then (value : Int) else value - 2 ^ 32 := by
  have hBits : (UInt32.ofNat value).toInt32.toInt = (BitVec.ofNat 32 value).toInt := rfl
  rw [hBits, BitVec.toInt_eq_toNat_cond, BitVec.toNat_ofNat, Nat.mod_eq_of_lt h]
  split <;> split <;> omega

variable {bytes : List UInt8} {entries : List (Int32 × UInt32)}

/-- The decoder, once the header of a sparse vector has been read. -/
theorem decodeSparsevec_eq {nnz : Nat} (hHeader : 12 ≤ bytes.length) (hNnz : ofBytes ((bytes.drop 4).take 4) = nnz)
    (hCount : nnz < 2 ^ 31) :
    decodeSparsevec library bytes = whenOk (checkLen "sparsevec" bytes (12 + nnz * 8))
        (((List.range nnz).mapM (readSparseElement library bytes nnz)).map
          (sparseText (UInt32.ofNat (ofBytes (bytes.take 4))).toInt32)) := by
  have hDim : readBeI32 bytes 0 = _ := readBeI32_eq (by omega)
  have hRead : readBeI32 bytes 4 = _ := readBeI32_eq (by omega)
  have hInt := toInt_ofNat (by omega : nnz < 2 ^ 32)
  rw [if_pos hCount] at hInt
  rw [decodeSparsevec, if_neg (by omega), hDim, hRead]
  simp only [bind_eq_bind, bind_some, hNnz, hInt, drop_zero, Int.toNat_natCast]
  rw [if_neg (by omega)]

theorem decodeSparsevec_negative (hHeader : 12 ≤ bytes.length) (hCount : 2 ^ 31 ≤ ofBytes ((bytes.drop 4).take 4)) :
    decodeSparsevec library bytes = some (.error "invalid sparsevec nnz") := by
  have hDim : readBeI32 bytes 0 = _ := readBeI32_eq (by omega)
  have hRead : readBeI32 bytes 4 = _ := readBeI32_eq (by omega)
  have hBound : ofBytes ((bytes.drop 4).take 4) < 2 ^ 32 := by
    have hBytes := ofBytes_lt ((bytes.drop 4).take 4)
    have hPow : 256 ^ ((bytes.drop 4).take 4).length ≤ 256 ^ 4 :=
      Nat.pow_le_pow_right (by decide) (length_take_le 4 _)
    omega
  have hInt := toInt_ofNat hBound
  rw [if_neg (by omega)] at hInt
  rw [decodeSparsevec, if_neg (by omega), hDim, hRead]
  simp only [bind_eq_bind, bind_some, hInt]
  rw [if_pos (by omega)]

/-- Indices and values both lie inside a value of the length that its header
asks for, since the values begin where the indices end. -/
theorem guarded_decodeSparsevec : Guarded (decodeSparsevec library) sparseLength := by
  refine guarded_of_ends fun bytes => ?_
  have hNone (hMisshapen : bytes.length < 12 ∨ 2 ^ 31 ≤ ofBytes ((bytes.drop 4).take 4)) :
      ¬sparseLength bytes = some bytes.length := by
    rw [sparseLength, if_pos hMisshapen]
    simp
  by_cases hShort : bytes.length < 12
  · exact .inr ⟨hNone (.inl hShort), _, by rw [decodeSparsevec, if_pos hShort]⟩
  by_cases hNegative : 2 ^ 31 ≤ ofBytes ((bytes.drop 4).take 4)
  · exact .inr ⟨hNone (.inr hNegative), _, decodeSparsevec_negative library (by omega) hNegative⟩
  obtain ⟨nnz, hNnz⟩ : ∃ nnz, ofBytes ((bytes.drop 4).take 4) = nnz := ⟨_, rfl⟩
  have hWanted : sparseLength bytes = some (12 + nnz * 8) := by
    simp only [sparseLength, hNnz]
    rw [if_neg (by omega)]
  rw [decodeSparsevec_eq library (by omega) hNnz (by omega), hWanted, some.injEq]
  by_cases hLength : 12 + nnz * 8 = bytes.length
  · have hRead : ∀ i < nnz, ∃ element, readSparseElement library bytes nnz i = some element := by
      intro i hIndex
      have hFirst : readBeI32 bytes (12 + i * 4) = _ := readBeI32_eq (by omega)
      have hSecond : readBeU32 bytes (12 + nnz * 4 + i * 4) = _ := readBeU32_eq (by omega)
      exact ⟨_, by rw [readSparseElement, hFirst, hSecond]; rfl⟩
    obtain ⟨elements, hElements⟩ := mapM_range_some hRead
    exact .inl ⟨hLength, _, by rw [checkLen, if_neg (by omega), whenOk, hElements]; rfl⟩
  · exact .inr ⟨hLength, _, by rw [checkLen, if_pos (Ne.symm hLength), whenOk]⟩

theorem readSparseElement_encode (dim : Int32) (unused : UInt32) {i : Nat} (hIndex : i < entries.length) :
    readSparseElement library (encodeSparsevec dim unused entries) entries.length i =
      some (sparseElement library entries[i].1 entries[i].2) := by
  have hWidth : ∀ entry : Int32 × UInt32, (writeU32 entry.1.toUInt32).length = 4 :=
    fun entry => length_writeU32 _
  have hWidth' : ∀ entry : Int32 × UInt32, (writeU32 entry.2).length = 4 := fun entry => length_writeU32 _
  have hHeader : (writeU32 dim.toUInt32 ++ toBytes 4 entries.length ++ writeU32 unused).length = 12 := by
    simp [length_writeU32]
  have hFirst := window_item hWidth (writeU32 dim.toUInt32 ++ toBytes 4 entries.length ++ writeU32 unused)
    (entries.flatMap fun entry => writeU32 entry.2) hIndex
  have hSecond := window_item hWidth' (writeU32 dim.toUInt32 ++ toBytes 4 entries.length ++ writeU32 unused ++
    entries.flatMap fun entry => writeU32 entry.1.toUInt32) [] hIndex
  rw [hHeader, ← append_assoc] at hFirst
  rw [length_append, hHeader, length_flatMap hWidth, append_nil] at hSecond
  rw [readSparseElement, readBeI32, readBeU32, readBeU32, encodeSparsevec, hFirst, hSecond]
  simp only [map_some, ofBytes_writeU32, Int32.toInt32_toUInt32, bind_eq_bind, bind_some]
  rfl

theorem decodeSparsevec_encode (dim : Int32) (unused : UInt32) (hCount : entries.length < 2 ^ 31) :
    decodeSparsevec library (encodeSparsevec dim unused entries) =
      some (.ok (sparseText dim (entries.map fun entry => sparseElement library entry.1 entry.2))) := by
  have hLength : (encodeSparsevec dim unused entries).length = 12 + entries.length * 8 := by
    simp only [encodeSparsevec, length_append, length_writeU32, length_toBytes]
    rw [length_flatMap (fun entry : Int32 × UInt32 => length_writeU32 entry.1.toUInt32),
      length_flatMap (fun entry : Int32 × UInt32 => length_writeU32 entry.2)]
    omega
  have hDim : ofBytes ((encodeSparsevec dim unused entries).take 4) = dim.toUInt32.toNat := by
    simp only [encodeSparsevec, append_assoc]
    rw [take_left' (length_writeU32 _), writeU32, ofBytes_toBytes (UInt32.toNat_lt _)]
  have hNnz : ofBytes (((encodeSparsevec dim unused entries).drop 4).take 4) = entries.length := by
    simp only [encodeSparsevec, append_assoc]
    rw [drop_left' (length_writeU32 _), take_left' (length_toBytes 4 _), ofBytes_toBytes (by omega)]
  have hElements : (range entries.length).mapM
      (readSparseElement library (encodeSparsevec dim unused entries) entries.length) =
        some (entries.map fun entry => sparseElement library entry.1 entry.2) := by
    rw [← length_map fun entry : Int32 × UInt32 => sparseElement library entry.1 entry.2]
    apply mapM_range_list
    intro index hIndex
    rw [length_map] at hIndex ⊢
    rw [getElem_map, readSparseElement_encode library dim unused hIndex]
  rw [decodeSparsevec_eq library (by omega) hNnz hCount, hElements, checkLen, if_neg (by omega), whenOk, hDim,
    UInt32.ofNat_toNat]
  rfl

/-- Reads stay inside every byte string, the lengths are those of the headers,
and each of the three binary forms is decoded to what it was written from. -/
theorem pgvector_decodes_exactly :
    (Guarded (decodeVector library) (denseLength 4) ∧ Guarded (decodeHalfvec library) (denseLength 2) ∧
      Guarded (decodeSparsevec library) sparseLength) ∧
    (∀ (unused : UInt16) (components : List UInt32), components.length < 2 ^ 16 →
      decodeVector library (encodeDense writeU32 unused components) = some (.ok (components.map library.fromBits))) ∧
    (∀ (unused : UInt16) (components : List UInt16), components.length < 2 ^ 16 →
      decodeHalfvec library (encodeDense writeU16 unused components) = some (.ok (components.map library.halfToF32))) ∧
    (∀ (dim : Int32) (unused : UInt32) (entries : List (Int32 × UInt32)), entries.length < 2 ^ 31 →
      decodeSparsevec library (encodeSparsevec dim unused entries) =
        some (.ok ("\x7b" ++ ",".intercalate (entries.map fun entry =>
          s!"{entry.1.toInt + 1}:" ++ library.display (library.fromBits entry.2)) ++
            "\x7d/" ++ toString dim.toInt))) := by
  refine ⟨⟨guarded_decodeVector library, guarded_decodeHalfvec library, guarded_decodeSparsevec library⟩, ?_, ?_, ?_⟩
  · intro unused components hCount
    exact decodeVector_encode library unused hCount
  · intro unused components hCount
    exact decodeHalfvec_encode library unused hCount
  · intro dim unused entries hCount
    exact decodeSparsevec_encode library dim unused hCount

end Decoders

def bitPatterns : FloatLibrary UInt32 where
  fromBits := id
  halfToF32 := UInt16.toUInt32
  display bits := toString bits.toNat

theorem pgvector_decodes_exactly_sample :
    decodeVector bitPatterns [0, 2, 0, 0, 63, 128, 0, 0, 192, 0, 0, 0] = some (.ok [1065353216, 3221225472]) ∧
      decodeSparsevec bitPatterns [0, 0, 0, 5, 0, 0, 0, 1, 0, 0, 0, 0, 0, 0, 0, 2, 63, 128, 0, 0] =
        some (.ok "\x7b3:1065353216\x7d/5") :=
  ⟨(pgvector_decodes_exactly bitPatterns).2.1 0 [1065353216, 3221225472] (by decide),
    (pgvector_decodes_exactly bitPatterns).2.2.2 5 0 [(2, 1065353216)] (by decide)⟩

end DataConnectHub.Postgres
