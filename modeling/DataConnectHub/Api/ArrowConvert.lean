import DataConnectHub.Arrow.RecordBatch
import DataConnectHub.Flight.Connectors
import DataConnectHub.RustStd.Cast
import DataConnectHub.Serde.Value

/-! Columns of JSON values turned into Arrow columns. An integer that fits its
column is kept, and one that does not is an error, but only if it is a signed
64-bit integer. Larger ones are read as no integer at all in a column of
integers, and through a float in a column of timestamps. -/
namespace DataConnectHub

open Serde Arrow Binary RustStd Flight List

/-- What the code asks a parsed date for. -/
structure DateTime where
  timestamp : Int64
  timestampMillis : Int64
  timestampMicros : Int64
  timestampNanosOpt : Option Int64
  display : String

/-- The parser of dates, the text of a float and the text of a column type. -/
structure ConvertLibrary where
  stringToDatetime : String → Except String DateTime
  displayFloat : Number → String
  displayType : DataType → String

section Conversions

variable (library : ConvertLibrary) (fieldName : String)

def checkedInt {T : Type} (tryFrom : Int64 → Option T) (typeName : String) (value : Option Json) :
    Except ConnectorError (Option T) :=
  match value.bind Json.asI64 with
  | some n =>
    match tryFrom n with
    | some converted => .ok (some converted)
    | none => .error (.sqlError s!"field '{fieldName}': value {n} overflows {typeName}")
  | none => .ok none

def checkedIntArray {T : Type} (tryFrom : Int64 → Option T) (typeName : String)
    (values : List (Option Json)) : Except ConnectorError (List (Option T)) :=
  values.mapM (checkedInt fieldName tryFrom typeName)

/-- A date in a unit; nanoseconds may not fit. -/
def timestampIn (dt : DateTime) : TimeUnit → Except ConnectorError Int64
  | .second => .ok dt.timestamp
  | .millisecond => .ok dt.timestampMillis
  | .microsecond => .ok dt.timestampMicros
  | .nanosecond =>
    okOr (.sqlError s!"field '{fieldName}': {dt.display} overflows nanosecond timestamps") dt.timestampNanosOpt

def checkedTimestamp (unit : TimeUnit) : Option Json → Except ConnectorError (Option Int64)
  | none | some .null => .ok none
  | some (.number n) =>
    let text := n.display library.displayFloat
    okOr (.sqlError s!"field '{fieldName}': cannot parse {text} as epoch timestamp")
      ((n.asI64.or (n.asF64.map castI64)).map some)
  | some (.string s) => do
      let dt ← mapErr (fun e => .sqlError s!"field '{fieldName}': {e}") (library.stringToDatetime s)
      (timestampIn fieldName dt unit).map some
  | some other =>
    let text := other.display library.displayFloat
    .error (.sqlError s!"field '{fieldName}': cannot parse {text} as Timestamp")

def checkedTimestampValues (unit : TimeUnit) (values : List (Option Json)) :
    Except ConnectorError (List (Option Int64)) :=
  values.mapM (checkedTimestamp library fieldName unit)

/-- The zone of the schema on an array that was made without one. -/
def withSchemaTimezone (unit : TimeUnit) (values : List (Option Int64)) : Option String → ArrayRef
  | some tz => .timestamp unit (some tz) values
  | none => .timestamp unit none values

def utf8Value : Json → Option String
  | .null => none
  | .string s => some s
  | other => some (other.display library.displayFloat)

def jsonValuesToArray (dataType : DataType) (values : List (Option Json)) : Except ConnectorError ArrayRef :=
  match dataType with
  | .boolean => .ok (.boolean (values.map fun v => v.bind Json.asBool))
  | .int8 => (checkedIntArray fieldName tryI8 "Int8" values).map .int8
  | .int16 => (checkedIntArray fieldName tryI16 "Int16" values).map .int16
  | .int32 => (checkedIntArray fieldName tryI32 "Int32" values).map .int32
  | .int64 => .ok (.int64 (values.map fun v => v.bind Json.asI64))
  | .float32 => .ok (.float32 (values.map fun v => (v.bind Json.asF64).map castF32))
  | .float64 => .ok (.float64 (values.map fun v => v.bind Json.asF64))
  | .timestamp unit tz => (checkedTimestampValues library fieldName unit values).map fun epochValues =>
    withSchemaTimezone unit epochValues tz
  | .utf8 | .other _ => .ok (.utf8 (values.map fun v => v.bind (utf8Value library)))

end Conversions

section Columns

variable {library : ConvertLibrary} {fieldName : String} {dataType : DataType} {values : List (Option Json)}

/-- The types that columns of JSON values are made of. -/
def Convertible : DataType → Prop
  | .other _ => False
  | _ => True

/-- The types of fewer than 64 bits, with the name in the error and the bits
beside the sign. -/
def narrowTypes : List (DataType × String × Nat) :=
  [(.int8, "Int8", 7), (.int16, "Int16", 15), (.int32, "Int32", 31)]

/-- Why some value of a column cannot be converted: an integer that is too
large, or no timestamp. -/
inductive ColumnError (library : ConvertLibrary) (fieldName : String) (values : List (Option Json)) :
    DataType → ConnectorError → Prop where
  | overflow {dataType : DataType} {typeName : String} {bits : Nat} {value : Option Json} {n : Int64}
      (hType : (dataType, typeName, bits) ∈ narrowTypes) (hValue : value ∈ values)
      (hInt : value.bind Json.asI64 = some n) (hOut : ¬(-2 ^ bits ≤ n.toInt ∧ n.toInt < 2 ^ bits)) :
      ColumnError library fieldName values dataType (.sqlError s!"field '{fieldName}': value {n} overflows {typeName}")
  | unparsed {unit : TimeUnit} {tz : Option String} {s reason : String} (hValue : some (.string s) ∈ values)
      (hParse : library.stringToDatetime s = .error reason) :
      ColumnError library fieldName values (.timestamp unit tz) (.sqlError s!"field '{fieldName}': {reason}")
  | nanoseconds {tz : Option String} {s : String} {dt : DateTime} (hValue : some (.string s) ∈ values)
      (hParse : library.stringToDatetime s = .ok dt) (hNone : dt.timestampNanosOpt = none) :
      ColumnError library fieldName values (.timestamp .nanosecond tz)
        (.sqlError s!"field '{fieldName}': {dt.display} overflows nanosecond timestamps")
  | noTimestamp {unit : TimeUnit} {tz : Option String} {value : Json} {text : String} (hValue : some value ∈ values)
      (hText : text = value.display library.displayFloat) :
      ColumnError library fieldName values (.timestamp unit tz)
        (.sqlError s!"field '{fieldName}': cannot parse {text} as Timestamp")

variable {array : ArrayRef}

/-- A column has the type that was asked for, and a place for each value. -/
theorem fits_of_jsonValuesToArray (hType : Convertible dataType)
    (h : jsonValuesToArray library fieldName dataType values = .ok array) :
    array.dataType = dataType ∧ array.length = values.length := by
  have hLoop {T : Type} {step : Option Json → Except ConnectorError (Option T)} {cells : List (Option T)}
      (hCells : values.mapM step = .ok cells) : (cells.map Option.isSome).length = values.length := by
    rw [length_map, (mapM_eq_ok hCells).length_eq]
  cases dataType with
  | int8 | int16 | int32 =>
    obtain ⟨cells, hCells, rfl⟩ := map_eq_ok.mp h
    exact ⟨rfl, hLoop hCells⟩
  | timestamp unit tz =>
    obtain ⟨cells, hCells, rfl⟩ := map_eq_ok.mp h
    cases tz <;> exact ⟨rfl, hLoop hCells⟩
  | other name => exact hType.elim
  | _ =>
    cases h
    simp [ArrayRef.dataType, ArrayRef.length, ArrayRef.validity]

theorem convertible_of_dataType (h : jsonValuesToArray library fieldName dataType values = .ok array)
    (hType : array.dataType = dataType) : Convertible dataType := by
  cases dataType with
  | other name =>
    cases h
    cases hType
  | _ => trivial

/-- A column can be converted just if each of its values can. -/
theorem exists_jsonValuesToArray_iff : (∃ array, jsonValuesToArray library fieldName dataType values = .ok array) ↔
      ∀ value ∈ values, ∃ array, jsonValuesToArray library fieldName dataType [value] = .ok array := by
  have hLoop {T : Type} {step : Option Json → Except ConnectorError (Option T)} {wrap : List (Option T) → ArrayRef} :
      (∃ array, (values.mapM step).map wrap = .ok array) ↔
        ∀ value ∈ values, ∃ array, ([value].mapM step).map wrap = .ok array := by
    have hMapped (items : List (Option Json)) : (∃ array, (items.mapM step).map wrap = .ok array) ↔
        ∀ item ∈ items, ∃ cell, step item = .ok cell := by
      rw [← exists_mapM_eq_ok_iff]
      cases items.mapM step <;> simp [Except.map]
    rw [hMapped]
    refine forall₂_congr fun value _ => ?_
    rw [hMapped]
    simp
  cases dataType with
  | int8 | int16 | int32 | timestamp => exact hLoop
  | _ => exact iff_of_true ⟨_, rfl⟩ fun _ _ => ⟨_, rfl⟩

/-- Each place of a column is the one that its value alone would have. -/
theorem validity_jsonValuesToArray (h : jsonValuesToArray library fieldName dataType values = .ok array)
    {valid : Bool} (hValid : valid ∈ array.validity) :
    ∃ value ∈ values, ∃ single, jsonValuesToArray library fieldName dataType [value] = .ok single ∧
      single.validity = [valid] := by
  have hLoop {T : Type} {step : Option Json → Except ConnectorError (Option T)} {wrap : List (Option T) → ArrayRef}
      (hWrap : ∀ cells, (wrap cells).validity = cells.map Option.isSome)
      (h : (values.mapM step).map wrap = .ok array) :
      ∃ value ∈ values, ∃ single, ([value].mapM step).map wrap = .ok single ∧ single.validity = [valid] := by
    obtain ⟨cells, hCells, rfl⟩ := map_eq_ok.mp h
    rw [hWrap] at hValid
    obtain ⟨cell, hCell, rfl⟩ := mem_map.mp hValid
    obtain ⟨value, hValue, hStep⟩ := exists_of_forall₂_right (mapM_eq_ok hCells) hCell
    exact ⟨value, hValue, wrap [cell], by rw [mapM_cons, hStep]; rfl, hWrap [cell]⟩
  cases dataType with
  | int8 | int16 | int32 => exact hLoop (fun _ => rfl) h
  | timestamp unit tz => exact hLoop (fun _ => by cases tz <;> rfl) h
  | _ =>
    cases h
    simp only [ArrayRef.validity, map_map, mem_map] at hValid
    obtain ⟨value, hValue, rfl⟩ := hValid
    exact ⟨value, hValue, _, rfl, rfl⟩

end Columns

section Integers

variable {library : ConvertLibrary} {fieldName : String} {dataType : DataType}

/-- The types that the column of an integer can have. -/
def StoresIntegers : DataType → Prop
  | .int8 | .int16 | .int32 | .int64 | .timestamp _ _ => True
  | _ => False

/-- An integer of 64 bits that is outside the range of `bits` bits. -/
def Overflows (bits : Nat) : Option Json → Prop
  | some (.number number) => number.scale = 0 ∧ -2 ^ 63 ≤ number.mantissa ∧ number.mantissa < 2 ^ 63 ∧
      ¬(-2 ^ bits ≤ number.mantissa ∧ number.mantissa < 2 ^ bits)
  | _ => False

/-- A value that is no timestamp of the unit. -/
def NoTimestamp (library : ConvertLibrary) (unit : TimeUnit) : Option Json → Prop
  | some (.string s) => ∀ dt, library.stringToDatetime s = .ok dt → unit = .nanosecond ∧ dt.timestampNanosOpt = none
  | none | some .null | some (.number _) => False
  | some _ => True

/-- A value that the conversion of a column of integers ends at. -/
def Refused (library : ConvertLibrary) : DataType → Option Json → Prop
  | .int8, value => Overflows 7 value
  | .int16, value => Overflows 15 value
  | .int32, value => Overflows 31 value
  | .timestamp unit _, value => NoTimestamp library unit value
  | _, _ => False

/-- The integer that a column of the type gets for a value. -/
def integerCell (library : ConvertLibrary) (fieldName : String) (dataType : DataType) (value : Option Json) :
    Except ConnectorError (Option Int) :=
  match dataType with
  | .int8 => (checkedInt fieldName tryI8 "Int8" value).map (·.map Int8.toInt)
  | .int16 => (checkedInt fieldName tryI16 "Int16" value).map (·.map Int16.toInt)
  | .int32 => (checkedInt fieldName tryI32 "Int32" value).map (·.map Int32.toInt)
  | .timestamp unit _ => (checkedTimestamp library fieldName unit value).map (·.map Int64.toInt)
  | _ => .ok ((value.bind Json.asI64).map Int64.toInt)

variable {T : Type} {toInt : T → Int} {bits : Nat}

theorem integers_mapM {step : Option Json → Except ConnectorError (Option T)} {wrap : List (Option T) → ArrayRef}
    (hWrap : ∀ cells, (wrap cells).integers = cells.map (·.map toInt)) (values : List (Option Json)) :
    ((values.mapM step).map wrap).map ArrayRef.integers = values.mapM fun value => (step value).map (·.map toInt) := by
  rw [mapM_map]
  cases values.mapM step with
  | error error => rfl
  | ok cells => exact congrArg Except.ok (hWrap cells)

/-- A column of integers is converted value by value. -/
theorem integers_jsonValuesToArray (library : ConvertLibrary) (fieldName : String)
    (hType : StoresIntegers dataType) (values : List (Option Json)) :
    (jsonValuesToArray library fieldName dataType values).map ArrayRef.integers =
      values.mapM (integerCell library fieldName dataType) := by
  cases dataType with
  | int8 | int16 | int32 => exact integers_mapM (fun _ => rfl) values
  | int64 =>
    refine Eq.trans ?_ (mapM_ok _ values).symm
    exact congrArg Except.ok (map_map ..)
  | timestamp unit tz => exact integers_mapM (fun _ => by cases tz <;> rfl) values
  | _ => exact hType.elim

/-- A conversion to fewer bits keeps what fits and refuses the rest. -/
def Narrows {T : Type} (bits : Nat) (tryFrom : Int64 → Option T) (toInt : T → Int) : Prop :=
  ∀ n, (tryFrom n).map toInt = if -2 ^ bits ≤ n.toInt ∧ n.toInt < 2 ^ bits then some n.toInt else none

theorem narrows_tryI8 : Narrows 7 tryI8 Int8.toInt := by
  intro n
  unfold tryI8
  split
  next h => exact congrArg some (Int8.toInt_ofInt_of_le h.1 h.2)
  · rfl

theorem narrows_tryI16 : Narrows 15 tryI16 Int16.toInt := by
  intro n
  unfold tryI16
  split
  next h => exact congrArg some (Int16.toInt_ofInt_of_le h.1 h.2)
  · rfl

theorem narrows_tryI32 : Narrows 31 tryI32 Int32.toInt := by
  intro n
  unfold tryI32
  split
  next h => exact congrArg some (Int32.toInt_ofInt_of_le h.1 h.2)
  · rfl

theorem overflows_iff {value : Option Json} :
    Overflows bits value ↔ ∃ n, value.bind Json.asI64 = some n ∧ ¬(-2 ^ bits ≤ n.toInt ∧ n.toInt < 2 ^ bits) := by
  constructor
  · intro h
    match value, h with
    | some (.number number), ⟨hScale, hLow, hHigh, hOut⟩ =>
      obtain ⟨mantissa, scale⟩ := number
      obtain rfl : scale = 0 := hScale
      refine ⟨_, Number.asI64_of_lt hLow hHigh, ?_⟩
      rwa [Int64.toInt_ofInt_of_le hLow hHigh]
  · rintro ⟨n, hn, hOut⟩
    obtain ⟨found, rfl, hFound⟩ := Option.bind_eq_some_iff.mp hn
    cases found with
    | number number =>
      obtain ⟨hScale, hSame⟩ := Number.toInt_of_asI64 hFound
      refine ⟨hScale, ?_⟩
      rw [hSame]
      exact ⟨n.le_toInt, n.toInt_lt, hOut⟩
    | _ => cases hFound

/-- What the check of one integer amounts to. -/
theorem checkedInt_cases {tryFrom : Int64 → Option T} (hNarrows : Narrows bits tryFrom toInt)
    (fieldName typeName : String) (value : Option Json) :
    (Overflows bits value ∧ ∃ error, checkedInt fieldName tryFrom typeName value = .error error) ∨
    (¬Overflows bits value ∧ (checkedInt fieldName tryFrom typeName value).map (·.map toInt) =
      .ok ((value.bind Json.asI64).map Int64.toInt)) := by
  rw [overflows_iff]
  unfold checkedInt
  cases value.bind Json.asI64 with
  | none => exact .inr ⟨nofun, rfl⟩
  | some n =>
    have hTry := hNarrows n
    by_cases hFits : -2 ^ bits ≤ n.toInt ∧ n.toInt < 2 ^ bits
    · rw [if_pos hFits] at hTry
      obtain ⟨converted, hConverted, hSame⟩ := Option.map_eq_some_iff.mp hTry
      refine .inr ⟨?_, ?_⟩
      · rintro ⟨_, ⟨⟩, hOut⟩
        exact hOut hFits
      · simp only [hConverted]
        exact congrArg (fun found => Except.ok (some found)) hSame
    · rw [if_neg hFits] at hTry
      have hNone := Option.map_eq_none_iff.mp hTry
      exact .inl ⟨⟨n, rfl, hFits⟩, by simp only [hNone, Except.error.injEq, exists_eq']⟩

theorem checkedTimestamp_number (library : ConvertLibrary) (fieldName : String) (unit : TimeUnit) (number : Number) :
    checkedTimestamp library fieldName unit (some (.number number)) =
      .ok (some (number.asI64.getD (castI64 (if number.IsInteger then binary64.round number.mantissa
        else .finite (number.mantissa / 10 ^ number.scale))))) := by
  rw [checkedTimestamp, Number.asF64]
  cases number.asI64 <;> rfl

theorem timestampIn_error_iff (fieldName : String) (dt : DateTime) (unit : TimeUnit) :
    (∃ error, timestampIn fieldName dt unit = .error error) ↔ unit = .nanosecond ∧ dt.timestampNanosOpt = none := by
  cases unit with
  | nanosecond =>
    unfold timestampIn
    cases dt.timestampNanosOpt <;> simp [okOr]
  | _ => simp [timestampIn]

theorem checkedTimestamp_error_iff (unit : TimeUnit) (value : Option Json) :
    (∃ error, checkedTimestamp library fieldName unit value = .error error) ↔ NoTimestamp library unit value := by
  match value with
  | none | some .null => simp [checkedTimestamp, NoTimestamp]
  | some (.number number) => simp [checkedTimestamp_number, NoTimestamp]
  | some (.bool _) | some (.array _) | some (.object _) => simp [checkedTimestamp, NoTimestamp]
  | some (.string s) =>
    cases hParse : library.stringToDatetime s with
    | error reason =>
      refine iff_of_true ⟨.sqlError s!"field '{fieldName}': {reason}", ?_⟩ fun dt hDate => ?_
      · rw [checkedTimestamp, hParse]
        rfl
      · cases hParse.symm.trans hDate
    | ok dt =>
      have hUnit := timestampIn_error_iff fieldName dt unit
      have hRead : checkedTimestamp library fieldName unit (some (.string s)) =
          (timestampIn fieldName dt unit).map some := by
        rw [checkedTimestamp, hParse]
        rfl
      rw [hRead]
      cases hEpoch : timestampIn fieldName dt unit <;> rw [hEpoch] at hUnit <;>
        simpa [NoTimestamp, hParse, Except.map] using hUnit

theorem integerCell_error_iff (fieldName : String) (hType : StoresIntegers dataType) (value : Option Json) :
    (∃ error, integerCell library fieldName dataType value = .error error) ↔ Refused library dataType value := by
  have hMapped {T Next : Type} (f : T → Next) (result : Except ConnectorError T) :
      (∃ error, result.map f = .error error) ↔ ∃ error, result = .error error :=
    exists_congr fun _ => map_eq_error
  have hInt {T : Type} {bits : Nat} {tryFrom : Int64 → Option T} {toInt : T → Int}
      (hNarrows : Narrows bits tryFrom toInt) (typeName : String) :
      (∃ error, (checkedInt fieldName tryFrom typeName value).map (·.map toInt) = .error error) ↔
        Overflows bits value := by
    rcases checkedInt_cases hNarrows fieldName typeName value with ⟨hOut, hError⟩ | ⟨hOut, hOk⟩
    · exact iff_of_true ((hMapped ..).mpr hError) hOut
    · rw [hOk]
      exact iff_of_false nofun hOut
  cases dataType with
  | int8 => exact hInt narrows_tryI8 "Int8"
  | int16 => exact hInt narrows_tryI16 "Int16"
  | int32 => exact hInt narrows_tryI32 "Int32"
  | int64 => exact iff_of_false nofun id
  | timestamp unit tz => exact (hMapped ..).trans (checkedTimestamp_error_iff unit value)
  | _ => exact hType.elim

/-- What a cell holds for an integer: the integer if it is a signed one, and
something else if it is not. -/
theorem integerCell_integer (hType : StoresIntegers dataType) {n : Int} (hLow : -2 ^ 63 ≤ n) (hHigh : n < 2 ^ 64)
    {cell : Option Int} (h : integerCell library fieldName dataType (some (.number ⟨n, 0⟩)) = .ok cell) :
    cell = some n ↔ n < 2 ^ 63 := by
  have hRead : (Number.asI64 ⟨n, 0⟩).map Int64.toInt = if n < 2 ^ 63 then some n else none := by
    split
    next hSigned => rw [Number.asI64_of_lt hLow hSigned, Option.map_some, Int64.toInt_ofInt_of_le hLow hSigned]
    next hUnsigned => rw [Number.asI64_of_le (not_lt.mp hUnsigned), Option.map_none]
  have hSplit : cell = (if n < 2 ^ 63 then some n else none) → (cell = some n ↔ n < 2 ^ 63) := by
    rintro rfl
    split
    next hSigned => exact iff_of_true rfl hSigned
    next hUnsigned => exact iff_of_false nofun hUnsigned
  have hInt {T : Type} {bits : Nat} {tryFrom : Int64 → Option T} {toInt : T → Int}
      (hNarrows : Narrows bits tryFrom toInt) {typeName : String}
      (h : (checkedInt fieldName tryFrom typeName (some (.number ⟨n, 0⟩))).map (·.map toInt) = .ok cell) :
      cell = some n ↔ n < 2 ^ 63 := by
    refine hSplit ?_
    rcases checkedInt_cases hNarrows fieldName typeName (some (.number ⟨n, 0⟩)) with ⟨-, error, hError⟩ | ⟨-, hOk⟩
    · rw [hError] at h
      cases h
    · rw [hOk] at h
      exact (Except.ok.inj h).symm.trans hRead
  cases dataType with
  | int8 => exact hInt narrows_tryI8 h
  | int16 => exact hInt narrows_tryI16 h
  | int32 => exact hInt narrows_tryI32 h
  | int64 => exact hSplit ((Except.ok.inj h).symm.trans hRead)
  | timestamp unit tz =>
    rw [integerCell, checkedTimestamp_number, if_pos ⟨rfl, hLow, hHigh⟩] at h
    obtain rfl := Except.ok.inj h
    by_cases hSigned : n < 2 ^ 63
    · refine iff_of_true ?_ hSigned
      rw [Number.asI64_of_lt hLow hSigned]
      exact congrArg some (Int64.toInt_ofInt_of_le hLow hSigned)
    · refine iff_of_false (fun hSame => ?_) hSigned
      rw [Number.asI64_of_le (not_lt.mp hSigned), Option.getD_none, castI64_round (not_lt.mp hSigned)] at hSame
      have hMax : Int64.maxValue.toInt = n := Option.some.inj hSame
      rw [Int64.toInt_maxValue] at hMax
      omega
  | _ => exact hType.elim

end Integers

section Errors

variable {library : ConvertLibrary} {fieldName : String} {dataType : DataType} {values : List (Option Json)}
  {error : ConnectorError}

theorem columnError_of_checkedIntArray {T : Type} {bits : Nat} {tryFrom : Int64 → Option T} {toInt : T → Int}
    {typeName : String} (hNarrows : Narrows bits tryFrom toInt) (hType : (dataType, typeName, bits) ∈ narrowTypes)
    (h : checkedIntArray fieldName tryFrom typeName values = .error error) :
    ColumnError library fieldName values dataType error := by
  obtain ⟨value, hValue, hError⟩ := mapM_eq_error h
  unfold checkedInt at hError
  cases hInt : value.bind Json.asI64 with
  | none =>
    rw [hInt] at hError
    cases hError
  | some n =>
    have hTry := hNarrows n
    rw [hInt] at hError
    cases hFrom : tryFrom n with
    | some converted =>
      simp only [hFrom] at hError
      cases hError
    | none =>
      simp only [hFrom] at hError
      cases hError
      rw [hFrom, Option.map_none] at hTry
      exact .overflow hType hValue hInt fun hFits => by rw [if_pos hFits] at hTry; cases hTry

theorem columnError_of_checkedTimestamp {unit : TimeUnit} {tz : Option String} {value : Option Json}
    (hValue : value ∈ values) (h : checkedTimestamp library fieldName unit value = .error error) :
    ColumnError library fieldName values (.timestamp unit tz) error := by
  match value with
  | none | some .null => cases h
  | some (.number number) =>
    rw [checkedTimestamp_number] at h
    cases h
  | some (.bool value) =>
    cases h
    exact .noTimestamp hValue rfl
  | some (.array items) =>
    cases h
    exact .noTimestamp hValue rfl
  | some (.object members) =>
    cases h
    exact .noTimestamp hValue rfl
  | some (.string s) =>
    cases hParse : library.stringToDatetime s with
    | error reason =>
      rw [checkedTimestamp, hParse] at h
      cases h
      exact .unparsed hValue hParse
    | ok dt =>
      rw [checkedTimestamp, hParse] at h
      have hUnit : timestampIn fieldName dt unit = .error error := map_eq_error.mp h
      cases unit with
      | nanosecond =>
        rw [timestampIn] at hUnit
        cases hNanos : dt.timestampNanosOpt with
        | some nanos =>
          rw [hNanos] at hUnit
          cases hUnit
        | none =>
          rw [hNanos] at hUnit
          cases hUnit
          exact .nanoseconds hValue hParse hNanos
      | _ => cases hUnit

/-- Every error of a conversion says why a value of the column cannot be
converted. -/
theorem columnError_of_jsonValuesToArray (h : jsonValuesToArray library fieldName dataType values = .error error) :
    ColumnError library fieldName values dataType error := by
  cases dataType with
  | int8 => exact columnError_of_checkedIntArray narrows_tryI8 (by simp [narrowTypes]) (map_eq_error.mp h)
  | int16 => exact columnError_of_checkedIntArray narrows_tryI16 (by simp [narrowTypes]) (map_eq_error.mp h)
  | int32 => exact columnError_of_checkedIntArray narrows_tryI32 (by simp [narrowTypes]) (map_eq_error.mp h)
  | timestamp unit tz =>
    obtain ⟨value, hValue, hError⟩ := mapM_eq_error (map_eq_error.mp h)
    exact columnError_of_checkedTimestamp hValue hError
  | _ => cases h

end Errors

/-- For every column of JSON values and every type of integers or timestamps:
an integer in the column is stored as it is in every array that comes out,
just if it is a signed 64-bit integer or no array comes out. -/
theorem integers_unaltered_iff (library : ConvertLibrary) (fieldName : String) (dataType : DataType)
    (hType : StoresIntegers dataType) (values : List (Option Json)) (position : Nat) (n : Int)
    (hLow : -2 ^ 63 ≤ n) (hHigh : n < 2 ^ 64) (hValue : values[position]? = some (some (.number ⟨n, 0⟩))) :
    (∀ array, jsonValuesToArray library fieldName dataType values = .ok array →
        array.integers[position]? = some (some n)) ↔
      n < 2 ^ 63 ∨ ∃ value ∈ values, Refused library dataType value := by
  have hCells := integers_jsonValuesToArray library fieldName hType values
  cases hArray : jsonValuesToArray library fieldName dataType values with
  | error error =>
    refine iff_of_true nofun (.inr ?_)
    rw [hArray] at hCells
    obtain ⟨value, hMem, hError⟩ := mapM_eq_error hCells.symm
    exact ⟨value, hMem, (integerCell_error_iff fieldName hType value).mp ⟨error, hError⟩⟩
  | ok array =>
    rw [hArray] at hCells
    have hAll := mapM_eq_ok hCells.symm
    obtain ⟨cell, hCell, hInteger⟩ := getElem?_of_forall₂ hAll hValue
    have hAccepted : ¬∃ value ∈ values, Refused library dataType value := by
      rintro ⟨value, hMem, hRefused⟩
      obtain ⟨error, hError⟩ := (integerCell_error_iff fieldName hType value).mpr hRefused
      obtain ⟨found, -, hFound⟩ := exists_of_forall₂_left hAll hMem
      cases hError.symm.trans hFound
    rw [or_iff_left hAccepted, ← integerCell_integer hType hLow hHigh hInteger]
    simp [hCell]

section Samples

/-- A library that reads no dates. -/
def plainLibrary : ConvertLibrary :=
  ⟨fun s => .error s!"Error parsing timestamp from '{s}'", Number.render, fun _ => ""⟩

/-- `i64::MAX + 1`, alone in a column. -/
def largeColumn : List (Option Json) := [some (.number ⟨9223372036854775808, 0⟩)]

/-- It is lost in columns of integers, and another one among timestamps. -/
theorem large_integer_altered : jsonValuesToArray plainLibrary "n" .int64 largeColumn = .ok (.int64 [none]) ∧
      jsonValuesToArray plainLibrary "n" .int8 largeColumn = .ok (.int8 [none]) ∧
      jsonValuesToArray plainLibrary "n" (.timestamp .millisecond (some "UTC")) largeColumn =
        .ok (.timestamp .millisecond (some "UTC") [some .maxValue]) := by
  refine ⟨by decide +kernel, by decide +kernel, ?_⟩
  have hCell := checkedTimestamp_number plainLibrary "n" .millisecond ⟨9223372036854775808, 0⟩
  rw [if_pos (by decide), Number.asI64_of_le (by decide), Option.getD_none, castI64_round (by decide)] at hCell
  rw [jsonValuesToArray, checkedTimestampValues, largeColumn, mapM_cons, hCell]
  rfl

theorem integers_unaltered_sample :
    ∃ array, jsonValuesToArray plainLibrary "n" .int16 [none, some (.number ⟨-32768, 0⟩)] = .ok array ∧
      array.integers[1]? = some (some (-32768)) := by
  have hUnaltered := (integers_unaltered_iff plainLibrary "n" .int16 trivial [none, some (.number ⟨-32768, 0⟩)] 1
    (-32768) (by decide) (by decide) rfl).mpr (.inl (by decide))
  have hArray : jsonValuesToArray plainLibrary "n" .int16 [none, some (.number ⟨-32768, 0⟩)] =
      .ok (.int16 [none, some (-32768)]) := by decide +kernel
  exact ⟨_, hArray, hUnaltered _ hArray⟩

end Samples

end DataConnectHub
