import DataConnectHub.Connectors.Batching

/-! Values of Neo4j that are lost. A column has the type of its first value, and a
later value that the driver does not convert to that type is null in the batch,
without an error. -/
namespace DataConnectHub.Neo4j

open Serde Arrow RustStd Flight Interaction Connectors List

variable {F64 : Type}

/-- What the driver says of its conversions: a null is no value of any type, and
a row becomes an object with a member for each column. -/
structure BoltLibrary.Lawful (library : BoltLibrary F64) : Prop where
  getBool_null : (library.getBool .null).join = none
  getI64_null : (library.getI64 .null).join = none
  getF64_null : (library.getF64 .null).join = none
  getString_null : (library.getString .null).join = none
  getBytes_null : library.getBytes .null = none
  getNaiveDate_null : library.getNaiveDate .null = none
  keys : ∀ {row : Row F64} {members : Members}, library.rowToJson row = .ok (.object members) →
    ∀ name, name ∈ members.map Prod.fst ↔ (row.lookup name).isSome

/-- The column has a value in this row. -/
def present (row : Row F64) (name : String) : Bool :=
  match row.lookup name with
  | none | some .null => false
  | some _ => true

/-- A value that the driver converts to the type of the first value in its column.
Any value has a text. -/
def Suits (library : BoltLibrary F64) (first value : BoltType F64) : Prop :=
  match first with
  | .boolean _ => (library.getBool value).join.isSome
  | .integer _ => (library.getI64 value).join.isSome
  | .float _ => (library.getF64 value).join.isSome
  | .bytes _ => (library.getBytes value).isSome
  | .date _ => (library.getNaiveDate value).isSome
  | .dateTime .. | .dateTimeZoneId .. | .localDateTime .. => (timestampMillis library value).isSome
  | _ => True

section Columns

variable {library : BoltLibrary F64}

theorem present_of_lookup {row : Row F64} {name : String} {value : BoltType F64} (h : row.lookup name = some value) :
    present row name = true ↔ value ≠ .null := by
  rw [present, h]
  cases value <;> simp

theorem isSome_extractAsString (hLawful : library.Lawful) (row : Row F64) (name : String) :
    (extractAsString library row name).isSome = present row name := by
  unfold extractAsString present
  cases row.lookup name with
  | none => rfl
  | some value =>
    rw [Option.bind_some]
    split
    next text hText =>
        -- a text is not read from a null
        have hNull : value ≠ .null := by
          rintro rfl
          have hLaw := hLawful.getString_null
          rw [hText] at hLaw
          cases hLaw
        cases value <;> first | rfl | exact absurd rfl hNull
    · cases value <;> rfl

variable {Value : Type}

/-- A conversion fills the cells of just the values that there are if it converts
every value but null. -/
theorem map_isSome_eq_iff {read : BoltType F64 → Option Value} (hNull : read .null = none) (name : String)
    (rows : List (Row F64)) :
    ((rows.map fun row => (row.lookup name).bind read).map Option.isSome) = rows.map (present · name) ↔
      ∀ row ∈ rows, ∀ value, row.lookup name = some value → value ≠ .null → (read value).isSome := by
  rw [map_map, map_inj_left]
  refine forall₂_congr fun row _ => ?_
  rw [Function.comp_apply, Bool.eq_iff_iff]
  cases hValue : row.lookup name with
  | none => simp [present, hValue]
  | some value =>
    rw [present_of_lookup hValue, Option.bind_some]
    constructor
    · intro hIff other hOther hSome
      cases hOther
      exact hIff.mpr hSome
    · intro hSome
      refine ⟨?_, hSome value rfl⟩
      rintro hRead rfl
      rw [hNull] at hRead
      cases hRead

theorem join_bind (found : Option (BoltType F64)) (get : BoltType F64 → Option (Option Value)) :
    (found.bind get).join = found.bind fun value => (get value).join := by
  cases found <;> rfl

/-- The cells of a column are null just where the rows are if all other values
suit the first one. -/
theorem validity_eq_iff (hLawful : library.Lawful) (first : BoltType F64) (name : String) (rows : List (Row F64)) :
    (buildColumnArray library name (boltTypeToArrow first) rows).validity = rows.map (present · name) ↔
      ∀ row ∈ rows, ∀ value, row.lookup name = some value → value ≠ .null → Suits library first value := by
  cases first with
  | boolean _ =>
    simp only [boltTypeToArrow, buildColumnArray, Column.validity, join_bind]
    exact map_isSome_eq_iff hLawful.getBool_null name rows
  | integer _ =>
    simp only [boltTypeToArrow, buildColumnArray, Column.validity, join_bind]
    exact map_isSome_eq_iff hLawful.getI64_null name rows
  | float _ =>
    simp only [boltTypeToArrow, buildColumnArray, Column.validity, join_bind]
    exact map_isSome_eq_iff hLawful.getF64_null name rows
  | bytes _ => exact map_isSome_eq_iff hLawful.getBytes_null name rows
  | date _ => exact map_isSome_eq_iff hLawful.getNaiveDate_null name rows
  | dateTime _ _ _ | dateTimeZoneId _ _ _ | localDateTime _ _ => exact map_isSome_eq_iff rfl name rows
  | _ =>
    refine ⟨fun _ _ _ _ _ _ => trivial, fun _ => ?_⟩
    change (rows.map fun row => extractAsString library row name).map Option.isSome = _
    rw [map_map]
    exact map_congr_left fun row _ => isSome_extractAsString hLawful row name

end Columns

section Tables

variable {library : BoltLibrary F64} {first : Row F64} {schema : Schema} {name : String} {value : BoltType F64}

theorem find_field (hLawful : library.Lawful) (hSchema : schemaOfRow library first = .ok schema)
    (hFirst : first.lookup name = some value) :
    schema.fields.find? (fun field => field.name = name) = some ⟨name, boltTypeToArrow value, true⟩ := by
  obtain ⟨members, hJson, rfl⟩ := schemaOfRow_eq_ok hSchema
  have hName : name ∈ members.map Prod.fst := (hLawful.keys hJson name).mpr (by rw [hFirst]; rfl)
  rw [find?_map]
  cases hFound : members.find? ((fun field : Arrow.Field => decide (field.name = name)) ∘
      fun member => fieldOf first member.1) with
  | none =>
    obtain ⟨member, hMember, rfl⟩ := mem_map.mp hName
    exact absurd (find?_eq_none.mp hFound member hMember) (by simp [fieldOf])
  | some member =>
    obtain rfl : member.1 = name := by simpa [fieldOf] using find?_some hFound
    rw [Option.map_some, fieldOf, hFirst]
    rfl

theorem ne_nil_of_find {fields : List Arrow.Field} {field : Arrow.Field}
    (h : fields.find? (fun field => field.name = name) = some field) : fields ≠ [] := by
  rintro rfl
  cases h

variable {rows : List (Row F64)}

theorem validity_of_table {table : Table F64} (hColumns : table.columns =
      table.schema.fields.map fun field => buildColumnArray library field.name field.dataType rows)
    (hField : table.schema.fields.find? (fun field => field.name = name) = some ⟨name, boltTypeToArrow value, true⟩) :
    table.validity name = (buildColumnArray library name (boltTypeToArrow value) rows).validity := by
  have hZip : ∀ fields : List Arrow.Field,
      fields.zip (fields.map fun field => buildColumnArray library field.name field.dataType rows) =
        fields.map fun field => (field, buildColumnArray library field.name field.dataType rows) := by
    intro fields
    induction fields with
    | nil => rfl
    | cons field fields ih => rw [map_cons, zip_cons_cons, ih, map_cons]
  have hFind : (fun pair : Arrow.Field × Column F64 => decide (pair.1.name = name)) ∘
      (fun field : Arrow.Field => (field, buildColumnArray library field.name field.dataType rows)) =
        fun field => decide (field.name = name) := rfl
  rw [Table.validity, hColumns, hZip, find?_map, hFind, hField]
  rfl

theorem validity_append (dataType : DataType) (rows later : List (Row F64)) :
    (buildColumnArray library name dataType (rows ++ later)).validity =
      (buildColumnArray library name dataType rows).validity ++
        (buildColumnArray library name dataType later).validity := by
  unfold buildColumnArray
  split
  case h_5 =>
      split
      · simp [Column.validity]
      · split <;> simp [Column.validity]
  all_goals simp [Column.validity]

theorem validity_nil (dataType : DataType) : (buildColumnArray library name dataType []).validity = [] :=
  length_eq_zero_iff.mp (length_buildColumnArray name dataType [])

/-- The cells of one column in all batches are those of the column of all rows. -/
theorem flatMap_validity (hLawful : library.Lawful) (hSchema : schemaOfRow library first = .ok schema)
    (hFirst : first.lookup name = some value) {groups : List (List (Row F64))} {tables : List (Table F64)}
    (h : List.Forall₂ (Made (rowsToRecordBatch library schema)) groups tables) :
    tables.flatMap (·.validity name) =
      (buildColumnArray library name (boltTypeToArrow value) groups.flatten).validity := by
  have hField := find_field hLawful hSchema hFirst
  have hSome := ne_nil_of_find hField
  induction h with
  | nil => exact (validity_nil _).symm
  | @cons group table groups tables hMade _ ih =>
    obtain ⟨made, hTable, hTableSchema, hColumns⟩ :=
      rowsToRecordBatch_eq (schemaOfRow_inferred hSchema) hSome group
    obtain rfl : made = table := Except.ok.inj (hTable.symm.trans hMade)
    rw [← hTableSchema] at hColumns hField
    rw [flatMap_cons, flatten_cons, validity_append, validity_of_table hColumns hField, ih]

variable {reader : Neo4jReader F64}

/-- Reading with the schema of the first row comes to its end, and a column of the
batches is made of the values that the rows have for it. -/
theorem exists_readTabular (hLawful : reader.library.Lawful) (hSchema : schemaOfRow reader.library first = .ok schema)
    (hFirst : first.lookup name = some value) {environment : Neo4jEnvironment (Row F64)} {query : String}
    (hServes : ∀ past, environment past query = .ok (rows.map .ok)) (batchSize : Nat)
    (past : List (Program.Event String fun _ => Except String (RowStream (Row F64)))) :
    ∃ tables, ((reader.readTabular query schema batchSize).run environment past).1 = ⟨tables, .ok ()⟩ ∧
      tables.flatMap (·.validity name) =
        (buildColumnArray reader.library name (boltTypeToArrow value) rows).validity := by
  have hSome := ne_nil_of_find (find_field hLawful hSchema hFirst)
  have hConverts : Converts (rowsToRecordBatch reader.library schema) rows := by
    intro group _ _
    obtain ⟨table, hTable, -⟩ := rowsToRecordBatch_eq (schemaOfRow_inferred hSchema) hSome group
    exact ⟨table, hTable⟩
  -- a size of none is a size of one
  have hSame : reader.readTabular query schema batchSize = reader.readTabular query schema (max 1 batchSize) := by
    cases batchSize with
    | zero => exact readWith_zero query
    | succ less => rw [Nat.max_eq_right (Nat.le_add_left 1 less)]
  have hLossless : Lossless (Made (rowsToRecordBatch reader.library schema)) (max 1 batchSize) rows
      ((reader.readTabular query schema (max 1 batchSize)).run environment past).1 :=
    readWith_lossless (Nat.le_max_left ..) (hServes past) hConverts
  obtain ⟨groups, hGroups, hMade⟩ := hLossless.grouped
  rw [hSame]
  refine ⟨_, congrArg (Yielded.mk _) hLossless.ended, ?_⟩
  rw [flatMap_validity hLawful hSchema hFirst hMade, hGroups.flatten]

end Tables

/-- Reading a query through its schema: unless there is an error, the cells of
every column are null just where the rows are. -/
def NothingDropped (reader : Neo4jReader F64) (environment : Neo4jEnvironment (Row F64)) (query : String)
    (batchSize : Nat) (rows : List (Row F64)) : Prop :=
  ∀ schema tables, ((reader.schema query).run environment []).1 = .ok schema →
    ((reader.readTabular query schema batchSize).run environment ((reader.schema query).run environment []).2).1 =
      ⟨tables, .ok ()⟩ →
    ∀ name, (∃ row ∈ rows, (row.lookup name).isSome) → tables.flatMap (·.validity name) = rows.map (present · name)

/-- For all rows with the columns of the first one: nothing is dropped if and only
if there is no schema, because the first row does not become an object, or the
driver converts every value that is not null to the type of the first value in
its column. -/
theorem neo4j_nothing_dropped_iff (reader : Neo4jReader F64) (environment : Neo4jEnvironment (Row F64))
    (query : String) (batchSize : Nat) (first : Row F64) (rest : List (Row F64)) (hLawful : reader.library.Lawful)
    (hColumns : ∀ row ∈ rest, ∀ name, (row.lookup name).isSome = (first.lookup name).isSome)
    (hServes : ∀ past, environment past query = .ok ((first :: rest).map .ok)) :
    NothingDropped reader environment query batchSize (first :: rest) ↔
      (∀ members, reader.library.rowToJson first ≠ .ok (.object members)) ∨
        ∀ name value, first.lookup name = some value → ∀ row ∈ first :: rest, ∀ other,
          row.lookup name = some other → other ≠ .null → Suits reader.library value other := by
  have hSchema : ((reader.schema query).run environment []).1 = schemaOfRow reader.library first := by
    rw [Neo4jReader.schema, Program.run, hServes]
    rfl
  constructor
  · intro hKept
    refine or_iff_not_imp_left.mpr fun hObject name value hFirst => ?_
    obtain ⟨members, hJson⟩ := not_forall_not.mp hObject
    have hOk : schemaOfRow reader.library first = .ok ⟨members.map fun member => fieldOf first member.1⟩ := by
      rw [schemaOfRow, hJson]
    obtain ⟨tables, hRead, hCells⟩ := exists_readTabular hLawful hOk hFirst hServes batchSize
      ((reader.schema query).run environment []).2
    have hCellsKept := hKept _ tables (hSchema.trans hOk) hRead name ⟨first, mem_cons_self .., by rw [hFirst]; rfl⟩
    exact (validity_eq_iff hLawful value name _).mp (hCells.symm.trans hCellsKept)
  · rintro hCondition schema tables hOk hRead name ⟨row, hRow, hName⟩
    rw [hSchema] at hOk
    have hSuits := hCondition.resolve_left fun hObject =>
      (schemaOfRow_eq_ok hOk).elim fun members h => hObject members h.1
    have hFirst : (first.lookup name).isSome := by
      rcases mem_cons.mp hRow with rfl | hRow
      · exact hName
      · rwa [← hColumns row hRow]
    obtain ⟨value, hValue⟩ := Option.isSome_iff_exists.mp hFirst
    obtain ⟨found, hFound, hCells⟩ := exists_readTabular hLawful hOk hValue hServes batchSize
      ((reader.schema query).run environment []).2
    obtain rfl : tables = found := congrArg Yielded.items (hRead.symm.trans hFound)
    rw [hCells]
    exact (validity_eq_iff hLawful value name _).mpr (hSuits name value hValue)

theorem plainBolt_lawful : plainBolt.Lawful where
  getBool_null := rfl
  getI64_null := rfl
  getF64_null := rfl
  getString_null := rfl
  getBytes_null := rfl
  getNaiveDate_null := rfl
  keys := by
    intro row members hJson name
    cases hJson
    rw [map_map, mem_map, lookup_isSome_iff]
    exact exists_congr fun member => and_congr_right fun _ =>
      ⟨fun hName => beq_iff_eq.mpr hName.symm, fun hName => (beq_iff_eq.mp hName).symm⟩

theorem lookup_single (name column : String) (value : BoltType F64) :
    List.lookup name [(column, value)] = if name = column then some value else none := by
  rw [lookup_cons, lookup_nil]
  split <;> simp_all

/-- A number and a null, both kept. -/
theorem neo4j_nothing_dropped_sample :
    NothingDropped ⟨plainBolt⟩ (fun _ _ => .ok ([[("n", .integer 1)], [("n", .null)]].map .ok)) "q" 512
      [[("n", .integer 1)], [("n", .null)]] := by
  refine (neo4j_nothing_dropped_iff ⟨plainBolt⟩ _ "q" 512 [("n", .integer 1)] [[("n", .null)]] plainBolt_lawful ?_
    fun _ => rfl).mpr (.inr ?_)
  · intro row hRow name
    cases mem_singleton.mp hRow
    rw [lookup_single, lookup_single]
    split <;> rfl
  · intro name value hFirst row hRow other hOther hSome
    rw [lookup_single] at hFirst
    split at hFirst
    next hName =>
        cases hFirst
        rcases mem_cons.mp hRow with rfl | hRow
        · rw [lookup_single, if_pos hName] at hOther
          cases hOther
          rfl
        · cases mem_singleton.mp hRow
          rw [lookup_single, if_pos hName] at hOther
          cases hOther
          exact absurd rfl hSome
    · cases hFirst

/-- A text below a number is dropped, and the stream ends well. -/
theorem text_below_number_dropped : ∃ schema tables, ((Neo4jReader.schema ⟨plainBolt⟩ "q").run
        (fun _ _ => .ok ([[("n", .integer 1)], [("n", .string "x")]].map .ok)) []).1 = .ok schema ∧
      ((Neo4jReader.readTabular ⟨plainBolt⟩ "q" schema 512).run
        (fun _ _ => .ok ([[("n", .integer 1)], [("n", .string "x")]].map .ok)) []).1 = ⟨tables, .ok ()⟩ ∧
      tables.flatMap (·.validity "n") = [true, false] ∧
      [[("n", .integer 1)], [("n", .string "x")]].map (fun row => present (row : Row Unit) "n") = [true, true] :=
  ⟨_, _, rfl, rfl, rfl, rfl⟩

end DataConnectHub.Neo4j
