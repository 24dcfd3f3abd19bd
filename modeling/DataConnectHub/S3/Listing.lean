import DataConnectHub.Connectors.FileReaders
import DataConnectHub.S3.Like

/-! Listing the tables of a bucket. With a filter, only the objects under its
literal part are asked for, and the matcher then sorts out the rest. -/
namespace DataConnectHub.S3

open Flight RustStd Wildcard List Connectors.S3

inductive EntryMode where
  | file
  | dir
  | unknown
  deriving DecidableEq

structure Entry where
  path : String
  mode : EntryMode
  deriving DecidableEq

structure TableInfo (Schema : Type) where
  catalog : String
  schemaName : String
  tableName : String
  tableType : String
  tableSchema : Schema

/-- A bucket: the recursive listing under a prefix, and what answers the calls for an
object. -/
structure Bucket (Schema Output : Type) where
  listWith : String → Except String (List Entry)
  environment : Interaction.Program.Environment (S3Call Schema) (S3Call.Reply Output)

def isWildcard (c : Char) : Bool := c == '%' || c == '_'

/-- The part of the pattern before its first wildcard, cut by byte offset. -/
def likePrefix (pattern : String) : Option String :=
  let chars := pattern.toList
  let stop := (find isWildcard chars).getD (utf8Len chars)
  (sliceTo chars stop).map .ofList

section Listing

variable (toLowercase : String → String) {Schema Output : Type} (reader : S3Reader) (bucket : Bucket Schema Output)
  (emptySchema : Schema)

/-- The schema of a JSON document is not read for a listing, and an unreadable
one is left empty. -/
def tableInfo (includeSchema : Bool) (path : String) : TableInfo Schema :=
  let isJson := reader.detectFormat toLowercase path matches .ok .json
  { catalog := ""
    schemaName := ""
    tableName := path
    tableType := "TABLE"
    tableSchema :=
      if includeSchema && !isJson then
        match ((reader.schema toLowercase path).run bucket.environment []).1.1 with
        | .ok state => state.schema
        | .error _ => emptySchema
      else emptySchema }

/-- Nothing is returned where the pattern is cut inside a character. -/
def listTables (tableNameFilter : Option String) (includeSchema : Bool) :
    Option (Except ConnectorError (List (TableInfo Schema))) := do
  let listPrefix ← match tableNameFilter with
    | some pattern => likePrefix pattern
    | none => some ""
  return (mapErr (fun _ => .ioError "failed to list S3 objects") (bucket.listWith listPrefix)).map fun entries =>
      let paths := ((entries.filter (·.mode = .file)).map (·.path)).filter fun path =>
        (reader.detectFormat toLowercase path).isOk
      (paths.filter fun path => tableNameFilter.all (sqlLikeMatch path)).map
        (tableInfo toLowercase reader bucket emptySchema includeSchema)

/-- A bucket holds its entries, and a listing returns those under the prefix in
the order of the whole listing. -/
def Bucket.Holds (entries : List Entry) : Prop :=
  ∀ listPrefix, bucket.listWith listPrefix = .ok (entries.filter fun entry => startsWith entry.path listPrefix)

def objectKeys (entries : List Entry) : List String :=
  (entries.filter (·.mode = .file)).map (·.path)

end Listing

theorem likePrefix_eq (pattern : String) :
    likePrefix pattern = some (.ofList (pattern.toList.takeWhile (!isWildcard ·))) := by
  rw [likePrefix, sliceTo_find]
  rfl

/-- Up to the first wildcard a pattern matches nothing but itself. -/
theorem literal_prefix_of_matches {p v : List Char} (h : Matches Meets IsPercent p v) :
    p.takeWhile (!isWildcard ·) <+: v := by
  induction h with
  | done => exact prefix_refl _
  | @one c x p v hPlain hMeets rest ih =>
    cases hWild : isWildcard c with
    | true => simp [hWild]
    | false =>
      have hUnderscore : c ≠ '_' := by
        rintro rfl
        exact absurd hWild (by decide)
      obtain rfl := hMeets.resolve_left hUnderscore
      rw [takeWhile_cons_of_pos (by simp [hWild])]
      exact prefix_cons_inj c |>.mpr ih
  | @stretch c p v skipped hRun rest ih =>
      obtain rfl := hRun
      simp [isWildcard]

theorem startsWith_of_sqlLikeMatch {value pattern : String} (h : sqlLikeMatch value pattern = true) :
    startsWith value (.ofList (pattern.toList.takeWhile (!isWildcard ·))) = true := by
  rw [startsWith, String.toList_ofList, isPrefixOf_iff_prefix]
  exact literal_prefix_of_matches ((sqlLikeMatch_iff value pattern).mp h).like

/-- A key outside the listed prefix is none that the matcher would keep. -/
theorem filter_listed (entries : List Entry) (keep : String → Bool) (pattern : String) :
    (objectKeys (entries.filter fun entry =>
      startsWith entry.path (.ofList (pattern.toList.takeWhile (!isWildcard ·))))).filter
        (fun key => keep key && sqlLikeMatch key pattern) =
      (objectKeys entries).filter fun key => keep key && sqlLikeMatch key pattern := by
  simp only [objectKeys, filter_map, filter_filter]
  congr 1
  apply filter_congr
  intro entry _
  cases hMatch : sqlLikeMatch entry.path pattern with
  | false => simp [hMatch]
  | true => simp [hMatch, startsWith_of_sqlLikeMatch hMatch]

section Narrowing

variable {Schema Output : Type} (toLowercase : String → String) (reader : S3Reader) (bucket : Bucket Schema Output)
  (emptySchema : Schema) (entries : List Entry) (hHolds : bucket.Holds entries) (pattern : String) (includeSchema : Bool)

include hHolds

theorem listTables_some :
    listTables toLowercase reader bucket emptySchema (some pattern) includeSchema =
      some (.ok (((objectKeys entries).filter fun key =>
        (reader.detectFormat toLowercase key).isOk && sqlLikeMatch key pattern).map
          (tableInfo toLowercase reader bucket emptySchema includeSchema))) := by
  rw [← filter_listed]
  simp only [listTables, likePrefix_eq, hHolds _, mapErr, Option.all_some, filter_filter, Bool.and_comm]
  rfl

/-- A filtered listing names the objects, in the order of the whole listing,
that have a format and pass the matcher; narrowing it to the literal part of
the pattern loses none. -/
theorem listTables_narrowed :
    ∃ tables, listTables toLowercase reader bucket emptySchema (some pattern) includeSchema = some (.ok tables) ∧
      tables.map (·.tableName) = (objectKeys entries).filter fun key =>
        (reader.detectFormat toLowercase key).isOk && sqlLikeMatch key pattern := by
  refine ⟨_, listTables_some toLowercase reader bucket emptySchema entries hHolds pattern includeSchema, ?_⟩
  rw [map_map]
  exact map_id _

end Narrowing

def sampleEntries : List Entry :=
  [⟨"data/", .dir⟩, ⟨"data/cities.csv", .file⟩, ⟨"data/notes.txt", .file⟩, ⟨"logs/day.json", .file⟩]

/-- A bucket with a directory, two objects of a known format and one of none. -/
def sampleBucket : Bucket Unit Unit where
  listWith listPrefix := .ok (sampleEntries.filter fun entry => startsWith entry.path listPrefix)
  environment
    | _, .reader _ => Except.ok ()
    | _, .stream _ => Except.ok []
    | _, .readSchema .. => Except.ok ()
    | _, .readBatches .. => Except.ok ()

theorem listTables_narrowed_sample : sampleBucket.Holds sampleEntries ∧
    ∃ tables, listTables String.toLower ⟨none, ⟨none, false⟩⟩ sampleBucket () (some "data/%") true = some (.ok tables) ∧
      tables.map (·.tableName) = (objectKeys sampleEntries).filter fun key =>
        (S3Reader.detectFormat String.toLower ⟨none, ⟨none, false⟩⟩ key).isOk && sqlLikeMatch key "data/%" :=
  ⟨fun _ => rfl, listTables_narrowed _ _ _ _ sampleEntries (fun _ => rfl) "data/%" true⟩

end DataConnectHub.S3
