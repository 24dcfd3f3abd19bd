import DataConnectHub.Arrow.RecordBatch
import DataConnectHub.Labels.Table
import DataConnectHub.Serde.Distinct
import Mathlib.Logic.Relation

/-! The fields of an Elasticsearch mapping. A mapping response has one entry for
each index, and the properties of an index are a tree. The fields are its
leaves, named by the path to them; leaves of the same path are merged, and get
the type `text` when their types differ. -/
namespace DataConnectHub.Elasticsearch

open Serde Arrow Labels List

def esTypeToArrow (esType : String) : DataType :=
  if esType = "boolean" then .boolean
  else if esType = "byte" then .int8
  else if esType = "short" then .int16
  else if esType = "integer" then .int32
  else if esType = "long" then .int64
  else if esType = "half_float" ∨ esType = "float" then .float32
  else if esType = "double" ∨ esType = "scaled_float" then .float64
  else if esType = "date" ∨ esType = "date_nanos" then .timestamp .millisecond (some "UTC")
  else .utf8

/-- A field has a path and a type. -/
abbrev EsMappingField := Entry String String

abbrev EsMappingField.path (field : EsMappingField) : String := field.key

abbrev EsMappingField.esType (field : EsMappingField) : String := field.label

/-- The fields so far, with the positions of their paths. -/
abbrev Fields := Table String String

/-- The path of a property inside an object; at the top there is none yet. -/
def joined (outer name : String) : String :=
  if outer.isEmpty then name else s!"{outer}.{name}"

/-- What is done for a value without properties of its own. -/
def mergeLeaf (path : String) (value : Json) (fields : Fields) : Fields :=
  match (value.field? "type").bind Json.asStr with
  | some esType => fields.record "text" path esType
  | none => fields

mutual
def mergeProperties (outer : String) : Json → Fields → Fields
  | .object members, fields => mergeEntries outer members fields
  | _, fields => fields

/-- The loop over the properties of an object. -/
def mergeEntries (outer : String) : Members → Fields → Fields
  | [], fields => fields
  | (name, value) :: rest, fields => mergeEntries outer rest (mergeEntry (joined outer name) value fields)

def mergeEntry (path : String) : Json → Fields → Fields
  | .object members, fields => (mergeSub path members fields).getD (mergeLeaf path (.object members) fields)
  | value, fields => mergeLeaf path value fields

/-- The properties of a value, if it has any. -/
def mergeSub (path : String) : Members → Fields → Option Fields
  | [], _ => none
  | (name, value) :: rest, fields =>
    if "properties" = name then some (mergeProperties path value fields) else mergeSub path rest fields
end

/-- `mappings.properties` of a value. -/
def propertiesOf (value : Json) : Option Json :=
  (value.field? "mappings").bind fun mappings => mappings.field? "properties"

/-- The properties of one index. -/
def mergeIndex (fields : Fields) (index : String × Json) : Fields :=
  match propertiesOf index.2 with
  | some properties => mergeProperties "" properties fields
  | none => fields

/-- The fields of all indices of a response. -/
def mergeIndices (mapping : Json) : Fields :=
  match mapping.asObject with
  | some indices =>
    if indices.any fun index => (index.2.field? "mappings").isSome then indices.foldl mergeIndex .empty
    else .empty
  | none => .empty

def parseMapping (mapping : Json) : List EsMappingField :=
  let fields := mergeIndices mapping
  if fields.entries.isEmpty then
    match propertiesOf mapping with
    | some properties => (mergeProperties "" properties fields).entries
    | none => fields.entries
  else fields.entries

def mappingFieldsToSchema (fields : List EsMappingField) : Schema :=
  ⟨fields.map fun field => ⟨field.path, esTypeToArrow field.esType, true⟩⟩

section Leaves

/-- The type of a value without properties, if it has one. -/
def typeLeaf (value : Json) : List (List String × String) :=
  (((value.field? "type").bind Json.asStr).map fun esType => ([], esType)).toList

mutual
/-- The leaves of a tree of properties, with the names on the way to them. -/
def leaves : Json → List (List String × String)
  | .object members => entryLeaves members
  | _ => []

def entryLeaves : Members → List (List String × String)
  | [] => []
  | (name, value) :: rest => (valueLeaves value).map (fun leaf => (name :: leaf.1, leaf.2)) ++ entryLeaves rest

def valueLeaves : Json → List (List String × String)
  | .object members => (subLeaves members).getD (typeLeaf (.object members))
  | value => typeLeaf value

def subLeaves : Members → Option (List (List String × String))
  | [] => none
  | (name, value) :: rest => if "properties" = name then some (leaves value) else subLeaves rest
end

/-- One more leaf below an outer path. -/
def recordLeaf (outer : String) (fields : Fields) (leaf : List String × String) : Fields :=
  fields.record "text" (leaf.1.foldl joined outer) leaf.2

theorem mergeLeaf_eq (path : String) (value : Json) (fields : Fields) :
    mergeLeaf path value fields = (typeLeaf value).foldl (recordLeaf path) fields := by
  unfold mergeLeaf typeLeaf
  cases (value.field? "type").bind Json.asStr <;> rfl

mutual
/-- Merging a tree of properties records its leaves one after another. -/
theorem mergeProperties_eq (outer : String) : (value : Json) → (fields : Fields) →
    mergeProperties outer value fields = (leaves value).foldl (recordLeaf outer) fields
  | .object members, fields => mergeEntries_eq outer members fields
  | .null, _ | .bool _, _ | .number _, _ | .string _, _ | .array _, _ => rfl

theorem mergeEntries_eq (outer : String) : (members : Members) → (fields : Fields) →
    mergeEntries outer members fields = (entryLeaves members).foldl (recordLeaf outer) fields
  | [], fields => rfl
  | (name, value) :: rest, fields => by
      rw [mergeEntries, mergeEntries_eq outer rest, mergeEntry_eq (joined outer name) value, entryLeaves,
        List.foldl_append, List.foldl_map]
      rfl

theorem mergeEntry_eq (path : String) : (value : Json) → (fields : Fields) →
    mergeEntry path value fields = (valueLeaves value).foldl (recordLeaf path) fields
  | .object members, fields => by
      rw [mergeEntry, valueLeaves, mergeSub_eq path members, mergeLeaf_eq]
      cases subLeaves members <;> rfl
  | .null, fields => mergeLeaf_eq path .null fields
  | .bool value, fields => mergeLeaf_eq path (.bool value) fields
  | .number value, fields => mergeLeaf_eq path (.number value) fields
  | .string value, fields => mergeLeaf_eq path (.string value) fields
  | .array items, fields => mergeLeaf_eq path (.array items) fields

theorem mergeSub_eq (path : String) : (members : Members) → (fields : Fields) →
    mergeSub path members fields = (subLeaves members).map fun found => found.foldl (recordLeaf path) fields
  | [], fields => rfl
  | (name, value) :: rest, fields => by
      rw [mergeSub, subLeaves]
      split
      · exact congrArg some (mergeProperties_eq path value fields)
      · exact mergeSub_eq path rest fields
end

theorem subLeaves_eq (members : Members) :
    subLeaves members = (members.lookup "properties").map leaves := by
  induction members with
  | nil => rfl
  | cons member rest ih =>
    obtain ⟨name, value⟩ := member
    rw [subLeaves, Json.lookup_cons, ih]
    split <;> rfl

theorem valueLeaves_eq (value : Json) :
    valueLeaves value = ((value.field? "properties").map leaves).getD (typeLeaf value) := by
  cases value with
  | object members =>
    rw [valueLeaves, subLeaves_eq]
    rfl
  | _ => rfl

theorem entryLeaves_eq (members : Members) : entryLeaves members = members.flatMap fun member =>
      (valueLeaves member.2).map fun leaf => (member.1 :: leaf.1, leaf.2) := by
  induction members with
  | nil => rfl
  | cons member rest ih =>
    rw [entryLeaves, ih, flatMap_cons]

/-- The leaves of all indices. -/
def allLeaves (indices : Members) : List (List String × String) :=
  indices.flatMap fun index => ((propertiesOf index.2).map leaves).getD []

theorem foldl_mergeIndex (indices : Members) (fields : Fields) :
    indices.foldl mergeIndex fields = (allLeaves indices).foldl (recordLeaf "") fields := by
  induction indices generalizing fields with
  | nil => rfl
  | cons index rest ih =>
    have hIndex : mergeIndex fields index =
        (((propertiesOf index.2).map leaves).getD []).foldl (recordLeaf "") fields := by
      unfold mergeIndex
      cases propertiesOf index.2 with
      | none => rfl
      | some properties => exact mergeProperties_eq "" properties fields
    have hSplit : allLeaves (index :: rest) = ((propertiesOf index.2).map leaves).getD [] ++ allLeaves rest :=
      flatMap_cons ..
    rw [foldl_cons, ih, hIndex, hSplit, foldl_append]

end Leaves

section Trees

/-- A leaf of a tree of properties: the names on the way to a value that has a
type and no properties of its own. -/
inductive Leaf : Json → List String → String → Prop where
  | here {members : Members} {name : String} {value : Json} {esType : String}
      (hMember : (name, value) ∈ members) (hEnd : value.field? "properties" = none)
      (hType : value.field? "type" = some (.string esType)) : Leaf (.object members) [name] esType
  | inside {members : Members} {name : String} {value sub : Json} {names : List String}
      {esType : String} (hMember : (name, value) ∈ members) (hSub : value.field? "properties" = some sub)
      (h : Leaf sub names esType) : Leaf (.object members) (name :: names) esType

variable {value : Json} {names : List String}

theorem mem_typeLeaf {esType : String} :
    (names, esType) ∈ typeLeaf value ↔ names = [] ∧ value.field? "type" = some (.string esType) := by
  unfold typeLeaf
  cases value.field? "type" with
  | none => simp
  | some found => cases found <;> simp [Json.asStr, eq_comm]

theorem mem_leaves_object {members : Members} {esType : String} :
    (names, esType) ∈ leaves (.object members) ↔ ∃ name value rest, (name, value) ∈ members ∧
      (rest, esType) ∈ valueLeaves value ∧ names = name :: rest := by
  rw [leaves, entryLeaves_eq, mem_flatMap]
  constructor
  · rintro ⟨⟨name, value⟩, hMember, h⟩
    obtain ⟨⟨rest, _⟩, hLeaf, hSame⟩ := mem_map.mp h
    obtain ⟨rfl, rfl⟩ := Prod.mk.inj hSame
    exact ⟨name, value, rest, hMember, hLeaf, rfl⟩
  · rintro ⟨name, value, rest, hMember, hLeaf, rfl⟩
    exact ⟨_, hMember, mem_map.mpr ⟨(rest, esType), hLeaf, rfl⟩⟩

theorem leaf_of_mem_leaves {esType : String} (h : (names, esType) ∈ leaves value) : Leaf value names esType := by
  induction names generalizing value with
  | nil =>
    cases value with
    | object members =>
      obtain ⟨_, _, _, -, -, hNames⟩ := mem_leaves_object.mp h
      cases hNames
    | _ => cases h
  | cons name names ih =>
    cases value with
    | object members =>
      obtain ⟨_, value, _, hMember, hLeaf, hNames⟩ := mem_leaves_object.mp h
      obtain ⟨rfl, rfl⟩ := cons.inj hNames
      rw [valueLeaves_eq] at hLeaf
      cases hSub : value.field? "properties" with
      | some sub =>
        rw [hSub] at hLeaf
        exact .inside hMember hSub (ih hLeaf)
      | none =>
        rw [hSub] at hLeaf
        obtain ⟨hEnd, hType⟩ := mem_typeLeaf.mp hLeaf
        rw [hEnd]
        exact .here hMember hSub hType
    | _ => cases h

theorem mem_leaves {esType : String} : (names, esType) ∈ leaves value ↔ Leaf value names esType := by
  refine ⟨leaf_of_mem_leaves, fun h => ?_⟩
  induction h with
  | here hMember hEnd hType =>
    refine mem_leaves_object.mpr ⟨_, _, [], hMember, ?_, rfl⟩
    rw [valueLeaves_eq, hEnd]
    exact mem_typeLeaf.mpr ⟨rfl, hType⟩
  | inside hMember hSub _ ih =>
    refine mem_leaves_object.mpr ⟨_, _, _, hMember, ?_, rfl⟩
    rw [valueLeaves_eq, hSub]
    exact ih

end Trees

section Order

variable {value value' : Json}

section

variable (h : value.Reorder value') (hDistinct : value.Distinct)

include h hDistinct

theorem typeLeaf_reorder : typeLeaf value = typeLeaf value' := by
  have hStr : (value.field? "type").bind Json.asStr = (value'.field? "type").bind Json.asStr := by
    rcases h.field?_cases hDistinct "type" with hSame | ⟨found, found', hFound, hFound', hInner⟩
    · rw [hSame]
    · rw [hFound, hFound']
      exact hInner.asStr_eq
  rw [typeLeaf, typeLeaf, hStr]

/-- The leaves of a tree do not depend on the order of members, whether it is
read as properties or as the value of one. -/
theorem leaves_reorder : (leaves value).Perm (leaves value') ∧ (valueLeaves value).Perm (valueLeaves value') := by
  have hTypes := typeLeaf_reorder h hDistinct
  induction h with
  | members hPerm =>
    rw [Json.Distinct] at hDistinct
    have hSub := Json.lookup_perm hDistinct.1 hPerm "properties"
    refine ⟨?_, .of_eq ?_⟩
    · rw [leaves, leaves, entryLeaves_eq, entryLeaves_eq]
      exact hPerm.flatMap_right _
    · rw [valueLeaves_eq, valueLeaves_eq, hTypes]
      exact congrArg (fun found => (Option.map leaves found).getD _) hSub
  | @member before after name value value' hInner ih =>
    have hValue : value.Distinct := by
      rw [Json.Distinct, Json.distinctMembers_iff] at hDistinct
      exact hDistinct.2 (name, value) (by simp)
    obtain ⟨hLeaves, hValues⟩ := ih hValue (typeLeaf_reorder hInner hValue)
    constructor
    · rw [leaves, leaves, entryLeaves_eq, entryLeaves_eq, flatMap_append, flatMap_append, flatMap_cons, flatMap_cons]
      exact .append_left _ (.append_right _ (hValues.map _))
    · rw [valueLeaves_eq, valueLeaves_eq, hTypes]
      change (((before ++ (name, value) :: after).lookup "properties").map leaves |>.getD _).Perm
        (((before ++ (name, value') :: after).lookup "properties").map leaves |>.getD _)
      rcases Json.lookup_member_cases before after name "properties" value value' with hSame | ⟨hFound, hFound'⟩
      · rw [hSame]
      · rw [hFound, hFound']
        exact hLeaves
  | item _ _ => exact ⟨.refl _, .of_eq hTypes⟩

theorem indexLeaves_reorder :
    (((propertiesOf value).map leaves).getD []).Perm (((propertiesOf value').map leaves).getD []) := by
  unfold propertiesOf
  rcases h.field?_cases hDistinct "mappings" with hSame | ⟨mappings, mappings', hFound, hFound', hInner⟩
  · rw [hSame]
  · rw [hFound, hFound', Option.bind_some, Option.bind_some]
    have hMappings := hDistinct.field? hFound
    rcases hInner.field?_cases hMappings "properties" with hSame | ⟨found, found', hSub, hSub', hDeep⟩
    · rw [hSame]
    · rw [hSub, hSub']
      exact (leaves_reorder hDeep (hMappings.field? hSub)).1

end

/-- A response made of entries for indices. An entry has mappings, and no
properties beside them. -/
def PerIndex (mapping : Json) : Prop :=
  ∃ indices, mapping = .object indices ∧
    ∀ index ∈ indices, (index.2.field? "mappings").isSome = true ∧ (index.2.field? "properties").isSome = false

theorem allLeaves_reorder {mapping mapping' : Json} (h : mapping.Reorder mapping') (hDistinct : mapping.Distinct)
    (hIndices : PerIndex mapping) :
    PerIndex mapping' ∧ (allLeaves mapping.members).Perm (allLeaves mapping'.members) := by
  obtain ⟨indices, hMapping, hEntries⟩ := hIndices
  cases h with
  | members hPerm =>
    obtain rfl := Json.object.inj hMapping
    exact ⟨⟨_, rfl, fun index hIndex => hEntries index (hPerm.mem_iff.mpr hIndex)⟩, hPerm.flatMap_right _⟩
  | @member before after name value value' hInner =>
    obtain rfl := Json.object.inj hMapping
    have hValue : value.Distinct := by
      rw [Json.Distinct, Json.distinctMembers_iff] at hDistinct
      exact hDistinct.2 (name, value) (by simp)
    refine ⟨⟨_, rfl, fun index hIndex => ?_⟩, ?_⟩
    · rcases mem_append.mp hIndex with hBefore | hHere
      · exact hEntries index (mem_append_left _ hBefore)
      · rcases mem_cons.mp hHere with rfl | hAfter
        · have hOld := hEntries (name, value) (by simp)
          rw [hInner.field?_isSome hValue, hInner.field?_isSome hValue] at hOld
          exact hOld
        · exact hEntries index (by simp [hAfter])
    · change (allLeaves (before ++ _ :: after)).Perm (allLeaves (before ++ _ :: after))
      rw [allLeaves, allLeaves, flatMap_append, flatMap_append, flatMap_cons, flatMap_cons]
      exact .append_left _ (.append_right _ (indexLeaves_reorder hInner hValue))
  | item _ => cases hMapping

end Order

section Parsing

/-- The occurrences of types that the parser records. -/
def occurrences (indices : Members) : List (String × String) :=
  (allLeaves indices).map fun leaf => (leaf.1.foldl joined "", leaf.2)

/-- The table after some leaves, recorded one after another. -/
theorem describes_foldl_recordLeaf (found : List (List String × String)) :
    (found.foldl (recordLeaf "") Table.empty).Describes "text"
      (found.map fun leaf => (leaf.1.foldl joined "", leaf.2)) := by
  have hEmpty : (Table.empty : Fields).Describes "text" [] := .empty "text"
  have hFold := hEmpty.foldl (found.map fun leaf => (leaf.1.foldl joined "", leaf.2))
  rw [foldl_map] at hFold
  exact hFold

theorem mergeIndices_eq (mapping : Json) :
    mergeIndices mapping = (allLeaves mapping.members).foldl (recordLeaf "") Table.empty := by
  cases mapping with
  | object indices =>
    unfold mergeIndices
    dsimp only [Json.asObject]
    split
    · exact foldl_mergeIndex indices .empty
    next hNone =>
        have hLeaves : allLeaves indices = [] := by
          refine flatMap_eq_nil_iff.mpr fun index hIndex => ?_
          cases hMappings : index.2.field? "mappings" with
          | none => rw [propertiesOf, hMappings]; rfl
          | some mappings => exact absurd (any_eq_true.mpr ⟨index, hIndex, by rw [hMappings]; rfl⟩) hNone
        change _ = (allLeaves indices).foldl _ _
        rw [hLeaves]
        rfl
  | _ => rfl

variable {mapping : Json}

/-- The parser of a response made of entries for indices. -/
theorem parseMapping_describes (h : PerIndex mapping) : ∃ fields : Fields, parseMapping mapping = fields.entries ∧
      fields.Describes "text" (occurrences mapping.members) := by
  obtain ⟨indices, rfl, hEntries⟩ := h
  refine ⟨_, ?_, describes_foldl_recordLeaf (allLeaves indices)⟩
  have hElsewhere : propertiesOf (.object indices) = none := by
    unfold propertiesOf
    cases hIndex : (Json.object indices).field? "mappings" with
    | none => rfl
    | some index => simpa using (hEntries _ (Json.mem_of_lookup hIndex)).2
  unfold parseMapping
  simp only [hElsewhere, ite_self]
  exact congrArg Table.entries (mergeIndices_eq (.object indices))

/-- The type that the fields have for a path. -/
theorem labelAt_parseMapping (h : PerIndex mapping) (path : String) :
    labelAt (parseMapping mapping) path = summary "text" (labelsOf path (occurrences mapping.members)) := by
  obtain ⟨fields, hFields, hDescribes⟩ := parseMapping_describes h
  rw [hFields]
  exact hDescribes.labelAt_eq path

/-- The fields as a map from paths to types do not depend on the order of
members anywhere in the response. -/
theorem labelAt_parseMapping_reorder {mapping' : Json} (hIndices : PerIndex mapping) (hDistinct : mapping.Distinct)
    (h : Relation.ReflTransGen Json.Reorder mapping mapping') :
    PerIndex mapping' ∧ mapping'.Distinct ∧
      ∀ path, labelAt (parseMapping mapping') path = labelAt (parseMapping mapping) path := by
  induction h with
  | refl => exact ⟨hIndices, hDistinct, fun _ => rfl⟩
  | tail _ hStep ih =>
    obtain ⟨hMiddle, hMiddleDistinct, hSame⟩ := ih
    obtain ⟨hAfter, hPerm⟩ := allLeaves_reorder hStep hMiddleDistinct hMiddle
    refine ⟨hAfter, hStep.distinct hMiddleDistinct, fun path => ?_⟩
    rw [← hSame, labelAt_parseMapping hAfter, labelAt_parseMapping hMiddle]
    refine summary_congr fun label => ?_
    rw [mem_labelsOf, mem_labelsOf]
    exact (hPerm.map _).symm.mem_iff

end Parsing

section Paths

/-- Names joined by dots. -/
def dotted : List String → String
  | [] => ""
  | [name] => name
  | name :: rest => name ++ "." ++ dotted rest

variable {outer : String} {names : List String}

theorem joined_of_ne (h : outer ≠ "") (name : String) : joined outer name = outer ++ "." ++ name := by
  have hEmpty : outer.isEmpty = false := by simpa [String.isEmpty_iff] using h
  rw [joined, hEmpty]
  rfl

theorem foldl_joined_of_ne (h : outer ≠ "") (names : List String) :
    names.foldl joined outer = dotted (outer :: names) := by
  induction names generalizing outer with
  | nil => rfl
  | cons name rest ih =>
    have hNext : outer ++ "." ++ name ≠ "" := by simp [h]
    rw [foldl_cons, joined_of_ne h, ih hNext]
    cases rest with
    | nil => rfl
    | cons next rest => simp [dotted, String.append_assoc]

/-- The parser joins names by dots, except that it forgets the dot after an
empty name at the top. -/
theorem foldl_joined (h : ∀ rest, names = "" :: rest → rest = []) : names.foldl joined "" = dotted names := by
  cases names with
  | nil => rfl
  | cons name rest =>
    change rest.foldl joined name = _
    by_cases hName : name = ""
    · subst hName
      rw [h rest rfl]
      rfl
    · exact foldl_joined_of_ne hName rest

/-- A text that begins with a dot. -/
def BeginsWithDot (text : String) : Prop := text.toList.head? = some '.'

instance decidableBeginsWithDot (text : String) : Decidable (BeginsWithDot text) := inferInstanceAs (Decidable (_ = _))

/-- Without names that begin with a dot, no path of the parser begins with one. -/
theorem not_beginsWithDot_foldl (hOuter : ¬BeginsWithDot outer) (h : ∀ name ∈ names, ¬BeginsWithDot name) :
    ¬BeginsWithDot (names.foldl joined outer) := by
  induction names generalizing outer with
  | nil => exact hOuter
  | cons name rest ih =>
    refine ih ?_ fun other hOther => h other (mem_cons_of_mem _ hOther)
    by_cases hEmpty : outer = ""
    · subst hEmpty
      exact h name (mem_cons_self ..)
    · rw [joined_of_ne hEmpty]
      unfold BeginsWithDot at hOuter ⊢
      have hSome : outer.toList ≠ [] := by simpa using hEmpty
      obtain ⟨first, chars, hChars⟩ := exists_cons_of_ne_nil hSome
      rw [String.toList_append, String.toList_append, hChars]
      rw [hChars] at hOuter
      exact hOuter

theorem beginsWithDot_dotted {rest : List String} (h : rest ≠ []) : BeginsWithDot (dotted ("" :: rest)) := by
  obtain ⟨name, rest, rfl⟩ := exists_cons_of_ne_nil h
  unfold BeginsWithDot
  rw [dotted, String.toList_append, String.toList_append]
  · rfl
  · nofun

end Paths

section Merging

/-- Some index has a leaf of the type at the dotted path. -/
def Occurs (mapping : Json) (path esType : String) : Prop :=
  ∃ index ∈ mapping.members, ∃ properties, propertiesOf index.2 = some properties ∧
    ∃ names, Leaf properties names esType ∧ path = dotted names

/-- The fields are the paths of the leaves, each with the common type of its
leaves, or as text when they have none in common. -/
structure Exact (mapping : Json) (fields : List EsMappingField) : Prop where
  occurs : ∀ path, (∃ field ∈ fields, field.path = path) ↔ ∃ esType, Occurs mapping path esType
  agreed : ∀ field ∈ fields, ∀ esType, (∀ other, Occurs mapping field.path other → other = esType) →
    field.esType = esType
  mixed : ∀ field ∈ fields, ∀ first second, Occurs mapping field.path first →
    Occurs mapping field.path second → first ≠ second → field.esType = "text"

/-- The names on the way to some leaf of some index. -/
def LeafNames (mapping : Json) (names : List String) : Prop :=
  ∃ index ∈ mapping.members, ∃ properties, propertiesOf index.2 = some properties ∧
    ∃ esType, Leaf properties names esType

/-- No leaf is inside a property at the top that has the empty name. -/
def NamedAtTop (mapping : Json) : Prop :=
  ∀ names, LeafNames mapping names → ∀ rest, names = "" :: rest → rest = []

variable {names : List String} {mapping : Json}

theorem mem_allLeaves {indices : Members} {esType : String} :
    (names, esType) ∈ allLeaves indices ↔ ∃ index ∈ indices, ∃ properties,
      propertiesOf index.2 = some properties ∧ Leaf properties names esType := by
  rw [allLeaves, mem_flatMap]
  refine exists_congr fun index => and_congr_right fun _ => ?_
  cases propertiesOf index.2 with
  | none => simp
  | some properties => simp [mem_leaves]

theorem occurs_iff {path esType : String} :
    Occurs mapping path esType ↔ ∃ names, (names, esType) ∈ allLeaves mapping.members ∧ path = dotted names := by
  simp only [mem_allLeaves, Occurs]
  constructor
  · rintro ⟨index, hIndex, properties, hProperties, names, hLeaf, hPath⟩
    exact ⟨names, ⟨index, hIndex, properties, hProperties, hLeaf⟩, hPath⟩
  · rintro ⟨names, ⟨index, hIndex, properties, hProperties, hLeaf⟩, hPath⟩
    exact ⟨index, hIndex, properties, hProperties, names, hLeaf, hPath⟩

theorem leafNames_of_mem {esType : String} (h : (names, esType) ∈ allLeaves mapping.members) :
    LeafNames mapping names := by
  obtain ⟨index, hIndex, properties, hProperties, hLeaf⟩ := mem_allLeaves.mp h
  exact ⟨index, hIndex, properties, hProperties, esType, hLeaf⟩

theorem namedAtTop_iff :
    NamedAtTop mapping ↔ ∀ leaf ∈ allLeaves mapping.members, leaf.1.head? = some "" → leaf.1.tail = [] := by
  constructor
  · rintro h ⟨names, esType⟩ hLeaf hHead
    obtain ⟨rest, rfl⟩ := head?_eq_some_iff.mp hHead
    exact h _ (leafNames_of_mem hLeaf) rest rfl
  · rintro h names ⟨index, hIndex, properties, hProperties, esType, hLeaf⟩ rest rfl
    exact h _ (mem_allLeaves.mpr ⟨index, hIndex, properties, hProperties, hLeaf⟩) rfl

instance decidableNamedAtTop (mapping : Json) : Decidable (NamedAtTop mapping) :=
  decidable_of_iff _ namedAtTop_iff.symm

theorem mem_occurrences (h : NamedAtTop mapping) {path esType : String} :
    (path, esType) ∈ occurrences mapping.members ↔ Occurs mapping path esType := by
  rw [occurrences, mem_map, occurs_iff]
  constructor
  · rintro ⟨⟨names, found⟩, hLeaf, hSame⟩
    obtain ⟨rfl, rfl⟩ := Prod.mk.inj hSame
    exact ⟨names, hLeaf, foldl_joined (h names (leafNames_of_mem hLeaf))⟩
  · rintro ⟨names, hLeaf, rfl⟩
    exact ⟨(names, esType), hLeaf, Prod.ext (foldl_joined (h names (leafNames_of_mem hLeaf))) rfl⟩

theorem exact_of_namedAtTop (hIndices : PerIndex mapping) (h : NamedAtTop mapping) :
    Exact mapping (parseMapping mapping) := by
  obtain ⟨fields, hFields, hDescribes⟩ := parseMapping_describes hIndices
  rw [hFields]
  refine ⟨fun path => ⟨?_, ?_⟩, fun field hField esType hAgree => ?_,
    fun field hField first second hFirst hSecond => ?_⟩
  · rintro ⟨field, hField, rfl⟩
    obtain ⟨esType, hType⟩ := hDescribes.exists_label hField
    exact ⟨esType, (mem_occurrences h).mp hType⟩
  · rintro ⟨esType, hOccurs⟩
    exact mem_map.mp (hDescribes.keys path esType ((mem_occurrences h).mpr hOccurs))
  · exact hDescribes.label_of_agree hField fun other hOther => hAgree other ((mem_occurrences h).mp hOther)
  · exact hDescribes.label_of_disagree hField ((mem_occurrences h).mpr hFirst) ((mem_occurrences h).mpr hSecond)

theorem namedAtTop_of_exact (hIndices : PerIndex mapping)
    (hDots : ∀ names, LeafNames mapping names → ∀ name ∈ names, ¬BeginsWithDot name)
    (h : Exact mapping (parseMapping mapping)) : NamedAtTop mapping := by
  rintro names ⟨index, hIndex, properties, hProperties, esType, hLeaf⟩ rest rfl
  by_contra hRest
  have hOccurs : Occurs mapping (dotted ("" :: rest)) esType :=
    ⟨index, hIndex, properties, hProperties, _, hLeaf, rfl⟩
  obtain ⟨field, hField, hPath⟩ := (h.occurs _).mpr ⟨esType, hOccurs⟩
  obtain ⟨fields, hFields, hDescribes⟩ := parseMapping_describes hIndices
  rw [hFields] at hField
  -- the field comes from a leaf, and the parser's path of a leaf begins with no dot
  obtain ⟨found, hFound⟩ := hDescribes.exists_label hField
  obtain ⟨⟨names, _⟩, hNames, hSame⟩ := mem_map.mp hFound
  obtain ⟨hJoined, -⟩ := Prod.mk.inj hSame
  have hTop : ¬BeginsWithDot "" := by decide
  have hStart := not_beginsWithDot_foldl hTop (hDots names (leafNames_of_mem hNames))
  change names.foldl joined "" = field.path at hJoined
  rw [hJoined, hPath] at hStart
  exact hStart (beginsWithDot_dotted hRest)

end Merging

/-- For every response made of entries for indices, whose objects bind each name
once: the fields have different paths, and as a map from paths to types they do
not depend on the order of members. They are exactly the leaves by their dotted
paths if no leaf is inside a property at the top with the empty name, and only
then where no name begins with a dot. -/
theorem mapping_exact_iff (mapping : Json) (hIndices : PerIndex mapping) (hDistinct : mapping.Distinct) :
    ((parseMapping mapping).map EsMappingField.path).Nodup ∧
    (∀ mapping', Relation.ReflTransGen Json.Reorder mapping mapping' →
      ∀ path, labelAt (parseMapping mapping') path = labelAt (parseMapping mapping) path) ∧
    (NamedAtTop mapping → Exact mapping (parseMapping mapping)) ∧
    ((∀ names, LeafNames mapping names → ∀ name ∈ names, ¬BeginsWithDot name) →
      (Exact mapping (parseMapping mapping) ↔ NamedAtTop mapping)) := by
  refine ⟨?_, fun mapping' h => (labelAt_parseMapping_reorder hIndices hDistinct h).2.2,
    exact_of_namedAtTop hIndices, fun hDots => ⟨namedAtTop_of_exact hIndices hDots, exact_of_namedAtTop hIndices⟩⟩
  obtain ⟨fields, hFields, hDescribes⟩ := parseMapping_describes hIndices
  rw [hFields]
  exact hDescribes.nodup

section Samples

/-- A property with a type. -/
def typed (esType : String) : Json := .object [("type", .string esType)]

def ofProperties (members : Members) : Json := .object [("properties", .object members)]

/-- Two indices that have a nested field in common, with different types. -/
def sampleMapping : Json := .object
  [("a", .object [("mappings", ofProperties
      [("user", ofProperties [("name", typed "keyword")]), ("title", typed "text")])]),
    ("b", .object [("mappings", ofProperties [("user", ofProperties [("name", typed "long")])])])]

/-- A keyword inside a property with the empty name, and a number beside it. -/
def unnamedMapping : Json := .object
  [("a", .object [("mappings", ofProperties [("", ofProperties [("a", typed "keyword")]), ("a", typed "long")])])]

/-- The number is taken for the keyword, and both become one text. -/
theorem unnamed_property_merged :
    parseMapping unnamedMapping = [⟨"a", "text"⟩] ∧ ¬Exact unnamedMapping (parseMapping unnamedMapping) := by
  have hFields : parseMapping unnamedMapping = [⟨"a", "text"⟩] := by decide +kernel
  refine ⟨hFields, fun hExact => ?_⟩
  have hOccurs : Occurs unnamedMapping ".a" "keyword" := by
    refine ⟨_, mem_cons_self .., _, rfl, ["", "a"], ?_, rfl⟩
    exact .inside (mem_cons_self ..) rfl (.here (mem_cons_self ..) rfl rfl)
  obtain ⟨field, hField, hPath⟩ := (hExact.occurs ".a").mpr ⟨_, hOccurs⟩
  rw [hFields] at hField
  rw [mem_singleton.mp hField] at hPath
  exact absurd hPath (by decide)

theorem sampleMapping_perIndex : PerIndex sampleMapping :=
  ⟨_, rfl, by decide +kernel⟩

theorem mapping_exact_sample : parseMapping sampleMapping = [⟨"user.name", "text"⟩, ⟨"title", "text"⟩] ∧
      Exact sampleMapping (parseMapping sampleMapping) := by
  obtain ⟨-, -, hExact, -⟩ := mapping_exact_iff sampleMapping sampleMapping_perIndex (by decide +kernel)
  exact ⟨by decide +kernel, hExact (by decide +kernel)⟩

end Samples

end DataConnectHub.Elasticsearch
