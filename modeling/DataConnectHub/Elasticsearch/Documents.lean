import DataConnectHub.Connectors.JsonBatches
import DataConnectHub.Elasticsearch.Mapping

/-! Documents of Elasticsearch. A column is read from documents by the path of
its field: the path is split at its dots, and each part is looked up in the
object found so far. For the paths of a mapping that is the way to a leaf. -/
namespace DataConnectHub.Elasticsearch

open Serde Arrow Labels Flight Connectors List

/-- `path.split('.')`. -/
def segments (path : String) : List String :=
  (path.toList.splitOn '.').map String.ofList

def resolvePath (value : Json) (path : String) : Option Json :=
  (segments path).foldlM (fun current segment => current.field? segment) value

/-- What a hit has at a path of its source. -/
def hitValue (fieldPath : String) (hit : Json) : Option Json :=
  (hit.field? "_source").bind fun source => resolvePath source fieldPath

def extractColumnFromHits (library : ConvertLibrary) (fieldPath : String) (dataType : DataType) (hits : List Json) :
    Except ConnectorError ArrayRef :=
  jsonValuesToArray library fieldPath dataType (hits.map (hitValue fieldPath))

def hitsToRecordBatch (library : ConvertLibrary) (schema : Schema) (hits : List Json) :
    Except ConnectorError Arrow.RecordBatch :=
  jsonRecordBatch library schema fun field => extractColumnFromHits library field.name field.dataType hits

theorem convertible_esTypeToArrow (esType : String) : Convertible (esTypeToArrow esType) := by
  unfold esTypeToArrow
  repeat' split
  all_goals trivial

theorem jsonSchema_mappingFieldsToSchema (fields : List EsMappingField) :
    JsonSchema (mappingFieldsToSchema fields) := by
  constructor <;> intro field hField <;> obtain ⟨source, -, rfl⟩ := mem_map.mp hField
  · exact convertible_esTypeToArrow source.esType
  · rfl

section Segments

/-- A name that is not empty and has no dot. -/
def PlainName (name : String) : Prop := name ≠ "" ∧ '.' ∉ name.toList

instance decidablePlainName (name : String) : Decidable (PlainName name) := inferInstanceAs (Decidable (_ ∧ _))

theorem toList_dotted (names : List String) : (dotted names).toList = ['.'].intercalate (names.map String.toList) := by
  induction names with
  | nil => rfl
  | cons name rest ih =>
    cases rest with
    | nil => simp [dotted]
    | cons next rest =>
      rw [dotted, String.toList_append, String.toList_append, ih]
      · simp [intercalate]
      · exact cons_ne_nil next rest

/-- Names without dots are what a path is split into. -/
theorem segments_dotted {names : List String} (hSome : names ≠ []) (h : ∀ name ∈ names, '.' ∉ name.toList) :
    segments (dotted names) = names := by
  have hParts : ∀ part ∈ names.map String.toList, '.' ∉ part := by
    intro part hPart
    obtain ⟨name, hName, rfl⟩ := mem_map.mp hPart
    exact h name hName
  rw [segments, toList_dotted, splitOn_intercalate '.' hParts (by simpa using hSome), map_map]
  simp

end Segments

section Trees

/-- The trees of properties in a mapping response, which may be the mapping of
an index itself. -/
def TreeOf (mapping properties : Json) : Prop :=
  (∃ index ∈ mapping.members, propertiesOf index.2 = some properties) ∨ propertiesOf mapping = some properties

/-- The names on the way to leaves are plain. -/
def PlainNames (mapping : Json) : Prop :=
  ∀ properties, TreeOf mapping properties → ∀ names esType, Leaf properties names esType →
    ∀ name ∈ names, PlainName name

variable {mapping : Json} {names : List String}

theorem plainNames_iff : PlainNames mapping ↔
    ∀ leaf ∈ allLeaves mapping.members ++ ((propertiesOf mapping).map leaves).getD [],
      ∀ name ∈ leaf.1, PlainName name := by
  constructor
  · rintro h ⟨names, esType⟩ hLeaf
    rcases mem_append.mp hLeaf with hLeaf | hLeaf
    · obtain ⟨index, hIndex, properties, hProperties, hLeaf⟩ := mem_allLeaves.mp hLeaf
      exact h properties (.inl ⟨index, hIndex, hProperties⟩) names esType hLeaf
    · cases hTop : propertiesOf mapping with
      | none =>
        rw [hTop] at hLeaf
        cases hLeaf
      | some properties =>
        rw [hTop] at hLeaf
        exact h properties (.inr hTop) names esType (mem_leaves.mp hLeaf)
  · rintro h properties (⟨index, hIndex, hProperties⟩ | hTop) names esType hLeaf
    · exact h _ (mem_append_left _ (mem_allLeaves.mpr ⟨index, hIndex, properties, hProperties, hLeaf⟩))
    · refine h (names, esType) (mem_append_right _ ?_)
      rw [hTop]
      exact mem_leaves.mpr hLeaf

instance decidablePlainNames (mapping : Json) : Decidable (PlainNames mapping) :=
  decidable_of_iff _ plainNames_iff.symm

theorem Leaf.names_ne_nil {properties : Json} {esType : String} (h : Leaf properties names esType) : names ≠ [] := by
  cases h <;> nofun

/-- The parser records the leaves of the indices, and then perhaps those of a
tree at the top. -/
theorem parseMapping_eq (mapping : Json) : ∃ top,
    parseMapping mapping = ((allLeaves mapping.members ++ top).foldl (recordLeaf "") Table.empty).entries ∧
      ∀ leaf ∈ top, ∃ properties, propertiesOf mapping = some properties ∧ leaf ∈ leaves properties := by
  have hIndices : ∃ top, (mergeIndices mapping).entries =
      ((allLeaves mapping.members ++ top).foldl (recordLeaf "") Table.empty).entries ∧
      ∀ leaf ∈ top, ∃ properties, propertiesOf mapping = some properties ∧ leaf ∈ leaves properties :=
    ⟨[], by rw [mergeIndices_eq, append_nil], nofun⟩
  unfold parseMapping
  dsimp only
  split
  · cases hTop : propertiesOf mapping with
    | none => rwa [hTop] at hIndices
    | some properties =>
      refine ⟨leaves properties, ?_, fun leaf hLeaf => ⟨properties, rfl, hLeaf⟩⟩
      dsimp only
      rw [mergeProperties_eq, mergeIndices_eq, foldl_append]
  · exact hIndices

/-- A path of the parser is that of a leaf. -/
theorem exists_leaf_of_mem_parseMapping {field : EsMappingField} (h : field ∈ parseMapping mapping) :
    ∃ properties, TreeOf mapping properties ∧ ∃ names esType, Leaf properties names esType ∧
      field.path = names.foldl joined "" := by
  obtain ⟨top, hParsed, hTop⟩ := parseMapping_eq mapping
  rw [hParsed] at h
  obtain ⟨esType, hOccurs⟩ := (describes_foldl_recordLeaf _).exists_label h
  obtain ⟨⟨names, found⟩, hLeaf, hSame⟩ := mem_map.mp hOccurs
  have hPath : names.foldl joined "" = field.path := congrArg Prod.fst hSame
  rcases mem_append.mp hLeaf with hIndex | hOther
  · obtain ⟨index, hIndex, properties, hProperties, hLeaf⟩ := mem_allLeaves.mp hIndex
    exact ⟨properties, .inl ⟨index, hIndex, hProperties⟩, names, found, hLeaf, hPath.symm⟩
  · obtain ⟨properties, hProperties, hLeaf⟩ := hTop _ hOther
    exact ⟨properties, .inr hProperties, names, found, mem_leaves.mp hLeaf, hPath.symm⟩

theorem foldl_joined_of_plain (h : ∀ name ∈ names, PlainName name) : names.foldl joined "" = dotted names :=
  foldl_joined fun rest hNames => absurd rfl (h "" (by simp [hNames])).1

end Trees

section Following

/-- A document of nested objects that follows a tree: the value of a property
that has properties itself is again such an object. -/
inductive Follows : Json → Json → Prop where
  | object {properties : Json} {members : Members}
      (h : ∀ name property sub value, (name, property) ∈ properties.members →
        property.field? "properties" = some sub → (name, value) ∈ members → Follows sub value) :
      Follows properties (.object members)

/-- The value at the end of a way through objects. -/
inductive Stored : Json → List String → Json → Prop where
  | here {value : Json} : Stored value [] value
  | inside {members : Members} {name : String} {inner value : Json} {names : List String}
      (hMember : (name, inner) ∈ members) (h : Stored inner names value) :
      Stored (.object members) (name :: names) value

/-- Some object on the way does not have the next name. -/
inductive Absent : Json → List String → Prop where
  | here {members : Members} {name : String} {names : List String}
      (h : name ∉ members.map Prod.fst) : Absent (.object members) (name :: names)
  | inside {members : Members} {name : String} {inner : Json} {names : List String}
      (hMember : (name, inner) ∈ members) (h : Absent inner names) : Absent (.object members) (name :: names)

variable {document : Json} {names : List String}

/-- Looking up one name after another ends at the value that is stored there. -/
theorem foldlM_field?_eq_some_iff {value : Json} (hDistinct : document.Distinct) :
    names.foldlM (fun current segment => current.field? segment) document = some value ↔
      Stored document names value := by
  induction names generalizing document with
  | nil =>
    rw [foldlM_nil]
    constructor
    · rintro ⟨⟩
      exact .here
    · rintro ⟨⟩
      rfl
  | cons name names ih =>
    rw [foldlM_cons, Option.bind_eq_bind, Option.bind_eq_some_iff]
    constructor
    · rintro ⟨inner, hInner, hRest⟩
      cases document with
      | object members =>
        exact .inside (Json.mem_of_lookup hInner) ((ih (hDistinct.field? hInner)).mp hRest)
      | _ => cases hInner
    · rintro (⟨⟩ | @⟨members, _, inner, _, _, hMember, hStored⟩)
      have hNames : (members.map Prod.fst).Nodup := by
        rw [Json.Distinct] at hDistinct
        exact hDistinct.1
      have hInner : (Json.object members).field? name = some inner :=
        (Json.lookup_eq_some_iff_mem hNames).mpr hMember
      exact ⟨inner, hInner, (ih (hDistinct.field? hInner)).mpr hStored⟩

theorem absent_cons_iff {members : Members} {name : String} : Absent (.object members) (name :: names) ↔
      name ∉ members.map Prod.fst ∨ ∃ inner, (name, inner) ∈ members ∧ Absent inner names := by
  constructor
  · rintro (hMissing | @⟨_, _, inner, _, hMember, h⟩)
    · exact .inl hMissing
    · exact .inr ⟨inner, hMember, h⟩
  · rintro (hMissing | ⟨inner, hMember, h⟩)
    · exact .here hMissing
    · exact .inside hMember h

theorem foldlM_field?_cons_eq_none_iff {members : Members} (hNames : (members.map Prod.fst).Nodup) {name : String} :
    (name :: names).foldlM (fun current segment => current.field? segment) (Json.object members) = none ↔
      name ∉ members.map Prod.fst ∨ ∃ inner, (name, inner) ∈ members ∧
        names.foldlM (fun current segment => current.field? segment) inner = none := by
  rw [foldlM_cons]
  change ((members.lookup name).bind _) = none ↔ _
  cases hFound : members.lookup name with
  | none =>
    refine iff_of_true rfl (.inl fun hName => ?_)
    obtain ⟨⟨_, inner⟩, hMember, rfl⟩ := mem_map.mp hName
    rw [(Json.lookup_eq_some_iff_mem hNames).mpr hMember] at hFound
    cases hFound
  | some found =>
    have hMember := Json.mem_of_lookup hFound
    constructor
    · exact fun h => .inr ⟨found, hMember, h⟩
    · rintro (hMissing | ⟨inner, hInner, h⟩)
      · exact absurd (mem_map.mpr ⟨_, hMember, rfl⟩) hMissing
      · rw [(Json.lookup_eq_some_iff_mem hNames).mpr hInner] at hFound
        rwa [← Option.some.inj hFound]

/-- On the way to a leaf, a lookup fails only where a name is absent. -/
theorem foldlM_field?_eq_none_iff {properties : Json} {esType : String} (hLeaf : Leaf properties names esType)
    (hFollows : Follows properties document) (hDistinct : document.Distinct) :
    names.foldlM (fun current segment => current.field? segment) document = none ↔ Absent document names := by
  induction hLeaf generalizing document with
  | here hProperty hEnd hType =>
    obtain @⟨_, members, -⟩ := hFollows
    rw [Json.Distinct] at hDistinct
    rw [foldlM_field?_cons_eq_none_iff hDistinct.1, absent_cons_iff]
    refine or_congr_right (exists_congr fun inner => and_congr_right fun _ => ?_)
    refine iff_of_false (Option.some_ne_none inner) fun hAbsent => ?_
    cases hAbsent
  | inside hProperty hSub _ ih =>
    obtain @⟨_, members, hInner⟩ := hFollows
    rw [Json.Distinct, Json.distinctMembers_iff] at hDistinct
    rw [foldlM_field?_cons_eq_none_iff hDistinct.1, absent_cons_iff]
    refine or_congr_right (exists_congr fun inner => and_congr_right fun hMember => ?_)
    exact ih (hInner _ _ _ _ hProperty hSub hMember) (hDistinct.2 _ hMember)

end Following

/-- For every mapping response with plain names, a path of the parser belongs to
just one way to a leaf. In every document that follows a tree with this leaf,
the path resolves to the value stored at the end of the way, and to nothing
just if an object on the way does not have the next name. -/
theorem paths_find_values (mapping : Json) (hPlain : PlainNames mapping) (field : EsMappingField)
    (hField : field ∈ parseMapping mapping) :
    ∃ names, field.path = dotted names ∧
      (∃ properties esType, TreeOf mapping properties ∧ Leaf properties names esType) ∧
      (∀ properties other esType, TreeOf mapping properties → Leaf properties other esType →
        field.path = dotted other → other = names) ∧
      ∀ properties esType document, TreeOf mapping properties → Leaf properties names esType →
        Follows properties document → document.Distinct →
        (∀ value, resolvePath document field.path = some value ↔ Stored document names value) ∧
        (resolvePath document field.path = none ↔ Absent document names) := by
  obtain ⟨properties, hTree, names, esType, hLeaf, hPath⟩ := exists_leaf_of_mem_parseMapping hField
  have hDotted : field.path = dotted names := hPath.trans (foldl_joined_of_plain (hPlain _ hTree _ _ hLeaf))
  have hSegments {properties other esType} (hTree : TreeOf mapping properties)
      (hLeaf : Leaf properties other esType) : segments (dotted other) = other :=
    segments_dotted hLeaf.names_ne_nil fun name hName => (hPlain _ hTree _ _ hLeaf name hName).2
  refine ⟨names, hDotted, ⟨properties, esType, hTree, hLeaf⟩, ?_, ?_⟩
  · intro properties' other esType' hTree' hLeaf' hOther
    rw [← hSegments hTree' hLeaf', ← hOther, hDotted, hSegments hTree hLeaf]
  · intro properties' esType' document hTree' hLeaf' hFollows hDistinct
    unfold resolvePath
    rw [hDotted, hSegments hTree hLeaf]
    exact ⟨fun value => foldlM_field?_eq_some_iff hDistinct, foldlM_field?_eq_none_iff hLeaf' hFollows hDistinct⟩

section Samples

/-- A document of the first index, without a title. -/
def sampleDocument : Json := .object [("user", .object [("name", .string "Alice")])]

theorem sampleDocument_follows : Follows (.object
    [("user", ofProperties [("name", typed "keyword")]), ("title", typed "text")]) sampleDocument := by
  refine .object fun name property sub value hProperty hSub hMember => ?_
  obtain ⟨rfl, rfl⟩ := Prod.mk.inj (mem_singleton.mp hMember)
  rcases mem_cons.mp hProperty with hUser | hTitle
  · cases hUser
    cases hSub
    refine .object fun name property sub value hProperty hSub _ => ?_
    cases mem_singleton.mp hProperty
    cases hSub
  · have hSame : "user" = "title" := congrArg Prod.fst (mem_singleton.mp hTitle)
    exact absurd hSame (by decide)

theorem paths_find_values_sample :
    resolvePath sampleDocument "user.name" = some (.string "Alice") ∧ resolvePath sampleDocument "title" = none := by
  have hTree : TreeOf sampleMapping (.object
      [("user", ofProperties [("name", typed "keyword")]), ("title", typed "text")]) :=
    .inl ⟨_, mem_cons_self .., rfl⟩
  have hName : Leaf (.object [("user", ofProperties [("name", typed "keyword")]), ("title", typed "text")])
      ["user", "name"] "keyword" :=
    .inside (mem_cons_self ..) rfl (.here (mem_cons_self ..) rfl rfl)
  have hTitle : Leaf (.object [("user", ofProperties [("name", typed "keyword")]), ("title", typed "text")])
      ["title"] "text" :=
    .here (mem_cons_of_mem _ (mem_cons_self ..)) rfl rfl
  constructor
  · obtain ⟨names, -, -, hOnly, hFound⟩ :=
      paths_find_values sampleMapping (by decide +kernel) ⟨"user.name", "text"⟩ (by decide +kernel)
    obtain rfl := hOnly _ _ _ hTree hName rfl
    refine ((hFound _ _ _ hTree hName sampleDocument_follows (by decide +kernel)).1 _).mpr ?_
    exact .inside (mem_cons_self ..) (.inside (mem_cons_self ..) .here)
  · obtain ⟨names, -, -, hOnly, hFound⟩ :=
      paths_find_values sampleMapping (by decide +kernel) ⟨"title", "text"⟩ (by decide +kernel)
    obtain rfl := hOnly _ _ _ hTree hTitle rfl
    exact (hFound _ _ _ hTree hTitle sampleDocument_follows (by decide +kernel)).2.mpr (.here (by decide))

end Samples

end DataConnectHub.Elasticsearch
