import DataConnectHub.Milvus.Schema
import Mathlib.Data.List.Nodup

/-! The columns of a Milvus schema. A query may name its fields in any way, with
names that occur twice or nowhere, and with a wildcard beside them. -/
namespace DataConnectHub.Milvus

open Arrow List

def describedNames (descs : List MilvusFieldDesc) : List String :=
  descs.map MilvusFieldDesc.name

/-- The fields that a query asks for. -/
def Requested (desc : MilvusFieldDesc) : Option (List String) → Prop
  | some fields => desc.name ∈ fields ∨ "*" ∈ fields
  | none => isVectorType desc.fieldType = false

/-- Distinct columns, with every field that is asked for and one score. -/
structure WellFormed (descs : List MilvusFieldDesc) (outputFields : Option (List String))
    (operation : MilvusOperation) (schema : Schema) : Prop where
  distinct : (schema.fields.map Arrow.Field.name).Nodup
  described : ∀ desc ∈ descs, Requested desc outputFields →
    ∃ field ∈ schema.fields, field.name = desc.name ∧ field.dataType = milvusTypeToArrow desc.fieldType
  score : operation = .search → (schema.fields.map Arrow.Field.name).count "distance" = 1
  scoreType : operation = .search → "distance" ∉ describedNames descs →
    ∀ field ∈ schema.fields, field.name = "distance" → field.dataType = .float64

/-- No name is given twice, and a wildcard that stands for any field stands once
and not beside the name of such a field. -/
structure NamedOnce (descs : List MilvusFieldDesc) (fields : List String) : Prop where
  names : (fields.filter (· ≠ "*")).Nodup
  wildcard : "*" ∈ fields → descs ≠ [] →
    fields.count "*" = 1 ∧ ∀ name ∈ fields, name ≠ "*" → name ∉ describedNames descs

/-- What a query has to respect for its schema to be well formed. A search must
not name the score itself, unless the collection has a field of that name. -/
def Orderly (descs : List MilvusFieldDesc) (outputFields : Option (List String)) (operation : MilvusOperation) : Prop :=
  ∀ fields, outputFields = some fields → NamedOnce descs fields ∧
    (operation = .search → "distance" ∈ fields → "distance" ∈ describedNames descs)

section Names

variable {descs : List MilvusFieldDesc} {fields : List String}

theorem mem_expandedFields {name : String} : name ∈ expandedFields descs fields ↔
      ("*" ∈ fields ∧ name ∈ describedNames descs) ∨ (name ≠ "*" ∧ name ∈ fields) := by
  rw [expandedFields, mem_flatMap]
  constructor
  · rintro ⟨first, hFirst, hName⟩
    split at hName
    · rename_i hWildcard
      exact .inl ⟨hWildcard ▸ hFirst, hName⟩
    · rename_i hWildcard
      obtain rfl := mem_singleton.mp hName
      exact .inr ⟨hWildcard, hFirst⟩
  · rintro (⟨hWildcard, hName⟩ | ⟨hOther, hName⟩)
    · exact ⟨"*", hWildcard, hName⟩
    · exact ⟨name, hName, by rw [if_neg hOther]; exact mem_singleton_self name⟩

theorem namedOnce_wildcard : NamedOnce descs fields ∧ (describedNames descs).Disjoint (expandedFields descs fields) ↔
      NamedOnce descs ("*" :: fields) := by
  constructor
  · rintro ⟨h, hDisjoint⟩
    refine ⟨by simpa using h.names, fun _ hSome => ?_⟩
    obtain ⟨desc, hDesc⟩ := exists_mem_of_ne_nil descs hSome
    have hFresh : "*" ∉ fields := fun hWildcard =>
      hDisjoint (mem_map_of_mem hDesc) (mem_expandedFields.mpr (.inl ⟨hWildcard, mem_map_of_mem hDesc⟩))
    refine ⟨by simp [count_eq_zero_of_not_mem hFresh], fun name hName hOther hDescribed => ?_⟩
    have hField := (mem_cons.mp hName).resolve_left hOther
    exact hDisjoint hDescribed (mem_expandedFields.mpr (.inr ⟨hOther, hField⟩))
  · intro h
    have hFresh : descs ≠ [] → "*" ∉ fields := by
      intro hSome hWildcard
      have hCount := (h.wildcard (mem_cons_self ..) hSome).1
      have hPositive := count_pos_iff.mpr hWildcard
      rw [count_cons_self] at hCount
      omega
    refine ⟨⟨by simpa using h.names, fun hWildcard hSome => absurd hWildcard (hFresh hSome)⟩, ?_⟩
    intro name hDescribed hName
    have hSome : descs ≠ [] := by
      rintro rfl
      cases hDescribed
    rcases mem_expandedFields.mp hName with ⟨hWildcard, -⟩ | ⟨hOther, hField⟩
    · exact hFresh hSome hWildcard
    · exact (h.wildcard (mem_cons_self ..) hSome).2 name (mem_cons_of_mem _ hField) hOther hDescribed

theorem namedOnce_name {first : String} (hFirst : first ≠ "*") :
    NamedOnce descs fields ∧ first ∉ expandedFields descs fields ↔ NamedOnce descs (first :: fields) := by
  have hFilter : (first :: fields).filter (· ≠ "*") = first :: fields.filter (· ≠ "*") := by
    simp [hFirst]
  have hWildcard : "*" ∈ first :: fields ↔ "*" ∈ fields := by
    simp [Ne.symm hFirst]
  rw [mem_expandedFields, not_or]
  constructor
  · rintro ⟨h, hDescribed, hNew⟩
    refine ⟨?_, fun hStar hSome => ?_⟩
    · rw [hFilter, nodup_cons]
      exact ⟨fun hField => hNew ⟨hFirst, mem_of_mem_filter hField⟩, h.names⟩
    · obtain ⟨hCount, hOthers⟩ := h.wildcard (hWildcard.mp hStar) hSome
      refine ⟨by rwa [count_cons_of_ne hFirst], fun name hName hOther => ?_⟩
      rcases mem_cons.mp hName with rfl | hField
      · exact fun hName => hDescribed ⟨hWildcard.mp hStar, hName⟩
      · exact hOthers name hField hOther
  · intro h
    have hNames := h.names
    rw [hFilter, nodup_cons] at hNames
    refine ⟨⟨hNames.2, fun hStar hSome => ?_⟩, ?_, ?_⟩
    · obtain ⟨hCount, hOthers⟩ := h.wildcard (hWildcard.mpr hStar) hSome
      rw [count_cons_of_ne hFirst] at hCount
      exact ⟨hCount, fun name hName => hOthers name (mem_cons_of_mem _ hName)⟩
    · rintro ⟨hStar, hDescribed⟩
      have hSome : descs ≠ [] := by
        rintro rfl
        cases hDescribed
      exact (h.wildcard (hWildcard.mpr hStar) hSome).2 first (mem_cons_self ..) hFirst hDescribed
    · rintro ⟨-, hField⟩
      exact hNames.1 (mem_filter.mpr ⟨hField, by simpa using hFirst⟩)

/-- By induction over the requested names; each adds names that must be new. -/
theorem nodup_expandedFields (hDistinct : (describedNames descs).Nodup) (fields : List String) :
    (expandedFields descs fields).Nodup ↔ NamedOnce descs fields := by
  induction fields with
  | nil => exact iff_of_true (by simp [expandedFields]) ⟨by simp, by simp⟩
  | cons first fields ih =>
    have hSplit : expandedFields descs (first :: fields) =
        (if first = "*" then describedNames descs else [first]) ++ expandedFields descs fields := rfl
    rw [hSplit, nodup_append', ih]
    by_cases hFirst : first = "*"
    · subst hFirst
      rw [if_pos rfl, ← namedOnce_wildcard]
      simp only [hDistinct, true_and]
    · rw [if_neg hFirst, ← namedOnce_name hFirst]
      simp only [nodup_singleton, true_and, singleton_disjoint]

end Names

section Types

variable {descs : List MilvusFieldDesc} {desc : MilvusFieldDesc} {outputFields : Option (List String)}

theorem typeMap_described (hDistinct : (describedNames descs).Nodup) (hDesc : desc ∈ descs) :
    typeMap descs desc.name = some desc.fieldType := by
  rw [typeMap]
  cases hFound : descs.reverse.find? fun other => other.name = desc.name with
  | none =>
    have hNone := find?_eq_none.mp hFound desc (mem_reverse.mpr hDesc)
    simp at hNone
  | some other =>
    have hName : other.name = desc.name := by simpa using find?_some hFound
    have hOther := mem_reverse.mp (mem_of_find?_eq_some hFound)
    rw [inj_on_of_nodup_map hDistinct hOther hDesc hName]
    rfl

theorem typeMap_undescribed {name : String} (h : name ∉ describedNames descs) : typeMap descs name = none := by
  rw [typeMap, Option.map_eq_none_iff, find?_eq_none]
  intro desc hDesc
  simp only [decide_eq_true_eq]
  rintro rfl
  exact h (mem_map_of_mem (mem_reverse.mp hDesc))

theorem mem_arrowFields_some {fields : List String} {field : Arrow.Field} : field ∈ arrowFields descs (some fields) ↔
      field.name ∈ expandedFields descs fields ∧
        field = ⟨field.name, ((typeMap descs field.name).map milvusTypeToArrow).getD .utf8, true⟩ := by
  simp only [arrowFields, mem_map]
  constructor
  · rintro ⟨name, hName, rfl⟩
    exact ⟨hName, rfl⟩
  · rintro ⟨hName, hField⟩
    exact ⟨field.name, hName, hField.symm⟩

theorem nodup_arrowFields (hDistinct : (describedNames descs).Nodup) (outputFields : Option (List String)) :
    ((arrowFields descs outputFields).map Arrow.Field.name).Nodup ↔
      ∀ fields, outputFields = some fields → NamedOnce descs fields := by
  cases outputFields with
  | none =>
    have hNames : (arrowFields descs none).map Arrow.Field.name =
        (descs.filter fun desc => !isVectorType desc.fieldType).map MilvusFieldDesc.name := by
      simp [arrowFields]
    rw [hNames]
    exact iff_of_true (hDistinct.sublist ((filter_sublist).map _)) (fun fields hFields => by cases hFields)
  | some fields =>
    have hNames : (arrowFields descs (some fields)).map Arrow.Field.name = expandedFields descs fields := by
      rw [arrowFields, map_map]
      exact map_id _
    rw [hNames, nodup_expandedFields hDistinct]
    exact ⟨fun h _ hFields => Option.some.inj hFields ▸ h, fun h => h fields rfl⟩

theorem described_arrowFields (hDistinct : (describedNames descs).Nodup) (hDesc : desc ∈ descs)
    (hRequested : Requested desc outputFields) :
    ∃ field ∈ arrowFields descs outputFields,
      field.name = desc.name ∧ field.dataType = milvusTypeToArrow desc.fieldType := by
  cases outputFields with
  | none =>
    refine ⟨⟨desc.name, milvusTypeToArrow desc.fieldType, true⟩, mem_map.mpr ⟨desc, ?_, rfl⟩, rfl, rfl⟩
    exact mem_filter.mpr ⟨hDesc, by rw [show isVectorType desc.fieldType = false from hRequested]; rfl⟩
  | some fields =>
    have hName : desc.name ∈ expandedFields descs fields := by
      rw [mem_expandedFields]
      rcases hRequested with hField | hWildcard
      · by_cases hStar : desc.name = "*"
        · exact .inl ⟨hStar ▸ hField, mem_map_of_mem hDesc⟩
        · exact .inr ⟨hStar, hField⟩
      · exact .inl ⟨hWildcard, mem_map_of_mem hDesc⟩
    have hType := typeMap_described hDistinct hDesc
    exact ⟨⟨desc.name, milvusTypeToArrow desc.fieldType, true⟩,
      mem_arrowFields_some.mpr ⟨hName, by simp [hType]⟩, rfl, rfl⟩

/-- A column for a score that the collection does not describe comes from the
name itself, and is a text. -/
theorem score_arrowFields (h : "distance" ∉ describedNames descs) :
    (∀ field ∈ arrowFields descs outputFields, field.name = "distance" → field.dataType = .float64) ↔
      ∀ fields, outputFields = some fields → "distance" ∉ fields := by
  cases outputFields with
  | none =>
    refine iff_of_true (fun field hField hName => ?_) (fun fields hFields => by cases hFields)
    obtain ⟨desc, hDesc, rfl⟩ := mem_map.mp hField
    exact absurd (mem_map.mpr ⟨desc, mem_of_mem_filter hDesc, hName⟩) h
  | some fields =>
    have hType := typeMap_undescribed h
    constructor
    · intro hScore _ hFields hField
      cases hFields
      have hName : "distance" ∈ expandedFields descs fields := mem_expandedFields.mpr (.inr ⟨by decide, hField⟩)
      have hColumn := hScore ⟨"distance", .utf8, true⟩ (mem_arrowFields_some.mpr ⟨hName, by simp [hType]⟩) rfl
      cases hColumn
    · intro hFields field hField hName
      have hMem := (mem_arrowFields_some.mp hField).1
      rw [hName, mem_expandedFields] at hMem
      rcases hMem with ⟨-, hDescribed⟩ | ⟨-, hField⟩
      · exact absurd hDescribed h
      · exact absurd hField (hFields fields rfl)

end Types

section Schema

variable (descs : List MilvusFieldDesc) (outputFields : Option (List String)) (operation : MilvusOperation)

/-- A search adds the score unless a column has its name already. -/
theorem buildSchema_cases : (operation = .search ∧ "distance" ∉ (arrowFields descs outputFields).map Arrow.Field.name ∧
      (buildSchema descs outputFields operation).fields =
        arrowFields descs outputFields ++ [⟨"distance", .float64, true⟩]) ∨
    ((operation = .search → "distance" ∈ (arrowFields descs outputFields).map Arrow.Field.name) ∧
      (buildSchema descs outputFields operation).fields = arrowFields descs outputFields) := by
  have hAny : (arrowFields descs outputFields).any (fun field => field.name == "distance") = false ↔
      "distance" ∉ (arrowFields descs outputFields).map Arrow.Field.name := by
    simp
  rw [buildSchema]
  split
  · rename_i h
    exact .inl ⟨h.1, hAny.mp h.2, rfl⟩
  · rename_i h
    refine .inr ⟨fun hSearch => ?_, rfl⟩
    by_contra hScore
    exact h ⟨hSearch, hAny.mpr hScore⟩

theorem nodup_buildSchema : ((buildSchema descs outputFields operation).fields.map Arrow.Field.name).Nodup ↔
      ((arrowFields descs outputFields).map Arrow.Field.name).Nodup := by
  rcases buildSchema_cases descs outputFields operation with ⟨-, hNew, hFields⟩ | ⟨-, hFields⟩
  · rw [hFields, map_append, map_singleton, nodup_append']
    simp only [nodup_singleton, true_and, disjoint_singleton]
    exact ⟨fun h => h.1, fun h => ⟨h, hNew⟩⟩
  · rw [hFields]

theorem arrowFields_subset : arrowFields descs outputFields ⊆ (buildSchema descs outputFields operation).fields := by
  rcases buildSchema_cases descs outputFields operation with ⟨-, -, hFields⟩ | ⟨-, hFields⟩
  · exact hFields ▸ subset_append_left ..
  · exact hFields ▸ List.Subset.refl _

theorem score_mem_buildSchema (hSearch : operation = .search) :
    "distance" ∈ (buildSchema descs outputFields operation).fields.map Arrow.Field.name := by
  rcases buildSchema_cases descs outputFields operation with ⟨-, -, hFields⟩ | ⟨hScore, hFields⟩
  · simp [hFields]
  · exact hFields ▸ hScore hSearch

/-- Which requests give a well-formed schema. -/
theorem buildSchema_wellFormed_iff (hDistinct : (describedNames descs).Nodup) :
    WellFormed descs outputFields operation (buildSchema descs outputFields operation) ↔
      Orderly descs outputFields operation := by
  have hSubset := arrowFields_subset descs outputFields operation
  constructor
  · intro h fields hFields
    have hNames := (nodup_buildSchema descs outputFields operation).mp h.distinct
    refine ⟨(nodup_arrowFields hDistinct outputFields).mp hNames fields hFields, fun hSearch hScore => ?_⟩
    by_contra hDescribed
    have hType := (score_arrowFields hDescribed).mp fun field hField =>
      h.scoreType hSearch hDescribed field (hSubset hField)
    exact hType fields hFields hScore
  · intro h
    have hNames := (nodup_arrowFields hDistinct outputFields).mpr fun fields hFields => (h fields hFields).1
    have hColumns := (nodup_buildSchema descs outputFields operation).mpr hNames
    refine ⟨hColumns, fun desc hDesc hRequested => ?_, fun hSearch => ?_, fun hSearch hDescribed field hField hName => ?_⟩
    · obtain ⟨field, hField, hColumn⟩ := described_arrowFields hDistinct hDesc hRequested
      exact ⟨field, hSubset hField, hColumn⟩
    · exact count_eq_one_of_mem hColumns (score_mem_buildSchema descs outputFields operation hSearch)
    · have hTypes := (score_arrowFields hDescribed).mpr fun fields hFields hScore =>
        hDescribed ((h fields hFields).2 hSearch hScore)
      rcases buildSchema_cases descs outputFields operation with ⟨-, -, hFields⟩ | ⟨-, hFields⟩
      · rw [hFields] at hField
        rcases mem_append.mp hField with hField | hField
        · exact hTypes field hField hName
        · rw [mem_singleton.mp hField]
      · exact hTypes field (hFields ▸ hField) hName

theorem buildSchema_wellFormed_sample :
    WellFormed [⟨"id", "Int64"⟩, ⟨"vector", "FloatVector"⟩] (some ["*", "label"]) .search
      (buildSchema [⟨"id", "Int64"⟩, ⟨"vector", "FloatVector"⟩] (some ["*", "label"]) .search) :=
  (buildSchema_wellFormed_iff _ _ _ (by decide)).mpr fun fields hFields => by
    cases hFields
    exact ⟨⟨by decide, fun _ _ => by decide⟩, by decide⟩

/-- The name of a described field beside the wildcard gives its column twice. -/
theorem buildSchema_repeats_column : (buildSchema [⟨"id", "Int64"⟩] (some ["*", "id"]) .query).fields =
        [⟨"id", .int64, true⟩, ⟨"id", .int64, true⟩] ∧
      ¬WellFormed [⟨"id", "Int64"⟩] (some ["*", "id"]) .query
        (buildSchema [⟨"id", "Int64"⟩] (some ["*", "id"]) .query) := by
  have hFields : (buildSchema [⟨"id", "Int64"⟩] (some ["*", "id"]) .query).fields =
      [⟨"id", .int64, true⟩, ⟨"id", .int64, true⟩] := by
    decide
  refine ⟨hFields, fun h => ?_⟩
  have hDistinct := h.distinct
  rw [hFields] at hDistinct
  exact absurd hDistinct (by decide)

end Schema

end DataConnectHub.Milvus
