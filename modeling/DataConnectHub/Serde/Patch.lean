import DataConnectHub.Serde.Codec
import DataConnectHub.Serde.Distinct

/-! Merge patches of typed values. A value is written, patched and read back.
What a patch makes of a member depends on that member alone, so the laws of
patches hold for a record when they hold for its fields. -/
namespace Serde

open Json

variable {α : Type}

section Members

/-- What a patch makes of one member of an object. -/
def patched (old : Option Json) : Option Json → Option Json
  | none => old
  | some .null => none
  | some change => some ((old.getD .null).merge change)

variable {change : Json}

theorem patched_of_ne (old : Option Json) (h : change ≠ .null) :
    patched old (some change) = some ((old.getD .null).merge change) := by
  cases change <;> first | rfl | exact absurd rfl h

/-- One change of an object, and the rest of them. -/
theorem mergeMembers_cons (members : Members) (name : String) (h : change ≠ .null)
    (rest : Members) :
    mergeMembers members ((name, change) :: rest) =
      mergeMembers (put name (merge ((members.lookup name).getD .null) change) members) rest := by
  cases change <;> first | rfl | exact absurd rfl h

theorem lookup_eq_none_of_notMem {members : Members} {name : String} (h : name ∉ members.map Prod.fst) :
    members.lookup name = none := by
  cases hFound : members.lookup name with
  | none => rfl
  | some value => exact absurd (List.mem_map.mpr ⟨_, mem_of_lookup hFound, rfl⟩) h

theorem lookup_mergeMembers_eq (members : Members) {changes : Members}
    (h : (changes.map Prod.fst).Nodup) (name : String) :
    (mergeMembers members changes).lookup name = patched (members.lookup name) (changes.lookup name) := by
  induction changes generalizing members with
  | nil => rw [mergeMembers]; rfl
  | cons member rest ih =>
    obtain ⟨changed, change⟩ := member
    obtain ⟨hNew, hRest⟩ := List.nodup_cons.mp h
    rw [lookup_cons]
    by_cases hName : name = changed
    · subst hName
      have hLater : rest.lookup name = none := lookup_eq_none_of_notMem hNew
      rw [if_pos rfl]
      by_cases hNull : change = .null
      · subst hNull
        rw [mergeMembers, ih _ hRest, hLater, lookup_filter_ne, if_pos rfl]
        rfl
      · rw [mergeMembers_cons _ _ hNull, ih _ hRest, hLater, lookup_put, if_pos rfl, patched_of_ne _ hNull]
        rfl
    · rw [if_neg hName]
      by_cases hNull : change = .null
      · subst hNull
        rw [mergeMembers, ih _ hRest, lookup_filter_ne, if_neg hName]
      · rw [mergeMembers_cons _ _ hNull, ih _ hRest, lookup_put, if_neg hName]

/-- A patch sees of a value only its members. -/
theorem merge_congr {first second : Json} (h : first.members = second.members) (patch : Json) :
    first.merge patch = second.merge patch := by
  cases patch with
  | object changes => rw [merge, merge, h]
  | _ => rfl

end Members

/-- A patch that was accepted gives the same result when it is applied again. -/
def Stable (α : Type) [Codec α] : Prop :=
  ∀ patch : Json, patch.Distinct → ∀ first second : α, fromValue ((toValue first).merge patch) = some second →
    fromValue ((toValue second).merge patch) = some second

/-- Values that are not written as objects. -/
def Flat (α : Type) [Codec α] : Prop := ∀ value : α, (toValue value).members = []

theorem Flat.stable [Codec α] (h : Flat α) : Stable α := by
  intro patch _ first second hAccepted
  rw [merge_congr ((h second).trans (h first).symm)]
  exact hAccepted

theorem flat_string : Flat String := fun _ => rfl

theorem flat_bool : Flat Bool := fun _ => rfl

theorem flat_list [Codec α] : Flat (List α) := fun _ => rfl

section Maps

variable [Codec α] {members : Members} {entries : List ((_ : String) × α)}

theorem mapM_readMember_cons {member : String × Json} :
    (member :: members).mapM readMember = some entries ↔ ∃ value rest, fromValue member.2 = some value ∧
      members.mapM readMember = some rest ∧ entries = ⟨member.1, value⟩ :: rest := by
  have hHead : readMember (α := α) member = (fromValue member.2).map fun value => ⟨member.1, value⟩ := rfl
  rw [List.mapM_cons, hHead]
  cases fromValue (α := α) member.2 with
  | none => simp
  | some value => cases members.mapM (readMember (α := α)) <;> simp [eq_comm]

section

variable (h : members.mapM readMember = some entries)

include h

/-- The keys of a map are the names of the members it is read from. -/
theorem keys_of_mapM_readMember : entries.keys = members.map Prod.fst := by
  induction members generalizing entries with
  | nil =>
    cases h
    rfl
  | cons member members ih =>
    obtain ⟨value, rest, -, hRest, rfl⟩ := mapM_readMember_cons.mp h
    rw [List.keys_cons, List.map_cons, ih hRest]

theorem exists_mem_of_mapM_readMember {name : String} {found : Json} (hFound : (name, found) ∈ members) :
    ∃ value, fromValue found = some value ∧ ⟨name, value⟩ ∈ entries := by
  induction members generalizing entries with
  | nil => cases hFound
  | cons member members ih =>
    obtain ⟨value, rest, hValue, hRest, rfl⟩ := mapM_readMember_cons.mp h
    rcases List.mem_cons.mp hFound with rfl | hFound
    · exact ⟨value, hValue, List.mem_cons_self ..⟩
    · obtain ⟨other, hOther, hMem⟩ := ih hRest hFound
      exact ⟨other, hOther, List.mem_cons_of_mem _ hMem⟩

/-- Writing a member again that is read as before. -/
theorem mapM_readMember_put (hKeys : entries.NodupKeys) {name : String} {value : α} {written : Json}
    (hEntry : ⟨name, value⟩ ∈ entries) (hRead : fromValue written = some value) :
    (put name written members).mapM readMember = some entries := by
  induction members generalizing entries with
  | nil =>
    cases h
    cases hEntry
  | cons member members ih =>
    obtain ⟨other, old⟩ := member
    obtain ⟨found, rest, hFound, hRest, rfl⟩ := mapM_readMember_cons.mp h
    obtain ⟨hNew, hLater⟩ := List.nodupKeys_cons.mp hKeys
    rw [put]
    by_cases hName : other = name
    · subst hName
      rw [if_pos BEq.rfl]
      have hSame : value = found := by
        rcases List.mem_cons.mp hEntry with hHead | hTail
        · cases hHead
          rfl
        · exact absurd (List.mem_keys_of_mem hTail) hNew
      exact mapM_readMember_cons.mpr ⟨found, rest, hRead.trans (congrArg some hSame), hRest, rfl⟩
    · have hMiss : (other == name) = false := by simpa using hName
      rw [hMiss, if_neg Bool.false_ne_true]
      have hTail : ⟨name, value⟩ ∈ rest := by
        rcases List.mem_cons.mp hEntry with hHead | hTail
        · cases hHead
          exact absurd rfl hName
        · exact hTail
      exact mapM_readMember_cons.mpr ⟨found, rest, hFound, ih hRest hLater hTail, rfl⟩

end

theorem map_fst_put (name : String) (value : Json) (members : Members) :
    (put name value members).map Prod.fst =
      if name ∈ members.map Prod.fst then members.map Prod.fst else members.map Prod.fst ++ [name] := by
  induction members with
  | nil => rfl
  | cons member rest ih =>
    obtain ⟨other, old⟩ := member
    rw [put]
    by_cases hOther : other = name
    · subst hOther
      simp
    · have hMiss : (other == name) = false := by simpa using hOther
      rw [hMiss, if_neg Bool.false_ne_true, List.map_cons, ih]
      by_cases hName : name ∈ rest.map Prod.fst
      · rw [if_pos hName]
        exact (if_pos (List.mem_cons_of_mem _ hName)).symm
      · have hNew : name ∉ other :: rest.map Prod.fst := by
          rw [List.mem_cons, not_or]
          exact ⟨fun hSame => hOther hSame.symm, hName⟩
        rw [if_neg hName]
        exact (if_neg hNew).symm

theorem nodup_mergeMembers (h : (members.map Prod.fst).Nodup) (changes : Members) :
    ((mergeMembers members changes).map Prod.fst).Nodup := by
  induction changes generalizing members with
  | nil => rwa [mergeMembers]
  | cons member rest ih =>
    obtain ⟨name, change⟩ := member
    by_cases hNull : change = .null
    · subst hNull
      rw [mergeMembers]
      exact ih (h.sublist (List.filter_sublist.map _))
    · rw [mergeMembers_cons _ _ hNull]
      refine ih ?_
      rw [map_fst_put]
      split
      · exact h
      next hNew => exact List.Nodup.append h (List.nodup_singleton _) (by simpa using hNew)

/-- Changes that a map is already read with. -/
theorem mapM_readMember_mergeMembers (hKeys : entries.NodupKeys) {changes : Members}
    (h : members.mapM readMember = some entries) (hNames : (changes.map Prod.fst).Nodup)
    (hRemoved : ∀ name, (name, Json.null) ∈ changes → name ∉ entries.keys)
    (hSet : ∀ name change, (name, change) ∈ changes → change ≠ .null → ∃ value,
      fromValue (merge ((members.lookup name).getD .null) change) = some value ∧ ⟨name, value⟩ ∈ entries) :
    (mergeMembers members changes).mapM readMember = some entries := by
  -- each change leaves the members readable as the same entries
  induction changes generalizing members with
  | nil => rwa [mergeMembers]
  | cons member rest ih =>
    obtain ⟨name, change⟩ := member
    obtain ⟨hNew, hRest⟩ := List.nodup_cons.mp hNames
    have hLater := fun other hOther => hRemoved other (List.mem_cons_of_mem _ hOther)
    by_cases hNull : change = .null
    · subst hNull
      have hAbsent := hRemoved name (List.mem_cons_self ..)
      rw [keys_of_mapM_readMember h] at hAbsent
      have hKept : members.filter (fun member => member.1 != name) = members := by
        refine List.filter_eq_self.mpr fun member hMember => ?_
        rw [bne_iff_ne]
        rintro rfl
        exact hAbsent (List.mem_map.mpr ⟨member, hMember, rfl⟩)
      rw [mergeMembers, hKept]
      exact ih h hRest hLater fun other change hOther => hSet other change (List.mem_cons_of_mem _ hOther)
    · obtain ⟨value, hRead, hEntry⟩ := hSet name change (List.mem_cons_self ..) hNull
      rw [mergeMembers_cons _ _ hNull]
      refine ih (mapM_readMember_put h hKeys hEntry hRead) hRest hLater fun other change hOther => ?_
      have hApart : other ≠ name := by
        rintro rfl
        exact hNew (List.mem_map.mpr ⟨_, hOther, rfl⟩)
      rw [lookup_put, if_neg hApart]
      exact hSet other change (List.mem_cons_of_mem _ hOther)

theorem members_lookup_writeMember (h : Flat α) (entries : List ((_ : String) × α)) (name : String) :
    (((entries.map writeMember).lookup name).getD .null).members = [] := by
  cases hFound : (entries.map writeMember).lookup name with
  | none => rfl
  | some found =>
    obtain ⟨entry, -, hWritten⟩ := List.mem_map.mp (mem_of_lookup hFound)
    obtain ⟨-, rfl⟩ := Prod.mk.inj hWritten
    exact h entry.2

theorem stable_map (h : Flat α) : Stable (StringMap α) := by
  intro patch hPatch first second hAccepted
  cases patch with
  | object changes =>
    rw [Json.Distinct] at hPatch
    have hNames := hPatch.1
    obtain ⟨entries, hEntries, rfl⟩ := Option.map_eq_some_iff.mp hAccepted
    have hWritten : ((first.entries.map writeMember).map Prod.fst).Nodup := by
      rw [List.map_map]
      exact first.nodupKeys
    have hMembers := nodup_mergeMembers hWritten changes
    have hKeys : entries.NodupKeys := by
      rw [List.NodupKeys, keys_of_mapM_readMember hEntries]
      exact hMembers
    -- the second time, every change finds in the map what it left there
    have hSame : entries.toAList.entries = entries := dedupKeys_eq_self hKeys
    change ((mergeMembers (entries.toAList.entries.map writeMember) changes).mapM readMember).map List.toAList = _
    rw [hSame, mapM_readMember_mergeMembers hKeys (mapM_readMember_writeMember entries) hNames]
    · rfl
    · intro name hNull hName
      rw [keys_of_mapM_readMember hEntries] at hName
      obtain ⟨⟨_, value⟩, hMember, rfl⟩ := List.mem_map.mp hName
      have hLookup := (lookup_eq_some_iff_mem hMembers).mpr hMember
      rw [lookup_mergeMembers_eq _ hNames, (lookup_eq_some_iff_mem hNames).mpr hNull] at hLookup
      cases hLookup
    · intro name change hChange hNull
      have hLookup := lookup_mergeMembers_eq (first.entries.map writeMember) hNames name
      rw [(lookup_eq_some_iff_mem hNames).mpr hChange, patched_of_ne _ hNull] at hLookup
      obtain ⟨value, hRead, hEntry⟩ := exists_mem_of_mapM_readMember hEntries (mem_of_lookup hLookup)
      refine ⟨value, ?_, hEntry⟩
      rw [merge_congr ((members_lookup_writeMember h entries name).trans
        (members_lookup_writeMember h first.entries name).symm)]
      exact hRead
  | _ => exact hAccepted

end Maps

section Fields

/-- A field is read as it was written, and patches of it are stable. -/
structure Lawful {Value : Type} (write : Value → Option Json) (read : Slot → Option Value) : Prop where
  read_write : ∀ value, read (.ofMember (write value)) = some value
  stable : ∀ change : Json, change.Distinct → ∀ first second,
    read (.ofMember (patched (write first) (some change))) = some second →
    read (.ofMember (patched (write second) (some change))) = some second

variable [Codec α]

/-- A field that is always written, and has to be there. -/
theorem lawful_required (h : Stable α) : Lawful (fun value : α => some (toValue value)) Slot.required := by
  refine ⟨Codec.fromValue_toValue, fun change hChange first second hRead => ?_⟩
  by_cases hNull : change = .null
  · subst hNull
    cases hRead
  · rw [patched_of_ne _ hNull] at hRead ⊢
    exact h change hChange first second hRead

/-- A field that is left out when it has its default. -/
theorem lawful_defaulted {skip : α → Bool} {fallback : α} (h : Stable α)
    (hSkip : ∀ value, skip value = true → value = fallback ∧ (toValue value).members = []) :
    Lawful (fun value => if skip value then none else some (toValue value)) (Slot.defaulted fallback) := by
  have hOld (value : α) (change : Json) :
      ((if skip value then none else some (toValue value)).getD Json.null).merge change =
        (toValue value).merge change := by
    split
    next hSkipped => exact merge_congr (by rw [(hSkip value hSkipped).2]; rfl) change
    · rfl
  refine ⟨fun value => Slot.defaulted_ofMember_skipped fun hSkipped => (hSkip value hSkipped).1,
    fun change hChange first second hRead => ?_⟩
  by_cases hNull : change = .null
  · subst hNull
    exact hRead
  · rw [patched_of_ne _ hNull, hOld] at hRead ⊢
    exact h change hChange first second hRead

/-- An `Option` that is left out when there is no value. -/
theorem lawful_optional (h : Flat α) (hNull : ∀ value : α, toValue value ≠ .null) :
    Lawful (fun value : Option α => value.map toValue) Slot.optional := by
  have hOld (value : Option α) (change : Json) :
      ((value.map toValue).getD .null).merge change = Json.null.merge change := by
    refine merge_congr ?_ change
    cases value with
    | none => rfl
    | some value => exact h value
  refine ⟨Slot.optional_ofMember hNull, fun change _ first second hRead => ?_⟩
  by_cases hNone : change = .null
  · subst hNone
    exact hRead
  · rw [patched_of_ne _ hNone, hOld] at hRead ⊢
    exact hRead

theorem lawful_optionalDefaulted (h : Flat α) (hNull : ∀ value : α, toValue value ≠ .null) :
    Lawful (fun value : Option α => value.map toValue) Slot.optionalDefaulted := by
  have hSame (found : Option Json) : (Slot.ofMember found).optionalDefaulted (α := α) = (Slot.ofMember found).optional := by
    cases found <;> rfl
  obtain ⟨hWritten, hStable⟩ := lawful_optional h hNull
  simp only [← hSame] at hWritten hStable
  exact ⟨hWritten, hStable⟩

end Fields

/-- A field of a record: how it is written, if at all, and how it is read. -/
structure RecordField (Record : Type) where
  name : String
  Value : Type
  get : Record → Value
  write : Value → Option Json
  read : Slot → Option Value
  lawful : Lawful write read

section Records

variable {Record : Type}

/-- The member of an object that a field is written as. -/
def RecordField.members (field : RecordField Record) (record : Record) : Members :=
  ((field.write (field.get record)).map (Prod.mk field.name)).toList

theorem memberUnless_eq [Codec α] (skip : Bool) (name : String) (value : α) :
    memberUnless skip name value = ((if skip then none else some (toValue value)).map (Prod.mk name)).toList := by
  cases skip <;> rfl

variable {fields : List (RecordField Record)}

theorem RecordField.lookup_members (field : RecordField Record) (record : Record) (name : String) :
    (field.members record).lookup name = if name = field.name then field.write (field.get record) else none := by
  unfold RecordField.members
  cases field.write (field.get record) with
  | none => simp
  | some value => simp [Json.lookup_cons]

theorem lookup_members_of_notMem (record : Record) {name : String} (h : name ∉ fields.map RecordField.name) :
    (fields.flatMap (·.members record)).lookup name = none := by
  induction fields with
  | nil => rfl
  | cons field rest ih =>
    rw [List.map_cons, List.mem_cons, not_or] at h
    rw [List.flatMap_cons, List.lookup_append, field.lookup_members, if_neg h.1, Option.none_or, ih h.2]

theorem lookup_members_of_mem (record : Record) (hNames : (fields.map RecordField.name).Nodup)
    {field : RecordField Record} (hField : field ∈ fields) :
    (fields.flatMap (·.members record)).lookup field.name = field.write (field.get record) := by
  induction fields with
  | nil => cases hField
  | cons other rest ih =>
    obtain ⟨hNew, hRest⟩ := List.nodup_cons.mp hNames
    rw [List.flatMap_cons, List.lookup_append, other.lookup_members]
    rcases List.mem_cons.mp hField with rfl | hLater
    · rw [if_pos rfl, lookup_members_of_notMem record hNew, Option.or_none]
    · have hApart : field.name ≠ other.name := by
        intro hSame
        exact hNew (hSame ▸ List.mem_map.mpr ⟨field, hLater, rfl⟩)
      rw [if_neg hApart, Option.none_or, ih hRest hLater]

variable [Codec Record]

/-- A record is written as an object of its fields, and read from the members of
their names, whatever else the object has. -/
structure IsRecord (Record : Type) [Codec Record] (fields : List (RecordField Record)) : Prop where
  names : (fields.map RecordField.name).Nodup
  writes : ∀ record : Record, toValue record = .object (fields.flatMap (·.members record))
  reads : ∀ members (record : Record), fromValue (.object members) = some record ↔
    ∀ field ∈ fields, field.read (.ofMember (members.lookup field.name)) = some (field.get record)

namespace IsRecord

variable {field : RecordField Record} {name : String} {record result : Record} {changes : Members}

theorem member (h : IsRecord Record fields) (record : Record) (hField : field ∈ fields) :
    (toValue record).field? field.name = field.write (field.get record) := by
  rw [h.writes]
  exact lookup_members_of_mem record h.names hField

theorem others (h : IsRecord Record fields) (record : Record) (hName : name ∉ fields.map RecordField.name) :
    (toValue record).field? name = none := by
  rw [h.writes]
  exact lookup_members_of_notMem record hName

theorem merge_object (record : Record) (changes : Members) :
    (toValue record).merge (.object changes) = .object (mergeMembers (toValue record).members changes) := by
  rw [merge]

/-- What a field is read as after a patch. -/
theorem reads_merge (h : IsRecord Record fields) (hNames : (changes.map Prod.fst).Nodup) :
    fromValue ((toValue record).merge (.object changes)) = some result ↔ ∀ field ∈ fields,
      field.read (.ofMember (patched (field.write (field.get record)) (changes.lookup field.name))) =
        some (field.get result) := by
  rw [merge_object, h.reads]
  refine forall₂_congr fun field hField => ?_
  rw [lookup_mergeMembers_eq _ hNames]
  change field.read (.ofMember (patched ((toValue record).field? field.name) _)) = _ ↔ _
  rw [h.member record hField]

theorem stable (h : IsRecord Record fields) : Stable Record := by
  intro patch hPatch first second hAccepted
  cases patch with
  | object changes =>
    rw [Json.Distinct, Json.distinctMembers_iff] at hPatch
    rw [h.reads_merge hPatch.1] at hAccepted ⊢
    intro field hField
    have hRead := hAccepted field hField
    cases hChange : changes.lookup field.name with
    | none => exact field.lawful.read_write _
    | some change =>
      rw [hChange] at hRead
      exact field.lawful.stable change (hPatch.2 _ (mem_of_lookup hChange)) _ _ hRead
  | _ => exact hAccepted

theorem merge_empty (h : IsRecord Record fields) (record : Record) :
    (toValue record).merge (.object []) = toValue record := by
  rw [merge_object, mergeMembers, h.writes]
  rfl

section

variable (h : IsRecord Record fields) (hNames : (changes.map Prod.fst).Nodup)
  (hAccepted : fromValue ((toValue record).merge (.object changes)) = some result)

include h hNames hAccepted

/-- A patch leaves the fields that it does not name. -/
theorem get_of_notMem (hField : field ∈ fields) (hName : field.name ∉ changes.map Prod.fst) :
    field.get result = field.get record := by
  have hRead := (h.reads_merge hNames).mp hAccepted field hField
  rw [lookup_eq_none_of_notMem hName, patched, field.lawful.read_write] at hRead
  exact (Option.some.inj hRead).symm

theorem field?_of_notMem (hName : name ∉ changes.map Prod.fst) :
    (toValue result).field? name = (toValue record).field? name := by
  by_cases hKnown : name ∈ fields.map RecordField.name
  · obtain ⟨field, hField, rfl⟩ := List.mem_map.mp hKnown
    rw [h.member result hField, h.member record hField, h.get_of_notMem hNames hAccepted hField hName]
  · rw [h.others result hKnown, h.others record hKnown]

end

end IsRecord
end Records

end Serde
