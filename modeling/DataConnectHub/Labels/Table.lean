import Mathlib.Data.List.AList
import Mathlib.Data.List.Perm.Basic

/-! Occurrences of labels under keys, merged into a table with one entry for
each key. Entries stand in the order of their first occurrence, and a second
map remembers their positions. A key whose occurrences disagree gets a fixed
label, and keeps it. -/
namespace Labels

open List Option

structure Entry (Key Label : Type) where
  key : Key
  label : Label
  deriving DecidableEq, Repr

structure Table (Key Label : Type) where
  entries : List (Entry Key Label)
  seen : AList fun _ : Key => Nat

variable {Key Label : Type}

def Table.empty : Table Key Label := ⟨[], ∅⟩

section Occurrences

variable [DecidableEq Key]

/-- The labels of a key. -/
def labelsOf (key : Key) (occurrences : List (Key × Label)) : List Label :=
  (occurrences.filter fun occurrence => occurrence.1 = key).map Prod.snd

/-- The label of a key in a list of entries. -/
def labelAt (entries : List (Entry Key Label)) (key : Key) : Option Label :=
  (entries.find? fun entry => entry.key = key).map Entry.label

theorem labelsOf_append (key : Key) (past : List (Key × Label)) (occurrence : Key × Label) :
    labelsOf key (past ++ [occurrence]) =
      if occurrence.1 = key then labelsOf key past ++ [occurrence.2] else labelsOf key past := by
  unfold labelsOf
  split <;> simp [*]

@[simp] theorem mem_labelsOf {key : Key} {label : Label} {occurrences : List (Key × Label)} :
    label ∈ labelsOf key occurrences ↔ (key, label) ∈ occurrences := by
  simp [labelsOf]

end Occurrences

variable [DecidableEq Label]

section Summary

variable {fallback label : Label} {labels : List Label}

/-- The common label, or the fixed one where there is none in common. -/
def summary (fallback : Label) (labels : List Label) : Option Label :=
  labels.head?.map fun first => if ∀ label ∈ labels, label = first then first else fallback

theorem summary_eq_none : summary fallback labels = none ↔ labels = [] := by
  cases labels <;> simp [summary]

theorem summary_of_agree (hSome : labels ≠ []) (h : ∀ other ∈ labels, other = label) :
    summary fallback labels = some label := by
  obtain ⟨first, rest, rfl⟩ := exists_cons_of_ne_nil hSome
  obtain rfl := h first (mem_cons_self ..)
  exact congrArg some (if_pos h)

theorem summary_of_disagree {other : Label} (hLabel : label ∈ labels) (hOther : other ∈ labels)
    (h : label ≠ other) : summary fallback labels = some fallback := by
  cases labels with
  | nil => cases hLabel
  | cons first rest => exact congrArg some (if_neg fun hAll => h ((hAll _ hLabel).trans (hAll _ hOther).symm))

/-- The summary sees which labels there are, and nothing else. -/
theorem summary_congr {labels' : List Label} (h : ∀ label, label ∈ labels ↔ label ∈ labels') :
    summary fallback labels = summary fallback labels' := by
  cases labels with
  | nil =>
    have hNil : labels' = [] := eq_nil_iff_forall_not_mem.mpr fun label hLabel => nomatch (h label).mpr hLabel
    rw [hNil]
  | cons first rest =>
    have hFirst := (h first).mp (mem_cons_self ..)
    by_cases hAgree : ∀ label ∈ first :: rest, label = first
    · rw [summary_of_agree (by simp) hAgree]
      exact (summary_of_agree (ne_nil_of_mem hFirst) fun label hLabel => hAgree label ((h label).mpr hLabel)).symm
    · simp only [not_forall] at hAgree
      obtain ⟨other, hOther, hApart⟩ := hAgree
      rw [summary_of_disagree hOther (mem_cons_self ..) hApart, summary_of_disagree ((h other).mp hOther) hFirst hApart]

theorem summary_append {old : Label} (h : summary fallback labels = some old) :
    summary fallback (labels ++ [label]) = some (if old ≠ label then fallback else old) := by
  cases labels with
  | nil => cases h
  | cons first rest =>
    by_cases hAgree : ∀ label ∈ first :: rest, label = first
    · rw [summary_of_agree (by simp) hAgree] at h
      obtain rfl := some.inj h
      split
      next hApart => exact summary_of_disagree (by simp) (by simp) hApart
      next hSame =>
          refine summary_of_agree (by simp) fun other hOther => ?_
          rcases mem_append.mp hOther with hOld | hNew
          · exact hAgree other hOld
          · rw [mem_singleton.mp hNew, not_not.mp hSame]
    · simp only [not_forall] at hAgree
      obtain ⟨other, hOther, hApart⟩ := hAgree
      rw [summary_of_disagree hOther (mem_cons_self ..) hApart] at h
      obtain rfl := some.inj h
      rw [ite_self, summary_of_disagree (mem_append_left _ hOther) (by simp) hApart]

end Summary

variable [DecidableEq Key]

/-- An entry after one more occurrence of its key. -/
def Entry.meet (fallback label : Label) (entry : Entry Key Label) : Entry Key Label :=
  if entry.label ≠ label then { entry with label := fallback } else entry

omit [DecidableEq Key] in
@[simp] theorem Entry.meet_key (fallback label : Label) (entry : Entry Key Label) :
    (entry.meet fallback label).key = entry.key := by
  unfold Entry.meet
  split <;> rfl

omit [DecidableEq Key] in
@[simp] theorem Entry.meet_label (fallback label : Label) (entry : Entry Key Label) :
    (entry.meet fallback label).label = if entry.label ≠ label then fallback else entry.label := by
  unfold Entry.meet
  split <;> rfl

/-- One more occurrence. -/
def Table.record (fallback : Label) (table : Table Key Label) (key : Key) (label : Label) : Table Key Label :=
  match table.seen.lookup key with
  | none => ⟨table.entries ++ [⟨key, label⟩], table.seen.insert key table.entries.length⟩
  | some position => ⟨table.entries.modify position (Entry.meet fallback label), table.seen⟩

/-- The table is that of these occurrences. -/
structure Table.Describes (fallback : Label) (table : Table Key Label) (occurrences : List (Key × Label)) : Prop where
  nodup : (table.entries.map Entry.key).Nodup
  seen : ∀ key position, table.seen.lookup key = some position ↔ table.entries[position]?.map Entry.key = some key
  labels : ∀ entry ∈ table.entries, summary fallback (labelsOf entry.key occurrences) = some entry.label
  keys : ∀ key label, (key, label) ∈ occurrences → key ∈ table.entries.map Entry.key

namespace Table

variable {fallback label : Label} {table : Table Key Label} {past : List (Key × Label)} {key : Key}

theorem Describes.empty (fallback : Label) : (Table.empty : Table Key Label).Describes fallback [] :=
  ⟨nodup_nil, fun _ _ => by simp [Table.empty], nofun, nofun⟩

theorem Describes.not_mem (h : table.Describes fallback past) (hKey : table.seen.lookup key = none) :
    key ∉ table.entries.map Entry.key := by
  intro hMem
  obtain ⟨position, hPosition⟩ := mem_iff_getElem?.mp hMem
  rw [getElem?_map] at hPosition
  cases hKey.symm.trans ((h.seen key position).mpr hPosition)

theorem getElem?_append_singleton {Item : Type} (items : List Item) (item : Item) (position : Nat) :
    (items ++ [item])[position]? = if position = items.length then some item else items[position]? := by
  split
  next h => rw [h, getElem?_concat_length]
  next h =>
      by_cases hBefore : position < items.length
      · exact getElem?_append_left hBefore
      · have hEnd : (items ++ [item]).length ≤ position := by
          rw [length_append, length_singleton]
          omega
        rw [getElem?_eq_none hEnd, getElem?_eq_none (by omega)]

section

variable (h : table.Describes fallback past)

include h

/-- The first occurrence of a key. -/
theorem Describes.insert (hKey : table.seen.lookup key = none) :
    Describes fallback ⟨table.entries ++ [⟨key, label⟩], table.seen.insert key table.entries.length⟩
      (past ++ [(key, label)]) := by
  have hNew := h.not_mem hKey
  refine ⟨?_, fun other position => ?_, fun entry hEntry => ?_, fun other found hOther => ?_⟩
  · rw [map_append, nodup_append]
    refine ⟨h.nodup, nodup_singleton _, fun old hOld other hOther hSame => ?_⟩
    rw [hSame, mem_singleton.mp hOther] at hOld
    exact hNew hOld
  · rw [getElem?_append_singleton]
    by_cases hOther : other = key
    · subst hOther
      rw [AList.lookup_insert, some.injEq]
      split
      next hEnd => exact iff_of_true hEnd.symm rfl
      next hBefore =>
          refine iff_of_false (fun hEnd => hBefore hEnd.symm) fun hFound => ?_
          cases hKey.symm.trans ((h.seen other position).mpr hFound)
    · rw [AList.lookup_insert_ne hOther, h.seen]
      split
      next hEnd =>
          refine iff_of_false (fun hFound => ?_) fun hSame => hOther (some.inj hSame).symm
          rw [getElem?_eq_none (by omega)] at hFound
          cases hFound
      · rfl
  · rw [labelsOf_append]
    rcases mem_append.mp hEntry with hOld | hAdded
    · have hApart : key ≠ entry.key := fun hSame => hNew (hSame ▸ mem_map_of_mem hOld)
      rw [if_neg hApart]
      exact h.labels entry hOld
    · obtain rfl := mem_singleton.mp hAdded
      have hNone : labelsOf key past = [] :=
        eq_nil_iff_forall_not_mem.mpr fun found hFound => hNew (h.keys key found (mem_labelsOf.mp hFound))
      rw [if_pos rfl, hNone]
      exact summary_of_agree (by simp) fun other hOther => mem_singleton.mp hOther
  · rw [map_append, mem_append]
    rcases mem_append.mp hOther with hOld | hAdded
    · exact .inl (h.keys other found hOld)
    · exact .inr (by simp [(Prod.mk.inj (mem_singleton.mp hAdded)).1])

theorem Describes.modify {position : Nat} (hKey : table.seen.lookup key = some position) :
    Describes fallback ⟨table.entries.modify position (Entry.meet fallback label), table.seen⟩
      (past ++ [(key, label)]) := by
  have hHere := (h.seen key position).mp hKey
  have hKeys (index : Nat) : (table.entries.modify position (Entry.meet fallback label))[index]?.map Entry.key =
      table.entries[index]?.map Entry.key := by
    rw [getElem?_modify]
    cases table.entries[index]? with
    | none => rfl
    | some entry => split <;> simp
  have hSame : (table.entries.modify position (Entry.meet fallback label)).map Entry.key =
      table.entries.map Entry.key := ext_getElem? fun index => by
    rw [getElem?_map, getElem?_map]
    exact hKeys index
  refine ⟨?_, fun other index => ?_, fun entry hEntry => ?_, fun other found hOther => ?_⟩
  · rw [hSame]
    exact h.nodup
  · rw [h.seen, hKeys]
  · obtain ⟨index, hIndex⟩ := mem_iff_getElem?.mp hEntry
    rw [getElem?_modify] at hIndex
    obtain ⟨old, hOld, rfl⟩ := map_eq_some_iff.mp hIndex
    have hLabels := h.labels old (mem_of_getElem? hOld)
    rw [labelsOf_append]
    by_cases hPosition : position = index
    · subst hPosition
      rw [hOld] at hHere
      obtain rfl : old.key = key := some.inj hHere
      rw [if_pos rfl, Entry.meet_key, if_pos rfl, Entry.meet_label]
      exact summary_append hLabels
    · -- no other entry has this key
      have hApart : key ≠ old.key := by
        rintro rfl
        have hFound := (h.seen old.key index).mpr (congrArg (Option.map Entry.key) hOld)
        exact hPosition (some.inj (hKey.symm.trans hFound))
      rw [if_neg hPosition]
      change summary fallback (if key = old.key then _ else labelsOf old.key past) = some old.label
      rw [if_neg hApart]
      exact hLabels
  · rw [hSame]
    rcases mem_append.mp hOther with hOld | hAdded
    · exact h.keys other found hOld
    · obtain ⟨rfl, -⟩ := Prod.mk.inj (mem_singleton.mp hAdded)
      rw [← getElem?_map] at hHere
      exact mem_of_getElem? hHere

theorem Describes.record (key : Key) (label : Label) :
    (table.record fallback key label).Describes fallback (past ++ [(key, label)]) := by
  unfold Table.record
  cases hKey : table.seen.lookup key with
  | none => exact h.insert hKey
  | some position => exact h.modify hKey

/-- The table after a whole list of occurrences. -/
theorem Describes.foldl (occurrences : List (Key × Label)) :
    (occurrences.foldl (fun table occurrence => table.record fallback occurrence.1 occurrence.2) table).Describes
      fallback (past ++ occurrences) := by
  induction occurrences generalizing table past with
  | nil => rwa [append_nil]
  | cons occurrence rest ih =>
    rw [← singleton_append, ← append_assoc]
    exact ih (h.record occurrence.1 occurrence.2)

end

section Entries

variable {entry : Entry Key Label}

section

variable (h : table.Describes fallback past) (hEntry : entry ∈ table.entries)

include h hEntry

theorem Describes.labels_ne_nil : labelsOf entry.key past ≠ [] := by
  intro hNil
  have hLabel := h.labels entry hEntry
  rw [hNil] at hLabel
  cases hLabel

theorem Describes.exists_label : ∃ label, (entry.key, label) ∈ past := by
  obtain ⟨label, hLabel⟩ := exists_mem_of_ne_nil _ (h.labels_ne_nil hEntry)
  exact ⟨label, mem_labelsOf.mp hLabel⟩

theorem Describes.label_of_agree (hAgree : ∀ other, (entry.key, other) ∈ past → other = label) :
    entry.label = label := by
  have hLabel := h.labels entry hEntry
  rw [summary_of_agree (h.labels_ne_nil hEntry) fun other hOther => hAgree other (mem_labelsOf.mp hOther)] at hLabel
  exact (some.inj hLabel).symm

theorem Describes.label_of_disagree {first second : Label} (hFirst : (entry.key, first) ∈ past)
    (hSecond : (entry.key, second) ∈ past) (hApart : first ≠ second) : entry.label = fallback := by
  have hLabel := h.labels entry hEntry
  rw [summary_of_disagree (mem_labelsOf.mpr hFirst) (mem_labelsOf.mpr hSecond) hApart] at hLabel
  exact (some.inj hLabel).symm

end

end Entries

/-- The label that the table gives to a key is the summary of its labels. -/
theorem Describes.labelAt_eq (h : table.Describes fallback past) (key : Key) :
    labelAt table.entries key = summary fallback (labelsOf key past) := by
  unfold labelAt
  cases hFind : table.entries.find? fun entry => entry.key = key with
  | some entry =>
    obtain rfl : entry.key = key := by simpa using find?_some hFind
    exact (h.labels entry (mem_of_find?_eq_some hFind)).symm
  | none =>
    symm
    rw [map_none, summary_eq_none, eq_nil_iff_forall_not_mem]
    intro label hLabel
    obtain ⟨entry, hEntry, rfl⟩ := mem_map.mp (h.keys key label (mem_labelsOf.mp hLabel))
    have hMiss := find?_eq_none.mp hFind entry hEntry
    exact hMiss (decide_eq_true rfl)

end Table
end Labels
