import DataConnectHub.Serde.Value
import Mathlib.Data.List.Perm.Basic

/-! Objects as maps: each name is bound once, at every depth, and the order of
the members is not looked at. -/
namespace Serde.Json

open List

mutual
/-- The members of every object have different names. -/
def Distinct : Json → Prop
  | .array items => DistinctItems items
  | .object members => (members.map Prod.fst).Nodup ∧ DistinctMembers members
  | _ => True

def DistinctItems : List Json → Prop
  | [] => True
  | item :: rest => item.Distinct ∧ DistinctItems rest

def DistinctMembers : Members → Prop
  | [] => True
  | (_, value) :: rest => value.Distinct ∧ DistinctMembers rest
end

mutual
def decideDistinct : (value : Json) → Decidable value.Distinct
  | .array items => decideDistinctItems items
  | .object members =>
    have := decideDistinctMembers members
    inferInstanceAs (Decidable (_ ∧ _))
  | .null | .bool _ | .number _ | .string _ => inferInstanceAs (Decidable True)

def decideDistinctItems : (items : List Json) → Decidable (DistinctItems items)
  | [] => inferInstanceAs (Decidable True)
  | item :: rest =>
    have := decideDistinct item
    have := decideDistinctItems rest
    inferInstanceAs (Decidable (_ ∧ _))

def decideDistinctMembers : (members : Members) → Decidable (DistinctMembers members)
  | [] => inferInstanceAs (Decidable True)
  | (_, value) :: rest =>
    have := decideDistinct value
    have := decideDistinctMembers rest
    inferInstanceAs (Decidable (_ ∧ _))
end

instance (value : Json) : Decidable value.Distinct := decideDistinct value

theorem distinctMembers_iff {members : Members} :
    DistinctMembers members ↔ ∀ member ∈ members, member.2.Distinct := by
  induction members with
  | nil => simp [DistinctMembers]
  | cons member rest ih => simp [DistinctMembers, ih]

theorem distinctItems_iff {items : List Json} : DistinctItems items ↔ ∀ item ∈ items, item.Distinct := by
  induction items with
  | nil => simp [DistinctItems]
  | cons item rest ih => simp [DistinctItems, ih]

variable {value value' : Json}

theorem mem_of_lookup {members : Members} {name : String} (h : members.lookup name = some value) :
    (name, value) ∈ members := by
  obtain ⟨before, after, rfl, -⟩ := lookup_eq_some_iff.mp h
  simp

/-- Where each name is bound once, reading a member is finding it. -/
theorem lookup_eq_some_iff_mem {members : Members} (h : (members.map Prod.fst).Nodup) {name : String} :
    members.lookup name = some value ↔ (name, value) ∈ members := by
  induction members with
  | nil => simp
  | cons member rest ih =>
    obtain ⟨other, found⟩ := member
    obtain ⟨hNew, hRest⟩ := nodup_cons.mp h
    rw [lookup_cons, mem_cons, Prod.mk.injEq]
    by_cases hSame : name = other
    · subst hSame
      rw [if_pos rfl, Option.some.injEq]
      have hMiss : (name, value) ∉ rest := fun hMem => hNew (mem_map.mpr ⟨_, hMem, rfl⟩)
      simp [hMiss, eq_comm]
    · rw [if_neg hSame, ih hRest]
      simp [hSame]

theorem lookup_perm {members members' : Members} (h : (members.map Prod.fst).Nodup)
    (hPerm : members.Perm members') (name : String) : members.lookup name = members'.lookup name := by
  have h' : (members'.map Prod.fst).Nodup := (hPerm.map Prod.fst).nodup_iff.mp h
  refine Option.ext fun value => ?_
  rw [lookup_eq_some_iff_mem h, lookup_eq_some_iff_mem h', hPerm.mem_iff]

theorem Distinct.field? {found : Json} {name : String} (h : value.Distinct) (hFound : value.field? name = some found) :
    found.Distinct := by
  cases value with
  | object members =>
    rw [Distinct] at h
    exact distinctMembers_iff.mp h.2 _ ((lookup_eq_some_iff_mem h.1).mp hFound)
  | _ => cases hFound

/-- The members of one object somewhere in a value have been reordered. -/
inductive Reorder : Json → Json → Prop where
  | members {members members' : Members} (h : members.Perm members') :
      Reorder (.object members) (.object members')
  | member {before after : Members} {name : String} {value value' : Json} (h : Reorder value value') :
      Reorder (.object (before ++ (name, value) :: after)) (.object (before ++ (name, value') :: after))
  | item {before after : List Json} {value value' : Json} (h : Reorder value value') :
      Reorder (.array (before ++ value :: after)) (.array (before ++ value' :: after))

theorem Reorder.distinct (h : Reorder value value') (hDistinct : value.Distinct) : value'.Distinct := by
  induction h with
  | members h =>
    rw [Distinct, distinctMembers_iff] at hDistinct ⊢
    exact ⟨(h.map Prod.fst).nodup_iff.mp hDistinct.1, fun member hMember => hDistinct.2 member (h.mem_iff.mpr hMember)⟩
  | @member before after name value value' _ ih =>
    rw [Distinct, distinctMembers_iff] at hDistinct ⊢
    obtain ⟨hNames, hValues⟩ := hDistinct
    refine ⟨?_, fun member hMember => ?_⟩
    · simpa using hNames
    · rcases mem_append.mp hMember with hBefore | hHere
      · exact hValues member (mem_append_left _ hBefore)
      · rcases mem_cons.mp hHere with rfl | hAfter
        · exact ih (hValues (name, value) (by simp))
        · exact hValues member (by simp [hAfter])
  | @item before after value value' _ ih =>
    rw [Distinct, distinctItems_iff] at hDistinct ⊢
    intro item hItem
    rcases mem_append.mp hItem with hBefore | hHere
    · exact hDistinct item (mem_append_left _ hBefore)
    · rcases mem_cons.mp hHere with rfl | hAfter
      · exact ih (hDistinct value (by simp))
      · exact hDistinct item (by simp [hAfter])

/-- Two objects that differ in the value of one member. -/
theorem lookup_member_cases (before after : Members) (name key : String) (value value' : Json) :
    (before ++ (name, value) :: after).lookup key = (before ++ (name, value') :: after).lookup key ∨
      (before ++ (name, value) :: after).lookup key = some value ∧
        (before ++ (name, value') :: after).lookup key = some value' := by
  have hSplit (found : Json) : (before ++ (name, found) :: after).lookup key =
      (before.lookup key).or (if key = name then some found else after.lookup key) := by
    rw [lookup_append, lookup_cons]
  rw [hSplit, hSplit]
  cases before.lookup key with
  | some found => exact .inl rfl
  | none =>
    by_cases hKey : key = name
    · rw [if_pos hKey, if_pos hKey]
      exact .inr ⟨rfl, rfl⟩
    · rw [if_neg hKey, if_neg hKey]
      exact .inl rfl

/-- A member of a reordered value is the same, or reordered itself. -/
theorem Reorder.field?_cases (h : Reorder value value') (hDistinct : value.Distinct) (name : String) :
    value.field? name = value'.field? name ∨
      ∃ found found', value.field? name = some found ∧ value'.field? name = some found' ∧ Reorder found found' := by
  cases h with
  | members h =>
    rw [Distinct] at hDistinct
    exact .inl (lookup_perm hDistinct.1 h name)
  | @member before after other value value' h =>
    rcases lookup_member_cases before after other name value value' with hSame | ⟨hValue, hValue'⟩
    · exact .inl hSame
    · exact .inr ⟨value, value', hValue, hValue', h⟩
  | item h => exact .inl rfl

theorem Reorder.field?_isSome (h : Reorder value value') (hDistinct : value.Distinct) (name : String) :
    (value.field? name).isSome = (value'.field? name).isSome := by
  rcases h.field?_cases hDistinct name with hSame | ⟨found, found', hFound, hFound', -⟩
  · rw [hSame]
  · rw [hFound, hFound']
    rfl

theorem Reorder.asStr_eq (h : Reorder value value') : value.asStr = value'.asStr := by
  cases h <;> rfl

end Serde.Json
