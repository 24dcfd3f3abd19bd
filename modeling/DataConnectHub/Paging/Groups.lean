import DataConnectHub.Paging.Cursor
import DataConnectHub.Streaming.Format

/-! Cutting a list into groups of one size, of which only the last may be
shorter. The whole list is there and is cut, or its items come one by one into a
buffer that is emptied when it is full. -/
namespace Paging

open List

variable {Item : Type} {size : Nat}

/-- Pages that are all full, but for the last. -/
structure Grouped (size : Nat) (items : List Item) (groups : List (List Item)) : Prop extends
    Pages size items groups where
  full : ∀ group ∈ groups.dropLast, group.length = size

theorem Grouped.nil (size : Nat) : Grouped size ([] : List Item) [] :=
  ⟨.nil size, forall_mem_nil _⟩

variable {items group : List Item} {groups : List (List Item)}

theorem Grouped.single (hSome : items ≠ []) (hSize : items.length ≤ size) : Grouped size items [items] := by
  refine ⟨?_, forall_mem_nil _⟩
  simpa using (Pages.nil size).cons hSome hSize

theorem Grouped.cons {rest : List Item} (hSize : 1 ≤ size) (hFull : group.length = size)
    (h : Grouped size rest groups) : Grouped size (group ++ rest) (group :: groups) := by
  have hSome : group ≠ [] := by
    rintro rfl
    rw [length_nil] at hFull
    omega
  refine ⟨h.toPages.cons hSome (Nat.le_of_eq hFull), fun other hOther => ?_⟩
  cases groups with
  | nil => cases hOther
  | cons next groups =>
    rw [dropLast_cons_cons] at hOther
    rcases mem_cons.mp hOther with rfl | hOther
    · exact hFull
    · exact h.full other hOther

theorem Grouped.eq_nil (h : Grouped size [] groups) : groups = [] := by
  cases groups with
  | nil => rfl
  | cons group groups =>
    have hFlat := h.flatten
    rw [flatten_cons, append_eq_nil_iff] at hFlat
    exact absurd hFlat.1 (h.sizes group (mem_cons_self ..)).1

/-- A list that fits into one group is one group. -/
theorem Grouped.eq_single (h : Grouped size items groups) (hSome : items ≠ []) (hSize : items.length ≤ size) :
    groups = [items] := by
  match groups, h with
  | [], h => exact absurd h.flatten.symm hSome
  | [group], h =>
    have hFlat := h.flatten
    rw [flatten_singleton] at hFlat
    rw [hFlat]
  | first :: second :: groups, h =>
    -- the first group is full, and the second is not empty
    have hFull := h.full first (by simp)
    have hSecond := length_pos_iff.mpr (h.sizes second (by simp)).1
    have hLength := congrArg length h.flatten
    simp only [flatten_cons, length_append] at hLength
    omega

theorem grouped_groups (hSize : 1 ≤ size) (items : List Item) : Grouped size items (Streaming.groups size items) := by
  fun_induction Streaming.groups size items with
  | case1 => exact .nil size
  | case2 item items ih =>
    by_cases hShort : items.length ≤ size - 1
    · rw [take_of_length_le hShort, drop_of_length_le hShort, Streaming.groups]
      exact .single (cons_ne_nil _ _) (by rw [length_cons]; omega)
    · have hFull : (item :: items.take (size - 1)).length = size := by
        rw [length_cons, length_take]
        omega
      have hAll := ih.cons hSize hFull
      rwa [cons_append, take_append_drop] at hAll

theorem Grouped.consecutive (h : Grouped size items groups) (hGroup : group ∈ groups) : group <:+: items := by
  rw [← h.flatten]
  exact infix_of_mem_flatten hGroup

theorem exists_forall₂ {Value : Type} {Made : Item → Value → Prop} (h : ∀ item ∈ items, ∃ value, Made item value) :
    ∃ values, List.Forall₂ Made items values := by
  induction items with
  | nil => exact ⟨[], .nil⟩
  | cons item items ih =>
    obtain ⟨value, hValue⟩ := h item (mem_cons_self ..)
    obtain ⟨values, hValues⟩ := ih fun other hOther => h other (mem_cons_of_mem _ hOther)
    exact ⟨value :: values, .cons hValue hValues⟩

theorem groups_eq (hSize : 1 ≤ size) (hSome : items ≠ []) :
    Streaming.groups size items = items.take size :: Streaming.groups size (items.drop size) := by
  obtain ⟨item, rest, rfl⟩ := exists_cons_of_ne_nil hSome
  obtain ⟨less, rfl⟩ := Nat.exists_eq_add_of_le' hSize
  rw [Streaming.groups, Nat.add_sub_cancel, take_succ_cons, drop_succ_cons]

section Buffer

/-- The groups that fill up while items come into a buffer, and what is left in it. -/
def push (size : Nat) : List Item → List Item → List (List Item) × List Item
  | buffer, [] => ([], buffer)
  | buffer, item :: items =>
    if size ≤ (buffer ++ [item]).length then
      ((buffer ++ [item]) :: (push size [] items).1, (push size [] items).2)
    else push size (buffer ++ [item]) items

/-- The group of what is left. -/
def leftover (buffer : List Item) : List (List Item) :=
  if buffer = [] then [] else [buffer]

theorem push_append (buffer first second : List Item) : push size buffer (first ++ second) =
      ((push size buffer first).1 ++ (push size (push size buffer first).2 second).1,
        (push size (push size buffer first).2 second).2) := by
  induction first generalizing buffer with
  | nil => rfl
  | cons item first ih =>
    rw [cons_append, push, push]
    split
    · rw [ih]
      rfl
    · exact ih _

theorem grouped_push (hSize : 1 ≤ size) {buffer : List Item} (hBuffer : buffer.length < size) (items : List Item) :
    Grouped size (buffer ++ items) ((push size buffer items).1 ++ leftover (push size buffer items).2) := by
  induction items generalizing buffer with
  | nil =>
    rw [append_nil, push, nil_append, leftover]
    split
    next hNil =>
        subst hNil
        exact .nil size
    next hSome => exact .single hSome (Nat.le_of_lt hBuffer)
  | cons item items ih =>
    rw [push, append_cons]
    split
    next hFull =>
        rw [length_append, length_singleton] at hFull
        have hRest := @ih [] hSize
        exact hRest.cons hSize (by rw [length_append, length_singleton]; omega)
    next hMore => exact ih (Nat.not_le.mp hMore)

end Buffer

end Paging
