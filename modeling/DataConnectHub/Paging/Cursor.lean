import Mathlib.Data.List.Basic

/-! Reading an ordered list in pages. A cursor is the key of the last item that
was read, and the next page begins strictly after it. -/
namespace Paging

open List

variable {Item Key : Type}

section Order

variable (before : Key → Key → Prop) (key : Item → Option Key)

/-- Every item has a key, and earlier items have smaller keys. -/
structure Ordered (items : List Item) : Prop where
  asymm : ∀ {first second : Key}, before first second → ¬before second first
  keyed : ∀ item ∈ items, ∃ found, key item = some found
  sorted : items.Pairwise fun first second =>
    ∀ a b, key first = some a → key second = some b → before a b

variable [DecidableRel before]

/-- The items after a cursor, or all of them. -/
def after (items : List Item) : Option Key → List Item
  | none => items
  | some cursor => items.filter fun item => (key item).any fun found => before cursor found

variable {before key}

end Order

/-- A list cut into pages, none empty and none longer than `size`. -/
structure Pages (size : Nat) (items : List Item) (pages : List (List Item)) : Prop where
  flatten : pages.flatten = items
  sizes : ∀ page ∈ pages, page ≠ [] ∧ page.length ≤ size

theorem Pages.nil (size : Nat) : Pages size ([] : List Item) [] :=
  ⟨rfl, nofun⟩

theorem Pages.cons {size : Nat} {page rest : List Item} {pages : List (List Item)} (hSome : page ≠ [])
    (hSize : page.length ≤ size) (h : Pages size rest pages) : Pages size (page ++ rest) (page :: pages) := by
  refine ⟨by rw [flatten_cons, h.flatten], fun other hOther => ?_⟩
  rcases mem_cons.mp hOther with rfl | hOther
  · exact ⟨hSome, hSize⟩
  · exact h.sizes other hOther

end Paging
