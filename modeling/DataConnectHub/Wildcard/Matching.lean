import Mathlib.Data.List.Forall2
import Mathlib.Data.List.Infix

/-! Matching a list against a pattern in which some elements stand for a whole
stretch. Next to the plain relation there is the one of a matcher that lets
every pattern element take a single item whenever it can, and only then treats
it as a stretch. The two differ where a stretch element also meets an item. -/
namespace Wildcard

open List

variable {P α : Type} (meets : P → α → Prop) (isRun : P → Prop)

inductive Matches : List P → List α → Prop where
  | done : Matches [] []
  | one {c : P} {x : α} {p : List P} {v : List α}
      (hPlain : ¬ isRun c) (hMeets : meets c x) (rest : Matches p v) : Matches (c :: p) (x :: v)
  | stretch {c : P} {p : List P} {v : List α} (skipped : List α)
      (hRun : isRun c) (rest : Matches p v) : Matches (c :: p) (skipped ++ v)

/-- A match in which an element that meets the next item takes just that item,
even if it could stand for a stretch. -/
inductive SingleFirst : List P → List α → Prop where
  | done : SingleFirst [] []
  | one {c : P} {x : α} {p : List P} {v : List α}
      (hMeets : meets c x) (rest : SingleFirst p v) : SingleFirst (c :: p) (x :: v)
  | last {c : P} {p : List P} (hRun : isRun c) (rest : SingleFirst p []) : SingleFirst (c :: p) []
  | stretch {c : P} {x : α} {p : List P} {v w : List α} (hRun : isRun c) (hMeets : ¬ meets c x)
      (hSuffix : w <:+ x :: v) (rest : SingleFirst p w) : SingleFirst (c :: p) (x :: v)

variable {meets isRun} {c : P} {x : α} {p q chunk : List P} {v w piece : List α}

theorem SingleFirst.matches (h : SingleFirst meets isRun p v) : Matches meets isRun p v := by
  induction h with
  | done => exact .done
  | @one c x p v hMeets rest ih =>
    by_cases hRun : isRun c
    · exact .stretch [x] hRun ih
    · exact .one hRun hMeets ih
  | last hRun rest ih => exact .stretch [] hRun ih
  | stretch hRun hMeets hSuffix rest ih =>
    obtain ⟨skipped, hSkipped⟩ := hSuffix
    rw [← hSkipped]
    exact .stretch skipped hRun ih

theorem SingleFirst.of_run (hRun : isRun c) (hMeets : ∀ x ∈ v, ¬ meets c x) (hSuffix : w <:+ v)
    (rest : SingleFirst meets isRun p w) : SingleFirst meets isRun (c :: p) v := by
  cases v with
  | nil =>
    obtain rfl := suffix_nil.mp hSuffix
    exact .last hRun rest
  | cons x v => exact .stretch hRun (hMeets x mem_cons_self) hSuffix rest

/-- The two relations agree if no stretch element meets an item of the list. -/
theorem Matches.singleFirst (h : Matches meets isRun p v)
    (hApart : ∀ c ∈ p, isRun c → ∀ x ∈ v, ¬ meets c x) : SingleFirst meets isRun p v := by
  induction h with
  | done => exact .done
  | one hPlain hMeets rest ih =>
    refine .one hMeets (ih fun c hc hRun x hx => ?_)
    exact hApart c (mem_cons_of_mem _ hc) hRun x (mem_cons_of_mem _ hx)
  | stretch skipped hRun rest ih =>
    refine .of_run hRun (hApart _ mem_cons_self hRun) (suffix_append skipped _) (ih fun c hc hRun x hx => ?_)
    exact hApart c (mem_cons_of_mem _ hc) hRun x (mem_append_right _ hx)

theorem singleFirst_cons_of_meets (hMeets : meets c x) :
    SingleFirst meets isRun (c :: p) (x :: v) ↔ SingleFirst meets isRun p v := by
  constructor
  · intro h
    cases h with
    | one _ rest => exact rest
    | stretch _ hNot _ _ => exact absurd hMeets hNot
  · exact .one hMeets

theorem singleFirst_cons_of_run (hRun : isRun c) (hMeets : ¬ meets c x) : SingleFirst meets isRun (c :: p) (x :: v) ↔
      ∃ w, w <:+ x :: v ∧ SingleFirst meets isRun p w := by
  constructor
  · intro h
    cases h with
    | one hMeets' _ => exact absurd hMeets' hMeets
    | stretch _ _ hSuffix rest => exact ⟨_, hSuffix, rest⟩
  · rintro ⟨w, hSuffix, rest⟩
    exact .stretch hRun hMeets hSuffix rest

theorem not_singleFirst_cons (hRun : ¬ isRun c) (hMeets : ¬ meets c x) :
    ¬ SingleFirst meets isRun (c :: p) (x :: v) := by
  intro h
  cases h with
  | one hMeets' _ => exact hMeets hMeets'
  | stretch hRun' _ _ _ => exact hRun hRun'

theorem not_singleFirst_nil_cons : ¬ SingleFirst meets isRun [] (x :: v) := nofun

theorem singleFirst_nil_iff : SingleFirst meets isRun p [] ↔ ∀ c ∈ p, isRun c := by
  induction p with
  | nil => simp [SingleFirst.done]
  | cons c p ih =>
    rw [forall_mem_cons, ← ih]
    constructor
    · intro h
      cases h with
      | last hRun rest => exact ⟨hRun, rest⟩
    · rintro ⟨hRun, rest⟩
      exact .last hRun rest

/-- A pattern element consumes items from the front only. -/
theorem SingleFirst.tail (h : SingleFirst meets isRun (c :: p) v) : ∃ w, w <:+ v ∧ SingleFirst meets isRun p w := by
  cases h with
  | one _ rest => exact ⟨_, suffix_cons _ _, rest⟩
  | last _ rest => exact ⟨[], suffix_refl _, rest⟩
  | stretch _ _ hSuffix rest => exact ⟨_, hSuffix, rest⟩

theorem singleFirst_append_iff (hMeets : List.Forall₂ meets chunk piece) :
    SingleFirst meets isRun (chunk ++ p) (piece ++ v) ↔ SingleFirst meets isRun p v := by
  induction hMeets with
  | nil => rfl
  | cons hHead _ ih => exact (singleFirst_cons_of_meets hHead).trans ih

/-- If `chunk` meets `piece` item by item, then a match that starts at or after
the beginning of `piece` is past `piece` once it is past `chunk`: it can never
be ahead of the alignment in the pattern and behind it in the list. -/
theorem SingleFirst.overtakes (hMeets : List.Forall₂ meets chunk piece) (hSuffix : w <:+ piece ++ v)
    (h : SingleFirst meets isRun (chunk ++ p) w) :
    ∃ w', w' <:+ v ∧ SingleFirst meets isRun p w' := by
  induction hMeets generalizing w with
  | nil => exact ⟨w, hSuffix, h⟩
  | @cons c x chunk piece hHead hTail ih =>
    rcases suffix_cons_iff.mp hSuffix with rfl | hLater
    · exact ih (suffix_refl _) ((singleFirst_cons_of_meets hHead).mp h)
    · obtain ⟨w', hShorter, hRest⟩ := SingleFirst.tail h
      exact ih (hShorter.trans hLater) hRest

/-- Each element that is not a stretch takes an item of its own. -/
theorem SingleFirst.length_le (h : SingleFirst meets isRun p v) (hPlain : ∀ c ∈ p, ¬ isRun c) :
    p.length ≤ v.length := by
  induction h with
  | done => exact le_rfl
  | one _ _ ih =>
    have := ih fun c hc => hPlain c (mem_cons_of_mem _ hc)
    simpa using this
  | last hRun _ _ | stretch hRun _ _ _ _ => exact absurd hRun (hPlain _ mem_cons_self)

/-- A list meeting the pattern item by item is matched, whatever is a stretch. -/
theorem Matches.append (hMeets : List.Forall₂ meets chunk piece) (h : Matches meets isRun p v) :
    Matches meets isRun (chunk ++ p) (piece ++ v) := by
  induction hMeets with
  | nil => exact h
  | @cons c x chunk piece hHead _ ih =>
    by_cases hRun : isRun c
    · exact .stretch [x] hRun ih
    · exact .one hRun hHead ih

theorem Matches.of_forall₂ (hMeets : List.Forall₂ meets chunk piece) : Matches meets isRun chunk piece := by
  simpa using Matches.append hMeets (.done : Matches meets isRun [] [])

theorem exists_suffix_iff {Q : List α → Prop} : (∃ w, w <:+ v ∧ Q w) ↔ Q v ∨ ∃ w, w <:+ v.tail ∧ Q w := by
  cases v with
  | nil => simp [suffix_nil]
  | cons x v => simp [suffix_cons_iff, or_and_right, exists_or]

end Wildcard
