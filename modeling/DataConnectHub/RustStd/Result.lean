import Mathlib.Data.List.Forall2

/-! Results of fallible code. The operator `?` is the bind of the monad; the
lemmas say when a chain of fallible steps succeeds. -/
namespace RustStd

open List

variable {Error Failure Value Next : Type}

/-- `map_err`, usually in front of the operator `?`. -/
def mapErr (onError : Error → Failure) : Except Error Value → Except Failure Value
  | .ok value => .ok value
  | .error error => .error (onError error)

/-- `ok_or`. -/
def okOr (missing : Error) : Option Value → Except Error Value
  | some value => .ok value
  | none => .error missing

variable {result : Except Error Value} {value : Value} {f : Value → Next} {error : Error} {items : List Value}
  {step : Value → Except Error Next}

@[simp] theorem mapErr_eq_ok {onError : Error → Failure} : mapErr onError result = .ok value ↔ result = .ok value := by
  cases result <;> simp [mapErr]

@[simp] theorem okOr_eq_ok {missing : Error} {found : Option Value} :
    okOr missing found = .ok value ↔ found = some value := by
  cases found <;> simp [okOr]

theorem toOption_eq_some : result.toOption = some value ↔ result = .ok value := by
  cases result <;> simp [Except.toOption]

theorem map_eq_ok {value : Next} : result.map f = .ok value ↔ ∃ found, result = .ok found ∧ f found = value := by
  cases result <;> simp [Except.map]

theorem map_eq_error : result.map f = .error error ↔ result = .error error := by
  cases result <;> simp [Except.map]

theorem bind_eq_ok {first : Except Error Value} {rest : Value → Except Error Next} {result : Next} :
    (first >>= rest) = .ok result ↔ ∃ value, first = .ok value ∧ rest value = .ok result := by
  cases first with
  | error error => exact iff_of_false nofun (by rintro ⟨_, hFirst, -⟩; cases hFirst)
  | ok value => exact ⟨fun h => ⟨value, rfl, h⟩, fun ⟨_, hFirst, h⟩ => by cases hFirst; exact h⟩

/-- A loop that stops at the first error has succeeded at every item. -/
theorem mapM_eq_ok {results : List Next} (h : items.mapM step = .ok results) :
    List.Forall₂ (fun item result => step item = .ok result) items results := by
  induction items generalizing results with
  | nil =>
    cases h
    exact .nil
  | cons item items ih =>
    rw [mapM_cons] at h
    obtain ⟨result, hItem, h⟩ := bind_eq_ok.1 h
    obtain ⟨rest, hRest, h⟩ := bind_eq_ok.1 h
    cases h
    exact .cons hItem (ih hRest)

theorem mapM_map (step : Value → Except Error Next) {Last : Type} (f : Next → Last) (items : List Value) :
    items.mapM (fun item => (step item).map f) = (items.mapM step).map (List.map f) := by
  induction items with
  | nil => rfl
  | cons item rest ih =>
    rw [mapM_cons, mapM_cons, ih]
    cases step item with
    | error error => rfl
    | ok value => cases rest.mapM step <;> rfl

theorem mapM_ok (f : Value → Next) (items : List Value) :
    items.mapM (fun item => (.ok (f item) : Except Error Next)) = .ok (items.map f) := by
  induction items with
  | nil => rfl
  | cons item rest ih =>
    rw [mapM_cons, ih]
    rfl

/-- A loop that ended with an error has met an item with that error. -/
theorem mapM_eq_error (h : items.mapM step = .error error) : ∃ item ∈ items, step item = .error error := by
  induction items with
  | nil => cases h
  | cons item items ih =>
    rw [mapM_cons] at h
    cases hItem : step item with
    | error other =>
      rw [hItem] at h
      cases h
      exact ⟨item, mem_cons_self, hItem⟩
    | ok result =>
      cases hRest : items.mapM step with
      | error other =>
        rw [hItem, hRest] at h
        cases h
        obtain ⟨found, hMem, hFound⟩ := ih hRest
        exact ⟨found, mem_cons_of_mem _ hMem, hFound⟩
      | ok results =>
        rw [hItem, hRest] at h
        cases h

section Correspondence

/-! Items and results that correspond one by one. -/

variable {Item Other : Type} {Related : Item → Other → Prop} {items : List Item} {others : List Other}

theorem exists_of_forall₂_right (h : List.Forall₂ Related items others) {other : Other} (hMem : other ∈ others) :
    ∃ item ∈ items, Related item other := by
  induction h with
  | nil => cases hMem
  | cons hHead _ ih =>
    rcases mem_cons.mp hMem with rfl | hMem
    · exact ⟨_, mem_cons_self, hHead⟩
    · obtain ⟨item, hItem, hRelated⟩ := ih hMem
      exact ⟨item, mem_cons_of_mem _ hItem, hRelated⟩

variable {item : Item}

section

variable (h : List.Forall₂ Related items others)

include h

theorem exists_of_forall₂_left (hMem : item ∈ items) : ∃ other ∈ others, Related item other :=
  exists_of_forall₂_right h.flip hMem

theorem exists_mem_zip_of_forall₂ (hMem : item ∈ items) :
    ∃ other, (other, item) ∈ others.zip items ∧ Related item other := by
  induction h with
  | nil => cases hMem
  | cons hHead _ ih =>
    rcases mem_cons.mp hMem with rfl | hMem
    · exact ⟨_, mem_cons_self, hHead⟩
    · obtain ⟨other, hZip, hRelated⟩ := ih hMem
      exact ⟨other, mem_cons_of_mem _ hZip, hRelated⟩

theorem map_eq_map_of_forall₂ {f : Item → Value} {g : Other → Value}
    (hSame : ∀ item ∈ items, ∀ other, Related item other → g other = f item) : others.map g = items.map f := by
  induction h with
  | nil => rfl
  | cons hHead _ ih =>
    rw [map_cons, map_cons, hSame _ mem_cons_self _ hHead, ih fun item hItem => hSame item (mem_cons_of_mem _ hItem)]

theorem getElem?_of_forall₂ {index : Nat} (hItem : items[index]? = some item) :
    ∃ other, others[index]? = some other ∧ Related item other := by
  induction h generalizing index with
  | nil => simp at hItem
  | cons hHead _ ih =>
    cases index with
    | zero =>
      cases hItem
      exact ⟨_, rfl, hHead⟩
    | succ index => exact ih hItem

theorem exists_getLast_of_forall₂ {other : Other} (hLast : others.getLast? = some other) :
    ∃ item, items.getLast? = some item ∧ Related item other := by
  rw [← head?_reverse] at hLast ⊢
  have hReverse := forall₂_reverse_iff.mpr h
  generalize items.reverse = backwards at hReverse ⊢
  generalize others.reverse = backwardsOther at hReverse hLast
  cases hReverse with
  | nil => cases hLast
  | cons hHead _ =>
    cases hLast
    exact ⟨_, rfl, hHead⟩

end

end Correspondence

/-- A loop that stops at the first error gets through when every item does. -/
theorem exists_mapM_eq_ok_iff :
    (∃ results, items.mapM step = .ok results) ↔ ∀ item ∈ items, ∃ result, step item = .ok result := by
  constructor
  · rintro ⟨results, h⟩ item hItem
    obtain ⟨result, -, hResult⟩ := exists_of_forall₂_left (mapM_eq_ok h) hItem
    exact ⟨result, hResult⟩
  · intro h
    cases hLoop : items.mapM step with
    | ok results => exact ⟨results, rfl⟩
    | error error =>
      obtain ⟨item, hItem, hError⟩ := mapM_eq_error hLoop
      obtain ⟨result, hResult⟩ := h item hItem
      rw [hError] at hResult
      cases hResult

end RustStd
