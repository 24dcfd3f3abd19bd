import Mathlib.Algebra.Order.Ring.Int
import Mathlib.Data.List.Induction

/-! Numbers in bytes, most significant byte first, and reads at an offset that
fail where they would leave the bytes. -/
namespace Octets

open List

/-- The number that some bytes stand for. -/
def ofBytes (bytes : List UInt8) : Nat :=
  bytes.foldl (fun value byte => value * 256 + byte.toNat) 0

/-- The last `width` bytes of a number. -/
def toBytes : Nat → Nat → List UInt8
  | 0, _ => []
  | width + 1, value => toBytes width (value / 256) ++ [UInt8.ofNat value]

@[simp] theorem length_toBytes (width value : Nat) : (toBytes width value).length = width := by
  induction width generalizing value with
  | zero => rfl
  | succ width ih => simp [toBytes, ih]

theorem ofBytes_concat (bytes : List UInt8) (byte : UInt8) :
    ofBytes (bytes ++ [byte]) = ofBytes bytes * 256 + byte.toNat := by
  simp [ofBytes]

theorem ofBytes_lt (bytes : List UInt8) : ofBytes bytes < 256 ^ bytes.length := by
  induction bytes using reverseRecOn with
  | nil => simp [ofBytes]
  | append_singleton bytes byte ih =>
    have hByte := byte.toNat_lt
    rw [ofBytes_concat, length_append, length_singleton, Nat.pow_succ]
    omega

/-- A number that fits comes back from its bytes. -/
theorem ofBytes_toBytes {width value : Nat} (h : value < 256 ^ width) : ofBytes (toBytes width value) = value := by
  induction width generalizing value with
  | zero =>
    simp only [Nat.pow_zero] at h
    simp only [toBytes, ofBytes, foldl_nil]
    omega
  | succ width ih =>
    have hHigh : value / 256 < 256 ^ width := by
      rw [Nat.pow_succ] at h
      omega
    rw [toBytes, ofBytes_concat, ih hHigh, UInt8.toNat_ofNat']
    omega

/-- The bytes from an offset on, one index after the other; nothing if one of
them lies outside. -/
def window (bytes : List UInt8) : Nat → Nat → Option (List UInt8)
  | _, 0 => some []
  | offset, width + 1 => do
      let byte ← bytes[offset]?
      let rest ← window bytes (offset + 1) width
      return byte :: rest

theorem window_eq {bytes : List UInt8} {offset width : Nat} (h : offset + width ≤ bytes.length) :
    window bytes offset width = some ((bytes.drop offset).take width) := by
  induction width generalizing offset with
  | zero => simp [window]
  | succ width ih =>
    have hOffset : offset < bytes.length := by omega
    rw [window, getElem?_eq_getElem hOffset, ih (by omega), drop_eq_getElem_cons hOffset]
    rfl

section Arrays

variable {Item : Type} {write : Item → List UInt8} {width : Nat}

section

variable (hWidth : ∀ item, (write item).length = width)

include hWidth

theorem length_flatMap (items : List Item) : (items.flatMap write).length = items.length * width := by
  induction items with
  | nil => simp
  | cons item items ih =>
    rw [flatMap_cons, length_append, hWidth, ih, length_cons, Nat.succ_mul]
    omega

/-- The written form of an item lies at its index times the width. -/
theorem drop_flatMap (items : List Item) (index : Nat) :
    (items.flatMap write).drop (index * width) = (items.drop index).flatMap write := by
  induction index generalizing items with
  | zero => simp
  | succ index ih =>
    cases items with
    | nil => simp
    | cons item items =>
      have hSplit : (index + 1) * width = (write item).length + index * width := by
        rw [hWidth, Nat.succ_mul]
        omega
      rw [flatMap_cons, hSplit, drop_length_add_append, ih, drop_succ_cons]

/-- An item of an array is read back where the array begins after `before`. -/
theorem window_item (before after : List UInt8) {items : List Item} {index : Nat} (hIndex : index < items.length) :
    window (before ++ (items.flatMap write ++ after)) (before.length + index * width) width =
      some (write items[index]) := by
  have hLength := length_flatMap hWidth items
  have hEnd : (index + 1) * width ≤ items.length * width := Nat.mul_le_mul_right width hIndex
  rw [Nat.succ_mul] at hEnd
  have hInside : index * width ≤ (items.flatMap write).length := by omega
  rw [window_eq (by simp only [length_append]; omega), drop_length_add_append,
    drop_append_of_le_length hInside, drop_flatMap hWidth, drop_eq_getElem_cons hIndex,
    flatMap_cons, append_assoc, take_left' (hWidth _)]

end

end Arrays

section Indices

variable {Item : Type} {read : Nat → Option Item}

theorem mapM_range_some {count : Nat} (h : ∀ index < count, ∃ item, read index = some item) :
    ∃ items, (List.range count).mapM read = some items := by
  induction count with
  | zero => exact ⟨[], rfl⟩
  | succ count ih =>
    obtain ⟨items, hItems⟩ := ih fun index hIndex => h index (by omega)
    obtain ⟨item, hItem⟩ := h count (Nat.lt_succ_self count)
    exact ⟨items ++ [item], by simp [range_succ, mapM_append, hItems, hItem]⟩

/-- Where each index holds the item of a list, the list is read. -/
theorem mapM_range_list {items : List Item}
    (h : ∀ index (hIndex : index < items.length), read index = some items[index]) :
    (List.range items.length).mapM read = some items := by
  induction items using reverseRecOn with
  | nil => rfl
  | append_singleton items item ih =>
    have hItems : (range items.length).mapM read = some items := by
      apply ih
      intro index hIndex
      rw [h index (by simp; omega), getElem_append_left hIndex]
    have hItem : read items.length = some item := by
      simpa using h items.length (by simp)
    simp [range_succ, mapM_append, hItems, hItem]

end Indices

end Octets
