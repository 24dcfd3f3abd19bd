import Mathlib.Data.List.Basic

/-! Percent-encoding of octets in the text of a URI. An encoder keeps some octets
as the characters they stand for and writes the others as `%` and two digits. -/
namespace Uri

open List

def hexDigit (n : Nat) : Char :=
  if n < 10 then Char.ofNat (48 + n) else Char.ofNat (55 + n)

def hexValue (c : Char) : Option Nat :=
  if '0' ≤ c ∧ c ≤ '9' then some (c.toNat - 48)
  else if 'A' ≤ c ∧ c ≤ 'F' then some (c.toNat - 55)
  else if 'a' ≤ c ∧ c ≤ 'f' then some (c.toNat - 87)
  else none

theorem hexValue_hexDigit : ∀ n < 16, hexValue (hexDigit n) = some n := by
  decide

def encodeOctet (keep : UInt8 → Bool) (octet : UInt8) : List Char :=
  if keep octet then [Char.ofNat octet.toNat]
  else ['%', hexDigit (octet.toNat / 16), hexDigit (octet.toNat % 16)]

def percentEncode (keep : UInt8 → Bool) (octets : List UInt8) : List Char :=
  octets.flatMap (encodeOctet keep)

/-- The octets a text stands for, if its escapes are well formed and the rest of
it is ASCII. -/
def percentDecode : List Char → Option (List UInt8)
  | [] => some []
  | '%' :: high :: low :: rest => do
      let high ← hexValue high
      let low ← hexValue low
      let octets ← percentDecode rest
      return UInt8.ofNat (16 * high + low) :: octets
  | c :: rest =>
    if c = '%' ∨ 128 ≤ c.toNat then none
    else (percentDecode rest).map (UInt8.ofNat c.toNat :: ·)

/-- The text that a percent-encoded text stands for. -/
def percentDecodeText (text : List Char) : Option (List Char) := do
  let octets ← percentDecode text
  let decoded ← octets.toByteArray.utf8Decode?
  return decoded.toList

section RoundTrip

variable {keep : UInt8 → Bool}

theorem percentDecode_escape {high low : Nat} (hHigh : high < 16) (hLow : low < 16) (rest : List Char) :
    percentDecode ('%' :: hexDigit high :: hexDigit low :: rest) =
      (percentDecode rest).map (UInt8.ofNat (16 * high + low) :: ·) := by
  rw [percentDecode, hexValue_hexDigit high hHigh, hexValue_hexDigit low hLow]
  cases percentDecode rest <;> rfl

theorem percentDecode_plain {c : Char} (hPercent : c ≠ '%') (hAscii : c.toNat < 128) (rest : List Char) :
    percentDecode (c :: rest) = (percentDecode rest).map (UInt8.ofNat c.toNat :: ·) := by
  have hPlain : ¬ (c = '%' ∨ 128 ≤ c.toNat) := by
    rw [not_or]
    exact ⟨hPercent, by omega⟩
  rw [percentDecode.eq_3 c rest (fun _ _ _ h => absurd h hPercent), if_neg hPlain]

theorem toNat_ofNat_of_lt {n : Nat} (h : n < 128) : (Char.ofNat n).toNat = n := by
  have hValid : n.isValidChar := .inl (by omega)
  rw [Char.ofNat, dif_pos hValid]
  rfl

/-- What is encoded is decoded again, as long as only ASCII is kept, and not
the character that begins an escape. -/
theorem percentDecode_percentEncode (hKeep : ∀ octet, keep octet = true → octet.toNat < 128 ∧ octet.toNat ≠ 37)
    (octets : List UInt8) : percentDecode (percentEncode keep octets) = some octets := by
  induction octets with
  | nil => rfl
  | cons octet octets ih =>
    have hEncode : percentEncode keep (octet :: octets) =
        encodeOctet keep octet ++ percentEncode keep octets := flatMap_cons ..
    rw [hEncode, encodeOctet]
    split
    next hKept =>
      obtain ⟨hAscii, hPercent⟩ := hKeep octet hKept
      have hValue := toNat_ofNat_of_lt hAscii
      have hChar : Char.ofNat octet.toNat ≠ '%' := by
        intro h
        rw [h] at hValue
        exact hPercent hValue.symm
      rw [singleton_append, percentDecode_plain hChar (by omega), ih, hValue]
      simp
    next =>
      have hOctet := octet.toNat_lt
      rw [cons_append, cons_append, singleton_append, percentDecode_escape (by omega) (by omega), ih, Nat.div_add_mod]
      simp

/-- A character that is neither kept nor part of an escape does not occur. -/
theorem not_mem_percentEncode {c : Char} (hKeep : ∀ octet, keep octet = true → Char.ofNat octet.toNat ≠ c)
    (hPercent : c ≠ '%') (hHex : hexValue c = none) (octets : List UInt8) : c ∉ percentEncode keep octets := by
  intro hMem
  obtain ⟨octet, -, hOctet⟩ := mem_flatMap.mp hMem
  have hDigit : ∀ n < 16, c ≠ hexDigit n := by
    rintro n hn rfl
    rw [hexValue_hexDigit n hn] at hHex
    cases hHex
  have hBound := octet.toNat_lt
  unfold encodeOctet at hOctet
  split at hOctet
  next hKept => exact hKeep octet hKept (mem_singleton.mp hOctet).symm
  next =>
    simp only [mem_cons, not_mem_nil, or_false] at hOctet
    rcases hOctet with h | h | h
    · exact hPercent h
    · exact hDigit _ (by omega) h
    · exact hDigit _ (by omega) h

/-- Octets of a text are read as that text. -/
theorem percentDecodeText_of_octets {encoded text : List Char}
    (h : percentDecode encoded = some (text.flatMap String.utf8EncodeChar)) :
    percentDecodeText encoded = some text := by
  unfold percentDecodeText
  rw [h]
  have hDecoded : (text.flatMap String.utf8EncodeChar).toByteArray.utf8Decode? = some text.toArray :=
    utf8Decode?_utf8Encode
  simp [hDecoded]

end RoundTrip

end Uri
