import DataConnectHub.Uri.PercentEncoding
import Mathlib.Data.List.DropRight

/-! Exceptions and strings of Python. A string is a sequence of code points, and a
code point may be a surrogate, which no encoding accepts. -/
namespace PyStd

/-- An exception: the name of its class and its text. -/
structure PyException where
  className : String
  message : String
  deriving DecidableEq, Repr

inductive PyChar where
  | scalar (c : Char)
  | surrogate (low : Fin 2048)
  deriving DecidableEq

abbrev PyStr := List PyChar

/-- A text without surrogates. -/
def str (text : String) : PyStr :=
  text.toList.map .scalar

def isSpace : PyChar → Bool
  | .scalar c =>
    let n := c.toNat
    (9 ≤ n && n ≤ 13) || (28 ≤ n && n ≤ 32) || n == 0x85 || n == 0xa0 || n == 0x1680 ||
      (0x2000 ≤ n && n ≤ 0x200a) || n == 0x2028 || n == 0x2029 || n == 0x202f || n == 0x205f || n == 0x3000
  | .surrogate _ => false

def strip (text : PyStr) : PyStr :=
  (text.dropWhile isSpace).rdropWhile isSpace

def scalars? : PyStr → Option (List Char)
  | [] => some []
  | .scalar c :: text => (scalars? text).map (c :: ·)
  | .surrogate _ :: _ => none

/-- `text.encode("utf-8")`, which raises when there is a surrogate. -/
def encode (text : PyStr) : Option (List UInt8) :=
  (scalars? text).map (·.flatMap String.utf8EncodeChar)

/-- The octets `urllib.parse.quote` always keeps: letters, digits and `_.-~`. -/
def isAlwaysSafe (octet : UInt8) : Bool :=
  (65 ≤ octet && octet ≤ 90) || (97 ≤ octet && octet ≤ 122) || (48 ≤ octet && octet ≤ 57) ||
    octet == 95 || octet == 46 || octet == 45 || octet == 126

/-- `urllib.parse.quote` with no other safe characters. -/
def quote (text : PyStr) : Option String :=
  (encode text).map fun octets => String.ofList (Uri.percentEncode isAlwaysSafe octets)

section Quote

theorem isAlwaysSafe_ascii (octet : UInt8) (h : isAlwaysSafe octet = true) : octet.toNat < 128 ∧ octet.toNat ≠ 37 := by
  simp only [isAlwaysSafe, Bool.or_eq_true, Bool.and_eq_true, decide_eq_true_eq, beq_iff_eq,
    UInt8.le_iff_toNat_le, ← UInt8.toNat_inj, UInt8.toNat_ofNat] at h
  omega

variable {text : PyStr} {quoted : String}

theorem scalars?_eq_some {chars : List Char} : scalars? text = some chars ↔ text = chars.map .scalar := by
  induction text generalizing chars with
  | nil => simp [scalars?, eq_comm]
  | cons c text ih =>
    cases c with
    | surrogate low => cases chars <;> simp [scalars?]
    | scalar c =>
      cases chars with
      | nil => simp [scalars?]
      | cons d chars => simp [scalars?, ih, and_comm]

theorem quote_eq_some : quote text = some quoted ↔ ∃ chars : List Char, text = chars.map .scalar ∧
      quoted.toList = Uri.percentEncode isAlwaysSafe (chars.flatMap String.utf8EncodeChar) := by
  unfold quote encode
  rw [Option.map_map, Option.map_eq_some_iff]
  constructor
  · rintro ⟨chars, hChars, rfl⟩
    exact ⟨chars, scalars?_eq_some.mp hChars, by simp⟩
  · rintro ⟨chars, hText, hQuoted⟩
    exact ⟨chars, scalars?_eq_some.mpr hText, by simp [← hQuoted]⟩

/-- Decoding gives back the text that was quoted. -/
theorem percentDecodeText_quote (h : quote text = some quoted) :
    (Uri.percentDecodeText quoted.toList).map (·.map PyChar.scalar) = some text := by
  obtain ⟨chars, rfl, hQuoted⟩ := quote_eq_some.mp h
  rw [hQuoted, Uri.percentDecodeText_of_octets (Uri.percentDecode_percentEncode isAlwaysSafe_ascii _)]
  rfl

/-- A text of kept characters is quoted as it is, and no other text is. -/
theorem quote_eq_self_iff {kept : String} (h : quote text = some quoted) (hKept : quote (str kept) = some kept) :
    quoted = kept ↔ text = str kept := by
  constructor
  · rintro rfl
    have hText := percentDecodeText_quote h
    rw [percentDecodeText_quote hKept] at hText
    exact (Option.some.inj hText).symm
  · rintro rfl
    rw [h] at hKept
    exact Option.some.inj hKept

theorem not_mem_quote {c : Char} (hSafe : isAlwaysSafe (UInt8.ofNat c.toNat) = false) (hPercent : c ≠ '%')
    (hHex : Uri.hexValue c = none) (h : quote text = some quoted) : c ∉ quoted.toList := by
  obtain ⟨chars, -, hQuoted⟩ := quote_eq_some.mp h
  rw [hQuoted]
  refine Uri.not_mem_percentEncode (fun octet hKept hChar => ?_) hPercent hHex _
  have hValue := Uri.toNat_ofNat_of_lt (isAlwaysSafe_ascii octet hKept).1
  rw [hChar] at hValue
  rw [hValue, UInt8.ofNat_toNat, hKept] at hSafe
  cases hSafe

end Quote

end PyStd
