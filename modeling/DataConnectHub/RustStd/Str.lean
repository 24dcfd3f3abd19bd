import Mathlib.Data.Char
import Mathlib.Data.List.Infix

/-! Strings addressed by byte offset. An offset is a place in the UTF-8 form of
the string, and cutting there fails in the middle of a character. -/
namespace RustStd

def utf8Len : List Char → Nat
  | [] => 0
  | c :: chars => c.utf8Size + utf8Len chars

/-- `str::find` with a test on characters: the offset of the first that passes. -/
def find (test : Char → Bool) : List Char → Option Nat
  | [] => none
  | c :: chars => if test c then some 0 else (find test chars).map (c.utf8Size + ·)

/-- `&s[..end]`; nothing stands for the panic off a character boundary. -/
def sliceTo : List Char → Nat → Option (List Char)
  | _, 0 => some []
  | [], _ + 1 => none
  | c :: chars, stop + 1 =>
    if c.utf8Size ≤ stop + 1 then (sliceTo chars (stop + 1 - c.utf8Size)).map (c :: ·) else none

/-- `str::split(separator).next()`; there is always a first part. -/
def firstPart (separator : Char) (s : String) : String :=
  .ofList (s.toList.takeWhile (· ≠ separator))

def endsWith (s suffix : String) : Bool := suffix.toList.isSuffixOf s.toList

def startsWith (s start : String) : Bool := start.toList.isPrefixOf s.toList

theorem sliceTo_cons (c : Char) (chars : List Char) (stop : Nat) :
    sliceTo (c :: chars) (c.utf8Size + stop) = (sliceTo chars stop).map (c :: ·) := by
  obtain ⟨size, hSize⟩ := Nat.exists_eq_succ_of_ne_zero c.utf8Size_pos.ne'
  have hStop : c.utf8Size + stop = size + stop + 1 := by omega
  rw [hStop, sliceTo, if_pos (by omega)]
  congr 2
  omega

/-- The offset found, or the length of the string, is a boundary, and the part
before it is what comes before the first character that passes. -/
theorem sliceTo_find (test : Char → Bool) (chars : List Char) :
    sliceTo chars ((find test chars).getD (utf8Len chars)) = some (chars.takeWhile (!test ·)) := by
  induction chars with
  | nil => rfl
  | cons c chars ih =>
    cases hTest : test c with
    | true => simp [find, hTest, sliceTo]
    | false =>
      have hStop : (find test (c :: chars)).getD (utf8Len (c :: chars)) =
          c.utf8Size + (find test chars).getD (utf8Len chars) := by
        cases hFind : find test chars <;> simp [find, hTest, hFind, utf8Len]
      rw [hStop, sliceTo_cons, ih]
      simp [hTest]

end RustStd
