import DataConnectHub.PyStd.Str
import Mathlib.Algebra.Order.Field.Rat
import Mathlib.Tactic.Linarith

/-! Floats of Python: the value `float` gives to a text, `min` and `time.sleep`. A
finite float is kept as the number that was written. That differs from the nearest
float in the last digits only, and in no sign: what is too small for a float is
zero, what is too large is infinite. And the values that a JSON text has. -/
namespace PyStd

inductive PyFloat where
  | nan
  | infinite (negative : Bool)
  | finite (value : ℚ)
  deriving DecidableEq

namespace PyFloat

def ofRat (value : ℚ) : PyFloat :=
  if 2 ^ 1024 - 2 ^ 970 ≤ |value| then .infinite (value < 0)
  else if |value| ≤ 1 / 2 ^ 1075 then .finite 0
  else .finite value

section Text

/-- The value of a decimal digit outside ASCII, as the character database has it. -/
abbrev DecimalDigits := Char → Option Nat

def isAsciiSpace (c : Char) : Bool :=
  c == ' ' || (9 ≤ c.toNat && c.toNat ≤ 13)

/-- Digits and spaces of other scripts are read as those of ASCII. -/
def toAscii (decimal : DecimalDigits) (c : Char) : Char :=
  if c.toNat < 128 then c
  else if isSpace (.scalar c) then ' '
  else match decimal c with
    | some digit => Uri.hexDigit digit
    | none => '?'

/-- Underscores may stand between digits. -/
def dropUnderscores : Char → List Char → Option (List Char)
  | before, [] => if before = '_' then none else some []
  | before, c :: rest =>
    if c = '_' then if before.isDigit then dropUnderscores '_' rest else none
    else if before = '_' ∧ ¬ c.isDigit then none
    else (dropUnderscores c rest).map (c :: ·)

def natOfDigits (digits : List Char) : Nat :=
  digits.foldl (fun value digit => 10 * value + (digit.toNat - 48)) 0

/-- The exponent after a number, if what is left is one. -/
def exponentOf : List Char → Option Int
  | [] => some 0
  | mark :: rest =>
    if mark = 'e' ∨ mark = 'E' then
      let (negative, digits) := match rest with
        | '+' :: digits => (false, digits)
        | '-' :: digits => (true, digits)
        | digits => (false, digits)
      if digits ≠ [] ∧ digits.all Char.isDigit then
        some (if negative then - (natOfDigits digits : Int) else natOfDigits digits)
      else none
    else none

def scaled (mantissa : Nat) (exponent : Int) : ℚ :=
  if 0 ≤ exponent then (mantissa : ℚ) * 10 ^ exponent.toNat else (mantissa : ℚ) / 10 ^ (-exponent).toNat

/-- A number without a sign. -/
def unsignedOf (text : List Char) : Option ℚ :=
  let whole := text.takeWhile Char.isDigit
  let (fraction, rest) := match text.dropWhile Char.isDigit with
    | '.' :: rest => (rest.takeWhile Char.isDigit, rest.dropWhile Char.isDigit)
    | rest => ([], rest)
  if whole = [] ∧ fraction = [] then none
  else (exponentOf rest).map fun exponent =>
    scaled (natOfDigits (whole ++ fraction)) (exponent - fraction.length)

def signedOf (negative : Bool) (text : List Char) : Option PyFloat :=
  if text.map Char.toLower ∈ ["inf".toList, "infinity".toList] then some (.infinite negative)
  else if text.map Char.toLower = "nan".toList then some .nan
  else (unsignedOf text).map fun value => ofRat (if negative then -value else value)

/-- `float(text)`; `none` is the `ValueError`. -/
def ofText (decimal : DecimalDigits) (text : String) : Option PyFloat := do
  let ascii := ((text.toList.map (toAscii decimal)).dropWhile isAsciiSpace).rdropWhile isAsciiSpace
  let plain ← dropUnderscores ' ' ascii
  match plain with
  | '+' :: rest => signedOf false rest
  | '-' :: rest => signedOf true rest
  | rest => signedOf false rest

end Text

/-- `min(self, bound)`: the bound only if it is less. -/
def min (float : PyFloat) (bound : ℚ) : PyFloat :=
  match float with
  | .nan => .nan
  | .infinite true => .infinite true
  | .infinite false => .finite bound
  | .finite value => .finite (if bound < value then bound else value)

/-- `time.sleep`. -/
def sleep : PyFloat → Except PyException Unit
  | .nan => .error ⟨"ValueError", "Invalid value NaN (not a number)"⟩
  | .infinite _ => .error ⟨"OverflowError", "timestamp too large to convert to C PyTime_t"⟩
  | .finite value =>
    if 2 ^ 63 ≤ |value| * 10 ^ 9 then
      .error ⟨"OverflowError", "timestamp too large to convert to C PyTime_t"⟩
    else if value < 0 then .error ⟨"ValueError", "sleep length must be non-negative"⟩
    else .ok ()

/-- A float that can be slept for. -/
def Sleepable (float : PyFloat) : Prop :=
  float.sleep = .ok ()

theorem sleepable_finite_iff {value : ℚ} : Sleepable (.finite value) ↔ 0 ≤ value ∧ value * 10 ^ 9 < 2 ^ 63 := by
  rw [Sleepable, sleep]
  constructor
  · intro h
    split at h
    · cases h
    next hRange =>
      split at h
      · cases h
      next hSign =>
        rw [not_lt] at hSign
        rw [abs_of_nonneg hSign, not_le] at hRange
        exact ⟨hSign, hRange⟩
  · rintro ⟨hSign, hRange⟩
    rw [abs_of_nonneg hSign, if_neg (not_le.mpr hRange), if_neg (not_lt.mpr hSign)]

/-- A number that is not negative. -/
def NonNegative : PyFloat → Prop
  | .nan => False
  | .infinite negative => negative = false
  | .finite value => 0 ≤ value

instance instDecidableNonNegative : (float : PyFloat) → Decidable float.NonNegative
  | .nan => inferInstanceAs (Decidable False)
  | .infinite negative => inferInstanceAs (Decidable (negative = false))
  | .finite value => inferInstanceAs (Decidable (0 ≤ value))

/-- A capped delay that is not negative can be slept for when the cap can. -/
theorem sleepable_min {float : PyFloat} {bound : ℚ} (hBound : bound * 10 ^ 9 < 2 ^ 63)
    (h : (float.min bound).NonNegative) : (float.min bound).Sleepable := by
  cases float with
  | nan => exact h.elim
  | infinite negative =>
    cases negative with
    | true => cases h
    | false => exact sleepable_finite_iff.mpr ⟨h, hBound⟩
  | finite value =>
    rw [min] at h ⊢
    refine sleepable_finite_iff.mpr ⟨h, ?_⟩
    split
    · exact hBound
    next hLess =>
      rw [not_lt] at hLess
      linarith

end PyFloat

/-- A number given where a float is expected: an int will do. -/
inductive PyNumber where
  | int (value : Int)
  | float (value : ℚ)
  deriving DecidableEq

namespace PyNumber

def value : PyNumber → ℚ
  | int value => value
  | float value => value

/-- `self * 2 ** exponent`. To multiply a float, the power has to be made one. -/
def shift (exponent : Nat) : PyNumber → Option PyNumber
  | int value => some (.int (value * 2 ^ exponent))
  | float value => if exponent < 1024 then some (.float (value * 2 ^ exponent)) else none

/-- `min(self, bound)`: the bound only if it is less. -/
def min (number : PyNumber) (bound : ℚ) : PyNumber :=
  if bound < number.value then .float bound else number

/-- The float that an operand of a float is made. -/
def toFloat : PyNumber → Option ℚ
  | int value => if 2 ^ 1024 - 2 ^ 970 ≤ |value| then none else some value
  | float value => some value

theorem value_of_toFloat {number : PyNumber} {value : ℚ} (h : number.toFloat = some value) : number.value = value := by
  cases number with
  | int n =>
    rw [toFloat] at h
    split at h
    · cases h
    · exact Option.some.inj h
  | float x => exact Option.some.inj h

theorem value_min_le (number : PyNumber) (bound : ℚ) : (number.min bound).value ≤ bound := by
  rw [min]
  split
  · exact le_refl bound
  next h => exact not_lt.mp h

end PyNumber

inductive PyValue where
  | null
  | bool (value : Bool)
  | int (value : Int)
  | float (value : PyFloat)
  | str (text : PyStr)
  | list (items : List PyValue)
  | dict (members : List (PyStr × PyValue))

namespace PyValue

/-- `type(value).__name__`. -/
def typeName : PyValue → String
  | null => "NoneType"
  | bool _ => "bool"
  | int _ => "int"
  | float _ => "float"
  | str _ => "str"
  | list _ => "list"
  | dict _ => "dict"

/-- `members[name] = value`. -/
def setItem (name : PyStr) (value : PyValue) : List (PyStr × PyValue) → List (PyStr × PyValue)
  | [] => [(name, value)]
  | member :: members =>
    if member.1 = name then (name, value) :: members else member :: setItem name value members

/-- A value unpacked with `**`, which only a mapping can be. -/
def unpack : PyValue → Except PyException (List (PyStr × PyValue))
  | dict members => .ok members
  | value =>
    let name := value.typeName
    .error ⟨"TypeError", s!"'{name}' object is not a mapping"⟩

end PyValue
end PyStd
