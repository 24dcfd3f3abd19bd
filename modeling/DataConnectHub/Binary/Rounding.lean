import Mathlib.Algebra.Order.Floor.Semiring
import Mathlib.Data.Int.Log
import Mathlib.Data.Rat.Floor

/-! Binary floating-point formats. A finite float is the number it stands for,
and a number is rounded to the nearest one of the format, to an even last bit
when two are equally near. -/
namespace Binary

/-- Numbers with `precision` bits, whose last bit is at least `2 ^ least`; from
`2 ^ limit` on they are infinite. -/
structure Format where
  precision : Nat
  least : Int
  limit : Int

def binary64 : Format := ⟨53, -1074, 1024⟩

def binary32 : Format := ⟨24, -149, 128⟩

inductive Rounded where
  | finite (value : ℚ)
  | infinite (negative : Bool)
  deriving DecidableEq

/-- The nearest integer, the even one of two. -/
def nearestEven (value : ℚ) : Int :=
  let rest := value - ⌊value⌋
  if rest < 1 / 2 then ⌊value⌋
  else if 1 / 2 < rest then ⌊value⌋ + 1
  else if ⌊value⌋ % 2 = 0 then ⌊value⌋ else ⌊value⌋ + 1

namespace Format

variable (format : Format) (value : ℚ)

/-- The place of the last bit that is kept of a number. -/
def place : Int := max (Int.log 2 |value| - (format.precision - 1 : Nat)) format.least

def round : Rounded :=
  let rounded := (nearestEven (value / 2 ^ format.place value) : ℚ) * 2 ^ format.place value
  if 2 ^ format.limit ≤ |rounded| then .infinite (value < 0) else .finite rounded

end Format

theorem floor_le_nearestEven (value : ℚ) : ⌊value⌋ ≤ nearestEven value := by
  unfold nearestEven
  dsimp only
  split
  · exact le_rfl
  · split
    · omega
    · split <;> omega

/-- Rounding keeps a number above the powers of two that it is above. -/
theorem Format.le_of_round {format : Format} {value rounded : ℚ} {k : Int} (hLeast : format.least ≤ k)
    (hValue : 2 ^ k ≤ value) (h : format.round value = .finite rounded) : 2 ^ k ≤ rounded := by
  have hTwo : (1 : ℚ) < 2 := by norm_num
  have hUnit (place : Int) : (0 : ℚ) < 2 ^ place := zpow_pos (by norm_num) place
  have hPos : 0 < value := lt_of_lt_of_le (hUnit k) hValue
  have hLog : k ≤ Int.log 2 value := (Int.zpow_le_iff_le_log (by norm_num) hPos).mp (by exact_mod_cast hValue)
  have hPlace : format.place value ≤ Int.log 2 value := by
    rw [place, abs_of_pos hPos]
    omega
  unfold round at h
  dsimp only at h
  split at h
  · cases h
  obtain rfl := Rounded.finite.inj h
  -- the leading bit of the value is a multiple of the place
  obtain ⟨shift, hShift⟩ := Int.eq_ofNat_of_zero_le (sub_nonneg.mpr hPlace)
  have hLeading : ((2 ^ shift : Int) : ℚ) * 2 ^ format.place value = 2 ^ Int.log 2 value := by
    push_cast
    rw [← zpow_natCast, ← zpow_add₀ (by norm_num)]
    congr 1
    omega
  have hFloor : (2 ^ shift : Int) ≤ ⌊value / 2 ^ format.place value⌋ := by
    rw [Int.le_floor, le_div_iff₀ (hUnit _), hLeading]
    exact_mod_cast Int.zpow_log_le_self (b := 2) (by norm_num) hPos
  have hNearest : ((2 ^ shift : Int) : ℚ) ≤ nearestEven (value / 2 ^ format.place value) :=
    Int.cast_le.mpr (hFloor.trans (floor_le_nearestEven _))
  calc (2 : ℚ) ^ k ≤ 2 ^ Int.log 2 value := zpow_le_zpow_right₀ hTwo.le hLog
    _ = ((2 ^ shift : Int) : ℚ) * 2 ^ format.place value := hLeading.symm
    _ ≤ _ := mul_le_mul_of_nonneg_right hNearest (hUnit _).le

end Binary
