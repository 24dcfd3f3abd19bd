import DataConnectHub.Binary.Rounding

/-! Conversions between the numeric types: `try_from` between integers, and
`as` from floats, which truncates and saturates. A result of 64-bit signed
arithmetic that does not fit stops a debug build, and is wrapped around in a
release build. -/
namespace RustStd

open Binary

def tryI8 (n : Int64) : Option Int8 :=
  if -2 ^ 7 ≤ n.toInt ∧ n.toInt < 2 ^ 7 then some (.ofInt n.toInt) else none

def tryI16 (n : Int64) : Option Int16 :=
  if -2 ^ 15 ≤ n.toInt ∧ n.toInt < 2 ^ 15 then some (.ofInt n.toInt) else none

def tryI32 (n : Int64) : Option Int32 :=
  if -2 ^ 31 ≤ n.toInt ∧ n.toInt < 2 ^ 31 then some (.ofInt n.toInt) else none

/-- The integer part. -/
def truncate (value : ℚ) : Int :=
  if 0 ≤ value then ⌊value⌋ else ⌈value⌉

def castI64 : Rounded → Int64
  | .finite value =>
    if 2 ^ 63 ≤ value then .maxValue
    else if value < -2 ^ 63 then .minValue
    else .ofInt (truncate value)
  | .infinite negative => if negative then .minValue else .maxValue

def castF32 : Rounded → Rounded
  | .finite value => binary32.round value
  | .infinite negative => .infinite negative

/-- An integer above all signed ones is saturated on the way through a float. -/
theorem castI64_round {n : Int} (h : 2 ^ 63 ≤ n) : castI64 (binary64.round n) = .maxValue := by
  have hPower : (2 : ℚ) ^ (63 : Int) ≤ n := by exact_mod_cast h
  cases hRound : binary64.round (n : ℚ) with
  | finite value => exact if_pos (by exact_mod_cast Format.le_of_round (by decide) hPower hRound)
  | infinite negative =>
    unfold Format.round at hRound
    dsimp only at hRound
    split at hRound
    · obtain rfl := Rounded.infinite.inj hRound
      have hSign : ¬(n : ℚ) < 0 := not_lt.mpr (le_trans (by positivity) hPower)
      simp [castI64, hSign]
    · cases hRound

def InI64 (value : Int) : Prop := -2 ^ 63 ≤ value ∧ value < 2 ^ 63

instance decidableInI64 (value : Int) : Decidable (InI64 value) := inferInstanceAs (Decidable (_ ∧ _))

/-- The integer of 64 bits that is equal modulo `2 ^ 64`; `as i64` gives it too. -/
def wrapI64 (value : Int) : Int := (value + 2 ^ 63) % 2 ^ 64 - 2 ^ 63

inductive Build where
  | debug
  | release

/-- What an operation gives whose exact result is `value`; nothing stands for a
panic. -/
def Build.i64 : Build → Int → Option Int
  | .debug, value => if InI64 value then some value else none
  | .release, value => some (wrapI64 value)

theorem wrapI64_eq {value : Int} (h : InI64 value) : wrapI64 value = value := by
  obtain ⟨hLow, hHigh⟩ := h
  rw [wrapI64]
  omega

theorem Build.i64_eq (build : Build) {value : Int} (h : InI64 value) : build.i64 value = some value := by
  cases build with
  | debug => exact if_pos h
  | release => exact congrArg some (wrapI64_eq h)


end RustStd
