import Mathlib.Algebra.Order.Floor.Semifield
import Mathlib.Data.Int.Log
import Mathlib.Data.Rat.Floor
import Mathlib.Tactic.Linarith
import Mathlib.Tactic.NormNum
import Mathlib.Tactic.Ring

namespace RailwayBooking.Numeric

section Round

variable {α : Type} [Field α] [LinearOrder α] [IsStrictOrderedRing α] [FloorRing α]

def roundEven (x : α) : ℤ :=
  if x - ⌊x⌋ < 1 / 2 then ⌊x⌋
  else if 1 / 2 < x - ⌊x⌋ then ⌊x⌋ + 1
  else if ⌊x⌋ % 2 = 0 then ⌊x⌋
  else ⌊x⌋ + 1

def roundUp (x : α) : ℤ := ⌊x + 1 / 2⌋

theorem abs_roundEven_sub_le (x : α) : |(roundEven x : α) - x| ≤ 1 / 2 := by
  have hle := Int.floor_le x
  have hlt := Int.lt_floor_add_one x
  unfold roundEven
  split_ifs with h₁ h₂ h₃
  · rw [abs_le]
    constructor <;> linarith
  · rw [abs_le]
    push_cast
    constructor <;> linarith
  · rw [abs_le]
    constructor <;> linarith
  · rw [abs_le]
    push_cast
    constructor <;> linarith

theorem roundUp_eq {x : α} {n : ℤ} (h : |x - n| < 1 / 2) : roundUp x = n := by
  rw [abs_lt] at h
  apply Int.floor_eq_iff.mpr
  constructor <;> linarith [h.1, h.2]

end Round

/-- The distance of the neighbours of `x` among the numbers with 53 significant
bits is a power of two, with this exponent. -/
def ulpExponent (x : ℚ) : ℤ := Int.log 2 |x| - 52

/-- A double: the number with 53 significant bits that is nearest to `x`, of two
the even one. Of values too small or too large for the exponent of a double
nothing is said. -/
def binary64 (x : ℚ) : ℚ := (roundEven (x / 2 ^ ulpExponent x) : ℚ) * 2 ^ ulpExponent x

theorem two_zpow_ulpExponent_le {x : ℚ} (h : x ≠ 0) : (2 : ℚ) ^ ulpExponent x ≤ |x| / 2 ^ 52 := by
  have hlog : (2 : ℚ) ^ Int.log 2 |x| ≤ |x| := Int.zpow_log_le_self (by norm_num) (abs_pos.mpr h)
  rw [ulpExponent, zpow_sub₀ two_ne_zero]
  exact div_le_div_of_nonneg_right hlog (by norm_num)

theorem abs_binary64_sub_le (x : ℚ) : |binary64 x - x| ≤ |x| / 2 ^ 53 := by
  by_cases h : x = 0
  · subst h
    simp [binary64, roundEven]
  · have hpos : (0 : ℚ) < 2 ^ ulpExponent x := zpow_pos two_pos _
    have hround := abs_roundEven_sub_le (x / 2 ^ ulpExponent x)
    calc |binary64 x - x|
        = |(roundEven (x / 2 ^ ulpExponent x) : ℚ) - x / 2 ^ ulpExponent x| *
            2 ^ ulpExponent x := by
          rw [binary64, ← abs_of_pos hpos, ← abs_mul, abs_of_pos hpos, sub_mul,
            div_mul_cancel₀ x hpos.ne']
      _ ≤ 1 / 2 * (|x| / 2 ^ 52) :=
          mul_le_mul hround (two_zpow_ulpExponent_le h) hpos.le (by norm_num)
      _ = |x| / 2 ^ 53 := by ring

theorem abs_binary64_sub_le_of_le {x b : ℚ} (h : |x| ≤ b) : |binary64 x - x| ≤ b / 2 ^ 53 :=
  (abs_binary64_sub_le x).trans (div_le_div_of_nonneg_right h (by norm_num))

end RailwayBooking.Numeric
