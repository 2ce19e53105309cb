import Mathlib.Algebra.Order.Field.Basic
import Mathlib.Algebra.Order.Floor.Ring
import Mathlib.Tactic.FieldSimp
import Mathlib.Tactic.Linarith

namespace RailwayBooking.Numeric

variable {𝕜 : Type*} [Field 𝕜] [LinearOrder 𝕜]

def refilled (capacity rate level time : 𝕜) : 𝕜 := min capacity (level + time * rate)

variable {capacity rate level level' time time' : 𝕜}

theorem refilled_le_capacity : refilled capacity rate level time ≤ capacity := min_le_left _ _

theorem refilled_le_add : refilled capacity rate level time ≤ level + time * rate := min_le_right _ _

theorem refilled_zero (h : level ≤ capacity) : refilled capacity rate level 0 = level := by
  rw [refilled, zero_mul, add_zero]
  exact min_eq_right h

variable [IsStrictOrderedRing 𝕜]

theorem refilled_nonneg (hcapacity : 0 ≤ capacity) (hrate : 0 ≤ rate) (hlevel : 0 ≤ level)
    (htime : 0 ≤ time) : 0 ≤ refilled capacity rate level time :=
  le_min hcapacity (add_nonneg hlevel (mul_nonneg htime hrate))

theorem refilled_refilled (hrate : 0 ≤ rate) (htime : 0 ≤ time') :
    refilled capacity rate (refilled capacity rate level time) time' =
      refilled capacity rate level (time + time') := by
  have hgain : 0 ≤ time' * rate := mul_nonneg htime hrate
  unfold refilled
  rw [min_add, ← min_assoc, min_eq_left (le_add_of_nonneg_right hgain), add_mul, add_assoc]

theorem refilled_full (hrate : 0 < rate) (hlevel : 0 ≤ level) (h : capacity / rate ≤ time) :
    refilled capacity rate level time = capacity := by
  apply min_eq_left
  have hgain : capacity ≤ time * rate := (div_le_iff₀ hrate).mp h
  linarith

theorem le_refilled_iff {amount : 𝕜} (hrate : 0 < rate) (hamount : amount ≤ capacity) :
    amount ≤ refilled capacity rate level time ↔ (amount - level) / rate ≤ time := by
  rw [refilled, le_min_iff, div_le_iff₀ hrate, sub_le_iff_le_add']
  exact and_iff_right hamount

end RailwayBooking.Numeric
