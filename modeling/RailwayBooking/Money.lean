import Mathlib.Data.List.Induction
import RailwayBooking.Numeric.Binary64

namespace RailwayBooking

open Numeric

/-- `Math.round(Number(price) * 100)`, for a decimal of two places that is given by
its hundredths. -/
def minorUnits (price : Nat) : Nat := (roundUp (binary64 (binary64 (price / 100) * 100))).toNat

/-- `x.toFixed(2)`, by its hundredths: of the nearest two decimals the larger one, for a number
that is not negative. -/
def toFixed2 (x : ℚ) : Nat := (roundUp (x * 100)).toNat

/-- The hundredths of the decimal `(amount / 100).toFixed(2)`. -/
def decimalAmount (amount : Nat) : Nat := toFixed2 (binary64 (amount / 100))

/-- The values of a column `Decimal(12, 2)`, in hundredths. -/
def decimalLimit : Nat := 10 ^ 12

/-- `prices.reduce((sum, price) => sum + price, 0)` for prices that are given by their
hundredths, each sum a double. -/
def doubleTotal (prices : List Nat) : ℚ :=
  prices.foldl (fun (sum : ℚ) (price : Nat) => binary64 (sum + binary64 (price / 100))) 0

def decimalTotal (prices : List Nat) : Nat := (roundUp (doubleTotal prices * 100)).toNat

section Exact

variable {n : Nat}

theorem abs_hundredth (n : Nat) : |(n / 100 : ℚ)| = n / 100 :=
  abs_of_nonneg (div_nonneg n.cast_nonneg (by norm_num))

theorem abs_hundred_mul_sub_le (n : Nat) : |binary64 (n / 100) * 100 - n| ≤ (n : ℚ) / 2 ^ 53 := by
  have h := abs_binary64_sub_le (n / 100 : ℚ)
  rw [abs_hundredth] at h
  calc |binary64 (n / 100) * 100 - n|
      = |(binary64 (n / 100) - n / 100) * 100| := by rw [sub_mul, div_mul_cancel₀ _ (by norm_num)]
    _ = |binary64 (n / 100) - n / 100| * 100 := by
        rw [abs_mul, abs_of_pos (by norm_num : (0 : ℚ) < 100)]
    _ ≤ (n / 100 / 2 ^ 53) * 100 := mul_le_mul_of_nonneg_right h (by norm_num)
    _ = (n : ℚ) / 2 ^ 53 := by ring

theorem decimalAmount_eq (h : n < decimalLimit) : decimalAmount n = n := by
  have hn : (n : ℚ) < 10 ^ 12 := by exact_mod_cast h
  have herr := abs_hundred_mul_sub_le n
  have hround : roundUp (binary64 (n / 100) * 100) = (n : ℤ) := by
    apply roundUp_eq
    push_cast
    linarith
  rw [decimalAmount, toFixed2, hround, Int.toNat_natCast]

theorem minorUnits_eq (h : n < decimalLimit) : minorUnits n = n := by
  have hn : (n : ℚ) < 10 ^ 12 := by exact_mod_cast h
  have herr := abs_hundred_mul_sub_le n
  have hbound : |binary64 (n / 100) * 100| ≤ 2 * 10 ^ 12 := by
    have habs := abs_le.mp herr
    rw [abs_le]
    constructor <;> linarith [habs.1, habs.2, (n.cast_nonneg : (0 : ℚ) ≤ n)]
  have hmul := abs_binary64_sub_le_of_le hbound
  have hround : roundUp (binary64 (binary64 (n / 100) * 100)) = (n : ℤ) := by
    apply roundUp_eq
    push_cast
    have htri := abs_sub_le (binary64 (binary64 (n / 100) * 100)) (binary64 (n / 100) * 100) (n : ℚ)
    linarith
  rw [minorUnits, hround, Int.toNat_natCast]

end Exact

section Total

def totalError : ℚ := 1 / 2 ^ 18

variable {prices : List Nat} {price : Nat} {sum : ℚ}

theorem abs_addition_sub_le {n k : Nat} (h : |sum - n / 100| ≤ k * totalError) (hk : k ≤ 1000)
    (hn : n + price < decimalLimit) :
    |binary64 (sum + binary64 (price / 100)) - (n + price : Nat) / 100| ≤
      (k + 1 : Nat) * totalError := by
  have hbound : (n : ℚ) + price < 10 ^ 12 := by exact_mod_cast hn
  have hn0 : (0 : ℚ) ≤ n := n.cast_nonneg
  have hp0 : (0 : ℚ) ≤ price := price.cast_nonneg
  have hk0 : (k : ℚ) ≤ 1000 := by exact_mod_cast hk
  have hsmall : (k : ℚ) * totalError ≤ 1 := by
    unfold totalError
    linarith
  have hterm := abs_binary64_sub_le_of_le
    (show |(price / 100 : ℚ)| ≤ 10 ^ 10 by rw [abs_hundredth]; linarith)
  have hdist := abs_le.mp h
  have hterm' := abs_le.mp hterm
  have hsum := abs_binary64_sub_le_of_le
    (show |sum + binary64 (price / 100)| ≤ 2 * 10 ^ 10 by
      rw [abs_le]
      constructor <;> linarith)
  have hsum' := abs_le.mp hsum
  unfold totalError at hdist ⊢
  push_cast
  rw [abs_le]
  constructor <;> linarith

theorem abs_doubleTotal_sub_le (hlen : prices.length ≤ 1000) (hsum : prices.sum < decimalLimit) :
    |doubleTotal prices - (prices.sum : Nat) / 100| ≤ prices.length * totalError := by
  induction prices using List.reverseRecOn with
  | nil => simp [doubleTotal]
  | append_singleton prices price ih =>
    rw [List.length_append, List.length_singleton] at hlen ⊢
    rw [List.sum_append, List.sum_singleton] at hsum ⊢
    rw [doubleTotal, List.foldl_append]
    exact abs_addition_sub_le (ih (by omega) (by omega)) (by omega) hsum

theorem decimalTotal_eq (hlen : prices.length ≤ 1000) (hsum : prices.sum < decimalLimit) :
    decimalTotal prices = prices.sum := by
  have herr := abs_le.mp (abs_doubleTotal_sub_le hlen hsum)
  have hlen' : (prices.length : ℚ) ≤ 1000 := by exact_mod_cast hlen
  rw [decimalTotal]
  generalize prices.sum = n at herr ⊢
  have hround : roundUp (doubleTotal prices * 100) = (n : ℤ) := by
    apply roundUp_eq
    unfold totalError at herr
    push_cast
    rw [abs_lt]
    constructor <;> linarith
  rw [hround, Int.toNat_natCast]

end Total

end RailwayBooking
