import Mathlib.Algebra.BigOperators.Field
import Mathlib.Analysis.SpecialFunctions.Log.Basic
import Mathlib.Data.Nat.Choose.Vandermonde

set_option autoImplicit false

/-!
# The hypergeometric distribution

Its weights over the draws that can happen, and what they are in logarithms of
factorials.
-/

namespace Shared.Hypergeometric

open Finset

variable {r s m k : ℕ}

/-- The chance of `k` marked ones among `m` drawn from `r` marked and `s` unmarked ones. -/
noncomputable def weight (r s m k : ℕ) : ℝ := (r.choose k * s.choose (m - k) : ℕ) / (r + s).choose m

-- Only from `m - s` to `min r m` are there draws.
theorem sum_choose (r s m : ℕ) :
    ∑ k ∈ Icc (m - s) (min r m), r.choose k * s.choose (m - k) = (r + s).choose m := by
  rw [Nat.add_choose_eq, Finset.Nat.sum_antidiagonal_eq_sum_range_succ_mk]
  apply sum_subset
  next =>
    intro k inside
    rw [mem_Icc] at inside
    rw [mem_range]
    omega
  next =>
    intro k small outside
    rw [mem_range] at small
    rw [mem_Icc, not_and_or, not_le, not_le] at outside
    cases outside with
    | inl few => rw [Nat.choose_eq_zero_of_lt (by omega : s < m - k), mul_zero]
    | inr many => rw [Nat.choose_eq_zero_of_lt (by omega : r < k), zero_mul]

theorem sum_weight (possible : m ≤ r + s) : ∑ k ∈ Icc (m - s) (min r m), weight r s m k = 1 := by
  have positive : ((r + s).choose m : ℝ) ≠ 0 := by exact_mod_cast (Nat.choose_pos possible).ne'
  rw [← div_self positive]
  simp only [weight]
  rw [← sum_div, ← Nat.cast_sum, sum_choose]

noncomputable def logFactorial (n : ℕ) : ℝ := Real.log n.factorial

theorem logFactorial_succ (n : ℕ) : logFactorial (n + 1) = logFactorial n + Real.log (n + 1 : ℕ) := by
  have positive : (n.factorial : ℝ) ≠ 0 := by exact_mod_cast n.factorial_ne_zero
  have next : ((n + 1 : ℕ) : ℝ) ≠ 0 := by exact_mod_cast n.succ_ne_zero
  rw [logFactorial, Nat.factorial_succ, Nat.cast_mul, Real.log_mul next positive, add_comm]
  rfl

theorem exp_logFactorial (n : ℕ) : Real.exp (logFactorial n) = n.factorial :=
  Real.exp_log (by exact_mod_cast n.factorial_pos)

-- A weight out of logarithms of factorials.
theorem exp_logFactorials (drawn : k ≤ r) (others : k ≤ m) (left : m ≤ s + k) :
    Real.exp (logFactorial r + logFactorial s + logFactorial m + logFactorial (r + s - m) - logFactorial (r + s) -
      logFactorial k - logFactorial (r - k) - logFactorial (m - k) - logFactorial (s + k - m)) = weight r s m k := by
  have rest : s - (m - k) = s + k - m := by omega
  have first := Nat.choose_mul_factorial_mul_factorial drawn
  have second := Nat.choose_mul_factorial_mul_factorial (show m - k ≤ s by omega)
  have third := Nat.choose_mul_factorial_mul_factorial (show m ≤ r + s by omega)
  rw [rest] at second
  simp only [Real.exp_sub, Real.exp_add, exp_logFactorial, weight]
  have pos (n : ℕ) : (n.factorial : ℝ) ≠ 0 := by exact_mod_cast n.factorial_ne_zero
  have total : ((r + s).choose m : ℝ) ≠ 0 := by
    exact_mod_cast (Nat.choose_pos (show m ≤ r + s by omega)).ne'
  rw [← first, ← second, ← third]
  push_cast
  field_simp [pos]

end Shared.Hypergeometric
