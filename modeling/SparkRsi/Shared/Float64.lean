import Mathlib.Algebra.Order.Ring.Nat
import Mathlib.Algebra.Order.Field.Rat
import Mathlib.Data.Nat.Basic
import Mathlib.Algebra.Order.Field.Basic
import Mathlib.Tactic.Linarith

set_option autoImplicit false

/-!
# Binary64 patterns

Comparisons and the finite numbers, read off the bits.
-/

namespace Shared

structure Float64 where
  bits : UInt64
  deriving DecidableEq

namespace Float64

def magnitude (d : Float64) : Nat := d.bits.toNat % 2 ^ 63

def rank (d : Float64) : Int := if d.bits.toNat < 2 ^ 63 then d.magnitude else -d.magnitude

def isNaN (d : Float64) : Prop := 0x7ff0000000000000 < d.magnitude

def isFinite (d : Float64) : Prop := d.magnitude < 0x7ff0000000000000

def less (a b : Float64) : Prop := ¬a.isNaN ∧ ¬b.isNaN ∧ a.rank < b.rank

def atMost (a b : Float64) : Prop := ¬a.isNaN ∧ ¬b.isNaN ∧ a.rank ≤ b.rank

def equal (a b : Float64) : Prop := ¬a.isNaN ∧ ¬b.isNaN ∧ a.rank = b.rank

instance (d : Float64) : Decidable d.isNaN := Nat.decLt _ _
instance (d : Float64) : Decidable d.isFinite := Nat.decLt _ _
instance (a b : Float64) : Decidable (a.less b) := inferInstanceAs (Decidable (_ ∧ _ ∧ _))
instance (a b : Float64) : Decidable (a.atMost b) := inferInstanceAs (Decidable (_ ∧ _ ∧ _))
instance (a b : Float64) : Decidable (a.equal b) := inferInstanceAs (Decidable (_ ∧ _ ∧ _))

def zero : Float64 := ⟨0⟩

def negativeZero : Float64 := ⟨0x8000000000000000⟩

def one : Float64 := ⟨0x3ff0000000000000⟩

def canonical (d : Float64) : Float64 := if d.equal zero then zero else d

variable {d : Float64}

/-- A finite number without its sign, in steps of the smallest positive one. -/
def steps (d : Float64) : Nat :=
  let exponent := d.magnitude / 2 ^ 52
  let fraction := d.magnitude % 2 ^ 52
  if exponent = 0 then fraction else (2 ^ 52 + fraction) * 2 ^ (exponent - 1)

def unit : Nat := 2 ^ 1074

def value (d : Float64) : ℚ := if d.bits.toNat < 2 ^ 63 then d.steps / unit else -(d.steps / unit)

theorem pow_mul_le_unit {mantissa m n : Nat} (small : mantissa ≤ 2 ^ m) (fits : m + n ≤ 1074) :
    mantissa * 2 ^ n ≤ unit :=
  calc mantissa * 2 ^ n
    _ ≤ 2 ^ m * 2 ^ n := Nat.mul_le_mul_right _ small
    _ = 2 ^ (m + n) := (pow_add 2 m n).symm
    _ ≤ unit := Nat.pow_le_pow_right two_pos fits

-- Up to the pattern of one, no number is above it.
theorem steps_le (small : d.magnitude ≤ 1023 * 2 ^ 52) : d.steps ≤ unit := by
  have digits := Nat.div_add_mod d.magnitude (2 ^ 52)
  have fraction := Nat.mod_lt d.magnitude (Nat.two_pow_pos 52)
  rw [steps]
  generalize d.magnitude / 2 ^ 52 = exponent at *
  generalize d.magnitude % 2 ^ 52 = rest at *
  split
  next =>
    rw [← mul_one rest, ← pow_zero 2]
    exact pow_mul_le_unit fraction.le (by decide)
  next =>
    by_cases top : exponent = 1023
    next => exact @pow_mul_le_unit _ 52 _ (by omega) (by omega)
    next => exact @pow_mul_le_unit _ 53 _ (by omega) (by omega)

theorem value_le_one (most : d.atMost one) : d.value ≤ 1 := by
  have rank := most.2.2
  have top : one.rank = 1023 * 2 ^ 52 := by decide
  rw [top, Float64.rank] at rank
  have positive : (0 : ℚ) < unit := by exact_mod_cast Nat.two_pow_pos 1074
  rw [value]
  split at rank
  next nonnegative =>
    have small : (d.steps : ℚ) ≤ unit := by exact_mod_cast steps_le (by omega)
    rwa [if_pos nonnegative, div_le_one positive]
  next negative =>
    rw [if_neg negative]
    have share : 0 ≤ (d.steps : ℚ) / unit := div_nonneg (Nat.cast_nonneg _) positive.le
    linarith

theorem magnitude_of_equal_zero (zeros : d.equal zero) : d.magnitude = 0 := by
  have rank := zeros.2.2
  have positive : zero.rank = 0 := by decide
  rw [positive, Float64.rank] at rank
  split at rank
  next => omega
  next => omega

theorem canonical_magnitude (d : Float64) : d.canonical.magnitude = d.magnitude := by
  rw [canonical]
  split
  next zeros =>
    rw [magnitude_of_equal_zero zeros]
    decide
  next => rfl

theorem canonical_rank (d : Float64) : d.canonical.rank = d.rank := by
  rw [canonical]
  split
  next zeros => exact zeros.2.2.symm
  next => rfl

@[simp] theorem canonical_isNaN : d.canonical.isNaN ↔ d.isNaN := by rw [isNaN, isNaN, canonical_magnitude]

@[simp] theorem canonical_isFinite : d.canonical.isFinite ↔ d.isFinite := by
  rw [isFinite, isFinite, canonical_magnitude]

@[simp] theorem canonical_less {b : Float64} : d.canonical.less b ↔ d.less b := by
  rw [less, less, canonical_isNaN, canonical_rank]

@[simp] theorem less_canonical {b : Float64} : b.less d.canonical ↔ b.less d := by
  rw [less, less, canonical_isNaN, canonical_rank]

@[simp] theorem canonical_atMost {b : Float64} : d.canonical.atMost b ↔ d.atMost b := by
  rw [atMost, atMost, canonical_isNaN, canonical_rank]

@[simp] theorem canonical_equal {b : Float64} : d.canonical.equal b ↔ d.equal b := by
  rw [equal, equal, canonical_isNaN, canonical_rank]

@[simp] theorem canonical_canonical (d : Float64) : d.canonical.canonical = d.canonical := by
  by_cases zeros : d.equal zero
  next => rw [canonical, if_pos (canonical_equal.mpr zeros), canonical, if_pos zeros]
  next => rw [canonical, if_neg (mt canonical_equal.mp zeros)]

-- Only the negative zero changes.
theorem canonical_eq_self (positive : d ≠ negativeZero) : d.canonical = d := by
  rw [canonical]
  split
  next zeros =>
    have low := magnitude_of_equal_zero zeros
    have bound := d.bits.toNat_lt
    rw [magnitude] at low
    have digits : d.bits.toNat = 0 ∨ d.bits.toNat = 2 ^ 63 := by omega
    cases digits with
    | inl none =>
      have bits : d.bits = 0 := UInt64.toNat_inj.mp none
      rw [zero, ← bits]
    | inr sign =>
      have bits : d.bits = 0x8000000000000000 := UInt64.toNat_inj.mp sign
      apply absurd _ positive
      rw [negativeZero, ← bits]
  next => rfl

end Float64

end Shared
