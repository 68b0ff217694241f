import SparkRsi.Measure.Select
import Mathlib.Order.Bounds.Basic

set_option autoImplicit false

namespace SparkRsi.Measure

open Shared Shared.OrderStatistics SparkRsi.Graph

def Rounding.none : Rounding := ⟨id, fun _ _ below => below, id_zero, id_one⟩

def nearestIndex (percent : ℚ) (n : Nat) : Nat :=
  (max 0 (min (⌈percent * n / 100⌉ - 1) ((n : Int) - 1))).toNat

section Index

variable {percent : ℚ} {n : Nat}

theorem nearestIndex_lt (filled : 0 < n) : nearestIndex percent n < n := by
  rw [nearestIndex]
  omega

-- So many values reach the percentage where the place is among them.
theorem nearestIndex_lt_iff (high : percent ≤ 100) {count : Nat} (positive : 0 < count) :
    nearestIndex percent n < count ↔ percent / 100 * n ≤ count := by
  have whole : ⌈percent * n / 100⌉ ≤ (n : Int) := by
    rw [Int.ceil_le]
    have scaled : percent * n ≤ 100 * n := mul_le_mul_of_nonneg_right high (Nat.cast_nonneg n)
    rw [div_le_iff₀ (by norm_num)]
    push_cast
    linarith
  have reaches : ⌈percent * n / 100⌉ ≤ (count : Int) ↔ percent / 100 * n ≤ count := by
    rw [Int.ceil_le, Int.cast_natCast, div_mul_eq_mul_div]
  rw [← reaches, nearestIndex]
  omega

end Index

section Samples

variable (display : Display) {values : List ℚ} {percent : ℚ}

theorem finiteValues_finite (values : List ℚ) : finiteValues (values.map .finite) = values := by
  induction values with
  | nil => rfl
  | cons v rest ih =>
    rw [List.map_cons, finiteValues, List.filterMap_cons]
    exact congrArg (v :: ·) ih

theorem validateSamples_finite (filled : values ≠ []) (nonneg : ∀ v ∈ values, 0 ≤ v) :
    validateSamples display (values.map .finite) = .ok () := by
  simp only [validateSamples, then_eq_ok, refuseIf_eq_ok, forM_eq_ok]
  constructor
  next => simpa using filled
  next =>
    intro numbered member
    obtain ⟨v, i⟩ := numbered
    have listed := List.fst_mem_of_mem_zipIdx member
    obtain ⟨q, inside, rfl⟩ := List.mem_map.mp listed
    exact refuseIf_eq_ok.mpr (not_lt.mpr (nonneg q inside))

-- The percentile is the sorted value at the nearest rank.
theorem percentileNearestRank_eq (filled : values ≠ []) (nonneg : ∀ v ∈ values, 0 ≤ v) (low : 0 ≤ percent)
    (high : percent ≤ 100) {x : ℚ} (placed : (sorted values)[nearestIndex percent values.length]? = some x) :
    percentileNearestRank display .none (values.map .finite) (.finite percent) = .ok (.finite x) := by
  simp only [percentileNearestRank, validateSamples_finite display filled nonneg, ok_bind, then_eq_ok,
    refuseIf_eq_ok, not_not, finiteValues_finite, length_sorted]
  refine ⟨⟨low, high⟩, ?_⟩
  rw [List.getD_eq_getElem?_getD]
  exact congrArg (fun found : Option ℚ => Except.ok (Real64.finite (found.getD 0))) placed

def reaching (percent : ℚ) (values : List ℚ) : Set ℚ :=
  {y | y ∈ values ∧ percent / 100 * values.length ≤ values.countP fun z => decide (z ≤ y)}

/-- Among nonempty, nonnegative samples the percentile is the least one that reaches the percentage. -/
theorem percentileNearestRank_exact (filled : values ≠ []) (nonneg : ∀ v ∈ values, 0 ≤ v) (low : 0 ≤ percent)
    (high : percent ≤ 100) :
    nearestIndex percent values.length < values.length ∧
      (∃ x, (sorted values)[nearestIndex percent values.length]? = some x ∧
        percentileNearestRank display .none (values.map .finite) (.finite percent) = .ok (.finite x) ∧
        IsLeast (reaching percent values) x ∧
        (percent = 0 → IsLeast {y | y ∈ values} x)) ∧
      ∀ other : List ℚ, other.Perm values →
        percentileNearestRank display .none (other.map .finite) (.finite percent) =
          percentileNearestRank display .none (values.map .finite) (.finite percent) := by
  have some_ : 0 < values.length := List.length_pos_iff.mpr filled
  have inside : nearestIndex percent values.length < (sorted values).length := by
    rw [length_sorted]
    exact nearestIndex_lt some_
  have counted {y : ℚ} (member : y ∈ values) : 0 < values.countP fun z => decide (z ≤ y) :=
    List.countP_pos_iff.mpr ⟨y, member, decide_eq_true le_rfl⟩
  have member : (sorted values)[nearestIndex percent values.length] ∈ values :=
    (sorted_perm values).mem_iff.mp (List.getElem_mem inside)
  have reached {y : ℚ} (listed : y ∈ values) : (sorted values)[nearestIndex percent values.length] ≤ y ↔
      percent / 100 * values.length ≤ values.countP fun z => decide (z ≤ y) := by
    rw [sorted_le_iff values y inside, nearestIndex_lt_iff high (counted listed)]
  have placed := List.getElem?_eq_getElem inside
  refine ⟨nearestIndex_lt some_, ⟨_, placed, ?_, ⟨⟨member, (reached member).mp le_rfl⟩, ?_⟩, ?_⟩, ?_⟩
  · exact percentileNearestRank_eq display filled nonneg low high placed
  · intro y least
    exact (reached least.1).mpr least.2
  · intro none
    refine ⟨member, ?_⟩
    intro y listed
    rw [reached listed, none]
    simp
  · intro other perm
    have same : sorted other = sorted values :=
      sorted_eq (perm.trans (sorted_perm values).symm) (sorted_pairwise values)
    have filled' : other ≠ [] := fun empty => filled (List.perm_nil.mp (empty ▸ perm.symm))
    have nonneg' : ∀ v ∈ other, 0 ≤ v := fun v listed => nonneg v (perm.mem_iff.mp listed)
    rw [percentileNearestRank_eq display filled nonneg low high placed]
    apply percentileNearestRank_eq display filled' nonneg' low high
    rw [same, perm.length_eq, placed]

end Samples

section Sample

def emptyDisplay : Display := ⟨fun _ => "", fun _ => "", fun _ => "", fun _ => ""⟩

theorem percentileNearestRank_exact_ties : ∃ x,
    percentileNearestRank emptyDisplay .none (([3, 1, 3, 2] : List ℚ).map .finite) (.finite 50) = .ok (.finite x) ∧
      IsLeast (reaching 50 [3, 1, 3, 2]) x := by
  have exact_ := @percentileNearestRank_exact emptyDisplay [3, 1, 3, 2] 50 (by simp) (by simp) (by norm_num) (by norm_num)
  obtain ⟨x, -, returned, least, -⟩ := exact_.2.1
  exact ⟨x, returned, least⟩

end Sample

end SparkRsi.Measure
