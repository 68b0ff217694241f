import SparkRsi.Evaluator.Statistics
import Mathlib.Tactic.Linarith

set_option autoImplicit false

namespace SparkRsi.Evaluator

open Shared.OrderStatistics StatisticalEngine

section Percentile

-- A percentile lies between two places that depend on the number of the samples only.
theorem calculatePercentile_eq (pct : ℚ) {n : Nat} (filled : 0 < n) :
    ∃ (low high : Nat) (weight : ℚ), low < n ∧ high < n ∧ 0 ≤ weight ∧ weight < 1 ∧
      ∀ samples : List ℚ, samples.length = n →
        LatencyDistribution.calculatePercentile samples pct =
          some (samples.getD low 0 * (1 - weight) + samples.getD high 0 * weight) := by
  by_cases single : n = 1
  next =>
    refine ⟨0, 0, 0, filled, filled, le_rfl, one_pos, ?_⟩
    intro samples length
    rw [LatencyDistribution.calculatePercentile, length, if_neg (by omega), if_pos single,
      List.getElem?_eq_getElem (by omega), List.getD_eq_getElem _ _ (by omega)]
    simp
  next =>
    let rank : ℚ := max 0 (min pct 100) / 100 * ((n - 1 : Nat) : ℚ)
    have nonneg : 0 ≤ rank := mul_nonneg (div_nonneg (le_max_left _ _) (by norm_num)) (Nat.cast_nonneg _)
    have most : rank ≤ (n - 1 : Nat) := by
      apply mul_le_of_le_one_left (Nat.cast_nonneg _)
      rw [div_le_one (by norm_num)]
      exact max_le (by norm_num) (min_le_right _ _)
    have floorBound : ⌊rank⌋.toNat < n := by
      have below : ⌊rank⌋ ≤ (n - 1 : Nat) := Int.cast_le.mp ((Int.floor_le rank).trans most)
      omega
    have ceilBound : ⌈rank⌉.toNat < n := by
      have below : ⌈rank⌉ ≤ (n - 1 : Nat) := Int.ceil_le.mpr most
      omega
    have floored : ((⌊rank⌋.toNat : Nat) : ℚ) = ⌊rank⌋ := by
      exact_mod_cast Int.toNat_of_nonneg (Int.floor_nonneg.mpr nonneg)
    by_cases whole : ⌊rank⌋.toNat = ⌈rank⌉.toNat
    next =>
      refine ⟨⌊rank⌋.toNat, ⌊rank⌋.toNat, 0, floorBound, floorBound, le_rfl, one_pos, ?_⟩
      intro samples length
      have inside : ⌊rank⌋.toNat < samples.length := length ▸ floorBound
      rw [LatencyDistribution.calculatePercentile, length, if_neg (by omega), if_neg single, if_pos whole,
        List.getElem?_eq_getElem inside, List.getD_eq_getElem _ _ inside]
      simp
    next =>
      refine ⟨⌊rank⌋.toNat, ⌈rank⌉.toNat, rank - ⌊rank⌋.toNat, floorBound, ceilBound, ?_, ?_, ?_⟩
      next =>
        rw [floored]
        exact sub_nonneg.mpr (Int.floor_le rank)
      next =>
        rw [floored]
        linarith [Int.lt_floor_add_one rank]
      next =>
        intro samples length
        have inside : ⌊rank⌋.toNat < samples.length := length ▸ floorBound
        have inside' : ⌈rank⌉.toNat < samples.length := length ▸ ceilBound
        rw [LatencyDistribution.calculatePercentile, length, if_neg (by omega), if_neg single, if_neg whole,
          List.getElem?_eq_getElem inside, List.getElem?_eq_getElem inside', List.getD_eq_getElem _ _ inside,
          List.getD_eq_getElem _ _ inside']
        rfl

theorem interpolation_le {a b c d w : ℚ} (nonneg : 0 ≤ w) (small : w < 1) (low : a ≤ c) (high : b ≤ d) :
    a * (1 - w) + b * w ≤ c * (1 - w) + d * w :=
  add_le_add (mul_le_mul_of_nonneg_right low (by linarith)) (mul_le_mul_of_nonneg_right high nonneg)

theorem interpolation_lt {a b c d w : ℚ} (nonneg : 0 ≤ w) (small : w < 1) (low : a < c) (high : b < d) :
    a * (1 - w) + b * w < c * (1 - w) + d * w :=
  add_lt_add_of_lt_of_le (mul_lt_mul_of_pos_right low (by linarith)) (mul_le_mul_of_nonneg_right high.le nonneg)

variable {parent candidate : List ℚ} {k : ℚ}

theorem percentile_bounded (pct : ℚ) (positive : 0 ≤ k) (filled : 0 < parent.length)
    (pairs : List.Forall₂ (fun c p => c ≤ k * p) candidate parent) :
    ∃ p c, LatencyDistribution.calculatePercentile (sorted parent) pct = some p ∧
      LatencyDistribution.calculatePercentile (sorted candidate) pct = some c ∧ c ≤ k * p := by
  obtain ⟨low, high, w, lowInside, highInside, nonneg, small, reads⟩ := calculatePercentile_eq pct filled
  have place {i : Nat} (inside : i < parent.length) : (sorted candidate).getD i 0 ≤
      k * (sorted parent).getD i 0 := by
    have first : i < (sorted candidate).length := by
      rw [length_sorted, pairs.length_eq]
      exact inside
    have second : i < (sorted parent).length := by
      rw [length_sorted]
      exact inside
    rw [List.getD_eq_getElem _ _ first, List.getD_eq_getElem _ _ second]
    exact sorted_le_map (f := fun p => k * p) (fun _ _ less => mul_le_mul_of_nonneg_left less positive) pairs first second
  refine ⟨_, _, reads _ (length_sorted parent), reads _ ((length_sorted candidate).trans pairs.length_eq), ?_⟩
  apply (interpolation_le nonneg small (place lowInside) (place highInside)).trans_eq
  ring

theorem percentile_exceeds (pct : ℚ) (positive : 0 < k) (filled : 0 < parent.length) {least : ℚ}
    (large : ∀ p ∈ parent, least < p) (pairs : List.Forall₂ (fun c p => k * p < c) candidate parent) :
    ∃ p c, LatencyDistribution.calculatePercentile (sorted parent) pct = some p ∧
      LatencyDistribution.calculatePercentile (sorted candidate) pct = some c ∧ least < p ∧ k * p < c := by
  obtain ⟨low, high, w, lowInside, highInside, nonneg, small, reads⟩ := calculatePercentile_eq pct filled
  have inside {i : Nat} (inside : i < parent.length) : i < (sorted parent).length :=
    (length_sorted parent).symm ▸ inside
  have above {i : Nat} (here : i < parent.length) : least < (sorted parent).getD i 0 := by
    rw [List.getD_eq_getElem _ _ (inside here)]
    exact large _ ((sorted_perm parent).mem_iff.mp (List.getElem_mem _))
  have place {i : Nat} (here : i < parent.length) : k * (sorted parent).getD i 0 <
      (sorted candidate).getD i 0 := by
    have first : i < (sorted candidate).length := by
      rw [length_sorted, pairs.length_eq]
      exact here
    rw [List.getD_eq_getElem _ _ first, List.getD_eq_getElem _ _ (inside here)]
    exact map_lt_sorted (f := fun p => k * p) (fun _ _ less => mul_lt_mul_of_pos_left less positive) pairs first (inside here)
  refine ⟨_, _, reads _ (length_sorted parent), reads _ ((length_sorted candidate).trans pairs.length_eq),
    ?_, ?_⟩
  next =>
    have both := interpolation_lt nonneg small (above lowInside) (above highInside)
    linarith
  next =>
    have both := interpolation_lt nonneg small (place lowInside) (place highInside)
    linarith

end Percentile

section Bound

variable {parent candidate : List ℚ} {margin : ℚ}

theorem degradation_le (nonneg : 0 ≤ margin) {p c : ℚ} (bounded : c ≤ (1 + margin / 100) * p) :
    degradationPct p c ≤ margin := by
  unfold degradationPct
  split
  next large =>
    have positive : 0 < p := lt_trans (by norm_num) large
    have share : (c - p) / p ≤ margin / 100 := by
      rw [div_le_iff₀ positive]
      linarith
    linarith
  next => exact nonneg

theorem margin_lt_degradation {p c : ℚ} (large : 1 / 1000000000 < p) (exceeds : (1 + margin / 100) * p < c) :
    margin < degradationPct p c := by
  rw [degradationPct, if_pos large]
  have positive : 0 < p := lt_trans (by norm_num) large
  have share : margin / 100 < (c - p) / p := by
    rw [lt_div_iff₀ positive]
    linarith
  linarith

theorem picked_pairs {R : ℚ → ℚ → Prop} (pairs : List.Forall₂ R candidate parent) {indices : List Nat}
    (within : ∀ idx ∈ indices, idx < parent.length) :
    List.Forall₂ R (picked candidate indices) (picked parent indices) := by
  rw [picked, picked, List.forall₂_map_left_iff, List.forall₂_map_right_iff, List.forall₂_same]
  intro idx drawn
  have second := within idx drawn
  have first : idx < candidate.length := pairs.length_eq ▸ second
  rw [List.getD_eq_getElem _ _ first, List.getD_eq_getElem _ _ second]
  exact pairs.get first second

variable {σ : Type} (source : IndexSource σ) {pct : ℚ} {Q : ℚ → Prop}

-- What holds of the degradation of every resample of pairs holds of all that are drawn.
theorem degradationSamples_all (lengths : parent.length = candidate.length) (filled : 0 < parent.length)
    (each : ∀ indices : List Nat, indices.length = parent.length → (∀ idx ∈ indices, idx < parent.length) →
      ∃ p c, LatencyDistribution.calculatePercentile (sorted (picked parent indices)) pct = some p ∧
        LatencyDistribution.calculatePercentile (sorted (picked candidate indices)) pct = some c ∧ Q (degradationPct p c))
    (b : Nat) (s : σ) :
    ∃ samples, degradationSamples source parent candidate pct b s = some samples ∧ samples.length = b ∧
      ∀ d ∈ samples, Q d := by
  induction b generalizing s with
  | zero => exact ⟨[], rfl, rfl, fun _ none => absurd none List.not_mem_nil⟩
  | succ b ih =>
    have drawn := drawIndices_within source filled parent.length s
    obtain ⟨p, c, parentVal, candidateVal, holds⟩ := each _ drawn.1 drawn.2
    obtain ⟨rest, later, length, all⟩ := ih (drawIndices source parent.length parent.length s).2
    refine ⟨degradationPct p c :: rest, ?_, congrArg (· + 1) length, List.forall_mem_cons.mpr ⟨holds, all⟩⟩
    have within : ∀ idx ∈ (drawIndices source parent.length parent.length s).1, idx < candidate.length :=
      lengths ▸ drawn.2
    simp only [degradationSamples, if_pos lengths, pick_within drawn.2, pick_within within, parentVal,
      candidateVal, later, Option.bind_eq_bind, Option.bind_some]
    rfl

-- The upper bound is one of the degradations.
theorem evaluateTailNonInferiority_bound (lengths : parent.length = candidate.length)
    (filled : 0 < parent.length)
    (each : ∀ indices : List Nat, indices.length = parent.length → (∀ idx ∈ indices, idx < parent.length) →
      ∃ p c, LatencyDistribution.calculatePercentile (sorted (picked parent indices)) pct = some p ∧
        LatencyDistribution.calculatePercentile (sorted (picked candidate indices)) pct = some c ∧ Q (degradationPct p c))
    (count : Nat) (start : σ) :
    ∃ r, evaluateTailNonInferiorityFrom source start parent candidate pct margin count = some (.ok r) ∧
      Q r.ci95UpperPct ∧ r.passesNonInferiority = decide (r.ci95UpperPct ≤ margin) := by
  obtain ⟨samples, drawn, length, all⟩ :=
    degradationSamples_all source lengths filled each (resamplesUsed count) start
  obtain ⟨_, _, _, _, _, _, _, reads⟩ := calculatePercentile_eq pct filled
  have positive := resamplesUsed_pos count
  have inside : min ⌈(95 / 100 : ℚ) * resamplesUsed count⌉.toNat (resamplesUsed count - 1) <
      (sorted samples).length := by
    rw [length_sorted, length]
    omega
  have nonempty : ¬(parent.length = 0 ∨ candidate.length = 0) := by omega
  have parentRead := reads _ (length_sorted parent)
  have candidateRead := reads _ ((length_sorted candidate).trans lengths.symm)
  have evaluated : ∃ r, evaluateTailNonInferiorityFrom source start parent candidate pct margin count = some (.ok r) ∧
      r.ci95UpperPct = (sorted samples)[min ⌈(95 / 100 : ℚ) * resamplesUsed count⌉.toNat (resamplesUsed count - 1)] ∧
      r.passesNonInferiority = decide (r.ci95UpperPct ≤ margin) := by
    simp only [evaluateTailNonInferiorityFrom, if_neg nonempty, parentRead, candidateRead, drawn,
      List.getElem?_eq_getElem inside, Option.bind_eq_bind, Option.bind_some]
    exact ⟨_, rfl, rfl, rfl⟩
  obtain ⟨r, done, upper, passes⟩ := evaluated
  refine ⟨r, done, ?_, passes⟩
  rw [upper]
  exact all _ ((sorted_perm samples).mem_iff.mp (List.getElem_mem inside))

end Bound

/-- A candidate that is nowhere slower than the margin allows passes, one that is slower everywhere does not,
whatever is drawn. -/
theorem tail_non_inferiority {parent candidate : List ℚ} {margin : ℚ} (nonneg : 0 ≤ margin)
    (filled : 0 < parent.length) (lengths : parent.length = candidate.length) {σ : Type}
    (source : IndexSource σ) (start : σ) (pct : ℚ) (count : Nat) :
    (List.Forall₂ (fun c p => c ≤ (1 + margin / 100) * p) candidate parent →
      ∃ r, evaluateTailNonInferiorityFrom source start parent candidate pct margin count = some (.ok r) ∧
        r.passesNonInferiority = true) ∧
    ((∀ p ∈ parent, 1 / 1000000000 < p) → List.Forall₂ (fun c p => (1 + margin / 100) * p < c) candidate parent →
      ∃ r, evaluateTailNonInferiorityFrom source start parent candidate pct margin count = some (.ok r) ∧
        r.passesNonInferiority = false) := by
  have positive : 0 < 1 + margin / 100 := by linarith
  have drawnFilled (indices : List Nat) (length : indices.length = parent.length) :
      0 < (picked parent indices).length := by
    rw [length_picked, length]
    exact filled
  constructor
  next =>
    intro pairs
    have bound := @evaluateTailNonInferiority_bound parent candidate margin σ source pct (fun d => d ≤ margin)
      lengths filled
    obtain ⟨r, done, upper, passes⟩ := bound (fun indices length within => by
      obtain ⟨p, c, first, second, bounded⟩ :=
        percentile_bounded pct positive.le (drawnFilled indices length) (picked_pairs pairs within)
      exact ⟨p, c, first, second, degradation_le nonneg bounded⟩) count start
    exact ⟨r, done, passes.trans (decide_eq_true upper)⟩
  next =>
    intro large pairs
    have bound := @evaluateTailNonInferiority_bound parent candidate margin σ source pct (fun d => margin < d)
      lengths filled
    obtain ⟨r, done, upper, passes⟩ := bound (fun indices length within => by
      obtain ⟨p, c, first, second, least, exceeds⟩ :=
        percentile_exceeds pct positive (drawnFilled indices length)
          (fun p member => large p (mem_picked within member)) (picked_pairs pairs within)
      exact ⟨p, c, first, second, margin_lt_degradation least exceeds⟩) count start
    exact ⟨r, done, passes.trans (decide_eq_false (not_le.mpr upper))⟩

theorem tail_non_inferiority_example :
    (∃ r, evaluateTailNonInferiorityFrom FastPrng.source (FastPrng.new 42) [100, 120, 90] [101, 119, 90] 95 1 0 =
      some (.ok r) ∧ r.passesNonInferiority = true) ∧
    ∃ r, evaluateTailNonInferiorityFrom FastPrng.source (FastPrng.new 42) [100, 120, 90] [102, 122, 92] 95 1 0 =
      some (.ok r) ∧ r.passesNonInferiority = false := by
  constructor
  next =>
    apply (@tail_non_inferiority [100, 120, 90] [101, 119, 90] 1 (by norm_num)
      (by decide) rfl _ FastPrng.source (FastPrng.new 42) 95 0).1
    norm_num
  next =>
    apply (@tail_non_inferiority [100, 120, 90] [102, 122, 92] 1 (by norm_num)
      (by decide) rfl _ FastPrng.source (FastPrng.new 42) 95 0).2
    · norm_num
    · norm_num

end SparkRsi.Evaluator
