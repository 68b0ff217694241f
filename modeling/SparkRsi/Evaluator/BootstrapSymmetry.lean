import SparkRsi.Evaluator.Statistics
import Mathlib.Algebra.BigOperators.Group.List.Basic
import Mathlib.Tactic.Linarith

set_option autoImplicit false

namespace SparkRsi.Evaluator

open Shared.OrderStatistics StatisticalEngine

section Means

variable {σ : Type} (source : IndexSource σ)

def drawnRows (m : Nat) : Nat → σ → List (List Nat)
  | 0, _ => []
  | b + 1, s => (drawIndices source m m s).1 :: drawnRows m b (drawIndices source m m s).2

@[simp] theorem length_drawnRows (m b : Nat) (s : σ) : (drawnRows source m b s).length = b := by
  induction b generalizing s with
  | zero => rfl
  | succ b ih => exact congrArg (· + 1) (ih _)

theorem drawnRows_within {m : Nat} (positive : 0 < m) (b : Nat) (s : σ) :
    ∀ row ∈ drawnRows source m b s, row.length = m ∧ ∀ idx ∈ row, idx < m := by
  induction b generalizing s with
  | zero => exact fun _ none => absurd none List.not_mem_nil
  | succ b ih => exact List.forall_mem_cons.mpr ⟨drawIndices_within source positive m s, ih _⟩

-- Any rows of indices can be drawn.
theorem drawnRows_listed {m : Nat} (rows : List (List Nat))
    (each : ∀ row ∈ rows, row.length = m ∧ ∀ idx ∈ row, idx < m) :
    drawnRows IndexSource.listed m rows.length rows.flatten = rows := by
  have drawn (row rest : List Nat) (small : ∀ idx ∈ row, idx < m) :
      drawIndices IndexSource.listed m row.length (row ++ rest) = (row, rest) := by
    induction row with
    | nil => rfl
    | cons idx row ih =>
      rw [List.forall_mem_cons] at small
      rw [List.length_cons, List.cons_append, drawIndices]
      simp only [IndexSource.listed] at ih ⊢
      rw [ih small.2, Nat.mod_eq_of_lt small.1]
  induction rows with
  | nil => rfl
  | cons row rest ih =>
    rw [List.forall_mem_cons] at each
    have first := drawn row rest.flatten each.1.2
    rw [each.1.1] at first
    rw [List.length_cons, List.flatten_cons, drawnRows, first, ih each.2]

def meanOf (diffs : List ℚ) (indices : List Nat) : ℚ := (picked diffs indices).sum / diffs.length

theorem bootMeans_eq {diffs : List ℚ} (filled : 0 < diffs.length) (b : Nat) (s : σ) :
    bootMeans source diffs b s = some ((drawnRows source diffs.length b s).map (meanOf diffs)) := by
  induction b generalizing s with
  | zero => rfl
  | succ b ih =>
    have drawn := drawIndices_within source filled diffs.length s
    simp only [bootMeans, pick_within drawn.2, ih, Option.bind_eq_bind, Option.bind_some]
    rfl

theorem meanOf_neg (diffs : List ℚ) (indices : List Nat) :
    meanOf (diffs.map Neg.neg) indices = -meanOf diffs indices := by
  have picks : picked (diffs.map Neg.neg) indices = (picked diffs indices).map Neg.neg := by
    rw [picked, picked, List.map_map]
    apply List.map_congr_left
    intro idx _
    have moved := List.getD_map (l := diffs) (n := idx) (d := 0) Neg.neg
    rwa [neg_zero] at moved
  rw [meanOf, meanOf, picks, List.length_map, ← neg_div, List.sum_neg]

theorem meanOf_constant {diffs : List ℚ} {indices : List Nat} {d : ℚ} (filled : 0 < diffs.length)
    (length : indices.length = diffs.length) (equal : ∀ idx ∈ indices, diffs.getD idx 0 = d) :
    meanOf diffs indices = d := by
  have picks : picked diffs indices = List.replicate diffs.length d := by
    rw [List.eq_replicate_iff]
    constructor
    next => rw [length_picked, length]
    next =>
      intro x member
      obtain ⟨idx, drawn, rfl⟩ := List.mem_map.mp member
      exact equal idx drawn
  have count : (diffs.length : ℚ) ≠ 0 := Nat.cast_ne_zero.mpr filled.ne'
  rw [meanOf, picks, List.sum_replicate, nsmul_eq_mul, mul_div_cancel_left₀ d count]

end Means

section Indices

theorem lowerIdx_eq (b : Nat) : ⌊(5 / 1000 : ℚ) * b⌋.toNat = b / 200 := by
  have quotient : (5 / 1000 : ℚ) * b = (b : ℚ) / (200 : Nat) := by
    push_cast
    ring
  rw [quotient, Rat.floor_natCast_div_natCast]
  rfl

theorem upperIdx_eq (b : Nat) : ⌈(995 / 1000 : ℚ) * b⌉.toNat = b - b / 200 := by
  have rest : (995 / 1000 : ℚ) * b = ((b : Int) : ℚ) - (b : ℚ) / (200 : Nat) := by
    push_cast
    ring
  rw [rest, sub_eq_neg_add, Int.ceil_add_intCast, Int.ceil_neg, Rat.floor_natCast_div_natCast]
  omega

end Indices

structure Mirrored (e e' : BootstrapEstimate) : Prop where
  delta : e'.observedDeltaMean = -e.observedDeltaMean
  lower : e'.ci99Lower = -e.ci99Upper
  upper : e'.ci99Upper = -e.ci99Lower
  pValue : e'.pValue = e.pValue
  significant : e'.isStatisticallySignificant = e.isStatisticallySignificant

/-- The two calls mirror each other, whatever is drawn for both of them. -/
def Symmetric (parent candidate : List ℚ) (count : Nat) : Prop :=
  ∀ (σ : Type) (source : IndexSource σ) (start : σ), ∃ e e',
    bootstrapPairedComparisonFrom source start parent candidate count = some (.ok e) ∧
      bootstrapPairedComparisonFrom source start candidate parent count = some (.ok e') ∧ Mirrored e e'

def deltas (parent candidate : List ℚ) : List ℚ := List.zipWith (fun p c => c - p) parent candidate

section Estimate

variable {σ : Type} (source : IndexSource σ) (start : σ) {parent candidate : List ℚ} (count : Nat)

def pValueOf (means : List ℚ) (b : Nat) : ℚ :=
  min (2 * (((min (means.countP fun v => v ≤ 0) (means.countP fun v => v ≥ 0) : Nat) : ℚ) / b)) 1

structure Estimates (means : List ℚ) (b : Nat) (e : BootstrapEstimate) : Prop where
  lower : (sorted means)[b / 200]? = some e.ci99Lower
  upper : (sorted means)[min (b - b / 200) (b - 1)]? = some e.ci99Upper
  pValue : e.pValue = pValueOf means b
  significant : e.isStatisticallySignificant = decide (e.pValue < 1 / 100 ∧ (e.ci99Lower > 0 ∨ e.ci99Upper < 0))

theorem length_deltas (lengths : parent.length = candidate.length) :
    (deltas parent candidate).length = parent.length := by
  rw [deltas, List.length_zipWith, ← lengths, Nat.min_self]

theorem deltas_swap : deltas candidate parent = (deltas parent candidate).map Neg.neg := by
  rw [deltas, deltas, List.map_zipWith, List.zipWith_comm]
  congr 1
  funext p c
  exact (neg_sub c p).symm

theorem bootstrap_ok (filled : 0 < parent.length) (lengths : parent.length = candidate.length) :
    ∃ e, bootstrapPairedComparisonFrom source start parent candidate count = some (.ok e) ∧
      e.observedDeltaMean = (deltas parent candidate).sum / parent.length ∧
      Estimates ((drawnRows source parent.length (resamplesUsed count) start).map (meanOf (deltas parent candidate)))
        (resamplesUsed count) e := by
  have known : ¬(parent.length = 0 ∨ parent.length ≠ candidate.length) := by omega
  have positive := resamplesUsed_pos count
  have some : 0 < (deltas parent candidate).length := by rwa [length_deltas lengths]
  have means := bootMeans_eq source some (resamplesUsed count) start
  rw [length_deltas lengths] at means
  have lowerPlace : min ⌊(5 / 1000 : ℚ) * resamplesUsed count⌋.toNat (resamplesUsed count - 1) =
      resamplesUsed count / 200 := by
    rw [lowerIdx_eq]
    omega
  have inside (i : Nat) (small : i < resamplesUsed count) :
      i < (sorted ((drawnRows source parent.length (resamplesUsed count) start).map
        (meanOf (deltas parent candidate)))).length := by
    simpa using small
  have lower := List.getElem?_eq_getElem (inside (resamplesUsed count / 200) (by omega))
  have upper := List.getElem?_eq_getElem
    (inside (min (resamplesUsed count - resamplesUsed count / 200) (resamplesUsed count - 1)) (by omega))
  have folded : List.zipWith (fun p c => c - p) parent candidate = deltas parent candidate := rfl
  simp only [bootstrapPairedComparisonFrom, if_neg known, folded, means, lowerPlace, upperIdx_eq, lower,
    upper, (sorted_perm _).countP_eq, Option.bind_eq_bind, Option.bind_some]
  exact ⟨_, rfl, rfl, lower, upper, rfl, rfl⟩

theorem pValueOf_neg (means : List ℚ) (b : Nat) : pValueOf (means.map Neg.neg) b = pValueOf means b := by
  have leq : (means.map Neg.neg).countP (fun v => v ≤ 0) = means.countP fun v => v ≥ 0 := by
    rw [List.countP_map]
    congr 1
    funext v
    simp
  have geq : (means.map Neg.neg).countP (fun v => v ≥ 0) = means.countP fun v => v ≤ 0 := by
    rw [List.countP_map]
    congr 1
    funext v
    simp
  rw [pValueOf, pValueOf, leq, geq, Nat.min_comm]

end Estimate

section Mirrors

variable {σ : Type} (source : IndexSource σ) (start : σ) {parent candidate : List ℚ} (count : Nat)

theorem Estimates.swapped {means : List ℚ} {b : Nat} {e : BootstrapEstimate} (positive : 0 < b)
    (length : means.length = b) (estimates : Estimates (means.map Neg.neg) b e) :
    (sorted means)[b - 1 - b / 200]? = some (-e.ci99Lower) ∧
      (sorted means)[b - 1 - min (b - b / 200) (b - 1)]? = some (-e.ci99Upper) := by
  have lower := estimates.lower
  have upper := estimates.upper
  rw [getElem?_sorted_map_neg means (by omega), length, Option.map_eq_some_iff] at lower upper
  obtain ⟨low, atLow, negLow⟩ := lower
  obtain ⟨high, atHigh, negHigh⟩ := upper
  rw [atLow, atHigh, ← negLow, ← negHigh, neg_neg, neg_neg]
  exact ⟨rfl, rfl⟩

theorem mirrored_of_bounds {means : List ℚ} {b : Nat} {e e' : BootstrapEstimate}
    (estimates : Estimates means b e) (estimates' : Estimates (means.map Neg.neg) b e')
    (delta : e'.observedDeltaMean = -e.observedDeltaMean) (lower : e'.ci99Lower = -e.ci99Upper)
    (upper : e'.ci99Upper = -e.ci99Lower) : Mirrored e e' := by
  have pValue : e'.pValue = e.pValue := by rw [estimates.pValue, estimates'.pValue, pValueOf_neg]
  refine ⟨delta, lower, upper, pValue, ?_⟩
  have flipped : (-e.ci99Upper > 0 ∨ -e.ci99Lower < 0) ↔ (e.ci99Lower > 0 ∨ e.ci99Upper < 0) := by
    rw [gt_iff_lt, neg_pos, neg_lt_zero, or_comm]
  rw [estimates.significant, estimates'.significant, pValue, lower, upper]
  simp only [flipped]

-- With the sides in turn the bounds are read at mirrored places, and so mirror each other where these agree.
theorem bootstrap_swapped (filled : 0 < parent.length) (lengths : parent.length = candidate.length) :
    ∃ e e' means, bootstrapPairedComparisonFrom source start parent candidate count = some (.ok e) ∧
      bootstrapPairedComparisonFrom source start candidate parent count = some (.ok e') ∧
      means = (drawnRows source parent.length (resamplesUsed count) start).map (meanOf (deltas parent candidate)) ∧
      Estimates means (resamplesUsed count) e ∧ Estimates (means.map Neg.neg) (resamplesUsed count) e' ∧
      e'.observedDeltaMean = -e.observedDeltaMean := by
  obtain ⟨e, done, delta, estimates⟩ := bootstrap_ok source start count filled lengths
  obtain ⟨e', done', delta', estimates'⟩ := bootstrap_ok source start count (lengths ▸ filled) lengths.symm
  refine ⟨e, e', _, done, done', rfl, estimates, ?_, ?_⟩
  next =>
    rw [List.map_map]
    rw [← lengths, deltas_swap] at estimates'
    have negated : meanOf ((deltas parent candidate).map Neg.neg) =
        Neg.neg ∘ meanOf (deltas parent candidate) :=
      funext (meanOf_neg _)
    rwa [negated] at estimates'
  next =>
    rw [delta, delta', deltas_swap, ← lengths, ← neg_div, List.sum_neg]

end Mirrors

section Symmetry

variable {parent candidate : List ℚ} {count : Nat}

theorem symmetric_of_few (filled : 0 < parent.length) (lengths : parent.length = candidate.length)
    (few : resamplesUsed count < 200) : Symmetric parent candidate count := by
  intro σ source start
  obtain ⟨e, e', means, done, done', made, estimates, estimates', delta⟩ :=
    bootstrap_swapped source start count filled lengths
  have positive := resamplesUsed_pos count
  have length : means.length = resamplesUsed count := by simp [made]
  obtain ⟨low, high⟩ := estimates'.swapped positive length
  have first := estimates.lower
  have last := estimates.upper
  -- The first mean and the last one.
  have zero : resamplesUsed count / 200 = 0 := by omega
  have top : min (resamplesUsed count - resamplesUsed count / 200) (resamplesUsed count - 1) =
      resamplesUsed count - 1 := by
    omega
  rw [zero] at first low
  rw [top] at last high
  rw [Nat.sub_zero, last, Option.some_inj] at low
  rw [Nat.sub_self, first, Option.some_inj] at high
  refine ⟨e, e', done, done', mirrored_of_bounds estimates estimates' delta ?_ ?_⟩
  next => rw [low, neg_neg]
  next => rw [high, neg_neg]

theorem symmetric_of_equal (filled : 0 < parent.length) (lengths : parent.length = candidate.length)
    {d : ℚ} (equal : ∀ x ∈ deltas parent candidate, x = d) : Symmetric parent candidate count := by
  intro σ source start
  obtain ⟨e, e', means, done, done', made, estimates, estimates', delta⟩ :=
    bootstrap_swapped source start count filled lengths
  have length : means.length = resamplesUsed count := by simp [made]
  have constant : ∀ mean ∈ means, mean = d := by
    intro mean member
    rw [made] at member
    obtain ⟨row, drawn, rfl⟩ := List.mem_map.mp member
    have within := drawnRows_within source filled _ start row drawn
    rw [← length_deltas lengths] at within filled
    apply meanOf_constant filled within.1
    intro idx inside
    rw [List.getD_eq_getElem _ _ (within.2 idx inside)]
    exact equal _ (List.getElem_mem _)
  obtain ⟨low, high⟩ := estimates'.swapped (resamplesUsed_pos count) length
  have read {i : Nat} {v : ℚ} (here : (sorted means)[i]? = some v) : v = d :=
    constant v ((sorted_perm means).mem_iff.mp (List.mem_of_getElem? here))
  have lower := read estimates.lower
  have upper := read estimates.upper
  have negLower := read low
  have negUpper := read high
  refine ⟨e, e', done, done', mirrored_of_bounds estimates estimates' delta ?_ ?_⟩
  next => rw [upper, ← negLower, neg_neg]
  next => rw [lower, ← negUpper, neg_neg]

theorem not_symmetric (filled : 0 < parent.length) (lengths : parent.length = candidate.length)
    (many : 200 ≤ resamplesUsed count) {i j : Nat} (first : i < parent.length) (second : j < parent.length)
    (less : (deltas parent candidate).getD i 0 < (deltas parent candidate).getD j 0) :
    ¬Symmetric parent candidate count := by
  intro symmetric
  let b := resamplesUsed count
  let m := parent.length
  let rows := List.replicate (b / 200) (List.replicate m i) ++ List.replicate (b - b / 200) (List.replicate m j)
  have length : rows.length = b := by
    simp only [rows, List.length_append, List.length_replicate]
    omega
  have each : ∀ row ∈ rows, row.length = m ∧ ∀ idx ∈ row, idx < m := by
    intro row member
    rcases List.mem_append.mp member with low | high
    next =>
      rw [List.eq_of_mem_replicate low]
      exact ⟨List.length_replicate, fun idx drawn => (List.eq_of_mem_replicate drawn) ▸ first⟩
    next =>
      rw [List.eq_of_mem_replicate high]
      exact ⟨List.length_replicate, fun idx drawn => (List.eq_of_mem_replicate drawn) ▸ second⟩
  obtain ⟨e, e', means, done, done', made, estimates, estimates', _⟩ :=
    bootstrap_swapped IndexSource.listed rows.flatten count filled lengths
  obtain ⟨f, f', here, here', mirrored⟩ := symmetric _ IndexSource.listed rows.flatten
  rw [done, Option.some_inj, Except.ok.injEq] at here
  rw [done', Option.some_inj, Except.ok.injEq] at here'
  rw [← here, ← here'] at mirrored
  have same (k : Nat) : meanOf (deltas parent candidate) (List.replicate m k) =
      (deltas parent candidate).getD k 0 := by
    apply meanOf_constant (by rwa [length_deltas lengths]) (by rw [length_deltas lengths, List.length_replicate])
    intro idx drawn
    rw [List.eq_of_mem_replicate drawn]
  have drawn : drawnRows IndexSource.listed m b rows.flatten = rows := by
    rw [← length]
    exact drawnRows_listed rows each
  rw [drawn, List.map_append, List.map_replicate, List.map_replicate, same, same] at made
  -- The means come in order: one value in the first places, then the larger one.
  have ordered : sorted means = means := by
    apply sorted_eq (List.Perm.refl _)
    rw [made, List.pairwise_append]
    refine ⟨List.pairwise_replicate.mpr (Or.inr le_rfl), List.pairwise_replicate.mpr (Or.inr le_rfl), ?_⟩
    intro x low y high
    rw [List.eq_of_mem_replicate low, List.eq_of_mem_replicate high]
    exact less.le
  obtain ⟨_, swappedUpper⟩ := estimates'.swapped (resamplesUsed_pos count) (by rw [made]; simp; omega)
  have lower := estimates.lower
  have before : resamplesUsed count - 1 - min (resamplesUsed count - resamplesUsed count / 200) (resamplesUsed count - 1) <
      (List.replicate (b / 200) ((deltas parent candidate).getD i 0)).length := by
    rw [List.length_replicate]
    omega
  rw [ordered, made, List.getElem?_append_left before, List.getElem?_replicate_of_lt (by simpa using before),
    Option.some_inj] at swappedUpper
  rw [ordered, made, List.getElem?_append_right (by rw [List.length_replicate]), List.length_replicate,
    Nat.sub_self, List.getElem?_replicate_of_lt (by omega), Option.some_inj] at lower
  rw [swappedUpper, lower, ← neg_lt_neg_iff, neg_neg, ← mirrored.upper] at less
  exact lt_irrefl _ less

/-- The comparison favours neither side for every draw exactly when fewer than 200 resamples are drawn or the
differences are all one. -/
theorem bootstrap_symmetric_iff (filled : 0 < parent.length) (lengths : parent.length = candidate.length) :
    Symmetric parent candidate count ↔
      resamplesUsed count < 200 ∨ ∃ d, ∀ x ∈ deltas parent candidate, x = d := by
  constructor
  next =>
    intro symmetric
    by_contra neither
    rw [not_or, not_lt] at neither
    have place (k : Nat) (inside : k < parent.length) : (deltas parent candidate).getD k 0 =
        (deltas parent candidate).getD 0 0 := by
      rcases lt_trichotomy ((deltas parent candidate).getD k 0) ((deltas parent candidate).getD 0 0) with less | same | more
      · exact absurd symmetric (not_symmetric filled lengths neither.1 inside filled less)
      · exact same
      · exact absurd symmetric (not_symmetric filled lengths neither.1 filled inside more)
    apply neither.2
    refine ⟨(deltas parent candidate).getD 0 0, ?_⟩
    intro x member
    obtain ⟨k, inside, rfl⟩ := List.getElem_of_mem member
    rw [← place k (by rwa [length_deltas lengths] at inside), List.getD_eq_getElem _ _ inside]
  next =>
    intro condition
    cases condition with
    | inl few => exact symmetric_of_few filled lengths few
    | inr equal => exact equal.elim fun d all => symmetric_of_equal filled lengths all

theorem bootstrap_symmetric_iff_short :
    Symmetric [100, 102, 101] [99, 103, 100] 199 ↔
      resamplesUsed 199 < 200 ∨ ∃ d, ∀ x ∈ deltas [100, 102, 101] [99, 103, 100], x = d :=
  bootstrap_symmetric_iff (by decide) rfl

theorem drawn_least : ((drawnRows FastPrng.source 4 200 (FastPrng.new 42)).map
    (meanOf (deltas [100, 100, 100, 100] [101, 102, 104, 108]))).countP (fun mean => mean ≤ 1) = 1 := by
  decide +kernel

theorem bootstrap_asymmetric : ∃ e e',
    bootstrapPairedComparison [100, 100, 100, 100] [101, 102, 104, 108] 200 (some 42) = some (.ok e) ∧
      bootstrapPairedComparison [101, 102, 104, 108] [100, 100, 100, 100] 200 (some 42) = some (.ok e') ∧
      ¬Mirrored e e' := by
  obtain ⟨e, e', means, done, done', made, estimates, estimates', _⟩ :=
    @bootstrap_swapped _ FastPrng.source (FastPrng.new 42) [100, 100, 100, 100] [101, 102, 104, 108] 200 (by decide) rfl
  refine ⟨e, e', done, done', ?_⟩
  intro mirrored
  have length : means.length = 200 := by
    rw [made, List.length_map, length_drawnRows]
    rfl
  have count : means.countP (fun mean => mean ≤ 1) = 1 := by
    rw [made]
    exact drawn_least
  obtain ⟨inside, lower⟩ := List.getElem?_eq_some_iff.mp estimates.lower
  obtain ⟨inside', upper⟩ := List.getElem?_eq_some_iff.mp (estimates'.swapped (by decide) length).2
  have above : ¬e.ci99Lower ≤ 1 := by
    rw [← lower, sorted_le_iff, count]
    decide
  have least : -e'.ci99Upper ≤ 1 := by
    rw [← upper, sorted_le_iff, count]
    decide
  rw [mirrored.upper, neg_neg] at least
  exact above least

end Symmetry

end SparkRsi.Evaluator
