import SparkRsi.Shared.OrderStatistics
import Mathlib.Algebra.Order.Field.Rat
import Mathlib.Data.List.GetD
import Mathlib.Data.Rat.Floor

set_option autoImplicit false

namespace SparkRsi.Evaluator

open Shared.OrderStatistics

structure FastPrng where
  s0 : UInt64
  s1 : UInt64
  s2 : UInt64
  s3 : UInt64
  deriving DecidableEq

namespace FastPrng

def mix (sm : UInt64) : UInt64 :=
  let z := (sm ^^^ (sm >>> 30)) * 0xbf58476d1ce4e5b9
  let z := (z ^^^ (z >>> 27)) * 0x94d049bb133111eb
  z ^^^ (z >>> 31)

def new (seed : UInt64) : FastPrng :=
  let gamma : UInt64 := 0x9e3779b97f4a7c15
  let word (turn zero : UInt64) := if mix (seed + turn * gamma) = 0 then zero else mix (seed + turn * gamma)
  { s0 := word 1 1, s1 := word 2 2, s2 := word 3 3, s3 := word 4 4 }

def rotateLeft (x n : UInt64) : UInt64 := (x <<< n) ||| (x >>> (64 - n))

def nextU64 (prng : FastPrng) : UInt64 × FastPrng :=
  let res := rotateLeft (prng.s0 + prng.s3) 23 + prng.s0
  let t := prng.s1 <<< 17
  let s2 := prng.s2 ^^^ prng.s0
  let s3 := prng.s3 ^^^ prng.s1
  let s1 := prng.s1 ^^^ s2
  let s0 := prng.s0 ^^^ s3
  (res, { s0, s1, s2 := s2 ^^^ t, s3 := rotateLeft s3 45 })

def genRange (upper : Nat) (prng : FastPrng) : Nat × FastPrng :=
  if upper ≤ 1 then (0, prng)
  else
    let (word, prng) := prng.nextU64
    (word.toNat % upper, prng)

end FastPrng

structure IndexSource (σ : Type) where
  genRange : Nat → σ → Nat × σ
  within : ∀ upper s, 0 < upper → (genRange upper s).1 < upper

def FastPrng.source : IndexSource FastPrng where
  genRange := FastPrng.genRange
  within := by
    intro upper s positive
    unfold FastPrng.genRange
    split
    next => exact positive
    next => exact Nat.mod_lt _ positive

def IndexSource.listed : IndexSource (List Nat) where
  genRange
    | _, [] => (0, [])
    | upper, idx :: rest => (idx % upper, rest)
  within := by
    intro upper s positive
    cases s with
    | nil => exact positive
    | cons idx rest => exact Nat.mod_lt _ positive

structure BootstrapEstimate where
  sampleSize : Nat
  resamplesCount : Nat
  observedParentMean : ℚ
  observedCandidateMean : ℚ
  observedDeltaMean : ℚ
  deltaPct : ℚ
  ci99Lower : ℚ
  ci99Upper : ℚ
  pValue : ℚ
  isStatisticallySignificant : Bool

structure TailNonInferiorityResult where
  percentile : ℚ
  parentVal : ℚ
  candidateVal : ℚ
  observedDegradationPct : ℚ
  ci95UpperPct : ℚ
  nonInferiorityMarginPct : ℚ
  passesNonInferiority : Bool

namespace LatencyDistribution

-- An index behind the end of the samples would be a panic: `none`.
def calculatePercentile (sortedSamples : List ℚ) (pct : ℚ) : Option ℚ :=
  let n := sortedSamples.length
  if n = 0 then some 0
  else if n = 1 then sortedSamples[0]?
  else
    let clampedPct := max 0 (min pct 100)
    let rank := clampedPct / 100 * ((n - 1 : Nat) : ℚ)
    let lowIdx := ⌊rank⌋.toNat
    let highIdx := ⌈rank⌉.toNat
    if lowIdx = highIdx then sortedSamples[lowIdx]?
    else do
      let weight := rank - (lowIdx : ℚ)
      let low ← sortedSamples[lowIdx]?
      let high ← sortedSamples[highIdx]?
      return low * (1 - weight) + high * weight

end LatencyDistribution

namespace StatisticalEngine

def defaultBootstrapResamples : Nat := 10000

def resamplesUsed (resamplesCount : Nat) : Nat :=
  if resamplesCount > 0 then resamplesCount else defaultBootstrapResamples

section Drawing

variable {σ : Type} (source : IndexSource σ)

def drawIndices (upper : Nat) : Nat → σ → List Nat × σ
  | 0, s => ([], s)
  | n + 1, s =>
    let (idx, s) := source.genRange upper s
    let (rest, s) := drawIndices upper n s
    (idx :: rest, s)

def pick (samples : List ℚ) (indices : List Nat) : Option (List ℚ) := indices.mapM fun idx => samples[idx]?

def bootMeans (diffs : List ℚ) : Nat → σ → Option (List ℚ)
  | 0, _ => some []
  | b + 1, s => do
    let (indices, s) := drawIndices source diffs.length diffs.length s
    let picked ← pick diffs indices
    let rest ← bootMeans diffs b s
    return picked.sum / diffs.length :: rest

def bootstrapPairedComparisonFrom (start : σ) (parentSamples candidateSamples : List ℚ)
    (resamplesCount : Nat) :
    Option (Except String BootstrapEstimate) :=
  let m := parentSamples.length
  if m = 0 ∨ m ≠ candidateSamples.length then
    some (.error s!"Invalid paired sample lengths: parent={m}, candidate={candidateSamples.length}")
  else do
    let diffs := List.zipWith (fun p c => c - p) parentSamples candidateSamples
    let observedParentMean := parentSamples.sum / m
    let observedCandidateMean := candidateSamples.sum / m
    let observedDeltaMean := diffs.sum / m
    let deltaPct :=
      if |observedParentMean| > 1 / 1000000000 then observedDeltaMean / observedParentMean * 100 else 0
    let b := resamplesUsed resamplesCount
    let bootMeans ← bootMeans source diffs b start
    let ordered := sorted bootMeans
    let lowerIdx := min ⌊(5 / 1000 : ℚ) * b⌋.toNat (b - 1)
    let upperIdx := min ⌈(995 / 1000 : ℚ) * b⌉.toNat (b - 1)
    let ci99Lower ← ordered[lowerIdx]?
    let ci99Upper ← ordered[upperIdx]?
    let countLeqZero := ordered.countP fun v => v ≤ 0
    let countGeqZero := ordered.countP fun v => v ≥ 0
    let pValTwoSided := min (2 * (((min countLeqZero countGeqZero : Nat) : ℚ) / b)) 1
    return .ok {
      sampleSize := m
      resamplesCount := b
      observedParentMean
      observedCandidateMean
      observedDeltaMean
      deltaPct
      ci99Lower
      ci99Upper
      pValue := pValTwoSided
      isStatisticallySignificant := pValTwoSided < 1 / 100 ∧ (ci99Lower > 0 ∨ ci99Upper < 0) }

def degradationPct (parentVal candidateVal : ℚ) : ℚ :=
  if parentVal > 1 / 1000000000 then (candidateVal - parentVal) / parentVal * 100 else 0

def degradationSamples (parentLatencies candidateLatencies : List ℚ) (percentile : ℚ) :
    Nat → σ → Option (List ℚ)
  | 0, _ => some []
  | b + 1, s => do
    let nP := parentLatencies.length
    let nC := candidateLatencies.length
    let (parentIndices, s) := drawIndices source nP nP s
    let (candidateIndices, s) := if nP = nC then (parentIndices, s) else drawIndices source nC nC s
    let bootP ← pick parentLatencies parentIndices
    let bootC ← pick candidateLatencies candidateIndices
    let pValBoot ← LatencyDistribution.calculatePercentile (sorted bootP) percentile
    let cValBoot ← LatencyDistribution.calculatePercentile (sorted bootC) percentile
    let rest ← degradationSamples parentLatencies candidateLatencies percentile b s
    return degradationPct pValBoot cValBoot :: rest

def evaluateTailNonInferiorityFrom (start : σ) (parentLatencies candidateLatencies : List ℚ)
    (percentile marginPct : ℚ) (resamplesCount : Nat) : Option (Except String TailNonInferiorityResult) :=
  if parentLatencies.length = 0 ∨ candidateLatencies.length = 0 then
    some (.error "Latency sample vectors must not be empty")
  else do
    let parentVal ← LatencyDistribution.calculatePercentile (sorted parentLatencies) percentile
    let candidateVal ← LatencyDistribution.calculatePercentile (sorted candidateLatencies) percentile
    let observedDegradationPct := degradationPct parentVal candidateVal
    let b := resamplesUsed resamplesCount
    let degradationSamples ← degradationSamples source parentLatencies candidateLatencies percentile b start
    let p95Idx := min ⌈(95 / 100 : ℚ) * b⌉.toNat (b - 1)
    let ci95UpperPct ← (sorted degradationSamples)[p95Idx]?
    return .ok {
      percentile
      parentVal
      candidateVal
      observedDegradationPct
      ci95UpperPct
      nonInferiorityMarginPct := marginPct
      passesNonInferiority := ci95UpperPct ≤ marginPct }

end Drawing

def bootstrapPairedComparison (parentSamples candidateSamples : List ℚ) (resamplesCount : Nat)
    (seed : Option UInt64) :
    Option (Except String BootstrapEstimate) :=
  bootstrapPairedComparisonFrom FastPrng.source (FastPrng.new (seed.getD 0x1337c0d3beef)) parentSamples candidateSamples
    resamplesCount

def evaluateTailNonInferiority (parentLatencies candidateLatencies : List ℚ) (percentile marginPct : ℚ)
    (resamplesCount : Nat) (seed : Option UInt64) : Option (Except String TailNonInferiorityResult) :=
  evaluateTailNonInferiorityFrom FastPrng.source (FastPrng.new (seed.getD 0x42cafebabe)) parentLatencies
    candidateLatencies percentile marginPct resamplesCount

section Drawn

variable {σ : Type} (source : IndexSource σ)

theorem resamplesUsed_pos (count : Nat) : 0 < resamplesUsed count := by
  unfold resamplesUsed
  split
  next positive => exact positive
  next => exact Nat.succ_pos _

theorem drawIndices_within {upper : Nat} (positive : 0 < upper) (n : Nat) (s : σ) :
    (drawIndices source upper n s).1.length = n ∧ ∀ idx ∈ (drawIndices source upper n s).1, idx < upper := by
  induction n generalizing s with
  | zero => exact ⟨rfl, fun _ none => absurd none List.not_mem_nil⟩
  | succ n ih =>
    cases ih (source.genRange upper s).2 with
    | intro length within =>
      constructor
      next => exact congrArg (· + 1) length
      next =>
        rw [drawIndices, List.forall_mem_cons]
        exact ⟨source.within upper s positive, within⟩

def picked (samples : List ℚ) (indices : List Nat) : List ℚ := indices.map fun idx => samples.getD idx 0

theorem pick_within {samples : List ℚ} {indices : List Nat} (within : ∀ idx ∈ indices, idx < samples.length) :
    pick samples indices = some (picked samples indices) := by
  induction indices with
  | nil => rfl
  | cons idx rest ih =>
    rw [List.forall_mem_cons] at within
    rw [pick, List.mapM_cons, List.getElem?_eq_getElem within.1]
    have later := ih within.2
    rw [pick] at later
    rw [later, picked, picked, List.map_cons, List.getD_eq_getElem _ _ within.1]
    rfl

@[simp] theorem length_picked (samples : List ℚ) (indices : List Nat) :
    (picked samples indices).length = indices.length :=
  List.length_map _

theorem mem_picked {samples : List ℚ} {indices : List Nat} (within : ∀ idx ∈ indices, idx < samples.length)
    {x : ℚ} (member : x ∈ picked samples indices) : x ∈ samples := by
  cases List.mem_map.mp member with
  | intro idx drawn =>
    rw [← drawn.2, List.getD_eq_getElem _ _ (within idx drawn.1)]
    exact List.getElem_mem _

end Drawn

end StatisticalEngine

end SparkRsi.Evaluator
