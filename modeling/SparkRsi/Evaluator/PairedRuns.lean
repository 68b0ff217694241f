import SparkRsi.Shared.Results
import Mathlib.Algebra.Order.Field.Rat
import Mathlib.Data.Finset.Lattice.Fold
import Mathlib.Order.Lattice.Nat
import Mathlib.Tactic.Linarith
import Mathlib.Tactic.NormNum

set_option autoImplicit false

namespace SparkRsi.Evaluator

open Shared

structure Floats where
  round : ℚ → ℚ
  mono : Monotone round
  zero : round 0 = 0
  twoDecimals : ℚ → String

/-- What the kernel adds up over every child the judge has waited for. -/
structure Rusage where
  userTimeUs : Nat
  systemTimeUs : Nat
  maxRssKb : Nat
  voluntaryContextSwitches : Nat
  involuntaryContextSwitches : Nat

def Rusage.reap (children run : Rusage) : Rusage :=
  { userTimeUs := children.userTimeUs + run.userTimeUs
    systemTimeUs := children.systemTimeUs + run.systemTimeUs
    -- The size is a maximum over the children, the other figures are sums.
    maxRssKb := max children.maxRssKb run.maxRssKb
    voluntaryContextSwitches := children.voluntaryContextSwitches + run.voluntaryContextSwitches
    involuntaryContextSwitches := children.involuntaryContextSwitches + run.involuntaryContextSwitches }

structure RusageMetrics where
  userTimeUs : Nat
  systemTimeUs : Nat
  maxRssKb : Int
  voluntaryContextSwitches : Int
  involuntaryContextSwitches : Int

namespace RusageMetrics

def saturateU64 (n : Nat) : Nat := min n (2 ^ 64 - 1)
def saturateI64 (n : Int) : Int := max (-2 ^ 63) (min n (2 ^ 63 - 1))

def default : RusageMetrics :=
  { userTimeUs := 0, systemTimeUs := 0, maxRssKb := 0, voluntaryContextSwitches := 0, involuntaryContextSwitches := 0 }

def captureChildren (children : Rusage) : Option Int → Except String RusageMetrics
  | some ret => .error s!"libc::getrusage failed with exit code {ret}"
  | none => .ok
    { userTimeUs := saturateU64 children.userTimeUs
      systemTimeUs := saturateU64 children.systemTimeUs
      maxRssKb := children.maxRssKb
      voluntaryContextSwitches := children.voluntaryContextSwitches
      involuntaryContextSwitches := children.involuntaryContextSwitches }

def diff (self baseline : RusageMetrics) : RusageMetrics :=
  { userTimeUs := self.userTimeUs - baseline.userTimeUs
    systemTimeUs := self.systemTimeUs - baseline.systemTimeUs
    maxRssKb := max self.maxRssKb baseline.maxRssKb
    voluntaryContextSwitches := saturateI64 (self.voluntaryContextSwitches - baseline.voluntaryContextSwitches)
    involuntaryContextSwitches := saturateI64 (self.involuntaryContextSwitches - baseline.involuntaryContextSwitches) }

def accumulate (self delta : RusageMetrics) : RusageMetrics :=
  { userTimeUs := saturateU64 (self.userTimeUs + delta.userTimeUs)
    systemTimeUs := saturateU64 (self.systemTimeUs + delta.systemTimeUs)
    maxRssKb := max self.maxRssKb delta.maxRssKb
    voluntaryContextSwitches := saturateI64 (self.voluntaryContextSwitches + delta.voluntaryContextSwitches)
    involuntaryContextSwitches := saturateI64 (self.involuntaryContextSwitches + delta.involuntaryContextSwitches) }

end RusageMetrics

structure Run where
  usage : Rusage
  elapsedUs : ℚ
  result : Except String (Bool × String × String)
  captureBefore : Option Int
  captureAfter : Option Int

structure CandidateJailRunner where
  execute : List String → Run

structure Measured where
  children : Rusage
  parentLatencies : List ℚ
  candidateLatencies : List ℚ
  parentRusage : RusageMetrics
  candidateRusage : RusageMetrics

section Benchmarks

variable (parentRunner candidateRunner : CandidateJailRunner)

def warmUp (children : Rusage) (w : Nat) : Rusage :=
  let warmArg := s!"warmup-case-{w}"
  (children.reap (parentRunner.execute ["holdout", warmArg]).usage).reap (candidateRunner.execute ["holdout", warmArg]).usage

def inputArg (i : Nat) : String := s!"benchmark-case-{i}"

-- The source spells this out for the parent and for the candidate, in both orders.
def measureRun (role capitalized : String) (i : Nat) (run : Run) (children : Rusage) :
    Except String (Rusage × ℚ × RusageMetrics) := do
  let before ← (RusageMetrics.captureChildren children run.captureBefore).mapError
    fun e => s!"Failed to capture {role} baseline: {e}"
  let (ok, _, err) ← run.result.mapError fun e => s!"Jail execution failed for {role} on iteration {i}: {e}"
  refuseIf (ok = false) s!"{capitalized} execution exited with error on iteration {i}: {err}"
  let reaped := children.reap run.usage
  let after ← (RusageMetrics.captureChildren reaped run.captureAfter).mapError
    fun e => s!"Failed to capture {role} child rusage: {e}"
  return (reaped, run.elapsedUs, after.diff before)

def runParent (i : Nat) (s : Measured) : Except String Measured := do
  let (children, latency, delta) ←
    measureRun "parent" "Parent" i (parentRunner.execute ["holdout", inputArg i]) s.children
  return { s with
    children
    parentLatencies := s.parentLatencies ++ [latency]
    parentRusage := s.parentRusage.accumulate delta }

def runCandidate (i : Nat) (s : Measured) : Except String Measured := do
  let (children, latency, delta) ←
    measureRun "candidate" "Candidate" i (candidateRunner.execute ["holdout", inputArg i]) s.children
  return { s with
    children
    candidateLatencies := s.candidateLatencies ++ [latency]
    candidateRusage := s.candidateRusage.accumulate delta }

def benchIteration (s : Measured) (i : Nat) : Except String Measured :=
  if i % 2 = 0 then runParent parentRunner i s >>= runCandidate candidateRunner i
  else runCandidate candidateRunner i s >>= runParent parentRunner i

def runPairedBenchmarksBins (iterations : Nat) (children : Rusage) : Except String Measured :=
  (List.range iterations).foldlM (benchIteration parentRunner candidateRunner)
    { children := (List.range 2).foldl (warmUp parentRunner candidateRunner) children
      parentLatencies := []
      candidateLatencies := []
      parentRusage := .default
      candidateRusage := .default }

end Benchmarks

structure StatmMetrics where
  residentKb : Nat

structure ResourceEfficiencyEvaluation where
  parentRssKb : Int
  candidateRssKb : Int
  rssGrowthPct : ℚ
  rssGrowthWithinBudget : Bool
  hostMemoryWithinBudget : Bool
  contextSwitchesDelta : Int
  passed : Bool
  violations : List String

namespace ResourceEfficiencyLayer

def maxRssGrowthPct : ℚ := 2
def defaultUnifiedMemoryLimitMb : Nat := 49152

variable (floats : Floats)

def rssGrowthPct (parentRssKb candidateRssKb : Int) : ℚ :=
  if parentRssKb > 0 then
    floats.round (floats.round (floats.round (candidateRssKb - parentRssKb : Int) / floats.round parentRssKb) * 100)
  else 0

def overLimit (limitMb : Nat) (statm : StatmMetrics) : Bool := statm.residentKb / 1024 > limitMb

def evaluate (parentRusage candidateRusage : RusageMetrics) (candidateStatm : Option StatmMetrics)
    (memoryLimitMb : Option Nat) : ResourceEfficiencyEvaluation :=
  let parentRssKb := parentRusage.maxRssKb
  let candidateRssKb := candidateRusage.maxRssKb
  let growth := rssGrowthPct floats parentRssKb candidateRssKb
  let rssGrowthWithinBudget : Bool := growth ≤ maxRssGrowthPct
  let limitMb := memoryLimitMb.getD defaultUnifiedMemoryLimitMb
  let exceeding := candidateStatm.filter (overLimit limitMb)
  let ctxtParent := parentRusage.voluntaryContextSwitches + parentRusage.involuntaryContextSwitches
  let ctxtCand := candidateRusage.voluntaryContextSwitches + candidateRusage.involuntaryContextSwitches
  { parentRssKb
    candidateRssKb
    rssGrowthPct := growth
    rssGrowthWithinBudget
    hostMemoryWithinBudget := exceeding.isNone
    contextSwitchesDelta := ctxtCand - ctxtParent
    passed := rssGrowthWithinBudget && exceeding.isNone
    violations :=
      (if rssGrowthWithinBudget then [] else
        [s!"Candidate peak RSS growth exceeded 2.0% threshold: {floats.twoDecimals growth}% (parent={parentRssKb} KB, cand={candidateRssKb} KB)"]) ++
      exceeding.toList.map fun statm =>
        let residentMb := statm.residentKb / 1024
        s!"Candidate resident memory exceeded unified memory limit: {residentMb} MB > {limitMb} MB" }

end ResourceEfficiencyLayer

section Readings

theorem reap_maxRssKb (children run : Rusage) :
    (children.reap run).maxRssKb = max children.maxRssKb run.maxRssKb := rfl

theorem diff_maxRssKb (self baseline : RusageMetrics) :
    (self.diff baseline).maxRssKb = max self.maxRssKb baseline.maxRssKb := rfl

theorem accumulate_maxRssKb (self delta : RusageMetrics) :
    (self.accumulate delta).maxRssKb = max self.maxRssKb delta.maxRssKb := rfl

theorem captureChildren_maxRssKb {children : Rusage} {failure : Option Int} {metrics : RusageMetrics}
    (captured : RusageMetrics.captureChildren children failure = .ok metrics) :
    metrics.maxRssKb = children.maxRssKb := by
  cases failure with
  | some ret => cases captured
  | none =>
    cases captured
    rfl

-- A run reports the mark that all children have left so far, its own size only where it is the largest.
theorem measureRun_ok {role capitalized : String} {i : Nat} {run : Run} {children reaped : Rusage}
    {latency : ℚ} {delta rusage : RusageMetrics} (below : rusage.maxRssKb ≤ children.maxRssKb)
    (measured : measureRun role capitalized i run children = .ok (reaped, latency, delta)) :
    reaped = children.reap run.usage ∧ (rusage.accumulate delta).maxRssKb = reaped.maxRssKb := by
  rw [measureRun, bind_eq_ok] at measured
  obtain ⟨before, captured, measured⟩ := measured
  obtain ⟨⟨ok, out, err⟩, executed, measured⟩ := bind_eq_ok.mp measured
  obtain ⟨-, measured⟩ := then_eq_ok.mp measured
  obtain ⟨after, again, measured⟩ := bind_eq_ok.mp measured
  cases measured
  have low := captureChildren_maxRssKb (mapError_eq_ok.mp captured)
  have high := captureChildren_maxRssKb (mapError_eq_ok.mp again)
  apply And.intro rfl
  rw [accumulate_maxRssKb, diff_maxRssKb, low, high, reap_maxRssKb]
  omega

end Readings

section Marks

variable {parentRunner candidateRunner : CandidateJailRunner} {children : Rusage}

def peak (runner : CandidateJailRunner) (i : Nat) : Nat :=
  (runner.execute ["holdout", inputArg i]).usage.maxRssKb

-- No side's figure is above the mark of the process.
structure Marked (s : Measured) : Prop where
  parent : s.parentRusage.maxRssKb ≤ s.children.maxRssKb
  candidate : s.candidateRusage.maxRssKb ≤ s.children.maxRssKb

theorem runParent_ok {i : Nat} {s after : Measured} (marked : Marked s)
    (measured : runParent parentRunner i s = .ok after) :
    Marked after ∧ after.children.maxRssKb = max s.children.maxRssKb (peak parentRunner i) ∧
      after.parentRusage.maxRssKb = after.children.maxRssKb ∧ after.candidateRusage = s.candidateRusage := by
  rw [runParent, bind_eq_ok] at measured
  obtain ⟨⟨reaped, latency, delta⟩, run, measured⟩ := measured
  cases measured
  obtain ⟨rfl, reading⟩ := measureRun_ok marked.parent run
  have wider : s.candidateRusage.maxRssKb ≤
      (s.children.reap (parentRunner.execute ["holdout", inputArg i]).usage).maxRssKb :=
    marked.candidate.trans (Int.ofNat_le.mpr (le_max_left _ _))
  exact ⟨⟨reading.le, wider⟩, rfl, reading, rfl⟩

theorem runCandidate_ok {i : Nat} {s after : Measured} (marked : Marked s)
    (measured : runCandidate candidateRunner i s = .ok after) :
    Marked after ∧ after.children.maxRssKb = max s.children.maxRssKb (peak candidateRunner i) ∧
      after.candidateRusage.maxRssKb = after.children.maxRssKb ∧ after.parentRusage = s.parentRusage := by
  rw [runCandidate, bind_eq_ok] at measured
  obtain ⟨⟨reaped, latency, delta⟩, run, measured⟩ := measured
  cases measured
  obtain ⟨rfl, reading⟩ := measureRun_ok marked.candidate run
  have wider : s.parentRusage.maxRssKb ≤ (s.children.reap (candidateRunner.execute ["holdout", inputArg i]).usage).maxRssKb :=
    marked.parent.trans (Int.ofNat_le.mpr (le_max_left _ _))
  exact ⟨⟨wider, reading.le⟩, rfl, reading, rfl⟩

structure Iterated (parentRunner candidateRunner : CandidateJailRunner) (i : Nat) (s after : Measured) : Prop where
  marked : Marked after
  children : after.children.maxRssKb = max s.children.maxRssKb (max (peak parentRunner i) (peak candidateRunner i))
  even : i % 2 = 0 → after.parentRusage.maxRssKb = max s.children.maxRssKb (peak parentRunner i) ∧
    after.candidateRusage.maxRssKb = after.children.maxRssKb
  odd : i % 2 ≠ 0 → after.parentRusage.maxRssKb = after.children.maxRssKb

theorem benchIteration_ok {i : Nat} {s after : Measured} (marked : Marked s)
    (measured : benchIteration parentRunner candidateRunner s i = .ok after) :
    Iterated parentRunner candidateRunner i s after := by
  rw [benchIteration] at measured
  by_cases first : i % 2 = 0
  next =>
    rw [if_pos first, bind_eq_ok] at measured
    obtain ⟨between, parentRun, candidateRun⟩ := measured
    obtain ⟨middle, mark, reading, -⟩ := runParent_ok marked parentRun
    obtain ⟨left, final, last, kept⟩ := runCandidate_ok middle candidateRun
    constructor
    case marked => exact left
    case children => rw [final, mark, max_assoc]
    case even =>
      intro _
      apply And.intro _ last
      rw [kept, reading, mark, Nat.cast_max]
    case odd => exact fun other => absurd first other
  next =>
    rw [if_neg first, bind_eq_ok] at measured
    obtain ⟨between, candidateRun, parentRun⟩ := measured
    obtain ⟨middle, mark, -, -⟩ := runCandidate_ok marked candidateRun
    obtain ⟨left, final, last, -⟩ := runParent_ok middle parentRun
    constructor
    case marked => exact left
    case children => rw [final, mark, max_assoc, max_comm (peak candidateRunner i)]
    case even => exact fun other => absurd other first
    case odd => exact fun _ => last

/-- The mark in front of iteration `i`: everything the judge has reaped since it started. -/
def highWater (parentRunner candidateRunner : CandidateJailRunner) (children : Rusage) (i : Nat) : Nat :=
  max ((List.range 2).foldl (warmUp parentRunner candidateRunner) children).maxRssKb
    ((Finset.range i).sup fun j => max (peak parentRunner j) (peak candidateRunner j))

theorem highWater_succ (i : Nat) :
    highWater parentRunner candidateRunner children (i + 1) =
      max (highWater parentRunner candidateRunner children i) (max (peak parentRunner i) (peak candidateRunner i)) := by
  rw [highWater, highWater, Finset.range_add_one, Finset.sup_insert, max_assoc _ (Finset.sup _ _)]
  apply congrArg (max _)
  exact max_comm (max (peak parentRunner i) (peak candidateRunner i)) _

theorem benchmarks_succ {i : Nat} {after : Measured}
    (measured : runPairedBenchmarksBins parentRunner candidateRunner (i + 1) children = .ok after) :
    ∃ s, runPairedBenchmarksBins parentRunner candidateRunner i children = .ok s ∧
      benchIteration parentRunner candidateRunner s i = .ok after := by
  rw [runPairedBenchmarksBins, @List.range_succ i, List.foldlM_append, bind_eq_ok] at measured
  obtain ⟨s, earlier, last⟩ := measured
  exact ⟨s, earlier, by simpa only [List.foldlM_cons, List.foldlM_nil, bind_pure] using last⟩

theorem benchmarks_marked {i : Nat} {s : Measured}
    (measured : runPairedBenchmarksBins parentRunner candidateRunner i children = .ok s) :
    Marked s ∧ s.children.maxRssKb = highWater parentRunner candidateRunner children i := by
  induction i generalizing s with
  | zero =>
    cases measured
    refine ⟨⟨?_, ?_⟩, ?_⟩
    · exact Int.natCast_nonneg _
    · exact Int.natCast_nonneg _
    · simp [highWater]
  | succ i ih =>
    obtain ⟨before, earlier, iteration⟩ := benchmarks_succ measured
    obtain ⟨marked, mark⟩ := ih earlier
    have iterated := benchIteration_ok marked iteration
    exact ⟨iterated.marked, by rw [iterated.children, mark, highWater_succ]⟩

end Marks

section Gate

variable {floats : Floats} {parentRunner candidateRunner : CandidateJailRunner} {children : Rusage}

theorem rssGrowthPct_le_zero {parentRssKb candidateRssKb : Int} (most : candidateRssKb ≤ parentRssKb) :
    ResourceEfficiencyLayer.rssGrowthPct floats parentRssKb candidateRssKb ≤ 0 := by
  have lowers {x : ℚ} (nonpos : x ≤ 0) : floats.round x ≤ 0 := floats.zero ▸ floats.mono nonpos
  rw [ResourceEfficiencyLayer.rssGrowthPct]
  split
  next filled =>
    have size : 0 ≤ floats.round parentRssKb := floats.zero ▸ floats.mono (Int.cast_nonneg filled.le)
    have difference : floats.round (candidateRssKb - parentRssKb : Int) ≤ 0 :=
      lowers (Int.cast_nonpos.mpr (by omega))
    apply lowers
    apply mul_nonpos_of_nonpos_of_nonneg _ (by norm_num)
    exact lowers (div_nonpos_of_nonpos_of_nonneg difference size)
  next => rfl

theorem rssGrowthPct_exact {parentRssKb candidateRssKb : Int} (exactly : floats.round = id) :
    2 < ResourceEfficiencyLayer.rssGrowthPct floats parentRssKb candidateRssKb ↔
      0 < parentRssKb ∧ 51 * parentRssKb < 50 * candidateRssKb := by
  rw [ResourceEfficiencyLayer.rssGrowthPct, exactly]
  by_cases filled : parentRssKb > 0
  next =>
    have size : (0 : ℚ) < parentRssKb := Int.cast_pos.mpr filled
    rw [if_pos filled]
    simp only [id, div_mul_eq_mul_div, lt_div_iff₀ size]
    constructor
    next =>
      intro grown
      apply And.intro filled
      have scaled : ((102 * parentRssKb : Int) : ℚ) < ((100 * candidateRssKb : Int) : ℚ) := by
        push_cast at grown ⊢
        linarith
      have whole := Int.cast_lt.mp scaled
      omega
    next =>
      intro ⟨_, grown⟩
      have scaled : ((51 * parentRssKb : Int) : ℚ) < ((50 * candidateRssKb : Int) : ℚ) :=
        Int.cast_lt.mpr grown
      push_cast at scaled ⊢
      linarith
  next =>
    rw [if_neg filled]
    simp [show ¬0 < parentRssKb from filled]

theorem evaluate_passed {parentRusage candidateRusage : RusageMetrics} {candidateStatm : Option StatmMetrics}
    {memoryLimitMb : Option Nat} :
    (ResourceEfficiencyLayer.evaluate floats parentRusage candidateRusage candidateStatm memoryLimitMb).passed = false ↔
      (∃ statm, candidateStatm = some statm ∧ ResourceEfficiencyLayer.overLimit (memoryLimitMb.getD 49152) statm = true) ∨
        2 < ResourceEfficiencyLayer.rssGrowthPct floats parentRusage.maxRssKb candidateRusage.maxRssKb := by
  rw [ResourceEfficiencyLayer.evaluate, Bool.and_eq_false_iff, decide_eq_false_iff_not, not_le, or_comm]
  apply or_congr_left
  rw [ResourceEfficiencyLayer.defaultUnifiedMemoryLimitMb]
  cases candidateStatm with
  | none => simp
  | some statm =>
    cases overLimit : ResourceEfficiencyLayer.overLimit (memoryLimitMb.getD 49152) statm <;> simp [overLimit]

def parentMark (parentRunner candidateRunner : CandidateJailRunner) (children : Rusage) (i : Nat) : Nat :=
  max (highWater parentRunner candidateRunner children i) (peak parentRunner i)

def LastRunStandsOut (floats : Floats) (parentRunner candidateRunner : CandidateJailRunner)
    (children : Rusage) (iterations : Nat) : Prop :=
  ∃ i, iterations = i + 1 ∧ i % 2 = 0 ∧
    2 < ResourceEfficiencyLayer.rssGrowthPct floats (parentMark parentRunner candidateRunner children i)
      (max (parentMark parentRunner candidateRunner children i) (peak candidateRunner i) : Nat)

theorem growth_iff {iterations : Nat} {s : Measured}
    (measured : runPairedBenchmarksBins parentRunner candidateRunner iterations children = .ok s) :
    2 < ResourceEfficiencyLayer.rssGrowthPct floats s.parentRusage.maxRssKb s.candidateRusage.maxRssKb ↔
      LastRunStandsOut floats parentRunner candidateRunner children iterations := by
  cases iterations with
  | zero =>
    cases measured
    simp [LastRunStandsOut, RusageMetrics.default, ResourceEfficiencyLayer.rssGrowthPct]
  | succ i =>
    obtain ⟨before, earlier, iteration⟩ := benchmarks_succ measured
    obtain ⟨marked, mark⟩ := benchmarks_marked earlier
    have iterated := benchIteration_ok marked iteration
    by_cases order : i % 2 = 0
    next =>
      obtain ⟨parentReading, candidateReading⟩ := iterated.even order
      have own : s.parentRusage.maxRssKb = parentMark parentRunner candidateRunner children i := by
        rw [parentReading, mark, parentMark, Nat.cast_max]
      have whole : s.children.maxRssKb = max (parentMark parentRunner candidateRunner children i) (peak candidateRunner i) := by
        rw [iterated.children, mark, ← max_assoc, parentMark]
      rw [own, candidateReading, whole]
      constructor
      next => exact fun grown => Exists.intro i ⟨rfl, order, grown⟩
      next =>
        intro ⟨j, same, _, grown⟩
        cases same
        exact grown
    next =>
      -- The parent ran last and reports the candidate's size as its own.
      have covered : s.candidateRusage.maxRssKb ≤ s.parentRusage.maxRssKb :=
        iterated.marked.candidate.trans_eq (iterated.odd order).symm
      constructor
      next =>
        intro grown
        have none : ResourceEfficiencyLayer.rssGrowthPct floats s.parentRusage.maxRssKb s.candidateRusage.maxRssKb ≤ 0 :=
          rssGrowthPct_le_zero covered
        linarith
      next =>
        intro ⟨j, same, even, _⟩
        cases same
        exact absurd even order

end Gate

/-- For every number of iterations and whatever the runs use, the candidate fails exactly when the host's
limit is exceeded, or the number is odd and its last run stands out over the parent's, over every run in
front of it, its own included, over both warm-ups and over every earlier child of the judge. -/
theorem memory_gate_iff (floats : Floats) (parentRunner candidateRunner : CandidateJailRunner)
    (children : Rusage) (iterations : Nat) (candidateStatm : Option StatmMetrics)
    (memoryLimitMb : Option Nat) (s : Measured)
    (measured : runPairedBenchmarksBins parentRunner candidateRunner iterations children = .ok s) :
    (ResourceEfficiencyLayer.evaluate floats s.parentRusage s.candidateRusage candidateStatm memoryLimitMb).passed = false ↔
      (∃ statm, candidateStatm = some statm ∧ ResourceEfficiencyLayer.overLimit (memoryLimitMb.getD 49152) statm = true) ∨
        LastRunStandsOut floats parentRunner candidateRunner children iterations := by
  rw [evaluate_passed, growth_iff measured]

section Sample

def exactFloats : Floats :=
  { round := id
    mono := monotone_id
    zero := rfl
    twoDecimals := fun value => toString value }

def steadyRunner (peakKb : Nat) : CandidateJailRunner where
  execute _ :=
    { usage :=
        { userTimeUs := 900
          systemTimeUs := 100
          maxRssKb := peakKb
          voluntaryContextSwitches := 8
          involuntaryContextSwitches := 1 }
      elapsedUs := 1000
      result := .ok (true, "", "")
      captureBefore := none
      captureAfter := none }

def fresh : Rusage :=
  { userTimeUs := 0
    systemTimeUs := 0
    maxRssKb := 0
    voluntaryContextSwitches := 0
    involuntaryContextSwitches := 0 }

def Regressed (parentRunner candidateRunner : CandidateJailRunner) : Prop :=
  ∀ args args', 51 * (parentRunner.execute args).usage.maxRssKb < 50 * (candidateRunner.execute args').usage.maxRssKb

def growingRunner : CandidateJailRunner where
  execute args := (steadyRunner (if args = ["holdout", inputArg 0] then 200 else 100)).execute args

theorem memory_gate_iff_single :
    ∃ s, runPairedBenchmarksBins (steadyRunner 100) growingRunner 1 fresh = .ok s ∧
      (ResourceEfficiencyLayer.evaluate exactFloats s.parentRusage s.candidateRusage none none).passed = false := by
  have ends : ∃ s, runPairedBenchmarksBins (steadyRunner 100) growingRunner 1 fresh = .ok s := ⟨_, rfl⟩
  cases ends with
  | intro s measured =>
    apply Exists.intro s
    apply And.intro measured
    rw [memory_gate_iff exactFloats _ _ _ _ none none s measured]
    -- The only run of the candidate is its last one.
    right
    refine ⟨0, rfl, rfl, ?_⟩
    have mark : parentMark (steadyRunner 100) growingRunner fresh 0 = 100 := by decide
    have last : peak growingRunner 0 = 200 := by decide
    rw [mark, last, rssGrowthPct_exact rfl]
    decide

theorem doubling_passes :
    Regressed (steadyRunner 100) (steadyRunner 200) ∧
      ∃ s, runPairedBenchmarksBins (steadyRunner 100) (steadyRunner 200) 20 fresh = .ok s ∧
        (ResourceEfficiencyLayer.evaluate exactFloats s.parentRusage s.candidateRusage
          (some { residentKb := 30000 }) (some 49152)).passed = true := by
  constructor
  next =>
    intro args args'
    simp [steadyRunner]
  next =>
    have ends : ∃ s, runPairedBenchmarksBins (steadyRunner 100) (steadyRunner 200) 20 fresh = .ok s :=
      ⟨_, rfl⟩
    obtain ⟨s, measured⟩ := ends
    apply Exists.intro s
    apply And.intro measured
    rw [← Bool.not_eq_false, evaluate_passed, growth_iff measured]
    rintro (⟨statm, given, exceeding⟩ | ⟨i, last, even, -⟩)
    · cases given
      exact absurd exceeding (by decide)
    · omega

end Sample

end SparkRsi.Evaluator
