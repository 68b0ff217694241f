import SparkRsi.Governance.Tier
import SparkRsi.Ledger.SignedCoverage
import SparkRsi.Shared.TextLines
import Mathlib.Algebra.Order.Field.Rat
import Mathlib.Tactic.Linarith
import Mathlib.Tactic.NormNum
import Mathlib.Tactic.Ring

set_option autoImplicit false

namespace SparkRsi.Meta

open Shared Ledger Governance

structure MetaBenchmarkMetrics where
  discoveryRatePerSec : ℚ
  hypothesisValidityRatio : ℚ
  computeEfficiencyScore : ℚ
  cycleLatencyMs : ℚ
  memoryPeakRssKb : UInt64

structure MetaBenchmarkComparison where
  parentMetrics : MetaBenchmarkMetrics
  candidateMetrics : MetaBenchmarkMetrics
  discoveryRateDeltaPct : ℚ
  hypothesisValidityDeltaPct : ℚ
  latencyDeltaPct : ℚ
  passedNonInferiority : Bool
  passedAmplification : Bool

namespace MetaBenchmarkSuite

-- The three metrics share this formula in the source.
def deltaPct (parent candidate : ℚ) : ℚ := if parent > 0 then (candidate - parent) / parent * 100 else 0

def evaluateCandidate (parent candidate : MetaBenchmarkMetrics) (nonInferiorityMarginPct : ℚ) :
    MetaBenchmarkComparison :=
  let discoveryRateDeltaPct := deltaPct parent.discoveryRatePerSec candidate.discoveryRatePerSec
  let hypothesisValidityDeltaPct := deltaPct parent.hypothesisValidityRatio candidate.hypothesisValidityRatio
  let latencyDeltaPct := deltaPct parent.cycleLatencyMs candidate.cycleLatencyMs
  { parentMetrics := parent
    candidateMetrics := candidate
    discoveryRateDeltaPct, hypothesisValidityDeltaPct, latencyDeltaPct
    -- Only two of the three differences are compared with the margin.
    passedNonInferiority := hypothesisValidityDeltaPct ≥ -nonInferiorityMarginPct &&
      latencyDeltaPct ≤ nonInferiorityMarginPct
    passedAmplification := discoveryRateDeltaPct ≥ 5 || hypothesisValidityDeltaPct ≥ 5 || latencyDeltaPct ≤ -5 }

end MetaBenchmarkSuite

structure CriterionResult where
  criterionName : String
  passed : Bool
  evidence : String

structure TrueRsiVerdict where
  novelDiscovery : CriterionResult
  selfCapabilityImprovement : CriterionResult
  recursivePersistence : CriterionResult
  overallClassification : String
  evidencePayload : Option PromotionEvidencePayload

namespace TrueRsiEvaluator

def criterion1 : String := "Criterion 1: Novel Discovery"
def criterion2 : String := "Criterion 2: Self-Capability Improvement"
def criterion3 : String := "Criterion 3: Recursive Persistence & Compounding"

def evaluateCriterion1NovelDiscovery (observedProblem : String) (isDynamicTelemetry : Bool)
    (hardcodedRules : List String) : CriterionResult :=
  let isHardcoded := hardcodedRules.any (TextLines.contains observedProblem)
  let passed := isDynamicTelemetry && !isHardcoded
  { criterionName := criterion1
    passed
    evidence :=
      if passed then
        s!"Novel discovery confirmed: problem '{observedProblem}' derived dynamically from capability graph rather than static rules"
      else
        "Novel discovery rejected: problem matches hardcoded static heuristics or lacks empirical dynamic telemetry" }

def evaluateCriterion2SelfCapabilityImprovement (amplificationPassed : Bool) (metricsSummary : String) :
    CriterionResult :=
  { criterionName := criterion2
    passed := amplificationPassed
    evidence :=
      if amplificationPassed then
        s!"Self-capability improvement verified: candidate Engine N+1 measurably amplifies future developmental capacity: {metricsSummary}"
      else
        "Self-capability improvement rejected: candidate fails developmental amplification threshold (requires >= 5.0% gain)" }

def evaluateCriterion3RecursivePersistence :
    Option String → Option String → Option String → Option String →
      CriterionResult × Option PromotionEvidencePayload
  | some metaHash, some downCycle, some downHash, some proof =>
    ({ criterionName := criterion3
       passed := true
       evidence := s!"Downstream compounding verified: cycle '{downCycle}' successfully deployed primitive from {metaHash}" },
      some { metaCandidateBlockHash := metaHash
             downstreamCycleId := downCycle
             downstreamLedgerBlockHash := downHash
             capabilityImprovementProof := proof
             finalClassification := "TRUE_RSI" })
  | _, _, _, _ =>
    ({ criterionName := criterion3
       passed := false
       evidence := "Downstream compounding pending: requires subsequent downstream cycle evidence block" }, none)

def evaluateFull (c1 c2 : CriterionResult) (c3 : CriterionResult × Option PromotionEvidencePayload) :
    TrueRsiVerdict :=
  { novelDiscovery := c1
    selfCapabilityImprovement := c2
    recursivePersistence := c3.1
    overallClassification :=
      if c1.passed && c2.passed && c3.1.passed then "TRUE_RSI"
      else if c1.passed && c2.passed then "META_CANDIDATE"
      else "REJECTED"
    evidencePayload := c3.2 }

end TrueRsiEvaluator

structure Tier2Proposal extends ImprovementProposal where
  description : String

structure Prints where
  hexError : String → String
  formatError : Bytes → String
  verifyError : String
  twoDecimals : ℚ → String

section Fork

variable (prints : Prints) (sha : HexHash) (ecdsa : Ecdsa)

def operatorAuthorization (proposalDigest : Bytes) (signatureHex : String)
    (verifyingKey : ecdsa.VerifyingKey) :
    Except String Bool := do
  let sigBytes ← okOr s!"Invalid operator signature hex: {prints.hexError signatureHex}" (ecdsa.hexDecode signatureHex)
  let signature ← okOr s!"Invalid P-256 operator signature format: {prints.formatError sigBytes}" (ecdsa.fromSlice sigBytes)
  refuseIf (ecdsa.verify verifyingKey proposalDigest signature = false)
    s!"Operator cryptographic signature verification failed: {prints.verifyError}"
  return true

def rejectedVerdict : TrueRsiVerdict :=
  { novelDiscovery :=
      { criterionName := TrueRsiEvaluator.criterion1
        passed := false
        evidence := "Candidate regressed beyond non-inferiority margins" }
    selfCapabilityImprovement :=
      { criterionName := TrueRsiEvaluator.criterion2
        passed := false
        evidence := "Candidate regressed on developmental latency or validity" }
    recursivePersistence :=
      { criterionName := TrueRsiEvaluator.criterion3
        passed := false
        evidence := "Evaluation aborted due to developmental regression" }
    overallClassification := "REJECTED"
    evidencePayload := none }

def hardcodedRules : List String := ["hardcoded_fix", "static_rule"]

def verdictOn (proposal : Tier2Proposal) (comparison : MetaBenchmarkComparison)
    (downstreamEvidence : Option (String × String × String × String)) : TrueRsiVerdict :=
  if !comparison.passedNonInferiority then rejectedVerdict
  else
    let c1 := TrueRsiEvaluator.evaluateCriterion1NovelDiscovery proposal.description true hardcodedRules
    let metricsSummary := s!"Discovery delta: {prints.twoDecimals comparison.discoveryRateDeltaPct}%, Validity delta: {prints.twoDecimals comparison.hypothesisValidityDeltaPct}%, Latency delta: {prints.twoDecimals comparison.latencyDeltaPct}%"
    let c2 := TrueRsiEvaluator.evaluateCriterion2SelfCapabilityImprovement comparison.passedAmplification metricsSummary
    let c3 := match downstreamEvidence with
      | some (metaHash, downCycle, downHash, proof) =>
        TrueRsiEvaluator.evaluateCriterion3RecursivePersistence (some metaHash) (some downCycle) (some downHash) (some proof)
      | none => TrueRsiEvaluator.evaluateCriterion3RecursivePersistence none none none none
    TrueRsiEvaluator.evaluateFull c1 c2 c3

def evaluateTier2Candidate (proposal : Tier2Proposal) (parentMetrics candidateMetrics : MetaBenchmarkMetrics)
    (operatorVerifyingKey : Option ecdsa.VerifyingKey) (nonInferiorityMarginPct : ℚ)
    (downstreamEvidence : Option (String × String × String × String)) : Except String TrueRsiVerdict := do
  -- 1. Validate containment boundaries: Engine N+1 cannot modify immutable boundaries
  TierGovernance.validateTier2CandidateBoundaries proposal.targetFile
  -- 2. Validate Operator Cryptographic Signature for Tier 2
  let opKey ← okOr "Tier 2 Meta-Improvement Fails Closed: Operator cryptographic verifying key required for Engine self-modification."
    operatorVerifyingKey
  let sigHex ← okOr "Tier 2 Meta-Improvement Fails Closed: Missing operator cryptographic signature on candidate proposal."
    proposal.operatorSignature
  let _ ← operatorAuthorization prints ecdsa (sha.digest (utf8 proposal.proposedPatch)) sigHex opKey
  -- 3. A/B Benchmark Evaluation (Engine N measures Engine N+1)
  let comparison := MetaBenchmarkSuite.evaluateCandidate parentMetrics candidateMetrics nonInferiorityMarginPct
  return verdictOn prints proposal comparison downstreamEvidence

end Fork

-- By more than this many percent of the parent.
def Below (margin parent candidate : ℚ) : Prop := candidate < parent - parent * margin / 100
def Above (margin parent candidate : ℚ) : Prop := parent + parent * margin / 100 < candidate

section Differences

variable {parent candidate : ℚ}

theorem deltaPct_pos (positive : 0 < parent) :
    MetaBenchmarkSuite.deltaPct parent candidate = (candidate - parent) * 100 / parent := by
  rw [MetaBenchmarkSuite.deltaPct, if_pos positive]
  ring

theorem deltaPct_lt (positive : 0 < parent) (margin : ℚ) :
    MetaBenchmarkSuite.deltaPct parent candidate < margin ↔ Below (-margin) parent candidate := by
  rw [deltaPct_pos positive, div_lt_iff₀ positive, Below]
  constructor <;> intro below <;> linarith

theorem lt_deltaPct (positive : 0 < parent) (margin : ℚ) :
    margin < MetaBenchmarkSuite.deltaPct parent candidate ↔ Above margin parent candidate := by
  rw [deltaPct_pos positive, lt_div_iff₀ positive, Above]
  constructor <;> intro above <;> linarith

end Differences

section Verdict

variable (prints : Prints) (sha : HexHash) (ecdsa : Ecdsa) (proposal : Tier2Proposal)
  (parentMetrics candidateMetrics : MetaBenchmarkMetrics) (operatorVerifyingKey : Option ecdsa.VerifyingKey)
  (margin : ℚ) (downstreamEvidence : Option (String × String × String × String))

def Authorized : Prop :=
  TierGovernance.validateTier2CandidateBoundaries proposal.targetFile = .ok () ∧
    ∃ opKey sigHex, operatorVerifyingKey = some opKey ∧ proposal.operatorSignature = some sigHex ∧
      verifyOperatorAuthorization ecdsa (sha.digest (utf8 proposal.proposedPatch)) sigHex opKey = true

def Hardcoded : Prop := ∃ rule ∈ hardcodedRules, rule.toList <:+: proposal.description.toList

def Rewarded (verdict : TrueRsiVerdict) : Prop :=
  verdict.overallClassification = "META_CANDIDATE" ∨ verdict.overallClassification = "TRUE_RSI"

/-- Discovery rate, validity or latency got worse by more than the margin. -/
def Regressed : Prop :=
  Below margin parentMetrics.discoveryRatePerSec candidateMetrics.discoveryRatePerSec ∨
    Below margin parentMetrics.hypothesisValidityRatio candidateMetrics.hypothesisValidityRatio ∨
    Above margin parentMetrics.cycleLatencyMs candidateMetrics.cycleLatencyMs

variable {prints sha ecdsa proposal parentMetrics candidateMetrics operatorVerifyingKey margin downstreamEvidence}

theorem operatorAuthorization_ok {digest : Bytes} {sigHex : String} {opKey : ecdsa.VerifyingKey}
    {answer : Bool} :
    operatorAuthorization prints ecdsa digest sigHex opKey = .ok answer ↔
      answer = true ∧ verifyOperatorAuthorization ecdsa digest sigHex opKey = true := by
  unfold operatorAuthorization verifyOperatorAuthorization
  cases ecdsa.hexDecode sigHex with
  | none => simp [okOr, bind, Except.bind]
  | some sigBytes =>
    cases parsed : ecdsa.fromSlice sigBytes with
    | none => simp [okOr, bind, Except.bind, parsed]
    | some signature =>
      by_cases accepts : ecdsa.verify opKey digest signature = true <;>
        simp [okOr, bind, Except.bind, pure, Except.pure, refuseIf, parsed, accepts, eq_comm]

theorem evaluateFull_rewarded (c1 c2 : CriterionResult)
    (c3 : CriterionResult × Option PromotionEvidencePayload) :
    Rewarded (TrueRsiEvaluator.evaluateFull c1 c2 c3) ↔ c1.passed = true ∧ c2.passed = true := by
  cases first : c1.passed <;> cases second : c2.passed <;> cases third : c3.1.passed <;>
    simp [Rewarded, TrueRsiEvaluator.evaluateFull, first, second, third]

theorem novelDiscovery_passed :
    (TrueRsiEvaluator.evaluateCriterion1NovelDiscovery proposal.description true hardcodedRules).passed = true ↔
      ¬Hardcoded proposal := by
  simp only [TrueRsiEvaluator.evaluateCriterion1NovelDiscovery, Bool.true_and, Bool.not_eq_true',
    ← Bool.not_eq_true, List.any_eq_true, TextLines.contains, decide_eq_true_eq, Hardcoded]

theorem verdictOn_rewarded {comparison : MetaBenchmarkComparison} :
    Rewarded (verdictOn prints proposal comparison downstreamEvidence) ↔
      comparison.passedNonInferiority = true ∧ ¬Hardcoded proposal ∧
      comparison.passedAmplification = true := by
  unfold verdictOn
  cases within : comparison.passedNonInferiority with
  | false => simp [Rewarded, rejectedVerdict]
  | true =>
    rw [if_neg (by simp), evaluateFull_rewarded, novelDiscovery_passed]
    simp [TrueRsiEvaluator.evaluateCriterion2SelfCapabilityImprovement]

theorem evaluateTier2Candidate_ok {verdict : TrueRsiVerdict} :
    evaluateTier2Candidate prints sha ecdsa proposal parentMetrics candidateMetrics operatorVerifyingKey margin
        downstreamEvidence = .ok verdict ↔
      Authorized sha ecdsa proposal operatorVerifyingKey ∧ verdict = verdictOn prints proposal
        (MetaBenchmarkSuite.evaluateCandidate parentMetrics candidateMetrics margin) downstreamEvidence := by
  rw [evaluateTier2Candidate, then_eq_ok]
  simp only [bind_eq_ok, okOr_eq_ok, operatorAuthorization_ok, Authorized]
  constructor
  next =>
    rintro ⟨boundaries, opKey, key, sigHex, signed, _, ⟨-, authorized⟩, ⟨⟩⟩
    exact ⟨⟨boundaries, opKey, sigHex, key, signed, authorized⟩, rfl⟩
  next =>
    rintro ⟨⟨boundaries, opKey, sigHex, key, signed, authorized⟩, rfl⟩
    exact ⟨boundaries, opKey, key, sigHex, signed, true, ⟨rfl, authorized⟩, rfl⟩

theorem passedNonInferiority_iff (validity : 0 < parentMetrics.hypothesisValidityRatio)
    (latency : 0 < parentMetrics.cycleLatencyMs) :
    (MetaBenchmarkSuite.evaluateCandidate parentMetrics candidateMetrics margin).passedNonInferiority = true ↔
      ¬Below margin parentMetrics.hypothesisValidityRatio candidateMetrics.hypothesisValidityRatio ∧
        ¬Above margin parentMetrics.cycleLatencyMs candidateMetrics.cycleLatencyMs := by
  simp only [MetaBenchmarkSuite.evaluateCandidate, Bool.and_eq_true, decide_eq_true_eq, ge_iff_le]
  rw [← not_lt, ← not_lt, deltaPct_lt validity, lt_deltaPct latency, neg_neg]

theorem passedAmplification_iff (rate : 0 < parentMetrics.discoveryRatePerSec)
    (validity : 0 < parentMetrics.hypothesisValidityRatio) (latency : 0 < parentMetrics.cycleLatencyMs) :
    (MetaBenchmarkSuite.evaluateCandidate parentMetrics candidateMetrics margin).passedAmplification = true ↔
      ¬Below (-5) parentMetrics.discoveryRatePerSec candidateMetrics.discoveryRatePerSec ∨
        ¬Below (-5) parentMetrics.hypothesisValidityRatio candidateMetrics.hypothesisValidityRatio ∨
        ¬Above (-5) parentMetrics.cycleLatencyMs candidateMetrics.cycleLatencyMs := by
  simp only [MetaBenchmarkSuite.evaluateCandidate, Bool.or_eq_true, decide_eq_true_eq, ge_iff_le, or_assoc]
  rw [← not_lt, ← not_lt, ← not_lt, deltaPct_lt rate, deltaPct_lt validity, lt_deltaPct latency]

end Verdict

/-- No regression is rewarded exactly when a candidate whose discovery rate fell beyond the margin is
stopped by another gate: the boundaries, the signature, the description, the margin on the two other
metrics, or no gain of five percent in either of them. -/
theorem regression_rewarded_iff (prints : Prints) (sha : HexHash) (ecdsa : Ecdsa) (proposal : Tier2Proposal)
    (parentMetrics candidateMetrics : MetaBenchmarkMetrics)
    (operatorVerifyingKey : Option ecdsa.VerifyingKey) (margin : ℚ)
    (downstreamEvidence : Option (String × String × String × String))
    (rate : 0 < parentMetrics.discoveryRatePerSec) (validity : 0 < parentMetrics.hypothesisValidityRatio)
    (latency : 0 < parentMetrics.cycleLatencyMs) (nonnegative : 0 ≤ margin) :
    (∀ verdict, evaluateTier2Candidate prints sha ecdsa proposal parentMetrics candidateMetrics operatorVerifyingKey margin
        downstreamEvidence = .ok verdict → Rewarded verdict → ¬Regressed parentMetrics candidateMetrics margin) ↔
      (Below margin parentMetrics.discoveryRatePerSec candidateMetrics.discoveryRatePerSec →
        ¬Authorized sha ecdsa proposal operatorVerifyingKey ∨ Hardcoded proposal ∨
          Below margin parentMetrics.hypothesisValidityRatio candidateMetrics.hypothesisValidityRatio ∨
          Above margin parentMetrics.cycleLatencyMs candidateMetrics.cycleLatencyMs ∨
          Below (-5) parentMetrics.hypothesisValidityRatio candidateMetrics.hypothesisValidityRatio ∧
            Above (-5) parentMetrics.cycleLatencyMs candidateMetrics.cycleLatencyMs) := by
  have stopped (fell : Below margin parentMetrics.discoveryRatePerSec candidateMetrics.discoveryRatePerSec) :
      Below (-5) parentMetrics.discoveryRatePerSec candidateMetrics.discoveryRatePerSec := by
    have share : 0 ≤ parentMetrics.discoveryRatePerSec * margin := mul_nonneg rate.le nonnegative
    unfold Below at fell ⊢
    linarith
  constructor
  next =>
    intro never fell
    by_contra open_
    simp only [not_or, not_not, not_and_or] at open_
    obtain ⟨authorized, plain, valid, fast, gain⟩ := open_
    apply never _ (evaluateTier2Candidate_ok.mpr ⟨authorized, rfl⟩) _ (.inl fell)
    rw [verdictOn_rewarded, passedNonInferiority_iff validity latency,
      passedAmplification_iff rate validity latency]
    exact ⟨⟨valid, fast⟩, plain, .inr gain⟩
  next =>
    intro gates verdict evaluated rewarded regressed
    obtain ⟨authorized, rfl⟩ := evaluateTier2Candidate_ok.mp evaluated
    rw [verdictOn_rewarded, passedNonInferiority_iff validity latency,
      passedAmplification_iff rate validity latency] at rewarded
    obtain ⟨⟨valid, fast⟩, plain, gain⟩ := rewarded
    have fell := (regressed.resolve_right fun other => other.elim valid fast)
    rcases gates fell with refused | hardcoded | invalid | slow | small
    · exact refused authorized
    · exact plain hardcoded
    · exact valid invalid
    · exact fast slow
    · rcases gain with faster | gained | cut
      · exact faster (stopped fell)
      · exact gained small.1
      · exact cut small.2

section Sample

def proposal : Tier2Proposal :=
  { targetFile := "src/propose/mod.rs"
    proposedPatch := "+fn rank() {}"
    kind := .metaEngineImprovement
    operatorSignature := some (hexEncode (List.replicate 64 0))
    description := "Rank hypotheses once" }

def metrics (discoveryRatePerSec hypothesisValidityRatio cycleLatencyMs : ℚ) : MetaBenchmarkMetrics :=
  { discoveryRatePerSec, hypothesisValidityRatio, computeEfficiencyScore := 1, cycleLatencyMs, memoryPeakRssKb := 4096 }

def parentMetrics : MetaBenchmarkMetrics := metrics 10 (4 / 5) 500

-- Discovery fell to a tenth while the cycle got faster by a fifth.
def slumpedMetrics : MetaBenchmarkMetrics := metrics 1 (4 / 5) 400

def printed : Prints :=
  { hexError := fun _ => "Odd number of digits"
    formatError := fun _ => "signature error"
    verifyError := "signature error"
    twoDecimals := fun delta => toString delta }

def operatorEcdsa : Ecdsa :=
  Ecdsa.single 0 0 (sha256.digest (utf8 proposal.proposedPatch)) (List.replicate 64 0)

theorem single_authorizes (digest signature : Bytes) (length : signature.length = 64) :
    verifyOperatorAuthorization (Ecdsa.single 0 0 digest signature) digest (hexEncode signature) (0 : Nat) = true := by
  have decoded : (Ecdsa.single 0 0 digest signature).hexDecode (hexEncode signature) = some signature :=
    hexDecodeChars_encode signature
  have parsed : (Ecdsa.single 0 0 digest signature).fromSlice signature = some signature := if_pos length
  unfold verifyOperatorAuthorization
  rw [decoded, Option.bind_some, parsed]
  exact Ecdsa.single_verify.mpr ⟨rfl, rfl, rfl⟩

theorem proposal_authorized : Authorized sha256 operatorEcdsa proposal (some (0 : Nat)) := by
  refine ⟨by decide, (0 : Nat), hexEncode (List.replicate 64 0), rfl, rfl, ?_⟩
  exact single_authorizes _ _ List.length_replicate

theorem proposal_plain : ¬Hardcoded proposal := by
  -- Both rules hold an underscore, and the description holds none.
  have underscored : ∀ rule ∈ hardcodedRules, '_' ∈ rule.toList := by decide
  have plain : '_' ∉ proposal.description.toList := by decide
  rintro ⟨rule, listed, inside⟩
  exact plain (inside.subset (underscored rule listed))

-- Discovery fell to a tenth and the cycle got slower by a fifth: the margin on the latency stops it.
def slowedMetrics : MetaBenchmarkMetrics := metrics 1 (4 / 5) 600

theorem regression_rewarded_iff_slowed :
    ∃ verdict, evaluateTier2Candidate printed sha256 operatorEcdsa proposal parentMetrics slowedMetrics (some (0 : Nat)) 1
        none = .ok verdict ∧ ¬Rewarded verdict := by
  have gates := regression_rewarded_iff printed sha256 operatorEcdsa proposal parentMetrics slowedMetrics (some (0 : Nat)) 1
    none (by norm_num [parentMetrics, metrics])
    (by norm_num [parentMetrics, metrics]) (by norm_num [parentMetrics, metrics]) (by norm_num)
  obtain ⟨verdict, evaluated⟩ : ∃ verdict, evaluateTier2Candidate printed sha256 operatorEcdsa proposal parentMetrics
      slowedMetrics (some (0 : Nat)) 1 none = .ok verdict := ⟨_, evaluateTier2Candidate_ok.mpr ⟨proposal_authorized, rfl⟩⟩
  have slower : Above 1 parentMetrics.cycleLatencyMs slowedMetrics.cycleLatencyMs := by
    norm_num [Above, parentMetrics, slowedMetrics, metrics]
  have fell : Below 1 parentMetrics.discoveryRatePerSec slowedMetrics.discoveryRatePerSec := by
    norm_num [Below, parentMetrics, slowedMetrics, metrics]
  have never := gates.mpr fun _ => .inr (.inr (.inr (.inl slower)))
  exact ⟨verdict, evaluated, fun rewarded => never verdict evaluated rewarded (.inl fell)⟩

theorem slump_rewarded :
    ∃ verdict, evaluateTier2Candidate printed sha256 operatorEcdsa proposal parentMetrics slumpedMetrics (some (0 : Nat)) 1
        none = .ok verdict ∧ verdict.overallClassification = "META_CANDIDATE" ∧
      Below 1 parentMetrics.discoveryRatePerSec slumpedMetrics.discoveryRatePerSec := by
  refine ⟨_, evaluateTier2Candidate_ok.mpr ⟨proposal_authorized, rfl⟩, ?_, ?_⟩
  case refine_2 => norm_num [Below, parentMetrics, slumpedMetrics, metrics]
  case refine_1 =>
    have within : (MetaBenchmarkSuite.evaluateCandidate parentMetrics slumpedMetrics 1).passedNonInferiority = true := by
      rw [passedNonInferiority_iff] <;> norm_num [Below, Above, parentMetrics, slumpedMetrics, metrics]
    have gain : (MetaBenchmarkSuite.evaluateCandidate parentMetrics slumpedMetrics 1).passedAmplification = true := by
      rw [passedAmplification_iff] <;> norm_num [Below, Above, parentMetrics, slumpedMetrics, metrics]
    have novel := novelDiscovery_passed.mpr proposal_plain
    simp [verdictOn, within, TrueRsiEvaluator.evaluateFull, novel, gain,
      TrueRsiEvaluator.evaluateCriterion2SelfCapabilityImprovement,
      TrueRsiEvaluator.evaluateCriterion3RecursivePersistence]

end Sample

end SparkRsi.Meta
