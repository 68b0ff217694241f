import SparkRsi.Evaluator.Receipt
import SparkRsi.Propose.Hypothesis
import Mathlib.Data.List.Infix

set_option autoImplicit false

namespace SparkRsi.Explain

open Shared
open Evaluator (EvaluationReceipt F64)
open SparkRsi.Graph (BottleneckRank CapabilityGraph CapabilityNode RankingBasis Real64)
open Propose (DiagnosticContext HypothesisContract)

def format : String := "aien.explain.evidence-graph"
def version : UInt16 := 1
def producer : String := "spark-rsi/explain"

def statusUnclassified : UInt8 := 0
def statusDirectObservation : UInt8 := 1
def statusVerifiedFact : UInt8 := 2
def statusInference : UInt8 := 3
def statusHypothesis : UInt8 := 4

def kindCapabilityMetric : UInt16 := 2
def kindCapabilityAnalysis : UInt16 := 3
def kindDiagnostic : UInt16 := 4
def kindHypothesis : UInt16 := 5
def kindPrediction : UInt16 := 6
def kindFalsification : UInt16 := 7
def kindEvaluationReceipt : UInt16 := 8
def kindPromotionState : UInt16 := 9
def kindConclusion : UInt16 := 12
def kindAlternative : UInt16 := 13

def relSupportedBy : UInt16 := 1
def relPartOf : UInt16 := 3
def relAlternativeTo : UInt16 := 5
def relReferences : UInt16 := 6

def maxAlternatives : Nat := 3
def maxParents : Nat := 1024

structure SourceRefDoc where
  system : String
  artifact : String
  reference : String
  digest : Option String

structure MeasurementDoc where
  name : String
  value : String
  unit : String

structure EdgeDoc where
  to_ : String
  relation : UInt16

structure MissingDoc where
  expected : String
  reason : String

structure NodeDoc where
  id : String
  kind : UInt16
  status : UInt8
  statement : String
  source : SourceRefDoc
  confidencePermille : Option UInt16
  confidenceBasis : Option String
  recordedAtUtc : Option UInt64
  parents : List EdgeDoc
  measurements : List MeasurementDoc
  missing : List MissingDoc
  notes : List String

structure EvidenceGraphDoc where
  format : String
  version : UInt16
  producer : String
  nodes : List NodeDoc
  truncatedAt : List String

structure RatificationRecord where
  proposalId : String
  commitHash : Option String
  status : String
  message : String

inductive MetricsOrigin where
  | measured

structure RsiCycleEvidence where
  cycleId : String
  graph : Option CapabilityGraph
  metricsOrigin : MetricsOrigin
  bottlenecks : List BottleneckRank
  hypothesis : Option HypothesisContract
  diagnostic : Option DiagnosticContext
  receipt : Option EvaluationReceipt
  ratification : Option RatificationRecord

structure Fixed where
  real : Nat → Real64 → String
  bits : Nat → F64 → String

def src (artifact reference : String) (digest : Option String) : SourceRefDoc :=
  { system := "spark-rsi", artifact, reference, digest }

def m (name value unit : String) : MeasurementDoc := { name, value, unit }

def node (id : String) (kind : UInt16) (status : UInt8) (statement : String) (source : SourceRefDoc) :
    NodeDoc :=
  { id, kind, status, statement, source
    confidencePermille := none, confidenceBasis := none, recordedAtUtc := none
    parents := [], measurements := [], missing := [], notes := [] }

def edge (to_ : String) (relation : UInt16) : EdgeDoc := { to_, relation }

def capabilityNodeId (nodeId : String) : String := s!"rsi:capability:{nodeId}"
def analysisId (cycleId : String) : String := s!"rsi:bottleneck:{cycleId}"
def alternativeId (cycleId nodeId : String) : String := s!"rsi:alternative:{cycleId}:{nodeId}"
def hypothesisNodeId (h : HypothesisContract) : String := s!"rsi:hypothesis:{h.id}"
def diagnosticId (cycleId : String) : String := s!"rsi:diagnostic:{cycleId}"
def receiptNodeId (r : EvaluationReceipt) : String := s!"rsi:receipt:{r.cycleId.value}:{r.candidateId.value}"
def ratificationId (r : RatificationRecord) : String := s!"rsi:ratification:{r.proposalId}"
def conclusionId (cycleId : String) : String := s!"rsi:conclusion:{cycleId}"

def predictionId (h : HypothesisContract) : String := s!"{hypothesisNodeId h}:prediction"
def falsificationId (h : HypothesisContract) : String := s!"{hypothesisNodeId h}:falsification"
def summaryId (r : EvaluationReceipt) : String := s!"{receiptNodeId r}:summary"

/-- The text and the baseline of the hypothesis are the bottleneck's. -/
def hypothesisDerivedFrom (h : HypothesisContract) (b : BottleneckRank) : Bool :=
  let quoted := s!"'{b.nodeName}'"
  let named := decide (quoted.toList <:+: h.observedProblem.toList) || decide (quoted.toList <:+: h.suspectedRootCause.toList)
  named && match h.latencyClaim, b.latencyMedianUs with
    | some (baseline, _), some median => baseline.equals median
    | none, none => true
    | _, _ => false

variable (fixed : Fixed)

section Capabilities

def capabilityNode (c : CapabilityNode) : NodeDoc :=
  let measured : Bool := c.measurement = .measured && c.latencyMedianUs.isSome
  let statement := match c.latencyMedianUs.filter fun _ => measured with
    | some median => s!"'{c.name}' ({c.subsystem}) has measured median latency {fixed.real 1 median} us over {c.sampleCount} samples"
    | none => s!"'{c.name}' ({c.subsystem}) has no measured latency (unavailable)"
  let n := node (capabilityNodeId c.id) kindCapabilityMetric
    (if measured then statusDirectObservation else statusUnclassified) statement (src "CapabilityNode" c.id none)
  let why := c.unavailableReason.getD "no measurement"
  if measured then
    let median := m "latency_median_us" (fixed.real 3 (c.latencyMedianUs.getD (.finite 0))) "us"
    let errors := c.errorRateMeasured.map fun e => m "error_rate_measured" (fixed.real 6 e) "fraction"
    let p95 := c.latencyP95UsMeasured.map fun p => m "latency_p95_us_measured" (fixed.real 3 p) "us"
    { n with
      measurements := [median, m "sample_count" (toString c.sampleCount) ""] ++ errors.toList ++ p95.toList
      missing := if p95.isSome then [] else [⟨s!"measured p95 latency of stage '{c.name}'", why⟩] }
  else
    { n with
      missing := [⟨s!"measured median latency of stage '{c.name}'", why⟩, ⟨s!"measured error rate of stage '{c.name}'", why⟩] }

def sortedNodes (graph : Option CapabilityGraph) : List CapabilityNode :=
  match graph with
  | none => []
  | some g => g.nodes.rows.mergeSort fun a b => decide (a.id ≤ b.id)

end Capabilities

section Ranking

def basisText : RankingBasis → String
  | .structural => "structural"
  | .measured => "measured"

def analysisNode (cycle : String) (metricIds : List String) (bottlenecks : List BottleneckRank)
    (b : BottleneckRank) :
    NodeDoc :=
  let n := node (analysisId cycle) kindCapabilityAnalysis statusInference
    s!"The capability graph ranks '{b.nodeName}' ({b.subsystem}) as bottleneck #{b.rank} of {bottlenecks.length} ({b.causalExplanation})"
    (src "BottleneckRank" b.nodeId none)
  let latency := b.latencyMedianUs.map fun v => m "latency_median_us" (fixed.real 3 v) "us"
  let unmeasured := if latency.isSome then []
    else [MissingDoc.mk s!"measured median latency of the top-ranked stage '{b.nodeName}'"
      (b.unavailableReason.getD "no measurement")]
  let structural := if b.rankingBasis = .structural then
      [MissingDoc.mk "latency and error terms of the bottleneck score"
        "at least one stage is unavailable, so the ranking uses betweenness centrality only"]
    else []
  let graphless := if metricIds = [] then
      [MissingDoc.mk "capability metrics the ranking was computed from"
        "no capability graph was supplied with this cycle"]
    else []
  let capped := if metricIds.length > maxParents then
      [s!"only the first {maxParents} of {metricIds.length} capability metrics are linked (contract cap)"]
    else []
  { n with
    measurements := [m "bottleneck_score" (fixed.real 4 (.finite b.bottleneckScore)) "",
      m "centrality" (fixed.real 4 (.finite b.centrality)) "", m "ranking_basis" (basisText b.rankingBasis) ""] ++
      latency.toList
    missing := unmeasured ++ structural ++ graphless
    parents := (metricIds.take maxParents).map fun i => edge i relSupportedBy
    notes := capped ++ ["ranking computed by CapabilityGraph::rank_bottlenecks"] }

def alternativeNode (cycle : String) (b : BottleneckRank) : NodeDoc :=
  let n := node (alternativeId cycle b.nodeId) kindAlternative statusInference
    s!"Alternative bottleneck candidate #{b.rank}: '{b.nodeName}' ({b.subsystem}), score {fixed.real 4 (.finite b.bottleneckScore)}"
    (src "BottleneckRank" b.nodeId none)
  { n with
    parents := [edge (analysisId cycle) relAlternativeTo]
    measurements := [m "bottleneck_score" (fixed.real 4 (.finite b.bottleneckScore)) ""] }

end Ranking

section Hypothesis

def permille (score : ℚ) : UInt16 := UInt16.ofNat ⌊CapabilityGraph.clamp 0 1 score * 1000 + 1 / 2⌋.toNat

def hypothesisNode (cycle : String) (top : Option BottleneckRank) (h : HypothesisContract) : NodeDoc :=
  let n := node (hypothesisNodeId h) kindHypothesis statusHypothesis
    s!"Suspected root cause: {h.suspectedRootCause}. Observed problem: {h.observedProblem}"
    (src "HypothesisContract" h.id none)
  let confidence := match h.confidenceScore with
    | .finite score => if h.isExploratory then none else some (permille score)
    | .special _ => none
  let derived := top.filter fun b => hypothesisDerivedFrom h b
  -- A text and value match, not a recorded id: a weak link, and the missing id is declared.
  let missing := match derived with
    | some b => MissingDoc.mk "a recorded reference from the hypothesis to the bottleneck ranking"
        s!"linked only because the hypothesis text names '{b.nodeName}' and its baseline equals that bottleneck's p95 latency"
    | none => MissingDoc.mk "the system analysis this hypothesis was derived from"
        "the HypothesisContract carries no bottleneck reference and does not match the top-ranked bottleneck"
  let notes := match h.validate with
    | .ok () => []
    | .error e => [s!"hypothesis contract fails validation: {e}"]
  { n with
    confidencePermille := confidence
    confidenceBasis := confidence.map fun _ => "declared in the HypothesisContract, not measured"
    parents := derived.toList.map fun _ => edge (analysisId cycle) relReferences
    missing := [missing]
    notes }

def predictionNode (h : HypothesisContract) : NodeDoc :=
  let statement := match h.latencyClaim with
    | some (baseline, delta) =>
      s!"Predicts {h.targetMetric} improves by {fixed.real 1 delta}% from baseline {fixed.real 3 baseline}"
    | none => "Exploratory hypothesis: no performance prediction is made"
  let n := node (predictionId h) kindPrediction statusHypothesis statement (src "HypothesisContract" h.id none)
  let p := { n with parents := [edge (hypothesisNodeId h) relPartOf] }
  match h.latencyClaim with
  | some (baseline, delta) =>
    { p with
      measurements := [m "target_metric" h.targetMetric "", m "baseline_value" (fixed.real 3 baseline) "",
        m "predicted_delta_pct" (fixed.real 3 delta) "%"] }
  | none =>
    { p with
      measurements := [m "target_metric" h.targetMetric ""]
      missing := [⟨"a measured latency baseline and a predicted improvement",
        "the top-ranked stage has no measured latency, so no performance claim is made"⟩] }

def falsificationNode (h : HypothesisContract) : NodeDoc :=
  let protected_ := String.intercalate "; " (h.protectedMetrics.map fun pm =>
    s!"{pm.name} may degrade at most {fixed.real 1 pm.maxAllowedDegradationPct}%")
  let untested := h.falsificationTest = ""
  let statement := if untested then s!"Protected metrics: {protected_}"
    else s!"Refuted if this check fails: {h.falsificationTest}. Protected metrics: {protected_}"
  let n := node (falsificationId h) kindFalsification statusHypothesis statement (src "HypothesisContract" h.id none)
  { n with
    parents := [edge (hypothesisNodeId h) relPartOf]
    measurements := h.protectedMetrics.map fun pm =>
      m s!"protected.{pm.name}.max_degradation_pct" (fixed.real 3 pm.maxAllowedDegradationPct) "%"
    missing := if untested then
        [⟨"a falsification test", "the HypothesisContract has an empty falsification_test"⟩]
      else [] }

def diagnosticNode (cycle : String) (hypothesis : Option HypothesisContract) (d : DiagnosticContext) :
    NodeDoc :=
  let listed := if d.violations = [] then "no violations listed" else String.intercalate "; " d.violations
  let n := node (diagnosticId cycle) kindDiagnostic statusInference
    s!"Diagnosis for {d.targetFile}: primary defect {d.primaryDefect.debug}; {listed}" (src "DiagnosticContext" d.cycleId none)
  let notes := if d.pastLessons = [] then []
    else [s!"{d.pastLessons.length} recalled lesson(s) from the outside memory service were left out: they are free text, not evidence"]
  match d.hypothesis with
  | none =>
    { n with
      missing := [⟨"the hypothesis behind this diagnosis", "the DiagnosticContext carries no hypothesis"⟩]
      notes }
  | some dh =>
    match hypothesis.filter fun h => decide (h.id = dh.id) with
    | some h => { n with parents := [edge (hypothesisNodeId h) relSupportedBy], notes }
    | none =>
      { n with
        missing := [⟨s!"hypothesis {dh.id}", "the diagnostic names a hypothesis that was not supplied"⟩]
        notes }

end Hypothesis

section Receipts

variable (sha : HexHash)

def receiptNode (r : EvaluationReceipt) : NodeDoc :=
  let digestOk := r.verifyDigest sha
  let n := node (receiptNodeId r) kindEvaluationReceipt (if digestOk then statusVerifiedFact else statusUnclassified)
    s!"Evaluation of candidate {r.candidateId.value} (parent {r.parentId.value}): admitted={r.admitted}, {r.layerResults.items.length} evaluation layer result(s)"
    (src "EvaluationReceipt" r.candidateId.value (some r.receiptDigest))
  let mismatch := if digestOk then [] else ["the receipt digest does not match its contents"]
  let signed := if r.signature.isSome then
      "receipt is signed; the signature was not checked here (needs the evaluator public key)"
    else "receipt is unsigned"
  { n with
    measurements := r.layerResults.items.flatMap fun l =>
      [m s!"layer.{l.layerName.value}.passed" (toString l.passed) "",
        m s!"layer.{l.layerName.value}.score" (fixed.bits 4 l.score) ""]
    notes := mismatch ++ [signed] }

def summaryNode (r : EvaluationReceipt) : NodeDoc :=
  let n := node (summaryId r) kindEvaluationReceipt statusUnclassified
    s!"The evaluator reports: hard invariants passed={r.passedAllHardInvariants}, statistical gates passed={r.passedStatisticalGates}"
    (src "EvaluationReceipt" r.candidateId.value none)
  let measurements := match r.metricsSummary with
    | none => []
    | some ms =>
      [m "latency_delta_pct" (fixed.bits 3 ms.latencyDeltaPct) "%", m "p_value" (fixed.bits 6 ms.pValue) "",
        m "p95_ci_upper_degradation_pct" (fixed.bits 3 ms.p95CiUpperDegradationPct) "%",
        m "p99_ci_upper_degradation_pct" (fixed.bits 3 ms.p99CiUpperDegradationPct) "%",
        m "rss_growth_pct" (fixed.bits 3 ms.rssGrowthPct) "%"]
  { n with
    parents := [edge (receiptNodeId r) relPartOf]
    measurements
    notes := ["these fields are not covered by the receipt digest, so they are reported, not verified"] }

def ratificationNode (receipt : Option EvaluationReceipt) (r : RatificationRecord) : NodeDoc :=
  let n := node (ratificationId r) kindPromotionState statusDirectObservation
    s!"Ratification record for proposal {r.proposalId}: status {r.status} ({r.message})"
    (src "RatificationRecord" r.proposalId r.commitHash)
  { n with parents := receipt.toList.map fun rc => edge (receiptNodeId rc) relSupportedBy }

end Receipts

namespace RsiCycleEvidence

variable (ev : RsiCycleEvidence)

def ownHypothesis : Option HypothesisContract := ev.hypothesis.filter fun h => decide (h.cycleId = ev.cycleId)

def ownDiagnostic : Option DiagnosticContext := ev.diagnostic.filter fun d => decide (d.cycleId = ev.cycleId)

def ownReceipt : Option EvaluationReceipt := ev.receipt.filter fun r => decide (r.cycleId.value = ev.cycleId)

-- A ratification carries no cycle id; it belongs to this cycle through a receipt for the same candidate.
def ownRatification : Option RatificationRecord :=
  ev.ratification.filter fun r => ev.ownReceipt.any fun rc => decide (rc.candidateId.value = r.proposalId)

def leftOut (what id theirCycle : String) : List MissingDoc :=
  if theirCycle = ev.cycleId then []
  else [⟨s!"the {what} for cycle {ev.cycleId}", s!"the supplied {what} {id} belongs to cycle {theirCycle}; it was left out"⟩]

def foreign : List MissingDoc :=
  (ev.hypothesis.toList.flatMap fun h => ev.leftOut "hypothesis" h.id h.cycleId) ++
    (ev.diagnostic.toList.flatMap fun d => ev.leftOut "diagnostic" d.targetFile d.cycleId) ++
    (ev.receipt.toList.flatMap fun r => ev.leftOut "evaluation receipt" r.candidateId.value r.cycleId.value) ++
    (if ev.ownRatification.isSome then []
    else ev.ratification.toList.map fun r =>
      ⟨s!"an evaluation receipt of cycle {ev.cycleId} for proposal {r.proposalId}",
        "the supplied ratification matches no receipt of this cycle; it was left out"⟩)

end RsiCycleEvidence

section Build

variable (sha : HexHash) (ev : RsiCycleEvidence)

def conclusionNode : NodeDoc :=
  let ratified := ev.ownRatification.any fun r => r.status = "Ratified"
  let statement := match ev.ownDiagnostic, ev.ownHypothesis with
    | some d, _ =>
      s!"RSI proposes changing {d.targetFile} to address {d.primaryDefect.debug} (cycle {ev.cycleId})"
    | none, some h => s!"RSI proposes improving {h.targetMetric} (cycle {ev.cycleId})"
    | none, none => s!"RSI recorded no proposal rationale for cycle {ev.cycleId}"
  let c := node (conclusionId ev.cycleId) kindConclusion (if ratified then statusInference else statusHypothesis) statement
    (src "RsiCycle" ev.cycleId none)
  let reasons := match ev.ownDiagnostic, ev.ownHypothesis with
    | some _, _ => [diagnosticId ev.cycleId]
    | none, some h => [hypothesisNodeId h]
    | none, none => []
  let tests := ev.ownHypothesis.toList.flatMap fun h => [predictionId h, falsificationId h]
  let results := ev.ownReceipt.toList.flatMap fun r => [receiptNodeId r, summaryId r]
  let state := ev.ownRatification.toList.map ratificationId
  let unlinked := match ev.ownReceipt, ev.ownHypothesis with
    | some r, some h =>
      [MissingDoc.mk s!"an artifact linking candidate {r.candidateId.value} to hypothesis {h.id}"
        s!"both belong to cycle {r.cycleId.value}, but no RSI artifact records that the candidate was generated from this hypothesis, so the evaluation is not shown as testing it"]
    | none, _ =>
      [MissingDoc.mk s!"an evaluation receipt for cycle {ev.cycleId}" "none was supplied; the evaluation is incomplete"]
    | some _, none => []
  let unfounded := if ev.ownHypothesis.isSome then []
    else [MissingDoc.mk "a hypothesis contract" "none was supplied for this cycle"]
  { c with
    parents := (reasons ++ tests ++ results ++ state).map fun id => edge id relSupportedBy
    missing := unlinked ++ ev.foreign ++ unfounded
    notes := ["this explanation is observational; it does not authorize promotion or any change"] }

def capabilityNodes : List NodeDoc := (sortedNodes ev.graph).map (capabilityNode fixed)

def analysisNodes : List NodeDoc :=
  ev.bottlenecks.head?.toList.map
    (analysisNode fixed ev.cycleId ((capabilityNodes fixed ev).map NodeDoc.id) ev.bottlenecks)

-- Rank 2 onward.
def alternativeNodes : List NodeDoc :=
  ((ev.bottlenecks.drop 1).take maxAlternatives).map (alternativeNode fixed ev.cycleId)

def hypothesisNodes : List NodeDoc :=
  ev.ownHypothesis.toList.flatMap fun h =>
    [hypothesisNode ev.cycleId ev.bottlenecks.head? h, predictionNode fixed h, falsificationNode fixed h]

def diagnosticNodes : List NodeDoc := ev.ownDiagnostic.toList.map (diagnosticNode ev.cycleId ev.ownHypothesis)

def receiptNodes : List NodeDoc :=
  ev.ownReceipt.toList.flatMap fun r => [receiptNode fixed sha r, summaryNode fixed r]

def ratificationNodes : List NodeDoc := ev.ownRatification.toList.map (ratificationNode ev.ownReceipt)

def evidenceNodes : List NodeDoc :=
  capabilityNodes fixed ev ++ analysisNodes fixed ev ++ alternativeNodes fixed ev ++ hypothesisNodes fixed ev ++
    diagnosticNodes ev ++ receiptNodes fixed sha ev ++ ratificationNodes ev

def evidenceGraph : EvidenceGraphDoc where
  format := format
  version := version
  producer := producer
  nodes := evidenceNodes fixed sha ev ++ [conclusionNode ev]
  truncatedAt := []

end Build

end SparkRsi.Explain
