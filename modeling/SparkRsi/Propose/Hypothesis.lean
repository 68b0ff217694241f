import SparkRsi.Canary.Records
import SparkRsi.Graph.Capability

set_option autoImplicit false

namespace SparkRsi.Graph.Real64

def isFinite : Real64 → Bool
  | .finite _ => true
  | .special _ => false

def equals : Real64 → Real64 → Bool
  | .finite a, .finite b => a = b
  | .special a, .special b => a = b && a ≠ "NaN"
  | _, _ => false

def below (v : Real64) (bound : ℚ) : Bool :=
  match v with
  | .finite value => value < bound
  | .special name => name = "-inf"

def above (v : Real64) (bound : ℚ) : Bool :=
  match v with
  | .finite value => bound < value
  | .special name => name = "inf"

def abs : Real64 → Real64
  | .finite value => .finite |value|
  | .special name => .special (if name = "-inf" then "inf" else name)

end SparkRsi.Graph.Real64

namespace SparkRsi.Propose

open Shared
open Canary (isBlank)
open SparkRsi.Graph (Real64)

structure ProtectedMetric where
  name : String
  maxAllowedDegradationPct : Real64

def exploratoryTargetMetric : String := "structural_ranking"

structure HypothesisContract where
  id : String
  cycleId : String
  observedProblem : String
  suspectedRootCause : String
  targetMetric : String
  baselineValue : Real64
  predictedDeltaPct : Real64
  protectedMetrics : List ProtectedMetric
  falsificationTest : String
  confidenceScore : Real64

namespace HypothesisContract

variable (h : HypothesisContract)

def isExploratory : Bool := h.targetMetric = exploratoryTargetMetric

def latencyClaim : Option (Real64 × Real64) :=
  if h.isExploratory then none else some (h.baselineValue, h.predictedDeltaPct)

def leastDelta : ℚ := 4722366482869645 / 4722366482869645213696

def validate : Except String Unit := do
  refuseIf (isBlank h.observedProblem) "HypothesisContract must specify a non-empty observed_problem"
  refuseIf (isBlank h.suspectedRootCause) "HypothesisContract must specify a non-empty suspected_root_cause"
  refuseIf (isBlank h.targetMetric) "HypothesisContract must specify a target_metric"
  if h.isExploratory then
    refuseIf (!h.baselineValue.equals (.finite 0) || !h.predictedDeltaPct.equals (.finite 0))
      "an exploratory HypothesisContract must carry no baseline and no predicted delta"
  else
    refuseIf (!h.baselineValue.isFinite || !h.predictedDeltaPct.isFinite)
      "HypothesisContract baseline and predicted delta must be finite"
    refuseIf (h.predictedDeltaPct.abs.below leastDelta) "HypothesisContract predicted_delta_pct cannot be zero"
    refuseIf (h.confidenceScore.below 0 || h.confidenceScore.above 1)
      "HypothesisContract confidence_score must be in [0.0, 1.0]"

end HypothesisContract

inductive DefectCategory where
  | compilationFailure
  | holdoutFailure
  | invariantViolation
  | performanceRegression
  | resourceViolation
  | styleViolation
  | soulTensionDominance
  deriving DecidableEq

def DefectCategory.debug : DefectCategory → String
  | compilationFailure => "CompilationFailure"
  | holdoutFailure => "HoldoutFailure"
  | invariantViolation => "InvariantViolation"
  | performanceRegression => "PerformanceRegression"
  | resourceViolation => "ResourceViolation"
  | styleViolation => "StyleViolation"
  | soulTensionDominance => "SoulTensionDominance"

structure DiagnosticContext where
  cycleId : String
  targetFile : String
  primaryDefect : DefectCategory
  violations : List String
  pastLessons : List String
  hypothesis : Option HypothesisContract

end SparkRsi.Propose
