import SparkRsi.Graph.Capability
import SparkRsi.Measure.Records
import SparkRsi.Shared.OrderStatistics

set_option autoImplicit false

namespace SparkRsi.Measure

open Shared Shared.OrderStatistics SparkRsi.Graph

/-- What the machine makes of a number, on the numbers below. -/
structure Rounding where
  round : ℚ → ℚ
  mono : Monotone round
  zero : round 0 = 0
  one : round 1 = 1

theorem id_zero : id (0 : ℚ) = 0 := rfl

theorem id_one : id (1 : ℚ) = 1 := rfl

section Stats

variable (display : Display) (rounding : Rounding)

def validateSamples (values : List Real64) : Except String Unit := do
  refuseIf values.isEmpty "no samples"
  values.zipIdx.forM fun (v, i) =>
    match v with
    | .special _ => .error s!"sample {i} is not finite: {display.float v}"
    | .finite value => refuseIf (value < 0) s!"sample {i} is negative: {display.float v}"

def finiteValues (values : List Real64) : List ℚ :=
  values.filterMap fun v =>
    match v with
    | .finite value => some value
    | .special _ => none

def percentileNearestRank (values : List Real64) (p : Real64) : Except String Real64 := do
  validateSamples display values
  match p with
  | .special _ => .error s!"percentile must be within 0..=100, got {display.float p}"
  | .finite percent =>
    refuseIf (¬(0 ≤ percent ∧ percent ≤ 100)) s!"percentile must be within 0..=100, got {display.float p}"
    let ordered := sorted (finiteValues values)
    let n := ordered.length
    let rank := ⌈rounding.round (rounding.round (percent * rounding.round n) / 100)⌉ - 1
    let index := (max 0 (min rank (n - 1))).toNat
    -- The index lies within the values.
    return .finite (ordered.getD index 0)

def median (values : List Real64) : Except String Real64 :=
  percentileNearestRank display rounding values (.finite 50)

def p95IfSufficient (values : List Real64) (minSamples : Nat) : Except String (Option Real64) := do
  validateSamples display values
  if values.length < minSamples then return none
  else
    let p95 ← percentileNearestRank display rounding values (.finite 95)
    return some p95

end Stats

inductive StageMeasurement where
  | measured (latencyMedianUs : Real64) (latencyP95Us : Option Real64) (errorRate : Real64) (sampleCount : Nat)
  | unavailable (reason : String) (sampleCount : Nat)

def nodeMeta : Stage → String × String
  | .observe => ("Observe Subsystem", "observe")
  | .propose => ("Propose Subsystem", "propose")
  | .buildJail => ("Build Jail", "isolation")
  | .judgeEvaluation => ("Judge Evaluation", "actor")
  | .supervisorCanary => ("Supervisor Canary", "supervisor")
  | .cortexCommit => ("Cortex Commit", "ratify")

def distinctCycles : List String → List CycleSampleRecord → List CycleSampleRecord
  | _, [] => []
  | seen, r :: rest =>
    if r.cycleId ∈ seen then distinctCycles seen rest else r :: distinctCycles (r.cycleId :: seen) rest

section Selecting

variable (currentCycleId : String) (ctx : MeasureContext)

def compatible (records : List CycleSampleRecord) : List CycleSampleRecord :=
  let others := records.filter fun r => r.cycleId ≠ currentCycleId
  let sameWorkload := others.filter fun r => r.workloadKey = ctx.workloadKey
  let sameProfile := sameWorkload.filter fun r => r.executionProfileFingerprint = ctx.fingerprint
  distinctCycles [] sameProfile

def window (windowCycles : Nat) (records : List CycleSampleRecord) : List CycleSampleRecord :=
  let compatible := compatible currentCycleId ctx records
  compatible.drop (compatible.length - windowCycles)

end Selecting

section Measuring

variable (display : Display) (rounding : Rounding)

def stageSample (stage : Stage) (rec : CycleSampleRecord) : Except String (Option StageSample) :=
  match rec.stages.filter fun s => s.stage = stage with
  | [] => .ok none
  | [sample] => .ok (some sample)
  | _ :: _ :: _ => .error s!"cycle {rec.cycleId} records stage {stage.id} twice"

def measureStage (window : List CycleSampleRecord) (minSamples windowCycles p95MinSamples : Nat)
    (stage : Stage) :
    Except String (Stage × StageMeasurement) := do
  let hits ← window.mapM (stageSample stage)
  let samples := hits.filterMap id
  let durations := samples.map fun sample => Real64.finite (rounding.round sample.durationUs.toNat)
  let failed := samples.countP fun sample => sample.outcome = .failed
  let n := durations.length
  if n < minSamples then
    return (stage, .unavailable
      s!"fewer than {minSamples} compatible completed samples in the last {windowCycles} cycles (found {n})" n)
  else
    let latencyMedianUs ← median display rounding durations
    let latencyP95Us ← p95IfSufficient display rounding durations p95MinSamples
    return (stage, .measured latencyMedianUs latencyP95Us
      (.finite (rounding.round (rounding.round failed / rounding.round n))) n)

def tryMeasure (records : List CycleSampleRecord) (currentCycleId : String) (ctx : MeasureContext)
    (minSamples windowCycles p95MinSamples : Nat) : Except String (Stage → Option StageMeasurement) := do
  let window := window currentCycleId ctx windowCycles records
  let out ← Stage.all.mapM (measureStage display rounding window minSamples windowCycles p95MinSamples)
  return fun stage => out.lookup stage

def stageNode (measurements : Stage → Option StageMeasurement) (stage : Stage) :
    Except String CapabilityNode :=
  let (name, subsystem) := nodeMeta stage
  let node := CapabilityNode.new stage.id name subsystem
  match measurements stage with
  | some (.measured latencyMedianUs latencyP95Us errorRate sampleCount) =>
    node.withMeasuredLatency display latencyMedianUs latencyP95Us errorRate sampleCount
  | some (.unavailable reason sampleCount) => .ok (node.withUnavailable reason sampleCount)
  | none => .ok (node.withUnavailable "stage was not measured" 0)

def buildCapabilityGraph (measurements : Stage → Option StageMeasurement) : Except String CapabilityGraph :=
  do
  let nodes ← Stage.all.mapM (stageNode display measurements)
  let graph := nodes.foldl CapabilityGraph.addNode .new
  return (Stage.all.zip Stage.all.tail).foldl
    (fun graph pair => graph.addEdge pair.1.id pair.2.id (.finite 0) (.finite 1)) graph

end Measuring

end SparkRsi.Measure
