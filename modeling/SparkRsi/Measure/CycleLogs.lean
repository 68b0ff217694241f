import SparkRsi.Graph.Ranking
import SparkRsi.Measure.Clock
import SparkRsi.Measure.Foreign
import SparkRsi.Measure.NearestRank
import SparkRsi.Measure.SampleLog
import SparkRsi.Supervisor.Links

set_option autoImplicit false

namespace SparkRsi.Measure

open Shared Shared.Digraph SparkRsi.Graph

namespace SampleLog

def new (rsiRoot : String) : SampleLog := { dir := Supervisor.joinPath rsiRoot "measure" }

def completePath (log : SampleLog) : String := Supervisor.joinPath log.dir "stage-samples.jsonl"

def partialPath (log : SampleLog) : String := Supervisor.joinPath log.dir "partial-cycles.jsonl"

end SampleLog

/-- A cycle when it is over: its clock, whether it ended well, and where its append stops, if it does. -/
structure CycleEnd where
  cycleId : String
  ctx : MeasureContext
  clock : StageClock
  completed : Bool
  recordedAt : String
  stop : Option (Stop × String)

namespace CycleEnd

variable (cycle : CycleEnd)

def record : CycleSampleRecord where
  schemaVersion := SCHEMA_VERSION
  cycleId := cycle.cycleId
  workloadKey := cycle.ctx.workloadKey
  executionProfileFingerprint := cycle.ctx.fingerprint
  executionProfile := cycle.ctx.profile
  stages := cycle.clock.samples
  sourceCommit := cycle.ctx.sourceCommit
  recordedAt := cycle.recordedAt

def append : Append := { record := cycle.record, stop := cycle.stop }

end CycleEnd

structure SampleFiles where
  completeFile : Option Bytes
  partialFile : Option Bytes

section Source

variable (crates : SampleCrates) (log : SampleLog)

/-- A failing append is warned about and passed over. -/
def recordStageSamples (files : SampleFiles) (cycle : CycleEnd) : SampleFiles :=
  if cycle.clock.isEmpty then files
  else if cycle.completed then
    { files with completeFile := (log.append crates log.completePath files.completeFile cycle.append).file }
  else { files with partialFile := (log.append crates log.partialPath files.partialFile cycle.append).file }

/-- Every stage is unavailable with the reason when the samples cannot be read or measured. -/
def measureStages (display : Display) (rounding : Rounding) (records : Except String (List CycleSampleRecord))
    (currentCycleId : String) (ctx : MeasureContext) (minSamples windowCycles p95MinSamples : Nat) :
    Stage → Option StageMeasurement :=
  let attempt := do
    let r ← records
    tryMeasure display rounding r currentCycleId ctx minSamples windowCycles p95MinSamples
  match attempt with
  | .ok m => m
  | .error e => fun _ => some (.unavailable s!"stage samples were rejected: {e}" 0)

end Source

section Logs

def appends (cycles : List CycleEnd) (completed : Bool) : List Append :=
  (cycles.filter fun cycle => !cycle.clock.isEmpty && cycle.completed == completed).map CycleEnd.append

variable (crates : SampleCrates) (log : SampleLog)

-- A cycle appends to one of the two files, and only where its clock holds something.
theorem recordStageSamples_run (files : SampleFiles) (cycle : CycleEnd) :
    recordStageSamples crates log files cycle =
      { completeFile := (log.run crates log.completePath files.completeFile (appends [cycle] true)).1
        partialFile := (log.run crates log.partialPath files.partialFile (appends [cycle] false)).1 } := by
  unfold recordStageSamples
  split
  next empty => simp [appends, empty, SampleLog.run]
  next filled =>
    split
    next well => simp [appends, filled, well, SampleLog.run]
    next failed => simp [appends, filled, failed, SampleLog.run]

theorem run_append (path : String) (file : Option Bytes) (first second : List Append) :
    (log.run crates path file (first ++ second)).1 =
      (log.run crates path (log.run crates path file first).1 second).1 := by
  induction first generalizing file with
  | nil => rfl
  | cons call rest ih => exact ih _

theorem final_recordStageSamples (files : SampleFiles) (cycles : List CycleEnd) :
    Run.final (recordStageSamples crates log) files cycles =
      { completeFile := (log.run crates log.completePath files.completeFile (appends cycles true)).1
        partialFile := (log.run crates log.partialPath files.partialFile (appends cycles false)).1 } := by
  induction cycles generalizing files with
  | nil => rfl
  | cons cycle rest ih =>
    have split (flag : Bool) : appends (cycle :: rest) flag = appends [cycle] flag ++ appends rest flag := by
      rw [appends, ← List.singleton_append, List.filter_append, List.map_append]
      rfl
    rw [Run.final, ih, recordStageSamples_run, split, split, run_append, run_append]

theorem mem_run {path : String} {file : Option Bytes} {calls : List Append} {r : CycleSampleRecord}
    (member : r ∈ (log.run crates path file calls).2) : ∃ call ∈ calls, r = call.record := by
  induction calls generalizing file with
  | nil => exact absurd member List.not_mem_nil
  | cons call rest ih =>
    rw [SampleLog.run] at member
    cases List.mem_append.mp member with
    | inl here =>
      split at here
      next => exact ⟨call, List.mem_cons_self, List.mem_singleton.mp here⟩
      next => exact absurd here List.not_mem_nil
    | inr later =>
      obtain ⟨other, listed, same⟩ := ih later
      exact ⟨other, List.mem_cons_of_mem call listed, same⟩

end Logs

section Measuring

variable {display : Display} {rounding : Rounding}

variable (rounding) in
theorem percentile_returns {values : List Real64} (valid : validateSamples display values = .ok ()) {percent : ℚ}
    (low : 0 ≤ percent) (high : percent ≤ 100) :
    ∃ v, percentileNearestRank display rounding values (.finite percent) = .ok v := by
  have within : ¬¬(0 ≤ percent ∧ percent ≤ 100) := not_not.mpr ⟨low, high⟩
  simp only [percentileNearestRank, valid, ok_bind, refuseIf, if_neg within]
  exact ⟨_, rfl⟩

variable (rounding) in
theorem p95_returns {values : List Real64} (valid : validateSamples display values = .ok ()) (minSamples : Nat) :
    ∃ p95, p95IfSufficient display rounding values minSamples = .ok p95 := by
  rw [p95IfSufficient, valid, ok_bind]
  split
  next => exact ⟨_, rfl⟩
  next =>
    have low : (0 : ℚ) ≤ 95 := by norm_num
    have high : (95 : ℚ) ≤ 100 := by norm_num
    obtain ⟨v, returned⟩ := percentile_returns rounding valid low high
    rw [returned]
    exact ⟨_, rfl⟩

variable (rounding) in
theorem durations_valid {samples : List StageSample} (filled : samples ≠ []) :
    validateSamples display
      (samples.map fun sample => Real64.finite (rounding.round sample.durationUs.toNat)) = .ok () := by
  have nonneg (us : Nat) : 0 ≤ rounding.round us := rounding.zero.symm.le.trans (rounding.mono (Nat.cast_nonneg us))
  have split : (samples.map fun sample => Real64.finite (rounding.round sample.durationUs.toNat)) =
      (samples.map fun sample => rounding.round sample.durationUs.toNat).map .finite := by
    rw [List.map_map]
    rfl
  rw [split]
  apply validateSamples_finite
  next => simpa using filled
  next =>
    intro v member
    obtain ⟨sample, -, rfl⟩ := List.mem_map.mp member
    exact nonneg _

def Readable (r : CycleSampleRecord) : Prop := ∀ stage, ∃ hit, stageSample stage r = .ok hit

variable (display rounding) in
theorem measureStage_returns {window : List CycleSampleRecord} (readable : ∀ r ∈ window, Readable r)
    {minSamples : Nat} (positive : 0 < minSamples) (windowCycles p95MinSamples : Nat) (stage : Stage) :
    ∃ entry, measureStage display rounding window minSamples windowCycles p95MinSamples stage = .ok entry := by
  obtain ⟨hits, found⟩ := exists_mapM fun r member => readable r member stage
  rw [measureStage, found, ok_bind]
  dsimp only
  split
  next => exact ⟨_, rfl⟩
  next enough =>
    have filled : hits.filterMap id ≠ [] := by
      intro empty
      rw [empty] at enough
      exact enough positive
    have valid := @durations_valid display rounding _ filled
    have low : (0 : ℚ) ≤ 50 := by norm_num
    have high : (50 : ℚ) ≤ 100 := by norm_num
    obtain ⟨median50, first⟩ := percentile_returns rounding valid low high
    obtain ⟨p95, second⟩ := p95_returns rounding valid p95MinSamples
    rw [median, first, ok_bind, second]
    exact ⟨_, rfl⟩

theorem window_subset (currentCycleId : String) (ctx : MeasureContext) (windowCycles : Nat)
    (records : List CycleSampleRecord) : window currentCycleId ctx windowCycles records ⊆ records := by
  intro r member
  have listed := List.mem_of_mem_drop member
  rw [compatible_eq] at listed
  exact List.mem_of_mem_filter ((distinctCycles_spec [] _).1.subset listed)

variable (display rounding) in
theorem tryMeasure_returns {records : List CycleSampleRecord} (readable : ∀ r ∈ records, Readable r)
    {minSamples : Nat} (positive : 0 < minSamples) (currentCycleId : String) (ctx : MeasureContext)
    (windowCycles p95MinSamples : Nat) : ∃ measurements,
      tryMeasure display rounding records currentCycleId ctx minSamples windowCycles p95MinSamples = .ok measurements := by
  have inside : ∀ r ∈ window currentCycleId ctx windowCycles records, Readable r :=
    fun r member => readable r (window_subset currentCycleId ctx windowCycles records member)
  obtain ⟨out, made⟩ := exists_mapM fun stage (_ : stage ∈ Stage.all) =>
    measureStage_returns display rounding inside positive windowCycles p95MinSamples stage
  rw [tryMeasure, made]
  exact ⟨_, rfl⟩

end Measuring

section Pipeline

variable {display : Display} {measurements : Stage → Option StageMeasurement}

theorem stageNode_id {stage : Stage} {node : CapabilityNode} (made : stageNode display measurements stage = .ok node) :
    node.id = stage.id := by
  rw [stageNode] at made
  cases found : measurements stage with
  | none =>
    rw [found] at made
    cases made
    rfl
  | some m =>
    rw [found] at made
    cases m with
    | unavailable reason sampleCount =>
      cases made
      rfl
    | measured latencyMedianUs latencyP95Us errorRate sampleCount =>
      simp only [CapabilityNode.withMeasuredLatency, bind_eq_ok] at made
      obtain ⟨_, -, made⟩ := made
      cases latencyP95Us with
      | none =>
        simp only [bind_eq_ok] at made
        obtain ⟨_, -, _, -, ⟨⟩⟩ := made
        rfl
      | some p =>
        simp only [bind_eq_ok] at made
        obtain ⟨_, -, _, -, _, -, ⟨⟩⟩ := made
        rfl

theorem stageNodes_ids {stages : List Stage} {nodes : List CapabilityNode}
    (made : List.Forall₂ (fun stage node => stageNode display measurements stage = .ok node) stages nodes) :
    nodes.map CapabilityNode.id = stages.map Stage.id := by
  induction made with
  | nil => rfl
  | cons first _ ih => rw [List.map_cons, List.map_cons, ih, stageNode_id first]

def pipelineEdges : List GraphCall :=
  (Stage.all.zip Stage.all.tail).map fun pair => .addEdge pair.1.id pair.2.id (.finite 0) (.finite 1)

theorem buildCapabilityGraph_calls {graph : CapabilityGraph}
    (built : buildCapabilityGraph display measurements = .ok graph) :
    ∃ nodes : List CapabilityNode, nodes.map CapabilityNode.id = Stage.all.map Stage.id ∧
      graph = build (nodes.map .addNode ++ pipelineEdges) := by
  rw [buildCapabilityGraph, bind_eq_ok] at built
  obtain ⟨nodes, made, built⟩ := built
  refine ⟨nodes, stageNodes_ids (mapM_eq_ok.mp made), ?_⟩
  rw [build, List.foldl_append, List.foldl_map, pipelineEdges, List.foldl_map]
  exact (Except.ok.inj built).symm

theorem nodesAdded_pipeline (nodes : List CapabilityNode) :
    nodesAdded (nodes.map .addNode ++ pipelineEdges) = nodes.map CapabilityNode.id := by
  have edges : nodesAdded pipelineEdges = [] := rfl
  rw [nodesAdded, List.filterMap_append, List.filterMap_map]
  rw [nodesAdded] at edges
  rw [edges, List.append_nil]
  exact congrFun List.filterMap_eq_map nodes

theorem pipeline_ranked {graph : CapabilityGraph} (built : buildCapabilityGraph display measurements = .ok graph) :
    ∃ ranks, graph.rankBottlenecks display = .ok ranks ∧
      (ranks.map BottleneckRank.nodeId).Perm (Stage.all.map Stage.id) := by
  obtain ⟨nodes, ids, rfl⟩ := buildCapabilityGraph_calls built
  have added := nodesAdded_pipeline nodes
  have edges : edgesAdded (nodes.map .addNode ++ pipelineEdges) = edgesAdded pipelineEdges := by
    rw [edgesAdded, List.filterMap_append, List.filterMap_map, List.filterMap_eq_nil_iff.mpr]
    · rfl
    · intro node _
      rfl
  have closed : Closed (build (nodes.map .addNode ++ pipelineEdges)).neighbors
      (build (nodes.map .addNode ++ pipelineEdges)).ids.toFinset := by
    rw [closed_build, added, edges, ids]
    decide
  obtain ⟨centrality, calculated⟩ := calculate_ok_iff.mpr (.inr closed)
  obtain ⟨ranks, ranked⟩ := rankBottlenecks_ok display calculated
  have listed : ((build (nodes.map .addNode ++ pipelineEdges)).ids).Perm (Stage.all.map Stage.id) := by
    rw [List.perm_ext_iff_of_nodup (ids_nodup _) (by decide)]
    intro id
    rw [mem_ids_build, added, ids]
  exact ⟨ranks, ranked, (rankBottlenecksIn_ids ranked).trans listed⟩

theorem measureStages_builds (rounding : Rounding) (records : Except String (List CycleSampleRecord))
    (currentCycleId : String) (ctx : MeasureContext) (minSamples windowCycles p95MinSamples : Nat) :
    ∃ graph, buildCapabilityGraph display
      (measureStages display rounding records currentCycleId ctx minSamples windowCycles p95MinSamples) = .ok graph := by
  unfold measureStages
  dsimp only
  split
  next attempt =>
    obtain ⟨_, -, measured⟩ := bind_eq_ok.mp attempt
    exact tryMeasure_builds measured
  next => exact ⟨_, rfl⟩

end Pipeline

section Cycles

variable (crates : SampleCrates) (log : SampleLog) (display : Display) (rounding : Rounding)

theorem record_readable (cycle : CycleEnd) : Readable cycle.record :=
  fun stage => ⟨_, @stageSample_of_clock cycle.clock cycle.record rfl stage⟩

-- Every record a cycle writes lists each stage once.
theorem mem_run_readable {path : String} {file : Option Bytes} {cycles : List CycleEnd} {flag : Bool} :
    ∀ r ∈ (log.run crates path file (appends cycles flag)).2, Readable r := by
  intro r member
  obtain ⟨call, listed, rfl⟩ := mem_run crates log member
  obtain ⟨cycle, -, rfl⟩ := List.mem_map.mp listed
  exact record_readable cycle

/-- After any cycles, each ended in any way and with its append stopped anywhere or not at all, the next cycle reads
exactly the records of completed cycles whose whole line was written. It measures every stage from these, and never
from a rejected log, and what it measures makes a graph whose six stages are ranked. -/
theorem next_cycle_measures (earlier : List CycleEnd) (currentCycleId : String) (ctx : MeasureContext)
    (minSamples windowCycles p95MinSamples : Nat) (positive : 0 < minSamples) :
    let files := Run.final (recordStageSamples crates log) { completeFile := none, partialFile := none } earlier
    let read := readRecords crates log.completePath (found files.completeFile)
    let written := (log.run crates log.completePath none (appends earlier true)).2
    let measurements := measureStages display rounding read currentCycleId ctx minSamples windowCycles p95MinSamples
    read = .ok written ∧
    tryMeasure display rounding written currentCycleId ctx minSamples windowCycles p95MinSamples = .ok measurements ∧
    ∃ graph ranks, buildCapabilityGraph display measurements = .ok graph ∧ graph.rankBottlenecks display = .ok ranks ∧
      (ranks.map BottleneckRank.nodeId).Perm (Stage.all.map Stage.id) := by
  intro files read written measurements
  have reads : read = .ok written := by
    have file : files.completeFile = (log.run crates log.completePath none (appends earlier true)).1 :=
      congrArg SampleFiles.completeFile (final_recordStageSamples crates log _ earlier)
    have empty : Holds none [] := ⟨⟨[], List.not_mem_nil, rfl⟩, fun _ member => absurd member List.not_mem_nil⟩
    have holds := run_holds crates log.completePath log empty (appends earlier true)
    rw [List.nil_append, ← file] at holds
    exact readFile_ok crates log.completePath holds
  obtain ⟨made, measured⟩ := tryMeasure_returns display rounding (mem_run_readable crates log) positive currentCycleId
    ctx windowCycles p95MinSamples
  have same : measurements = made := by
    simp only [measurements, measureStages, reads, ok_bind]
    rw [measured]
  obtain ⟨graph, built⟩ : ∃ graph, buildCapabilityGraph display made = .ok graph := tryMeasure_builds measured
  obtain ⟨ranks, ranked, stages⟩ := pipeline_ranked built
  refine ⟨reads, by rw [same]; exact measured, graph, ranks, by rw [same]; exact built, ranked, stages⟩

theorem next_cycle_measures_torn : ∃ first second third : CycleEnd, ∃ graph,
    first.completed = true ∧ second.completed = false ∧ third.completed = true ∧
    third.stop = some (.write 9, "stopped") ∧
    readRecords standardSampleCrates (SampleLog.new ".rsi").completePath
      (found (Run.final (recordStageSamples standardSampleCrates (.new ".rsi"))
        { completeFile := none, partialFile := none } [first, second, third]).completeFile) = .ok [first.record] ∧
    buildCapabilityGraph emptyDisplay (measureStages emptyDisplay .none (.ok [first.record]) "cycle-4" sampleContext
      1 20 5) = .ok graph := by
  let cycle (cycleId : String) (completed : Bool) (stop : Option (Stop × String)) : CycleEnd :=
    { cycleId, ctx := sampleContext, completed, recordedAt := "2026-10-15T00:00:00Z", stop
      clock := Run.final StageClock.record .new [⟨.observe, 7, .ok⟩, ⟨.buildJail, 90, .ok⟩, ⟨.buildJail, 40, .failed⟩] }
  let first := cycle "cycle-1" true none
  let second := cycle "cycle-2" false none
  let third := cycle "cycle-3" true (some (.write 9, "stopped"))
  obtain ⟨read, -, graph, ranks, built, -, -⟩ := next_cycle_measures standardSampleCrates
    (.new ".rsi") emptyDisplay .none [first, second, third] "cycle-4" sampleContext 1 20 5 Nat.one_pos
  have written : ((SampleLog.new ".rsi").run standardSampleCrates (SampleLog.new ".rsi").completePath none
      (appends [first, second, third] true)).2 = [first.record] := by decide +kernel
  rw [written] at read
  rw [read] at built
  exact ⟨first, second, third, graph, rfl, rfl, rfl, rfl, read, built⟩

end Cycles

end SparkRsi.Measure
