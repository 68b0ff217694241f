import SparkRsi.Cycle.Candidates
import SparkRsi.Meta.AbFork
import SparkRsi.Soak.Quarantine
import Mathlib.Data.List.Sort

set_option autoImplicit false

namespace SparkRsi.Soak

open Shared Shared.Passes Ledger Supervisor SparkRsi.Cycle SparkRsi.Measure Propose Governance SparkRsi.Graph
open Actor (PathBuf Tree)
open Evaluator (EvaluationReceipt F64)
open Meta (TrueRsiEvaluator.evaluateCriterion1NovelDiscovery TrueRsiEvaluator.evaluateCriterion2SelfCapabilityImprovement)

structure SoakConfig where
  repoRoot : PathBuf
  rsiRoot : String
  sandboxRoot : PathBuf
  signingKeyHex : Option String
  totalCycles : Nat
  candidatesPerCycle : Nat
  writablePrefixes : List String

structure CycleCandidateRecord where
  candidateId : String
  candidateIndex : Nat
  targetFile : String
  proposedPatchDigest : String
  compilationPassed : Bool
  invariantsPassed : Bool
  judgeAdmitted : Bool
  primaryMetricName : String
  primaryMetricValue : F64
  rejectionReason : Option String
  ledgerBlockHash : Option String

structure CycleRecord where
  cycleIndex : Nat
  cycleId : String
  bottleneckNode : String
  hypothesisProblem : String
  candidates : List CycleCandidateRecord
  winningCandidateId : Option String
  merkleCheckpointHash : Option String
  status : String

structure AdmittedMetaCandidate where
  candidateId : String
  ledgerBlockHash : String
  stagingDir : String
  patchDigest : String
  criteria1NovelDiscovery : Bool
  criteria2SelfCapabilityGain : Bool
  classification : String

structure SoakRunManifest where
  manifestVersion : String
  runId : String
  startedAt : String
  completedAt : String
  cycles : List CycleRecord
  admittedCandidates : List AdmittedMetaCandidate
  exhaustedHypotheses : List String
  finalMerkleCheckpoint : Option String
  totalCandidatesEvaluated : Nat
  totalCandidatesAdmitted : Nat
  preflightPassed : Bool
  overallStatus : String

structure SoakText where
  fourDecimals : ℚ → String
  oneDecimal : Real64 → String
  twoDecimals : Float64 → String

structure VariationIo where
  proposed : Option ImprovementProposal
  note : Io
  stage : StageIo
  build : Except String (Bool × String × String)
  invariants : VerificationReport
  trees : PathBuf → Tree
  around : Actor.Surroundings
  evaluation : Io

structure SoakCycleIo where
  samplesFault : Option String
  ctx : MeasureContext
  -- Whether the observed tension between drive and humanity is balanced.
  observed : Except String Bool
  repo : Tree
  variation : Nat → VariationIo
  checkpoint : Io

structure PreflightIo where
  bwrap : Except String Bool
  opening : Io
  holdoutsDir : String
  holdoutsExist : Bool
  cargoToml : Bool

structure BatchIo where
  runId : String
  startedAt : String
  hexError : String
  preflight : PreflightIo
  opening : Io
  cycle : Nat → SoakCycleIo
  checkpoint : Io
  completedAt : String
  saved : Except String Unit
  -- Whether a save that failed had emptied the file.
  emptied : Bool

theorem noText_fits : (utf8 "").length < 2 ^ 64 := by decide

def textOf (value : String) : Text := if fits : (utf8 value).length < 2 ^ 64 then ⟨value, fits⟩ else ⟨"", noText_fits⟩

def twoDigits (index : Nat) : String := if index < 10 then s!"0{index}" else s!"{index}"

def soakCycleId (runId : String) (index : Nat) : Text := textOf s!"soak-{runId}-c{twoDigits index}"

def soakCandidateId (cycleId : Text) (index : Nat) : Text := textOf s!"{cycleId.value}-c{index}"

structure Admissible where
  candidate : Candidate
  receipt : EvaluationReceipt
  block : LedgerBlock

/-- A variation that is left before it was judged, and an error that ends the batch. -/
inductive VariationEnd where
  | rejected (record : CycleCandidateRecord)
  | fatal (e : String)

abbrev VariationPass := EStateM VariationEnd ImprovementLedger

section Variations

variable {ecdsa : Ecdsa} (crates : CycleCrates ecdsa) (config : SoakConfig) (io : VariationIo) (candidate : Candidate)
  (index : Nat)

def isPermitted (targetFile : String) : Bool :=
  let normalizedTarget := trimTarget targetFile
  config.writablePrefixes.any fun permitted =>
    normalizedTarget = permitted.toList.rdropWhile (· = '/') || permitted.toList.isPrefixOf normalizedTarget

def patchDigest : String := crates.ledger.sha.hex (utf8 candidate.proposedPatch)

def rejectedRecord (compilationPassed invariantsPassed : Bool) (reason : String) : CycleCandidateRecord where
  candidateId := candidate.id.value
  candidateIndex := index
  targetFile := candidate.targetFile
  proposedPatchDigest := patchDigest crates candidate
  compilationPassed
  invariantsPassed
  judgeAdmitted := false
  primaryMetricName := "latency_us"
  primaryMetricValue := Actor.zero
  rejectionReason := some reason
  ledgerBlockHash := none

/-- The note in the ledger need not be the reason in the record. -/
def rejectAfter {α : Type} (text : String) (record : CycleCandidateRecord) : VariationPass α := do
  modify fun ledger => kept ledger (appendBlock crates.ledger io.note ledger .evaluation text [])
  throw (.rejected record)

def reject {α : Type} (compilationPassed invariantsPassed : Bool) (reason : String) : VariationPass α :=
  rejectAfter crates io reason (rejectedRecord crates candidate index compilationPassed invariantsPassed reason)

def requirePermitted : VariationPass Unit :=
  if isPermitted config candidate.targetFile then pure ()
  else reject crates io candidate index false false
    s!"Tier 2 boundary violation: {candidate.targetFile} is outside permitted soak surface"

def stageVariation (repo : Tree) : VariationPass Staged :=
  match stageInSandbox io.stage crates.stage config.repoRoot config.sandboxRoot repo (sandboxed candidate) with
  | .ok staged => pure staged
  | .error e => reject crates io candidate index false false s!"Staging failed: {e}"

def buildVariation (contents : Sandbox) : VariationPass Unit :=
  let failed := rejectedRecord crates candidate index false false "Failed to compile in Jail 1"
  if (contents (rootFile "Cargo.toml")).isSome then
    match io.build with
    | .ok (true, _, _) => pure ()
    | .ok (false, _, stderr) => rejectAfter crates io s!"Build Jail compile failed: {stderr}" failed
    | .error e => rejectAfter crates io s!"Build Jail execution error: {e}" failed
  else pure ()

def verifyVariation (isBalanced : Bool) : VariationPass Unit :=
  if io.invariants.passed && isBalanced then pure ()
  else reject crates io candidate index true false
    s!"Invariants or Balance failed (inv={io.invariants.passed}, bal={isBalanced})"

def judgeVariation (signingKey : ecdsa.SigningKey) (cycleId : Text) (sandboxDir : PathBuf) : VariationPass EvaluationReceipt :=
  match Actor.evaluateCycle crates.judge crates.ledger.sha ecdsa (ownJudge signingKey) io.trees io.around cycleId
      candidate.id parentLabel sandboxDir config.repoRoot with
  | .ok receipt => pure receipt
  | .error e => reject crates io candidate index true true s!"Blind Judge error: {e}"

def recordVariation (receipt : EvaluationReceipt) : VariationPass LedgerBlock := ofPair fun ledger =>
  let payload := crates.receiptToJson receipt
  let rawJson := (payload.toOption.map utf8).getD []
  match appendEvaluation crates.ledger io.evaluation ledger payload (some rawJson) with
  | (.ok block, ledger) => (.ok block, ledger)
  | (.error e, ledger) => (.error (.fatal s!"Failed to append evaluation: {e}"), ledger)

def latencyDeltaPct (receipt : EvaluationReceipt) : F64 :=
  (receipt.metricsSummary.map fun metrics => metrics.latencyDeltaPct).getD Actor.zero

def judgedRecord (receipt : EvaluationReceipt) (block : LedgerBlock) : CycleCandidateRecord where
  candidateId := candidate.id.value
  candidateIndex := index
  targetFile := candidate.targetFile
  proposedPatchDigest := patchDigest crates candidate
  compilationPassed := true
  invariantsPassed := true
  judgeAdmitted := receipt.admitted
  primaryMetricName := "latency_delta_pct"
  primaryMetricValue := latencyDeltaPct receipt
  rejectionReason :=
    if receipt.admitted then none else some "Judge non-inferiority margin exceeded or holdout failure"
  ledgerBlockHash := some block.blockHash

def evaluateVariation (signingKey : ecdsa.SigningKey) (cycleId : Text) (repo : Tree) (isBalanced : Bool) :
    VariationPass Admissible := do
  requirePermitted crates config io candidate index
  let staged ← stageVariation crates config io candidate index repo
  buildVariation crates io candidate index staged.contents
  verifyVariation crates io candidate index isBalanced
  let receipt ← judgeVariation crates config io candidate index signingKey cycleId staged.sandboxDir
  let block ← recordVariation crates io receipt
  return { candidate, receipt, block }

/-- No proposal at all leaves no note. -/
def unproposedRecord (candidateId targetFile : String) : CycleCandidateRecord where
  candidateId
  candidateIndex := index
  targetFile
  proposedPatchDigest := "none"
  compilationPassed := false
  invariantsPassed := false
  judgeAdmitted := false
  primaryMetricName := "latency_us"
  primaryMetricValue := Actor.zero
  rejectionReason := some "Model generation failed to produce valid code"
  ledgerBlockHash := none

end Variations

section Selection

def partialCmp (a b : Float64) : Option Ordering := if a.isNaN ∨ b.isNaN then none else some (compare a.rank b.rank)

def Admissible.delta (admissible : Admissible) : Float64 := ⟨(latencyDeltaPct admissible.receipt).bits⟩

def compareDeltas (a b : Admissible) : Ordering := (partialCmp a.delta b.delta).getD .eq

/-- The sort by latency is stable. -/
def selectWinner (admissible : List Admissible) : Option Admissible :=
  (admissible.insertionSort fun a b => compareDeltas a b ≠ .gt).head?

end Selection

/-- What a batch carries from step to step; the last two fields belong to the cycle under way. -/
structure BatchState where
  ledger : ImprovementLedger
  tracker : HypothesisQuarantineTracker
  cycles : List CycleRecord
  admittedCandidates : List AdmittedMetaCandidate
  totalCandidatesEvaluated : Nat
  totalCandidatesAdmitted : Nat
  candidates : List CycleCandidateRecord
  admissible : List Admissible

/-- How a batch ends before its last cycle: without a bottleneck it is still finished. -/
inductive BatchEnd where
  | noBottleneck
  | failed (e : String)
  | panicked

abbrev BatchPass := EStateM BatchEnd BatchState

section Cycles

variable {ecdsa : Ecdsa} (crates : CycleCrates ecdsa) (text : SoakText) (config : SoakConfig) (io : BatchIo)
  (signingKey : ecdsa.SigningKey)

def soakRoot : String := joinPath (crates.stage.display config.repoRoot) config.rsiRoot

def BatchState.push (s : BatchState) (record : CycleCandidateRecord) : BatchState :=
  { s with candidates := s.candidates ++ [record], totalCandidatesEvaluated := s.totalCandidatesEvaluated + 1 }

def soakTarget (nodeName : String) : String :=
  if nodeName = "Propose" then "src/propose/hypothesis.rs" else "src/observe.rs"

def tryVariation (cycleId : Text) (nodeName : String) (cycle : SoakCycleIo) (isBalanced : Bool) (index : Nat) :
    BatchPass Unit := ofPair fun s =>
  let variation := cycle.variation index
  let candidateId := soakCandidateId cycleId index
  match variation.proposed with
  | none => (.ok (), s.push (unproposedRecord index candidateId.value (soakTarget nodeName)))
  | some proposal =>
    let candidate : Candidate := { proposal with id := candidateId }
    match evaluateVariation crates config variation candidate index signingKey cycleId cycle.repo isBalanced s.ledger with
    | .ok judged ledger =>
      let pushed := { s with ledger }.push (judgedRecord crates candidate index judged.receipt judged.block)
      (.ok (), if judged.receipt.admitted then { pushed with admissible := pushed.admissible ++ [judged] } else pushed)
    | .error (.rejected record) ledger => (.ok (), { s with ledger }.push record)
    | .error (.fatal e) ledger => (.error (.failed e), { s with ledger })

def tryVariations (cycleId : Text) (nodeName : String) (cycle : SoakCycleIo) (isBalanced : Bool) :
    List Nat → BatchPass Unit
  | [] => pure ()
  | index :: rest => do
    tryVariation crates config signingKey cycleId nodeName cycle isBalanced index
    tryVariations cycleId nodeName cycle isBalanced rest

/-- The first bottleneck whose explanation is not listed, or else the first one. -/
def chooseRank (tracker : HypothesisQuarantineTracker) (ranked : List BottleneckRank) : Option BottleneckRank :=
  (ranked.find? fun b => !tracker.isExhausted crates.ledger.sha b.nodeName b.causalExplanation).or ranked.head?

def bottleneckOf (rank : BottleneckRank) : BottleneckNode :=
  { nodeName := rank.nodeName, causalExplanation := rank.causalExplanation }

/-- The problem of the hypothesis, which is not the problem the quarantine records. -/
def observedProblem (rank : BottleneckRank) : String :=
  match rank.latencyMedianUs with
  | some median =>
    s!"Stage '{rank.nodeName}' has measured median latency {text.oneDecimal median} us (centrality={text.fourDecimals rank.centrality})"
  | none =>
    s!"Stage '{rank.nodeName}' ranks first by structural position (centrality={text.fourDecimals rank.centrality}); no latency is measured"

/-- A cycle without an admissible variation; the message about an exhausted pairing may panic. -/
def recordVain (problem : String) (rank : BottleneckRank) : BatchPass (Option String) := ofPair fun s =>
  let recorded := s.tracker.recordFailure crates.ledger.sha rank.nodeName problem
  let after := { s with tracker := recorded.1 }
  if recorded.2 && !isCharBoundary problem.toList 20 then (.error .panicked, after) else (.ok none, after)

def admittedCandidate (rank : BottleneckRank) (winner : Admissible) : AdmittedMetaCandidate where
  candidateId := winner.candidate.id.value
  ledgerBlockHash := winner.block.blockHash
  stagingDir := joinPath (joinPath (soakRoot crates config) "admitted") winner.block.blockHash
  patchDigest := patchDigest crates winner.candidate
  criteria1NovelDiscovery := (TrueRsiEvaluator.evaluateCriterion1NovelDiscovery (observedProblem text rank) true
    ["hardcoded", "static_rule"]).passed
  criteria2SelfCapabilityGain := (TrueRsiEvaluator.evaluateCriterion2SelfCapabilityImprovement true
    s!"latency improved by {text.twoDecimals winner.delta}%\t").passed
  classification := "META_CANDIDATE"

def recordWinner (problem : String) (rank : BottleneckRank) (winner : Admissible) : BatchPass (Option String) := do
  modify fun s => { s with
    tracker := s.tracker.recordSuccess crates.ledger.sha rank.nodeName problem
    totalCandidatesAdmitted := s.totalCandidatesAdmitted + 1
    admittedCandidates := s.admittedCandidates ++ [admittedCandidate crates text config rank winner] }
  return some winner.candidate.id.value

def selectAdmissible (rank : BottleneckRank) : BatchPass (Option String) := do
  let problem := hypothesisProblem (bottleneckOf rank)
  match selectWinner (← get).admissible with
  | none => recordVain crates problem rank
  | some winner => recordWinner crates text config problem rank winner

def cycleRecord (cycleId : Text) (index : Nat) (rank : BottleneckRank) (candidates : List CycleCandidateRecord)
    (winningCandidateId merkleCheckpointHash : Option String) : CycleRecord where
  cycleIndex := index
  cycleId := cycleId.value
  bottleneckNode := rank.nodeName
  hypothesisProblem := observedProblem text rank
  candidates
  winningCandidateId
  merkleCheckpointHash
  status := "COMPLETED"

def closeSoakCycle (cycleId : Text) (index : Nat) (cycle : SoakCycleIo) (rank : BottleneckRank)
    (winningCandidateId : Option String) : BatchPass Unit := modify fun s =>
  let made := checkpoint crates.ledger ecdsa cycle.checkpoint s.ledger (some signingKey)
  { s with
    ledger := kept s.ledger made
    candidates := []
    admissible := []
    cycles := s.cycles ++ [cycleRecord text cycleId index rank s.candidates winningCandidateId
      (made.toOption.map fun made => made.1.merkleRoot)] }

/-- The stages of earlier cycles of the daemon; a batch adds none. -/
def soakMeasurements (files : SampleFiles) (cycleId : Text) (cycle : SoakCycleIo) : Stage → Option StageMeasurement :=
  let read := match cycle.samplesFault with
    | some e => .error (.other e)
    | none => found files.completeFile
  measureStages crates.display crates.rounding
    (readRecords crates.samples (SampleLog.new (soakRoot crates config)).completePath read) cycleId.value cycle.ctx 3 20 20

def rankedBottlenecks (graph : CapabilityGraph) : List BottleneckRank :=
  (graph.rankBottlenecks crates.display).toOption.getD []

def soakRanking (files : SampleFiles) (index : Nat) : Except String (List BottleneckRank) :=
  (buildCapabilityGraph crates.display
    (soakMeasurements crates config files (soakCycleId io.runId index) (io.cycle index))).map (rankedBottlenecks crates)

def orFail {α : Type} (result : Except String α) : BatchPass α := ofExcept (result.mapError .failed)

def runSoakCycle (files : SampleFiles) (index : Nat) : BatchPass Unit := do
  let cycle := io.cycle index
  let cycleId := soakCycleId io.runId index
  let isBalanced ← orFail cycle.observed
  let graph ← orFail (buildCapabilityGraph crates.display (soakMeasurements crates config files cycleId cycle))
  match chooseRank crates (← get).tracker (rankedBottlenecks crates graph) with
  | none => throw .noBottleneck
  | some rank => do
    tryVariations crates config signingKey cycleId rank.nodeName cycle isBalanced
      (List.range' 1 config.candidatesPerCycle)
    let winner ← selectAdmissible crates text config rank
    closeSoakCycle crates text signingKey cycleId index cycle rank winner

def runSoakCycles (files : SampleFiles) : List Nat → BatchPass Unit
  | [] => pure ()
  | index :: rest => do
    runSoakCycle crates text config io signingKey files index
    runSoakCycles files rest

end Cycles

structure SoakDisk where
  ledger : ImprovementLedger
  files : SampleFiles
  manifests : String → Option SoakRunManifest

inductive SoakFailure where
  | error (e : String)
  | panicked

section Batch

variable {ecdsa : Ecdsa} (crates : CycleCrates ecdsa) (text : SoakText) (config : SoakConfig) (io : BatchIo)

def soakKey : Except String ecdsa.SigningKey := do
  let signingKeyHex ← okOr
    "Fatal: Missing cryptographic signing key (signing_key_hex). Soak run fails closed." config.signingKeyHex
  let keyBytes ← okOr s!"Fatal: Invalid signing_key_hex: {io.hexError}" (ecdsa.hexDecode signingKeyHex)
  (crates.signingKeyFromSlice keyBytes).mapError fun e => s!"Fatal: Invalid P-256 signing key: {e}"

def checkContainment : Except String Unit := do
  let contained ← io.preflight.bwrap.mapError fun e => s!"Preflight containment check failed: bwrap missing: {e}"
  refuseIf (contained = false) "Preflight containment check failed: bwrap returned non-zero exit code"

def checkSurroundings : Except String Unit := do
  refuseIf (io.preflight.holdoutsExist = false)
    s!"Preflight failed: holdouts directory {crates.logs.debug io.preflight.holdoutsDir} does not exist"
  refuseIf (io.preflight.cargoToml = false)
    s!"Preflight failed: Cargo.toml not found in target repo {crates.stage.debug config.repoRoot}"

/-- The ledger is opened on the way, so a batch that stops here may have made its first block. -/
def runPreflightChecks (ledger : ImprovementLedger) : Except String Unit × ImprovementLedger :=
  match checkContainment io with
  | .error e => (.error e, ledger)
  | .ok () =>
    match openLedger crates.ledger io.preflight.opening ledger with
    | .error e => (.error s!"Preflight failed: cannot open improvement ledger: {e}", ledger)
    | .ok opened => (checkSurroundings crates config io, opened)

def abortedManifest : SoakRunManifest where
  manifestVersion := "1.0.0"
  runId := io.runId
  startedAt := io.startedAt
  completedAt := io.completedAt
  cycles := []
  admittedCandidates := []
  exhaustedHypotheses := []
  finalMerkleCheckpoint := none
  totalCandidatesEvaluated := 0
  totalCandidatesAdmitted := 0
  preflightPassed := false
  overallStatus := "PREFLIGHT_ABORTED"

def manifestPath : String := joinPath (soakRoot crates config) s!"soak_manifest_{io.runId}.json"

/-- Whatever was at the path is written over. -/
def save (disk : SoakDisk) (manifest : SoakRunManifest) : SoakDisk :=
  let written := fun content =>
    { disk with manifests := Function.update disk.manifests (manifestPath crates config io) content }
  match io.saved with
  | .ok () => written (some manifest)
  | .error _ => if io.emptied then written none else disk

def exhaustedList (tracker : HypothesisQuarantineTracker) : List String :=
  tracker.exhaustedPairings.insertionSort fun a b => utf8 a ≤ utf8 b

def finalManifest (s : BatchState) (finalMerkleCheckpoint : Option String) : SoakRunManifest where
  manifestVersion := "1.0.0"
  runId := io.runId
  startedAt := io.startedAt
  completedAt := io.completedAt
  cycles := s.cycles
  admittedCandidates := s.admittedCandidates
  exhaustedHypotheses := exhaustedList s.tracker
  finalMerkleCheckpoint
  totalCandidatesEvaluated := s.totalCandidatesEvaluated
  totalCandidatesAdmitted := s.totalCandidatesAdmitted
  preflightPassed := true
  overallStatus := "SUCCESS"

def batchStart (ledger : ImprovementLedger) : BatchState where
  ledger
  tracker := .new
  cycles := []
  admittedCandidates := []
  totalCandidatesEvaluated := 0
  totalCandidatesAdmitted := 0
  candidates := []
  admissible := []

def finishBatch (signingKey : ecdsa.SigningKey) (disk : SoakDisk) (s : BatchState) :
    Except SoakFailure SoakRunManifest × SoakDisk :=
  let made := checkpoint crates.ledger ecdsa io.checkpoint s.ledger (some signingKey)
  let manifest := finalManifest io s (made.toOption.map fun made => made.1.merkleRoot)
  let after := save crates config io { disk with ledger := kept s.ledger made } manifest
  match io.saved with
  | .ok () => (.ok manifest, after)
  | .error e => (.error (.error e), after)

def runCyclesOf (signingKey : ecdsa.SigningKey) (disk : SoakDisk) (ledger : ImprovementLedger) :
    Except SoakFailure SoakRunManifest × SoakDisk :=
  match toPair (runSoakCycles crates text config io signingKey disk.files (List.range' 1 config.totalCycles)
      (batchStart ledger)) with
  | (.ok (), s) => finishBatch crates config io signingKey disk s
  | (.error .noBottleneck, s) => finishBatch crates config io signingKey disk s
  | (.error (.failed e), s) => (.error (.error e), { disk with ledger := s.ledger })
  | (.error .panicked, s) => (.error .panicked, { disk with ledger := s.ledger })

def runBatch (disk : SoakDisk) : Except SoakFailure SoakRunManifest × SoakDisk :=
  match soakKey crates config io with
  | .error e => (.error (.error e), disk)
  | .ok signingKey =>
    match runPreflightChecks crates config io disk.ledger with
    | (.error e, ledger) =>
      (.error (.error s!"Preflight aborted: {e}"), save crates config io { disk with ledger } (abortedManifest io))
    | (.ok (), ledger) =>
      match openLedger crates.ledger io.opening ledger with
      | .error e => (.error (.error s!"Fatal: Failed to open ImprovementLedger: {e}"), { disk with ledger })
      | .ok opened => runCyclesOf crates text config io signingKey disk opened

end Batch

end SparkRsi.Soak
