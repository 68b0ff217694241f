import SparkRsi.Actor.PromotionGate
import SparkRsi.Canary.Adapter
import SparkRsi.Cycle.AdmitCanary
import SparkRsi.Governance.Ratify
import SparkRsi.Measure.CycleLogs
import SparkRsi.Propose.Sandbox
import SparkRsi.Shared.Passes

set_option autoImplicit false

namespace SparkRsi.Cycle

open Shared Shared.Passes Ledger Supervisor Canary Governance SparkRsi.Measure Propose
open Actor (PathBuf Tree GateCrates JudgeDebug BlindJudge)
open Evaluator (EvaluationReceipt)

structure Candidate extends ImprovementProposal where
  id : Text

structure RsiConfig where
  repoRoot : PathBuf
  rsiRoot : String
  sandboxRoot : PathBuf
  requireLatencyImprovement : Bool
  ratifyRoots : List String
  operatorKeyHex : Option String
  signingKeyHex : Option String
  canaryExemptKinds : List ProposalKind
  canaryTarget : UInt64
  canaryWorkloadSha256 : Option String
  canaryWorkloadPath : Option String
  judgePublicKeyHex : Option String
  judgePolicyFile : Option PathBuf
  measureMinSamples : Nat
  measureWindowCycles : Nat
  measureP95MinSamples : Nat
  noErrors : ErrorBudget
  sharedSecret : String

/-- The other crates, as far as a cycle uses them. -/
structure CycleCrates (ecdsa : Ecdsa) where
  ledger : Crates
  logs : LogCrates
  samples : SampleCrates
  judge : JudgeDebug
  gate : GateCrates ecdsa
  stage : StageText
  display : Graph.Display
  rounding : Rounding
  fromToml : String → Except String CanaryAdapterManifest
  workloadFromJson : Bytes → Except String CanaryWorkloadManifest
  receiptToJson : EvaluationReceipt → Except String String
  debugKind : ProposalKind → String
  utf8Error : Bytes → String
  signingKeyFromSlice : Bytes → Except String ecdsa.SigningKey
  verifyingKey : ecdsa.SigningKey → ecdsa.VerifyingKey

structure VerificationReport extends InvariantReport where
  compilationError : Option String
  testOutputSummary : Option String

structure CandidateIo where
  refusal : Io
  eligibility : Io
  missing : Io
  evaluation : Io
  stage : StageIo
  adapterFault : Option String
  workloadFile : Except String Bytes
  builtExists : Bool
  removed : Option String
  -- Whether the build succeeded, and what it printed.
  build : Except String (Bool × String × String)
  buildUs : Nat
  builtIsFile : Bool
  invariants : VerificationReport
  trees : PathBuf → Tree
  around : Actor.Surroundings
  evaluationUs : Nat

/-- What a cycle carries from one candidate to the next. -/
structure LoopState where
  ledger : ImprovementLedger
  pinned : Option PinnedWorkload
  clock : StageClock

/-- Why a candidate is left: the next one is tried, or the cycle ends with an error. -/
inductive Halt where
  | refused
  | fatal (e : String)

abbrev Pass := EStateM Halt LoopState

structure Winner where
  candidate : Candidate
  sandboxDir : PathBuf
  receipt : EvaluationReceipt
  block : LedgerBlock
  summary : CanarySummary
  build : Option CanaryBuild

section Claims

def requiresMeasuredDiagnosis (kind : ProposalKind) (requireLatencyImprovement : Bool) : Bool :=
  requireLatencyImprovement || kind = .optimization

def checkClaim (kind : ProposalKind) (requireLatencyImprovement diagnosisMeasured : Bool) : Except String Unit :=
  let why := if requireLatencyImprovement then "require_latency_improvement is on" else "the proposal is an Optimization"
  refuseIf (requiresMeasuredDiagnosis kind requireLatencyImprovement = true ∧ diagnosisMeasured = false)
    s!"Claim refused before staging: {why}, but the top-ranked stage has no measured latency (unavailable diagnosis)"

end Claims

section Steps

variable {ecdsa : Ecdsa} (crates : CycleCrates ecdsa) (config : RsiConfig) (io : CandidateIo) (candidate : Candidate)

def note (at_ : Io) (text : String) : Pass Unit :=
  modify fun s => { s with ledger := kept s.ledger (appendBlock crates.ledger at_ s.ledger .evaluation text []) }

def refuse {α : Type} (text : String) : Pass α := do
  note crates io.refusal text
  throw .refused

def orRefuse {α : Type} : Except String α → Pass α
  | .ok value => pure value
  | .error e => refuse crates io e

def tick (stage : Stage) (elapsedUs : Nat) (outcome : StageOutcome) : Pass Unit :=
  modify fun s => { s with clock := s.clock.record { stage, elapsedUs, outcome } }

def rootFile (name : String) : PathBuf := [.text name.toList]

def adapterFile (contents : Sandbox) : AdapterFile :=
  match contents.fileAt (rootFile adapterManifestFile), io.adapterFault with
  | none, _ => .absent
  | some _, some e => .unreadable e
  | some bytes, none =>
    match fromUtf8 bytes with
    | none => .unreadable (crates.utf8Error bytes)
    | some content => .text content

def endsWith (text ending : String) : Bool := ending.toList.isSuffixOf text.toList

def isCodeChange : Bool :=
  endsWith candidate.targetFile ".rs" || endsWith candidate.targetFile ".toml" ||
    endsWith candidate.targetFile "Cargo.lock"

def heuristicBuild (contents : Sandbox) : Bool :=
  (contents (rootFile "Cargo.toml")).isSome &&
    ((contents (rootFile "spark-rsi")).isNone || endsWith candidate.targetFile ".rs")

/-- Only a kind the operator listed, and only when nothing executable is involved. -/
def isExempt (contents : Sandbox) : Bool :=
  let adapterDeclared := (contents.fileAt (rootFile adapterManifestFile)).isSome
  let executableChange := isCodeChange candidate || heuristicBuild candidate contents || adapterDeclared
  !executableChange && candidate.kind ∈ config.canaryExemptKinds

def loadPinnedWorkload (file : Except String Bytes) : Except String PinnedWorkload := do
  let pin ← okOr "canary_workload_sha256 is not set: the operator must pin the canary workload" config.canaryWorkloadSha256
  let path := config.canaryWorkloadPath.getD (joinPath (joinPath config.rsiRoot "canary") "workload.json")
  CanaryWorkloadManifest.loadPinned crates.ledger.sha crates.logs.debug crates.workloadFromJson path file pin

/-- The workload is loaded for the first candidate that needs it; a failure ends the cycle. -/
def pinnedWorkload : Pass PinnedWorkload := do
  match (← get).pinned with
  | some workload => return workload
  | none =>
    match loadPinnedWorkload crates config io.workloadFile with
    | .ok workload =>
      modify fun s => { s with pinned := some workload }
      return workload
    | .error e =>
      note crates io.eligibility s!"Canary workload refused: {e}"
      throw (.fatal s!"Fatal: canary workload refused: {e}")

def buildOutputRoot : String := "/tmp/spark-rsi-target"

/-- An ineligible candidate is still judged, and refused at the canary. -/
def ineligible (text e : String) : Pass (Except String CanaryBuild) := do
  note crates io.eligibility text
  return .error e

def eligibility (staged : Staged) : Pass (Except String CanaryBuild) :=
  match CanaryAdapterManifest.loadFromTree crates.logs.debug crates.ledger.sha crates.fromToml
      (crates.stage.display staged.sandboxDir) (adapterFile crates io staged.contents) with
  | .error e => ineligible crates io s!"Canary refused, candidate not eligible: {e}" e
  | .ok adapter => do
    let workload ← pinnedWorkload crates config io
    let named := adapter.manifest.workloadId
    let pinned := workload.manifest.workloadId
    let built := adapter.manifest.executablePath buildOutputRoot
    if named ≠ pinned then
      let e := s!"adapter names workload {crates.logs.debug named}, the pinned workload is {crates.logs.debug pinned}"
      ineligible crates io s!"Canary refused, candidate not eligible: {e}" e
    else
      -- A file left by an earlier build is never the executable under evaluation.
      match if io.builtExists then io.removed else none with
      | some e =>
        let e := s!"cannot clear stale executable {crates.logs.debug built}: {e}"
        ineligible crates io e e
      | none => return .ok { adapterDigest := adapter.digest, built, fileName := fileName built }

def checkEligible (exempt : Bool) (staged : Staged) : Pass (Option (Except String CanaryBuild)) :=
  if exempt then pure none else some <$> eligibility crates config io staged

def buildFailure (stdout stderr : String) : String :=
  crates.ledger.payloadText (.obj [("proposal_id", .str candidate.id.value), ("stage", .str "build_jail"),
    ("error", .str s!"Candidate failed to compile in Build Jail:\n{stderr}"), ("stdout", .str stdout)])

def runBuild : Pass Unit :=
  match io.build with
  | .error e => do
    tick .buildJail io.buildUs .failed
    refuse crates io s!"Build Jail exec error: {e}"
  | .ok (success, stdout, stderr) => do
    tick .buildJail io.buildUs (if success then .ok else .failed)
    if success then pure () else refuse crates io (buildFailure crates candidate stdout stderr)

def buildIf (needsBuild : Bool) : Pass Unit := if needsBuild then runBuild crates io candidate else pure ()

def checkBuilt (eligible : Option (Except String CanaryBuild)) : Pass (Option (Except String CanaryBuild)) :=
  match eligible with
  | some (.ok build) =>
    if io.builtIsFile then pure eligible
    else do
      let e := s!"the build did not produce the adapter executable {crates.logs.debug build.built}; not eligible for canary"
      note crates io.missing e
      return some (.error e)
  | other => pure other

def invariantsFailure (isBalanced : Bool) : String :=
  crates.ledger.payloadText (.obj [("proposal_id", .str candidate.id.value),
    ("invariants_passed", .bool io.invariants.passed), ("is_balanced", .bool isBalanced),
    ("notes", .arr (io.invariants.notes.map .str)), ("compile_error", optionJson .str io.invariants.compilationError),
    ("test_summary", optionJson .str io.invariants.testOutputSummary)])

def checkInvariants (isBalanced : Bool) : Pass Unit :=
  if io.invariants.passed && isBalanced then pure ()
  else do
    tick .judgeEvaluation io.evaluationUs .refused
    refuse crates io (invariantsFailure crates io candidate isBalanced)

/-- The judge of the daemon itself signs receipts of the first version. -/
def ownJudge (signingKey : ecdsa.SigningKey) : BlindJudge ecdsa :=
  { signingKey := some signingKey, executable := none, buildRelease := false, v2 := none }

theorem parentLabel_fits : (utf8 "parent").length < 2 ^ 64 := by decide

def parentLabel : Text := ⟨"parent", parentLabel_fits⟩

def judgeCandidate (signingKey : ecdsa.SigningKey) (cycleId : Text) (sandboxDir : PathBuf) : Pass EvaluationReceipt :=
  match Actor.evaluateCycle crates.judge crates.ledger.sha ecdsa (ownJudge signingKey) io.trees io.around cycleId
      candidate.id parentLabel sandboxDir config.repoRoot with
  | .ok receipt => pure receipt
  | .error e => do
    tick .judgeEvaluation io.evaluationUs .failed
    refuse crates io s!"Judge evaluation error: {e}"

def recordEvaluation (receipt : EvaluationReceipt) : Pass LedgerBlock := ofPair fun s =>
  let payload := crates.receiptToJson receipt
  let rawJson := (payload.toOption.map utf8).getD []
  match appendEvaluation crates.ledger io.evaluation s.ledger payload (some rawJson) with
  | (.ok block, ledger) => (.ok block, { s with ledger })
  | (.error e, ledger) => (.error (.fatal s!"Fatal: Failed to append evaluation to ledger: {e}"), { s with ledger })

def canarySummary (eligible : Option (Except String CanaryBuild)) : CanarySummary :=
  { CanarySummary.empty with
    applicable := eligible.isSome
    refusal := eligible.bind fun
      | .ok _ => none
      | .error e => some e }

def canaryBuild (eligible : Option (Except String CanaryBuild)) : Option CanaryBuild :=
  eligible.bind Except.toOption

def sandboxed : SandboxProposal := { candidate with id := candidate.id.value, sandboxPath := none }

def stageCandidate (repo : Tree) : Except String Staged :=
  (stageInSandbox io.stage crates.stage config.repoRoot config.sandboxRoot repo (sandboxed candidate)).mapError fun e =>
    s!"Stage failed: {e}"

def requireAdmitted (receipt : EvaluationReceipt) : Pass Unit :=
  if receipt.admitted then pure () else throw .refused

def gateCandidate (diagnosisMeasured : Bool) : Except String Unit := do
  checkClaim candidate.kind config.requireLatencyImprovement diagnosisMeasured
  candidateGates crates.judge.toDebug crates.ledger.sha ecdsa (fun bytes => (crates.gate.fromSec1Bytes bytes).toOption)
    config.ratifyRoots config.operatorKeyHex candidate.toImprovementProposal

def evaluateCandidate (signingKey : ecdsa.SigningKey) (cycleId : Text) (repo : Tree)
    (diagnosisMeasured isBalanced : Bool) : Pass Winner := do
  orRefuse crates io (gateCandidate crates config candidate diagnosisMeasured)
  let staged ← orRefuse crates io (stageCandidate crates config io candidate repo)
  let eligible ← checkEligible crates config io (isExempt config candidate staged.contents) staged
  buildIf crates io candidate (heuristicBuild candidate staged.contents || (canaryBuild eligible).isSome)
  let eligible ← checkBuilt crates io eligible
  checkInvariants crates io candidate isBalanced
  let receipt ← judgeCandidate crates config io candidate signingKey cycleId staged.sandboxDir
  let block ← recordEvaluation crates io receipt
  tick .judgeEvaluation io.evaluationUs (if receipt.admitted then .ok else .refused)
  requireAdmitted receipt
  return { candidate, sandboxDir := staged.sandboxDir, receipt, block, summary := canarySummary eligible,
           build := canaryBuild eligible }

end Steps

section Loop

variable {ecdsa : Ecdsa} (crates : CycleCrates ecdsa) (config : RsiConfig) (signingKey : ecdsa.SigningKey)
  (cycleId : Text) (repo : Tree) (diagnosisMeasured isBalanced : Bool)

def evaluateCandidates : List (Candidate × CandidateIo) → LoopState → Except String (Option Winner) × LoopState
  | [], s => (.ok none, s)
  | (candidate, io) :: rest, s =>
    match evaluateCandidate crates config io candidate signingKey cycleId repo diagnosisMeasured isBalanced s with
    | .ok winner s => (.ok (some winner), s)
    | .error .refused s => evaluateCandidates rest s
    | .error (.fatal e) s => (.error e, s)

end Loop

end SparkRsi.Cycle
