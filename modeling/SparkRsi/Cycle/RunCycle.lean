import SparkRsi.Cycle.Candidates

set_option autoImplicit false

namespace SparkRsi.Cycle

open Shared Shared.Passes Ledger Supervisor Canary Governance SparkRsi.Measure Propose SparkRsi.Graph
open Actor (PathBuf Tree)
open Evaluator (EvaluationReceipt)

structure Installation where
  ledger : ImprovementLedger
  links : Links
  files : SampleFiles

structure WinnerIo where
  stageFault : Option String
  stagedTimestamp : String
  admission : AdmitIo
  envelope : Except String Unit
  -- The target file of the generation that is about to be promoted.
  onDisk : Except String Bytes
  tail : TailIo RatificationRecord
  canaryUs : Nat
  commitUs : Nat

structure CycleIo where
  cycleId : Text
  ctx : MeasureContext
  opening : Io
  holdoutsDir : String
  holdoutsExist : Bool
  hexError : String
  -- Whether the observed tension between drive and humanity is balanced.
  observed : Except String Bool
  observeUs : Nat
  samplesFault : Option String
  repo : Tree
  candidates : List (Candidate × CandidateIo)
  proposeUs : Nat
  proposeOutcome : StageOutcome
  winner : WinnerIo
  recordedAt : String
  samplesStop : Option (Stop × String)

structure CycleState extends LoopState where
  links : Links

structure RsiCycleResult where
  cycleId : Text
  proposal : Option Candidate
  receipt : Option EvaluationReceipt
  generation : Option GenerationInfo
  ledgerBlock : Option LedgerBlock
  ratification : Option RatificationRecord
  success : Bool
  canary : Option CanarySummary

section Supervision

variable {ecdsa : Ecdsa} [DecidableEq ecdsa.VerifyingKey] (crates : CycleCrates ecdsa) (config : RsiConfig)
  (io : WinnerIo) (signingKey : ecdsa.SigningKey)

def supervisorConfig : SupervisorConfig where
  rsiRoot := config.rsiRoot
  memoryLimitMb := 49152
  maxLatencyUs := 1000000
  maxErrorRate := config.noErrors
  sharedSecret := config.sharedSecret

/-- Every cycle supervises with a daemon of its own, which has no active generation. -/
def newDaemon (links : Links) : SupervisorDaemon where
  activeGeneration := none
  canaryGeneration := none
  observationLog := none
  disk := .found none
  links

def stagedGeneration (generationId manifestDigest stagedTimestamp : String) : GenerationInfo where
  generationId
  installedPath := (supervisor (supervisorConfig config)).generationDir generationId
  manifestDigest
  state := .staged
  pid := none
  socketPath := none
  canaryTransactions := 0
  canaryErrors := 0
  maxLatencyUs := 0
  totalLatencyUs := 0
  stagedTimestamp

def envelopeReferenceNote : String :=
  "the safety envelope evaluated through aien_probe::DeterministicReferenceBackend; this is a reference evaluation and does not establish production safety"

/-- A refusal in front of the promotion gate: the links go back, and the decision is recorded. -/
def refuseCanary (world : World) (winner : Winner) (summary : CanarySummary) (reason : String) :
    Except String (CycleResult RatificationRecord) × World :=
  let id := winner.candidate.id.value
  match rollBack crates.ledger crates.logs (supervisorConfig config) io.tail world id reason with
  | (.error e, world) => (.error e, world)
  | (.ok (), world) =>
    let recorded := { world with ledger := recordDecision crates.ledger io.tail.decision world.ledger id summary }
    (.ok { generation := none, ledgerBlock := some winner.block, ratification := none, success := false
           canary := summary }, closeCycle crates.ledger ecdsa io.tail signingKey recorded)

def promotionGate (winner : Winner) : Except String Unit :=
  Actor.checkV2Promotion crates.judge crates.ledger.sha ecdsa crates.gate winner.receipt config.judgePublicKeyHex
    (crates.verifyingKey signingKey) config.judgePolicyFile
    { parentId := parentLabel.value
      path := winner.candidate.targetFile
      contentSha256 := crates.ledger.sha.hex (utf8 winner.candidate.proposedPatch)
      diskSha256 := match io.onDisk with
        | .ok bytes => crates.ledger.sha.hex bytes
        | .error e => s!"unreadable: {e}" }

def enforceEnvelope (world : World) (winner : Winner) (genInfo : GenerationInfo) (summary : CanarySummary) :
    Except String (CycleResult RatificationRecord) × World :=
  let summary := { summary with envelopeNote := some envelopeReferenceNote }
  match io.envelope with
  | .error e =>
    refuseCanary crates config io signingKey world winner { summary with envelope := some { passed := false, detail := e } }
      s!"Safety envelope rejected promotion: {e}"
  | .ok () =>
    let summary := { summary with
      envelope := some { passed := true, detail := "signed canary evaluation receipt issued" } }
    runCycleTail crates.ledger crates.logs ecdsa (supervisorConfig config)
      { io.tail with gate := promotionGate crates config io signingKey winner } signingKey world
      winner.candidate.id.value genInfo winner.receipt.receiptDigest (some winner.block) summary

def superviseWinner (winner : Winner) (pinned : Option PinnedWorkload) (world : World) :
    Except String (CycleResult RatificationRecord) × World :=
  let id := winner.candidate.id.value
  match io.stageFault with
  | some e => (.error e, world)
  | none =>
    let genInfo := stagedGeneration config id winner.receipt.receiptDigest io.stagedTimestamp
    let daemon := { world.daemon with canaryGeneration := some genInfo }
    let admitted := admitCanary crates.ledger crates.logs (supervisorConfig config) config.canaryTarget io.admission
      world.ledger id (crates.ledger.sha.digest (utf8 winner.candidate.proposedPatch)) winner.build pinned genInfo
      winner.summary
    let world := { daemon, ledger := admitted.ledger }
    match admitted.subject with
    | .error reason => refuseCanary crates config io signingKey world winner admitted.summary reason
    | .ok _ => enforceEnvelope crates config io signingKey world winner admitted.genInfo admitted.summary

end Supervision

section Cycle

variable {ecdsa : Ecdsa} [DecidableEq ecdsa.VerifyingKey] (crates : CycleCrates ecdsa) (config : RsiConfig)
  (io : CycleIo)

abbrev CyclePass := EStateM String CycleState

def openCycleLedger : CyclePass Unit := ofPair fun s =>
  match openLedger crates.ledger io.opening s.ledger with
  | .ok ledger => (.ok (), { s with ledger })
  | .error e =>
    (.error s!"Fatal: Improvement Ledger must be active and accessible at {crates.logs.debug config.rsiRoot}: {e}", s)

def cycleKey : Except String ecdsa.SigningKey := do
  refuseIf (io.holdoutsExist = false)
    s!"Fatal: Missing holdouts directory at {crates.logs.debug io.holdoutsDir}. Production evaluation fails closed."
  let signingKeyHex ← okOr
    "Fatal: Missing cryptographic signing key (signing_key_hex). Production evaluation fails closed." config.signingKeyHex
  let keyBytes ← okOr s!"Fatal: Invalid signing_key_hex: {io.hexError}" (ecdsa.hexDecode signingKeyHex)
  (crates.signingKeyFromSlice keyBytes).mapError fun e => s!"Fatal: Invalid P-256 signing key: {e}"

def recordStage (call : Recording) : CyclePass Unit := modify fun s => { s with clock := s.clock.record call }

/-- The guard of the stage records a failure when the observation does not complete. -/
def observe : CyclePass Bool := do
  let completed := io.observed.toOption.map fun _ => StageOutcome.ok
  recordStage (StageGuard.dropped .observe io.observeUs completed)
  ofExcept io.observed

def cycleMeasurements (files : SampleFiles) : Stage → Option StageMeasurement :=
  let log := SampleLog.new config.rsiRoot
  let read := match io.samplesFault with
    | some e => .error (.other e)
    | none => found files.completeFile
  measureStages crates.display crates.rounding (readRecords crates.samples log.completePath read) io.cycleId.value io.ctx
    config.measureMinSamples config.measureWindowCycles config.measureP95MinSamples

def diagnosisMeasured (measurements : Stage → Option StageMeasurement) (graph : CapabilityGraph) : Bool :=
  ((graph.rankBottlenecks crates.display).toOption.bind List.head?).any fun bottleneck =>
    Stage.all.any fun stage => stage.id = bottleneck.nodeId &&
      match measurements stage with
      | some (.measured _ _ _ _) => true
      | _ => false

def tryCandidates (signingKey : ecdsa.SigningKey) (measured isBalanced : Bool) : CyclePass (Option Winner) :=
  ofPair fun s =>
    let tried := evaluateCandidates crates config signingKey io.cycleId io.repo measured isBalanced io.candidates
      s.toLoopState
    (tried.1, { s with toLoopState := tried.2 })

def supervise (signingKey : ecdsa.SigningKey) (winner : Winner) : CyclePass (CycleResult RatificationRecord) :=
  ofPair fun s =>
    let supervised := superviseWinner crates config io.winner signingKey winner s.pinned
      { daemon := newDaemon s.links, ledger := s.ledger }
    (supervised.1, { s with ledger := supervised.2.ledger, links := supervised.2.daemon.links })

/-- The time of the canary is the time of the supervised part without the commit inside it. -/
def recordSupervised (result : CycleResult RatificationRecord) : CyclePass Unit := modify fun s =>
  let committed := match result.ratification with
    | some rat => s.clock.record
      { stage := .cortexCommit, elapsedUs := io.winner.commitUs, outcome := if rat.cortexRecorded then .ok else .failed }
    | none => s.clock
  let canary : Recording :=
    { stage := .supervisorCanary
      elapsedUs := io.winner.canaryUs - committed.duration .cortexCommit
      outcome := if result.success then .ok else .refused }
  { s with clock := committed.record canary }

def closeUnwon (signingKey : ecdsa.SigningKey) : CyclePass Unit := modify fun s =>
  { s with ledger := kept s.ledger (checkpoint crates.ledger ecdsa io.winner.tail.checkpoint s.ledger (some signingKey)) }

def finishCycle (signingKey : ecdsa.SigningKey) (won : Option Winner) : CyclePass RsiCycleResult :=
  match won with
  | none => do
    closeUnwon crates io signingKey
    return { cycleId := io.cycleId, proposal := none, receipt := none, generation := none, ledgerBlock := none
             ratification := none, success := true, canary := none }
  | some winner => do
    let result ← supervise crates config io signingKey winner
    recordSupervised io result
    return { cycleId := io.cycleId, proposal := some winner.candidate, receipt := some winner.receipt
             generation := result.generation, ledgerBlock := result.ledgerBlock, ratification := result.ratification
             success := result.success, canary := some result.canary }

def runCycleInner (files : SampleFiles) : CyclePass RsiCycleResult := do
  openCycleLedger crates config io
  let signingKey ← ofExcept (cycleKey crates config io)
  let isBalanced ← observe io
  let measurements := cycleMeasurements crates config io files
  let graph ← ofExcept (buildCapabilityGraph crates.display measurements)
  recordStage { stage := .propose, elapsedUs := io.proposeUs, outcome := io.proposeOutcome }
  let won ← tryCandidates crates config io signingKey (diagnosisMeasured crates measurements graph) isBalanced
  finishCycle crates config io signingKey won

def cycleStart (before : Installation) : CycleState :=
  { ledger := before.ledger, pinned := none, clock := .new, links := before.links }

/-- A cycle and the record of its stages, which goes to the other log when the cycle ends with an error. -/
def runCycle (before : Installation) : Except String RsiCycleResult × Installation :=
  let (result, s) := toPair (runCycleInner crates config io before.files (cycleStart before))
  let files := recordStageSamples crates.samples (.new config.rsiRoot) before.files
    { cycleId := io.cycleId.value, ctx := io.ctx, clock := s.clock, completed := result.isOk
      recordedAt := io.recordedAt, stop := io.samplesStop }
  (result, { ledger := s.ledger, links := s.links, files })

def daemonStep (before : Installation) (cycle : RsiConfig × CycleIo) : Installation :=
  (runCycle crates cycle.1 cycle.2 before).2

end Cycle

end SparkRsi.Cycle
