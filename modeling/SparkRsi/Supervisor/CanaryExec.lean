import SparkRsi.Canary.Admission
import SparkRsi.Supervisor.Daemon

set_option autoImplicit false

namespace SparkRsi.Supervisor

open Shared Canary

structure ExecutorConfig where
  readinessDeadline : String
  deadlineCapMs : Option UInt64
  requestLimit : Option Nat
  haltAfterRequests : Option Nat

def ExecutorConfig.default : ExecutorConfig :=
  { readinessDeadline := "10s", deadlineCapMs := none, requestLimit := none, haltAfterRequests := none }

structure ExecutionSummary where
  requestsPlanned : Nat
  recovered : Nat
  issued : Nat
  verifiedSuccess : Nat
  wrongResult : Nat
  timeout : Nat
  invalidResponse : Nat
  connectionClosed : Nat
  rejections : Nat
  ready : Bool
  firstFailure : Option String
  reverted : Bool

def ExecutionSummary.planned (requestsPlanned : Nat) : ExecutionSummary :=
  { requestsPlanned, recovered := 0, issued := 0, verifiedSuccess := 0, wrongResult := 0, timeout := 0
    invalidResponse := 0, connectionClosed := 0, rejections := 0, ready := false, firstFailure := none
    reverted := false }

def ExecutionSummary.count (summary : ExecutionSummary) : VerifiedStatus → ExecutionSummary
  | .verifiedSuccess => { summary with verifiedSuccess := summary.verifiedSuccess + 1 }
  | .wrongResult => { summary with wrongResult := summary.wrongResult + 1 }
  | .timeout => { summary with timeout := summary.timeout + 1 }
  | .invalidResponse => { summary with invalidResponse := summary.invalidResponse + 1 }
  | .connectionClosed => { summary with connectionClosed := summary.connectionClosed + 1 }

@[simp] theorem ExecutionSummary.count_reverted (summary : ExecutionSummary) (status : VerifiedStatus) :
    (summary.count status).reverted = summary.reverted := by
  cases status <;> rfl

inductive ExecutionOutcome where
  | sealed (log : SealedObservationLog) (summary : ExecutionSummary)
  | halted (summary : ExecutionSummary)

structure CanaryExecutor where
  supervisor : HostSupervisor
  rsiRoot : String
  workload : PinnedWorkload
  identity : CandidateIdentity
  executable : String
  exec : ExecutorConfig

structure HandshakeIo where
  first : Except String WorkerMessage
  challenge : Challenge
  pingFault : Option String
  timedOut : Bool
  remaining : String
  nowMs : UInt64

/-- One round of the readiness loop: a failed accept, nobody connecting, or a connection. -/
inductive Attempt where
  | unaccepted
  | idle (workerExited : Bool)
  | connected (io : HandshakeIo)

inductive Received where
  | frame (msg : WorkerMessage)
  | failed (error : String)
  | silence

structure Read where
  received : Received
  elapsed : Nat
  nowMs : UInt64

/-- What one request meets. After the last of its reads nothing arrives before the deadline. -/
structure RequestIo where
  strays : List (String × UInt64)
  sendFault : Option Nat
  reads : List Read
  silenceElapsed : Nat
  memoryMb : Except String UInt64
  observedAtMs : UInt64

structure RunIo where
  nowMs : UInt64
  executable : Except String Bytes
  log : LogIo
  spawned : Except String UInt32
  secret : String
  attempts : List Attempt
  request : Nat → RequestIo
  settleStrays : List (String × UInt64)
  sealedAtMs : UInt64

structure Session where
  writer : ObservationLogWriter
  disk : LogDisk
  summary : ExecutionSummary
  generation : GenerationInfo

structure RequestLoop extends Session where
  issued : List String
  answered : List String
  recordedThisRun : Nat

def RequestLoop.start (session : Session) : RequestLoop :=
  { session with
    summary := { session.summary with ready := true }
    generation := { session.generation with state := .canaryActive }
    issued := [], answered := [], recordedThisRun := 0 }

def observationLogPath (rsiRoot generationId : String) : String :=
  joinPath (joinPath (joinPath rsiRoot "canary") "observations") s!"{generationId}.jsonl"

section Readiness

variable (crates : LogCrates)

/-- Nothing before the deadline, in whatever step, is a timeout. -/
def authenticateWorkerConnection (io : HandshakeIo) (expectedGeneration sharedSecret : String) :
    Except ReadinessFailure ConnectionAuthState :=
  let late : ReadinessFailure := { kind := .timeout, detail := s!"no completed handshake within {io.remaining}" }
  if io.timedOut then .error late
  else do
    let first ← io.first.mapError recvFailure
    let (pid, protocolVersion) ← checkReady crates.debug expectedGeneration first
    match challengeWorker crates.sha crates.debug io.challenge expectedGeneration sharedSecret with
    | none => .error late
    | some challenged =>
      challenged
      faulty (io.pingFault.map recvFailure)
      return .authenticated expectedGeneration pid protocolVersion

end Readiness

namespace CanaryExecutor

variable (crates : LogCrates) (executor : CanaryExecutor)

def requests : List CanaryRequestSpec :=
  match executor.exec.requestLimit with
  | some n => executor.workload.manifest.requests.take n
  | none => executor.workload.manifest.requests

def requestDigest (spec : CanaryRequestSpec) : String :=
  spec.requestDigest crates.sha executor.workload.manifest.workloadId

def requestObservationId (spec : CanaryRequestSpec) : String :=
  observationId crates.sha executor.identity.generationId spec.requestId (executor.requestDigest crates spec)

def logPath : String := observationLogPath executor.rsiRoot executor.identity.generationId

def recordsOn (io : RunIo) (disk : LogDisk) : Except String (List LogRecord) := do
  let bytes ← readLog crates io.log.readFault disk "cannot read observation log" executor.logPath
  storedRecords crates executor.logPath bytes

def resumableHeader (io : RunIo) (disk : LogDisk) (wanted : LogHeader) : Except String LogHeader := do
  let records ← executor.recordsOn crates io disk
  match records with
  | .header existing :: _ =>
    refuseIf (existing.generationId ≠ wanted.generationId ∨ existing.workloadDigest ≠ wanted.workloadDigest ∨
        existing.candidateExecutableDigest ≠ wanted.candidateExecutableDigest)
      s!"observation log {crates.debug executor.logPath} is bound to another generation, workload or executable; refusing"
    return existing
  | _ => .error s!"observation log {crates.debug executor.logPath} has no header; refusing"

def openLog (io : RunIo) (disk : LogDisk) : Except String ObservationLogWriter × LogDisk :=
  let wanted := LogHeader.new executor.identity.generationId executor.workload.digest
    executor.identity.executableDigest io.nowMs
  match disk.file with
  | none => ObservationLogWriter.create crates io.log disk executor.logPath wanted
  | some _ =>
    match executor.resumableHeader crates io disk wanted with
    | .error e => (.error e, disk)
    | .ok existing => ObservationLogWriter.reopen crates io.log disk executor.logPath existing

def recordRejection (io : RunIo) (session : Session) (reason : String) (observedAtMs : UInt64) : Session :=
  match appendRejection io.log session.disk reason observedAtMs with
  | (.ok (), disk) =>
    { session with disk, summary := { session.summary with rejections := session.summary.rejections + 1 } }
  | (.error _, disk) => { session with disk }

def drainStrays (io : RunIo) (session : Session) (strays : List (String × UInt64)) : Session :=
  strays.foldl (fun session stray => recordRejection io session stray.1 stray.2) session

/-- Marks the generation when the run reverts, and seals. -/
def finish (io : RunIo) (session : Session) (revert : Bool) : Except String ExecutionOutcome × Session :=
  let session :=
    if revert then
      { session with
        generation := { session.generation with state := .reverting }
        summary := { session.summary with reverted := true } }
    else session
  match session.writer.sealLog crates io.log session.disk io.sealedAtMs with
  | (.error e, disk) => (.error e, { session with disk })
  | (.ok log, disk) => (.ok (.sealed log session.summary), { session with disk })

def withFailure (session : Session) (reason : String) : Session :=
  { session with summary := { session.summary with firstFailure := some reason } }

def becomeReady (io : RunIo) : Session → List Attempt → Bool × Session
  | session, [] =>
    (false, withFailure session
      s!"no authenticated versioned readiness within {executor.exec.readinessDeadline}")
  | session, .unaccepted :: rest => becomeReady io session rest
  | session, .idle true :: _ => (false, withFailure session "worker exited before it became ready")
  | session, .idle false :: rest => becomeReady io session rest
  | session, .connected handshake :: rest =>
    match authenticateWorkerConnection crates handshake executor.identity.generationId
        s!"canary-run-{io.secret}" with
    | .ok state =>
      if state.canExecuteFor executor.identity.generationId then (true, session)
      else becomeReady io session rest
    | .error failure => becomeReady io (recordRejection io session failure.display handshake.nowMs) rest

/-- One frame while `spec` is open: the rejection recorded for it, and the end of the wait. -/
def onFrame (spec : CanaryRequestSpec) (issued answered : List String) (msg : WorkerMessage) :
    Option String × Option (VerifiedStatus × Option String) :=
  let generationId := executor.identity.generationId
  let unexpected := (some s!"unexpected frame on the authenticated connection: {msg.debug crates.debug}", none)
  let foreign (named : String) :=
    (some s!"message naming generation {named}", some (VerifiedStatus.connectionClosed, none))
  match msg with
  | .executeResult protocolVersion named requestId output _ =>
    if requestId = spec.requestId then
      if protocolVersion ≠ canaryProtocolVersion ∨ named ≠ generationId then (none, some (.invalidResponse, none))
      else (none, some (.verifiedSuccess, some output))
    else
      let why :=
        if requestId ∈ answered then "already answered"
        else if requestId ∈ issued then "not the open request"
        else "not issued"
      (some s!"ExecuteResult for request {requestId} which was {why}",
        if named ≠ generationId then some (.connectionClosed, none) else none)
  | .heartbeat named _ _ _ => if named = generationId then (none, none) else foreign named
  | .canaryReport named _ _ _ _ => if named = generationId then (none, none) else foreign named
  | .pong => (none, none)
  | .drainComplete named => if named = generationId then unexpected else foreign named
  | .ready _ _ _ _ => unexpected
  | .authResponse _ => unexpected

def onReceived (spec : CanaryRequestSpec) (issued answered : List String) (received : Received) :
    Option String × Option (VerifiedStatus × Option String) :=
  match received with
  | .frame msg => executor.onFrame crates spec issued answered msg
  | .failed e =>
    if containsText e "closed by peer" ∨ containsText e "Failed to read" then (none, some (.connectionClosed, none))
    else (none, some (.invalidResponse, none))
  | .silence => (none, some (.timeout, none))

def note (io : RunIo) (session : Session) (nowMs : UInt64) : Option String → Session
  | some reason => recordRejection io session reason nowMs
  | none => session

structure Answer where
  status : VerifiedStatus
  output : Option String
  elapsed : Nat

def awaitResult (io : RunIo) (spec : CanaryRequestSpec) (issued answered : List String)
    (silenceElapsed : Nat) :
    Session → List Read → Answer × Session
  | session, [] => ({ status := .timeout, output := none, elapsed := silenceElapsed }, session)
  | session, read :: rest =>
    let (reason, ending) := executor.onReceived crates spec issued answered read.received
    let session := note io session read.nowMs reason
    match ending with
    | some (status, output) => ({ status, output, elapsed := read.elapsed }, session)
    | none => awaitResult io spec issued answered silenceElapsed session rest

def deadlineMs (spec : CanaryRequestSpec) : UInt64 :=
  match executor.exec.deadlineCapMs with
  | some cap => min spec.deadlineMs cap
  | none => spec.deadlineMs

/-- The status to record and the digest of the output. A late result has no digest. -/
def judge (spec : CanaryRequestSpec) (answer : Answer) : VerifiedStatus × Option String :=
  let digest := answer.output.map fun output => resultDigest crates.sha (utf8 output)
  if answer.status = .verifiedSuccess ∨ answer.status = .wrongResult then
    if answer.elapsed > (executor.deadlineMs spec).toNat * 1000000 then (.timeout, none)
    else if spec.matchesOutput (answer.output.getD "") then (.verifiedSuccess, digest)
    else (.wrongResult, digest)
  else (answer.status, digest)

def memoryRefusal (io : RequestIo) (pid : Option UInt32) : Option String :=
  let budget : Except String Bool :=
    match pid with
    | some pid => executor.supervisor.isMemoryWithinBudget (fun _ => io.memoryMb) pid
    | none => .error "no worker pid to read"
  match budget with
  | .ok true => none
  | .ok false => some s!"resource budget exceeded: worker above {executor.supervisor.memoryLimitMb} MB"
  | .error e => some s!"resource budget unreadable, reverting: {e}"

def observe (spec : CanaryRequestSpec) (io : RequestIo) (elapsed : Nat) (status : VerifiedStatus)
    (digest : Option String) : CanaryObservationV2 :=
  .new crates.sha
    { generationId := executor.identity.generationId
      requestId := spec.requestId
      requestDigest := executor.requestDigest crates spec
      workloadDigest := executor.workload.digest
      candidateExecutableDigest := executor.identity.executableDigest
      resultDigest := digest
      elapsedUs := UInt64.ofNat (elapsed / 1000)
      observedAtMs := io.observedAtMs
      status
      provenance := .measured }

def conclude (spec : CanaryRequestSpec) (io : RequestIo) (pid : Option UInt32) (answer : Answer) :
    Except String CanaryObservationV2 :=
  let (status, digest) := executor.judge crates spec answer
  let refusal := if status = .verifiedSuccess then executor.memoryRefusal io pid else none
  match refusal with
  | some reason => .error reason
  | none => .ok (executor.observe crates spec io answer.elapsed status digest)

inductive Step where
  | next (loop : RequestLoop)
  | stopped (loop : RequestLoop)
  | halted (loop : RequestLoop)
  | failed (error : String) (loop : RequestLoop)

def issue (io : RunIo) (request : RequestIo) (spec : CanaryRequestSpec) (loop : RequestLoop) : RequestLoop :=
  let drained := drainStrays io loop.toSession request.strays
  { loop with
    toSession := { drained with summary := { drained.summary with issued := drained.summary.issued + 1 } }
    issued := spec.requestId :: loop.issued }

def answer (io : RunIo) (request : RequestIo) (spec : CanaryRequestSpec) (loop : RequestLoop) :
    Answer × Session :=
  match request.sendFault with
  | some elapsed => ({ status := .connectionClosed, output := none, elapsed }, loop.toSession)
  | none =>
    executor.awaitResult crates io spec loop.issued loop.answered request.silenceElapsed loop.toSession
      request.reads

def settle (io : RunIo) (request : RequestIo) (spec : CanaryRequestSpec) (answer : Answer)
    (loop : RequestLoop) :
    Step :=
  match executor.conclude crates spec request loop.generation.pid answer with
  | .error reason =>
    let session := recordRejection io loop.toSession reason request.observedAtMs
    .stopped { loop with toSession := withFailure session s!"{spec.requestId}: {reason}" }
  | .ok observation =>
    let status := observation.status
    let answered := spec.requestId :: loop.answered
    match loop.writer.appendObservation crates io.log loop.disk observation with
    | (.error e, writer, disk) => .failed e { loop with writer, disk, answered }
    | (.ok _, writer, disk) =>
      let recorded := { loop with
        writer, disk, answered, recordedThisRun := loop.recordedThisRun + 1
        summary := loop.summary.count status }
      if status ≠ .verifiedSuccess then
        .stopped { recorded with toSession := withFailure recorded.toSession s!"{spec.requestId}: {status.debug}" }
      else if executor.exec.haltAfterRequests = some recorded.recordedThisRun then .halted recorded
      else .next recorded

def requestStep (io : RunIo) (request : RequestIo) (spec : CanaryRequestSpec) (loop : RequestLoop) : Step :=
  let issued := issue io request spec loop
  let (answer, session) := executor.answer crates io request spec issued
  executor.settle crates io request spec answer { issued with toSession := session }

/-- Every request of the run in workload order. `stopped` means that it reverts. -/
def requestLoop (io : RunIo) : Nat → List CanaryRequestSpec → RequestLoop → Step
  | _, [], loop => .next loop
  | index, spec :: rest, loop =>
    match executor.requestStep crates io (io.request index) spec loop with
    | .next loop => requestLoop io (index + 1) rest loop
    | other => other

structure RunResult where
  outcome : Except String ExecutionOutcome
  generation : GenerationInfo
  disk : LogDisk

def RunResult.of (finished : Except String ExecutionOutcome × Session) : RunResult :=
  { outcome := finished.1, generation := finished.2.generation, disk := finished.2.disk }

def checkRunnable (io : RunIo) (generation : GenerationInfo) : Except String Unit := do
  executor.identity.validate
  refuseIf (generation.generationId ≠ executor.identity.generationId)
    s!"generation {generation.generationId} is not the candidate identity's generation {executor.identity.generationId}"
  executor.workload.manifest.validate crates.debug
  refuseIf (executor.workload.manifest.digest crates.sha ≠ executor.workload.digest)
    "pinned workload does not match its own digest; refusing"
  executor.identity.verifyExecutable crates.sha crates.debug executor.executable io.executable

def priorFailure (records : List LogRecord) : Option String :=
  ((observationsIn records).find? fun obs => obs.status ≠ .verifiedSuccess).map fun obs =>
    s!"{obs.requestId}: {obs.status.debug} recorded before a restart"

def todo (writer : ObservationLogWriter) : List CanaryRequestSpec :=
  executor.requests.filter fun spec => !writer.contains (executor.requestObservationId crates spec)

def issueRequests (io : RunIo) (todo : List CanaryRequestSpec) (session : Session) :
    Except String ExecutionOutcome × Session :=
  match executor.requestLoop crates io 0 todo (RequestLoop.start session) with
  | .failed e loop => (.error e, loop.toSession)
  | .halted loop => (.ok (.halted loop.summary), loop.toSession)
  | .next loop => finish crates io (drainStrays io loop.toSession io.settleStrays) false
  | .stopped loop => finish crates io (drainStrays io loop.toSession io.settleStrays) true

def recovered (records : List LogRecord) (session : Session) : Session :=
  { session with summary := { session.summary with recovered := (observationsIn records).length } }

def nothingToDo (session : Session) : Session :=
  { session with summary := { session.summary with ready := true } }

def launched (session : Session) (pid : UInt32) : Session :=
  let socketPath := joinPath executor.rsiRoot s!"workers/{executor.identity.generationId}.sock"
  { session with
    generation := { session.generation with pid := some pid, socketPath := some socketPath, state := .starting } }

def resume (io : RunIo) (records : List LogRecord) (session : Session) :
    Except String ExecutionOutcome × Session :=
  let session := recovered records session
  match priorFailure records with
  | some reason => finish crates io (withFailure session reason) true
  | none =>
    match executor.todo crates session.writer with
    | [] => finish crates io (nothingToDo session) false
    | todo =>
      match io.spawned with
      | .error e => (.error e, session)
      | .ok pid =>
        match executor.becomeReady crates io (executor.launched session pid) io.attempts with
        | (false, session) => finish crates io session true
        | (true, session) => executor.issueRequests crates io todo session

def run (io : RunIo) (generation : GenerationInfo) (file : Option Bytes) : RunResult :=
  let disk := LogDisk.found file
  match executor.checkRunnable crates io generation with
  | .error e => { outcome := .error e, generation, disk }
  | .ok () =>
    match executor.openLog crates io disk with
    | (.error e, disk) => { outcome := .error e, generation, disk }
    | (.ok writer, disk) =>
      let summary := ExecutionSummary.planned executor.requests.length
      match executor.recordsOn crates io disk with
      | .error e => { outcome := .error e, generation, disk }
      | .ok records => .of (executor.resume crates io records { writer, disk, summary, generation })

end CanaryExecutor

end SparkRsi.Supervisor
