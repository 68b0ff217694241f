import SparkRsi.Canary.Writer
import SparkRsi.Supervisor.Ipc
import SparkRsi.Supervisor.Links

set_option autoImplicit false

namespace SparkRsi.Supervisor

open Shared Canary

structure SupervisorConfig where
  rsiRoot : String
  memoryLimitMb : UInt64
  maxLatencyUs : UInt64
  maxErrorRate : ErrorBudget
  sharedSecret : String

def HostSupervisor.new (rsiRoot : String) (memoryLimitMb : UInt64) : HostSupervisor :=
  { activeSymlink := joinPath rsiRoot "active"
    generationsRoot := joinPath rsiRoot "generations"
    memoryLimitMb }

structure SupervisorDaemon where
  activeGeneration : Option GenerationInfo
  canaryGeneration : Option GenerationInfo
  observationLog : Option ObservationLogWriter
  disk : LogDisk
  links : Links

structure FrameIo where
  challenge : Challenge
  checkUnifiedMemoryMb : UInt32 → Except String UInt64
  swap : LinkIo
  socket : LinkIo
  log : LogIo
  nowMs : UInt64

def replaceState (canary : Option GenerationInfo) (state : GenerationState) : Option GenerationInfo :=
  canary.map fun info => { info with state }

section Handler

variable (crates : LogCrates) (config : SupervisorConfig) (activeSocketLink : String)

def supervisor : HostSupervisor := .new config.rsiRoot config.memoryLimitMb

/-- Records a refusal in the attached log; a failing append changes nothing else. -/
def reject (io : FrameIo) (daemon : SupervisorDaemon) (reason : String) : SupervisorDaemon :=
  match daemon.observationLog with
  | none => daemon
  | some _ => { daemon with disk := (appendRejection io.log daemon.disk reason io.nowMs).2 }

/-- Rolls the links back to the active generation; only then is the canary `Reverted`. -/
def triggerInstantRollback (io : FrameIo) (daemon : SupervisorDaemon) :
    Except String Unit × SupervisorDaemon :=
  let rolledBack : Except String Unit × Links :=
    match daemon.activeGeneration with
    | none => (.ok (), daemon.links)
    | some parent =>
      (supervisor config).rollbackToParent crates.debug io.swap io.socket daemon.links parent.generationId
        (some activeSocketLink) (some (joinPath config.rsiRoot s!"workers/{parent.generationId}.sock"))
  match rolledBack with
  | (.error e, links) => (.error e, { daemon with links })
  | (.ok (), links) =>
    (.ok (), { daemon with links, canaryGeneration := replaceState daemon.canaryGeneration .reverted })

/-- The reply to one frame (an error closes the connection), the connection's state and the daemon's after
it. -/
structure Handled where
  reply : Except String (Option SupervisorMessage)
  auth : ConnectionAuthState
  daemon : SupervisorDaemon

def rejected (io : FrameIo) (daemon : SupervisorDaemon) (auth : ConnectionAuthState) (reason : String) :
    Handled :=
  { reply := .error reason, auth, daemon := reject io daemon reason }

def handleReady (io : FrameIo) (daemon : SupervisorDaemon) (auth : ConnectionAuthState)
    (msg : WorkerMessage) :
    Handled :=
  if auth ≠ .unauthenticated then rejected io daemon auth "repeated Ready on an authenticated connection"
  else
    match daemon.canaryGeneration with
    | none => rejected io daemon auth "Ready while no canary generation is staged"
    | some canary =>
      match checkReady crates.debug canary.generationId msg with
      | .error failure => rejected io daemon auth failure.display
      | .ok (pid, protocolVersion) =>
        match challengeWorker crates.sha crates.debug io.challenge canary.generationId config.sharedSecret with
        | none => rejected io daemon auth "HMAC challenge not answered before the readiness deadline"
        | some (.error failure) => rejected io daemon auth failure.display
        | some (.ok ()) =>
          { reply := .ok (some .ping)
            auth := .authenticated canary.generationId pid protocolVersion
            daemon := { daemon with canaryGeneration := some { canary with state := .ready, pid := some pid } } }

def revertWith (io : FrameIo) (daemon : SupervisorDaemon) (auth : ConnectionAuthState) (reason : String) :
    Handled :=
  match triggerInstantRollback crates config activeSocketLink io daemon with
  | (.error e, daemon) => { reply := .error e, auth, daemon }
  | (.ok (), daemon) => { reply := .ok (some (.revertOrder reason)), auth, daemon }

def handleHeartbeat (io : FrameIo) (daemon : SupervisorDaemon) (auth : ConnectionAuthState)
    (generationId : String) (memoryMb : UInt64) : Handled :=
  match daemon.canaryGeneration with
  | none => { reply := .ok (some .ping), auth, daemon }
  | some canary =>
    if canary.generationId = generationId ∧ memoryMb > config.memoryLimitMb then
      revertWith crates config activeSocketLink io
        { daemon with canaryGeneration := some { canary with state := .reverting } } auth
        s!"Memory budget exceeded: {memoryMb} MB > {config.memoryLimitMb} MB limit"
    else { reply := .ok (some .ping), auth, daemon }

def handleCanaryReport (io : FrameIo) (daemon : SupervisorDaemon) (auth : ConnectionAuthState)
    (generationId : String) (success : Bool) (latencyUs : UInt64) (error : Option String) : Handled :=
  match daemon.canaryGeneration with
  | none => { reply := .ok none, auth, daemon }
  | some canary =>
    if canary.generationId = generationId then
      match (supervisor config).recordCanaryTransaction io.checkUnifiedMemoryMb canary success latencyUs
          config.maxLatencyUs config.maxErrorRate with
      | (.ok _, recorded) =>
        { reply := .ok none, auth, daemon := { daemon with canaryGeneration := some recorded } }
      | (.error budgetErr, recorded) =>
        revertWith crates config activeSocketLink io { daemon with canaryGeneration := some recorded } auth
          (match error with
          | some orig => s!"{orig}: {budgetErr}"
          | none => budgetErr)
    else { reply := .ok none, auth, daemon }

def handleAuthenticated (io : FrameIo) (daemon : SupervisorDaemon) (auth : ConnectionAuthState)
    (generationId : String) (msg : WorkerMessage) : Handled :=
  match msg with
  | .heartbeat _ _ _ memoryMb =>
    handleHeartbeat crates config activeSocketLink io daemon auth generationId memoryMb
  | .canaryReport _ _ success latencyUs error =>
    handleCanaryReport crates config activeSocketLink io daemon auth generationId success latencyUs error
  | .authResponse _ => rejected io daemon auth "AuthResponse outside a handshake"
  | .executeResult _ _ requestId _ _ =>
    { reply := .ok none, auth, daemon := reject io daemon s!"unsolicited ExecuteResult for request {requestId}" }
  | .drainComplete _ => { reply := .ok none, auth, daemon }
  | .pong => { reply := .ok none, auth, daemon }
  -- Ready is handled before.
  | .ready _ _ _ _ => { reply := .ok none, auth, daemon }

def processWorkerMessage (io : FrameIo) (daemon : SupervisorDaemon) (auth : ConnectionAuthState)
    (msg : WorkerMessage) : Handled :=
  match msg with
  | .ready _ _ _ _ => handleReady crates config io daemon auth msg
  | other =>
    match auth with
    | .unauthenticated =>
      rejected io daemon auth s!"message on an unauthenticated connection: {other.debug crates.debug}"
    | .authenticated generationId _ _ =>
      match other.claimed with
      | none => handleAuthenticated crates config activeSocketLink io daemon auth generationId other
      | some named =>
        if named ≠ generationId then
          rejected io daemon auth
            s!"connection authenticated for generation {generationId} sent a message naming generation {named}"
        else handleAuthenticated crates config activeSocketLink io daemon auth generationId other

end Handler

end SparkRsi.Supervisor
