import SparkRsi.Supervisor.Daemon
import SparkRsi.Shared.Run

set_option autoImplicit false

namespace SparkRsi.Supervisor

open Shared Canary

structure Unchanged (before after : SupervisorDaemon) : Prop where
  active : after.activeGeneration = before.activeGeneration
  canary : after.canaryGeneration = before.canaryGeneration
  links : after.links = before.links

theorem reject_unchanged (io : FrameIo) (daemon : SupervisorDaemon) (reason : String) :
    Unchanged daemon (reject io daemon reason) := by
  unfold reject
  cases daemon.observationLog <;> exact ⟨rfl, rfl, rfl⟩

structure MovedToParent (config : SupervisorConfig) (active : Option GenerationInfo) (before after : Links) :
    Prop where
  link : ∃ moved, after.active = moved ++ before.active ∧ ∀ target ∈ moved, ∃ parent,
    active = some parent ∧ target = (supervisor config).generationDir parent.generationId
  socket : ∃ moved, after.activeSocket = moved ++ before.activeSocket ∧ ∀ target ∈ moved, ∃ parent,
    active = some parent ∧ target = joinPath config.rsiRoot s!"workers/{parent.generationId}.sock"

theorem MovedToParent.refl (config : SupervisorConfig) (active : Option GenerationInfo) (links : Links) :
    MovedToParent config active links links :=
  ⟨⟨[], by simp⟩, ⟨[], by simp⟩⟩

theorem MovedToParent.trans {config : SupervisorConfig} {active : Option GenerationInfo}
    {first second third : Links} (early : MovedToParent config active first second)
    (late : MovedToParent config active second third) : MovedToParent config active first third := by
  obtain ⟨moved, link, parents⟩ := early.link
  obtain ⟨moved', link', parents'⟩ := late.link
  obtain ⟨switched, socket, owners⟩ := early.socket
  obtain ⟨switched', socket', owners'⟩ := late.socket
  refine ⟨⟨moved' ++ moved, by rw [link', link, List.append_assoc], ?_⟩,
    ⟨switched' ++ switched, by rw [socket', socket, List.append_assoc], ?_⟩⟩
  · exact fun target member => (List.mem_append.mp member).elim (parents' target) (parents target)
  · exact fun target member => (List.mem_append.mp member).elim (owners' target) (owners target)

/-- What a rollback does: the canary keeps its state when the links cannot be moved. -/
structure RolledBack (config : SupervisorConfig) (before after : SupervisorDaemon) : Prop where
  active : after.activeGeneration = before.activeGeneration
  canary : after.canaryGeneration = before.canaryGeneration ∨
    after.canaryGeneration = replaceState before.canaryGeneration .reverted
  links : MovedToParent config before.activeGeneration before.links after.links

section

variable {crates : LogCrates} {config : SupervisorConfig} {activeSocketLink : String} {io : FrameIo}
  {daemon : SupervisorDaemon}

theorem triggerInstantRollback_rolledBack :
    RolledBack config daemon (triggerInstantRollback crates config activeSocketLink io daemon).2 := by
  obtain ⟨active, canary, log, disk, links⟩ := daemon
  unfold triggerInstantRollback
  cases active with
  | none => exact ⟨rfl, .inr rfl, .refl config _ _⟩
  | some parent =>
    obtain ⟨moved, switched, parents, owners, followed⟩ :=
      HostSupervisor.rollbackToParent_links (supervisor config) crates.debug io.swap links parent.generationId
        io.socket activeSocketLink (joinPath config.rsiRoot s!"workers/{parent.generationId}.sock")
    have toParent : MovedToParent config (some parent) links
        { active := moved ++ links.active, activeSocket := switched ++ links.activeSocket } :=
      ⟨⟨moved, rfl, fun target member => ⟨parent, rfl, parents target member⟩⟩,
        ⟨switched, rfl, fun target member => ⟨parent, rfl, owners target member⟩⟩⟩
    dsimp only
    generalize HostSupervisor.rollbackToParent (supervisor config) crates.debug io.swap io.socket links
      parent.generationId (some activeSocketLink)
      (some (joinPath config.rsiRoot s!"workers/{parent.generationId}.sock")) = result at followed ⊢
    obtain ⟨outcome, after⟩ := result
    cases followed
    cases outcome with
    | error e => exact ⟨rfl, .inl rfl, toParent⟩
    | ok u => exact ⟨rfl, .inr rfl, toParent⟩

theorem revertWith_effect {auth : ConnectionAuthState} {reason : String} :
    (revertWith crates config activeSocketLink io daemon auth reason).auth = auth ∧
      RolledBack config daemon (revertWith crates config activeSocketLink io daemon auth reason).daemon := by
  have effect : RolledBack config daemon (triggerInstantRollback crates config activeSocketLink io daemon).2 :=
    triggerInstantRollback_rolledBack
  unfold revertWith
  generalize triggerInstantRollback crates config activeSocketLink io daemon = result at effect ⊢
  obtain ⟨outcome, after⟩ := result
  cases outcome <;> exact ⟨rfl, effect⟩

end

section Effects

variable (crates : LogCrates) (config : SupervisorConfig) (io : FrameIo) (daemon : SupervisorDaemon)

structure Handshakes (canary : GenerationInfo) (msg : WorkerMessage) (pid : UInt32) : Prop where
  staged : daemon.canaryGeneration = some canary
  ready : ∃ authToken, msg = .ready canary.generationId pid authToken canaryProtocolVersion
  challenged : io.challenge.sendFault = none ∧ ∃ response,
    io.challenge.answer = some (.ok (.authResponse response)) ∧
    response = SessionAuth.computeHmac crates.sha config.sharedSecret
      s!"{canary.generationId}:challenge-{io.challenge.nonce}"

structure Reports (canary : GenerationInfo) (auth : ConnectionAuthState) (msg : WorkerMessage) (success : Bool)
    (latencyUs : UInt64) : Prop where
  staged : daemon.canaryGeneration = some canary
  sender : ∃ pid version, auth = .authenticated canary.generationId pid version
  report : ∃ transactionId error, msg = .canaryReport canary.generationId transactionId success latencyUs error

def brokenAfter (canary : GenerationInfo) (success : Bool) (latencyUs : UInt64) : Option String :=
  (supervisor config).brokenBudget io.checkUnifiedMemoryMb
    (HostSupervisor.countTransaction canary success latencyUs) latencyUs config.maxLatencyUs config.maxErrorRate

def counted (canary : GenerationInfo) (success : Bool) (latencyUs : UInt64) : GenerationInfo :=
  { HostSupervisor.countTransaction canary success latencyUs with state := .canaryActive }

/-- Everything one frame can do. -/
inductive Effect (auth : ConnectionAuthState) (msg : WorkerMessage) (after : Handled) : Prop
  | unchanged (same : Unchanged daemon after.daemon) (auth_eq : after.auth = auth)
  | handshake (canary : GenerationInfo) (pid : UInt32) (open_ : auth = .unauthenticated)
      (done : Handshakes crates config io daemon canary msg pid) (reply : after.reply = .ok (some .ping))
      (auth_eq : after.auth = .authenticated canary.generationId pid canaryProtocolVersion)
      (ready : after.daemon = { daemon with canaryGeneration := some { canary with state := .ready, pid := some pid } })
  | counted (canary : GenerationInfo) (success : Bool) (latencyUs : UInt64)
      (reports : Reports daemon canary auth msg success latencyUs)
      (within : brokenAfter config io canary success latencyUs = none) (auth_eq : after.auth = auth)
      (active : after.daemon = { daemon with canaryGeneration := some (counted canary success latencyUs) })
  | reverted (canary reverting : GenerationInfo) (staged : daemon.canaryGeneration = some canary)
      (sender : ∃ pid version, auth = .authenticated canary.generationId pid version)
      (names : msg.claimed = some canary.generationId)
      (marked : reverting.generationId = canary.generationId ∧ reverting.state = .reverting)
      (back : RolledBack config { daemon with canaryGeneration := some reverting } after.daemon)
      (auth_eq : after.auth = auth)

variable {crates config io daemon} {activeSocketLink : String} {auth : ConnectionAuthState}
  {msg : WorkerMessage}

theorem rejected_effect (reason : String) :
    Effect crates config io daemon auth msg (rejected io daemon auth reason) :=
  .unchanged (reject_unchanged io daemon reason) rfl

theorem handleReady_effect :
    Effect crates config io daemon auth msg (handleReady crates config io daemon auth msg) := by
  unfold handleReady
  split
  next => exact rejected_effect _
  next fresh =>
    cases staged : daemon.canaryGeneration with
    | none => exact rejected_effect _
    | some canary =>
      dsimp only
      split
      next => exact rejected_effect _
      next pid protocolVersion checked =>
        obtain ⟨authToken, ready, version⟩ := checkReady_ok.mp checked
        split
        next => exact rejected_effect _
        next => exact rejected_effect _
        next challenged =>
          cases version
          exact .handshake canary pid (Decidable.not_not.mp fresh)
            ⟨staged, ⟨authToken, ready⟩, challengeWorker_ok.mp challenged⟩ rfl rfl rfl

theorem handleHeartbeat_effect {generationId : String} {pid : UInt32} {version : UInt16} {memoryMb : UInt64}
    (sender : auth = .authenticated generationId pid version) (names : msg.claimed = some generationId) :
    Effect crates config io daemon auth msg
      (handleHeartbeat crates config activeSocketLink io daemon auth generationId memoryMb) := by
  unfold handleHeartbeat
  cases staged : daemon.canaryGeneration with
  | none => exact .unchanged ⟨rfl, rfl, rfl⟩ rfl
  | some canary =>
    dsimp only
    split
    next outside =>
      obtain ⟨rfl, -⟩ := outside
      exact .reverted canary { canary with state := .reverting } staged ⟨pid, version, sender⟩ names
        ⟨rfl, rfl⟩ revertWith_effect.2 revertWith_effect.1
    next => exact .unchanged ⟨rfl, rfl, rfl⟩ rfl

theorem handleCanaryReport_effect {generationId : String} {pid : UInt32} {version : UInt16}
    {transactionId latencyUs : UInt64} {success : Bool} {error : Option String}
    (sender : auth = .authenticated generationId pid version)
    (report : msg = .canaryReport generationId transactionId success latencyUs error) :
    Effect crates config io daemon auth msg
      (handleCanaryReport crates config activeSocketLink io daemon auth generationId success latencyUs error) := by
  unfold handleCanaryReport
  cases staged : daemon.canaryGeneration with
  | none => exact .unchanged ⟨rfl, rfl, rfl⟩ rfl
  | some canary =>
    dsimp only
    split
    next same =>
      obtain rfl := same
      cases within : brokenAfter config io canary success latencyUs with
      | none =>
        rw [HostSupervisor.recordCanaryTransaction_within within]
        exact .counted canary success latencyUs ⟨staged, ⟨pid, version, sender⟩,
          ⟨transactionId, error, report⟩⟩
          within rfl rfl
      | some reason =>
        rw [HostSupervisor.recordCanaryTransaction_broken reason within]
        exact .reverted canary
          { HostSupervisor.countTransaction canary success latencyUs with state := .reverting } staged
          ⟨pid, version, sender⟩ (by rw [report]; rfl) ⟨rfl, rfl⟩ revertWith_effect.2 revertWith_effect.1
    next => exact .unchanged ⟨rfl, rfl, rfl⟩ rfl

theorem handleAuthenticated_effect {generationId : String} {pid : UInt32} {version : UInt16}
    (sender : auth = .authenticated generationId pid version)
    (named : ∀ claimed, msg.claimed = some claimed → claimed = generationId) :
    Effect crates config io daemon auth msg
      (handleAuthenticated crates config activeSocketLink io daemon auth generationId msg) := by
  cases msg with
  | heartbeat claimed _ _ memoryMb =>
    obtain rfl := named claimed rfl
    exact handleHeartbeat_effect sender rfl
  | canaryReport claimed transactionId success latencyUs error =>
    obtain rfl := named claimed rfl
    exact handleCanaryReport_effect sender rfl
  | authResponse response => exact rejected_effect _
  | executeResult _ _ requestId _ _ => exact .unchanged (reject_unchanged io daemon _) rfl
  | ready _ _ _ _ => exact .unchanged ⟨rfl, rfl, rfl⟩ rfl
  | drainComplete _ => exact .unchanged ⟨rfl, rfl, rfl⟩ rfl
  | pong => exact .unchanged ⟨rfl, rfl, rfl⟩ rfl

variable (crates config io daemon activeSocketLink auth msg) in
theorem processWorkerMessage_effect :
    Effect crates config io daemon auth msg
      (processWorkerMessage crates config activeSocketLink io daemon auth msg) := by
  unfold processWorkerMessage
  split
  next => exact handleReady_effect
  next =>
    cases auth with
    | unauthenticated => exact rejected_effect _
    | authenticated generationId pid version =>
      dsimp only
      split
      next silent => exact handleAuthenticated_effect rfl (by simp [silent])
      next named claims =>
        split
        next => exact rejected_effect _
        next same =>
          refine handleAuthenticated_effect rfl fun claimed here => ?_
          rw [claims] at here
          exact (Option.some.inj here).symm.trans (Decidable.not_not.mp same)

theorem processWorkerMessage_handshake {canary : GenerationInfo} {pid : UInt32}
    (done : Handshakes crates config io daemon canary msg pid) :
    processWorkerMessage crates config activeSocketLink io daemon .unauthenticated msg =
      { reply := .ok (some .ping)
        auth := .authenticated canary.generationId pid canaryProtocolVersion
        daemon := { daemon with canaryGeneration := some { canary with state := .ready, pid := some pid } } } := by
  obtain ⟨authToken, rfl⟩ := done.ready
  have checked : checkReady crates.debug canary.generationId
      (.ready canary.generationId pid authToken canaryProtocolVersion) = .ok (pid, canaryProtocolVersion) :=
    checkReady_ok.mpr ⟨authToken, rfl, rfl⟩
  have challenged : challengeWorker crates.sha crates.debug _ _ _ = _ :=
    challengeWorker_ok.mpr done.challenged
  simp only [processWorkerMessage, handleReady, done.staged, checked, challenged, ne_eq, not_true, if_false]

theorem processWorkerMessage_counted {canary : GenerationInfo} {success : Bool} {latencyUs : UInt64}
    (reports : Reports daemon canary auth msg success latencyUs)
    (within : brokenAfter config io canary success latencyUs = none) :
    (processWorkerMessage crates config activeSocketLink io daemon auth msg).daemon =
      { daemon with canaryGeneration := some (counted canary success latencyUs) } := by
  obtain ⟨pid, version, rfl⟩ := reports.sender
  obtain ⟨transactionId, error, rfl⟩ := reports.report
  have recorded := HostSupervisor.recordCanaryTransaction_within within
  simp only [processWorkerMessage, WorkerMessage.claimed, handleAuthenticated, handleCanaryReport,
    reports.staged, recorded, ne_eq, not_true, if_false, if_true]
  rfl

end Effects

end SparkRsi.Supervisor
