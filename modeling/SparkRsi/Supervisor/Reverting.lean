import SparkRsi.Supervisor.Connections
import SparkRsi.Shared.Sha256

set_option autoImplicit false

namespace SparkRsi.Supervisor

open Shared Canary

def Alive (daemon : SupervisorDaemon) : Prop :=
  ∃ canary, daemon.canaryGeneration = some canary ∧ (canary.state = .ready ∨ canary.state = .canaryActive)

section

variable (crates : LogCrates) (config : SupervisorConfig) (activeSocketLink : String)

structure WithinBudgets (io : FrameIo) (canary : GenerationInfo) (success : Bool) (latencyUs : UInt64) : Prop where
  latency : ¬(config.maxLatencyUs > 0 ∧ latencyUs > config.maxLatencyUs)
  errors : config.maxErrorRate.exceeded
    (if success then canary.canaryErrors else canary.canaryErrors + 1) (canary.canaryTransactions + 1) = false
  memory : ∀ pid, canary.pid = some pid → ∃ mb, io.checkUnifiedMemoryMb pid = .ok mb ∧ mb ≤ config.memoryLimitMb

/-- A frame that takes the staged generation up: a completed handshake on a connection
that had none, or a report within the budgets from the generation's own connection. -/
inductive Revives (before : Supervision) (event : FrameEvent) : Prop
  | handshake (canary : GenerationInfo) (pid : UInt32)
      (fresh : before.connections event.connection = some .unauthenticated)
      (done : Handshakes crates config event.io before.daemon canary event.msg pid)
  | report (canary : GenerationInfo) (auth : ConnectionAuthState) (success : Bool) (latencyUs : UInt64)
      (opened : before.connections event.connection = some auth)
      (reports : Reports before.daemon canary auth event.msg success latencyUs)
      (within : WithinBudgets config event.io canary success latencyUs)

/-- From the first state on in which the staged generation was sent back, it never takes requests again. -/
def RevertingFinal (start : Supervision) (events : List FrameEvent) : Prop :=
  ∀ first second, events = first ++ second →
    Reversed (Run.final (handleFrame crates config activeSocketLink) start first).daemon →
    ∀ reached ∈ Run.states (handleFrame crates config activeSocketLink)
      (Run.final (handleFrame crates config activeSocketLink) start first) second, ¬Alive reached.daemon

end

section

variable {crates : LogCrates} {config : SupervisorConfig} {activeSocketLink : String}

theorem brokenAfter_eq_none {io : FrameIo} {canary : GenerationInfo} {success : Bool} {latencyUs : UInt64} :
    brokenAfter config io canary success latencyUs = none ↔
      WithinBudgets config io canary success latencyUs := by
  rw [brokenAfter, HostSupervisor.brokenBudget_eq_none]
  simp only [HostSupervisor.isMemoryWithinBudget_ok]
  exact ⟨fun ⟨latency, errors, memory⟩ => ⟨latency, errors, memory⟩,
    fun within => ⟨within.latency, within.errors, within.memory⟩⟩

theorem Reversed.not_alive {daemon : SupervisorDaemon} (reversed : Reversed daemon) : ¬Alive daemon := by
  rintro ⟨canary, staged, alive⟩
  obtain ⟨other, here, state⟩ := reversed
  rw [staged] at here
  cases here
  rcases state with state | state <;> rcases alive with alive | alive <;> simp [state] at alive

theorem handleFrame_daemon {before : Supervision} {event : FrameEvent} {auth : ConnectionAuthState}
    (opened : before.connections event.connection = some auth) :
    (handleFrame crates config activeSocketLink before event).daemon =
      (processWorkerMessage crates config activeSocketLink event.io before.daemon auth event.msg).daemon := by
  simp only [handleFrame, opened]

theorem Revives.alive {before : Supervision} {event : FrameEvent}
    (revives : Revives crates config before event) :
    Alive (handleFrame crates config activeSocketLink before event).daemon := by
  cases revives with
  | handshake canary pid fresh done =>
    rw [handleFrame_daemon fresh, processWorkerMessage_handshake done]
    exact ⟨_, rfl, .inl rfl⟩
  | report canary auth success latencyUs opened reports within =>
    rw [handleFrame_daemon opened, processWorkerMessage_counted reports (brokenAfter_eq_none.mpr within)]
    exact ⟨_, rfl, .inr rfl⟩

-- A generation that was sent back stays there under every frame that does not revive it.
theorem Reversed.handleFrame {before : Supervision} {event : FrameEvent} (reversed : Reversed before.daemon)
    (calm : ¬Revives crates config before event) :
    Reversed (handleFrame crates config activeSocketLink before event).daemon := by
  cases opened : before.connections event.connection with
  | none => simpa only [Supervisor.handleFrame, opened] using reversed
  | some auth =>
    rw [handleFrame_daemon opened]
    have effect := processWorkerMessage_effect crates config event.io before.daemon activeSocketLink auth event.msg
    cases effect with
    | unchanged same _ =>
      obtain ⟨canary, staged, state⟩ := reversed
      exact ⟨canary, same.canary.trans staged, state⟩
    | handshake canary pid fresh done _ _ _ => exact absurd (.handshake canary pid (fresh ▸ opened) done) calm
    | counted canary success latencyUs reports within _ _ =>
      exact absurd (.report canary auth success latencyUs opened reports (brokenAfter_eq_none.mp within)) calm
    | reverted canary reverting _ _ _ marked back _ => exact (back.reversed rfl marked.2).1

variable (crates config activeSocketLink)

/-- Reverting is final in a run exactly when no frame revives a generation that was sent back. -/
theorem reverting_final_iff_no_revival (start : Supervision) (events : List FrameEvent) :
    RevertingFinal crates config activeSocketLink start events ↔
      ∀ visit ∈ Run.visits (handleFrame crates config activeSocketLink) start events,
        Reversed visit.1.daemon → ¬Revives crates config visit.1 visit.2 := by
  constructor
  · rintro final ⟨before, event⟩ visited reversed revives
    obtain ⟨first, second, split, reached⟩ := Run.mem_visits _ visited
    dsimp only at split reached reversed revives
    subst reached
    refine final first (event :: second) split reversed
      (handleFrame crates config activeSocketLink _ event) ?_ revives.alive
    exact List.mem_cons_of_mem _ (Run.head_mem_states _ _ _)
  · rintro calm first second rfl reversed reached member
    have kept := Run.invariant_states _ (fun s => Reversed s.daemon)
      (fun s e => Reversed s.daemon → ¬Revives crates config s e)
      (fun s e here allowed => here.handleFrame (allowed here)) _ second reversed
      (fun visit later => calm visit (Run.visits_append _ start first second ▸ List.mem_append_right _ later))
    exact (kept reached member).not_alive

end

section Sample

def sampleConfig : SupervisorConfig where
  rsiRoot := ".rsi"
  memoryLimitMb := 49152
  maxLatencyUs := 1000000
  maxErrorRate := { exceeded := fun errors _ => errors > 0, report := fun _ _ => "Error budget exceeded" }
  sharedSecret := "secret-key"

def sampleCanary : GenerationInfo where
  generationId := "gen-002"
  installedPath := ".rsi/generations/gen-002"
  manifestDigest := "sha-cand"
  state := .staged
  pid := none
  socketPath := none
  canaryTransactions := 0
  canaryErrors := 0
  maxLatencyUs := 0
  totalLatencyUs := 0
  stagedTimestamp := "2026-10-12T00:00:00+00:00"

def sampleStart : Supervision where
  daemon := { activeGeneration := none, canaryGeneration := some sampleCanary, observationLog := none
              disk := .found none, links := { active := [], activeSocket := [] } }
  connections _ := some .unauthenticated

def sampleIo (answer : Option (Except String WorkerMessage)) : FrameIo where
  challenge := { nonce := "00000000000000000000000000000000", sendFault := none, answer }
  checkUnifiedMemoryMb _ := .ok 100
  swap := { targetExists := fun _ => true, createDir := none, symlink := none, rename := none }
  socket := { targetExists := fun _ => true, createDir := none, symlink := none, rename := none }
  log := { openFault := none, readFault := none, faults := fun _ => none }
  nowMs := 0

def sampleReady : FrameEvent where
  connection := 0
  io := sampleIo (some (.ok (.authResponse (SessionAuth.computeHmac standardLogCrates.sha "secret-key"
    s!"{sampleCanary.generationId}:challenge-00000000000000000000000000000000"))))
  msg := .ready "gen-002" 7 "" 1

def sampleOverMemory : FrameEvent :=
  { connection := 0, io := sampleIo none, msg := .heartbeat "gen-002" 0 0 50000 }

def sampleReport : FrameEvent :=
  { connection := 0, io := sampleIo none, msg := .canaryReport "gen-002" 1 true 10 none }

theorem sampleReady_authenticates :
    handleFrame standardLogCrates sampleConfig "active.sock" sampleStart sampleReady =
      { daemon := { sampleStart.daemon with
          canaryGeneration := some { sampleCanary with state := .ready, pid := some 7 } }
        connections := Function.update sampleStart.connections 0 (some (.authenticated "gen-002" 7 1)) } := by
  have done : Handshakes standardLogCrates sampleConfig sampleReady.io sampleStart.daemon sampleCanary
      sampleReady.msg 7 := ⟨rfl, ⟨"", rfl⟩, rfl, _, rfl, rfl⟩
  have opened : sampleStart.connections sampleReady.connection = some .unauthenticated := rfl
  simp only [handleFrame, opened, processWorkerMessage_handshake done]
  rfl

theorem reported_success_revives :
    ¬RevertingFinal standardLogCrates sampleConfig "active.sock" sampleStart
      [sampleReady, sampleOverMemory, sampleReport] := by
  intro final
  have after := final [sampleReady, sampleOverMemory] [sampleReport] rfl
  simp only [Run.final, sampleReady_authenticates] at after
  exact after ⟨_, rfl, .inr rfl⟩ _ (Run.final_mem_states _ _ _) ⟨_, rfl, .inr rfl⟩

end Sample

end SparkRsi.Supervisor
