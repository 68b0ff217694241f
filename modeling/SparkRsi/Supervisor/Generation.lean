import SparkRsi.Shared.Bytes

set_option autoImplicit false

namespace SparkRsi.Supervisor

inductive GenerationState where
  | staged
  | starting
  | ready
  | canaryActive
  | durable
  | reverting
  | reverted
  deriving DecidableEq, Repr

def GenerationState.debug : GenerationState → String
  | staged => "Staged"
  | starting => "Starting"
  | ready => "Ready"
  | canaryActive => "CanaryActive"
  | durable => "Durable"
  | reverting => "Reverting"
  | reverted => "Reverted"

structure GenerationInfo where
  generationId : String
  installedPath : String
  manifestDigest : String
  state : GenerationState
  pid : Option UInt32
  socketPath : Option String
  canaryTransactions : UInt64
  canaryErrors : UInt64
  maxLatencyUs : UInt64
  totalLatencyUs : UInt64
  stagedTimestamp : String
  deriving DecidableEq, Repr

/-- The configured error rate: `exceeded errors transactions` is the float
comparison, `report` the error text with its percentages. -/
structure ErrorBudget where
  exceeded : UInt64 → UInt64 → Bool
  report : UInt64 → UInt64 → String

structure HostSupervisor where
  activeSymlink : String
  generationsRoot : String
  memoryLimitMb : UInt64

namespace HostSupervisor

def isMemoryWithinBudget (supervisor : HostSupervisor) (checkUnifiedMemoryMb : UInt32 → Except String UInt64)
    (pid : UInt32) : Except String Bool := do
  let currentMb ← checkUnifiedMemoryMb pid
  return currentMb ≤ supervisor.memoryLimitMb

def countTransaction (genInfo : GenerationInfo) (success : Bool) (latencyUs : UInt64) : GenerationInfo :=
  { genInfo with
    canaryTransactions := genInfo.canaryTransactions + 1
    canaryErrors := if success then genInfo.canaryErrors else genInfo.canaryErrors + 1
    maxLatencyUs := if latencyUs > genInfo.maxLatencyUs then latencyUs else genInfo.maxLatencyUs
    totalLatencyUs := genInfo.totalLatencyUs + latencyUs }

def brokenBudget (supervisor : HostSupervisor) (checkUnifiedMemoryMb : UInt32 → Except String UInt64)
    (counted : GenerationInfo) (latencyUs maxLatencyUs : UInt64) (errorBudget : ErrorBudget) :
    Option String :=
  if maxLatencyUs > 0 ∧ latencyUs > maxLatencyUs then
    some s!"Latency budget exceeded: {latencyUs} us > {maxLatencyUs} us limit (transaction {counted.canaryTransactions})"
  else if errorBudget.exceeded counted.canaryErrors counted.canaryTransactions then
    some (errorBudget.report counted.canaryErrors counted.canaryTransactions)
  else
    match counted.pid with
    | none => none
    | some pid =>
      match supervisor.isMemoryWithinBudget checkUnifiedMemoryMb pid with
      | .ok true => none
      | .ok false =>
        some s!"Resource budget exceeded: PID {pid} exceeded {supervisor.memoryLimitMb} MB limit"
      | .error readErr => some s!"Resource budget unreadable for PID {pid}, reverting: {readErr}"

def recordCanaryTransaction (supervisor : HostSupervisor)
    (checkUnifiedMemoryMb : UInt32 → Except String UInt64) (genInfo : GenerationInfo) (success : Bool)
    (latencyUs maxLatencyUs : UInt64) (errorBudget : ErrorBudget) :
    Except String GenerationState × GenerationInfo :=
  let counted := countTransaction genInfo success latencyUs
  match brokenBudget supervisor checkUnifiedMemoryMb counted latencyUs maxLatencyUs errorBudget with
  | some reason => (.error reason, { counted with state := .reverting })
  | none => (.ok .canaryActive, { counted with state := .canaryActive })

section

variable {supervisor : HostSupervisor} {checkUnifiedMemoryMb : UInt32 → Except String UInt64}
  {genInfo : GenerationInfo} {success : Bool} {latencyUs maxLatencyUs : UInt64} {errorBudget : ErrorBudget}

theorem brokenBudget_eq_none {counted : GenerationInfo} :
    brokenBudget supervisor checkUnifiedMemoryMb counted latencyUs maxLatencyUs errorBudget = none ↔
      ¬(maxLatencyUs > 0 ∧ latencyUs > maxLatencyUs) ∧
        errorBudget.exceeded counted.canaryErrors counted.canaryTransactions = false ∧
        ∀ pid, counted.pid = some pid →
          supervisor.isMemoryWithinBudget checkUnifiedMemoryMb pid = .ok true := by
  unfold brokenBudget
  split
  next slow => exact ⟨fun broken => (Option.some_ne_none _ broken).elim, fun within => absurd slow within.1⟩
  next fast =>
    split
    next outside =>
      refine ⟨fun broken => (Option.some_ne_none _ broken).elim, fun within => ?_⟩
      rw [within.2.1] at outside
      cases outside
    next under =>
      have errors : errorBudget.exceeded counted.canaryErrors counted.canaryTransactions = false :=
        Bool.not_eq_true _ ▸ under
      cases counted.pid with
      | none => exact ⟨fun _ => ⟨fast, errors, fun pid running => (Option.some_ne_none _ running.symm).elim⟩, fun _ => rfl⟩
      | some pid =>
        dsimp only
        cases read : supervisor.isMemoryWithinBudget checkUnifiedMemoryMb pid with
        | error e =>
          refine ⟨fun broken => (Option.some_ne_none _ broken).elim, fun within => ?_⟩
          have memory := within.2.2 pid rfl
          rw [read] at memory
          cases memory
        | ok inside =>
          cases inside with
          | true =>
            refine ⟨fun _ => ⟨fast, errors, fun other running => ?_⟩, fun _ => rfl⟩
            cases running
            exact read
          | false =>
            refine ⟨fun broken => (Option.some_ne_none _ broken).elim, fun within => ?_⟩
            have memory := within.2.2 pid rfl
            rw [read] at memory
            cases memory

theorem isMemoryWithinBudget_ok {pid : UInt32} :
    supervisor.isMemoryWithinBudget checkUnifiedMemoryMb pid = .ok true ↔
      ∃ mb, checkUnifiedMemoryMb pid = .ok mb ∧ mb ≤ supervisor.memoryLimitMb := by
  unfold isMemoryWithinBudget
  cases checkUnifiedMemoryMb pid with
  | error e => simp [bind, Except.bind]
  | ok mb => simp [bind, Except.bind, pure, Except.pure]

theorem recordCanaryTransaction_within
    (within : brokenBudget supervisor checkUnifiedMemoryMb (countTransaction genInfo success latencyUs)
      latencyUs maxLatencyUs errorBudget = none) :
    recordCanaryTransaction supervisor checkUnifiedMemoryMb genInfo success latencyUs maxLatencyUs
        errorBudget =
      (.ok .canaryActive, { countTransaction genInfo success latencyUs with state := .canaryActive }) := by
  simp [recordCanaryTransaction, within]

theorem recordCanaryTransaction_broken (reason : String)
    (broken : brokenBudget supervisor checkUnifiedMemoryMb (countTransaction genInfo success latencyUs)
      latencyUs maxLatencyUs errorBudget = some reason) :
    recordCanaryTransaction supervisor checkUnifiedMemoryMb genInfo success latencyUs maxLatencyUs
        errorBudget =
      (.error reason, { countTransaction genInfo success latencyUs with state := .reverting }) := by
  simp [recordCanaryTransaction, broken]

end

end HostSupervisor

end SparkRsi.Supervisor
