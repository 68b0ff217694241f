import SparkRsi.Supervisor.Frames

set_option autoImplicit false

namespace SparkRsi.Supervisor

open Shared Canary

structure Supervision where
  daemon : SupervisorDaemon
  connections : Nat → Option ConnectionAuthState

structure FrameEvent where
  connection : Nat
  io : FrameIo
  msg : WorkerMessage

def WorkerMessage.names (msg : WorkerMessage) : Option String :=
  match msg with
  | .ready generationId _ _ _ => some generationId
  | other => other.claimed

theorem WorkerMessage.names_of_claimed {msg : WorkerMessage} {generationId : String}
    (claims : msg.claimed = some generationId) : msg.names = some generationId := by
  cases msg <;> first | exact claims | cases claims

section

variable (crates : LogCrates) (config : SupervisorConfig) (activeSocketLink : String)

/-- A refused frame closes its connection; a frame on a closed connection is never read. -/
def handleFrame (before : Supervision) (event : FrameEvent) : Supervision :=
  match before.connections event.connection with
  | none => before
  | some auth =>
    let handled := processWorkerMessage crates config activeSocketLink event.io before.daemon auth event.msg
    { daemon := handled.daemon
      connections := Function.update before.connections event.connection
        (match handled.reply with
        | .ok _ => some handled.auth
        | .error _ => none) }

def Durable (daemon : SupervisorDaemon) : Prop :=
  ∃ canary, daemon.canaryGeneration = some canary ∧ canary.state = .durable

def Reversed (daemon : SupervisorDaemon) : Prop :=
  ∃ canary, daemon.canaryGeneration = some canary ∧ (canary.state = .reverting ∨ canary.state = .reverted)

structure FrameLaw (before : Supervision) (event : FrameEvent) (after : Supervision) : Prop where
  unauthenticated : before.connections event.connection = some .unauthenticated →
    (∀ generationId pid version,
      after.connections event.connection ≠ some (.authenticated generationId pid version)) →
    Unchanged before.daemon after.daemon
  foreign : ∀ generationId pid version named,
    before.connections event.connection = some (.authenticated generationId pid version) →
    event.msg.names = some named → named ≠ generationId → Unchanged before.daemon after.daemon
  authenticated : ∀ connection generationId pid version,
    after.connections connection = some (.authenticated generationId pid version) →
    before.connections connection = some (.authenticated generationId pid version) ∨
      connection = event.connection ∧ before.connections connection = some .unauthenticated ∧
        version = canaryProtocolVersion ∧ ∃ canary, canary.generationId = generationId ∧
          Handshakes crates config event.io before.daemon canary event.msg pid
  durable : Durable after.daemon → Durable before.daemon
  active : after.daemon.activeGeneration = before.daemon.activeGeneration
  links : after.daemon.links = before.daemon.links ∨
    MovedToParent config before.daemon.activeGeneration before.daemon.links after.daemon.links ∧
      Reversed after.daemon

end

section

variable {crates : LogCrates} {config : SupervisorConfig} {activeSocketLink : String}

theorem FrameLaw.refl (before : Supervision) (event : FrameEvent) :
    FrameLaw crates config before event before :=
  ⟨fun _ _ => ⟨rfl, rfl, rfl⟩, fun _ _ _ _ _ _ _ => ⟨rfl, rfl, rfl⟩, fun _ _ _ _ here => .inl here,
    id, rfl, .inl rfl⟩

theorem Unchanged.durable {before after : SupervisorDaemon} (same : Unchanged before after) :
    Durable after → Durable before := by
  rintro ⟨canary, staged, durable⟩
  exact ⟨canary, same.canary ▸ staged, durable⟩

-- A rolled back canary is not durable, and its rollback is what moved the links.
theorem RolledBack.reversed {before after : SupervisorDaemon} {reverting : GenerationInfo}
    (back : RolledBack config before after) (staged : before.canaryGeneration = some reverting)
    (marked : reverting.state = .reverting) : Reversed after ∧ ¬Durable after := by
  have reached : ∃ canary, after.canaryGeneration = some canary ∧
      (canary.state = .reverting ∨ canary.state = .reverted) := by
    rcases back.canary with same | reverted
    · exact ⟨reverting, same.trans staged, .inl marked⟩
    · exact ⟨{ reverting with state := .reverted }, by rw [reverted, staged]; rfl, .inr rfl⟩
  refine ⟨reached, fun ⟨canary, here, durable⟩ => ?_⟩
  obtain ⟨other, there, state⟩ := reached
  rw [here] at there
  cases there
  rcases state with state | state <;> simp [durable] at state

theorem handleFrame_law (before : Supervision) (event : FrameEvent) :
    FrameLaw crates config before event (handleFrame crates config activeSocketLink before event) := by
  unfold handleFrame
  cases opened : before.connections event.connection with
  | none => exact .refl before event
  | some auth =>
    dsimp only
    have effect := processWorkerMessage_effect crates config event.io before.daemon activeSocketLink auth event.msg
    generalize processWorkerMessage crates config activeSocketLink event.io before.daemon auth event.msg =
      handled at effect ⊢
    -- The connection keeps what the frame left it, or is closed.
    have kept (connection : Nat) (state : ConnectionAuthState) (here : Function.update before.connections
        event.connection (match handled.reply with
          | .ok _ => some handled.auth
          | .error _ => none) connection = some state) :
        connection ≠ event.connection ∧ before.connections connection = some state ∨
          connection = event.connection ∧ handled.auth = state := by
      by_cases same : connection = event.connection
      · subst same
        rw [Function.update_self] at here
        split at here
        next => exact .inr ⟨rfl, Option.some.inj here⟩
        next => cases here
      · rw [Function.update_of_ne same] at here
        exact .inl ⟨same, here⟩
    have carried (auth_eq : handled.auth = auth) : ∀ connection generationId pid version,
        Function.update before.connections event.connection (match handled.reply with
          | .ok _ => some handled.auth
          | .error _ => none) connection = some (.authenticated generationId pid version) →
        before.connections connection = some (.authenticated generationId pid version) := by
      intro connection generationId pid version here
      rcases kept connection _ here with ⟨-, old⟩ | ⟨rfl, new⟩
      · exact old
      · rw [opened, ← auth_eq, new]
    cases effect with
    | unchanged same auth_eq =>
      exact ⟨fun _ _ => same, fun _ _ _ _ _ _ _ => same,
        fun connection generationId pid version here => .inl (carried auth_eq connection generationId pid version here),
        same.durable, same.active, .inl same.links⟩
    | handshake canary pid fresh done reply auth_eq ready =>
      cases fresh
      refine ⟨fun _ refused => ?_, fun generationId pid version named other => ?_,
        fun connection generationId other version here => ?_, fun durable => ?_, ?_, .inl ?_⟩
      · exact absurd (by simp [reply, auth_eq]) (refused canary.generationId pid canaryProtocolVersion)
      · rw [opened] at other
        cases other
      · rcases kept connection _ here with ⟨-, old⟩ | ⟨rfl, new⟩
        · exact .inl old
        · rw [auth_eq] at new
          cases new
          exact .inr ⟨rfl, opened, rfl, canary, rfl, done⟩
      · obtain ⟨after, staged, state⟩ := durable
        simp only [ready, Option.some.injEq] at staged
        simp [← staged] at state
      · rw [ready]
      · rw [ready]
    | counted canary success latencyUs reports within auth_eq active =>
      obtain ⟨pid, version, rfl⟩ := reports.sender
      obtain ⟨transactionId, error, report⟩ := reports.report
      refine ⟨fun fresh => ?_, fun generationId _ _ named sender names other => ?_,
        fun connection generationId pid version here => .inl (carried auth_eq connection generationId pid version here),
        fun durable => ?_, ?_, .inl ?_⟩
      · rw [opened] at fresh
        cases fresh
      · rw [opened] at sender
        cases sender
        rw [report] at names
        exact absurd (Option.some.inj names).symm other
      · obtain ⟨after, staged, state⟩ := durable
        simp only [active, Option.some.injEq] at staged
        simp [← staged, Supervisor.counted] at state
      · rw [active]
      · rw [active]
    | reverted canary reverting staged sender names marked back auth_eq =>
      obtain ⟨pid, version, rfl⟩ := sender
      have reversed := back.reversed rfl marked.2
      refine ⟨fun fresh => ?_, fun generationId _ _ named sender here other => ?_,
        fun connection generationId pid version here => .inl (carried auth_eq connection generationId pid version here),
        fun durable => absurd durable reversed.2, back.active, .inr ⟨back.links, reversed.1⟩⟩
      · rw [opened] at fresh
        cases fresh
      · rw [opened] at sender
        cases sender
        rw [WorkerMessage.names_of_claimed names] at here
        exact absurd (Option.some.inj here).symm other

structure RunLaw (config : SupervisorConfig) (start reached : SupervisorDaemon) : Prop where
  durable : Durable reached → Durable start
  active : reached.activeGeneration = start.activeGeneration
  links : MovedToParent config start.activeGeneration start.links reached.links

theorem RunLaw.step {start : SupervisorDaemon} {before after : Supervision} {event : FrameEvent}
    (run : RunLaw config start before.daemon) (law : FrameLaw crates config before event after) :
    RunLaw config start after.daemon := by
  refine ⟨fun durable => run.durable (law.durable durable), law.active.trans run.active, ?_⟩
  rcases law.links with same | ⟨moved, -⟩
  · rw [same]
    exact run.links
  · rw [run.active] at moved
    exact run.links.trans moved

variable (crates config activeSocketLink)

/-- In every sequence of frames over any connections, each frame and each reached state obey their laws. -/
theorem frames_change_nothing_foreign (start : Supervision) (events : List FrameEvent) :
    (∀ visit ∈ Run.visits (handleFrame crates config activeSocketLink) start events,
      FrameLaw crates config visit.1 visit.2 (handleFrame crates config activeSocketLink visit.1 visit.2)) ∧
    ∀ reached ∈ Run.states (handleFrame crates config activeSocketLink) start events,
      RunLaw config start.daemon reached.daemon := by
  refine ⟨fun visit _ => handleFrame_law visit.1 visit.2, ?_⟩
  exact Run.invariant_states _ (fun reached => RunLaw config start.daemon reached.daemon) (fun _ _ => True)
    (fun before event run _ => run.step (handleFrame_law before event)) start events
    ⟨id, rfl, .refl config _ _⟩ (fun _ _ => trivial)

end

end SparkRsi.Supervisor
