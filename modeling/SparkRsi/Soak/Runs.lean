import SparkRsi.Soak.Exhausted

set_option autoImplicit false

namespace SparkRsi.Soak

open Shared Ledger SparkRsi.Cycle SparkRsi.Measure

structure Machine extends Installation where
  manifests : String → Option SoakRunManifest

inductive MachineEvent where
  | cycle (config : Cycle.RsiConfig) (io : CycleIo)
  | batch (config : SoakConfig) (io : BatchIo)

def Machine.disk (m : Machine) : SoakDisk := ⟨m.ledger, m.files, m.manifests⟩

section Machine

variable {ecdsa : Ecdsa} (crates : CycleCrates ecdsa) (text : SoakText)

structure Advanced (before after : Machine) : Prop where
  links : after.links = before.links
  ledger : Stands crates.ledger before.ledger after.ledger

instance : IsPreorder Machine (Advanced crates) where
  refl m := ⟨rfl, refl_of (Stands crates.ledger) m.ledger⟩
  trans _ _ _ first second :=
    ⟨second.links.trans first.links, trans_of (Stands crates.ledger) first.ledger second.ledger⟩

def manifestPaths (events : List MachineEvent) : List String := events.filterMap fun
  | .cycle _ _ => none
  | .batch config io => some (manifestPath crates config io)

/-- A manifest is that of a batch of these events, in that batch's file, and tells of it what is so. -/
def Accounted (events : List MachineEvent) (ledger : ImprovementLedger) (path : String)
    (manifest : SoakRunManifest) : Prop :=
  ∃ config io, .batch config io ∈ events ∧ path = manifestPath crates config io ∧ manifest.runId = io.runId ∧
    (Aborted manifest ∨ ManifestLaw crates config ledger manifest)

variable {crates} in
theorem Accounted.later {events : List MachineEvent} {before after : ImprovementLedger} {path : String}
    {manifest : SoakRunManifest} (accounted : Accounted crates events before path manifest)
    (extended : Extends before after) : Accounted crates events after path manifest := by
  obtain ⟨config, io, member, at_, run, aborted | law⟩ := accounted
  next => exact ⟨config, io, member, at_, run, .inl aborted⟩
  next => exact ⟨config, io, member, at_, run, .inr (law.later extended)⟩

variable [DecidableEq ecdsa.VerifyingKey]

def machineStep (m : Machine) : MachineEvent → Machine
  | .cycle config io => { daemonStep crates m.toInstallation (config, io) with manifests := m.manifests }
  | .batch config io =>
    let after := (runBatch crates text config io m.disk).2
    { ledger := after.ledger, links := m.links, files := after.files, manifests := after.manifests }

variable {crates text}

theorem machineStep_advanced (m : Machine) (event : MachineEvent) :
    Advanced crates m (machineStep crates text m event) := by
  cases event with
  | cycle config io =>
    have unpromoted := @runCycle_unpromoted _ crates config io _ m.toInstallation
    exact ⟨unpromoted.links, unpromoted.ledger⟩
  | batch config io =>
    have finished : Finished crates config io m.disk (runBatch crates text config io m.disk) := runBatch_finished
    exact ⟨rfl, finished.ledger⟩

theorem machineStep_accounted {events : List MachineEvent} {m : Machine} {event : MachineEvent}
    (member : event ∈ events) {path : String} {manifest : SoakRunManifest}
    (held : (machineStep crates text m event).manifests path = some manifest) :
    m.manifests path = some manifest ∨
      Accounted crates events (machineStep crates text m event).ledger path manifest := by
  cases event with
  | cycle config io => exact .inl held
  | batch config io =>
    have finished : Finished crates config io m.disk (runBatch crates text config io m.disk) := runBatch_finished
    by_cases own : path = manifestPath crates config io
    next =>
      subst own
      exact (finished.own manifest held).imp_right fun ⟨run, tells⟩ => ⟨config, io, member, rfl, run, tells⟩
    next => exact .inl ((finished.others path own).symm.trans held)

theorem machineStep_others {m : Machine} {event : MachineEvent} {path : String}
    (other : path ∉ manifestPaths crates [event]) :
    (machineStep crates text m event).manifests path = m.manifests path := by
  cases event with
  | cycle config io => rfl
  | batch config io =>
    have finished : Finished crates config io m.disk (runBatch crates text config io m.disk) := runBatch_finished
    exact finished.others path fun own => other (by simp [manifestPaths, own])

theorem final_others {path : String} (m : Machine) (events : List MachineEvent)
    (other : path ∉ manifestPaths crates events) :
    (Run.final (machineStep crates text) m events).manifests path = m.manifests path := by
  induction events generalizing m with
  | nil => rfl
  | cons event rest ih =>
    have parts : manifestPaths crates (event :: rest) = manifestPaths crates [event] ++ manifestPaths crates rest :=
      List.filterMap_append (l := [event])
    rw [parts, List.mem_append, not_or] at other
    exact (ih _ other.2).trans (machineStep_others other.1)

theorem states_accounted (before : Machine) (events : List MachineEvent) :
    ∀ reached ∈ Run.states (machineStep crates text) before events, ∀ path manifest,
      reached.manifests path = some manifest →
        before.manifests path = some manifest ∨ Accounted crates events reached.ledger path manifest := by
  refine Run.invariant_states (machineStep crates text)
    (fun m => ∀ path manifest, m.manifests path = some manifest →
      before.manifests path = some manifest ∨ Accounted crates events m.ledger path manifest)
    (fun _ event => event ∈ events) ?_ before events (fun path manifest held => .inl held) ?_
  next =>
    intro m event known member path manifest held
    cases machineStep_accounted member held with
    | inr accounted => exact .inr accounted
    | inl old =>
      have advanced : Advanced crates m (machineStep crates text m event) := machineStep_advanced m event
      exact (known path manifest old).imp_right fun accounted => accounted.later advanced.ledger.extended
  next =>
    intro visit member
    obtain ⟨first, second, parts, -⟩ := Run.mem_visits _ member
    rw [parts]
    exact List.mem_append_right _ List.mem_cons_self

variable (crates text)

/-- In whatever order cycles and batches come, and whatever they meet, the links stay, the blocks of the ledger stay, and
no promotion is added. No cycle reports a generation or a ratification, and one with a winner reports no success. -/
theorem nothing_promotes (before : Machine) (events : List MachineEvent) :
    (∀ reached ∈ Run.states (machineStep crates text) before events,
      reached.links = before.links ∧ Extends before.ledger reached.ledger) ∧
    ∀ visit ∈ Run.visits (machineStep crates text) before events, ∀ config io result, visit.2 = .cycle config io →
      (runCycle crates config io visit.1.toInstallation).1 = .ok result →
        result.generation = none ∧ result.ratification = none ∧ result.success = result.proposal.isNone := by
  constructor
  next =>
    intro reached member
    have advanced := (@Run.between_states _ _ (machineStep crates text) (Advanced crates) _ machineStep_advanced before events reached member).1
    exact ⟨advanced.links, advanced.ledger.extended⟩
  next => exact fun _ _ _ _ _ _ returned => runCycle_returns returned

/-- As long as a sequence fits its column, the ledger passes its audit after every cycle and every batch. -/
theorem machine_audit (io : Io) (before : Machine)
    (fresh : openLedger crates.ledger io (emptyLedger fun _ => none) = .ok before.ledger) (events : List MachineEvent)
    (room : (Run.final (machineStep crates text) before events).ledger.blocks.rows.length < 2 ^ 63) :
    ∀ reached ∈ Run.states (machineStep crates text) before events, ∀ verifier now,
      ∃ report, verifyChainIntegrity crates.ledger verifier now reached.ledger none = .ok report := by
  intro reached member verifier now
  obtain ⟨behind, ahead⟩ := @Run.between_states _ _ (machineStep crates text) (Advanced crates) _ machineStep_advanced before events reached member
  have sound : Sound crates.ledger before.ledger := by
    obtain ⟨-, -, opened⟩ := openLedger_empty.mp fresh
    rw [opened]
    exact ⟨_, freshLedger_recorded⟩
  obtain ⟨blocks, recorded⟩ := behind.ledger.sound sound (ahead.ledger.extended.length_le.trans_lt room)
  exact recorded.audit verifier now

/-- Where the batches have run ids of their own, and files that were not there, each manifest that was saved on the way
stays in its file, and goes on telling what the ledger holds: it is that of a batch whose preflight failed, or all of its
records are so. A batch that returns a manifest saved it. -/
theorem manifests_stand (before : Machine) (events : List MachineEvent) (distinct : (manifestPaths crates events).Nodup)
    (unused : ∀ path ∈ manifestPaths crates events, before.manifests path = none) :
    (∀ reached ∈ Run.states (machineStep crates text) before events, ∀ path manifest,
      reached.manifests path = some manifest →
        (Run.final (machineStep crates text) before events).manifests path = some manifest ∧
          (before.manifests path = some manifest ∨ Accounted crates events reached.ledger path manifest)) ∧
    ∀ visit ∈ Run.visits (machineStep crates text) before events, ∀ config io manifest, visit.2 = .batch config io →
      (runBatch crates text config io visit.1.disk).1 = .ok manifest →
        (Run.final (machineStep crates text) before events).manifests (manifestPath crates config io) = some manifest ∧
          ManifestLaw crates config (Run.final (machineStep crates text) before events).ledger manifest := by
  constructor
  next =>
    intro reached member path manifest held
    refine ⟨?_, states_accounted before events reached member path manifest held⟩
    obtain ⟨first, second, rfl, rfl⟩ := Run.mem_states _ member
    rw [manifestPaths, List.filterMap_append] at distinct unused
    rw [Run.final_append]
    refine (final_others _ second fun later => ?_).trans held
    -- A file that is yet to be written was empty at first, and nothing before has written it.
    have fresh := unused path (List.mem_append_right _ later)
    have untouched : (Run.final (machineStep crates text) before first).manifests path = before.manifests path :=
      final_others before first fun earlier => List.disjoint_of_nodup_append distinct earlier later
    rw [untouched, fresh] at held
    cases held
  next =>
    rintro ⟨m, event⟩ member config io manifest rfl returned
    have finished : Finished crates config io m.disk (runBatch crates text config io m.disk) := runBatch_finished
    obtain ⟨saved, law⟩ := finished.returned manifest returned
    have later := @Run.after_visit _ _ (machineStep crates text) (Advanced crates) _ machineStep_advanced _ _ _ member
    refine ⟨?_, law.later later.ledger.extended⟩
    obtain ⟨first, second, rfl, at_⟩ := Run.mem_visits _ member
    rw [manifestPaths, List.filterMap_append] at distinct
    have once := (List.nodup_cons.mp (List.nodup_append.mp distinct).2.1).1
    rw [Run.final_append, ← at_]
    exact (final_others _ second once).trans saved

end Machine

section Sample

def sampleMachine : Machine :=
  { sampleInstallation with
    ledger := freshLedger standardCrates (Io.calm "2026-01-01T00:00:00+00:00") fun _ => none
    manifests := fun _ => none }

def refusedCycle : MachineEvent :=
  .cycle sampleRsiConfig { sampleCycle Actor.workflow with candidates := [(climbingCandidate, sampleCandidateIo)] }

def abortedBatch : BatchIo :=
  { silentBatch "run-1" with
    preflight :=
      { (silentBatch "run-1").preflight with bwrap := .error "No such file or directory (os error 2)" } }

theorem machine_audit_refused : ∃ report, verifyChainIntegrity sampleCycleCrates.ledger sampleEcdsa
    "2026-01-03T00:00:00+00:00"
    (Run.final (machineStep sampleCycleCrates sampleSoakText) sampleMachine
      [.batch sampleSoakConfig abortedBatch, refusedCycle]).ledger none = .ok report := by
  have fresh : openLedger sampleCycleCrates.ledger (Io.calm "2026-01-01T00:00:00+00:00") (emptyLedger fun _ => none) =
      .ok sampleMachine.ledger := openLedger_empty.mpr ⟨rfl, rfl, rfl⟩
  have room : (Run.final (machineStep sampleCycleCrates sampleSoakText) sampleMachine
      [.batch sampleSoakConfig abortedBatch, refusedCycle]).ledger.blocks.rows.length < 2 ^ 63 := by decide +kernel
  exact machine_audit sampleCycleCrates sampleSoakText _ sampleMachine fresh
    [.batch sampleSoakConfig abortedBatch, refusedCycle] room _ (Run.final_mem_states _ _ _) sampleEcdsa _

def twoBatches : List MachineEvent :=
  [.batch sampleSoakConfig abortedBatch, .batch sampleSoakConfig (silentBatch "run-2")]

def afterAborted : Machine :=
  machineStep sampleCycleCrates sampleSoakText sampleMachine (.batch sampleSoakConfig abortedBatch)

theorem afterAborted_manifests : afterAborted.manifests = Function.update (fun _ => none)
    (manifestPath sampleCycleCrates sampleSoakConfig abortedBatch) (some (abortedManifest abortedBatch)) := rfl

theorem manifests_stand_twoBatches : ∃ manifest,
    (Run.final (machineStep sampleCycleCrates sampleSoakText) sampleMachine twoBatches).manifests
      (manifestPath sampleCycleCrates sampleSoakConfig (silentBatch "run-2")) = some manifest ∧
    (Run.final (machineStep sampleCycleCrates sampleSoakText) sampleMachine twoBatches).manifests
      (manifestPath sampleCycleCrates sampleSoakConfig abortedBatch) = some (abortedManifest abortedBatch) ∧
    ManifestLaw sampleCycleCrates sampleSoakConfig
      (Run.final (machineStep sampleCycleCrates sampleSoakText) sampleMachine twoBatches).ledger manifest := by
  have distinct : (manifestPaths sampleCycleCrates twoBatches).Nodup := by decide +kernel
  obtain ⟨kept, returned⟩ := manifests_stand sampleCycleCrates sampleSoakText sampleMachine twoBatches distinct
    fun _ _ => rfl
  have aborted : afterAborted.manifests (manifestPath sampleCycleCrates sampleSoakConfig abortedBatch) =
      some (abortedManifest abortedBatch) := by rw [afterAborted_manifests, Function.update_self]
  have unchanged : afterAborted.disk.ledger = sampleMachine.ledger := rfl
  have passed : (runPreflightChecks sampleCycleCrates sampleSoakConfig (silentBatch "run-2") sampleMachine.ledger).1 =
      .ok () := by decide +kernel
  have opens : (openLedger sampleCycleCrates.ledger (silentBatch "run-2").opening
      (runPreflightChecks sampleCycleCrates sampleSoakConfig (silentBatch "run-2") sampleMachine.ledger).2).isOk = true := by
    decide +kernel
  rw [← unchanged] at passed opens
  obtain ⟨manifest, result⟩ := silent_returns passed opens
  have visited : (afterAborted, .batch sampleSoakConfig (silentBatch "run-2")) ∈
      Run.visits (machineStep sampleCycleCrates sampleSoakText) sampleMachine twoBatches :=
    List.mem_cons_of_mem _ List.mem_cons_self
  have reached : afterAborted ∈ Run.states (machineStep sampleCycleCrates sampleSoakText) sampleMachine twoBatches :=
    List.mem_cons_of_mem _ List.mem_cons_self
  obtain ⟨saved, law⟩ := returned _ visited sampleSoakConfig (silentBatch "run-2") manifest rfl result
  exact ⟨manifest, saved, (kept afterAborted reached _ _ aborted).1, law⟩

end Sample

end SparkRsi.Soak
