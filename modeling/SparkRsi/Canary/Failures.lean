import SparkRsi.Canary.Crashes
import SparkRsi.Shared.Run

set_option autoImplicit false

namespace SparkRsi.Canary

open Shared

def CanaryObservationV2.remeasured (obs : CanaryObservationV2) : CanaryObservationV2 :=
  { obs with elapsedUs := obs.elapsedUs + 1 }

theorem CanaryObservationV2.remeasured_ne (obs : CanaryObservationV2) : obs.remeasured ≠ obs := by
  intro same
  have elapsed : obs.elapsedUs + 1 = obs.elapsedUs := congrArg CanaryObservationV2.elapsedUs same
  have numbers := congrArg UInt64.toNat elapsed
  rw [UInt64.toNat_add] at numbers
  have bound := obs.elapsedUs.toNat_lt
  simp at numbers
  omega

theorem CanaryObservationV2.remeasured_valid {sha : HexHash} {obs : CanaryObservationV2}
    (valid : obs.Valid sha) :
    obs.remeasured.Valid sha :=
  ⟨valid.version, valid.generation, valid.request, valid.requestDigest, valid.workloadDigest, valid.executableDigest,
    valid.hexResult, valid.result, valid.derived⟩

structure OpenLog where
  writer : ObservationLogWriter
  disk : LogDisk
  acknowledged : List LogRecord

def LogAppend.Acceptable (sha : HexHash) (header : LogHeader) (acknowledged : List LogRecord) :
    LogAppend → Prop
  | observation obs => obs.Valid sha ∧ Bound header obs ∧ ∀ other ∈ observationsIn acknowledged,
      other.observationId = obs.observationId → other.digestHex sha = obs.digestHex sha
  | rejection _ _ => True

structure HoldsOnce (acknowledged : List LogRecord) (log : SealedObservationLog) : Prop where
  observations : ∀ obs ∈ observationsIn acknowledged, log.observations.count obs = 1
  rejections : ∀ rejection ∈ rejectionsIn acknowledged,
    log.rejections.count rejection = (rejectionsIn acknowledged).count rejection

namespace OpenLog

variable (crates : LogCrates)

def attempt (state : OpenLog) (attempted : LogIo × LogAppend) : OpenLog :=
  match attempted.2.perform crates attempted.1 state.writer state.disk with
  | (.ok .appended, writer, disk) =>
    { writer, disk, acknowledged := state.acknowledged ++ [attempted.2.record crates] }
  | (_, writer, disk) => { state with writer, disk }

def withBytes (state : OpenLog) (bytes : Bytes) : OpenLog :=
  { state with disk := state.disk.replace (state.disk.file.getD [] ++ bytes) }

def Usable : OpenLog → List LogAppend → Prop
  | state, [] => ∀ sealedAtMs, ∃ log disk,
      state.writer.sealLog crates .calm state.disk sealedAtMs = (.ok log, disk) ∧
        HoldsOnce state.acknowledged log
  | state, call :: rest =>
    (call.Acceptable crates.sha state.writer.header state.acknowledged →
      ∃ outcome, (call.perform crates .calm state.writer state.disk).1 = .ok outcome) ∧
    Usable (state.attempt crates (.calm, call)) rest

def Clean (state : OpenLog) : Prop := Stores crates state.writer state.disk state.acknowledged

def StoresNothing (state : OpenLog) (attempted : LogIo × LogAppend) : Prop :=
  ∀ fault, attempted.1.faults state.disk.earlier.length = some fault →
    fault.stored (attempted.2.record crates).toLine = []

variable {crates} {state : OpenLog} {io : LogIo} {call : LogAppend} {fault : WriteFault}

theorem perform_faulted (writes : call.Writes crates state.writer)
    (faulted : io.faults state.disk.earlier.length = some fault) :
    call.perform crates io state.writer state.disk = (.error fault.message, state.writer,
      state.disk.replace (state.disk.file.getD [] ++ fault.stored (call.record crates).toLine)) := by
  rw [LogAppend.perform_writes writes]
  simp only [writeSynced, faulted]

theorem attempt_faulted (writes : call.Writes crates state.writer)
    (faulted : io.faults state.disk.earlier.length = some fault) :
    state.attempt crates (io, call) = state.withBytes (fault.stored (call.record crates).toLine) := by
  simp only [attempt, perform_faulted writes faulted, withBytes]

theorem attempt_calm (writes : call.Writes crates state.writer) :
    state.attempt crates (.calm, call) =
      { writer := call.remembered crates state.writer
        disk := state.disk.replace (state.disk.file.getD [] ++ (call.record crates).toLine)
        acknowledged := state.acknowledged ++ [call.record crates] } := by
  simp only [attempt, LogAppend.perform_writes writes, writeSynced_calm]

theorem attempt_silent (silent : ¬call.Writes crates state.writer) :
    state.attempt crates (io, call) = state := by
  rcases @LogAppend.perform_silent crates io _ state.disk _ silent with ⟨e, done⟩ | ⟨obs, rfl, done, -⟩ <;>
    simp only [attempt, done]

theorem Clean.attempt (clean : state.Clean crates) (attempted : LogIo × LogAppend)
    (nothing : state.StoresNothing crates attempted) : (state.attempt crates attempted).Clean crates := by
  obtain ⟨io, call⟩ := attempted
  by_cases writes : call.Writes crates state.writer
  · cases faulted : io.faults state.disk.earlier.length with
    | some fault =>
      rw [attempt_faulted writes faulted, nothing fault faulted, withBytes, List.append_nil]
      exact Stores.refile clean (by rw [LogDisk.file_replace, clean.file, Option.getD_some])
    | none =>
      have appended := Stores.append clean writes
      simp only [OpenLog.attempt, LogAppend.perform_writes writes, writeSynced, faulted]
      exact appended
  · rw [attempt_silent writes]
    exact clean

theorem Clean.run (clean : state.Clean crates) (attempts : List (LogIo × LogAppend))
    (nothing : ∀ visit ∈ Run.visits (OpenLog.attempt crates) state attempts, visit.1.StoresNothing crates visit.2) :
    (Run.final (OpenLog.attempt crates) state attempts).Clean crates := by
  induction attempts generalizing state with
  | nil => exact clean
  | cons attempted rest ih =>
    simp only [Run.visits, List.forall_mem_cons] at nothing
    exact ih (clean.attempt attempted nothing.1) nothing.2

theorem Clean.holdsOnce (clean : state.Clean crates) {log : SealedObservationLog}
    (observed : log.observations = observationsIn state.acknowledged)
    (rejected : log.rejections = rejectionsIn state.acknowledged) : HoldsOnce state.acknowledged log := by
  constructor
  · intro obs member
    rw [observed]
    exact List.count_eq_one_of_mem (List.Nodup.of_map _ clean.nodup) member
  · intro rejection _
    rw [rejected]

theorem Clean.accepts (clean : state.Clean crates)
    (acceptable : call.Acceptable crates.sha state.writer.header state.acknowledged) :
    ∃ outcome, (call.perform crates .calm state.writer state.disk).1 = .ok outcome := by
  rcases clean.perform_calm call with ⟨e, done⟩ | ⟨obs, rfl, done, -⟩ | ⟨after, done, -, -⟩
  · exfalso
    by_cases writes : call.Writes crates state.writer
    · rw [LogAppend.perform_writes writes, writeSynced_calm] at done
      cases done
    · cases call with
      | rejection => exact writes trivial
      | observation obs =>
        -- A refused observation is known with another digest, which is not acceptable.
        obtain ⟨valid, bound, agrees⟩ := acceptable
        cases seen : state.writer.seen.lookup obs.observationId with
        | none => exact writes ⟨valid, bound, seen⟩
        | some digest =>
          have known := seen
          rw [clean.seen] at known
          obtain ⟨other, member, id, same⟩ := lookup_seenOf_some known
          rw [agrees other member id] at same
          subst same
          have repeated : state.writer.checkObservation crates obs =
              .ok (.idempotent, obs.digestHex crates.sha) := by
            simp [ObservationLogWriter.checkObservation, CanaryObservationV2.validate_ok.mpr valid,
              checkBindings_ok.mpr bound, seen, refuseIf, bind, Except.bind, pure, Except.pure]
          simp only [LogAppend.perform, ObservationLogWriter.appendObservation, repeated] at done
          cases done
  · exact ⟨_, by rw [done]⟩
  · exact ⟨_, by rw [done]⟩

theorem Clean.usable (clean : state.Clean crates) (later : List LogAppend) : state.Usable crates later := by
  induction later generalizing state with
  | nil =>
    intro sealedAtMs
    obtain ⟨log, sealed, -, observed, rejected, -⟩ := Stores.sealed clean sealedAtMs
    exact ⟨log, _, sealed, clean.holdsOnce observed rejected⟩
  | cons call rest ih =>
    refine ⟨clean.accepts, ih (clean.attempt (.calm, call) ?_)⟩
    rintro fault ⟨⟩

-- What a seal needs of the file.
theorem verified_of_sealLog {writer : ObservationLogWriter} {disk after : LogDisk} {bytes : Bytes}
    {sealedAtMs : UInt64} {log : SealedObservationLog} (file : disk.file = some bytes)
    (sealed : writer.sealLog crates .calm disk sealedAtMs = (.ok log, after)) :
    ∃ sealedBy verified, SealedObservationLog.verifyBytes crates (bytes ++ (LogRecord.sealed sealedBy).toLine) =
      .ok verified := by
  unfold ObservationLogWriter.sealLog at sealed
  cases made : writer.sealFor crates .calm disk sealedAtMs with
  | error e => simp [made] at sealed
  | ok sealedBy =>
    simp only [made, writeSynced_calm, file, Option.getD_some, Prod.mk.injEq] at sealed
    obtain ⟨found, verified, same, read, -⟩ := load_ok sealed.1
    cases same
    exact ⟨sealedBy, verified, read⟩

-- Two records under one id spoil a log.
theorem conflict_not_sealed {writer : ObservationLogWriter} {disk after : LogDisk} {sealedAtMs : UInt64}
    {log : SealedObservationLog} (records : List LogRecord) (first second : CanaryObservationV2)
    (file : disk.file = some (bytesOf records)) (firstIn : first ∈ observationsIn records)
    (secondIn : second ∈ observationsIn records) (id : first.observationId = second.observationId)
    (apart : first.digestHex crates.sha ≠ second.digestHex crates.sha) :
    writer.sealLog crates .calm disk sealedAtMs ≠ (.ok log, after) := by
  intro sealed
  obtain ⟨sealedBy, verified, accepted⟩ := verified_of_sealLog file sealed
  obtain ⟨others, text, held, -⟩ := verifyBytes_ok accepted
  rw [bytesOf_snoc] at text
  have same := bytesOf_injective text
  rw [← (List.append_inj' same rfl).1] at held
  have sound := held.sound
  obtain ⟨one, oneIn, oneId, oneDigest⟩ := sound.covered first firstIn
  obtain ⟨two, twoIn, twoId, twoDigest⟩ := sound.covered second secondIn
  have both : one = two := List.inj_on_of_nodup_map sound.apart oneIn twoIn (oneId.trans (id.trans twoId.symm))
  exact apart (oneDigest.symm.trans (both ▸ twoDigest))

-- A part of a line spoils the log.
theorem torn_not_usable (clean : state.Clean crates) {part : Bytes} (nonempty : part ≠ [])
    (inside : 10 ∉ part) :
    ¬(state.withBytes part).Usable crates [] := by
  intro usable
  obtain ⟨log, after, sealed, -⟩ := usable 0
  have damaged : Damaged (state.withBytes part).disk :=
    ⟨_, part, [], by rw [withBytes, LogDisk.file_replace, clean.file, Option.getD_some, List.append_nil], nonempty,
      inside, .inl rfl⟩
  obtain ⟨e, refused⟩ := @sealLog_damaged crates .calm _ state.writer damaged 0
  exact absurd (refused.symm.trans sealed) (by simp)

-- A rejection stored without an acknowledgement is there twice once it is appended again.
theorem stored_rejection_not_usable (clean : state.Clean crates) {reason : String} {observedAtMs : UInt64}
    (named : call = .rejection reason observedAtMs) :
    ¬(state.withBytes (call.record crates).toLine).Usable crates [call] := by
  subst named
  rintro ⟨-, usable⟩
  have writes : (LogAppend.rejection reason observedAtMs).Writes crates state.writer := trivial
  have stored : Stores crates state.writer _ _ := clean.append writes
  have again : Stores crates state.writer _ _ := stored.append writes
  rw [@attempt_calm crates (state.withBytes _) _ writes] at usable
  obtain ⟨log, after, sealed, once⟩ := usable 0
  obtain ⟨other, sealedAgain, -, -, rejected, -⟩ := again.sealed 0
  have same : log = other := Except.ok.inj (Prod.mk.inj (sealed.symm.trans sealedAgain)).1
  have counted := once.rejections { reason, observedAtMs } (by simp [LogAppend.record, rejectionsIn_rejection])
  have one : (rejectionsIn [LogAppend.record crates (.rejection reason observedAtMs)]).count { reason, observedAtMs } =
      1 := by simp [LogAppend.record, rejectionsIn_rejection]
  rw [same, rejected, withBytes] at counted
  simp only [rejectionsIn_append, List.count_append, one] at counted
  omega

-- An observation stored without an acknowledgement conflicts with the next measurement.
theorem stored_observation_not_usable (clean : state.Clean crates) {obs : CanaryObservationV2}
    (writes : (LogAppend.observation obs).Writes crates state.writer)
    (collisionFree : Set.InjOn crates.sha.hex {obs.recordText, obs.remeasured.recordText}) :
    ¬(state.withBytes ((LogAppend.observation obs).record crates).toLine).Usable crates
      [.observation obs.remeasured] := by
  rintro ⟨-, usable⟩
  have again : (LogAppend.observation obs.remeasured).Writes crates state.writer :=
    ⟨CanaryObservationV2.remeasured_valid writes.1,
      ⟨writes.2.1.generation, writes.2.1.workload, writes.2.1.executable⟩, writes.2.2⟩
  rw [@attempt_calm crates (state.withBytes _) _ again] at usable
  obtain ⟨log, after, sealed, -⟩ := usable 0
  have apart : obs.digestHex crates.sha ≠ obs.remeasured.digestHex crates.sha := by
    intro same
    have text : obs.recordText = obs.remeasured.recordText := collisionFree (.inl rfl) (.inr rfl) same
    exact obs.remeasured_ne (CanaryObservationV2.recordText_injective text).symm
  refine conflict_not_sealed (.header state.writer.header :: state.acknowledged ++
    [(LogAppend.observation obs).record crates] ++ [(LogAppend.observation obs.remeasured).record crates])
    obs obs.remeasured ?_ ?_ ?_ rfl apart sealed
  · rw [LogDisk.file_replace, withBytes, LogDisk.file_replace, Option.getD_some, clean.file, Option.getD_some,
      bytesOf_snoc, bytesOf_snoc]
  · rw [observationsIn_append, observationsIn_append]
    exact List.mem_append_left _ (List.mem_append_right _ List.mem_cons_self)
  · rw [observationsIn_append]
    exact List.mem_append_right _ List.mem_cons_self

theorem stored_cases (fault : WriteFault) (record : LogRecord) :
    fault.stored record.toLine = [] ∨ fault.stored record.toLine = record.toLine ∨
      fault.stored record.toLine ≠ [] ∧ 10 ∉ fault.stored record.toLine := by
  cases fault with
  | refused => exact .inl rfl
  | unsynced => exact .inr (.inl rfl)
  | torn count e =>
    by_cases whole : record.toLine.length ≤ count
    · exact .inr (.inl (List.take_of_length_le whole))
    · have short : count ≤ record.line.length := by
        simp only [LogRecord.toLine, List.length_append, List.length_singleton] at whole
        omega
      by_cases nothing : (WriteFault.torn count e).stored record.toLine = []
      · exact .inl nothing
      · refine .inr (.inr ⟨nothing, ?_⟩)
        rw [WriteFault.stored, LogRecord.toLine, List.take_append_of_le_length short]
        exact fun inside => LogRecord.newline_notMem_line record (List.mem_of_mem_take inside)

-- After a failed write the log is usable when the write stored nothing, and only then.
theorem Clean.usable_iff (clean : state.Clean crates) (writes : call.Writes crates state.writer)
    (collisionFree : ∀ obs, call = .observation obs →
      Set.InjOn crates.sha.hex {obs.recordText, obs.remeasured.recordText}) (fault : WriteFault) :
    (∀ later, (state.withBytes (fault.stored (call.record crates).toLine)).Usable crates later) ↔
      fault.stored (call.record crates).toLine = [] := by
  constructor
  · intro usable
    rcases stored_cases fault (call.record crates) with nothing | whole | ⟨nonempty, inside⟩
    · exact nothing
    · exfalso
      rw [whole] at usable
      cases named : call with
      | rejection reason observedAtMs => exact stored_rejection_not_usable clean named (usable [call])
      | observation obs =>
        rw [named] at usable writes
        exact stored_observation_not_usable clean writes (collisionFree obs named) (usable _)
    · exact absurd (usable []) (torn_not_usable clean nonempty inside)
  · intro nothing later
    have same : (state.withBytes []).Clean crates :=
      Stores.refile clean (by rw [withBytes, LogDisk.file_replace, clean.file, Option.getD_some, List.append_nil])
    rw [nothing]
    exact same.usable later

end OpenLog

/-- While failed writes have stored nothing, a log is usable behind one more failed write exactly when
that write stored nothing either. -/
theorem failed_append_usable_iff (crates : LogCrates) (opened : OpenLog) (clean : opened.Clean crates)
    (attempts : List (LogIo × LogAppend))
    (nothing : ∀ visit ∈ Run.visits (OpenLog.attempt crates) opened attempts, visit.1.StoresNothing crates visit.2)
    (io : LogIo) (call : LogAppend) (fault : WriteFault)
    (faulted : io.faults (Run.final (OpenLog.attempt crates) opened attempts).disk.earlier.length = some fault)
    (writes : call.Writes crates (Run.final (OpenLog.attempt crates) opened attempts).writer)
    (collisionFree : ∀ obs, call = .observation obs →
      Set.InjOn crates.sha.hex {obs.recordText, obs.remeasured.recordText}) :
    (∀ later, ((Run.final (OpenLog.attempt crates) opened attempts).attempt crates (io, call)).Usable crates later) ↔
      fault.stored (call.record crates).toLine = [] := by
  rw [OpenLog.attempt_faulted writes faulted]
  exact (clean.run attempts nothing).usable_iff writes collisionFree fault

section Sample

def refusalLog : OpenLog :=
  { writer := { path := "gen-002.jsonl", header := refusalHeader, seen := [] }
    disk := .found (some (bytesOf [.header refusalHeader])), acknowledged := [] }

theorem refusalLog_clean : refusalLog.Clean standardLogCrates :=
  ⟨rfl, holds_header refusalHeader_valid, rfl⟩

def tornIo : LogIo := .cut 5

theorem refusal_torn_unusable :
    (LogAppend.perform standardLogCrates tornIo refusalLog.writer refusalLog.disk (.rejection "stray frame" 1)).1 =
        .error "cannot append to observation log: stopped" ∧
      ¬(∀ later, (refusalLog.attempt standardLogCrates (tornIo, .rejection "stray frame" 1)).Usable
        standardLogCrates later) := by
  refine ⟨rfl, fun usable => ?_⟩
  have stored : (WriteFault.torn 5 "stopped").stored
      ((LogAppend.rejection "stray frame" 1).record standardLogCrates).toLine = [] := by
    have writes : (LogAppend.rejection "stray frame" 1).Writes standardLogCrates refusalLog.writer := trivial
    have faulted : tornIo.faults refusalLog.disk.earlier.length = some (.torn 5 "stopped") := rfl
    rw [OpenLog.attempt_faulted writes faulted] at usable
    refine (refusalLog_clean.usable_iff writes ?_ _).mp usable
    rintro obs ⟨⟩
  simp only [WriteFault.stored, LogAppend.record, LogRecord.toLine, LogRecord.line,
    canonicalJson_eq] at stored
  revert stored
  decide

theorem failed_append_usable_iff_refused :
    (∀ later, (refusalLog.attempt standardLogCrates
        ({ LogIo.calm with faults := fun _ => some (.refused "disk full") }, .rejection "stray frame" 1)).Usable
          standardLogCrates later) ↔
      (WriteFault.refused "disk full").stored ((LogAppend.rejection "stray frame" 1).record standardLogCrates).toLine =
        [] := by
  refine failed_append_usable_iff standardLogCrates refusalLog refusalLog_clean [] (by simp [Run.visits])
    { LogIo.calm with faults := fun _ => some (.refused "disk full") } (.rejection "stray frame" 1) (.refused "disk full")
    rfl trivial ?_
  rintro obs ⟨⟩

end Sample

end SparkRsi.Canary
