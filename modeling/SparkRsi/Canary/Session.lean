import SparkRsi.Canary.Grammar

set_option autoImplicit false

namespace SparkRsi.Canary

open Shared

inductive LogAppend where
  | observation (obs : CanaryObservationV2)
  | rejection (reason : String) (observedAtMs : UInt64)
  deriving DecidableEq

namespace LogAppend

variable (crates : LogCrates)

def perform (io : LogIo) (writer : ObservationLogWriter) (disk : LogDisk) :
    LogAppend → Except String AppendOutcome × ObservationLogWriter × LogDisk
  | observation obs => writer.appendObservation crates io disk obs
  | rejection reason observedAtMs =>
    match appendRejection io disk reason observedAtMs with
    | (.error e, disk) => (.error e, writer, disk)
    | (.ok (), disk) => (.ok .appended, writer, disk)

def record : LogAppend → LogRecord
  | observation obs => .observation ⟨obs, obs.digestHex crates.sha⟩
  | rejection reason observedAtMs => .rejection { reason, observedAtMs }

def Writes (writer : ObservationLogWriter) : LogAppend → Prop
  | observation obs => obs.Valid crates.sha ∧ Bound writer.header obs ∧
      writer.seen.lookup obs.observationId = none
  | rejection _ _ => True

instance (writer : ObservationLogWriter) (call : LogAppend) : Decidable (call.Writes crates writer) := by
  cases call with
  | rejection => exact .isTrue trivial
  | observation obs =>
    exact decidable_of_iff (obs.validate crates.sha = .ok () ∧ checkBindings writer.header obs = .ok () ∧
      writer.seen.lookup obs.observationId = none)
      (by rw [CanaryObservationV2.validate_ok, checkBindings_ok]; rfl)

def remembered (writer : ObservationLogWriter) : LogAppend → ObservationLogWriter
  | observation obs => { writer with seen := writer.seen ++ [(obs.observationId, obs.digestHex crates.sha)] }
  | rejection _ _ => writer

variable {crates} {io : LogIo} {writer : ObservationLogWriter} {disk : LogDisk} {call : LogAppend}

theorem remembered_header : (call.remembered crates writer).header = writer.header := by cases call <;> rfl

theorem perform_writes (writes : call.Writes crates writer) :
    call.perform crates io writer disk = match writeSynced io disk (call.record crates).toLine with
      | (.error e, disk) => (.error e, writer, disk)
      | (.ok (), disk) => (.ok .appended, call.remembered crates writer, disk) := by
  cases call with
  | rejection reason observedAtMs => rfl
  | observation obs =>
    obtain ⟨valid, bound, fresh⟩ := writes
    simp only [perform, ObservationLogWriter.appendObservation, checkObservation_fresh valid bound fresh]
    rfl

-- Without a write nothing changes, and only a repeated observation is acknowledged.
theorem perform_silent (silent : ¬call.Writes crates writer) :
    (∃ e, call.perform crates io writer disk = (.error e, writer, disk)) ∨
      ∃ obs, call = .observation obs ∧ call.perform crates io writer disk = (.ok .idempotent, writer, disk) ∧
        writer.seen.lookup obs.observationId = some (obs.digestHex crates.sha) := by
  cases call with
  | rejection => exact absurd trivial silent
  | observation obs =>
    simp only [perform, ObservationLogWriter.appendObservation]
    cases checked : writer.checkObservation crates obs with
    | error e => exact .inl ⟨e, rfl⟩
    | ok result =>
      obtain ⟨outcome, digest⟩ := result
      obtain ⟨valid, bound, rfl, ⟨rfl, fresh⟩ | ⟨rfl, seen⟩⟩ := checkObservation_ok checked
      · exact absurd ⟨valid, bound, fresh⟩ silent
      · exact .inr ⟨obs, rfl, rfl, seen⟩

end LogAppend

def LogRecord.rejection? : LogRecord → Option LogRejection
  | .rejection record => some record
  | _ => none

def rejectionsIn (records : List LogRecord) : List LogRejection := records.filterMap LogRecord.rejection?

@[simp] theorem rejectionsIn_append (first second : List LogRecord) :
    rejectionsIn (first ++ second) = rejectionsIn first ++ rejectionsIn second := by
  simp [rejectionsIn]

theorem observationsIn_observation (record : LogObservation) :
    observationsIn [.observation record] = [record.observation] :=
  rfl

theorem observationsIn_rejection (record : LogRejection) : observationsIn [.rejection record] = [] := rfl

theorem rejectionsIn_observation (record : LogObservation) : rejectionsIn [.observation record] = [] := rfl

theorem rejectionsIn_rejection (record : LogRejection) : rejectionsIn [.rejection record] = [record] := rfl

variable (crates : LogCrates)

/-- The log on disk is unsealed, holds these records behind its header, and the writer remembers them. -/
structure Stores (writer : ObservationLogWriter) (disk : LogDisk) (records : List LogRecord) : Prop where
  file : disk.file = some (bytesOf (.header writer.header :: records))
  held : Holds crates writer.header (.header writer.header :: records) (observationsIn records) (rejectionsIn records)
  seen : writer.seen = seenOf crates.sha (observationsIn records)

variable {crates} {io : LogIo} {writer : ObservationLogWriter} {disk : LogDisk} {call : LogAppend}
  {records : List LogRecord}

theorem Stores.append_held (stores : Stores crates writer disk records) (writes : call.Writes crates writer) :
    Holds crates writer.header (.header writer.header :: (records ++ [call.record crates]))
      (observationsIn (records ++ [call.record crates])) (rejectionsIn (records ++ [call.record crates])) := by
  rw [observationsIn_append, rejectionsIn_append]
  cases call with
  | rejection reason observedAtMs =>
    have held := stores.held.rejection { reason, observedAtMs }
    simpa only [LogAppend.record, observationsIn_rejection, rejectionsIn_rejection, List.append_nil,
      List.cons_append] using held
  | observation obs =>
    obtain ⟨valid, bound, fresh⟩ := writes
    rw [stores.seen] at fresh
    have held := stores.held.observation valid bound (lookup_seenOf_none.mp fresh)
    simpa only [LogAppend.record, observationsIn_observation, rejectionsIn_observation, List.append_nil,
      List.cons_append] using held

theorem Stores.append_seen (stores : Stores crates writer disk records) :
    (call.remembered crates writer).seen =
      seenOf crates.sha (observationsIn (records ++ [call.record crates])) := by
  rw [observationsIn_append]
  cases call with
  | rejection =>
    simpa only [LogAppend.remembered, LogAppend.record, observationsIn_rejection,
      List.append_nil] using stores.seen
  | observation obs =>
    simp [LogAppend.remembered, LogAppend.record, observationsIn_observation, stores.seen, seenOf]

-- The writer that synced the line, over the file with the line.
theorem Stores.append (stores : Stores crates writer disk records) (writes : call.Writes crates writer) :
    Stores crates (call.remembered crates writer)
      (disk.replace (disk.file.getD [] ++ (call.record crates).toLine)) (records ++ [call.record crates]) := by
  have header : (call.remembered crates writer).header = writer.header := LogAppend.remembered_header
  refine ⟨?_, ?_, stores.append_seen⟩
  · rw [header, stores.file, Option.getD_some, bytesOf_snoc]
    rfl
  · rw [header]
    exact stores.append_held writes

-- The same file under another history.
theorem Stores.refile (stores : Stores crates writer disk records) {after : LogDisk}
    (same : after.file = disk.file) : Stores crates writer after records :=
  ⟨same.trans stores.file, stores.held, stores.seen⟩

theorem writeSynced_calm (disk : LogDisk) (line : Bytes) :
    writeSynced .calm disk line = (.ok (), disk.replace (disk.file.getD [] ++ line)) := rfl

-- A call on a working disk: it is refused, repeats a stored observation, or stores its record.
theorem Stores.perform_calm (stores : Stores crates writer disk records) (call : LogAppend) :
    (∃ e, call.perform crates .calm writer disk = (.error e, writer, disk)) ∨
    (∃ obs, call = .observation obs ∧ call.perform crates .calm writer disk = (.ok .idempotent, writer, disk) ∧
      ∃ stored ∈ observationsIn records, stored.observationId = obs.observationId ∧
        stored.digestHex crates.sha = obs.digestHex crates.sha) ∨
    ∃ after, call.perform crates .calm writer disk = (.ok .appended, call.remembered crates writer, after) ∧
      call.Writes crates writer ∧
      Stores crates (call.remembered crates writer) after (records ++ [call.record crates]) := by
  by_cases writes : call.Writes crates writer
  · refine .inr (.inr ⟨_, ?_, writes, stores.append writes⟩)
    rw [LogAppend.perform_writes writes, writeSynced_calm]
  · rcases @LogAppend.perform_silent crates .calm writer disk call writes with refused | ⟨obs, rfl, done, seen⟩
    · exact .inl refused
    · rw [stores.seen] at seen
      exact .inr (.inl ⟨obs, rfl, done, lookup_seenOf_some seen⟩)

theorem Stores.nodup (stores : Stores crates writer disk records) :
    ((observationsIn records).map CanaryObservationV2.observationId).Nodup := stores.held.sound.apart

-- Sealing an open log on a working disk.
theorem Stores.sealed (stores : Stores crates writer disk records) (sealedAtMs : UInt64) :
    ∃ log, writer.sealLog crates .calm disk sealedAtMs =
        (.ok log, disk.replace (bytesOf (.header writer.header :: (records ++ [.sealed log.sealedBy])))) ∧
      log.header = writer.header ∧ log.observations = observationsIn records ∧
      log.rejections = rejectionsIn records ∧
      Seals crates (.header writer.header :: records) log.observations log.sealedBy := by
  have sealed := sealLog_calm stores.file stores.held sealedAtMs rfl
  exact ⟨_, sealed, rfl, rfl, rfl, rfl, rfl, rfl⟩

theorem Holds.parseLog_tail {header : LogHeader} {observations : List CanaryObservationV2}
    {rejections : List LogRejection} (held : Holds crates header records observations rejections)
    (tail : Bytes) (inside : 10 ∉ tail) :
    Canary.parseLog crates (bytesOf records ++ tail) = .ok
      { header := some header, observations, rejections, sealAt := none
        completeEnd := (bytesOf records).length, partialTail := decide (tail ≠ []) } :=
  (parseLog_bytesOf records tail inside _).mpr ⟨_, held, by simp, rfl⟩

-- A reopened log: the complete lines stay, what a stopped write left behind them goes.
theorem reopen_calm {path : String} {header : LogHeader} {tail : Bytes}
    (file : disk.file = some (bytesOf (.header header :: records) ++ tail)) (inside : 10 ∉ tail)
    (held : Holds crates header (.header header :: records) (observationsIn records) (rejectionsIn records)) :
    ∃ writer after, ObservationLogWriter.reopen crates .calm disk path header = (.ok writer, after) ∧
      writer.header = header ∧ writer.path = path ∧ Stores crates writer after records := by
  obtain ⟨-, -, opened, -⟩ := held.shape
  obtain ⟨parsed, read, named, unsealed, taken, ends, complete⟩ : ∃ parsed,
      parseLog crates (bytesOf (.header header :: records) ++ tail) = .ok parsed ∧ parsed.header = some header ∧
        parsed.sealAt = none ∧ parsed.observations = observationsIn records ∧
        parsed.completeEnd = (bytesOf (.header header :: records)).length ∧ parsed.partialTail = decide (tail ≠ []) :=
    ⟨_, held.parseLog_tail tail inside, by simp only [and_self]⟩
  have reopened : ObservationLogWriter.reopenable crates .calm disk path header =
      .ok (bytesOf (.header header :: records) ++ tail, parsed) := by
    simp [ObservationLogWriter.reopenable, opened, readLog, LogIo.calm, file, okOr, read, named, unsealed,
      refuseIf, faulty, Except.mapError, bind, Except.bind, pure, Except.pure]
  simp only [ObservationLogWriter.reopen, reopened]
  refine ⟨_, _, rfl, rfl, rfl, ?_, held, by rw [taken]⟩
  by_cases whole : tail = []
  · simpa [complete, whole] using file
  · simp [complete, whole, ends]

end SparkRsi.Canary
