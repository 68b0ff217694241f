import SparkRsi.Canary.Log

set_option autoImplicit false

namespace SparkRsi.Canary

open Shared

/-- A write that failed: nothing, a part, or all of the line reached the file. -/
inductive WriteFault where
  | refused (error : String)
  | torn (stored : Nat) (error : String)
  | unsynced (error : String)

namespace WriteFault

def stored (line : Bytes) : WriteFault → Bytes
  | refused _ => []
  | torn count _ => line.take count
  | unsynced _ => line

def message : WriteFault → String
  | refused e => s!"cannot append to observation log: {e}"
  | torn _ e => s!"cannot append to observation log: {e}"
  | unsynced e => s!"cannot sync observation log: {e}"

end WriteFault

structure LogIo where
  openFault : Option String
  readFault : Option String
  faults : Nat → Option WriteFault

def LogIo.Whole (io : LogIo) : Prop := ∀ change stored e, io.faults change ≠ some (.torn stored e)

/-- The log file (`none` when there is none) and everything it has been, newest first. -/
structure LogDisk where
  file : Option Bytes
  earlier : List (Option Bytes)

namespace LogDisk

def found (file : Option Bytes) : LogDisk := { file, earlier := [] }

def moments (disk : LogDisk) : List (Option Bytes) := disk.file :: disk.earlier

def replace (disk : LogDisk) (bytes : Bytes) : LogDisk := { file := some bytes, earlier := disk.moments }

@[simp] theorem moments_replace (disk : LogDisk) (bytes : Bytes) :
    (disk.replace bytes).moments = some bytes :: disk.moments := rfl

@[simp] theorem file_replace (disk : LogDisk) (bytes : Bytes) : (disk.replace bytes).file = some bytes := rfl

end LogDisk

def writeSynced (io : LogIo) (disk : LogDisk) (line : Bytes) : Except String Unit × LogDisk :=
  let before := disk.file.getD []
  match io.faults disk.earlier.length with
  | none => (.ok (), disk.replace (before ++ line))
  | some fault => (.error fault.message, disk.replace (before ++ fault.stored line))

structure ObservationLogWriter where
  path : String
  header : LogHeader
  seen : List (String × String)

inductive AppendOutcome where
  | appended
  | idempotent
  deriving DecidableEq

structure SealedObservationLog where
  path : Option String
  header : LogHeader
  observations : List CanaryObservationV2
  rejections : List LogRejection
  sealedBy : LogSeal

section Operations

variable (crates : LogCrates)

def readLog (fault : Option String) (disk : LogDisk) (cannot path : String) : Except String Bytes :=
  match fault with
  | some e => .error s!"{cannot} {crates.debug path}: {e}"
  | none => okOr s!"{cannot} {crates.debug path}: No such file or directory (os error 2)" disk.file

namespace ObservationLogWriter

def create (io : LogIo) (disk : LogDisk) (path : String) (header : LogHeader) :
    Except String ObservationLogWriter × LogDisk :=
  let opened : Except String Unit := do
    header.validate
    (faulty io.openFault).mapError fun e => s!"cannot create observation log {crates.debug path}: {e}"
    refuseIf (disk.file.isSome = true)
      s!"cannot create observation log {crates.debug path}: File exists (os error 17)"
  match opened with
  | .error e => (.error e, disk)
  | .ok () =>
    match writeSynced io (disk.replace []) (LogRecord.header header).toLine with
    | (.error e, disk) => (.error e, disk)
    | (.ok (), disk) => (.ok { path, header, seen := [] }, disk)

def reopenable (io : LogIo) (disk : LogDisk) (path : String) (expected : LogHeader) :
    Except String (Bytes × Parsed) := do
  expected.validate
  let bytes ← readLog crates io.readFault disk "cannot read observation log" path
  let parsed ← parseLog crates bytes
  let header ← okOr s!"observation log {crates.debug path} has no header" parsed.header
  refuseIf (header ≠ expected)
    s!"observation log {crates.debug path} was opened for generation {header.generationId} with other bindings; refusing"
  refuseIf (parsed.sealAt.isSome = true)
    s!"observation log {crates.debug path} is already sealed; a sealed log is never reopened"
  (faulty io.openFault).mapError fun e => s!"cannot open observation log {crates.debug path}: {e}"
  return (bytes, parsed)

def reopen (io : LogIo) (disk : LogDisk) (path : String) (expected : LogHeader) :
    Except String ObservationLogWriter × LogDisk :=
  match reopenable crates io disk path expected with
  | .error e => (.error e, disk)
  | .ok (bytes, parsed) =>
    (.ok { path, header := expected, seen := seenOf crates.sha parsed.observations },
      if parsed.partialTail then disk.replace (bytes.take parsed.completeEnd) else disk)

variable (writer : ObservationLogWriter)

def contains (observationId : String) : Bool := (writer.seen.lookup observationId).isSome

def checkObservation (obs : CanaryObservationV2) : Except String (AppendOutcome × String) := do
  obs.validate crates.sha
  checkBindings writer.header obs
  let digest := obs.digestHex crates.sha
  match writer.seen.lookup obs.observationId with
  | none => return (.appended, digest)
  | some previous =>
    refuseIf (previous ≠ digest) s!"observation id {obs.observationId} conflicts with a different record"
    return (.idempotent, digest)

def appendObservation (io : LogIo) (disk : LogDisk) (obs : CanaryObservationV2) :
    Except String AppendOutcome × ObservationLogWriter × LogDisk :=
  match writer.checkObservation crates obs with
  | .error e => (.error e, writer, disk)
  | .ok (.idempotent, _) => (.ok .idempotent, writer, disk)
  | .ok (.appended, digest) =>
    match writeSynced io disk (LogRecord.observation ⟨obs, digest⟩).toLine with
    | (.error e, disk) => (.error e, writer, disk)
    | (.ok (), disk) =>
      (.ok .appended, { writer with seen := writer.seen ++ [(obs.observationId, digest)] }, disk)

end ObservationLogWriter

def appendRejection (io : LogIo) (disk : LogDisk) (reason : String) (observedAtMs : UInt64) :
    Except String Unit × LogDisk :=
  writeSynced io disk (LogRecord.rejection { reason, observedAtMs }).toLine

def logDigestOf (bytesBeforeSeal : Bytes) : String :=
  domainDigest crates.sha "spark-rsi/canary-observation-log/v1" [bytesBeforeSeal]

def qualifying (observations : List CanaryObservationV2) : UInt64 :=
  UInt64.ofNat (observations.filter CanaryObservationV2.isQualifying).length

def SealedObservationLog.verifyBytes (bytes : Bytes) : Except String SealedObservationLog := do
  let parsed ← parseLog crates bytes
  let header ← okOr "observation log has no header" parsed.header
  let (sealedBy, sealStart) ← okOr "observation log is not sealed" parsed.sealAt
  refuseIf (parsed.partialTail = true ∨ parsed.completeEnd ≠ bytes.length)
    "observation log has bytes after the seal"
  let expected := logDigestOf crates (bytes.take sealStart)
  refuseIf (sealedBy.logDigest ≠ expected)
    s!"observation log seal digest {sealedBy.logDigest} does not match the log bytes ({expected})"
  refuseIf (sealedBy.observationCount ≠ UInt64.ofNat parsed.observations.length)
    s!"observation log seal counts {sealedBy.observationCount} observations, log holds {parsed.observations.length}"
  refuseIf (sealedBy.qualifyingCount ≠ qualifying parsed.observations)
    s!"observation log seal counts {sealedBy.qualifyingCount} qualifying observations, log holds {qualifying parsed.observations}"
  return { path := none, header, observations := parsed.observations, rejections := parsed.rejections, sealedBy }

def SealedObservationLog.load (fault : Option String) (disk : LogDisk) (path : String) :
    Except String SealedObservationLog := do
  let bytes ← readLog crates fault disk "cannot read observation log" path
  let loaded ← SealedObservationLog.verifyBytes crates bytes
  return { loaded with path := some path }

namespace ObservationLogWriter

variable (writer : ObservationLogWriter)

def sealFor (io : LogIo) (disk : LogDisk) (sealedAtMs : UInt64) : Except String LogSeal := do
  let bytes ← readLog crates io.readFault disk "cannot re-read observation log" writer.path
  let parsed ← parseLog crates bytes
  refuseIf (parsed.sealAt.isSome = true) s!"observation log {crates.debug writer.path} is already sealed"
  refuseIf (parsed.partialTail = true)
    s!"observation log {crates.debug writer.path} ends in a partial record; refusing to seal"
  return { observationCount := UInt64.ofNat parsed.observations.length
           qualifyingCount := qualifying parsed.observations
           logDigest := logDigestOf crates bytes
           sealedAtMs }

def sealLog (io : LogIo) (disk : LogDisk) (sealedAtMs : UInt64) :
    Except String SealedObservationLog × LogDisk :=
  match writer.sealFor crates io disk sealedAtMs with
  | .error e => (.error e, disk)
  | .ok sealedBy =>
    match writeSynced io disk (LogRecord.sealed sealedBy).toLine with
    | (.error e, disk) => (.error e, disk)
    | (.ok (), disk) => (SealedObservationLog.load crates io.readFault disk writer.path, disk)

end ObservationLogWriter

end Operations

section Effects

variable (crates : LogCrates)

def Shows (header : LogHeader) (lines observations : List CanaryObservationV2) (content : Option Bytes) :
    Prop :=
  ∃ records rejections, content = some (bytesOf records) ∧ observationsIn records = lines ∧
    Holds crates header records observations rejections

def ShowsSealed (header : LogHeader) (lines observations : List CanaryObservationV2)
    (content : Option Bytes) :
    Prop :=
  ∃ records rejections sealedBy, content = some (bytesOf (records ++ [.sealed sealedBy])) ∧
    observationsIn records = lines ∧ Holds crates header records observations rejections

def Damaged (disk : LogDisk) : Prop :=
  ∃ records part rest, disk.file = some (bytesOf records ++ part ++ rest) ∧ part ≠ [] ∧ 10 ∉ part ∧
    (rest = [] ∨ ∃ record : LogRecord, ∃ more, rest = record.toLine ++ more)

def Torn (io : LogIo) (disk : LogDisk) : Prop := ¬io.Whole ∧ Damaged disk

/-- The writer remembers the observations of the unsealed log on disk. -/
structure Agrees (writer : ObservationLogWriter) (disk : LogDisk)
    (lines observations : List CanaryObservationV2) : Prop where
  shows : Shows crates writer.header lines observations disk.file
  seen : writer.seen = seenOf crates.sha observations

structure Kept (writer : ObservationLogWriter) (lines observations : List CanaryObservationV2)
    (before after : LogDisk) : Prop where
  agrees : Agrees crates writer after lines observations
  moments : ∀ content ∈ after.moments, content ∈ before.moments ∨
    Shows crates writer.header lines observations content

variable {crates} {io : LogIo} {disk : LogDisk} {header : LogHeader} {writer : ObservationLogWriter}
  {lines observations : List CanaryObservationV2}

theorem Kept.refl (agrees : Agrees crates writer disk lines observations) :
    Kept crates writer lines observations disk disk :=
  ⟨agrees, fun _ member => .inl member⟩

theorem Kept.trans {middle after : LogDisk} (first : Kept crates writer lines observations disk middle)
    (second : Kept crates writer lines observations middle after) :
    Kept crates writer lines observations disk after := by
  refine ⟨second.agrees, fun content member => ?_⟩
  rcases second.moments content member with old | new
  · exact first.moments content old
  · exact .inr new

theorem Kept.replace {bytes : Bytes} (seen : writer.seen = seenOf crates.sha observations)
    (shows : Shows crates writer.header lines observations (some bytes)) :
    Kept crates writer lines observations disk (disk.replace bytes) := by
  refine ⟨⟨shows, seen⟩, fun content member => ?_⟩
  rcases List.mem_cons.mp member with rfl | old
  · exact .inr shows
  · exact .inl old

variable (io disk) in
-- A write ends the history with the old bytes, with the line behind them, or with a part of it.
theorem writeSynced_cases (record : LogRecord) :
    ∃ after, writeSynced io disk record.toLine = ((writeSynced io disk record.toLine).1, disk.replace after) ∧
      (after = disk.file.getD [] ++ record.toLine ∨
        (∃ e, (writeSynced io disk record.toLine).1 = .error e) ∧
          (after = disk.file.getD [] ∨
            ¬io.Whole ∧ ∃ part, after = disk.file.getD [] ++ part ∧ part ≠ [] ∧ 10 ∉ part)) := by
  unfold writeSynced
  dsimp only
  cases here : io.faults disk.earlier.length with
  | none => exact ⟨_, rfl, .inl rfl⟩
  | some fault =>
    refine ⟨_, rfl, ?_⟩
    cases fault with
    | refused e => exact .inr ⟨⟨_, rfl⟩, .inl (List.append_nil _)⟩
    | unsynced e => exact .inl rfl
    | torn stored e =>
      by_cases nothing : stored = 0
      · exact .inr ⟨⟨_, rfl⟩, .inl (by simp [WriteFault.stored, nothing])⟩
      · by_cases all : record.toLine.length ≤ stored
        · exact .inl (by simp [WriteFault.stored, List.take_of_length_le all])
        · have short : stored ≤ record.line.length := by
            simp only [LogRecord.toLine, List.length_append, List.length_singleton] at all
            omega
          refine .inr ⟨⟨_, rfl⟩, .inr ⟨fun whole => whole _ stored e here, record.toLine.take stored, rfl, ?_, ?_⟩⟩
          · simp [LogRecord.toLine, nothing]
          · rw [LogRecord.toLine, List.take_append_of_le_length short]
            exact fun inside => LogRecord.newline_notMem_line record (List.mem_of_mem_take inside)

theorem bytesOf_snoc (records : List LogRecord) (record : LogRecord) :
    bytesOf records ++ record.toLine = bytesOf (records ++ [record]) := by
  simp [bytesOf]

variable (io) in
-- Whatever is written to a damaged log leaves it damaged.
theorem writeSynced_damaged (damaged : Damaged disk) (record : LogRecord) :
    Damaged (writeSynced io disk record.toLine).2 := by
  obtain ⟨records, part, rest, file, nonempty, inside, behind⟩ := damaged
  obtain ⟨after, written, here⟩ := writeSynced_cases io disk record
  rw [written]
  simp only [file, Option.getD_some] at here
  rcases here with rfl | ⟨-, rfl | ⟨-, more, rfl, -, clean⟩⟩
  · rcases behind with rfl | ⟨first, more, rfl⟩
    · exact ⟨records, part, record.toLine, by simp, nonempty, inside, .inr ⟨record, [], by simp⟩⟩
    · exact ⟨records, part, first.toLine ++ (more ++ record.toLine), by simp, nonempty, inside,
        .inr ⟨first, _, rfl⟩⟩
  · exact ⟨records, part, rest, rfl, nonempty, inside, behind⟩
  · rcases behind with rfl | ⟨first, later, rfl⟩
    · exact ⟨records, part ++ more, [], by simp, by simp [nonempty], by simp [inside, clean], .inl rfl⟩
    · exact ⟨records, part, first.toLine ++ (later ++ more), by simp, nonempty, inside, .inr ⟨first, _, rfl⟩⟩

variable (io) in
/-- One line at the end of an open log: it is there, the write failed without a trace,
or it tore the log. -/
theorem writeSynced_open {records : List LogRecord} (file : disk.file = some (bytesOf records))
    (record : LogRecord) :
    ∃ after, writeSynced io disk record.toLine = ((writeSynced io disk record.toLine).1, disk.replace after) ∧
      (after = bytesOf (records ++ [record]) ∨
        (∃ e, (writeSynced io disk record.toLine).1 = .error e) ∧
          (after = bytesOf records ∨ Torn io (disk.replace after))) := by
  obtain ⟨after, written, here⟩ := writeSynced_cases io disk record
  simp only [file, Option.getD_some, bytesOf_snoc] at here
  refine ⟨after, written, here.imp_right fun ⟨failed, here⟩ => ⟨failed, here.imp_right ?_⟩⟩
  rintro ⟨torn, part, rfl, nonempty, inside⟩
  exact ⟨torn, records, part, [], by simp, nonempty, inside, .inl rfl⟩

-- A rejection, written or not, leaves the observations as they are.
theorem appendRejection_kept (agrees : Agrees crates writer disk lines observations) (reason : String)
    (observedAtMs : UInt64) :
    Kept crates writer lines observations disk (appendRejection io disk reason observedAtMs).2 ∨
      Torn io (appendRejection io disk reason observedAtMs).2 := by
  obtain ⟨records, rejections, file, rfl, held⟩ := agrees.shows
  obtain ⟨after, written, here⟩ := writeSynced_open io file (.rejection { reason, observedAtMs })
  have moved : (appendRejection io disk reason observedAtMs).2 = disk.replace after :=
    congrArg Prod.snd written
  rw [moved]
  rcases here with rfl | ⟨-, rfl | torn⟩
  · refine .inl (Kept.replace agrees.seen ⟨_, _, rfl, ?_, held.rejection { reason, observedAtMs }⟩)
    simp [observationsIn, LogRecord.observation?]
  · exact .inl (Kept.replace agrees.seen ⟨_, _, rfl, rfl, held⟩)
  · exact .inr torn

-- The writer contains the ids of the observations in the log.
theorem Agrees.contains (agrees : Agrees crates writer disk lines observations) {id : String} :
    writer.contains id = true ↔ id ∈ observations.map CanaryObservationV2.observationId := by
  have absent : writer.seen.lookup id = none ↔ ∀ obs ∈ observations, obs.observationId ≠ id := by
    rw [agrees.seen, lookup_seenOf_none]
  rw [ObservationLogWriter.contains, Option.isSome_iff_ne_none, ne_eq, absent]
  simp

theorem appendRejection_damaged (damaged : Damaged disk) (reason : String) (observedAtMs : UInt64) :
    Damaged (appendRejection io disk reason observedAtMs).2 :=
  writeSynced_damaged io damaged _

theorem checkObservation_ok {obs : CanaryObservationV2} {outcome : AppendOutcome} {digest : String}
    (checked : writer.checkObservation crates obs = .ok (outcome, digest)) :
    obs.Valid crates.sha ∧ Bound writer.header obs ∧ digest = obs.digestHex crates.sha ∧
      (outcome = .appended ∧ writer.seen.lookup obs.observationId = none ∨
        outcome = .idempotent ∧ writer.seen.lookup obs.observationId = some digest) := by
  simp only [ObservationLogWriter.checkObservation, bind_eq_ok, exists_unit, CanaryObservationV2.validate_ok,
    checkBindings_ok] at checked
  obtain ⟨valid, bound, checked⟩ := checked
  refine ⟨valid, bound, ?_⟩
  split at checked
  next unseen =>
    cases checked
    exact ⟨rfl, .inl ⟨rfl, unseen⟩⟩
  next previous seen =>
    simp only [bind_eq_ok, exists_unit, refuseIf_eq_ok, Decidable.not_not] at checked
    obtain ⟨rfl, ⟨⟩⟩ := checked
    exact ⟨rfl, .inr ⟨rfl, seen⟩⟩

theorem checkObservation_fresh {obs : CanaryObservationV2} (valid : obs.Valid crates.sha)
    (bound : Bound writer.header obs) (fresh : writer.seen.lookup obs.observationId = none) :
    writer.checkObservation crates obs = .ok (.appended, obs.digestHex crates.sha) := by
  simp only [ObservationLogWriter.checkObservation, CanaryObservationV2.validate_ok.mpr valid,
    checkBindings_ok.mpr bound, fresh]
  rfl

variable (crates io writer disk lines observations) in
inductive Appended (obs : CanaryObservationV2) :
    Except String AppendOutcome × ObservationLogWriter × LogDisk → Prop where
  | unwritten (e : String) (after : LogDisk) (kept : Kept crates writer lines observations disk after) :
      Appended obs (.error e, writer, after)
  | unsynced (e : String) (after : Bytes)
      (shows : Shows crates writer.header (lines ++ [obs]) (observations ++ [obs]) (some after)) :
      Appended obs (.error e, writer, disk.replace after)
  | torn (e : String) (after : LogDisk) (torn : Torn io after) : Appended obs (.error e, writer, after)
  | repeated (other : CanaryObservationV2) (member : other ∈ observations)
      (id : other.observationId = obs.observationId) : Appended obs (.ok .idempotent, writer, disk)
  | stored (after : Bytes) (next : ObservationLogWriter) (path : next.path = writer.path)
      (header : next.header = writer.header)
      (agrees : Agrees crates next (disk.replace after) (lines ++ [obs]) (observations ++ [obs])) :
      Appended obs (.ok .appended, next, disk.replace after)

variable (io) in
theorem appendObservation_cases (agrees : Agrees crates writer disk lines observations)
    (obs : CanaryObservationV2) :
    Appended crates io disk writer lines observations obs (writer.appendObservation crates io disk obs) := by
  obtain ⟨records, rejections, file, rfl, held⟩ := agrees.shows
  unfold ObservationLogWriter.appendObservation
  cases checked : writer.checkObservation crates obs with
  | error e => exact .unwritten e disk (Kept.refl agrees)
  | ok result =>
    obtain ⟨outcome, digest⟩ := result
    obtain ⟨valid, bound, rfl, ⟨rfl, unseen⟩ | ⟨rfl, seen⟩⟩ := checkObservation_ok checked
    · rw [agrees.seen] at unseen
      have stored := held.observation valid bound (lookup_seenOf_none.mp unseen)
      have shows : Shows crates writer.header (observationsIn records ++ [obs]) (observations ++ [obs])
          (some (bytesOf (records ++ [.observation ⟨obs, obs.digestHex crates.sha⟩]))) :=
        ⟨_, _, rfl, by simp [observationsIn, LogRecord.observation?], stored⟩
      obtain ⟨after, written, here⟩ := writeSynced_open io file
        (.observation ⟨obs, obs.digestHex crates.sha⟩)
      dsimp only
      rw [written]
      cases outcome : (writeSynced io disk (LogRecord.observation ⟨obs, obs.digestHex crates.sha⟩).toLine).1 with
      | error e =>
        rcases here with rfl | ⟨-, rfl | torn⟩
        · exact .unsynced e _ shows
        · exact .unwritten e _ (Kept.replace agrees.seen ⟨_, _, rfl, rfl, held⟩)
        · exact .torn e _ torn
      | ok u =>
        rcases here with rfl | ⟨⟨e, failed⟩, -⟩
        · have seen : writer.seen ++ [(obs.observationId, obs.digestHex crates.sha)] =
              seenOf crates.sha (observations ++ [obs]) := by
            simp [agrees.seen, seenOf]
          exact .stored _ _ rfl rfl ⟨shows, seen⟩
        · rw [outcome] at failed
          cases failed
    · rw [agrees.seen] at seen
      obtain ⟨other, member, id, -⟩ := lookup_seenOf_some seen
      exact .repeated other member id

theorem appendObservation_damaged (damaged : Damaged disk) (obs : CanaryObservationV2) :
    Damaged (writer.appendObservation crates io disk obs).2.2 := by
  unfold ObservationLogWriter.appendObservation
  cases writer.checkObservation crates obs with
  | error e => exact damaged
  | ok result =>
    obtain ⟨outcome, digest⟩ := result
    cases outcome with
    | idempotent => exact damaged
    | appended =>
      have spoiled := writeSynced_damaged io damaged (.observation ⟨obs, digest⟩)
      dsimp only
      generalize writeSynced io disk (LogRecord.observation ⟨obs, digest⟩).toLine = written at spoiled ⊢
      obtain ⟨result, after⟩ := written
      cases result <;> exact spoiled

theorem readLog_ok {fault : Option String} {cannot path : String} {bytes : Bytes}
    (found : readLog crates fault disk cannot path = .ok bytes) : disk.file = some bytes := by
  unfold readLog at found
  split at found
  · cases found
  · exact okOr_eq_ok.mp found

structure Seals (crates : LogCrates) (records : List LogRecord) (observations : List CanaryObservationV2)
    (sealedBy : LogSeal) : Prop where
  digest : sealedBy.logDigest = logDigestOf crates (bytesOf records)
  observed : sealedBy.observationCount = UInt64.ofNat observations.length
  qualified : sealedBy.qualifyingCount = qualifying observations

theorem verifyBytes_iff {records : List LogRecord} {rejections : List LogRejection} {sealedBy : LogSeal}
    {log : SealedObservationLog} (held : Holds crates header records observations rejections) :
    SealedObservationLog.verifyBytes crates (bytesOf (records ++ [.sealed sealedBy])) = .ok log ↔
      Seals crates records observations sealedBy ∧
        log = { path := none, header, observations, rejections, sealedBy } := by
  have before : (bytesOf (records ++ [.sealed sealedBy])).take (bytesOf records).length = bytesOf records := by
    rw [← bytesOf_snoc, List.take_left]
  constructor
  · intro verified
    simp only [SealedObservationLog.verifyBytes, bind_eq_ok, exists_unit, okOr_eq_ok, refuseIf_eq_ok,
      Decidable.not_not] at verified
    obtain ⟨parsed, read, first, opened, ⟨found, start⟩, ended, -, digest, observed, qualified, ⟨⟩⟩ :=
      verified
    rw [held.parseLog_sealed sealedBy] at read
    cases read
    cases opened
    cases ended
    rw [before] at digest
    exact ⟨⟨digest, observed, qualified⟩, rfl⟩
  · rintro ⟨⟨digest, observed, qualified⟩, rfl⟩
    simp [SealedObservationLog.verifyBytes, bind_eq_ok, exists_unit, held.parseLog_sealed sealedBy, before,
      digest, observed, qualified, pure, Except.pure]

theorem verifyBytes_sealed {records : List LogRecord} {rejections : List LogRejection} {sealedBy : LogSeal}
    {log : SealedObservationLog} (held : Holds crates header records observations rejections)
    (verified : SealedObservationLog.verifyBytes crates (bytesOf (records ++ [.sealed sealedBy])) = .ok log) :
    log.header = header ∧ log.observations = observations := by
  obtain ⟨-, rfl⟩ := (verifyBytes_iff held).mp verified
  exact ⟨rfl, rfl⟩

theorem verifyBytes_open {records : List LogRecord} {rejections : List LogRejection}
    {log : SealedObservationLog} (held : Holds crates header records observations rejections) :
    SealedObservationLog.verifyBytes crates (bytesOf records) ≠ .ok log := by
  intro verified
  simp only [SealedObservationLog.verifyBytes, bind_eq_ok, okOr_eq_ok] at verified
  obtain ⟨parsed, read, _, -, _, ended, -⟩ := verified
  rw [held.parseLog] at read
  cases read
  cases ended

theorem load_ok {fault : Option String} {path : String} {log : SealedObservationLog}
    (loaded : SealedObservationLog.load crates fault disk path = .ok log) :
    ∃ bytes verified, disk.file = some bytes ∧ SealedObservationLog.verifyBytes crates bytes = .ok verified ∧
      log = { verified with path := some path } := by
  simp only [SealedObservationLog.load, bind_eq_ok] at loaded
  obtain ⟨bytes, found, verified, read, ⟨⟩⟩ := loaded
  exact ⟨bytes, verified, readLog_ok found, read, rfl⟩

-- A damaged log is never sealed.
theorem sealLog_damaged (damaged : Damaged disk) (sealedAtMs : UInt64) :
    ∃ e, writer.sealLog crates io disk sealedAtMs = (.error e, disk) := by
  obtain ⟨records, part, rest, file, nonempty, inside, behind⟩ := damaged
  unfold ObservationLogWriter.sealLog
  cases made : writer.sealFor crates io disk sealedAtMs with
  | error e => exact ⟨e, rfl⟩
  | ok sealedBy =>
    simp only [ObservationLogWriter.sealFor, bind_eq_ok, exists_unit, refuseIf_eq_ok] at made
    obtain ⟨bytes, found, parsed, read, -, complete, -⟩ := made
    obtain rfl := Option.some.inj (file.symm.trans (readLog_ok found))
    exact absurd (parseLog_spoiled nonempty inside behind read) complete

variable (io) in
-- The seal goes behind the log as it stands, and the log that is read back has its observations.
theorem sealLog_cases (agrees : Agrees crates writer disk lines observations) (sealedAtMs : UInt64) :
    (∃ e after, writer.sealLog crates io disk sealedAtMs = (.error e, after) ∧
      (Kept crates writer lines observations disk after ∨ Torn io after ∨ ∃ bytes, after = disk.replace bytes ∧
        ShowsSealed crates writer.header lines observations (some bytes))) ∨
    ∃ log bytes, writer.sealLog crates io disk sealedAtMs = (.ok log, disk.replace bytes) ∧
      ShowsSealed crates writer.header lines observations (some bytes) ∧
      log.header = writer.header ∧ log.observations = observations := by
  obtain ⟨records, rejections, file, rfl, held⟩ := agrees.shows
  unfold ObservationLogWriter.sealLog
  cases writer.sealFor crates io disk sealedAtMs with
  | error e => exact .inl ⟨e, disk, rfl, .inl (Kept.refl agrees)⟩
  | ok sealedBy =>
    obtain ⟨after, written, here⟩ := writeSynced_open io file (.sealed sealedBy)
    have shows : ShowsSealed crates writer.header (observationsIn records) observations
        (some (bytesOf (records ++ [.sealed sealedBy]))) :=
      ⟨records, rejections, sealedBy, rfl, rfl, held⟩
    dsimp only
    rw [written]
    cases outcome : (writeSynced io disk (LogRecord.sealed sealedBy).toLine).1 with
    | error e =>
      refine .inl ⟨e, _, rfl, ?_⟩
      rcases here with rfl | ⟨-, rfl | torn⟩
      · exact .inr (.inr ⟨_, rfl, shows⟩)
      · exact .inl (Kept.replace agrees.seen ⟨_, _, rfl, rfl, held⟩)
      · exact .inr (.inl torn)
    | ok u =>
      rcases here with rfl | ⟨⟨e, failed⟩, -⟩
      · dsimp only
        cases loaded : SealedObservationLog.load crates io.readFault
            (disk.replace (bytesOf (records ++ [.sealed sealedBy]))) writer.path with
        | error e => exact .inl ⟨e, _, rfl, .inr (.inr ⟨_, rfl, shows⟩)⟩
        | ok log =>
          obtain ⟨bytes, verified, file, read, rfl⟩ := load_ok loaded
          cases file
          obtain ⟨same, content⟩ := verifyBytes_sealed held read
          exact .inr ⟨_, _, rfl, shows, same, content⟩
      · rw [outcome] at failed
        cases failed

variable (io) in
-- A new log holds its header and nothing else.
theorem create_cases (path : String) (header : LogHeader) :
    (∃ e after, ObservationLogWriter.create crates io disk path header = (.error e, after) ∧
      (after = disk ∨ Torn io after ∨ ∃ bytes, after = (disk.replace []).replace bytes ∧
        (bytes = [] ∨ Shows crates header [] [] (some bytes)))) ∨
    ∃ writer bytes, ObservationLogWriter.create crates io disk path header =
        (.ok writer, (disk.replace []).replace bytes) ∧ writer.header = header ∧ writer.path = path ∧
      Agrees crates writer ((disk.replace []).replace bytes) [] [] := by
  unfold ObservationLogWriter.create
  dsimp only
  split
  next e _ => exact .inl ⟨e, disk, rfl, .inl rfl⟩
  next opened =>
    simp only [bind_eq_ok, exists_unit] at opened
    obtain ⟨valid, -⟩ := opened
    have shows : Shows crates header [] [] (some (bytesOf [.header header])) :=
      ⟨[.header header], [], rfl, rfl, holds_header valid⟩
    have empty : (disk.replace []).file = some (bytesOf []) := rfl
    obtain ⟨after, written, here⟩ := writeSynced_open io empty (.header header)
    rw [written]
    cases outcome : (writeSynced io (disk.replace []) (LogRecord.header header).toLine).1 with
    | error e =>
      refine .inl ⟨e, _, rfl, ?_⟩
      rcases here with stored | ⟨-, left | torn⟩
      · exact .inr (.inr ⟨after, rfl, .inr (stored ▸ shows)⟩)
      · exact .inr (.inr ⟨after, rfl, .inl left⟩)
      · exact .inr (.inl torn)
    | ok u =>
      rcases here with stored | ⟨⟨e, failed⟩, -⟩
      · exact .inr ⟨_, after, rfl, rfl, rfl, ⟨stored ▸ shows, rfl⟩⟩
      · rw [outcome] at failed
        cases failed

theorem reopen_failed {path : String} {expected : LogHeader} {e : String}
    (failed : (ObservationLogWriter.reopen crates io disk path expected).1 = .error e) :
    (ObservationLogWriter.reopen crates io disk path expected).2 = disk := by
  unfold ObservationLogWriter.reopen at failed ⊢
  cases opened : ObservationLogWriter.reopenable crates io disk path expected with
  | error e => rfl
  | ok result => simp [opened] at failed

-- A reopened log keeps its terminated lines.
theorem reopen_ok {path : String} {expected : LogHeader} {after : LogDisk}
    (opened : ObservationLogWriter.reopen crates io disk path expected = (.ok writer, after)) :
    ∃ records tail parsed, disk.file = some (bytesOf records ++ tail) ∧ 10 ∉ tail ∧
      parseLog crates (bytesOf records ++ tail) = .ok parsed ∧ after.file = some (bytesOf records) ∧
      writer.header = expected ∧ writer.path = path ∧
      Kept crates writer (observationsIn records) parsed.observations disk after := by
  unfold ObservationLogWriter.reopen at opened
  cases checked : ObservationLogWriter.reopenable crates io disk path expected with
  | error e => simp [checked] at opened
  | ok result =>
    obtain ⟨bytes, parsed⟩ := result
    simp only [checked, Prod.mk.injEq, Except.ok.injEq] at opened
    obtain ⟨rfl, rfl⟩ := opened
    simp only [ObservationLogWriter.reopenable, bind_eq_ok, exists_unit, refuseIf_eq_ok, okOr_eq_ok,
      Decidable.not_not, Bool.not_eq_true, Option.isSome_eq_false_iff, Option.isNone_iff_eq_none] at checked
    obtain ⟨-, _, found, _, read, header, opened, rfl, unsealed, -, ⟨⟩⟩ := checked
    obtain ⟨records, tail, rfl, inside, held, ends, partialTail⟩ := holds_of_parseLog read opened unsealed
    have shows : Shows crates header (observationsIn records) parsed.observations (some (bytesOf records)) :=
      ⟨records, parsed.rejections, rfl, rfl, held⟩
    have cut : (if parsed.partialTail then disk.replace ((bytesOf records ++ tail).take parsed.completeEnd)
        else disk) = disk.replace (bytesOf records) ∨
        (if parsed.partialTail then disk.replace ((bytesOf records ++ tail).take parsed.completeEnd) else disk) = disk ∧
          disk.file = some (bytesOf records) := by
      by_cases whole : tail = []
      · refine .inr ⟨by simp [partialTail, whole], ?_⟩
        simpa [whole] using readLog_ok found
      · exact .inl (by simp [partialTail, whole, ends])
    refine ⟨records, tail, parsed, readLog_ok found, inside, read, ?_, rfl, rfl, ?_⟩
    · rcases cut with cut | ⟨cut, file⟩
      · rw [cut, LogDisk.file_replace]
      · rw [cut, file]
    · rcases cut with cut | ⟨cut, file⟩
      · rw [cut]
        exact Kept.replace rfl shows
      · rw [cut]
        exact Kept.refl ⟨by rwa [file], rfl⟩

end Effects

section Calm

def LogIo.calm : LogIo := { openFault := none, readFault := none, faults := fun _ => none }

theorem LogIo.calm_whole : LogIo.calm.Whole := by
  rintro change stored e ⟨⟩

variable {crates : LogCrates} {disk : LogDisk} {writer : ObservationLogWriter}
  {lines observations : List CanaryObservationV2}

theorem sealLog_calm {records : List LogRecord} {rejections : List LogRejection}
    (file : disk.file = some (bytesOf records))
    (held : Holds crates writer.header records observations rejections) (sealedAtMs : UInt64)
    {sealedBy : LogSeal} (made : sealedBy =
      { observationCount := UInt64.ofNat observations.length, qualifyingCount := qualifying observations
        logDigest := logDigestOf crates (bytesOf records), sealedAtMs }) :
    writer.sealLog crates .calm disk sealedAtMs =
      (.ok { path := some writer.path, header := writer.header, observations, rejections, sealedBy },
        disk.replace (bytesOf (records ++ [.sealed sealedBy]))) := by
  have sealable : writer.sealFor crates .calm disk sealedAtMs = .ok sealedBy := by
    simp only [ObservationLogWriter.sealFor, readLog, LogIo.calm, file, okOr, bind, Except.bind,
      held.parseLog, made]
    rfl
  have written : writeSynced .calm disk (LogRecord.sealed sealedBy).toLine =
      (.ok (), disk.replace (bytesOf (records ++ [.sealed sealedBy]))) := by
    simp only [writeSynced, LogIo.calm, file, Option.getD_some, bytesOf_snoc]
  have seals : Seals crates records observations sealedBy := by
    rw [made]
    exact ⟨rfl, rfl, rfl⟩
  have verified : SealedObservationLog.verifyBytes crates (bytesOf (records ++ [.sealed sealedBy])) = _ :=
    (verifyBytes_iff held).mpr ⟨seals, rfl⟩
  unfold ObservationLogWriter.sealLog
  rw [sealable]
  dsimp only
  rw [written]
  refine Prod.ext ?_ rfl
  simp only [SealedObservationLog.load, readLog, LogIo.calm, LogDisk.file_replace, okOr, bind, Except.bind,
    verified]
  rfl

end Calm

end SparkRsi.Canary
