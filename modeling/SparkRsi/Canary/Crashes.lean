import SparkRsi.Canary.Session

set_option autoImplicit false

namespace SparkRsi.Canary

open Shared

def LogIo.cut (stored : Nat) : LogIo :=
  { openFault := none, readFault := none, faults := fun _ => some (.torn stored "stopped") }

inductive LogEvent where
  | append (call : LogAppend)
  | crash
  | crashIn (call : LogAppend) (stored : Nat)
  deriving DecidableEq

def LogEvent.isCrash : LogEvent → Bool
  | append _ => false
  | crash => true
  | crashIn _ _ => true

/-- An open log with what was written to it so far, and whether the write returned. -/
structure LogSession where
  writer : ObservationLogWriter
  disk : LogDisk
  written : List (LogRecord × Bool)
  acknowledged : List (LogAppend × AppendOutcome)

namespace LogSession

variable (crates : LogCrates) (session : LogSession)

def records : List LogRecord := session.written.map Prod.fst

def unacknowledged : List (LogRecord × Bool) := session.written.filter fun entry => !entry.2

def returned : List LogRecord := (session.written.filter Prod.snd).map Prod.fst

def appended : List LogRecord :=
  (session.acknowledged.filter fun reply => reply.2 = .appended).map fun reply => reply.1.record crates

def append (call : LogAppend) : LogSession :=
  match call.perform crates .calm session.writer session.disk with
  | (.error _, writer, disk) => { session with writer, disk }
  | (.ok .idempotent, writer, disk) =>
    { session with writer, disk, acknowledged := session.acknowledged ++ [(call, .idempotent)] }
  | (.ok .appended, writer, disk) =>
    { writer, disk, written := session.written ++ [(call.record crates, true)]
      acknowledged := session.acknowledged ++ [(call, .appended)] }

def restart (disk : LogDisk) (written : List (LogRecord × Bool)) : Except String LogSession :=
  match ObservationLogWriter.reopen crates .calm disk session.writer.path session.writer.header with
  | (.error e, _) => .error e
  | (.ok writer, disk) => .ok { session with writer, disk, written }

def step : LogEvent → Except String LogSession
  | .append call => .ok (session.append crates call)
  | .crash => session.restart crates session.disk session.written
  | .crashIn call stored =>
    -- All bytes of the line may have been stored before the process stopped.
    let whole := call.Writes crates session.writer ∧ (call.record crates).toLine.length ≤ stored
    session.restart crates (call.perform crates (.cut stored) session.writer session.disk).2.2
      (if whole then session.written ++ [(call.record crates, false)] else session.written)

def run : LogSession → List LogEvent → Except String LogSession
  | session, [] => .ok session
  | session, event :: rest => do
    let session ← session.step crates event
    run session rest

def start (path : String) (header : LogHeader) : Except String LogSession :=
  match ObservationLogWriter.create crates .calm (.found none) path header with
  | (.error e, _) => .error e
  | (.ok writer, disk) => .ok { writer, disk, written := [], acknowledged := [] }

def Keeps (obs : CanaryObservationV2) (observations : List CanaryObservationV2) : Prop :=
  ∃ stored ∈ observations, stored.observationId = obs.observationId ∧
    stored.digestHex crates.sha = obs.digestHex crates.sha

structure Sound (header : LogHeader) : Prop where
  header : session.writer.header = header
  stores : Stores crates session.writer session.disk session.records
  appended : session.appended crates = session.returned
  kept : ∀ obs outcome, (LogAppend.observation obs, outcome) ∈ session.acknowledged →
    Keeps crates obs (observationsIn session.records)

variable {crates} {session} {header : LogHeader}

theorem Keeps.grow {obs : CanaryObservationV2} {observations : List CanaryObservationV2}
    (more : List CanaryObservationV2) (kept : Keeps crates obs observations) :
    Keeps crates obs (observations ++ more) := by
  obtain ⟨stored, member, same⟩ := kept
  exact ⟨stored, List.mem_append_left _ member, same⟩

theorem Sound.append (sound : session.Sound crates header) (call : LogAppend) :
    (session.append crates call).Sound crates header ∧
      (session.append crates call).unacknowledged = session.unacknowledged := by
  rcases sound.stores.perform_calm call with ⟨e, done⟩ | ⟨obs, rfl, done, kept⟩ | ⟨after, done, -, stores⟩
  · simp only [LogSession.append, done]
    exact ⟨sound, trivial⟩
  · simp only [LogSession.append, done]
    refine ⟨⟨sound.header, sound.stores, ?_, ?_⟩, rfl⟩
    · have earlier := sound.appended
      simp only [LogSession.appended, LogSession.returned] at earlier ⊢
      simp [earlier]
    · intro other outcome member
      rcases List.mem_append.mp member with old | new
      · exact sound.kept other outcome old
      · obtain ⟨same, -⟩ := Prod.mk.inj (List.mem_singleton.mp new)
        exact LogAppend.observation.inj same ▸ kept
  · simp only [LogSession.append, done]
    refine ⟨⟨LogAppend.remembered_header.trans sound.header, ?_, ?_, ?_⟩, ?_⟩
    · simpa [LogSession.records] using stores
    · have earlier := sound.appended
      simp only [LogSession.appended, LogSession.returned] at earlier ⊢
      simp [earlier]
    · intro obs outcome member
      simp only [LogSession.records, List.map_append, observationsIn_append]
      rcases List.mem_append.mp member with old | new
      · exact (sound.kept obs outcome old).grow _
      · obtain ⟨rfl, -⟩ := Prod.mk.inj (List.mem_singleton.mp new)
        exact ⟨obs, by simp [LogAppend.record, observationsIn_observation], rfl, rfl⟩
    · simp [LogSession.unacknowledged]

theorem Sound.restart (sound : session.Sound crates header) {disk : LogDisk} {tail : Bytes}
    {more : List (LogRecord × Bool)} (unreturned : ∀ entry ∈ more, entry.2 = false)
    (file : disk.file = some (bytesOf (.header session.writer.header :: (session.records ++ more.map Prod.fst)) ++ tail))
    (inside : 10 ∉ tail)
    (held : Holds crates session.writer.header (.header session.writer.header :: (session.records ++ more.map Prod.fst))
      (observationsIn (session.records ++ more.map Prod.fst)) (rejectionsIn (session.records ++ more.map Prod.fst))) :
    ∃ after, session.restart crates disk (session.written ++ more) = .ok after ∧ after.Sound crates header ∧
      after.unacknowledged = session.unacknowledged ++ more := by
  obtain ⟨writer, left, reopened, named, -, stores⟩ :=
    @reopen_calm _ _ _ session.writer.path _ _ file inside held
  simp only [LogSession.restart, reopened]
  refine ⟨_, rfl, ⟨named.trans sound.header, ?_, ?_, ?_⟩, ?_⟩
  · simpa [LogSession.records] using stores
  · have none_returned : more.filter Prod.snd = [] := by
      rw [List.filter_eq_nil_iff]
      exact fun entry member => by simp [unreturned entry member]
    have earlier := sound.appended
    simp only [LogSession.appended, LogSession.returned, List.filter_append, none_returned, List.append_nil]
      at earlier ⊢
    exact earlier
  · intro obs outcome member
    simp only [LogSession.records, List.map_append, observationsIn_append]
    exact (sound.kept obs outcome member).grow _
  · have all_unreturned : more.filter (fun entry => !entry.2) = more := by
      rw [List.filter_eq_self]
      exact fun entry member => by simp [unreturned entry member]
    simp [LogSession.unacknowledged, all_unreturned]

theorem Sound.restart_unchanged (sound : session.Sound crates header) {disk : LogDisk} {tail : Bytes}
    (file : disk.file = some (bytesOf (.header session.writer.header :: session.records) ++ tail))
    (inside : 10 ∉ tail) :
    ∃ after, session.restart crates disk session.written = .ok after ∧ after.Sound crates header ∧
      after.unacknowledged = session.unacknowledged := by
  have restarted := @Sound.restart _ _ _ sound disk tail [] (by simp) (by simpa using file) inside
    (by simpa using sound.stores.held)
  simpa using restarted

theorem perform_cut {writer : ObservationLogWriter} {disk : LogDisk} {call : LogAppend}
    (writes : call.Writes crates writer) (stored : Nat) :
    (call.perform crates (.cut stored) writer disk).2.2.file =
      some (disk.file.getD [] ++ (call.record crates).toLine.take stored) := by
  rw [LogAppend.perform_writes writes]
  rfl

-- A crash costs at most the line it stopped, and adds at most that line.
theorem Sound.step (sound : session.Sound crates header) (event : LogEvent) :
    ∃ after, session.step crates event = .ok after ∧ after.Sound crates header ∧
      after.unacknowledged.length ≤ session.unacknowledged.length + if event.isCrash then 1 else 0 := by
  have file := sound.stores.file
  cases event with
  | append call =>
    obtain ⟨kept, same⟩ := sound.append call
    exact ⟨_, rfl, kept, by simp [same]⟩
  | crash =>
    obtain ⟨after, restarted, kept, same⟩ :=
      @Sound.restart_unchanged _ _ _ sound _ [] (by simpa using file) (by simp)
    exact ⟨after, restarted, kept, by simp [same]⟩
  | crashIn call stored =>
    simp only [LogSession.step]
    by_cases writes : call.Writes crates session.writer
    · have cut := @perform_cut crates _ session.disk _ writes stored
      rw [file, Option.getD_some] at cut
      by_cases whole : (call.record crates).toLine.length ≤ stored
      · -- The whole line is there, only the reply was lost.
        rw [if_pos ⟨writes, whole⟩]
        rw [List.take_of_length_le whole, bytesOf_snoc] at cut
        obtain ⟨after, restarted, kept, same⟩ := @Sound.restart _ _ _ sound _ [] [(call.record crates, false)]
          (by simp) (by simpa using cut) (by simp) (sound.stores.append_held writes)
        exact ⟨after, restarted, kept, by simp [same, LogEvent.isCrash]⟩
      · -- What is there of the line has no newline, so the next process cuts it off.
        rw [if_neg (fun both => whole both.2)]
        have short : stored ≤ (call.record crates).line.length := by
          simp only [LogRecord.toLine, List.length_append, List.length_singleton] at whole
          omega
        rw [LogRecord.toLine, List.take_append_of_le_length short] at cut
        obtain ⟨after, restarted, kept, same⟩ := sound.restart_unchanged cut
          (fun inside => LogRecord.newline_notMem_line _ (List.mem_of_mem_take inside))
        exact ⟨after, restarted, kept, by simp [same]⟩
    · rw [if_neg (fun both => writes both.1)]
      have untouched : (call.perform crates (.cut stored) session.writer session.disk).2.2 = session.disk := by
        rcases @LogAppend.perform_silent crates (.cut stored) _ session.disk _ writes with
          ⟨e, done⟩ | ⟨obs, rfl, done, -⟩ <;> rw [done]
      rw [untouched]
      obtain ⟨after, restarted, kept, same⟩ :=
        @Sound.restart_unchanged _ _ _ sound _ [] (by simpa using file) (by simp)
      exact ⟨after, restarted, kept, by simp [same]⟩

theorem Sound.run (sound : session.Sound crates header) (events : List LogEvent) :
    ∃ after, session.run crates events = .ok after ∧ after.Sound crates header ∧
      after.unacknowledged.length ≤ session.unacknowledged.length + events.countP LogEvent.isCrash := by
  induction events generalizing session with
  | nil => exact ⟨session, rfl, sound, by simp⟩
  | cons event rest ih =>
    obtain ⟨middle, stepped, kept, few⟩ := sound.step event
    obtain ⟨after, ran, last, total⟩ := ih kept
    refine ⟨after, ?_, last, ?_⟩
    · simp only [LogSession.run, stepped, bind, Except.bind, ran]
    · rw [List.countP_cons]
      omega

theorem start_sound (path : String) (opened : header.validate = .ok ()) :
    ∃ session, start crates path header = .ok session ∧ session.Sound crates header ∧
      session.unacknowledged = [] := by
  have created : ObservationLogWriter.create crates .calm (.found none) path header =
      (.ok { path, header, seen := [] }, ((LogDisk.found none).replace []).replace (LogRecord.header header).toLine) := by
    simp [ObservationLogWriter.create, opened, LogDisk.found, faulty, LogIo.calm, Except.mapError, refuseIf,
      bind, Except.bind, writeSynced]
  simp only [start, created]
  refine ⟨_, rfl, ⟨rfl, ⟨?_, holds_header opened, rfl⟩, rfl, by simp⟩, rfl⟩
  simp [LogSession.records, bytesOf]

end LogSession

/-- Crashes cost at most the record whose write they stopped. -/
theorem log_survives_crashes (crates : LogCrates) (path : String) (header : LogHeader)
    (opened : header.validate = .ok ()) (events : List LogEvent) (sealedAtMs : UInt64) :
    ∃ first session log disk, LogSession.start crates path header = .ok first ∧
      first.run crates events = .ok session ∧
      session.writer.sealLog crates .calm session.disk sealedAtMs = (.ok log, disk) ∧
      disk.file = some (bytesOf (.header header :: (session.records ++ [.sealed log.sealedBy]))) ∧
      log.header = header ∧
      log.observations = observationsIn session.records ∧ log.rejections = rejectionsIn session.records ∧
      (log.observations.map CanaryObservationV2.observationId).Nodup ∧
      session.appended crates = session.returned ∧
      (∀ obs outcome, (LogAppend.observation obs, outcome) ∈ session.acknowledged → ∃ stored ∈ log.observations,
        stored.observationId = obs.observationId ∧
          (Set.InjOn crates.sha.hex {stored.recordText, obs.recordText} → stored = obs)) ∧
      session.unacknowledged.length ≤ events.countP LogEvent.isCrash ∧
      Seals crates (.header header :: session.records) log.observations log.sealedBy := by
  obtain ⟨first, started, sound, none_yet⟩ := @LogSession.start_sound crates header path opened
  obtain ⟨session, ran, sound, few⟩ := sound.run events
  obtain ⟨log, sealed, named, observed, rejected, seals⟩ := sound.stores.sealed sealedAtMs
  have same := sound.header
  subst same
  refine ⟨first, session, log, _, started, ran, sealed, rfl, named, observed, rejected, ?_, sound.appended,
    ?_, ?_, seals⟩
  · rw [observed]
    exact sound.stores.nodup
  · intro obs outcome member
    obtain ⟨stored, inside, id, digest⟩ := sound.kept obs outcome member
    refine ⟨stored, observed ▸ inside, id, fun apart => ?_⟩
    exact CanaryObservationV2.recordText_injective (apart (by simp) (by simp) digest)
  · simpa [none_yet] using few

theorem log_survives_crashes_torn : ∃ first session log disk,
    LogSession.start standardLogCrates "gen-002.jsonl" refusalHeader = .ok first ∧
      first.run standardLogCrates [.append (.rejection "one\ntwo" 1), .crashIn (.rejection "three" 2) 20,
        .append (.rejection "three" 3)] = .ok session ∧
      session.writer.sealLog standardLogCrates .calm session.disk 4 = (.ok log, disk) ∧
      log.rejections = rejectionsIn session.records ∧ session.unacknowledged.length ≤ 1 := by
  obtain ⟨first, session, log, disk, started, ran, sealed, -, -, -, rejected, -, -, -, few, -⟩ :=
    log_survives_crashes standardLogCrates "gen-002.jsonl" refusalHeader refusalHeader_valid
      [.append (.rejection "one\ntwo" 1), .crashIn (.rejection "three" 2) 20, .append (.rejection "three" 3)] 4
  exact ⟨first, session, log, disk, started, ran, sealed, rejected, few⟩

end SparkRsi.Canary
