import SparkRsi.Supervisor.CanaryRun

set_option autoImplicit false

namespace SparkRsi.Supervisor

open Shared Canary

structure CanaryRun where
  io : RunIo
  generation : GenerationInfo
  halt : Option Nat

def CanaryExecutor.halting (executor : CanaryExecutor) (halt : Option Nat) : CanaryExecutor :=
  { executor with exec := { executor.exec with haltAfterRequests := halt } }

section Definitions

variable (crates : LogCrates) (executor : CanaryExecutor)

/-- The contents the log can have after `runs`: each run starts from some moment of the one before. -/
inductive Reached (start : Option Bytes) : List CanaryRun → Option Bytes → Prop where
  | start : Reached start [] start
  | during (runs : List CanaryRun) (run : CanaryRun) (before after : Option Bytes)
      (reached : Reached start runs before) (whole : run.io.log.Whole)
      (moment : after ∈ ((executor.halting run.halt).run crates run.io run.generation before).disk.moments) :
      Reached start (runs ++ [run]) after

def storedObservations (path : String) : Option Bytes → Except String (List CanaryObservationV2)
  | none => .ok []
  | some bytes => (storedRecords crates path bytes).map observationsIn

def requestTexts : Set Bytes :=
  {text | ∃ spec ∈ executor.requests, text =
    observationIdBytes executor.identity.generationId spec.requestId (executor.requestDigest crates spec)}

structure Recorded (runs : List CanaryRun) (spec : CanaryRequestSpec) (obs : CanaryObservationV2) : Prop where
  observed : ∃ run ∈ runs, executor.checkRunnable crates run.io run.generation = .ok () ∧
    ∃ index elapsed status digest, obs =
        executor.observe crates spec (run.io.request index) elapsed status digest ∧
      (status = .verifiedSuccess → ∃ read, CanaryExecutor.Answers crates executor (run.io.request index) spec read ∧
        elapsed = read.elapsed ∧ digest = some (spec.expectedResultDigest crates.sha))

/-- One observation for each request of a prefix of the workload, all but the last successes. -/
structure History (runs : List CanaryRun) (observations : List CanaryObservationV2) : Prop where
  answered : List.Forall₂ (Recorded crates executor runs) (executor.requests.take observations.length) observations
  successes : ∀ obs ∈ observations.dropLast, obs.status = .verifiedSuccess

structure Extends (runs : List CanaryRun) (observations stored : List CanaryObservationV2) : Prop where
  history : History crates executor runs stored
  final : (∃ obs ∈ observations, obs.status ≠ .verifiedSuccess) → stored = observations

inductive Holding (observations : List CanaryObservationV2) : Option Bytes → Prop where
  | absent (none_yet : observations = []) : Holding observations none
  | empty (none_yet : observations = []) : Holding observations (some [])
  | opened (header : LogHeader) (content : Option Bytes)
      (shows : Shows crates header observations observations content) : Holding observations content
  | sealed (header : LogHeader) (content : Option Bytes)
      (shows : ShowsSealed crates header observations observations content) : Holding observations content

def Keeps (good : List CanaryObservationV2 → Prop) (disk : LogDisk) : Prop :=
  ∀ content ∈ disk.moments, ∃ observations, Holding crates observations content ∧ good observations

end Definitions

section Contents

variable {crates : LogCrates} {executor : CanaryExecutor} {good : List CanaryObservationV2 → Prop}
  {observations : List CanaryObservationV2}

theorem Holding.stored {content : Option Bytes} (holding : Holding crates observations content)
    (path : String) :
    storedObservations crates path content = .ok observations := by
  cases holding with
  | absent none_yet => rw [none_yet]; rfl
  | empty none_yet => rw [none_yet]; rfl
  | opened header content shows =>
    obtain ⟨records, rejections, rfl, rfl, held⟩ := shows
    have read : storedRecords crates path (bytesOf records) = .ok records := by
      simpa using storedRecords_bytesOf path records [] (by simp)
    simp [storedObservations, read, Except.map]
  | sealed header content shows =>
    obtain ⟨records, rejections, sealedBy, rfl, rfl, held⟩ := shows
    have read : storedRecords crates path (bytesOf (records ++ [.sealed sealedBy])) =
        .ok (records ++ [.sealed sealedBy]) := by
      simpa using storedRecords_bytesOf path (records ++ [.sealed sealedBy]) [] (by simp)
    simp [storedObservations, read, Except.map, observationsIn, LogRecord.observation?]

theorem Holding.inv {content : Option Bytes} (holding : Holding crates observations content) :
    observations = [] ∧ (content = none ∨ content = some []) ∨
      (∃ header, Shows crates header observations observations content) ∨
        ∃ header, ShowsSealed crates header observations observations content := by
  cases holding with
  | absent none_yet => exact .inl ⟨none_yet, .inl rfl⟩
  | empty none_yet => exact .inl ⟨none_yet, .inr rfl⟩
  | opened header content shows => exact .inr (.inl ⟨header, shows⟩)
  | sealed header content shows => exact .inr (.inr ⟨header, shows⟩)

theorem Holding.nothing_absent (holding : Holding crates observations none) : observations = [] := by
  cases holding with
  | absent none_yet => exact none_yet
  | opened header content shows => obtain ⟨_, _, ⟨⟩, _⟩ := shows
  | sealed header content shows => obtain ⟨_, _, _, ⟨⟩, _⟩ := shows

theorem Holding.verified {bytes : Bytes} {log : SealedObservationLog}
    (holding : Holding crates observations (some bytes))
    (verified : SealedObservationLog.verifyBytes crates bytes = .ok log) :
    log.observations = observations := by
  cases holding with
  | empty none_yet =>
    have headless : SealedObservationLog.verifyBytes crates [] = .error "observation log has no header" := rfl
    rw [headless] at verified
    cases verified
  | opened header content shows =>
    obtain ⟨records, rejections, file, rfl, held⟩ := shows
    cases file
    exact absurd verified (verifyBytes_open held)
  | sealed header content shows =>
    obtain ⟨records, rejections, sealedBy, file, rfl, held⟩ := shows
    cases file
    exact (verifyBytes_sealed held verified).2

theorem Holding.valid {content : Option Bytes} (holding : Holding crates observations content) :
    ∀ obs ∈ observations, obs.Valid crates.sha := by
  cases holding with
  | absent none_yet => simp [none_yet]
  | empty none_yet => simp [none_yet]
  | opened header content shows =>
    obtain ⟨records, rejections, rfl, -, held⟩ := shows
    exact held.sound.valid
  | sealed header content shows =>
    obtain ⟨records, rejections, sealedBy, rfl, -, held⟩ := shows
    exact held.sound.valid

theorem Keeps.kept {writer : ObservationLogWriter} {before after : LogDisk} (keeps : Keeps crates good before)
    (kept : Kept crates writer observations observations before after) (holds : good observations) :
    Keeps crates good after := by
  intro content member
  rcases kept.moments content member with old | new
  · exact keeps content old
  · exact ⟨observations, .opened _ _ new, holds⟩

theorem Keeps.replace {disk : LogDisk} {bytes : Bytes} (keeps : Keeps crates good disk)
    (holding : Holding crates observations (some bytes)) (holds : good observations) :
    Keeps crates good (disk.replace bytes) := by
  intro content member
  rcases List.mem_cons.mp member with rfl | old
  · exact ⟨observations, holding, holds⟩
  · exact keeps content old

-- A log that could be opened was open, and still holds its observations.
theorem Keeps.openLog {io : RunIo} {file : Option Bytes} {writer : ObservationLogWriter} {after : LogDisk}
    (holding : Holding crates observations file) (holds : good observations)
    (opened : executor.openLog crates io (LogDisk.found file) = (.ok writer, after)) :
    Agrees crates writer after observations observations ∧ Keeps crates good after := by
  have found : Keeps crates good (LogDisk.found file) := fun content member =>
    ⟨observations, by rwa [List.mem_singleton.mp member], holds⟩
  obtain ⟨-, -, ⟨absent, bytes, rfl, agrees⟩ | ⟨records, tail, parsed, bytes, inside, read, cut, kept⟩⟩ :=
    CanaryExecutor.openLog_ok opened
  · cases absent
    obtain rfl := holding.nothing_absent
    exact ⟨agrees, (found.replace (.empty rfl) holds).replace (.opened _ _ agrees.shows) holds⟩
  · obtain ⟨again, rejections, reopened, -, held⟩ := kept.agrees.shows
    have same : records = again := by
      have bytes : bytesOf records ++ [] = bytesOf again := by simpa [cut] using reopened
      exact bytesOf_inj (by simp) bytes
    subst same
    obtain rfl : file = some (bytesOf records ++ tail) := bytes
    rcases holding.inv with ⟨-, none_yet | headless⟩ | ⟨header, shows⟩ | ⟨header, shows⟩
    · cases none_yet
    · have nothing : bytesOf records = [] := by
        have bytes := Option.some.inj headless
        exact (List.append_eq_nil_iff.mp bytes).1
      have records_eq : [] = records := bytesOf_inj (List.not_mem_nil) (by simpa [bytesOf] using nothing.symm)
      exact absurd records_eq.symm held.nonempty
    · obtain ⟨others, _, content, lines, before⟩ := shows
      obtain rfl := bytesOf_inj inside (Option.some.inj content)
      obtain rfl : tail = [] := by simpa using content
      rw [List.append_nil, before.parseLog] at read
      cases read
      rw [lines] at kept
      exact ⟨kept.agrees, found.kept kept holds⟩
    · obtain ⟨others, _, sealedBy, content, -, before⟩ := shows
      obtain rfl := bytesOf_inj inside (Option.some.inj content)
      cases (before.sealed sealedBy).symm.trans held

theorem Keeps.openLog_failed {io : RunIo} {file : Option Bytes} {e : String} {after : LogDisk}
    (whole : io.log.Whole) (holding : Holding crates observations file) (holds : good observations)
    (failed : executor.openLog crates io (LogDisk.found file) = (.error e, after)) :
    Keeps crates good after := by
  have found : Keeps crates good (LogDisk.found file) := fun content member =>
    ⟨observations, by rwa [List.mem_singleton.mp member], holds⟩
  rcases CanaryExecutor.openLog_failed failed with rfl | torn | ⟨absent, bytes, rfl, shown⟩
  · exact found
  · exact absurd whole torn.1
  · cases absent
    obtain rfl := holding.nothing_absent
    refine (found.replace (.empty rfl) holds).replace ?_ holds
    rcases shown with rfl | ⟨header, shows⟩
    · exact .empty rfl
    · exact .opened header _ shows

theorem Keeps.finish {io : RunIo} {session : Session} (whole : io.log.Whole)
    (agrees : Agrees crates session.writer session.disk observations observations)
    (keeps : Keeps crates good session.disk) (holds : good observations) (revert : Bool) :
    Keeps crates good (CanaryExecutor.finish crates io session revert).2.disk := by
  rcases CanaryExecutor.finish_cases agrees revert with
    ⟨-, kept | torn | ⟨bytes, written, shows⟩⟩ | ⟨log, summary, bytes, -, written, shows, -⟩
  · exact keeps.kept kept holds
  · exact absurd whole torn.1
  · rw [written]
    exact keeps.replace (.sealed _ _ shows) holds
  · rw [written]
    exact keeps.replace (.sealed _ _ shows) holds

theorem Keeps.waited {io : RunIo} {before after : Session} (whole : io.log.Whole)
    (waited : Waited io before after)
    (agrees : Agrees crates before.writer before.disk observations observations)
    (keeps : Keeps crates good before.disk) (holds : good observations) :
    Agrees crates after.writer after.disk observations observations ∧ Keeps crates good after.disk := by
  rcases waited.kept agrees with kept | torn
  · exact ⟨kept.agrees, keeps.kept kept holds⟩
  · exact absurd whole torn.1

end Contents

section Requests

variable {crates : LogCrates} {executor : CanaryExecutor} {runs : List CanaryRun}
  {observations : List CanaryObservationV2}

-- Without a collision different requests have different observation ids.
theorem observationIds_nodup {io : RunIo} {generation : GenerationInfo}
    (ran : executor.checkRunnable crates io generation = .ok ())
    (distinct : Set.InjOn crates.sha.hex (requestTexts crates executor)) :
    (executor.requests.map (executor.requestObservationId crates)).Nodup := by
  have ids : (executor.requests.map CanaryRequestSpec.requestId).Nodup :=
    (CanaryExecutor.checkRunnable_ok ran).apart.sublist (CanaryExecutor.requests_sublist.map _)
  refine (List.Nodup.of_map _ ids).map_on fun first firstIn second secondIn same => ?_
  have texts := distinct ⟨first, firstIn, rfl⟩ ⟨second, secondIn, rfl⟩ same
  have digests (spec : CanaryRequestSpec) : (utf8 (executor.requestDigest crates spec)).length = 64 :=
    crates.sha.length_hex _
  have requestIds := requestId_of_observationIdBytes (by rw [digests, digests]) texts
  exact List.inj_on_of_nodup_map ids firstIn secondIn requestIds

namespace History

theorem ids (history : History crates executor runs observations) :
    observations.map CanaryObservationV2.observationId =
      (executor.requests.take observations.length).map (executor.requestObservationId crates) := by
  have same : List.Forall₂ (· = ·)
      ((executor.requests.take observations.length).map (executor.requestObservationId crates))
      (observations.map CanaryObservationV2.observationId) := by
    refine List.forall₂_map_left_iff.mpr (List.forall₂_map_right_iff.mpr (history.answered.imp ?_))
    intro spec obs recorded
    obtain ⟨run, -, -, index, elapsed, status, digest, rfl, -⟩ := recorded.observed
    rfl
  rw [List.forall₂_eq_eq_eq] at same
  exact same.symm

-- What is still to do is the rest of the workload.
theorem todo (history : History crates executor runs observations)
    (apart : (executor.requests.map (executor.requestObservationId crates)).Nodup)
    {writer : ObservationLogWriter} {disk : LogDisk} {lines : List CanaryObservationV2}
    (agrees : Agrees crates writer disk lines observations) :
    executor.todo crates writer = executor.requests.drop observations.length := by
  unfold CanaryExecutor.todo
  have contains (spec : CanaryRequestSpec) : writer.contains (executor.requestObservationId crates spec) = true ↔
      executor.requestObservationId crates spec ∈
        (executor.requests.take observations.length).map (executor.requestObservationId crates) := by
    rw [agrees.contains, history.ids]
  generalize executor.requests = requests at apart contains ⊢
  generalize observations.length = n at contains ⊢
  rw [← List.take_append_drop n requests, List.map_append, List.nodup_append'] at apart
  conv_lhs => rw [← List.take_append_drop n requests, List.filter_append]
  have done : (requests.take n).filter
      (fun spec => !writer.contains (executor.requestObservationId crates spec)) = [] := by
    refine List.filter_eq_nil_iff.mpr fun spec member => ?_
    simp [(contains spec).mpr (List.mem_map_of_mem member)]
  have left : (requests.drop n).filter
      (fun spec => !writer.contains (executor.requestObservationId crates spec)) = requests.drop n := by
    refine List.filter_eq_self.mpr fun spec member => ?_
    have fresh : ¬writer.contains (executor.requestObservationId crates spec) = true := fun old =>
      apart.2.2 ((contains spec).mp old) (List.mem_map_of_mem member)
    simpa using fresh
  rw [done, left, List.nil_append]

-- The next observation of a history without a failure.
theorem snoc (history : History crates executor runs observations)
    (clean : ∀ obs ∈ observations, obs.status = .verifiedSuccess) {spec : CanaryRequestSpec}
    {rest : List CanaryRequestSpec} (next : executor.requests.drop observations.length = spec :: rest)
    {obs : CanaryObservationV2} (recorded : Recorded crates executor runs spec obs) :
    History crates executor runs (observations ++ [obs]) := by
  constructor
  · rw [List.length_append, List.length_singleton, List.take_add, next]
    exact List.rel_append history.answered (.cons recorded .nil)
  · rw [List.dropLast_concat]
    exact clean

theorem fresh (history : History crates executor runs observations)
    (apart : (executor.requests.map (executor.requestObservationId crates)).Nodup) {spec : CanaryRequestSpec}
    {rest : List CanaryRequestSpec} (next : executor.requests.drop observations.length = spec :: rest) :
    ∀ other ∈ observations, other.observationId ≠ executor.requestObservationId crates spec := by
  intro other member same
  rw [← List.take_append_drop observations.length executor.requests, List.map_append,
    List.nodup_append'] at apart
  refine apart.2.2 (?_ : executor.requestObservationId crates spec ∈ _) (by simp [next])
  rw [← history.ids, ← same]
  exact List.mem_map_of_mem member

end History

end Requests

section Runs

variable {crates : LogCrates} {executor : CanaryExecutor} {runs : List CanaryRun} {run : CanaryRun}
  {good : List CanaryObservationV2 → Prop} {observations : List CanaryObservationV2}

-- What `conclude` hands to the log is recorded from the run's own request.
theorem recorded_of_conclude (member : run ∈ runs)
    (ran : executor.checkRunnable crates run.io run.generation = .ok ()) {index : Nat}
    {spec : CanaryRequestSpec} {pid : Option UInt32} {obs : CanaryObservationV2}
    (concluded : executor.conclude crates spec (run.io.request index) pid
      (executor.answerTo crates (run.io.request index) spec) = .ok obs) :
    Recorded crates executor runs spec obs := by
  refine ⟨run, member, ran, index, ?_⟩
  by_cases success : obs.status = .verifiedSuccess
  · obtain ⟨read, answers, -, rfl⟩ := CanaryExecutor.conclude_success concluded success
    exact ⟨_, _, _, rfl, fun _ => ⟨read, answers, rfl, rfl⟩⟩
  · obtain ⟨status, digest, -, rfl, -⟩ := CanaryExecutor.conclude_ok concluded
    exact ⟨_, _, _, rfl, fun here => absurd here success⟩

-- The request loop appends to the history, and no moment of it shows anything else.
theorem Keeps.requestLoop (whole : run.io.log.Whole) (member : run ∈ runs)
    (ran : executor.checkRunnable crates run.io run.generation = .ok ())
    (apart : (executor.requests.map (executor.requestObservationId crates)).Nodup)
    (closed : ∀ observations, History crates executor runs observations → good observations)
    (index : Nat) {rest : List CanaryRequestSpec} {loop : RequestLoop}
    (history : History crates executor runs observations)
    (clean : ∀ obs ∈ observations, obs.status = .verifiedSuccess)
    (next : executor.requests.drop observations.length = rest)
    (agrees : Agrees crates loop.writer loop.disk observations observations)
    (keeps : Keeps crates good loop.disk) :
    Keeps crates good (executor.requestLoop crates run.io index rest loop).loop.disk ∧
      ((∃ e after, executor.requestLoop crates run.io index rest loop = .failed e after) ∨
        ∃ stored, History crates executor runs stored ∧
          Agrees crates (executor.requestLoop crates run.io index rest loop).loop.writer
            (executor.requestLoop crates run.io index rest loop).loop.disk stored stored) := by
  induction rest generalizing index loop observations with
  | nil => exact ⟨keeps, .inr ⟨observations, history, agrees⟩⟩
  | cons spec rest ih =>
    have law : CanaryExecutor.StepLaw crates executor run.io (run.io.request index) spec loop observations
        observations (executor.requestStep crates run.io (run.io.request index) spec loop) :=
      CanaryExecutor.requestStep_law agrees (history.fresh apart next)
    simp only [CanaryExecutor.requestLoop]
    generalize executor.requestStep crates run.io (run.io.request index) spec loop = step at law ⊢
    have grown {obs : CanaryObservationV2} {after : LogDisk}
        (concluded : executor.conclude crates spec (run.io.request index) loop.generation.pid
          (executor.answerTo crates (run.io.request index) spec) = .ok obs)
        (grows : CanaryExecutor.Grows crates loop.writer.header observations observations obs loop.disk after) :
        History crates executor runs (observations ++ [obs]) ∧ Keeps crates good after := by
      have longer := history.snoc clean next (recorded_of_conclude member ran concluded)
      refine ⟨longer, fun content inside => ?_⟩
      rcases grows content inside with old | same | new
      · exact keeps content old
      · exact ⟨observations, .opened _ _ same, closed _ history⟩
      · exact ⟨observations ++ [obs], .opened _ _ new, closed _ longer⟩
    cases law with
    | refused reason after _ _ _ _ kept =>
      exact ⟨keeps.kept kept (closed _ history), .inr ⟨observations, history, kept.agrees⟩⟩
    | unrecorded obs e after concluded grows => exact ⟨(grown concluded grows).2, .inl ⟨e, after, rfl⟩⟩
    | torn step torn => exact absurd whole torn.1
    | recorded obs step concluded leaves _ _ _ agrees grows =>
      obtain ⟨longer, keeps⟩ := grown concluded grows
      have here : ∃ stored, History crates executor runs stored ∧
          Agrees crates step.loop.writer step.loop.disk stored stored := ⟨_, longer, agrees⟩
      cases step with
      | stopped loop => exact ⟨keeps, .inr here⟩
      | halted loop => exact ⟨keeps, .inr here⟩
      | failed e loop => exact ⟨keeps, .inr here⟩
      | next loop =>
        have success : obs.status = .verifiedSuccess := by
          rcases leaves with ⟨⟨⟩, -⟩ | ⟨-, success⟩
          exact success
        refine ih (index + 1) longer ?_ ?_ agrees keeps
        · simpa [or_imp, forall_and] using ⟨clean, success⟩
        · rw [List.length_append, List.length_singleton, ← List.drop_drop, next]
          rfl

theorem Keeps.issueRequests (whole : run.io.log.Whole) (member : run ∈ runs)
    (ran : executor.checkRunnable crates run.io run.generation = .ok ())
    (apart : (executor.requests.map (executor.requestObservationId crates)).Nodup)
    (closed : ∀ observations, History crates executor runs observations → good observations)
    {session : Session} (history : History crates executor runs observations)
    (clean : ∀ obs ∈ observations, obs.status = .verifiedSuccess)
    (agrees : Agrees crates session.writer session.disk observations observations)
    (keeps : Keeps crates good session.disk) :
    Keeps crates good (executor.issueRequests crates run.io (executor.requests.drop observations.length)
      session).2.disk := by
  have opened : Agrees crates (RequestLoop.start session).writer (RequestLoop.start session).disk observations
      observations := agrees
  have law := Keeps.requestLoop whole member ran apart closed 0 history clean rfl opened keeps
  unfold CanaryExecutor.issueRequests
  generalize executor.requestLoop crates run.io 0 _ (RequestLoop.start session) = step at law ⊢
  obtain ⟨keeps, failed⟩ := law
  have settled (loop : RequestLoop) (revert : Bool) (loop_eq : step.loop = loop)
      (running : ¬∃ e after, step = .failed e after) :
      Keeps crates good (CanaryExecutor.finish crates run.io
        (CanaryExecutor.drainStrays run.io loop.toSession run.io.settleStrays) revert).2.disk := by
    obtain ⟨stored, history, agrees⟩ := failed.resolve_left running
    rw [loop_eq] at keeps agrees
    obtain ⟨agrees, keeps⟩ := Keeps.waited whole (CanaryExecutor.drainStrays_waited loop.toSession
      run.io.settleStrays) agrees keeps (closed _ history)
    exact Keeps.finish whole agrees keeps (closed _ history) revert
  cases step with
  | failed e loop => exact keeps
  | halted loop => exact keeps
  | next loop => exact settled loop false rfl (by simp)
  | stopped loop => exact settled loop true rfl (by simp)

-- A run with a stored failure only seals the log.
theorem priorFailure_none {records : List LogRecord} :
    CanaryExecutor.priorFailure records = none ↔
      ∀ obs ∈ observationsIn records, obs.status = .verifiedSuccess := by
  simp [CanaryExecutor.priorFailure]

theorem Keeps.resume (whole : run.io.log.Whole) (member : run ∈ runs)
    (ran : executor.checkRunnable crates run.io run.generation = .ok ())
    (apart : (executor.requests.map (executor.requestObservationId crates)).Nodup)
    (closed : (∀ obs ∈ observations, obs.status = .verifiedSuccess) →
      ∀ observations, History crates executor runs observations → good observations)
    {records : List LogRecord} {session : Session} (history : History crates executor runs observations)
    (holds : good observations) (lines : observationsIn records = observations)
    (agrees : Agrees crates session.writer session.disk observations observations)
    (keeps : Keeps crates good session.disk) :
    Keeps crates good (executor.resume crates run.io records session).2.disk := by
  have resumed : CanaryExecutor.Resumed crates executor run.io records session
      (executor.resume crates run.io records session) := CanaryExecutor.resume_resumed records session
  have clean (prior : CanaryExecutor.priorFailure records = none) :
      ∀ obs ∈ observations, obs.status = .verifiedSuccess := lines ▸ priorFailure_none.mp prior
  have sealed {before after : Session} (waited : Waited run.io before after)
      (agrees : Agrees crates before.writer before.disk observations observations)
      (keeps : Keeps crates good before.disk) (revert : Bool) :
      Keeps crates good (CanaryExecutor.finish crates run.io after revert).2.disk := by
    obtain ⟨agrees, keeps⟩ := keeps.waited whole waited agrees holds
    exact keeps.finish whole agrees holds revert
  generalize executor.resume crates run.io records session = result at resumed ⊢
  cases resumed with
  | failedBefore reason prior after waited => exact sealed waited agrees keeps true
  | complete prior done after waited => exact sealed waited agrees keeps false
  | unspawned e failed after waited => exact (keeps.waited whole waited agrees holds).2
  | unready pid prior left unready after waited => exact sealed waited agrees keeps true
  | ready pid spawned prior left ready after waited =>
    have start : Agrees crates (executor.launched session pid).writer (executor.launched session pid).disk observations
        observations := agrees
    obtain ⟨agrees', keeps⟩ := Keeps.waited whole waited start keeps holds
    rw [history.todo apart agrees]
    exact keeps.issueRequests whole member ran apart (closed (clean prior)) history (clean prior) agrees'

-- Every moment of a run holds a history; behind a stored failure it is the old one.
theorem Keeps.of_run (whole : run.io.log.Whole) (member : run ∈ runs)
    (distinct : Set.InjOn crates.sha.hex (requestTexts crates executor)) {file : Option Bytes}
    (holding : Holding crates observations file) (history : History crates executor runs observations) :
    Keeps crates (Extends crates executor runs observations)
      (executor.run crates run.io run.generation file).disk := by
  have holds : Extends crates executor runs observations observations := ⟨history, fun _ => rfl⟩
  unfold CanaryExecutor.run
  dsimp only
  cases ran : executor.checkRunnable crates run.io run.generation with
  | error e =>
    intro content inside
    rw [List.mem_singleton.mp inside]
    exact ⟨observations, holding, holds⟩
  | ok u =>
    have apart := observationIds_nodup ran distinct
    cases opened : executor.openLog crates run.io (LogDisk.found file) with
    | mk result after =>
      cases result with
      | error e => exact Keeps.openLog_failed whole holding holds opened
      | ok writer =>
        obtain ⟨agrees, keeps⟩ := Keeps.openLog holding holds opened
        dsimp only
        cases read : executor.recordsOn crates run.io after with
        | error e => exact keeps
        | ok records =>
          refine Keeps.resume whole member ran apart ?_ history holds ?_ agrees keeps
          · intro clean stored longer
            refine ⟨longer, ?_⟩
            rintro ⟨obs, inside, failure⟩
            exact absurd (clean obs inside) failure
          · obtain ⟨others, rejections, content, lines, held⟩ := agrees.shows
            simp only [CanaryExecutor.recordsOn, bind_eq_ok] at read
            obtain ⟨bytes, found, parsed⟩ := read
            obtain rfl := Option.some.inj (content.symm.trans (readLog_ok found))
            have whole : storedRecords crates executor.logPath (bytesOf others ++ []) = .ok others :=
              storedRecords_bytesOf executor.logPath others [] (by simp)
            rw [List.append_nil, parsed] at whole
            cases whole
            exact lines

theorem Recorded.mono {spec : CanaryRequestSpec} {obs : CanaryObservationV2} {more : List CanaryRun}
    (recorded : Recorded crates executor runs spec obs) (subset : runs ⊆ more) :
    Recorded crates executor more spec obs := by
  obtain ⟨run, member, from_run⟩ := recorded.observed
  exact ⟨run, subset member, from_run⟩

theorem Recorded.halting {spec : CanaryRequestSpec} {obs : CanaryObservationV2} {halt : Option Nat} :
    Recorded crates (executor.halting halt) runs spec obs ↔ Recorded crates executor runs spec obs := by
  have answers {request : RequestIo} {read : Read} :
      CanaryExecutor.Answers crates (executor.halting halt) request spec read ↔
        CanaryExecutor.Answers crates executor request spec read :=
    ⟨fun here => ⟨here.sent, here.first, here.result, here.inTime⟩,
      fun here => ⟨here.sent, here.first, here.result, here.inTime⟩⟩
  constructor
  · rintro ⟨run, member, ran, index, elapsed, status, digest, same, success⟩
    refine ⟨run, member, ran, index, elapsed, status, digest, same, fun here => ?_⟩
    obtain ⟨read, from_read, rest⟩ := success here
    exact ⟨read, answers.mp from_read, rest⟩
  · rintro ⟨run, member, ran, index, elapsed, status, digest, same, success⟩
    refine ⟨run, member, ran, index, elapsed, status, digest, same, fun here => ?_⟩
    obtain ⟨read, from_read, rest⟩ := success here
    exact ⟨read, answers.mpr from_read, rest⟩

theorem History.mono {more : List CanaryRun} (history : History crates executor runs observations)
    (subset : runs ⊆ more) : History crates executor more observations :=
  ⟨history.answered.imp fun _ _ recorded => recorded.mono subset, history.successes⟩

theorem History.halting {halt : Option Nat} :
    History crates (executor.halting halt) runs observations ↔ History crates executor runs observations :=
  ⟨fun history => ⟨history.answered.imp fun _ _ recorded => Recorded.halting.mp recorded, history.successes⟩,
    fun history => ⟨history.answered.imp fun _ _ recorded => Recorded.halting.mpr recorded, history.successes⟩⟩

-- Whatever is reached from a history extends it.
theorem Reached.extends (distinct : Set.InjOn crates.sha.hex (requestTexts crates executor))
    {start content : Option Bytes} {earlier : List CanaryRun} (holding : Holding crates observations start)
    (history : History crates executor earlier observations)
    (reached : Reached crates executor start runs content) :
    ∃ stored, Holding crates stored content ∧
      Extends crates executor (earlier ++ runs) observations stored := by
  induction reached with
  | start => exact ⟨observations, holding, by simpa using history, fun _ => rfl⟩
  | during runs run before after _ whole moment ih =>
    obtain ⟨middle, here, extends_middle⟩ := ih
    have longer : History crates (executor.halting run.halt) (earlier ++ (runs ++ [run])) middle := by
      refine History.halting.mpr (extends_middle.history.mono fun run member => ?_)
      simp only [List.mem_append] at member ⊢
      tauto
    have apart : Set.InjOn crates.sha.hex (requestTexts crates (executor.halting run.halt)) := distinct
    have keeps : Keeps crates (Extends crates (executor.halting run.halt) (earlier ++ (runs ++ [run])) middle)
        ((executor.halting run.halt).run crates run.io run.generation before).disk :=
      Keeps.of_run whole (by simp) apart here longer
    obtain ⟨stored, there, more⟩ := keeps after moment
    refine ⟨stored, there, History.halting.mp more.history, fun failure => ?_⟩
    have same := extends_middle.final failure
    rw [← same] at failure ⊢
    exact more.final failure

/-- At every moment of any runs over one log its observations are a prefix of the workload,
each made of its request and all but the last successes read in time from the open request's
result; behind a failure nothing is added; and a sealed log without one passes the quota's checks. -/
theorem stored_observations_follow_workload (crates : LogCrates) (executor : CanaryExecutor)
    (distinct : Set.InjOn crates.sha.hex (requestTexts crates executor)) {runs : List CanaryRun}
    {content : Option Bytes} (reached : Reached crates executor none runs content) :
    ∃ observations, storedObservations crates executor.logPath content = .ok observations ∧
      History crates executor runs observations ∧
      ((∃ obs ∈ observations, obs.status ≠ .verifiedSuccess) → ∀ later after,
        Reached crates executor content later after →
          storedObservations crates executor.logPath after = .ok observations) ∧
      ∀ bytes log, content = some bytes → SealedObservationLog.verifyBytes crates bytes = .ok log →
        (∀ obs ∈ log.observations, obs.status = .verifiedSuccess) → log.observations = observations ∧
          ∀ obs ∈ log.observations,
            checkAdmissible crates executor.identity executor.workload.manifest obs = .ok () := by
  have nothing : History crates executor [] [] := ⟨by simp, by simp⟩
  obtain ⟨observations, holding, extended⟩ := reached.extends distinct (.absent rfl) nothing
  rw [List.nil_append] at extended
  refine ⟨observations, holding.stored _, extended.history, ?_, ?_⟩
  · intro failure later after reached
    obtain ⟨stored, there, more⟩ := reached.extends distinct holding extended.history
    rw [← more.final failure]
    exact there.stored _
  · rintro bytes log rfl verified clean
    have same := holding.verified verified
    refine ⟨same, fun obs member => checkAdmissible_ok.mpr ?_⟩
    rw [same] at member clean
    obtain ⟨spec, inside, recorded⟩ := exists_of_mem_right extended.history.answered member
    obtain ⟨run, -, ran, index, elapsed, status, digest, rfl, success⟩ := recorded.observed
    have runnable := CanaryExecutor.checkRunnable_ok ran
    obtain rfl : status = .verifiedSuccess := clean _ member
    obtain ⟨read, answers, rfl, rfl⟩ := success rfl
    exact ⟨spec, answers.admissible runnable (CanaryExecutor.requests_sublist.subset (List.mem_of_mem_take inside))
      (holding.valid _ member)⟩

def twoSums : CanaryExecutor := .sample standardLogCrates [sampleRequest "sum-1", sampleRequest "sum-2"]

/-- A run that halts behind the first request, and one that goes on. -/
def firstSum : CanaryRun :=
  { io := .sample standardLogCrates fun _ => .sample "sum-1" 100, generation := .sample, halt := some 1 }

def secondSum : CanaryRun :=
  { io := .sample standardLogCrates fun _ => .sample "sum-2" 100, generation := .sample, halt := none }

def CanaryRun.leaves (run : CanaryRun) (before : Option Bytes) : Option Bytes :=
  ((twoSums.halting run.halt).run standardLogCrates run.io run.generation before).disk.file

theorem CanaryRun.leaves_reached {runs : List CanaryRun} {before : Option Bytes}
    (reached : Reached standardLogCrates twoSums none runs before) {run : CanaryRun} (whole : run.io.log.Whole) :
    Reached standardLogCrates twoSums none (runs ++ [run]) (run.leaves before) := by
  unfold CanaryRun.leaves
  exact .during runs run before _ reached whole List.mem_cons_self

theorem stored_observations_follow_workload_resumed :
    ∃ observations, storedObservations standardLogCrates twoSums.logPath
        (secondSum.leaves (firstSum.leaves none)) = .ok observations ∧
      History standardLogCrates twoSums [firstSum, secondSum] observations := by
  have digests : standardLogCrates.sha.hex (observationIdBytes twoSums.identity.generationId "sum-1"
      (twoSums.requestDigest standardLogCrates (sampleRequest "sum-1"))) ≠
      standardLogCrates.sha.hex (observationIdBytes twoSums.identity.generationId "sum-2"
        (twoSums.requestDigest standardLogCrates (sampleRequest "sum-2"))) := by decide +kernel
  have distinct : Set.InjOn standardLogCrates.sha.hex (requestTexts standardLogCrates twoSums) := by
    have requests : twoSums.requests = [sampleRequest "sum-1", sampleRequest "sum-2"] := rfl
    rintro _ ⟨a, aIn, rfl⟩ _ ⟨b, bIn, rfl⟩ same
    rw [requests, List.mem_pair] at aIn bIn
    rcases aIn with rfl | rfl <;> rcases bIn with rfl | rfl
    · rfl
    · exact absurd same digests
    · exact absurd same.symm digests
    · rfl
  have halted := @CanaryRun.leaves_reached _ _ .start firstSum LogIo.calm_whole
  have resumed := @CanaryRun.leaves_reached _ _ halted secondSum LogIo.calm_whole
  obtain ⟨observations, stored, history, -⟩ :=
    stored_observations_follow_workload standardLogCrates twoSums distinct resumed
  exact ⟨observations, stored, history⟩

end Runs

end SparkRsi.Supervisor
