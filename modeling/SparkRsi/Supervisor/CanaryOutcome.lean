import SparkRsi.Supervisor.CanaryHistory

set_option autoImplicit false

namespace SparkRsi.Supervisor

open Shared Canary

section Definitions

variable (crates : LogCrates) (executor : CanaryExecutor)

def foundObservations : Option Bytes → List CanaryObservationV2
  | none => []
  | some bytes =>
    match parseLog crates bytes with
    | .ok parsed => parsed.observations
    | .error _ => []

def foundLines : Option Bytes → List CanaryObservationV2
  | none => []
  | some bytes => (storedRecords crates executor.logPath bytes).toOption.elim [] observationsIn

def recordTexts (file : Option Bytes) : Set Bytes :=
  CanaryObservationV2.recordText '' {obs | obs ∈ foundLines crates executor file}

def pending (stored : List CanaryObservationV2) : List CanaryRequestSpec :=
  executor.requests.filter fun spec =>
    executor.requestObservationId crates spec ∉ stored.map CanaryObservationV2.observationId

/-- After `n` requests that are answered within the limits comes one whose answer is as expected
but whose memory is over the limit, or unreadable. -/
inductive RefusedAfter (io : RunIo) (pid : Option UInt32) : Nat → List CanaryRequestSpec → Nat → Prop where
  | here (index : Nat) (spec : CanaryRequestSpec) (rest : List CanaryRequestSpec) (read : Read)
      (answers : CanaryExecutor.Answers crates executor (io.request index) spec read)
      (above : executor.memoryRefusal (io.request index) pid ≠ none) : RefusedAfter io pid index (spec :: rest) 0
  | later (index : Nat) (spec : CanaryRequestSpec) (rest : List CanaryRequestSpec) (n : Nat) (read : Read)
      (answers : CanaryExecutor.Answers crates executor (io.request index) spec read)
      (within : executor.memoryRefusal (io.request index) pid = none)
      (refused : RefusedAfter io pid (index + 1) rest n) : RefusedAfter io pid index (spec :: rest) (n + 1)

inductive StopsUnseen (io : RunIo) (stored : List CanaryObservationV2) : Nat → Prop where
  | unready (left : pending crates executor stored ≠ [])
      (unready : CanaryExecutor.readies crates executor io.secret io.attempts = false) :
      StopsUnseen io stored stored.length
  | refused (pid : UInt32) (spawned : io.spawned = .ok pid)
      (ready : CanaryExecutor.readies crates executor io.secret io.attempts = true) (n : Nat)
      (refused : RefusedAfter crates executor io (some pid) 0 (pending crates executor stored) n) :
      StopsUnseen io stored (stored.length + n)

end Definitions

section Loop

variable {crates : LogCrates} {executor : CanaryExecutor} {io : RunIo}

variable (crates executor io) in
/-- What the request loop leaves of a log with these observations, unless the run fails. -/
inductive LoopLaw (index : Nat) (todo : List CanaryRequestSpec) (loop : RequestLoop)
    (lines observations : List CanaryObservationV2) : CanaryExecutor.Step → Prop where
  | failed (e : String) (after : RequestLoop) : LoopLaw index todo loop lines observations (.failed e after)
  | halted (after : RequestLoop) : LoopLaw index todo loop lines observations (.halted after)
  | torn (step : CanaryExecutor.Step) (torn : Torn io.log step.loop.disk) :
      LoopLaw index todo loop lines observations step
  | done (after : RequestLoop) (new : List CanaryObservationV2)
      (seen : ∀ n, ¬RefusedAfter crates executor io loop.generation.pid index todo n)
      (header : after.writer.header = loop.writer.header)
      (reverted : after.summary.reverted = loop.summary.reverted)
      (agrees : Agrees crates after.writer after.disk (lines ++ new) (observations ++ new)) :
      LoopLaw index todo loop lines observations (.next after)
  | unseen (after : RequestLoop) (new : List CanaryObservationV2)
      (refused : RefusedAfter crates executor io loop.generation.pid index todo new.length)
      (admissible : ∀ obs ∈ new,
        checkAdmissible crates executor.identity executor.workload.manifest obs = .ok ())
      (header : after.writer.header = loop.writer.header)
      (agrees : Agrees crates after.writer after.disk (lines ++ new) (observations ++ new)) :
      LoopLaw index todo loop lines observations (.stopped after)
  | failing (after : RequestLoop) (new : List CanaryObservationV2)
      (seen : ∀ n, ¬RefusedAfter crates executor io loop.generation.pid index todo n)
      (failure : ∃ obs ∈ new, obs.status ≠ .verifiedSuccess)
      (header : after.writer.header = loop.writer.header)
      (agrees : Agrees crates after.writer after.disk (lines ++ new) (observations ++ new)) :
      LoopLaw index todo loop lines observations (.stopped after)

theorem requestLoop_law (runnable : CanaryExecutor.Runnable crates executor) {index : Nat}
    {todo : List CanaryRequestSpec} {loop : RequestLoop} {lines observations : List CanaryObservationV2}
    (members : ∀ spec ∈ todo, spec ∈ executor.workload.manifest.requests)
    (apart : (todo.map (executor.requestObservationId crates)).Nodup)
    (fresh : ∀ spec ∈ todo, ∀ other ∈ observations, other.observationId ≠ executor.requestObservationId crates spec)
    (agrees : Agrees crates loop.writer loop.disk lines observations) :
    LoopLaw crates executor io index todo loop lines observations
      (executor.requestLoop crates io index todo loop) := by
  induction todo generalizing index loop lines observations with
  | nil => exact .done loop [] (fun _ refused => by cases refused) rfl rfl (by simpa using agrees)
  | cons spec rest ih =>
    have law : CanaryExecutor.StepLaw crates executor io (io.request index) spec loop lines observations
        (executor.requestStep crates io (io.request index) spec loop) :=
      CanaryExecutor.requestStep_law agrees (fresh spec List.mem_cons_self)
    simp only [CanaryExecutor.requestLoop]
    generalize executor.requestStep crates io (io.request index) spec loop = step at law ⊢
    have member := members spec List.mem_cons_self
    cases law with
    | refused reason after concluded _ _ header kept =>
      obtain ⟨read, answers, above⟩ := CanaryExecutor.conclude_refused concluded
      refine .unseen after [] (.here index spec rest read answers ?_) (by simp) header (by simpa using kept.agrees)
      simp [above]
    | unrecorded obs e after _ _ => exact .failed e after
    | torn step torn =>
      cases step with
      | next loop =>
        have spoiled : Damaged (executor.requestLoop crates io (index + 1) rest loop).loop.disk :=
          CanaryExecutor.requestLoop_damaged torn.2
        exact .torn _ ⟨torn.1, spoiled⟩
      | stopped loop => exact .torn _ torn
      | halted loop => exact .torn _ torn
      | failed e loop => exact .torn _ torn
    | recorded obs step concluded leaves generation reverted header agrees' grows =>
      cases step with
      | failed e loop => exact .failed e loop
      | halted loop => exact .halted loop
      | stopped after =>
        obtain ⟨-, failure⟩ | ⟨impossible, -⟩ := leaves
        · refine .failing after [obs] ?_ ⟨obs, by simp, failure⟩ header agrees'
          intro n refused
          -- An answer that could be refused is a success.
          cases refused with
          | here _ _ _ read answers above =>
            have expected := concluded.symm.trans answers.conclude
            cases refusal : executor.memoryRefusal (io.request index) loop.generation.pid with
            | none => exact above refusal
            | some reason => simp [refusal] at expected
          | later _ _ _ n read answers within _ =>
            have expected := concluded.symm.trans answers.conclude
            rw [within] at expected
            obtain rfl := Except.ok.inj expected
            exact failure rfl
        · simp at impossible
      | next after =>
        have success : obs.status = .verifiedSuccess := by
          rcases leaves with ⟨⟨⟩, -⟩ | ⟨-, success⟩
          exact success
        obtain ⟨read, answers, within, observed⟩ := CanaryExecutor.conclude_success concluded success
        have pid : after.generation.pid = loop.generation.pid := congrArg GenerationInfo.pid generation
        have valid := CanaryExecutor.conclude_valid runnable member concluded
        have admissible : checkAdmissible crates executor.identity executor.workload.manifest obs = .ok () := by
          subst observed
          exact checkAdmissible_ok.mpr ⟨spec, answers.admissible runnable member valid⟩
        have id := CanaryExecutor.conclude_observationId concluded
        rw [List.map_cons, List.nodup_cons] at apart
        have fresh' : ∀ other ∈ rest, ∀ stored ∈ observations ++ [obs],
            stored.observationId ≠ executor.requestObservationId crates other := by
          intro other inside stored found
          rcases List.mem_append.mp found with old | new
          · exact fresh other (List.mem_cons_of_mem _ inside) stored old
          · rw [List.mem_singleton.mp new, id]
            exact fun same => apart.1 (List.mem_map.mpr ⟨other, inside, same.symm⟩)
        have law : LoopLaw crates executor io (index + 1) rest after (lines ++ [obs]) (observations ++ [obs])
            (executor.requestLoop crates io (index + 1) rest after) :=
          ih (fun other inside => members other (List.mem_cons_of_mem _ inside)) apart.2 fresh' agrees'
        have later (seen : ∀ n, ¬RefusedAfter crates executor io after.generation.pid (index + 1) rest n) (n : Nat) :
            ¬RefusedAfter crates executor io loop.generation.pid index (spec :: rest) n := by
          intro refused
          cases refused with
          | here _ _ _ _ _ above => exact above within
          | later _ _ _ n _ _ _ refused => exact seen n (pid.symm ▸ refused)
        dsimp only
        generalize executor.requestLoop crates io (index + 1) rest after = result at law ⊢
        cases law with
        | failed e last => exact .failed e last
        | halted last => exact .halted last
        | torn _ torn => exact .torn _ torn
        | done last new seen header' reverted' agrees'' =>
          refine .done last (obs :: new) (later seen) (header'.trans header) (reverted'.trans reverted) ?_
          simpa [CanaryExecutor.Step.loop] using agrees''
        | unseen last new refused clean header' agrees'' =>
          refine .unseen last (obs :: new) ?_ ?_ (header'.trans header) ?_
          · rw [List.length_cons]
            exact .later index spec rest new.length read answers within (pid ▸ refused)
          · simpa using ⟨admissible, clean⟩
          · simpa using agrees''
        | failing last new seen failure header' agrees'' =>
          refine .failing last (obs :: new) (later seen) ?_ (header'.trans header) ?_
          · obtain ⟨bad, inside, status⟩ := failure
            exact ⟨bad, List.mem_cons_of_mem _ inside, status⟩
          · simpa using agrees''

end Loop

section Outcome

variable {crates : LogCrates} {executor : CanaryExecutor} {io : RunIo} {stored : List CanaryObservationV2}

theorem RefusedAfter.unique {pid : Option UInt32} {index first second : Nat} {todo : List CanaryRequestSpec}
    (one : RefusedAfter crates executor io pid index todo first)
    (other : RefusedAfter crates executor io pid index todo second) : first = second := by
  induction one generalizing second with
  | here index spec rest read answers above =>
    cases other with
    | here => rfl
    | later _ _ _ n read answers within refused => exact absurd within above
  | later index spec rest n read answers within refused ih =>
    cases other with
    | here _ _ _ read answers above => exact absurd within above
    | later _ _ _ m read answers within refused => rw [ih refused]

theorem StopsUnseen.unique {first second : Nat} (one : StopsUnseen crates executor io stored first)
    (other : StopsUnseen crates executor io stored second) : first = second := by
  cases one with
  | unready left unready =>
    cases other with
    | unready => rfl
    | refused pid spawned ready n refused => simp [unready] at ready
  | refused pid spawned ready n refused =>
    cases other with
    | unready left unready => simp [unready] at ready
    | refused again spawned' ready' m refused' =>
      obtain rfl := Except.ok.inj (spawned.symm.trans spawned')
      rw [refused.unique refused']

theorem todo_pending {writer : ObservationLogWriter} {disk : LogDisk} {lines : List CanaryObservationV2}
    (agrees : Agrees crates writer disk lines stored) :
    executor.todo crates writer = pending crates executor stored := by
  refine List.filter_congr fun spec _ => ?_
  rw [Bool.eq_iff_iff, Bool.not_eq_true', ← Bool.not_eq_true, agrees.contains, decide_eq_true_iff]

theorem Waited.sealed {before after : Session} {lines : List CanaryObservationV2} {revert : Bool}
    {log : SealedObservationLog} {summary : ExecutionSummary} (waited : Waited io before after)
    (agrees : Agrees crates before.writer before.disk lines stored)
    (sealed : (CanaryExecutor.finish crates io after revert).1 = .ok (.sealed log summary)) :
    log.header = before.writer.header ∧ log.observations = stored ∧
      (log.observations.map CanaryObservationV2.observationId).Nodup ∧
      summary.reverted = (revert || before.summary.reverted) := by
  rcases waited.kept agrees with kept | torn
  · rcases CanaryExecutor.finish_cases kept.agrees revert with
      ⟨⟨e, failed⟩, -⟩ | ⟨_, _, _, found, -, -, header, same, reverted⟩
    · rw [failed] at sealed
      cases sealed
    · rw [found] at sealed
      cases sealed
      obtain ⟨records, rejections, -, -, held⟩ := agrees.shows
      exact ⟨header.trans (congrArg _ waited.writer), same, same ▸ held.sound.apart,
        reverted.trans (by rw [waited.reverted])⟩
  · obtain ⟨e, failed⟩ : ∃ e, (CanaryExecutor.finish crates io after revert).1 = .error e :=
      CanaryExecutor.finish_damaged torn.2 revert
    rw [failed] at sealed
    cases sealed

variable (crates executor io stored) in
inductive Reverted (observations : List CanaryObservationV2) : Prop where
  | unseen (new : List CanaryObservationV2) (stops : StopsUnseen crates executor io stored (stored.length + new.length))
      (admissible : ∀ obs ∈ new, checkAdmissible crates executor.identity executor.workload.manifest obs = .ok ())
      (same : observations = stored ++ new) : Reverted observations
  | failing (failure : ∃ obs ∈ observations, obs.status ≠ .verifiedSuccess)
      (seen : ∀ n, StopsUnseen crates executor io stored n → ∃ obs ∈ stored, obs.status ≠ .verifiedSuccess) :
      Reverted observations

theorem issueRequests_damaged {todo : List CanaryRequestSpec} {session : Session} {log : SealedObservationLog}
    {summary : ExecutionSummary}
    (damaged : Damaged (executor.requestLoop crates io 0 todo (RequestLoop.start session)).loop.disk) :
    (executor.issueRequests crates io todo session).1 ≠ .ok (.sealed log summary) := by
  have unsealed (loop : RequestLoop) (revert : Bool) (damaged : Damaged loop.disk) :
      (CanaryExecutor.finish crates io (CanaryExecutor.drainStrays io loop.toSession io.settleStrays) revert).1 ≠
        .ok (.sealed log summary) := by
    intro sealed
    have drained : Waited io loop.toSession (CanaryExecutor.drainStrays io loop.toSession io.settleStrays) :=
      CanaryExecutor.drainStrays_waited _ _
    obtain ⟨e, failed⟩ : ∃ e, (CanaryExecutor.finish crates io
        (CanaryExecutor.drainStrays io loop.toSession io.settleStrays) revert).1 = .error e :=
      CanaryExecutor.finish_damaged (drained.rejected.damaged damaged) revert
    rw [failed] at sealed
    cases sealed
  unfold CanaryExecutor.issueRequests
  generalize executor.requestLoop crates io 0 todo (RequestLoop.start session) = step at damaged ⊢
  cases step with
  | failed e loop => simp
  | halted loop => simp
  | next loop => exact unsealed loop false damaged
  | stopped loop => exact unsealed loop true damaged

theorem issueRequests_sealed (runnable : CanaryExecutor.Runnable crates executor) {session : Session}
    {pid : UInt32} {lines : List CanaryObservationV2} {log : SealedObservationLog}
    {summary : ExecutionSummary}
    (apart : (executor.requests.map (executor.requestObservationId crates)).Nodup)
    (spawned : io.spawned = .ok pid) (running : session.generation.pid = some pid)
    (ready : CanaryExecutor.readies crates executor io.secret io.attempts = true)
    (unreverted : session.summary.reverted = false)
    (agrees : Agrees crates session.writer session.disk lines stored)
    (sealed : (executor.issueRequests crates io (pending crates executor stored) session).1 =
      .ok (.sealed log summary)) (reverted : summary.reverted = true) :
    log.header = session.writer.header ∧ (log.observations.map CanaryObservationV2.observationId).Nodup ∧
      Reverted crates executor io stored log.observations := by
  have law : LoopLaw crates executor io 0 (pending crates executor stored) (RequestLoop.start session) lines stored
      (executor.requestLoop crates io 0 (pending crates executor stored) (RequestLoop.start session)) := by
    refine requestLoop_law runnable ?_ ?_ ?_ agrees
    · exact fun spec inside => CanaryExecutor.requests_sublist.subset (List.mem_of_mem_filter inside)
    · exact apart.sublist (List.filter_sublist.map _)
    · intro spec inside other found same
      have fresh := List.of_mem_filter inside
      rw [decide_eq_true_iff] at fresh
      exact fresh (List.mem_map.mpr ⟨other, found, same⟩)
  have unspoiled : ¬Damaged (executor.requestLoop crates io 0 (pending crates executor stored)
      (RequestLoop.start session)).loop.disk := fun damaged => issueRequests_damaged damaged sealed
  unfold CanaryExecutor.issueRequests at sealed
  generalize executor.requestLoop crates io 0 (pending crates executor stored) (RequestLoop.start session) = step
    at law sealed unspoiled
  have drained (loop : RequestLoop) :
      Waited io loop.toSession (CanaryExecutor.drainStrays io loop.toSession io.settleStrays) :=
    CanaryExecutor.drainStrays_waited _ _
  cases law with
  | failed e after => cases sealed
  | halted after => cases sealed
  | torn _ torn => exact absurd torn.2 unspoiled
  | done after new seen header kept agrees' =>
    obtain ⟨-, -, -, same⟩ := (drained after).sealed agrees' sealed
    rw [reverted, kept, Bool.false_or] at same
    exact absurd same.symm (by simp [RequestLoop.start, unreverted])
  | unseen after new refused admissible header agrees' =>
    obtain ⟨opened, same, distinct, -⟩ := (drained after).sealed agrees' sealed
    refine ⟨opened.trans header, distinct,
      .unseen new (.refused pid spawned ready new.length ?_) admissible same⟩
    rw [← running]
    exact refused
  | failing after new seen failure header agrees' =>
    obtain ⟨opened, same, distinct, -⟩ := (drained after).sealed agrees' sealed
    refine ⟨opened.trans header, distinct, .failing ?_ ?_⟩
    · obtain ⟨obs, inside, status⟩ := failure
      exact ⟨obs, by simp [same, inside], status⟩
    · intro n stops
      cases stops with
      | unready left unready => simp [ready] at unready
      | refused other spawned' _ n refused =>
        obtain rfl := Except.ok.inj (spawned.symm.trans spawned')
        refine absurd ?_ (seen n)
        change RefusedAfter crates executor io session.generation.pid 0 _ n
        rwa [running]

-- A stored failure is among the observations the parser keeps of its lines.
theorem failure_of_priorFailure {header : LogHeader} {records : List LogRecord}
    {rejections : List LogRejection} {reason : String} (held : Holds crates header records stored rejections)
    (distinct : Set.InjOn crates.sha.hex (CanaryObservationV2.recordText '' {obs | obs ∈ observationsIn records}))
    (prior : CanaryExecutor.priorFailure records = some reason) :
    ∃ obs ∈ stored, obs.status ≠ .verifiedSuccess := by
  have failing : ¬∀ obs ∈ observationsIn records, obs.status = .verifiedSuccess := by
    rw [← priorFailure_none, prior]
    simp
  push Not at failing
  obtain ⟨obs, inside, failure⟩ := failing
  obtain ⟨other, kept, -, same⟩ := held.sound.covered obs inside
  have texts := distinct ⟨other, held.sound.stored other kept, rfl⟩ ⟨obs, inside, rfl⟩ same
  rw [CanaryObservationV2.recordText_injective texts] at kept
  exact ⟨obs, kept, failure⟩

-- The log as a run found it, once it is open and its lines are read again.
theorem openLog_found {file : Option Bytes} {writer : ObservationLogWriter} {after : LogDisk}
    {records : List LogRecord}
    (opened : executor.openLog crates io (LogDisk.found file) = (.ok writer, after))
    (read : executor.recordsOn crates io after = .ok records) :
    CanaryExecutor.Binds executor writer.header ∧ observationsIn records = foundLines crates executor file ∧
      ∃ rejections, Holds crates writer.header records (foundObservations crates file) rejections ∧
        Agrees crates writer after (observationsIn records) (foundObservations crates file) := by
  obtain ⟨binds, -, here⟩ := CanaryExecutor.openLog_ok opened
  have reread {others : List LogRecord} (content : after.file = some (bytesOf others)) : records = others := by
    simp only [CanaryExecutor.recordsOn, bind_eq_ok] at read
    obtain ⟨bytes, found, parsed⟩ := read
    obtain rfl := Option.some.inj (content.symm.trans (readLog_ok found))
    have whole : storedRecords crates executor.logPath (bytesOf others ++ []) = .ok others :=
      storedRecords_bytesOf executor.logPath others [] (by simp)
    rw [List.append_nil, parsed] at whole
    exact Except.ok.inj whole
  refine ⟨binds, ?_⟩
  rcases here with ⟨absent, bytes, -, agrees⟩ | ⟨others, tail, parsed, content, inside, parses, cut, kept⟩
  · obtain rfl : file = none := absent
    obtain ⟨others, rejections, written, lines, held⟩ := agrees.shows
    obtain rfl := reread written
    rw [lines]
    exact ⟨rfl, rejections, held, agrees⟩
  · obtain rfl : file = some (bytesOf others ++ tail) := content
    obtain rfl := reread cut
    have lines : storedRecords crates executor.logPath (bytesOf records ++ tail) = .ok records :=
      storedRecords_bytesOf executor.logPath records tail inside
    have found : foundObservations crates (some (bytesOf records ++ tail)) = parsed.observations := by
      simp [foundObservations, parses]
    rw [found]
    obtain ⟨again, rejections, written, -, held⟩ := kept.agrees.shows
    have same : records = again := by
      have bytes : bytesOf again ++ [] = bytesOf records := by
        simpa using Option.some.inj (written.symm.trans cut)
      exact (bytesOf_inj (by simp) bytes).symm
    subst same
    refine ⟨?_, rejections, held, kept.agrees⟩
    simp [foundLines, lines, Except.toOption]

-- A run that returns a sealed log as reverted, from any content of the log.
theorem run_sealed_reverted {generation : GenerationInfo} {file : Option Bytes} {log : SealedObservationLog}
    {summary : ExecutionSummary} (requests : Set.InjOn crates.sha.hex (requestTexts crates executor))
    (distinct : Set.InjOn crates.sha.hex (recordTexts crates executor file))
    (sealed : (executor.run crates io generation file).outcome = .ok (.sealed log summary))
    (reverted : summary.reverted = true) :
    executor.checkRunnable crates io generation = .ok () ∧ CanaryExecutor.Binds executor log.header ∧
      (log.observations.map CanaryObservationV2.observationId).Nodup ∧
      Reverted crates executor io (foundObservations crates file) log.observations := by
  unfold CanaryExecutor.run at sealed
  dsimp only at sealed
  cases ran : executor.checkRunnable crates io generation with
  | error e => simp [ran] at sealed
  | ok u =>
    have runnable := CanaryExecutor.checkRunnable_ok ran
    have apart := observationIds_nodup ran requests
    rw [ran] at sealed
    dsimp only at sealed
    cases opened : executor.openLog crates io (LogDisk.found file) with
    | mk result after =>
      rw [opened] at sealed
      cases result with
      | error e => cases sealed
      | ok writer =>
        dsimp only at sealed
        cases read : executor.recordsOn crates io after with
        | error e => simp [read] at sealed
        | ok records =>
          rw [read] at sealed
          obtain ⟨binds, lines, rejections, held, agrees⟩ := openLog_found opened read
          generalize start : Session.mk writer after (.planned executor.requests.length) generation = session at sealed
          have unreverted : session.summary.reverted = false := by rw [← start]; rfl
          have header : session.writer.header = writer.header := by rw [← start]
          have todo : executor.todo crates session.writer =
              pending crates executor (foundObservations crates file) := by
            rw [← start]
            exact todo_pending agrees
          replace agrees : Agrees crates session.writer session.disk (observationsIn records)
            (foundObservations crates file) := by rwa [← start]
          have resumed : CanaryExecutor.Resumed crates executor io records session
              (executor.resume crates io records session) := CanaryExecutor.resume_resumed records session
          change (executor.resume crates io records session).1 = _ at sealed
          refine ⟨rfl, ?_⟩
          generalize executor.resume crates io records session = result at resumed sealed
          cases resumed with
          | failedBefore reason prior after waited =>
            obtain ⟨opened, same, apart, -⟩ := waited.sealed agrees sealed
            rw [recordTexts, ← lines] at distinct
            have failure := failure_of_priorFailure held distinct prior
            rw [opened, header, same]
            exact ⟨binds, same ▸ apart, .failing failure fun _ _ => failure⟩
          | complete prior done after waited =>
            obtain ⟨-, -, -, same⟩ := waited.sealed agrees sealed
            simp [reverted, unreverted] at same
          | unspawned e failed after waited => cases sealed
          | unready pid prior left unready after waited =>
            obtain ⟨opened, same, apart, -⟩ := waited.sealed agrees sealed
            rw [todo] at left
            refine ⟨?_, apart, .unseen [] (.unready left unready) (by simp) (by simpa using same)⟩
            rw [opened]
            exact header ▸ binds
          | ready pid spawned prior left ready after waited =>
            have start : Agrees crates (executor.launched session pid).writer (executor.launched session pid).disk
                (observationsIn records) (foundObservations crates file) := agrees
            rw [todo] at sealed
            rcases waited.kept start with kept | torn
            · have running : after.generation.pid = some pid := congrArg GenerationInfo.pid waited.generation
              obtain ⟨opened, apart, observed⟩ := issueRequests_sealed runnable apart spawned running ready
                (waited.reverted.trans unreverted) kept.agrees sealed reverted
              refine ⟨?_, apart, observed⟩
              rw [opened, waited.writer]
              exact header ▸ binds
            · have spoiled : Damaged (executor.requestLoop crates io 0 (pending crates executor
                  (foundObservations crates file)) (RequestLoop.start after)).loop.disk :=
                CanaryExecutor.requestLoop_damaged torn.2
              exact absurd sealed (issueRequests_damaged spoiled)

end Outcome

section Calm

variable {crates : LogCrates} {executor : CanaryExecutor} {io : RunIo}

-- On a disk where everything works a worker that exits before it is ready leaves the sealed log of what was
-- there.
theorem run_calm_unready {generation : GenerationInfo} {pid : UInt32} {body : List LogRecord}
    {openedAtMs : UInt64} {rejections : List LogRejection} {stored : List CanaryObservationV2}
    (calm : io.log = .calm) (spawned : io.spawned = .ok pid) (exited : io.attempts = [.idle true])
    (ran : executor.checkRunnable crates io generation = .ok ())
    (held : Holds crates (LogHeader.new executor.identity.generationId executor.workload.digest
        executor.identity.executableDigest openedAtMs)
      (.header (LogHeader.new executor.identity.generationId executor.workload.digest
        executor.identity.executableDigest openedAtMs) :: body) stored rejections)
    (clean : ∀ obs ∈ observationsIn body, obs.status = .verifiedSuccess)
    (left : pending crates executor stored ≠ []) :
    let header := LogHeader.new executor.identity.generationId executor.workload.digest
      executor.identity.executableDigest openedAtMs
    let file := bytesOf (.header header :: body)
    ∃ summary, (executor.run crates io generation (some file)).outcome = .ok (.sealed
        { path := some executor.logPath, header, observations := stored, rejections
          sealedBy := { observationCount := UInt64.ofNat stored.length, qualifyingCount := qualifying stored
                        logDigest := logDigestOf crates file, sealedAtMs := io.sealedAtMs } } summary) ∧
      summary.reverted = true := by
  intro header file
  have valid : header.validate = .ok () :=
    CanaryExecutor.header_valid (CanaryExecutor.checkRunnable_ok ran) openedAtMs
  have records : executor.recordsOn crates io (.found (some file)) = .ok (.header header :: body) := by
    have parsed : storedRecords crates executor.logPath (file ++ []) = .ok (.header header :: body) :=
      storedRecords_bytesOf executor.logPath _ [] (by simp)
    rw [List.append_nil] at parsed
    simp only [CanaryExecutor.recordsOn, calm, readLog, LogIo.calm, LogDisk.found, okOr, bind, Except.bind,
      parsed]
  let writer : ObservationLogWriter :=
    { path := executor.logPath, header, seen := seenOf crates.sha stored }
  have opened : executor.openLog crates io (.found (some file)) = (.ok writer, .found (some file)) := by
    have resumable : executor.resumableHeader crates io (.found (some file)) (LogHeader.new
        executor.identity.generationId executor.workload.digest executor.identity.executableDigest io.nowMs) =
        .ok header := by
      simp only [CanaryExecutor.resumableHeader, records, bind, Except.bind, refuseIf]
      simp [header, LogHeader.new, pure, Except.pure]
    have parsed : ObservationLogWriter.reopenable crates io.log (.found (some file)) executor.logPath header =
        .ok (file, { header := some header, observations := stored, rejections, sealAt := none
                     completeEnd := file.length, partialTail := false }) := by
      have parses : parseLog crates file = .ok { header := some header, observations := stored, rejections
                                                 sealAt := none, completeEnd := file.length, partialTail := false } :=
        held.parseLog
      simp only [ObservationLogWriter.reopenable, valid, calm, readLog, LogIo.calm, LogDisk.found, okOr, bind,
        Except.bind, parses]
      simp [refuseIf, faulty, Except.mapError, pure, Except.pure]
    simp only [CanaryExecutor.openLog, LogDisk.found] at resumable ⊢
    simp only [resumable, ObservationLogWriter.reopen]
    rw [LogDisk.found] at parsed
    rw [parsed]
    rfl
  have prior : CanaryExecutor.priorFailure (.header header :: body) = none := priorFailure_none.mpr clean
  have shows : Shows crates header (observationsIn body) stored (some file) := ⟨_, rejections, rfl, rfl, held⟩
  have agrees : Agrees crates writer (.found (some file)) (observationsIn body) stored := ⟨shows, rfl⟩
  have todo : executor.todo crates writer = pending crates executor stored := todo_pending agrees
  obtain ⟨spec, rest, requests⟩ : ∃ spec rest, pending crates executor stored = spec :: rest :=
    List.exists_cons_of_ne_nil left
  have sealed : writer.sealLog crates .calm (.found (some file)) io.sealedAtMs = _ :=
    sealLog_calm rfl held io.sealedAtMs rfl
  simp only [CanaryExecutor.run, ran, opened, records, CanaryExecutor.RunResult.of, CanaryExecutor.resume,
    prior, CanaryExecutor.recovered, todo, requests, spawned, exited, CanaryExecutor.becomeReady,
    CanaryExecutor.launched, CanaryExecutor.withFailure, CanaryExecutor.finish, calm, sealed, if_true]
  exact ⟨_, rfl, rfl⟩

end Calm

end SparkRsi.Supervisor
