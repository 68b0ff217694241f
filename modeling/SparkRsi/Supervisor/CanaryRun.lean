import SparkRsi.Supervisor.CanaryExec

set_option autoImplicit false

namespace SparkRsi.Supervisor

open Shared Canary

inductive Rejected (io : LogIo) (before : LogDisk) : LogDisk → Prop where
  | refl : Rejected io before before
  | more (after : LogDisk) (reason : String) (observedAtMs : UInt64) (rejected : Rejected io before after) :
      Rejected io before (appendRejection io after reason observedAtMs).2

namespace Rejected

variable {crates : LogCrates} {io : LogIo} {before after : LogDisk} {writer : ObservationLogWriter}
  {lines observations : List CanaryObservationV2}

theorem trans {last : LogDisk} (first : Rejected io before after) (second : Rejected io after last) :
    Rejected io before last := by
  induction second with
  | refl => exact first
  | more middle reason observedAtMs _ ih => exact .more middle reason observedAtMs ih

theorem damaged (rejected : Rejected io before after) (damaged : Damaged before) : Damaged after := by
  induction rejected with
  | refl => exact damaged
  | more middle reason observedAtMs _ ih => exact appendRejection_damaged ih reason observedAtMs

theorem kept (rejected : Rejected io before after) (agrees : Agrees crates writer before lines observations) :
    Kept crates writer lines observations before after ∨ Torn io after := by
  induction rejected with
  | refl => exact .inl (Kept.refl agrees)
  | more middle reason observedAtMs _ ih =>
    rcases ih with kept | torn
    · exact (appendRejection_kept kept.agrees reason observedAtMs).imp_left kept.trans
    · exact .inr ⟨torn.1, appendRejection_damaged torn.2 reason observedAtMs⟩

end Rejected

structure Waited (io : RunIo) (before after : Session) : Prop where
  writer : after.writer = before.writer
  generation : after.generation = before.generation
  reverted : after.summary.reverted = before.summary.reverted
  rejected : Rejected io.log before.disk after.disk

namespace Waited

variable {io : RunIo} {before after : Session}

theorem refl (session : Session) : Waited io session session := ⟨rfl, rfl, rfl, .refl⟩

theorem trans {last : Session} (first : Waited io before after) (second : Waited io after last) :
    Waited io before last :=
  ⟨second.writer.trans first.writer, second.generation.trans first.generation,
    second.reverted.trans first.reverted, first.rejected.trans second.rejected⟩

theorem withFailure (waited : Waited io before after) (reason : String) :
    Waited io before (CanaryExecutor.withFailure after reason) :=
  ⟨waited.writer, waited.generation, waited.reverted, waited.rejected⟩

theorem kept {crates : LogCrates} {lines observations : List CanaryObservationV2}
    (waited : Waited io before after) (agrees : Agrees crates before.writer before.disk lines observations) :
    Kept crates after.writer lines observations before.disk after.disk ∨ Torn io.log after.disk := by
  rw [waited.writer]
  exact waited.rejected.kept agrees

end Waited

namespace CanaryExecutor

variable {crates : LogCrates} {executor : CanaryExecutor} {io : RunIo}

theorem recordRejection_waited (session : Session) (reason : String) (observedAtMs : UInt64) :
    Waited io session (recordRejection io session reason observedAtMs) := by
  have more : Rejected io.log session.disk (appendRejection io.log session.disk reason observedAtMs).2 :=
    .more _ reason observedAtMs .refl
  unfold recordRejection
  generalize appendRejection io.log session.disk reason observedAtMs = written at more ⊢
  obtain ⟨result, disk⟩ := written
  cases result <;> exact ⟨rfl, rfl, rfl, more⟩

theorem drainStrays_waited (session : Session) (strays : List (String × UInt64)) :
    Waited io session (drainStrays io session strays) := by
  unfold drainStrays
  induction strays generalizing session with
  | nil => exact .refl session
  | cons stray rest ih => exact (recordRejection_waited session stray.1 stray.2).trans (ih _)

theorem note_waited (session : Session) (nowMs : UInt64) (reason : Option String) :
    Waited io session (note io session nowMs reason) := by
  cases reason with
  | none => exact .refl session
  | some reason => exact recordRejection_waited session reason nowMs

theorem awaitResult_waited (spec : CanaryRequestSpec) (issued answered : List String) (silenceElapsed : Nat)
    (session : Session) (reads : List Read) :
    Waited io session (executor.awaitResult crates io spec issued answered silenceElapsed session reads).2 := by
  induction reads generalizing session with
  | nil => exact .refl session
  | cons read rest ih =>
    simp only [awaitResult]
    generalize executor.onReceived crates spec issued answered read.received = received
    obtain ⟨reason, ending⟩ := received
    have noted : Waited io session (note io session read.nowMs reason) :=
      note_waited session read.nowMs reason
    cases ending with
    | none => exact noted.trans (ih _)
    | some result => exact noted

theorem becomeReady_waited (session : Session) (attempts : List Attempt) :
    Waited io session (executor.becomeReady crates io session attempts).2 := by
  induction attempts generalizing session with
  | nil => exact (Waited.refl session).withFailure _
  | cons attempt rest ih =>
    cases attempt with
    | unaccepted => exact ih session
    | idle exited =>
      cases exited with
      | true => exact (Waited.refl session).withFailure _
      | false => exact ih session
    | connected handshake =>
      simp only [becomeReady]
      split
      · split
        · exact .refl session
        · exact ih session
      · exact (recordRejection_waited session _ _).trans (ih _)

variable (crates executor) in
structure Runnable : Prop where
  generation : isBlank executor.identity.generationId = false
  executable : isHexDigest executor.identity.executableDigest = true
  apart : (executor.workload.manifest.requests.map CanaryRequestSpec.requestId).Nodup
  named : ∀ spec ∈ executor.workload.manifest.requests, isBlank spec.requestId = false
  pinned : executor.workload.manifest.digest crates.sha = executor.workload.digest

theorem checkRunnable_ok {generation : GenerationInfo}
    (ran : executor.checkRunnable crates io generation = .ok ()) : Runnable crates executor := by
  simp only [checkRunnable, CandidateIdentity.validate, bind_eq_ok, exists_unit, refuseIf_eq_ok,
    Decidable.not_not, Bool.not_eq_true, Bool.not_eq_false] at ran
  obtain ⟨⟨-, -, -, executable, generation⟩, -, valid, pinned, -⟩ := ran
  obtain ⟨apart, named⟩ := executor.workload.manifest.validate_ok crates.debug valid
  exact ⟨generation, executable, apart, named, pinned⟩

theorem header_valid (runnable : Runnable crates executor) (openedAtMs : UInt64) :
    (LogHeader.new executor.identity.generationId executor.workload.digest executor.identity.executableDigest
      openedAtMs).validate = .ok () := by
  have digest : isHexDigest executor.workload.digest = true := by
    rw [← runnable.pinned]
    exact crates.sha.isHexDigest_hex _
  simp [LogHeader.validate, LogHeader.new, refuseIf, runnable.generation, runnable.executable, digest, bind,
    Except.bind]

theorem requests_sublist : executor.requests.Sublist executor.workload.manifest.requests := by
  unfold CanaryExecutor.requests
  cases executor.exec.requestLimit with
  | none => exact .refl _
  | some n => exact List.take_sublist n _

variable (crates executor) in
def readies (secret : String) : List Attempt → Bool
  | [] => false
  | .unaccepted :: rest => readies secret rest
  | .idle exited :: rest => !exited && readies secret rest
  | .connected handshake :: rest =>
    match authenticateWorkerConnection crates handshake executor.identity.generationId s!"canary-run-{secret}" with
    | .ok state => state.canExecuteFor executor.identity.generationId || readies secret rest
    | .error _ => readies secret rest

theorem becomeReady_readies (session : Session) (attempts : List Attempt) :
    (executor.becomeReady crates io session attempts).1 = readies crates executor io.secret attempts := by
  induction attempts generalizing session with
  | nil => rfl
  | cons attempt rest ih =>
    cases attempt with
    | unaccepted => exact ih session
    | idle exited =>
      cases exited with
      | true => rfl
      | false =>
        simp only [becomeReady, readies, Bool.not_false, Bool.true_and]
        exact ih session
    | connected handshake =>
      simp only [becomeReady, readies]
      cases authenticateWorkerConnection crates handshake executor.identity.generationId s!"canary-run-{io.secret}" with
      | error failure => exact ih _
      | ok state =>
        dsimp only
        split_ifs with able
        · simp [able]
        · simpa [able] using ih session

variable (crates executor) in
def ends (spec : CanaryRequestSpec) (received : Received) : Option (VerifiedStatus × Option String) :=
  (executor.onReceived crates spec [] [] received).2

-- Which requests were issued before only decides what a rejection says.
theorem onReceived_ends (spec : CanaryRequestSpec) (issued answered : List String) (received : Received) :
    (executor.onReceived crates spec issued answered received).2 = executor.ends crates spec received := by
  unfold ends onReceived
  cases received with
  | silence => rfl
  | failed e => rfl
  | frame msg =>
    cases msg with
    | executeResult protocolVersion named requestId output latency =>
      simp only [onFrame]
      split
      · rfl
      · rfl
    | _ => rfl

variable (crates executor) in
def awaited (spec : CanaryRequestSpec) (silenceElapsed : Nat) : List Read → Answer
  | [] => { status := .timeout, output := none, elapsed := silenceElapsed }
  | read :: rest =>
    match executor.ends crates spec read.received with
    | some (status, output) => { status, output, elapsed := read.elapsed }
    | none => awaited spec silenceElapsed rest

theorem awaitResult_awaited (spec : CanaryRequestSpec) (issued answered : List String) (silenceElapsed : Nat)
    (session : Session) (reads : List Read) :
    (executor.awaitResult crates io spec issued answered silenceElapsed session reads).1 =
      executor.awaited crates spec silenceElapsed reads := by
  induction reads generalizing session with
  | nil => rfl
  | cons read rest ih =>
    have same : (executor.onReceived crates spec issued answered read.received).2 = _ :=
      onReceived_ends spec issued answered read.received
    simp only [awaitResult, awaited, ← same]
    generalize executor.onReceived crates spec issued answered read.received = received
    obtain ⟨reason, ending⟩ := received
    cases ending with
    | none => exact ih _
    | some result => rfl

variable (crates executor) in
def answerTo (request : RequestIo) (spec : CanaryRequestSpec) : Answer :=
  match request.sendFault with
  | some elapsed => { status := .connectionClosed, output := none, elapsed }
  | none => executor.awaited crates spec request.silenceElapsed request.reads

variable (crates executor) in
structure Answers (request : RequestIo) (spec : CanaryRequestSpec) (read : Read) : Prop where
  sent : request.sendFault = none
  first : ∃ before after, request.reads = before ++ read :: after ∧
    ∀ earlier ∈ before, executor.ends crates spec earlier.received = none
  result : ∃ latency, read.received = .frame (.executeResult canaryProtocolVersion
    executor.identity.generationId spec.requestId spec.expectedOutput latency)
  inTime : read.elapsed ≤ (executor.deadlineMs spec).toNat * 1000000

-- Only the result of the open request ends its wait with an output.
theorem ends_success {spec : CanaryRequestSpec} {received : Received} {status : VerifiedStatus}
    {output : Option String} (ending : executor.ends crates spec received = some (status, output))
    (named : status = .verifiedSuccess ∨ status = .wrongResult) :
    ∃ text latency, output = some text ∧ received = .frame (.executeResult canaryProtocolVersion
      executor.identity.generationId spec.requestId text latency) := by
  unfold ends onReceived at ending
  cases received with
  | silence =>
    cases ending
    simp at named
  | failed e =>
    dsimp only at ending
    split at ending <;> cases ending <;> simp at named
  | frame msg =>
    cases msg with
    | executeResult protocolVersion generation requestId text latency =>
      simp only [onFrame] at ending
      split_ifs at ending with same wrong foreign
      · cases ending
        simp at named
      · cases ending
        obtain ⟨rfl, rfl⟩ := not_or.mp wrong |>.imp Decidable.not_not.mp Decidable.not_not.mp
        exact ⟨text, latency, rfl, by rw [same]⟩
      · cases ending
        simp at named
      · cases ending
        simp at named
    | heartbeat generation _ _ _ =>
      simp only [onFrame] at ending
      split_ifs at ending
      cases ending
      simp at named
    | canaryReport generation _ _ _ _ =>
      simp only [onFrame] at ending
      split_ifs at ending
      cases ending
      simp at named
    | drainComplete generation =>
      simp only [onFrame] at ending
      split_ifs at ending
      cases ending
      simp at named
    | _ => cases ending

theorem awaited_first {spec : CanaryRequestSpec} {silenceElapsed : Nat} {reads before after : List Read}
    {read : Read} {status : VerifiedStatus} {output : Option String} (split : reads = before ++ read :: after)
    (quiet : ∀ earlier ∈ before, executor.ends crates spec earlier.received = none)
    (ending : executor.ends crates spec read.received = some (status, output)) :
    executor.awaited crates spec silenceElapsed reads = { status, output, elapsed := read.elapsed } := by
  subst split
  induction before with
  | nil => simp [awaited, ending]
  | cons earlier rest ih =>
    simp only [List.cons_append, awaited, quiet earlier (by simp)]
    exact ih fun other member => quiet other (List.mem_cons_of_mem _ member)

-- A wait ends with silence or with the first read that ends it.
theorem awaited_cases (spec : CanaryRequestSpec) (silenceElapsed : Nat) (reads : List Read) :
    executor.awaited crates spec silenceElapsed reads =
        { status := .timeout, output := none, elapsed := silenceElapsed } ∨
      ∃ before read after status output, reads = before ++ read :: after ∧
        (∀ earlier ∈ before, executor.ends crates spec earlier.received = none) ∧
        executor.ends crates spec read.received = some (status, output) ∧
        executor.awaited crates spec silenceElapsed reads = { status, output, elapsed := read.elapsed } := by
  induction reads with
  | nil => exact .inl rfl
  | cons read rest ih =>
    cases ending : executor.ends crates spec read.received with
    | some result =>
      obtain ⟨status, output⟩ := result
      exact .inr ⟨[], read, rest, status, output, rfl, by simp, ending, by simp [awaited, ending]⟩
    | none =>
      simp only [awaited, ending]
      refine ih.imp_right ?_
      rintro ⟨before, first, after, status, output, rfl, quiet, ends, same⟩
      exact ⟨read :: before, first, after, status, output, rfl, by simpa [ending] using quiet, ends, same⟩

-- The expected output in time is a success.
theorem judge_expected {spec : CanaryRequestSpec} {elapsed : Nat}
    (inTime : elapsed ≤ (executor.deadlineMs spec).toNat * 1000000) :
    executor.judge crates spec { status := .verifiedSuccess, output := some spec.expectedOutput, elapsed } =
      (.verifiedSuccess, some (spec.expectedResultDigest crates.sha)) := by
  have late := not_lt.mpr inTime
  have matching : spec.matchesOutput spec.expectedOutput = true := CanaryRequestSpec.matchesOutput_iff.mpr rfl
  unfold CanaryExecutor.judge
  dsimp only
  rw [if_pos (.inl rfl), if_neg late, Option.getD_some, if_pos matching]
  rfl

theorem Answers.judge {request : RequestIo} {spec : CanaryRequestSpec} {read : Read}
    (answers : Answers crates executor request spec read) :
    executor.judge crates spec (executor.answerTo crates request spec) =
        (.verifiedSuccess, some (spec.expectedResultDigest crates.sha)) ∧
      (executor.answerTo crates request spec).elapsed = read.elapsed := by
  obtain ⟨before, after, split, quiet⟩ := answers.first
  obtain ⟨latency, frame⟩ := answers.result
  have ending : executor.ends crates spec read.received =
      some (.verifiedSuccess, some spec.expectedOutput) := by
    simp [ends, onReceived, frame, onFrame]
  have answered : executor.answerTo crates request spec =
      { status := .verifiedSuccess, output := some spec.expectedOutput, elapsed := read.elapsed } := by
    rw [answerTo, answers.sent]
    exact awaited_first split quiet ending
  rw [answered]
  exact ⟨judge_expected answers.inTime, rfl⟩

theorem judge_success {spec : CanaryRequestSpec} {answer : Answer} {digest : Option String}
    (judged : executor.judge crates spec answer = (.verifiedSuccess, digest)) :
    (answer.status = .verifiedSuccess ∨ answer.status = .wrongResult) ∧
      answer.elapsed ≤ (executor.deadlineMs spec).toNat * 1000000 ∧
      answer.output.getD "" = spec.expectedOutput := by
  unfold CanaryExecutor.judge at judged
  dsimp only at judged
  by_cases named : answer.status = .verifiedSuccess ∨ answer.status = .wrongResult
  · rw [if_pos named] at judged
    by_cases late : answer.elapsed > (executor.deadlineMs spec).toNat * 1000000
    · simp [late] at judged
    · rw [if_neg late] at judged
      by_cases matching : spec.matchesOutput (answer.output.getD "") = true
      · exact ⟨named, not_lt.mp late, CanaryRequestSpec.matchesOutput_iff.mp matching⟩
      · simp [matching] at judged
  · rw [if_neg named] at judged
    exact absurd (.inl (congrArg Prod.fst judged)) named

-- A success is judged on an answer in time, and on nothing else.
theorem answers_of_judge {request : RequestIo} {spec : CanaryRequestSpec} {digest : Option String}
    (judged : executor.judge crates spec (executor.answerTo crates request spec) = (.verifiedSuccess, digest)) :
    ∃ read, Answers crates executor request spec read := by
  obtain ⟨named, inTime, matching⟩ := judge_success judged
  unfold answerTo at named matching inTime
  cases sent : request.sendFault with
  | some elapsed => simp [sent] at named
  | none =>
    simp only [sent] at named matching inTime
    have cases : executor.awaited crates spec request.silenceElapsed request.reads = _ ∨ _ :=
      awaited_cases spec request.silenceElapsed request.reads
    rcases cases with silent | ⟨before, read, after, status, output, split, quiet, ending, same⟩
    · simp [silent] at named
    · rw [same] at named matching inTime
      obtain ⟨text, latency, rfl, frame⟩ := ends_success ending named
      obtain rfl : text = spec.expectedOutput := matching
      exact ⟨read, sent, ⟨before, after, split, quiet⟩, ⟨latency, frame⟩, inTime⟩

theorem answer_waited (request : RequestIo) (spec : CanaryRequestSpec) (loop : RequestLoop) :
    (executor.answer crates io request spec loop).1 = executor.answerTo crates request spec ∧
      Waited io loop.toSession (executor.answer crates io request spec loop).2 := by
  unfold answer answerTo
  cases request.sendFault with
  | some elapsed => exact ⟨rfl, .refl _⟩
  | none => exact ⟨awaitResult_awaited spec _ _ _ _ _, awaitResult_waited spec _ _ _ _ _⟩

theorem issue_waited (request : RequestIo) (spec : CanaryRequestSpec) (loop : RequestLoop) :
    Waited io loop.toSession (issue io request spec loop).toSession := by
  have drained : Waited io loop.toSession _ := drainStrays_waited loop.toSession request.strays
  exact ⟨drained.writer, drained.generation, drained.reverted, drained.rejected⟩

def asked (crates : LogCrates) (executor : CanaryExecutor) (io : RunIo) (request : RequestIo)
    (spec : CanaryRequestSpec) (loop : RequestLoop) : RequestLoop :=
  let issued := issue io request spec loop
  { issued with toSession := (executor.answer crates io request spec issued).2 }

theorem asked_waited (request : RequestIo) (spec : CanaryRequestSpec) (loop : RequestLoop) :
    Waited io loop.toSession (asked crates executor io request spec loop).toSession :=
  (issue_waited request spec loop).trans (answer_waited request spec _).2

theorem requestStep_settle (request : RequestIo) (spec : CanaryRequestSpec) (loop : RequestLoop) :
    executor.requestStep crates io request spec loop =
      executor.settle crates io request spec (executor.answerTo crates request spec)
        (asked crates executor io request spec loop) := by
  have answered : (executor.answer crates io request spec _).1 = _ :=
    (answer_waited request spec (issue io request spec loop)).1
  unfold requestStep asked
  rw [← answered]

def Step.loop : Step → RequestLoop
  | next loop => loop
  | stopped loop => loop
  | halted loop => loop
  | failed _ loop => loop

variable (crates) in
def Grows (header : LogHeader) (lines observations : List CanaryObservationV2) (obs : CanaryObservationV2)
    (before after : LogDisk) : Prop :=
  ∀ content ∈ after.moments, content ∈ before.moments ∨ Shows crates header lines observations content ∨
    Shows crates header (lines ++ [obs]) (observations ++ [obs]) content

variable (crates executor io) in
/-- The ways of one request on a log with these lines and observations. -/
inductive StepLaw (request : RequestIo) (spec : CanaryRequestSpec) (loop : RequestLoop)
    (lines observations : List CanaryObservationV2) : Step → Prop where
  | refused (reason : String) (after : RequestLoop)
      (concluded : executor.conclude crates spec request loop.generation.pid
        (executor.answerTo crates request spec) = .error reason)
      (generation : after.generation = loop.generation) (reverted : after.summary.reverted = loop.summary.reverted)
      (header : after.writer.header = loop.writer.header)
      (kept : Kept crates after.writer lines observations loop.disk after.disk) :
      StepLaw request spec loop lines observations (.stopped after)
  | recorded (obs : CanaryObservationV2) (step : Step)
      (concluded : executor.conclude crates spec request loop.generation.pid
        (executor.answerTo crates request spec) = .ok obs)
      (leaves : step = .stopped step.loop ∧ obs.status ≠ .verifiedSuccess ∨
        (step = .next step.loop ∨ step = .halted step.loop) ∧ obs.status = .verifiedSuccess)
      (generation : step.loop.generation = loop.generation)
      (reverted : step.loop.summary.reverted = loop.summary.reverted)
      (header : step.loop.writer.header = loop.writer.header)
      (agrees : Agrees crates step.loop.writer step.loop.disk (lines ++ [obs]) (observations ++ [obs]))
      (grows : Grows crates loop.writer.header lines observations obs loop.disk step.loop.disk) :
      StepLaw request spec loop lines observations step
  | unrecorded (obs : CanaryObservationV2) (e : String) (after : RequestLoop)
      (concluded : executor.conclude crates spec request loop.generation.pid
        (executor.answerTo crates request spec) = .ok obs)
      (grows : Grows crates loop.writer.header lines observations obs loop.disk after.disk) :
      StepLaw request spec loop lines observations (.failed e after)
  | torn (step : Step) (torn : Torn io.log step.loop.disk) : StepLaw request spec loop lines observations step

theorem conclude_ok {spec : CanaryRequestSpec} {request : RequestIo} {pid : Option UInt32} {answer : Answer}
    {obs : CanaryObservationV2} (concluded : executor.conclude crates spec request pid answer = .ok obs) :
    ∃ status digest, executor.judge crates spec answer = (status, digest) ∧
      obs = executor.observe crates spec request answer.elapsed status digest ∧
      (status = .verifiedSuccess → executor.memoryRefusal request pid = none) := by
  unfold conclude at concluded
  cases judged : executor.judge crates spec answer with
  | mk status digest =>
    rw [judged] at concluded
    dsimp only at concluded
    split at concluded
    · cases concluded
    · next clear =>
      refine ⟨status, digest, rfl, (Except.ok.inj concluded).symm, fun success => ?_⟩
      rwa [if_pos success] at clear

theorem conclude_of_judge {spec : CanaryRequestSpec} {request : RequestIo} {pid : Option UInt32}
    {answer : Answer} {digest : Option String}
    (judged : executor.judge crates spec answer = (.verifiedSuccess, digest))
    (within : executor.memoryRefusal request pid = none) :
    executor.conclude crates spec request pid answer =
      .ok (executor.observe crates spec request answer.elapsed .verifiedSuccess digest) := by
  simp only [conclude, judged, if_true, within]

theorem conclude_observationId {spec : CanaryRequestSpec} {request : RequestIo} {pid : Option UInt32}
    {answer : Answer} {obs : CanaryObservationV2}
    (concluded : executor.conclude crates spec request pid answer = .ok obs) :
    obs.observationId = executor.requestObservationId crates spec := by
  obtain ⟨status, digest, -, rfl, -⟩ := conclude_ok concluded
  rfl

-- A result has its digest, and every digest is one.
theorem judge_digest (request : RequestIo) (spec : CanaryRequestSpec) {status : VerifiedStatus}
    {digest : Option String}
    (judged : executor.judge crates spec (executor.answerTo crates request spec) = (status, digest)) :
    (∀ text, digest = some text → isHexDigest text = true) ∧
      (status = .verifiedSuccess ∨ status = .wrongResult → digest.isSome) := by
  have output (named : (executor.answerTo crates request spec).status = .verifiedSuccess ∨
      (executor.answerTo crates request spec).status = .wrongResult) :
      (executor.answerTo crates request spec).output.isSome := by
    unfold answerTo at named ⊢
    cases sent : request.sendFault with
    | some elapsed => simp [sent] at named
    | none =>
      simp only [sent] at named ⊢
      have cases : executor.awaited crates spec request.silenceElapsed request.reads = _ ∨ _ :=
        awaited_cases spec request.silenceElapsed request.reads
      rcases cases with silent | ⟨before, read, after, status, output, split, quiet, ending, same⟩
      · simp [silent] at named
      · rw [same] at named ⊢
        obtain ⟨text, latency, rfl, -⟩ := ends_success ending named
        rfl
  generalize executor.answerTo crates request spec = answer at judged output
  have hex (text : String) (digested : (answer.output.map fun output => resultDigest crates.sha (utf8 output)) = some text) :
      isHexDigest text = true := by
    obtain ⟨output, -, rfl⟩ := Option.map_eq_some_iff.mp digested
    exact crates.sha.isHexDigest_hex _
  unfold CanaryExecutor.judge at judged
  dsimp only at judged
  split_ifs at judged with named late matching
  · cases judged
    simp
  · cases judged
    exact ⟨hex, fun _ => by simpa using output named⟩
  · cases judged
    exact ⟨hex, fun _ => by simpa using output named⟩
  · cases judged
    exact ⟨hex, fun failing => absurd failing named⟩

-- What a runnable executor observes is valid.
theorem Runnable.observe_valid (runnable : Runnable crates executor) {spec : CanaryRequestSpec}
    (member : spec ∈ executor.workload.manifest.requests) {request : RequestIo} {elapsed : Nat}
    {status : VerifiedStatus} {digest : Option String}
    (hex : ∀ text, digest = some text → isHexDigest text = true)
    (result : status = .verifiedSuccess ∨ status = .wrongResult → digest.isSome) :
    (executor.observe crates spec request elapsed status digest).Valid crates.sha where
  version := rfl
  generation := runnable.generation
  request := runnable.named spec member
  requestDigest := crates.sha.isHexDigest_hex _
  workloadDigest := by
    rw [observe, CanaryObservationV2.new, ← runnable.pinned]
    exact crates.sha.isHexDigest_hex _
  executableDigest := runnable.executable
  hexResult := hex
  result := result
  derived := rfl

theorem conclude_valid (runnable : Runnable crates executor) {spec : CanaryRequestSpec}
    (member : spec ∈ executor.workload.manifest.requests) {request : RequestIo} {pid : Option UInt32}
    {obs : CanaryObservationV2}
    (concluded : executor.conclude crates spec request pid (executor.answerTo crates request spec) = .ok obs) :
    obs.Valid crates.sha := by
  obtain ⟨status, digest, judged, rfl, -⟩ := conclude_ok concluded
  obtain ⟨hex, result⟩ := judge_digest request spec judged
  exact runnable.observe_valid member hex result

theorem conclude_refused {spec : CanaryRequestSpec} {request : RequestIo} {pid : Option UInt32}
    {reason : String}
    (concluded : executor.conclude crates spec request pid (executor.answerTo crates request spec) = .error reason) :
    ∃ read, Answers crates executor request spec read ∧ executor.memoryRefusal request pid = some reason := by
  unfold conclude at concluded
  cases judged : executor.judge crates spec (executor.answerTo crates request spec) with
  | mk status digest =>
    rw [judged] at concluded
    dsimp only at concluded
    split at concluded
    · next refused =>
      obtain rfl := Except.error.inj concluded
      by_cases success : status = .verifiedSuccess
      · subst success
        obtain ⟨read, answers⟩ := answers_of_judge judged
        exact ⟨read, answers, by simpa using refused⟩
      · simp [success] at refused
    · cases concluded

theorem conclude_success {spec : CanaryRequestSpec} {request : RequestIo} {pid : Option UInt32}
    {obs : CanaryObservationV2}
    (concluded : executor.conclude crates spec request pid (executor.answerTo crates request spec) = .ok obs)
    (success : obs.status = .verifiedSuccess) :
    ∃ read, Answers crates executor request spec read ∧ executor.memoryRefusal request pid = none ∧
      obs = executor.observe crates spec request read.elapsed .verifiedSuccess
        (some (spec.expectedResultDigest crates.sha)) := by
  obtain ⟨status, digest, judged, rfl, within⟩ := conclude_ok concluded
  obtain rfl : status = .verifiedSuccess := success
  obtain ⟨read, answers⟩ := answers_of_judge judged
  obtain ⟨same, elapsed⟩ := answers.judge
  cases judged.symm.trans same
  exact ⟨read, answers, within rfl, by rw [elapsed]⟩

theorem Answers.conclude {request : RequestIo} {spec : CanaryRequestSpec} {read : Read} {pid : Option UInt32}
    (answers : Answers crates executor request spec read) :
    executor.conclude crates spec request pid (executor.answerTo crates request spec) =
      match executor.memoryRefusal request pid with
      | some reason => .error reason
      | none => .ok (executor.observe crates spec request read.elapsed .verifiedSuccess
          (some (spec.expectedResultDigest crates.sha))) := by
  obtain ⟨judged, elapsed⟩ := answers.judge
  cases refused : executor.memoryRefusal request pid <;>
    simp only [CanaryExecutor.conclude, judged, elapsed, if_true, refused]

-- A recorded success passes the checks of the quota.
theorem Answers.admissible {request : RequestIo} {spec : CanaryRequestSpec} {read : Read}
    (answers : Answers crates executor request spec read) (runnable : Runnable crates executor)
    (member : spec ∈ executor.workload.manifest.requests)
    (valid : (executor.observe crates spec request read.elapsed .verifiedSuccess
      (some (spec.expectedResultDigest crates.sha))).Valid crates.sha) :
    Admissible crates executor.identity executor.workload.manifest
      (executor.observe crates spec request read.elapsed .verifiedSuccess
        (some (spec.expectedResultDigest crates.sha))) spec where
  valid := valid
  generation := rfl
  executable := rfl
  bound := runnable.pinned.symm
  measured := rfl
  success := rfl
  request := CanaryWorkloadManifest.request_of_mem runnable.apart member
  requestDigest := rfl
  result := rfl
  elapsed := by
    have capped : (executor.deadlineMs spec).toNat ≤ spec.deadlineMs.toNat := by
      unfold deadlineMs
      cases executor.exec.deadlineCapMs with
      | none => exact le_refl _
      | some cap =>
        change (if spec.deadlineMs ≤ cap then spec.deadlineMs else cap).toNat ≤ _
        split
        · exact le_refl _
        · simp_all [UInt64.le_iff_toNat_le]
          omega
    have inTime := answers.inTime
    have micros : (UInt64.ofNat (read.elapsed / 1000)).toNat ≤ read.elapsed / 1000 := by
      rw [UInt64.toNat_ofNat']
      exact Nat.mod_le _ _
    have word := (UInt64.ofNat (read.elapsed / 1000)).toNat_lt
    change (UInt64.ofNat (read.elapsed / 1000)).toNat ≤ _
    omega

theorem settle_damaged {request : RequestIo} {spec : CanaryRequestSpec} {answer : Answer} {loop : RequestLoop}
    (damaged : Damaged loop.disk) :
    Damaged (executor.settle crates io request spec answer loop).loop.disk := by
  unfold settle
  cases executor.conclude crates spec request loop.generation.pid answer with
  | error reason =>
    have waited : Waited io loop.toSession _ :=
      recordRejection_waited loop.toSession reason request.observedAtMs
    exact waited.rejected.damaged damaged
  | ok obs =>
    have spoiled : Damaged (loop.writer.appendObservation crates io.log loop.disk obs).2.2 :=
      appendObservation_damaged damaged obs
    dsimp only
    generalize loop.writer.appendObservation crates io.log loop.disk obs = result at spoiled ⊢
    obtain ⟨_ | _, writer, disk⟩ := result
    · exact spoiled
    · dsimp only
      split_ifs <;> exact spoiled

theorem requestStep_damaged {request : RequestIo} {spec : CanaryRequestSpec} {loop : RequestLoop}
    (damaged : Damaged loop.disk) : Damaged (executor.requestStep crates io request spec loop).loop.disk := by
  have waited : Waited io loop.toSession (asked crates executor io request spec loop).toSession :=
    asked_waited request spec loop
  rw [requestStep_settle]
  exact settle_damaged (waited.rejected.damaged damaged)

-- The law of one request whose observation is not in the log yet.
theorem requestStep_law {request : RequestIo} {spec : CanaryRequestSpec} {loop : RequestLoop}
    {lines observations : List CanaryObservationV2}
    (agrees : Agrees crates loop.writer loop.disk lines observations)
    (fresh : ∀ other ∈ observations, other.observationId ≠ executor.requestObservationId crates spec) :
    StepLaw crates executor io request spec loop lines observations
      (executor.requestStep crates io request spec loop) := by
  have waited : Waited io loop.toSession (asked crates executor io request spec loop).toSession :=
    asked_waited request spec loop
  rw [requestStep_settle]
  generalize asked crates executor io request spec loop = middle at waited ⊢
  rcases waited.kept agrees with kept | torn
  · unfold settle
    rw [waited.generation]
    cases concluded : executor.conclude crates spec request loop.generation.pid
        (executor.answerTo crates request spec) with
    | error reason =>
      have noted := waited.trans (recordRejection_waited middle.toSession reason request.observedAtMs)
      have stopped := noted.withFailure s!"{spec.requestId}: {reason}"
      rcases stopped.kept agrees with kept | torn
      · exact .refused reason _ concluded stopped.generation stopped.reverted (congrArg _ stopped.writer) kept
      · exact .torn _ torn
    | ok obs =>
      have appended := appendObservation_cases io.log kept.agrees obs
      have header : middle.writer.header = loop.writer.header := congrArg _ waited.writer
      have shown (content : Option Bytes) (member : content ∈ middle.disk.moments) :
          content ∈ loop.disk.moments ∨ Shows crates loop.writer.header lines observations content :=
        header ▸ kept.moments content member
      dsimp only
      generalize middle.writer.appendObservation crates io.log middle.disk obs = result at appended ⊢
      cases appended with
      | unwritten e after unchanged =>
        refine .unrecorded obs e _ concluded fun content member => ?_
        rcases unchanged.moments content member with old | new
        · exact (shown content old).imp_right .inl
        · exact .inr (.inl (header ▸ new))
      | unsynced e after shows =>
        refine .unrecorded obs e _ concluded fun content member => ?_
        rcases List.mem_cons.mp member with rfl | old
        · exact .inr (.inr (header ▸ shows))
        · exact (shown content old).imp_right .inl
      | torn e after torn => exact .torn _ torn
      | repeated other member id =>
        exact absurd (id.trans (conclude_observationId concluded)) (fresh other member)
      | stored after next path kin agrees' =>
        have grows : Grows crates loop.writer.header lines observations obs loop.disk (middle.disk.replace after) := by
          intro content member
          rcases List.mem_cons.mp member with rfl | old
          · exact .inr (.inr (header ▸ kin ▸ agrees'.shows))
          · exact (shown content old).imp_right .inl
        have reverted : (middle.summary.count obs.status).reverted = loop.summary.reverted :=
          (middle.summary.count_reverted obs.status).trans waited.reverted
        dsimp only
        split_ifs with failing halting
        · exact .recorded obs _ concluded (.inl ⟨rfl, failing⟩) rfl reverted (kin.trans header) agrees' grows
        · exact .recorded obs _ concluded (.inr ⟨.inr rfl, Decidable.not_not.mp failing⟩) rfl reverted
            (kin.trans header) agrees' grows
        · exact .recorded obs _ concluded (.inr ⟨.inl rfl, Decidable.not_not.mp failing⟩) rfl reverted
            (kin.trans header) agrees' grows
  · exact .torn _ ⟨torn.1, settle_damaged torn.2⟩

theorem requestLoop_damaged {index : Nat} {todo : List CanaryRequestSpec} {loop : RequestLoop}
    (damaged : Damaged loop.disk) : Damaged (executor.requestLoop crates io index todo loop).loop.disk := by
  induction todo generalizing index loop with
  | nil => exact damaged
  | cons spec rest ih =>
    have spoiled : Damaged (executor.requestStep crates io (io.request index) spec loop).loop.disk :=
      requestStep_damaged damaged
    simp only [requestLoop]
    generalize executor.requestStep crates io (io.request index) spec loop = step at spoiled ⊢
    cases step with
    | next loop => exact ih spoiled
    | stopped loop => exact spoiled
    | halted loop => exact spoiled
    | failed e loop => exact spoiled

-- The seal of an open log, with the mark on a reverted run.
theorem finish_cases {session : Session} {lines observations : List CanaryObservationV2}
    (agrees : Agrees crates session.writer session.disk lines observations) (revert : Bool) :
    (∃ e, (finish crates io session revert).1 = .error e) ∧
        (Kept crates session.writer lines observations session.disk (finish crates io session revert).2.disk ∨
          Torn io.log (finish crates io session revert).2.disk ∨
          ∃ bytes, (finish crates io session revert).2.disk = session.disk.replace bytes ∧
            ShowsSealed crates session.writer.header lines observations (some bytes)) ∨
      ∃ log summary bytes, (finish crates io session revert).1 = .ok (.sealed log summary) ∧
        (finish crates io session revert).2.disk = session.disk.replace bytes ∧
        ShowsSealed crates session.writer.header lines observations (some bytes) ∧
        log.header = session.writer.header ∧ log.observations = observations ∧
        summary.reverted = (revert || session.summary.reverted) := by
  have cases := sealLog_cases io.log agrees io.sealedAtMs
  unfold finish
  cases revert with
  | false =>
    simp only [Bool.false_eq_true, if_false, Bool.false_or]
    rcases cases with ⟨e, after, sealed, kept⟩ | ⟨log, bytes, sealed, shows, header, same⟩
    · rw [sealed]
      exact .inl ⟨⟨e, rfl⟩, kept⟩
    · rw [sealed]
      exact .inr ⟨log, _, bytes, rfl, rfl, shows, header, same, rfl⟩
  | true =>
    simp only [if_true, Bool.true_or]
    rcases cases with ⟨e, after, sealed, kept⟩ | ⟨log, bytes, sealed, shows, header, same⟩
    · rw [sealed]
      exact .inl ⟨⟨e, rfl⟩, kept⟩
    · rw [sealed]
      exact .inr ⟨log, _, bytes, rfl, rfl, shows, header, same, rfl⟩

theorem finish_damaged {session : Session} (damaged : Damaged session.disk) (revert : Bool) :
    ∃ e, (finish crates io session revert).1 = .error e := by
  obtain ⟨e, sealed⟩ : ∃ e, session.writer.sealLog crates io.log session.disk io.sealedAtMs = (.error e, session.disk) :=
    sealLog_damaged damaged io.sealedAtMs
  unfold finish
  cases revert <;> exact ⟨e, by simp [sealed]⟩

variable (executor) in
structure Binds (header : LogHeader) : Prop where
  generation : header.generationId = executor.identity.generationId
  workload : header.workloadDigest = executor.workload.digest
  executable : header.candidateExecutableDigest = executor.identity.executableDigest

-- An opened log was absent or is what the last run left of it, without its partial tail.
theorem openLog_ok {disk after : LogDisk} {writer : ObservationLogWriter}
    (opened : executor.openLog crates io disk = (.ok writer, after)) :
    Binds executor writer.header ∧ writer.path = executor.logPath ∧
      ((disk.file = none ∧ ∃ bytes, after = (disk.replace []).replace bytes ∧ Agrees crates writer after [] []) ∨
        ∃ records tail parsed, disk.file = some (bytesOf records ++ tail) ∧ 10 ∉ tail ∧
          parseLog crates (bytesOf records ++ tail) = .ok parsed ∧ after.file = some (bytesOf records) ∧
          Kept crates writer (observationsIn records) parsed.observations disk after) := by
  unfold openLog at opened
  cases file : disk.file with
  | none =>
    simp only [file] at opened
    rcases create_cases io.log executor.logPath (LogHeader.new executor.identity.generationId
        executor.workload.digest executor.identity.executableDigest io.nowMs) with
      ⟨e, _, failed, -⟩ | ⟨made, bytes, created, header, path, agrees⟩
    · rw [failed] at opened
      cases opened
    · rw [created] at opened
      cases opened
      rw [header]
      exact ⟨⟨rfl, rfl, rfl⟩, path, .inl ⟨rfl, bytes, rfl, agrees⟩⟩
  | some content =>
    simp only [file] at opened
    cases resumed : executor.resumableHeader crates io disk (LogHeader.new executor.identity.generationId
        executor.workload.digest executor.identity.executableDigest io.nowMs) with
    | error e =>
      rw [resumed] at opened
      cases opened
    | ok existing =>
      rw [resumed] at opened
      have binds : Binds executor existing := by
        simp only [resumableHeader, bind_eq_ok] at resumed
        obtain ⟨records, -, found⟩ := resumed
        split at found
        · simp only [bind_eq_ok, exists_unit, refuseIf_eq_ok, not_or, Decidable.not_not] at found
          obtain ⟨⟨generation, workload, executable⟩, ⟨⟩⟩ := found
          exact ⟨generation, workload, executable⟩
        · cases found
      obtain ⟨records, tail, parsed, found, inside, read, cut, header, path, kept⟩ := reopen_ok opened
      rw [header]
      exact ⟨binds, path, .inr ⟨records, tail, parsed, file.symm.trans found, inside, read, cut, kept⟩⟩

-- A log that could not be opened is as it was, or has at most a header now.
theorem openLog_failed {disk after : LogDisk} {e : String}
    (failed : executor.openLog crates io disk = (.error e, after)) :
    after = disk ∨ Torn io.log after ∨ disk.file = none ∧ ∃ bytes, after = (disk.replace []).replace bytes ∧
      (bytes = [] ∨ ∃ header, Shows crates header [] [] (some bytes)) := by
  unfold openLog at failed
  cases file : disk.file with
  | none =>
    simp only [file] at failed
    rcases create_cases io.log executor.logPath (LogHeader.new executor.identity.generationId
        executor.workload.digest executor.identity.executableDigest io.nowMs) with
      ⟨_, _, result, here⟩ | ⟨made, bytes, created, -⟩
    · rw [result] at failed
      cases failed
      rcases here with same | torn | ⟨bytes, grown, shown⟩
      · exact .inl same
      · exact .inr (.inl torn)
      · exact .inr (.inr ⟨rfl, bytes, grown, shown.imp_right fun shows => ⟨_, shows⟩⟩)
    · rw [created] at failed
      cases failed
  | some content =>
    simp only [file] at failed
    split at failed
    · cases failed
      exact .inl rfl
    · next existing resumed =>
      have same := congrArg Prod.snd failed
      rw [reopen_failed (congrArg Prod.fst failed)] at same
      exact .inl same.symm

variable (crates executor io) in
inductive Resumed (records : List LogRecord) (session : Session) : Except String ExecutionOutcome × Session → Prop where
  | failedBefore (reason : String) (prior : priorFailure records = some reason) (after : Session)
      (waited : Waited io session after) : Resumed records session (finish crates io after true)
  | complete (prior : priorFailure records = none) (done : executor.todo crates session.writer = []) (after : Session)
      (waited : Waited io session after) : Resumed records session (finish crates io after false)
  | unspawned (e : String) (failed : io.spawned = .error e) (after : Session) (waited : Waited io session after) :
      Resumed records session (.error e, after)
  | unready (pid : UInt32) (prior : priorFailure records = none) (left : executor.todo crates session.writer ≠ [])
      (unready : readies crates executor io.secret io.attempts = false) (after : Session)
      (waited : Waited io (executor.launched session pid) after) : Resumed records session (finish crates io after true)
  | ready (pid : UInt32) (spawned : io.spawned = .ok pid) (prior : priorFailure records = none)
      (left : executor.todo crates session.writer ≠ [])
      (ready : readies crates executor io.secret io.attempts = true) (after : Session)
      (waited : Waited io (executor.launched session pid) after) :
      Resumed records session (executor.issueRequests crates io (executor.todo crates session.writer) after)

theorem resume_resumed (records : List LogRecord) (session : Session) :
    Resumed crates executor io records session (executor.resume crates io records session) := by
  have same : Waited io session (recovered records session) := ⟨rfl, rfl, rfl, .refl⟩
  unfold resume
  dsimp only
  cases prior : priorFailure records with
  | some reason => exact .failedBefore reason prior _ (same.withFailure reason)
  | none =>
    dsimp only
    have todo : executor.todo crates (recovered records session).writer =
        executor.todo crates session.writer := rfl
    rw [todo]
    generalize remaining : executor.todo crates session.writer = requests
    cases requests with
    | nil => exact .complete prior remaining _ ⟨rfl, rfl, rfl, .refl⟩
    | cons spec rest =>
      have left : executor.todo crates session.writer ≠ [] := by simp [remaining]
      dsimp only
      cases spawned : io.spawned with
      | error e => exact .unspawned e spawned _ same
      | ok pid =>
        have start : Waited io (executor.launched session pid) (executor.launched (recovered records session) pid) :=
          ⟨rfl, rfl, rfl, .refl⟩
        have readied : Waited io (executor.launched (recovered records session) pid) (executor.becomeReady crates io
            (executor.launched (recovered records session) pid) io.attempts).2 := becomeReady_waited _ io.attempts
        have waited := start.trans readied
        have ready : (executor.becomeReady crates io (executor.launched (recovered records session) pid)
            io.attempts).1 = _ := becomeReady_readies _ io.attempts
        dsimp only
        generalize executor.becomeReady crates io (executor.launched (recovered records session) pid) io.attempts =
          result at waited ready ⊢
        obtain ⟨able, after⟩ := result
        cases able with
        | false => exact .unready pid prior left ready.symm after waited
        | true =>
          rw [← remaining]
          exact .ready pid spawned prior left ready.symm after waited

end CanaryExecutor

section Sample

variable (crates : LogCrates)

def sampleRequest (requestId : String) : CanaryRequestSpec :=
  { requestId, input := "2 + 2", expectedOutput := "4", deadlineMs := 1000, nondeterminism := .exact }

def CanaryExecutor.sample (requests : List CanaryRequestSpec) : CanaryExecutor :=
  let manifest : CanaryWorkloadManifest :=
    { workloadVersion := 1, workloadId := "sums", protocolVersion := canaryProtocolVersion, requests }
  { supervisor := .new ".rsi" 49152
    rsiRoot := ".rsi"
    workload := { manifest, digest := manifest.digest crates.sha, path := "workloads/sums.json" }
    identity := .new (crates.sha.hex []) (crates.sha.hex []) (crates.sha.hex []) "gen-002"
    executable := ".rsi/generations/gen-002/.rsi-canary/worker"
    exec := .default }

theorem CanaryExecutor.sample_runnable {requests : List CanaryRequestSpec}
    (apart : (requests.map CanaryRequestSpec.requestId).Nodup)
    (named : ∀ spec ∈ requests, isBlank spec.requestId = false) :
    CanaryExecutor.Runnable crates (.sample crates requests) where
  generation := by
    have named : isBlank "gen-002" = false := by decide
    exact named
  executable := crates.sha.isHexDigest_hex []
  apart := apart
  named := named
  pinned := rfl

def WorkerMessage.sampleResult (requestId : String) : WorkerMessage :=
  .executeResult canaryProtocolVersion "gen-002" requestId "4" (some 1000)

def RequestIo.sample (requestId : String) (memoryMb : UInt64) : RequestIo :=
  { strays := []
    sendFault := none
    reads := [{ received := .frame (.sampleResult requestId), elapsed := 1000000, nowMs := 1 }]
    silenceElapsed := 1000000000
    memoryMb := .ok memoryMb
    observedAtMs := 1 }

def HandshakeIo.sample : HandshakeIo :=
  { first := .ok (.ready "gen-002" 7 "" canaryProtocolVersion)
    challenge :=
      { nonce := "00", sendFault := none
        answer := some (.ok (.authResponse (SessionAuth.computeHmac crates.sha "canary-run-key"
          "gen-002:challenge-00"))) }
    pingFault := none
    timedOut := false
    remaining := "10s"
    nowMs := 0 }

def RunIo.sample (request : Nat → RequestIo) : RunIo :=
  { nowMs := 0
    executable := .ok []
    log := .calm
    spawned := .ok 7
    secret := "key"
    attempts := [.connected (.sample crates)]
    request
    settleStrays := []
    sealedAtMs := 2 }

def GenerationInfo.sample : GenerationInfo where
  generationId := "gen-002"
  installedPath := ".rsi/generations/gen-002"
  manifestDigest := "receipt"
  state := .staged
  pid := none
  socketPath := none
  canaryTransactions := 0
  canaryErrors := 0
  maxLatencyUs := 0
  totalLatencyUs := 0
  stagedTimestamp := "2026-01-01T00:00:00+00:00"

theorem CanaryExecutor.sample_checkRunnable {requests : List CanaryRequestSpec} {io : RunIo}
    (executable : io.executable = .ok [])
    (valid : (CanaryExecutor.sample crates requests).workload.manifest.validate crates.debug = .ok ()) :
    (CanaryExecutor.sample crates requests).checkRunnable crates io .sample = .ok () := by
  have named : isBlank "gen-002" = false := by decide
  simp only [checkRunnable, CandidateIdentity.validate, CandidateIdentity.verifyExecutable,
    CandidateIdentity.digestFile, executable, valid, bind_eq_ok, exists_unit, refuseIf_eq_ok,
    Except.ok.injEq, exists_eq_left']
  simp [sample, CandidateIdentity.new, GenerationInfo.sample, named]

end Sample

end SparkRsi.Supervisor
