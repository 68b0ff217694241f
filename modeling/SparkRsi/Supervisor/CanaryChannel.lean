import SparkRsi.Supervisor.CanaryRun
import SparkRsi.Shared.Run

set_option autoImplicit false

namespace SparkRsi.Supervisor

open Shared Canary

/-- A frame on the worker's channel, with the requests issued before it was put there. -/
structure Sent where
  frame : Except String WorkerMessage
  after : List String

namespace Sent

def received (sent : Sent) : Received :=
  match sent.frame with
  | .ok msg => .frame msg
  | .error e => .failed e

def ResultFor (sent : Sent) (requestId : String) : Prop :=
  ∃ protocolVersion generationId output latency,
    sent.frame = .ok (.executeResult protocolVersion generationId requestId output latency)

end Sent

inductive Phase where
  | idle (rest : List CanaryRequestSpec)
  | waiting (request : RequestIo) (spec : CanaryRequestSpec) (rest : List CanaryRequestSpec)
  | finished (step : CanaryExecutor.Step)

structure Settled where
  spec : CanaryRequestSpec
  source : Option Sent
  concluded : Except String CanaryObservationV2

structure Channel where
  phase : Phase
  loop : RequestLoop
  outbound : List SupervisorMessage
  inbound : List Sent
  settled : List Settled

def Channel.start (todo : List CanaryRequestSpec) (session : Session) : Channel :=
  { phase := .idle todo, loop := RequestLoop.start session, outbound := [], inbound := [], settled := [] }

inductive ChannelEvent where
  | issue (request : RequestIo)
  | take
  | send (frame : Except String WorkerMessage)
  | read (elapsed : Nat) (nowMs : UInt64)
  | expire

section Definitions

variable (crates : LogCrates) (executor : CanaryExecutor) (io : RunIo)

def executeRequest (spec : CanaryRequestSpec) : SupervisorMessage :=
  .executeRequest canaryProtocolVersion executor.identity.generationId spec.requestId
    (executor.requestDigest crates spec) executor.workload.digest spec.input (executor.deadlineMs spec)

def Channel.settle (channel : Channel) (request : RequestIo) (spec : CanaryRequestSpec)
    (rest : List CanaryRequestSpec) (source : Option Sent) (answer : CanaryExecutor.Answer) : Channel :=
  let step := executor.settle crates io request spec answer channel.loop
  let phase :=
    match step with
    | .next _ => .idle rest
    | other => .finished other
  let concluded := executor.conclude crates spec request channel.loop.generation.pid answer
  { channel with phase, loop := step.loop, settled := channel.settled ++ [{ spec, source, concluded }] }

/-- One step of either side; one that is not enabled changes nothing. -/
def channelStep (channel : Channel) : ChannelEvent → Channel
  | .issue request =>
    match channel.phase with
    | .idle (spec :: rest) =>
      let issued := { channel with loop := CanaryExecutor.issue io request spec channel.loop }
      match request.sendFault with
      | some elapsed =>
        issued.settle crates executor io request spec rest none { status := .connectionClosed, output := none, elapsed }
      | none =>
        { issued with
          phase := .waiting request spec rest
          outbound := issued.outbound ++ [executeRequest crates executor spec] }
    | _ => channel
  | .take => { channel with outbound := channel.outbound.tail }
  | .send frame => { channel with inbound := channel.inbound ++ [{ frame, after := channel.loop.issued }] }
  | .read elapsed nowMs =>
    match channel.phase, channel.inbound with
    | .waiting request spec rest, sent :: inbound =>
      let (reason, ending) :=
        executor.onReceived crates spec channel.loop.issued channel.loop.answered sent.received
      let loop := { channel.loop with toSession := CanaryExecutor.note io channel.loop.toSession nowMs reason }
      let read := { channel with loop, inbound }
      match ending with
      | some (status, output) =>
        read.settle crates executor io request spec rest (some sent) { status, output, elapsed }
      | none => read
    | _, _ => channel
  | .expire =>
    match channel.phase with
    | .waiting request spec rest =>
      channel.settle crates executor io request spec rest none
        { status := .timeout, output := none, elapsed := request.silenceElapsed }
    | _ => channel

/-- A result for `spec` comes first among the pending frames that would end its wait. -/
def AnsweredAhead (spec : CanaryRequestSpec) (inbound : List Sent) : Prop :=
  ∃ before sent after, inbound = before ++ sent :: after ∧
    (∀ earlier ∈ before, executor.ends crates spec earlier.received = none) ∧ sent.ResultFor spec.requestId

def IssuesAnswered (channel : Channel) (event : ChannelEvent) : Prop :=
  ∃ request spec rest, event = .issue request ∧ request.sendFault = none ∧ channel.phase = .idle (spec :: rest) ∧
    AnsweredAhead crates executor spec channel.inbound

structure Settled.Asked (settled : Settled) : Prop where
  success : ∀ obs, settled.concluded = .ok obs → obs.status = .verifiedSuccess →
    obs.requestId = settled.spec.requestId ∧ ∃ sent latency, settled.source = some sent ∧
      sent.frame = .ok (.executeResult canaryProtocolVersion executor.identity.generationId settled.spec.requestId
        settled.spec.expectedOutput latency) ∧ settled.spec.requestId ∈ sent.after
  result : ∀ sent, settled.source = some sent → sent.ResultFor settled.spec.requestId →
    settled.spec.requestId ∈ sent.after

/-- The next frame, when it is a result sent before its request, can only become a rejection. -/
def EarlyRejected (channel : Channel) : Prop :=
  ∀ request spec rest sent inbound requestId, channel.phase = .waiting request spec rest →
    channel.inbound = sent :: inbound → sent.ResultFor requestId → requestId ∉ sent.after →
      spec.requestId ≠ requestId ∧ ∃ reason,
        (executor.onReceived crates spec channel.loop.issued channel.loop.answered sent.received).1 = some reason

end Definitions

section Order

variable {crates : LogCrates} {executor : CanaryExecutor} {io : RunIo}

-- A wait that ended without a frame records no success.
theorem Settled.asked_of_silence {spec : CanaryRequestSpec} {request : RequestIo} {pid : Option UInt32}
    {answer : CanaryExecutor.Answer} (silent : answer.status = .connectionClosed ∨ answer.status = .timeout) :
    Settled.Asked executor { spec, source := none, concluded := executor.conclude crates spec request pid answer } := by
  refine ⟨fun obs concluded success => ?_, fun sent source => by cases source⟩
  obtain ⟨status, digest, judged, rfl, -⟩ := CanaryExecutor.conclude_ok concluded
  obtain rfl : status = .verifiedSuccess := success
  obtain ⟨named, -⟩ := CanaryExecutor.judge_success judged
  rcases silent with here | here <;> simp [here] at named

theorem Settled.asked_of_frame {spec : CanaryRequestSpec} {request : RequestIo} {pid : Option UInt32}
    {sent : Sent} {status : VerifiedStatus} {output : Option String} {elapsed : Nat}
    (ending : executor.ends crates spec sent.received = some (status, output))
    (asked : sent.ResultFor spec.requestId → spec.requestId ∈ sent.after) :
    Settled.Asked executor
      { spec, source := some sent
        concluded := executor.conclude crates spec request pid { status, output, elapsed } } := by
  refine ⟨fun obs concluded success => ?_, fun other source result => ?_⟩
  · obtain ⟨judgedStatus, digest, judged, rfl, -⟩ := CanaryExecutor.conclude_ok concluded
    obtain rfl : judgedStatus = .verifiedSuccess := success
    obtain ⟨named, -, matching⟩ := CanaryExecutor.judge_success judged
    obtain ⟨text, latency, rfl, frame⟩ := CanaryExecutor.ends_success ending named
    obtain rfl : text = spec.expectedOutput := matching
    have here : sent.frame = .ok (.executeResult canaryProtocolVersion executor.identity.generationId spec.requestId
        spec.expectedOutput latency) := by
      unfold Sent.received at frame
      split at frame
      · next msg content => rw [content, Received.frame.inj frame]
      · cases frame
    exact ⟨rfl, sent, latency, rfl, here, asked ⟨_, _, _, _, here⟩⟩
  · cases source
    exact asked result

variable (crates executor) in
structure Channel.Inv (channel : Channel) : Prop where
  settled : ∀ settled ∈ channel.settled, settled.Asked executor
  waiting : ∀ request spec rest, channel.phase = .waiting request spec rest →
    spec.requestId ∈ channel.loop.issued ∧
      ∀ before sent after, channel.inbound = before ++ sent :: after →
        (∀ earlier ∈ before, executor.ends crates spec earlier.received = none) →
          sent.ResultFor spec.requestId → spec.requestId ∈ sent.after

-- A settled request is recorded as it was asked for, and nothing is open behind it.
theorem Channel.Inv.settle {channel : Channel} {request : RequestIo} {spec : CanaryRequestSpec}
    {rest : List CanaryRequestSpec} {source : Option Sent} {answer : CanaryExecutor.Answer}
    (settled : ∀ settled ∈ channel.settled, settled.Asked executor)
    (asked : Settled.Asked executor
      { spec, source, concluded := executor.conclude crates spec request channel.loop.generation.pid answer }) :
    (channel.settle crates executor io request spec rest source answer).Inv crates executor := by
  constructor
  · intro entry member
    rcases List.mem_append.mp member with old | new
    · exact settled entry old
    · rw [List.mem_singleton.mp new]
      exact asked
  · intro request' spec' rest' waiting
    simp only [Channel.settle] at waiting
    split at waiting <;> cases waiting

theorem Channel.Inv.step {channel : Channel} {event : ChannelEvent} (inv : channel.Inv crates executor)
    (fresh : ¬IssuesAnswered crates executor channel event) :
    (channelStep crates executor io channel event).Inv crates executor := by
  cases event with
  | issue request =>
    cases phase : channel.phase with
    | waiting _ _ _ => simpa only [channelStep, phase] using inv
    | finished _ => simpa only [channelStep, phase] using inv
    | idle todo =>
      cases todo with
      | nil => simpa only [channelStep, phase] using inv
      | cons spec rest =>
        cases sent : request.sendFault with
        | some elapsed =>
          simp only [channelStep, phase, sent]
          exact Channel.Inv.settle inv.settled (Settled.asked_of_silence (.inl rfl))
        | none =>
          simp only [channelStep, phase, sent]
          refine ⟨inv.settled, ?_⟩
          rintro _ _ _ ⟨⟩
          refine ⟨List.mem_cons_self, fun before first after inbound quiet result => ?_⟩
          exact absurd ⟨request, spec, rest, rfl, sent, phase, before, first, after, inbound, quiet,
            result⟩ fresh
  | take => exact ⟨inv.settled, inv.waiting⟩
  | send frame =>
    refine ⟨inv.settled, fun request spec rest phase => ?_⟩
    obtain ⟨issued, pending⟩ := inv.waiting request spec rest phase
    refine ⟨issued, fun before sent after inbound quiet result => ?_⟩
    -- Either the frame was pending before, or it is the new one.
    rcases List.append_eq_append_iff.mp inbound with ⟨more, rfl, tail⟩ | ⟨more, old, tail⟩
    · cases more with
      | nil =>
        obtain ⟨rfl, -⟩ := List.cons.inj tail
        exact issued
      | cons first others => simp at tail
    · cases more with
      | nil =>
        obtain ⟨rfl, -⟩ := List.cons.inj tail
        exact issued
      | cons first others =>
        obtain ⟨rfl, -⟩ := List.cons.inj tail
        exact pending before sent others old quiet result
  | read elapsed nowMs =>
    cases phase : channel.phase with
    | idle _ => simpa only [channelStep, phase] using inv
    | finished _ => simpa only [channelStep, phase] using inv
    | waiting request spec rest =>
      cases pending : channel.inbound with
      | nil => simpa only [channelStep, phase, pending] using inv
      | cons sent inbound =>
        obtain ⟨issued, waiting⟩ := inv.waiting request spec rest phase
        have same : (executor.onReceived crates spec channel.loop.issued channel.loop.answered sent.received).2 = _ :=
          CanaryExecutor.onReceived_ends spec _ _ _
        simp only [channelStep, phase, pending]
        generalize executor.onReceived crates spec channel.loop.issued channel.loop.answered sent.received = received
          at same ⊢
        obtain ⟨reason, ending⟩ := received
        cases ending with
        | some result =>
          obtain ⟨status, output⟩ := result
          have asked := waiting [] sent inbound pending (by simp)
          exact Channel.Inv.settle inv.settled (Settled.asked_of_frame same.symm asked)
        | none =>
          refine ⟨inv.settled, ?_⟩
          rintro _ _ _ ⟨⟩
          refine ⟨issued, ?_⟩
          rintro before first after rfl quiet result
          exact waiting (sent :: before) first after pending (by simpa [← same] using quiet) result
  | expire =>
    cases phase : channel.phase with
    | idle _ => simpa only [channelStep, phase] using inv
    | finished _ => simpa only [channelStep, phase] using inv
    | waiting request spec rest =>
      simp only [channelStep, phase]
      exact Channel.Inv.settle inv.settled (Settled.asked_of_silence (.inr rfl))

theorem Channel.Inv.early {channel : Channel} (inv : channel.Inv crates executor) :
    EarlyRejected crates executor channel := by
  intro request spec rest sent inbound requestId phase pending result early
  have other : spec.requestId ≠ requestId := by
    rintro rfl
    exact early ((inv.waiting request spec rest phase).2 [] sent inbound pending (by simp) result)
  obtain ⟨protocolVersion, generationId, output, latency, frame⟩ := result
  refine ⟨other, ?_⟩
  simp [Sent.received, frame, CanaryExecutor.onReceived, CanaryExecutor.onFrame, Ne.symm other]

/-- In every interleaving in which no request goes out with its answer waiting, a success is recorded
from a result sent after its request, and a result sent before its request is at most a rejection. -/
theorem results_sent_after_request (crates : LogCrates) (executor : CanaryExecutor) (io : RunIo)
    (todo : List CanaryRequestSpec) (session : Session) (events : List ChannelEvent)
    (fresh : ∀ visit ∈ Run.visits (channelStep crates executor io) (Channel.start todo session) events,
      ¬IssuesAnswered crates executor visit.1 visit.2) :
    ∀ reached ∈ Run.states (channelStep crates executor io) (Channel.start todo session) events,
      (∀ settled ∈ reached.settled, settled.Asked executor) ∧ EarlyRejected crates executor reached := by
  have start : (Channel.start todo session).Inv crates executor :=
    ⟨by simp [Channel.start], by rintro _ _ _ ⟨⟩⟩
  intro reached member
  have inv := Run.invariant_states (channelStep crates executor io) (Channel.Inv crates executor)
    (fun channel event => ¬IssuesAnswered crates executor channel event) (fun _ _ inv fresh => inv.step fresh)
    _ events start fresh reached member
  exact ⟨inv.settled, inv.early⟩

def sampleSession (executor : CanaryExecutor) : Session :=
  let header := LogHeader.new executor.identity.generationId executor.workload.digest
    executor.identity.executableDigest 0
  { writer := { path := executor.logPath, header, seen := [] }
    disk := .found (some (LogRecord.header header).toLine)
    summary := .planned executor.requests.length
    generation := { GenerationInfo.sample with pid := some 7 } }

theorem results_sent_after_request_answered :
    let executor := CanaryExecutor.sample standardLogCrates [sampleRequest "sum-1"]
    let io := RunIo.sample standardLogCrates fun _ => .sample "sum-1" 100
    let events := [ChannelEvent.issue (.sample "sum-1" 100), .send (.ok (.sampleResult "sum-1")), .read 1000000 1]
    ∀ reached ∈ Run.states (channelStep standardLogCrates executor io)
        (Channel.start executor.requests (sampleSession executor)) events,
      (∀ settled ∈ reached.settled, settled.Asked executor) ∧ EarlyRejected standardLogCrates executor reached := by
  generalize standardLogCrates = crates
  refine results_sent_after_request crates _ _ _ _ _ ?_
  intro visit member
  simp only [Run.visits, List.mem_cons, List.not_mem_nil, or_false] at member
  rintro ⟨request, spec, rest, here, -, -, before, sent, after, pending, -⟩
  rcases member with rfl | rfl | rfl
  · simp [Channel.start] at pending
  · cases here
  · cases here

variable (crates executor) in
-- The expected result is recorded from the frame that is read next, whenever it was sent.
theorem read_recorded {channel : Channel} {request : RequestIo} {spec : CanaryRequestSpec}
    {rest : List CanaryRequestSpec} {sent : Sent} {inbound : List Sent} {latency : Option UInt64}
    {elapsed : Nat} (nowMs : UInt64) (calm : io.log = .calm)
    (runnable : CanaryExecutor.Runnable crates executor)
    (member : spec ∈ executor.workload.manifest.requests) (phase : channel.phase = .waiting request spec rest)
    (pending : channel.inbound = sent :: inbound)
    (frame : sent.frame = .ok (.executeResult canaryProtocolVersion executor.identity.generationId spec.requestId
      spec.expectedOutput latency))
    (inTime : elapsed ≤ (executor.deadlineMs spec).toNat * 1000000)
    (within : executor.memoryRefusal request channel.loop.generation.pid = none)
    (binds : CanaryExecutor.Binds executor channel.loop.writer.header)
    (fresh : channel.loop.writer.seen.lookup (executor.requestObservationId crates spec) = none) :
    ∃ obs, obs.status = .verifiedSuccess ∧ obs.requestId = spec.requestId ∧
      (channelStep crates executor io channel (.read elapsed nowMs)).settled =
        channel.settled ++ [{ spec, source := some sent, concluded := .ok obs }] ∧
      (channelStep crates executor io channel (.read elapsed nowMs)).loop.recordedThisRun =
        channel.loop.recordedThisRun + 1 := by
  have received : executor.onReceived crates spec channel.loop.issued channel.loop.answered sent.received =
      (none, some (.verifiedSuccess, some spec.expectedOutput)) := by
    simp [Sent.received, frame, CanaryExecutor.onReceived, CanaryExecutor.onFrame]
  obtain ⟨answer, settled, concluded⟩ : ∃ answer, channelStep crates executor io channel (.read elapsed nowMs) =
        { channel with inbound }.settle crates executor io request spec rest (some sent) answer ∧
      executor.conclude crates spec request channel.loop.generation.pid answer =
        .ok (executor.observe crates spec request elapsed .verifiedSuccess
          (some (spec.expectedResultDigest crates.sha))) := by
    refine ⟨{ status := .verifiedSuccess, output := some spec.expectedOutput, elapsed }, ?_,
      CanaryExecutor.conclude_of_judge (CanaryExecutor.judge_expected inTime) within⟩
    simp only [channelStep, phase, pending, received, CanaryExecutor.note]
  obtain ⟨obs, same, success, named, valid, bound, id⟩ : ∃ obs, executor.observe crates spec request elapsed
        .verifiedSuccess (some (spec.expectedResultDigest crates.sha)) = obs ∧ obs.status = .verifiedSuccess ∧
      obs.requestId = spec.requestId ∧ obs.Valid crates.sha ∧ Bound channel.loop.writer.header obs ∧
      obs.observationId = executor.requestObservationId crates spec := by
    refine ⟨_, rfl, rfl, rfl, ?_, ⟨binds.generation.symm, binds.workload.symm, binds.executable.symm⟩, rfl⟩
    refine runnable.observe_valid member ?_ fun _ => rfl
    rintro text ⟨⟩
    exact crates.sha.isHexDigest_hex _
  rw [same] at concluded
  have checked : channel.loop.writer.checkObservation crates obs =
      .ok (.appended, obs.digestHex crates.sha) :=
    checkObservation_fresh valid bound (id ▸ fresh)
  rw [settled]
  refine ⟨obs, success, named, ?_, ?_⟩
  · simp only [Channel.settle, concluded]
  · simp only [Channel.settle, CanaryExecutor.settle, concluded, ObservationLogWriter.appendObservation,
      checked, calm, writeSynced, LogIo.calm]
    split_ifs <;> rfl

theorem early_result_recorded :
    let executor := CanaryExecutor.sample standardLogCrates [sampleRequest "sum-1"]
    let io := RunIo.sample standardLogCrates fun _ => .sample "sum-1" 100
    let events := [ChannelEvent.send (.ok (.sampleResult "sum-1")), .issue (.sample "sum-1" 100), .read 0 1]
    let reached := Run.final (channelStep standardLogCrates executor io)
      (Channel.start executor.requests (sampleSession executor)) events
    reached.loop.recordedThisRun = 1 ∧ ∃ settled ∈ reached.settled, ∃ obs sent, settled.concluded = .ok obs ∧
      obs.status = .verifiedSuccess ∧ obs.requestId = "sum-1" ∧ settled.source = some sent ∧ "sum-1" ∉ sent.after := by
  generalize standardLogCrates = crates
  intro executor io events reached
  let sent : Sent := { frame := .ok (.sampleResult "sum-1"), after := [] }
  let waiting := Run.final (channelStep crates executor io) (Channel.start executor.requests (sampleSession executor))
    [.send sent.frame, .issue (.sample "sum-1" 100)]
  have runnable : CanaryExecutor.Runnable crates executor :=
    CanaryExecutor.sample_runnable crates (by decide) (by decide)
  have phase : waiting.phase = .waiting (.sample "sum-1" 100) (sampleRequest "sum-1") [] := rfl
  have pending : waiting.inbound = [sent] := rfl
  have binds : CanaryExecutor.Binds executor waiting.loop.writer.header := ⟨rfl, rfl, rfl⟩
  obtain ⟨obs, success, named, settled, recorded⟩ :=
    read_recorded crates executor 1 (rfl : io.log = .calm) runnable
    List.mem_cons_self phase pending rfl (Nat.zero_le _) rfl binds rfl
  refine ⟨recorded, { spec := sampleRequest "sum-1", source := some sent, concluded := .ok obs }, ?_, obs,
    sent, rfl, success, named, rfl, List.not_mem_nil⟩
  have same : reached.settled = [_] := settled
  rw [same]
  exact List.mem_singleton_self _

end Order

section Refinement

variable (crates : LogCrates) (executor : CanaryExecutor) (io : RunIo) (todo : List CanaryRequestSpec)
  (session : Session)

def serving (done : List RequestIo) (later : Nat → RequestIo) : RunIo :=
  { io with request := fun index => done[index]?.getD (later index) }

def proceed (io : RunIo) (index : Nat) (rest : List CanaryRequestSpec) :
    CanaryExecutor.Step → CanaryExecutor.Step
  | .next loop => executor.requestLoop crates io index rest loop
  | other => other

def Follows (channel : Channel) : Prop :=
  match channel.phase with
  | .idle rest => ∃ done, ∀ later,
      executor.requestLoop crates (serving io done later) 0 todo (RequestLoop.start session) =
        executor.requestLoop crates (serving io done later) done.length rest channel.loop
  | .waiting request spec rest => ∃ done reads, ∀ more later,
      let served := { request with reads := reads ++ more }
      let io := serving io (done ++ [served]) later
      let waited := executor.awaitResult crates io spec channel.loop.issued channel.loop.answered
        request.silenceElapsed channel.loop.toSession more
      executor.requestLoop crates io 0 todo (RequestLoop.start session) =
        proceed crates executor io (done.length + 1) rest
          (executor.settle crates io served spec waited.1 { channel.loop with toSession := waited.2 })
  | .finished step => ∃ done, ∀ later,
      executor.requestLoop crates (serving io done later) 0 todo (RequestLoop.start session) = step

variable {crates executor io todo session}

theorem serving_snoc (done : List RequestIo) (request : RequestIo) (later : Nat → RequestIo) :
    serving io (done ++ [request]) later = serving io done (Function.update later done.length request) := by
  have same : (fun index => (done ++ [request])[index]?.getD (later index)) =
      fun index => done[index]?.getD (Function.update later done.length request index) := by
    funext index
    rcases lt_trichotomy index done.length with inside | rfl | outside
    · simp [List.getElem?_append_left inside, List.getElem?_eq_getElem inside]
    · simp
    · have beyond : index - done.length ≠ 0 := by omega
      simp [List.getElem?_append_right (Nat.le_of_lt outside), Nat.le_of_lt outside, beyond,
        Function.update_of_ne (Nat.ne_of_gt outside)]
  simp only [serving, same]

theorem requestLoop_cons (index : Nat) (spec : CanaryRequestSpec) (rest : List CanaryRequestSpec)
    (loop : RequestLoop) :
    executor.requestLoop crates io index (spec :: rest) loop =
      proceed crates executor io (index + 1) rest (executor.requestStep crates io (io.request index) spec loop) := by
  cases step : executor.requestStep crates io (io.request index) spec loop <;>
    simp only [CanaryExecutor.requestLoop, proceed, step]

theorem serving_request (done : List RequestIo) (request : RequestIo) (later : Nat → RequestIo) :
    (serving io (done ++ [request]) later).request done.length = request := by
  simp [serving]

variable (crates executor) in
theorem awaitResult_cons (io : RunIo) (spec : CanaryRequestSpec) (issued answered : List String)
    (silenceElapsed : Nat) (session : Session) (read : Read) (rest : List Read) :
    executor.awaitResult crates io spec issued answered silenceElapsed session (read :: rest) =
      match executor.onReceived crates spec issued answered read.received with
      | (reason, some (status, output)) =>
        ({ status, output, elapsed := read.elapsed }, CanaryExecutor.note io session read.nowMs reason)
      | (reason, none) => executor.awaitResult crates io spec issued answered silenceElapsed
          (CanaryExecutor.note io session read.nowMs reason) rest := by
  rw [CanaryExecutor.awaitResult]
  generalize executor.onReceived crates spec issued answered read.received = received
  obtain ⟨reason, _ | ⟨status, output⟩⟩ := received <;> rfl

theorem Follows.settle {channel : Channel} {request : RequestIo} {spec : CanaryRequestSpec}
    {rest : List CanaryRequestSpec} {source : Option Sent} {answer : CanaryExecutor.Answer}
    (follows : ∃ done, ∀ later,
      executor.requestLoop crates (serving io done later) 0 todo (RequestLoop.start session) =
        proceed crates executor (serving io done later) done.length rest
          (executor.settle crates io request spec answer channel.loop)) :
    Follows crates executor io todo session
      (channel.settle crates executor io request spec rest source answer) := by
  obtain ⟨done, same⟩ := follows
  unfold Follows Channel.settle
  dsimp only
  cases settled : executor.settle crates io request spec answer channel.loop with
  | next loop => exact ⟨done, fun later => by rw [same, settled]; rfl⟩
  | stopped loop => exact ⟨done, fun later => by rw [same, settled]; rfl⟩
  | halted loop => exact ⟨done, fun later => by rw [same, settled]; rfl⟩
  | failed e loop => exact ⟨done, fun later => by rw [same, settled]; rfl⟩

theorem Follows.step {channel : Channel} (follows : Follows crates executor io todo session channel)
    (event : ChannelEvent) :
    Follows crates executor io todo session (channelStep crates executor io channel event) := by
  cases event with
  | take => exact follows
  | send frame => exact follows
  | issue request =>
    cases phase : channel.phase with
    | waiting _ _ _ => simpa only [channelStep, phase] using follows
    | finished _ => simpa only [channelStep, phase] using follows
    | idle rest =>
      cases rest with
      | nil => simpa only [channelStep, phase] using follows
      | cons spec rest =>
        simp only [Follows, phase] at follows
        obtain ⟨done, same⟩ := follows
        cases sent : request.sendFault with
        | some elapsed =>
          simp only [channelStep, phase, sent]
          refine Follows.settle ⟨done ++ [request], fun later => ?_⟩
          have step : executor.requestStep crates (serving io (done ++ [request]) later) request spec channel.loop =
              executor.settle crates io request spec { status := .connectionClosed, output := none, elapsed }
                (CanaryExecutor.issue io request spec channel.loop) := by
            simp only [CanaryExecutor.requestStep, CanaryExecutor.answer, sent]
            rfl
          rw [serving_snoc, same, ← serving_snoc, requestLoop_cons, serving_request, List.length_append, step]
          rfl
        | none =>
          simp only [channelStep, phase, sent, Follows]
          refine ⟨done, [], fun more later => ?_⟩
          rw [serving_snoc, same, ← serving_snoc, requestLoop_cons, serving_request]
          simp only [CanaryExecutor.requestStep, CanaryExecutor.answer]
          rfl
  | read elapsed nowMs =>
    cases phase : channel.phase with
    | idle _ => simpa only [channelStep, phase] using follows
    | finished _ => simpa only [channelStep, phase] using follows
    | waiting request spec rest =>
      cases pending : channel.inbound with
      | nil => simpa only [channelStep, phase, pending] using follows
      | cons sent inbound =>
        simp only [Follows, phase] at follows
        obtain ⟨done, reads, same⟩ := follows
        simp only [channelStep, phase, pending]
        have awaited (io : RunIo) (more : List Read) :=
          awaitResult_cons crates executor io spec channel.loop.issued channel.loop.answered
            request.silenceElapsed channel.loop.toSession { received := sent.received, elapsed, nowMs } more
        generalize executor.onReceived crates spec channel.loop.issued channel.loop.answered sent.received = received
          at awaited ⊢
        obtain ⟨reason, ending⟩ := received
        cases ending with
        | some result =>
          obtain ⟨status, output⟩ := result
          refine Follows.settle ⟨done ++ [{ request with
            reads := reads ++ [{ received := sent.received, elapsed, nowMs }] }], fun later => ?_⟩
          rw [same [{ received := sent.received, elapsed, nowMs }] later, awaited, List.length_append]
          rfl
        | none =>
          simp only [Follows]
          refine ⟨done, reads ++ [{ received := sent.received, elapsed, nowMs }], fun more later => ?_⟩
          have longer := same ({ received := sent.received, elapsed, nowMs } :: more) later
          rw [awaited] at longer
          rw [List.append_assoc]
          exact longer
  | expire =>
    cases phase : channel.phase with
    | idle _ => simpa only [channelStep, phase] using follows
    | finished _ => simpa only [channelStep, phase] using follows
    | waiting request spec rest =>
      simp only [Follows, phase] at follows
      obtain ⟨done, reads, same⟩ := follows
      simp only [channelStep, phase]
      refine Follows.settle ⟨done ++ [{ request with reads := reads ++ [] }], fun later => ?_⟩
      rw [same [] later, List.length_append]
      rfl

-- A finished interleaving is a run of the request loop.
theorem channels_follow_loop (crates : LogCrates) (executor : CanaryExecutor) (io : RunIo)
    (todo : List CanaryRequestSpec) (session : Session) (events : List ChannelEvent) :
    Follows crates executor io todo session
      (Run.final (channelStep crates executor io) (Channel.start todo session) events) :=
  Run.invariant_final (channelStep crates executor io) (Follows crates executor io todo session)
    (fun _ event follows => follows.step event) _ events ⟨[], fun _ => rfl⟩

end Refinement

end SparkRsi.Supervisor
