import SparkRsi.Canary.Records
import Mathlib.Data.List.Infix

set_option autoImplicit false

namespace SparkRsi.Supervisor

open Shared Canary

inductive SupervisorMessage where
  | drainStart (timeoutSecs : UInt64)
  | revertOrder (reason : String)
  | shutdownAck (pid : UInt32)
  | ping
  | authChallenge (nonce : String)
  | executeRequest (protocolVersion : UInt16)
      (generationId requestId requestDigest workloadDigest input : String) (deadlineMs : UInt64)
  deriving DecidableEq

inductive WorkerMessage where
  | ready (generationId : String) (pid : UInt32) (authToken : String) (protocolVersion : UInt16)
  | heartbeat (generationId : String) (timestampSecs : UInt64) (activeRequests : UInt32) (memoryMb : UInt64)
  | drainComplete (generationId : String)
  | canaryReport (generationId : String) (transactionId : UInt64) (success : Bool) (latencyUs : UInt64)
      (error : Option String)
  | pong
  | authResponse (response : String)
  | executeResult (protocolVersion : UInt16) (generationId requestId output : String)
      (workerLatencyUs : Option UInt64)
  deriving DecidableEq

namespace WorkerMessage

def debug (text : String → String) : WorkerMessage → String
  | ready generationId pid authToken protocolVersion =>
    s!"Ready \x7b generation_id: {text generationId}, pid: {pid}, auth_token: {text authToken}, protocol_version: {protocolVersion} \x7d"
  | heartbeat generationId timestampSecs activeRequests memoryMb =>
    s!"Heartbeat \x7b generation_id: {text generationId}, timestamp_secs: {timestampSecs}, active_requests: {activeRequests}, memory_mb: {memoryMb} \x7d"
  | drainComplete generationId => s!"DrainComplete \x7b generation_id: {text generationId} \x7d"
  | canaryReport generationId transactionId success latencyUs error =>
    s!"CanaryReport \x7b generation_id: {text generationId}, transaction_id: {transactionId}, success: {success}, latency_us: {latencyUs}, error: {debugOption text error} \x7d"
  | pong => "Pong"
  | authResponse response => s!"AuthResponse \x7b response: {text response} \x7d"
  | executeResult protocolVersion generationId requestId output workerLatencyUs =>
    s!"ExecuteResult \x7b protocol_version: {protocolVersion}, generation_id: {text generationId}, request_id: {text requestId}, output: {text output}, worker_latency_us: {debugOption toString workerLatencyUs} \x7d"

def claimed : WorkerMessage → Option String
  | heartbeat generationId _ _ _ => some generationId
  | drainComplete generationId => some generationId
  | canaryReport generationId _ _ _ _ => some generationId
  | executeResult _ generationId _ _ _ => some generationId
  | _ => none

end WorkerMessage

inductive ConnectionAuthState where
  | unauthenticated
  | authenticated (generationId : String) (pid : UInt32) (protocolVersion : UInt16)
  deriving DecidableEq

namespace ConnectionAuthState

def canExecuteFor (state : ConnectionAuthState) (generationId : String) : Bool :=
  match state with
  | unauthenticated => false
  | authenticated named _ protocolVersion => named = generationId && protocolVersion = canaryProtocolVersion

end ConnectionAuthState

namespace SessionAuth

variable (sha : HexHash)

def keyBlock (sharedSecret : String) : Bytes :=
  let key := utf8 sharedSecret
  let key := if key.length > 64 then sha.digest key else key
  key ++ List.replicate (64 - key.length) 0

def computeHmac (sharedSecret message : String) : String :=
  let block := keyBlock sha sharedSecret
  let inner := sha.digest (block.map (· ^^^ 0x36) ++ utf8 message)
  sha.hex (block.map (· ^^^ 0x5c) ++ inner)

def verifyHmac (sharedSecret message candidate : String) : Bool :=
  let expected := utf8 (computeHmac sha sharedSecret message)
  let candidate := utf8 candidate
  expected.length = candidate.length &&
    ((expected.zip candidate).foldl (fun diff pair => diff ||| (pair.1 ^^^ pair.2)) (0 : UInt8)) = 0

theorem differences_eq_zero (pairs : List (UInt8 × UInt8)) (diff : UInt8) :
    pairs.foldl (fun diff pair => diff ||| (pair.1 ^^^ pair.2)) diff = 0 ↔
      diff = 0 ∧ ∀ pair ∈ pairs, pair.1 = pair.2 := by
  induction pairs generalizing diff with
  | nil => simp
  | cons pair rest ih =>
    rw [List.foldl_cons, ih, List.forall_mem_cons, UInt8.or_eq_zero_iff, UInt8.xor_eq_zero_iff, and_assoc]

-- The comparison accepts the expected code and nothing else.
theorem verifyHmac_iff {sharedSecret message candidate : String} :
    verifyHmac sha sharedSecret message candidate = true ↔
      candidate = computeHmac sha sharedSecret message := by
  simp only [verifyHmac, Bool.and_eq_true, decide_eq_true_eq, differences_eq_zero, true_and]
  rw [← utf8_inj]
  generalize utf8 (computeHmac sha sharedSecret message) = expected
  constructor
  · rintro ⟨length, same⟩
    refine List.ext_getElem length.symm fun i here there => ?_
    have pair : (expected[i], (utf8 candidate)[i]) ∈ expected.zip (utf8 candidate) := by
      rw [List.mem_iff_getElem]
      exact ⟨i, by simp [here, there], by simp⟩
    exact (same _ pair).symm
  · rintro rfl
    refine ⟨rfl, fun pair member => ?_⟩
    obtain ⟨i, here, rfl⟩ := List.mem_iff_getElem.mp member
    simp

end SessionAuth

inductive ReadinessFailureKind where
  | timeout
  | closed
  | oldProtocol
  | wrongGeneration
  | badHmac
  | unexpected
  deriving DecidableEq

def ReadinessFailureKind.debug : ReadinessFailureKind → String
  | timeout => "Timeout"
  | closed => "Closed"
  | oldProtocol => "OldProtocol"
  | wrongGeneration => "WrongGeneration"
  | badHmac => "BadHmac"
  | unexpected => "Unexpected"

structure ReadinessFailure where
  kind : ReadinessFailureKind
  detail : String

def ReadinessFailure.display (failure : ReadinessFailure) : String :=
  s!"worker not ready ({failure.kind.debug}): {failure.detail}"

def containsText (text part : String) : Bool := decide (part.toList <:+: text.toList)

def recvFailure (err : String) : ReadinessFailure :=
  { kind := if containsText err "closed by peer" then .closed else .unexpected, detail := err }

section Handshake

variable (sha : HexHash) (text : String → String)

def checkReady (expectedGeneration : String) : WorkerMessage → Except ReadinessFailure (UInt32 × UInt16)
  | .ready generationId pid _ protocolVersion => do
    refuseIf (protocolVersion ≠ canaryProtocolVersion)
      { kind := .oldProtocol
        detail := s!"Ready states protocol version {protocolVersion}, expected {canaryProtocolVersion}" }
    refuseIf (generationId ≠ expectedGeneration)
      { kind := .wrongGeneration
        detail := s!"Ready names generation {generationId}, expected {expectedGeneration}" }
    return (pid, protocolVersion)
  | other =>
    .error { kind := .unexpected, detail := s!"expected a versioned Ready first, got {other.debug text}" }

/-- What comes back on a challenge: the fault of sending it, or the frame received
(`none` when the deadline passes first). -/
structure Challenge where
  nonce : String
  sendFault : Option String
  answer : Option (Except String WorkerMessage)

def challengeWorker (challenge : Challenge) (generationId sharedSecret : String) :
    Option (Except ReadinessFailure Unit) :=
  match challenge.sendFault with
  | some e => some (.error (recvFailure e))
  | none => challenge.answer.map fun
    | .error e => .error (recvFailure e)
    | .ok (.authResponse response) =>
      refuseIf (SessionAuth.verifyHmac sha sharedSecret s!"{generationId}:challenge-{challenge.nonce}" response = false)
        { kind := .badHmac, detail := s!"HMAC for generation {generationId} did not verify" }
    | .ok other =>
      .error { kind := .unexpected, detail := s!"expected AuthResponse, got {other.debug text}" }

variable {sha text}

theorem checkReady_ok {expected : String} {msg : WorkerMessage} {result : UInt32 × UInt16} :
    checkReady text expected msg = .ok result ↔
      ∃ authToken, msg = .ready expected result.1 authToken canaryProtocolVersion ∧
        result.2 = canaryProtocolVersion := by
  obtain ⟨pid, version⟩ := result
  cases msg with
  | ready generationId named authToken protocolVersion =>
    simp only [checkReady, bind_eq_ok, exists_unit, refuseIf_eq_ok, Decidable.not_not,
      WorkerMessage.ready.injEq]
    constructor
    · rintro ⟨rfl, rfl, ⟨⟩⟩
      exact ⟨authToken, ⟨rfl, rfl, rfl, rfl⟩, rfl⟩
    · rintro ⟨_, ⟨rfl, rfl, rfl, rfl⟩, rfl⟩
      exact ⟨rfl, rfl, rfl⟩
  | _ => simp [checkReady]

-- A challenge is met by the HMAC of the generation and the nonce, and by nothing else.
theorem challengeWorker_ok {challenge : Challenge} {generationId sharedSecret : String} :
    challengeWorker sha text challenge generationId sharedSecret = some (.ok ()) ↔
      challenge.sendFault = none ∧ ∃ response, challenge.answer = some (.ok (.authResponse response)) ∧
        response = SessionAuth.computeHmac sha sharedSecret s!"{generationId}:challenge-{challenge.nonce}" := by
  obtain ⟨nonce, sendFault, answer⟩ := challenge
  cases sendFault with
  | some e => simp [challengeWorker]
  | none =>
    rcases answer with _ | (e | msg)
    · simp [challengeWorker]
    · simp [challengeWorker]
    · cases msg <;> simp [challengeWorker, SessionAuth.verifyHmac_iff]

end Handshake

end SparkRsi.Supervisor
