import SparkRsi.Shared.JsonWhole
import SparkRsi.Supervisor.Ipc

set_option autoImplicit false

namespace SparkRsi.Supervisor

open Shared Canary

/-- What the frames rest on: compact JSON is one line without blanks around it, and no beginning of it is JSON. -/
structure FrameCodec (α : Type) where
  render : α → String
  parse : String → Except String α
  parse_render : ∀ a, parse (render a) = .ok a
  one_line : ∀ a, '\n' ∉ (render a).toList
  trimmed : ∀ a, TextLines.trim (render a).toList = (render a).toList
  whole : ∀ a text, text.toList <+: (render a).toList → text ≠ render a → ∃ e, parse text = .error e

def jsonCodec {α : Type} (json : α → Json) (read : Json → Option α) (back : ∀ a, read (json a) = some a)
    (boxed : ∀ a, (json a).Boxed) : FrameCodec α where
  render a := String.ofList (json a).print
  parse text := okOr "invalid message" (do read (← Json.parse text))
  parse_render a := by simp [Json.parse_print, back, okOr]
  one_line a := by
    rw [String.toList_ofList]
    exact (json a).print_no_newline
  trimmed a := by
    rw [String.toList_ofList]
    exact Json.trim_print (boxed a)
  whole a text part other := by
    rw [String.toList_ofList] at part
    have short : text.toList ≠ (json a).print := by
      intro same
      exact other (by rw [← same, String.ofList_toList])
    rw [Json.parse_beginning (boxed a) part short]
    exact ⟨_, rfl⟩

section Fields

def tagged (kind : String) (fields : List (String × Json)) : Json := .obj [(kind, .obj fields)]

def optionWord : Option UInt64 → Json
  | none => .null
  | some n => .num n.toNat

def boolOf : Json → Option Bool
  | .bool value => some value
  | _ => none

def numberOf (bits : Nat) : Json → Option Nat
  | .num n => if n < 2 ^ bits then some n else none
  | _ => none

def optionWordOf : Json → Option (Option UInt64)
  | .null => some none
  | value => (numberOf 64 value).map fun n => some (UInt64.ofNat n)

@[simp] theorem numberOf_uint16 (n : UInt16) : numberOf 16 (.num n.toNat) = some n.toNat := if_pos n.toNat_lt

@[simp] theorem numberOf_uint32 (n : UInt32) : numberOf 32 (.num n.toNat) = some n.toNat := if_pos n.toNat_lt

@[simp] theorem numberOf_uint64 (n : UInt64) : numberOf 64 (.num n.toNat) = some n.toNat := if_pos n.toNat_lt

@[simp] theorem optionWordOf_optionWord (n : Option UInt64) : optionWordOf (optionWord n) = some n := by
  cases n <;> simp [optionWord, optionWordOf]

variable (body : Json)

def textAt (key : String) : Option String := do textOf (← body.field key)

def numberAt (bits : Nat) (key : String) : Option Nat := do numberOf bits (← body.field key)

-- A field with a default may be missing.
def fieldOr {α : Type} (absent : α) (read : Json → Option α) (key : String) : Option α :=
  match body.field key with
  | none => some absent
  | some value => read value

end Fields

namespace SupervisorMessage

def json : SupervisorMessage → Json
  | drainStart timeoutSecs => tagged "DrainStart" [("timeout_secs", .num timeoutSecs.toNat)]
  | revertOrder reason => tagged "RevertOrder" [("reason", .str reason)]
  | shutdownAck pid => tagged "ShutdownAck" [("pid", .num pid.toNat)]
  | ping => .str "Ping"
  | authChallenge nonce => tagged "AuthChallenge" [("nonce", .str nonce)]
  | executeRequest protocolVersion generationId requestId requestDigest workloadDigest input deadlineMs =>
    tagged "ExecuteRequest" [("protocol_version", .num protocolVersion.toNat), ("generation_id", .str generationId),
      ("request_id", .str requestId), ("request_digest", .str requestDigest),
      ("workload_digest", .str workloadDigest), ("input", .str input), ("deadline_ms", .num deadlineMs.toNat)]

def read : Json → Option SupervisorMessage
  | .str "Ping" => some .ping
  | .obj [(kind, body)] =>
    match kind with
    | "DrainStart" => do return .drainStart (UInt64.ofNat (← numberAt body 64 "timeout_secs"))
    | "RevertOrder" => do return .revertOrder (← textAt body "reason")
    | "ShutdownAck" => do return .shutdownAck (UInt32.ofNat (← numberAt body 32 "pid"))
    | "AuthChallenge" => do return .authChallenge (← textAt body "nonce")
    | "ExecuteRequest" => do
      return .executeRequest (UInt16.ofNat (← numberAt body 16 "protocol_version")) (← textAt body "generation_id")
        (← textAt body "request_id") (← textAt body "request_digest") (← textAt body "workload_digest")
        (← textAt body "input") (UInt64.ofNat (← numberAt body 64 "deadline_ms"))
    | _ => none
  | _ => none

theorem read_json (message : SupervisorMessage) : read message.json = some message := by
  cases message <;> simp [json, read, tagged, textAt, numberAt, Json.field, List.lookup_cons, textOf]

theorem json_boxed (message : SupervisorMessage) : message.json.Boxed := by
  cases message <;> trivial

def codec : FrameCodec SupervisorMessage := jsonCodec json read read_json json_boxed

end SupervisorMessage

namespace WorkerMessage

def json : WorkerMessage → Json
  | ready generationId pid authToken protocolVersion =>
    tagged "Ready" [("generation_id", .str generationId), ("pid", .num pid.toNat), ("auth_token", .str authToken),
      ("protocol_version", .num protocolVersion.toNat)]
  | heartbeat generationId timestampSecs activeRequests memoryMb =>
    tagged "Heartbeat" [("generation_id", .str generationId), ("timestamp_secs", .num timestampSecs.toNat),
      ("active_requests", .num activeRequests.toNat), ("memory_mb", .num memoryMb.toNat)]
  | drainComplete generationId => tagged "DrainComplete" [("generation_id", .str generationId)]
  | canaryReport generationId transactionId success latencyUs error =>
    tagged "CanaryReport" [("generation_id", .str generationId), ("transaction_id", .num transactionId.toNat),
      ("success", .bool success), ("latency_us", .num latencyUs.toNat), ("error", optionJson error)]
  | pong => .str "Pong"
  | authResponse response => tagged "AuthResponse" [("response", .str response)]
  | executeResult protocolVersion generationId requestId output workerLatencyUs =>
    tagged "ExecuteResult" [("protocol_version", .num protocolVersion.toNat), ("generation_id", .str generationId),
      ("request_id", .str requestId), ("output", .str output), ("worker_latency_us", optionWord workerLatencyUs)]

-- An older worker's record has no protocol version, and an option that is missing is none.
def read : Json → Option WorkerMessage
  | .str "Pong" => some .pong
  | .obj [(kind, body)] =>
    match kind with
    | "Ready" => do
      return .ready (← textAt body "generation_id") (UInt32.ofNat (← numberAt body 32 "pid"))
        (← textAt body "auth_token") (UInt16.ofNat (← fieldOr body 0 (numberOf 16) "protocol_version"))
    | "Heartbeat" => do
      return .heartbeat (← textAt body "generation_id") (UInt64.ofNat (← numberAt body 64 "timestamp_secs"))
        (UInt32.ofNat (← numberAt body 32 "active_requests")) (UInt64.ofNat (← numberAt body 64 "memory_mb"))
    | "DrainComplete" => do return .drainComplete (← textAt body "generation_id")
    | "CanaryReport" => do
      return .canaryReport (← textAt body "generation_id") (UInt64.ofNat (← numberAt body 64 "transaction_id"))
        (← boolOf (← body.field "success")) (UInt64.ofNat (← numberAt body 64 "latency_us"))
        (← fieldOr body none optionTextOf "error")
    | "AuthResponse" => do return .authResponse (← textAt body "response")
    | "ExecuteResult" => do
      return .executeResult (UInt16.ofNat (← numberAt body 16 "protocol_version")) (← textAt body "generation_id")
        (← textAt body "request_id") (← textAt body "output") (← fieldOr body none optionWordOf "worker_latency_us")
    | _ => none
  | _ => none

theorem read_json (message : WorkerMessage) : read message.json = some message := by
  cases message <;> simp [json, read, tagged, textAt, numberAt, fieldOr, boolOf, Json.field, List.lookup_cons, textOf]

theorem json_boxed (message : WorkerMessage) : message.json.Boxed := by
  cases message <;> trivial

def codec : FrameCodec WorkerMessage := jsonCodec json read read_json json_boxed

end WorkerMessage

end SparkRsi.Supervisor
