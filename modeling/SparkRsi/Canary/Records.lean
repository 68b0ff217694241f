import SparkRsi.Shared.JsonSearch
import SparkRsi.Shared.Sha256
import SparkRsi.Shared.Results

set_option autoImplicit false

namespace SparkRsi.Canary

open Shared

def canaryProtocolVersion : UInt16 := 1
def observationRecordVersion : UInt16 := 2
def observationLogVersion : UInt16 := 1

def canonicalJson (value : Json) : Bytes := utf8 value.toText

theorem canonicalJson_eq (value : Json) :
    canonicalJson value = value.sortKeys.print.flatMap String.utf8EncodeChar := utf8_ofList _

def domainBytes (domain : String) (fields : List Bytes) : Bytes :=
  putField (utf8 domain) ++ fields.flatMap putField

def domainDigest (sha : HexHash) (domain : String) (fields : List Bytes) : String :=
  sha.hex (domainBytes domain fields)

def isWhiteSpace (c : Char) : Bool :=
  (9 ≤ c.toNat && c.toNat ≤ 13) || c.toNat = 0x20 || c.toNat = 0x85 || c.toNat = 0xa0 || c.toNat = 0x1680 ||
    (0x2000 ≤ c.toNat && c.toNat ≤ 0x200a) || c.toNat = 0x2028 || c.toNat = 0x2029 || c.toNat = 0x202f ||
    c.toNat = 0x205f || c.toNat = 0x3000

def isBlank (text : String) : Bool := text.toList.all isWhiteSpace

def isControl (c : Char) : Bool := c.toNat < 32 || (127 ≤ c.toNat && c.toNat < 160)

def debugOption {α : Type} (debug : α → String) : Option α → String
  | none => "None"
  | some value => s!"Some({debug value})"

inductive VerifiedStatus where
  | verifiedSuccess
  | wrongResult
  | timeout
  | invalidResponse
  | connectionClosed
  deriving DecidableEq, Repr

namespace VerifiedStatus

def debug : VerifiedStatus → String
  | verifiedSuccess => "VerifiedSuccess"
  | wrongResult => "WrongResult"
  | timeout => "Timeout"
  | invalidResponse => "InvalidResponse"
  | connectionClosed => "ConnectionClosed"

def toText : VerifiedStatus → String
  | verifiedSuccess => "verified_success"
  | wrongResult => "wrong_result"
  | timeout => "timeout"
  | invalidResponse => "invalid_response"
  | connectionClosed => "connection_closed"

end VerifiedStatus

inductive Provenance where
  | measured
  | synthetic
  deriving DecidableEq, Repr

def Provenance.toText : Provenance → String
  | measured => "measured"
  | synthetic => "synthetic"

structure CanaryObservationV2 where
  recordVersion : UInt16
  observationId : String
  generationId : String
  requestId : String
  requestDigest : String
  workloadDigest : String
  candidateExecutableDigest : String
  resultDigest : Option String
  elapsedUs : UInt64
  observedAtMs : UInt64
  status : VerifiedStatus
  provenance : Provenance
  deriving DecidableEq, Repr

def observationIdBytes (generationId requestId requestDigest : String) : Bytes :=
  domainBytes "spark-rsi/canary-observation-id/v2" [utf8 generationId, utf8 requestId, utf8 requestDigest]

def observationId (sha : HexHash) (generationId requestId requestDigest : String) : String :=
  sha.hex (observationIdBytes generationId requestId requestDigest)

-- Under one generation the coordinates name the request.
theorem requestId_of_observationIdBytes {generationId first second firstDigest secondDigest : String}
    (digests : (utf8 firstDigest).length = (utf8 secondDigest).length)
    (same : observationIdBytes generationId first firstDigest =
      observationIdBytes generationId second secondDigest) : first = second := by
  simp only [observationIdBytes, domainBytes, List.flatMap_cons, List.flatMap_nil, List.append_nil,
    List.append_cancel_left_eq] at same
  have lengths := congrArg List.length same
  simp only [List.length_append, putField_length] at lengths
  exact utf8_injective (putField_injective (List.append_inj same (by simp; omega)).1)

def resultDigest (sha : HexHash) (output : Bytes) : String := sha.hex output

structure ObservationInput where
  generationId : String
  requestId : String
  requestDigest : String
  workloadDigest : String
  candidateExecutableDigest : String
  resultDigest : Option String
  elapsedUs : UInt64
  observedAtMs : UInt64
  status : VerifiedStatus
  provenance : Provenance

def optionJson : Option String → Json
  | none => .null
  | some text => .str text

namespace CanaryObservationV2

variable (sha : HexHash)

def new (input : ObservationInput) : CanaryObservationV2 where
  recordVersion := observationRecordVersion
  observationId := Canary.observationId sha input.generationId input.requestId input.requestDigest
  generationId := input.generationId
  requestId := input.requestId
  requestDigest := input.requestDigest
  workloadDigest := input.workloadDigest
  candidateExecutableDigest := input.candidateExecutableDigest
  resultDigest := input.resultDigest
  elapsedUs := input.elapsedUs
  observedAtMs := input.observedAtMs
  status := input.status
  provenance := input.provenance

variable (obs : CanaryObservationV2)

def json : Json :=
  .obj [("record_version", .num obs.recordVersion.toNat), ("observation_id", .str obs.observationId),
    ("generation_id", .str obs.generationId), ("request_id", .str obs.requestId),
    ("request_digest", .str obs.requestDigest), ("workload_digest", .str obs.workloadDigest),
    ("candidate_executable_digest", .str obs.candidateExecutableDigest),
    ("result_digest", optionJson obs.resultDigest), ("elapsed_us", .num obs.elapsedUs.toNat),
    ("observed_at_ms", .num obs.observedAtMs.toNat), ("status", .str obs.status.toText),
    ("provenance", .str obs.provenance.toText)]

def recordText : Bytes := domainBytes "spark-rsi/canary-observation/v2" [canonicalJson obs.json]

def digestHex : String := domainDigest sha "spark-rsi/canary-observation/v2" [canonicalJson obs.json]

def checkResultDigest : Except String Unit :=
  match obs.resultDigest with
  | some digest => refuseIf (isHexDigest digest = false) "observation result_digest is not a hex SHA-256"
  | none =>
    refuseIf (obs.status = .verifiedSuccess ∨ obs.status = .wrongResult)
      s!"observation status {obs.status.debug} requires a result digest"

def validate : Except String Unit := do
  refuseIf (obs.recordVersion ≠ observationRecordVersion)
    s!"observation record version {obs.recordVersion} is not supported (expected {observationRecordVersion})"
  refuseIf (isBlank obs.generationId) "observation generation id is required"
  refuseIf (isBlank obs.requestId) "observation request id is required"
  refuseIf (isHexDigest obs.requestDigest = false) "observation request_digest is not a hex SHA-256"
  refuseIf (isHexDigest obs.workloadDigest = false) "observation workload_digest is not a hex SHA-256"
  refuseIf (isHexDigest obs.candidateExecutableDigest = false)
    "observation candidate_executable_digest is not a hex SHA-256"
  obs.checkResultDigest
  refuseIf (obs.observationId ≠ Canary.observationId sha obs.generationId obs.requestId obs.requestDigest)
    s!"observation id {obs.observationId} does not derive from its generation, request and request digest"

def isQualifying : Bool :=
  obs.provenance = .measured ∧ obs.status = .verifiedSuccess ∧ obs.resultDigest.isSome

structure Valid : Prop where
  version : obs.recordVersion = observationRecordVersion
  generation : isBlank obs.generationId = false
  request : isBlank obs.requestId = false
  requestDigest : isHexDigest obs.requestDigest = true
  workloadDigest : isHexDigest obs.workloadDigest = true
  executableDigest : isHexDigest obs.candidateExecutableDigest = true
  hexResult : ∀ digest, obs.resultDigest = some digest → isHexDigest digest = true
  result : obs.status = .verifiedSuccess ∨ obs.status = .wrongResult → obs.resultDigest.isSome
  derived : obs.observationId = Canary.observationId sha obs.generationId obs.requestId obs.requestDigest

variable {sha obs}

theorem checkResultDigest_ok : obs.checkResultDigest = .ok () ↔
    (∀ digest, obs.resultDigest = some digest → isHexDigest digest = true) ∧
      (obs.status = .verifiedSuccess ∨ obs.status = .wrongResult → obs.resultDigest.isSome) := by
  unfold checkResultDigest
  cases obs.resultDigest with
  | some digest => simp
  | none => simp

theorem validate_ok : obs.validate sha = .ok () ↔ obs.Valid sha := by
  simp only [validate, then_eq_ok, refuseIf_eq_ok, checkResultDigest_ok, Bool.not_eq_true,
    Bool.not_eq_false, Decidable.not_not]
  constructor
  · rintro ⟨version, generation, request, requestDigest, workload, executable, ⟨hex, result⟩, derived⟩
    exact ⟨version, generation, request, requestDigest, workload, executable, hex, result, derived⟩
  · intro valid
    exact ⟨valid.version, valid.generation, valid.request, valid.requestDigest, valid.workloadDigest,
      valid.executableDigest, ⟨valid.hexResult, valid.result⟩, valid.derived⟩

end CanaryObservationV2

structure LogHeader where
  logVersion : UInt16
  generationId : String
  workloadDigest : String
  candidateExecutableDigest : String
  openedAtMs : UInt64
  deriving DecidableEq, Repr

namespace LogHeader

def new (generationId workloadDigest candidateExecutableDigest : String) (openedAtMs : UInt64) : LogHeader :=
  { logVersion := observationLogVersion, generationId, workloadDigest, candidateExecutableDigest, openedAtMs }

variable (header : LogHeader)

def json : Json :=
  .obj [("log_version", .num header.logVersion.toNat), ("generation_id", .str header.generationId),
    ("workload_digest", .str header.workloadDigest),
    ("candidate_executable_digest", .str header.candidateExecutableDigest),
    ("opened_at_ms", .num header.openedAtMs.toNat)]

def validate : Except String Unit := do
  refuseIf (header.logVersion ≠ observationLogVersion)
    s!"observation log version {header.logVersion} is not supported (expected {observationLogVersion})"
  refuseIf (isBlank header.generationId) "observation log generation id is required"
  refuseIf (isHexDigest header.workloadDigest = false) "observation log workload digest is not a hex SHA-256"
  refuseIf (isHexDigest header.candidateExecutableDigest = false)
    "observation log candidate executable digest is not a hex SHA-256"

end LogHeader

structure LogObservation where
  observation : CanaryObservationV2
  observationDigest : String
  deriving DecidableEq, Repr

structure LogRejection where
  reason : String
  observedAtMs : UInt64
  deriving DecidableEq, Repr

structure LogSeal where
  observationCount : UInt64
  qualifyingCount : UInt64
  logDigest : String
  sealedAtMs : UInt64
  deriving DecidableEq, Repr

inductive LogRecord where
  | header (record : LogHeader)
  | observation (record : LogObservation)
  | rejection (record : LogRejection)
  | sealed (record : LogSeal)
  deriving DecidableEq, Repr

def LogObservation.json (record : LogObservation) : Json :=
  .obj [("observation", record.observation.json), ("observation_digest", .str record.observationDigest)]

def LogRejection.json (record : LogRejection) : Json :=
  .obj [("reason", .str record.reason), ("observed_at_ms", .num record.observedAtMs.toNat)]

def LogSeal.json (record : LogSeal) : Json :=
  .obj [("observation_count", .num record.observationCount.toNat),
    ("qualifying_count", .num record.qualifyingCount.toNat), ("log_digest", .str record.logDigest),
    ("sealed_at_ms", .num record.sealedAtMs.toNat)]

namespace LogRecord

def tagged (kind : String) (record : Json) : Json := .obj [("kind", .str kind), ("record", record)]

def json : LogRecord → Json
  | header record => tagged "header" record.json
  | observation record => tagged "observation" record.json
  | rejection record => tagged "rejection" record.json
  | sealed record => tagged "seal" record.json

def line (record : LogRecord) : Bytes := canonicalJson record.json

def toLine (record : LogRecord) : Bytes := record.line ++ [10]

theorem newline_notMem_line (record : LogRecord) : 10 ∉ record.line := Json.toText_no_newline _

-- Behind its start a line holds `{"k` nowhere.
theorem print_json (record : LogRecord) : ∃ rest, record.json.sortKeys.print = '{' :: '"' :: 'k' :: rest ∧
    Json.search 0 rest = some 0 := by
  have shape (kind : String) (value : Json) (keyless : value.Keyless) :
      ∃ rest, (tagged kind value).sortKeys.print = '{' :: '"' :: 'k' :: rest ∧ Json.search 0 rest = some 0 := by
    obtain ⟨first, apart, searchedKind⟩ := Json.printString_passes kind
    obtain ⟨second, closed, searchedValue⟩ := Json.print_passes _ (Json.keyless_sortKeys value keyless)
    have ordered : ("kind" : String) < "record" := by decide
    have kindKey : Json.printString "kind" = ['"', 'k', 'i', 'n', 'd', '"'] := by decide
    have recordKey : Json.printString "record" = ['"', 'r', 'e', 'c', 'o', 'r', 'd', '"'] := by decide
    refine ⟨['i', 'n', 'd', '"', ':'] ++ (Json.printString kind ++
      (',' :: (['"', 'r', 'e', 'c', 'o', 'r', 'd', '"', ':'] ++ (value.sortKeys.print ++ ['}'])))), ?_, ?_⟩
    · simp [tagged, Json.sortKeys, Json.sortFields, Json.insertField, ordered, Json.print, Json.printFields,
        Json.commaSeparated, kindKey, recordKey]
    · rw [Json.search_append, show Json.search 0 ['i', 'n', 'd', '"', ':'] = some 0 from rfl,
        Option.bind_some, Json.search_append, searchedKind, Option.bind_some, Json.search_cons,
        Json.seek_plain ',' apart (by decide) (by decide), Option.bind_some, Json.search_append,
        show Json.search 0 ['"', 'r', 'e', 'c', 'o', 'r', 'd', '"', ':'] = some 0 from rfl, Option.bind_some,
        Json.search_append, searchedValue, Option.bind_some, Json.search_cons,
        Json.seek_plain '}' closed (by decide) (by decide)]
      rfl
  cases record with
  | header header =>
    exact shape "header" header.json (by simp [LogHeader.json, Json.Keyless, Json.KeylessFields])
  | observation record =>
    refine shape "observation" record.json ?_
    cases hash : record.observation.resultDigest <;>
      simp [LogObservation.json, CanaryObservationV2.json, Json.Keyless, Json.KeylessFields, optionJson, hash]
  | rejection record =>
    exact shape "rejection" record.json (by simp [LogRejection.json, Json.Keyless, Json.KeylessFields])
  | sealed record => exact shape "seal" record.json (by simp [LogSeal.json, Json.Keyless, Json.KeylessFields])

-- No line ends in another line.
theorem line_ne_behind (record behind : LogRecord) {part : Bytes} (nonempty : part ≠ []) :
    record.line ≠ part ++ behind.line := by
  intro same
  obtain ⟨rest, print, vain⟩ := record.print_json
  obtain ⟨more, start, -⟩ := behind.print_json
  simp only [line, canonicalJson, Json.toText, utf8_ofList, start, List.flatMap_cons,
    utf8EncodeChar_ascii '{' (by decide), utf8EncodeChar_ascii '"' (by decide),
    utf8EncodeChar_ascii 'k' (by decide), List.cons_append, List.nil_append] at same
  obtain ⟨first, second, chars, bytes, tail⟩ := split_at_ascii (c := '{') (by decide) same
  obtain ⟨third, rfl, later⟩ := split_first_ascii (c := '"') (by decide) tail
  obtain ⟨fourth, rfl, -⟩ := split_first_ascii (c := 'k') (by decide) later
  cases first with
  | nil => exact nonempty (by simpa using bytes.symm)
  | cons c others =>
    rw [print, List.cons_append, List.cons.injEq] at chars
    cases others with
    | nil => simp at chars
    | cons d others =>
      simp only [List.cons_append, List.cons.injEq] at chars
      cases others with
      | nil => simp at chars
      | cons e others =>
        simp only [List.cons_append, List.cons.injEq] at chars
        exact Json.not_infix_of_search vain chars.2.2.2

end LogRecord

/-- What the observation log uses of other crates: SHA-256, serde_json on the log's
records, and the Debug text of strings and paths. -/
structure LogCrates where
  sha : HexHash
  fromSlice : Bytes → Except String LogRecord
  fromSlice_line : ∀ record : LogRecord, fromSlice record.line = .ok record
  debug : String → String

attribute [simp] LogCrates.fromSlice_line

section Standard

def textOf : Json → Option String
  | .str text => some text
  | _ => none

def optionTextOf : Json → Option (Option String)
  | .null => some none
  | .str text => some (some text)
  | _ => none

def wordOf : Json → Option UInt64
  | .num n => some (UInt64.ofNat n)
  | _ => none

def versionOf : Json → Option UInt16
  | .num n => some (UInt16.ofNat n)
  | _ => none

def statusOf : Json → Option VerifiedStatus
  | .str "verified_success" => some .verifiedSuccess
  | .str "wrong_result" => some .wrongResult
  | .str "timeout" => some .timeout
  | .str "invalid_response" => some .invalidResponse
  | .str "connection_closed" => some .connectionClosed
  | _ => none

def provenanceOf : Json → Option Provenance
  | .str "measured" => some .measured
  | .str "synthetic" => some .synthetic
  | _ => none

def observationOf (value : Json) : Option CanaryObservationV2 := do
  return {
    recordVersion := ← (← value.field "record_version") |> versionOf
    observationId := ← (← value.field "observation_id") |> textOf
    generationId := ← (← value.field "generation_id") |> textOf
    requestId := ← (← value.field "request_id") |> textOf
    requestDigest := ← (← value.field "request_digest") |> textOf
    workloadDigest := ← (← value.field "workload_digest") |> textOf
    candidateExecutableDigest := ← (← value.field "candidate_executable_digest") |> textOf
    resultDigest := ← (← value.field "result_digest") |> optionTextOf
    elapsedUs := ← (← value.field "elapsed_us") |> wordOf
    observedAtMs := ← (← value.field "observed_at_ms") |> wordOf
    status := ← (← value.field "status") |> statusOf
    provenance := ← (← value.field "provenance") |> provenanceOf }

def headerOf (value : Json) : Option LogHeader := do
  return {
    logVersion := ← (← value.field "log_version") |> versionOf
    generationId := ← (← value.field "generation_id") |> textOf
    workloadDigest := ← (← value.field "workload_digest") |> textOf
    candidateExecutableDigest := ← (← value.field "candidate_executable_digest") |> textOf
    openedAtMs := ← (← value.field "opened_at_ms") |> wordOf }

def logObservationOf (value : Json) : Option LogObservation := do
  return {
    observation := ← (← value.field "observation") |> observationOf
    observationDigest := ← (← value.field "observation_digest") |> textOf }

def rejectionOf (value : Json) : Option LogRejection := do
  return {
    reason := ← (← value.field "reason") |> textOf
    observedAtMs := ← (← value.field "observed_at_ms") |> wordOf }

def sealOf (value : Json) : Option LogSeal := do
  return {
    observationCount := ← (← value.field "observation_count") |> wordOf
    qualifyingCount := ← (← value.field "qualifying_count") |> wordOf
    logDigest := ← (← value.field "log_digest") |> textOf
    sealedAtMs := ← (← value.field "sealed_at_ms") |> wordOf }

def recordOf (value : Json) : Option LogRecord := do
  let kind ← value.field "kind"
  let record ← value.field "record"
  match ← textOf kind with
  | "header" => (headerOf record).map .header
  | "observation" => (logObservationOf record).map .observation
  | "rejection" => (rejectionOf record).map .rejection
  | "seal" => (sealOf record).map .sealed
  | _ => none

@[simp] theorem optionTextOf_optionJson (text : Option String) : optionTextOf (optionJson text) = some text := by
  cases text <;> rfl

@[simp] theorem optionTextOf_json (text : Option String) :
    optionTextOf (optionJson text).sortKeys = some text := by
  cases text <;> rfl

@[simp] theorem statusOf_toText (status : VerifiedStatus) :
    statusOf (.str status.toText) = some status := by
  cases status <;> rfl

@[simp] theorem provenanceOf_toText (provenance : Provenance) :
    provenanceOf (.str provenance.toText) = some provenance := by
  cases provenance <;> rfl

theorem observationOf_json (obs : CanaryObservationV2) : observationOf obs.json.sortKeys = some obs := by
  simp (disch := simp) only [observationOf, CanaryObservationV2.json, Json.field_sortKeys]
  simp [Json.field, List.lookup_cons, Json.sortKeys, versionOf, textOf, wordOf]

-- The record is a function of the text its digest hashes.
theorem CanaryObservationV2.recordText_injective : Function.Injective CanaryObservationV2.recordText := by
  intro first second same
  simp only [recordText, domainBytes, List.flatMap_cons, List.flatMap_nil, List.append_nil,
    List.append_cancel_left_eq] at same
  have printed : first.json.toText = second.json.toText := utf8_injective (putField_injective same)
  have parsed := Json.parse_toText first.json
  rw [printed, Json.parse_toText, Option.some.injEq] at parsed
  have read := observationOf_json second
  rw [parsed, observationOf_json] at read
  exact Option.some.inj read

theorem headerOf_json (header : LogHeader) : headerOf header.json.sortKeys = some header := by
  simp (disch := simp) only [headerOf, LogHeader.json, Json.field_sortKeys]
  simp [Json.field, List.lookup_cons, Json.sortKeys, versionOf, textOf, wordOf]

theorem logObservationOf_json (record : LogObservation) :
    logObservationOf record.json.sortKeys = some record := by
  simp (disch := simp) only [logObservationOf, LogObservation.json, Json.field_sortKeys]
  simp [Json.field, List.lookup_cons, Json.sortKeys, textOf, observationOf_json]

theorem rejectionOf_json (record : LogRejection) : rejectionOf record.json.sortKeys = some record := by
  simp (disch := simp) only [rejectionOf, LogRejection.json, Json.field_sortKeys]
  simp [Json.field, List.lookup_cons, Json.sortKeys, textOf, wordOf]

theorem sealOf_json (record : LogSeal) : sealOf record.json.sortKeys = some record := by
  simp (disch := simp) only [sealOf, LogSeal.json, Json.field_sortKeys]
  simp [Json.field, List.lookup_cons, Json.sortKeys, textOf, wordOf]

theorem recordOf_json (record : LogRecord) : recordOf record.json.sortKeys = some record := by
  cases record <;>
    simp (disch := simp) only [recordOf, LogRecord.json, LogRecord.tagged, Json.field_sortKeys] <;>
    simp [Json.field, List.lookup_cons, Json.sortKeys, textOf, headerOf_json, logObservationOf_json,
      rejectionOf_json, sealOf_json]

def standardLogCrates : LogCrates where
  sha := sha256
  fromSlice bytes := okOr "invalid record" (do recordOf (← Json.parse (← fromUtf8 bytes)))
  fromSlice_line record := by
    simp [LogRecord.line, canonicalJson, fromUtf8_utf8, Json.parse_toText, recordOf_json, okOr]
  debug text := "\"" ++ text ++ "\""

end Standard

end SparkRsi.Canary
