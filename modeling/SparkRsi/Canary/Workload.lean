import SparkRsi.Canary.Records

set_option autoImplicit false

namespace SparkRsi.Canary

open Shared

def workloadVersion : UInt16 := 1
def identityVersion : UInt16 := 1

inductive Nondeterminism where
  | exact
  deriving DecidableEq

def Nondeterminism.asStr : Nondeterminism → String
  | exact => "exact"

structure CanaryRequestSpec where
  requestId : String
  input : String
  expectedOutput : String
  deadlineMs : UInt64
  nondeterminism : Nondeterminism
  deriving DecidableEq

namespace CanaryRequestSpec

variable (sha : HexHash) (spec : CanaryRequestSpec)

def requestDigest (workloadId : String) : String :=
  domainDigest sha "spark-rsi/canary-request/v1"
    [utf8 workloadId, utf8 spec.requestId, utf8 spec.input, utf8 spec.expectedOutput, u64Le spec.deadlineMs,
      utf8 spec.nondeterminism.asStr]

def expectedResultDigest : String := sha.hex (utf8 spec.expectedOutput)

def matchesOutput (output : String) : Bool :=
  match spec.nondeterminism with
  | .exact => output = spec.expectedOutput

def validate (debug : String → String) : Except String Unit := do
  refuseIf (isBlank spec.requestId) "canary request id is required"
  refuseIf (spec.requestId.toList.any isControl)
    s!"canary request id {debug spec.requestId} contains a control character"
  refuseIf (spec.deadlineMs = 0) s!"canary request {spec.requestId} has a zero deadline"

def json : Json :=
  .obj [("request_id", .str spec.requestId), ("input", .str spec.input),
    ("expected_output", .str spec.expectedOutput), ("deadline_ms", .num spec.deadlineMs.toNat),
    ("nondeterminism", .str spec.nondeterminism.asStr)]

@[simp] theorem matchesOutput_iff {spec : CanaryRequestSpec} {output : String} :
    spec.matchesOutput output = true ↔ output = spec.expectedOutput := by
  simp [matchesOutput]

end CanaryRequestSpec

structure CanaryWorkloadManifest where
  workloadVersion : UInt16
  workloadId : String
  protocolVersion : UInt16
  requests : List CanaryRequestSpec

structure PinnedWorkload where
  manifest : CanaryWorkloadManifest
  digest : String
  path : String

namespace CanaryWorkloadManifest

variable (sha : HexHash) (debug : String → String) (manifest : CanaryWorkloadManifest)

def validateRequests : List String → List CanaryRequestSpec → Except String Unit
  | _, [] => .ok ()
  | ids, spec :: rest => do
    spec.validate debug
    refuseIf (spec.requestId ∈ ids) s!"canary workload repeats request id {spec.requestId}"
    validateRequests (spec.requestId :: ids) rest

def validate : Except String Unit := do
  refuseIf (manifest.workloadVersion ≠ Canary.workloadVersion)
    s!"canary workload version {manifest.workloadVersion} is not supported (expected {Canary.workloadVersion})"
  refuseIf (manifest.protocolVersion ≠ canaryProtocolVersion)
    s!"canary workload protocol version {manifest.protocolVersion} is not supported (expected {canaryProtocolVersion})"
  refuseIf (isBlank manifest.workloadId ∨ manifest.workloadId.toList.any isControl)
    "canary workload id is required and must be printable"
  refuseIf (manifest.requests = []) "canary workload has no requests"
  validateRequests debug [] manifest.requests

def json : Json :=
  .obj [("workload_version", .num manifest.workloadVersion.toNat), ("workload_id", .str manifest.workloadId),
    ("protocol_version", .num manifest.protocolVersion.toNat),
    ("requests", .arr (manifest.requests.map CanaryRequestSpec.json))]

def digest : String := domainDigest sha "spark-rsi/canary-workload/v1" [canonicalJson manifest.json]

def request (requestId : String) : Option CanaryRequestSpec :=
  manifest.requests.find? fun spec => spec.requestId = requestId

theorem validateRequests_ok {ids : List String} {requests : List CanaryRequestSpec}
    (valid : validateRequests debug ids requests = .ok ()) :
    (requests.map CanaryRequestSpec.requestId).Nodup ∧
      ∀ spec ∈ requests, spec.requestId ∉ ids ∧ isBlank spec.requestId = false := by
  induction requests generalizing ids with
  | nil => simp
  | cons spec rest ih =>
    simp only [validateRequests, CanaryRequestSpec.validate, bind_eq_ok, exists_unit, refuseIf_eq_ok,
      Bool.not_eq_true] at valid
    obtain ⟨⟨nonblank, -⟩, fresh, later⟩ := valid
    obtain ⟨apart, valid⟩ := ih later
    simp only [List.mem_cons, not_or] at valid
    refine ⟨List.nodup_cons.mpr ⟨?_, apart⟩, ?_⟩
    · intro member
      obtain ⟨other, inside, same⟩ := List.mem_map.mp member
      exact (valid other inside).1.1 same
    · intro other member
      rcases List.mem_cons.mp member with rfl | inside
      · exact ⟨fresh, nonblank⟩
      · exact ⟨(valid other inside).1.2, (valid other inside).2⟩

-- The requests of a valid workload have ids, and different ones.
theorem validate_ok (valid : manifest.validate debug = .ok ()) :
    (manifest.requests.map CanaryRequestSpec.requestId).Nodup ∧
      ∀ spec ∈ manifest.requests, isBlank spec.requestId = false := by
  simp only [validate, bind_eq_ok, exists_unit, refuseIf_eq_ok] at valid
  obtain ⟨-, -, -, -, requests⟩ := valid
  obtain ⟨apart, each⟩ := validateRequests_ok debug requests
  exact ⟨apart, fun spec member => (each spec member).2⟩

-- A request id finds its request.
theorem request_of_mem {manifest : CanaryWorkloadManifest}
    (apart : (manifest.requests.map CanaryRequestSpec.requestId).Nodup) {spec : CanaryRequestSpec}
    (member : spec ∈ manifest.requests) : manifest.request spec.requestId = some spec := by
  unfold request
  generalize manifest.requests = requests at apart member
  induction requests with
  | nil => cases member
  | cons other rest ih =>
    rw [List.map_cons, List.nodup_cons] at apart
    rcases List.mem_cons.mp member with rfl | inside
    · simp
    · have differs : other.requestId ≠ spec.requestId := fun same =>
        apart.1 (List.mem_map.mpr ⟨spec, inside, same.symm⟩)
      rw [List.find?_cons_of_neg (by simpa using differs)]
      exact ih apart.2 inside

end CanaryWorkloadManifest

structure CandidateIdentity where
  identityVersion : UInt16
  patchDigest : String
  treeDigest : String
  executableDigest : String
  generationId : String

namespace CandidateIdentity

variable (sha : HexHash) (debug : String → String)

def new (patchDigest treeDigest executableDigest generationId : String) : CandidateIdentity :=
  { identityVersion := Canary.identityVersion, patchDigest, treeDigest, executableDigest, generationId }

variable (identity : CandidateIdentity)

def validate : Except String Unit := do
  refuseIf (identity.identityVersion ≠ Canary.identityVersion)
    s!"candidate identity version {identity.identityVersion} is not supported (expected {Canary.identityVersion})"
  refuseIf (isHexDigest identity.patchDigest = false) "candidate identity patch_digest is not a hex SHA-256"
  refuseIf (isHexDigest identity.treeDigest = false) "candidate identity tree_digest is not a hex SHA-256"
  refuseIf (isHexDigest identity.executableDigest = false)
    "candidate identity executable_digest is not a hex SHA-256"
  refuseIf (isBlank identity.generationId) "candidate identity generation id is required"

def bindingBytes : Bytes :=
  putField (utf8 "spark-rsi/candidate-identity/v1") ++
    [utf8 identity.patchDigest, utf8 identity.treeDigest, utf8 identity.executableDigest,
      utf8 identity.generationId].flatMap putField

def bindingDigest : String := sha.hex identity.bindingBytes

def digestFile (path : String) (file : Except String Bytes) : Except String String :=
  match file with
  | .ok bytes => .ok (sha.hex bytes)
  | .error e => .error s!"cannot read {debug path} for hashing: {e}"

def verifyExecutable (path : String) (file : Except String Bytes) : Except String Unit := do
  let actual ← digestFile sha debug path file
  refuseIf (actual ≠ identity.executableDigest)
    s!"executable {debug path} hashes to {actual}, not the candidate's {identity.executableDigest}; refusing to launch"

end CandidateIdentity

end SparkRsi.Canary
