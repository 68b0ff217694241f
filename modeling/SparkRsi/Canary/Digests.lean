import SparkRsi.Canary.Workload
import SparkRsi.Canary.Writer
import SparkRsi.Shared.Codec

set_option autoImplicit false

namespace SparkRsi.Canary

open Shared

theorem domainBytes_inj {domain domain' : String} {fields fields' : List Bytes}
    (named : (utf8 domain).length < 2 ^ 64) (named' : (utf8 domain').length < 2 ^ 64)
    (fits : ∀ field ∈ fields, field.length < 2 ^ 64) (fits' : ∀ field ∈ fields', field.length < 2 ^ 64)
    (same : domainBytes domain fields = domainBytes domain' fields') :
    domain = domain' ∧ fields = fields' := by
  rw [domainBytes, domainBytes] at same
  have parts := putField_append_inj named named' same
  exact ⟨utf8_injective parts.1, putFields_inj fits fits' parts.2⟩

section Readers

-- A record that can be read back from its sorted JSON is a function of its canonical bytes.
theorem canonicalJson_injective {α : Type} {json : α → Json} (read : Json → Option α)
    (reads : ∀ record, read (json record).sortKeys = some record) :
    Function.Injective fun record => canonicalJson (json record) := by
  intro first second same
  have parsed := Json.parse_toText (json first)
  rw [utf8_injective same, Json.parse_toText, Option.some.injEq] at parsed
  have again := reads second
  rw [parsed, reads] at again
  exact Option.some.inj again

def nondeterminismOf : Json → Option Nondeterminism
  | .str "exact" => some .exact
  | _ => none

def requestOf (value : Json) : Option CanaryRequestSpec := do
  return {
    requestId := ← (← value.field "request_id") |> textOf
    input := ← (← value.field "input") |> textOf
    expectedOutput := ← (← value.field "expected_output") |> textOf
    deadlineMs := ← (← value.field "deadline_ms") |> wordOf
    nondeterminism := ← (← value.field "nondeterminism") |> nondeterminismOf }

def requestsOf : Json → Option (List CanaryRequestSpec)
  | .arr items => items.mapM requestOf
  | _ => none

def manifestOf (value : Json) : Option CanaryWorkloadManifest := do
  return {
    workloadVersion := ← (← value.field "workload_version") |> versionOf
    workloadId := ← (← value.field "workload_id") |> textOf
    protocolVersion := ← (← value.field "protocol_version") |> versionOf
    requests := ← (← value.field "requests") |> requestsOf }

def CandidateIdentity.json (identity : CandidateIdentity) : Json :=
  .obj [("identity_version", .num identity.identityVersion.toNat), ("patch_digest", .str identity.patchDigest),
    ("tree_digest", .str identity.treeDigest), ("executable_digest", .str identity.executableDigest),
    ("generation_id", .str identity.generationId)]

def identityOf (value : Json) : Option CandidateIdentity := do
  return {
    identityVersion := ← (← value.field "identity_version") |> versionOf
    patchDigest := ← (← value.field "patch_digest") |> textOf
    treeDigest := ← (← value.field "tree_digest") |> textOf
    executableDigest := ← (← value.field "executable_digest") |> textOf
    generationId := ← (← value.field "generation_id") |> textOf }

@[simp] theorem nondeterminismOf_asStr (nondeterminism : Nondeterminism) :
    nondeterminismOf (.str nondeterminism.asStr) = some nondeterminism := by
  cases nondeterminism
  rfl

theorem requestOf_json (spec : CanaryRequestSpec) : requestOf spec.json.sortKeys = some spec := by
  simp (disch := simp) only [requestOf, CanaryRequestSpec.json, Json.field_sortKeys]
  simp [Json.field, List.lookup_cons, Json.sortKeys, textOf, wordOf]

theorem requestsOf_json (requests : List CanaryRequestSpec) :
    requestsOf (.arr (Json.sortItems (requests.map CanaryRequestSpec.json))) = some requests := by
  rw [requestsOf]
  induction requests with
  | nil => rfl
  | cons spec rest ih =>
    rw [List.map_cons, Json.sortItems, List.mapM_cons, requestOf_json, ih]
    rfl

theorem manifestOf_json (manifest : CanaryWorkloadManifest) :
    manifestOf manifest.json.sortKeys = some manifest := by
  simp (disch := simp) only [manifestOf, CanaryWorkloadManifest.json, Json.field_sortKeys]
  simp [Json.field, List.lookup_cons, requestsOf_json, Json.sortKeys, versionOf, textOf]

theorem identityOf_json (identity : CandidateIdentity) :
    identityOf identity.json.sortKeys = some identity := by
  simp (disch := simp) only [identityOf, CandidateIdentity.json, Json.field_sortKeys]
  simp [Json.field, List.lookup_cons, Json.sortKeys, versionOf, textOf]

end Readers

inductive Artifact where
  | request (workloadId : String) (spec : CanaryRequestSpec)
  | workload (manifest : CanaryWorkloadManifest)
  | observationId (generationId requestId requestDigest : String)
  | observation (obs : CanaryObservationV2)
  | identity (chain : CandidateIdentity)
  | logPrefix (bytesBeforeSeal : Bytes)

namespace Artifact

def digest (crates : LogCrates) : Artifact → String
  | request workloadId spec => spec.requestDigest crates.sha workloadId
  | workload manifest => manifest.digest crates.sha
  | observationId generationId requestId requestDigest =>
    Canary.observationId crates.sha generationId requestId requestDigest
  | observation obs => obs.digestHex crates.sha
  | identity chain => chain.bindingDigest crates.sha
  | logPrefix bytesBeforeSeal => logDigestOf crates bytesBeforeSeal

def domain : Artifact → String
  | request .. => "spark-rsi/canary-request/v1"
  | workload _ => "spark-rsi/canary-workload/v1"
  | observationId .. => "spark-rsi/canary-observation-id/v2"
  | observation _ => "spark-rsi/canary-observation/v2"
  | identity _ => "spark-rsi/candidate-identity/v1"
  | logPrefix _ => "spark-rsi/canary-observation-log/v1"

def fields : Artifact → List Bytes
  | request workloadId spec =>
    [utf8 workloadId, utf8 spec.requestId, utf8 spec.input, utf8 spec.expectedOutput, u64Le spec.deadlineMs,
      utf8 spec.nondeterminism.asStr]
  | workload manifest => [canonicalJson manifest.json]
  | observationId generationId requestId requestDigest =>
    [utf8 generationId, utf8 requestId, utf8 requestDigest]
  | observation obs => [canonicalJson obs.json]
  | identity chain =>
    [utf8 chain.patchDigest, utf8 chain.treeDigest, utf8 chain.executableDigest, utf8 chain.generationId]
  | logPrefix bytesBeforeSeal => [bytesBeforeSeal]

def text (artifact : Artifact) : Bytes := domainBytes artifact.domain artifact.fields

/-- Of one kind, and equal in all that the digest covers: everything but the version of a candidate
identity. -/
def SameCovered : Artifact → Artifact → Prop
  | request workloadId spec, request workloadId' spec' => workloadId = workloadId' ∧ spec = spec'
  | workload manifest, workload manifest' => manifest = manifest'
  | observationId generationId requestId requestDigest, observationId generationId' requestId' requestDigest' =>
    generationId = generationId' ∧ requestId = requestId' ∧ requestDigest = requestDigest'
  | observation obs, observation obs' => obs = obs'
  | identity chain, identity chain' => chain = { chain' with identityVersion := chain.identityVersion }
  | logPrefix bytes, logPrefix bytes' => bytes = bytes'
  | _, _ => False

end Artifact

/-- An artifact in memory: no field has more bytes than a machine word counts. -/
structure Held where
  artifact : Artifact
  fits : ∀ field ∈ artifact.fields, field.length < 2 ^ 64

section Separation

variable {crates : LogCrates} {first second : Artifact}

theorem digest_eq_hex (artifact : Artifact) : artifact.digest crates = crates.sha.hex artifact.text := by
  cases artifact <;> rfl

theorem domain_fits (artifact : Artifact) : (utf8 artifact.domain).length < 2 ^ 64 := by
  cases artifact <;> simp only [Artifact.domain] <;> decide

theorem eq_of_canonicalJson {α : Type} {json : α → Json}
    (injective : Function.Injective fun record => canonicalJson (json record)) {record record' : α}
    (same : [canonicalJson (json record)] = [canonicalJson (json record')]) : record = record' :=
  injective (List.singleton_inj.mp same)

theorem sameCovered_of_fields (kinds : first.domain = second.domain) (same : first.fields = second.fields) :
    first.SameCovered second := by
  cases first <;> cases second
  case request.request workloadId spec workloadId' spec' =>
    simp only [Artifact.fields, List.cons.injEq, utf8_injective.eq_iff, u64Le_injective.eq_iff] at same
    obtain ⟨workload, request, input, output, deadline, _⟩ := same
    refine ⟨workload, ?_⟩
    cases spec
    cases spec'
    simp_all
  case workload.workload manifest manifest' =>
    exact eq_of_canonicalJson (canonicalJson_injective manifestOf manifestOf_json) same
  case observationId.observationId =>
    simpa only [Artifact.fields, Artifact.SameCovered, List.cons.injEq, utf8_injective.eq_iff,
      and_true] using same
  case observation.observation obs obs' =>
    exact eq_of_canonicalJson (canonicalJson_injective observationOf observationOf_json) same
  case identity.identity chain chain' =>
    simp only [Artifact.fields, List.cons.injEq, utf8_injective.eq_iff, and_true] at same
    cases chain
    cases chain'
    simp_all [Artifact.SameCovered]
  case logPrefix.logPrefix => exact List.singleton_inj.mp same
  -- Two kinds have two domains.
  all_goals simp [Artifact.domain] at kinds

theorem fields_of_sameCovered (same : first.SameCovered second) :
    first.domain = second.domain ∧ first.fields = second.fields := by
  cases first <;> cases second
  case request.request =>
    obtain ⟨rfl, rfl⟩ := same
    exact ⟨rfl, rfl⟩
  case workload.workload =>
    cases same
    exact ⟨rfl, rfl⟩
  case observationId.observationId =>
    obtain ⟨rfl, rfl, rfl⟩ := same
    exact ⟨rfl, rfl⟩
  case observation.observation =>
    cases same
    exact ⟨rfl, rfl⟩
  case identity.identity chain chain' =>
    have covered : chain = { chain' with identityVersion := chain.identityVersion } := same
    rw [covered]
    exact ⟨rfl, rfl⟩
  case logPrefix.logPrefix =>
    cases same
    exact ⟨rfl, rfl⟩
  all_goals cases same

end Separation

/-- The JSON of every record type tells its records apart, and digests are equal exactly for artifacts of
one kind that agree in every field the digest covers. -/
theorem canary_digests_apart (crates : LogCrates) (first second : Held)
    (collisionFree : Set.InjOn crates.sha.hex {first.artifact.text, second.artifact.text}) :
    (first.artifact.digest crates = second.artifact.digest crates ↔ first.artifact.SameCovered second.artifact) ∧
      (Function.Injective fun manifest : CanaryWorkloadManifest => canonicalJson manifest.json) ∧
      (Function.Injective fun spec : CanaryRequestSpec => canonicalJson spec.json) ∧
      (Function.Injective fun obs : CanaryObservationV2 => canonicalJson obs.json) ∧
      (Function.Injective fun identity : CandidateIdentity => canonicalJson identity.json) ∧
      (Function.Injective fun record : LogRecord => canonicalJson record.json) := by
  refine ⟨?_, canonicalJson_injective manifestOf manifestOf_json,
    canonicalJson_injective requestOf requestOf_json,
    canonicalJson_injective observationOf observationOf_json,
    canonicalJson_injective identityOf identityOf_json, canonicalJson_injective recordOf recordOf_json⟩
  rw [digest_eq_hex, digest_eq_hex]
  constructor
  next =>
    intro same
    have texts := collisionFree (by simp) (by simp) same
    have parts := domainBytes_inj (domain_fits _) (domain_fits _) first.fits second.fits texts
    exact sameCovered_of_fields parts.1 parts.2
  next =>
    intro same
    have parts := fields_of_sameCovered same
    rw [Artifact.text, Artifact.text, parts.1, parts.2]

section Sample

def chainOf (identityVersion : UInt16) (generationId : Text) : Held where
  artifact := .identity
    { identityVersion
      patchDigest := "a1"
      treeDigest := "b2"
      executableDigest := "c3"
      generationId := generationId.value }
  fits := by
    have small : ∀ field ∈ [utf8 "a1", utf8 "b2", utf8 "c3"], field.length < 2 ^ 64 := by decide
    have own : ∀ field ∈ [utf8 generationId.value], field.length < 2 ^ 64 := List.forall_mem_singleton.mpr generationId.fits
    exact List.forall_mem_append.mpr ⟨small, own⟩

def genOne : Text := ⟨"gen-1", by decide⟩

def genTwo : Text := ⟨"gen-2", by decide⟩

-- The version is not covered, the generation is.
theorem canary_digests_apart_generations :
    (chainOf 1 genOne).artifact.digest standardLogCrates = (chainOf 2 genOne).artifact.digest standardLogCrates ∧
      (chainOf 1 genOne).artifact.digest standardLogCrates ≠ (chainOf 1 genTwo).artifact.digest standardLogCrates := by
  have versions := canary_digests_apart standardLogCrates (chainOf 1 genOne) (chainOf 2 genOne) (by
    have texts : (chainOf 1 genOne).artifact.text = (chainOf 2 genOne).artifact.text := rfl
    rw [texts, Set.pair_eq_singleton]
    exact Set.injOn_singleton _ _)
  have generations := canary_digests_apart standardLogCrates (chainOf 1 genOne) (chainOf 1 genTwo) (by
    have hashes : standardLogCrates.sha.hex (chainOf 1 genOne).artifact.text ≠
        standardLogCrates.sha.hex (chainOf 1 genTwo).artifact.text := by decide +kernel
    exact Set.injOn_pair.mpr fun same => absurd same hashes)
  refine ⟨versions.1.mpr rfl, fun same => ?_⟩
  have covered := generations.1.mp same
  exact absurd covered (by simp [chainOf, genOne, genTwo, Artifact.SameCovered])

end Sample

end SparkRsi.Canary
