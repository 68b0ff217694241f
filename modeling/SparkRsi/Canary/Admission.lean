import Mathlib.Data.Finset.Card
import SparkRsi.Canary.Workload
import SparkRsi.Canary.Writer

set_option autoImplicit false

namespace SparkRsi.Canary

open Shared

structure SealedQuotaDecision where
  counted : UInt64
  target : UInt64
  generationId : String
  candidateExecutableDigest : String
  workloadDigest : String
  logDigest : String

section

variable (crates : LogCrates)

def checkAdmissible (identity : CandidateIdentity) (workload : CanaryWorkloadManifest)
    (obs : CanaryObservationV2) : Except String Unit := do
  let workloadDigest := workload.digest crates.sha
  obs.validate crates.sha
  refuseIf (obs.generationId ≠ identity.generationId ∨
      obs.candidateExecutableDigest ≠ identity.executableDigest ∨ obs.workloadDigest ≠ workloadDigest)
    s!"observation {obs.observationId} is not bound to this generation, executable and workload"
  refuseIf (obs.provenance ≠ .measured)
    s!"observation {obs.observationId} is a synthetic rehearsal; it cannot satisfy the production canary quota"
  refuseIf (obs.status ≠ .verifiedSuccess)
    s!"canary observed a {obs.status.debug} on request {obs.requestId}; the candidate is not promotable"
  let spec ← okOr
    s!"observation {obs.observationId} answers request {obs.requestId} which is not in the pinned workload"
    (workload.request obs.requestId)
  let expectedRequest := spec.requestDigest crates.sha workload.workloadId
  refuseIf (obs.requestDigest ≠ expectedRequest)
    s!"observation {obs.observationId} carries request digest {obs.requestDigest}, workload request {spec.requestId} has {expectedRequest}"
  let expectedResult := spec.expectedResultDigest crates.sha
  refuseIf (obs.resultDigest ≠ some expectedResult)
    s!"observation {obs.observationId} result digest {debugOption crates.debug obs.resultDigest} does not equal the expected outcome of request {spec.requestId}"
  refuseIf (obs.elapsedUs.toNat > min (spec.deadlineMs.toNat * 1000) (2 ^ 64 - 1))
    s!"observation {obs.observationId} took {obs.elapsedUs} us, over the {spec.deadlineMs} ms deadline of request {spec.requestId}"

def countAdmissible (identity : CandidateIdentity) (workload : CanaryWorkloadManifest) :
    List String → UInt64 → List CanaryObservationV2 → Except String UInt64
  | _, counted, [] => .ok counted
  | seen, counted, obs :: rest => do
    checkAdmissible crates identity workload obs
    if obs.observationId ∈ seen then countAdmissible identity workload seen counted rest
    else countAdmissible identity workload (obs.observationId :: seen) (counted + 1) rest

def admitSealedQuota (sealed : SealedObservationLog) (identity : CandidateIdentity)
    (workload : CanaryWorkloadManifest) (target : UInt64) : Except String SealedQuotaDecision := do
  refuseIf (target = 0) "production canary quota target must be at least 1"
  identity.validate
  workload.validate crates.debug
  let workloadDigest := workload.digest crates.sha
  let header := sealed.header
  refuseIf (header.generationId ≠ identity.generationId)
    s!"observation log is for generation {header.generationId}, candidate is generation {identity.generationId}"
  refuseIf (header.candidateExecutableDigest ≠ identity.executableDigest)
    s!"observation log executable digest {header.candidateExecutableDigest} does not match the candidate executable {identity.executableDigest}"
  refuseIf (header.workloadDigest ≠ workloadDigest)
    s!"observation log workload digest {header.workloadDigest} does not match the pinned workload {workloadDigest}"
  let counted ← countAdmissible crates identity workload [] 0 sealed.observations
  refuseIf (counted < target)
    s!"production canary quota requires {target} verified observations, received {counted}"
  return { counted, target, generationId := identity.generationId
           candidateExecutableDigest := identity.executableDigest, workloadDigest
           logDigest := sealed.sealedBy.logDigest }

end

section

variable {crates : LogCrates} {identity : CandidateIdentity} {workload : CanaryWorkloadManifest}

/-- What an observation that passes the checks looks like. -/
structure Admissible (crates : LogCrates) (identity : CandidateIdentity) (workload : CanaryWorkloadManifest)
    (obs : CanaryObservationV2) (spec : CanaryRequestSpec) : Prop where
  valid : obs.Valid crates.sha
  generation : obs.generationId = identity.generationId
  executable : obs.candidateExecutableDigest = identity.executableDigest
  bound : obs.workloadDigest = workload.digest crates.sha
  measured : obs.provenance = .measured
  success : obs.status = .verifiedSuccess
  request : workload.request obs.requestId = some spec
  requestDigest : obs.requestDigest = spec.requestDigest crates.sha workload.workloadId
  result : obs.resultDigest = some (spec.expectedResultDigest crates.sha)
  elapsed : obs.elapsedUs.toNat ≤ min (spec.deadlineMs.toNat * 1000) (2 ^ 64 - 1)

theorem checkAdmissible_ok {obs : CanaryObservationV2} :
    checkAdmissible crates identity workload obs = .ok () ↔
      ∃ spec, Admissible crates identity workload obs spec := by
  simp only [checkAdmissible, bind_eq_ok, exists_unit, refuseIf_eq_ok, CanaryObservationV2.validate_ok,
    okOr_eq_ok, not_or, Decidable.not_not, not_lt]
  constructor
  · rintro ⟨valid, ⟨generation, executable, bound⟩, measured, success, spec, request, digest, result, elapsed⟩
    exact ⟨spec, valid, generation, executable, bound, measured, success, request, digest, result, elapsed⟩
  · rintro ⟨spec, admissible⟩
    exact ⟨admissible.valid, ⟨admissible.generation, admissible.executable, admissible.bound⟩,
      admissible.measured, admissible.success, spec, admissible.request, admissible.requestDigest,
      admissible.result, admissible.elapsed⟩

variable (crates identity workload) in
structure BelongsTo (header : LogHeader) : Prop where
  generation : header.generationId = identity.generationId
  executable : header.candidateExecutableDigest = identity.executableDigest
  workload : header.workloadDigest = workload.digest crates.sha

theorem admitSealedQuota_ok {sealed : SealedObservationLog} {target : UInt64}
    {decision : SealedQuotaDecision} :
    admitSealedQuota crates sealed identity workload target = .ok decision ↔
      target ≠ 0 ∧ identity.validate = .ok () ∧ workload.validate crates.debug = .ok () ∧
        BelongsTo crates identity workload sealed.header ∧
        countAdmissible crates identity workload [] 0 sealed.observations = .ok decision.counted ∧
        target ≤ decision.counted ∧
        decision = { counted := decision.counted, target, generationId := identity.generationId
                     candidateExecutableDigest := identity.executableDigest
                     workloadDigest := workload.digest crates.sha, logDigest := sealed.sealedBy.logDigest } := by
  simp only [admitSealedQuota, bind_eq_ok, exists_unit, refuseIf_eq_ok, Decidable.not_not, UInt64.not_lt]
  constructor
  · rintro ⟨positive, named, valid, generation, executable, bound, counted, total, enough, ⟨⟩⟩
    exact ⟨positive, named, valid, ⟨generation, executable, bound⟩, total, enough, rfl⟩
  · rintro ⟨positive, named, valid, ⟨generation, executable, bound⟩, total, enough, same⟩
    exact ⟨positive, named, valid, generation, executable, bound, _, total, enough, congrArg _ same.symm⟩

def freshIds (seen : List String) (observations : List CanaryObservationV2) : Finset String :=
  (observations.map CanaryObservationV2.observationId).toFinset \ seen.toFinset

theorem countAdmissible_distinct {observations : List CanaryObservationV2} {seen : List String}
    {counted total : UInt64} :
    countAdmissible crates identity workload seen counted observations = .ok total ↔
      (∀ obs ∈ observations, checkAdmissible crates identity workload obs = .ok ()) ∧
        total = counted + UInt64.ofNat (freshIds seen observations).card := by
  induction observations generalizing seen counted with
  | nil => simp [countAdmissible, freshIds, eq_comm]
  | cons obs rest ih =>
    simp only [countAdmissible, bind_eq_ok, exists_unit, List.forall_mem_cons, and_assoc]
    refine and_congr_right fun _ => ?_
    by_cases known : obs.observationId ∈ seen
    · have same : freshIds seen (obs :: rest) = freshIds seen rest := by
        simp [freshIds, Finset.insert_sdiff_of_mem, known]
      rw [if_pos known, ih, same]
    · -- A new id is counted here and remembered for the rest.
      have split : freshIds seen (obs :: rest) =
          insert obs.observationId (freshIds (obs.observationId :: seen) rest) := by
        ext id
        by_cases here : id = obs.observationId <;> simp [freshIds, here, known]
      have apart : obs.observationId ∉ freshIds (obs.observationId :: seen) rest := by simp [freshIds]
      rw [if_neg known, ih, split, Finset.card_insert_of_notMem apart, Nat.add_comm, UInt64.ofNat_add,
        UInt64.add_assoc]
      rfl

-- Over different observation ids the count is the number of observations.
theorem countAdmissible_ok {observations : List CanaryObservationV2} {seen : List String}
    {counted total : UInt64} (apart : (observations.map CanaryObservationV2.observationId).Nodup)
    (fresh : ∀ obs ∈ observations, obs.observationId ∉ seen) :
    countAdmissible crates identity workload seen counted observations = .ok total ↔
      (∀ obs ∈ observations, checkAdmissible crates identity workload obs = .ok ()) ∧
        total = counted + UInt64.ofNat observations.length := by
  have ids : freshIds seen observations = (observations.map CanaryObservationV2.observationId).toFinset := by
    apply Finset.sdiff_eq_self_of_disjoint
    rw [Finset.disjoint_left]
    intro id member
    obtain ⟨obs, inside, rfl⟩ := List.mem_map.mp (List.mem_toFinset.mp member)
    simpa using fresh obs inside
  rw [countAdmissible_distinct, ids, List.toFinset_card_of_nodup apart, List.length_map]

end

end SparkRsi.Canary
