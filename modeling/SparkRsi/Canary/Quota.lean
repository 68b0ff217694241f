import Mathlib.Data.Set.Function
import SparkRsi.Canary.Admission

set_option autoImplicit false

namespace SparkRsi.Canary

open Shared

section

variable (crates : LogCrates) (identity : CandidateIdentity) (workload : CanaryWorkloadManifest)

def idOfRequest (spec : CanaryRequestSpec) : String :=
  observationId crates.sha identity.generationId spec.requestId (spec.requestDigest crates.sha workload.workloadId)

def observationIdTexts : Set Bytes :=
  {text | ∃ spec ∈ workload.requests, text =
    observationIdBytes identity.generationId spec.requestId (spec.requestDigest crates.sha workload.workloadId)}

def observedRequests (observations : List CanaryObservationV2) : List CanaryRequestSpec :=
  workload.requests.filter fun spec => observations.any fun obs => obs.requestId = spec.requestId

structure Confirms (obs : CanaryObservationV2) (spec : CanaryRequestSpec) : Prop where
  measured : obs.provenance = .measured
  success : obs.status = .verifiedSuccess
  request : obs.requestId = spec.requestId
  requestDigest : obs.requestDigest = spec.requestDigest crates.sha workload.workloadId
  result : obs.resultDigest = some (spec.expectedResultDigest crates.sha)
  elapsed : obs.elapsedUs.toNat ≤ spec.deadlineMs.toNat * 1000
  generation : obs.generationId = identity.generationId
  executable : obs.candidateExecutableDigest = identity.executableDigest
  workload : obs.workloadDigest = workload.digest crates.sha

end

variable {crates : LogCrates} {identity : CandidateIdentity} {workload : CanaryWorkloadManifest}

theorem CanaryWorkloadManifest.mem_of_request {requestId : String} {spec : CanaryRequestSpec}
    (found : workload.request requestId = some spec) :
    spec ∈ workload.requests ∧ spec.requestId = requestId := by
  have named := List.find?_some found
  exact ⟨List.mem_of_find?_eq_some found, by simpa using named⟩

theorem Admissible.confirms {obs : CanaryObservationV2} {spec : CanaryRequestSpec}
    (admissible : Admissible crates identity workload obs spec) :
    spec ∈ workload.requests ∧ Confirms crates identity workload obs spec := by
  obtain ⟨member, named⟩ := CanaryWorkloadManifest.mem_of_request admissible.request
  have elapsed := admissible.elapsed
  exact ⟨member, admissible.measured, admissible.success, named.symm, admissible.requestDigest,
    admissible.result, by omega, admissible.generation, admissible.executable, admissible.bound⟩

theorem Admissible.observationId {obs : CanaryObservationV2} {spec : CanaryRequestSpec}
    (admissible : Admissible crates identity workload obs spec) :
    obs.observationId = idOfRequest crates identity workload spec := by
  obtain ⟨-, named⟩ := CanaryWorkloadManifest.mem_of_request admissible.request
  rw [admissible.valid.derived, admissible.generation, admissible.requestDigest, ← named, idOfRequest]

-- Different requests have different observation ids.
theorem idOfRequest_injOn (collisionFree : Set.InjOn crates.sha.hex (observationIdTexts crates identity workload))
    (apart : (workload.requests.map CanaryRequestSpec.requestId).Nodup) {first second : CanaryRequestSpec}
    (firstIn : first ∈ workload.requests) (secondIn : second ∈ workload.requests)
    (same : idOfRequest crates identity workload first = idOfRequest crates identity workload second) :
    first = second := by
  have texts := collisionFree ⟨first, firstIn, rfl⟩ ⟨second, secondIn, rfl⟩ same
  have ids := requestId_of_observationIdBytes (by simp [CanaryRequestSpec.requestDigest, domainDigest]) texts
  exact List.inj_on_of_nodup_map apart firstIn secondIn ids

theorem observedIds {observations : List CanaryObservationV2}
    (admitted : ∀ obs ∈ observations, ∃ spec, Admissible crates identity workload obs spec)
    (apart : (workload.requests.map CanaryRequestSpec.requestId).Nodup) :
    freshIds [] observations =
      ((observedRequests workload observations).map (idOfRequest crates identity workload)).toFinset := by
  ext id
  simp only [freshIds, List.toFinset_nil, Finset.sdiff_empty, List.mem_toFinset, List.mem_map,
    observedRequests, List.mem_filter, List.any_eq_true, decide_eq_true_eq]
  constructor
  · rintro ⟨obs, member, rfl⟩
    obtain ⟨spec, admissible⟩ := admitted obs member
    have confirms := admissible.confirms
    exact ⟨spec, ⟨confirms.1, obs, member, confirms.2.request⟩, admissible.observationId.symm⟩
  · rintro ⟨spec, ⟨inside, obs, member, named⟩, rfl⟩
    obtain ⟨other, admissible⟩ := admitted obs member
    have confirms := admissible.confirms
    -- Request ids are unique in a valid workload, so the observation answers this very request.
    have same : other = spec := List.inj_on_of_nodup_map apart confirms.1 inside (confirms.2.request.symm.trans named)
    exact ⟨obs, member, by rw [admissible.observationId, same]⟩

theorem observedIds_card {observations : List CanaryObservationV2}
    (collisionFree : Set.InjOn crates.sha.hex (observationIdTexts crates identity workload))
    (admitted : ∀ obs ∈ observations, ∃ spec, Admissible crates identity workload obs spec)
    (apart : (workload.requests.map CanaryRequestSpec.requestId).Nodup) :
    (freshIds [] observations).card = (observedRequests workload observations).length := by
  have distinct : ((observedRequests workload observations).map (idOfRequest crates identity workload)).Nodup := by
    apply List.Nodup.map_on
    · intro first firstIn second secondIn same
      exact idOfRequest_injOn collisionFree apart (List.mem_of_mem_filter firstIn) (List.mem_of_mem_filter secondIn) same
    · exact (List.Nodup.of_map _ apart).filter _
  rw [observedIds admitted apart, List.toFinset_card_of_nodup distinct, List.length_map]

theorem countAdmissible_perm {first second : List CanaryObservationV2} (permuted : first.Perm second)
    (total : UInt64) :
    countAdmissible crates identity workload [] 0 first = .ok total ↔
      countAdmissible crates identity workload [] 0 second = .ok total := by
  have ids : freshIds [] first = freshIds [] second := by
    simp only [freshIds]
    rw [List.toFinset_eq_of_perm _ _ (permuted.map _)]
  have members (obs : CanaryObservationV2) : obs ∈ first ↔ obs ∈ second := permuted.mem_iff
  simp only [countAdmissible_distinct, ids, members]

theorem admitSealedQuota_perm {sealed : SealedObservationLog} {observations : List CanaryObservationV2}
    (permuted : sealed.observations.Perm observations) (target : UInt64) (decision : SealedQuotaDecision) :
    admitSealedQuota crates { sealed with observations } identity workload target = .ok decision ↔
      admitSealedQuota crates sealed identity workload target = .ok decision := by
  simp only [admitSealedQuota_ok, countAdmissible_perm permuted]

def verdict (decided : Except String SealedQuotaDecision) : Option UInt64 := decided.toOption.map (·.counted)

theorem quota_sound_order_free (crates : LogCrates) (sealed : SealedObservationLog)
    (identity : CandidateIdentity) (workload : CanaryWorkloadManifest) (target : UInt64)
    (fits : workload.requests.length < 2 ^ 64)
    (collisionFree : Set.InjOn crates.sha.hex (observationIdTexts crates identity workload)) :
    (∀ decision, admitSealedQuota crates sealed identity workload target = .ok decision →
      0 < target ∧ target ≤ decision.counted ∧
        decision.counted.toNat = (observedRequests workload sealed.observations).length ∧
        decision.counted.toNat ≤ workload.requests.length ∧
        ∀ obs ∈ sealed.observations, ∃ spec ∈ workload.requests, Confirms crates identity workload obs spec) ∧
      ∀ observations, sealed.observations.Perm observations →
        verdict (admitSealedQuota crates { sealed with observations } identity workload target) =
          verdict (admitSealedQuota crates sealed identity workload target) := by
  constructor
  · intro decision decided
    obtain ⟨positive, -, valid, -, counted, enough, -⟩ := admitSealedQuota_ok.mp decided
    obtain ⟨apart, -⟩ := CanaryWorkloadManifest.validate_ok _ workload valid
    obtain ⟨checked, total⟩ := countAdmissible_distinct.mp counted
    have admitted : ∀ obs ∈ sealed.observations, ∃ spec, Admissible crates identity workload obs spec :=
      fun obs member => checkAdmissible_ok.mp (checked obs member)
    have few : (observedRequests workload sealed.observations).length ≤ workload.requests.length :=
      List.length_filter_le _ _
    have small : (observedRequests workload sealed.observations).length < UInt64.size := few.trans_lt fits
    have number : decision.counted.toNat = (observedRequests workload sealed.observations).length := by
      rw [total, observedIds_card collisionFree admitted apart, UInt64.zero_add,
        UInt64.toNat_ofNat_of_lt' small]
    refine ⟨UInt64.pos_iff_ne_zero.mpr positive, enough, number, by omega, fun obs member => ?_⟩
    obtain ⟨spec, admissible⟩ := admitted obs member
    exact ⟨spec, admissible.confirms⟩
  · intro observations permuted
    apply congrArg (Option.map SealedQuotaDecision.counted)
    apply toOption_congr
    exact admitSealedQuota_perm permuted target

section Sample

def quotaSpec (requestId : String) : CanaryRequestSpec :=
  { requestId, input := "2 2", expectedOutput := "4", deadlineMs := 100, nondeterminism := .exact }

def quotaWorkload : CanaryWorkloadManifest :=
  { workloadVersion := 1, workloadId := "sums", protocolVersion := 1, requests := [quotaSpec "sum-1", quotaSpec "sum-2"] }

def quotaIdentity : CandidateIdentity :=
  .new (sha256.hex [1]) (sha256.hex [2]) (sha256.hex [3]) "gen-002"

def quotaObservation (requestId : String) : CanaryObservationV2 := .new sha256
  { generationId := "gen-002", requestId, requestDigest := (quotaSpec requestId).requestDigest sha256 "sums"
    workloadDigest := quotaWorkload.digest sha256, candidateExecutableDigest := sha256.hex [3]
    resultDigest := some ((quotaSpec requestId).expectedResultDigest sha256), elapsedUs := 1000, observedAtMs := 1
    status := .verifiedSuccess, provenance := .measured }

-- The second request was answered first, and the first one twice.
def quotaLog : SealedObservationLog :=
  { path := none, header := .new "gen-002" (quotaWorkload.digest sha256) (sha256.hex [3]) 0
    observations := [quotaObservation "sum-2", quotaObservation "sum-1", quotaObservation "sum-1"], rejections := []
    sealedBy := { observationCount := 3, qualifyingCount := 3, logDigest := "", sealedAtMs := 2 } }

theorem quotaObservation_admissible {requestId : String} (named : isBlank requestId = false)
    (found : quotaWorkload.request requestId = some (quotaSpec requestId)) :
    Admissible standardLogCrates quotaIdentity quotaWorkload (quotaObservation requestId) (quotaSpec requestId) where
  valid :=
    { version := rfl, generation := show isBlank "gen-002" = false by decide, request := named
      requestDigest := sha256.isHexDigest_hex _
      workloadDigest := sha256.isHexDigest_hex _
      executableDigest := sha256.isHexDigest_hex _
      hexResult := fun _ same => Option.some.inj same ▸ sha256.isHexDigest_hex _
      result := fun _ => rfl
      derived := rfl }
  generation := rfl
  executable := rfl
  bound := rfl
  measured := rfl
  success := rfl
  request := found
  requestDigest := rfl
  result := rfl
  elapsed := show (1000 : UInt64).toNat ≤ min ((100 : UInt64).toNat * 1000) (2 ^ 64 - 1) by decide

theorem quotaIds_apart : (quotaObservation "sum-2").observationId ≠ (quotaObservation "sum-1").observationId := by
  decide +kernel

theorem quotaLog_counts :
    countAdmissible standardLogCrates quotaIdentity quotaWorkload [] 0 quotaLog.observations =
    .ok 2 := by
  have first := @quotaObservation_admissible "sum-1" (by decide) (by decide)
  have second := @quotaObservation_admissible "sum-2" (by decide) (by decide)
  refine countAdmissible_distinct.mpr ⟨fun obs member => ?_, ?_⟩
  · simp only [quotaLog, List.mem_cons, List.not_mem_nil, or_false, or_self] at member
    cases member with
    | inl same => exact checkAdmissible_ok.mpr ⟨_, same ▸ second⟩
    | inr same => exact checkAdmissible_ok.mpr ⟨_, same ▸ first⟩
  · have ids : freshIds [] quotaLog.observations =
        {(quotaObservation "sum-2").observationId, (quotaObservation "sum-1").observationId} := by
      simp [freshIds, quotaLog]
    rw [ids, Finset.card_pair quotaIds_apart]
    rfl

theorem quota_sound_order_free_twice : ∃ decision,
    admitSealedQuota standardLogCrates quotaLog quotaIdentity quotaWorkload 2 = .ok decision ∧
      decision.counted.toNat = (observedRequests quotaWorkload quotaLog.observations).length ∧
      decision.counted.toNat ≤ quotaWorkload.requests.length := by
  have named : quotaIdentity.validate = .ok () := by
    have hex (data : Bytes) : isHexDigest (sha256.hex data) = true := sha256.isHexDigest_hex data
    simp [CandidateIdentity.validate, quotaIdentity, CandidateIdentity.new, refuseIf, hex, bind,
      Except.bind, isBlank, isWhiteSpace]
  have decided : admitSealedQuota standardLogCrates quotaLog quotaIdentity quotaWorkload 2 = .ok
      { counted := 2, target := 2, generationId := "gen-002", candidateExecutableDigest := sha256.hex [3]
        workloadDigest := quotaWorkload.digest sha256, logDigest := "" } :=
    admitSealedQuota_ok.mpr
      ⟨by decide, named, by decide, ⟨rfl, rfl, rfl⟩, quotaLog_counts, UInt64.le_refl 2, rfl⟩
  have free : Set.InjOn standardLogCrates.sha.hex
      (observationIdTexts standardLogCrates quotaIdentity quotaWorkload) := by
    have requests : quotaWorkload.requests = [quotaSpec "sum-1", quotaSpec "sum-2"] := rfl
    rintro _ ⟨first, firstIn, rfl⟩ _ ⟨second, secondIn, rfl⟩ same
    rw [requests, List.mem_pair] at firstIn secondIn
    rcases firstIn with rfl | rfl <;> rcases secondIn with rfl | rfl
    · rfl
    · exact absurd same.symm quotaIds_apart
    · exact absurd same quotaIds_apart
    · rfl
  have sound := (quota_sound_order_free standardLogCrates quotaLog quotaIdentity quotaWorkload 2 (by decide) free).1 _ decided
  exact ⟨_, decided, sound.2.2.1, sound.2.2.2.1⟩

end Sample

end SparkRsi.Canary
