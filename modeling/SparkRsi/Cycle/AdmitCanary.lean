import SparkRsi.Cycle.Promotion
import SparkRsi.Supervisor.CanaryOutcome

set_option autoImplicit false

namespace SparkRsi.Cycle

open Shared Ledger Supervisor Canary

structure CanaryBuild where
  adapterDigest : String
  built : String
  fileName : Option String

/-- What the steps of the decision meet, in their order; `log` is the observation log found on disk. -/
structure AdmitIo where
  evaluatedTree : Except String String
  stagedTree : Except String String
  createDir : Option String
  copy : Option String
  staged : Except String Bytes
  run : RunIo
  log : Option Bytes
  commitment : Io

structure Admitted where
  subject : Except String Bytes
  ledger : ImprovementLedger
  genInfo : GenerationInfo
  disk : LogDisk
  summary : CanarySummary

def executionRecord (summary : ExecutionSummary) : CanaryExecutionRecord where
  requestsPlanned := summary.requestsPlanned
  issued := summary.issued
  verifiedSuccess := summary.verifiedSuccess
  wrongResult := summary.wrongResult
  timeout := summary.timeout
  invalidResponse := summary.invalidResponse
  connectionClosed := summary.connectionClosed
  rejections := summary.rejections
  ready := summary.ready
  reverted := summary.reverted
  firstFailure := summary.firstFailure

def commitmentPayload (identity : CandidateIdentity) (binding : String) (workload : PinnedWorkload)
    (build : CanaryBuild) (sealed : SealedObservationLog) : Json :=
  .obj [("canary_commitment", .obj [("generation_id", .str identity.generationId),
    ("patch_digest", .str identity.patchDigest),
    ("tree_digest", .str identity.treeDigest),
    ("executable_digest", .str identity.executableDigest),
    ("identity_binding_digest", .str binding),
    ("workload_id", .str workload.manifest.workloadId),
    ("workload_digest", .str workload.digest),
    ("adapter_manifest_digest", .str build.adapterDigest),
    ("sealed_log_path", optionJson .str sealed.path),
    ("log_digest", .str sealed.sealedBy.logDigest),
    ("observation_count", .num sealed.sealedBy.observationCount.toNat),
    ("qualifying_count", .num sealed.sealedBy.qualifyingCount.toNat),
    ("rejection_count", .num sealed.rejections.length)])]

section Definitions

variable (crates : Crates) (logCrates : LogCrates) (config : SupervisorConfig) (canaryTarget : UInt64)

def identifyCandidate (io : AdmitIo) (proposalId : String) (patchDigest : Bytes) (build : CanaryBuild)
    (installedPath : String) : Except String (CandidateIdentity × String) := do
  let evaluatedTree ← io.evaluatedTree
  let stagedTree ← io.stagedTree
  refuseIf (stagedTree ≠ evaluatedTree)
    s!"staged tree digest {stagedTree} differs from the evaluated tree digest {evaluatedTree}"
  let exeName ← okOr s!"adapter executable path {logCrates.debug build.built} has no file name" build.fileName
  let exeDir := joinPath installedPath ".rsi-canary"
  (faulty io.createDir).mapError fun e => s!"cannot create {logCrates.debug exeDir}: {e}"
  (faulty io.copy).mapError fun e => s!"cannot stage executable {logCrates.debug build.built}: {e}"
  let stagedExe := joinPath exeDir exeName
  let executable ← CandidateIdentity.digestFile logCrates.sha logCrates.debug stagedExe io.staged
  let identity := CandidateIdentity.new (hexEncode patchDigest) evaluatedTree executable proposalId
  identity.validate
  return (identity, stagedExe)

def canaryExecutor (workload : PinnedWorkload) (identity : CandidateIdentity) (stagedExe : String) :
    CanaryExecutor :=
  { supervisor := supervisor config, rsiRoot := config.rsiRoot, workload, identity, executable := stagedExe
    exec := .default }

def decideQuota (sealed : SealedObservationLog) (identity : CandidateIdentity) (workload : PinnedWorkload)
    (firstFailure : Option String) : Except String Unit × QuotaDecisionRecord :=
  match admitSealedQuota logCrates sealed identity workload.manifest canaryTarget with
  | .ok decision =>
    (.ok (), { admitted := true, counted := some decision.counted, target := decision.target, refusal := none })
  | .error reason =>
    let reason :=
      match firstFailure with
      | some f => s!"{reason} (first failure: {f})"
      | none => reason
    (.error reason, { admitted := false, counted := none, target := canaryTarget, refusal := some reason })

/-- From a sealed log on: the commitment goes to the ledger before the quota decides. -/
def admitSealed (io : AdmitIo) (ledger : ImprovementLedger) (workload : PinnedWorkload)
    (identity : CandidateIdentity) (build : CanaryBuild) (genInfo : GenerationInfo) (disk : LogDisk)
    (summary : CanarySummary) (sealed : SealedObservationLog) (execSummary : ExecutionSummary) : Admitted :=
  let binding := identity.bindingDigest logCrates.sha
  let summary := { summary with
    execution := some (executionRecord execSummary), logDigest := some sealed.sealedBy.logDigest }
  let payload := crates.payloadText (commitmentPayload identity binding workload build sealed)
  match appendBlock crates io.commitment ledger .evaluation payload [] with
  | .error e =>
    { subject := .error s!"cannot commit the sealed log to the ledger: {e}", ledger, genInfo, disk, summary }
  | .ok (block, ledger) =>
    let (decided, quota) := decideQuota logCrates canaryTarget sealed identity workload execSummary.firstFailure
    let summary := { summary with commitmentBlockHash := some block.blockHash, quota := some quota }
    let subject : Except String Bytes := do
      decided
      (decodeToSlice 32 binding).mapError fun e => s!"identity binding digest is not 32 bytes of hex: {e}"
    { subject, ledger, genInfo, disk, summary }

def admitCanary (io : AdmitIo) (ledger : ImprovementLedger) (proposalId : String) (patchDigest : Bytes)
    (build : Option CanaryBuild) (workload : Option PinnedWorkload) (genInfo : GenerationInfo)
    (summary : CanarySummary) : Admitted :=
  let unrun (subject : Except String Bytes) : Admitted :=
    { subject, ledger, genInfo, disk := .found io.log, summary }
  match summary.applicable, summary.refusal with
  | false, _ => unrun (.ok patchDigest)
  | true, some refusal => unrun (.error s!"canary refused, candidate not eligible: {refusal}")
  | true, none =>
    match build, workload with
    | some build, some workload =>
      match identifyCandidate logCrates io proposalId patchDigest build genInfo.installedPath with
      | .error e => unrun (.error e)
      | .ok (identity, stagedExe) =>
        let summary := { summary with
          identityBindingDigest := some (identity.bindingDigest logCrates.sha)
          executableDigest := some identity.executableDigest }
        let result := (canaryExecutor config workload identity stagedExe).run logCrates io.run genInfo io.log
        let ran (subject : Except String Bytes) : Admitted :=
          { subject, ledger, genInfo := result.generation, disk := result.disk, summary }
        match result.outcome with
        | .error e => ran (.error e)
        | .ok (.halted _) => ran (.error "canary run halted without sealing; refusing")
        | .ok (.sealed sealed execSummary) =>
          admitSealed crates logCrates canaryTarget io ledger workload identity build result.generation result.disk
            summary sealed execSummary
    | _, _ => unrun (.error "canary applies but no adapter or pinned workload was resolved")

/-- Every stored observation and every one the run added before it stopped unseen is admissible,
and there are enough of them. -/
def QuotaMetUnseen (executor : CanaryExecutor) (io : AdmitIo) : Prop :=
  (∀ obs ∈ foundObservations logCrates io.log,
      checkAdmissible logCrates executor.identity executor.workload.manifest obs = .ok ()) ∧
    ∃ counted, StopsUnseen logCrates executor io.run (foundObservations logCrates io.log) counted ∧
      canaryTarget ≤ UInt64.ofNat counted

end Definitions

section Decision

variable {crates : Crates} {logCrates : LogCrates} {config : SupervisorConfig} {canaryTarget : UInt64}

-- The count of a log without repeated observation ids decides.
theorem admitSealedQuota_counts {executor : CanaryExecutor} {io : RunIo} {genInfo : GenerationInfo}
    {sealed : SealedObservationLog} (ran : executor.checkRunnable logCrates io genInfo = .ok ())
    (binds : CanaryExecutor.Binds executor sealed.header)
    (apart : (sealed.observations.map CanaryObservationV2.observationId).Nodup)
    (positive : 0 < canaryTarget) :
    (∃ decision, admitSealedQuota logCrates sealed executor.identity executor.workload.manifest canaryTarget =
        .ok decision) ↔
      (∀ obs ∈ sealed.observations,
          checkAdmissible logCrates executor.identity executor.workload.manifest obs = .ok ()) ∧
        canaryTarget ≤ UInt64.ofNat sealed.observations.length := by
  have pinned := (CanaryExecutor.checkRunnable_ok ran).pinned
  simp only [CanaryExecutor.checkRunnable, bind_eq_ok, exists_unit] at ran
  obtain ⟨named, -, valid, -⟩ := ran
  have counts {total : UInt64} : countAdmissible logCrates executor.identity executor.workload.manifest [] 0
      sealed.observations = .ok total ↔ _ := countAdmissible_ok apart fun _ _ => List.not_mem_nil
  constructor
  · rintro ⟨decision, decided⟩
    obtain ⟨-, -, -, -, total, enough, -⟩ := admitSealedQuota_ok.mp decided
    obtain ⟨each, count⟩ := counts.mp total
    rw [count, UInt64.zero_add] at enough
    exact ⟨each, enough⟩
  · rintro ⟨each, enough⟩
    let decision : SealedQuotaDecision :=
      { counted := 0 + UInt64.ofNat sealed.observations.length, target := canaryTarget
        generationId := executor.identity.generationId
        candidateExecutableDigest := executor.identity.executableDigest
        workloadDigest := executor.workload.manifest.digest logCrates.sha, logDigest := sealed.sealedBy.logDigest }
    have belongs : BelongsTo logCrates executor.identity executor.workload.manifest sealed.header :=
      ⟨binds.generation, binds.executable, binds.workload.trans pinned.symm⟩
    have enough : canaryTarget ≤ decision.counted := by
      simp only [decision, UInt64.zero_add]
      exact enough
    exact ⟨decision, admitSealedQuota_ok.mpr ⟨UInt64.pos_iff_ne_zero.mp positive, named, valid, belongs,
      counts.mpr ⟨each, rfl⟩, enough, rfl⟩⟩

-- A reverted run's log meets the quota exactly when the run stopped unseen behind enough successes.
theorem admitSealedQuota_reverted {executor : CanaryExecutor} {io : AdmitIo} {genInfo : GenerationInfo}
    {sealed : SealedObservationLog} {execSummary : ExecutionSummary} (positive : 0 < canaryTarget)
    (requests : Set.InjOn logCrates.sha.hex (requestTexts logCrates executor))
    (records : Set.InjOn logCrates.sha.hex (recordTexts logCrates executor io.log))
    (ran : (executor.run logCrates io.run genInfo io.log).outcome = .ok (.sealed sealed execSummary))
    (reverted : execSummary.reverted = true) :
    (∃ decision, admitSealedQuota logCrates sealed executor.identity executor.workload.manifest canaryTarget =
        .ok decision) ↔ QuotaMetUnseen logCrates canaryTarget executor io := by
  obtain ⟨runnable, binds, apart, observed⟩ := run_sealed_reverted requests records ran reverted
  rw [admitSealedQuota_counts runnable binds apart positive]
  cases observed with
  | unseen new stops admissible same =>
    rw [same, List.forall_mem_append, List.length_append]
    constructor
    · rintro ⟨⟨old, -⟩, enough⟩
      exact ⟨old, _, stops, enough⟩
    · rintro ⟨old, counted, stops', enough⟩
      rw [stops'.unique stops] at enough
      exact ⟨⟨old, admissible⟩, enough⟩
  | failing failure seen =>
    have refused (observations : List CanaryObservationV2)
        (failure : ∃ obs ∈ observations, obs.status ≠ .verifiedSuccess) :
        ¬∀ obs ∈ observations,
          checkAdmissible logCrates executor.identity executor.workload.manifest obs = .ok () := by
      intro each
      obtain ⟨obs, inside, failing⟩ := failure
      obtain ⟨spec, admissible⟩ := checkAdmissible_ok.mp (each obs inside)
      exact failing admissible.success
    constructor
    · rintro ⟨each, -⟩
      exact absurd each (refused _ failure)
    · rintro ⟨each, counted, stops, -⟩
      exact absurd each (refused _ (seen counted stops))

-- The decision on a sealed log errs exactly when it is not committed or misses the quota.
theorem admitSealed_refused {io : AdmitIo} {ledger : ImprovementLedger} {workload : PinnedWorkload}
    {identity : CandidateIdentity} {build : CanaryBuild} {genInfo : GenerationInfo} {disk : LogDisk}
    {summary : CanarySummary} {sealed : SealedObservationLog} {execSummary : ExecutionSummary} :
    (∃ e, (admitSealed crates logCrates canaryTarget io ledger workload identity build genInfo disk summary sealed
        execSummary).subject = .error e) ↔
      ¬(Recordable crates io.commitment ledger .evaluation (crates.payloadText
          (commitmentPayload identity (identity.bindingDigest logCrates.sha) workload build sealed)) ∧
        ∃ decision, admitSealedQuota logCrates sealed identity workload.manifest canaryTarget = .ok decision) := by
  unfold admitSealed
  dsimp only
  by_cases recordable : Recordable crates io.commitment ledger .evaluation (crates.payloadText
      (commitmentPayload identity (identity.bindingDigest logCrates.sha) workload build sealed))
  · obtain ⟨block, row, admitted, appended, -⟩ := appendBlock_of_recordable recordable
    rw [appended]
    have decoded : decodeToSlice 32 (identity.bindingDigest logCrates.sha) = .ok _ :=
      logCrates.sha.decode_hex _
    cases decided : admitSealedQuota logCrates sealed identity workload.manifest canaryTarget with
    | error reason =>
      simp [decideQuota, decided, bind, Except.bind]
    | ok decision =>
      simp [decideQuota, decided, bind, Except.bind, decoded, Except.mapError, recordable]
  · obtain ⟨e, failed⟩ := appendBlock_of_not_recordable recordable
    simp [failed, recordable]

theorem admitCanary_sealed {io : AdmitIo} {ledger : ImprovementLedger} {proposalId : String}
    {patchDigest : Bytes} {build : CanaryBuild} {workload : PinnedWorkload} {genInfo : GenerationInfo}
    {summary : CanarySummary} {identity : CandidateIdentity} {stagedExe : String}
    {sealed : SealedObservationLog} {execSummary : ExecutionSummary}
    (applicable : summary.applicable = true) (eligible : summary.refusal = none)
    (identified : identifyCandidate logCrates io proposalId patchDigest build genInfo.installedPath =
      .ok (identity, stagedExe))
    (ran : ((canaryExecutor config workload identity stagedExe).run logCrates io.run genInfo io.log).outcome =
      .ok (.sealed sealed execSummary)) :
    (∃ e, (admitCanary crates logCrates config canaryTarget io ledger proposalId patchDigest (some build)
        (some workload) genInfo summary).subject = .error e) ↔
      ¬(Recordable crates io.commitment ledger .evaluation (crates.payloadText
          (commitmentPayload identity (identity.bindingDigest logCrates.sha) workload build sealed)) ∧
        ∃ decision, admitSealedQuota logCrates sealed identity workload.manifest canaryTarget = .ok decision) := by
  rw [← admitSealed_refused]
  unfold admitCanary
  simp only [applicable, eligible, identified, ran]
  rfl

variable (crates logCrates config canaryTarget)

/-- Behind a reverted run the canary is refused unless its sealed log can be committed and the run
stopped, with the quota met, at a worker that never became ready or over the memory limit. -/
theorem reverted_refused_iff (io : AdmitIo) (ledger : ImprovementLedger) (proposalId : String)
    (patchDigest : Bytes) (build : CanaryBuild) (workload : PinnedWorkload) (genInfo : GenerationInfo)
    (summary : CanarySummary) (identity : CandidateIdentity) (stagedExe : String)
    (sealed : SealedObservationLog) (execSummary : ExecutionSummary)
    (applicable : summary.applicable = true) (eligible : summary.refusal = none)
    (positive : 0 < canaryTarget)
    (identified : identifyCandidate logCrates io proposalId patchDigest build genInfo.installedPath =
      .ok (identity, stagedExe))
    (requests : Set.InjOn logCrates.sha.hex
      (requestTexts logCrates (canaryExecutor config workload identity stagedExe)))
    (records : Set.InjOn logCrates.sha.hex
      (recordTexts logCrates (canaryExecutor config workload identity stagedExe) io.log))
    (ran : ((canaryExecutor config workload identity stagedExe).run logCrates io.run genInfo io.log).outcome =
      .ok (.sealed sealed execSummary))
    (reverted : execSummary.reverted = true) :
    (∃ e, (admitCanary crates logCrates config canaryTarget io ledger proposalId patchDigest (some build)
        (some workload) genInfo summary).subject = .error e) ↔
      ¬(Recordable crates io.commitment ledger .evaluation (crates.payloadText
          (commitmentPayload identity (identity.bindingDigest logCrates.sha) workload build sealed)) ∧
        QuotaMetUnseen logCrates canaryTarget (canaryExecutor config workload identity stagedExe) io) := by
  have quota : (∃ decision, admitSealedQuota logCrates sealed identity workload.manifest canaryTarget =
      .ok decision) ↔ QuotaMetUnseen logCrates canaryTarget (canaryExecutor config workload identity stagedExe) io :=
    admitSealedQuota_reverted positive requests records ran reverted
  rw [← quota]
  exact admitCanary_sealed applicable eligible identified ran

end Decision

section Sample

def emptyDigest : String := "e3b0c44298fc1c149afbf4c8996fb92427ae41e4649b934ca495991b7852b855"

def sampleManifest : CanaryWorkloadManifest :=
  { workloadVersion := 1, workloadId := "sums", protocolVersion := 1
    requests := [sampleRequest "sum-1", sampleRequest "sum-2"] }

def sampleWorkload : PinnedWorkload :=
  { manifest := sampleManifest, digest := "51f4fd32d07035cc3d1b909d0db10deb71e5c29f15a71f8b9408f4c8388c08f6"
    path := "workloads/sums.json" }

def sampleIdentity : CandidateIdentity := .new emptyDigest emptyDigest emptyDigest "gen-002"

def sampleStagedExe : String := ".rsi/generations/gen-002/.rsi-canary/worker"

def sampleObservation : CanaryObservationV2 where
  recordVersion := 2
  observationId := "f608b541fdadc041206d2457b07ba52db2ac08a6e14d2ab59481bb2c5bd15723"
  generationId := "gen-002"
  requestId := "sum-1"
  requestDigest := "fdb7c7e6809dfc62987aacdc032b04e8ba2b28c215e4be9eca2408bf650dae18"
  workloadDigest := sampleWorkload.digest
  candidateExecutableDigest := emptyDigest
  resultDigest := some "4b227777d4dd1fc61c6f884f48641d02b4d121d3fd328cb08b5531fcacdabf8a"
  elapsedUs := 1000
  observedAtMs := 1
  status := .verifiedSuccess
  provenance := .measured

def sampleHeader : LogHeader := .new "gen-002" sampleWorkload.digest emptyDigest 0

def sampleRecords : List LogRecord :=
  [.header sampleHeader,
    .observation ⟨sampleObservation, "37d6326da6973bc2584178ca7b2bae62e47ba00781594d0d7260b1dae4299ff1"⟩]

def sampleSealed : SealedObservationLog :=
  { path := some ".rsi/canary/observations/gen-002.jsonl"
    header := sampleHeader
    observations := [sampleObservation]
    rejections := []
    sealedBy := { observationCount := 1, qualifyingCount := 1
                  logDigest := "691b2cdd376af3f293afffdec5f0196f01351fa0a26c1eca195bcfc870990123", sealedAtMs := 2 } }

def sampleAdmitIo : AdmitIo where
  evaluatedTree := .ok emptyDigest
  stagedTree := .ok emptyDigest
  createDir := none
  copy := none
  staged := .ok []
  run := { RunIo.sample standardLogCrates (fun _ => .sample "sum-2" 100) with attempts := [.idle true] }
  log := some (bytesOf sampleRecords)
  commitment := Io.calm "2026-01-02T00:00:00+00:00"

def sampleSummary : CanarySummary := { CanarySummary.empty with applicable := true }

def sampleBuild : CanaryBuild :=
  { adapterDigest := emptyDigest, built := "target/worker", fileName := some "worker" }

def sampleLedger : ImprovementLedger :=
  freshLedger standardCrates (Io.calm "2026-01-01T00:00:00+00:00") fun _ => none

def sampleExecutor : CanaryExecutor :=
  canaryExecutor sampleConfig sampleWorkload sampleIdentity sampleStagedExe

structure SampleDigests : Prop where
  empty : standardLogCrates.sha.hex [] = emptyDigest
  pinned : sampleManifest.digest standardLogCrates.sha = sampleWorkload.digest
  binding : sampleIdentity.bindingDigest standardLogCrates.sha =
    "984f22ff7bffd04c0bb14c9af4ecbc594939b74af6b364ad8662f391ed0730de"
  record : sampleObservation.digestHex standardLogCrates.sha =
    "37d6326da6973bc2584178ca7b2bae62e47ba00781594d0d7260b1dae4299ff1"
  log : logDigestOf standardLogCrates (bytesOf sampleRecords) = sampleSealed.sealedBy.logDigest
  request : (sampleRequest "sum-1").requestDigest standardLogCrates.sha "sums" = sampleObservation.requestDigest
  fresh : sampleExecutor.requestObservationId standardLogCrates (sampleRequest "sum-2") ≠
    sampleObservation.observationId

theorem sample_digests : SampleDigests where
  empty := by decide +kernel
  pinned := by
    rw [CanaryWorkloadManifest.digest, canonicalJson_eq]
    decide +kernel
  binding := by decide +kernel
  record := by
    rw [CanaryObservationV2.digestHex, canonicalJson_eq]
    decide +kernel
  log := by
    simp only [sampleRecords, bytesOf, List.flatMap_cons, List.flatMap_nil, LogRecord.toLine, LogRecord.line,
      canonicalJson_eq]
    decide +kernel
  request := by decide +kernel
  fresh := by decide +kernel

theorem sample_recordable : Recordable standardCrates sampleAdmitIo.commitment sampleLedger .evaluation
    (standardCrates.payloadText (commitmentPayload sampleIdentity
      (sampleIdentity.bindingDigest standardLogCrates.sha) sampleWorkload sampleBuild sampleSealed)) := by
  refine ⟨⟨rfl, rfl⟩, genesisBlock standardCrates (Io.calm "2026-01-01T00:00:00+00:00"), rfl, by decide, ?_⟩
  have payload : LedgerBlock.computePayloadDigest sha256 (standardCrates.payloadText (commitmentPayload sampleIdentity
      (sampleIdentity.bindingDigest standardLogCrates.sha) sampleWorkload sampleBuild sampleSealed)) =
      "0b329b4bfc61bd54991c7e7c531d25e4b959249bec0db6c9ea3dd8f8daa87dcf" := by
    rw [sample_digests.binding]
    change sha256.hex (canonicalJson _) = _
    rw [canonicalJson_eq]
    decide +kernel
  have fresh : SqlValue.text (LedgerBlock.computeBlockHash sha256 1 .evaluation "2026-01-02T00:00:00+00:00"
      (genesisBlock standardCrates (Io.calm "2026-01-01T00:00:00+00:00")).blockHash
      "0b329b4bfc61bd54991c7e7c531d25e4b959249bec0db6c9ea3dd8f8daa87dcf" []) ∉
        sampleLedger.blocks.rows.map BlockRow.blockHash := by
    decide +kernel
  rw [← payload] at fresh
  exact fresh

theorem sample_checkRunnable :
    sampleExecutor.checkRunnable standardLogCrates sampleAdmitIo.run .sample = .ok () := by
  have executable : sampleIdentity.verifyExecutable standardLogCrates.sha standardLogCrates.debug sampleStagedExe
      sampleAdmitIo.run.executable = .ok () := by
    simp only [CandidateIdentity.verifyExecutable, CandidateIdentity.digestFile, bind_eq_ok, refuseIf_eq_ok]
    exact ⟨_, rfl, not_not.mpr sample_digests.empty⟩
  simp only [CanaryExecutor.checkRunnable, bind_eq_ok, exists_unit, refuseIf_eq_ok]
  exact ⟨rfl, not_not.mpr rfl, rfl, not_not.mpr sample_digests.pinned, executable⟩

theorem sample_admissible : Admissible standardLogCrates sampleIdentity sampleManifest sampleObservation
    (sampleRequest "sum-1") where
  valid := {
    version := rfl
    generation := by decide
    request := by decide
    requestDigest := by decide
    workloadDigest := by decide
    executableDigest := by decide
    hexResult := by
      rintro _ ⟨⟩
      decide
    result := fun _ => rfl
    derived := by decide +kernel }
  generation := rfl
  executable := rfl
  bound := sample_digests.pinned.symm
  measured := rfl
  success := rfl
  request := by decide
  requestDigest := sample_digests.request.symm
  result := by decide +kernel
  elapsed := by decide

theorem sample_holds : Holds standardLogCrates sampleHeader sampleRecords [sampleObservation] [] := by
  have opened : Holds standardLogCrates sampleHeader [.header sampleHeader] [] [] := holds_header rfl
  have bound : Bound sampleHeader sampleObservation := ⟨rfl, rfl, rfl⟩
  have held := opened.observation sample_admissible.valid bound (by simp)
  rwa [sample_digests.record] at held

theorem sample_pending : pending standardLogCrates sampleExecutor [sampleObservation] =
      [sampleRequest "sum-2"] := by
  have requests : sampleExecutor.requests = [sampleRequest "sum-1", sampleRequest "sum-2"] := rfl
  have done : sampleExecutor.requestObservationId standardLogCrates (sampleRequest "sum-1") =
      sampleObservation.observationId := sample_admissible.valid.derived ▸ sample_digests.request ▸ rfl
  simp [pending, requests, done, sample_digests.fresh]

theorem sample_ran :
    ∃ summary, (sampleExecutor.run standardLogCrates sampleAdmitIo.run .sample sampleAdmitIo.log).outcome =
      .ok (.sealed sampleSealed summary) ∧ summary.reverted = true := by
  have left : pending standardLogCrates sampleExecutor [sampleObservation] ≠ [] := by simp [sample_pending]
  have clean : ∀ obs ∈ [sampleObservation], obs.status = .verifiedSuccess := by
    simp [sampleObservation]
  have ran := run_calm_unready rfl rfl rfl sample_checkRunnable sample_holds clean left
  change ∃ summary, (sampleExecutor.run standardLogCrates sampleAdmitIo.run .sample sampleAdmitIo.log).outcome =
    .ok (.sealed ⟨_, _, _, _, ⟨_, _, logDigestOf standardLogCrates (bytesOf sampleRecords), _⟩⟩ summary) ∧ _ at ran
  rw [sample_digests.log] at ran
  exact ran

theorem sample_identified : identifyCandidate standardLogCrates sampleAdmitIo "gen-002"
    (standardLogCrates.sha.digest []) sampleBuild GenerationInfo.sample.installedPath =
      .ok (sampleIdentity, sampleStagedExe) := by
  have patch : hexEncode (standardLogCrates.sha.digest []) = emptyDigest := sample_digests.empty
  simp only [identifyCandidate, bind_eq_ok, exists_unit, refuseIf_eq_ok, okOr_eq_ok, mapError_eq_ok,
    faulty_eq_ok, CandidateIdentity.digestFile, sampleAdmitIo, patch, sample_digests.empty]
  exact ⟨_, rfl, _, rfl, not_not.mpr rfl, _, rfl, trivial, trivial, _, rfl, rfl, rfl⟩

theorem sample_quota : ∃ decision,
    admitSealedQuota standardLogCrates sampleSealed sampleIdentity sampleManifest 1 = .ok decision := by
  have binds : CanaryExecutor.Binds sampleExecutor sampleSealed.header := ⟨rfl, rfl, rfl⟩
  refine (admitSealedQuota_counts sample_checkRunnable binds (by simp [sampleSealed]) (by decide)).mpr ⟨?_,
    by decide⟩
  intro obs member
  rw [List.mem_singleton.mp member]
  exact checkAdmissible_ok.mpr ⟨_, sample_admissible⟩

theorem sample_requests :
    Set.InjOn standardLogCrates.sha.hex (requestTexts standardLogCrates sampleExecutor) := by
  have done : sampleExecutor.requestObservationId standardLogCrates (sampleRequest "sum-1") =
      sampleObservation.observationId := sample_admissible.valid.derived ▸ sample_digests.request ▸ rfl
  have apart := sample_digests.fresh
  rw [← done] at apart
  rintro _ ⟨first, firstIn, rfl⟩ _ ⟨second, secondIn, rfl⟩ same
  have requests : sampleExecutor.requests = [sampleRequest "sum-1", sampleRequest "sum-2"] := rfl
  simp only [requests, List.mem_cons, List.not_mem_nil, or_false] at firstIn secondIn
  rcases firstIn with rfl | rfl <;> rcases secondIn with rfl | rfl
  · rfl
  · exact absurd same.symm apart
  · exact absurd same apart
  · rfl

theorem sample_records :
    Set.InjOn standardLogCrates.sha.hex (recordTexts standardLogCrates sampleExecutor sampleAdmitIo.log) := by
  have stored : storedRecords standardLogCrates sampleExecutor.logPath (bytesOf sampleRecords ++ []) =
      .ok sampleRecords := storedRecords_bytesOf _ _ [] (by simp)
  rw [List.append_nil] at stored
  have lines : foundLines standardLogCrates sampleExecutor sampleAdmitIo.log = [sampleObservation] := by
    simp only [foundLines, sampleAdmitIo, stored]
    rfl
  rintro _ ⟨first, firstIn, rfl⟩ _ ⟨second, secondIn, rfl⟩ -
  rw [lines] at firstIn secondIn
  rw [List.mem_singleton.mp firstIn, List.mem_singleton.mp secondIn]

theorem reverted_canary_admitted : ∃ execSummary,
    (sampleExecutor.run standardLogCrates sampleAdmitIo.run .sample sampleAdmitIo.log).outcome =
        .ok (.sealed sampleSealed execSummary) ∧ execSummary.reverted = true ∧
      ¬∃ e, (admitCanary standardCrates standardLogCrates sampleConfig 1 sampleAdmitIo sampleLedger "gen-002"
        (standardLogCrates.sha.digest []) (some sampleBuild) (some sampleWorkload) .sample sampleSummary).subject =
          .error e := by
  obtain ⟨execSummary, ran, reverted⟩ := sample_ran
  refine ⟨execSummary, ran, reverted, fun refused => ?_⟩
  exact (admitCanary_sealed rfl rfl sample_identified ran).mp refused ⟨sample_recordable, sample_quota⟩

theorem reverted_refused_iff_unready :
    (∃ e, (admitCanary standardCrates standardLogCrates sampleConfig 2 sampleAdmitIo sampleLedger "gen-002"
        (standardLogCrates.sha.digest []) (some sampleBuild) (some sampleWorkload) .sample sampleSummary).subject =
          .error e) ↔
      ¬(Recordable standardCrates sampleAdmitIo.commitment sampleLedger .evaluation (standardCrates.payloadText
          (commitmentPayload sampleIdentity (sampleIdentity.bindingDigest standardLogCrates.sha) sampleWorkload
            sampleBuild sampleSealed)) ∧
        QuotaMetUnseen standardLogCrates 2 sampleExecutor sampleAdmitIo) := by
  obtain ⟨execSummary, ran, reverted⟩ := sample_ran
  exact reverted_refused_iff standardCrates standardLogCrates sampleConfig 2 sampleAdmitIo sampleLedger "gen-002"
    (standardLogCrates.sha.digest []) sampleBuild sampleWorkload .sample sampleSummary sampleIdentity sampleStagedExe
    sampleSealed execSummary rfl rfl (by decide) sample_identified sample_requests sample_records ran reverted

end Sample

end SparkRsi.Cycle
