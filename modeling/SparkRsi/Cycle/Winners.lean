import SparkRsi.Cycle.Growth

set_option autoImplicit false

namespace SparkRsi.Cycle

open Shared Shared.Passes Ledger Supervisor Canary Governance SparkRsi.Measure Propose
open Actor (PathBuf Tree)
open Evaluator (EvaluationReceipt)

variable {ecdsa : Ecdsa} (crates : CycleCrates ecdsa) (config : RsiConfig) (io : CandidateIo) (candidate : Candidate)

section Returns

variable {crates config io candidate} {s after : LoopState}

theorem not_refuse {α : Type} {text : String} {a : α} : ¬(refuse crates io text : Pass α) s = .ok a after := by
  intro returned
  simp only [refuse, returns_bind] at returned
  obtain ⟨_, _, -, stopped⟩ := returned
  exact returns_throw stopped

theorem orRefuse_returns {α : Type} {result : Except String α} {a : α} :
    orRefuse crates io result s = .ok a after ↔ result = .ok a ∧ s = after := by
  cases result with
  | error e => exact ⟨fun returned => absurd returned not_refuse, nofun⟩
  | ok value =>
    rw [Except.ok.injEq]
    exact returns_pure

theorem pinnedWorkload_returns {workload : PinnedWorkload} (returned : pinnedWorkload crates config io s = .ok workload after) :
    after.pinned = some workload := by
  simp only [pinnedWorkload, returns_bind, returns_get] at returned
  obtain ⟨_, _, ⟨rfl, rfl⟩, returned⟩ := returned
  cases cached : s.pinned with
  | some known =>
    rw [cached] at returned
    obtain ⟨rfl, rfl⟩ := returns_pure.mp returned
    exact cached
  | none =>
    rw [cached] at returned
    cases loaded : loadPinnedWorkload crates config io.workloadFile with
    | ok found =>
      simp only [loaded, returns_bind, returns_modify, returns_pure] at returned
      obtain ⟨_, _, rfl, rfl, rfl⟩ := returned
      rfl
    | error e =>
      simp only [loaded, returns_bind] at returned
      obtain ⟨_, _, -, stopped⟩ := returned
      exact absurd stopped returns_throw

structure Declared (staged : Staged) (pinned : Option PinnedWorkload) (build : CanaryBuild) (adapter : LoadedAdapterManifest)
    (workload : PinnedWorkload) : Prop where
  loaded : CanaryAdapterManifest.loadFromTree crates.logs.debug crates.ledger.sha crates.fromToml
    (crates.stage.display staged.sandboxDir) (adapterFile crates io staged.contents) = .ok adapter
  cached : pinned = some workload
  named : adapter.manifest.workloadId = workload.manifest.workloadId
  build : build =
    { adapterDigest := adapter.digest
      built := adapter.manifest.executablePath buildOutputRoot
      fileName := fileName (adapter.manifest.executablePath buildOutputRoot) }

theorem not_ineligible {text e : String} {build : CanaryBuild} :
    ¬ineligible crates io text e s = .ok (.ok build) after := by
  intro returned
  simp only [ineligible, returns_bind, returns_pure] at returned
  obtain ⟨_, _, -, ⟨⟩, -⟩ := returned

theorem eligibility_returns {staged : Staged} {build : CanaryBuild}
    (returned : eligibility crates config io staged s = .ok (.ok build) after) :
    ∃ adapter workload, @Declared _ crates io staged after.pinned build adapter workload := by
  unfold eligibility at returned
  cases loaded : CanaryAdapterManifest.loadFromTree crates.logs.debug crates.ledger.sha crates.fromToml
      (crates.stage.display staged.sandboxDir) (adapterFile crates io staged.contents) with
  | error e =>
    rw [loaded] at returned
    exact absurd returned not_ineligible
  | ok adapter =>
    simp only [loaded, returns_bind] at returned
    obtain ⟨workload, between, found, returned⟩ := returned
    have cached := pinnedWorkload_returns found
    by_cases named : adapter.manifest.workloadId = workload.manifest.workloadId
    next =>
      rw [if_neg (not_not.mpr named)] at returned
      cases stale : if io.builtExists then io.removed else none with
      | some e =>
        rw [stale] at returned
        exact absurd returned not_ineligible
      | none =>
        rw [stale] at returned
        obtain ⟨⟨⟩, rfl⟩ := returns_pure.mp returned
        exact ⟨adapter, workload, loaded, cached, named, rfl⟩
    next =>
      rw [if_pos named] at returned
      exact absurd returned not_ineligible

theorem checkEligible_returns {exempt : Bool} {staged : Staged} {declared : Option (Except String CanaryBuild)}
    (returned : checkEligible crates config io exempt staged s = .ok declared after) :
    declared.isSome = !exempt ∧ ∀ build, declared = some (.ok build) →
      ∃ adapter workload, @Declared _ crates io staged after.pinned build adapter workload := by
  unfold checkEligible at returned
  cases exempt with
  | true =>
    obtain ⟨rfl, -⟩ := returns_pure.mp returned
    exact ⟨rfl, nofun⟩
  | false =>
    obtain ⟨found, known, rfl⟩ := returns_map.mp returned
    refine ⟨rfl, ?_⟩
    rintro build ⟨⟩
    exact eligibility_returns known

theorem buildIf_returns {needsBuild : Bool} (returned : buildIf crates io candidate needsBuild s = .ok () after)
    (needed : needsBuild = true) : ∃ stdout stderr, io.build = .ok (true, stdout, stderr) := by
  rw [buildIf, if_pos needed, runBuild] at returned
  cases built : io.build with
  | error e =>
    simp only [built, returns_bind] at returned
    obtain ⟨_, _, -, refused⟩ := returned
    exact absurd refused not_refuse
  | ok output =>
    obtain ⟨success, stdout, stderr⟩ := output
    cases success with
    | true => exact ⟨stdout, stderr, rfl⟩
    | false =>
      simp only [built, returns_bind] at returned
      obtain ⟨_, _, -, refused⟩ := returned
      exact absurd refused not_refuse

theorem checkBuilt_returns {eligible checked : Option (Except String CanaryBuild)}
    (returned : checkBuilt crates io eligible s = .ok checked after) :
    checked.isSome = eligible.isSome ∧
      ∀ build, checked = some (.ok build) → eligible = some (.ok build) ∧ io.builtIsFile = true := by
  unfold checkBuilt at returned
  cases eligible with
  | none =>
    obtain ⟨rfl, -⟩ := returns_pure.mp returned
    exact ⟨rfl, nofun⟩
  | some known =>
    cases known with
    | error e =>
      obtain ⟨rfl, -⟩ := returns_pure.mp returned
      exact ⟨rfl, nofun⟩
    | ok declared =>
      cases file : io.builtIsFile with
      | true =>
        simp only [file, if_true, returns_pure] at returned
        obtain ⟨rfl, -⟩ := returned
        exact ⟨rfl, fun build same => ⟨same, rfl⟩⟩
      | false =>
        simp only [file, Bool.false_eq_true, if_false, returns_bind, returns_pure] at returned
        obtain ⟨_, _, -, rfl, -⟩ := returned
        exact ⟨rfl, nofun⟩

theorem checkInvariants_returns {isBalanced : Bool}
    (returned : checkInvariants crates io candidate isBalanced s = .ok () after) :
    io.invariants.passed = true ∧ isBalanced = true := by
  unfold checkInvariants at returned
  by_cases sound : (io.invariants.passed && isBalanced) = true
  next => exact Bool.and_eq_true_iff.mp sound
  next =>
    simp only [if_neg sound, returns_bind] at returned
    obtain ⟨_, _, -, refused⟩ := returned
    exact absurd refused not_refuse

theorem judgeCandidate_returns {signingKey : ecdsa.SigningKey} {cycleId : Text} {sandboxDir : PathBuf}
    {receipt : EvaluationReceipt}
    (returned : judgeCandidate crates config io candidate signingKey cycleId sandboxDir s = .ok receipt after) :
    Actor.evaluateCycle crates.judge crates.ledger.sha ecdsa (ownJudge signingKey) io.trees io.around cycleId
      candidate.id parentLabel sandboxDir config.repoRoot = .ok receipt := by
  unfold judgeCandidate at returned
  cases judged : Actor.evaluateCycle crates.judge crates.ledger.sha ecdsa (ownJudge signingKey) io.trees io.around
      cycleId candidate.id parentLabel sandboxDir config.repoRoot with
  | ok found =>
    rw [judged] at returned
    obtain ⟨rfl, -⟩ := returns_pure.mp returned
    rfl
  | error e =>
    simp only [judged, returns_bind] at returned
    obtain ⟨_, _, -, refused⟩ := returned
    exact absurd refused not_refuse

structure OnRecord (ledger : ImprovementLedger) (receipt : EvaluationReceipt) (block : LedgerBlock) : Prop where
  kind : block.blockType = .evaluation
  payload : crates.receiptToJson receipt = .ok block.payloadJson
  stored : BlockRow.ofBlock crates.ledger block ∈ ledger.blocks.rows

theorem appendEvaluation_onRecord {at_ : Io} {ledger later : ImprovementLedger} {rawMetrics : Option Bytes}
    {receipt : EvaluationReceipt} {block : LedgerBlock}
    (appended : appendEvaluation crates.ledger at_ ledger (crates.receiptToJson receipt) rawMetrics = (.ok block, later)) :
    @OnRecord _ crates later receipt block := by
  simp only [appendEvaluation] at appended
  split at appended
  next done =>
    cases appended
    simp only [bind_eq_ok, mapError_eq_ok] at done
    obtain ⟨_, -, payload, printed, written⟩ := done
    obtain ⟨-, -, latest, -, admitted, ⟨⟩⟩ := appendBlock_eq_ok.mp written
    exact ⟨rfl, printed, (BlockTable.mem_insert admitted).mpr (.inl rfl)⟩
  next => cases appended

theorem recordEvaluation_returns {receipt : EvaluationReceipt} {block : LedgerBlock}
    (returned : recordEvaluation crates io receipt s = .ok block after) :
    @OnRecord _ crates after.ledger receipt block := by
  rw [recordEvaluation, returns_ofPair] at returned
  dsimp only at returned
  split at returned
  next appended =>
    cases returned
    exact appendEvaluation_onRecord appended
  next => cases returned

theorem requireAdmitted_returns {receipt : EvaluationReceipt} :
    requireAdmitted receipt s = .ok () after ↔ s = after ∧ receipt.admitted = true := by
  unfold requireAdmitted
  cases receipt.admitted with
  | true =>
    rw [if_pos rfl, returns_pure]
    simp
  | false => exact ⟨fun stopped => absurd stopped returns_throw, nofun⟩

theorem canaryBuild_eq_some {eligible : Option (Except String CanaryBuild)} {build : CanaryBuild} :
    canaryBuild eligible = some build ↔ eligible = some (.ok build) := by
  cases eligible with
  | none => simp [canaryBuild]
  | some known => cases known <;> simp [canaryBuild, Except.toOption]

theorem canaryBuild_isSome {eligible : Option (Except String CanaryBuild)}
    (applicable : (canarySummary eligible).applicable = true) (unrefused : (canarySummary eligible).refusal = none) :
    (canaryBuild eligible).isSome = true := by
  cases eligible with
  | none => cases applicable
  | some known =>
    cases known with
    | ok build => rfl
    | error e => cases unrefused

end Returns

theorem unbound_version {debug : Actor.JudgeDebug} {sha : HexHash} {judge : Actor.BlindJudge ecdsa}
    {trees : PathBuf → Tree} {around : Actor.Surroundings} {cycleId candidateId parentId : Text}
    {candidatePath parentPath : PathBuf} {receipt : EvaluationReceipt} (unbound : judge.v2 = none)
    (judged : Actor.evaluateCycle debug sha ecdsa judge trees around cycleId candidateId parentId candidatePath
      parentPath = .ok receipt) :
    receipt.formatVersion = 1 := by
  simp only [Actor.evaluateCycle, unbound, bind_eq_ok, exists_unit] at judged
  obtain ⟨_, -, _, -, _, ⟨⟩, -, _, -, _, -, _, -, finished⟩ := judged
  simp only [bind_eq_ok, exists_unit] at finished
  obtain ⟨_, ⟨⟩, -, ⟨⟩⟩ := finished
  rfl

section Won

/-- What a winner went through, and what is left of it in the state behind it. -/
structure Won (signingKey : ecdsa.SigningKey) (cycleId : Text) (repo : Tree) (diagnosisMeasured isBalanced : Bool)
    (staged : Staged) (winner : Winner) (after : LoopState) : Prop where
  gated : gateCandidate crates config winner.candidate diagnosisMeasured = .ok ()
  made : stageCandidate crates config io winner.candidate repo = .ok staged
  dir : winner.sandboxDir = staged.sandboxDir
  exempt : winner.summary.applicable = false → isExempt config winner.candidate staged.contents = true
  eligible : winner.summary.applicable = true → winner.summary.refusal = none → winner.build.isSome = true
  built : (heuristicBuild winner.candidate staged.contents || winner.build.isSome) = true →
    ∃ stdout stderr, io.build = .ok (true, stdout, stderr)
  declared : ∀ build, winner.build = some build → io.builtIsFile = true ∧
    ∃ adapter workload, @Declared _ crates io staged after.pinned build adapter workload
  sound : io.invariants.passed = true ∧ isBalanced = true
  judged : Actor.evaluateCycle crates.judge crates.ledger.sha ecdsa (ownJudge signingKey) io.trees io.around cycleId
    winner.candidate.id parentLabel winner.sandboxDir config.repoRoot = .ok winner.receipt
  admitted : winner.receipt.admitted = true
  recorded : @OnRecord _ crates after.ledger winner.receipt winner.block

variable {crates config io candidate} {signingKey : ecdsa.SigningKey} {cycleId : Text} {repo : Tree}
  {diagnosisMeasured isBalanced : Bool} {s after : LoopState} {winner : Winner}

theorem OnRecord.later {before later : ImprovementLedger} {receipt : EvaluationReceipt} {block : LedgerBlock}
    (recorded : @OnRecord _ crates before receipt block) (extended : Extends before later) :
    @OnRecord _ crates later receipt block :=
  ⟨recorded.kind, recorded.payload, extended.kept _ recorded.stored⟩

theorem evaluateCandidate_returns
    (returned : evaluateCandidate crates config io candidate signingKey cycleId repo diagnosisMeasured isBalanced s =
      .ok winner after) :
    winner.candidate = candidate ∧
      ∃ staged, @Won _ crates config io signingKey cycleId repo diagnosisMeasured isBalanced staged winner after := by
  simp only [evaluateCandidate, returns_bind, orRefuse_returns] at returned
  obtain ⟨_, _, ⟨gated, -⟩, staged, s₁, ⟨made, -⟩, declared, s₂, declaring, _, s₃, building, eligible, s₄, checking,
    _, s₅, verifying, receipt, s₆, judging, block, s₇, recording, _, s₈, ticking, _, s₉, admitting, returned⟩ := returned
  obtain ⟨rfl, rfl⟩ := returns_pure.mp returned
  have checked := checkBuilt_returns checking
  -- Only the last step of the ledger counts, and the workload stays cached behind its first use.
  have behind : Noted crates config s₂ s₉ :=
    trans_of (Noted crates config) ((moves_buildIf crates config io candidate _).returned building) <|
    trans_of (Noted crates config) ((moves_checkBuilt crates config io declared).returned checking) <|
    trans_of (Noted crates config) ((moves_checkInvariants crates config io candidate isBalanced).returned verifying) <|
    trans_of (Noted crates config)
      ((moves_judgeCandidate crates config io candidate signingKey cycleId _).returned judging) <|
    trans_of (Noted crates config) ((moves_recordEvaluation crates config io receipt).returned recording) <|
    trans_of (Noted crates config) ((moves_tick crates config _ _ _).returned ticking)
      ((moves_requireAdmitted crates config receipt).returned admitting)
  have recorded := recordEvaluation_returns recording
  have ticked : s₈.ledger = s₇.ledger := by
    rw [tick, returns_modify] at ticking
    rw [← ticking]
  have unchanged : s₈ = s₉ ∧ receipt.admitted = true := requireAdmitted_returns.mp admitting
  obtain ⟨shown, named⟩ := checkEligible_returns declaring
  refine ⟨rfl, staged, ?_⟩
  exact
    { gated
      made
      dir := rfl
      exempt := by
        intro inapplicable
        have hidden : eligible.isSome = false := inapplicable
        rw [checked.1, shown] at hidden
        simpa using hidden
      eligible := by
        intro applicable unrefused
        exact canaryBuild_isSome applicable unrefused
      built := by
        intro needed
        apply buildIf_returns building
        rw [Bool.or_eq_true] at needed ⊢
        refine needed.imp_right fun filled => ?_
        obtain ⟨build, same⟩ := Option.isSome_iff_exists.mp filled
        rw [(checked.2 build (canaryBuild_eq_some.mp same)).1]
        rfl
      declared := by
        intro build same
        obtain ⟨known, file⟩ := checked.2 build (canaryBuild_eq_some.mp same)
        obtain ⟨adapter, workload, named⟩ := named build known
        exact ⟨file, adapter, workload, { named with cached := behind.cached workload named.cached }⟩
      sound := checkInvariants_returns verifying
      judged := judgeCandidate_returns judging
      admitted := unchanged.2
      recorded := by
        rw [← unchanged.1]
        exact ⟨recorded.kind, recorded.payload, ticked ▸ recorded.stored⟩ }

-- The daemon's own judge binds no subject file and no policy.
theorem Won.version {io : CandidateIo} {staged : Staged}
    (won : @Won _ crates config io signingKey cycleId repo diagnosisMeasured isBalanced staged winner after) :
    winner.receipt.formatVersion = 1 :=
  unbound_version rfl won.judged

theorem evaluateCandidates_won {candidates : List (Candidate × CandidateIo)}
    (done : evaluateCandidates crates config signingKey cycleId repo diagnosisMeasured isBalanced candidates s =
      (.ok (some winner), after)) :
    ∃ front io rest left, candidates = front ++ (winner.candidate, io) :: rest ∧
      evaluateCandidates crates config signingKey cycleId repo diagnosisMeasured isBalanced front s = (.ok none, left) ∧
      evaluateCandidate crates config io winner.candidate signingKey cycleId repo diagnosisMeasured isBalanced left =
        .ok winner after ∧
      ∃ staged, @Won _ crates config io signingKey cycleId repo diagnosisMeasured isBalanced staged winner after := by
  induction candidates generalizing s with
  | nil => cases done
  | cons tried rest ih =>
    unfold evaluateCandidates at done
    cases ended : evaluateCandidate crates config tried.2 tried.1 signingKey cycleId repo diagnosisMeasured isBalanced s with
    | ok found left =>
      simp only [ended] at done
      cases done
      obtain ⟨same, won⟩ := evaluateCandidate_returns ended
      exact ⟨[], tried.2, rest, s, by rw [same, List.nil_append], rfl, by rw [same, ended], won⟩
    | error halt left =>
      cases halt with
      | fatal e =>
        simp only [ended] at done
        cases done
      | refused =>
        simp only [ended] at done
        obtain ⟨front, io, others, between, split, refused, last, won⟩ := ih done
        refine ⟨tried :: front, io, others, between, by rw [split, List.cons_append], ?_, last, won⟩
        unfold evaluateCandidates
        simp only [ended]
        exact refused

end Won

end SparkRsi.Cycle
