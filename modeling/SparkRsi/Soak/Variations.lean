import SparkRsi.Soak.Batch
import SparkRsi.Cycle.Winners

set_option autoImplicit false

namespace SparkRsi.Soak

open Shared Shared.Passes Ledger SparkRsi.Cycle SparkRsi.Measure Propose Governance SparkRsi.Graph
open Actor (PathBuf Tree)
open Evaluator (EvaluationReceipt F64)

section Judged

variable {ecdsa : Ecdsa} {debug : Actor.JudgeDebug} {sha : HexHash} {judge : Actor.BlindJudge ecdsa}
  {trees : PathBuf → Tree} {around : Actor.Surroundings} {cycleId candidateId parentId : Text}
  {candidatePath parentPath : PathBuf} {receipt : EvaluationReceipt}

theorem unbound_candidate (unbound : judge.v2 = none)
    (judged : Actor.evaluateCycle debug sha ecdsa judge trees around cycleId candidateId parentId candidatePath
      parentPath = .ok receipt) :
    receipt.cycleId = cycleId ∧ receipt.candidateId = candidateId := by
  simp only [Actor.evaluateCycle, unbound, bind_eq_ok, exists_unit] at judged
  obtain ⟨_, -, _, -, _, ⟨⟩, -, _, -, _, -, _, -, finished⟩ := judged
  simp only [bind_eq_ok, exists_unit] at finished
  obtain ⟨_, ⟨⟩, -, ⟨⟩⟩ := finished
  exact ⟨rfl, rfl⟩

end Judged

section Pass

variable {ecdsa : Ecdsa} {crates : CycleCrates ecdsa} {config : SoakConfig} {io : VariationIo} {candidate : Candidate}
  {index : Nat}

instance : IsPreorder ImprovementLedger (Grows crates.ledger ecdsa) where
  refl := Grows.refl
  trans _ _ _ := Grows.trans

theorem moves_rejectAfter {α : Type} (text : String) (record : CycleCandidateRecord) :
    Moves (Grows crates.ledger ecdsa) (rejectAfter crates io text record : VariationPass α) := by
  have noted : Moves (Grows crates.ledger ecdsa) (modify fun ledger =>
      kept ledger (appendBlock crates.ledger io.note ledger .evaluation text []) : VariationPass Unit) :=
    moves_modify fun ledger => grows_note crates.ledger ecdsa io.note ledger text
  exact noted.bind fun _ => moves_throw _

variable (crates config io candidate index)

theorem moves_requirePermitted : Moves (Grows crates.ledger ecdsa) (requirePermitted crates config io candidate index) := by
  unfold requirePermitted
  split
  next => exact moves_pure _
  next => exact moves_rejectAfter _ _

theorem moves_stageVariation (repo : Tree) :
    Moves (Grows crates.ledger ecdsa) (stageVariation crates config io candidate index repo) := by
  unfold stageVariation
  split
  next => exact moves_pure _
  next => exact moves_rejectAfter _ _

theorem moves_buildVariation (contents : Sandbox) :
    Moves (Grows crates.ledger ecdsa) (buildVariation crates io candidate index contents) := by
  unfold buildVariation
  dsimp only
  split
  next =>
    split
    next => exact moves_pure _
    next => exact moves_rejectAfter _ _
    next => exact moves_rejectAfter _ _
  next => exact moves_pure _

theorem moves_verifyVariation (isBalanced : Bool) :
    Moves (Grows crates.ledger ecdsa) (verifyVariation crates io candidate index isBalanced) := by
  unfold verifyVariation
  split
  next => exact moves_pure _
  next => exact moves_rejectAfter _ _

theorem moves_judgeVariation (signingKey : ecdsa.SigningKey) (cycleId : Text) (sandboxDir : PathBuf) :
    Moves (Grows crates.ledger ecdsa) (judgeVariation crates config io candidate index signingKey cycleId sandboxDir) := by
  unfold judgeVariation
  split
  next => exact moves_pure _
  next => exact moves_rejectAfter _ _

theorem moves_recordVariation (receipt : EvaluationReceipt) :
    Moves (Grows crates.ledger ecdsa) (recordVariation crates io receipt) := by
  refine moves_ofPair fun ledger => ?_
  have grown := grows_evaluation crates.ledger ecdsa io.evaluation ledger (crates.receiptToJson receipt)
    (some (((crates.receiptToJson receipt).toOption.map utf8).getD []))
  dsimp only
  split
  next appended => rwa [appended] at grown
  next appended => rwa [appended] at grown

theorem moves_evaluateVariation (signingKey : ecdsa.SigningKey) (cycleId : Text) (repo : Tree) (isBalanced : Bool) :
    Moves (Grows crates.ledger ecdsa)
      (evaluateVariation crates config io candidate index signingKey cycleId repo isBalanced) := by
  refine (moves_requirePermitted crates config io candidate index).bind fun _ => ?_
  refine (moves_stageVariation crates config io candidate index repo).bind fun staged => ?_
  refine (moves_buildVariation crates io candidate index staged.contents).bind fun _ => ?_
  refine (moves_verifyVariation crates io candidate index isBalanced).bind fun _ => ?_
  refine (moves_judgeVariation crates config io candidate index signingKey cycleId _).bind fun receipt => ?_
  exact (moves_recordVariation crates io receipt).bind fun _ => moves_pure _

end Pass

section Records

variable {ecdsa : Ecdsa} {crates : CycleCrates ecdsa} {config : SoakConfig} {io : VariationIo} {candidate : Candidate}
  {index : Nat}

variable (crates candidate index) in
def Stopped : VariationEnd → Prop
  | .rejected record => ∃ compilationPassed invariantsPassed reason,
      (invariantsPassed = true → compilationPassed = true) ∧
        record = rejectedRecord crates candidate index compilationPassed invariantsPassed reason
  | .fatal _ => True

theorem throws_rejectAfter {α : Type} {text : String} {record : CycleCandidateRecord}
    (stopped : Stopped crates candidate index (.rejected record)) :
    Throws (Stopped crates candidate index) (rejectAfter crates io text record : VariationPass α) :=
  (throws_modify _).bind fun _ => throws_throw stopped

theorem throws_reject {α : Type} {compilationPassed invariantsPassed : Bool} {reason : String}
    (built : invariantsPassed = true → compilationPassed = true) :
    Throws (Stopped crates candidate index)
      (reject crates io candidate index compilationPassed invariantsPassed reason : VariationPass α) :=
  throws_rejectAfter ⟨compilationPassed, invariantsPassed, reason, built, rfl⟩

theorem throws_requirePermitted :
    Throws (Stopped crates candidate index) (requirePermitted crates config io candidate index) := by
  unfold requirePermitted
  split
  next => exact throws_pure _
  next => exact throws_reject id

theorem throws_stageVariation (repo : Tree) :
    Throws (Stopped crates candidate index) (stageVariation crates config io candidate index repo) := by
  unfold stageVariation
  split
  next => exact throws_pure _
  next => exact throws_reject id

theorem throws_buildVariation (contents : Sandbox) :
    Throws (Stopped crates candidate index) (buildVariation crates io candidate index contents) := by
  have failed : Stopped crates candidate index
      (.rejected (rejectedRecord crates candidate index false false "Failed to compile in Jail 1")) :=
    ⟨false, false, _, id, rfl⟩
  unfold buildVariation
  dsimp only
  split
  next =>
    split
    next => exact throws_pure _
    next => exact throws_rejectAfter failed
    next => exact throws_rejectAfter failed
  next => exact throws_pure _

theorem throws_verifyVariation (isBalanced : Bool) :
    Throws (Stopped crates candidate index) (verifyVariation crates io candidate index isBalanced) := by
  unfold verifyVariation
  split
  next => exact throws_pure _
  next => exact throws_reject fun _ => rfl

theorem throws_judgeVariation (signingKey : ecdsa.SigningKey) (cycleId : Text) (sandboxDir : PathBuf) :
    Throws (Stopped crates candidate index)
      (judgeVariation crates config io candidate index signingKey cycleId sandboxDir) := by
  unfold judgeVariation
  split
  next => exact throws_pure _
  next => exact throws_reject fun _ => rfl

theorem throws_recordVariation (receipt : EvaluationReceipt) :
    Throws (Stopped crates candidate index) (recordVariation crates io receipt) := by
  refine throws_ofPair fun ledger e after stopped => ?_
  dsimp only at stopped
  split at stopped
  next => cases stopped
  next =>
    cases stopped
    exact trivial

theorem throws_evaluateVariation (signingKey : ecdsa.SigningKey) (cycleId : Text) (repo : Tree) (isBalanced : Bool) :
    Throws (Stopped crates candidate index)
      (evaluateVariation crates config io candidate index signingKey cycleId repo isBalanced) := by
  refine throws_requirePermitted.bind fun _ => ?_
  refine (throws_stageVariation repo).bind fun staged => ?_
  refine (throws_buildVariation staged.contents).bind fun _ => ?_
  refine (throws_verifyVariation isBalanced).bind fun _ => ?_
  refine (throws_judgeVariation signingKey cycleId _).bind fun receipt => ?_
  exact (throws_recordVariation receipt).bind fun _ => throws_pure _

theorem recordVariation_returns {receipt : EvaluationReceipt} {block : LedgerBlock} {before after : ImprovementLedger}
    (returned : recordVariation crates io receipt before = .ok block after) :
    @OnRecord _ crates after receipt block := by
  rw [recordVariation, returns_ofPair] at returned
  dsimp only at returned
  split at returned
  next appended =>
    cases returned
    exact appendEvaluation_onRecord appended
  next => cases returned

theorem judgeVariation_returns {signingKey : ecdsa.SigningKey} {cycleId : Text} {sandboxDir : PathBuf}
    {receipt : EvaluationReceipt} {before after : ImprovementLedger}
    (returned : judgeVariation crates config io candidate index signingKey cycleId sandboxDir before = .ok receipt after) :
    Actor.evaluateCycle crates.judge crates.ledger.sha ecdsa (ownJudge signingKey) io.trees io.around cycleId
      candidate.id parentLabel sandboxDir config.repoRoot = .ok receipt := by
  unfold judgeVariation at returned
  cases judged : Actor.evaluateCycle crates.judge crates.ledger.sha ecdsa (ownJudge signingKey) io.trees io.around
      cycleId candidate.id parentLabel sandboxDir config.repoRoot with
  | ok found =>
    rw [judged] at returned
    obtain ⟨rfl, -⟩ := returns_pure.mp returned
    rfl
  | error e =>
    simp only [judged, reject, rejectAfter, returns_bind] at returned
    obtain ⟨_, _, -, rejected⟩ := returned
    exact absurd rejected returns_throw

theorem evaluateVariation_returns {signingKey : ecdsa.SigningKey} {cycleId : Text} {repo : Tree} {isBalanced : Bool}
    {judged : Admissible} {before after : ImprovementLedger}
    (returned : evaluateVariation crates config io candidate index signingKey cycleId repo isBalanced before =
      .ok judged after) :
    judged.candidate = candidate ∧ judged.receipt.candidateId = candidate.id ∧
      @OnRecord _ crates after judged.receipt judged.block := by
  simp only [evaluateVariation, returns_bind] at returned
  obtain ⟨_, _, -, staged, _, -, _, _, -, _, _, -, receipt, _, judging, block, _, recording, returned⟩ := returned
  obtain ⟨rfl, rfl⟩ := returns_pure.mp returned
  obtain ⟨-, named⟩ := unbound_candidate rfl (judgeVariation_returns judging)
  exact ⟨rfl, named, recordVariation_returns recording⟩

end Records

section Vetting

variable {ecdsa : Ecdsa} (crates : CycleCrates ecdsa)

/-- What a record of a variation says is so. -/
structure Vetted (ledger : ImprovementLedger) (record : CycleCandidateRecord) : Prop where
  built : record.invariantsPassed = true → record.compilationPassed = true
  sound : record.judgeAdmitted = true → record.invariantsPassed = true
  reason : record.rejectionReason = none ↔ record.judgeAdmitted = true
  hashed : record.judgeAdmitted = true → record.ledgerBlockHash.isSome = true
  judged : ∀ hash, record.ledgerBlockHash = some hash → record.invariantsPassed = true ∧ ∃ receipt block,
    @OnRecord _ crates ledger receipt block ∧ block.blockHash = hash ∧ receipt.candidateId.value = record.candidateId ∧
      receipt.admitted = record.judgeAdmitted ∧ latencyDeltaPct receipt = record.primaryMetricValue

variable {crates}

theorem Vetted.later {before after : ImprovementLedger} {record : CycleCandidateRecord}
    (vetted : Vetted crates before record) (extended : Extends before after) : Vetted crates after record := by
  refine { vetted with judged := fun hash named => ?_ }
  obtain ⟨sound, receipt, block, recorded, rest⟩ := vetted.judged hash named
  exact ⟨sound, receipt, block, recorded.later extended, rest⟩

theorem rejectedRecord_vetted {candidate : Candidate} {index : Nat} {compilationPassed invariantsPassed : Bool}
    {reason : String} {ledger : ImprovementLedger} (built : invariantsPassed = true → compilationPassed = true) :
    Vetted crates ledger (rejectedRecord crates candidate index compilationPassed invariantsPassed reason) :=
  ⟨built, nofun, ⟨nofun, nofun⟩, nofun, nofun⟩

theorem unproposedRecord_vetted {index : Nat} {candidateId targetFile : String} {ledger : ImprovementLedger} :
    Vetted crates ledger (unproposedRecord index candidateId targetFile) :=
  ⟨id, nofun, ⟨nofun, nofun⟩, nofun, nofun⟩

theorem judgedRecord_vetted {candidate : Candidate} {index : Nat} {receipt : EvaluationReceipt} {block : LedgerBlock}
    {ledger : ImprovementLedger} (named : receipt.candidateId = candidate.id)
    (recorded : @OnRecord _ crates ledger receipt block) :
    Vetted crates ledger (judgedRecord crates candidate index receipt block) where
  built := fun _ => rfl
  sound := fun _ => rfl
  reason := by
    change (if receipt.admitted then none else some _) = none ↔ receipt.admitted = true
    cases receipt.admitted <;> simp
  hashed := fun _ => rfl
  judged := by
    rintro _ ⟨⟩
    exact ⟨rfl, receipt, block, recorded, rfl, congrArg Text.value named, rfl, rfl⟩

end Vetting

end SparkRsi.Soak
