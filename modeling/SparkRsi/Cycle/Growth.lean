import SparkRsi.Cycle.Candidates
import SparkRsi.Ledger.Honest

set_option autoImplicit false

namespace SparkRsi.Cycle

open Shared Shared.Passes Ledger Supervisor Canary Governance SparkRsi.Measure Propose
open Actor (PathBuf Tree)
open Evaluator (EvaluationReceipt)

section Growth

variable (crates : Crates) (ecdsa : Ecdsa)

def Unpromoting : LedgerWrite ecdsa → Prop
  | .evaluation _ _ => True
  | .rollback _ _ _ => True
  | .block blockType _ => blockType = .evaluation
  | .checkpoint _ => True
  | _ => False

/-- The ledger between two moments of a cycle, as a run of such writes. -/
def Grows (before after : ImprovementLedger) : Prop :=
  ∃ writes, after = Run.final (write crates ecdsa) before writes ∧ ∀ step ∈ writes, Unpromoting ecdsa step.2

variable {crates ecdsa} {io : Io} {ledger : ImprovementLedger}

theorem Grows.refl (ledger : ImprovementLedger) : Grows crates ecdsa ledger ledger :=
  ⟨[], rfl, fun _ none => absurd none List.not_mem_nil⟩

theorem Grows.trans {a b c : ImprovementLedger} (first : Grows crates ecdsa a b) (second : Grows crates ecdsa b c) :
    Grows crates ecdsa a c := by
  obtain ⟨writes, rfl, here⟩ := first
  obtain ⟨more, rfl, there⟩ := second
  exact ⟨writes ++ more, (Run.final_append _ _ _ _).symm, List.forall_mem_append.mpr ⟨here, there⟩⟩

theorem grows_write {step : Io × LedgerWrite ecdsa} (harmless : Unpromoting ecdsa step.2) :
    Grows crates ecdsa ledger (write crates ecdsa ledger step) := by
  refine ⟨[step], rfl, ?_⟩
  intro other member
  rwa [List.mem_singleton.mp member]

variable (crates ecdsa io ledger)

theorem grows_note (text : String) :
    Grows crates ecdsa ledger (kept ledger (appendBlock crates io ledger .evaluation text [])) :=
  @grows_write crates ecdsa ledger (io, .block .evaluation text) rfl

theorem grows_evaluation (receipt : Except String String) (rawMetrics : Option Bytes) :
    Grows crates ecdsa ledger (appendEvaluation crates io ledger receipt rawMetrics).2 :=
  @grows_write crates ecdsa ledger (io, .evaluation receipt rawMetrics) trivial

theorem grows_rollback (generationId reason rolledBackAt : String) :
    Grows crates ecdsa ledger (kept ledger (appendRollback crates io ledger generationId reason rolledBackAt)) :=
  @grows_write crates ecdsa ledger (io, .rollback generationId reason rolledBackAt) trivial

theorem grows_checkpoint (signingKey : Option ecdsa.SigningKey) :
    Grows crates ecdsa ledger (kept ledger (checkpoint crates ecdsa io ledger signingKey)) :=
  @grows_write crates ecdsa ledger (io, .checkpoint signingKey) trivial

theorem grows_decision (generationId : String) (summary : CanarySummary) :
    Grows crates ecdsa ledger (recordDecision crates io ledger generationId summary) :=
  grows_note crates ecdsa io ledger _

end Growth

section Rows

variable {crates : Crates} {ecdsa : Ecdsa} {io : Io} {ledger : ImprovementLedger}

structure Extends (before after : ImprovementLedger) : Prop where
  kept : ∀ row ∈ before.blocks.rows, row ∈ after.blocks.rows
  unpromoted : ∀ row ∈ after.blocks.rows, row ∉ before.blocks.rows → row.blockType ≠ .text BlockType.promotion.toText

theorem Extends.of_blocks {before after : ImprovementLedger} (same : after.blocks = before.blocks) :
    Extends before after := by
  constructor
  case kept =>
    intro row member
    rwa [same]
  case unpromoted =>
    intro row member fresh
    rw [same] at member
    exact absurd member fresh

theorem Extends.trans {a b c : ImprovementLedger} (first : Extends a b) (second : Extends b c) : Extends a c := by
  constructor
  case kept => exact fun row member => second.kept row (first.kept row member)
  case unpromoted =>
    intro row member fresh
    by_cases between : row ∈ b.blocks.rows
    next => exact first.unpromoted row between fresh
    next => exact second.unpromoted row member between

theorem extends_insert {row : BlockRow} (admitted : ledger.blocks.Admits row)
    (other : row.blockType ≠ .text BlockType.promotion.toText) :
    Extends ledger { ledger with blocks := ledger.blocks.insert row admitted } := by
  constructor
  case kept => exact fun old member => (BlockTable.mem_insert admitted).mpr (.inr member)
  case unpromoted =>
    intro added member fresh
    cases (BlockTable.mem_insert admitted).mp member with
    | inl same => rwa [same]
    | inr old => exact absurd old fresh

variable (crates io ledger) in
theorem extends_appendBlock {blockType : BlockType} (other : blockType ≠ .promotion) (payloadJson : String)
    (blobHashes : List String) :
    Extends ledger (kept ledger (appendBlock crates io ledger blockType payloadJson blobHashes)) := by
  cases appended : appendBlock crates io ledger blockType payloadJson blobHashes with
  | error e => exact .of_blocks rfl
  | ok result =>
    obtain ⟨-, -, latest, -, admitted, rfl⟩ := appendBlock_eq_ok.mp appended
    apply extends_insert admitted
    change SqlValue.text blockType.toText ≠ _
    cases blockType with
    | promotion => exact absurd rfl other
    | genesis | evaluation | rollback | promotionEvidence => decide

theorem extends_appendEvaluation (receipt : Except String String) (rawMetrics : Option Bytes) :
    Extends ledger (appendEvaluation crates io ledger receipt rawMetrics).2 := by
  unfold appendEvaluation
  dsimp only
  split
  next block after appended =>
    simp only [bind_eq_ok] at appended
    obtain ⟨blobHashes, -, payload, -, written⟩ := appended
    have extended := extends_appendBlock crates io
      { ledger with blobStore := (putMetrics crates io ledger.blobStore rawMetrics).2 }
      (show BlockType.evaluation ≠ .promotion by decide) payload blobHashes
    rw [written] at extended
    have stored : Extends ledger { ledger with blobStore := (putMetrics crates io ledger.blobStore rawMetrics).2 } :=
      .of_blocks rfl
    exact stored.trans extended
  next => exact .of_blocks rfl

theorem extends_checkpoint (signingKey : Option ecdsa.SigningKey) :
    Extends ledger (kept ledger (checkpoint crates ecdsa io ledger signingKey)) := by
  cases checked : checkpoint crates ecdsa io ledger signingKey with
  | error e => exact .of_blocks rfl
  | ok result =>
    simp only [checkpoint, bind_eq_ok] at checked
    obtain ⟨_, -, _, -, _, -, _, -, ⟨⟩⟩ := checked
    exact .of_blocks rfl

theorem write_extends (step : Io × LedgerWrite ecdsa) (harmless : Unpromoting ecdsa step.2) :
    Extends ledger (write crates ecdsa ledger step) := by
  obtain ⟨io, made⟩ := step
  cases made with
  | evaluation receipt rawMetrics => exact extends_appendEvaluation receipt rawMetrics
  | rollback generationId reason rolledBackAt => exact extends_appendBlock crates io ledger (by decide) _ _
  | block blockType payloadJson =>
    have kind : blockType = .evaluation := harmless
    exact extends_appendBlock crates io ledger (by rw [kind]; decide) _ _
  | checkpoint signingKey => exact extends_checkpoint signingKey
  | promotion genInfo receiptDigest => exact harmless.elim
  | promotionEvidence evidence => exact harmless.elim
  | kernelReceipt summary receiptJson => exact harmless.elim

theorem Grows.extends {before after : ImprovementLedger} (grows : Grows crates ecdsa before after) :
    Extends before after := by
  obtain ⟨writes, rfl, harmless⟩ := grows
  induction writes generalizing before with
  | nil => exact .of_blocks rfl
  | cons step rest ih =>
    rw [List.forall_mem_cons] at harmless
    exact (write_extends step harmless.1).trans (ih harmless.2)

theorem Extends.length_le {before after : ImprovementLedger} (extended : Extends before after) :
    before.blocks.rows.length ≤ after.blocks.rows.length := by
  have distinct : before.blocks.rows.Nodup := before.blocks.ordered.imp fun less same => by simp [same] at less
  exact (distinct.subperm extended.kept).length_le

variable (crates) in
def Sound (ledger : ImprovementLedger) : Prop := ∃ blocks, Recorded crates ledger blocks

theorem Grows.sound {before after : ImprovementLedger} (grows : Grows crates ecdsa before after) (sound : Sound crates before)
    (room : after.blocks.rows.length < 2 ^ 63) : Sound crates after := by
  have fits := grows.extends.length_le
  obtain ⟨writes, rfl, harmless⟩ := grows
  induction writes generalizing before with
  | nil => exact sound
  | cons step rest ih =>
    rw [List.forall_mem_cons] at harmless
    have behind : Grows crates ecdsa (write crates ecdsa before step) _ := ⟨rest, rfl, harmless.2⟩
    obtain ⟨blocks, recorded⟩ := sound
    have backed : Backed crates ecdsa before step := by
      obtain ⟨at_, made⟩ := step
      cases made with
      | kernelReceipt => exact harmless.1.elim
      | evaluation | promotion | rollback | promotionEvidence | block | checkpoint => exact fits.trans_lt room
    exact ih (recorded.write step backed) harmless.2 room behind.extends.length_le

variable (crates) in
/-- Blocks are only added, without a promotion, and a ledger that the program wrote stays one. -/
structure Stands (before after : ImprovementLedger) : Prop where
  extended : Extends before after
  sound : Sound crates before → after.blocks.rows.length < 2 ^ 63 → Sound crates after

instance : IsPreorder ImprovementLedger (Stands crates) where
  refl _ := ⟨.of_blocks rfl, fun sound _ => sound⟩
  trans _ _ _ first second :=
    { extended := first.extended.trans second.extended
      sound := fun sound room => second.sound (first.sound sound (second.extended.length_le.trans_lt room)) room }

theorem Grows.stands {before after : ImprovementLedger} (grows : Grows crates ecdsa before after) :
    Stands crates before after :=
  ⟨grows.extends, grows.sound⟩

theorem openLedger_stands {opened : ImprovementLedger} (done : openLedger crates io ledger = .ok opened) :
    Stands crates ledger opened := by
  simp only [openLedger, bind_eq_ok, exists_unit] at done
  obtain ⟨-, latest, read, done⟩ := done
  cases latest with
  | some block =>
    cases done
    exact refl_of (Stands crates) ledger
  | none =>
    obtain ⟨-, admitted, rfl⟩ := insertBlockInternal_eq_ok.mp done
    refine ⟨extends_insert admitted (show SqlValue.text BlockType.genesis.toText ≠ _ by decide), ?_⟩
    -- A ledger the program wrote has its genesis block.
    rintro ⟨blocks, recorded⟩
    rw [recorded.latestBlock, Except.ok.injEq, List.getLast?_eq_none_iff] at read
    exact absurd read recorded.audited.nonempty

end Rows

section Candidates

variable {ecdsa : Ecdsa} (crates : CycleCrates ecdsa) (config : RsiConfig) (io : CandidateIo) (candidate : Candidate)

def WellPinned (s : LoopState) : Prop :=
  ∀ workload ∈ s.pinned, ∃ pin, config.canaryWorkloadSha256 = some pin ∧ workload.digest = pin ∧
    workload.manifest.digest crates.ledger.sha = pin ∧ workload.manifest.validate crates.logs.debug = .ok ()

structure Noted (before after : LoopState) : Prop where
  grows : Grows crates.ledger ecdsa before.ledger after.ledger
  pinned : WellPinned crates config before → WellPinned crates config after
  cached : ∀ workload, before.pinned = some workload → after.pinned = some workload

instance : IsPreorder LoopState (Noted crates config) where
  refl s := ⟨Grows.refl s.ledger, id, fun _ => id⟩
  trans _ _ _ first second :=
    ⟨first.grows.trans second.grows, second.pinned ∘ first.pinned,
      fun workload known => second.cached workload (first.cached workload known)⟩

theorem noted_ledger {s : LoopState} {ledger : ImprovementLedger} (grows : Grows crates.ledger ecdsa s.ledger ledger) :
    Noted crates config s { s with ledger } :=
  ⟨grows, id, fun _ => id⟩

theorem moves_note (at_ : Io) (text : String) : Moves (Noted crates config) (note crates at_ text) :=
  moves_modify fun s => noted_ledger crates config (grows_note crates.ledger ecdsa at_ s.ledger text)

theorem moves_tick (stage : Stage) (elapsedUs : Nat) (outcome : StageOutcome) :
    Moves (Noted crates config) (tick stage elapsedUs outcome) :=
  moves_modify fun s => ⟨Grows.refl s.ledger, id, fun _ => id⟩

theorem loadPinnedWorkload_ok {file : Except String Bytes} {workload : PinnedWorkload}
    (loaded : loadPinnedWorkload crates config file = .ok workload) (s : LoopState) :
    WellPinned crates config { s with pinned := some workload } := by
  simp only [loadPinnedWorkload, bind_eq_ok, okOr_eq_ok] at loaded
  obtain ⟨pin, named, loaded⟩ := loaded
  obtain ⟨valid, manifest, digest⟩ := CanaryWorkloadManifest.loadPinned_ok loaded
  rintro _ ⟨⟩
  exact ⟨pin, named, digest, manifest, valid⟩

theorem moves_refuse {α : Type} (text : String) : Moves (Noted crates config) (refuse crates io text : Pass α) :=
  (moves_note crates config io.refusal text).bind fun _ => moves_throw _

theorem moves_orRefuse {α : Type} (result : Except String α) : Moves (Noted crates config) (orRefuse crates io result) := by
  cases result with
  | ok value => exact moves_pure value
  | error e => exact moves_refuse crates config io e

theorem moves_pinnedWorkload : Moves (Noted crates config) (pinnedWorkload crates config io) := by
  intro s
  rw [pinnedWorkload, get_bind]
  cases cached : s.pinned with
  | some workload => exact moves_pure workload s
  | none =>
    cases loaded : loadPinnedWorkload crates config io.workloadFile with
    | error e => exact ((moves_note crates config io.eligibility _).bind fun _ => moves_throw _) s
    | ok workload =>
      refine ⟨Grows.refl s.ledger, fun _ => loadPinnedWorkload_ok crates config loaded s, ?_⟩
      intro other known
      rw [cached] at known
      cases known

theorem moves_ineligible (text e : String) : Moves (Noted crates config) (ineligible crates io text e) :=
  (moves_note crates config io.eligibility text).bind fun _ => moves_pure _

theorem moves_eligibility (staged : Staged) : Moves (Noted crates config) (eligibility crates config io staged) := by
  unfold eligibility
  split
  next => exact moves_ineligible crates config io _ _
  next =>
    refine (moves_pinnedWorkload crates config io).bind fun workload => ?_
    dsimp only
    split
    next => exact moves_ineligible crates config io _ _
    next =>
      split
      next => exact moves_ineligible crates config io _ _
      next => exact moves_pure _

theorem moves_checkEligible (exempt : Bool) (staged : Staged) :
    Moves (Noted crates config) (checkEligible crates config io exempt staged) := by
  unfold checkEligible
  split
  next => exact moves_pure _
  next => exact (moves_eligibility crates config io staged).map

theorem moves_runBuild : Moves (Noted crates config) (runBuild crates io candidate) := by
  unfold runBuild
  split
  next => exact (moves_tick crates config _ _ _).bind fun _ => moves_refuse crates config io _
  next =>
    refine (moves_tick crates config _ _ _).bind fun _ => ?_
    split
    next => exact moves_pure _
    next => exact moves_refuse crates config io _

theorem moves_buildIf (needsBuild : Bool) : Moves (Noted crates config) (buildIf crates io candidate needsBuild) := by
  unfold buildIf
  split
  next => exact moves_runBuild crates config io candidate
  next => exact moves_pure _

theorem moves_checkBuilt (eligible : Option (Except String CanaryBuild)) :
    Moves (Noted crates config) (checkBuilt crates io eligible) := by
  unfold checkBuilt
  split
  next =>
    split
    next => exact moves_pure _
    next => exact (moves_note crates config io.missing _).bind fun _ => moves_pure _
  next => exact moves_pure _

theorem moves_checkInvariants (isBalanced : Bool) :
    Moves (Noted crates config) (checkInvariants crates io candidate isBalanced) := by
  unfold checkInvariants
  split
  next => exact moves_pure _
  next => exact (moves_tick crates config _ _ _).bind fun _ => moves_refuse crates config io _

theorem moves_judgeCandidate (signingKey : ecdsa.SigningKey) (cycleId : Text) (sandboxDir : PathBuf) :
    Moves (Noted crates config) (judgeCandidate crates config io candidate signingKey cycleId sandboxDir) := by
  unfold judgeCandidate
  split
  next => exact moves_pure _
  next => exact (moves_tick crates config _ _ _).bind fun _ => moves_refuse crates config io _

theorem moves_recordEvaluation (receipt : EvaluationReceipt) :
    Moves (Noted crates config) (recordEvaluation crates io receipt) := by
  refine moves_ofPair fun s => ?_
  have grown := grows_evaluation crates.ledger ecdsa io.evaluation s.ledger (crates.receiptToJson receipt)
    (some (((crates.receiptToJson receipt).toOption.map utf8).getD []))
  dsimp only
  split
  next appended =>
    rw [appended] at grown
    exact noted_ledger crates config grown
  next appended =>
    rw [appended] at grown
    exact noted_ledger crates config grown

theorem moves_requireAdmitted (receipt : EvaluationReceipt) : Moves (Noted crates config) (requireAdmitted receipt) := by
  unfold requireAdmitted
  split
  next => exact moves_pure _
  next => exact moves_throw _

theorem moves_evaluateCandidate (signingKey : ecdsa.SigningKey) (cycleId : Text) (repo : Tree)
    (diagnosisMeasured isBalanced : Bool) : Moves (Noted crates config)
      (evaluateCandidate crates config io candidate signingKey cycleId repo diagnosisMeasured isBalanced) := by
  refine (moves_orRefuse crates config io _).bind fun _ => ?_
  refine (moves_orRefuse crates config io _).bind fun staged => ?_
  refine (moves_checkEligible crates config io _ staged).bind fun declared => ?_
  refine (moves_buildIf crates config io candidate _).bind fun _ => ?_
  refine (moves_checkBuilt crates config io declared).bind fun eligible => ?_
  refine (moves_checkInvariants crates config io candidate isBalanced).bind fun _ => ?_
  refine (moves_judgeCandidate crates config io candidate signingKey cycleId _).bind fun receipt => ?_
  refine (moves_recordEvaluation crates config io receipt).bind fun block => ?_
  refine (moves_tick crates config _ _ _).bind fun _ => ?_
  exact (moves_requireAdmitted crates config receipt).bind fun _ => moves_pure _

theorem evaluateCandidates_noted (signingKey : ecdsa.SigningKey) (cycleId : Text) (repo : Tree)
    (diagnosisMeasured isBalanced : Bool) (candidates : List (Candidate × CandidateIo)) (s : LoopState) :
    Noted crates config s
      (evaluateCandidates crates config signingKey cycleId repo diagnosisMeasured isBalanced candidates s).2 := by
  induction candidates generalizing s with
  | nil => exact refl_of (Noted crates config) s
  | cons tried rest ih =>
    have moved := moves_evaluateCandidate crates config tried.2 tried.1 signingKey cycleId repo diagnosisMeasured
      isBalanced s
    unfold evaluateCandidates
    split
    next ended => rwa [ended] at moved
    next ended =>
      rw [ended] at moved
      exact trans_of (Noted crates config) moved (ih _)
    next ended => rwa [ended] at moved

end Candidates

end SparkRsi.Cycle
