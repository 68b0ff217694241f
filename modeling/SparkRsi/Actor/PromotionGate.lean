import SparkRsi.Actor.Admission
import SparkRsi.Evaluator.Versions
import SparkRsi.Ledger.SignedCoverage

set_option autoImplicit false

namespace SparkRsi.Actor

open Shared Governance Evaluator Ledger

structure PromotionSubject where
  parentId : String
  path : String
  contentSha256 : String
  diskSha256 : String

def PromotionSubject.same (parentId path sha256 : String) : PromotionSubject :=
  { parentId, path, contentSha256 := sha256, diskSha256 := sha256 }

/-- What the gate uses of serde_json, of the P-256 and hex crates, of the float type and of the disk. -/
structure GateCrates (ecdsa : Ecdsa) where
  fromSlice : Bytes → Except String PolicyFile
  fromSec1Bytes : Bytes → Except String ecdsa.VerifyingKey
  hexError : String → String
  belowRatio : UInt64 → F64 → UInt64 → Bool
  ratio : F64 → String
  read : PathBuf → Option Bytes

section Gate

variable (debug : JudgeDebug) (sha : HexHash) (ecdsa : Ecdsa) [DecidableEq ecdsa.VerifyingKey]
  (crates : GateCrates ecdsa) (receipt : EvaluationReceipt)

omit [DecidableEq ecdsa.VerifyingKey] in
def verifyForPromotion (judgeKey : ecdsa.VerifyingKey) (subjectSha256 policySha256 holdoutSetSha256 : String) :
    Except String Unit := do
  refuseIf (receipt.formatVersion ≠ 2)
    s!"receipt format {receipt.formatVersion} is not sufficient for promotion (version 2 required)"
  refuseIf (receipt.verifySignature sha ecdsa judgeKey = false)
    "receipt signature or digest does not verify under the judge key"
  let b ← okOr "version 2 receipt without binding" receipt.binding
  refuseIf (b.subjectSha256.value ≠ subjectSha256)
    s!"receipt subject {b.subjectSha256.value} is not the change being promoted ({subjectSha256})"
  refuseIf (b.policySha256.value ≠ policySha256) "receipt policy digest differs from the pinned policy"
  refuseIf (b.holdoutSetSha256.value ≠ holdoutSetSha256)
    "receipt holdout set differs from the pinned holdout set"
  refuseIf (receipt.admitted = false) "judge did not admit the candidate"

omit [DecidableEq ecdsa.VerifyingKey] in
def judgeKeyOf (keyHex : String) : Except String ecdsa.VerifyingKey := do
  let trimmed := String.ofList (TextLines.trim keyHex.toList)
  let keyBytes ← okOr s!"judge public key is not hex: {crates.hexError trimmed}" (ecdsa.hexDecode trimmed)
  (crates.fromSec1Bytes keyBytes).mapError fun e => s!"judge public key is invalid: {e}"

def checkV2Promotion (judgePublicKeyHex : Option String) (ownKey : ecdsa.VerifyingKey)
    (judgePolicyFile : Option PathBuf) (subject : PromotionSubject) : Except String Unit := do
  refuseIf (subject.contentSha256 ≠ subject.diskSha256)
    s!"staged {subject.path} hashes to {subject.diskSha256}, not the change's {subject.contentSha256}; refusing to promote"
  let keyHex ← okOr "no pinned judge public key (judge_public_key_hex); promotion fails closed" judgePublicKeyHex
  let judgeKey ← judgeKeyOf ecdsa crates keyHex
  refuseIf (judgeKey = ownKey) "judge public key equals the promoter's own key; the judge must be separate"
  let policyFile ← okOr "no pinned evaluation policy (judge_policy_file); promotion fails closed" judgePolicyFile
  let (policy, policySha256) ← EvaluationPolicy.load debug sha crates.fromSlice policyFile (crates.read policyFile)
  verifyForPromotion sha ecdsa receipt judgeKey subject.contentSha256 policySha256 policy.holdoutSetSha256.value
  let b ← okOr "version 2 receipt without binding" receipt.binding
  refuseIf (receipt.parentId.value ≠ subject.parentId)
    s!"receipt judged the change against parent {receipt.parentId.value}, but it applies on {subject.parentId}"
  refuseIf (b.subjectPath.value ≠ subject.path)
    s!"receipt covers {b.subjectPath.value}, but the change replaces {subject.path}"
  refuseIf (b.subjectPath.value ∉ policy.allowedTargets)
    s!"receipt subject {b.subjectPath.value} is not an allowed target in the pinned policy"
  refuseIf (b.holdoutsTotal = 0 ∨
      crates.belowRatio b.holdoutsPassed policy.minHoldoutPassRatio b.holdoutsTotal = true)
    s!"holdouts passed {b.holdoutsPassed}/{b.holdoutsTotal} is below the policy threshold {crates.ratio policy.minHoldoutPassRatio}"

structure Covers (judgeKey : ecdsa.VerifyingKey) (file : PolicyFile) (policySha256 : String)
    (subject : PromotionSubject) (b : ReceiptBindingV2) : Prop where
  version : receipt.formatVersion = 2
  signed : receipt.verifySignature sha ecdsa judgeKey = true
  binding : receipt.binding = some b
  content : b.subjectSha256.value = subject.contentSha256
  policy : b.policySha256.value = policySha256
  holdouts : b.holdoutSetSha256.value = file.holdoutSetSha256.value
  admitted : receipt.admitted = true
  parent : receipt.parentId.value = subject.parentId
  path : b.subjectPath.value = subject.path
  allowed : b.subjectPath.value ∈ file.allowedTargets
  counted : b.holdoutsTotal ≠ 0
  enough : crates.belowRatio b.holdoutsPassed file.minHoldoutPassRatio b.holdoutsTotal = false

variable {debug sha ecdsa crates receipt} {ownKey : ecdsa.VerifyingKey} {subject : PromotionSubject}
  {judgePublicKeyHex : Option String} {judgePolicyFile : Option PathBuf}

omit [DecidableEq ecdsa.VerifyingKey] in
theorem verifyForPromotion_ok {judgeKey : ecdsa.VerifyingKey} {subjectSha256 policySha256 set : String} :
    verifyForPromotion sha ecdsa receipt judgeKey subjectSha256 policySha256 set = .ok () ↔
      receipt.formatVersion = 2 ∧ receipt.verifySignature sha ecdsa judgeKey = true ∧
        ∃ b, receipt.binding = some b ∧ b.subjectSha256.value = subjectSha256 ∧
          b.policySha256.value = policySha256 ∧ b.holdoutSetSha256.value = set ∧ receipt.admitted = true := by
  simp only [verifyForPromotion, bind_eq_ok, exists_unit, refuseIf_eq_ok, okOr_eq_ok, not_not,
    Bool.not_eq_false]

theorem checkV2Promotion_ok :
    checkV2Promotion debug sha ecdsa crates receipt judgePublicKeyHex ownKey judgePolicyFile subject = .ok () ↔
      subject.contentSha256 = subject.diskSha256 ∧
        ∃ keyHex judgeKey policyFile file policySha256 b, judgePublicKeyHex = some keyHex ∧
          judgeKeyOf ecdsa crates keyHex = .ok judgeKey ∧ judgeKey ≠ ownKey ∧ judgePolicyFile = some policyFile ∧
          EvaluationPolicy.load debug sha crates.fromSlice policyFile (crates.read policyFile) =
            .ok (file, policySha256) ∧
          Covers sha ecdsa crates receipt judgeKey file policySha256 subject b := by
  simp only [checkV2Promotion, bind_eq_ok, exists_unit, refuseIf_eq_ok, okOr_eq_ok, not_not, Prod.exists,
    verifyForPromotion_ok, not_or, Bool.not_eq_true]
  apply and_congr_right
  intro _
  constructor
  next =>
    intro passed
    obtain ⟨keyHex, pinned, judgeKey, decoded, separate, policyFile, named, file, policySha256, loaded,
      ⟨version, signed, b, binding, content, policy, holdouts, admitted⟩, b', binding', parent, path, allowed,
      counted, enough⟩ := passed
    cases binding.symm.trans binding'
    exact ⟨keyHex, judgeKey, policyFile, file, policySha256, b, pinned, decoded, separate, named, loaded,
      ⟨version, signed, binding, content, policy, holdouts, admitted, parent, path, allowed, counted, enough⟩⟩
  next =>
    intro passed
    obtain ⟨keyHex, judgeKey, policyFile, file, policySha256, b, pinned, decoded, separate, named, loaded,
      covers⟩ := passed
    exact ⟨keyHex, pinned, judgeKey, decoded, separate, policyFile, named, file, policySha256, loaded,
      ⟨covers.version, covers.signed, b, covers.binding, covers.content, covers.policy, covers.holdouts,
        covers.admitted⟩, b, covers.binding, covers.parent, covers.path, covers.allowed, covers.counted,
      covers.enough⟩

end Gate

section Evaluations

variable (debug : JudgeDebug) (sha : HexHash) (ecdsa : Ecdsa) (fromSlice : Bytes → Except String PolicyFile)

structure JudgeRun (key : ecdsa.SigningKey) where
  judge : BlindJudge ecdsa
  trees : PathBuf → Tree
  around : Surroundings
  policyPath : PathBuf
  policyBytes : Bytes
  file : PolicyFile
  subjectPath : Text
  policySha256 : Text
  cycleId : Text
  candidateId : Text
  parentId : Text
  candidatePath : PathBuf
  parentPath : PathBuf
  receipt : EvaluationReceipt
  loaded : EvaluationPolicy.load debug sha fromSlice policyPath (some policyBytes) = .ok (file, policySha256.value)
  signing : judge.signingKey = some key
  bound : judge.v2 = some { subjectPath, policy := file.toEvaluationPolicy, policySha256 }
  returned : evaluateCycle debug sha ecdsa judge trees around cycleId candidateId parentId candidatePath parentPath =
    .ok receipt

variable {debug sha ecdsa fromSlice} {key : ecdsa.SigningKey}

structure JudgeRun.Bound (run : JudgeRun debug sha ecdsa fromSlice key) (b : ReceiptBindingV2) (content : Bytes) :
    Prop where
  signs : ∃ draft : EvaluationReceipt, draft.bindAndSignV2 sha ecdsa b key = .ok run.receipt
  binding : run.receipt.binding = some b
  version : run.receipt.formatVersion = 2
  parent : run.receipt.parentId = run.parentId
  path : b.subjectPath = run.subjectPath
  read : (run.trees run.candidatePath).read run.subjectPath.value = some content
  content : b.subjectSha256.value = sha.hex content
  policy : b.policySha256 = run.policySha256
  holdouts : b.holdoutSetSha256 = run.file.holdoutSetSha256
  allowed : run.subjectPath.value ∈ run.file.allowedTargets
  only : strictChangedPaths debug run.parentPath run.candidatePath (run.trees run.parentPath)
    (run.trees run.candidatePath) = .ok [run.subjectPath.value]
  enough : run.receipt.admitted = true →
    b.holdoutsTotal ≠ 0 ∧
      run.around.belowRatio b.holdoutsPassed run.file.minHoldoutPassRatio b.holdoutsTotal = false
  passed : run.receipt.admitted = true → ∀ layer ∈ run.receipt.layerResults.items, layer.passed = true

/-- A signed version 2 receipt says what its draft said, and carries the digest of it. -/
structure SignedFrom (sha : HexHash) (draft signed : EvaluationReceipt) (b : ReceiptBindingV2) : Prop where
  binding : signed.binding = some b
  version : signed.formatVersion = 2
  parent : signed.parentId = draft.parentId
  admitted : signed.admitted = draft.admitted
  layers : signed.layerResults = draft.layerResults
  digest : signed.receiptDigest = sha.hex (signed.textV2 b)

theorem bindAndSignV2_ok {draft signed : EvaluationReceipt} {b : ReceiptBindingV2}
    (signs : draft.bindAndSignV2 sha ecdsa b key = .ok signed) : SignedFrom sha draft signed b := by
  cases signs
  exact ⟨rfl, rfl, rfl, rfl, rfl, rfl⟩

-- Six layers decide on admission, and these are the layers a receipt lists.
theorem layers_passed {cycleId candidateId parentId evaluatedAt version : Text}
    {correctness security style performance resources replay : LayerResult} {metrics : EvaluationMetricsSummary}
    (admitted : (ObjectiveEvaluator.evaluateCandidate sha cycleId candidateId parentId evaluatedAt version correctness
      security style performance resources replay metrics).admitted = true) :
    ∀ layer ∈ (ObjectiveEvaluator.evaluateCandidate sha cycleId candidateId parentId evaluatedAt version correctness
      security style performance resources replay metrics).layerResults.items, layer.passed = true := by
  simp only [ObjectiveEvaluator.evaluateCandidate, Bool.and_eq_true] at admitted ⊢
  simp [admitted]

theorem JudgeRun.exists_bound (run : JudgeRun debug sha ecdsa fromSlice key) :
    ∃ b content, run.Bound b content := by
  have returned := run.returned
  simp only [evaluateCycle, run.bound, run.signing, bind_eq_ok, exists_unit, okOr_eq_ok] at returned
  obtain ⟨_, ⟨⟩, ⟨suites, set⟩, -, checked, preflight, subject, ⟨⟩, -, measured, -, security, -, replay, -,
    finished⟩ := returned
  simp only [bind_eq_ok, exists_unit] at finished
  obtain ⟨signed, made, -, ⟨⟩⟩ := finished
  obtain ⟨pinned, -, allowed, -, -, only, content, read, digest⟩ := v2Preflight_ok.mp preflight
  simp only [bindReceipt, bind_eq_ok, exists_unit, refuseIf_eq_ok, not_not] at made
  obtain ⟨after, -, rehashed, -, unchanged, exe, -, subjectText, subjectFits, exeText, -, signs⟩ := made
  have hashed : subjectText.value = sha.hex content := (fitText_value subjectFits).trans digest
  have signed := bindAndSignV2_ok signs
  refine ⟨_, content, ⟨⟨_, signs⟩, signed.binding, signed.version, ?_, rfl, read, hashed, rfl, pinned, allowed, only,
    ?_, ?_⟩⟩
  case refine_1 =>
    rw [signed.parent]
    split <;> rfl
  all_goals
    intro admitted
    rw [signed.admitted] at admitted
    split at admitted
    next => cases admitted
  case refine_2 enough =>
    rw [not_or, Bool.not_eq_true] at enough
    exact enough
  case refine_3 enough =>
    rw [signed.layers, if_neg enough]
    exact layers_passed admitted

theorem load_policy {path : PathBuf} {content : Option Bytes} {file : PolicyFile} {policySha256 : String}
    (loaded : EvaluationPolicy.load debug sha fromSlice path content = .ok (file, policySha256)) :
    ∃ bytes, content = some bytes ∧ policySha256 = sha.hex bytes := by
  simp only [EvaluationPolicy.load, bind_eq_ok, exists_unit, okOr_eq_ok] at loaded
  obtain ⟨bytes, read, _, -, -, -, -, -, -, done⟩ := loaded
  split at done
  next => cases done
  next =>
    cases done
    exact ⟨bytes, read, rfl⟩

-- Where a policy lies does not matter.
theorem load_elsewhere {path : PathBuf} (elsewhere : PathBuf) {content : Option Bytes}
    {result : PolicyFile × String}
    (loaded : EvaluationPolicy.load debug sha fromSlice path content = .ok result) :
    EvaluationPolicy.load debug sha fromSlice elsewhere content = .ok result := by
  simp only [EvaluationPolicy.load, bind_eq_ok, okOr_eq_ok, mapError_eq_ok] at loaded ⊢
  exact loaded

variable [DecidableEq ecdsa.VerifyingKey] {crates : GateCrates ecdsa} {judgeKey ownKey : ecdsa.VerifyingKey}

omit [DecidableEq ecdsa.VerifyingKey] in
-- An admitted receipt of the judge covers the change that was judged.
theorem JudgeRun.Bound.covers {run : JudgeRun debug sha ecdsa crates.fromSlice key} {b : ReceiptBindingV2}
    {content : Bytes} (bound : run.Bound b content) (admitted : run.receipt.admitted = true)
    (verifies : run.receipt.verifySignature sha ecdsa judgeKey = true)
    (ratios : crates.belowRatio = run.around.belowRatio) :
    Covers sha ecdsa crates run.receipt judgeKey run.file run.policySha256.value
      (.same run.parentId.value run.subjectPath.value (sha.hex content)) b := by
  obtain ⟨counted, enough⟩ := bound.enough admitted
  exact
    { version := bound.version
      signed := verifies
      binding := bound.binding
      content := bound.content
      policy := by rw [bound.policy]
      holdouts := by rw [bound.holdouts]
      admitted
      parent := by rw [bound.parent]; rfl
      path := by rw [bound.path]; rfl
      allowed := by rw [bound.path]; exact bound.allowed
      counted
      enough := by rw [ratios]; exact enough }

/-- The gate accepts a receipt of the judge exactly for the change that was judged and admitted: on the same
parent, in the same file, with the bytes the judge read. -/
theorem gate_accepts_judged_iff (run : JudgeRun debug sha ecdsa crates.fromSlice key)
    (pair : ecdsa.Pair key judgeKey) (keyHex : String) (pinned : judgeKeyOf ecdsa crates keyHex = .ok judgeKey)
    (separate : judgeKey ≠ ownKey) (policyFile : PathBuf) (policy : crates.read policyFile = some run.policyBytes)
    (ratios : crates.belowRatio = run.around.belowRatio) (subject : PromotionSubject) :
    checkV2Promotion debug sha ecdsa crates run.receipt (some keyHex) ownKey (some policyFile) subject = .ok () ↔
      run.receipt.admitted = true ∧ subject.contentSha256 = subject.diskSha256 ∧
        subject.parentId = run.parentId.value ∧ subject.path = run.subjectPath.value ∧
        ∃ content, (run.trees run.candidatePath).read subject.path = some content ∧
          subject.contentSha256 = sha.hex content := by
  obtain ⟨b, content, bound⟩ := run.exists_bound
  have loaded : EvaluationPolicy.load debug sha crates.fromSlice policyFile (crates.read policyFile) =
      .ok (run.file, run.policySha256.value) := by
    rw [policy]
    exact load_elsewhere policyFile run.loaded
  rw [checkV2Promotion_ok]
  constructor
  next =>
    intro passed
    obtain ⟨onDisk, _, judgeKey', policyFile', file, policySha256, b', ⟨⟩, -, -, ⟨⟩, loaded', covers⟩ := passed
    cases bound.binding.symm.trans covers.binding
    have path := covers.path
    rw [bound.path] at path
    refine ⟨covers.admitted, onDisk, ?_, path.symm, content, ?_, ?_⟩
    · rw [← covers.parent, bound.parent]
    · rw [← path]
      exact bound.read
    · rw [← covers.content]
      exact bound.content
  next =>
    intro same
    obtain ⟨admitted, onDisk, parent, path, content', read, hashed⟩ := same
    rw [path, bound.read] at read
    cases read
    obtain ⟨draft, signs⟩ := bound.signs
    obtain ⟨_, signed, verifies⟩ := @EvaluationReceipt.bindAndSignV2_verifies sha ecdsa draft _ _ pair b
    cases signs.symm.trans signed
    have covers := bound.covers admitted verifies ratios
    rw [← parent, ← path, ← hashed] at covers
    exact ⟨onDisk, keyHex, judgeKey, policyFile, run.file, run.policySha256.value, b, rfl, pinned, separate, rfl, loaded,
      { covers with }⟩

def JudgeRun.hashed (run : JudgeRun debug sha ecdsa crates.fromSlice key) : Set Bytes :=
  run.receipt.textsV2 ∪ {run.policyBytes} ∪
    {content | (run.trees run.candidatePath).read run.subjectPath.value = some content}

/-- Where the judge's key accepts the signature that this receipt carries, it was made over the digest of a receipt
that one of these evaluations returned. -/
def SignedByRuns (judgeKey : ecdsa.VerifyingKey) (runs : Set (JudgeRun debug sha ecdsa crates.fromSlice key))
    (receipt : EvaluationReceipt) : Prop :=
  ∀ signature, receipt.signature.bind (EvaluationReceipt.readSignature ecdsa) = some signature →
    ecdsa.verify judgeKey (EvaluationReceipt.digestBytes ecdsa receipt.receiptDigest) signature = true →
      ∃ run ∈ runs, EvaluationReceipt.digestBytes ecdsa receipt.receiptDigest =
        EvaluationReceipt.digestBytes ecdsa run.receipt.receiptDigest

structure JudgeRun.Judged (run : JudgeRun debug sha ecdsa crates.fromSlice key) (receipt : EvaluationReceipt)
    (policyFile : PathBuf) (subject : PromotionSubject) (content : Bytes) : Prop where
  said : receipt = { run.receipt with signature := receipt.signature }
  policy : crates.read policyFile = some run.policyBytes
  parent : run.parentId.value = subject.parentId
  path : run.subjectPath.value = subject.path
  read : (run.trees run.candidatePath).read subject.path = some content
  only : strictChangedPaths debug run.parentPath run.candidatePath (run.trees run.parentPath)
    (run.trees run.candidatePath) = .ok [subject.path]
  passed : ∀ layer ∈ receipt.layerResults.items, layer.passed = true

-- Receipts of one version 2 text and of its digest differ in the signature only.
theorem eq_of_textV2 {receipt other : EvaluationReceipt} {b c : ReceiptBindingV2}
    (binding : receipt.binding = some b) (otherBinding : other.binding = some c)
    (version : receipt.formatVersion = other.formatVersion) (digest : receipt.receiptDigest = other.receiptDigest)
    (texts : receipt.textV2 b = other.textV2 c) :
    receipt = { other with signature := receipt.signature } ∧ b = c := by
  have same := EvaluationReceipt.contentV2_eq_of_textV2 texts
  simp only [EvaluationReceipt.contentV2, ContentV2.mk.injEq, Prod.mk.injEq] at same
  obtain ⟨⟨cycle, candidate, parent, at_, version⟩, ⟨binary, path, subject, holdouts, policy⟩,
    ⟨total, passed⟩, ⟨admitted, hard, gates⟩, layers, metrics⟩ := same
  have bindings : b = c := by
    cases b
    cases c
    simp_all
  cases receipt
  cases other
  simp_all

/-- Whatever receipt the gate is handed, the change it lets through is one the judge admitted: on that parent, with
that file as the only difference, holding exactly these bytes, under the operator's policy. -/
theorem promoted_change_judged (runs : Set (JudgeRun debug sha ecdsa crates.fromSlice key))
    (decodes : ∀ bytes, ecdsa.hexDecode (hexEncode bytes) = some bytes) (keyHex : String)
    (pinned : judgeKeyOf ecdsa crates keyHex = .ok judgeKey) (receipt : EvaluationReceipt)
    (unforgeable : SignedByRuns judgeKey runs receipt) (policyFile : PathBuf) (subject : PromotionSubject)
    (content : Bytes)
    (hashed : subject.contentSha256 = sha.hex content)
    (collisionFree : Set.InjOn sha.hex
      (receipt.textsV2 ∪ {content} ∪ {bytes | crates.read policyFile = some bytes} ∪ ⋃ run ∈ runs, run.hashed))
    (accepted : checkV2Promotion debug sha ecdsa crates receipt (some keyHex) ownKey (some policyFile) subject =
      .ok ()) :
    ∃ run ∈ runs, run.Judged receipt policyFile subject content := by
  obtain ⟨-, _, _, _, file, policySha256, b, ⟨⟩, pinned', -, ⟨⟩, loaded, covers⟩ := checkV2Promotion_ok.mp accepted
  cases pinned.symm.trans pinned'
  obtain ⟨digest, signature, shown, verified⟩ := EvaluationReceipt.verifySignature_iff.mp covers.signed
  have recorded : receipt.receiptDigest = sha.hex (receipt.textV2 b) := by
    cases EvaluationReceipt.verifyDigest_iff.mp digest with
    | inl first =>
      have two := covers.version
      rw [first.1] at two
      cases two
    | inr second =>
      obtain ⟨-, b', bound, recorded⟩ := second
      cases covers.binding.symm.trans bound
      exact recorded
  obtain ⟨run, member, message⟩ := unforgeable signature shown verified
  obtain ⟨c, judgedContent, bound⟩ := run.exists_bound
  obtain ⟨draft, signs⟩ := bound.signs
  have signed := bindAndSignV2_ok signs
  have inRun {text : Bytes} (inside : text ∈ run.hashed) :
      text ∈ receipt.textsV2 ∪ {content} ∪ {bytes | crates.read policyFile = some bytes} ∪ ⋃ run ∈ runs, run.hashed :=
    .inr (Set.mem_biUnion member inside)
  -- The signed digest is that of one text, so the two receipts say the same.
  have digests : sha.hex (receipt.textV2 b) = sha.hex (run.receipt.textV2 c) := by
    rw [recorded, signed.digest, EvaluationReceipt.digestBytes_hex decodes, EvaluationReceipt.digestBytes_hex decodes]
      at message
    exact congrArg hexEncode message
  have texts := collisionFree (.inl (.inl (.inl ⟨b, covers.binding, rfl⟩)))
    (inRun (.inl (.inl ⟨c, signed.binding, rfl⟩))) digests
  obtain ⟨same, bindings⟩ := eq_of_textV2 covers.binding signed.binding (covers.version.trans signed.version.symm)
    (recorded.trans (digests.trans signed.digest.symm)) texts
  subst bindings
  have contents : content = judgedContent := by
    apply collisionFree (.inl (.inl (.inr rfl))) (inRun (.inr bound.read))
    rw [← hashed, ← covers.content, bound.content]
  obtain ⟨policyBytes, read, policyDigest⟩ := load_policy loaded
  obtain ⟨runBytes, ⟨⟩, runDigest⟩ := load_policy run.loaded
  have policies : policyBytes = run.policyBytes := by
    apply collisionFree (.inl (.inr read)) (inRun (.inl (.inr rfl)))
    rw [← policyDigest, ← runDigest, ← covers.policy, bound.policy]
  have path : run.subjectPath.value = subject.path := by rw [← bound.path, covers.path]
  have admitted : run.receipt.admitted = true := by
    have admitted := covers.admitted
    rw [same] at admitted
    exact admitted
  refine ⟨run, member, ?_⟩
  constructor
  case said => exact same
  case policy => rw [read, policies]
  case parent =>
    have parent := covers.parent
    rw [same] at parent
    rw [← bound.parent]
    exact parent
  case path => exact path
  case read =>
    rw [← path, contents]
    exact bound.read
  case only =>
    rw [← path]
    exact bound.only
  case passed =>
    rw [same]
    exact bound.passed admitted

end Evaluations

section Sample

def digestText (bytes : Bytes) : Text := ⟨sha256.hex bytes, by rw [HexHash.length_hex]; decide⟩

def workflowRequest : V2Request :=
  { subjectPath := workflow
    policy := pinnedPolicy.toEvaluationPolicy
    policySha256 := digestText [0x7B] }

def workflowJudge (ecdsa : Ecdsa) (key : ecdsa.SigningKey) : BlindJudge ecdsa :=
  { signingKey := some key
    executable := some (.text "spark-rsi".toList)
    buildRelease := false
    v2 := some workflowRequest }

def securityPass : LayerResult :=
  { passing (text "Security" (by decide)) with
    isHardInvariant := true
    summary := text "Security: root_of_trust=PASS, zero_disk_secrets=PASS, network_isolation=PASS" (by decide) }

def replayPass : LayerResult :=
  { passing (text "LongitudinalReplay" (by decide)) with
    isHardInvariant := true
    summary := text "LongitudinalReplay: passed=4/4, regressions=0" (by decide) }

theorem correctness_fits : (utf8 "Correctness").length < 2 ^ 64 := by decide

theorem style_fits : (utf8 "Style").length < 2 ^ 64 := by decide

theorem performance_fits : (utf8 "Performance").length < 2 ^ 64 := by decide

theorem resourceEfficiency_fits : (utf8 "ResourceEfficiency").length < 2 ^ 64 := by decide

def workflowDraft : EvaluationReceipt :=
  ObjectiveEvaluator.evaluateCandidate sha256 workflow workflow workflow (pinnedSurroundings pinned).evaluatedAt
    (pinnedSurroundings pinned).version (passing (text "Correctness" correctness_fits)) securityPass
    (passing (text "Style" style_fits)) (passing (text "Performance" performance_fits))
    (passing (text "ResourceEfficiency" resourceEfficiency_fits)) replayPass ⟨zero, one, zero, zero, zero, 30⟩

def workflowBinding : ReceiptBindingV2 where
  subjectPath := workflow
  subjectSha256 := digestText [0x6F]
  holdoutSetSha256 := pinned
  holdoutsTotal := 1
  holdoutsPassed := 1
  policySha256 := digestText [0x7B]
  evaluatorBinarySha256 := digestText [0x7F]

def workflowBound : EvaluationReceipt := { workflowDraft with formatVersion := 2, binding := some workflowBinding }

def workflowText : Bytes := workflowBound.textV2 workflowBinding

def workflowDigested : EvaluationReceipt := { workflowBound with receiptDigest := sha256.hex workflowText }

def workflowReceipt (ecdsa : Ecdsa) (key : ecdsa.SigningKey) : EvaluationReceipt := workflowDigested.sign ecdsa key

theorem workflow_evaluated (ecdsa : Ecdsa) (key : ecdsa.SigningKey) :
    evaluateCycle plainDebug sha256 ecdsa (workflowJudge ecdsa key) workflowTrees (pinnedSurroundings pinned) workflow
      workflow workflow candidateDir parentDir = .ok (workflowReceipt ecdsa key) := by
  have preflight : v2Preflight plainDebug sha256 ecdsa (workflowJudge ecdsa key) workflowTrees workflowRequest pinned
      parentDir candidateDir = .ok (sha256.hex [0x6F]) := by
    have changed : strictChangedPaths plainDebug parentDir candidateDir (workflowTrees parentDir)
        (workflowTrees candidateDir) = .ok [".github/ci.yml"] := by decide
    have read : (workflowTrees candidateDir).read ".github/ci.yml" = some [0x6F] := by decide
    have clean : isCleanRelative ".github/ci.yml" = true := by decide
    have runs : checkExecutable plainDebug (some (.text "spark-rsi".toList)) false = .ok () := by decide
    exact v2Preflight_ok.mpr ⟨rfl, clean, List.mem_singleton_self _, rfl, runs, changed, _, read, rfl⟩
  have diff := workflow_diff
  have secure : securityResult (SecurityLayer.evaluateCandidate plainDebug.toDebug [] "" 0) = .ok securityPass := by
    decide +kernel
  have answers : holdoutViolation jailed emptyInput = none := by decide +kernel
  have runs : runHoldouts (fun _ => jailed) [emptyInput] = [none] := congrArg (fun v => [v]) answers
  have violations : List.reduceOption [(none : Option String)] = [] := rfl
  have counted : [(none : Option String)].filter Option.isNone = [none] := rfl
  have replayed : replayResult (fun _ _ => one)
      (LongitudinalReplayLayer.evaluateResults LongitudinalReplayLayer.builtinRegressionCorpus) = .ok replayPass := by
    decide +kernel
  have enough : ¬(UInt64.ofNat 1 = 0 ∨ decide (UInt64.ofNat 1 < UInt64.ofNat 1) = true) := by decide
  have fits (bytes : Bytes) : fitText (sha256.hex bytes) = .ok (digestText bytes) := fitText_ok (digestText bytes).fits
  rw [evaluateCycle]
  simp only [workflowJudge, okOr, ok_bind, pinnedSurroundings, quietSurroundings, List.flatMap_cons,
    List.flatMap_nil, List.append_nil] at preflight ⊢
  simp only [preflight, ok_bind, diff, secure, pure_bind, runs, violations, counted, List.map_nil, List.append_nil,
    replayed]
  rw [bind_pure]
  simp only [bindReceipt, ok_bind, pure_bind, sha256File, okOr, refuseIf, ne_eq, not_true, if_false,
    if_neg enough, fits, List.length_singleton]
  rfl

def workflowRun (ecdsa : Ecdsa) (key : ecdsa.SigningKey) :
    JudgeRun plainDebug sha256 ecdsa (fun _ => .ok pinnedPolicy) key where
  judge := workflowJudge ecdsa key
  trees := workflowTrees
  around := pinnedSurroundings pinned
  policyPath := [.text "policy.json".toList]
  policyBytes := [0x7B]
  file := pinnedPolicy
  subjectPath := workflow
  policySha256 := digestText [0x7B]
  cycleId := workflow
  candidateId := workflow
  parentId := workflow
  candidatePath := candidateDir
  parentPath := parentDir
  receipt := workflowReceipt ecdsa key
  loaded := pinnedPolicy_loads sha256
  signing := rfl
  bound := rfl
  returned := workflow_evaluated ecdsa key

def pinnedKey : String :=
  "0460fed4ba255a9d31c961eb74c6356d68c049b8923b61fa6ce669622e60f29fb67903fe1008b8bc99a41ae9e95628bc64f2f1b20c2d7e9f5177a3c294d4462299\n"

def gateCrates (ecdsa : Ecdsa) (judgeKey : ecdsa.VerifyingKey) : GateCrates ecdsa where
  fromSlice _ := .ok pinnedPolicy
  fromSec1Bytes bytes := if bytes = 4 :: Sha256.bigEndian 64 vectorPoint then .ok judgeKey else .error "signature error"
  hexError _ := "Odd number of digits"
  belowRatio passed _ total := passed < total
  ratio _ := "1"
  read _ := some [0x7B]

theorem pinnedKey_decodes : hexDecodeChars (TextLines.trim pinnedKey.toList) =
    some (4 :: Sha256.bigEndian 64 vectorPoint) := by decide +kernel

theorem pinnedKey_read {ecdsa : Ecdsa} (judgeKey : ecdsa.VerifyingKey)
    (decodes : ecdsa.hexDecode = fun hex => hexDecodeChars hex.toList) :
    judgeKeyOf ecdsa (gateCrates ecdsa judgeKey) pinnedKey = .ok judgeKey := by
  simp only [judgeKeyOf, decodes, String.toList_ofList, pinnedKey_decodes, okOr, ok_bind, gateCrates, if_true,
    Except.mapError]

instance : DecidableEq pairedEcdsa.VerifyingKey := inferInstanceAs (DecidableEq Nat)

theorem gate_accepts_judged_iff_workflow :
    checkV2Promotion plainDebug sha256 pairedEcdsa (gateCrates pairedEcdsa vectorPoint)
      (workflowReceipt pairedEcdsa vectorSecret) (some pinnedKey) (0 : Nat) (some [.text "policy.json".toList])
      (.same ".github/ci.yml" ".github/ci.yml" (sha256.hex [0x6F])) = .ok () := by
  have separate : (vectorPoint : pairedEcdsa.VerifyingKey) ≠ (0 : Nat) := by decide
  have read : (workflowTrees candidateDir).read ".github/ci.yml" = some [0x6F] := by decide
  refine (@gate_accepts_judged_iff _ _ _ _ _ (gateCrates pairedEcdsa vectorPoint) _ _
    (workflowRun pairedEcdsa vectorSecret) paired_pair pinnedKey (pinnedKey_read _ rfl) separate
    [.text "policy.json".toList] rfl rfl _).mpr ⟨rfl, rfl, rfl, rfl, _, read, rfl⟩

def judgedReceipt : EvaluationReceipt := workflowReceipt pairedEcdsa vectorSecret

theorem injOn_three {f : Bytes → String} {a b c : Bytes} (first : f a ≠ f b) (second : f a ≠ f c)
    (third : f b ≠ f c) : Set.InjOn f {a, b, c} := by
  intro x inX y inY same
  simp only [Set.mem_insert_iff, Set.mem_singleton_iff] at inX inY
  rcases inX with rfl | rfl | rfl <;> rcases inY with rfl | rfl | rfl <;> first | rfl | simp_all

theorem workflowText_digest :
    sha256.hex workflowText = "3bc32b2aa41178b368a0108c2c8f1992455251630b6958b94756458132c0c6cd" := by decide +kernel

theorem workflow_digests : Set.InjOn sha256.hex {workflowText, [0x6F], [0x7B]} := by
  apply injOn_three
  · rw [workflowText_digest]
    decide +kernel
  · rw [workflowText_digest]
    decide +kernel
  · decide +kernel

theorem judgedReceipt_verifies : judgedReceipt.verifySignature sha256 pairedEcdsa vectorPoint = true := by
  have same : workflowDigested.textV2 workflowBinding = workflowText :=
    EvaluationReceipt.textV2_update workflowBound _ none 2 workflowBinding
  have digest : workflowDigested.verifyDigest sha256 = true :=
    EvaluationReceipt.verifyDigest_iff.mpr (.inr ⟨rfl, workflowBinding, rfl, congrArg sha256.hex same.symm⟩)
  exact EvaluationReceipt.verifySignature_sign paired_pair digest

theorem judgedReceipt_textsV2 : judgedReceipt.textsV2 = {workflowText} := by
  have same : judgedReceipt.textV2 workflowBinding = workflowText :=
    EvaluationReceipt.textV2_update workflowBound _ _ 2 workflowBinding
  apply Set.eq_singleton_iff_unique_mem.mpr
  refine ⟨⟨workflowBinding, rfl, same.symm⟩, fun text member => ?_⟩
  obtain ⟨b, bound, hashed⟩ := member
  cases Option.some.inj bound
  exact hashed.trans same

def judgedRun : JudgeRun plainDebug sha256 pairedEcdsa (gateCrates pairedEcdsa vectorPoint).fromSlice vectorSecret :=
  workflowRun pairedEcdsa vectorSecret

theorem judgedRun_hashed : judgedRun.hashed ⊆ {workflowText, [0x6F], [0x7B]} := by
  have read : (workflowTrees candidateDir).read ".github/ci.yml" = some [0x6F] := by decide
  intro text member
  rcases member with (receipt | policy) | subject
  · change text ∈ judgedReceipt.textsV2 at receipt
    rw [judgedReceipt_textsV2] at receipt
    exact .inl receipt
  · exact .inr (.inr policy)
  · change (workflowTrees candidateDir).read ".github/ci.yml" = some text at subject
    rw [read, Option.some.injEq] at subject
    exact .inr (.inl subject.symm)

theorem judgedRun_signs : SignedByRuns (vectorPoint : pairedEcdsa.VerifyingKey) {judgedRun} judgedReceipt :=
  fun _ _ _ => ⟨judgedRun, rfl, rfl⟩

theorem judgedReceipt_accepted :
    checkV2Promotion plainDebug sha256 pairedEcdsa (gateCrates pairedEcdsa vectorPoint) judgedReceipt
      (some pinnedKey) (0 : Nat) (some [.text "policy.json".toList])
      (.same ".github/ci.yml" ".github/ci.yml" (sha256.hex [0x6F])) = .ok () := by
  have separate : (vectorPoint : pairedEcdsa.VerifyingKey) ≠ (0 : Nat) := by decide
  have read : (workflowTrees candidateDir).read ".github/ci.yml" = some [0x6F] := by decide
  obtain ⟨b, content, bound⟩ := judgedRun.exists_bound
  cases read.symm.trans bound.read
  exact checkV2Promotion_ok.mpr ⟨rfl, pinnedKey, _, _, pinnedPolicy, _, b, rfl, pinnedKey_read _ rfl, separate, rfl,
    pinnedPolicy_loads sha256, bound.covers rfl judgedReceipt_verifies rfl⟩

theorem promoted_change_judged_workflow :
    ∃ run ∈ ({judgedRun} : Set (JudgeRun _ _ _ _ _)), run.Judged judgedReceipt [.text "policy.json".toList]
      (.same ".github/ci.yml" ".github/ci.yml" (sha256.hex [0x6F])) [0x6F] := by
  refine promoted_change_judged {judgedRun} hexDecodeChars_encode pinnedKey (pinnedKey_read _ rfl) judgedReceipt
    judgedRun_signs [.text "policy.json".toList] _ [0x6F] rfl (workflow_digests.mono ?_) judgedReceipt_accepted
  rw [judgedReceipt_textsV2]
  intro text member
  rcases member with ((receipt | subject) | policy) | run
  · exact .inl receipt
  · exact .inr (.inl subject)
  · exact .inr (.inr (Option.some.inj policy).symm)
  · simp only [Set.mem_singleton_iff, Set.iUnion_iUnion_eq_left] at run
    exact judgedRun_hashed run

end Sample

end SparkRsi.Actor
