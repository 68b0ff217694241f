import SparkRsi.Actor.SubjectVerdict
import SparkRsi.Shared.Float64
import Mathlib.Data.List.ReduceOption

set_option autoImplicit false

namespace SparkRsi.Actor

open Shared Governance Evaluator Ledger

def ratioOf (ratio : F64) : Float64 := ⟨ratio.bits⟩

structure PolicyFile extends EvaluationPolicy where
  requireAdmitted : Bool
  nonInferiorityMarginPct : Option F64

def EvaluationPolicy.load (debug : JudgeDebug) (sha : HexHash) (fromSlice : Bytes → Except String PolicyFile)
    (path : PathBuf) (content : Option Bytes) : Except String (PolicyFile × String) := do
  let bytes ← okOr s!"cannot read policy file {debug.path path}: {debug.readError path}" content
  let policy ← (fromSlice bytes).mapError fun e => s!"policy file {debug.path path} is invalid: {e}"
  refuseIf (policy.requireAdmitted = false) "policy require_admitted must be true; promotion never skips admission"
  let ratio := ratioOf policy.minHoldoutPassRatio
  refuseIf (¬(Float64.zero.less ratio ∧ ratio.atMost .one)) "policy min_holdout_pass_ratio must be in (0, 1]"
  let digest := policy.holdoutSetSha256.value
  refuseIf ((utf8 digest).length ≠ 64 ∨ hexDecodeChars digest.toList = none)
    "policy holdout_set_sha256 must be 64 hex characters"
  refuseIf (∃ m ∈ policy.nonInferiorityMarginPct, ¬((ratioOf m).isFinite ∧ Float64.zero.atMost (ratioOf m)))
    "policy non_inferiority_margin_pct must be a finite non-negative number"
  refuseIf (policy.allowedTargets = []) "policy allowed_targets must name at least one file"
  -- Paths are compared as texts, so an unclean entry would not protect or allow what it appears to.
  match (policy.allowedTargets ++ policy.protectedPaths).find? fun p =>
      !isCleanRelative (String.ofList (p.toList.rdropWhile (· = '/'))) with
  | some p => .error s!"policy path {debug.text p} is not a clean relative path"
  | none => .ok (policy, sha.hex bytes)

section Runs

variable {jail : Nat → String → Except String (Bool × String × String)} {cases : List HoldoutCase}

theorem length_runHoldouts : (runHoldouts jail cases).length = cases.length := by
  rw [runHoldouts, List.length_map, List.length_zipIdx]

-- Without a violation every run is a pass.
theorem passed_of_no_violation (none : (runHoldouts jail cases).reduceOption = []) :
    ((runHoldouts jail cases).filter Option.isNone).length = cases.length := by
  cases (List.reduceOption_eq_nil_iff _).mp none with
  | intro n clean =>
    rw [← @length_runHoldouts jail cases, clean]
    simp

-- The replay layer passes only where no holdout failed.
theorem replay_passed_iff (violations : List String) :
    (LongitudinalReplayLayer.evaluateResults
      (LongitudinalReplayLayer.builtinRegressionCorpus ++ violations.map holdoutDefect)).passed = true ↔ violations = [] := by
  cases violations with
  | nil => exact iff_of_true rfl rfl
  | cons v rest =>
    apply iff_of_false
    next => simp [LongitudinalReplayLayer.evaluateResults, holdoutDefect]
    next => exact List.cons_ne_nil v rest

end Runs

section Admitted

variable (sha : HexHash) (ecdsa : Ecdsa)

/-- What an admitted receipt stands for: every layer and every holdout passed, the policy's ratio is met,
and the digest and the signature are those of this receipt. -/
structure EverythingPassed (key : ecdsa.SigningKey) (around : Surroundings) (cases : List HoldoutCase) (ratio : F64)
    (b : ReceiptBindingV2) (receipt : EvaluationReceipt) : Prop where
  layers : ∀ layer ∈ receipt.layerResults.items, layer.passed = true
  hard : receipt.passedAllHardInvariants = true
  statistical : receipt.passedStatisticalGates = true
  holdouts : b.holdoutsPassed = b.holdoutsTotal
  total : b.holdoutsTotal = UInt64.ofNat cases.length ∧ (cases.length < 2 ^ 64 → b.holdoutsTotal.toNat = cases.length)
  positive : 0 < cases.length ∧ 0 < b.holdoutsTotal
  enough : around.belowRatio b.holdoutsPassed ratio b.holdoutsTotal = false
  ratio : (ratioOf ratio).value * b.holdoutsTotal.toNat ≤ b.holdoutsPassed.toNat
  version : receipt.formatVersion = 2
  digest : receipt.receiptDigest = sha.hex (receipt.textV2 b)
  signature : receipt.signature = some ("tpm2-p256:" ++
    hexEncode (ecdsa.toBytes (ecdsa.sign key (EvaluationReceipt.digestBytes ecdsa receipt.receiptDigest))))

variable {sha ecdsa}

theorem load_ratio {debug : JudgeDebug} {fromSlice : Bytes → Except String PolicyFile} {path : PathBuf}
    {content : Option Bytes} {file : PolicyFile} {digest : String}
    (loaded : EvaluationPolicy.load debug sha fromSlice path content = .ok (file, digest)) :
    (ratioOf file.minHoldoutPassRatio).atMost .one := by
  simp only [EvaluationPolicy.load, bind_eq_ok, exists_unit, refuseIf_eq_ok] at loaded
  obtain ⟨_, -, read, -, -, range, -, -, -, found⟩ := loaded
  split at found
  next => cases found
  next =>
    cases found
    exact (not_not.mp range).2

-- What binding leaves of the unsigned receipt, and what it adds to it.
theorem bindReceipt_admitted {debug : JudgeDebug} {around : Surroundings} {key : ecdsa.SigningKey}
    {set : Text} {total passed : Nat} {receipt signed : EvaluationReceipt} {candidatePath : PathBuf}
    {req : V2Request} {subject : String}
    (bound : bindReceipt debug sha ecdsa around key set total passed receipt candidatePath req subject = .ok signed)
    (admitted : signed.admitted = true) :
    UInt64.ofNat total ≠ 0 ∧
      around.belowRatio (UInt64.ofNat passed) req.policy.minHoldoutPassRatio (UInt64.ofNat total) = false ∧
      receipt.admitted = true ∧
      ∃ b, b.holdoutsTotal = UInt64.ofNat total ∧ b.holdoutsPassed = UInt64.ofNat passed ∧
        receipt.bindAndSignV2 sha ecdsa b key = .ok signed ∧ signed.binding = some b := by
  simp only [bindReceipt, bind_eq_ok, exists_unit] at bound
  obtain ⟨_, -, _, -, -, exe, -, _, -, _, -, made⟩ := bound
  by_cases withheld : UInt64.ofNat total = 0 ∨
      around.belowRatio (UInt64.ofNat passed) req.policy.minHoldoutPassRatio (UInt64.ofNat total) = true
  next =>
    rw [if_pos withheld] at made
    cases made
    cases admitted
  next =>
    rw [if_neg withheld] at made
    rw [not_or, Bool.not_eq_true] at withheld
    have done := made
    cases made
    exact ⟨withheld.1, withheld.2, admitted, _, rfl, rfl, done, rfl⟩

/-- An admitted version 2 receipt means that everything passed, whatever the holdouts are and whatever their
runs returned. -/
theorem admitted_everything_passed (debug : JudgeDebug) (judge : BlindJudge ecdsa) (trees : PathBuf → Tree)
    (around : Surroundings) (fromSlice : Bytes → Except String PolicyFile) (policyPath : PathBuf)
    (content : Option Bytes) (file : PolicyFile) (policySha256 : String) (req : V2Request)
    (cycleId candidateId parentId : Text) (candidatePath parentPath : PathBuf) (receipt : EvaluationReceipt)
    (loaded : EvaluationPolicy.load debug sha fromSlice policyPath content = .ok (file, policySha256))
    (bound : judge.v2 = some req) (policy : req.policy = file.toEvaluationPolicy)
    (returned : evaluateCycle debug sha ecdsa judge trees around cycleId candidateId parentId candidatePath parentPath =
      .ok receipt)
    (admitted : receipt.admitted = true) :
    ∃ key suites set b, judge.signingKey = some key ∧ around.holdouts = .ok (suites, set) ∧
      receipt.binding = some b ∧
      EverythingPassed sha ecdsa key around (suites.flatMap HoldoutSuite.cases) req.policy.minHoldoutPassRatio b receipt := by
  simp only [evaluateCycle, bound, bind_eq_ok, exists_unit, okOr_eq_ok] at returned
  obtain ⟨key, signing, ⟨suites, set⟩, listed, digest, preflight, _, ⟨⟩, -,
    ⟨performance, resources, metrics⟩, -, security, -, replay, replayed, finished⟩ := returned
  simp only [bind_eq_ok, exists_unit] at finished
  obtain ⟨signed, made, -, ⟨⟩⟩ := finished
  obtain ⟨counted, enough, before, b, total, passed, signs, binding⟩ := bindReceipt_admitted made admitted
  -- The admission before binding is the conjunction of the six layers.
  simp only [ObjectiveEvaluator.evaluateCandidate, Bool.and_eq_true] at before
  have clean := (replay_passed_iff _).mp ((replayResult_ok replayed).symm.trans before.1.2)
  have all := passed_of_no_violation clean
  rw [all] at passed enough
  refine ⟨key, suites, set, b, signing, listed, binding, ?_⟩
  cases signs
  have same : b.holdoutsPassed = b.holdoutsTotal := passed.trans total.symm
  constructor
  case layers =>
    intro layer member
    simp only [EvaluationReceipt.sign, ObjectiveEvaluator.evaluateCandidate, List.mem_cons,
      List.not_mem_nil, or_false] at member
    rcases member with rfl | rfl | rfl | rfl | rfl | rfl
    · exact before.1.1.1.1
    · exact before.1.1.1.2
    · exact before.1.1.2
    · exact before.2.1
    · exact before.2.2
    · exact before.1.2
  case hard =>
    simp only [EvaluationReceipt.sign, ObjectiveEvaluator.evaluateCandidate, Bool.and_eq_true]
    exact before.1
  case statistical =>
    simp only [EvaluationReceipt.sign, ObjectiveEvaluator.evaluateCandidate, Bool.and_eq_true]
    exact before.2
  case holdouts => exact same
  case total => exact ⟨total, fun fits => by rw [total, UInt64.toNat_ofNat_of_lt' fits]⟩
  case positive =>
    constructor
    next =>
      apply Nat.pos_of_ne_zero
      intro empty
      rw [empty] at counted
      exact counted rfl
    next =>
      rw [total]
      exact UInt64.pos_iff_ne_zero.mpr counted
  case enough =>
    rw [total, passed]
    exact enough
  case ratio =>
    have most := Float64.value_le_one (policy ▸ load_ratio loaded)
    rw [same]
    exact mul_le_of_le_one_left (Nat.cast_nonneg _) most
  case version => rfl
  case digest => rfl
  case signature => rfl

end Admitted

section Sample

def pinned : Text := text "e3b0c44298fc1c149afbf4c8996fb92427ae41e4649b934ca495991b7852b855" (by decide)

def pinnedPolicy : PolicyFile :=
  { (pinnedRequest pinned).policy with
    requireAdmitted := true
    nonInferiorityMarginPct := none }

theorem pinnedPolicy_loads (sha : HexHash) :
    EvaluationPolicy.load plainDebug sha (fun _ => .ok pinnedPolicy) [.text "policy.json".toList] (some [0x7B]) =
      .ok (pinnedPolicy, sha.hex [0x7B]) := by
  have ratio : Float64.zero.less (ratioOf one) ∧ (ratioOf one).atMost .one := by decide
  have hexadecimal : ¬((utf8 pinned.value).length ≠ 64 ∨ hexDecodeChars pinned.value.toList = none) := by
    decide +kernel
  have clean : [".github/ci.yml"].find? (fun p =>
      !isCleanRelative (String.ofList (p.toList.rdropWhile (· = '/')))) = none := by decide
  simp only [EvaluationPolicy.load, okOr, Except.mapError, ok_bind, refuseIf, pinnedPolicy, pinnedRequest,
    subjectRequest, workflow, text, if_neg hexadecimal, ratio, List.append_nil, clean]
  simp

theorem admitted_everything_passed_workflow : ∃ receipt,
    evaluateCycle plainDebug sha256 _ (pinnedJudge pinned) workflowTrees (pinnedSurroundings pinned) workflow workflow
      workflow candidateDir parentDir = .ok receipt ∧ receipt.admitted = true ∧
    ∃ key suites set b, (pinnedJudge pinned).signingKey = some key ∧
      (pinnedSurroundings pinned).holdouts = .ok (suites, set) ∧ receipt.binding = some b ∧
      EverythingPassed sha256 _ key (pinnedSurroundings pinned) (suites.flatMap HoldoutSuite.cases) one b receipt := by
  cases workflow_returns sha256 pinned with
  | intro receipt returned =>
    exact ⟨receipt, returned.1, returned.2, admitted_everything_passed plainDebug (pinnedJudge pinned) workflowTrees
      (pinnedSurroundings pinned) (fun _ => .ok pinnedPolicy) _ _ pinnedPolicy _ (pinnedRequest pinned) workflow workflow
      workflow candidateDir parentDir receipt (pinnedPolicy_loads sha256) rfl rfl returned.1 returned.2⟩

end Sample

end SparkRsi.Actor
