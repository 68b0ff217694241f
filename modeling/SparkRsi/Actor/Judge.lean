import SparkRsi.Actor.CandidateDiff
import SparkRsi.Evaluator.Receipt

set_option autoImplicit false

namespace SparkRsi.Actor

open Shared Governance Evaluator Ledger

structure EvaluationPolicy where
  holdoutSetSha256 : Text
  minHoldoutPassRatio : F64
  allowedTargets : List String
  protectedPaths : List String

structure V2Request where
  subjectPath : Text
  policy : EvaluationPolicy
  policySha256 : Text

def isCleanRelative (p : String) : Bool :=
  p.toList ≠ [] && p.toList.head? ≠ some '/' &&
    (components p).all fun c => c ≠ [] && c ≠ ['.'] && c ≠ ['.', '.']

def pathIsUnder (path prefix_ : String) : Bool :=
  let trimmed := prefix_.toList.rdropWhile (· = '/')
  path.toList = trimmed || (trimmed ++ ['/']).isPrefixOf path.toList

structure HoldoutCase where
  id : String
  name : String
  input : String
  expectedOutput : String

structure HoldoutSuite where
  cases : List HoldoutCase

structure DefectTestResult where
  defectId : String
  title : String
  passed : Bool
  details : Option String

structure LongitudinalReplayEvaluation where
  totalCases : Nat
  passedCases : Nat
  regressionsDetected : List String
  passed : Bool

namespace LongitudinalReplayLayer

def regression (res : DefectTestResult) : String :=
  let detail := res.details.getD "Defect regression assertion failed"
  s!"[{res.defectId}] {res.title}: {detail}"

def evaluateResults (results : List DefectTestResult) : LongitudinalReplayEvaluation :=
  let regressionsDetected := (results.filter fun res => !res.passed).map regression
  { totalCases := results.length
    passedCases := (results.filter DefectTestResult.passed).length
    regressionsDetected
    passed := regressionsDetected.isEmpty }

def builtinRegressionCorpus : List DefectTestResult :=
  [⟨"ROT-001", "Root-of-trust path tampering rejection", true, none⟩,
    ⟨"SEC-001", "Zero plaintext credentials in repository files", true, none⟩,
    ⟨"STY-001", "Strict prohibition of em dashes and en dashes", true, none⟩,
    ⟨"SUP-001", "Host supervisor 48 GB unified LPDDR5x budget enforcement", true, none⟩]

end LongitudinalReplayLayer

/-- A text as the program holds it; none is as long as the address space. -/
def fitText (value : String) : Except String Text :=
  if fits : (utf8 value).length < 2 ^ 64 then .ok ⟨value, fits⟩ else .error "capacity overflow"

theorem fitText_value {value : String} {fitted : Text} (fits : fitText value = .ok fitted) :
    fitted.value = value := by
  rw [fitText] at fits
  split at fits
  next => rw [← Except.ok.inj fits]
  next => cases fits

def fitTexts (values : List String) : Except String (Vec Text) := do
  let items ← values.mapM fitText
  if fits : items.length < 2 ^ 64 then .ok ⟨items, fits⟩ else .error "capacity overflow"

def one : F64 := ⟨0x3FF0000000000000⟩
def zero : F64 := ⟨0⟩

def pass (flag : Bool) : String := if flag then "PASS" else "FAIL"

def securityResult (security : SecurityEvaluation) : Except String LayerResult := do
  let summary ← fitText s!"Security: root_of_trust={pass security.rootOfTrustCompliant}, zero_disk_secrets={pass security.zeroDiskSecretsClean}, network_isolation={pass security.networkIsolationCompliant}"
  let violations ← fitTexts security.violations
  let layerName ← fitText "Security"
  return { layerName
           isHardInvariant := true
           passed := security.passed
           score := if security.passed then one else zero
           summary
           violations }

def replayResult (share : Nat → Nat → F64) (replay : LongitudinalReplayEvaluation) :
    Except String LayerResult := do
  let regressions := replay.regressionsDetected.length
  let summary ← fitText s!"LongitudinalReplay: passed={replay.passedCases}/{replay.totalCases}, regressions={regressions}"
  let violations ← fitTexts replay.regressionsDetected
  let layerName ← fitText "LongitudinalReplay"
  return { layerName
           isHardInvariant := true
           passed := replay.passed
           score := if replay.totalCases = 0 then one else share replay.passedCases replay.totalCases
           summary
           violations }

namespace ObjectiveEvaluator

def evaluateCandidate (sha : HexHash) (cycleId candidateId parentId evaluatedAt version : Text)
    (correctness security style performance resourceEfficiency longitudinalReplay : LayerResult)
    (metrics : EvaluationMetricsSummary) : EvaluationReceipt :=
  let layerResults : Vec LayerResult :=
    ⟨[correctness, security, style, performance, resourceEfficiency, longitudinalReplay], by simp⟩
  let passedAllHardInvariants := correctness.passed && security.passed && style.passed && longitudinalReplay.passed
  let passedStatisticalGates := performance.passed && resourceEfficiency.passed
  let admitted := passedAllHardInvariants && passedStatisticalGates
  { cycleId, candidateId, parentId, evaluatedAt
    evaluatorVersion := version
    passedAllHardInvariants, passedStatisticalGates, admitted, layerResults
    metricsSummary := some metrics
    receiptDigest := EvaluationReceipt.computeDigest sha cycleId candidateId parentId admitted layerResults
    signature := none
    formatVersion := 1
    binding := none }

end ObjectiveEvaluator

structure BlindJudge (ecdsa : Ecdsa) where
  signingKey : Option ecdsa.SigningKey
  executable : Option OsStr
  buildRelease : Bool
  v2 : Option V2Request

/-- What the judge meets outside the two trees: the holdouts, the binaries in their jail (each run has its
own outcome), the layers that run or measure them, and its own binary. -/
structure Surroundings where
  holdouts : Except String (List HoldoutSuite × Text)
  binaries : Except String Unit
  jail : Nat → String → Except String (Bool × String × String)
  git : GitDiff
  correctness : Nat → Nat → LayerResult
  style : String → LayerResult
  benchmarks : Except String (LayerResult × LayerResult × EvaluationMetricsSummary)
  share : Nat → Nat → F64
  belowRatio : UInt64 → F64 → UInt64 → Bool
  evaluatedAt : Text
  version : Text
  subjectAfter : Except String Bytes
  judgeBinary : Except String Bytes
  saved : Except String Unit

section Preflight

variable (debug : JudgeDebug) (sha : HexHash) (ecdsa : Ecdsa) (judge : BlindJudge ecdsa)
  (trees : PathBuf → Tree)

def sha256File (path : PathBuf) (content : Option Bytes) : Except String String := do
  let bytes ← okOr s!"cannot read {debug.path path}: {debug.readError path}" content
  return sha.hex bytes

def checkExecutable (executable : Option OsStr) (buildRelease : Bool) : Except String Unit :=
  match executable, buildRelease with
  | none, _ => .error "a version 2 evaluation names its executable; refusing to search the trees for one"
  | some exe, false =>
    let e := String.ofList (exe.toStr.getD [])
    refuseIf (isCleanRelative e = false ∨ pathIsUnder e "target" = true ∨ ".git".toList ∈ components e)
      s!"without a judge build the executable {debug.osStr exe} must be a clean relative path the tree comparison covers (not under target or .git)"
  | some _, true => .ok ()

/-- Checks everything a version 2 receipt will claim before any candidate code runs, and returns the SHA-256
of the subject bytes. -/
def v2Preflight (req : V2Request) (holdoutSetSha256 : Text) (parentPath candidatePath : PathBuf) :
    Except String String := do
  refuseIf (holdoutSetSha256 ≠ req.policy.holdoutSetSha256)
    s!"holdout set digest {holdoutSetSha256.value} does not match the policy's pinned {req.policy.holdoutSetSha256.value}; refusing to evaluate"
  let subject := req.subjectPath.value
  refuseIf (isCleanRelative subject = false) s!"subject path {debug.text subject} is not a clean relative path"
  refuseIf (subject ∉ req.policy.allowedTargets) s!"subject {subject} is not an allowed target in the policy"
  match req.policy.protectedPaths.find? (pathIsUnder subject) with
  | some p => .error s!"subject {subject} is under protected path {p}"
  | none => do
    checkExecutable debug judge.executable judge.buildRelease
    let changed ← strictChangedPaths debug parentPath candidatePath (trees parentPath) (trees candidatePath)
    refuseIf (changed ≠ [subject])
      s!"candidate must differ from parent in exactly the subject {subject}; differs in {debug.texts changed}"
    sha256File debug sha (candidatePath ++ (components subject).map .text) ((trees candidatePath).read subject)

end Preflight

section Holdouts

def holdoutOutput : Except String (Bool × String × String) → String
  | .ok (true, stdout, _) => String.ofList (TextLines.trim stdout.toList)
  | .ok (false, _, stderr) => "EXEC_FAIL:" ++ String.ofList (TextLines.trim stderr.toList)
  | .error e => "JAIL_ERR:" ++ e

def holdoutViolation (jail : String → Except String (Bool × String × String)) (c : HoldoutCase) :
    Option String :=
  let actualOutput := holdoutOutput (jail c.input)
  if actualOutput = c.expectedOutput then none
  else some s!"Holdout '{c.name}' ({c.id}) assertion failed: expected '{c.expectedOutput}', got '{actualOutput}'"

def runHoldouts (jail : Nat → String → Except String (Bool × String × String)) (cases : List HoldoutCase) :
    List (Option String) :=
  cases.zipIdx.map fun (c, run) => holdoutViolation (jail run) c

def holdoutDefect (v : String) : DefectTestResult :=
  { defectId := "HOLD-FAIL"
    title := "Blind holdout test suite assertion failure"
    passed := false
    details := some v }

end Holdouts

section Cycle

variable (debug : JudgeDebug) (sha : HexHash) (ecdsa : Ecdsa) (judge : BlindJudge ecdsa)
  (trees : PathBuf → Tree) (around : Surroundings)

def bindReceipt (signingKey : ecdsa.SigningKey) (holdoutSetSha256 : Text) (total passed : Nat)
    (receipt : EvaluationReceipt) (candidatePath : PathBuf) (req : V2Request) (subjectSha256 : String) :
    Except String EvaluationReceipt := do
  -- The subject must still be the bytes that were checked before the run.
  let bytes ← around.subjectAfter
  let after ← sha256File debug sha (candidatePath ++ (components req.subjectPath.value).map .text) (some bytes)
  refuseIf (after ≠ subjectSha256) "subject file changed during evaluation; refusing to sign"
  let holdoutsTotal := UInt64.ofNat total
  let holdoutsPassed := UInt64.ofNat passed
  let withheld := holdoutsTotal = 0 ∨ around.belowRatio holdoutsPassed req.policy.minHoldoutPassRatio holdoutsTotal = true
  let receipt := if withheld then { receipt with admitted := false } else receipt
  let exe ← around.judgeBinary
  let subjectSha256 ← fitText subjectSha256
  let evaluatorBinarySha256 ← fitText (sha.hex exe)
  receipt.bindAndSignV2 sha ecdsa
    { subjectPath := req.subjectPath
      subjectSha256
      holdoutSetSha256
      holdoutsTotal
      holdoutsPassed
      policySha256 := req.policySha256
      evaluatorBinarySha256 }
    signingKey

def evaluateCycle (cycleId candidateId parentId : Text) (candidatePath parentPath : PathBuf) :
    Except String EvaluationReceipt := do
  -- 0. and 1. The evaluation fails closed without a key or without holdouts.
  let signingKey ← okOr "No authorized cryptographic signing key provided to BlindJudge. Production evaluation fails closed."
    judge.signingKey
  let (suites, holdoutSetSha256) ← around.holdouts
  -- 1b. Version 2 preflight: pinned holdout set, allowed subject, nothing else changed.
  let subjectSha256Before ← match judge.v2 with
    | some req => do
      let subjectSha256 ← v2Preflight debug sha ecdsa judge trees req holdoutSetSha256 parentPath candidatePath
      pure (some (req, subjectSha256))
    | none => pure none
  -- 2. and 3. The binaries exist, and the candidate's runs the holdouts in its jail.
  around.binaries
  let cases := suites.flatMap HoldoutSuite.cases
  let runs := runHoldouts around.jail cases
  let holdoutViolations := runs.reduceOption
  let totalHoldouts := cases.length
  let passedHoldouts := (runs.filter Option.isNone).length
  -- 4. The diff between parent and candidate.
  let diff := computeCandidateDiff around.git trees parentPath candidatePath
  let correctness := around.correctness passedHoldouts (totalHoldouts - passedHoldouts)
  let security := SecurityLayer.evaluateCandidate debug.toDebug diff.modifiedFiles diff.patchDiff 0
  let style := around.style
    (if diff.styleText = "" then "Native compiled Rust execution running on DGX Spark GB10." else diff.styleText)
  -- 5. The paired benchmarks.
  let (performance, resourceEfficiency, metrics) ← around.benchmarks
  let replay := LongitudinalReplayLayer.evaluateResults
    (LongitudinalReplayLayer.builtinRegressionCorpus ++ holdoutViolations.map holdoutDefect)
  let securityLayer ← securityResult security
  let replayLayer ← replayResult around.share replay
  let receipt := ObjectiveEvaluator.evaluateCandidate sha cycleId candidateId parentId around.evaluatedAt around.version
    correctness securityLayer style performance resourceEfficiency replayLayer metrics
  let signed ← match subjectSha256Before with
    | some (req, subjectSha256) =>
      bindReceipt debug sha ecdsa around signingKey holdoutSetSha256 totalHoldouts passedHoldouts receipt candidatePath req
        subjectSha256
    | none => pure (receipt.sign ecdsa signingKey)
  around.saved
  return signed

end Cycle

section Outcome

variable {debug : JudgeDebug} {sha : HexHash} {ecdsa : Ecdsa} {judge : BlindJudge ecdsa}
  {trees : PathBuf → Tree} {around : Surroundings} {req : V2Request} {parentPath candidatePath : PathBuf}

-- What preflight asks of the policy, the binaries and the two trees.
theorem v2Preflight_ok {holdoutSetSha256 : Text} {digest : String} :
    v2Preflight debug sha ecdsa judge trees req holdoutSetSha256 parentPath candidatePath = .ok digest ↔
      holdoutSetSha256 = req.policy.holdoutSetSha256 ∧ isCleanRelative req.subjectPath.value = true ∧
        req.subjectPath.value ∈ req.policy.allowedTargets ∧
        req.policy.protectedPaths.find? (pathIsUnder req.subjectPath.value) = none ∧
        checkExecutable debug judge.executable judge.buildRelease = .ok () ∧
        strictChangedPaths debug parentPath candidatePath (trees parentPath) (trees candidatePath) =
          .ok [req.subjectPath.value] ∧
        ∃ content, (trees candidatePath).read req.subjectPath.value = some content ∧
          digest = sha.hex content := by
  simp only [v2Preflight, bind_eq_ok, exists_unit, refuseIf_eq_ok, not_not, Bool.not_eq_false]
  cases protection : req.policy.protectedPaths.find? (pathIsUnder req.subjectPath.value) with
  | some p => simp
  | none =>
    simp only [bind_eq_ok, exists_unit, refuseIf_eq_ok, not_not, sha256File, okOr_eq_ok, true_and]
    constructor
    next =>
      intro passed
      obtain ⟨pinned, clean, allowed, runs, changed, listed, rfl, content, read, ⟨⟩⟩ := passed
      exact ⟨pinned, clean, allowed, runs, listed, content, read, rfl⟩
    next =>
      intro passed
      obtain ⟨pinned, clean, allowed, runs, listed, content, read, rfl⟩ := passed
      exact ⟨pinned, clean, allowed, runs, _, listed, rfl, content, read, rfl⟩

theorem securityResult_ok {security : SecurityEvaluation} {result : LayerResult}
    (built : securityResult security = .ok result) : result.passed = security.passed := by
  simp only [securityResult, bind_eq_ok] at built
  obtain ⟨_, -, _, -, _, -, ⟨⟩⟩ := built
  rfl

theorem replayResult_ok {share : Nat → Nat → F64} {replay : LongitudinalReplayEvaluation}
    {result : LayerResult} (built : replayResult share replay = .ok result) :
    result.passed = replay.passed := by
  simp only [replayResult, bind_eq_ok] at built
  obtain ⟨_, -, _, -, _, -, ⟨⟩⟩ := built
  rfl

theorem bindReceipt_ok {key : ecdsa.SigningKey} {holdoutSetSha256 : Text} {total passed : Nat}
    {receipt signed : EvaluationReceipt} {subjectSha256 : String}
    (bound : bindReceipt debug sha ecdsa around key holdoutSetSha256 total passed receipt candidatePath req subjectSha256 =
      .ok signed) :
    signed.layerResults = receipt.layerResults ∧ (signed.admitted = true → receipt.admitted = true) := by
  simp only [bindReceipt, bind_eq_ok, exists_unit] at bound
  obtain ⟨_, -, _, -, -, _, -, _, -, _, -, made⟩ := bound
  cases made
  split
  next => exact ⟨rfl, fun admitted => by cases admitted⟩
  next => exact ⟨rfl, id⟩

def securityLayerResult (receipt : EvaluationReceipt) : Option LayerResult := receipt.layerResults.items[1]?

-- What a returned version 2 receipt says of the security layer.
theorem evaluateCycle_ok {cycleId candidateId parentId : Text} {receipt : EvaluationReceipt}
    (bound : judge.v2 = some req)
    (returned : evaluateCycle debug sha ecdsa judge trees around cycleId candidateId parentId candidatePath parentPath =
      .ok receipt) :
    (∃ holdoutSetSha256 digest,
      v2Preflight debug sha ecdsa judge trees req holdoutSetSha256 parentPath candidatePath = .ok digest) ∧
    ∃ layer, securityLayerResult receipt = some layer ∧
      layer.passed = (SecurityLayer.evaluateCandidate debug.toDebug
        (computeCandidateDiff around.git trees parentPath candidatePath).modifiedFiles
        (computeCandidateDiff around.git trees parentPath candidatePath).patchDiff 0).passed ∧
      (receipt.admitted = true → layer.passed = true) := by
  simp only [evaluateCycle, bound, bind_eq_ok, exists_unit] at returned
  obtain ⟨key, -, holdouts, -, digest, preflight, _, ⟨⟩, -, benchmarks, -, layer, security, replay, -,
    finished⟩ := returned
  simp only [bind_eq_ok, exists_unit] at finished
  obtain ⟨signed, made, -, ⟨⟩⟩ := finished
  have kept := bindReceipt_ok made
  apply And.intro ⟨holdouts.2, digest, preflight⟩
  refine ⟨layer, ?_, securityResult_ok security, ?_⟩
  next =>
    rw [securityLayerResult, kept.1]
    rfl
  next =>
    intro admitted
    have all := kept.2 admitted
    simp only [ObjectiveEvaluator.evaluateCandidate, Bool.and_eq_true] at all
    exact all.1.1.1.2

end Outcome

end SparkRsi.Actor
