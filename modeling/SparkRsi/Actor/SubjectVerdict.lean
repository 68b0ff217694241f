import SparkRsi.Actor.Judge
import SparkRsi.Shared.Sha256

set_option autoImplicit false

namespace SparkRsi.Actor

open Shared Governance Evaluator Ledger

section Permission

variable {debug : JudgeDebug} {s : String}

theorem resolve_named {path : String} {comps : List (List Char)}
    (named : ∀ c ∈ comps, c ≠ [] ∧ c ≠ ['.'] ∧ c ≠ ['.', '.']) (stack : List (List Char)) :
    RootOfTrust.resolve debug.toDebug path stack comps = .ok (comps.reverse ++ stack) := by
  induction comps generalizing stack with
  | nil => rfl
  | cons comp rest ih =>
    rw [List.forall_mem_cons] at named
    have here := named.1
    unfold RootOfTrust.resolve
    rw [if_neg (by tauto), if_neg here.2.2, ih named.2]
    simp

theorem isCleanRelative_iff : isCleanRelative s = true ↔
    s.toList ≠ [] ∧ s.toList.head? ≠ some '/' ∧ ∀ c ∈ components s, c ≠ [] ∧ c ≠ ['.'] ∧ c ≠ ['.', '.'] := by
  simp [isCleanRelative, and_assoc]

-- Tier 0 may write a clean path unless it is protected.
theorem assertPatchPermitted_iff (clean : isCleanRelative s = true) :
    RootOfTrust.assertPatchPermitted debug.toDebug s 0 = .ok () ↔
      ¬RootOfTrust.isProtectedPath debug.toDebug s = true := by
  have parts := isCleanRelative_iff.mp clean
  have normal : (∃ e, RootOfTrust.normalizeStrict debug.toDebug s = .error e) ∨
      RootOfTrust.normalizeStrict debug.toDebug s = .ok s := by
    by_cases odd : '\\' ∈ s.toList ∨ Char.ofNat 0 ∈ s.toList
    next =>
      left
      simp [RootOfTrust.normalizeStrict, refuseIf, odd, bind, Except.bind]
    next =>
      right
      simp only [RootOfTrust.normalizeStrict, refuseIf, if_neg odd, ok_bind, resolve_named parts.2.2,
        List.append_nil, List.reverse_reverse]
      exact congrArg Except.ok (joinComponents_components s)
  cases normal with
  | inl refused =>
    obtain ⟨e, refused⟩ := refused
    have guarded : RootOfTrust.isProtectedPath debug.toDebug s = true := by
      rw [RootOfTrust.isProtectedPath, refused]
    simp [RootOfTrust.assertPatchPermitted, refused, guarded, Except.mapError, bind, Except.bind]
  | inr plain =>
    simp only [RootOfTrust.assertPatchPermitted, plain, Except.mapError, ok_bind, refuseIf_eq_ok]
    simp

end Permission

section Verdict

variable (debug : JudgeDebug)

def Bad (parent candidate : Tree) (s : String) : Prop :=
  RootOfTrust.isProtectedPath debug.toDebug s = true ∨
    ∃ content, candidate.read s = some content ∧ GainsForbidden (parent.read s) content

structure Caught (receipt : EvaluationReceipt) : Prop where
  failed : ∃ layer, securityLayerResult receipt = some layer ∧ layer.passed = false
  withheld : receipt.admitted = false

/-- The diff comes to the subject, and shows what it holds: the parent has something there, or its path or
its text gives it away. -/
structure Seen (parent candidate : Tree) (s : String) : Prop where
  visible : Kept keepsVisible true (components s)
  differs : ¬(candidate.read s = some [] ∧ parent.pathExists s = true ∧ parent.read s = none)
  shown : parent.pathExists s = true ∨ RootOfTrust.isProtectedPath debug.toDebug s = true ∨
    (∃ text, candidate.read s = some (utf8 text)) ∨ ∃ pattern ∈ SecurityLayer.forbidden, pattern.toList <:+: s.toList

variable {debug} {parent candidate : Tree} {s : String} {content : Bytes}

theorem shows_iff (clean : isCleanRelative s = true) (subject : Subject parent candidate s content)
    (bad : Bad debug parent candidate s) :
    (∃ change, candidateChange parent (s, content) = some change ∧ Shows debug s change) ↔
      ¬(content = [] ∧ parent.pathExists s = true ∧ parent.read s = none) ∧
        (parent.pathExists s = true ∨ RootOfTrust.isProtectedPath debug.toDebug s = true ∨
          (∃ text, content = utf8 text) ∨ ∃ pattern ∈ SecurityLayer.forbidden, pattern.toList <:+: s.toList) := by
  have gains : RootOfTrust.isProtectedPath debug.toDebug s = true ∨
      GainsForbidden (parent.read s) content := by
    cases bad with
    | inl guarded => exact Or.inl guarded
    | inr gained =>
      obtain ⟨bytes, read, found⟩ := gained
      cases subject.read.symm.trans read
      exact Or.inr found
  by_cases fresh : parent.pathExists s = false
  next =>
    rw [shows_new fresh, assertPatchPermitted_iff clean, not_not]
    simp only [fresh, Bool.false_eq_true, false_and, and_false, not_false_eq_true, true_and, false_or,
      fromUtf8_eq_some]
    constructor
    next =>
      intro shown
      rcases shown with guarded | ⟨pattern, listed, inPath | ⟨text, spelled, -⟩⟩
      · exact Or.inl guarded
      · exact Or.inr (Or.inr ⟨pattern, listed, inPath⟩)
      · exact Or.inr (Or.inl ⟨text, spelled⟩)
    next =>
      intro shown
      rcases shown with guarded | ⟨text, spelled⟩ | ⟨pattern, listed, inPath⟩
      · exact Or.inl guarded
      · cases gains with
        | inl guarded => exact Or.inl guarded
        | inr gained =>
          obtain ⟨pattern, listed, found, -⟩ := gained
          exact Or.inr ⟨pattern, listed, Or.inr ⟨text, spelled, found⟩⟩
      · exact Or.inr ⟨pattern, listed, Or.inl inPath⟩
  next =>
    have there : parent.pathExists s = true := by simpa using fresh
    simp only [there, true_and, true_or, and_true]
    constructor
    next =>
      intro shows empty
      obtain ⟨change, made, -⟩ := shows
      rw [candidateChange, if_neg fresh, if_pos (by rw [empty.1, empty.2]; rfl)] at made
      cases made
    next =>
      intro other
      apply shows_changed fresh
      next =>
        intro same
        cases before : parent.read s with
        | none => exact other ⟨by rw [same, before]; rfl, before⟩
        | some bytes =>
          rw [before, Option.getD_some] at same
          have unchanged := subject.here (by rw [before, subject.read, same])
          rw [before] at unchanged
          cases unchanged
      next => rwa [assertPatchPermitted_iff clean, not_not]

/-- A bad subject is caught exactly when it is seen: none of its names is hidden from the scan, it is not an
empty file in place of an empty directory, and a new file that is bad only for its bytes is UTF-8 or carries
a forbidden text in its path. -/
theorem subject_caught_iff (debug : JudgeDebug) (sha : HexHash) (ecdsa : Ecdsa) (judge : BlindJudge ecdsa)
    (trees : PathBuf → Tree) (formed : ∀ path, (trees path).WellFormed) (around : Surroundings)
    (req : V2Request) (bound : judge.v2 = some req) (cycleId candidateId parentId : Text)
    (candidatePath parentPath : PathBuf) (receipt : EvaluationReceipt)
    (returned : evaluateCycle debug sha ecdsa judge trees around cycleId candidateId parentId candidatePath parentPath =
      .ok receipt) :
    (Bad debug (trees parentPath) (trees candidatePath) req.subjectPath.value → Caught receipt) ↔
      (Bad debug (trees parentPath) (trees candidatePath) req.subjectPath.value →
        Seen debug (trees parentPath) (trees candidatePath) req.subjectPath.value) := by
  obtain ⟨⟨_, digest, preflight⟩, layer, placed, verdict, admits⟩ := evaluateCycle_ok bound returned
  obtain ⟨-, clean, -, -, -, changed, content, read, -⟩ := v2Preflight_ok.mp preflight
  obtain ⟨differ, ⟨p, parentWalked⟩, c, candidateWalked⟩ :=
    strictChangedPaths_single (formed parentPath) (formed candidatePath) changed
  have subject : Subject (trees parentPath) (trees candidatePath) req.subjectPath.value content :=
    ⟨differ, read⟩
  have apart : parentPath ≠ candidatePath := by
    intro same
    have unread := differ.here (by rw [same])
    rw [same, read] at unread
    cases unread
  have passed := security_passed_iff (formed parentPath) (formed candidatePath) subject parentWalked candidateWalked apart
    around.git
  apply imp_congr_right
  intro bad
  have shows := shows_iff clean subject bad
  have failed : layer.passed = false ↔ Kept keepsVisible true (components req.subjectPath.value) ∧
      ∃ change, candidateChange (trees parentPath) (req.subjectPath.value, content) = some change ∧
        Shows debug req.subjectPath.value change := by
    rw [verdict, ← Bool.not_eq_true, passed]
    simp only [Shows, not_forall, not_and_or, exists_prop, not_not]
  constructor
  next =>
    intro caught
    obtain ⟨⟨other, there, refused⟩, -⟩ := caught
    rw [placed] at there
    cases there
    obtain ⟨visible, here⟩ := failed.mp refused
    have facts := shows.mp here
    refine ⟨visible, ?_, ?_⟩
    next => simpa only [read, Option.some.injEq] using facts.1
    next => simpa only [read, Option.some.injEq] using facts.2
  next =>
    intro seen
    have differs := seen.differs
    have shown := seen.shown
    simp only [read, Option.some.injEq] at differs shown
    have refused := failed.mpr ⟨seen.visible, shows.mpr ⟨differs, shown⟩⟩
    refine ⟨⟨layer, placed, refused⟩, ?_⟩
    rw [← Bool.not_eq_true]
    intro admitted
    rw [admits admitted] at refused
    cases refused


end Verdict

section Sample

def plainDebug : JudgeDebug :=
  { text := id
    texts := fun _ => ""
    osStr := fun _ => ""
    path := fun _ => ""
    readError := fun _ => "No such file or directory (os error 2)" }

def text (value : String) (fits : (utf8 value).length < 2 ^ 64) : Text := ⟨value, fits⟩

def subjectRequest (subject : Text) : V2Request :=
  { subjectPath := subject
    policy :=
      { holdoutSetSha256 := text "5a" (by decide)
        minHoldoutPassRatio := one
        allowedTargets := [subject.value]
        protectedPaths := [] }
    policySha256 := text "77" (by decide) }

def passing (name : Text) : LayerResult :=
  { layerName := name, isHardInvariant := true, passed := true, score := one, summary := name, violations := ⟨[], Nat.two_pow_pos 64⟩ }

def emptyInput : HoldoutCase := ⟨"INV-01", "Empty input handling", "", "EMPTY_OK"⟩

def jailed (_ : String) : Except String (Bool × String × String) := .ok (true, "EMPTY_OK\n", "")

def quietSurroundings (content : Bytes) : Surroundings :=
  { holdouts := .ok ([⟨[emptyInput]⟩], text "5a" (by decide))
    binaries := .ok ()
    jail := fun _ => jailed
    git := { repository := false, patch := none, names := none }
    correctness := fun _ _ => passing (text "Correctness" (by decide))
    style := fun _ => passing (text "Style" (by decide))
    benchmarks := .ok (passing (text "Performance" (by decide)), passing (text "ResourceEfficiency" (by decide)),
      ⟨zero, one, zero, zero, zero, 30⟩)
    share := fun _ _ => one
    belowRatio := fun passed _ total => passed < total
    evaluatedAt := text "2025-01-01T00:00:00+00:00" (by decide)
    version := text "0.1.0" (by decide)
    subjectAfter := .ok content
    judgeBinary := .ok [0x7F]
    saved := .ok () }

def judgeKey : (Ecdsa.single 0 0 [] []).SigningKey := (0 : Nat)

def namedJudge (subject : Text) : BlindJudge (Ecdsa.single 0 0 [] []) :=
  { signingKey := some judgeKey
    executable := some (.text "spark-rsi".toList)
    buildRelease := false
    v2 := some (subjectRequest subject) }

def parentTree : Tree := .file (.text "spark-rsi".toList) [0x7F] .empty

def parentDir : PathBuf := [.text "parent".toList]

def candidateDir : PathBuf := [.text "candidate".toList]

def workflowTrees (path : PathBuf) : Tree :=
  if path = candidateDir then
    .dir (.text ".github".toList) (.file (.text "ci.yml".toList) [0x6F] .empty) parentTree
  else parentTree

def workflow : Text := text ".github/ci.yml" (by decide)

def pinnedRequest (set : Text) : V2Request :=
  { subjectRequest workflow with policy := { (subjectRequest workflow).policy with holdoutSetSha256 := set } }

def pinnedJudge (set : Text) : BlindJudge (Ecdsa.single 0 0 [] []) :=
  { namedJudge workflow with v2 := some (pinnedRequest set) }

def pinnedSurroundings (set : Text) : Surroundings :=
  { quietSurroundings [0x6F] with holdouts := .ok ([⟨[emptyInput]⟩], set) }

variable (sha : HexHash) (set : Text)

theorem workflow_preflight :
    v2Preflight plainDebug sha _ (pinnedJudge set) workflowTrees (pinnedRequest set) set parentDir
    candidateDir = .ok (sha.hex [0x6F]) := by
  apply v2Preflight_ok.mpr
  have changed : strictChangedPaths plainDebug parentDir candidateDir (workflowTrees parentDir)
      (workflowTrees candidateDir) = .ok [".github/ci.yml"] := by decide
  have read : (workflowTrees candidateDir).read ".github/ci.yml" = some [0x6F] := by decide
  have clean : isCleanRelative ".github/ci.yml" = true := by decide
  have runs : checkExecutable plainDebug (some (.text "spark-rsi".toList)) false = .ok () := by decide
  exact ⟨rfl, clean, List.mem_singleton_self _, rfl, runs, changed, _, read, rfl⟩

theorem workflow_diff : computeCandidateDiff { repository := false, patch := none, names := none } workflowTrees
    parentDir candidateDir = { modifiedFiles := [], patchDiff := "", styleText := "" } := by
  have candidate : collectFilesRecursive [] (workflowTrees candidateDir) = [("spark-rsi", [0x7F])] := by
    decide
  have parent : collectFilesRecursive [] (workflowTrees parentDir) = [("spark-rsi", [0x7F])] := by decide
  have unchanged : candidateChange (workflowTrees parentDir) ("spark-rsi", [0x7F]) = none :=
    candidateChange_same (f := ("spark-rsi", [0x7F])) (by decide)
  have there : (workflowTrees candidateDir).pathExists "spark-rsi" = true := by decide
  have apart : parentDir ≠ candidateDir := by decide
  rw [computeCandidateDiff, if_neg apart, candidate, parent]
  simp [unchanged, there]

theorem fitText_ok {value : String} (fits : (utf8 value).length < 2 ^ 64) :
    fitText value = .ok ⟨value, fits⟩ := dif_pos fits

theorem exists_of_isOk {α : Type} {x : Except String α} (returns : x.isOk = true) : ∃ a, x = .ok a := by
  cases x with
  | ok a => exact ⟨a, rfl⟩
  | error e => cases returns

theorem bindReceipt_returns {debug : JudgeDebug} {ecdsa : Ecdsa} {around : Surroundings} {req : V2Request}
    {key : ecdsa.SigningKey} {holdoutSetSha256 : Text} {total passed : Nat} {candidatePath : PathBuf}
    {bytes exe : Bytes} (receipt : EvaluationReceipt) (unchanged : around.subjectAfter = .ok bytes)
    (running : around.judgeBinary = .ok exe)
    (enough : ¬(UInt64.ofNat total = 0 ∨
      around.belowRatio (UInt64.ofNat passed) req.policy.minHoldoutPassRatio (UInt64.ofNat total) = true)) :
    ∃ signed, bindReceipt debug sha ecdsa around key holdoutSetSha256 total passed receipt candidatePath req
      (sha.hex bytes) = .ok signed ∧ signed.admitted = receipt.admitted := by
  have short (data : Bytes) : (utf8 (sha.hex data)).length < 2 ^ 64 := by
    rw [sha.length_hex]
    decide
  simp only [bindReceipt, unchanged, running, ok_bind, pure_bind, sha256File, okOr, refuseIf, ne_eq,
    not_true, if_false, if_neg enough, fitText_ok (short _)]
  exact ⟨_, rfl, rfl⟩

theorem workflow_returns : ∃ receipt,
    evaluateCycle plainDebug sha _ (pinnedJudge set) workflowTrees (pinnedSurroundings set) workflow workflow workflow
      candidateDir parentDir = .ok receipt ∧ receipt.admitted = true := by
  have preflight := workflow_preflight sha set
  have diff := workflow_diff
  have verdict : (securityResult (SecurityLayer.evaluateCandidate plainDebug.toDebug [] "" 0)).isOk = true := by
    decide +kernel
  obtain ⟨layer, built⟩ := exists_of_isOk verdict
  have passed : layer.passed = true := by
    rw [securityResult_ok built]
    decide
  -- Its one holdout passes.
  have answers : holdoutViolation jailed emptyInput = none := by decide +kernel
  have runs : runHoldouts (fun _ => jailed) [emptyInput] = [none] := congrArg (fun v => [v]) answers
  have violations : List.reduceOption [(none : Option String)] = [] := rfl
  have counted : [(none : Option String)].filter Option.isNone = [none] := rfl
  have replayed : (replayResult (fun _ _ => one)
      (LongitudinalReplayLayer.evaluateResults LongitudinalReplayLayer.builtinRegressionCorpus)).isOk = true := by
    decide +kernel
  obtain ⟨replay, replayBuilt⟩ := exists_of_isOk replayed
  have replayPassed : replay.passed = true := by
    rw [replayResult_ok replayBuilt]
    rfl
  have enough : ¬(UInt64.ofNat 1 = 0 ∨ decide (UInt64.ofNat 1 < UInt64.ofNat 1) = true) := by decide
  rw [evaluateCycle]
  simp only [pinnedJudge, namedJudge, okOr, ok_bind, pinnedSurroundings, quietSurroundings,
    List.flatMap_cons, List.flatMap_nil, List.append_nil] at preflight ⊢
  simp only [preflight, ok_bind, diff, built, pure_bind, runs, violations, counted, List.map_nil,
    List.append_nil, replayBuilt]
  rw [bind_pure]
  refine Exists.imp (fun signed made => ⟨made.1, made.2.trans ?_⟩) (bindReceipt_returns sha _ rfl rfl enough)
  simp [ObjectiveEvaluator.evaluateCandidate, passing, passed, replayPassed]

theorem workflowTrees_formed (path : PathBuf) : (workflowTrees path).WellFormed := by
  have names : (OsStr.text ".github".toList).bytes < (OsStr.text "spark-rsi".toList).bytes := by decide
  have parent : parentTree.WellFormed := by
    refine ⟨⟨by decide, by decide⟩, ?_, trivial⟩
    simp [Tree.names]
  unfold workflowTrees
  split
  next =>
    refine ⟨⟨by decide, by decide⟩, ?_, ⟨⟨by decide, by decide⟩, ?_, trivial⟩, parent⟩
    · simpa [Tree.names, parentTree] using names
    · simp [Tree.names]
  next => exact parent

theorem subject_caught_iff_workflow : ∃ receipt,
    evaluateCycle plainDebug sha256 _ (namedJudge workflow) workflowTrees (quietSurroundings [0x6F]) workflow workflow
      workflow candidateDir parentDir = .ok receipt ∧
    ((Bad plainDebug parentTree (workflowTrees candidateDir) ".github/ci.yml" → Caught receipt) ↔
      (Bad plainDebug parentTree (workflowTrees candidateDir) ".github/ci.yml" →
        Seen plainDebug parentTree (workflowTrees candidateDir) ".github/ci.yml")) := by
  cases workflow_returns sha256 (text "5a" (by decide)) with
  | intro receipt returned =>
    exact ⟨receipt, returned.1, subject_caught_iff plainDebug sha256 _ (namedJudge workflow) workflowTrees
      workflowTrees_formed (quietSurroundings [0x6F]) (subjectRequest workflow) rfl workflow workflow workflow candidateDir
      parentDir receipt returned.1⟩

theorem workflow_admitted : ∃ receipt,
    evaluateCycle plainDebug sha256 _ (namedJudge workflow) workflowTrees (quietSurroundings [0x6F]) workflow workflow
      workflow candidateDir parentDir = .ok receipt ∧
    RootOfTrust.isProtectedPath plainDebug.toDebug ".github/ci.yml" = true ∧ receipt.admitted = true := by
  cases workflow_returns sha256 (text "5a" (by decide)) with
  | intro receipt returned => exact ⟨receipt, returned.1, by decide, returned.2⟩

end Sample

end SparkRsi.Actor
