import SparkRsi.Actor.Trees
import SparkRsi.Evaluator.Security

set_option autoImplicit false

namespace SparkRsi.Actor

open Shared Governance Evaluator

structure FileChange where
  rel : String
  lines : List (List Char)
  style : List Char

def addedLine (line : List Char) : List Char := "+ ".toList ++ line

def candidateChange (parent : Tree) (f : String × Bytes) : Option FileChange :=
  if parent.pathExists f.1 = false then
    -- A new file that is no UTF-8 text counts as empty.
    let candContent := ((fromUtf8 f.2).getD "").toList
    some
      { rel := f.1
        lines := ("+++ ".toList ++ f.1.toList) :: (TextLines.lines candContent).map addedLine
        style := candContent ++ ['\n'] }
  else
    let parentBytes := (parent.read f.1).getD []
    if f.2 = parentBytes then none
    else
      let candContent := Utf8.fromUtf8Lossy f.2
      let parentContent := Utf8.fromUtf8Lossy parentBytes
      some
        { rel := f.1
          lines := ("--- a/".toList ++ f.1.toList) :: ("+++ b/".toList ++ f.1.toList) ::
            ((TextLines.lines candContent).filter fun line => !decide (line <:+: parentContent)).map addedLine
          style := candContent ++ ['\n'] }

structure CandidateDiff where
  modifiedFiles : List String
  patchDiff : String
  styleText : String

structure GitDiff where
  repository : Bool
  patch : Option Bytes
  names : Option Bytes

def computeGitDiff (git : GitDiff) : CandidateDiff :=
  if git.repository then
    let patchDiff := String.ofList (Utf8.fromUtf8Lossy (git.patch.getD []))
    let printed := TextLines.lines (Utf8.fromUtf8Lossy (git.names.getD []))
    { modifiedFiles := ((printed.map TextLines.trim).filter fun trimmed => trimmed ≠ []).map String.ofList
      patchDiff
      styleText := patchDiff }
  else { modifiedFiles := [], patchDiff := "", styleText := "" }

def computeCandidateDiff (git : GitDiff) (trees : PathBuf → Tree) (parentPath candidatePath : PathBuf) :
    CandidateDiff :=
  if parentPath = candidatePath then computeGitDiff git
  else
    let changes := (collectFilesRecursive [] (trees candidatePath)).filterMap (candidateChange (trees parentPath))
    let gone := ((collectFilesRecursive [] (trees parentPath)).map Prod.fst).filter
      fun rel => !(trees candidatePath).pathExists rel
    let lines := changes.flatMap FileChange.lines ++ gone.map fun rel => "--- a/".toList ++ rel.toList
    { modifiedFiles := changes.map FileChange.rel ++ gone
      patchDiff := String.ofList (lines.flatMap fun line => line ++ ['\n'])
      styleText := String.ofList (changes.flatMap FileChange.style) }

section Subject

variable {debug : JudgeDebug} {git : GitDiff} {trees : PathBuf → Tree} {parentPath candidatePath : PathBuf}
  {s : String} {content : Bytes}

theorem forbidden_clean {pattern : String} (listed : pattern ∈ SecurityLayer.forbidden) :
    '\n' ∉ pattern.toList ∧ pattern.toList ≠ [] := by
  have placed := SecurityLayer.wellPlaced_iff.mp (SecurityLayer.forbidden_wellPlaced pattern listed)
  apply And.intro _ placed.2.2.2.2
  intro member
  have printable := placed.1 '\n' member
  revert printable
  decide

structure Subject (parent candidate : Tree) (s : String) (content : Bytes) : Prop extends OnlyDiffer parent candidate s where
  read : candidate.read s = some content

theorem candidateChange_same {parent : Tree} {f : String × Bytes} (same : parent.read f.1 = some f.2) :
    candidateChange parent f = none := by
  have there : parent.pathExists f.1 = true := by
    rw [Tree.pathExists, Tree.read_eq_some.mp same]
    rfl
  simp [candidateChange, there, same]

theorem candidateChange_rel {parent : Tree} {f : String × Bytes} {change : FileChange}
    (made : candidateChange parent f = some change) : change.rel = f.1 := by
  rw [candidateChange] at made
  by_cases fresh : parent.pathExists f.1 = false
  next =>
    rw [if_pos fresh, Option.some.injEq] at made
    exact made ▸ rfl
  next =>
    rw [if_neg fresh] at made
    by_cases same : f.2 = (parent.read f.1).getD []
    next =>
      rw [if_pos same] at made
      cases made
    next =>
      rw [if_neg same, Option.some.injEq] at made
      exact made ▸ rfl

section Walked

variable (parentFormed : (trees parentPath).WellFormed) (candidateFormed : (trees candidatePath).WellFormed)
  (subject : Subject (trees parentPath) (trees candidatePath) s content) {p c : List String}
  (parentWalked : walk debug parentPath [] (trees parentPath) = .ok p)
  (candidateWalked : walk debug candidatePath [] (trees candidatePath) = .ok c)

include candidateFormed subject candidateWalked in
theorem mem_changes (change : FileChange) :
    change ∈ (collectFilesRecursive [] (trees candidatePath)).filterMap (candidateChange (trees parentPath)) ↔
      Kept keepsVisible true (components s) ∧
      candidateChange (trees parentPath) (s, content) = some change := by
  rw [List.mem_filterMap]
  constructor
  next =>
    intro some_
    obtain ⟨⟨rel, found⟩, member, made⟩ := some_
    have place := (mem_collectFilesRecursive candidateFormed candidateWalked).mp member
    by_cases other : rel = s
    next =>
      rw [other, subject.read] at place
      rw [other] at made
      have bytes : content = found := Option.some.inj place.2
      rw [← bytes] at made
      exact ⟨place.1, made⟩
    next =>
      -- Any other file is the same in the parent.
      have same := subject.elsewhere rel (kept_visible_walked place.1) other
      have nothing : candidateChange (trees parentPath) (rel, found) = none :=
        candidateChange_same (f := (rel, found)) (same.trans place.2)
      rw [nothing] at made
      cases made
  next =>
    intro facts
    exact ⟨(s, content), (mem_collectFilesRecursive candidateFormed candidateWalked).mpr ⟨facts.1, subject.read⟩, facts.2⟩

include parentFormed subject parentWalked in
theorem gone_nil : (((collectFilesRecursive [] (trees parentPath)).map Prod.fst).filter
    fun rel => !(trees candidatePath).pathExists rel) = [] := by
  rw [List.filter_eq_nil_iff]
  intro rel listed
  obtain ⟨⟨path, found⟩, member, same⟩ := List.mem_map.mp listed
  rw [show path = rel from same] at member
  have place := (mem_collectFilesRecursive parentFormed parentWalked).mp member
  have there : ∃ bytes, (trees candidatePath).read rel = some bytes := by
    by_cases other : rel = s
    next => exact ⟨content, other ▸ subject.read⟩
    next => exact ⟨found, (subject.elsewhere rel (kept_visible_walked place.1) other).symm.trans place.2⟩
  obtain ⟨bytes, here⟩ := there
  simp [Tree.pathExists, Tree.read_eq_some.mp here]

include parentFormed candidateFormed subject parentWalked candidateWalked in
-- The security layer passes the diff unless the subject shows in it, and what it shows is not permitted.
theorem security_passed_iff (apart : parentPath ≠ candidatePath) (git : GitDiff) :
    (SecurityLayer.evaluateCandidate debug.toDebug (computeCandidateDiff git trees parentPath candidatePath).modifiedFiles
        (computeCandidateDiff git trees parentPath candidatePath).patchDiff 0).passed = true ↔
      (Kept keepsVisible true (components s) →
        ∀ change, candidateChange (trees parentPath) (s, content) = some change →
          RootOfTrust.assertPatchPermitted debug.toDebug s 0 = .ok () ∧
            ∀ pattern ∈ SecurityLayer.forbidden, ∀ line ∈ change.lines, ¬pattern.toList <:+: line) := by
  have members := mem_changes candidateFormed subject candidateWalked
  rw [evaluateCandidate_passed, validateDeclaredFiles_ok, computeCandidateDiff, if_neg apart]
  simp only [gone_nil parentFormed subject parentWalked, List.append_nil, List.map_nil, String.toList_ofList]
  constructor
  next =>
    intro passed seen change made
    have member := (members change).mpr ⟨seen, made⟩
    constructor
    next =>
      have permitted := passed.1 change.rel (List.mem_map_of_mem member)
      rwa [candidateChange_rel made] at permitted
    next =>
      intro pattern listed line inside found
      have clean := forbidden_clean listed
      apply passed.2 pattern listed
      rw [TextLines.infix_terminated clean.1 clean.2]
      exact ⟨line, List.mem_flatMap.mpr ⟨change, member, inside⟩, found⟩
  next =>
    intro harmless
    constructor
    next =>
      intro file listed
      obtain ⟨change, member, same⟩ := List.mem_map.mp listed
      have made := (members change).mp member
      rw [← same, candidateChange_rel made.2]
      exact (harmless made.1 change made.2).1
    next =>
      intro pattern listed found
      have clean := forbidden_clean listed
      rw [TextLines.infix_terminated clean.1 clean.2] at found
      obtain ⟨line, inside, here⟩ := found
      obtain ⟨change, member, part⟩ := List.mem_flatMap.mp inside
      have made := (members change).mp member
      exact (harmless made.1 change made.2).2 pattern listed line part here

end Walked

section Bytes

theorem forbidden_ascii {pattern : String} (listed : pattern ∈ SecurityLayer.forbidden) :
    ∀ c ∈ pattern.toList, c.toNat < 0x80 := by
  have placed := SecurityLayer.wellPlaced_iff.mp (SecurityLayer.forbidden_wellPlaced pattern listed)
  intro c member
  cases placed.1 c member with
  | inl printable => omega
  | inr space =>
    rw [space]
    decide

theorem forbidden_line {pattern : String} (listed : pattern ∈ SecurityLayer.forbidden) (text : List Char) :
    pattern.toList <:+: text ↔ ∃ line ∈ TextLines.lines text, pattern.toList <:+: line := by
  have clean := forbidden_clean listed
  apply TextLines.infix_lines clean.1 _ clean.2
  have placed := SecurityLayer.wellPlaced_iff.mp (SecurityLayer.forbidden_wellPlaced pattern listed)
  intro last
  have printable := placed.1 '\r' (List.mem_of_getLast? last)
  revert printable
  decide

-- A marker in front of a line hides nothing and makes up nothing.
theorem forbidden_behind {pattern : String} (listed : pattern ∈ SecurityLayer.forbidden) {marker : List Char}
    (marks : ∀ c ∈ marker, c = '+' ∨ c = ' ') (line : List Char) :
    pattern.toList <:+: marker ++ line ↔ pattern.toList <:+: line := by
  have placed := SecurityLayer.wellPlaced_iff.mp (SecurityLayer.forbidden_wellPlaced pattern listed)
  induction marker with
  | nil => rfl
  | cons c rest ih =>
    rw [List.forall_mem_cons] at marks
    rw [List.cons_append, List.infix_cons_iff, or_iff_right]
    next => exact ih marks.2
    intro begins
    cases split : pattern.toList with
    | nil => exact placed.2.2.2.2 split
    | cons d others =>
      rw [split, List.cons_prefix_cons] at begins
      rw [split, begins.1] at placed
      cases marks.1 with
      | inl plus => exact placed.2.1 (by rw [plus]; rfl)
      | inr space => exact placed.2.2.1 (by rw [space]; rfl)

def GainsForbidden (before : Option Bytes) (content : Bytes) : Prop :=
  ∃ pattern ∈ SecurityLayer.forbidden, utf8 pattern <:+: content ∧ ∀ bytes, before = some bytes → ¬utf8 pattern <:+: bytes

def Shows (debug : JudgeDebug) (s : String) (change : FileChange) : Prop :=
  ¬RootOfTrust.assertPatchPermitted debug.toDebug s 0 = .ok () ∨
    ∃ pattern ∈ SecurityLayer.forbidden, ∃ line ∈ change.lines, pattern.toList <:+: line

section Kinds

variable {parent : Tree}

-- A new file shows what its path or its text holds, and no text where its bytes are no UTF-8.
theorem shows_new (fresh : parent.pathExists s = false) :
    (∃ change, candidateChange parent (s, content) = some change ∧ Shows debug s change) ↔
      ¬RootOfTrust.assertPatchPermitted debug.toDebug s 0 = .ok () ∨
        ∃ pattern ∈ SecurityLayer.forbidden, pattern.toList <:+: s.toList ∨
          ∃ text, fromUtf8 content = some text ∧ utf8 pattern <:+: content := by
  rw [candidateChange, if_pos fresh]
  simp only [Option.some.injEq, exists_eq_left', Shows]
  apply or_congr Iff.rfl
  apply exists_congr
  intro pattern
  apply and_congr_right
  intro listed
  have clean := forbidden_clean listed
  have content_iff : (∃ line ∈ (TextLines.lines ((fromUtf8 content).getD "").toList).map addedLine, pattern.toList <:+: line) ↔
      ∃ text, fromUtf8 content = some text ∧ utf8 pattern <:+: content := by
    have texts (text : List Char) : (∃ line ∈ (TextLines.lines text).map addedLine, pattern.toList <:+: line) ↔
        pattern.toList <:+: text := by
      simp only [List.mem_map, forbidden_line listed text, exists_exists_and_eq_and]
      apply exists_congr
      intro line
      exact and_congr_right fun _ => forbidden_behind listed (by simp) line
    rw [texts]
    cases read : fromUtf8 content with
    | none => simpa using clean.2
    | some text =>
      rw [Option.getD_some, fromUtf8_eq_some.mp read, Utf8.infix_utf8 (forbidden_ascii listed) clean.2]
      simp
  have heading : pattern.toList <:+: "+++ ".toList ++ s.toList ↔ pattern.toList <:+: s.toList :=
    forbidden_behind listed (by simp) s.toList
  rw [← content_iff, ← heading]
  simp only [List.mem_cons, exists_eq_or_imp]

-- A changed file shows every forbidden text that the parent's bytes do not hold.
theorem shows_changed (there : ¬parent.pathExists s = false) (changed : content ≠ (parent.read s).getD [])
    (bad : ¬RootOfTrust.assertPatchPermitted debug.toDebug s 0 = .ok () ∨ GainsForbidden (parent.read s) content) :
    ∃ change, candidateChange parent (s, content) = some change ∧ Shows debug s change := by
  rw [candidateChange, if_neg there, if_neg changed]
  refine ⟨_, rfl, ?_⟩
  cases bad with
  | inl refused => exact Or.inl refused
  | inr gains =>
    right
    obtain ⟨pattern, listed, found, absent⟩ := gains
    apply Exists.intro pattern
    apply And.intro listed
    have clean := forbidden_clean listed
    have ascii := forbidden_ascii listed
    rw [Utf8.infix_lossy ascii clean.2, forbidden_line listed] at found
    obtain ⟨line, member, here⟩ := found
    refine ⟨addedLine line, ?_, (forbidden_behind listed (by simp) line).mpr here⟩
    have kept : ¬line <:+: Utf8.fromUtf8Lossy ((parent.read s).getD []) := by
      intro inside
      have before := here.trans inside
      rw [← Utf8.infix_lossy ascii clean.2] at before
      cases bytes : parent.read s with
      | none =>
        rw [bytes, Option.getD_none, List.infix_nil] at before
        rw [Utf8.utf8_ascii ascii, List.map_eq_nil_iff] at before
        exact clean.2 before
      | some bytes' =>
        rw [bytes, Option.getD_some] at before
        exact absent bytes' bytes before
    simp only [List.mem_cons, List.mem_map, List.mem_filter]
    exact Or.inr (Or.inr ⟨line, ⟨member, by simpa using kept⟩, rfl⟩)

end Kinds

end Bytes

end Subject

end SparkRsi.Actor
