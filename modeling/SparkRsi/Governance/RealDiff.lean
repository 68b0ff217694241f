import SparkRsi.Evaluator.Security

set_option autoImplicit false

namespace SparkRsi.Governance

open Shared Evaluator

structure ChangedEntry where
  oldMode : String
  newMode : String
  status : Char
  path : String

def isRegularMode (mode : String) : Bool := mode = "100644" || mode = "100755"

section Gate

variable (debug : Debug)

def checkEntry (roots : List String) (e : ChangedEntry) : List String × Option String :=
  match normalizeRepoPath debug e.path with
  | .error err => ([s!"real diff path refused: {err}"], none)
  | .ok normalized =>
    let canonical := if normalized ≠ e.path then [s!"real diff path is not canonical: {debug.text e.path}"] else []
    let inside := if withinRoots debug normalized roots = false then
      [s!"real diff touches {debug.text normalized}, outside the declared roots {debug.texts roots}"] else []
    let oldOk := e.oldMode = "000000" || isRegularMode e.oldMode
    let newOk := e.newMode = "000000" || isRegularMode e.newMode
    let regular := if !oldOk || !newOk then
      [s!"real diff entry {debug.text normalized} is not a regular file (mode {e.oldMode} -> {e.newMode}); symlinks and submodules are refused"]
      else []
    let kept := if e.newMode = "000000" || e.status = 'D' then
      [s!"real diff deletes {debug.text normalized}; deletions are refused"] else []
    (canonical ++ inside ++ regular ++ kept, some normalized)

def realPaths (entries : List ChangedEntry) (roots : List String) : List String :=
  entries.filterMap fun e => (checkEntry debug roots e).2

def checkEntries (entries : List ChangedEntry) (declaredTarget : String) (roots : List String) :
    List String :=
  let empty := if entries.isEmpty then ["real diff is empty; nothing to propose"] else []
  let paths := realPaths debug entries roots
  let declared := if paths = [declaredTarget] then [] else
    [s!"real diff paths {debug.texts paths} differ from the declared target {debug.text declaredTarget}"]
  let rooted := match RootOfTrust.validateDeclaredFiles debug paths ratifierTier with
    | .ok () => []
    | .error errs => errs
  empty ++ (entries.flatMap fun e => (checkEntry debug roots e).1) ++ declared ++ rooted

/-- Content checks look at what the change adds, not at unchanged context lines. -/
def addedText (patchText : String) : String :=
  let added := (TextLines.lines patchText.toList).filter fun l => "+".toList.isPrefixOf l && !"+++".toList.isPrefixOf l
  String.ofList (added.flatMap fun l => l.drop 1 ++ ['\n'])

def checkRealDiff (entries : List ChangedEntry) (patchText declaredTarget : String) (roots : List String) :
    List String :=
  let sec := SecurityLayer.evaluateCandidate debug (realPaths debug entries roots) (addedText patchText) ratifierTier
  checkEntries debug entries declaredTarget roots ++ if sec.passed then [] else sec.violations

end Gate

structure Line where
  text : List Char
  single : '\n' ∉ text

inductive HunkLine where
  | context (content : Line)
  | removed (content : Line)
  | added (content : Line)
  -- The mark behind a last line without a line feed.
  | noNewline

namespace HunkLine

def noNewlineMark : String := "\\ No newline at end of file"

def text : HunkLine → List Char
  | context content => ' ' :: content.text
  | removed content => '-' :: content.text
  | added content => '+' :: content.text
  | noNewline => noNewlineMark.toList

end HunkLine

structure Hunk where
  -- What stands behind the first `@@`.
  range : Line
  body : List HunkLine

/-- The change of one file as git prints it: extended headers, and for a text change the two names and the
hunks. -/
structure FileDiff where
  extended : List Line
  -- Extended headers begin with a word.
  worded : ∀ line ∈ extended, line.text.head? ≠ some '+'
  oldName : Line
  newName : Line
  hunks : List Hunk

namespace FileDiff

def hunkLines (hunk : Hunk) : List (List Char) :=
  ("@@".toList ++ hunk.range.text) :: hunk.body.map HunkLine.text

def lines (diff : FileDiff) : List (List Char) :=
  diff.extended.map Line.text ++
    if diff.hunks.isEmpty then []
    else ("--- ".toList ++ diff.oldName.text) :: ("+++ ".toList ++ diff.newName.text) :: diff.hunks.flatMap hunkLines

end FileDiff

def render (patch : List FileDiff) : List Char :=
  (patch.flatMap FileDiff.lines).flatMap fun line => line ++ ['\n']

def addedLines (patch : List FileDiff) : List (List Char) :=
  patch.flatMap fun diff => diff.hunks.flatMap fun hunk => hunk.body.filterMap fun line =>
    match line with
    | .added content => some content.text
    | _ => none

def Forbidden (content : List Char) : Prop := ∃ pattern ∈ SecurityLayer.forbidden, pattern.toList <:+: content

section Content

def Kept (pattern line : List Char) : Prop :=
  "+".toList <+: line ∧ ¬"+++".toList <+: line ∧ pattern <:+: line.drop 1

theorem kept_blank (pattern : List Char) : ¬Kept pattern [] := by
  intro kept
  have plus := kept.1
  simp at plus

theorem kept_concat {pattern : List Char} {c : Char} (filled : pattern ≠ [])
    (last : pattern.getLast? ≠ some c) (other : c ≠ '+') (line : List Char) :
    Kept pattern (line ++ [c]) ↔ Kept pattern line := by
  have marks (marker : List Char) (plus : marker.getLast? = some '+') : marker <+: line ++ [c] ↔ marker <+: line := by
    rw [List.prefix_concat_iff, or_iff_right]
    rintro rfl
    rw [List.getLast?_concat] at plus
    exact other (Option.some.inj plus)
  rw [Kept, Kept, marks _ rfl, marks _ rfl]
  cases line with
  | nil => simp
  | cons d rest =>
    rw [List.cons_append, List.drop_succ_cons, List.drop_succ_cons, List.drop_zero, List.drop_zero,
      TextLines.infix_concat filled last]

theorem infix_addedText {pattern : List Char} (clean : '\n' ∉ pattern) (filled : pattern ≠ [])
    (text : String) :
    pattern <:+: (addedText text).toList ↔ ∃ line ∈ TextLines.lines text.toList, Kept pattern line := by
  have joined (ls : List (List Char)) : (ls.flatMap fun l => l.drop 1 ++ ['\n']) =
      (ls.map (List.drop 1)).flatMap fun l => l ++ ['\n'] := by
    rw [List.flatMap_map]
  rw [addedText, String.toList_ofList, joined, TextLines.infix_terminated clean filled]
  simp only [List.mem_map, List.mem_filter, Bool.and_eq_true, List.isPrefixOf_iff_prefix, Bool.not_eq_true',
    ← Bool.not_eq_true, Kept]
  constructor
  next =>
    rintro ⟨_, ⟨line, ⟨member, plus, other⟩, rfl⟩, here⟩
    exact ⟨line, member, plus, other, here⟩
  next =>
    rintro ⟨line, member, plus, other, here⟩
    exact ⟨_, ⟨line, ⟨member, plus, other⟩, rfl⟩, here⟩

theorem hunkLine_clean (line : HunkLine) : '\n' ∉ line.text := by
  cases line with
  | context content => simp [HunkLine.text, content.single]
  | removed content => simp [HunkLine.text, content.single]
  | added content => simp [HunkLine.text, content.single]
  | noNewline =>
    change '\n' ∉ HunkLine.noNewlineMark.toList
    simp [HunkLine.noNewlineMark]

theorem patch_clean (patch : List FileDiff) : ∀ line ∈ patch.flatMap FileDiff.lines, '\n' ∉ line := by
  intro line member
  obtain ⟨diff, -, inside⟩ := List.mem_flatMap.mp member
  rw [FileDiff.lines, List.mem_append] at inside
  cases inside with
  | inl header =>
    obtain ⟨extended, -, rfl⟩ := List.mem_map.mp header
    exact extended.single
  | inr change =>
    by_cases empty : diff.hunks.isEmpty = true
    next => simp [empty] at change
    next =>
      rw [if_neg empty, List.mem_cons, List.mem_cons] at change
      rcases change with rfl | rfl | body
      · simp [diff.oldName.single]
      · simp [diff.newName.single]
      · obtain ⟨hunk, -, here⟩ := List.mem_flatMap.mp body
        rw [FileDiff.hunkLines, List.mem_cons] at here
        cases here with
        | inl range => simp [range, hunk.range.single]
        | inr content =>
          obtain ⟨spelled, -, rfl⟩ := List.mem_map.mp content
          exact hunkLine_clean spelled

-- Of a printed patch the gate keeps the added lines whose content does not begin with two plus signs.
theorem kept_patch_iff (pattern : List Char) (patch : List FileDiff) :
    (∃ line ∈ patch.flatMap FileDiff.lines, Kept pattern line) ↔
      ∃ content ∈ addedLines patch, ¬"++".toList <+: content ∧ pattern <:+: content := by
  have unmarked {line : List Char} (head : line.head? ≠ some '+') : ¬Kept pattern line := by
    intro kept
    cases line with
    | nil => exact kept_blank pattern kept
    | cons c rest =>
      have plus := List.cons_prefix_cons.mp kept.1
      exact head (congrArg some plus.1.symm)
  have content (line : HunkLine) : Kept pattern line.text ↔
      ∃ content, line = .added content ∧ ¬"++".toList <+: content.text ∧ pattern <:+: content.text := by
    cases line with
    | context content => exact iff_of_false (unmarked (by simp [HunkLine.text])) (by simp)
    | removed content => exact iff_of_false (unmarked (by simp [HunkLine.text])) (by simp)
    | noNewline =>
      have head : HunkLine.noNewlineMark.toList.head? ≠ some '+' := by simp [HunkLine.noNewlineMark]
      exact iff_of_false (unmarked head) (by simp)
    | added content =>
      simp [Kept, HunkLine.text]
  constructor
  next =>
    rintro ⟨line, member, kept⟩
    obtain ⟨diff, inside, here⟩ := List.mem_flatMap.mp member
    rw [FileDiff.lines, List.mem_append] at here
    cases here with
    | inl header =>
      obtain ⟨extended, listed, rfl⟩ := List.mem_map.mp header
      exact absurd kept (unmarked (diff.worded extended listed))
    | inr change =>
      by_cases empty : diff.hunks.isEmpty = true
      next => simp [empty] at change
      next =>
        rw [if_neg empty, List.mem_cons, List.mem_cons] at change
        rcases change with rfl | rfl | body
        · exact absurd kept (unmarked (by simp))
        · -- The name of the new file stands behind three plus signs.
          exact absurd (List.prefix_append "+++".toList (' ' :: diff.newName.text)) kept.2.1
        · obtain ⟨hunk, part, printed⟩ := List.mem_flatMap.mp body
          rw [FileDiff.hunkLines, List.mem_cons] at printed
          cases printed with
          | inl range => exact absurd kept (unmarked (by simp [range]))
          | inr spelled =>
            obtain ⟨hunkLine, at_, rfl⟩ := List.mem_map.mp spelled
            obtain ⟨added, rfl, plain, found⟩ := (content hunkLine).mp kept
            exact ⟨added.text, List.mem_flatMap.mpr ⟨diff, inside, List.mem_flatMap.mpr ⟨hunk, part,
              List.mem_filterMap.mpr ⟨_, at_, rfl⟩⟩⟩, plain, found⟩
  next =>
    rintro ⟨_, member, plain, found⟩
    obtain ⟨diff, inside, here⟩ := List.mem_flatMap.mp member
    obtain ⟨hunk, part, at_⟩ := List.mem_flatMap.mp here
    obtain ⟨hunkLine, listed, spelled⟩ := List.mem_filterMap.mp at_
    cases hunkLine with
    | context content => cases spelled
    | removed content => cases spelled
    | noNewline => cases spelled
    | added added =>
      cases spelled
      have filled : ¬diff.hunks.isEmpty = true := by
        rw [List.isEmpty_iff]
        exact List.ne_nil_of_mem part
      refine ⟨_, List.mem_flatMap.mpr ⟨diff, inside, ?_⟩,
        (content (.added added)).mpr ⟨added, rfl, plain, found⟩⟩
      rw [FileDiff.lines, if_neg filled]
      exact List.mem_append_right _ (List.mem_cons_of_mem _ (List.mem_cons_of_mem _ (List.mem_flatMap.mpr
        ⟨hunk, part, List.mem_cons_of_mem _ (List.mem_map_of_mem listed)⟩)))

end Content

section Verdict

variable {debug : Debug} {entries : List ChangedEntry} {declaredTarget : String} {roots : List String}

theorem checkRealDiff_nil {patchText : String} :
    checkRealDiff debug entries patchText declaredTarget roots = [] ↔
    checkEntries debug entries declaredTarget roots = [] ∧
      ∀ pattern ∈ SecurityLayer.forbidden, ¬pattern.toList <:+: (addedText patchText).toList := by
  rw [checkRealDiff, List.append_eq_nil_iff]
  apply and_congr_right
  intro clean
  -- Clean entries passed the declared-files check of the security layer already.
  have rooted : RootOfTrust.validateDeclaredFiles debug (realPaths debug entries roots) ratifierTier = .ok () := by
    simp only [checkEntries, List.append_eq_nil_iff] at clean
    have last := clean.2
    cases checked : RootOfTrust.validateDeclaredFiles debug (realPaths debug entries roots) ratifierTier with
    | ok u => rfl
    | error errs =>
      rw [checked] at last
      unfold RootOfTrust.validateDeclaredFiles at checked
      dsimp only at checked
      split at checked
      next => cases checked
      next some_refused =>
        cases checked
        exact absurd last some_refused
  by_cases passed : (SecurityLayer.evaluateCandidate debug (realPaths debug entries roots) (addedText patchText)
      ratifierTier).passed = true
  next =>
    rw [if_pos passed]
    exact iff_of_true rfl (evaluateCandidate_passed.mp passed).2
  next =>
    rw [if_neg passed]
    apply iff_of_false
    next => exact fun none_found => passed (evaluateCandidate_violations.mp none_found)
    next => exact fun absent => passed (evaluateCandidate_passed.mpr ⟨rooted, absent⟩)

-- The content a text of git's adds is scanned but for the lines that begin with two plus signs.
theorem infix_added_iff {patch : List FileDiff} {patchText : String} {pattern : String}
    (listed : pattern ∈ SecurityLayer.forbidden)
    (printed : TextLines.trimEnd patchText.toList = TextLines.trimEnd (render patch)) :
    pattern.toList <:+: (addedText patchText).toList ↔
      ∃ content ∈ addedLines patch, ¬"++".toList <+: content ∧ pattern.toList <:+: content := by
  obtain ⟨plain, -, -, last, filled⟩ := SecurityLayer.wellPlaced_iff.mp (SecurityLayer.forbidden_wellPlaced pattern listed)
  have clean : '\n' ∉ pattern.toList := fun member => absurd (plain _ member) (by decide)
  have blank := kept_blank pattern.toList
  have trailing (line : List Char) (c : Char) (space : TextLines.isWhitespace c = true) :
      Kept pattern.toList (line ++ [c]) ↔ Kept pattern.toList line := by
    apply kept_concat filled
    case last =>
      intro ended
      have visible := plain c (List.mem_of_getLast? ended)
      cases visible with
      | inl graphic =>
        simp only [TextLines.isWhitespace, List.mem_cons, List.not_mem_nil, or_false, Bool.or_eq_true,
          Bool.and_eq_true, decide_eq_true_eq] at space
        omega
      | inr blank => exact last (blank ▸ ended)
    case other =>
      rintro rfl
      cases space
  rw [infix_addedText clean filled, TextLines.exists_line_iff blank fun line => trailing line '\r' rfl,
    ← TextLines.exists_piece_trimEnd blank trailing, printed, TextLines.exists_piece_trimEnd blank trailing, render,
    TextLines.splitOn_terminated (patch_clean patch), ← kept_patch_iff]
  simp [or_and_right, exists_or, blank]

end Verdict

/-- The content gate answers for every added line exactly when the changed entries are refused anyway or, if
forbidden content is added at all, some of it does not begin with two plus signs. -/
theorem content_gate_iff (debug : Debug) (entries : List ChangedEntry) (patch : List FileDiff)
    (patchText declaredTarget : String) (roots : List String)
    (printed : TextLines.trimEnd patchText.toList = TextLines.trimEnd (render patch)) :
    (∀ content ∈ addedLines patch, Forbidden content →
        checkRealDiff debug entries patchText declaredTarget roots ≠ []) ↔
      checkEntries debug entries declaredTarget roots ≠ [] ∨
        ((∃ content ∈ addedLines patch, Forbidden content) →
          ∃ content ∈ addedLines patch, ¬"++".toList <+: content ∧ Forbidden content) := by
  have silent : checkRealDiff debug entries patchText declaredTarget roots = [] ↔
      checkEntries debug entries declaredTarget roots = [] ∧
        ¬∃ content ∈ addedLines patch, ¬"++".toList <+: content ∧ Forbidden content := by
    rw [checkRealDiff_nil]
    apply and_congr_right
    intro _
    constructor
    next =>
      rintro absent ⟨content, added, plain, pattern, listed, found⟩
      exact absent pattern listed ((infix_added_iff listed printed).mpr ⟨content, added, plain, found⟩)
    next =>
      intro absent pattern listed found
      obtain ⟨content, added, plain, here⟩ := (infix_added_iff listed printed).mp found
      exact absent ⟨content, added, plain, pattern, listed, here⟩
  rw [Ne, silent]
  by_cases clean : checkEntries debug entries declaredTarget roots = []
  next =>
    simp only [clean, true_and, not_not, ne_eq, not_true_eq_false, false_or]
    constructor
    next => exact fun answers ⟨content, added, forbidden⟩ => answers content added forbidden
    next => exact fun answers content added forbidden => answers ⟨content, added, forbidden⟩
  next => simp [clean]

section Sample

def readmeChange : ChangedEntry :=
  { oldMode := "100644", newMode := "100644", status := 'M', path := "README.md" }

def line (text : List Char) (single : '\n' ∉ text) : Line := ⟨text, single⟩

def readmePatch (content : Line) : List FileDiff :=
  [{ extended := [line "diff --git a/README.md b/README.md".toList (by simp)]
     worded := by simp [line]
     oldName := line "a/README.md".toList (by simp)
     newName := line "b/README.md".toList (by simp)
     hunks := [{ range := line " -0,0 +1 @@".toList (by simp), body := [.added content] }] }]

theorem content_gate_iff_readme :
    checkRealDiff ⟨id, String.join⟩ [readmeChange] (String.ofList (render (readmePatch (line "ghp_0".toList (by simp)))))
      "README.md" ["README.md"] ≠ [] := by
  have added : "ghp_0".toList ∈ addedLines (readmePatch (line "ghp_0".toList (by simp))) := List.mem_cons_self
  have secret : Forbidden "ghp_0".toList := ⟨"ghp_", by decide, by decide⟩
  apply (content_gate_iff ⟨id, String.join⟩ [readmeChange] (readmePatch (line "ghp_0".toList (by simp))) _ "README.md"
    ["README.md"] (by rw [String.toList_ofList])).mpr (.inr fun _ => ⟨_, added, by decide, secret⟩) _ added secret

theorem plus_signs_hide_secret :
    "++ghp_0".toList ∈ addedLines (readmePatch (line "++ghp_0".toList (by simp))) ∧
      Forbidden "++ghp_0".toList ∧
      checkRealDiff ⟨id, String.join⟩ [readmeChange]
        (String.ofList (render (readmePatch (line "++ghp_0".toList (by simp))))) "README.md" ["README.md"] = [] := by
  refine ⟨List.mem_cons_self, ⟨"ghp_", by decide, by decide⟩, checkRealDiff_nil.mpr ⟨by decide, ?_⟩⟩
  intro pattern listed found
  obtain ⟨content, added, plain, -⟩ := (infix_added_iff listed (by rw [String.toList_ofList])).mp found
  obtain rfl : content = "++ghp_0".toList := by simpa [addedLines, readmePatch, line] using added
  exact plain (by decide)

end Sample

end SparkRsi.Governance
