import SparkRsi.Governance.RawDiff
import SparkRsi.Governance.Tier
import SparkRsi.Shared.Dialogue
import SparkRsi.Shared.Utf8Lossy
import SparkRsi.Supervisor.Links

set_option autoImplicit false

namespace SparkRsi.Governance

open Shared

structure Operator where
  name : String
  email : String

def Operator.authorString (operator : Operator) : String := s!"{operator.name} <{operator.email}>"

inductive GitCommand where
  | revParse (revision : String)
  | lsTree (base path : String)
  | readTree (index base : String)
  -- The contents are its input.
  | hashObject (contents : Bytes)
  | updateIndex (index mode blob path : String)
  | writeTree (index : String)
  | commitTree (author : Operator) (tree base message : String)
  | diffTree (base head : String)
  | diff (base head : String)
  | symbolicRef (name : String)
  | configGet (key : String)
  | checkRefFormat (name : String)
  | updateRef (message name new old : String)
  | formatPatch (commit : String)

namespace GitCommand

def args : GitCommand → List String
  | .revParse revision => ["rev-parse", "--verify", "--quiet", revision]
  | .lsTree base path => ["ls-tree", "-z", base, "--", path]
  | .readTree _ base => ["read-tree", base]
  | .hashObject _ => ["hash-object", "-w", "--no-filters", "--stdin"]
  | .updateIndex _ mode blob path => ["update-index", "--add", "--cacheinfo", s!"{mode},{blob},{path}"]
  | .writeTree _ => ["write-tree"]
  | .commitTree _ tree base message => ["commit-tree", tree, "-p", base, "-m", message]
  | .diffTree base head => ["diff-tree", "-r", "-z", "--raw", "--no-renames", base, head]
  | .diff base head => ["diff", "--no-ext-diff", "--no-textconv", "--no-color", base, head]
  | .symbolicRef name => ["symbolic-ref", "--quiet", "--short", name]
  | .configGet key => ["config", "--get", key]
  | .checkRefFormat name => ["check-ref-format", name]
  | .updateRef message name new old => ["update-ref", "-m", message, name, new, old]
  | .formatPatch commit => ["format-patch", "-1", "--stdout", "--no-color", commit]

def env : GitCommand → List (String × String)
  | .readTree index _ | .updateIndex index _ _ _ | .writeTree index => [("GIT_INDEX_FILE", index)]
  | .commitTree author _ _ _ =>
    [("GIT_AUTHOR_NAME", author.name), ("GIT_AUTHOR_EMAIL", author.email), ("GIT_COMMITTER_NAME", author.name),
      ("GIT_COMMITTER_EMAIL", author.email)]
  | _ => []

end GitCommand

structure Invocation where
  repo : String
  command : GitCommand

def invocation (repo : String) (command : GitCommand) : Invocation := { repo, command }

/-- Neither a hook nor the configuration of the repository runs code. -/
def Invocation.args (line : Invocation) : List String :=
  ["-C", line.repo, "-c", "core.hooksPath=/dev/null"] ++ line.command.args

inductive Output where
  | failed (error : String)
  -- The input of the program could not be written.
  | unwritten (error : String)
  | ended (success : Bool) (stdout stderr : Bytes)

structure Lesson where
  proposalId : String
  commitHash : Option String
  ledgerBlockHash : Option String
  cortexUrl : String
  cortexSpace : String

inductive Action where
  | git (line : Invocation)
  | tempDir
  | createDirAll (path : String)
  | write (path text : String)
  | recordCortexLesson (lesson : Lesson)

def Answer : Action → Type
  | .git _ => Output
  | .tempDir => Except String String
  | .createDirAll _ => Except String Unit
  | .write _ _ => Except String Unit
  | .recordCortexLesson _ => Option String × Bool

abbrev Talk (α : Type) := Dialogue Answer String α

open Dialogue

def act (action : Action) : Talk (Answer action) := ask action

def askGit (line : Invocation) : Talk Output := act (.git line)

def orRefuse {α : Type} (words : String → String) (result : Except String α) : Talk α :=
  ofExcept (result.mapError words)

def trimmed (bytes : Bytes) : String := String.ofList (TextLines.trim (Utf8.fromUtf8Lossy bytes))

def readOutput (what : String) : Output → Except String String
  | .failed error | .unwritten error => .error s!"{what}: {error}"
  | .ended false _ stderr => .error s!"{what} failed: {trimmed stderr}"
  | .ended true stdout _ => .ok (String.ofList (TextLines.trimEnd (Utf8.fromUtf8Lossy stdout)))

def run (line : Invocation) (what : String) : Talk String := do
  let output ← askGit line
  ofExcept (readOutput what output)

structure StagedCandidate where
  base : String
  commit : String
  entries : List ChangedEntry
  patchText : String

section Staging

variable (debug : Debug) (repo : String)

def readDiff : Output → Except String (List ChangedEntry)
  | .failed error | .unwritten error => .error s!"git diff-tree: {error}"
  | .ended false _ stderr => .error s!"git diff-tree failed: {trimmed stderr}"
  | .ended true stdout _ => parseRawDiff debug stdout

def realDiff (base head : String) : Talk (List ChangedEntry) := do
  let output ← askGit (invocation repo (.diffTree base head))
  ofExcept (readDiff debug output)

def realPatchText (base head : String) : Talk String := run (invocation repo (.diff base head)) "git diff"

def inspectPrefix (base : String) (parts : List (List Char)) (mode : String) (i : Nat) : Talk String := do
  let below := joinComponents (parts.take i)
  let listing ← run (invocation repo (.lsTree base below)) "inspect base tree"
  match (listing.toList.splitOn nul).find? (· ≠ []) with
  | none => return mode
  | some entry =>
    let entryMode := String.ofList ((entry.splitOn ' ').headD [])
    if entryMode = "120000" ∨ entryMode = "160000" then
      refuse s!"{debug.text below} is a symlink or submodule in the base tree; refused"
    else return if i = parts.length ∧ isRegularMode entryMode then entryMode else mode

def readBlob : Output → Except String String
  | .failed error => .error s!"git hash-object: {error}"
  | .unwritten error => .error s!"write blob: {error}"
  | .ended false _ stderr => .error s!"git hash-object failed: {trimmed stderr}"
  | .ended true stdout _ => .ok (trimmed stdout)

/-- The commit that changes one path of the base, made with an index of its own. -/
def commitThrough (index base mode targetPath : String) (contents : Bytes) (author : Operator) (message : String) :
    Talk String := do
  let _ ← run (invocation repo (.readTree index base)) "read base tree into temporary index"
  let output ← askGit (invocation repo (.hashObject contents))
  let blob ← ofExcept (readBlob output)
  let _ ← run (invocation repo (.updateIndex index mode blob targetPath)) "add blob to temporary index"
  let tree ← run (invocation repo (.writeTree index)) "write candidate tree"
  run (invocation repo (.commitTree author tree base message)) "create candidate commit"

def candidateCommit (targetPath : String) (contents : Bytes) (author : Operator) (message : String) :
    Talk (String × String) := do
  let base ← run (invocation repo (.revParse "HEAD^\x7bcommit\x7d")) "resolve base commit"
  let _ ← ofExcept (refuseIf (base = "") "target repository has no base commit")
  let parts := components targetPath
  let mode ← (List.range' 1 parts.length).foldlM (inspectPrefix debug repo base parts) "100644"
  let made ← act .tempDir
  let directory ← orRefuse (fun e => s!"temp index dir: {e}") made
  let commit ← commitThrough repo (Supervisor.joinPath directory "index") base mode targetPath contents author message
  return (base, commit)

def readCandidate (base commit : String) : Talk StagedCandidate := do
  let entries ← realDiff debug repo base commit
  let patchText ← realPatchText repo base commit
  return { base, commit, entries, patchText }

def stageCandidateCommit (targetPath : String) (contents : Bytes) (author : Operator) (message : String) :
    Talk StagedCandidate := do
  let (base, commit) ← candidateCommit debug repo targetPath contents author message
  readCandidate debug repo base commit

end Staging

section Branches

variable (debug : Debug) (repo : String)

def filled : Except String String → List String
  | .ok name => if name = "" then [] else [name]
  | .error _ => []

def originBranch : Except String String → List String
  | .ok name => if "origin/".toList.isPrefixOf name.toList then [String.ofList (name.toList.drop 7)] else []
  | .error _ => []

def defaultNames (current origin initial : Output) : List String :=
  ["main", "master"] ++ filled (readOutput "current branch" current) ++
    originBranch (readOutput "origin default branch" origin) ++ filled (readOutput "init.defaultBranch" initial)

def defaultBranchNames : Talk (List String) := do
  let current ← askGit (invocation repo (.symbolicRef "HEAD"))
  let origin ← askGit (invocation repo (.symbolicRef "refs/remotes/origin/HEAD"))
  let initial ← askGit (invocation repo (.configGet "init.defaultBranch"))
  return defaultNames current origin initial

def isPlain (c : Char) : Bool := c.isAlphanum || c = '-' || c = '_'

def reviewBranchName (proposalId : String) : Except String String := do
  refuseIf (proposalId = "" ∨ 100 < (utf8 proposalId).length ∨ proposalId.toList.all isPlain = false)
    s!"proposal id {debug.text proposalId} is not usable in a branch name"
  return s!"rsi/{proposalId}"

def trimTimes (start : List Char) : Nat → List Char → List Char
  | 0, text => text
  | times + 1, text => if start <+: text then trimTimes start times (text.drop start.length) else text

def trimStartMatches (start text : List Char) : List Char := trimTimes start text.length text

/-- Creates the branch; with an empty old value it must not exist yet. -/
def writeReviewBranch (short commit : String) : Talk Unit := do
  let full := s!"refs/heads/{short}"
  let _ ← run (invocation repo (.checkRefFormat full)) "check branch name"
  let _ ← run (invocation repo (.updateRef "rsi: review branch" full commit "")) "create review branch"

def createReviewBranch (branch commit : String) : Talk Unit := do
  let short := String.ofList (trimStartMatches "refs/heads/".toList branch.toList)
  let names ← defaultBranchNames repo
  if short ∈ names then refuse s!"refusing to write default branch {debug.text short}"
  else writeReviewBranch repo short commit

def formatPatch (commit : String) : Talk String := run (invocation repo (.formatPatch commit)) "format patch"

end Branches

structure Proposal extends ImprovementProposal where
  id : String
  title : String

structure InvariantReport where
  passed : Bool
  notes : List String

structure RatificationRecord where
  proposalId : String
  commitHash : Option String
  branch : Option String
  patchPath : Option String
  author : String
  cortexReceiptId : Option String
  cortexRecorded : Bool
  timestamp : String
  status : String
  message : String

structure Call where
  proposal : Proposal
  invariants : InvariantReport
  targetRepo : String
  ratifyRoots : List String
  patchDir : String
  ledgerBlockHash : Option String
  cortexUrl : String
  cortexSpace : String
  now : String
  operator : Operator

section Ratification

variable (debug : Debug) (call : Call)

def rejected (message : String) : RatificationRecord :=
  { proposalId := call.proposal.id, commitHash := none, branch := none, patchPath := none
    author := call.operator.authorString, cortexReceiptId := none, cortexRecorded := false, timestamp := call.now
    status := "Rejected", message }

def publish (staged : StagedCandidate) (branch : String) : Talk RatificationRecord := do
  let patch ← formatPatch call.targetRepo staged.commit
  let made ← act (.createDirAll call.patchDir)
  let _ ← orRefuse (fun e => s!"Failed to create patch dir {debug.text call.patchDir}: {e}") made
  let patchPath := Supervisor.joinPath call.patchDir s!"{call.proposal.id}.patch"
  let written ← act (.write patchPath s!"{patch}\n")
  let _ ← orRefuse (fun e => s!"Failed to write patch {debug.text patchPath}: {e}") written
  let (receiptId, recorded) ← act (.recordCortexLesson
    { proposalId := call.proposal.id, commitHash := some staged.commit, ledgerBlockHash := call.ledgerBlockHash
      cortexUrl := call.cortexUrl, cortexSpace := call.cortexSpace })
  return { proposalId := call.proposal.id, commitHash := some staged.commit, branch := some branch
           patchPath := some patchPath, author := call.operator.authorString, cortexReceiptId := receiptId
           cortexRecorded := recorded, timestamp := call.now, status := "ProposedForReview"
           message := s!"Proposal '{call.proposal.title}' is on review branch {branch} with patch {patchPath}. The default branch is unchanged; a human merges it." }

def nameReviewed (target branch : String) (staged : StagedCandidate) : Talk RatificationRecord := do
  let violations := checkRealDiff debug staged.entries staged.patchText target call.ratifyRoots
  if violations ≠ [] then
    let listed := "; ".intercalate violations
    return rejected call s!"Real diff refused: {listed}"
  else
    let created ← attempt (createReviewBranch debug call.targetRepo branch staged.commit)
    match created with
    | .error e => return rejected call s!"Review branch refused: {e}"
    | .ok () => publish debug call staged branch

def ratifyProposal : Talk RatificationRecord :=
  if call.invariants.passed = false then
    pure (rejected call s!"Invariant checks failed: {debug.texts call.invariants.notes}")
  else
    match checkDeclaredTarget debug call.proposal.targetFile call.ratifyRoots with
    | .error e => pure (rejected call s!"Declared target refused: {e}")
    | .ok target =>
      match reviewBranchName debug call.proposal.id with
      | .error e => pure (rejected call e)
      | .ok branch => do
        let message := s!"rsi: {call.proposal.title} ({call.proposal.id})"
        let staged ← attempt (stageCandidateCommit debug call.targetRepo target (utf8 call.proposal.proposedPatch)
          call.operator message)
        match staged with
        | .error e => return rejected call s!"Candidate commit refused: {e}"
        | .ok staged => nameReviewed debug call target branch staged

end Ratification

end SparkRsi.Governance
