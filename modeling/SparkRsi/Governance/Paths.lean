import SparkRsi.Shared.Parts
import SparkRsi.Shared.Results

set_option autoImplicit false

namespace SparkRsi.Governance

open Shared

structure Debug where
  text : String → String
  texts : List String → String

def components (path : String) : List (List Char) := path.toList.splitOn '/'

def joinComponents (parts : List (List Char)) : String := String.ofList (Parts.join '/' parts)

def isNamed (part : List Char) : Bool := part ≠ [] && part ≠ ['.']

variable (debug : Debug)

section RepoPath

def isGit (part : List Char) : Bool := part.map Char.toLower = ['.', 'g', 'i', 't']

def keepParts (raw : String) : List (List Char) → Except String (List (List Char))
  | [] => .ok []
  | comp :: rest =>
    if comp = [] ∨ comp = ['.'] then keepParts raw rest
    else if comp = ['.', '.'] then .error s!"parent-directory component refused: {debug.text raw}"
    else if isGit comp then .error s!"git metadata path refused: {debug.text raw}"
    else do
      let parts ← keepParts raw rest
      return comp :: parts

/-- A path relative to the repository, inside it and outside git's own files. -/
def normalizeRepoPath (raw : String) : Except String String := do
  refuseIf (raw.toList = []) "empty path"
  refuseIf (Char.ofNat 0 ∈ raw.toList) s!"path contains NUL: {debug.text raw}"
  refuseIf ('\\' ∈ raw.toList) s!"path contains backslash: {debug.text raw}"
  refuseIf (raw.toList.head? = some '/') s!"absolute path refused: {debug.text raw}"
  let parts ← keepParts debug raw (components raw)
  refuseIf (parts = []) s!"path names the repository root: {debug.text raw}"
  return joinComponents parts

def withinRoots (path : String) (roots : List String) : Bool :=
  roots.any fun root =>
    match normalizeRepoPath debug root with
    | .ok r => (components r).isPrefixOf (components path)
    | .error _ => false

end RepoPath

namespace RootOfTrust

def protectedPaths : List String :=
  ["Cargo.toml", "Cargo.lock", ".cargo", "src/isolation", "src/evaluator", "src/ledger", "src/governance",
    "src/supervisor", "src/daemon.rs", "tests", ".github", "CONSTITUTION.md", "LICENSE", "agent.json",
    ".rsi/ledger.db", ".rsi/active", ".rsi/holdouts"]

def resolve (path : String) : List (List Char) → List (List Char) → Except String (List (List Char))
  | stack, [] => .ok stack
  | stack, comp :: rest =>
    if comp = [] ∨ comp = ['.'] then resolve path stack rest
    else if comp = ['.', '.'] then
      match stack with
      | [] => .error s!"path {debug.text path} climbs above the repository root"
      | _ :: below => resolve path below rest
    else resolve path (comp :: stack) rest

def normalizeStrict (path : String) : Except String String := do
  refuseIf ('\\' ∈ path.toList ∨ Char.ofNat 0 ∈ path.toList) s!"path {debug.text path} contains a backslash or NUL"
  let stack ← resolve debug path [] (components path)
  return joinComponents stack.reverse

/-- What cannot be normalized counts as protected. -/
def isProtectedPath (path : String) : Bool :=
  match normalizeStrict debug path with
  | .error _ => true
  | .ok normalized =>
    if normalized.toList = [] then true
    else protectedPaths.any fun p => (components p).isPrefixOf (components normalized)

def assertPatchPermitted (targetFile : String) (tier : UInt8) : Except String Unit := do
  let normalized ← (normalizeStrict debug targetFile).mapError fun e => s!"SECURITY VIOLATION: {e}"
  refuseIf (isProtectedPath debug normalized = true ∧ tier < 2)
    s!"SECURITY VIOLATION: Target path '{normalized}' is a protected root-of-trust file. Required tier: >= 2, candidate tier: {tier}"

def refusal : Except String Unit → Option String
  | .ok () => none
  | .error msg => some msg

def validateDeclaredFiles (declaredFiles : List String) (tier : UInt8) : Except (List String) Unit :=
  let violations := declaredFiles.filterMap fun file => refusal (assertPatchPermitted debug file tier)
  if violations = [] then .ok () else .error violations

end RootOfTrust

/-- Root-of-trust files need tier 2, which the ratifier never grants. -/
def ratifierTier : UInt8 := 1

def checkDeclaredTarget (targetFile : String) (roots : List String) : Except String String := do
  let normalized ← normalizeRepoPath debug targetFile
  refuseIf (withinRoots debug normalized roots = false)
    s!"target {debug.text normalized} is outside the declared roots {debug.texts roots}"
  RootOfTrust.assertPatchPermitted debug normalized ratifierTier
  return normalized

variable {debug} {raw : String}

theorem components_clean {path : String} {part : List Char} (member : part ∈ components path) : '/' ∉ part :=
  Parts.sep_notMem_of_mem_splitOn '/' member

@[simp] theorem toList_joinComponents (parts : List (List Char)) :
    (joinComponents parts).toList = Parts.join '/' parts := String.toList_ofList

theorem components_joinComponents {parts : List (List Char)} (clean : ∀ part ∈ parts, '/' ∉ part)
    (nonempty : parts ≠ []) :
    components (joinComponents parts) = parts := by
  rw [components, toList_joinComponents, Parts.splitOn_join '/' clean nonempty]

theorem isNamed_iff {part : List Char} : isNamed part = true ↔ ¬(part = [] ∨ part = ['.']) := by
  simp [isNamed]

theorem keepParts_ok {comps parts : List (List Char)} : keepParts debug raw comps = .ok parts ↔
    parts = comps.filter isNamed ∧ ∀ comp ∈ comps, comp ≠ ['.', '.'] ∧ isGit comp = false := by
  induction comps generalizing parts with
  | nil =>
    constructor
    · rintro ⟨⟩
      exact ⟨rfl, by simp⟩
    · rintro ⟨rfl, -⟩
      rfl
  | cons comp rest ih =>
    rw [keepParts, List.forall_mem_cons]
    by_cases skipped : comp = [] ∨ comp = ['.']
    · have dropped : isNamed comp = false := by
        rw [← Bool.not_eq_true, isNamed_iff]
        exact not_not.mpr skipped
      have harmless : comp ≠ ['.', '.'] ∧ isGit comp = false := by
        rcases skipped with rfl | rfl <;> decide
      rw [if_pos skipped, ih, List.filter_cons_of_neg (by simp [dropped])]
      tauto
    · rw [if_neg skipped, List.filter_cons_of_pos (isNamed_iff.mpr skipped)]
      by_cases up : comp = ['.', '.']
      · simp [up]
      · rw [if_neg up]
        by_cases git : isGit comp = true
        · simp [git]
        · rw [if_neg git]
          simp only [bind_eq_ok, ih]
          constructor
          · rintro ⟨_, ⟨rfl, clean⟩, ⟨⟩⟩
            exact ⟨rfl, ⟨up, by simpa using git⟩, clean⟩
          · rintro ⟨rfl, -, clean⟩
            exact ⟨_, ⟨rfl, clean⟩, rfl⟩

-- An accepted path is its named components.
theorem normalizeRepoPath_ok {r : String} : normalizeRepoPath debug raw = .ok r ↔
    raw.toList ≠ [] ∧ Char.ofNat 0 ∉ raw.toList ∧ '\\' ∉ raw.toList ∧ raw.toList.head? ≠ some '/' ∧
      (∀ comp ∈ components raw, comp ≠ ['.', '.'] ∧ isGit comp = false) ∧
      (components raw).filter isNamed ≠ [] ∧ r = joinComponents ((components raw).filter isNamed) := by
  simp only [normalizeRepoPath, bind_eq_ok, exists_unit, refuseIf_eq_ok, keepParts_ok]
  constructor
  · rintro ⟨filled, noNul, noBackslash, relative, _, ⟨rfl, clean⟩, some_left, ⟨⟩⟩
    exact ⟨filled, noNul, noBackslash, relative, clean, some_left, rfl⟩
  · rintro ⟨filled, noNul, noBackslash, relative, clean, some_left, rfl⟩
    exact ⟨filled, noNul, noBackslash, relative, _, ⟨rfl, clean⟩, some_left, rfl⟩

structure Normal (raw r : String) : Prop where
  parts : components r = (components raw).filter isNamed
  named : ∀ part ∈ components r, isNamed part = true
  nonempty : components r ≠ []

theorem normal_of_normalizeRepoPath {r : String} (normalized : normalizeRepoPath debug raw = .ok r) :
    Normal raw r := by
  obtain ⟨-, -, -, -, -, some_left, rfl⟩ := normalizeRepoPath_ok.mp normalized
  have parts := components_joinComponents
    (fun part member => components_clean (List.mem_of_mem_filter member)) some_left
  constructor
  · exact parts
  · intro part member
    rw [parts] at member
    exact (List.mem_filter.mp member).2
  · rw [parts]
    exact some_left

theorem mem_join_iff {parts : List (List Char)} {c : Char} (apart : c ≠ '/') :
    c ∈ Parts.join '/' parts ↔ ∃ part ∈ parts, c ∈ part := by
  induction parts with
  | nil => simp [Parts.join]
  | cons part rest ih =>
    cases rest with
    | nil => simp
    | cons next others =>
      rw [Parts.join_cons '/' part (by simp), List.mem_append, List.mem_cons, ih]; simp [apart]

-- Normalizing once is enough.
theorem normalizeRepoPath_idem {r : String} (normalized : normalizeRepoPath debug raw = .ok r) :
    normalizeRepoPath debug r = .ok r := by
  have normal := normal_of_normalizeRepoPath normalized
  obtain ⟨-, noNul, noBackslash, -, clean, some_left, built⟩ := normalizeRepoPath_ok.mp normalized
  have kept : (components r).filter isNamed = components r := List.filter_eq_self.mpr normal.named
  have joined : r.toList = Parts.join '/' (components r) := (Parts.join_splitOn '/' r.toList).symm
  have inRaw (c : Char) (apart : c ≠ '/') (member : c ∈ r.toList) : c ∈ raw.toList := by
    rw [joined, mem_join_iff apart, normal.parts] at member
    obtain ⟨part, inside, here⟩ := member
    rw [← Parts.join_splitOn '/' raw.toList, mem_join_iff apart]
    exact ⟨part, List.mem_of_mem_filter inside, here⟩
  obtain ⟨first, rest, split⟩ := List.exists_cons_of_ne_nil normal.nonempty
  obtain ⟨c, others, rfl⟩ : ∃ c others, first = c :: others := by
    have named := normal.named first (by simp [split])
    cases first with
    | nil => cases named
    | cons c others => exact ⟨c, others, rfl⟩
  have head : r.toList.head? = some c := by
    rw [joined, split]
    cases rest with
    | nil => simp
    | cons next tail => simp [Parts.join_cons]
  refine normalizeRepoPath_ok.mpr ⟨?_, fun member => noNul (inRaw _ (by decide) member),
    fun member => noBackslash (inRaw _ (by decide) member), ?_, ?_, kept.symm ▸ normal.nonempty, ?_⟩
  · intro empty
    simp [empty] at head
  · rw [head]
    intro slash
    have inside : c :: others ∈ components r := by simp [split]
    exact components_clean inside (Option.some.inj slash ▸ List.mem_cons_self)
  · intro comp member
    rw [normal.parts] at member
    exact clean comp (List.mem_of_mem_filter member)
  · rw [kept, joinComponents, ← joined, String.ofList_toList]

theorem checkDeclaredTarget_ok {roots : List String} {r : String} :
    checkDeclaredTarget debug raw roots = .ok r ↔ normalizeRepoPath debug raw = .ok r ∧
      withinRoots debug r roots = true ∧ RootOfTrust.assertPatchPermitted debug r ratifierTier = .ok () := by
  simp only [checkDeclaredTarget, bind_eq_ok, exists_unit, refuseIf_eq_ok, Bool.not_eq_false]
  constructor
  · rintro ⟨_, normalized, inside, permitted, ⟨⟩⟩
    exact ⟨normalized, inside, permitted⟩
  · rintro ⟨normalized, inside, permitted⟩
    exact ⟨r, normalized, inside, permitted, rfl⟩

end SparkRsi.Governance
