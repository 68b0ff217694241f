import SparkRsi.Propose.Sandbox

set_option autoImplicit false

namespace SparkRsi.Propose

open Shared Governance
open Actor (OsStr PathBuf Tree)

section Trees

def Distinct : Tree → Prop
  | .empty => True
  | .file name _ rest => name ∉ rest.names ∧ Distinct rest
  | .special name rest => name ∉ rest.names ∧ Distinct rest
  | .dir name inner rest => name ∉ rest.names ∧ Distinct inner ∧ Distinct rest

def regularFile (tree : Tree) (path : PathBuf) : Option Bytes :=
  match tree.entry path with
  | some (.file content) => some content
  | _ => none

@[simp] theorem regularFile_nil (tree : Tree) : regularFile tree [] = none := rfl

theorem regularFile_of_notMem {tree : Tree} {name : OsStr} (absent : name ∉ tree.names) (rel : PathBuf) :
    regularFile tree (name :: rel) = none := by
  rw [regularFile]
  split
  next content found => exact absurd (Tree.mem_names_of_entry found) absent
  next => rfl

theorem regularFile_file (name : OsStr) (content : Bytes) (rest : Tree) (rel : PathBuf) :
    regularFile (.file name content rest) (name :: rel) = if rel = [] then some content else none := by
  simp only [regularFile, Tree.entry_file, if_true]
  by_cases last : rel = [] <;> simp [last]

theorem regularFile_special (name : OsStr) (rest : Tree) (rel : PathBuf) :
    regularFile (.special name rest) (name :: rel) = none := by
  simp only [regularFile, Tree.entry_special, if_true]
  by_cases last : rel = [] <;> simp [last]

theorem regularFile_dir (name : OsStr) (inner rest : Tree) (rel : PathBuf) :
    regularFile (.dir name inner rest) (name :: rel) = regularFile inner rel := by
  simp only [regularFile, Tree.entry_dir, if_true]

-- An entry in front of the others does not change what their names lead to.
theorem regularFile_behind {first rest : Tree} {name other : OsStr} (apart : other ≠ name)
    (shape : (∃ content, first = .file other content rest) ∨ first = .special other rest ∨
      ∃ inner, first = .dir other inner rest) (rel : PathBuf) :
    regularFile first (name :: rel) = regularFile rest (name :: rel) := by
  rcases shape with ⟨content, rfl⟩ | rfl | ⟨inner, rfl⟩
  · simp only [regularFile, Tree.entry_file, if_neg apart]
  · simp only [regularFile, Tree.entry_special, if_neg apart]
  · simp only [regularFile, Tree.entry_dir, if_neg apart]

def copiedFile (depth : Nat) (tree : Tree) (rel : PathBuf) : Option Bytes :=
  if rel.any skips = true ∨ 9 < depth + rel.length then none else regularFile tree rel

end Trees

section Writes

variable {sandbox after : Sandbox} {path other : PathBuf} {content : Bytes}

namespace Sandbox

theorem set_self (node : Node) : sandbox.set path node path = some node := Function.update_self ..

theorem set_of_ne {node : Node} (apart : other ≠ path) : sandbox.set path node other = sandbox other :=
  Function.update_of_ne apart ..

theorem write_eq_some : sandbox.write path content = some after ↔
    (sandbox path.dropLast = some .dir ∧ sandbox path ≠ some .dir) ∧
      after = sandbox.set path (.file content) := by
  rw [write]
  split
  next free => simp [free, eq_comm]
  next taken => simp [taken]

theorem fileAt_set_file : (sandbox.set path (.file content)).fileAt other =
    if other = path then some content else sandbox.fileAt other := by
  by_cases same : other = path
  next => rw [if_pos same, fileAt, same, set_self]
  next => rw [if_neg same, fileAt, fileAt, set_of_ne same]

-- A directory where nothing stood leaves the files as they are.
theorem fileAt_set_dir (free : sandbox path = none) :
    (sandbox.set path .dir).fileAt other = sandbox.fileAt other := by
  by_cases same : other = path
  next => rw [fileAt, fileAt, same, set_self, free]
  next => rw [fileAt, fileAt, set_of_ne same]

theorem fileAt_createDirAll {names current : PathBuf}
    (made : sandbox.createDirAll current names = some after) :
    after.fileAt other = sandbox.fileAt other := by
  induction names generalizing current sandbox with
  | nil =>
    cases made
    rfl
  | cons name rest ih =>
    rw [createDirAll] at made
    split at made
    next => cases made
    next => exact ih made
    next free => rw [ih made, fileAt_set_dir free]

-- Directories that are there are gone through.
theorem createDirAll_append {names rest current : PathBuf}
    (standing : ∀ n, 0 < n → n ≤ names.length → sandbox (current ++ names.take n) = some .dir) :
    sandbox.createDirAll current (names ++ rest) = sandbox.createDirAll (current ++ names) rest := by
  induction names generalizing current with
  | nil => simp
  | cons name others ih =>
    have here : sandbox (current ++ [name]) = some .dir := standing 1 Nat.one_pos (by simp)
    rw [List.cons_append, createDirAll, here]
    simp only
    rw [ih, List.append_assoc, List.singleton_append]
    intro n positive within
    have further := standing (n + 1) (Nat.succ_pos n) (by simpa using within)
    rwa [List.take_succ_cons, ← List.singleton_append, ← List.append_assoc] at further

end Sandbox

end Writes

section Copy

variable {io : StageIo} {text : StageText} {repoRoot sandboxDir : PathBuf}

structure StageIo.Calm (io : StageIo) : Prop where
  removed : io.leftover = none
  seen : ∀ path, io.unseen path = false
  copied : ∀ path, io.copy path = none

/-- The directory being filled stands, and nothing stands yet where its entries go. -/
structure Awaits (sandbox : Sandbox) (current : PathBuf) (tree : Tree) : Prop where
  standing : ∀ path, path <+: current → sandbox path = some .dir
  free : ∀ name ∈ tree.names, ∀ rel, sandbox (current ++ name :: rel) = none

structure Filled (before after : Sandbox) (current : PathBuf) (depth : Nat) (tree : Tree) : Prop where
  elsewhere : ∀ path, (∀ name ∈ tree.names, ¬current ++ [name] <+: path) → after path = before path
  here : ∀ name ∈ tree.names, ∀ rel, after.fileAt (current ++ name :: rel) = copiedFile depth tree (name :: rel)

variable {current : PathBuf} {name : OsStr} {sandbox between after : Sandbox} {depth : Nat}
  {first rest : Tree}

theorem below_iff {other : OsStr} {rel : PathBuf} :
    current ++ [other] <+: current ++ name :: rel ↔ other = name := by
  rw [List.prefix_append_right_inj, List.cons_prefix_cons]
  simp

theorem not_below_of_begins {path : PathBuf} (above : path <+: current) (other : OsStr) :
    ¬current ++ [other] <+: path := by
  intro below
  have longer := (below.trans above).length_le
  rw [List.length_append, List.length_singleton] at longer
  omega

structure Placed (before after : Sandbox) (current : PathBuf) (depth : Nat) (tree : Tree) (name : OsStr) : Prop where
  elsewhere : ∀ path, ¬current ++ [name] <+: path → after path = before path
  here : ∀ rel, after.fileAt (current ++ name :: rel) = copiedFile depth tree (name :: rel)

-- An entry that brings no files leaves the sandbox as it is.
theorem Placed.nothing (awaits : Awaits sandbox current first) (listed : name ∈ first.names)
    (fileless : ∀ rel, copiedFile depth first (name :: rel) = none) :
    Placed sandbox sandbox current depth first name := by
  constructor
  case elsewhere =>
    intro path outside
    rfl
  case here =>
    intro rel
    rw [fileless, Sandbox.fileAt, awaits.free name listed]

theorem Awaits.behind (awaits : Awaits sandbox current first) (names : first.names = name :: rest.names)
    (absent : name ∉ rest.names) (placed : Placed sandbox between current depth first name) :
    Awaits between current rest := by
  constructor
  case standing =>
    intro path above
    rw [placed.elsewhere path (not_below_of_begins above name)]
    exact awaits.standing path above
  case free =>
    intro other inside rel
    rw [placed.elsewhere _ fun below => absent (below_iff.mp below ▸ inside)]
    exact awaits.free other (names ▸ List.mem_cons_of_mem _ inside) rel

theorem Filled.cons (names : first.names = name :: rest.names) (absent : name ∉ rest.names)
    (behind : ∀ other, name ≠ other → ∀ rel, regularFile first (other :: rel) = regularFile rest (other :: rel))
    (placed : Placed sandbox between current depth first name)
    (filled : Filled between after current depth rest) :
    Filled sandbox after current depth first := by
  constructor
  case elsewhere =>
    intro path outside
    rw [names, List.forall_mem_cons] at outside
    rw [filled.elsewhere path outside.2, placed.elsewhere path outside.1]
  case here =>
    intro other member rel
    by_cases same : name = other
    next =>
      subst same
      have kept : after (current ++ name :: rel) = between (current ++ name :: rel) := by
        apply filled.elsewhere
        intro listed inside below
        exact absent (below_iff.mp below ▸ inside)
      rw [← placed.here, Sandbox.fileAt, Sandbox.fileAt, kept]
    next =>
      have later : other ∈ rest.names := by
        rw [names] at member
        exact (List.mem_cons.mp member).resolve_left (Ne.symm same)
      rw [filled.here other later, copiedFile, copiedFile, behind other same]

theorem copiedFile_of_skips (hidden : skips name = true) (tree : Tree) (rel : PathBuf) :
    copiedFile depth tree (name :: rel) = none := by
  rw [copiedFile, if_pos]
  exact .inl (by simp [hidden])

-- A regular file's copy.
theorem Placed.file (awaits : Awaits sandbox current first) (listed : name ∈ first.names) {content : Bytes}
    (shallow : depth ≤ 8) (shown : skips name = false) (calm : io.Calm)
    (found : ∀ rel, regularFile first (name :: rel) = if rel = [] then some content else none) :
    Placed sandbox (copyFile io (current ++ [name]) content sandbox) current depth first name := by
  have free : sandbox (current ++ [name]) = none := awaits.free name listed []
  have written : sandbox.write (current ++ [name]) content =
      some (sandbox.set (current ++ [name]) (.file content)) := by
    rw [Sandbox.write_eq_some, List.dropLast_concat, free]
    exact ⟨⟨awaits.standing current (List.prefix_refl _), nofun⟩, rfl⟩
  have copied : copyFile io (current ++ [name]) content sandbox =
      sandbox.set (current ++ [name]) (.file content) := by
    rw [copyFile, calm.copied]
    simp [written]
  rw [copied]
  constructor
  case elsewhere =>
    intro path outside
    apply Sandbox.set_of_ne
    intro same
    exact outside (same ▸ List.prefix_refl _)
  case here =>
    intro rel
    rw [Sandbox.fileAt_set_file, copiedFile, found]
    by_cases last : rel = []
    next =>
      subst last
      have kept : ¬([name].any skips = true ∨ 9 < depth + [name].length) := by
        rw [List.any_cons, List.any_nil, Bool.or_false, shown, List.length_singleton, not_or]
        exact ⟨Bool.false_ne_true, by omega⟩
      rw [if_pos rfl, if_neg kept, if_pos rfl]
    next =>
      have apart : current ++ name :: rel ≠ current ++ [name] := by simpa using last
      rw [if_neg apart, if_neg last, ite_self, Sandbox.fileAt, awaits.free name listed]

-- A new directory is made in one that stands, and awaits its entries.
theorem Awaits.mkdir (awaits : Awaits sandbox current first) (listed : name ∈ first.names) :
    sandbox.createDirAll [] (current ++ [name]) = some (sandbox.set (current ++ [name]) .dir) := by
  rw [Sandbox.createDirAll_append, List.nil_append, Sandbox.createDirAll, awaits.free name listed []]
  · rfl
  · intro n _ _
    exact awaits.standing _ (List.take_prefix n current)

theorem Awaits.entered (awaits : Awaits sandbox current first) (listed : name ∈ first.names) (inner : Tree) :
    Awaits (sandbox.set (current ++ [name]) .dir) (current ++ [name]) inner := by
  constructor
  case standing =>
    intro path above
    by_cases whole : path = current ++ [name]
    next => rw [whole, Sandbox.set_self]
    next =>
      rw [Sandbox.set_of_ne whole]
      exact awaits.standing path ((List.prefix_concat_iff.mp above).resolve_left whole)
  case free =>
    intro other _ rel
    rw [Sandbox.set_of_ne (by simp), List.append_assoc]
    exact awaits.free name listed (other :: rel)

-- The new directory's entries are the entry's.
theorem Filled.placed {inner : Tree} (awaits : Awaits sandbox current first) (listed : name ∈ first.names)
    (inside : ∀ rel, copiedFile depth first (name :: rel) = copiedFile (depth + 1) inner rel)
    (filled : Filled (sandbox.set (current ++ [name]) .dir) between (current ++ [name]) (depth + 1) inner) :
    Placed sandbox between current depth first name := by
  constructor
  case elsewhere =>
    intro path outside
    rw [filled.elsewhere, Sandbox.set_of_ne]
    · intro same
      exact outside (same ▸ List.prefix_refl _)
    · intro other _ below
      exact outside ((List.prefix_append _ _).trans below)
  case here =>
    intro rel
    rw [inside]
    cases rel with
    | nil =>
      have top : between (current ++ [name]) = some .dir := by
        rw [filled.elsewhere, Sandbox.set_self]
        exact fun other _ => not_below_of_begins (List.prefix_refl _) other
      simp [Sandbox.fileAt, top, copiedFile]
    | cons next others =>
      have split : current ++ name :: next :: others = current ++ [name] ++ next :: others := by simp
      by_cases known : next ∈ inner.names
      next => rw [split, filled.here next known]
      next =>
        have kept : between (current ++ name :: next :: others) = none := by
          rw [split, filled.elsewhere, Sandbox.set_of_ne (by simp), ← split]
          · exact awaits.free name listed _
          · intro other member below
            exact known (below_iff.mp below ▸ member)
        rw [Sandbox.fileAt, kept, copiedFile, regularFile_of_notMem known, ite_self]

-- A directory's copy, which is empty from a certain depth on.
theorem Placed.dir {inner : Tree} (awaits : Awaits sandbox current first) (listed : name ∈ first.names)
    (shallow : depth ≤ 8) (shown : skips name = false)
    (found : ∀ rel, regularFile first (name :: rel) = regularFile inner rel)
    (copied : copyDirWith io text repoRoot sandboxDir
      (copyEntries io text repoRoot sandboxDir (current ++ [name]) (depth + 1) inner) (current ++ [name]) (depth + 1)
      sandbox = .ok between)
    (ih : ∀ {made filled : Sandbox}, Awaits made (current ++ [name]) inner → depth + 1 ≤ 8 →
      copyEntries io text repoRoot sandboxDir (current ++ [name]) (depth + 1) inner made = .ok filled →
      Filled made filled (current ++ [name]) (depth + 1) inner) :
    Placed sandbox between current depth first name := by
  have inside (rel : PathBuf) : copiedFile depth first (name :: rel) = copiedFile (depth + 1) inner rel := by
    have deeper : depth + (name :: rel).length = depth + 1 + rel.length := by
      rw [List.length_cons]
      omega
    rw [copiedFile, copiedFile, found, deeper, List.any_cons, shown, Bool.false_or]
  rw [copyDirWith] at copied
  split at copied
  next deep =>
    cases copied
    apply Placed.nothing awaits listed
    intro rel
    rw [inside, copiedFile]
    cases rel with
    | nil => simp
    | cons next others =>
      apply if_pos
      right
      rw [List.length_cons]
      omega
  next open_ =>
    have free : sandbox (current ++ [name]) = none := awaits.free name listed []
    rw [free] at copied
    simp only [Option.isSome_none, Bool.false_eq_true, if_false, awaits.mkdir listed, bind_eq_ok, exists_unit,
      mapError_eq_ok, faulty_eq_ok, okOr_eq_ok, Option.some.injEq] at copied
    obtain ⟨-, made, rfl, -, entered⟩ := copied
    exact (ih (awaits.entered listed inner) (Nat.not_lt.mp open_) entered).placed awaits listed inside

-- The pass over a directory's entries brings their files, and nothing else.
theorem copyEntries_filled (calm : io.Calm) {tree : Tree} (distinct : Distinct tree) (shallow : depth ≤ 8)
    (awaits : Awaits sandbox current tree)
    (copied : copyEntries io text repoRoot sandboxDir current depth tree sandbox = .ok after) :
    Filled sandbox after current depth tree := by
  induction tree generalizing current depth sandbox after with
  | empty =>
    cases copied
    exact ⟨fun _ _ => rfl, nofun⟩
  | special name rest ih =>
    have placed : Placed sandbox sandbox current depth (.special name rest) name := by
      apply Placed.nothing awaits List.mem_cons_self
      intro rel
      rw [copiedFile, regularFile_special, ite_self]
    apply Filled.cons rfl distinct.1 _ placed
    · exact ih distinct.2 shallow (awaits.behind rfl distinct.1 placed) copied
    · exact fun other apart => regularFile_behind apart (.inr (.inl rfl))
  | file name content rest ih =>
    rw [copyEntries, calm.seen, Bool.or_false] at copied
    have behind (other : OsStr) (apart : name ≠ other) :=
      @regularFile_behind _ rest _ _ apart (.inl ⟨content, rfl⟩)
    cases hidden : skips name with
    | true =>
      have placed : Placed sandbox sandbox current depth (.file name content rest) name :=
        Placed.nothing awaits List.mem_cons_self (copiedFile_of_skips hidden _)
      rw [if_pos hidden] at copied
      exact Filled.cons rfl distinct.1 behind placed (ih distinct.2 shallow (awaits.behind rfl distinct.1 placed) copied)
    | false =>
      have placed := Placed.file awaits List.mem_cons_self shallow hidden calm (regularFile_file name content rest)
      rw [if_neg (by simp [hidden])] at copied
      exact Filled.cons rfl distinct.1 behind placed (ih distinct.2 shallow (awaits.behind rfl distinct.1 placed) copied)
  | dir name inner rest inner_ih ih =>
    rw [copyEntries, calm.seen, Bool.or_false] at copied
    have behind (other : OsStr) (apart : name ≠ other) :=
      @regularFile_behind _ rest _ _ apart (.inr (.inr ⟨inner, rfl⟩))
    cases hidden : skips name with
    | true =>
      have placed : Placed sandbox sandbox current depth (.dir name inner rest) name :=
        Placed.nothing awaits List.mem_cons_self (copiedFile_of_skips hidden _)
      rw [if_pos hidden] at copied
      exact Filled.cons rfl distinct.1 behind placed (ih distinct.2.2 shallow (awaits.behind rfl distinct.1 placed) copied)
    | false =>
      rw [if_neg (by simp [hidden]), bind_eq_ok] at copied
      obtain ⟨between, entered, others⟩ := copied
      have placed : Placed sandbox between current depth (.dir name inner rest) name :=
        Placed.dir awaits List.mem_cons_self shallow hidden (regularFile_dir name inner rest) entered
          fun fresh within run => inner_ih distinct.2.1 within fresh run
      exact Filled.cons rfl distinct.1 behind placed (ih distinct.2.2 shallow (awaits.behind rfl distinct.1 placed) others)

end Copy

section Whole

variable {io : StageIo} {text : StageText} {repoRoot sandboxBase : PathBuf} {tree : Tree}
  {proposal : SandboxProposal} {staged : Staged} {debug : Debug} {roots : List String} {target : String}

theorem stageInSandbox_ok : stageInSandbox io text repoRoot sandboxBase tree proposal = .ok staged →
    ∃ copied, copyDirRecursive io text repoRoot (sandboxBase ++ targetPath proposal.id) tree 0
        ((io.leftover.getD .empty).set [] .dir) = .ok copied ∧
      ((proposal.targetFile.toList.head? ≠ some '/' ∧ ['.', '.'] ∉ components proposal.targetFile) →
        writeTarget io text proposal.targetFile proposal.proposedPatch copied = .ok staged.contents) := by
  intro run
  simp only [stageInSandbox, bind_eq_ok, exists_unit, mapError_eq_ok] at run
  obtain ⟨-, copied, walked, contents, written, ⟨⟩⟩ := run
  refine ⟨copied, walked, ?_⟩
  intro inside
  rwa [if_neg (by simpa using inside)] at written

theorem writeTarget_fileAt {targetFile proposedPatch : String} {sandbox after : Sandbox}
    (written : writeTarget io text targetFile proposedPatch sandbox = .ok after) (path : PathBuf) :
    after.fileAt path =
      if path = targetPath targetFile then some (utf8 proposedPatch) else sandbox.fileAt path := by
  simp only [writeTarget, then_eq_ok, okOr_eq_ok, Sandbox.write_eq_some] at written
  obtain ⟨-, -, -, rfl⟩ := written
  rw [Sandbox.fileAt_set_file]
  congr 1
  split
  next => rfl
  next =>
    cases made : sandbox.createDirAll [] (targetPath targetFile).dropLast with
    | none => rfl
    | some parented => exact Sandbox.fileAt_createDirAll made

-- What a staged sandbox holds: the files of the copy, and the patch.
theorem stageInSandbox_contents (calm : io.Calm) (distinct : Distinct tree)
    (accepted : checkDeclaredTarget debug proposal.targetFile roots = .ok target)
    (run : stageInSandbox io text repoRoot sandboxBase tree proposal = .ok staged) (path : PathBuf) :
    staged.contents.fileAt path =
      if path = (components target).map .text then some (utf8 proposal.proposedPatch) else copiedFile 0 tree path := by
  have normalized := (checkDeclaredTarget_ok.mp accepted).1
  have facts := normalizeRepoPath_ok.mp normalized
  have place : targetPath proposal.targetFile = (components target).map .text := by
    rw [targetPath, (normal_of_normalizeRepoPath normalized).parts]
  obtain ⟨copied, walked, written⟩ := stageInSandbox_ok run
  have inside : ['.', '.'] ∉ components proposal.targetFile := fun up => (facts.2.2.2.2.1 _ up).1 rfl
  rw [writeTarget_fileAt (written ⟨facts.2.2.2.1, inside⟩), place]
  congr 1
  -- The sandbox is new, so the copy starts from a bare directory.
  rw [calm.removed, Option.getD_none, copyDirRecursive, copyDirWith, if_neg (by decide),
    if_pos (by rw [Sandbox.set_self]; rfl)] at walked
  simp only [ok_bind, bind_eq_ok, exists_unit, mapError_eq_ok] at walked
  have bare (name : OsStr) (rel : PathBuf) : (Sandbox.empty.set [] .dir) (name :: rel) = none :=
    Sandbox.set_of_ne (List.cons_ne_nil _ _)
  have filled : Filled (Sandbox.empty.set [] .dir) copied [] 0 tree := by
    apply copyEntries_filled calm distinct (Nat.zero_le _) _ walked.2
    constructor
    case standing =>
      intro above prefixed
      rw [List.prefix_nil.mp prefixed, Sandbox.set_self]
    case free => exact fun name _ rel => bare name rel
  cases path with
  | nil =>
    have top : copied [] = some .dir := by
      rw [filled.elsewhere _ fun name _ => not_below_of_begins (List.prefix_refl _) name, Sandbox.set_self]
    simp [Sandbox.fileAt, top, copiedFile]
  | cons name rel =>
    by_cases known : name ∈ tree.names
    next => exact filled.here name known rel
    next =>
      have outside : ∀ other ∈ tree.names, ¬[] ++ [other] <+: name :: rel := by
        intro other member below
        exact known ((List.cons_prefix_cons.mp below).1 ▸ member)
      have kept : copied (name :: rel) = none := by rw [filled.elsewhere _ outside, bare]
      rw [Sandbox.fileAt, kept, copiedFile, regularFile_of_notMem known, ite_self]

end Whole

section Replacement

def excludedName : OsStr → Bool
  | .text chars => chars = "target".toList || chars.head? = some '.'
  | .raw bytes => bytes.head? = some 46

/-- The name is no text, and its first byte is a dot. -/
def dottedBytes : OsStr → Bool
  | .text _ => false
  | .raw bytes => bytes.head? = some 46

theorem excludedName_eq (name : OsStr) : excludedName name = (skips name || dottedBytes name) := by
  cases name with
  | raw bytes => simp [excludedName, skips, dottedBytes, OsStr.toStr]
  | text chars =>
    -- `.git` begins with a dot.
    have git : chars = ".git".toList → chars.head? = some '.' := by
      intro same
      rw [same]
      rfl
    have skipped : skips (.text chars) =
        (chars = "target".toList || chars = ".git".toList || chars.head? = some '.') := rfl
    rw [Bool.eq_iff_iff, skipped]
    simp only [excludedName, dottedBytes, Bool.or_false, Bool.or_eq_true, decide_eq_true_eq]
    tauto

theorem any_excludedName (path : PathBuf) :
    path.any excludedName = (path.any skips || path.any dottedBytes) := by
  rw [funext excludedName_eq, Bool.eq_iff_iff]
  simp [and_or_left, exists_or]

variable {tree : Tree} {target : PathBuf}

/-- The sandbox holds the repository's visible regular files, the target replaced. -/
def OneFileReplaced (tree : Tree) (target : PathBuf) (patch : Bytes) (sandbox : Sandbox) : Prop :=
  ∀ path, sandbox.fileAt path = if path = target then some patch
    else if path.any excludedName then none else regularFile tree path

/-- The target apart, no visible file lies deeper than nine names, and no file within nine names has a name
that is no text, begins with a dot and has no skipped name beside it. -/
structure Stageable (tree : Tree) (target : PathBuf) : Prop where
  shallow : ∀ path, path ≠ target → (regularFile tree path).isSome → path.any excludedName = false → path.length ≤ 9
  texts : ∀ path, path ≠ target → (regularFile tree path).isSome → path.length ≤ 9 → path.any skips = false →
    path.any dottedBytes = false

theorem copiedFile_wanted_iff (path : PathBuf) :
    (copiedFile 0 tree path = if path.any excludedName then none else regularFile tree path) ↔
      ((regularFile tree path).isSome → (path.any excludedName = false → path.length ≤ 9) ∧
        (path.length ≤ 9 → path.any skips = false → path.any dottedBytes = false)) := by
  rw [copiedFile, any_excludedName, Nat.zero_add]
  cases found : regularFile tree path with
  | none => simp
  | some content =>
    by_cases deep : 9 < path.length <;> cases path.any skips <;> cases path.any dottedBytes <;> simp [deep]
    all_goals omega

def Plain : Nat → Tree → Prop
  | _, .empty => True
  | names, .special _ rest => Plain names rest
  | names, .file name _ rest => 0 < names ∧ dottedBytes name = false ∧ Plain names rest
  | names, .dir name inner rest =>
    0 < names ∧ dottedBytes name = false ∧ Plain (names - 1) inner ∧ Plain names rest

theorem path_of_plain {names : Nat} {path : PathBuf} (plain : Plain names tree)
    (found : (regularFile tree path).isSome) : path.length ≤ names ∧ path.any dottedBytes = false := by
  cases path with
  | nil => cases found
  | cons other rel =>
    induction tree generalizing names other rel with
    | empty =>
      rw [regularFile_of_notMem List.not_mem_nil] at found
      cases found
    | special name rest ih =>
      by_cases same : name = other
      next =>
        rw [same, regularFile_special] at found
        cases found
      next =>
        rw [regularFile_behind same (.inr (.inl rfl))] at found
        exact ih plain other rel found
    | file name content rest ih =>
      by_cases same : name = other
      next =>
        rw [same, regularFile_file] at found
        split at found
        next last =>
          subst same last
          exact ⟨plain.1, by simp [plain.2.1]⟩
        next => cases found
      next =>
        rw [regularFile_behind same (.inl ⟨content, rfl⟩)] at found
        exact ih plain.2.2 other rel found
    | dir name inner rest inner_ih ih =>
      by_cases same : name = other
      next =>
        rw [same, regularFile_dir] at found
        cases rel with
        | nil => cases found
        | cons next others =>
          have inside := inner_ih plain.2.2.1 next others found
          rw [List.length_cons, List.any_cons, ← same, plain.2.1]
          exact ⟨Nat.add_le_of_le_sub plain.1 inside.1, inside.2⟩
      next =>
        rw [regularFile_behind same (.inr (.inr ⟨inner, rfl⟩))] at found
        exact ih plain.2.2.2 other rel found

-- An ordinary repository is staged whole.
theorem stageable_of_plain (plain : Plain 9 tree) : Stageable tree target where
  shallow _ _ found _ := (path_of_plain plain found).1
  texts _ _ found _ _ := (path_of_plain plain found).2

variable {io : StageIo} {text : StageText} {repoRoot sandboxBase : PathBuf} {proposal : SandboxProposal}
  {staged : Staged} {debug : Debug} {roots : List String} {normalized : String}

theorem stageInSandbox_replaces_iff (calm : io.Calm) (distinct : Distinct tree)
    (accepted : checkDeclaredTarget debug proposal.targetFile roots = .ok normalized)
    (run : stageInSandbox io text repoRoot sandboxBase tree proposal = .ok staged) :
    OneFileReplaced tree ((components normalized).map .text) (utf8 proposal.proposedPatch) staged.contents ↔
      Stageable tree ((components normalized).map .text) := by
  have contents := stageInSandbox_contents calm distinct accepted run
  constructor
  · intro replaced
    have each (path : PathBuf) (apart : path ≠ (components normalized).map .text) := by
      have both := (contents path).symm.trans (replaced path)
      rw [if_neg apart, if_neg apart] at both
      exact (copiedFile_wanted_iff path).mp both
    exact ⟨fun path apart found => (each path apart found).1,
      fun path apart found => (each path apart found).2⟩
  · intro stageable path
    rw [contents]
    by_cases here : path = (components normalized).map .text
    · rw [if_pos here, if_pos here]
    · rw [if_neg here, if_neg here, copiedFile_wanted_iff]
      exact fun found => ⟨stageable.shallow path here found, stageable.texts path here found⟩

end Replacement

section Sample

def calmIo : StageIo where
  leftover := none
  createSandbox := none
  createDir _ := none
  readDir _ := none
  unseen _ := false
  copy _ := none
  createParent := false
  write := none
  elsewhere := .ok

theorem calmIo_calm : calmIo.Calm := ⟨rfl, fun _ => rfl, fun _ => rfl⟩

def plainText : StageText := ⟨fun _ => "", fun _ => "", "Not a directory", "Is a directory"⟩

def readmeChange : SandboxProposal where
  targetFile := "README.md"
  proposedPatch := "hi"
  kind := .documentation
  operatorSignature := none
  id := "prop-1"
  sandboxPath := none

def nested : Nat → Tree
  | 0 => .file (.text ['f']) [1] .empty
  | below + 1 => .dir (.text ['d']) (nested below) .empty

theorem stageInSandbox_replaces_iff_small : ∃ staged,
    stageInSandbox calmIo plainText [] [] (nested 3) readmeChange = .ok staged ∧
      OneFileReplaced (nested 3) [.text "README.md".toList] (utf8 "hi") staged.contents := by
  have accepted : checkDeclaredTarget quoting readmeChange.targetFile defaultRatifyRoots = .ok "README.md" := rfl
  obtain ⟨staged, run⟩ : ∃ staged, stageInSandbox calmIo plainText [] [] (nested 3) readmeChange = .ok staged := ⟨_, rfl⟩
  refine ⟨staged, run, ?_⟩
  exact (stageInSandbox_replaces_iff calmIo_calm (by simp [Distinct, nested, Tree.names]) accepted run).mpr
    (stageable_of_plain (by simp [Plain, nested, dottedBytes]))

theorem deep_file_dropped : ∃ staged,
    checkDeclaredTarget quoting readmeChange.targetFile defaultRatifyRoots = .ok "README.md" ∧
      calmIo.Calm ∧ Distinct (nested 9) ∧
      stageInSandbox calmIo plainText [] [] (nested 9) readmeChange = .ok staged ∧
      ¬OneFileReplaced (nested 9) [.text "README.md".toList] (utf8 "hi") staged.contents := by
  refine ⟨_, rfl, calmIo_calm, by simp [Distinct, nested, Tree.names], rfl, ?_⟩
  intro replaced
  have deep := replaced (List.replicate 9 (.text ['d']) ++ [.text ['f']])
  revert deep
  decide +kernel

end Sample

end SparkRsi.Propose
