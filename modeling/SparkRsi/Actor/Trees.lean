import SparkRsi.Governance.Paths
import SparkRsi.Shared.Utf8Lossy
import Mathlib.Data.List.Dedup
import Mathlib.Data.List.Sort

set_option autoImplicit false

namespace SparkRsi.Actor

open Shared Governance

/-- What the operating system names things by: a text, or bytes that are none. -/
inductive OsStr where
  | text (chars : List Char)
  | raw (bytes : Bytes)
  deriving DecidableEq

namespace OsStr

def toStr : OsStr → Option (List Char)
  | text chars => some chars
  | raw _ => none

def toStringLossy : OsStr → List Char
  | text chars => chars
  | raw bytes => Utf8.fromUtf8Lossy bytes

def bytes : OsStr → Bytes
  | text chars => chars.flatMap String.utf8EncodeChar
  | raw bytes => bytes

end OsStr

abbrev PathBuf := List OsStr

/-- A directory's entries in the order of `entries.sort()`. Symlinks are special; one that `collect_files_recursive`
would follow to a file or a directory is not modelled. -/
inductive Tree where
  | empty
  | file (name : OsStr) (content : Bytes) (rest : Tree)
  | dir (name : OsStr) (inner rest : Tree)
  | special (name : OsStr) (rest : Tree)

inductive Entry where
  | file (content : Bytes)
  | dir (inner : Tree)
  | special

namespace Tree

def names : Tree → List OsStr
  | empty => []
  | file name _ rest => name :: rest.names
  | dir name _ rest => name :: rest.names
  | special name rest => name :: rest.names

def validName : OsStr → Prop
  | .text chars => chars ≠ [] ∧ '/' ∉ chars
  | .raw bytes => fromUtf8 bytes = none

def WellFormed : Tree → Prop
  | empty => True
  | file name _ rest => validName name ∧ (∀ other ∈ rest.names, name.bytes < other.bytes) ∧ rest.WellFormed
  | dir name inner rest =>
    validName name ∧ (∀ other ∈ rest.names, name.bytes < other.bytes) ∧ inner.WellFormed ∧ rest.WellFormed
  | special name rest => validName name ∧ (∀ other ∈ rest.names, name.bytes < other.bytes) ∧ rest.WellFormed

def find (wanted : OsStr) : Tree → Option Entry
  | empty => none
  | file name content rest => if name = wanted then some (.file content) else rest.find wanted
  | dir name inner rest => if name = wanted then some (.dir inner) else rest.find wanted
  | special name rest => if name = wanted then some .special else rest.find wanted

def entry : Tree → PathBuf → Option Entry
  | tree, [] => some (.dir tree)
  | tree, name :: rest =>
    match tree.find name with
    | some (.dir inner) => inner.entry rest
    | other => if rest = [] then other else none

def join (tree : Tree) (rel : String) : Option Entry := tree.entry ((components rel).map .text)

def pathExists (tree : Tree) (rel : String) : Bool := (tree.join rel).isSome

def read (tree : Tree) (rel : String) : Option Bytes :=
  match tree.join rel with
  | some (.file content) => some content
  | _ => none

end Tree

structure JudgeDebug extends Debug where
  osStr : OsStr → String
  path : PathBuf → String
  readError : PathBuf → String

section Walks

variable (debug : JudgeDebug)

def walkName (base : PathBuf) (current : List (List Char)) : OsStr → Except String (Option (List Char))
  | .raw bytes => .error s!"non-UTF-8 path {debug.path (base ++ current.map .text ++ [.raw bytes])}"
  | .text name =>
    let rel := joinComponents (current ++ [name])
    if current = [] ∧ (name = ".git".toList ∨ name = "target".toList) then .ok none
    -- Only the root .git and target are skipped; a nested one would hide a change.
    else if name = ".git".toList then .error s!"refusing nested .git entry {debug.text rel} in tree"
    else .ok (some name)

def walk (base : PathBuf) (current : List (List Char)) : Tree → Except String (List String)
  | .empty => .ok []
  | .file name _ rest => do
    match ← walkName debug base current name with
    | none => walk base current rest
    | some name => do
      let others ← walk base current rest
      return joinComponents (current ++ [name]) :: others
  | .dir name inner rest => do
    match ← walkName debug base current name with
    | none => walk base current rest
    | some name => do
      let below ← walk base (current ++ [name]) inner
      let others ← walk base current rest
      return below ++ others
  | .special name rest => do
    match ← walkName debug base current name with
    | none => walk base current rest
    | some name =>
      let rel := joinComponents (current ++ [name])
      .error s!"refusing special file or symlink {debug.text rel} in tree"

def btreeUnion (p c : List String) : List String := (p ++ c).dedup.insertionSort (· ≤ ·)

def strictChangedPaths (parentPath candidatePath : PathBuf) (parent candidate : Tree) :
    Except String (List String) := do
  let p ← walk debug parentPath [] parent
  let c ← walk debug candidatePath [] candidate
  return (btreeUnion p c).filter fun rel => !(p.contains rel && c.contains rel && parent.read rel == candidate.read rel)

end Walks

def hiddenName (name : List Char) : Bool :=
  name = "target".toList || name = ".git".toList || name = "node_modules".toList || name.head? = some '.'

def collectFilesRecursive (current : List (List Char)) : Tree → List (String × Bytes)
  | .empty => []
  | .file name content rest =>
    if hiddenName (name.toStr.getD []) then collectFilesRecursive current rest
    else (joinComponents (current ++ [name.toStringLossy]), content) :: collectFilesRecursive current rest
  | .dir name inner rest =>
    if hiddenName (name.toStr.getD []) then collectFilesRecursive current rest
    else collectFilesRecursive (current ++ [name.toStringLossy]) inner ++ collectFilesRecursive current rest
  | .special _ rest => collectFilesRecursive current rest

section Files

abbrev Keep := Bool → List Char → Bool

def keepsWalked : Keep := fun root name => !(root && (name = ".git".toList || name = "target".toList))

def keepsVisible : Keep := fun _ name => !hiddenName name

variable (keep : Keep)

def Kept : Bool → List (List Char) → Prop
  | _, [] => True
  | root, name :: rest => keep root name = true ∧ Kept false rest

@[simp] theorem kept_nil (root : Bool) : Kept keep root [] := trivial

@[simp] theorem kept_cons (root : Bool) (name : List Char) (rest : List (List Char)) :
    Kept keep root (name :: rest) ↔ keep root name = true ∧ Kept keep false rest := Iff.rfl

def below (root : Bool) (name : OsStr) (found : List (List (List Char) × Bytes)) :
    List (List (List Char) × Bytes) :=
  match name with
  | .text chars => if keep root chars then found.map fun f => (chars :: f.1, f.2) else []
  | .raw _ => []

def Tree.files (root : Bool) : Tree → List (List (List Char) × Bytes)
  | .empty => []
  | .file name content rest => below keep root name [([], content)] ++ rest.files root
  | .dir name inner rest => below keep root name (inner.files false) ++ rest.files root
  | .special _ rest => rest.files root

variable {keep} {root : Bool} {tree : Tree} {path : List (List Char)} {content : Bytes}

-- No two entries of a directory have one name.
theorem Tree.WellFormed.apart {name : OsStr} {rest : Tree}
    (sorted : ∀ other ∈ rest.names, name.bytes < other.bytes) :
    name ∉ rest.names := fun member => List.lt_irrefl _ (sorted name member)

theorem Tree.mem_names_of_find {name : OsStr} {found : Entry} (here : tree.find name = some found) :
    name ∈ tree.names := by
  induction tree with
  | empty => cases here
  | file other _ rest ih | special other rest ih | dir other _ rest _ ih =>
    rw [find] at here
    split at here
    next same => exact same ▸ List.mem_cons_self
    next => exact List.mem_cons_of_mem _ (ih here)

theorem Tree.mem_names_of_entry {name : OsStr} {below : PathBuf} {found : Entry}
    (here : tree.entry (name :: below) = some found) : name ∈ tree.names := by
  rw [entry] at here
  cases first : tree.find name with
  | none => simp [first] at here
  | some e => exact mem_names_of_find first

theorem Tree.entry_file (name wanted : OsStr) (content : Bytes) (rest : Tree) (below : PathBuf) :
    (Tree.file name content rest).entry (wanted :: below) =
      if name = wanted then if below = [] then some (.file content) else none
      else rest.entry (wanted :: below) := by
  by_cases same : name = wanted <;> simp [entry, find, same]

theorem Tree.entry_dir (name wanted : OsStr) (inner rest : Tree) (below : PathBuf) :
    (Tree.dir name inner rest).entry (wanted :: below) =
      if name = wanted then inner.entry below else rest.entry (wanted :: below) := by
  by_cases same : name = wanted <;> simp [entry, find, same]

theorem Tree.entry_special (name wanted : OsStr) (rest : Tree) (below : PathBuf) :
    (Tree.special name rest).entry (wanted :: below) =
      if name = wanted then if below = [] then some .special else none else rest.entry (wanted :: below) := by
  by_cases same : name = wanted <;> simp [entry, find, same]

theorem mem_below_cons {name : OsStr} {found : List (List (List Char) × Bytes)} {chars : List Char} :
    (chars :: path, content) ∈ below keep root name found ↔
      name = .text chars ∧ keep root chars = true ∧ (path, content) ∈ found := by
  cases name with
  | raw bytes => simp [below]
  | text other =>
    by_cases kept : keep root other = true
    next =>
      simp only [below, kept, if_true, List.mem_map, OsStr.text.injEq, Prod.mk.injEq, List.cons.injEq]
      constructor
      next =>
        intro some_
        cases some_ with
        | intro f facts => exact ⟨facts.2.1.1, facts.2.1.1 ▸ kept, facts.2.1.2 ▸ facts.2.2 ▸ facts.1⟩
      next =>
        intro facts
        exact ⟨(path, content), facts.2.2, ⟨facts.1, rfl⟩, rfl⟩
    next =>
      simp only [below, kept, Bool.false_eq_true, if_false, List.not_mem_nil, OsStr.text.injEq, false_iff]
      intro facts
      exact kept (facts.1 ▸ facts.2.1)

theorem nil_notMem_below {name : OsStr} {found : List (List (List Char) × Bytes)} :
    ([], content) ∉ below keep root name found := by
  cases name with
  | raw bytes => simp [below]
  | text other => by_cases kept : keep root other = true <;> simp [below, kept]

theorem Tree.nil_notMem_files : ([], content) ∉ tree.files keep root := by
  induction tree with
  | empty => exact List.not_mem_nil
  | special name rest ih => exact ih
  | file name found rest ih =>
    rw [files, List.mem_append, not_or]
    exact ⟨nil_notMem_below, ih⟩
  | dir name inner rest _ ih =>
    rw [files, List.mem_append, not_or]
    exact ⟨nil_notMem_below, ih⟩

-- A walk comes to the files that stand at the end of a path of names it goes through.
theorem Tree.mem_files (formed : tree.WellFormed) : (path, content) ∈ tree.files keep root ↔
    tree.entry (path.map .text) = some (.file content) ∧ Kept keep root path := by
  cases path with
  | nil => exact iff_of_false nil_notMem_files (by simp [entry])
  | cons chars rest' =>
    induction tree generalizing root chars rest' with
    | empty => simp [files, entry, find]
    | special name rest ih =>
      rw [files, ih formed.2.2, List.map_cons, entry_special]
      by_cases same : name = .text chars
      next =>
        rw [if_pos same]
        apply iff_of_false
        next => exact fun facts => WellFormed.apart formed.2.1 (same ▸ mem_names_of_entry facts.1)
        next => split <;> simp
      next => rw [if_neg same]
    | file name found rest ih =>
      rw [files, List.mem_append, mem_below_cons, ih formed.2.2, List.map_cons, entry_file]
      by_cases same : name = .text chars
      next =>
        rw [if_pos same, or_iff_left]
        next =>
          cases rest' with
          | nil =>
            simp only [same, true_and, List.mem_singleton, Prod.mk.injEq, List.map_nil, if_true,
              Option.some.injEq, Entry.file.injEq, kept_cons, kept_nil, and_true]
            rw [and_comm, eq_comm]
          | cons next others => simp
        next => exact fun facts => WellFormed.apart formed.2.1 (same ▸ mem_names_of_entry facts.1)
      next => simp [same]
    | dir name inner rest inner_ih ih =>
      rw [files, List.mem_append, mem_below_cons, ih formed.2.2.2, List.map_cons, entry_dir]
      by_cases same : name = .text chars
      next =>
        rw [if_pos same, or_iff_left]
        next =>
          cases rest' with
          | nil => simp [entry, nil_notMem_files]
          | cons next others => simp [inner_ih formed.2.2.1, same, and_left_comm]
        next => exact fun facts => WellFormed.apart formed.2.1 (same ▸ mem_names_of_entry facts.1)
      next => simp [same]

theorem Tree.WellFormed.of_find {name : OsStr} {found : Entry} (formed : tree.WellFormed)
    (here : tree.find name = some found) :
    validName name ∧ ∀ inner, found = .dir inner → inner.WellFormed := by
  induction tree with
  | empty => cases here
  | file other _ rest ih =>
    rw [find] at here
    split at here
    next same =>
      cases here
      exact ⟨same ▸ formed.1, fun inner directory => by cases directory⟩
    next => exact ih formed.2.2 here
  | special other rest ih =>
    rw [find] at here
    split at here
    next same =>
      cases here
      exact ⟨same ▸ formed.1, fun inner directory => by cases directory⟩
    next => exact ih formed.2.2 here
  | dir other inside rest _ ih =>
    rw [find] at here
    split at here
    next same =>
      cases here
      refine ⟨same ▸ formed.1, ?_⟩
      intro inner directory
      cases directory
      exact formed.2.2.1
    next => exact ih formed.2.2.2 here

theorem Tree.WellFormed.clean {found : Entry} (formed : tree.WellFormed)
    (here : tree.entry (path.map .text) = some found) : ∀ chars ∈ path, '/' ∉ chars := by
  induction path generalizing tree with
  | nil => simp
  | cons chars rest ih =>
    rw [List.map_cons, entry] at here
    rw [List.forall_mem_cons]
    cases first : tree.find (.text chars) with
    | none => simp [first] at here
    | some e =>
      have facts := formed.of_find first
      apply And.intro facts.1.2
      rw [first] at here
      cases e with
      | dir inner => exact ih (facts.2 inner rfl) here
      | file content | special =>
        have last : rest.map OsStr.text = [] := by
          by_contra more
          simp [more] at here
        simp [List.map_eq_nil_iff.mp last]

-- What a walk comes to under its path as one text.
theorem Tree.join_of_mem_files (formed : tree.WellFormed) (member : (path, content) ∈ tree.files keep root) :
    components (joinComponents path) = path ∧ tree.join (joinComponents path) = some (.file content) := by
  have here := (mem_files formed).mp member
  have nonempty : path ≠ [] := by
    intro nothing
    rw [nothing] at member
    exact nil_notMem_files member
  have parts : components (joinComponents path) = path :=
    components_joinComponents (formed.clean here.1) nonempty
  exact ⟨parts, by rw [join, parts]; exact here.1⟩

end Files

section Walked

variable {debug : JudgeDebug} {base : PathBuf} {current : List (List Char)} {name : OsStr} {tree : Tree}
  {root : Bool} {path : List (List Char)}

theorem walkName_ok {r : Option (List Char)} (listed : walkName debug base current name = .ok r) :
    ∃ chars, name = .text chars ∧
      r = if keepsWalked (decide (current = [])) chars then some chars else none := by
  cases name with
  | raw bytes => cases listed
  | text chars =>
    apply Exists.intro chars
    apply And.intro rfl
    have keeps : keepsWalked (decide (current = [])) chars = true ↔
        ¬(current = [] ∧ (chars = ".git".toList ∨ chars = "target".toList)) := by
      simp only [keepsWalked, Bool.not_eq_true', Bool.and_eq_false_iff, Bool.or_eq_false_iff,
        decide_eq_false_iff_not]
      tauto
    simp only [walkName] at listed
    by_cases skipped : current = [] ∧ (chars = ".git".toList ∨ chars = "target".toList)
    next =>
      rw [if_pos skipped] at listed
      cases listed
      rw [if_neg fun kept => keeps.mp kept skipped]
    next =>
      rw [if_neg skipped] at listed
      split at listed
      next => cases listed
      next =>
        cases listed
        rw [if_pos (keeps.mpr skipped)]

-- What a walk finds below a name it goes through stands behind that name.
theorem below_map (chars : List Char) (found : List (List (List Char) × Bytes)) (keep : Keep)
    (kept : keep root chars = true) :
    (below keep root (.text chars) found).map (fun f => joinComponents (current ++ f.1)) =
      found.map fun f => joinComponents ((current ++ [chars]) ++ f.1) := by
  simp [below, kept, Function.comp_def]

theorem below_skipped (chars : List Char) (found : List (List (List Char) × Bytes)) (keep : Keep)
    (skipped : ¬keep root chars = true) : below keep root (.text chars) found = [] := by
  simp [below, skipped]

section Steps

variable {listed : List String} {content : Bytes} {inner rest : Tree}

theorem walk_special_ok (walked : walk debug base current (.special name rest) = .ok listed) :
    walk debug base current rest = .ok listed := by
  rw [walk, bind_eq_ok] at walked
  cases walked with
  | intro r steps =>
    cases r with
    | none => exact steps.2
    | some chars => cases steps.2

theorem walk_file_ok (walked : walk debug base current (.file name content rest) = .ok listed) :
    ∃ chars others, name = .text chars ∧ walk debug base current rest = .ok others ∧
      listed = if keepsWalked (decide (current = [])) chars then joinComponents (current ++ [chars]) :: others else others := by
  rw [walk, bind_eq_ok] at walked
  cases walked with
  | intro r steps =>
    cases walkName_ok steps.1 with
    | intro chars facts =>
      rw [facts.2] at steps
      split at steps
      next kept =>
        obtain ⟨others, later, ⟨⟩⟩ := bind_eq_ok.mp steps.2
        exact ⟨chars, others, facts.1, later, by rw [if_pos kept]⟩
      next skipped => exact ⟨chars, listed, facts.1, steps.2, by rw [if_neg skipped]⟩

theorem walk_dir_ok (walked : walk debug base current (.dir name inner rest) = .ok listed) :
    ∃ chars others, name = .text chars ∧ walk debug base current rest = .ok others ∧
      if keepsWalked (decide (current = [])) chars then
        ∃ found, walk debug base (current ++ [chars]) inner = .ok found ∧ listed = found ++ others
      else listed = others := by
  rw [walk, bind_eq_ok] at walked
  cases walked with
  | intro r steps =>
    cases walkName_ok steps.1 with
    | intro chars facts =>
      rw [facts.2] at steps
      split at steps
      next kept =>
        simp only [bind_eq_ok] at steps
        obtain ⟨-, found, inside, others, later, ⟨⟩⟩ := steps
        exact ⟨chars, others, facts.1, later, by rw [if_pos kept]; exact ⟨found, inside, rfl⟩⟩
      next skipped => exact ⟨chars, listed, facts.1, steps.2, by rw [if_neg skipped]⟩

end Steps

-- A walk that succeeds lists its files.
theorem walk_ok {listed : List String} (walked : walk debug base current tree = .ok listed) :
    listed = (tree.files keepsWalked (decide (current = []))).map fun f => joinComponents (current ++ f.1) := by
  induction tree generalizing current listed with
  | empty =>
    cases walked
    rfl
  | special name rest ih => exact ih (walk_special_ok walked)
  | file name content rest ih =>
    obtain ⟨chars, others, rfl, later, shape⟩ := walk_file_ok walked
    rw [shape, Tree.files, List.map_append, ← ih later]
    split
    next kept => simp [below_map _ _ _ kept]
    next skipped => simp [below_skipped _ _ _ skipped]
  | dir name inner rest inner_ih ih =>
    obtain ⟨chars, others, rfl, later, shape⟩ := walk_dir_ok walked
    rw [Tree.files, List.map_append, ← ih later]
    split at shape
    next kept =>
      obtain ⟨found, inside, rfl⟩ := shape
      rw [below_map _ _ _ kept, inner_ih inside]
      simp
    next skipped =>
      rw [below_skipped _ _ _ skipped, shape]
      rfl

theorem keepsVisible_walked {chars : List Char} (seen : keepsVisible root chars = true) :
    keepsWalked root chars = true := by
  simp only [keepsVisible, keepsWalked, hiddenName, Bool.not_eq_true', Bool.or_eq_false_iff,
    Bool.and_eq_false_iff] at seen ⊢
  tauto

theorem kept_visible_walked (seen : Kept keepsVisible root path) : Kept keepsWalked root path := by
  induction path generalizing root with
  | nil => trivial
  | cons chars rest ih => exact ⟨keepsVisible_walked seen.1, ih seen.2⟩

-- Behind a walk that succeeds, the files that are looked at are the visible ones.
theorem collectFilesRecursive_eq {listed : List String} (walked : walk debug base current tree = .ok listed) :
    collectFilesRecursive current tree =
      (tree.files keepsVisible (decide (current = []))).map fun f => (joinComponents (current ++ f.1), f.2) := by
  induction tree generalizing current listed with
  | empty => rfl
  | special name rest ih => exact ih (walk_special_ok walked)
  | file name content rest ih =>
    obtain ⟨chars, others, rfl, later, -⟩ := walk_file_ok walked
    rw [collectFilesRecursive, Tree.files, List.map_append, ← ih later]
    by_cases hidden : hiddenName chars = true <;>
      simp [OsStr.toStr, OsStr.toStringLossy, below, keepsVisible, hidden]
  | dir name inner rest inner_ih ih =>
    obtain ⟨chars, others, rfl, later, inside⟩ := walk_dir_ok walked
    rw [collectFilesRecursive, Tree.files, List.map_append, ← ih later]
    by_cases hidden : hiddenName chars = true
    next => simp [OsStr.toStr, below, keepsVisible, hidden]
    next =>
      have seen : keepsVisible (decide (current = [])) chars = true := by simp [keepsVisible, hidden]
      -- What is looked at is walked through.
      rw [if_pos (keepsVisible_walked seen)] at inside
      obtain ⟨found, walked', -⟩ := inside
      simp [OsStr.toStr, OsStr.toStringLossy, below, keepsVisible, hidden, inner_ih walked',
        Function.comp_def]

end Walked

section Changed

variable {debug : JudgeDebug} {base parentPath candidatePath : PathBuf} {tree parent candidate : Tree}
  {rel s : String} {content : Bytes}

theorem joinComponents_components (rel : String) : joinComponents (components rel) = rel := by
  rw [joinComponents, components, Parts.join_splitOn, String.ofList_toList]

theorem Tree.read_eq_some : tree.read rel = some content ↔ tree.join rel = some (.file content) := by
  unfold read
  cases tree.join rel with
  | none => simp
  | some e => cases e <;> simp

theorem Tree.exists_mem_files {keep : Keep} (formed : tree.WellFormed) :
    (∃ f ∈ tree.files keep true, (joinComponents f.1, f.2) = (rel, content)) ↔
      Kept keep true (components rel) ∧ tree.read rel = some content := by
  rw [read_eq_some]
  constructor
  next =>
    intro some_
    obtain ⟨f, member, same⟩ := some_
    cases same
    have place := join_of_mem_files formed member
    rw [place.1]
    exact ⟨((mem_files formed).mp member).2, place.2⟩
  next =>
    intro facts
    exact ⟨(components rel, content), (mem_files formed).mpr ⟨facts.2, facts.1⟩,
      by rw [joinComponents_components]⟩

theorem mem_walk {listed : List String} (formed : tree.WellFormed)
    (walked : walk debug base [] tree = .ok listed) :
    rel ∈ listed ↔ Kept keepsWalked true (components rel) ∧ ∃ content, tree.read rel = some content := by
  rw [walk_ok walked, List.mem_map, ← exists_and_left]
  simp only [← Tree.exists_mem_files formed, decide_true, List.nil_append, Prod.mk.injEq]
  constructor
  next =>
    intro some_
    obtain ⟨f, member, same⟩ := some_
    exact ⟨f.2, f, member, same, rfl⟩
  next =>
    intro some_
    obtain ⟨_, f, member, same, -⟩ := some_
    exact ⟨f, member, same⟩

theorem mem_collectFilesRecursive {listed : List String} (formed : tree.WellFormed)
    (walked : walk debug base [] tree = .ok listed) : (rel, content) ∈ collectFilesRecursive [] tree ↔
      Kept keepsVisible true (components rel) ∧ tree.read rel = some content := by
  rw [collectFilesRecursive_eq walked, List.mem_map, ← Tree.exists_mem_files formed]
  simp

structure OnlyDiffer (parent candidate : Tree) (s : String) : Prop where
  walked : Kept keepsWalked true (components s)
  elsewhere : ∀ rel, Kept keepsWalked true (components rel) → rel ≠ s → parent.read rel = candidate.read rel
  here : parent.read s = candidate.read s → parent.read s = none

theorem strictChangedPaths_single (parentFormed : parent.WellFormed) (candidateFormed : candidate.WellFormed)
    (changed : strictChangedPaths debug parentPath candidatePath parent candidate = .ok [s]) :
    OnlyDiffer parent candidate s ∧ (∃ p, walk debug parentPath [] parent = .ok p) ∧
      ∃ c, walk debug candidatePath [] candidate = .ok c := by
  simp only [strictChangedPaths, bind_eq_ok] at changed
  obtain ⟨p, walkedParent, c, walkedCandidate, filtered⟩ := changed
  apply And.intro _ ⟨⟨p, walkedParent⟩, c, walkedCandidate⟩
  have differs (rel : String) : rel = s ↔
      (rel ∈ p ∨ rel ∈ c) ∧ ¬(rel ∈ p ∧ rel ∈ c ∧ parent.read rel = candidate.read rel) := by
    rw [← List.mem_singleton, ← Except.ok.inj filtered]
    have union : rel ∈ btreeUnion p c ↔ rel ∈ p ∨ rel ∈ c := by
      rw [btreeUnion, List.mem_insertionSort, List.mem_dedup, List.mem_append]
    rw [List.mem_filter, union, Bool.not_eq_true', ← Bool.not_eq_true]
    simp only [Bool.and_eq_true, List.contains_iff_mem, beq_iff_eq, and_assoc]
  simp only [mem_walk parentFormed walkedParent, mem_walk candidateFormed walkedCandidate] at differs
  constructor
  case walked =>
    cases ((differs s).mp rfl).1 with
    | inl inParent => exact inParent.1
    | inr inCandidate => exact inCandidate.1
  case elsewhere =>
    intro rel kept other
    have same := mt (differs rel).mpr other
    cases first : parent.read rel <;> cases second : candidate.read rel <;> simp_all
  case here =>
    intro same
    have apart := ((differs s).mp rfl).2
    have kept : Kept keepsWalked true (components s) := by
      cases ((differs s).mp rfl).1 with
      | inl inParent => exact inParent.1
      | inr inCandidate => exact inCandidate.1
    cases content : parent.read s with
    | none => rfl
    | some bytes => exact absurd ⟨⟨kept, bytes, content⟩, ⟨kept, bytes, same ▸ content⟩, same⟩ apart

end Changed

end SparkRsi.Actor
