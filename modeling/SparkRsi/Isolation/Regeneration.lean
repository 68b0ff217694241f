import SparkRsi.Isolation.Integrity

set_option autoImplicit false

namespace SparkRsi.Isolation

open Shared Governance
open Actor (OsStr PathBuf)

namespace Tree

def kept : Tree → List (PathBuf × DiskFile)
  | empty => []
  | leaf name found rest =>
    if skipped name then rest.kept
    else match found with
      | .file file => ([name], file) :: rest.kept
      | _ => rest.kept
  | dir name _ inner rest =>
    if skipped name then rest.kept else (inner.kept.map fun f => (name :: f.1, f.2)) ++ rest.kept

def Open : Tree → Prop
  | empty => True
  | leaf _ _ rest => rest.Open
  | dir name fault inner rest => (skipped name = false → fault = none ∧ inner.Open) ∧ rest.Open

end Tree

def relText (path : PathBuf) : String := joinComponents (path.map OsStr.toStringLossy)

def entryOf (current : PathBuf) (f : PathBuf × DiskFile) : FileEntry :=
  { relPath := relText (current ++ f.1), path := current ++ f.1, file := f.2 }

namespace OutputDir

def files : OutputDir → List (PathBuf × DiskFile)
  | missing => []
  | present _ tree => tree.kept

def Open : OutputDir → Prop
  | missing => True
  | present fault tree => fault = none ∧ tree.Open

end OutputDir

section Walk

theorem collectFilesSorted_ok {tree : Tree} {current : PathBuf} {entries : List FileEntry} :
    tree.collectFilesSorted current = .ok entries ↔ tree.Open ∧
      entries = tree.kept.map (entryOf current) := by
  induction tree generalizing current entries with
  | empty => simp [Tree.collectFilesSorted, Tree.kept, Tree.Open, eq_comm]
  | leaf name found rest ih =>
    by_cases hidden : Tree.skipped name = true
    next =>
      simp only [Tree.collectFilesSorted, Tree.kept, Tree.Open, if_pos hidden]
      exact ih
    next =>
      simp only [Tree.collectFilesSorted, Tree.kept, Tree.Open, if_neg hidden]
      cases found with
      | file file =>
        simp only [bind_eq_ok, ih, List.map_cons]
        constructor
        · rintro ⟨others, ⟨opened, rfl⟩, ⟨⟩⟩
          exact ⟨opened, rfl⟩
        · rintro ⟨opened, rfl⟩
          exact ⟨_, ⟨opened, rfl⟩, rfl⟩
      | other content => exact ih
      | dangling => exact ih
  | dir name fault inner rest inner_ih ih =>
    rw [Tree.collectFilesSorted, Tree.kept, Tree.Open]
    cases hidden : Tree.skipped name with
    | true => simp only [if_true, ih, Bool.true_eq_false, false_imp_iff, true_and]
    | false =>
      have shifted : (inner.kept.map fun f => (name :: f.1, f.2)).map (entryOf current) =
          inner.kept.map (entryOf (current ++ [name])) := by
        simp [entryOf, Function.comp_def]
      simp only [Bool.false_eq_true, if_false, bind_eq_ok, exists_unit, faulty_eq_ok, inner_ih, ih,
        true_imp_iff, List.map_append, shifted]
      constructor
      · rintro ⟨unfaulty, below, ⟨inside, rfl⟩, others, ⟨opened, rfl⟩, ⟨⟩⟩
        exact ⟨⟨⟨unfaulty, inside⟩, opened⟩, rfl⟩
      · rintro ⟨⟨⟨unfaulty, inside⟩, opened⟩, rfl⟩
        exact ⟨unfaulty, _, ⟨inside, rfl⟩, _, ⟨opened, rfl⟩, rfl⟩

theorem OutputDir.collectFilesSorted_ok {disk : OutputDir} {entries : List FileEntry} :
    disk.collectFilesSorted = .ok entries ↔ disk.Open ∧ entries = disk.files.map (entryOf []) := by
  cases disk with
  | missing => simp [OutputDir.collectFilesSorted, files, Open, eq_comm]
  | present fault tree =>
    rw [OutputDir.collectFilesSorted, then_eq_ok, Isolation.collectFilesSorted_ok, faulty_eq_ok, Open,
      files, and_assoc]

end Walk

section Sources

def Dir.toTree (mode : UInt32) : Dir → Tree
  | empty => .empty
  | file name content rest => .leaf (.text name) (.file { content := .ok content, mode }) (rest.toTree mode)
  | sub name inner rest => .dir (.text name) none (inner.toTree mode) (rest.toTree mode)

-- The walk of a source tree is the same one.
theorem collectFilesSorted_toTree (mode : UInt32) (dir : Dir) (current : RelPath) :
    ∃ entries, (dir.toTree mode).collectFilesSorted (current.map .text) = .ok entries ∧
      entries.map (fun entry => (entry.relPath, entry.file.content)) =
        (dir.collectFilesSorted current).map fun f => (f.1, .ok f.2) := by
  have shown (name : Name) : Tree.skipped (.text name) = skippedName name := rfl
  have path (name : Name) : current.map OsStr.text ++ [.text name] = (current ++ [name]).map .text := by simp
  induction dir generalizing current with
  | empty => exact ⟨[], rfl, rfl⟩
  | file name content rest ih =>
    obtain ⟨entries, walked, same⟩ := ih current path
    rw [Dir.toTree, Tree.collectFilesSorted, Dir.collectFilesSorted, shown]
    split
    next => exact ⟨entries, walked, same⟩
    next =>
      rw [walked, path]
      refine ⟨_, rfl, ?_⟩
      simp [same, joinComponents, OsStr.toStringLossy, Function.comp_def]
  | sub name inner rest inner_ih ih =>
    obtain ⟨entries, walked, same⟩ := ih current path
    obtain ⟨below, inside, under⟩ := inner_ih (current ++ [name]) (by simp)
    rw [Dir.toTree, Tree.collectFilesSorted, Dir.collectFilesSorted, shown]
    split
    next => exact ⟨entries, walked, same⟩
    next =>
      rw [path, inside, walked]
      exact ⟨below ++ entries, rfl, by rw [List.map_append, List.map_append, under, same]⟩

end Sources

section Records

variable {sha : HexHash} {debug : PathBuf → String} {outputDir : PathBuf}

def recordOf (sha : HexHash) (f : PathBuf × DiskFile) (bytes : Bytes) : ArtifactRecord :=
  { relativePath := relText f.1, sha256 := computeFileSha256 sha bytes, sizeBytes := UInt64.ofNat bytes.length
    isExecutable := f.2.isExecutable }

def Recorded (sha : HexHash) (f : PathBuf × DiskFile) (record : ArtifactRecord) : Prop :=
  ∃ bytes, f.2.content = .ok bytes ∧ record = recordOf sha f bytes

theorem artifactRecord_ok {f : PathBuf × DiskFile} {record : ArtifactRecord} :
    artifactRecord sha debug outputDir (entryOf [] f) = .ok record ↔ Recorded sha f record := by
  obtain ⟨path, content, mode⟩ := f
  cases content with
  | error e => simp [artifactRecord, fileSha256, entryOf, Recorded, bind, Except.bind]
  | ok bytes =>
    simp only [artifactRecord, fileSha256, entryOf, ok_bind, pure, Except.pure, Except.ok.injEq, Recorded,
      exists_eq_left', eq_comm (a := record)]
    rfl

variable {candidateId builderImageDigest sourceBundleDigest timestampUtc : String} {disk : OutputDir}
  {manifest : ArtifactManifest}

theorem generate_ok (made : generateFromOutputDir sha debug outputDir candidateId builderImageDigest sourceBundleDigest
    timestampUtc disk = .ok manifest) : disk.Open ∧ List.Forall₂ (Recorded sha) disk.files manifest.artifacts := by
  simp only [generateFromOutputDir, bind_eq_ok, OutputDir.collectFilesSorted_ok] at made
  obtain ⟨entries, ⟨opened, rfl⟩, artifacts, mapped, ⟨⟩⟩ := made
  rw [mapM_eq_ok, List.forall₂_map_left_iff] at mapped
  exact ⟨opened, mapped.imp fun _ _ => artifactRecord_ok.mp⟩

def Yields (sha : HexHash) (debug : PathBuf → String) (outputDir : PathBuf) (disk : OutputDir)
    (artifacts : List ArtifactRecord) : Prop :=
  ∃ candidateId builderImageDigest sourceBundleDigest timestampUtc again,
    generateFromOutputDir sha debug outputDir candidateId builderImageDigest sourceBundleDigest timestampUtc disk = .ok again ∧
      again.artifacts = artifacts

theorem yields_iff {artifacts : List ArtifactRecord} : Yields sha debug outputDir disk artifacts ↔
    disk.Open ∧ List.Forall₂ (Recorded sha) disk.files artifacts := by
  constructor
  · rintro ⟨_, _, _, _, again, made, rfl⟩
    exact generate_ok made
  · rintro ⟨opened, recorded⟩
    have mapped : (disk.files.map (entryOf [])).mapM (artifactRecord sha debug outputDir) = .ok artifacts := by
      rw [mapM_eq_ok, List.forall₂_map_left_iff]
      exact recorded.imp fun _ _ => artifactRecord_ok.mpr
    refine ⟨"", "", "", "", ?_⟩
    simp only [generateFromOutputDir, OutputDir.collectFilesSorted_ok.mpr ⟨opened, rfl⟩, ok_bind, mapped]
    exact ⟨_, rfl, rfl⟩

theorem recordsStand_ok {records : List ArtifactRecord} :
    recordsStand sha debug outputDir disk records = .ok true ↔
    ∀ record ∈ records, ∃ bytes, disk.lookup (recordedPath record.relativePath) = some (.ok bytes) ∧
      computeFileSha256 sha bytes = record.sha256 := by
  induction records with
  | nil => simp [recordsStand]
  | cons record rest ih =>
    rw [recordsStand, List.forall_mem_cons]
    cases found : disk.lookup (recordedPath record.relativePath) with
    | none => simp
    | some content =>
      cases content with
      | error e => simp [fileSha256, bind, Except.bind]
      | ok bytes =>
        simp only [fileSha256, ok_bind]
        by_cases same : computeFileSha256 sha bytes = record.sha256
        next => simp [same, ih]
        next => simp [same, pure, Except.pure]

theorem verifyIntegrity_ok : manifest.verifyIntegrity sha debug outputDir disk = .ok true ↔
    (∀ record ∈ manifest.artifacts, ∃ bytes, disk.lookup (recordedPath record.relativePath) = some (.ok bytes) ∧
        computeFileSha256 sha bytes = record.sha256) ∧
      disk.Open ∧ ∀ f ∈ disk.files, relText f.1 ∈ manifest.artifacts.map ArtifactRecord.relativePath := by
  rw [ArtifactManifest.verifyIntegrity, bind_eq_ok]
  constructor
  · rintro ⟨stand, checked, scanned⟩
    cases stand with
    | false => cases scanned
    | true =>
      simp only [Bool.true_eq_false, if_false, bind_eq_ok, OutputDir.collectFilesSorted_ok] at scanned
      obtain ⟨onDisk, ⟨opened, rfl⟩, listed⟩ := scanned
      refine ⟨recordsStand_ok.mp checked, opened, ?_⟩
      intro f member
      have inside := List.all_eq_true.mp (Except.ok.inj listed) (entryOf [] f) (List.mem_map_of_mem member)
      exact List.contains_iff_mem.mp inside
  · rintro ⟨standing, opened, listed⟩
    refine ⟨true, recordsStand_ok.mpr standing, ?_⟩
    simp only [Bool.true_eq_false, if_false, OutputDir.collectFilesSorted_ok.mpr ⟨opened, rfl⟩, ok_bind]
    refine congrArg Except.ok (List.all_eq_true.mpr ?_)
    intro entry member
    obtain ⟨f, kept, rfl⟩ := List.mem_map.mp member
    exact List.contains_iff_mem.mpr (listed f kept)

end Records

section Lookup

variable {tree : Tree}

def Sooner : PathBuf → PathBuf → Prop
  | x :: a, y :: b => x.bytes < y.bytes ∨ x = y ∧ Sooner a b
  | _, _ => False

theorem sooner_asymm {p q : PathBuf} (before : Sooner p q) : ¬Sooner q p := by
  induction p generalizing q with
  | nil => exact absurd before id
  | cons x a ih =>
    cases q with
    | nil => exact absurd before id
    | cons y b =>
      intro after
      cases before with
      | inl less =>
        cases after with
        | inl more => exact List.lt_asymm less more
        | inr same => exact List.lt_irrefl y.bytes (same.1 ▸ less)
      | inr same =>
        cases after with
        | inl more => exact List.lt_irrefl x.bytes (same.1 ▸ more)
        | inr also => exact ih same.2 also.2

namespace Tree

theorem kept_leaf (name : OsStr) (found : Leaf) (rest : Tree) : (leaf name found rest).kept = rest.kept ∨
    ∃ file, found = .file file ∧ (leaf name found rest).kept = ([name], file) :: rest.kept := by
  by_cases hidden : skipped name = true
  next => exact .inl (by simp only [kept, if_pos hidden])
  next =>
    simp only [kept, if_neg hidden]
    cases found with
    | file file => exact .inr ⟨file, rfl, rfl⟩
    | other content => exact .inl rfl
    | dangling => exact .inl rfl

theorem kept_dir (name : OsStr) (fault : Option String) (inner rest : Tree) :
    (dir name fault inner rest).kept = rest.kept ∨
      (dir name fault inner rest).kept = (inner.kept.map fun f => (name :: f.1, f.2)) ++ rest.kept := by
  rw [kept]
  split
  next => exact .inl rfl
  next => exact .inr rfl

theorem mem_kept_leaf {name : OsStr} {found : Leaf} {rest : Tree} {f : PathBuf × DiskFile}
    (member : f ∈ (leaf name found rest).kept) :
    f ∈ rest.kept ∨ ∃ file, found = .file file ∧ f = ([name], file) := by
  cases kept_leaf name found rest with
  | inl none => exact .inl (none ▸ member)
  | inr shown =>
    obtain ⟨file, is, shape⟩ := shown
    rw [shape] at member
    cases List.mem_cons.mp member with
    | inl here => exact .inr ⟨file, is, here⟩
    | inr inside => exact .inl inside

theorem mem_kept_dir {name : OsStr} {fault : Option String} {inner rest : Tree} {f : PathBuf × DiskFile}
    (member : f ∈ (dir name fault inner rest).kept) :
    f ∈ rest.kept ∨ ∃ g ∈ inner.kept, f = (name :: g.1, g.2) := by
  cases kept_dir name fault inner rest with
  | inl none => exact .inl (none ▸ member)
  | inr shape =>
    rw [shape] at member
    cases List.mem_append.mp member with
    | inl below =>
      obtain ⟨g, inside, rfl⟩ := List.mem_map.mp below
      exact .inr ⟨g, inside, rfl⟩
    | inr inside => exact .inl inside

theorem head_mem_names {f : PathBuf × DiskFile} (member : f ∈ tree.kept) :
    ∃ name rest, f.1 = name :: rest ∧ name ∈ tree.names := by
  induction tree with
  | empty => cases member
  | leaf name found rest ih =>
    cases mem_kept_leaf member with
    | inl inside =>
      obtain ⟨other, behind, path, listed⟩ := ih inside
      exact ⟨other, behind, path, List.mem_cons_of_mem _ listed⟩
    | inr here =>
      obtain ⟨file, -, rfl⟩ := here
      exact ⟨name, [], rfl, List.mem_cons_self⟩
  | dir name fault inner rest inner_ih ih =>
    cases mem_kept_dir member with
    | inl inside =>
      obtain ⟨other, behind, path, listed⟩ := ih inside
      exact ⟨other, behind, path, List.mem_cons_of_mem _ listed⟩
    | inr below =>
      obtain ⟨g, -, rfl⟩ := below
      exact ⟨name, g.1, rfl, List.mem_cons_self⟩

theorem kept_sorted (formed : tree.WellFormed) : tree.kept.Pairwise fun f g => Sooner f.1 g.1 := by
  induction tree with
  | empty => exact List.Pairwise.nil
  | leaf name found rest ih =>
    cases kept_leaf name found rest with
    | inl none =>
      rw [none]
      exact ih formed.2.2
    | inr shown =>
      obtain ⟨file, -, shape⟩ := shown
      rw [shape]
      apply List.Pairwise.cons _ (ih formed.2.2)
      intro g member
      obtain ⟨other, behind, path, listed⟩ := head_mem_names member
      rw [path]
      exact .inl (formed.2.1 other listed)
  | dir name fault inner rest inner_ih ih =>
    cases kept_dir name fault inner rest with
    | inl none =>
      rw [none]
      exact ih formed.2.2.2
    | inr shape =>
      rw [shape, List.pairwise_append]
      refine ⟨?_, ih formed.2.2.2, ?_⟩
      · rw [List.pairwise_map]
        exact (inner_ih formed.2.2.1).imp fun before => .inr ⟨rfl, before⟩
      · intro f below g member
        obtain ⟨inside, -, rfl⟩ := List.mem_map.mp below
        obtain ⟨other, behind, path, listed⟩ := head_mem_names member
        rw [path]
        exact .inl (formed.2.1 other listed)

-- What stands behind an entry has other names.
theorem ne_of_later {name other : OsStr} {rest : Tree}
    (before : ∀ other ∈ rest.names, name.bytes < other.bytes) (listed : other ∈ rest.names) :
    name ≠ other := fun same => List.lt_irrefl other.bytes (same ▸ before other listed)

-- A file is found where the walk came to it.
theorem lookup_kept (formed : tree.WellFormed) {f : PathBuf × DiskFile} (member : f ∈ tree.kept) :
    tree.lookup f.1 = some f.2.content := by
  induction tree generalizing f with
  | empty => cases member
  | leaf name found rest ih =>
    cases mem_kept_leaf member with
    | inl inside =>
      obtain ⟨other, behind, path, listed⟩ := head_mem_names inside
      have below := ih formed.2.2 inside
      rw [path] at below ⊢
      simp only [lookup, if_neg (ne_of_later formed.2.1 listed), below]
    | inr here =>
      obtain ⟨file, rfl, rfl⟩ := here
      simp [lookup]
  | dir name fault inner rest inner_ih ih =>
    cases mem_kept_dir member with
    | inl inside =>
      obtain ⟨other, behind, path, listed⟩ := head_mem_names inside
      have below := ih formed.2.2.2 inside
      rw [path] at below ⊢
      simp only [lookup, if_neg (ne_of_later formed.2.1 listed), below]
    | inr under =>
      obtain ⟨g, inside, rfl⟩ := under
      simp only [lookup, if_true, inner_ih formed.2.2.1 inside]

theorem kept_valid (formed : tree.WellFormed) {f : PathBuf × DiskFile} (member : f ∈ tree.kept) :
    f.1 ≠ [] ∧ ∀ name ∈ f.1, validName name := by
  induction tree generalizing f with
  | empty => cases member
  | leaf name found rest ih =>
    cases mem_kept_leaf member with
    | inl inside => exact ih formed.2.2 inside
    | inr here =>
      obtain ⟨file, -, rfl⟩ := here
      refine ⟨List.cons_ne_nil _ _, ?_⟩
      intro other listed
      rw [List.mem_singleton.mp listed]
      exact formed.1
  | dir name fault inner rest inner_ih ih =>
    cases mem_kept_dir member with
    | inl inside => exact ih formed.2.2.2 inside
    | inr below =>
      obtain ⟨g, inside, rfl⟩ := below
      rw [List.forall_mem_cons]
      exact ⟨List.cons_ne_nil _ _, formed.1, (inner_ih formed.2.2.1 inside).2⟩

end Tree

end Lookup

end SparkRsi.Isolation
