import SparkRsi.Isolation.Regeneration

set_option autoImplicit false

namespace SparkRsi.Isolation

open Shared Governance
open Actor (OsStr PathBuf)

section Toggled

def DiskFile.toggle (file : DiskFile) : DiskFile :=
  { file with mode := if file.isExecutable then 0 else 0o111 }

theorem isExecutable_toggle (file : DiskFile) : file.toggle.isExecutable = !file.isExecutable := by
  cases flag : file.isExecutable with
  | true =>
    have mode : file.toggle.mode = 0 := if_pos flag
    rw [DiskFile.isExecutable, mode]
    decide
  | false =>
    have mode : file.toggle.mode = 0o111 := if_neg (ne_true_of_eq_false flag)
    rw [DiskFile.isExecutable, mode]
    decide

def Leaf.toggle : Leaf → Leaf
  | file found => file found.toggle
  | other content => other content
  | dangling => dangling

namespace Tree

def toggle : Tree → Tree
  | empty => empty
  | leaf name found rest => leaf name found.toggle rest.toggle
  | dir name fault inner rest => dir name fault inner.toggle rest.toggle

theorem names_toggle (tree : Tree) : tree.toggle.names = tree.names := by
  induction tree with
  | empty => rfl
  | leaf name found rest ih => rw [toggle, names, names, ih]
  | dir name fault inner rest _ ih => rw [toggle, names, names, ih]

theorem wellFormed_toggle {tree : Tree} (formed : tree.WellFormed) : tree.toggle.WellFormed := by
  induction tree with
  | empty => trivial
  | leaf name found rest ih => exact ⟨formed.1, names_toggle rest ▸ formed.2.1, ih formed.2.2⟩
  | dir name fault inner rest inner_ih ih =>
    exact ⟨formed.1, names_toggle rest ▸ formed.2.1, inner_ih formed.2.2.1, ih formed.2.2.2⟩

theorem lookup_toggle (tree : Tree) (path : PathBuf) : tree.toggle.lookup path = tree.lookup path := by
  induction tree generalizing path with
  | empty => rfl
  | leaf name found rest ih =>
    cases path with
    | nil => rfl
    | cons wanted behind =>
      cases found with
      | file file =>
        simp only [toggle, Leaf.toggle, lookup, ih]
        rfl
      | other content => simp only [toggle, Leaf.toggle, lookup, ih]
      | dangling => simp only [toggle, Leaf.toggle, lookup, ih]
  | dir name fault inner rest inner_ih ih =>
    cases path with
    | nil => rfl
    | cons wanted behind => rw [toggle, lookup, lookup, inner_ih, ih]

theorem open_toggle (tree : Tree) : tree.toggle.Open ↔ tree.Open := by
  induction tree with
  | empty => rfl
  | leaf name found rest ih => exact ih
  | dir name fault inner rest inner_ih ih => rw [toggle, Open, Open, inner_ih, ih]

theorem kept_toggle (tree : Tree) : tree.toggle.kept = tree.kept.map fun f => (f.1, f.2.toggle) := by
  induction tree with
  | empty => rfl
  | leaf name found rest ih =>
    cases found <;> by_cases hidden : skipped name = true <;> simp [toggle, Leaf.toggle, kept, hidden, ih]
  | dir name fault inner rest inner_ih ih =>
    rw [toggle, kept, kept, inner_ih, ih]
    split
    next => rfl
    next => simp [Function.comp_def]

end Tree

end Toggled

namespace OutputDir

def toggle : OutputDir → OutputDir
  | missing => missing
  | present fault tree => present fault tree.toggle

variable {disk : OutputDir}

theorem wellFormed_toggle (formed : disk.WellFormed) : disk.toggle.WellFormed := by
  cases disk with
  | missing => trivial
  | present fault tree => exact Tree.wellFormed_toggle formed

theorem lookup_toggle (disk : OutputDir) (path : PathBuf) : disk.toggle.lookup path = disk.lookup path := by
  cases disk with
  | missing => rfl
  | present fault tree => exact tree.lookup_toggle path

theorem open_toggle (disk : OutputDir) : disk.toggle.Open ↔ disk.Open := by
  cases disk with
  | missing => rfl
  | present fault tree => rw [toggle, Open, Open, tree.open_toggle]

theorem files_toggle (disk : OutputDir) : disk.toggle.files = disk.files.map fun f => (f.1, f.2.toggle) := by
  cases disk with
  | missing => rfl
  | present fault tree => exact tree.kept_toggle

theorem paths_sorted (formed : disk.WellFormed) : (disk.files.map Prod.fst).Pairwise Sooner := by
  rw [List.pairwise_map]
  cases disk with
  | missing => exact List.Pairwise.nil
  | present fault tree => exact Tree.kept_sorted formed

theorem paths_nodup (formed : disk.WellFormed) : (disk.files.map Prod.fst).Nodup := by
  apply (paths_sorted formed).imp
  intro a b before same
  exact sooner_asymm before (same ▸ before)

theorem lookup_files (formed : disk.WellFormed) {f : PathBuf × DiskFile} (member : f ∈ disk.files) :
    disk.lookup f.1 = some f.2.content := by
  cases disk with
  | missing => cases member
  | present fault tree => exact Tree.lookup_kept formed member

theorem files_valid (formed : disk.WellFormed) {f : PathBuf × DiskFile} (member : f ∈ disk.files) :
    f.1 ≠ [] ∧ ∀ name ∈ f.1, Tree.validName name := by
  cases disk with
  | missing => cases member
  | present fault tree => exact Tree.kept_valid formed member

def Within (disk : OutputDir) (texts : Set Bytes) : Prop :=
  ∀ path bytes, disk.lookup path = some (.ok bytes) → bytes ∈ texts

def TextNames (disk : OutputDir) : Prop := ∀ f ∈ disk.files, ∀ name ∈ f.1, ∃ chars, name = .text chars

structure Reads (old new : OutputDir) : Prop where
  reads : ∀ f ∈ old.files, ∃ bytes, f.2.content = .ok bytes ∧ new.lookup f.1 = some (.ok bytes)
  readable : new.Open
  known : ∀ g ∈ new.files, g.1 ∈ old.files.map Prod.fst

/-- Only that one of the files is no longer there as a regular file with the executable bits it had. -/
structure Unnoticed (old new : OutputDir) : Prop extends Reads old new where
  changed : ∃ f ∈ old.files, ∀ g ∈ new.files, g.1 = f.1 → g.2.isExecutable ≠ f.2.isExecutable

end OutputDir

section Paths

variable {disk : OutputDir} {f g : PathBuf × DiskFile}

theorem map_toStringLossy {path : PathBuf} (texts : ∀ name ∈ path, ∃ chars, name = OsStr.text chars) :
    (path.map OsStr.toStringLossy).map OsStr.text = path := by
  rw [List.map_map]
  conv_rhs => rw [← List.map_id path]
  apply List.map_congr_left
  intro name member
  obtain ⟨chars, rfl⟩ := texts name member
  rfl

-- A recorded path leads back to its file.
theorem recordedPath_relText (formed : disk.WellFormed) (texts : disk.TextNames) (member : f ∈ disk.files) :
    recordedPath (relText f.1) = f.1 := by
  have valid := disk.files_valid formed member
  have clean : ∀ part ∈ f.1.map OsStr.toStringLossy, '/' ∉ part := by
    intro part inside
    obtain ⟨name, listed, rfl⟩ := List.mem_map.mp inside
    obtain ⟨chars, rfl⟩ := texts f member name listed
    exact (valid.2 _ listed).2.2.2.1
  rw [recordedPath, relText, components_joinComponents clean (by simpa using valid.1)]
  exact map_toStringLossy (texts f member)

end Paths

section Verification

variable {sha : HexHash} {texts : Set Bytes} {debug : PathBuf → String} {outputDir : PathBuf}
  {old new : OutputDir} {manifest : ArtifactManifest}

theorem recordOf_inj {f g : PathBuf × DiskFile} {a b : Bytes} (free : Set.InjOn sha.hex texts)
    (first : a ∈ texts) (second : b ∈ texts) (same : recordOf sha f a = recordOf sha g b) :
    relText f.1 = relText g.1 ∧ a = b ∧ f.2.isExecutable = g.2.isExecutable := by
  rw [recordOf, recordOf, ArtifactRecord.mk.injEq] at same
  exact ⟨same.1, free first second same.2.1, same.2.2.2⟩

variable (free : Set.InjOn sha.hex texts) (oldFormed : old.WellFormed) (newFormed : new.WellFormed)
  (oldWithin : old.Within texts) (newWithin : new.Within texts) (oldTexts : old.TextNames) (newTexts : new.TextNames)
  (recorded : List.Forall₂ (Recorded sha) old.files manifest.artifacts)

include free oldFormed newFormed oldWithin newWithin oldTexts newTexts recorded

theorem verifyIntegrity_iff_reads :
    manifest.verifyIntegrity sha debug outputDir new = .ok true ↔ OutputDir.Reads old new := by
  rw [verifyIntegrity_ok]
  constructor
  · rintro ⟨standing, opened, listed⟩
    refine ⟨?_, opened, ?_⟩
    · intro f member
      obtain ⟨record, inside, bytes, content, rfl⟩ := exists_of_mem_left recorded member
      obtain ⟨found, here, digest⟩ := standing _ inside
      change new.lookup (recordedPath (relText f.1)) = _ at here
      rw [recordedPath_relText oldFormed oldTexts member] at here
      have before := oldWithin f.1 bytes (content ▸ OutputDir.lookup_files oldFormed member)
      exact ⟨bytes, content, free (newWithin _ _ here) before digest ▸ here⟩
    · intro g member
      obtain ⟨record, inside, path⟩ := List.mem_map.mp (listed g member)
      obtain ⟨f, known, bytes, -, rfl⟩ := exists_of_mem_right recorded inside
      change relText f.1 = relText g.1 at path
      have same := congrArg recordedPath path
      rw [recordedPath_relText oldFormed oldTexts known,
        recordedPath_relText newFormed newTexts member] at same
      exact same ▸ List.mem_map_of_mem known
  · intro held
    refine ⟨?_, held.readable, ?_⟩
    · intro record inside
      obtain ⟨f, member, bytes, content, rfl⟩ := exists_of_mem_right recorded inside
      obtain ⟨same, also, here⟩ := held.reads f member
      rw [content] at also
      cases also
      refine ⟨bytes, ?_, rfl⟩
      change new.lookup (recordedPath (relText f.1)) = _
      rw [recordedPath_relText oldFormed oldTexts member, here]
    · intro g member
      obtain ⟨f, known, path⟩ := List.mem_map.mp (held.known g member)
      obtain ⟨record, inside, bytes, -, rfl⟩ := exists_of_mem_left recorded known
      rw [← path]
      exact List.mem_map_of_mem inside

theorem yields_iff_reads : Yields sha debug outputDir new manifest.artifacts ↔
    OutputDir.Reads old new ∧ ∀ f ∈ old.files, ∃ g ∈ new.files, g.1 = f.1 ∧
      g.2.isExecutable = f.2.isExecutable := by
  rw [yields_iff]
  constructor
  · rintro ⟨opened, again⟩
    have pairs : List.Forall₂ (fun f g : PathBuf × DiskFile => f.1 = g.1 ∧ g.2.isExecutable = f.2.isExecutable ∧
        ∃ bytes, f.2.content = .ok bytes ∧ g.2.content = .ok bytes) old.files new.files := by
      apply forall₂_join recorded again
      rintro f inOld g inNew record - ⟨a, first, rfl⟩ ⟨b, second, same⟩
      have parts := recordOf_inj free (oldWithin f.1 a (first ▸ OutputDir.lookup_files oldFormed inOld))
        (newWithin g.1 b (second ▸ OutputDir.lookup_files newFormed inNew)) same
      have path := congrArg recordedPath parts.1
      rw [recordedPath_relText oldFormed oldTexts inOld,
        recordedPath_relText newFormed newTexts inNew] at path
      exact ⟨path, parts.2.2.symm, a, first, parts.2.1 ▸ second⟩
    refine ⟨⟨?_, opened, ?_⟩, ?_⟩
    · intro f member
      obtain ⟨g, inside, path, -, bytes, first, second⟩ := exists_of_mem_left pairs member
      exact ⟨bytes, first, path ▸ second ▸ OutputDir.lookup_files newFormed inside⟩
    · intro g member
      obtain ⟨f, inside, path, -⟩ := exists_of_mem_right pairs member
      exact path ▸ List.mem_map_of_mem inside
    · intro f member
      obtain ⟨g, inside, path, flag, -⟩ := exists_of_mem_left pairs member
      exact ⟨g, inside, path.symm, flag⟩
  · rintro ⟨held, flags⟩
    -- Both lists of paths are in the walk's order.
    have paths : new.files.map Prod.fst = old.files.map Prod.fst := by
      have members (path : PathBuf) : path ∈ new.files.map Prod.fst ↔ path ∈ old.files.map Prod.fst := by
        constructor
        · intro listed
          obtain ⟨g, inside, rfl⟩ := List.mem_map.mp listed
          exact held.known g inside
        · intro listed
          obtain ⟨f, inside, rfl⟩ := List.mem_map.mp listed
          obtain ⟨g, there, path, -⟩ := flags f inside
          exact path ▸ List.mem_map_of_mem there
      have perm := (List.perm_ext_iff_of_nodup (OutputDir.paths_nodup newFormed) (OutputDir.paths_nodup oldFormed)).mpr members
      exact List.Perm.eq_of_pairwise (fun a b _ _ before after => absurd after (sooner_asymm before))
        (OutputDir.paths_sorted newFormed) (OutputDir.paths_sorted oldFormed) perm
    have pairs : List.Forall₂ (fun g f : PathBuf × DiskFile => g.1 = f.1) new.files old.files := by
      have aligned : List.Forall₂ (fun a b => a = b) (new.files.map Prod.fst) (old.files.map Prod.fst) := by
        rw [paths]
        exact List.forall₂_same.mpr fun _ _ => rfl
      rwa [List.forall₂_map_left_iff, List.forall₂_map_right_iff] at aligned
    refine ⟨held.readable, forall₂_join pairs recorded.flip ?_⟩
    rintro g inNew record - f inOld path ⟨bytes, content, rfl⟩
    obtain ⟨same, also, here⟩ := held.reads f inOld
    rw [content] at also
    cases also
    obtain ⟨g', inside, path', flag⟩ := flags f inOld
    rw [← List.inj_on_of_nodup_map (OutputDir.paths_nodup newFormed) inNew inside (path.trans path'.symm)] at flag
    rw [← path, OutputDir.lookup_files newFormed inNew, Option.some.injEq] at here
    exact ⟨bytes, here, by rw [recordOf, recordOf, path, flag]⟩

end Verification

section Verification

variable {sha : HexHash} {texts : Set Bytes} {debug : PathBuf → String} {outputDir : PathBuf}
  {old new : OutputDir} {manifest : ArtifactManifest}

def Agrees (sha : HexHash) (debug : PathBuf → String) (outputDir : PathBuf) (manifest : ArtifactManifest)
    (disk : OutputDir) : Prop :=
  manifest.verifyIntegrity sha debug outputDir disk = .ok true ↔ Yields sha debug outputDir disk manifest.artifacts

-- Verification does not see the executable bits.
theorem verify_toggle : manifest.verifyIntegrity sha debug outputDir new.toggle = .ok true ↔
    manifest.verifyIntegrity sha debug outputDir new = .ok true := by
  simp only [verifyIntegrity_ok, OutputDir.lookup_toggle, OutputDir.open_toggle, OutputDir.files_toggle,
    List.forall_mem_map]

theorem not_agrees_of_files (opened : old.Open)
    (recorded : List.Forall₂ (Recorded sha) old.files manifest.artifacts) (some_ : old.files ≠ []) :
    ¬(Agrees sha debug outputDir manifest old ∧ Agrees sha debug outputDir manifest old.toggle) := by
  rintro ⟨same, toggled⟩
  have verified := same.mpr (yields_iff.mpr ⟨opened, recorded⟩)
  have again := (yields_iff.mp (toggled.mp (verify_toggle.mpr verified))).2
  rw [OutputDir.files_toggle] at again
  cases shape : old.files with
  | nil => exact some_ shape
  | cons f rest =>
    rw [shape] at again recorded
    generalize manifest.artifacts = artifacts at again recorded
    cases recorded with
    | cons first _ =>
      cases again with
      | cons second _ =>
        obtain ⟨a, -, rfl⟩ := first
        obtain ⟨b, -, same⟩ := second
        have flags := congrArg ArtifactRecord.isExecutable same
        rw [recordOf, recordOf, isExecutable_toggle] at flags
        cases flag : f.2.isExecutable <;> simp [flag] at flags

theorem agrees_of_no_files (recorded : List.Forall₂ (Recorded sha) old.files manifest.artifacts)
    (none : old.files = []) :
    Agrees sha debug outputDir manifest new := by
  rw [none, List.forall₂_nil_left_iff] at recorded
  rw [Agrees, verifyIntegrity_ok, yields_iff, recorded, List.forall₂_nil_right_iff,
    List.eq_nil_iff_forall_not_mem]
  simp

/-- Of a manifest with records not every later content is told as it should be. Where all names are texts,
exactly the contents are not that differ in executable bits, or in what kind of file something is, and in
nothing else. -/
theorem verify_regenerates_iff (free : Set.InjOn sha.hex texts)
    {candidateId builderImageDigest sourceBundleDigest timestampUtc : String} (formed : old.WellFormed)
    (within : old.Within texts)
    (made : generateFromOutputDir sha debug outputDir candidateId builderImageDigest sourceBundleDigest timestampUtc old =
      .ok manifest) :
    ((∀ new : OutputDir, new.WellFormed → new.Within texts → Agrees sha debug outputDir manifest new) ↔ old.files = []) ∧
      (old.TextNames → ∀ new : OutputDir, new.WellFormed → new.Within texts → new.TextNames →
        (Agrees sha debug outputDir manifest new ↔ ¬OutputDir.Unnoticed old new)) := by
  obtain ⟨opened, recorded⟩ := generate_ok made
  constructor
  · constructor
    · intro agrees
      by_contra some_
      have toggledWithin : old.toggle.Within texts := fun path bytes found =>
        within path bytes (OutputDir.lookup_toggle old path ▸ found)
      exact not_agrees_of_files opened recorded some_
        ⟨agrees old formed within, agrees old.toggle (OutputDir.wellFormed_toggle formed) toggledWithin⟩
    · exact fun none new _ _ => agrees_of_no_files recorded none
  · intro oldTexts new newFormed newWithin newTexts
    rw [Agrees, verifyIntegrity_iff_reads free formed newFormed within newWithin oldTexts newTexts recorded,
      yields_iff_reads free formed newFormed within newWithin oldTexts newTexts recorded]
    constructor
    · intro agrees unnoticed
      obtain ⟨f, member, changed⟩ := unnoticed.changed
      obtain ⟨g, inside, path, flag⟩ := (agrees.mp unnoticed.toReads).2 f member
      exact changed g inside path flag
    · intro noticed
      refine ⟨fun held => ⟨held, ?_⟩, And.left⟩
      intro f member
      by_contra missing
      exact noticed ⟨held, f, member, fun g inside path flag => missing ⟨g, inside, path, flag⟩⟩

end Verification

section Sample

def oneFile (mode : UInt32) : OutputDir :=
  .present none (.leaf (.text ['r', 'u', 'n']) (.file { content := .ok [35, 33], mode }) .empty)

theorem oneFile_formed (mode : UInt32) : (oneFile mode).WellFormed :=
  ⟨show ValidName ['r', 'u', 'n'] by decide, fun _ member => absurd member List.not_mem_nil, trivial⟩

theorem oneFile_within (mode : UInt32) : (oneFile mode).Within {[35, 33]} := by
  intro path bytes found
  cases path with
  | nil => cases found
  | cons name rest =>
    simp only [oneFile, OutputDir.lookup, Tree.lookup] at found
    split at found
    next =>
      split at found
      next =>
        cases found
        rfl
      next => cases found
    next => cases found

theorem oneFile_texts (mode : UInt32) : (oneFile mode).TextNames := by
  intro f member name inside
  cases List.mem_singleton.mp member
  exact ⟨['r', 'u', 'n'], List.mem_singleton.mp inside⟩

theorem verify_regenerates_iff_sample : ∃ manifest : ArtifactManifest,
    generateFromOutputDir sha256 (fun _ => "") [] "candidate" "image" "source" "now" (oneFile 0o644) = .ok manifest ∧
      (∃ new : OutputDir, new.WellFormed ∧ ¬Agrees sha256 (fun _ => "") [] manifest new) ∧
      Agrees sha256 (fun _ => "") [] manifest (oneFile 0o600) := by
  have free : Set.InjOn sha256.hex {[35, 33]} := Set.injOn_singleton _ _
  have both := @verify_regenerates_iff sha256 {[35, 33]} (fun _ => "") [] (oneFile 0o644) _ free "candidate" "image"
    "source" "now" (oneFile_formed 0o644) (oneFile_within 0o644) rfl
  refine ⟨_, rfl, ?_, ?_⟩
  · by_contra all
    have none : (oneFile 0o644).files = [] := both.1.mp fun new formed _ => by
      by_contra refused
      exact all ⟨new, formed, refused⟩
    cases none
  · apply (both.2 (oneFile_texts _) (oneFile 0o600) (oneFile_formed _) (oneFile_within _) (oneFile_texts _)).mpr
    intro unnoticed
    obtain ⟨f, member, changed⟩ := unnoticed.changed
    cases List.mem_singleton.mp member
    exact changed _ (List.mem_singleton_self _) rfl (by decide)

theorem mode_change_unnoticed : ∃ manifest : ArtifactManifest,
    generateFromOutputDir sha256 (fun _ => "") [] "candidate" "image" "source" "now" (oneFile 0o644) = .ok manifest ∧
      manifest.verifyIntegrity sha256 (fun _ => "") [] (oneFile 0o755) = .ok true ∧
      ¬Yields sha256 (fun _ => "") [] (oneFile 0o755) manifest.artifacts := by
  refine ⟨_, rfl, by decide +kernel, ?_⟩
  intro yields
  cases (yields_iff.mp yields).2 with
  | cons first _ =>
    obtain ⟨bytes, -, same⟩ := first
    have flags : DiskFile.isExecutable { content := .ok [35, 33], mode := 0o644 } =
        DiskFile.isExecutable { content := .ok [35, 33], mode := 0o755 } := congrArg ArtifactRecord.isExecutable same
    exact absurd flags (by decide)

end Sample

end SparkRsi.Isolation
