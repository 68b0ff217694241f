import SparkRsi.Actor.Trees
import SparkRsi.Isolation.Manifest

set_option autoImplicit false

namespace SparkRsi.Isolation

open Shared Governance
open Actor (OsStr PathBuf)

structure DiskFile where
  content : Except String Bytes
  mode : UInt32

def DiskFile.isExecutable (file : DiskFile) : Bool := file.mode &&& 0o111 != 0

inductive Leaf where
  | file (file : DiskFile)
  -- Neither a file nor a directory, as a device or a pipe.
  | other (content : Except String Bytes)
  -- A link to nothing.
  | dangling

/-- A directory's entries in the order of `entries.sort()`, with what `read_dir` fails with on the
directories in it. -/
inductive Tree where
  | empty
  | leaf (name : OsStr) (found : Leaf) (rest : Tree)
  | dir (name : OsStr) (fault : Option String) (inner rest : Tree)

inductive OutputDir where
  | missing
  | present (fault : Option String) (tree : Tree)

structure FileEntry where
  relPath : String
  path : PathBuf
  file : DiskFile

namespace Tree

def names : Tree → List OsStr
  | empty => []
  | leaf name _ rest => name :: rest.names
  | dir name _ _ rest => name :: rest.names

def validName : OsStr → Prop
  | .text chars => ValidName chars
  | .raw bytes => fromUtf8 bytes = none

def WellFormed : Tree → Prop
  | empty => True
  | leaf name _ rest => validName name ∧ (∀ other ∈ rest.names, name.bytes < other.bytes) ∧ rest.WellFormed
  | dir name _ inner rest =>
    validName name ∧ (∀ other ∈ rest.names, name.bytes < other.bytes) ∧ inner.WellFormed ∧ rest.WellFormed

-- A name that is no text has none of the skipped ones.
def skipped (name : OsStr) : Bool := skippedName (name.toStr.getD [])

def collectFilesSorted (current : PathBuf) : Tree → Except String (List FileEntry)
  | empty => .ok []
  | leaf name found rest =>
    if skipped name then collectFilesSorted current rest
    else match found with
      | .file file => do
        let others ← collectFilesSorted current rest
        let path := current ++ [name]
        return { relPath := joinComponents (path.map OsStr.toStringLossy), path, file } :: others
      | _ => collectFilesSorted current rest
  | dir name fault inner rest =>
    if skipped name then collectFilesSorted current rest
    else do
      faulty fault
      let below ← collectFilesSorted (current ++ [name]) inner
      let others ← collectFilesSorted current rest
      return below ++ others

def lookup : Tree → PathBuf → Option (Except String Bytes)
  | _, [] => some (.error "Is a directory (os error 21)")
  | empty, _ :: _ => none
  | leaf other found rest, name :: path =>
    if other = name then
      if path = [] then
        match found with
        | .file file => some file.content
        | .other content => some content
        | .dangling => none
      else none
    else rest.lookup (name :: path)
  | dir other _ inner rest, name :: path =>
    if other = name then inner.lookup path else rest.lookup (name :: path)

end Tree

namespace OutputDir

def WellFormed : OutputDir → Prop
  | missing => True
  | present _ tree => tree.WellFormed

def collectFilesSorted : OutputDir → Except String (List FileEntry)
  | missing => .ok []
  | present fault tree => do
    faulty fault
    tree.collectFilesSorted []

def lookup : OutputDir → PathBuf → Option (Except String Bytes)
  | missing, _ => none
  | present _ tree, path => tree.lookup path

end OutputDir

structure ArtifactRecord where
  relativePath : String
  sha256 : String
  sizeBytes : UInt64
  isExecutable : Bool
  deriving DecidableEq

structure ArtifactManifest where
  manifestVersion : String
  candidateId : String
  builderImageDigest : String
  sourceBundleDigest : String
  artifacts : List ArtifactRecord
  manifestDigest : String
  timestampUtc : String
  deriving DecidableEq

section Source

variable (sha : HexHash) (debug : PathBuf → String) (outputDir : PathBuf)

def fileSha256 (path : PathBuf) (content : Except String Bytes) : Except String String :=
  match content with
  | .ok bytes => .ok (computeFileSha256 sha bytes)
  | .error e => .error s!"Failed to read file {debug (outputDir ++ path)}: {e}"

def artifactRecord (entry : FileEntry) : Except String ArtifactRecord := do
  let sha256 ← fileSha256 sha debug outputDir entry.path entry.file.content
  let length := match entry.file.content with
    | .ok bytes => bytes.length
    | .error _ => 0
  return { relativePath := entry.relPath, sha256, sizeBytes := UInt64.ofNat length, isExecutable := entry.file.isExecutable }

def ArtifactRecord.digestBytes (record : ArtifactRecord) : Bytes :=
  utf8 record.relativePath ++ utf8 record.sha256 ++ (u64Le record.sizeBytes).reverse

def generateFromOutputDir (candidateId builderImageDigest sourceBundleDigest timestampUtc : String)
    (disk : OutputDir) :
    Except String ArtifactManifest := do
  let entries ← disk.collectFilesSorted
  let artifacts ← entries.mapM (artifactRecord sha debug outputDir)
  return {
    manifestVersion := "1.0.0", candidateId, builderImageDigest, sourceBundleDigest, artifacts
    manifestDigest := sha.hex (utf8 candidateId ++ utf8 builderImageDigest ++ utf8 sourceBundleDigest ++
      artifacts.flatMap ArtifactRecord.digestBytes)
    timestampUtc }

def recordedPath (relativePath : String) : PathBuf := (components relativePath).map .text

def recordsStand (disk : OutputDir) : List ArtifactRecord → Except String Bool
  | [] => .ok true
  | record :: rest =>
    match disk.lookup (recordedPath record.relativePath) with
    | none => .ok false
    | some content => do
      let actual ← fileSha256 sha debug outputDir (recordedPath record.relativePath) content
      if actual ≠ record.sha256 then return false else recordsStand disk rest

def ArtifactManifest.verifyIntegrity (manifest : ArtifactManifest) (disk : OutputDir) :
    Except String Bool := do
  let stand ← recordsStand sha debug outputDir disk manifest.artifacts
  if stand = false then return false
  else do
    let onDisk ← disk.collectFilesSorted
    let expectedPaths := manifest.artifacts.map ArtifactRecord.relativePath
    return onDisk.all fun entry => expectedPaths.contains entry.relPath

end Source

end SparkRsi.Isolation
