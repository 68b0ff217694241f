import SparkRsi.Actor.Trees
import SparkRsi.Governance.Tier
import Mathlib.Logic.Function.Basic

set_option autoImplicit false

namespace SparkRsi.Propose

open Shared Governance
open Actor (OsStr PathBuf Tree)

inductive Node where
  | dir
  | file (content : Bytes)
  deriving DecidableEq

abbrev Sandbox := PathBuf → Option Node

namespace Sandbox

def empty : Sandbox := fun _ => none

def set (sandbox : Sandbox) (path : PathBuf) (node : Node) : Sandbox :=
  Function.update sandbox path (some node)

def createDirAll (current : PathBuf) : PathBuf → Sandbox → Option Sandbox
  | [], sandbox => some sandbox
  | name :: rest, sandbox =>
    match sandbox (current ++ [name]) with
    | some (.file _) => none
    | some .dir => createDirAll (current ++ [name]) rest sandbox
    | none => createDirAll (current ++ [name]) rest (sandbox.set (current ++ [name]) .dir)

/-- `fs::write`, which makes no directories. -/
def write (sandbox : Sandbox) (path : PathBuf) (content : Bytes) : Option Sandbox :=
  if sandbox path.dropLast = some .dir ∧ sandbox path ≠ some .dir then some (sandbox.set path (.file content)) else none

def fileAt (sandbox : Sandbox) (path : PathBuf) : Option Bytes :=
  match sandbox path with
  | some (.file content) => some content
  | _ => none

end Sandbox

/-- What the file operations of a staging fail with, and what a failure that is passed over leaves. -/
structure StageIo where
  -- What of an older sandbox a failed removal leaves.
  leftover : Option Sandbox
  createSandbox : Option String
  createDir : PathBuf → Option String
  readDir : PathBuf → Option String
  -- The entry or what it leads to cannot be looked at.
  unseen : PathBuf → Bool
  -- What a failed copy leaves where the copy should be.
  copy : PathBuf → Option (Option Bytes)
  createParent : Bool
  write : Option String
  -- What writing through an absolute or a climbing target does.
  elsewhere : Sandbox → Except String Sandbox

structure StageText where
  debug : PathBuf → String
  display : PathBuf → String
  notADirectory : String
  isADirectory : String

def skips (name : OsStr) : Bool :=
  let name := name.toStr.getD []
  name = "target".toList || name = ".git".toList || name.head? = some '.'

section Copy

variable (io : StageIo) (text : StageText) (repoRoot sandboxDir : PathBuf)

def copyFile (path : PathBuf) (content : Bytes) (sandbox : Sandbox) : Sandbox :=
  let arrives := match io.copy path with
    | none => some content
    | some left => left
  (arrives.bind fun bytes => sandbox.write path bytes).getD sandbox

-- The guards of `copy_dir_recursive`, in front of the pass over the entries.
def copyDirWith (copyEntries : Sandbox → Except String Sandbox) (current : PathBuf) (depth : Nat)
    (sandbox : Sandbox) :
    Except String Sandbox :=
  if depth > 8 then .ok sandbox
  else do
    let failed (e : String) := s!"Failed to create dir {text.debug (sandboxDir ++ current)}: {e}"
    let made ← if (sandbox current).isSome then .ok sandbox
      else do
        (faulty (io.createDir current)).mapError failed
        okOr (failed text.notADirectory) (sandbox.createDirAll [] current)
    (faulty (io.readDir current)).mapError fun e => s!"Failed to read dir {text.debug (repoRoot ++ current)}: {e}"
    copyEntries made

/-- The pass over a directory's entries, as `is_dir` and `is_file` see them: links followed. -/
def copyEntries (current : PathBuf) (depth : Nat) : Tree → Sandbox → Except String Sandbox
  | .empty, sandbox => .ok sandbox
  | .special _ rest, sandbox => copyEntries current depth rest sandbox
  | .file name content rest, sandbox =>
    if skips name || io.unseen (current ++ [name]) then copyEntries current depth rest sandbox
    else copyEntries current depth rest (copyFile io (current ++ [name]) content sandbox)
  | .dir name inner rest, sandbox =>
    if skips name || io.unseen (current ++ [name]) then copyEntries current depth rest sandbox
    else do
      let sandbox ← copyDirWith io text repoRoot sandboxDir (copyEntries (current ++ [name]) (depth + 1) inner)
        (current ++ [name]) (depth + 1) sandbox
      copyEntries current depth rest sandbox

def copyDirRecursive (tree : Tree) (depth : Nat) : Sandbox → Except String Sandbox :=
  copyDirWith io text repoRoot sandboxDir (copyEntries io text repoRoot sandboxDir [] depth tree) [] depth

end Copy

structure SandboxProposal extends ImprovementProposal where
  id : String
  sandboxPath : Option String

structure Staged where
  sandboxDir : PathBuf
  proposal : SandboxProposal
  contents : Sandbox

def targetPath (targetFile : String) : PathBuf := ((components targetFile).filter isNamed).map .text

section Stage

variable (io : StageIo) (text : StageText)

def writeTarget (targetFile proposedPatch : String) (sandbox : Sandbox) : Except String Sandbox := do
  let path := targetPath targetFile
  let parented := if io.createParent then sandbox else (sandbox.createDirAll [] path.dropLast).getD sandbox
  faulty io.write
  refuseIf ((components targetFile).getLast?.any isNamed = false) text.isADirectory
  okOr text.notADirectory (parented.write path (utf8 proposedPatch))

def stageInSandbox (repoRoot sandboxBase : PathBuf) (tree : Tree) (proposal : SandboxProposal) :
    Except String Staged := do
  let sandboxDir := sandboxBase ++ targetPath proposal.id
  let start := io.leftover.getD .empty
  (faulty io.createSandbox).mapError fun e => s!"Failed to create sandbox dir: {e}"
  let copied ← copyDirRecursive io text repoRoot sandboxDir tree 0 (start.set [] .dir)
  let outside := proposal.targetFile.toList.head? = some '/' || (components proposal.targetFile).any (· = ['.', '.'])
  let written := if outside then io.elsewhere copied
    else writeTarget io text proposal.targetFile proposal.proposedPatch copied
  let contents ← written.mapError fun e => s!"Failed to write proposed patch in sandbox: {e}"
  return { sandboxDir, contents, proposal := { proposal with sandboxPath := some (text.display sandboxDir) } }

end Stage

end SparkRsi.Propose
