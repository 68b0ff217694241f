import SparkRsi.Canary.Workload
import SparkRsi.Governance.Paths
import SparkRsi.Supervisor.Links

set_option autoImplicit false

namespace SparkRsi.Canary

open Shared Governance

def adapterManifestVersion : UInt16 := 1
def responseFormatUtf8Exact : String := "utf8-exact"
def adapterManifestFile : String := "canary-adapter.toml"

structure CanaryAdapterManifest where
  manifestVersion : UInt16
  protocolVersion : UInt16
  executable : String
  args : List String
  workloadId : String
  responseFormat : String

structure LoadedAdapterManifest where
  manifest : CanaryAdapterManifest
  digest : String

inductive AdapterFile where
  | absent
  | unreadable (error : String)
  | text (content : String)

section Validation

variable (debug : String → String)

/-- The component of the current directory counts at the start of a path only. -/
def hasSpecialComponent (path : String) : Bool :=
  (components path).head? = some ['.'] || (components path).any fun part => part = ['.', '.']

def validateRelativeExecutable (executable : String) : Except String Unit := do
  refuseIf (isBlank executable) "canary adapter executable is required"
  refuseIf ('\\' ∈ executable.toList ∨ Char.ofNat 0 ∈ executable.toList)
    "canary adapter executable contains a backslash or NUL"
  refuseIf (executable.toList.head? = some '/')
    s!"canary adapter executable {debug executable} must be relative to the build output"
  refuseIf (hasSpecialComponent executable)
    s!"canary adapter executable {debug executable} must not climb or use special components"

namespace CanaryAdapterManifest

def validate (manifest : CanaryAdapterManifest) : Except String Unit := do
  refuseIf (manifest.manifestVersion ≠ adapterManifestVersion)
    s!"canary adapter manifest version {manifest.manifestVersion} is not supported (expected {adapterManifestVersion})"
  refuseIf (manifest.protocolVersion ≠ canaryProtocolVersion)
    s!"canary adapter protocol version {manifest.protocolVersion} is not supported (expected {canaryProtocolVersion})"
  validateRelativeExecutable debug manifest.executable
  refuseIf (∃ arg ∈ manifest.args, Char.ofNat 0 ∈ arg.toList) "canary adapter argument contains NUL"
  refuseIf (isBlank manifest.workloadId ∨ manifest.workloadId.toList.any isControl)
    "canary adapter workload id is required and must be printable"
  refuseIf (manifest.responseFormat ≠ responseFormatUtf8Exact)
    s!"canary adapter response format {debug manifest.responseFormat} is not supported (expected {debug responseFormatUtf8Exact})"

def parse (fromToml : String → Except String CanaryAdapterManifest) (text : String) :
    Except String CanaryAdapterManifest := do
  let manifest ← (fromToml text).mapError fun e => s!"canary adapter manifest does not parse: {e}"
  manifest.validate debug
  return manifest

def loadFromTree (sha : HexHash) (fromToml : String → Except String CanaryAdapterManifest) (treeRoot : String)
    (file : AdapterFile) : Except String LoadedAdapterManifest :=
  match file with
  | .absent => .error s!"target {debug treeRoot} ships no {adapterManifestFile}: not eligible for canary"
  | .unreadable e =>
    let path := Supervisor.joinPath treeRoot adapterManifestFile
    .error s!"cannot read {debug path}: {e}"
  | .text content => do
    let manifest ← parse debug fromToml content
    return { manifest, digest := sha.hex (utf8 content) }

def executablePath (manifest : CanaryAdapterManifest) (buildOutputRoot : String) : String :=
  Supervisor.joinPath buildOutputRoot manifest.executable

end CanaryAdapterManifest

end Validation

def fileName (path : String) : Option String :=
  ((((components path).filter isNamed).getLast?).filter fun part => part ≠ ['.', '.']).map String.ofList

namespace CanaryWorkloadManifest

def parse (debug : String → String) (fromJson : Bytes → Except String CanaryWorkloadManifest) (bytes : Bytes) :
    Except String CanaryWorkloadManifest := do
  let manifest ← (fromJson bytes).mapError fun e => s!"canary workload does not parse: {e}"
  manifest.validate debug
  return manifest

variable (sha : HexHash) (debug : String → String) (fromJson : Bytes → Except String CanaryWorkloadManifest)

def load (path : String) (file : Except String Bytes) : Except String PinnedWorkload := do
  let bytes ← file.mapError fun e => s!"cannot read canary workload {debug path}: {e}"
  let manifest ← parse debug fromJson bytes
  return { manifest, digest := manifest.digest sha, path }

def loadPinned (path : String) (file : Except String Bytes) (expectedDigest : String) :
    Except String PinnedWorkload := do
  let loaded ← load sha debug fromJson path file
  refuseIf (loaded.digest ≠ expectedDigest)
    s!"canary workload {debug path} has digest {loaded.digest}, pinned digest is {expectedDigest}"
  return loaded

variable {sha debug fromJson} {path expectedDigest : String} {file : Except String Bytes} {workload : PinnedWorkload}

theorem loadPinned_ok (loaded : loadPinned sha debug fromJson path file expectedDigest = .ok workload) :
    workload.manifest.validate debug = .ok () ∧ workload.manifest.digest sha = expectedDigest ∧
      workload.digest = expectedDigest := by
  simp only [loadPinned, load, parse, bind_eq_ok, exists_unit, refuseIf_eq_ok, not_not] at loaded
  obtain ⟨_, ⟨_, -, manifest, ⟨_, -, valid, ⟨⟩⟩, ⟨⟩⟩, pinned, ⟨⟩⟩ := loaded
  exact ⟨valid, pinned, pinned⟩

end CanaryWorkloadManifest

end SparkRsi.Canary
