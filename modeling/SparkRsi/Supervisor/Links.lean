import SparkRsi.Supervisor.Generation
import SparkRsi.Shared.Results

set_option autoImplicit false

namespace SparkRsi.Supervisor

open Shared

/-- Appends a component; an absolute one replaces the whole path. -/
def joinPath (base component : String) : String :=
  if component.toList.head? = some '/' then component
  else if base = "" ∨ base.toList.getLast? = some '/' then base ++ component
  else base ++ "/" ++ component

def hasParent (path : String) : Bool :=
  match path.toList with
  | [] => false
  | c :: rest => c ≠ '/' || (rest.splitOn '/').any fun part => part ≠ [] && part ≠ ['.']

/-- Every target a link has had, the newest first. -/
abbrev Link := List String

structure Links where
  active : Link
  activeSocket : Link
  deriving DecidableEq

structure LinkIo where
  targetExists : String → Bool
  createDir : Option String
  symlink : Option String
  rename : Option String

/-- Every step of a replacement, the rename last. -/
def replaceLink (io : LinkIo) (link parentless symlinkFailed renameFailed : String) : Except String Unit := do
  refuseIf (hasParent link = false) parentless
  faulty io.createDir
  (faulty io.symlink).mapError fun e => s!"{symlinkFailed}: {e}"
  (faulty io.rename).mapError fun e => s!"{renameFailed}: {e}"

namespace HostSupervisor

variable (supervisor : HostSupervisor) (debug : String → String)

def generationDir (generationId : String) : String := joinPath supervisor.generationsRoot generationId

def atomicSymlinkSwap (io : LinkIo) (links : Links) (generationId : String) : Except String Unit × Links :=
  let targetDir := supervisor.generationDir generationId
  let swapped : Except String Unit := do
    refuseIf (io.targetExists targetDir = false)
      s!"Target generation directory does not exist: {debug targetDir}"
    replaceLink io supervisor.activeSymlink "No parent dir for active symlink"
      "Failed to create temporary symlink" "Failed atomic symlink swap"
  match swapped with
  | .ok () => (.ok (), { links with active := targetDir :: links.active })
  | .error e => (.error e, links)

def switchActiveSocket (io : LinkIo) (links : Links) (activeSocketLink targetSocket : String) :
    Except String Unit × Links :=
  match replaceLink io activeSocketLink "No parent directory for active socket link"
      "Failed to create temporary socket symlink" "Failed atomic socket swap" with
  | .ok () => (.ok (), { links with activeSocket := targetSocket :: links.activeSocket })
  | .error e => (.error e, links)

/-- The generation link first; the socket link only after it. -/
def rollbackToParent (swapIo socketIo : LinkIo) (links : Links) (parentGenerationId : String)
    (activeSocketLink parentSocket : Option String) : Except String Unit × Links :=
  match supervisor.atomicSymlinkSwap debug swapIo links parentGenerationId with
  | (.error e, links) => (.error e, links)
  | (.ok (), links) =>
    match activeSocketLink, parentSocket with
    | some activeSock, some parentSock => switchActiveSocket socketIo links activeSock parentSock
    | _, _ => (.ok (), links)

variable {supervisor debug} {io : LinkIo} {links : Links} {generationId : String}

structure Swappable (supervisor : HostSupervisor) (io : LinkIo) (generationId : String) : Prop where
  target : io.targetExists (supervisor.generationDir generationId) = true
  parent : hasParent supervisor.activeSymlink = true
  calm : io.createDir = none ∧ io.symlink = none ∧ io.rename = none

variable (debug links) in
theorem atomicSymlinkSwap_of_swappable (swappable : supervisor.Swappable io generationId) :
    supervisor.atomicSymlinkSwap debug io links generationId =
      (.ok (), { links with active := supervisor.generationDir generationId :: links.active }) := by
  obtain ⟨createDir, symlink, rename⟩ := swappable.calm
  simp [atomicSymlinkSwap, replaceLink, refuseIf, swappable.target, swappable.parent, createDir, symlink,
    rename, faulty, bind, Except.bind, Except.mapError]

variable (debug links) in
theorem atomicSymlinkSwap_of_not_swappable (stuck : ¬supervisor.Swappable io generationId) :
    ∃ e, supervisor.atomicSymlinkSwap debug io links generationId = (.error e, links) := by
  unfold atomicSymlinkSwap
  dsimp only
  split
  next swapped =>
    simp only [replaceLink, bind_eq_ok, exists_unit, refuseIf_eq_ok, faulty_eq_ok, mapError_eq_ok,
      Bool.not_eq_false] at swapped
    exact absurd ⟨swapped.1, swapped.2.1, swapped.2.2⟩ stuck
  next e _ => exact ⟨e, rfl⟩

variable (supervisor debug io links generationId)

-- A swap moves the link to the generation, or fails and moves nothing.
theorem atomicSymlinkSwap_cases :
    (∃ e, supervisor.atomicSymlinkSwap debug io links generationId = (.error e, links)) ∨
      supervisor.atomicSymlinkSwap debug io links generationId =
        (.ok (), { links with active := supervisor.generationDir generationId :: links.active }) := by
  unfold atomicSymlinkSwap
  dsimp only
  split
  next => exact .inr rfl
  next e _ => exact .inl ⟨e, rfl⟩

theorem switchActiveSocket_cases (activeSocketLink targetSocket : String) :
    (∃ e, switchActiveSocket io links activeSocketLink targetSocket = (.error e, links)) ∨
      switchActiveSocket io links activeSocketLink targetSocket =
        (.ok (), { links with activeSocket := targetSocket :: links.activeSocket }) := by
  unfold switchActiveSocket
  split
  next => exact .inr rfl
  next e _ => exact .inl ⟨e, rfl⟩

-- A rollback adds nothing but the parent to the link and the parent's socket to the socket link.
theorem rollbackToParent_links (socketIo : LinkIo) (activeSocketLink parentSocket : String) :
    ∃ moved : List String, ∃ switched : List String,
      (∀ target ∈ moved, target = supervisor.generationDir generationId) ∧
      (∀ target ∈ switched, target = parentSocket) ∧
      (supervisor.rollbackToParent debug io socketIo links generationId (some activeSocketLink)
        (some parentSocket)).2 =
          { active := moved ++ links.active, activeSocket := switched ++ links.activeSocket } := by
  unfold rollbackToParent
  rcases atomicSymlinkSwap_cases supervisor debug io links generationId with ⟨e, failed⟩ | swapped
  · rw [failed]
    exact ⟨[], [], by simp, by simp, rfl⟩
  · rw [swapped]
    dsimp only
    rcases switchActiveSocket_cases socketIo { links with active := supervisor.generationDir generationId :: links.active }
      activeSocketLink parentSocket with ⟨e, failed⟩ | switched
    · rw [failed]
      exact ⟨[supervisor.generationDir generationId], [], by simp, by simp, rfl⟩
    · rw [switched]
      exact ⟨[supervisor.generationDir generationId], [parentSocket], by simp, by simp, rfl⟩

end HostSupervisor

end SparkRsi.Supervisor
