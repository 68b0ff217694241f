import SparkRsi.Shared.Parts
import SparkRsi.Shared.Sha256
import Mathlib.Data.Char
import Mathlib.Data.List.Lex

set_option autoImplicit false

namespace SparkRsi.Isolation

open Shared

abbrev Name := List Char

abbrev RelPath := List Name

def ValidName (name : Name) : Prop :=
  name ≠ [] ∧ name ≠ ['.'] ∧ name ≠ ['.', '.'] ∧ '/' ∉ name ∧ Char.ofNat 0 ∉ name

instance (name : Name) : Decidable (ValidName name) := inferInstanceAs (Decidable (_ ∧ _ ∧ _ ∧ _ ∧ _))

/-- The entries of a directory by name, as `entries.sort()` leaves them. -/
inductive Dir where
  | empty
  | file (name : Name) (content : Bytes) (rest : Dir)
  | sub (name : Name) (inner rest : Dir)
  deriving DecidableEq

def skippedName (name : Name) : Bool :=
  name = "target".toList || name = ".git".toList || name = "node_modules".toList

namespace Dir

def names : Dir → List Name
  | empty => []
  | file name _ rest => name :: rest.names
  | sub name _ rest => name :: rest.names

def WellFormed : Dir → Prop
  | empty => True
  | file name _ rest => ValidName name ∧ (∀ other ∈ rest.names, name < other) ∧ rest.WellFormed
  | sub name inner rest =>
    ValidName name ∧ (∀ other ∈ rest.names, name < other) ∧ inner.WellFormed ∧ rest.WellFormed

def NoSkippedDirs : Dir → Prop
  | empty => True
  | file _ _ rest => rest.NoSkippedDirs
  | sub name inner rest => ¬skippedName name ∧ inner.NoSkippedDirs ∧ rest.NoSkippedDirs

def NoSkippedNames : Dir → Prop
  | empty => True
  | file name _ rest => ¬skippedName name ∧ rest.NoSkippedNames
  | sub name inner rest => ¬skippedName name ∧ inner.NoSkippedNames ∧ rest.NoSkippedNames

def files : Dir → List (RelPath × Bytes)
  | empty => []
  | file name content rest => ([name], content) :: rest.files
  | sub name inner rest => (inner.files.map fun f => (name :: f.1, f.2)) ++ rest.files

def contentAt (dir : Dir) : RelPath → Option Bytes := fun path => dir.files.lookup path

/-- The files below a directory with their paths relative to `base`; `current` leads to it from there. -/
def collectFilesSorted (current : RelPath) : Dir → List (String × Bytes)
  | empty => []
  | file name content rest =>
    if skippedName name then collectFilesSorted current rest
    else (String.ofList (Parts.join '/' (current ++ [name])), content) :: collectFilesSorted current rest
  | sub name inner rest =>
    if skippedName name then collectFilesSorted current rest
    else collectFilesSorted (current ++ [name]) inner ++ collectFilesSorted current rest

end Dir

variable (hash : HexHash)

def computeFileSha256 (content : Bytes) : String := hash.hex content

def hashedBytes (entries : List (String × Bytes)) : Bytes :=
  entries.flatMap fun entry => utf8 entry.1 ++ utf8 (computeFileSha256 hash entry.2)

def computeSourceDigest (dir : Dir) : String := hash.hex (hashedBytes hash (dir.collectFilesSorted []))

def treeDigest (root : Dir) : String := computeSourceDigest hash root

end SparkRsi.Isolation
