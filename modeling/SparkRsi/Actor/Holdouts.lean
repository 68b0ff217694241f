import SparkRsi.Actor.Judge
import SparkRsi.Shared.OrderStatistics
import SparkRsi.Shared.Sha256
import Mathlib.Data.List.Perm.Basic
import Mathlib.Data.String.Basic

set_option autoImplicit false

namespace SparkRsi.Actor

open Shared Ledger

def holdoutSetDomain : String := "spark-rsi.holdout-set.v1"

structure HoldoutEntry where
  fileName : OsStr
  isFile : Except String Bool

structure HoldoutDir where
  path : PathBuf
  isDir : Bool
  readDir : Except String (List (Except String HoldoutEntry))
  read : String → Except String Bytes

namespace HoldoutDir

variable (debug : JudgeDebug) (sha : HexHash) (fromSlice : Bytes → Except String HoldoutSuite)
  (dir : HoldoutDir)

def entryName (entry : Except String HoldoutEntry) : Except String String := do
  let entry ← entry.mapError fun e => s!"Failed to read holdouts directory: {e}"
  let chars ← okOr s!"holdout entry {debug.osStr entry.fileName} has a non-UTF-8 name" entry.fileName.toStr
  let name ← fitText (String.ofList chars)
  let isFile ← entry.isFile.mapError fun e => s!"cannot stat holdout entry {name.value}: {e}"
  refuseIf (isFile = false ∨ ¬".json".toList <:+ chars)
    s!"unexpected holdout entry {debug.text name.value}: only regular .json files are allowed. Production evaluation fails closed."
  return name.value

def names : Except String (List String) := do
  refuseIf (dir.isDir = false)
    s!"Holdouts directory does not exist: {debug.path dir.path}. Production evaluation fails closed."
  let entries ← dir.readDir.mapError fun e => s!"Failed to read holdouts directory {debug.path dir.path}: {e}"
  let names ← entries.mapM (entryName debug)
  refuseIf (names = [])
    s!"No valid holdout suites found in {debug.path dir.path}. Production evaluation fails closed."
  return OrderStatistics.sorted names

structure Loaded where
  suites : List HoldoutSuite
  ids : List String
  fields : List Bytes

def setHeader (count : Nat) : List Bytes := [utf8 holdoutSetDomain, u64Le (.ofNat count)]

section Listing

variable {debug} {dir}

def Lists (dir : HoldoutDir) (name : String) : Prop :=
  ∃ entries entry, dir.readDir = .ok entries ∧ .ok entry ∈ entries ∧ entry.fileName = .text name.toList

theorem entryName_ok {entry : Except String HoldoutEntry} {name : String}
    (named : entryName debug entry = .ok name) :
    (∃ e, entry = .ok e ∧ e.fileName = .text name.toList) ∧ (utf8 name).length < 2 ^ 64 := by
  simp only [entryName, bind_eq_ok, exists_unit, mapError_eq_ok, okOr_eq_ok] at named
  obtain ⟨e, listed, chars, isText, fitted, fits, _, -, -, ⟨⟩⟩ := named
  have value := fitText_value fits
  constructor
  next =>
    refine ⟨e, listed, ?_⟩
    rw [value, String.toList_ofList]
    cases file : e.fileName with
    | text other =>
      rw [file] at isText
      exact congrArg OsStr.text (Option.some.inj isText)
    | raw bytes =>
      rw [file] at isText
      cases isText
  next => exact fitted.fits

theorem names_ok {names : List String} (listed : dir.names debug = .ok names) :
    dir.isDir = true ∧ ∃ entries found, dir.readDir = .ok entries ∧
      entries.mapM (entryName debug) = .ok found ∧ found ≠ [] ∧
      names = OrderStatistics.sorted found := by
  simp only [HoldoutDir.names, bind_eq_ok, exists_unit, mapError_eq_ok, refuseIf_eq_ok] at listed
  obtain ⟨there, entries, read, found, each, some, ⟨⟩⟩ := listed
  exact ⟨by simpa using there, entries, found, read, each, some, rfl⟩

-- The names are the names of the entries, each of them a text of the program.
theorem mem_names {names : List String} (listed : dir.names debug = .ok names) (name : String) :
    (name ∈ names ↔ dir.Lists name) ∧ (name ∈ names → (utf8 name).length < 2 ^ 64) := by
  obtain ⟨-, entries, found, read, each, -, rfl⟩ := names_ok listed
  rw [(OrderStatistics.sorted_perm found).mem_iff]
  have related := mapM_eq_ok.mp each
  have source (member : name ∈ found) : ∃ entry ∈ entries, entryName debug entry = .ok name :=
    exists_of_mem_right related member
  constructor
  next =>
    constructor
    next =>
      intro member
      cases source member with
      | intro entry here =>
        cases (entryName_ok here.2).1 with
        | intro e same => exact ⟨entries, e, read, same.1 ▸ here.1, same.2⟩
    next =>
      intro lists
      obtain ⟨others, e, same, member, file⟩ := lists
      cases read.symm.trans same
      cases exists_of_mem_left related member with
      | intro other here =>
        cases (entryName_ok here.2).1 with
        | intro e' same =>
          cases same.1
          have chars := same.2.symm.trans file
          have text : other.toList = name.toList := OsStr.text.inj chars
          exact String.toList_inj.mp text ▸ here.1
  next =>
    intro member
    cases source member with
    | intro entry here => exact (entryName_ok here.2).2

end Listing

section Loading

variable {sha} {fromSlice} {dir}

def caseIds (suites : List HoldoutSuite) : List String :=
  (suites.flatMap HoldoutSuite.cases).map HoldoutCase.id

/-- After the files, the ids are those of the suites, no id stands twice, and the names and the digests of
the files were hashed. -/
structure Sound (sha : HexHash) (dir : HoldoutDir) (header : List Bytes) (files : List (String × Bytes)) (loaded : Loaded) :
    Prop where
  reads : ∀ f ∈ files, dir.read f.1 = .ok f.2
  ids : loaded.ids = caseIds loaded.suites
  nodup : loaded.ids.Nodup
  fields : loaded.fields = header ++ files.flatMap fun f => [utf8 f.1, sha.digest f.2]

end Loading

section Digest

variable {debug} {sha} {fromSlice} {dir}

def setText (sha : HexHash) (files : List (String × Bytes)) : Bytes :=
  (setHeader files.length ++ files.flatMap fun f => [utf8 f.1, sha.digest f.2]).flatMap putField

def Holds (debug : JudgeDebug) (dir : HoldoutDir) (files : List (String × Bytes)) : Prop :=
  dir.names debug = .ok (files.map Prod.fst) ∧ ∀ f ∈ files, dir.read f.1 = .ok f.2

def hashedTexts (debug : JudgeDebug) (sha : HexHash) (dir : HoldoutDir) : Set Bytes :=
  {text | ∃ files, dir.Holds debug files ∧ (text = setText sha files ∨ ∃ f ∈ files, text = f.2)}

theorem Holds.fits {files : List (String × Bytes)} (holds : dir.Holds debug files) :
    ∀ field ∈ setHeader files.length ++ files.flatMap (fun f => [utf8 f.1, sha.digest f.2]), field.length < 2 ^ 64 := by
  intro field member
  rw [List.mem_append, List.mem_flatMap] at member
  cases member with
  | inl header =>
    simp only [setHeader, List.mem_cons, List.not_mem_nil, or_false] at header
    cases header with
    | inl domain => rw [domain]; decide
    | inr count => rw [count, u64Le_length]; decide
  | inr file =>
    obtain ⟨f, inside, here⟩ := file
    simp only [List.mem_cons, List.not_mem_nil, or_false] at here
    cases here with
    | inl name => exact name ▸ (mem_names holds.1 f.1).2 (List.mem_map_of_mem inside)
    | inr content => rw [content, sha.length_digest]; decide

end Digest

end HoldoutDir

section Sample

end Sample

end SparkRsi.Actor
