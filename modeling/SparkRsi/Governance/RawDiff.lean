import SparkRsi.Governance.RealDiff
import SparkRsi.Shared.Bytes

set_option autoImplicit false

namespace SparkRsi.Governance

open Shared Evaluator

def nul : Char := Char.ofNat 0

def rawFields (raw : Bytes) : List Bytes := (raw.splitOn 0).filter (· ≠ [])

def stripColon (text : String) : Option String :=
  match text.toList with
  | ':' :: rest => some (String.ofList rest)
  | _ => none

section Parser

variable (debug : Debug)

def parseHeader (header : Bytes) : Except String (String × String × Char) := do
  let text ← okOr "non-UTF-8 diff header" (fromUtf8 header)
  let columns ← okOr s!"unexpected diff header {debug.text text}" (stripColon text)
  match columns.toList.splitOn ' ' with
  | [oldMode, newMode, _, _, status] =>
    let letter ← okOr "empty diff status" status.head?
    return (String.ofList oldMode, String.ofList newMode, letter)
  | _ => .error s!"unexpected diff header {debug.text columns}"

def parseFields : List Bytes → Except String (List ChangedEntry)
  | [] => .ok []
  | [header] => do
    let _ ← parseHeader debug header
    .error "diff entry without a path"
  | header :: path :: rest => do
    let (oldMode, newMode, status) ← parseHeader debug header
    let path ← okOr "non-UTF-8 path in diff" (fromUtf8 path)
    let entries ← parseFields rest
    return { oldMode, newMode, status, path } :: entries

def parseRawDiff (raw : Bytes) : Except String (List ChangedEntry) := parseFields debug (rawFields raw)

end Parser

structure RawChange where
  oldMode : String
  newMode : String
  oldObject : String
  newObject : String
  letter : Char
  -- How similar a rename is; empty for every other change.
  score : List Char
  path : String

namespace RawChange

def columns (change : RawChange) : List (List Char) :=
  [change.oldMode.toList, change.newMode.toList, change.oldObject.toList, change.newObject.toList,
    change.letter :: change.score]

def header (change : RawChange) : String := String.ofList (':' :: Parts.join ' ' change.columns)

def entry (change : RawChange) : ChangedEntry :=
  { oldMode := change.oldMode, newMode := change.newMode, status := change.letter, path := change.path }

def fields (change : RawChange) : List Bytes := [utf8 change.header, utf8 change.path]

def Columned (change : RawChange) : Prop := ∀ column ∈ change.columns, ' ' ∉ column

/-- Nothing in it ends a column or a field, and there is a path. -/
structure Printable (change : RawChange) : Prop where
  columned : change.Columned
  header : nul ∉ change.header.toList
  path : nul ∉ change.path.toList
  named : change.path ≠ ""

end RawChange

/-- What `git diff-tree -r -z --raw --no-renames` prints: one path for each change. -/
def printRaw (changes : List RawChange) : Bytes :=
  (changes.flatMap RawChange.fields).flatMap fun field => field ++ [0]

theorem nul_mem_utf8 (text : String) : 0 ∈ utf8 text ↔ nul ∈ text.toList := by
  constructor
  next => exact fun member => low_utf8 text 0 member (by decide)
  next =>
    intro member
    rw [utf8_eq_flatMap]
    exact List.mem_flatMap.mpr ⟨nul, member, by decide⟩

theorem splitOn_ended {fields : List Bytes} (clean : ∀ field ∈ fields, 0 ∉ field) :
    (fields.flatMap fun field => field ++ [0]).splitOn 0 = fields ++ [[]] := by
  induction fields with
  | nil => rfl
  | cons field rest ih =>
    rw [List.forall_mem_cons] at clean
    rw [List.flatMap_cons, List.append_assoc, List.singleton_append, Parts.splitOn_part_sep 0 clean.1, ih clean.2,
      List.cons_append]

theorem nonempty_of_ne {text : String} : utf8 text ≠ [] ↔ text ≠ "" := by
  have empty : utf8 "" = [] := by simp [utf8_eq_flatMap]
  rw [← empty]
  exact utf8_inj.not

namespace RawChange

variable {change : RawChange}

theorem header_ne (change : RawChange) : change.header ≠ "" := by
  intro empty
  have chars := congrArg String.toList empty
  rw [header, String.toList_ofList] at chars
  cases chars

-- Printed fields are read back one by one.
theorem printable_iff : change.Printable ↔
    change.Columned ∧ ∀ field ∈ change.fields, 0 ∉ field ∧ field ≠ [] := by
  have fields : (∀ field ∈ change.fields, 0 ∉ field ∧ field ≠ []) ↔
      nul ∉ change.header.toList ∧ nul ∉ change.path.toList ∧ change.path ≠ "" := by
    simp only [RawChange.fields, List.forall_mem_cons, nul_mem_utf8, nonempty_of_ne]
    simp [change.header_ne]
  rw [fields]
  constructor
  next => exact fun printable => ⟨printable.columned, printable.header, printable.path, printable.named⟩
  next => exact fun ⟨columned, header, path, named⟩ => ⟨columned, header, path, named⟩

end RawChange

theorem rawFields_printRaw {changes : List RawChange} (printable : ∀ change ∈ changes, change.Printable) :
    rawFields (printRaw changes) = changes.flatMap RawChange.fields := by
  have clean : ∀ field ∈ changes.flatMap RawChange.fields, 0 ∉ field ∧ field ≠ [] := by
    intro field member
    obtain ⟨change, listed, inside⟩ := List.mem_flatMap.mp member
    exact (RawChange.printable_iff.mp (printable change listed)).2 field inside
  rw [rawFields, printRaw, splitOn_ended fun field member => (clean field member).1, List.filter_append,
    List.filter_eq_self.mpr fun field member => by simpa using (clean field member).2]
  simp

theorem rawFields_clean {raw field : Bytes} (member : field ∈ rawFields raw) : 0 ∉ field ∧ field ≠ [] := by
  rw [rawFields, List.mem_filter] at member
  exact ⟨Parts.sep_notMem_of_mem_splitOn 0 member.1, by simpa using member.2⟩

section Reading

variable {debug : Debug}

theorem stripColon_eq_some {text columns : String} :
    stripColon text = some columns ↔ text = String.ofList (':' :: columns.toList) := by
  have spelled : text = String.ofList (':' :: columns.toList) ↔ text.toList = ':' :: columns.toList := by
    rw [← String.toList_inj, String.toList_ofList]
  rw [spelled, stripColon]
  split
  next rest begun => simp [begun, ← String.toList_inj]
  next other =>
    apply iff_of_false nofun
    exact other columns.toList

theorem parseHeader_ok {header : Bytes} {path : String} {result : String × String × Char} :
    parseHeader debug header = .ok result ↔
      ∃ change : RawChange, change.path = path ∧ change.Columned ∧ header = utf8 change.header ∧
        result = (change.oldMode, change.newMode, change.letter) := by
  simp only [parseHeader, bind_eq_ok, okOr_eq_ok, fromUtf8_eq_some, stripColon_eq_some]
  constructor
  next =>
    rintro ⟨_, rfl, columns, rfl, read⟩
    split at read
    next oldMode newMode oldObject newObject status split =>
      simp only [bind_eq_ok, okOr_eq_ok] at read
      obtain ⟨letter, first, ⟨⟩⟩ := read
      obtain ⟨score, rfl⟩ := List.head?_eq_some_iff.mp first
      refine ⟨{ oldMode := String.ofList oldMode, newMode := String.ofList newMode
                oldObject := String.ofList oldObject, newObject := String.ofList newObject, letter, score, path },
        rfl, ?_, ?_, rfl⟩
      next =>
        intro column member
        simp only [RawChange.columns, String.toList_ofList] at member
        rw [← split] at member
        exact Parts.sep_notMem_of_mem_splitOn ' ' member
      next =>
        simp only [RawChange.header, RawChange.columns, String.toList_ofList]
        rw [← split, Parts.join_splitOn]
    next => cases read
  next =>
    rintro ⟨change, rfl, columned, rfl, rfl⟩
    refine ⟨change.header, rfl, String.ofList (Parts.join ' ' change.columns), ?_, ?_⟩
    next => rw [String.toList_ofList, RawChange.header]
    next =>
      have split := Parts.splitOn_join ' ' columned (List.cons_ne_nil _ _)
      rw [String.toList_ofList, split]
      simp [RawChange.columns, okOr, pure, Except.pure]

theorem parseFields_ok {fields : List Bytes} {entries : List ChangedEntry} :
    parseFields debug fields = .ok entries ↔
      ∃ changes : List RawChange, (∀ change ∈ changes, change.Columned) ∧ changes.map RawChange.entry = entries ∧
        fields = changes.flatMap RawChange.fields := by
  induction fields using parseFields.induct generalizing entries with
  | case1 =>
    constructor
    next =>
      rintro ⟨⟩
      exact ⟨[], by simp⟩
    next =>
      rintro ⟨changes, -, rfl, none⟩
      cases changes with
      | nil => rfl
      | cons change others => cases none
  | case2 header =>
    apply iff_of_false
    next =>
      simp only [parseFields, bind_eq_ok]
      rintro ⟨_, -, ⟨⟩⟩
    next =>
      -- Every change has two fields.
      rintro ⟨changes, -, -, one⟩
      cases changes with
      | nil => cases one
      | cons change others => cases one
  | case3 header path rest ih =>
    simp only [parseFields, bind_eq_ok, okOr_eq_ok, fromUtf8_eq_some, ih]
    constructor
    next =>
      rintro ⟨result, read, path, rfl, _, ⟨changes, columned, rfl, rfl⟩, built⟩
      obtain ⟨change, rfl, spaced, rfl, rfl⟩ := (@parseHeader_ok _ _ path _).mp read
      cases built
      exact ⟨change :: changes, List.forall_mem_cons.mpr ⟨spaced, columned⟩, rfl, rfl⟩
    next =>
      rintro ⟨changes, columned, rfl, split⟩
      cases changes with
      | nil => cases split
      | cons change others =>
        cases split
        rw [List.forall_mem_cons] at columned
        exact ⟨_, parseHeader_ok.mpr ⟨change, rfl, columned.1, rfl, rfl⟩, change.path, rfl, _,
          ⟨others, columned.2, rfl, rfl⟩, rfl⟩

end Reading

/-- The reader accepts exactly the fields that git prints for some changes, and returns these changes. -/
theorem parseRawDiff_ok_iff (debug : Debug) (raw : Bytes) (entries : List ChangedEntry) :
    parseRawDiff debug raw = .ok entries ↔
      ∃ changes : List RawChange, (∀ change ∈ changes, change.Printable) ∧
        changes.map RawChange.entry = entries ∧ rawFields raw = rawFields (printRaw changes) := by
  rw [parseRawDiff, parseFields_ok]
  constructor
  next =>
    rintro ⟨changes, columned, read, split⟩
    have printable : ∀ change ∈ changes, change.Printable := by
      intro change listed
      refine RawChange.printable_iff.mpr ⟨columned change listed, fun field member => @rawFields_clean raw field ?_⟩
      rw [split]
      exact List.mem_flatMap.mpr ⟨change, listed, member⟩
    exact ⟨changes, printable, read, by rw [rawFields_printRaw printable, split]⟩
  next =>
    rintro ⟨changes, printable, read, split⟩
    refine ⟨changes, fun change listed => (printable change listed).columned, read, ?_⟩
    rw [split, rawFields_printRaw printable]

end SparkRsi.Governance
