import SparkRsi.Measure.SampleText
import SparkRsi.Shared.TextLines

set_option autoImplicit false

namespace SparkRsi.Measure

open Shared

inductive Stop where
  | createDir
  | open_
  | read
  | truncate
  | write (stored : Nat)
  | sync
  deriving DecidableEq

structure Append where
  record : CycleSampleRecord
  stop : Option (Stop × String)

structure Appended where
  result : Except String Unit
  file : Option Bytes
  written : Bytes

inductive ReadError where
  | notFound
  | other (e : String)

def completeLen (bytes : Bytes) : Nat := (bytes.rdropWhile fun b => b ≠ 10).length

def contents (file : Option Bytes) : Bytes := file.getD []

structure SampleLog where
  dir : String

section Source

variable (crates : SampleCrates) (path : String)

def failure (stop : Option (Stop × String)) (place : Stop) : Option String :=
  match stop with
  | some (other, e) => if other = place then some e else none
  | none => none

def dropTornTail (stop : Option (Stop × String)) (bytes : Bytes) : Except String Bytes :=
  match failure stop .read with
  | some e => .error s!"read {crates.debug path}: {e}"
  | none =>
    if bytes = [] ∨ bytes.getLast? = some 10 then .ok bytes
    else
      match failure stop .truncate with
      | some e => .error s!"truncate torn tail of {crates.debug path}: {e}"
      | none => .ok (bytes.take (completeLen bytes))

-- A write that stops has put the first bytes of the line behind the kept ones; a crash leaves the same file.
def writeLine (stop : Option (Stop × String)) (kept line : Bytes) : Appended :=
  match stop with
  | some (.write stored, e) =>
    { result := .error s!"write {crates.debug path}: {e}", file := some (kept ++ line.take stored),
      written := line.take stored }
  | some (.sync, e) =>
    { result := .error s!"sync {crates.debug path}: {e}", file := some (kept ++ line), written := line }
  | _ => { result := .ok (), file := some (kept ++ line), written := line }

def SampleLog.append (log : SampleLog) (file : Option Bytes) (call : Append) : Appended :=
  if call.record.schemaVersion ≠ SCHEMA_VERSION then
    { result := .error s!"refusing to write schema_version {call.record.schemaVersion} (current is {SCHEMA_VERSION})"
      file, written := [] }
  else
    match failure call.stop .createDir, failure call.stop .open_ with
    | some e, _ => { result := .error s!"create {crates.debug log.dir}: {e}", file, written := [] }
    | none, some e => { result := .error s!"open {crates.debug path}: {e}", file, written := [] }
    | none, none =>
      match dropTornTail crates path call.stop (contents file) with
      -- The file was created when it was opened.
      | .error e => { result := .error e, file := some (contents file), written := [] }
      | .ok kept => writeLine crates path call.stop kept call.record.line

def readRecord (i : Nat) (line : List Char) : Except String CycleSampleRecord := do
  let record ← (crates.fromStr (String.ofList line)).mapError fun e => s!"{crates.debug path} line {i + 1}: {e}"
  refuseIf (record.schemaVersion ≠ SCHEMA_VERSION)
    s!"{crates.debug path} line {i + 1}: unsupported schema_version {record.schemaVersion}"
  return record

def readRecords (found : Except ReadError Bytes) : Except String (List CycleSampleRecord) :=
  match found with
  | .error .notFound => .ok []
  | .error (.other e) => .error s!"read {crates.debug path}: {e}"
  | .ok bytes => do
    let complete := bytes.take (completeLen bytes)
    let text ← okOr s!"{crates.debug path} is not valid UTF-8: {crates.utf8Error complete}" (fromUtf8 complete)
    (TextLines.lines text.toList).zipIdx.mapM fun entry => readRecord crates path entry.2 entry.1

def found (file : Option Bytes) : Except ReadError Bytes :=
  match file with
  | none => .error .notFound
  | some bytes => .ok bytes

/-- The file after a list of appends, and the records whose whole line was written. -/
def SampleLog.run (log : SampleLog) (file : Option Bytes) :
    List Append → Option Bytes × List CycleSampleRecord
  | [] => (file, [])
  | call :: rest =>
    let appended := log.append crates path file call
    let later := run log appended.file rest
    (later.1, (if appended.written = call.record.line then [call.record] else []) ++ later.2)

end Source

def linesOf (records : List CycleSampleRecord) : Bytes := records.flatMap CycleSampleRecord.line

section Tail

variable {records : List CycleSampleRecord} {tail : Bytes}

theorem linesOf_ended (records : List CycleSampleRecord) :
    linesOf records = [] ∨ ∃ front, linesOf records = front ++ [10] := by
  cases records using List.reverseRecOn with
  | nil => exact .inl rfl
  | append_singleton others record =>
    right
    exact ⟨linesOf others ++ utf8 record.text, by simp [linesOf, CycleSampleRecord.line]⟩

theorem rdropWhile_tail (inside : 10 ∉ tail) :
    (linesOf records ++ tail).rdropWhile (fun b => b ≠ 10) = linesOf records := by
  induction tail using List.reverseRecOn with
  | nil =>
    rw [List.append_nil]
    cases linesOf_ended records with
    | inl empty => rw [empty, List.rdropWhile_nil]
    | inr ended =>
      obtain ⟨front, ended⟩ := ended
      rw [ended, List.rdropWhile_concat_neg _ _ _ (by decide)]
  | append_singleton front b ih =>
    rw [List.mem_append, List.mem_singleton, not_or] at inside
    rw [← List.append_assoc, List.rdropWhile_concat, if_pos (decide_eq_true (Ne.symm inside.2)), ih inside.1]

-- The append and the read see the same torn tail.
theorem take_completeLen (inside : 10 ∉ tail) :
    (linesOf records ++ tail).take (completeLen (linesOf records ++ tail)) = linesOf records := by
  rw [completeLen, rdropWhile_tail inside, List.take_left]

theorem untorn_iff (inside : 10 ∉ tail) :
    (linesOf records ++ tail = [] ∨ (linesOf records ++ tail).getLast? = some 10) ↔ tail = [] := by
  cases tail using List.reverseRecOn with
  | nil =>
    rw [List.append_nil]
    refine iff_of_true ?_ rfl
    cases linesOf_ended records with
    | inl empty => exact .inl empty
    | inr ended =>
      obtain ⟨front, ended⟩ := ended
      exact .inr (by rw [ended, List.getLast?_concat])
  | append_singleton front b =>
    rw [List.mem_append, List.mem_singleton, not_or] at inside
    simp [← List.append_assoc, Ne.symm inside.2]

end Tail

section Recovery

variable (crates : SampleCrates) (path : String)

theorem dropTornTail_ok {stop : Option (Stop × String)} {records : List CycleSampleRecord} {tail kept : Bytes}
    (inside : 10 ∉ tail) (dropped : dropTornTail crates path stop (linesOf records ++ tail) = .ok kept) :
    kept = linesOf records := by
  unfold dropTornTail at dropped
  split at dropped
  next => cases dropped
  next =>
    by_cases untorn : tail = []
    next =>
      rw [if_pos ((untorn_iff inside).mpr untorn), untorn, List.append_nil] at dropped
      exact (Except.ok.inj dropped).symm
    next =>
      rw [if_neg (mt (untorn_iff inside).mp untorn)] at dropped
      split at dropped
      next => cases dropped
      next =>
        rw [take_completeLen inside] at dropped
        exact (Except.ok.inj dropped).symm

theorem writeLine_prefix (stop : Option (Stop × String)) (kept line : Bytes) :
    (writeLine crates path stop kept line).file =
      some (kept ++ (writeLine crates path stop kept line).written) ∧
      (writeLine crates path stop kept line).written <+: line ∧
      ((writeLine crates path stop kept line).result = .ok () → (writeLine crates path stop kept line).written = line) := by
  unfold writeLine
  split
  next stored e => exact ⟨rfl, List.take_prefix _ _, nofun⟩
  next => exact ⟨rfl, List.prefix_refl _, fun _ => rfl⟩
  next => exact ⟨rfl, List.prefix_refl _, fun _ => rfl⟩

variable (log : SampleLog) {file : Option Bytes} {records : List CycleSampleRecord} {tail : Bytes}

-- An append leaves the file as it was, or drops the torn tail and writes the first bytes of its line.
theorem append_cases (inside : 10 ∉ tail) (holds : contents file = linesOf records ++ tail) (call : Append) :
    ((log.append crates path file call).written = [] ∧ (log.append crates path file call).result ≠ .ok () ∧
        contents (log.append crates path file call).file = contents file) ∨
      (call.record.schemaVersion = SCHEMA_VERSION ∧
        (log.append crates path file call).written <+: call.record.line ∧
        ((log.append crates path file call).result = .ok () →
          (log.append crates path file call).written = call.record.line) ∧
        contents (log.append crates path file call).file =
          linesOf records ++ (log.append crates path file call).written) := by
  unfold SampleLog.append
  split
  next => exact .inl ⟨rfl, nofun, rfl⟩
  next current =>
    split
    next => exact .inl ⟨rfl, nofun, rfl⟩
    next => exact .inl ⟨rfl, nofun, rfl⟩
    next =>
      split
      next => exact .inl ⟨rfl, nofun, rfl⟩
      next kept dropped =>
        rw [holds] at dropped
        have whole := dropTornTail_ok crates path inside dropped
        have wrote := writeLine_prefix crates path call.stop kept call.record.line
        right
        constructor
        · exact Decidable.not_not.mp current
        · refine ⟨wrote.2.1, wrote.2.2, ?_⟩
          rw [wrote.1, whole]
          rfl

theorem append_unstopped (inside : 10 ∉ tail) (holds : contents file = linesOf records ++ tail)
    {record : CycleSampleRecord} (current : record.schemaVersion = SCHEMA_VERSION) :
    log.append crates path file { record, stop := none } =
      { result := .ok (), file := some (linesOf records ++ record.line), written := record.line } := by
  have dropped : dropTornTail crates path none (linesOf records ++ tail) = .ok (linesOf records) := by
    change (if linesOf records ++ tail = [] ∨ (linesOf records ++ tail).getLast? = some 10 then
      Except.ok (linesOf records ++ tail) else .ok ((linesOf records ++ tail).take _)) = _
    by_cases untorn : tail = []
    next => rw [if_pos ((untorn_iff inside).mpr untorn), untorn, List.append_nil]
    next => rw [if_neg (mt (untorn_iff inside).mp untorn), take_completeLen inside]
  simp only [SampleLog.append, current, ne_eq, not_true_eq_false, if_false, failure, holds, dropped,
    writeLine]

theorem newline_notMem_part {record : CycleSampleRecord} {part : Bytes} (start : part <+: record.line)
    (short : part ≠ record.line) : 10 ∉ part := by
  cases List.prefix_concat_iff.mp start with
  | inl whole => exact absurd whole short
  | inr inner => exact fun member => record.newline_notMem_utf8 (inner.subset member)

/-- The file holds the lines of the records and at most a torn one behind them. -/
structure Holds (file : Option Bytes) (records : List CycleSampleRecord) : Prop where
  layout : ∃ tail, 10 ∉ tail ∧ contents file = linesOf records ++ tail
  current : ∀ record ∈ records, record.schemaVersion = SCHEMA_VERSION

theorem append_holds (holds : Holds file records) (call : Append) :
    Holds (log.append crates path file call).file
      (records ++ if (log.append crates path file call).written = call.record.line then [call.record] else []) := by
  obtain ⟨tail, inside, layout⟩ := holds.layout
  cases append_cases crates path log inside layout call with
  | inl kept =>
    rw [kept.1, if_neg call.record.line_ne_nil.symm, List.append_nil]
    exact ⟨⟨tail, inside, kept.2.2.trans layout⟩, holds.current⟩
  | inr wrote =>
    obtain ⟨current, start, _, after⟩ := wrote
    by_cases whole : (log.append crates path file call).written = call.record.line
    next =>
      rw [if_pos whole]
      constructor
      · refine ⟨[], List.not_mem_nil, ?_⟩
        rw [after, whole, List.append_nil, linesOf, linesOf, List.flatMap_append, List.flatMap_singleton]
      · intro record member
        cases List.mem_append.mp member with
        | inl before => exact holds.current record before
        | inr last => rwa [List.mem_singleton.mp last]
    next =>
      rw [if_neg whole, List.append_nil]
      exact ⟨⟨_, newline_notMem_part start whole, after⟩, holds.current⟩

theorem run_holds (holds : Holds file records) (calls : List Append) :
    Holds (log.run crates path file calls).1 (records ++ (log.run crates path file calls).2) := by
  induction calls generalizing file records with
  | nil => simpa [SampleLog.run] using holds
  | cons call rest ih =>
    have later := ih (append_holds crates path log holds call)
    rwa [List.append_assoc] at later

theorem readRecord_text {record : CycleSampleRecord} (current : record.schemaVersion = SCHEMA_VERSION)
    (i : Nat) :
    readRecord crates path i record.text.toList = .ok record := by
  simp [readRecord, String.ofList_toList, crates.fromStr_text, Except.mapError, current, refuseIf]

theorem readRecord_lines {records : List CycleSampleRecord}
    (current : ∀ record ∈ records, record.schemaVersion = SCHEMA_VERSION) (start : Nat) :
    List.Forall₂ (fun entry record => readRecord crates path entry.2 entry.1 = .ok record)
      ((records.map fun record => record.text.toList).zipIdx start) records := by
  induction records generalizing start with
  | nil => exact .nil
  | cons record rest ih =>
    rw [List.forall_mem_cons] at current
    exact .cons (readRecord_text crates path current.1 start) (ih current.2 (start + 1))

theorem fromUtf8_linesOf (records : List CycleSampleRecord) :
    fromUtf8 (linesOf records) =
      some (String.ofList ((records.map fun record => record.text.toList).flatMap fun line => line ++ ['\n'])) := by
  rw [fromUtf8_eq_some, utf8_ofList, List.flatMap_assoc, List.flatMap_map]
  apply List.flatMap_congr
  intro record _
  rw [CycleSampleRecord.line, utf8_eq_flatMap, List.flatMap_append]
  rfl

theorem readFile_ok (holds : Holds file records) : readRecords crates path (found file) = .ok records := by
  obtain ⟨tail, inside, layout⟩ := holds.layout
  cases file with
  | none =>
    have empty : linesOf records = [] := (List.append_eq_nil_iff.mp layout.symm).1
    cases records with
    | nil => rfl
    | cons record rest => exact absurd (List.append_eq_nil_iff.mp empty).1 record.line_ne_nil
  | some bytes =>
    change bytes = _ at layout
    have cut : TextLines.lines ((records.map fun record => record.text.toList).flatMap fun line => line ++ ['\n']) = _ :=
      TextLines.lines_terminated (by simp [CycleSampleRecord.newline_notMem_text])
        (by simp [CycleSampleRecord.getLast?_text])
    simp only [found, readRecords, layout, take_completeLen inside, fromUtf8_linesOf, okOr, ok_bind,
      String.toList_ofList, cut]
    exact mapM_eq_ok.mpr (readRecord_lines crates path holds.current 0)

/-- After any appends, each stopped anywhere or not at all, a read returns the records whose whole line was
written, and the next append takes away nothing but a torn tail. -/
theorem sample_log_recovers (calls : List Append) :
    readRecords crates path (found (log.run crates path none calls).1) =
      .ok (log.run crates path none calls).2 ∧
    ∃ tail, 10 ∉ tail ∧ contents (log.run crates path none calls).1 =
      linesOf (log.run crates path none calls).2 ++ tail ∧
      ∀ next : Append,
        (next.record.schemaVersion = SCHEMA_VERSION → next.stop = none →
          log.append crates path (log.run crates path none calls).1 next =
            { result := .ok (), file := some (linesOf (log.run crates path none calls).2 ++ next.record.line),
              written := next.record.line }) ∧
        (contents (log.append crates path (log.run crates path none calls).1 next).file =
            linesOf (log.run crates path none calls).2 ++ tail ∨
          ∃ part, part <+: next.record.line ∧
            contents (log.append crates path (log.run crates path none calls).1 next).file =
              linesOf (log.run crates path none calls).2 ++ part) := by
  have empty : Holds none [] := ⟨⟨[], List.not_mem_nil, rfl⟩, fun _ member => absurd member List.not_mem_nil⟩
  have holds := run_holds crates path log empty calls
  rw [List.nil_append] at holds
  obtain ⟨tail, inside, layout⟩ := holds.layout
  constructor
  · exact readFile_ok crates path holds
  · refine ⟨tail, inside, layout, ?_⟩
    intro next
    constructor
    · intro current unstopped
      obtain ⟨record, stop⟩ := next
      subst unstopped
      exact append_unstopped crates path log inside layout current
    · cases append_cases crates path log inside layout next with
      | inl kept => exact .inl (kept.2.2.trans layout)
      | inr wrote => exact .inr ⟨_, wrote.2.1, wrote.2.2.2⟩

theorem sample_log_recovers_example : ∃ record : CycleSampleRecord, ∃ file tail,
    file = (SampleLog.run standardSampleCrates "samples" ⟨"measure"⟩ none
      [{ record, stop := none }, { record, stop := some (.write 9, "stopped") }]).1 ∧
    readRecords standardSampleCrates "samples" (found file) = .ok [record] ∧
    contents file = linesOf [record] ++ tail ∧ 10 ∉ tail ∧
    SampleLog.append standardSampleCrates "samples" ⟨"measure"⟩ file { record, stop := none } =
      { result := .ok (), file := some (linesOf [record] ++ record.line), written := record.line } := by
  let record : CycleSampleRecord :=
    { schemaVersion := 2, cycleId := "c1", workloadKey := "w", executionProfileFingerprint := "f"
      executionProfile :=
        { model := "m", cpuCount := some 8, memoryTotalKib := none, gpu := "none"
          executionConfig :=
            { modelUrl := "", holdoutsDir := "h", canaryTarget := 2, cortexUrl := "", cortexSpace := "", ratifyRoots := [] } }
      stages := [{ stage := .observe, durationUs := 7, outcome := .ok, canaryProtocolVersion := none }]
      sourceCommit := none, recordedAt := "t" }
  obtain ⟨read, tail, inside, layout, next⟩ := sample_log_recovers standardSampleCrates "samples" ⟨"measure"⟩
    [{ record, stop := none }, { record, stop := some (.write 9, "stopped") }]
  have stored : (SampleLog.run standardSampleCrates "samples" ⟨"measure"⟩ none
      [{ record, stop := none }, { record, stop := some (.write 9, "stopped") }]).2 = [record] := by decide +kernel
  rw [stored] at read layout next
  exact ⟨record, _, tail, rfl, read, layout, inside, (next { record, stop := none }).1 rfl rfl⟩

end Recovery

end SparkRsi.Measure
