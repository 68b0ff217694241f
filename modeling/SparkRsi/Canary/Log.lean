import SparkRsi.Canary.Records
import SparkRsi.Shared.Lines

set_option autoImplicit false

namespace SparkRsi.Canary

open Shared

/-- What the parser found: the seal with the offset of its line, and the offset
behind the last complete line. -/
structure Parsed where
  header : Option LogHeader
  observations : List CanaryObservationV2
  rejections : List LogRejection
  sealAt : Option (LogSeal × Nat)
  completeEnd : Nat
  partialTail : Bool
  deriving DecidableEq

def Parsed.empty : Parsed :=
  { header := none, observations := [], rejections := [], sealAt := none, completeEnd := 0, partialTail := false }

def seenOf (sha : HexHash) (observations : List CanaryObservationV2) : List (String × String) :=
  observations.map fun obs => (obs.observationId, obs.digestHex sha)

def checkBindings (header : LogHeader) (obs : CanaryObservationV2) : Except String Unit := do
  refuseIf (obs.generationId ≠ header.generationId)
    s!"observation {obs.observationId} belongs to generation {obs.generationId}, log is for {header.generationId}"
  refuseIf (obs.workloadDigest ≠ header.workloadDigest)
    s!"observation {obs.observationId} carries workload digest {obs.workloadDigest}, log is for {header.workloadDigest}"
  refuseIf (obs.candidateExecutableDigest ≠ header.candidateExecutableDigest)
    s!"observation {obs.observationId} carries executable digest {obs.candidateExecutableDigest}, log is for {header.candidateExecutableDigest}"

structure Bound (header : LogHeader) (obs : CanaryObservationV2) : Prop where
  generation : obs.generationId = header.generationId
  workload : obs.workloadDigest = header.workloadDigest
  executable : obs.candidateExecutableDigest = header.candidateExecutableDigest

theorem checkBindings_ok {header : LogHeader} {obs : CanaryObservationV2} :
    checkBindings header obs = .ok () ↔ Bound header obs := by
  simp only [checkBindings, then_eq_ok, refuseIf_eq_ok, Decidable.not_not]
  exact ⟨fun ⟨generation, workload, executable⟩ => ⟨generation, workload, executable⟩,
    fun bound => ⟨bound.generation, bound.workload, bound.executable⟩⟩

section Parser

variable (crates : LogCrates)

def admitObservation (parsed : Parsed) (record : LogObservation) : Except String Parsed := do
  let header ← okOr "observation log has no header" parsed.header
  let obs := record.observation
  obs.validate crates.sha
  let digest := obs.digestHex crates.sha
  refuseIf (record.observationDigest ≠ digest)
    s!"observation {obs.observationId} carries digest {record.observationDigest} but hashes to {digest}"
  checkBindings header obs
  match (seenOf crates.sha parsed.observations).lookup obs.observationId with
  | none => return { parsed with observations := parsed.observations ++ [obs] }
  | some previous =>
    refuseIf (previous ≠ digest) s!"observation id {obs.observationId} conflicts with a different record"
    return parsed

def admitRecord (lineNo : Nat) (parsed : Parsed) : LogRecord → Except String Parsed
  | .header header => do
    refuseIf (lineNo ≠ 1) s!"observation log line {lineNo} is a header; only line 1 may be"
    header.validate
    return { parsed with header := some header }
  | .observation record => admitObservation crates parsed record
  | .rejection record => do
    refuseIf (parsed.header = none) "observation log has no header"
    return { parsed with rejections := parsed.rejections ++ [record] }
  | .sealed record => do
    refuseIf (parsed.header = none) "observation log has no header"
    return { parsed with sealAt := some (record, parsed.completeEnd) }

def parseLine (lineNo : Nat) (parsed : Parsed) (line : Bytes) : Except String Parsed := do
  refuseIf (parsed.sealAt.isSome = true) s!"observation log line {lineNo} comes after the seal"
  let record ← (crates.fromSlice line).mapError fun e =>
    s!"observation log line {lineNo} does not parse: {e}"
  refuseIf (record.toLine ≠ line ++ [10]) s!"observation log line {lineNo} is not in canonical encoding"
  let admitted ← admitRecord crates lineNo parsed record
  return { admitted with completeEnd := parsed.completeEnd + (line.length + 1) }

def parseLines : Nat → Parsed → List Bytes → Except String Parsed
  | _, parsed, [] => .ok parsed
  | lineNo, parsed, line :: rest => do
    let parsed ← parseLine crates lineNo parsed line
    parseLines (lineNo + 1) parsed rest

def parseLog (bytes : Bytes) : Except String Parsed := do
  let lines := Lines.split 10 bytes
  let parsed ← parseLines crates 1 Parsed.empty lines.1
  refuseIf (parsed.header = none ∧ parsed.completeEnd > 0) "observation log has no header"
  return { parsed with partialTail := decide (lines.2 ≠ []) }

def storedRecords (path : String) (bytes : Bytes) : Except String (List LogRecord) :=
  (Lines.split 10 bytes).1.mapM fun line => (crates.fromSlice line).mapError fun e =>
    s!"observation log {crates.debug path} has an unreadable record: {e}"

def readRecord (lineNo : Nat) (parsed : Parsed) (record : LogRecord) : Except String Parsed := do
  refuseIf (parsed.sealAt.isSome = true) s!"observation log line {lineNo} comes after the seal"
  let admitted ← admitRecord crates lineNo parsed record
  return { admitted with completeEnd := parsed.completeEnd + record.toLine.length }

def readRecords : Nat → Parsed → List LogRecord → Except String Parsed
  | _, parsed, [] => .ok parsed
  | lineNo, parsed, record :: rest => do
    let parsed ← readRecord crates lineNo parsed record
    readRecords (lineNo + 1) parsed rest

end Parser

def bytesOf (records : List LogRecord) : Bytes := records.flatMap LogRecord.toLine

theorem bytesOf_eq_join (records : List LogRecord) :
    bytesOf records = Lines.join 10 (records.map LogRecord.line) := by
  simp only [bytesOf, Lines.join, List.flatMap_map]
  rfl

theorem split_bytesOf (records : List LogRecord) (rest : Bytes) :
    Lines.split 10 (bytesOf records ++ rest) =
      (records.map LogRecord.line ++ (Lines.split 10 rest).1, (Lines.split 10 rest).2) := by
  rw [bytesOf_eq_join, Lines.split_join 10 _ _ (by simp [LogRecord.newline_notMem_line])]

theorem split_bytesOf_tail (records : List LogRecord) (tail : Bytes) (inside : 10 ∉ tail) :
    Lines.split 10 (bytesOf records ++ tail) = (records.map LogRecord.line, tail) := by
  simp [split_bytesOf, Lines.split_of_no_sep 10 tail inside]

section Reading

variable {crates : LogCrates}

theorem parseLine_line (lineNo : Nat) (parsed : Parsed) (record : LogRecord) :
    parseLine crates lineNo parsed record.line = readRecord crates lineNo parsed record := by
  simp [parseLine, readRecord, Except.mapError, LogRecord.toLine, refuseIf, bind, Except.bind]

theorem parseLines_lines (lineNo : Nat) (parsed : Parsed) (records : List LogRecord) :
    parseLines crates lineNo parsed (records.map LogRecord.line) =
      readRecords crates lineNo parsed records := by
  induction records generalizing lineNo parsed with
  | nil => rfl
  | cons record rest ih => simp only [List.map_cons, parseLines, readRecords, parseLine_line, ih]

-- Only canonical lines of records are ever read.
theorem parseLine_ok {lineNo : Nat} {parsed after : Parsed} {line : Bytes}
    (read : parseLine crates lineNo parsed line = .ok after) : ∃ record : LogRecord, line = record.line := by
  simp only [parseLine, bind_eq_ok, exists_unit, refuseIf_eq_ok, Decidable.not_not] at read
  obtain ⟨-, record, -, canonical, -⟩ := read
  exact ⟨record, (List.append_cancel_right canonical).symm⟩

theorem parseLines_ok {lineNo : Nat} {parsed after : Parsed} {lines : List Bytes}
    (read : parseLines crates lineNo parsed lines = .ok after) :
    ∃ records : List LogRecord, lines = records.map LogRecord.line := by
  induction lines generalizing lineNo parsed with
  | nil => exact ⟨[], rfl⟩
  | cons line rest ih =>
    simp only [parseLines, bind_eq_ok] at read
    obtain ⟨_, first, later⟩ := read
    obtain ⟨record, rfl⟩ := parseLine_ok first
    obtain ⟨records, rfl⟩ := ih later
    exact ⟨record :: records, rfl⟩

theorem readRecords_append (lineNo : Nat) (parsed : Parsed) (first second : List LogRecord) :
    readRecords crates lineNo parsed (first ++ second) =
      (readRecords crates lineNo parsed first >>= fun middle =>
        readRecords crates (lineNo + first.length) middle second) := by
  induction first generalizing lineNo parsed with
  | nil => rfl
  | cons record rest ih =>
    simp only [List.cons_append, readRecords, List.length_cons]
    cases readRecord crates lineNo parsed record with
    | error e => rfl
    | ok middle =>
      change readRecords crates (lineNo + 1) middle (rest ++ second) = _
      rw [ih, Nat.add_assoc, Nat.add_comm 1]
      rfl

-- The parser on terminated records and what follows the last of them.
theorem parseLog_bytesOf (records : List LogRecord) (tail : Bytes) (inside : 10 ∉ tail) (parsed : Parsed) :
    parseLog crates (bytesOf records ++ tail) = .ok parsed ↔
      ∃ read, readRecords crates 1 Parsed.empty records = .ok read ∧
        ¬(read.header = none ∧ read.completeEnd > 0) ∧
        parsed = { read with partialTail := decide (tail ≠ []) } := by
  simp only [parseLog, split_bytesOf_tail records tail inside, parseLines_lines, bind_eq_ok, exists_unit,
    refuseIf_eq_ok]
  refine exists_congr fun read => and_congr_right fun _ => and_congr_right fun _ => ?_
  exact ⟨fun same => (Except.ok.inj same).symm, fun same => congrArg Except.ok same.symm⟩

-- Whatever parses is a list of canonical records and a tail.
theorem parseLog_ok {bytes : Bytes} {parsed : Parsed} (read : parseLog crates bytes = .ok parsed) :
    ∃ records tail, bytes = bytesOf records ++ tail ∧ 10 ∉ tail := by
  simp only [parseLog, bind_eq_ok] at read
  obtain ⟨_, lines, _⟩ := read
  obtain ⟨records, canonical⟩ := parseLines_ok lines
  refine ⟨records, (Lines.split 10 bytes).2, ?_, (Lines.sep_notMem_split 10 bytes).2⟩
  have whole := Lines.join_split 10 bytes
  rw [canonical] at whole
  conv_lhs => rw [← whole]
  rw [bytesOf_eq_join]

-- A part of a line spoils the line behind it.
theorem parseLog_spoiled {records : List LogRecord} {part rest : Bytes} {parsed : Parsed}
    (nonempty : part ≠ []) (inside : 10 ∉ part)
    (behind : rest = [] ∨ ∃ record : LogRecord, ∃ more, rest = record.toLine ++ more)
    (read : parseLog crates (bytesOf records ++ part ++ rest) = .ok parsed) : parsed.partialTail = true := by
  rcases behind with rfl | ⟨record, more, rfl⟩
  · rw [List.append_nil] at read
    obtain ⟨_, -, -, rfl⟩ := (parseLog_bytesOf records part inside parsed).mp read
    simpa using nonempty
  · simp only [parseLog, bind_eq_ok] at read
    obtain ⟨_, lines, -⟩ := read
    obtain ⟨others, canonical⟩ := parseLines_ok lines
    have clean : 10 ∉ part ++ record.line := by simp [inside, LogRecord.newline_notMem_line]
    have glued : part ++ record.line ∈ (Lines.split 10 (bytesOf records ++ part ++ (record.toLine ++ more))).1 := by
      have layout : bytesOf records ++ part ++ (record.toLine ++ more) =
          bytesOf records ++ ((part ++ record.line) ++ 10 :: more) := by
        simp [LogRecord.toLine]
      rw [layout, split_bytesOf, Lines.split_line 10 _ _ clean]
      simp
    rw [canonical] at glued
    obtain ⟨other, -, same⟩ := List.mem_map.mp glued
    exact absurd same (other.line_ne_behind record nonempty)

theorem storedRecords_bytesOf (path : String) (records : List LogRecord) (tail : Bytes) (inside : 10 ∉ tail) :
    storedRecords crates path (bytesOf records ++ tail) = .ok records := by
  rw [storedRecords, split_bytesOf_tail records tail inside, mapM_eq_ok]
  induction records with
  | nil => exact .nil
  | cons record rest ih => exact .cons (by simp [Except.mapError]) ih

-- Terminated records and what follows the last of them are told apart.
theorem bytesOf_inj {first second : List LogRecord} {tail : Bytes} (inside : 10 ∉ tail)
    (same : bytesOf first ++ tail = bytesOf second) : first = second := by
  have whole : storedRecords standardLogCrates "" (bytesOf first ++ tail) = .ok first :=
    storedRecords_bytesOf "" first tail inside
  have read : storedRecords standardLogCrates "" (bytesOf second ++ []) = .ok second :=
    storedRecords_bytesOf "" second [] (by simp)
  rw [same, ← List.append_nil (bytesOf second), read] at whole
  exact (Except.ok.inj whole).symm

theorem bytesOf_injective {first second : List LogRecord} (same : bytesOf first = bytesOf second) :
    first = second := by
  apply bytesOf_inj (List.not_mem_nil)
  rw [List.append_nil, same]

end Reading

def LogRecord.observation? : LogRecord → Option CanaryObservationV2
  | .observation record => some record.observation
  | _ => none

def observationsIn (records : List LogRecord) : List CanaryObservationV2 :=
  records.filterMap LogRecord.observation?

@[simp] theorem observationsIn_append (first second : List LogRecord) :
    observationsIn (first ++ second) = observationsIn first ++ observationsIn second := by
  simp [observationsIn]

theorem lookup_seenOf_none {sha : HexHash} {observations : List CanaryObservationV2} {id : String} :
    (seenOf sha observations).lookup id = none ↔ ∀ obs ∈ observations, obs.observationId ≠ id := by
  induction observations with
  | nil => simp [seenOf]
  | cons obs rest ih =>
    simp only [seenOf, List.map_cons, List.lookup_cons, List.forall_mem_cons] at ih ⊢
    by_cases here : id = obs.observationId
    · simp [here]
    · have apart : (id == obs.observationId) = false := by simp [here]
      simp only [apart, ih]
      exact ⟨fun rest => ⟨Ne.symm here, rest⟩, fun both => both.2⟩

theorem lookup_seenOf_some {sha : HexHash} {observations : List CanaryObservationV2} {id digest : String}
    (found : (seenOf sha observations).lookup id = some digest) :
    ∃ obs ∈ observations, obs.observationId = id ∧ obs.digestHex sha = digest := by
  induction observations with
  | nil => simp [seenOf] at found
  | cons obs rest ih =>
    simp only [seenOf, List.map_cons, List.lookup_cons] at ih found
    by_cases here : id = obs.observationId
    · simp only [here, beq_self_eq_true, Option.some.injEq] at found
      exact ⟨obs, by simp, here.symm, found⟩
    · have apart : (id == obs.observationId) = false := by simp [here]
      simp only [apart] at found
      obtain ⟨other, member, same⟩ := ih found
      exact ⟨other, List.mem_cons_of_mem _ member, same⟩

section Content

variable (crates : LogCrates)

inductive Reads (parsed : Parsed) : LogRecord → Parsed → Prop where
  | rejection (record : LogRejection) :
      Reads parsed (.rejection record) { parsed with rejections := parsed.rejections ++ [record] }
  | observation (obs : CanaryObservationV2) (header : LogHeader) (opened : parsed.header = some header)
      (valid : obs.Valid crates.sha) (bound : Bound header obs)
      (fresh : ∀ other ∈ parsed.observations, other.observationId ≠ obs.observationId) :
      Reads parsed (.observation ⟨obs, obs.digestHex crates.sha⟩)
        { parsed with observations := parsed.observations ++ [obs] }
  | repeated (obs other : CanaryObservationV2) (member : other ∈ parsed.observations)
      (id : other.observationId = obs.observationId)
      (digest : other.digestHex crates.sha = obs.digestHex crates.sha) :
      Reads parsed (.observation ⟨obs, obs.digestHex crates.sha⟩) parsed
  | sealed (record : LogSeal) :
      Reads parsed (.sealed record) { parsed with sealAt := some (record, parsed.completeEnd) }

variable {crates}

theorem admitRecord_opened {lineNo : Nat} {parsed after : Parsed} {record : LogRecord}
    (later : lineNo ≠ 1) (read : admitRecord crates lineNo parsed record = .ok after) :
    Reads crates parsed record after := by
  cases record with
  | header header =>
    simp only [admitRecord, bind_eq_ok, exists_unit, refuseIf_eq_ok] at read
    exact absurd later read.1
  | rejection record =>
    simp only [admitRecord, bind_eq_ok, exists_unit, refuseIf_eq_ok] at read
    obtain ⟨-, ⟨⟩⟩ := read
    exact .rejection record
  | sealed record =>
    simp only [admitRecord, bind_eq_ok, exists_unit, refuseIf_eq_ok] at read
    obtain ⟨-, ⟨⟩⟩ := read
    exact .sealed record
  | observation record =>
    obtain ⟨obs, stored⟩ := record
    simp only [admitRecord, admitObservation, bind_eq_ok, exists_unit, refuseIf_eq_ok, okOr_eq_ok,
      CanaryObservationV2.validate_ok, checkBindings_ok, Decidable.not_not] at read
    obtain ⟨header, opened, valid, rfl, bound, admitted⟩ := read
    split at admitted
    next unseen =>
      cases admitted
      exact .observation obs header opened valid bound (lookup_seenOf_none.mp unseen)
    next previous seen =>
      simp only [bind_eq_ok, exists_unit, refuseIf_eq_ok, Decidable.not_not] at admitted
      obtain ⟨rfl, ⟨⟩⟩ := admitted
      obtain ⟨other, member, id, digest⟩ := lookup_seenOf_some seen
      exact .repeated obs other member id digest

theorem readRecord_ok {lineNo : Nat} {parsed after : Parsed} {record : LogRecord} :
    readRecord crates lineNo parsed record = .ok after ↔ parsed.sealAt = none ∧
      ∃ admitted, admitRecord crates lineNo parsed record = .ok admitted ∧
        after = { admitted with completeEnd := parsed.completeEnd + record.toLine.length } := by
  simp only [readRecord, bind_eq_ok, exists_unit, refuseIf_eq_ok, Bool.not_eq_true,
    Option.isSome_eq_false_iff, Option.isNone_iff_eq_none]
  refine and_congr_right fun _ => exists_congr fun admitted => and_congr_right fun _ => ?_
  exact ⟨fun same => (Except.ok.inj same).symm, fun same => congrArg Except.ok same.symm⟩

-- What holds behind the header and survives every further record holds of the whole log.
theorem readRecords_invariant (Inv : List LogRecord → Parsed → Prop)
    (preserved : ∀ before parsed record after, Inv before parsed → parsed.sealAt = none →
      Reads crates parsed record after →
      Inv (before ++ [record]) { after with completeEnd := parsed.completeEnd + record.toLine.length })
    {before body : List LogRecord} {lineNo : Nat} {parsed read : Parsed} (later : 1 < lineNo)
    (start : Inv before parsed) (run : readRecords crates lineNo parsed body = .ok read) :
    Inv (before ++ body) read := by
  induction body generalizing before lineNo parsed with
  | nil =>
    cases run
    simpa using start
  | cons record rest ih =>
    simp only [readRecords, bind_eq_ok] at run
    obtain ⟨middle, first, tail⟩ := run
    obtain ⟨unsealed, admitted, one, rfl⟩ := readRecord_ok.mp first
    have reads := admitRecord_opened (by omega) one
    simpa using ih (by omega) (preserved before parsed record admitted start unsealed reads) tail

-- Only a header can open a log.
theorem readRecords_header {records : List LogRecord} {read : Parsed}
    (run : readRecords crates 1 Parsed.empty records = .ok read) :
    records = [] ∧ read = Parsed.empty ∨ ∃ header body, records = .header header :: body ∧
      header.validate = .ok () ∧
      readRecords crates 2 { Parsed.empty with
        header := some header, completeEnd := (LogRecord.header header).toLine.length } body = .ok read := by
  cases records with
  | nil => exact .inl ⟨rfl, (Except.ok.inj run).symm⟩
  | cons record body =>
    simp only [readRecords, bind_eq_ok] at run
    obtain ⟨middle, first, tail⟩ := run
    obtain ⟨-, admitted, one, rfl⟩ := readRecord_ok.mp first
    cases record with
    | header header =>
      simp only [admitRecord, bind_eq_ok, exists_unit, refuseIf_eq_ok] at one
      obtain ⟨-, valid, ⟨⟩⟩ := one
      refine .inr ⟨header, body, rfl, valid, ?_⟩
      simpa [Parsed.empty] using tail
    | observation record => simp [admitRecord, admitObservation, Parsed.empty, bind_eq_ok] at one
    | rejection record => simp [admitRecord, Parsed.empty, refuseIf] at one
    | sealed record => simp [admitRecord, Parsed.empty, refuseIf] at one

variable (crates) in
def Holds (header : LogHeader) (records : List LogRecord) (observations : List CanaryObservationV2)
    (rejections : List LogRejection) : Prop :=
  readRecords crates 1 Parsed.empty records = .ok
    { header := some header, observations, rejections, sealAt := none
      completeEnd := (bytesOf records).length, partialTail := false }

section Holding

variable {header : LogHeader} {records : List LogRecord} {observations : List CanaryObservationV2}
  {rejections : List LogRejection}

theorem holds_header (valid : header.validate = .ok ()) : Holds crates header [.header header] [] [] := by
  simp [Holds, readRecords, readRecord, admitRecord, refuseIf, valid, Parsed.empty, bytesOf, bind,
    Except.bind, pure, Except.pure]

-- The parser behind one more record.
theorem Holds.readRecords_snoc (held : Holds crates header records observations rejections)
    (record : LogRecord) (admitted : Parsed)
    (one : admitRecord crates (1 + records.length)
      { header := some header, observations, rejections, sealAt := none
        completeEnd := (bytesOf records).length, partialTail := false } record = .ok admitted) :
    readRecords crates 1 Parsed.empty (records ++ [record]) =
      .ok { admitted with completeEnd := (bytesOf (records ++ [record])).length } := by
  have here := readRecord_ok.mpr ⟨rfl, admitted, one, rfl⟩
  rw [readRecords_append, show readRecords crates 1 Parsed.empty records = _ from held]
  change readRecords crates _ _ [record] = _
  simp only [readRecords, here, bind, Except.bind]
  simp [bytesOf]

theorem Holds.rejection (held : Holds crates header records observations rejections) (record : LogRejection) :
    Holds crates header (records ++ [.rejection record]) observations (rejections ++ [record]) :=
  held.readRecords_snoc (.rejection record)
    { header := some header, observations, rejections := rejections ++ [record], sealAt := none
      completeEnd := (bytesOf records).length, partialTail := false } rfl

theorem Holds.nonempty (held : Holds crates header records observations rejections) : records ≠ [] := by
  rintro rfl
  cases held

theorem Holds.observation (held : Holds crates header records observations rejections)
    {obs : CanaryObservationV2} (valid : obs.Valid crates.sha) (bound : Bound header obs)
    (fresh : ∀ other ∈ observations, other.observationId ≠ obs.observationId) :
    Holds crates header (records ++ [.observation ⟨obs, obs.digestHex crates.sha⟩]) (observations ++ [obs])
      rejections := by
  refine held.readRecords_snoc (.observation ⟨obs, obs.digestHex crates.sha⟩)
    { header := some header, observations := observations ++ [obs], rejections, sealAt := none
      completeEnd := (bytesOf records).length, partialTail := false } ?_
  have checked : obs.validate crates.sha = .ok () := CanaryObservationV2.validate_ok.mpr valid
  have within : checkBindings header obs = .ok () := checkBindings_ok.mpr bound
  have unseen : (seenOf crates.sha _).lookup _ = none := lookup_seenOf_none.mpr fresh
  simp [admitRecord, admitObservation, okOr, refuseIf, checked, within, unseen, bind, Except.bind, pure,
    Except.pure]

theorem Holds.sealed (held : Holds crates header records observations rejections) (record : LogSeal) :
    readRecords crates 1 Parsed.empty (records ++ [.sealed record]) = .ok
      { header := some header, observations, rejections, sealAt := some (record, (bytesOf records).length)
        completeEnd := (bytesOf (records ++ [.sealed record])).length, partialTail := false } :=
  held.readRecords_snoc (.sealed record)
    { header := some header, observations, rejections, sealAt := some (record, (bytesOf records).length)
      completeEnd := (bytesOf records).length, partialTail := false } rfl

theorem Holds.parseLog (held : Holds crates header records observations rejections) :
    Canary.parseLog crates (bytesOf records) = .ok
      { header := some header, observations, rejections, sealAt := none
        completeEnd := (bytesOf records).length, partialTail := false } := by
  have parsed : Canary.parseLog crates _ = _ := (parseLog_bytesOf records [] (by simp) _).mpr
    ⟨_, held, by simp, rfl⟩
  simpa using parsed

theorem Holds.parseLog_sealed (held : Holds crates header records observations rejections)
    (record : LogSeal) :
    Canary.parseLog crates (bytesOf (records ++ [.sealed record])) = .ok
      { header := some header, observations, rejections, sealAt := some (record, (bytesOf records).length)
        completeEnd := (bytesOf (records ++ [.sealed record])).length, partialTail := false } := by
  have parsed : Canary.parseLog crates _ = _ :=
    (parseLog_bytesOf (records ++ [.sealed record]) [] (by simp) _).mpr
    ⟨_, held.sealed record, by simp, rfl⟩
  simpa using parsed

variable (crates header) in
structure Sound (records : List LogRecord) (parsed : Parsed) : Prop where
  opened : parsed.header = some header
  complete : parsed.partialTail = false ∧ parsed.completeEnd = (bytesOf records).length
  valid : ∀ obs ∈ parsed.observations, obs.Valid crates.sha
  bound : ∀ obs ∈ parsed.observations, Bound header obs
  stored : ∀ obs ∈ parsed.observations, obs ∈ observationsIn records
  apart : (parsed.observations.map CanaryObservationV2.observationId).Nodup
  covered : ∀ obs ∈ observationsIn records, ∃ other ∈ parsed.observations,
    other.observationId = obs.observationId ∧ other.digestHex crates.sha = obs.digestHex crates.sha

theorem Sound.reads {parsed after : Parsed} {record : LogRecord} (sound : Sound crates header records parsed)
    (reads : Reads crates parsed record after) :
    Sound crates header (records ++ [record])
      { after with completeEnd := parsed.completeEnd + record.toLine.length } := by
  have length : parsed.completeEnd + record.toLine.length = (bytesOf (records ++ [record])).length := by
    simp [bytesOf, sound.complete.2]
  cases reads with
  | rejection record =>
    exact ⟨sound.opened, ⟨sound.complete.1, length⟩, sound.valid, sound.bound,
      by simpa [observationsIn, LogRecord.observation?] using sound.stored, sound.apart,
      by simpa [observationsIn, LogRecord.observation?] using sound.covered⟩
  | sealed record =>
    exact ⟨sound.opened, ⟨sound.complete.1, length⟩, sound.valid, sound.bound,
      by simpa [observationsIn, LogRecord.observation?] using sound.stored, sound.apart,
      by simpa [observationsIn, LogRecord.observation?] using sound.covered⟩
  | observation obs _ opened valid bound fresh =>
    rw [sound.opened] at opened
    cases opened
    refine ⟨sound.opened, ⟨sound.complete.1, length⟩, ?_, ?_, ?_, ?_, ?_⟩
    · simpa [or_imp, forall_and] using ⟨sound.valid, valid⟩
    · simpa [or_imp, forall_and] using ⟨sound.bound, bound⟩
    · intro other member
      rcases List.mem_append.mp member with old | new
      · simp [sound.stored other old]
      · simp [List.mem_singleton.mp new, observationsIn, LogRecord.observation?]
    · rw [List.map_append]
      refine List.Nodup.append sound.apart (List.nodup_singleton _) ?_
      simpa [List.disjoint_singleton] using fun other member => fresh other member
    · intro other member
      rw [observationsIn_append, List.mem_append] at member
      rcases member with old | new
      · obtain ⟨same, found, agree⟩ := sound.covered other old
        exact ⟨same, List.mem_append_left _ found, agree⟩
      · have same : other = obs := by simpa [observationsIn, LogRecord.observation?] using new
        exact ⟨obs, by simp, by rw [same]; exact ⟨rfl, rfl⟩⟩
  | repeated obs kept member id digest =>
    refine ⟨sound.opened, ⟨sound.complete.1, length⟩, sound.valid, sound.bound, ?_, sound.apart, ?_⟩
    · exact fun other old => by simp [sound.stored other old]
    · intro other found
      rw [observationsIn_append, List.mem_append] at found
      rcases found with old | new
      · exact sound.covered other old
      · have same : other = obs := by simpa [observationsIn, LogRecord.observation?] using new
        exact ⟨kept, member, by rw [same]; exact ⟨id, digest⟩⟩

theorem sound_of_readRecords {parsed : Parsed} (run : readRecords crates 1 Parsed.empty records = .ok parsed)
    (opened : parsed.header = some header) : Sound crates header records parsed := by
  rcases readRecords_header run with ⟨rfl, rfl⟩ | ⟨first, body, rfl, -, behind⟩
  · cases opened
  · have start : Sound crates first [.header first] { Parsed.empty with
        header := some first, completeEnd := (LogRecord.header first).toLine.length } := by
      refine ⟨rfl, ⟨rfl, by simp [bytesOf]⟩, ?_, ?_, ?_, ?_, ?_⟩ <;>
        simp [Parsed.empty, observationsIn, LogRecord.observation?]
    have sound := readRecords_invariant (Sound crates first)
      (fun _ _ _ _ sound _ reads => sound.reads reads) (by decide) start behind
    have same : first = header := Option.some.inj (sound.opened.symm.trans opened)
    rw [← same]
    exact sound

theorem Holds.sound (held : Holds crates header records observations rejections) :
    Sound crates header records { header := some header, observations, rejections, sealAt := none
                                  completeEnd := (bytesOf records).length, partialTail := false } :=
  sound_of_readRecords held rfl

-- An unsealed log with a header that parses: terminated records and an unterminated tail.
theorem holds_of_parseLog {bytes : Bytes} {parsed : Parsed} (read : Canary.parseLog crates bytes = .ok parsed)
    (opened : parsed.header = some header) (unsealed : parsed.sealAt = none) :
    ∃ records tail, bytes = bytesOf records ++ tail ∧ 10 ∉ tail ∧
      Holds crates header records parsed.observations parsed.rejections ∧
      parsed.completeEnd = (bytesOf records).length ∧ parsed.partialTail = decide (tail ≠ []) := by
  obtain ⟨records, tail, rfl, inside⟩ := parseLog_ok read
  obtain ⟨inner, run, -, rfl⟩ := (parseLog_bytesOf records tail inside parsed).mp read
  have sound := sound_of_readRecords run opened
  refine ⟨records, tail, rfl, inside, ?_, sound.complete.2, rfl⟩
  rw [Holds, run]
  obtain ⟨_, observations, rejections, _, _, _⟩ := inner
  obtain ⟨rfl, rfl⟩ := sound.complete
  cases opened
  cases unsealed
  rfl

end Holding

end Content

end SparkRsi.Canary
