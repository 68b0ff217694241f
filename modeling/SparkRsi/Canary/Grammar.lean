import Mathlib.Data.List.Dedup
import Mathlib.Data.List.Induction
import SparkRsi.Canary.Writer

set_option autoImplicit false

namespace SparkRsi.Canary

open Shared

def LogRecord.Inner (sha : HexHash) (header : LogHeader) : LogRecord → Prop
  | .observation record => record.observation.Valid sha ∧ Bound header record.observation ∧
      record.observationDigest = record.observation.digestHex sha
  | .rejection _ => True
  | .header _ => False
  | .sealed _ => False

structure SealedText (crates : LogCrates) (header : LogHeader) (body : List LogRecord) (sealedBy : LogSeal)
    (bytes : Bytes) : Prop where
  text : bytes = (LogRecord.header header).toLine ++ bytesOf body ++ (LogRecord.sealed sealedBy).toLine
  opened : header.validate = .ok ()
  inner : ∀ record ∈ body, record.Inner crates.sha header
  repeated : ∀ first ∈ observationsIn body, ∀ second ∈ observationsIn body,
    first.observationId = second.observationId → first = second
  digest : sealedBy.logDigest = logDigestOf crates ((LogRecord.header header).toLine ++ bytesOf body)
  observed : sealedBy.observationCount = UInt64.ofNat (observationsIn body).dedup.length
  qualified : sealedBy.qualifyingCount = qualifying (observationsIn body).dedup

def recordTextsIn (bytes : Bytes) : Set Bytes :=
  {text | ∃ records tail, bytes = bytesOf records ++ tail ∧ ∃ obs ∈ observationsIn records, text = obs.recordText}

def sealTextsIn (bytes : Bytes) : Set Bytes :=
  {text | ∃ records sealedBy, bytes = bytesOf (records ++ [.sealed sealedBy]) ∧
    text = domainBytes "spark-rsi/canary-observation-log/v1" [bytesOf records]}

section

variable {crates : LogCrates} {header : LogHeader} {records body : List LogRecord}
  {observations : List CanaryObservationV2} {rejections : List LogRejection}

theorem Holds.repeated (held : Holds crates header records observations rejections)
    {obs : CanaryObservationV2} (member : obs ∈ observations) :
    Holds crates header (records ++ [.observation ⟨obs, obs.digestHex crates.sha⟩]) observations rejections := by
  have sound := held.sound
  refine held.readRecords_snoc (.observation ⟨obs, obs.digestHex crates.sha⟩)
    { header := some header, observations, rejections, sealAt := none
      completeEnd := (bytesOf records).length, partialTail := false } ?_
  have checked : obs.validate crates.sha = .ok () :=
    CanaryObservationV2.validate_ok.mpr (sound.valid obs member)
  have within : checkBindings header obs = .ok () := checkBindings_ok.mpr (sound.bound obs member)
  cases seen : (seenOf crates.sha observations).lookup obs.observationId with
  | none => exact absurd rfl (lookup_seenOf_none.mp seen obs member)
  | some digest =>
    obtain ⟨other, found, id, rfl⟩ := lookup_seenOf_some seen
    have same : other = obs := List.inj_on_of_nodup_map sound.apart found member id
    simp [admitRecord, admitObservation, okOr, refuseIf, checked, within, seen, same, bind, Except.bind, pure,
      Except.pure]

theorem observationsIn_header (header : LogHeader) (body : List LogRecord) :
    observationsIn (.header header :: body) = observationsIn body := rfl

theorem holds_of_inner (opened : header.validate = .ok ())
    (inner : ∀ record ∈ body, record.Inner crates.sha header)
    (repeated : ∀ first ∈ observationsIn body, ∀ second ∈ observationsIn body,
      first.observationId = second.observationId → first = second) :
    ∃ observations rejections, Holds crates header (.header header :: body) observations rejections := by
  induction body using List.reverseRecOn with
  | nil => exact ⟨[], [], holds_header opened⟩
  | append_singleton body record ih =>
    have earlier : ∀ first ∈ observationsIn body, ∀ second ∈ observationsIn body,
        first.observationId = second.observationId → first = second := by
      intro first firstIn second secondIn
      exact repeated first (by simp [firstIn]) second (by simp [secondIn])
    obtain ⟨observations, rejections, held⟩ := ih (fun other member => inner other (by simp [member])) earlier
    have here := inner record (by simp)
    rw [← List.cons_append]
    cases record with
    | header _ => exact here.elim
    | sealed _ => exact here.elim
    | rejection record => exact ⟨_, _, held.rejection record⟩
    | observation record =>
      obtain ⟨obs, digest⟩ := record
      obtain ⟨valid, bound, derived⟩ := here
      change digest = obs.digestHex crates.sha at derived
      subst derived
      by_cases known : ∃ other ∈ observations, other.observationId = obs.observationId
      · -- The id stands in an earlier line, so that line holds the same record.
        obtain ⟨other, member, id⟩ := known
        have line : other ∈ observationsIn body := by
          simpa [observationsIn_header] using held.sound.stored other member
        have same : other = obs := by
          apply repeated other (by simp [line]) obs _ id
          simp [observationsIn, LogRecord.observation?]
        exact ⟨_, _, held.repeated (same ▸ member)⟩
      · have fresh : ∀ other ∈ observations, other.observationId ≠ obs.observationId :=
          fun other member id => known ⟨other, member, id⟩
        exact ⟨_, _, held.observation valid bound fresh⟩

-- Without colliding records the parser takes exactly the observations in the lines.
theorem Holds.perm_dedup (held : Holds crates header records observations rejections)
    (repeated : ∀ first ∈ observationsIn records, ∀ second ∈ observationsIn records,
      first.observationId = second.observationId → first = second) :
    observations.Perm (observationsIn records).dedup := by
  have sound := held.sound
  apply (List.perm_ext_iff_of_nodup (List.Nodup.of_map _ sound.apart) (List.nodup_dedup _)).mpr
  intro obs
  rw [List.mem_dedup]
  constructor
  · exact sound.stored obs
  · intro line
    obtain ⟨other, member, id, -⟩ := sound.covered obs line
    exact repeated other (sound.stored other member) obs line id ▸ member

theorem Holds.lines_observed (held : Holds crates header records observations rejections)
    (collisionFree : Set.InjOn crates.sha.hex {text | ∃ obs ∈ observationsIn records, text = obs.recordText}) :
    ∀ obs ∈ observationsIn records, obs ∈ observations := by
  intro obs line
  have sound := held.sound
  obtain ⟨other, member, -, digest⟩ := sound.covered obs line
  have text := collisionFree ⟨other, sound.stored other member, rfl⟩ ⟨obs, line, rfl⟩ digest
  exact CanaryObservationV2.recordText_injective text ▸ member

theorem qualifying_perm {first second : List CanaryObservationV2} (permuted : first.Perm second) :
    qualifying first = qualifying second := by
  rw [qualifying, qualifying, (permuted.filter _).length_eq]

-- Behind the header an unsealed log has observations with their digests, and rejections.
theorem Holds.shape (held : Holds crates header records observations rejections) :
    ∃ body, records = .header header :: body ∧ header.validate = .ok () ∧
      ∀ record ∈ body, (∃ obs, record = .observation ⟨obs, obs.digestHex crates.sha⟩) ∨
        ∃ r, record = .rejection r := by
  rcases readRecords_header held with ⟨rfl, empty⟩ | ⟨first, body, rfl, opened, behind⟩
  · cases empty
  · have named : first = header := by
      have sound : Sound crates header (.header first :: body) _ := sound_of_readRecords held rfl
      have kept := @readRecords_invariant crates (fun _ parsed => parsed.header = some first)
        (fun _ _ _ _ same _ reads => by cases reads <;> exact same) [] _ _ _ _ (by decide) rfl behind
      exact (Option.some.inj kept).symm
    subst named
    refine ⟨body, rfl, opened, ?_⟩
    have shaped := @readRecords_invariant crates
      (fun records parsed => parsed.sealAt = none → ∀ record ∈ records,
        (∃ obs, record = LogRecord.observation ⟨obs, obs.digestHex crates.sha⟩) ∨ ∃ r, record = .rejection r)
      (by
        intro before parsed record after shaped unsealed reads still other member
        rcases List.mem_append.mp member with old | new
        · exact shaped unsealed other old
        · rw [List.mem_singleton.mp new]
          cases reads with
          | rejection r => exact .inr ⟨r, rfl⟩
          | observation obs => exact .inl ⟨obs, rfl⟩
          | repeated obs => exact .inl ⟨obs, rfl⟩
          | sealed s => cases still)
      [] _ _ _ _ (by decide) (by simp) behind
    simpa using shaped rfl

theorem Holds.inner (held : Holds crates header (.header header :: body) observations rejections)
    (collisionFree : Set.InjOn crates.sha.hex {text | ∃ obs ∈ observationsIn body, text = obs.recordText}) :
    ∀ record ∈ body, record.Inner crates.sha header := by
  obtain ⟨others, same, -, shape⟩ := held.shape
  obtain rfl : body = others := (List.cons.inj same).2
  intro record member
  rcases shape record member with ⟨obs, rfl⟩ | ⟨r, rfl⟩
  · have line : obs ∈ observationsIn body := List.mem_filterMap.mpr ⟨_, member, rfl⟩
    have taken := held.lines_observed collisionFree obs line
    exact ⟨held.sound.valid obs taken, held.sound.bound obs taken, rfl⟩
  · trivial

-- A parse that ends behind a seal is a parse of the lines before it.
theorem readRecords_sealed {parsed : Parsed} {sealedBy : LogSeal} {start : Nat}
    (run : readRecords crates 1 Parsed.empty records = .ok parsed) (opened : parsed.header = some header)
    (closed : parsed.sealAt = some (sealedBy, start)) :
    ∃ before, records = before ++ [.sealed sealedBy] ∧ start = (bytesOf before).length ∧
      Holds crates header before parsed.observations parsed.rejections := by
  induction records using List.reverseRecOn with
  | nil =>
    cases run
    cases closed
  | append_singleton before record _ =>
    rw [readRecords_append, bind_eq_ok] at run
    obtain ⟨middle, first, last⟩ := run
    simp only [readRecords, bind_eq_ok] at last
    obtain ⟨_, last, ⟨⟩⟩ := last
    obtain ⟨unsealed, admitted, one, rfl⟩ := readRecord_ok.mp last
    -- Only a header could stand first, and it seals nothing.
    rcases readRecords_header first with ⟨rfl, rfl⟩ | ⟨head, rest, rfl, -⟩
    · cases record with
      | header record =>
        simp only [admitRecord, bind_eq_ok, exists_unit, refuseIf_eq_ok] at one
        obtain ⟨-, -, ⟨⟩⟩ := one
        cases closed
      | observation record => simp [admitRecord, admitObservation, Parsed.empty, bind_eq_ok] at one
      | rejection record => simp [admitRecord, Parsed.empty, refuseIf] at one
      | sealed record => simp [admitRecord, Parsed.empty, refuseIf] at one
    · have reads := admitRecord_opened (by simp) one
      cases reads with
      | rejection => exact absurd closed (by simp [unsealed])
      | observation => exact absurd closed (by simp [unsealed])
      | repeated => exact absurd closed (by simp [unsealed])
      | sealed record =>
        obtain ⟨rfl, rfl⟩ := Prod.mk.inj (Option.some.inj closed)
        have sound := sound_of_readRecords first opened
        refine ⟨_, rfl, sound.complete.2, ?_⟩
        rw [Holds, first]
        obtain ⟨whole, ends⟩ := sound.complete
        obtain ⟨_, observations, rejections, _, _, _⟩ := middle
        dsimp only at whole ends opened unsealed
        rw [whole, ends, opened, unsealed]

theorem observationsIn_sealed (records : List LogRecord) (sealedBy : LogSeal) :
    observationsIn (records ++ [.sealed sealedBy]) = observationsIn records := by
  simp [observationsIn, LogRecord.observation?]

theorem sealedText_eq (header : LogHeader) (body : List LogRecord) (sealedBy : LogSeal) :
    (LogRecord.header header).toLine ++ bytesOf body ++ (LogRecord.sealed sealedBy).toLine =
      bytesOf (.header header :: body ++ [.sealed sealedBy]) := by
  simp [bytesOf]

theorem headed_eq (header : LogHeader) (body : List LogRecord) :
    (LogRecord.header header).toLine ++ bytesOf body = bytesOf (.header header :: body) := by
  simp [bytesOf]

-- What an accepted log is made of.
theorem verifyBytes_ok {bytes : Bytes} {log : SealedObservationLog}
    (verified : SealedObservationLog.verifyBytes crates bytes = .ok log) :
    ∃ records, bytes = bytesOf (records ++ [.sealed log.sealedBy]) ∧
      Holds crates log.header records log.observations log.rejections ∧
      Seals crates records log.observations log.sealedBy := by
  have accepted := verified
  simp only [SealedObservationLog.verifyBytes, bind_eq_ok, exists_unit, okOr_eq_ok, refuseIf_eq_ok, not_or,
    Bool.not_eq_true] at verified
  obtain ⟨parsed, read, header, opened, ⟨sealedBy, start⟩, closed, ⟨complete, -⟩, -, -, -, ⟨⟩⟩ := verified
  obtain ⟨records, tail, rfl, inside⟩ := parseLog_ok read
  obtain ⟨inner, run, -, rfl⟩ := (parseLog_bytesOf records tail inside parsed).mp read
  obtain rfl : tail = [] := by simpa using complete
  obtain ⟨before, rfl, -, held⟩ := readRecords_sealed run opened closed
  rw [List.append_nil] at accepted ⊢
  exact ⟨before, rfl, held, ((verifyBytes_iff held).mp accepted).1⟩

theorem recordTexts_subset {bytes : Bytes} (text : bytes = bytesOf records) :
    {text | ∃ obs ∈ observationsIn records, text = obs.recordText} ⊆ recordTextsIn bytes := by
  rintro _ ⟨obs, member, rfl⟩
  exact ⟨records, [], by rw [text, List.append_nil], obs, member, rfl⟩

-- Acceptance is the grammar.
theorem verifyBytes_grammar {bytes : Bytes} (collisionFree : Set.InjOn crates.sha.hex (recordTextsIn bytes)) :
    (∃ log, SealedObservationLog.verifyBytes crates bytes = .ok log) ↔
      ∃ header body sealedBy, SealedText crates header body sealedBy bytes := by
  constructor
  · rintro ⟨log, verified⟩
    obtain ⟨records, text, held, seals⟩ := verifyBytes_ok verified
    obtain ⟨body, rfl, opened, -⟩ := held.shape
    have apart := collisionFree.mono (recordTexts_subset text)
    rw [observationsIn_sealed, observationsIn_header] at apart
    have repeated : ∀ first ∈ observationsIn body, ∀ second ∈ observationsIn body,
        first.observationId = second.observationId → first = second := by
      intro first firstIn second secondIn id
      exact List.inj_on_of_nodup_map held.sound.apart (held.lines_observed apart first firstIn)
        (held.lines_observed apart second secondIn) id
    have taken := held.perm_dedup repeated
    refine ⟨log.header, body, log.sealedBy, ?_, opened, held.inner apart, repeated, ?_, ?_, ?_⟩
    · rw [text, sealedText_eq]
    · rw [headed_eq]
      exact seals.digest
    · rw [seals.observed, taken.length_eq]
      rfl
    · rw [seals.qualified, qualifying_perm taken]
      rfl
  · rintro ⟨header, body, sealedBy, grammar⟩
    obtain ⟨observations, rejections, held⟩ := holds_of_inner grammar.opened grammar.inner grammar.repeated
    have taken := held.perm_dedup grammar.repeated
    have seals : Seals crates (.header header :: body) observations sealedBy := by
      refine ⟨?_, ?_, ?_⟩
      · rw [grammar.digest, headed_eq]
      · rw [grammar.observed, taken.length_eq]
        rfl
      · rw [grammar.qualified, qualifying_perm taken]
        rfl
    rw [grammar.text, sealedText_eq]
    exact ⟨_, (verifyBytes_iff held).mpr ⟨seals, rfl⟩⟩

theorem LogRecord.line_injective : Function.Injective LogRecord.line := by
  intro first second same
  have parsed := standardLogCrates.fromSlice_line first
  rw [same, LogCrates.fromSlice_line] at parsed
  exact (Except.ok.inj parsed).symm

-- Complete lines in front of complete lines are the first of them.
theorem prefix_of_bytesOf {first second : List LogRecord} {rest : Bytes}
    (whole : bytesOf first ++ rest = bytesOf second) : first <+: second := by
  have lines := congrArg (Lines.split 10) whole
  rw [split_bytesOf, ← List.append_nil (bytesOf second), split_bytesOf_tail second [] (by simp)] at lines
  obtain ⟨before, after, rfl, same, -⟩ := List.append_eq_map_iff.mp (Prod.mk.inj lines).1
  rw [LogRecord.line_injective.list_map same]
  exact List.prefix_append first after

-- Nothing behind a seal is accepted.
theorem accepted_prefix {first second : Bytes} {firstLog secondLog : SealedObservationLog}
    (firstAccepted : SealedObservationLog.verifyBytes crates first = .ok firstLog)
    (secondAccepted : SealedObservationLog.verifyBytes crates second = .ok secondLog)
    (within : first <+: second) : first = second := by
  obtain ⟨records, rfl, -, -⟩ := verifyBytes_ok firstAccepted
  obtain ⟨others, rfl, held, -⟩ := verifyBytes_ok secondAccepted
  obtain ⟨rest, whole⟩ := within
  rcases List.prefix_concat_iff.mp (prefix_of_bytesOf whole) with same | inside
  · rw [same]
  · -- The other log would have the first one's seal among its inner lines.
    obtain ⟨body, rfl, -, shape⟩ := held.shape
    have sealedIn : LogRecord.sealed firstLog.sealedBy ∈ LogRecord.header secondLog.header :: body :=
      inside.subset (by simp)
    rcases List.mem_cons.mp sealedIn with head | inner
    · cases head
    · rcases shape _ inner with ⟨obs, same⟩ | ⟨r, same⟩ <;> cases same

theorem accepted_same_seal {first second : Bytes} {firstLog secondLog : SealedObservationLog}
    (collisionFree : Set.InjOn crates.sha.hex (sealTextsIn first ∪ sealTextsIn second))
    (firstAccepted : SealedObservationLog.verifyBytes crates first = .ok firstLog)
    (secondAccepted : SealedObservationLog.verifyBytes crates second = .ok secondLog)
    (same : firstLog.sealedBy = secondLog.sealedBy) : first = second := by
  obtain ⟨records, rfl, -, seals⟩ := verifyBytes_ok firstAccepted
  obtain ⟨others, rfl, -, otherSeals⟩ := verifyBytes_ok secondAccepted
  have digests : logDigestOf crates (bytesOf records) = logDigestOf crates (bytesOf others) := by
    rw [← seals.digest, ← otherSeals.digest, same]
  have texts := collisionFree (.inl ⟨records, _, rfl, rfl⟩) (.inr ⟨others, _, rfl, rfl⟩) digests
  simp only [domainBytes, List.flatMap_cons, List.flatMap_nil, List.append_nil,
    List.append_cancel_left_eq] at texts
  rw [← bytesOf_snoc, ← bytesOf_snoc, putField_injective texts, same]

/-- The parser accepts exactly its grammar, no accepted text goes on behind another, and the seal line
fixes the text. -/
theorem sealed_log_grammar (crates : LogCrates) (first second : Bytes)
    (collisionFree : Set.InjOn crates.sha.hex (recordTextsIn first ∪ sealTextsIn first ∪ sealTextsIn second)) :
    ((∃ log, SealedObservationLog.verifyBytes crates first = .ok log) ↔
      ∃ header body sealedBy, SealedText crates header body sealedBy first) ∧
    ∀ firstLog secondLog, SealedObservationLog.verifyBytes crates first = .ok firstLog →
      SealedObservationLog.verifyBytes crates second = .ok secondLog →
      (first <+: second → first = second) ∧ (firstLog.sealedBy = secondLog.sealedBy → first = second) := by
  have records : recordTextsIn first ⊆ recordTextsIn first ∪ sealTextsIn first ∪ sealTextsIn second :=
    Set.subset_union_left.trans Set.subset_union_left
  have seals : sealTextsIn first ∪ sealTextsIn second ⊆
      recordTextsIn first ∪ sealTextsIn first ∪ sealTextsIn second :=
    Set.union_subset_union_left _ Set.subset_union_right
  refine ⟨verifyBytes_grammar (collisionFree.mono records),
    fun firstLog secondLog firstAccepted secondAccepted => ?_⟩
  constructor
  · exact accepted_prefix firstAccepted secondAccepted
  · exact accepted_same_seal (collisionFree.mono seals) firstAccepted secondAccepted

end

section Sample

def refusalHeader : LogHeader := .new "gen-002" (sha256.hex [1]) (sha256.hex [2]) 0

theorem refusalHeader_valid : refusalHeader.validate = .ok () := by
  have hex (data : Bytes) : isHexDigest (sha256.hex data) = true := sha256.isHexDigest_hex data
  simp [refusalHeader, LogHeader.new, LogHeader.validate, hex, refuseIf, bind, Except.bind, isBlank,
    isWhiteSpace]

def timedOut : CanaryObservationV2 := .new sha256
  { generationId := "gen-002", requestId := "sum-1", requestDigest := sha256.hex [1]
    workloadDigest := sha256.hex [1], candidateExecutableDigest := sha256.hex [2], resultDigest := none, elapsedUs := 2000000, observedAtMs := 1
    status := .timeout, provenance := .measured }

theorem timedOut_valid : timedOut.Valid sha256 where
  version := rfl
  generation := show isBlank "gen-002" = false by decide
  request := show isBlank "sum-1" = false by decide
  requestDigest := sha256.isHexDigest_hex _
  workloadDigest := sha256.isHexDigest_hex _
  executableDigest := sha256.isHexDigest_hex _
  hexResult := fun _ some_ => by cases some_
  result := fun ended => by obtain ended | ended := ended <;> cases ended
  derived := rfl

def timedOutBody : List LogRecord :=
  [.rejection ⟨"frame of\nan unknown kind", 1⟩, .observation ⟨timedOut, timedOut.digestHex sha256⟩]

def timedOutLines : List LogRecord := .header refusalHeader :: timedOutBody

def timedOutSeal : LogSeal :=
  { observationCount := 1, qualifyingCount := 0
    logDigest := logDigestOf standardLogCrates (bytesOf timedOutLines), sealedAtMs := 2 }

def timedOutText : Bytes := bytesOf (timedOutLines ++ [.sealed timedOutSeal])

theorem timedOutText_records : recordTextsIn timedOutText ⊆ {timedOut.recordText} := by
  rintro _ ⟨records, tail, whole, obs, member, rfl⟩
  have within : records <+: timedOutLines ++ [.sealed timedOutSeal] := prefix_of_bytesOf whole.symm
  have line := (within.sublist.filterMap LogRecord.observation?).subset member
  have same : timedOut = obs := by simpa [timedOutLines, timedOutBody, LogRecord.observation?] using line
  rw [← same]
  rfl

theorem timedOutText_seals : sealTextsIn timedOutText ⊆
    {domainBytes "spark-rsi/canary-observation-log/v1" [bytesOf timedOutLines]} := by
  rintro _ ⟨records, sealedBy, whole, rfl⟩
  rw [(List.append_inj' (bytesOf_injective whole) rfl).1]
  rfl

theorem timedOut_apart : sha256.hex timedOut.recordText ≠
    sha256.hex (domainBytes "spark-rsi/canary-observation-log/v1" [bytesOf timedOutLines]) := by
  intro same
  have digests := sha256.decode_hex timedOut.recordText
  rw [same, sha256.decode_hex, Except.ok.injEq] at digests
  revert digests
  simp only [CanaryObservationV2.recordText, timedOutLines, timedOutBody, bytesOf, LogRecord.toLine, LogRecord.line,
    List.flatMap_cons, List.flatMap_nil, CanaryObservationV2.digestHex, domainDigest, canonicalJson_eq]
  decide +kernel

theorem sealed_log_grammar_timedOut :
    ∃ log, SealedObservationLog.verifyBytes standardLogCrates timedOutText = .ok log := by
  have apart : Set.InjOn sha256.hex {timedOut.recordText,
      domainBytes "spark-rsi/canary-observation-log/v1" [bytesOf timedOutLines]} := by
    simp [Set.InjOn, timedOut_apart, timedOut_apart.symm]
  have grammar := sealed_log_grammar standardLogCrates timedOutText timedOutText (apart.mono (by
    refine Set.union_subset (Set.union_subset ?_ ?_) ?_
    next => exact timedOutText_records.trans (by simp)
    next => exact timedOutText_seals.trans (by simp)
    next => exact timedOutText_seals.trans (by simp)))
  refine grammar.1.mpr ⟨refusalHeader, timedOutBody, timedOutSeal, ?_⟩
  refine ⟨by simp [timedOutText, timedOutLines, bytesOf], refusalHeader_valid, ?_, ?_, ?_, rfl, ?_⟩
  next =>
    rw [timedOutBody, List.forall_mem_cons, List.forall_mem_singleton]
    exact ⟨trivial, timedOut_valid, ⟨rfl, rfl, rfl⟩, rfl⟩
  next =>
    have only : observationsIn timedOutBody = [timedOut] := rfl
    simp [only]
  next =>
    rw [headed_eq]
    rfl
  next => rfl

end Sample

end SparkRsi.Canary
