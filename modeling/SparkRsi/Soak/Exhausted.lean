import SparkRsi.Cycle.Runs
import SparkRsi.Soak.Manifest

set_option autoImplicit false

namespace SparkRsi.Soak

open Shared Shared.Passes Ledger SparkRsi.Cycle SparkRsi.Measure SparkRsi.Graph

section Refinement

variable {ecdsa : Ecdsa} {crates : CycleCrates ecdsa} {text : SoakText} {config : SoakConfig} {io : BatchIo}
  {signingKey : ecdsa.SigningKey} {files : SampleFiles} {s after : BatchState} {q : SoakState}

theorem chooseBottleneck_map (tracker : HypothesisQuarantineTracker) (ranked : List BottleneckRank) :
    chooseBottleneck crates.ledger.sha tracker (ranked.map bottleneckOf) =
      (chooseRank crates tracker ranked).map bottleneckOf := by
  rw [chooseBottleneck, chooseRank, List.find?_map, List.head?_map, Option.map_or]
  rfl

def candidateEnd (record : CycleCandidateRecord) : CandidateEnd :=
  if record.ledgerBlockHash.isSome then .judged record.judgeAdmitted else .rejected (record.rejectionReason.getD "")

theorem admissibleProposals_records {records : List CycleCandidateRecord}
    (hashed : ∀ record ∈ records, record.judgeAdmitted = true → record.ledgerBlockHash.isSome = true) :
    admissibleProposals (records.map candidateEnd) =
      .ok (records.filter CycleCandidateRecord.judgeAdmitted).length := by
  induction records with
  | nil => rfl
  | cons record rest ih =>
    rw [List.forall_mem_cons] at hashed
    rw [List.map_cons, List.filter_cons, candidateEnd]
    cases admitted : record.judgeAdmitted with
    | true =>
      rw [if_pos (hashed.1 admitted), if_pos rfl, admissibleProposals, ih hashed.2]
      rfl
    | false =>
      rw [if_neg Bool.false_ne_true]
      split
      next =>
        rw [admissibleProposals, ih hashed.2]
        rfl
      next => rw [admissibleProposals, ih hashed.2]

/-- The cycle of the quarantine behind a record: the ranking that the batch found, and how its variations ended. -/
def recordedInput (crates : CycleCrates ecdsa) (config : SoakConfig) (io : BatchIo) (files : SampleFiles)
    (record : CycleRecord) : CycleInput where
  observed := (soakRanking crates config io files record.cycleIndex).map (List.map bottleneckOf)
  candidates := record.candidates.map candidateEnd

structure Told (crates : CycleCrates ecdsa) (text : SoakText) (config : SoakConfig) (io : BatchIo) (files : SampleFiles)
    (cycle : ChosenCycle) (record : CycleRecord) : Prop where
  chosen : ∃ ranking rank, soakRanking crates config io files record.cycleIndex = .ok ranking ∧ rank ∈ ranking ∧
    cycle.ranked = ranking.map bottleneckOf ∧ cycle.bottleneck = bottleneckOf rank ∧
    record.bottleneckNode = rank.nodeName ∧ record.hypothesisProblem = observedProblem text rank
  admissible : cycle.admissible = some record.admitted.length

structure Reflects (crates : CycleCrates ecdsa) (text : SoakText) (config : SoakConfig) (io : BatchIo)
    (files : SampleFiles) (s : BatchState) (q : SoakState) : Prop where
  tracker : q.tracker = s.tracker
  told : List.Forall₂ (Told crates text config io files) q.history s.cycles
  running : q.ended = none

theorem mem_of_chooseRank {tracker : HypothesisQuarantineTracker} {ranking : List BottleneckRank} {rank : BottleneckRank}
    (choice : chooseRank crates tracker ranking = some rank) : rank ∈ ranking := by
  rw [chooseRank, Option.or_eq_some_iff] at choice
  cases choice with
  | inl unlisted => exact List.mem_of_find?_eq_some unlisted
  | inr first => exact List.mem_of_head? first.2

theorem soakCycle_chosen {ranking : List BottleneckRank} {rank : BottleneckRank} {candidates : List CandidateEnd}
    {admissible : Nat} (reflects : Reflects crates text config io files s q)
    (choice : chooseRank crates s.tracker ranking = some rank)
    (proposals : admissibleProposals candidates = .ok admissible) :
    soakCycle crates.ledger.sha q { observed := .ok (ranking.map bottleneckOf), candidates } =
      recordCycle crates.ledger.sha q (ranking.map bottleneckOf) (bottleneckOf rank) admissible := by
  have chosen : chooseBottleneck crates.ledger.sha q.tracker (ranking.map bottleneckOf) = some (bottleneckOf rank) := by
    rw [reflects.tracker, chooseBottleneck_map, choice]
    rfl
  simp only [soakCycle, reflects.running, Option.isSome_none, Bool.false_eq_true, if_false, chosen, proposals]

structure Tried (crates : CycleCrates ecdsa) (s tried : BatchState) (records : List CycleCandidateRecord) : Prop
    extends Within s tried where
  candidates : tried.candidates = records
  proposals : admissibleProposals (records.map candidateEnd) =
    .ok (records.filter CycleCandidateRecord.judgeAdmitted).length
  vain : selectWinner tried.admissible = none ↔ (records.filter CycleCandidateRecord.judgeAdmitted).length = 0

theorem tryVariations_tried {cycleId : Text} {nodeName : String} {cycle : SoakCycleIo} {isBalanced : Bool}
    {indexes : List Nat} (candidates : s.candidates = []) (admissible : s.admissible = [])
    (returned : tryVariations crates config signingKey cycleId nodeName cycle isBalanced indexes s = .ok () after) :
    ∃ records, Tried crates s after records := by
  obtain ⟨records, -, pushed⟩ := tryVariations_pushed returned
  obtain ⟨won, ⟨pairs, proposed, rfl, -⟩, held⟩ := pushed.won
  refine ⟨records, { pushed.toWithin with candidates := ?_, proposals := ?_, vain := ?_ }⟩
  next => rw [pushed.candidates, candidates, List.nil_append]
  next => exact admissibleProposals_records fun record member => (pushed.vetted record member).hashed
  next =>
    rw [selectWinner_none, held, admissible, List.nil_append, proposed, List.length_map, List.map_eq_nil_iff,
      List.length_eq_zero_iff]

theorem runSoakCycle_simulated {index : Nat} (candidates : s.candidates = []) (admissible : s.admissible = [])
    (reflects : Reflects crates text config io files s q)
    (returned : runSoakCycle crates text config io signingKey files index s = .ok () after) :
    ∃ record, after.cycles = s.cycles ++ [record] ∧ after.candidates = [] ∧ after.admissible = [] ∧
      Reflects crates text config io files after
        (soakCycle crates.ledger.sha q (recordedInput crates config io files record)) := by
  obtain ⟨isBalanced, ranking, rank, tried, won, chosen, found, choice, trying, selecting, closing⟩ :=
    runSoakCycle_returns returned
  obtain ⟨records, attempt⟩ := tryVariations_tried candidates admissible trying
  obtain ⟨hash, cycles, noCandidates, noAdmissible, tracker, -⟩ := closeSoakCycle_returns closing
  have selected := selectAdmissible_returns selecting
  have kept : chosen.cycles = tried.cycles ∧ chosen.candidates = tried.candidates := by
    obtain ⟨-, -, -, rfl⟩ | ⟨winner, -, -, rfl⟩ := selected <;> exact ⟨rfl, rfl⟩
  rw [kept.1, kept.2, attempt.cycles, attempt.candidates] at cycles
  refine ⟨_, cycles, noCandidates, noAdmissible, ?_⟩
  have input : recordedInput crates config io files
      (cycleRecord text (soakCycleId io.runId index) index rank records won hash) =
        { observed := .ok (ranking.map bottleneckOf), candidates := records.map candidateEnd } := by
    rw [recordedInput]
    simp only [cycleRecord, found]
    rfl
  rw [input, soakCycle_chosen reflects choice attempt.proposals, recordCycle]
  have told : List.Forall₂ (Told crates text config io files)
      (q.history ++ [⟨ranking.map bottleneckOf, bottleneckOf rank,
        some (records.filter CycleCandidateRecord.judgeAdmitted).length⟩])
      (s.cycles ++ [cycleRecord text (soakCycleId io.runId index) index rank records won hash]) := by
    refine List.rel_append reflects.told (.cons ⟨?_, rfl⟩ .nil)
    exact ⟨ranking, rank, found, mem_of_chooseRank choice, rfl, rfl, rfl, rfl⟩
  obtain ⟨vain, rfl, whole, rfl⟩ | ⟨winner, selected, rfl, rfl⟩ := selected
  next =>
    rw [if_pos (attempt.vain.mp vain)]
    rw [attempt.tracker, ← reflects.tracker] at whole tracker
    exact ⟨tracker.symm, cycles ▸ told, if_neg (Bool.eq_false_iff.mp whole)⟩
  next =>
    rw [if_neg (mt attempt.vain.mpr (by simp [selected]))]
    rw [attempt.tracker, ← reflects.tracker] at tracker
    exact ⟨tracker.symm, cycles ▸ told, rfl⟩

theorem runSoakCycles_simulated {indexes : List Nat} (candidates : s.candidates = []) (admissible : s.admissible = [])
    (reflects : Reflects crates text config io files s q)
    (returned : runSoakCycles crates text config io signingKey files indexes s = .ok () after) :
    ∃ records, after.cycles = s.cycles ++ records ∧
      Reflects crates text config io files after
        (Run.final (soakCycle crates.ledger.sha) q (records.map (recordedInput crates config io files))) := by
  induction indexes generalizing s q with
  | nil =>
    obtain ⟨-, rfl⟩ := returns_pure.mp returned
    exact ⟨[], (List.append_nil _).symm, reflects⟩
  | cons index rest ih =>
    obtain ⟨⟨⟩, between, first, later⟩ := returns_bind.mp returned
    obtain ⟨record, added, noCandidates, noAdmissible, stepped⟩ :=
      runSoakCycle_simulated candidates admissible reflects first
    obtain ⟨records, more, reached⟩ := ih noCandidates noAdmissible stepped later
    exact ⟨record :: records, by rw [more, added, List.append_assoc, List.singleton_append], reached⟩

theorem runBatch_returns {disk : SoakDisk} {manifest : SoakRunManifest}
    (returned : (runBatch crates text config io disk).1 = .ok manifest) :
    ∃ signingKey ledger s hash, manifest = finalManifest io s hash ∧
      runSoakCycles crates text config io signingKey disk.files (List.range' 1 config.totalCycles) (batchStart ledger) =
        .ok () s := by
  have finishing {signingKey : ecdsa.SigningKey} {s : BatchState}
      (finished : (finishBatch crates config io signingKey disk s).1 = .ok manifest) : ∃ hash, manifest = finalManifest io s hash := by
    rw [finishBatch] at finished
    split at finished
    next =>
      cases finished
      exact ⟨_, rfl⟩
    next => cases finished
  unfold runBatch at returned
  split at returned
  next => cases returned
  next signingKey _ =>
    split at returned
    next => cases returned
    next =>
      split at returned
      next => cases returned
      next opened _ =>
        unfold runCyclesOf at returned
        cases outcome : runSoakCycles crates text config io signingKey disk.files (List.range' 1 config.totalCycles)
            (batchStart opened) with
        | ok u s =>
          rw [outcome] at returned
          obtain ⟨hash, same⟩ := finishing returned
          exact ⟨signingKey, opened, s, hash, same, outcome⟩
        | error ended s =>
          rw [outcome] at returned
          cases ended with
          | noBottleneck => cases throws_runSoakCycles _ _ _ _ _ outcome rfl
          | failed e => cases returned
          | panicked => cases returned

theorem runBatch_finishes {disk : SoakDisk} {ledger opened : ImprovementLedger} (saved : io.saved = .ok ())
    (key : soakKey crates config io = .ok signingKey)
    (checked : runPreflightChecks crates config io disk.ledger = (.ok (), ledger))
    (opens : openLedger crates.ledger io.opening ledger = .ok opened)
    (cycled : (toPair (runSoakCycles crates text config io signingKey disk.files (List.range' 1 config.totalCycles)
      (batchStart opened))).1 = .ok ()) :
    ∃ manifest, (runBatch crates text config io disk).1 = .ok manifest := by
  simp only [runBatch, key, checked, opens, runCyclesOf]
  generalize toPair _ = outcome at cycled ⊢
  obtain ⟨_, s⟩ := outcome
  cases cycled
  simp only [finishBatch, saved]
  exact ⟨_, rfl⟩

/-- A finished batch went through the cycles of the quarantine that its own rankings and its own records make, one for
each record of its manifest. The manifest lists a pairing, once, exactly if cycles recorded it in vain three times or
more since the last one that recorded a success. -/
theorem manifest_exhausted (crates : CycleCrates ecdsa) (text : SoakText) (config : SoakConfig) (io : BatchIo)
    (disk : SoakDisk) (manifest : SoakRunManifest) (returned : (runBatch crates text config io disk).1 = .ok manifest) :
    let history := soakHistory crates.ledger.sha (manifest.cycles.map (recordedInput crates config io disk.files))
    List.Forall₂ (Told crates text config io disk.files) history manifest.cycles ∧
      manifest.exhaustedHypotheses.Nodup ∧
      ∀ key, key ∈ manifest.exhaustedHypotheses ↔ 3 ≤ keyFailures crates.ledger.sha key history := by
  intro history
  obtain ⟨signingKey, ledger, s, hash, rfl, outcome⟩ := runBatch_returns returned
  have started : Reflects crates text config io disk.files (batchStart ledger) .start := ⟨rfl, .nil, rfl⟩
  obtain ⟨records, cycles, reflects⟩ := runSoakCycles_simulated rfl rfl started outcome
  obtain rfl : s.cycles = records := cycles
  have counted : Counted crates.ledger.sha (Run.final (soakCycle crates.ledger.sha) .start
      (s.cycles.map (recordedInput crates config io disk.files))) := run_counted _
  rw [Counted, reflects.tracker] at counted
  refine ⟨reflects.told, ?_, fun key => ?_⟩
  next => exact (List.perm_insertionSort _ _).nodup_iff.mpr counted.nodup
  next => exact (List.mem_insertionSort _).trans (counted.listed key)

end Refinement

section Sample

def sampleSoakText : SoakText := ⟨fun _ => "0.0000", fun _ => "0.0", fun _ => "0.00"⟩

def sampleSoakConfig : SoakConfig where
  repoRoot := Actor.parentDir
  rsiRoot := ".rsi"
  sandboxRoot := Actor.candidateDir
  signingKeyHex := some "00"
  totalCycles := 1
  candidatesPerCycle := 1
  writablePrefixes := ["src/observe.rs"]

def silentVariation : VariationIo where
  proposed := none
  note := Io.calm "2026-01-02T00:00:00+00:00"
  stage := Propose.calmIo
  build := .error "No such file or directory (os error 2)"
  invariants := { passed := true, notes := [], compilationError := none, testOutputSummary := none }
  trees := Actor.workflowTrees
  around := Actor.quietSurroundings [0x6F]
  evaluation := Io.calm "2026-01-02T00:00:01+00:00"

def silentBatch (runId : String) : BatchIo where
  runId
  startedAt := "2026-01-02T00:00:00+00:00"
  hexError := "Odd number of digits"
  preflight :=
    { bwrap := .ok true
      opening := Io.calm "2026-01-02T00:00:00+00:00"
      holdoutsDir := ".rsi/holdouts"
      holdoutsExist := true
      cargoToml := true }
  opening := Io.calm "2026-01-02T00:00:00+00:00"
  cycle _ :=
    { samplesFault := none
      ctx := sampleContext
      observed := .ok true
      repo := Actor.parentTree
      variation := fun _ => silentVariation
      checkpoint := Io.calm "2026-01-02T00:00:02+00:00" }
  checkpoint := Io.calm "2026-01-02T00:00:03+00:00"
  completedAt := "2026-01-02T00:00:04+00:00"
  saved := .ok ()
  emptied := false

def sampleSoakDisk : SoakDisk := ⟨sampleInstallation.ledger, sampleInstallation.files, fun _ => none⟩

theorem orFail_bind {α β : Type} (a : α) (next : α → BatchPass β) (s : BatchState) :
    (orFail (.ok a) >>= next) s = next a s := rfl

theorem silent_cycle (runId : String) (signingKey : sampleEcdsa.SigningKey) (files : SampleFiles)
    (ledger : ImprovementLedger) :
    (toPair (runSoakCycles sampleCycleCrates sampleSoakText sampleSoakConfig (silentBatch runId) signingKey files [1]
      (batchStart ledger))).1 = .ok () := by
  have observed : ((silentBatch runId).cycle 1).observed = .ok true := rfl
  obtain ⟨graph, built⟩ : ∃ graph, buildCapabilityGraph sampleCycleCrates.display (soakMeasurements sampleCycleCrates
      sampleSoakConfig files (soakCycleId (silentBatch runId).runId 1) ((silentBatch runId).cycle 1)) = .ok graph :=
    measureStages_builds _ _ _ _ _ _ _
  obtain ⟨rank, choice⟩ := Option.isSome_iff_exists.mp (chooseRank_ranked built (batchStart ledger).tracker)
  have cycled : ∃ after, runSoakCycle sampleCycleCrates sampleSoakText sampleSoakConfig (silentBatch runId) signingKey
      files 1 (batchStart ledger) = .ok () after := by
    unfold runSoakCycle
    simp only [observed, built, orFail_bind, get_bind, choice]
    exact ⟨_, rfl⟩
  obtain ⟨after, cycled⟩ := cycled
  rw [runSoakCycles]
  change (toPair (EStateM.bind _ _ _)).1 = _
  rw [EStateM.bind, cycled]
  rfl

theorem silent_returns {runId : String} {disk : SoakDisk}
    (passed : (runPreflightChecks sampleCycleCrates sampleSoakConfig (silentBatch runId) disk.ledger).1 = .ok ())
    (opens : (openLedger sampleCycleCrates.ledger (silentBatch runId).opening
      (runPreflightChecks sampleCycleCrates sampleSoakConfig (silentBatch runId) disk.ledger).2).isOk = true) :
    ∃ manifest,
      (runBatch sampleCycleCrates sampleSoakText sampleSoakConfig (silentBatch runId) disk).1 = .ok manifest := by
  cases opened : openLedger sampleCycleCrates.ledger (silentBatch runId).opening
      (runPreflightChecks sampleCycleCrates sampleSoakConfig (silentBatch runId) disk.ledger).2 with
  | error e =>
    rw [opened] at opens
    cases opens
  | ok ledger =>
    exact runBatch_finishes rfl rfl (Prod.ext passed rfl) opened (silent_cycle runId (0 : Nat) disk.files ledger)

theorem manifest_exhausted_silent : ∃ manifest,
    (runBatch sampleCycleCrates sampleSoakText sampleSoakConfig (silentBatch "run-1") sampleSoakDisk).1 = .ok manifest ∧
      ∀ key, key ∈ manifest.exhaustedHypotheses ↔
        3 ≤ keyFailures sampleCycleCrates.ledger.sha key (soakHistory sampleCycleCrates.ledger.sha
          (manifest.cycles.map (recordedInput sampleCycleCrates sampleSoakConfig (silentBatch "run-1")
            sampleSoakDisk.files))) := by
  have passed : (runPreflightChecks sampleCycleCrates sampleSoakConfig (silentBatch "run-1")
      sampleSoakDisk.ledger).1 = .ok () := by decide +kernel
  obtain ⟨manifest, returned⟩ := silent_returns passed (by decide +kernel)
  obtain ⟨told, -, listed⟩ := manifest_exhausted sampleCycleCrates sampleSoakText sampleSoakConfig (silentBatch "run-1")
    sampleSoakDisk manifest returned
  exact ⟨manifest, returned, listed⟩

end Sample

end SparkRsi.Soak
