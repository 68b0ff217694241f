import SparkRsi.Cycle.RunCycle
import SparkRsi.Cycle.Winners
import SparkRsi.Propose.Staging

set_option autoImplicit false

namespace SparkRsi.Cycle

open Shared Shared.Passes Ledger Supervisor Canary Governance SparkRsi.Measure Propose SparkRsi.Graph
open Actor (PathBuf Tree)
open Evaluator (EvaluationReceipt)

section Supervision

variable {ecdsa : Ecdsa} {crates : CycleCrates ecdsa} {config : RsiConfig}
  {io : WinnerIo} {signingKey : ecdsa.SigningKey} {world : World} {winner : Winner}

variable (crates) in
structure Refused (before : World) (outcome : Except String (CycleResult RatificationRecord) × World) : Prop where
  links : outcome.2.daemon.links = before.daemon.links
  grows : Grows crates.ledger ecdsa before.ledger outcome.2.ledger
  result : ∀ result, outcome.1 = .ok result →
    result.generation = none ∧ result.ratification = none ∧ result.success = false

theorem Refused.before {outcome : Except String (CycleResult RatificationRecord) × World} {earlier : ImprovementLedger}
    {daemon : SupervisorDaemon} (links : world.daemon.links = daemon.links)
    (grows : Grows crates.ledger ecdsa earlier world.ledger) (refused : Refused crates world outcome) :
    Refused crates { daemon, ledger := earlier } outcome where
  links := refused.links.trans links
  grows := grows.trans refused.grows
  result := refused.result

-- Without an active generation there is nothing to roll back to.
theorem rollBack_fresh (fresh : world.daemon.activeGeneration = none) {tail : TailIo RatificationRecord} (id reason : String) :
    ∃ after, rollBack crates.ledger crates.logs (supervisorConfig config) tail world id reason = (.ok (), after) ∧
      after.daemon.links = world.daemon.links ∧ Grows crates.ledger ecdsa world.ledger after.ledger := by
  simp only [rollBack, triggerInstantRollback, fresh]
  exact ⟨_, rfl, rfl, grows_rollback crates.ledger ecdsa _ _ _ _ _⟩

theorem closeCycle_grows (tail : TailIo RatificationRecord) :
    (closeCycle crates.ledger ecdsa tail signingKey world).daemon.links = world.daemon.links ∧
      Grows crates.ledger ecdsa world.ledger (closeCycle crates.ledger ecdsa tail signingKey world).ledger :=
  ⟨rfl, grows_checkpoint crates.ledger ecdsa _ _ _⟩

theorem refuseCanary_refused (fresh : world.daemon.activeGeneration = none) (summary : CanarySummary) (reason : String) :
    Refused crates world (refuseCanary crates config io signingKey world winner summary reason) := by
  obtain ⟨after, rolled, links, grows⟩ := @rollBack_fresh ecdsa crates config world fresh io.tail
    winner.candidate.id.value reason
  simp only [refuseCanary, rolled]
  have decided := grows_decision crates.ledger ecdsa io.tail.decision after.ledger winner.candidate.id.value summary
  exact
    { links
      grows := grows.trans (decided.trans (closeCycle_grows io.tail).2)
      result := by rintro _ ⟨⟩; exact ⟨rfl, rfl, rfl⟩ }

theorem refusePromotion_refused (fresh : world.daemon.activeGeneration = none) (tail : TailIo RatificationRecord)
    (id : String) (block : Option LedgerBlock) (summary : CanarySummary) (detail : String) :
    Refused crates world (refusePromotion crates.ledger crates.logs ecdsa (supervisorConfig config) tail signingKey world
      id block summary detail) := by
  obtain ⟨after, rolled, links, grows⟩ := @rollBack_fresh ecdsa crates config world fresh tail id
    s!"Promotion gate refused: {detail}"
  simp only [refusePromotion, rolled]
  have decided := grows_decision crates.ledger ecdsa tail.decision after.ledger id
    { summary with promotionGate := some { passed := false, detail } }
  exact
    { links
      grows := grows.trans (decided.trans (closeCycle_grows tail).2)
      result := by rintro _ ⟨⟩; exact ⟨rfl, rfl, rfl⟩ }

theorem admitSealed_grows {admission : AdmitIo} {ledger : ImprovementLedger} {workload : PinnedWorkload}
    {identity : CandidateIdentity} {build : CanaryBuild} {genInfo : GenerationInfo} {disk : LogDisk}
    {summary : CanarySummary} {sealed : SealedObservationLog} {execSummary : ExecutionSummary} :
    Grows crates.ledger ecdsa ledger (admitSealed crates.ledger crates.logs config.canaryTarget admission ledger workload
      identity build genInfo disk summary sealed execSummary).ledger := by
  have committed := grows_note crates.ledger ecdsa admission.commitment ledger (crates.ledger.payloadText
    (commitmentPayload identity (identity.bindingDigest crates.logs.sha) workload build sealed))
  unfold admitSealed
  dsimp only
  split
  next => exact .refl ledger
  next appended => rwa [appended] at committed

theorem admitCanary_grows {admission : AdmitIo} {ledger : ImprovementLedger} {id : String} {digest : Bytes}
    {build : Option CanaryBuild} {pinned : Option PinnedWorkload} {genInfo : GenerationInfo} {summary : CanarySummary} :
    Grows crates.ledger ecdsa ledger (admitCanary crates.ledger crates.logs (supervisorConfig config) config.canaryTarget
      admission ledger id digest build pinned genInfo summary).ledger := by
  unfold admitCanary
  dsimp only
  split
  next => exact .refl ledger
  next => exact .refl ledger
  next =>
    split
    next =>
      split
      next => exact .refl ledger
      next =>
        split
        next => exact .refl ledger
        next => exact .refl ledger
        next => exact admitSealed_grows
    next => exact .refl ledger

variable [DecidableEq ecdsa.VerifyingKey]

variable (crates config io signingKey) in
-- The gate asks for a receipt of the second version.
theorem promotionGate_refuses (version : winner.receipt.formatVersion = 1) :
    ∃ detail, promotionGate crates config io signingKey winner = .error detail := by
  cases decided : promotionGate crates config io signingKey winner with
  | error detail => exact ⟨detail, rfl⟩
  | ok u =>
    obtain ⟨-, _, _, _, _, _, _, -, -, -, -, -, covers⟩ := Actor.checkV2Promotion_ok.mp decided
    have second := covers.version
    rw [version] at second
    cases second

theorem enforceEnvelope_refused (fresh : world.daemon.activeGeneration = none)
    (version : winner.receipt.formatVersion = 1) (genInfo : GenerationInfo) (summary : CanarySummary) :
    Refused crates world (enforceEnvelope crates config io signingKey world winner genInfo summary) := by
  unfold enforceEnvelope
  dsimp only
  split
  next => exact refuseCanary_refused fresh _ _
  next =>
    obtain ⟨detail, refused⟩ := promotionGate_refuses crates config io signingKey version
    rw [runCycleTail, refused]
    exact refusePromotion_refused fresh _ _ _ _ _

theorem superviseWinner_refused {links : Links} {ledger : ImprovementLedger} {pinned : Option PinnedWorkload}
    (version : winner.receipt.formatVersion = 1) :
    Refused crates { daemon := newDaemon links, ledger }
      (superviseWinner crates config io signingKey winner pinned { daemon := newDaemon links, ledger }) := by
  unfold superviseWinner
  dsimp only
  split
  next => exact { links := rfl, grows := .refl ledger, result := by rintro _ ⟨⟩ }
  next =>
    split
    next reason _ =>
      refine Refused.before ?_ ?_ (refuseCanary_refused ?_ _ reason)
      next => rfl
      next => exact admitCanary_grows
      next => rfl
    next =>
      refine Refused.before ?_ ?_ (enforceEnvelope_refused ?_ version _ _)
      next => rfl
      next => exact admitCanary_grows
      next => rfl

end Supervision

section Cycle

variable {ecdsa : Ecdsa} (crates : CycleCrates ecdsa) (config : RsiConfig) (io : CycleIo)

structure Unpromoted (before after : CycleState) : Prop where
  links : after.links = before.links
  ledger : Stands crates.ledger before.ledger after.ledger

instance : IsPreorder CycleState (Unpromoted crates) where
  refl s := ⟨rfl, refl_of (Stands crates.ledger) s.ledger⟩
  trans _ _ _ first second :=
    ⟨second.links.trans first.links, trans_of (Stands crates.ledger) first.ledger second.ledger⟩

theorem Unpromoted.of_grows {before after : CycleState} (links : after.links = before.links)
    (grows : Grows crates.ledger ecdsa before.ledger after.ledger) : Unpromoted crates before after :=
  ⟨links, grows.stands⟩

theorem moves_recordStage (call : Recording) : Moves (Unpromoted crates) (recordStage call) :=
  moves_modify fun s => .of_grows crates rfl (.refl s.ledger)

theorem moves_observe : Moves (Unpromoted crates) (observe io) :=
  (moves_recordStage crates _).bind fun _ => moves_ofExcept _

theorem moves_openCycleLedger : Moves (Unpromoted crates) (openCycleLedger crates config io) := by
  refine moves_ofPair fun s => ?_
  split
  next opened => exact ⟨rfl, openLedger_stands opened⟩
  next => exact refl_of (Unpromoted crates) s

theorem moves_tryCandidates (signingKey : ecdsa.SigningKey) (measured isBalanced : Bool) :
    Moves (Unpromoted crates) (tryCandidates crates config io signingKey measured isBalanced) :=
  moves_ofPair fun s =>
    .of_grows crates rfl (evaluateCandidates_noted crates config signingKey io.cycleId io.repo measured isBalanced
      io.candidates s.toLoopState).grows

variable {crates config io} in
theorem tryCandidates_won {signingKey : ecdsa.SigningKey} {measured isBalanced : Bool} {s after : CycleState}
    {winner : Winner}
    (tried : tryCandidates crates config io signingKey measured isBalanced s = .ok (some winner) after) :
    ∃ front candidateIo rest left, io.candidates = front ++ (winner.candidate, candidateIo) :: rest ∧
      evaluateCandidates crates config signingKey io.cycleId io.repo measured isBalanced front s.toLoopState =
        (.ok none, left) ∧
      evaluateCandidate crates config candidateIo winner.candidate signingKey io.cycleId io.repo measured isBalanced left =
        .ok winner after.toLoopState ∧
      ∃ staged, @Won _ crates config candidateIo signingKey io.cycleId io.repo measured isBalanced staged winner
        after.toLoopState := by
  rw [tryCandidates, returns_ofPair, Prod.mk.injEq] at tried
  obtain ⟨done, rfl⟩ := tried
  exact evaluateCandidates_won (Prod.ext done rfl)

-- The daemon's own judge binds no policy, so its receipts are of the first version.
theorem tryCandidates_version {signingKey : ecdsa.SigningKey} {measured isBalanced : Bool} {s after : CycleState}
    {won : Option Winner}
    (tried : tryCandidates crates config io signingKey measured isBalanced s = .ok won after) :
    ∀ winner ∈ won, winner.receipt.formatVersion = 1 := by
  rintro winner rfl
  obtain ⟨_, _, _, _, -, -, -, _, won⟩ := tryCandidates_won tried
  exact won.version

theorem tryCandidates_pinned {signingKey : ecdsa.SigningKey} {measured isBalanced : Bool} {s after : CycleState}
    {won : Option Winner} (unpinned : s.pinned = none)
    (tried : tryCandidates crates config io signingKey measured isBalanced s = .ok won after) :
    WellPinned crates config after.toLoopState := by
  rw [tryCandidates, returns_ofPair, Prod.mk.injEq] at tried
  obtain ⟨-, rfl⟩ := tried
  have noted := evaluateCandidates_noted crates config signingKey io.cycleId io.repo measured isBalanced io.candidates
    s.toLoopState
  apply noted.pinned
  intro workload cached
  rw [unpinned] at cached
  cases cached

variable [DecidableEq ecdsa.VerifyingKey]

theorem moves_finishCycle {signingKey : ecdsa.SigningKey} {won : Option Winner}
    (version : ∀ winner ∈ won, winner.receipt.formatVersion = 1) :
    Moves (Unpromoted crates) (finishCycle crates config io signingKey won) := by
  cases won with
  | none =>
    have closing : Moves (Unpromoted crates) (closeUnwon crates io signingKey) :=
      moves_modify fun s => .of_grows crates rfl (grows_checkpoint crates.ledger ecdsa _ s.ledger _)
    exact closing.bind fun _ => moves_pure _
  | some winner =>
    have supervising : Moves (Unpromoted crates) (supervise crates config io signingKey winner) := by
      refine moves_ofPair fun s => ?_
      have refused := @superviseWinner_refused ecdsa crates config io.winner signingKey winner _ s.links s.ledger
        s.pinned (version winner rfl)
      exact .of_grows crates refused.links refused.grows
    have recording (result : CycleResult RatificationRecord) : Moves (Unpromoted crates) (recordSupervised io result) :=
      moves_modify fun s => .of_grows crates rfl (.refl s.ledger)
    exact supervising.bind fun result => (recording result).bind fun _ => moves_pure _

theorem moves_runCycleInner (files : SampleFiles) : Moves (Unpromoted crates) (runCycleInner crates config io files) := by
  refine (moves_openCycleLedger crates config io).bind fun _ => ?_
  refine (moves_ofExcept _).bind fun signingKey => ?_
  refine (moves_observe crates io).bind fun isBalanced => ?_
  refine (moves_ofExcept _).bind fun graph => ?_
  refine (moves_recordStage crates _).bind fun _ => ?_
  refine (moves_tryCandidates crates config io signingKey _ isBalanced).bind_returned fun s won between tried => ?_
  exact moves_finishCycle crates config io (tryCandidates_version crates config io tried) between

variable {crates config io}

-- Whatever the supervised part does, it does not succeed.
theorem finishCycle_returns {signingKey : ecdsa.SigningKey} {won : Option Winner} {s after : CycleState}
    {result : RsiCycleResult} (version : ∀ winner ∈ won, winner.receipt.formatVersion = 1)
    (finished : finishCycle crates config io signingKey won s = .ok result after) :
    result.proposal = won.map Winner.candidate ∧ result.receipt = won.map Winner.receipt ∧
      result.generation = none ∧ result.ratification = none ∧ result.success = won.isNone := by
  cases won with
  | none =>
    simp only [finishCycle, returns_bind, returns_pure] at finished
    obtain ⟨_, _, -, rfl, -⟩ := finished
    exact ⟨rfl, rfl, rfl, rfl, rfl⟩
  | some winner =>
    simp only [finishCycle, returns_bind, returns_pure, supervise, returns_ofPair, Prod.mk.injEq] at finished
    obtain ⟨supervised, _, ⟨ended, -⟩, _, _, -, rfl, -⟩ := finished
    have refused := @superviseWinner_refused ecdsa crates config io.winner signingKey winner _ s.links s.ledger
      s.pinned (version winner rfl)
    obtain ⟨generation, ratification, success⟩ := refused.result supervised ended
    exact ⟨rfl, rfl, generation, ratification, success⟩

/-- Where the candidates of a cycle start: the ledger opened, nothing else tried, two stages on the clock. -/
def candidatesStart (io : CycleIo) (opened : ImprovementLedger) (s : LoopState) : LoopState where
  ledger := opened
  pinned := s.pinned
  clock := (s.clock.record (StageGuard.dropped .observe io.observeUs (some .ok))).record
    { stage := .propose, elapsedUs := io.proposeUs, outcome := io.proposeOutcome }

theorem runCycleInner_returns {files : SampleFiles} {s after : CycleState} {result : RsiCycleResult}
    (returned : runCycleInner crates config io files s = .ok result after) :
    ∃ signingKey isBalanced graph opened before won between,
      cycleKey crates config io = .ok signingKey ∧ io.observed = .ok isBalanced ∧
      buildCapabilityGraph crates.display (cycleMeasurements crates config io files) = .ok graph ∧
      openLedger crates.ledger io.opening s.ledger = .ok opened ∧
      before.toLoopState = candidatesStart io opened s.toLoopState ∧
      tryCandidates crates config io signingKey
        (diagnosisMeasured crates (cycleMeasurements crates config io files) graph) isBalanced before = .ok won between ∧
      finishCycle crates config io signingKey won between = .ok result after := by
  simp only [runCycleInner, observe, returns_bind, returns_ofExcept] at returned
  obtain ⟨_, started, opening, signingKey, _, ⟨key, rfl⟩, isBalanced, _, ⟨_, _, watching, observed, rfl⟩, graph, _,
    ⟨built, rfl⟩, _, before, proposing, won, between, tried, finished⟩ := returned
  simp only [recordStage, returns_modify] at watching proposing
  rw [openCycleLedger, returns_ofPair] at opening
  split at opening
  next opened done =>
    cases opening
    refine ⟨signingKey, isBalanced, graph, opened, before, won, between, key, observed, built, done, ?_, tried, finished⟩
    rw [← proposing, ← watching, observed]
    rfl
  next => cases opening

theorem runCycle_unpromoted (before : Installation) :
    Unpromoted crates (cycleStart before) (cycleStart (runCycle crates config io before).2) := by
  have moved := moves_runCycleInner crates config io before.files (cycleStart before)
  rw [← toPair_left] at moved
  exact ⟨moved.links, moved.ledger⟩

theorem runCycle_returns {before : Installation} {result : RsiCycleResult}
    (returned : (runCycle crates config io before).1 = .ok result) :
    result.generation = none ∧ result.ratification = none ∧ result.success = result.proposal.isNone := by
  obtain ⟨_, _, _, _, _, won, _, -, -, -, -, -, tried, finished⟩ :=
    runCycleInner_returns (toPair_ok.mp (Prod.ext returned rfl))
  obtain ⟨proposal, -, generation, ratification, success⟩ :=
    finishCycle_returns (tryCandidates_version crates config io tried) finished
  rw [success, proposal]
  exact ⟨generation, ratification, by cases won <;> rfl⟩

variable (crates)

/-- The winner of a cycle is the first candidate that nothing refused: from the opened ledger on, those before it end
without a winner. It passed the gates, the build and the invariants, the judge admitted it, and its receipt stands in the
ledger behind the cycle. -/
theorem winner_on_record (config : RsiConfig) (io : CycleIo) (before : Installation) (result : RsiCycleResult)
    (candidate : Candidate) (returned : (runCycle crates config io before).1 = .ok result)
    (proposed : result.proposal = some candidate) :
    ∃ signingKey isBalanced graph opened front candidateIo rest left staged winner between,
      cycleKey crates config io = .ok signingKey ∧ io.observed = .ok isBalanced ∧
      buildCapabilityGraph crates.display (cycleMeasurements crates config io before.files) = .ok graph ∧
      openLedger crates.ledger io.opening before.ledger = .ok opened ∧
      io.candidates = front ++ (candidate, candidateIo) :: rest ∧
      winner.candidate = candidate ∧ result.receipt = some winner.receipt ∧
      evaluateCandidates crates config signingKey io.cycleId io.repo
        (diagnosisMeasured crates (cycleMeasurements crates config io before.files) graph) isBalanced front
        (candidatesStart io opened (cycleStart before).toLoopState) = (.ok none, left) ∧
      evaluateCandidate crates config candidateIo candidate signingKey io.cycleId io.repo
        (diagnosisMeasured crates (cycleMeasurements crates config io before.files) graph) isBalanced left =
          .ok winner between ∧
      @Won _ crates config candidateIo signingKey io.cycleId io.repo
        (diagnosisMeasured crates (cycleMeasurements crates config io before.files) graph) isBalanced staged winner between ∧
      WellPinned crates config between ∧
      @OnRecord _ crates (runCycle crates config io before).2.ledger winner.receipt winner.block := by
  obtain ⟨signingKey, isBalanced, graph, opened, start, won, between, key, observed, built, opening, started, tried,
    finished⟩ := runCycleInner_returns (toPair_ok.mp (Prod.ext returned rfl))
  have version := tryCandidates_version crates config io tried
  have later := (moves_finishCycle crates config io version).returned finished
  obtain ⟨proposal, receipt, -⟩ := finishCycle_returns version finished
  rw [proposed] at proposal
  obtain ⟨winner, rfl, rfl⟩ := Option.map_eq_some_iff.mp proposal.symm
  have unpinned : start.pinned = none := congrArg LoopState.pinned started
  obtain ⟨front, candidateIo, rest, left, parts, refused, last, staged, won⟩ := tryCandidates_won tried
  rw [started] at refused
  exact ⟨signingKey, isBalanced, graph, opened, front, candidateIo, rest, left, staged, winner, between.toLoopState, key,
    observed, built, opening, parts, rfl, receipt, refused, last, won, tryCandidates_pinned crates config io unpinned tried,
    won.recorded.later later.ledger.extended⟩

end Cycle

section Sample

def sampleEcdsa : Ecdsa := Ecdsa.single 0 0 [] []

instance : DecidableEq sampleEcdsa.VerifyingKey := inferInstanceAs (DecidableEq Nat)

def sampleCycleCrates : CycleCrates sampleEcdsa where
  ledger := standardCrates
  logs := standardLogCrates
  samples := standardSampleCrates
  judge := Actor.plainDebug
  gate := Actor.gateCrates sampleEcdsa (0 : Nat)
  stage := plainText
  display := emptyDisplay
  rounding := .none
  fromToml _ := .error "unexpected character"
  workloadFromJson _ := .error "EOF while parsing a value at line 1 column 0"
  receiptToJson _ := .ok "\x7b\x7d"
  debugKind _ := "Documentation"
  utf8Error _ := "invalid utf-8 sequence"
  signingKeyFromSlice _ := .ok (0 : Nat)
  verifyingKey key := key

def sampleRsiConfig : RsiConfig where
  repoRoot := Actor.parentDir
  rsiRoot := ".rsi"
  sandboxRoot := Actor.candidateDir
  requireLatencyImprovement := false
  ratifyRoots := ["README.md"]
  operatorKeyHex := none
  signingKeyHex := some "00"
  canaryExemptKinds := [.documentation]
  canaryTarget := 1000
  canaryWorkloadSha256 := none
  canaryWorkloadPath := none
  judgePublicKeyHex := none
  judgePolicyFile := none
  measureMinSamples := 5
  measureWindowCycles := 20
  measureP95MinSamples := 20
  noErrors := { exceeded := fun errors _ => errors > 0, report := fun _ _ => "Error budget exceeded" }
  sharedSecret := "secret-key"

def sampleCandidate : Candidate where
  targetFile := "README.md"
  proposedPatch := "hi"
  kind := .documentation
  operatorSignature := none
  id := Actor.text "prop-1" (by decide)

def climbingCandidate : Candidate := { sampleCandidate with targetFile := "../README.md" }

def sampleCandidateIo : CandidateIo where
  refusal := { Io.calm "2026-01-02T00:00:00+00:00" with queryFault := some "database is locked" }
  eligibility := Io.calm "2026-01-02T00:00:00+00:00"
  missing := Io.calm "2026-01-02T00:00:00+00:00"
  evaluation := Io.calm "2026-01-02T00:00:01+00:00"
  stage := calmIo
  adapterFault := none
  workloadFile := .error "No such file or directory (os error 2)"
  builtExists := false
  removed := none
  build := .error "No such file or directory (os error 2)"
  buildUs := 0
  builtIsFile := false
  invariants := { passed := true, notes := [], compilationError := none, testOutputSummary := none }
  trees := Actor.workflowTrees
  around := Actor.quietSurroundings [0x6F]
  evaluationUs := 40

def sampleWinnerIo : WinnerIo where
  stageFault := none
  stagedTimestamp := "2026-01-02T00:00:02+00:00"
  admission := sampleAdmitIo
  envelope := .ok ()
  onDisk := .ok (utf8 "hi")
  tail := { sampleTail none with ratified := .error "fatal: not a git repository" }
  canaryUs := 50
  commitUs := 0

def sampleCycle (cycleId : Text) : CycleIo where
  cycleId
  ctx := sampleContext
  opening := Io.calm "2026-01-02T00:00:00+00:00"
  holdoutsDir := ".rsi/holdouts"
  holdoutsExist := true
  hexError := "Odd number of digits"
  observed := .ok true
  observeUs := 7
  samplesFault := none
  repo := Actor.parentTree
  candidates := [(climbingCandidate, sampleCandidateIo), (sampleCandidate, sampleCandidateIo)]
  proposeUs := 3
  proposeOutcome := .ok
  winner := sampleWinnerIo
  recordedAt := "2026-01-02T00:00:06+00:00"
  samplesStop := none

def sampleInstallation : Installation where
  ledger :=
    { blocks :=
        { rows := [BlockRow.ofBlock standardCrates
            { sequence := 0, timestampUtc := "2026-01-01T00:00:00+00:00", prevBlockHash := LedgerBlock.genesisPrevHash
              blockType := .genesis, payloadJson := "", payloadDigest := "", blobHashes := [], blockHash := "" }]
          ordered := List.pairwise_singleton _ _
          unique := List.nodup_singleton _ }
      checkpoints := KeyedTable.empty
      blobStore := fun _ => none }
  links := { active := [], activeSocket := [] }
  files := { completeFile := none, partialFile := none }

theorem sample_won : ((runCycle sampleCycleCrates sampleRsiConfig (sampleCycle Actor.workflow)
    sampleInstallation).1.toOption.bind RsiCycleResult.proposal).map (·.targetFile) = some "README.md" := by
  decide +kernel

theorem winner_on_record_readme : ∃ result receipt block after,
    runCycle sampleCycleCrates sampleRsiConfig (sampleCycle Actor.workflow) sampleInstallation = (.ok result, after) ∧
      result.proposal.map (·.targetFile) = some "README.md" ∧ result.receipt = some receipt ∧ receipt.admitted = true ∧
      @OnRecord _ sampleCycleCrates after.ledger receipt block := by
  have readme := sample_won
  have on_record := winner_on_record sampleCycleCrates sampleRsiConfig (sampleCycle Actor.workflow) sampleInstallation
  generalize runCycle sampleCycleCrates sampleRsiConfig (sampleCycle Actor.workflow) sampleInstallation = outcome
    at readme on_record ⊢
  obtain ⟨returned, after⟩ := outcome
  cases returned with
  | error e => cases readme
  | ok result =>
    change result.proposal.map _ = _ at readme
    obtain ⟨candidate, proposed, -⟩ := Option.map_eq_some_iff.mp readme
    obtain ⟨_, _, _, _, _, _, _, _, _, winner, _, -, -, -, -, -, -, receipt, -, -, won, -, recorded⟩ :=
      on_record result candidate rfl proposed
    exact ⟨result, winner.receipt, winner.block, after, rfl, readme, receipt, won.admitted, recorded⟩

end Sample

end SparkRsi.Cycle
