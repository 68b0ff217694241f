import SparkRsi.Shared.OrderStatistics
import SparkRsi.Soak.Variations

set_option autoImplicit false

namespace SparkRsi.Soak

open Shared Shared.Passes Ledger SparkRsi.Cycle SparkRsi.Measure Propose Governance SparkRsi.Graph
open Actor (PathBuf Tree)
open Evaluator (EvaluationReceipt F64)

section Selection

def CycleCandidateRecord.delta (record : CycleCandidateRecord) : Float64 := ⟨record.primaryMetricValue.bits⟩

def CycleRecord.admitted (record : CycleRecord) : List CycleCandidateRecord :=
  record.candidates.filter CycleCandidateRecord.judgeAdmitted

/-- The first record with the lowest latency, where all of them are numbers. -/
def Best (records : List CycleCandidateRecord) (winner : CycleCandidateRecord) : Prop :=
  winner ∈ records ∧ ((∀ record ∈ records, ¬record.delta.isNaN) →
    ∃ front rest, records = front ++ winner :: rest ∧ (∀ record ∈ front, winner.delta.less record.delta) ∧
      ∀ record ∈ records, winner.delta.atMost record.delta)

theorem compareDeltas_total (a b : Admissible) : compareDeltas a b ≠ .gt ∨ compareDeltas b a ≠ .gt := by
  simp only [compareDeltas, partialCmp, or_comm (a := b.delta.isNaN)]
  split
  next => exact .inl nofun
  next =>
    simp only [Option.getD_some, ne_eq, compare_gt_iff_gt]
    omega

theorem compareDeltas_numbers {a b : Admissible} (here : ¬a.delta.isNaN) (there : ¬b.delta.isNaN) :
    compareDeltas a b ≠ .gt ↔ a.delta.rank ≤ b.delta.rank := by
  simp only [compareDeltas, partialCmp, here, there, or_self, if_false, Option.getD_some, ne_eq, compare_gt_iff_gt]
  omega

variable {ecdsa : Ecdsa} (crates : CycleCrates ecdsa)

structure Matches (record : CycleCandidateRecord) (admissible : Admissible) : Prop where
  id : record.candidateId = admissible.candidate.id.value
  delta : record.delta = admissible.delta
  hash : record.ledgerBlockHash = some admissible.block.blockHash
  digest : record.proposedPatchDigest = patchDigest crates admissible.candidate

theorem selectWinner_none {admissible : List Admissible} : selectWinner admissible = none ↔ admissible = [] := by
  rw [selectWinner, List.head?_eq_none_iff, ← List.length_eq_zero_iff, List.length_insertionSort,
    List.length_eq_zero_iff]

def Paired (records : List CycleCandidateRecord) (admissible : List Admissible) : Prop :=
  ∃ pairs : List (CycleCandidateRecord × Admissible), records = pairs.map Prod.fst ∧ admissible = pairs.map Prod.snd ∧
    ∀ pair ∈ pairs, Matches crates pair.1 pair.2

variable {crates}

theorem Paired.append {records more : List CycleCandidateRecord} {admissible others : List Admissible}
    (first : Paired crates records admissible) (second : Paired crates more others) :
    Paired crates (records ++ more) (admissible ++ others) := by
  obtain ⟨pairs, rfl, rfl, matched⟩ := first
  obtain ⟨rest, rfl, rfl, there⟩ := second
  exact ⟨pairs ++ rest, List.map_append.symm, List.map_append.symm, List.forall_mem_append.mpr ⟨matched, there⟩⟩

theorem compareDeltas_le {pairs : List (CycleCandidateRecord × Admissible)}
    (matched : ∀ pair ∈ pairs, Matches crates pair.1 pair.2) (numbers : ∀ pair ∈ pairs, ¬pair.1.delta.isNaN) :
    ∀ a ∈ pairs, ∀ b ∈ pairs, compareDeltas a.2 b.2 ≠ .gt ↔ a.1.delta.rank ≤ b.1.delta.rank := by
  intro a inA b inB
  have here := (matched a inA).delta ▸ numbers a inA
  have there := (matched b inB).delta ▸ numbers b inB
  rw [compareDeltas_numbers here there, (matched a inA).delta, (matched b inB).delta]

theorem selectWinner_best {records : List CycleCandidateRecord} {admissible : List Admissible} {winner : Admissible}
    (paired : Paired crates records admissible) (selected : selectWinner admissible = some winner) :
    ∃ record, Matches crates record winner ∧ Best records record := by
  obtain ⟨pairs, rfl, rfl, matched⟩ := paired
  by_cases numbers : ∀ record ∈ pairs.map Prod.fst, ¬record.delta.isNaN
  next =>
    rw [List.forall_mem_map] at numbers
    have least := compareDeltas_le matched numbers
    obtain ⟨front, rest, parts, before, below⟩ := OrderStatistics.head_insertionSort compareDeltas_total (by
      simp only [List.forall_mem_map]
      intro a inA b inB c inC
      rw [least a inA b inB, least b inB c inC, least a inA c inC]
      exact le_trans) selected
    obtain ⟨early, late, rfl, rfl, split⟩ := List.map_eq_append_iff.mp parts
    obtain ⟨pair, tail, rfl, rfl, rfl⟩ := List.map_eq_cons_iff.mp split
    have member : pair ∈ early ++ pair :: tail := by simp
    refine ⟨pair.1, matched pair member, List.mem_map_of_mem member, fun _ => ?_⟩
    refine ⟨early.map Prod.fst, tail.map Prod.fst, by rw [List.map_append, List.map_cons], ?_, ?_⟩
    next =>
      simp only [List.forall_mem_map] at before ⊢
      intro other inside
      have there : other ∈ early ++ pair :: tail := List.mem_append_left _ inside
      have above := mt (least other there pair member).mpr (before other inside)
      exact ⟨numbers pair member, numbers other there, not_le.mp above⟩
    next =>
      simp only [List.forall_mem_map] at below ⊢
      intro other inside
      exact ⟨numbers pair member, numbers other inside, (least pair member other inside).mp (below other inside)⟩
  next =>
    have member := (List.mem_insertionSort _).mp (List.mem_of_head? selected)
    obtain ⟨pair, inside, rfl⟩ := List.mem_map.mp member
    exact ⟨pair.1, matched pair inside, List.mem_map_of_mem inside, fun all => absurd all numbers⟩

end Selection

section Cycles

variable {ecdsa : Ecdsa} {crates : CycleCrates ecdsa} {text : SoakText} {config : SoakConfig} {io : BatchIo}
  {signingKey : ecdsa.SigningKey} {cycleId : Text} {nodeName : String} {cycle : SoakCycleIo} {isBalanced : Bool}
  {s after : BatchState}

/-- What variations leave alone: all that earlier cycles did. -/
structure Within (s after : BatchState) : Prop where
  tracker : after.tracker = s.tracker
  cycles : after.cycles = s.cycles
  admittedCandidates : after.admittedCandidates = s.admittedCandidates
  totalCandidatesAdmitted : after.totalCandidatesAdmitted = s.totalCandidatesAdmitted

theorem Within.trans {between : BatchState} (first : Within s between) (second : Within between after) :
    Within s after :=
  ⟨second.tracker.trans first.tracker, second.cycles.trans first.cycles,
    second.admittedCandidates.trans first.admittedCandidates,
    second.totalCandidatesAdmitted.trans first.totalCandidatesAdmitted⟩

structure Pushed (crates : CycleCrates ecdsa) (cycleId : Text) (s after : BatchState)
    (records : List CycleCandidateRecord) : Prop extends Within s after where
  ledger : Grows crates.ledger ecdsa s.ledger after.ledger
  candidates : after.candidates = s.candidates ++ records
  evaluated : after.totalCandidatesEvaluated = s.totalCandidatesEvaluated + records.length
  won : ∃ won, Paired crates (records.filter CycleCandidateRecord.judgeAdmitted) won ∧
    after.admissible = s.admissible ++ won
  vetted : ∀ record ∈ records, Vetted crates after.ledger record
  named : ∀ record ∈ records, record.candidateId = (soakCandidateId cycleId record.candidateIndex).value

theorem Pushed.nil : Pushed crates cycleId s s [] where
  tracker := rfl
  cycles := rfl
  admittedCandidates := rfl
  totalCandidatesAdmitted := rfl
  ledger := .refl s.ledger
  candidates := (List.append_nil _).symm
  evaluated := rfl
  won := ⟨[], ⟨[], rfl, rfl, List.forall_mem_nil _⟩, (List.append_nil _).symm⟩
  vetted := List.forall_mem_nil _
  named := List.forall_mem_nil _

theorem Pushed.append {between : BatchState} {records more : List CycleCandidateRecord}
    (first : Pushed crates cycleId s between records) (second : Pushed crates cycleId between after more) :
    Pushed crates cycleId s after (records ++ more) := by
  obtain ⟨won, paired, here⟩ := first.won
  obtain ⟨others, rest, there⟩ := second.won
  exact
    { first.toWithin.trans second.toWithin with
      ledger := first.ledger.trans second.ledger
      candidates := by rw [second.candidates, first.candidates, List.append_assoc]
      evaluated := by rw [second.evaluated, first.evaluated, List.length_append, Nat.add_assoc]
      won := by
        refine ⟨won ++ others, ?_, by rw [there, here, List.append_assoc]⟩
        rw [List.filter_append]
        exact paired.append rest
      vetted := by
        refine List.forall_mem_append.mpr ⟨fun record member => ?_, second.vetted⟩
        exact (first.vetted record member).later second.ledger.extends
      named := List.forall_mem_append.mpr ⟨first.named, second.named⟩ }

theorem pushed_refused {ledger : ImprovementLedger} {record : CycleCandidateRecord}
    (grows : Grows crates.ledger ecdsa s.ledger ledger) (vetted : Vetted crates ledger record)
    (refused : record.judgeAdmitted = false)
    (named : record.candidateId = (soakCandidateId cycleId record.candidateIndex).value) :
    Pushed crates cycleId s ({ s with ledger }.push record) [record] where
  tracker := rfl
  cycles := rfl
  admittedCandidates := rfl
  totalCandidatesAdmitted := rfl
  ledger := grows
  candidates := rfl
  evaluated := rfl
  won := by
    refine ⟨[], ?_, (List.append_nil _).symm⟩
    rw [List.filter_cons_of_neg (by simp [refused])]
    exact ⟨[], rfl, rfl, List.forall_mem_nil _⟩
  vetted := List.forall_mem_singleton.mpr vetted
  named := List.forall_mem_singleton.mpr named

theorem pushed_admitted {ledger : ImprovementLedger} {record : CycleCandidateRecord} {judged : Admissible}
    (grows : Grows crates.ledger ecdsa s.ledger ledger) (vetted : Vetted crates ledger record)
    (admitted : record.judgeAdmitted = true) (matched : Matches crates record judged)
    (named : record.candidateId = (soakCandidateId cycleId record.candidateIndex).value) :
    Pushed crates cycleId s
      { ({ s with ledger }.push record) with admissible := s.admissible ++ [judged] } [record] where
  tracker := rfl
  cycles := rfl
  admittedCandidates := rfl
  totalCandidatesAdmitted := rfl
  ledger := grows
  candidates := rfl
  evaluated := rfl
  won := by
    refine ⟨[judged], ?_, rfl⟩
    rw [List.filter_cons_of_pos admitted]
    exact ⟨[(record, judged)], rfl, rfl, List.forall_mem_singleton.mpr matched⟩
  vetted := List.forall_mem_singleton.mpr vetted
  named := List.forall_mem_singleton.mpr named

theorem tryVariation_pushed {index : Nat}
    (returned : tryVariation crates config signingKey cycleId nodeName cycle isBalanced index s = .ok () after) :
    ∃ record, record.candidateIndex = index ∧ Pushed crates cycleId s after [record] := by
  rw [tryVariation, returns_ofPair] at returned
  dsimp only at returned
  split at returned
  next =>
    cases returned
    exact ⟨_, rfl, pushed_refused (.refl s.ledger) unproposedRecord_vetted rfl rfl⟩
  next proposal _ =>
    have moved := moves_evaluateVariation crates config (cycle.variation index)
      { proposal with id := soakCandidateId cycleId index } index signingKey cycleId cycle.repo isBalanced s.ledger
    split at returned
    next judged ledger ended =>
      rw [ended] at moved
      obtain ⟨same, named, recorded⟩ := evaluateVariation_returns ended
      have vetted := @judgedRecord_vetted ecdsa crates _ index _ _ _ named recorded
      by_cases admitted : judged.receipt.admitted = true
      next =>
        rw [if_pos admitted] at returned
        cases returned
        refine ⟨_, rfl, pushed_admitted moved vetted admitted ?_ rfl⟩
        exact ⟨by rw [same]; rfl, rfl, rfl, by rw [same]; rfl⟩
      next =>
        rw [if_neg admitted] at returned
        cases returned
        exact ⟨_, rfl, pushed_refused moved vetted (Bool.eq_false_iff.mpr admitted) rfl⟩
    next record ledger ended =>
      cases returned
      rw [ended] at moved
      obtain ⟨compilationPassed, invariantsPassed, reason, built, rfl⟩ := throws_evaluateVariation _ _ _ _ _ _ _ ended
      exact ⟨_, rfl, pushed_refused moved (rejectedRecord_vetted built) rfl rfl⟩
    next => cases returned

theorem tryVariations_pushed {indexes : List Nat}
    (returned : tryVariations crates config signingKey cycleId nodeName cycle isBalanced indexes s = .ok () after) :
    ∃ records, records.map CycleCandidateRecord.candidateIndex = indexes ∧ Pushed crates cycleId s after records := by
  induction indexes generalizing s with
  | nil =>
    obtain ⟨-, rfl⟩ := returns_pure.mp returned
    exact ⟨[], rfl, .nil⟩
  | cons index rest ih =>
    obtain ⟨⟨⟩, between, first, returned⟩ := returns_bind.mp returned
    obtain ⟨record, here, pushed⟩ := tryVariation_pushed first
    obtain ⟨records, there, others⟩ := ih returned
    exact ⟨[record] ++ records, by rw [List.singleton_append, List.map_cons, here, there], pushed.append others⟩

theorem orFail_returns {α : Type} {result : Except String α} {a : α} :
    orFail result s = .ok a after ↔ result = .ok a ∧ s = after := by
  rw [orFail, returns_ofExcept, mapError_eq_ok]

theorem runSoakCycle_returns {files : SampleFiles} {index : Nat}
    (returned : runSoakCycle crates text config io signingKey files index s = .ok () after) :
    ∃ isBalanced ranking rank tried won chosen, soakRanking crates config io files index = .ok ranking ∧
      chooseRank crates s.tracker ranking = some rank ∧
      tryVariations crates config signingKey (soakCycleId io.runId index) rank.nodeName (io.cycle index) isBalanced
        (List.range' 1 config.candidatesPerCycle) s = .ok () tried ∧
      selectAdmissible crates text config rank tried = .ok won chosen ∧
      closeSoakCycle crates text signingKey (soakCycleId io.runId index) index (io.cycle index) rank won chosen =
        .ok () after := by
  simp only [runSoakCycle, returns_bind, orFail_returns] at returned
  obtain ⟨isBalanced, _, ⟨-, rfl⟩, graph, _, ⟨built, rfl⟩, _, _, seen, returned⟩ := returned
  obtain ⟨rfl, rfl⟩ := returns_get.mp seen
  have ranking : soakRanking crates config io files index = .ok (rankedBottlenecks crates graph) := by
    rw [soakRanking, built]
    rfl
  cases choice : chooseRank crates s.tracker (rankedBottlenecks crates graph) with
  | none =>
    rw [choice] at returned
    exact absurd returned returns_throw
  | some rank =>
    simp only [choice, returns_bind] at returned
    obtain ⟨⟨⟩, tried, trying, won, chosen, selecting, closing⟩ := returned
    exact ⟨isBalanced, _, rank, tried, won, chosen, ranking, choice, trying, selecting, closing⟩

theorem selectAdmissible_returns {rank : BottleneckRank} {won : Option String}
    (returned : selectAdmissible crates text config rank s = .ok won after) :
    let problem := hypothesisProblem (bottleneckOf rank)
    (selectWinner s.admissible = none ∧ won = none ∧
        ((s.tracker.recordFailure crates.ledger.sha rank.nodeName problem).2 && !isCharBoundary problem.toList 20) = false ∧
        after = { s with tracker := (s.tracker.recordFailure crates.ledger.sha rank.nodeName problem).1 }) ∨
      ∃ winner, selectWinner s.admissible = some winner ∧ won = some winner.candidate.id.value ∧
        after = { s with
          tracker := s.tracker.recordSuccess crates.ledger.sha rank.nodeName problem
          totalCandidatesAdmitted := s.totalCandidatesAdmitted + 1
          admittedCandidates := s.admittedCandidates ++ [admittedCandidate crates text config rank winner] } := by
  rw [selectAdmissible, get_bind] at returned
  cases selected : selectWinner s.admissible with
  | none =>
    simp only [selected, recordVain, returns_ofPair] at returned
    split at returned
    next => cases returned
    next whole =>
      cases returned
      exact .inl ⟨rfl, rfl, Bool.eq_false_iff.mpr whole, rfl⟩
  | some winner =>
    simp only [selected, recordWinner, returns_bind, returns_modify, returns_pure] at returned
    obtain ⟨_, _, rfl, rfl, rfl⟩ := returned
    exact .inr ⟨winner, rfl, rfl, rfl⟩

/-- What the record of a cycle says of its variations and its winner. -/
structure CycleLaw (crates : CycleCrates ecdsa) (config : SoakConfig) (runId : String) (ledger : ImprovementLedger)
    (index : Nat) (record : CycleRecord) : Prop where
  numbered : record.cycleIndex = index
  cycle : record.cycleId = (soakCycleId runId index).value
  tried : record.candidates.map CycleCandidateRecord.candidateIndex = List.range' 1 config.candidatesPerCycle
  named : ∀ r ∈ record.candidates,
    r.candidateId = (soakCandidateId (soakCycleId runId index) r.candidateIndex).value
  vetted : ∀ r ∈ record.candidates, Vetted crates ledger r
  unwon : record.winningCandidateId = none ↔ record.admitted = []
  won : ∀ id ∈ record.winningCandidateId, ∃ winner, winner.candidateId = id ∧ Best record.admitted winner

theorem CycleLaw.later {before later : ImprovementLedger} {runId : String} {index : Nat} {record : CycleRecord}
    (law : CycleLaw crates config runId before index record) (extended : Extends before later) :
    CycleLaw crates config runId later index record :=
  { law with vetted := fun r member => (law.vetted r member).later extended }

def Backs (record : CycleRecord) (admitted : AdmittedMetaCandidate) : Prop :=
  record.winningCandidateId = some admitted.candidateId ∧ ∃ winner ∈ record.admitted,
    winner.candidateId = admitted.candidateId ∧ winner.ledgerBlockHash = some admitted.ledgerBlockHash ∧
      winner.proposedPatchDigest = admitted.patchDigest

/-- What holds of the state between two cycles. -/
structure BatchLaw (crates : CycleCrates ecdsa) (config : SoakConfig) (runId : String) (s : BatchState) : Prop where
  candidates : s.candidates = []
  admissible : s.admissible = []
  cycles : List.Forall₂ (CycleLaw crates config runId s.ledger) (List.range' 1 s.cycles.length) s.cycles
  evaluated : s.totalCandidatesEvaluated = s.cycles.length * config.candidatesPerCycle
  admitted : s.totalCandidatesAdmitted = s.admittedCandidates.length
  winners : s.admittedCandidates.map AdmittedMetaCandidate.candidateId =
    s.cycles.filterMap CycleRecord.winningCandidateId
  backed : ∀ admitted ∈ s.admittedCandidates, ∃ record ∈ s.cycles, Backs record admitted

theorem batchStart_law {runId : String} {ledger : ImprovementLedger} :
    BatchLaw crates config runId (batchStart ledger) where
  candidates := rfl
  admissible := rfl
  cycles := .nil
  evaluated := (Nat.zero_mul _).symm
  admitted := rfl
  winners := rfl
  backed := List.forall_mem_nil _

theorem cycleRecord_law {runId : String} {ledger : ImprovementLedger} {index : Nat} {rank : BottleneckRank}
    {records : List CycleCandidateRecord} {winningCandidateId merkleCheckpointHash : Option String}
    (pushed : Pushed crates (soakCycleId runId index) s after records) (closed : Grows crates.ledger ecdsa after.ledger ledger)
    (indexes : records.map CycleCandidateRecord.candidateIndex = List.range' 1 config.candidatesPerCycle)
    (unwon : winningCandidateId = none ↔ records.filter CycleCandidateRecord.judgeAdmitted = [])
    (won : ∀ id ∈ winningCandidateId, ∃ winner, winner.candidateId = id ∧
      Best (records.filter CycleCandidateRecord.judgeAdmitted) winner) :
    CycleLaw crates config runId ledger index
      (cycleRecord text (soakCycleId runId index) index rank records winningCandidateId merkleCheckpointHash) where
  numbered := rfl
  cycle := rfl
  tried := indexes
  named := pushed.named
  vetted := fun r member => (pushed.vetted r member).later closed.extends
  unwon := unwon
  won := won

theorem BatchLaw.add {runId : String} {record : CycleRecord} {admitted : List AdmittedMetaCandidate}
    (law : BatchLaw crates config runId s)
    (cycle : CycleLaw crates config runId after.ledger (s.cycles.length + 1) record)
    (extended : Extends s.ledger after.ledger) (candidates : after.candidates = []) (admissible : after.admissible = [])
    (cycles : after.cycles = s.cycles ++ [record])
    (evaluated : after.totalCandidatesEvaluated = s.totalCandidatesEvaluated + config.candidatesPerCycle)
    (added : after.admittedCandidates = s.admittedCandidates ++ admitted)
    (counted : after.totalCandidatesAdmitted = s.totalCandidatesAdmitted + admitted.length)
    (winner : admitted.map AdmittedMetaCandidate.candidateId = record.winningCandidateId.toList)
    (backs : ∀ a ∈ admitted, Backs record a) : BatchLaw crates config runId after where
  candidates := candidates
  admissible := admissible
  cycles := by
    rw [cycles, List.length_append, List.length_singleton, List.range'_1_concat, Nat.add_comm 1]
    exact List.rel_append (law.cycles.imp fun _ _ cycle => cycle.later extended) (.cons cycle .nil)
  evaluated := by
    rw [evaluated, cycles, law.evaluated, List.length_append, List.length_singleton, Nat.succ_mul]
  admitted := by rw [counted, added, law.admitted, List.length_append]
  winners := by
    rw [added, cycles, List.map_append, List.filterMap_append, law.winners, winner, List.filterMap_cons,
      List.filterMap_nil]
    cases record.winningCandidateId <;> rfl
  backed := by
    rw [added, cycles]
    refine List.forall_mem_append.mpr ⟨fun a member => ?_, fun a member => ?_⟩
    next =>
      obtain ⟨earlier, inside, backed⟩ := law.backed a member
      exact ⟨earlier, List.mem_append_left _ inside, backed⟩
    next => exact ⟨record, List.mem_append_right _ List.mem_cons_self, backs a member⟩

structure Chosen (records : List CycleCandidateRecord) (won : Option String) (admitted : List AdmittedMetaCandidate)
    (s after : BatchState) : Prop where
  ledger : after.ledger = s.ledger
  candidates : after.candidates = s.candidates
  cycles : after.cycles = s.cycles
  evaluated : after.totalCandidatesEvaluated = s.totalCandidatesEvaluated
  added : after.admittedCandidates = s.admittedCandidates ++ admitted
  counted : after.totalCandidatesAdmitted = s.totalCandidatesAdmitted + admitted.length
  winner : admitted.map AdmittedMetaCandidate.candidateId = won.toList
  unwon : won = none ↔ records = []
  best : ∀ id ∈ won, ∃ record, record.candidateId = id ∧ Best records record
  backs : ∀ a ∈ admitted, won = some a.candidateId ∧ ∃ record ∈ records, record.candidateId = a.candidateId ∧
    record.ledgerBlockHash = some a.ledgerBlockHash ∧ record.proposedPatchDigest = a.patchDigest

theorem selectAdmissible_chosen {rank : BottleneckRank} {records : List CycleCandidateRecord} {won : Option String}
    (paired : Paired crates records s.admissible)
    (returned : selectAdmissible crates text config rank s = .ok won after) :
    ∃ admitted, Chosen records won admitted s after := by
  cases selectAdmissible_returns returned with
  | inl vain =>
    obtain ⟨unselected, rfl, -, rfl⟩ := vain
    obtain ⟨pairs, rfl, same, -⟩ := paired
    rw [selectWinner_none, same, List.map_eq_nil_iff] at unselected
    subst unselected
    refine ⟨[], rfl, rfl, rfl, rfl, (List.append_nil _).symm, rfl, rfl, iff_of_true rfl rfl, ?_, List.forall_mem_nil _⟩
    exact fun _ none_ => by cases none_
  | inr found =>
    obtain ⟨winner, selected, rfl, rfl⟩ := found
    obtain ⟨record, matched, best⟩ := selectWinner_best paired selected
    refine ⟨[admittedCandidate crates text config rank winner], rfl, rfl, rfl, rfl, rfl, rfl, rfl, ?_, ?_, ?_⟩
    next => exact iff_of_false (fun none_ => by cases none_) (List.ne_nil_of_mem best.1)
    next =>
      rintro _ ⟨⟩
      exact ⟨record, matched.id, best⟩
    next =>
      rw [List.forall_mem_singleton]
      exact ⟨rfl, record, best.1, matched.id, matched.hash, matched.digest⟩

theorem closeSoakCycle_returns {index : Nat} {rank : BottleneckRank} {won : Option String}
    (returned : closeSoakCycle crates text signingKey cycleId index cycle rank won s = .ok () after) :
    ∃ hash, after.cycles = s.cycles ++ [cycleRecord text cycleId index rank s.candidates won hash] ∧
      after.candidates = [] ∧ after.admissible = [] ∧ after.tracker = s.tracker ∧
      after.admittedCandidates = s.admittedCandidates ∧ after.totalCandidatesAdmitted = s.totalCandidatesAdmitted ∧
      after.totalCandidatesEvaluated = s.totalCandidatesEvaluated ∧
      Grows crates.ledger ecdsa s.ledger after.ledger := by
  obtain rfl := returns_modify.mp returned
  exact ⟨_, rfl, rfl, rfl, rfl, rfl, rfl, rfl, grows_checkpoint crates.ledger ecdsa _ _ _⟩

theorem runSoakCycle_law {files : SampleFiles} {index : Nat} (following : index = s.cycles.length + 1)
    (law : BatchLaw crates config io.runId s)
    (returned : runSoakCycle crates text config io signingKey files index s = .ok () after) :
    BatchLaw crates config io.runId after ∧ after.cycles.length = s.cycles.length + 1 := by
  subst following
  obtain ⟨isBalanced, ranking, rank, tried, won, chosen, -, -, trying, selecting, closing⟩ := runSoakCycle_returns returned
  obtain ⟨records, indexes, pushed⟩ := tryVariations_pushed trying
  obtain ⟨proposals, paired, held⟩ := pushed.won
  rw [law.admissible, List.nil_append] at held
  obtain ⟨admitted, choice⟩ := selectAdmissible_chosen (held ▸ paired) selecting
  obtain ⟨hash, cycles, candidates, admissible, -, listed, total, evaluated, closed⟩ := closeSoakCycle_returns closing
  have tried_records : chosen.candidates = records := by
    rw [choice.candidates, pushed.candidates, law.candidates, List.nil_append]
  rw [choice.cycles, pushed.cycles, tried_records] at cycles
  rw [choice.ledger] at closed
  have count : records.length = config.candidatesPerCycle := by
    rw [← List.length_map, indexes, List.length_range']
  refine ⟨@BatchLaw.add _ crates config s after io.runId _ admitted law
    (cycleRecord_law pushed closed indexes choice.unwon choice.best) (pushed.ledger.trans closed).extends candidates
    admissible cycles ?_ ?_ ?_ choice.winner choice.backs, by rw [cycles, List.length_append, List.length_singleton]⟩
  next => rw [evaluated, choice.evaluated, pushed.evaluated, count]
  next => rw [listed, choice.added, pushed.admittedCandidates]
  next => rw [total, choice.counted, pushed.totalCandidatesAdmitted]

theorem runSoakCycles_law {files : SampleFiles} {more : Nat} (law : BatchLaw crates config io.runId s)
    (returned : runSoakCycles crates text config io signingKey files (List.range' (s.cycles.length + 1) more) s =
      .ok () after) :
    BatchLaw crates config io.runId after ∧ after.cycles.length = s.cycles.length + more := by
  induction more generalizing s with
  | zero =>
    obtain ⟨-, rfl⟩ := returns_pure.mp returned
    exact ⟨law, rfl⟩
  | succ more ih =>
    rw [List.range'_succ] at returned
    obtain ⟨⟨⟩, between, first, later⟩ := returns_bind.mp returned
    obtain ⟨law, count⟩ := runSoakCycle_law rfl law first
    rw [← count] at later
    obtain ⟨law, total⟩ := ih law later
    exact ⟨law, by omega⟩

def Failed (ended : BatchEnd) : Prop := ∃ e, ended = .failed e

theorem throws_orFail {α : Type} (result : Except String α) : Throws Failed (orFail result) := by
  cases result with
  | error e => exact throws_throw ⟨e, rfl⟩
  | ok a => exact throws_pure a

theorem throws_tryVariations (indexes : List Nat) :
    Throws Failed (tryVariations crates config signingKey cycleId nodeName cycle isBalanced indexes) := by
  induction indexes with
  | nil => exact throws_pure _
  | cons index rest ih =>
    refine Throws.bind ?_ fun _ => ih
    refine throws_ofPair fun s ended after stopped => ?_
    dsimp only at stopped
    split at stopped
    next => cases stopped
    next =>
      split at stopped
      next => cases stopped
      next => cases stopped
      next =>
        cases stopped
        exact ⟨_, rfl⟩

theorem selectAdmissible_stops {rank : BottleneckRank} {ended : BatchEnd}
    (stopped : selectAdmissible crates text config rank s = .error ended after) :
    let problem := hypothesisProblem (bottleneckOf rank)
    ended = .panicked ∧ selectWinner s.admissible = none ∧
      ((s.tracker.recordFailure crates.ledger.sha rank.nodeName problem).2 && !isCharBoundary problem.toList 20) = true := by
  rw [selectAdmissible, get_bind] at stopped
  cases selected : selectWinner s.admissible with
  | none =>
    simp only [selected, recordVain, ofPair] at stopped
    split at stopped
    next => cases stopped
    next paired =>
      split at paired
      next cut =>
        cases paired
        cases stopped
        exact ⟨rfl, rfl, cut⟩
      next => cases paired
  | some winner =>
    simp only [selected, recordWinner, stops_bind] at stopped
    obtain ⟨⟨⟩⟩ | ⟨_, _, -, ⟨⟩⟩ := stopped

-- All stages are ranked, whatever was measured.
theorem chooseRank_ranked {graph : CapabilityGraph} {measurements : Stage → Option StageMeasurement}
    (built : buildCapabilityGraph crates.display measurements = .ok graph) (tracker : HypothesisQuarantineTracker) :
    (chooseRank crates tracker (rankedBottlenecks crates graph)).isSome = true := by
  obtain ⟨ranks, ranked, stages⟩ := pipeline_ranked built
  have ranking : rankedBottlenecks crates graph = ranks := by
    rw [rankedBottlenecks, ranked]
    rfl
  rw [chooseRank, ranking, Option.isSome_or]
  cases ranks with
  | nil => cases stages.length_eq
  | cons first rest => exact Bool.or_true _

theorem runSoakCycle_stops {files : SampleFiles} {index : Nat} {ended : BatchEnd}
    (stopped : runSoakCycle crates text config io signingKey files index s = .error ended after) :
    Failed ended ∨ ∃ isBalanced graph rank tried, chooseRank crates s.tracker (rankedBottlenecks crates graph) = some rank ∧
      tryVariations crates config signingKey (soakCycleId io.runId index) rank.nodeName (io.cycle index) isBalanced
        (List.range' 1 config.candidatesPerCycle) s = .ok () tried ∧
      selectAdmissible crates text config rank tried = .error ended after := by
  simp only [runSoakCycle, stops_bind, orFail_returns] at stopped
  obtain failed | ⟨isBalanced, _, ⟨-, rfl⟩, stopped⟩ := stopped
  next => exact .inl (throws_orFail _ _ _ _ failed)
  obtain failed | ⟨graph, _, ⟨built, rfl⟩, stopped⟩ := stopped
  next => exact .inl (throws_orFail _ _ _ _ failed)
  obtain ⟨⟨⟩⟩ | ⟨_, _, seen, stopped⟩ := stopped
  obtain ⟨rfl, rfl⟩ := returns_get.mp seen
  obtain ⟨rank, choice⟩ := Option.isSome_iff_exists.mp (chooseRank_ranked built s.tracker)
  simp only [choice, stops_bind] at stopped
  obtain failed | ⟨⟨⟩, tried, trying, stopped⟩ := stopped
  next => exact .inl (throws_tryVariations _ _ _ _ failed)
  obtain selecting | ⟨_, _, -, ⟨⟩⟩ := stopped
  exact .inr ⟨isBalanced, graph, rank, tried, choice, trying, selecting⟩

def Abrupt (ended : BatchEnd) : Prop := ended ≠ .noBottleneck

theorem throws_runSoakCycle (files : SampleFiles) (index : Nat) :
    Throws Abrupt (runSoakCycle crates text config io signingKey files index) := by
  intro s ended after stopped
  obtain ⟨e, rfl⟩ | ⟨_, _, _, _, -, -, selecting⟩ := runSoakCycle_stops stopped
  next => exact nofun
  next =>
    rw [(selectAdmissible_stops selecting).1]
    exact nofun

theorem throws_runSoakCycles (files : SampleFiles) (indexes : List Nat) :
    Throws Abrupt (runSoakCycles crates text config io signingKey files indexes) := by
  induction indexes with
  | nil => exact throws_pure _
  | cons index rest ih => exact (throws_runSoakCycle files index).bind fun _ => ih

end Cycles

section Batch

variable {ecdsa : Ecdsa} {crates : CycleCrates ecdsa} {text : SoakText} {config : SoakConfig} {io : BatchIo}
  {disk : SoakDisk}

instance : IsPreorder BatchState (fun before after => Grows crates.ledger ecdsa before.ledger after.ledger) where
  refl s := .refl s.ledger
  trans _ _ _ := Grows.trans

variable (crates) in
abbrev Growing (before after : BatchState) : Prop := Grows crates.ledger ecdsa before.ledger after.ledger

theorem moves_tryVariations {signingKey : ecdsa.SigningKey} {cycleId : Text} {nodeName : String} {cycle : SoakCycleIo}
    {isBalanced : Bool} (indexes : List Nat) :
    Moves (Growing crates) (tryVariations crates config signingKey cycleId nodeName cycle isBalanced indexes) := by
  induction indexes with
  | nil => exact moves_pure _
  | cons index rest ih =>
    refine Moves.bind (moves_ofPair fun s => ?_) fun _ => ih
    dsimp only
    split
    next => exact .refl s.ledger
    next proposal _ =>
      have moved := moves_evaluateVariation crates config (cycle.variation index)
        { proposal with id := soakCandidateId cycleId index } index signingKey cycleId cycle.repo isBalanced s.ledger
      split
      next ended =>
        rw [ended] at moved
        split
        next => exact moved
        next => exact moved
      next ended => rwa [ended] at moved
      next ended => rwa [ended] at moved

theorem moves_selectAdmissible (rank : BottleneckRank) :
    Moves (Growing crates) (selectAdmissible crates text config rank) := by
  refine moves_get.bind fun seen => ?_
  split
  next =>
    refine moves_ofPair fun s => ?_
    dsimp only
    split
    next => exact .refl s.ledger
    next => exact .refl s.ledger
  next =>
    refine Moves.bind (moves_modify fun s => ?_) fun _ => moves_pure _
    exact .refl s.ledger

theorem moves_runSoakCycle {signingKey : ecdsa.SigningKey} (files : SampleFiles) (index : Nat) :
    Moves (Growing crates) (runSoakCycle crates text config io signingKey files index) := by
  have closing {cycleId : Text} {rank : BottleneckRank} {won : Option String} :
      Moves (Growing crates) (closeSoakCycle crates text signingKey cycleId index (io.cycle index) rank won) :=
    moves_modify fun s => grows_checkpoint crates.ledger ecdsa _ _ _
  refine (moves_ofExcept _).bind fun isBalanced => ?_
  refine (moves_ofExcept _).bind fun graph => ?_
  refine moves_get.bind fun seen => ?_
  split
  next => exact moves_throw _
  next rank _ =>
    refine (moves_tryVariations _).bind fun _ => ?_
    exact (moves_selectAdmissible rank).bind fun won => closing

theorem moves_runSoakCycles {signingKey : ecdsa.SigningKey} (files : SampleFiles) (indexes : List Nat) :
    Moves (Growing crates) (runSoakCycles crates text config io signingKey files indexes) := by
  induction indexes with
  | nil => exact moves_pure _
  | cons index rest ih => exact (moves_runSoakCycle files index).bind fun _ => ih

theorem runPreflightChecks_stands (ledger : ImprovementLedger) :
    Stands crates.ledger ledger (runPreflightChecks crates config io ledger).2 := by
  unfold runPreflightChecks
  split
  next => exact refl_of (Stands crates.ledger) ledger
  next =>
    split
    next => exact refl_of (Stands crates.ledger) ledger
    next opened => exact openLedger_stands opened

/-- What a saved manifest tells of its batch. -/
structure ManifestLaw (crates : CycleCrates ecdsa) (config : SoakConfig) (ledger : ImprovementLedger)
    (manifest : SoakRunManifest) : Prop where
  complete : manifest.cycles.length = config.totalCycles
  cycles : List.Forall₂ (CycleLaw crates config manifest.runId ledger) (List.range' 1 manifest.cycles.length) manifest.cycles
  evaluated : manifest.totalCandidatesEvaluated = config.totalCycles * config.candidatesPerCycle
  admitted : manifest.totalCandidatesAdmitted = manifest.admittedCandidates.length
  winners : manifest.admittedCandidates.map AdmittedMetaCandidate.candidateId =
    manifest.cycles.filterMap CycleRecord.winningCandidateId
  backed : ∀ admitted ∈ manifest.admittedCandidates, ∃ record ∈ manifest.cycles, Backs record admitted

theorem ManifestLaw.later {before later : ImprovementLedger} {manifest : SoakRunManifest}
    (law : ManifestLaw crates config before manifest) (extended : Extends before later) :
    ManifestLaw crates config later manifest :=
  { law with cycles := law.cycles.imp fun _ _ cycle => cycle.later extended }

theorem finalManifest_law {s : BatchState} {ledger : ImprovementLedger} {finalMerkleCheckpoint : Option String}
    (law : BatchLaw crates config io.runId s) (complete : s.cycles.length = config.totalCycles)
    (extended : Extends s.ledger ledger) : ManifestLaw crates config ledger (finalManifest io s finalMerkleCheckpoint) where
  complete := complete
  cycles := law.cycles.imp fun _ _ cycle => cycle.later extended
  evaluated := law.evaluated.trans (by rw [complete])
  admitted := law.admitted
  winners := law.winners
  backed := law.backed

def Aborted (manifest : SoakRunManifest) : Prop :=
  manifest.preflightPassed = false ∧ manifest.cycles = [] ∧ manifest.admittedCandidates = []

/-- How a batch leaves the disk: it writes one file. -/
structure Finished (crates : CycleCrates ecdsa) (config : SoakConfig) (io : BatchIo) (disk : SoakDisk)
    (outcome : Except SoakFailure SoakRunManifest × SoakDisk) : Prop where
  ledger : Stands crates.ledger disk.ledger outcome.2.ledger
  others : ∀ path, path ≠ manifestPath crates config io → outcome.2.manifests path = disk.manifests path
  own : ∀ manifest, outcome.2.manifests (manifestPath crates config io) = some manifest →
    disk.manifests (manifestPath crates config io) = some manifest ∨
      manifest.runId = io.runId ∧ (Aborted manifest ∨ ManifestLaw crates config outcome.2.ledger manifest)
  returned : ∀ manifest, outcome.1 = .ok manifest →
    outcome.2.manifests (manifestPath crates config io) = some manifest ∧
      ManifestLaw crates config outcome.2.ledger manifest

theorem finished_unsaved {failure : SoakFailure} {ledger : ImprovementLedger}
    (stands : Stands crates.ledger disk.ledger ledger) :
    Finished crates config io disk (.error failure, { disk with ledger }) where
  ledger := stands
  others := fun _ _ => rfl
  own := fun _ held => .inl held
  returned := by rintro _ ⟨⟩

-- A manifest that tells what is so is saved, or its file keeps what it held or is emptied.
theorem finished_saved {ledger : ImprovementLedger} {manifest : SoakRunManifest}
    {result : Except SoakFailure SoakRunManifest} (stands : Stands crates.ledger disk.ledger ledger)
    (run : manifest.runId = io.runId) (tells : Aborted manifest ∨ ManifestLaw crates config ledger manifest)
    (returned : ∀ other, result = .ok other →
      io.saved = .ok () ∧ other = manifest ∧ ManifestLaw crates config ledger manifest) :
    Finished crates config io disk (result, save crates config io { disk with ledger } manifest) := by
  unfold save
  cases saved : io.saved with
  | ok done =>
    constructor
    case ledger => exact stands
    case others => exact fun path other => Function.update_of_ne other _ _
    case own =>
      intro held same
      simp only [Function.update_self, Option.some.injEq] at same
      subst same
      exact .inr ⟨run, tells⟩
    case returned =>
      intro other result
      obtain ⟨-, rfl, law⟩ := returned other result
      exact ⟨Function.update_self _ _ _, law⟩
  | error e =>
    have unreturned (other : SoakRunManifest) : result ≠ .ok other := by
      intro result
      rw [saved] at returned
      cases (returned other result).1
    dsimp only
    split
    next emptied =>
      constructor
      case ledger => exact stands
      case others => exact fun path other => Function.update_of_ne other _ _
      case own =>
        intro held same
        simp only [Function.update_self, reduceCtorEq] at same
      case returned => exact fun other result => absurd result (unreturned other)
    next =>
      constructor
      case ledger => exact stands
      case others => exact fun _ _ => rfl
      case own => exact fun _ held => .inl held
      case returned => exact fun other result => absurd result (unreturned other)

theorem finishBatch_finished {signingKey : ecdsa.SigningKey} {s : BatchState}
    (stands : Stands crates.ledger disk.ledger s.ledger) (law : BatchLaw crates config io.runId s)
    (complete : s.cycles.length = config.totalCycles) :
    Finished crates config io disk (finishBatch crates config io signingKey disk s) := by
  have closed := grows_checkpoint crates.ledger ecdsa io.checkpoint s.ledger (some signingKey)
  have later := trans_of (Stands crates.ledger) stands closed.stands
  unfold finishBatch
  dsimp only
  cases saved : io.saved with
  | error e => exact finished_saved later rfl (.inr (finalManifest_law law complete closed.extends)) nofun
  | ok done =>
    refine finished_saved later rfl (.inr (finalManifest_law law complete closed.extends)) fun other result => ?_
    cases result
    exact ⟨saved, rfl, finalManifest_law law complete closed.extends⟩

theorem runCyclesOf_finished {signingKey : ecdsa.SigningKey} {ledger : ImprovementLedger}
    (stands : Stands crates.ledger disk.ledger ledger) :
    Finished crates config io disk (runCyclesOf crates text config io signingKey disk ledger) := by
  have moved : Moves (Growing crates) (runSoakCycles crates text config io signingKey disk.files
      (List.range' 1 config.totalCycles)) := moves_runSoakCycles _ _
  have grown := moved (batchStart ledger)
  have start : BatchLaw crates config io.runId (batchStart ledger) := batchStart_law
  unfold runCyclesOf
  cases done : runSoakCycles crates text config io signingKey disk.files (List.range' 1 config.totalCycles)
      (batchStart ledger) with
  | ok u s =>
    rw [done] at grown
    obtain ⟨law, count⟩ := runSoakCycles_law start done
    exact finishBatch_finished (trans_of (Stands crates.ledger) stands grown.stands) law
      (count.trans (Nat.zero_add config.totalCycles))
  | error ended s =>
    rw [done] at grown
    have later := trans_of (Stands crates.ledger) stands grown.stands
    cases ended with
    | noBottleneck => cases throws_runSoakCycles _ _ _ _ _ done rfl
    | failed e => exact finished_unsaved later
    | panicked => exact finished_unsaved later

theorem runBatch_finished : Finished crates config io disk (runBatch crates text config io disk) := by
  unfold runBatch
  split
  next => exact finished_unsaved (refl_of (Stands crates.ledger) disk.ledger)
  next =>
    have checked := @runPreflightChecks_stands ecdsa crates config io disk.ledger
    split
    next ledger failed =>
      rw [failed] at checked
      exact finished_saved checked rfl (.inl ⟨rfl, rfl, rfl⟩) nofun
    next ledger passed =>
      rw [passed] at checked
      split
      next => exact finished_unsaved checked
      next opened => exact runCyclesOf_finished (trans_of (Stands crates.ledger) checked (openLedger_stands opened))

end Batch

end SparkRsi.Soak
