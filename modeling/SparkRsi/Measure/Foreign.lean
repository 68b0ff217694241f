import SparkRsi.Measure.Select
import Mathlib.Data.List.GetD
import Mathlib.Logic.Relation

set_option autoImplicit false

namespace SparkRsi.Measure

open Shared Shared.OrderStatistics SparkRsi.Graph

section Cycles

theorem distinctCycles_insert {seen : List String} (front back : List CycleSampleRecord)
    {r : CycleSampleRecord} (known : r.cycleId ∈ seen ∨ ∃ c ∈ front, c.cycleId = r.cycleId) :
    distinctCycles seen (front ++ r :: back) = distinctCycles seen (front ++ back) := by
  induction front generalizing seen with
  | nil =>
    have here : r.cycleId ∈ seen := by simpa using known
    rw [List.nil_append, List.nil_append, distinctCycles, if_pos here]
  | cons c front ih =>
    rw [List.cons_append, List.cons_append, distinctCycles, distinctCycles]
    split
    next old =>
      apply ih
      rcases known with here | ⟨d, member, same⟩
      · exact Or.inl here
      · cases List.mem_cons.mp member with
        | inl head => exact Or.inl (same ▸ head ▸ old)
        | inr later => exact Or.inr ⟨d, later, same⟩
    next new =>
      congr 1
      apply ih
      rcases known with here | ⟨d, member, same⟩
      · exact Or.inl (List.mem_cons_of_mem _ here)
      · cases List.mem_cons.mp member with
        | inl head => exact Or.inl (by simp [← same, head])
        | inr later => exact Or.inr ⟨d, later, same⟩

variable (currentCycleId : String) (ctx : MeasureContext)

def Compatible (r : CycleSampleRecord) : Prop :=
  r.cycleId ≠ currentCycleId ∧ r.workloadKey = ctx.workloadKey ∧ r.executionProfileFingerprint = ctx.fingerprint

inductive Harmless : List CycleSampleRecord → List CycleSampleRecord → Prop
  | foreign (front back : List CycleSampleRecord) (r : CycleSampleRecord) (other : ¬Compatible currentCycleId ctx r) :
      Harmless (front ++ back) (front ++ r :: back)
  | duplicate (front back : List CycleSampleRecord) (r c : CycleSampleRecord) (present : c ∈ front)
      (first : Compatible currentCycleId ctx c) (same : c.cycleId = r.cycleId) :
      Harmless (front ++ back) (front ++ r :: back)

instance (r : CycleSampleRecord) : Decidable (Compatible currentCycleId ctx r) :=
  inferInstanceAs (Decidable (_ ∧ _ ∧ _))

theorem compatible_eq (records : List CycleSampleRecord) :
    compatible currentCycleId ctx records =
      distinctCycles [] (records.filter fun r => decide (Compatible currentCycleId ctx r)) := by
  rw [compatible, List.filter_filter, List.filter_filter]
  congr 1
  apply List.filter_congr
  intro r _
  rw [Bool.eq_iff_iff, decide_eq_true_iff, Compatible]
  simp only [Bool.and_eq_true, decide_eq_true_eq]
  tauto

theorem compatible_harmless {records records' : List CycleSampleRecord}
    (harmless : Harmless currentCycleId ctx records records') :
    compatible currentCycleId ctx records' = compatible currentCycleId ctx records := by
  rw [compatible_eq, compatible_eq]
  cases harmless with
  | foreign front back r other =>
    rw [List.filter_append, List.filter_cons, if_neg (by simpa using other), ← List.filter_append]
  | duplicate front back r c present first same =>
    rw [List.filter_append, List.filter_cons, List.filter_append]
    split
    next =>
      apply distinctCycles_insert
      exact Or.inr ⟨c, List.mem_filter.mpr ⟨present, decide_eq_true first⟩, same⟩
    next => rfl

-- The records that are kept: the first of every compatible cycle.
theorem distinctCycles_spec (seen : List String) (records : List CycleSampleRecord) :
    (distinctCycles seen records).Sublist records ∧
      ((distinctCycles seen records).map CycleSampleRecord.cycleId).Nodup ∧
      (∀ r ∈ distinctCycles seen records, r.cycleId ∉ seen) ∧
      ∀ r ∈ records, r.cycleId ∈ seen ∨ ∃ c ∈ distinctCycles seen records, c.cycleId = r.cycleId := by
  induction records generalizing seen with
  | nil => simp [distinctCycles]
  | cons r rest ih =>
    rw [distinctCycles]
    split
    next old =>
      obtain ⟨sublist, distinct, fresh, covered⟩ := ih seen
      exact ⟨sublist.cons r, distinct, fresh, List.forall_mem_cons.mpr ⟨Or.inl old, covered⟩⟩
    next new =>
      obtain ⟨sublist, distinct, fresh, covered⟩ := ih (r.cycleId :: seen)
      refine ⟨sublist.cons_cons r, ?_, ?_, ?_⟩
      next =>
        rw [List.map_cons, List.nodup_cons]
        refine ⟨?_, distinct⟩
        intro again
        obtain ⟨c, member, same⟩ := List.mem_map.mp again
        exact fresh c member (same ▸ List.mem_cons_self)
      next =>
        rw [List.forall_mem_cons]
        exact ⟨new, fun c member known => fresh c member (List.mem_cons_of_mem _ known)⟩
      next =>
        rw [List.forall_mem_cons]
        refine ⟨Or.inr ⟨r, List.mem_cons_self, rfl⟩, ?_⟩
        intro c member
        rcases covered c member with known | ⟨d, here, same⟩
        · cases List.mem_cons.mp known with
          | inl head => exact Or.inr ⟨r, List.mem_cons_self, head.symm⟩
          | inr earlier => exact Or.inl earlier
        · exact Or.inr ⟨d, List.mem_cons_of_mem _ here, same⟩

end Cycles

section Building

variable {display : Display} {rounding : Rounding}

def Nonneg (v : Real64) : Prop := ∃ q : ℚ, v = .finite q ∧ 0 ≤ q

theorem validateSamples_ok {values : List Real64} (valid : validateSamples display values = .ok ()) :
    values ≠ [] ∧ ∀ v ∈ values, Nonneg v := by
  simp only [validateSamples, then_eq_ok, refuseIf_eq_ok, List.isEmpty_iff, forM_eq_ok] at valid
  refine ⟨valid.1, ?_⟩
  intro v member
  obtain ⟨i, inside, rfl⟩ := List.mem_iff_getElem.mp member
  have checked := valid.2 (values[i], i) (List.mk_mem_zipIdx_iff_getElem?.mpr (List.getElem?_eq_getElem inside))
  split at checked
  next => cases checked
  next value same =>
    rw [refuseIf_eq_ok, not_lt] at checked
    exact ⟨value, same, checked⟩

theorem finiteValues_spec {values : List Real64} (all : ∀ v ∈ values, Nonneg v) :
    (finiteValues values).length = values.length ∧ ∀ q ∈ finiteValues values, 0 ≤ q := by
  induction values with
  | nil => exact ⟨rfl, fun _ none => absurd none List.not_mem_nil⟩
  | cons v rest ih =>
    rw [List.forall_mem_cons] at all
    obtain ⟨q, rfl, nonneg⟩ := all.1
    have later := ih all.2
    have listed : finiteValues (.finite q :: rest) = q :: finiteValues rest := rfl
    rw [listed]
    exact ⟨congrArg (· + 1) later.1, List.forall_mem_cons.mpr ⟨nonneg, later.2⟩⟩

theorem percentile_ok {values : List Real64} {p v : Real64}
    (done : percentileNearestRank display rounding values p = .ok v) :
    Nonneg v := by
  simp only [percentileNearestRank, then_eq_ok] at done
  have valid := validateSamples_ok done.1
  have listed := finiteValues_spec valid.2
  have filled : 0 < values.length := List.length_pos_iff.mpr valid.1
  have rest := done.2
  split at rest
  next => cases rest
  next percent =>
    rw [then_eq_ok] at rest
    have value := rest.2
    cases value
    refine ⟨_, rfl, ?_⟩
    rw [List.getD_eq_getElem]
    next =>
      apply listed.2
      exact (sorted_perm _).mem_iff.mp (List.getElem_mem _)
    next =>
      rw [length_sorted, listed.1]
      omega

def StageMeasurement.Sound : StageMeasurement → Prop
  | measured latencyMedianUs latencyP95Us errorRate _ =>
    Nonneg latencyMedianUs ∧ (∀ p ∈ latencyP95Us, Nonneg p) ∧ ∃ q : ℚ, errorRate = .finite q ∧ 0 ≤ q ∧ q ≤ 1
  | unavailable _ _ => True

theorem p95_ok {values : List Real64} {minSamples : Nat} {p95 : Option Real64}
    (done : p95IfSufficient display rounding values minSamples = .ok p95) : ∀ p ∈ p95, Nonneg p := by
  rw [p95IfSufficient, then_eq_ok] at done
  have rest := done.2
  split at rest
  next =>
    cases rest
    exact fun p none => absurd none (Option.not_mem_none p)
  next =>
    rw [bind_eq_ok] at rest
    cases rest with
    | intro value parts =>
      have returned := parts.2
      cases returned
      intro p member
      rw [Option.mem_some_iff.mp member] at parts
      exact percentile_ok parts.1

theorem rate_bounds (rounding : Rounding) {failed n : Nat} (most : failed ≤ n) :
    0 ≤ rounding.round (rounding.round failed / rounding.round n) ∧
      rounding.round (rounding.round failed / rounding.round n) ≤ 1 := by
  have low : 0 ≤ rounding.round failed := rounding.zero.symm.le.trans (rounding.mono (Nat.cast_nonneg failed))
  have high : rounding.round failed ≤ rounding.round n := rounding.mono (Nat.cast_le.mpr most)
  constructor
  next => exact rounding.zero.symm.le.trans (rounding.mono (div_nonneg low (low.trans high)))
  next => exact (rounding.mono (div_le_one_of_le₀ high (low.trans high))).trans rounding.one.le

theorem measureStage_ok {window : List CycleSampleRecord} {minSamples windowCycles p95MinSamples : Nat}
    {stage : Stage} {entry : Stage × StageMeasurement}
    (done : measureStage display rounding window minSamples windowCycles p95MinSamples stage = .ok entry) :
    entry.1 = stage ∧ entry.2.Sound := by
  rw [measureStage, bind_eq_ok] at done
  cases done with
  | intro hits parts =>
    have rest := parts.2
    simp only at rest
    split at rest
    next =>
      cases rest
      exact ⟨rfl, trivial⟩
    next =>
      simp only [bind_eq_ok] at rest
      obtain ⟨latencyMedianUs, first, latencyP95Us, second, ⟨⟩⟩ := rest
      have count := List.countP_le_length (p := fun sample : StageSample => decide (sample.outcome = .failed))
        (l := hits.filterMap id)
      have bounds := rate_bounds rounding count
      refine ⟨rfl, percentile_ok first, p95_ok second, _, rfl, ?_⟩
      rwa [List.length_map]

theorem checkFiniteNonneg_nonneg {name : String} {v : Real64} (nonneg : Nonneg v) :
    ∃ q, checkFiniteNonneg display name v = .ok q ∧ v = .finite q := by
  obtain ⟨q, rfl, low⟩ := nonneg
  exact ⟨q, if_pos low, rfl⟩

theorem stageNode_ok {measurements : Stage → Option StageMeasurement} {stage : Stage}
    (sound : ∀ m ∈ measurements stage, m.Sound) :
    ∃ node, stageNode display measurements stage = .ok node := by
  rw [stageNode]
  cases found : measurements stage with
  | none => exact ⟨_, rfl⟩
  | some m =>
    have known := sound m found
    cases m with
    | unavailable reason sampleCount => exact ⟨_, rfl⟩
    | measured latencyMedianUs latencyP95Us errorRate sampleCount =>
      obtain ⟨median, p95, rate, rfl, low, high⟩ := known
      obtain ⟨first, medianOk, _⟩ := @checkFiniteNonneg_nonneg display "latency_median_us" _ median
      have rateOk : checkFiniteNonneg display "error_rate_measured" (.finite rate) = .ok rate := if_pos low
      simp only [CapabilityNode.withMeasuredLatency, medianOk, rateOk, ok_bind, refuseIf,
        if_neg (not_lt.mpr high)]
      cases latencyP95Us with
      | none => exact ⟨_, rfl⟩
      | some p =>
        obtain ⟨second, p95Ok, _⟩ :=
          @checkFiniteNonneg_nonneg display "latency_p95_us_measured" _ (p95 p rfl)
        simp only [p95Ok, ok_bind]
        exact ⟨_, rfl⟩

theorem tryMeasure_builds {records : List CycleSampleRecord} {currentCycleId : String} {ctx : MeasureContext}
    {minSamples windowCycles p95MinSamples : Nat} {measurements : Stage → Option StageMeasurement}
    (done : tryMeasure display rounding records currentCycleId ctx minSamples windowCycles p95MinSamples = .ok measurements) :
    ∃ graph, buildCapabilityGraph display measurements = .ok graph := by
  rw [tryMeasure, bind_eq_ok] at done
  obtain ⟨out, measured, ⟨⟩⟩ := done
  have entries := mapM_eq_ok.mp measured
  have sound : ∀ stage ∈ Stage.all, ∀ m ∈ out.lookup stage, m.Sound := by
    intro stage _ m found
    obtain ⟨front, back, split, _⟩ := List.lookup_eq_some_iff.mp found
    have member : (stage, m) ∈ out := by simp [split]
    obtain ⟨source, _, made⟩ := exists_of_mem_right entries member
    exact (measureStage_ok made).2
  have each : ∀ stage ∈ Stage.all, ∃ node, stageNode display (fun stage => out.lookup stage) stage = .ok node :=
    fun stage member => stageNode_ok (sound stage member)
  obtain ⟨nodes, made⟩ := exists_mapM each
  rw [buildCapabilityGraph, made, ok_bind]
  exact ⟨_, rfl⟩

end Building

section Unread

variable (display : Display) (rounding : Rounding) (currentCycleId : String) (ctx : MeasureContext)
  (minSamples windowCycles p95MinSamples : Nat)

/-- Foreign records and repeated cycles are not read, nor anything in front of the window, and what is
measured makes a graph. -/
theorem foreign_measurements_unread :
    (∀ records records', Relation.EqvGen (Harmless currentCycleId ctx) records records' →
      tryMeasure display rounding records currentCycleId ctx minSamples windowCycles p95MinSamples =
        tryMeasure display rounding records' currentCycleId ctx minSamples windowCycles p95MinSamples) ∧
    (∀ records records', window currentCycleId ctx windowCycles records = window currentCycleId ctx windowCycles records' →
      tryMeasure display rounding records currentCycleId ctx minSamples windowCycles p95MinSamples =
        tryMeasure display rounding records' currentCycleId ctx minSamples windowCycles p95MinSamples) ∧
    ∀ records measurements,
      tryMeasure display rounding records currentCycleId ctx minSamples windowCycles p95MinSamples = .ok measurements →
        ∃ graph, buildCapabilityGraph display measurements = .ok graph := by
  have windows : ∀ records records',
      window currentCycleId ctx windowCycles records = window currentCycleId ctx windowCycles records' →
        tryMeasure display rounding records currentCycleId ctx minSamples windowCycles p95MinSamples =
          tryMeasure display rounding records' currentCycleId ctx minSamples windowCycles p95MinSamples := by
    intro records records' same
    rw [tryMeasure, tryMeasure, same]
  refine ⟨?_, windows, fun records measurements => tryMeasure_builds⟩
  intro records records' changed
  apply windows
  induction changed with
  | rel before after harmless => rw [window, window, compatible_harmless currentCycleId ctx harmless]
  | refl => rfl
  | symm _ _ _ ih => exact ih.symm
  | trans _ _ _ _ _ first second => exact first.trans second

def sampleProfile : ExecutionProfile :=
  { model := "m"
    executionConfig :=
      { modelUrl := "u", holdoutsDir := "h", canaryTarget := 3, cortexUrl := "c", cortexSpace := "s", ratifyRoots := [] }
    cpuCount := some 4
    memoryTotalKib := none
    gpu := "none" }

def sampleRecord (cycleId workloadKey : String) : CycleSampleRecord :=
  { schemaVersion := SCHEMA_VERSION
    cycleId
    workloadKey
    executionProfileFingerprint := "f"
    executionProfile := sampleProfile
    stages := [⟨.observe, 120, .ok, none⟩, ⟨.propose, 3400, .failed, none⟩]
    sourceCommit := none
    recordedAt := "2026-10-15T00:00:00Z" }

def sampleContext : MeasureContext := ⟨"w", sampleProfile, "f", none⟩

def exact : Rounding := ⟨id, fun _ _ below => below, id_zero, id_one⟩

def plain : Display := ⟨fun _ => "", fun _ => "", fun _ => "", fun _ => ""⟩

theorem foreign_measurements_unread_example :
    tryMeasure plain exact [sampleRecord "c1" "w"] "c9" sampleContext 1 1 20 =
        tryMeasure plain exact [sampleRecord "c0" "x", sampleRecord "c1" "w", sampleRecord "c1" "w"] "c9" sampleContext 1 1 20 ∧
      tryMeasure plain exact [sampleRecord "c1" "w"] "c9" sampleContext 1 1 20 =
        tryMeasure plain exact [sampleRecord "c0" "w", sampleRecord "c1" "w"] "c9" sampleContext 1 1 20 ∧
      ∃ measurements graph,
        tryMeasure plain exact [sampleRecord "c1" "w"] "c9" sampleContext 1 1 20 = .ok measurements ∧
          buildCapabilityGraph plain measurements = .ok graph := by
  have unread := foreign_measurements_unread plain exact "c9" sampleContext 1 1 20
  refine ⟨?_, unread.2.1 _ _ (by decide), ?_⟩
  next =>
    apply unread.1
    have first : Harmless "c9" sampleContext [sampleRecord "c1" "w"] [sampleRecord "c0" "x", sampleRecord "c1" "w"] :=
      .foreign [] [sampleRecord "c1" "w"] _ (by decide)
    have second : Harmless "c9" sampleContext [sampleRecord "c0" "x", sampleRecord "c1" "w"]
        [sampleRecord "c0" "x", sampleRecord "c1" "w", sampleRecord "c1" "w"] :=
      .duplicate [sampleRecord "c0" "x", sampleRecord "c1" "w"] [] _ (sampleRecord "c1" "w") (by decide) (by decide) rfl
    exact .trans _ _ _ (.rel _ _ first) (.rel _ _ second)
  next =>
    have measured : (tryMeasure plain exact [sampleRecord "c1" "w"] "c9" sampleContext 1 1 20).isOk = true := by
      decide +kernel
    cases done : tryMeasure plain exact [sampleRecord "c1" "w"] "c9" sampleContext 1 1 20 with
    | error e =>
      rw [done] at measured
      cases measured
    | ok measurements => exact (unread.2.2 _ _ done).elim fun graph built => ⟨measurements, graph, rfl, built⟩

end Unread

end SparkRsi.Measure
