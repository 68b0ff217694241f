import SparkRsi.Canary.Records
import SparkRsi.Measure.Select
import SparkRsi.Shared.Run
import Mathlib.Data.List.Induction
import Mathlib.Logic.Function.Basic

set_option autoImplicit false

namespace SparkRsi.Measure

open Shared

def StageOutcome.max : StageOutcome → StageOutcome → StageOutcome
  | .ok, other => other
  | .refused, .failed => .failed
  | .refused, _ => .refused
  | .failed, _ => .failed

structure Recording where
  stage : Stage
  elapsedUs : Nat
  outcome : StageOutcome

/-- A guard that is dropped before it was completed records a failure. -/
def StageGuard.dropped (stage : Stage) (elapsedUs : Nat) (completed : Option StageOutcome) : Recording :=
  { stage, elapsedUs, outcome := completed.getD .failed }

structure StageClock where
  stages : Stage → Option (UInt64 × StageOutcome)

def clampUs (us : Nat) : UInt64 := if us < 2 ^ 64 then UInt64.ofNat us else 18446744073709551615

def saturatingAdd (a b : UInt64) : UInt64 := clampUs (a.toNat + b.toNat)

namespace StageClock

def new : StageClock := { stages := fun _ => none }

def record (clock : StageClock) (call : Recording) : StageClock :=
  let entry := (clock.stages call.stage).getD (0, call.outcome)
  { stages := Function.update clock.stages call.stage
      (some (saturatingAdd entry.1 (clampUs call.elapsedUs), entry.2.max call.outcome)) }

def duration (clock : StageClock) (stage : Stage) : Nat := ((clock.stages stage).map fun s => s.1.toNat).getD 0

def isEmpty (clock : StageClock) : Bool := Stage.all.all fun stage => (clock.stages stage).isNone

def sample (stage : Stage) (entry : UInt64 × StageOutcome) : StageSample :=
  { stage
    durationUs := entry.1
    outcome := entry.2
    canaryProtocolVersion := if stage = .supervisorCanary then some Canary.canaryProtocolVersion else none }

def samples (clock : StageClock) : List StageSample :=
  Stage.all.filterMap fun stage => (clock.stages stage).map (sample stage)

end StageClock

section Totals

theorem clampUs_toNat (us : Nat) : (clampUs us).toNat = min us (2 ^ 64 - 1) := by
  unfold clampUs
  split
  next small =>
    rw [UInt64.toNat_ofNat']
    omega
  next large =>
    change 18446744073709551615 = _
    omega

theorem saturatingAdd_clampUs (a b : Nat) : saturatingAdd (clampUs a) (clampUs b) = clampUs (a + b) := by
  apply UInt64.toNat_inj.mp
  rw [saturatingAdd, clampUs_toNat, clampUs_toNat, clampUs_toNat, clampUs_toNat]
  omega

theorem StageOutcome.max_assoc (a b c : StageOutcome) : (a.max b).max c = a.max (b.max c) := by
  cases a <;> cases b <;> cases c <;> rfl

theorem StageOutcome.max_comm (a b : StageOutcome) : a.max b = b.max a := by
  cases a <;> cases b <;> rfl

theorem StageOutcome.max_self (a : StageOutcome) : a.max a = a := by
  cases a <;> rfl

def totalOf (calls : List Recording) : Option (UInt64 × StageOutcome) :=
  if calls = [] then none
  else some (clampUs (calls.map Recording.elapsedUs).sum, (calls.map Recording.outcome).foldl StageOutcome.max .ok)

theorem totalOf_append (calls : List Recording) (call : Recording) :
    totalOf (calls ++ [call]) =
      some (saturatingAdd ((totalOf calls).getD (0, call.outcome)).1 (clampUs call.elapsedUs),
        ((totalOf calls).getD (0, call.outcome)).2.max call.outcome) := by
  have filled : calls ++ [call] ≠ [] := List.append_ne_nil_of_right_ne_nil _ (List.cons_ne_nil _ _)
  rw [totalOf, if_neg filled, List.map_append, List.map_append, List.sum_append, List.foldl_append]
  by_cases first : calls = []
  next =>
    have zero : (0 : UInt64) = clampUs 0 := rfl
    simp only [first, totalOf, if_true, Option.getD_none, zero, saturatingAdd_clampUs, StageOutcome.max_self]
    rfl
  next =>
    rw [totalOf, if_neg first, Option.getD_some, saturatingAdd_clampUs]
    rfl

-- The order of the calls does not count.
theorem totalOf_perm {calls others : List Recording} (same : calls.Perm others) : totalOf calls = totalOf others := by
  have commutes : RightCommutative StageOutcome.max :=
    ⟨fun a b c => by rw [StageOutcome.max_assoc, StageOutcome.max_comm b c, StageOutcome.max_assoc]⟩
  have sums := (same.map Recording.elapsedUs).sum_eq
  have worst := @List.Perm.foldl_eq _ _ StageOutcome.max _ _ commutes (same.map Recording.outcome) .ok
  have empty : calls = [] ↔ others = [] := by
    rw [← List.length_eq_zero_iff, ← List.length_eq_zero_iff, same.length_eq]
  simp only [totalOf, sums, worst, empty]

end Totals

section Calls

def callsOf (stage : Stage) (calls : List Recording) : List Recording := calls.filter fun call => call.stage = stage

theorem record_self (clock : StageClock) (call : Recording) :
    (clock.record call).stages call.stage =
      some (saturatingAdd ((clock.stages call.stage).getD (0, call.outcome)).1 (clampUs call.elapsedUs),
        ((clock.stages call.stage).getD (0, call.outcome)).2.max call.outcome) :=
  Function.update_self ..

theorem record_of_ne (clock : StageClock) {call : Recording} {stage : Stage} (other : call.stage ≠ stage) :
    (clock.record call).stages stage = clock.stages stage :=
  Function.update_of_ne (Ne.symm other) ..

theorem record_stages {clock : StageClock} {calls : List Recording}
    (before : ∀ stage, clock.stages stage = totalOf (callsOf stage calls)) (call : Recording) (stage : Stage) :
    (clock.record call).stages stage = totalOf (callsOf stage (calls ++ [call])) := by
  rw [callsOf, List.filter_append]
  by_cases same : call.stage = stage
  next =>
    subst same
    rw [List.filter_cons_of_pos (by simp), List.filter_nil, totalOf_append, record_self, before, callsOf]
  next =>
    rw [List.filter_cons_of_neg (by simpa using same), List.filter_nil, List.append_nil, record_of_ne clock same,
      before, callsOf]

theorem run_stages (calls : List Recording) (stage : Stage) :
    (Run.final StageClock.record .new calls).stages stage = totalOf (callsOf stage calls) := by
  induction calls using List.reverseRecOn generalizing stage with
  | nil => rfl
  | append_singleton calls call ih =>
    rw [Run.final_append]
    exact record_stages ih call stage

end Calls

section Samples

variable {clock : StageClock} {stage : Stage}

theorem filter_samples {stages : List Stage} (distinct : stages.Nodup) :
    (stages.filterMap fun stage => (clock.stages stage).map (StageClock.sample stage)).filter
        (fun s => s.stage = stage) =
      if stage ∈ stages then ((clock.stages stage).map (StageClock.sample stage)).toList else [] := by
  induction stages with
  | nil => rfl
  | cons first rest ih =>
    rw [List.nodup_cons] at distinct
    have later := ih distinct.2
    by_cases here : first = stage
    next =>
      subst here
      rw [if_neg distinct.1] at later
      rw [if_pos List.mem_cons_self]
      cases found : clock.stages first with
      | none => rw [List.filterMap_cons_none (by simp [found]), later, Option.map_none, Option.toList_none]
      | some entry =>
        rw [List.filterMap_cons_some (by rw [found, Option.map_some]), List.filter_cons_of_pos, later]
        · rfl
        · exact decide_eq_true rfl
    next =>
      have elsewhere : stage ∈ first :: rest ↔ stage ∈ rest := by simp [Ne.symm here]
      simp only [elsewhere]
      rw [← later]
      cases found : clock.stages first with
      | none => rw [List.filterMap_cons_none (by simp [found])]
      | some entry =>
        rw [List.filterMap_cons_some (by rw [found, Option.map_some]), List.filter_cons_of_neg]
        exact fun reached => here (of_decide_eq_true reached)

theorem mem_all (stage : Stage) : stage ∈ Stage.all := by
  cases stage <;> decide

theorem samples_of_stage (stage : Stage) : clock.samples.filter (fun s => s.stage = stage) =
    ((clock.stages stage).map (StageClock.sample stage)).toList := by
  rw [StageClock.samples, filter_samples (by decide), if_pos (mem_all stage)]

-- What a clock puts into a record, the selection reads back.
theorem stageSample_of_clock {rec : CycleSampleRecord} (kept : rec.stages = clock.samples) (stage : Stage) :
    stageSample stage rec = .ok ((clock.stages stage).map (StageClock.sample stage)) := by
  rw [stageSample, kept, samples_of_stage]
  cases clock.stages stage <;> rfl

theorem isEmpty_iff : clock.isEmpty = true ↔ clock.samples = [] := by
  rw [StageClock.isEmpty, StageClock.samples, List.all_eq_true, List.filterMap_eq_nil_iff]
  simp

/-- Every stage is read back from a cycle's record with the time of all its calls and their worst outcome, in
whichever order the calls came. -/
theorem clock_read_back {calls ordered : List Recording} (same : calls.Perm ordered) {rec : CycleSampleRecord}
    (kept : rec.stages = (Run.final StageClock.record .new calls).samples) (stage : Stage) :
    stageSample stage rec = .ok ((totalOf (callsOf stage ordered)).map (StageClock.sample stage)) := by
  have total : totalOf (callsOf stage calls) = totalOf (callsOf stage ordered) := totalOf_perm (same.filter _)
  rw [stageSample_of_clock kept, run_stages, total]

theorem clock_read_back_builds : ∃ calls : List Recording, ∃ record : CycleSampleRecord,
    calls = [⟨.observe, 7, .ok⟩, ⟨.buildJail, 90, .ok⟩, ⟨.buildJail, 2 ^ 64, .failed⟩] ∧
    record.stages = (Run.final StageClock.record .new calls).samples ∧
    stageSample .buildJail record = .ok (some ⟨.buildJail, 18446744073709551615, .failed, none⟩) := by
  let calls : List Recording := [⟨.observe, 7, .ok⟩, ⟨.buildJail, 90, .ok⟩, ⟨.buildJail, 2 ^ 64, .failed⟩]
  let record : CycleSampleRecord :=
    { schemaVersion := SCHEMA_VERSION, cycleId := "c1", workloadKey := "w", executionProfileFingerprint := "f"
      executionProfile :=
        { model := "m", cpuCount := some 8, memoryTotalKib := none, gpu := "none"
          executionConfig :=
            { modelUrl := "", holdoutsDir := "h", canaryTarget := 2, cortexUrl := "", cortexSpace := "", ratifyRoots := [] } }
      stages := (Run.final StageClock.record .new calls).samples, sourceCommit := none, recordedAt := "t" }
  have swapped : calls.Perm [⟨.observe, 7, .ok⟩, ⟨.buildJail, 2 ^ 64, .failed⟩, ⟨.buildJail, 90, .ok⟩] :=
    (List.Perm.swap _ _ _).cons _
  exact ⟨calls, record, rfl, rfl, @clock_read_back _ _ swapped record rfl .buildJail⟩

end Samples

end SparkRsi.Measure
