import SparkRsi.Measure.Records
import SparkRsi.Shared.Links
import SparkRsi.Shared.OrderStatistics
import SparkRsi.Shared.Sha256
import Mathlib.Data.List.Destutter
import Mathlib.Data.String.Basic

set_option autoImplicit false

namespace SparkRsi.Measure

open Shared
open Shared.OrderStatistics (sorted sorted_pairwise sorted_eq)

structure RsiConfig where
  rsiRoot : String
  modelUrl : String
  holdoutsDir : Option String
  canaryTarget : UInt64
  cortexUrl : String
  cortexSpace : String
  ratifyRoots : List String

namespace ExecutionConfig

def fromConfig (config : RsiConfig) : ExecutionConfig where
  modelUrl := config.modelUrl
  holdoutsDir := config.holdoutsDir.getD (config.rsiRoot ++ "/holdouts")
  canaryTarget := config.canaryTarget
  cortexUrl := config.cortexUrl
  cortexSpace := config.cortexSpace
  ratifyRoots := (sorted config.ratifyRoots).destutter (· ≠ ·)

variable (config : ExecutionConfig)

def Ordered : Prop := config.ratifyRoots.Pairwise fun a b => a < b

def joinedRoots : String := ",".intercalate config.ratifyRoots

def canonical : String :=
  "model_url=" ++ config.modelUrl ++ "\nholdouts_dir=" ++ config.holdoutsDir ++ "\ncanary_target=" ++
    toString config.canaryTarget ++ "\ncortex_url=" ++ config.cortexUrl ++ "\ncortex_space=" ++ config.cortexSpace ++
    "\nratify_roots=" ++ config.joinedRoots ++ "\n"

end ExecutionConfig

def digestBytes (domain body : String) : Bytes := utf8 domain ++ utf8 "\n" ++ utf8 body

def digestHex (sha : HexHash) (domain body : String) : String := sha.hex (digestBytes domain body)

def opt : Option UInt64 → String
  | none => "unknown"
  | some n => toString n

namespace ExecutionProfile

variable (profile : ExecutionProfile)

def body : String :=
  "model=" ++ profile.model ++ "\n" ++ profile.executionConfig.canonical ++ "cpu_count=" ++ opt profile.cpuCount ++
    "\nmemory_total_kib=" ++ opt profile.memoryTotalKib ++ "\ngpu=" ++ profile.gpu ++ "\n"

def fingerprintBytes : Bytes := digestBytes "spark-rsi/measure/execution-profile/v1" profile.body

def fingerprint (sha : HexHash) : String :=
  digestHex sha "spark-rsi/measure/execution-profile/v1" profile.body

end ExecutionProfile

namespace MeasureContext

def workloadBody (repoIdentity : String) (profile : ExecutionProfile) : String :=
  "repo=" ++ repoIdentity ++ "\n" ++ profile.executionConfig.canonical ++ "model=" ++ profile.model ++ "\n"

def workloadBytes (repoIdentity : String) (profile : ExecutionProfile) : Bytes :=
  digestBytes "spark-rsi/measure/workload-key/v1" (workloadBody repoIdentity profile)

def fromParts (sha : HexHash) (repoIdentity : String) (profile : ExecutionProfile)
    (sourceCommit : Option String) :
    MeasureContext where
  workloadKey := digestHex sha "spark-rsi/measure/workload-key/v1" (workloadBody repoIdentity profile)
  profile := profile
  fingerprint := profile.fingerprint sha
  sourceCommit := sourceCommit

end MeasureContext

theorem digestBytes_injective (domain : String) : Function.Injective (digestBytes domain) := by
  intro a b same
  exact utf8_injective (List.append_cancel_left same)

section Roots

theorem fromConfig_ordered (config : RsiConfig) : (ExecutionConfig.fromConfig config).Ordered := by
  have distinct := List.isChain_destutter (fun a b : String => a ≠ b) (sorted config.ratifyRoots)
  have upward : (ExecutionConfig.fromConfig config).ratifyRoots.Pairwise fun a b => a ≤ b :=
    (sorted_pairwise config.ratifyRoots).sublist (List.destutter_sublist (fun a b : String => a ≠ b) _)
  apply List.isChain_iff_pairwise.mp
  rw [List.isChain_iff_forall_rel_of_append_cons_cons] at distinct ⊢
  intro a b front back split
  have within : [a, b] <:+: (ExecutionConfig.fromConfig config).ratifyRoots := ⟨front, back, by simp [split]⟩
  have less := upward.sublist within.sublist
  exact lt_of_le_of_ne (List.pairwise_pair.mp less) (distinct split)

theorem exists_config {config : ExecutionConfig} (ordered : config.Ordered) :
    ∃ settings, ExecutionConfig.fromConfig settings = config := by
  refine ⟨{ config with rsiRoot := "", holdoutsDir := some config.holdoutsDir }, ?_⟩
  have chain : config.ratifyRoots.IsChain fun a b => a ≠ b := (ordered.imp ne_of_lt).isChain
  have kept := sorted_eq (List.Perm.refl config.ratifyRoots) (ordered.imp le_of_lt)
  simp only [ExecutionConfig.fromConfig, kept, List.destutter_of_isChain _ _ chain, Option.getD_some]

def LoneRoot (roots : List String) : Prop :=
  ∃ root, roots = [root] ∧ root ≠ "" ∧ ∀ before after, root = before ++ "," ++ after → ¬before < after

theorem LoneRoot.of_plain {root : String} (filled : root ≠ "") (plain : ',' ∉ root.toList) :
    LoneRoot [root] := by
  refine ⟨root, rfl, filled, ?_⟩
  intro before after split
  rw [split] at plain
  exact absurd (by simp) plain

theorem le_append (a b : String) : a ≤ a ++ b := by
  rw [String.le_iff_toList_le, String.toList_append]
  exact not_lt.mp (List.le_append_left (α := Char))

theorem le_intercalate (a : String) (rest : List String) : a ≤ ",".intercalate (a :: rest) := by
  cases rest with
  | nil => simp
  | cons b others =>
    rw [String.intercalate_cons_cons, String.append_assoc]
    exact le_append _ _

theorem splitOn_join {roots : List String} (some : roots ≠ []) (plain : ∀ root ∈ roots, ',' ∉ root.toList) :
    (",".intercalate roots).toList.splitOn ',' = roots.map String.toList := by
  rw [String.toList_intercalate]
  refine List.splitOn_intercalate ',' ?_ (by simpa using some)
  simpa using plain

theorem notMem_join {c : Char} (other : c ≠ ',') {roots : List String} (clean : ∀ root ∈ roots, c ∉ root.toList) :
    c ∉ (",".intercalate roots).toList := by
  induction roots with
  | nil => simp
  | cons root rest ih =>
    rw [List.forall_mem_cons] at clean
    cases rest with
    | nil => simpa using clean.1
    | cons next others =>
      rw [String.intercalate_cons_cons]
      simp only [String.toList_append, List.mem_append, not_or]
      exact ⟨⟨clean.1, by simpa using other⟩, ih clean.2⟩

-- Lists of roots without commas and empty texts are told apart by what they are joined to.
theorem join_injective {roots other : List String} (plain : ∀ root ∈ roots, root ≠ "" ∧ ',' ∉ root.toList)
    (otherPlain : ∀ root ∈ other, root ≠ "" ∧ ',' ∉ root.toList)
    (same : ",".intercalate roots = ",".intercalate other) : roots = other := by
  have filled {roots : List String} (plain : ∀ root ∈ roots, root ≠ "" ∧ ',' ∉ root.toList)
      (empty : ",".intercalate roots = "") : roots = [] := by
    cases roots with
    | nil => rfl
    | cons root rest =>
      have below := le_intercalate root rest
      rw [empty] at below
      have above := le_append "" root
      rw [String.empty_append] at above
      exact absurd (le_antisymm below above) (plain root List.mem_cons_self).1
  by_cases none : roots = []
  next =>
    subst none
    exact (filled otherPlain same.symm).symm
  next =>
    have others : other ≠ [] := by
      rintro rfl
      exact none (filled plain same)
    have parts := splitOn_join none fun root member => (plain root member).2
    rw [same, splitOn_join others fun root member => (otherPlain root member).2] at parts
    exact (List.map_injective_iff.mpr (fun _ _ => String.toList_injective) parts).symm

theorem LoneRoot.eq_of_join {roots other : List String} (lone : LoneRoot roots)
    (ordered : other.Pairwise fun a b => a < b) (same : ",".intercalate other = ",".intercalate roots) :
    other = roots := by
  obtain ⟨root, rfl, filled, uncut⟩ := lone
  rw [String.intercalate_singleton] at same
  cases other with
  | nil => exact absurd same.symm filled
  | cons a rest =>
    cases rest with
    | nil => rw [← same, String.intercalate_singleton]
    | cons b others =>
      rw [String.intercalate_cons_cons] at same
      have less : a < b := (List.pairwise_cons.mp ordered).1 b List.mem_cons_self
      exact absurd (less.trans_le (le_intercalate b others)) (uncut _ _ same.symm)

theorem exists_other_roots {roots : List String} (crowded : ¬LoneRoot roots) :
    ∃ other : List String, (other.Pairwise fun a b => a < b) ∧
      ",".intercalate other = ",".intercalate roots ∧ other ≠ roots := by
  cases roots with
  | nil => exact ⟨[""], List.pairwise_singleton _ _, rfl, List.cons_ne_nil _ _⟩
  | cons root rest =>
    cases rest with
    | cons next others =>
      -- The whole list as one root.
      refine ⟨[",".intercalate (root :: next :: others)], List.pairwise_singleton _ _,
        String.intercalate_singleton, ?_⟩
      intro same
      exact absurd (congrArg List.length same) (by simp)
    | nil =>
      by_cases empty : root = ""
      next => exact ⟨[], List.Pairwise.nil, by simp [empty], (List.cons_ne_nil _ _).symm⟩
      next =>
        have cut : ∃ before after, root = before ++ "," ++ after ∧ before < after := by
          by_contra none
          exact crowded ⟨root, rfl, empty, fun before after split less => none ⟨before, after, split, less⟩⟩
        obtain ⟨before, after, split, less⟩ := cut
        refine ⟨[before, after], List.pairwise_pair.mpr less, ?_, by simp⟩
        rw [String.intercalate_cons_cons, String.intercalate_singleton, String.intercalate_singleton, split]

end Roots

end SparkRsi.Measure
