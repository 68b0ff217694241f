import SparkRsi.Measure.Fingerprint
import SparkRsi.Shared.Json

set_option autoImplicit false

namespace SparkRsi.Measure

open Shared Shared.Links

section Markers

def lineLink (marker : String) (clean : '\n' ∉ marker.toList) : Link '\n' :=
  ofLines marker.toList [] marker.toList (fun _ : Unit => [marker.toList])
    (fun _ => .cons ⟨List.prefix_rfl, clean⟩ .nil) (fun _ => rfl)

theorem opt_injective {m n : Option UInt64} (same : opt m = opt n) : m = n := by
  -- The first character tells a number from its absence.
  have apart (k : UInt64) : "unknown" ≠ toString k := by
    intro same
    have letter : 'u' ∉ (toString k).toList := Json.notMem_toString (by decide) k
    rw [← same] at letter
    exact letter (by decide)
  cases m with
  | none =>
    cases n with
    | none => rfl
    | some k => exact absurd same (apart k)
  | some j =>
    cases n with
    | none => exact absurd same.symm (apart j)
    | some k => rw [Json.toString_injective (congrArg String.toList same)]

theorem newline_notMem_opt (n : Option UInt64) : '\n' ∉ (opt n).toList := by
  cases n with
  | none => decide
  | some n => exact Json.notMem_toString (by decide) n

def targetLink : Link '\n' :=
  ofLines "canary_target=".toList ["cortex_url=".toList] "cortex_url=".toList
    (fun n : UInt64 => ["canary_target=".toList ++ (toString n).toList, "cortex_url=".toList])
    (fun n => .cons ⟨List.prefix_append _ _, by
        rw [List.mem_append, not_or]
        exact ⟨by decide, Json.notMem_toString (by decide) n⟩⟩
      (.cons ⟨List.prefix_rfl, by decide⟩ .nil))
    (fun _ => rfl)

def hardwareLink : Link '\n' :=
  ofLines "cpu_count=".toList ["memory_total_kib=".toList, "gpu=".toList] "gpu=".toList
    (fun n : Option UInt64 × Option UInt64 =>
      ["cpu_count=".toList ++ (opt n.1).toList, "memory_total_kib=".toList ++ (opt n.2).toList, "gpu=".toList])
    (fun n => .cons ⟨List.prefix_append _ _, by
        rw [List.mem_append, not_or]
        exact ⟨by decide, newline_notMem_opt n.1⟩⟩
      (.cons ⟨List.prefix_append _ _, by
        rw [List.mem_append, not_or]
        exact ⟨by decide, newline_notMem_opt n.2⟩⟩
      (.cons ⟨List.prefix_rfl, by decide⟩ .nil)))
    (fun _ => rfl)

def configLinks : List (Link '\n') :=
  [lineLink "model_url=" (by decide), lineLink "holdouts_dir=" (by decide), targetLink,
    lineLink "cortex_space=" (by decide), lineLink "ratify_roots=" (by decide)]

def modelLink : Link '\n' := lineLink "model=" (by decide)

end Markers

attribute [ext] ExecutionConfig ExecutionProfile

/-- A text around a configuration: one field in front of it, one link and one field behind it. -/
@[ext]
structure Framed where
  first : String
  config : ExecutionConfig
  link : List Char
  last : String

namespace Framed

variable (r : Framed)

def rest : List (List Char × List Char) :=
  [('\n' :: "model_url=".toList, r.config.modelUrl.toList), ('\n' :: "holdouts_dir=".toList, r.config.holdoutsDir.toList),
    (spell '\n' ["canary_target=".toList ++ (toString r.config.canaryTarget).toList, "cortex_url=".toList],
      r.config.cortexUrl.toList),
    ('\n' :: "cortex_space=".toList, r.config.cortexSpace.toList),
    ('\n' :: "ratify_roots=".toList, r.config.joinedRoots.toList), (r.link, r.last.toList)]

def fields : List (List Char) := r.rest.map Prod.snd

def text : List Char := Links.text r.first.toList r.rest

variable {r} {L : Link '\n'}

theorem matches_rest (member : r.link ∈ L.texts) : Matches (configLinks ++ [L]) r.rest := by
  refine .cons ⟨(), ?_⟩ (.cons ⟨(), ?_⟩ (.cons ⟨r.config.canaryTarget, rfl⟩ (.cons ⟨(), ?_⟩ (.cons ⟨(), ?_⟩
    (.cons member .nil)))))
  all_goals simp [spell]

-- Every reading of such a text is one: the roots may be a single one.
theorem exists_framed {f : List Char} {rest : List (List Char × List Char)}
    (read : Matches (configLinks ++ [L]) rest) :
    ∃ other : Framed, other.link ∈ L.texts ∧ other.config.Ordered ∧ other.first.toList = f ∧
      other.rest = rest := by
  obtain ⟨⟨_, url⟩, _, ⟨_, rfl⟩, read₁, rfl⟩ := List.forall₂_cons_left_iff.mp read
  obtain ⟨⟨_, dir⟩, _, ⟨_, rfl⟩, read₂, rfl⟩ := List.forall₂_cons_left_iff.mp read₁
  obtain ⟨⟨_, cortex⟩, _, ⟨n, rfl⟩, read₃, rfl⟩ := List.forall₂_cons_left_iff.mp read₂
  obtain ⟨⟨_, space⟩, _, ⟨_, rfl⟩, read₄, rfl⟩ := List.forall₂_cons_left_iff.mp read₃
  obtain ⟨⟨_, roots⟩, _, ⟨_, rfl⟩, read₅, rfl⟩ := List.forall₂_cons_left_iff.mp read₄
  obtain ⟨⟨link, last⟩, _, member, none, rfl⟩ := List.forall₂_cons_left_iff.mp read₅
  obtain rfl := List.forall₂_nil_left_iff.mp none
  refine ⟨{ first := String.ofList f, link, last := String.ofList last
            config :=
              { modelUrl := String.ofList url, holdoutsDir := String.ofList dir, canaryTarget := n
                cortexUrl := String.ofList cortex, cortexSpace := String.ofList space
                ratifyRoots := [String.ofList roots] } }, member, List.pairwise_singleton _ _, String.toList_ofList, ?_⟩
  simp [rest, spell, ExecutionConfig.joinedRoots]

-- Where no field holds what stands beside it, all but the cut between the roots can be read off the text.
theorem eq_of_text {other : Framed} (apart : Apart (configLinks ++ [L])) (member : r.link ∈ L.texts)
    (inside : other.link ∈ L.texts) (clear : Separate (configLinks ++ [L]) r.first.toList r.fields)
    (cut : r.config.joinedRoots = other.config.joinedRoots → other.config.ratifyRoots = r.config.ratifyRoots)
    (same : other.text = r.text) : other = r := by
  have parts := text_injective apart (matches_rest member) (matches_rest inside) clear same.symm
  simp only [rest, List.cons.injEq, Prod.mk.injEq, String.toList_inj, true_and, and_true] at parts
  obtain ⟨first, url, dir, ⟨target, cortex⟩, space, roots, link, last⟩ := parts
  have count : r.config.canaryTarget = other.config.canaryTarget := by
    apply Json.toString_injective
    simpa [spell] using target
  exact Framed.ext first.symm (ExecutionConfig.ext url.symm dir.symm count.symm cortex.symm space.symm (cut roots))
    link.symm last.symm

theorem alone_iff (apart : Apart (configLinks ++ [L])) (member : r.link ∈ L.texts) :
    (∀ other : Framed, other.link ∈ L.texts → other.config.Ordered → other.text = r.text → other = r) ↔
      Separate (configLinks ++ [L]) r.first.toList r.fields ∧ LoneRoot r.config.ratifyRoots := by
  constructor
  · intro alone
    constructor
    · by_contra mixed
      obtain ⟨f, rest, read, same, other⟩ := exists_other (matches_rest member) mixed
      obtain ⟨framed, inside, ordered, rfl, rfl⟩ := exists_framed (f := f) read
      exact other (by rw [alone framed inside ordered same])
    · by_contra crowded
      obtain ⟨roots, ordered, joined, other⟩ := exists_other_roots crowded
      have same := alone { r with config := { r.config with ratifyRoots := roots } } member ordered
        (by simp only [text, rest, ExecutionConfig.joinedRoots, joined])
      exact other (congrArg (fun s : Framed => s.config.ratifyRoots) same)
  · intro clear other inside ordered same
    exact eq_of_text apart member inside clear.1 (fun roots => clear.2.eq_of_join ordered roots.symm) same

end Framed

theorem fingerprint_apart : Apart (configLinks ++ [hardwareLink]) := ⟨by decide +kernel, by decide +kernel⟩

theorem workload_apart : Apart (configLinks ++ [modelLink]) := ⟨by decide +kernel, by decide +kernel⟩

theorem newline : "\n".toList = ['\n'] := rfl

theorem canonical_toList (config : ExecutionConfig) : config.canonical.toList =
    "model_url=".toList ++ (config.modelUrl.toList ++ ('\n' :: "holdouts_dir=".toList ++ (config.holdoutsDir.toList ++
      ('\n' :: "canary_target=".toList ++ ((toString config.canaryTarget).toList ++ ('\n' :: "cortex_url=".toList ++
        (config.cortexUrl.toList ++ ('\n' :: "cortex_space=".toList ++ (config.cortexSpace.toList ++
          ('\n' :: "ratify_roots=".toList ++ (config.joinedRoots.toList ++ ['\n']))))))))))) := by
  have dir : "\nholdouts_dir=".toList = '\n' :: "holdouts_dir=".toList := by decide
  have target : "\ncanary_target=".toList = '\n' :: "canary_target=".toList := by decide
  have url : "\ncortex_url=".toList = '\n' :: "cortex_url=".toList := by decide
  have space : "\ncortex_space=".toList = '\n' :: "cortex_space=".toList := by decide
  have roots : "\nratify_roots=".toList = '\n' :: "ratify_roots=".toList := by decide
  unfold ExecutionConfig.canonical
  simp only [String.toList_append, newline, dir, target, url, space, roots, List.append_assoc]

namespace ExecutionProfile

variable (profile : ExecutionProfile)

def hardwareText (cpuCount memoryTotalKib : Option UInt64) : List Char :=
  spell '\n' ["cpu_count=".toList ++ (opt cpuCount).toList, "memory_total_kib=".toList ++ (opt memoryTotalKib).toList,
    "gpu=".toList]

def framed : Framed where
  first := profile.model
  config := profile.executionConfig
  link := hardwareText profile.cpuCount profile.memoryTotalKib
  last := profile.gpu

theorem hardwareText_mem (cpuCount memoryTotalKib : Option UInt64) :
    hardwareText cpuCount memoryTotalKib ∈ hardwareLink.texts := ⟨(cpuCount, memoryTotalKib), rfl⟩

theorem body_toList : profile.body.toList = "model=".toList ++ (profile.framed.text ++ ['\n']) := by
  have memory : "\nmemory_total_kib=".toList = '\n' :: "memory_total_kib=".toList := by decide
  have gpu : "\ngpu=".toList = '\n' :: "gpu=".toList := by decide
  unfold body
  simp only [String.toList_append, canonical_toList, newline, memory, gpu, framed, Framed.text, Framed.rest,
    Links.text, hardwareText, spell, List.flatMap_cons, List.flatMap_nil, List.cons_append,
    List.append_assoc, List.append_nil, List.nil_append]

theorem body_inj {profile other : ExecutionProfile} :
    profile.body = other.body ↔ profile.framed.text = other.framed.text := by
  rw [← String.toList_inj, body_toList, body_toList, List.append_cancel_left_eq, List.append_cancel_right_eq]

theorem framed_injective {profile other : ExecutionProfile} (same : profile.framed = other.framed) :
    profile = other := by
  have clean (cpuCount memoryTotalKib : Option UInt64) : ∀ line ∈ ["cpu_count=".toList ++ (opt cpuCount).toList,
      "memory_total_kib=".toList ++ (opt memoryTotalKib).toList, "gpu=".toList], '\n' ∉ line := by
    intro line member
    simp only [List.mem_cons, List.not_mem_nil, or_false] at member
    rcases member with rfl | rfl | rfl
    · rw [List.mem_append, not_or]
      exact ⟨by decide, newline_notMem_opt cpuCount⟩
    · rw [List.mem_append, not_or]
      exact ⟨by decide, newline_notMem_opt memoryTotalKib⟩
    · decide
  have link : hardwareText profile.cpuCount profile.memoryTotalKib =
      hardwareText other.cpuCount other.memoryTotalKib :=
    congrArg Framed.link same
  have start : hardwareText profile.cpuCount profile.memoryTotalKib <+: hardwareText other.cpuCount other.memoryTotalKib := by
    rw [link]
  have lines := spell_begins (clean profile.cpuCount profile.memoryTotalKib) (clean other.cpuCount other.memoryTotalKib)
    rfl rfl start
  rw [List.cons.injEq, List.cons.injEq, List.append_cancel_left_eq, List.append_cancel_left_eq,
    String.toList_inj, String.toList_inj] at lines
  exact ExecutionProfile.ext (congrArg Framed.first same) (congrArg Framed.config same) (opt_injective lines.1)
    (opt_injective lines.2.1) (congrArg Framed.last same)

theorem exists_profile {framed : Framed} (member : framed.link ∈ hardwareLink.texts) :
    ∃ profile : ExecutionProfile, profile.framed = framed := by
  obtain ⟨first, config, link, last⟩ := framed
  obtain ⟨⟨cpuCount, memoryTotalKib⟩, rfl⟩ := member
  exact ⟨{ model := first, executionConfig := config, cpuCount, memoryTotalKib, gpu := last }, rfl⟩

/-- What makes the text of a profile its own: no field holds what stands beside it in the text, and the one
root cannot be cut in two. -/
def Unmistakable : Prop :=
  Separate (configLinks ++ [hardwareLink]) profile.model.toList
    [profile.executionConfig.modelUrl.toList, profile.executionConfig.holdoutsDir.toList,
      profile.executionConfig.cortexUrl.toList, profile.executionConfig.cortexSpace.toList,
      profile.executionConfig.joinedRoots.toList, profile.gpu.toList] ∧
    LoneRoot profile.executionConfig.ratifyRoots

theorem body_alone_iff : (∀ other : ExecutionProfile, other.executionConfig.Ordered → other.body = profile.body →
    other = profile) ↔ profile.Unmistakable := by
  have framed := Framed.alone_iff fingerprint_apart (hardwareText_mem profile.cpuCount profile.memoryTotalKib)
    (r := profile.framed)
  apply Iff.trans _ framed
  constructor
  · intro alone other member ordered same
    obtain ⟨other, rfl⟩ := exists_profile member
    rw [alone other ordered (body_inj.mpr same)]
  · intro alone other ordered same
    exact framed_injective (alone other.framed (hardwareText_mem _ _) ordered (body_inj.mp same))

end ExecutionProfile

namespace MeasureContext

def workloadFramed (repoIdentity : String) (profile : ExecutionProfile) : Framed where
  first := repoIdentity
  config := profile.executionConfig
  link := '\n' :: "model=".toList
  last := profile.model

theorem workloadBody_toList (repoIdentity : String) (profile : ExecutionProfile) :
    (workloadBody repoIdentity profile).toList =
      "repo=".toList ++ ((workloadFramed repoIdentity profile).text ++ ['\n']) := by
  simp only [workloadBody, String.toList_append, canonical_toList, newline, workloadFramed, Framed.text,
    Framed.rest, Links.text, spell, List.flatMap_cons, List.flatMap_nil, List.cons_append,
    List.append_assoc, List.append_nil, List.nil_append]

theorem workloadBody_inj {repoIdentity otherRepo : String} {profile other : ExecutionProfile} :
    workloadBody repoIdentity profile = workloadBody otherRepo other ↔
      (workloadFramed repoIdentity profile).text = (workloadFramed otherRepo other).text := by
  rw [← String.toList_inj, workloadBody_toList, workloadBody_toList, List.append_cancel_left_eq,
    List.append_cancel_right_eq]

def Unmistakable (repoIdentity : String) (profile : ExecutionProfile) : Prop :=
  Separate (configLinks ++ [modelLink]) repoIdentity.toList
    [profile.executionConfig.modelUrl.toList, profile.executionConfig.holdoutsDir.toList,
      profile.executionConfig.cortexUrl.toList, profile.executionConfig.cortexSpace.toList,
      profile.executionConfig.joinedRoots.toList, profile.model.toList] ∧
    LoneRoot profile.executionConfig.ratifyRoots

theorem workloadBody_alone_iff (repoIdentity : String) (profile : ExecutionProfile) :
    (∀ otherRepo (other : ExecutionProfile), other.executionConfig.Ordered →
        workloadBody otherRepo other = workloadBody repoIdentity profile →
        otherRepo = repoIdentity ∧ other.executionConfig = profile.executionConfig ∧ other.model = profile.model) ↔
      Unmistakable repoIdentity profile := by
  have framed := Framed.alone_iff workload_apart (r := workloadFramed repoIdentity profile) ⟨(), rfl⟩
  apply Iff.trans _ framed
  constructor
  · intro alone other member ordered same
    obtain ⟨first, config, link, last⟩ := other
    obtain ⟨_, rfl⟩ := member
    have parts := alone first { profile with executionConfig := config, model := last } ordered (workloadBody_inj.mpr same)
    exact Framed.ext parts.1 parts.2.1 rfl parts.2.2
  · intro alone otherRepo other ordered same
    have whole := alone (workloadFramed otherRepo other) ⟨(), rfl⟩ ordered (workloadBody_inj.mp same)
    exact ⟨congrArg Framed.first whole, congrArg Framed.config whole, congrArg Framed.last whole⟩

end MeasureContext

section Standing

variable (sha : HexHash) (texts : Set Bytes)

/-- Among profiles whose texts are given ones, none has this one's fingerprint and another content. -/
def FingerprintStands (profile : ExecutionProfile) : Prop :=
  ∀ other : ExecutionProfile, other.executionConfig.Ordered → other.fingerprintBytes ∈ texts →
    other.fingerprint sha = profile.fingerprint sha → other = profile

def WorkloadKeyStands (repoIdentity : String) (profile : ExecutionProfile) : Prop :=
  ∀ otherRepo (other : ExecutionProfile) commit otherCommit, other.executionConfig.Ordered →
    MeasureContext.workloadBytes otherRepo other ∈ texts →
    (MeasureContext.fromParts sha otherRepo other otherCommit).workloadKey =
      (MeasureContext.fromParts sha repoIdentity profile commit).workloadKey →
    otherRepo = repoIdentity ∧ other.executionConfig = profile.executionConfig ∧ other.model = profile.model

variable {sha texts}

theorem fingerprintStands_iff (free : Set.InjOn sha.hex texts) {profile : ExecutionProfile}
    (hashed : profile.fingerprintBytes ∈ texts) :
    FingerprintStands sha texts profile ↔ profile.Unmistakable := by
  rw [← ExecutionProfile.body_alone_iff]
  constructor
  · intro stands other ordered same
    have bytes : other.fingerprintBytes = profile.fingerprintBytes := congrArg (digestBytes _) same
    exact stands other ordered (bytes ▸ hashed) (congrArg sha.hex bytes)
  · intro alone other ordered inside same
    exact alone other ordered (digestBytes_injective _ (free inside hashed same))

theorem workloadKeyStands_iff (free : Set.InjOn sha.hex texts) {repoIdentity : String}
    {profile : ExecutionProfile} (hashed : MeasureContext.workloadBytes repoIdentity profile ∈ texts) :
    WorkloadKeyStands sha texts repoIdentity profile ↔ MeasureContext.Unmistakable repoIdentity profile := by
  rw [← MeasureContext.workloadBody_alone_iff]
  constructor
  · intro stands otherRepo other ordered same
    have bytes : MeasureContext.workloadBytes otherRepo other =
        MeasureContext.workloadBytes repoIdentity profile :=
      congrArg (digestBytes _) same
    exact stands otherRepo other none none ordered (bytes ▸ hashed) (congrArg sha.hex bytes)
  · intro alone otherRepo other _ _ ordered inside same
    exact alone otherRepo other ordered (digestBytes_injective _ (free inside hashed same))

/-- Fingerprint and workload key tell a profile from every other one exactly if no field holds what stands
beside it in the hashed text, and there is one ratify root, not empty, that no two roots in order are joined
to. -/
theorem profiles_apart_iff (free : Set.InjOn sha.hex texts) {repoIdentity : String}
    {profile : ExecutionProfile}
    (hashed : profile.fingerprintBytes ∈ texts ∧ MeasureContext.workloadBytes repoIdentity profile ∈ texts) :
    (FingerprintStands sha texts profile ↔ profile.Unmistakable) ∧
      (WorkloadKeyStands sha texts repoIdentity profile ↔ MeasureContext.Unmistakable repoIdentity profile) :=
  ⟨fingerprintStands_iff free hashed.1, workloadKeyStands_iff free hashed.2⟩

-- What `fromConfig` makes are exactly the configurations that the other profile ranges over.
theorem fingerprintStands_iff_config {profile : ExecutionProfile} : FingerprintStands sha texts profile ↔
    ∀ (settings : RsiConfig) (other : ExecutionProfile), other.executionConfig = .fromConfig settings →
      other.fingerprintBytes ∈ texts → other.fingerprint sha = profile.fingerprint sha → other = profile := by
  constructor
  · intro stands settings other built
    exact stands other (built ▸ fromConfig_ordered settings)
  · intro stands other ordered
    obtain ⟨settings, built⟩ := exists_config ordered
    exact stands settings other built.symm

/-- No field holds a line end, and every root is a text without commas. -/
structure ExecutionProfile.Plain (profile : ExecutionProfile) : Prop where
  fields : ∀ field ∈ [profile.model, profile.executionConfig.modelUrl, profile.executionConfig.holdoutsDir,
    profile.executionConfig.cortexUrl, profile.executionConfig.cortexSpace, profile.gpu], '\n' ∉ field.toList
  roots : ∀ root ∈ profile.executionConfig.ratifyRoots, '\n' ∉ root.toList ∧ root ≠ "" ∧ ',' ∉ root.toList

/-- Two plain profiles, of any number of roots, share a fingerprint only if they are one. -/
theorem plain_fingerprint_inj (free : Set.InjOn sha.hex texts) {profile other : ExecutionProfile}
    (plain : profile.Plain) (otherPlain : other.Plain) (hashed : profile.fingerprintBytes ∈ texts)
    (otherHashed : other.fingerprintBytes ∈ texts) (same : other.fingerprint sha = profile.fingerprint sha) :
    other = profile := by
  have bodies := ExecutionProfile.body_inj.mp (digestBytes_injective _ (free otherHashed hashed same))
  refine ExecutionProfile.framed_injective (Framed.eq_of_text fingerprint_apart
    (ExecutionProfile.hardwareText_mem _ _) (ExecutionProfile.hardwareText_mem _ _) ?_ (fun joined => ?_) bodies)
  case _ =>
    have roots := notMem_join (c := '\n') (by decide) fun root member => (plain.roots root member).1
    have fields := plain.fields
    simp only [List.forall_mem_cons] at fields
    obtain ⟨model, url, dir, cortex, space, gpu, -⟩ := fields
    refine separate_of_clean _ model ?_
    simp only [Framed.fields, Framed.rest, List.map_cons, List.map_nil, List.forall_mem_cons]
    exact ⟨url, dir, cortex, space, roots, gpu, by simp⟩
  case _ =>
    exact join_injective (fun root member => (otherPlain.roots root member).2) (fun root member => (plain.roots root member).2)
      joined.symm

end Standing

section Sample

def rootsProfile (ratifyRoots : List String) : ExecutionProfile where
  model := "m"
  executionConfig :=
    { modelUrl := "http://127.0.0.1:8080", holdoutsDir := "h", canaryTarget := 2, cortexUrl := "", cortexSpace := "s"
      ratifyRoots }
  cpuCount := some 8
  memoryTotalKib := none
  gpu := "none"

theorem profiles_apart_iff_sample :
    FingerprintStands sha256 {(rootsProfile ["src"]).fingerprintBytes,
        MeasureContext.workloadBytes "r" (rootsProfile ["src"])} (rootsProfile ["src"]) ∧
      WorkloadKeyStands sha256 {(rootsProfile ["src"]).fingerprintBytes,
        MeasureContext.workloadBytes "r" (rootsProfile ["src"])} "r" (rootsProfile ["src"]) := by
  have apart : sha256.hex (rootsProfile ["src"]).fingerprintBytes ≠
      sha256.hex (MeasureContext.workloadBytes "r" (rootsProfile ["src"])) := by decide +kernel
  have lone : LoneRoot ["src"] := LoneRoot.of_plain (by decide) (by decide)
  have free : Set.InjOn sha256.hex {(rootsProfile ["src"]).fingerprintBytes,
      MeasureContext.workloadBytes "r" (rootsProfile ["src"])} := by
    intro a first b second same
    cases first with
    | inl one =>
      cases second with
      | inl also => rw [one, also]
      | inr other => exact absurd (one ▸ other ▸ same) apart
    | inr one =>
      cases second with
      | inl other => exact absurd (one ▸ other ▸ same.symm) apart
      | inr also => rw [one, also]
  have stands := profiles_apart_iff free ⟨.inl rfl, .inr rfl⟩
  exact ⟨stands.1.mpr ⟨separate_of_clean _ (by decide) (by decide), lone⟩,
    stands.2.mpr ⟨separate_of_clean _ (by decide) (by decide), lone⟩⟩

theorem roots_share_fingerprint :
    (rootsProfile ["docs,src"]).executionConfig.Ordered ∧
      (rootsProfile ["docs", "src"]).executionConfig.Ordered ∧
      (rootsProfile ["docs,src"]).fingerprintBytes = (rootsProfile ["docs", "src"]).fingerprintBytes ∧
      (rootsProfile ["docs,src"]).fingerprint sha256 = (rootsProfile ["docs", "src"]).fingerprint sha256 ∧
      (MeasureContext.fromParts sha256 "r" (rootsProfile ["docs,src"]) none).workloadKey =
        (MeasureContext.fromParts sha256 "r" (rootsProfile ["docs", "src"]) none).workloadKey ∧
      (rootsProfile ["docs,src"]).executionConfig ≠ (rootsProfile ["docs", "src"]).executionConfig := by
  have joined : (rootsProfile ["docs,src"]).executionConfig.canonical =
      (rootsProfile ["docs", "src"]).executionConfig.canonical := by decide +kernel
  have body : (rootsProfile ["docs,src"]).body = (rootsProfile ["docs", "src"]).body := by
    unfold ExecutionProfile.body
    rw [joined]
    rfl
  refine ⟨List.pairwise_singleton _ _, List.pairwise_pair.mpr (by decide), congrArg (digestBytes _) body,
    congrArg (digestHex sha256 _) body, ?_, by decide⟩
  · exact congrArg (digestHex sha256 _) (by rw [MeasureContext.workloadBody, joined]; rfl)

end Sample

end SparkRsi.Measure
