import SparkRsi.Graph.Ranking

set_option autoImplicit false

namespace SparkRsi.Graph

open Shared Shared.Digraph

def CapabilityNode.eraseLegacy (node : CapabilityNode) : CapabilityNode :=
  { node with latencyP95Us := .finite 0, memoryRssKb := 0, errorRate := .finite 0, weight := .finite 0 }

def CapabilityEdge.ends (edge : CapabilityEdge) : String × String := (edge.from_, edge.to_)

namespace CapabilityGraph

def billionths (score : ℚ) : Int :=
  if score * 1000000000 ≥ 0 then ⌊score * 1000000000 + 1 / 2⌋ else -⌊-(score * 1000000000) + 1 / 2⌋

def scoreValue (basis : RankingBasis) (avgLatency c : ℚ) (input : Except String (ℚ × ℚ)) : ℚ :=
  match input, basis with
  | .ok (median, err), .measured =>
    c * (4 / 10) + clamp 0 10 (median / avgLatency) * (4 / 10) + clamp 0 5 (err * 5) * (2 / 10)
  | _, _ => c

variable (g : CapabilityGraph) (display : Display)

def centralityOf (v : String) : ℚ :=
  ((g.calculateBetweennessCentrality.toOption.bind fun table => table v)).getD 0

def allMeasured : Bool :=
  !g.nodes.rows.isEmpty && g.nodes.rows.all fun node => (node.scoringInputs display).isOk

def basisOf : RankingBasis := if g.allMeasured display then .measured else .structural

def medians : List ℚ := g.nodes.rows.filterMap fun node => (node.scoringInputs display).toOption.map Prod.fst

def meanOf : ℚ := if g.allMeasured display then max ((g.medians display).sum / (g.nodes.rows.length : Nat)) 1 else 1

def nodeScore (node : CapabilityNode) : ℚ :=
  scoreValue (g.basisOf display) (g.meanOf display) (g.centralityOf node.id) (node.scoringInputs display)

end CapabilityGraph

def BottleneckRank.key (r : BottleneckRank) : String × ℚ := (r.nodeId, r.bottleneckScore)

def keyBefore (a b : String × ℚ) : Bool :=
  CapabilityGraph.quantize b.2 < CapabilityGraph.quantize a.2 ||
    (CapabilityGraph.quantize b.2 = CapabilityGraph.quantize a.2 && a.1 ≤ b.1)

section Scores

variable {g : CapabilityGraph} (display : Display)

theorem score_value {basis : RankingBasis} {mean c : ℚ} {input : Except String (ℚ × ℚ)} {scored : ℚ × String}
    (done : CapabilityGraph.score display basis mean c input = .ok scored) :
    scored.1 = CapabilityGraph.scoreValue basis mean c input := by
  unfold CapabilityGraph.score at done
  split at done
  next median err =>
    simp only [divide] at done
    split at done
    next => cases done
    next =>
      cases done
      rfl
  next other =>
    cases done
    unfold CapabilityGraph.scoreValue
    split
    next => exact absurd rfl (other _ _ rfl)
    next => rfl

theorem avgLatency_eq (filled : g.nodes.rows ≠ []) :
    g.avgLatency display = .ok (max ((g.medians display).sum / (g.nodes.rows.length : Nat)) 1) := by
  have read : g.ids.mapM (fun id => do
      let input ← lookup (g.inputs display) id
      return input.toOption.map Prod.fst) =
        .ok (g.nodes.rows.map fun node => (node.scoringInputs display).toOption.map Prod.fst) := by
    rw [mapM_eq_ok, CapabilityGraph.ids, List.forall₂_map_left_iff, List.forall₂_map_right_iff,
      List.forall₂_same]
    intro node member
    rw [lookup_inputs display member, ok_bind]
    rfl
  have count : ((g.nodes.rows.length : Nat) : ℚ) ≠ 0 :=
    Nat.cast_ne_zero.mpr fun none => filled (List.length_eq_zero_iff.mp none)
  rw [CapabilityGraph.avgLatency, read, ok_bind, divide, if_neg count, ok_bind, CapabilityGraph.medians]
  simp only [List.filterMap_map]
  rfl

-- What one node becomes, in whatever order the nodes are read.
theorem rankNode_key {basis : RankingBasis} {mean : ℚ} {central : String → Option ℚ} {node : CapabilityNode}
    {r : BottleneckRank} (member : node ∈ g.nodes.rows)
    (done : g.rankNode display basis mean central node = .ok r) :
    r.key = (node.id, CapabilityGraph.scoreValue basis mean ((central node.id).getD 0) (node.scoringInputs display)) := by
  rw [CapabilityGraph.rankNode] at done
  simp only [lookup_inputs display member, ok_bind, bind_eq_ok] at done
  obtain ⟨scored, known, ⟨⟩⟩ := done
  exact Prod.ext rfl (score_value display known)

variable {order : List CapabilityNode}

-- The ranking is the sorted list of the nodes' keys, with ranks from 1.
theorem rankBottlenecksIn_keys (closed : Closed g.neighbors g.ids.toFinset)
    (listed : order.Perm g.nodes.rows) :
    ∃ ranks, g.rankBottlenecksIn display order = .ok ranks ∧
      ranks.map BottleneckRank.key =
        (order.map fun node => (node.id, g.nodeScore display node)).mergeSort keyBefore ∧
      ranks.map BottleneckRank.rank = List.range' 1 ranks.length := by
  have measured : (!order.isEmpty && order.all fun node => (node.scoringInputs display).isOk) =
      g.allMeasured display := by
    rw [CapabilityGraph.allMeasured, listed.all_eq, listed.isEmpty_eq]
  obtain ⟨table, calculated⟩ : ∃ table, g.calculateBetweennessCentrality = .ok table :=
    ⟨_, calculate_closed closed⟩
  have central (v : String) : (table v).getD 0 = g.centralityOf v := by
    rw [CapabilityGraph.centralityOf, calculated]
    rfl
  have averaged : (if g.allMeasured display = true then g.avgLatency display else .ok 1) =
      .ok (g.meanOf display) := by
    rw [CapabilityGraph.meanOf]
    by_cases all : g.allMeasured display = true
    next =>
      rw [if_pos all, if_pos all]
      apply avgLatency_eq display
      intro none
      simp [CapabilityGraph.allMeasured, none] at all
    next => rw [if_neg all, if_neg all]
  have positive : 1 ≤ g.meanOf display := by
    rw [CapabilityGraph.meanOf]
    split
    next => exact le_max_right _ _
    next => exact le_rfl
  have ranked : ∃ ranks, order.mapM (g.rankNode display (g.basisOf display) (g.meanOf display) table) = .ok ranks := by
    apply exists_mapM
    intro node member
    obtain ⟨scored, known⟩ := score_ok display positive (g.basisOf display) ((table node.id).getD 0)
      (node.scoringInputs display)
    rw [CapabilityGraph.rankNode, lookup_inputs display (listed.mem_iff.mp member), ok_bind, known]
    exact ⟨_, rfl⟩
  obtain ⟨ranks, taken⟩ := ranked
  have keys : ranks.map BottleneckRank.key = order.map fun node => (node.id, g.nodeScore display node) := by
    have each := mapM_eq_ok.mp taken
    clear taken
    have members : ∀ node ∈ order, node ∈ g.nodes.rows := fun node member => listed.mem_iff.mp member
    clear listed measured
    induction each with
    | nil => rfl
    | cons first _ ih =>
      rw [List.forall_mem_cons] at members
      rw [List.map_cons, List.map_cons, ih members.2, rankNode_key display members.1 first, central]
      rfl
  refine ⟨(ranks.mergeSort CapabilityGraph.ranksBefore).mapIdx fun idx item => { item with rank := idx + 1 }, ?_, ?_, ?_⟩
  next =>
    rw [CapabilityGraph.rankBottlenecksIn, calculated, ok_bind]
    by_cases all : g.allMeasured display = true
    next =>
      have basis : RankingBasis.measured = g.basisOf display := (if_pos all).symm
      rw [if_pos all] at averaged
      simp only [measured, if_pos all]
      rw [averaged, ok_bind, basis, taken]
      rfl
    next =>
      have basis : RankingBasis.structural = g.basisOf display := (if_neg all).symm
      rw [if_neg all] at averaged
      simp only [measured, if_neg all]
      rw [averaged, ok_bind, basis, taken]
      rfl
  next =>
    have sorted : (ranks.mergeSort CapabilityGraph.ranksBefore).map BottleneckRank.key =
        (ranks.map BottleneckRank.key).mergeSort keyBefore := List.map_mergeSort fun a _ b _ => rfl
    rw [← keys, ← sorted]
    apply List.ext_getElem?
    intro i
    simp only [List.getElem?_map, List.getElem?_mapIdx, Option.map_map]
    rfl
  next =>
    apply List.ext_getElem
    next => simp
    next =>
      intro i inside _
      simp [Nat.add_comm]

end Scores

section Sorting

theorem keyBefore_trans (a b c : String × ℚ) (first : keyBefore a b = true) (second : keyBefore b c = true) :
    keyBefore a c = true := by
  simp only [keyBefore, Bool.or_eq_true, Bool.and_eq_true, decide_eq_true_eq] at first second ⊢
  rcases first with high | ⟨same, low⟩
  next =>
    left
    rcases second with higher | ⟨equal, _⟩
    · exact higher.trans high
    · exact equal ▸ high
  next =>
    rcases second with higher | ⟨equal, lower⟩
    · exact Or.inl (same ▸ higher)
    · exact Or.inr ⟨equal.trans same, low.trans lower⟩

theorem keyBefore_total (a b : String × ℚ) : (keyBefore a b || keyBefore b a) = true := by
  simp only [keyBefore, Bool.or_eq_true, Bool.and_eq_true, decide_eq_true_eq]
  rcases lt_trichotomy (CapabilityGraph.quantize a.2) (CapabilityGraph.quantize b.2) with less | same | more
  · exact Or.inr (Or.inl less)
  · cases le_total a.1 b.1 with
    | inl low => exact Or.inl (Or.inr ⟨same.symm, low⟩)
    | inr high => exact Or.inr (Or.inr ⟨same, high⟩)
  · exact Or.inl (Or.inl more)

theorem keyBefore_antisymm {a b : String × ℚ} (first : keyBefore a b = true)
    (second : keyBefore b a = true) : a.1 = b.1 := by
  simp only [keyBefore, Bool.or_eq_true, Bool.and_eq_true, decide_eq_true_eq] at first second
  rcases first with high | ⟨same, low⟩
  · rcases second with higher | ⟨equal, _⟩
    · exact absurd (high.trans higher) (lt_irrefl _)
    · exact absurd (equal ▸ high) (lt_irrefl _)
  · rcases second with higher | ⟨equal, lower⟩
    · exact absurd (same ▸ higher) (lt_irrefl _)
    · exact le_antisymm low lower

-- Keys with distinct ids are sorted into one list, in whatever order they come.
theorem mergeSort_keys {keys keys' : List (String × ℚ)} (perm : keys.Perm keys')
    (distinct : (keys.map Prod.fst).Nodup) :
    keys.mergeSort keyBefore = keys'.mergeSort keyBefore := by
  have apart : ∀ a b, a ∈ keys.mergeSort keyBefore → b ∈ keys'.mergeSort keyBefore → keyBefore a b = true →
      keyBefore b a = true → a = b := by
    intro a b inFirst inSecond before after
    have first : a ∈ keys := List.mem_mergeSort.mp inFirst
    have second : b ∈ keys := perm.mem_iff.mpr (List.mem_mergeSort.mp inSecond)
    exact List.inj_on_of_nodup_map distinct first second (keyBefore_antisymm before after)
  have sorted (list : List (String × ℚ)) := List.pairwise_mergeSort keyBefore_trans keyBefore_total list
  have same := (List.mergeSort_perm keys keyBefore).trans (perm.trans (List.mergeSort_perm keys' keyBefore).symm)
  exact List.Perm.eq_of_pairwise apart (sorted keys) (sorted keys') same

end Sorting

section Bounds

variable {g : CapabilityGraph} (display : Display)

theorem centralityOf_closed (closed : Closed g.neighbors g.ids.toFinset) (v : String) :
    g.centralityOf v = if v ∈ g.ids ∧ ¬g.ids.length ≤ 2 then
      betweenness g.neighbors g.ids.toFinset v / (((g.ids.length : ℚ) - 1) * ((g.ids.length : ℚ) - 2)) else 0 := by
  rw [CapabilityGraph.centralityOf, calculate_closed closed]
  by_cases inside : v ∈ g.ids <;> by_cases small : g.ids.length ≤ 2 <;> simp [keyed, inside, small, Except.toOption]

theorem centralityOf_bounds (closed : Closed g.neighbors g.ids.toFinset) (v : String) :
    0 ≤ g.centralityOf v ∧ g.centralityOf v ≤ 5 := by
  rw [centralityOf_closed closed]
  split
  next many =>
    have three : (3 : ℚ) ≤ g.ids.length := by
      have least : 3 ≤ g.ids.length := by omega
      exact_mod_cast least
    have pairs : 0 < ((g.ids.length : ℚ) - 1) * ((g.ids.length : ℚ) - 2) :=
      mul_pos (by linarith) (by linarith)
    constructor
    next => exact div_nonneg (betweenness_nonneg _ _ _) pairs.le
    next =>
      rw [div_le_iff₀ pairs]
      have most := betweenness_le g.neighbors g.ids.toFinset v
      rw [List.toFinset_card_of_nodup (ids_nodup g)] at most
      nlinarith
  next => norm_num

theorem clamp_bounds (high : ℚ) (nonneg : 0 ≤ high) (value : ℚ) :
    0 ≤ CapabilityGraph.clamp 0 high value ∧ CapabilityGraph.clamp 0 high value ≤ high :=
  ⟨le_max_left _ _, max_le nonneg (min_le_right _ _)⟩

theorem nodeScore_bounds (closed : Closed g.neighbors g.ids.toFinset) (node : CapabilityNode) :
    0 ≤ g.nodeScore display node ∧ g.nodeScore display node ≤ 10 := by
  have central := centralityOf_bounds closed node.id
  rw [CapabilityGraph.nodeScore]
  unfold CapabilityGraph.scoreValue
  split
  next median err _ _ =>
    have latency := clamp_bounds 10 (by norm_num) (median / g.meanOf display)
    have error := clamp_bounds 5 (by norm_num) (err * 5)
    constructor <;> linarith
  next => exact ⟨central.1, central.2.trans (by norm_num)⟩

-- Scores of this size are rounded to billionths and do not saturate.
theorem quantize_eq {score : ℚ} (nonneg : 0 ≤ score) (small : score ≤ 10) :
    CapabilityGraph.quantize score = CapabilityGraph.billionths score := by
  have scaled : score * 1000000000 ≥ 0 := mul_nonneg nonneg (by norm_num)
  have low : 0 ≤ ⌊score * 1000000000 + 1 / 2⌋ := Int.floor_nonneg.mpr (by linarith)
  have high : ⌊score * 1000000000 + 1 / 2⌋ ≤ 2 ^ 63 - 1 := by
    apply Int.le_of_lt_add_one
    rw [Int.floor_lt]
    push_cast
    linarith
  simp only [CapabilityGraph.quantize, CapabilityGraph.billionths, if_pos scaled]
  omega

end Bounds

section SameNodes

/-- The ranks of these nodes: each node once, numbered from 1, by score rounded to billionths and then by
id. -/
structure Ranked (ids : List String) (ranks : List BottleneckRank) : Prop where
  nodes : (ranks.map BottleneckRank.nodeId).Perm ids
  numbers : ranks.map BottleneckRank.rank = List.range' 1 ranks.length
  sorted : ranks.Pairwise fun a b =>
    CapabilityGraph.billionths b.bottleneckScore < CapabilityGraph.billionths a.bottleneckScore ∨
      CapabilityGraph.billionths b.bottleneckScore = CapabilityGraph.billionths a.bottleneckScore ∧ a.nodeId < b.nodeId

variable (display : Display) {g g' : CapabilityGraph} {order order' : List CapabilityNode}

theorem ranked_of_keys {ranks : List BottleneckRank} (closed : Closed g.neighbors g.ids.toFinset)
    (listed : order.Perm g.nodes.rows)
    (keys : ranks.map BottleneckRank.key = (order.map fun node => (node.id, g.nodeScore display node)).mergeSort keyBefore)
    (numbers : ranks.map BottleneckRank.rank = List.range' 1 ranks.length) : Ranked g.ids ranks := by
  have perm : (ranks.map BottleneckRank.key).Perm (order.map fun node => (node.id, g.nodeScore display node)) := by
    rw [keys]
    exact List.mergeSort_perm _ _
  have nodes : (ranks.map BottleneckRank.nodeId).Perm g.ids := by
    have ids := (perm.map Prod.fst).trans (List.Perm.of_eq List.map_map)
    rw [List.map_map] at ids
    exact ids.trans (listed.map CapabilityNode.id)
  have bounds : ∀ r ∈ ranks, 0 ≤ r.bottleneckScore ∧ r.bottleneckScore ≤ 10 := by
    intro r member
    obtain ⟨node, _, same⟩ := List.mem_map.mp (perm.mem_iff.mp (List.mem_map_of_mem member))
    rw [show r.bottleneckScore = g.nodeScore display node from (congrArg Prod.snd same).symm]
    exact nodeScore_bounds display closed node
  refine ⟨nodes, numbers, ?_⟩
  have distinct : ranks.Pairwise fun a b => a.nodeId ≠ b.nodeId :=
    List.pairwise_map.mp (nodes.nodup_iff.mpr (ids_nodup g))
  have ordered : (ranks.map BottleneckRank.key).Pairwise fun a b => keyBefore a b = true := by
    rw [keys]
    exact List.pairwise_mergeSort keyBefore_trans keyBefore_total _
  have sorted : ranks.Pairwise fun a b => keyBefore a.key b.key = true := List.pairwise_map.mp ordered
  apply List.Pairwise.imp_of_mem _ (distinct.and sorted)
  intro a b first second both
  have before := both.2
  simp only [keyBefore, BottleneckRank.key, Bool.or_eq_true, Bool.and_eq_true, decide_eq_true_eq,
    quantize_eq (bounds a first).1 (bounds a first).2, quantize_eq (bounds b second).1 (bounds b second).2] at before
  cases before with
  | inl higher => exact Or.inl higher
  | inr equal => exact Or.inr ⟨equal.1, lt_of_le_of_ne (of_decide_eq_true equal.2) both.1⟩

def SameNodes (g g' : CapabilityGraph) : Prop :=
  g.nodes.rows.map CapabilityNode.eraseLegacy = g'.nodes.rows.map CapabilityNode.eraseLegacy

def Unmeasured (g : CapabilityGraph) : Prop :=
  ∃ node ∈ g.nodes.rows, ¬(node.scoringInputs display).isOk = true

theorem centralityOf_same (closed : Closed g.neighbors g.ids.toFinset)
    (closed' : Closed g'.neighbors g'.ids.toFinset) (ids : g.ids = g'.ids)
    (edges : (g.edges.map CapabilityEdge.ends).Perm (g'.edges.map CapabilityEdge.ends)) (v : String) :
    g.centralityOf v = g'.centralityOf v := by
  have neighbors (w : String) : (g.neighbors w).Perm (g'.neighbors w) := by
    have targets (g : CapabilityGraph) : g.targets w =
        ((g.edges.map CapabilityEdge.ends).filter fun ends => ends.1 = w).map Prod.snd := by
      rw [CapabilityGraph.targets, List.filter_map, List.map_map]
      rfl
    rw [CapabilityGraph.neighbors, CapabilityGraph.neighbors, ids]
    split
    next =>
      rw [targets, targets]
      exact (edges.filter _).map _
    next => exact List.Perm.refl _
  rw [centralityOf_closed closed, centralityOf_closed closed', ids, betweenness_perm neighbors]

theorem SameNodes.ids (same : SameNodes g g') : g.ids = g'.ids := by
  have erased := congrArg (List.map CapabilityNode.id) same
  rwa [List.map_map, List.map_map] at erased

theorem ids_order (listed : order.Perm g.nodes.rows) : (order.map CapabilityNode.id).Perm g.ids :=
  listed.map CapabilityNode.id

theorem Unmeasured.basisOf (unmeasured : Unmeasured display g) : g.basisOf display = .structural := by
  obtain ⟨node, member, invalid⟩ := unmeasured
  apply if_neg
  intro all
  rw [CapabilityGraph.allMeasured, Bool.and_eq_true, List.all_eq_true] at all
  exact invalid (all.2 node member)

-- What the scores read of a node.
theorem SameNodes.scored (same : SameNodes g g') :
    g.nodes.rows.map (fun node => (node.id, node.scoringInputs display)) =
      g'.nodes.rows.map fun node => (node.id, node.scoringInputs display) := by
  have erased := congrArg (List.map fun node => (node.id, CapabilityNode.scoringInputs display node)) same
  rwa [List.map_map, List.map_map] at erased

theorem SameNodes.basisOf (same : SameNodes g g') : g.basisOf display = g'.basisOf display := by
  have read (g : CapabilityGraph) : g.allMeasured display =
      (!(g.nodes.rows.map fun node => (node.id, node.scoringInputs display)).isEmpty &&
        (g.nodes.rows.map fun node => (node.id, node.scoringInputs display)).all fun read => read.2.isOk) := by
    rw [CapabilityGraph.allMeasured, List.isEmpty_map, List.all_map]
    rfl
  rw [CapabilityGraph.basisOf, CapabilityGraph.basisOf, read g, read g', same.scored display]

theorem SameNodes.meanOf (same : SameNodes g g') : g.meanOf display = g'.meanOf display := by
  have measured : g.allMeasured display = g'.allMeasured display := by
    have basis := same.basisOf display
    unfold CapabilityGraph.basisOf at basis
    cases first : g.allMeasured display <;> cases second : g'.allMeasured display <;> simp [first, second] at basis ⊢
  have medians (g : CapabilityGraph) : g.medians display =
      (g.nodes.rows.map fun node => (node.id, node.scoringInputs display)).filterMap fun read =>
        read.2.toOption.map Prod.fst := by
    rw [CapabilityGraph.medians, List.filterMap_map]
    rfl
  have lengths : g.nodes.rows.length = g'.nodes.rows.length := by
    have count := congrArg List.length same
    rwa [List.length_map, List.length_map] at count
  rw [CapabilityGraph.meanOf, CapabilityGraph.meanOf, measured, medians g, medians g', same.scored display,
    lengths]

-- The keys that are sorted, for nodes that differ in nothing the ranking may read.
theorem keys_perm (listed : order.Perm g.nodes.rows) (listed' : order'.Perm g'.nodes.rows)
    (central : ∀ v, g.centralityOf v = g'.centralityOf v)
    (alike : SameNodes g g' ∨ g.ids = g'.ids ∧ Unmeasured display g ∧ Unmeasured display g') :
    (order.map fun node => (node.id, g.nodeScore display node)).Perm
      (order'.map fun node => (node.id, g'.nodeScore display node)) := by
  have same : g.nodes.rows.map (fun node => (node.id, g.nodeScore display node)) =
      g'.nodes.rows.map fun node => (node.id, g'.nodeScore display node) := by
    rcases alike with same | ⟨ids, first, second⟩
    next =>
      have keyed (g : CapabilityGraph) : g.nodes.rows.map (fun node => (node.id, g.nodeScore display node)) =
          (g.nodes.rows.map fun node => (node.id, node.scoringInputs display)).map fun read =>
            (read.1, CapabilityGraph.scoreValue (g.basisOf display) (g.meanOf display) (g.centralityOf read.1) read.2) := by
        rw [List.map_map]
        rfl
      rw [keyed g, keyed g', same.scored display, same.basisOf display, same.meanOf display]
      simp only [central]
    next =>
      -- Without all the measurements the score is the centrality of the id.
      have keyed (g : CapabilityGraph) (structural : g.basisOf display = .structural) :
          g.nodes.rows.map (fun node => (node.id, g.nodeScore display node)) =
            g.ids.map fun id => (id, g.centralityOf id) := by
        rw [CapabilityGraph.ids, List.map_map]
        apply List.map_congr_left
        intro node _
        rw [CapabilityGraph.nodeScore, structural, Function.comp_apply]
        unfold CapabilityGraph.scoreValue
        split
        next structural => cases structural
        next => rfl
      rw [keyed g (first.basisOf display), keyed g' (second.basisOf display), ids]
      simp only [central]
  exact (listed.map _).trans ((List.Perm.of_eq same).trans (listed'.map _).symm)

/-- The ranking reads the nodes' measurements and the ends of the edges, and without all the measurements
only the edges. -/
theorem ranking_ignores (listed : order.Perm g.nodes.rows) (listed' : order'.Perm g'.nodes.rows)
    (joined : ∀ edge ∈ g.edges, edge.from_ ∈ g.ids ∧ edge.to_ ∈ g.ids)
    (edges : (g.edges.map CapabilityEdge.ends).Perm (g'.edges.map CapabilityEdge.ends))
    (alike : SameNodes g g' ∨ g.ids = g'.ids ∧ Unmeasured display g ∧ Unmeasured display g') :
    ∃ ranks ranks', g.rankBottlenecksIn display order = .ok ranks ∧
      g'.rankBottlenecksIn display order' = .ok ranks' ∧
      ranks.map BottleneckRank.key = ranks'.map BottleneckRank.key ∧ Ranked g.ids ranks ∧
      Ranked g'.ids ranks' := by
  have ids : g.ids = g'.ids := by
    cases alike with
    | inl same => exact same.ids
    | inr both => exact both.1
  have joined' : ∀ edge ∈ g'.edges, edge.from_ ∈ g'.ids ∧ edge.to_ ∈ g'.ids := by
    intro edge member
    obtain ⟨twin, here, same⟩ := List.mem_map.mp (edges.mem_iff.mpr (List.mem_map_of_mem member))
    rw [← ids, ← show twin.from_ = edge.from_ from congrArg Prod.fst same,
      ← show twin.to_ = edge.to_ from congrArg Prod.snd same]
    exact joined twin here
  have closed := closed_joined joined
  have closed' := closed_joined joined'
  obtain ⟨ranks, done, keys, numbers⟩ := rankBottlenecksIn_keys display closed listed
  obtain ⟨ranks', done', keys', numbers'⟩ := rankBottlenecksIn_keys display closed' listed'
  have perm := keys_perm display listed listed' (centralityOf_same closed closed' ids edges) alike
  have distinct : ((order.map fun node => (node.id, g.nodeScore display node)).map Prod.fst).Nodup := by
    rw [List.map_map]
    exact (ids_order listed).nodup_iff.mpr (ids_nodup g)
  refine ⟨ranks, ranks', done, done', ?_, ranked_of_keys display closed listed keys numbers,
    ranked_of_keys display closed' listed' keys' numbers'⟩
  rw [keys, keys', mergeSort_keys perm distinct]

def GraphCall.added? : GraphCall → Option CapabilityNode
  | addNode node => some node
  | addEdge _ _ _ _ => none

theorem rows_applied (calls : List GraphCall) (g : CapabilityGraph)
    (distinct : ((calls.filterMap GraphCall.added?).map CapabilityNode.id).Nodup)
    (fresh : ∀ node ∈ calls.filterMap GraphCall.added?, node.id ∉ g.ids) :
    (calls.foldl GraphCall.apply g).nodes.rows.Perm (calls.filterMap GraphCall.added? ++ g.nodes.rows) := by
  induction calls generalizing g with
  | nil => exact List.Perm.refl _
  | cons call rest ih =>
    rw [List.foldl_cons]
    cases call with
    | addEdge from_ to_ latencyImpactUs callFrequency =>
      exact ih (g.addEdge from_ to_ latencyImpactUs callFrequency) distinct fresh
    | addNode node =>
      have listed : (GraphCall.addNode node :: rest).filterMap GraphCall.added? =
          node :: rest.filterMap GraphCall.added? := rfl
      rw [listed, List.map_cons, List.nodup_cons] at distinct
      rw [listed, List.forall_mem_cons] at fresh
      have new : ∀ r ∈ g.nodes.rows, r.id ≠ node.id :=
        fun r member same => fresh.1 (same ▸ List.mem_map_of_mem member)
      have put : (g.addNode node).nodes.rows.Perm (node :: g.nodes.rows) :=
        KeyedTable.upsertRow_perm node _ new
      have later : ∀ other ∈ rest.filterMap GraphCall.added?, other.id ∉ (g.addNode node).ids := by
        intro other member listed
        have known : other.id = node.id ∨ other.id ∈ g.ids :=
          (KeyedTable.mem_keys_upsertRow node _ _).mp listed
        cases known with
        | inl same => exact distinct.1 (same ▸ List.mem_map_of_mem member)
        | inr old => exact fresh.2 other member old
      rw [listed]
      apply (ih (g.addNode node) distinct.2 later).trans
      exact (put.append_left _).trans List.perm_middle

-- In whatever order nodes with ids of their own are added, and whatever their legacy fields hold.
theorem sameNodes_build {calls calls' : List GraphCall}
    (perm : ((calls.filterMap GraphCall.added?).map CapabilityNode.eraseLegacy).Perm
      ((calls'.filterMap GraphCall.added?).map CapabilityNode.eraseLegacy))
    (distinct : ((calls.filterMap GraphCall.added?).map CapabilityNode.id).Nodup) :
    SameNodes (build calls) (build calls') := by
  have rows {calls : List GraphCall} (distinct : ((calls.filterMap GraphCall.added?).map CapabilityNode.id).Nodup) :
      (build calls).nodes.rows.Perm (calls.filterMap GraphCall.added?) := by
    have all := rows_applied calls .new distinct fun _ _ => List.not_mem_nil
    rwa [show CapabilityGraph.new.nodes.rows = [] from rfl, List.append_nil] at all
  have ids := perm.map CapabilityNode.id
  simp only [List.map_map] at ids
  have ordered (g : CapabilityGraph) :
      (g.nodes.rows.map CapabilityNode.eraseLegacy).Pairwise fun a b => a.id < b.id :=
    List.pairwise_map.mpr g.nodes.ordered
  refine List.Perm.eq_of_pairwise (fun _ _ _ _ before after => absurd (before.trans after) (lt_irrefl _)) (ordered _)
    (ordered _) ?_
  have other := rows (ids.nodup_iff.mp distinct)
  exact ((rows distinct).map _).trans (perm.trans (other.map _).symm)

def exampleOther : CapabilityGraph :=
  build [.addNode { exampleNode "c" with latencyP95Us := .finite 99, memoryRssKb := 7 }, exampleEdge "b" "b",
    .addEdge "b" "c" (.finite 5) (.special "NaN"), .addNode (exampleNode "b"), exampleEdge "a" "b",
    exampleEdge "a" "b", .addNode { exampleNode "a" with weight := .finite 4 }]

def plainDisplay : Display := ⟨fun _ => "", fun _ => "", fun _ => "", fun _ => ""⟩

theorem ranking_ignores_example : ∃ ranks ranks',
    exampleGraph.rankBottlenecksIn plainDisplay exampleGraph.nodes.rows = .ok ranks ∧
      exampleOther.rankBottlenecksIn plainDisplay exampleOther.nodes.rows.reverse = .ok ranks' ∧
      ranks.map BottleneckRank.key = ranks'.map BottleneckRank.key ∧ Ranked exampleGraph.ids ranks ∧
      Ranked exampleOther.ids ranks' :=
  ranking_ignores plainDisplay (List.Perm.refl _) (List.reverse_perm _) (by decide) (by decide)
    (.inl (sameNodes_build (List.reverse_perm ([exampleNode "c", exampleNode "b", exampleNode "a"].map
      CapabilityNode.eraseLegacy)) (by decide)))

end SameNodes

end SparkRsi.Graph
