import SparkRsi.Graph.Betweenness

set_option autoImplicit false

namespace SparkRsi.Graph

open Shared Shared.Digraph

section Building

def GraphCall.node? : GraphCall → Option String
  | addNode node => some node.id
  | addEdge _ _ _ _ => none

def GraphCall.edge? : GraphCall → Option CapabilityEdge
  | addNode _ => none
  | addEdge from_ to_ latencyImpactUs callFrequency => some ⟨from_, to_, latencyImpactUs, callFrequency⟩

def nodesAdded (calls : List GraphCall) : List String := calls.filterMap GraphCall.node?

def edgesAdded (calls : List GraphCall) : List CapabilityEdge := calls.filterMap GraphCall.edge?

theorem applied (calls : List GraphCall) (g : CapabilityGraph) :
    (calls.foldl GraphCall.apply g).edges = g.edges ++ edgesAdded calls ∧
      ∀ id, id ∈ (calls.foldl GraphCall.apply g).ids ↔ id ∈ g.ids ∨ id ∈ nodesAdded calls := by
  induction calls generalizing g with
  | nil => simp [edgesAdded, nodesAdded]
  | cons call rest ih =>
    rw [List.foldl_cons]
    cases ih (g := call.apply g) with
    | intro edges ids =>
      cases call with
      | addNode node =>
        constructor
        next => exact edges
        next =>
          intro id
          have first : id ∈ (g.addNode node).ids ↔ id = node.id ∨ id ∈ g.ids :=
            KeyedTable.mem_keys_upsertRow _ _ _
          have listed : nodesAdded (.addNode node :: rest) = node.id :: nodesAdded rest := rfl
          rw [ids id, GraphCall.apply, first, listed, List.mem_cons]
          tauto
      | addEdge from_ to_ latencyImpactUs callFrequency =>
        constructor
        next =>
          rw [edges]
          exact List.append_assoc _ _ _
        next => exact ids

theorem edges_build (calls : List GraphCall) : (build calls).edges = edgesAdded calls :=
  (applied calls .new).1

theorem mem_ids_build (calls : List GraphCall) (id : String) :
    id ∈ (build calls).ids ↔ id ∈ nodesAdded calls := by
  rw [build, (applied calls .new).2 id]
  exact or_iff_right List.not_mem_nil

theorem length_ids_build (calls : List GraphCall) :
    (build calls).ids.length = (nodesAdded calls).toFinset.card := by
  rw [← List.toFinset_card_of_nodup (ids_nodup _)]
  congr 1
  ext id
  rw [List.mem_toFinset, List.mem_toFinset, mem_ids_build]

end Building

section Missing

-- Visiting a neighbor looks its distance up, and gives no distance to a vertex without one.
theorem visitNeighbor_known {v w : String} {dV : Int} {s s' : Search}
    (visit : s.visitNeighbor v dV w = .ok s') :
    s.dist w ≠ none ∧ ∀ x, s.dist x = none → s'.dist x = none := by
  rw [Search.visitNeighbor, bind_eq_ok] at visit
  cases visit with
  | intro found steps =>
    have first := steps.1
    rw [Search.discover, lookup, bind_eq_ok] at first
    cases first with
    | intro known parts =>
      have entry := okOr_eq_ok.mp parts.1
      have still : ∀ x, s.dist x = none → found.dist x = none := by
        have put := parts.2
        intro x missing
        split at put
        next =>
          cases put
          have apart : x ≠ w := by
            intro same
            rw [same, entry] at missing
            cases missing
          exact (Function.update_of_ne apart _ _).trans missing
        next =>
          cases put
          exact missing
      have after : s'.dist = found.dist := by
        have counts := steps.2
        rw [Search.countPaths, bind_eq_ok] at counts
        cases counts with
        | intro level rest =>
          have rest := rest.2
          split at rest
          next =>
            simp only [bind_eq_ok] at rest
            obtain ⟨_, _, _, _, _, _, done⟩ := rest
            cases done
            rfl
          next =>
            cases rest
            rfl
      constructor
      next => simp [entry]
      next =>
        intro x missing
        rw [after]
        exact still x missing

theorem visitAll_known {v : String} {dV : Int} (ws : List String) {s s' : Search}
    (visits : ws.foldlM (Search.visitNeighbor v dV) s = .ok s') : ∀ w ∈ ws, s.dist w ≠ none := by
  induction ws generalizing s with
  | nil => exact fun w member => absurd member List.not_mem_nil
  | cons w rest ih =>
    rw [List.foldlM_cons, bind_eq_ok] at visits
    cases visits with
    | intro found steps =>
      have first := visitNeighbor_known steps.1
      rw [List.forall_mem_cons]
      exact ⟨first.1, fun x member missing => ih steps.2 x member (first.2 x missing)⟩

variable {g : CapabilityGraph}

-- The first turn of a search visits the neighbors of its source.
theorem run_known {adj : String → Option (List String)} {source : String} {ids : List String} {fuel : Nat}
    {s : Search} (inside : source ∈ ids) (run : Search.run adj (fuel + 1) (Search.start ids source) = .ok s) :
    ∀ w ∈ (adj source).getD [], w ∈ ids := by
  rw [Search.run, Search.start] at run
  simp only [bind_eq_ok] at run
  obtain ⟨dV, _, found, visits, _⟩ := run
  intro w member
  have known : insert (keyed ids fun _ => (-1 : Int)) source 0 w ≠ none := visitAll_known _ visits w member
  rw [insert_keyed inside] at known
  by_contra outside
  exact known (if_neg outside)

-- An edge from a node to what is no node stops the search from there.
theorem calculate_known (many : ¬g.ids.length ≤ 2) {centrality : String → Option ℚ}
    (calculated : g.calculateBetweennessCentrality = .ok centrality) : Closed g.neighbors g.ids.toFinset := by
  rw [CapabilityGraph.calculateBetweennessCentrality] at calculated
  simp only [if_neg many, bind_eq_ok] at calculated
  obtain ⟨summed, sources, _⟩ := calculated
  intro v node w edge
  have inside := List.mem_toFinset.mp node
  obtain ⟨before, after, step⟩ := foldlM_taken sources inside
  rw [CapabilityGraph.accumulateSource, bind_eq_ok] at step
  obtain ⟨s, run, _⟩ := step
  obtain ⟨fuel, length⟩ : ∃ fuel, g.ids.length = fuel + 1 := Nat.exists_eq_succ_of_ne_zero (by omega)
  rw [length] at run
  apply List.mem_toFinset.mpr
  apply run_known inside run w
  rwa [adjacencyList_getD]

end Missing

section Total

variable {g : CapabilityGraph} (display : Display)

theorem calculate_ok_iff :
    (∃ centrality, g.calculateBetweennessCentrality = .ok centrality) ↔
      g.ids.length ≤ 2 ∨ Closed g.neighbors g.ids.toFinset := by
  by_cases small : g.ids.length ≤ 2
  next =>
    have returned : ∃ centrality, g.calculateBetweennessCentrality = .ok centrality := by
      rw [CapabilityGraph.calculateBetweennessCentrality]
      simp only [if_pos small]
      exact ⟨_, rfl⟩
    exact iff_of_true returned (Or.inl small)
  next =>
    rw [or_iff_right small]
    constructor
    next =>
      intro result
      cases result with
      | intro centrality calculated => exact calculate_known small calculated
    next => exact fun closed => ⟨_, calculate_closed closed⟩

theorem lookup_inputs {node : CapabilityNode} (member : node ∈ g.nodes.rows) :
    lookup (g.inputs display) node.id = .ok (node.scoringInputs display) := by
  rw [lookup, CapabilityGraph.inputs, KeyedTable.get?_key member]
  rfl

-- The mean is divided by is taken over at least one node, and is at least 1.
theorem avgLatency_ok (nodes : g.nodes.rows ≠ []) : ∃ mean, g.avgLatency display = .ok mean ∧ 1 ≤ mean := by
  have read : ∃ medians, g.ids.mapM (fun id => do
      let input ← lookup (g.inputs display) id
      return input.toOption.map Prod.fst) = .ok medians := by
    apply exists_mapM
    intro id listed
    obtain ⟨node, member, rfl⟩ := List.mem_map.mp listed
    rw [lookup_inputs display member]
    exact ⟨_, rfl⟩
  cases read with
  | intro medians taken =>
    have filled : ((g.nodes.rows.length : Nat) : ℚ) ≠ 0 :=
      Nat.cast_ne_zero.mpr (fun none => nodes (List.length_eq_zero_iff.mp none))
    rw [CapabilityGraph.avgLatency, taken, ok_bind, divide, if_neg filled, ok_bind]
    exact ⟨_, rfl, le_max_right _ _⟩

theorem score_ok {mean : ℚ} (positive : 1 ≤ mean) (basis : RankingBasis) (c : ℚ)
    (input : Except String (ℚ × ℚ)) :
    ∃ scored, CapabilityGraph.score display basis mean c input = .ok scored := by
  have filled : mean ≠ 0 := by
    intro zero
    rw [zero] at positive
    exact absurd positive (by norm_num)
  cases input with
  | error reason => exact ⟨_, rfl⟩
  | ok values =>
    cases basis with
    | structural => exact ⟨_, rfl⟩
    | measured =>
      simp only [CapabilityGraph.score, divide, if_neg filled]
      exact ⟨_, rfl⟩

theorem rankAll_ok {mean : ℚ} (positive : 1 ≤ mean) (basis : RankingBasis) (centrality : String → Option ℚ) :
    ∃ ranks, g.nodes.rows.mapM (g.rankNode display basis mean centrality) = .ok ranks := by
  apply exists_mapM
  intro node member
  obtain ⟨scored, known⟩ := score_ok display positive basis ((centrality node.id).getD 0) (node.scoringInputs display)
  rw [CapabilityGraph.rankNode, lookup_inputs display member, ok_bind, known]
  exact ⟨_, rfl⟩

-- Once the centralities are there, the ranking is too.
theorem rankBottlenecks_ok {centrality : String → Option ℚ}
    (calculated : g.calculateBetweennessCentrality = .ok centrality) :
    ∃ ranks, g.rankBottlenecks display = .ok ranks := by
  rw [CapabilityGraph.rankBottlenecks, CapabilityGraph.rankBottlenecksIn, calculated, ok_bind]
  by_cases measured : (!g.nodes.rows.isEmpty && g.nodes.rows.all fun node => (node.scoringInputs display).isOk) = true
  next =>
    have nodes : g.nodes.rows ≠ [] := by
      intro none
      simp [none] at measured
    obtain ⟨mean, averaged, positive⟩ := avgLatency_ok display nodes
    obtain ⟨ranks, ranked⟩ := rankAll_ok display (g := g) positive .measured centrality
    simp only [if_pos measured]
    rw [averaged, ok_bind, ranked]
    exact ⟨_, rfl⟩
  next =>
    obtain ⟨ranks, ranked⟩ := rankAll_ok display (g := g) le_rfl .structural centrality
    simp only [if_neg measured]
    rw [ok_bind, ranked]
    exact ⟨_, rfl⟩

end Total

section Names

variable {g : CapabilityGraph} {display : Display} {order : List CapabilityNode}

theorem rankAll_ids {basis : RankingBasis} {mean : ℚ} {centrality : String → Option ℚ}
    {each : List BottleneckRank} (taken : order.mapM (g.rankNode display basis mean centrality) = .ok each) :
    each.map BottleneckRank.nodeId = order.map CapabilityNode.id := by
  rw [mapM_eq_ok] at taken
  induction taken with
  | nil => rfl
  | cons first _ ih =>
    simp only [CapabilityGraph.rankNode, bind_eq_ok] at first
    obtain ⟨input, -, scored, -, ⟨⟩⟩ := first
    rw [List.map_cons, List.map_cons, ih]

theorem numbered_ids (each : List BottleneckRank) :
    (each.mapIdx fun idx item => { item with rank := idx + 1 }).map BottleneckRank.nodeId =
      each.map BottleneckRank.nodeId := by
  apply List.ext_getElem?
  intro i
  simp only [List.getElem?_map, List.getElem?_mapIdx, Option.map_map]
  rfl

-- A ranking names the nodes it was made of, each as often as it was read.
theorem rankBottlenecksIn_ids {ranks : List BottleneckRank}
    (done : g.rankBottlenecksIn display order = .ok ranks) :
    (ranks.map BottleneckRank.nodeId).Perm (order.map CapabilityNode.id) := by
  have final {basis : RankingBasis} {mean : ℚ} {centrality : String → Option ℚ} {each : List BottleneckRank}
      (taken : order.mapM (g.rankNode display basis mean centrality) = .ok each)
      (sorted : ((each.mergeSort CapabilityGraph.ranksBefore).mapIdx fun idx item => { item with rank := idx + 1 }) =
        ranks) : (ranks.map BottleneckRank.nodeId).Perm (order.map CapabilityNode.id) := by
    rw [← sorted, numbered_ids, ← rankAll_ids taken]
    exact (List.mergeSort_perm each _).map _
  rw [CapabilityGraph.rankBottlenecksIn, bind_eq_ok] at done
  obtain ⟨centrality, -, done⟩ := done
  by_cases measured : (!order.isEmpty && order.all fun node => (node.scoringInputs display).isOk) = true
  next =>
    simp only [if_pos measured, bind_eq_ok] at done
    obtain ⟨mean, -, each, taken, sorted⟩ := done
    exact final taken (Except.ok.inj sorted)
  next =>
    simp only [if_neg measured, bind_eq_ok] at done
    obtain ⟨mean, -, each, taken, sorted⟩ := done
    exact final taken (Except.ok.inj sorted)

end Names

theorem closed_build (calls : List GraphCall) :
    Closed (build calls).neighbors (build calls).ids.toFinset ↔
      ∀ edge ∈ edgesAdded calls, edge.from_ ∈ nodesAdded calls → edge.to_ ∈ nodesAdded calls := by
  have listed (v : String) : v ∈ (build calls).ids.toFinset ↔ v ∈ nodesAdded calls := by
    rw [List.mem_toFinset, mem_ids_build]
  constructor
  next =>
    intro closed edge member leaves
    apply (listed edge.to_).mp
    apply closed edge.from_ ((listed edge.from_).mpr leaves)
    rw [CapabilityGraph.neighbors, if_pos ((mem_ids_build calls edge.from_).mpr leaves),
      CapabilityGraph.targets, edges_build]
    exact List.mem_map_of_mem (List.mem_filter.mpr ⟨member, decide_eq_true rfl⟩)
  next =>
    intro ends v node w leads
    have inside := (listed v).mp node
    rw [CapabilityGraph.neighbors, if_pos ((mem_ids_build calls v).mpr inside), CapabilityGraph.targets,
      edges_build] at leads
    obtain ⟨edge, member, rfl⟩ := List.mem_map.mp leads
    have parts := List.mem_filter.mp member
    have leaves : edge.from_ = v := of_decide_eq_true parts.2
    exact (listed edge.to_).mpr (ends edge parts.1 (leaves ▸ inside))

/-- Ranking returns unless an edge leads from one of at least three nodes to what was never added. -/
theorem ranking_total_iff (display : Display) (calls : List GraphCall) :
    ((∃ centrality, (build calls).calculateBetweennessCentrality = .ok centrality) ∧
        ∃ ranks, (build calls).rankBottlenecks display = .ok ranks) ↔
      (nodesAdded calls).toFinset.card ≤ 2 ∨
        ∀ edge ∈ edgesAdded calls, edge.from_ ∈ nodesAdded calls → edge.to_ ∈ nodesAdded calls := by
  rw [← closed_build, ← length_ids_build, ← calculate_ok_iff]
  apply and_iff_left_of_imp
  intro result
  cases result with
  | intro centrality calculated => exact rankBottlenecks_ok display calculated

def ghostCalls : List GraphCall :=
  [.addNode (exampleNode "a"), .addNode (exampleNode "b"), .addNode (exampleNode "c"), exampleEdge "c" "ghost"]

def exampleDisplay : Display := ⟨fun _ => "0", fun _ => "0.000", fun _ => "0.00", fun _ => "0.0"⟩

theorem ghost_not_ranked :
    (build ghostCalls).calculateBetweennessCentrality = .error (.missingKey "ghost") ∧
      (build ghostCalls).rankBottlenecks exampleDisplay = .error (.missingKey "ghost") := by
  have stopped : (build ghostCalls).calculateBetweennessCentrality = .error (.missingKey "ghost") := by rfl
  constructor
  next => exact stopped
  next =>
    rw [CapabilityGraph.rankBottlenecks, CapabilityGraph.rankBottlenecksIn, stopped]
    rfl

end SparkRsi.Graph
