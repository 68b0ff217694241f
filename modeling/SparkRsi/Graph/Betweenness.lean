import SparkRsi.Graph.ShortestPaths

set_option autoImplicit false

namespace SparkRsi.Graph

open Shared Shared.Digraph

section Unwinding

variable {next : String → List String} {source : String} {ids done : List String} {w : String}

theorem credit_keyed {s : Search} {paths delta : String → ℚ} (counted : s.sigma = keyed ids paths)
    (inIds : w ∈ ids) (filled : paths w ≠ 0) {v : String} (listed : v ∈ ids) :
    s.credit w (keyed ids delta) v =
      .ok (keyed ids (Function.update delta v (delta v + paths v / paths w * (1 + delta w)))) := by
  rw [Search.credit, counted, lookup_keyed listed, ok_bind, lookup_keyed inIds, ok_bind, divide,
    if_neg filled, ok_bind, lookup_keyed inIds, ok_bind, lookup_keyed listed, ok_bind, insert_keyed listed]
  rfl

-- All predecessors of `w` get their shares, once for each edge.
theorem creditAll_keyed {s : Search} {paths : String → ℚ} (counted : s.sigma = keyed ids paths)
    (inIds : w ∈ ids) (filled : paths w ≠ 0) (delta : String → ℚ) (preds : List String)
    (listed : ∀ v ∈ preds, v ∈ ids) (apart : w ∉ preds) :
    preds.foldlM (s.credit w) (keyed ids delta) =
      .ok (keyed ids fun x => delta x + preds.count x * (paths x / paths w * (1 + delta w))) := by
  induction preds generalizing delta with
  | nil => simp [pure, Except.pure]
  | cons v rest ih =>
    rw [List.forall_mem_cons] at listed
    rw [List.mem_cons, not_or] at apart
    rw [List.foldlM_cons, credit_keyed counted inIds filled listed.1, ok_bind, ih _ listed.2 apart.2,
      Function.update_of_ne apart.1]
    apply congrArg Except.ok
    apply keyed_congr
    intro x _
    by_cases same : x = v
    next =>
      rw [same, Function.update_self, List.count_cons_self, Nat.cast_add, Nat.cast_one]
      ring
    next => rw [Function.update_of_ne same, List.count_cons_of_ne (Ne.symm same)]

theorem count_predsVia (distinct : done.Nodup) (x w : String) :
    (predsVia next source done w).count x = if x ∈ done then stepCount next source x w else 0 := by
  induction done with
  | nil => rfl
  | cons v rest ih =>
    have parts := List.nodup_cons.mp distinct
    rw [predsVia, List.flatMap_cons, List.count_append, ← predsVia, ih parts.2, List.count_replicate]
    by_cases same : v = x
    next => rw [if_pos (beq_iff_eq.mpr same), ← same, if_neg parts.1, if_pos List.mem_cons_self, Nat.add_zero]
    next =>
      rw [if_neg (by simpa using same), Nat.zero_add]
      simp [Ne.symm same]

theorem pathCount_unreached {x : String} (unreached : ¬Reaches next source x) :
    pathCount next source x = 0 := by
  by_contra paths
  exact unreached ⟨_, Nat.pos_of_ne_zero paths⟩

noncomputable def owed (next : String → List String) (source : String) (ids after : List String)
    (x : String) : ℚ :=
  (after.map fun u => (stepCount next source x u : ℚ) * ((pathCount next source x : ℚ) / pathCount next source u *
    (1 + dependency next ids.toFinset source u))).sum

theorem stepCount_same (v : String) : stepCount next source v v = 0 := if_neg (Nat.succ_ne_self _)

variable (swept : Swept next source done []) (closed : Closed next ids.toFinset) (inside : source ∈ ids)

include swept closed inside

theorem swept_paths {x : String} (popped : x ∈ done) :
    pathsVia next source done x = pathCount next source x := by
  have sourceIn : source ∈ ids.toFinset := List.mem_toFinset.mpr inside
  have distinct : done.Nodup := by simpa using swept.distinct
  apply pathsVia_eq closed sourceIn distinct
  case within => exact fun u member => (swept.reaches u (by simpa using member)).mem closed sourceIn
  case reaches => exact swept.reaches x (by simpa using popped)
  case below => exact fun u reaches _ => (swept.all closed inside u).mp reaches

-- When `w` is popped, all that depends on it has been credited.
theorem owed_eq {front after : List String} (split : done = front ++ w :: after) :
    owed next source ids after w = dependency next ids.toFinset source w := by
  have sourceIn : source ∈ ids.toFinset := List.mem_toFinset.mpr inside
  have popped : w ∈ done := by simp [split]
  have reaches : Reaches next source w := (swept.all closed inside w).mpr popped
  have distinct : done.Nodup := by simpa using swept.distinct
  have sorted : done.Pairwise fun a b => distance next source a ≤ distance next source b := by
    simpa using swept.sorted
  have whole : reached next ids.toFinset source = done.toFinset := by
    ext u
    rw [mem_reached, swept.all closed inside u, List.mem_toFinset (l := done)]
    exact and_iff_right_of_imp fun here => ((swept.all closed inside u).mpr here).mem closed sourceIn
  have early : ∀ u ∈ front, stepCount next source w u = 0 := by
    intro u member
    by_contra step
    have level := (stepCount_ne_zero reaches step).2
    rw [split] at sorted
    have below := (List.pairwise_append.mp sorted).2.2 u member w List.mem_cons_self
    omega
  rw [dependency_step closed sourceIn reaches, whole, List.sum_toFinset _ distinct, split, List.map_append,
    List.sum_append, List.map_cons, List.sum_cons, stepCount_same, Nat.cast_zero, zero_mul, zero_add]
  have none : (front.map fun u => (stepCount next source w u : ℚ) * ((pathCount next source w : ℚ) /
      pathCount next source u * (1 + dependency next ids.toFinset source u))).sum = 0 := by
    apply List.sum_eq_zero
    intro term member
    obtain ⟨u, inFront, rfl⟩ := List.mem_map.mp member
    rw [early u inFront, Nat.cast_zero, zero_mul]
  rw [none, zero_add]
  rfl

-- Popping `w` leaves everything credited that depends on it or on what was popped before.
theorem credit_settled {front after : List String} (split : done = front ++ w :: after) :
    ∃ preds, lookup (settled next source ids done []).pred w = .ok preds ∧
      preds.foldlM ((settled next source ids done []).credit w) (keyed ids (owed next source ids after)) =
        .ok (keyed ids (owed next source ids (w :: after))) := by
  have sourceIn : source ∈ ids.toFinset := List.mem_toFinset.mpr inside
  have distinct : done.Nodup := by simpa using swept.distinct
  have within : ∀ u ∈ done, u ∈ ids := fun u popped =>
    List.mem_toFinset.mp (((swept.all closed inside u).mpr popped).mem closed sourceIn)
  have popped : w ∈ done := by simp [split]
  have reaches : Reaches next source w := (swept.all closed inside w).mpr popped
  have filled : (pathsVia next source done w : ℚ) ≠ 0 := by
    rw [swept_paths swept closed inside popped]
    exact Nat.cast_ne_zero.mpr (pathCount_pos reaches).ne'
  have listed : ∀ v ∈ predsVia next source done w, v ∈ done := by
    intro v member
    obtain ⟨u, inDone, copies⟩ := List.mem_flatMap.mp member
    rwa [List.eq_of_mem_replicate copies]
  have apart : w ∉ predsVia next source done w := by
    rw [← List.count_eq_zero, count_predsVia distinct, if_pos popped, stepCount_same]
  refine ⟨_, lookup_keyed (within w popped), ?_⟩
  rw [creditAll_keyed rfl (within w popped) filled _ _ (fun v member => within v (listed v member)) apart]
  apply congrArg Except.ok
  apply keyed_congr
  intro x _
  rw [owed_eq swept closed inside split, owed, owed, List.map_cons, List.sum_cons, count_predsVia distinct,
    swept_paths swept closed inside popped, add_comm]
  congr 1
  by_cases here : x ∈ done
  next => rw [if_pos here, swept_paths swept closed inside here]
  next =>
    have unreached : ¬Reaches next source x := fun reached => here ((swept.all closed inside x).mp reached)
    rw [if_neg here, pathCount_unreached unreached, Nat.cast_zero, zero_div, zero_mul, zero_mul, mul_zero]

-- The stack loop, from any point of it on.
theorem unwind_settled (front after : List String) (split : done = front ++ after) (central : String → ℚ) :
    (settled next source ids done []).unwind source front.reverse (keyed ids (owed next source ids after)) (keyed ids central) =
      .ok (keyed ids fun x => central x + if x ∈ front ∧ x ≠ source then dependency next ids.toFinset source x else 0) := by
  induction front using List.reverseRecOn generalizing after central with
  | nil => simp [Search.unwind]
  | append_singleton front w ih =>
    have sourceIn : source ∈ ids.toFinset := List.mem_toFinset.mpr inside
    have here : done = front ++ w :: after := by simp [split]
    have popped : w ∈ done := by simp [here]
    have inIds : w ∈ ids := List.mem_toFinset.mp (((swept.all closed inside w).mpr popped).mem closed sourceIn)
    have once : w ∉ front := by
      have distinct : done.Nodup := by simpa using swept.distinct
      rw [here] at distinct
      exact fun twice => (List.nodup_append.mp distinct).2.2 w twice w List.mem_cons_self rfl
    obtain ⟨preds, listed, credits⟩ := credit_settled swept closed inside here
    rw [List.reverse_append, List.reverse_singleton, List.singleton_append, Search.unwind, listed, ok_bind,
      credits, ok_bind]
    by_cases first : w = source
    next =>
      rw [if_neg (not_not.mpr first), ih (w :: after) here]
      apply congrArg Except.ok
      apply keyed_congr
      intro x _
      by_cases same : x = w
      next => simp [same, first]
      next => simp [same]
    next =>
      have own : owed next source ids (w :: after) w = dependency next ids.toFinset source w := by
        rw [owed, List.map_cons, List.sum_cons, stepCount_same, Nat.cast_zero, zero_mul, zero_add]
        exact owed_eq swept closed inside here
      rw [if_pos first, lookup_keyed inIds, ok_bind, lookup_keyed inIds, ok_bind, insert_keyed inIds, own,
        ih (w :: after) here]
      apply congrArg Except.ok
      apply keyed_congr
      intro x _
      by_cases same : x = w
      next => simp [same, once, first]
      next => rw [Function.update_of_ne same]; simp [same]

end Unwinding

section Edges

variable (g : CapabilityGraph)

def CapabilityGraph.targets (v : String) : List String :=
  (g.edges.filter fun edge => edge.from_ = v).map CapabilityEdge.to_

def CapabilityGraph.neighbors (v : String) : List String := if v ∈ g.ids then g.targets v else []

theorem ids_nodup : g.ids.Nodup := KeyedTable.keys_nodup

theorem addNeighbors_keyed (ids : List String) (edges : List CapabilityEdge) (listed : String → List String) :
    edges.foldl CapabilityGraph.addNeighbor (keyed ids listed) =
      keyed ids fun v => listed v ++ (edges.filter fun edge => edge.from_ = v).map CapabilityEdge.to_ := by
  induction edges generalizing listed with
  | nil => simp
  | cons edge rest ih =>
    have first : CapabilityGraph.addNeighbor (keyed ids listed) edge =
        keyed ids (Function.update listed edge.from_ (listed edge.from_ ++ [edge.to_])) := by
      rw [CapabilityGraph.addNeighbor]
      by_cases inside : edge.from_ ∈ ids
      next =>
        rw [keyed, if_pos inside]
        exact insert_keyed inside _
      next =>
        rw [keyed, if_neg inside]
        apply keyed_congr
        intro v member
        rw [Function.update_of_ne]
        exact fun same => inside (same ▸ member)
    rw [List.foldl_cons, first, ih]
    apply keyed_congr
    intro v _
    by_cases same : v = edge.from_
    next => simp [same]
    next => simp [Function.update_of_ne same, Ne.symm same]

theorem adjacencyList_eq : g.adjacencyList = keyed g.ids g.targets := by
  rw [CapabilityGraph.adjacencyList, addNeighbors_keyed]
  rfl

theorem adjacencyList_getD (v : String) : (g.adjacencyList v).getD [] = g.neighbors v := by
  rw [adjacencyList_eq, keyed, CapabilityGraph.neighbors]
  split
  next => rfl
  next => rfl

end Edges

section Centrality

variable {g : CapabilityGraph}

-- One source adds to every node what depends on it on the way from there.
theorem accumulateSource_keyed (closed : Closed g.neighbors g.ids.toFinset) {source : String}
    (inside : source ∈ g.ids) (central : String → ℚ) :
    g.accumulateSource (keyed g.ids central) source =
      .ok (keyed g.ids fun v => central v + if source = v then 0 else dependency g.neighbors g.ids.toFinset source v) := by
  have fresh : Swept g.neighbors source [] [source] := start_swept
  have empty : Search.start g.ids source = settled g.neighbors source g.ids [] [source] :=
    start_settled inside
  obtain ⟨all, run, swept⟩ := run_settled (adjacencyList_getD g) closed inside g.ids.length (by simp) fresh
  have popped := unwind_settled swept closed inside all [] (by simp) central
  rw [CapabilityGraph.accumulateSource, empty, run, ok_bind]
  change Search.unwind _ source all.reverse (keyed g.ids (owed g.neighbors source g.ids [])) _ = _
  rw [popped]
  apply congrArg Except.ok
  apply keyed_congr
  intro v _
  congr 1
  by_cases same : source = v
  next => rw [if_pos same, if_neg fun both => both.2 same.symm]
  next =>
    rw [if_neg same]
    by_cases here : v ∈ all
    next => rw [if_pos ⟨here, Ne.symm same⟩]
    next =>
      rw [if_neg fun both => here both.1, dependency_unreached]
      exact fun reaches => here ((swept.all closed inside v).mp reaches)

theorem accumulateAll_keyed (closed : Closed g.neighbors g.ids.toFinset) (sources : List String)
    (inside : ∀ source ∈ sources, source ∈ g.ids) (central : String → ℚ) :
    sources.foldlM g.accumulateSource (keyed g.ids central) =
      .ok (keyed g.ids fun v => central v +
        (sources.map fun source => if source = v then 0 else dependency g.neighbors g.ids.toFinset source v).sum) := by
  induction sources generalizing central with
  | nil => simp [pure, Except.pure]
  | cons source rest ih =>
    rw [List.forall_mem_cons] at inside
    rw [List.foldlM_cons, accumulateSource_keyed closed inside.1, ok_bind, ih inside.2]
    apply congrArg Except.ok
    apply keyed_congr
    intro v _
    rw [List.map_cons, List.sum_cons, add_assoc]

-- Where no edge leads from a node out of the nodes.
theorem calculate_closed (closed : Closed g.neighbors g.ids.toFinset) :
    g.calculateBetweennessCentrality =
      .ok (keyed g.ids fun v =>
        if g.ids.length ≤ 2 then 0
        else betweenness g.neighbors g.ids.toFinset v / (((g.ids.length : ℚ) - 1) * ((g.ids.length : ℚ) - 2))) := by
  rw [CapabilityGraph.calculateBetweennessCentrality]
  by_cases small : g.ids.length ≤ 2
  next =>
    simp only [if_pos small]
    rfl
  next =>
    have factors : (((g.ids.length - 1) * (g.ids.length - 2) : Nat) : ℚ) =
        ((g.ids.length : ℚ) - 1) * ((g.ids.length : ℚ) - 2) := by
      rw [Nat.cast_mul, Nat.cast_sub (by omega), Nat.cast_sub (by omega)]
      rfl
    have filled : (((g.ids.length - 1) * (g.ids.length - 2) : Nat) : ℚ) ≠ 0 := by
      rw [Nat.cast_ne_zero]
      exact Nat.mul_ne_zero (by omega) (by omega)
    simp only [if_neg small]
    rw [accumulateAll_keyed closed g.ids (fun _ member => member), ok_bind, divide, if_neg filled, ok_bind]
    apply congrArg Except.ok
    funext v
    rw [keyed, keyed]
    split
    next =>
      rw [Option.map_some, zero_add, ← List.sum_toFinset _ (ids_nodup g), ← betweenness_eq, factors,
        mul_one_div]
    next => rfl

end Centrality

variable {g : CapabilityGraph}

theorem neighbors_joined (joined : ∀ edge ∈ g.edges, edge.from_ ∈ g.ids ∧ edge.to_ ∈ g.ids) :
    g.neighbors = g.targets := by
  funext v
  rw [CapabilityGraph.neighbors]
  split
  next => rfl
  next outside =>
    symm
    rw [CapabilityGraph.targets, List.map_eq_nil_iff, List.filter_eq_nil_iff]
    intro edge member leaves
    rw [decide_eq_true_iff] at leaves
    exact outside (leaves ▸ (joined edge member).1)

theorem closed_joined (joined : ∀ edge ∈ g.edges, edge.from_ ∈ g.ids ∧ edge.to_ ∈ g.ids) :
    Closed g.neighbors g.ids.toFinset := by
  intro v _ w leads
  rw [neighbors_joined joined, CapabilityGraph.targets] at leads
  obtain ⟨edge, member, rfl⟩ := List.mem_map.mp leads
  exact List.mem_toFinset.mpr (joined edge (List.mem_filter.mp member).1).2

/-- The table that comes back holds every node's betweenness. -/
theorem betweenness_centrality (joined : ∀ edge ∈ g.edges, edge.from_ ∈ g.ids ∧ edge.to_ ∈ g.ids) :
    g.calculateBetweennessCentrality =
      .ok (keyed g.ids fun v =>
        if g.ids.length ≤ 2 then 0
        else betweenness g.targets g.ids.toFinset v / (((g.ids.length : ℚ) - 1) * ((g.ids.length : ℚ) - 2))) := by
  rw [calculate_closed (closed_joined joined), neighbors_joined joined]

def exampleNode (id : String) : CapabilityNode :=
  { id := id
    name := id
    subsystem := "inference"
    latencyP95Us := .finite 12
    memoryRssKb := 0
    errorRate := .finite 0
    weight := .finite 1
    measurement := .unavailable
    latencyMedianUs := none
    latencyP95UsMeasured := none
    errorRateMeasured := none
    sampleCount := 0
    unavailableReason := some "no samples" }

def exampleEdge (from_ to_ : String) : GraphCall := .addEdge from_ to_ (.finite 0) (.finite 1)

def exampleGraph : CapabilityGraph :=
  build [.addNode (exampleNode "a"), exampleEdge "a" "b", .addNode (exampleNode "b"), exampleEdge "a" "b",
    exampleEdge "b" "c", exampleEdge "b" "b", .addNode (exampleNode "c")]

theorem betweenness_centrality_example :
    exampleGraph.calculateBetweennessCentrality =
      .ok (keyed exampleGraph.ids fun v =>
        if exampleGraph.ids.length ≤ 2 then 0
        else betweenness exampleGraph.targets exampleGraph.ids.toFinset v /
          (((exampleGraph.ids.length : ℚ) - 1) * ((exampleGraph.ids.length : ℚ) - 2))) :=
  betweenness_centrality (by decide)

end SparkRsi.Graph
