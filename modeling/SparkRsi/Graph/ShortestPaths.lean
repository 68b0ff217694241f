import SparkRsi.Graph.Capability
import SparkRsi.Shared.Digraph

set_option autoImplicit false

namespace SparkRsi.Graph

open Shared Shared.Digraph

section Tables

variable {β : Type} {ids : List String} {value : String → β} {id : String}

theorem lookup_keyed (inside : id ∈ ids) : lookup (keyed ids value) id = .ok (value id) := by
  rw [lookup, keyed, if_pos inside]
  rfl

theorem insert_keyed (inside : id ∈ ids) (b : β) :
    insert (keyed ids value) id b = keyed ids (Function.update value id b) := by
  funext other
  by_cases same : other = id
  next => rw [same, insert, keyed, Function.update_self, Function.update_self, if_pos inside]
  next => rw [insert, keyed, Function.update_of_ne same, keyed, Function.update_of_ne same]

theorem keyed_congr {other : String → β} (agree : ∀ id ∈ ids, value id = other id) :
    keyed ids value = keyed ids other := by
  funext id
  by_cases inside : id ∈ ids
  next => rw [keyed, keyed, if_pos inside, if_pos inside, agree id inside]
  next => rw [keyed, keyed, if_neg inside, if_neg inside]

end Tables

section Tracking

variable (next : String → List String) (source : String)

noncomputable def pathsVia (done : List String) (w : String) : Nat :=
  (if w = source then 1 else 0) + (done.map fun v => pathCount next source v * stepCount next source v w).sum

noncomputable def predsVia (done : List String) (w : String) : List String :=
  done.flatMap fun v => List.replicate (stepCount next source v w) v

/-- The tables when these vertices have been popped and these wait, and the neighbors `ws` of the last
popped have been visited. -/
noncomputable def tracked (ids done : List String) (v : String) (ws queue : List String) : Search :=
  let edges w := if distance next source v + 1 = distance next source w then ws.count w else 0
  { stack := v :: done.reverse
    pred := keyed ids fun w => predsVia next source done w ++ List.replicate (edges w) v
    sigma := keyed ids fun w => ((pathsVia next source done w + pathCount next source v * edges w : Nat) : ℚ)
    dist := keyed ids fun w => if w ∈ done ++ v :: queue then (distance next source w : Int) else -1
    queue }

noncomputable def settled (ids done queue : List String) : Search :=
  { stack := done.reverse
    pred := keyed ids (predsVia next source done)
    sigma := keyed ids fun w => (pathsVia next source done w : ℚ)
    dist := keyed ids fun w => if w ∈ done ++ queue then (distance next source w : Int) else -1
    queue }

structure Ordered (seen : List String) : Prop where
  distinct : seen.Nodup
  reaches : ∀ w ∈ seen, Reaches next source w
  sorted : seen.Pairwise fun a b => distance next source a ≤ distance next source b

/-- Between two turns of the queue loop. -/
structure Swept (done queue : List String) : Prop extends Ordered next source (done ++ queue) where
  start : source ∈ done ++ queue
  followed : ∀ v ∈ done, ∀ w ∈ next v, w ∈ done ++ queue
  near : ∀ v ∈ queue.head?, ∀ w ∈ queue, distance next source w ≤ distance next source v + 1

end Tracking

section Levels

variable {next : String → List String} {source : String} {V : Finset String} {done queue : List String}
  {v : String}

-- Everything up to the level in front of the queue has been seen, and what is below it popped.
theorem Swept.complete (swept : Swept next source done queue) (closed : Closed next V) (inside : source ∈ V)
    (level : Nat) (waiting : ∀ w ∈ queue, level ≤ distance next source w) {u : String}
    (reaches : Reaches next source u) (up : distance next source u ≤ level) : u ∈ done ++ queue := by
  induction known : distance next source u generalizing u with
  | zero => rw [← eq_of_distance_zero reaches known]; exact swept.start
  | succ k ih =>
    have apart : source ≠ u := by
      intro same
      rw [← same, distance_self] at known
      cases known
    obtain ⟨p, below, step⟩ := exists_step closed inside reaches apart
    obtain ⟨-, next_level⟩ := stepCount_ne_zero below step
    have seen := ih below (by omega) (by omega)
    have popped : p ∈ done := by
      cases List.mem_append.mp seen with
      | inl popped => exact popped
      | inr waits =>
        have late := waiting p waits
        omega
    apply swept.followed p popped
    rw [stepCount, if_pos (by omega)] at step
    exact List.count_pos_iff.mp (Nat.pos_of_ne_zero step)

theorem Swept.below (swept : Swept next source done queue) (closed : Closed next V) (inside : source ∈ V)
    (level : Nat) (waiting : ∀ w ∈ queue, level ≤ distance next source w) {u : String}
    (reaches : Reaches next source u) (below : distance next source u < level) : u ∈ done := by
  cases List.mem_append.mp (swept.complete closed inside level waiting reaches below.le) with
  | inl popped => exact popped
  | inr waits =>
    have late := waiting u waits
    omega

-- Where all vertices of lower levels have been popped, the paths to a vertex are counted.
theorem pathsVia_eq (closed : Closed next V) (inside : source ∈ V) (distinct : done.Nodup)
    (within : ∀ u ∈ done, u ∈ V) (reaches : Reaches next source v)
    (below : ∀ u, Reaches next source u → distance next source u < distance next source v → u ∈ done) :
    pathsVia next source done v = pathCount next source v := by
  have listed : (done.map fun u => pathCount next source u * stepCount next source u v).sum =
      ∑ u ∈ done.toFinset, pathCount next source u * stepCount next source u v :=
    (List.sum_toFinset _ distinct).symm
  rw [pathsVia, listed]
  by_cases same : v = source
  next =>
    have still : ∀ u ∈ done.toFinset, pathCount next source u * stepCount next source u v = 0 := by
      intro u _
      rw [same, stepCount, distance_self, if_neg (Nat.succ_ne_zero _), Nat.mul_zero]
    rw [if_pos same, Finset.sum_eq_zero still, same, pathCount_self, Nat.add_zero]
  next =>
    rw [if_neg same, Nat.zero_add, pathCount_step closed inside reaches (Ne.symm same)]
    apply Finset.sum_subset
    next => exact fun u member => within u (List.mem_toFinset.mp member)
    next =>
      intro u _ missing
      by_contra both
      have parts := Nat.mul_ne_zero_iff.mp both
      have front : Reaches next source u := ⟨_, Nat.pos_of_ne_zero parts.1⟩
      have level := (stepCount_ne_zero front parts.2).2
      exact missing (List.mem_toFinset.mpr (below u front (by omega)))

end Levels

section Neighbors

variable {next : String → List String} {source : String} {ids done ws queue : List String} {v w : String}

def enqueue (seen queue : List String) (w : String) : List String := if w ∈ seen then queue else queue ++ [w]

theorem mem_enqueue : w ∈ done ++ v :: enqueue (done ++ v :: queue) queue w := by
  rw [enqueue]
  by_cases known : w ∈ done ++ v :: queue
  next => rwa [if_pos known]
  next => simp [known]

theorem subset_enqueue {x : String} (waits : x ∈ queue) (seen : List String) : x ∈ enqueue seen queue w := by
  rw [enqueue]
  split
  next => exact waits
  next => exact List.mem_append_left _ waits

theorem discover_tracked (inIds : w ∈ ids)
    (fresh : w ∉ done ++ v :: queue → distance next source w = distance next source v + 1) :
    Search.discover (distance next source v) (tracked next source ids done v ws queue) w =
      .ok (tracked next source ids done v ws (enqueue (done ++ v :: queue) queue w)) := by
  have known : lookup (tracked next source ids done v ws queue).dist w =
      .ok (if w ∈ done ++ v :: queue then (distance next source w : Int) else -1) := lookup_keyed inIds
  rw [Search.discover, known, ok_bind, enqueue]
  by_cases seen : w ∈ done ++ v :: queue
  next =>
    rw [if_pos seen, if_pos seen, if_neg (by omega)]
    rfl
  next =>
    have level := fresh seen
    rw [if_neg seen, if_neg seen, if_pos (by decide)]
    apply congrArg Except.ok
    simp only [tracked, insert_keyed inIds, Search.mk.injEq, true_and, and_true]
    apply keyed_congr
    intro x _
    by_cases same : x = w
    next => rw [same, Function.update_self, if_pos (by simp), level, Nat.cast_add, Nat.cast_one]
    next =>
      rw [Function.update_of_ne same]
      simp [same]

-- One neighbor more: at the next level it gains a path for each path to `v`, elsewhere nothing changes.
theorem countPaths_tracked (inIds : w ∈ ids) (popped : v ∈ ids) (seen : w ∈ done ++ v :: queue)
    (counted : pathsVia next source done v = pathCount next source v) :
    Search.countPaths v (distance next source v) (tracked next source ids done v ws queue) w =
      .ok (tracked next source ids done v (ws ++ [w]) queue) := by
  have level : lookup (tracked next source ids done v ws queue).dist w =
      .ok (distance next source w : Int) := by
    have read : lookup (tracked next source ids done v ws queue).dist w = _ := lookup_keyed inIds
    rwa [if_pos seen] at read
  rw [Search.countPaths, level, ok_bind]
  by_cases onward : distance next source v + 1 = distance next source w
  next =>
    have own : distance next source v + 1 ≠ distance next source v := Nat.succ_ne_self _
    have sigmaV : lookup (tracked next source ids done v ws queue).sigma v =
        .ok (pathCount next source v : ℚ) := by
      have read : lookup (tracked next source ids done v ws queue).sigma v = _ := lookup_keyed popped
      dsimp only at read
      rwa [if_neg own, Nat.mul_zero, Nat.add_zero, counted] at read
    have sigmaW : lookup (tracked next source ids done v ws queue).sigma w = _ := lookup_keyed inIds
    have predW : lookup (tracked next source ids done v ws queue).pred w = _ := lookup_keyed inIds
    rw [if_pos (by omega), sigmaV, ok_bind, sigmaW, ok_bind, predW, ok_bind]
    apply congrArg Except.ok
    simp only [tracked, insert_keyed inIds, Search.mk.injEq, true_and, and_true]
    constructor
    next =>
      apply keyed_congr
      intro x _
      by_cases same : x = w
      next => simp [same, onward, List.replicate_succ']
      next => simp [same, List.count_append, Ne.symm same]
    next =>
      apply keyed_congr
      intro x _
      by_cases same : x = w
      next =>
        simp [same, onward]
        ring
      next => simp [same, List.count_append, Ne.symm same]
  next =>
    rw [if_neg (by omega)]
    apply congrArg Except.ok
    have kept (x : String) : (if distance next source v + 1 = distance next source x then (ws ++ [w]).count x else 0) =
        if distance next source v + 1 = distance next source x then ws.count x else 0 := by
      by_cases same : x = w
      next => rw [same, if_neg onward, if_neg onward]
      next => simp [List.count_append, Ne.symm same]
    simp only [tracked, kept]

theorem visitNeighbor_tracked (inIds : w ∈ ids) (popped : v ∈ ids)
    (fresh : w ∉ done ++ v :: queue → distance next source w = distance next source v + 1)
    (counted : pathsVia next source done v = pathCount next source v) :
    Search.visitNeighbor v (distance next source v) (tracked next source ids done v ws queue) w =
      .ok (tracked next source ids done v (ws ++ [w]) (enqueue (done ++ v :: queue) queue w)) := by
  rw [Search.visitNeighbor, discover_tracked inIds fresh, ok_bind]
  exact countPaths_tracked inIds popped mem_enqueue counted

structure Scanning (next : String → List String) (source : String) (done : List String) (v : String)
    (queue : List String) : Prop extends Ordered next source (done ++ v :: queue) where
  near : ∀ w ∈ queue, distance next source w ≤ distance next source v + 1
  complete : ∀ u, Reaches next source u → distance next source u ≤ distance next source v → u ∈ done ++ v :: queue

theorem Scanning.level (scanning : Scanning next source done v queue) (edge : w ∈ next v)
    (fresh : w ∉ done ++ v :: queue) : distance next source w = distance next source v + 1 := by
  have reaches : Reaches next source v := scanning.reaches v (by simp)
  have low := distance_edge_le reaches edge
  have high : ¬distance next source w ≤ distance next source v := fun early =>
    fresh (scanning.complete w (reaches.edge edge) early)
  omega

theorem Scanning.enqueue (scanning : Scanning next source done v queue) (edge : w ∈ next v) :
    Scanning next source done v (enqueue (done ++ v :: queue) queue w) := by
  rw [Graph.enqueue]
  split
  next => exact scanning
  next fresh =>
    have level := scanning.level edge fresh
    have last : done ++ v :: (queue ++ [w]) = (done ++ v :: queue) ++ [w] := by simp
    constructor
    case toOrdered =>
      rw [last]
      constructor
      case distinct =>
        apply List.Nodup.append scanning.distinct (List.nodup_singleton w)
        exact List.disjoint_singleton.mpr fresh
      case reaches =>
        intro u member
        cases List.mem_append.mp member with
        | inl old => exact scanning.reaches u old
        | inr new =>
          rw [List.mem_singleton.mp new]
          exact (scanning.reaches v (by simp)).edge edge
      case sorted =>
        rw [List.pairwise_append]
        refine ⟨scanning.sorted, List.pairwise_singleton _ _, ?_⟩
        intro u seen x new
        rw [List.mem_singleton.mp new, level]
        have sorted := List.pairwise_append.mp scanning.sorted
        cases List.mem_append.mp seen with
        | inl popped => exact (sorted.2.2 u popped v List.mem_cons_self).trans (Nat.le_succ _)
        | inr rest =>
          cases List.mem_cons.mp rest with
          | inl same => rw [same]; exact Nat.le_succ _
          | inr waits => exact scanning.near u waits
    case near =>
      intro x member
      cases List.mem_append.mp member with
      | inl old => exact scanning.near x old
      | inr new => rw [List.mem_singleton.mp new, level]
    case complete =>
      intro u reaches early
      rw [last]
      exact List.mem_append_left _ (scanning.complete u reaches early)

-- The neighbor loop, from any point of it on.
theorem visitAll_tracked (closed : ∀ w ∈ next v, w ∈ ids) (popped : v ∈ ids)
    (counted : pathsVia next source done v = pathCount next source v) (rest : List String)
    (edges : ∀ w ∈ rest, w ∈ next v) (ws queue : List String) (scanning : Scanning next source done v queue) :
    ∃ queue', rest.foldlM (Search.visitNeighbor v (distance next source v)) (tracked next source ids done v ws queue) =
        .ok (tracked next source ids done v (ws ++ rest) queue') ∧
      Scanning next source done v queue' ∧ (∀ w ∈ queue, w ∈ queue') ∧
        ∀ w ∈ rest, w ∈ done ++ v :: queue' := by
  induction rest generalizing ws queue with
  | nil => exact ⟨queue, by simp [pure, Except.pure], scanning, fun w waits => waits, by simp⟩
  | cons w rest ih =>
    rw [List.forall_mem_cons] at edges
    obtain ⟨queue', run, scanned, kept, seen⟩ := ih edges.2 (ws ++ [w]) _ (scanning.enqueue edges.1)
    refine ⟨queue', ?_, scanned, fun x waits => kept x (subset_enqueue waits _), ?_⟩
    · rw [List.foldlM_cons, visitNeighbor_tracked (closed w edges.1) popped (scanning.level edges.1) counted, ok_bind, run,
        List.append_assoc, List.singleton_append]
    · rw [List.forall_mem_cons]
      refine ⟨?_, seen⟩
      have here : w ∈ done ++ v :: Graph.enqueue (done ++ v :: queue) queue w := mem_enqueue
      rw [List.mem_append, List.mem_cons] at here ⊢
      exact here.imp id (Or.imp id (kept w))

end Neighbors

section Runs

variable {next : String → List String} {source : String} {ids done queue : List String} {v : String}

theorem tracked_nil (ids done queue : List String) (v : String) :
    { settled next source ids done (v :: queue) with stack := v :: done.reverse, queue } =
      tracked next source ids done v [] queue := by
  simp [settled, tracked]

theorem tracked_all (ids done queue : List String) (v : String) :
    tracked next source ids done v (next v) queue = settled next source ids (done ++ [v]) queue := by
  simp only [settled, tracked, Search.mk.injEq, List.reverse_append, List.reverse_singleton,
    List.singleton_append, List.append_assoc, true_and, and_true]
  constructor
  next =>
    apply keyed_congr
    intro w _
    simp [predsVia, stepCount]
  next =>
    apply keyed_congr
    intro w _
    simp [pathsVia, stepCount, add_assoc]

theorem Swept.scanning (swept : Swept next source done (v :: queue)) (closed : Closed next ids.toFinset)
    (inside : source ∈ ids) : Scanning next source done v queue := by
  have sorted := (List.pairwise_append.mp swept.sorted).2.1
  constructor
  case toOrdered => exact swept.toOrdered
  case near => exact fun w waits => swept.near v rfl w (List.mem_cons_of_mem _ waits)
  case complete =>
    intro u reaches early
    apply swept.complete closed (List.mem_toFinset.mpr inside) _ _ reaches early
    rw [List.forall_mem_cons]
    exact ⟨le_rfl, (List.pairwise_cons.mp sorted).1⟩

theorem Swept.counted (swept : Swept next source done (v :: queue)) (closed : Closed next ids.toFinset)
    (inside : source ∈ ids) : pathsVia next source done v = pathCount next source v := by
  have sourceIn : source ∈ ids.toFinset := List.mem_toFinset.mpr inside
  have sorted := (List.pairwise_append.mp swept.sorted).2.1
  apply pathsVia_eq closed sourceIn (List.nodup_append.mp swept.distinct).1
  case within => exact fun u popped => (swept.reaches u (List.mem_append_left _ popped)).mem closed sourceIn
  case reaches => exact swept.reaches v (by simp)
  case below =>
    intro u reaches lower
    apply swept.below closed sourceIn _ _ reaches lower
    rw [List.forall_mem_cons]
    exact ⟨le_rfl, (List.pairwise_cons.mp sorted).1⟩

theorem Scanning.swept (scanning : Scanning next source done v queue) (start : source ∈ done ++ v :: queue)
    (followed : ∀ u ∈ done, ∀ w ∈ next u, w ∈ done ++ v :: queue)
    (visited : ∀ w ∈ next v, w ∈ done ++ v :: queue) :
    Swept next source (done ++ [v]) queue := by
  have whole : (done ++ [v]) ++ queue = done ++ v :: queue := by simp
  have sorted := (List.pairwise_append.mp scanning.sorted).2.1
  constructor
  case toOrdered =>
    rw [whole]
    exact scanning.toOrdered
  case start => rwa [whole]
  case followed =>
    rw [whole]
    intro u popped
    cases List.mem_append.mp popped with
    | inl old => exact followed u old
    | inr new =>
      rw [List.mem_singleton.mp new]
      exact visited
  case near =>
    intro u front w waits
    have late := (List.pairwise_cons.mp sorted).1 u (List.mem_of_mem_head? front)
    exact (scanning.near w waits).trans (Nat.succ_le_succ late)

-- The queue loop pops every vertex once, so as many turns as there are vertices are enough.
theorem run_settled {adj : String → Option (List String)} (adjacent : ∀ u, (adj u).getD [] = next u)
    (closed : Closed next ids.toFinset) (inside : source ∈ ids) (fuel : Nat)
    (enough : ids.length ≤ done.length + fuel) (swept : Swept next source done queue) :
    ∃ all, Search.run adj fuel (settled next source ids done queue) = .ok (settled next source ids all []) ∧
      Swept next source all [] := by
  have sourceIn : source ∈ ids.toFinset := List.mem_toFinset.mpr inside
  have within : ∀ u ∈ done ++ queue, u ∈ ids := fun u seen =>
    List.mem_toFinset.mp ((swept.reaches u seen).mem closed sourceIn)
  induction fuel generalizing done queue with
  | zero =>
    cases queue with
    | nil => exact ⟨done, rfl, swept⟩
    | cons v rest =>
      have fits := (List.subperm_of_subset swept.distinct within).length_le
      rw [List.length_append, List.length_cons] at fits
      omega
  | succ fuel ih =>
    cases queue with
    | nil => exact ⟨done, rfl, swept⟩
    | cons v rest =>
      have popped : v ∈ ids := within v (by simp)
      have edges : ∀ w ∈ next v, w ∈ ids := fun w edge =>
        List.mem_toFinset.mp (closed v (List.mem_toFinset.mpr popped) w edge)
      obtain ⟨queue', visits, scanned, kept, seen⟩ :=
        visitAll_tracked edges popped (swept.counted closed inside) (next v)
        (fun w edge => edge) [] rest (swept.scanning closed inside)
      have grown : ∀ x ∈ done ++ v :: rest, x ∈ done ++ v :: queue' := by
        intro x member
        rw [List.mem_append, List.mem_cons] at member ⊢
        exact member.imp id (Or.imp id (kept x))
      have after := scanned.swept (grown source swept.start)
        (fun u old w edge => grown w (swept.followed u old w edge)) seen
      rw [List.nil_append, tracked_all] at visits
      obtain ⟨all, run, done_⟩ := ih (by rw [List.length_append, List.length_singleton]; omega) after
        (fun u member => List.mem_toFinset.mp ((after.reaches u member).mem closed sourceIn))
      refine ⟨all, ?_, done_⟩
      have level : lookup (settled next source ids done (v :: rest)).dist v =
          .ok (distance next source v : Int) := by
        have read : lookup (settled next source ids done (v :: rest)).dist v = _ := lookup_keyed popped
        rwa [if_pos (by simp)] at read
      rw [← run]
      change (lookup (settled next source ids done (v :: rest)).dist v >>= fun dV =>
        ((adj v).getD []).foldlM (Search.visitNeighbor v dV)
          { settled next source ids done (v :: rest) with stack := v :: done.reverse, queue := rest } >>=
            Search.run adj fuel) = _
      rw [level, ok_bind, tracked_nil, adjacent, visits, ok_bind]

-- What a finished search holds.
theorem Swept.all (swept : Swept next source done []) (closed : Closed next ids.toFinset)
    (inside : source ∈ ids) :
    ∀ u, Reaches next source u ↔ u ∈ done := by
  intro u
  constructor
  next =>
    intro reaches
    exact swept.below closed (List.mem_toFinset.mpr inside) (distance next source u + 1) (by simp) reaches
      (Nat.lt_succ_self _)
  next => exact fun popped => swept.reaches u (List.mem_append_left _ popped)

theorem start_settled (inside : source ∈ ids) :
    Search.start ids source = settled next source ids [] [source] := by
  simp only [Search.start, settled, insert_keyed inside, Search.mk.injEq, List.reverse_nil, List.nil_append,
    true_and, and_true]
  refine ⟨rfl, keyed_congr fun w _ => ?_, keyed_congr fun w _ => ?_⟩
  · by_cases same : w = source <;> simp [same, pathsVia]
  · by_cases same : w = source <;> simp [same, distance_self]

theorem start_swept : Swept next source [] [source] := by
  constructor
  case toOrdered =>
    constructor
    case distinct => exact List.nodup_singleton source
    case reaches =>
      intro w member
      rw [List.mem_singleton.mp member]
      exact reaches_self source
    case sorted => exact List.pairwise_singleton _ _
  case start => exact List.mem_singleton_self source
  case followed => exact fun v popped => absurd popped List.not_mem_nil
  case near =>
    intro v front w member
    rw [List.mem_singleton.mp member, distance_self]
    exact Nat.zero_le _

end Runs

end SparkRsi.Graph
