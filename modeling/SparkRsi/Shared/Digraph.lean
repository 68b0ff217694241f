import Mathlib.Algebra.BigOperators.Field
import Mathlib.Algebra.Order.BigOperators.Group.Finset
import Mathlib.Algebra.Order.Field.Rat
import Mathlib.Order.Lattice.Nat
import Mathlib.Tactic.Ring

set_option autoImplicit false

/-!
# Walks of a directed graph

A graph is the list of targets of each vertex; a target listed twice is reached
by two parallel edges, which make two walks.
-/

namespace Shared.Digraph

open Finset

variable {α : Type} [DecidableEq α] (next : α → List α)

/-- The walks of `k` steps from `s`, each as the vertices it visits. -/
def walks : Nat → α → List (List α)
  | 0, s => [[s]]
  | k + 1, s => (next s).flatMap fun w => (walks k w).map (s :: ·)

def walksTo (k : Nat) (s t : α) : List (List α) := (walks next k s).filter fun path => path.getLast? = some t

def walkCount (k : Nat) (s t : α) : Nat := (walksTo next k s t).length

def Reaches (s t : α) : Prop := ∃ k, 0 < walkCount next k s t

noncomputable def distance (s t : α) : Nat := sInf {k | 0 < walkCount next k s t}

noncomputable def shortestPaths (s t : α) : List (List α) := walksTo next (distance next s t) s t

noncomputable def pathCount (s t : α) : Nat := (shortestPaths next s t).length

noncomputable def throughCount (s v t : α) : Nat := ((shortestPaths next s t).filter (v ∈ ·)).length

section Walks

variable {next}

omit [DecidableEq α] in
theorem walks_start {k : Nat} {s : α} {path : List α} (walk : path ∈ walks next k s) :
    ∃ rest, path = s :: rest := by
  cases k with
  | zero => exact ⟨[], List.mem_singleton.mp walk⟩
  | succ k =>
    obtain ⟨w, _, walk⟩ := List.mem_flatMap.mp walk
    obtain ⟨rest, _, rfl⟩ := List.mem_map.mp walk
    exact ⟨rest, rfl⟩

omit [DecidableEq α] in
-- Counting walks by their first step.
theorem countP_walks_succ (k : Nat) (s : α) (p : List α → Bool) :
    (walks next (k + 1) s).countP p =
      ((next s).map fun w => (walks next k w).countP fun path => p (s :: path)).sum := by
  rw [walks, List.countP_flatMap]
  congr 2
  funext w
  exact List.countP_map

theorem walkCount_eq_countP (k : Nat) (s t : α) :
    walkCount next k s t = (walks next k s).countP fun path => path.getLast? = some t :=
  List.countP_eq_length_filter.symm

theorem walkCount_zero (s t : α) : walkCount next 0 s t = if s = t then 1 else 0 := by
  rw [walkCount_eq_countP, walks, List.countP_singleton]
  simp

theorem walkCount_succ (k : Nat) (s t : α) :
    walkCount next (k + 1) s t = ((next s).map fun w => walkCount next k w t).sum := by
  rw [walkCount_eq_countP, countP_walks_succ]
  congr 2
  funext w
  rw [walkCount_eq_countP]
  apply List.countP_congr
  intro path walk
  obtain ⟨rest, rfl⟩ := walks_start walk
  rw [List.getLast?_cons_cons]

-- A walk that is at `v` after `i` steps is a walk to `v` and one from there.
theorem countP_walks_at (i k : Nat) (s v t : α) :
    ((walksTo next (i + k) s t).countP fun path => path[i]? = some v) =
      walkCount next i s v * walkCount next k v t := by
  rw [walksTo, List.countP_filter]
  induction i generalizing s with
  | zero =>
    rw [walkCount_zero, Nat.zero_add]
    by_cases same : s = v
    next =>
      rw [if_pos same, Nat.one_mul, ← same, walkCount_eq_countP]
      apply List.countP_congr
      intro path walk
      obtain ⟨rest, rfl⟩ := walks_start walk
      simp
    next =>
      rw [if_neg same, Nat.zero_mul, List.countP_eq_zero]
      intro path walk
      obtain ⟨rest, rfl⟩ := walks_start walk
      simp [same]
  | succ i ih =>
    rw [Nat.succ_add, countP_walks_succ, walkCount_succ, ← List.sum_map_mul_right]
    congr 2
    funext w
    rw [← ih]
    apply List.countP_congr
    intro path walk
    obtain ⟨rest, rfl⟩ := walks_start walk
    rw [List.getLast?_cons_cons, List.getElem?_cons_succ]

theorem walkCount_one (s t : α) : walkCount next 1 s t = (next s).count t := by
  rw [walkCount_succ]
  induction next s with
  | nil => rfl
  | cons w rest ih =>
    rw [List.map_cons, List.sum_cons, ih, walkCount_zero, List.count_cons]
    simp [beq_iff_eq, Nat.add_comm]

theorem walkCount_pos_trans {i k : Nat} {s v t : α} (front : 0 < walkCount next i s v)
    (back : 0 < walkCount next k v t) :
    0 < walkCount next (i + k) s t := by
  have both := Nat.mul_pos front back
  rw [← countP_walks_at] at both
  exact both.trans_le List.countP_le_length

theorem edge_walk {s t : α} (edge : t ∈ next s) : 0 < walkCount next 1 s t := by
  rw [walkCount_one]
  exact List.count_pos_iff.mpr edge

end Walks

section Distances

variable {next} {s t v w : α} {k : Nat}

theorem distance_le (walk : 0 < walkCount next k s t) : distance next s t ≤ k := Nat.sInf_le walk

theorem Reaches.walk (reaches : Reaches next s t) : 0 < walkCount next (distance next s t) s t :=
  Nat.sInf_mem reaches

theorem reaches_self (s : α) : Reaches next s s := ⟨0, by simp [walkCount_zero]⟩

theorem distance_self (s : α) : distance next s s = 0 :=
  Nat.le_zero.mp (distance_le (by simp [walkCount_zero]))

theorem eq_of_distance_zero (reaches : Reaches next s t) (zero : distance next s t = 0) : s = t := by
  have walk := reaches.walk
  rw [zero, walkCount_zero] at walk
  by_contra apart
  rw [if_neg apart] at walk
  exact Nat.lt_irrefl 0 walk

theorem Reaches.edge (reaches : Reaches next s v) (edge : w ∈ next v) : Reaches next s w :=
  ⟨_, walkCount_pos_trans reaches.walk (edge_walk edge)⟩

theorem distance_edge_le (reaches : Reaches next s v) (edge : w ∈ next v) :
    distance next s w ≤ distance next s v + 1 :=
  distance_le (walkCount_pos_trans reaches.walk (edge_walk edge))

theorem pathCount_eq (s t : α) : pathCount next s t = walkCount next (distance next s t) s t := rfl

theorem pathCount_pos (reaches : Reaches next s t) : 0 < pathCount next s t := reaches.walk

theorem pathCount_self (s : α) : pathCount next s s = 1 := by
  rw [pathCount_eq, distance_self, walkCount_zero, if_pos rfl]

omit [DecidableEq α] in
theorem walks_length {path : List α} (walk : path ∈ walks next k s) : path.length = k + 1 := by
  induction k generalizing s path with
  | zero => rw [List.mem_singleton.mp walk, List.length_singleton]
  | succ k ih =>
    obtain ⟨w, _, behind⟩ := List.mem_flatMap.mp walk
    obtain ⟨rest, onward, rfl⟩ := List.mem_map.mp behind
    rw [List.length_cons, ih onward]

-- A vertex on a shortest path stands on it at its own distance.
theorem distance_on_path {i : Nat} {path : List α} (shortest : path ∈ shortestPaths next s t)
    (here : path[i]? = some v) :
    Reaches next s v ∧ i = distance next s v := by
  have inside : i < distance next s t + 1 := by
    rw [← walks_length (List.mem_filter.mp shortest).1]
    exact (List.getElem?_eq_some_iff.mp here).1
  obtain ⟨k, whole⟩ := Nat.exists_eq_add_of_le (Nat.lt_succ_iff.mp inside)
  have both : 0 < walkCount next i s v * walkCount next k v t := by
    rw [← countP_walks_at, ← whole, List.countP_pos_iff]
    exact ⟨path, shortest, decide_eq_true here⟩
  have front := Nat.pos_of_mul_pos_right both
  have back := Nat.pos_of_mul_pos_left both
  have reaches : Reaches next s v := ⟨i, front⟩
  have early := distance_le front
  have late := distance_le (walkCount_pos_trans reaches.walk back)
  exact ⟨reaches, by omega⟩

noncomputable def onward (next : α → List α) (s v t : α) : Nat :=
  if distance next s v ≤ distance next s t then walkCount next (distance next s t - distance next s v) v t else 0

theorem throughCount_eq (s v t : α) : throughCount next s v t = pathCount next s v * onward next s v t := by
  have placed : throughCount next s v t =
      (shortestPaths next s t).countP fun path => path[distance next s v]? = some v := by
    rw [throughCount, ← List.countP_eq_length_filter]
    apply List.countP_congr
    intro path shortest
    rw [decide_eq_true_iff, decide_eq_true_iff]
    constructor
    next =>
      intro on
      obtain ⟨i, here⟩ := List.mem_iff_getElem?.mp on
      rwa [(distance_on_path shortest here).2] at here
    next => exact List.mem_of_getElem?
  rw [placed, onward]
  by_cases early : distance next s v ≤ distance next s t
  next =>
    obtain ⟨k, whole⟩ := Nat.exists_eq_add_of_le early
    rw [if_pos early, shortestPaths, whole, Nat.add_sub_cancel_left, countP_walks_at, pathCount_eq]
  next =>
    rw [if_neg early, Nat.mul_zero, List.countP_eq_zero]
    intro path shortest here
    have length := walks_length (List.mem_filter.mp shortest).1
    have inside := (List.getElem?_eq_some_iff.mp (of_decide_eq_true here)).1
    omega

theorem throughCount_unreached (unreached : ¬Reaches next s v) : throughCount next s v t = 0 := by
  rw [throughCount, List.length_eq_zero_iff, List.filter_eq_nil_iff]
  intro path shortest on
  obtain ⟨i, here⟩ := List.mem_iff_getElem?.mp (of_decide_eq_true on)
  exact unreached (distance_on_path shortest here).1

end Distances

section Closed

variable {next} {V : Finset α} {s t v w : α} {k : Nat}

def Closed (next : α → List α) (V : Finset α) : Prop := ∀ v ∈ V, ∀ w ∈ next v, w ∈ V

-- A sum over edges is one over their targets, each as often as it is listed.
theorem sum_map_next (closed : Closed next V) (inside : v ∈ V) (f : α → Nat) :
    ((next v).map f).sum = ∑ w ∈ V, (next v).count w * f w := by
  rw [Finset.sum_list_map_count]
  simp only [nsmul_eq_mul, Nat.cast_id]
  apply Finset.sum_subset
  next => exact fun w member => closed v inside w (List.mem_toFinset.mp member)
  next =>
    intro w _ missing
    rw [List.count_eq_zero_of_not_mem (fun member => missing (List.mem_toFinset.mpr member)), Nat.zero_mul]

-- Counting walks by their last step.
theorem walkCount_succ_last (closed : Closed next V) (inside : s ∈ V) (k : Nat) (t : α) :
    walkCount next (k + 1) s t = ∑ v ∈ V, walkCount next k s v * (next v).count t := by
  induction k generalizing s with
  | zero =>
    rw [Nat.zero_add, walkCount_one, Finset.sum_eq_single s]
    next => rw [walkCount_zero, if_pos rfl, Nat.one_mul]
    next =>
      intro v _ apart
      rw [walkCount_zero, if_neg (Ne.symm apart), Nat.zero_mul]
    next => exact fun outside => absurd inside outside
  | succ k ih =>
    rw [walkCount_succ, sum_map_next closed inside]
    have inner : ∀ w ∈ V, (next s).count w * walkCount next (k + 1) w t =
        ∑ v ∈ V, (next s).count w * walkCount next k w v * (next v).count t := by
      intro w member
      rw [ih member, Finset.mul_sum]
      exact Finset.sum_congr rfl fun v _ => (Nat.mul_assoc _ _ _).symm
    rw [Finset.sum_congr rfl inner, Finset.sum_comm]
    apply Finset.sum_congr rfl
    intro v _
    rw [walkCount_succ, sum_map_next closed inside, Finset.sum_mul]

theorem Reaches.mem (closed : Closed next V) (inside : s ∈ V) (reaches : Reaches next s t) : t ∈ V := by
  obtain ⟨k, walk⟩ := reaches
  induction k generalizing s with
  | zero =>
    rw [walkCount_zero] at walk
    by_cases same : s = t
    next => rwa [← same]
    next => simp [same] at walk
  | succ k ih =>
    rw [walkCount_succ, sum_map_next closed inside] at walk
    obtain ⟨w, member, edge⟩ := Finset.exists_ne_zero_of_sum_ne_zero walk.ne'
    exact ih member (Nat.pos_of_ne_zero (right_ne_zero_of_mul edge))

-- Shortest paths end with an edge from the level below.
theorem walkCount_level (reaches : Reaches next s v) (level : distance next s w = k + 1)
    (edge : (next v).count w ≠ 0) (walk : walkCount next k s v ≠ 0) : distance next s v = k := by
  have early := distance_le (Nat.pos_of_ne_zero walk)
  have late := distance_edge_le reaches (List.count_pos_iff.mp (Nat.pos_of_ne_zero edge))
  omega

noncomputable def stepCount (next : α → List α) (s v w : α) : Nat :=
  if distance next s v + 1 = distance next s w then (next v).count w else 0

theorem pathCount_step (closed : Closed next V) (inside : s ∈ V) (reaches : Reaches next s t)
    (apart : s ≠ t) :
    pathCount next s t = ∑ v ∈ V, pathCount next s v * stepCount next s v t := by
  obtain ⟨k, level⟩ : ∃ k, distance next s t = k + 1 :=
    Nat.exists_eq_succ_of_ne_zero fun zero => apart (eq_of_distance_zero reaches zero)
  rw [pathCount_eq, level, walkCount_succ_last closed inside]
  apply Finset.sum_congr rfl
  intro v _
  rw [stepCount, level, pathCount_eq]
  by_cases below : distance next s v = k
  next => rw [below, if_pos rfl]
  next =>
    rw [if_neg (fun same => below (Nat.succ_injective same)), Nat.mul_zero]
    by_contra walk
    have parts := Nat.mul_ne_zero_iff.mp walk
    exact below (walkCount_level ⟨k, Nat.pos_of_ne_zero parts.1⟩ level parts.2 parts.1)

theorem stepCount_ne_zero (reaches : Reaches next s v) (step : stepCount next s v w ≠ 0) :
    Reaches next s w ∧ distance next s w = distance next s v + 1 := by
  rw [stepCount] at step
  split at step
  next level => exact ⟨reaches.edge (List.count_pos_iff.mp (Nat.pos_of_ne_zero step)), level.symm⟩
  next => exact absurd rfl step

-- A vertex besides the source is the end of an edge from the level below.
theorem exists_step (closed : Closed next V) (inside : s ∈ V) (reaches : Reaches next s t) (apart : s ≠ t) :
    ∃ v, Reaches next s v ∧ stepCount next s v t ≠ 0 := by
  have paths := pathCount_pos reaches
  rw [pathCount_step closed inside reaches apart] at paths
  obtain ⟨v, _, both⟩ := Finset.exists_ne_zero_of_sum_ne_zero paths.ne'
  have parts := Nat.mul_ne_zero_iff.mp both
  exact ⟨v, ⟨_, Nat.pos_of_ne_zero parts.1⟩, parts.2⟩

end Closed

section Dependencies

variable {next} {V : Finset α} {s t v w : α}

noncomputable def reached (next : α → List α) (V : Finset α) (s : α) : Finset α :=
  open Classical in V.filter fun t => Reaches next s t

theorem mem_reached : t ∈ reached next V s ↔ t ∈ V ∧ Reaches next s t := by
  classical
  simp [reached]

/-- The share of shortest paths from `s` that pass through `v`, over all targets besides both. -/
noncomputable def dependency (next : α → List α) (V : Finset α) (s v : α) : ℚ :=
  ∑ t ∈ ((reached next V s).erase s).erase v, (throughCount next s v t : ℚ) / pathCount next s t

theorem onward_self (s v : α) : onward next s v v = 1 := by
  rw [onward, if_pos le_rfl, Nat.sub_self, walkCount_zero, if_pos rfl]

-- From one level to the next: the walks on to another vertex begin with an edge to the next level.
theorem onward_step (closed : Closed next V) (inside : v ∈ V) (reaches : Reaches next s v)
    (apart : v ≠ t) :
    onward next s v t = ∑ w ∈ V, stepCount next s v w * onward next s w t := by
  by_cases before : distance next s v < distance next s t
  next =>
    obtain ⟨k, whole⟩ := Nat.exists_eq_add_of_lt before
    have steps : distance next s t - distance next s v = k + 1 := by omega
    rw [onward, if_pos before.le, steps, walkCount_succ, sum_map_next closed inside]
    apply Finset.sum_congr rfl
    intro w _
    by_cases edge : w ∈ next v
    next =>
      have below := distance_edge_le reaches edge
      by_cases level : distance next s v + 1 = distance next s w
      next =>
        have left : distance next s t - distance next s w = k := by omega
        rw [stepCount, if_pos level, onward, if_pos (by omega), left]
      next =>
        rw [stepCount, if_neg level, Nat.zero_mul, Nat.mul_eq_zero]
        right
        -- A walk from there would be a shorter way to `t`.
        by_contra walk
        have shorter := distance_le (walkCount_pos_trans (reaches.edge edge).walk (Nat.pos_of_ne_zero walk))
        omega
    next =>
      have none := List.count_eq_zero_of_not_mem edge
      rw [stepCount, none, ite_self, Nat.zero_mul, Nat.zero_mul]
  next =>
    have here : onward next s v t = 0 := by
      rw [onward]
      by_cases level : distance next s v ≤ distance next s t
      next => rw [if_pos level, Nat.sub_eq_zero_of_le (by omega), walkCount_zero, if_neg apart]
      next => rw [if_neg level]
    rw [here]
    symm
    apply Finset.sum_eq_zero
    intro w _
    rw [stepCount]
    split
    next level => rw [onward, if_neg (by omega), Nat.mul_zero]
    next => exact Nat.zero_mul _

theorem onward_behind (level : distance next s t < distance next s v) : onward next s v t = 0 :=
  if_neg (by omega)

-- The number of paths to `v`, spread over the paths to all targets behind it.
theorem dependency_eq (reaches : Reaches next s v) :
    dependency next V s v =
      pathCount next s v * ∑ t ∈ (reached next V s).erase v, (onward next s v t : ℚ) / pathCount next s t := by
  have spread (t : α) : (throughCount next s v t : ℚ) / pathCount next s t =
      pathCount next s v * ((onward next s v t : ℚ) / pathCount next s t) := by
    rw [throughCount_eq, Nat.cast_mul, mul_div_assoc]
  rw [dependency, Finset.sum_congr rfl fun t _ => spread t, ← Finset.mul_sum]
  congr 1
  by_cases source : v = s
  next => rw [source, Finset.erase_idem]
  next =>
    have positive : distance next s s < distance next s v := by
      rw [distance_self]
      exact Nat.pos_of_ne_zero fun zero => source (eq_of_distance_zero reaches zero).symm
    rw [Finset.erase_right_comm]
    exact Finset.sum_erase _ (by rw [onward_behind positive, Nat.cast_zero, zero_div])

theorem onward_sum (inside : v ∈ V) (reaches : Reaches next s v) :
    ∑ t ∈ reached next V s, (onward next s v t : ℚ) / pathCount next s t =
      (1 + dependency next V s v) / pathCount next s v := by
  have filled : (pathCount next s v : ℚ) ≠ 0 := Nat.cast_ne_zero.mpr (pathCount_pos reaches).ne'
  rw [dependency_eq reaches, ← Finset.add_sum_erase _ _ (mem_reached.mpr ⟨inside, reaches⟩), onward_self,
    add_div, mul_div_cancel_left₀ _ filled, Nat.cast_one]

-- What depends on `v` through an edge depends on it by its share of the paths to that edge's end.
theorem dependency_step (closed : Closed next V) (source : s ∈ V) (reaches : Reaches next s v) :
    dependency next V s v =
      ∑ w ∈ reached next V s,
        stepCount next s v w * ((pathCount next s v : ℚ) / pathCount next s w * (1 + dependency next V s w)) := by
  have inside := reaches.mem closed source
  have reachedOnly (t : α) : ∑ w ∈ V, stepCount next s v w * onward next s w t =
      ∑ w ∈ reached next V s, stepCount next s v w * onward next s w t := by
    symm
    apply Finset.sum_subset
    next => exact fun w member => (mem_reached.mp member).1
    next =>
      intro w member outside
      have still : stepCount next s v w = 0 := by
        by_contra step
        exact outside (mem_reached.mpr ⟨member, (stepCount_ne_zero reaches step).1⟩)
      rw [still, Nat.zero_mul]
  have own : ∑ w ∈ reached next V s, stepCount next s v w * onward next s w v = 0 := by
    apply Finset.sum_eq_zero
    intro w _
    by_cases step : stepCount next s v w = 0
    next => rw [step, Nat.zero_mul]
    next =>
      have level := (stepCount_ne_zero reaches step).2
      rw [onward_behind (by omega), Nat.mul_zero]
  have onwards : ∀ t ∈ (reached next V s).erase v, (onward next s v t : ℚ) / pathCount next s t =
      ((∑ w ∈ reached next V s, stepCount next s v w * onward next s w t : Nat) : ℚ) / pathCount next s t := by
    intro t member
    rw [onward_step closed inside reaches (Finset.ne_of_mem_erase member).symm, reachedOnly]
  calc dependency next V s v
      = pathCount next s v * ∑ t ∈ reached next V s,
          ((∑ w ∈ reached next V s, stepCount next s v w * onward next s w t : Nat) : ℚ) / pathCount next s t := by
        rw [dependency_eq reaches, Finset.sum_congr rfl onwards]
        congr 1
        exact Finset.sum_erase _ (by rw [own, Nat.cast_zero, zero_div])
    _ = ∑ w ∈ reached next V s, stepCount next s v w *
          (pathCount next s v * ∑ t ∈ reached next V s, (onward next s w t : ℚ) / pathCount next s t) := by
        simp only [Nat.cast_sum, Nat.cast_mul, Finset.sum_div, Finset.mul_sum]
        rw [Finset.sum_comm]
        refine Finset.sum_congr rfl fun w _ => Finset.sum_congr rfl fun t _ => ?_
        ring
    _ = ∑ w ∈ reached next V s,
          stepCount next s v w * ((pathCount next s v : ℚ) / pathCount next s w * (1 + dependency next V s w)) := by
        refine Finset.sum_congr rfl fun w member => ?_
        rw [onward_sum (mem_reached.mp member).1 (mem_reached.mp member).2]
        ring

theorem dependency_unreached (unreached : ¬Reaches next s v) : dependency next V s v = 0 := by
  apply Finset.sum_eq_zero
  intro t _
  rw [throughCount_unreached unreached, Nat.cast_zero, zero_div]

/-- Over all ordered pairs of other vertices, the share of the shortest paths that pass through `v`. -/
noncomputable def betweenness (next : α → List α) (V : Finset α) (v : α) : ℚ :=
  open Classical in
  ∑ s ∈ V, ∑ t ∈ V,
    if s ≠ t ∧ s ≠ v ∧ t ≠ v ∧ Reaches next s t then (throughCount next s v t : ℚ) / pathCount next s t else 0

theorem betweenness_eq (next : α → List α) (V : Finset α) (v : α) :
    betweenness next V v = ∑ s ∈ V, if s = v then 0 else dependency next V s v := by
  classical
  apply Finset.sum_congr rfl
  intro s _
  by_cases same : s = v
  next =>
    rw [if_pos same]
    exact Finset.sum_eq_zero fun t _ => if_neg fun pair => pair.2.1 same
  next =>
    rw [if_neg same, dependency, ← Finset.sum_filter]
    apply Finset.sum_congr _ fun _ _ => rfl
    ext t
    simp only [Finset.mem_filter, Finset.mem_erase, mem_reached]
    tauto

end Dependencies

section Reordered

variable {next} {next' : α → List α} (same : ∀ v, (next v).Perm (next' v))

omit [DecidableEq α] in
include same in
theorem walks_perm (k : Nat) (s : α) : (walks next k s).Perm (walks next' k s) := by
  induction k generalizing s with
  | zero => exact List.Perm.refl _
  | succ k ih => exact (same s).flatMap fun w _ => (ih w).map _

include same in
theorem walksTo_perm (k : Nat) (s t : α) : (walksTo next k s t).Perm (walksTo next' k s t) :=
  (walks_perm same k s).filter _

include same in
theorem walkCount_perm (k : Nat) (s t : α) : walkCount next k s t = walkCount next' k s t :=
  (walksTo_perm same k s t).length_eq

include same in
theorem distance_perm (s t : α) : distance next s t = distance next' s t := by
  simp only [distance, walkCount_perm same]

include same in
theorem shortestPaths_perm (s t : α) : (shortestPaths next s t).Perm (shortestPaths next' s t) := by
  rw [shortestPaths, shortestPaths, distance_perm same]
  exact walksTo_perm same _ s t

include same in
-- Betweenness does not depend on the order in which edges are listed.
theorem betweenness_perm (V : Finset α) (v : α) : betweenness next V v = betweenness next' V v := by
  have reaches (s t : α) : Reaches next s t ↔ Reaches next' s t := by simp only [Reaches, walkCount_perm same]
  have through (s t : α) : throughCount next s v t = throughCount next' s v t :=
    ((shortestPaths_perm same s t).filter _).length_eq
  have paths (s t : α) : pathCount next s t = pathCount next' s t := (shortestPaths_perm same s t).length_eq
  unfold betweenness
  simp only [through, paths]
  apply Finset.sum_congr rfl
  intro s _
  apply Finset.sum_congr rfl
  intro t _
  congr 1
  rw [reaches]

end Reordered

section Bounds

theorem betweenness_nonneg (next : α → List α) (V : Finset α) (v : α) : 0 ≤ betweenness next V v := by
  apply Finset.sum_nonneg
  intro s _
  apply Finset.sum_nonneg
  intro t _
  split
  next => exact div_nonneg (Nat.cast_nonneg _) (Nat.cast_nonneg _)
  next => exact le_rfl

-- Each ordered pair adds at most one.
theorem betweenness_le (next : α → List α) (V : Finset α) (v : α) :
    betweenness next V v ≤ (V.card : ℚ) * V.card := by
  have pair (s t : α) : (throughCount next s v t : ℚ) / pathCount next s t ≤ 1 := by
    apply div_le_one_of_le₀ _ (Nat.cast_nonneg _)
    exact Nat.cast_le.mpr (List.length_filter_le _ _)
  rw [← nsmul_eq_mul]
  apply Finset.sum_le_card_nsmul
  intro s _
  rw [← nsmul_one]
  apply Finset.sum_le_card_nsmul
  intro t _
  split
  next => exact pair s t
  next => exact zero_le_one

end Bounds

end Shared.Digraph
