import Mathlib.Data.List.Nodup
import Mathlib.Logic.Relation

set_option autoImplicit false

/-!
# Graphs listed parents first

A list of nodes, each with a key and the keys of its parents, where a node's
parents stand in front of it.
-/

namespace Shared

variable {ν κ : Type} (key : ν → κ) (parents : ν → List κ)

/-- Every node's parents are known or stand in front of it. -/
def Grounded : List κ → List ν → Prop
  | _, [] => True
  | known, n :: rest => (∀ p ∈ parents n, p ∈ known) ∧ Grounded (known ++ [key n]) rest

namespace Grounded

variable {key parents} {known : List κ} {nodes more : List ν}

theorem append : Grounded key parents known (nodes ++ more) ↔
    Grounded key parents known nodes ∧ Grounded key parents (known ++ nodes.map key) more := by
  induction nodes generalizing known with
  | nil => simp [Grounded]
  | cons n rest ih => simp [Grounded, ih, and_assoc]

theorem weaken {further : List κ} (within : ∀ k ∈ known, k ∈ further)
    (grounded : Grounded key parents known nodes) :
    Grounded key parents further nodes := by
  induction nodes generalizing known further with
  | nil => trivial
  | cons n rest ih =>
    constructor
    next => exact fun p member => within p (grounded.1 p member)
    next =>
      apply ih _ grounded.2
      intro k member
      rw [List.mem_append] at member ⊢
      exact member.imp_left (within k)

-- Nodes whose parents are all known.
theorem of_known (each : ∀ n ∈ nodes, ∀ p ∈ parents n, p ∈ known) : Grounded key parents known nodes := by
  induction nodes generalizing known with
  | nil => trivial
  | cons n rest ih =>
    rw [List.forall_mem_cons] at each
    constructor
    next => exact each.1
    next => exact ih fun m member p listed => List.mem_append_left _ (each.2 m member p listed)

theorem parents_earlier (grounded : Grounded key parents known nodes) {before after : List ν} {n : ν}
    (split : nodes = before ++ n :: after) {p : κ} (parent : p ∈ parents n) :
    p ∈ known ++ before.map key := by
  rw [split, append] at grounded
  exact grounded.2.1 p parent

def Edge (key : ν → κ) (parents : ν → List κ) (nodes : List ν) (child parent : κ) : Prop :=
  ∃ n ∈ nodes, key n = child ∧ parent ∈ parents n

theorem edge_descends [DecidableEq κ] (unique : (nodes.map key).Nodup)
    (grounded : Grounded key parents [] nodes) {child parent : κ}
    (edge : Edge key parents nodes child parent) :
    (nodes.map key).idxOf parent < (nodes.map key).idxOf child := by
  obtain ⟨n, member, rfl, listed⟩ := edge
  obtain ⟨before, after, split⟩ := List.append_of_mem member
  have earlier : parent ∈ before.map key := by simpa using parents_earlier grounded split listed
  rw [split, List.map_append, List.map_cons] at unique ⊢
  have fresh : key n ∉ before.map key := fun also =>
    List.disjoint_of_nodup_append unique also List.mem_cons_self
  rw [List.idxOf_append_of_mem earlier, List.idxOf_append_of_notMem fresh, List.idxOf_cons_self, Nat.add_zero]
  exact List.idxOf_lt_length_iff.mpr earlier

-- Every parent is a node's key.
theorem closed (grounded : Grounded key parents [] nodes) {child parent : κ}
    (edge : Edge key parents nodes child parent) : parent ∈ nodes.map key := by
  obtain ⟨n, member, -, listed⟩ := edge
  obtain ⟨before, after, split⟩ := List.append_of_mem member
  rw [split, List.map_append]
  apply List.mem_append_left
  simpa using parents_earlier grounded split listed

theorem acyclic [DecidableEq κ] (unique : (nodes.map key).Nodup) (grounded : Grounded key parents [] nodes)
    (k : κ) :
    ¬Relation.TransGen (Edge key parents nodes) k k := by
  have descends {a b : κ} (path : Relation.TransGen (Edge key parents nodes) a b) :
      (nodes.map key).idxOf b < (nodes.map key).idxOf a := by
    induction path with
    | single edge => exact edge_descends unique grounded edge
    | tail _ edge ih => exact Nat.lt_trans (edge_descends unique grounded edge) ih
  exact fun cycle => Nat.lt_irrefl _ (descends cycle)

end Grounded

-- Groups under one label each, no label twice, and no element twice in a group.
theorem nodup_of_labels {label : ν → κ} {groups : List (κ × List ν)}
    (each : ∀ g ∈ groups, ∀ x ∈ g.2, label x = g.1) (distinct : (groups.map Prod.fst).Nodup)
    (inside : ∀ g ∈ groups, g.2.Nodup) : (groups.flatMap Prod.snd).Nodup := by
  induction groups with
  | nil => exact List.nodup_nil
  | cons g rest ih =>
    rw [List.map_cons, List.nodup_cons] at distinct
    rw [List.forall_mem_cons] at each inside
    rw [List.flatMap_cons, List.nodup_append']
    refine ⟨inside.1, ih each.2 distinct.2 inside.2, ?_⟩
    intro x first second
    obtain ⟨other, listed, member⟩ := List.mem_flatMap.mp second
    apply distinct.1
    rw [← each.1 x first, each.2 other listed x member]
    exact List.mem_map_of_mem listed

end Shared
