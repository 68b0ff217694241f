import Mathlib.Data.List.Nodup
import Mathlib.Data.Set.Function

set_option autoImplicit false

/-!
# Binary hash trees with duplicated odd nodes

A tree over a list of leaves: neighbours are combined level by level, and the
last node of an odd level is combined with itself. Injectivity of `node` is only
ever needed on the pairs a tree combines.
-/

namespace Shared.HashTree

variable {α : Type} (node : α → α → α)

def pairs : List α → List (α × α)
  | [] => []
  | [a] => [(a, a)]
  | a :: b :: rest => (a, b) :: pairs rest

def levelUp (level : List α) : List α := (pairs level).map fun p => node p.1 p.2

theorem pairs_length (level : List α) : (pairs level).length = (level.length + 1) / 2 := by
  fun_induction pairs level with
  | case1 => simp
  | case2 a => simp
  | case3 a b rest ih => simp only [List.length_cons, ih]; omega

@[simp] theorem levelUp_length (level : List α) :
    (levelUp node level).length = (level.length + 1) / 2 := by
  simp [levelUp, pairs_length]

/-- Combines levels until at most one node is left; `fuel` bounds the levels. -/
def collapseWithin : Nat → List α → List α
  | 0, level => level
  | fuel + 1, level => if 1 < level.length then collapseWithin fuel (levelUp node level) else level

def collapse (level : List α) : List α := collapseWithin node level.length level

def hashedPairs (level : List α) : List (α × α) :=
  if 1 < level.length then pairs level ++ hashedPairs (levelUp node level) else []
termination_by level.length
decreasing_by simp; omega

-- More fuel than nodes changes nothing.
theorem collapseWithin_enough (fuel : Nat) (level : List α) (enough : level.length ≤ fuel) :
    collapseWithin node fuel level = collapse node level := by
  have agree (m n : Nat) (level : List α) (first : level.length ≤ m) (second : level.length ≤ n) :
      collapseWithin node m level = collapseWithin node n level := by
    induction m generalizing n level with
    | zero => cases n <;> simp_all [collapseWithin]
    | succ m ih =>
      cases n with
      | zero => simp_all [collapseWithin]
      | succ n =>
        by_cases large : 1 < level.length
        · rw [collapseWithin, collapseWithin, if_pos large, if_pos large]
          exact ih n _ (by simp; omega) (by simp; omega)
        · rw [collapseWithin, collapseWithin, if_neg large, if_neg large]
  exact agree fuel level.length level enough le_rfl

theorem collapse_small (level : List α) (small : level.length ≤ 1) :
    collapse node level = level := by
  rw [← collapseWithin_enough node 1 level small, collapseWithin, if_neg (by omega)]

theorem collapse_large (level : List α) (large : 1 < level.length) :
    collapse node level = collapse node (levelUp node level) := by
  rw [← collapseWithin_enough node (level.length + 1) level (by omega), collapseWithin, if_pos large,
    collapseWithin_enough node _ _ (by simp; omega)]

-- Induction along the levels of a tree.
theorem level_induction {motive : List α → Prop}
    (large : ∀ level, 1 < level.length → motive (levelUp node level) → motive level)
    (small : ∀ level, level.length ≤ 1 → motive level) (level : List α) : motive level := by
  induction size : level.length using Nat.strongRecOn generalizing level with
  | ind size ih =>
    subst size
    by_cases several : 1 < level.length
    · exact large level several (ih _ (by simp; omega) _ rfl)
    · exact small level (by omega)

theorem hashedPairs_large (level : List α) (large : 1 < level.length) :
    hashedPairs node level = pairs level ++ hashedPairs node (levelUp node level) := by
  rw [hashedPairs, if_pos large]

theorem collapse_length (level : List α) (nonempty : level ≠ []) :
    (collapse node level).length = 1 := by
  induction level using level_induction node with
  | large level several ih =>
    rw [collapse_large node level several]
    exact ih (List.ne_nil_of_length_pos (by simp; omega))
  | small level few =>
    have positive := List.length_pos_iff.mpr nonempty
    rw [collapse_small node level few]
    omega

theorem pairs_fst_sublist (level : List α) : ((pairs level).map Prod.fst).Sublist level := by
  fun_induction pairs level with
  | case1 => simp
  | case2 a => simp
  | case3 a b rest ih => simpa using List.Sublist.cons_cons a (List.Sublist.cons b ih)

theorem pairs_nodup (level : List α) (nodup : level.Nodup) : (pairs level).Nodup :=
  List.Nodup.of_map Prod.fst (List.Nodup.sublist (pairs_fst_sublist level) nodup)

theorem mem_of_mem_pairs (level : List α) (p : α × α) (member : p ∈ pairs level) :
    p.1 ∈ level ∧ p.2 ∈ level := by
  fun_induction pairs level with
  | case1 => simp at member
  | case2 a => simp_all
  | case3 a b rest ih =>
    rcases List.mem_cons.mp member with rfl | later
    · simp
    · have inside := ih later
      simp [inside.1, inside.2]

theorem exists_pair_of_mem (level : List α) (a : α) (member : a ∈ level) :
    ∃ p ∈ pairs level, p.1 = a ∨ p.2 = a := by
  fun_induction pairs level with
  | case1 => simp at member
  | case2 b => simp_all
  | case3 b c rest ih =>
    simp only [List.mem_cons] at member
    rcases member with rfl | rfl | later
    · exact ⟨_, List.mem_cons_self, .inl rfl⟩
    · exact ⟨_, List.mem_cons_self, .inr rfl⟩
    · obtain ⟨p, inside, side⟩ := ih later
      exact ⟨p, List.mem_cons_of_mem _ inside, side⟩

/-- Without repeated nodes the pairs of a level determine the level: a
duplicated last node cannot be mistaken for two nodes. -/
theorem eq_of_pairs_eq (xs ys : List α) (nodupX : xs.Nodup) (nodupY : ys.Nodup)
    (same : pairs xs = pairs ys) : xs = ys := by
  induction xs using pairs.induct generalizing ys with
  | case1 => cases ys using pairs.fun_cases <;> simp_all [pairs]
  | case2 a =>
    cases ys using pairs.fun_cases with
    | case1 => simp [pairs] at same
    | case2 c => simp_all [pairs]
    | case3 c d others =>
      simp only [pairs, List.cons.injEq, Prod.mk.injEq] at same
      obtain ⟨⟨rfl, rfl⟩, -⟩ := same
      simp at nodupY
  | case3 a b rest ih =>
    cases ys using pairs.fun_cases with
    | case1 => simp [pairs] at same
    | case2 c =>
      simp only [pairs, List.cons.injEq, Prod.mk.injEq] at same
      obtain ⟨⟨rfl, rfl⟩, -⟩ := same
      simp at nodupX
    | case3 c d others =>
      simp only [pairs, List.cons.injEq, Prod.mk.injEq] at same
      obtain ⟨⟨rfl, rfl⟩, tails⟩ := same
      rw [ih others nodupX.of_cons.of_cons nodupY.of_cons.of_cons tails]

def innerNodes (level : List α) : Set α :=
  {a | ∃ p ∈ hashedPairs node level, a = node p.1 p.2}

def CollisionFree (xs ys : List α) : Prop :=
  Set.InjOn (fun p : α × α => node p.1 p.2)
    {p | p ∈ hashedPairs node xs ∨ p ∈ hashedPairs node ys}

variable {node}

theorem CollisionFree.symm {xs ys : List α} (free : CollisionFree node xs ys) :
    CollisionFree node ys xs := by
  simpa [CollisionFree, or_comm] using free

theorem pairs_subset_hashed {level : List α} (large : 1 < level.length) (p : α × α)
    (member : p ∈ pairs level) : p ∈ hashedPairs node level := by
  rw [hashedPairs_large node level large]
  exact List.mem_append_left _ member

theorem hashed_levelUp_subset {level : List α} (p : α × α)
    (member : p ∈ hashedPairs node (levelUp node level)) : p ∈ hashedPairs node level := by
  by_cases large : 1 < level.length
  · rw [hashedPairs_large node level large]
    exact List.mem_append_right _ member
  · rw [hashedPairs, if_neg (by simp; omega)] at member
    simp at member

theorem CollisionFree.levelUp {xs ys : List α} (free : CollisionFree node xs ys) :
    CollisionFree node (levelUp node xs) (levelUp node ys) :=
  Set.InjOn.mono (fun p member => member.imp (hashed_levelUp_subset p) (hashed_levelUp_subset p)) free

theorem innerNodes_levelUp {level : List α} :
    innerNodes node (levelUp node level) ⊆ innerNodes node level := by
  rintro a ⟨p, member, rfl⟩
  exact ⟨p, hashed_levelUp_subset p member, rfl⟩

theorem levelUp_innerNodes {level : List α} (large : 1 < level.length) (a : α)
    (member : a ∈ levelUp node level) : a ∈ innerNodes node level := by
  obtain ⟨p, inside, rfl⟩ := List.mem_map.mp member
  exact ⟨p, pairs_subset_hashed large p inside, rfl⟩

-- A combined pair consists of leaves and of inner nodes.
theorem mem_of_hashed (level : List α) (p : α × α) (member : p ∈ hashedPairs node level) (a : α)
    (side : a = p.1 ∨ a = p.2) : a ∈ level ∨ a ∈ innerNodes node level := by
  fun_induction hashedPairs node level with
  | case1 level large ih =>
    rcases List.mem_append.mp member with here | above
    · have inside := mem_of_mem_pairs level p here
      rcases side with rfl | rfl
      · exact .inl inside.1
      · exact .inl inside.2
    · rcases ih above with leaf | inner
      · exact .inr (levelUp_innerNodes large a leaf)
      · exact .inr (innerNodes_levelUp inner)
  | case2 level small => simp at member

theorem collapse_innerNodes (level : List α) (large : 1 < level.length) (a : α)
    (member : a ∈ collapse node level) : a ∈ innerNodes node level := by
  induction level using level_induction node with
  | large level larger ih =>
    rw [collapse_large node level larger] at member
    by_cases up : 1 < (levelUp node level).length
    · exact innerNodes_levelUp (ih up member)
    · rw [collapse_small node _ (by omega)] at member
      exact levelUp_innerNodes large a member
  | small level few => omega

theorem pairs_eq_of_levelUp_eq {xs ys : List α} (largeX : 1 < xs.length) (largeY : 1 < ys.length)
    (free : CollisionFree node xs ys) (same : levelUp node xs = levelUp node ys) :
    pairs xs = pairs ys := by
  have lengths : (pairs xs).length = (pairs ys).length := by
    simpa [levelUp] using congrArg List.length same
  refine List.ext_getElem lengths fun i hx hy => ?_
  apply free (.inl (pairs_subset_hashed largeX _ (List.getElem_mem hx)))
    (.inr (pairs_subset_hashed largeY _ (List.getElem_mem hy)))
  have values := congrArg (·[i]?) same
  simpa [levelUp, hx, hy] using values

theorem levelUp_nodup {level : List α} (large : 1 < level.length)
    (injective : Set.InjOn (fun p : α × α => node p.1 p.2) {p | p ∈ hashedPairs node level})
    (nodup : level.Nodup) : (levelUp node level).Nodup := by
  refine (pairs_nodup level nodup).map_on ?_
  intro p hp q hq same
  exact injective (pairs_subset_hashed large p hp) (pairs_subset_hashed large q hq) same

/-- If the level above `xs` consists of inner nodes of the tree over the level
above `ys`, then `xs` itself lies strictly inside the tree over `ys`. -/
theorem inner_of_levelUp_inner {xs ys : List α} (largeX : 1 < xs.length) (largeY : 1 < ys.length)
    (free : CollisionFree node xs ys)
    (inner : ∀ a ∈ levelUp node xs, a ∈ innerNodes node (levelUp node ys)) :
    ∀ a ∈ xs, a ∈ innerNodes node ys := by
  intro a member
  obtain ⟨p, here, side⟩ := exists_pair_of_mem xs a member
  obtain ⟨q, above, value⟩ := inner (node p.1 p.2) (List.mem_map_of_mem here)
  have equal : p = q := free (.inl (pairs_subset_hashed largeX p here))
    (.inr (hashed_levelUp_subset q above)) value
  have located := mem_of_hashed (levelUp node ys) p (equal ▸ above) a
    (side.imp Eq.symm Eq.symm)
  exact located.elim (levelUp_innerNodes largeY a) fun deeper => innerNodes_levelUp deeper

/-- Two trees with one root: the leaves agree, or all leaves of one tree are
inner nodes of the other. -/
theorem leaves_or_inner (xs ys : List α) (nonemptyX : xs ≠ []) (nonemptyY : ys ≠ [])
    (nodupX : xs.Nodup) (nodupY : ys.Nodup) (free : CollisionFree node xs ys)
    (same : collapse node xs = collapse node ys) :
    xs = ys ∨ (∀ a ∈ xs, a ∈ innerNodes node ys) ∨ ∀ a ∈ ys, a ∈ innerNodes node xs := by
  -- The levels shrink towards the common root, which both collapse to.
  induction size : xs.length + ys.length using Nat.strongRecOn generalizing xs ys with
  | ind size ih =>
    subst size
    by_cases largeX : 1 < xs.length <;> by_cases largeY : 1 < ys.length
    · have freeX := Set.InjOn.mono (fun p member => Or.inl member) free
      have freeY := Set.InjOn.mono (fun p member => Or.inl member) free.symm
      have up := ih ((levelUp node xs).length + (levelUp node ys).length) (by simp; omega)
        (levelUp node xs) (levelUp node ys)
        (List.ne_nil_of_length_pos (by simp; omega)) (List.ne_nil_of_length_pos (by simp; omega))
        (levelUp_nodup largeX freeX nodupX) (levelUp_nodup largeY freeY nodupY) free.levelUp
        (by rwa [collapse_large node xs largeX, collapse_large node ys largeY] at same) rfl
      rcases up with equal | innerX | innerY
      · exact .inl (eq_of_pairs_eq xs ys nodupX nodupY
          (pairs_eq_of_levelUp_eq largeX largeY free equal))
      · exact .inr (.inl (inner_of_levelUp_inner largeX largeY free innerX))
      · exact .inr (.inr (inner_of_levelUp_inner largeY largeX free.symm innerY))
    · rw [collapse_small node ys (by omega)] at same
      exact .inr (.inr fun a member => collapse_innerNodes xs largeX a (same ▸ member))
    · rw [collapse_small node xs (by omega)] at same
      exact .inr (.inl fun a member => collapse_innerNodes ys largeY a (same ▸ member))
    · rw [collapse_small node xs (by omega), collapse_small node ys (by omega)] at same
      exact .inl same

-- Second pre-images need a collision or a leaf that is an inner node.
theorem leaves_eq_of_root_eq (xs ys : List α) (nonemptyX : xs ≠ []) (nonemptyY : ys ≠ [])
    (nodupX : xs.Nodup) (nodupY : ys.Nodup) (free : CollisionFree node xs ys)
    (leafX : ∀ a ∈ xs, a ∉ innerNodes node ys) (leafY : ∀ a ∈ ys, a ∉ innerNodes node xs)
    (same : collapse node xs = collapse node ys) : xs = ys := by
  rcases leaves_or_inner xs ys nonemptyX nonemptyY nodupX nodupY free same with
    equal | innerX | innerY
  · exact equal
  · obtain ⟨a, member⟩ := List.exists_mem_of_ne_nil xs nonemptyX
    exact absurd (innerX a member) (leafX a member)
  · obtain ⟨a, member⟩ := List.exists_mem_of_ne_nil ys nonemptyY
    exact absurd (innerY a member) (leafY a member)

end Shared.HashTree
