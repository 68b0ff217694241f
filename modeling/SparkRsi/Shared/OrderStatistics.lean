import Mathlib.Data.List.Sort
import Mathlib.Algebra.Order.Group.Defs

set_option autoImplicit false

/-!
# Order statistics

The members of a sorted list by their places, counted in the list it was sorted from.
-/

namespace Shared.OrderStatistics

section Sorted

variable {α : Type} [LinearOrder α]

def sorted (xs : List α) : List α := xs.mergeSort fun a b => decide (a ≤ b)

theorem sorted_perm (xs : List α) : (sorted xs).Perm xs := List.mergeSort_perm xs _

@[simp] theorem length_sorted (xs : List α) : (sorted xs).length = xs.length := List.length_mergeSort xs

theorem sorted_pairwise (xs : List α) : (sorted xs).Pairwise fun a b => a ≤ b := by
  have transitive (a b c : α) (first : decide (a ≤ b) = true) (second : decide (b ≤ c) = true) : decide (a ≤ c) = true :=
    decide_eq_true ((of_decide_eq_true first).trans (of_decide_eq_true second))
  have ordered := List.pairwise_mergeSort transitive (fun a b => by simpa using le_total a b) xs
  exact ordered.imp of_decide_eq_true

theorem sorted_eq {xs ys : List α} (perm : xs.Perm ys) (ordered : ys.Pairwise fun a b => a ≤ b) :
    sorted xs = ys :=
  List.Perm.eq_of_pairwise (fun _ _ _ _ => le_antisymm) (sorted_pairwise xs) ordered ((sorted_perm xs).trans perm)

variable {below : α → Bool}

-- In a sorted list, what holds of the smaller holds of the first ones, as many as there are.
theorem below_iff_of_pairwise (down : ∀ a b, a ≤ b → below b = true → below a = true) {xs : List α}
    (ordered : xs.Pairwise fun a b => a ≤ b) {i : Nat} (inside : i < xs.length) :
    below xs[i] = true ↔ i < xs.countP below := by
  induction xs generalizing i with
  | nil => exact absurd inside (Nat.not_lt_zero i)
  | cons x rest ih =>
    have parts := List.pairwise_cons.mp ordered
    cases first : below x with
    | true =>
      rw [List.countP_cons_of_pos first]
      cases i with
      | zero => simp [first]
      | succ i =>
        rw [List.getElem_cons_succ, ih parts.2 (Nat.lt_of_succ_lt_succ inside)]
        exact Nat.succ_lt_succ_iff.symm
    | false =>
      -- Nothing behind the first member is below either.
      have none : ∀ y ∈ x :: rest, ¬below y = true := by
        intro y member holds
        have larger : x ≤ y := by
          cases List.mem_cons.mp member with
          | inl same => exact same.symm.le
          | inr later => exact parts.1 y later
        rw [down x y larger holds] at first
        cases first
      rw [List.countP_eq_zero.mpr none]
      exact iff_of_false (none _ (List.getElem_mem inside)) (Nat.not_lt_zero i)

theorem below_sorted_iff (down : ∀ a b, a ≤ b → below b = true → below a = true) (xs : List α) {i : Nat}
    (inside : i < (sorted xs).length) : below (sorted xs)[i] = true ↔ i < xs.countP below := by
  rw [below_iff_of_pairwise down (sorted_pairwise xs) inside, (sorted_perm xs).countP_eq]

theorem sorted_le_iff (xs : List α) (v : α) {i : Nat} (inside : i < (sorted xs).length) :
    (sorted xs)[i] ≤ v ↔ i < xs.countP fun x => decide (x ≤ v) := by
  have down (a b : α) (less : a ≤ b) (holds : decide (b ≤ v) = true) : decide (a ≤ v) = true :=
    decide_eq_true (less.trans (of_decide_eq_true holds))
  rw [← below_sorted_iff down xs inside, decide_eq_true_iff]

theorem sorted_lt_iff (xs : List α) (v : α) {i : Nat} (inside : i < (sorted xs).length) :
    (sorted xs)[i] < v ↔ i < xs.countP fun x => decide (x < v) := by
  have down (a b : α) (less : a ≤ b) (holds : decide (b < v) = true) : decide (a < v) = true :=
    decide_eq_true (less.trans_lt (of_decide_eq_true holds))
  rw [← below_sorted_iff down xs inside, decide_eq_true_iff]

end Sorted

section Domination

variable {α β : Type} [LinearOrder α] [LinearOrder β] {f : β → α}

omit [LinearOrder α] [LinearOrder β] in
theorem countP_le_of_forall₂ {xs : List α} {ys : List β} {p : α → Bool} {q : β → Bool}
    (pairs : List.Forall₂ (fun x y => q y = true → p x = true) xs ys) : ys.countP q ≤ xs.countP p := by
  induction pairs with
  | nil => exact Nat.le_refl _
  | cons first _ ih =>
    rw [List.countP_cons, List.countP_cons]
    split
    next holds => simpa [first holds] using ih
    next => exact ih.trans (Nat.le_add_right _ _)

-- Lists that are pairwise below one another stay so when each is sorted on its own.
theorem sorted_le_map (mono : Monotone f) {xs : List α} {ys : List β}
    (pairs : List.Forall₂ (fun x y => x ≤ f y) xs ys) {i : Nat} (inside : i < (sorted xs).length)
    (inside' : i < (sorted ys).length) : (sorted xs)[i] ≤ f (sorted ys)[i] := by
  rw [sorted_le_iff]
  have place : i < ys.countP fun y => decide (y ≤ (sorted ys)[i]) := (sorted_le_iff ys _ inside').mp le_rfl
  apply place.trans_le
  apply countP_le_of_forall₂
  apply pairs.imp
  intro x y less holds
  exact decide_eq_true (less.trans (mono (of_decide_eq_true holds)))

theorem map_lt_sorted (mono : StrictMono f) {xs : List α} {ys : List β}
    (pairs : List.Forall₂ (fun x y => f y < x) xs ys) {i : Nat} (inside : i < (sorted xs).length)
    (inside' : i < (sorted ys).length) : f (sorted ys)[i] < (sorted xs)[i] := by
  by_contra least
  rw [not_lt, sorted_le_iff] at least
  -- As many members of `ys` would be smaller than the one in place `i`.
  have place : ¬i < ys.countP fun y => decide (y < (sorted ys)[i]) := by
    rw [← sorted_lt_iff ys _ inside']
    exact lt_irrefl _
  apply place
  apply least.trans_le
  apply countP_le_of_forall₂
  apply pairs.flip.imp
  intro y x more holds
  exact decide_eq_true (mono.lt_iff_lt.mp (more.trans_le (of_decide_eq_true holds)))

end Domination

section Mirror

variable {α : Type} [LinearOrder α] [AddCommGroup α] [IsOrderedAddMonoid α]

theorem sorted_map_neg (xs : List α) : sorted (xs.map Neg.neg) = ((sorted xs).map Neg.neg).reverse := by
  apply sorted_eq
  next => exact ((sorted_perm xs).symm.map Neg.neg).trans (List.reverse_perm _).symm
  next =>
    rw [List.pairwise_reverse, List.pairwise_map]
    exact (sorted_pairwise xs).imp neg_le_neg

theorem getElem?_sorted_map_neg (xs : List α) {i : Nat} (inside : i < xs.length) :
    (sorted (xs.map Neg.neg))[i]? = (sorted xs)[xs.length - 1 - i]?.map Neg.neg := by
  rw [sorted_map_neg, List.getElem?_reverse (by simpa using inside), List.length_map, length_sorted,
    List.getElem?_map]

end Mirror

section Stable

variable {α : Type} {r : α → α → Prop} [DecidableRel r]

-- A stable sort puts the first of the least elements in front.
theorem head_insertionSort (total : ∀ a b, r a b ∨ r b a) {l : List α} {first : α}
    (trans : ∀ a ∈ l, ∀ b ∈ l, ∀ c ∈ l, r a b → r b c → r a c) (found : (l.insertionSort r).head? = some first) :
    ∃ front rest, l = front ++ first :: rest ∧ (∀ b ∈ front, ¬r b first) ∧ ∀ b ∈ l, r first b := by
  have reflexive (a : α) : r a a := (total a a).elim id id
  induction l generalizing first with
  | nil => cases found
  | cons x xs ih =>
    have inner (y : α) (head : (xs.insertionSort r).head? = some y) := ih (fun a inA b inB c inC =>
      trans a (List.mem_cons_of_mem x inA) b (List.mem_cons_of_mem x inB) c (List.mem_cons_of_mem x inC)) head
    rw [List.insertionSort_cons] at found
    cases sorted : xs.insertionSort r with
    | nil =>
      rw [sorted] at found
      cases found
      have empty : xs = [] := by
        have length := List.length_insertionSort r xs
        rw [sorted] at length
        exact List.length_eq_zero_iff.mp length.symm
      rw [empty]
      exact ⟨[], [], rfl, nofun, by simpa using reflexive x⟩
    | cons y ys =>
      obtain ⟨front, rest, parts, before, least⟩ := inner y (by rw [sorted]; rfl)
      rw [sorted, List.orderedInsert] at found
      split at found
      next below =>
        cases found
        refine ⟨[], xs, rfl, nofun, ?_⟩
        rw [List.forall_mem_cons]
        refine ⟨reflexive x, fun b member => ?_⟩
        have inside : y ∈ xs := by
          rw [parts]
          simp
        exact trans x List.mem_cons_self y (List.mem_cons_of_mem x inside) b (List.mem_cons_of_mem x member) below
          (least b member)
      next above =>
        obtain rfl : y = first := Option.some.inj found
        refine ⟨x :: front, rest, by rw [parts, List.cons_append], ?_, ?_⟩
        next => exact List.forall_mem_cons.mpr ⟨above, before⟩
        next => exact List.forall_mem_cons.mpr ⟨(total y x).resolve_right above, least⟩

end Stable

end Shared.OrderStatistics
