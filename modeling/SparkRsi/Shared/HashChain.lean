import Mathlib.Data.List.Chain
import Mathlib.Data.List.Forall2

set_option autoImplicit false

/-!
# Hash chains

A chain links every block to the digest of its predecessor. The last digest
commits to all blocks, as far as the digest of each single block commits to it.
-/

namespace Shared.HashChain

variable {α δ : Type} (previous digest : α → δ)

def Linked (blocks : List α) : Prop :=
  blocks.IsChain fun a b => previous b = digest a

variable {previous digest}

theorem linked_append_singleton (blocks : List α) (b : α) :
    Linked previous digest (blocks ++ [b]) ↔
      Linked previous digest blocks ∧ ∀ last ∈ blocks.getLast?, previous b = digest last := by
  simp [Linked, List.isChain_append]

theorem linked_cons_cons (a b : α) (rest : List α) :
    Linked previous digest (a :: b :: rest) ↔
      previous b = digest a ∧ Linked previous digest (b :: rest) :=
  List.isChain_cons_cons

-- Every block but the first names the digest of another block.
theorem Linked.exists_previous {blocks : List α} (linked : Linked previous digest blocks) (b : α)
    (member : b ∈ blocks.tail) : ∃ a ∈ blocks, previous b = digest a := by
  induction blocks with
  | nil => simp at member
  | cons a rest ih =>
    cases rest with
    | nil => simp at member
    | cons next others =>
      rw [linked_cons_cons] at linked
      rcases List.mem_cons.mp member with rfl | later
      · exact ⟨a, by simp, linked.1⟩
      · obtain ⟨named, inside, same⟩ := ih linked.2 later
        exact ⟨named, List.mem_cons_of_mem _ inside, same⟩

/-- If at every position equal digests force equal blocks, then equal last
digests force equal chains. -/
theorem blocks_eq_of_last_digest (xs ys : List α)
    (linkedX : Linked previous digest xs) (linkedY : Linked previous digest ys)
    (binding : List.Forall₂ (fun x y => digest x = digest y → x = y) xs ys)
    (last : xs.getLast?.map digest = ys.getLast?.map digest) : xs = ys := by
  -- From the back: the tails agree first, and their heads name the digests in front.
  induction binding with
  | nil => rfl
  | @cons x y restX restY bound rest ih =>
    cases rest with
    | nil =>
      rw [bound (by simpa using last)]
    | @cons a b tailX tailY _ _ =>
      rw [linked_cons_cons] at linkedX linkedY
      have tails := ih linkedX.2 linkedY.2 (by simpa using last)
      have heads : a = b := by simpa using congrArg List.head? tails
      have digests : digest x = digest y := by
        rw [← linkedX.1, ← linkedY.1, heads]
      rw [bound digests, tails]

end Shared.HashChain
