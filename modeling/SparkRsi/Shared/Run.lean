import Mathlib.Data.List.Basic
import Mathlib.Order.Defs.Unbundled

set_option autoImplicit false

/-!
# Runs of a step function

A run handles a list of events one at a time. `visits` lists every event with
the state that handles it; an invariant is proved for one step and holds for the
whole run.
-/

namespace Shared.Run

variable {σ ε : Type} (step : σ → ε → σ)

def final : σ → List ε → σ
  | s, [] => s
  | s, e :: rest => final (step s e) rest

def states : σ → List ε → List σ
  | s, [] => [s]
  | s, e :: rest => s :: states (step s e) rest

def visits : σ → List ε → List (σ × ε)
  | _, [] => []
  | s, e :: rest => (s, e) :: visits (step s e) rest

theorem final_append (s : σ) (first second : List ε) :
    final step s (first ++ second) = final step (final step s first) second := by
  induction first generalizing s with
  | nil => rfl
  | cons e rest ih => exact ih (step s e)

theorem final_mem_states (s : σ) (events : List ε) : final step s events ∈ states step s events := by
  induction events generalizing s with
  | nil => simp [final, states]
  | cons e rest ih => exact List.mem_cons_of_mem _ (ih (step s e))

theorem head_mem_states (s : σ) (events : List ε) : s ∈ states step s events := by
  cases events <;> simp [states]

theorem visits_append (s : σ) (first second : List ε) :
    visits step s (first ++ second) = visits step s first ++ visits step (final step s first) second := by
  induction first generalizing s with
  | nil => rfl
  | cons e rest ih => exact congrArg ((s, e) :: ·) (ih (step s e))

theorem mem_visits {s : σ} {events : List ε} {visit : σ × ε} (member : visit ∈ visits step s events) :
    ∃ first second, events = first ++ visit.2 :: second ∧ visit.1 = final step s first := by
  induction events generalizing s with
  | nil => simp [visits] at member
  | cons e rest ih =>
    rcases List.mem_cons.mp member with rfl | later
    · exact ⟨[], rest, rfl, rfl⟩
    · obtain ⟨first, second, rfl, reached⟩ := ih later
      exact ⟨e :: first, second, rfl, reached⟩

theorem mem_states {s reached : σ} {events : List ε} (member : reached ∈ states step s events) :
    ∃ first second, events = first ++ second ∧ reached = final step s first := by
  induction events generalizing s with
  | nil => exact ⟨[], [], rfl, List.mem_singleton.mp member⟩
  | cons e rest ih =>
    rcases List.mem_cons.mp member with rfl | later
    · exact ⟨[], e :: rest, rfl, rfl⟩
    · obtain ⟨first, second, rfl, at_⟩ := ih later
      exact ⟨e :: first, second, rfl, at_⟩

-- What holds at first and survives every handled event holds in every state.
theorem invariant_states (Inv : σ → Prop) (Ok : σ → ε → Prop)
    (preserved : ∀ s e, Inv s → Ok s e → Inv (step s e))
    (s : σ) (events : List ε) (start : Inv s)
    (allowed : ∀ visit ∈ visits step s events, Ok visit.1 visit.2) :
    ∀ reached ∈ states step s events, Inv reached := by
  induction events generalizing s with
  | nil => simpa [states] using start
  | cons e rest ih =>
    simp only [visits, List.mem_cons, forall_eq_or_imp] at allowed
    simp only [states, List.mem_cons, forall_eq_or_imp]
    exact ⟨start, ih (step s e) (preserved s e start allowed.1) allowed.2⟩

theorem invariant_final (Inv : σ → Prop) (preserved : ∀ s e, Inv s → Inv (step s e))
    (s : σ) (events : List ε) (start : Inv s) : Inv (final step s events) :=
  invariant_states step Inv (fun _ _ => True) (fun s e h _ => preserved s e h) s events start
    (fun _ _ => trivial) _ (final_mem_states step s events)

section Preorder

variable {step} {R : σ → σ → Prop} [IsPreorder σ R]

-- Where every step moves along a preorder, each state lies between the first and the last one.
theorem between_states (stepped : ∀ s e, R s (step s e)) (s : σ) (events : List ε) :
    ∀ reached ∈ states step s events, R s reached ∧ R reached (final step s events) := by
  induction events generalizing s with
  | nil =>
    intro reached member
    rw [List.mem_singleton.mp member]
    exact ⟨refl_of R s, refl_of R s⟩
  | cons e rest ih =>
    intro reached member
    rcases List.mem_cons.mp member with rfl | later
    · exact ⟨refl_of R reached, trans_of R (stepped reached e) (ih (step reached e) _ (head_mem_states step _ _)).2⟩
    · obtain ⟨behind, ahead⟩ := ih (step s e) reached later
      exact ⟨trans_of R (stepped s e) behind, ahead⟩

theorem after_visit (stepped : ∀ s e, R s (step s e)) {s : σ} {events : List ε} {visit : σ × ε}
    (member : visit ∈ visits step s events) : R (step visit.1 visit.2) (final step s events) := by
  obtain ⟨first, second, rfl, at_⟩ := mem_visits step member
  rw [final_append, ← at_]
  exact (between_states stepped (step visit.1 visit.2) second _ (head_mem_states step _ _)).2

end Preorder

end Shared.Run
