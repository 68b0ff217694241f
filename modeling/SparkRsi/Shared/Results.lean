import Mathlib.Data.List.Forall2

set_option autoImplicit false

/-!
# Fallible steps

How a chain of steps that return early comes to succeed.
-/

namespace Shared

variable {ε α β : Type}

@[simp] theorem ok_bind (a : α) (f : α → Except ε β) : (Except.ok a >>= f) = f a := rfl

theorem bind_eq_ok {x : Except ε α} {f : α → Except ε β} {b : β} :
    (x >>= f) = .ok b ↔ ∃ a, x = .ok a ∧ f a = .ok b := by
  cases x with
  | error e => simp [bind, Except.bind]
  | ok a => simp [bind, Except.bind]

-- The value of a check says nothing.
theorem exists_unit {p : Unit → Prop} : (∃ u, p u) ↔ p () :=
  ⟨fun ⟨_, holds⟩ => holds, fun holds => ⟨(), holds⟩⟩

theorem error_eq_ok {e : ε} {a : α} {p : Prop} (never : ¬p) : (Except.error e : Except ε α) = .ok a ↔ p :=
  ⟨nofun, fun holds => absurd holds never⟩

-- A check in front of further steps.
theorem then_eq_ok {x : Except ε Unit} {rest : Except ε β} {b : β} :
    (x >>= fun _ => rest) = .ok b ↔ x = .ok () ∧ rest = .ok b := by
  cases x with
  | error e => simp [bind, Except.bind]
  | ok u => simp [bind, Except.bind]

theorem mapM_eq_ok {f : α → Except ε β} {xs : List α} {ys : List β} :
    xs.mapM f = .ok ys ↔ List.Forall₂ (fun x y => f x = .ok y) xs ys := by
  induction xs generalizing ys with
  | nil => cases ys <;> simp [pure, Except.pure]
  | cons x rest ih =>
    simp only [List.mapM_cons, bind_eq_ok, List.forall₂_cons_left_iff]
    constructor
    · rintro ⟨y, first, others, later, ⟨⟩⟩
      exact ⟨y, others, first, ih.mp later, rfl⟩
    · rintro ⟨y, others, first, later, rfl⟩
      exact ⟨y, first, others, ih.mpr later, rfl⟩

-- A pass over a list succeeds where each element does.
theorem exists_mapM {f : α → Except ε β} {xs : List α} (each : ∀ x ∈ xs, ∃ y, f x = .ok y) :
    ∃ ys, xs.mapM f = .ok ys := by
  induction xs with
  | nil => exact ⟨[], rfl⟩
  | cons x rest ih =>
    rw [List.forall_mem_cons] at each
    cases each.1 with
    | intro y first =>
      cases ih each.2 with
      | intro ys later =>
        rw [mapM_eq_ok] at later
        exact ⟨y :: ys, mapM_eq_ok.mpr (List.Forall₂.cons first later)⟩

theorem mapM_eq_error {f : α → Except ε β} {xs : List α} {e : ε} (failed : xs.mapM f = .error e) :
    ∃ x ∈ xs, f x = .error e := by
  induction xs with
  | nil => cases failed
  | cons x rest ih =>
    rw [List.mapM_cons] at failed
    cases first : f x with
    | error e' =>
      rw [first] at failed
      cases failed
      exact ⟨x, List.mem_cons_self, first⟩
    | ok y =>
      rw [first, ok_bind] at failed
      cases later : rest.mapM f with
      | error e' =>
        rw [later] at failed
        cases failed
        cases ih later with
        | intro other found => exact ⟨other, List.mem_cons_of_mem _ found.1, found.2⟩
      | ok ys =>
        rw [later] at failed
        cases failed

theorem mapM_congr {f g : α → Except ε β} {xs : List α} (same : ∀ x ∈ xs, f x = g x) :
    xs.mapM f = xs.mapM g := by
  induction xs with
  | nil => rfl
  | cons x rest ih =>
    rw [List.forall_mem_cons] at same
    rw [List.mapM_cons, List.mapM_cons, same.1, ih same.2]

-- A fold that succeeds has taken every element.
theorem foldlM_taken {f : β → α → Except ε β} {xs : List α} {b c : β} (run : xs.foldlM f b = .ok c) {x : α}
    (member : x ∈ xs) : ∃ before after, f before x = .ok after := by
  induction xs generalizing b with
  | nil => cases member
  | cons y rest ih =>
    rw [List.foldlM_cons, bind_eq_ok] at run
    cases run with
    | intro after steps =>
      cases List.mem_cons.mp member with
      | inl here => exact ⟨b, after, here ▸ steps.1⟩
      | inr later => exact ih steps.2 later

theorem forM_eq_ok {f : α → Except ε Unit} {xs : List α} : xs.forM f = .ok () ↔ ∀ x ∈ xs, f x = .ok () := by
  induction xs with
  | nil => simp [List.forM, pure, Except.pure]
  | cons x rest ih => rw [List.forM, then_eq_ok, ih, List.forall_mem_cons]

theorem exists_of_mem_right {R : α → β → Prop} {xs : List α} {ys : List β} (related : List.Forall₂ R xs ys)
    {y : β} (member : y ∈ ys) : ∃ x ∈ xs, R x y := by
  induction related with
  | nil => cases member
  | cons first _ ih =>
    rcases List.mem_cons.mp member with rfl | later
    · exact ⟨_, List.mem_cons_self, first⟩
    · obtain ⟨x, inside, here⟩ := ih later
      exact ⟨x, List.mem_cons_of_mem _ inside, here⟩

theorem exists_of_mem_left {R : α → β → Prop} {xs : List α} {ys : List β} (related : List.Forall₂ R xs ys)
    {x : α} (member : x ∈ xs) : ∃ y ∈ ys, R x y := exists_of_mem_right related.flip member

-- Two lists that go with a third one go with each other.
theorem forall₂_join {γ : Type} {R : α → γ → Prop} {S : β → γ → Prop} {T : α → β → Prop} {xs : List α}
    {ys : List β} {zs : List γ} (first : List.Forall₂ R xs zs) (second : List.Forall₂ S ys zs)
    (join : ∀ x ∈ xs, ∀ y ∈ ys, ∀ z ∈ zs, R x z → S y z → T x y) : List.Forall₂ T xs ys := by
  induction first generalizing ys with
  | nil =>
    cases second
    exact .nil
  | @cons x z xs zs here _ ih =>
    cases second with
    | @cons y _ ys _ also later =>
      apply List.Forall₂.cons (join x List.mem_cons_self y List.mem_cons_self z List.mem_cons_self here also)
      apply ih later
      intro x' inX y' inY z' inZ
      exact join x' (List.mem_cons_of_mem _ inX) y' (List.mem_cons_of_mem _ inY) z' (List.mem_cons_of_mem _ inZ)

-- Two runs that return the same values decide the same, whatever their refusals say.
theorem toOption_congr {δ : Type} {x : Except ε α} {y : Except δ α} (same : ∀ a, x = .ok a ↔ y = .ok a) :
    x.toOption = y.toOption := by
  cases first : x with
  | ok a => rw [(same a).mp first]; rfl
  | error e =>
    cases second : y with
    | ok a =>
      rw [(same a).mpr second] at first
      cases first
    | error d => rfl

theorem mapError_eq_ok {δ : Type} {x : Except ε α} {f : ε → δ} {a : α} :
    x.mapError f = .ok a ↔ x = .ok a := by
  cases x <;> simp [Except.mapError]

def refuseIf (bad : Prop) [Decidable bad] (message : ε) : Except ε Unit :=
  if bad then .error message else .ok ()

@[simp] theorem refuseIf_eq_ok {bad : Prop} [Decidable bad] {message : ε} :
    refuseIf bad message = .ok () ↔ ¬bad := by
  by_cases holds : bad <;> simp [refuseIf, holds]

def okOr (message : ε) : Option α → Except ε α
  | none => .error message
  | some a => .ok a

@[simp] theorem okOr_eq_ok {message : ε} {value : Option α} {a : α} :
    okOr message value = .ok a ↔ value = some a := by
  cases value <;> simp [okOr]

/-- A step that only its surroundings can make fail. -/
def faulty (fault : Option ε) : Except ε Unit :=
  match fault with
  | some e => .error e
  | none => .ok ()

@[simp] theorem faulty_eq_ok {fault : Option ε} : faulty fault = .ok () ↔ fault = none := by
  cases fault <;> simp [faulty]

end Shared
