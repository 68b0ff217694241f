import Mathlib.Order.Defs.Unbundled

set_option autoImplicit false

/-!
# Steps that may stop

A program on a state that may stop early. What it did to the state before it stopped stands.
-/

namespace Shared.Passes

variable {σ ε α β : Type}

def left : EStateM.Result ε σ α → σ
  | .ok _ s => s
  | .error _ s => s

def ofPair (step : σ → Except ε α × σ) : EStateM ε σ α := fun s =>
  match step s with
  | (.ok a, after) => .ok a after
  | (.error e, after) => .error e after

def toPair : EStateM.Result ε σ α → Except ε α × σ
  | .ok a s => (.ok a, s)
  | .error e s => (.error e, s)

theorem toPair_left (result : EStateM.Result ε σ α) : (toPair result).2 = left result := by
  cases result <;> rfl

theorem toPair_ok {result : EStateM.Result ε σ α} {a : α} {s : σ} : toPair result = (.ok a, s) ↔ result = .ok a s := by
  cases result <;> simp [toPair]

section Returns

variable {program : EStateM ε σ α} {next : α → EStateM ε σ β} {s after : σ} {a : α} {b : β}

theorem returns_bind : (program >>= next) s = .ok b after ↔
    ∃ a between, program s = .ok a between ∧ next a between = .ok b after := by
  change EStateM.bind program next s = _ ↔ _
  unfold EStateM.bind
  cases program s with
  | error e between => simp
  | ok a between =>
    constructor
    next => exact fun later => ⟨a, between, rfl, later⟩
    next =>
      rintro ⟨_, _, ⟨⟩, later⟩
      exact later

theorem stops_bind {e : ε} : (program >>= next) s = .error e after ↔
    program s = .error e after ∨ ∃ a between, program s = .ok a between ∧ next a between = .error e after := by
  change EStateM.bind program next s = _ ↔ _
  unfold EStateM.bind
  cases program s with
  | error other between => simp
  | ok a between =>
    constructor
    next => exact fun later => .inr ⟨a, between, rfl, later⟩
    next =>
      rintro (⟨⟨⟩⟩ | ⟨_, _, ⟨⟩, later⟩)
      exact later

theorem returns_pure {value : α} : (pure value : EStateM ε σ α) s = .ok a after ↔ value = a ∧ s = after := by
  change EStateM.Result.ok value s = _ ↔ _
  rw [EStateM.Result.ok.injEq]

theorem returns_map {f : α → β} : (f <$> program) s = .ok b after ↔ ∃ a, program s = .ok a after ∧ f a = b := by
  change EStateM.map f program s = _ ↔ _
  unfold EStateM.map
  cases program s with
  | error e between => simp
  | ok value between =>
    simp only [EStateM.Result.ok.injEq]
    constructor
    next =>
      rintro ⟨rfl, rfl⟩
      exact ⟨value, ⟨rfl, rfl⟩, rfl⟩
    next =>
      rintro ⟨_, ⟨rfl, rfl⟩, rfl⟩
      exact ⟨rfl, rfl⟩

theorem returns_throw {e : ε} : ¬(throw e : EStateM ε σ α) s = .ok a after := nofun

theorem returns_get {seen : σ} : (get : EStateM ε σ σ) s = .ok seen after ↔ s = seen ∧ s = after := by
  change EStateM.Result.ok s s = _ ↔ _
  rw [EStateM.Result.ok.injEq]

theorem get_bind (next : σ → EStateM ε σ β) (s : σ) : ((get : EStateM ε σ σ) >>= next) s = next s s := rfl

theorem returns_modify {f : σ → σ} {u : Unit} : (modify f : EStateM ε σ Unit) s = .ok u after ↔ f s = after := by
  change EStateM.Result.ok () (f s) = _ ↔ _
  simp

theorem returns_ofExcept {result : Except ε α} :
    (ofExcept result : EStateM ε σ α) s = .ok a after ↔ result = .ok a ∧ s = after := by
  cases result with
  | error e => exact ⟨nofun, nofun⟩
  | ok value =>
    rw [Except.ok.injEq]
    exact returns_pure

theorem returns_ofPair {step : σ → Except ε α × σ} : ofPair step s = .ok a after ↔ step s = (.ok a, after) := by
  unfold ofPair
  split
  next value reached found => simp [found]
  next e reached found => simp [found]

end Returns

/-- Whatever a program does, it moves the state along this relation. -/
def Moves (R : σ → σ → Prop) (program : EStateM ε σ α) : Prop := ∀ s, R s (left (program s))

section Moves

variable {R : σ → σ → Prop} {program : EStateM ε σ α} {next : α → EStateM ε σ β}

theorem Moves.returned {s after : σ} {a : α} (moves : Moves R program) (returned : program s = .ok a after) :
    R s after := by
  have moved := moves s
  rwa [returned] at moved

theorem moves_modify {f : σ → σ} (each : ∀ s, R s (f s)) : Moves R (modify f : EStateM ε σ Unit) := each

theorem moves_ofPair {step : σ → Except ε α × σ} (each : ∀ s, R s (step s).2) : Moves R (ofPair step) := by
  intro s
  have moved := each s
  unfold ofPair
  split
  next found => rwa [found] at moved
  next found => rwa [found] at moved

theorem Moves.map {f : α → β} (first : Moves R program) : Moves R (f <$> program) := by
  intro s
  have here := first s
  change R s (left (EStateM.map f program s))
  unfold EStateM.map
  cases done : program s with
  | error e between => rwa [done] at here
  | ok a between => rwa [done] at here

variable [IsPreorder σ R]

theorem moves_pure (a : α) : Moves R (pure a : EStateM ε σ α) := fun s => refl_of R s

theorem moves_throw (e : ε) : Moves R (throw e : EStateM ε σ α) := fun s => refl_of R s

theorem moves_get : Moves R (get : EStateM ε σ σ) := fun s => refl_of R s

theorem moves_ofExcept (result : Except ε α) : Moves R (ofExcept result : EStateM ε σ α) := by
  cases result with
  | error e => exact moves_throw e
  | ok a => exact moves_pure a

-- What comes next is asked of the values the program returns only.
theorem Moves.bind_returned (first : Moves R program)
    (later : ∀ s a between, program s = .ok a between → R between (left (next a between))) :
    Moves R (program >>= next) := by
  intro s
  have here := first s
  change R s (left (EStateM.bind program next s))
  unfold EStateM.bind
  cases done : program s with
  | error e between => rwa [done] at here
  | ok a between =>
    rw [done] at here
    exact trans_of R here (later s a between done)

theorem Moves.bind (first : Moves R program) (later : ∀ a, Moves R (next a)) : Moves R (program >>= next) :=
  first.bind_returned fun _ a between _ => later a between

end Moves

/-- Whatever a program stops with has this property. -/
def Throws (P : ε → Prop) (program : EStateM ε σ α) : Prop := ∀ s e after, program s = .error e after → P e

section Throws

variable {P : ε → Prop} {program : EStateM ε σ α} {next : α → EStateM ε σ β}

theorem throws_pure (a : α) : Throws P (pure a : EStateM ε σ α) := nofun

theorem throws_modify (f : σ → σ) : Throws P (modify f : EStateM ε σ Unit) := nofun

theorem throws_throw {e : ε} (holds : P e) : Throws P (throw e : EStateM ε σ α) := by
  rintro s _ after ⟨⟩
  exact holds

theorem throws_ofPair {step : σ → Except ε α × σ} (each : ∀ s e after, step s = (.error e, after) → P e) :
    Throws P (ofPair step) := by
  intro s e after stopped
  unfold ofPair at stopped
  split at stopped
  next => cases stopped
  next found =>
    cases stopped
    exact each s e after found

theorem Throws.bind (first : Throws P program) (later : ∀ a, Throws P (next a)) : Throws P (program >>= next) := by
  intro s e after stopped
  cases stops_bind.mp stopped with
  | inl early => exact first s e after early
  | inr late =>
    obtain ⟨a, between, -, stopped⟩ := late
    exact later a between e after stopped

end Throws

end Shared.Passes
