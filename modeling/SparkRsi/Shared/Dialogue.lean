import Mathlib.Data.List.Basic

set_option autoImplicit false

/-!
# Programs that ask

A program asks its surroundings and goes on with what it hears. An answer may depend on everything that was said
before it, so whatever else happens in between is covered by the answers.
-/

namespace Shared

variable {Q : Type}

/-- Questions with their answers, the first one first. -/
abbrev Transcript (A : Q → Type) := List ((q : Q) × A q)

abbrev Surroundings (A : Q → Type) := Transcript A → (q : Q) → A q

/-- From what was said so far, a result and what the program itself asked and heard. -/
def Dialogue (A : Q → Type) (ε α : Type) := Surroundings A → Transcript A → Except ε α × Transcript A

namespace Dialogue

variable {A : Q → Type} {ε δ α β : Type}

def andThen (program : Dialogue A ε α) (next : α → Dialogue A ε β) : Dialogue A ε β := fun answer heard =>
  match program answer heard with
  | (.error e, first) => (.error e, first)
  | (.ok a, first) => ((next a answer (heard ++ first)).1, first ++ (next a answer (heard ++ first)).2)

instance : Monad (Dialogue A ε) where
  pure a := fun _ _ => (.ok a, [])
  bind := andThen

def ask (q : Q) : Dialogue A ε (A q) := fun answer heard => (.ok (answer heard q), [⟨q, answer heard q⟩])

def ofExcept (result : Except ε α) : Dialogue A ε α := fun _ _ => (result, [])

def refuse (e : ε) : Dialogue A ε α := ofExcept (.error e)

def attempt (program : Dialogue A ε α) : Dialogue A δ (Except ε α) := fun answer heard =>
  (.ok (program answer heard).1, (program answer heard).2)

theorem bind_assoc {γ : Type} (program : Dialogue A ε α) (f : α → Dialogue A ε β) (g : β → Dialogue A ε γ) :
    program >>= f >>= g = program >>= fun a => f a >>= g := by
  change andThen (andThen program f) g = andThen program fun a => andThen (f a) g
  funext answer heard
  simp only [andThen]
  cases first : program answer heard with
  | mk result asked =>
    cases result with
    | error e => rfl
    | ok a =>
      dsimp only
      cases second : f a answer (heard ++ asked) with
      | mk result more =>
        cases result with
        | error e => rfl
        | ok b => simp only [List.append_assoc]

/-- Whatever the surroundings answer, the result and what was asked for it satisfy the statement. -/
def Meets (program : Dialogue A ε α) (Post : Except ε α → Transcript A → Prop) : Prop :=
  ∀ answer heard, Post (program answer heard).1 (program answer heard).2

def Only (Allowed : (q : Q) × A q → Prop) (program : Dialogue A ε α) : Prop :=
  program.Meets fun _ asked => ∀ exchange ∈ asked, Allowed exchange

def Each (Allowed : Transcript A → (q : Q) × A q → Prop) (asked : Transcript A) : Prop :=
  ∀ before exchange after, asked = before ++ exchange :: after → Allowed before exchange

section Exchanges

variable {Allowed : Transcript A → (q : Q) × A q → Prop}

theorem each_append {first second : Transcript A} (here : Each Allowed first)
    (there : Each (fun before => Allowed (first ++ before)) second) : Each Allowed (first ++ second) := by
  intro before exchange after split
  rcases List.append_eq_append_iff.mp split with ⟨more, rfl, behind⟩ | ⟨more, rfl, behind⟩
  next => exact there more exchange after behind
  next =>
    cases more with
    | nil =>
      have outside := there [] exchange after behind.symm
      rwa [List.append_nil, List.append_nil] at outside
    | cons other rest =>
      cases behind
      exact here before exchange rest rfl

theorem each_of_forall {asked : Transcript A} (all : ∀ exchange ∈ asked, ∀ before, Allowed before exchange) :
    Each Allowed asked := by
  rintro before exchange after rfl
  exact all exchange (by simp) before

theorem each_singleton {exchange : (q : Q) × A q} (first : Allowed [] exchange) : Each Allowed [exchange] := by
  intro before other after split
  cases before with
  | nil =>
    cases split
    exact first
  | cons _ rest => cases rest <;> cases split

end Exchanges

section Rules

variable {program : Dialogue A ε α} {next : α → Dialogue A ε β} {Post : Except ε α → Transcript A → Prop}

theorem Meets.weaken {Also : Except ε α → Transcript A → Prop} (meets : program.Meets Post)
    (implied : ∀ result asked, Post result asked → Also result asked) : program.Meets Also := by
  intro answer heard
  exact implied _ _ (meets answer heard)

theorem meets_pure {a : α} (holds : Post (.ok a) []) : Meets (pure a : Dialogue A ε α) Post := by
  intro answer heard
  exact holds

theorem meets_exactly (a : α) :
    Meets (pure a : Dialogue A ε α) fun result asked => result = .ok a ∧ asked = [] := meets_pure ⟨rfl, rfl⟩

theorem meets_ofExcept {result : Except ε α} (holds : Post result []) : (ofExcept result).Meets Post := by
  intro answer heard
  exact holds

theorem meets_ask {q : Q} {Post : Except ε (A q) → Transcript A → Prop} (holds : ∀ a, Post (.ok a) [⟨q, a⟩]) :
    (ask q).Meets Post := by
  intro answer heard
  exact holds (answer heard q)

-- One question, and a result read off its answer.
theorem meets_reply {q : Q} (read : A q → Except ε α) :
    (ask q >>= fun a => ofExcept (read a)).Meets fun result asked => ∃ a, asked = [⟨q, a⟩] ∧ result = read a := by
  intro answer heard
  exact ⟨answer heard q, rfl, rfl⟩

theorem Meets.bind {Then : α → Except ε β → Transcript A → Prop} {Whole : Except ε β → Transcript A → Prop}
    (meets : program.Meets Post) (each : ∀ a, (next a).Meets (Then a))
    (refused : ∀ e asked, Post (.error e) asked → Whole (.error e) asked)
    (joined : ∀ a result first second, Post (.ok a) first → Then a result second → Whole result (first ++ second)) :
    (program >>= next).Meets Whole := by
  intro answer heard
  have here := meets answer heard
  change Whole (andThen program next answer heard).1 (andThen program next answer heard).2
  rw [andThen]
  cases run : program answer heard with
  | mk result first =>
    rw [run] at here
    cases result with
    | error e => exact refused e first here
    | ok a => exact joined a _ first _ here (each a answer (heard ++ first))

theorem Meets.thenPure (meets : program.Meets Post) (f : α → β) :
    (program >>= fun a => (pure (f a) : Dialogue A ε β)).Meets fun result asked =>
      ∃ before, Post before asked ∧ result = before.map f := by
  refine meets.bind (fun a => meets_exactly (f a)) ?_ ?_
  next => exact fun e asked holds => ⟨_, holds, rfl⟩
  next =>
    rintro a _ first _ holds ⟨rfl, rfl⟩
    rw [List.append_nil]
    exact ⟨_, holds, rfl⟩

-- A step whose result is given decides which way the rest goes.
theorem meets_ofExcept_bind {result : Except ε α} {Whole : Except ε β → Transcript A → Prop}
    (refused : ∀ e, result = .error e → Whole (.error e) [])
    (goes : ∀ a, result = .ok a → (next a).Meets Whole) : (ofExcept result >>= next).Meets Whole := by
  intro answer heard
  cases result with
  | error e => exact refused e rfl
  | ok a =>
    have later := goes a rfl answer (heard ++ [])
    exact later

theorem meets_ask_bind {q : Q} {next : A q → Dialogue A ε β} {Whole : Except ε β → Transcript A → Prop}
    (each : ∀ a, (next a).Meets fun result asked => Whole result (⟨q, a⟩ :: asked)) : (ask q >>= next).Meets Whole := by
  intro answer heard
  exact each (answer heard q) answer (heard ++ [⟨q, answer heard q⟩])

theorem Meets.attempt {Whole : Except δ (Except ε α) → Transcript A → Prop} (meets : program.Meets Post)
    (holds : ∀ result asked, Post result asked → Whole (.ok result) asked) : program.attempt.Meets Whole := by
  intro answer heard
  exact holds _ _ (meets answer heard)

theorem Meets.attempted (meets : program.Meets Post) :
    (program.attempt : Dialogue A δ _).Meets fun result asked => ∃ inner, result = .ok inner ∧ Post inner asked :=
  meets.attempt fun result _ holds => ⟨result, rfl, holds⟩

variable {Allowed : (q : Q) × A q → Prop}

theorem only_pure {a : α} : Only Allowed (pure a : Dialogue A ε α) := meets_pure (by simp)

theorem only_ofExcept {result : Except ε α} : Only Allowed (ofExcept result : Dialogue A ε α) :=
  meets_ofExcept (by simp)

theorem only_ask {q : Q} (allowed : ∀ a, Allowed ⟨q, a⟩) : Only Allowed (ask q : Dialogue A ε (A q)) :=
  meets_ask (by simpa using allowed)

-- What short transcripts satisfy and joined ones inherit.
theorem Meets.bind_closed {P : Transcript A → Prop} (closed : ∀ first second, P first → P second → P (first ++ second))
    (meets : program.Meets fun _ asked => P asked) (each : ∀ a, (next a).Meets fun _ asked => P asked) :
    (program >>= next).Meets fun _ asked => P asked :=
  meets.bind each (fun _ _ holds => holds) fun _ _ first second here later => closed first second here later

theorem Only.bind (only : program.Only Allowed) (each : ∀ a, (next a).Only Allowed) :
    (program >>= next).Only Allowed := by
  apply only.bind_closed _ each
  intro first second here later
  rw [List.forall_mem_append]
  exact ⟨here, later⟩

theorem Only.attempt (only : program.Only Allowed) : (program.attempt : Dialogue A δ _).Only Allowed :=
  Meets.attempt only fun _ _ allowed => allowed

theorem only_foldlM {γ : Type} {f : β → γ → Dialogue A ε β} (each : ∀ b c, (f b c).Only Allowed) (b : β)
    (cs : List γ) : (cs.foldlM f b).Only Allowed := by
  induction cs generalizing b with
  | nil => exact only_pure
  | cons c rest ih =>
    rw [List.foldlM_cons]
    exact (each b c).bind ih

end Rules

end Dialogue

end Shared
