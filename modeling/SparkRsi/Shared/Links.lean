import SparkRsi.Shared.Results
import Mathlib.Data.List.Basic
import Mathlib.Data.List.Forall2
import Mathlib.Data.List.Infix
import Mathlib.Data.Set.Operations

set_option autoImplicit false

namespace Shared

variable {α : Type}

def Comparable (a b : List α) : Prop := a <+: b ∨ b <+: a

instance [DecidableEq α] (a b : List α) : Decidable (Comparable a b) := inferInstanceAs (Decidable (_ ∨ _))

theorem Comparable.of_starts {m m' s s' a b : List α} (start : m <+: s) (start' : m' <+: s')
    (same : s ++ a = s' ++ b) :
    Comparable m m' :=
  List.prefix_or_prefix_of_prefix (start.trans (List.prefix_append s a)) (same ▸ start'.trans (List.prefix_append s' b))

/-- What may stand between two fields: texts that open with one character and a marker, and hold that
character again only in front of one of the inner markers. -/
structure Link (c : α) where
  marker : List α
  inner : List (List α)
  texts : Set (List α)
  starts : ∀ l ∈ texts, c :: marker <+: l
  behind : ∀ l ∈ texts, ∀ s, c :: s <:+ l → c :: s = l ∨ ∃ m ∈ inner, m <+: s
  whole : ∀ l ∈ texts, ∀ l' ∈ texts, l <+: l' → l = l'

namespace Links

variable {c : α}

section Lines

def spell (c : α) (lines : List (List α)) : List α := lines.flatMap fun line => c :: line

theorem suffix_spell {lines : List (List α)} (clean : ∀ line ∈ lines, c ∉ line) {s : List α}
    (suffix : c :: s <:+ spell c lines) :
    ∃ front line back, lines = front ++ line :: back ∧ c :: s = spell c (line :: back) := by
  induction lines with
  | nil => exact absurd (List.suffix_nil.mp suffix) (List.cons_ne_nil _ _)
  | cons line rest ih =>
    rw [List.forall_mem_cons] at clean
    rw [spell, List.flatMap_cons, List.cons_append, List.suffix_cons_iff] at suffix
    cases suffix with
    | inl whole => exact ⟨[], line, rest, rfl, whole⟩
    | inr inside =>
      obtain ⟨u, split⟩ := inside
      cases List.append_eq_append_iff.mp split with
      | inl later =>
        obtain ⟨v, held, joined⟩ := later
        cases v with
        | nil =>
          obtain ⟨front, line', back, lines, same⟩ := ih clean.2 ⟨[], joined⟩
          exact ⟨line :: front, line', back, congrArg (line :: ·) lines, same⟩
        | cons d v =>
          -- The line itself has no opening character.
          rw [List.cons_append, List.cons.injEq] at joined
          rw [held, ← joined.1] at clean
          exact absurd (List.mem_append_right u List.mem_cons_self) clean.1
      | inr later =>
        obtain ⟨v, -, joined⟩ := later
        obtain ⟨front, line', back, lines, same⟩ := ih clean.2 ⟨v, joined.symm⟩
        exact ⟨line :: front, line', back, congrArg (line :: ·) lines, same⟩

theorem cut_unique {a a' x y : List α} (clean : c ∉ a) (clean' : c ∉ a') (same : a ++ c :: x = a' ++ c :: y) :
    a = a' ∧ x = y := by
  induction a generalizing a' with
  | nil =>
    cases a' with
    | nil => exact ⟨rfl, (List.cons.inj same).2⟩
    | cons d rest => exact absurd ((List.cons.inj same).1 ▸ List.mem_cons_self) clean'
  | cons d rest ih =>
    cases a' with
    | nil => exact absurd ((List.cons.inj same).1 ▸ List.mem_cons_self) clean
    | cons d' rest' =>
      obtain ⟨rfl, later⟩ := List.cons.inj same
      obtain ⟨rfl, rest⟩ := ih (List.not_mem_of_not_mem_cons clean) (List.not_mem_of_not_mem_cons clean') later
      exact ⟨rfl, rest⟩

-- Lines that open with the same number of others are told apart line by line.
theorem spell_begins {lines lines' : List (List α)} (clean : ∀ line ∈ lines, c ∉ line)
    (clean' : ∀ line ∈ lines', c ∉ line) (lengths : lines.length = lines'.length)
    (last : lines.getLast? = lines'.getLast?) (start : spell c lines <+: spell c lines') :
    lines = lines' := by
  induction lines generalizing lines' with
  | nil => exact (List.length_eq_zero_iff.mp lengths.symm).symm
  | cons line rest ih =>
    cases lines' with
    | nil => cases lengths
    | cons line' rest' =>
      rw [List.forall_mem_cons] at clean clean'
      have lengths' := Nat.succ.inj lengths
      cases rest with
      | nil =>
        cases rest' with
        | nil => simpa using last
        | cons => cases lengths'
      | cons second others =>
        cases rest' with
        | nil => cases lengths'
        | cons second' others' =>
          obtain ⟨z, whole⟩ := start
          simp only [spell, List.flatMap_cons, List.cons_append, List.cons.injEq, true_and,
            List.append_assoc] at whole
          have parts := cut_unique clean.1 clean'.1 whole
          have tails := ih clean.2 clean'.2 lengths' (by simpa using last) ⟨z, by simpa [spell] using parts.2⟩
          rw [parts.1, tails]

end Lines

def text : List α → List (List α × List α) → List α
  | f, [] => f
  | f, (l, g) :: rest => f ++ (l ++ text g rest)

def Matches (links : List (Link c)) (rest : List (List α × List α)) : Prop :=
  List.Forall₂ (fun L e => e.1 ∈ L.texts) links rest

def Holds (L : Link c) (f : List α) : Prop := ∃ l ∈ L.texts, l <:+: f

def Separate : List (Link c) → List α → List (List α) → Prop
  | L :: links, f, g :: rest => ¬Holds L f ∧ ¬Holds L g ∧ Separate links g rest
  | _, _, _ => True

structure Apart (links : List (Link c)) : Prop where
  markers : links.Pairwise fun L L' => ¬Comparable L.marker L'.marker
  inners : ∀ L ∈ links, ∀ m ∈ L.inner, ∀ L' ∈ links, ¬Comparable m L'.marker

variable {links : List (Link c)} {L L' : Link c} {l l' : List α}

theorem Link.exists_tail (member : l ∈ L.texts) : ∃ w, l = c :: w ∧ L.marker <+: w := by
  obtain ⟨rest, rfl⟩ := L.starts l member
  exact ⟨L.marker ++ rest, rfl, List.prefix_append _ _⟩

theorem Apart.tail {links : List (Link c)} (apart : Apart (L :: links)) : Apart links where
  markers := (List.pairwise_cons.mp apart.markers).2
  inners M member m inner M' member' :=
    apart.inners M (List.mem_cons_of_mem _ member) m inner M' (List.mem_cons_of_mem _ member')

section Place

variable (apart : Apart links) (inL : L ∈ links) (inL' : L' ∈ links) (member : l ∈ L.texts)
  (member' : l' ∈ L'.texts)
include apart inL inL' member member'

-- A link that starts in another one starts with it or comes behind it.
theorem start_or_behind {u a b : List α} (same : l ++ a = u ++ (l' ++ b)) :
    u = [] ∨ ∃ x, u = l ++ x ∧ a = x ++ (l' ++ b) := by
  cases List.append_eq_append_iff.mp same with
  | inl later => exact .inr later
  | inr inside =>
    obtain ⟨s, whole, rest⟩ := inside
    cases s with
    | nil => exact .inr ⟨[], by simpa using whole.symm, by simpa using rest.symm⟩
    | cons d s =>
      obtain ⟨w, opened, start⟩ := Link.exists_tail member'
      rw [opened, List.cons_append, List.cons_append, List.cons.injEq] at rest
      obtain ⟨rfl, rest⟩ := rest
      cases L.behind l member s ⟨u, whole.symm⟩ with
      | inl all =>
        left
        rw [whole] at all
        exact List.append_left_eq_self.mp all.symm
      | inr inner =>
        obtain ⟨m, inner, first⟩ := inner
        exact absurd (Comparable.of_starts first start rest.symm) (apart.inners L inL m inner L' inL')

-- Two links in one text are one behind the other, or start together.
theorem placed {f f' a b : List α} (same : f ++ (l ++ a) = f' ++ (l' ++ b)) :
    (∃ x, f = f' ++ (l' ++ x)) ∨ (f = f' ∧ l ++ a = l' ++ b) ∨ ∃ x, f' = f ++ (l ++ x) ∧
      a = x ++ (l' ++ b) := by
  cases List.append_eq_append_iff.mp same with
  | inl right =>
    obtain ⟨u, rfl, behind⟩ := right
    cases start_or_behind apart inL inL' member member' behind with
    | inl none =>
      rw [none, List.nil_append] at behind
      exact .inr (.inl ⟨by rw [none, List.append_nil], behind⟩)
    | inr later =>
      obtain ⟨x, skipped, rest⟩ := later
      exact .inr (.inr ⟨x, by rw [skipped], rest⟩)
  | inr left =>
    obtain ⟨u, rfl, behind⟩ := left
    cases start_or_behind apart inL' inL member' member behind with
    | inl none =>
      rw [none, List.nil_append] at behind
      exact .inr (.inl ⟨by rw [none, List.append_nil], behind.symm⟩)
    | inr later =>
      obtain ⟨x, skipped, -⟩ := later
      exact .inl ⟨x, by rw [skipped]⟩

end Place

theorem holds_of_eq {f a b : List α} (member : l ∈ L.texts) (whole : f = a ++ (l ++ b)) : Holds L f :=
  ⟨l, member, a, b, by rw [whole, List.append_assoc]⟩

-- Fields without the opening character hold no link.
theorem separate_of_clean (links : List (Link c)) {f : List α} {fields : List (List α)} (clean : c ∉ f)
    (others : ∀ g ∈ fields, c ∉ g) : Separate links f fields := by
  have none {L : Link c} {g : List α} (clean : c ∉ g) : ¬Holds L g := by
    intro held
    obtain ⟨l, member, inside⟩ := held
    obtain ⟨w, opened, -⟩ := Link.exists_tail member
    exact clean (inside.subset (opened ▸ List.mem_cons_self))
  induction fields generalizing f links with
  | nil => cases links <;> exact trivial
  | cons g rest ih =>
    rw [List.forall_mem_cons] at others
    cases links with
    | nil => exact trivial
    | cons L links => exact ⟨none clean, none others.1, ih links others.1 others.2⟩

-- A text that starts behind a link does not hold that link and all that follow it.
theorem text_ne_shifted {rest rest' : List (List α × List α)} {f x g' : List α} (apart : Apart (L :: links))
    (member' : l' ∈ L.texts) (clean : ¬Holds L f) (read : Matches links rest) (read' : Matches links rest')
    (separate : Separate links f (rest.map Prod.snd)) : x ++ (l' ++ text g' rest') ≠ text f rest := by
  induction read generalizing L f x l' g' rest' with
  | nil => exact fun same => clean (holds_of_eq member' same.symm)
  | @cons L₂ e links rest member read ih =>
    obtain ⟨l, g⟩ := e
    cases read' with
    | @cons _ e' _ rest' member₂ read' =>
      obtain ⟨l₂, g₂⟩ := e'
      intro same
      cases placed apart (List.mem_cons_of_mem _ List.mem_cons_self) List.mem_cons_self member member' same.symm with
      | inl inside =>
        obtain ⟨y, whole⟩ := inside
        exact clean (holds_of_eq member' whole)
      | inr other =>
        cases other with
        | inl together =>
          -- Both start here, but they are texts of different links.
          obtain ⟨w, opened, start⟩ := Link.exists_tail member
          obtain ⟨w', opened', start'⟩ := Link.exists_tail member'
          have joined := together.2
          rw [opened, opened', List.cons_append, List.cons_append, List.cons.injEq] at joined
          exact (List.pairwise_cons.mp apart.markers).1 L₂ List.mem_cons_self
            (Comparable.of_starts start' start joined.2.symm)
        | inr later =>
          obtain ⟨y, -, shifted⟩ := later
          have next : (y ++ (l' ++ g')) ++ (l₂ ++ text g₂ rest') ≠ text g rest :=
            ih apart.tail member₂ separate.2.1 read' separate.2.2
          apply next
          rw [shifted]
          simp [text]

-- Where no field holds what stands beside it, the text can be read in one way only.
theorem text_injective {rest rest' : List (List α × List α)} {f f' : List α} (apart : Apart links)
    (read : Matches links rest) (read' : Matches links rest')
    (separate : Separate links f (rest.map Prod.snd)) (same : text f rest = text f' rest') :
    f = f' ∧ rest = rest' := by
  induction read generalizing f f' rest' with
  | nil =>
    cases read'
    exact ⟨same, rfl⟩
  | @cons L e links rest member read ih =>
    obtain ⟨l, g⟩ := e
    cases read' with
    | @cons _ e' _ rest' member' read' =>
      obtain ⟨l', g'⟩ := e'
      cases placed apart List.mem_cons_self List.mem_cons_self member member' same with
      | inl inside =>
        obtain ⟨x, whole⟩ := inside
        exact absurd (holds_of_eq member' whole) separate.1
      | inr other =>
        cases other with
        | inl together =>
          obtain ⟨rfl, joined⟩ := together
          have texts : l = l' := by
            have comparable := List.prefix_or_prefix_of_prefix (List.prefix_append l (text g rest))
              (joined ▸ List.prefix_append l' (text g' rest'))
            cases comparable with
            | inl less => exact L.whole l member l' member' less
            | inr less => exact (L.whole l' member' l member less).symm
          subst texts
          have tails := ih apart.tail read' separate.2.2 (List.append_cancel_left joined)
          obtain ⟨rfl, rfl⟩ := tails
          exact ⟨rfl, rfl⟩
        | inr later =>
          obtain ⟨x, -, shifted⟩ := later
          exact absurd shifted.symm (text_ne_shifted apart member' separate.2.1 read read' separate.2.2)

-- Where a field does, there is another reading.
theorem exists_other {rest : List (List α × List α)} {f : List α} (read : Matches links rest)
    (mixed : ¬Separate links f (rest.map Prod.snd)) :
    ∃ f' rest', Matches links rest' ∧ text f' rest' = text f rest ∧
      (f', rest'.map Prod.snd) ≠ (f, rest.map Prod.snd) := by
  induction read generalizing f with
  | nil => exact absurd trivial mixed
  | @cons L e links rest member read ih =>
    obtain ⟨l, g⟩ := e
    have filled {l' : List α} (member' : l' ∈ L.texts) : l' ≠ [] := by
      obtain ⟨w, opened, -⟩ := Link.exists_tail member'
      simp [opened]
    by_cases left : Holds L f
    next =>
      obtain ⟨l', member', a, b, whole⟩ := left
      refine ⟨a, (l', b ++ (l ++ g)) :: rest, List.Forall₂.cons member' read, ?_, ?_⟩
      · cases rest <;> simp [text, ← whole]
      · intro same
        rw [Prod.mk.injEq] at same
        rw [same.1, List.append_assoc, List.append_right_eq_self, List.append_eq_nil_iff] at whole
        exact filled member' whole.1
    next =>
      by_cases right : Holds L g
      next =>
        obtain ⟨l', member', a, b, whole⟩ := right
        refine ⟨f ++ (l ++ a), (l', b) :: rest, List.Forall₂.cons member' read, ?_, ?_⟩
        · cases rest <;> simp [text, ← whole]
        · intro same
          rw [Prod.mk.injEq, List.append_right_eq_self, List.append_eq_nil_iff] at same
          exact filled member same.1.1
      next =>
        have later : ¬Separate links g (rest.map Prod.snd) := fun clean => mixed ⟨left, right, clean⟩
        obtain ⟨g', rest', read', same, other⟩ := ih later
        refine ⟨f, (l, g') :: rest', List.Forall₂.cons member read', by rw [text, text, same], ?_⟩
        simpa using other

section OfLines

variable {ι : Type} (marker : List α) (inner : List (List α)) (last : List α) (lines : ι → List (List α))
  (shape : ∀ i, List.Forall₂ (fun m line => m <+: line ∧ c ∉ line) (marker :: inner) (lines i))
  (ends : ∀ i, (lines i).getLast? = some last)

def ofLines : Link c where
  marker := marker
  inner := inner
  texts := Set.range fun i => spell c (lines i)
  starts := by
    intro l member
    obtain ⟨i, rfl⟩ := member
    obtain ⟨first, rest, opens, -, split⟩ := List.forall₂_cons_left_iff.mp (shape i)
    beta_reduce
    rw [split, spell, List.flatMap_cons, List.cons_append, List.cons_prefix_cons]
    exact ⟨rfl, opens.1.trans (List.prefix_append _ _)⟩
  behind := by
    intro l member s suffix
    obtain ⟨i, rfl⟩ := member
    obtain ⟨first, rest, opens, others, whole⟩ := List.forall₂_cons_left_iff.mp (shape i)
    have clean : ∀ line ∈ lines i, c ∉ line := fun line member =>
      (exists_of_mem_right (shape i) member).elim fun _ opened => opened.2.2
    obtain ⟨front, line, back, split, same⟩ := suffix_spell clean suffix
    cases front with
    | nil => exact .inl (same.trans (congrArg (spell c) split.symm))
    | cons first' front =>
      right
      rw [whole, List.cons_append, List.cons.injEq] at split
      have inside : line ∈ rest := by simp [split.2]
      obtain ⟨m, known, opened⟩ := exists_of_mem_right others inside
      refine ⟨m, known, opened.1.trans ?_⟩
      rw [spell, List.flatMap_cons, List.cons_append, List.cons.injEq] at same
      exact same.2 ▸ List.prefix_append _ _
  whole := by
    intro l member l' member' less
    obtain ⟨i, rfl⟩ := member
    obtain ⟨j, rfl⟩ := member'
    have clean (i : ι) : ∀ line ∈ lines i, c ∉ line := fun line member =>
      (exists_of_mem_right (shape i) member).elim fun _ opened => opened.2.2
    have lengths := (shape i).length_eq.symm.trans (shape j).length_eq
    exact congrArg (spell c) (spell_begins (clean i) (clean j) lengths ((ends i).trans (ends j).symm) less)

end OfLines

end Links

end Shared
