import Mathlib.Data.List.Basic

set_option autoImplicit false

namespace Shared.Parts

variable {α : Type} [DecidableEq α] (sep : α)

def join (parts : List (List α)) : List α := [sep].intercalate parts

omit [DecidableEq α] in
@[simp] theorem join_singleton (part : List α) : join sep [part] = part := by
  simp [join, List.intercalate]

omit [DecidableEq α] in
theorem join_cons (part : List α) {rest : List (List α)} (more : rest ≠ []) :
    join sep (part :: rest) = part ++ sep :: join sep rest := by
  cases rest with
  | nil => exact absurd rfl more
  | cons next others => simp [join, List.intercalate]

theorem join_splitOn (text : List α) : join sep (text.splitOn sep) = text := List.intercalate_splitOn sep

theorem splitOn_join {parts : List (List α)} (clean : ∀ part ∈ parts, sep ∉ part) (nonempty : parts ≠ []) :
    (join sep parts).splitOn sep = parts := List.splitOn_intercalate sep clean nonempty

theorem splitOn_cons_sep (text : List α) : (sep :: text).splitOn sep = [] :: text.splitOn sep := by
  simp [List.splitOn_cons_eq_if_modifyHead]

theorem splitOn_part_sep {part : List α} (clean : sep ∉ part) (text : List α) :
    (part ++ sep :: text).splitOn sep = part :: text.splitOn sep :=
  List.splitOn_append_cons_self_of_not_mem clean text

theorem splitOn_append_sep (first second : List α) :
    (first ++ sep :: second).splitOn sep = first.splitOn sep ++ second.splitOn sep := by
  induction first with
  | nil => rw [List.nil_append, splitOn_cons_sep, List.splitOn_nil, List.singleton_append]
  | cons c rest ih =>
    rw [List.cons_append, List.splitOn_cons_eq_if_modifyHead, List.splitOn_cons_eq_if_modifyHead, ih]
    by_cases same : c = sep
    next => simp [same]
    next =>
      have front := List.splitOn_ne_nil sep rest
      cases split : rest.splitOn sep with
      | nil => exact absurd split front
      | cons head others => simp [same]

theorem sep_notMem_of_mem_splitOn {text part : List α} (member : part ∈ text.splitOn sep) : sep ∉ part := by
  induction text generalizing part with
  | nil =>
    rw [List.splitOn_nil, List.mem_singleton] at member
    simp [member]
  | cons c rest ih =>
    rw [List.splitOn_cons_eq_if_modifyHead] at member
    by_cases same : c = sep
    · simp only [same, beq_self_eq_true, if_true, List.mem_cons] at member
      rcases member with rfl | later
      · simp
      · exact ih later
    · obtain ⟨first, others, split⟩ := List.exists_cons_of_ne_nil (List.splitOn_ne_nil sep rest)
      simp only [beq_iff_eq, same, if_false, split, List.modifyHead_cons, List.mem_cons] at member
      rcases member with rfl | later
      · have inside : sep ∉ first := ih (by simp [split])
        simp [Ne.symm same, inside]
      · exact ih (by simp [split, later])

omit [DecidableEq α] in
-- A text without separators stands on one side of a separator or on the other.
theorem infix_append_sep {pattern : List α} (clean : sep ∉ pattern) (first second : List α) :
    pattern <:+: first ++ sep :: second ↔ pattern <:+: first ∨ pattern <:+: second := by
  constructor
  next =>
    rintro ⟨before, after, whole⟩
    rw [List.append_assoc, List.append_eq_append_iff] at whole
    cases whole with
    | inl inside =>
      obtain ⟨rest, rfl, behind⟩ := inside
      rw [List.append_eq_append_iff] at behind
      cases behind with
      | inl fits =>
        obtain ⟨more, rfl, -⟩ := fits
        exact .inl ⟨before, more, by rw [List.append_assoc]⟩
      | inr cut =>
        -- The pattern would reach the separator.
        obtain ⟨beyond, rfl, reached⟩ := cut
        cases beyond with
        | nil => exact .inl ⟨before, [], by simp⟩
        | cons c others =>
          rw [List.cons_append, List.cons.injEq] at reached
          rw [reached.1] at clean
          simp at clean
    | inr behind =>
      obtain ⟨beyond, rfl, reached⟩ := behind
      cases beyond with
      | nil =>
        cases pattern with
        | nil => exact .inl (List.nil_infix)
        | cons c others =>
          rw [List.nil_append, List.cons_append, List.cons.injEq] at reached
          rw [reached.1] at clean
          simp at clean
      | cons c others =>
        rw [List.cons_append, List.cons.injEq] at reached
        exact .inr ⟨others, after, by rw [List.append_assoc, reached.2]⟩
  next =>
    intro either
    cases either with
    | inl inside => exact inside.trans (List.prefix_append _ _).isInfix
    | inr behind => exact behind.trans ((List.suffix_cons _ _).isInfix.trans (List.suffix_append _ _).isInfix)

theorem infix_iff_part {pattern : List α} (clean : sep ∉ pattern) (text : List α) :
    pattern <:+: text ↔ ∃ part ∈ text.splitOn sep, pattern <:+: part := by
  have joined (parts : List (List α)) (nonempty : parts ≠ []) :
      pattern <:+: join sep parts ↔ ∃ part ∈ parts, pattern <:+: part := by
    induction parts with
    | nil => exact absurd rfl nonempty
    | cons part rest ih =>
      cases rest with
      | nil => simp
      | cons next others =>
        rw [join_cons sep part (by simp), infix_append_sep sep clean, ih (by simp)]
        simp only [List.mem_cons, exists_eq_or_imp]
  rw [← joined _ (List.splitOn_ne_nil sep text), join_splitOn]

/-- The parts begin with these, the last of them possibly continued. -/
def Begins : List (List α) → List (List α) → Prop
  | [], _ => True
  | _ :: _, [] => False
  | [last], part :: _ => last <+: part
  | part :: next :: more, other :: rest => part = other ∧ Begins (next :: more) rest

omit [DecidableEq α] in
theorem prefix_of_prefix_sep {part other text : List α} (clean : sep ∉ part)
    (starts : part <+: other ++ sep :: text) : part <+: other := by
  apply List.prefix_of_prefix_length_le starts (List.prefix_append _ _)
  by_contra long
  obtain ⟨more, whole⟩ :=
    List.prefix_of_prefix_length_le (List.prefix_append other (sep :: text)) starts (by omega)
  rw [← whole, List.prefix_append_right_inj] at starts
  cases more with
  | nil => simp [← whole] at long
  | cons c others =>
    obtain ⟨rfl, -⟩ := List.cons_prefix_cons.mp starts
    exact clean (whole ▸ List.mem_append_right _ List.mem_cons_self)

omit [DecidableEq α] in
theorem sep_prefix_sep {part other text rest : List α} (clean : sep ∉ part) (otherClean : sep ∉ other) :
    part ++ sep :: text <+: other ++ sep :: rest ↔ part = other ∧ text <+: rest := by
  constructor
  · intro starts
    have first : part <+: other :=
      prefix_of_prefix_sep sep clean ((List.prefix_append part (sep :: text)).trans starts)
    obtain ⟨more, rfl⟩ := first
    rw [List.append_assoc, List.prefix_append_right_inj] at starts
    cases more with
    | nil =>
      rw [List.nil_append, List.cons_prefix_cons] at starts
      exact ⟨by simp, starts.2⟩
    | cons c others =>
      obtain ⟨rfl, -⟩ := List.cons_prefix_cons.mp starts
      exact absurd (List.mem_append_right _ List.mem_cons_self) otherClean
  · rintro ⟨rfl, starts⟩
    rw [List.prefix_append_right_inj, List.cons_prefix_cons]
    exact ⟨rfl, starts⟩

omit [DecidableEq α] in
-- One joined text begins with another exactly when its parts do.
theorem join_prefix_join {pattern parts : List (List α)} (patternClean : ∀ part ∈ pattern, sep ∉ part)
    (clean : ∀ part ∈ parts, sep ∉ part) (named : pattern ≠ []) (nonempty : parts ≠ []) :
    join sep pattern <+: join sep parts ↔ Begins pattern parts := by
  induction pattern generalizing parts with
  | nil => exact absurd rfl named
  | cons first more ih =>
    obtain ⟨part, rest, rfl⟩ := List.exists_cons_of_ne_nil nonempty
    have firstClean := patternClean first List.mem_cons_self
    have partClean := clean part List.mem_cons_self
    cases more with
    | nil =>
      rw [join_singleton, Begins]
      cases rest with
      | nil => rw [join_singleton]
      | cons next others =>
        rw [join_cons sep part (by simp)]
        exact ⟨prefix_of_prefix_sep sep firstClean, fun starts => starts.trans (List.prefix_append _ _)⟩
    | cons second others =>
      rw [join_cons sep first (by simp), Begins]
      cases rest with
      | nil =>
        rw [join_singleton]
        constructor
        · intro starts
          exact absurd (starts.subset (List.mem_append_right _ List.mem_cons_self)) partClean
        · rintro ⟨-, impossible⟩
          cases impossible
      | cons next tail =>
        rw [join_cons sep part (by simp), sep_prefix_sep sep firstClean partClean]
        rw [ih (fun p member => patternClean p (List.mem_cons_of_mem _ member))
          (fun p member => clean p (List.mem_cons_of_mem _ member)) (by simp) (by simp)]

omit [DecidableEq α] in
/-- Dropping parts leaves a beginning in place when none of its parts is dropped, and shows one nowhere else
than where dropped parts stood in it. -/
theorem begins_iff_filter (keep : List α → Bool) {pattern : List (List α)} (parts : List (List α))
    (kept : ∀ part ∈ pattern, ∀ longer, part <+: longer → keep longer = true) :
    Begins pattern parts ↔
      Begins pattern (parts.filter keep) ∧ ∀ part ∈ parts.take pattern.length, keep part = true := by
  induction pattern generalizing parts with
  | nil => simp [Begins]
  | cons first more ih =>
    have keepsFirst := kept first List.mem_cons_self
    cases parts with
    | nil => simp [Begins]
    | cons part rest =>
      rw [List.length_cons, List.take_succ_cons, List.forall_mem_cons]
      by_cases keeps : keep part = true
      · rw [List.filter_cons_of_pos keeps]
        cases more with
        | nil => simp [Begins, keeps]
        | cons second others =>
          rw [Begins, Begins, ih rest fun p member => kept p (List.mem_cons_of_mem _ member)]
          tauto
      · constructor
        · intro begins
          cases more with
          | nil => exact absurd (keepsFirst part begins) keeps
          | cons second others => exact absurd (keepsFirst part (begins.1 ▸ List.prefix_rfl)) keeps
        · exact fun both => absurd both.2.1 keeps

/-- A text begins with a pattern exactly when the text without the dropped parts does and none of the parts
the pattern reaches was dropped. -/
theorem prefix_iff_filtered (keep : List α → Bool) {pattern : List (List α)} (text : List α)
    (named : pattern ≠ []) (patternClean : ∀ part ∈ pattern, sep ∉ part)
    (kept : ∀ part ∈ pattern, ∀ longer, part <+: longer → keep longer = true)
    (some_kept : (text.splitOn sep).filter keep ≠ []) :
    join sep pattern <+: text ↔ join sep pattern <+: join sep ((text.splitOn sep).filter keep) ∧
      ∀ part ∈ (text.splitOn sep).take pattern.length, keep part = true := by
  have clean : ∀ part ∈ text.splitOn sep, sep ∉ part := fun part => sep_notMem_of_mem_splitOn sep
  rw [join_prefix_join sep patternClean (fun part member => clean part (List.mem_of_mem_filter member)) named some_kept,
    ← begins_iff_filter keep _ kept, ← join_prefix_join sep patternClean clean named (List.splitOn_ne_nil _ _),
    join_splitOn]

end Shared.Parts
