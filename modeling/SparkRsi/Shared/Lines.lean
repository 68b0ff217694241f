import Mathlib.Data.List.Basic

set_option autoImplicit false

/-!
# Terminated lines

A file of separator-terminated lines, possibly with an unterminated tail.
-/

namespace Shared.Lines

variable {α : Type} [DecidableEq α] (sep : α)

/-- The terminated lines of a file, without their separators, and what follows the last one. -/
def split : List α → List (List α) × List α
  | [] => ([], [])
  | c :: rest =>
    let (lines, tail) := split rest
    if c = sep then ([] :: lines, tail)
    else
      match lines with
      | [] => ([], c :: tail)
      | line :: others => ((c :: line) :: others, tail)

omit [DecidableEq α] in
def join (lines : List (List α)) : List α := lines.flatMap (· ++ [sep])

theorem split_of_no_sep (tail : List α) (inside : sep ∉ tail) : split sep tail = ([], tail) := by
  induction tail with
  | nil => rfl
  | cons c rest ih =>
    simp only [List.mem_cons, not_or] at inside
    simp [split, ih inside.2, Ne.symm inside.1]

theorem split_line (line rest : List α) (inside : sep ∉ line) :
    split sep (line ++ sep :: rest) = (line :: (split sep rest).1, (split sep rest).2) := by
  induction line with
  | nil => simp [split]
  | cons c others ih =>
    simp only [List.mem_cons, not_or] at inside
    simp [split, ih inside.2, Ne.symm inside.1]

-- A line ends at its first separator.
theorem line_inj {first second rest others : List α} (inFirst : sep ∉ first) (inSecond : sep ∉ second)
    (same : first ++ sep :: rest = second ++ sep :: others) : first = second ∧ rest = others := by
  have lines := congrArg (fun file => (split sep file).1.head?) same
  simp only [split_line sep _ _ inFirst, split_line sep _ _ inSecond, List.head?_cons, Option.some.injEq] at lines
  subst lines
  exact ⟨rfl, (List.cons.inj (List.append_cancel_left same)).2⟩

theorem split_join (lines : List (List α)) (rest : List α) (inside : ∀ line ∈ lines, sep ∉ line) :
    split sep (join sep lines ++ rest) = (lines ++ (split sep rest).1, (split sep rest).2) := by
  induction lines with
  | nil => simp [join]
  | cons line others ih =>
    have first : join sep (line :: others) ++ rest = line ++ sep :: (join sep others ++ rest) := by
      simp [join]
    rw [first, split_line sep _ _ (inside line (by simp)),
      ih fun other member => inside other (List.mem_cons_of_mem _ member)]
    simp

theorem join_split (file : List α) : join sep (split sep file).1 ++ (split sep file).2 = file := by
  induction file with
  | nil => rfl
  | cons c rest ih =>
    rw [split]
    rcases splitted : split sep rest with ⟨lines, tail⟩
    rw [splitted] at ih
    by_cases same : c = sep
    · simp_all [join]
    · cases lines with
      | nil => simp_all [join]
      | cons line others => simp_all [join]

theorem sep_notMem_split (file : List α) :
    (∀ line ∈ (split sep file).1, sep ∉ line) ∧ sep ∉ (split sep file).2 := by
  induction file with
  | nil => simp [split]
  | cons c rest ih =>
    rw [split]
    rcases splitted : split sep rest with ⟨lines, tail⟩
    rw [splitted] at ih
    by_cases same : c = sep
    · simp_all
    · cases lines with
      | nil => simp_all [Ne.symm same]
      | cons line others => simp_all [Ne.symm same]

end Shared.Lines
