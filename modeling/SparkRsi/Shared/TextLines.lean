import SparkRsi.Shared.Parts
import Mathlib.Data.List.DropRight
import Mathlib.Data.List.Infix

set_option autoImplicit false

namespace Shared.TextLines

-- One carriage return in front of the line feed belongs to the line ending.
def stripCr (line : List Char) : List Char :=
  if line.getLast? = some '\r' then line.dropLast else line

def contains (text pattern : String) : Bool := decide (pattern.toList <:+: text.toList)

/-- The lines of a text as `str::lines` cuts them: an empty last piece is no line. -/
def cutLines : List (List Char) → List (List Char)
  | [] => []
  | [last] => if last = [] then [] else [last]
  | line :: next :: rest => stripCr line :: cutLines (next :: rest)

def lines (text : List Char) : List (List Char) := cutLines (text.splitOn '\n')

def isWhitespace (c : Char) : Bool :=
  (9 ≤ c.toNat && c.toNat ≤ 13) || c.toNat ∈ [32, 133, 160, 5760] || (8192 ≤ c.toNat && c.toNat ≤ 8202) ||
    c.toNat ∈ [8232, 8233, 8239, 8287, 12288]

def trimEnd (text : List Char) : List Char := text.rdropWhile isWhitespace

def trim (text : List Char) : List Char := trimEnd (text.dropWhile isWhitespace)

theorem trim_snoc {text : List Char} {c : Char} (space : isWhitespace c = true) : trim (text ++ [c]) = trim text := by
  rw [trim, trim, List.dropWhile_append]
  split
  next blank =>
    rw [List.isEmpty_iff] at blank
    rw [blank, List.dropWhile_cons_of_pos space]
    rfl
  next => rw [trimEnd, List.rdropWhile_concat_pos _ _ _ space, trimEnd]

theorem trim_ends {c d : Char} (first : isWhitespace c = false) (last : isWhitespace d = false) (inside : List Char) :
    trim (c :: inside ++ [d]) = c :: inside ++ [d] := by
  rw [trim, List.cons_append, List.dropWhile_cons_of_neg (by simp [first]), trimEnd, ← List.cons_append,
    List.rdropWhile_concat_neg _ _ _ (by simp [last])]

theorem length_trim_le (text : List Char) : (trim text).length ≤ (text.dropWhile isWhitespace).length :=
  (List.rdropWhile_prefix isWhitespace _).length_le

-- A beginning of a trimmed text is trimmed at its end only.
theorem trim_prefix {text whole : List Char} (trimmed : trim whole = whole) (part : text <+: whole) :
    trim text <+: whole := by
  have start : text.dropWhile isWhitespace = text := by
    cases text with
    | nil => rfl
    | cons c rest =>
      obtain ⟨more, rfl⟩ := part
      apply List.dropWhile_cons_of_neg
      intro space
      have short := length_trim_le (c :: rest ++ more)
      rw [trimmed, List.cons_append, List.dropWhile_cons_of_pos space, List.length_cons] at short
      have fewer : ((rest ++ more).dropWhile isWhitespace).length ≤ (rest ++ more).length :=
        (List.dropWhile_suffix _).length_le
      omega
  rw [trim, start, trimEnd]
  exact (List.rdropWhile_prefix isWhitespace _).trans part

theorem stripCr_cases (line : List Char) : stripCr line = line ∨ line = stripCr line ++ ['\r'] := by
  unfold stripCr
  split
  next last => exact .inr (List.dropLast_append_getLast? _ last).symm
  next => exact .inl rfl

section Search

variable {Good : List Char → Prop}

/-- What one carriage return more or less does not change is found in the lines as in the pieces between
line feeds. -/
theorem exists_line_iff (blank : ¬Good []) (cr : ∀ line, Good (line ++ ['\r']) ↔ Good line)
    (text : List Char) :
    (∃ line ∈ lines text, Good line) ↔ ∃ piece ∈ text.splitOn '\n', Good piece := by
  have stripped (line : List Char) : Good (stripCr line) ↔ Good line := by
    cases stripCr_cases line with
    | inl same => rw [same]
    | inr ended =>
      conv_rhs => rw [ended]
      exact (cr _).symm
  have cut (pieces : List (List Char)) : (∃ line ∈ cutLines pieces, Good line) ↔
      ∃ piece ∈ pieces, Good piece := by
    induction pieces with
    | nil => rfl
    | cons piece rest ih =>
      cases rest with
      | nil =>
        by_cases empty : piece = []
        next => simp [cutLines, empty, blank]
        next => simp [cutLines, empty]
      | cons next others => simp only [cutLines, List.mem_cons, exists_eq_or_imp, ih, stripped]
  exact cut _

theorem splitOn_snoc (text : List Char) (c : Char) (other : c ≠ '\n') :
    ∃ front last, text.splitOn '\n' = front ++ [last] ∧
      (text ++ [c]).splitOn '\n' = front ++ [last ++ [c]] := by
  induction text with
  | nil => exact ⟨[], [], by simp, by simp [List.splitOn_cons_eq_if_modifyHead, other]⟩
  | cons d rest ih =>
    obtain ⟨front, last, before, after⟩ := ih
    rw [List.cons_append, List.splitOn_cons_eq_if_modifyHead, List.splitOn_cons_eq_if_modifyHead, before,
      after]
    by_cases feed : d = '\n'
    next => exact ⟨[] :: front, last, by simp [feed], by simp [feed]⟩
    next =>
      cases front with
      | nil => exact ⟨[], d :: last, by simp [feed], by simp [feed]⟩
      | cons head others => exact ⟨(d :: head) :: others, last, by simp [feed], by simp [feed]⟩

-- What white space at the end of a line does not change is not changed by white space at the end of the text.
theorem exists_piece_trimEnd (blank : ¬Good [])
    (trailing : ∀ line c, isWhitespace c = true → (Good (line ++ [c]) ↔ Good line)) (text : List Char) :
    (∃ piece ∈ (trimEnd text).splitOn '\n', Good piece) ↔ ∃ piece ∈ text.splitOn '\n', Good piece := by
  induction text using List.reverseRecOn with
  | nil => rfl
  | append_singleton text c ih =>
    by_cases space : isWhitespace c = true
    next =>
      rw [trimEnd, List.rdropWhile_concat_pos _ _ _ space, ← trimEnd, ih]
      by_cases feed : c = '\n'
      next =>
        rw [feed, Parts.splitOn_append_sep, List.splitOn_nil]
        simp [or_and_right, exists_or, blank]
      next =>
        obtain ⟨front, last, before, after⟩ := splitOn_snoc text c feed
        rw [before, after]
        simp [or_and_right, exists_or, trailing last c space]
    next => rw [trimEnd, List.rdropWhile_concat_neg _ _ _ space]

end Search

theorem splitOn_terminated {ls : List (List Char)} (clean : ∀ line ∈ ls, '\n' ∉ line) :
    (ls.flatMap fun line => line ++ ['\n']).splitOn '\n' = ls ++ [[]] := by
  induction ls with
  | nil => rfl
  | cons line rest ih =>
    rw [List.forall_mem_cons] at clean
    rw [List.flatMap_cons, List.append_assoc, List.singleton_append, Parts.splitOn_part_sep '\n' clean.1,
      ih clean.2, List.cons_append]

theorem stripCr_of_last {line : List Char} (last : line.getLast? ≠ some '\r') : stripCr line = line :=
  if_neg last

theorem lines_terminated {ls : List (List Char)} (clean : ∀ line ∈ ls, '\n' ∉ line)
    (last : ∀ line ∈ ls, line.getLast? ≠ some '\r') : lines (ls.flatMap fun line => line ++ ['\n']) = ls := by
  rw [lines, splitOn_terminated clean]
  clear clean
  induction ls with
  | nil => rfl
  | cons line rest ih =>
    rw [List.forall_mem_cons] at last
    -- The empty piece behind the last line feed keeps every line a line with a next one.
    obtain ⟨next, others, behind⟩ := List.exists_cons_of_ne_nil (List.append_ne_nil_of_right_ne_nil rest (List.cons_ne_nil [] []))
    have read := ih last.2
    rw [behind] at read
    rw [List.cons_append, behind, cutLines, read, stripCr_of_last last.1]

theorem infix_terminated {pattern : List Char} (clean : '\n' ∉ pattern) (filled : pattern ≠ [])
    (ls : List (List Char)) :
    pattern <:+: (ls.flatMap fun line => line ++ ['\n']) ↔ ∃ line ∈ ls, pattern <:+: line := by
  induction ls with
  | nil => simpa using filled
  | cons line rest ih =>
    rw [List.flatMap_cons, List.append_assoc, List.singleton_append, Parts.infix_append_sep '\n' clean, ih]
    simp only [List.mem_cons, exists_eq_or_imp]

theorem infix_concat {pattern : List Char} {c : Char} (filled : pattern ≠ [])
    (last : pattern.getLast? ≠ some c) (line : List Char) : pattern <:+: line ++ [c] ↔ pattern <:+: line := by
  rw [List.infix_concat_iff, or_iff_right]
  intro suffix
  rw [List.suffix_concat_iff] at suffix
  cases suffix with
  | inl empty => exact filled empty
  | inr ended =>
    obtain ⟨front, rfl, -⟩ := ended
    simp at last

/-- A pattern without line ends is found in a text exactly where it is found in one of its lines. -/
theorem infix_lines {pattern : List Char} (clean : '\n' ∉ pattern) (noCr : pattern.getLast? ≠ some '\r')
    (filled : pattern ≠ []) (text : List Char) :
    pattern <:+: text ↔ ∃ line ∈ lines text, pattern <:+: line := by
  rw [Parts.infix_iff_part '\n' clean, exists_line_iff (by simpa using filled) fun line => infix_concat filled noCr line]

end Shared.TextLines
