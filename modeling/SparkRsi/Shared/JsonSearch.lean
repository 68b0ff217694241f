import SparkRsi.Shared.Json

set_option autoImplicit false

/-!
# Where a JSON text can start an object

A printed value holds `{"k` only where one of its objects has a key that starts
with `k`: inside a string a quote stands behind a backslash.
-/

namespace Shared.Json

/-- One step of the search for `{"k`: how much of it the text now ends with, `none` when all of it. -/
def seek (found : Nat) (c : Char) : Option Nat :=
  if found = 2 ∧ c = 'k' then none
  else some (if c = '{' then 1 else if found = 1 ∧ c = '"' then 2 else 0)

def search (found : Nat) (text : List Char) : Option Nat := text.foldlM seek found

@[simp] theorem search_nil (found : Nat) : search found [] = some found := rfl

theorem search_cons (found : Nat) (c : Char) (text : List Char) :
    search found (c :: text) = (seek found c).bind fun found => search found text := rfl

theorem search_append (found : Nat) (first second : List Char) :
    search found (first ++ second) = (search found first).bind fun found => search found second := by
  simp [search, List.foldlM_append, bind]

theorem search_key (found : Nat) (rest : List Char) : search found ('{' :: '"' :: 'k' :: rest) = none := by
  simp [search_cons, seek]

def Passes (found : Nat) (text : List Char) : Prop := ∃ last, last ≠ 1 ∧ search found text = some last

theorem seek_two {c : Char} (other : c ≠ 'k') : seek 2 c = seek 0 c := by
  simp [seek, other]

theorem seek_plain {found : Nat} (c : Char) (behind : found ≠ 1) (letter : c ≠ 'k') (brace : c ≠ '{') :
    seek found c = some 0 := by
  simp [seek, behind, letter, brace]

theorem escapeChar_head (c : Char) (rest : List Char) (other : c ≠ 'k') :
    ∃ first more, escapeChar c ++ rest = first :: more ∧ first ≠ 'k' := by
  unfold escapeChar
  split_ifs
  all_goals first
    | exact ⟨'\\', _, rfl, by decide⟩
    | exact ⟨c, _, rfl, other⟩

theorem search_hexDigit (n : Nat) (digit : n < 16) : seek 0 (hexDigit n) = some 0 := by
  interval_cases n <;> decide

theorem search_escapeChar (c : Char) {found : Nat} (inside : found < 2) :
    ∃ next < 2, search found (escapeChar c) = some next := by
  have slash : seek found '\\' = some 0 := by simp [seek]
  have letter (c : Char) (letter : c ≠ 'k') (brace : c ≠ '{') : seek 0 c = some 0 :=
    seek_plain c (by decide) letter brace
  unfold escapeChar
  split
  next quote => exact ⟨0, by decide, by simp [slash, letter '"', search]⟩
  split
  next backslash => exact ⟨0, by decide, by simp [slash, letter '\\', search]⟩
  split
  next => exact ⟨0, by decide, by simp [slash, letter 'b', search]⟩
  split
  next => exact ⟨0, by decide, by simp [slash, letter 't', search]⟩
  split
  next => exact ⟨0, by decide, by simp [slash, letter 'n', search]⟩
  split
  next => exact ⟨0, by decide, by simp [slash, letter 'f', search]⟩
  split
  next => exact ⟨0, by decide, by simp [slash, letter 'r', search]⟩
  split
  next control =>
    have high := search_hexDigit (c.toNat / 16) (by omega)
    have low := search_hexDigit (c.toNat % 16) (by omega)
    exact ⟨0, by decide, by simp [slash, letter 'u', letter '0', high, low, search]⟩
  next quote _ _ _ _ _ _ _ =>
    refine ⟨if c = '{' then 1 else 0, by split <;> decide, ?_⟩
    simp [seek, quote, show found ≠ 2 by omega, search]

theorem search_escaped (chars : List Char) (found : Nat) (inside : found < 2) :
    Passes found (chars.flatMap escapeChar ++ ['"']) := by
  induction chars generalizing found with
  | nil =>
    refine ⟨if found = 1 then 2 else 0, by split <;> decide, ?_⟩
    simp [seek, search]
  | cons c rest ih =>
    obtain ⟨next, within, first⟩ := search_escapeChar c inside
    obtain ⟨last, plain, later⟩ := ih next within
    exact ⟨last, plain, by simp [search_append, first, ← later]⟩

theorem printString_passes (s : String) : Passes 0 (printString s) := by
  obtain ⟨last, plain, searched⟩ := search_escaped s.toList 0 (by decide)
  exact ⟨last, plain, by simp [printString, search_cons, seek, ← searched]⟩

theorem key_passes {key : String} (other : key.toList.head? ≠ some 'k') : Passes 1 (printString key) := by
  obtain ⟨last, plain, searched⟩ := search_escaped key.toList 0 (by decide)
  have behind : ∃ first more, key.toList.flatMap escapeChar ++ ['"'] = first :: more ∧ first ≠ 'k' := by
    cases chars : key.toList with
    | nil => exact ⟨'"', [], rfl, by decide⟩
    | cons c rest =>
      rw [List.flatMap_cons, List.append_assoc]
      exact escapeChar_head c _ (by simpa [chars] using other)
  obtain ⟨first, more, text, letter⟩ := behind
  refine ⟨last, plain, ?_⟩
  rw [text, search_cons] at searched
  rw [printString, List.cons_append, text, search_cons, show seek 1 '"' = some 2 from rfl, Option.bind_some,
    search_cons, seek_two letter, searched]

mutual

def Keyless : Json → Prop
  | arr items => KeylessItems items
  | obj fields => KeylessFields fields
  | _ => True

def KeylessItems : List Json → Prop
  | [] => True
  | item :: rest => Keyless item ∧ KeylessItems rest

def KeylessFields : List (String × Json) → Prop
  | [] => True
  | (key, value) :: rest => key.toList.head? ≠ some 'k' ∧ Keyless value ∧ KeylessFields rest

end

theorem keylessFields_insertField (field : String × Json) (fields : List (String × Json)) :
    KeylessFields (insertField field fields) ↔ KeylessFields (field :: fields) := by
  fun_induction insertField field fields with
  | case1 => rfl
  | case2 other rest before => rfl
  | case3 other rest after ih =>
    simp only [KeylessFields] at ih ⊢
    rw [ih]
    tauto

mutual

theorem keyless_sortKeys (value : Json) (keyless : value.Keyless) : value.sortKeys.Keyless := by
  match value with
  | null => trivial
  | bool _ => trivial
  | num _ => trivial
  | str _ => trivial
  | arr items => exact keylessItems_sortItems items keyless
  | obj fields => exact keylessFields_sortFields fields keyless

theorem keylessItems_sortItems (items : List Json) (keyless : KeylessItems items) :
    KeylessItems (sortItems items) := by
  match items with
  | [] => trivial
  | item :: rest => exact ⟨keyless_sortKeys item keyless.1, keylessItems_sortItems rest keyless.2⟩

theorem keylessFields_sortFields (fields : List (String × Json)) (keyless : KeylessFields fields) :
    KeylessFields (sortFields fields) := by
  match fields with
  | [] => trivial
  | (key, value) :: rest =>
    rw [sortFields, keylessFields_insertField]
    exact ⟨keyless.1, keyless_sortKeys value keyless.2.1, keylessFields_sortFields rest keyless.2.2⟩

end

theorem commaSeparated_passes {found : Nat} {texts : List (List Char)}
    (passes : ∀ text ∈ texts, Passes found text ∧ Passes 0 text) (close : Char) (letter : close ≠ 'k')
    (brace : close ≠ '{') (quote : close ≠ '"') (start : found < 2) :
    search found (commaSeparated texts ++ [close]) = some 0 := by
  induction texts generalizing found with
  | nil => simp [commaSeparated, seek, letter, brace, quote, search]
  | cons text rest ih =>
    obtain ⟨last, plain, searched⟩ := (passes text (by simp)).1
    cases rest with
    | nil =>
      rw [commaSeparated, search_append, searched, Option.bind_some, search_cons,
        seek_plain close plain letter brace]
      rfl
    | cons other more =>
      have later : search 0 (commaSeparated (other :: more) ++ [close]) = some 0 := ih
        (fun text member => ⟨(passes text (by simp [member])).2, (passes text (by simp [member])).2⟩) (by decide)
      rw [commaSeparated_cons, List.append_assoc, List.cons_append, search_append, searched, Option.bind_some,
        search_cons, seek_plain ',' plain (by decide) (by decide), Option.bind_some, later]

mutual

theorem print_passes (value : Json) (keyless : value.Keyless) : Passes 0 value.print := by
  match value with
  | null => exact ⟨0, by decide, by decide⟩
  | bool true => exact ⟨0, by decide, by decide⟩
  | bool false => exact ⟨0, by decide, by decide⟩
  | num n =>
    refine ⟨0, by decide, ?_⟩
    have digits := toDigits_isDigit n
    simp only [print]
    generalize Nat.toDigits 10 n = text at digits ⊢
    induction text with
    | nil => rfl
    | cons c rest ih =>
      have digit := digits c (by simp)
      have plain : seek 0 c = some 0 := by
        refine seek_plain c (by decide) ?_ ?_ <;> rintro rfl <;> simp at digit
      rw [search_cons, plain]
      exact ih fun c member => digits c (by simp [member])
  | str s => exact printString_passes s
  | arr items =>
    have inside := printItems_passes items keyless
    refine ⟨0, by decide, ?_⟩
    rw [print, List.cons_append, search_cons, show seek 0 '[' = some 0 from rfl, Option.bind_some]
    exact commaSeparated_passes (fun text member => ⟨inside text member, inside text member⟩) ']' (by decide)
      (by decide) (by decide) (by decide)
  | obj fields =>
    refine ⟨0, by decide, ?_⟩
    rw [print, List.cons_append, search_cons, show seek 0 '{' = some 1 from rfl, Option.bind_some]
    exact commaSeparated_passes (printFields_passes fields keyless) '}' (by decide) (by decide) (by decide)
      (by decide)

theorem printItems_passes (items : List Json) (keyless : KeylessItems items) :
    ∀ text ∈ printItems items, Passes 0 text := by
  match items with
  | [] => simp [printItems]
  | item :: rest =>
    simpa [printItems] using ⟨print_passes item keyless.1, printItems_passes rest keyless.2⟩

theorem printFields_passes (fields : List (String × Json)) (keyless : KeylessFields fields) :
    ∀ text ∈ printFields fields, Passes 1 text ∧ Passes 0 text := by
  match fields with
  | [] => simp [printFields]
  | (key, value) :: rest =>
    obtain ⟨last, plain, searched⟩ := print_passes value keyless.2.1
    have behind {found : Nat} (passes : Passes found (printString key)) :
        Passes found (printString key ++ ':' :: print value) := by
      obtain ⟨middle, apart, first⟩ := passes
      refine ⟨last, plain, ?_⟩
      rw [search_append, first, Option.bind_some, search_cons,
        seek_plain ':' apart (by decide) (by decide), Option.bind_some, searched]
    intro text member
    rcases List.mem_cons.mp member with rfl | later
    · exact ⟨behind (key_passes keyless.1), behind (printString_passes key)⟩
    · exact printFields_passes rest keyless.2.2 text later

end

theorem not_infix_of_search {text before rest : List Char} {found : Nat} {last : Nat}
    (vain : search found text = some last) : text ≠ before ++ '{' :: '"' :: 'k' :: rest := by
  rintro rfl
  rw [search_append] at vain
  cases start : search found before with
  | none => simp [start] at vain
  | some middle => simp [start, search_key] at vain

end Shared.Json
