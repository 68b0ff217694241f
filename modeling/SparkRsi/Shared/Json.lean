import SparkRsi.Shared.Bytes
import Mathlib.Data.List.Sort
import Mathlib.Data.String.Basic

set_option autoImplicit false

/-!
# JSON without floats

Compact printing with object keys in byte order, and a reader for the texts this
printer writes.
-/

namespace Shared

inductive Json where
  | null
  | bool (value : Bool)
  | num (value : Nat)
  | str (value : String)
  | arr (items : List Json)
  | obj (fields : List (String × Json))

namespace Json

def escapeChar (c : Char) : List Char :=
  if c = '"' then ['\\', '"']
  else if c = '\\' then ['\\', '\\']
  else if c.toNat = 8 then ['\\', 'b']
  else if c.toNat = 9 then ['\\', 't']
  else if c.toNat = 10 then ['\\', 'n']
  else if c.toNat = 12 then ['\\', 'f']
  else if c.toNat = 13 then ['\\', 'r']
  else if c.toNat < 32 then ['\\', 'u', '0', '0', hexDigit (c.toNat / 16), hexDigit (c.toNat % 16)]
  else [c]

def printString (s : String) : List Char := '"' :: s.toList.flatMap escapeChar ++ ['"']

def commaSeparated : List (List Char) → List Char
  | [] => []
  | [text] => text
  | text :: rest => text ++ ',' :: commaSeparated rest

mutual

def print : Json → List Char
  | null => "null".toList
  | bool true => "true".toList
  | bool false => "false".toList
  | num n => Nat.toDigits 10 n
  | str s => printString s
  | arr items => '[' :: commaSeparated (printItems items) ++ [']']
  | obj fields => '{' :: commaSeparated (printFields fields) ++ ['}']

def printItems : List Json → List (List Char)
  | [] => []
  | item :: rest => print item :: printItems rest

def printFields : List (String × Json) → List (List Char)
  | [] => []
  | (key, value) :: rest => (printString key ++ ':' :: print value) :: printFields rest

end

def insertField (field : String × Json) : List (String × Json) → List (String × Json)
  | [] => [field]
  | other :: rest => if field.1 < other.1 then field :: other :: rest else other :: insertField field rest

mutual

def sortKeys : Json → Json
  | arr items => arr (sortItems items)
  | obj fields => obj (sortFields fields)
  | other => other

def sortItems : List Json → List Json
  | [] => []
  | item :: rest => sortKeys item :: sortItems rest

def sortFields : List (String × Json) → List (String × Json)
  | [] => []
  | (key, value) :: rest => insertField (key, sortKeys value) (sortFields rest)

end

def toText (value : Json) : String := String.ofList (sortKeys value).print

/-- Inside a string: plain text, behind a backslash, or with hex digits still to come. -/
inductive Escape where
  | plain
  | slash
  | unicode (left value : Nat)

def hexValue (c : Char) : Nat := if c.toNat < 58 then c.toNat - 48 else c.toNat - 87

def unescapeChar (c : Char) : Char :=
  if c = 'b' then Char.ofNat 8
  else if c = 't' then Char.ofNat 9
  else if c = 'n' then Char.ofNat 10
  else if c = 'f' then Char.ofNat 12
  else if c = 'r' then Char.ofNat 13
  else c

def readString : Escape → List Char → Option (List Char × List Char)
  | _, [] => none
  | .plain, c :: rest =>
    if c = '"' then some ([], rest)
    else if c = '\\' then readString .slash rest
    else (readString .plain rest).map fun read => (c :: read.1, read.2)
  | .slash, c :: rest =>
    if c = 'u' then readString (.unicode 3 0) rest
    else (readString .plain rest).map fun read => (unescapeChar c :: read.1, read.2)
  | .unicode 0 value, c :: rest =>
    (readString .plain rest).map fun read => (Char.ofNat (value * 16 + hexValue c) :: read.1, read.2)
  | .unicode (left + 1) value, c :: rest => readString (.unicode left (value * 16 + hexValue c)) rest

mutual

def readValue : Nat → List Char → Option (Json × List Char)
  | 0, _ => none
  | _ + 1, [] => none
  | fuel + 1, c :: rest =>
    if c.isDigit then
      some (num (Nat.ofDigitChars 10 ((c :: rest).takeWhile Char.isDigit) 0),
        (c :: rest).dropWhile Char.isDigit)
    else if c = '"' then
      (readString .plain rest).map fun read => (str (String.ofList read.1), read.2)
    else if c = '[' then
      if rest.head? = some ']' then some (arr [], rest.tail)
      else (readItems fuel rest).map fun read => (arr read.1, read.2)
    else if c = '{' then
      if rest.head? = some '}' then some (obj [], rest.tail)
      else (readFields fuel rest).map fun read => (obj read.1, read.2)
    else if (c :: rest).take 4 = "null".toList then some (null, (c :: rest).drop 4)
    else if (c :: rest).take 4 = "true".toList then some (bool true, (c :: rest).drop 4)
    else if (c :: rest).take 5 = "false".toList then some (bool false, (c :: rest).drop 5)
    else none

def readItems : Nat → List Char → Option (List Json × List Char)
  | 0, _ => none
  | fuel + 1, text =>
    match readValue fuel text with
    | some (item, ']' :: rest) => some ([item], rest)
    | some (item, ',' :: rest) => (readItems fuel rest).map fun read => (item :: read.1, read.2)
    | _ => none

def readFields : Nat → List Char → Option (List (String × Json) × List Char)
  | 0, _ => none
  | fuel + 1, text =>
    match text with
    | '"' :: body =>
      match readString .plain body with
      | some (key, ':' :: text) =>
        match readValue fuel text with
        | some (value, '}' :: rest) => some ([(String.ofList key, value)], rest)
        | some (value, ',' :: rest) =>
          (readFields fuel rest).map fun read => ((String.ofList key, value) :: read.1, read.2)
        | _ => none
      | _ => none
    | _ => none

end

def parse (text : String) : Option Json :=
  match readValue (text.length + 1) text.toList with
  | some (value, []) => some value
  | _ => none

example : toText (obj [("zeta", num 70), ("alpha", str "a\"b\n"), ("mid", arr [num 2, null])]) =
    "\x7b\"alpha\":\"a\\\"b\\n\",\"mid\":[2,null],\"zeta\":70\x7d" := by decide +kernel

example : (parse (toText (obj [("zeta", num 70), ("alpha", str "a\"b\n\x01"), ("mid", arr [num 2, null])]))).map toText =
    some "\x7b\"alpha\":\"a\\\"b\\n\\u0001\",\"mid\":[2,null],\"zeta\":70\x7d" := by decide +kernel

theorem hexValue_hexDigit (n : Nat) (digit : n < 16) : hexValue (hexDigit n) = n := by
  interval_cases n <;> rfl

theorem readString_unicode {c : Char} (small : c.toNat < 256) (rest : List Char) :
    readString .plain ('\\' :: 'u' :: '0' :: '0' :: hexDigit (c.toNat / 16) :: hexDigit (c.toNat % 16) :: rest) =
      (readString .plain rest).map fun read => (c :: read.1, read.2) := by
  have zero : hexValue '0' = 0 := by decide
  have high := hexValue_hexDigit (c.toNat / 16) (by omega)
  have low := hexValue_hexDigit (c.toNat % 16) (by omega)
  simp [readString, zero, high, low, Nat.div_add_mod', Char.ofNat_toNat]

-- An escaped character reads back as itself.
theorem readString_escapeChar (c : Char) (rest : List Char) :
    readString .plain (escapeChar c ++ rest) =
      (readString .plain rest).map fun read => (c :: read.1, read.2) := by
  have named (n : Nat) (value : c.toNat = n) : Char.ofNat n = c := by rw [← value, Char.ofNat_toNat]
  unfold escapeChar
  split
  next quote => simp [readString, unescapeChar, quote]
  split
  next backslash => simp [readString, unescapeChar, backslash]
  split
  next value => rw [← named 8 value]; rfl
  split
  next value => rw [← named 9 value]; rfl
  split
  next value => rw [← named 10 value]; rfl
  split
  next value => rw [← named 12 value]; rfl
  split
  next value => rw [← named 13 value]; rfl
  split
  next control => exact readString_unicode (by omega) rest
  next plain => simp_all [readString]

-- A text is read back where each of its characters is.
theorem readString_flatMap {escape : Char → List Char}
    (reads : ∀ c rest, readString .plain (escape c ++ rest) =
      (readString .plain rest).map fun read => (c :: read.1, read.2)) (chars rest : List Char) :
    readString .plain (chars.flatMap escape ++ '"' :: rest) = some (chars, rest) := by
  induction chars with
  | nil => rfl
  | cons c others ih =>
    rw [List.flatMap_cons, List.append_assoc, reads, ih]
    rfl

theorem readString_escaped (chars rest : List Char) :
    readString .plain (chars.flatMap escapeChar ++ '"' :: rest) = some (chars, rest) :=
  readString_flatMap readString_escapeChar chars rest

def EndsNumber (rest : List Char) : Prop := ∀ c ∈ rest.head?, c.isDigit = false

theorem toDigits_isDigit (n : Nat) (c : Char) (member : c ∈ Nat.toDigits 10 n) : c.isDigit = true :=
  Nat.isDigit_of_mem_toDigits (by decide) (by decide) member

section Words

variable {m n : UInt64}

theorem toList_toString (n : UInt64) : (toString n).toList = Nat.toDigits 10 n.toNat := Nat.toList_repr

-- Only digits stand in a number.
theorem notMem_toString {c : Char} (other : c.isDigit = false) (n : UInt64) : c ∉ (toString n).toList := by
  intro member
  rw [toList_toString] at member
  rw [toDigits_isDigit n.toNat c member] at other
  cases other

theorem toString_injective (same : (toString m).toList = (toString n).toList) : m = n := by
  rw [toList_toString, toList_toString] at same
  have value := congrArg (fun text => Nat.ofDigitChars 10 text 0) same
  simpa only [Nat.ofDigitChars_ten_toDigits, UInt64.toNat_inj] using value

end Words

theorem readValue_num (fuel n : Nat) (rest : List Char) (ends : EndsNumber rest) :
    readValue (fuel + 1) (Nat.toDigits 10 n ++ rest) = some (num n, rest) := by
  have digits := toDigits_isDigit n
  obtain ⟨c, others, split⟩ : ∃ c others, Nat.toDigits 10 n = c :: others :=
    List.exists_cons_of_ne_nil Nat.toDigits_ne_nil
  have first : c.isDigit = true := digits c (by simp [split])
  have stop : rest.takeWhile Char.isDigit = [] ∧ rest.dropWhile Char.isDigit = rest := by
    cases rest with
    | nil => simp
    | cons d later => simp [ends d (by simp)]
  have value : Nat.ofDigitChars 10 (c :: others) 0 = n := by
    rw [← split]; exact Nat.ofDigitChars_ten_toDigits
  rw [split] at digits ⊢
  have taken : ((c :: others) ++ rest).takeWhile Char.isDigit = _ := List.takeWhile_append_of_pos digits
  have dropped : ((c :: others) ++ rest).dropWhile Char.isDigit = _ := List.dropWhile_append_of_pos digits
  rw [stop.1, List.append_nil] at taken
  rw [stop.2] at dropped
  rw [List.cons_append] at taken dropped ⊢
  rw [readValue, if_pos first, taken, dropped, value]

theorem print_head (value : Json) (rest : List Char) :
    (value.print ++ rest).head? ≠ some ']' := by
  cases value with
  | null => simp [print]
  | bool b => cases b <;> simp [print]
  | num n =>
    obtain ⟨c, others, split⟩ : ∃ c others, Nat.toDigits 10 n = c :: others :=
      List.exists_cons_of_ne_nil Nat.toDigits_ne_nil
    have digit := toDigits_isDigit n c (by simp [split])
    simp only [print, split, List.cons_append, List.head?_cons]
    intro same
    cases same
    simp at digit
  | str s => simp [print, printString]
  | arr items => simp [print]
  | obj fields => simp [print]

theorem readValue_arr (fuel : Nat) (rest : List Char) (filled : rest.head? ≠ some ']') :
    readValue (fuel + 1) ('[' :: rest) = (readItems fuel rest).map fun read => (arr read.1, read.2) := by
  simp [readValue, filled]

theorem readValue_obj (fuel : Nat) (rest : List Char) (filled : rest.head? ≠ some '}') :
    readValue (fuel + 1) ('{' :: rest) = (readFields fuel rest).map fun read => (obj read.1, read.2) := by
  simp [readValue, filled]

theorem commaSeparated_cons (text next : List Char) (others : List (List Char)) :
    commaSeparated (text :: next :: others) = text ++ ',' :: commaSeparated (next :: others) := rfl

mutual

theorem readValue_print (value : Json) (fuel : Nat) (rest : List Char) (ends : EndsNumber rest)
    (enough : value.print.length < fuel) :
    readValue fuel (value.print ++ rest) = some (value, rest) := by
  obtain ⟨fuel, rfl⟩ : ∃ smaller, fuel = smaller + 1 := ⟨fuel - 1, by omega⟩
  match value with
  | null => simp [print, readValue]
  | bool true => simp [print, readValue]
  | bool false => simp [print, readValue]
  | num n => exact readValue_num fuel n rest ends
  | str s => simp [print, printString, readValue, readString_escaped]
  | arr [] => simp [print, printItems, commaSeparated, readValue]
  | arr (item :: others) =>
    have inside := readItems_print (item :: others) fuel rest (by simp)
      (by simp only [print, List.length_cons, List.length_append] at enough; simp at enough ⊢; omega)
    have filled : (commaSeparated (printItems (item :: others)) ++ ']' :: rest).head? ≠ some ']' := by
      cases others with
      | nil => exact print_head item _
      | cons other more =>
        simp only [printItems, commaSeparated_cons, List.append_assoc]
        exact print_head item _
    rw [print, List.cons_append, List.cons_append, List.append_assoc, List.cons_append, List.nil_append,
      readValue_arr fuel _ filled, inside]
    rfl
  | obj [] => simp [print, printFields, commaSeparated, readValue]
  | obj ((key, value) :: others) =>
    have inside := readFields_print ((key, value) :: others) fuel rest (by simp)
      (by simp only [print, List.length_cons, List.length_append] at enough; simp at enough ⊢; omega)
    have filled : (commaSeparated (printFields ((key, value) :: others)) ++ '}' :: rest).head? ≠
        some '}' := by
      cases others with
      | nil => simp [printFields, commaSeparated, printString]
      | cons other more => simp [printFields, commaSeparated_cons, printString]
    rw [print, List.cons_append, List.cons_append, List.append_assoc, List.cons_append, List.nil_append,
      readValue_obj fuel _ filled, inside]
    rfl

theorem readItems_print (items : List Json) (fuel : Nat) (rest : List Char) (nonempty : items ≠ [])
    (enough : (commaSeparated (printItems items)).length + 1 < fuel) :
    readItems fuel (commaSeparated (printItems items) ++ ']' :: rest) = some (items, rest) := by
  obtain ⟨fuel, rfl⟩ : ∃ smaller, fuel = smaller + 1 := ⟨fuel - 1, by omega⟩
  match items with
  | [] => exact absurd rfl nonempty
  | [item] =>
    have first := readValue_print item fuel (']' :: rest) (by simp [EndsNumber])
      (by simp [printItems, commaSeparated] at enough; omega)
    simp [printItems, commaSeparated, readItems, first]
  | item :: other :: more =>
    have later := readItems_print (other :: more) fuel rest (by simp)
      (by simp [printItems, commaSeparated_cons] at enough ⊢; omega)
    have first := readValue_print item fuel
      (',' :: (commaSeparated (printItems (other :: more)) ++ ']' :: rest)) (by simp [EndsNumber])
      (by simp [printItems, commaSeparated_cons] at enough; omega)
    simp only [printItems] at first later ⊢
    simp [commaSeparated_cons, readItems, first, later]

theorem readFields_print (fields : List (String × Json)) (fuel : Nat) (rest : List Char)
    (nonempty : fields ≠ []) (enough : (commaSeparated (printFields fields)).length + 1 < fuel) :
    readFields fuel (commaSeparated (printFields fields) ++ '}' :: rest) = some (fields, rest) := by
  obtain ⟨fuel, rfl⟩ : ∃ smaller, fuel = smaller + 1 := ⟨fuel - 1, by omega⟩
  match fields with
  | [] => exact absurd rfl nonempty
  | [(key, value)] =>
    have first := readValue_print value fuel ('}' :: rest) (by simp [EndsNumber])
      (by simp [printFields, commaSeparated] at enough; omega)
    simp [printFields, commaSeparated, printString, readFields, readString_escaped, first]
  | (key, value) :: (otherKey, other) :: more =>
    have later := readFields_print ((otherKey, other) :: more) fuel rest (by simp)
      (by simp [printFields, commaSeparated_cons] at enough ⊢; omega)
    have first := readValue_print value fuel
      (',' :: (commaSeparated (printFields ((otherKey, other) :: more)) ++ '}' :: rest))
      (by simp [EndsNumber])
      (by simp [printFields, commaSeparated_cons] at enough; omega)
    simp only [printFields] at first later ⊢
    simp [commaSeparated_cons, printString, readFields, readString_escaped] at first later ⊢
    simp [first, later]

end

-- A printed value reads back with its keys in order.
theorem parse_print (value : Json) : parse (String.ofList value.print) = some value := by
  have read := readValue_print value (value.print.length + 1) [] (by simp [EndsNumber]) (Nat.le_refl _)
  rw [List.append_nil] at read
  simp [parse, read]

theorem parse_toText (value : Json) : parse value.toText = some value.sortKeys := parse_print value.sortKeys

theorem escapeChar_no_newline (c : Char) : '\n' ∉ escapeChar c := by
  have digits (n : Nat) (digit : n < 16) : '\n' ≠ hexDigit n := by
    interval_cases n <;> decide
  by_cases control : c.toNat < 32
  · have high := digits (c.toNat / 16) (by omega)
    have low := digits (c.toNat % 16) (by omega)
    unfold escapeChar
    split_ifs <;> simp [high, low]
  · have printable : '\n' ≠ c := by
      rintro rfl
      exact control (by decide)
    unfold escapeChar
    split_ifs <;> simp [printable]

theorem printString_no_newline (s : String) : '\n' ∉ printString s := by
  simp [printString, escapeChar_no_newline]

theorem commaSeparated_no_newline (texts : List (List Char)) (inside : ∀ text ∈ texts, '\n' ∉ text) :
    '\n' ∉ commaSeparated texts := by
  fun_induction commaSeparated texts <;> simp_all

mutual

theorem print_no_newline (value : Json) : '\n' ∉ value.print := by
  match value with
  | null => decide
  | bool true => decide
  | bool false => decide
  | num n =>
    intro member
    have digit := toDigits_isDigit n _ member
    simp at digit
  | str s => exact printString_no_newline s
  | arr items => simp [print, commaSeparated_no_newline _ (printItems_no_newline items)]
  | obj fields => simp [print, commaSeparated_no_newline _ (printFields_no_newline fields)]

theorem printItems_no_newline (items : List Json) : ∀ text ∈ printItems items, '\n' ∉ text := by
  match items with
  | [] => simp [printItems]
  | item :: rest => simpa [printItems, print_no_newline item] using printItems_no_newline rest

theorem printFields_no_newline (fields : List (String × Json)) :
    ∀ text ∈ printFields fields, '\n' ∉ text := by
  match fields with
  | [] => simp [printFields]
  | (key, value) :: rest =>
    simpa [printFields, printString_no_newline, print_no_newline value] using
      printFields_no_newline rest

end

-- A printed value fits on one line.
theorem toText_no_newline (value : Json) : 10 ∉ utf8 value.toText := by
  intro member
  have newline := low_utf8 _ _ member (by decide)
  rw [toText, String.toList_ofList] at newline
  exact print_no_newline _ newline

def field (key : String) : Json → Option Json
  | obj fields => fields.lookup key
  | _ => none

theorem lookup_entry (key : String) (entry : String × Json) (rest : List (String × Json)) :
    (entry :: rest).lookup key = if key == entry.1 then some entry.2 else rest.lookup key := by
  cases entry
  rw [List.lookup_cons]
  split <;> simp_all

theorem lookup_insertField (key : String) (entry : String × Json) (fields : List (String × Json))
    (fresh : entry.1 ∉ fields.map Prod.fst) :
    (insertField entry fields).lookup key = (entry :: fields).lookup key := by
  fun_induction insertField entry fields with
  | case1 => rfl
  | case2 other rest before => rfl
  | case3 other rest after ih =>
    simp only [List.map_cons, List.mem_cons, not_or] at fresh
    have tail := ih fresh.2
    simp only [lookup_entry] at tail ⊢
    by_cases here : key = other.1
    · have apart : (other.1 == entry.1) = false := by simp [Ne.symm fresh.1]
      simp [here, apart]
    · have apart : (key == other.1) = false := by simp [here]
      simp [apart, tail]

theorem keys_insertField (entry : String × Json) (fields : List (String × Json)) (key : String) :
    key ∈ (insertField entry fields).map Prod.fst ↔ key = entry.1 ∨ key ∈ fields.map Prod.fst := by
  fun_induction insertField entry fields with
  | case1 => simp
  | case2 other rest before => simp
  | case3 other rest after ih =>
    simp only [List.map_cons, List.mem_cons] at ih ⊢
    rw [ih]; tauto

theorem keys_sortFields (fields : List (String × Json)) (key : String) :
    key ∈ (sortFields fields).map Prod.fst ↔ key ∈ fields.map Prod.fst := by
  induction fields with
  | nil => simp [sortFields]
  | cons entry rest ih =>
    rw [sortFields, keys_insertField, ih, List.map_cons, List.mem_cons]

-- Sorting the keys does not change what stands under them.
theorem field_sortKeys (key : String) (fields : List (String × Json))
    (nodup : (fields.map Prod.fst).Nodup) :
    (sortKeys (obj fields)).field key = ((obj fields).field key).map sortKeys := by
  simp only [sortKeys, field]
  induction fields with
  | nil => rfl
  | cons entry rest ih =>
    obtain ⟨fresh, rest_nodup⟩ := List.nodup_cons.mp nodup
    rw [sortFields, lookup_insertField key _ _ (by rwa [keys_sortFields])]
    simp only [lookup_entry]
    by_cases here : key = entry.1
    · simp [here]
    · have apart : (key == entry.1) = false := by simp [here]
      simpa [apart] using ih rest_nodup

end Json

end Shared
