import SparkRsi.Shared.Json
import SparkRsi.Shared.TextLines

set_option autoImplicit false

/-!
# Beginnings of JSON texts

What the reader took from a text it takes again where more follows, so that no proper
beginning of a printed object or string is JSON.
-/

namespace Shared.Json

section More

variable {more : List Char}

theorem readString_more {mode : Escape} {text read rest : List Char}
    (done : readString mode text = some (read, rest)) : readString mode (text ++ more) = some (read, rest ++ more) := by
  fun_induction readString mode text generalizing read rest with
  | case1 mode => cases done
  | case2 rest' =>
    cases done
    simp [readString]
  | case3 rest' other ih => simpa [readString] using ih done
  | case4 c rest' quote slash ih =>
    obtain ⟨⟨chars, tail⟩, inner, same⟩ := Option.map_eq_some_iff.mp done
    cases same
    simp [readString, quote, slash, ih inner]
  | case5 rest' ih => simpa [readString] using ih done
  | case6 c rest' other ih =>
    obtain ⟨⟨chars, tail⟩, inner, same⟩ := Option.map_eq_some_iff.mp done
    cases same
    simp [readString, other, ih inner]
  | case7 value c rest' ih =>
    obtain ⟨⟨chars, tail⟩, inner, same⟩ := Option.map_eq_some_iff.mp done
    cases same
    simp [readString, ih inner]
  | case8 left value c rest' ih => simpa [readString] using ih done

/-- A number at the end of a text may go on in what follows. -/
def Closed (value : Json) (rest : List Char) : Prop := rest = [] → ∀ n, value ≠ num n

variable (more) in
def ValuesMore (fuel : Nat) : Prop :=
  ∀ {text value rest} (extra : Nat), readValue fuel text = some (value, rest) → Closed value rest →
    readValue (fuel + extra) (text ++ more) = some (value, rest ++ more)

variable (more) in
def ItemsMore (fuel : Nat) : Prop :=
  ∀ {text items rest} (extra : Nat), readItems fuel text = some (items, rest) →
    readItems (fuel + extra) (text ++ more) = some (items, rest ++ more)

variable (more) in
def FieldsMore (fuel : Nat) : Prop :=
  ∀ {text fields rest} (extra : Nat), readFields fuel text = some (fields, rest) →
    readFields (fuel + extra) (text ++ more) = some (fields, rest ++ more)

theorem closed_cons (value : Json) (c : Char) (rest : List Char) : Closed value (c :: rest) :=
  fun empty => absurd empty (List.cons_ne_nil c rest)

theorem digits_more {text : List Char} (left : text.dropWhile Char.isDigit ≠ []) :
    (text ++ more).takeWhile Char.isDigit = text.takeWhile Char.isDigit ∧
      (text ++ more).dropWhile Char.isDigit = text.dropWhile Char.isDigit ++ more := by
  have short : (text.takeWhile Char.isDigit).length ≠ text.length := by
    intro all
    have parts := congrArg List.length (List.takeWhile_append_dropWhile (p := Char.isDigit) (l := text))
    rw [List.length_append, all] at parts
    exact left (List.length_eq_zero_iff.mp (by omega))
  rw [List.takeWhile_append, List.dropWhile_append, if_neg short, if_neg (by simpa using left)]
  exact ⟨rfl, rfl⟩

theorem readItems_nil (fuel : Nat) : readItems fuel [] = none := by
  match fuel with
  | 0 => rfl
  | 1 => rfl
  | fuel + 2 => rfl

theorem readFields_nil (fuel : Nat) : readFields fuel [] = none := by
  cases fuel with
  | zero => rfl
  | succ fuel => rfl

theorem take_more {word text : List Char} {n : Nat} (found : text.take n = word) (length : word.length = n) :
    (text ++ more).take n = word ∧ (text ++ more).drop n = text.drop n ++ more := by
  have long : n ≤ text.length := by
    rw [← length, ← found]
    exact (List.take_prefix n text).length_le
  rw [List.take_append_of_le_length long, List.drop_append_of_le_length long]
  exact ⟨found, rfl⟩

-- An array or an object behind its opening sign.
theorem readGroup_more {α : Type} {close : Char} {empty : Json} {wrap : α → Json}
    {reader larger : List Char → Option (α × List Char)} (nothing : reader [] = none)
    (again : ∀ {text inside rest}, reader text = some (inside, rest) → larger (text ++ more) = some (inside, rest ++ more))
    {text : List Char} {value : Json} {rest : List Char}
    (done : (if text.head? = some close then some (empty, text.tail)
      else (reader text).map fun read => (wrap read.1, read.2)) = some (value, rest)) :
    (if (text ++ more).head? = some close then some (empty, (text ++ more).tail)
      else (larger (text ++ more)).map fun read => (wrap read.1, read.2)) = some (value, rest ++ more) := by
  split at done
  next ended =>
    obtain ⟨tail, rfl⟩ := List.head?_eq_some_iff.mp ended
    cases done
    rw [List.cons_append, List.head?_cons, if_pos rfl]
    rfl
  next filled =>
    obtain ⟨⟨inside, tail⟩, inner, same⟩ := Option.map_eq_some_iff.mp done
    cases same
    have some_ : text ≠ [] := by
      rintro rfl
      rw [nothing] at inner
      cases inner
    rw [List.head?_append_of_ne_nil _ some_, if_neg filled, again inner]
    rfl

/-- What is left of the reader where a text starts with none of the signs. -/
theorem readWord_more {text : List Char} {value : Json} {rest : List Char}
    (done : (if text.take 4 = "null".toList then some (null, text.drop 4)
      else if text.take 4 = "true".toList then some (bool true, text.drop 4)
      else if text.take 5 = "false".toList then some (bool false, text.drop 5) else none) = some (value, rest)) :
    (if (text ++ more).take 4 = "null".toList then some (null, (text ++ more).drop 4)
      else if (text ++ more).take 4 = "true".toList then some (bool true, (text ++ more).drop 4)
      else if (text ++ more).take 5 = "false".toList then some (bool false, (text ++ more).drop 5) else none) =
        some (value, rest ++ more) := by
  split at done
  next word =>
    obtain ⟨taken, dropped⟩ := @take_more more _ _ _ word rfl
    cases done
    rw [if_pos taken, dropped]
  next =>
    split at done
    next word =>
      obtain ⟨taken, dropped⟩ := @take_more more _ _ _ word rfl
      cases done
      rw [taken, if_neg (by decide), if_pos rfl, dropped]
    next =>
      split at done
      next word =>
        obtain ⟨taken, dropped⟩ := @take_more more _ _ _ word rfl
        cases done
        have four : (text ++ more).take 4 = "fals".toList := by
          have inside := congrArg (List.take 4) taken
          rwa [List.take_take] at inside
        rw [four, if_neg (by decide), if_neg (by decide), if_pos taken, dropped]
      next => cases done

theorem readValue_more {fuel : Nat} (items : ItemsMore more fuel) (fields : FieldsMore more fuel) :
    ValuesMore more (fuel + 1) := by
  intro text value rest extra done closed
  cases text with
  | nil => cases done
  | cons c others =>
    rw [Nat.add_right_comm, List.cons_append]
    rw [readValue] at done ⊢
    split at done
    next digit =>
      rw [if_pos digit]
      cases done
      obtain ⟨taken, dropped⟩ := @digits_more more (c :: others) fun empty => closed empty _ rfl
      rw [← List.cons_append, taken, dropped]
    next digit =>
      rw [if_neg digit]
      split at done
      next quote =>
        rw [if_pos quote]
        obtain ⟨⟨chars, tail⟩, inner, same⟩ := Option.map_eq_some_iff.mp done
        cases same
        rw [readString_more inner]
        rfl
      next quote =>
        rw [if_neg quote]
        split at done
        next bracket =>
          rw [if_pos bracket]
          exact readGroup_more (readItems_nil fuel) (items extra) done
        next bracket =>
          rw [if_neg bracket]
          split at done
          next brace =>
            rw [if_pos brace]
            exact readGroup_more (readFields_nil fuel) (fields extra) done
          next brace =>
            rw [if_neg brace]
            exact readWord_more done

theorem reads_more (fuel : Nat) : ValuesMore more fuel ∧ ItemsMore more fuel ∧ FieldsMore more fuel := by
  induction fuel with
  | zero =>
    refine ⟨?_, ?_, ?_⟩
    all_goals
      intro text read rest extra done
      cases done
  | succ fuel ih =>
    obtain ⟨values, items, fields⟩ := ih
    refine ⟨readValue_more items fields, ?_, ?_⟩
    next =>
      intro text read rest extra done
      rw [Nat.add_right_comm]
      rw [readItems] at done ⊢
      split at done
      next item rest value =>
        cases done
        rw [values extra value (closed_cons _ _ _)]
        rfl
      next item rest value =>
        obtain ⟨⟨inside, tail⟩, inner, same⟩ := Option.map_eq_some_iff.mp done
        cases same
        rw [values extra value (closed_cons _ _ _), List.cons_append]
        simp [items extra inner]
      next => cases done
    next =>
      intro text read rest extra done
      rw [Nat.add_right_comm]
      cases text with
      | nil =>
        rw [readFields_nil] at done
        cases done
      | cons c body =>
        by_cases quote : c = '"'
        next =>
          subst quote
          rw [List.cons_append]
          rw [readFields] at done ⊢
          split at done
          next key text named =>
            rw [readString_more named, List.cons_append]
            split at done
            next value rest read =>
              cases done
              simp [values extra read (closed_cons _ _ _)]
            next value rest read =>
              obtain ⟨⟨inside, tail⟩, inner, same⟩ := Option.map_eq_some_iff.mp done
              cases same
              simp [values extra read (closed_cons _ _ _), fields extra inner]
            next => cases done
          next => cases done
        next => simp [readFields, quote] at done

end More

section Boxed

/-- An object or a string, which nothing can follow. -/
def Boxed : Json → Prop
  | str _ => True
  | obj _ => True
  | _ => False

variable {value : Json}

theorem Boxed.print_eq (boxed : Boxed value) :
    (∃ inside, value.print = '"' :: inside ++ ['"']) ∨ ∃ inside, value.print = '{' :: inside ++ ['}'] := by
  cases value with
  | str text => exact .inl ⟨_, rfl⟩
  | obj fields => exact .inr ⟨_, by rw [print]⟩
  | _ => exact boxed.elim

theorem readValue_boxed {fuel : Nat} {c : Char} {text rest : List Char} {n : Nat} (sign : c = '"' ∨ c = '{') :
    readValue fuel (c :: text) ≠ some (num n, rest) := by
  cases fuel with
  | zero => exact fun done => absurd done (by simp [readValue])
  | succ fuel =>
    obtain rfl | rfl := sign
    next => simp [readValue]
    next =>
      rw [readValue]
      simp
      split_ifs <;> simp

/-- No proper beginning of a printed object or string is JSON. -/
theorem parse_beginning (boxed : Boxed value) {text : String} (part : text.toList <+: value.print)
    (short : text.toList ≠ value.print) : parse text = none := by
  unfold parse
  split
  next found read =>
    exfalso
    obtain ⟨more, whole⟩ := part
    have closed : Closed found [] := by
      rintro - n rfl
      cases letters : text.toList with
      | nil =>
        rw [letters] at read
        cases read
      | cons c others =>
        rw [letters] at read whole
        refine readValue_boxed ?_ read
        obtain ⟨inside, printed⟩ | ⟨inside, printed⟩ := boxed.print_eq
        next => exact .inl (List.cons.inj (whole.trans printed)).1
        next => exact .inr (List.cons.inj (whole.trans printed)).1
    have again := (@reads_more more (text.length + 1)).1 (value.print.length + 1) read closed
    have full := readValue_print value (text.length + 1 + (value.print.length + 1)) [] (by simp [EndsNumber]) (by omega)
    rw [List.append_nil, ← whole] at full
    rw [whole] at again full
    cases again.symm.trans full
    exact short (by rw [← whole, List.append_nil])
  next => rfl

theorem trim_print (boxed : Boxed value) : TextLines.trim value.print = value.print := by
  obtain ⟨inside, printed⟩ | ⟨inside, printed⟩ := boxed.print_eq
  next => rw [printed, TextLines.trim_ends (by decide) (by decide)]
  next => rw [printed, TextLines.trim_ends (by decide) (by decide)]

end Boxed

end Shared.Json
