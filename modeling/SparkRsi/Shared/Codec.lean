import SparkRsi.Shared.Bytes
import Mathlib.Logic.Equiv.Basic

set_option autoImplicit false

namespace Shared

/-- Values printed so that a reader sees where the text of one ends. -/
structure Codec (τ α : Type) where
  encode : α → List τ
  decode : List τ → Option (α × List τ)
  decode_iff : ∀ tokens a rest, decode tokens = some (a, rest) ↔ tokens = encode a ++ rest

structure Vec (α : Type) where
  items : List α
  fits : items.length < 2 ^ 64
  deriving DecidableEq

structure Text where
  value : String
  fits : (utf8 value).length < 2 ^ 64
  deriving DecidableEq

namespace Codec

variable {τ α β : Type}

theorem encode_append_inj (c : Codec τ α) {a b : α} {rest other : List τ}
    (same : c.encode a ++ rest = c.encode b ++ other) : a = b ∧ rest = other := by
  have first := (c.decode_iff (c.encode a ++ rest) a rest).mpr rfl
  have second := (c.decode_iff (c.encode a ++ rest) b other).mpr same
  exact Prod.mk.inj (Option.some.inj (first.symm.trans second))

theorem encode_injective (c : Codec τ α) : Function.Injective c.encode := by
  intro a b same
  apply (c.encode_append_inj _).1
  · exact []
  · exact []
  · rw [same]

/-- The tokens are the text of a value, to the last one. -/
def spells (c : Codec τ α) (tokens : List τ) : Bool :=
  match c.decode tokens with
  | some (_, []) => true
  | _ => false

theorem spells_iff (c : Codec τ α) (tokens : List τ) : c.spells tokens = true ↔ ∃ a, tokens = c.encode a := by
  constructor
  · intro spelled
    unfold spells at spelled
    split at spelled
    · rename_i a read
      exact ⟨a, by rw [(c.decode_iff _ _ _).mp read, List.append_nil]⟩
    · cases spelled
  · rintro ⟨a, rfl⟩
    have read := (c.decode_iff (c.encode a) a []).mpr (List.append_nil _).symm
    simp only [spells, read]

def mark [DecidableEq τ] (tokens : List τ) : Codec τ Unit where
  encode _ := tokens
  decode text := if tokens.isPrefixOf text then some ((), text.drop tokens.length) else none
  decode_iff := by
    intro text _ rest
    rw [Option.ite_none_right_eq_some, List.isPrefixOf_iff_prefix, Option.some.injEq, Prod.mk.injEq]
    constructor
    · rintro ⟨starts, -, rfl⟩
      exact (List.prefix_iff_eq_append.mp starts).symm
    · rintro rfl
      exact ⟨List.prefix_append _ _, rfl, List.drop_left⟩

def pair (first : Codec τ α) (second : Codec τ β) : Codec τ (α × β) where
  encode p := first.encode p.1 ++ second.encode p.2
  decode tokens := do
    let (a, behind) ← first.decode tokens
    let (b, rest) ← second.decode behind
    return ((a, b), rest)
  decode_iff := by
    rintro tokens ⟨a, b⟩ rest
    simp only [Option.bind_eq_bind, Option.bind_eq_some_iff, Option.pure_def, Option.some.injEq,
      Prod.mk.injEq, Prod.exists, first.decode_iff, second.decode_iff, List.append_assoc]
    constructor
    · rintro ⟨_, behind, rfl, _, _, rfl, ⟨rfl, rfl⟩, rfl⟩
      rfl
    · rintro rfl
      exact ⟨a, second.encode b ++ rest, rfl, b, rest, rfl, ⟨rfl, rfl⟩, rfl⟩

/-- Another kind of value, printed as one of these; `parse` takes it back and refuses the others. -/
def via (c : Codec τ α) (print : β → α) (parse : α → Option β)
    (exact_parse : ∀ a b, parse a = some b ↔ a = print b) :
    Codec τ β where
  encode b := c.encode (print b)
  decode tokens := do
    let (a, rest) ← c.decode tokens
    let b ← parse a
    return (b, rest)
  decode_iff := by
    intro tokens b rest
    simp only [Option.bind_eq_bind, Option.bind_eq_some_iff, Option.pure_def, Option.some.injEq,
      Prod.mk.injEq, Prod.exists, c.decode_iff, exact_parse]
    constructor
    · rintro ⟨_, _, rfl, _, rfl, rfl, rfl⟩
      rfl
    · rintro rfl
      exact ⟨_, _, rfl, _, rfl, rfl, rfl⟩

def transport (c : Codec τ α) (e : α ≃ β) : Codec τ β :=
  c.via e.symm (fun a => some (e a)) (fun a b => by rw [Option.some.injEq, Equiv.eq_symm_apply])

def token : Codec τ τ where
  encode t := [t]
  decode
    | [] => none
    | t :: rest => some (t, rest)
  decode_iff := by
    intro tokens t rest
    cases tokens <;> simp

def decodeItems (c : Codec τ α) : Nat → List τ → Option (List α × List τ)
  | 0, tokens => some ([], tokens)
  | n + 1, tokens => do
    let (a, behind) ← c.decode tokens
    let (others, rest) ← decodeItems c n behind
    return (a :: others, rest)

theorem decodeItems_iff (c : Codec τ α) (n : Nat) (tokens : List τ) (items : List α) (rest : List τ) :
    c.decodeItems n tokens = some (items, rest) ↔ items.length = n ∧
      tokens = items.flatMap c.encode ++ rest := by
  induction n generalizing tokens items with
  | zero =>
    rw [decodeItems, Option.some.injEq, Prod.mk.injEq]
    constructor
    · rintro ⟨rfl, rfl⟩
      exact ⟨rfl, rfl⟩
    · rintro ⟨empty, rfl⟩
      obtain rfl := List.length_eq_zero_iff.mp empty
      exact ⟨rfl, rfl⟩
  | succ n ih =>
    simp only [decodeItems, Option.bind_eq_bind, Option.bind_eq_some_iff]
    constructor
    · rintro ⟨⟨a, behind⟩, first, ⟨others, _⟩, more, ⟨⟩⟩
      obtain ⟨rfl, rfl⟩ := (ih _ _).mp more
      rw [(c.decode_iff _ _ _).mp first]
      exact ⟨rfl, by simp⟩
    · rintro ⟨length, rfl⟩
      cases items with
      | nil => cases length
      | cons a others =>
        have first := (c.decode_iff ((a :: others).flatMap c.encode ++ rest) a
          (others.flatMap c.encode ++ rest)).mpr (by simp)
        exact ⟨_, first, _, (ih _ _).mpr ⟨Nat.succ.inj length, rfl⟩, rfl⟩

def counted (count : Codec τ UInt64) (item : Codec τ α) : Codec τ (Vec α) where
  encode v := count.encode (UInt64.ofNat v.items.length) ++ v.items.flatMap item.encode
  decode tokens := do
    let (n, behind) ← count.decode tokens
    let (items, rest) ← item.decodeItems n.toNat behind
    if fits : items.length < 2 ^ 64 then some (⟨items, fits⟩, rest) else none
  decode_iff := by
    rintro tokens ⟨items, fits⟩ rest
    have small : (UInt64.ofNat items.length).toNat = items.length := UInt64.toNat_ofNat_of_lt' fits
    simp only [Option.bind_eq_bind, Option.bind_eq_some_iff, Option.dite_none_right_eq_some,
      Option.some.injEq, Prod.mk.injEq, Prod.exists, count.decode_iff, decodeItems_iff, Vec.mk.injEq,
      List.append_assoc]
    constructor
    · rintro ⟨n, behind, rfl, _, _, ⟨length, rfl⟩, -, rfl, rfl⟩
      rw [length, UInt64.ofNat_toNat]
    · rintro rfl
      exact ⟨_, _, rfl, items, rest, ⟨small.symm, rfl⟩, fits, rfl, rfl⟩

def optional (flag : Codec τ Bool) (c : Codec τ α) : Codec τ (Option α) where
  encode
    | none => flag.encode false
    | some a => flag.encode true ++ c.encode a
  decode tokens := do
    let (present, behind) ← flag.decode tokens
    if present then
      let (a, rest) ← c.decode behind
      return (some a, rest)
    else return (none, behind)
  decode_iff := by
    intro tokens value rest
    simp only [Option.bind_eq_bind, Option.bind_eq_some_iff, Prod.exists, flag.decode_iff, Option.pure_def]
    constructor
    · rintro ⟨present, behind, rfl, read⟩
      cases present with
      | false =>
        obtain ⟨rfl, rfl⟩ := Prod.mk.inj (Option.some.inj read)
        rfl
      | true =>
        simp only [if_true, Option.bind_eq_some_iff, Option.some.injEq, Prod.mk.injEq, Prod.exists,
          c.decode_iff] at read
        obtain ⟨a, _, rfl, rfl, rfl⟩ := read
        simp
    · rintro rfl
      cases value with
      | none => exact ⟨false, rest, rfl, rfl⟩
      | some a =>
        refine ⟨true, c.encode a ++ rest, by simp, ?_⟩
        simp only [if_true, Option.bind_eq_some_iff, Option.some.injEq, Prod.mk.injEq, Prod.exists,
          c.decode_iff]
        exact ⟨a, rest, rfl, rfl, rfl⟩

def natOfLe : Bytes → Nat
  | [] => 0
  | b :: rest => b.toNat + 256 * natOfLe rest

theorem leBytes_natOfLe (bytes : Bytes) : leBytes bytes.length (natOfLe bytes) = bytes := by
  induction bytes with
  | nil => rfl
  | cons b rest ih =>
    have byte : b.toNat < 256 := b.toNat_lt
    have low : UInt8.ofNat (b.toNat + 256 * natOfLe rest) = b := by
      apply UInt8.toNat_inj.mp
      simp
    have high : (b.toNat + 256 * natOfLe rest) / 256 = natOfLe rest := by omega
    rw [List.length_cons, natOfLe, leBytes, low, high, ih]

theorem natOfLe_lt (bytes : Bytes) : natOfLe bytes < 256 ^ bytes.length := by
  induction bytes with
  | nil => simp [natOfLe]
  | cons b rest ih =>
    have byte : b.toNat < 256 := b.toNat_lt
    rw [natOfLe, List.length_cons, pow_succ']
    omega

def word : Codec UInt8 UInt64 where
  encode := u64Le
  decode bytes := if 8 ≤ bytes.length then some (UInt64.ofNat (natOfLe (bytes.take 8)), bytes.drop 8) else none
  decode_iff := by
    intro bytes word rest
    rw [Option.ite_none_right_eq_some, Option.some.injEq, Prod.mk.injEq]
    constructor
    · rintro ⟨long, rfl, rfl⟩
      have eight : (bytes.take 8).length = 8 := List.length_take_of_le long
      have small := natOfLe_lt (bytes.take 8)
      have digits := leBytes_natOfLe (bytes.take 8)
      rw [eight] at small digits
      rw [u64Le, UInt64.toNat_ofNat_of_lt' small, digits, List.take_append_drop]
    · rintro rfl
      have front : (u64Le word ++ rest).take 8 = u64Le word := List.take_left' (u64Le_length word)
      refine ⟨by simp, ?_, List.drop_left' (u64Le_length word)⟩
      have digits := leBytes_natOfLe (u64Le word)
      rw [u64Le_length] at digits
      have same := leBytes_mod 8 (natOfLe (u64Le word)) word.toNat digits
      have small := natOfLe_lt (u64Le word)
      rw [u64Le_length] at small
      rw [Nat.mod_eq_of_lt small, Nat.mod_eq_of_lt (show word.toNat < 256 ^ 8 from word.toNat_lt)] at same
      rw [front, same, UInt64.ofNat_toNat]

def field : Codec UInt8 (Vec UInt8) := counted word token

@[simp] theorem encode_field (bytes : Vec UInt8) : field.encode bytes = putField bytes.items := by
  simp [field, counted, word, token, putField]

def framed (c : Codec UInt8 α) (fits : ∀ a, (c.encode a).length < 2 ^ 64) : Codec UInt8 α :=
  field.via (fun a => ⟨c.encode a, fits a⟩)
    (fun bytes => match c.decode bytes.items with
      | some (a, []) => some a
      | _ => none)
    (by
      rintro ⟨bytes, small⟩ a
      rw [Vec.mk.injEq]
      constructor
      · intro parsed
        split at parsed
        · rename_i b read
          rw [← Option.some.inj parsed]
          exact ((c.decode_iff _ _ _).mp read).trans (List.append_nil _)
        · cases parsed
      · intro printed
        have read := (c.decode_iff bytes a []).mpr (by rw [printed, List.append_nil])
        simp only [read])

theorem encode_framed (c : Codec UInt8 α) (fits : ∀ a, (c.encode a).length < 2 ^ 64) (a : α) :
    (c.framed fits).encode a = putField (c.encode a) := encode_field _

def text : Codec UInt8 Text :=
  field.via (fun text => ⟨utf8 text.value, text.fits⟩)
    (fun bytes => match read : fromUtf8 bytes.items with
      | some value => some ⟨value, fromUtf8_eq_some.mp read ▸ bytes.fits⟩
      | none => none)
    (by
      rintro ⟨bytes, small⟩ ⟨value, fits⟩
      rw [Vec.mk.injEq]
      constructor
      · intro parsed
        split at parsed
        · rename_i other read
          obtain ⟨rfl⟩ := Text.mk.inj (Option.some.inj parsed)
          exact fromUtf8_eq_some.mp read
        · cases parsed
      · rintro rfl
        split
        · rename_i other read
          rw [fromUtf8_utf8] at read
          cases read
          rfl
        · rename_i none_read
          rw [fromUtf8_utf8] at none_read
          cases none_read)

@[simp] theorem encode_text (value : Text) : text.encode value = putField (utf8 value.value) := encode_field _

def number : Codec UInt8 UInt64 := word.framed fun w => by simp [word]

@[simp] theorem encode_number (w : UInt64) : number.encode w = putField (u64Le w) := encode_framed _ _ _

def flagByte (b : Bool) : UInt8 := if b then 1 else 0

def flag : Codec UInt8 Bool :=
  (token.via flagByte (fun byte => if byte = 0 then some false else if byte = 1 then some true else none) (by
    intro byte b
    by_cases zero : byte = 0
    · cases b <;> simp [zero, flagByte]
    · by_cases one : byte = 1 <;> cases b <;> simp [zero, one, flagByte])).framed (by
      intro b
      simp [via, token])

@[simp] theorem encode_flag (b : Bool) : flag.encode b = putField [flagByte b] := encode_framed _ _ _

def block (n : Nat) : Codec τ { items : List τ // items.length = n } where
  encode items := items.val
  decode tokens :=
    if fits : (tokens.take n).length = n then some (⟨tokens.take n, fits⟩, tokens.drop n) else none
  decode_iff := by
    intro tokens items rest
    rw [Option.dite_none_right_eq_some]
    constructor
    next =>
      intro read
      cases read with
      | intro fits pair =>
        cases pair
        exact (List.take_append_drop n tokens).symm
    next =>
      intro printed
      have front : tokens.take n = items.val := by rw [printed, List.take_left' items.property]
      have behind : tokens.drop n = rest := by rw [printed, List.drop_left' items.property]
      exact ⟨front ▸ items.property, by simp only [front, behind]⟩

def word32 : Codec UInt8 UInt32 :=
  (block 4).via (fun word => ⟨leBytes 4 word.toNat, leBytes_length 4 _⟩)
    (fun bytes => some (UInt32.ofNat (natOfLe bytes.val)))
    (by
      intro bytes word
      have small := natOfLe_lt bytes.val
      have digits := leBytes_natOfLe bytes.val
      rw [bytes.property] at small digits
      rw [Option.some.injEq, Subtype.ext_iff]
      constructor
      next =>
        intro read
        rw [← read]
        exact (UInt32.toNat_ofNat_of_lt' small ▸ digits).symm
      next =>
        intro printed
        have same := leBytes_mod 4 (natOfLe bytes.val) word.toNat (digits.trans printed)
        rw [Nat.mod_eq_of_lt small, Nat.mod_eq_of_lt (show word.toNat < 256 ^ 4 from word.toNat_lt)] at same
        rw [same, UInt32.ofNat_toNat])

end Codec

-- A field says where it ends.
theorem putField_append_inj {field field' rest rest' : Bytes} (fits : field.length < 2 ^ 64)
    (fits' : field'.length < 2 ^ 64) (same : putField field ++ rest = putField field' ++ rest') :
    field = field' ∧ rest = rest' := by
  have parts := Codec.field.encode_append_inj (a := ⟨field, fits⟩) (b := ⟨field', fits'⟩)
    (by rw [Codec.encode_field, Codec.encode_field, same])
  exact ⟨congrArg Vec.items parts.1, parts.2⟩

theorem putFields_inj {fields fields' : List Bytes} (fits : ∀ field ∈ fields, field.length < 2 ^ 64)
    (fits' : ∀ field ∈ fields', field.length < 2 ^ 64)
    (same : fields.flatMap putField = fields'.flatMap putField) : fields = fields' := by
  induction fields generalizing fields' with
  | nil =>
    cases fields' with
    | nil => rfl
    | cons field rest =>
      have lengths := congrArg List.length same
      simp only [List.flatMap_nil, List.flatMap_cons, List.length_nil, List.length_append,
        putField_length] at lengths
      omega
  | cons field rest ih =>
    cases fields' with
    | nil =>
      have lengths := congrArg List.length same
      simp only [List.flatMap_nil, List.flatMap_cons, List.length_nil, List.length_append,
        putField_length] at lengths
      omega
    | cons field' rest' =>
      rw [List.forall_mem_cons] at fits fits'
      simp only [List.flatMap_cons] at same
      have parts := putField_append_inj fits.1 fits'.1 same
      rw [parts.1, ih fits.2 fits'.2 parts.2]

end Shared
