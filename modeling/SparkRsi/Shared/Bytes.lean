import Mathlib.Data.List.Basic
import Mathlib.Data.Set.Function
import Mathlib.Tactic.IntervalCases

set_option autoImplicit false

/-!
# Byte strings

UTF-8 texts as byte lists, fixed-width little-endian words, lowercase hex and
the length-prefixed fields that structured digests are made of.
-/

namespace Shared

abbrev Bytes := List UInt8

def utf8 (text : String) : Bytes := text.toByteArray.data.toList

theorem utf8_append (left right : String) : utf8 (left ++ right) = utf8 left ++ utf8 right := by
  simp [utf8, String.toByteArray_append, ByteArray.data_append]

theorem utf8_injective : Function.Injective utf8 := by
  intro left right same
  apply String.toByteArray_inj.mp
  apply ByteArray.ext
  exact Array.toList_inj.mp same

@[simp] theorem utf8_inj {left right : String} : utf8 left = utf8 right ↔ left = right :=
  utf8_injective.eq_iff

def fromUtf8 (bytes : Bytes) : Option String := String.fromUTF8? ⟨bytes.toArray⟩

theorem fromUtf8_utf8 (text : String) : fromUtf8 (utf8 text) = some text := by
  have bytes : (⟨(utf8 text).toArray⟩ : ByteArray) = text.toByteArray := by simp [utf8]
  rw [fromUtf8, bytes, String.fromUTF8?, dif_pos text.isValidUTF8]
  rfl

theorem fromUtf8_eq_some {bytes : Bytes} {text : String} :
    fromUtf8 bytes = some text ↔ bytes = utf8 text := by
  constructor
  · intro read
    rw [fromUtf8, String.fromUTF8?] at read
    split at read
    · cases read
      simp [utf8, String.fromUTF8]
    · cases read
  · rintro rfl
    exact fromUtf8_utf8 text

def leBytes : Nat → Nat → Bytes
  | 0, _ => []
  | width + 1, n => UInt8.ofNat n :: leBytes width (n / 256)

@[simp] theorem leBytes_length (width n : Nat) : (leBytes width n).length = width := by
  induction width generalizing n with
  | zero => rfl
  | succ width ih => simp [leBytes, ih]

theorem leBytes_mod (width m n : Nat) (same : leBytes width m = leBytes width n) :
    m % 256 ^ width = n % 256 ^ width := by
  induction width generalizing m n with
  | zero => simp [Nat.mod_one]
  | succ width ih =>
    simp only [leBytes, List.cons.injEq] at same
    have low : m % 256 = n % 256 := by
      have := congrArg UInt8.toNat same.1
      simpa using this
    have high := ih _ _ same.2
    rw [pow_succ', Nat.mod_mul, Nat.mod_mul, low, high]

def u64Le (word : UInt64) : Bytes := leBytes 8 word.toNat

@[simp] theorem u64Le_length (word : UInt64) : (u64Le word).length = 8 := leBytes_length _ _

theorem u64Le_injective : Function.Injective u64Le := by
  intro left right same
  have digits := leBytes_mod 8 _ _ same
  apply UInt64.toNat_inj.mp
  rwa [Nat.mod_eq_of_lt (by simpa using left.toNat_lt),
    Nat.mod_eq_of_lt (by simpa using right.toNat_lt)] at digits

/-- A field behind its own length, the length as a 64-bit little-endian word. -/
def putField (field : Bytes) : Bytes := u64Le (UInt64.ofNat field.length) ++ field

@[simp] theorem putField_length (field : Bytes) :
    (putField field).length = 8 + field.length := by
  simp [putField]

theorem putField_injective : Function.Injective putField := by
  intro left right same
  exact (List.append_inj same (by simp)).2

theorem utf8_eq_flatMap (text : String) :
    utf8 text = text.toList.flatMap String.utf8EncodeChar := by
  conv_lhs => rw [← @String.ofList_toList text]
  rw [utf8, String.toByteArray_ofList, List.utf8Encode, List.toList_data_toByteArray]

@[simp] theorem utf8_ofList (chars : List Char) :
    utf8 (String.ofList chars) = chars.flatMap String.utf8EncodeChar := by
  rw [utf8_eq_flatMap, String.toList_ofList]

theorem utf8EncodeChar_ascii (c : Char) (ascii : c.toNat < 128) :
    String.utf8EncodeChar c = [UInt8.ofNat c.toNat] := by
  have small : c.val.toNat ≤ 0x7f := Nat.le_of_lt_succ ascii
  simp only [String.utf8EncodeChar, small, if_true]
  rfl

theorem low_utf8EncodeChar (c : Char) (b : UInt8) (member : b ∈ String.utf8EncodeChar c)
    (low : b.toNat < 128) : c.toNat = b.toNat := by
  have value : c.val.toNat = c.toNat := rfl
  simp only [String.utf8EncodeChar, value] at member
  split at member
  next small =>
    obtain rfl := List.mem_singleton.mp member
    simp; omega
  next large =>
    exfalso
    split_ifs at member <;> simp only [List.mem_cons, List.not_mem_nil, or_false] at member <;>
      rcases member with rfl | rfl | rfl | rfl <;> simp at low <;> omega

-- A byte below 128 stands for a character of its own.
theorem low_utf8 (text : String) (b : UInt8) (member : b ∈ utf8 text) (low : b.toNat < 128) :
    Char.ofNat b.toNat ∈ text.toList := by
  rw [utf8_eq_flatMap] at member
  obtain ⟨c, inside, here⟩ := List.mem_flatMap.mp member
  rwa [← low_utf8EncodeChar c b here low, Char.ofNat_toNat]

-- The byte of an ASCII character marks its place among the characters.
theorem split_at_ascii {chars : List Char} {before after : Bytes} {c : Char} (ascii : c.toNat < 128)
    (bytes : chars.flatMap String.utf8EncodeChar = before ++ UInt8.ofNat c.toNat :: after) :
    ∃ first second, chars = first ++ c :: second ∧ first.flatMap String.utf8EncodeChar = before ∧
      second.flatMap String.utf8EncodeChar = after := by
  induction chars generalizing before with
  | nil => simp at bytes
  | cons d rest ih =>
    rw [List.flatMap_cons] at bytes
    rcases List.append_eq_append_iff.mp bytes with ⟨more, rfl, tail⟩ | ⟨more, whole, tail⟩
    · obtain ⟨first, second, rfl, rfl, behind⟩ := ih tail
      exact ⟨d :: first, second, rfl, by simp, behind⟩
    · cases more with
      | nil =>
        have bytes : rest.flatMap String.utf8EncodeChar = [] ++ UInt8.ofNat c.toNat :: after := by
          simpa using tail.symm
        obtain ⟨first, second, rfl, nothing, behind⟩ := ih bytes
        exact ⟨d :: first, second, rfl, by simpa [nothing] using whole, behind⟩
      | cons b others =>
        -- The marked byte is below 128, so `d` is encoded by it alone.
        obtain ⟨rfl, -⟩ := List.cons.inj tail
        have low : (UInt8.ofNat c.toNat).toNat = c.toNat := by simp; omega
        have value := low_utf8EncodeChar d (UInt8.ofNat c.toNat) (by simp [whole]) (by omega)
        have same : d = c := Char.toNat_inj.mp (value.trans low)
        rw [same, utf8EncodeChar_ascii c ascii, eq_comm, List.append_eq_singleton_iff] at whole
        obtain ⟨rfl, single⟩ | ⟨-, empty⟩ := whole
        · obtain ⟨-, rfl⟩ := List.cons.inj single
          exact ⟨[], rest, by rw [same]; rfl, rfl, by simpa using tail.symm⟩
        · cases empty

theorem split_first_ascii {chars : List Char} {after : Bytes} {c : Char} (ascii : c.toNat < 128)
    (bytes : chars.flatMap String.utf8EncodeChar = UInt8.ofNat c.toNat :: after) :
    ∃ rest, chars = c :: rest ∧ rest.flatMap String.utf8EncodeChar = after := by
  rw [← List.nil_append (UInt8.ofNat c.toNat :: after)] at bytes
  obtain ⟨first, rest, rfl, empty, behind⟩ := split_at_ascii ascii bytes
  cases first with
  | nil => exact ⟨rest, rfl, behind⟩
  | cons d others => simp [String.utf8EncodeChar_ne_nil] at empty

theorem utf8EncodeChar_append_inj {c d : Char} {left right : Bytes}
    (same : String.utf8EncodeChar c ++ left = String.utf8EncodeChar d ++ right) : c = d ∧ left = right := by
  have read (e : Char) (rest : Bytes) :
      ByteArray.utf8DecodeChar? (String.utf8EncodeChar e ++ rest).toByteArray 0 = some e := by
    rw [List.toByteArray_append]
    exact ByteArray.utf8DecodeChar?_utf8EncodeChar_append
  have first := read c left
  rw [same, read d right] at first
  cases first
  exact ⟨rfl, List.append_cancel_left same⟩

theorem prefix_of_flatMap {chars text : List Char}
    (bytes : chars.flatMap String.utf8EncodeChar <+: text.flatMap String.utf8EncodeChar) : chars <+: text := by
  induction chars generalizing text with
  | nil => exact List.nil_prefix
  | cons c rest ih =>
    obtain ⟨more, whole⟩ := bytes
    rw [List.flatMap_cons, List.append_assoc] at whole
    cases text with
    | nil => exact absurd (List.append_eq_nil_iff.mp whole).1 String.utf8EncodeChar_ne_nil
    | cons d others =>
      rw [List.flatMap_cons] at whole
      obtain ⟨rfl, later⟩ := utf8EncodeChar_append_inj whole
      exact List.cons_prefix_cons.mpr ⟨rfl, ih ⟨more, later⟩⟩

-- A text is cut between characters where its beginning is text again.
theorem prefix_of_utf8 {text whole : String} (bytes : utf8 text <+: utf8 whole) : text.toList <+: whole.toList := by
  rw [utf8_eq_flatMap, utf8_eq_flatMap] at bytes
  exact prefix_of_flatMap bytes

def hexDigit (n : Nat) : Char :=
  if n < 10 then Char.ofNat (48 + n) else Char.ofNat (87 + n)

def hexEncode (data : Bytes) : String :=
  String.ofList (data.flatMap fun b => [hexDigit (b.toNat / 16), hexDigit (b.toNat % 16)])

def isHexByte (b : UInt8) : Bool := (48 ≤ b && b ≤ 57) || (97 ≤ b && b ≤ 102)

theorem hexDigit_utf8 (n : Nat) (digit : n < 16) :
    ∃ b, String.utf8EncodeChar (hexDigit n) = [b] ∧ isHexByte b = true := by
  interval_cases n <;> exact ⟨_, rfl, by decide⟩

theorem hexEncode_utf8 (data : Bytes) :
    (utf8 (hexEncode data)).length = 2 * data.length ∧
      ∀ b ∈ utf8 (hexEncode data), isHexByte b = true := by
  simp only [hexEncode, utf8_ofList]
  induction data with
  | nil => simp
  | cons b rest ih =>
    have byte : b.toNat < 256 := b.toNat_lt
    obtain ⟨high, highBytes, highHex⟩ := hexDigit_utf8 (b.toNat / 16) (by omega)
    obtain ⟨low, lowBytes, lowHex⟩ := hexDigit_utf8 (b.toNat % 16) (by omega)
    simp only [List.flatMap_cons, List.cons_append, List.nil_append, highBytes, lowBytes,
      List.length_cons, List.mem_cons, forall_eq_or_imp]
    exact ⟨by omega, highHex, lowHex, ih.2⟩

def hexValue (b : UInt8) : Option UInt8 :=
  if 48 ≤ b ∧ b ≤ 57 then some (b - 48)
  else if 97 ≤ b ∧ b ≤ 102 then some (b - 87)
  else if 65 ≤ b ∧ b ≤ 70 then some (b - 55)
  else none

def hexPairs : Nat → Bytes → Except String Bytes
  | index, high :: low :: rest =>
    match hexValue high, hexValue low with
    | some h, some l => (hexPairs (index + 2) rest).map ((h * 16 + l) :: ·)
    | none, _ => .error s!"Invalid character {(Char.ofNat high.toNat).quote} at position {index}"
    | _, none => .error s!"Invalid character {(Char.ofNat low.toNat).quote} at position {index + 1}"
  | _, _ => .ok []

def decodeToSlice (width : Nat) (text : String) : Except String Bytes :=
  let digits := utf8 text
  if digits.length % 2 ≠ 0 then .error "Odd number of digits"
  else if digits.length / 2 ≠ width then .error "Invalid string length"
  else hexPairs 0 digits

theorem hexDigit_value (n : Nat) (digit : n < 16) :
    ∃ b, String.utf8EncodeChar (hexDigit n) = [b] ∧ hexValue b = some (UInt8.ofNat n) := by
  interval_cases n <;> exact ⟨_, rfl, by decide⟩

theorem hexPairs_encode (index : Nat) (data : Bytes) : hexPairs index (utf8 (hexEncode data)) = .ok data := by
  simp only [hexEncode, utf8_ofList]
  induction data generalizing index with
  | nil => rfl
  | cons b rest ih =>
    have byte : b.toNat < 256 := b.toNat_lt
    obtain ⟨high, highBytes, highValue⟩ := hexDigit_value (b.toNat / 16) (by omega)
    obtain ⟨low, lowBytes, lowValue⟩ := hexDigit_value (b.toNat % 16) (by omega)
    have whole : UInt8.ofNat (b.toNat / 16) * 16 + UInt8.ofNat (b.toNat % 16) = b := by
      apply UInt8.toNat_inj.mp
      simp
      omega
    simp only [List.flatMap_cons, List.cons_append, List.nil_append, highBytes, lowBytes, hexPairs,
      highValue, lowValue, ih, Except.map, whole]

structure HexHash where
  digest : Bytes → Bytes
  length_digest : ∀ data, (digest data).length = 32

namespace HexHash

variable (hash : HexHash)

def hex (data : Bytes) : String := hexEncode (hash.digest data)

@[simp] theorem length_hex (data : Bytes) : (utf8 (hash.hex data)).length = 64 := by
  rw [hex, (hexEncode_utf8 _).1, hash.length_digest]

theorem digits_hex (data : Bytes) : ∀ b ∈ utf8 (hash.hex data), isHexByte b = true :=
  (hexEncode_utf8 _).2

theorem decode_hex (data : Bytes) : decodeToSlice 32 (hash.hex data) = .ok (hash.digest data) := by
  have length := hash.length_hex data
  simp only [decodeToSlice, length]
  exact hexPairs_encode 0 (hash.digest data)

end HexHash

def isHexDigest (s : String) : Bool :=
  (utf8 s).length == 64 && (utf8 s).all isHexByte

@[simp] theorem HexHash.isHexDigest_hex (hash : HexHash) (data : Bytes) :
    isHexDigest (hash.hex data) = true := by
  simp only [isHexDigest, hash.length_hex, beq_self_eq_true, Bool.true_and, List.all_eq_true]
  exact hash.digits_hex data

end Shared
