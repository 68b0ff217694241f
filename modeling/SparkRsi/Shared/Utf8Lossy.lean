import SparkRsi.Shared.Bytes

set_option autoImplicit false

/-!
# Reading bytes as text

UTF-8 read with a replacement character for each maximal start of a character that does not go on. ASCII texts stand in
what is read exactly where their bytes stand.
-/

namespace Shared.Utf8

def replacement : Char := Char.ofNat 0xFFFD

/-- A character that has begun: how many bytes follow the next one, the bounds of the next one, the bits so
far. -/
structure Pending where
  owed : Nat
  low : Nat
  high : Nat
  bits : Nat

def lead (b : Nat) : Option Pending :=
  if 0xC2 ≤ b ∧ b ≤ 0xDF then some ⟨0, 0x80, 0xBF, b - 0xC0⟩
  -- Nothing that fits two bytes, no surrogates, nothing above the last character.
  else if b = 0xE0 then some ⟨1, 0xA0, 0xBF, 0⟩
  else if b = 0xED then some ⟨1, 0x80, 0x9F, 0xD⟩
  else if 0xE1 ≤ b ∧ b ≤ 0xEF then some ⟨1, 0x80, 0xBF, b - 0xE0⟩
  else if b = 0xF0 then some ⟨2, 0x90, 0xBF, 0⟩
  else if 0xF1 ≤ b ∧ b ≤ 0xF3 then some ⟨2, 0x80, 0xBF, b - 0xF0⟩
  else if b = 0xF4 then some ⟨2, 0x80, 0x8F, 4⟩
  else none

def start (b : UInt8) : List Char × Option Pending :=
  if b.toNat < 0x80 then ([Char.ofNat b.toNat], none)
  else match lead b.toNat with
    | some p => ([], some p)
    | none => ([replacement], none)

def step : Option Pending → UInt8 → List Char × Option Pending
  | none, b => start b
  | some p, b =>
    if p.low ≤ b.toNat ∧ b.toNat ≤ p.high then
      let bits := p.bits * 64 + (b.toNat - 0x80)
      match p.owed with
      | 0 => ([Char.ofNat bits], none)
      | owed + 1 => ([], some ⟨owed, 0x80, 0xBF, bits⟩)
    -- What has begun is replaced, and the byte begins anew.
    else (replacement :: (start b).1, (start b).2)

def readLossy : Option Pending → Bytes → List Char
  | none, [] => []
  | some _, [] => [replacement]
  | state, b :: rest => (step state b).1 ++ readLossy (step state b).2 rest

def fromUtf8Lossy (bytes : Bytes) : List Char := readLossy none bytes

example : fromUtf8Lossy [0xE2, 0x82, 0xAC, 0xE2, 0x82, 0x41, 0xED, 0xA0] =
    [Char.ofNat 0x20AC, replacement, 'A', replacement, replacement] := by decide

def asciiByte (c : Char) : UInt8 := UInt8.ofNat c.toNat

inductive Spelled : List Char → Bytes → Prop where
  | nil : Spelled [] []
  | ascii (c : Char) {chars : List Char} {bytes : Bytes} : c.toNat < 0x80 → Spelled chars bytes →
      Spelled (c :: chars) (asciiByte c :: bytes)
  | other (c : Char) {held : Bytes} {chars : List Char} {bytes : Bytes} : 0x80 ≤ c.toNat → held ≠ [] →
      (∀ b ∈ held, 0x80 ≤ b.toNat) → Spelled chars bytes → Spelled (c :: chars) (held ++ bytes)

section Search

variable {pattern chars : List Char} {bytes : Bytes}

theorem asciiByte_toNat {c : Char} (ascii : c.toNat < 0x80) : (asciiByte c).toNat = c.toNat := by
  rw [asciiByte, UInt8.toNat_ofNat']
  omega

theorem asciiByte_inj {c d : Char} (first : c.toNat < 0x80) (second : d.toNat < 0x80) :
    asciiByte c = asciiByte d ↔ c = d := by
  rw [← UInt8.toNat_inj, asciiByte_toNat first, asciiByte_toNat second, Char.toNat_inj]

-- An ASCII text does not begin within a character of several bytes.
theorem not_prefix_high {held : Bytes} (ascii : ∀ c ∈ pattern, c.toNat < 0x80) (filled : pattern ≠ [])
    {b : UInt8} (high : 0x80 ≤ b.toNat) : ¬pattern.map asciiByte <+: b :: held := by
  cases pattern with
  | nil => exact absurd rfl filled
  | cons c rest =>
    rw [List.forall_mem_cons] at ascii
    intro begins
    rw [List.map_cons, List.cons_prefix_cons] at begins
    have value := asciiByte_toNat ascii.1
    rw [begins.1] at value
    omega

theorem Spelled.prefix_iff (spelled : Spelled chars bytes) (ascii : ∀ c ∈ pattern, c.toNat < 0x80) :
    pattern.map asciiByte <+: bytes ↔ pattern <+: chars := by
  induction spelled generalizing pattern with
  | nil => simp
  | ascii d small _ ih =>
    cases pattern with
    | nil => simp
    | cons c rest =>
      rw [List.forall_mem_cons] at ascii
      rw [List.map_cons, List.cons_prefix_cons, List.cons_prefix_cons, ih ascii.2,
        asciiByte_inj ascii.1 small]
  | @other d held chars bytes large filled high _ _ =>
    cases pattern with
    | nil => simp
    | cons c rest =>
      cases held with
      | nil => exact absurd rfl filled
      | cons b others =>
        rw [List.forall_mem_cons] at high
        apply iff_of_false (not_prefix_high ascii (List.cons_ne_nil c rest) high.1)
        intro begins
        rw [List.cons_prefix_cons] at begins
        rw [List.forall_mem_cons, begins.1] at ascii
        omega

theorem infix_high {held : Bytes} (ascii : ∀ c ∈ pattern, c.toNat < 0x80) (filled : pattern ≠ [])
    (high : ∀ b ∈ held, 0x80 ≤ b.toNat) (bytes : Bytes) :
    pattern.map asciiByte <:+: held ++ bytes ↔ pattern.map asciiByte <:+: bytes := by
  induction held with
  | nil => rfl
  | cons b others ih =>
    rw [List.forall_mem_cons] at high
    rw [List.cons_append, List.infix_cons_iff, ih high.2, or_iff_right]
    exact not_prefix_high ascii filled high.1

-- The bytes of an ASCII text stand in the bytes exactly where the text stands in the characters.
theorem Spelled.infix_iff (spelled : Spelled chars bytes) (ascii : ∀ c ∈ pattern, c.toNat < 0x80)
    (filled : pattern ≠ []) : pattern.map asciiByte <:+: bytes ↔ pattern <:+: chars := by
  induction spelled with
  | nil => simp [filled]
  | ascii d small behind ih =>
    rw [List.infix_cons_iff, List.infix_cons_iff, ← (Spelled.ascii d small behind).prefix_iff ascii, ih]
  | other d large nonempty high behind ih =>
    rw [infix_high ascii filled high, ih, List.infix_cons_iff, or_iff_right]
    intro begins
    cases pattern with
    | nil => exact filled rfl
    | cons c rest =>
      rw [List.cons_prefix_cons] at begins
      rw [List.forall_mem_cons, begins.1] at ascii
      omega

end Search

section Reading

structure Pending.Valid (p : Pending) : Prop where
  tail : 0x80 ≤ p.low
  apart : 0x80 ≤ (p.bits * 64 + (p.low - 0x80)) * 64 ^ p.owed
  scalar : (p.bits * 64 + (p.high - 0x80) + 1) * 64 ^ p.owed ≤ 0xD800 ∨
    0xE000 ≤ (p.bits * 64 + (p.low - 0x80)) * 64 ^ p.owed ∧
      (p.bits * 64 + (p.high - 0x80) + 1) * 64 ^ p.owed ≤ 0x110000

theorem Pending.valid_of {owed low high bits : Nat} (tail : 0x80 ≤ low)
    (apart : 0x80 ≤ (bits * 64 + (low - 0x80)) * 64 ^ owed)
    (scalar : (bits * 64 + (high - 0x80) + 1) * 64 ^ owed ≤ 0xD800 ∨
      0xE000 ≤ (bits * 64 + (low - 0x80)) * 64 ^ owed ∧ (bits * 64 + (high - 0x80) + 1) * 64 ^ owed ≤ 0x110000) :
    Valid ⟨owed, low, high, bits⟩ := ⟨tail, apart, scalar⟩

theorem lead_valid {b : Nat} {p : Pending} (begun : lead b = some p) : p.Valid ∧ 0x80 ≤ b := by
  unfold lead at begun
  split_ifs at begun <;> cases begun <;> apply And.intro (Pending.valid_of _ _ _) <;> omega

theorem Pending.Valid.next {p : Pending} (valid : p.Valid) {owed : Nat} (more : p.owed = owed + 1) {b : Nat}
    (low : p.low ≤ b) (high : b ≤ p.high) : Valid ⟨owed, 0x80, 0xBF, p.bits * 64 + (b - 0x80)⟩ := by
  have apart := valid.apart
  have scalar := valid.scalar
  rw [more, pow_succ'] at apart scalar
  have least : (p.bits * 64 + (p.low - 0x80)) * (64 * 64 ^ owed) ≤
      ((p.bits * 64 + (b - 0x80)) * 64 + (0x80 - 0x80)) * 64 ^ owed := by
    rw [← mul_assoc]
    exact Nat.mul_le_mul_right _ (by omega)
  have greatest : ((p.bits * 64 + (b - 0x80)) * 64 + (0xBF - 0x80) + 1) * 64 ^ owed ≤
      (p.bits * 64 + (p.high - 0x80) + 1) * (64 * 64 ^ owed) := by
    rw [← mul_assoc]
    exact Nat.mul_le_mul_right _ (by omega)
  apply Pending.valid_of (by omega) (apart.trans least)
  cases scalar with
  | inl under => exact Or.inl (greatest.trans under)
  | inr between => exact Or.inr ⟨between.1.trans least, greatest.trans between.2⟩

theorem ofNat_toNat {n : Nat} (scalar : n < 0xD800 ∨ 0xE000 ≤ n ∧ n < 0x110000) :
    (Char.ofNat n).toNat = n := by
  have valid : n.isValidChar := by
    cases scalar with
    | inl low => exact Or.inl low
    | inr high => exact Or.inr ⟨by omega, high.2⟩
  rw [Char.ofNat, dif_pos valid]
  rfl

/-- What the bytes read so far are: nothing, or the start of one character. -/
def Holds : Option Pending → Bytes → Prop
  | none, held => held = []
  | some p, held => p.Valid ∧ held ≠ [] ∧ ∀ b ∈ held, 0x80 ≤ b.toNat

theorem Spelled.append {chars others : List Char} {bytes behind : Bytes} (first : Spelled chars bytes)
    (second : Spelled others behind) : Spelled (chars ++ others) (bytes ++ behind) := by
  induction first with
  | nil => exact second
  | ascii c small _ ih => exact Spelled.ascii c small ih
  | other c large filled high _ ih =>
    rw [List.append_assoc]
    exact Spelled.other c large filled high ih

theorem Spelled.one (c : Char) {held : Bytes} (large : 0x80 ≤ c.toNat) (filled : held ≠ [])
    (high : ∀ b ∈ held, 0x80 ≤ b.toNat) : Spelled [c] held := by
  have single := Spelled.other c large filled high Spelled.nil
  rwa [List.append_nil] at single

-- What a byte leaves behind: characters over some of the bytes, and the start of a character.
def Leaves (held : Bytes) (left : List Char × Option Pending) : Prop :=
  ∃ front begun, held = front ++ begun ∧ Spelled left.1 front ∧ Holds left.2 begun

theorem start_leaves (b : UInt8) : Leaves [b] (start b) := by
  unfold start
  split
  next small =>
    have value : (Char.ofNat b.toNat).toNat = b.toNat := ofNat_toNat (by omega)
    have byte : asciiByte (Char.ofNat b.toNat) = b := by
      rw [← UInt8.toNat_inj, asciiByte_toNat (by omega), value]
    refine ⟨[b], [], rfl, ?_, rfl⟩
    have single := Spelled.ascii (Char.ofNat b.toNat) (by omega) Spelled.nil
    rwa [byte] at single
  next large =>
    have high : ∀ other ∈ [b], 0x80 ≤ other.toNat := by
      intro other member
      rw [List.mem_singleton.mp member]
      omega
    split
    next p begun => exact ⟨[], [b], rfl, Spelled.nil, (lead_valid begun).1, List.cons_ne_nil b [], high⟩
    next => exact ⟨[b], [], rfl, Spelled.one replacement (by decide) (List.cons_ne_nil b []) high, rfl⟩

theorem step_leaves {state : Option Pending} {held : Bytes} (holds : Holds state held) (b : UInt8) :
    Leaves (held ++ [b]) (step state b) := by
  cases state with
  | none =>
    rw [show held = [] from holds]
    exact start_leaves b
  | some p =>
    cases holds with
    | intro valid begun =>
      rw [step]
      split
      next within =>
        have high : ∀ other ∈ held ++ [b], 0x80 ≤ other.toNat := by
          intro other member
          cases List.mem_append.mp member with
          | inl before => exact begun.2 other before
          | inr last =>
            rw [List.mem_singleton.mp last]
            exact valid.tail.trans within.1
        have filled : held ++ [b] ≠ [] := by simp
        cases rest : p.owed with
        | zero =>
          have apart := valid.apart
          have scalar := valid.scalar
          rw [rest] at apart scalar
          have value : (Char.ofNat (p.bits * 64 + (b.toNat - 0x80))).toNat = p.bits * 64 + (b.toNat - 0x80) :=
            ofNat_toNat (by omega)
          exact ⟨held ++ [b], [], by simp, Spelled.one _ (by omega) filled high, rfl⟩
        | succ owed =>
          exact ⟨[], held ++ [b], rfl, Spelled.nil, valid.next rest within.1 within.2, filled, high⟩
      next =>
        cases start_leaves b with
        | intro front others =>
          cases others with
          | intro begun' facts =>
            refine ⟨held ++ front, begun', ?_, ?_, facts.2.2⟩
            · rw [facts.1, List.append_assoc]
            · exact (Spelled.one replacement (by decide) begun.1 begun.2).append facts.2.1

theorem readLossy_spelled (bytes : Bytes) {state : Option Pending} {held : Bytes} (holds : Holds state held) :
    Spelled (readLossy state bytes) (held ++ bytes) := by
  induction bytes generalizing state held with
  | nil =>
    rw [List.append_nil]
    cases state with
    | none =>
      rw [show held = [] from holds]
      exact Spelled.nil
    | some p => exact Spelled.one replacement (by decide) holds.2.1 holds.2.2
  | cons b rest ih =>
    cases step_leaves holds b with
    | intro front others =>
      cases others with
      | intro begun facts =>
        have whole : held ++ b :: rest = front ++ (begun ++ rest) := by
          rw [← List.append_assoc, ← facts.1, List.append_assoc, List.singleton_append]
        rw [readLossy, whole]
        exact facts.2.1.append (ih facts.2.2)

theorem fromUtf8Lossy_spelled (bytes : Bytes) : Spelled (fromUtf8Lossy bytes) bytes := by
  have nothing : Holds none [] := rfl
  exact readLossy_spelled bytes nothing

theorem encode_spelled (chars : List Char) : Spelled chars (chars.flatMap String.utf8EncodeChar) := by
  induction chars with
  | nil => exact Spelled.nil
  | cons c rest ih =>
    rw [List.flatMap_cons]
    by_cases small : c.toNat < 0x80
    next =>
      rw [utf8EncodeChar_ascii c small]
      exact Spelled.ascii c small ih
    next =>
      apply Spelled.other c (by omega) _ _ ih
      next => simp [String.utf8EncodeChar]; split_ifs <;> simp
      next =>
        intro b member
        by_contra low
        have same := low_utf8EncodeChar c b member (by omega)
        omega

-- A text over its own bytes.
theorem utf8_spelled (text : String) : Spelled text.toList (utf8 text) := by
  rw [utf8_eq_flatMap]
  exact encode_spelled text.toList

theorem utf8_ascii {text : String} (ascii : ∀ c ∈ text.toList, c.toNat < 0x80) :
    utf8 text = text.toList.map asciiByte := by
  rw [utf8_eq_flatMap]
  generalize text.toList = chars at ascii
  induction chars with
  | nil => rfl
  | cons c rest ih =>
    rw [List.forall_mem_cons] at ascii
    rw [List.flatMap_cons, utf8EncodeChar_ascii c ascii.1, ih ascii.2]
    rfl

-- A text that is ASCII is found by its bytes in whatever is read.
theorem infix_lossy {text : String} (ascii : ∀ c ∈ text.toList, c.toNat < 0x80) (filled : text.toList ≠ [])
    (bytes : Bytes) :
    utf8 text <:+: bytes ↔ text.toList <:+: fromUtf8Lossy bytes := by
  rw [utf8_ascii ascii]
  exact (fromUtf8Lossy_spelled bytes).infix_iff ascii filled

theorem infix_utf8 {text : String} (ascii : ∀ c ∈ text.toList, c.toNat < 0x80) (filled : text.toList ≠ [])
    (whole : String) :
    utf8 text <:+: utf8 whole ↔ text.toList <:+: whole.toList := by
  rw [utf8_ascii ascii]
  exact (utf8_spelled whole).infix_iff ascii filled

end Reading

end Shared.Utf8
