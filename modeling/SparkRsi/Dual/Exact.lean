import SparkRsi.Dual.Reading

set_option autoImplicit false

namespace SparkRsi.Dual

open Shared

section Decoding

variable {α β γ : Type} {read : Read α} {size : Nat} {c : Codec UInt8 α}

-- A reader takes what is there to take, or fails.
theorem runs {parse : Bytes → Option (α × Bytes)} (reads : Parses read size parse) (buf : Bytes) {pos : Nat}
    (inside : pos ≤ buf.length) (room : pos + size < 2 ^ 64) :
    (∃ raw stop, read.run ⟨buf, pos, none⟩ = .ok (raw, ⟨buf, stop, none⟩) ∧ stop ≤ buf.length ∧ stop ≤ pos + size ∧
        parse (buf.drop pos) = some (raw, buf.drop stop)) ∨
      ∃ raw s, read.run ⟨buf, pos, none⟩ = .ok (raw, s) ∧ s.st ≠ none ∧ parse (buf.drop pos) = none := by
  cases taken : parse (buf.drop pos) with
  | none =>
    right
    obtain ⟨raw, s, ran, failed⟩ := reads.refuses ⟨buf, pos, none⟩ rfl inside room taken
    exact ⟨raw, s, ran, failed, rfl⟩
  | some pair =>
    left
    obtain ⟨raw, rest⟩ := pair
    obtain ⟨stop, ran, here, within, near⟩ := reads.accepts ⟨buf, pos, none⟩ raw rest rfl inside room taken
    exact ⟨raw, stop, ran, within, near, by rw [← here]⟩

theorem end_failed {s : Reader} (failed : s.st ≠ none) : ∃ r, s.end_ = .error r := by
  obtain ⟨r, known⟩ := Option.ne_none_iff_exists'.mp failed
  exact ⟨r, by simp [Reader.end_, known]⟩

theorem end_eq_ok {buf : Bytes} {pos : Nat} (within : pos ≤ buf.length) :
    Reader.end_ ⟨buf, pos, none⟩ = .ok () ↔ buf.drop pos = [] := by
  rw [Reader.end_, List.drop_eq_nil_iff]
  simp only [refuseIf_eq_ok]
  omega

-- The decoder of a record of fixed length returns, and accepts the texts of what passes its check.
theorem decodeFixed_iff (reads : Parses read size c.decode) (small : size < 2 ^ 64)
    (check : α → Except Refusal γ) (buf : Bytes) :
    ∃ result, decodeFixed read check buf = .ok result ∧
      ∀ x, result = .ok x ↔ ∃ raw, buf = c.encode raw ∧ check raw = .ok x := by
  rw [decodeFixed]
  cases runs reads buf (Nat.zero_le _) (by rwa [Nat.zero_add]) with
  | inl taken =>
    obtain ⟨raw, pos, ran, within, -, front⟩ := taken
    have whole : buf = c.encode raw ++ buf.drop pos := (c.decode_iff _ _ _).mp front
    rw [Reader.new, ran]
    refine ⟨_, rfl, fun x => ?_⟩
    simp only [then_eq_ok, end_eq_ok within]
    constructor
    next =>
      intro accepted
      rw [accepted.1, List.append_nil] at whole
      exact ⟨raw, whole, accepted.2⟩
    next =>
      intro spelled
      obtain ⟨other, text, checked⟩ := spelled
      have same : c.encode raw ++ buf.drop pos = c.encode other ++ [] := by
        rw [← whole, List.append_nil]
        exact text
      obtain ⟨rfl, rest⟩ := c.encode_append_inj same
      exact ⟨rest, checked⟩
  | inr short =>
    obtain ⟨raw, s, ran, failed, front⟩ := short
    obtain ⟨r, refused⟩ := end_failed failed
    rw [Reader.new, ran]
    refine ⟨_, rfl, fun x => ?_⟩
    simp only [refused]
    apply error_eq_ok
    intro spelled
    obtain ⟨other, text, -⟩ := spelled
    have back : c.decode buf = some (other, []) :=
      (c.decode_iff buf other []).mpr (by rw [List.append_nil, text])
    rw [List.drop_zero, back] at front
    cases front

-- The decoder of a record with entries, likewise; there are as many entries as their number says.
theorem decodeCounted_iff {head : Read (α × UInt32)} {headCodec : Codec UInt8 (α × UInt32)} {value : Read β}
    {valueCodec : Codec UInt8 β} {valueSize : Nat} (heads : Parses head size headCodec.decode)
    (values : Parses value valueSize valueCodec.decode) (small : size + 32 * (4 + valueSize) < 2 ^ 64)
    (check : α → List (UInt32 × β) → Except Refusal γ) (buf : Bytes) :
    ∃ result, decodeCounted head value check buf = .ok result ∧
      ∀ x, result = .ok x ↔ ∃ fields n entries,
        buf = headCodec.encode (fields, n) ++ entries.flatMap (Codec.word32.pair valueCodec).encode ∧
          entries.length = n.toNat ∧ n ≠ 0 ∧ n ≤ MAX_RESOURCES ∧ check fields entries = .ok x := by
  rw [decodeCounted]
  cases runs heads buf (Nat.zero_le _) (by omega) with
  | inl taken =>
    obtain ⟨⟨fields, n⟩, pos, ran, within, near, front⟩ := taken
    have whole : buf = headCodec.encode (fields, n) ++ buf.drop pos := (headCodec.decode_iff _ _ _).mp front
    rw [Reader.new, ran, ok_bind]
    by_cases counted : n = 0 ∨ n > MAX_RESOURCES
    next =>
      simp only [if_pos counted]
      refine ⟨_, rfl, fun x => ?_⟩
      apply error_eq_ok
      intro spelled
      obtain ⟨fields', n', entries, text, -, some_, most, -⟩ := spelled
      obtain ⟨same, -⟩ := headCodec.encode_append_inj (whole.symm.trans text)
      cases same
      exact absurd counted (not_or.mpr ⟨some_, UInt32.not_lt.mpr most⟩)
    next =>
      simp only [if_neg counted]
      rw [not_or] at counted
      have most : n ≤ MAX_RESOURCES := UInt32.not_lt.mp counted.2
      have few : n.toNat ≤ 32 := UInt32.le_iff_toNat_le.mp most
      have room : pos + n.toNat * (4 + valueSize) < 2 ^ 64 := by
        have bound := Nat.mul_le_mul_right (4 + valueSize) few
        omega
      cases runs (parses_entries values n.toNat) buf within room with
      | inl taken =>
        obtain ⟨entries, stop, ran', within', -, front'⟩ := taken
        have behind := (Codec.decodeItems_iff _ _ _ _ _).mp front'
        rw [ran', ok_bind]
        refine ⟨_, rfl, fun x => ?_⟩
        simp only [then_eq_ok, end_eq_ok within']
        constructor
        next =>
          intro accepted
          rw [behind.2, accepted.1, List.append_nil] at whole
          exact ⟨fields, n, entries, whole, behind.1, counted.1, most, accepted.2⟩
        next =>
          intro spelled
          obtain ⟨fields', n', entries', text, number, -, -, checked⟩ := spelled
          obtain ⟨same, rest⟩ := headCodec.encode_append_inj (whole.symm.trans text)
          cases same
          have again := (Codec.decodeItems_iff (Codec.word32.pair valueCodec) n.toNat (buf.drop pos) entries' []).mpr
            ⟨number, by rw [List.append_nil, rest]⟩
          rw [again, Option.some.injEq, Prod.mk.injEq] at front'
          exact ⟨front'.2.symm, front'.1 ▸ checked⟩
      | inr short =>
        obtain ⟨entries, s, ran', failed, front'⟩ := short
        obtain ⟨r, refused⟩ := end_failed failed
        rw [ran', ok_bind]
        refine ⟨_, rfl, fun x => ?_⟩
        simp only [refused]
        apply error_eq_ok
        intro spelled
        obtain ⟨fields', n', entries', text, number, -⟩ := spelled
        obtain ⟨same, rest⟩ := headCodec.encode_append_inj (whole.symm.trans text)
        cases same
        have again := (Codec.decodeItems_iff (Codec.word32.pair valueCodec) n.toNat (buf.drop pos) entries' []).mpr
          ⟨number, by rw [List.append_nil, rest]⟩
        rw [again] at front'
        cases front'
  | inr short =>
    obtain ⟨raw, s, ran, failed, front⟩ := short
    obtain ⟨r, known⟩ := Option.ne_none_iff_exists'.mp failed
    rw [Reader.new, ran, ok_bind]
    simp only [known]
    refine ⟨_, rfl, fun x => ?_⟩
    apply error_eq_ok
    intro spelled
    obtain ⟨fields, n, entries, text, -⟩ := spelled
    have back : headCodec.decode buf = some _ := (headCodec.decode_iff _ _ _).mpr text
    rw [List.drop_zero, back] at front
    cases front

end Decoding

section Enumerations

theorem unit_eq_some {v : UInt32} {u : DualUnit} : DualUnit.fromU32 v = some u ↔ v = u.code := by
  constructor
  next =>
    intro read
    rw [DualUnit.fromU32] at read
    split at read <;> cases read <;> exact UInt32.toNat_inj.mp ‹_›
  next =>
    rintro rfl
    cases u <;> rfl

theorem class_eq_some {v : UInt32} {u : DualClass} : DualClass.fromU32 v = some u ↔ v = u.code := by
  constructor
  next =>
    intro read
    rw [DualClass.fromU32] at read
    split at read <;> cases read <;> exact UInt32.toNat_inj.mp ‹_›
  next =>
    rintro rfl
    cases u <;> rfl

theorem estimateKind_eq_some {v : UInt32} {u : EstimateKind} :
    EstimateKind.fromU32 v = some u ↔ v = u.code := by
  constructor
  next =>
    intro read
    rw [EstimateKind.fromU32] at read
    split at read <;> cases read <;> exact UInt32.toNat_inj.mp ‹_›
  next =>
    rintro rfl
    cases u <;> rfl

theorem lambdaState_eq_some {v : UInt32} {u : LambdaState} : LambdaState.fromU32 v = some u ↔ v = u.code := by
  constructor
  next =>
    intro read
    rw [LambdaState.fromU32] at read
    split at read <;> cases read <;> exact UInt32.toNat_inj.mp ‹_›
  next =>
    rintro rfl
    cases u <;> rfl

end Enumerations

section Formats

/-- One kind of record: its codec, the records that pass the check, the float fields, the length of its
texts. -/
structure Format (ρ : Type) where
  decode : Bytes → Except Panic (Except Refusal ρ)
  encode : ρ → Bytes
  digest : ρ → Digest32
  Valid : ρ → Prop
  canonical : ρ → ρ
  floats : ρ → List Float64
  size : ρ → Nat

variable {ρ : Type} (f : Format ρ)

structure Format.Exact : Prop where
  total : ∀ b, ∃ result, f.decode b = .ok result
  roundTrip : ∀ x, f.Valid x → f.decode (f.encode x) = .ok (.ok (f.canonical x))
  reverse : ∀ b x, f.decode b = .ok (.ok x) → (∀ d ∈ f.floats x, d ≠ .negativeZero) → f.encode x = b
  sized : ∀ b x, f.decode b = .ok (.ok x) → b.length = f.size x
  stable : ∀ b x, f.decode b = .ok (.ok x) → ∃ y, f.decode (f.encode x) = .ok (.ok y) ∧ f.digest y = f.digest x

theorem exact_of_text {f : Format ρ} (text : ρ → Bytes)
    (decodes : ∀ b, ∃ result, f.decode b = .ok result ∧ ∀ x, result = .ok x ↔ f.Valid x ∧ b = text x)
    (encodes : ∀ x, f.encode x = text (f.canonical x)) (keeps : ∀ x, f.Valid x → f.Valid (f.canonical x))
    (twice : ∀ x, f.canonical (f.canonical x) = f.canonical x)
    (unchanged : ∀ x, (∀ d ∈ f.floats x, d ≠ .negativeZero) → f.canonical x = x)
    (lengths : ∀ x, f.Valid x → (text x).length = f.size x)
    (digests : ∀ x y, f.encode x = f.encode y → f.digest x = f.digest y) : f.Exact := by
  have accepts {b : Bytes} {x : ρ} : f.decode b = .ok (.ok x) ↔ f.Valid x ∧ b = text x := by
    obtain ⟨result, returned, means⟩ := decodes b
    rw [returned, Except.ok.injEq, means]
  have roundTrip : ∀ x, f.Valid x → f.decode (f.encode x) = .ok (.ok (f.canonical x)) := fun x valid =>
    accepts.mpr ⟨keeps x valid, encodes x⟩
  constructor
  case total => exact fun b => (decodes b).imp fun _ returned => returned.1
  case roundTrip => exact roundTrip
  case reverse =>
    intro b x accepted positive
    rw [encodes, unchanged x positive, (accepts.mp accepted).2]
  case sized =>
    intro b x accepted
    have spelled := accepts.mp accepted
    rw [spelled.2, lengths x spelled.1]
  case stable =>
    intro b x accepted
    refine ⟨f.canonical x, roundTrip x (accepts.mp accepted).1, digests _ _ ?_⟩
    rw [encodes, twice, encodes]

end Formats

section Texts

open Codec

theorem writer_f64 (d : Float64) : Writer.f64 d = patternCodec.encode d.canonical := by
  rw [Writer.f64, Float64.canonical, ite_not]
  split
  next => rfl
  next => rfl

@[simp] theorem length_block {n : Nat} (items : { items : Bytes // items.length = n }) :
    ((block n).encode items).length = n := items.property

@[simp] theorem length_word32 (v : UInt32) : (word32.encode v).length = 4 := leBytes_length 4 _

@[simp] theorem length_word (v : UInt64) : (word.encode v).length = 8 := u64Le_length v

@[simp] theorem length_pattern (d : Float64) : (patternCodec.encode d).length = 8 := u64Le_length _

theorem encode_behindHdr {α β : Type} (k : Kind) (c : Codec UInt8 α) (e : α ≃ β) (b : β) :
    (behindHdr k c e).encode b = Writer.hdr k ++ c.encode (e.symm b) := rfl

variable (hash : HexHash)

-- What a check lets pass says where it came from.
theorem spelled_iff {α ρ : Type} {check : α → Except Refusal ρ} {raw : ρ → α}
    (back : ∀ a x, check a = .ok x → a = raw x) (c : Codec UInt8 α) (b : Bytes) (x : ρ) :
    (∃ a, b = c.encode a ∧ check a = .ok x) ↔ check (raw x) = .ok x ∧ b = c.encode (raw x) := by
  constructor
  next =>
    intro spelled
    obtain ⟨a, text, checked⟩ := spelled
    have same := back a x checked
    exact ⟨same ▸ checked, same ▸ text⟩
  next => exact fun valid => ⟨raw x, valid.2, valid.1⟩

section Resources

def Resource.Valid (x : Resource) : Prop := checkResource x.resourceId x.unit.code x.scale x.contract = .ok x

def Resource.canonical (x : Resource) : Resource := { x with scale := x.scale.canonical }

def Resource.raw (x : Resource) : UInt32 × UInt32 × Float64 × Digest32 :=
  (x.resourceId, x.unit.code, x.scale, x.contract)

theorem checkResource_eq_ok (raw : UInt32 × UInt32 × Float64 × Digest32) (x : Resource) :
    checkResource raw.1 raw.2.1 raw.2.2.1 raw.2.2.2 = .ok x ↔
      raw = x.raw ∧ x.scale.isFinite ∧ ¬x.scale.atMost .zero ∧ ¬digestIsZero x.contract := by
  obtain ⟨resourceId, unit, scale, contract⟩ := raw
  obtain ⟨resourceId', unit', scale', contract'⟩ := x
  simp only [checkResource, bind_eq_ok, exists_unit, okOr_eq_ok, unit_eq_some, refuseIf_eq_ok, not_not,
    Resource.raw, pure, Except.pure, Except.ok.injEq, Resource.mk.injEq, Prod.mk.injEq]
  constructor
  next =>
    rintro ⟨u, rfl, finite, positive, present, rfl, rfl, rfl, rfl⟩
    exact ⟨⟨rfl, rfl, rfl, rfl⟩, finite, positive, present⟩
  next =>
    rintro ⟨⟨rfl, rfl, rfl, rfl⟩, finite, positive, present⟩
    exact ⟨_, rfl, finite, positive, present, rfl, rfl, rfl, rfl⟩

def resourceFormat : Format Resource where
  decode := decodeResource
  encode := encodeResource
  digest := digestResource hash
  Valid := Resource.Valid
  canonical := Resource.canonical
  floats x := [x.scale]
  size _ := 50

theorem resource_exact : (resourceFormat hash).Exact := by
  apply exact_of_text fun x => resourceCodec.encode x.raw
  case decodes =>
    intro b
    obtain ⟨result, returned, means⟩ := decodeFixed_iff parses_resource (by decide)
      (fun raw => checkResource raw.1 raw.2.1 raw.2.2.1 raw.2.2.2) b
    exact ⟨result, returned, fun x =>
      (means x).trans (spelled_iff (fun raw x checked => ((checkResource_eq_ok raw x).mp checked).1) resourceCodec b x)⟩
  case encodes =>
    intro x
    simp [resourceFormat, encodeResource, resourceCodec, encode_behindHdr, Codec.pair, writer_f64,
      Resource.canonical, Resource.raw]
    rfl
  case keeps =>
    intro x valid
    have parts := (checkResource_eq_ok x.raw x).mp valid
    apply (checkResource_eq_ok x.canonical.raw x.canonical).mpr
    simpa [Resource.canonical] using parts
  case twice =>
    intro x
    simp [resourceFormat, Resource.canonical]
  case unchanged =>
    intro x positive
    simp [resourceFormat, Resource.canonical,
      Float64.canonical_eq_self (positive x.scale (by simp [resourceFormat]))]
  case lengths =>
    intro x _
    simp [resourceFormat, resourceCodec, encode_behindHdr, Codec.pair, Writer.hdr, Writer.u8]
  case digests =>
    intro x y same
    exact congrArg (domainDigest hash DOMAIN_RESOURCE) same

end Resources

section Constraints

def ConstraintState.raw (x : ConstraintState) : RawConstraint :=
  { resourceId := x.resourceId
    unit := x.unit.code
    cls := x.class_.code
    budget := x.budget
    budgetContract := x.budgetContract
    observationRef := x.observationRef
    estimateRef := x.estimateRef
    estimateKind := x.estimateKind.code
    estimate := x.estimate
    uncertainty := x.uncertainty
    calibrationRef := x.calibrationRef
    lambda := x.lambda
    lambdaState := x.lambdaState.code
    controllerId := x.controllerId
    generation := x.generation
    tick := x.tick
    evidenceRoot := x.evidenceRoot
    parent := x.parent }

def ConstraintState.Valid (x : ConstraintState) : Prop := x.raw.check = .ok x

def ConstraintState.canonical (x : ConstraintState) : ConstraintState :=
  { x with
    budget := x.budget.canonical
    estimate := x.estimate.canonical
    uncertainty := x.uncertainty.canonical
    lambda := x.lambda.canonical }

theorem checkConstraint_eq_ok (raw : RawConstraint) (x : ConstraintState) :
    raw.check = .ok x ↔
      raw = x.raw ∧ (x.budget.isFinite ∧ x.estimate.isFinite ∧ x.uncertainty.isFinite ∧ x.lambda.isFinite) ∧
        ¬(x.uncertainty.less .zero ∨ x.lambda.less .zero) ∧
        ¬(digestIsZero x.budgetContract ∨ digestIsZero x.estimateRef ∨ digestIsZero x.controllerId ∨
          digestIsZero x.evidenceRoot) ∧
        ¬(x.estimateKind = .measured ∧ digestIsZero x.observationRef) ∧
        ¬(digestIsZero x.calibrationRef ∧ x.lambdaState = .fresh) ∧
        ¬(x.tick == 0) ≠ digestIsZero x.parent := by
  simp only [RawConstraint.check, bind_eq_ok, exists_unit, okOr_eq_ok, unit_eq_some, class_eq_some,
    estimateKind_eq_some, lambdaState_eq_some, refuseIf_eq_ok, pure, Except.pure, Except.ok.injEq]
  constructor
  next =>
    rintro ⟨u, unit, c, cls, finite, range, k, kind, l, state, present, observed, calibrated, linked, rfl⟩
    refine ⟨?_, not_not.mp finite, range, present, observed, calibrated, linked⟩
    simp only [ConstraintState.raw, ← unit, ← cls, ← kind, ← state]
  next =>
    rintro ⟨rfl, finite, range, present, observed, calibrated, linked⟩
    exact ⟨_, rfl, _, rfl, not_not.mpr finite, range, _, rfl, _, rfl, present, observed, calibrated, linked,
      rfl⟩

def constraintFormat : Format ConstraintState where
  decode := decodeConstraint
  encode := encodeConstraint
  digest := digestConstraint hash
  Valid := ConstraintState.Valid
  canonical := ConstraintState.canonical
  floats x := [x.budget, x.estimate, x.uncertainty, x.lambda]
  size _ := 294

theorem constraint_exact : (constraintFormat hash).Exact := by
  apply exact_of_text fun x => constraintCodec.encode x.raw
  case decodes =>
    intro b
    obtain ⟨result, returned, means⟩ := decodeFixed_iff parses_constraint (by decide) RawConstraint.check b
    exact ⟨result, returned, fun x =>
      (means x).trans (spelled_iff (fun raw x checked => ((checkConstraint_eq_ok raw x).mp checked).1) constraintCodec b x)⟩
  case encodes =>
    intro x
    show encodeConstraint x = _
    unfold encodeConstraint
    simp [constraintFormat, constraintCodec, encode_behindHdr, Codec.pair, writer_f64,
      ConstraintState.canonical, ConstraintState.raw, rawConstraintEquiv]
    rfl
  case keeps =>
    intro x valid
    have parts := (checkConstraint_eq_ok x.raw x).mp valid
    apply (checkConstraint_eq_ok x.canonical.raw x.canonical).mpr
    simpa [ConstraintState.canonical] using parts
  case twice =>
    intro x
    simp [constraintFormat, ConstraintState.canonical]
  case unchanged =>
    intro x positive
    simp only [constraintFormat, List.forall_mem_cons] at positive
    obtain ⟨budget, estimate, uncertainty, lambda, -⟩ := positive
    simp [constraintFormat, ConstraintState.canonical, Float64.canonical_eq_self, budget, estimate,
      uncertainty, lambda]
  case lengths =>
    intro x _
    simp [constraintFormat, constraintCodec, encode_behindHdr, Codec.pair, Writer.hdr, Writer.u8]
  case digests =>
    intro x y same
    exact congrArg (domainDigest hash DOMAIN_CONSTRAINT) same

end Constraints

section Entries

variable {α β ρ : Type}

def countedText (head : Codec UInt8 (α × UInt32)) (value : Codec UInt8 β) (fields : α)
    (entries : List (UInt32 × β)) : Bytes :=
  head.encode (fields, UInt32.ofNat entries.length) ++ entries.flatMap (word32.pair value).encode

theorem countedSpelled_iff {check : α → List (UInt32 × β) → Except Refusal ρ} {fieldsOf : ρ → α}
    {entriesOf : ρ → List (UInt32 × β)} {Valid : ρ → Prop}
    (checks : ∀ fields entries x, check fields entries = .ok x ↔ fields = fieldsOf x ∧ entries = entriesOf x ∧ Valid x)
    (counts : ∀ x, Valid x → entriesOf x ≠ [] ∧ (entriesOf x).length ≤ 32) (head : Codec UInt8 (α × UInt32))
    (value : Codec UInt8 β) (b : Bytes) (x : ρ) :
    (∃ fields n entries, b = head.encode (fields, n) ++ entries.flatMap (word32.pair value).encode ∧
        entries.length = n.toNat ∧ n ≠ 0 ∧ n ≤ MAX_RESOURCES ∧ check fields entries = .ok x) ↔
      Valid x ∧ b = countedText head value (fieldsOf x) (entriesOf x) := by
  constructor
  next =>
    rintro ⟨fields, n, entries, text, number, -, -, checked⟩
    obtain ⟨rfl, rfl, valid⟩ := (checks _ _ _).mp checked
    refine ⟨valid, ?_⟩
    rw [countedText, number, UInt32.ofNat_toNat]
    exact text
  next =>
    rintro ⟨valid, text⟩
    obtain ⟨some_, few⟩ := counts x valid
    have positive : 0 < (entriesOf x).length := List.length_pos_iff.mpr some_
    have number : (UInt32.ofNat (entriesOf x).length).toNat = (entriesOf x).length :=
      UInt32.toNat_ofNat_of_lt' (show _ < 2 ^ 32 by omega)
    refine ⟨fieldsOf x, _, entriesOf x, text, number.symm, ?_, ?_, (checks _ _ _).mpr ⟨rfl, rfl, valid⟩⟩
    · intro zero
      rw [zero] at number
      exact absurd number.symm positive.ne'
    · rw [UInt32.le_iff_toNat_le, number]
      exact few

theorem length_countedText {head : Codec UInt8 (α × UInt32)} {value : Codec UInt8 β} {front each : Nat}
    (heads : ∀ a, (head.encode a).length = front) (values : ∀ v, (value.encode v).length = each) (fields : α)
    (entries : List (UInt32 × β)) :
    (countedText head value fields entries).length = front + (4 + each) * entries.length := by
  rw [countedText, List.length_append, heads, List.length_flatMap]
  congr 1
  induction entries with
  | nil => rfl
  | cons entry rest ih =>
    rw [List.map_cons, List.sum_cons, ih, Codec.pair, List.length_append, length_word32, values,
      List.length_cons, Nat.mul_succ, Nat.add_comm]

theorem idsAscending_map {γ : Type} (f : β → γ) (entries : List (UInt32 × β)) :
    idsAscending (entries.map fun entry => (entry.1, f entry.2)) = idsAscending entries := by
  simp [idsAscending, ← List.map_tail, List.zip_map, List.all_map, Function.comp_def]

end Entries

section Controllers

def Controller.Valid (c : Controller) : Prop := checkController c = .ok ()

def Controller.canonical (c : Controller) : Controller :=
  { c with
    eta := c.eta.canonical
    rho := c.rho.canonical
    kSigma := c.kSigma.canonical
    entries := c.entries.map fun entry => (entry.1, entry.2.canonical) }

theorem controller_valid_iff (c : Controller) :
    c.Valid ↔ (c.eta.isFinite ∧ c.rho.isFinite ∧ c.kSigma.isFinite) ∧
      ¬(c.eta.less .zero ∨ c.rho.less .zero ∨ Float64.one.less c.rho ∨ c.kSigma.less .zero) ∧
      ¬(c.maxAge = 0 ∨ c.cadence = 0) ∧ ¬(c.entries = [] ∨ c.entries.length > 32) ∧ idsAscending c.entries ∧
      ∀ entry ∈ c.entries, entry.2.isFinite ∧ ¬entry.2.atMost .zero := by
  simp only [Controller.Valid, checkController, then_eq_ok, refuseIf_eq_ok, not_not, forM_eq_ok]
  rfl

def controllerFormat : Format Controller where
  decode := decodeController
  encode := encodeController
  digest := digestController hash
  Valid := Controller.Valid
  canonical := Controller.canonical
  floats c := c.eta :: c.rho :: c.kSigma :: c.entries.map Prod.snd
  size c := 46 + 12 * c.entries.length

def Controller.head (c : Controller) : Float64 × Float64 × Float64 × UInt64 × UInt64 :=
  (c.eta, c.rho, c.kSigma, c.maxAge, c.cadence)

theorem controllerOf_eq_ok (fields : Float64 × Float64 × Float64 × UInt64 × UInt64)
    (entries : List (UInt32 × Float64)) (c : Controller) :
    controllerOf fields entries = .ok c ↔ fields = c.head ∧ entries = c.entries ∧ c.Valid := by
  obtain ⟨eta, rho, kSigma, maxAge, cadence⟩ := fields
  simp only [controllerOf, then_eq_ok, pure, Except.pure, Except.ok.injEq]
  constructor
  next =>
    rintro ⟨checked, rfl⟩
    exact ⟨rfl, rfl, checked⟩
  next =>
    rintro ⟨fields, rfl, checked⟩
    cases fields
    exact ⟨checked, rfl⟩

theorem controller_counts (c : Controller) (valid : c.Valid) : c.entries ≠ [] ∧ c.entries.length ≤ 32 := by
  obtain ⟨-, -, -, counted, -⟩ := (controller_valid_iff c).mp valid
  rw [not_or, not_lt] at counted
  exact counted

theorem controller_exact : (controllerFormat hash).Exact := by
  apply exact_of_text fun c => countedText controllerCodec patternCodec c.head c.entries
  case decodes =>
    intro b
    have small : 46 + 32 * (4 + 8) < 2 ^ 64 := by decide
    obtain ⟨result, returned, means⟩ := decodeCounted_iff parses_controller parses_f64 small controllerOf b
    exact ⟨result, returned, fun c =>
      (means c).trans (countedSpelled_iff controllerOf_eq_ok controller_counts controllerCodec patternCodec b c)⟩
  case encodes =>
    intro c
    simp [controllerFormat, encodeController, countedText, controllerCodec, encode_behindHdr, Codec.pair,
      writer_f64, Controller.canonical, Controller.head, controllerEquiv, List.flatMap_map]
    rfl
  case keeps =>
    intro c valid
    have parts := (controller_valid_iff c).mp valid
    apply (controller_valid_iff c.canonical).mpr
    simpa only [Controller.canonical, idsAscending_map, List.forall_mem_map, List.map_eq_nil_iff,
      List.length_map, Float64.canonical_isFinite, Float64.canonical_less, Float64.less_canonical,
      Float64.canonical_atMost] using parts
  case twice =>
    intro c
    simp [controllerFormat, Controller.canonical]
  case unchanged =>
    intro c positive
    simp only [controllerFormat, List.forall_mem_cons, List.forall_mem_map] at positive
    obtain ⟨eta, rho, kSigma, entries⟩ := positive
    have same : (c.entries.map fun entry => (entry.1, entry.2.canonical)) = c.entries := by
      conv_rhs => rw [← List.map_id c.entries]
      apply List.map_congr_left
      intro entry member
      rw [Float64.canonical_eq_self (entries entry member)]
      rfl
    simp [controllerFormat, Controller.canonical, Float64.canonical_eq_self, eta, rho, kSigma, same]
  case lengths =>
    intro c _
    have heads (a) : (controllerCodec.encode a).length = 46 := by
      simp [controllerCodec, encode_behindHdr, Codec.pair, Writer.hdr, Writer.u8]
    exact length_countedText heads length_pattern _ _
  case digests =>
    intro x y same
    exact congrArg (domainDigest hash DOMAIN_CONTROLLER) same

end Controllers

section PriceVectors

def PriceVector.Valid (v : PriceVector) : Prop := checkPriceVector v = .ok ()

def priceVectorFormat : Format PriceVector where
  decode := decodePriceVector
  encode := encodePriceVector
  digest := digestPriceVector hash
  Valid := PriceVector.Valid
  canonical := id
  floats _ := []
  size v := 46 + 36 * v.entries.length

def PriceVector.head (v : PriceVector) : UInt64 × Digest32 := (v.generation, v.context)

theorem priceVectorOf_eq_ok (fields : UInt64 × Digest32) (entries : List (UInt32 × Digest32))
    (v : PriceVector) :
    priceVectorOf fields entries = .ok v ↔ fields = v.head ∧ entries = v.entries ∧ v.Valid := by
  obtain ⟨generation, context⟩ := fields
  simp only [priceVectorOf, then_eq_ok, pure, Except.pure, Except.ok.injEq]
  constructor
  next =>
    rintro ⟨checked, rfl⟩
    exact ⟨rfl, rfl, checked⟩
  next =>
    rintro ⟨fields, rfl, checked⟩
    cases fields
    exact ⟨checked, rfl⟩

theorem priceVector_counts (v : PriceVector) (valid : v.Valid) : v.entries ≠ [] ∧ v.entries.length ≤ 32 := by
  simp only [PriceVector.Valid, checkPriceVector, then_eq_ok, refuseIf_eq_ok, not_or, not_lt] at valid
  exact valid.2.1

theorem priceVector_exact : (priceVectorFormat hash).Exact := by
  apply exact_of_text fun v => countedText priceVectorCodec (block 32) v.head v.entries
  case decodes =>
    intro b
    have small : 46 + 32 * (4 + 32) < 2 ^ 64 := by decide
    obtain ⟨result, returned, means⟩ := decodeCounted_iff parses_priceVector parses_dig small priceVectorOf b
    exact ⟨result, returned, fun v =>
      (means v).trans (countedSpelled_iff priceVectorOf_eq_ok priceVector_counts priceVectorCodec (block 32) b v)⟩
  case encodes =>
    intro v
    simp [priceVectorFormat, encodePriceVector, countedText, priceVectorCodec, encode_behindHdr, Codec.pair]
    rfl
  case keeps => exact fun v valid => valid
  case twice => exact fun v => rfl
  case unchanged => exact fun v _ => rfl
  case lengths =>
    intro v _
    have heads (a) : (priceVectorCodec.encode a).length = 46 := by
      simp [priceVectorCodec, encode_behindHdr, Codec.pair, Writer.hdr, Writer.u8]
    exact length_countedText heads length_block _ _
  case digests =>
    intro x y same
    exact congrArg (domainDigest hash DOMAIN_PRICE_VECTOR) same

end PriceVectors

-- A digest is confirmed where it is the digest of the record that the bytes hold.
theorem verifyDigest_iff (kind : Kind) (bytes : Bytes) (expected : Digest32) :
    verifyDigest hash kind bytes expected = .ok (.ok ()) ↔
      actualDigest hash kind bytes = .ok (.ok expected) := by
  rw [verifyDigest, bind_eq_ok]
  constructor
  next =>
    intro verified
    obtain ⟨actual, read, same⟩ := verified
    rw [pure, Except.instMonad] at same
    have inner := Except.ok.inj same
    rw [bind_eq_ok] at inner
    obtain ⟨digest, decoded, equal⟩ := inner
    rw [mapError_eq_ok] at decoded
    rw [refuseIf_eq_ok, not_not] at equal
    rw [read, decoded, equal]
  next =>
    intro read
    refine ⟨_, read, ?_⟩
    simp [Except.mapError, pure, Except.pure]

/-- The codecs of the four kinds. -/
theorem dual_codec_exact :
    (resourceFormat hash).Exact ∧ (constraintFormat hash).Exact ∧ (controllerFormat hash).Exact ∧
      (priceVectorFormat hash).Exact :=
  ⟨resource_exact hash, constraint_exact hash, controller_exact hash, priceVector_exact hash⟩

end Texts

end SparkRsi.Dual
