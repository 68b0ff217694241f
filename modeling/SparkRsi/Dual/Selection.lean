import SparkRsi.Dual.Scarcity
import SparkRsi.Shared.Sha256
import Mathlib.Data.List.Perm.Basic

set_option autoImplicit false

namespace SparkRsi.Dual

open Shared ScarcityDiagnostic

section Decoding

theorem decodeConstraint_iff {bytes : Bytes} {s : ConstraintState} :
    decodeConstraint bytes = .ok (.ok s) ↔ s.Valid ∧ bytes = constraintCodec.encode s.raw := by
  obtain ⟨result, returned, means⟩ := decodeFixed_iff parses_constraint (by decide) RawConstraint.check bytes
  rw [decodeConstraint, returned, Except.ok.injEq]
  exact (means s).trans (spelled_iff (fun raw x checked => ((checkConstraint_eq_ok raw x).mp checked).1) constraintCodec bytes s)

theorem decodeConstraint_valid {bytes : Bytes} {s : ConstraintState}
    (decoded : decodeConstraint bytes = .ok (.ok s)) :
    s.Valid := (decodeConstraint_iff.mp decoded).1

theorem decodePriceVector_filled {bytes : Bytes} {v : PriceVector}
    (decoded : decodePriceVector bytes = .ok (.ok v)) :
    v.entries ≠ [] := by
  have small : 46 + 32 * (4 + 32) < 2 ^ 64 := by decide
  obtain ⟨result, returned, means⟩ := decodeCounted_iff parses_priceVector parses_dig small priceVectorOf bytes
  rw [decodePriceVector, returned, Except.ok.injEq] at decoded
  obtain ⟨fields, n, entries, _, _, _, _, checked⟩ := (means v).mp decoded
  exact (priceVector_counts v ((priceVectorOf_eq_ok fields entries v).mp checked).2.2).1

theorem valid_number {s : ConstraintState} (valid : s.Valid) : ¬s.lambda.isNaN := by
  have finite := ((checkConstraint_eq_ok s.raw s).mp valid).2.1.2.2.2
  rw [Float64.isFinite] at finite
  rw [Float64.isNaN]
  omega

theorem valid_calibrated {s : ConstraintState} (valid : s.Valid) (fresh : s.lambdaState = .fresh) :
    digestIsZero s.calibrationRef = false := by
  have calibrated := ((checkConstraint_eq_ok s.raw s).mp valid).2.2.2.2.2.1
  rw [not_and'] at calibrated
  exact Bool.eq_false_iff.mpr (calibrated fresh)

def WellFormed (bytes : Bytes) : Prop := ∃ s, decodeConstraint bytes = .ok (.ok s)

def Decodes (constraints : List Bytes) (supplied : List ConstraintState) : Prop :=
  List.Forall₂ (fun bytes s => decodeConstraint bytes = .ok (.ok s)) constraints supplied

def Refuses (constraints : List Bytes) (r : Refusal) : Prop :=
  ∃ good bytes rest, constraints = good ++ bytes :: rest ∧ (∀ b ∈ good, WellFormed b) ∧
    decodeConstraint bytes = .ok (.error r)

theorem decodes_of_wellFormed {constraints : List Bytes} (all : ∀ bytes ∈ constraints, WellFormed bytes) :
    ∃ supplied, Decodes constraints supplied := by
  induction constraints with
  | nil => exact ⟨[], List.Forall₂.nil⟩
  | cons bytes rest ih =>
    rw [List.forall_mem_cons] at all
    cases all.1 with
    | intro s first =>
      cases ih all.2 with
      | intro supplied others => exact ⟨s :: supplied, List.Forall₂.cons first others⟩

theorem wellFormed_or_refuses (hash : HexHash) (constraints : List Bytes) :
    (∀ bytes ∈ constraints, WellFormed bytes) ∨ ∃ r, Refuses constraints r := by
  induction constraints with
  | nil => exact Or.inl fun _ none => absurd none List.not_mem_nil
  | cons bytes rest ih =>
    obtain ⟨result, returned⟩ := (constraint_exact hash).total bytes
    cases result with
    | error r => exact Or.inr ⟨r, [], bytes, rest, rfl, fun _ none => absurd none List.not_mem_nil, returned⟩
    | ok s =>
      cases ih with
      | inl all => exact Or.inl (List.forall_mem_cons.mpr ⟨⟨s, returned⟩, all⟩)
      | inr one =>
        obtain ⟨r, good, bad, others, rfl, all, refused⟩ := one
        exact Or.inr ⟨r, bytes :: good, bad, others, rfl, List.forall_mem_cons.mpr ⟨⟨s, returned⟩, all⟩,
          refused⟩

variable (hash : HexHash)

theorem decodeAll_ok {constraints : List Bytes} {supplied : List ConstraintState}
    (decodes : Decodes constraints supplied) (i : Nat) :
    decodeAll hash i constraints = .ok (.ok (records hash supplied)) := by
  induction decodes generalizing i with
  | nil => rfl
  | cons first _ ih =>
    rw [decodeAll, first, ok_bind]
    simp only [ih (i + 1), ok_bind]
    rfl

theorem decodeAll_refused {constraints : List Bytes} {r : Refusal} (refuses : Refuses constraints r)
    (i : Nat) :
    ∃ detail, decodeAll hash i constraints = .ok (.error (unavailable (reasonOf r) detail)) := by
  obtain ⟨good, bytes, rest, rfl, all, refused⟩ := refuses
  induction good generalizing i with
  | nil =>
    rw [List.nil_append, decodeAll, refused]
    exact ⟨_, rfl⟩
  | cons first good ih =>
    rw [List.forall_mem_cons] at all
    obtain ⟨s, decoded⟩ := all.1
    obtain ⟨detail, later⟩ := ih (i + 1) all.2
    refine ⟨detail, ?_⟩
    rw [List.cons_append, decodeAll, decoded, ok_bind]
    simp only [later, ok_bind]
    rfl

-- A record that decodes does not change which one is refused.
theorem Refuses.insert {front back : List Bytes} {extra : Bytes} {r : Refusal} (formed : WellFormed extra)
    (refuses : Refuses (front ++ back) r) : Refuses (front ++ extra :: back) r := by
  obtain ⟨good, bytes, rest, split, all, refused⟩ := refuses
  rcases List.append_eq_append_iff.mp split with ⟨between, goodIs, backIs⟩ | ⟨between, frontIs, tailIs⟩
  next =>
    -- The refused record stands behind the new one.
    refine ⟨front ++ extra :: between, bytes, rest, ?_, ?_, refused⟩
    next => rw [backIs, List.append_assoc, List.cons_append]
    next =>
      rw [goodIs, List.forall_mem_append] at all
      rw [List.forall_mem_append, List.forall_mem_cons]
      exact ⟨all.1, formed, all.2⟩
  next =>
    cases between with
    | nil =>
      rw [List.nil_append] at tailIs
      rw [List.append_nil] at frontIs
      refine ⟨good ++ [extra], bytes, rest, ?_, ?_, refused⟩
      next => rw [frontIs, ← tailIs, List.append_assoc, List.singleton_append]
      next =>
        rw [List.forall_mem_append, List.forall_mem_singleton]
        exact ⟨all, formed⟩
    | cons head others =>
      rw [List.cons_append, List.cons.injEq] at tailIs
      refine ⟨good, bytes, others ++ extra :: back, ?_, all, refused⟩
      rw [frontIs, ← tailIs.1, List.append_assoc, List.cons_append]

end Decoding

section Selection

variable (hash : HexHash) (priceVector : Bytes) (constraints : List Bytes) (expected : Option Digest32)

def Supplied (s : ConstraintState) : Prop := ∃ bytes ∈ constraints, decodeConstraint bytes = .ok (.ok s)

/-- The vector decodes, is the expected one, and names supplied records of its resources and generation. -/
structure Verified (v : PriceVector) : Prop where
  vector : decodePriceVector priceVector = .ok (.ok v)
  digest : ∀ d ∈ expected, digestPriceVector hash v = d
  formed : ∀ bytes ∈ constraints, WellFormed bytes
  named : ∀ entry ∈ v.entries, ∃ s, Supplied constraints s ∧ digestConstraint hash s = entry.2 ∧
    s.resourceId = entry.1 ∧ s.generation = v.generation

def Named (v : PriceVector) (s : ConstraintState) : Prop :=
  Supplied constraints s ∧ ∃ entry ∈ v.entries, digestConstraint hash s = entry.2

def CollisionFree : Prop :=
  Set.InjOn hash.digest {text | ∃ s, Supplied constraints s ∧ text = utf8 DOMAIN_CONSTRAINT ++ 0 :: encodeConstraint s}

variable {hash priceVector constraints expected} {supplied : List ConstraintState}

theorem mem_decodes (decodes : Decodes constraints supplied) (s : ConstraintState) :
    s ∈ supplied ↔ Supplied constraints s := by
  constructor
  next => exact fun member => exists_of_mem_right decodes member
  next =>
    intro isSupplied
    obtain ⟨bytes, member, decoded⟩ := isSupplied
    obtain ⟨t, here, same⟩ := exists_of_mem_right decodes.flip member
    rw [decoded, Except.ok.injEq, Except.ok.injEq] at same
    rwa [same]

theorem alike_of_collisionFree (free : CollisionFree hash constraints)
    (decodes : Decodes constraints supplied) :
    Alike hash supplied := by
  intro s first t second same
  have left := (mem_decodes decodes s).mp first
  have right := (mem_decodes decodes t).mp second
  have texts := free ⟨s, left, rfl⟩ ⟨t, right, rfl⟩ (congrArg Subtype.val same)
  have encoded : encodeConstraint s = encodeConstraint t := (List.cons.inj (List.append_cancel_left texts)).2
  obtain ⟨bytes, _, decoded⟩ := left
  obtain ⟨bytes', _, decoded'⟩ := right
  have back := (constraint_exact hash).roundTrip s (decodeConstraint_valid decoded)
  have back' := (constraint_exact hash).roundTrip t (decodeConstraint_valid decoded')
  have one : decodeConstraint (encodeConstraint s) = .ok (.ok s.canonical) := back
  rw [encoded] at one
  have other : decodeConstraint (encodeConstraint t) = .ok (.ok t.canonical) := back'
  rw [one, Except.ok.injEq, Except.ok.injEq] at other
  exact other

theorem valid_of_decodes (decodes : Decodes constraints supplied) : ∀ s ∈ supplied, s.Valid := by
  intro s member
  obtain ⟨bytes, _, decoded⟩ := exists_of_mem_right decodes member
  exact decodeConstraint_valid decoded

-- Either the vector settles it, or what the constraints are does.
theorem fromRecords_cases (hash : HexHash) (priceVector : Bytes) (expected : Option Digest32) :
    (∃ reason detail, ∀ constraints, fromRecords hash priceVector constraints expected = .ok (unavailable reason detail) ∧
      ∀ v, ¬Verified hash priceVector constraints expected v) ∨
    ∃ v, decodePriceVector priceVector = .ok (.ok v) ∧ (∀ d ∈ expected, digestPriceVector hash v = d) ∧
      ∀ constraints,
        (∀ supplied, Decodes constraints supplied →
          fromRecords hash priceVector constraints expected = .ok (verdict v (records hash supplied))) ∧
        ∀ r, Refuses constraints r →
          ∃ detail, fromRecords hash priceVector constraints expected =
            .ok (unavailable (reasonOf r) detail) := by
  obtain ⟨result, returned⟩ := (priceVector_exact hash).total priceVector
  have read : decodePriceVector priceVector = .ok result := returned
  cases result with
  | error r =>
    left
    refine ⟨_, _, fun constraints => ⟨by rw [fromRecords, read]; rfl, ?_⟩⟩
    intro v verified
    have other := verified.vector
    rw [read] at other
    cases other
  | ok v =>
    cases wanted : expected.filter fun d => digestPriceVector hash v ≠ d with
    | some d =>
      left
      refine ⟨_, _, fun constraints => ⟨by rw [fromRecords, read, ok_bind]; simp only [wanted]; rfl, ?_⟩⟩
      intro v' verified
      have other := verified.vector
      rw [read, Except.ok.injEq, Except.ok.injEq] at other
      rw [Option.filter_eq_some_iff] at wanted
      exact absurd (verified.digest d wanted.1) (other ▸ of_decide_eq_true wanted.2)
    | none =>
      right
      refine ⟨v, read, ?_, ?_⟩
      next =>
        intro d member
        have kept := Option.filter_eq_none_iff.mp wanted d member
        simpa using kept
      next =>
        intro constraints
        constructor
        next =>
          intro supplied decodes
          rw [fromRecords, read, ok_bind]
          simp only [wanted, decodeAll_ok hash decodes, ok_bind, verdict]
          cases v.entries.mapM (nameState v (records hash supplied)) <;> rfl
        next =>
          intro r refuses
          obtain ⟨detail, refused⟩ := decodeAll_refused hash refuses 0
          refine ⟨detail, ?_⟩
          rw [fromRecords, read, ok_bind]
          simp only [wanted, refused, ok_bind]
          rfl

theorem verified_iff {v : PriceVector} (vector : decodePriceVector priceVector = .ok (.ok v))
    (digest : ∀ d ∈ expected, digestPriceVector hash v = d) (decodes : Decodes constraints supplied)
    {v' : PriceVector} :
    Verified hash priceVector constraints expected v' ↔ v' = v ∧ Names hash supplied v := by
  have formed : ∀ bytes ∈ constraints, WellFormed bytes := by
    intro bytes member
    obtain ⟨s, _, decoded⟩ := exists_of_mem_right decodes.flip member
    exact ⟨s, decoded⟩
  constructor
  next =>
    intro verified
    have same := verified.vector
    rw [vector, Except.ok.injEq, Except.ok.injEq] at same
    refine ⟨same.symm, ?_⟩
    intro entry member
    obtain ⟨s, isSupplied, rest⟩ := verified.named entry (same ▸ member)
    exact ⟨s, (mem_decodes decodes s).mpr isSupplied, rest.1, rest.2.1, same ▸ rest.2.2⟩
  next =>
    intro both
    obtain ⟨rfl, names⟩ := both
    refine ⟨vector, digest, formed, ?_⟩
    intro entry member
    obtain ⟨s, inside, rest⟩ := names entry member
    exact ⟨s, (mem_decodes decodes s).mp inside, rest⟩

theorem named_iff (decodes : Decodes constraints supplied) (v : PriceVector) (s : ConstraintState) :
    Named hash constraints v s ↔ NamedIn hash supplied v s := and_congr_left' (mem_decodes decodes s).symm

def Unnamed (hash : HexHash) (priceVector extra : Bytes) : Prop :=
  ∀ v s, decodePriceVector priceVector = .ok (.ok v) → decodeConstraint extra = .ok (.ok s) →
    ∀ entry ∈ v.entries, digestConstraint hash s ≠ entry.2

def Fresh (hash : HexHash) (constraints : List Bytes) (v : PriceVector) : Prop :=
  ∃ s, Named hash constraints v s ∧ s.isFreshCalibrated = true

theorem scarcity_available (free : CollisionFree hash constraints) {r : ScarcityDiagnostic}
    (done : fromRecords hash priceVector constraints expected = .ok r) :
    r.isAvailable = true ↔ ∃ v, Verified hash priceVector constraints expected v ∧
      Fresh hash constraints v := by
  rcases fromRecords_cases hash priceVector expected with ⟨reason, detail, settled⟩ | ⟨v, vector, digest, rest⟩
  next =>
    rw [(settled constraints).1, Except.ok.injEq] at done
    rw [← done]
    exact iff_of_false Bool.false_ne_true fun found => found.elim fun v both => (settled constraints).2 v both.1
  next =>
    rcases wellFormed_or_refuses hash constraints with formed | ⟨r', refuses⟩
    next =>
      obtain ⟨supplied, decodes⟩ := decodes_of_wellFormed formed
      have alike := alike_of_collisionFree free decodes
      have valid := valid_of_decodes decodes
      have numbers : ∀ s ∈ supplied, ¬s.lambda.isNaN := fun s member => valid_number (valid s member)
      rw [(rest constraints).1 supplied decodes, Except.ok.injEq] at done
      rw [← done]
      by_cases names : Names hash supplied v
      next =>
        by_cases some_ : ∃ s, NamedIn hash supplied v s ∧ s.isFreshCalibrated = true
        next =>
          obtain ⟨s, _, _, chosen, _⟩ := verdict_dominant alike numbers names some_
          rw [chosen]
          apply iff_of_true rfl
          refine ⟨v, (verified_iff vector digest decodes).mpr ⟨rfl, names⟩, ?_⟩
          exact some_.imp fun s both => ⟨(named_iff decodes v s).mpr both.1, both.2⟩
        next =>
          have none_ : ∀ s, NamedIn hash supplied v s → s.isFreshCalibrated = false := fun s isNamed =>
            Bool.eq_false_iff.mpr fun fresh => some_ ⟨s, isNamed, fresh⟩
          obtain ⟨reason, detail, chosen, _⟩ := verdict_reason alike numbers
            (fun s member => valid_calibrated (valid s member)) names (decodePriceVector_filled vector) none_
          rw [chosen]
          apply iff_of_false Bool.false_ne_true
          intro found
          obtain ⟨v', verified, s, isNamed, fresh⟩ := found
          have same := ((verified_iff vector digest decodes).mp verified).1
          exact some_ ⟨s, (named_iff decodes v s).mp (same ▸ isNamed), fresh⟩
      next =>
        obtain ⟨reason, detail, chosen⟩ := verdict_unnamed names
        rw [chosen]
        apply iff_of_false Bool.false_ne_true
        exact fun found => found.elim fun v' both => names ((verified_iff vector digest decodes).mp both.1).2
    next =>
      obtain ⟨detail, refused⟩ := (rest constraints).2 r' refuses
      rw [refused, Except.ok.injEq] at done
      rw [← done]
      apply iff_of_false Bool.false_ne_true
      intro found
      obtain ⟨v', verified, _⟩ := found
      obtain ⟨good, bytes, others, split, _, bad⟩ := refuses
      obtain ⟨s, decoded⟩ := verified.formed bytes (by simp [split])
      rw [bad] at decoded
      cases decoded

-- A verified vector is decided on the records it names.
theorem fromRecords_verified (free : CollisionFree hash constraints) {v : PriceVector}
    (verified : Verified hash priceVector constraints expected v) :
    ∃ supplied, Decodes constraints supplied ∧ Alike hash supplied ∧ Names hash supplied v ∧
      (∀ s ∈ supplied, s.Valid) ∧
      fromRecords hash priceVector constraints expected = .ok (verdict v (records hash supplied)) := by
  rcases fromRecords_cases hash priceVector expected with ⟨reason, detail, settled⟩ | ⟨v', vector, digest, rest⟩
  next => exact absurd verified ((settled constraints).2 v)
  next =>
    obtain ⟨supplied, decodes⟩ := decodes_of_wellFormed verified.formed
    obtain ⟨rfl, names⟩ := (verified_iff vector digest decodes).mp verified
    exact ⟨supplied, decodes, alike_of_collisionFree free decodes, names, valid_of_decodes decodes,
      (rest constraints).1 supplied decodes⟩

theorem scarcity_dominant (free : CollisionFree hash constraints) {r : ScarcityDiagnostic}
    (done : fromRecords hash priceVector constraints expected = .ok r) {v : PriceVector}
    (verified : Verified hash priceVector constraints expected v) (some_ : Fresh hash constraints v) :
    ∃ s, Named hash constraints v s ∧ s.isFreshCalibrated = true ∧ r = reading v s ∧
      ∀ t, Named hash constraints v t → t.isFreshCalibrated = true → s.Dominates t := by
  obtain ⟨supplied, decodes, alike, names, valid, decided⟩ := fromRecords_verified free verified
  simp only [Fresh, named_iff decodes] at some_ ⊢
  obtain ⟨s, isNamed, fresh, chosen, above⟩ :=
    verdict_dominant alike (fun s member => valid_number (valid s member)) names some_
  rw [decided, Except.ok.injEq] at done
  exact ⟨s, isNamed, fresh, done.symm.trans chosen, above⟩

theorem scarcity_reason (free : CollisionFree hash constraints) {r : ScarcityDiagnostic}
    (done : fromRecords hash priceVector constraints expected = .ok r) {v : PriceVector}
    (verified : Verified hash priceVector constraints expected v) (none_ : ¬Fresh hash constraints v) :
    ∃ reason detail, r = unavailable reason detail ∧
      FirstReason (fun st => ∃ s, Named hash constraints v s ∧ s.lambdaState = st) reason := by
  obtain ⟨supplied, decodes, alike, names, valid, decided⟩ := fromRecords_verified free verified
  simp only [Fresh, named_iff decodes] at none_ ⊢
  have stale : ∀ s, NamedIn hash supplied v s → s.isFreshCalibrated = false := fun s isNamed =>
    Bool.eq_false_iff.mpr fun fresh => none_ ⟨s, isNamed, fresh⟩
  obtain ⟨reason, detail, chosen, first⟩ :=
    verdict_reason alike (fun s member => valid_number (valid s member))
    (fun s member => valid_calibrated (valid s member)) names (decodePriceVector_filled verified.vector) stale
  rw [decided, Except.ok.injEq] at done
  exact ⟨reason, detail, done.symm.trans chosen, first⟩

theorem scarcity_permuted (free : CollisionFree hash constraints) {r : ScarcityDiagnostic}
    (done : fromRecords hash priceVector constraints expected = .ok r)
    (formed : ∀ bytes ∈ constraints, WellFormed bytes) {constraints' : List Bytes}
    (perm : constraints.Perm constraints') :
    ∃ r', fromRecords hash priceVector constraints' expected = .ok r' ∧ r'.unsigned = r.unsigned := by
  rcases fromRecords_cases hash priceVector expected with ⟨reason, detail, settled⟩ | ⟨v, vector, digest, rest⟩
  next =>
    rw [(settled constraints).1, Except.ok.injEq] at done
    exact ⟨_, (settled constraints').1, by rw [← done]⟩
  next =>
    obtain ⟨supplied, decodes⟩ := decodes_of_wellFormed formed
    obtain ⟨supplied', decodes', perm'⟩ := List.perm_comp_forall₂ perm.symm decodes
    rw [(rest constraints).1 supplied decodes, Except.ok.injEq] at done
    refine ⟨_, (rest constraints').1 supplied' decodes', ?_⟩
    rw [← done]
    exact verdict_perm (alike_of_collisionFree free decodes) perm'.symm

theorem scarcity_extended {front back : List Bytes} {r : ScarcityDiagnostic}
    (done : fromRecords hash priceVector (front ++ back) expected = .ok r) {extra : Bytes}
    (formed : WellFormed extra) (unnamed : Unnamed hash priceVector extra) :
    ∃ r', fromRecords hash priceVector (front ++ extra :: back) expected = .ok r' ∧
      ((∀ bytes ∈ front ++ back, WellFormed bytes) → r' = r) ∧
      (r' = r ∨ ∃ reason detail detail', r = unavailable reason detail ∧ r' = unavailable reason detail') := by
  rcases fromRecords_cases hash priceVector expected with ⟨reason, detail, settled⟩ | ⟨v, vector, digest, rest⟩
  next =>
    rw [(settled (front ++ back)).1, Except.ok.injEq] at done
    exact ⟨_, (settled (front ++ extra :: back)).1, fun _ => done, Or.inl done⟩
  next =>
    rcases wellFormed_or_refuses hash (front ++ back) with all | ⟨refusal, refuses⟩
    next =>
      rw [List.forall_mem_append] at all
      obtain ⟨first, firstDecodes⟩ := decodes_of_wellFormed all.1
      obtain ⟨second, secondDecodes⟩ := decodes_of_wellFormed all.2
      obtain ⟨s, decoded⟩ := formed
      rw [(rest _).1 _ (List.rel_append firstDecodes secondDecodes), Except.ok.injEq] at done
      have extended := (rest _).1 _ (List.rel_append firstDecodes (List.Forall₂.cons decoded secondDecodes))
      simp only [verdict_insert (unnamed v s vector decoded), done] at extended
      exact ⟨r, extended, fun _ => rfl, Or.inl rfl⟩
    next =>
      obtain ⟨detail, refused⟩ := (rest _).2 refusal refuses
      obtain ⟨detail', refused'⟩ := (rest _).2 refusal (refuses.insert formed)
      rw [refused, Except.ok.injEq] at done
      refine ⟨_, refused', ?_, Or.inr ⟨_, detail, detail', done.symm, rfl⟩⟩
      intro all
      obtain ⟨good, bytes, others, split, _, bad⟩ := refuses
      obtain ⟨s, decoded⟩ := all bytes (by simp [split])
      rw [bad] at decoded
      cases decoded

structure Selects (hash : HexHash) (priceVector : Bytes) (constraints : List Bytes) (expected : Option Digest32)
    (r : ScarcityDiagnostic) : Prop where
  available : r.isAvailable = true ↔ ∃ v, Verified hash priceVector constraints expected v ∧ Fresh hash constraints v
  dominant : ∀ v, Verified hash priceVector constraints expected v → Fresh hash constraints v →
    ∃ s, Named hash constraints v s ∧ s.isFreshCalibrated = true ∧ r = reading v s ∧
      ∀ t, Named hash constraints v t → t.isFreshCalibrated = true → s.Dominates t
  reason : ∀ v, Verified hash priceVector constraints expected v → ¬Fresh hash constraints v →
    ∃ reason detail, r = unavailable reason detail ∧
      FirstReason (fun st => ∃ s, Named hash constraints v s ∧ s.lambdaState = st) reason
  permuted : (∀ bytes ∈ constraints, WellFormed bytes) → ∀ constraints', constraints.Perm constraints' →
    ∃ r', fromRecords hash priceVector constraints' expected = .ok r' ∧ r'.unsigned = r.unsigned
  extended : ∀ front back extra, constraints = front ++ back → WellFormed extra → Unnamed hash priceVector extra →
    ∃ r', fromRecords hash priceVector (front ++ extra :: back) expected = .ok r' ∧
      ((∀ bytes ∈ constraints, WellFormed bytes) → r' = r) ∧
      (r' = r ∨ ∃ reason detail detail', r = unavailable reason detail ∧ r' = unavailable reason detail')

theorem fromRecords_returns (hash : HexHash) (priceVector : Bytes) (constraints : List Bytes)
    (expected : Option Digest32) :
    ∃ r, fromRecords hash priceVector constraints expected = .ok r := by
  rcases fromRecords_cases hash priceVector expected with ⟨reason, detail, settled⟩ | ⟨v, _, _, rest⟩
  next => exact ⟨_, (settled constraints).1⟩
  next =>
    rcases wellFormed_or_refuses hash constraints with formed | ⟨r, refuses⟩
    next => exact (decodes_of_wellFormed formed).elim fun supplied decodes => ⟨_, (rest constraints).1 supplied decodes⟩
    next => exact ((rest constraints).2 r refuses).elim fun detail refused => ⟨_, refused⟩

/-- The diagnostic is the dominant fresh state of a vector that verifies, and does not depend on how the
records lie but for the sign of a zero. -/
theorem scarcity_exact (free : CollisionFree hash constraints) :
    ∃ r, fromRecords hash priceVector constraints expected = .ok r ∧
      Selects hash priceVector constraints expected r := by
  obtain ⟨r, done⟩ := fromRecords_returns hash priceVector constraints expected
  refine ⟨r, done, ?_⟩
  constructor
  case available => exact scarcity_available free done
  case dominant => exact fun v => scarcity_dominant free done
  case reason => exact fun v => scarcity_reason free done
  case permuted => exact fun formed constraints' => scarcity_permuted free done formed
  case extended =>
    intro front back extra split
    rw [split] at done ⊢
    exact scarcity_extended done

end Selection

section Example

def sampleDigest (byte : UInt8) : Digest32 := ⟨List.replicate 32 byte, List.length_replicate⟩

def sampleConstraint (resourceId : UInt32) (lambda : Float64) : ConstraintState :=
  { resourceId
    unit := .ps
    class_ := .soft
    budget := .one
    budgetContract := sampleDigest 1
    observationRef := sampleDigest 2
    estimateRef := sampleDigest 3
    estimateKind := .measured
    estimate := .one
    uncertainty := .zero
    calibrationRef := sampleDigest 4
    lambda
    lambdaState := .fresh
    controllerId := sampleDigest 5
    generation := 1
    tick := 0
    evidenceRoot := sampleDigest 6
    parent := zeroDigest }

def positiveText : Bytes := constraintCodec.encode (sampleConstraint 7 .zero).raw

def negativeText : Bytes := constraintCodec.encode (sampleConstraint 7 .negativeZero).raw

def otherText : Bytes := constraintCodec.encode (sampleConstraint 8 .one).raw

def sampleVectorRecord : PriceVector :=
  { generation := 1
    context := sampleDigest 9
    entries := [(7, digestConstraint sha256 (sampleConstraint 7 .zero))] }

def sampleVector : Bytes := encodePriceVector sampleVectorRecord

def lambdaOf : Except Panic ScarcityDiagnostic → Option Float64
  | .ok (.available _ _ _ _ lambda _ _ _) => some lambda
  | _ => none

def resourceOf : Except Panic ScarcityDiagnostic → Option UInt32
  | .ok (.available resourceId ..) => some resourceId
  | _ => none

def detailOf : Except Panic ScarcityDiagnostic → Option String
  | .ok (.unavailable _ detail) => some detail
  | _ => none

theorem decode_sample (resourceId : UInt32) (lambda : Float64)
    (valid : (sampleConstraint resourceId lambda).raw.check = .ok (sampleConstraint resourceId lambda)) :
    decodeConstraint (constraintCodec.encode (sampleConstraint resourceId lambda).raw) =
      .ok (.ok (sampleConstraint resourceId lambda)) := decodeConstraint_iff.mpr ⟨valid, rfl⟩

theorem record_order_shows :
    (WellFormed positiveText ∧ WellFormed negativeText ∧
      fromRecords sha256 sampleVector [positiveText, negativeText] none ≠
        fromRecords sha256 sampleVector [negativeText, positiveText] none) ∧
    WellFormed otherText ∧ Unnamed sha256 sampleVector otherText ∧
      fromRecords sha256 sampleVector [[]] none ≠ fromRecords sha256 sampleVector [otherText, []] none := by
  have positive : lambdaOf (fromRecords sha256 sampleVector [positiveText, negativeText] none) = some .zero := by
    decide +kernel
  have negative : lambdaOf (fromRecords sha256 sampleVector [negativeText, positiveText] none) =
      some .negativeZero := by
    decide +kernel
  have first : detailOf (fromRecords sha256 sampleVector [[]] none) =
      some "constraint record 0 refused: Encoding (RxDualStatus -8)" := by decide +kernel
  have second : detailOf (fromRecords sha256 sampleVector [otherText, []] none) =
      some "constraint record 1 refused: Encoding (RxDualStatus -8)" := by decide +kernel
  have formed : WellFormed otherText := ⟨_, decode_sample 8 .one (by decide)⟩
  refine ⟨⟨⟨_, decode_sample 7 .zero (by decide)⟩, ⟨_, decode_sample 7 .negativeZero (by decide)⟩, ?_⟩,
    formed, ?_, ?_⟩
  next =>
    intro same
    rw [same, negative] at positive
    exact absurd positive (by decide)
  next =>
    intro v s vector decoded
    have valid : checkPriceVector sampleVectorRecord = .ok () := by decide +kernel
    have read : decodePriceVector sampleVector = .ok (.ok sampleVectorRecord) :=
      (priceVector_exact sha256).roundTrip sampleVectorRecord valid
    have other := decode_sample 8 .one (by decide)
    rw [read, Except.ok.injEq, Except.ok.injEq] at vector
    rw [otherText, other, Except.ok.injEq, Except.ok.injEq] at decoded
    rw [← vector, ← decoded]
    decide +kernel
  next =>
    intro same
    rw [same, second] at first
    exact absurd first (by decide)

-- Two resources at one price, in the order of their ids.
def tiedVectorRecord : PriceVector :=
  { generation := 1
    context := sampleDigest 9
    entries := [(7, digestConstraint sha256 (sampleConstraint 7 .one)),
      (8, digestConstraint sha256 (sampleConstraint 8 .one))] }

def tiedVector : Bytes := encodePriceVector tiedVectorRecord

def tiedTexts : List Bytes := [otherText, constraintCodec.encode (sampleConstraint 7 .one).raw]

theorem supplied_tied {s : ConstraintState} (supplied : Supplied tiedTexts s) :
    s = sampleConstraint 8 .one ∨ s = sampleConstraint 7 .one := by
  obtain ⟨bytes, member, decoded⟩ := supplied
  simp only [tiedTexts, List.mem_cons, List.not_mem_nil, or_false] at member
  cases member with
  | inl eight =>
    rw [eight, otherText, decode_sample 8 .one (by decide), Except.ok.injEq, Except.ok.injEq] at decoded
    exact .inl decoded.symm
  | inr seven =>
    rw [seven, decode_sample 7 .one (by decide), Except.ok.injEq, Except.ok.injEq] at decoded
    exact .inr decoded.symm

theorem scarcity_exact_tied :
    (∃ r, fromRecords sha256 tiedVector tiedTexts none = .ok r ∧ Selects sha256 tiedVector tiedTexts none r) ∧
      resourceOf (fromRecords sha256 tiedVector tiedTexts none) = some 7 := by
  have digests : sha256.digest (utf8 DOMAIN_CONSTRAINT ++ 0 :: encodeConstraint (sampleConstraint 8 .one)) ≠
      sha256.digest (utf8 DOMAIN_CONSTRAINT ++ 0 :: encodeConstraint (sampleConstraint 7 .one)) := by decide +kernel
  refine ⟨scarcity_exact ?_, by decide +kernel⟩
  rintro _ ⟨s, suppliedS, rfl⟩ _ ⟨t, suppliedT, rfl⟩ same
  cases supplied_tied suppliedS with
  | inl eight =>
    cases supplied_tied suppliedT with
    | inl also => rw [eight, also]
    | inr seven => exact absurd (eight ▸ seven ▸ same) digests
  | inr seven =>
    cases supplied_tied suppliedT with
    | inl eight => exact absurd (eight ▸ seven ▸ same.symm) digests
    | inr also => rw [seven, also]

end Example

end SparkRsi.Dual
