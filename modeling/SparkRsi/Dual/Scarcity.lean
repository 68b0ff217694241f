import SparkRsi.Dual.Exact
import Mathlib.Data.List.Induction

set_option autoImplicit false

namespace SparkRsi.Dual

open Shared

def Refusal.debug : Refusal → String
  | nonFinite => "NonFinite"
  | unit => "Unit"
  | class_ => "Class"
  | scale => "Scale"
  | range => "Range"
  | kind => "Kind"
  | encoding => "Encoding"
  | resource => "Resource"
  | digest => "Digest"
  | generation => "Generation"
  | calibration => "Calibration"

def Refusal.cStatus : Refusal → Int
  | nonFinite => -2
  | unit => -3
  | class_ => -4
  | scale => -5
  | range => -6
  | kind => -7
  | encoding => -8
  | resource => -9
  | digest => -10
  | generation => -11
  | calibration => -17

def Refusal.display (r : Refusal) : String := s!"{r.debug} (RxDualStatus {r.cStatus})"

inductive UnavailableReason where
  | missing
  | stale
  | frozen
  | uncalibrated
  | refused
  | digestMismatch
  | malformed
  deriving DecidableEq

inductive FreshState where
  | fresh
  deriving DecidableEq

inductive ScarcityDiagnostic where
  | available (resourceId : UInt32) (unit : DualUnit) (class_ : DualClass) (diagnosticOnly : Bool) (lambda : Float64)
      (generation : UInt64) (evidenceRoot : String) (state : FreshState)
  | unavailable (reason : UnavailableReason) (detail : String)
  deriving DecidableEq

def ConstraintState.isFreshCalibrated (s : ConstraintState) : Bool :=
  s.lambdaState = .fresh && !digestIsZero s.calibrationRef

namespace ScarcityDiagnostic

def isAvailable : ScarcityDiagnostic → Bool
  | available .. => true
  | unavailable .. => false

def reasonOf : Refusal → UnavailableReason
  | .kind => .malformed
  | .encoding => .malformed
  | _ => .refused

def refusal (what : String) (r : Refusal) : ScarcityDiagnostic :=
  unavailable (reasonOf r) s!"{what} refused: {r.display}"

def better (best : Option ConstraintState) (s : ConstraintState) : Option ConstraintState :=
  if !s.isFreshCalibrated then best
  else
    match best with
    | none => some s
    | some b =>
      if b.lambda.less s.lambda ∨ (s.lambda.equal b.lambda ∧ s.resourceId < b.resourceId) then some s else some b

def reading (vector : PriceVector) (b : ConstraintState) : ScarcityDiagnostic :=
  available b.resourceId b.unit b.class_ (b.class_ = .capacity) b.lambda vector.generation (hexEncode b.evidenceRoot.val)
    .fresh

def selectDominant (vector : PriceVector) (states : List ConstraintState) : ScarcityDiagnostic :=
  match states.foldl better none with
  | some b => reading vector b
  | none =>
    let has (st : LambdaState) := states.any fun s => s.lambdaState = st
    let (reason, stateName) :=
      if has .refused then (UnavailableReason.refused, "REFUSED")
      else if has .stale then (.stale, "STALE")
      else if has .frozen then (.frozen, "FROZEN")
      else (.uncalibrated, "UNCALIBRATED")
    unavailable reason
      s!"no FRESH calibrated price in a verified vector of {states.length} at generation {vector.generation}; states include {stateName}"

variable (hash : HexHash)

def decodeAll : Nat → List Bytes →
      Except Panic (Except ScarcityDiagnostic (List (Digest32 × ConstraintState)))
  | _, [] => .ok (.ok [])
  | i, bytes :: rest => do
    match ← decodeConstraint bytes with
    | .error r => return .error (refusal s!"constraint record {i}" r)
    | .ok s =>
      let others ← decodeAll (i + 1) rest
      return others.map fun others => (digestConstraint hash s, s) :: others

def nameState (vector : PriceVector) (decoded : List (Digest32 × ConstraintState))
    (entry : UInt32 × Digest32) :
    Except ScarcityDiagnostic ConstraintState :=
  match decoded.find? fun d => d.1 = entry.2 with
  | none =>
    .error (unavailable .missing
      s!"no supplied constraint record has digest {hexEncode entry.2.val} (resource {entry.1})")
  | some (_, s) =>
    if s.resourceId ≠ entry.1 then
      .error (unavailable .digestMismatch
        s!"state digest for resource {entry.1} names a record for resource {s.resourceId}")
    else if s.generation ≠ vector.generation then
      .error (unavailable .refused
        s!"resource {entry.1} generation {s.generation} differs from vector generation {vector.generation} ({Refusal.generation.display})")
    else .ok s

def fromRecords (priceVector : Bytes) (constraints : List Bytes) (expectedVectorDigest : Option Digest32) :
    Except Panic ScarcityDiagnostic := do
  match ← decodePriceVector priceVector with
  | .error r => return refusal "price vector" r
  | .ok vector =>
    let actual := digestPriceVector hash vector
    match expectedVectorDigest.filter fun expected => actual ≠ expected with
    | some expected =>
      return unavailable .digestMismatch
        s!"price vector digest {hexEncode actual.val} does not match expected {hexEncode expected.val}"
    | none =>
      match ← decodeAll hash 0 constraints with
      | .error d => return d
      | .ok decoded =>
        match vector.entries.mapM (nameState vector decoded) with
        | .error d => return d
        | .ok states => return selectDominant vector states

end ScarcityDiagnostic

open ScarcityDiagnostic

section Dominance

/-- A larger lambda, or the same one under a resource id that is not larger. -/
def ConstraintState.Dominates (s t : ConstraintState) : Prop :=
  t.lambda.less s.lambda ∨ t.lambda.equal s.lambda ∧ s.resourceId ≤ t.resourceId

variable {a b c : ConstraintState}

theorem dominates_self (number : ¬a.lambda.isNaN) : a.Dominates a :=
  Or.inr ⟨⟨number, number, rfl⟩, UInt32.le_refl _⟩

theorem ConstraintState.Dominates.trans (first : a.Dominates b) (second : b.Dominates c) : a.Dominates c := by
  rcases first with high | ⟨same, low⟩
  next =>
    rcases second with higher | ⟨equal, _⟩
    · exact Or.inl ⟨higher.1, high.2.1, higher.2.2.trans high.2.2⟩
    · exact Or.inl ⟨equal.1, high.2.1, equal.2.2 ▸ high.2.2⟩
  next =>
    rcases second with higher | ⟨equal, lower⟩
    · exact Or.inl ⟨higher.1, same.2.1, same.2.2 ▸ higher.2.2⟩
    · exact Or.inr ⟨⟨equal.1, same.2.1, equal.2.2.trans same.2.2⟩, UInt32.le_trans low lower⟩

def Best (seen : List ConstraintState) : Option ConstraintState → Prop
  | none => ∀ s ∈ seen, s.isFreshCalibrated = false
  | some b => b ∈ seen ∧ b.isFreshCalibrated = true ∧ ∀ t ∈ seen, t.isFreshCalibrated = true → b.Dominates t

theorem Best.step {seen : List ConstraintState} {best : Option ConstraintState} (known : Best seen best)
    {s : ConstraintState} (numbers : ∀ t ∈ seen ++ [s], ¬t.lambda.isNaN) :
    Best (seen ++ [s]) (better best s) := by
  have number : ¬s.lambda.isNaN := numbers s (by simp)
  unfold better
  cases fresh : s.isFreshCalibrated with
  | false =>
    cases best with
    | none =>
      intro t member
      cases List.mem_append.mp member with
      | inl old => exact known t old
      | inr new => exact List.mem_singleton.mp new ▸ fresh
    | some b =>
      refine ⟨List.mem_append_left _ known.1, known.2.1, ?_⟩
      intro t member isFresh
      cases List.mem_append.mp member with
      | inl old => exact known.2.2 t old isFresh
      | inr new =>
        rw [List.mem_singleton.mp new, fresh] at isFresh
        cases isFresh
  | true =>
    cases best with
    | none =>
      refine ⟨by simp, fresh, ?_⟩
      intro t member isFresh
      cases List.mem_append.mp member with
      | inl old =>
        rw [known t old] at isFresh
        cases isFresh
      | inr new =>
        rw [List.mem_singleton.mp new]
        exact dominates_self number
    | some b =>
      have other : ¬b.lambda.isNaN := numbers b (List.mem_append_left _ known.1)
      by_cases wins : b.lambda.less s.lambda ∨ (s.lambda.equal b.lambda ∧ s.resourceId < b.resourceId)
      next =>
        have above : s.Dominates b := by
          cases wins with
          | inl high => exact Or.inl high
          | inr tie => exact Or.inr ⟨⟨tie.1.2.1, tie.1.1, tie.1.2.2.symm⟩, UInt32.le_of_lt tie.2⟩
        simp only [Bool.not_true, Bool.false_eq_true, if_false, if_pos wins]
        refine ⟨by simp, fresh, ?_⟩
        intro t member isFresh
        cases List.mem_append.mp member with
        | inl old => exact above.trans (known.2.2 t old isFresh)
        | inr new =>
        rw [List.mem_singleton.mp new]
        exact dominates_self number
      next =>
        have above : b.Dominates s := by
          rw [not_or, not_and, UInt32.not_lt] at wins
          rcases lt_trichotomy s.lambda.rank b.lambda.rank with low | same | high
          · exact Or.inl ⟨number, other, low⟩
          · exact Or.inr ⟨⟨number, other, same⟩, wins.2 ⟨number, other, same⟩⟩
          · exact absurd ⟨other, number, high⟩ wins.1
        simp only [Bool.not_true, Bool.false_eq_true, if_false, if_neg wins]
        refine ⟨List.mem_append_left _ known.1, known.2.1, ?_⟩
        intro t member isFresh
        cases List.mem_append.mp member with
        | inl old => exact known.2.2 t old isFresh
        | inr new =>
          rw [List.mem_singleton.mp new]
          exact above

theorem best_run (states : List ConstraintState) (numbers : ∀ t ∈ states, ¬t.lambda.isNaN) :
    Best states (states.foldl better none) := by
  induction states using List.reverseRecOn with
  | nil => exact fun _ none => absurd none List.not_mem_nil
  | append_singleton states s ih =>
    rw [List.foldl_append]
    exact (ih fun t member => numbers t (List.mem_append_left _ member)).step numbers

end Dominance

section Signs

def ScarcityDiagnostic.unsigned : ScarcityDiagnostic → ScarcityDiagnostic
  | available resourceId unit class_ diagnosticOnly lambda generation evidenceRoot state =>
    available resourceId unit class_ diagnosticOnly lambda.canonical generation evidenceRoot state
  | unavailable reason detail => unavailable reason detail

theorem better_canonical (best : Option ConstraintState) (s : ConstraintState) :
    better (best.map ConstraintState.canonical) s.canonical =
      (better best s).map ConstraintState.canonical := by
  have fresh : s.canonical.isFreshCalibrated = s.isFreshCalibrated := rfl
  unfold better
  rw [fresh]
  cases s.isFreshCalibrated with
  | false => rfl
  | true =>
    cases best with
    | none => rfl
    | some b =>
      have compared : (b.canonical.lambda.less s.canonical.lambda ∨
          (s.canonical.lambda.equal b.canonical.lambda ∧ s.canonical.resourceId < b.canonical.resourceId)) ↔
          (b.lambda.less s.lambda ∨ (s.lambda.equal b.lambda ∧ s.resourceId < b.resourceId)) := by
        simp [ConstraintState.canonical, Float64.equal, Float64.canonical_rank]
      simp only [Bool.not_true, Bool.false_eq_true, if_false, Option.map_some, compared]
      split
      next => rfl
      next => rfl

theorem best_canonical (states : List ConstraintState) (best : Option ConstraintState) :
    (states.map ConstraintState.canonical).foldl better (best.map ConstraintState.canonical) =
      (states.foldl better best).map ConstraintState.canonical := by
  induction states generalizing best with
  | nil => rfl
  | cons s rest ih => rw [List.map_cons, List.foldl_cons, better_canonical, ih, List.foldl_cons]

theorem selectDominant_canonical (vector : PriceVector) (states : List ConstraintState) :
    selectDominant vector (states.map ConstraintState.canonical) =
      (selectDominant vector states).unsigned := by
  have found := best_canonical states none
  rw [Option.map_none] at found
  have carried (st : LambdaState) : (states.map ConstraintState.canonical).any (fun s => s.lambdaState = st) =
      states.any fun s => s.lambdaState = st := by
    rw [List.any_map]
    rfl
  unfold selectDominant
  rw [found, List.length_map]
  cases states.foldl better none with
  | some b => rfl
  | none =>
    simp only [Option.map_none, carried]
    rfl

end Signs

section Naming

variable (hash : HexHash)

def verdict (vector : PriceVector) (decoded : List (Digest32 × ConstraintState)) : ScarcityDiagnostic :=
  match vector.entries.mapM (nameState vector decoded) with
  | .error d => d
  | .ok states => selectDominant vector states

theorem verdict_congr {vector : PriceVector} {decoded decoded' : List (Digest32 × ConstraintState)}
    (same : ∀ entry ∈ vector.entries,
      decoded.find? (fun d => d.1 = entry.2) = decoded'.find? fun d => d.1 = entry.2) :
    verdict vector decoded = verdict vector decoded' := by
  have named : vector.entries.mapM (nameState vector decoded) =
      vector.entries.mapM (nameState vector decoded') := by
    apply mapM_congr
    intro entry member
    rw [nameState, nameState, same entry member]
  rw [verdict, verdict, named]

def unsignedRecord (d : Digest32 × ConstraintState) : Digest32 × ConstraintState := (d.1, d.2.canonical)

theorem nameState_canonical (vector : PriceVector) (decoded : List (Digest32 × ConstraintState))
    (entry : UInt32 × Digest32) :
    nameState vector (decoded.map unsignedRecord) entry =
      (nameState vector decoded entry).map ConstraintState.canonical := by
  have found : (decoded.map unsignedRecord).find? (fun d => d.1 = entry.2) =
      (decoded.find? fun d => d.1 = entry.2).map unsignedRecord := List.find?_map
  rw [nameState, nameState, found]
  cases decoded.find? fun d => d.1 = entry.2 with
  | none => rfl
  | some d =>
    have resource : d.2.canonical.resourceId = d.2.resourceId := rfl
    have generation : d.2.canonical.generation = d.2.generation := rfl
    simp only [Option.map_some, unsignedRecord, resource, generation]
    split
    next => rfl
    next =>
      split
      next => rfl
      next => rfl

theorem nameState_error {vector : PriceVector} {decoded : List (Digest32 × ConstraintState)}
    {entry : UInt32 × Digest32} {d : ScarcityDiagnostic}
    (failed : nameState vector decoded entry = .error d) :
    ∃ reason detail, d = unavailable reason detail := by
  unfold nameState at failed
  split at failed
  next =>
    cases failed
    exact ⟨_, _, rfl⟩
  next =>
    split at failed
    next =>
      cases failed
      exact ⟨_, _, rfl⟩
    next =>
      split at failed
      next =>
        cases failed
        exact ⟨_, _, rfl⟩
      next => cases failed

theorem verdict_canonical (vector : PriceVector) (decoded : List (Digest32 × ConstraintState)) :
    verdict vector (decoded.map unsignedRecord) = (verdict vector decoded).unsigned := by
  have named : vector.entries.mapM (nameState vector (decoded.map unsignedRecord)) =
      (vector.entries.mapM (nameState vector decoded)).map fun states => states.map ConstraintState.canonical := by
    induction vector.entries with
    | nil => rfl
    | cons entry rest ih =>
      rw [List.mapM_cons, List.mapM_cons, nameState_canonical, ih]
      cases nameState vector decoded entry with
      | error d => rfl
      | ok s => cases rest.mapM (nameState vector decoded) <;> rfl
  unfold verdict
  rw [named]
  cases all : vector.entries.mapM (nameState vector decoded) with
  | ok states => exact selectDominant_canonical vector states
  | error d =>
    obtain ⟨entry, _, failed⟩ := mapM_eq_error all
    obtain ⟨reason, detail, rfl⟩ := nameState_error failed
    rfl

def records (supplied : List ConstraintState) : List (Digest32 × ConstraintState) :=
  supplied.map fun s => (digestConstraint hash s, s)

def Names (supplied : List ConstraintState) (vector : PriceVector) : Prop :=
  ∀ entry ∈ vector.entries, ∃ s ∈ supplied, digestConstraint hash s = entry.2 ∧ s.resourceId = entry.1 ∧
    s.generation = vector.generation

def NamedIn (supplied : List ConstraintState) (vector : PriceVector) (s : ConstraintState) : Prop :=
  s ∈ supplied ∧ ∃ entry ∈ vector.entries, digestConstraint hash s = entry.2

def Alike (supplied : List ConstraintState) : Prop :=
  ∀ s ∈ supplied, ∀ t ∈ supplied, digestConstraint hash s = digestConstraint hash t → s.canonical = t.canonical

variable {hash} {supplied : List ConstraintState} {vector : PriceVector}

theorem kept_fields {s t : ConstraintState} (same : s.canonical = t.canonical) :
    s.resourceId = t.resourceId ∧ s.generation = t.generation ∧ s.lambdaState = t.lambdaState ∧
      s.calibrationRef = t.calibrationRef ∧ s.lambda.canonical = t.lambda.canonical := by
  simp only [ConstraintState.canonical, ConstraintState.mk.injEq] at same
  tauto

theorem find_record {d : Digest32} {record : Digest32 × ConstraintState}
    (found : (records hash supplied).find? (fun record => record.1 = d) = some record) :
    record.2 ∈ supplied ∧ digestConstraint hash record.2 = d ∧ record.1 = d := by
  have digest : record.1 = d := by simpa using List.find?_some found
  obtain ⟨s, member, rfl⟩ := List.mem_map.mp (List.mem_of_find?_eq_some found)
  exact ⟨member, digest, digest⟩

theorem nameState_named {entry : UInt32 × Digest32} {s : ConstraintState}
    (named : nameState vector (records hash supplied) entry = .ok s) :
    s ∈ supplied ∧ digestConstraint hash s = entry.2 ∧ s.resourceId = entry.1 ∧
      s.generation = vector.generation := by
  unfold nameState at named
  split at named
  next => cases named
  next digest state found =>
    split at named
    next => cases named
    next resource =>
      split at named
      next => cases named
      next generation =>
        cases named
        have record := find_record found
        exact ⟨record.1, record.2.1, not_not.mp resource, not_not.mp generation⟩

theorem nameState_exists (alike : Alike hash supplied) {entry : UInt32 × Digest32} {t : ConstraintState}
    (member : t ∈ supplied) (digest : digestConstraint hash t = entry.2) (resource : t.resourceId = entry.1)
    (generation : t.generation = vector.generation) :
    ∃ s, nameState vector (records hash supplied) entry = .ok s := by
  unfold nameState
  cases found : (records hash supplied).find? fun record => record.1 = entry.2 with
  | none =>
    have missing := List.find?_eq_none.mp found (digestConstraint hash t, t) (List.mem_map_of_mem member)
    exact absurd (decide_eq_true digest) missing
  | some record =>
    have known := find_record found
    have same := alike record.2 known.1 t member (known.2.1.trans digest.symm)
    have kept := kept_fields same
    simp only [kept.1, kept.2.1, resource, generation, ne_eq, not_true_eq_false, if_false]
    exact ⟨_, rfl⟩

-- The states of a verified vector are the named records, up to the signs of zeros.
theorem states_of_names (alike : Alike hash supplied) (names : Names hash supplied vector) :
    ∃ states, vector.entries.mapM (nameState vector (records hash supplied)) = .ok states ∧
      (∀ s ∈ states, NamedIn hash supplied vector s) ∧
      ∀ t, NamedIn hash supplied vector t → ∃ s ∈ states, s.canonical = t.canonical := by
  have each : ∀ entry ∈ vector.entries, ∃ s, nameState vector (records hash supplied) entry = .ok s := by
    intro entry member
    obtain ⟨t, inside, digest, resource, generation⟩ := names entry member
    exact nameState_exists alike inside digest resource generation
  obtain ⟨states, named⟩ := exists_mapM each
  have pairs := mapM_eq_ok.mp named
  refine ⟨states, named, ?_, ?_⟩
  next =>
    intro s member
    obtain ⟨entry, inside, from_⟩ := exists_of_mem_right pairs member
    have known := nameState_named from_
    exact ⟨known.1, entry, inside, known.2.1⟩
  next =>
    intro t isNamed
    obtain ⟨member, entry, inside, digest⟩ := isNamed
    obtain ⟨s, here, from_⟩ := exists_of_mem_right pairs.flip inside
    have known := nameState_named from_
    exact ⟨s, here, alike s known.1 t member (known.2.1.trans digest.symm)⟩

theorem fresh_congr {s t : ConstraintState} (same : s.canonical = t.canonical) :
    s.isFreshCalibrated = t.isFreshCalibrated := by
  have kept := kept_fields same
  rw [ConstraintState.isFreshCalibrated, ConstraintState.isFreshCalibrated, kept.2.2.1, kept.2.2.2.1]

theorem dominates_congr {s t u : ConstraintState} (same : t.canonical = u.canonical) (above : s.Dominates t) :
    s.Dominates u := by
  have kept := kept_fields same
  rw [ConstraintState.Dominates, ← Float64.canonical_less, ← Float64.canonical_equal, kept.2.2.2.2,
    kept.1] at above
  rwa [ConstraintState.Dominates, ← Float64.canonical_less, ← Float64.canonical_equal]

theorem verdict_dominant (alike : Alike hash supplied) (numbers : ∀ s ∈ supplied, ¬s.lambda.isNaN)
    (names : Names hash supplied vector)
    (some_ : ∃ s, NamedIn hash supplied vector s ∧ s.isFreshCalibrated = true) :
    ∃ s, NamedIn hash supplied vector s ∧ s.isFreshCalibrated = true ∧
      verdict vector (records hash supplied) = reading vector s ∧
      ∀ t, NamedIn hash supplied vector t → t.isFreshCalibrated = true → s.Dominates t := by
  obtain ⟨states, named, inside, covered⟩ := states_of_names alike names
  have best := best_run states fun t member => numbers t (inside t member).1
  have decided : verdict vector (records hash supplied) = selectDominant vector states := by
    rw [verdict, named]
  rw [decided]
  unfold selectDominant
  cases found : states.foldl better none with
  | none =>
    rw [found] at best
    obtain ⟨t, isNamed, fresh⟩ := some_
    obtain ⟨s, here, same⟩ := covered t isNamed
    rw [← fresh_congr same, best s here] at fresh
    cases fresh
  | some b =>
    rw [found] at best
    refine ⟨b, inside b best.1, best.2.1, rfl, ?_⟩
    intro t isNamed fresh
    obtain ⟨s, here, same⟩ := covered t isNamed
    exact dominates_congr same (best.2.2 s here ((fresh_congr same).trans fresh))

/-- The first reason that applies, in the order of precedence. -/
def FirstReason (carried : LambdaState → Prop) : UnavailableReason → Prop
  | .refused => carried .refused
  | .stale => ¬carried .refused ∧ carried .stale
  | .frozen => ¬carried .refused ∧ ¬carried .stale ∧ carried .frozen
  | .uncalibrated => ¬carried .refused ∧ ¬carried .stale ∧ ¬carried .frozen ∧ carried .uncalibrated
  | _ => False

theorem verdict_reason (alike : Alike hash supplied) (numbers : ∀ s ∈ supplied, ¬s.lambda.isNaN)
    (calibrated : ∀ s ∈ supplied, s.lambdaState = .fresh →
      digestIsZero s.calibrationRef = false) (names : Names hash supplied vector) (filled : vector.entries ≠ [])
    (none_ : ∀ s, NamedIn hash supplied vector s → s.isFreshCalibrated = false) :
    ∃ reason detail, verdict vector (records hash supplied) = unavailable reason detail ∧
      FirstReason (fun st => ∃ s, NamedIn hash supplied vector s ∧ s.lambdaState = st) reason := by
  obtain ⟨states, named, inside, covered⟩ := states_of_names alike names
  have carried (st : LambdaState) : (states.any fun s => s.lambdaState = st) = true ↔
      ∃ s, NamedIn hash supplied vector s ∧ s.lambdaState = st := by
    simp only [List.any_eq_true, decide_eq_true_eq]
    constructor
    next => exact fun found => found.imp fun s here => ⟨inside s here.1, here.2⟩
    next =>
      intro found
      obtain ⟨t, isNamed, state⟩ := found
      obtain ⟨s, here, same⟩ := covered t isNamed
      exact ⟨s, here, (kept_fields same).2.2.1.trans state⟩
  have notFresh : ∀ s ∈ states, s.lambdaState ≠ .fresh := by
    intro s member fresh
    have isNamed := inside s member
    have stale := none_ s isNamed
    simp [ConstraintState.isFreshCalibrated, fresh, calibrated s isNamed.1 fresh] at stale
  have best := best_run states fun t member => numbers t (inside t member).1
  have unpicked : states.foldl better none = none := by
    cases found : states.foldl better none with
    | none => rfl
    | some b =>
      rw [found] at best
      have stale := none_ b (inside b best.1)
      rw [best.2.1] at stale
      cases stale
  have some_ : ∃ s, s ∈ states := by
    cases entries : vector.entries with
    | nil => exact absurd entries filled
    | cons entry rest =>
      rw [entries, mapM_eq_ok] at named
      cases named with
      | cons _ _ => exact ⟨_, List.mem_cons_self⟩
  have decided : verdict vector (records hash supplied) = selectDominant vector states := by
    rw [verdict, named]
  rw [decided]
  unfold selectDominant
  rw [unpicked]
  -- The states in the order of precedence.
  by_cases refused : (states.any fun s => s.lambdaState = .refused) = true
  next =>
    simp only [if_pos refused]
    exact ⟨_, _, rfl, (carried _).mp refused⟩
  next =>
    by_cases stale : (states.any fun s => s.lambdaState = .stale) = true
    next =>
      simp only [if_neg refused, if_pos stale]
      exact ⟨_, _, rfl, mt (carried _).mpr refused, (carried _).mp stale⟩
    next =>
      by_cases frozen : (states.any fun s => s.lambdaState = .frozen) = true
      next =>
        simp only [if_neg refused, if_neg stale, if_pos frozen]
        exact ⟨_, _, rfl, mt (carried _).mpr refused, mt (carried _).mpr stale, (carried _).mp frozen⟩
      next =>
        simp only [if_neg refused, if_neg stale, if_neg frozen]
        refine ⟨_, _, rfl, mt (carried _).mpr refused, mt (carried _).mpr stale, mt (carried _).mpr frozen,
          ?_⟩
        obtain ⟨s, member⟩ := some_
        apply (carried _).mp
        rw [List.any_eq_true]
        refine ⟨s, member, ?_⟩
        have others (st : LambdaState) (missing : ¬(states.any fun s => s.lambdaState = st) = true) : s.lambdaState ≠ st :=
          fun here => missing (List.any_eq_true.mpr ⟨s, member, decide_eq_true here⟩)
        have notRefused := others _ refused
        have notStale := others _ stale
        have notFrozen := others _ frozen
        have fresh := notFresh s member
        cases state : s.lambdaState <;> simp_all

theorem verdict_unnamed (unnamed : ¬Names hash supplied vector) :
    ∃ reason detail, verdict vector (records hash supplied) = unavailable reason detail := by
  unfold verdict
  cases named : vector.entries.mapM (nameState vector (records hash supplied)) with
  | error d =>
    obtain ⟨entry, _, failed⟩ := mapM_eq_error named
    exact nameState_error failed
  | ok states =>
    apply absurd _ unnamed
    intro entry member
    obtain ⟨s, _, from_⟩ := exists_of_mem_right (mapM_eq_ok.mp named).flip member
    exact ⟨s, nameState_named from_⟩

theorem find?_perm {α : Type} {p : α → Bool} {xs ys : List α} (perm : xs.Perm ys)
    (unique : ∀ a ∈ xs, ∀ b ∈ xs, p a = true → p b = true → a = b) : xs.find? p = ys.find? p := by
  cases first : xs.find? p with
  | none =>
    symm
    rw [List.find?_eq_none] at first ⊢
    exact fun a member => first a (perm.mem_iff.mpr member)
  | some a =>
    cases second : ys.find? p with
    | none => exact absurd (List.find?_some first) (List.find?_eq_none.mp second a (perm.mem_iff.mp (List.mem_of_find?_eq_some first)))
    | some b =>
      rw [unique a (List.mem_of_find?_eq_some first) b (perm.mem_iff.mpr (List.mem_of_find?_eq_some second))
        (List.find?_some first) (List.find?_some second)]

theorem verdict_perm {supplied' : List ConstraintState} (alike : Alike hash supplied)
    (perm : supplied.Perm supplied') :
    (verdict vector (records hash supplied')).unsigned =
      (verdict vector (records hash supplied)).unsigned := by
  rw [← verdict_canonical, ← verdict_canonical]
  symm
  apply verdict_congr
  intro entry _
  apply find?_perm ((perm.map _).map unsignedRecord)
  intro a first b second digest digest'
  simp only [List.map_map, List.mem_map, Function.comp_apply, unsignedRecord] at first second
  obtain ⟨s, member, rfl⟩ := first
  obtain ⟨t, member', rfl⟩ := second
  have equal : digestConstraint hash s = digestConstraint hash t :=
    (of_decide_eq_true digest).trans (of_decide_eq_true digest').symm
  simp only [equal, alike s member t member' equal]

theorem verdict_insert {front back : List ConstraintState} {extra : ConstraintState}
    (unnamed : ∀ entry ∈ vector.entries, digestConstraint hash extra ≠ entry.2) :
    verdict vector (records hash (front ++ extra :: back)) =
      verdict vector (records hash (front ++ back)) := by
  apply verdict_congr
  intro entry member
  simp only [records, List.map_append, List.map_cons, List.find?_append, List.find?_cons]
  rw [decide_eq_false (unnamed entry member)]

end Naming

end SparkRsi.Dual
