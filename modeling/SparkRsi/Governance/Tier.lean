import SparkRsi.Governance.Paths
import SparkRsi.Ledger.Merkle
import SparkRsi.Shared.Sha256

set_option autoImplicit false

namespace SparkRsi.Governance

open Shared Ledger

inductive CandidateTier where
  | tier1Target
  | tier2Engine
  deriving DecidableEq

inductive ProposalKind where
  | refactor
  | documentation
  | optimization
  | unslopSanitization
  | invariantFix
  | metaEngineImprovement
  deriving DecidableEq

structure ImprovementProposal where
  targetFile : String
  proposedPatch : String
  kind : ProposalKind
  operatorSignature : Option String

def trimDotSlashes : List Char → List Char
  | '.' :: '/' :: rest => trimDotSlashes rest
  | text => text

def trimTarget (targetFile : String) : List Char := (trimDotSlashes targetFile.toList).dropWhile (· = '/')

namespace TierGovernance

def enginePrefixes : List String :=
  ["src/daemon.rs", "src/models.rs", "src/observe.rs", "src/propose", "src/graph", "src/balance", "src/meta",
    "src/ratify.rs", "src/supervisor", "src/actor", "src/evaluator", "src/isolation", "src/ledger", "src/verifier"]

def immutableEngineBoundaries : List String :=
  ["tests", "src/evaluator", "src/isolation", "src/ledger", ".rsi/holdouts", "CONSTITUTION.md", "LICENSE"]

def hits (target : List Char) (named : String) : Bool :=
  target = named.toList || named.toList.isPrefixOf target

def classifyProposal (proposal : ImprovementProposal) : CandidateTier :=
  if proposal.kind = .metaEngineImprovement then .tier2Engine
  else if enginePrefixes.any (hits (trimTarget proposal.targetFile)) then .tier2Engine
  else .tier1Target

def boundaryViolation (boundary : String) : String :=
  s!"Tier 2 Engine Invariant Violation: Candidate Engine N+1 cannot modify immutable boundary '{boundary}'. Scoring rules, containment, tests, and holdouts are strictly immutable."

def validateTier2CandidateBoundaries (targetFile : String) : Except String Unit :=
  match immutableEngineBoundaries.find? (hits (trimTarget targetFile)) with
  | some boundary => .error (boundaryViolation boundary)
  | none => .ok ()

end TierGovernance

section Gates

variable (debug : Debug) (sha : HexHash) (ecdsa : Ecdsa) (fromSec1Bytes : Bytes → Option ecdsa.VerifyingKey)

def verifyOperatorAuthorization (proposalDigest : Bytes) (signatureHex : String)
    (verifyingKey : ecdsa.VerifyingKey) :
    Bool :=
  match (ecdsa.hexDecode signatureHex).bind ecdsa.fromSlice with
  | none => false
  | some signature => ecdsa.verify verifyingKey proposalDigest signature

def candidateGates (ratifyRoots : List String) (operatorKeyHex : Option String)
    (candidate : ImprovementProposal) :
    Except String Unit := do
  let _ ← (checkDeclaredTarget debug candidate.targetFile ratifyRoots).mapError fun e => s!"Declared target refused: {e}"
  if TierGovernance.classifyProposal candidate = .tier2Engine then
    let opKeyHex ← okOr "Tier 2 candidate refused: no operator key configured" operatorKeyHex
    (TierGovernance.validateTier2CandidateBoundaries candidate.targetFile).mapError fun e =>
      s!"Tier 2 Invariant Rejected: {e}"
    let keyBytes ← okOr "Invalid operator_key_hex" (ecdsa.hexDecode opKeyHex)
    let opKey ← okOr "Invalid operator verifying key" (fromSec1Bytes keyBytes)
    refuseIf (verifyOperatorAuthorization ecdsa (sha.digest (utf8 candidate.proposedPatch))
      (candidate.operatorSignature.getD "") opKey = false) "Operator signature unauthorized"

end Gates

theorem splitOn_dot_slash (rest : List Char) :
    ('.' :: '/' :: rest).splitOn '/' = ['.'] :: rest.splitOn '/' := by
  have clean : '/' ∉ ['.'] := by decide
  exact Parts.splitOn_part_sep '/' clean rest

theorem trimDotSlashes_parts (text : List Char) :
    ((trimDotSlashes text).splitOn '/').filter isNamed = (text.splitOn '/').filter isNamed := by
  fun_induction trimDotSlashes text with
  | case1 rest ih =>
    rw [ih, splitOn_dot_slash, List.filter_cons_of_neg (by decide)]
  | case2 => rfl

theorem dropSlashes_parts (text : List Char) :
    ((text.dropWhile (· = '/')).splitOn '/').filter isNamed = (text.splitOn '/').filter isNamed := by
  induction text with
  | nil => rfl
  | cons c rest ih =>
    by_cases slash : c = '/'
    · rw [slash, Parts.splitOn_cons_sep, List.filter_cons_of_neg (by decide),
        List.dropWhile_cons_of_pos (by simp), ih]
    · rw [List.dropWhile_cons_of_neg (by simpa using slash)]

-- Trimming takes unnamed components only.
theorem trimTarget_parts (raw : String) :
    ((trimTarget raw).splitOn '/').filter isNamed = (components raw).filter isNamed := by
  rw [trimTarget, dropSlashes_parts, trimDotSlashes_parts, components]

-- A path whose first component is named is not trimmed.
theorem trimTarget_normal {raw r : String} (normal : Normal raw r) : trimTarget r = r.toList := by
  have joined : r.toList = Parts.join '/' (components r) := (Parts.join_splitOn '/' r.toList).symm
  obtain ⟨first, rest, split⟩ := List.exists_cons_of_ne_nil normal.nonempty
  have named := normal.named first (by simp [split])
  have clean : '/' ∉ first := components_clean (by rw [split]; exact List.mem_cons_self)
  have undotted : trimDotSlashes r.toList = r.toList := by
    unfold trimDotSlashes
    split
    · rename_i tail text
      rw [components, text, splitOn_dot_slash] at split
      obtain ⟨rfl, -⟩ := List.cons.inj split
      cases named
    · rfl
  rw [trimTarget, undotted]
  cases first with
  | nil => cases named
  | cons c others =>
    have head : ∃ tail, r.toList = c :: tail := by
      rw [joined, split]
      cases rest with
      | nil => exact ⟨others, by simp⟩
      | cons next more => exact ⟨_, by rw [Parts.join_cons '/' _ (by simp)]; rfl⟩
    obtain ⟨tail, text⟩ := head
    rw [text, List.dropWhile_cons_of_neg]
    intro slash
    exact clean (by simp [of_decide_eq_true slash])

/-- No component that the named prefix reaches in the trimmed target is empty or a dot. -/
def LeadsPlainly (raw named : String) : Prop :=
  ∀ part ∈ ((trimTarget raw).splitOn '/').take (components named).length, isNamed part = true

instance (raw named : String) : Decidable (LeadsPlainly raw named) := by unfold LeadsPlainly; infer_instance

def SpelledPlainly (proposal : ImprovementProposal) (r : String) : Prop :=
  (proposal.kind ≠ .metaEngineImprovement →
    ∀ engine ∈ TierGovernance.enginePrefixes, engine.toList <+: r.toList → LeadsPlainly proposal.targetFile engine) ∧
  ∀ boundary ∈ TierGovernance.immutableEngineBoundaries, boundary.toList <+: r.toList →
    LeadsPlainly proposal.targetFile boundary

namespace TierGovernance

theorem hits_iff {target : List Char} {named : String} :
    hits target named = true ↔ named.toList <+: target := by
  rw [hits, Bool.or_eq_true, decide_eq_true_iff, List.isPrefixOf_iff_prefix]
  constructor
  · rintro (rfl | starts)
    · exact List.prefix_rfl
    · exact starts
  · exact .inr

theorem isNamed_of_prefix {part longer : List Char} (named : isNamed part = true) (starts : part <+: longer) :
    isNamed longer = true := by
  rw [isNamed_iff] at named ⊢
  rintro (rfl | rfl)
  · exact named (.inl (List.prefix_nil.mp starts))
  · cases part with
    | nil => exact named (.inl rfl)
    | cons c others =>
      obtain ⟨rfl, behind⟩ := List.cons_prefix_cons.mp starts
      exact named (.inr (by rw [List.prefix_nil.mp behind]))

-- The raw text begins with a named prefix exactly when its normal form does and the prefix is spelled
-- plainly.
theorem hits_trimTarget_iff {raw r named : String} (normal : Normal raw r) (nonempty : components named ≠ [])
    (plain : ∀ part ∈ components named, isNamed part = true) :
    hits (trimTarget raw) named = true ↔ hits (trimTarget r) named = true ∧ LeadsPlainly raw named := by
  have parts := trimTarget_parts raw
  have text : named.toList = Parts.join '/' (components named) := (Parts.join_splitOn '/' named.toList).symm
  have joined : Parts.join '/' ((components raw).filter isNamed) = r.toList := by
    rw [← normal.parts]
    exact Parts.join_splitOn '/' r.toList
  have filtered := Parts.prefix_iff_filtered '/' isNamed (trimTarget raw) nonempty
    (fun part member => components_clean member)
    (fun part member longer starts => isNamed_of_prefix (plain part member) starts)
    (by rw [parts, ← normal.parts]; exact normal.nonempty)
  rw [parts, joined, ← text] at filtered
  rw [hits_iff, hits_iff, trimTarget_normal normal, LeadsPlainly]
  exact filtered

section OneHit

variable {names : List String} {broad narrow : String → Bool}

theorem any_eq_iff (within : ∀ p ∈ names, narrow p = true → broad p = true)
    (one : ∀ p ∈ names, ∀ q ∈ names, broad p = true → broad q = true → p = q) :
    names.any narrow = names.any broad ↔ ∀ p ∈ names, broad p = true → narrow p = true := by
  constructor
  · intro same p member hit
    have found : names.any narrow = true := by
      rw [same]
      exact List.any_eq_true.mpr ⟨p, member, hit⟩
    obtain ⟨q, inside, narrowHit⟩ := List.any_eq_true.mp found
    exact one q inside p member (within q inside narrowHit) hit ▸ narrowHit
  · intro agree
    rw [Bool.eq_iff_iff, List.any_eq_true, List.any_eq_true]
    constructor
    · rintro ⟨p, member, hit⟩
      exact ⟨p, member, within p member hit⟩
    · rintro ⟨p, member, hit⟩
      exact ⟨p, member, agree p member hit⟩

theorem find?_eq_of_agree (within : ∀ p ∈ names, narrow p = true → broad p = true)
    (agree : ∀ p ∈ names, broad p = true → narrow p = true) : names.find? narrow = names.find? broad := by
  induction names with
  | nil => rfl
  | cons p rest ih =>
    have here : narrow p = broad p := Bool.eq_iff_iff.mpr ⟨within p (by simp), agree p (by simp)⟩
    rw [List.find?_cons, List.find?_cons, here, ih (fun q member => within q (List.mem_cons_of_mem _ member))
      (fun q member => agree q (List.mem_cons_of_mem _ member))]

end OneHit

-- Every prefix the tiers ask for is a clean path, and none of them begins another.
theorem prefixes_clean : ∀ names ∈ [enginePrefixes, immutableEngineBoundaries],
    (∀ named ∈ names, components named ≠ [] ∧ ∀ part ∈ components named, isNamed part = true) ∧
      ∀ p ∈ names, ∀ q ∈ names, p.toList <+: q.toList → p = q := by
  decide

theorem one_hit {names : List String} (apart : ∀ p ∈ names, ∀ q ∈ names, p.toList <+: q.toList → p = q)
    (target : List Char) : ∀ p ∈ names, ∀ q ∈ names, hits target p = true → hits target q = true → p = q := by
  intro p member q inside first second
  rw [hits_iff] at first second
  rcases le_total p.toList.length q.toList.length with short | long
  · exact apart p member q inside (List.prefix_of_prefix_length_le first second short)
  · exact (apart q inside p member (List.prefix_of_prefix_length_le second first long)).symm

section Answers

variable {raw r : String} {names : List String}

theorem plain_iff (normal : Normal raw r) (clean : ∀ named ∈ names, components named ≠ [] ∧
      ∀ part ∈ components named, isNamed part = true) :
    (∀ p ∈ names, hits (trimTarget r) p = true → hits (trimTarget raw) p = true) ↔
      ∀ p ∈ names, p.toList <+: r.toList → LeadsPlainly raw p := by
  refine forall₂_congr fun p member => ?_
  rw [hits_trimTarget_iff normal (clean p member).1 (clean p member).2, hits_iff, trimTarget_normal normal]
  tauto

theorem classifyProposal_eq_iff {proposal : ImprovementProposal} (normal : Normal proposal.targetFile r) :
    classifyProposal proposal = classifyProposal { proposal with targetFile := r } ↔
      (proposal.kind ≠ .metaEngineImprovement →
        ∀ engine ∈ enginePrefixes, engine.toList <+: r.toList → LeadsPlainly proposal.targetFile engine) := by
  obtain ⟨clean, apart⟩ := prefixes_clean enginePrefixes (by simp)
  by_cases engineKind : proposal.kind = .metaEngineImprovement
  · simp [classifyProposal, engineKind]
  · have within (p : String) (member : p ∈ enginePrefixes) (hit : hits (trimTarget proposal.targetFile) p = true) :=
      ((hits_trimTarget_iff normal (clean p member).1 (clean p member).2).mp hit).1
    have answers := any_eq_iff within (one_hit apart (trimTarget r))
    rw [plain_iff normal clean] at answers
    simp only [classifyProposal, engineKind, if_false, not_false_iff, forall_true_left, ne_eq]
    rw [← answers]
    cases enginePrefixes.any (hits (trimTarget proposal.targetFile)) <;>
      cases enginePrefixes.any (hits (trimTarget r)) <;> simp

theorem validate_eq_iff (normal : Normal raw r) :
    validateTier2CandidateBoundaries raw = validateTier2CandidateBoundaries r ↔
      ∀ boundary ∈ immutableEngineBoundaries, boundary.toList <+: r.toList → LeadsPlainly raw boundary := by
  obtain ⟨clean, apart⟩ := prefixes_clean immutableEngineBoundaries (by simp)
  have within (p : String) (member : p ∈ immutableEngineBoundaries) (hit : hits (trimTarget raw) p = true) :=
    ((hits_trimTarget_iff normal (clean p member).1 (clean p member).2).mp hit).1
  rw [← plain_iff normal clean]
  constructor
  · intro same p member hit
    -- The normal form hits a boundary, so both are refused, and the raw text hits the only one there is.
    have found : (immutableEngineBoundaries.find? (hits (trimTarget r))).isSome = true :=
      List.find?_isSome.mpr ⟨p, member, hit⟩
    unfold validateTier2CandidateBoundaries at same
    obtain ⟨q, first⟩ := Option.isSome_iff_exists.mp found
    rw [first] at same
    cases second : immutableEngineBoundaries.find? (hits (trimTarget raw)) with
    | none => simp [second] at same
    | some other =>
      have inside := List.mem_of_find?_eq_some second
      have rawHit := List.find?_some second
      exact one_hit apart (trimTarget r) other inside p member (within other inside rawHit) hit ▸ rawHit
  · intro agree
    rw [validateTier2CandidateBoundaries, validateTier2CandidateBoundaries, find?_eq_of_agree within agree]

end Answers

end TierGovernance

section Gates

variable {debug : Debug} {roots : List String} {proposal : ImprovementProposal} {r : String}

theorem checkDeclaredTarget_idem (accepted : checkDeclaredTarget debug proposal.targetFile roots = .ok r) :
    checkDeclaredTarget debug r roots = .ok r := by
  obtain ⟨normalized, inside, permitted⟩ := checkDeclaredTarget_ok.mp accepted
  exact checkDeclaredTarget_ok.mpr ⟨normalizeRepoPath_idem normalized, inside, permitted⟩

-- Where the answers agree, the gates in front of staging agree.
theorem candidateGates_eq (sha : HexHash) (ecdsa : Ecdsa) (fromSec1Bytes : Bytes → Option ecdsa.VerifyingKey)
    (operatorKeyHex : Option String) (accepted : checkDeclaredTarget debug proposal.targetFile roots = .ok r)
    (tier : TierGovernance.classifyProposal proposal = TierGovernance.classifyProposal { proposal with targetFile := r })
    (boundaries : TierGovernance.validateTier2CandidateBoundaries proposal.targetFile =
      TierGovernance.validateTier2CandidateBoundaries r) :
    candidateGates debug sha ecdsa fromSec1Bytes roots operatorKeyHex proposal =
      candidateGates debug sha ecdsa fromSec1Bytes roots operatorKeyHex { proposal with targetFile := r } := by
  unfold candidateGates
  rw [accepted, tier, boundaries, checkDeclaredTarget_idem accepted]

end Gates

/-- For an accepted target the tier gates answer on the raw text as on its normal form exactly when no
engine prefix or boundary in front of the normal form was written with an empty or dot component in it. -/
theorem tier_answers_iff (debug : Debug) (roots : List String) (proposal : ImprovementProposal) (r : String)
    (accepted : checkDeclaredTarget debug proposal.targetFile roots = .ok r) :
    ((TierGovernance.classifyProposal proposal = TierGovernance.classifyProposal { proposal with targetFile := r } ∧
        TierGovernance.validateTier2CandidateBoundaries proposal.targetFile =
          TierGovernance.validateTier2CandidateBoundaries r) ↔
      SpelledPlainly proposal r) ∧
    (SpelledPlainly proposal r →
      (∀ engine ∈ TierGovernance.enginePrefixes, engine.toList <+: r.toList →
        TierGovernance.classifyProposal proposal = .tier2Engine) ∧
      ∀ (sha : HexHash) (ecdsa : Ecdsa) (fromSec1Bytes : Bytes → Option ecdsa.VerifyingKey)
        (operatorKeyHex : Option String),
        candidateGates debug sha ecdsa fromSec1Bytes roots operatorKeyHex proposal =
          candidateGates debug sha ecdsa fromSec1Bytes roots operatorKeyHex { proposal with targetFile := r }) := by
  have normal := normal_of_normalizeRepoPath (checkDeclaredTarget_ok.mp accepted).1
  have answers : (TierGovernance.classifyProposal proposal =
        TierGovernance.classifyProposal { proposal with targetFile := r } ∧
      TierGovernance.validateTier2CandidateBoundaries proposal.targetFile =
        TierGovernance.validateTier2CandidateBoundaries r) ↔ SpelledPlainly proposal r := by
    rw [TierGovernance.classifyProposal_eq_iff normal, TierGovernance.validate_eq_iff normal, SpelledPlainly]
  refine ⟨answers, fun plain => ?_⟩
  obtain ⟨tier, boundaries⟩ := answers.mpr plain
  constructor
  · intro engine member starts
    rw [tier]
    have hit : TierGovernance.enginePrefixes.any (TierGovernance.hits (trimTarget r)) = true := by
      refine List.any_eq_true.mpr ⟨engine, member, ?_⟩
      rw [TierGovernance.hits_iff, trimTarget_normal normal]
      exact starts
    simp [TierGovernance.classifyProposal, hit]
  · intro sha ecdsa fromSec1Bytes operatorKeyHex
    exact candidateGates_eq sha ecdsa fromSec1Bytes operatorKeyHex accepted tier boundaries

section Sample

def quoting : Debug where
  text s := "\"" ++ s ++ "\""
  texts l := "[" ++ String.intercalate ", " (l.map fun s => "\"" ++ s ++ "\"") ++ "]"

def defaultRatifyRoots : List String := ["README.md", "CONTRIBUTING.md", "docs", "src"]

def tierChange (targetFile : String) : ImprovementProposal :=
  { targetFile, proposedPatch := "", kind := .refactor, operatorSignature := none }

theorem tier_answers_iff_dotted :
    TierGovernance.classifyProposal (tierChange "./src/meta/tier.rs") = .tier2Engine :=
  ((tier_answers_iff quoting defaultRatifyRoots (tierChange "./src/meta/tier.rs") "src/meta/tier.rs" rfl).2
    ⟨by decide, by decide⟩).1 "src/meta" (by decide) (by decide)

theorem double_slash_escapes :
    checkDeclaredTarget quoting "src//meta/tier.rs" defaultRatifyRoots = .ok "src/meta/tier.rs" ∧
      TierGovernance.classifyProposal (tierChange "src//meta/tier.rs") = .tier1Target ∧
      TierGovernance.classifyProposal (tierChange "src/meta/tier.rs") = .tier2Engine ∧
      candidateGates quoting sha256 (Ecdsa.single 0 0 [] []) (fun _ => none) defaultRatifyRoots none
        (tierChange "src//meta/tier.rs") = .ok () := by
  decide

end Sample

end SparkRsi.Governance
