import SparkRsi.Canary.Records
import SparkRsi.Shared.Codec
import SparkRsi.Shared.Links
import Mathlib.Data.Finset.Card
import Mathlib.Data.List.Induction

set_option autoImplicit false

namespace SparkRsi.Canary

open Shared

structure CanaryObservation where
  observationId : String
  observedAtMs : UInt64
  candidateDigest : String
  latencyUs : UInt64
  status : String
  provenance : Provenance
  deriving DecidableEq

def hex4 (n : Nat) : List Char :=
  [hexDigit (n / 4096 % 16), hexDigit (n / 256 % 16), hexDigit (n / 16 % 16), hexDigit (n % 16)]

def jsonChar : Char → List Char
  | '\\' => ['\\', '\\']
  | '"' => ['\\', '"']
  | c => if isControl c then '\\' :: 'u' :: hex4 c.toNat else [c]

def jsonString (value : String) : List Char := value.toList.flatMap jsonChar

namespace CanaryObservation

def canonicalText (obs : CanaryObservation) : List Char :=
  "\x7b\"candidate_digest\":\"".toList ++ (jsonString obs.candidateDigest ++ '"' ::
  (",\"latency_us\":".toList ++ ((toString obs.latencyUs).toList ++ ',' ::
  ("\"observation_id\":\"".toList ++ (jsonString obs.observationId ++ '"' ::
  (",\"observed_at_ms\":".toList ++ ((toString obs.observedAtMs).toList ++ ',' ::
  ("\"provenance\":\"".toList ++ (obs.provenance.toText.toList ++ '"' ::
  (",\"status\":\"".toList ++ (jsonString obs.status ++ '"' :: "\x7d".toList)))))))))))

def canonicalBytes (obs : CanaryObservation) : Bytes := utf8 (String.ofList obs.canonicalText)

def digestHex (sha : HexHash) (obs : CanaryObservation) : String := sha.hex obs.canonicalBytes

end CanaryObservation

structure QuotaDecision where
  counted : UInt64
  deriving DecidableEq

section Quota

variable (sha : HexHash) (candidateDigest : String)

def checkMeasured (obs : CanaryObservation) : Except String Unit := do
  refuseIf (isBlank obs.observationId = true) "observation id is required"
  refuseIf (isBlank obs.status = true) "execution status is required"
  refuseIf (obs.candidateDigest ≠ candidateDigest) "observation candidate digest does not match the candidate"
  refuseIf (obs.provenance ≠ .measured) "synthetic rehearsal cannot satisfy the production canary quota"

structure Tally where
  seen : List (String × String)
  counted : UInt64

def countObservation (tally : Tally) (obs : CanaryObservation) : Except String Tally := do
  checkMeasured candidateDigest obs
  let digest := obs.digestHex sha
  match tally.seen.lookup obs.observationId with
  | some previous => do
    refuseIf (previous ≠ digest) s!"observation id {obs.observationId} conflicts with a different record"
    return tally
  | none => return { seen := (obs.observationId, digest) :: tally.seen, counted := tally.counted + 1 }

def admitProductionQuota (observations : Vec CanaryObservation) (target : UInt64) :
    Except String QuotaDecision := do
  refuseIf (target = 0) "production canary quota target must be at least 1"
  let tally ← observations.items.foldlM (countObservation sha candidateDigest) { seen := [], counted := 0 }
  refuseIf (tally.counted < target)
    s!"production canary quota requires {target} measured observations, received {tally.counted}"
  return { counted := tally.counted }

end Quota

section Text

theorem readString_jsonChar (c : Char) (rest : List Char) :
    Json.readString .plain (jsonChar c ++ rest) =
      (Json.readString .plain rest).map fun read => (c :: read.1, read.2) := by
  fun_cases jsonChar c with
  | case1 => rfl
  | case2 => rfl
  | case3 _ slash quote control =>
    have small : c.toNat < 160 := by
      simp only [isControl, Bool.or_eq_true, Bool.and_eq_true, decide_eq_true_eq] at control
      omega
    have digits : hex4 c.toNat = ['0', '0', hexDigit (c.toNat / 16), hexDigit (c.toNat % 16)] := by
      rw [hex4, Nat.div_eq_of_lt (by omega : c.toNat < 4096), Nat.div_eq_of_lt (by omega : c.toNat < 256),
        Nat.mod_eq_of_lt (by omega : c.toNat / 16 < 16)]
      rfl
    rw [digits]
    exact Json.readString_unicode (by omega) rest
  | case4 _ slash quote plain => rw [List.singleton_append, Json.readString, if_neg quote, if_neg slash]

-- A quote ends an escaped text.
theorem jsonString_cut {s t : String} {x y : List Char}
    (same : jsonString s ++ '"' :: x = jsonString t ++ '"' :: y) : s = t ∧ x = y := by
  have read := congrArg (Json.readString .plain) same
  rw [jsonString, jsonString, Json.readString_flatMap readString_jsonChar,
    Json.readString_flatMap readString_jsonChar, Option.some.injEq, Prod.mk.injEq] at read
  exact ⟨String.toList_inj.mp read.1, read.2⟩

theorem toString_cut {m n : UInt64} {x y : List Char}
    (same : (toString m).toList ++ ',' :: x = (toString n).toList ++ ',' :: y) : m = n ∧ x = y := by
  have parts := Links.cut_unique (Json.notMem_toString (by decide) m) (Json.notMem_toString (by decide) n) same
  exact ⟨Json.toString_injective parts.1, parts.2⟩

theorem provenance_cut {p q : Provenance} {x y : List Char}
    (same : p.toText.toList ++ '"' :: x = q.toText.toList ++ '"' :: y) : p = q ∧ x = y := by
  have clean (r : Provenance) : '"' ∉ r.toText.toList := by cases r <;> decide
  have parts := Links.cut_unique (clean p) (clean q) same
  constructor
  next =>
    have names := parts.1
    revert names
    cases p <;> cases q <;> decide
  next => exact parts.2

theorem canonicalBytes_injective : Function.Injective CanaryObservation.canonicalBytes := by
  intro first second same
  have text := String.ofList_injective (utf8_injective same)
  -- Field by field, each with what ends it.
  have candidate := jsonString_cut (List.append_cancel_left text)
  have latency := toString_cut (List.append_cancel_left candidate.2)
  have id := jsonString_cut (List.append_cancel_left latency.2)
  have time := toString_cut (List.append_cancel_left id.2)
  have provenance := provenance_cut (List.append_cancel_left time.2)
  have status := jsonString_cut (List.append_cancel_left provenance.2)
  cases first
  cases second
  simp only [CanaryObservation.mk.injEq]
  exact ⟨id.1, time.1, candidate.1, latency.1, status.1, provenance.1⟩

end Text

section Counting

variable {sha : HexHash} {candidateDigest : String} {observations : List CanaryObservation}
  {obs : CanaryObservation}

structure Qualifies (candidateDigest : String) (obs : CanaryObservation) : Prop where
  id : isBlank obs.observationId = false
  status : isBlank obs.status = false
  candidate : obs.candidateDigest = candidateDigest
  measured : obs.provenance = .measured

theorem checkMeasured_ok : checkMeasured candidateDigest obs = .ok () ↔ Qualifies candidateDigest obs := by
  simp only [checkMeasured, bind_eq_ok, exists_unit, refuseIf_eq_ok, Bool.not_eq_true, ne_eq, not_not]
  constructor
  next => exact fun passed => ⟨passed.1, passed.2.1, passed.2.2.1, passed.2.2.2⟩
  next => exact fun qualifies => ⟨qualifies.id, qualifies.status, qualifies.candidate, qualifies.measured⟩

def ids (observations : List CanaryObservation) : Finset String :=
  (observations.map CanaryObservation.observationId).toFinset

structure Consistent (sha : HexHash) (candidateDigest : String) (observations : List CanaryObservation) : Prop where
  qualifies : ∀ obs ∈ observations, Qualifies candidateDigest obs
  agrees : ∀ a ∈ observations, ∀ b ∈ observations, a.observationId = b.observationId → a.digestHex sha = b.digestHex sha

structure Tally.Of (sha : HexHash) (observations : List CanaryObservation) (tally : Tally) : Prop where
  seen : ∀ id digest, tally.seen.lookup id = some digest →
    ∃ obs ∈ observations, obs.observationId = id ∧ obs.digestHex sha = digest
  known : ∀ obs ∈ observations, tally.seen.lookup obs.observationId = some (obs.digestHex sha)
  counted : tally.counted = UInt64.ofNat (ids observations).card

theorem ids_concat : ids (observations ++ [obs]) = insert obs.observationId (ids observations) := by
  ext id
  simp [ids, eq_comm]

-- A known id leaves the tally as it is.
theorem Tally.Of.again {tally : Tally} (of : tally.Of sha observations)
    (found : tally.seen.lookup obs.observationId = some (obs.digestHex sha)) :
    tally.Of sha (observations ++ [obs]) := by
  constructor
  case seen =>
    intro id digest held
    cases of.seen id digest held with
    | intro a here => exact ⟨a, List.mem_append_left _ here.1, here.2⟩
  case known =>
    rw [List.forall_mem_append, List.forall_mem_singleton]
    exact ⟨of.known, found⟩
  case counted =>
    cases of.seen _ _ found with
    | intro a here =>
      have inside : obs.observationId ∈ ids observations :=
        here.2.1 ▸ List.mem_toFinset.mpr (List.mem_map_of_mem here.1)
      rw [ids_concat, Finset.insert_eq_of_mem inside]
      exact of.counted

-- A new one is entered.
theorem Tally.Of.entered {tally : Tally} (of : tally.Of sha observations)
    (fresh : ∀ a ∈ observations, a.observationId ≠ obs.observationId) :
    Tally.Of sha (observations ++ [obs])
      { seen := (obs.observationId, obs.digestHex sha) :: tally.seen, counted := tally.counted + 1 } := by
  constructor
  case seen =>
    intro id digest held
    rw [List.lookup_cons] at held
    split at held
    next here => exact ⟨obs, by simp, (beq_iff_eq.mp here).symm, Option.some.inj held⟩
    next =>
      cases of.seen id digest held with
      | intro a inside => exact ⟨a, List.mem_append_left _ inside.1, inside.2⟩
  case known =>
    rw [List.forall_mem_append, List.forall_mem_singleton]
    constructor
    next =>
      intro a member
      rw [List.lookup_cons, beq_false_of_ne (fresh a member)]
      exact of.known a member
    next => exact List.lookup_cons_self
  case counted =>
    have outside : obs.observationId ∉ ids observations := by
      intro inside
      obtain ⟨a, member, same⟩ := List.mem_map.mp (List.mem_toFinset.mp inside)
      exact fresh a member same
    rw [ids_concat, Finset.card_insert_of_notMem outside, UInt64.ofNat_add, ← of.counted]
    rfl

theorem Tally.Of.step {tally next : Tally} (of : tally.Of sha observations)
    (counts : countObservation sha candidateDigest tally obs = .ok next) :
    Qualifies candidateDigest obs ∧
      (∀ a ∈ observations, a.observationId = obs.observationId → a.digestHex sha = obs.digestHex sha) ∧
      next.Of sha (observations ++ [obs]) := by
  rw [countObservation, then_eq_ok, checkMeasured_ok] at counts
  apply And.intro counts.1
  have rest := counts.2
  cases found : tally.seen.lookup obs.observationId with
  | some previous =>
    simp only [found, bind_eq_ok, exists_unit, refuseIf_eq_ok, not_not] at rest
    obtain ⟨same, ⟨⟩⟩ := rest
    have agrees (a : CanaryObservation) (member : a ∈ observations) (id : a.observationId = obs.observationId) :
        a.digestHex sha = obs.digestHex sha := by
      have known := of.known a member
      rw [id, found] at known
      exact (Option.some.inj known).symm.trans same
    exact ⟨agrees, of.again (found.trans (congrArg some same))⟩
  | none =>
    rw [found] at rest
    cases rest
    have fresh (a : CanaryObservation) (member : a ∈ observations) : a.observationId ≠ obs.observationId := by
      intro same
      have known := of.known a member
      rw [same, found] at known
      cases known
    exact ⟨fun a member same => absurd same (fresh a member), of.entered fresh⟩

theorem Tally.Of.returns {tally : Tally} (of : tally.Of sha observations)
    (qualifies : Qualifies candidateDigest obs)
    (agrees : ∀ a ∈ observations, a.observationId = obs.observationId → a.digestHex sha = obs.digestHex sha) :
    ∃ next, countObservation sha candidateDigest tally obs = .ok next := by
  rw [countObservation, checkMeasured_ok.mpr qualifies, ok_bind]
  cases found : tally.seen.lookup obs.observationId with
  | none => exact ⟨_, rfl⟩
  | some previous =>
    cases of.seen _ _ found with
    | intro a here =>
      have same : previous = obs.digestHex sha := here.2.2.symm.trans (agrees a here.1 here.2.1)
      refine ⟨tally, ?_⟩
      simp only [refuseIf, same, ne_eq, not_true, if_false]
      rfl

theorem countObservations_ok {tally : Tally}
    (counts : observations.foldlM (countObservation sha candidateDigest) ⟨[], 0⟩ = .ok tally) :
    Consistent sha candidateDigest observations ∧ tally.Of sha observations := by
  induction observations using List.reverseRecOn generalizing tally with
  | nil =>
    cases counts
    constructor
    next => exact ⟨List.forall_mem_nil _, List.forall_mem_nil _⟩
    next => exact ⟨fun _ _ held => (nomatch held), List.forall_mem_nil _, rfl⟩
  | append_singleton before obs ih =>
    rw [List.foldlM_append, bind_eq_ok] at counts
    obtain ⟨soFar, first, last⟩ := counts
    simp only [List.foldlM_cons, List.foldlM_nil, bind_pure] at last
    obtain ⟨consistent, of⟩ := ih first
    obtain ⟨qualifies, agrees, whole⟩ := of.step last
    apply And.intro _ whole
    constructor
    case qualifies =>
      rw [List.forall_mem_append, List.forall_mem_singleton]
      exact ⟨consistent.qualifies, qualifies⟩
    case agrees =>
      intro a inA b inB same
      rw [List.mem_append, List.mem_singleton] at inA inB
      cases inA with
      | inl earlierA =>
        cases inB with
        | inl earlierB => exact consistent.agrees a earlierA b earlierB same
        | inr lastB => exact lastB ▸ agrees a earlierA (lastB ▸ same)
      | inr lastA =>
        cases inB with
        | inl earlierB => exact (lastA ▸ agrees b earlierB (lastA ▸ same.symm)).symm
        | inr lastB => rw [lastA, lastB]

theorem countObservations_returns (consistent : Consistent sha candidateDigest observations) :
    ∃ tally, observations.foldlM (countObservation sha candidateDigest) ⟨[], 0⟩ = .ok tally := by
  induction observations using List.reverseRecOn with
  | nil => exact ⟨_, rfl⟩
  | append_singleton before obs ih =>
    have here : obs ∈ before ++ [obs] := by simp
    have soFar : Consistent sha candidateDigest before :=
      ⟨fun a member => consistent.qualifies a (List.mem_append_left _ member),
        fun a inA b inB => consistent.agrees a (List.mem_append_left _ inA) b (List.mem_append_left _ inB)⟩
    obtain ⟨tally, first⟩ := ih soFar
    have of := (countObservations_ok first).2
    obtain ⟨next, last⟩ := of.returns (consistent.qualifies obs here)
      fun a member => consistent.agrees a (List.mem_append_left _ member) obs here
    refine ⟨next, ?_⟩
    simp only [List.foldlM_append, first, ok_bind, List.foldlM_cons, List.foldlM_nil, bind_pure, last]

end Counting

section Decision

variable {sha : HexHash} {candidateDigest : String} {observations : Vec CanaryObservation} {target : UInt64}

-- A quota is admitted over consistent observations of enough ids, and over no others.
theorem admitProductionQuota_ok {decision : QuotaDecision} :
    admitProductionQuota sha candidateDigest observations target = .ok decision ↔
      target ≠ 0 ∧ Consistent sha candidateDigest observations.items ∧
        decision.counted = UInt64.ofNat (ids observations.items).card ∧ target ≤ decision.counted := by
  simp only [admitProductionQuota, bind_eq_ok, exists_unit, refuseIf_eq_ok]
  constructor
  next =>
    intro admitted
    obtain ⟨positive, tally, counts, enough, ⟨⟩⟩ := admitted
    have ran := countObservations_ok counts
    exact ⟨positive, ran.1, ran.2.counted, UInt64.not_lt.mp enough⟩
  next =>
    intro holds
    obtain ⟨positive, consistent, number, enough⟩ := holds
    obtain ⟨tally, counts⟩ := countObservations_returns consistent
    have counted : tally.counted = decision.counted :=
      (countObservations_ok counts).2.counted.trans number.symm
    refine ⟨positive, tally, counts, ?_, ?_⟩
    next => rwa [counted, UInt64.not_lt]
    next => rw [counted]; rfl

theorem card_ids_lt (observations : Vec CanaryObservation) : (ids observations.items).card < 2 ^ 64 := by
  have few := List.toFinset_card_le (observations.items.map CanaryObservation.observationId)
  rw [List.length_map] at few
  exact few.trans_lt observations.fits

def productionVerdict (decided : Except String QuotaDecision) : Option UInt64 :=
  decided.toOption.map QuotaDecision.counted

/-- The canonical bytes are one observation's. A quota is met only by measured observations of the
candidate, no two of them different under one id, over as many ids as it counts, and in any order. -/
theorem production_quota_sound (sha : HexHash) (candidateDigest : String) (target : UInt64)
    (observations : Vec CanaryObservation)
    (collisionFree : Set.InjOn sha.hex {text | ∃ obs ∈ observations.items, text = obs.canonicalBytes}) :
    Function.Injective CanaryObservation.canonicalBytes ∧
    (∀ decision, admitProductionQuota sha candidateDigest observations target = .ok decision →
      0 < target ∧ target ≤ decision.counted ∧ decision.counted.toNat = (ids observations.items).card ∧
        (∀ obs ∈ observations.items, obs.provenance = .measured ∧ obs.candidateDigest = candidateDigest) ∧
        ∀ a ∈ observations.items, ∀ b ∈ observations.items, a.observationId = b.observationId → a = b) ∧
    ∀ reordered : Vec CanaryObservation, observations.items.Perm reordered.items →
      productionVerdict (admitProductionQuota sha candidateDigest reordered target) =
        productionVerdict (admitProductionQuota sha candidateDigest observations target) := by
  apply And.intro canonicalBytes_injective
  constructor
  next =>
    intro decision accepted
    obtain ⟨positive, consistent, number, enough⟩ := admitProductionQuota_ok.mp accepted
    refine ⟨UInt64.pos_iff_ne_zero.mpr positive, enough, ?_, ?_, ?_⟩
    next => rw [number, UInt64.toNat_ofNat_of_lt' (card_ids_lt observations)]
    next => exact fun obs member => ⟨(consistent.qualifies obs member).measured, (consistent.qualifies obs member).candidate⟩
    next =>
      intro a inA b inB same
      exact canonicalBytes_injective (collisionFree ⟨a, inA, rfl⟩ ⟨b, inB, rfl⟩ (consistent.agrees a inA b inB same))
  next =>
    intro reordered perm
    have names : ids reordered.items = ids observations.items :=
      List.toFinset_eq_of_perm _ _ (perm.symm.map _)
    have consistent : Consistent sha candidateDigest reordered.items ↔
        Consistent sha candidateDigest observations.items := by
      constructor
      next => exact fun c => ⟨fun a member => c.qualifies a (perm.mem_iff.mp member),
        fun a inA b inB => c.agrees a (perm.mem_iff.mp inA) b (perm.mem_iff.mp inB)⟩
      next => exact fun c => ⟨fun a member => c.qualifies a (perm.mem_iff.mpr member),
        fun a inA b inB => c.agrees a (perm.mem_iff.mpr inA) b (perm.mem_iff.mpr inB)⟩
    apply congrArg (Option.map QuotaDecision.counted)
    apply toOption_congr
    intro decision
    rw [admitProductionQuota_ok, admitProductionQuota_ok, consistent, names]

end Decision

section Sample

def firstCanary : CanaryObservation :=
  { observationId := "obs-1", observedAtMs := 1700000000000, candidateDigest := "abc", latencyUs := 1500, status := "ok"
    provenance := .measured }

example : String.ofList { firstCanary with status := "a\"b\n" }.canonicalText =
    "\x7b\"candidate_digest\":\"abc\",\"latency_us\":1500,\"observation_id\":\"obs-1\",\"observed_at_ms\":1700000000000,\"provenance\":\"measured\",\"status\":\"a\\\"b\\u000a\"\x7d" := by
  decide +kernel

def retried : Vec CanaryObservation := ⟨[firstCanary, firstCanary], by decide⟩

theorem retried_texts : {text | ∃ obs ∈ retried.items, text = obs.canonicalBytes} =
      {firstCanary.canonicalBytes} := by
  ext text
  simp [retried]

theorem production_quota_sound_retried :
    admitProductionQuota sha256 "abc" retried 1 = .ok ⟨1⟩ ∧
    Function.Injective CanaryObservation.canonicalBytes ∧
    (∀ decision, admitProductionQuota sha256 "abc" retried 1 = .ok decision →
      0 < (1 : UInt64) ∧ 1 ≤ decision.counted ∧ decision.counted.toNat = (ids retried.items).card ∧
        (∀ obs ∈ retried.items, obs.provenance = .measured ∧ obs.candidateDigest = "abc") ∧
        ∀ a ∈ retried.items, ∀ b ∈ retried.items, a.observationId = b.observationId → a = b) ∧
    ∀ reordered : Vec CanaryObservation, retried.items.Perm reordered.items →
      productionVerdict (admitProductionQuota sha256 "abc" reordered 1) =
        productionVerdict (admitProductionQuota sha256 "abc" retried 1) := by
  constructor
  next =>
    rw [admitProductionQuota_ok]
    refine ⟨by decide, ⟨?_, ?_⟩, by decide, by decide⟩
    next =>
      intro obs member
      have only : obs = firstCanary := by simpa [retried] using member
      rw [only]
      exact ⟨by decide, by decide, rfl, rfl⟩
    next =>
      intro a inA b inB _
      have onlyA : a = firstCanary := by simpa [retried] using inA
      have onlyB : b = firstCanary := by simpa [retried] using inB
      rw [onlyA, onlyB]
  next => exact production_quota_sound sha256 "abc" 1 retried (retried_texts ▸ Set.injOn_singleton _ _)

end Sample

end SparkRsi.Canary
