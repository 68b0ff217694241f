import SparkRsi.Evaluator.Receipt
import SparkRsi.Shared.Sha256

set_option autoImplicit false

namespace SparkRsi.Evaluator

open Shared Ledger

def layerFields : Codec UInt8 LayerResult :=
  (Codec.text.pair (Codec.flag.pair (Codec.flag.pair (Codec.number.pair
    (Codec.text.pair (Codec.counted Codec.number Codec.text)))))).transport
    { toFun := fun (layerName, isHardInvariant, passed, bits, summary, violations) =>
        { layerName, isHardInvariant, passed, score := ⟨bits⟩, summary, violations }
      invFun := fun lr => (lr.layerName, lr.isHardInvariant, lr.passed, lr.score.bits, lr.summary, lr.violations)
      left_inv := fun _ => rfl
      right_inv := fun _ => rfl }

def metricsFields : Codec UInt8 EvaluationMetricsSummary :=
  (Codec.number.pair (Codec.number.pair (Codec.number.pair (Codec.number.pair
    (Codec.number.pair Codec.number))))).transport
    { toFun := fun (latency, pValue, p95, p99, rss, candidateResidentMb) =>
        { latencyDeltaPct := ⟨latency⟩, pValue := ⟨pValue⟩, p95CiUpperDegradationPct := ⟨p95⟩
          p99CiUpperDegradationPct := ⟨p99⟩, rssGrowthPct := ⟨rss⟩, candidateResidentMb }
      invFun := fun m => (m.latencyDeltaPct.bits, m.pValue.bits, m.p95CiUpperDegradationPct.bits,
        m.p99CiUpperDegradationPct.bits, m.rssGrowthPct.bits, m.candidateResidentMb)
      left_inv := fun _ => rfl
      right_inv := fun _ => rfl }

structure ContentV2 where
  ids : Text × Text × Text × Text × Text
  bound : Text × Text × Text × Text × Text
  holdouts : UInt64 × UInt64
  flags : Bool × Bool × Bool
  layers : Vec LayerResult
  metrics : Option EvaluationMetricsSummary

/-- The fields of docs/RECEIPT-V2.md, in their order. -/
def fieldsV2 : Codec UInt8 ContentV2 :=
  let five := Codec.text.pair (Codec.text.pair (Codec.text.pair (Codec.text.pair Codec.text)))
  ((Codec.mark (putField (utf8 receiptV2Domain))).pair (five.pair (five.pair ((Codec.number.pair Codec.number).pair
    ((Codec.flag.pair (Codec.flag.pair Codec.flag)).pair ((Codec.counted Codec.number layerFields).pair
      (Codec.optional Codec.flag metricsFields))))))).transport
    { toFun := fun (_, ids, bound, holdouts, flags, layers, metrics) => ⟨ids, bound, holdouts, flags, layers, metrics⟩
      invFun := fun c => ((), c.ids, c.bound, c.holdouts, c.flags, c.layers, c.metrics)
      left_inv := fun _ => rfl
      right_inv := fun _ => rfl }

namespace EvaluationReceipt

def contentV2 (receipt : EvaluationReceipt) (b : ReceiptBindingV2) : ContentV2 where
  ids := (receipt.cycleId, receipt.candidateId, receipt.parentId, receipt.evaluatedAt, receipt.evaluatorVersion)
  bound := (b.evaluatorBinarySha256, b.subjectPath, b.subjectSha256, b.holdoutSetSha256, b.policySha256)
  holdouts := (b.holdoutsTotal, b.holdoutsPassed)
  flags := (receipt.admitted, receipt.passedAllHardInvariants, receipt.passedStatisticalGates)
  layers := receipt.layerResults
  metrics := receipt.metricsSummary

variable {receipt other : EvaluationReceipt} {b c : ReceiptBindingV2}

theorem layerFields_encode (lr : LayerResult) : layerFields.encode lr = lr.bytesV2 := by
  have texts : Codec.text.encode = fun v => putField (utf8 v.value) := funext Codec.encode_text
  simp [layerFields, Codec.transport, Codec.via, Codec.pair, Codec.counted, LayerResult.bytesV2, texts]

theorem metricsFields_encode (metrics : Option EvaluationMetricsSummary) :
    (Codec.optional Codec.flag metricsFields).encode metrics = metricsBytesV2 metrics := by
  cases metrics <;>
    simp [Codec.optional, Codec.flagByte, metricsFields, Codec.transport, Codec.via, Codec.pair,
      metricsBytesV2]

theorem fieldsV2_encode (receipt : EvaluationReceipt) (b : ReceiptBindingV2) :
    fieldsV2.encode (receipt.contentV2 b) = receipt.textV2 b := by
  have layers : layerFields.encode = LayerResult.bytesV2 := funext layerFields_encode
  have counted (v : Vec LayerResult) : (Codec.counted Codec.number layerFields).encode v =
      putField (u64Le (UInt64.ofNat v.items.length)) ++ v.items.flatMap LayerResult.bytesV2 := by
    simp [Codec.counted, layers]
  simp only [fieldsV2, Codec.transport, Codec.via, Codec.pair, Equiv.coe_fn_symm_mk, contentV2, counted,
    metricsFields_encode, Codec.mark, Codec.encode_text, Codec.encode_number, Codec.encode_flag, textV2,
    List.flatMap_cons, List.flatMap_nil, List.append_nil, List.append_assoc]

theorem exists_contentV2 (content : ContentV2) :
    ∃ receipt b, receipt.binding = some b ∧ content = contentV2 receipt b := by
  obtain ⟨⟨cycleId, candidateId, parentId, evaluatedAt, evaluatorVersion⟩,
    ⟨evaluatorBinarySha256, subjectPath, subjectSha256, holdoutSetSha256, policySha256⟩,
    ⟨holdoutsTotal, holdoutsPassed⟩, ⟨admitted, passedAllHardInvariants, passedStatisticalGates⟩,
    layerResults, metricsSummary⟩ := content
  let b : ReceiptBindingV2 :=
    { subjectPath, subjectSha256, holdoutSetSha256, holdoutsTotal, holdoutsPassed, policySha256, evaluatorBinarySha256 }
  exact ⟨{ cycleId, candidateId, parentId, evaluatedAt, evaluatorVersion, passedAllHardInvariants
           passedStatisticalGates, admitted, layerResults, metricsSummary, receiptDigest := "", signature := none
           formatVersion := 2, binding := some b }, b, rfl, rfl⟩

-- The hashed bytes of version 2 give back everything in them.
theorem contentV2_eq_of_textV2 (same : receipt.textV2 b = other.textV2 c) :
    receipt.contentV2 b = other.contentV2 c := by
  apply fieldsV2.encode_injective
  rw [fieldsV2_encode, fieldsV2_encode, same]

theorem spells_fieldsV2_iff (bytes : Bytes) :
    fieldsV2.spells bytes = true ↔ ∃ receipt b, receipt.binding = some b ∧ bytes = textV2 receipt b := by
  rw [fieldsV2.spells_iff]
  constructor
  · rintro ⟨content, spelled⟩
    obtain ⟨receipt, b, bound, rfl⟩ := exists_contentV2 content
    exact ⟨receipt, b, bound, by rw [spelled, fieldsV2_encode]⟩
  · rintro ⟨receipt, b, -, spelled⟩
    exact ⟨receipt.contentV2 b, by rw [spelled, fieldsV2_encode]⟩

def textsV2 (receipt : EvaluationReceipt) : Set Bytes :=
  {text | ∃ b, receipt.binding = some b ∧ text = receipt.textV2 b}

theorem computeDigestV2_ok {sha : HexHash} {digest : String}
    (computed : receipt.computeDigestV2 sha = .ok digest) :
    ∃ b, receipt.binding = some b ∧ digest = sha.hex (receipt.textV2 b) := by
  unfold computeDigestV2 at computed
  split at computed
  · cases computed
  · rename_i b bound
    exact ⟨b, bound, (Except.ok.inj computed).symm⟩

theorem textV2_update (receipt : EvaluationReceipt) (receiptDigest : String) (signature : Option String)
    (formatVersion : UInt32) (b : ReceiptBindingV2) :
    textV2 { receipt with receiptDigest, signature, formatVersion } b = receipt.textV2 b := rfl

theorem computeDigestV2_bound (sha : HexHash) (bound : receipt.binding = some b) :
    receipt.computeDigestV2 sha = .ok (sha.hex (receipt.textV2 b)) := by
  simp only [computeDigestV2, bound]

end EvaluationReceipt

/-- Equal version 2 digests belong to receipts that differ at most in their digest, signature and format
number; the number is the same too when both digests verify. -/
theorem digest_v2_binds (sha : HexHash) (receipt other : EvaluationReceipt) (digest : String)
    (first : receipt.computeDigestV2 sha = .ok digest) (second : other.computeDigestV2 sha = .ok digest)
    (collisionFree : Set.InjOn sha.hex (receipt.textsV2 ∪ other.textsV2)) :
    other = { receipt with receiptDigest := other.receiptDigest, signature := other.signature
                           formatVersion := other.formatVersion } ∧
      (receipt.verifyDigest sha = true → other.verifyDigest sha = true →
        other.formatVersion = receipt.formatVersion ∧ other.receiptDigest = receipt.receiptDigest) := by
  obtain ⟨b, bound, digestEq⟩ := EvaluationReceipt.computeDigestV2_ok first
  obtain ⟨c, otherBound, otherEq⟩ := EvaluationReceipt.computeDigestV2_ok second
  have texts : receipt.textV2 b = other.textV2 c :=
    collisionFree (.inl ⟨b, bound, rfl⟩) (.inr ⟨c, otherBound, rfl⟩) (digestEq.symm.trans otherEq)
  constructor
  · have same := EvaluationReceipt.contentV2_eq_of_textV2 texts
    simp only [EvaluationReceipt.contentV2, ContentV2.mk.injEq, Prod.mk.injEq] at same
    obtain ⟨⟨cycle, candidate, parent, at_, version⟩, ⟨binary, path, subject, holdouts, policy⟩,
      ⟨total, passed⟩, ⟨admitted, hard, gates⟩, layers, metrics⟩ := same
    have bindings : b = c := by
      cases b
      cases c
      simp_all
    cases other
    simp_all
  · intro verified otherVerified
    rcases EvaluationReceipt.verifyDigest_iff.mp verified with ⟨-, unbound, -⟩ | ⟨two, b', bound', recorded⟩
    · rw [bound] at unbound
      cases unbound
    · rcases EvaluationReceipt.verifyDigest_iff.mp otherVerified with ⟨-, unbound, -⟩ | ⟨two', c', bound'', recorded'⟩
      · rw [otherBound] at unbound
        cases unbound
      · cases bound.symm.trans bound'
        cases otherBound.symm.trans bound''
        exact ⟨two'.trans two.symm, by rw [recorded, recorded', texts]⟩

section Sample

def sampleBinding : ReceiptBindingV2 where
  subjectPath := ⟨"README.md", by decide⟩
  subjectSha256 := ⟨"c0ffee", by decide⟩
  holdoutSetSha256 := ⟨"beef", by decide⟩
  holdoutsTotal := 2
  holdoutsPassed := 2
  policySha256 := ⟨"feed", by decide⟩
  evaluatorBinarySha256 := ⟨"face", by decide⟩

def sampleDraft : EvaluationReceipt where
  cycleId := ⟨"cycle", by decide⟩
  candidateId := ⟨"candidate", by decide⟩
  parentId := ⟨"parent", by decide⟩
  evaluatedAt := ⟨"2026-10-08T00:00:00Z", by decide⟩
  evaluatorVersion := ⟨"v", by decide⟩
  passedAllHardInvariants := true
  passedStatisticalGates := true
  admitted := true
  layerResults := ⟨[], by decide⟩
  metricsSummary := none
  receiptDigest := ""
  signature := none
  formatVersion := 2
  binding := some sampleBinding

def sampleReceipt : EvaluationReceipt :=
  { sampleDraft with receiptDigest := sha256.hex (sampleDraft.textV2 sampleBinding) }

theorem EvaluationReceipt.textsV2_bound {receipt : EvaluationReceipt} {b : ReceiptBindingV2}
    (bound : receipt.binding = some b) : receipt.textsV2 = {receipt.textV2 b} := by
  apply Set.eq_singleton_iff_unique_mem.mpr
  refine ⟨⟨b, bound, rfl⟩, ?_⟩
  rintro _ ⟨c, bound', rfl⟩
  cases bound.symm.trans bound'
  rfl

theorem security_fits : (utf8 "Security").length < 2 ^ 64 := by decide

-- One layer that failed with two violations, and the metrics of a benchmark.
def layeredDraft : EvaluationReceipt :=
  { sampleDraft with
    admitted := false
    layerResults := ⟨[
      { layerName := ⟨"Security", security_fits⟩
        isHardInvariant := true
        passed := false
        score := ⟨0⟩
        summary := ⟨"root_of_trust=FAIL", by decide⟩
        violations := ⟨[⟨"protected path", by decide⟩, ⟨"secret", by decide⟩], by decide⟩ }], by decide⟩
    metricsSummary := some
      { latencyDeltaPct := ⟨0xbff0000000000000⟩
        pValue := ⟨0⟩
        p95CiUpperDegradationPct := ⟨0⟩
        p99CiUpperDegradationPct := ⟨0⟩
        rssGrowthPct := ⟨0⟩
        candidateResidentMb := 12 } }

def layeredReceipt : EvaluationReceipt :=
  { layeredDraft with receiptDigest := sha256.hex (layeredDraft.textV2 sampleBinding) }

theorem digest_v2_binds_layered :
    layeredReceipt = { layeredDraft with receiptDigest := layeredReceipt.receiptDigest
                                         signature := layeredReceipt.signature
                                         formatVersion := layeredReceipt.formatVersion } := by
  have first := @EvaluationReceipt.computeDigestV2_bound layeredDraft sampleBinding sha256 rfl
  have second := @EvaluationReceipt.computeDigestV2_bound layeredReceipt sampleBinding sha256 rfl
  have same : layeredReceipt.textV2 sampleBinding = layeredDraft.textV2 sampleBinding :=
    EvaluationReceipt.textV2_update layeredDraft _ none 2 sampleBinding
  rw [same] at second
  exact (digest_v2_binds sha256 layeredDraft layeredReceipt _ first second (by
    rw [@EvaluationReceipt.textsV2_bound layeredDraft sampleBinding rfl,
      @EvaluationReceipt.textsV2_bound layeredReceipt sampleBinding rfl, same, Set.union_self]
    exact Set.injOn_singleton _ _)).1

theorem digest_v2_omits_format :
    sampleReceipt.computeDigestV2 sha256 =
      EvaluationReceipt.computeDigestV2 sha256 { sampleReceipt with formatVersion := 1 } ∧
      sampleReceipt.binding.isSome = true ∧
      sampleReceipt.formatVersion ≠
        EvaluationReceipt.formatVersion { sampleReceipt with formatVersion := 1 } :=
  ⟨rfl, rfl, by decide⟩

end Sample

end SparkRsi.Evaluator
