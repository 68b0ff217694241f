import SparkRsi.Ledger.Merkle
import SparkRsi.Shared.Codec

set_option autoImplicit false

namespace SparkRsi.Evaluator

open Shared Ledger

structure F64 where
  bits : UInt64
  deriving DecidableEq

structure LayerResult where
  layerName : Text
  isHardInvariant : Bool
  passed : Bool
  score : F64
  summary : Text
  violations : Vec Text
  deriving DecidableEq

structure EvaluationMetricsSummary where
  latencyDeltaPct : F64
  pValue : F64
  p95CiUpperDegradationPct : F64
  p99CiUpperDegradationPct : F64
  rssGrowthPct : F64
  candidateResidentMb : UInt64
  deriving DecidableEq

structure ReceiptBindingV2 where
  subjectPath : Text
  subjectSha256 : Text
  holdoutSetSha256 : Text
  holdoutsTotal : UInt64
  holdoutsPassed : UInt64
  policySha256 : Text
  evaluatorBinarySha256 : Text
  deriving DecidableEq

structure EvaluationReceipt where
  cycleId : Text
  candidateId : Text
  parentId : Text
  evaluatedAt : Text
  evaluatorVersion : Text
  passedAllHardInvariants : Bool
  passedStatisticalGates : Bool
  admitted : Bool
  layerResults : Vec LayerResult
  metricsSummary : Option EvaluationMetricsSummary
  receiptDigest : String
  signature : Option String
  formatVersion : UInt32
  binding : Option ReceiptBindingV2
  deriving DecidableEq

def receiptV2Domain : String := "spark-rsi.evaluation-receipt.v2"

def flagChar (b : Bool) : UInt8 := if b then 49 else 48

def LayerResult.bytesV1 (lr : LayerResult) : Bytes :=
  utf8 lr.layerName.value ++ [flagChar lr.passed] ++ u64Le lr.score.bits ++ utf8 lr.summary.value

def bytesV1 (cycleId candidateId parentId : Text) (admitted : Bool) (layers : Vec LayerResult) : Bytes :=
  utf8 cycleId.value ++ utf8 candidateId.value ++ utf8 parentId.value ++ [flagChar admitted] ++
    layers.items.flatMap LayerResult.bytesV1

def LayerResult.bytesV2 (lr : LayerResult) : Bytes :=
  putField (utf8 lr.layerName.value) ++ putField [Codec.flagByte lr.isHardInvariant] ++
    putField [Codec.flagByte lr.passed] ++ putField (u64Le lr.score.bits) ++ putField (utf8 lr.summary.value) ++
    putField (u64Le (UInt64.ofNat lr.violations.items.length)) ++
    lr.violations.items.flatMap fun v => putField (utf8 v.value)

def metricsBytesV2 : Option EvaluationMetricsSummary → Bytes
  | none => putField [0]
  | some m =>
    putField [1] ++
      ([m.latencyDeltaPct, m.pValue, m.p95CiUpperDegradationPct, m.p99CiUpperDegradationPct, m.rssGrowthPct].flatMap
        fun x => putField (u64Le x.bits)) ++
      putField (u64Le m.candidateResidentMb)

namespace EvaluationReceipt

variable (sha : HexHash) (ecdsa : Ecdsa) (receipt : EvaluationReceipt)

def textV1 : Bytes :=
  bytesV1 receipt.cycleId receipt.candidateId receipt.parentId receipt.admitted receipt.layerResults

def textV2 (b : ReceiptBindingV2) : Bytes :=
  putField (utf8 receiptV2Domain) ++
    ([receipt.cycleId, receipt.candidateId, receipt.parentId, receipt.evaluatedAt, receipt.evaluatorVersion,
      b.evaluatorBinarySha256, b.subjectPath, b.subjectSha256, b.holdoutSetSha256, b.policySha256].flatMap
        fun s => putField (utf8 s.value)) ++
    putField (u64Le b.holdoutsTotal) ++ putField (u64Le b.holdoutsPassed) ++
    ([receipt.admitted, receipt.passedAllHardInvariants, receipt.passedStatisticalGates].flatMap
      fun flag => putField [Codec.flagByte flag]) ++
    putField (u64Le (UInt64.ofNat receipt.layerResults.items.length)) ++
    receipt.layerResults.items.flatMap LayerResult.bytesV2 ++
    metricsBytesV2 receipt.metricsSummary

def computeDigest (cycleId candidateId parentId : Text) (admitted : Bool) (layers : Vec LayerResult) :
    String :=
  sha.hex (bytesV1 cycleId candidateId parentId admitted layers)

def computeDigestV2 : Except String String :=
  match receipt.binding with
  | none => .error "version 2 digest needs a binding"
  | some b => .ok (sha.hex (receipt.textV2 b))

/-- Version 1 with a binding, version 2 without one and other versions never verify. -/
def verifyDigest : Bool :=
  match receipt.formatVersion, receipt.binding with
  | 1, none =>
    receipt.receiptDigest ==
      computeDigest sha receipt.cycleId receipt.candidateId receipt.parentId receipt.admitted receipt.layerResults
  | 2, some _ =>
    match receipt.computeDigestV2 sha with
    | .ok d => d == receipt.receiptDigest
    | .error _ => false
  | _, _ => false

/-- What is signed for a digest text: its bytes, or the text itself where it is no hex. -/
def digestBytes (digest : String) : Bytes := (ecdsa.hexDecode digest).getD (utf8 digest)

def sign (signingKey : ecdsa.SigningKey) : EvaluationReceipt :=
  let signature := ecdsa.sign signingKey (digestBytes ecdsa receipt.receiptDigest)
  { receipt with signature := some ("tpm2-p256:" ++ hexEncode (ecdsa.toBytes signature)) }

def readSignature (sigStr : String) : Option ecdsa.Signature := do
  let rawHex := (MerkleCheckpoint.stripLead "tpm2-p256:" sigStr).getD sigStr
  let sigBytes ← ecdsa.hexDecode rawHex
  ecdsa.fromSlice sigBytes

def verifySignature (verifyingKey : ecdsa.VerifyingKey) : Bool :=
  if receipt.verifyDigest sha then
    match receipt.signature.bind (readSignature ecdsa) with
    | none => false
    | some signature => ecdsa.verify verifyingKey (digestBytes ecdsa receipt.receiptDigest) signature
  else false

def bindAndSignV2 (binding : ReceiptBindingV2) (signingKey : ecdsa.SigningKey) :
    Except String EvaluationReceipt := do
  let bound := { receipt with formatVersion := 2, binding := some binding }
  let digest ← bound.computeDigestV2 sha
  return { bound with receiptDigest := digest }.sign ecdsa signingKey

variable {sha} {ecdsa} {receipt}

theorem verifyDigest_iff : receipt.verifyDigest sha = true ↔
    (receipt.formatVersion = 1 ∧ receipt.binding = none ∧ receipt.receiptDigest = sha.hex receipt.textV1) ∨
      receipt.formatVersion = 2 ∧ ∃ b, receipt.binding = some b ∧
        receipt.receiptDigest = sha.hex (receipt.textV2 b) := by
  unfold verifyDigest
  split
  · rename_i one unbound
    rw [beq_iff_eq]
    constructor
    · exact fun same => .inl ⟨one, unbound, same⟩
    · rintro (⟨-, -, same⟩ | ⟨two, -⟩)
      · exact same
      · rw [one] at two
        cases two
  · rename_i b two bound
    simp only [computeDigestV2, bound, beq_iff_eq]
    constructor
    · exact fun same => .inr ⟨two, b, rfl, same.symm⟩
    · rintro (⟨-, unbound, -⟩ | ⟨-, _, ⟨⟩, same⟩)
      · cases unbound
      · exact same.symm
  · rename_i neither notBoth
    constructor
    · rintro ⟨⟩
    · rintro (⟨one, unbound, -⟩ | ⟨two, b, bound, -⟩)
      · exact absurd unbound (neither one)
      · exact absurd bound (notBoth b two)

theorem verifySignature_iff {verifyingKey : ecdsa.VerifyingKey} :
    receipt.verifySignature sha ecdsa verifyingKey = true ↔ receipt.verifyDigest sha = true ∧
      ∃ signature, receipt.signature.bind (readSignature ecdsa) = some signature ∧
        ecdsa.verify verifyingKey (digestBytes ecdsa receipt.receiptDigest) signature = true := by
  unfold verifySignature
  by_cases digest : receipt.verifyDigest sha = true
  · cases receipt.signature.bind (readSignature ecdsa) <;> simp [digest]
  · simp [digest]

-- What the judge signs verifies under its key.
theorem verifySignature_sign {signingKey : ecdsa.SigningKey} {verifyingKey : ecdsa.VerifyingKey}
    (pair : ecdsa.Pair signingKey verifyingKey) (digest : receipt.verifyDigest sha = true) :
    (receipt.sign ecdsa signingKey).verifySignature sha ecdsa verifyingKey = true := by
  have signed : (receipt.sign ecdsa signingKey).verifyDigest sha = true := digest
  refine verifySignature_iff.mpr ⟨signed, _, ?_, pair.accepts (digestBytes ecdsa receipt.receiptDigest)⟩
  simp only [sign, Option.bind_some, readSignature, MerkleCheckpoint.stripLead_append, Option.getD_some,
    pair.decodes, Option.bind_eq_bind, Option.bind_some, pair.parses]

theorem bindAndSignV2_verifies {signingKey : ecdsa.SigningKey} {verifyingKey : ecdsa.VerifyingKey}
    (pair : ecdsa.Pair signingKey verifyingKey) (binding : ReceiptBindingV2) :
    ∃ signed, receipt.bindAndSignV2 sha ecdsa binding signingKey = .ok signed ∧
      signed.verifySignature sha ecdsa verifyingKey = true := by
  refine ⟨_, rfl, verifySignature_sign pair (verifyDigest_iff.mpr (.inr ⟨rfl, binding, rfl, ?_⟩))⟩
  rfl

end EvaluationReceipt

end SparkRsi.Evaluator
