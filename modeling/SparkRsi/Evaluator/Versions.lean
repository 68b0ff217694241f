import SparkRsi.Evaluator.Digest

set_option autoImplicit false

namespace SparkRsi.Evaluator

open Shared Ledger

namespace EvaluationReceipt

def joinedIds (receipt : EvaluationReceipt) : Bytes :=
  utf8 receipt.cycleId.value ++ utf8 receipt.candidateId.value ++ utf8 receipt.parentId.value

def domainTag : Bytes := putField (utf8 receiptV2Domain)

variable {receipt other : EvaluationReceipt} {b : ReceiptBindingV2}

theorem textV1_eq : ∃ rest, receipt.textV1 = receipt.joinedIds ++ flagChar receipt.admitted :: rest :=
  ⟨receipt.layerResults.items.flatMap LayerResult.bytesV1, by simp [textV1, bytesV1, joinedIds]⟩

theorem textV1_update (receipt : EvaluationReceipt) (receiptDigest : String) :
    textV1 { receipt with receiptDigest } = receipt.textV1 := rfl

theorem domainTag_isPrefix : domainTag <+: receipt.textV2 b := by
  simp only [textV2, List.append_assoc]
  exact List.prefix_append _ _

theorem flagChar_notMem_domainTag (flag : Bool) : flagChar flag ∉ domainTag := by
  cases flag <;> decide

-- Where the ids do not begin with the domain tag, the flag byte or an id breaks it.
theorem textV1_ne_textV2 (untagged : ¬domainTag <+: receipt.joinedIds) : receipt.textV1 ≠ other.textV2 b := by
  intro same
  obtain ⟨rest, text⟩ := @textV1_eq receipt
  have tag : domainTag <+: receipt.joinedIds ++ flagChar receipt.admitted :: rest := by
    rw [← text, same]
    exact domainTag_isPrefix
  have ids : receipt.joinedIds <+: receipt.joinedIds ++ flagChar receipt.admitted :: rest :=
    List.prefix_append _ _
  by_cases long : domainTag.length ≤ receipt.joinedIds.length
  · exact untagged (List.prefix_of_prefix_length_le tag ids long)
  · -- The tag reaches beyond the ids, so the flag byte stands in it.
    obtain ⟨more, whole⟩ := List.prefix_of_prefix_length_le ids tag (by omega)
    rw [← whole, List.prefix_append_right_inj] at tag
    cases more with
    | nil =>
      rw [List.append_nil] at whole
      exact long (by rw [whole])
    | cons first others =>
      obtain ⟨rfl, -⟩ := List.cons_prefix_cons.mp tag
      apply flagChar_notMem_domainTag receipt.admitted
      rw [← whole]
      exact List.mem_append_right _ List.mem_cons_self

/-- No version 2 receipt hashes the version 1 string of this one. -/
def Apart (receipt : EvaluationReceipt) : Prop :=
  ∀ (other : EvaluationReceipt) b, other.binding = some b → receipt.textV1 ≠ other.textV2 b

-- Behind the tag, the reader of version 2 decides.
theorem apart_iff_unspelled : receipt.Apart ↔ fieldsV2.spells receipt.textV1 = false := by
  rw [← Bool.not_eq_true, spells_fieldsV2_iff]
  constructor
  · rintro apart ⟨other, b, bound, same⟩
    exact apart other b bound same
  · intro unspelled other b bound same
    exact unspelled ⟨other, b, bound, same⟩

variable {sha : HexHash} {ecdsa : Ecdsa} {verifyingKey : ecdsa.VerifyingKey}

theorem digestBytes_hex (decodes : ∀ bytes, ecdsa.hexDecode (hexEncode bytes) = some bytes) (text : Bytes) :
    digestBytes ecdsa (sha.hex text) = sha.digest text := by
  rw [digestBytes, HexHash.hex, decodes]
  rfl

-- The signature a receipt carries is accepted under one of these two messages at most.
def OneMessage (receipt : EvaluationReceipt) (ecdsa : Ecdsa) (verifyingKey : ecdsa.VerifyingKey)
    (first second : Bytes) : Prop :=
  ∀ signature, receipt.signature.bind (readSignature ecdsa) = some signature →
    ecdsa.verify verifyingKey first signature = true → ecdsa.verify verifyingKey second signature = true → first = second

-- A signature text that verifies on receipts of both versions shows a clash of the two hashed strings.
theorem texts_eq_of_verified (decodes : ∀ bytes, ecdsa.hexDecode (hexEncode bytes) = some bytes)
    (version : receipt.formatVersion = 1) (otherVersion : other.formatVersion = 2) (bound : other.binding = some b)
    (same : receipt.signature = other.signature)
    (one : receipt.OneMessage ecdsa verifyingKey (sha.digest receipt.textV1) (sha.digest (other.textV2 b)))
    (collisionFree : Set.InjOn sha.hex {receipt.textV1, other.textV2 b})
    (verified : receipt.verifySignature sha ecdsa verifyingKey = true)
    (otherVerified : other.verifySignature sha ecdsa verifyingKey = true) : receipt.textV1 = other.textV2 b := by
  obtain ⟨digest, signature, read, accepted⟩ := verifySignature_iff.mp verified
  obtain ⟨otherDigest, otherSignature, otherRead, otherAccepted⟩ := verifySignature_iff.mp otherVerified
  have shared : otherSignature = signature := Option.some.inj (by rw [← otherRead, ← read, same])
  have recorded : receipt.receiptDigest = sha.hex receipt.textV1 := by
    cases verifyDigest_iff.mp digest with
    | inl first => exact first.2.2
    | inr second =>
      have two := second.1
      rw [version] at two
      cases two
  have otherRecorded : other.receiptDigest = sha.hex (other.textV2 b) := by
    cases verifyDigest_iff.mp otherDigest with
    | inl first =>
      have one := first.1
      rw [otherVersion] at one
      cases one
    | inr second =>
      obtain ⟨-, b', bound', recorded⟩ := second
      cases bound.symm.trans bound'
      exact recorded
  rw [recorded, digestBytes_hex decodes] at accepted
  rw [otherRecorded, digestBytes_hex decodes, shared] at otherAccepted
  have digests := one signature read accepted otherAccepted
  exact collisionFree (.inl rfl) (.inr rfl) (congrArg hexEncode digests)

end EvaluationReceipt

section Sample

set_option maxRecDepth 8192 in
def clashingDraft : EvaluationReceipt :=
  { sampleDraft with
    cycleId := ⟨"\x1f\x00\x00\x00\x00\x00\x00\x00spark-rsi.evaluation-receipt.v2\x05\x00\x00\x00\x00\x00\x00\x00cycle" ++
      "\t\x00\x00\x00\x00\x00\x00\x00candidate\x06\x00\x00\x00\x00\x00\x00\x00parent\x14\x00\x00\x00\x00\x00\x00\x002",
      by decide⟩
    candidateId := ⟨"", by decide⟩
    parentId := ⟨"", by decide⟩
    admitted := false
    layerResults := ⟨[
      { layerName := ⟨"26-", by decide⟩
        isHardInvariant := true
        passed := true
        score := ⟨0x3a30305438302d30⟩
        summary := ⟨"00:00Z\x01\x00\x00\x00\x00\x00\x00\x00v\x04\x00\x00\x00\x00\x00\x00\x00face" ++
          "\t\x00\x00\x00\x00\x00\x00\x00README.md\x06\x00\x00\x00\x00\x00\x00\x00c0ffee" ++
          "\x04\x00\x00\x00\x00\x00\x00\x00beef\x04\x00\x00\x00\x00\x00\x00\x00feed" ++
          "\x08\x00\x00\x00\x00\x00\x00\x00\x02\x00\x00\x00\x00\x00\x00\x00" ++
          "\x08\x00\x00\x00\x00\x00\x00\x00\x02\x00\x00\x00\x00\x00\x00\x00" ++
          "\x01\x00\x00\x00\x00\x00\x00\x00\x01\x01\x00\x00\x00\x00\x00\x00\x00\x01" ++
          "\x01\x00\x00\x00\x00\x00\x00\x00\x01" ++
          "\x08\x00\x00\x00\x00\x00\x00\x00\x00\x00\x00\x00\x00\x00\x00\x00\x01\x00\x00\x00\x00\x00\x00\x00\x00",
          by decide⟩
        violations := ⟨[], by decide⟩ }], by decide⟩
    formatVersion := 1
    binding := none }

set_option maxRecDepth 8192 in
theorem clashingDraft_text : clashingDraft.textV1 = sampleDraft.textV2 sampleBinding := by decide

theorem clashingDraft_lead : clashingDraft.joinedIds.take EvaluationReceipt.domainTag.length = EvaluationReceipt.domainTag := by
  decide

end Sample

/-- What stands at the beginning of the joined ids, as far as the framed domain tag is long, keeps a version 1
receipt apart from all of version 2 exactly when it is not that tag. Then no signature text verifies in both. -/
theorem receipt_versions_apart_iff (sha : HexHash) (ecdsa : Ecdsa) :
    (∀ lead : Bytes, (∀ receipt : EvaluationReceipt,
        receipt.joinedIds.take EvaluationReceipt.domainTag.length = lead → receipt.Apart) ↔
      lead ≠ EvaluationReceipt.domainTag) ∧
    ∀ receipt : EvaluationReceipt, ¬EvaluationReceipt.domainTag <+: receipt.joinedIds →
      ∀ (other : EvaluationReceipt) b (verifyingKey : ecdsa.VerifyingKey),
        receipt.formatVersion = 1 → other.formatVersion = 2 → other.binding = some b →
        receipt.signature = other.signature →
        (∀ bytes, ecdsa.hexDecode (hexEncode bytes) = some bytes) →
        receipt.OneMessage ecdsa verifyingKey (sha.digest receipt.textV1) (sha.digest (other.textV2 b)) →
        Set.InjOn sha.hex {receipt.textV1, other.textV2 b} →
          ¬(receipt.verifySignature sha ecdsa verifyingKey = true ∧
            other.verifySignature sha ecdsa verifyingKey = true) := by
  constructor
  case left =>
    intro lead
    constructor
    · rintro apart rfl
      exact apart clashingDraft clashingDraft_lead sampleDraft sampleBinding rfl clashingDraft_text
    · intro different receipt begins other b bound
      apply EvaluationReceipt.textV1_ne_textV2
      intro tagged
      exact different (begins.symm.trans (List.prefix_iff_eq_take.mp tagged).symm)
  case right =>
    rintro receipt untagged other b verifyingKey version otherVersion bound same decodes one collisionFree
      ⟨verified, otherVerified⟩
    exact EvaluationReceipt.textV1_ne_textV2 untagged
      (EvaluationReceipt.texts_eq_of_verified decodes version otherVersion bound same one collisionFree verified
        otherVerified)

section Sample

def plainDraft : EvaluationReceipt :=
  { sampleDraft with formatVersion := 1, binding := none }

def plainReceipt : EvaluationReceipt := { plainDraft with receiptDigest := sha256.hex plainDraft.textV1 }

def echoEcdsa : Ecdsa where
  SigningKey := Unit
  VerifyingKey := Unit
  Signature := Bytes
  sign _ message := if message.length = 32 then message ++ message else List.replicate 64 0
  toBytes signature := signature
  fromSlice bytes := if bytes.length = 64 then some bytes else none
  verify _ message signature := signature = if message.length = 32 then message ++ message else List.replicate 64 0
  hexDecode text := hexDecodeChars text.toList

theorem echo_pair : echoEcdsa.Pair () () where
  decodes := hexDecodeChars_encode
  parses message := by
    simp only [echoEcdsa]
    split
    next long => simp [long]
    next => simp
  accepts message := by simp [echoEcdsa]

theorem echo_oneMessage (receipt : EvaluationReceipt) (first second : Bytes) :
    receipt.OneMessage echoEcdsa () (sha256.digest first) (sha256.digest second) := by
  intro signature read accepted otherAccepted
  simp only [echoEcdsa, sha256.length_digest, if_true, decide_eq_true_eq] at accepted otherAccepted
  exact (List.append_inj (accepted.symm.trans otherAccepted) (by rw [sha256.length_digest, sha256.length_digest])).1

theorem plain_sample_injOn : Set.InjOn sha256.hex {plainDraft.textV1, sampleDraft.textV2 sampleBinding} := by
  have different : sha256.hex plainDraft.textV1 ≠ sha256.hex (sampleDraft.textV2 sampleBinding) := by decide +kernel
  rw [Set.injOn_pair]
  intro same
  exact absurd same different

def plainSigned : EvaluationReceipt := plainReceipt.sign echoEcdsa ()

def replayedReceipt : EvaluationReceipt := { sampleReceipt with signature := plainSigned.signature }

theorem plainSigned_verifies : plainSigned.verifySignature sha256 echoEcdsa () = true :=
  EvaluationReceipt.verifySignature_sign echo_pair (EvaluationReceipt.verifyDigest_iff.mpr (.inl ⟨rfl, rfl, rfl⟩))

theorem receipt_versions_apart_iff_plain :
    plainSigned.verifySignature sha256 echoEcdsa () = true ∧
      replayedReceipt.verifySignature sha256 echoEcdsa () = false := by
  have untagged : ¬EvaluationReceipt.domainTag <+: plainSigned.joinedIds := by
    have ids : plainSigned.joinedIds = plainDraft.joinedIds := rfl
    rw [ids]
    decide
  have plain : plainSigned.textV1 = plainDraft.textV1 := rfl
  have replayed : replayedReceipt.textV2 sampleBinding = sampleDraft.textV2 sampleBinding :=
    EvaluationReceipt.textV2_update sampleDraft _ _ 2 sampleBinding
  have never := (receipt_versions_apart_iff sha256 echoEcdsa).2 plainSigned untagged replayedReceipt sampleBinding ()
    rfl rfl rfl rfl hexDecodeChars_encode (echo_oneMessage _ _ _) (by rw [plain, replayed]; exact plain_sample_injOn)
  apply And.intro plainSigned_verifies
  rw [Bool.eq_false_iff]
  intro verified
  exact never ⟨plainSigned_verifies, verified⟩

def clashingReceipt : EvaluationReceipt :=
  { clashingDraft with receiptDigest := sampleReceipt.receiptDigest }

theorem clashingReceipt_text : clashingReceipt.textV1 = sampleReceipt.textV2 sampleBinding := by
  have sample : sampleReceipt.textV2 sampleBinding = sampleDraft.textV2 sampleBinding :=
    EvaluationReceipt.textV2_update sampleDraft _ none 2 sampleBinding
  rw [sample, ← clashingDraft_text]
  exact EvaluationReceipt.textV1_update clashingDraft _

theorem sampleReceipt_digest :
    sampleReceipt.receiptDigest = sha256.hex (sampleReceipt.textV2 sampleBinding) := by
  have sample : sampleReceipt.textV2 sampleBinding = sampleDraft.textV2 sampleBinding :=
    EvaluationReceipt.textV2_update sampleDraft _ none 2 sampleBinding
  rw [sample]
  simp only [sampleReceipt]

theorem clashingReceipt_digest : clashingReceipt.receiptDigest = sampleReceipt.receiptDigest := by
  simp only [clashingReceipt]

theorem clashingReceipt_verifies :
    clashingReceipt.verifyDigest sha256 = true ∧ sampleReceipt.verifyDigest sha256 = true := by
  constructor
  · refine EvaluationReceipt.verifyDigest_iff.mpr (.inl ⟨rfl, rfl, ?_⟩)
    rw [clashingReceipt_text, clashingReceipt_digest, sampleReceipt_digest]
  · exact EvaluationReceipt.verifyDigest_iff.mpr (.inr ⟨rfl, sampleBinding, rfl, sampleReceipt_digest⟩)

theorem receipt_versions_clash :
    clashingReceipt.textV1 = sampleReceipt.textV2 sampleBinding ∧
      clashingReceipt.formatVersion = 1 ∧ sampleReceipt.formatVersion = 2 ∧
      ∀ (ecdsa : Ecdsa) (signingKey : ecdsa.SigningKey) (verifyingKey : ecdsa.VerifyingKey),
        ecdsa.Pair signingKey verifyingKey →
          (clashingReceipt.sign ecdsa signingKey).signature =
            (sampleReceipt.sign ecdsa signingKey).signature ∧
          (clashingReceipt.sign ecdsa signingKey).verifySignature sha256 ecdsa verifyingKey = true ∧
          (sampleReceipt.sign ecdsa signingKey).verifySignature sha256 ecdsa verifyingKey = true := by
  refine ⟨clashingReceipt_text, rfl, rfl, fun ecdsa signingKey verifyingKey pair => ⟨?_, ?_, ?_⟩⟩
  · simp only [EvaluationReceipt.sign, clashingReceipt_digest]
  · exact EvaluationReceipt.verifySignature_sign pair clashingReceipt_verifies.1
  · exact EvaluationReceipt.verifySignature_sign pair clashingReceipt_verifies.2

end Sample

end SparkRsi.Evaluator
