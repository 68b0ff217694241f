import SparkRsi.Shared.Bytes

set_option autoImplicit false

namespace SparkRsi.Ledger

open Shared

inductive BlockType where
  | genesis
  | evaluation
  | promotion
  | rollback
  | promotionEvidence
  deriving DecidableEq, Repr

namespace BlockType

def toText : BlockType → String
  | genesis => "GENESIS"
  | evaluation => "EVALUATION"
  | promotion => "PROMOTION"
  | rollback => "ROLLBACK"
  | promotionEvidence => "PROMOTION_EVIDENCE"

def debug : BlockType → String
  | genesis => "Genesis"
  | evaluation => "Evaluation"
  | promotion => "Promotion"
  | rollback => "Rollback"
  | promotionEvidence => "PromotionEvidence"

def fromStr (s : String) : Except String BlockType :=
  if s = "GENESIS" then .ok genesis
  else if s = "EVALUATION" then .ok evaluation
  else if s = "PROMOTION" then .ok promotion
  else if s = "ROLLBACK" then .ok rollback
  else if s = "PROMOTION_EVIDENCE" then .ok promotionEvidence
  else .error s!"Unknown BlockType: {s}"

@[simp] theorem fromStr_toText (kind : BlockType) : fromStr kind.toText = .ok kind := by
  cases kind <;> decide

-- Different block types print at different lengths, less than one hash apart.
theorem toText_eq_of_length (first second : BlockType) (m n : Nat)
    (same : (utf8 first.toText).length + 64 * m = (utf8 second.toText).length + 64 * n) :
    first = second ∧ m = n := by
  have lengths (kind : BlockType) : (utf8 kind.toText).length =
      match kind with
      | genesis => 7
      | evaluation => 10
      | promotion => 9
      | rollback => 8
      | promotionEvidence => 18 := by cases kind <;> decide
  rw [lengths, lengths] at same
  cases first <;> cases second <;> simp only at same <;> refine ⟨?_, ?_⟩ <;> first | rfl | omega

-- Every block type starts with a letter that no lowercase hex text holds.
theorem toText_head (kind : BlockType) :
    ∃ letter rest, utf8 kind.toText = letter :: rest ∧ isHexByte letter = false := by
  cases kind <;> exact ⟨_, _, rfl, by decide⟩

end BlockType

structure LedgerBlock where
  sequence : UInt64
  blockType : BlockType
  timestampUtc : String
  prevBlockHash : String
  payloadJson : String
  payloadDigest : String
  blobHashes : List String
  blockHash : String
  deriving DecidableEq, Repr

structure PromotionEvidencePayload where
  metaCandidateBlockHash : String
  downstreamCycleId : String
  downstreamLedgerBlockHash : String
  capabilityImprovementProof : String
  finalClassification : String
  deriving DecidableEq, Repr

namespace LedgerBlock

variable (sha : HexHash)

def genesisPrevHash : String :=
  "0000000000000000000000000000000000000000000000000000000000000000"

def computePayloadDigest (payloadJson : String) : String := sha.hex (utf8 payloadJson)

def blockPreimage (sequence : UInt64) (blockType : BlockType)
    (timestampUtc prevBlockHash payloadDigest : String) (blobHashes : List String) : Bytes :=
  u64Le sequence ++ utf8 blockType.toText ++ utf8 timestampUtc ++ utf8 prevBlockHash ++
    utf8 payloadDigest ++ blobHashes.flatMap utf8

def computeBlockHash (sequence : UInt64) (blockType : BlockType)
    (timestampUtc prevBlockHash payloadDigest : String) (blobHashes : List String) : String :=
  sha.hex (blockPreimage sequence blockType timestampUtc prevBlockHash payloadDigest blobHashes)

def new (sequence : UInt64) (blockType : BlockType) (timestampUtc prevBlockHash payloadJson : String)
    (blobHashes : List String) : LedgerBlock :=
  let payloadDigest := computePayloadDigest sha payloadJson
  { sequence, blockType, timestampUtc, prevBlockHash, payloadJson, payloadDigest, blobHashes
    blockHash := computeBlockHash sha sequence blockType timestampUtc prevBlockHash payloadDigest blobHashes }

variable (block : LedgerBlock)

def preimage : Bytes :=
  blockPreimage block.sequence block.blockType block.timestampUtc block.prevBlockHash
    block.payloadDigest block.blobHashes

def expectedHash : String :=
  computeBlockHash sha block.sequence block.blockType block.timestampUtc block.prevBlockHash
    block.payloadDigest block.blobHashes

def verifyIntegrity : Except String Unit :=
  let expectedPayloadDigest := computePayloadDigest sha block.payloadJson
  if block.payloadDigest ≠ expectedPayloadDigest then
    .error s!"Payload digest mismatch at sequence {block.sequence}: stored={block.payloadDigest}, computed={expectedPayloadDigest}"
  else
    let expectedBlockHash := block.expectedHash sha
    if block.blockHash ≠ expectedBlockHash then
      .error s!"Block hash mismatch at sequence {block.sequence}: stored={block.blockHash}, computed={expectedBlockHash}"
    else .ok ()

structure Intact : Prop where
  payload : block.payloadDigest = sha.hex (utf8 block.payloadJson)
  hash : block.blockHash = sha.hex block.preimage

variable {sha block}

theorem verifyIntegrity_ok : block.verifyIntegrity sha = .ok () ↔ block.Intact sha := by
  constructor
  · intro accepted
    simp only [verifyIntegrity] at accepted
    split at accepted
    · cases accepted
    · split at accepted
      · cases accepted
      · exact ⟨by simpa using ‹¬block.payloadDigest ≠ _›, by simpa using ‹¬block.blockHash ≠ _›⟩
  · intro intact
    have hash : block.blockHash = block.expectedHash sha := intact.hash
    simp [verifyIntegrity, computePayloadDigest, intact.payload, hash]

theorem new_intact (sequence : UInt64) (blockType : BlockType)
    (timestampUtc prevBlockHash payloadJson : String) (blobHashes : List String) :
    (new sha sequence blockType timestampUtc prevBlockHash payloadJson blobHashes).Intact sha :=
  ⟨rfl, rfl⟩

theorem Intact.blockHash_length (intact : block.Intact sha) : (utf8 block.blockHash).length = 64 := by
  rw [intact.hash]; exact sha.length_hex _

theorem Intact.payloadDigest_length (intact : block.Intact sha) :
    (utf8 block.payloadDigest).length = 64 := by
  rw [intact.payload]; exact sha.length_hex _

-- The sequence is the first word of the hashed bytes.
theorem sequence_eq_of_preimage {first second : LedgerBlock} (same : first.preimage = second.preimage) :
    first.sequence = second.sequence := by
  simp only [preimage, blockPreimage, List.append_assoc] at same
  exact u64Le_injective (List.append_inj same (by simp)).1

-- The byte behind the sequence word is no lowercase hex digit.
theorem preimage_ninth : ∃ letter, block.preimage[8]? = some letter ∧ isHexByte letter = false := by
  obtain ⟨letter, rest, text, upper⟩ := BlockType.toText_head block.blockType
  refine ⟨letter, ?_, upper⟩
  simp [preimage, blockPreimage, text]

end LedgerBlock

end SparkRsi.Ledger
