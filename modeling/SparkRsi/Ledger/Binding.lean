import SparkRsi.Ledger.Honest

set_option autoImplicit false

namespace SparkRsi.Ledger

open Shared

def hashedTexts (blocks : List LedgerBlock) : Set Bytes :=
  {data | ∃ block ∈ blocks, data = block.preimage ∨ data = utf8 block.payloadJson}

def sizes (texts : List String) : List Nat := texts.map fun text => (utf8 text).length

/-- Timestamps of one sequence have one length, and the blob hashes of the two
genesis blocks are split in the same way. -/
structure SameFraming (first second : List LedgerBlock) : Prop where
  timestamps : ∀ (i : Nat) (a b : LedgerBlock), first[i]? = some a → second[i]? = some b →
    (utf8 a.timestampUtc).length = (utf8 b.timestampUtc).length
  genesisBlobs : ∀ a ∈ first.head?, ∀ b ∈ second.head?, sizes a.blobHashes = sizes b.blobHashes

def SameParsedTexts (first second : List BlockRow) : Prop :=
  ∀ (i : Nat) (a b : BlockRow), first[i]? = some a → second[i]? = some b →
    a.blockType = b.blockType ∧ a.blobHashesJson = b.blobHashesJson

theorem SameFraming.refl (blocks : List LedgerBlock) : SameFraming blocks blocks where
  timestamps := by intro i a b first second; rw [first] at second; cases second; rfl
  genesisBlobs := by intro a first b second; rw [first] at second; cases second; rfl

theorem flatMap_utf8_length (texts : List String) (uniform : ∀ text ∈ texts, (utf8 text).length = 64) :
    (texts.flatMap utf8).length = 64 * texts.length ∧ sizes texts = List.replicate texts.length 64 := by
  induction texts with
  | nil => simp [sizes]
  | cons text rest ih =>
    simp only [List.forall_mem_cons] at uniform
    have tail := ih uniform.2
    simp only [sizes] at tail ⊢
    simp only [List.flatMap_cons, List.length_append, uniform.1, tail.1, List.map_cons, tail.2,
      List.length_cons, List.replicate_succ, and_true]
    omega

-- Concatenated texts of known sizes are known.
theorem eq_of_flatMap_utf8 (first second : List String) (framed : sizes first = sizes second)
    (same : first.flatMap utf8 = second.flatMap utf8) : first = second := by
  induction first generalizing second with
  | nil => cases second <;> simp_all [sizes]
  | cons a restA ih =>
    cases second with
    | nil => simp [sizes] at framed
    | cons b restB =>
      simp only [sizes, List.map_cons, List.cons.injEq] at framed
      obtain ⟨heads, tails⟩ := List.append_inj same framed.1
      rw [utf8_inj.mp heads, ih restB framed.2 tails]

section Blocks

variable {sha : HexHash} {first second : LedgerBlock}

-- Fields of the same length at the same place of the hashed bytes are equal.
theorem fields_of_preimage (same : first.preimage = second.preimage)
    (types : first.blockType = second.blockType)
    (timestamps : (utf8 first.timestampUtc).length = (utf8 second.timestampUtc).length)
    (prevs : (utf8 first.prevBlockHash).length = (utf8 second.prevBlockHash).length)
    (digests : (utf8 first.payloadDigest).length = (utf8 second.payloadDigest).length) :
    first.timestampUtc = second.timestampUtc ∧ first.prevBlockHash = second.prevBlockHash ∧
      first.payloadDigest = second.payloadDigest ∧
      first.blobHashes.flatMap utf8 = second.blobHashes.flatMap utf8 := by
  simp only [LedgerBlock.preimage, LedgerBlock.blockPreimage, List.append_assoc, types] at same
  obtain ⟨-, afterSequence⟩ := List.append_inj same (by simp)
  obtain ⟨-, afterType⟩ := List.append_inj afterSequence rfl
  obtain ⟨timestamp, afterTimestamp⟩ := List.append_inj afterType timestamps
  obtain ⟨prev, afterPrev⟩ := List.append_inj afterTimestamp prevs
  obtain ⟨digest, blobs⟩ := List.append_inj afterPrev digests
  exact ⟨utf8_inj.mp timestamp, utf8_inj.mp prev, utf8_inj.mp digest, blobs⟩

-- With hashes as blob names the length of the hashed bytes tells the block type.
theorem type_of_preimage (same : first.preimage = second.preimage)
    (timestamps : (utf8 first.timestampUtc).length = (utf8 second.timestampUtc).length)
    (prevs : (utf8 first.prevBlockHash).length = (utf8 second.prevBlockHash).length)
    (digests : (utf8 first.payloadDigest).length = (utf8 second.payloadDigest).length)
    (blobsFirst : ∀ bh ∈ first.blobHashes, (utf8 bh).length = 64)
    (blobsSecond : ∀ bh ∈ second.blobHashes, (utf8 bh).length = 64) :
    first.blockType = second.blockType ∧ sizes first.blobHashes = sizes second.blobHashes := by
  have hashesFirst := flatMap_utf8_length _ blobsFirst
  have hashesSecond := flatMap_utf8_length _ blobsSecond
  have lengths := congrArg List.length same
  simp only [LedgerBlock.preimage, LedgerBlock.blockPreimage, List.length_append, u64Le_length,
    hashesFirst.1, hashesSecond.1] at lengths
  obtain ⟨types, counts⟩ := BlockType.toText_eq_of_length first.blockType second.blockType
    first.blobHashes.length second.blobHashes.length (by omega)
  exact ⟨types, by rw [hashesFirst.2, hashesSecond.2, counts]⟩

-- Two intact blocks with one block hash and one framing are one block.
theorem block_eq_of_hash (intactFirst : first.Intact sha) (intactSecond : second.Intact sha)
    (free : Set.InjOn sha.hex (hashedTexts [first] ∪ hashedTexts [second]))
    (types : first.blockType = second.blockType)
    (timestamps : (utf8 first.timestampUtc).length = (utf8 second.timestampUtc).length)
    (prevs : (utf8 first.prevBlockHash).length = (utf8 second.prevBlockHash).length)
    (blobs : sizes first.blobHashes = sizes second.blobHashes)
    (hashes : first.blockHash = second.blockHash) : first = second := by
  have preimages : first.preimage = second.preimage :=
    free (.inl ⟨first, by simp⟩) (.inr ⟨second, by simp⟩)
      (by rw [← intactFirst.hash, ← intactSecond.hash, hashes])
  obtain ⟨timestamp, prev, digest, blobBytes⟩ := fields_of_preimage preimages types timestamps prevs
    (by rw [intactFirst.payloadDigest_length, intactSecond.payloadDigest_length])
  have payload : utf8 first.payloadJson = utf8 second.payloadJson :=
    free (.inl ⟨first, by simp⟩) (.inr ⟨second, by simp⟩)
      (by rw [← intactFirst.payload, ← intactSecond.payload, digest])
  have sequence := LedgerBlock.sequence_eq_of_preimage preimages
  have blobHashes := eq_of_flatMap_utf8 _ _ blobs blobBytes
  cases first
  cases second
  simp_all

end Blocks

section Chains

variable {sha : HexHash} {storeA storeB : BlobStore} {blocksA blocksB : List LedgerBlock}

theorem hashedTexts_singleton {block : LedgerBlock} {blocks : List LedgerBlock} (member : block ∈ blocks) :
    hashedTexts [block] ⊆ hashedTexts blocks := by
  rintro data ⟨same, only, hashed⟩
  exact ⟨same, List.mem_singleton.mp only ▸ member, hashed⟩

-- At one position of two audited chains with one framing, the hash names the block.
theorem Audited.binding (auditedA : Audited sha storeA blocksA) (auditedB : Audited sha storeB blocksB)
    (free : Set.InjOn sha.hex (hashedTexts blocksA ∪ hashedTexts blocksB))
    (framing : SameFraming blocksA blocksB) (i : Nat) (boundA : i < blocksA.length)
    (boundB : i < blocksB.length) (hashes : blocksA[i].blockHash = blocksB[i].blockHash) :
    blocksA[i] = blocksB[i] := by
  have memberA : blocksA[i] ∈ blocksA := List.getElem_mem boundA
  have memberB : blocksB[i] ∈ blocksB := List.getElem_mem boundB
  have intactA := auditedA.intact _ memberA
  have intactB := auditedB.intact _ memberB
  have freeHere := free.mono (Set.union_subset_union (hashedTexts_singleton memberA)
    (hashedTexts_singleton memberB))
  have timestamps := framing.timestamps i _ _ (List.getElem?_eq_getElem boundA)
    (List.getElem?_eq_getElem boundB)
  have prevs : (utf8 blocksA[i].prevBlockHash).length = (utf8 blocksB[i].prevBlockHash).length := by
    rw [auditedA.prevBlockHash_length _ memberA, auditedB.prevBlockHash_length _ memberB]
  cases i with
  | zero =>
    have headA : blocksA[0] ∈ blocksA.head? := by simp [List.head?_eq_getElem?]
    have headB : blocksB[0] ∈ blocksB.head? := by simp [List.head?_eq_getElem?]
    exact block_eq_of_hash intactA intactB freeHere
      (by rw [auditedA.genesisType _ headA, auditedB.genesisType _ headB]) timestamps prevs
      (framing.genesisBlobs _ headA _ headB) hashes
  | succ j =>
    have tailA : blocksA[j + 1] ∈ blocksA.tail := by
      rw [← List.getElem_tail (by simp; omega)]; exact List.getElem_mem _
    have tailB : blocksB[j + 1] ∈ blocksB.tail := by
      rw [← List.getElem_tail (by simp; omega)]; exact List.getElem_mem _
    have preimages : blocksA[j + 1].preimage = blocksB[j + 1].preimage :=
      freeHere (.inl ⟨_, by simp, .inl rfl⟩) (.inr ⟨_, by simp, .inl rfl⟩)
        (by rw [← intactA.hash, ← intactB.hash, hashes])
    obtain ⟨types, blobs⟩ := type_of_preimage preimages timestamps prevs
      (by rw [intactA.payloadDigest_length, intactB.payloadDigest_length])
      (auditedA.blobHash_length _ tailA) (auditedB.blobHash_length _ tailB)
    exact block_eq_of_hash intactA intactB freeHere types timestamps prevs blobs hashes

-- Backwards along the chain: equal heads and one framing leave one chain.
theorem Audited.eq_of_head (auditedA : Audited sha storeA blocksA) (auditedB : Audited sha storeB blocksB)
    (free : Set.InjOn sha.hex (hashedTexts blocksA ∪ hashedTexts blocksB))
    (framing : SameFraming blocksA blocksB) (lengths : blocksA.length = blocksB.length)
    (heads : blocksA.getLast?.map LedgerBlock.blockHash = blocksB.getLast?.map LedgerBlock.blockHash) :
    blocksA = blocksB := by
  refine HashChain.blocks_eq_of_last_digest blocksA blocksB auditedA.linked auditedB.linked ?_ heads
  exact List.forall₂_iff_get.mpr ⟨lengths, fun i boundA boundB =>
    auditedA.binding auditedB free framing i boundA boundB⟩

end Chains

section Ledgers

variable {crates : Crates} {ledgerA ledgerB : ImprovementLedger} {blocksA blocksB : List LedgerBlock}

-- Equal head hashes name equal sequences, hence chains of one length.
theorem lengths_of_head {latestA latestB : LedgerBlock}
    (storedA : allBlocks crates ledgerA = .ok blocksA) (storedB : allBlocks crates ledgerB = .ok blocksB)
    (auditedA : Audited crates.sha ledgerA.blobStore blocksA)
    (auditedB : Audited crates.sha ledgerB.blobStore blocksB)
    (free : Set.InjOn crates.sha.hex (hashedTexts blocksA ∪ hashedTexts blocksB))
    (lastA : blocksA.getLast? = some latestA) (lastB : blocksB.getLast? = some latestB)
    (heads : latestA.blockHash = latestB.blockHash) : blocksA.length = blocksB.length := by
  have memberA := List.mem_of_getLast? lastA
  have memberB := List.mem_of_getLast? lastB
  have preimages : latestA.preimage = latestB.preimage :=
    free (.inl ⟨_, memberA, .inl rfl⟩) (.inr ⟨_, memberB, .inl rfl⟩)
      (by rw [← (auditedA.intact _ memberA).hash, ← (auditedB.intact _ memberB).hash, heads])
  rw [← auditedA.latest_sequence storedA lastA, ← auditedB.latest_sequence storedB lastB,
    LedgerBlock.sequence_eq_of_preimage preimages]

-- Rows that decode to the same blocks from the same lenient texts are the same rows.
theorem rows_eq_of_blocks (storedA : allBlocks crates ledgerA = .ok blocksA)
    (storedB : allBlocks crates ledgerB = .ok blocksA)
    (texts : SameParsedTexts ledgerA.blocks.rows ledgerB.blocks.rows) :
    ledgerA.blocks.rows = ledgerB.blocks.rows := by
  have readA := allBlocks_ok.mp storedA
  have readB := allBlocks_ok.mp storedB
  have lengths : ledgerA.blocks.rows.length = ledgerB.blocks.rows.length := by
    rw [readA.length_eq, readB.length_eq]
  refine List.ext_getElem lengths fun i boundA boundB => ?_
  have same := texts i _ _ (List.getElem?_eq_getElem boundA) (List.getElem?_eq_getElem boundB)
  obtain ⟨textsA, rowA, blockA⟩ := auditedRow_eq_ok.mp (readA.get boundA (readA.length_eq ▸ boundA))
  obtain ⟨textsB, rowB, blockB⟩ := auditedRow_eq_ok.mp (readB.get boundB (readB.length_eq ▸ boundB))
  simp only [List.get_eq_getElem] at rowA rowB blockA blockB
  have fields := blockA.symm.trans blockB
  simp only [BlockTexts.block, LedgerBlock.mk.injEq] at fields
  obtain ⟨sequence, -, timestamp, prev, payload, digest, -, hash⟩ := fields
  rw [rowA, rowB] at same ⊢
  simp only [BlockRow.ofTexts, SqlValue.text.injEq] at same
  simp only [BlockRow.ofTexts, BlockRow.mk.injEq, SqlValue.text.injEq]
  exact ⟨congrArg UInt64.toInt64 sequence, same.1, timestamp, prev, payload, digest, same.2, hash⟩

/-- Two audited ledgers with one head hash hold the same blocks exactly when they
frame their free fields alike, and the same rows exactly when the leniently parsed
texts agree besides. -/
theorem ledgers_eq_iff_framing {ecdsa : Ecdsa} {nowA nowB : String}
    {keyA keyB : Option ecdsa.VerifyingKey} {reportA reportB : LedgerAuditReport}
    (auditA : verifyChainIntegrity crates ecdsa nowA ledgerA keyA = .ok reportA)
    (auditB : verifyChainIntegrity crates ecdsa nowB ledgerB keyB = .ok reportB)
    (storedA : allBlocks crates ledgerA = .ok blocksA) (storedB : allBlocks crates ledgerB = .ok blocksB)
    (collisionFree : Set.InjOn crates.sha.hex (hashedTexts blocksA ∪ hashedTexts blocksB))
    (heads : reportA.latestBlockHash = reportB.latestBlockHash) :
    (blocksA = blocksB ↔ SameFraming blocksA blocksB) ∧
      (ledgerA.blocks.rows = ledgerB.blocks.rows ↔ SameFraming blocksA blocksB ∧
        SameParsedTexts ledgerA.blocks.rows ledgerB.blocks.rows) := by
  obtain ⟨_, latestA, _, _, acceptedA⟩ := verifyChainIntegrity_ok.mp auditA
  obtain ⟨_, latestB, _, _, acceptedB⟩ := verifyChainIntegrity_ok.mp auditB
  cases storedA.symm.trans acceptedA.stored
  cases storedB.symm.trans acceptedB.stored
  have latestHashes : latestA.blockHash = latestB.blockHash := by
    simpa [acceptedA.report_eq, acceptedB.report_eq, auditReport] using heads
  have lengths := lengths_of_head storedA storedB acceptedA.audited acceptedB.audited collisionFree
    acceptedA.last acceptedB.last latestHashes
  have framed (framing : SameFraming blocksA blocksB) : blocksA = blocksB :=
    acceptedA.audited.eq_of_head acceptedB.audited collisionFree framing lengths
      (by simp [acceptedA.last, acceptedB.last, latestHashes])
  refine ⟨⟨fun same => same ▸ SameFraming.refl _, framed⟩, ⟨fun same => ?_, fun both => ?_⟩⟩
  · have decoded : allBlocks crates ledgerA = allBlocks crates ledgerB := by
      simp only [allBlocks, same]
    rw [storedA, storedB, Except.ok.injEq] at decoded
    refine ⟨decoded ▸ SameFraming.refl _, fun i a b first second => ?_⟩
    rw [same, second, Option.some.injEq] at first
    exact first ▸ ⟨rfl, rfl⟩
  · exact rows_eq_of_blocks storedA (framed both.1 ▸ storedB) both.2

end Ledgers

section Ambiguity

-- What is hashed in two ledgers of one genesis block and two blocks with the same bytes.
theorem injOn_forks (sha : HexHash) (genesis first second : LedgerBlock)
    (distinct : ([genesis.preimage, utf8 genesis.payloadJson, first.preimage,
      utf8 first.payloadJson].map sha.hex).Nodup)
    (preimages : first.preimage = second.preimage) (payloads : first.payloadJson = second.payloadJson) :
    Set.InjOn sha.hex (hashedTexts [genesis, first] ∪ hashedTexts [genesis, second]) := by
  have listed : ∀ data ∈ hashedTexts [genesis, first] ∪ hashedTexts [genesis, second],
      data ∈ [genesis.preimage, utf8 genesis.payloadJson, first.preimage, utf8 first.payloadJson] := by
    rintro data (⟨block, member, hashed⟩ | ⟨block, member, hashed⟩) <;>
      simp only [List.mem_cons, List.not_mem_nil, or_false] at member <;>
      rcases member with rfl | rfl <;> rcases hashed with rfl | rfl <;> simp [preimages, payloads]
  exact fun a ha b hb => List.inj_on_of_nodup_map distinct (listed a ha) (listed b hb)

def shiftedPromotion : LedgerBlock := fork .promotion "_EVIDENCE2026-01-02T00:00:00+00:00"

def promotionEvidence : LedgerBlock := fork .promotionEvidence "2026-01-02T00:00:00+00:00"

theorem shiftedPromotion_preimage : shiftedPromotion.preimage = promotionEvidence.preimage := by
  decide +kernel

theorem shiftedPromotion_hash : shiftedPromotion.blockHash = promotionEvidence.blockHash := by
  have preimages := shiftedPromotion_preimage
  unfold shiftedPromotion promotionEvidence at preimages ⊢
  rw [fork_hash, fork_hash, preimages]

theorem shiftedPromotion_distinct : ([sampleGenesis.preimage, utf8 sampleGenesis.payloadJson,
    shiftedPromotion.preimage, utf8 shiftedPromotion.payloadJson].map standardCrates.sha.hex).Nodup := by
  decide +kernel

theorem sampleGenesis_ne_shifted : sampleGenesis.blockHash ≠ shiftedPromotion.blockHash := by
  have distinct := shiftedPromotion_distinct
  unfold shiftedPromotion at distinct ⊢
  rw [sampleGenesis_hash, fork_hash]
  simp only [List.map_cons, List.nodup_cons, List.mem_cons, not_or] at distinct
  exact distinct.1.2.1

def shiftedLedger : ImprovementLedger := forkedLedger .promotion "_EVIDENCE2026-01-02T00:00:00+00:00"

def evidenceLedger : ImprovementLedger := forkedLedger .promotionEvidence "2026-01-02T00:00:00+00:00"

theorem shiftedLedger_recorded :
    Recorded standardCrates shiftedLedger [sampleGenesis, shiftedPromotion] :=
  forkedLedger_recorded _ _ sampleGenesis_ne_shifted

theorem evidenceLedger_recorded :
    Recorded standardCrates evidenceLedger [sampleGenesis, promotionEvidence] :=
  forkedLedger_recorded _ _ (by
    have apart := sampleGenesis_ne_shifted
    rwa [shiftedPromotion_hash] at apart)

theorem shifted_injOn : Set.InjOn standardCrates.sha.hex
    (hashedTexts [sampleGenesis, shiftedPromotion] ∪ hashedTexts [sampleGenesis, promotionEvidence]) :=
  injOn_forks _ _ _ _ shiftedPromotion_distinct shiftedPromotion_preimage rfl

theorem shifted_same_head {ecdsa : Ecdsa} {now : String} {reportA reportB : LedgerAuditReport}
    (auditA : verifyChainIntegrity standardCrates ecdsa now shiftedLedger none = .ok reportA)
    (auditB : verifyChainIntegrity standardCrates ecdsa now evidenceLedger none = .ok reportB) :
    reportA.latestBlockHash = reportB.latestBlockHash := by
  have shifted : Recorded standardCrates shiftedLedger ([sampleGenesis] ++ [_]) := shiftedLedger_recorded
  have evidence : Recorded standardCrates evidenceLedger ([sampleGenesis] ++ [_]) := evidenceLedger_recorded
  rw [shifted.latestBlockHash auditA, evidence.latestBlockHash auditB, shiftedPromotion_hash]

theorem ledgers_eq_iff_framing_shifted :
    ([sampleGenesis, shiftedPromotion] = [sampleGenesis, promotionEvidence] ↔
      SameFraming [sampleGenesis, shiftedPromotion] [sampleGenesis, promotionEvidence]) ∧
    (shiftedLedger.blocks.rows = evidenceLedger.blocks.rows ↔
      SameFraming [sampleGenesis, shiftedPromotion] [sampleGenesis, promotionEvidence] ∧
        SameParsedTexts shiftedLedger.blocks.rows evidenceLedger.blocks.rows) := by
  obtain ⟨reportA, auditA⟩ := shiftedLedger_recorded.audit (Ecdsa.single 0 0 [] []) "2026-01-03T00:00:00+00:00"
  obtain ⟨reportB, auditB⟩ := evidenceLedger_recorded.audit (Ecdsa.single 0 0 [] []) "2026-01-03T00:00:00+00:00"
  refine ledgers_eq_iff_framing auditA auditB shiftedLedger_recorded.allBlocks
    evidenceLedger_recorded.allBlocks shifted_injOn ?_
  exact shifted_same_head auditA auditB

theorem shifted_ledgers_share_head :
    ∃ reportA reportB,
      verifyChainIntegrity standardCrates (Ecdsa.single 0 0 [] []) "2026-01-03T00:00:00+00:00"
        shiftedLedger none = .ok reportA ∧
      verifyChainIntegrity standardCrates (Ecdsa.single 0 0 [] []) "2026-01-03T00:00:00+00:00"
        evidenceLedger none = .ok reportB ∧
      reportA.latestBlockHash = reportB.latestBlockHash ∧
      allBlocks standardCrates shiftedLedger = .ok [sampleGenesis, shiftedPromotion] ∧
      allBlocks standardCrates evidenceLedger = .ok [sampleGenesis, promotionEvidence] ∧
      Set.InjOn standardCrates.sha.hex
        (hashedTexts [sampleGenesis, shiftedPromotion] ∪ hashedTexts [sampleGenesis, promotionEvidence]) ∧
      [sampleGenesis, shiftedPromotion] ≠ [sampleGenesis, promotionEvidence] := by
  obtain ⟨reportA, auditA⟩ := shiftedLedger_recorded.audit (Ecdsa.single 0 0 [] []) "2026-01-03T00:00:00+00:00"
  obtain ⟨reportB, auditB⟩ := evidenceLedger_recorded.audit (Ecdsa.single 0 0 [] []) "2026-01-03T00:00:00+00:00"
  refine ⟨reportA, reportB, auditA, auditB, ?_, shiftedLedger_recorded.allBlocks,
    evidenceLedger_recorded.allBlocks, shifted_injOn, ?_⟩
  · exact shifted_same_head auditA auditB
  · intro same
    have types := congrArg (List.map LedgerBlock.blockType) same
    cases types

end Ambiguity

end SparkRsi.Ledger
