import SparkRsi.Ledger.Db
import SparkRsi.Shared.HashChain

set_option autoImplicit false

namespace SparkRsi.Ledger

open Shared

structure LedgerAuditReport where
  totalBlocks : UInt64
  totalBlobs : UInt64
  latestSequence : UInt64
  latestBlockHash : String
  merkleRoot : String
  checkpointVerified : Bool
  signatureVerified : Bool
  chainValid : Bool
  auditTimestampUtc : String
  checkpointSequence : Option UInt64
  blocksAfterCheckpoint : UInt64
  deriving DecidableEq

section Walk

variable (sha : HexHash) (store : BlobStore)

def checkBlobs (sequence : UInt64) : List String → Except String Unit
  | [] => .ok ()
  | bh :: rest => do
    refuseIf (verifyBlob sha store bh = false)
      s!"Audit failed: Content-addressed blob {bh} missing or corrupted at block sequence {sequence}"
    checkBlobs sequence rest

def checkGenesis (genesis : LedgerBlock) : Except String Unit := do
  refuseIf (genesis.sequence ≠ 0)
    s!"Audit failed: Genesis block sequence is {genesis.sequence}, expected 0"
  refuseIf (genesis.blockType ≠ .genesis)
    s!"Audit failed: Genesis block type is {genesis.blockType.debug}, expected GENESIS"
  refuseIf (genesis.prevBlockHash ≠ LedgerBlock.genesisPrevHash)
    s!"Audit failed: Genesis block prev_block_hash is {genesis.prevBlockHash}, expected {LedgerBlock.genesisPrevHash}"
  genesis.verifyIntegrity sha

def checkChain : Nat → LedgerBlock → List LedgerBlock → Except String Unit
  | _, _, [] => .ok ()
  | i, prevBlock, block :: rest => do
    refuseIf (block.sequence ≠ UInt64.ofNat i)
      s!"Audit failed: Block sequence gap at index {i}: sequence is {block.sequence}"
    refuseIf (block.prevBlockHash ≠ prevBlock.blockHash)
      s!"Audit failed: Hash chain broken at sequence {block.sequence}. Stored prev_hash={block.prevBlockHash}, predecessor hash={prevBlock.blockHash}"
    block.verifyIntegrity sha
    checkBlobs sha store block.sequence block.blobHashes
    checkChain (i + 1) block rest

/-- What the walk over the blocks establishes. The blobs of the genesis block are not looked at. -/
structure Audited (blocks : List LedgerBlock) : Prop where
  nonempty : blocks ≠ []
  sequences : blocks.map LedgerBlock.sequence = (List.range blocks.length).map UInt64.ofNat
  genesisType : ∀ genesis ∈ blocks.head?, genesis.blockType = .genesis
  genesisPrev : ∀ genesis ∈ blocks.head?, genesis.prevBlockHash = LedgerBlock.genesisPrevHash
  intact : ∀ block ∈ blocks, block.Intact sha
  linked : HashChain.Linked LedgerBlock.prevBlockHash LedgerBlock.blockHash blocks
  blobs : ∀ block ∈ blocks.tail, ∀ bh ∈ block.blobHashes, verifyBlob sha store bh = true

variable {sha store}

theorem checkBlobs_ok (sequence : UInt64) (blobHashes : List String) :
    checkBlobs sha store sequence blobHashes = .ok () ↔
      ∀ bh ∈ blobHashes, verifyBlob sha store bh = true := by
  induction blobHashes with
  | nil => simp [checkBlobs]
  | cons bh rest ih => simp [checkBlobs, then_eq_ok, ih]

theorem checkGenesis_ok (genesis : LedgerBlock) :
    checkGenesis sha genesis = .ok () ↔ genesis.sequence = 0 ∧ genesis.blockType = .genesis ∧
      genesis.prevBlockHash = LedgerBlock.genesisPrevHash ∧ genesis.Intact sha := by
  simp [checkGenesis, then_eq_ok, LedgerBlock.verifyIntegrity_ok]

theorem checkChain_ok (i : Nat) (prevBlock : LedgerBlock) (rest : List LedgerBlock) :
    checkChain sha store i prevBlock rest = .ok () ↔
      rest.map LedgerBlock.sequence = (List.range' i rest.length).map UInt64.ofNat ∧
      HashChain.Linked LedgerBlock.prevBlockHash LedgerBlock.blockHash (prevBlock :: rest) ∧
      (∀ block ∈ rest, block.Intact sha) ∧
      ∀ block ∈ rest, ∀ bh ∈ block.blobHashes, verifyBlob sha store bh = true := by
  induction rest generalizing i prevBlock with
  | nil => simp [checkChain, HashChain.Linked]
  | cons block rest ih =>
    simp only [checkChain, then_eq_ok, refuseIf_eq_ok, LedgerBlock.verifyIntegrity_ok, checkBlobs_ok, ih,
      HashChain.linked_cons_cons, List.map_cons, List.length_cons, List.range'_succ, List.cons.injEq,
      List.forall_mem_cons, not_not]
    tauto

theorem Audited.prevBlockHash_length {blocks : List LedgerBlock} (audited : Audited sha store blocks)
    (block : LedgerBlock) (member : block ∈ blocks) : (utf8 block.prevBlockHash).length = 64 := by
  cases blocks with
  | nil => simp at member
  | cons genesis rest =>
    rcases List.mem_cons.mp member with rfl | later
    · rw [audited.genesisPrev block rfl]; decide
    · obtain ⟨before, inside, named⟩ := audited.linked.exists_previous block later
      rw [named]
      exact (audited.intact before inside).blockHash_length

theorem Audited.blobHash_length {blocks : List LedgerBlock} (audited : Audited sha store blocks)
    (block : LedgerBlock) (member : block ∈ blocks.tail) (bh : String) (listed : bh ∈ block.blobHashes) :
    (utf8 bh).length = 64 := by
  obtain ⟨data, -, hash⟩ := verifyBlob_iff.mp (audited.blobs block member bh listed)
  rw [← hash]
  exact sha.length_hex data

-- The walk succeeds exactly on audited blocks.
theorem walk_ok (genesis : LedgerBlock) (rest : List LedgerBlock) :
    (checkGenesis sha genesis = .ok () ∧ checkChain sha store 1 genesis rest = .ok ()) ↔
      Audited sha store (genesis :: rest) := by
  rw [checkGenesis_ok, checkChain_ok]
  have indices : List.range (rest.length + 1) = 0 :: List.range' 1 rest.length := by
    rw [List.range_eq_range', List.range'_succ]
  constructor
  · rintro ⟨⟨first, type, prev, intact⟩, sequences, linked, intactRest, blobs⟩
    exact
      { nonempty := by simp
        sequences := by simp [indices, first, sequences]
        genesisType := by simpa using type
        genesisPrev := by simpa using prev
        intact := by simpa using ⟨intact, intactRest⟩
        linked
        blobs }
  · intro audited
    have sequences := audited.sequences
    simp only [List.map_cons, List.length_cons, indices, List.cons.injEq] at sequences
    have intact := audited.intact
    simp only [List.forall_mem_cons] at intact
    exact ⟨⟨sequences.1, audited.genesisType genesis rfl, audited.genesisPrev genesis rfl, intact.1⟩,
      sequences.2, audited.linked, intact.2, audited.blobs⟩

end Walk

section Audit

variable (crates : Crates) (ecdsa : Ecdsa)

structure Coverage where
  checkpointVerified : Bool
  signatureVerified : Bool
  checkpointSequence : Option UInt64
  blocksAfterCheckpoint : UInt64

def checkCoverage (leafHashes : List String) (latestSequence : UInt64)
    (verifyingKey : Option ecdsa.VerifyingKey) : Option MerkleCheckpoint → Except String Coverage
  | none => .ok
      { checkpointVerified := false, signatureVerified := false, checkpointSequence := none
        blocksAfterCheckpoint := UInt64.ofNat leafHashes.length }
  | some checkpoint => do
    refuseIf (checkpoint.upToSequence > latestSequence)
      s!"Audit failed: Checkpoint covers sequence {checkpoint.upToSequence} but the ledger ends at {latestSequence}"
    let covered := leafHashes.take (checkpoint.upToSequence.toNat + 1)
    refuseIf (checkpoint.blockCount ≠ UInt64.ofNat covered.length)
      s!"Audit failed: Checkpoint block count mismatch: stored={checkpoint.blockCount}, covered={covered.length}"
    let coveredRoot := computeMerkleRoot crates.sha covered
    refuseIf (checkpoint.merkleRoot ≠ coveredRoot)
      s!"Audit failed: Checkpoint Merkle root mismatch: stored={checkpoint.merkleRoot}, computed={coveredRoot}"
    let coverage := fun signatureVerified =>
      { checkpointVerified := true, signatureVerified
        checkpointSequence := some checkpoint.upToSequence
        blocksAfterCheckpoint := latestSequence - checkpoint.upToSequence : Coverage }
    match verifyingKey with
    | none => .ok (coverage false)
    | some vk =>
      if checkpoint.verifySignature ecdsa vk then .ok (coverage true)
      else .error "Audit failed: Checkpoint Merkle root signature verification failed"

def auditReport (now : String) (blocks : List LedgerBlock) (latest : LedgerBlock) (coverage : Coverage) :
    LedgerAuditReport :=
  { totalBlocks := UInt64.ofNat blocks.length
    totalBlobs := UInt64.ofNat (blocks.tail.map fun block => block.blobHashes.length).sum
    latestSequence := latest.sequence
    latestBlockHash := latest.blockHash
    merkleRoot := computeMerkleRoot crates.sha (blocks.map LedgerBlock.blockHash)
    checkpointVerified := coverage.checkpointVerified
    signatureVerified := coverage.signatureVerified
    chainValid := true
    auditTimestampUtc := now
    checkpointSequence := coverage.checkpointSequence
    blocksAfterCheckpoint := coverage.blocksAfterCheckpoint }

def verifyChainIntegrity (now : String) (ledger : ImprovementLedger)
    (verifyingKey : Option ecdsa.VerifyingKey) : Except String LedgerAuditReport := do
  match ← allBlocks crates ledger with
  | [] => .error "Audit failed: ledger is empty (no Genesis block)"
  | genesis :: rest =>
    checkGenesis crates.sha genesis
    checkChain crates.sha ledger.blobStore 1 genesis rest
    let latest := rest.getLastD genesis
    let checkpoint ← latestCheckpoint crates ledger
    let coverage ← checkCoverage crates ecdsa ((genesis :: rest).map LedgerBlock.blockHash)
      latest.sequence verifyingKey checkpoint
    return auditReport crates now (genesis :: rest) latest coverage

variable {crates ecdsa} {now : String} {ledger : ImprovementLedger}
  {verifyingKey : Option ecdsa.VerifyingKey} {report : LedgerAuditReport}

-- A checkpoint is accepted for its sequence, its block count, its root and its signature.
theorem checkCoverage_some_ok {leafHashes : List String} {latestSequence : UInt64}
    {checkpoint : MerkleCheckpoint} {coverage : Coverage} :
    checkCoverage crates ecdsa leafHashes latestSequence verifyingKey (some checkpoint) = .ok coverage ↔
      checkpoint.upToSequence ≤ latestSequence ∧
      checkpoint.blockCount =
        UInt64.ofNat (leafHashes.take (checkpoint.upToSequence.toNat + 1)).length ∧
      checkpoint.merkleRoot =
        computeMerkleRoot crates.sha (leafHashes.take (checkpoint.upToSequence.toNat + 1)) ∧
      (∀ key ∈ verifyingKey, checkpoint.verifySignature ecdsa key = true) ∧
      coverage =
        { checkpointVerified := true, signatureVerified := verifyingKey.isSome
          checkpointSequence := some checkpoint.upToSequence
          blocksAfterCheckpoint := latestSequence - checkpoint.upToSequence } := by
  simp only [checkCoverage, then_eq_ok, refuseIf_eq_ok, gt_iff_lt, UInt64.not_lt, not_not]
  refine and_congr_right fun _ => and_congr_right fun _ => and_congr_right fun _ => ?_
  cases verifyingKey with
  | none =>
    constructor
    · rintro ⟨⟩
      exact ⟨by simp, rfl⟩
    · rintro ⟨-, rfl⟩
      rfl
  | some key =>
    by_cases signed : checkpoint.verifySignature ecdsa key = true
    · simp only [signed, if_true]
      constructor
      · rintro ⟨⟩
        exact ⟨by simpa using signed, rfl⟩
      · rintro ⟨-, rfl⟩
        rfl
    · simp [signed]

structure Accepted (crates : Crates) (ecdsa : Ecdsa) (now : String) (ledger : ImprovementLedger)
    (verifyingKey : Option ecdsa.VerifyingKey) (report : LedgerAuditReport)
    (blocks : List LedgerBlock) (latest : LedgerBlock) (checkpoint : Option MerkleCheckpoint)
    (coverage : Coverage) : Prop where
  stored : allBlocks crates ledger = .ok blocks
  audited : Audited crates.sha ledger.blobStore blocks
  last : blocks.getLast? = some latest
  newest : latestCheckpoint crates ledger = .ok checkpoint
  covered : checkCoverage crates ecdsa (blocks.map LedgerBlock.blockHash) latest.sequence verifyingKey
    checkpoint = .ok coverage
  report_eq : report = auditReport crates now blocks latest coverage

theorem verifyChainIntegrity_ok :
    verifyChainIntegrity crates ecdsa now ledger verifyingKey = .ok report ↔
      ∃ blocks latest checkpoint coverage,
        Accepted crates ecdsa now ledger verifyingKey report blocks latest checkpoint coverage := by
  simp only [verifyChainIntegrity, bind_eq_ok]
  constructor
  · rintro ⟨blocks, stored, walked⟩
    cases blocks with
    | nil => cases walked
    | cons genesis rest =>
      simp only [bind_eq_ok] at walked
      obtain ⟨_, first, _, chain, checkpoint, newest, coverage, covered, ⟨⟩⟩ := walked
      exact ⟨_, _, checkpoint, coverage, stored, walk_ok genesis rest |>.mp ⟨first, chain⟩,
        by simp [List.getLast?_cons], newest, covered, rfl⟩
  · rintro ⟨blocks, latest, checkpoint, coverage, accepted⟩
    cases blocks with
    | nil => exact absurd rfl accepted.audited.nonempty
    | cons genesis rest =>
      have walked := (walk_ok genesis rest).mpr accepted.audited
      have last : rest.getLastD genesis = latest := by
        simpa [List.getLast?_cons] using accepted.last
      refine ⟨_, accepted.stored, ?_⟩
      simp only [bind_eq_ok]
      exact ⟨(), walked.1, (), walked.2, checkpoint, accepted.newest, coverage,
        by rw [last]; exact accepted.covered, by rw [last, accepted.report_eq]; rfl⟩

theorem allBlocks_ok {blocks : List LedgerBlock} :
    allBlocks crates ledger = .ok blocks ↔
      List.Forall₂ (fun row block => auditedRow crates row = .ok block) ledger.blocks.rows blocks :=
  mapM_eq_ok

theorem toNat_toUInt64 (n : Int64) (nonnegative : 0 ≤ n.toInt) : (n.toUInt64.toNat : Int) = n.toInt := by
  have cond := BitVec.toInt_eq_toNat_cond n.toBitVec
  have below := n.toBitVec.isLt
  change 0 ≤ n.toBitVec.toInt at nonnegative
  change (n.toBitVec.toNat : Int) = n.toBitVec.toInt
  split at cond <;> omega

-- Stored sequences are strictly increasing, so wrapped sequences cannot pass for indices.
theorem Audited.row_sequence {blocks : List LedgerBlock}
    (audited : Audited crates.sha ledger.blobStore blocks) (stored : allBlocks crates ledger = .ok blocks)
    (i : Nat) (inside : i < ledger.blocks.rows.length) : ledger.blocks.rows[i].sequence.toInt = i := by
  have read := allBlocks_ok.mp stored
  have size : ledger.blocks.rows.length = blocks.length := read.length_eq
  have sequence (j : Nat) (bound : j < ledger.blocks.rows.length) :
      ledger.blocks.rows[j].sequence.toUInt64 = UInt64.ofNat j := by
    obtain ⟨texts, -, built⟩ := auditedRow_eq_ok.mp (read.get bound (size ▸ bound))
    have indexed := congrArg (·[j]?) audited.sequences
    simp only [List.getElem?_map, List.getElem?_eq_getElem (size ▸ bound), Option.map_some,
      List.getElem?_range (size ▸ bound), Option.some.injEq] at indexed
    rw [← indexed]
    simp only [List.get_eq_getElem] at built
    rw [built]
    rfl
  have increasing := List.pairwise_iff_getElem.mp ledger.blocks.ordered
  have atLeast (j : Nat) (bound : j < ledger.blocks.rows.length) :
      (j : Int) ≤ ledger.blocks.rows[j].sequence.toInt := by
    induction j with
    | zero =>
      have zero : ledger.blocks.rows[0].sequence = 0 := congrArg UInt64.toInt64 (sequence 0 bound)
      simp [zero]
    | succ j ih =>
      have before := ih (by omega)
      have above := increasing j (j + 1) (by omega) bound (by omega)
      push_cast
      omega
  have low := atLeast i inside
  have value := toNat_toUInt64 ledger.blocks.rows[i].sequence (by omega)
  rw [sequence i inside, UInt64.toNat_ofNat'] at value
  omega

theorem Audited.block_sequence {blocks : List LedgerBlock}
    (audited : Audited crates.sha ledger.blobStore blocks) (stored : allBlocks crates ledger = .ok blocks)
    (i : Nat) (inside : i < blocks.length) : blocks[i].sequence.toNat = i := by
  have read := allBlocks_ok.mp stored
  have bound : i < ledger.blocks.rows.length := read.length_eq ▸ inside
  have sequence := audited.row_sequence stored i bound
  have value := toNat_toUInt64 ledger.blocks.rows[i].sequence (by omega)
  obtain ⟨texts, -, built⟩ := auditedRow_eq_ok.mp (read.get bound inside)
  simp only [List.get_eq_getElem] at built
  have same : blocks[i].sequence = ledger.blocks.rows[i].sequence.toUInt64 := by rw [built]; rfl
  rw [same]
  omega

theorem Audited.latest_sequence {blocks : List LedgerBlock} {latest : LedgerBlock}
    (audited : Audited crates.sha ledger.blobStore blocks) (stored : allBlocks crates ledger = .ok blocks)
    (last : blocks.getLast? = some latest) : latest.sequence.toNat + 1 = blocks.length := by
  have nonempty := List.length_pos_iff.mpr audited.nonempty
  rw [List.getLast?_eq_getElem?, List.getElem?_eq_getElem (by omega), Option.some.injEq] at last
  rw [← last, audited.block_sequence stored _ (by omega)]
  omega

end Audit

end SparkRsi.Ledger
