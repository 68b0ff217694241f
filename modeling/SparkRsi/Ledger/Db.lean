import SparkRsi.Ledger.Store
import SparkRsi.Supervisor.Generation

set_option autoImplicit false

namespace SparkRsi.Ledger

open Shared Supervisor

/-- The blocks table: `sequence` is its primary key, `block_hash` is unique. -/
structure BlockTable extends KeyedTable BlockRow (fun row => row.sequence.toInt) where
  unique : (rows.map BlockRow.blockHash).Nodup

structure CheckpointRow where
  upToSequence : Int64
  merkleRoot : SqlValue
  blockCount : SqlValue
  timestampUtc : SqlValue
  signature : SqlValue
  deriving DecidableEq

abbrev CheckpointTable := KeyedTable CheckpointRow fun row => row.upToSequence.toInt

abbrev BlobStore := String → Option (Except String Bytes)

structure ImprovementLedger where
  blocks : BlockTable
  checkpoints : CheckpointTable
  blobStore : BlobStore

structure Io where
  now : String
  queryFault : Option String
  insertFault : Option String
  blobFault : Option String

def Io.calm (now : String) : Io := { now, queryFault := none, insertFault := none, blobFault := none }

section Blobs

variable (sha : HexHash)

/-- An existing file is taken as it is. -/
def putBlob (store : BlobStore) (blobFault : Option String) (data : Bytes) :
    Except String String × BlobStore :=
  let digest := sha.hex data
  if (store digest).isSome then (.ok digest, store)
  else
    match blobFault with
    | some e => (.error e, store)
    | none => (.ok digest, Function.update store digest (some (.ok data)))

def getBlob (store : BlobStore) (digest : String) : Except String Bytes :=
  match store digest with
  | none => .error s!"Blob not found: {digest}"
  | some (.error e) => .error s!"Failed to read blob: {e}"
  | some (.ok data) =>
    let computed := sha.hex data
    if computed ≠ digest then .error s!"Blob corrupted: expected={digest}, computed={computed}" else .ok data

def verifyBlob (store : BlobStore) (digest : String) : Bool := (getBlob sha store digest).isOk

variable {sha}

theorem verifyBlob_iff {store : BlobStore} {digest : String} :
    verifyBlob sha store digest = true ↔ ∃ data, store digest = some (.ok data) ∧ sha.hex data = digest := by
  unfold verifyBlob getBlob
  cases store digest with
  | none => simp [Except.isOk, Except.toBool]
  | some file =>
    cases file with
    | error e => simp [Except.isOk, Except.toBool]
    | ok data =>
      by_cases same : sha.hex data = digest <;> simp [same, Except.isOk, Except.toBool]

end Blobs

section Reading

variable (crates : Crates) (ledger : ImprovementLedger)

def latestBlock : Except String (Option LedgerBlock) :=
  match ledger.blocks.latest? with
  | none => .ok none
  | some row => (rowToBlock crates row).map some

def getBlock (sequence : UInt64) : Except String (Option LedgerBlock) :=
  match ledger.blocks.get? sequence.toInt64.toInt with
  | none => .ok none
  | some row => (rowToBlock crates row).map some

def allBlocks : Except String (List LedgerBlock) := ledger.blocks.rows.mapM (auditedRow crates)

def checkpointOfRow (row : CheckpointRow) : Except String MerkleCheckpoint := do
  let root ← getString crates 1 row.merkleRoot
  let count ← getI64 crates 2 row.blockCount
  let ts ← getString crates 3 row.timestampUtc
  let sig ← getOptionString crates 4 row.signature
  return { upToSequence := row.upToSequence.toUInt64, merkleRoot := root, blockCount := count.toUInt64
           timestampUtc := ts, signature := sig }

def latestCheckpoint : Except String (Option MerkleCheckpoint) :=
  match ledger.checkpoints.latest? with
  | none => .ok none
  | some row => (checkpointOfRow crates row).map some

end Reading

section Writing

variable (crates : Crates)

def BlockTable.Admits (table : BlockTable) (row : BlockRow) : Prop :=
  (∀ r ∈ table.rows, r.sequence ≠ row.sequence) ∧ row.blockHash ∉ table.rows.map BlockRow.blockHash

instance (table : BlockTable) (row : BlockRow) : Decidable (table.Admits row) := by
  unfold BlockTable.Admits; infer_instance

def BlockTable.insert (table : BlockTable) (row : BlockRow) (admitted : table.Admits row) : BlockTable where
  toKeyedTable := table.upsert row
  unique := by
    have fresh : ∀ r ∈ table.rows, r.sequence.toInt ≠ row.sequence.toInt := fun r member same =>
      admitted.1 r member (Int64.toInt_inj.mp same)
    have rows := KeyedTable.upsertRow_perm row table.rows fresh
    exact (rows.map BlockRow.blockHash).nodup_iff.mpr (List.nodup_cons.mpr ⟨admitted.2, table.unique⟩)

theorem BlockTable.mem_insert {table : BlockTable} {row other : BlockRow} (admitted : table.Admits row) :
    other ∈ (table.insert row admitted).rows ↔ other = row ∨ other ∈ table.rows := by
  have fresh : ∀ r ∈ table.rows, r.sequence.toInt ≠ row.sequence.toInt := fun r member same =>
    admitted.1 r member (Int64.toInt_inj.mp same)
  exact (KeyedTable.upsertRow_perm row table.rows fresh).mem_iff.trans List.mem_cons

def insertBlockInternal (io : Io) (ledger : ImprovementLedger) (block : LedgerBlock) :
    Except String ImprovementLedger :=
  let row := BlockRow.ofBlock crates block
  match io.insertFault with
  | some e => .error s!"Failed to insert block sequence {block.sequence}: {e}"
  | none =>
    if admitted : ledger.blocks.Admits row then
      .ok { ledger with blocks := ledger.blocks.insert row admitted }
    else if ∃ r ∈ ledger.blocks.rows, r.sequence = row.sequence then
      .error s!"Failed to insert block sequence {block.sequence}: UNIQUE constraint failed: blocks.sequence"
    else
      .error s!"Failed to insert block sequence {block.sequence}: UNIQUE constraint failed: blocks.block_hash"

def emptyLedger (blobStore : BlobStore) : ImprovementLedger where
  blocks := { KeyedTable.empty with unique := List.nodup_nil }
  checkpoints := KeyedTable.empty
  blobStore

def genesisPayload : Json :=
  .obj [("system", .str "spark-rsi"),
    ("law", .str "Build the cage, build the measuring instruments, then give the animal a bigger brain."),
    ("standard", .str "Apache-2.0 WITH LLVM-exception")]

def genesisBlock (io : Io) : LedgerBlock :=
  LedgerBlock.new crates.sha 0 .genesis io.now LedgerBlock.genesisPrevHash (crates.payloadText genesisPayload) []

def freshLedger (io : Io) (blobStore : BlobStore) : ImprovementLedger where
  blocks :=
    { rows := [BlockRow.ofBlock crates (genesisBlock crates io)]
      ordered := List.pairwise_singleton _ _
      unique := List.nodup_singleton _ }
  checkpoints := KeyedTable.empty
  blobStore

def openLedger (io : Io) (ledger : ImprovementLedger) : Except String ImprovementLedger := do
  faulty io.queryFault
  match ← latestBlock crates ledger with
  | some _ => return ledger
  | none => insertBlockInternal crates io ledger (genesisBlock crates io)

def nextBlock (io : Io) (latest : LedgerBlock) (blockType : BlockType) (payloadJson : String)
    (blobHashes : List String) : LedgerBlock :=
  LedgerBlock.new crates.sha (latest.sequence + 1) blockType io.now latest.blockHash payloadJson blobHashes

def appendBlock (io : Io) (ledger : ImprovementLedger) (blockType : BlockType) (payloadJson : String)
    (blobHashes : List String) : Except String (LedgerBlock × ImprovementLedger) := do
  faulty io.queryFault
  let latest ← latestBlock crates ledger
  let latest ← okOr "Cannot append to uninitialized ledger (Genesis block missing)" latest
  let block := nextBlock crates io latest blockType payloadJson blobHashes
  let ledger ← insertBlockInternal crates io ledger block
  return (block, ledger)

/-- The ledger after a write; callers keep the ledger when a write fails. -/
def kept (ledger : ImprovementLedger) {α : Type} (result : Except String (α × ImprovementLedger)) :
    ImprovementLedger :=
  match result with
  | .ok (_, after) => after
  | .error _ => ledger

def putMetrics (io : Io) (store : BlobStore) : Option Bytes → Except String (List String) × BlobStore
  | none => (.ok [], store)
  | some metricBytes =>
    let put := putBlob crates.sha store io.blobFault metricBytes
    (put.1.map fun digest => [digest], put.2)

def appendEvaluation (io : Io) (ledger : ImprovementLedger) (receipt : Except String String)
    (rawMetrics : Option Bytes) : Except String LedgerBlock × ImprovementLedger :=
  let put := putMetrics crates io ledger.blobStore rawMetrics
  let stored := { ledger with blobStore := put.2 }
  let appended : Except String (LedgerBlock × ImprovementLedger) := do
    let blobHashes ← put.1
    let payloadJson ← receipt.mapError fun e => s!"Failed to serialize EvaluationReceipt: {e}"
    appendBlock crates io stored .evaluation payloadJson blobHashes
  match appended with
  | .ok (block, after) => (.ok block, after)
  | .error e => (.error e, stored)

def promotionPayload (genInfo : GenerationInfo) (receiptDigest : String) : Json :=
  .obj [("generation_id", .str genInfo.generationId), ("installed_path", .str genInfo.installedPath),
    ("receipt_digest", .str receiptDigest), ("state", .str genInfo.state.debug),
    ("staged_timestamp", .str genInfo.stagedTimestamp)]

def appendPromotion (io : Io) (ledger : ImprovementLedger) (genInfo : GenerationInfo)
    (receiptDigest : String) :
    Except String (LedgerBlock × ImprovementLedger) :=
  appendBlock crates io ledger .promotion (crates.payloadText (promotionPayload genInfo receiptDigest)) []

def appendRollback (io : Io) (ledger : ImprovementLedger) (generationId reason rolledBackAt : String) :
    Except String (LedgerBlock × ImprovementLedger) :=
  appendBlock crates io ledger .rollback
    (crates.payloadText (.obj [("generation_id", .str generationId), ("reason", .str reason),
      ("rolled_back_at", .str rolledBackAt)])) []

def PromotionEvidencePayload.json (evidence : PromotionEvidencePayload) : Json :=
  .obj [("meta_candidate_block_hash", .str evidence.metaCandidateBlockHash),
    ("downstream_cycle_id", .str evidence.downstreamCycleId),
    ("downstream_ledger_block_hash", .str evidence.downstreamLedgerBlockHash),
    ("capability_improvement_proof", .str evidence.capabilityImprovementProof),
    ("final_classification", .str evidence.finalClassification)]

def appendPromotionEvidence (io : Io) (ledger : ImprovementLedger) (evidence : PromotionEvidencePayload) :
    Except String (LedgerBlock × ImprovementLedger) :=
  appendBlock crates io ledger .promotionEvidence (crates.payloadText evidence.json) []

def checkpointRow (checkpoint : MerkleCheckpoint) : CheckpointRow where
  upToSequence := checkpoint.upToSequence.toInt64
  merkleRoot := .text checkpoint.merkleRoot
  blockCount := .integer checkpoint.blockCount.toInt64
  timestampUtc := .text checkpoint.timestampUtc
  signature := match checkpoint.signature with
    | none => .null
    | some sig => .text sig

def checkpointOver (ecdsa : Ecdsa) (now : String) (signingKey : Option ecdsa.SigningKey)
    (blocks : List LedgerBlock) : Except String MerkleCheckpoint :=
  match blocks.getLast? with
  | none => .error "Cannot create checkpoint on empty ledger"
  | some last =>
    let unsigned := MerkleCheckpoint.new now last.sequence
      (computeMerkleRoot crates.sha (blocks.map LedgerBlock.blockHash)) (UInt64.ofNat blocks.length)
    .ok (match signingKey with
      | none => unsigned
      | some key => unsigned.sign ecdsa key)

def checkpoint (ecdsa : Ecdsa) (io : Io) (ledger : ImprovementLedger) (signingKey : Option ecdsa.SigningKey) :
    Except String (MerkleCheckpoint × ImprovementLedger) := do
  faulty io.queryFault
  let blocks ← allBlocks crates ledger
  let made ← checkpointOver crates ecdsa io.now signingKey blocks
  (faulty io.insertFault).mapError fun e => s!"Failed to store Merkle checkpoint: {e}"
  return (made, { ledger with checkpoints := ledger.checkpoints.upsert (checkpointRow made) })

end Writing

section Effects

variable {crates : Crates} {io : Io} {ledger : ImprovementLedger}

theorem insertBlockInternal_eq_ok {block : LedgerBlock} {after : ImprovementLedger} :
    insertBlockInternal crates io ledger block = .ok after ↔
      io.insertFault = none ∧ ∃ admitted : ledger.blocks.Admits (.ofBlock crates block),
        after = { ledger with blocks := ledger.blocks.insert _ admitted } := by
  unfold insertBlockInternal
  cases io.insertFault with
  | some e => simp
  | none =>
    by_cases admitted : ledger.blocks.Admits (.ofBlock crates block)
    · simp [admitted, eq_comm]
    · simp only [admitted, dite_false, IsEmpty.exists_iff, and_false, iff_false]
      split <;> simp

-- A stored checkpoint reads back.
theorem checkpointOfRow_checkpointRow (stored : MerkleCheckpoint) :
    checkpointOfRow crates (checkpointRow stored) = .ok stored := by
  obtain ⟨upToSequence, merkleRoot, blockCount, timestampUtc, signature⟩ := stored
  cases signature <;> rfl

theorem openLedger_empty {blobStore : BlobStore} {opened : ImprovementLedger} :
    openLedger crates io (emptyLedger blobStore) = .ok opened ↔
      io.queryFault = none ∧ io.insertFault = none ∧ opened = freshLedger crates io blobStore := by
  have fresh : latestBlock crates (emptyLedger blobStore) = .ok none := rfl
  rw [openLedger, then_eq_ok, faulty_eq_ok, fresh]
  refine and_congr_right fun _ => ?_
  change insertBlockInternal crates io _ _ = _ ↔ _
  rw [insertBlockInternal_eq_ok]
  refine and_congr_right fun _ => ?_
  have admitted : (emptyLedger blobStore).blocks.Admits (.ofBlock crates (genesisBlock crates io)) :=
    ⟨by simp [emptyLedger, KeyedTable.empty], by simp [emptyLedger, KeyedTable.empty]⟩
  exact ⟨fun ⟨_, built⟩ => built, fun built => ⟨admitted, built⟩⟩

theorem appendBlock_eq_ok {blockType : BlockType} {payloadJson : String} {blobHashes : List String}
    {result : LedgerBlock × ImprovementLedger} :
    appendBlock crates io ledger blockType payloadJson blobHashes = .ok result ↔
      io.queryFault = none ∧ io.insertFault = none ∧
        ∃ latest, latestBlock crates ledger = .ok (some latest) ∧
          ∃ admitted : ledger.blocks.Admits
              (.ofBlock crates (nextBlock crates io latest blockType payloadJson blobHashes)),
            result = (nextBlock crates io latest blockType payloadJson blobHashes,
              { ledger with blocks := ledger.blocks.insert _ admitted }) := by
  rw [appendBlock, then_eq_ok, faulty_eq_ok]
  simp only [bind_eq_ok, okOr_eq_ok, insertBlockInternal_eq_ok]
  constructor
  · rintro ⟨calm, _, read, latest, rfl, after, ⟨written, admitted, rfl⟩, ⟨⟩⟩
    exact ⟨calm, written, latest, read, admitted, rfl⟩
  · rintro ⟨calm, written, latest, read, admitted, rfl⟩
    exact ⟨calm, _, read, latest, rfl, _, ⟨written, admitted, rfl⟩, rfl⟩

-- A row with the largest sequence goes to the end.
theorem BlockTable.insert_rows_of_lt {table : BlockTable} {row : BlockRow} (admitted : table.Admits row)
    (larger : ∀ r ∈ table.rows, r.sequence.toInt < row.sequence.toInt) :
    (table.insert row admitted).rows = table.rows ++ [row] :=
  KeyedTable.upsert_rows_of_lt larger

end Effects

end SparkRsi.Ledger
