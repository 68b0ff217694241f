import SparkRsi.Ledger.Audit
import SparkRsi.Shared.Run

set_option autoImplicit false

namespace SparkRsi.Ledger

open Shared Supervisor

inductive LedgerWrite (ecdsa : Ecdsa) where
  | evaluation (receipt : Except String String) (rawMetrics : Option Bytes)
  | promotion (genInfo : GenerationInfo) (receiptDigest : String)
  | rollback (generationId reason rolledBackAt : String)
  | promotionEvidence (evidence : PromotionEvidencePayload)
  | block (blockType : BlockType) (payloadJson : String)
  | kernelReceipt (summary receiptJson : String)
  | checkpoint (signingKey : Option ecdsa.SigningKey)

section Steps

variable (crates : Crates) (ecdsa : Ecdsa)

def write (ledger : ImprovementLedger) : Io × LedgerWrite ecdsa → ImprovementLedger
  | (io, .evaluation receipt rawMetrics) => (appendEvaluation crates io ledger receipt rawMetrics).2
  | (io, .promotion genInfo receiptDigest) =>
    kept ledger (appendPromotion crates io ledger genInfo receiptDigest)
  | (io, .rollback generationId reason rolledBackAt) =>
    kept ledger (appendRollback crates io ledger generationId reason rolledBackAt)
  | (io, .promotionEvidence evidence) => kept ledger (appendPromotionEvidence crates io ledger evidence)
  | (io, .block blockType payloadJson) => kept ledger (appendBlock crates io ledger blockType payloadJson [])
  | (io, .kernelReceipt summary receiptJson) =>
    kept ledger (appendBlock crates io ledger .evaluation summary [crates.sha.hex (utf8 receiptJson)])
  | (io, .checkpoint signingKey) => kept ledger (checkpoint crates ecdsa io ledger signingKey)

/-- Room for one more sequence, and a kernel receipt either finds its blob stored
or does not reach the database. -/
def Backed (ledger : ImprovementLedger) : Io × LedgerWrite ecdsa → Prop
  | (io, .kernelReceipt _ receiptJson) => ledger.blocks.rows.length < 2 ^ 63 ∧
      (io.queryFault = none → io.insertFault = none →
        verifyBlob crates.sha ledger.blobStore (crates.sha.hex (utf8 receiptJson)) = true)
  | _ => ledger.blocks.rows.length < 2 ^ 63

end Steps

def CheckpointOf (sha : HexHash) (blocks : List LedgerBlock) (row : CheckpointRow) : Prop :=
  ∃ n now signature, 0 < n ∧ n ≤ blocks.length ∧
    row = checkpointRow
      { upToSequence := UInt64.ofNat (n - 1)
        merkleRoot := computeMerkleRoot sha ((blocks.take n).map LedgerBlock.blockHash)
        blockCount := UInt64.ofNat n
        timestampUtc := now
        signature }

def ContentAddressed (sha : HexHash) (store : BlobStore) : Prop :=
  ∀ digest file, store digest = some file → ∃ data, file = .ok data ∧ sha.hex data = digest

structure Recorded (crates : Crates) (ledger : ImprovementLedger) (blocks : List LedgerBlock) : Prop where
  rows : ledger.blocks.rows = blocks.map (BlockRow.ofBlock crates)
  bounded : blocks.length ≤ 2 ^ 63
  audited : Audited crates.sha ledger.blobStore blocks
  checkpoints : ∀ row ∈ ledger.checkpoints.rows, CheckpointOf crates.sha blocks row
  blobs : ContentAddressed crates.sha ledger.blobStore

section Reading

variable {crates : Crates} {ledger : ImprovementLedger} {blocks : List LedgerBlock}

theorem Recorded.allBlocks (recorded : Recorded crates ledger blocks) :
    allBlocks crates ledger = .ok blocks := by
  rw [allBlocks_ok, recorded.rows, List.forall₂_map_left_iff, List.forall₂_same]
  exact fun block _ => auditedRow_of_rowToBlock (rowToBlock_ofBlock block)

theorem Recorded.latestBlock (recorded : Recorded crates ledger blocks) :
    latestBlock crates ledger = .ok blocks.getLast? := by
  rw [Ledger.latestBlock, KeyedTable.latest?, recorded.rows, List.getLast?_map]
  cases blocks.getLast? with
  | none => rfl
  | some latest => simp [rowToBlock_ofBlock, Except.map]

theorem Recorded.checkpointCovers (recorded : Recorded crates ledger blocks) (ecdsa : Ecdsa)
    {latest : LedgerBlock} (last : blocks.getLast? = some latest) :
    ∃ checkpoint coverage, latestCheckpoint crates ledger = .ok checkpoint ∧
      checkCoverage crates ecdsa (blocks.map LedgerBlock.blockHash) latest.sequence none checkpoint =
        .ok coverage := by
  unfold latestCheckpoint KeyedTable.latest?
  cases newest : ledger.checkpoints.rows.getLast? with
  | none => exact ⟨none, _, rfl, rfl⟩
  | some row =>
    obtain ⟨n, now, signature, positive, inside, rfl⟩ :=
      recorded.checkpoints row (List.mem_of_getLast? newest)
    have total := recorded.bounded
    have sequence := recorded.audited.latest_sequence recorded.allBlocks last
    have small : (UInt64.ofNat (n - 1)).toNat = n - 1 := by simp; omega
    refine ⟨some _, _, congrArg (Except.map some) (checkpointOfRow_checkpointRow _),
      checkCoverage_some_ok.mpr ⟨?_, ?_, ?_, by simp, rfl⟩⟩
    · rw [UInt64.le_iff_toNat_le, small]
      omega
    · simp only [small, Nat.sub_add_cancel positive, List.length_take, List.length_map,
        Nat.min_eq_left inside]
    · simp only [small, Nat.sub_add_cancel positive, List.map_take]

-- A ledger the program wrote passes the audit.
theorem Recorded.audit (recorded : Recorded crates ledger blocks) (ecdsa : Ecdsa) (now : String) :
    ∃ report, verifyChainIntegrity crates ecdsa now ledger none = .ok report := by
  obtain ⟨latest, last⟩ : ∃ latest, blocks.getLast? = some latest :=
    ⟨_, List.getLast?_eq_some_getLast recorded.audited.nonempty⟩
  obtain ⟨checkpoint, coverage, newest, covered⟩ := recorded.checkpointCovers ecdsa last
  exact ⟨_, verifyChainIntegrity_ok.mpr ⟨blocks, latest, checkpoint, coverage,
    ⟨recorded.allBlocks, recorded.audited, last, newest, covered, rfl⟩⟩⟩

theorem Recorded.latestBlockHash {ecdsa : Ecdsa} {now : String} {report : LedgerAuditReport}
    {earlier : List LedgerBlock} {latest : LedgerBlock}
    (recorded : Recorded crates ledger (earlier ++ [latest]))
    (audit : verifyChainIntegrity crates ecdsa now ledger none = .ok report) :
    report.latestBlockHash = latest.blockHash := by
  obtain ⟨_, _, _, _, accepted⟩ := verifyChainIntegrity_ok.mp audit
  cases recorded.allBlocks.symm.trans accepted.stored
  have last := accepted.last
  rw [List.getLast?_concat, Option.some.injEq] at last
  rw [accepted.report_eq, last]
  rfl

end Reading

section Blobs

variable {sha : HexHash} {store : BlobStore} {fault : Option String} {data : Bytes}

theorem putBlob_verifies (addressed : ContentAddressed sha store) {digest : String}
    (put : (putBlob sha store fault data).1 = .ok digest) :
    verifyBlob sha (putBlob sha store fault data).2 digest = true := by
  rw [verifyBlob_iff]
  unfold putBlob at put ⊢
  cases present : store (sha.hex data) with
  | some file =>
    obtain ⟨old, rfl, hash⟩ := addressed _ _ present
    simp only [present, Option.isSome_some, if_true, Except.ok.injEq] at put ⊢
    exact ⟨old, put ▸ present, put ▸ hash⟩
  | none =>
    cases fault with
    | some e => simp [present] at put
    | none =>
      simp only [present, Option.isSome_none, Bool.false_eq_true, if_false, Except.ok.injEq] at put ⊢
      exact ⟨data, by simp [← put], put⟩

theorem putBlob_addressed (addressed : ContentAddressed sha store) :
    ContentAddressed sha (putBlob sha store fault data).2 := by
  unfold putBlob
  cases present : store (sha.hex data) with
  | some file => simpa [present] using addressed
  | none =>
    cases fault with
    | some e => simpa [present] using addressed
    | none =>
      intro digest file found
      by_cases same : digest = sha.hex data
      · simp [present, same] at found
        exact ⟨data, found.symm, same.symm⟩
      · simp [present, Function.update_of_ne same] at found
        exact addressed digest file found

-- A put never takes a verified blob away.
theorem putBlob_keeps {digest : String} (verified : verifyBlob sha store digest = true) :
    verifyBlob sha (putBlob sha store fault data).2 digest = true := by
  rw [verifyBlob_iff] at verified ⊢
  obtain ⟨old, found, hash⟩ := verified
  unfold putBlob
  cases present : store (sha.hex data) with
  | some file => exact ⟨old, by simpa [present] using found, hash⟩
  | none =>
    cases fault with
    | some e => exact ⟨old, by simpa [present] using found, hash⟩
    | none =>
      have apart : digest ≠ sha.hex data := by
        rintro rfl
        simp [present] at found
      exact ⟨old, by simpa [present, Function.update_of_ne apart] using found, hash⟩

theorem putMetrics_recorded {crates : Crates} (io : Io) {store : BlobStore}
    (addressed : ContentAddressed crates.sha store) (rawMetrics : Option Bytes) :
    ContentAddressed crates.sha (putMetrics crates io store rawMetrics).2 ∧
      (∀ digest, verifyBlob crates.sha store digest = true →
        verifyBlob crates.sha (putMetrics crates io store rawMetrics).2 digest = true) ∧
      ∀ listed, (putMetrics crates io store rawMetrics).1 = .ok listed →
        ∀ bh ∈ listed, verifyBlob crates.sha (putMetrics crates io store rawMetrics).2 bh = true := by
  cases rawMetrics with
  | none => exact ⟨addressed, fun _ verified => verified, by rintro _ ⟨⟩ bh member; simp at member⟩
  | some metricBytes =>
    refine ⟨putBlob_addressed addressed, fun _ => putBlob_keeps, fun listed mapped bh member => ?_⟩
    simp only [putMetrics] at mapped
    cases put : (putBlob crates.sha store io.blobFault metricBytes).1 with
    | error e => simp [put, Except.map] at mapped
    | ok digest =>
      simp only [put, Except.map, Except.ok.injEq] at mapped
      rw [← mapped, List.mem_singleton] at member
      rw [member]
      exact putBlob_verifies addressed put

-- Only the blobs depend on the store.
theorem Audited.withStore {other : BlobStore} {blocks : List LedgerBlock} (audited : Audited sha store blocks)
    (blobs : ∀ block ∈ blocks.tail, ∀ bh ∈ block.blobHashes, verifyBlob sha other bh = true) :
    Audited sha other blocks :=
  { audited with blobs }

theorem Audited.grow {grown : BlobStore} {blocks : List LedgerBlock} (audited : Audited sha store blocks)
    (keeps : ∀ digest, verifyBlob sha store digest = true → verifyBlob sha grown digest = true) :
    Audited sha grown blocks :=
  audited.withStore fun block member bh listed => keeps bh (audited.blobs block member bh listed)

end Blobs

section Preservation

variable {crates : Crates} {io : Io} {ledger : ImprovementLedger} {blocks : List LedgerBlock}

theorem Audited.append {sha : HexHash} {store : BlobStore} {latest block : LedgerBlock}
    (audited : Audited sha store blocks) (last : blocks.getLast? = some latest)
    (sequence : block.sequence = UInt64.ofNat blocks.length) (prev : block.prevBlockHash = latest.blockHash)
    (intact : block.Intact sha) (blobs : ∀ bh ∈ block.blobHashes, verifyBlob sha store bh = true) :
    Audited sha store (blocks ++ [block]) := by
  have head : (blocks ++ [block]).head? = blocks.head? := by
    rw [List.head?_append_of_ne_nil _ audited.nonempty]
  exact
    { nonempty := by simp
      sequences := by simp [List.range_succ, audited.sequences, sequence]
      genesisType := by rw [head]; exact audited.genesisType
      genesisPrev := by rw [head]; exact audited.genesisPrev
      intact := by
        intro b member
        rcases List.mem_append.mp member with old | new
        · exact audited.intact b old
        · rwa [List.mem_singleton.mp new]
      linked := (HashChain.linked_append_singleton blocks block).mpr
        ⟨audited.linked, fun named same => by rw [last] at same; cases same; exact prev⟩
      blobs := by
        intro b member
        rw [List.tail_append_of_ne_nil audited.nonempty] at member
        rcases List.mem_append.mp member with old | new
        · exact audited.blobs b old
        · rwa [List.mem_singleton.mp new] }

theorem CheckpointOf.append {sha : HexHash} {row : CheckpointRow} (block : LedgerBlock)
    (covers : CheckpointOf sha blocks row) : CheckpointOf sha (blocks ++ [block]) row := by
  obtain ⟨n, now, signature, positive, inside, rfl⟩ := covers
  refine ⟨n, now, signature, positive, by simp; omega, ?_⟩
  rw [List.take_append_of_le_length inside]

-- The one way an append succeeds on a recorded ledger.
theorem Recorded.append (recorded : Recorded crates ledger blocks) (room : blocks.length < 2 ^ 63)
    {blockType : BlockType} {payloadJson : String} {blobHashes : List String}
    {block : LedgerBlock} {after : ImprovementLedger}
    (blobs : ∀ bh ∈ blobHashes, verifyBlob crates.sha ledger.blobStore bh = true)
    (appended : appendBlock crates io ledger blockType payloadJson blobHashes = .ok (block, after)) :
    Recorded crates after (blocks ++ [block]) := by
  obtain ⟨-, -, latest, read, admitted, same⟩ := appendBlock_eq_ok.mp appended
  cases same
  rw [recorded.latestBlock, Except.ok.injEq] at read
  have latestSequence := recorded.audited.latest_sequence recorded.allBlocks read
  have sequence : latest.sequence + 1 = UInt64.ofNat blocks.length := by
    apply UInt64.toNat_inj.mp
    simp
    omega
  have stored (i : Nat) (inside : i < ledger.blocks.rows.length) :=
    recorded.audited.row_sequence recorded.allBlocks i inside
  have size : ledger.blocks.rows.length = blocks.length := by rw [recorded.rows, List.length_map]
  have newSequence : (latest.sequence + 1).toInt64.toInt = blocks.length := by
    rw [sequence, UInt64.toInt64_ofNat', Int64.toInt_ofNat_of_lt (by simpa using room)]
  have rows := BlockTable.insert_rows_of_lt admitted (by
    intro r member
    obtain ⟨i, inside, rfl⟩ := List.getElem_of_mem member
    rw [stored i inside]
    change (i : Int) < (latest.sequence + 1).toInt64.toInt
    rw [newSequence]
    omega)
  exact
    { rows := by rw [rows, recorded.rows, List.map_append]; rfl
      bounded := by simp; omega
      audited := recorded.audited.append read sequence rfl (LedgerBlock.new_intact _ _ _ _ _ _) blobs
      checkpoints := fun row member => (recorded.checkpoints row member).append _
      blobs := recorded.blobs }

theorem Recorded.checkpoint (recorded : Recorded crates ledger blocks) {ecdsa : Ecdsa}
    {signingKey : Option ecdsa.SigningKey} {made : MerkleCheckpoint} {after : ImprovementLedger}
    (done : checkpoint crates ecdsa io ledger signingKey = .ok (made, after)) :
    Recorded crates after blocks := by
  rw [Ledger.checkpoint, then_eq_ok, recorded.allBlocks] at done
  obtain ⟨-, done⟩ := done
  change (checkpointOver crates ecdsa io.now signingKey blocks >>= _) = _ at done
  simp only [bind_eq_ok] at done
  obtain ⟨_, built_over, _, -, built⟩ := done
  cases built
  refine { recorded with checkpoints := fun row member => ?_ }
  rcases KeyedTable.mem_upsert member with rfl | old
  · unfold checkpointOver at built_over
    cases last : blocks.getLast? with
    | none => simp [last] at built_over
    | some latest =>
      have sequence := recorded.audited.latest_sequence recorded.allBlocks last
      have value : latest.sequence = UInt64.ofNat (blocks.length - 1) := by
        apply UInt64.toNat_inj.mp
        have total := recorded.bounded
        simp
        omega
      simp only [last, Except.ok.injEq] at built_over
      cases signingKey with
      | none =>
        exact ⟨blocks.length, io.now, none, by omega, le_rfl, by
          rw [← built_over, List.take_length, ← value]; rfl⟩
      | some key =>
        exact ⟨blocks.length, io.now, _, by omega, le_rfl, by
          rw [← built_over, List.take_length, ← value]; rfl⟩
  · exact recorded.checkpoints row old

theorem Recorded.appendBlock_kept (recorded : Recorded crates ledger blocks) (room : blocks.length < 2 ^ 63)
    {blockType : BlockType} {payloadJson : String} {blobHashes : List String}
    (blobs : io.queryFault = none → io.insertFault = none →
      ∀ bh ∈ blobHashes, verifyBlob crates.sha ledger.blobStore bh = true) :
    ∃ after, Recorded crates
      (kept ledger (appendBlock crates io ledger blockType payloadJson blobHashes)) after := by
  cases appended : appendBlock crates io ledger blockType payloadJson blobHashes with
  | error e => exact ⟨blocks, recorded⟩
  | ok result =>
    obtain ⟨queried, inserted, -⟩ := appendBlock_eq_ok.mp appended
    exact ⟨_, recorded.append room (blobs queried inserted) appended⟩

-- The metrics are stored first and stay stored when the append fails.
theorem Recorded.evaluation (recorded : Recorded crates ledger blocks) (room : blocks.length < 2 ^ 63)
    (receipt : Except String String) (rawMetrics : Option Bytes) :
    ∃ after, Recorded crates (appendEvaluation crates io ledger receipt rawMetrics).2 after := by
  obtain ⟨addressed, keeps, listed⟩ := putMetrics_recorded io recorded.blobs rawMetrics
  have stored : Recorded crates
      { ledger with blobStore := (putMetrics crates io ledger.blobStore rawMetrics).2 } blocks :=
    { recorded with audited := recorded.audited.grow keeps, blobs := addressed }
  dsimp only [appendEvaluation]
  split
  · rename_i block after appended
    simp only [bind_eq_ok] at appended
    obtain ⟨blobHashes, put, _, -, done⟩ := appended
    exact ⟨_, stored.append room (listed blobHashes put) done⟩
  · exact ⟨blocks, stored⟩

-- A backed write keeps the ledger recorded.
theorem Recorded.write {ecdsa : Ecdsa} (recorded : Recorded crates ledger blocks)
    (step : Io × LedgerWrite ecdsa) (backed : Backed crates ecdsa ledger step) :
    ∃ after, Recorded crates (write crates ecdsa ledger step) after := by
  obtain ⟨io, kind⟩ := step
  have size : ledger.blocks.rows.length = blocks.length := by rw [recorded.rows, List.length_map]
  cases kind with
  | evaluation receipt rawMetrics => exact recorded.evaluation (size ▸ backed) receipt rawMetrics
  | promotion genInfo receiptDigest =>
    exact recorded.appendBlock_kept (size ▸ backed) (fun _ _ bh member => by simp at member)
  | rollback generationId reason rolledBackAt =>
    exact recorded.appendBlock_kept (size ▸ backed) (fun _ _ bh member => by simp at member)
  | promotionEvidence evidence =>
    exact recorded.appendBlock_kept (size ▸ backed) (fun _ _ bh member => by simp at member)
  | block blockType payloadJson =>
    exact recorded.appendBlock_kept (size ▸ backed) (fun _ _ bh member => by simp at member)
  | kernelReceipt summary receiptJson =>
    refine recorded.appendBlock_kept (size ▸ backed.1) fun queried inserted bh member => ?_
    rw [List.mem_singleton.mp member]
    exact backed.2 queried inserted
  | checkpoint signingKey =>
    change ∃ after, Recorded crates (kept ledger (Ledger.checkpoint crates ecdsa io ledger signingKey)) after
    cases done : Ledger.checkpoint crates ecdsa io ledger signingKey with
    | error e => exact ⟨blocks, recorded⟩
    | ok pair => exact ⟨blocks, recorded.checkpoint done⟩

-- A freshly opened ledger holds the genesis block and nothing else.
theorem freshLedger_recorded :
    Recorded crates (freshLedger crates io fun _ => none) [genesisBlock crates io] where
  rows := rfl
  bounded := by simp
  audited :=
    { nonempty := by simp
      sequences := by simp [genesisBlock, LedgerBlock.new]
      genesisType := by rintro _ ⟨⟩; rfl
      genesisPrev := by rintro _ ⟨⟩; rfl
      intact := by rintro _ (_ | ⟨_, ⟨⟩⟩); exact LedgerBlock.new_intact _ _ _ _ _ _
      linked := List.isChain_singleton _
      blobs := by simp }
  checkpoints := by simp [freshLedger, KeyedTable.empty]
  blobs := by intro digest file found; cases found

-- A first block behind the genesis block, with a hash of its own.
theorem freshLedger_append (opening later : Io) (queried : later.queryFault = none)
    (inserted : later.insertFault = none) (blockType : BlockType) (payloadJson : String)
    (distinct : (genesisBlock crates opening).blockHash ≠
      (nextBlock crates later (genesisBlock crates opening) blockType payloadJson []).blockHash) :
    Recorded crates
      (kept (freshLedger crates opening fun _ => none)
        (appendBlock crates later (freshLedger crates opening fun _ => none) blockType payloadJson []))
      [genesisBlock crates opening,
        nextBlock crates later (genesisBlock crates opening) blockType payloadJson []] := by
  have fresh : Recorded crates (freshLedger crates opening fun _ => none) _ := freshLedger_recorded
  have admitted : (freshLedger crates opening fun _ => none).blocks.Admits
      (.ofBlock crates (nextBlock crates later (genesisBlock crates opening) blockType payloadJson [])) := by
    constructor
    · intro r member
      rw [List.mem_singleton.mp member]
      change (0 : UInt64).toInt64 ≠ ((0 : UInt64) + 1).toInt64
      decide
    · intro member
      exact distinct (by simpa [freshLedger, BlockRow.ofBlock, eq_comm] using member)
  have appended := appendBlock_eq_ok.mpr ⟨queried, inserted, _, fresh.latestBlock, admitted, rfl⟩
  rw [appended]
  exact fresh.append (by simp) (fun bh member => by simp at member) appended

/-- In every run of backed writes from a freshly opened ledger, the audit passes after every write. -/
theorem writes_audit (crates : Crates) (ecdsa : Ecdsa) (io : Io) (opened : ImprovementLedger)
    (fresh : openLedger crates io (emptyLedger fun _ => none) = .ok opened)
    (steps : List (Io × LedgerWrite ecdsa))
    (backed : ∀ visit ∈ Run.visits (write crates ecdsa) opened steps, Backed crates ecdsa visit.1 visit.2) :
    ∀ reached ∈ Run.states (write crates ecdsa) opened steps, ∀ now,
      ∃ report, verifyChainIntegrity crates ecdsa now reached none = .ok report := by
  obtain ⟨-, -, rfl⟩ := openLedger_empty.mp fresh
  intro reached member now
  obtain ⟨blocks, recorded⟩ := Run.invariant_states (write crates ecdsa)
    (fun ledger => ∃ blocks, Recorded crates ledger blocks) (Backed crates ecdsa)
    (fun ledger step ⟨_, recorded⟩ allowed => recorded.write step allowed)
    _ steps ⟨_, freshLedger_recorded⟩ backed reached member
  exact recorded.audit ecdsa now

theorem writes_audit_stored_receipt :
    ∃ report, verifyChainIntegrity standardCrates (Ecdsa.single 0 0 [] []) "2026-01-01T00:00:03+00:00"
      (Run.final (write standardCrates (Ecdsa.single 0 0 [] []))
        (freshLedger standardCrates (Io.calm "2026-01-01T00:00:00+00:00") fun _ => none)
        [(Io.calm "2026-01-01T00:00:01+00:00", .evaluation (.ok "receipt") (some (utf8 "\x7b\x7d"))),
          (Io.calm "2026-01-01T00:00:02+00:00", .kernelReceipt "KernelAutotuneExperiment" "\x7b\x7d")])
      none = .ok report :=
  writes_audit standardCrates _ (Io.calm "2026-01-01T00:00:00+00:00") _ rfl _
    (by
      intro visit member
      simp only [Run.visits, List.mem_cons, List.not_mem_nil, or_false] at member
      rcases member with rfl | rfl
      · change 1 < 2 ^ 63
        decide
      · exact ⟨by decide +kernel, fun _ _ => by decide +kernel⟩)
    _ (Run.final_mem_states _ _ _) _

theorem kernelReceipt_fails_audit :
    (openLedger standardCrates (Io.calm "2026-01-01T00:00:00+00:00") (emptyLedger fun _ => none)).isOk = true ∧
    ((openLedger standardCrates (Io.calm "2026-01-01T00:00:00+00:00") (emptyLedger fun _ => none)).map
      fun opened => (verifyChainIntegrity standardCrates (Ecdsa.single 0 0 [] []) "2026-01-01T00:00:02+00:00"
        (write standardCrates (Ecdsa.single 0 0 [] []) opened
          (Io.calm "2026-01-01T00:00:01+00:00", .kernelReceipt "KernelAutotuneExperiment" "\x7b\x7d"))
        none).isOk).toOption = some false := by
  decide +kernel

end Preservation

section Sample

def sampleGenesis : LedgerBlock := genesisBlock standardCrates (Io.calm "2026-01-01T00:00:00+00:00")

def fork (blockType : BlockType) (timestampUtc : String) : LedgerBlock :=
  nextBlock standardCrates (Io.calm timestampUtc) sampleGenesis blockType "\x7b\x7d" []

def forkedLedger (blockType : BlockType) (timestampUtc : String) : ImprovementLedger :=
  let fresh := freshLedger standardCrates (Io.calm "2026-01-01T00:00:00+00:00") fun _ => none
  kept fresh (appendBlock standardCrates (Io.calm timestampUtc) fresh blockType "\x7b\x7d" [])

theorem forkedLedger_recorded (blockType : BlockType) (timestampUtc : String)
    (distinct : sampleGenesis.blockHash ≠ (fork blockType timestampUtc).blockHash) :
    Recorded standardCrates (forkedLedger blockType timestampUtc)
      [sampleGenesis, fork blockType timestampUtc] := by
  unfold forkedLedger
  unfold fork sampleGenesis at distinct ⊢
  exact freshLedger_append _ _ rfl rfl blockType _ distinct

theorem fork_hash (blockType : BlockType) (timestampUtc : String) :
    (fork blockType timestampUtc).blockHash =
      standardCrates.sha.hex (fork blockType timestampUtc).preimage := by
  unfold fork
  exact (LedgerBlock.new_intact _ _ _ _ _ _).hash

theorem sampleGenesis_hash : sampleGenesis.blockHash = standardCrates.sha.hex sampleGenesis.preimage := by
  unfold sampleGenesis
  exact (LedgerBlock.new_intact _ _ _ _ _ _).hash

end Sample

end SparkRsi.Ledger
