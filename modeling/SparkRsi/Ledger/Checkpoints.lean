import SparkRsi.Ledger.Honest

set_option autoImplicit false

namespace SparkRsi.Ledger

open Shared

variable {crates : Crates} {ecdsa : Ecdsa}

def treeTexts (sha : HexHash) (blocks : List LedgerBlock) : Set Bytes :=
  {data | (∃ block ∈ blocks, data = block.preimage) ∨
    ∃ p ∈ HashTree.hashedPairs (merkleNode sha) (blocks.map LedgerBlock.blockHash),
      data = utf8 p.1 ++ utf8 p.2}

section Trees

variable {sha : HexHash} {blocks others : List LedgerBlock}

-- Every node of the tree is a printed hash.
theorem exists_hashed (intact : ∀ block ∈ blocks, block.Intact sha) (p : String × String)
    (member : p ∈ HashTree.hashedPairs (merkleNode sha) (blocks.map LedgerBlock.blockHash)) (node : String)
    (side : node = p.1 ∨ node = p.2) : ∃ data, node = sha.hex data := by
  rcases HashTree.mem_of_hashed _ p member node side with leaf | inner
  · obtain ⟨block, inside, rfl⟩ := List.mem_map.mp leaf
    exact ⟨_, (intact block inside).hash⟩
  · obtain ⟨q, -, rfl⟩ := inner
    exact ⟨_, rfl⟩

theorem collisionFree_of_injOn (intact : ∀ block ∈ blocks, block.Intact sha)
    (intactOthers : ∀ block ∈ others, block.Intact sha)
    (free : Set.InjOn sha.hex (treeTexts sha blocks ∪ treeTexts sha others)) :
    HashTree.CollisionFree (merkleNode sha) (blocks.map LedgerBlock.blockHash)
      (others.map LedgerBlock.blockHash) := by
  have located (p : String × String)
      (member : p ∈ HashTree.hashedPairs (merkleNode sha) (blocks.map LedgerBlock.blockHash) ∨
        p ∈ HashTree.hashedPairs (merkleNode sha) (others.map LedgerBlock.blockHash)) :
      utf8 p.1 ++ utf8 p.2 ∈ treeTexts sha blocks ∪ treeTexts sha others ∧ (utf8 p.1).length = 64 := by
    rcases member with first | second
    · obtain ⟨data, hashed⟩ := exists_hashed intact p first p.1 (.inl rfl)
      exact ⟨.inl (.inr ⟨p, first, rfl⟩), by rw [hashed]; exact sha.length_hex data⟩
    · obtain ⟨data, hashed⟩ := exists_hashed intactOthers p second p.1 (.inl rfl)
      exact ⟨.inr (.inr ⟨p, second, rfl⟩), by rw [hashed]; exact sha.length_hex data⟩
  intro p memberP q memberQ same
  have bytes := free (located p memberP).1 (located q memberQ).1 same
  obtain ⟨left, right⟩ := List.append_inj bytes (by rw [(located p memberP).2, (located q memberQ).2])
  exact Prod.ext (utf8_inj.mp left) (utf8_inj.mp right)

-- No block hash is an inner node of a tree over block hashes.
theorem leaf_not_inner (intact : ∀ block ∈ blocks, block.Intact sha)
    (intactOthers : ∀ block ∈ others, block.Intact sha)
    (free : Set.InjOn sha.hex (treeTexts sha blocks ∪ treeTexts sha others)) :
    ∀ leaf ∈ blocks.map LedgerBlock.blockHash,
      leaf ∉ HashTree.innerNodes (merkleNode sha) (others.map LedgerBlock.blockHash) := by
  rintro leaf member ⟨p, hashed, same⟩
  obtain ⟨block, inside, rfl⟩ := List.mem_map.mp member
  have bytes : block.preimage = utf8 p.1 ++ utf8 p.2 :=
    free (.inl (.inl ⟨block, inside, rfl⟩)) (.inr (.inr ⟨p, hashed, rfl⟩))
      (by rw [← (intact block inside).hash, same, merkleNode])
  obtain ⟨letter, ninth, upper⟩ := block.preimage_ninth
  obtain ⟨data, printed⟩ := exists_hashed intactOthers p hashed p.1 (.inl rfl)
  rw [bytes, printed, List.getElem?_append_left (by simp)] at ninth
  have lower := sha.digits_hex data letter (List.mem_of_getElem? ninth)
  rw [upper] at lower
  cases lower

-- One Merkle root, one list of block hashes.
theorem hashes_eq_of_root (intact : ∀ block ∈ blocks, block.Intact sha)
    (intactOthers : ∀ block ∈ others, block.Intact sha)
    (nonempty : blocks ≠ []) (nonemptyOthers : others ≠ [])
    (nodup : (blocks.map LedgerBlock.blockHash).Nodup)
    (nodupOthers : (others.map LedgerBlock.blockHash).Nodup)
    (free : Set.InjOn sha.hex (treeTexts sha blocks ∪ treeTexts sha others))
    (roots : computeMerkleRoot sha (blocks.map LedgerBlock.blockHash) =
      computeMerkleRoot sha (others.map LedgerBlock.blockHash)) :
    blocks.map LedgerBlock.blockHash = others.map LedgerBlock.blockHash := by
  have nonemptyHashes : blocks.map LedgerBlock.blockHash ≠ [] := by simpa using nonempty
  have nonemptyOtherHashes : others.map LedgerBlock.blockHash ≠ [] := by simpa using nonemptyOthers
  have swapped : Set.InjOn sha.hex (treeTexts sha others ∪ treeTexts sha blocks) := by
    rwa [Set.union_comm] at free
  refine HashTree.leaves_eq_of_root_eq _ _ nonemptyHashes nonemptyOtherHashes nodup nodupOthers
    (collisionFree_of_injOn intact intactOthers free) (leaf_not_inner intact intactOthers free)
    (leaf_not_inner intactOthers intact swapped) ?_
  rw [collapse_eq_root sha _ nonemptyHashes, collapse_eq_root sha _ nonemptyOtherHashes, roots]

end Trees

-- The block hashes of a stored ledger are unique, as their column is.
theorem blockHashes_nodup {ledger : ImprovementLedger} {blocks : List LedgerBlock}
    (stored : allBlocks crates ledger = .ok blocks) : (blocks.map LedgerBlock.blockHash).Nodup := by
  have column (rows : List BlockRow) (decoded : List LedgerBlock)
      (read : List.Forall₂ (fun row block => auditedRow crates row = .ok block) rows decoded) :
      rows.map BlockRow.blockHash = (decoded.map LedgerBlock.blockHash).map SqlValue.text := by
    induction read with
    | nil => rfl
    | cons first rest ih =>
      obtain ⟨texts, row, block⟩ := auditedRow_eq_ok.mp first
      rw [List.map_cons, List.map_cons, List.map_cons, ih, row, block]
      rfl
  have unique := ledger.blocks.unique
  rw [column _ _ (allBlocks_ok.mp stored)] at unique
  exact unique.of_map _

/-- The ledgers a key was used on: each passed the audit, and where the newest checkpoint of `ledger` carries a
signature the key accepts, its root is the one that `checkpoint` computed on one of them. -/
structure SignedOnly (crates : Crates) (ecdsa : Ecdsa) (signingKey : ecdsa.SigningKey)
    (verifyingKey : ecdsa.VerifyingKey) (signed : Set ImprovementLedger) (ledger : ImprovementLedger) : Prop where
  audited : ∀ past ∈ signed, ∃ now report, verifyChainIntegrity crates ecdsa now past none = .ok report
  unforgeable : ∀ latest, latestCheckpoint crates ledger = .ok (some latest) →
    latest.verifySignature ecdsa verifyingKey = true → ∃ past ∈ signed, ∃ io made after,
      checkpoint crates ecdsa io past (some signingKey) = .ok (made, after) ∧ latest.merkleRoot = made.merkleRoot

def signedTexts (crates : Crates) (signed : Set ImprovementLedger) : Set Bytes :=
  {data | ∃ past ∈ signed, ∃ blocks, allBlocks crates past = .ok blocks ∧ data ∈ treeTexts crates.sha blocks}

-- What `checkpoint` signs is the root over all blocks.
theorem checkpoint_root {io : Io} {ledger after : ImprovementLedger} {signingKey : Option ecdsa.SigningKey}
    {made : MerkleCheckpoint} (done : checkpoint crates ecdsa io ledger signingKey = .ok (made, after)) :
    ∃ blocks, allBlocks crates ledger = .ok blocks ∧
      made.merkleRoot = computeMerkleRoot crates.sha (blocks.map LedgerBlock.blockHash) := by
  rw [checkpoint, then_eq_ok] at done
  simp only [bind_eq_ok] at done
  obtain ⟨-, blocks, stored, _, covering, _, -, built⟩ := done
  cases built
  refine ⟨blocks, stored, ?_⟩
  unfold checkpointOver at covering
  cases last : blocks.getLast? with
  | none => simp [last] at covering
  | some latest =>
    simp only [last, Except.ok.injEq] at covering
    cases signingKey <;> rw [← covering] <;> rfl

-- On a ledger the program wrote, a checkpoint can be made.
theorem Recorded.checkpoint_made {ledger : ImprovementLedger} {blocks : List LedgerBlock}
    (recorded : Recorded crates ledger blocks) (ecdsa : Ecdsa) (io : Io)
    (signingKey : Option ecdsa.SigningKey) (queried : io.queryFault = none)
    (inserted : io.insertFault = none) :
    ∃ made after, Ledger.checkpoint crates ecdsa io ledger signingKey = .ok (made, after) ∧
      made.merkleRoot = computeMerkleRoot crates.sha (blocks.map LedgerBlock.blockHash) := by
  have covering : ∃ made, checkpointOver crates ecdsa io.now signingKey blocks = .ok made := by
    unfold checkpointOver
    rw [List.getLast?_eq_some_getLast recorded.audited.nonempty]
    exact ⟨_, rfl⟩
  obtain ⟨made, covering⟩ := covering
  have done : Ledger.checkpoint crates ecdsa io ledger signingKey =
      .ok (made, { ledger with checkpoints := ledger.checkpoints.upsert (checkpointRow made) }) := by
    rw [Ledger.checkpoint, then_eq_ok]
    refine ⟨faulty_eq_ok.mpr queried, ?_⟩
    simp only [bind_eq_ok]
    exact ⟨blocks, recorded.allBlocks, made, covering, (), mapError_eq_ok.mpr (faulty_eq_ok.mpr inserted),
      rfl⟩
  obtain ⟨stored, same, root⟩ := checkpoint_root done
  cases recorded.allBlocks.symm.trans same
  exact ⟨made, _, done, root⟩

/-- A verified checkpoint pins the covered block hashes: they are those of a ledger that was
signed, and of every signed ledger with that root. -/
theorem checkpoint_pins_hashes {signingKey : ecdsa.SigningKey} {verifyingKey : ecdsa.VerifyingKey}
    {signed : Set ImprovementLedger} {ledger : ImprovementLedger} {blocks : List LedgerBlock} {now : String}
    {report : LedgerAuditReport} {sequence : UInt64}
    (audit : verifyChainIntegrity crates ecdsa now ledger (some verifyingKey) = .ok report)
    (stored : allBlocks crates ledger = .ok blocks)
    (verified : report.signatureVerified = true) (covers : report.checkpointSequence = some sequence)
    (signedOnly : SignedOnly crates ecdsa signingKey verifyingKey signed ledger)
    (collisionFree : Set.InjOn crates.sha.hex
      (treeTexts crates.sha (blocks.take (sequence.toNat + 1)) ∪ signedTexts crates signed)) :
    (blocks.take (sequence.toNat + 1)).length = sequence.toNat + 1 ∧
    (∃ past ∈ signed, ∃ pastBlocks, allBlocks crates past = .ok pastBlocks ∧
      (blocks.take (sequence.toNat + 1)).map LedgerBlock.blockHash = pastBlocks.map LedgerBlock.blockHash) ∧
    ∀ past ∈ signed, ∀ pastBlocks, allBlocks crates past = .ok pastBlocks →
      computeMerkleRoot crates.sha (pastBlocks.map LedgerBlock.blockHash) =
        computeMerkleRoot crates.sha ((blocks.take (sequence.toNat + 1)).map LedgerBlock.blockHash) →
      (blocks.take (sequence.toNat + 1)).map LedgerBlock.blockHash =
        pastBlocks.map LedgerBlock.blockHash := by
  obtain ⟨_, latest, stored?, coverage, accepted⟩ := verifyChainIntegrity_ok.mp audit
  cases stored.symm.trans accepted.stored
  have covered := accepted.covered
  cases stored? with
  | none =>
    cases covered
    simp [accepted.report_eq, auditReport] at verified
  | some checkpoint =>
    obtain ⟨within, -, root, key, built⟩ := checkCoverage_some_ok.mp covered
    have same : checkpoint.upToSequence = sequence := by
      rw [accepted.report_eq, built] at covers
      exact Option.some.inj covers
    subst same
    rw [← List.map_take] at root
    have inside := accepted.audited.latest_sequence stored accepted.last
    rw [UInt64.le_iff_toNat_le] at within
    have size : (blocks.take (checkpoint.upToSequence.toNat + 1)).length =
        checkpoint.upToSequence.toNat + 1 := by
      rw [List.length_take]; omega
    have pinned : ∀ past ∈ signed, ∀ pastBlocks, allBlocks crates past = .ok pastBlocks →
        computeMerkleRoot crates.sha (pastBlocks.map LedgerBlock.blockHash) =
          computeMerkleRoot crates.sha
            ((blocks.take (checkpoint.upToSequence.toNat + 1)).map LedgerBlock.blockHash) →
        (blocks.take (checkpoint.upToSequence.toNat + 1)).map LedgerBlock.blockHash =
          pastBlocks.map LedgerBlock.blockHash := by
      intro past member pastBlocks pastStored roots
      obtain ⟨_, _, pastAudit⟩ := signedOnly.audited past member
      obtain ⟨_, _, _, _, pastAccepted⟩ := verifyChainIntegrity_ok.mp pastAudit
      cases pastStored.symm.trans pastAccepted.stored
      refine hashes_eq_of_root (fun block taken => accepted.audited.intact block (List.mem_of_mem_take taken))
        pastAccepted.audited.intact (List.ne_nil_of_length_pos (by omega)) pastAccepted.audited.nonempty
        ?_ (blockHashes_nodup pastStored) (collisionFree.mono ?_) roots.symm
      · rw [List.map_take]
        exact (blockHashes_nodup stored).sublist (List.take_sublist _ _)
      · exact Set.union_subset_union_right _ fun data hashed => ⟨past, member, _, pastStored, hashed⟩
    refine ⟨size, ?_, pinned⟩
    obtain ⟨past, member, io, made, after, done, signedRoot⟩ :=
      signedOnly.unforgeable checkpoint accepted.newest (key verifyingKey rfl)
    obtain ⟨pastBlocks, pastStored, madeRoot⟩ := checkpoint_root done
    refine ⟨past, member, pastBlocks, pastStored, pinned past member pastBlocks pastStored ?_⟩
    rw [← madeRoot, ← root, signedRoot]

section Vector

def vectorSecret : Nat := 0xC9AFA9D845BA75166B5C215767B1D6934E50C3DB36E89B127B8A622B120F6721

def vectorPoint : Nat :=
  0x60fed4ba255a9d31c961eb74c6356d68c049b8923b61fa6ce669622e60f29fb67903fe1008b8bc99a41ae9e95628bc64f2f1b20c2d7e9f5177a3c294d4462299

def vectorEcdsa : Ecdsa :=
  Ecdsa.single vectorSecret vectorPoint
    (utf8 "c8f3abf79a2405bd0f6d1529df18308041d2286f3f71f58cbcaa54fa459d7574")
    (Sha256.bigEndian 64
      0x6cd9c998369e6249b1823282bed2c619ad51553cc1b4693e3f4b57f4178de49c7699d3447cd5fae21ac38b6e0884beaa273be340703e7b56b823471d749b6176)

def vectorOpening : Io := Io.calm "2026-01-01T00:00:00+00:00"

def vectorGenesis : LedgerBlock := genesisBlock standardCrates vectorOpening

def vectorLedger : ImprovementLedger := freshLedger standardCrates vectorOpening fun _ => none

def signedLedger : ImprovementLedger :=
  kept vectorLedger (checkpoint standardCrates vectorEcdsa (Io.calm "2026-01-01T00:00:01+00:00") vectorLedger
    (some vectorSecret))

theorem vectorLedger_recorded : Recorded standardCrates vectorLedger [vectorGenesis] := by
  unfold vectorLedger vectorGenesis
  exact freshLedger_recorded

theorem signedLedger_recorded : Recorded standardCrates signedLedger [vectorGenesis] := by
  unfold signedLedger
  cases done : checkpoint standardCrates vectorEcdsa (Io.calm "2026-01-01T00:00:01+00:00") vectorLedger
      (some vectorSecret) with
  | error e => exact vectorLedger_recorded
  | ok made => exact vectorLedger_recorded.checkpoint done

theorem signedLedger_report :
    ((verifyChainIntegrity standardCrates vectorEcdsa "2026-01-01T00:00:02+00:00" signedLedger
      (some vectorPoint)).toOption.map fun report =>
        (report.signatureVerified, report.checkpointSequence)) = some (true, some 0) := by
  decide +kernel

theorem vectorGenesis_root :
    computeMerkleRoot standardCrates.sha ([vectorGenesis].map LedgerBlock.blockHash) =
    "c8f3abf79a2405bd0f6d1529df18308041d2286f3f71f58cbcaa54fa459d7574" := by
  decide +kernel

theorem treeTexts_singleton (sha : HexHash) (block : LedgerBlock) :
    treeTexts sha [block] = {block.preimage} := by
  have none_hashed : HashTree.hashedPairs (merkleNode sha) [block.blockHash] = [] := by
    rw [HashTree.hashedPairs, if_neg (by simp)]
  ext data
  simp [treeTexts, none_hashed]

theorem vector_signedOnly :
    SignedOnly standardCrates vectorEcdsa vectorSecret vectorPoint {vectorLedger} signedLedger where
  audited := by
    rintro past rfl
    exact ⟨"2026-01-01T00:00:01+00:00", vectorLedger_recorded.audit vectorEcdsa _⟩
  unforgeable := by
    intro latest newest accepted
    obtain ⟨sig, verified⟩ := MerkleCheckpoint.verifySignature_accepts accepted
    obtain ⟨-, signed, -⟩ := Ecdsa.single_verify.mp verified
    obtain ⟨made, after, done, root⟩ := vectorLedger_recorded.checkpoint_made vectorEcdsa
      (Io.calm "2026-01-01T00:00:01+00:00") (some vectorSecret) rfl rfl
    exact ⟨vectorLedger, rfl, _, made, after, done, by rw [root, vectorGenesis_root, utf8_inj.mp signed]⟩

theorem checkpoint_pins_hashes_vector :
    ([vectorGenesis].take ((0 : UInt64).toNat + 1)).length = (0 : UInt64).toNat + 1 ∧
    (∃ past ∈ ({vectorLedger} : Set ImprovementLedger), ∃ pastBlocks,
      allBlocks standardCrates past = .ok pastBlocks ∧
      ([vectorGenesis].take ((0 : UInt64).toNat + 1)).map LedgerBlock.blockHash =
        pastBlocks.map LedgerBlock.blockHash) ∧
    ∀ past ∈ ({vectorLedger} : Set ImprovementLedger), ∀ pastBlocks,
      allBlocks standardCrates past = .ok pastBlocks →
      computeMerkleRoot standardCrates.sha (pastBlocks.map LedgerBlock.blockHash) =
        computeMerkleRoot standardCrates.sha
          (([vectorGenesis].take ((0 : UInt64).toNat + 1)).map LedgerBlock.blockHash) →
      ([vectorGenesis].take ((0 : UInt64).toNat + 1)).map LedgerBlock.blockHash =
        pastBlocks.map LedgerBlock.blockHash := by
  obtain ⟨report, accepted, summary⟩ := Option.map_eq_some_iff.mp signedLedger_report
  have audit : verifyChainIntegrity standardCrates vectorEcdsa "2026-01-01T00:00:02+00:00" signedLedger
      (some vectorPoint) = .ok report := by
    cases result : verifyChainIntegrity standardCrates vectorEcdsa "2026-01-01T00:00:02+00:00" signedLedger
        (some vectorPoint) with
    | error e => rw [result] at accepted; cases accepted
    | ok other => rw [result] at accepted; cases accepted; rfl
  rw [Prod.mk.injEq] at summary
  refine checkpoint_pins_hashes audit signedLedger_recorded.allBlocks summary.1 summary.2
    vector_signedOnly ?_
  have only : signedTexts standardCrates {vectorLedger} = {vectorGenesis.preimage} := by
    ext data
    constructor
    · rintro ⟨past, rfl, blocks, stored, hashed⟩
      cases vectorLedger_recorded.allBlocks.symm.trans stored
      rwa [treeTexts_singleton] at hashed
    · intro hashed
      exact ⟨vectorLedger, rfl, _, vectorLedger_recorded.allBlocks, by rwa [treeTexts_singleton]⟩
  have taken : [vectorGenesis].take ((0 : UInt64).toNat + 1) = [vectorGenesis] := rfl
  rw [taken, treeTexts_singleton, only, Set.union_self]
  exact Set.injOn_singleton _ _

end Vector

end SparkRsi.Ledger
