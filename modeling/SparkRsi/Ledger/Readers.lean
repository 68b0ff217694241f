import SparkRsi.Ledger.Honest

set_option autoImplicit false

namespace SparkRsi.Ledger

open Shared

variable {crates : Crates} {ecdsa : Ecdsa} {ledger : ImprovementLedger} {blocks : List LedgerBlock}

def ParsesStrictly (crates : Crates) (row : BlockRow) : Prop :=
  (∃ blockType : BlockType, row.blockType = .text blockType.toText) ∧
    ∃ text blobHashes, row.blobHashesJson = .text text ∧ crates.stringsFromJson text = .ok blobHashes

theorem fromStr_eq_ok {s : String} {blockType : BlockType} :
    BlockType.fromStr s = .ok blockType ↔ s = blockType.toText := by
  constructor
  · intro parsed
    unfold BlockType.fromStr at parsed
    split_ifs at parsed <;> cases parsed <;> assumption
  · rintro rfl
    exact BlockType.fromStr_toText blockType

-- On a row the lenient reader accepts, the strict one agrees exactly when it parses.
theorem rowToBlock_iff_parses {row : BlockRow} {block : LedgerBlock}
    (audited : auditedRow crates row = .ok block) :
    rowToBlock crates row = .ok block ↔ ParsesStrictly crates row := by
  constructor
  · intro read
    obtain ⟨texts, blockType, blobHashes, built, type, blobs, -⟩ := rowToBlock_eq_ok.mp read
    rw [built]
    exact ⟨⟨blockType, by rw [← fromStr_eq_ok.mp type]; rfl⟩, texts.blobHashesJson, blobHashes, rfl, blobs⟩
  · rintro ⟨⟨blockType, type⟩, text, blobHashes, column, blobs⟩
    obtain ⟨texts, built, -⟩ := auditedRow_eq_ok.mp audited
    rw [built] at type column
    simp only [BlockRow.ofTexts, SqlValue.text.injEq] at type column
    have read := rowToBlock_eq_ok.mpr
      ⟨texts, blockType, blobHashes, built, fromStr_eq_ok.mpr type, column ▸ blobs, rfl⟩
    have same := (auditedRow_of_rowToBlock read).symm.trans audited
    rw [Except.ok.injEq] at same
    rw [← same]
    exact read

def ReadersAgree (crates : Crates) (ledger : ImprovementLedger) (blocks : List LedgerBlock) : Prop :=
  (∀ (i : Nat) (row : BlockRow) (block : LedgerBlock),
    ledger.blocks.rows[i]? = some row → blocks[i]? = some block →
      getBlock crates ledger row.sequence.toUInt64 = .ok (some block)) ∧
    latestBlock crates ledger = .ok blocks.getLast?

/-- No stored row makes an append fail: without a disk error and without a hash
collision between the new block and a stored one, it succeeds. -/
def AppendUnblocked (crates : Crates) (ledger : ImprovementLedger) (blocks : List LedgerBlock) : Prop :=
  ∀ (io : Io) (blockType : BlockType) (payloadJson : String) (blobHashes : List String)
    (latest : LedgerBlock), io.queryFault = none → io.insertFault = none → blocks.getLast? = some latest →
    Set.InjOn crates.sha.hex {data | data = (nextBlock crates io latest blockType payloadJson blobHashes).preimage ∨
      ∃ block ∈ blocks, data = block.preimage} →
    ∃ result, appendBlock crates io ledger blockType payloadJson blobHashes = .ok result

theorem getBlock_of_mem {row : BlockRow} (member : row ∈ ledger.blocks.rows) :
    getBlock crates ledger row.sequence.toUInt64 = (rowToBlock crates row).map some := by
  have found : ledger.blocks.get? row.sequence.toUInt64.toInt64.toInt = some row :=
    KeyedTable.get?_key member
  rw [getBlock, found]

-- A new row behind audited rows has a sequence and a hash of its own.
theorem Audited.admits {now : String} {key : Option ecdsa.VerifyingKey} {report : LedgerAuditReport}
    (audit : verifyChainIntegrity crates ecdsa now ledger key = .ok report)
    (stored : allBlocks crates ledger = .ok blocks) {io : Io} {latest : LedgerBlock}
    (last : blocks.getLast? = some latest) (blockType : BlockType) (payloadJson : String)
    (blobHashes : List String)
    (free : Set.InjOn crates.sha.hex
      {data | data = (nextBlock crates io latest blockType payloadJson blobHashes).preimage ∨
        ∃ block ∈ blocks, data = block.preimage}) :
    ledger.blocks.Admits
      (.ofBlock crates (nextBlock crates io latest blockType payloadJson blobHashes)) := by
  obtain ⟨_, _, _, _, accepted⟩ := verifyChainIntegrity_ok.mp audit
  cases stored.symm.trans accepted.stored
  have read := allBlocks_ok.mp stored
  have sequence := accepted.audited.latest_sequence stored last
  have size : ledger.blocks.rows.length = blocks.length := read.length_eq
  have bounded : blocks.length ≤ 2 ^ 63 := by
    have inside : blocks.length - 1 < ledger.blocks.rows.length := by omega
    have value := accepted.audited.row_sequence stored (blocks.length - 1) inside
    have below := ledger.blocks.rows[blocks.length - 1].sequence.toInt_lt
    omega
  have next : (latest.sequence + 1).toNat = blocks.length := by
    simp
    omega
  constructor
  · intro r member same
    obtain ⟨i, inside, rfl⟩ := List.getElem_of_mem member
    have value := accepted.audited.row_sequence stored i inside
    have unsigned := toNat_toUInt64 ledger.blocks.rows[i].sequence (by omega)
    have equal : ledger.blocks.rows[i].sequence.toUInt64 = latest.sequence + 1 :=
      congrArg Int64.toUInt64 same
    rw [equal, next] at unsigned
    omega
  · intro member
    obtain ⟨row, inside, same⟩ := List.mem_map.mp member
    obtain ⟨i, bound, rfl⟩ := List.getElem_of_mem inside
    obtain ⟨texts, built, block⟩ := auditedRow_eq_ok.mp (read.get bound (size ▸ bound))
    have hash : blocks[i].blockHash = (nextBlock crates io latest blockType payloadJson blobHashes).blockHash := by
      simp only [List.get_eq_getElem] at built block
      rw [built] at same
      rw [block]
      exact SqlValue.text.inj same
    have listed : blocks[i] ∈ blocks := List.getElem_mem _
    have preimages : blocks[i].preimage =
        (nextBlock crates io latest blockType payloadJson blobHashes).preimage :=
      free (.inr ⟨_, listed, rfl⟩) (.inl rfl)
        (by rw [← (accepted.audited.intact _ listed).hash, hash]; rfl)
    have sequences := congrArg UInt64.toNat (LedgerBlock.sequence_eq_of_preimage preimages)
    rw [accepted.audited.block_sequence stored i (size ▸ bound)] at sequences
    have value : (nextBlock crates io latest blockType payloadJson blobHashes).sequence.toNat =
        blocks.length := next
    omega

/-- On an audited ledger the readers return what the audit hashed, and stored rows block no
append, exactly when every row parses strictly. -/
theorem readers_agree_iff_parse {now : String} {key : Option ecdsa.VerifyingKey} {report : LedgerAuditReport}
    (audit : verifyChainIntegrity crates ecdsa now ledger key = .ok report)
    (stored : allBlocks crates ledger = .ok blocks) :
    ReadersAgree crates ledger blocks ∧ AppendUnblocked crates ledger blocks ↔
      ∀ row ∈ ledger.blocks.rows, ParsesStrictly crates row := by
  have read := allBlocks_ok.mp stored
  have size : ledger.blocks.rows.length = blocks.length := read.length_eq
  have strict (i : Nat) (bound : i < ledger.blocks.rows.length) :
      rowToBlock crates ledger.blocks.rows[i] = .ok (blocks.get ⟨i, size ▸ bound⟩) ↔
        ParsesStrictly crates ledger.blocks.rows[i] :=
    rowToBlock_iff_parses (read.get bound (size ▸ bound))
  constructor
  · rintro ⟨⟨agree, -⟩, -⟩ row member
    obtain ⟨i, bound, rfl⟩ := List.getElem_of_mem member
    have returned := agree i _ blocks[i] (List.getElem?_eq_getElem bound)
      (List.getElem?_eq_getElem (size ▸ bound))
    rw [getBlock_of_mem member] at returned
    refine (strict i bound).mp ?_
    cases result : rowToBlock crates ledger.blocks.rows[i] with
    | error e => rw [result] at returned; cases returned
    | ok block =>
      rw [result] at returned
      cases returned
      rfl
  · intro parses
    have rows (i : Nat) (bound : i < ledger.blocks.rows.length) :
        rowToBlock crates ledger.blocks.rows[i] = .ok (blocks.get ⟨i, size ▸ bound⟩) :=
      (strict i bound).mpr (parses _ (List.getElem_mem bound))
    have latest : latestBlock crates ledger = .ok blocks.getLast? := by
      unfold latestBlock KeyedTable.latest?
      rw [List.getLast?_eq_getElem?, List.getLast?_eq_getElem?, size]
      by_cases inside : blocks.length - 1 < blocks.length
      · rw [List.getElem?_eq_getElem (by omega), List.getElem?_eq_getElem inside]
        simp only [rows (blocks.length - 1) (by omega)]
        rfl
      · rw [List.getElem?_eq_none (by omega), List.getElem?_eq_none (by omega)]
    refine ⟨⟨fun i row block found decoded => ?_, latest⟩, ?_⟩
    · obtain ⟨bound, rfl⟩ := List.getElem?_eq_some_iff.mp found
      obtain ⟨_, rfl⟩ := List.getElem?_eq_some_iff.mp decoded
      rw [getBlock_of_mem (List.getElem_mem bound), rows i bound]
      rfl
    · intro io blockType payloadJson blobHashes newest queried inserted last free
      exact ⟨_, appendBlock_eq_ok.mpr ⟨queried, inserted, newest, by rw [latest, last],
        Audited.admits audit stored last blockType payloadJson blobHashes free, rfl⟩⟩

def retyped (crates : Crates) (block : LedgerBlock) (text : String) : BlockRow :=
  { BlockRow.ofBlock crates block with blockType := .text text }

-- To the audit, an evaluation under an unknown type is the evaluation itself.
theorem auditedRow_retyped {block : LedgerBlock} {text : String} (evaluation : block.blockType = .evaluation)
    (unknown : ∀ blockType : BlockType, text ≠ blockType.toText) :
    auditedRow crates (retyped crates block text) = .ok block := by
  have failed : (BlockType.fromStr text).toOption = none := by
    cases parsed : BlockType.fromStr text with
    | error e => rfl
    | ok blockType => exact absurd (fromStr_eq_ok.mp parsed) (unknown blockType)
  refine auditedRow_eq_ok.mpr ⟨⟨text, block.timestampUtc, block.prevBlockHash, block.payloadJson,
    block.payloadDigest, crates.stringsToJson block.blobHashes, block.blockHash⟩, rfl, ?_⟩
  simp only [failed, crates.stringsFromJson_toJson, Option.getD_none]
  obtain ⟨sequence, _, _, _, _, _, _, _⟩ := block
  simp only at evaluation
  subst evaluation
  rfl

theorem rowToBlock_retyped {block : LedgerBlock} {text e : String}
    (unknown : BlockType.fromStr text = .error e) :
    rowToBlock crates (retyped crates block text) = .error s!"Failed to parse block_type: {e}" := by
  have read : (retyped crates block text).texts crates = .ok ⟨text, block.timestampUtc, block.prevBlockHash,
      block.payloadJson, block.payloadDigest, crates.stringsToJson block.blobHashes, block.blockHash⟩ := rfl
  simp [rowToBlock, read, unknown, bind, Except.bind, Except.mapError]

section Retyped

def sampleEvaluation : LedgerBlock := fork .evaluation "2026-01-02T00:00:00+00:00"

theorem sampleEvaluation_distinct : sampleGenesis.blockHash ≠ sampleEvaluation.blockHash := by
  decide +kernel

def retypedLedger : ImprovementLedger where
  blocks :=
    { rows := [BlockRow.ofBlock standardCrates sampleGenesis, retyped standardCrates sampleEvaluation "NOTE"]
      ordered := by
        simp only [List.pairwise_pair]
        change (0 : UInt64).toInt64.toInt < ((0 : UInt64) + 1).toInt64.toInt
        decide
      unique := by
        have distinct := sampleEvaluation_distinct
        simpa only [List.map_cons, List.map_nil, List.nodup_cons, List.mem_singleton, List.not_mem_nil,
          not_false_eq_true, List.nodup_nil, and_true, BlockRow.ofBlock, retyped, SqlValue.text.injEq]
          using distinct }
  checkpoints := KeyedTable.empty
  blobStore _ := none

theorem sampleEvaluation_recorded :
    Recorded standardCrates (forkedLedger .evaluation "2026-01-02T00:00:00+00:00")
      [sampleGenesis, sampleEvaluation] :=
  forkedLedger_recorded _ _ sampleEvaluation_distinct

theorem readers_agree_iff_parse_evaluation :
    ReadersAgree standardCrates (forkedLedger .evaluation "2026-01-02T00:00:00+00:00")
        [sampleGenesis, sampleEvaluation] ∧
      AppendUnblocked standardCrates (forkedLedger .evaluation "2026-01-02T00:00:00+00:00")
        [sampleGenesis, sampleEvaluation] ↔
      ∀ row ∈ (forkedLedger .evaluation "2026-01-02T00:00:00+00:00").blocks.rows,
        ParsesStrictly standardCrates row := by
  obtain ⟨report, audit⟩ := sampleEvaluation_recorded.audit (Ecdsa.single 0 0 [] [])
    "2026-01-03T00:00:00+00:00"
  exact readers_agree_iff_parse audit sampleEvaluation_recorded.allBlocks

theorem retypedLedger_unreadable :
    (∃ report, verifyChainIntegrity standardCrates (Ecdsa.single 0 0 [] []) "2026-01-03T00:00:00+00:00"
      retypedLedger none = .ok report) ∧
    allBlocks standardCrates retypedLedger = .ok [sampleGenesis, sampleEvaluation] ∧
    latestBlock standardCrates retypedLedger =
      .error "Failed to parse block_type: Unknown BlockType: NOTE" ∧
    getBlock standardCrates retypedLedger sampleEvaluation.sequence =
      .error "Failed to parse block_type: Unknown BlockType: NOTE" ∧
    (appendBlock standardCrates (Io.calm "2026-01-03T00:00:00+00:00") retypedLedger .evaluation "\x7b\x7d"
      []).isOk = false := by
  have evaluation : sampleEvaluation.blockType = .evaluation := by
    unfold sampleEvaluation fork
    rfl
  have stored : allBlocks standardCrates retypedLedger = .ok [sampleGenesis, sampleEvaluation] := by
    refine allBlocks_ok.mpr (.cons (auditedRow_of_rowToBlock (rowToBlock_ofBlock _))
      (.cons (auditedRow_retyped evaluation fun blockType => ?_) .nil))
    cases blockType <;> decide
  have refused : rowToBlock standardCrates (retyped standardCrates sampleEvaluation "NOTE") =
      .error "Failed to parse block_type: Unknown BlockType: NOTE" := by
    have unknown : BlockType.fromStr "NOTE" = .error "Unknown BlockType: NOTE" := rfl
    have joined : toString "Failed to parse block_type: " ++ toString "Unknown BlockType: NOTE" =
        "Failed to parse block_type: Unknown BlockType: NOTE" := by decide
    rw [rowToBlock_retyped unknown, joined]
  have latest : latestBlock standardCrates retypedLedger =
      .error "Failed to parse block_type: Unknown BlockType: NOTE" := by
    change (rowToBlock standardCrates (retyped standardCrates sampleEvaluation "NOTE")).map some = _
    rw [refused]
    rfl
  have no_blobs : sampleEvaluation.blobHashes = [] := by
    unfold sampleEvaluation fork
    rfl
  have audited : Audited standardCrates.sha retypedLedger.blobStore [sampleGenesis, sampleEvaluation] := by
    refine sampleEvaluation_recorded.audited.withStore fun block member bh listed => ?_
    rw [List.mem_singleton.mp member, no_blobs] at listed
    cases listed
  refine ⟨?_, stored, latest, ?_, ?_⟩
  · exact ⟨_, verifyChainIntegrity_ok.mpr ⟨_, sampleEvaluation, none, _,
      ⟨stored, audited, rfl, rfl, rfl, rfl⟩⟩⟩
  · have member : retyped standardCrates sampleEvaluation "NOTE" ∈ retypedLedger.blocks.rows := by
      simp [retypedLedger]
    have found : getBlock standardCrates _ _ = _ := getBlock_of_mem member
    rw [refused] at found
    exact found
  · rw [appendBlock, latest]
    rfl

end Retyped

end SparkRsi.Ledger
