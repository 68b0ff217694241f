import SparkRsi.Cycle.Summary
import SparkRsi.Supervisor.Daemon

set_option autoImplicit false

namespace SparkRsi.Cycle

open Shared Ledger Supervisor

structure World where
  daemon : SupervisorDaemon
  ledger : ImprovementLedger

/-- What the fallible steps of the tail meet, in their order. -/
structure TailIo (Ratification : Type) where
  gate : Except String Unit
  decision : Io
  swap : LinkIo
  promotion : Io
  ratified : Except String Ratification
  rollback : FrameIo
  rollbackRecord : Io
  rolledBackAt : String
  checkpoint : Io

structure CycleResult (Ratification : Type) where
  generation : Option GenerationInfo
  ledgerBlock : Option LedgerBlock
  ratification : Option Ratification
  success : Bool
  canary : CanarySummary

section Tail

variable (crates : Crates) (logCrates : Canary.LogCrates) (ecdsa : Ecdsa) (config : SupervisorConfig)
  {Ratification : Type}

def rollBack (io : TailIo Ratification) (world : World) (proposalId reason : String) :
    Except String Unit × World :=
  match triggerInstantRollback logCrates config (joinPath config.rsiRoot "active.sock") io.rollback world.daemon with
  | (.error e, daemon) => (.error e, { world with daemon })
  | (.ok (), daemon) =>
    let recorded := appendRollback crates io.rollbackRecord world.ledger proposalId reason io.rolledBackAt
    (.ok (), { daemon, ledger := kept world.ledger recorded })

def closeCycle (io : TailIo Ratification) (signingKey : ecdsa.SigningKey) (world : World) : World :=
  { world with ledger := kept world.ledger (checkpoint crates ecdsa io.checkpoint world.ledger (some signingKey)) }

def refusePromotion (io : TailIo Ratification) (signingKey : ecdsa.SigningKey) (world : World)
    (proposalId : String) (evaluationBlock : Option LedgerBlock) (summary : CanarySummary) (detail : String) :
    Except String (CycleResult Ratification) × World :=
  let summary := { summary with promotionGate := some { passed := false, detail } }
  match rollBack crates logCrates config io world proposalId s!"Promotion gate refused: {detail}" with
  | (.error e, world) => (.error e, world)
  | (.ok (), world) =>
    let recorded := { world with ledger := recordDecision crates io.decision world.ledger proposalId summary }
    (.ok { generation := none, ledgerBlock := evaluationBlock, ratification := none, success := false
           canary := summary }, closeCycle crates ecdsa io signingKey recorded)

/-- Every early return leaves what the steps before it did. -/
def promote (io : TailIo Ratification) (signingKey : ecdsa.SigningKey) (world : World) (proposalId : String)
    (genInfo : GenerationInfo) (receiptDigest : String) (summary : CanarySummary) :
    Except String (CycleResult Ratification) × World :=
  let summary := { summary with
    promotionGate := some { passed := true, detail := "version 2 judge receipt accepted" } }
  let decided := recordDecision crates io.decision world.ledger proposalId summary
  match (supervisor config).atomicSymlinkSwap logCrates.debug io.swap world.daemon.links proposalId with
  | (.error e, links) => (.error e, { daemon := { world.daemon with links }, ledger := decided })
  | (.ok (), links) =>
    let swapped := { world.daemon with links }
    let genInfo := { genInfo with state := .durable }
    match appendPromotion crates io.promotion decided genInfo receiptDigest with
    | .error e =>
      (.error s!"Fatal: Failed to append promotion to ledger: {e}", { daemon := swapped, ledger := decided })
    | .ok (block, promoted) =>
      match io.ratified with
      | .error e => (.error e, { daemon := swapped, ledger := promoted })
      | .ok ratification =>
        (.ok { generation := some genInfo, ledgerBlock := some block, ratification := some ratification
               success := true, canary := summary },
          closeCycle crates ecdsa io signingKey { daemon := swapped, ledger := promoted })

def runCycleTail (io : TailIo Ratification) (signingKey : ecdsa.SigningKey) (world : World)
    (proposalId : String) (genInfo : GenerationInfo) (receiptDigest : String)
    (evaluationBlock : Option LedgerBlock) (summary : CanarySummary) :
    Except String (CycleResult Ratification) × World :=
  match io.gate with
  | .error detail =>
    refusePromotion crates logCrates ecdsa config io signingKey world proposalId evaluationBlock
      summary detail
  | .ok () =>
    promote crates logCrates ecdsa config io signingKey world proposalId genInfo receiptDigest summary

end Tail

section Stores

variable (crates : Crates) (config : SupervisorConfig)

def Moved (generationId : String) (before after : World) : Prop :=
  ∃ moves, after.daemon.links.active = moves ++ before.daemon.links.active ∧
    (supervisor config).generationDir generationId ∈ moves

def PromotionAppended (generationId : String) (before after : World) : Prop :=
  ∃ row ∈ after.ledger.blocks.rows, row ∉ before.ledger.blocks.rows ∧ row.blockType = .text BlockType.promotion.toText ∧
    ∃ genInfo receiptDigest, genInfo.generationId = generationId ∧
      row.payloadJson = .text (crates.payloadText (promotionPayload genInfo receiptDigest))

structure Recordable (io : Io) (ledger : ImprovementLedger) (blockType : BlockType) (payloadJson : String) : Prop where
  calm : io.queryFault = none ∧ io.insertFault = none
  room : ∃ latest, latestBlock crates ledger = .ok (some latest) ∧
    ledger.blocks.Admits (.ofBlock crates (nextBlock crates io latest blockType payloadJson []))

variable {crates config} {io : Io} {ledger : ImprovementLedger} {blockType : BlockType} {payloadJson : String}

theorem appendBlock_of_recordable (recordable : Recordable crates io ledger blockType payloadJson) :
    ∃ block row, ∃ admitted : ledger.blocks.Admits row,
      appendBlock crates io ledger blockType payloadJson [] =
        .ok (block, { ledger with blocks := ledger.blocks.insert row admitted }) ∧
      row.blockType = .text blockType.toText ∧ row.payloadJson = .text payloadJson := by
  obtain ⟨latest, read, admitted⟩ := recordable.room
  exact ⟨_, _, admitted, appendBlock_eq_ok.mpr ⟨recordable.calm.1, recordable.calm.2, latest, read, admitted, rfl⟩,
    rfl, rfl⟩

theorem appendBlock_of_not_recordable (full : ¬Recordable crates io ledger blockType payloadJson) :
    ∃ e, appendBlock crates io ledger blockType payloadJson [] = .error e := by
  cases appended : appendBlock crates io ledger blockType payloadJson [] with
  | error e => exact ⟨e, rfl⟩
  | ok result =>
    obtain ⟨queried, inserted, latest, read, admitted, -⟩ := appendBlock_eq_ok.mp appended
    exact absurd ⟨⟨queried, inserted⟩, latest, read, admitted⟩ full

-- The decision block is an evaluation, and the blocks before it stay.
theorem recordDecision_rows (generationId : String) (summary : CanarySummary) {row : BlockRow} :
    (row ∈ ledger.blocks.rows → row ∈ (recordDecision crates io ledger generationId summary).blocks.rows) ∧
      (row ∈ (recordDecision crates io ledger generationId summary).blocks.rows → row ∉ ledger.blocks.rows →
        row.blockType = .text BlockType.evaluation.toText) := by
  unfold recordDecision
  cases appended : appendBlock crates io ledger .evaluation
      (crates.payloadText (decisionPayload generationId summary)) [] with
  | error e => exact ⟨id, fun member fresh => absurd member fresh⟩
  | ok result =>
    obtain ⟨-, -, latest, -, admitted, rfl⟩ := appendBlock_eq_ok.mp appended
    simp only [kept, BlockTable.mem_insert]
    refine ⟨.inr, fun member fresh => ?_⟩
    rcases member with rfl | old
    · rfl
    · exact absurd old fresh

-- No promotion block is among the blocks a decision adds.
theorem recordDecision_not_promotion (generationId : String) (summary : CanarySummary) {row : BlockRow}
    (member : row ∈ (recordDecision crates io ledger generationId summary).blocks.rows)
    (fresh : row ∉ ledger.blocks.rows) : row.blockType ≠ .text BlockType.promotion.toText := by
  rw [(recordDecision_rows generationId summary).2 member fresh]
  decide

end Stores

section Tail

variable {crates : Crates} {logCrates : Canary.LogCrates} {ecdsa : Ecdsa} {config : SupervisorConfig}
  {Ratification : Type} {io : TailIo Ratification} {signingKey : ecdsa.SigningKey} {world : World}
  {proposalId receiptDigest : String} {genInfo : GenerationInfo} {summary : CanarySummary}

def decidedLedger (crates : Crates) (io : TailIo Ratification) (world : World) (proposalId : String)
    (summary : CanarySummary) : ImprovementLedger :=
  recordDecision crates io.decision world.ledger proposalId
    { summary with promotionGate := some { passed := true, detail := "version 2 judge receipt accepted" } }

def PromotionRecordable (crates : Crates) (io : TailIo Ratification) (world : World) (proposalId : String)
    (genInfo : GenerationInfo) (receiptDigest : String) (summary : CanarySummary) : Prop :=
  Recordable crates io.promotion (decidedLedger crates io world proposalId summary) .promotion
    (crates.payloadText (promotionPayload { genInfo with state := .durable } receiptDigest))

theorem closeCycle_stores : (closeCycle crates ecdsa io signingKey world).daemon = world.daemon ∧
    (closeCycle crates ecdsa io signingKey world).ledger.blocks = world.ledger.blocks := by
  refine ⟨rfl, ?_⟩
  unfold closeCycle
  cases checked : checkpoint crates ecdsa io.checkpoint world.ledger (some signingKey) with
  | error e => rfl
  | ok result =>
    simp only [checkpoint, bind_eq_ok] at checked
    obtain ⟨_, -, _, -, _, -, _, -, built⟩ := checked
    cases built
    rfl

-- What `promote` leaves behind when the link cannot be swapped.
theorem promote_stuck (stuck : ¬(supervisor config).Swappable io.swap proposalId) :
    (promote crates logCrates ecdsa config io signingKey world proposalId genInfo receiptDigest summary).2 =
      { world with ledger := decidedLedger crates io world proposalId summary } := by
  obtain ⟨e, failed⟩ := HostSupervisor.atomicSymlinkSwap_of_not_swappable logCrates.debug
    world.daemon.links stuck
  simp only [promote, failed]
  rfl

theorem promote_swapped (swappable : (supervisor config).Swappable io.swap proposalId) :
    (promote crates logCrates ecdsa config io signingKey world proposalId genInfo receiptDigest summary).2.daemon.links =
      { world.daemon.links with
        active := (supervisor config).generationDir proposalId :: world.daemon.links.active } := by
  have swapped := HostSupervisor.atomicSymlinkSwap_of_swappable logCrates.debug world.daemon.links swappable
  simp only [promote, swapped]
  cases appendPromotion crates io.promotion _ _ _ with
  | error e => rfl
  | ok result => cases io.ratified <;> rfl

-- A swapped link whose promotion could not be recorded.
theorem promote_unrecorded
    (full : ¬PromotionRecordable crates io world proposalId genInfo receiptDigest summary) :
    (promote crates logCrates ecdsa config io signingKey world proposalId genInfo receiptDigest summary).2.ledger.blocks =
      (decidedLedger crates io world proposalId summary).blocks := by
  obtain ⟨e, failed⟩ := appendBlock_of_not_recordable full
  have failed : appendPromotion crates io.promotion (decidedLedger crates io world proposalId summary)
      { genInfo with state := .durable } receiptDigest = .error e := failed
  unfold decidedLedger at failed ⊢
  simp only [promote, failed]
  split <;> rfl

variable (logCrates ecdsa signingKey) in
-- A swapped link with its promotion block.
theorem promote_recorded (swappable : (supervisor config).Swappable io.swap proposalId)
    (recordable : PromotionRecordable crates io world proposalId genInfo receiptDigest summary) :
    ∃ row, ∃ admitted : (decidedLedger crates io world proposalId summary).blocks.Admits row,
      (promote crates logCrates ecdsa config io signingKey world proposalId genInfo receiptDigest
        summary).2.ledger.blocks = (decidedLedger crates io world proposalId summary).blocks.insert row admitted ∧
      row.blockType = .text BlockType.promotion.toText ∧ row.payloadJson =
        .text (crates.payloadText (promotionPayload { genInfo with state := .durable } receiptDigest)) := by
  obtain ⟨block, row, admitted, appended, kind, payload⟩ := appendBlock_of_recordable recordable
  refine ⟨row, admitted, ?_, kind, payload⟩
  have swapped := HostSupervisor.atomicSymlinkSwap_of_swappable logCrates.debug world.daemon.links swappable
  have appended : appendPromotion crates io.promotion (decidedLedger crates io world proposalId summary)
      { genInfo with state := .durable } receiptDigest = _ := appended
  unfold decidedLedger at appended ⊢
  simp only [promote, swapped, appended]
  cases io.ratified with
  | error e => rfl
  | ok ratification => exact closeCycle_stores.2

theorem moved_iff :
    Moved config proposalId world
        (promote crates logCrates ecdsa config io signingKey world proposalId genInfo receiptDigest summary).2 ↔
      (supervisor config).Swappable io.swap proposalId := by
  constructor
  · rintro ⟨moves, links, member⟩
    by_contra stuck
    rw [promote_stuck stuck] at links
    have none_new : moves = [] := by simpa using links
    simp [none_new] at member
  · intro swappable
    exact ⟨[_], by rw [promote_swapped swappable]; rfl, List.mem_singleton_self _⟩

theorem promotionAppended_iff (staged : genInfo.generationId = proposalId) :
    PromotionAppended crates proposalId world
        (promote crates logCrates ecdsa config io signingKey world proposalId genInfo receiptDigest summary).2 ↔
      (supervisor config).Swappable io.swap proposalId ∧
        PromotionRecordable crates io world proposalId genInfo receiptDigest summary := by
  have decided (row : BlockRow) (member : row ∈ (decidedLedger crates io world proposalId summary).blocks.rows)
      (fresh : row ∉ world.ledger.blocks.rows) : row.blockType ≠ .text BlockType.promotion.toText :=
    recordDecision_not_promotion _ _ member fresh
  constructor
  · rintro ⟨row, member, fresh, kind, -⟩
    by_contra missing
    refine decided row ?_ fresh kind
    by_cases swappable : (supervisor config).Swappable io.swap proposalId
    · rwa [promote_unrecorded fun recordable => missing ⟨swappable, recordable⟩] at member
    · rwa [promote_stuck swappable] at member
  · rintro ⟨swappable, recordable⟩
    obtain ⟨row, admitted, blocks, kind, payload⟩ :=
      promote_recorded logCrates ecdsa signingKey swappable recordable
    refine ⟨row, ?_, fun old => ?_, kind, { genInfo with state := .durable }, receiptDigest, staged, payload⟩
    · rw [blocks, BlockTable.mem_insert]
      exact .inl rfl
    · exact admitted.1 row ((recordDecision_rows _ _).1 old) rfl

-- A promotion insert that fails after the swap.
theorem moved_without_promotion {evaluationBlock : Option LedgerBlock} {fault : String}
    (accepted : io.gate = .ok ()) (staged : genInfo.generationId = proposalId)
    (swappable : (supervisor config).Swappable io.swap proposalId)
    (failing : io.promotion.insertFault = some fault) :
    let after := (runCycleTail crates logCrates ecdsa config io signingKey world proposalId genInfo receiptDigest
      evaluationBlock summary).2
    Moved config proposalId world after ∧ ¬PromotionAppended crates proposalId world after := by
  simp only [runCycleTail, accepted, moved_iff, promotionAppended_iff staged]
  refine ⟨swappable, fun ⟨_, recordable⟩ => ?_⟩
  have calm := recordable.calm.2
  rw [failing] at calm
  cases calm

variable (crates logCrates ecdsa config)

/-- With an accepted receipt, the link and the ledger agree exactly when the swap fails or
the promotion can be recorded after it. -/
theorem link_with_ledger_iff (io : TailIo Ratification) (signingKey : ecdsa.SigningKey) (world : World)
    (proposalId : String) (genInfo : GenerationInfo) (receiptDigest : String)
    (evaluationBlock : Option LedgerBlock) (summary : CanarySummary) (accepted : io.gate = .ok ())
    (staged : genInfo.generationId = proposalId) :
    let after := (runCycleTail crates logCrates ecdsa config io signingKey world proposalId genInfo receiptDigest
      evaluationBlock summary).2
    (Moved config proposalId world after ↔ PromotionAppended crates proposalId world after) ↔
      (¬(supervisor config).Swappable io.swap proposalId ∨
        PromotionRecordable crates io world proposalId genInfo receiptDigest summary) := by
  simp only [runCycleTail, accepted, moved_iff, promotionAppended_iff staged]
  tauto

end Tail

section Sample

def sampleConfig : SupervisorConfig where
  rsiRoot := ".rsi"
  memoryLimitMb := 49152
  maxLatencyUs := 1000000
  maxErrorRate := { exceeded := fun errors _ => errors > 0, report := fun _ _ => "Error budget exceeded" }
  sharedSecret := "secret-key"

def sampleGeneration : GenerationInfo where
  generationId := "gen-002"
  installedPath := ".rsi/generations/gen-002"
  manifestDigest := "receipt"
  state := .canaryActive
  pid := some 7
  socketPath := some ".rsi/workers/gen-002.sock"
  canaryTransactions := 0
  canaryErrors := 0
  maxLatencyUs := 0
  totalLatencyUs := 0
  stagedTimestamp := "2026-10-12T00:00:00+00:00"

def calmLink : LinkIo := { targetExists := fun _ => true, createDir := none, symlink := none, rename := none }

def sampleWorld : World where
  daemon := { activeGeneration := none, canaryGeneration := some sampleGeneration, observationLog := none
              disk := .found none, links := { active := [], activeSocket := [] } }
  ledger := freshLedger standardCrates (Io.calm "2026-01-01T00:00:00+00:00") fun _ => none

def sampleTail (insertFault : Option String) : TailIo Unit where
  gate := .ok ()
  decision := Io.calm "2026-01-02T00:00:00+00:00"
  swap := calmLink
  promotion := { Io.calm "2026-01-02T00:00:01+00:00" with insertFault }
  ratified := .ok ()
  rollback := { challenge := { nonce := "", sendFault := none, answer := none }, swap := calmLink, socket := calmLink
                checkUnifiedMemoryMb := fun _ => .ok 100, nowMs := 0
                log := { openFault := none, readFault := none, faults := fun _ => none } }
  rollbackRecord := Io.calm "2026-01-02T00:00:01+00:00"
  rolledBackAt := "2026-01-02T00:00:01+00:00"
  checkpoint := Io.calm "2026-01-02T00:00:02+00:00"

theorem sample_swappable : (supervisor sampleConfig).Swappable calmLink "gen-002" := by
  refine ⟨rfl, ?_, rfl, rfl, rfl⟩
  decide

theorem unrecorded_promotion_moves_link :
    let after := (runCycleTail standardCrates Canary.standardLogCrates (Ecdsa.single 0 0 [] []) sampleConfig
      (sampleTail (some "database or disk is full")) (0 : Nat) sampleWorld "gen-002" sampleGeneration "receipt" none
      CanarySummary.empty).2
    Moved sampleConfig "gen-002" sampleWorld after ∧
      ¬PromotionAppended standardCrates "gen-002" sampleWorld after := by
  exact moved_without_promotion rfl rfl sample_swappable rfl

theorem link_with_ledger_iff_refused_swap :
    let io := { sampleTail none with swap := { calmLink with targetExists := fun _ => false } }
    let after := (runCycleTail standardCrates Canary.standardLogCrates (Ecdsa.single 0 0 [] []) sampleConfig io
      (0 : Nat) sampleWorld "gen-002" sampleGeneration "receipt" none CanarySummary.empty).2
    Moved sampleConfig "gen-002" sampleWorld after ↔ PromotionAppended standardCrates "gen-002" sampleWorld after := by
  refine (link_with_ledger_iff standardCrates Canary.standardLogCrates (Ecdsa.single 0 0 [] []) sampleConfig _ (0 : Nat)
    sampleWorld "gen-002" sampleGeneration "receipt" none CanarySummary.empty rfl rfl).mpr (.inl fun swappable => ?_)
  cases swappable.target

end Sample

end SparkRsi.Cycle
