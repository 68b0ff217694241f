import SparkRsi.Ledger.Audit
import SparkRsi.Shared.Run

set_option autoImplicit false

namespace SparkRsi.Ledger

open Shared

structure AppendCall where
  blockType : BlockType
  payloadJson : String
  blobHashes : List String

/-- The database and all writers of it; a writer inside an append holds the block it will insert. -/
structure Writers (ω : Type) where
  ledger : ImprovementLedger
  holding : ω → Option LedgerBlock
  returned : List (ω × Except String LedgerBlock)

inductive AppendEvent (ω : Type) where
  | readHead (writer : ω) (io : Io) (call : AppendCall)
  | insertRow (writer : ω) (io : Io)

section Steps

variable (crates : Crates)

def readHead (io : Io) (ledger : ImprovementLedger) (call : AppendCall) : Except String LedgerBlock := do
  faulty io.queryFault
  let latest ← latestBlock crates ledger
  let latest ← okOr "Cannot append to uninitialized ledger (Genesis block missing)" latest
  return nextBlock crates io latest call.blockType call.payloadJson call.blobHashes

-- SQLite keeps a database under 2^48 bytes, and no row takes less than one.
def rowLimit : Nat := 2 ^ 48

def insertRow (io : Io) (ledger : ImprovementLedger) (block : LedgerBlock) :
    Except String ImprovementLedger :=
  if rowLimit ≤ ledger.blocks.rows.length then
    .error s!"Failed to insert block sequence {block.sequence}: database or disk is full"
  else insertBlockInternal crates io ledger block

variable {ω : Type} [DecidableEq ω]

def appendStep (s : Writers ω) : AppendEvent ω → Writers ω
  | .readHead writer io call =>
    match s.holding writer, readHead crates io s.ledger call with
    -- The writer is still inside its last append.
    | some _, _ => s
    | none, .ok block => { s with holding := Function.update s.holding writer (some block) }
    | none, .error e => { s with returned := s.returned ++ [(writer, .error e)] }
  | .insertRow writer io =>
    match s.holding writer with
    | none => s
    | some block =>
      let holding := Function.update s.holding writer none
      match insertRow crates io s.ledger block with
      | .ok ledger => { ledger, holding, returned := s.returned ++ [(writer, .ok block)] }
      | .error e => { s with holding, returned := s.returned ++ [(writer, .error e)] }

def Writers.start (io : Io) (blobStore : BlobStore) : Writers ω where
  ledger := freshLedger crates io blobStore
  holding _ := none
  returned := []

end Steps

def acceptedBlock {ω : Type} : ω × Except String LedgerBlock → Option LedgerBlock
  | (_, .ok block) => some block
  | (_, .error _) => none

def Writers.accepted {ω : Type} (s : Writers ω) : List LedgerBlock := s.returned.filterMap acceptedBlock

structure Linear (crates : Crates) (blocks : List LedgerBlock) (rows : List BlockRow) : Prop where
  stored : rows = blocks.map (BlockRow.ofBlock crates)
  sequences : rows.map (fun row => row.sequence.toInt) = (List.range blocks.length).map fun (n : Nat) => (n : Int)
  linked : HashChain.Linked LedgerBlock.prevBlockHash LedgerBlock.blockHash blocks
  short : blocks.length ≤ rowLimit

section Invariant

variable {crates : Crates} {blocks : List LedgerBlock} {rows : List BlockRow}

theorem appendBlock_eq_steps (io : Io) (ledger : ImprovementLedger) (call : AppendCall) :
    appendBlock crates io ledger call.blockType call.payloadJson call.blobHashes = (do
      let block ← readHead crates io ledger call
      let ledger ← insertBlockInternal crates io ledger block
      return (block, ledger)) := by
  simp only [appendBlock, readHead, bind_assoc, pure_bind]

theorem Linear.sequence (linear : Linear crates blocks rows) {n : Nat} (inside : n < blocks.length) :
    (blocks[n].sequence.toInt64).toInt = n := by
  have here := congrArg (fun ints : List Int => ints[n]?) linear.sequences
  simpa [linear.stored, inside, BlockRow.ofBlock] using here

theorem Linear.nodup (linear : Linear crates blocks rows) : blocks.Nodup := by
  have numbers : ((List.range blocks.length).map fun (n : Nat) => (n : Int)).Nodup :=
    List.Nodup.map Nat.cast_injective List.nodup_range
  rw [← linear.sequences, linear.stored, List.map_map] at numbers
  exact List.Nodup.of_map _ numbers

theorem Linear.count (linear : Linear crates blocks rows) {block : LedgerBlock} (member : block ∈ blocks) :
    blocks.count block = 1 :=
  List.count_eq_one_of_mem linear.nodup member

-- A block made behind a stored one goes to the end of the chain, if its number is still free.
theorem Linear.append {table : BlockTable} {latest block : LedgerBlock}
    (linear : Linear crates blocks table.rows) (member : latest ∈ blocks)
    (number : block.sequence = latest.sequence + 1) (names : block.prevBlockHash = latest.blockHash)
    (room : blocks.length < rowLimit) (admitted : table.Admits (.ofBlock crates block)) :
    Linear crates (blocks ++ [block]) (table.insert _ admitted).rows := by
  have limit : rowLimit = 2 ^ 48 := rfl
  have sequence {n : Nat} (inside : n < blocks.length) : blocks[n].sequence = UInt64.ofNat n := by
    have small := linear.sequence inside
    have signed : blocks[n].sequence.toInt64 = (UInt64.ofNat n).toInt64 := by
      apply Int64.toInt_inj.mp
      rw [small, UInt64.toInt64_ofNat', Int64.toInt_ofNat_of_lt (by omega)]
    exact congrArg Int64.toUInt64 signed
  -- Were the named block not the last one, the number behind it would be taken.
  have last : blocks.getLast? = some latest := by
    apply List.getElem_of_mem at member
    cases member with
    | intro n found =>
      cases found with
      | intro inside here =>
        by_cases behind : n + 1 < blocks.length
        next =>
          have taken : BlockRow.ofBlock crates blocks[n + 1] ∈ table.rows := by
            rw [linear.stored]
            exact List.mem_map_of_mem (List.getElem_mem behind)
          apply absurd _ (admitted.1 _ taken)
          change blocks[n + 1].sequence.toInt64 = block.sequence.toInt64
          rw [number, ← here, sequence behind, sequence inside, UInt64.ofNat_add]
          rfl
        next =>
          have length : n = blocks.length - 1 := by omega
          rw [List.getLast?_eq_getElem?, ← length, List.getElem?_eq_getElem inside, here]
  have key : block.sequence.toInt64.toInt = blocks.length := by
    have nonempty : 0 < blocks.length := List.length_pos_of_mem member
    have here : blocks[blocks.length - 1] = latest := by
      rw [List.getLast?_eq_getElem?, List.getElem?_eq_getElem (by omega)] at last
      exact Option.some.inj last
    rw [number, ← here, sequence (by omega), show (1 : UInt64) = UInt64.ofNat 1 from rfl, ← UInt64.ofNat_add,
      Nat.sub_add_cancel nonempty, UInt64.toInt64_ofNat', Int64.toInt_ofNat_of_lt (by omega)]
  have rows : (table.insert _ admitted).rows = table.rows ++ [.ofBlock crates block] := by
    apply BlockTable.insert_rows_of_lt admitted
    intro row stored
    have number : row.sequence.toInt ∈ table.rows.map fun row => row.sequence.toInt :=
      List.mem_map_of_mem stored
    rw [linear.sequences, List.mem_map] at number
    cases number with
    | intro n found =>
      rw [← found.2]
      change (n : Int) < block.sequence.toInt64.toInt
      rw [key]
      have inside := List.mem_range.mp found.1
      omega
  constructor
  case stored => rw [rows, linear.stored, List.map_append, List.map_singleton]
  case sequences =>
    rw [rows, List.map_append, linear.sequences, List.length_append, List.length_singleton, List.range_succ,
      List.map_append]
    simp only [List.map_singleton, BlockRow.ofBlock, key]
  case linked =>
    apply (HashChain.linked_append_singleton _ _).mpr
    constructor
    next => exact linear.linked
    next =>
      intro other here
      rw [last, Option.mem_some_iff] at here
      rw [names, here]
  case short =>
    rw [List.length_append, List.length_singleton]
    omega

end Invariant

section Run

variable {crates : Crates} {ω : Type} [DecidableEq ω] {genesis : LedgerBlock} {s : Writers ω}

theorem readHead_eq_ok {io : Io} {ledger : ImprovementLedger} {call : AppendCall} {block : LedgerBlock} :
    readHead crates io ledger call = .ok block ↔ io.queryFault = none ∧
      ∃ latest, latestBlock crates ledger = .ok (some latest) ∧
        block = nextBlock crates io latest call.blockType call.payloadJson call.blobHashes := by
  rw [readHead, then_eq_ok, faulty_eq_ok]
  simp only [bind_eq_ok, okOr_eq_ok]
  constructor
  next =>
    rintro ⟨calm, _, read, latest, rfl, ⟨⟩⟩
    exact ⟨calm, latest, read, rfl⟩
  next =>
    rintro ⟨calm, latest, read, rfl⟩
    exact ⟨calm, _, read, latest, rfl, rfl⟩

theorem insertRow_eq_ok {io : Io} {ledger after : ImprovementLedger} {block : LedgerBlock} :
    insertRow crates io ledger block = .ok after ↔ ledger.blocks.rows.length < rowLimit ∧
      io.insertFault = none ∧
      ∃ admitted : ledger.blocks.Admits (.ofBlock crates block),
        after = { ledger with blocks := ledger.blocks.insert _ admitted } := by
  unfold insertRow
  by_cases full : rowLimit ≤ ledger.blocks.rows.length
  next => simp [full, not_lt.mpr full]
  next => simp only [if_neg full, insertBlockInternal_eq_ok, not_le.mp full, true_and]

-- The block was made behind this one.
def Behind (latest block : LedgerBlock) : Prop :=
  block.sequence = latest.sequence + 1 ∧ block.prevBlockHash = latest.blockHash

/-- What one step does: rows change only where an append returns, and then by its block. -/
inductive Stepped (crates : Crates) (before after : Writers ω) : Prop where
  | kept (ledger : after.ledger = before.ledger) (accepted : after.accepted = before.accepted)
      (held : ∀ writer block, after.holding writer = some block → before.holding writer = some block ∨
        ∃ latest, latestBlock crates before.ledger = .ok (some latest) ∧ Behind latest block)
  | inserted (writer : ω) (block : LedgerBlock) (holding : before.holding writer = some block)
      (room : before.ledger.blocks.rows.length < rowLimit)
      (admitted : before.ledger.blocks.Admits (.ofBlock crates block))
      (ledger : after.ledger = { before.ledger with blocks := before.ledger.blocks.insert _ admitted })
      (returned : after.returned = before.returned ++ [(writer, .ok block)])
      (held : ∀ other block, after.holding other = some block → before.holding other = some block)

omit [DecidableEq ω] in
theorem accepted_snoc_ok {before after : Writers ω} {writer : ω} {block : LedgerBlock}
    (returned : after.returned = before.returned ++ [(writer, .ok block)]) :
    after.accepted = before.accepted ++ [block] := by
  simp [Writers.accepted, returned, acceptedBlock]

omit [DecidableEq ω] in
theorem accepted_snoc_error (returned : List (ω × Except String LedgerBlock)) (writer : ω) (e : String) :
    (returned ++ [(writer, Except.error e)]).filterMap acceptedBlock = returned.filterMap acceptedBlock := by
  simp [acceptedBlock]

theorem appendStep_cases (s : Writers ω) (event : AppendEvent ω) :
    Stepped crates s (appendStep crates s event) := by
  cases event with
  | readHead writer io call =>
    simp only [appendStep]
    split
    next => exact .kept rfl rfl fun _ _ here => .inl here
    next block _ read =>
      refine .kept rfl rfl fun other held here => ?_
      by_cases same : other = writer
      next =>
        dsimp only at here
        rw [same, Function.update_self] at here
        cases here
        have made := (readHead_eq_ok.mp read).2
        cases made with
        | intro latest made => exact .inr ⟨latest, made.1, by rw [made.2]; exact ⟨rfl, rfl⟩⟩
      next =>
        dsimp only at here
        rw [Function.update_of_ne same] at here
        exact .inl here
    next e _ _ => exact .kept rfl (accepted_snoc_error _ writer e) fun _ _ here => .inl here
  | insertRow writer io =>
    simp only [appendStep]
    split
    next => exact .kept rfl rfl fun _ _ here => .inl here
    next block holding =>
      have released (other : ω) (held : LedgerBlock)
          (here : Function.update s.holding writer none other = some held) : s.holding other = some held := by
        by_cases same : other = writer
        next =>
          rw [same, Function.update_self] at here
          cases here
        next => rwa [Function.update_of_ne same] at here
      split
      next ledger written =>
        have effect := insertRow_eq_ok.mp written
        cases effect.2.2 with
        | intro admitted built => exact .inserted writer block holding effect.1 admitted built rfl released
      next e _ =>
        exact .kept rfl (accepted_snoc_error _ writer e) fun other held here => .inl (released other held here)

/-- The chain is the first block and the accepted ones, and a held block was made behind one of them. -/
structure Chained (crates : Crates) (genesis : LedgerBlock) (s : Writers ω) : Prop where
  linear : Linear crates (genesis :: s.accepted) s.ledger.blocks.rows
  held : ∀ writer block, s.holding writer = some block → ∃ latest ∈ genesis :: s.accepted, Behind latest block

omit [DecidableEq ω] in
theorem Chained.latest (chained : Chained crates genesis s) {latest : LedgerBlock}
    (read : latestBlock crates s.ledger = .ok (some latest)) : latest ∈ genesis :: s.accepted := by
  rw [latestBlock, KeyedTable.latest?, chained.linear.stored, List.getLast?_map] at read
  cases last : (genesis :: s.accepted).getLast? with
  | none => simp [last] at read
  | some block =>
    rw [last, Option.map_some] at read
    dsimp only at read
    rw [rowToBlock_ofBlock] at read
    cases read
    exact List.mem_of_getLast? last

theorem Chained.step (chained : Chained crates genesis s) (event : AppendEvent ω) :
    Chained crates genesis (appendStep crates s event) := by
  have stepped : Stepped crates s (appendStep crates s event) := appendStep_cases s event
  cases stepped with
  | kept ledger accepted held =>
    constructor
    case linear =>
      rw [ledger, accepted]
      exact chained.linear
    case held =>
      intro writer block here
      rw [accepted]
      cases held writer block here with
      | inl before => exact chained.held writer block before
      | inr read =>
        cases read with
        | intro latest read => exact ⟨latest, chained.latest read.1, read.2⟩
  | inserted writer block holding room admitted ledger returned held =>
    have accepted := accepted_snoc_ok returned
    constructor
    case linear =>
      cases chained.held writer block holding with
      | intro latest behind =>
        have short : (genesis :: s.accepted).length < rowLimit := by
          rwa [chained.linear.stored, List.length_map] at room
        rw [ledger, accepted, ← List.cons_append]
        exact chained.linear.append behind.1 behind.2.1 behind.2.2 short admitted
    case held =>
      intro other held' here
      rw [accepted, ← List.cons_append]
      cases chained.held other held' (held other held' here) with
      | intro latest behind => exact ⟨latest, List.mem_append_left _ behind.1, behind.2⟩

omit [DecidableEq ω] in
theorem start_chained (io : Io) (blobStore : BlobStore) :
    Chained crates (genesisBlock crates io) (Writers.start crates io blobStore : Writers ω) := by
  constructor
  case linear =>
    constructor
    case stored => rfl
    case sequences => rfl
    case linked => exact List.isChain_singleton _
    case short =>
      change 1 ≤ rowLimit
      decide
  case held =>
    intro writer block here
    cases here

open Shared.Run

/-- Any number of writers in any interleaving keep one chain: the first block and, in the order in which their
appends returned, the accepted ones; and a step that accepts none leaves the rows alone. -/
theorem concurrent_appends_linear (crates : Crates) (ω : Type) [DecidableEq ω] (io : Io)
    (blobStore : BlobStore) (events : List (AppendEvent ω)) :
    (∀ s ∈ states (appendStep crates) (Writers.start crates io blobStore) events,
      Linear crates (genesisBlock crates io :: s.accepted) s.ledger.blocks.rows ∧
      ∀ writer block, (writer, .ok block) ∈ s.returned →
        s.ledger.blocks.rows.count (.ofBlock crates block) = 1 ∧
        getBlock crates s.ledger block.sequence = .ok (some block)) ∧
    ∀ visit ∈ visits (appendStep crates) (Writers.start crates io blobStore) events,
      let after := appendStep crates visit.1 visit.2
      (∀ writer block, after.returned ≠ visit.1.returned ++ [(writer, .ok block)]) →
        after.ledger.blocks.rows = visit.1.ledger.blocks.rows := by
  have inv := invariant_states (appendStep crates) (Chained crates (genesisBlock crates io)) (fun _ _ => True)
    (fun s event chained _ => chained.step event) _ events (start_chained (ω := ω) io blobStore) fun _ _ => trivial
  constructor
  next =>
    intro s reached
    have chained := inv s reached
    apply And.intro chained.linear
    intro writer block returned
    have member : block ∈ genesisBlock crates io :: s.accepted :=
      List.mem_cons_of_mem _ (List.mem_filterMap.mpr ⟨_, returned, rfl⟩)
    have stored : BlockRow.ofBlock crates block ∈ s.ledger.blocks.rows := by
      rw [chained.linear.stored]
      exact List.mem_map_of_mem member
    constructor
    next =>
      apply List.count_eq_one_of_mem _ stored
      exact List.Nodup.of_map _ s.ledger.blocks.unique
    next =>
      rw [getBlock, show s.ledger.blocks.get? block.sequence.toInt64.toInt = some (.ofBlock crates block) from
        KeyedTable.get?_key stored]
      exact congrArg (Except.map some) (rowToBlock_ofBlock block)
  next =>
    intro visit _ after silent
    have stepped : Stepped crates visit.1 (appendStep crates visit.1 visit.2) :=
      appendStep_cases visit.1 visit.2
    cases stepped with
    | kept ledger => exact congrArg (fun ledger => ledger.blocks.rows) ledger
    | inserted writer block _ _ _ _ returned => exact absurd returned (silent writer block)

end Run

end SparkRsi.Ledger
