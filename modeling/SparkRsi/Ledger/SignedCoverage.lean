import SparkRsi.Ledger.Checkpoints
import Mathlib.Data.List.Induction

set_option autoImplicit false

namespace SparkRsi.Ledger

open Shared

namespace MerkleCheckpoint

variable {ecdsa : Ecdsa} {signingKey : ecdsa.SigningKey} {verifyingKey : ecdsa.VerifyingKey}

theorem verifySignature_sign (pair : ecdsa.Pair signingKey verifyingKey) (checkpoint : MerkleCheckpoint) :
    (checkpoint.sign ecdsa signingKey).verifySignature ecdsa verifyingKey = true := by
  simp only [verifySignature, sign, stripLead_append, Option.bind_some, pair.decodes, pair.parses,
    pair.accepts]

end MerkleCheckpoint

variable (crates : Crates) (ecdsa : Ecdsa)

def storedCheckpoint : Io × LedgerWrite ecdsa → Option (Option ecdsa.SigningKey)
  | (io, .checkpoint signingKey) =>
    if io.queryFault = none ∧ io.insertFault = none then some signingKey else none
  | _ => none

def newestSigned (steps : List (Io × LedgerWrite ecdsa)) : Option Bool :=
  (steps.filterMap (storedCheckpoint ecdsa)).getLast?.map Option.isSome

def signedCheckpoint : ImprovementLedger × Io × LedgerWrite ecdsa → Option MerkleCheckpoint
  | (ledger, io, .checkpoint (some signingKey)) =>
    (checkpoint crates ecdsa io ledger (some signingKey)).toOption.map Prod.fst
  | _ => none

def signedCheckpoints (opened : ImprovementLedger) (steps : List (Io × LedgerWrite ecdsa)) :
    List MerkleCheckpoint :=
  (Run.visits (write crates ecdsa) opened steps).filterMap (signedCheckpoint crates ecdsa)

/-- After these steps every audit with the key reports a verified signature at or behind every signed
checkpoint. -/
def CoveredAfter (verifyingKey : ecdsa.VerifyingKey) (opened : ImprovementLedger)
    (steps : List (Io × LedgerWrite ecdsa)) : Prop :=
  ∀ now, ∃ report sequence, verifyChainIntegrity crates ecdsa now (Run.final (write crates ecdsa) opened steps)
      (some verifyingKey) = .ok report ∧
    report.signatureVerified = true ∧ report.checkpointSequence = some sequence ∧
    ∀ made ∈ signedCheckpoints crates ecdsa opened steps, made.upToSequence ≤ sequence

def Newest (verifyingKey : ecdsa.VerifyingKey) (ledger : ImprovementLedger) (signed : List MerkleCheckpoint) :
    Option Bool → Prop
  | none => latestCheckpoint crates ledger = .ok none ∧ signed = []
  | some verified => ∃ latest, latestCheckpoint crates ledger = .ok (some latest) ∧
      latest.verifySignature ecdsa verifyingKey = verified ∧ ∀ made ∈ signed, made.upToSequence ≤ latest.upToSequence

variable {crates} {ecdsa} {io : Io} {ledger : ImprovementLedger} {blocks : List LedgerBlock}
  {verifyingKey : ecdsa.VerifyingKey} {signed : List MerkleCheckpoint}

-- The audit with the key accepts a recorded ledger exactly when its newest checkpoint is signed.
theorem Newest.audit_iff {newest : Option Bool}
    (latest : Newest crates ecdsa verifyingKey ledger signed newest)
    (recorded : Recorded crates ledger blocks) (now : String) :
    (∃ report sequence, verifyChainIntegrity crates ecdsa now ledger (some verifyingKey) = .ok report ∧
      report.signatureVerified = true ∧ report.checkpointSequence = some sequence ∧
      ∀ made ∈ signed, made.upToSequence ≤ sequence) ↔ newest = some true := by
  obtain ⟨head, last⟩ : ∃ head, blocks.getLast? = some head :=
    ⟨_, List.getLast?_eq_some_getLast recorded.audited.nonempty⟩
  obtain ⟨found, coverage, read, covered⟩ := recorded.checkpointCovers ecdsa last
  constructor
  · rintro ⟨report, sequence, audit, verified, -, -⟩
    obtain ⟨_, _, checkpoint, _, accepted⟩ := verifyChainIntegrity_ok.mp audit
    cases newest with
    | none =>
      cases latest.1.symm.trans accepted.newest
      have none_covered := accepted.covered
      cases none_covered
      rw [accepted.report_eq] at verified
      cases verified
    | some isSigned =>
      obtain ⟨stored, same, verifies, -⟩ := latest
      cases same.symm.trans accepted.newest
      obtain ⟨-, -, -, key, -⟩ := checkCoverage_some_ok.mp accepted.covered
      rw [← verifies, key verifyingKey rfl]
  · rintro rfl
    obtain ⟨stored, same, verifies, behind⟩ := latest
    cases same.symm.trans read
    obtain ⟨within, count, root, -⟩ := checkCoverage_some_ok.mp covered
    have accepted : checkCoverage crates ecdsa (blocks.map LedgerBlock.blockHash) head.sequence (some verifyingKey)
        (some stored) = .ok _ := checkCoverage_some_ok.mpr ⟨within, count, root, by simpa using verifies, rfl⟩
    exact ⟨_, stored.upToSequence, verifyChainIntegrity_ok.mpr ⟨blocks, head, some stored, _,
      ⟨recorded.allBlocks, recorded.audited, last, read, accepted, rfl⟩⟩, rfl, rfl, behind⟩

theorem latestCheckpoint_congr {other : ImprovementLedger} (same : other.checkpoints = ledger.checkpoints) :
    latestCheckpoint crates other = latestCheckpoint crates ledger := by
  simp only [latestCheckpoint, same]

theorem kept_appendBlock_checkpoints (blockType : BlockType) (payloadJson : String)
    (blobHashes : List String) :
    (kept ledger (appendBlock crates io ledger blockType payloadJson blobHashes)).checkpoints =
      ledger.checkpoints := by
  cases appended : appendBlock crates io ledger blockType payloadJson blobHashes with
  | error e => rfl
  | ok result =>
    obtain ⟨-, -, latest, -, admitted, rfl⟩ := appendBlock_eq_ok.mp appended
    rfl

theorem appendEvaluation_checkpoints (receipt : Except String String) (rawMetrics : Option Bytes) :
    (appendEvaluation crates io ledger receipt rawMetrics).2.checkpoints = ledger.checkpoints := by
  dsimp only [appendEvaluation]
  split
  · rename_i block after appended
    simp only [bind_eq_ok] at appended
    obtain ⟨blobHashes, -, _, -, done⟩ := appended
    obtain ⟨-, -, latest, -, admitted, same⟩ := appendBlock_eq_ok.mp done
    cases same
    rfl
  · rfl

theorem checkpoint_faulted {signingKey : Option ecdsa.SigningKey}
    (faulted : ¬(io.queryFault = none ∧ io.insertFault = none)) :
    ∃ e, checkpoint crates ecdsa io ledger signingKey = .error e := by
  cases done : checkpoint crates ecdsa io ledger signingKey with
  | error e => exact ⟨e, rfl⟩
  | ok made =>
    simp only [checkpoint, bind_eq_ok, exists_unit, faulty_eq_ok, mapError_eq_ok] at done
    obtain ⟨queried, -, -, -, -, inserted, -⟩ := done
    exact absurd ⟨queried, inserted⟩ faulted

-- A step that stores no checkpoint leaves the table of checkpoints, and returns none.
theorem write_silent {step : Io × LedgerWrite ecdsa} (silent : storedCheckpoint ecdsa step = none) :
    (write crates ecdsa ledger step).checkpoints = ledger.checkpoints ∧
      signedCheckpoint crates ecdsa (ledger, step) = none := by
  obtain ⟨io, kind⟩ := step
  cases kind with
  | evaluation receipt rawMetrics => exact ⟨appendEvaluation_checkpoints receipt rawMetrics, rfl⟩
  | promotion => exact ⟨kept_appendBlock_checkpoints _ _ _, rfl⟩
  | rollback => exact ⟨kept_appendBlock_checkpoints _ _ _, rfl⟩
  | promotionEvidence => exact ⟨kept_appendBlock_checkpoints _ _ _, rfl⟩
  | block => exact ⟨kept_appendBlock_checkpoints _ _ _, rfl⟩
  | kernelReceipt => exact ⟨kept_appendBlock_checkpoints _ _ _, rfl⟩
  | checkpoint signingKey =>
    have faulted : ¬(io.queryFault = none ∧ io.insertFault = none) := by
      intro calm
      simp [storedCheckpoint, calm] at silent
    obtain ⟨e, refused⟩ := @checkpoint_faulted crates ecdsa io ledger signingKey faulted
    refine ⟨by simp only [write, refused, kept], ?_⟩
    cases signingKey with
    | none => rfl
    | some key => simp only [signedCheckpoint, refused, Except.toOption, Option.map_none]

-- Every stored checkpoint ends at or before the last block.
theorem Recorded.checkpoint_behind (recorded : Recorded crates ledger blocks) {row : CheckpointRow}
    (member : row ∈ ledger.checkpoints.rows) :
    row.upToSequence.toInt ≤ (UInt64.ofNat (blocks.length - 1)).toInt64.toInt ∧
      ∀ stored, checkpointOfRow crates row = .ok stored →
        stored.upToSequence ≤ UInt64.ofNat (blocks.length - 1) := by
  obtain ⟨n, now, signature, positive, inside, rfl⟩ := recorded.checkpoints row member
  have total := recorded.bounded
  have int (k : Nat) (small : k < 2 ^ 63) : (UInt64.ofNat k).toInt64.toInt = k := by
    rw [UInt64.toInt64_ofNat', Int64.toInt_ofNat_of_lt small]
  constructor
  · change (UInt64.ofNat (n - 1)).toInt64.toInt ≤ _
    rw [int _ (by omega), int _ (by omega)]
    omega
  · intro stored read
    rw [checkpointOfRow_checkpointRow] at read
    cases read
    have value (k : Nat) (small : k < 2 ^ 63) : (UInt64.ofNat k).toNat = k := by
      simp
      omega
    change UInt64.ofNat (n - 1) ≤ _
    rw [UInt64.le_iff_toNat_le, value _ (by omega), value _ (by omega)]
    omega

theorem Recorded.latest_behind (recorded : Recorded crates ledger blocks) {stored : MerkleCheckpoint}
    (read : latestCheckpoint crates ledger = .ok (some stored)) :
    stored.upToSequence ≤ UInt64.ofNat (blocks.length - 1) := by
  unfold latestCheckpoint at read
  cases last : ledger.checkpoints.latest? with
  | none => simp [last] at read
  | some row =>
    cases parsed : checkpointOfRow crates row with
    | error e => simp [last, parsed, Except.map] at read
    | ok checkpoint =>
      simp only [last, parsed, Except.map, Except.ok.injEq, Option.some.injEq] at read
      exact (recorded.checkpoint_behind (List.mem_of_getLast? last)).2 stored (by rw [parsed, read])

-- A checkpoint call on a working disk: its checkpoint becomes the latest.
theorem Recorded.checkpoint_stored (recorded : Recorded crates ledger blocks) {signingKey : ecdsa.SigningKey}
    (pair : ecdsa.Pair signingKey verifyingKey) {key : Option ecdsa.SigningKey}
    (keyed : ∀ k ∈ key, k = signingKey) (calm : io.queryFault = none ∧ io.insertFault = none) :
    ∃ made after, Ledger.checkpoint crates ecdsa io ledger key = .ok (made, after) ∧
      latestCheckpoint crates after = .ok (some made) ∧ made.verifySignature ecdsa verifyingKey = key.isSome ∧
      made.upToSequence = UInt64.ofNat (blocks.length - 1) := by
  obtain ⟨head, last⟩ : ∃ head, blocks.getLast? = some head :=
    ⟨_, List.getLast?_eq_some_getLast recorded.audited.nonempty⟩
  have sequence : head.sequence = UInt64.ofNat (blocks.length - 1) := by
    have indexed := recorded.audited.latest_sequence recorded.allBlocks last
    apply UInt64.toNat_inj.mp
    have total := recorded.bounded
    simp
    omega
  obtain ⟨made, covering, verifies, upTo⟩ : ∃ made, checkpointOver crates ecdsa io.now key blocks = .ok made ∧
      made.verifySignature ecdsa verifyingKey = key.isSome ∧ made.upToSequence = head.sequence := by
    simp only [checkpointOver, last]
    cases key with
    | none => exact ⟨_, rfl, rfl, rfl⟩
    | some k =>
      cases keyed k rfl
      exact ⟨_, rfl, MerkleCheckpoint.verifySignature_sign pair _, rfl⟩
  refine ⟨made, { ledger with checkpoints := ledger.checkpoints.upsert (checkpointRow made) }, ?_, ?_,
    verifies, upTo.trans sequence⟩
  · simp only [Ledger.checkpoint, calm, faulty, recorded.allBlocks, covering, Except.mapError, bind,
      Except.bind, pure, Except.pure]
  · have largest : (ledger.checkpoints.upsert (checkpointRow made)).latest? = some (checkpointRow made) := by
      apply KeyedTable.latest?_upsert
      intro row member
      have behind := (recorded.checkpoint_behind member).1
      change row.upToSequence.toInt ≤ made.upToSequence.toInt64.toInt
      rwa [upTo, sequence]
    simp only [latestCheckpoint, largest, checkpointOfRow_checkpointRow, Except.map]

-- One step: appends and failed calls leave the newest checkpoint, a stored one replaces it.
theorem Newest.write {newest : Option Bool} (latest : Newest crates ecdsa verifyingKey ledger signed newest)
    (recorded : Recorded crates ledger blocks) {signingKey : ecdsa.SigningKey}
    (pair : ecdsa.Pair signingKey verifyingKey) (step : Io × LedgerWrite ecdsa)
    (keyed : ∀ k, storedCheckpoint ecdsa step = some (some k) → k = signingKey) :
    Newest crates ecdsa verifyingKey (Ledger.write crates ecdsa ledger step)
      (signed ++ (signedCheckpoint crates ecdsa (ledger, step)).toList)
      (((storedCheckpoint ecdsa step).map Option.isSome).or newest) := by
  cases stores : storedCheckpoint ecdsa step with
  | none =>
    obtain ⟨same, returns⟩ := @write_silent crates ecdsa ledger step stores
    have read := @latestCheckpoint_congr crates ledger _ same
    rw [returns, Option.toList_none, List.append_nil]
    cases newest with
    | none => exact ⟨read.trans latest.1, latest.2⟩
    | some verified =>
      obtain ⟨stored, found, rest⟩ := latest
      exact ⟨stored, read.trans found, rest⟩
  | some key =>
    obtain ⟨io, kind⟩ := step
    cases kind with
    | checkpoint signingKey' =>
      simp only [storedCheckpoint, Option.ite_none_right_eq_some, Option.some.injEq] at stores
      obtain ⟨calm, rfl⟩ := stores
      have known : ∀ k ∈ signingKey', k = signingKey := by
        intro k member
        refine keyed k ?_
        rw [Option.mem_def.mp member]
        simp [storedCheckpoint, calm]
      obtain ⟨made, after, done, found, verifies, upTo⟩ := recorded.checkpoint_stored pair known calm
      have state : Ledger.write crates ecdsa ledger (io, .checkpoint signingKey') = after := by
        simp only [Ledger.write, done, kept]
      rw [state]
      refine ⟨made, found, verifies, fun older member => ?_⟩
      rcases List.mem_append.mp member with before | new
      · -- The signed ones so far end at or before the old newest, and that is a row of the table.
        rw [upTo]
        cases newest with
        | none => simp [latest.2] at before
        | some verified =>
          obtain ⟨stored, read, -, behind⟩ := latest
          exact UInt64.le_trans (behind older before) (recorded.latest_behind read)
      · cases signingKey' with
        | none => simp [signedCheckpoint] at new
        | some k =>
          simp only [signedCheckpoint, done, Except.toOption, Option.map_some, Option.toList_some,
            List.mem_singleton] at new
          rw [new]
          exact UInt64.le_refl _
    | _ => cases stores

theorem newestSigned_append (steps : List (Io × LedgerWrite ecdsa)) (step : Io × LedgerWrite ecdsa) :
    newestSigned ecdsa (steps ++ [step]) =
      ((storedCheckpoint ecdsa step).map Option.isSome).or (newestSigned ecdsa steps) := by
  cases stores : storedCheckpoint ecdsa step <;> simp [newestSigned, List.filterMap_append, stores]

theorem signedCheckpoints_append (opened : ImprovementLedger) (steps : List (Io × LedgerWrite ecdsa))
    (step : Io × LedgerWrite ecdsa) :
    signedCheckpoints crates ecdsa opened (steps ++ [step]) = signedCheckpoints crates ecdsa opened steps ++
      (signedCheckpoint crates ecdsa (Run.final (write crates ecdsa) opened steps, step)).toList := by
  rw [signedCheckpoints, Run.visits_append, List.filterMap_append]
  cases made : signedCheckpoint crates ecdsa (Run.final (write crates ecdsa) opened steps, step) <;>
    simp [signedCheckpoints, Run.visits, made]

-- The newest checkpoint of a run of the program on a recorded ledger without checkpoints.
theorem Newest.run {opened : ImprovementLedger} (recorded : Recorded crates opened blocks)
    (none_yet : latestCheckpoint crates opened = .ok none) {signingKey : ecdsa.SigningKey}
    (pair : ecdsa.Pair signingKey verifyingKey) (steps : List (Io × LedgerWrite ecdsa))
    (keyed : ∀ step ∈ steps, ∀ k, storedCheckpoint ecdsa step = some (some k) → k = signingKey)
    (backed : ∀ visit ∈ Run.visits (Ledger.write crates ecdsa) opened steps, Backed crates ecdsa visit.1 visit.2) :
    ∃ after, Recorded crates (Run.final (Ledger.write crates ecdsa) opened steps) after ∧
      Newest crates ecdsa verifyingKey (Run.final (Ledger.write crates ecdsa) opened steps)
        (signedCheckpoints crates ecdsa opened steps) (newestSigned ecdsa steps) := by
  induction steps using List.reverseRecOn with
  | nil => exact ⟨blocks, recorded, none_yet, rfl⟩
  | append_singleton steps step ih =>
    rw [Run.visits_append] at backed
    obtain ⟨middle, kept, newest⟩ := ih (fun s member => keyed s (List.mem_append_left _ member))
      (fun visit member => backed visit (List.mem_append_left _ member))
    have allowed := backed (Run.final (Ledger.write crates ecdsa) opened steps, step) (by simp [Run.visits])
    obtain ⟨after, recordedAfter⟩ := kept.write step allowed
    rw [Run.final_append, signedCheckpoints_append, newestSigned_append]
    exact ⟨after, recordedAfter, newest.write kept pair step (keyed step (by simp))⟩

-- The newest checkpoint is signed when one is and no unsigned one came behind it.
theorem newestSigned_of_none_unsigned (steps : List (Io × LedgerWrite ecdsa))
    (unsigned : ∀ before step behind, steps = before ++ step :: behind →
      (∃ other ∈ before, ∃ k, storedCheckpoint ecdsa other = some (some k)) → storedCheckpoint ecdsa step ≠ some none)
    (signed : ∃ step ∈ steps, ∃ k, storedCheckpoint ecdsa step = some (some k)) :
    newestSigned ecdsa steps = some true := by
  induction steps using List.reverseRecOn with
  | nil => simp at signed
  | append_singleton steps step ih =>
    obtain ⟨other, member, k, stores⟩ := signed
    rw [newestSigned_append]
    rcases List.mem_append.mp member with before | last
    · have earlier := ih (fun first s second split => unsigned first s (second ++ [step]) (by simp [split]))
        ⟨other, before, k, stores⟩
      cases here : storedCheckpoint ecdsa step with
      | none => simpa using earlier
      | some key =>
        cases key with
        | none => exact absurd here (unsigned steps step [] rfl ⟨other, before, k, stores⟩)
        | some k => rfl
    · rw [← List.mem_singleton.mp last, stores]
      rfl

/-- On a ledger the program wrote, signed coverage is kept in every state from the first signed checkpoint on
exactly when no unsigned checkpoint is stored behind a signed one. -/
theorem signed_coverage_iff (crates : Crates) (ecdsa : Ecdsa) (signingKey : ecdsa.SigningKey)
    (verifyingKey : ecdsa.VerifyingKey) (pair : ecdsa.Pair signingKey verifyingKey) (io : Io)
    (opened : ImprovementLedger) (fresh : openLedger crates io (emptyLedger fun _ => none) = .ok opened)
    (steps : List (Io × LedgerWrite ecdsa))
    (keyed : ∀ step ∈ steps, ∀ k, storedCheckpoint ecdsa step = some (some k) → k = signingKey)
    (backed : ∀ visit ∈ Run.visits (write crates ecdsa) opened steps, Backed crates ecdsa visit.1 visit.2) :
    (∀ before behind, steps = before ++ behind →
      (∃ step ∈ before, ∃ k, storedCheckpoint ecdsa step = some (some k)) →
        CoveredAfter crates ecdsa verifyingKey opened before) ↔
      ∀ before step behind, steps = before ++ step :: behind →
        (∃ other ∈ before, ∃ k, storedCheckpoint ecdsa other = some (some k)) →
          storedCheckpoint ecdsa step ≠ some none := by
  obtain ⟨-, -, rfl⟩ := openLedger_empty.mp fresh
  have reached (before behind : List (Io × LedgerWrite ecdsa)) (split : steps = before ++ behind) :
      CoveredAfter crates ecdsa verifyingKey (freshLedger crates io fun _ => none) before ↔
        newestSigned ecdsa before = some true := by
    rw [split, Run.visits_append] at backed
    obtain ⟨blocks, recorded, newest⟩ := Newest.run freshLedger_recorded rfl pair before
      (fun step member => keyed step (split ▸ List.mem_append_left _ member))
      (fun visit member => backed visit (List.mem_append_left _ member))
    constructor
    · exact fun covered => (newest.audit_iff recorded "").mp (covered "")
    · exact fun signed now => (newest.audit_iff recorded now).mpr signed
  constructor
  · intro covered before step behind split signed unsigned
    obtain ⟨other, member, signedOther⟩ := signed
    have whole : steps = (before ++ [step]) ++ behind := by simp [split]
    have kept := covered _ _ whole ⟨other, List.mem_append_left _ member, signedOther⟩
    rw [reached _ _ whole, newestSigned_append, unsigned] at kept
    cases kept
  · intro unsigned before behind split signed
    rw [reached before behind split]
    apply newestSigned_of_none_unsigned before _ signed
    intro first step second inner
    exact unsigned first step (second ++ behind) (by simp [split, inner])

section Sample

theorem kept_checkpoint_blocks {signingKey : Option ecdsa.SigningKey} :
    (kept ledger (checkpoint crates ecdsa io ledger signingKey)).blocks = ledger.blocks := by
  cases done : checkpoint crates ecdsa io ledger signingKey with
  | error e => rfl
  | ok result =>
    simp only [checkpoint, bind_eq_ok] at done
    obtain ⟨_, -, _, -, _, -, _, -, built⟩ := done
    cases built
    rfl

def pairedSignature (message : Bytes) : Bytes :=
  let signature : Bytes := vectorEcdsa.sign vectorSecret message
  if signature = [] then List.replicate 64 0 else signature

def pairedEcdsa : Ecdsa where
  SigningKey := Nat
  VerifyingKey := Nat
  Signature := Bytes
  sign key message := if key = vectorSecret then pairedSignature message else []
  toBytes sig := sig
  fromSlice bytes := if bytes.length = 64 then some bytes else none
  verify key message sig := key = vectorPoint ∧ sig = pairedSignature message
  hexDecode text := hexDecodeChars text.toList

theorem pairedSignature_length (message : Bytes) : (pairedSignature message).length = 64 := by
  simp only [pairedSignature, vectorEcdsa, Ecdsa.single, true_and]
  generalize utf8 _ = signed
  by_cases same : message = signed
  · rw [if_pos same]
    rfl
  · rw [if_neg same]
    rfl

theorem paired_pair : pairedEcdsa.Pair vectorSecret vectorPoint where
  decodes := hexDecodeChars_encode
  parses message := by simp [pairedEcdsa, pairedSignature_length]
  accepts message := by simp [pairedEcdsa]

def signedStep : Io × LedgerWrite pairedEcdsa :=
  (Io.calm "2026-01-01T00:00:01+00:00", .checkpoint (some vectorSecret))

def unsignedStep : Io × LedgerWrite pairedEcdsa := (Io.calm "2026-01-01T00:00:02+00:00", .checkpoint none)

def blockStep : Io × LedgerWrite pairedEcdsa :=
  (Io.calm "2026-01-01T00:00:02+00:00", .block .evaluation "\x7b\x7d")

theorem vectorLedger_opened :
    openLedger standardCrates vectorOpening (emptyLedger fun _ => none) = .ok vectorLedger :=
  openLedger_empty.mpr ⟨rfl, rfl, rfl⟩

theorem checkpointed_backed (kind : LedgerWrite pairedEcdsa)
    (room : kind = .checkpoint none ∨ ∃ t p, kind = .block t p) :
    ∀ visit ∈ Run.visits (write standardCrates pairedEcdsa) vectorLedger
      [signedStep, (Io.calm "2026-01-01T00:00:02+00:00", kind)],
      Backed standardCrates pairedEcdsa visit.1 visit.2 := by
  have one : vectorLedger.blocks.rows.length < 2 ^ 63 := by
    change 1 < 2 ^ 63
    decide
  have kept_one : (write standardCrates pairedEcdsa vectorLedger signedStep).blocks.rows.length < 2 ^ 63 := by
    have same : (write standardCrates pairedEcdsa vectorLedger signedStep).blocks = vectorLedger.blocks :=
      kept_checkpoint_blocks
    rwa [same]
  intro visit member
  simp only [Run.visits, List.mem_cons, List.not_mem_nil, or_false] at member
  rcases member with rfl | rfl
  · exact one
  · rcases room with rfl | ⟨t, p, rfl⟩ <;> exact kept_one

theorem signed_coverage_iff_append :
    CoveredAfter standardCrates pairedEcdsa vectorPoint vectorLedger [signedStep, blockStep] := by
  refine (signed_coverage_iff standardCrates pairedEcdsa vectorSecret vectorPoint paired_pair vectorOpening vectorLedger
    vectorLedger_opened [signedStep, blockStep] ?_ (checkpointed_backed _ (.inr ⟨_, _, rfl⟩))).mpr ?_ _ [] rfl
    ⟨signedStep, by simp, vectorSecret, rfl⟩
  · intro step member k stores
    rcases List.mem_pair.mp member with rfl | rfl
    · exact (Option.some.inj (Option.some.inj stores)).symm
    · cases stores
  · intro before step behind split signed unsigned
    have member : step ∈ [signedStep, blockStep] := by simp [split]
    rcases List.mem_pair.mp member with rfl | rfl <;> cases unsigned

theorem unsigned_checkpoint_uncovers :
    CoveredAfter standardCrates pairedEcdsa vectorPoint vectorLedger [signedStep] ∧
      ¬CoveredAfter standardCrates pairedEcdsa vectorPoint vectorLedger [signedStep, unsignedStep] := by
  have keyed : ∀ step ∈ [signedStep, unsignedStep], ∀ k, storedCheckpoint pairedEcdsa step = some (some k) →
      k = vectorSecret := by
    intro step member k stores
    rcases List.mem_pair.mp member with rfl | rfl
    · exact (Option.some.inj (Option.some.inj stores)).symm
    · cases stores
  have backed := checkpointed_backed (.checkpoint none) (.inl rfl)
  constructor
  · intro now
    obtain ⟨after, recorded, newest⟩ := Newest.run vectorLedger_recorded rfl paired_pair [signedStep]
      (fun step member => keyed step (by simp [List.mem_singleton.mp member]))
      (fun visit member => backed visit (by simp [Run.visits] at member ⊢; exact .inl member))
    exact (newest.audit_iff recorded now).mpr rfl
  · intro covered
    obtain ⟨after, recorded, newest⟩ := Newest.run vectorLedger_recorded rfl paired_pair [signedStep,
      unsignedStep]
      keyed backed
    have signed := (newest.audit_iff recorded "").mp (covered "")
    cases signed

end Sample

end SparkRsi.Ledger
