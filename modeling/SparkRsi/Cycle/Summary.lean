import SparkRsi.Ledger.Db

set_option autoImplicit false

namespace SparkRsi.Cycle

open Shared Ledger

structure CanaryExecutionRecord where
  requestsPlanned : Nat
  issued : Nat
  verifiedSuccess : Nat
  wrongResult : Nat
  timeout : Nat
  invalidResponse : Nat
  connectionClosed : Nat
  rejections : Nat
  ready : Bool
  reverted : Bool
  firstFailure : Option String

structure QuotaDecisionRecord where
  admitted : Bool
  counted : Option UInt64
  target : UInt64
  refusal : Option String

structure GateDecisionRecord where
  passed : Bool
  detail : String

structure CanarySummary where
  applicable : Bool
  refusal : Option String
  identityBindingDigest : Option String
  executableDigest : Option String
  logDigest : Option String
  commitmentBlockHash : Option String
  execution : Option CanaryExecutionRecord
  quota : Option QuotaDecisionRecord
  envelope : Option GateDecisionRecord
  envelopeNote : Option String
  promotionGate : Option GateDecisionRecord

def CanarySummary.empty : CanarySummary where
  applicable := false
  refusal := none
  identityBindingDigest := none
  executableDigest := none
  logDigest := none
  commitmentBlockHash := none
  execution := none
  quota := none
  envelope := none
  envelopeNote := none
  promotionGate := none

def optionJson {α : Type} (json : α → Json) : Option α → Json
  | none => .null
  | some value => json value

def QuotaDecisionRecord.json (record : QuotaDecisionRecord) : Json :=
  .obj [("admitted", .bool record.admitted), ("counted", optionJson (fun n => .num n.toNat) record.counted),
    ("target", .num record.target.toNat), ("refusal", optionJson .str record.refusal)]

def GateDecisionRecord.json (record : GateDecisionRecord) : Json :=
  .obj [("passed", .bool record.passed), ("detail", .str record.detail)]

def decisionPayload (generationId : String) (summary : CanarySummary) : Json :=
  .obj [("canary_decision", .obj [("generation_id", .str generationId),
    ("identity_binding_digest", optionJson .str summary.identityBindingDigest),
    ("log_digest", optionJson .str summary.logDigest),
    ("commitment_block_hash", optionJson .str summary.commitmentBlockHash),
    ("quota", optionJson QuotaDecisionRecord.json summary.quota),
    ("envelope", optionJson GateDecisionRecord.json summary.envelope),
    ("envelope_note", optionJson .str summary.envelopeNote),
    ("promotion_gate", optionJson GateDecisionRecord.json summary.promotionGate)])]

def recordDecision (crates : Crates) (io : Io) (ledger : ImprovementLedger) (generationId : String)
    (summary : CanarySummary) : ImprovementLedger :=
  kept ledger (appendBlock crates io ledger .evaluation
    (crates.payloadText (decisionPayload generationId summary)) [])

end SparkRsi.Cycle
