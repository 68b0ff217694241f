import SparkRsi.Ledger.Merkle
import SparkRsi.Shared.KeyedTable
import SparkRsi.Shared.Results
import SparkRsi.Shared.Json
import SparkRsi.Shared.Sha256

set_option autoImplicit false

namespace SparkRsi.Ledger

open Shared

/-- A stored column value, whatever the column was declared as. -/
inductive SqlValue where
  | null
  | integer (value : Int64)
  | real (bits : UInt64)
  | text (value : String)
  | malformedText (bytes : Bytes)
  | blob (bytes : Bytes)
  deriving DecidableEq

structure Crates where
  sha : HexHash
  stringsToJson : List String → String
  stringsFromJson : String → Except String (List String)
  stringsFromJson_toJson : ∀ strings, stringsFromJson (stringsToJson strings) = .ok strings
  payloadText : Json → String
  columnError : Nat → SqlValue → String

attribute [simp] Crates.stringsFromJson_toJson

section Rows

variable (crates : Crates)

def getString (column : Nat) : SqlValue → Except String String
  | .text value => .ok value
  | other => .error (crates.columnError column other)

def getI64 (column : Nat) : SqlValue → Except String Int64
  | .integer value => .ok value
  | other => .error (crates.columnError column other)

def getOptionString (column : Nat) : SqlValue → Except String (Option String)
  | .null => .ok none
  | value => (getString crates column value).map some

structure BlockRow where
  sequence : Int64
  blockType : SqlValue
  timestampUtc : SqlValue
  prevBlockHash : SqlValue
  payloadJson : SqlValue
  payloadDigest : SqlValue
  blobHashesJson : SqlValue
  blockHash : SqlValue
  deriving DecidableEq

structure BlockTexts where
  blockType : String
  timestampUtc : String
  prevBlockHash : String
  payloadJson : String
  payloadDigest : String
  blobHashesJson : String
  blockHash : String

namespace BlockRow

def texts (row : BlockRow) : Except String BlockTexts := do
  let blockType ← getString crates 1 row.blockType
  let timestampUtc ← getString crates 2 row.timestampUtc
  let prevBlockHash ← getString crates 3 row.prevBlockHash
  let payloadJson ← getString crates 4 row.payloadJson
  let payloadDigest ← getString crates 5 row.payloadDigest
  let blobHashesJson ← getString crates 6 row.blobHashesJson
  let blockHash ← getString crates 7 row.blockHash
  return { blockType, timestampUtc, prevBlockHash, payloadJson, payloadDigest, blobHashesJson, blockHash }

def ofTexts (sequence : Int64) (texts : BlockTexts) : BlockRow :=
  { sequence
    blockType := .text texts.blockType
    timestampUtc := .text texts.timestampUtc
    prevBlockHash := .text texts.prevBlockHash
    payloadJson := .text texts.payloadJson
    payloadDigest := .text texts.payloadDigest
    blobHashesJson := .text texts.blobHashesJson
    blockHash := .text texts.blockHash }

def ofBlock (block : LedgerBlock) : BlockRow :=
  { sequence := block.sequence.toInt64
    blockType := .text block.blockType.toText
    timestampUtc := .text block.timestampUtc
    prevBlockHash := .text block.prevBlockHash
    payloadJson := .text block.payloadJson
    payloadDigest := .text block.payloadDigest
    blobHashesJson := .text (crates.stringsToJson block.blobHashes)
    blockHash := .text block.blockHash }

end BlockRow

def BlockTexts.block (texts : BlockTexts) (sequence : Int64) (blockType : BlockType)
    (blobHashes : List String) : LedgerBlock :=
  { sequence := sequence.toUInt64
    blockType
    timestampUtc := texts.timestampUtc
    prevBlockHash := texts.prevBlockHash
    payloadJson := texts.payloadJson
    payloadDigest := texts.payloadDigest
    blobHashes
    blockHash := texts.blockHash }

/-- Strict: an unknown block type or an unparsable blob list is an error. -/
def rowToBlock (row : BlockRow) : Except String LedgerBlock := do
  let texts ← row.texts crates
  let blockType ← (BlockType.fromStr texts.blockType).mapError fun e => s!"Failed to parse block_type: {e}"
  let blobHashes ← (crates.stringsFromJson texts.blobHashesJson).mapError fun e =>
    s!"Failed to parse blob_hashes_json: {e}"
  return texts.block row.sequence blockType blobHashes

/-- Lenient: an unknown block type reads as an evaluation, an unparsable blob list as empty. -/
def auditedRow (row : BlockRow) : Except String LedgerBlock := do
  let texts ← row.texts crates
  let blockType := (BlockType.fromStr texts.blockType).toOption.getD .evaluation
  let blobHashes := (crates.stringsFromJson texts.blobHashesJson).toOption.getD []
  return texts.block row.sequence blockType blobHashes

variable {crates}

theorem getString_eq_ok {column : Nat} {value : SqlValue} {s : String} :
    getString crates column value = .ok s ↔ value = .text s := by
  cases value <;> simp [getString]

theorem texts_eq_ok {row : BlockRow} {texts : BlockTexts} :
    row.texts crates = .ok texts ↔ row = .ofTexts row.sequence texts := by
  constructor
  · intro read
    simp only [BlockRow.texts, bind_eq_ok, getString_eq_ok] at read
    obtain ⟨_, type, _, ts, _, prev, _, payload, _, digest, _, blobs, _, hash, built⟩ := read
    cases built
    cases row
    simp_all [BlockRow.ofTexts]
  · intro built
    rw [built]
    rfl

theorem auditedRow_eq_ok {row : BlockRow} {block : LedgerBlock} :
    auditedRow crates row = .ok block ↔ ∃ texts, row = .ofTexts row.sequence texts ∧
      block = texts.block row.sequence ((BlockType.fromStr texts.blockType).toOption.getD .evaluation)
        ((crates.stringsFromJson texts.blobHashesJson).toOption.getD []) := by
  simp only [auditedRow, bind_eq_ok, texts_eq_ok]
  refine exists_congr fun texts => and_congr_right fun _ => ?_
  constructor
  · rintro ⟨⟩; rfl
  · rintro rfl; rfl

theorem rowToBlock_eq_ok {row : BlockRow} {block : LedgerBlock} :
    rowToBlock crates row = .ok block ↔ ∃ texts blockType blobHashes, row = .ofTexts row.sequence texts ∧
      BlockType.fromStr texts.blockType = .ok blockType ∧
      crates.stringsFromJson texts.blobHashesJson = .ok blobHashes ∧
      block = texts.block row.sequence blockType blobHashes := by
  simp only [rowToBlock, bind_eq_ok, texts_eq_ok, mapError_eq_ok]
  constructor
  · rintro ⟨texts, built, blockType, type, blobHashes, blobs, ⟨⟩⟩
    exact ⟨texts, blockType, blobHashes, built, type, blobs, rfl⟩
  · rintro ⟨texts, blockType, blobHashes, built, type, blobs, rfl⟩
    exact ⟨texts, built, blockType, type, blobHashes, blobs, rfl⟩

-- Both readers return a stored block as it was.
theorem rowToBlock_ofBlock (block : LedgerBlock) :
    rowToBlock crates (.ofBlock crates block) = .ok block :=
  rowToBlock_eq_ok.mpr ⟨⟨block.blockType.toText, block.timestampUtc, block.prevBlockHash,
    block.payloadJson, block.payloadDigest, crates.stringsToJson block.blobHashes, block.blockHash⟩,
    block.blockType, block.blobHashes, rfl, by simp, by simp, by simp [BlockTexts.block, BlockRow.ofBlock]⟩

-- What the strict reader returns, the lenient one returns.
theorem auditedRow_of_rowToBlock {row : BlockRow} {block : LedgerBlock}
    (read : rowToBlock crates row = .ok block) : auditedRow crates row = .ok block := by
  obtain ⟨texts, blockType, blobHashes, built, type, blobs, rfl⟩ := rowToBlock_eq_ok.mp read
  exact auditedRow_eq_ok.mpr ⟨texts, built, by simp [type, blobs, Except.toOption]⟩

end Rows

section Standard

def stringsOfJson : Json → Option (List String)
  | .arr items => items.mapM fun
    | .str s => some s
    | _ => none
  | _ => none

theorem sortItems_strings (strings : List String) :
    Json.sortItems (strings.map .str) = strings.map .str := by
  induction strings with
  | nil => rfl
  | cons s rest ih => simp [Json.sortItems, Json.sortKeys, ih]

theorem stringsOfJson_strings (strings : List String) :
    stringsOfJson (.arr (strings.map .str)) = some strings := by
  induction strings with
  | nil => rfl
  | cons s rest ih => simp_all [stringsOfJson]

def standardCrates : Crates where
  sha := sha256
  stringsToJson strings := (Json.arr (strings.map .str)).toText
  stringsFromJson text := okOr "invalid type" ((Json.parse text).bind stringsOfJson)
  stringsFromJson_toJson strings := by
    simp [Json.parse_toText, Json.sortKeys, sortItems_strings, stringsOfJson_strings]
  payloadText := Json.toText
  columnError column _ := s!"Invalid column type at index: {column}"

end Standard

end SparkRsi.Ledger
