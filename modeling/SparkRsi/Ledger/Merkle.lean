import SparkRsi.Ledger.Record
import SparkRsi.Shared.HashTree

set_option autoImplicit false

namespace SparkRsi.Ledger

open Shared

structure Ecdsa where
  SigningKey : Type
  VerifyingKey : Type
  Signature : Type
  sign : SigningKey → Bytes → Signature
  toBytes : Signature → Bytes
  fromSlice : Bytes → Option Signature
  verify : VerifyingKey → Bytes → Signature → Bool
  hexDecode : String → Option Bytes

/-- A key pair of the P-256 crate: what one key signed, the other accepts, also out of the hex text. -/
structure Ecdsa.Pair (ecdsa : Ecdsa) (signingKey : ecdsa.SigningKey) (verifyingKey : ecdsa.VerifyingKey) : Prop where
  decodes : ∀ bytes, ecdsa.hexDecode (hexEncode bytes) = some bytes
  parses : ∀ message, ecdsa.fromSlice (ecdsa.toBytes (ecdsa.sign signingKey message)) =
    some (ecdsa.sign signingKey message)
  accepts : ∀ message, ecdsa.verify verifyingKey message (ecdsa.sign signingKey message) = true

def hexDecodeChars : List Char → Option Bytes
  | [] => some []
  | high :: low :: rest => do
    let h ← hexDigitValue high
    let l ← hexDigitValue low
    let others ← hexDecodeChars rest
    return UInt8.ofNat (h * 16 + l) :: others
  | _ => none
where
  hexDigitValue (c : Char) : Option Nat :=
    if '0' ≤ c ∧ c ≤ '9' then some (c.toNat - 48)
    else if 'a' ≤ c ∧ c ≤ 'f' then some (c.toNat - 87)
    else if 'A' ≤ c ∧ c ≤ 'F' then some (c.toNat - 55)
    else none

theorem hexDecodeChars_encode (data : Bytes) : hexDecodeChars (hexEncode data).toList = some data := by
  have digit : ∀ n < 16, hexDecodeChars.hexDigitValue (hexDigit n) = some n := by decide
  rw [hexEncode, String.toList_ofList]
  induction data with
  | nil => rfl
  | cons b rest ih =>
    have byte : b.toNat < 256 := b.toNat_lt
    have whole : UInt8.ofNat (b.toNat / 16 * 16 + b.toNat % 16) = b := by
      apply UInt8.toNat_inj.mp
      simp
      omega
    simp only [List.flatMap_cons, List.cons_append, List.nil_append, hexDecodeChars,
      digit _ (by omega : b.toNat / 16 < 16), digit _ (Nat.mod_lt b.toNat (by decide : 0 < 16)), ih, bind,
      Option.bind, pure, whole]

def Ecdsa.single (secret point : Nat) (message signature : Bytes) : Ecdsa where
  SigningKey := Nat
  VerifyingKey := Nat
  Signature := Bytes
  sign key m := if key = secret ∧ m = message then signature else []
  toBytes sig := sig
  fromSlice bytes := if bytes.length = 64 then some bytes else none
  verify key m sig := key = point ∧ m = message ∧ sig = signature
  hexDecode text := hexDecodeChars text.toList

theorem Ecdsa.single_verify {secret point : Nat} {message signature : Bytes} {key : Nat} {m sig : Bytes} :
    (Ecdsa.single secret point message signature).verify key m sig = true ↔
      key = point ∧ m = message ∧ sig = signature := by
  simp [Ecdsa.single]

def merkleNode (sha : HexHash) (left right : String) : String := sha.hex (utf8 left ++ utf8 right)

def computeMerkleRoot (sha : HexHash) (leafHashes : List String) : String :=
  match HashTree.collapse (merkleNode sha) leafHashes with
  -- only the empty list collapses to nothing
  | [] => "0000000000000000000000000000000000000000000000000000000000000000"
  | root :: _ => root

theorem collapse_eq_root (sha : HexHash) (leafHashes : List String) (nonempty : leafHashes ≠ []) :
    HashTree.collapse (merkleNode sha) leafHashes = [computeMerkleRoot sha leafHashes] := by
  have single := HashTree.collapse_length (merkleNode sha) leafHashes nonempty
  obtain ⟨root, only⟩ := List.length_eq_one_iff.mp single
  simp [computeMerkleRoot, only]

structure MerkleCheckpoint where
  upToSequence : UInt64
  merkleRoot : String
  blockCount : UInt64
  timestampUtc : String
  signature : Option String
  deriving DecidableEq, Repr

namespace MerkleCheckpoint

def new (now : String) (upToSequence : UInt64) (merkleRoot : String) (blockCount : UInt64) :
    MerkleCheckpoint :=
  { upToSequence, merkleRoot, blockCount, timestampUtc := now, signature := none }

def sign (ecdsa : Ecdsa) (checkpoint : MerkleCheckpoint) (signingKey : ecdsa.SigningKey) :
    MerkleCheckpoint :=
  let sig := ecdsa.sign signingKey (utf8 checkpoint.merkleRoot)
  { checkpoint with signature := some ("p256:" ++ hexEncode (ecdsa.toBytes sig)) }

def stripLead (lead text : String) : Option String :=
  if lead.toList.isPrefixOf text.toList then some (String.ofList (text.toList.drop lead.length)) else none

theorem stripLead_append (lead text : String) : stripLead lead (lead ++ text) = some text := by
  have starts : lead.toList.isPrefixOf (lead ++ text).toList = true := by
    rw [List.isPrefixOf_iff_prefix, String.toList_append]
    exact List.prefix_append _ _
  rw [stripLead, if_pos starts, String.toList_append, ← String.length_toList, List.drop_left,
    String.ofList_toList]

def verifySignature (ecdsa : Ecdsa) (checkpoint : MerkleCheckpoint)
    (verifyingKey : ecdsa.VerifyingKey) : Bool :=
  match checkpoint.signature with
  | none => false
  | some sigStr =>
    match (stripLead "p256:" sigStr).bind ecdsa.hexDecode with
    | none => false
    | some sigBytes =>
      match ecdsa.fromSlice sigBytes with
      | none => false
      | some sig => ecdsa.verify verifyingKey (utf8 checkpoint.merkleRoot) sig

-- An accepted checkpoint carries a signature the key accepts for the root text.
theorem verifySignature_accepts {ecdsa : Ecdsa} {checkpoint : MerkleCheckpoint}
    {verifyingKey : ecdsa.VerifyingKey}
    (accepted : checkpoint.verifySignature ecdsa verifyingKey = true) :
    ∃ sig, ecdsa.verify verifyingKey (utf8 checkpoint.merkleRoot) sig = true := by
  unfold verifySignature at accepted
  split at accepted
  · cases accepted
  · split at accepted
    · cases accepted
    · split at accepted
      · cases accepted
      · exact ⟨_, accepted⟩

end MerkleCheckpoint

end SparkRsi.Ledger
