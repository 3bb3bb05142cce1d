import Rackline.BitcoinLib

/-!
# `Rackline.BtcSpvVerifier`: the verifier of Bitcoin payouts

`BtcSpvVerifier.sol`. A proof is modelled after `abi.decode`. The verifier reads the pubkey hash
that its owner or a signature put for the borrower, and one checkpoint of the checkpoint manager;
both are arguments here, since `verifyPayout` writes nothing.

Left out are the calls that put a pubkey hash or an owner, and `_verifyHeaderChain`, which no call
uses.
-/

set_option autoImplicit false

namespace Rackline.BtcSpvVerifier

open Evm BitcoinLib

/-- `MAX_HEADER_CHAIN`. -/
def MAX_HEADER_CHAIN : Nat := 144

/-- `MAX_MERKLE_DEPTH`. -/
def MAX_MERKLE_DEPTH : Nat := 20

/-- `MAX_TX_SIZE`. -/
def MAX_TX_SIZE : Nat := 4096

/-- `MIN_CONFIRMATIONS`. -/
def MIN_CONFIRMATIONS : Nat := 6

/-- `RETARGET_PERIOD`. -/
def RETARGET_PERIOD : Nat := 2016

/-- The errors of the verifier. -/
inductive Err
  | invalidCheckpoint | headerChainTooLong | invalidHeaderChain | invalidPoW | invalidMerkleProof
  | merkleProofTooLong | txTooLarge | invalidTxOutput | pubkeyHashMismatch | borrowerNotRegistered
  | insufficientConfirmations
  | difficultyMismatch (expected actual : UInt32)
  | retargetBoundaryCrossing (checkpointHeight targetHeight : Nat)
  | txBlockIndexOutOfRange (txBlockIndex : UInt32) (headersLength : Nat)
  /-- An error of the library. -/
  | lib (e : BitcoinLib.Err)
  | panic
deriving DecidableEq

instance : Panics Err := ⟨.panic⟩

/-- A call of the library. -/
def lib {α : Type} (x : Except BitcoinLib.Err α) : Except Err α := x.mapError .lib

/-- `ICheckpointManager.Checkpoint`. -/
structure Checkpoint where
  blockHash : BytesN 32
  height : UInt32
  bits : UInt32
deriving DecidableEq

/-- `SpvProof`. -/
structure SpvProof (A : Type) where
  checkpointHeight : UInt32
  headers : List (List UInt8)
  txBlockIndex : UInt32
  rawTx : List UInt8
  merkleProof : List (BytesN 32)
  txIndex : Nat
  outputIndex : UInt32
  borrower : A
deriving DecidableEq

/-- `PayoutEvidence`. -/
structure PayoutEvidence (A : Type) where
  borrower : A
  txid : BytesN 32
  vout : UInt32
  amountSats : UInt64
  blockHeight : Nat
  blockTimestamp : UInt32
deriving DecidableEq

section
variable (sha256d : List UInt8 → BytesN 32)

/-- `_verifyHeaderChainFull`, from the block `prevHash` on. -/
def verifyHeaderChainFull (expectedBits : UInt32) (prevHash : BytesN 32) :
    List (List UInt8) → Except Err (List BlockHeader)
  | [] => .ok []
  | raw :: headers => do
    let header ← lib (parseHeader raw)
    revertIf (header.prevBlockHash ≠ prevHash) .invalidHeaderChain
    revertIf (header.bits ≠ expectedBits) (.difficultyMismatch expectedBits header.bits)
    let blockHash ← lib (hashHeader sha256d raw)
    revertIf (verifyPoW blockHash header.bits = false) .invalidPoW
    let parsedHeaders ← verifyHeaderChainFull expectedBits blockHash headers
    return header :: parsedHeaders

/-- `parsedHeaders[i]`. -/
def headerAt (parsedHeaders : List BlockHeader) (i : Nat) : Except Err BlockHeader :=
  match parsedHeaders[i]? with
  | some header => .ok header
  | none => .error .panic

/-- `verifyPayout`. -/
def verifyPayout {A : Type} (borrowerPubkeyHash : A → BytesN 20)
    (getCheckpoint : UInt32 → Checkpoint) (spvProof : SpvProof A) :
    Except Err (PayoutEvidence A) := do
  revertIf (spvProof.headers.length > MAX_HEADER_CHAIN) .headerChainTooLong
  revertIf (spvProof.merkleProof.length > MAX_MERKLE_DEPTH) .merkleProofTooLong
  revertIf (spvProof.rawTx.length > MAX_TX_SIZE) .txTooLarge
  revertIf (spvProof.txBlockIndex.toNat ≥ spvProof.headers.length)
    (.txBlockIndexOutOfRange spvProof.txBlockIndex spvProof.headers.length)
  let confirmations ← subW spvProof.headers.length spvProof.txBlockIndex.toNat
  revertIf (confirmations < MIN_CONFIRMATIONS) .insufficientConfirmations
  let expectedPubkeyHash := borrowerPubkeyHash spvProof.borrower
  revertIf (expectedPubkeyHash.1 = List.replicate 20 0) .borrowerNotRegistered
  let checkpoint := getCheckpoint spvProof.checkpointHeight
  revertIf (checkpoint.height = 0) .invalidCheckpoint
  let tipHeight ← addW 32 checkpoint.height.toNat (spvProof.headers.length % wordSize 32)
  revertIf (checkpoint.height.toNat / RETARGET_PERIOD ≠ tipHeight / RETARGET_PERIOD)
    (.retargetBoundaryCrossing checkpoint.height.toNat tipHeight)
  let parsedHeaders ← verifyHeaderChainFull sha256d checkpoint.bits checkpoint.blockHash
    spvProof.headers
  let txBlockHeader ← headerAt parsedHeaders spvProof.txBlockIndex.toNat
  let txid := sha256d spvProof.rawTx
  revertIf (verifyMerkleProof sha256d txid txBlockHeader.merkleRoot spvProof.merkleProof
    spvProof.txIndex = false) .invalidMerkleProof
  let output ← lib (parseTxOutput spvProof.rawTx spvProof.outputIndex)
  let (actualPubkeyHash, scriptType) := extractPubkeyHash output.scriptPubKey
  revertIf (scriptType = .other) .invalidTxOutput
  revertIf (actualPubkeyHash ≠ expectedPubkeyHash) .pubkeyHashMismatch
  let txBlockHeight ← addW 32 checkpoint.height.toNat 1
  let txBlockHeight ← addW 32 txBlockHeight spvProof.txBlockIndex.toNat
  return {
    borrower := spvProof.borrower
    txid
    vout := spvProof.outputIndex
    amountSats := output.value
    blockHeight := txBlockHeight
    blockTimestamp := txBlockHeader.timestamp }

end

end Rackline.BtcSpvVerifier
