import Rackline.Types
import Rackline.BtcSpvVerifier
import Rackline.Lib.AbiCodec

/-!
# `Rackline.CheckpointManager`: the contracts that anchor the payouts of Bitcoin

`CheckpointManager.sol`, the storage of `BtcSpvVerifier.sol` and the bytes of its proofs. The owner
of the manager sets checkpoints at heights that increase; the verifier reads one of them, and the
pubkey hash of the borrower.

`keccak256`, `ecrecover` and `ripemd160` are the parameters `Crypto`. The verifier asks one manager,
the one that its constructor stores. Left out are the views that no contract calls, and the events.
-/

set_option autoImplicit false

namespace Rackline

open Evm AbiCodec

namespace CheckpointManager

/-- `ICheckpointManager.Checkpoint`. -/
structure Checkpoint where
  blockHash : BytesN 32
  height : UInt32
  chainWork : Fin (2 ^ 256)
  timestamp : UInt32
  bits : UInt32
deriving DecidableEq

/-- 32 bytes of zero. -/
def zeroHash : BytesN 32 := ⟨List.replicate 32 0, by simp⟩

/-- An entry of the mapping that nothing wrote. -/
def Checkpoint.empty : Checkpoint := ⟨zeroHash, 0, 0, 0, 0⟩

/-- The fields that the verifier reads. -/
def Checkpoint.forVerifier (cp : Checkpoint) : BtcSpvVerifier.Checkpoint :=
  ⟨cp.blockHash, cp.height, cp.bits⟩

/-- The errors of the manager. -/
inductive Err
  | unauthorized | invalidBlockHash | invalidTimestamp | invalidAddress | invalidBits
  | heightMustIncrease (provided latest : UInt32)
deriving DecidableEq

/-- The storage of the manager. -/
structure State where
  owner : Address
  checkpoints : UInt32 → Checkpoint
  latestHeight : UInt32

namespace State

/-- The constructor. -/
def deploy (owner : Address) : Except Err State := do
  revertIf (owner = 0) .invalidAddress
  return { owner, checkpoints := fun _ => .empty, latestHeight := 0 }

variable (s : State)

/-- The modifier `onlyOwner`. -/
def onlyOwner (sender : Address) : Except Err Unit := revertIf (sender ≠ s.owner) .unauthorized

/-- `transferOwnership`. -/
def transferOwnership (sender newOwner : Address) : Except Err State := do
  s.onlyOwner sender
  revertIf (newOwner = 0) .invalidAddress
  return { s with owner := newOwner }

/-- `setCheckpoint`. -/
def setCheckpoint (sender : Address) (height : UInt32) (blockHash : BytesN 32)
    (chainWork : Fin (2 ^ 256)) (timestamp bits : UInt32) : Except Err State := do
  s.onlyOwner sender
  revertIf (blockHash = zeroHash) .invalidBlockHash
  revertIf (timestamp = 0) .invalidTimestamp
  revertIf (bits = 0) .invalidBits
  revertIf (height ≤ s.latestHeight) (.heightMustIncrease height s.latestHeight)
  return { s with
    checkpoints := Function.update s.checkpoints height
      { blockHash, height, chainWork, timestamp, bits }
    latestHeight := height }

/-- `getCheckpoint`. -/
def getCheckpoint (height : UInt32) : Checkpoint := s.checkpoints height

end State

/-- The calls that write to the manager. -/
inductive Call
  | transferOwnership (newOwner : Address)
  | setCheckpoint (height : UInt32) (blockHash : BytesN 32) (chainWork : Fin (2 ^ 256))
      (timestamp bits : UInt32)

/-- Run a call. -/
def exec (s : State) (sender : Address) : Call → Except Err State
  | .transferOwnership newOwner => s.transferOwnership sender newOwner
  | .setCheckpoint height blockHash chainWork timestamp bits =>
    s.setCheckpoint sender height blockHash chainWork timestamp bits

end CheckpointManager

namespace BtcSpvVerifier

/-! ### The storage of the verifier -/

/-- The errors of the calls that write. -/
inductive AdminErr
  | unauthorized | invalidAddress | invalidBtcSignature
deriving DecidableEq

/-- 20 bytes of zero. -/
def zeroPubkeyHash : BytesN 20 := ⟨List.replicate 20 0, by simp⟩

/-- The storage of the verifier, less the address of its manager. -/
structure State where
  owner : Address
  borrowerPubkeyHash : Address → BytesN 20

/-- What the calls use of the machine. -/
structure Crypto where
  sha256 : List UInt8 → BytesN 32
  ripemd160 : List UInt8 → BytesN 20
  /-- The address of a public key: the last 20 bytes of `keccak256` of its coordinates. -/
  addressOf : BytesN 32 → BytesN 32 → Address
  /-- `ecrecover`, which returns zero when it fails. -/
  ecrecover : BytesN 32 → Fin (2 ^ 8) → BytesN 32 → BytesN 32 → Address

/-- `BitcoinLib.sha256d`. -/
def Crypto.sha256d (c : Crypto) (data : List UInt8) : BytesN 32 := c.sha256 (c.sha256 data).1

/-- The compressed public key: a prefix for the parity of the second coordinate, and the first
coordinate. -/
def compressed (pubKeyX pubKeyY : BytesN 32) : List UInt8 :=
  (if ofBigEndian pubKeyY.1 % 2 = 0 then 0x02 else 0x03) :: pubKeyX.1

namespace State

/-- The constructor. -/
def deploy (owner checkpointManager : Address) : Except AdminErr State := do
  revertIf (owner = 0) .invalidAddress
  revertIf (checkpointManager = 0) .invalidAddress
  return { owner, borrowerPubkeyHash := fun _ => zeroPubkeyHash }

variable (s : State)

/-- The modifier `onlyOwner`. -/
def onlyOwner (sender : Address) : Except AdminErr Unit :=
  revertIf (sender ≠ s.owner) .unauthorized

/-- `setBorrowerPubkeyHash`. -/
def setBorrowerPubkeyHash (sender borrower : Address) (pubkeyHash : BytesN 20) :
    Except AdminErr State := do
  s.onlyOwner sender
  revertIf (borrower = 0) .invalidAddress
  return { s with borrowerPubkeyHash := Function.update s.borrowerPubkeyHash borrower pubkeyHash }

/-- `claimBtcAddress`. -/
def claimBtcAddress (c : Crypto) (sender : Address) (pubKeyX pubKeyY btcMsgHash : BytesN 32)
    (v : Fin (2 ^ 8)) (r sig : BytesN 32) : Except AdminErr State := do
  let ethDerived := c.addressOf pubKeyX pubKeyY
  let recovered := c.ecrecover btcMsgHash v r sig
  revertIf (recovered = 0 ∨ recovered ≠ ethDerived) .invalidBtcSignature
  let pubkeyHash := c.ripemd160 (c.sha256 (compressed pubKeyX pubKeyY)).1
  return { s with borrowerPubkeyHash := Function.update s.borrowerPubkeyHash sender pubkeyHash }

/-- `transferOwnership`. -/
def transferOwnership (sender newOwner : Address) : Except AdminErr State := do
  s.onlyOwner sender
  revertIf (newOwner = 0) .invalidAddress
  return { s with owner := newOwner }

end State

/-- The calls that write to the verifier. -/
inductive AdminCall
  | setBorrowerPubkeyHash (borrower : Address) (pubkeyHash : BytesN 20)
  | claimBtcAddress (pubKeyX pubKeyY btcMsgHash : BytesN 32) (v : Fin (2 ^ 8)) (r sig : BytesN 32)
  | transferOwnership (newOwner : Address)

/-- The account whose pubkey hash a call writes. -/
def AdminCall.writes (sender : Address) : AdminCall → Option Address
  | .setBorrowerPubkeyHash borrower _ => some borrower
  | .claimBtcAddress .. => some sender
  | .transferOwnership _ => none

/-- Run a call. -/
def State.exec (c : Crypto) (s : State) (sender : Address) : AdminCall → Except AdminErr State
  | .setBorrowerPubkeyHash borrower pubkeyHash =>
    s.setBorrowerPubkeyHash sender borrower pubkeyHash
  | .claimBtcAddress pubKeyX pubKeyY btcMsgHash v r sig =>
    s.claimBtcAddress c sender pubKeyX pubKeyY btcMsgHash v r sig
  | .transferOwnership newOwner => s.transferOwnership sender newOwner

/-! ### The bytes of a proof -/

/-- `uint32`. -/
def uint32 : Codec UInt32 :=
  Codec.map (.word (2 ^ 32) (by decide)) (fun n => some (UInt32.ofNat n.val))
    (fun n => ⟨n.toNat, n.toNat_lt⟩) (fun n => by simp)

/-- `bytes32`, as it stands. -/
def bytes32 : Codec (BytesN 32) where
  dynamic := false
  size := 32
  encode b := b.1
  decode data pos :=
    if h : ((data.drop pos).take 32).length = 32 then some ⟨(data.drop pos).take 32, h⟩ else none
  length_encode _ b := b.2
  decode_at {data pos b} _ _ h := by
    have htake := h.take
    rw [b.2] at htake
    have hlen : ((data.drop pos).take 32).length = 32 := by rw [htake, b.2]
    rw [dif_pos hlen]
    exact congrArg some (Subtype.ext htake)

/-- The components of `SpvProof`. -/
structure SpvFields where
  checkpointHeight : UInt32
  headers : List (List UInt8)
  txBlockIndex : UInt32
  rawTx : List UInt8
  merkleProof : List (BytesN 32)
  txIndex : Fin (2 ^ 256)
  outputIndex : UInt32
  borrower : Fin (2 ^ 160)

/-- `(uint32, bytes[], uint32, bytes, bytes32[], uint256, uint32, address)`. -/
def spvFields : Codec SpvFields :=
  Codec.map
    (.tuple (.cons uint32 (.cons (.array .bytes (by decide)) (.cons uint32 (.cons .bytes
      (.cons (.array bytes32 (by decide)) (.cons .uint256 (.cons uint32 (.cons .uint160
        .nil)))))))))
    (fun (checkpointHeight, headers, txBlockIndex, rawTx, merkleProof, txIndex, outputIndex,
        borrower, ()) =>
      some ⟨checkpointHeight, headers, txBlockIndex, rawTx, merkleProof, txIndex, outputIndex,
        borrower⟩)
    (fun p => (p.checkpointHeight, p.headers, p.txBlockIndex, p.rawTx, p.merkleProof, p.txIndex,
      p.outputIndex, p.borrower, ())) (fun _ => rfl)

/-- The struct that the verifier checks. -/
def SpvFields.toProof (p : SpvFields) : SpvProof Address where
  checkpointHeight := p.checkpointHeight
  headers := p.headers
  txBlockIndex := p.txBlockIndex
  rawTx := p.rawTx
  merkleProof := p.merkleProof
  txIndex := p.txIndex.val
  outputIndex := p.outputIndex
  borrower := p.borrower

/-- `abi.encode` of one `SpvProof`. -/
def calldata : Codec (SpvFields × Unit) := .tuple (.cons spvFields .nil)

/-! ### Both contracts -/

/-- The verifier, and the manager that it asks. -/
structure Contracts where
  manager : CheckpointManager.State
  verifier : State

/-- `verifyPayout(bytes)`: what `abi.decode` returns is checked. A revert is `none`. -/
def Contracts.verifyPayout (c : Crypto) (s : Contracts) (proof : List UInt8) :
    Option (PayoutEvidence Address) := do
  let (fields, ()) ← calldata.decode proof 0
  (BtcSpvVerifier.verifyPayout c.sha256d s.verifier.borrowerPubkeyHash
    (fun height => (s.manager.getCheckpoint height).forVerifier) fields.toProof).toOption

/-- Both were just deployed. -/
def Contracts.Initial (s : Contracts) : Prop :=
  ∃ owner manager, CheckpointManager.State.deploy owner = .ok s.manager ∧
    State.deploy owner manager = .ok s.verifier

/-- A call of one of them that returns, next to its sender. -/
inductive Contracts.Step (c : Crypto) (s : Contracts) :
    Address × (CheckpointManager.Call ⊕ AdminCall) → Contracts → Prop
  | manager {sender : Address} {call : CheckpointManager.Call} {m : CheckpointManager.State} :
      CheckpointManager.exec s.manager sender call = .ok m →
      Step c s (sender, .inl call) ⟨m, s.verifier⟩
  | verifier {sender : Address} {call : AdminCall} {v : State} :
      s.verifier.exec c sender call = .ok v → Step c s (sender, .inr call) ⟨s.manager, v⟩

end BtcSpvVerifier

end Rackline
