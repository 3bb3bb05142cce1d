import Rackline.TxIntents

/-!
# `Rackline.Dispatcher`: sending transactions and following them

`transactions/dispatcher.py`, with `resolve_purpose` of `transactions/abi.py`. `prepare` binds a job
to one signed transaction, `broadcast` sends the signed bytes, and `reconcile` compares the intent
with the receipts of all hashes that were ever signed for it.

One dispatcher serves one chain and one signer, so `_owns` always passes. `keccak`, the signer and
the answers of the node are parameters. The answers to one `reconcile` come from one view of the
chain. A call whose node does not answer raises, and its transaction rolls back.
-/

set_option autoImplicit false

namespace Rackline

open Evm Transition

/-! ### Purposes -/

/-- `Purpose`. -/
structure Purpose where
  name : String
  contractRole : String
  signature : String
  signerRole : String
deriving DecidableEq

namespace Purpose

/-- `KEEPER`. -/
def keeper : String := "keeper"

/-- `TREASURY`. -/
def treasury : String := "treasury"

/-- `PURPOSES`. -/
def purposes : List Purpose := [
  { name := "evidence.consume", contractRole := "evidence_book",
    signature := "consume(bytes32,(uint64,uint64,bytes,bytes32,(bytes32,bool)[],bytes32,bytes32[])" ++
      ",address,bytes32[],(uint32,bytes32,bytes32,uint64)[])",
    signerRole := keeper },
  { name := "receivables.ingest", contractRole := "receivable_book",
    signature := "ingest(bytes32,(uint64,uint64,bytes,bytes32,(bytes32,bool)[],bytes32,bytes32[])" ++
      ",address,bytes32[],(uint32,bytes32,bytes32,bytes32,bytes,uint64)[])",
    signerRole := keeper },
  { name := "manager.executeReservedDraw", contractRole := "manager",
    signature := "executeReservedDraw(bytes32,uint256)", signerRole := treasury },
  { name := "manager.repayFor", contractRole := "manager",
    signature := "repayFor(bytes32,uint256)", signerRole := treasury },
  { name := "escrow.sweep", contractRole := "revenue_escrow",
    signature := "sweep(uint64)", signerRole := treasury },
  { name := "escrow.forwardClaimed", contractRole := "revenue_escrow",
    signature := "forwardClaimed(bytes32,uint256,bytes32)", signerRole := treasury },
  { name := "escrow.claim", contractRole := "revenue_escrow",
    signature := "claim(address,bytes)", signerRole := keeper }]

end Purpose

/-! ### The chain as a node shows it -/

/-- A receipt of `eth_getTransactionReceipt`. -/
structure TxReceipt where
  blockNumber : Int
  blockHash : HexString
  status : Int
deriving DecidableEq

/-- The answers of the node during one `reconcile`. -/
structure TxNode where
  getReceipt : HexString → Option TxReceipt
  /-- The hash of the block with the number. -/
  getBlock : Int → Option HexString
  blockNumber : Int

/-- The receipt of a hash, when the block it names is on the chain. -/
def TxNode.canonical (node : TxNode) (txHash : HexString) : Option TxReceipt :=
  (node.getReceipt txHash).filter fun candidate =>
    decide ((node.getBlock candidate.blockNumber).map lower = some (lower candidate.blockHash))

/-- `head - number + 1`. -/
def TxNode.depth (node : TxNode) (receipt : TxReceipt) : Int :=
  node.blockNumber - receipt.blockNumber + 1

/-! ### The dispatcher -/

/-- What the signer is asked to sign. -/
structure UnsignedTx where
  nonce : Nat
  toAddress : HexString
  data : HexString
  gas : Nat
  gasPrice : Nat

/-- The answers of the node to `prepare`, after `eth_call` went through. -/
structure Simulation where
  estimateGas : Nat
  gasPrice : Nat
  transactionCount : Nat

/-- A `Dispatcher`: a `DispatcherConfig` that the constructor accepts, the signer and `keccak_hex`. -/
structure Dispatcher where
  signerRole : String
  contracts : String → Option HexString
  maxGas : Nat
  maxFeePerGas : Nat
  finalityDepth : Int
  /-- `selector`. -/
  selector : String → HexString
  /-- `keccak_hex`, of the bytes that a hexadecimal string stands for. -/
  keccakHex : HexString → HexString
  /-- `sign_transaction`. -/
  signTransaction : UnsignedTx → HexString
  positive : 1 ≤ finalityDepth ∧ 21000 ≤ maxGas ∧ 0 < maxFeePerGas

namespace Dispatcher

variable (d : Dispatcher)

/-- `resolve_purpose`, for calldata that starts with `0x`. -/
def resolvePurpose (name : String) (calldata : HexString) : Except IntentError Purpose :=
  match Purpose.purposes.find? fun p => p.name == name with
  | none => .error (.permissionError ("unknown purpose '" ++ name ++ "'"))
  | some p => do
    revertIf (d.signerRole ≠ p.signerRole)
      (.permissionError ("purpose '" ++ name ++ "' requires the " ++ p.signerRole ++
        " credential, got " ++ d.signerRole))
    revertIf (calldata.length < 10 ∨ calldata.take 10 ≠ d.selector p.signature)
      (.permissionError ("calldata selector does not match purpose '" ++ name ++ "' (" ++
        String.ofList (d.selector p.signature) ++ ")"))
    return p

/-- `prepare`, where a new row gets the given id. `simulated` is what the node answers, if the call
does not revert. -/
def prepare (t : TxTable) (txIntentId jobId purpose : String) (calldata : HexString)
    (simulated : Option Simulation) : Except IntentError (Intent × TxTable) := do
  let p ← d.resolvePurpose purpose calldata
  match (d.contracts p.contractRole).filter fun address => address ≠ [] with
  | none => .error (.valueError ("missing deployment contract " ++ p.contractRole))
  | some address =>
    let toAddress := lower address
    match t.rows.reverse.find? fun i => i.spec.jobId == some jobId with
    | some existing => do
      revertIf ((existing.spec.purpose, existing.spec.toAddress, existing.spec.calldataHash) ≠
          (purpose, toAddress, d.keccakHex calldata))
        (.valueError "semantic action already bound to different calldata or destination")
      return (existing, t)
    | none =>
      match simulated with
      | none => .error .rpc
      | some sim => do
        let gas := (sim.estimateGas * 120 + 99) / 100
        revertIf (d.maxGas < gas ∨ d.maxFeePerGas < sim.gasPrice)
          (.valueError "simulation exceeds configured gas or fee bound")
        let nonce := t.allocateNonce sim.transactionCount
        let (intent, t) ← t.create txIntentId nonce
          { jobId := some jobId, purpose := purpose, toAddress := toAddress,
            calldataHash := d.keccakHex calldata, replaces := none }
        let raw := d.signTransaction
          { nonce := nonce, toAddress := toAddress, data := calldata, gas := gas,
            gasPrice := sim.gasPrice }
        let t ← t.recordSigned intent.txIntentId
          { txHash := d.keccakHex raw, rawTx := raw, maxFeePerGas := sim.gasPrice,
            maxPriorityFeePerGas := 0, gasLimit := gas }
        let intent ← t.get intent.txIntentId
        return (intent, t)

/-- `broadcast`. `sent` is the hash that `send_raw_transaction` returned, if it returned. -/
def broadcast (t : TxTable) (intentId : String) (sent : Option HexString) :
    Except IntentError TxTable := do
  let current ← t.get intentId
  if current.state ∉ [IntentState.PENDING, .SENT, .ORPHANED] then
    return t
  else
    revertIf ((t.signedParams intentId).map (fun params => d.keccakHex params.rawTx) ≠
        current.txHash ∨ current.txHash = none)
      (.valueError "persisted signed bytes/hash missing or inconsistent")
    if sent.map lower ≠ current.txHash then
      -- No error of the node establishes non-delivery.
      return t
    else if current.state ∈ [IntentState.PENDING, .SENT] then
      t.markSent intentId
    else
      return t

/-- The receipt that `reconcile` finds: that of the first hash with a canonical one. -/
def canonicalReceipt (t : TxTable) (intentId : String) (node : TxNode) : Option TxReceipt :=
  (t.allHashes intentId).findSome? node.canonical

/-- `reconcile`. -/
def reconcile (t : TxTable) (intentId : String) (node : TxNode) : Except IntentError TxTable := do
  let current ← t.get intentId
  if current.state ∉ IntentState.live then
    return t
  else
    match canonicalReceipt t intentId node with
    | none =>
      if current.state = .PENDING_MINED then
        t.markOrphaned intentId "receipt no longer canonical"
      else
        return t
    | some receipt =>
      if receipt.status = 0 ∧ node.depth receipt < d.finalityDepth then
        return t
      else
        let t ← if current.state ≠ .PENDING_MINED then
            t.markMined intentId receipt.blockNumber receipt.status
          else
            pure t
        if receipt.status = 0 then
          return t
        else if d.finalityDepth ≤ node.depth receipt then
          -- Receipt finality is distinct from accepted evidence.
          t.markFinal intentId node.blockNumber
        else
          return t

end Dispatcher

/-! ### Runs -/

/-- The intents next to the chain they are followed on. -/
structure DispatchState where
  table : TxTable
  /-- The chain as a node shows it now. -/
  chain : TxNode
  /-- The chain as it was before, the newest first. -/
  past : List TxNode

/-- Before the first intent, and before the first block. -/
def DispatchState.initial : DispatchState where
  table := .initial
  chain := { getReceipt := fun _ => none, getBlock := fun _ => none, blockNumber := 0 }
  past := []

/-- What can happen to intents. -/
inductive DispatchAction
  /-- The chain goes on, perhaps on another branch. -/
  | chain (node : TxNode)
  | prepare (txIntentId jobId purpose : String) (calldata : HexString)
      (simulated : Option Simulation)
  | broadcast (intentId : String) (sent : Option HexString)
  /-- `record_fee_bump`. -/
  | feeBump (intentId : String) (signed : SignedTx)
  | reconcile (intentId : String)

/-- The end of the transaction of a call: what raises is rolled back. -/
def DispatchState.commit (s : DispatchState) : Except IntentError TxTable → DispatchState
  | .ok t => { s with table := t }
  | .error _ => s

@[simp] theorem DispatchState.commit_chain (s : DispatchState)
    (result : Except IntentError TxTable) : (s.commit result).chain = s.chain := by
  cases result <;> rfl

@[simp] theorem DispatchState.commit_past (s : DispatchState)
    (result : Except IntentError TxTable) : (s.commit result).past = s.past := by
  cases result <;> rfl

/-- Run an action. -/
def Dispatcher.next (d : Dispatcher) (s : DispatchState) : DispatchAction → DispatchState
  | .chain node => { s with chain := node, past := s.chain :: s.past }
  | .prepare id jobId purpose calldata simulated =>
    s.commit ((d.prepare s.table id jobId purpose calldata simulated).map Prod.snd)
  | .broadcast id sent => s.commit (d.broadcast s.table id sent)
  | .feeBump id signed => s.commit (s.table.recordFeeBump id signed)
  | .reconcile id => s.commit (d.reconcile s.table id s.chain)

end Rackline
