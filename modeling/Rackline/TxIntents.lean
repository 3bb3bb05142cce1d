import Rackline.ChainIndexer

/-!
# `Rackline.TxIntents`: transaction intents and their nonces

`transactions/intents.py` and `transactions/nonce.py`. An intent is one row of `tx_intents` and
holds a nonce of the signer. It is created, signed, perhaps signed again with a higher fee, and
followed by what the chain says of its hashes. An intent that was never signed can be abandoned,
and then its nonce is free: `highest_holding_nonce` passes over it, and `create` reuses its row.

The table is that of one chain and one signer, so both columns are left out. Of `audit_log` the
table keeps the `TX_SIGNED` entries, which the code reads; `updated_at` is left out. A call runs
under the row lock or the signer's lock of its transaction, and an error rolls it back.
-/

set_option autoImplicit false

namespace Rackline

open Evm Transition

/-! ### Rows -/

/-- `IntentState`. -/
inductive IntentState
  | PENDING | SENT | PENDING_MINED | FINALIZED | REPLACED | FAILED | ORPHANED
deriving DecidableEq

namespace IntentState

/-- The name of the member. -/
def name : IntentState → String
  | PENDING => "PENDING"
  | SENT => "SENT"
  | PENDING_MINED => "PENDING_MINED"
  | FINALIZED => "FINALIZED"
  | REPLACED => "REPLACED"
  | FAILED => "FAILED"
  | ORPHANED => "ORPHANED"

/-- `LIVE_STATES`. -/
def live : List IntentState := [PENDING, SENT, PENDING_MINED, ORPHANED]

/-- `_TRANSITIONS`. -/
def transitions : IntentState → List IntentState
  | PENDING => [SENT, PENDING_MINED, REPLACED, FAILED]
  | SENT => [PENDING_MINED, REPLACED, FAILED]
  | PENDING_MINED => [FINALIZED, ORPHANED]
  | ORPHANED => [PENDING_MINED, REPLACED, FAILED]
  | FINALIZED | REPLACED | FAILED => []

end IntentState

/-- What an intent is for: the semantic action. -/
structure IntentSpec where
  jobId : Option String
  purpose : String
  toAddress : HexString
  calldataHash : HexString
  replaces : Option String
deriving DecidableEq

/-- A row of `tx_intents`. -/
structure Intent where
  txIntentId : String
  nonce : Nat
  spec : IntentSpec
  txHash : Option HexString
  state : IntentState
  minedBlock : Option Int
  finalityBlock : Option Int
  lastError : Option String
deriving DecidableEq

/-- What the signer returned, as `record_signed` and `record_fee_bump` are given it. -/
structure SignedTx where
  txHash : HexString
  rawTx : HexString
  maxFeePerGas : Nat
  maxPriorityFeePerGas : Nat
  gasLimit : Nat
deriving DecidableEq

/-- An entry of `audit_log` with the action `TX_SIGNED`. -/
structure TxSigned where
  txIntentId : String
  signed : SignedTx
  nonce : Nat
deriving DecidableEq

/-- The rows of one signer, and the signatures, the newest last. -/
structure TxTable where
  rows : List Intent
  signed : List TxSigned

/-- The table before the first intent. -/
def TxTable.initial : TxTable := { rows := [], signed := [] }

/-- What a call can raise. -/
inductive IntentError
  | illegalIntentTransition (message : String)
  | valueError (message : String)
  | permissionError (message : String)
  /-- No row has the id. -/
  | noResultFound
  /-- A database constraint. -/
  | integrity
  /-- The node did not answer. -/
  | rpc
deriving DecidableEq

namespace Intent

variable (i : Intent)

/-- `app_state`. -/
def appState : String :=
  if i.state = .FAILED then
    if (i.lastError.getD "").startsWith "ABANDONED" then "ABANDONED" else "REVERTED"
  else i.state.name

/-- `NOT (state = 'FAILED' AND tx_hash IS NULL)`. -/
def holdsNonce : Bool := decide (¬(i.state = .FAILED ∧ i.txHash = none))

/-- The check constraints of a row. -/
structure Checks : Prop where
  finalBlocks : i.state = .FINALIZED →
    i.minedBlock.isSome = true ∧ i.finalityBlock.isSome = true ∧
      i.minedBlock.getD 0 ≤ i.finalityBlock.getD 0
  sentHasHash : i.state ∈ [IntentState.SENT, .PENDING_MINED, .FINALIZED] → i.txHash.isSome = true
  tx : (i.txHash.all (isHex 64)) = true
  noSelfReplace : i.spec.replaces ≠ some i.txIntentId

instance : Decidable i.Checks :=
  decidable_of_iff ((i.state = .FINALIZED →
      i.minedBlock.isSome = true ∧ i.finalityBlock.isSome = true ∧
        i.minedBlock.getD 0 ≤ i.finalityBlock.getD 0) ∧
    (i.state ∈ [IntentState.SENT, .PENDING_MINED, .FINALIZED] → i.txHash.isSome = true) ∧
    (i.txHash.all (isHex 64)) = true ∧ i.spec.replaces ≠ some i.txIntentId)
    ⟨fun ⟨h₁, h₂, h₃, h₄⟩ => ⟨h₁, h₂, h₃, h₄⟩, fun ⟨h₁, h₂, h₃, h₄⟩ => ⟨h₁, h₂, h₃, h₄⟩⟩

end Intent

namespace TxTable

variable (t : TxTable) (txIntentId : String)

/-- `get`. -/
def get : Except IntentError Intent :=
  match t.rows.find? fun i => i.txIntentId == txIntentId with
  | none => .error .noResultFound
  | some i => .ok i

/-- Put a row in the place of the one with its id. -/
def set (i : Intent) : TxTable :=
  { t with rows := t.rows.map fun r => if r.txIntentId = i.txIntentId then i else r }

/-- `UPDATE tx_intents ... WHERE tx_intent_id = :id`. -/
def update (i : Intent) : Except IntentError TxTable := do
  revertIf (¬i.Checks ∨ ∃ r ∈ t.rows, r.txIntentId ≠ i.txIntentId ∧ r.txHash.isSome = true ∧
    r.txHash = i.txHash) .integrity
  return t.set i

/-! ### Nonces -/

/-- `highest_holding_nonce`. -/
def highestHoldingNonce : Option Nat :=
  ((t.rows.filter Intent.holdsNonce).map Intent.nonce).max?

/-- `allocate_nonce`. -/
def allocateNonce (chainPendingCount : Nat) : Nat :=
  let dbNext := match t.highestHoldingNonce with
    | none => 0
    | some recorded => recorded + 1
  max dbNext chainPendingCount

/-- `create`, where a new row gets the given id. -/
def create (nonce : Nat) (spec : IntentSpec) : Except IntentError (Intent × TxTable) :=
  match t.rows.find? fun i => i.nonce == nonce && !i.holdsNonce with
  | some stale => do
    let i := { stale with spec := spec, state := .PENDING, lastError := none }
    let t ← t.update i
    return (i, t)
  | none => do
    let i : Intent :=
      { txIntentId := txIntentId, nonce := nonce, spec := spec, txHash := none, state := .PENDING,
        minedBlock := none, finalityBlock := none, lastError := none }
    revertIf (¬i.Checks ∨ ∃ r ∈ t.rows, r.txIntentId = txIntentId ∨ r.nonce = nonce) .integrity
    return (i, { t with rows := t.rows ++ [i] })

/-! ### Signatures -/

/-- `signed_params`: the newest signature. -/
def signedParams : Option SignedTx :=
  (t.signed.reverse.find? fun s => s.txIntentId == txIntentId).map TxSigned.signed

/-- `all_hashes`: the hashes ever signed for the intent, the newest first. -/
def allHashes : List HexString :=
  ((t.signed.reverse.filter fun s => s.txIntentId == txIntentId).map fun s =>
    s.signed.txHash).eraseDups

/-- `write_audit` with the action `TX_SIGNED`. -/
def writeSigned (i : Intent) (signed : SignedTx) : TxTable :=
  { t with signed := t.signed ++ [
      { txIntentId := i.txIntentId, signed := signed, nonce := i.nonce }] }

/-- `record_signed`. -/
def recordSigned (signed : SignedTx) : Except IntentError TxTable := do
  let cur ← t.get txIntentId
  revertIf (cur.state ≠ .PENDING)
    (.illegalIntentTransition ("cannot sign an intent in state " ++ cur.appState))
  revertIf (cur.txHash.isSome = true ∧ cur.txHash ≠ some signed.txHash)
    (.illegalIntentTransition "intent already signed with a different hash")
  let t ← t.update { cur with txHash := some signed.txHash }
  return t.writeSigned cur signed

/-- `record_fee_bump`. -/
def recordFeeBump (signed : SignedTx) : Except IntentError TxTable := do
  let cur ← t.get txIntentId
  revertIf (cur.state ∉ [IntentState.PENDING, .SENT] ∨ cur.txHash = none)
    (.illegalIntentTransition ("cannot fee-bump an intent in state " ++ cur.appState))
  revertIf (signed.maxFeePerGas ≤ ((t.signedParams txIntentId).map SignedTx.maxFeePerGas).getD 0)
    (.illegalIntentTransition "replacement must raise maxFeePerGas")
  let t ← t.update { cur with txHash := some signed.txHash, state := .PENDING }
  return t.writeSigned cur signed

/-! ### Transitions -/

/-- `_transition`. -/
def transition (target : IntentState) (setSql : Intent → Intent) : Except IntentError TxTable := do
  let cur ← t.get txIntentId
  revertIf (target ≠ cur.state ∧ target ∉ cur.state.transitions)
    (.illegalIntentTransition
      (cur.appState ++ " -> " ++ target.name ++ " not allowed for intent " ++ txIntentId))
  t.update { setSql cur with state := target }

/-- `mark_sent`. -/
def markSent : Except IntentError TxTable :=
  t.transition txIntentId .SENT fun i => { i with lastError := none }

/-- `mark_mined`. -/
def markMined (block receiptStatus : Int) : Except IntentError TxTable :=
  if receiptStatus = 1 then
    t.transition txIntentId .PENDING_MINED fun i =>
      { i with minedBlock := some block, lastError := none }
  else
    t.transition txIntentId .FAILED fun i =>
      { i with minedBlock := some block,
               lastError := some ("REVERTED: receipt status 0 at block " ++ toString block) }

/-- `mark_final`. -/
def markFinal (finalityBlock : Int) : Except IntentError TxTable :=
  t.transition txIntentId .FINALIZED fun i => { i with finalityBlock := some finalityBlock }

/-- `mark_orphaned`. -/
def markOrphaned (reason : String) : Except IntentError TxTable :=
  t.transition txIntentId .ORPHANED fun i =>
    { i with minedBlock := none, lastError := some ("ORPHANED: " ++ reason) }

/-- `mark_replaced`. -/
def markReplaced (byTxIntentId : String) : Except IntentError TxTable :=
  t.transition txIntentId .REPLACED fun i =>
    { i with lastError := some ("REPLACED by " ++ byTxIntentId) }

/-- `abandon`. -/
def abandon (reason : String) : Except IntentError TxTable := do
  revertIf (reason.toList.all Char.isWhitespace = true) (.valueError "abandon requires a reason")
  let cur ← t.get txIntentId
  revertIf (cur.txHash.isSome = true)
    (.illegalIntentTransition "signed transaction cannot be abandoned while it may still mine")
  t.transition txIntentId .FAILED fun i => { i with lastError := some ("ABANDONED: " ++ reason) }

end TxTable

/-! ### Runs -/

/-- The table of a signer next to the pending count of the chain. -/
structure SlotState where
  table : TxTable
  /-- `eth_getTransactionCount(signer, "pending")`. -/
  pendingCount : Nat

/-- Before the first intent. -/
def SlotState.initial (pendingCount : Nat) : SlotState :=
  { table := .initial, pendingCount := pendingCount }

/-- What can happen to the nonces of a signer. -/
inductive SlotAction
  /-- The chain answers with another pending count. -/
  | chain (pendingCount : Nat)
  /-- `allocate_nonce` and `create`, under the lock of the signer. -/
  | allocate (txIntentId : String) (spec : IntentSpec)
  | recordSigned (txIntentId : String) (signed : SignedTx)
  | recordFeeBump (txIntentId : String) (signed : SignedTx)
  | markSent (txIntentId : String)
  | markMined (txIntentId : String) (block receiptStatus : Int)
  | markFinal (txIntentId : String) (finalityBlock : Int)
  | markOrphaned (txIntentId : String) (reason : String)
  | markReplaced (txIntentId : String) (byTxIntentId : String)
  | abandon (txIntentId : String) (reason : String)

/-- Run an action. -/
def SlotAction.exec (s : SlotState) : SlotAction → Except IntentError SlotState
  | chain pendingCount => .ok { s with pendingCount := pendingCount }
  | allocate id spec => do
    let (_, t) ← s.table.create id (s.table.allocateNonce s.pendingCount) spec
    return { s with table := t }
  | recordSigned id signed => do
    let t ← s.table.recordSigned id signed
    return { s with table := t }
  | recordFeeBump id signed => do
    let t ← s.table.recordFeeBump id signed
    return { s with table := t }
  | markSent id => do
    let t ← s.table.markSent id
    return { s with table := t }
  | markMined id block receiptStatus => do
    let t ← s.table.markMined id block receiptStatus
    return { s with table := t }
  | markFinal id finalityBlock => do
    let t ← s.table.markFinal id finalityBlock
    return { s with table := t }
  | markOrphaned id reason => do
    let t ← s.table.markOrphaned id reason
    return { s with table := t }
  | markReplaced id byId => do
    let t ← s.table.markReplaced id byId
    return { s with table := t }
  | abandon id reason => do
    let t ← s.table.abandon id reason
    return { s with table := t }

/-- One action that was not rolled back. -/
def SlotStep (s : SlotState) (a : SlotAction) (s' : SlotState) : Prop := a.exec s = .ok s'

/-- Run a list of actions, as long as they are not rolled back. -/
def SlotState.run (s : SlotState) : List SlotAction → Option SlotState
  | [] => some s
  | a :: rest => (a.exec s).toOption.bind fun s' => run s' rest

theorem SlotState.run_steps : ∀ {actions : List SlotAction} {s s' : SlotState},
    s.run actions = some s' → Steps SlotStep s actions s' := by
  intro actions
  induction actions with
  | nil =>
    intro s s' h
    cases h
    exact .nil s
  | cons a rest ih =>
    intro s s' h
    obtain ⟨mid, hexec, h⟩ := Option.bind_eq_some_iff.mp h
    exact .cons (toOption_eq_some.mp hexec) (ih h)

end Rackline
