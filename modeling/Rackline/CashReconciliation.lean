import Rackline.ChainIndexer
import Rackline.LedgerTables

/-!
# `Rackline.CashReconciliation`: destination cash and its allocations

`reconciliation/engine.py` over the tables it reads and writes. A reader of the destination chain
tells what a reference stands for: cash that came in, or a repayment that used it. The first becomes
a cash receipt, once for the log it came in, and the second an allocation of a receipt to a
facility. Whatever does not fit opens a case, and nothing is rewritten.

A call is one transaction. It locks what its decision rests on, the key of the log or the row of the
receipt, and holds the lock until it ends; `CashStep` lets the calls of any number of workers
overlap, each with the row that it read under its lock. A time is a number of seconds.
-/

set_option autoImplicit false

namespace Rackline.Cash

open Evm

/-! ### Rows and facts -/

/-- `source_kind`: how the cash is classified. -/
inductive SourceKind
  | SETTLEMENT | DIRECT_REPAYMENT | RECOVERY | UNKNOWN
  /-- A text of the reader that is none of them. -/
  | other (kind : String)
deriving DecidableEq

/-- `cash_state`. -/
inductive CashState
  | DESTINATION_RECEIVED | ALLOCATED | RETURNED
deriving DecidableEq

/-- The `state` of a settlement. -/
inductive SettlementState
  | ANNOUNCED | PAID_AT_SOURCE | CONVERTING | RECEIVED_AT_DESTINATION | ALLOCATED | REVERSED
deriving DecidableEq

/-- A row of `settlements`. -/
structure Settlement where
  settlementId : String
  providerAccountId : String
  state : SettlementState
  asset : LedgerAsset
  sourceAmount : Int
  payoutConsumptionId : Option String
  executionProfile : ExecutionProfile
deriving DecidableEq

/-- A row of `facilities`. -/
structure Facility where
  facilityId : String
  borrowerId : String
  vaultId : String
  /-- `loan_chain_id`, `loan_token_address` and `loan_decimals`. -/
  loan : LedgerAsset
  executionProfile : ExecutionProfile
deriving DecidableEq

/-- A row of `provider_accounts`. -/
structure ProviderAccount where
  providerAccountId : String
  borrowerId : String
deriving DecidableEq

/-- A row of `cash_receipts`. -/
structure CashReceipt where
  cashReceiptId : String
  vaultId : String
  /-- `chain_id`, `token_address` and `decimals`. -/
  asset : LedgerAsset
  amount : Int
  txHash : HexString
  logIndex : Int
  payerAddress : Option HexString
  sourceKind : SourceKind
  settlementId : Option String
  cashState : CashState
  executionProfile : ExecutionProfile
  receivedAt : Int
deriving DecidableEq

/-- The chain, the transaction and the log that the cash came in. -/
def CashReceipt.key (r : CashReceipt) : Int × HexString × Int := (r.asset.chainId, r.txHash, r.logIndex)

/-- A row of `allocations`. -/
structure Allocation where
  allocationId : String
  cashReceiptId : String
  facilityId : String
  received : Int
  feePaid : Int
  interestPaid : Int
  principalPaid : Int
  excess : Int
  newDebt : Int
  onchainTxHash : HexString
deriving DecidableEq

/-- `DestinationRoute`. -/
structure DestinationRoute where
  vaultId : String
  receiverAddress : HexString
  asset : LedgerAsset
  executionProfile : ExecutionProfile
deriving DecidableEq

/-- `ReceiptFact`. -/
structure ReceiptFact where
  cashReceiptId : String
  asset : LedgerAsset
  amount : Int
  txHash : HexString
  logIndex : Int
  blockHash : HexString
  blockNumber : Int
  payerAddress : Option HexString
  payeeAddress : HexString
  sourceKind : SourceKind
  executionProfile : ExecutionProfile
  receivedAt : Int
  canonical : Bool
  finalized : Bool
  receiptStatus : Int
  settlementId : Option String
deriving DecidableEq

/-- The chain, the transaction and the log of the fact. -/
def ReceiptFact.key (fact : ReceiptFact) : Int × HexString × Int :=
  (fact.asset.chainId, fact.txHash, fact.logIndex)

/-- `AllocationFact`. -/
structure AllocationFact where
  allocationId : String
  cashReceiptId : String
  facilityId : String
  received : Int
  feePaid : Int
  interestPaid : Int
  principalPaid : Int
  excess : Int
  newDebt : Int
  txHash : HexString
  chainId : Int
  executionProfile : ExecutionProfile
  canonical : Bool
  finalized : Bool
  receiptStatus : Int
deriving DecidableEq

/-- `CashEvidenceReader`. -/
structure CashEvidenceReader where
  receipt : String → Option ReceiptFact
  allocation : String → Option AllocationFact

/-- `ReconciliationResult`. -/
structure ReconciliationResult where
  entityId : Option String
  created : Bool
  reason : Option String
deriving DecidableEq

/-- The tables. -/
structure CashDb where
  settlements : List Settlement
  facilities : List Facility
  accounts : List ProviderAccount
  receipts : List CashReceipt
  allocations : List Allocation
  exceptions : List ExceptionCase
  outbox : List OutboxEvent
deriving DecidableEq

namespace CashDb

variable (db : CashDb)

/-! ### Reads and writes of the tables -/

/-- `session.get(Settlement, settlement_id)`. -/
def settlement (id : String) : Option Settlement := db.settlements.find? fun s => s.settlementId == id

/-- `session.get(Facility, facility_id)`. -/
def facility (id : String) : Option Facility := db.facilities.find? fun f => f.facilityId == id

/-- The receipt with an id. -/
def receipt (id : String) : Option CashReceipt := db.receipts.find? fun r => r.cashReceiptId == id

/-- The receipt of the log. -/
def receiptAt (key : Int × HexString × Int) : Option CashReceipt :=
  db.receipts.find? fun r => r.key == key

/-- The allocation of a receipt to a facility. -/
def allocation (cashReceiptId facilityId : String) : Option Allocation :=
  db.allocations.find? fun a => a.cashReceiptId == cashReceiptId && a.facilityId == facilityId

/-- The sum of the allocations of a receipt. -/
def allocated (cashReceiptId : String) : Int :=
  ((db.allocations.filter fun a => a.cashReceiptId = cashReceiptId).map Allocation.received).sum

/-- `_block`. -/
def block (code table entityId : String) : ReconciliationResult × CashDb :=
  (⟨none, false, some code⟩, { db with exceptions := exception db.exceptions code table entityId [] })

/-- Insert into `cash_receipts`. -/
def insertReceipt (r : CashReceipt) : Except LedgerError CashDb := do
  revertIf (r.asset.chainId ≤ 0 ∨ ¬isBigInteger r.asset.chainId ∨ r.asset.decimals < 0 ∨
    36 < r.asset.decimals ∨ r.amount ≤ 0 ∨ r.logIndex < 0 ∨ ¬isInteger r.logIndex ∨
    isHex 64 r.txHash = false ∨ r.payerAddress.any (fun a => !isHex 40 a) = true) .integrity
  revertIf (r.sourceKind = .SETTLEMENT ∧ r.settlementId = none) .integrity
  revertIf (r.settlementId.isSome = true ∧ r.settlementId.bind db.settlement = none) .integrity
  revertIf (∃ q ∈ db.receipts, q.cashReceiptId = r.cashReceiptId ∨ q.key = r.key) .integrity
  return { db with receipts := db.receipts ++ [r] }

/-- Insert into `allocations`, with `hcg_allocations_within_receipt`. -/
def insertAllocation (a : Allocation) : Except LedgerError CashDb := do
  match db.receipt a.cashReceiptId with
  | none => .error .integrity
  | some receipt => do
    revertIf (receipt.amount < ((db.allocations.filter fun q => q.cashReceiptId = a.cashReceiptId ∧
      q.allocationId ≠ a.allocationId).map Allocation.received).sum + a.received) .integrity
    revertIf (a.feePaid + a.interestPaid + a.principalPaid + a.excess ≠ a.received ∨
      a.received ≤ 0 ∨ a.feePaid < 0 ∨ a.interestPaid < 0 ∨ a.principalPaid < 0 ∨ a.excess < 0 ∨
      a.newDebt < 0 ∨ isHex 64 a.onchainTxHash = false) .integrity
    revertIf (db.facility a.facilityId = none) .integrity
    revertIf (∃ q ∈ db.allocations, q.allocationId = a.allocationId ∨
      q.cashReceiptId = a.cashReceiptId ∧ q.facilityId = a.facilityId) .integrity
    return { db with allocations := db.allocations ++ [a] }

/-- Set the state of a receipt. -/
def setCashState (cashReceiptId : String) (state : CashState) : CashDb :=
  { db with receipts := db.receipts.map fun r =>
      if r.cashReceiptId = cashReceiptId then { r with cashState := state } else r }

end CashDb

/-! ### Receipts -/

/-- The checks of the arguments, before the key is locked. -/
def ReceiptFact.checked (fact : ReceiptFact) (route : DestinationRoute) : Except LedgerError Unit := do
  Tables.units fact.amount "amount" false
  Tables.units fact.logIndex "log_index" false
  Tables.units fact.blockNumber "block_number" false
  revertIf (fact.amount = 0 ∨ isHex 64 fact.txHash = false ∨ isHex 64 fact.blockHash = false)
    (.valueError "positive measured amount and canonical transaction/block hashes required")
  revertIf (isHex 40 fact.payeeAddress = false ∨ isHex 40 route.receiverAddress = false)
    (.valueError "normalized receiver address required")

/-- The key of the event of a receipt. -/
def ReceiptFact.eventKey (fact : ReceiptFact) : String :=
  "destination-cash:" ++ toString fact.asset.chainId ++ ":" ++ String.ofList fact.txHash ++ ":" ++
    toString fact.logIndex

/-- How the receipt is classified: cash without a known payer stays unknown. -/
def ReceiptFact.classified (fact : ReceiptFact) : SourceKind :=
  if fact.payerAddress.isSome = true then fact.sourceKind else .UNKNOWN

/-- The row of a new receipt. -/
def ReceiptFact.row (fact : ReceiptFact) (route : DestinationRoute) : CashReceipt where
  cashReceiptId := fact.cashReceiptId
  vaultId := route.vaultId
  asset := fact.asset
  amount := fact.amount
  txHash := fact.txHash
  logIndex := fact.logIndex
  payerAddress := fact.payerAddress
  sourceKind := fact.classified
  settlementId := fact.settlementId
  cashState := .DESTINATION_RECEIVED
  executionProfile := fact.executionProfile
  receivedAt := fact.receivedAt

/-- The receipt says what the fact says. -/
def ReceiptFact.sameAs (fact : ReceiptFact) (route : DestinationRoute) (r : CashReceipt) : Prop :=
  r.vaultId = route.vaultId ∧ r.asset.address = fact.asset.address ∧
    r.asset.decimals = fact.asset.decimals ∧ r.amount = fact.amount ∧
    r.payerAddress = fact.payerAddress ∧ r.sourceKind = fact.classified ∧
    r.executionProfile = fact.executionProfile ∧ r.settlementId = fact.settlementId

instance (fact : ReceiptFact) (route : DestinationRoute) (r : CashReceipt) :
    Decidable (fact.sameAs route r) :=
  inferInstanceAs (Decidable (_ ∧ _ ∧ _ ∧ _ ∧ _ ∧ _ ∧ _ ∧ _))

/-- The event of a new receipt. -/
def ReceiptFact.event (fact : ReceiptFact) (reference : String) : OutboxEvent where
  aggregateType := "cash_receipt"
  aggregateId := fact.cashReceiptId
  eventType := "DESTINATION_CASH_RECONCILED"
  idempotencyKey := fact.eventKey
  payload := [("cashReceiptId", .str fact.cashReceiptId), ("reference", .str reference),
    ("chainId", .int fact.asset.chainId), ("txHash", .str (String.ofList fact.txHash)),
    ("logIndex", .int fact.logIndex), ("blockHash", .str (String.ofList fact.blockHash)),
    ("blockNumber", .str (toString fact.blockNumber)),
    ("payee", .str (String.ofList fact.payeeAddress)), ("amount", .str (toString fact.amount)),
    ("executionProfile", .str fact.executionProfile.value), ("debtApplied", .bool false)]

namespace CashDb

variable (db : CashDb)

/-- Why the link of the fact to a settlement is refused. -/
def settlementRefusal (fact : ReceiptFact) (route : DestinationRoute) : Option String :=
  if fact.sourceKind = .SETTLEMENT then
    match fact.settlementId.bind db.settlement with
    | none => some "SOURCE_SETTLEMENT_UNRECONCILED"
    | some settlement =>
      if settlement.executionProfile ≠ route.executionProfile ∨
          settlement.state ∈ [.ANNOUNCED, .REVERSED] then
        some "SOURCE_SETTLEMENT_UNRECONCILED"
      else none
  else if fact.settlementId.isSome = true then some "CASH_CLASSIFICATION_CONFLICT"
  else none

/-- A receipt that is new. -/
def createReceipt (reference : String) (fact : ReceiptFact) (route : DestinationRoute) :
    Except LedgerError (ReconciliationResult × CashDb) := do
  let db ← db.insertReceipt (fact.row route)
  let db := { db with outbox := emit db.outbox (fact.event reference) }
  if fact.classified = .UNKNOWN then
    let (_, db) := db.block "UNCLASSIFIED_DESTINATION_CASH" "cash_receipts" fact.cashReceiptId
    return (⟨some fact.cashReceiptId, true, some "UNCLASSIFIED_DESTINATION_CASH"⟩, db)
  else return (⟨some fact.cashReceiptId, true, none⟩, db)

/-- `record_destination_receipt` when the key is locked and the receipt of the log is read. -/
def recordReceipt (reference : String) (fact : ReceiptFact) (route : DestinationRoute)
    (existing : Option CashReceipt) : Except LedgerError (ReconciliationResult × CashDb) := do
  let entityId := (existing.map CashReceipt.cashReceiptId).getD fact.cashReceiptId
  if fact.canonical = false ∨ fact.receiptStatus ≠ 1 then
    return db.block "DESTINATION_NOT_CANONICAL_FINAL" "cash_receipts" entityId
  else if fact.finalized = false then
    -- Finality lags behind, so this is tried again and no case is opened.
    return (⟨none, false, some "DESTINATION_NOT_CANONICAL_FINAL"⟩, db)
  else if fact.asset.key ≠ route.asset.key ∨ fact.payeeAddress ≠ route.receiverAddress ∨
      fact.executionProfile ≠ route.executionProfile then
    return db.block "DESTINATION_ROUTE_MISMATCH" "cash_receipts" entityId
  else if fact.sourceKind ∉ [.SETTLEMENT, .DIRECT_REPAYMENT, .RECOVERY, .UNKNOWN] then
    return db.block "NOT_DESTINATION_CASH" "cash_receipts" entityId
  else do
    revertIf (fact.payerAddress.any (fun a => !isHex 40 a) = true)
      (.valueError "normalized payer address required")
    match db.settlementRefusal fact route with
    | some code => return db.block code "cash_receipts" entityId
    | none =>
      match existing with
      | some row =>
        if fact.sameAs route row then return (⟨some entityId, false, some "DUPLICATE_RECEIPT"⟩, db)
        else return db.block "DESTINATION_RECEIPT_CONFLICT" "cash_receipts" entityId
      | none => db.createReceipt reference fact route

/-- `record_destination_receipt`. -/
def recordDestinationReceipt (reference : String) (route : DestinationRoute)
    (reader : Option CashEvidenceReader) : Except LedgerError (ReconciliationResult × CashDb) := do
  match reader with
  | none => return (⟨none, false, some "DESTINATION_READER_NOT_CONFIGURED"⟩, db)
  | some reader =>
    match reader.receipt reference with
    | none => return (⟨none, false, some "DESTINATION_RECEIPT_NOT_FOUND"⟩, db)
    | some fact => do
      fact.checked route
      db.recordReceipt reference fact route (db.receiptAt fact.key)

end CashDb

/-! ### Allocations -/

/-- The checks of the arguments, before the receipt is locked. -/
def AllocationFact.checked (fact : AllocationFact) : Except LedgerError Unit := do
  Tables.units fact.received "received" false
  Tables.units fact.feePaid "fee_paid" false
  Tables.units fact.interestPaid "interest_paid" false
  Tables.units fact.principalPaid "principal_paid" false
  Tables.units fact.excess "excess" false
  Tables.units fact.newDebt "new_debt" false
  revertIf (fact.received ≤ 0 ∨
      fact.received ≠ fact.feePaid + fact.interestPaid + fact.principalPaid + fact.excess)
    (.valueError "repayment split must exactly equal measured allocated cash")
  revertIf (isHex 64 fact.txHash = false)
    (.valueError "normalized repayment transaction hash required")

/-- The allocation says what the fact says. -/
def AllocationFact.sameAs (fact : AllocationFact) (a : Allocation) : Prop :=
  a.received = fact.received ∧ a.feePaid = fact.feePaid ∧ a.interestPaid = fact.interestPaid ∧
    a.principalPaid = fact.principalPaid ∧ a.excess = fact.excess ∧ a.newDebt = fact.newDebt ∧
    a.onchainTxHash = fact.txHash

instance (fact : AllocationFact) (a : Allocation) : Decidable (fact.sameAs a) :=
  inferInstanceAs (Decidable (_ ∧ _ ∧ _ ∧ _ ∧ _ ∧ _ ∧ _))

/-- The row of a new allocation. -/
def AllocationFact.row (fact : AllocationFact) (receipt : CashReceipt) (facility : Facility) :
    Allocation where
  allocationId := fact.allocationId
  cashReceiptId := receipt.cashReceiptId
  facilityId := facility.facilityId
  received := fact.received
  feePaid := fact.feePaid
  interestPaid := fact.interestPaid
  principalPaid := fact.principalPaid
  excess := fact.excess
  newDebt := fact.newDebt
  onchainTxHash := fact.txHash

/-- The event of a new allocation. -/
def AllocationFact.event (fact : AllocationFact) (reference : String) (receipt : CashReceipt)
    (facility : Facility) : OutboxEvent where
  aggregateType := "allocation"
  aggregateId := fact.allocationId
  eventType := "CONFIRMED_REPAYMENT_RECONCILED"
  idempotencyKey := "cash-allocation:" ++ receipt.cashReceiptId ++ ":" ++ facility.facilityId
  payload := [("allocationId", .str fact.allocationId), ("reference", .str reference),
    ("cashReceiptId", .str receipt.cashReceiptId), ("facilityId", .str facility.facilityId),
    ("received", .str (toString fact.received)), ("excess", .str (toString fact.excess)),
    ("txHash", .str (String.ofList fact.txHash)),
    ("executionProfile", .str fact.executionProfile.value)]

namespace CashDb

variable (db : CashDb)

/-- A blocking case is open on the receipt. -/
def disputed (cashReceiptId : String) : Bool :=
  db.exceptions.any fun e => e.entityTable == "cash_receipts" && e.entityId == cashReceiptId &&
    e.severity == .BLOCKING && !e.resolved

/-- The cash of a settlement was paid to another borrower. -/
def otherBorrower (receipt : CashReceipt) (facility : Facility) : Except LedgerError Bool :=
  if receipt.sourceKind = .SETTLEMENT then
    match receipt.settlementId.bind db.settlement with
    | none => .error .integrity
    | some settlement =>
      match db.accounts.find? fun a => a.providerAccountId == settlement.providerAccountId with
      | none => .error .integrity
      | some account => .ok (account.borrowerId ≠ facility.borrowerId)
  else .ok false

/-- An allocation that is new. -/
def createAllocation (reference : String) (fact : AllocationFact) (receipt : CashReceipt)
    (facility : Facility) : Except LedgerError (ReconciliationResult × CashDb) := do
  let allocated := db.allocated receipt.cashReceiptId
  if receipt.amount < allocated + fact.received then
    return db.block "ALLOCATION_EXCEEDS_RECEIPT" "allocations" fact.allocationId
  else do
    let db ← db.insertAllocation (fact.row receipt facility)
    let db := if allocated + fact.received = receipt.amount then
      db.setCashState receipt.cashReceiptId .ALLOCATED else db
    return (⟨some fact.allocationId, true, none⟩,
      { db with outbox := emit db.outbox (fact.event reference receipt facility) })

/-- `record_confirmed_allocation` when the receipt is locked and read. -/
def recordAllocation (reference : String) (fact : AllocationFact) (receipt : Option CashReceipt) :
    Except LedgerError (ReconciliationResult × CashDb) := do
  match receipt with
  | none => return db.block "DESTINATION_RECEIPT_MISSING" "allocations" fact.allocationId
  | some receipt =>
    if fact.canonical = false ∨ fact.receiptStatus ≠ 1 then
      return db.block "REPAYMENT_NOT_CANONICAL_FINAL" "cash_receipts" receipt.cashReceiptId
    else if fact.finalized = false then
      return (⟨none, false, some "REPAYMENT_NOT_CANONICAL_FINAL"⟩, db)
    else
      match db.facility fact.facilityId with
      | none => return db.block "FACILITY_CASH_ROUTE_MISMATCH" "allocations" fact.allocationId
      | some facility =>
        if facility.loan ≠ receipt.asset ∨ facility.vaultId ≠ receipt.vaultId ∨
            fact.chainId ≠ receipt.asset.chainId then
          return db.block "FACILITY_CASH_ROUTE_MISMATCH" "allocations" fact.allocationId
        else if facility.executionProfile ≠ receipt.executionProfile ∨
            fact.executionProfile ≠ receipt.executionProfile then
          return db.block "CASH_PROFILE_MISMATCH" "allocations" fact.allocationId
        else if receipt.cashState = .RETURNED ∨ receipt.sourceKind = .UNKNOWN then
          return db.block "CASH_NOT_ALLOCATABLE" "allocations" fact.allocationId
        else if db.disputed receipt.cashReceiptId = true then
          return (⟨none, false, some "CASH_RECONCILIATION_EXCEPTION"⟩, db)
        else do
          let other ← db.otherBorrower receipt facility
          if other = true then
            return db.block "OTHER_BORROWER_CASH" "allocations" fact.allocationId
          else
            match db.allocation receipt.cashReceiptId facility.facilityId with
            | some existing =>
              if fact.sameAs existing then
                return (⟨some existing.allocationId, false, some "DUPLICATE_ALLOCATION"⟩, db)
              else return db.block "ALLOCATION_CONFLICT" "allocations" fact.allocationId
            | none => db.createAllocation reference fact receipt facility

/-- `record_confirmed_allocation`. -/
def recordConfirmedAllocation (reference : String) (reader : Option CashEvidenceReader) :
    Except LedgerError (ReconciliationResult × CashDb) := do
  match reader with
  | none => return (⟨none, false, some "DESTINATION_READER_NOT_CONFIGURED"⟩, db)
  | some reader =>
    match reader.allocation reference with
    | none => return (⟨none, false, some "FINAL_REPAYMENT_EVENT_NOT_FOUND"⟩, db)
    | some fact => do
      fact.checked
      db.recordAllocation reference fact (db.receipt fact.cashReceiptId)

end CashDb

/-! ### Calls that overlap -/

/-- A call that holds its lock, with the receipt it read under it. -/
inductive CashCall
  | receipt (reference : String) (fact : ReceiptFact) (route : DestinationRoute)
    (existing : Option CashReceipt)
  | allocation (reference : String) (fact : AllocationFact) (row : Option CashReceipt)

/-- The rest of the call. -/
def CashCall.run (db : CashDb) : CashCall → Except LedgerError (ReconciliationResult × CashDb)
  | receipt reference fact route existing => db.recordReceipt reference fact route existing
  | allocation reference fact row => db.recordAllocation reference fact row

/-- The row that the call has locked. -/
def CashCall.row : CashCall → Option CashReceipt
  | receipt _ _ _ existing => existing
  | allocation _ _ row => row

/-- The call holds the advisory lock of the key. -/
def CashCall.HoldsKey (c : CashCall) (key : Int × HexString × Int) : Prop :=
  match c with
  | receipt _ fact _ _ => fact.key = key
  | allocation _ _ _ => False

/-- The call holds the lock of the receipt's row. -/
def CashCall.HoldsRow (c : CashCall) (cashReceiptId : String) : Prop :=
  ∃ r, c.row = some r ∧ r.cashReceiptId = cashReceiptId

/-- The tables, and the calls that are under way by their transaction. -/
structure Reconciliation where
  db : CashDb
  calls : Nat → Option CashCall

namespace Reconciliation

/-- Tables without cash, and no call. -/
def initial (db : CashDb) : Reconciliation where
  db := { db with receipts := [], allocations := [] }
  calls := fun _ => none

/-- No call holds the lock of the key. -/
def KeyFree (s : Reconciliation) (key : Int × HexString × Int) : Prop :=
  ∀ t c, s.calls t = some c → ¬c.HoldsKey key

/-- No call holds the lock of the row. -/
def RowFree (s : Reconciliation) (row : Option CashReceipt) : Prop :=
  ∀ r ∈ row, ∀ t c, s.calls t = some c → ¬c.HoldsRow r.cashReceiptId

end Reconciliation

/-- What can happen next. -/
inductive CashAction
  /-- `record_destination_receipt` locks the key of its fact and reads the receipt. -/
  | readReceipt (t : Nat) (reference : String) (fact : ReceiptFact) (route : DestinationRoute)
  /-- `record_confirmed_allocation` locks the receipt of its fact and reads it. -/
  | readAllocation (t : Nat) (reference : String) (fact : AllocationFact)
  /-- A call runs to its end: it commits, or it raises and is rolled back. -/
  | finish (t : Nat)
  /-- A worker is lost with its call. -/
  | crash (t : Nat)
  /-- The other services write their tables. -/
  | others (db : CashDb)
  /-- The cash of a receipt was sent back. -/
  | returned (cashReceiptId : String)

/-- One step. A lock that is taken makes the next one wait, so the call is not read before it is
free. -/
inductive CashStep : Reconciliation → CashAction → Reconciliation → Prop
  | readReceipt {s : Reconciliation} {t : Nat} {reference : String} {fact : ReceiptFact}
      {route : DestinationRoute} (hidle : s.calls t = none) (hchecked : fact.checked route = .ok ())
      (hkey : s.KeyFree fact.key) (hrow : s.RowFree (s.db.receiptAt fact.key)) :
      CashStep s (.readReceipt t reference fact route) { s with
        calls := Function.update s.calls t
          (some (.receipt reference fact route (s.db.receiptAt fact.key))) }
  | readAllocation {s : Reconciliation} {t : Nat} {reference : String} {fact : AllocationFact}
      (hidle : s.calls t = none) (hchecked : fact.checked = .ok ())
      (hrow : s.RowFree (s.db.receipt fact.cashReceiptId)) :
      CashStep s (.readAllocation t reference fact) { s with
        calls := Function.update s.calls t
          (some (.allocation reference fact (s.db.receipt fact.cashReceiptId))) }
  | commit {s : Reconciliation} {t : Nat} {c : CashCall} {result : ReconciliationResult}
      {db : CashDb} (hcall : s.calls t = some c) (hrun : c.run s.db = .ok (result, db)) :
      CashStep s (.finish t) { db := db, calls := Function.update s.calls t none }
  | rollback {s : Reconciliation} {t : Nat} {c : CashCall} {error : LedgerError}
      (hcall : s.calls t = some c) (hrun : c.run s.db = .error error) :
      CashStep s (.finish t) { s with calls := Function.update s.calls t none }
  | crash {s : Reconciliation} {t : Nat} :
      CashStep s (.crash t) { s with calls := Function.update s.calls t none }
  | others {s : Reconciliation} {db : CashDb} (hreceipts : db.receipts = s.db.receipts)
      (hallocations : db.allocations = s.db.allocations) : CashStep s (.others db) { s with db := db }
  | returned {s : Reconciliation} {id : String} (hrow : s.RowFree (s.db.receipt id)) :
      CashStep s (.returned id) { s with db := s.db.setCashState id .RETURNED }

end Rackline.Cash
