import Rackline.ProtocolLogs
import Rackline.ChainIndexer

/-!
# `Rackline.RepaymentPairing`: which logs belong to a `Repaid`

`pair_repayment_events` of `reconciliation/chain_reader.py`. From the rows of `chain_logs` and the
index of a `Repaid` it finds the `Allocated` of the ledger and the `RepaymentReceived` of the vault
that the same call emitted. Python's `None`, and every exception that the function turns into
`None`, is `none`.

`ProtocolLog.repaymentEvent` is what the decoder makes of the five events that the function knows.
`TxRows` says which rows a transaction leaves: one for each of these events, in the order of their
indices, and any rows of other events.
-/

set_option autoImplicit false

namespace Rackline

open Evm

/-! ### Rows of the journal -/

/-- A value of a decoded log. The function does not look into a value that is no string and no
integer. -/
inductive Json
  /-- A string, as its characters. -/
  | str (s : List Char)
  | int (n : Int)
  | other

/-- The columns of a row of `chain_logs` that the function reads. -/
structure EventRow where
  txHash : HexString
  blockNumber : Int
  blockHash : HexString
  txIndex : Int
  logIndex : Int
  address : HexString
  contractName : String
  eventName : String
  decoded : List (String × Json)

/-- `contract_addresses`. -/
abbrev ContractAddresses : Type := String → Option HexString

/-- The tuple `identity`. -/
abbrev TxIdentity : Type := HexString × Int × HexString × Int

/-- `_uint`. -/
def Json.uint : Json → Option Nat
  | .int n => if 0 ≤ n ∧ n < 2 ^ 256 then some n.toNat else none
  | .str s =>
    if s ≠ [] ∧ s.all Char.isDigit = true ∧ Nat.ofDigitChars 10 s 0 < 2 ^ 256 then
      some (Nat.ofDigitChars 10 s 0)
    else none
  | .other => none

/-- `value.lower()`, of a value that should be a string. -/
def Json.lower : Json → Option (List Char)
  | .str s => some (Rackline.lower s)
  | .int _ | .other => none

/-- `_ZERO_REF`. -/
def zeroRef : HexString := '0' :: 'x' :: List.replicate 64 '0'

namespace EventRow

def identity (e : EventRow) : TxIdentity := (e.txHash, e.blockNumber, e.blockHash, e.txIndex)

def isNamed (contract event : String) (e : EventRow) : Bool :=
  e.contractName == contract && e.eventName == event

/-- A `Repaid` of one of `_REPAYMENT_CONTRACTS`. -/
def isRepaid (e : EventRow) : Bool :=
  e.isNamed "CreditFacilityManager" "Repaid" || e.isNamed "RepaymentRouter" "Repaid"

def isAllocated : EventRow → Bool := isNamed "DebtLedger" "Allocated"

def isReceived : EventRow → Bool := isNamed "LendingVaultV2" "RepaymentReceived"

def isApplied : EventRow → Bool := isNamed "RepaymentRouter" "AllocationApplied"

/-- `_uint(decoded[key])`. -/
def uint (e : EventRow) (key : String) : Option Nat := (e.decoded.lookup key).bind Json.uint

/-- `decoded.get("facilityId", "").lower()`. -/
def facilityKey (e : EventRow) : Option (List Char) :=
  match e.decoded.lookup "facilityId" with
  | none => some []
  | some value => value.lower

/-- `event.address.lower() == contract_addresses.get(event.contract_name, "").lower()`. -/
def isConfigured (contracts : ContractAddresses) (e : EventRow) : Bool :=
  lower e.address == lower ((contracts e.contractName).getD [])

end EventRow

/-! ### The pairing -/

/-- The list `configured`. The facility is read only of an event from a configured address. -/
def configuredFor (contracts : ContractAddresses) (facilityKey : HexString) :
    List EventRow → Option (List EventRow)
  | [] => some []
  | e :: rest =>
    if e.isConfigured contracts = true then do
      let key ← e.facilityKey
      let rest ← configuredFor contracts facilityKey rest
      return if key = lower facilityKey then e :: rest else rest
    else configuredFor contracts facilityKey rest

/-- The last checks: the amounts of the three events agree. -/
def checkAmounts (repaid allocated vault : EventRow) (allowSettlementRef : Bool) : Option Unit := do
  let a := allocated
  let v := vault
  let r := repaid
  if r.contractName = "RepaymentRouter" ∧ allowSettlementRef = false then
    let ref ← (r.decoded.lookup "settlementRef").bind Json.lower
    guard (ref = zeroRef)
  let feePaid ← a.uint "feePaid"
  let interestPaid ← a.uint "interestPaid"
  let principalPaid ← a.uint "principalPaid"
  let aExcess ← a.uint "excess"
  let newDebt ← a.uint "newDebt"
  let received ← v.uint "received"
  let applied ← v.uint "applied"
  let excess ← v.uint "excess"
  let _ ← r.uint "requested"
  guard (0 < received ∧ received = applied + excess ∧
    applied = feePaid + interestPaid + principalPaid ∧ excess = aExcess)
  guard (r.uint "newDebt" = some newDebt)
  guard (r.uint "received" = some received ∧ r.uint "applied" = some applied ∧
    r.uint "excess" = some excess)
  if r.contractName = "RepaymentRouter" then
    guard (r.uint "feePaid" = some feePaid ∧ r.uint "interestPaid" = some interestPaid ∧
      r.uint "principalPaid" = some principalPaid)

/-- `pair_repayment_events`. A missing `nextLeg` is infinity. -/
def pairRepaymentEvents (logs : List EventRow) (contracts : ContractAddresses) (targetIndex : Int)
    (facilityKey : HexString) (allowSettlementRef : Bool) :
    Option (EventRow × EventRow × EventRow) := do
  let configured ← configuredFor contracts facilityKey logs
  match configured.filter fun e => e.logIndex == targetIndex && e.isRepaid with
  | [repaid] =>
    let sameTx := configured.filter fun e => e.identity == repaid.identity
    let previous := ((sameTx.filter fun e => e.isRepaid && decide (e.logIndex < targetIndex)).map
      EventRow.logIndex).max?.getD (-1)
    let leg := sameTx.filter fun e => decide (previous < e.logIndex ∧ e.logIndex < targetIndex)
    match leg.filter EventRow.isAllocated, leg.filter EventRow.isReceived with
    | [allocated], [vault] =>
      if allocated.logIndex ≥ vault.logIndex then none
      else
        -- The marker of a settlement comes after the `Repaid` it belongs to.
        let nextLeg := ((sameTx.filter fun e => decide (targetIndex < e.logIndex) &&
          (e.isRepaid || e.isAllocated)).map EventRow.logIndex).min?
        if sameTx.any (fun e => e.isApplied && decide (allocated.logIndex < e.logIndex) &&
            nextLeg.all fun next => decide (e.logIndex < next)) = true then none
        else do
          checkAmounts repaid allocated vault allowSettlementRef
          return (repaid, allocated, vault)
    | _, _ => none
  | _ => none

/-! ### What the decoder writes -/

/-- The last `k` hexadecimal digits of `n`. -/
def hexDigits : Nat → Nat → List Char
  | 0, _ => []
  | k + 1, n => hexDigits k (n / 16) ++ [Nat.digitChar (n % 16)]

/-- `"0x" + value.hex()`. -/
def Bytes32.hex (b : Bytes32) : HexString := '0' :: 'x' :: hexDigits 64 (Fin.val (n := 2 ^ 256) b)

/-- An address, in lower case. -/
def Address.hex (a : Address) : HexString := '0' :: 'x' :: hexDigits 40 (Fin.val (n := 2 ^ 160) a)

/-- `str(value)`. -/
def decimal (n : Nat) : Json := .str (Nat.toDigits 10 n)

/-- `DecodedLog`. -/
structure DecodedEvent where
  contract : String
  event : String
  args : List (String × Json)

/-- The five events that the pairing knows, as the decoder of the indexer writes them. -/
def ProtocolLog.repaymentEvent : ProtocolLog → Option DecodedEvent
  | .ledger (.allocated id feePaid interestPaid principalPaid excess newDebt) =>
    some ⟨"DebtLedger", "Allocated",
      [("facilityId", .str id.hex), ("feePaid", decimal feePaid),
        ("interestPaid", decimal interestPaid), ("principalPaid", decimal principalPaid),
        ("excess", decimal excess), ("newDebt", decimal newDebt)]⟩
  | .vault (.repaymentReceived id received applied excess) =>
    some ⟨"LendingVaultV2", "RepaymentReceived",
      [("facilityId", .str id.hex), ("received", decimal received), ("applied", decimal applied),
        ("excess", decimal excess)]⟩
  | .manager (.repaid id payer requested received applied excess newDebt) =>
    some ⟨"CreditFacilityManager", "Repaid",
      [("facilityId", .str id.hex), ("payer", .str payer.hex), ("requested", decimal requested),
        ("received", decimal received), ("applied", decimal applied), ("excess", decimal excess),
        ("newDebt", decimal newDebt)]⟩
  | .router (.repaid id payer ref requested received applied feePaid interestPaid principalPaid
      excess newDebt) =>
    some ⟨"RepaymentRouter", "Repaid",
      [("facilityId", .str id.hex), ("payer", .str payer.hex), ("settlementRef", .str ref.hex),
        ("requested", decimal requested), ("received", decimal received),
        ("applied", decimal applied), ("feePaid", decimal feePaid),
        ("interestPaid", decimal interestPaid), ("principalPaid", decimal principalPaid),
        ("excess", decimal excess), ("newDebt", decimal newDebt)]⟩
  | .router (.allocationApplied settlementId id amount applied excess) =>
    some ⟨"RepaymentRouter", "AllocationApplied",
      [("settlementId", .str settlementId.hex), ("facilityId", .str id.hex),
        ("amount", decimal amount), ("applied", decimal applied), ("excess", decimal excess)]⟩
  | _ => none

/-- The row of an event at a place in its block. -/
structure EventRow.Shows (contracts : ContractAddresses) (tx : TxIdentity) (index : Int)
    (e : DecodedEvent) (row : EventRow) : Prop where
  contractName : row.contractName = e.contract
  eventName : row.eventName = e.event
  decoded : row.decoded = e.args
  logIndex : row.logIndex = index
  identity : row.identity = tx
  address : ∃ a, contracts e.contract = some a ∧ lower row.address = lower a

/-- A row that is none of the five events: another address, or another event. The facility of an
event, if it has one, is a `bytes32`. -/
def EventRow.Foreign (contracts : ContractAddresses) (row : EventRow) : Prop :=
  row.isConfigured contracts = false ∨
    row.isRepaid = false ∧ row.isAllocated = false ∧ row.isReceived = false ∧
      row.isApplied = false ∧
      ∀ value, row.decoded.lookup "facilityId" = some value → ∃ s, value = .str s

/-- The rows of a transaction whose protocol events have the indices that `placed` gives them, next
to any other events, in any order. -/
structure TxRows (contracts : ContractAddresses) (tx : TxIdentity)
    (placed : List (Int × ProtocolLog)) (rows : List EventRow) : Prop where
  identity : ∀ row ∈ rows, row.identity = tx
  distinct : (rows.map EventRow.logIndex).Nodup
  ascending : placed.Pairwise fun p q => p.1 < q.1
  nonneg : ∀ p ∈ placed, 0 ≤ p.1
  complete : ∀ p ∈ placed, ∀ e, p.2.repaymentEvent = some e →
    ∃ row ∈ rows, row.Shows contracts tx p.1 e
  sound : ∀ row ∈ rows, row.Foreign contracts ∨
    ∃ p ∈ placed, ∃ e, p.2.repaymentEvent = some e ∧ row.Shows contracts tx p.1 e

end Rackline
