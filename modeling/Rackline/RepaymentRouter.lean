import Rackline.CreditFacilityManager

/-!
# `Rackline.RepaymentRouter`: direct repayments and the settlement leg

`RepaymentRouter.sol`. A direct repayment moves the payer's tokens into the vault. Settlement
cash is recorded first, held by the router, and moved into the vault when it is allocated. Both
end in `applyReceived` (`_apply`), the same pair of ledger and vault calls the manager makes.
-/

set_option autoImplicit false

namespace Rackline

open Evm

namespace Credit

/-- `_requireDebt`. -/
def requireDebt (id : FacilityId) (now : Nat) (c : Credit) : Except Revert Nat := do
  let debt ← c.pool.ledger.legalDebtAt id now
  revertIf (debt = 0) (.nothingToRepay id)
  return debt

/-- `_apply`: split what arrived, report the split, tell the recovery manager and, on a debt of
zero, the facility manager. -/
def applyReceived (d : Deployment) (m : Msg) (id : FacilityId) (requested got : Nat)
    (c : Credit) : Except Revert (RepayResult × Credit) := do
  let (r, pool) ← c.pool.repay (m.calledBy d.router) id got requested
  let c := { c with pool := pool }
  if d.routerHasFacilities = true then
    let c ← c.reportAllocation d (m.calledBy d.router) id r.applied
    if r.newDebt = 0 then
      let c ← c.syncRepaid d (m.calledBy d.router) id
      return (r, c)
    else
      return (r, c)
  else
    return (r, c)

/-- `repayFor` of the router. -/
def routerRepayFor (d : Deployment) (m : Msg) (id : FacilityId) (amount : Nat) (c : Credit) :
    Except Revert (RepayResult × Credit) := do
  revertIf (amount = 0) .zeroAmount
  let _ ← c.requireDebt id m.now
  let (got, pool) ← pullToVault d.router m.sender amount c.pool
  applyReceived d m id amount got { c with pool := pool }

/-- `repayExact`: at most the debt is pulled. -/
def repayExact (d : Deployment) (m : Msg) (id : FacilityId) (maxAmount : Nat) (c : Credit) :
    Except Revert (RepayResult × Credit) := do
  revertIf (maxAmount = 0) .zeroAmount
  let debt ← c.requireDebt id m.now
  let amount := if maxAmount < debt then maxAmount else debt
  let (got, pool) ← pullToVault d.router m.sender amount c.pool
  applyReceived d m id amount got { c with pool := pool }

/-! ### Settlement leg -/

/-- The modifier `onlySettlementLeg`. -/
def onlySettlementLeg (m : Msg) : Except Revert Unit :=
  revertIf (m.hasRole .treasury m.sender = false ∧ m.hasRole .relayer m.sender = false)
    (.notSettlementLeg m.sender)

/-- `_record`: take the settlement cash into the router. -/
def recordReceipt (d : Deployment) (m : Msg) (settlementId : Bytes32) (amount : Nat)
    (c : Credit) : Except Revert (Nat × Credit) := do
  revertIf (amount = 0) .zeroAmount
  revertIf ((c.router.receipts settlementId).exists_ = true) (.duplicateSettlement settlementId)
  match c.pool.token.transferFrom d.router m.sender d.router amount with
  | none => .error .transferFailed
  | some token =>
    let got ← subW (token.balanceOf d.router) (c.pool.token.balanceOf d.router)
    revertIf (got = 0) .transferFailed
    return (got, { c with
      pool := { c.pool with token := token }
      router := { c.router with
        receipts := Function.update c.router.receipts settlementId
          { total := got, allocated := 0, exists_ := true } } })

/-- `recordDestinationReceipt`. -/
def recordDestinationReceipt (d : Deployment) (m : Msg) (settlementId : Bytes32) (amount : Nat)
    (c : Credit) : Except Revert Credit := do
  onlySettlementLeg m
  let (_, c) ← c.recordReceipt d m settlementId amount
  return c

/-- The transfer of `_allocateFromReceipt`: the router's cash to the vault, all of it. -/
def pushToVault (d : Deployment) (amount : Nat) (p : Pool) : Except Revert (Nat × Pool) :=
  match p.token.transfer d.router p.vault.self amount with
  | none => .error .transferFailed
  | some token => do
    let got ← subW (token.balanceOf p.vault.self) p.cashBalance
    revertIf (got ≠ amount) .transferFailed
    return (got, { p with token := token })

/-- `_allocateFromReceipt`. -/
def allocateFromReceipt (d : Deployment) (m : Msg) (settlementId : Bytes32) (id : FacilityId)
    (amount : Nat) (c : Credit) : Except Revert (RepayResult × Credit) := do
  let rc := c.router.receipts settlementId
  revertIf (rc.exists_ = false) (.unknownSettlement settlementId)
  revertIf (amount = 0) .zeroAmount
  let allocated ← addW 256 rc.allocated amount
  revertIf (allocated > rc.total) (.allocationExceedsReceipt settlementId allocated rc.total)
  -- Existence check. A debt of zero is fine: all of the amount is then excess.
  let _ ← c.pool.ledger.legalDebtAt id m.now
  let (got, pool) ← pushToVault d amount c.pool
  applyReceived d m id amount got { c with
    pool := pool
    router := { c.router with
      receipts := Function.update c.router.receipts settlementId
        { rc with allocated := allocated } } }

/-- `allocate` of the router. -/
def allocateSettlement (d : Deployment) (m : Msg) (settlementId : Bytes32) (id : FacilityId)
    (amount : Nat) (c : Credit) : Except Revert (RepayResult × Credit) := do
  onlySettlementLeg m
  c.allocateFromReceipt d m settlementId id amount

/-- `receiveSettlement`: record and allocate. -/
def receiveSettlement (d : Deployment) (m : Msg) (id : FacilityId) (settlementId : Bytes32)
    (amount : Nat) (c : Credit) : Except Revert (RepayResult × Credit) := do
  onlySettlementLeg m
  let (got, c) ← c.recordReceipt d m settlementId amount
  c.allocateFromReceipt d m settlementId id got

/-! ### Refunds -/

/-- `_wallet`. -/
def routerWallet (d : Deployment) (id : FacilityId) (c : Credit) : Except Revert Address := do
  revertIf (d.routerHasFacilities = false) (.unknownFacility id)
  let f := c.manager.facilities id
  revertIf (f.exists_ = false ∨ f.wallet = 0) (.unknownFacility id)
  return f.wallet

/-- `refundExcess` of the router. -/
def routerRefundExcess (d : Deployment) (m : Msg) (id : FacilityId) (dst : Address)
    (c : Credit) : Except Revert Credit := do
  let wallet ← c.routerWallet d id
  revertIf (dst ≠ wallet) (.notRefundAuthority id dst)
  revertIf (m.sender ≠ wallet ∧ m.hasRole .servicer m.sender = false)
    (.notRefundAuthority id m.sender)
  let amount := c.pool.vault.refundableOf id
  revertIf (amount = 0) (.nothingToRefund id)
  let pool ← c.pool.refundExcess (m.calledBy d.router) id wallet amount
  return { c with pool := pool }

end Credit

end Rackline
