import Rackline.RepaymentRouter

/-!
# `Rackline.RecoveryManager`: schedules, delinquency, default and losses

`RecoveryManager.sol`. The contract is the recovery manager of the facility manager and of the
vault: it moves facility states with `recoveryTransition`, freezes accrual on default, reports
impairments and write-offs, and repays through the router from reserves it holds.
-/

set_option autoImplicit false

namespace Rackline

open Evm

namespace Credit

/-- Write the schedule of a facility. -/
def setScheduleOf (id : FacilityId) (s : Schedule) (c : Credit) : Credit :=
  { c with recovery := { c.recovery with
    schedules := Function.update c.recovery.schedules id s } }

/-- `MANAGER.state`. -/
def stateOf (id : FacilityId) (c : Credit) : Except Revert FacilityState := do
  c.requireFacility id
  return (c.manager.facilities id).state

/-! ### Schedule and delinquency -/

/-- `setSchedule`. -/
def setSchedule (m : Msg) (id : FacilityId) (dueAt grace disputeWindow dueAmount : Nat)
    (c : Credit) : Except Revert Credit := do
  revertIf (m.hasRole .underwriter m.sender = false) .recoveryNotRole
  let s := c.recovery.schedules id
  let state ← c.stateOf id
  revertIf (state ≠ .active ∧ state ≠ .controlPending) .invalidSchedule
  revertIf (dueAt ≤ m.now ∨ grace = 0 ∨ dueAmount = 0 ∨ disputeWindow > grace) .invalidSchedule
  revertIf (s.dueAt ≠ 0 ∧ (s.dueAt ≤ m.now ∨ s.defaultApproved = true ∨ s.writtenOff = true))
    .invalidSchedule
  let disputeUntil ← addW 64 dueAt disputeWindow
  return c.setScheduleOf id { s with
    dueAt := dueAt, graceSeconds := grace, disputeUntil := disputeUntil, dueAmount := dueAmount,
    paidAtSchedule := c.recovery.totalAllocated id }

/-- `installmentPaid`. -/
def installmentPaid (id : FacilityId) (now : Nat) (c : Credit) : Except Revert Bool := do
  let s := c.recovery.schedules id
  let debt ← c.pool.ledger.legalDebtAt id now
  if debt = 0 then return true
  else if s.dueAt = 0 then return false
  else
    let paid ← subW (c.recovery.totalAllocated id) s.paidAtSchedule
    return decide (paid ≥ s.dueAmount)

/-- `markDelinquent`. The condition is a short-circuit disjunction: `installmentPaid` is read
only for an installment that is due. -/
def markDelinquent (d : Deployment) (reg : Registries) (m : Msg) (id : FacilityId) (c : Credit) :
    Except Revert Credit := do
  let s := c.recovery.schedules id
  revertIf (s.dueAt = 0 ∨ m.now ≤ s.dueAt) .notDue
  let paid ← c.installmentPaid id m.now
  revertIf (paid = true) .notDue
  c.recoveryTransition d reg (m.calledBy d.recovery) id .delinquent

/-- The state change of `cure`: to `REPAID` without debt, else back to `ACTIVE`. -/
def cureState (d : Deployment) (reg : Registries) (m : Msg) (id : FacilityId) (debt : Nat)
    (c : Credit) : Except Revert Credit :=
  if debt = 0 then c.syncRepaid d (m.calledBy d.recovery) id
  else c.recoveryTransition d reg (m.calledBy d.recovery) id .active

/-- `cure`. -/
def cure (d : Deployment) (reg : Registries) (m : Msg) (id : FacilityId) (c : Credit) :
    Except Revert Credit := do
  let paid ← c.installmentPaid id m.now
  revertIf (paid = false) .notDue
  let debt ← c.pool.ledger.legalDebtAt id m.now
  let cured ← cureState d reg m id debt c
  return cured.setScheduleOf id { cured.recovery.schedules id with defaultApproved := false }

/-- `setDispute`. -/
def setDispute (m : Msg) (id : FacilityId) (disputed : Bool) (c : Credit) :
    Except Revert Credit := do
  revertIf (m.hasRole .servicer m.sender = false) .recoveryNotRole
  let s := c.recovery.schedules id
  revertIf (s.dueAt = 0) .invalidSchedule
  return c.setScheduleOf id { s with
    disputed := disputed, defaultApproved := s.defaultApproved && !disputed }

/-! ### Default -/

/-- `_requireDefaultDue`. -/
def requireDefaultDue (m : Msg) (id : FacilityId) (c : Credit) : Except Revert Unit := do
  let s := c.recovery.schedules id
  revertIf (s.dueAt = 0) .notDue
  let graceEnd ← addW 64 s.dueAt s.graceSeconds
  revertIf (m.now ≤ graceEnd) .notDue
  let paid ← c.installmentPaid id m.now
  revertIf (paid = true) .notDue
  revertIf (s.disputed = true ∨ m.now ≤ s.disputeUntil) .disputeOpen
  let state ← c.stateOf id
  revertIf (state ≠ .delinquent) .notDue

/-- `approveDefault`. -/
def approveDefault (m : Msg) (id : FacilityId) (reason : Bytes32) (c : Credit) :
    Except Revert Credit := do
  revertIf (m.hasRole .underwriter m.sender = false) .recoveryNotRole
  c.requireDefaultDue m id
  revertIf (reason = 0) .notApproved
  return c.setScheduleOf id { c.recovery.schedules id with
    defaultApproved := true, defaultReason := reason }

/-- `declareDefault`. -/
def declareDefault (d : Deployment) (reg : Registries) (m : Msg) (id : FacilityId) (c : Credit) :
    Except Revert Credit := do
  revertIf (m.hasRole .guardian m.sender = false) .recoveryNotRole
  c.requireDefaultDue m id
  let s := c.recovery.schedules id
  revertIf (s.defaultApproved = false) .notApproved
  let c := c.setScheduleOf id { s with defaultApproved := false }
  let c ← c.recoveryTransition d reg (m.calledBy d.recovery) id .defaulted
  let ledger ← c.pool.ledger.freezeAccrual (m.calledBy d.recovery) id
  return { c with pool := { c.pool with ledger := ledger } }

/-- `beginRecovery`. -/
def beginRecovery (d : Deployment) (reg : Registries) (m : Msg) (id : FacilityId) (c : Credit) :
    Except Revert Credit := do
  revertIf (m.hasRole .servicer m.sender = false) .recoveryNotRole
  c.recoveryTransition d reg (m.calledBy d.recovery) id .recovery

/-! ### Reserves -/

/-- `fundReserve`. -/
def fundReserve (d : Deployment) (m : Msg) (id : FacilityId) (amount : Nat) (c : Credit) :
    Except Revert Credit := do
  revertIf ((c.manager.facilities id).exists_ = false) .invalidSchedule
  let s := c.recovery.schedules id
  revertIf (amount = 0 ∨ (s.reserveOwner ≠ 0 ∧ s.reserveOwner ≠ m.sender)) .notReserveOwner
  match c.pool.token.transferFrom d.recovery m.sender d.recovery amount with
  | none => .error .transferFailed
  | some token =>
    let got ← subW (token.balanceOf d.recovery) (c.pool.token.balanceOf d.recovery)
    revertIf (got ≠ amount) .transferFailed
    let pledged ← addW 256 s.pledgedReserve amount
    return setScheduleOf id { s with reserveOwner := m.sender, pledgedReserve := pledged }
      { c with pool := { c.pool with token := token } }

/-- The recovery manager approves the router for `amount` of the asset. -/
def approveRouter (d : Deployment) (amount : Nat) (c : Credit) : Credit :=
  { c with pool := { c.pool with token := c.pool.token.approve d.recovery d.router amount } }

/-- `_applyReserve`: repay from the pledged reserve through the router. -/
def applyReserveInternal (d : Deployment) (m : Msg) (id : FacilityId) (c : Credit) :
    Except Revert Credit := do
  let state ← c.stateOf id
  revertIf (state ≠ .defaulted ∧ state ≠ .recovery) .notDue
  let s := c.recovery.schedules id
  let debt ← c.pool.ledger.legalDebtAt id m.now
  let amount := if s.pledgedReserve < debt then s.pledgedReserve else debt
  if amount = 0 then return c
  else
    let c := c.setScheduleOf id { s with pledgedReserve := s.pledgedReserve - amount }
    let (_, c) ← (c.approveRouter d amount).repayExact d (m.calledBy d.recovery) id amount
    return c.approveRouter d 0

/-- `applyReserve`. -/
def applyReserve (d : Deployment) (m : Msg) (id : FacilityId) (c : Credit) :
    Except Revert Credit := do
  revertIf (m.hasRole .servicer m.sender = false) .recoveryNotRole
  c.applyReserveInternal d m id

/-- `returnReserve`. -/
def returnReserve (d : Deployment) (m : Msg) (id : FacilityId) (c : Credit) :
    Except Revert Credit := do
  let s := c.recovery.schedules id
  revertIf (m.sender ≠ s.reserveOwner) .notReserveOwner
  let debt ← c.pool.ledger.legalDebtAt id m.now
  revertIf (debt ≠ 0) .outstandingDebt
  match c.pool.token.transfer d.recovery m.sender s.pledgedReserve with
  | none => .error .transferFailed
  | some token =>
    return setScheduleOf id { s with pledgedReserve := 0 }
      { c with pool := { c.pool with token := token } }

/-! ### Losses -/

/-- `impair`. -/
def impair (d : Deployment) (m : Msg) (id : FacilityId) (lossId : Bytes32) (amount : Nat)
    (c : Credit) : Except Revert Credit := do
  revertIf (m.hasRole .underwriter m.sender = false) .recoveryNotRole
  revertIf (lossId = 0 ∨ c.recovery.lossUsed lossId = true) .duplicateLoss
  let pool ← c.pool.recognizeImpairment (m.calledBy d.recovery) id amount
  return { c with
    pool := pool
    recovery := { c.recovery with lossUsed := Function.update c.recovery.lossUsed lossId true } }

/-- `reverseImpairment` of the recovery manager. -/
def recoveryReverseImpairment (d : Deployment) (m : Msg) (id : FacilityId) (amount : Nat)
    (c : Credit) : Except Revert Credit := do
  revertIf (m.hasRole .underwriter m.sender = false) .recoveryNotRole
  let pool ← c.pool.reverseImpairment (m.calledBy d.recovery) id amount
  return { c with pool := pool }

/-- `approveWriteOff`. -/
def approveWriteOff (m : Msg) (id : FacilityId) (lossId : Bytes32) (c : Credit) :
    Except Revert Credit := do
  revertIf (m.hasRole .underwriter m.sender = false) .recoveryNotRole
  revertIf (lossId = 0 ∨ c.recovery.lossUsed lossId = true) .notApproved
  let state ← c.stateOf id
  revertIf (state ≠ .recovery) .notApproved
  return c.setScheduleOf id { c.recovery.schedules id with writeOffApproval := lossId }

/-- `writeOff` of the recovery manager: the reserve first, then the loss on what remains. -/
def recoveryWriteOff (d : Deployment) (reg : Registries) (m : Msg) (id : FacilityId)
    (lossId : Bytes32) (c : Credit) : Except Revert Credit := do
  revertIf (m.hasRole .treasury m.sender = false) .recoveryNotRole
  let s := c.recovery.schedules id
  revertIf (c.recovery.lossUsed lossId = true ∨ s.writtenOff = true) .duplicateLoss
  revertIf (lossId = 0 ∨ s.writeOffApproval ≠ lossId) .notApproved
  let c ← c.applyReserveInternal d m id
  let debt ← c.pool.ledger.legalDebtAt id m.now
  if debt = 0 then c.syncRepaid d (m.calledBy d.recovery) id
  else
    let c := { c with recovery := { c.recovery with
      lossUsed := Function.update c.recovery.lossUsed lossId true
      schedules := Function.update c.recovery.schedules id
        { c.recovery.schedules id with writtenOff := true } } }
    let pool ← c.pool.writeOff (m.calledBy d.recovery) id
    let c := { c with pool := pool }
    c.recoveryTransition d reg (m.calledBy d.recovery) id .closedWithLoss

end Credit

end Rackline
