import Rackline.CreditRun
import Rackline.Lib.EventLog

/-!
# `Rackline.ProtocolLogs`: the events of the credit protocol

The events of the ledger and the facility manager that name a facility, and those events of the
vault, the router and the recovery manager that the indexer or the reconciliation reads.
`CreditCall.logs` lists the events of a call that returns, in the order in which it emits them. Each
function below follows the contract function of its name from the state before the call.

Of an event that every reader skips only the facility is kept. The trigger and the authority of
`StateChanged` are left out.

`settlementRef` is the last argument of `RepaymentRouter.repayFor`. The contract does nothing with
it but emit it.
-/

set_option autoImplicit false

namespace Rackline

open Evm EventLog

/-- Events of `DebtLedger`. -/
inductive LedgerEvent
  | facilityOpened (facilityId : FacilityId) (termsVersionId : Bytes32) (rateBps openedAt : Nat)
  | rateSegmentAdded (facilityId : FacilityId) (start rateBps : Nat)
  | stateSet (facilityId : FacilityId) (state : FacilityState)
  | accrued (facilityId : FacilityId) (interestUnits since until_ rateBps : Nat)
  | drawn (facilityId : FacilityId) (amount newPrincipal : Nat)
  | feeCharged (facilityId : FacilityId) (amount : Nat)
  | allocated (facilityId : FacilityId) (feePaid interestPaid principalPaid excess newDebt : Nat)
  | accrualFrozen (facilityId : FacilityId) (at_ : Nat)
  | capitalized (facilityId : FacilityId) (interestUnits newPrincipal : Nat)
deriving DecidableEq

/-- Events of `CreditFacilityManager`. -/
inductive ManagerEvent
  | facilityOpened (facilityId : FacilityId) (borrowerId : Bytes32) (profile : ExecutionProfile)
      (termsVersionId : Bytes32)
  | stateChanged (facilityId : FacilityId) (source target : FacilityState)
  | facilityFrozen (facilityId : FacilityId) (account : Address)
  | authorizationAnchored (facilityId : FacilityId) (decisionHash : Bytes32)
      (limit validUntil : Nat) (manifestHash : Bytes32)
  | drawReserved (facilityId : FacilityId)
  | borrowed (facilityId : FacilityId)
  | repaid (facilityId : FacilityId) (payer : Address)
      (requested received applied excess newDebt : Nat)
  | excessRefunded (facilityId : FacilityId)
deriving DecidableEq

/-- Events of `LendingVaultV2`. -/
inductive VaultEvent
  | repaymentReceived (facilityId : FacilityId) (received applied excess : Nat)
  | impairmentRecognized (facilityId : FacilityId) (amount : Nat)
  | impairmentReversed (facilityId : FacilityId) (amount : Nat)
  | writtenOff (facilityId : FacilityId) (principal interest reserveUsed : Nat)
deriving DecidableEq

/-- Events of `RepaymentRouter`. -/
inductive RouterEvent
  | repaid (facilityId : FacilityId) (payer : Address) (settlementRef : Bytes32)
      (requested received applied feePaid interestPaid principalPaid excess newDebt : Nat)
  | allocationApplied (settlementId : Bytes32) (facilityId : FacilityId)
      (amount applied excess : Nat)
deriving DecidableEq

/-- Events of `RecoveryManager`. -/
inductive RecoveryEvent
  | scheduleSet (facilityId : FacilityId) (dueAt graceSeconds dueAmount : Nat)
  | disputeSet (facilityId : FacilityId) (disputed : Bool) (disputeUntil : Nat)
  | defaultApproved (facilityId : FacilityId) (reason : Bytes32)
  | reserveFunded (facilityId : FacilityId) (owner : Address) (amount : Nat)
  | reserveApplied (facilityId : FacilityId) (amount : Nat)
  | lossApplied (facilityId : FacilityId) (lossId : Bytes32) (amount : Nat) (writeOff : Bool)
deriving DecidableEq

/-- An event, with the contract that emits it. -/
inductive ProtocolLog
  | ledger (e : LedgerEvent)
  | manager (e : ManagerEvent)
  | vault (e : VaultEvent)
  | router (e : RouterEvent)
  | recovery (e : RecoveryEvent)
deriving DecidableEq

/-! ### The ledger -/

namespace Facility

/-- The event of `_accrue`. -/
def accrueLogs (now : Nat) (id : FacilityId) (f : Facility) : List LedgerEvent :=
  if now = f.lastAccrualAt then []
  else if f.frozen = false ∧ f.principal ≠ 0 then
    match f.accrue now with
    | .error _ => []
    | .ok f' =>
      [.accrued id (InterestMath.units f'.interestAccum - InterestMath.units f.interestAccum)
        f.lastAccrualAt now f.rateBps]
  else []

/-- The last event of `capitalize`, from the accrued facility. Without interest there is none. -/
def capitalizeLogs (id : FacilityId) (f : Facility) : List LedgerEvent :=
  let unpaid := InterestMath.units f.interestAccum
  if unpaid = 0 then [] else [.capitalized id unpaid (f.principal + unpaid)]

end Facility

/-- The events of a ledger call that returns. `WriterSet` and `WiringSealed` name no facility. -/
def LedgerCall.logs (m : Msg) (l : Ledger) : LedgerCall → List LedgerEvent
  | setWriter _ _ => []
  | finalizeWiring => []
  | openFacility id t =>
    [.facilityOpened id t.termsVersionId t.rateBps m.now, .rateSegmentAdded id m.now t.rateBps]
  | setState id state => [.stateSet id state]
  | accrue id => (l.facilities id).accrueLogs m.now id
  | setRate id rateBps =>
    (l.facilities id).accrueLogs m.now id ++ [.rateSegmentAdded id m.now rateBps]
  | recordDraw id amount =>
    (l.facilities id).accrueLogs m.now id ++
      [.drawn id amount ((l.facilities id).principal + amount)]
  | recordFee id amount => (l.facilities id).accrueLogs m.now id ++ [.feeCharged id amount]
  | freezeAccrual id => (l.facilities id).accrueLogs m.now id ++ [.accrualFrozen id m.now]
  | capitalize id =>
    match (l.facilities id).accrue m.now with
    | .error _ => []
    | .ok f => (l.facilities id).accrueLogs m.now id ++ f.capitalizeLogs id
  | allocate id received =>
    match (l.facilities id).allocate m.now received with
    | .error _ => []
    | .ok (r, _) => (l.facilities id).accrueLogs m.now id ++
        [.allocated id r.feePaid r.interestPaid r.principalPaid r.excess r.newDebt]

/-! ### The vault -/

/-- The events of a vault call that returns. `Lent`, `RecoveryRecorded`, `EpochRecoveryReserved` and
`ExcessRefunded` name a facility too; nothing reads them. -/
def VaultCall.logs (m : Msg) (p : Pool) : VaultCall → List VaultEvent
  | onRepayment id r =>
    let impairment := p.vault.impairmentOf id
    (if impairment > r.newDebt then [.impairmentReversed id (impairment - r.newDebt)] else []) ++
      [.repaymentReceived id r.received r.applied r.excess]
  | recognizeImpairment id amount => [.impairmentRecognized id amount]
  | reverseImpairment id amount => [.impairmentReversed id amount]
  | writeOff id =>
    match p.ledger.unpaidInterestAt id m.now with
    | .error _ => []
    | .ok interest => [.writtenOff id (p.ledger.facilities id).principal interest 0]
  | _ => []

/-- The events of `LEDGER.allocate` and `VAULT.onRepayment`. -/
def Pool.repayLogs (m : Msg) (id : FacilityId) (received requested : Nat) (p : Pool) :
    List ProtocolLog :=
  match p.ledger.allocate m id received with
  | .error _ => []
  | .ok (r, ledger) =>
    (LedgerCall.logs m p.ledger (.allocate id received)).map .ledger ++
      (VaultCall.logs m { p with ledger := ledger }
        (.onRepayment id { r with requested := requested })).map .vault

namespace Credit

/-! ### The facility manager -/

/-- The events of `_setState`. -/
def setFacilityStateLogs (id : FacilityId) (target : FacilityState) (c : Credit) :
    List ProtocolLog :=
  [.ledger (.stateSet id target),
    .manager (.stateChanged id (c.manager.facilities id).state target)]

/-- The events of `openFacility`, which sets the state on the ledger alone. -/
def openFacilityLogs (m : Msg) (id : FacilityId) (borrowerId : Bytes32) (terms : Terms)
    (c : Credit) : List ProtocolLog :=
  (LedgerCall.logs m c.pool.ledger (.openFacility id terms)).map .ledger ++
    [.ledger (.stateSet id .draft),
      .manager (.facilityOpened id borrowerId terms.executionProfile terms.termsVersionId)]

/-- The events of `freezeDraws`. -/
def freezeDrawsLogs (m : Msg) (id : FacilityId) (c : Credit) : List ProtocolLog :=
  c.setFacilityStateLogs id .drawFrozen ++ [.manager (.facilityFrozen id m.sender)]

/-- The events of `syncRepaid`. -/
def syncRepaidLogs (id : FacilityId) (c : Credit) : List ProtocolLog :=
  if FacilityState.syncs (c.manager.facilities id).state = true then
    c.setFacilityStateLogs id .repaid
  else []

/-- The event of `anchorAuthorization`. -/
def anchorLogs (auth : CreditAuthorization) : List ProtocolLog :=
  [.manager (.authorizationAnchored auth.facilityId auth.decisionHash auth.limit auth.validUntil
    auth.manifestHash)]

/-- The events of `consumeReservation`. -/
def consumeReservationLogs (m : Msg) (rid : Bytes32) (c : Credit) : List ProtocolLog :=
  let r := c.exposure.reservations rid
  (LedgerCall.logs m c.pool.ledger (.recordDraw r.facilityId r.amount)).map .ledger

/-- The events of `_execute`. -/
def executeLogs (m : Msg) (rid : Bytes32) (c : Credit) : List ProtocolLog :=
  c.consumeReservationLogs m rid ++ [.manager (.borrowed (c.manager.reservationFacility rid))]

/-- The events of `borrow`. -/
def borrowLogs (d : Deployment) (reg : Registries) (m : Msg) (id : FacilityId) (amount : Nat)
    (c : Credit) : List ProtocolLog :=
  match c.reserveInternal d reg m id amount (m.now + 1) with
  | .error _ => []
  | .ok (rid, c) => .manager (.drawReserved id) :: c.executeLogs m rid

/-- The events of `repayFor` of the manager. -/
def managerRepayForLogs (d : Deployment) (m : Msg) (id : FacilityId) (amount : Nat) (c : Credit) :
    List ProtocolLog :=
  match pullToVault d.manager m.sender amount c.pool with
  | .error _ => []
  | .ok (received, pool) =>
    match pool.repay (m.calledBy d.manager) id received received with
    | .error _ => []
    | .ok (r, _) =>
      pool.repayLogs (m.calledBy d.manager) id received received ++
        [.manager (.repaid id m.sender amount received r.applied r.excess r.newDebt)] ++
        if r.newDebt = 0 ∧ isTransitionAllowed (c.manager.facilities id).state .repaid = true then
          c.setFacilityStateLogs id .repaid
        else []

/-! ### The router -/

/-- The events of `_apply`. -/
def applyReceivedLogs (d : Deployment) (m : Msg) (id : FacilityId) (settlementRef : Bytes32)
    (requested got : Nat) (c : Credit) : List ProtocolLog :=
  match c.pool.repay (m.calledBy d.router) id got requested with
  | .error _ => []
  | .ok (r, _) =>
    c.pool.repayLogs (m.calledBy d.router) id got requested ++
      (if d.routerHasFacilities = true ∧ r.newDebt = 0 then c.syncRepaidLogs id else []) ++
      [.router (.repaid id m.sender settlementRef requested r.received r.applied r.feePaid
        r.interestPaid r.principalPaid r.excess r.newDebt)]

/-- The events of `repayFor` of the router. -/
def routerRepayForLogs (d : Deployment) (m : Msg) (settlementRef : Bytes32) (id : FacilityId)
    (amount : Nat) (c : Credit) : List ProtocolLog :=
  match pullToVault d.router m.sender amount c.pool with
  | .error _ => []
  | .ok (got, pool) => applyReceivedLogs d m id settlementRef amount got { c with pool := pool }

/-- The events of `repayExact`. -/
def repayExactLogs (d : Deployment) (m : Msg) (id : FacilityId) (maxAmount : Nat) (c : Credit) :
    List ProtocolLog :=
  match c.requireDebt id m.now with
  | .error _ => []
  | .ok debt => c.routerRepayForLogs d m 0 id (if maxAmount < debt then maxAmount else debt)

/-- The events of `_allocateFromReceipt`. -/
def allocateFromReceiptLogs (d : Deployment) (m : Msg) (settlementId : Bytes32) (id : FacilityId)
    (amount : Nat) (c : Credit) : List ProtocolLog :=
  match pushToVault d amount c.pool with
  | .error _ => []
  | .ok (got, pool) =>
    match pool.repay (m.calledBy d.router) id got amount with
    | .error _ => []
    | .ok (r, _) =>
      applyReceivedLogs d m id settlementId amount got { c with pool := pool } ++
        [.router (.allocationApplied settlementId id amount r.applied r.excess)]

/-- The events of `receiveSettlement`. -/
def receiveSettlementLogs (d : Deployment) (m : Msg) (id : FacilityId) (settlementId : Bytes32)
    (amount : Nat) (c : Credit) : List ProtocolLog :=
  match c.recordReceipt d m settlementId amount with
  | .error _ => []
  | .ok (got, c) => c.allocateFromReceiptLogs d m settlementId id got

/-! ### The recovery manager -/

/-- The events of `cure`. -/
def cureLogs (m : Msg) (id : FacilityId) (c : Credit) : List ProtocolLog :=
  match c.pool.ledger.legalDebtAt id m.now with
  | .error _ => []
  | .ok debt => if debt = 0 then c.syncRepaidLogs id else c.setFacilityStateLogs id .active

/-- The events of `_applyReserve`. -/
def applyReserveLogs (d : Deployment) (m : Msg) (id : FacilityId) (c : Credit) :
    List ProtocolLog :=
  let s := c.recovery.schedules id
  match c.pool.ledger.legalDebtAt id m.now with
  | .error _ => []
  | .ok debt =>
    let amount := if s.pledgedReserve < debt then s.pledgedReserve else debt
    if amount = 0 then []
    else
      let c := c.setScheduleOf id { s with pledgedReserve := s.pledgedReserve - amount }
      (c.approveRouter d amount).repayExactLogs d (m.calledBy d.recovery) id amount ++
        [.recovery (.reserveApplied id amount)]

/-- The events of `writeOff`: those of `_applyReserve`, and from the state after it either those of
`syncRepaid` or those of the loss. -/
def recoveryWriteOffLogs (d : Deployment) (m : Msg) (id : FacilityId) (lossId : Bytes32)
    (c : Credit) : List ProtocolLog :=
  match c.applyReserveInternal d m id with
  | .error _ => []
  | .ok c' =>
    match c'.pool.ledger.legalDebtAt id m.now with
    | .error _ => []
    | .ok debt =>
      c.applyReserveLogs d m id ++
        if debt = 0 then c'.syncRepaidLogs id
        else (VaultCall.logs (m.calledBy d.recovery) c'.pool (.writeOff id)).map .vault ++
          c'.setFacilityStateLogs id .closedWithLoss ++
          [.recovery (.lossApplied id lossId debt true)]

end Credit

/-! ### Every call -/

section
variable (d : Deployment) (reg : Registries) (m : Msg) (settlementRef : Bytes32) (c : Credit)

/-- The events of a call of the controller. Its own events are not read. -/
def ExposureCall.logs : ExposureCall → List ProtocolLog
  | consumeReservation rid => c.consumeReservationLogs m rid
  | _ => []

/-- The events of a call of the manager. `DrawsPaused` and `DrawResumeApproved` name no facility. -/
def ManagerCall.logs : ManagerCall → List ProtocolLog
  | openFacility id borrowerId _ terms _ _ => c.openFacilityLogs m id borrowerId terms
  | transition id target => c.setFacilityStateLogs id target
  | freezeDraws id => c.freezeDrawsLogs m id
  | pauseDraws _ => []
  | approveDrawResume => []
  | bindRecoveryManager _ => []
  | syncRepaid id => c.syncRepaidLogs id
  | recoveryTransition id target => c.setFacilityStateLogs id target
  | anchorAuthorization auth _ => Credit.anchorLogs auth
  | borrow id amount _ => c.borrowLogs d reg m id amount
  | reserveDraw id _ _ => [.manager (.drawReserved id)]
  | executeReservedDraw rid _ => c.executeLogs m rid
  | repayFor id amount => c.managerRepayForLogs d m id amount
  | claimRefund id => [.manager (.excessRefunded id)]

/-- The events of a call of the router. `DestinationReceiptRecorded` names no facility, and nothing
reads its `ExcessRefunded`. -/
def RouterCall.logs : RouterCall → List ProtocolLog
  | repayFor id amount => c.routerRepayForLogs d m settlementRef id amount
  | repayExact id maxAmount => c.repayExactLogs d m id maxAmount
  | recordDestinationReceipt _ _ => []
  | allocate settlementId id amount => c.allocateFromReceiptLogs d m settlementId id amount
  | receiveSettlement id settlementId amount => c.receiveSettlementLogs d m id settlementId amount
  | refundExcess _ _ => []

/-- The events of a call of the recovery manager. `observeAllocation`, `returnReserve` and
`approveWriteOff` emit none. -/
def RecoveryCall.logs : RecoveryCall → List ProtocolLog
  | setSchedule id dueAt grace _ dueAmount => [.recovery (.scheduleSet id dueAt grace dueAmount)]
  | observeAllocation _ _ => []
  | markDelinquent id => c.setFacilityStateLogs id .delinquent
  | cure id => c.cureLogs m id
  | setDispute id disputed =>
    [.recovery (.disputeSet id disputed (c.recovery.schedules id).disputeUntil)]
  | approveDefault id reason => [.recovery (.defaultApproved id reason)]
  | declareDefault id =>
    c.setFacilityStateLogs id .defaulted ++
      (LedgerCall.logs m c.pool.ledger (.freezeAccrual id)).map .ledger
  | beginRecovery id => c.setFacilityStateLogs id .recovery
  | fundReserve id amount => [.recovery (.reserveFunded id m.sender amount)]
  | applyReserve id => c.applyReserveLogs d m id
  | returnReserve _ => []
  | impair id lossId amount =>
    [.vault (.impairmentRecognized id amount), .recovery (.lossApplied id lossId amount false)]
  | reverseImpairment id amount => [.vault (.impairmentReversed id amount)]
  | approveWriteOff _ _ => []
  | writeOff id lossId => c.recoveryWriteOffLogs d m id lossId

/-- The events of a call that returns. -/
def CreditCall.logs : CreditCall → List ProtocolLog
  | vault call => (call.logs m c.pool).map .vault
  | ledger call => (call.logs m c.pool.ledger).map .ledger
  | token _ => []
  | exposure call => call.logs m c
  | manager call => call.logs d reg m c
  | router call => call.logs d m settlementRef c
  | recovery call => call.logs d m c

end

/-- A transaction, with the settlement reference it passes on. -/
structure LoggedTx extends Tx where
  settlementRef : Bytes32

/-- The events of a transaction that returns. -/
def LoggedTx.logs (d : Deployment) (s : CreditState) (tx : LoggedTx) : List ProtocolLog :=
  tx.call.logs d tx.reg tx.msg tx.settlementRef s.credit

/-- One transaction, with the events it appends to the log. -/
def ProtocolStep (d : Deployment) :
    Logged CreditState ProtocolLog → LoggedTx → Logged CreditState ProtocolLog → Prop :=
  LoggedStep (fun s tx s' => CreditStep d s tx.toTx s') (LoggedTx.logs d)

/-- Run a list of transactions and collect the events. -/
def runLogs (d : Deployment) (s : Logged CreditState ProtocolLog) :
    List LoggedTx → Except Revert (Logged CreditState ProtocolLog)
  | [] => .ok s
  | tx :: rest =>
    if s.state.now ≤ tx.msg.now ∧ tx.msg.sender ∉ d.contracts then do
      let c ← tx.call.exec d tx.reg tx.msg s.state.credit
      runLogs d ⟨{ now := tx.msg.now, credit := c }, s.log ++ tx.logs d s.state⟩ rest
    else .error .panic

theorem runLogs_steps {d : Deployment} {txs : List LoggedTx} {s s' : Logged CreditState ProtocolLog}
    (h : runLogs d s txs = .ok s') : Transition.Steps (ProtocolStep d) s txs s' := by
  induction txs generalizing s with
  | nil =>
    cases h
    exact .nil _
  | cons tx rest ih =>
    unfold runLogs at h
    split at h
    · rename_i hc
      obtain ⟨c, hexec, h⟩ := bind_eq_ok.mp h
      have hstep : ProtocolStep d s tx
          ⟨{ now := tx.msg.now, credit := c }, s.log ++ tx.logs d s.state⟩ :=
        ⟨⟨hc.1, hc.2, hexec, rfl⟩, rfl⟩
      exact .cons hstep (ih h)
    · cases h

namespace Sample

/-- A transaction that passes no settlement reference on. -/
def logged (tx : Tx) : LoggedTx := { tx with settlementRef := 0 }

end Sample

end Rackline
