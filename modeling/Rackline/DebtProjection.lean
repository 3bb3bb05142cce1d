import Rackline.ProtocolLogs

/-!
# `Rackline.DebtProjection`: the facilities folded from the logs

`projectFacility` is the part of `replay` in `indexer.py` that builds `proj_facilities`. It reads
the events of the ledger and of the facility manager, and keeps one row for each facility. Two
events have the same name in both contracts: the `FacilityOpened` of the manager has a profile, and
that of the ledger has a rate.

Amounts are integers, as in Python. `last_block` is left out.
-/

set_option autoImplicit false

namespace Rackline

open Evm EventLog

/-- `facilityId` of an event of the ledger. -/
def LedgerEvent.facilityId : LedgerEvent → FacilityId
  | facilityOpened id _ _ _ => id
  | rateSegmentAdded id _ _ => id
  | stateSet id _ => id
  | accrued id _ _ _ _ => id
  | drawn id _ _ => id
  | feeCharged id _ => id
  | allocated id _ _ _ _ _ => id
  | accrualFrozen id _ => id
  | capitalized id _ _ => id

/-- `facilityId` of an event of the manager. -/
def ManagerEvent.facilityId : ManagerEvent → FacilityId
  | facilityOpened id _ _ _ => id
  | stateChanged id _ _ => id
  | facilityFrozen id _ => id
  | authorizationAnchored id _ _ _ _ => id
  | drawReserved id => id
  | borrowed id => id
  | repaid id _ _ _ _ _ _ => id
  | excessRefunded id => id

/-- The facility of an event of `DebtLedger` or `CreditFacilityManager`. -/
def ProtocolLog.facilityKey : ProtocolLog → Option FacilityId
  | .ledger e => some e.facilityId
  | .manager e => some e.facilityId
  | _ => none

/-- `ProjectedFacility`. -/
structure ProjectedFacility where
  borrowerKey : Option Bytes32
  executionProfile : ExecutionProfile
  state : FacilityState
  principal : Int
  fees : Int
  unpaidInterestRecorded : Int
  rateBps : Nat
  lastAccrualAt : Option Nat
  accrualFrozen : Bool
  lastDecisionHash : Option Bytes32
  authorizationValidUntil : Option Nat
deriving DecidableEq

namespace ProjectedFacility

/-- The row that the first event of a facility starts from. -/
def fresh (profile : ExecutionProfile) : ProjectedFacility where
  borrowerKey := none
  executionProfile := profile
  state := .draft
  principal := 0
  fees := 0
  unpaidInterestRecorded := 0
  rateBps := 0
  lastAccrualAt := none
  accrualFrozen := false
  lastDecisionHash := none
  authorizationValidUntil := none

/-- The row after an event, for a deployment with the given profile. -/
def fold (profile : ExecutionProfile) (f : ProjectedFacility) :
    ProtocolLog → Except String ProjectedFacility
  | .ledger (.facilityOpened _ _ rateBps openedAt) =>
    .ok { f with rateBps := rateBps, lastAccrualAt := some openedAt }
  | .manager (.facilityOpened _ borrowerId eventProfile _) =>
    if eventProfile ≠ profile then .error "event execution profile differs from deployment"
    else .ok { f with borrowerKey := some borrowerId }
  | .ledger (.drawn _ _ newPrincipal) => .ok { f with principal := newPrincipal }
  | .ledger (.capitalized _ interestUnits newPrincipal) => .ok { f with
      principal := newPrincipal
      unpaidInterestRecorded := f.unpaidInterestRecorded - interestUnits }
  | .ledger (.accrued _ interestUnits _ until_ rateBps) => .ok { f with
      unpaidInterestRecorded := f.unpaidInterestRecorded + interestUnits
      lastAccrualAt := some until_
      rateBps := rateBps }
  | .ledger (.feeCharged _ amount) => .ok { f with fees := f.fees + amount }
  | .ledger (.allocated _ feePaid interestPaid principalPaid _ newDebt) =>
    let f := { f with
      fees := f.fees - feePaid
      unpaidInterestRecorded := f.unpaidInterestRecorded - interestPaid
      principal := f.principal - principalPaid }
    if f.fees + f.unpaidInterestRecorded + f.principal ≠ (newDebt : Int) then
      .error "debt event conservation discrepancy"
    else .ok f
  | .ledger (.accrualFrozen _ _) => .ok { f with accrualFrozen := true }
  | .ledger (.stateSet _ state) => .ok { f with state := state }
  | .manager (.stateChanged _ _ target) => .ok { f with state := target }
  | .manager (.facilityFrozen _ _) => .ok { f with state := .drawFrozen }
  | .manager (.authorizationAnchored _ decisionHash _ validUntil _) => .ok { f with
      lastDecisionHash := some decisionHash, authorizationValidUntil := some validUntil }
  | _ => .ok f

end ProjectedFacility

/-- The rows of `proj_facilities`. -/
abbrev FacilityView := FacilityId → Option ProjectedFacility

namespace FacilityView

/-- No row yet. -/
def empty : FacilityView := fun _ => none

/-- The row of a facility, or the one that its first event would start from. -/
def row (profile : ExecutionProfile) (v : FacilityView) (id : FacilityId) : ProjectedFacility :=
  (v id).getD (.fresh profile)

end FacilityView

/-- The facilities of `replay`, one event at a time. -/
def projectFacility (profile : ExecutionProfile) :
    FacilityView → ProtocolLog → Except String FacilityView :=
  rows ProtocolLog.facilityKey (.fresh profile) (ProjectedFacility.fold profile)

/-! ### Runs -/

/-- One transaction, by any sender, at a time that is not before the last one. Nobody but the
manager sets a state on the ledger; the other writer operations may also be called by
themselves. -/
structure DebtStep (d : Deployment) (s : CreditState) (tx : LoggedTx) (s' : CreditState) :
    Prop where
  later : s.now ≤ tx.msg.now
  exec : tx.call.exec d tx.reg tx.msg s.credit = .ok s'.credit
  now : s'.now = tx.msg.now
  driven : ∀ id state, tx.call ≠ .ledger (.setState id state)

/-- One transaction, with the events it appends to the log. -/
def DebtLogStep (d : Deployment) :
    Logged CreditState ProtocolLog → LoggedTx → Logged CreditState ProtocolLog → Prop :=
  LoggedStep (DebtStep d) (LoggedTx.logs d)

/-- A deployment, before any event. -/
def DebtLogInitial (d : Deployment) (s : Logged CreditState ProtocolLog) : Prop :=
  s.state.Initial d ∧ s.log = []

/-- A facility that the transaction opens has the profile of the deployment. -/
def LoggedTx.OpensUnder (profile : ExecutionProfile) (tx : LoggedTx) : Prop :=
  match tx.call with
  | .manager (.openFacility _ _ _ terms _ _) => terms.executionProfile = profile
  | _ => True

end Rackline
