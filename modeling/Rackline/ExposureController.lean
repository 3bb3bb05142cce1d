import Rackline.Registries

/-!
# `Rackline.ExposureController`: borrowing base, headroom and reservations

`ExposureController.sol` and the evaluation of `GpuRiskPolicy.sol`. The controller reads the
ledger for debt, the vault for cash and the registries for the rest; consuming a reservation
records the draw on the ledger.

`Credit` is the state of the whole credit protocol: the pool and the storage of the four
contracts around it. The calls of every contract act on it.
-/

set_option autoImplicit false

namespace Rackline

open Evm

/-- `ExposureController.Enrollment`. -/
structure Enrollment where
  borrowerId : Bytes32
  groupId : Bytes32
  providerId : ProviderId
  exists_ : Bool

/-- `IExposureController.Authorization`. -/
structure Authorization where
  limit : Nat
  policyVersionId : Bytes32
  controlAgreementId : Bytes32
  controlVersion : Nat
  validUntil : Nat
  epoch : Nat
  exists_ : Bool

/-- `IExposureController.Reservation`. -/
structure Reservation where
  facilityId : FacilityId
  amount : Nat
  approvalNonce : Nat
  expiresAt : Nat
  policyVersionId : Bytes32
  authorizationEpoch : Nat
  state : ReservationState

/-- The storage of `ExposureController`. -/
structure Exposure where
  enrolled : FacilityId → Enrollment
  byBorrower : Bytes32 → List FacilityId
  byGroup : Bytes32 → List FacilityId
  byProvider : ProviderId → List FacilityId
  all : List FacilityId
  auth : FacilityId → Authorization
  reserved : FacilityId → Nat
  nonceUsed : FacilityId → Nat → Bool
  reservations : Bytes32 → Reservation
  isManager : Address → Bool
  wiringFinalized : Bool

/-- The controller after deployment. -/
def Exposure.initial : Exposure where
  enrolled := fun _ => ⟨0, 0, 0, false⟩
  byBorrower := fun _ => []
  byGroup := fun _ => []
  byProvider := fun _ => []
  all := []
  auth := fun _ => ⟨0, 0, 0, 0, 0, 0, false⟩
  reserved := fun _ => 0
  nonceUsed := fun _ _ => false
  reservations := fun _ => ⟨0, 0, 0, 0, 0, 0, .none⟩
  isManager := fun _ => false
  wiringFinalized := false

/-- `CreditFacilityManager.Facility`. -/
structure ManagedFacility where
  borrowerId : Bytes32
  wallet : Address
  providerId : ProviderId
  controlAgreementId : Bytes32
  controlVersion : Nat
  profile : ExecutionProfile
  state : FacilityState
  exists_ : Bool

/-- `CreditFacilityManager.Anchor`. -/
structure Anchor where
  auth : CreditAuthorization
  signer : Address
  epoch : Nat
  anchoredAt : Nat
  signerEpoch : Nat
  exposureEpoch : Nat
  exists_ : Bool

/-- The storage of `CreditFacilityManager`. -/
structure Manager where
  facilities : FacilityId → ManagedFacility
  anchors : FacilityId → Anchor
  drawNonce : FacilityId → Nat
  reservationFacility : Bytes32 → FacilityId
  drawsPaused : Bool
  recoveryManager : Address
  resumeApproved : Bool

/-- The manager after deployment. -/
def Manager.initial : Manager where
  facilities := fun _ => ⟨0, 0, 0, 0, 0, .localMock, .draft, false⟩
  anchors := fun _ => ⟨default, 0, 0, 0, 0, 0, false⟩
  drawNonce := fun _ => 0
  reservationFacility := fun _ => 0
  drawsPaused := false
  recoveryManager := 0
  resumeApproved := false

/-- `RepaymentRouter.Receipt`. -/
structure Receipt where
  total : Nat
  allocated : Nat
  exists_ : Bool

/-- The storage of `RepaymentRouter`. -/
structure Router where
  receipts : Bytes32 → Receipt

/-- The router after deployment. -/
def Router.initial : Router := { receipts := fun _ => ⟨0, 0, false⟩ }

/-- `RecoveryManager.Schedule`. -/
structure Schedule where
  dueAt : Nat
  graceSeconds : Nat
  disputeUntil : Nat
  dueAmount : Nat
  paidAtSchedule : Nat
  pledgedReserve : Nat
  reserveOwner : Address
  defaultApproved : Bool
  disputed : Bool
  writtenOff : Bool
  defaultReason : Bytes32
  writeOffApproval : Bytes32

/-- The storage of `RecoveryManager`. -/
structure Recovery where
  schedules : FacilityId → Schedule
  totalAllocated : FacilityId → Nat
  lossUsed : Bytes32 → Bool

/-- The recovery manager after deployment. -/
def Recovery.initial : Recovery where
  schedules := fun _ => ⟨0, 0, 0, 0, 0, 0, 0, false, false, false, 0, 0⟩
  totalAllocated := fun _ => 0
  lossUsed := fun _ => false

/-- The state of the credit protocol. -/
structure Credit where
  pool : Pool
  exposure : Exposure
  manager : Manager
  router : Router
  recovery : Recovery

/-- `GpuTypes.DrawEvaluation`. -/
structure DrawEvaluation where
  eligibleReceivables : Nat
  receivableLimit : Nat
  facilityLimit : Nat
  facilityRoom : Nat
  headroom : Nat
  vaultCash : Nat
  availableDraw : Nat
  evidenceValidUntil : Nat
  checkpointAge : Nat

namespace PolicyParams

/-- `GpuRiskPolicy.caps`: every cap must be set. -/
def caps (p : PolicyParams) : Except Revert Unit := do
  revertIf (p.perBorrowerCap = 0) (.capNotSet "perBorrower")
  revertIf (p.perGroupCap = 0) (.capNotSet "perGroup")
  revertIf (p.perProviderCap = 0) (.capNotSet "perProvider")
  revertIf (p.globalCap = 0) (.capNotSet "global")

/-- `GpuRiskPolicy.evaluate`. -/
def evaluate (p : PolicyParams) (eligibleUnpaid approvedCap debt reserved headroom vaultCash : Nat) :
    Except Revert DrawEvaluation := do
  let haircut := p.concentrationHaircutBps + p.collectabilityHaircutBps
  let keep ← subW 10000 haircut
  let scaled ← mulW 256 eligibleUnpaid keep
  let eligible := scaled / 10000
  let advanced ← mulW 256 eligible p.advanceRateBps
  let receivableLimit := advanced / 10000
  let committed ← addW 256 debt reserved
  let baseRoom := if receivableLimit > committed then receivableLimit - committed else 0
  let facilityRoom := if approvedCap > committed then approvedCap - committed else 0
  let available := if facilityRoom < baseRoom then facilityRoom else baseRoom
  let available := if headroom < available then headroom else available
  let available := if vaultCash < available then vaultCash else available
  return { eligibleReceivables := eligible, receivableLimit := receivableLimit,
           facilityLimit := approvedCap, facilityRoom := facilityRoom, headroom := headroom,
           vaultCash := vaultCash, availableDraw := available, evidenceValidUntil := 0,
           checkpointAge := 0 }

end PolicyParams

namespace Exposure

/-- `_controlUsable`: the pinned agreement version is effective, of grade E2 at least, and
freshly observed. -/
def controlUsable (reg : Registries) (a : Authorization) (p : PolicyParams) (now : Nat) :
    Except Revert Bool :=
  if reg.isEffective a.controlAgreementId a.controlVersion now = false then .ok false
  else do
    let agr ← Registries.read (reg.agreement a.controlAgreementId)
    if agr.grade = .e0 ∨ agr.grade = .e1 then return false
    else return reg.isFresh a.controlAgreementId p.controlObservationMaxAge

/-- `_room`. -/
def room (cap exposure : Nat) : Nat := if cap > exposure then cap - exposure else 0

/-- `_min`. -/
def minOf (a b : Nat) : Nat := if a < b then a else b

end Exposure

namespace Credit

/-- The loop of `_exposure`, from the accumulator `total`. -/
def exposureOf (c : Credit) (now : Nat) : List FacilityId → Nat → Except Revert Nat
  | [], total => .ok total
  | id :: rest, total => do
    let debt ← c.pool.ledger.legalDebtAt id now
    let committed ← addW 256 debt (c.exposure.reserved id)
    let total ← addW 256 total committed
    exposureOf c now rest total

/-- `headroomOf`. -/
def headroomOf (reg : Registries) (id : FacilityId) (policyVersionId : Bytes32) (now : Nat)
    (c : Credit) : Except Revert Nat := do
  let e := c.exposure.enrolled id
  revertIf (e.exists_ = false) (.facilityNotEnrolled id)
  let p ← reg.params policyVersionId
  p.caps
  let borrower ← c.exposureOf now (c.exposure.byBorrower e.borrowerId) 0
  let group ← c.exposureOf now (c.exposure.byGroup e.groupId) 0
  let provider ← c.exposureOf now (c.exposure.byProvider e.providerId) 0
  let global ← c.exposureOf now c.exposure.all 0
  let headroom := Exposure.room p.perBorrowerCap borrower
  let headroom := Exposure.minOf headroom (Exposure.room p.perGroupCap group)
  let headroom := Exposure.minOf headroom (Exposure.room p.perProviderCap provider)
  return Exposure.minOf headroom (Exposure.room p.globalCap global)

/-- `_authorityUsable`. -/
def authorityUsable (reg : Registries) (id : FacilityId) (p : PolicyParams) (now : Nat)
    (c : Credit) : Except Revert Bool :=
  let a := c.exposure.auth id
  if a.limit = 0 ∨ a.validUntil ≤ now ∨ reg.isCurrent a.policyVersionId = false then .ok false
  else do
    let usable ← Exposure.controlUsable reg a p now
    if usable = false then return false
    else
      -- `LEDGER.view_` needs the facility.
      revertIf ((c.pool.ledger.facilities id).exists_ = false) (.facilityUnknown id)
      let maturity := (c.pool.ledger.facilities id).terms.maturityAt
      return !decide (maturity ≠ 0 ∧ now ≥ maturity)

/-- `evaluateDraw` of the controller. -/
def evaluateDraw (reg : Registries) (id : FacilityId) (now : Nat) (c : Credit) :
    Except Revert DrawEvaluation := do
  let a := c.exposure.auth id
  revertIf (a.exists_ = false) (.noAuthorization id)
  let p ← reg.params a.policyVersionId
  let debt ← c.pool.ledger.legalDebtAt id now
  let headroom ← c.headroomOf reg id a.policyVersionId now
  let (eligible, validUntil, cpAge) ← Registries.read
    (reg.eligibleUnpaid id p.checkpointMaxAge p.checkpointToleranceBps p.overdueHaircutBps now)
  let cash ← c.pool.availableCash
  let e ← p.evaluate eligible a.limit debt (c.exposure.reserved id) headroom cash
  let usable ← c.authorityUsable reg id p now
  return { e with
    evidenceValidUntil := validUntil
    checkpointAge := cpAge
    availableDraw := if usable = true then e.availableDraw else 0 }

/-! ### Wiring and authority -/

/-- `ExposureController.setManager`. -/
def exposureSetManager (m : Msg) (manager : Address) (enabled : Bool) (c : Credit) :
    Except Revert Credit := do
  revertIf (m.hasRole .admin m.sender = false) (.notRole .admin m.sender)
  revertIf (c.exposure.wiringFinalized = true) .wiringFinalized
  revertIf (manager = 0) .zeroAddress
  return { c with exposure := { c.exposure with
    isManager := Function.update c.exposure.isManager manager enabled } }

/-- `ExposureController.finalizeWiring`. -/
def exposureFinalizeWiring (m : Msg) (c : Credit) : Except Revert Credit := do
  revertIf (m.hasRole .admin m.sender = false) (.notRole .admin m.sender)
  revertIf (c.exposure.wiringFinalized = true) .wiringFinalized
  return { c with exposure := { c.exposure with wiringFinalized := true } }

/-- `enrollFacility`. -/
def enrollFacility (reg : Registries) (m : Msg) (id : FacilityId) (groupId : Bytes32)
    (c : Credit) : Except Revert Credit := do
  revertIf (m.hasRole .underwriter m.sender = false) (.notRole .underwriter m.sender)
  revertIf ((c.exposure.enrolled id).exists_ = true) (.facilityAlreadyEnrolled id)
  let f := reg.bookFacility id
  revertIf (f.exists_ = false) (.facilityUnknown id)
  revertIf ((c.pool.ledger.facilities id).exists_ = false) (.facilityUnknown id)
  revertIf ((c.pool.ledger.facilities id).terms.loanAsset.decimals ≠ f.sourceAsset.decimals)
    (.pilotValuationUnsupported "decimals differ")
  let groupId := if groupId = 0 then f.borrowerId else groupId
  return { c with exposure := { c.exposure with
    enrolled := Function.update c.exposure.enrolled id
      { borrowerId := f.borrowerId, groupId := groupId, providerId := f.providerId,
        exists_ := true }
    byBorrower := Function.update c.exposure.byBorrower f.borrowerId
      (c.exposure.byBorrower f.borrowerId ++ [id])
    byGroup := Function.update c.exposure.byGroup groupId (c.exposure.byGroup groupId ++ [id])
    byProvider := Function.update c.exposure.byProvider f.providerId
      (c.exposure.byProvider f.providerId ++ [id])
    all := c.exposure.all ++ [id] } }

/-- `setAuthorization`. -/
def setAuthorization (reg : Registries) (m : Msg) (id : FacilityId) (limit : Nat)
    (policyVersionId controlAgreementId : Bytes32) (controlVersion validUntil : Nat)
    (c : Credit) : Except Revert Credit := do
  revertIf (m.hasRole .underwriter m.sender = false) (.notRole .underwriter m.sender)
  revertIf ((c.exposure.enrolled id).exists_ = false) (.facilityNotEnrolled id)
  revertIf (reg.isCurrent policyVersionId = false) (.policyStale policyVersionId)
  revertIf (reg.isEffective controlAgreementId controlVersion m.now = false)
    (.controlNotUsable controlAgreementId controlVersion)
  revertIf (validUntil ≤ m.now) (.authorizationExpired id validUntil)
  let epoch ← addW 64 (c.exposure.auth id).epoch 1
  return { c with exposure := { c.exposure with
    auth := Function.update c.exposure.auth id
      { limit := limit, policyVersionId := policyVersionId,
        controlAgreementId := controlAgreementId, controlVersion := controlVersion,
        validUntil := validUntil, epoch := epoch, exists_ := true } } }

/-! ### Reservations -/

/-- `reserve`, called by a manager. -/
def reserve (d : Deployment) (reg : Registries) (m : Msg) (id : FacilityId)
    (amount approvalNonce expiresAt : Nat) (c : Credit) : Except Revert (Bytes32 × Credit) := do
  revertIf (c.exposure.isManager m.sender = false) (.notManager m.sender)
  revertIf (amount = 0) .zeroAmount
  let a := c.exposure.auth id
  revertIf (a.exists_ = false) (.noAuthorization id)
  revertIf (a.limit = 0) (.facilityLimitZero id)
  revertIf (a.validUntil ≤ m.now) (.authorizationExpired id a.validUntil)
  revertIf (reg.isCurrent a.policyVersionId = false) (.policyStale a.policyVersionId)
  let p ← reg.params a.policyVersionId
  let usable ← Exposure.controlUsable reg a p m.now
  revertIf (usable = false) (.controlNotUsable a.controlAgreementId a.controlVersion)
  revertIf (expiresAt ≤ m.now) (.reservationExpired 0 expiresAt)
  revertIf (c.exposure.nonceUsed id approvalNonce = true) (.nonceUsed id approvalNonce)
  let ev ← c.evaluateDraw reg id m.now
  revertIf (ev.availableDraw < amount) (.insufficientHeadroom amount ev.availableDraw)
  let rid := d.reservationId id approvalNonce
  let reserved ← addW 256 (c.exposure.reserved id) amount
  return (rid, { c with exposure := { c.exposure with
    nonceUsed := set2 c.exposure.nonceUsed id approvalNonce true
    reservations := Function.update c.exposure.reservations rid
      { facilityId := id, amount := amount, approvalNonce := approvalNonce,
        expiresAt := expiresAt, policyVersionId := a.policyVersionId,
        authorizationEpoch := a.epoch, state := .active }
    reserved := Function.update c.exposure.reserved id reserved } })

/-- `consumeReservation`, called by a manager. The draw is re-evaluated without this
reservation and recorded on the ledger by the controller. -/
def consumeReservation (d : Deployment) (reg : Registries) (m : Msg) (rid : Bytes32)
    (c : Credit) : Except Revert Credit := do
  revertIf (c.exposure.isManager m.sender = false) (.notManager m.sender)
  let r := c.exposure.reservations rid
  revertIf (r.state ≠ .active) (.reservationNotActive rid r.state)
  revertIf (m.now ≥ r.expiresAt) (.reservationExpired rid r.expiresAt)
  let a := c.exposure.auth r.facilityId
  revertIf (a.epoch ≠ r.authorizationEpoch) (.reservationInvalidated rid "authorization changed")
  revertIf (reg.isCurrent r.policyVersionId = false) (.reservationInvalidated rid "policy changed")
  let p ← reg.params a.policyVersionId
  let usable ← Exposure.controlUsable reg a p m.now
  revertIf (usable = false) (.reservationInvalidated rid "control changed")
  let reserved ← subW (c.exposure.reserved r.facilityId) r.amount
  let c := { c with exposure := { c.exposure with
    reservations := Function.update c.exposure.reservations rid { r with state := .consumed }
    reserved := Function.update c.exposure.reserved r.facilityId reserved } }
  let ev ← c.evaluateDraw reg r.facilityId m.now
  revertIf (ev.evidenceValidUntil ≤ m.now ∨ ev.availableDraw < r.amount)
    (.insufficientHeadroom r.amount ev.availableDraw)
  let ledger ← c.pool.ledger.recordDraw (m.calledBy d.exposure) r.facilityId r.amount
  return { c with pool := { c.pool with ledger := ledger } }

/-- `_release`. -/
def releaseReservation (rid : Bytes32) (next : ReservationState) (c : Credit) :
    Except Revert Credit := do
  let r := c.exposure.reservations rid
  revertIf (r.state ≠ .active) (.reservationNotActive rid r.state)
  let reserved ← subW (c.exposure.reserved r.facilityId) r.amount
  return { c with exposure := { c.exposure with
    reservations := Function.update c.exposure.reservations rid { r with state := next }
    reserved := Function.update c.exposure.reserved r.facilityId reserved } }

/-- `cancelReservation`. -/
def cancelReservation (m : Msg) (rid : Bytes32) (c : Credit) : Except Revert Credit := do
  revertIf (c.exposure.isManager m.sender = false ∧ m.hasRole .underwriter m.sender = false)
    (.notManager m.sender)
  c.releaseReservation rid .cancelled

/-- `expireReservation`. -/
def expireReservation (m : Msg) (rid : Bytes32) (c : Credit) : Except Revert Credit := do
  let r := c.exposure.reservations rid
  revertIf (r.state = .active ∧ m.now < r.expiresAt)
    (.reservationInvalidated rid "not yet expired")
  c.releaseReservation rid .expired

end Credit

end Rackline
