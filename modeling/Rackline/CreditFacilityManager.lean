import Rackline.ExposureController

/-!
# `Rackline.CreditFacilityManager`: facility lifecycle, draws and repayments

`CreditFacilityManager.sol`. The facility state lives here; `setFacilityState` is the one
internal function that writes it. Four entries reach it: `transition`, with the authority of
the table; `freezeDraws`; the repayment paths and `syncRepaid`, on a debt of zero; and
`recoveryTransition`, for the bound recovery manager.

A draw is reserved and consumed at the controller, which records it on the ledger, and lent by
the vault to the linked wallet. A repayment is pulled into the vault, split by the ledger and
reported to the vault.
-/

set_option autoImplicit false

namespace Rackline

open Evm

/-- `isTransitionAllowed`. -/
def isTransitionAllowed (source target : FacilityState) : Bool :=
  match source with
  | .draft => target == .underReview
  | .underReview => target == .controlPending
  | .controlPending => target == .active
  | .active => target == .drawFrozen || target == .delinquent || target == .repaid
  | .drawFrozen => target == .active || target == .delinquent
  | .delinquent => target == .active || target == .defaulted
  | .defaulted => target == .recovery
  | .recovery => target == .repaid || target == .closedWithLoss
  | .repaid => target == .released
  | .released => false
  | .closedWithLoss => false

namespace Credit

/-- `_hasAuthority`: who may make the transition through `transition`. -/
def hasAuthority (d : Deployment) (m : Msg) (source target : FacilityState) (c : Credit) : Bool :=
  if source = .draft then m.hasRole .registrar m.sender
  else if source = .underReview then m.hasRole .underwriter m.sender
  else if source = .controlPending then
    m.hasRole .underwriter m.sender || m.hasRole .servicer m.sender
  else if target = .drawFrozen then m.hasRole .guardian m.sender
  else if source = .drawFrozen ∧ target = .active then m.hasRole .underwriter m.sender
  else if target = .delinquent ∨ (source = .delinquent ∧ target = .active) then
    decide (m.sender = d.manager)
  else if target = .defaulted then decide (m.sender = c.manager.recoveryManager)
  else if target = .recovery then m.hasRole .servicer m.sender
  else if target = .closedWithLoss then decide (m.sender = c.manager.recoveryManager)
  else if target = .repaid then decide (m.sender = d.manager)
  else if target = .released then
    m.hasRole .servicer m.sender || m.hasRole .treasury m.sender
  else false

/-- `_anchorValid`. -/
def anchorValid (d : Deployment) (reg : Registries) (now : Nat) (id : FacilityId) (c : Credit) :
    Except Revert Bool :=
  let a := c.manager.anchors id
  let f := c.manager.facilities id
  if a.exists_ = false ∨ a.auth.validUntil ≤ now then .ok false
  else do
    let verifier ← Registries.read (reg.verifierOf f.providerId)
    if a.auth.manifestHash ≠ verifier.manifestHash then return false
    else if reg.isCurrent a.auth.policyVersionId = false then return false
    else return decide (a.auth.controlAgreementVersionHash =
      d.controlVersionHash f.controlAgreementId f.controlVersion)

/-- `_guard`: the conditions of the table that are computable on chain. -/
def guard (d : Deployment) (reg : Registries) (m : Msg) (id : FacilityId)
    (source target : FacilityState) (c : Credit) : Except Revert Unit := do
  let f := c.manager.facilities id
  if source = .underReview then
    let valid ← c.anchorValid d reg m.now id
    revertIf (valid = false) (.authorizationMissingOrExpired id)
    revertIf (f.controlAgreementId = 0) (.controlInsufficientOrStale id)
  if target = .active ∧ source ≠ .delinquent then
    revertIf (reg.requireUsable f.controlAgreementId f.controlVersion = false)
      (.controlInsufficientOrStale id)
  if target = .repaid ∨ target = .released then
    let debt ← c.pool.ledger.legalDebtAt id m.now
    revertIf (debt ≠ 0) (.debtOutstanding id debt)

/-- `_setState`: write the state and mirror it on the ledger. -/
def setFacilityState (d : Deployment) (m : Msg) (id : FacilityId) (target : FacilityState)
    (c : Credit) : Except Revert Credit := do
  let ledger ← c.pool.ledger.setState (m.calledBy d.manager) id target
  return { c with
    pool := { c.pool with ledger := ledger }
    manager := { c.manager with
      facilities := Function.update c.manager.facilities id
        { c.manager.facilities id with state := target } } }

/-- The modifier `exists`. -/
def requireFacility (id : FacilityId) (c : Credit) : Except Revert Unit :=
  revertIf ((c.manager.facilities id).exists_ = false) (.facilityUnknown id)

/-! ### Lifecycle -/

/-- `openFacility`. -/
def openFacility (d : Deployment) (reg : Registries) (m : Msg) (id : FacilityId)
    (borrowerId : Bytes32) (wallet : Address) (terms : Terms) (controlAgreementId : Bytes32)
    (controlVersion : Nat) (c : Credit) : Except Revert Credit := do
  revertIf (m.hasRole .underwriter m.sender = false) (.notRole .underwriter m.sender)
  revertIf (terms.loanAsset.token ≠ d.asset ∨ terms.loanAsset.chainId ≠ d.chainId)
    .loanAssetMismatch
  revertIf ((c.manager.facilities id).exists_ = true) (.facilityExists id)
  revertIf (reg.isWalletOf borrowerId wallet = false) (.walletNotLinked borrowerId wallet)
  let bf := reg.bookFacility id
  revertIf (bf.exists_ = false ∨ bf.borrowerId ≠ borrowerId) (.bookFacilityMismatch id)
  match reg.verifierOf bf.providerId with
  | none => .error (.nativeEvidenceRequired id)
  | some verifier =>
    revertIf (verifier.executionProfile ≠ terms.executionProfile)
      (.profileMismatch verifier.executionProfile terms.executionProfile)
    let agr ← Registries.read (reg.agreement controlAgreementId)
    revertIf (agr.borrowerId ≠ borrowerId ∨ agr.version ≠ controlVersion)
      (.controlAgreementMismatch controlAgreementId borrowerId)
    let ledger ← c.pool.ledger.openFacility (m.calledBy d.manager) id terms
    setFacilityState d m id .draft { c with
      pool := { c.pool with ledger := ledger }
      manager := { c.manager with
        facilities := Function.update c.manager.facilities id
          { borrowerId := borrowerId, wallet := wallet, providerId := bf.providerId,
            controlAgreementId := controlAgreementId, controlVersion := controlVersion,
            profile := terms.executionProfile, state := .draft, exists_ := true } } }

/-- `transition`. -/
def transition (d : Deployment) (reg : Registries) (m : Msg) (id : FacilityId)
    (target : FacilityState) (c : Credit) : Except Revert Credit := do
  c.requireFacility id
  let source := (c.manager.facilities id).state
  revertIf (isTransitionAllowed source target = false) (.illegalTransition source target)
  revertIf (c.hasAuthority d m source target = false)
    (.notTransitionAuthority source target m.sender)
  c.guard d reg m id source target
  c.setFacilityState d m id target

/-- `freezeDraws`. -/
def freezeDraws (d : Deployment) (m : Msg) (id : FacilityId) (c : Credit) :
    Except Revert Credit := do
  c.requireFacility id
  revertIf (m.hasRole .guardian m.sender = false) (.notRole .guardian m.sender)
  revertIf ((c.manager.facilities id).state ≠ .active)
    (.illegalTransition (c.manager.facilities id).state .drawFrozen)
  c.setFacilityState d m id .drawFrozen

/-- `pauseDraws`. -/
def pauseDraws (m : Msg) (paused : Bool) (c : Credit) : Except Revert Credit := do
  revertIf (m.hasRole .guardian m.sender = false) (.notRole .guardian m.sender)
  revertIf (paused = false ∧ c.manager.resumeApproved = false) .resumeNotApproved
  return { c with manager := { c.manager with resumeApproved := false, drawsPaused := paused } }

/-- `approveDrawResume`. -/
def approveDrawResume (m : Msg) (c : Credit) : Except Revert Credit := do
  revertIf (m.hasRole .underwriter m.sender = false) (.notRole .underwriter m.sender)
  return { c with manager := { c.manager with resumeApproved := true } }

/-- `bindRecoveryManager` of the manager. -/
def managerBindRecovery (m : Msg) (manager : Address) (c : Credit) : Except Revert Credit := do
  revertIf (m.hasRole .admin m.sender = false) (.notRole .admin m.sender)
  revertIf (c.manager.recoveryManager ≠ 0) .recoveryAlreadyBound
  revertIf (m.hasCode manager = false) .zeroAddress
  return { c with manager := { c.manager with recoveryManager := manager } }

/-- The states `syncRepaid` takes to `REPAID`. -/
def FacilityState.syncs : FacilityState → Bool
  | .active | .drawFrozen | .delinquent | .defaulted | .recovery | .closedWithLoss => true
  | .draft | .underReview | .controlPending | .repaid | .released => false

/-- `syncRepaid`. -/
def syncRepaid (d : Deployment) (m : Msg) (id : FacilityId) (c : Credit) :
    Except Revert Credit := do
  c.requireFacility id
  let debt ← c.pool.ledger.legalDebtAt id m.now
  revertIf (debt ≠ 0) (.debtOutstanding id debt)
  if FacilityState.syncs (c.manager.facilities id).state = true then
    c.setFacilityState d m id .repaid
  else
    return c

/-- `recoveryTransition`: the table, without its authorities. -/
def recoveryTransition (d : Deployment) (reg : Registries) (m : Msg) (id : FacilityId)
    (target : FacilityState) (c : Credit) : Except Revert Credit := do
  c.requireFacility id
  revertIf (m.sender ≠ c.manager.recoveryManager) (.notRecoveryManager m.sender)
  let source := (c.manager.facilities id).state
  revertIf (isTransitionAllowed source target = false) (.illegalTransition source target)
  c.guard d reg m id source target
  c.setFacilityState d m id target

/-! ### Authorization anchoring -/

/-- `_requireExposureAgrees`. -/
def requireExposureAgrees (auth : CreditAuthorization) (c : Credit) : Except Revert Unit := do
  let ea := c.exposure.auth auth.facilityId
  let f := c.manager.facilities auth.facilityId
  revertIf (ea.exists_ = false) (.exposureAuthorizationMismatch auth.facilityId "missing")
  revertIf (ea.limit ≠ auth.limit) (.exposureAuthorizationMismatch auth.facilityId "limit")
  revertIf (ea.policyVersionId ≠ auth.policyVersionId)
    (.exposureAuthorizationMismatch auth.facilityId "policy")
  revertIf (ea.controlAgreementId ≠ f.controlAgreementId ∨ ea.controlVersion ≠ f.controlVersion)
    (.exposureAuthorizationMismatch auth.facilityId "control")
  revertIf (ea.validUntil ≠ auth.validUntil)
    (.exposureAuthorizationMismatch auth.facilityId "validUntil")

/-- `anchorAuthorization`. -/
def anchorAuthorization (d : Deployment) (reg : Registries) (m : Msg)
    (auth : CreditAuthorization) (approval : SupplementaryAssertion) (c : Credit) :
    Except Revert Credit := do
  let id := auth.facilityId
  c.requireFacility id
  let f := c.manager.facilities id
  revertIf (auth.validUntil ≤ m.now) (.authorizationMissingOrExpired id)
  revertIf (reg.isCurrent auth.policyVersionId = false) (.policyStale auth.policyVersionId)
  let verifier ← Registries.read (reg.verifierOf f.providerId)
  revertIf (auth.manifestHash ≠ verifier.manifestHash)
    (.authorizationManifestMismatch verifier.manifestHash auth.manifestHash)
  revertIf (auth.controlAgreementVersionHash ≠
      d.controlVersionHash f.controlAgreementId f.controlVersion)
    (.controlInsufficientOrStale id)
  c.requireExposureAgrees auth
  revertIf (reg.verifyAndConsume approval (d.authorizationSubject auth) = false)
    .assertionRejected
  let epoch ← addW 64 (c.manager.anchors id).epoch 1
  return { c with manager := { c.manager with
    anchors := Function.update c.manager.anchors id
      { auth := auth, signer := approval.signer, epoch := epoch, anchoredAt := m.now,
        signerEpoch := approval.keyEpoch, exposureEpoch := (c.exposure.auth id).epoch,
        exists_ := true } } }

/-! ### Draws -/

/-- `_checkDrawable`. -/
def checkDrawable (d : Deployment) (reg : Registries) (m : Msg) (id : FacilityId) (c : Credit) :
    Except Revert Unit := do
  let f := c.manager.facilities id
  let a := c.manager.anchors id
  revertIf (c.manager.drawsPaused = true) .drawsArePaused
  revertIf (reg.isWalletOf f.borrowerId f.wallet = false) (.walletNotLinked f.borrowerId f.wallet)
  revertIf (f.state ≠ .active) (.facilityNotActive id f.state)
  revertIf (a.exists_ = false ∨ a.auth.validUntil ≤ m.now) (.authorizationMissingOrExpired id)
  revertIf (m.hasRole .underwriter a.signer = false ∨
      reg.isEpochValid .underwriter a.signerEpoch = false)
    (.authorizationMissingOrExpired id)
  let verifier ← Registries.read (reg.verifierOf f.providerId)
  revertIf (verifier.executionProfile ≠ f.profile)
    (.profileMismatch f.profile verifier.executionProfile)
  revertIf (f.profile ≠ .localMock ∧ verifier.verificationMethod ≠ .attestcoinNative)
    (.nativeEvidenceRequired id)
  revertIf (a.exposureEpoch ≠ (c.exposure.auth id).epoch) (.authorizationMissingOrExpired id)
  revertIf (a.auth.manifestHash ≠ verifier.manifestHash)
    (.authorizationManifestMismatch verifier.manifestHash a.auth.manifestHash)
  revertIf (reg.isCurrent a.auth.policyVersionId = false) (.policyStale a.auth.policyVersionId)
  revertIf (a.auth.controlAgreementVersionHash ≠
      d.controlVersionHash f.controlAgreementId f.controlVersion)
    (.controlInsufficientOrStale id)
  revertIf (reg.requireUsable f.controlAgreementId f.controlVersion = false)
    (.controlInsufficientOrStale id)

/-- `evaluateDraw` of the manager, which does not read its amount. -/
def managerEvaluateDraw (d : Deployment) (reg : Registries) (id : FacilityId) (now : Nat)
    (c : Credit) : Except Revert DrawEvaluation := do
  c.requireFacility id
  let e ← c.evaluateDraw reg id now
  let valid ← c.anchorValid d reg now id
  if valid = false ∨ c.manager.drawsPaused = true ∨ (c.manager.facilities id).state ≠ .active then
    return { e with availableDraw := 0 }
  else
    return e

/-- `_reserve`. -/
def reserveInternal (d : Deployment) (reg : Registries) (m : Msg) (id : FacilityId)
    (amount expiresAt : Nat) (c : Credit) : Except Revert (Bytes32 × Credit) := do
  c.requireFacility id
  revertIf (m.sender ≠ (c.manager.facilities id).wallet) (.notBorrower id m.sender)
  revertIf (amount = 0) .zeroAmount
  c.checkDrawable d reg m id
  let ev ← c.evaluateDraw reg id m.now
  revertIf (ev.eligibleReceivables = 0 ∨ ev.evidenceValidUntil ≤ m.now) (.nativeEvidenceRequired id)
  revertIf (amount > ev.availableDraw) (.exceedsAvailableDraw amount ev.availableDraw)
  let cash ← c.pool.availableCash
  revertIf (amount > cash) (.exceedsAvailableDraw amount cash)
  let nonce ← addW 64 (c.manager.drawNonce id) 1
  let (rid, c) ← reserve d reg (m.calledBy d.manager) id amount nonce expiresAt { c with
    manager := { c.manager with drawNonce := Function.update c.manager.drawNonce id nonce } }
  return (rid, { c with manager := { c.manager with
    reservationFacility := Function.update c.manager.reservationFacility rid id } })

/-- `_execute`. -/
def executeInternal (d : Deployment) (reg : Registries) (m : Msg) (rid : Bytes32)
    (minReceived : Nat) (c : Credit) : Except Revert Credit := do
  let id := c.manager.reservationFacility rid
  revertIf (id = 0) (.reservationUnknown rid)
  let wallet := (c.manager.facilities id).wallet
  revertIf (m.sender ≠ wallet) (.notBorrower id m.sender)
  c.checkDrawable d reg m id
  let amount := (c.exposure.reservations rid).amount
  let c ← c.consumeReservation d reg (m.calledBy d.manager) rid
  let before := c.pool.token.balanceOf wallet
  let pool ← c.pool.lend (m.calledBy d.manager) id wallet amount
  let received ← subW (pool.token.balanceOf wallet) before
  revertIf (received < minReceived ∨ received = 0) (.insufficientReceived minReceived received)
  -- `LEDGER.legalDebtAt`, read for the event.
  let _ ← pool.ledger.legalDebtAt id m.now
  return { c with pool := pool }

/-- `borrow`. -/
def borrow (d : Deployment) (reg : Registries) (m : Msg) (id : FacilityId)
    (amount minReceived : Nat) (c : Credit) : Except Revert Credit := do
  let expiresAt ← addW 256 m.now 1
  let (rid, c) ← c.reserveInternal d reg m id amount expiresAt
  c.executeInternal d reg m rid minReceived

/-- `reserveDraw`. -/
def reserveDraw (d : Deployment) (reg : Registries) (m : Msg) (id : FacilityId)
    (amount ttl : Nat) (c : Credit) : Except Revert (Bytes32 × Credit) := do
  revertIf (ttl = 0) .zeroAmount
  let expiresAt ← addW 64 m.now ttl
  c.reserveInternal d reg m id amount expiresAt

/-- `executeReservedDraw`. -/
def executeReservedDraw (d : Deployment) (reg : Registries) (m : Msg) (rid : Bytes32)
    (minReceived : Nat) (c : Credit) : Except Revert Credit :=
  c.executeInternal d reg m rid minReceived

/-! ### Repayments -/

/-- `RecoveryManager.observeAllocation`. -/
def observeAllocation (d : Deployment) (m : Msg) (id : FacilityId) (amount : Nat) (c : Credit) :
    Except Revert Credit := do
  revertIf (m.sender ≠ d.router ∧ m.sender ≠ d.manager) .recoveryNotRole
  let total ← addW 256 (c.recovery.totalAllocated id) amount
  return { c with recovery := { c.recovery with
    totalAllocated := Function.update c.recovery.totalAllocated id total } }

/-- The report of an allocation to the recovery manager, when one is bound. -/
def reportAllocation (d : Deployment) (m : Msg) (id : FacilityId) (amount : Nat) (c : Credit) :
    Except Revert Credit :=
  if c.manager.recoveryManager ≠ 0 then c.observeAllocation d m id amount else .ok c

/-- `_pullToVault` of the manager and the router: `caller` moves `amount` of the payer into the
vault and measures what arrived. -/
def pullToVault (caller payer : Address) (amount : Nat) (p : Pool) : Except Revert (Nat × Pool) :=
  match p.token.transferFrom caller payer p.vault.self amount with
  | none => .error .transferFailed
  | some token => do
    let received ← subW (token.balanceOf p.vault.self) p.cashBalance
    revertIf (received = 0) .transferFailed
    return (received, { p with token := token })

/-- `repayFor` of the manager. -/
def managerRepayFor (d : Deployment) (m : Msg) (id : FacilityId) (amount : Nat) (c : Credit) :
    Except Revert (RepayResult × Credit) := do
  c.requireFacility id
  revertIf (amount = 0) .zeroAmount
  let (received, pool) ← pullToVault d.manager m.sender amount c.pool
  let (r, pool) ← pool.repay (m.calledBy d.manager) id received received
  let c ← reportAllocation d (m.calledBy d.manager) id r.applied { c with pool := pool }
  if r.newDebt = 0 ∧ isTransitionAllowed (c.manager.facilities id).state .repaid = true then
    let c ← c.setFacilityState d m id .repaid
    return (r, c)
  else
    return (r, c)

/-- `claimRefund`. -/
def claimRefund (d : Deployment) (m : Msg) (id : FacilityId) (c : Credit) :
    Except Revert Credit := do
  c.requireFacility id
  let wallet := (c.manager.facilities id).wallet
  revertIf (m.sender ≠ wallet) (.notBorrower id m.sender)
  let amount := c.pool.vault.refundableOf id
  revertIf (amount = 0) (.nothingToRefund id)
  let pool ← c.pool.refundExcess (m.calledBy d.manager) id wallet amount
  return { c with pool := pool }

end Credit

end Rackline
