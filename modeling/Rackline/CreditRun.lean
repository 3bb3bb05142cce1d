import Rackline.RecoveryManager
import Rackline.PoolRun

/-!
# `Rackline.CreditRun`: runs of the whole credit protocol

A run starts in the state the deploy script leaves: the ledger takes writes from the manager,
the controller, the router and the recovery manager; the vault takes orders from the manager
and the router; the controller from the manager; the recovery manager is bound; all wiring is
finalized. From there it is any sequence of calls to any of the contracts, by any senders,
under any history of roles and registries, at times that never go back. The contracts of the
protocol start no call of their own.
-/

set_option autoImplicit false

namespace Rackline

open Evm Transition

/-- The external calls of `ExposureController` that write. -/
inductive ExposureCall
  | setManager (manager : Address) (enabled : Bool)
  | finalizeWiring
  | enrollFacility (id : FacilityId) (groupId : Bytes32)
  | setAuthorization (id : FacilityId) (limit : Nat) (policyVersionId controlAgreementId : Bytes32)
      (controlVersion validUntil : Nat)
  | reserve (id : FacilityId) (amount approvalNonce expiresAt : Nat)
  | consumeReservation (rid : Bytes32)
  | cancelReservation (rid : Bytes32)
  | expireReservation (rid : Bytes32)

/-- The external calls of `CreditFacilityManager` that write. -/
inductive ManagerCall
  | openFacility (id : FacilityId) (borrowerId : Bytes32) (wallet : Address) (terms : Terms)
      (controlAgreementId : Bytes32) (controlVersion : Nat)
  | transition (id : FacilityId) (target : FacilityState)
  | freezeDraws (id : FacilityId)
  | pauseDraws (paused : Bool)
  | approveDrawResume
  | bindRecoveryManager (manager : Address)
  | syncRepaid (id : FacilityId)
  | recoveryTransition (id : FacilityId) (target : FacilityState)
  | anchorAuthorization (auth : CreditAuthorization) (approval : SupplementaryAssertion)
  | borrow (id : FacilityId) (amount minReceived : Nat)
  | reserveDraw (id : FacilityId) (amount ttl : Nat)
  | executeReservedDraw (rid : Bytes32) (minReceived : Nat)
  | repayFor (id : FacilityId) (amount : Nat)
  | claimRefund (id : FacilityId)

/-- The external calls of `RepaymentRouter` that write. -/
inductive RouterCall
  | repayFor (id : FacilityId) (amount : Nat)
  | repayExact (id : FacilityId) (maxAmount : Nat)
  | recordDestinationReceipt (settlementId : Bytes32) (amount : Nat)
  | allocate (settlementId : Bytes32) (id : FacilityId) (amount : Nat)
  | receiveSettlement (id : FacilityId) (settlementId : Bytes32) (amount : Nat)
  | refundExcess (id : FacilityId) (dst : Address)

/-- The external calls of `RecoveryManager` that write. -/
inductive RecoveryCall
  | setSchedule (id : FacilityId) (dueAt grace disputeWindow dueAmount : Nat)
  | observeAllocation (id : FacilityId) (amount : Nat)
  | markDelinquent (id : FacilityId)
  | cure (id : FacilityId)
  | setDispute (id : FacilityId) (disputed : Bool)
  | approveDefault (id : FacilityId) (reason : Bytes32)
  | declareDefault (id : FacilityId)
  | beginRecovery (id : FacilityId)
  | fundReserve (id : FacilityId) (amount : Nat)
  | applyReserve (id : FacilityId)
  | returnReserve (id : FacilityId)
  | impair (id : FacilityId) (lossId : Bytes32) (amount : Nat)
  | reverseImpairment (id : FacilityId) (amount : Nat)
  | approveWriteOff (id : FacilityId) (lossId : Bytes32)
  | writeOff (id : FacilityId) (lossId : Bytes32)

/-- A call to one of the contracts. -/
inductive CreditCall
  | vault (c : VaultCall)
  | ledger (c : LedgerCall)
  | token (c : TokenCall)
  | exposure (c : ExposureCall)
  | manager (c : ManagerCall)
  | router (c : RouterCall)
  | recovery (c : RecoveryCall)

/-- A transaction: who calls when, what the registries answer, and the call. -/
structure Tx where
  msg : Msg
  reg : Registries
  call : CreditCall

section
variable (d : Deployment) (reg : Registries) (m : Msg) (c : Credit)

/-- Run a call of the controller, without its return value. -/
def ExposureCall.exec : ExposureCall → Except Revert Credit
  | setManager manager enabled => c.exposureSetManager m manager enabled
  | finalizeWiring => c.exposureFinalizeWiring m
  | enrollFacility id groupId => c.enrollFacility reg m id groupId
  | setAuthorization id limit policyVersionId controlAgreementId controlVersion validUntil =>
    c.setAuthorization reg m id limit policyVersionId controlAgreementId controlVersion validUntil
  | reserve id amount approvalNonce expiresAt =>
    (c.reserve d reg m id amount approvalNonce expiresAt).map (·.2)
  | consumeReservation rid => c.consumeReservation d reg m rid
  | cancelReservation rid => c.cancelReservation m rid
  | expireReservation rid => c.expireReservation m rid

/-- Run a call of the manager, without its return value. -/
def ManagerCall.exec : ManagerCall → Except Revert Credit
  | openFacility id borrowerId wallet terms controlAgreementId controlVersion =>
    c.openFacility d reg m id borrowerId wallet terms controlAgreementId controlVersion
  | transition id target => c.transition d reg m id target
  | freezeDraws id => c.freezeDraws d m id
  | pauseDraws paused => c.pauseDraws m paused
  | approveDrawResume => c.approveDrawResume m
  | bindRecoveryManager manager => c.managerBindRecovery m manager
  | syncRepaid id => c.syncRepaid d m id
  | recoveryTransition id target => c.recoveryTransition d reg m id target
  | anchorAuthorization auth approval => c.anchorAuthorization d reg m auth approval
  | borrow id amount minReceived => c.borrow d reg m id amount minReceived
  | reserveDraw id amount ttl => (c.reserveDraw d reg m id amount ttl).map (·.2)
  | executeReservedDraw rid minReceived => c.executeReservedDraw d reg m rid minReceived
  | repayFor id amount => (c.managerRepayFor d m id amount).map (·.2)
  | claimRefund id => c.claimRefund d m id

/-- Run a call of the router, without its return value. -/
def RouterCall.exec : RouterCall → Except Revert Credit
  | repayFor id amount => (c.routerRepayFor d m id amount).map (·.2)
  | repayExact id maxAmount => (c.repayExact d m id maxAmount).map (·.2)
  | recordDestinationReceipt settlementId amount =>
    c.recordDestinationReceipt d m settlementId amount
  | allocate settlementId id amount => (c.allocateSettlement d m settlementId id amount).map (·.2)
  | receiveSettlement id settlementId amount =>
    (c.receiveSettlement d m id settlementId amount).map (·.2)
  | refundExcess id dst => c.routerRefundExcess d m id dst

/-- Run a call of the recovery manager, without its return value. -/
def RecoveryCall.exec : RecoveryCall → Except Revert Credit
  | setSchedule id dueAt grace disputeWindow dueAmount =>
    c.setSchedule m id dueAt grace disputeWindow dueAmount
  | observeAllocation id amount => c.observeAllocation d m id amount
  | markDelinquent id => c.markDelinquent d reg m id
  | cure id => c.cure d reg m id
  | setDispute id disputed => c.setDispute m id disputed
  | approveDefault id reason => c.approveDefault m id reason
  | declareDefault id => c.declareDefault d reg m id
  | beginRecovery id => c.beginRecovery d reg m id
  | fundReserve id amount => c.fundReserve d m id amount
  | applyReserve id => c.applyReserve d m id
  | returnReserve id => c.returnReserve d m id
  | impair id lossId amount => c.impair d m id lossId amount
  | reverseImpairment id amount => c.recoveryReverseImpairment d m id amount
  | approveWriteOff id lossId => c.approveWriteOff m id lossId
  | writeOff id lossId => c.recoveryWriteOff d reg m id lossId

/-- Run a call of the protocol. -/
def CreditCall.exec : CreditCall → Except Revert Credit
  | vault call => (call.exec m c.pool).map fun p => { c with pool := p }
  | ledger call => (call.exec m c.pool.ledger).map fun l =>
      { c with pool := { c.pool with ledger := l } }
  | token call => (call.exec m c.pool.token).map fun t =>
      { c with pool := { c.pool with token := t } }
  | exposure call => call.exec d reg m c
  | manager call => call.exec d reg m c
  | router call => call.exec d m c
  | recovery call => call.exec d reg m c

end

/-- The ledger as the deploy script wires it. -/
def Deployment.ledger (d : Deployment) : Ledger :=
  { Ledger.initial with
    isWriter := Function.update (Function.update (Function.update (Function.update
      (fun _ => false) d.manager true) d.exposure true) d.router true) d.recovery true
    wiringFinalized := true }

/-- The vault as the deploy script wires it. -/
def Deployment.lendingVault (d : Deployment) : Vault :=
  { Vault.initial d.vault with
    isManager := Function.update (Function.update (fun _ => false) d.manager true) d.router true
    recoveryManager := d.recovery
    wiringFinalized := true }

/-- The protocol as the deploy script leaves it, on a given token. -/
def Deployment.credit (d : Deployment) (token : Token Address) : Credit where
  pool := { token := token, ledger := d.ledger, vault := d.lendingVault }
  exposure := { Exposure.initial with
    isManager := Function.update (fun _ => false) d.manager true, wiringFinalized := true }
  manager := { Manager.initial with recoveryManager := d.recovery }
  router := .initial
  recovery := .initial

/-- The protocol and the time of the last call. -/
structure CreditState where
  now : Nat
  credit : Credit

/-- A fresh deployment on an arbitrary token that the vault has approved nobody for. -/
def CreditState.Initial (d : Deployment) (s : CreditState) : Prop :=
  ∃ token : Token Address, (∀ spender, token.allowance d.vault spender = 0) ∧
    s.credit = d.credit token

/-- One successful transaction, at a time that is not before the last one, by a sender that is
not one of the contracts. -/
def CreditStep (d : Deployment) (s : CreditState) (tx : Tx) (s' : CreditState) : Prop :=
  s.now ≤ tx.msg.now ∧ tx.msg.sender ∉ d.contracts ∧
    tx.call.exec d tx.reg tx.msg s.credit = .ok s'.credit ∧ s'.now = tx.msg.now

/-- The states of any run of the protocol. -/
def CreditReachable (d : Deployment) : CreditState → Prop :=
  Reachable (CreditState.Initial d) (CreditStep d)

/-- Run a list of transactions. One out of time order or from a contract is not made, and the
run stops. -/
def CreditState.run (d : Deployment) (s : CreditState) : List Tx → Except Revert CreditState
  | [] => .ok s
  | tx :: rest =>
    if s.now ≤ tx.msg.now ∧ tx.msg.sender ∉ d.contracts then do
      let c ← tx.call.exec d tx.reg tx.msg s.credit
      run d { now := tx.msg.now, credit := c } rest
    else .error .panic

theorem CreditState.run_steps {d : Deployment} : ∀ {txs : List Tx} {s s' : CreditState},
    s.run d txs = .ok s' → Steps (CreditStep d) s txs s' := by
  intro txs
  induction txs with
  | nil =>
    intro s s' h
    cases h
    exact .nil s
  | cons tx rest ih =>
    intro s s' h
    unfold run at h
    split at h
    · rename_i hc
      obtain ⟨c, hexec, h⟩ := bind_eq_ok.mp h
      exact .cons ⟨hc.1, hc.2, hexec, rfl⟩ (ih h)
    · cases h

/-- A run goes on from where its first part ended. -/
theorem CreditState.run_append {d : Deployment} : ∀ {as bs : List Tx} {s t : CreditState},
    s.run d as = .ok t → s.run d (as ++ bs) = t.run d bs := by
  intro as
  induction as with
  | nil =>
    intro bs s t h
    cases h
    rfl
  | cons tx rest ih =>
    intro bs s t h
    unfold run at h
    split at h
    · rename_i hc
      obtain ⟨c, hexec, h⟩ := bind_eq_ok.mp h
      rw [List.cons_append, run, if_pos hc, hexec, ok_bind]
      exact ih h
    · cases h

/-- The last transaction of a run that returned. -/
theorem CreditState.run_last {d : Deployment} {as : List Tx} {tx : Tx} {s t u : CreditState}
    (h : s.run d as = .ok t) (h' : s.run d (as ++ [tx]) = .ok u) :
    StepOf (CreditStep d) s (as ++ [tx]) t tx u := by
  rw [run_append h] at h'
  refine ⟨as, [], rfl, run_steps h, ?_⟩
  cases run_steps h' with
  | cons hstep hnil =>
    cases hnil
    exact hstep

/-- A run that returned, and a view of where it ended. -/
theorem CreditState.run_view {α : Type} (d : Deployment) (s : CreditState) (txs : List Tx)
    (view : CreditState → α) {v : α} (h : ((s.run d txs).map view).toOption = some v) :
    ∃ s', s.run d txs = .ok s' ∧ view s' = v :=
  map_eq_ok.mp (toOption_eq_some.mp h)

/-- Every state that the run of a list of transactions comes through passes the check. -/
def CreditState.along (d : Deployment) (check : CreditState → Bool) (s : CreditState) :
    List Tx → Bool
  | [] => true
  | tx :: rest =>
    match tx.call.exec d tx.reg tx.msg s.credit with
    | .error _ => true
    | .ok c => check { now := tx.msg.now, credit := c } &&
        along d check { now := tx.msg.now, credit := c } rest

/-- A run that passes a check at each of its states is a run of the restricted system. -/
theorem CreditState.run_along {d : Deployment} (check : CreditState → Bool) :
    ∀ {txs : List Tx} {s s' : CreditState}, s.run d txs = .ok s' →
      s.along d check txs = true →
      Steps (fun s tx s' => CreditStep d s tx s' ∧ check s' = true) s txs s' := by
  intro txs
  induction txs with
  | nil =>
    intro s s' h _
    cases h
    exact .nil s
  | cons tx rest ih =>
    intro s s' h hcheck
    unfold run at h
    split at h
    · rename_i hc
      obtain ⟨c, hexec, h⟩ := bind_eq_ok.mp h
      simp only [along, hexec, Bool.and_eq_true] at hcheck
      exact .cons ⟨⟨hc.1, hc.2, hexec, rfl⟩, hcheck.1⟩ (ih h hcheck.2)
    · cases h

/-! ### A deployment to evaluate runs on -/

namespace Sample

/-- The contracts at the addresses 1, 2, 3, 4 and 6. -/
def protocol : Deployment where
  chainId := 1
  asset := 20
  vault := 1
  exposure := 2
  manager := 3
  router := 4
  recovery := 6
  routerHasFacilities := true
  controlVersionHash := fun _ version => Fin.ofNat (2 ^ 256) version
  authorizationSubject := fun auth => auth.decisionHash
  reservationId := fun _ nonce => Fin.ofNat (2 ^ 256) nonce
  nodup := by decide +kernel
  nonzero := by decide +kernel

/-- Three funded accounts that have approved the vault, the manager, the router and the recovery
manager. -/
def fundedToken : Token Address where
  balanceOf a := if a = 7 ∨ a = 8 ∨ a = 9 then 10 ^ 9 else 0
  allowance owner spender :=
    if (owner = 7 ∨ owner = 8 ∨ owner = 9) ∧
      (spender = 1 ∨ spender = 3 ∨ spender = 4 ∨ spender = 6) then 10 ^ 9 else 0
  bounded := token.bounded

/-- The protocol before any call. -/
def creditDeployment : CreditState := { now := 0, credit := protocol.credit fundedToken }

theorem creditDeployment_initial : creditDeployment.Initial protocol := by
  refine ⟨fundedToken, fun spender => ?_, rfl⟩
  have hself : ¬((1 : Address) = 7 ∨ (1 : Address) = 8 ∨ (1 : Address) = 9) := by decide
  simp only [protocol, fundedToken, hself, false_and, if_false]

/-- Registries that know one borrower with plenty of receivables and a usable agreement. -/
def registries : Registries where
  isWalletOf := fun _ _ => true
  bookFacility := fun _ =>
    { borrowerId := 1, providerId := 1, sourceAsset := { chainId := 1, token := 20, decimals := 6 },
      exists_ := true }
  eligibleUnpaid := fun _ _ _ _ now => some (10 ^ 6, now + 1000, 0)
  verifierOf := fun _ => some
    { executionProfile := .localMock, verificationMethod := .localMock, manifestHash := 1 }
  agreement := fun _ => some { borrowerId := 1, version := 1, grade := .e2 }
  isEffective := fun _ _ _ => true
  isFresh := fun _ _ => true
  requireUsable := fun _ _ => true
  policyParams := fun _ => some
    { advanceRateBps := 8000, overdueHaircutBps := 0, concentrationHaircutBps := 0,
      collectabilityHaircutBps := 0, checkpointMaxAge := 1000, controlObservationMaxAge := 1000,
      perBorrowerCap := 10 ^ 6, perGroupCap := 10 ^ 6, perProviderCap := 10 ^ 6,
      globalCap := 10 ^ 6, checkpointToleranceBps := 0 }
  currentPolicy := 1
  isEpochValid := fun _ _ => true
  verifyAndConsume := fun _ _ => true

/-- A call by `sender` at `now`. Account 7 and the recovery manager have the roles. -/
def tx (sender : Address) (now : Nat) (call : CreditCall) : Tx :=
  { msg := { sender := sender, now := now, hasRole := fun _ a => decide (a = 7 ∨ a = 6),
             hasCode := fun _ => true }
    reg := registries
    call := call }

/-- A signed authorization for facility 5. -/
def authorization : CreditAuthorization :=
  { facilityId := 5, decisionHash := 1, limit := 10 ^ 6, validUntil := 10 ^ 9,
    policyVersionId := 1, manifestHash := 1, controlAgreementVersionHash := 1 }

/-- Terms on the loan asset of the deployment. -/
def loanTerms : Terms :=
  { terms with loanAsset := { chainId := 1, token := 20, decimals := 6 } }

/-- Account 8 funds the vault with `deposit`; facility 5 of wallet 9 is opened, authorized and
activated, and draws `amount`. -/
def activeFacility (deposit amount : Nat) : List Tx :=
  [tx 8 10 (.vault (.deposit deposit 0)),
    tx 7 10 (.manager (.openFacility 5 1 9 loanTerms 1 1)),
    tx 7 10 (.exposure (.enrollFacility 5 0)),
    tx 7 10 (.exposure (.setAuthorization 5 (10 ^ 6) 1 1 1 (10 ^ 9))),
    tx 7 10 (.manager (.anchorAuthorization authorization { signer := 7, keyEpoch := 1 })),
    tx 7 10 (.manager (.transition 5 .underReview)),
    tx 7 10 (.manager (.transition 5 .controlPending)),
    tx 7 10 (.manager (.transition 5 .active)),
    tx 9 10 (.manager (.borrow 5 amount 0))]

end Sample

end Rackline
