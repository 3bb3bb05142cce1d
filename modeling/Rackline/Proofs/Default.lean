import Rackline.Proofs.ClosedFacility

/-!
# `Rackline.Proofs.Default`: how a facility defaults

A default takes two roles: an underwriter approves it and a guardian declares it, both on an
installment that is unpaid, past its grace and undisputed. Between the two calls anything can
happen. What ties them together is the flag `defaultApproved`: a dispute, a cure and the
declaration itself clear it, and a facility leaves `DELINQUENT` for `ACTIVE` by a cure only.
So a flag that is still set was set in this very episode of delinquency.

The result is about the history of a run: the declaration finds the approval among the
transactions made before it, with `DELINQUENT` states and no dispute or cure in between.
-/

set_option autoImplicit false

namespace Rackline

open Evm Transition

namespace Credit

variable {d : Deployment} {reg : Registries} {m : Msg} {now : Nat} {c c' c'' : Credit}
  {id i : FacilityId}

/-! ### The approval flag -/

/-- `_schedules[id].defaultApproved`. -/
def approvedAt (c : Credit) (id : FacilityId) : Bool := (c.recovery.schedules id).defaultApproved

/-- The call leaves every approval as it is. -/
def KeepsApprovals (c c' : Credit) : Prop := ∀ id, c'.approvedAt id = c.approvedAt id

theorem KeepsApprovals.of_schedules (h : c'.recovery.schedules = c.recovery.schedules) :
    KeepsApprovals c c' := by
  intro id
  rw [approvedAt, approvedAt, h]

theorem KeepsApprovals.trans (h : KeepsApprovals c c') (h' : KeepsApprovals c' c'') :
    KeepsApprovals c c'' :=
  fun id => (h' id).trans (h id)

/-- A write to one schedule that keeps its flag. -/
theorem setScheduleOf_keeps {s : Schedule} (h : s.defaultApproved = c.approvedAt i) :
    KeepsApprovals c (c.setScheduleOf i s) := by
  intro id
  by_cases hid : id = i
  · subst hid
    simpa [approvedAt, setScheduleOf] using h
  · simp [approvedAt, setScheduleOf, Function.update_of_ne hid]

/-- A write to one schedule leaves the flags of the others. -/
theorem setScheduleOf_approvedAt (s : Schedule) (id : FacilityId) :
    (c.setScheduleOf i s).approvedAt id =
      if id = i then s.defaultApproved else c.approvedAt id := by
  by_cases hid : id = i
  · subst hid
    simp [approvedAt, setScheduleOf]
  · simp [approvedAt, setScheduleOf, hid]

theorem setFacilityState_recovery {target : FacilityState}
    (h : c.setFacilityState d m id target = .ok c') : c'.recovery = c.recovery := by
  obtain ⟨l, -, rfl⟩ := setFacilityState_ok h
  rfl

theorem recoveryTransition_recovery {target : FacilityState}
    (h : c.recoveryTransition d reg m id target = .ok c') : c'.recovery = c.recovery :=
  setFacilityState_recovery (recoveryTransition_ok h).2.2

theorem syncRepaid_recovery (h : c.syncRepaid d m id = .ok c') : c'.recovery = c.recovery := by
  obtain ⟨-, rfl | hset⟩ := syncRepaid_ok h
  · rfl
  · exact setFacilityState_recovery hset

theorem executeInternal_recovery {rid : Bytes32} {minReceived : Nat}
    (h : c.executeInternal d reg m rid minReceived = .ok c') : c'.recovery = c.recovery := by
  unfold executeInternal at h
  obtain ⟨_, -, h⟩ := bind_eq_ok.mp h
  obtain ⟨_, -, h⟩ := bind_eq_ok.mp h
  obtain ⟨_, -, h⟩ := bind_eq_ok.mp h
  obtain ⟨q, hq, h⟩ := bind_eq_ok.mp h
  obtain ⟨-, -, _, _, -, rfl⟩ := consumeReservation_ok hq
  obtain ⟨pool, -, h⟩ := bind_eq_ok.mp h
  obtain ⟨_, -, h⟩ := bind_eq_ok.mp h
  obtain ⟨_, -, h⟩ := bind_eq_ok.mp h
  obtain ⟨_, -, h⟩ := bind_eq_ok.mp h
  obtain rfl := pure_eq_ok.mp h
  rfl

theorem reserveInternal_recovery {amount expiresAt : Nat} {rid : Bytes32}
    (h : c.reserveInternal d reg m id amount expiresAt = .ok (rid, c')) :
    c'.recovery = c.recovery := by
  unfold reserveInternal at h
  obtain ⟨_, -, h⟩ := bind_eq_ok.mp h
  obtain ⟨_, -, h⟩ := bind_eq_ok.mp h
  obtain ⟨_, -, h⟩ := bind_eq_ok.mp h
  obtain ⟨_, -, h⟩ := bind_eq_ok.mp h
  obtain ⟨_, -, h⟩ := bind_eq_ok.mp h
  obtain ⟨_, -, h⟩ := bind_eq_ok.mp h
  obtain ⟨_, -, h⟩ := bind_eq_ok.mp h
  obtain ⟨_, -, h⟩ := bind_eq_ok.mp h
  obtain ⟨_, -, h⟩ := bind_eq_ok.mp h
  obtain ⟨_, -, h⟩ := bind_eq_ok.mp h
  obtain ⟨⟨rid', q⟩, hq, h⟩ := bind_eq_ok.mp h
  obtain ⟨_, _, _, -, rfl⟩ := reserve_ok hq
  have hres := pure_eq_ok.mp h
  simp only [Prod.mk.injEq] at hres
  obtain ⟨rfl, rfl⟩ := hres
  rfl

theorem releaseReservation_frame {rid : Bytes32} {next : ReservationState}
    (h : c.releaseReservation rid next = .ok c') :
    c'.recovery = c.recovery ∧ c'.manager = c.manager ∧ c'.pool.vault = c.pool.vault := by
  unfold releaseReservation at h
  obtain ⟨_, -, h⟩ := bind_eq_ok.mp h
  obtain ⟨_, -, h⟩ := bind_eq_ok.mp h
  obtain rfl := pure_eq_ok.mp h
  exact ⟨rfl, rfl, rfl⟩

theorem reportAllocation_schedules {amount : Nat} (h : c.reportAllocation d m id amount = .ok c') :
    c'.recovery.schedules = c.recovery.schedules := by
  unfold reportAllocation at h
  split at h
  · unfold observeAllocation at h
    obtain ⟨_, -, h⟩ := bind_eq_ok.mp h
    obtain ⟨_, -, h⟩ := bind_eq_ok.mp h
    obtain rfl := pure_eq_ok.mp h
    rfl
  · cases h
    rfl

theorem managerRepayFor_schedules {amount : Nat} {r : RepayResult}
    (h : c.managerRepayFor d m id amount = .ok (r, c')) :
    c'.recovery.schedules = c.recovery.schedules := by
  unfold managerRepayFor at h
  obtain ⟨_, -, h⟩ := bind_eq_ok.mp h
  obtain ⟨_, -, h⟩ := bind_eq_ok.mp h
  obtain ⟨_, -, h⟩ := bind_eq_ok.mp h
  obtain ⟨⟨r', p₁⟩, -, h⟩ := bind_eq_ok.mp h
  obtain ⟨c₁, hobs, h⟩ := bind_eq_ok.mp h
  have hkeeps := reportAllocation_schedules hobs
  split at h
  · obtain ⟨c₂, hset, h⟩ := bind_eq_ok.mp h
    have hres := pure_eq_ok.mp h
    simp only [Prod.mk.injEq] at hres
    obtain ⟨rfl, rfl⟩ := hres
    rw [setFacilityState_recovery hset]
    exact hkeeps
  · have hres := pure_eq_ok.mp h
    simp only [Prod.mk.injEq] at hres
    obtain ⟨rfl, rfl⟩ := hres
    exact hkeeps

theorem applyReceived_schedules {requested got : Nat} {r : RepayResult}
    (h : applyReceived d m id requested got c = .ok (r, c')) :
    c'.recovery.schedules = c.recovery.schedules := by
  unfold applyReceived at h
  obtain ⟨⟨r', p₁⟩, -, h⟩ := bind_eq_ok.mp h
  dsimp only at h
  split at h
  · obtain ⟨c₁, hobs, h⟩ := bind_eq_ok.mp h
    have hkeeps := reportAllocation_schedules hobs
    split at h
    · obtain ⟨c₂, hsync, h⟩ := bind_eq_ok.mp h
      have hres := pure_eq_ok.mp h
      simp only [Prod.mk.injEq] at hres
      obtain ⟨rfl, rfl⟩ := hres
      rw [syncRepaid_recovery hsync]
      exact hkeeps
    · have hres := pure_eq_ok.mp h
      simp only [Prod.mk.injEq] at hres
      obtain ⟨rfl, rfl⟩ := hres
      exact hkeeps
  · have hres := pure_eq_ok.mp h
    simp only [Prod.mk.injEq] at hres
    obtain ⟨rfl, rfl⟩ := hres
    rfl

theorem routerRepayFor_schedules {amount : Nat} {r : RepayResult}
    (h : c.routerRepayFor d m id amount = .ok (r, c')) :
    c'.recovery.schedules = c.recovery.schedules := by
  unfold routerRepayFor at h
  obtain ⟨_, -, h⟩ := bind_eq_ok.mp h
  obtain ⟨_, -, h⟩ := bind_eq_ok.mp h
  obtain ⟨⟨got, q⟩, -, h⟩ := bind_eq_ok.mp h
  exact applyReceived_schedules (c := { c with pool := q }) h

theorem repayExact_schedules {maxAmount : Nat} {r : RepayResult}
    (h : c.repayExact d m id maxAmount = .ok (r, c')) :
    c'.recovery.schedules = c.recovery.schedules := by
  unfold repayExact at h
  obtain ⟨_, -, h⟩ := bind_eq_ok.mp h
  obtain ⟨_, -, h⟩ := bind_eq_ok.mp h
  obtain ⟨⟨got, q⟩, -, h⟩ := bind_eq_ok.mp h
  exact applyReceived_schedules (c := { c with pool := q }) h

theorem recordReceipt_schedules {settlementId : Bytes32} {amount got : Nat}
    (h : c.recordReceipt d m settlementId amount = .ok (got, c')) :
    c'.recovery.schedules = c.recovery.schedules := by
  obtain ⟨token, router, -, rfl⟩ := recordReceipt_ok h
  rfl

theorem allocateFromReceipt_schedules {settlementId : Bytes32} {amount : Nat} {r : RepayResult}
    (h : c.allocateFromReceipt d m settlementId id amount = .ok (r, c')) :
    c'.recovery.schedules = c.recovery.schedules := by
  unfold allocateFromReceipt at h
  obtain ⟨_, -, h⟩ := bind_eq_ok.mp h
  obtain ⟨_, -, h⟩ := bind_eq_ok.mp h
  obtain ⟨_, -, h⟩ := bind_eq_ok.mp h
  obtain ⟨_, -, h⟩ := bind_eq_ok.mp h
  obtain ⟨_, -, h⟩ := bind_eq_ok.mp h
  obtain ⟨⟨got, q⟩, -, h⟩ := bind_eq_ok.mp h
  have hschedules := applyReceived_schedules (c := { c with pool := q, router := _ }) h
  exact hschedules

/-- The reserve's schedule write keeps the flag. -/
theorem applyReserveInternal_keeps (h : c.applyReserveInternal d m id = .ok c') :
    KeepsApprovals c c' := by
  unfold applyReserveInternal at h
  obtain ⟨_, -, h⟩ := bind_eq_ok.mp h
  obtain ⟨_, -, h⟩ := bind_eq_ok.mp h
  obtain ⟨debt, -, h⟩ := bind_eq_ok.mp h
  dsimp only at h
  generalize (if (c.recovery.schedules id).pledgedReserve < debt then
    (c.recovery.schedules id).pledgedReserve else debt) = amount at h
  split at h
  · obtain rfl := pure_eq_ok.mp h
    exact fun _ => rfl
  · obtain ⟨⟨r, c₁⟩, hrepay, h⟩ := bind_eq_ok.mp h
    obtain rfl := pure_eq_ok.mp h
    intro i
    have hrep := KeepsApprovals.of_schedules (repayExact_schedules hrepay) i
    have hsched := setScheduleOf_keeps (c := c) (i := id) (s := { c.recovery.schedules id with
      pledgedReserve := (c.recovery.schedules id).pledgedReserve - amount }) rfl i
    exact hrep.trans hsched

theorem recoveryWriteOff_keeps {lossId : Bytes32}
    (h : c.recoveryWriteOff d reg m id lossId = .ok c') : KeepsApprovals c c' := by
  unfold recoveryWriteOff at h
  obtain ⟨_, -, h⟩ := bind_eq_ok.mp h
  obtain ⟨_, -, h⟩ := bind_eq_ok.mp h
  obtain ⟨_, -, h⟩ := bind_eq_ok.mp h
  obtain ⟨c₁, hreserve, h⟩ := bind_eq_ok.mp h
  have hkeeps := applyReserveInternal_keeps hreserve
  obtain ⟨debt, -, h⟩ := bind_eq_ok.mp h
  split at h
  · exact hkeeps.trans (.of_schedules (by rw [syncRepaid_recovery h]))
  · obtain ⟨pool, -, h⟩ := bind_eq_ok.mp h
    have hmark := setScheduleOf_keeps (c := c₁) (i := id)
      (s := { c₁.recovery.schedules id with writtenOff := true }) rfl
    intro i
    rw [approvedAt, recoveryTransition_recovery h]
    exact (hmark i).trans (hkeeps i)

/-! ### When a default is due -/

/-- The installment of a delinquent facility is unpaid, past its grace and past the dispute
window, and no dispute is open. -/
structure DefaultDue (now : Nat) (id : FacilityId) (c : Credit) : Prop where
  grace : (c.recovery.schedules id).dueAt + (c.recovery.schedules id).graceSeconds < now
  window : (c.recovery.schedules id).disputeUntil < now
  undisputed : (c.recovery.schedules id).disputed = false
  unpaid : c.installmentPaid id now = .ok false
  delinquent : (c.manager.facilities id).state = .delinquent

theorem requireDefaultDue_ok {u : Unit} (h : c.requireDefaultDue m id = .ok u) :
    DefaultDue m.now id c := by
  unfold requireDefaultDue at h
  obtain ⟨_, -, h⟩ := bind_eq_ok.mp h
  obtain ⟨graceEnd, hgrace, h⟩ := bind_eq_ok.mp h
  obtain ⟨_, hpast, h⟩ := bind_eq_ok.mp h
  obtain ⟨paid, hpaid, h⟩ := bind_eq_ok.mp h
  obtain ⟨_, hunpaid, h⟩ := bind_eq_ok.mp h
  obtain ⟨_, hdispute, h⟩ := bind_eq_ok.mp h
  obtain ⟨state, hstate, hlast⟩ := bind_eq_ok.mp h
  obtain ⟨-, rfl⟩ := addW_eq_ok.mp hgrace
  have hpast := revertIf_eq_ok.mp hpast
  have hdispute := not_or.mp (revertIf_eq_ok.mp hdispute)
  have hunpaid : paid = false := by simpa using revertIf_eq_ok.mp hunpaid
  unfold stateOf at hstate
  obtain ⟨_, -, hstate⟩ := bind_eq_ok.mp hstate
  have hdel : state = .delinquent := Classical.not_not.mp (revertIf_eq_ok.mp hlast)
  exact ⟨Nat.lt_of_not_le hpast, Nat.lt_of_not_le hdispute.2, by simpa using hdispute.1,
    hunpaid ▸ hpaid, (pure_eq_ok.mp hstate).trans hdel⟩

theorem approveDefault_ok {reason : Bytes32} (h : c.approveDefault m id reason = .ok c') :
    m.hasRole .underwriter m.sender = true ∧ DefaultDue m.now id c := by
  unfold approveDefault at h
  obtain ⟨_, hrole, h⟩ := bind_eq_ok.mp h
  obtain ⟨_, hdue, -⟩ := bind_eq_ok.mp h
  exact ⟨by simpa using revertIf_eq_ok.mp hrole, requireDefaultDue_ok hdue⟩

theorem declareDefault_ok (h : c.declareDefault d reg m id = .ok c') :
    DefaultDue m.now id c ∧ c.approvedAt id = true ∧ c'.approvedAt id = false ∧
      ∀ i, i ≠ id → c'.approvedAt i = c.approvedAt i := by
  unfold declareDefault at h
  obtain ⟨_, -, h⟩ := bind_eq_ok.mp h
  obtain ⟨_, hdue, h⟩ := bind_eq_ok.mp h
  obtain ⟨_, happ, h⟩ := bind_eq_ok.mp h
  obtain ⟨c₁, htrans, h⟩ := bind_eq_ok.mp h
  obtain ⟨l, -, h⟩ := bind_eq_ok.mp h
  obtain rfl := pure_eq_ok.mp h
  have hrec : c₁.recovery = _ := recoveryTransition_recovery htrans
  have hkeeps : ∀ i, c₁.approvedAt i = if i = id then false else c.approvedAt i := by
    intro i
    rw [approvedAt, hrec]
    exact setScheduleOf_approvedAt _ i
  have happ : (c.recovery.schedules id).defaultApproved = true := by
    simpa using revertIf_eq_ok.mp happ
  refine ⟨requireDefaultDue_ok hdue, happ, ?_, fun i hi => ?_⟩
  · exact (hkeeps id).trans (if_pos rfl)
  · exact (hkeeps i).trans (if_neg hi)

theorem cure_approvedAt (h : c.cure d reg m id = .ok c') :
    c'.approvedAt id = false ∧ ∀ i, i ≠ id → c'.approvedAt i = c.approvedAt i := by
  unfold cure at h
  obtain ⟨_, -, h⟩ := bind_eq_ok.mp h
  obtain ⟨_, -, h⟩ := bind_eq_ok.mp h
  obtain ⟨debt, -, h⟩ := bind_eq_ok.mp h
  obtain ⟨c₁, hc₁, h⟩ := bind_eq_ok.mp h
  obtain rfl := pure_eq_ok.mp h
  have hrec : c₁.recovery = c.recovery := by
    unfold cureState at hc₁
    split at hc₁
    · exact syncRepaid_recovery hc₁
    · exact recoveryTransition_recovery hc₁
  refine ⟨(setScheduleOf_approvedAt _ id).trans (if_pos rfl), fun i hi => ?_⟩
  rw [setScheduleOf_approvedAt, if_neg hi, approvedAt, hrec]
  rfl

end Credit

open Credit

/-- The calls that withdraw the approval of a default: a dispute and a cure. -/
def WithdrawsApproval (id : FacilityId) (call : CreditCall) : Prop :=
  call = .recovery (.setDispute id true) ∨ call = .recovery (.cure id)

section
variable {d : Deployment} {reg : Registries} {m : Msg} {c c' : Credit} {id : FacilityId}

/-- The controller writes its own storage and the ledger. -/
theorem ExposureCall.exec_frame {call : ExposureCall} (h : call.exec d reg m c = .ok c') :
    c'.recovery = c.recovery ∧ c'.manager = c.manager ∧ c'.pool.vault = c.pool.vault := by
  cases call with
  | setManager manager enabled =>
    simp only [ExposureCall.exec, exposureSetManager] at h
    obtain ⟨_, -, h⟩ := bind_eq_ok.mp h
    obtain ⟨_, -, h⟩ := bind_eq_ok.mp h
    obtain ⟨_, -, h⟩ := bind_eq_ok.mp h
    obtain rfl := pure_eq_ok.mp h
    exact ⟨rfl, rfl, rfl⟩
  | finalizeWiring =>
    simp only [ExposureCall.exec, exposureFinalizeWiring] at h
    obtain ⟨_, -, h⟩ := bind_eq_ok.mp h
    obtain ⟨_, -, h⟩ := bind_eq_ok.mp h
    obtain rfl := pure_eq_ok.mp h
    exact ⟨rfl, rfl, rfl⟩
  | enrollFacility id groupId =>
    simp only [ExposureCall.exec, Credit.enrollFacility] at h
    obtain ⟨_, -, h⟩ := bind_eq_ok.mp h
    obtain ⟨_, -, h⟩ := bind_eq_ok.mp h
    obtain ⟨_, -, h⟩ := bind_eq_ok.mp h
    obtain ⟨_, -, h⟩ := bind_eq_ok.mp h
    obtain ⟨_, -, h⟩ := bind_eq_ok.mp h
    obtain rfl := pure_eq_ok.mp h
    exact ⟨rfl, rfl, rfl⟩
  | setAuthorization id limit policy agreement version validUntil =>
    simp only [ExposureCall.exec, Credit.setAuthorization] at h
    obtain ⟨_, -, h⟩ := bind_eq_ok.mp h
    obtain ⟨_, -, h⟩ := bind_eq_ok.mp h
    obtain ⟨_, -, h⟩ := bind_eq_ok.mp h
    obtain ⟨_, -, h⟩ := bind_eq_ok.mp h
    obtain ⟨_, -, h⟩ := bind_eq_ok.mp h
    obtain ⟨epoch, -, h⟩ := bind_eq_ok.mp h
    obtain rfl := pure_eq_ok.mp h
    exact ⟨rfl, rfl, rfl⟩
  | reserve id amount approvalNonce expiresAt =>
    obtain ⟨⟨rid, q⟩, hc, rfl⟩ := map_eq_ok.mp h
    obtain ⟨_, _, _, -, rfl⟩ := reserve_ok hc
    exact ⟨rfl, rfl, rfl⟩
  | consumeReservation rid =>
    obtain ⟨-, -, _, _, -, rfl⟩ := consumeReservation_ok h
    exact ⟨rfl, rfl, rfl⟩
  | cancelReservation rid =>
    simp only [ExposureCall.exec, Credit.cancelReservation] at h
    obtain ⟨_, -, h⟩ := bind_eq_ok.mp h
    exact releaseReservation_frame h
  | expireReservation rid =>
    simp only [ExposureCall.exec, Credit.expireReservation] at h
    obtain ⟨_, -, h⟩ := bind_eq_ok.mp h
    exact releaseReservation_frame h

theorem ManagerCall.exec_schedules {call : ManagerCall} (h : call.exec d reg m c = .ok c') :
    c'.recovery.schedules = c.recovery.schedules := by
  cases call with
  | openFacility i borrowerId wallet terms controlAgreementId controlVersion =>
    simp only [ManagerCall.exec, Credit.openFacility] at h
    obtain ⟨_, -, h⟩ := bind_eq_ok.mp h
    obtain ⟨_, -, h⟩ := bind_eq_ok.mp h
    obtain ⟨_, -, h⟩ := bind_eq_ok.mp h
    obtain ⟨_, -, h⟩ := bind_eq_ok.mp h
    obtain ⟨_, -, h⟩ := bind_eq_ok.mp h
    split at h
    · cases h
    · obtain ⟨_, -, h⟩ := bind_eq_ok.mp h
      obtain ⟨_, -, h⟩ := bind_eq_ok.mp h
      obtain ⟨_, -, h⟩ := bind_eq_ok.mp h
      obtain ⟨l, -, h⟩ := bind_eq_ok.mp h
      rw [setFacilityState_recovery h]
  | transition i target => rw [setFacilityState_recovery (transition_ok h).2.2]
  | freezeDraws i =>
    simp only [ManagerCall.exec, Credit.freezeDraws] at h
    obtain ⟨_, -, h⟩ := bind_eq_ok.mp h
    obtain ⟨_, -, h⟩ := bind_eq_ok.mp h
    obtain ⟨_, -, h⟩ := bind_eq_ok.mp h
    rw [setFacilityState_recovery h]
  | pauseDraws paused =>
    simp only [ManagerCall.exec, Credit.pauseDraws] at h
    obtain ⟨_, -, h⟩ := bind_eq_ok.mp h
    obtain ⟨_, -, h⟩ := bind_eq_ok.mp h
    obtain rfl := pure_eq_ok.mp h
    rfl
  | approveDrawResume =>
    simp only [ManagerCall.exec, Credit.approveDrawResume] at h
    obtain ⟨_, -, h⟩ := bind_eq_ok.mp h
    obtain rfl := pure_eq_ok.mp h
    rfl
  | bindRecoveryManager manager =>
    simp only [ManagerCall.exec, managerBindRecovery] at h
    obtain ⟨_, -, h⟩ := bind_eq_ok.mp h
    obtain ⟨_, -, h⟩ := bind_eq_ok.mp h
    obtain ⟨_, -, h⟩ := bind_eq_ok.mp h
    obtain rfl := pure_eq_ok.mp h
    rfl
  | syncRepaid i => rw [syncRepaid_recovery h]
  | recoveryTransition i target => rw [recoveryTransition_recovery h]
  | anchorAuthorization auth approval =>
    simp only [ManagerCall.exec, Credit.anchorAuthorization] at h
    obtain ⟨_, -, h⟩ := bind_eq_ok.mp h
    obtain ⟨_, -, h⟩ := bind_eq_ok.mp h
    obtain ⟨_, -, h⟩ := bind_eq_ok.mp h
    obtain ⟨_, -, h⟩ := bind_eq_ok.mp h
    obtain ⟨_, -, h⟩ := bind_eq_ok.mp h
    obtain ⟨_, -, h⟩ := bind_eq_ok.mp h
    obtain ⟨_, -, h⟩ := bind_eq_ok.mp h
    obtain ⟨_, -, h⟩ := bind_eq_ok.mp h
    obtain ⟨_, -, h⟩ := bind_eq_ok.mp h
    obtain rfl := pure_eq_ok.mp h
    rfl
  | borrow i amount minReceived =>
    simp only [ManagerCall.exec, Credit.borrow] at h
    obtain ⟨_, -, h⟩ := bind_eq_ok.mp h
    obtain ⟨⟨rid, c₁⟩, hres, h⟩ := bind_eq_ok.mp h
    rw [executeInternal_recovery h, reserveInternal_recovery hres]
  | reserveDraw i amount ttl =>
    obtain ⟨⟨rid, q⟩, hc, rfl⟩ := map_eq_ok.mp h
    unfold Credit.reserveDraw at hc
    obtain ⟨_, -, hc⟩ := bind_eq_ok.mp hc
    obtain ⟨_, -, hc⟩ := bind_eq_ok.mp hc
    rw [reserveInternal_recovery hc]
  | executeReservedDraw rid minReceived => rw [executeInternal_recovery h]
  | repayFor i amount =>
    obtain ⟨⟨r, q⟩, hc, rfl⟩ := map_eq_ok.mp h
    exact managerRepayFor_schedules hc
  | claimRefund i =>
    simp only [ManagerCall.exec, Credit.claimRefund] at h
    obtain ⟨_, -, h⟩ := bind_eq_ok.mp h
    obtain ⟨_, -, h⟩ := bind_eq_ok.mp h
    obtain ⟨_, -, h⟩ := bind_eq_ok.mp h
    obtain ⟨pool, -, h⟩ := bind_eq_ok.mp h
    obtain rfl := pure_eq_ok.mp h
    rfl

theorem RouterCall.exec_schedules {call : RouterCall} (h : call.exec d m c = .ok c') :
    c'.recovery.schedules = c.recovery.schedules := by
  cases call with
  | repayFor i amount =>
    obtain ⟨⟨r, q⟩, hc, rfl⟩ := map_eq_ok.mp h
    exact routerRepayFor_schedules hc
  | repayExact i maxAmount =>
    obtain ⟨⟨r, q⟩, hc, rfl⟩ := map_eq_ok.mp h
    exact repayExact_schedules hc
  | recordDestinationReceipt settlementId amount =>
    simp only [RouterCall.exec, Credit.recordDestinationReceipt] at h
    obtain ⟨_, -, h⟩ := bind_eq_ok.mp h
    obtain ⟨⟨got, q⟩, hc, h⟩ := bind_eq_ok.mp h
    obtain rfl := pure_eq_ok.mp h
    exact recordReceipt_schedules hc
  | allocate settlementId i amount =>
    obtain ⟨⟨r, q⟩, hc, rfl⟩ := map_eq_ok.mp h
    unfold allocateSettlement at hc
    obtain ⟨_, -, hc⟩ := bind_eq_ok.mp hc
    exact allocateFromReceipt_schedules hc
  | receiveSettlement i settlementId amount =>
    obtain ⟨⟨r, q⟩, hc, rfl⟩ := map_eq_ok.mp h
    unfold Credit.receiveSettlement at hc
    obtain ⟨_, -, hc⟩ := bind_eq_ok.mp hc
    obtain ⟨⟨got, c₁⟩, hrec, hc⟩ := bind_eq_ok.mp hc
    exact (allocateFromReceipt_schedules hc).trans (recordReceipt_schedules hrec)
  | refundExcess i dst =>
    simp only [RouterCall.exec, routerRefundExcess] at h
    obtain ⟨_, -, h⟩ := bind_eq_ok.mp h
    obtain ⟨_, -, h⟩ := bind_eq_ok.mp h
    obtain ⟨_, -, h⟩ := bind_eq_ok.mp h
    obtain ⟨_, -, h⟩ := bind_eq_ok.mp h
    obtain ⟨pool, -, h⟩ := bind_eq_ok.mp h
    obtain rfl := pure_eq_ok.mp h
    rfl

/-- A call of the recovery manager sets the approval of a default only as `approveDefault`, and
keeps one that was set only if it does not withdraw it. -/
theorem RecoveryCall.exec_approval {call : RecoveryCall} (hs : m.sender ∉ d.contracts)
    (h : call.exec d reg m c = .ok c') (happ : c'.approvedAt id = true) :
    (c.approvedAt id = true ∧ ¬WithdrawsApproval id (.recovery call)) ∨
      ∃ reason, call = .approveDefault id reason ∧ m.hasRole .underwriter m.sender = true ∧
        DefaultDue m.now id c := by
  have hkept : ∀ {call : RecoveryCall}, KeepsApprovals c c' →
      ¬WithdrawsApproval id (.recovery call) →
      c.approvedAt id = true ∧ ¬WithdrawsApproval id (.recovery call) :=
    fun hk hw => ⟨(hk id).symm.trans happ, hw⟩
  cases call with
  | setSchedule i dueAt grace disputeWindow dueAmount =>
    simp only [RecoveryCall.exec, Credit.setSchedule] at h
    obtain ⟨_, -, h⟩ := bind_eq_ok.mp h
    obtain ⟨_, -, h⟩ := bind_eq_ok.mp h
    obtain ⟨_, -, h⟩ := bind_eq_ok.mp h
    obtain ⟨_, -, h⟩ := bind_eq_ok.mp h
    obtain ⟨_, -, h⟩ := bind_eq_ok.mp h
    obtain ⟨_, -, h⟩ := bind_eq_ok.mp h
    obtain rfl := pure_eq_ok.mp h
    exact .inl (hkept (setScheduleOf_keeps (by rfl)) (by rintro (hw | hw) <;> cases hw))
  | observeAllocation i amount =>
    rcases (observeAllocation_ok h).1 with hsender | hsender
    · exact absurd (by simp [Deployment.contracts, hsender]) hs
    · exact absurd (by simp [Deployment.contracts, hsender]) hs
  | markDelinquent i =>
    simp only [RecoveryCall.exec, Credit.markDelinquent] at h
    obtain ⟨_, -, h⟩ := bind_eq_ok.mp h
    obtain ⟨_, -, h⟩ := bind_eq_ok.mp h
    obtain ⟨_, -, h⟩ := bind_eq_ok.mp h
    exact .inl (hkept (.of_schedules (by rw [recoveryTransition_recovery h]))
      (by rintro (hw | hw) <;> cases hw))
  | cure i =>
    obtain ⟨hcleared, hothers⟩ := cure_approvedAt h
    have hi : id ≠ i := by
      rintro rfl
      cases hcleared.symm.trans happ
    refine .inl ⟨(hothers id hi).symm.trans happ, ?_⟩
    rintro (hw | hw)
    · cases hw
    · cases hw
      exact hi rfl
  | setDispute i disputed =>
    simp only [RecoveryCall.exec, Credit.setDispute] at h
    obtain ⟨_, -, h⟩ := bind_eq_ok.mp h
    obtain ⟨_, -, h⟩ := bind_eq_ok.mp h
    obtain rfl := pure_eq_ok.mp h
    rw [setScheduleOf_approvedAt] at happ
    by_cases hi : id = i
    · subst hi
      rw [if_pos rfl, Bool.and_eq_true] at happ
      refine .inl ⟨happ.1, ?_⟩
      rintro (hw | hw)
      · cases hw
        cases happ.2
      · cases hw
    · rw [if_neg hi] at happ
      refine .inl ⟨happ, ?_⟩
      rintro (hw | hw)
      · cases hw
        exact hi rfl
      · cases hw
  | approveDefault i reason =>
    have hdue := approveDefault_ok h
    by_cases hi : id = i
    · subst hi
      exact .inr ⟨reason, rfl, hdue⟩
    · simp only [RecoveryCall.exec, Credit.approveDefault] at h
      obtain ⟨_, -, h⟩ := bind_eq_ok.mp h
      obtain ⟨_, -, h⟩ := bind_eq_ok.mp h
      obtain ⟨_, -, h⟩ := bind_eq_ok.mp h
      obtain rfl := pure_eq_ok.mp h
      rw [setScheduleOf_approvedAt, if_neg hi] at happ
      exact .inl ⟨happ, by rintro (hw | hw) <;> cases hw⟩
  | declareDefault i =>
    obtain ⟨-, -, hcleared, hothers⟩ := declareDefault_ok h
    have hi : id ≠ i := by
      rintro rfl
      cases hcleared.symm.trans happ
    exact .inl ⟨(hothers id hi).symm.trans happ, by rintro (hw | hw) <;> cases hw⟩
  | beginRecovery i =>
    simp only [RecoveryCall.exec, Credit.beginRecovery] at h
    obtain ⟨_, -, h⟩ := bind_eq_ok.mp h
    exact .inl (hkept (.of_schedules (by rw [recoveryTransition_recovery h]))
      (by rintro (hw | hw) <;> cases hw))
  | fundReserve i amount =>
    simp only [RecoveryCall.exec, Credit.fundReserve] at h
    obtain ⟨_, -, h⟩ := bind_eq_ok.mp h
    obtain ⟨_, -, h⟩ := bind_eq_ok.mp h
    split at h
    · cases h
    · obtain ⟨_, -, h⟩ := bind_eq_ok.mp h
      obtain ⟨_, -, h⟩ := bind_eq_ok.mp h
      obtain ⟨_, -, h⟩ := bind_eq_ok.mp h
      obtain rfl := pure_eq_ok.mp h
      rw [setScheduleOf_approvedAt] at happ
      refine .inl ⟨?_, by rintro (hw | hw) <;> cases hw⟩
      split at happ
      · next hi => exact hi ▸ happ
      · exact happ
  | applyReserve i =>
    simp only [RecoveryCall.exec, Credit.applyReserve] at h
    obtain ⟨_, -, h⟩ := bind_eq_ok.mp h
    exact .inl (hkept (applyReserveInternal_keeps h) (by rintro (hw | hw) <;> cases hw))
  | returnReserve i =>
    simp only [RecoveryCall.exec, Credit.returnReserve] at h
    obtain ⟨_, -, h⟩ := bind_eq_ok.mp h
    obtain ⟨_, -, h⟩ := bind_eq_ok.mp h
    obtain ⟨_, -, h⟩ := bind_eq_ok.mp h
    split at h
    · cases h
    · obtain rfl := pure_eq_ok.mp h
      rw [setScheduleOf_approvedAt] at happ
      refine .inl ⟨?_, by rintro (hw | hw) <;> cases hw⟩
      split at happ
      · next hi => exact hi ▸ happ
      · exact happ
  | impair i lossId amount =>
    simp only [RecoveryCall.exec, Credit.impair] at h
    obtain ⟨_, -, h⟩ := bind_eq_ok.mp h
    obtain ⟨_, -, h⟩ := bind_eq_ok.mp h
    obtain ⟨pool, -, h⟩ := bind_eq_ok.mp h
    obtain rfl := pure_eq_ok.mp h
    exact .inl ⟨happ, by rintro (hw | hw) <;> cases hw⟩
  | reverseImpairment i amount =>
    simp only [RecoveryCall.exec, recoveryReverseImpairment] at h
    obtain ⟨_, -, h⟩ := bind_eq_ok.mp h
    obtain ⟨pool, -, h⟩ := bind_eq_ok.mp h
    obtain rfl := pure_eq_ok.mp h
    exact .inl ⟨happ, by rintro (hw | hw) <;> cases hw⟩
  | approveWriteOff i lossId =>
    simp only [RecoveryCall.exec, Credit.approveWriteOff] at h
    obtain ⟨_, -, h⟩ := bind_eq_ok.mp h
    obtain ⟨_, -, h⟩ := bind_eq_ok.mp h
    obtain ⟨_, -, h⟩ := bind_eq_ok.mp h
    obtain ⟨_, -, h⟩ := bind_eq_ok.mp h
    obtain rfl := pure_eq_ok.mp h
    exact .inl (hkept (setScheduleOf_keeps (by rfl)) (by rintro (hw | hw) <;> cases hw))
  | writeOff i lossId =>
    exact .inl (hkept (recoveryWriteOff_keeps h) (by rintro (hw | hw) <;> cases hw))

end

/-- The calls that set the approval of a default, or leave one that was set. -/
theorem CreditCall.exec_approval {d : Deployment} {reg : Registries} {m : Msg} {c c' : Credit}
    {id : FacilityId} {call : CreditCall} (hs : m.sender ∉ d.contracts)
    (h : call.exec d reg m c = .ok c') (happ : c'.approvedAt id = true) :
    (c.approvedAt id = true ∧ ¬WithdrawsApproval id call) ∨
      ∃ reason, call = .recovery (.approveDefault id reason) ∧
        m.hasRole .underwriter m.sender = true ∧ DefaultDue m.now id c := by
  cases call with
  | vault call =>
    obtain ⟨p, -, rfl⟩ := map_eq_ok.mp h
    exact .inl ⟨happ, by rintro (hw | hw) <;> cases hw⟩
  | ledger call =>
    obtain ⟨l, -, rfl⟩ := map_eq_ok.mp h
    exact .inl ⟨happ, by rintro (hw | hw) <;> cases hw⟩
  | token call =>
    obtain ⟨t, -, rfl⟩ := map_eq_ok.mp h
    exact .inl ⟨happ, by rintro (hw | hw) <;> cases hw⟩
  | exposure call =>
    have hkeeps : KeepsApprovals c c' :=
      .of_schedules (by rw [(ExposureCall.exec_frame h).1])
    exact .inl ⟨(hkeeps id).symm.trans happ, by rintro (hw | hw) <;> cases hw⟩
  | manager call =>
    have hkeeps : KeepsApprovals c c' := .of_schedules (ManagerCall.exec_schedules h)
    exact .inl ⟨(hkeeps id).symm.trans happ, by rintro (hw | hw) <;> cases hw⟩
  | router call =>
    have hkeeps : KeepsApprovals c c' := .of_schedules (RouterCall.exec_schedules h)
    exact .inl ⟨(hkeeps id).symm.trans happ, by rintro (hw | hw) <;> cases hw⟩
  | recovery call =>
    rcases RecoveryCall.exec_approval hs h happ with hkept | ⟨reason, rfl, hdue⟩
    · exact .inl hkept
    · exact .inr ⟨reason, rfl, hdue⟩

/-! ### The episode of delinquency -/

/-- A transaction that ends with the facility `DELINQUENT` and withdraws no approval. -/
def EpisodeStep (d : Deployment) (id : FacilityId) (s : CreditState) (tx : Tx) (s' : CreditState) :
    Prop :=
  CreditStep d s tx s' ∧ (s'.credit.manager.facilities id).state = .delinquent ∧
    ¬WithdrawsApproval id tx.call

/-- The run `txs` from `s₀` to `s` approved the default of the facility: an underwriter did so
when the default was due, and since then the facility has been `DELINQUENT`, without a dispute
or a cure. -/
def ApprovedDefault (d : Deployment) (id : FacilityId) (s₀ : CreditState) (txs : List Tx)
    (s : CreditState) : Prop :=
  ∃ pre tx mid sa sa' reason, txs = pre ++ tx :: mid ∧ Steps (CreditStep d) s₀ pre sa ∧
    EpisodeStep d id sa tx sa' ∧ Steps (EpisodeStep d id) sa' mid s ∧
    tx.call = .recovery (.approveDefault id reason) ∧
    tx.msg.hasRole .underwriter tx.msg.sender = true ∧ DefaultDue tx.msg.now id sa.credit

theorem ApprovedDefault.snoc {d : Deployment} {id : FacilityId} {s₀ s s' : CreditState}
    {txs : List Tx} {tx : Tx} (h : ApprovedDefault d id s₀ txs s) (hs : EpisodeStep d id s tx s') :
    ApprovedDefault d id s₀ (txs ++ [tx]) s' := by
  obtain ⟨pre, a, mid, sa, sa', reason, rfl, hpre, ha, hmid, hcall⟩ := h
  refine ⟨pre, a, mid ++ [tx], sa, sa', reason, ?_, hpre, ha, hmid.snoc hs, hcall⟩
  rw [List.append_assoc, List.cons_append]

/-- A delinquent facility stays so, unless its debt is settled, it is cured or its default is
declared. -/
theorem StateChange.delinquent {d : Deployment} {m : Msg} {id : FacilityId} {c c' : Credit}
    {call : CreditCall} {target : FacilityState} (h : StateChange d m id c c' call target)
    (hw : c.Wired d) (hs : m.sender ∉ d.contracts) (ht : c.Tidy id)
    (hdel : c.stateAt id = .delinquent) :
    target = .delinquent ∨ target = .repaid ∨ call = .recovery (.cure id) ∨
      call = .recovery (.declareDefault id) := by
  cases h with
  | same => exact .inl hdel
  | opened hnew _ =>
    have hknown := ht.known (by rw [hdel]; simp)
    cases hknown.symm.trans hnew
  | @transition target hallow hauth _ =>
    rw [hdel] at hallow hauth
    -- The two edges out of the state need the manager or the recovery manager as the sender.
    cases target with
    | active =>
      have hsender : m.sender = d.manager := of_decide_eq_true hauth
      exact absurd (by simp [Deployment.contracts, hsender]) hs
    | defaulted =>
      have hsender : m.sender = c.manager.recoveryManager := of_decide_eq_true hauth
      exact absurd (by simp [Deployment.contracts, hsender, hw.recovery]) hs
    | _ => cases hallow
  | freezeDraws hactive _ => cases hdel.symm.trans hactive
  | settled _ _ _ => exact .inr (.inl rfl)
  | markDelinquent _ _ => exact .inl rfl
  | cure _ _ => exact .inr (.inr (.inl rfl))
  | declareDefault _ _ _ => exact .inr (.inr (.inr rfl))
  | beginRecovery hallow _ =>
    rw [hdel] at hallow
    cases hallow
  | writeOff hallow _ =>
    rw [hdel] at hallow
    cases hallow

/-- A change of state that approves a default changes nothing. -/
theorem StateChange.approveDefault {d : Deployment} {m : Msg} {id i : FacilityId}
    {c c' : Credit} {reason : Bytes32} {target : FacilityState}
    (h : StateChange d m id c c' (.recovery (.approveDefault i reason)) target) :
    target = c.stateAt id := by
  cases h with
  | same => rfl
  | settled hsettles => exact hsettles.elim

/-- A facility whose default is approved is in the episode that approved it, or closed. -/
theorem CreditStep.approved {d : Deployment} {id : FacilityId} {s₀ s : CreditState}
    {txs : List Tx} (h₀ : s₀.Initial d) (h : Steps (CreditStep d) s₀ txs s)
    (happ : s.credit.approvedAt id = true) :
    (s.credit.stateAt id).closed = true ∨
      s.credit.stateAt id = .delinquent ∧ ApprovedDefault d id s₀ txs s := by
  revert happ
  refine h.history (P := fun txs s => s.credit.approvedAt id = true →
    (s.credit.stateAt id).closed = true ∨
      s.credit.stateAt id = .delinquent ∧ ApprovedDefault d id s₀ txs s) ?_ ?_
  · intro happ
    obtain ⟨token, -, hs⟩ := h₀
    rw [hs] at happ
    cases happ
  · intro txs s tx s' hpre ih hstep happ
    have hreach : CreditReachable d s := ⟨s₀, txs, h₀, hpre⟩
    have hi : s.Inv d := hreach.inv
    have ht := hreach.tidy id
    rcases CreditCall.exec_approval hstep.2.1 hstep.2.2.1 happ with
      ⟨hbefore, hkept⟩ | ⟨reason, hcall, hrole, hdue⟩
    · rcases ih hbefore with hclosed | ⟨hdel, happroved⟩
      · -- A closed facility stays closed, whatever its flag says.
        refine .inl ?_
        rcases hstep.outcome hi with ⟨i, hdrawn⟩ | hserviced
        · rw [stateAt, hdrawn.facilities]
          exact hclosed
        · rcases (hserviced id).change.closed_stays ht hclosed with hsame | ⟨-, hreleased⟩
          · rw [hsame]
            exact hclosed
          · rw [hreleased, FacilityState.closed]
      · have hstays : s'.credit.stateAt id = .delinquent ∨ s'.credit.stateAt id = .repaid := by
          rcases hstep.outcome hi with ⟨i, hdrawn⟩ | hserviced
          · rw [stateAt, hdrawn.facilities]
            exact .inl hdel
          · rcases (hserviced id).change.delinquent hi.wired hstep.2.1 ht hdel with
              hstill | hrepaid | hcure | hdeclare
            · exact .inl hstill
            · exact .inr hrepaid
            · exact absurd (.inr hcure) hkept
            · have hexec := hstep.2.2.1
              rw [hdeclare] at hexec
              have hcleared := (declareDefault_ok hexec).2.2.1
              cases hcleared.symm.trans happ
        rcases hstays with hstill | hrepaid
        · exact .inr ⟨hstill, happroved.snoc ⟨hstep, hstill, hkept⟩⟩
        · refine .inl ?_
          rw [hrepaid, FacilityState.closed]
    · have hstill : s'.credit.stateAt id = .delinquent := by
        rcases hstep.outcome hi with ⟨i, hdrawn⟩ | hserviced
        · rw [stateAt, hdrawn.facilities]
          exact hdue.delinquent
        · have hchange := (hserviced id).change
          rw [hcall] at hchange
          exact hchange.approveDefault.trans hdue.delinquent
      have hepisode : EpisodeStep d id s tx s' := by
        refine ⟨hstep, hstill, ?_⟩
        rw [hcall]
        rintro (hw | hw) <;> cases hw
      exact .inr ⟨hstill, txs, tx, [], s, s', reason, rfl, hpre, hepisode, .nil _, hcall, hrole,
        hdue⟩

/-- Frozen accrual stays frozen along every run. -/
theorem CreditStep.frozen_for_ever {d : Deployment} {id : FacilityId} {s s' : CreditState}
    {txs : List Tx} (h : CreditReachable d s) (hrun : Steps (CreditStep d) s txs s')
    (hfrozen : (s.credit.account id).frozen = true) : (s'.credit.account id).frozen = true := by
  refine (hrun.invariant
    (P := fun s => s.Inv d ∧ (s.credit.account id).frozen = true) ?_ ⟨h.inv, hfrozen⟩).2
  rintro s tx s' ⟨hi, hf⟩ hstep
  refine ⟨hstep.inv hi, ?_⟩
  rcases hstep.outcome hi with ⟨i, hdrawn⟩ | hserviced
  · by_cases hid : id = i
    · subst hid
      exact hdrawn.frozen.trans hf
    · rw [hdrawn.others id hid]
      exact hf
  · exact (hserviced id).account.frozen hf

/-- A change of state to `DEFAULTED` is the declaration of a guardian. -/
theorem StateChange.defaulted {d : Deployment} {m : Msg} {id : FacilityId} {c c' : Credit}
    {call : CreditCall} (h : StateChange d m id c c' call .defaulted) (hw : c.Wired d)
    (hs : m.sender ∉ d.contracts) (hbefore : c.stateAt id ≠ .defaulted) :
    call = .recovery (.declareDefault id) ∧ m.hasRole .guardian m.sender = true ∧
      (c'.account id).frozen = true := by
  generalize htarget : FacilityState.defaulted = target at h
  cases h with
  | same => exact absurd htarget.symm hbefore
  | @transition target hallow hauth _ =>
    subst htarget
    cases hstate : c.stateAt id with
    | delinquent =>
      rw [hstate] at hauth
      have hsender : m.sender = c.manager.recoveryManager := of_decide_eq_true hauth
      exact absurd (by simp [Deployment.contracts, hsender, hw.recovery]) hs
    | _ =>
      rw [hstate] at hallow
      cases hallow
  | declareDefault _ hrole hfrozen => exact ⟨rfl, hrole, hfrozen⟩
  | _ => cases htarget

/-- Whenever a facility of a run enters `DEFAULTED`, the transaction is the declaration of a
guardian on an installment that is due, the run before it holds the approval of an underwriter
in the same episode of delinquency, and accrual is frozen in every later state. -/
theorem default_takes_two_roles {d : Deployment} {id : FacilityId} {s₀ s s' : CreditState}
    {txs : List Tx} {tx : Tx} (h₀ : s₀.Initial d) (hrun : Steps (CreditStep d) s₀ txs s)
    (hstep : CreditStep d s tx s') (hbefore : (s.credit.manager.facilities id).state ≠ .defaulted)
    (hafter : (s'.credit.manager.facilities id).state = .defaulted) :
    tx.call = .recovery (.declareDefault id) ∧ tx.msg.hasRole .guardian tx.msg.sender = true ∧
      DefaultDue tx.msg.now id s.credit ∧ ApprovedDefault d id s₀ txs s ∧
      ∀ later s'', Steps (CreditStep d) s' later s'' →
        (s''.credit.pool.ledger.facilities id).frozen = true := by
  have hreach : CreditReachable d s := ⟨s₀, txs, h₀, hrun⟩
  have hi : s.Inv d := hreach.inv
  have hchange : StateChange d tx.msg id s.credit s'.credit tx.call .defaulted := by
    rcases hstep.outcome hi with ⟨i, hdrawn⟩ | hserviced
    · rw [hdrawn.facilities] at hafter
      exact absurd hafter hbefore
    · have hchange := (hserviced id).change
      rwa [stateAt, hafter] at hchange
  obtain ⟨hcall, hrole, hfrozen⟩ := hchange.defaulted hi.wired hstep.2.1 hbefore
  have hexec := hstep.2.2.1
  rw [hcall] at hexec
  obtain ⟨hdue, happ, -, -⟩ := declareDefault_ok hexec
  have happroved : ApprovedDefault d id s₀ txs s := by
    rcases CreditStep.approved h₀ hrun happ with hclosed | ⟨-, happroved⟩
    · rw [stateAt, hdue.delinquent] at hclosed
      cases hclosed
    · exact happroved
  refine ⟨hcall, hrole, hdue, happroved, fun later s'' hlater => ?_⟩
  exact CreditStep.frozen_for_ever (hreach.step hstep) hlater hfrozen

/-- Facility 5 draws 600 and misses its installment of 100; its default is approved. -/
def Sample.approvedDefault : List Tx :=
  activeFacility 1000 600 ++
    [tx 7 10 (.recovery (.setSchedule 5 20 5 0 100)),
      tx 7 30 (.recovery (.markDelinquent 5)),
      tx 7 30 (.recovery (.approveDefault 5 1))]

/-- The declaration at time 40 finds the approval made at time 30, and accrual is frozen. -/
theorem default_takes_two_roles_sample :
    ∃ s s', CreditStep Sample.protocol s (Sample.tx 7 40 (.recovery (.declareDefault 5))) s' ∧
      (s.credit.manager.facilities 5).state = .delinquent ∧
      (s'.credit.manager.facilities 5).state = .defaulted ∧
      ApprovedDefault Sample.protocol 5 Sample.creditDeployment Sample.approvedDefault s ∧
      (s'.credit.pool.ledger.facilities 5).frozen = true := by
  obtain ⟨s, hrun, hbefore⟩ := Sample.creditDeployment.run_view Sample.protocol
    Sample.approvedDefault (fun s => (s.credit.manager.facilities 5).state) (v := .delinquent)
    (by decide +kernel)
  obtain ⟨s', hrun', hafter⟩ := Sample.creditDeployment.run_view Sample.protocol
    (Sample.approvedDefault ++ [Sample.tx 7 40 (.recovery (.declareDefault 5))])
    (fun s => (s.credit.manager.facilities 5).state) (v := .defaulted) (by decide +kernel)
  have hstep := (CreditState.run_last hrun hrun').step
  obtain ⟨-, -, -, happroved, hfrozen⟩ := default_takes_two_roles
    Sample.creditDeployment_initial (CreditState.run_steps hrun) hstep
    (by rw [hbefore]; simp) hafter
  exact ⟨s, s', hstep, hbefore, hafter, happroved, hfrozen [] s' (.nil s')⟩

end Rackline
