import Rackline.Proofs.Lifecycle

/-!
# `Rackline.Proofs.Booking`: what a call does to the controller's books

The controller keeps enrollments, authorizations and reservations; the manager keeps the anchors
of the signed authorizations. Most calls of the protocol touch none of them: they are `Framed`.
The others are few, and `Booking` names them: a facility is opened, an authorization is set or
anchored, a facility is enrolled, a reservation is made, released or drawn.

`CreditStep.booking` classifies every transaction, and is all that the proofs about exposure and
authorizations need to know of the calls.
-/

set_option autoImplicit false

namespace Rackline

open Evm Transition

namespace Credit

/-- A call that leaves the controller, the anchors and the terms of every facility as they are.
It may move the state of a facility. -/
structure Framed (c c' : Credit) : Prop where
  exposure : c'.exposure = c.exposure
  anchors : c'.manager.anchors = c.manager.anchors
  terms : ∀ id, { c'.manager.facilities id with state := .draft } =
    { c.manager.facilities id with state := .draft }

variable {d : Deployment} {reg : Registries} {m : Msg} {c c' c'' : Credit} {id : FacilityId}

theorem Framed.of_eq (he : c'.exposure = c.exposure) (hm : c'.manager = c.manager) :
    Framed c c' := by
  refine ⟨he, ?_, fun id => ?_⟩
  · rw [hm]
  · rw [hm]

theorem Framed.trans (h : Framed c c') (h' : Framed c' c'') : Framed c c'' :=
  ⟨h'.exposure.trans h.exposure, h'.anchors.trans h.anchors,
    fun id => (h'.terms id).trans (h.terms id)⟩

/-! ### The manager -/

theorem setFacilityState_framed {target : FacilityState}
    (h : c.setFacilityState d m id target = .ok c') : Framed c c' := by
  obtain ⟨l, -, rfl⟩ := setFacilityState_ok h
  refine ⟨rfl, rfl, fun i => ?_⟩
  by_cases hi : i = id
  · subst hi
    simp
  · simp [hi]

theorem recoveryTransition_framed {target : FacilityState}
    (h : c.recoveryTransition d reg m id target = .ok c') : Framed c c' :=
  setFacilityState_framed (recoveryTransition_ok h).2.2

theorem syncRepaid_framed (h : c.syncRepaid d m id = .ok c') : Framed c c' := by
  obtain ⟨-, rfl | hset⟩ := syncRepaid_ok h
  · exact .of_eq rfl rfl
  · exact setFacilityState_framed hset

theorem freezeDraws_framed (h : c.freezeDraws d m id = .ok c') : Framed c c' := by
  unfold freezeDraws at h
  obtain ⟨_, -, h⟩ := bind_eq_ok.mp h
  obtain ⟨_, -, h⟩ := bind_eq_ok.mp h
  obtain ⟨_, -, h⟩ := bind_eq_ok.mp h
  exact setFacilityState_framed h

theorem reportAllocation_framed {amount : Nat} (h : c.reportAllocation d m id amount = .ok c') :
    Framed c c' := by
  obtain ⟨recovery, rfl⟩ := reportAllocation_ok h
  exact .of_eq rfl rfl

theorem managerRepayFor_framed {amount : Nat} {r : RepayResult}
    (h : c.managerRepayFor d m id amount = .ok (r, c')) : Framed c c' := by
  unfold managerRepayFor at h
  obtain ⟨_, -, h⟩ := bind_eq_ok.mp h
  obtain ⟨_, -, h⟩ := bind_eq_ok.mp h
  obtain ⟨_, -, h⟩ := bind_eq_ok.mp h
  obtain ⟨⟨r', p₁⟩, -, h⟩ := bind_eq_ok.mp h
  obtain ⟨c₁, hobs, h⟩ := bind_eq_ok.mp h
  have hpool : Framed c { c with pool := p₁ } := .of_eq rfl rfl
  have hframe : Framed c c₁ := hpool.trans (reportAllocation_framed hobs)
  split at h
  · obtain ⟨c₂, hset, h⟩ := bind_eq_ok.mp h
    have hres := pure_eq_ok.mp h
    simp only [Prod.mk.injEq] at hres
    obtain ⟨rfl, rfl⟩ := hres
    exact hframe.trans (setFacilityState_framed hset)
  · have hres := pure_eq_ok.mp h
    simp only [Prod.mk.injEq] at hres
    obtain ⟨rfl, rfl⟩ := hres
    exact hframe

/-! ### The router -/

theorem applyReceived_framed {requested got : Nat} {r : RepayResult}
    (h : applyReceived d m id requested got c = .ok (r, c')) : Framed c c' := by
  unfold applyReceived at h
  obtain ⟨⟨r', p₁⟩, -, h⟩ := bind_eq_ok.mp h
  have hpool : Framed c { c with pool := p₁ } := .of_eq rfl rfl
  dsimp only at h
  split at h
  · obtain ⟨c₁, hobs, h⟩ := bind_eq_ok.mp h
    have hframe : Framed c c₁ := hpool.trans (reportAllocation_framed hobs)
    split at h
    · obtain ⟨c₂, hsync, h⟩ := bind_eq_ok.mp h
      have hres := pure_eq_ok.mp h
      simp only [Prod.mk.injEq] at hres
      obtain ⟨rfl, rfl⟩ := hres
      exact hframe.trans (syncRepaid_framed hsync)
    · have hres := pure_eq_ok.mp h
      simp only [Prod.mk.injEq] at hres
      obtain ⟨rfl, rfl⟩ := hres
      exact hframe
  · have hres := pure_eq_ok.mp h
    simp only [Prod.mk.injEq] at hres
    obtain ⟨rfl, rfl⟩ := hres
    exact hpool

theorem routerRepayFor_framed {amount : Nat} {r : RepayResult}
    (h : c.routerRepayFor d m id amount = .ok (r, c')) : Framed c c' := by
  unfold routerRepayFor at h
  obtain ⟨_, -, h⟩ := bind_eq_ok.mp h
  obtain ⟨_, -, h⟩ := bind_eq_ok.mp h
  obtain ⟨⟨got, q⟩, -, h⟩ := bind_eq_ok.mp h
  have hpool : Framed c { c with pool := q } := .of_eq rfl rfl
  exact hpool.trans (applyReceived_framed h)

theorem repayExact_framed {maxAmount : Nat} {r : RepayResult}
    (h : c.repayExact d m id maxAmount = .ok (r, c')) : Framed c c' := by
  unfold repayExact at h
  obtain ⟨_, -, h⟩ := bind_eq_ok.mp h
  obtain ⟨_, -, h⟩ := bind_eq_ok.mp h
  obtain ⟨⟨got, q⟩, -, h⟩ := bind_eq_ok.mp h
  have hpool : Framed c { c with pool := q } := .of_eq rfl rfl
  exact hpool.trans (applyReceived_framed h)

theorem recordReceipt_framed {settlementId : Bytes32} {amount got : Nat}
    (h : c.recordReceipt d m settlementId amount = .ok (got, c')) : Framed c c' := by
  obtain ⟨token, router, -, rfl⟩ := recordReceipt_ok h
  exact .of_eq rfl rfl

theorem allocateFromReceipt_framed {settlementId : Bytes32} {amount : Nat} {r : RepayResult}
    (h : c.allocateFromReceipt d m settlementId id amount = .ok (r, c')) : Framed c c' := by
  unfold allocateFromReceipt at h
  obtain ⟨_, -, h⟩ := bind_eq_ok.mp h
  obtain ⟨_, -, h⟩ := bind_eq_ok.mp h
  obtain ⟨_, -, h⟩ := bind_eq_ok.mp h
  obtain ⟨_, -, h⟩ := bind_eq_ok.mp h
  obtain ⟨_, -, h⟩ := bind_eq_ok.mp h
  obtain ⟨⟨got, q⟩, -, h⟩ := bind_eq_ok.mp h
  have happly := applyReceived_framed h
  exact ⟨happly.exposure, happly.anchors, happly.terms⟩

/-! ### The recovery manager -/

theorem setScheduleOf_framed (s : Schedule) : Framed c (c.setScheduleOf id s) := .of_eq rfl rfl

theorem cure_framed (h : c.cure d reg m id = .ok c') : Framed c c' := by
  unfold cure at h
  obtain ⟨_, -, h⟩ := bind_eq_ok.mp h
  obtain ⟨_, -, h⟩ := bind_eq_ok.mp h
  obtain ⟨debt, -, h⟩ := bind_eq_ok.mp h
  obtain ⟨c₁, hc₁, h⟩ := bind_eq_ok.mp h
  obtain rfl := pure_eq_ok.mp h
  have hstate : Framed c c₁ := by
    unfold cureState at hc₁
    split at hc₁
    · exact syncRepaid_framed hc₁
    · exact recoveryTransition_framed hc₁
  exact hstate.trans (setScheduleOf_framed _)

theorem declareDefault_framed (h : c.declareDefault d reg m id = .ok c') : Framed c c' := by
  unfold declareDefault at h
  obtain ⟨_, -, h⟩ := bind_eq_ok.mp h
  obtain ⟨_, -, h⟩ := bind_eq_ok.mp h
  obtain ⟨_, -, h⟩ := bind_eq_ok.mp h
  obtain ⟨c₁, htrans, h⟩ := bind_eq_ok.mp h
  obtain ⟨l, -, h⟩ := bind_eq_ok.mp h
  obtain rfl := pure_eq_ok.mp h
  have hmoved : Framed c c₁ := (setScheduleOf_framed _).trans (recoveryTransition_framed htrans)
  exact ⟨hmoved.exposure, hmoved.anchors, hmoved.terms⟩

theorem applyReserveInternal_framed (h : c.applyReserveInternal d m id = .ok c') :
    Framed c c' := by
  unfold applyReserveInternal at h
  obtain ⟨_, -, h⟩ := bind_eq_ok.mp h
  obtain ⟨_, -, h⟩ := bind_eq_ok.mp h
  obtain ⟨debt, -, h⟩ := bind_eq_ok.mp h
  dsimp only at h
  generalize (if (c.recovery.schedules id).pledgedReserve < debt then
    (c.recovery.schedules id).pledgedReserve else debt) = amount at h
  split at h
  · obtain rfl := pure_eq_ok.mp h
    exact .of_eq rfl rfl
  · obtain ⟨⟨r, c₁⟩, hrepay, h⟩ := bind_eq_ok.mp h
    obtain rfl := pure_eq_ok.mp h
    have hrep := repayExact_framed hrepay
    exact ⟨hrep.exposure, hrep.anchors, hrep.terms⟩

theorem recoveryWriteOff_framed {lossId : Bytes32}
    (h : c.recoveryWriteOff d reg m id lossId = .ok c') : Framed c c' := by
  unfold recoveryWriteOff at h
  obtain ⟨_, -, h⟩ := bind_eq_ok.mp h
  obtain ⟨_, -, h⟩ := bind_eq_ok.mp h
  obtain ⟨_, -, h⟩ := bind_eq_ok.mp h
  obtain ⟨c₁, hreserve, h⟩ := bind_eq_ok.mp h
  have hframe := applyReserveInternal_framed hreserve
  obtain ⟨debt, -, h⟩ := bind_eq_ok.mp h
  split at h
  · exact hframe.trans (syncRepaid_framed h)
  · obtain ⟨pool, -, h⟩ := bind_eq_ok.mp h
    have hmoved := recoveryTransition_framed h
    exact hframe.trans ⟨hmoved.exposure, hmoved.anchors, hmoved.terms⟩

end Credit

open Credit

section
variable {d : Deployment} {reg : Registries} {m : Msg} {c c' : Credit}

theorem RouterCall.exec_framed {call : RouterCall} (h : call.exec d m c = .ok c') :
    Framed c c' := by
  cases call with
  | repayFor i amount =>
    obtain ⟨⟨r, q⟩, hc, rfl⟩ := map_eq_ok.mp h
    exact routerRepayFor_framed hc
  | repayExact i maxAmount =>
    obtain ⟨⟨r, q⟩, hc, rfl⟩ := map_eq_ok.mp h
    exact repayExact_framed hc
  | recordDestinationReceipt settlementId amount =>
    simp only [RouterCall.exec, Credit.recordDestinationReceipt] at h
    obtain ⟨_, -, h⟩ := bind_eq_ok.mp h
    obtain ⟨⟨got, q⟩, hc, h⟩ := bind_eq_ok.mp h
    obtain rfl := pure_eq_ok.mp h
    exact recordReceipt_framed hc
  | allocate settlementId i amount =>
    obtain ⟨⟨r, q⟩, hc, rfl⟩ := map_eq_ok.mp h
    unfold allocateSettlement at hc
    obtain ⟨_, -, hc⟩ := bind_eq_ok.mp hc
    exact allocateFromReceipt_framed hc
  | receiveSettlement i settlementId amount =>
    obtain ⟨⟨r, q⟩, hc, rfl⟩ := map_eq_ok.mp h
    unfold Credit.receiveSettlement at hc
    obtain ⟨_, -, hc⟩ := bind_eq_ok.mp hc
    obtain ⟨⟨got, c₁⟩, hrec, hc⟩ := bind_eq_ok.mp hc
    exact (recordReceipt_framed hrec).trans (allocateFromReceipt_framed hc)
  | refundExcess i dst =>
    simp only [RouterCall.exec, routerRefundExcess] at h
    obtain ⟨_, -, h⟩ := bind_eq_ok.mp h
    obtain ⟨_, -, h⟩ := bind_eq_ok.mp h
    obtain ⟨_, -, h⟩ := bind_eq_ok.mp h
    obtain ⟨_, -, h⟩ := bind_eq_ok.mp h
    obtain ⟨pool, -, h⟩ := bind_eq_ok.mp h
    obtain rfl := pure_eq_ok.mp h
    exact .of_eq (by rfl) (by rfl)

theorem RecoveryCall.exec_framed {call : RecoveryCall} (h : call.exec d reg m c = .ok c') :
    Framed c c' := by
  cases call with
  | setSchedule i dueAt grace disputeWindow dueAmount =>
    simp only [RecoveryCall.exec, Credit.setSchedule] at h
    obtain ⟨_, -, h⟩ := bind_eq_ok.mp h
    obtain ⟨_, -, h⟩ := bind_eq_ok.mp h
    obtain ⟨_, -, h⟩ := bind_eq_ok.mp h
    obtain ⟨_, -, h⟩ := bind_eq_ok.mp h
    obtain ⟨_, -, h⟩ := bind_eq_ok.mp h
    obtain ⟨_, -, h⟩ := bind_eq_ok.mp h
    obtain rfl := pure_eq_ok.mp h
    exact setScheduleOf_framed _
  | observeAllocation i amount =>
    obtain ⟨recovery, rfl⟩ := (observeAllocation_ok h).2
    exact .of_eq (by rfl) (by rfl)
  | markDelinquent i =>
    simp only [RecoveryCall.exec, Credit.markDelinquent] at h
    obtain ⟨_, -, h⟩ := bind_eq_ok.mp h
    obtain ⟨_, -, h⟩ := bind_eq_ok.mp h
    obtain ⟨_, -, h⟩ := bind_eq_ok.mp h
    exact recoveryTransition_framed h
  | cure i => exact cure_framed h
  | setDispute i disputed =>
    simp only [RecoveryCall.exec, Credit.setDispute] at h
    obtain ⟨_, -, h⟩ := bind_eq_ok.mp h
    obtain ⟨_, -, h⟩ := bind_eq_ok.mp h
    obtain rfl := pure_eq_ok.mp h
    exact setScheduleOf_framed _
  | approveDefault i reason =>
    simp only [RecoveryCall.exec, Credit.approveDefault] at h
    obtain ⟨_, -, h⟩ := bind_eq_ok.mp h
    obtain ⟨_, -, h⟩ := bind_eq_ok.mp h
    obtain ⟨_, -, h⟩ := bind_eq_ok.mp h
    obtain rfl := pure_eq_ok.mp h
    exact setScheduleOf_framed _
  | declareDefault i => exact declareDefault_framed h
  | beginRecovery i =>
    simp only [RecoveryCall.exec, Credit.beginRecovery] at h
    obtain ⟨_, -, h⟩ := bind_eq_ok.mp h
    exact recoveryTransition_framed h
  | fundReserve i amount =>
    simp only [RecoveryCall.exec, Credit.fundReserve] at h
    obtain ⟨_, -, h⟩ := bind_eq_ok.mp h
    obtain ⟨_, -, h⟩ := bind_eq_ok.mp h
    split at h
    · cases h
    · obtain ⟨_, -, h⟩ := bind_eq_ok.mp h
      obtain ⟨_, -, h⟩ := bind_eq_ok.mp h
      obtain ⟨_, -, h⟩ := bind_eq_ok.mp h
      obtain rfl := pure_eq_ok.mp h
      exact .of_eq (by rfl) (by rfl)
  | applyReserve i =>
    simp only [RecoveryCall.exec, Credit.applyReserve] at h
    obtain ⟨_, -, h⟩ := bind_eq_ok.mp h
    exact applyReserveInternal_framed h
  | returnReserve i =>
    simp only [RecoveryCall.exec, Credit.returnReserve] at h
    obtain ⟨_, -, h⟩ := bind_eq_ok.mp h
    obtain ⟨_, -, h⟩ := bind_eq_ok.mp h
    obtain ⟨_, -, h⟩ := bind_eq_ok.mp h
    split at h
    · cases h
    · obtain rfl := pure_eq_ok.mp h
      exact .of_eq (by rfl) (by rfl)
  | impair i lossId amount =>
    simp only [RecoveryCall.exec, Credit.impair] at h
    obtain ⟨_, -, h⟩ := bind_eq_ok.mp h
    obtain ⟨_, -, h⟩ := bind_eq_ok.mp h
    obtain ⟨pool, -, h⟩ := bind_eq_ok.mp h
    obtain rfl := pure_eq_ok.mp h
    exact .of_eq (by rfl) (by rfl)
  | reverseImpairment i amount =>
    simp only [RecoveryCall.exec, recoveryReverseImpairment] at h
    obtain ⟨_, -, h⟩ := bind_eq_ok.mp h
    obtain ⟨pool, -, h⟩ := bind_eq_ok.mp h
    obtain rfl := pure_eq_ok.mp h
    exact .of_eq (by rfl) (by rfl)
  | approveWriteOff i lossId =>
    simp only [RecoveryCall.exec, Credit.approveWriteOff] at h
    obtain ⟨_, -, h⟩ := bind_eq_ok.mp h
    obtain ⟨_, -, h⟩ := bind_eq_ok.mp h
    obtain ⟨_, -, h⟩ := bind_eq_ok.mp h
    obtain ⟨_, -, h⟩ := bind_eq_ok.mp h
    obtain rfl := pure_eq_ok.mp h
    exact setScheduleOf_framed _
  | writeOff i lossId => exact recoveryWriteOff_framed h

end

/-- What a transaction does to the controller's books and the anchors. -/
inductive Booking (d : Deployment) (reg : Registries) (m : Msg) (c c' : Credit) :
    CreditCall → Prop
  | framed {call : CreditCall} : ¬call.Draws → Framed c c' → Booking d reg m c c' call
  | opened {call : CreditCall} {id : FacilityId} : ¬call.Draws →
      (c.manager.facilities id).exists_ = false →
      c'.exposure = c.exposure → c'.manager.anchors = c.manager.anchors →
      (∀ i, i ≠ id → c'.manager.facilities i = c.manager.facilities i) → Booking d reg m c c' call
  | enrolled {id : FacilityId} {groupId : Bytes32} : c.enrollFacility reg m id groupId = .ok c' →
      Booking d reg m c c' (.exposure (.enrollFacility id groupId))
  | authorized {id : FacilityId} {limit : Nat} {policyVersionId controlAgreementId : Bytes32}
      {controlVersion validUntil : Nat} :
      c.setAuthorization reg m id limit policyVersionId controlAgreementId controlVersion
        validUntil = .ok c' →
      Booking d reg m c c' (.exposure (.setAuthorization id limit policyVersionId
        controlAgreementId controlVersion validUntil))
  | anchored {auth : CreditAuthorization} {approval : SupplementaryAssertion} :
      c.anchorAuthorization d reg m auth approval = .ok c' →
      Booking d reg m c c' (.manager (.anchorAuthorization auth approval))
  | released {call : CreditCall} {rid : Bytes32} {next : ReservationState} : ¬call.Draws →
      next = .cancelled ∨ next = .expired → c.releaseReservation rid next = .ok c' →
      Booking d reg m c c' call
  | reserved {id : FacilityId} {amount ttl expiresAt : Nat} {rid : Bytes32} :
      c.reserveInternal d reg m id amount expiresAt = .ok (rid, c') →
      Booking d reg m c c' (.manager (.reserveDraw id amount ttl))
  | drawn {rid : Bytes32} {minReceived : Nat} :
      c.executeInternal d reg m rid minReceived = .ok c' →
      Booking d reg m c c' (.manager (.executeReservedDraw rid minReceived))
  | borrowed {id : FacilityId} {amount minReceived expiresAt : Nat} {rid : Bytes32}
      {c₁ : Credit} : c.reserveInternal d reg m id amount expiresAt = .ok (rid, c₁) →
      c₁.executeInternal d reg m rid minReceived = .ok c' →
      Booking d reg m c c' (.manager (.borrow id amount minReceived))

section
variable {d : Deployment} {reg : Registries} {m : Msg} {c c' : Credit} (hw : c.Wired d)
  (hs : m.sender ∉ d.contracts)
include hw hs

theorem ExposureCall.exec_booking {call : ExposureCall} (h : call.exec d reg m c = .ok c') :
    Booking d reg m c c' (.exposure call) := by
  cases call with
  | setManager manager enabled =>
    simp only [ExposureCall.exec, exposureSetManager] at h
    obtain ⟨_, -, h⟩ := bind_eq_ok.mp h
    obtain ⟨_, hnot, -⟩ := bind_eq_ok.mp h
    exact (revertIf_eq_ok.mp hnot hw.finalized).elim
  | finalizeWiring =>
    simp only [ExposureCall.exec, exposureFinalizeWiring] at h
    obtain ⟨_, -, h⟩ := bind_eq_ok.mp h
    obtain ⟨_, hnot, -⟩ := bind_eq_ok.mp h
    exact (revertIf_eq_ok.mp hnot hw.finalized).elim
  | enrollFacility id groupId => exact .enrolled h
  | setAuthorization id limit policy agreement version validUntil => exact .authorized h
  | reserve id amount approvalNonce expiresAt =>
    obtain ⟨⟨rid, q⟩, hc, rfl⟩ := map_eq_ok.mp h
    unfold Credit.reserve at hc
    obtain ⟨_, hman, -⟩ := bind_eq_ok.mp hc
    exact absurd (hw.exposure_mem (by simpa using revertIf_eq_ok.mp hman)) hs
  | consumeReservation rid => exact absurd (hw.exposure_mem (consumeReservation_ok h).1) hs
  | cancelReservation rid =>
    simp only [ExposureCall.exec, Credit.cancelReservation] at h
    obtain ⟨_, -, h⟩ := bind_eq_ok.mp h
    exact .released (fun hdraws => hdraws) (.inl rfl) h
  | expireReservation rid =>
    simp only [ExposureCall.exec, Credit.expireReservation] at h
    obtain ⟨_, -, h⟩ := bind_eq_ok.mp h
    exact .released (fun hdraws => hdraws) (.inr rfl) h

omit hw hs in
theorem ManagerCall.exec_booking {call : ManagerCall} (h : call.exec d reg m c = .ok c') :
    Booking d reg m c c' (.manager call) := by
  cases call with
  | openFacility i borrowerId wallet terms controlAgreementId controlVersion =>
    obtain ⟨htouch, -, hnew, -⟩ := openFacility_touches h
    simp only [ManagerCall.exec, Credit.openFacility] at h
    obtain ⟨_, -, h⟩ := bind_eq_ok.mp h
    obtain ⟨_, -, h⟩ := bind_eq_ok.mp h
    obtain ⟨_, -, h⟩ := bind_eq_ok.mp h
    obtain ⟨_, -, h⟩ := bind_eq_ok.mp h
    obtain ⟨_, -, h⟩ := bind_eq_ok.mp h
    split at h
    · cases h
    · obtain ⟨_, -, h⟩ := bind_eq_ok.mp h
      obtain ⟨_, -, h⟩ := bind_eq_ok.mp h
      obtain ⟨_, -, h⟩ := bind_eq_ok.mp h
      obtain ⟨l, -, h⟩ := bind_eq_ok.mp h
      have hframe := setFacilityState_framed h
      exact .opened (fun hdraws => hdraws) hnew hframe.exposure hframe.anchors fun j hj => (htouch.others j hj).1
  | transition i target => exact .framed (fun hdraws => hdraws) (setFacilityState_framed (transition_ok h).2.2)
  | freezeDraws i => exact .framed (fun hdraws => hdraws) (freezeDraws_framed h)
  | pauseDraws paused =>
    simp only [ManagerCall.exec, Credit.pauseDraws] at h
    obtain ⟨_, -, h⟩ := bind_eq_ok.mp h
    obtain ⟨_, -, h⟩ := bind_eq_ok.mp h
    obtain rfl := pure_eq_ok.mp h
    exact .framed (fun hdraws => hdraws) ⟨by rfl, by rfl, fun _ => rfl⟩
  | approveDrawResume =>
    simp only [ManagerCall.exec, Credit.approveDrawResume] at h
    obtain ⟨_, -, h⟩ := bind_eq_ok.mp h
    obtain rfl := pure_eq_ok.mp h
    exact .framed (fun hdraws => hdraws) ⟨by rfl, by rfl, fun _ => rfl⟩
  | bindRecoveryManager manager =>
    simp only [ManagerCall.exec, managerBindRecovery] at h
    obtain ⟨_, -, h⟩ := bind_eq_ok.mp h
    obtain ⟨_, -, h⟩ := bind_eq_ok.mp h
    obtain ⟨_, -, h⟩ := bind_eq_ok.mp h
    obtain rfl := pure_eq_ok.mp h
    exact .framed (fun hdraws => hdraws) ⟨by rfl, by rfl, fun _ => rfl⟩
  | syncRepaid i => exact .framed (fun hdraws => hdraws) (syncRepaid_framed h)
  | recoveryTransition i target => exact .framed (fun hdraws => hdraws) (recoveryTransition_framed h)
  | anchorAuthorization auth approval => exact .anchored h
  | borrow i amount minReceived =>
    simp only [ManagerCall.exec, Credit.borrow] at h
    obtain ⟨expiresAt, -, h⟩ := bind_eq_ok.mp h
    obtain ⟨⟨rid, c₁⟩, hres, h⟩ := bind_eq_ok.mp h
    exact .borrowed hres h
  | reserveDraw i amount ttl =>
    obtain ⟨⟨rid, q⟩, hc, rfl⟩ := map_eq_ok.mp h
    unfold Credit.reserveDraw at hc
    obtain ⟨_, -, hc⟩ := bind_eq_ok.mp hc
    obtain ⟨_, -, hc⟩ := bind_eq_ok.mp hc
    exact .reserved hc
  | executeReservedDraw rid minReceived => exact .drawn h
  | repayFor i amount =>
    obtain ⟨⟨r, q⟩, hc, rfl⟩ := map_eq_ok.mp h
    exact .framed (fun hdraws => hdraws) (managerRepayFor_framed hc)
  | claimRefund i =>
    simp only [ManagerCall.exec, Credit.claimRefund] at h
    obtain ⟨_, -, h⟩ := bind_eq_ok.mp h
    obtain ⟨_, -, h⟩ := bind_eq_ok.mp h
    obtain ⟨_, -, h⟩ := bind_eq_ok.mp h
    obtain ⟨pool, -, h⟩ := bind_eq_ok.mp h
    obtain rfl := pure_eq_ok.mp h
    exact .framed (fun hdraws => hdraws) (.of_eq (by rfl) (by rfl))

theorem CreditCall.exec_booking {call : CreditCall} (h : call.exec d reg m c = .ok c') :
    Booking d reg m c c' call := by
  cases call with
  | vault call =>
    obtain ⟨p, -, rfl⟩ := map_eq_ok.mp h
    exact .framed (fun hdraws => hdraws) (.of_eq (by rfl) (by rfl))
  | ledger call =>
    obtain ⟨l, -, rfl⟩ := map_eq_ok.mp h
    exact .framed (fun hdraws => hdraws) (.of_eq (by rfl) (by rfl))
  | token call =>
    obtain ⟨t, -, rfl⟩ := map_eq_ok.mp h
    exact .framed (fun hdraws => hdraws) (.of_eq (by rfl) (by rfl))
  | exposure call => exact ExposureCall.exec_booking hw hs h
  | manager call => exact ManagerCall.exec_booking h
  | router call => exact .framed (fun hdraws => hdraws) (RouterCall.exec_framed h)
  | recovery call => exact .framed (fun hdraws => hdraws) (RecoveryCall.exec_framed h)

end

/-- Every transaction of the protocol, as the controller's books see it. -/
theorem CreditStep.booking {d : Deployment} {s s' : CreditState} {tx : Tx} (hi : s.Inv d)
    (h : CreditStep d s tx s') : Booking d tx.reg tx.msg s.credit s'.credit tx.call :=
  CreditCall.exec_booking hi.wired h.2.1 h.2.2.1

end Rackline
