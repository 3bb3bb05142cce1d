import Rackline.Proofs.CreditOps

/-!
# `Rackline.Proofs.CreditInvariant`: the protocol keeps its pool in order

The calls of the recovery manager, then every call of the protocol: from a wired state, a call
by anyone who is not one of the contracts is `Internal`. The pool of a protocol state is
therefore a pool that some coupled run reaches, and everything proved about those runs holds
for the pool of the protocol.
-/

set_option autoImplicit false

namespace Rackline

open Evm Transition

namespace Credit

variable {d : Deployment} {reg : Registries} {m : Msg} {now : Nat} {E : Effects}
  {c c' : Credit} {id : FacilityId}

/-! ### The recovery manager -/

theorem setScheduleOf_internal (hp : c.Paired) (s : Schedule) :
    Internal d now E c (c.setScheduleOf id s) :=
  .ofPool hp (.refl _) c.router _

theorem setSchedule_internal (hp : c.Paired) {dueAt grace disputeWindow dueAmount : Nat}
    (h : c.setSchedule m id dueAt grace disputeWindow dueAmount = .ok c') :
    Internal d now E c c' := by
  unfold setSchedule at h
  obtain ⟨_, -, h⟩ := bind_eq_ok.mp h
  obtain ⟨state, -, h⟩ := bind_eq_ok.mp h
  obtain ⟨_, -, h⟩ := bind_eq_ok.mp h
  obtain ⟨_, -, h⟩ := bind_eq_ok.mp h
  obtain ⟨_, -, h⟩ := bind_eq_ok.mp h
  obtain ⟨disputeUntil, -, h⟩ := bind_eq_ok.mp h
  obtain rfl := pure_eq_ok.mp h
  exact setScheduleOf_internal hp _

theorem markDelinquent_internal (hp : c.Paired) (h : c.markDelinquent d reg m id = .ok c') :
    Internal d m.now E c c' := by
  unfold markDelinquent at h
  obtain ⟨_, -, h⟩ := bind_eq_ok.mp h
  obtain ⟨paid, -, h⟩ := bind_eq_ok.mp h
  obtain ⟨_, -, h⟩ := bind_eq_ok.mp h
  exact recoveryTransition_internal (m := m.calledBy d.recovery) hp (fun ht => by cases ht) h

/-- A cure: to `REPAID` without debt, else the transition to `ACTIVE`. -/
theorem cure_ok (h : c.cure d reg m id = .ok c') :
    ∃ debt c₁ s, c.pool.ledger.legalDebtAt id m.now = .ok debt ∧
      (debt = 0 ∧ c.syncRepaid d (m.calledBy d.recovery) id = .ok c₁ ∨
        debt ≠ 0 ∧ c.recoveryTransition d reg (m.calledBy d.recovery) id .active = .ok c₁) ∧
      c' = c₁.setScheduleOf id s := by
  unfold cure at h
  obtain ⟨paid, -, h⟩ := bind_eq_ok.mp h
  obtain ⟨_, -, h⟩ := bind_eq_ok.mp h
  obtain ⟨debt, hdebt, h⟩ := bind_eq_ok.mp h
  obtain ⟨c₁, hc₁, h⟩ := bind_eq_ok.mp h
  refine ⟨debt, c₁, _, hdebt, ?_, (pure_eq_ok.mp h).symm⟩
  unfold cureState at hc₁
  split at hc₁
  · rename_i hz
    exact .inl ⟨hz, hc₁⟩
  · rename_i hz
    exact .inr ⟨hz, hc₁⟩

theorem cure_internal (hp : c.Paired) (h : c.cure d reg m id = .ok c') :
    Internal d m.now ⟨{id}, ∅⟩ c c' := by
  obtain ⟨debt, c₁, s, -, hc₁, rfl⟩ := cure_ok h
  have hint : Internal d m.now ⟨{id}, ∅⟩ c c₁ := by
    rcases hc₁ with ⟨-, hsync⟩ | ⟨-, htrans⟩
    · exact syncRepaid_internal hp hsync
    · exact recoveryTransition_internal (m := m.calledBy d.recovery) hp (fun _ => rfl) htrans
  exact hint.trans (setScheduleOf_internal hint.paired s)

theorem setDispute_internal (hp : c.Paired) {disputed : Bool}
    (h : c.setDispute m id disputed = .ok c') : Internal d now E c c' := by
  unfold setDispute at h
  obtain ⟨_, -, h⟩ := bind_eq_ok.mp h
  obtain ⟨_, -, h⟩ := bind_eq_ok.mp h
  obtain rfl := pure_eq_ok.mp h
  exact setScheduleOf_internal hp _

theorem approveDefault_internal (hp : c.Paired) {reason : Bytes32}
    (h : c.approveDefault m id reason = .ok c') : Internal d now E c c' := by
  unfold approveDefault at h
  obtain ⟨_, -, h⟩ := bind_eq_ok.mp h
  obtain ⟨_, -, h⟩ := bind_eq_ok.mp h
  obtain ⟨_, -, h⟩ := bind_eq_ok.mp h
  obtain rfl := pure_eq_ok.mp h
  exact setScheduleOf_internal hp _

theorem declareDefault_internal (hp : c.Paired) (h : c.declareDefault d reg m id = .ok c') :
    Internal d m.now E c c' := by
  unfold declareDefault at h
  obtain ⟨_, -, h⟩ := bind_eq_ok.mp h
  obtain ⟨_, -, h⟩ := bind_eq_ok.mp h
  obtain ⟨_, -, h⟩ := bind_eq_ok.mp h
  obtain ⟨c₁, htrans, h⟩ := bind_eq_ok.mp h
  obtain ⟨l, hl, h⟩ := bind_eq_ok.mp h
  obtain rfl := pure_eq_ok.mp h
  have hsched : Internal d m.now E c (c.setScheduleOf id
      { c.recovery.schedules id with defaultApproved := false }) := setScheduleOf_internal hp _
  have hint := hsched.trans (recoveryTransition_internal (m := m.calledBy d.recovery)
    hsched.paired (fun ht => by cases ht) htrans)
  exact hint.trans (.ofPool hint.paired
    (trace_ledger d.recovery_ne (.freezeAccrual id) trivial hl) c₁.router c₁.recovery)

theorem beginRecovery_internal (hp : c.Paired) (h : c.beginRecovery d reg m id = .ok c') :
    Internal d m.now E c c' := by
  unfold beginRecovery at h
  obtain ⟨_, -, h⟩ := bind_eq_ok.mp h
  exact recoveryTransition_internal (m := m.calledBy d.recovery) hp (fun ht => by cases ht) h

theorem fundReserve_internal (hp : c.Paired) {amount : Nat}
    (h : c.fundReserve d m id amount = .ok c') : Internal d m.now E c c' := by
  unfold fundReserve at h
  obtain ⟨_, -, h⟩ := bind_eq_ok.mp h
  obtain ⟨_, -, h⟩ := bind_eq_ok.mp h
  split at h
  · cases h
  · rename_i token htoken
    obtain ⟨got, -, h⟩ := bind_eq_ok.mp h
    obtain ⟨_, -, h⟩ := bind_eq_ok.mp h
    obtain ⟨pledged, -, h⟩ := bind_eq_ok.mp h
    obtain rfl := pure_eq_ok.mp h
    refine .ofPool hp (trace_token d.recovery_ne (.transferFrom m.sender d.recovery amount) ?_)
      c.router _
    simp only [TokenCall.exec, Msg.calledBy, htoken]

theorem approveRouter_internal (hp : c.Paired) (amount : Nat) :
    Internal d m.now E c (c.approveRouter d amount) :=
  .ofPool hp (trace_token d.recovery_ne (.approve d.router amount) rfl) c.router c.recovery

/-- Repaying from the reserve: nothing, or an approval, a repayment through the router, and the
end of the approval. -/
theorem applyReserveInternal_ok (h : c.applyReserveInternal d m id = .ok c') :
    c' = c ∨ ∃ amount s r c₁,
      ((c.setScheduleOf id s).approveRouter d amount).repayExact d (m.calledBy d.recovery) id
        amount = .ok (r, c₁) ∧ c' = c₁.approveRouter d 0 := by
  unfold applyReserveInternal at h
  obtain ⟨state, -, h⟩ := bind_eq_ok.mp h
  obtain ⟨_, -, h⟩ := bind_eq_ok.mp h
  obtain ⟨debt, -, h⟩ := bind_eq_ok.mp h
  dsimp only at h
  generalize hs : { c.recovery.schedules id with
    pledgedReserve := (c.recovery.schedules id).pledgedReserve -
      (if (c.recovery.schedules id).pledgedReserve < debt then
        (c.recovery.schedules id).pledgedReserve else debt) } = s at h
  generalize (if (c.recovery.schedules id).pledgedReserve < debt then
    (c.recovery.schedules id).pledgedReserve else debt) = amount at h
  split at h
  · exact .inl (pure_eq_ok.mp h).symm
  · obtain ⟨⟨r, c₁⟩, hrepay, h⟩ := bind_eq_ok.mp h
    exact .inr ⟨amount, s, r, c₁, hrepay, (pure_eq_ok.mp h).symm⟩

theorem applyReserveInternal_internal (hp : c.Paired)
    (h : c.applyReserveInternal d m id = .ok c') : Internal d m.now E c c' := by
  obtain rfl | ⟨amount, s, r, c₁, hrepay, rfl⟩ := applyReserveInternal_ok h
  · exact .refl hp
  · have hsched : Internal d m.now E c (c.setScheduleOf id s) := setScheduleOf_internal hp s
    have hstart := hsched.trans (approveRouter_internal hsched.paired amount)
    have hrep := (repayExact_ok (m := m.calledBy d.recovery) (E := E) hstart.paired hrepay).1
    exact (hstart.trans hrep).trans (approveRouter_internal hrep.paired 0)

theorem applyReserve_internal (hp : c.Paired) (h : c.applyReserve d m id = .ok c') :
    Internal d m.now E c c' := by
  unfold applyReserve at h
  obtain ⟨_, -, h⟩ := bind_eq_ok.mp h
  exact applyReserveInternal_internal hp h

theorem returnReserve_internal (hp : c.Paired) (h : c.returnReserve d m id = .ok c') :
    Internal d m.now E c c' := by
  unfold returnReserve at h
  obtain ⟨_, -, h⟩ := bind_eq_ok.mp h
  obtain ⟨debt, -, h⟩ := bind_eq_ok.mp h
  obtain ⟨_, -, h⟩ := bind_eq_ok.mp h
  split at h
  · cases h
  · rename_i token htoken
    obtain rfl := pure_eq_ok.mp h
    refine .ofPool hp (trace_token d.recovery_ne
      (.transfer m.sender (c.recovery.schedules id).pledgedReserve) ?_) c.router _
    simp only [TokenCall.exec, Msg.calledBy, htoken]

theorem impair_internal (hp : c.Paired) {lossId : Bytes32} {amount : Nat}
    (h : c.impair d m id lossId amount = .ok c') : Internal d m.now E c c' := by
  unfold impair at h
  obtain ⟨_, -, h⟩ := bind_eq_ok.mp h
  obtain ⟨_, -, h⟩ := bind_eq_ok.mp h
  obtain ⟨pool, hpool, h⟩ := bind_eq_ok.mp h
  obtain rfl := pure_eq_ok.mp h
  exact .ofPool hp (trace_vault d.recovery_ne (.recognizeImpairment id amount) trivial hpool)
    c.router _

theorem recoveryReverseImpairment_internal (hp : c.Paired) {amount : Nat}
    (h : c.recoveryReverseImpairment d m id amount = .ok c') : Internal d m.now E c c' := by
  unfold recoveryReverseImpairment at h
  obtain ⟨_, -, h⟩ := bind_eq_ok.mp h
  obtain ⟨pool, hpool, h⟩ := bind_eq_ok.mp h
  obtain rfl := pure_eq_ok.mp h
  exact .ofPool hp (trace_vault d.recovery_ne (.reverseImpairment id amount) trivial hpool)
    c.router c.recovery

theorem approveWriteOff_internal (hp : c.Paired) {lossId : Bytes32}
    (h : c.approveWriteOff m id lossId = .ok c') : Internal d now E c c' := by
  unfold approveWriteOff at h
  obtain ⟨_, -, h⟩ := bind_eq_ok.mp h
  obtain ⟨_, -, h⟩ := bind_eq_ok.mp h
  obtain ⟨state, -, h⟩ := bind_eq_ok.mp h
  obtain ⟨_, -, h⟩ := bind_eq_ok.mp h
  obtain rfl := pure_eq_ok.mp h
  exact setScheduleOf_internal hp _

/-- A write-off: the reserve, then either the facility is repaid or the vault takes the loss. -/
theorem recoveryWriteOff_internal (hp : c.Paired) {lossId : Bytes32}
    (h : c.recoveryWriteOff d reg m id lossId = .ok c') : Internal d m.now E c c' := by
  unfold recoveryWriteOff at h
  obtain ⟨_, -, h⟩ := bind_eq_ok.mp h
  obtain ⟨_, -, h⟩ := bind_eq_ok.mp h
  obtain ⟨_, -, h⟩ := bind_eq_ok.mp h
  obtain ⟨c₁, hres, h⟩ := bind_eq_ok.mp h
  have hint : Internal d m.now E c c₁ := applyReserveInternal_internal hp hres
  obtain ⟨debt, -, h⟩ := bind_eq_ok.mp h
  split at h
  · exact hint.trans (syncRepaid_internal hint.paired h)
  · obtain ⟨pool, hpool, h⟩ := bind_eq_ok.mp h
    refine (hint.trans (.ofPool hint.paired
      (trace_vault d.recovery_ne (.writeOff id) trivial hpool) c₁.router _)).trans
      (recoveryTransition_internal (m := m.calledBy d.recovery) hint.paired
        (fun ht => by cases ht) h)

/-! ### Every call -/

/-- The protocol is wired as the deploy script leaves it, and its reservations are paired. -/
structure Wired (d : Deployment) (c : Credit) : Prop where
  pool : c.pool.Wired d
  managers : c.exposure.isManager = Function.update (fun _ => false) d.manager true
  finalized : c.exposure.wiringFinalized = true
  recovery : c.manager.recoveryManager = d.recovery
  paired : c.Paired

theorem Internal.wired (hw : c.Wired d) (h : Internal d now E c c') : c'.Wired d :=
  ⟨Trace.invariant (fun _ _ hp hact => hact.wired hp) h.trace hw.pool,
    h.managers.trans hw.managers, h.finalized.trans hw.finalized, h.recovery.trans hw.recovery,
    h.paired⟩

/-- The pool after an internal call is still one that a coupled run reaches. Wiring and
reachability go together along the trace: each action needs the wiring before it. -/
theorem Internal.coupled (hw : c.Wired d) (hc : CoupledBy now c.pool)
    (h : Internal d now E c c') : CoupledBy now c'.pool :=
  (Trace.invariant (P := fun p => p.Wired d ∧ CoupledBy now p)
    (fun _ _ hp hact => ⟨hact.wired hp.1, hact.coupled hp.1 hp.2⟩) h.trace ⟨hw.pool, hc⟩).2

/-- Only contracts write the ledger. -/
theorem Wired.writer_mem (hw : c.Wired d) {a : Address} (h : c.pool.ledger.isWriter a = true) :
    a ∈ d.contracts := by
  rw [hw.pool.writers] at h
  unfold Deployment.contracts
  by_contra hnot
  simp only [List.mem_cons, not_or] at hnot
  obtain ⟨-, he, hm, hr, hv, -⟩ := hnot
  simp [Deployment.ledger, Function.update_of_ne, he, hm, hr, hv] at h

/-- Only contracts manage the vault. -/
theorem Wired.manager_mem (hw : c.Wired d) {a : Address} (h : c.pool.vault.isManager a = true) :
    a ∈ d.contracts := by
  rw [hw.pool.managers] at h
  unfold Deployment.contracts
  by_contra hnot
  simp only [List.mem_cons, not_or] at hnot
  obtain ⟨-, -, hm, hr, -, -⟩ := hnot
  simp [Deployment.lendingVault, Function.update_of_ne, hm, hr] at h

theorem Wired.exposure_mem (hw : c.Wired d) {a : Address} (h : c.exposure.isManager a = true) :
    a ∈ d.contracts := by
  rw [hw.managers] at h
  by_cases ha : a = d.manager
  · simp [Deployment.contracts, ha]
  · simp [Function.update_of_ne ha] at h

end Credit

/-- The effects of a call beyond those of every call. -/
def CreditCall.effects : CreditCall → Credit.Effects
  | .vault call => ⟨∅, {call}⟩
  | .manager (.transition id _) => ⟨{id}, ∅⟩
  | .recovery (.cure id) => ⟨{id}, ∅⟩
  | _ => ⟨∅, ∅⟩

theorem Deployment.outsider_ne_vault {d : Deployment} {a : Address} (h : a ∉ d.contracts) :
    a ≠ d.vault := by
  rintro heq
  exact h (by simp [Deployment.contracts, heq])

section
variable {d : Deployment} {reg : Registries} {m : Msg} {c c' : Credit} (hw : c.Wired d)
  (hs : m.sender ∉ d.contracts)
include hw hs

/-- A vault call by an outsider is complete in itself: the others need a manager. -/
theorem VaultCall.plain_of_outsider {call : VaultCall} {p' : Pool}
    (h : call.exec m c.pool = .ok p') : call.Plain := by
  cases call with
  | lend id dst amount => exact absurd (hw.manager_mem (Pool.lend_ok h).1) hs
  | onRepayment id result => exact absurd (hw.manager_mem (Pool.onRepayment_ok h).1) hs
  | recordRecovery id amount =>
    simp only [VaultCall.exec, Pool.recordRecovery] at h
    obtain ⟨_, hm, -⟩ := bind_eq_ok.mp h
    exact absurd (hw.manager_mem (by simpa using revertIf_eq_ok.mp hm)) hs
  | _ => trivial

/-- A ledger call by an outsider is complete in itself: an allocation needs a writer. -/
theorem LedgerCall.plain_of_outsider {call : LedgerCall} {l : Ledger}
    (h : call.exec m c.pool.ledger = .ok l) : call.Plain := by
  cases call with
  | allocate id received =>
    obtain ⟨⟨r, q⟩, hc, -⟩ := map_eq_ok.mp h
    unfold Ledger.allocate at hc
    obtain ⟨_, hwr, -⟩ := bind_eq_ok.mp hc
    exact absurd (hw.writer_mem (by simpa using revertIf_eq_ok.mp hwr)) hs
  | _ => trivial

open Credit

theorem ExposureCall.exec_internal {call : ExposureCall} (h : call.exec d reg m c = .ok c') :
    Internal d m.now ⟨∅, ∅⟩ c c' := by
  have hp := hw.paired
  cases call with
  | setManager manager enabled =>
    simp only [ExposureCall.exec, exposureSetManager] at h
    obtain ⟨_, -, h⟩ := bind_eq_ok.mp h
    obtain ⟨_, hnot, -⟩ := bind_eq_ok.mp h
    exact (revertIf_eq_ok.mp hnot hw.finalized).elim
  | finalizeWiring =>
    simp only [ExposureCall.exec, exposureFinalizeWiring] at h
    obtain ⟨_, -, h⟩ := bind_eq_ok.mp h
    obtain ⟨_, hnot, -⟩ := bind_eq_ok.mp h
    exact (revertIf_eq_ok.mp hnot hw.finalized).elim
  | enrollFacility id groupId => exact enrollFacility_internal hp h
  | setAuthorization id limit policy agreement version validUntil =>
    exact setAuthorization_internal hp h
  | reserve id amount approvalNonce expiresAt =>
    -- Only the manager reserves, so that the pairing is its own.
    obtain ⟨⟨rid, q⟩, hc, -⟩ := map_eq_ok.mp h
    unfold Credit.reserve at hc
    obtain ⟨_, hman, -⟩ := bind_eq_ok.mp hc
    exact absurd (hw.exposure_mem (by simpa using revertIf_eq_ok.mp hman)) hs
  | consumeReservation rid => exact absurd (hw.exposure_mem (consumeReservation_ok h).1) hs
  | cancelReservation rid => exact cancelReservation_internal hp h
  | expireReservation rid => exact expireReservation_internal hp h

theorem ManagerCall.exec_internal {call : ManagerCall} (h : call.exec d reg m c = .ok c') :
    Internal d m.now (CreditCall.effects (.manager call)) c c' := by
  have hp := hw.paired
  cases call with
  | openFacility => exact openFacility_internal hp h
  | transition id target =>
    exact setFacilityState_internal (transition_ok h).2.2 hp fun _ => rfl
  | freezeDraws id => exact freezeDraws_internal hp h
  | pauseDraws paused => exact pauseDraws_internal hp h
  | approveDrawResume => exact approveDrawResume_internal hp h
  | bindRecoveryManager manager =>
    -- The recovery manager is bound once, by the deployment.
    simp only [ManagerCall.exec, managerBindRecovery] at h
    obtain ⟨_, -, h⟩ := bind_eq_ok.mp h
    obtain ⟨_, hnot, -⟩ := bind_eq_ok.mp h
    have hzero : d.recovery = 0 :=
      hw.recovery.symm.trans (Classical.not_not.mp (revertIf_eq_ok.mp hnot))
    exact absurd (by simp [hzero]) d.nonzero
  | syncRepaid id => exact syncRepaid_internal hp h
  | recoveryTransition id target =>
    have hsender := (recoveryTransition_ok h).1.trans hw.recovery
    exact absurd (by simp [Deployment.contracts, hsender]) hs
  | anchorAuthorization auth approval => exact anchorAuthorization_internal hp h
  | borrow id amount minReceived => exact borrow_internal hp h
  | reserveDraw id amount ttl =>
    obtain ⟨⟨rid, q⟩, hc, rfl⟩ := map_eq_ok.mp h
    exact reserveDraw_internal hp hc
  | executeReservedDraw rid minReceived => exact (executeInternal_ok hp h).1
  | repayFor id amount =>
    obtain ⟨⟨r, q⟩, hc, rfl⟩ := map_eq_ok.mp h
    exact (managerRepayFor_ok hp hc).1
  | claimRefund id => exact claimRefund_internal hp h

omit hs in
theorem RouterCall.exec_internal {call : RouterCall} (h : call.exec d m c = .ok c') :
    Internal d m.now ⟨∅, ∅⟩ c c' := by
  have hp := hw.paired
  cases call with
  | repayFor id amount =>
    obtain ⟨⟨r, q⟩, hc, rfl⟩ := map_eq_ok.mp h
    exact (routerRepayFor_ok hp hc).1
  | repayExact id maxAmount =>
    obtain ⟨⟨r, q⟩, hc, rfl⟩ := map_eq_ok.mp h
    exact (repayExact_ok hp hc).1
  | recordDestinationReceipt settlementId amount =>
    simp only [RouterCall.exec, Credit.recordDestinationReceipt] at h
    obtain ⟨_, -, h⟩ := bind_eq_ok.mp h
    obtain ⟨⟨got, q⟩, hc, h⟩ := bind_eq_ok.mp h
    obtain rfl := pure_eq_ok.mp h
    exact recordReceipt_internal hp hc
  | allocate settlementId id amount =>
    obtain ⟨⟨r, q⟩, hc, rfl⟩ := map_eq_ok.mp h
    unfold allocateSettlement at hc
    obtain ⟨_, -, hc⟩ := bind_eq_ok.mp hc
    exact (allocateFromReceipt_ok hp hc).1
  | receiveSettlement id settlementId amount =>
    obtain ⟨⟨r, q⟩, hc, rfl⟩ := map_eq_ok.mp h
    unfold Credit.receiveSettlement at hc
    obtain ⟨_, -, hc⟩ := bind_eq_ok.mp hc
    obtain ⟨⟨got, c₁⟩, hrec, hc⟩ := bind_eq_ok.mp hc
    have hint : Internal d m.now ⟨∅, ∅⟩ c c₁ := recordReceipt_internal hp hrec
    exact hint.trans (allocateFromReceipt_ok hint.paired hc).1
  | refundExcess id dst => exact routerRefundExcess_internal hp h

theorem RecoveryCall.exec_internal {call : RecoveryCall} (h : call.exec d reg m c = .ok c') :
    Internal d m.now (CreditCall.effects (.recovery call)) c c' := by
  have hp := hw.paired
  cases call with
  | setSchedule => exact setSchedule_internal hp h
  | observeAllocation id amount =>
    rcases (observeAllocation_ok h).1 with hsender | hsender
    · exact absurd (by simp [Deployment.contracts, hsender]) hs
    · exact absurd (by simp [Deployment.contracts, hsender]) hs
  | markDelinquent id => exact markDelinquent_internal hp h
  | cure id => exact cure_internal hp h
  | setDispute id disputed => exact setDispute_internal hp h
  | approveDefault id reason => exact approveDefault_internal hp h
  | declareDefault id => exact declareDefault_internal hp h
  | beginRecovery id => exact beginRecovery_internal hp h
  | fundReserve id amount => exact fundReserve_internal hp h
  | applyReserve id => exact applyReserve_internal hp h
  | returnReserve id => exact returnReserve_internal hp h
  | impair id lossId amount => exact impair_internal hp h
  | reverseImpairment id amount => exact recoveryReverseImpairment_internal hp h
  | approveWriteOff id lossId => exact approveWriteOff_internal hp h
  | writeOff id lossId => exact recoveryWriteOff_internal hp h

/-- Every call by an outsider on a wired protocol is internal. -/
theorem CreditCall.exec_internal {call : CreditCall} (h : call.exec d reg m c = .ok c') :
    Internal d m.now call.effects c c' := by
  have hne := Deployment.outsider_ne_vault hs
  cases call with
  | vault call =>
    obtain ⟨p, hp, rfl⟩ := map_eq_ok.mp h
    exact .ofPool (E := CreditCall.effects (.vault call)) hw.paired (.single (.vault m call rfl hne
      (VaultCall.plain_of_outsider hw hs hp) (.inr rfl) hp)) c.router c.recovery
  | ledger call =>
    obtain ⟨l, hl, rfl⟩ := map_eq_ok.mp h
    exact .ofPool hw.paired (.single (.ledger m call rfl hne
      (LedgerCall.plain_of_outsider hw hs hl) hl)) c.router c.recovery
  | token call =>
    obtain ⟨t, ht, rfl⟩ := map_eq_ok.mp h
    exact .ofPool hw.paired (.single (.token m call rfl hne ht)) c.router c.recovery
  | exposure call => exact ExposureCall.exec_internal hw hs h
  | manager call => exact ManagerCall.exec_internal hw hs h
  | router call => exact RouterCall.exec_internal hw h
  | recovery call => exact RecoveryCall.exec_internal hw hs h

end

/-! ### Reachable states -/

theorem Pool.setManager_of {m : Msg} {p : Pool} {manager : Address} {enabled : Bool}
    (hadmin : m.hasRole .admin m.sender = true) (hopen : p.vault.wiringFinalized = false)
    (hman : manager ≠ 0) : p.setManager m manager enabled = .ok { p with vault := { p.vault with
      isManager := Function.update p.vault.isManager manager enabled } } := by
  unfold Pool.setManager
  rw [revertIf_of_not _ (by simp [hadmin]), ok_bind, revertIf_of_not _ (by simp [hopen]), ok_bind,
    revertIf_of_not _ hman]
  rfl

/-- The deployed pool is where the wiring calls of the deploy script lead: the pool of a
deployment is a coupled run away from an empty one. -/
theorem Deployment.coupledBy (d : Deployment) {token : Token Address}
    (htoken : ∀ spender, token.allowance d.vault spender = 0) (now : Nat) :
    CoupledBy now (d.credit token).pool := by
  have hzero : ∀ a ∈ d.contracts, a ≠ 0 := fun a ha h0 => d.nonzero (h0 ▸ ha)
  have hself : (0 : Address) ≠ d.vault := (hzero _ (by simp [Deployment.contracts])).symm
  let deployer : Msg :=
    { sender := 0, now := now, hasRole := fun _ _ => true, hasCode := fun _ => true }
  have h₀ : CoupledBy now { token := token, ledger := .initial, vault := .initial d.vault } :=
    ⟨now, Nat.le_refl _, Reachable.init ⟨rfl, rfl, htoken⟩⟩
  have h₁ := h₀.call deployer (.ledger (.setWriter d.manager true)) rfl hself trivial rfl
  have h₂ := h₁.call deployer (.ledger (.setWriter d.exposure true)) rfl hself trivial rfl
  have h₃ := h₂.call deployer (.ledger (.setWriter d.router true)) rfl hself trivial rfl
  have h₄ := h₃.call deployer (.ledger (.setWriter d.recovery true)) rfl hself trivial rfl
  have h₅ := h₄.call deployer (.vault (.setManager d.manager true)) rfl hself trivial
    (Pool.setManager_of rfl rfl (hzero _ (by simp [Deployment.contracts])))
  have h₆ := h₅.call deployer (.vault (.setManager d.router true)) rfl hself trivial
    (Pool.setManager_of rfl rfl (hzero _ (by simp [Deployment.contracts])))
  have h₇ := h₆.call deployer (.vault (.bindRecoveryManager d.recovery)) rfl hself trivial rfl
  have h₈ := h₇.call deployer (.ledger .finalizeWiring) rfl hself trivial rfl
  exact h₈.call deployer (.vault .finalizeWiring) rfl hself trivial rfl

/-- The invariant of the protocol's runs: wired, and with a pool that a coupled run reaches. -/
structure CreditState.Inv (d : Deployment) (s : CreditState) : Prop where
  wired : s.credit.Wired d
  coupled : CoupledBy s.now s.credit.pool

theorem CreditState.Initial.inv {d : Deployment} {s : CreditState} (h : s.Initial d) :
    s.Inv d := by
  obtain ⟨token, htoken, hs⟩ := h
  refine ⟨?_, hs ▸ d.coupledBy htoken s.now⟩
  rw [hs]
  exact ⟨⟨rfl, rfl, rfl, rfl, rfl, rfl⟩, rfl, rfl, rfl, fun _ => .inl rfl⟩

theorem CreditStep.internal {d : Deployment} {s s' : CreditState} {tx : Tx} (hi : s.Inv d)
    (h : CreditStep d s tx s') :
    Credit.Internal d s'.now tx.call.effects s.credit s'.credit := by
  obtain ⟨-, hsender, hexec, htime⟩ := h
  rw [htime]
  exact CreditCall.exec_internal hi.wired hsender hexec

/-- One transaction keeps the invariant. -/
theorem CreditStep.inv {d : Deployment} {s s' : CreditState} {tx : Tx} (hi : s.Inv d)
    (h : CreditStep d s tx s') : s'.Inv d := by
  have hint := h.internal hi
  have hlater : s.now ≤ s'.now := h.2.2.2 ▸ h.1
  exact ⟨hint.wired hi.wired, hint.coupled hi.wired (hi.coupled.later hlater)⟩

theorem CreditReachable.inv {d : Deployment} {s : CreditState} (h : CreditReachable d s) :
    s.Inv d :=
  Reachable.invariant (P := fun s => s.Inv d) (fun _ hinit => hinit.inv)
    (fun _ _ _ hs hstep => hstep.inv hs) h

end Rackline
