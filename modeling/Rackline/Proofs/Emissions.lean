import Rackline.ProtocolLogs
import Rackline.Proofs.Default

/-!
# `Rackline.Proofs.Emissions`: what the events of a call are about

A call of the protocol is a sequence of operations of the ledger, the vault and the facility
manager, and its events are those of the operations, in their order. `Emits` says so. The readers of
the log only have to know what one operation emits, and `Emits` does the rest.

Opening a facility is not such a sequence: a reader treats it as one operation. The calls of the
recovery manager are sequences for a reader that skips the events of the recovery manager itself.
-/

set_option autoImplicit false

namespace Rackline

open Evm EventLog Transition

/-- The events that tell nothing about a debt, a state or an impairment. -/
def ProtocolLog.Aside : ProtocolLog → Prop
  | .router _ => True
  | .manager (.authorizationAnchored _ _ _ _ _) => True
  | .manager (.drawReserved _) => True
  | .manager (.borrowed _) => True
  | .manager (.repaid _ _ _ _ _ _ _) => True
  | .manager (.excessRefunded _) => True
  | _ => False

/-- The events that tell nothing about a debt or a state: these, and those of the recovery
manager. -/
def ProtocolLog.OffBooks : ProtocolLog → Prop
  | .recovery _ => True
  | log => log.Aside

theorem ProtocolLog.Aside.offBooks {log : ProtocolLog} (h : log.Aside) : log.OffBooks := by
  unfold OffBooks
  split
  · trivial
  · exact h

/-- The operations of the ledger that the manager does not keep to itself: all but `open` and
`setState`. -/
def LedgerCall.Shared : LedgerCall → Prop
  | openFacility _ _ => False
  | setState _ _ => False
  | _ => True

/-- The debts, the impairments and the facilities are the same. -/
structure Credit.SameLoans (c c' : Credit) : Prop where
  ledger : c'.pool.ledger = c.pool.ledger
  impairment : c'.pool.vault.impairmentOf = c.pool.vault.impairmentOf
  facilities : c'.manager.facilities = c.manager.facilities

/-- A part of a call, with the events it emits. `Aside` holds of the events that it may emit
without an operation. -/
inductive Emits (Aside : ProtocolLog → Prop) (d : Deployment) :
    Credit → List ProtocolLog → Credit → Prop
  | aside {c c' : Credit} {logs : List ProtocolLog} : (∀ log ∈ logs, Aside log) →
      c.SameLoans c' → Emits Aside d c logs c'
  | ledger {c : Credit} {l : Ledger} (m : Msg) (call : LedgerCall) : call.Shared →
      call.exec m c.pool.ledger = .ok l →
      Emits Aside d c ((call.logs m c.pool.ledger).map .ledger)
        { c with pool := { c.pool with ledger := l } }
  | vault {c : Credit} {p : Pool} (m : Msg) (call : VaultCall) : call.exec m c.pool = .ok p →
      Emits Aside d c ((call.logs m c.pool).map .vault) { c with pool := p }
  | state {c c' : Credit} (m : Msg) (id : FacilityId) (target : FacilityState) :
      c.setFacilityState d m id target = .ok c' → Emits Aside d c (c.setFacilityStateLogs id target) c'
  | froze {c c' : Credit} (m : Msg) (id : FacilityId) :
      c.setFacilityState d m id .drawFrozen = .ok c' → Emits Aside d c (c.freezeDrawsLogs m id) c'
  | append {c c₁ c₂ : Credit} {logs more : List ProtocolLog} :
      Emits Aside d c logs c₁ → Emits Aside d c₁ more c₂ → Emits Aside d c (logs ++ more) c₂

section
variable {Aside : ProtocolLog → Prop} {d : Deployment} {c c₁ c₂ : Credit} {logs : List ProtocolLog}

theorem Emits.nothing (h : c.SameLoans c₁) : Emits Aside d c [] c₁ := .aside (fun _ hl => nomatch hl) h

theorem Emits.one {log : ProtocolLog} (hlog : Aside log) (h : c.SameLoans c₁) :
    Emits Aside d c [log] c₁ := by
  refine .aside (fun l hl => ?_) h
  rw [List.mem_singleton.mp hl]
  exact hlog

theorem Emits.same (h : Emits Aside d c logs c₁) (hs : c₁.SameLoans c₂) : Emits Aside d c logs c₂ := by
  simpa using h.append (.nothing hs)

theorem Emits.mono {Other : ProtocolLog → Prop} (hmono : ∀ log, Aside log → Other log)
    (h : Emits Aside d c logs c₁) : Emits Other d c logs c₁ := by
  induction h with
  | aside hlogs hloans => exact .aside (fun log hl => hmono log (hlogs log hl)) hloans
  | ledger m call hshared hexec => exact .ledger m call hshared hexec
  | vault m call hexec => exact .vault m call hexec
  | state m id target hset => exact .state m id target hset
  | froze m id hset => exact .froze m id hset
  | append _ _ ih ih' => exact ih.append ih'

theorem Emits.offBooks (h : Emits ProtocolLog.Aside d c logs c₁) :
    Emits ProtocolLog.OffBooks d c logs c₁ := h.mono fun _ hl => hl.offBooks

theorem Emits.from (h : Emits Aside d c₁ logs c₂) (hs : c.SameLoans c₁) : Emits Aside d c logs c₂ :=
  Emits.append (.nothing hs) h

end

namespace Credit

variable {d : Deployment} {reg : Registries} {m : Msg} {c c' : Credit} {id : FacilityId}

/-! ### States -/

theorem syncRepaid_emits (h : c.syncRepaid d m id = .ok c') : Emits ProtocolLog.Aside d c (c.syncRepaidLogs id) c' := by
  unfold syncRepaid at h
  obtain ⟨_, -, h⟩ := bind_eq_ok.mp h
  obtain ⟨debt, -, h⟩ := bind_eq_ok.mp h
  obtain ⟨_, -, h⟩ := bind_eq_ok.mp h
  unfold syncRepaidLogs
  split at h
  · rename_i hsyncs
    rw [if_pos hsyncs]
    exact .state m id .repaid h
  · rename_i hstays
    rw [if_neg hstays]
    obtain rfl := pure_eq_ok.mp h
    exact .nothing ⟨rfl, rfl, rfl⟩

theorem recoveryTransition_emits {target : FacilityState}
    (h : c.recoveryTransition d reg m id target = .ok c') :
    Emits ProtocolLog.Aside d c (c.setFacilityStateLogs id target) c' :=
  .state m id target (recoveryTransition_ok h).2.2

/-! ### Repayments -/

theorem repay_emits {got requested : Nat} {r : RepayResult} {p : Pool}
    (h : c.pool.repay m id got requested = .ok (r, p)) :
    Emits ProtocolLog.Aside d c (c.pool.repayLogs m id got requested) { c with pool := p } := by
  obtain ⟨split, ledger, hl, rfl, hreport⟩ := Pool.repay_ok h
  simp only [Pool.repayLogs, hl]
  have hexec : LedgerCall.exec m c.pool.ledger (.allocate id got) = .ok ledger := by
    simp only [LedgerCall.exec, hl]
    rfl
  exact (Emits.ledger m (.allocate id got) trivial hexec).append
    (.vault (c := { c with pool := { c.pool with ledger := ledger } }) m (.onRepayment id _) hreport)

theorem reportAllocation_sameLoans {amount : Nat} (h : c.reportAllocation d m id amount = .ok c') :
    c.SameLoans c' := by
  obtain ⟨recovery, rfl⟩ := reportAllocation_ok h
  exact ⟨rfl, rfl, rfl⟩

theorem applyReceived_emits {ref : Bytes32} {requested got : Nat} {r : RepayResult}
    (h : c.applyReceived d m id requested got = .ok (r, c')) :
    Emits ProtocolLog.Aside d c (c.applyReceivedLogs d m id ref requested got) c' := by
  unfold applyReceived at h
  obtain ⟨⟨r', pool⟩, hrepay, h⟩ := bind_eq_ok.mp h
  have hpaid := repay_emits (d := d) hrepay
  dsimp only at h
  simp only [applyReceivedLogs, hrepay]
  split at h
  · rename_i hhas
    obtain ⟨c₁, hreport, h⟩ := bind_eq_ok.mp h
    have hloans := reportAllocation_sameLoans hreport
    have hreported := hpaid.same hloans
    split at h
    · rename_i hzero
      obtain ⟨c₂, hsync, h⟩ := bind_eq_ok.mp h
      have hres := pure_eq_ok.mp h
      simp only [Prod.mk.injEq] at hres
      obtain ⟨rfl, rfl⟩ := hres
      rw [if_pos ⟨hhas, hzero⟩]
      -- `syncRepaid` reads the state, which the repayment left as it was.
      have hstate : c₁.manager.facilities = c.manager.facilities := hloans.facilities
      have hlogs : c.syncRepaidLogs id = c₁.syncRepaidLogs id := by
        unfold syncRepaidLogs setFacilityStateLogs
        rw [hstate]
      rw [hlogs]
      exact (hreported.append (syncRepaid_emits hsync)).append (.one trivial ⟨rfl, rfl, rfl⟩)
    · rename_i hdebt
      have hres := pure_eq_ok.mp h
      simp only [Prod.mk.injEq] at hres
      obtain ⟨rfl, rfl⟩ := hres
      rw [if_neg fun hboth => hdebt hboth.2, List.append_nil]
      exact hreported.append (.one trivial ⟨rfl, rfl, rfl⟩)
  · rename_i hhas
    have hres := pure_eq_ok.mp h
    simp only [Prod.mk.injEq] at hres
    obtain ⟨rfl, rfl⟩ := hres
    rw [if_neg fun hboth => hhas hboth.1, List.append_nil]
    exact hpaid.append (.one trivial ⟨rfl, rfl, rfl⟩)

theorem routerRepayForLogs_emits {ref : Bytes32} {amount got : Nat} {r : RepayResult} {pool : Pool}
    (hpull : pullToVault d.router m.sender amount c.pool = .ok (got, pool))
    (h : applyReceived d m id amount got { c with pool := pool } = .ok (r, c')) :
    Emits ProtocolLog.Aside d c (c.routerRepayForLogs d m ref id amount) c' := by
  simp only [routerRepayForLogs, hpull]
  obtain ⟨token, -, rfl⟩ := pullToVault_ok hpull m
  exact (applyReceived_emits h).from ⟨rfl, rfl, rfl⟩

theorem routerRepayFor_emits {ref : Bytes32} {amount : Nat} {r : RepayResult}
    (h : c.routerRepayFor d m id amount = .ok (r, c')) :
    Emits ProtocolLog.Aside d c (c.routerRepayForLogs d m ref id amount) c' := by
  unfold routerRepayFor at h
  obtain ⟨_, -, h⟩ := bind_eq_ok.mp h
  obtain ⟨debt, -, h⟩ := bind_eq_ok.mp h
  obtain ⟨⟨got, pool⟩, hpull, h⟩ := bind_eq_ok.mp h
  exact routerRepayForLogs_emits hpull h

theorem repayExact_emits {maxAmount : Nat} {r : RepayResult}
    (h : c.repayExact d m id maxAmount = .ok (r, c')) :
    Emits ProtocolLog.Aside d c (c.repayExactLogs d m id maxAmount) c' := by
  unfold repayExact at h
  obtain ⟨_, -, h⟩ := bind_eq_ok.mp h
  obtain ⟨debt, hdebt, h⟩ := bind_eq_ok.mp h
  obtain ⟨⟨got, pool⟩, hpull, h⟩ := bind_eq_ok.mp h
  simp only [repayExactLogs, hdebt]
  exact routerRepayForLogs_emits hpull h

theorem managerRepayFor_emits {amount : Nat} {r : RepayResult}
    (h : c.managerRepayFor d m id amount = .ok (r, c')) :
    Emits ProtocolLog.Aside d c (c.managerRepayForLogs d m id amount) c' := by
  unfold managerRepayFor at h
  obtain ⟨_, -, h⟩ := bind_eq_ok.mp h
  obtain ⟨_, -, h⟩ := bind_eq_ok.mp h
  obtain ⟨⟨got, pool⟩, hpull, h⟩ := bind_eq_ok.mp h
  obtain ⟨token, -, rfl⟩ := pullToVault_ok hpull m
  obtain ⟨⟨r', pool'⟩, hrepay, h⟩ := bind_eq_ok.mp h
  obtain ⟨c₁, hreport, h⟩ := bind_eq_ok.mp h
  have hrepay' : Pool.repay (m.calledBy d.manager) id got got { c.pool with token := token } =
      .ok (r', pool') := hrepay
  simp only [managerRepayForLogs, hpull, hrepay', List.append_assoc]
  have hloans := reportAllocation_sameLoans hreport
  have hstate : c₁.manager.facilities = c.manager.facilities := hloans.facilities
  have hpaid := repay_emits (d := d) (c := { c with pool := { c.pool with token := token } }) hrepay
  refine Emits.from (hpaid.append (Emits.append (.one trivial hloans) ?_)) ⟨rfl, rfl, rfl⟩
  split at h
  · rename_i hcloses
    obtain ⟨c₂, hset, h⟩ := bind_eq_ok.mp h
    have hres := pure_eq_ok.mp h
    simp only [Prod.mk.injEq] at hres
    obtain ⟨rfl, rfl⟩ := hres
    rw [hstate] at hcloses
    rw [if_pos hcloses, setFacilityStateLogs, ← hstate]
    exact .state m id .repaid hset
  · rename_i hopen
    have hres := pure_eq_ok.mp h
    simp only [Prod.mk.injEq] at hres
    obtain ⟨rfl, rfl⟩ := hres
    rw [hstate] at hopen
    rw [if_neg hopen]
    exact .nothing ⟨rfl, rfl, rfl⟩

theorem recordReceipt_sameLoans {settlementId : Bytes32} {amount got : Nat}
    (h : c.recordReceipt d m settlementId amount = .ok (got, c')) : c.SameLoans c' := by
  obtain ⟨token, router, -, rfl⟩ := recordReceipt_ok h
  exact ⟨rfl, rfl, rfl⟩

theorem allocateFromReceipt_emits {settlementId : Bytes32} {amount : Nat} {r : RepayResult}
    (h : c.allocateFromReceipt d m settlementId id amount = .ok (r, c')) :
    Emits ProtocolLog.Aside d c (c.allocateFromReceiptLogs d m settlementId id amount) c' := by
  unfold allocateFromReceipt at h
  obtain ⟨_, -, h⟩ := bind_eq_ok.mp h
  obtain ⟨_, -, h⟩ := bind_eq_ok.mp h
  obtain ⟨allocated, -, h⟩ := bind_eq_ok.mp h
  obtain ⟨_, -, h⟩ := bind_eq_ok.mp h
  obtain ⟨debt, -, h⟩ := bind_eq_ok.mp h
  obtain ⟨⟨got, pool⟩, hpush, h⟩ := bind_eq_ok.mp h
  have happlied : Emits ProtocolLog.Aside d _ (applyReceivedLogs d m id settlementId amount got _) c' :=
    applyReceived_emits h
  unfold applyReceived at h
  obtain ⟨⟨r', pool'⟩, hrepay, -⟩ := bind_eq_ok.mp h
  have hrepay' : pool.repay (m.calledBy d.router) id got amount = .ok (r', pool') := hrepay
  simp only [allocateFromReceiptLogs, hpush, hrepay']
  obtain ⟨token, -, rfl⟩ := pushToVault_ok hpush m
  -- The receipt of the router plays no part in what `_apply` emits.
  exact (happlied.from (c := c) ⟨rfl, rfl, rfl⟩).append (.one trivial ⟨rfl, rfl, rfl⟩)

theorem receiveSettlement_emits {settlementId : Bytes32} {amount : Nat} {r : RepayResult}
    (h : c.receiveSettlement d m id settlementId amount = .ok (r, c')) :
    Emits ProtocolLog.Aside d c (c.receiveSettlementLogs d m id settlementId amount) c' := by
  unfold receiveSettlement at h
  obtain ⟨_, -, h⟩ := bind_eq_ok.mp h
  obtain ⟨⟨got, c₁⟩, hrecord, h⟩ := bind_eq_ok.mp h
  simp only [receiveSettlementLogs, hrecord]
  exact (allocateFromReceipt_emits h).from (recordReceipt_sameLoans hrecord)

/-! ### Draws -/

theorem consumeReservation_emits {rid : Bytes32} (h : c.consumeReservation d reg m rid = .ok c') :
    Emits ProtocolLog.Aside d c (c.consumeReservationLogs m rid) c' := by
  obtain ⟨-, -, l, reserved, hl, rfl⟩ := consumeReservation_ok h
  have hdrawn : Emits ProtocolLog.Aside d c (c.consumeReservationLogs m rid)
      { c with pool := { c.pool with ledger := l } } :=
    .ledger (m.calledBy d.exposure) (.recordDraw _ _) trivial hl
  exact hdrawn.same ⟨rfl, rfl, rfl⟩

theorem executeInternal_emits {rid : Bytes32} {minReceived : Nat}
    (h : c.executeInternal d reg m rid minReceived = .ok c') : Emits ProtocolLog.Aside d c (c.executeLogs m rid) c' := by
  unfold executeInternal at h
  obtain ⟨_, -, h⟩ := bind_eq_ok.mp h
  obtain ⟨_, -, h⟩ := bind_eq_ok.mp h
  obtain ⟨_, -, h⟩ := bind_eq_ok.mp h
  obtain ⟨c₁, hconsumed, h⟩ := bind_eq_ok.mp h
  obtain ⟨pool, hlend, h⟩ := bind_eq_ok.mp h
  obtain ⟨_, -, h⟩ := bind_eq_ok.mp h
  obtain ⟨_, -, h⟩ := bind_eq_ok.mp h
  obtain ⟨_, -, h⟩ := bind_eq_ok.mp h
  obtain rfl := pure_eq_ok.mp h
  obtain ⟨-, -, -, token, -, rfl⟩ := Pool.lend_ok hlend
  exact (consumeReservation_emits (m := m.calledBy d.manager) hconsumed).append
    (.one trivial ⟨rfl, rfl, rfl⟩)

theorem releaseReservation_sameLoans {rid : Bytes32} {next : ReservationState}
    (h : c.releaseReservation rid next = .ok c') : c.SameLoans c' := by
  unfold releaseReservation at h
  obtain ⟨_, -, h⟩ := bind_eq_ok.mp h
  obtain ⟨_, -, h⟩ := bind_eq_ok.mp h
  obtain rfl := pure_eq_ok.mp h
  exact ⟨rfl, rfl, rfl⟩

theorem reserveInternal_sameLoans {amount expiresAt : Nat} {rid : Bytes32}
    (h : c.reserveInternal d reg m id amount expiresAt = .ok (rid, c')) : c.SameLoans c' := by
  obtain ⟨huntouched, -, hpool⟩ := reserveInternal_untouched h
  exact ⟨by rw [hpool], by rw [hpool], huntouched.facilities⟩

theorem borrow_emits {amount minReceived : Nat}
    (h : c.borrow d reg m id amount minReceived = .ok c') :
    Emits ProtocolLog.Aside d c (c.borrowLogs d reg m id amount) c' := by
  unfold borrow at h
  obtain ⟨expiresAt, hexpires, h⟩ := bind_eq_ok.mp h
  obtain ⟨-, rfl⟩ := addW_eq_ok.mp hexpires
  obtain ⟨⟨rid, c₁⟩, hreserve, h⟩ := bind_eq_ok.mp h
  simp only [borrowLogs, hreserve]
  exact Emits.append (.one trivial (reserveInternal_sameLoans hreserve))
    (executeInternal_emits h)

end Credit

/-! ### Calls -/

section
variable {d : Deployment} {reg : Registries} {m : Msg} {c c' : Credit}

open Credit

theorem ExposureCall.emits {call : ExposureCall} (h : call.exec d reg m c = .ok c') :
    Emits ProtocolLog.Aside d c (call.logs m c) c' := by
  cases call with
  | setManager manager enabled =>
    simp only [ExposureCall.exec, exposureSetManager] at h
    obtain ⟨_, -, h⟩ := bind_eq_ok.mp h
    obtain ⟨_, -, h⟩ := bind_eq_ok.mp h
    obtain ⟨_, -, h⟩ := bind_eq_ok.mp h
    obtain rfl := pure_eq_ok.mp h
    exact .nothing ⟨rfl, rfl, rfl⟩
  | finalizeWiring =>
    simp only [ExposureCall.exec, exposureFinalizeWiring] at h
    obtain ⟨_, -, h⟩ := bind_eq_ok.mp h
    obtain ⟨_, -, h⟩ := bind_eq_ok.mp h
    obtain rfl := pure_eq_ok.mp h
    exact .nothing ⟨rfl, rfl, rfl⟩
  | enrollFacility id groupId =>
    simp only [ExposureCall.exec, Credit.enrollFacility] at h
    obtain ⟨_, -, h⟩ := bind_eq_ok.mp h
    obtain ⟨_, -, h⟩ := bind_eq_ok.mp h
    obtain ⟨_, -, h⟩ := bind_eq_ok.mp h
    obtain ⟨_, -, h⟩ := bind_eq_ok.mp h
    obtain ⟨_, -, h⟩ := bind_eq_ok.mp h
    obtain rfl := pure_eq_ok.mp h
    exact .nothing ⟨rfl, rfl, rfl⟩
  | setAuthorization id limit policy agreement version validUntil =>
    simp only [ExposureCall.exec, Credit.setAuthorization] at h
    obtain ⟨_, -, h⟩ := bind_eq_ok.mp h
    obtain ⟨_, -, h⟩ := bind_eq_ok.mp h
    obtain ⟨_, -, h⟩ := bind_eq_ok.mp h
    obtain ⟨_, -, h⟩ := bind_eq_ok.mp h
    obtain ⟨_, -, h⟩ := bind_eq_ok.mp h
    obtain ⟨epoch, -, h⟩ := bind_eq_ok.mp h
    obtain rfl := pure_eq_ok.mp h
    exact .nothing ⟨rfl, rfl, rfl⟩
  | reserve id amount approvalNonce expiresAt =>
    obtain ⟨⟨rid, q⟩, hc, rfl⟩ := map_eq_ok.mp h
    obtain ⟨_, _, _, -, rfl⟩ := reserve_ok hc
    exact .nothing ⟨rfl, rfl, rfl⟩
  | consumeReservation rid => exact consumeReservation_emits h
  | cancelReservation rid =>
    simp only [ExposureCall.exec, Credit.cancelReservation] at h
    obtain ⟨_, -, h⟩ := bind_eq_ok.mp h
    exact .nothing (releaseReservation_sameLoans h)
  | expireReservation rid =>
    simp only [ExposureCall.exec, Credit.expireReservation] at h
    obtain ⟨_, -, h⟩ := bind_eq_ok.mp h
    exact .nothing (releaseReservation_sameLoans h)

/-- Every call of the manager but an opening. -/
theorem ManagerCall.emits {call : ManagerCall}
    (hopens : ∀ id borrowerId wallet terms controlAgreementId controlVersion,
      call ≠ .openFacility id borrowerId wallet terms controlAgreementId controlVersion)
    (h : call.exec d reg m c = .ok c') : Emits ProtocolLog.Aside d c (call.logs d reg m c) c' := by
  cases call with
  | openFacility i borrowerId wallet terms controlAgreementId controlVersion =>
    exact absurd rfl (hopens i borrowerId wallet terms controlAgreementId controlVersion)
  | transition i target => exact .state m i target (transition_ok h).2.2
  | freezeDraws i =>
    simp only [ManagerCall.exec, Credit.freezeDraws] at h
    obtain ⟨_, -, h⟩ := bind_eq_ok.mp h
    obtain ⟨_, -, h⟩ := bind_eq_ok.mp h
    obtain ⟨_, -, h⟩ := bind_eq_ok.mp h
    exact .froze m i h
  | pauseDraws paused =>
    simp only [ManagerCall.exec, Credit.pauseDraws] at h
    obtain ⟨_, -, h⟩ := bind_eq_ok.mp h
    obtain ⟨_, -, h⟩ := bind_eq_ok.mp h
    obtain rfl := pure_eq_ok.mp h
    exact .nothing ⟨rfl, rfl, rfl⟩
  | approveDrawResume =>
    simp only [ManagerCall.exec, Credit.approveDrawResume] at h
    obtain ⟨_, -, h⟩ := bind_eq_ok.mp h
    obtain rfl := pure_eq_ok.mp h
    exact .nothing ⟨rfl, rfl, rfl⟩
  | bindRecoveryManager manager =>
    simp only [ManagerCall.exec, managerBindRecovery] at h
    obtain ⟨_, -, h⟩ := bind_eq_ok.mp h
    obtain ⟨_, -, h⟩ := bind_eq_ok.mp h
    obtain ⟨_, -, h⟩ := bind_eq_ok.mp h
    obtain rfl := pure_eq_ok.mp h
    exact .nothing ⟨rfl, rfl, rfl⟩
  | syncRepaid i => exact syncRepaid_emits h
  | recoveryTransition i target => exact recoveryTransition_emits h
  | anchorAuthorization auth approval =>
    simp only [ManagerCall.exec, Credit.anchorAuthorization] at h
    obtain ⟨_, -, h⟩ := bind_eq_ok.mp h
    obtain ⟨_, -, h⟩ := bind_eq_ok.mp h
    obtain ⟨_, -, h⟩ := bind_eq_ok.mp h
    obtain ⟨_, -, h⟩ := bind_eq_ok.mp h
    obtain ⟨_, -, h⟩ := bind_eq_ok.mp h
    obtain ⟨_, -, h⟩ := bind_eq_ok.mp h
    obtain ⟨_, -, h⟩ := bind_eq_ok.mp h
    obtain ⟨_, -, h⟩ := bind_eq_ok.mp h
    obtain ⟨_, -, h⟩ := bind_eq_ok.mp h
    obtain rfl := pure_eq_ok.mp h
    exact .one trivial ⟨rfl, rfl, rfl⟩
  | borrow i amount minReceived => exact borrow_emits h
  | reserveDraw i amount ttl =>
    obtain ⟨⟨rid, q⟩, hc, rfl⟩ := map_eq_ok.mp h
    unfold Credit.reserveDraw at hc
    obtain ⟨_, -, hc⟩ := bind_eq_ok.mp hc
    obtain ⟨_, -, hc⟩ := bind_eq_ok.mp hc
    exact .one trivial (reserveInternal_sameLoans hc)
  | executeReservedDraw rid minReceived => exact executeInternal_emits h
  | repayFor i amount =>
    obtain ⟨⟨r, q⟩, hc, rfl⟩ := map_eq_ok.mp h
    exact managerRepayFor_emits hc
  | claimRefund i =>
    simp only [ManagerCall.exec, Credit.claimRefund] at h
    obtain ⟨_, -, h⟩ := bind_eq_ok.mp h
    obtain ⟨_, -, h⟩ := bind_eq_ok.mp h
    obtain ⟨_, -, h⟩ := bind_eq_ok.mp h
    obtain ⟨pool, hrefund, h⟩ := bind_eq_ok.mp h
    obtain rfl := pure_eq_ok.mp h
    obtain ⟨-, -, token, -, rfl⟩ := Pool.refundExcess_ok hrefund
    exact .one trivial ⟨rfl, rfl, rfl⟩

theorem RouterCall.emits {call : RouterCall} {ref : Bytes32} (h : call.exec d m c = .ok c') :
    Emits ProtocolLog.Aside d c (call.logs d m ref c) c' := by
  cases call with
  | repayFor i amount =>
    obtain ⟨⟨r, q⟩, hc, rfl⟩ := map_eq_ok.mp h
    exact routerRepayFor_emits hc
  | repayExact i maxAmount =>
    obtain ⟨⟨r, q⟩, hc, rfl⟩ := map_eq_ok.mp h
    exact repayExact_emits hc
  | recordDestinationReceipt settlementId amount =>
    simp only [RouterCall.exec, Credit.recordDestinationReceipt] at h
    obtain ⟨_, -, h⟩ := bind_eq_ok.mp h
    obtain ⟨⟨got, q⟩, hc, h⟩ := bind_eq_ok.mp h
    obtain rfl := pure_eq_ok.mp h
    exact .nothing (recordReceipt_sameLoans hc)
  | allocate settlementId i amount =>
    obtain ⟨⟨r, q⟩, hc, rfl⟩ := map_eq_ok.mp h
    unfold allocateSettlement at hc
    obtain ⟨_, -, hc⟩ := bind_eq_ok.mp hc
    exact allocateFromReceipt_emits hc
  | receiveSettlement i settlementId amount =>
    obtain ⟨⟨r, q⟩, hc, rfl⟩ := map_eq_ok.mp h
    exact receiveSettlement_emits hc
  | refundExcess i dst =>
    simp only [RouterCall.exec, routerRefundExcess] at h
    obtain ⟨_, -, h⟩ := bind_eq_ok.mp h
    obtain ⟨_, -, h⟩ := bind_eq_ok.mp h
    obtain ⟨_, -, h⟩ := bind_eq_ok.mp h
    obtain ⟨_, -, h⟩ := bind_eq_ok.mp h
    obtain ⟨pool, hrefund, h⟩ := bind_eq_ok.mp h
    obtain rfl := pure_eq_ok.mp h
    obtain ⟨-, -, token, -, rfl⟩ := Pool.refundExcess_ok hrefund
    exact .nothing ⟨rfl, rfl, rfl⟩

end

/-! ### The recovery manager -/

namespace Facility

/-- Accruing does not read the state. -/
theorem accrue_state (f : Facility) (now : Nat) (t : FacilityState) :
    Facility.accrue now { f with state := t } =
      (f.accrue now).map fun f' => { f' with state := t } := by
  unfold accrue
  dsimp only
  cases revertIf (now < f.lastAccrualAt) (Revert.accrualBackwards f.lastAccrualAt now) with
  | error e => rfl
  | ok u =>
    simp only [ok_bind]
    split
    · rfl
    · split
      · cases InterestMath.growth f.principal f.rateBps (now - f.lastAccrualAt) with
        | error e => rfl
        | ok g =>
          simp only [ok_bind]
          cases (addW 256 f.interestAccum g : Except Revert Nat) with
          | error e => rfl
          | ok x => rfl
      · rfl

theorem accrueLogs_state (f : Facility) (now : Nat) (id : FacilityId) (t : FacilityState) :
    Facility.accrueLogs now id { f with state := t } = f.accrueLogs now id := by
  unfold accrueLogs
  rw [accrue_state]
  cases f.accrue now with
  | error e => rfl
  | ok f' => rfl
end Facility

namespace Credit

variable {d : Deployment} {reg : Registries} {m : Msg} {c c' : Credit} {id : FacilityId}

theorem cure_emits (h : c.cure d reg m id = .ok c') :
    Emits ProtocolLog.Aside d c (c.cureLogs m id) c' := by
  unfold cure at h
  obtain ⟨paid, -, h⟩ := bind_eq_ok.mp h
  obtain ⟨_, -, h⟩ := bind_eq_ok.mp h
  obtain ⟨debt, hdebt, h⟩ := bind_eq_ok.mp h
  obtain ⟨c₁, hcured, h⟩ := bind_eq_ok.mp h
  obtain rfl := pure_eq_ok.mp h
  simp only [cureLogs, hdebt]
  unfold cureState at hcured
  split at hcured
  · rename_i hzero
    rw [if_pos hzero]
    exact (syncRepaid_emits hcured).same ⟨rfl, rfl, rfl⟩
  · rename_i howed
    rw [if_neg howed]
    exact (recoveryTransition_emits hcured).same ⟨rfl, rfl, rfl⟩

theorem declareDefault_emits (h : c.declareDefault d reg m id = .ok c') :
    Emits ProtocolLog.Aside d c (c.setFacilityStateLogs id .defaulted ++
      (LedgerCall.logs m c.pool.ledger (.freezeAccrual id)).map .ledger) c' := by
  unfold declareDefault at h
  obtain ⟨_, -, h⟩ := bind_eq_ok.mp h
  obtain ⟨_, -, h⟩ := bind_eq_ok.mp h
  obtain ⟨_, -, h⟩ := bind_eq_ok.mp h
  obtain ⟨c₁, htrans, h⟩ := bind_eq_ok.mp h
  obtain ⟨l, hl, h⟩ := bind_eq_ok.mp h
  obtain rfl := pure_eq_ok.mp h
  have hstate : Emits ProtocolLog.Aside d c (c.setFacilityStateLogs id .defaulted) c₁ :=
    (recoveryTransition_emits htrans).from ⟨rfl, rfl, rfl⟩
  -- Between the two operations only the state of the account has changed, which an accrual does
  -- not read.
  have hlogs : LedgerCall.logs m c.pool.ledger (.freezeAccrual id) =
      LedgerCall.logs (m.calledBy d.recovery) c₁.pool.ledger (.freezeAccrual id) := by
    obtain ⟨l', hset, rfl⟩ := setFacilityState_ok (recoveryTransition_ok htrans).2.2
    obtain ⟨-, f, hf, rfl⟩ := Ledger.modifyFacility_ok hset
    cases hf
    have hsame := Facility.accrueLogs_state (c.pool.ledger.facilities id) m.now id .defaulted
    show _ = (Function.update c.pool.ledger.facilities id _ id).accrueLogs m.now id ++ _
    rw [Function.update_self]
    exact congrArg (· ++ [LedgerEvent.accrualFrozen id m.now]) hsame.symm
  rw [hlogs]
  exact hstate.append (.ledger (m.calledBy d.recovery) (.freezeAccrual id) trivial hl)

/-- The reserve that is applied repays the debt through the router. -/
theorem applyReserveInternal_emits (h : c.applyReserveInternal d m id = .ok c') :
    Emits ProtocolLog.OffBooks d c (c.applyReserveLogs d m id) c' := by
  unfold applyReserveInternal at h
  obtain ⟨state, -, h⟩ := bind_eq_ok.mp h
  obtain ⟨_, -, h⟩ := bind_eq_ok.mp h
  obtain ⟨debt, hdebt, h⟩ := bind_eq_ok.mp h
  simp only [applyReserveLogs, hdebt]
  dsimp only at h
  generalize (if (c.recovery.schedules id).pledgedReserve < debt then
    (c.recovery.schedules id).pledgedReserve else debt) = amount at h ⊢
  split at h
  · rename_i hzero
    rw [if_pos hzero]
    obtain rfl := pure_eq_ok.mp h
    exact .nothing ⟨rfl, rfl, rfl⟩
  · rename_i hpays
    rw [if_neg hpays]
    obtain ⟨⟨r, c₁⟩, hrepay, h⟩ := bind_eq_ok.mp h
    obtain rfl := pure_eq_ok.mp h
    have hrepaid := (repayExact_emits hrepay).offBooks
    have happlied : Emits ProtocolLog.OffBooks d c₁ [.recovery (.reserveApplied id amount)]
        (c₁.approveRouter d 0) := .one trivial ⟨rfl, rfl, rfl⟩
    exact Emits.from (hrepaid.append happlied) ⟨rfl, rfl, rfl⟩

theorem recoveryWriteOff_emits {lossId : Bytes32}
    (h : c.recoveryWriteOff d reg m id lossId = .ok c') :
    Emits ProtocolLog.OffBooks d c (c.recoveryWriteOffLogs d m id lossId) c' := by
  unfold recoveryWriteOff at h
  obtain ⟨_, -, h⟩ := bind_eq_ok.mp h
  obtain ⟨_, -, h⟩ := bind_eq_ok.mp h
  obtain ⟨_, -, h⟩ := bind_eq_ok.mp h
  obtain ⟨c₁, hreserve, h⟩ := bind_eq_ok.mp h
  obtain ⟨debt, hdebt, h⟩ := bind_eq_ok.mp h
  have happlied := applyReserveInternal_emits hreserve
  simp only [recoveryWriteOffLogs, hreserve, hdebt]
  split at h
  · rename_i hzero
    rw [if_pos hzero]
    exact happlied.append (syncRepaid_emits h).offBooks
  · rename_i hloss
    rw [if_neg hloss]
    obtain ⟨pool, hpool, h⟩ := bind_eq_ok.mp h
    have hlost : Emits ProtocolLog.OffBooks d c₁
        ((VaultCall.logs (m.calledBy d.recovery) c₁.pool (.writeOff id)).map .vault)
        { c₁ with pool := pool } := .vault (m.calledBy d.recovery) (.writeOff id) hpool
    have hclosed := (recoveryTransition_emits h).offBooks
    exact happlied.append ((hlost.append (hclosed.from ⟨rfl, rfl, rfl⟩)).append
      (.one trivial ⟨rfl, rfl, rfl⟩))

end Credit

section
variable {d : Deployment} {reg : Registries} {m : Msg} {c c' : Credit}

open Credit

theorem RecoveryCall.emits {call : RecoveryCall} (h : call.exec d reg m c = .ok c') :
    Emits ProtocolLog.OffBooks d c (call.logs d m c) c' := by
  cases call with
  | setSchedule i dueAt grace disputeWindow dueAmount =>
    simp only [RecoveryCall.exec, Credit.setSchedule] at h
    obtain ⟨_, -, h⟩ := bind_eq_ok.mp h
    obtain ⟨state, -, h⟩ := bind_eq_ok.mp h
    obtain ⟨_, -, h⟩ := bind_eq_ok.mp h
    obtain ⟨_, -, h⟩ := bind_eq_ok.mp h
    obtain ⟨_, -, h⟩ := bind_eq_ok.mp h
    obtain ⟨disputeUntil, -, h⟩ := bind_eq_ok.mp h
    obtain rfl := pure_eq_ok.mp h
    exact .one trivial ⟨rfl, rfl, rfl⟩
  | observeAllocation i amount =>
    simp only [RecoveryCall.exec, Credit.observeAllocation] at h
    obtain ⟨_, -, h⟩ := bind_eq_ok.mp h
    obtain ⟨total, -, h⟩ := bind_eq_ok.mp h
    obtain rfl := pure_eq_ok.mp h
    exact .nothing ⟨rfl, rfl, rfl⟩
  | markDelinquent i =>
    simp only [RecoveryCall.exec, Credit.markDelinquent] at h
    obtain ⟨_, -, h⟩ := bind_eq_ok.mp h
    obtain ⟨paid, -, h⟩ := bind_eq_ok.mp h
    obtain ⟨_, -, h⟩ := bind_eq_ok.mp h
    exact (recoveryTransition_emits h).offBooks
  | cure i => exact (cure_emits h).offBooks
  | setDispute i disputed =>
    simp only [RecoveryCall.exec, Credit.setDispute] at h
    obtain ⟨_, -, h⟩ := bind_eq_ok.mp h
    obtain ⟨_, -, h⟩ := bind_eq_ok.mp h
    obtain rfl := pure_eq_ok.mp h
    exact .one trivial ⟨rfl, rfl, rfl⟩
  | approveDefault i reason =>
    simp only [RecoveryCall.exec, Credit.approveDefault] at h
    obtain ⟨_, -, h⟩ := bind_eq_ok.mp h
    obtain ⟨_, -, h⟩ := bind_eq_ok.mp h
    obtain ⟨_, -, h⟩ := bind_eq_ok.mp h
    obtain rfl := pure_eq_ok.mp h
    exact .one trivial ⟨rfl, rfl, rfl⟩
  | declareDefault i => exact (declareDefault_emits h).offBooks
  | beginRecovery i =>
    simp only [RecoveryCall.exec, Credit.beginRecovery] at h
    obtain ⟨_, -, h⟩ := bind_eq_ok.mp h
    exact (recoveryTransition_emits h).offBooks
  | fundReserve i amount =>
    simp only [RecoveryCall.exec, Credit.fundReserve] at h
    obtain ⟨_, -, h⟩ := bind_eq_ok.mp h
    obtain ⟨_, -, h⟩ := bind_eq_ok.mp h
    split at h
    · cases h
    · rename_i token htoken
      obtain ⟨got, -, h⟩ := bind_eq_ok.mp h
      obtain ⟨_, -, h⟩ := bind_eq_ok.mp h
      obtain ⟨pledged, -, h⟩ := bind_eq_ok.mp h
      obtain rfl := pure_eq_ok.mp h
      exact .one trivial ⟨rfl, rfl, rfl⟩
  | applyReserve i =>
    simp only [RecoveryCall.exec, Credit.applyReserve] at h
    obtain ⟨_, -, h⟩ := bind_eq_ok.mp h
    exact applyReserveInternal_emits h
  | returnReserve i =>
    simp only [RecoveryCall.exec, Credit.returnReserve] at h
    obtain ⟨_, -, h⟩ := bind_eq_ok.mp h
    obtain ⟨debt, -, h⟩ := bind_eq_ok.mp h
    obtain ⟨_, -, h⟩ := bind_eq_ok.mp h
    split at h
    · cases h
    · obtain rfl := pure_eq_ok.mp h
      exact .nothing ⟨rfl, rfl, rfl⟩
  | impair i lossId amount =>
    simp only [RecoveryCall.exec, Credit.impair] at h
    obtain ⟨_, -, h⟩ := bind_eq_ok.mp h
    obtain ⟨_, -, h⟩ := bind_eq_ok.mp h
    obtain ⟨pool, hpool, h⟩ := bind_eq_ok.mp h
    obtain rfl := pure_eq_ok.mp h
    have himpaired : Emits ProtocolLog.OffBooks d c [.vault (.impairmentRecognized i amount)]
        { c with pool := pool } :=
      .vault (m.calledBy d.recovery) (.recognizeImpairment i amount) hpool
    exact himpaired.append (.one trivial ⟨rfl, rfl, rfl⟩)
  | reverseImpairment i amount =>
    simp only [RecoveryCall.exec, recoveryReverseImpairment] at h
    obtain ⟨_, -, h⟩ := bind_eq_ok.mp h
    obtain ⟨pool, hpool, h⟩ := bind_eq_ok.mp h
    obtain rfl := pure_eq_ok.mp h
    exact .vault (m.calledBy d.recovery) (.reverseImpairment i amount) hpool
  | approveWriteOff i lossId =>
    simp only [RecoveryCall.exec, Credit.approveWriteOff] at h
    obtain ⟨_, -, h⟩ := bind_eq_ok.mp h
    obtain ⟨_, -, h⟩ := bind_eq_ok.mp h
    obtain ⟨state, -, h⟩ := bind_eq_ok.mp h
    obtain ⟨_, -, h⟩ := bind_eq_ok.mp h
    obtain rfl := pure_eq_ok.mp h
    exact .nothing ⟨rfl, rfl, rfl⟩
  | writeOff i lossId => exact recoveryWriteOff_emits h

/-- Every call but an opening and a direct write of a state on the ledger. -/
theorem CreditCall.emits {call : CreditCall} {ref : Bytes32}
    (hledger : ∀ write, call = .ledger write → write.Shared)
    (hopens : ∀ id borrowerId wallet terms controlAgreementId controlVersion, call ≠
      .manager (.openFacility id borrowerId wallet terms controlAgreementId controlVersion))
    (h : call.exec d reg m c = .ok c') :
    Emits ProtocolLog.OffBooks d c (call.logs d reg m ref c) c' := by
  cases call with
  | vault call =>
    obtain ⟨p, hp, rfl⟩ := map_eq_ok.mp h
    exact .vault m call hp
  | ledger call =>
    obtain ⟨l, hl, rfl⟩ := map_eq_ok.mp h
    exact .ledger m call (hledger call rfl) hl
  | token call =>
    obtain ⟨t, -, rfl⟩ := map_eq_ok.mp h
    exact .nothing ⟨rfl, rfl, rfl⟩
  | exposure call => exact (ExposureCall.emits h).offBooks
  | manager call =>
    refine (ManagerCall.emits ?_ h).offBooks
    intro id borrowerId wallet terms controlAgreementId controlVersion hopen
    exact hopens id borrowerId wallet terms controlAgreementId controlVersion (by rw [hopen])
  | router call => exact (RouterCall.emits h).offBooks
  | recovery call => exact RecoveryCall.emits h

end

end Rackline
