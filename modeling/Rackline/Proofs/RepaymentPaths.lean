import Rackline.Proofs.ClosedFacility

/-!
# `Rackline.Proofs.RepaymentPaths`: the manager's repayment and the router's

`CreditFacilityManager.repayFor` and `RepaymentRouter.repayFor` pull the same cash, make the same
pair of ledger and vault calls and report the same allocation. They differ in the spender of the
token, in the caller the ledger and the vault see, and in the rule that closes a facility whose
debt reached zero: the manager asks the transition table, the router calls `syncRepaid`, which
has a list of states of its own.

The first part shows that spender and caller do not matter: a repayment that returns with one
returns with the other, and the two pools differ in allowances only. What is left is the two
closing rules. They agree except on the states `DRAW_FROZEN`, `DELINQUENT`, `DEFAULTED` and
`CLOSED_WITH_LOSS`, which the router closes and the manager does not.
-/

set_option autoImplicit false

namespace Rackline

open Evm Transition

/-! ### The pool does not see who pays -/

namespace Pool

variable {m m' : Msg} {p q : Pool} {id : FacilityId} {token : Token Address}

/-- The pool with another token state. -/
def withToken (token : Token Address) (p : Pool) : Pool := { p with token := token }

theorem capImpairment_withToken (token : Token Address) {newDebt : Nat}
    (h : p.capImpairment id newDebt = .ok q) :
    (p.withToken token).capImpairment id newDebt = .ok (q.withToken token) ∧
      q.token = p.token ∧ q.vault.self = p.vault.self := by
  unfold capImpairment at h ⊢
  dsimp only [withToken] at h ⊢
  split at h
  · rename_i hover
    obtain ⟨total, htotal, h⟩ := bind_eq_ok.mp h
    obtain rfl := pure_eq_ok.mp h
    rw [if_pos hover, htotal]
    exact ⟨rfl, rfl, rfl⟩
  · rename_i hover
    obtain rfl := pure_eq_ok.mp h
    rw [if_neg hover]
    exact ⟨rfl, rfl, rfl⟩

theorem reserveOldEpochRecovery_withToken (token : Token Address) {amount : Nat}
    (h : p.reserveOldEpochRecovery id amount = .ok q) :
    (p.withToken token).reserveOldEpochRecovery id amount = .ok (q.withToken token) ∧
      q.token = p.token ∧ q.vault.self = p.vault.self := by
  unfold reserveOldEpochRecovery at h ⊢
  dsimp only at h ⊢
  split at h
  · rename_i hcurrent
    obtain rfl := pure_eq_ok.mp h
    exact ⟨if_pos hcurrent, rfl, rfl⟩
  · rename_i hcurrent
    obtain ⟨received, hreceived, h⟩ := bind_eq_ok.mp h
    obtain ⟨reserved, hreserved, h⟩ := bind_eq_ok.mp h
    obtain rfl := pure_eq_ok.mp h
    refine ⟨(if_neg hcurrent).trans ?_, rfl, rfl⟩
    exact bind_eq_ok.mpr ⟨received, hreceived, bind_eq_ok.mpr ⟨reserved, hreserved, rfl⟩⟩

/-- The vault's part of a repayment, for another manager and another token in which the vault
has the same balance. -/
theorem onRepayment_withToken {result : RepayResult} (h : p.onRepayment m id result = .ok q)
    (hmanager : p.vault.isManager m'.sender = true)
    (hbalance : token.balanceOf p.vault.self = p.cashBalance) :
    (p.withToken token).onRepayment m' id result = .ok (q.withToken token) := by
  have hcash : (p.withToken token).cashBalance = p.cashBalance := hbalance
  have harrived : (p.withToken token).arrived = p.arrived := by
    unfold arrived
    rw [hcash]
    rfl
  unfold onRepayment at h ⊢
  obtain ⟨_, -, h⟩ := bind_eq_ok.mp h
  obtain ⟨_, hzero, h⟩ := bind_eq_ok.mp h
  obtain ⟨split, hsplit, h⟩ := bind_eq_ok.mp h
  obtain ⟨_, hexact, h⟩ := bind_eq_ok.mp h
  obtain ⟨_, hcame, h⟩ := bind_eq_ok.mp h
  obtain ⟨refundable, hrefundable, h⟩ := bind_eq_ok.mp h
  obtain ⟨owned, howned, h⟩ := bind_eq_ok.mp h
  obtain ⟨p₁, hp₁, h⟩ := bind_eq_ok.mp h
  obtain ⟨p₂, hp₂, h⟩ := bind_eq_ok.mp h
  obtain rfl := pure_eq_ok.mp h
  obtain ⟨hp₁', ht₁, hs₁⟩ := capImpairment_withToken token hp₁
  obtain ⟨hp₂', ht₂, hs₂⟩ := reserveOldEpochRecovery_withToken token hp₂
  have hguard : revertIf ((p.withToken token).vault.isManager m'.sender = false)
      (Revert.onlyManager m'.sender) = .ok () :=
    revertIf_of_not _ (by simpa [withToken] using hmanager)
  have htrack : (p₂.withToken token).track = p₂.track.withToken token := by
    have hsame : token.balanceOf p₂.vault.self = p₂.cashBalance := by
      rw [cashBalance, ht₂, ht₁, hs₂, hs₁]
      exact hbalance
    unfold track
    simp only [cashBalance, withToken] at hsame ⊢
    rw [hsame]
  rw [hguard, ok_bind, hzero, ok_bind, hsplit, ok_bind, hexact, ok_bind, harrived, hcame, ok_bind]
  change (addW 256 (p.vault.refundableOf id) result.excess >>= _) = _
  rw [hrefundable, ok_bind]
  change (addW 256 p.vault.totalBorrowerOwned result.excess >>= _) = _
  rw [howned, ok_bind]
  dsimp only
  refine bind_eq_ok.mpr ⟨_, hp₁', bind_eq_ok.mpr ⟨_, hp₂', ?_⟩⟩
  rw [htrack]
  rfl

/-- The repayment of a caller is the repayment of every other writer and manager, on every token
in which the vault has the same balance. -/
theorem repay_withToken {received requested : Nat} {r : RepayResult}
    (h : p.repay m id received requested = .ok (r, q)) (hnow : m'.now = m.now)
    (hwriter : p.ledger.isWriter m'.sender = true)
    (hmanager : p.vault.isManager m'.sender = true)
    (hbalance : token.balanceOf p.vault.self = p.cashBalance) :
    (p.withToken token).repay m' id received requested = .ok (r, q.withToken token) := by
  obtain ⟨split, l, hl, rfl, hon⟩ := repay_ok h
  have hl' : p.ledger.allocate m' id received = .ok (split, l) := by
    unfold Ledger.allocate at hl ⊢
    obtain ⟨_, -, hl⟩ := bind_eq_ok.mp hl
    rw [revertIf_of_not _ (by simpa using hwriter), ok_bind, hnow]
    exact hl
  have hon' : (Pool.withToken token { p with ledger := l }).onRepayment m' id _ = .ok _ :=
    onRepayment_withToken hon hmanager hbalance
  unfold repay
  refine bind_eq_ok.mpr ⟨(split, l), hl', bind_eq_ok.mpr ⟨_, hon', rfl⟩⟩

end Pool

/-! ### The two paths, computed -/

namespace Credit

variable {d : Deployment} {m : Msg} {c c' : Credit} {id : FacilityId} {amount : Nat}
  {token : Token Address} {r : RepayResult}

/-- The protocol after a repayment, before the facility is closed. -/
def recordPayment (id : FacilityId) (r : RepayResult) (pool : Pool) (c : Credit) : Credit :=
  { c with
    pool := pool
    recovery := { c.recovery with
      totalAllocated := Function.update c.recovery.totalAllocated id
        (c.recovery.totalAllocated id + r.applied) } }

/-- The protocol with the state of a facility set, in the manager and on the ledger. -/
def withState (id : FacilityId) (target : FacilityState) (c : Credit) : Credit :=
  { c with
    pool := { c.pool with ledger := { c.pool.ledger with
      facilities := Function.update c.pool.ledger.facilities id
        { c.pool.ledger.facilities id with state := target } } }
    manager := { c.manager with
      facilities := Function.update c.manager.facilities id
        { c.manager.facilities id with state := target } } }

/-- The protocol after a repayment, closed if it cleared the debt of a facility that `closes`. -/
def afterPayment (id : FacilityId) (r : RepayResult) (pool : Pool) (closes : Bool) (c : Credit) :
    Credit :=
  if r.newDebt = 0 ∧ closes = true then (c.recordPayment id r pool).withState id .repaid
  else c.recordPayment id r pool

theorem setFacilityState_eq {target : FacilityState}
    (hwriter : c.pool.ledger.isWriter d.manager = true) (hx : (c.account id).exists_ = true) :
    c.setFacilityState d m id target = .ok (c.withState id target) := by
  have hwr : ¬c.pool.ledger.isWriter (m.calledBy d.manager).sender = false := by
    simpa [Msg.calledBy] using hwriter
  have hx' : ¬(c.pool.ledger.facilities id).exists_ = false := by
    have hx : (c.pool.ledger.facilities id).exists_ = true := hx
    simp [hx]
  unfold setFacilityState Ledger.setState Ledger.modifyFacility
  rw [revertIf_of_not _ hwr, ok_bind, revertIf_of_not _ hx', ok_bind]
  rfl

theorem reportAllocation_eq_ok {pool : Pool} (hbound : c.manager.recoveryManager ≠ 0)
    (hcaller : m.sender = d.router ∨ m.sender = d.manager) :
    reportAllocation d m id r.applied { c with pool := pool } = .ok c' ↔
      c.recovery.totalAllocated id + r.applied < wordSize 256 ∧
        c' = c.recordPayment id r pool := by
  have hsender : ¬(m.sender ≠ d.router ∧ m.sender ≠ d.manager) := by
    rcases hcaller with h | h
    · simp [h]
    · simp [h]
  unfold reportAllocation observeAllocation
  rw [if_pos hbound, revertIf_of_not _ hsender, ok_bind, bind_eq_ok]
  constructor
  · rintro ⟨total, htotal, h⟩
    obtain ⟨hfit, rfl⟩ := addW_eq_ok.mp htotal
    exact ⟨hfit, (pure_eq_ok.mp h).symm⟩
  · rintro ⟨hfit, rfl⟩
    exact ⟨_, addW_eq_ok.mpr ⟨hfit, rfl⟩, rfl⟩

theorem pullToVault_eq {caller payer : Address} {p : Pool}
    (htoken : p.token.transferFrom caller payer p.vault.self amount = some token)
    (hpayer : payer ≠ p.vault.self) (hamount : amount ≠ 0) :
    pullToVault caller payer amount p = .ok (amount, p.withToken token) ∧
      token.balanceOf p.vault.self = p.cashBalance + amount := by
  obtain ⟨-, t₁, hbal, -, -, hmove⟩ := Token.transferFrom_move htoken
  have hcredit : token.balanceOf p.vault.self = p.cashBalance + amount := by
    rw [(Token.move_of_ne hmove hpayer).2.1, hbal]
    rfl
  refine ⟨?_, hcredit⟩
  unfold pullToVault
  rw [htoken]
  refine bind_eq_ok.mpr ⟨amount, subW_eq_ok.mpr ⟨by omega, by omega⟩, ?_⟩
  rw [revertIf_of_not _ hamount]
  rfl

/-- What both paths need: the wiring, a facility that owes, and a payer other than the vault. -/
structure Payable (d : Deployment) (m : Msg) (id : FacilityId) (amount : Nat) (c : Credit) : Prop
    where
  wired : c.Wired d
  known : (c.manager.facilities id).exists_ = true
  account : (c.account id).exists_ = true
  debt : ∃ debt, c.pool.ledger.legalDebtAt id m.now = .ok debt ∧ debt ≠ 0
  payer : m.sender ≠ c.pool.vault.self
  amount : amount ≠ 0

theorem Wired.bound (hw : c.Wired d) : c.manager.recoveryManager ≠ 0 := by
  intro h
  have hzero : d.recovery = 0 := hw.recovery.symm.trans h
  exact d.nonzero (by simp [hzero])

theorem Wired.writes (hw : c.Wired d) {caller : Address}
    (h : caller = d.router ∨ caller = d.manager) :
    c.pool.ledger.isWriter caller = true ∧ c.pool.vault.isManager caller = true := by
  rw [hw.pool.writers, hw.pool.managers]
  rcases h with rfl | rfl
  · simp [Deployment.ledger, Deployment.lendingVault, Function.update_apply]
  · simp [Deployment.ledger, Deployment.lendingVault, Function.update_apply]

/-- The account after a repayment, seen from the pool it left. -/
theorem Payable.after (h : c.Payable d m id amount) {m' : Msg} {q : Pool}
    (hnow : m'.now = m.now)
    (hrepay : (c.pool.withToken token).repay m' id amount amount = .ok (r, q)) :
    (q.ledger.facilities id).exists_ = true ∧ q.ledger.isWriter = c.pool.ledger.isWriter ∧
      (q.ledger.facilities id).debtAt m.now = r.newDebt := by
  obtain ⟨hrep, hdebt⟩ := repay_touches c.router c.recovery hrepay
  refine ⟨hrep.serviced.exists_ h.account, ?_, hnow ▸ hdebt⟩
  obtain ⟨split, l, hl, -, hon⟩ := Pool.repay_ok hrepay
  have hledger : q.ledger = l := VaultCall.exec_ledger (c := .onRepayment _ _) hon
  unfold Ledger.allocate at hl
  obtain ⟨_, -, hl⟩ := bind_eq_ok.mp hl
  obtain ⟨_, -, hl⟩ := bind_eq_ok.mp hl
  obtain ⟨⟨r', f⟩, -, hl⟩ := bind_eq_ok.mp hl
  have hres := pure_eq_ok.mp hl
  simp only [Prod.mk.injEq] at hres
  rw [hledger, ← hres.2]
  rfl

/-- `repayFor` of the manager returns when the pool's part does, and closes by the table. -/
theorem managerRepayFor_eq_ok (h : c.Payable d m id amount)
    (htoken : c.pool.token.transferFrom d.manager m.sender c.pool.vault.self amount = some token) :
    c.managerRepayFor d m id amount = .ok (r, c') ↔
      ∃ q, (c.pool.withToken token).repay (m.calledBy d.manager) id amount amount = .ok (r, q) ∧
        c.recovery.totalAllocated id + r.applied < wordSize 256 ∧
        c' = c.afterPayment id r q (isTransitionAllowed (c.stateAt id) .repaid) := by
  have hknown : c.requireFacility id = .ok () := revertIf_of_not _ (by simp [h.known])
  obtain ⟨hpull, -⟩ := pullToVault_eq htoken h.payer h.amount
  -- The end of the call, once the pool's part returned.
  have hend : ∀ {r' : RepayResult} {q : Pool},
      (c.pool.withToken token).repay (m.calledBy d.manager) id amount amount = .ok (r', q) →
      (if r'.newDebt = 0 ∧ isTransitionAllowed
          ((c.recordPayment id r' q).manager.facilities id).state .repaid = true then do
        let c₁ ← (c.recordPayment id r' q).setFacilityState d m id .repaid
        pure (r', c₁)
      else pure (r', c.recordPayment id r' q)) =
        .ok (r', c.afterPayment id r' q (isTransitionAllowed (c.stateAt id) .repaid)) := by
    intro r' q hrepay
    obtain ⟨hx, hwriters, -⟩ := h.after (by rfl) hrepay
    have hwriter : q.ledger.isWriter d.manager = true := by
      rw [hwriters]
      exact (h.wired.writes (.inr rfl)).1
    unfold afterPayment
    by_cases hclose : r'.newDebt = 0 ∧ isTransitionAllowed (c.stateAt id) .repaid = true
    · rw [if_pos hclose, setFacilityState_eq (by exact hwriter) (by exact hx)]
      exact if_pos hclose
    · rw [if_neg hclose]
      exact if_neg hclose
  unfold managerRepayFor
  rw [hknown, ok_bind, revertIf_of_not _ h.amount, ok_bind, hpull, ok_bind]
  dsimp only
  constructor
  · intro hrun
    obtain ⟨⟨r', q⟩, hrepay, hrun⟩ := bind_eq_ok.mp hrun
    obtain ⟨c₁, hreport, hrun⟩ := bind_eq_ok.mp hrun
    obtain ⟨hfit, rfl⟩ := (reportAllocation_eq_ok h.wired.bound (.inr rfl)).mp hreport
    have hres := (hend hrepay).symm.trans hrun
    simp only [Except.ok.injEq, Prod.mk.injEq] at hres
    obtain ⟨rfl, rfl⟩ := hres
    exact ⟨q, hrepay, hfit, rfl⟩
  · rintro ⟨q, hrepay, hfit, rfl⟩
    refine bind_eq_ok.mpr ⟨(r, q), hrepay, bind_eq_ok.mpr ⟨_, ?_, hend hrepay⟩⟩
    exact (reportAllocation_eq_ok h.wired.bound (.inr rfl)).mpr ⟨hfit, rfl⟩

/-- `repayFor` of the router returns when the pool's part does, and closes by the list of
`syncRepaid`. -/
theorem routerRepayFor_eq_ok (h : c.Payable d m id amount) (hd : d.routerHasFacilities = true)
    (htoken : c.pool.token.transferFrom d.router m.sender c.pool.vault.self amount = some token) :
    c.routerRepayFor d m id amount = .ok (r, c') ↔
      ∃ q, (c.pool.withToken token).repay (m.calledBy d.router) id amount amount = .ok (r, q) ∧
        c.recovery.totalAllocated id + r.applied < wordSize 256 ∧
        c' = c.afterPayment id r q (FacilityState.syncs (c.stateAt id)) := by
  obtain ⟨debt, hdebt, hpos⟩ := h.debt
  have howes : c.requireDebt id m.now = .ok debt := by
    unfold requireDebt
    rw [hdebt, ok_bind, revertIf_of_not _ hpos]
    rfl
  obtain ⟨hpull, -⟩ := pullToVault_eq htoken h.payer h.amount
  have hend : ∀ {r' : RepayResult} {q : Pool},
      (c.pool.withToken token).repay (m.calledBy d.router) id amount amount = .ok (r', q) →
      (if r'.newDebt = 0 then do
        let c₁ ← (c.recordPayment id r' q).syncRepaid d (m.calledBy d.router) id
        pure (r', c₁)
      else pure (r', c.recordPayment id r' q)) =
        .ok (r', c.afterPayment id r' q (FacilityState.syncs (c.stateAt id))) := by
    intro r' q hrepay
    obtain ⟨hx, hwriters, hnew⟩ := h.after (by rfl) hrepay
    have hwriter : q.ledger.isWriter d.manager = true := by
      rw [hwriters]
      exact (h.wired.writes (.inr rfl)).1
    by_cases hzero : r'.newDebt = 0
    · have hsettled : (c.recordPayment id r' q).pool.ledger.legalDebtAt id m.now = .ok 0 := by
        unfold Ledger.legalDebtAt
        rw [revertIf_of_not _ (by simpa [recordPayment] using hx), ok_bind]
        exact Facility.legalDebtAt_of_settled (hnew.trans hzero) m.now
      have hknown : (c.recordPayment id r' q).requireFacility id = .ok () :=
        revertIf_of_not _ (by simp [recordPayment, h.known])
      rw [if_pos hzero]
      unfold syncRepaid
      rw [hknown, ok_bind]
      change (((c.recordPayment id r' q).pool.ledger.legalDebtAt id m.now >>= _) >>= _) = _
      rw [hsettled, ok_bind, revertIf_of_not _ (fun hne => hne rfl), ok_bind]
      by_cases hsyncs : FacilityState.syncs (c.stateAt id) = true
      · have hafter : c.afterPayment id r' q (FacilityState.syncs (c.stateAt id)) =
            (c.recordPayment id r' q).withState id .repaid := if_pos ⟨hzero, hsyncs⟩
        rw [hafter]
        refine bind_eq_ok.mpr ⟨_, (if_pos hsyncs).trans ?_, rfl⟩
        exact setFacilityState_eq hwriter hx
      · have hafter : c.afterPayment id r' q (FacilityState.syncs (c.stateAt id)) =
            c.recordPayment id r' q := if_neg fun hc => hsyncs hc.2
        rw [hafter]
        exact bind_eq_ok.mpr ⟨_, if_neg hsyncs, rfl⟩
    · have hafter : c.afterPayment id r' q (FacilityState.syncs (c.stateAt id)) =
          c.recordPayment id r' q := if_neg fun hc => hzero hc.1
      rw [hafter]
      exact if_neg hzero
  unfold routerRepayFor applyReceived
  rw [revertIf_of_not _ h.amount, ok_bind, howes, ok_bind, hpull, ok_bind]
  dsimp only
  constructor
  · intro hrun
    obtain ⟨⟨r', q⟩, hrepay, hrun⟩ := bind_eq_ok.mp hrun
    dsimp only at hrun
    rw [if_pos hd] at hrun
    obtain ⟨c₁, hreport, hrun⟩ := bind_eq_ok.mp hrun
    obtain ⟨hfit, rfl⟩ := (reportAllocation_eq_ok h.wired.bound (.inl rfl)).mp hreport
    have hres := (hend hrepay).symm.trans hrun
    simp only [Except.ok.injEq, Prod.mk.injEq] at hres
    obtain ⟨rfl, rfl⟩ := hres
    exact ⟨q, hrepay, hfit, rfl⟩
  · rintro ⟨q, hrepay, hfit, rfl⟩
    refine bind_eq_ok.mpr ⟨(r, q), hrepay, (if_pos hd).trans ?_⟩
    refine bind_eq_ok.mpr ⟨_, ?_, hend hrepay⟩
    exact (reportAllocation_eq_ok h.wired.bound (.inl rfl)).mpr ⟨hfit, rfl⟩

/-! ### Where they end -/

/-- The books that a repayment writes are the same: the ledger, the vault and its cash, the
allocations the recovery manager counted, and the state of the facility. -/
structure SameBooks (id : FacilityId) (c₁ c₂ : Credit) : Prop where
  ledger : c₁.pool.ledger = c₂.pool.ledger
  vault : c₁.pool.vault = c₂.pool.vault
  cash : c₁.pool.token.balanceOf = c₂.pool.token.balanceOf
  allocated : c₁.recovery.totalAllocated = c₂.recovery.totalAllocated
  state : (c₁.manager.facilities id).state = (c₂.manager.facilities id).state

/-- The states that `syncRepaid` closes and the transition table does not. -/
def FacilityState.closedByRouterOnly (state : FacilityState) : Bool :=
  FacilityState.syncs state && !isTransitionAllowed state .repaid

/-- On two pools that differ in the token only, the outcomes of a payment are the same exactly
when both close the facility or both leave it. -/
theorem afterPayment_sameBooks {q : Pool} {token₂ : Token Address}
    (hcash : q.token.balanceOf = token₂.balanceOf) :
    SameBooks id (c.afterPayment id r q (isTransitionAllowed (c.stateAt id) .repaid))
        (c.afterPayment id r (q.withToken token₂) (FacilityState.syncs (c.stateAt id))) ↔
      ¬(r.newDebt = 0 ∧ FacilityState.closedByRouterOnly (c.stateAt id) = true) := by
  have hsame : ∀ closes, SameBooks id (c.afterPayment id r q closes)
      (c.afterPayment id r (q.withToken token₂) closes) := by
    intro closes
    unfold afterPayment
    split
    · exact ⟨rfl, rfl, hcash, rfl, rfl⟩
    · exact ⟨rfl, rfl, hcash, rfl, rfl⟩
  by_cases hzero : r.newDebt = 0
  · cases hallow : isTransitionAllowed (c.stateAt id) .repaid with
    | true =>
      have hsyncs : FacilityState.syncs (c.stateAt id) = true := by
        revert hallow
        cases c.stateAt id <;> decide
      rw [hsyncs]
      simp [hsame true, FacilityState.closedByRouterOnly, hallow]
    | false =>
      cases hsyncs : FacilityState.syncs (c.stateAt id) with
      | false => simp [hsame false, FacilityState.closedByRouterOnly, hsyncs]
      | true =>
        -- The router leaves the facility REPAID, the manager where it was.
        refine ⟨fun hbooks => ?_, fun hopen => absurd ⟨hzero, ?_⟩ hopen⟩
        · have hstate : c.stateAt id = .repaid := by
            simpa [afterPayment, hzero, recordPayment, withState, stateAt] using hbooks.state
          rw [hstate] at hsyncs
          cases hsyncs
        · simp [FacilityState.closedByRouterOnly, hallow, hsyncs]
  · have hopen : ∀ pool closes, c.afterPayment id r pool closes = c.recordPayment id r pool :=
      fun pool closes => if_neg fun hc => hzero hc.1
    rw [hopen, hopen]
    exact ⟨fun _ hc => hzero hc.1, fun _ => ⟨rfl, rfl, hcash, rfl, rfl⟩⟩

/-- A payment clears the debt when it is at least the debt. -/
theorem Payable.newDebt_eq_zero_iff {debt : Nat} {m' : Msg} {q : Pool}
    (hrepay : (c.pool.withToken token).repay m' id amount amount = .ok (r, q))
    (hdebt : (c.account id).debtAt m'.now = debt) :
    r.newDebt = 0 ↔ debt ≤ amount := by
  obtain ⟨split, l, hl, rfl, -⟩ := Pool.repay_ok hrepay
  obtain ⟨-, -, -, -, happlied, hnew, hsum, -, -, -⟩ := Ledger.allocate_ok hl
  have hbefore : (c.pool.withToken token).ledger.debtAt id m'.now = debt := hdebt
  rw [hbefore] at happlied hsum
  show split.newDebt = 0 ↔ debt ≤ amount
  omega

/-- One pool's part of a repayment gives the other's. -/
theorem Payable.repay_other (h : c.Payable d m id amount) {caller caller' : Address}
    {token token' : Token Address} {q : Pool}
    (hcaller : caller' = d.router ∨ caller' = d.manager)
    (hbalance : token'.balanceOf = token.balanceOf)
    (hrepay : (c.pool.withToken token).repay (m.calledBy caller) id amount amount = .ok (r, q)) :
    (c.pool.withToken token').repay (m.calledBy caller') id amount amount =
      .ok (r, q.withToken token') :=
  Pool.repay_withToken (p := c.pool.withToken token) hrepay (by rfl) (h.wired.writes hcaller).1 (h.wired.writes hcaller).2
    (congrFun hbalance _)

end Credit

open Credit

/-- A facility that owes is known to the manager: it was drawn in the state `ACTIVE`. -/
theorem CreditReachable.debtor_known {d : Deployment} {s : CreditState} {id : FacilityId} {t : Nat}
    (h : CreditReachable d s) (howes : (s.credit.account id).debtAt t ≠ 0) :
    (s.credit.manager.facilities id).exists_ = true := by
  refine (Reachable.invariant (P := fun s => (s.Inv d ∧ s.credit.Tidy id) ∧
    ∀ t, (s.credit.account id).debtAt t ≠ 0 → (s.credit.manager.facilities id).exists_ = true)
    ?_ ?_ h).2 t howes
  · intro s hinit
    refine ⟨⟨hinit.inv, CreditReachable.tidy (.init hinit) id⟩, fun t hne => ?_⟩
    obtain ⟨token, -, hs⟩ := hinit
    rw [hs] at hne
    exact absurd ((Facility.debtAt_eq_zero_iff _ t).mpr ⟨rfl, rfl, Nat.zero_div _⟩) hne
  · rintro s tx s' ⟨⟨hi, ht⟩, hknown⟩ hstep
    rcases hstep.outcome hi with ⟨i, hdrawn⟩ | hserviced
    · refine ⟨⟨hstep.inv hi, hdrawn.tidy ht⟩, fun t hne => ?_⟩
      rw [hdrawn.facilities]
      by_cases hid : id = i
      · subst hid
        exact ht.known (by rw [hdrawn.active]; exact nofun)
      · rw [hdrawn.others id hid] at hne
        exact hknown t hne
    · refine ⟨⟨hstep.inv hi, (hserviced id).tidy ht⟩, fun t hne => (hserviced id).known ?_⟩
      refine hknown tx.msg.now fun hzero => hne ?_
      have hle := (hserviced id).account.debt
      rw [hzero] at hle
      exact Facility.debtAt_eq_zero (Nat.le_zero.mp hle) t

/-- In a reachable state, let a facility owe `debt` and let a payer's cash reach the vault through
both paths. Then the manager's `repayFor` returns if and only if the router's does, with the
same split, and the two leave the same ledger, vault, allocations and facility state if and only
if it is not the case that the payment clears the debt of a facility in `DRAW_FROZEN`,
`DELINQUENT`, `DEFAULTED` or `CLOSED_WITH_LOSS`. -/
theorem repayment_paths_agree {d : Deployment} {s : CreditState} {m : Msg} {id : FacilityId}
    {debt amount : Nat} {token₁ token₂ : Token Address} (h : CreditReachable d s)
    (hd : d.routerHasFacilities = true) (hsender : m.sender ∉ d.contracts)
    (hdebt : s.credit.pool.ledger.legalDebtAt id m.now = .ok debt) (hpos : 0 < debt)
    (hamount : 0 < amount)
    (htoken₁ : s.credit.pool.token.transferFrom d.manager m.sender d.vault amount = some token₁)
    (htoken₂ : s.credit.pool.token.transferFrom d.router m.sender d.vault amount = some token₂) :
    ((∃ out, s.credit.managerRepayFor d m id amount = .ok out) ↔
      ∃ out, s.credit.routerRepayFor d m id amount = .ok out) ∧
    ∀ r₁ c₁ r₂ c₂, s.credit.managerRepayFor d m id amount = .ok (r₁, c₁) →
      s.credit.routerRepayFor d m id amount = .ok (r₂, c₂) →
      r₁ = r₂ ∧ (SameBooks id c₁ c₂ ↔ ¬(debt ≤ amount ∧
        (s.credit.manager.facilities id).state ∈
          [.drawFrozen, .delinquent, .defaulted, .closedWithLoss])) := by
  have hw : s.credit.Wired d := h.inv.wired
  have hself : s.credit.pool.vault.self = d.vault := hw.pool.self
  obtain ⟨_, hx, hlegal⟩ := bind_eq_ok.mp hdebt
  have hx : (s.credit.pool.ledger.facilities id).exists_ = true := by
    simpa using revertIf_eq_ok.mp hx
  have howes : debt = (s.credit.account id).debtAt m.now := Facility.legalDebtAt_eq_ok hlegal
  have hpay : s.credit.Payable d m id amount := by
    refine ⟨hw, h.debtor_known (howes ▸ hpos.ne'), hx, ⟨debt, hdebt, hpos.ne'⟩, ?_, hamount.ne'⟩
    rw [hself]
    rintro hs
    exact hsender (by simp [Deployment.contracts, hs])
  rw [← hself] at htoken₁ htoken₂
  have hcash := Token.transferFrom_balanceOf_eq htoken₁ htoken₂
  have hmanager : ∀ r c', s.credit.managerRepayFor d m id amount = .ok (r, c') ↔
      ∃ q, (s.credit.pool.withToken token₁).repay (m.calledBy d.manager) id amount amount =
          .ok (r, q) ∧
        s.credit.recovery.totalAllocated id + r.applied < wordSize 256 ∧
        c' = s.credit.afterPayment id r q (isTransitionAllowed (s.credit.stateAt id) .repaid) :=
    fun r c' => managerRepayFor_eq_ok hpay htoken₁
  have hrouter : ∀ r c', s.credit.routerRepayFor d m id amount = .ok (r, c') ↔
      ∃ q, (s.credit.pool.withToken token₂).repay (m.calledBy d.router) id amount amount =
          .ok (r, q) ∧
        s.credit.recovery.totalAllocated id + r.applied < wordSize 256 ∧
        c' = s.credit.afterPayment id r q (FacilityState.syncs (s.credit.stateAt id)) :=
    fun r c' => routerRepayFor_eq_ok hpay hd htoken₂
  refine ⟨⟨?_, ?_⟩, ?_⟩
  · rintro ⟨⟨r, c₁⟩, h₁⟩
    obtain ⟨q, hrepay, hfit, -⟩ := (hmanager r c₁).mp h₁
    exact ⟨_, (hrouter r _).mpr
      ⟨_, hpay.repay_other (.inl rfl) hcash.symm hrepay, hfit, rfl⟩⟩
  · rintro ⟨⟨r, c₂⟩, h₂⟩
    obtain ⟨q, hrepay, hfit, -⟩ := (hrouter r c₂).mp h₂
    exact ⟨_, (hmanager r _).mpr ⟨_, hpay.repay_other (.inr rfl) hcash hrepay, hfit, rfl⟩⟩
  · intro r₁ c₁ r₂ c₂ h₁ h₂
    obtain ⟨q₁, hrepay₁, -, rfl⟩ := (hmanager r₁ c₁).mp h₁
    obtain ⟨q₂, hrepay₂, -, rfl⟩ := (hrouter r₂ c₂).mp h₂
    have hother := hpay.repay_other (.inl rfl) hcash.symm hrepay₁
    rw [hother] at hrepay₂
    simp only [Except.ok.injEq, Prod.mk.injEq] at hrepay₂
    obtain ⟨rfl, rfl⟩ := hrepay₂
    refine ⟨rfl, ?_⟩
    -- The manager's pool holds the token it was paid in.
    have hkeeps := hpay.repay_other (.inr rfl) rfl hrepay₁
    rw [hrepay₁] at hkeeps
    simp only [Except.ok.injEq, Prod.mk.injEq, true_and] at hkeeps
    have hq₁ : q₁.token = token₁ := congrArg Pool.token hkeeps
    rw [afterPayment_sameBooks (hq₁ ▸ hcash),
      Payable.newDebt_eq_zero_iff hrepay₁ howes.symm]
    have hstates : ∀ state, FacilityState.closedByRouterOnly state = true ↔
        state ∈ [.drawFrozen, .delinquent, .defaulted, .closedWithLoss] := by
      intro state
      cases state <;> decide
    rw [hstates]
    rfl

/-- Account 9 at time 20. -/
def Sample.payer : Msg := (tx 9 20 (.manager (.repayFor 5 200))).msg

/-- The state of facility 5 after a repayment. -/
def Sample.stateAfter (out : Except Revert (RepayResult × Credit)) : Option FacilityState :=
  (out.map fun p => (p.2.manager.facilities 5).state).toOption

theorem Sample.stateAfter_eq_some {out : Except Revert (RepayResult × Credit)}
    {state : FacilityState} (h : stateAfter out = some state) :
    ∃ r c, out = .ok (r, c) ∧ (c.manager.facilities 5).state = state := by
  obtain ⟨⟨r, c⟩, hout, hstate⟩ := map_eq_ok.mp (toOption_eq_some.mp h)
  exact ⟨r, c, hout, hstate⟩

/-- Both repayments of 200 of a debt of 600 leave the same books. -/
theorem repayment_paths_agree_sample :
    ∃ s r c₁ c₂, CreditReachable Sample.protocol s ∧
      s.credit.pool.ledger.legalDebtAt 5 20 = .ok 600 ∧
      s.credit.managerRepayFor Sample.protocol Sample.payer 5 200 = .ok (r, c₁) ∧
      s.credit.routerRepayFor Sample.protocol Sample.payer 5 200 = .ok (r, c₂) ∧
      SameBooks 5 c₁ c₂ := by
  obtain ⟨s, hrun, hview⟩ := Sample.creditDeployment.run_view Sample.protocol
    (Sample.activeFacility 1000 600) (fun s => decide (
      (s.credit.pool.ledger.legalDebtAt 5 20).toOption = some 600 ∧
      (s.credit.pool.token.transferFrom 3 9 1 200).isSome = true ∧
      (s.credit.pool.token.transferFrom 4 9 1 200).isSome = true ∧
      Sample.stateAfter (s.credit.managerRepayFor Sample.protocol Sample.payer 5 200) =
        some .active)) (v := true) (by decide +kernel)
  obtain ⟨hdebt, htoken₁, htoken₂, hpaid⟩ := of_decide_eq_true hview
  have hreach : CreditReachable Sample.protocol s :=
    ⟨_, _, Sample.creditDeployment_initial, CreditState.run_steps hrun⟩
  have hdebt := toOption_eq_some.mp hdebt
  obtain ⟨token₁, htoken₁⟩ := Option.isSome_iff_exists.mp htoken₁
  obtain ⟨token₂, htoken₂⟩ := Option.isSome_iff_exists.mp htoken₂
  obtain ⟨r, c₁, hmanager, -⟩ := Sample.stateAfter_eq_some hpaid
  obtain ⟨hboth, hagree⟩ := repayment_paths_agree (m := Sample.payer) hreach rfl
    (by decide +kernel) hdebt (by decide) (by decide) htoken₁ htoken₂
  obtain ⟨⟨r₂, c₂⟩, hrouter⟩ := hboth.mp ⟨_, hmanager⟩
  obtain ⟨rfl, hbooks⟩ := hagree r c₁ r₂ c₂ hmanager hrouter
  exact ⟨s, r, c₁, c₂, hreach, hdebt, hmanager, hrouter,
    hbooks.mpr fun hclears => absurd hclears.1 (by decide)⟩

/-- A guardian froze the draws of facility 5, and its wallet pays all of the debt of 600. The
manager leaves the facility frozen, the router closes it. -/
theorem frozen_facility_paths_differ :
    ∃ s r₁ c₁ r₂ c₂, CreditReachable Sample.protocol s ∧
      s.credit.pool.ledger.legalDebtAt 5 20 = .ok 600 ∧
      s.credit.managerRepayFor Sample.protocol Sample.payer 5 600 = .ok (r₁, c₁) ∧
      s.credit.routerRepayFor Sample.protocol Sample.payer 5 600 = .ok (r₂, c₂) ∧
      (c₁.manager.facilities 5).state = .drawFrozen ∧
      (c₂.manager.facilities 5).state = .repaid ∧ ¬SameBooks 5 c₁ c₂ := by
  obtain ⟨s, hrun, hview⟩ := Sample.creditDeployment.run_view Sample.protocol
    (Sample.activeFacility 1000 600 ++ [Sample.tx 7 10 (.manager (.freezeDraws 5))])
    (fun s => decide ((s.credit.pool.ledger.legalDebtAt 5 20).toOption = some 600 ∧
      Sample.stateAfter (s.credit.managerRepayFor Sample.protocol Sample.payer 5 600) =
        some .drawFrozen ∧
      Sample.stateAfter (s.credit.routerRepayFor Sample.protocol Sample.payer 5 600) =
        some .repaid)) (v := true) (by decide +kernel)
  obtain ⟨hdebt, hmanager, hrouter⟩ := of_decide_eq_true hview
  obtain ⟨r₁, c₁, hmanager, hstate₁⟩ := Sample.stateAfter_eq_some hmanager
  obtain ⟨r₂, c₂, hrouter, hstate₂⟩ := Sample.stateAfter_eq_some hrouter
  refine ⟨s, r₁, c₁, r₂, c₂, ⟨_, _, Sample.creditDeployment_initial, CreditState.run_steps hrun⟩,
    toOption_eq_some.mp hdebt, hmanager, hrouter, hstate₁, hstate₂, fun hbooks => ?_⟩
  exact absurd (hstate₁.symm.trans (hbooks.state.trans hstate₂)) nofun

end Rackline
