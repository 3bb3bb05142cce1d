import Rackline.Proofs.CreditInvariant

/-!
# `Rackline.Proofs.Settlement`: settlement receipts are conserved

The router holds the cash of many settlements in one balance and pays it out in slices. Its
receipts say how much of each settlement came in and how much of it was allocated.

`Spares` is the frame: a call that leaves the receipts alone and takes nothing out of the router.
Every call of the protocol is one, apart from the two that record a settlement and the two that
allocate from one. What those do is `SettlementEffect`, and the three results about whole runs
follow from it: no settlement is recorded twice, the router covers what is not allocated, and
what the vault received for a settlement is what was allocated of it and what the calls reported.
-/

set_option autoImplicit false

namespace Rackline

open Evm Transition Finset

/-! ### The vault leaves the other accounts alone -/

namespace Pool

variable {p p' : Pool} {a : Address}

theorem push_spares {dst : Address} {amount : Nat} (h : p.push dst amount = .ok p')
    (hne : a ≠ p.vault.self) : Token.Spares a p.token p'.token := by
  unfold push at h
  split at h
  · cases h
  · rename_i token htoken
    obtain ⟨_, -, h⟩ := bind_eq_ok.mp h
    obtain rfl := pure_eq_ok.mp h
    exact Token.move_spares htoken hne

theorem pull_spares {src : Address} {amount received : Nat}
    (h : p.pull src amount = .ok (received, p')) : Token.Spares a p.token p'.token := by
  unfold pull at h
  split at h
  · cases h
  · rename_i token htoken
    obtain ⟨r, -, h⟩ := bind_eq_ok.mp h
    have hres := pure_eq_ok.mp h
    simp only [Prod.mk.injEq] at hres
    obtain ⟨-, rfl⟩ := hres
    exact Token.transferFrom_spares htoken

end Pool

open Pool in
/-- Every vault call spares every account but the vault. -/
theorem VaultCall.exec_spares {m : Msg} {p p' : Pool} {c : VaultCall} {a : Address}
    (hne : a ≠ p.vault.self) (h : c.exec m p = .ok p') : Token.Spares a p.token p'.token := by
  cases c with
  | setManager manager enabled =>
    obtain ⟨_, _, _, _, rfl⟩ := setManager_ok h
    exact .refl a _
  | finalizeWiring =>
    obtain ⟨_, _, _, _, rfl⟩ := finalizeWiring_ok h
    exact .refl a _
  | bindRecoveryManager manager =>
    obtain ⟨_, _, _, _, rfl⟩ := bindRecoveryManager_ok h
    exact .refl a _
  | setDepositsPaused paused =>
    obtain ⟨_, _, _, _, rfl⟩ := setDepositsPaused_ok h
    exact .refl a _
  | deposit assets minShares =>
    obtain ⟨⟨shares, q⟩, hc, rfl⟩ := map_eq_ok.mp h
    unfold Pool.deposit at hc
    obtain ⟨_, -, hc⟩ := bind_eq_ok.mp hc
    obtain ⟨_, -, hc⟩ := bind_eq_ok.mp hc
    rw [absorbDonation_eq] at hc
    obtain ⟨_, -, hc⟩ := bind_eq_ok.mp hc
    obtain ⟨_, -, hc⟩ := bind_eq_ok.mp hc
    obtain ⟨_, -, hc⟩ := bind_eq_ok.mp hc
    obtain ⟨_, -, hc⟩ := bind_eq_ok.mp hc
    obtain ⟨_, -, hc⟩ := bind_eq_ok.mp hc
    obtain ⟨⟨received, q₁⟩, hpull, hc⟩ := bind_eq_ok.mp hc
    obtain ⟨_, -, hc⟩ := bind_eq_ok.mp hc
    obtain ⟨q₂, hmint, hc⟩ := bind_eq_ok.mp hc
    obtain rfl := mint_ok hmint
    have hres := pure_eq_ok.mp hc
    simp only [Prod.mk.injEq] at hres
    obtain ⟨-, rfl⟩ := hres
    have hspared := pull_spares (a := a) hpull
    exact hspared
  | withdraw shares minAssets =>
    obtain ⟨⟨assets, q⟩, hc, rfl⟩ := map_eq_ok.mp h
    unfold Pool.withdraw at hc
    obtain ⟨_, -, hc⟩ := bind_eq_ok.mp hc
    obtain ⟨_, -, hc⟩ := bind_eq_ok.mp hc
    obtain ⟨_, -, hc⟩ := bind_eq_ok.mp hc
    rw [absorbDonation_eq] at hc
    obtain ⟨_, -, hc⟩ := bind_eq_ok.mp hc
    obtain ⟨_, -, hc⟩ := bind_eq_ok.mp hc
    obtain ⟨_, -, hc⟩ := bind_eq_ok.mp hc
    obtain ⟨_, -, hc⟩ := bind_eq_ok.mp hc
    obtain ⟨_, -, hc⟩ := bind_eq_ok.mp hc
    obtain ⟨q₁, hburn, hc⟩ := bind_eq_ok.mp hc
    obtain ⟨-, -, rfl⟩ := burn_ok hburn
    obtain ⟨q₂, hpush, hc⟩ := bind_eq_ok.mp hc
    have hres := pure_eq_ok.mp hc
    simp only [Prod.mk.injEq] at hres
    obtain ⟨-, rfl⟩ := hres
    have hspared := push_spares hpush hne
    exact hspared
  | requestWithdrawal shares minAssets =>
    obtain ⟨⟨id, q⟩, hc, rfl⟩ := map_eq_ok.mp h
    obtain ⟨-, -, -, -, rfl⟩ := requestWithdrawal_ok hc
    exact .refl a _
  | cancelWithdrawal id =>
    obtain ⟨-, rfl⟩ := cancelWithdrawal_ok h
    exact .refl a _
  | processWithdrawals maxRequests =>
    obtain ⟨⟨filled, reserved, q⟩, hc, rfl⟩ := map_eq_ok.mp h
    obtain ⟨-, hloop⟩ := processWithdrawals_ok hc
    have htoken : q.token = p.token :=
      processLoop_invariant (P := fun _ q => q.token = p.token)
        (fun _ q q' hq _ hstep => by
          cases hstep with
          | passed => exact hq
          | expired => exact hq)
        (fun _ q q' id shares assets whole hq _ hstep => by
          cases hstep with
          | whole => exact hq
          | part => exact hq)
        hloop rfl
    show Token.Spares a p.token q.token
    rw [htoken]
    exact .refl a _
  | claimWithdrawal id =>
    obtain ⟨⟨assets, q⟩, hc, rfl⟩ := map_eq_ok.mp h
    unfold Pool.claimWithdrawal at hc
    obtain ⟨_, -, hc⟩ := bind_eq_ok.mp hc
    obtain ⟨_, -, hc⟩ := bind_eq_ok.mp hc
    obtain ⟨_, -, hc⟩ := bind_eq_ok.mp hc
    obtain ⟨_, -, hc⟩ := bind_eq_ok.mp hc
    obtain ⟨_, -, hc⟩ := bind_eq_ok.mp hc
    obtain ⟨_, -, hc⟩ := bind_eq_ok.mp hc
    obtain ⟨q₁, hpush, hc⟩ := bind_eq_ok.mp hc
    have hres := pure_eq_ok.mp hc
    simp only [Prod.mk.injEq] at hres
    obtain ⟨-, rfl⟩ := hres
    have hspared := push_spares hpush hne
    exact hspared
  | rollLossEpoch =>
    obtain ⟨-, residual, -, -, rfl⟩ := rollLossEpoch_ok h
    exact .refl a _
  | claimEpochRecovery epoch =>
    obtain ⟨⟨assets, q⟩, hc, rfl⟩ := map_eq_ok.mp h
    unfold Pool.claimEpochRecovery at hc
    obtain ⟨_, -, hc⟩ := bind_eq_ok.mp hc
    obtain ⟨_, -, hc⟩ := bind_eq_ok.mp hc
    obtain ⟨_, -, hc⟩ := bind_eq_ok.mp hc
    obtain ⟨_, -, hc⟩ := bind_eq_ok.mp hc
    obtain ⟨_, -, hc⟩ := bind_eq_ok.mp hc
    obtain ⟨q₁, hpush, hc⟩ := bind_eq_ok.mp hc
    have hres := pure_eq_ok.mp hc
    simp only [Prod.mk.injEq] at hres
    obtain ⟨-, rfl⟩ := hres
    have hspared := push_spares hpush hne
    exact hspared
  | lend id dst amount =>
    simp only [VaultCall.exec, Pool.lend] at h
    obtain ⟨_, -, h⟩ := bind_eq_ok.mp h
    obtain ⟨_, -, h⟩ := bind_eq_ok.mp h
    obtain ⟨_, -, h⟩ := bind_eq_ok.mp h
    obtain ⟨_, -, h⟩ := bind_eq_ok.mp h
    obtain ⟨_, -, h⟩ := bind_eq_ok.mp h
    obtain ⟨_, -, h⟩ := bind_eq_ok.mp h
    rw [absorbDonation_eq] at h
    obtain ⟨_, -, h⟩ := bind_eq_ok.mp h
    obtain ⟨_, -, h⟩ := bind_eq_ok.mp h
    obtain ⟨q₁, hpush, h⟩ := bind_eq_ok.mp h
    obtain rfl := pure_eq_ok.mp h
    have hspared := push_spares hpush hne
    exact hspared
  | onRepayment id result =>
    obtain ⟨-, -, -, -, -, rfl⟩ := onRepayment_ok h
    exact .refl a _
  | refundExcess id dst amount =>
    simp only [VaultCall.exec, Pool.refundExcess] at h
    obtain ⟨_, -, h⟩ := bind_eq_ok.mp h
    obtain ⟨_, -, h⟩ := bind_eq_ok.mp h
    obtain ⟨_, -, h⟩ := bind_eq_ok.mp h
    obtain ⟨_, -, h⟩ := bind_eq_ok.mp h
    obtain ⟨_, -, h⟩ := bind_eq_ok.mp h
    obtain ⟨q₁, hpush, h⟩ := bind_eq_ok.mp h
    obtain rfl := pure_eq_ok.mp h
    have hspared := push_spares hpush hne
    exact hspared
  | recordRecovery id amount =>
    obtain ⟨-, -, -, rfl⟩ := recordRecovery_ok h
    exact .refl a _
  | recognizeImpairment id amount =>
    obtain ⟨-, -, rfl⟩ := recognizeImpairment_ok h
    exact .refl a _
  | reverseImpairment id amount =>
    obtain ⟨-, -, rfl⟩ := reverseImpairment_ok h
    exact .refl a _
  | writeOff id =>
    obtain ⟨-, -, -, lost, -, rfl⟩ := writeOff_ok h
    exact .refl a _
  | approve spender amount =>
    cases h
    exact .refl a _
  | transfer dst amount =>
    obtain ⟨-, rfl⟩ := transferShares_ok h
    exact .refl a _
  | transferFrom src dst amount =>
    obtain ⟨-, allowances, rfl⟩ := transferFrom_ok h
    exact .refl a _

/-- A repayment on cash that is in the vault moves no token, and its split is of what arrived. -/
theorem Pool.repay_settles {m : Msg} {id : FacilityId} {got requested : Nat} {r : RepayResult}
    {p p' : Pool} (h : p.repay m id got requested = .ok (r, p')) :
    p'.token = p.token ∧ r.applied + r.excess = got := by
  obtain ⟨split, ledger, halloc, rfl, hon⟩ := Pool.repay_ok h
  obtain ⟨-, -, -, -, -, rfl⟩ := Pool.onRepayment_ok hon
  obtain ⟨-, -, -, hwhole, -⟩ := Ledger.allocate_ok halloc
  exact ⟨rfl, hwhole⟩

namespace Credit

/-- A call that leaves the receipts alone and takes nothing out of the router. -/
structure Spares (d : Deployment) (c c' : Credit) : Prop where
  router : c'.router = c.router
  token : Token.Spares d.router c.pool.token c'.pool.token

/-- A call that leaves the receipts alone and takes nothing out of the account `a`. -/
structure Leaves (a : Address) (c c' : Credit) : Prop where
  router : c'.router = c.router
  token : Token.Spares a c.pool.token c'.pool.token

variable {d : Deployment} {reg : Registries} {m : Msg} {c c' c'' : Credit} {id : FacilityId}
  {a : Address}

theorem Leaves.spares (h : Leaves d.router c c') : Spares d c c' := ⟨h.router, h.token⟩

theorem Leaves.of_eq (hr : c'.router = c.router) (ht : c'.pool.token = c.pool.token) :
    Leaves a c c' := by
  refine ⟨hr, ?_⟩
  rw [ht]
  exact .refl _ _

theorem Leaves.trans (h : Leaves a c c') (h' : Leaves a c' c'') : Leaves a c c'' :=
  ⟨h'.router.trans h.router, h.token.trans h'.token⟩

/-! ### The controller and the manager -/

theorem setFacilityState_leaves {target : FacilityState}
    (h : c.setFacilityState d m id target = .ok c') : Leaves a c c' := by
  obtain ⟨l, -, rfl⟩ := setFacilityState_ok h
  exact .of_eq rfl rfl

theorem recoveryTransition_leaves {target : FacilityState}
    (h : c.recoveryTransition d reg m id target = .ok c') : Leaves a c c' :=
  setFacilityState_leaves (recoveryTransition_ok h).2.2

theorem syncRepaid_leaves (h : c.syncRepaid d m id = .ok c') : Leaves a c c' := by
  obtain ⟨-, rfl | hset⟩ := syncRepaid_ok h
  · exact .of_eq rfl rfl
  · exact setFacilityState_leaves hset

theorem openFacility_leaves {borrowerId : Bytes32} {wallet : Address} {terms : Terms}
    {controlAgreementId : Bytes32} {controlVersion : Nat}
    (h : c.openFacility d reg m id borrowerId wallet terms controlAgreementId controlVersion =
      .ok c') : Leaves a c c' := by
  unfold openFacility at h
  obtain ⟨_, -, h⟩ := bind_eq_ok.mp h
  obtain ⟨_, -, h⟩ := bind_eq_ok.mp h
  obtain ⟨_, -, h⟩ := bind_eq_ok.mp h
  obtain ⟨_, -, h⟩ := bind_eq_ok.mp h
  obtain ⟨_, -, h⟩ := bind_eq_ok.mp h
  split at h
  · cases h
  · obtain ⟨_, -, h⟩ := bind_eq_ok.mp h
    obtain ⟨_, -, h⟩ := bind_eq_ok.mp h
    obtain ⟨_, -, h⟩ := bind_eq_ok.mp h
    obtain ⟨l, -, h⟩ := bind_eq_ok.mp h
    have hset := setFacilityState_leaves (a := a) h
    exact ⟨hset.router, hset.token⟩

theorem releaseReservation_leaves {rid : Bytes32} {next : ReservationState}
    (h : c.releaseReservation rid next = .ok c') : Leaves a c c' := by
  unfold releaseReservation at h
  obtain ⟨_, -, h⟩ := bind_eq_ok.mp h
  obtain ⟨reserved, -, h⟩ := bind_eq_ok.mp h
  obtain rfl := pure_eq_ok.mp h
  exact .of_eq rfl rfl

theorem reserve_leaves {amount nonce expiresAt : Nat} {rid : Bytes32}
    (h : c.reserve d reg m id amount nonce expiresAt = .ok (rid, c')) : Leaves a c c' := by
  obtain ⟨nonceUsed, r, reserved, -, rfl⟩ := reserve_ok h
  exact .of_eq rfl rfl

theorem consumeReservation_leaves {rid : Bytes32}
    (h : c.consumeReservation d reg m rid = .ok c') : Leaves a c c' := by
  obtain ⟨-, -, l, reserved, -, rfl⟩ := consumeReservation_ok h
  exact .of_eq rfl rfl

theorem reserveInternal_leaves {amount expiresAt : Nat} {rid : Bytes32}
    (h : c.reserveInternal d reg m id amount expiresAt = .ok (rid, c')) : Leaves a c c' := by
  unfold reserveInternal at h
  obtain ⟨_, -, h⟩ := bind_eq_ok.mp h
  obtain ⟨_, -, h⟩ := bind_eq_ok.mp h
  obtain ⟨_, -, h⟩ := bind_eq_ok.mp h
  obtain ⟨_, -, h⟩ := bind_eq_ok.mp h
  obtain ⟨ev, -, h⟩ := bind_eq_ok.mp h
  obtain ⟨_, -, h⟩ := bind_eq_ok.mp h
  obtain ⟨_, -, h⟩ := bind_eq_ok.mp h
  obtain ⟨cash, -, h⟩ := bind_eq_ok.mp h
  obtain ⟨_, -, h⟩ := bind_eq_ok.mp h
  obtain ⟨nonce, -, h⟩ := bind_eq_ok.mp h
  obtain ⟨⟨rid', q⟩, hq, h⟩ := bind_eq_ok.mp h
  have hres := pure_eq_ok.mp h
  simp only [Prod.mk.injEq] at hres
  obtain ⟨-, rfl⟩ := hres
  have hreserve := reserve_leaves (a := a) hq
  exact ⟨hreserve.router, hreserve.token⟩

/-- The vault lends from its own cash. -/
theorem executeInternal_leaves (hne : a ≠ d.vault) (hself : c.pool.vault.self = d.vault) {rid : Bytes32}
    {minReceived : Nat} (h : c.executeInternal d reg m rid minReceived = .ok c') :
    Leaves a c c' := by
  unfold executeInternal at h
  obtain ⟨_, -, h⟩ := bind_eq_ok.mp h
  obtain ⟨_, -, h⟩ := bind_eq_ok.mp h
  obtain ⟨_, -, h⟩ := bind_eq_ok.mp h
  obtain ⟨q, hq, h⟩ := bind_eq_ok.mp h
  obtain ⟨-, -, l, reserved, -, rfl⟩ := consumeReservation_ok hq
  obtain ⟨pool, hlend, h⟩ := bind_eq_ok.mp h
  obtain ⟨received, -, h⟩ := bind_eq_ok.mp h
  obtain ⟨_, -, h⟩ := bind_eq_ok.mp h
  obtain ⟨_, -, h⟩ := bind_eq_ok.mp h
  obtain rfl := pure_eq_ok.mp h
  refine ⟨rfl, ?_⟩
  have hlent := VaultCall.exec_spares (a := a) (c := .lend _ _ _)
    (by rw [hself]; exact hne) hlend
  exact hlent

/-- A repayment brings cash from the payer, who is not the router or has approved it. -/
theorem pullToVault_spares {caller payer a : Address} {amount got : Nat} {p p' : Pool}
    (h : pullToVault caller payer amount p = .ok (got, p')) :
    Token.Spares a p.token p'.token := by
  unfold pullToVault at h
  split at h
  · cases h
  · rename_i token htoken
    obtain ⟨received, -, h⟩ := bind_eq_ok.mp h
    obtain ⟨_, -, h⟩ := bind_eq_ok.mp h
    have hres := pure_eq_ok.mp h
    simp only [Prod.mk.injEq] at hres
    obtain ⟨-, rfl⟩ := hres
    exact Token.transferFrom_spares htoken

theorem managerRepayFor_leaves {amount : Nat} {r : RepayResult}
    (h : c.managerRepayFor d m id amount = .ok (r, c')) : Leaves a c c' := by
  unfold managerRepayFor at h
  obtain ⟨_, -, h⟩ := bind_eq_ok.mp h
  obtain ⟨_, -, h⟩ := bind_eq_ok.mp h
  obtain ⟨⟨got, q⟩, hpull, h⟩ := bind_eq_ok.mp h
  obtain ⟨⟨r', p₁⟩, hrepay, h⟩ := bind_eq_ok.mp h
  obtain ⟨c₁, hobs, h⟩ := bind_eq_ok.mp h
  obtain ⟨recovery, rfl⟩ := reportAllocation_ok hobs
  have hpaid : Leaves a c { c with pool := p₁, recovery := recovery } := by
    refine ⟨rfl, ?_⟩
    show Token.Spares a c.pool.token p₁.token
    rw [(Pool.repay_settles hrepay).1]
    exact pullToVault_spares hpull
  split at h
  · obtain ⟨c₂, hset, h⟩ := bind_eq_ok.mp h
    have hres := pure_eq_ok.mp h
    simp only [Prod.mk.injEq] at hres
    obtain ⟨-, rfl⟩ := hres
    exact hpaid.trans (setFacilityState_leaves hset)
  · have hres := pure_eq_ok.mp h
    simp only [Prod.mk.injEq] at hres
    obtain ⟨-, rfl⟩ := hres
    exact hpaid

/-! ### The router -/

/-- The common end of the router's repayments moves nothing and reports a split of what came. -/
theorem applyReceived_settles {requested got : Nat} {r : RepayResult}
    (h : applyReceived d m id requested got c = .ok (r, c')) :
    c'.router = c.router ∧ c'.pool.token = c.pool.token ∧ r.applied + r.excess = got := by
  unfold applyReceived at h
  obtain ⟨⟨r', p₁⟩, hrepay, h⟩ := bind_eq_ok.mp h
  obtain ⟨htoken, hsplit⟩ := Pool.repay_settles hrepay
  dsimp only at h
  split at h
  · obtain ⟨c₁, hobs, h⟩ := bind_eq_ok.mp h
    obtain ⟨recovery, rfl⟩ := reportAllocation_ok hobs
    split at h
    · obtain ⟨c₂, hsync, h⟩ := bind_eq_ok.mp h
      have hres := pure_eq_ok.mp h
      simp only [Prod.mk.injEq] at hres
      obtain ⟨rfl, rfl⟩ := hres
      obtain ⟨-, rfl | hset⟩ := syncRepaid_ok hsync
      · exact ⟨rfl, htoken, hsplit⟩
      · obtain ⟨l, -, rfl⟩ := setFacilityState_ok hset
        exact ⟨rfl, htoken, hsplit⟩
    · have hres := pure_eq_ok.mp h
      simp only [Prod.mk.injEq] at hres
      obtain ⟨rfl, rfl⟩ := hres
      exact ⟨rfl, htoken, hsplit⟩
  · have hres := pure_eq_ok.mp h
    simp only [Prod.mk.injEq] at hres
    obtain ⟨rfl, rfl⟩ := hres
    exact ⟨rfl, htoken, hsplit⟩

theorem applyReceived_leaves {requested got : Nat} {r : RepayResult}
    (h : applyReceived d m id requested got c = .ok (r, c')) : Leaves a c c' := by
  obtain ⟨hrouter, htoken, -⟩ := applyReceived_settles h
  exact .of_eq hrouter htoken

theorem routerRepayFor_leaves {amount : Nat} {r : RepayResult}
    (h : c.routerRepayFor d m id amount = .ok (r, c')) : Leaves a c c' := by
  unfold routerRepayFor at h
  obtain ⟨_, -, h⟩ := bind_eq_ok.mp h
  obtain ⟨_, -, h⟩ := bind_eq_ok.mp h
  obtain ⟨⟨got, q⟩, hpull, h⟩ := bind_eq_ok.mp h
  have hpulled : Leaves a c { c with pool := q } := ⟨rfl, pullToVault_spares hpull⟩
  exact hpulled.trans (applyReceived_leaves h)

theorem repayExact_leaves {maxAmount : Nat} {r : RepayResult}
    (h : c.repayExact d m id maxAmount = .ok (r, c')) : Leaves a c c' := by
  unfold repayExact at h
  obtain ⟨_, -, h⟩ := bind_eq_ok.mp h
  obtain ⟨_, -, h⟩ := bind_eq_ok.mp h
  obtain ⟨⟨got, q⟩, hpull, h⟩ := bind_eq_ok.mp h
  have hpulled : Leaves a c { c with pool := q } := ⟨rfl, pullToVault_spares hpull⟩
  exact hpulled.trans (applyReceived_leaves h)

theorem refundExcess_leaves {caller : Msg} {dst : Address} {amount : Nat} {pool : Pool}
    (hne : a ≠ d.vault) (hself : c.pool.vault.self = d.vault)
    (h : c.pool.refundExcess caller id dst amount = .ok pool) :
    Leaves a c { c with pool := pool } := by
  refine ⟨rfl, ?_⟩
  exact VaultCall.exec_spares (c := .refundExcess id dst amount)
    (by rw [hself]; exact hne) h

/-! ### The recovery manager -/

theorem setScheduleOf_leaves (s : Schedule) : Leaves a c (c.setScheduleOf id s) := .of_eq rfl rfl

theorem cure_leaves (h : c.cure d reg m id = .ok c') : Leaves a c c' := by
  obtain ⟨debt, c₁, s, -, hc₁, rfl⟩ := cure_ok h
  have hstate : Leaves a c c₁ := by
    rcases hc₁ with ⟨-, hsync⟩ | ⟨-, htrans⟩
    · exact syncRepaid_leaves hsync
    · exact recoveryTransition_leaves htrans
  exact hstate.trans (setScheduleOf_leaves s)

theorem declareDefault_leaves (h : c.declareDefault d reg m id = .ok c') : Leaves a c c' := by
  unfold declareDefault at h
  obtain ⟨_, -, h⟩ := bind_eq_ok.mp h
  obtain ⟨_, -, h⟩ := bind_eq_ok.mp h
  obtain ⟨_, -, h⟩ := bind_eq_ok.mp h
  obtain ⟨c₁, htrans, h⟩ := bind_eq_ok.mp h
  obtain ⟨l, -, h⟩ := bind_eq_ok.mp h
  obtain rfl := pure_eq_ok.mp h
  have hmoved : Leaves a c c₁ := (setScheduleOf_leaves _).trans (recoveryTransition_leaves htrans)
  exact ⟨hmoved.router, hmoved.token⟩

/-- The recovery manager approves for itself only. -/
theorem approveRouter_leaves (ha : a ≠ d.recovery) (amount : Nat) :
    Leaves a c (c.approveRouter d amount) :=
  ⟨rfl, Token.approve_spares ha⟩

theorem applyReserveInternal_leaves (ha : a ≠ d.recovery) (h : c.applyReserveInternal d m id = .ok c') :
    Leaves a c c' := by
  obtain rfl | ⟨amount, s, r, c₁, hrepay, rfl⟩ := applyReserveInternal_ok h
  · exact .of_eq rfl rfl
  · have hstart : Leaves a c ((c.setScheduleOf id s).approveRouter d amount) :=
      (setScheduleOf_leaves s).trans (approveRouter_leaves ha amount)
    exact (hstart.trans (repayExact_leaves hrepay)).trans (approveRouter_leaves ha 0)

theorem recoveryWriteOff_leaves (ha : a ≠ d.recovery) {lossId : Bytes32}
    (h : c.recoveryWriteOff d reg m id lossId = .ok c') : Leaves a c c' := by
  unfold recoveryWriteOff at h
  obtain ⟨_, -, h⟩ := bind_eq_ok.mp h
  obtain ⟨_, -, h⟩ := bind_eq_ok.mp h
  obtain ⟨_, -, h⟩ := bind_eq_ok.mp h
  obtain ⟨c₁, hreserve, h⟩ := bind_eq_ok.mp h
  have hspared := applyReserveInternal_leaves ha hreserve
  obtain ⟨debt, -, h⟩ := bind_eq_ok.mp h
  split at h
  · exact hspared.trans (syncRepaid_leaves h)
  · obtain ⟨pool, hpool, h⟩ := bind_eq_ok.mp h
    have hmoved := recoveryTransition_leaves (a := a) h
    obtain ⟨-, -, -, lost, -, rfl⟩ := Pool.writeOff_ok hpool
    exact hspared.trans ⟨hmoved.router, hmoved.token⟩

/-! ### The settlement leg -/

/-- Recording: the receipt of a new settlement, covered by what the router got more of. -/
structure Records (d : Deployment) (sid : Bytes32) (got : Nat) (c c' : Credit) : Prop where
  fresh : (c.router.receipts sid).exists_ = false
  receipts : c'.router.receipts =
    Function.update c.router.receipts sid { total := got, allocated := 0, exists_ := true }
  cash : c'.pool.token.balanceOf d.router = c.pool.token.balanceOf d.router + got
  vault : c'.pool.token.balanceOf d.vault = c.pool.token.balanceOf d.vault
  approvals : (∀ spender, c.pool.token.allowance d.router spender = 0) →
    ∀ spender, c'.pool.token.allowance d.router spender = 0

/-- Allocating: `amount` of a receipt goes from the router to the vault. -/
structure Allocates (d : Deployment) (sid : Bytes32) (amount : Nat) (c c' : Credit) : Prop where
  known : (c.router.receipts sid).exists_ = true
  fits : (c.router.receipts sid).allocated + amount ≤ (c.router.receipts sid).total
  receipts : c'.router.receipts = Function.update c.router.receipts sid
    { c.router.receipts sid with allocated := (c.router.receipts sid).allocated + amount }
  cash : c'.pool.token.balanceOf d.router + amount = c.pool.token.balanceOf d.router
  vault : c'.pool.token.balanceOf d.vault = c.pool.token.balanceOf d.vault + amount
  approvals : c'.pool.token.allowance = c.pool.token.allowance

theorem recordReceipt_records {sid : Bytes32} {amount got : Nat} (hs : m.sender ∉ d.contracts)
    (h : c.recordReceipt d m sid amount = .ok (got, c')) :
    Records d sid got c c' ∧ c'.pool.vault = c.pool.vault := by
  unfold recordReceipt at h
  obtain ⟨_, -, h⟩ := bind_eq_ok.mp h
  obtain ⟨_, hnew, h⟩ := bind_eq_ok.mp h
  split at h
  · cases h
  · rename_i token htoken
    obtain ⟨received, hrec, h⟩ := bind_eq_ok.mp h
    obtain ⟨hle, rfl⟩ := subW_eq_ok.mp hrec
    obtain ⟨_, -, h⟩ := bind_eq_ok.mp h
    have hres := pure_eq_ok.mp h
    simp only [Prod.mk.injEq] at hres
    obtain ⟨rfl, rfl⟩ := hres
    have hvault : token.balanceOf d.vault = c.pool.token.balanceOf d.vault :=
      Token.transferFrom_other htoken (Deployment.outsider_ne_vault hs).symm d.router_ne.symm
    refine ⟨⟨by simpa using revertIf_eq_ok.mp hnew, rfl, ?_, hvault, fun hallow => ?_⟩, rfl⟩
    · show token.balanceOf d.router = _
      omega
    · exact (Token.transferFrom_spares htoken hallow).1

theorem allocateFromReceipt_allocates {sid : Bytes32} {amount : Nat} {r : RepayResult}
    (hself : c.pool.vault.self = d.vault)
    (h : c.allocateFromReceipt d m sid id amount = .ok (r, c')) :
    Allocates d sid amount c c' ∧ r.applied + r.excess = amount := by
  unfold allocateFromReceipt at h
  obtain ⟨_, hknown, h⟩ := bind_eq_ok.mp h
  obtain ⟨_, -, h⟩ := bind_eq_ok.mp h
  obtain ⟨allocated, hsum, h⟩ := bind_eq_ok.mp h
  obtain ⟨-, rfl⟩ := addW_eq_ok.mp hsum
  obtain ⟨_, hfits, h⟩ := bind_eq_ok.mp h
  obtain ⟨_, -, h⟩ := bind_eq_ok.mp h
  obtain ⟨⟨got, q⟩, hpush, h⟩ := bind_eq_ok.mp h
  unfold pushToVault at hpush
  split at hpush
  · cases hpush
  · rename_i token htoken
    obtain ⟨received, -, hpush⟩ := bind_eq_ok.mp hpush
    obtain ⟨_, hwhole, hpush⟩ := bind_eq_ok.mp hpush
    have hres := pure_eq_ok.mp hpush
    simp only [Prod.mk.injEq] at hres
    obtain ⟨rfl, rfl⟩ := hres
    obtain rfl : received = amount := Classical.not_not.mp (revertIf_eq_ok.mp hwhole)
    obtain ⟨hrouter, htok, hsplit⟩ := applyReceived_settles h
    rw [hself] at htoken
    obtain ⟨hfrom, hto, -⟩ := Token.move_of_ne htoken d.router_ne
    have hallow := (Token.move_balance htoken).2.2
    refine ⟨⟨by simpa using revertIf_eq_ok.mp hknown,
      Nat.le_of_not_lt (revertIf_eq_ok.mp hfits), ?_, ?_, ?_, ?_⟩, hsplit⟩
    · rw [hrouter]
    · rw [htok]
      exact hfrom
    · rw [htok]
      exact hto
    · rw [htok]
      exact hallow

end Credit

open Credit

/-- The settlement a call records. -/
def CreditCall.records : CreditCall → Option Bytes32
  | .router (.recordDestinationReceipt settlementId _) => some settlementId
  | .router (.receiveSettlement _ settlementId _) => some settlementId
  | _ => none

/-- The settlement a call allocates from, and the split it returns. -/
def CreditCall.allocation (d : Deployment) (m : Msg) (c : Credit) :
    CreditCall → Option (Bytes32 × RepayResult)
  | .router (.allocate settlementId id amount) =>
    (c.allocateSettlement d m settlementId id amount).toOption.map fun res =>
      (settlementId, res.1)
  | .router (.receiveSettlement id settlementId amount) =>
    (c.receiveSettlement d m id settlementId amount).toOption.map fun res =>
      (settlementId, res.1)
  | _ => none

/-- What a transaction does to the receipts and to the cash behind them. -/
inductive SettlementEffect (d : Deployment) (m : Msg) (c c' : Credit) : CreditCall → Prop
  | spared {call : CreditCall} : call.records = none → call.allocation d m c = none →
      Spares d c c' → SettlementEffect d m c c' call
  | recorded {sid : Bytes32} {amount got : Nat} : Records d sid got c c' →
      SettlementEffect d m c c' (.router (.recordDestinationReceipt sid amount))
  | allocated {sid : Bytes32} {id : FacilityId} {amount : Nat} {r : RepayResult} :
      Allocates d sid amount c c' → r.applied + r.excess = amount →
      (CreditCall.router (.allocate sid id amount)).allocation d m c = some (sid, r) →
      SettlementEffect d m c c' (.router (.allocate sid id amount))
  | received {sid : Bytes32} {id : FacilityId} {amount got : Nat} {r : RepayResult} {c₁ : Credit} :
      Records d sid got c c₁ → Allocates d sid got c₁ c' → r.applied + r.excess = got →
      (CreditCall.router (.receiveSettlement id sid amount)).allocation d m c = some (sid, r) →
      SettlementEffect d m c c' (.router (.receiveSettlement id sid amount))

section
variable {d : Deployment} {reg : Registries} {m : Msg} {c c' : Credit} {a : Address}
  (hw : c.Wired d)
include hw

omit hw in
theorem ExposureCall.exec_leaves {call : ExposureCall} (h : call.exec d reg m c = .ok c') :
    Leaves a c c' := by
  cases call with
  | setManager manager enabled =>
    simp only [ExposureCall.exec, Credit.exposureSetManager] at h
    obtain ⟨_, -, h⟩ := bind_eq_ok.mp h
    obtain ⟨_, -, h⟩ := bind_eq_ok.mp h
    obtain ⟨_, -, h⟩ := bind_eq_ok.mp h
    obtain rfl := pure_eq_ok.mp h
    exact .of_eq (by rfl) (by rfl)
  | finalizeWiring =>
    simp only [ExposureCall.exec, Credit.exposureFinalizeWiring] at h
    obtain ⟨_, -, h⟩ := bind_eq_ok.mp h
    obtain ⟨_, -, h⟩ := bind_eq_ok.mp h
    obtain rfl := pure_eq_ok.mp h
    exact .of_eq (by rfl) (by rfl)
  | enrollFacility id groupId =>
    simp only [ExposureCall.exec, Credit.enrollFacility] at h
    obtain ⟨_, -, h⟩ := bind_eq_ok.mp h
    obtain ⟨_, -, h⟩ := bind_eq_ok.mp h
    obtain ⟨_, -, h⟩ := bind_eq_ok.mp h
    obtain ⟨_, -, h⟩ := bind_eq_ok.mp h
    obtain ⟨_, -, h⟩ := bind_eq_ok.mp h
    obtain rfl := pure_eq_ok.mp h
    exact .of_eq (by rfl) (by rfl)
  | setAuthorization id limit policy agreement version validUntil =>
    simp only [ExposureCall.exec, Credit.setAuthorization] at h
    obtain ⟨_, -, h⟩ := bind_eq_ok.mp h
    obtain ⟨_, -, h⟩ := bind_eq_ok.mp h
    obtain ⟨_, -, h⟩ := bind_eq_ok.mp h
    obtain ⟨_, -, h⟩ := bind_eq_ok.mp h
    obtain ⟨_, -, h⟩ := bind_eq_ok.mp h
    obtain ⟨epoch, -, h⟩ := bind_eq_ok.mp h
    obtain rfl := pure_eq_ok.mp h
    exact .of_eq (by rfl) (by rfl)
  | reserve id amount approvalNonce expiresAt =>
    obtain ⟨⟨rid, q⟩, hc, rfl⟩ := map_eq_ok.mp h
    exact reserve_leaves hc
  | consumeReservation rid => exact consumeReservation_leaves h
  | cancelReservation rid =>
    simp only [ExposureCall.exec, Credit.cancelReservation] at h
    obtain ⟨_, -, h⟩ := bind_eq_ok.mp h
    exact releaseReservation_leaves h
  | expireReservation rid =>
    simp only [ExposureCall.exec, Credit.expireReservation] at h
    obtain ⟨_, -, h⟩ := bind_eq_ok.mp h
    exact releaseReservation_leaves h

theorem ManagerCall.exec_leaves (hne : a ≠ d.vault) {call : ManagerCall} (h : call.exec d reg m c = .ok c') :
    Leaves a c c' := by
  have hself := hw.pool.self
  cases call with
  | openFacility id borrowerId wallet terms controlAgreementId controlVersion =>
    exact openFacility_leaves h
  | transition id target => exact setFacilityState_leaves (transition_ok h).2.2
  | freezeDraws id =>
    simp only [ManagerCall.exec, Credit.freezeDraws] at h
    obtain ⟨_, -, h⟩ := bind_eq_ok.mp h
    obtain ⟨_, -, h⟩ := bind_eq_ok.mp h
    obtain ⟨_, -, h⟩ := bind_eq_ok.mp h
    exact setFacilityState_leaves h
  | pauseDraws paused =>
    simp only [ManagerCall.exec, Credit.pauseDraws] at h
    obtain ⟨_, -, h⟩ := bind_eq_ok.mp h
    obtain ⟨_, -, h⟩ := bind_eq_ok.mp h
    obtain rfl := pure_eq_ok.mp h
    exact .of_eq (by rfl) (by rfl)
  | approveDrawResume =>
    simp only [ManagerCall.exec, Credit.approveDrawResume] at h
    obtain ⟨_, -, h⟩ := bind_eq_ok.mp h
    obtain rfl := pure_eq_ok.mp h
    exact .of_eq (by rfl) (by rfl)
  | bindRecoveryManager manager =>
    simp only [ManagerCall.exec, Credit.managerBindRecovery] at h
    obtain ⟨_, -, h⟩ := bind_eq_ok.mp h
    obtain ⟨_, -, h⟩ := bind_eq_ok.mp h
    obtain ⟨_, -, h⟩ := bind_eq_ok.mp h
    obtain rfl := pure_eq_ok.mp h
    exact .of_eq (by rfl) (by rfl)
  | syncRepaid id => exact syncRepaid_leaves h
  | recoveryTransition id target => exact recoveryTransition_leaves h
  | anchorAuthorization auth approval =>
    simp only [ManagerCall.exec, Credit.anchorAuthorization] at h
    obtain ⟨_, -, h⟩ := bind_eq_ok.mp h
    obtain ⟨_, -, h⟩ := bind_eq_ok.mp h
    obtain ⟨_, -, h⟩ := bind_eq_ok.mp h
    obtain ⟨verifier, -, h⟩ := bind_eq_ok.mp h
    obtain ⟨_, -, h⟩ := bind_eq_ok.mp h
    obtain ⟨_, -, h⟩ := bind_eq_ok.mp h
    obtain ⟨_, -, h⟩ := bind_eq_ok.mp h
    obtain ⟨_, -, h⟩ := bind_eq_ok.mp h
    obtain ⟨epoch, -, h⟩ := bind_eq_ok.mp h
    obtain rfl := pure_eq_ok.mp h
    exact .of_eq (by rfl) (by rfl)
  | borrow id amount minReceived =>
    simp only [ManagerCall.exec, Credit.borrow] at h
    obtain ⟨expiresAt, -, h⟩ := bind_eq_ok.mp h
    obtain ⟨⟨rid, c₁⟩, hres, h⟩ := bind_eq_ok.mp h
    have hreserved : Internal d m.now ⟨∅, ∅⟩ c c₁ ∧ c₁.pool = c.pool :=
      reserveInternal_ok hw.paired hres
    have hpool := hreserved.2
    have hself₁ : c₁.pool.vault.self = d.vault := by
      rw [hpool]
      exact hself
    exact (reserveInternal_leaves hres).trans (executeInternal_leaves hne hself₁ h)
  | reserveDraw id amount ttl =>
    obtain ⟨⟨rid, q⟩, hc, rfl⟩ := map_eq_ok.mp h
    unfold Credit.reserveDraw at hc
    obtain ⟨_, -, hc⟩ := bind_eq_ok.mp hc
    obtain ⟨expiresAt, -, hc⟩ := bind_eq_ok.mp hc
    exact reserveInternal_leaves hc
  | executeReservedDraw rid minReceived => exact executeInternal_leaves hne hself h
  | repayFor id amount =>
    obtain ⟨⟨r, q⟩, hc, rfl⟩ := map_eq_ok.mp h
    exact managerRepayFor_leaves hc
  | claimRefund id =>
    simp only [ManagerCall.exec, Credit.claimRefund] at h
    obtain ⟨_, -, h⟩ := bind_eq_ok.mp h
    obtain ⟨_, -, h⟩ := bind_eq_ok.mp h
    obtain ⟨_, -, h⟩ := bind_eq_ok.mp h
    obtain ⟨pool, hpool, h⟩ := bind_eq_ok.mp h
    obtain rfl := pure_eq_ok.mp h
    exact refundExcess_leaves hne hself hpool

theorem RouterCall.exec_settlement (hs : m.sender ∉ d.contracts) {call : RouterCall}
    (h : call.exec d m c = .ok c') : SettlementEffect d m c c' (.router call) := by
  have hself := hw.pool.self
  cases call with
  | repayFor id amount =>
    obtain ⟨⟨r, q⟩, hc, rfl⟩ := map_eq_ok.mp h
    exact .spared rfl rfl (routerRepayFor_leaves hc).spares
  | repayExact id maxAmount =>
    obtain ⟨⟨r, q⟩, hc, rfl⟩ := map_eq_ok.mp h
    exact .spared rfl rfl (repayExact_leaves hc).spares
  | recordDestinationReceipt sid amount =>
    simp only [RouterCall.exec, Credit.recordDestinationReceipt] at h
    obtain ⟨_, -, h⟩ := bind_eq_ok.mp h
    obtain ⟨⟨got, q⟩, hc, h⟩ := bind_eq_ok.mp h
    obtain rfl := pure_eq_ok.mp h
    exact .recorded (recordReceipt_records hs hc).1
  | allocate sid id amount =>
    obtain ⟨⟨r, q⟩, hc, rfl⟩ := map_eq_ok.mp h
    have hres : (CreditCall.router (.allocate sid id amount)).allocation d m c = some (sid, r) := by
      simp only [CreditCall.allocation, hc, Except.toOption, Option.map_some]
    unfold Credit.allocateSettlement at hc
    obtain ⟨_, -, hc⟩ := bind_eq_ok.mp hc
    obtain ⟨halloc, hsplit⟩ := allocateFromReceipt_allocates hself hc
    exact .allocated halloc hsplit hres
  | receiveSettlement id sid amount =>
    obtain ⟨⟨r, q⟩, hc, rfl⟩ := map_eq_ok.mp h
    have hres : (CreditCall.router (.receiveSettlement id sid amount)).allocation d m c =
        some (sid, r) := by
      simp only [CreditCall.allocation, hc, Except.toOption, Option.map_some]
    unfold Credit.receiveSettlement at hc
    obtain ⟨_, -, hc⟩ := bind_eq_ok.mp hc
    obtain ⟨⟨got, c₁⟩, hrec, hc⟩ := bind_eq_ok.mp hc
    obtain ⟨hrecords, hvault⟩ := recordReceipt_records hs hrec
    have hself₁ : c₁.pool.vault.self = d.vault := by
      rw [hvault]
      exact hself
    obtain ⟨halloc, hsplit⟩ := allocateFromReceipt_allocates hself₁ hc
    exact .received hrecords halloc hsplit hres
  | refundExcess id dst =>
    simp only [RouterCall.exec, Credit.routerRefundExcess] at h
    obtain ⟨_, -, h⟩ := bind_eq_ok.mp h
    obtain ⟨_, -, h⟩ := bind_eq_ok.mp h
    obtain ⟨_, -, h⟩ := bind_eq_ok.mp h
    obtain ⟨_, -, h⟩ := bind_eq_ok.mp h
    obtain ⟨pool, hpool, h⟩ := bind_eq_ok.mp h
    obtain rfl := pure_eq_ok.mp h
    exact .spared rfl rfl (refundExcess_leaves d.router_ne hself hpool).spares

omit hw in
theorem RecoveryCall.exec_leaves (ha : a ≠ d.recovery) {call : RecoveryCall} (h : call.exec d reg m c = .ok c') :
    Leaves a c c' := by
  cases call with
  | setSchedule id dueAt grace disputeWindow dueAmount =>
    simp only [RecoveryCall.exec, Credit.setSchedule] at h
    obtain ⟨_, -, h⟩ := bind_eq_ok.mp h
    obtain ⟨state, -, h⟩ := bind_eq_ok.mp h
    obtain ⟨_, -, h⟩ := bind_eq_ok.mp h
    obtain ⟨_, -, h⟩ := bind_eq_ok.mp h
    obtain ⟨_, -, h⟩ := bind_eq_ok.mp h
    obtain ⟨disputeUntil, -, h⟩ := bind_eq_ok.mp h
    obtain rfl := pure_eq_ok.mp h
    exact setScheduleOf_leaves _
  | observeAllocation id amount =>
    obtain ⟨recovery, rfl⟩ := (observeAllocation_ok h).2
    exact .of_eq (by rfl) (by rfl)
  | markDelinquent id =>
    simp only [RecoveryCall.exec, Credit.markDelinquent] at h
    obtain ⟨_, -, h⟩ := bind_eq_ok.mp h
    obtain ⟨paid, -, h⟩ := bind_eq_ok.mp h
    obtain ⟨_, -, h⟩ := bind_eq_ok.mp h
    exact recoveryTransition_leaves h
  | cure id => exact cure_leaves h
  | setDispute id disputed =>
    simp only [RecoveryCall.exec, Credit.setDispute] at h
    obtain ⟨_, -, h⟩ := bind_eq_ok.mp h
    obtain ⟨_, -, h⟩ := bind_eq_ok.mp h
    obtain rfl := pure_eq_ok.mp h
    exact setScheduleOf_leaves _
  | approveDefault id reason =>
    simp only [RecoveryCall.exec, Credit.approveDefault] at h
    obtain ⟨_, -, h⟩ := bind_eq_ok.mp h
    obtain ⟨_, -, h⟩ := bind_eq_ok.mp h
    obtain ⟨_, -, h⟩ := bind_eq_ok.mp h
    obtain rfl := pure_eq_ok.mp h
    exact setScheduleOf_leaves _
  | declareDefault id => exact declareDefault_leaves h
  | beginRecovery id =>
    simp only [RecoveryCall.exec, Credit.beginRecovery] at h
    obtain ⟨_, -, h⟩ := bind_eq_ok.mp h
    exact recoveryTransition_leaves h
  | fundReserve id amount =>
    simp only [RecoveryCall.exec, Credit.fundReserve] at h
    obtain ⟨_, -, h⟩ := bind_eq_ok.mp h
    obtain ⟨_, -, h⟩ := bind_eq_ok.mp h
    split at h
    · cases h
    · rename_i token htoken
      obtain ⟨got, -, h⟩ := bind_eq_ok.mp h
      obtain ⟨_, -, h⟩ := bind_eq_ok.mp h
      obtain ⟨pledged, -, h⟩ := bind_eq_ok.mp h
      obtain rfl := pure_eq_ok.mp h
      exact ⟨rfl, Token.transferFrom_spares htoken⟩
  | applyReserve id =>
    simp only [RecoveryCall.exec, Credit.applyReserve] at h
    obtain ⟨_, -, h⟩ := bind_eq_ok.mp h
    exact applyReserveInternal_leaves ha h
  | returnReserve id =>
    simp only [RecoveryCall.exec, Credit.returnReserve] at h
    obtain ⟨_, -, h⟩ := bind_eq_ok.mp h
    obtain ⟨debt, -, h⟩ := bind_eq_ok.mp h
    obtain ⟨_, -, h⟩ := bind_eq_ok.mp h
    split at h
    · cases h
    · rename_i token htoken
      obtain rfl := pure_eq_ok.mp h
      exact ⟨rfl, Token.move_spares htoken ha⟩
  | impair id lossId amount =>
    simp only [RecoveryCall.exec, Credit.impair] at h
    obtain ⟨_, -, h⟩ := bind_eq_ok.mp h
    obtain ⟨_, -, h⟩ := bind_eq_ok.mp h
    obtain ⟨pool, hpool, h⟩ := bind_eq_ok.mp h
    obtain rfl := pure_eq_ok.mp h
    obtain ⟨-, -, rfl⟩ := Pool.recognizeImpairment_ok hpool
    exact .of_eq (by rfl) (by rfl)
  | reverseImpairment id amount =>
    simp only [RecoveryCall.exec, Credit.recoveryReverseImpairment] at h
    obtain ⟨_, -, h⟩ := bind_eq_ok.mp h
    obtain ⟨pool, hpool, h⟩ := bind_eq_ok.mp h
    obtain rfl := pure_eq_ok.mp h
    obtain ⟨-, -, rfl⟩ := Pool.reverseImpairment_ok hpool
    exact .of_eq (by rfl) (by rfl)
  | approveWriteOff id lossId =>
    simp only [RecoveryCall.exec, Credit.approveWriteOff] at h
    obtain ⟨_, -, h⟩ := bind_eq_ok.mp h
    obtain ⟨_, -, h⟩ := bind_eq_ok.mp h
    obtain ⟨state, -, h⟩ := bind_eq_ok.mp h
    obtain ⟨_, -, h⟩ := bind_eq_ok.mp h
    obtain rfl := pure_eq_ok.mp h
    exact setScheduleOf_leaves _
  | writeOff id lossId => exact recoveryWriteOff_leaves ha h

/-- Every transaction by an outsider, as the receipts see it. -/
theorem CreditCall.exec_settlement (hs : m.sender ∉ d.contracts) {call : CreditCall}
    (h : call.exec d reg m c = .ok c') : SettlementEffect d m c c' call := by
  cases call with
  | vault call =>
    obtain ⟨p, hp, rfl⟩ := map_eq_ok.mp h
    have hne : d.router ≠ c.pool.vault.self := by
      rw [hw.pool.self]
      exact d.router_ne
    exact .spared rfl rfl ⟨rfl, VaultCall.exec_spares hne hp⟩
  | ledger call =>
    obtain ⟨l, -, rfl⟩ := map_eq_ok.mp h
    exact .spared rfl rfl (Leaves.of_eq (by rfl) (by rfl)).spares
  | token call =>
    obtain ⟨t, ht, rfl⟩ := map_eq_ok.mp h
    have hne : d.router ≠ m.sender := by
      rintro heq
      exact hs (by simp [Deployment.contracts, ← heq])
    exact .spared rfl rfl ⟨rfl, TokenCall.exec_spares hne ht⟩
  | exposure call => exact .spared rfl rfl (ExposureCall.exec_leaves h).spares
  | manager call => exact .spared rfl rfl (ManagerCall.exec_leaves hw d.router_ne h).spares
  | router call => exact RouterCall.exec_settlement hw hs h
  | recovery call => exact .spared rfl rfl (RecoveryCall.exec_leaves d.router_ne_recovery h).spares

end

/-! ### The invariant of the receipts -/

/-- What is left of a receipt to allocate. -/
def Receipt.remaining (r : Receipt) : Nat := r.total - r.allocated

namespace Credit

/-- The router covers its receipts: nobody may spend its cash, no receipt is allocated beyond its
total, and what is left of all of them is there. -/
structure Covered (d : Deployment) (c : Credit) : Prop where
  unapproved : ∀ spender, c.pool.token.allowance d.router spender = 0
  bounded : ∀ sid, (c.router.receipts sid).allocated ≤ (c.router.receipts sid).total
  unknown : ∀ sid, (c.router.receipts sid).exists_ = false → (c.router.receipts sid).total = 0
  covered : ∑ sid, (c.router.receipts sid).remaining ≤ c.pool.token.balanceOf d.router

/-- No receipt is lost or made smaller. -/
structure Extends (c c' : Credit) : Prop where
  exists_ : ∀ sid, (c.router.receipts sid).exists_ = true → (c'.router.receipts sid).exists_ = true
  total : ∀ sid, (c.router.receipts sid).total ≤ (c'.router.receipts sid).total
  allocated : ∀ sid, (c.router.receipts sid).allocated ≤ (c'.router.receipts sid).allocated

variable {d : Deployment} {c c' c'' : Credit} {sid : Bytes32} {amount : Nat}

theorem Extends.refl (c : Credit) : Extends c c :=
  ⟨fun _ h => h, fun _ => Nat.le_refl _, fun _ => Nat.le_refl _⟩

theorem Extends.trans (h : Extends c c') (h' : Extends c' c'') : Extends c c'' :=
  ⟨fun i hi => h'.exists_ i (h.exists_ i hi), fun i => (h.total i).trans (h'.total i),
    fun i => (h.allocated i).trans (h'.allocated i)⟩

/-- A receipt that was written over by a larger one. -/
theorem Extends.write {r : Receipt}
    (hrec : c'.router.receipts = Function.update c.router.receipts sid r) (hex : r.exists_ = true)
    (htotal : (c.router.receipts sid).total ≤ r.total)
    (halloc : (c.router.receipts sid).allocated ≤ r.allocated) : Extends c c' := by
  have hother : ∀ i, i ≠ sid → c'.router.receipts i = c.router.receipts i := by
    intro i hi
    rw [hrec, Function.update_of_ne hi]
  have hself : c'.router.receipts sid = r := by
    rw [hrec, Function.update_self]
  refine ⟨fun i hi => ?_, fun i => ?_, fun i => ?_⟩
  · by_cases h : i = sid
    · rw [h, hself]
      exact hex
    · rw [hother i h]
      exact hi
  · by_cases h : i = sid
    · rw [h, hself]
      exact htotal
    · rw [hother i h]
  · by_cases h : i = sid
    · rw [h, hself]
      exact halloc
    · rw [hother i h]

section
variable (hc : c.Covered d)
include hc

theorem Covered.spared (h : Spares d c c') : c'.Covered d ∧ Extends c c' := by
  obtain ⟨hallow, hle⟩ := h.token hc.unapproved
  have hsame : c'.router.receipts = c.router.receipts := by rw [h.router]
  refine ⟨⟨hallow, ?_, ?_, ?_⟩, ?_⟩
  · rw [hsame]
    exact hc.bounded
  · rw [hsame]
    exact hc.unknown
  · rw [hsame]
    exact hc.covered.trans hle
  · refine ⟨fun i hi => ?_, fun i => ?_, fun i => ?_⟩
    · rw [hsame]
      exact hi
    · rw [hsame]
    · rw [hsame]

/-- A new receipt is covered by what came in with it. -/
theorem Covered.recorded {got : Nat} (h : Records d sid got c c') :
    c'.Covered d ∧ Extends c c' := by
  have hzero := hc.unknown sid h.fresh
  have hbound := hc.bounded sid
  refine ⟨⟨h.approvals hc.unapproved, fun i => ?_, fun i hi => ?_, ?_⟩, ?_⟩
  · rw [h.receipts]
    by_cases hi : i = sid
    · subst hi
      simp
    · rw [Function.update_of_ne hi]
      exact hc.bounded i
  · rw [h.receipts] at hi ⊢
    by_cases hsid : i = sid
    · subst hsid
      simp at hi
    · rw [Function.update_of_ne hsid] at hi ⊢
      exact hc.unknown i hi
  · have hsum := Total.sum_univ_add_eq (f := fun i => (c.router.receipts i).remaining)
      (g := fun i => (c'.router.receipts i).remaining) sid
      (fun i hi => by rw [h.receipts, Function.update_of_ne hi])
    have hnew : (c'.router.receipts sid).remaining = got := by
      rw [h.receipts, Function.update_self]
      rfl
    have hcov := hc.covered
    have hcash := h.cash
    simp only [hnew] at hsum
    omega
  · refine .write h.receipts rfl ?_ ?_
    · rw [hzero]
      exact Nat.zero_le _
    · omega

/-- What is allocated leaves the router and the receipt together. -/
theorem Covered.allocated (h : Allocates d sid amount c c') : c'.Covered d ∧ Extends c c' := by
  have hfits := h.fits
  refine ⟨⟨?_, fun i => ?_, fun i hi => ?_, ?_⟩, ?_⟩
  · rw [h.approvals]
    exact hc.unapproved
  · rw [h.receipts]
    by_cases hi : i = sid
    · subst hi
      simpa using hfits
    · rw [Function.update_of_ne hi]
      exact hc.bounded i
  · rw [h.receipts] at hi ⊢
    by_cases hsid : i = sid
    · subst hsid
      simp [h.known] at hi
    · rw [Function.update_of_ne hsid] at hi ⊢
      exact hc.unknown i hi
  · have hsum := Total.sum_univ_add_eq (f := fun i => (c.router.receipts i).remaining)
      (g := fun i => (c'.router.receipts i).remaining) sid
      (fun i hi => by rw [h.receipts, Function.update_of_ne hi])
    have hleft : (c'.router.receipts sid).remaining + amount =
        (c.router.receipts sid).remaining := by
      rw [h.receipts, Function.update_self]
      unfold Receipt.remaining
      dsimp only
      omega
    have hcov := hc.covered
    have hcash := h.cash
    omega
  · refine .write h.receipts h.known (Nat.le_refl _) ?_
    exact Nat.le_add_right _ _

end

/-- Every transaction keeps the receipts covered and extends them. -/
theorem Covered.effect (hc : c.Covered d) {m : Msg} {call : CreditCall}
    (h : SettlementEffect d m c c' call) : c'.Covered d ∧ Extends c c' := by
  cases h with
  | spared _ _ hspared => exact hc.spared hspared
  | recorded hrec => exact hc.recorded hrec
  | allocated halloc _ _ => exact hc.allocated halloc
  | received hrec halloc _ _ =>
    obtain ⟨hc₁, hext⟩ := hc.recorded hrec
    obtain ⟨hc₂, hext'⟩ := hc₁.allocated halloc
    exact ⟨hc₂, hext.trans hext'⟩

end Credit

/-- A settlement that a transaction records was unknown before and is known after it. -/
theorem SettlementEffect.records_fresh {d : Deployment} {m : Msg} {c c' : Credit} {sid : Bytes32}
    {call : CreditCall}
    (h : SettlementEffect d m c c' call) (hrec : call.records = some sid) :
    (c.router.receipts sid).exists_ = false ∧ (c'.router.receipts sid).exists_ = true := by
  cases h with
  | spared hnone _ _ =>
    rw [hnone] at hrec
    cases hrec
  | recorded hr =>
    cases hrec
    refine ⟨hr.fresh, ?_⟩
    rw [hr.receipts, Function.update_self]
  | allocated _ _ _ => cases hrec
  | received hr ha _ _ =>
    cases hrec
    refine ⟨hr.fresh, ?_⟩
    rw [ha.receipts, Function.update_self]
    exact ha.known

/-- The transaction as a function. -/
def CreditState.next (d : Deployment) (s : CreditState) (tx : Tx) : Option CreditState :=
  (tx.call.exec d tx.reg tx.msg s.credit).toOption.map fun c =>
    { now := tx.msg.now, credit := c }

/-- The cash that a transaction moves into the vault for a settlement. -/
def movedFor (d : Deployment) (sid : Bytes32) (s : CreditState) (tx : Tx) (s' : CreditState) :
    Nat :=
  match tx.call.allocation d tx.msg s.credit with
  | none => 0
  | some (settlementId, _) =>
    if settlementId = sid then
      s'.credit.pool.token.balanceOf d.vault - s.credit.pool.token.balanceOf d.vault
    else 0

/-- What a transaction reports as applied to a debt or as excess, out of a settlement. -/
def reportedFor (d : Deployment) (sid : Bytes32) (s : CreditState) (tx : Tx) (_ : CreditState) :
    Nat :=
  match tx.call.allocation d tx.msg s.credit with
  | none => 0
  | some (settlementId, r) => if settlementId = sid then r.applied + r.excess else 0

section
variable {d : Deployment} {s₀ s s' : CreditState} {tx : Tx} {txs : List Tx}

theorem CreditStep.next_eq (h : CreditStep d s tx s') : s.next d tx = some s' := by
  obtain ⟨-, -, hexec, htime⟩ := h
  unfold CreditState.next
  rw [hexec, ← htime]
  rfl

theorem CreditStep.settlement (hi : s.Inv d) (h : CreditStep d s tx s') :
    SettlementEffect d tx.msg s.credit s'.credit tx.call :=
  CreditCall.exec_settlement hi.wired h.2.1 h.2.2.1

/-- An allocation raises the allocated amount of its receipt by what the vault gets, which is what
the split adds up to, and no other. -/
theorem Credit.Allocates.rises {c c' : Credit} {sid : Bytes32} {amount : Nat}
    (h : Allocates d sid amount c c') (i : Bytes32) :
    (c'.router.receipts i).allocated =
      (c.router.receipts i).allocated + if sid = i then amount else 0 := by
  rw [h.receipts]
  by_cases hi : sid = i
  · subst hi
    simp
  · rw [Function.update_of_ne (Ne.symm hi), if_neg hi]
    rfl

theorem Credit.Records.allocated_eq {c c' : Credit} {sid : Bytes32} {got : Nat}
    (hc : c.Covered d) (h : Records d sid got c c') (i : Bytes32) :
    (c'.router.receipts i).allocated = (c.router.receipts i).allocated := by
  rw [h.receipts]
  by_cases hi : i = sid
  · subst hi
    have hzero := hc.unknown i h.fresh
    have hbound := hc.bounded i
    rw [Function.update_self]
    show 0 = _
    omega
  · rw [Function.update_of_ne hi]

/-- What is allocated of a receipt rises by what the transaction moves into the vault for it, and
that is what the transaction reports. -/
theorem SettlementEffect.rises (hc : s.credit.Covered d)
    (h : SettlementEffect d tx.msg s.credit s'.credit tx.call) (sid : Bytes32) :
    (s'.credit.router.receipts sid).allocated =
      (s.credit.router.receipts sid).allocated + movedFor d sid s tx s' ∧
    reportedFor d sid s tx s' = movedFor d sid s tx s' := by
  unfold movedFor reportedFor
  generalize tx.call = call at h
  cases h with
  | spared _ hnone hspared =>
    rw [hnone, hspared.router]
    exact ⟨rfl, rfl⟩
  | recorded hrec =>
    refine ⟨?_, rfl⟩
    exact hrec.allocated_eq hc sid
  | allocated halloc hsplit hres =>
    have hvault := halloc.vault
    rw [hres, halloc.rises sid]
    dsimp only
    split
    · exact ⟨by omega, by omega⟩
    · exact ⟨rfl, rfl⟩
  | received hrec halloc hsplit hres =>
    have hvault := halloc.vault
    have hvault₁ := hrec.vault
    rw [hres, halloc.rises sid, hrec.allocated_eq hc sid]
    dsimp only
    split
    · exact ⟨by omega, by omega⟩
    · exact ⟨rfl, rfl⟩

/-- The invariant of the runs: that of the protocol, and covered receipts. -/
structure CreditState.Settled (d : Deployment) (s : CreditState) : Prop where
  inv : s.Inv d
  covered : s.credit.Covered d

theorem CreditState.Initial.settled (h : s.Initial d)
    (hrouter : ∀ spender, s.credit.pool.token.allowance d.router spender = 0) : s.Settled d := by
  refine ⟨h.inv, ?_⟩
  obtain ⟨token, -, hs⟩ := h
  rw [hs] at hrouter ⊢
  refine ⟨hrouter, fun _ => Nat.le_refl _, fun _ _ => rfl, ?_⟩
  show ∑ _ : Bytes32, 0 ≤ _
  rw [sum_const_zero]
  exact Nat.zero_le _

theorem CreditStep.settled (hi : s.Settled d) (h : CreditStep d s tx s') :
    s'.Settled d ∧ Extends s.credit s'.credit := by
  obtain ⟨hcov, hext⟩ := hi.covered.effect (h.settlement hi.inv)
  exact ⟨⟨h.inv hi.inv, hcov⟩, hext⟩

/-- The settlements of a run are recorded once each: a recorded one stays known. -/
theorem CreditState.Settled.recorded_once (h₀ : s₀.Settled d)
    (hrun : Steps (CreditStep d) s₀ txs s) :
    (txs.filterMap fun tx => tx.call.records).Nodup ∧ s.Settled d ∧
      ∀ sid ∈ txs.filterMap fun tx => tx.call.records,
        (s.credit.router.receipts sid).exists_ = true := by
  refine Steps.history (P := fun txs s => (txs.filterMap fun tx => tx.call.records).Nodup ∧
    s.Settled d ∧ ∀ sid ∈ txs.filterMap fun tx => tx.call.records,
      (s.credit.router.receipts sid).exists_ = true) ⟨.nil, h₀, by simp⟩ ?_ hrun
  intro pre s tx s' _ ⟨hnodup, hi, hknown⟩ hstep
  obtain ⟨hi', hext⟩ := hstep.settled hi
  have hkept : ∀ sid ∈ pre.filterMap fun tx => tx.call.records,
      (s'.credit.router.receipts sid).exists_ = true :=
    fun sid hsid => hext.exists_ sid (hknown sid hsid)
  cases hrec : tx.call.records with
  | none =>
    simp only [List.filterMap_append, List.filterMap_cons, List.filterMap_nil, hrec,
      List.append_nil]
    exact ⟨hnodup, hi', hkept⟩
  | some sid =>
    obtain ⟨hfresh, hnow⟩ := (hstep.settlement hi.inv).records_fresh hrec
    simp only [List.filterMap_append, List.filterMap_cons, List.filterMap_nil, hrec]
    refine ⟨?_, hi', fun i hmem => ?_⟩
    · refine List.Nodup.append hnodup (List.nodup_singleton sid) ?_
      intro i hpre hsid
      rw [List.mem_singleton] at hsid
      subst hsid
      have := hknown i hpre
      rw [hfresh] at this
      cases this
    · rw [List.mem_append, List.mem_singleton] at hmem
      rcases hmem with hpre | rfl
      · exact hkept i hpre
      · exact hnow

/-- Settlement receipts are conserved in every run of the protocol, whoever calls and whatever is
transferred in. No settlement is recorded twice. No receipt is allocated beyond its total, and in
no continuation of the run does its total or its allocated amount fall. The router holds what is
not allocated of all receipts together. And what the vault was paid for a settlement is what is
allocated of it, which is what the calls reported as applied and as excess. -/
theorem receipts_conserved (h₀ : s₀.Initial d)
    (hrouter : ∀ spender, s₀.credit.pool.token.allowance d.router spender = 0)
    (hrun : Steps (CreditStep d) s₀ txs s) :
    (txs.filterMap fun tx => tx.call.records).Nodup ∧
    (∀ sid, (s.credit.router.receipts sid).allocated ≤ (s.credit.router.receipts sid).total) ∧
    (∀ more s', Steps (CreditStep d) s more s' → ∀ sid,
      (s.credit.router.receipts sid).total ≤ (s'.credit.router.receipts sid).total ∧
      (s.credit.router.receipts sid).allocated ≤ (s'.credit.router.receipts sid).allocated) ∧
    ∑ sid, ((s.credit.router.receipts sid).total - (s.credit.router.receipts sid).allocated) ≤
      s.credit.pool.token.balanceOf d.router ∧
    ∀ sid, tally (CreditState.next d) (movedFor d sid) s₀ txs =
        (s.credit.router.receipts sid).allocated ∧
      tally (CreditState.next d) (reportedFor d sid) s₀ txs =
        (s.credit.router.receipts sid).allocated := by
  have hi₀ := h₀.settled hrouter
  obtain ⟨hnodup, hi, -⟩ := hi₀.recorded_once hrun
  have hzero : ∀ sid, (s₀.credit.router.receipts sid).allocated = 0 := by
    obtain ⟨token, -, hs⟩ := h₀
    intro sid
    rw [hs]
    rfl
  refine ⟨hnodup, hi.covered.bounded, fun more s' hmore sid => ?_, hi.covered.covered,
    fun sid => ⟨?_, ?_⟩⟩
  · have hext : Extends s.credit s'.credit :=
      Steps.related (P := fun s => s.Settled d) (R := fun s s' => Extends s.credit s'.credit)
        (fun _ _ _ hp hstep => (hstep.settled hp).1) (fun s => .refl s.credit)
        (fun {s t u} (h : Extends s.credit t.credit) (h' : Extends t.credit u.credit) => h.trans h')
        (fun _ _ _ hp hstep => (hstep.settled hp).2) hmore hi
    exact ⟨hext.total sid, hext.allocated sid⟩
  · have hrise := Steps.tally_eq (f := movedFor d sid) (I := fun s => s.Settled d)
      (Φ := fun s => (s.credit.router.receipts sid).allocated) (fun _ _ _ hstep => hstep.next_eq)
      (fun _ _ _ hp hstep => (hstep.settled hp).1)
      (fun _ _ _ hp hstep => ((hstep.settlement hp.inv).rises hp.covered sid).1) hrun hi₀
    have := hzero sid
    omega
  · have hrise := Steps.tally_eq (f := reportedFor d sid) (I := fun s => s.Settled d)
      (Φ := fun s => (s.credit.router.receipts sid).allocated) (fun _ _ _ hstep => hstep.next_eq)
      (fun _ _ _ hp hstep => (hstep.settled hp).1)
      (fun _ _ _ hp hstep => by
        obtain ⟨hmoved, heq⟩ := (hstep.settlement hp.inv).rises hp.covered sid
        rw [heq]
        exact hmoved) hrun hi₀
    have := hzero sid
    omega

end

namespace Sample

/-- A facility draws 1000. A settlement of 600 is recorded, 400 of it is allocated; somebody sends
50 to the router; another settlement of 800 is received, of which 600 is debt. -/
def settlementTxs : List Tx :=
  activeFacility 5000 1000 ++
    [tx 7 11 (.router (.recordDestinationReceipt 77 600)),
      tx 7 11 (.router (.allocate 77 5 400)),
      tx 8 11 (.token (.transfer 4 50)),
      tx 7 11 (.router (.receiveSettlement 5 78 800))]

end Sample

/-- In the sample run 400 of 600 and all of the 800 are allocated, and 250 are with the router. -/
theorem receipts_conserved_sample :
    ∃ s, Steps (CreditStep Sample.protocol) Sample.creditDeployment Sample.settlementTxs s ∧
      (s.credit.router.receipts 77).allocated = 400 ∧
      s.credit.pool.token.balanceOf Sample.protocol.router = 250 ∧
      tally (CreditState.next Sample.protocol) (reportedFor Sample.protocol 78)
        Sample.creditDeployment Sample.settlementTxs = (s.credit.router.receipts 78).allocated ∧
      (s.credit.router.receipts 78).allocated = 800 := by
  obtain ⟨s, hrun, hview⟩ := Sample.creditDeployment.run_view Sample.protocol Sample.settlementTxs
    (fun s => ((s.credit.router.receipts 77).allocated, s.credit.pool.token.balanceOf 4,
      (s.credit.router.receipts 78).allocated)) (v := (400, 250, 800)) (by decide +kernel)
  simp only [Prod.mk.injEq] at hview
  obtain ⟨halloc, hcash, hwhole⟩ := hview
  have hsteps := CreditState.run_steps hrun
  have hrouter : ∀ spender,
      Sample.creditDeployment.credit.pool.token.allowance Sample.protocol.router spender = 0 := by
    intro spender
    have hself : ¬((4 : Address) = 7 ∨ (4 : Address) = 8 ∨ (4 : Address) = 9) := by decide
    show Sample.fundedToken.allowance 4 spender = 0
    simp only [Sample.fundedToken, hself, false_and, if_false]
  obtain ⟨-, -, -, -, htally⟩ :=
    receipts_conserved Sample.creditDeployment_initial hrouter hsteps
  exact ⟨s, hsteps, halloc, hcash, (htally 78).2, hwhole⟩

end Rackline
