import Rackline.Proofs.CreditInvariant

/-!
# `Rackline.Proofs.Lifecycle`: what a transaction does to one facility

A facility is known to the protocol by its entry at the manager, which holds the lifecycle
state, and by its account on the ledger. This module says once, for every call of every
contract, what the call can do to that pair.

- A draw raises the debt of one facility, and that facility is `ACTIVE` before and after.
- Every other call *services* the accounts: no principal and no debt grows, and a frozen
  accrual stays frozen (`Facility.Services`).
- The state of a facility changes along the edges of `StateChange`, one constructor for each
  kind of call that changes it, with the authority that call asks for.

The results about the lifecycle (closed facilities owe nothing, who can retire a facility, how a
facility defaults) are case analyses of `CreditStep.outcome`.
-/

set_option autoImplicit false

namespace Rackline

open Evm Transition

/-! ### Accounts -/

/-- What a call other than a draw does to an account. -/
structure Facility.Services (now : Nat) (f f' : Facility) : Prop where
  exists_ : f.exists_ = true → f'.exists_ = true
  principal : f'.principal ≤ f.principal
  debt : f'.debtAt now ≤ f.debtAt now
  frozen : f.frozen = true → f'.frozen = true

namespace Facility

open InterestMath

variable {now : Nat} {f f' f'' : Facility}

theorem Services.refl (f : Facility) : Services now f f :=
  ⟨id, Nat.le_refl _, Nat.le_refl _, id⟩

theorem Services.trans (h : Services now f f') (h' : Services now f' f'') : Services now f f'' :=
  ⟨h'.exists_ ∘ h.exists_, h'.principal.trans h.principal, h'.debt.trans h.debt,
    h'.frozen ∘ h.frozen⟩

theorem Services.freezeAccrual (h : f.freezeAccrual now = .ok f') :
    Services now f f' ∧ f'.frozen = true := by
  have hspec := freezeAccrual_spec h
  unfold Facility.freezeAccrual at h
  obtain ⟨g, hg, h⟩ := bind_eq_ok.mp h
  obtain ⟨-, rfl⟩ := accrue_ok hg
  obtain rfl := pure_eq_ok.mp h
  exact ⟨⟨id, Nat.le_refl _, hspec.2.le, fun _ => rfl⟩, rfl⟩

theorem Services.allocate {received : Nat} {r : RepayResult}
    (h : f.allocate now received = .ok (r, f')) :
    Services now f f' ∧ f'.frozen = f.frozen ∧ f'.debtAt now = r.newDebt := by
  obtain ⟨hkept, -, -, -, -, hnew, hfall⟩ := allocate_spec h
  unfold Facility.allocate at h
  obtain ⟨_, -, h⟩ := bind_eq_ok.mp h
  obtain ⟨g, hg, h⟩ := bind_eq_ok.mp h
  obtain ⟨-, rfl⟩ := accrue_ok hg
  obtain ⟨_, -, h⟩ := bind_eq_ok.mp h
  obtain ⟨_, -, h⟩ := bind_eq_ok.mp h
  obtain ⟨_, -, h⟩ := bind_eq_ok.mp h
  have hres := pure_eq_ok.mp h
  simp only [Prod.mk.injEq] at hres
  rw [← hres.2] at hkept hnew hfall ⊢
  exact ⟨⟨fun hx => hkept.exists_.trans hx, Nat.sub_le _ _, by omega, fun hf => hf⟩, rfl,
    hnew.symm⟩

/-- An account that owes nothing at one time owes nothing at any time: interest grows on
principal only. -/
theorem debtAt_eq_zero_iff (f : Facility) (t : Nat) :
    f.debtAt t = 0 ↔ f.principal = 0 ∧ f.fees = 0 ∧ units f.interestAccum = 0 := by
  constructor
  · intro h
    have hp : f.principal = 0 := (Nat.eq_zero_of_add_eq_zero (Nat.eq_zero_of_add_eq_zero h).1).1
    have hf : f.fees = 0 := (Nat.eq_zero_of_add_eq_zero (Nat.eq_zero_of_add_eq_zero h).1).2
    have hi : units (f.accumAt t) = 0 := (Nat.eq_zero_of_add_eq_zero h).2
    rw [accumAt, hp] at hi
    simp only [Nat.zero_mul, ite_self, Nat.add_zero] at hi
    exact ⟨hp, hf, hi⟩
  · rintro ⟨hp, hf, hi⟩
    simp [debtAt, accumAt, hp, hf, hi]

theorem debtAt_eq_zero (h : f.debtAt now = 0) (t : Nat) : f.debtAt t = 0 :=
  (debtAt_eq_zero_iff f t).mpr ((debtAt_eq_zero_iff f now).mp h)

/-- An account that owes nothing answers a debt of zero at every time. -/
theorem legalDebtAt_of_settled (h : f.debtAt now = 0) (t : Nat) : f.legalDebtAt t = .ok 0 := by
  obtain ⟨hp, hf, hi⟩ := (debtAt_eq_zero_iff f now).mp h
  have hword : (0 : Nat) < wordSize 256 := by decide
  unfold legalDebtAt unpaidInterestAt
  simp [hp, hf, hi, addW, hword, bind, Except.bind]

end Facility

theorem Ledger.setState_ok {m : Msg} {l l' : Ledger} {id : FacilityId} {state : FacilityState}
    (h : l.setState m id state = .ok l') :
    l' = { l with
      facilities := Function.update l.facilities id { l.facilities id with state := state } } := by
  obtain ⟨-, f, hf, rfl⟩ := Ledger.modifyFacility_ok h
  cases hf
  rfl

/-! ### Vault calls and the ledger -/

open Pool in
/-- The vault never writes the ledger. -/
theorem VaultCall.exec_ledger {m : Msg} {p p' : Pool} {c : VaultCall} (h : c.exec m p = .ok p') :
    p'.ledger = p.ledger := by
  cases c with
  | setManager manager enabled =>
    obtain ⟨_, _, _, _, rfl⟩ := setManager_ok h
    rfl
  | finalizeWiring =>
    obtain ⟨_, _, _, _, rfl⟩ := finalizeWiring_ok h
    rfl
  | bindRecoveryManager manager =>
    obtain ⟨_, _, _, _, rfl⟩ := bindRecoveryManager_ok h
    rfl
  | setDepositsPaused paused =>
    obtain ⟨_, _, _, _, rfl⟩ := setDepositsPaused_ok h
    rfl
  | deposit assets minShares =>
    obtain ⟨⟨shares, q⟩, hc, rfl⟩ := map_eq_ok.mp h
    obtain ⟨-, -, -, -, token, -, rfl⟩ := deposit_ok hc
    rfl
  | withdraw shares minAssets =>
    obtain ⟨⟨assets, q⟩, hc, rfl⟩ := map_eq_ok.mp h
    obtain ⟨-, -, -, -, -, -, -, -, token, -, rfl⟩ := withdraw_ok hc
    rfl
  | requestWithdrawal shares minAssets =>
    obtain ⟨⟨id, q⟩, hc, rfl⟩ := map_eq_ok.mp h
    obtain ⟨-, -, -, -, rfl⟩ := requestWithdrawal_ok hc
    rfl
  | cancelWithdrawal id =>
    obtain ⟨-, rfl⟩ := cancelWithdrawal_ok h
    rfl
  | processWithdrawals maxRequests =>
    obtain ⟨⟨filled, reserved, q⟩, hc, rfl⟩ := map_eq_ok.mp h
    obtain ⟨-, hloop⟩ := processWithdrawals_ok hc
    refine processLoop_invariant (P := fun _ q => q.ledger = p.ledger) ?_ ?_ hloop rfl
    · intro _ q q' hq _ hstep
      cases hstep <;> exact hq
    · intro _ q q' _ _ _ _ hq _ hstep
      cases hstep <;> exact hq
  | claimWithdrawal id =>
    obtain ⟨⟨assets, q⟩, hc, rfl⟩ := map_eq_ok.mp h
    obtain ⟨-, -, token, -, rfl⟩ := claimWithdrawal_ok hc
    rfl
  | rollLossEpoch =>
    obtain ⟨-, residual, -, -, rfl⟩ := rollLossEpoch_ok h
    rfl
  | claimEpochRecovery epoch =>
    obtain ⟨⟨assets, q⟩, hc, rfl⟩ := map_eq_ok.mp h
    obtain ⟨-, -, -, token, -, rfl⟩ := claimEpochRecovery_ok hc
    rfl
  | lend id dst amount =>
    obtain ⟨-, -, -, token, -, rfl⟩ := lend_ok h
    rfl
  | onRepayment id result =>
    obtain ⟨-, -, -, -, -, rfl⟩ := onRepayment_ok h
    rfl
  | refundExcess id dst amount =>
    obtain ⟨-, -, token, -, rfl⟩ := refundExcess_ok h
    rfl
  | recordRecovery id amount =>
    obtain ⟨-, -, -, rfl⟩ := recordRecovery_ok h
    rfl
  | recognizeImpairment id amount =>
    obtain ⟨-, -, rfl⟩ := recognizeImpairment_ok h
    rfl
  | reverseImpairment id amount =>
    obtain ⟨-, -, rfl⟩ := reverseImpairment_ok h
    rfl
  | writeOff id =>
    obtain ⟨-, -, -, lost, -, rfl⟩ := writeOff_ok h
    rfl
  | approve spender amount =>
    cases h
    rfl
  | transfer dst amount =>
    obtain ⟨-, rfl⟩ := transferShares_ok h
    rfl
  | transferFrom src dst amount =>
    obtain ⟨-, allowances, rfl⟩ := transferFrom_ok h
    rfl

/-! ### The state and the account of a facility -/

namespace Credit

/-- `_facilities[id].state`. -/
def stateAt (c : Credit) (id : FacilityId) : FacilityState := (c.manager.facilities id).state

/-- The account of the facility on the ledger. -/
def account (c : Credit) (id : FacilityId) : Facility := c.pool.ledger.facilities id

/-- The call leaves every facility as it is. -/
structure Untouched (c c' : Credit) : Prop where
  facilities : c'.manager.facilities = c.manager.facilities
  accounts : c'.pool.ledger.facilities = c.pool.ledger.facilities

/-- The call services the account of one facility, and may move its state. -/
structure Touches (now : Nat) (id : FacilityId) (c c' : Credit) : Prop where
  others : ∀ i, i ≠ id →
    c'.manager.facilities i = c.manager.facilities i ∧ c'.account i = c.account i
  serviced : Facility.Services now (c.account id) (c'.account id)
  known : (c.manager.facilities id).exists_ = true → (c'.manager.facilities id).exists_ = true
  moved : c'.stateAt id ≠ c.stateAt id →
    (c'.manager.facilities id).exists_ = true ∧ (c'.account id).exists_ = true

/-- A repayment path: the account is serviced, and the state is kept or, on a debt of zero,
taken to `REPAID`. -/
structure Repaid (now : Nat) (id : FacilityId) (c c' : Credit) : Prop
    extends Touches now id c c' where
  state : c'.stateAt id = c.stateAt id ∨
    c'.stateAt id = .repaid ∧ FacilityState.syncs (c.stateAt id) = true ∧
      (c'.account id).debtAt now = 0

variable {d : Deployment} {reg : Registries} {m : Msg} {now : Nat} {c c' c'' : Credit}
  {id : FacilityId}

theorem Touches.of_untouched (h : Untouched c c') : Touches now id c c' := by
  have hstate : c'.stateAt id = c.stateAt id := by rw [stateAt, stateAt, h.facilities]
  refine ⟨fun i _ => ?_, ?_, fun hx => ?_, fun hne => absurd hstate hne⟩
  · rw [h.facilities, account, account, h.accounts]
    exact ⟨rfl, rfl⟩
  · rw [account, account, h.accounts]
    exact .refl _
  · rw [h.facilities]
    exact hx

theorem Touches.trans (h : Touches now id c c') (h' : Touches now id c' c'') :
    Touches now id c c'' := by
  refine ⟨fun i hi => ?_, h.serviced.trans h'.serviced, h'.known ∘ h.known, fun hne => ?_⟩
  · obtain ⟨hm, ha⟩ := h.others i hi
    obtain ⟨hm', ha'⟩ := h'.others i hi
    exact ⟨hm'.trans hm, ha'.trans ha⟩
  · by_cases hmid : c''.stateAt id = c'.stateAt id
    · obtain ⟨hx, ha⟩ := h.moved (hmid ▸ hne)
      exact ⟨h'.known hx, h'.serviced.exists_ ha⟩
    · exact h'.moved hmid

theorem Repaid.of_untouched (h : Untouched c c') : Repaid now id c c' :=
  ⟨.of_untouched h, .inl (by rw [stateAt, stateAt, h.facilities])⟩

/-- After a repayment that closed the facility nothing more happens to its state. -/
theorem Repaid.trans (h : Repaid now id c c') (h' : Repaid now id c' c'') :
    Repaid now id c c'' := by
  refine ⟨h.toTouches.trans h'.toTouches, ?_⟩
  rcases h.state with hkept | ⟨hrepaid, hsync, hzero⟩
  · rcases h'.state with hkept' | ⟨hrepaid', hsync', hzero'⟩
    · exact .inl (hkept'.trans hkept)
    · exact .inr ⟨hrepaid', hkept ▸ hsync', hzero'⟩
  · rcases h'.state with hkept' | ⟨-, hsync', -⟩
    · exact .inr ⟨hkept'.trans hrepaid, hsync, Nat.le_zero.mp (hzero ▸ h'.serviced.debt)⟩
    · rw [hrepaid] at hsync'
      cases hsync'

/-! ### The manager's own functions -/

theorem setFacilityState_touches (now : Nat) {target : FacilityState}
    (hx : (c.manager.facilities id).exists_ = true)
    (h : c.setFacilityState d m id target = .ok c') :
    Touches now id c c' ∧ c'.stateAt id = target ∧
      (c'.account id).debtAt now = (c.account id).debtAt now := by
  obtain ⟨l, hl, rfl⟩ := setFacilityState_ok h
  have hacc : (c.account id).exists_ = true := (Ledger.modifyFacility_ok hl).1
  obtain rfl := Ledger.setState_ok hl
  refine ⟨⟨fun i hi => ?_, ?_, fun _ => ?_, fun _ => ⟨?_, ?_⟩⟩, ?_, ?_⟩
  · simp [account, Function.update_of_ne hi]
  · simp only [account, Function.update_self]
    exact ⟨fun hf => hf, Nat.le_refl _, Nat.le_refl _, fun hf => hf⟩
  · simpa using hx
  · simpa using hx
  · simpa [account] using hacc
  · simp [stateAt]
  · simp only [account, Function.update_self]
    rfl

theorem requireFacility_ok {u : Unit} (h : c.requireFacility id = .ok u) :
    (c.manager.facilities id).exists_ = true := by
  simpa using revertIf_eq_ok.mp h

/-- The debt check of the table's edges to `REPAID` and `RELEASED`. -/
theorem guard_debt {source target : FacilityState} {u : Unit}
    (h : c.guard d reg m id source target = .ok u) (ht : target = .repaid ∨ target = .released) :
    (c.account id).debtAt m.now = 0 := by
  have hactive : ¬(target = .active ∧ source ≠ .delinquent) := by
    rcases ht with rfl | rfl <;> simp
  have hcheck : (do
      let debt ← c.pool.ledger.legalDebtAt id m.now
      revertIf (debt ≠ 0) (Revert.debtOutstanding id debt)) = .ok u := by
    unfold guard at h
    simp only [if_pos ht, if_neg hactive] at h
    split at h
    · obtain ⟨_, -, h⟩ := bind_eq_ok.mp h
      obtain ⟨_, -, h⟩ := bind_eq_ok.mp h
      obtain ⟨_, -, h⟩ := bind_eq_ok.mp h
      exact h
    · exact h
  obtain ⟨debt, hdebt, hzero⟩ := bind_eq_ok.mp hcheck
  have hzero : debt = 0 := Classical.not_not.mp (revertIf_eq_ok.mp hzero)
  exact (Ledger.legalDebtAt_eq_ok hdebt).2.symm.trans hzero

theorem transition_touches {target : FacilityState}
    (h : c.transition d reg m id target = .ok c') :
    Touches m.now id c c' ∧ c'.stateAt id = target ∧
      isTransitionAllowed (c.stateAt id) target = true ∧
      c.hasAuthority d m (c.stateAt id) target = true ∧
      (target = .repaid ∨ target = .released → (c'.account id).debtAt m.now = 0) := by
  obtain ⟨hallow, hauth, hset⟩ := transition_ok h
  unfold transition at h
  obtain ⟨_, hx, h⟩ := bind_eq_ok.mp h
  obtain ⟨_, -, h⟩ := bind_eq_ok.mp h
  obtain ⟨_, -, h⟩ := bind_eq_ok.mp h
  obtain ⟨_, hguard, -⟩ := bind_eq_ok.mp h
  obtain ⟨htouch, hstate, hdebt⟩ := setFacilityState_touches m.now (requireFacility_ok hx) hset
  exact ⟨htouch, hstate, hallow, hauth, fun ht => hdebt.trans (guard_debt hguard ht)⟩

theorem recoveryTransition_touches {target : FacilityState}
    (h : c.recoveryTransition d reg m id target = .ok c') :
    Touches m.now id c c' ∧ c'.stateAt id = target ∧
      isTransitionAllowed (c.stateAt id) target = true := by
  obtain ⟨-, hallow, hset⟩ := recoveryTransition_ok h
  unfold recoveryTransition at h
  obtain ⟨_, hx, -⟩ := bind_eq_ok.mp h
  obtain ⟨htouch, hstate, -⟩ := setFacilityState_touches m.now (requireFacility_ok hx) hset
  exact ⟨htouch, hstate, hallow⟩

theorem syncRepaid_repaid (h : c.syncRepaid d m id = .ok c') :
    Repaid m.now id c c' ∧ (c'.account id).debtAt m.now = 0 ∧
      (FacilityState.syncs (c.stateAt id) = true → c'.stateAt id = .repaid) := by
  have hzero := (syncRepaid_ok h).1
  unfold syncRepaid at h
  obtain ⟨_, hx, h⟩ := bind_eq_ok.mp h
  obtain ⟨debt, -, h⟩ := bind_eq_ok.mp h
  obtain ⟨_, -, h⟩ := bind_eq_ok.mp h
  have hdebt : (c.account id).debtAt m.now = 0 := (Ledger.legalDebtAt_eq_ok hzero).2.symm
  split at h
  · rename_i hsync
    obtain ⟨htouch, hstate, hkeep⟩ := setFacilityState_touches m.now (requireFacility_ok hx) h
    exact ⟨⟨htouch, .inr ⟨hstate, hsync, hkeep.trans hdebt⟩⟩, hkeep.trans hdebt, fun _ => hstate⟩
  · rename_i hsync
    obtain rfl := pure_eq_ok.mp h
    exact ⟨.of_untouched ⟨rfl, rfl⟩, hdebt, fun hs => absurd hs hsync⟩

theorem freezeDraws_touches (h : c.freezeDraws d m id = .ok c') :
    Touches m.now id c c' ∧ c'.stateAt id = .drawFrozen ∧ c.stateAt id = .active ∧
      m.hasRole .guardian m.sender = true := by
  unfold freezeDraws at h
  obtain ⟨_, hx, h⟩ := bind_eq_ok.mp h
  obtain ⟨_, hrole, h⟩ := bind_eq_ok.mp h
  obtain ⟨_, hstate, h⟩ := bind_eq_ok.mp h
  obtain ⟨htouch, htarget, -⟩ := setFacilityState_touches m.now (requireFacility_ok hx) h
  exact ⟨htouch, htarget, Classical.not_not.mp (revertIf_eq_ok.mp hstate),
    by simpa using revertIf_eq_ok.mp hrole⟩

/-- Opening touches one facility that was not there. Its account starts accruing now. -/
theorem openFacility_touches {borrowerId : Bytes32} {wallet : Address} {terms : Terms}
    {controlAgreementId : Bytes32} {controlVersion : Nat}
    (h : c.openFacility d reg m id borrowerId wallet terms controlAgreementId controlVersion =
      .ok c') :
    Touches m.now id c c' ∧ c'.stateAt id = .draft ∧
      (c.manager.facilities id).exists_ = false ∧ m.hasRole .underwriter m.sender = true := by
  unfold openFacility at h
  obtain ⟨_, hrole, h⟩ := bind_eq_ok.mp h
  obtain ⟨_, -, h⟩ := bind_eq_ok.mp h
  obtain ⟨_, hnew, h⟩ := bind_eq_ok.mp h
  obtain ⟨_, -, h⟩ := bind_eq_ok.mp h
  obtain ⟨_, -, h⟩ := bind_eq_ok.mp h
  split at h
  · cases h
  obtain ⟨_, -, h⟩ := bind_eq_ok.mp h
  obtain ⟨_, -, h⟩ := bind_eq_ok.mp h
  obtain ⟨_, -, h⟩ := bind_eq_ok.mp h
  obtain ⟨l, hl, h⟩ := bind_eq_ok.mp h
  obtain ⟨htouch, hstate, -⟩ := setFacilityState_touches m.now (by simp) h
  refine ⟨.trans ?_ htouch, hstate, by simpa using revertIf_eq_ok.mp hnew,
    by simpa using revertIf_eq_ok.mp hrole⟩
  unfold Ledger.openFacility at hl
  obtain ⟨_, -, hl⟩ := bind_eq_ok.mp hl
  obtain ⟨_, -, hl⟩ := bind_eq_ok.mp hl
  obtain ⟨_, -, hl⟩ := bind_eq_ok.mp hl
  obtain ⟨_, -, hl⟩ := bind_eq_ok.mp hl
  obtain ⟨_, -, hl⟩ := bind_eq_ok.mp hl
  obtain rfl := pure_eq_ok.mp hl
  refine ⟨fun i hi => by simp [account, Function.update_of_ne hi], ?_, fun _ => by simp,
    fun _ => ⟨by simp, by simp [account]⟩⟩
  simp only [account, Function.update_self]
  refine ⟨fun _ => rfl, Nat.le_refl _, ?_, fun hf => hf⟩
  -- At the time of the call nothing has accrued on the new clock.
  refine Nat.add_le_add_left (Nat.div_le_div_right ?_) _
  simp [Facility.accumAt, Msg.calledBy]

/-! ### Reservations and draws -/

theorem releaseReservation_untouched {rid : Bytes32} {next : ReservationState}
    (h : c.releaseReservation rid next = .ok c') : Untouched c c' := by
  unfold releaseReservation at h
  obtain ⟨_, -, h⟩ := bind_eq_ok.mp h
  obtain ⟨_, -, h⟩ := bind_eq_ok.mp h
  obtain rfl := pure_eq_ok.mp h
  exact ⟨rfl, rfl⟩

theorem reserveInternal_untouched {amount expiresAt : Nat} {rid : Bytes32}
    (h : c.reserveInternal d reg m id amount expiresAt = .ok (rid, c')) :
    Untouched c c' ∧ c'.manager.reservationFacility rid = id ∧ c'.pool = c.pool := by
  unfold reserveInternal at h
  obtain ⟨_, -, h⟩ := bind_eq_ok.mp h
  obtain ⟨_, -, h⟩ := bind_eq_ok.mp h
  obtain ⟨_, -, h⟩ := bind_eq_ok.mp h
  obtain ⟨_, -, h⟩ := bind_eq_ok.mp h
  obtain ⟨ev, -, h⟩ := bind_eq_ok.mp h
  obtain ⟨_, -, h⟩ := bind_eq_ok.mp h
  obtain ⟨_, -, h⟩ := bind_eq_ok.mp h
  obtain ⟨cash, -, h⟩ := bind_eq_ok.mp h
  obtain ⟨_, -, h⟩ := bind_eq_ok.mp h
  obtain ⟨nonce, -, h⟩ := bind_eq_ok.mp h
  obtain ⟨⟨rid', q⟩, hq, h⟩ := bind_eq_ok.mp h
  obtain ⟨nonceUsed, r, reserved, -, rfl⟩ := reserve_ok hq
  have hres := pure_eq_ok.mp h
  simp only [Prod.mk.injEq] at hres
  obtain ⟨rfl, rfl⟩ := hres
  exact ⟨⟨rfl, rfl⟩, by simp, rfl⟩

/-- What a draw does: one facility, `ACTIVE` before and after, has a larger principal. -/
structure Drawn (now : Nat) (id : FacilityId) (c c' : Credit) : Prop where
  facilities : c'.manager.facilities = c.manager.facilities
  active : c.stateAt id = .active
  others : ∀ i, i ≠ id → c'.account i = c.account i
  exists_ : (c'.account id).exists_ = true
  principal : (c.account id).principal < (c'.account id).principal
  frozen : (c'.account id).frozen = (c.account id).frozen

theorem checkDrawable_active {u : Unit} (h : c.checkDrawable d reg m id = .ok u) :
    c.stateAt id = .active := by
  unfold checkDrawable at h
  obtain ⟨_, -, h⟩ := bind_eq_ok.mp h
  obtain ⟨_, -, h⟩ := bind_eq_ok.mp h
  obtain ⟨_, hstate, -⟩ := bind_eq_ok.mp h
  exact Classical.not_not.mp (revertIf_eq_ok.mp hstate)

theorem recordDraw_principal {f f' : Facility} {amount : Nat}
    (h : f.recordDraw now id amount = .ok f') :
    f'.principal = f.principal + amount ∧ 0 < amount ∧ f'.exists_ = f.exists_ ∧
      f'.frozen = f.frozen := by
  unfold Facility.recordDraw at h
  obtain ⟨_, hz, h⟩ := bind_eq_ok.mp h
  obtain ⟨_, -, h⟩ := bind_eq_ok.mp h
  obtain ⟨g, hg, h⟩ := bind_eq_ok.mp h
  obtain ⟨-, rfl⟩ := Facility.accrue_ok hg
  obtain ⟨p, hp, h⟩ := bind_eq_ok.mp h
  obtain ⟨-, rfl⟩ := addW_eq_ok.mp hp
  obtain ⟨_, -, h⟩ := bind_eq_ok.mp h
  obtain rfl := pure_eq_ok.mp h
  exact ⟨rfl, Nat.pos_of_ne_zero (revertIf_eq_ok.mp hz), rfl, rfl⟩

theorem executeInternal_drawn (hp : c.Paired) {rid : Bytes32} {minReceived : Nat}
    (h : c.executeInternal d reg m rid minReceived = .ok c') :
    Drawn m.now (c.manager.reservationFacility rid) c c' ∧
      m.sender = (c.manager.facilities (c.manager.reservationFacility rid)).wallet := by
  obtain ⟨-, l, hl, hlend⟩ := executeInternal_ok (E := ⟨∅, ∅⟩) hp h
  have hledger : c'.pool.ledger = l := VaultCall.exec_ledger (c := .lend _ _ _) hlend
  unfold executeInternal at h
  obtain ⟨_, -, h⟩ := bind_eq_ok.mp h
  obtain ⟨_, hsender, h⟩ := bind_eq_ok.mp h
  obtain ⟨_, hcheck, h⟩ := bind_eq_ok.mp h
  obtain ⟨q, hq, h⟩ := bind_eq_ok.mp h
  obtain ⟨-, -, _, _, -, rfl⟩ := consumeReservation_ok hq
  obtain ⟨pool, -, h⟩ := bind_eq_ok.mp h
  obtain ⟨_, -, h⟩ := bind_eq_ok.mp h
  obtain ⟨_, -, h⟩ := bind_eq_ok.mp h
  obtain ⟨_, -, h⟩ := bind_eq_ok.mp h
  have hfac : c'.manager.facilities = c.manager.facilities := by rw [← pure_eq_ok.mp h]
  refine ⟨?_, Classical.not_not.mp (revertIf_eq_ok.mp hsender)⟩
  obtain ⟨hx, f, hf, hl'⟩ := Ledger.modifyFacility_ok hl
  obtain ⟨hprincipal, hpos, hex, hfz⟩ := recordDraw_principal hf
  have hself : c'.account (c.manager.reservationFacility rid) = f := by
    rw [account, hledger, hl']
    simp
  refine ⟨hfac, checkDrawable_active hcheck, fun i hi => ?_, ?_, ?_, ?_⟩
  · rw [account, hledger, hl']
    simp [account, Function.update_of_ne hi]
  · rw [hself]
    exact hex.trans hx
  · rw [hself, hprincipal]
    exact Nat.lt_add_of_pos_right hpos
  · rw [hself]
    exact hfz

theorem borrow_drawn (hp : c.Paired) {amount minReceived : Nat}
    (h : c.borrow d reg m id amount minReceived = .ok c') :
    Drawn m.now id c c' ∧ m.sender = (c.manager.facilities id).wallet := by
  unfold borrow at h
  obtain ⟨expiresAt, -, h⟩ := bind_eq_ok.mp h
  obtain ⟨⟨rid, c₁⟩, hres, h⟩ := bind_eq_ok.mp h
  obtain ⟨huntouched, hid, -⟩ := reserveInternal_untouched hres
  have hint : Internal d m.now ⟨∅, ∅⟩ c c₁ := (reserveInternal_ok hp hres).1
  obtain ⟨hdrawn, hsender⟩ := executeInternal_drawn hint.paired h
  rw [hid, huntouched.facilities] at hsender
  rw [hid] at hdrawn
  refine ⟨⟨hdrawn.facilities.trans huntouched.facilities, ?_, fun i hi => ?_, hdrawn.exists_, ?_, ?_⟩,
    hsender⟩
  · have := hdrawn.active
    rwa [stateAt, huntouched.facilities] at this
  · have := hdrawn.others i hi
    rwa [account, account, huntouched.accounts] at this
  · have := hdrawn.principal
    rwa [account, huntouched.accounts] at this
  · have := hdrawn.frozen
    rwa [account, account, huntouched.accounts] at this

/-! ### Repayments -/

/-- The ledger and the vault's part of a repayment. -/
theorem repay_touches {got requested : Nat} {r : RepayResult} {p : Pool} {token : Token Address}
    (router : Router) (recovery : Recovery)
    (h : Pool.repay m id got requested { c.pool with token := token } = .ok (r, p)) :
    Repaid m.now id c { c with pool := p, router := router, recovery := recovery } ∧
      (p.ledger.facilities id).debtAt m.now = r.newDebt := by
  obtain ⟨split, l, hl, rfl, hon⟩ := Pool.repay_ok h
  have hledger : p.ledger = l := VaultCall.exec_ledger (c := .onRepayment _ _) hon
  obtain ⟨-, -, -, -, -, -, -, hothers, -, -⟩ := Ledger.allocate_ok hl
  unfold Ledger.allocate at hl
  obtain ⟨_, -, hl⟩ := bind_eq_ok.mp hl
  obtain ⟨_, -, hl⟩ := bind_eq_ok.mp hl
  obtain ⟨⟨r', f⟩, hf, hl⟩ := bind_eq_ok.mp hl
  have hres := pure_eq_ok.mp hl
  simp only [Prod.mk.injEq] at hres
  obtain ⟨rfl, hl'⟩ := hres
  obtain ⟨hserv, -, hdebt⟩ := Facility.Services.allocate hf
  have hself : p.ledger.facilities id = f := by
    rw [hledger, ← hl']
    simp
  refine ⟨⟨⟨fun i hi => ⟨rfl, ?_⟩, ?_, fun hx => hx, fun hne => absurd rfl hne⟩, .inl rfl⟩, ?_⟩
  · change p.ledger.facilities i = _
    rw [hledger]
    exact hothers i hi
  · change Facility.Services m.now _ (p.ledger.facilities id)
    rw [hself]
    exact hserv
  · rw [hself]
    exact hdebt

theorem managerRepayFor_repaid {amount : Nat} {r : RepayResult}
    (h : c.managerRepayFor d m id amount = .ok (r, c')) :
    Repaid m.now id c c' ∧ (c'.account id).debtAt m.now = r.newDebt ∧
      (r.newDebt = 0 → isTransitionAllowed (c.stateAt id) .repaid = true →
        c'.stateAt id = .repaid) := by
  unfold managerRepayFor at h
  obtain ⟨_, hx, h⟩ := bind_eq_ok.mp h
  obtain ⟨_, -, h⟩ := bind_eq_ok.mp h
  obtain ⟨⟨got, q⟩, hpull, h⟩ := bind_eq_ok.mp h
  obtain ⟨token, -, rfl⟩ := pullToVault_ok hpull m
  obtain ⟨⟨r', p₁⟩, hrepay, h⟩ := bind_eq_ok.mp h
  obtain ⟨c₁, hobs, h⟩ := bind_eq_ok.mp h
  obtain ⟨recovery, rfl⟩ := reportAllocation_ok hobs
  obtain ⟨hrep, hdebt⟩ :=
    repay_touches (m := m.calledBy d.manager) c.router recovery hrepay
  split at h
  · rename_i hclose
    obtain ⟨c₂, hset, h⟩ := bind_eq_ok.mp h
    have hres := pure_eq_ok.mp h
    simp only [Prod.mk.injEq] at hres
    obtain ⟨rfl, rfl⟩ := hres
    have hx' : (c.manager.facilities id).exists_ = true := requireFacility_ok hx
    obtain ⟨htouch, hstate, hkeep⟩ :=
      setFacilityState_touches (c := { c with pool := p₁, recovery := recovery }) m.now hx' hset
    have hafter : (c₂.account id).debtAt m.now = r'.newDebt := hkeep.trans hdebt
    have hsync : FacilityState.syncs (c.stateAt id) = true := by
      have hallow : isTransitionAllowed (c.stateAt id) .repaid = true := hclose.2
      revert hallow
      cases c.stateAt id <;> decide
    exact ⟨⟨hrep.toTouches.trans htouch, .inr ⟨hstate, hsync, hafter.trans hclose.1⟩⟩, hafter,
      fun _ _ => hstate⟩
  · rename_i hopen
    have hres := pure_eq_ok.mp h
    simp only [Prod.mk.injEq] at hres
    obtain ⟨rfl, rfl⟩ := hres
    exact ⟨hrep, hdebt, fun hz hallow => absurd ⟨hz, hallow⟩ hopen⟩

/-- The common end of the router's repayments. -/
theorem applyReceived_repaid {token : Token Address} {router : Router} {requested got : Nat}
    {r : RepayResult}
    (h : applyReceived d m id requested got { c with
      pool := { c.pool with token := token }, router := router } = .ok (r, c')) :
    Repaid m.now id c c' ∧ (c'.account id).debtAt m.now = r.newDebt := by
  unfold applyReceived at h
  obtain ⟨⟨r', p₁⟩, hrepay, h⟩ := bind_eq_ok.mp h
  dsimp only at h
  split at h
  · obtain ⟨c₁, hobs, h⟩ := bind_eq_ok.mp h
    obtain ⟨recovery, rfl⟩ := reportAllocation_ok hobs
    obtain ⟨hrep, hdebt⟩ :=
      repay_touches (m := m.calledBy d.router) router recovery hrepay
    split at h
    · rename_i hz
      obtain ⟨c₂, hsync, h⟩ := bind_eq_ok.mp h
      have hres := pure_eq_ok.mp h
      simp only [Prod.mk.injEq] at hres
      obtain ⟨rfl, rfl⟩ := hres
      obtain ⟨hrep', hzero, -⟩ := syncRepaid_repaid hsync
      exact ⟨hrep.trans hrep', hzero.trans hz.symm⟩
    · have hres := pure_eq_ok.mp h
      simp only [Prod.mk.injEq] at hres
      obtain ⟨rfl, rfl⟩ := hres
      exact ⟨hrep, hdebt⟩
  · have hres := pure_eq_ok.mp h
    simp only [Prod.mk.injEq] at hres
    obtain ⟨rfl, rfl⟩ := hres
    exact repay_touches (m := m.calledBy d.router) router c.recovery hrepay

theorem routerRepayFor_repaid {amount : Nat} {r : RepayResult}
    (h : c.routerRepayFor d m id amount = .ok (r, c')) : Repaid m.now id c c' := by
  unfold routerRepayFor at h
  obtain ⟨_, -, h⟩ := bind_eq_ok.mp h
  obtain ⟨debt, -, h⟩ := bind_eq_ok.mp h
  obtain ⟨⟨got, q⟩, hpull, h⟩ := bind_eq_ok.mp h
  obtain ⟨token, -, rfl⟩ := pullToVault_ok hpull m
  exact (applyReceived_repaid h).1

theorem repayExact_repaid {maxAmount : Nat} {r : RepayResult}
    (h : c.repayExact d m id maxAmount = .ok (r, c')) : Repaid m.now id c c' := by
  unfold repayExact at h
  obtain ⟨_, -, h⟩ := bind_eq_ok.mp h
  obtain ⟨debt, -, h⟩ := bind_eq_ok.mp h
  obtain ⟨⟨got, q⟩, hpull, h⟩ := bind_eq_ok.mp h
  obtain ⟨token, -, rfl⟩ := pullToVault_ok hpull m
  exact (applyReceived_repaid h).1

theorem recordReceipt_untouched {settlementId : Bytes32} {amount got : Nat}
    (h : c.recordReceipt d m settlementId amount = .ok (got, c')) : Untouched c c' := by
  obtain ⟨token, router, -, rfl⟩ := recordReceipt_ok h
  exact ⟨rfl, rfl⟩

theorem allocateFromReceipt_repaid {settlementId : Bytes32} {amount : Nat} {r : RepayResult}
    (h : c.allocateFromReceipt d m settlementId id amount = .ok (r, c')) :
    Repaid m.now id c c' := by
  unfold allocateFromReceipt at h
  obtain ⟨_, -, h⟩ := bind_eq_ok.mp h
  obtain ⟨_, -, h⟩ := bind_eq_ok.mp h
  obtain ⟨allocated, -, h⟩ := bind_eq_ok.mp h
  obtain ⟨_, -, h⟩ := bind_eq_ok.mp h
  obtain ⟨debt, -, h⟩ := bind_eq_ok.mp h
  obtain ⟨⟨got, q⟩, hpush, h⟩ := bind_eq_ok.mp h
  obtain ⟨token, -, rfl⟩ := pushToVault_ok hpush m
  exact (applyReceived_repaid h).1

/-! ### The recovery manager -/

theorem setScheduleOf_untouched (s : Schedule) : Untouched c (c.setScheduleOf id s) := ⟨rfl, rfl⟩

/-- An unpaid installment stands over a debt. -/
theorem debt_of_installmentPaid (h : c.installmentPaid id now = .ok false) :
    (c.account id).debtAt now ≠ 0 := by
  unfold installmentPaid at h
  obtain ⟨debt, hdebt, h⟩ := bind_eq_ok.mp h
  have hdebt : debt = (c.account id).debtAt now := (Ledger.legalDebtAt_eq_ok hdebt).2
  split at h
  · cases h
  · rename_i hne
    exact hdebt ▸ hne

theorem markDelinquent_touches (h : c.markDelinquent d reg m id = .ok c') :
    Touches m.now id c c' ∧ c'.stateAt id = .delinquent ∧
      isTransitionAllowed (c.stateAt id) .delinquent = true ∧
      (c.account id).debtAt m.now ≠ 0 := by
  unfold markDelinquent at h
  obtain ⟨_, -, h⟩ := bind_eq_ok.mp h
  obtain ⟨paid, hpaid, h⟩ := bind_eq_ok.mp h
  obtain ⟨_, hunpaid, h⟩ := bind_eq_ok.mp h
  obtain rfl : paid = false := by simpa using revertIf_eq_ok.mp hunpaid
  obtain ⟨htouch, hstate, hallow⟩ := recoveryTransition_touches (m := m.calledBy d.recovery) h
  exact ⟨htouch, hstate, hallow, debt_of_installmentPaid hpaid⟩

/-- A cure is a repayment path without debt and an edge to `ACTIVE` with debt. -/
theorem cure_touches (h : c.cure d reg m id = .ok c') :
    (Repaid m.now id c c' ∧ (c.account id).debtAt m.now = 0 ∧
      (FacilityState.syncs (c.stateAt id) = true → c'.stateAt id = .repaid)) ∨
    Touches m.now id c c' ∧ (c.account id).debtAt m.now ≠ 0 ∧ c'.stateAt id = .active ∧
      isTransitionAllowed (c.stateAt id) .active = true := by
  obtain ⟨debt, c₁, s, hdebt, hcases, rfl⟩ := cure_ok h
  have hdebt : debt = (c.account id).debtAt m.now := (Ledger.legalDebtAt_eq_ok hdebt).2
  rcases hcases with ⟨hz, hsync⟩ | ⟨hne, htrans⟩
  · obtain ⟨hrep, -, hstate⟩ := syncRepaid_repaid (m := m.calledBy d.recovery) hsync
    exact .inl ⟨hrep.trans (.of_untouched (setScheduleOf_untouched s)), hdebt ▸ hz, hstate⟩
  · obtain ⟨htouch, hstate, hallow⟩ :=
      recoveryTransition_touches (m := m.calledBy d.recovery) htrans
    exact .inr ⟨htouch.trans (.of_untouched (setScheduleOf_untouched s)), hdebt ▸ hne, hstate,
      hallow⟩

theorem declareDefault_touches (h : c.declareDefault d reg m id = .ok c') :
    Touches m.now id c c' ∧ c'.stateAt id = .defaulted ∧
      isTransitionAllowed (c.stateAt id) .defaulted = true ∧
      m.hasRole .guardian m.sender = true ∧ (c'.account id).frozen = true := by
  unfold declareDefault at h
  obtain ⟨_, hrole, h⟩ := bind_eq_ok.mp h
  obtain ⟨_, -, h⟩ := bind_eq_ok.mp h
  obtain ⟨_, -, h⟩ := bind_eq_ok.mp h
  obtain ⟨c₁, htrans, h⟩ := bind_eq_ok.mp h
  obtain ⟨l, hl, h⟩ := bind_eq_ok.mp h
  obtain rfl := pure_eq_ok.mp h
  obtain ⟨htouch, hstate, hallow⟩ := recoveryTransition_touches (m := m.calledBy d.recovery) htrans
  have hstart : Touches m.now id c c₁ :=
    .trans (.of_untouched (setScheduleOf_untouched _)) htouch
  obtain ⟨-, f, hf, rfl⟩ := Ledger.modifyFacility_ok hl
  obtain ⟨hserv, hfrozen⟩ := Facility.Services.freezeAccrual hf
  refine ⟨hstart.trans ⟨fun i hi => ⟨rfl, ?_⟩, ?_, fun hx => hx, fun hne => absurd rfl hne⟩,
    hstate, hallow, by simpa using revertIf_eq_ok.mp hrole, ?_⟩
  · simp [account, Function.update_of_ne hi]
  · simp only [account, Function.update_self]
    exact hserv
  · simpa only [account, Function.update_self] using hfrozen

theorem beginRecovery_touches (h : c.beginRecovery d reg m id = .ok c') :
    Touches m.now id c c' ∧ c'.stateAt id = .recovery ∧
      isTransitionAllowed (c.stateAt id) .recovery = true ∧
      m.hasRole .servicer m.sender = true := by
  unfold beginRecovery at h
  obtain ⟨_, hrole, h⟩ := bind_eq_ok.mp h
  obtain ⟨htouch, hstate, hallow⟩ := recoveryTransition_touches (m := m.calledBy d.recovery) h
  exact ⟨htouch, hstate, hallow, by simpa using revertIf_eq_ok.mp hrole⟩

theorem applyReserveInternal_repaid (h : c.applyReserveInternal d m id = .ok c') :
    Repaid m.now id c c' := by
  obtain rfl | ⟨amount, s, r, c₁, hrepay, rfl⟩ := applyReserveInternal_ok h
  · exact .of_untouched ⟨rfl, rfl⟩
  · have hrep := repayExact_repaid (m := m.calledBy d.recovery) hrepay
    -- The schedule before and the approvals around the repayment touch no facility.
    have hstart : Repaid m.now id c c₁ := by
      refine Repaid.trans (Repaid.of_untouched ?_) hrep
      exact ⟨rfl, rfl⟩
    exact hstart.trans (.of_untouched ⟨rfl, rfl⟩)

/-- A write-off closes the facility without debt as a repayment does, and with debt at a loss. -/
theorem recoveryWriteOff_touches {lossId : Bytes32}
    (h : c.recoveryWriteOff d reg m id lossId = .ok c') :
    m.hasRole .treasury m.sender = true ∧ (Repaid m.now id c c' ∨
      Touches m.now id c c' ∧ c'.stateAt id = .closedWithLoss ∧
        isTransitionAllowed (c.stateAt id) .closedWithLoss = true) := by
  unfold recoveryWriteOff at h
  obtain ⟨_, hrole, h⟩ := bind_eq_ok.mp h
  obtain ⟨_, -, h⟩ := bind_eq_ok.mp h
  obtain ⟨_, -, h⟩ := bind_eq_ok.mp h
  obtain ⟨c₁, hres, h⟩ := bind_eq_ok.mp h
  have hrep := applyReserveInternal_repaid hres
  obtain ⟨debt, -, h⟩ := bind_eq_ok.mp h
  refine ⟨by simpa using revertIf_eq_ok.mp hrole, ?_⟩
  split at h
  · exact .inl (hrep.trans (syncRepaid_repaid (m := m.calledBy d.recovery) h).1)
  · obtain ⟨pool, hpool, h⟩ := bind_eq_ok.mp h
    have hledger : pool.ledger = c₁.pool.ledger := VaultCall.exec_ledger (c := .writeOff id) hpool
    obtain ⟨htouch, hstate, hallow⟩ := recoveryTransition_touches (m := m.calledBy d.recovery) h
    refine .inr ⟨hrep.toTouches.trans (Touches.trans (Touches.of_untouched ?_) htouch), hstate, ?_⟩
    · exact ⟨rfl, congrArg Ledger.facilities hledger⟩
    · -- The reserve left the facility where it was: a repaid one has no edge to a loss.
      rcases hrep.state with hkept | ⟨hrepaid, -, -⟩
      · exact hkept ▸ hallow
      · change isTransitionAllowed (c₁.stateAt id) .closedWithLoss = true at hallow
        rw [hrepaid] at hallow
        cases hallow

end Credit

/-! ### Every call -/

/-- The calls that take a facility to `REPAID` when it owes nothing after them. -/
def CreditCall.Settles (id : FacilityId) : CreditCall → Prop
  | .manager (.syncRepaid i) | .manager (.repayFor i _) => i = id
  | .router (.repayFor i _) | .router (.repayExact i _) | .router (.allocate _ i _)
  | .router (.receiveSettlement i _ _) => i = id
  | .recovery (.cure i) | .recovery (.applyReserve i) | .recovery (.writeOff i _) => i = id
  | _ => False

/-- The calls that draw. -/
def ManagerCall.Draws : ManagerCall → Prop
  | .borrow _ _ _ | .executeReservedDraw _ _ => True
  | _ => False

/-- The calls that draw. -/
def CreditCall.Draws : CreditCall → Prop
  | .manager call => call.Draws
  | _ => False

/-- How a call takes the state of a facility to `target`, from the protocol `c` before it to
the protocol `c'` after it. -/
inductive StateChange (d : Deployment) (m : Msg) (id : FacilityId) (c c' : Credit) :
    CreditCall → FacilityState → Prop
  | same {call : CreditCall} : StateChange d m id c c' call (c.stateAt id)
  | opened {borrowerId : Bytes32} {wallet : Address} {terms : Terms}
      {controlAgreementId : Bytes32} {controlVersion : Nat} :
      (c.manager.facilities id).exists_ = false → m.hasRole .underwriter m.sender = true →
      StateChange d m id c c' (.manager (.openFacility id borrowerId wallet terms
        controlAgreementId controlVersion)) .draft
  | transition {target : FacilityState} : isTransitionAllowed (c.stateAt id) target = true →
      c.hasAuthority d m (c.stateAt id) target = true →
      (target = .repaid ∨ target = .released → (c'.account id).debtAt m.now = 0) →
      StateChange d m id c c' (.manager (.transition id target)) target
  | freezeDraws : c.stateAt id = .active → m.hasRole .guardian m.sender = true →
      StateChange d m id c c' (.manager (.freezeDraws id)) .drawFrozen
  | settled {call : CreditCall} : call.Settles id →
      Credit.FacilityState.syncs (c.stateAt id) = true → (c'.account id).debtAt m.now = 0 →
      StateChange d m id c c' call .repaid
  | markDelinquent : isTransitionAllowed (c.stateAt id) .delinquent = true →
      (c.account id).debtAt m.now ≠ 0 →
      StateChange d m id c c' (.recovery (.markDelinquent id)) .delinquent
  | cure : isTransitionAllowed (c.stateAt id) .active = true →
      (c.account id).debtAt m.now ≠ 0 →
      StateChange d m id c c' (.recovery (.cure id)) .active
  | declareDefault : isTransitionAllowed (c.stateAt id) .defaulted = true →
      m.hasRole .guardian m.sender = true → (c'.account id).frozen = true →
      StateChange d m id c c' (.recovery (.declareDefault id)) .defaulted
  | beginRecovery : isTransitionAllowed (c.stateAt id) .recovery = true →
      m.hasRole .servicer m.sender = true →
      StateChange d m id c c' (.recovery (.beginRecovery id)) .recovery
  | writeOff {lossId : Bytes32} : isTransitionAllowed (c.stateAt id) .closedWithLoss = true →
      m.hasRole .treasury m.sender = true →
      StateChange d m id c c' (.recovery (.writeOff id lossId)) .closedWithLoss

/-- What a call other than a draw does to a facility. -/
structure Serviced (d : Deployment) (m : Msg) (id : FacilityId) (call : CreditCall)
    (c c' : Credit) : Prop where
  account : Facility.Services m.now (c.account id) (c'.account id)
  known : (c.manager.facilities id).exists_ = true → (c'.manager.facilities id).exists_ = true
  moved : c'.stateAt id ≠ c.stateAt id →
    (c'.manager.facilities id).exists_ = true ∧ (c'.account id).exists_ = true
  change : StateChange d m id c c' call (c'.stateAt id)

namespace Credit

variable {d : Deployment} {reg : Registries} {m : Msg} {c c' : Credit} {id : FacilityId}
  {call : CreditCall}

theorem Untouched.serviced (h : Untouched c c') (id : FacilityId) :
    Serviced d m id call c c' := by
  have htouch : Touches m.now id c c' := .of_untouched h
  refine ⟨htouch.serviced, htouch.known, htouch.moved, ?_⟩
  have hstate : c'.stateAt id = c.stateAt id := by rw [stateAt, stateAt, h.facilities]
  rw [hstate]
  exact .same

/-- A call that touches the facility `i` services every facility, when it moves the state of
`i` as `StateChange` says. -/
theorem Touches.serviced_of {i : FacilityId} (h : Touches m.now i c c')
    (hchange : StateChange d m i c c' call (c'.stateAt i)) (id : FacilityId) :
    Serviced d m id call c c' := by
  by_cases hid : id = i
  · subst hid
    exact ⟨h.serviced, h.known, h.moved, hchange⟩
  · obtain ⟨hm, ha⟩ := h.others id hid
    have hstate : c'.stateAt id = c.stateAt id := by rw [stateAt, stateAt, hm]
    refine ⟨?_, fun hx => ?_, fun hne => absurd hstate hne, ?_⟩
    · rw [ha]
      exact .refl _
    · rw [hm]
      exact hx
    · rw [hstate]
      exact .same

theorem Repaid.serviced_of {i : FacilityId} (h : Repaid m.now i c c') (hcall : call.Settles i)
    (id : FacilityId) : Serviced d m id call c c' := by
  refine h.toTouches.serviced_of ?_ id
  rcases h.state with hkept | ⟨hrepaid, hsync, hzero⟩
  · rw [hkept]
    exact .same
  · rw [hrepaid]
    exact .settled hcall hsync hzero

end Credit

section
variable {d : Deployment} {reg : Registries} {m : Msg} {c c' : Credit} (hw : c.Wired d)
  (hs : m.sender ∉ d.contracts)
include hw hs

/-- An outsider writes nothing on a finalized ledger. -/
theorem LedgerCall.exec_outsider {call : LedgerCall} {l : Ledger}
    (h : call.exec m c.pool.ledger = .ok l) : False := by
  have hmodify : ∀ (i : FacilityId) (body : Facility → Except Revert Facility),
      c.pool.ledger.modifyFacility m i body = .ok l → False := by
    intro i body h
    unfold Ledger.modifyFacility at h
    obtain ⟨_, hwr, -⟩ := bind_eq_ok.mp h
    exact hs (hw.writer_mem (by simpa using revertIf_eq_ok.mp hwr))
  cases call with
  | setWriter writer enabled =>
    simp only [LedgerCall.exec, Ledger.setWriter] at h
    obtain ⟨_, -, h⟩ := bind_eq_ok.mp h
    obtain ⟨_, hnot, -⟩ := bind_eq_ok.mp h
    exact revertIf_eq_ok.mp hnot hw.pool.ledgerFinalized
  | finalizeWiring =>
    simp only [LedgerCall.exec, Ledger.finalizeWiring] at h
    obtain ⟨_, -, h⟩ := bind_eq_ok.mp h
    obtain ⟨_, hnot, -⟩ := bind_eq_ok.mp h
    exact revertIf_eq_ok.mp hnot hw.pool.ledgerFinalized
  | openFacility id terms =>
    simp only [LedgerCall.exec, Ledger.openFacility] at h
    obtain ⟨_, hwr, -⟩ := bind_eq_ok.mp h
    exact hs (hw.writer_mem (by simpa using revertIf_eq_ok.mp hwr))
  | setState id state => exact hmodify id (fun f => .ok { f with state := state }) h
  | accrue id => exact hmodify id _ h
  | setRate id rateBps => exact hmodify id _ h
  | recordDraw id amount => exact hmodify id _ h
  | recordFee id amount => exact hmodify id _ h
  | freezeAccrual id => exact hmodify id _ h
  | capitalize id => exact hmodify id _ h
  | allocate id received => exact LedgerCall.plain_of_outsider hw hs h

open Credit

theorem ExposureCall.exec_untouched {call : ExposureCall} (h : call.exec d reg m c = .ok c') :
    Untouched c c' := by
  cases call with
  | setManager manager enabled =>
    simp only [ExposureCall.exec, exposureSetManager] at h
    obtain ⟨_, -, h⟩ := bind_eq_ok.mp h
    obtain ⟨_, hnot, -⟩ := bind_eq_ok.mp h
    exact (revertIf_eq_ok.mp hnot hw.finalized).elim
  | finalizeWiring =>
    simp only [ExposureCall.exec, exposureFinalizeWiring] at h
    obtain ⟨_, -, h⟩ := bind_eq_ok.mp h
    obtain ⟨_, hnot, -⟩ := bind_eq_ok.mp h
    exact (revertIf_eq_ok.mp hnot hw.finalized).elim
  | enrollFacility id groupId =>
    simp only [ExposureCall.exec, Credit.enrollFacility] at h
    obtain ⟨_, -, h⟩ := bind_eq_ok.mp h
    obtain ⟨_, -, h⟩ := bind_eq_ok.mp h
    obtain ⟨_, -, h⟩ := bind_eq_ok.mp h
    obtain ⟨_, -, h⟩ := bind_eq_ok.mp h
    obtain ⟨_, -, h⟩ := bind_eq_ok.mp h
    obtain rfl := pure_eq_ok.mp h
    exact ⟨rfl, rfl⟩
  | setAuthorization id limit policy agreement version validUntil =>
    simp only [ExposureCall.exec, Credit.setAuthorization] at h
    obtain ⟨_, -, h⟩ := bind_eq_ok.mp h
    obtain ⟨_, -, h⟩ := bind_eq_ok.mp h
    obtain ⟨_, -, h⟩ := bind_eq_ok.mp h
    obtain ⟨_, -, h⟩ := bind_eq_ok.mp h
    obtain ⟨_, -, h⟩ := bind_eq_ok.mp h
    obtain ⟨epoch, -, h⟩ := bind_eq_ok.mp h
    obtain rfl := pure_eq_ok.mp h
    exact ⟨rfl, rfl⟩
  | reserve id amount approvalNonce expiresAt =>
    obtain ⟨⟨rid, q⟩, hc, rfl⟩ := map_eq_ok.mp h
    obtain ⟨_, _, _, -, rfl⟩ := reserve_ok hc
    exact ⟨rfl, rfl⟩
  | consumeReservation rid => exact absurd (hw.exposure_mem (consumeReservation_ok h).1) hs
  | cancelReservation rid =>
    simp only [ExposureCall.exec, Credit.cancelReservation] at h
    obtain ⟨_, -, h⟩ := bind_eq_ok.mp h
    exact releaseReservation_untouched h
  | expireReservation rid =>
    simp only [ExposureCall.exec, Credit.expireReservation] at h
    obtain ⟨_, -, h⟩ := bind_eq_ok.mp h
    exact releaseReservation_untouched h

theorem ManagerCall.exec_serviced {call : ManagerCall} (hnot : ¬call.Draws)
    (h : call.exec d reg m c = .ok c') (id : FacilityId) :
    Serviced d m id (.manager call) c c' := by
  cases call with
  | openFacility i borrowerId wallet terms controlAgreementId controlVersion =>
    obtain ⟨htouch, hstate, hnew, hrole⟩ := openFacility_touches h
    exact htouch.serviced_of (hstate ▸ .opened hnew hrole) id
  | transition i target =>
    obtain ⟨htouch, hstate, hallow, hauth, hdebt⟩ := transition_touches h
    exact htouch.serviced_of (by rw [hstate]; exact .transition hallow hauth hdebt) id
  | freezeDraws i =>
    obtain ⟨htouch, hstate, hactive, hrole⟩ := freezeDraws_touches h
    exact htouch.serviced_of (hstate ▸ .freezeDraws hactive hrole) id
  | pauseDraws paused =>
    simp only [ManagerCall.exec, Credit.pauseDraws] at h
    obtain ⟨_, -, h⟩ := bind_eq_ok.mp h
    obtain ⟨_, -, h⟩ := bind_eq_ok.mp h
    obtain rfl := pure_eq_ok.mp h
    exact Untouched.serviced (by exact ⟨rfl, rfl⟩) id
  | approveDrawResume =>
    simp only [ManagerCall.exec, Credit.approveDrawResume] at h
    obtain ⟨_, -, h⟩ := bind_eq_ok.mp h
    obtain rfl := pure_eq_ok.mp h
    exact Untouched.serviced (by exact ⟨rfl, rfl⟩) id
  | bindRecoveryManager manager =>
    simp only [ManagerCall.exec, managerBindRecovery] at h
    obtain ⟨_, -, h⟩ := bind_eq_ok.mp h
    obtain ⟨_, -, h⟩ := bind_eq_ok.mp h
    obtain ⟨_, -, h⟩ := bind_eq_ok.mp h
    obtain rfl := pure_eq_ok.mp h
    exact Untouched.serviced (by exact ⟨rfl, rfl⟩) id
  | syncRepaid i => exact (syncRepaid_repaid h).1.serviced_of (by rfl) id
  | recoveryTransition i target =>
    have hsender := (recoveryTransition_ok h).1.trans hw.recovery
    exact absurd (by simp [Deployment.contracts, hsender]) hs
  | anchorAuthorization auth approval =>
    simp only [ManagerCall.exec, Credit.anchorAuthorization] at h
    obtain ⟨_, -, h⟩ := bind_eq_ok.mp h
    obtain ⟨_, -, h⟩ := bind_eq_ok.mp h
    obtain ⟨_, -, h⟩ := bind_eq_ok.mp h
    obtain ⟨_, -, h⟩ := bind_eq_ok.mp h
    obtain ⟨_, -, h⟩ := bind_eq_ok.mp h
    obtain ⟨_, -, h⟩ := bind_eq_ok.mp h
    obtain ⟨_, -, h⟩ := bind_eq_ok.mp h
    obtain ⟨_, -, h⟩ := bind_eq_ok.mp h
    obtain ⟨_, -, h⟩ := bind_eq_ok.mp h
    obtain rfl := pure_eq_ok.mp h
    exact Untouched.serviced (by exact ⟨rfl, rfl⟩) id
  | borrow i amount minReceived => exact absurd trivial hnot
  | reserveDraw i amount ttl =>
    obtain ⟨⟨rid, q⟩, hc, rfl⟩ := map_eq_ok.mp h
    unfold Credit.reserveDraw at hc
    obtain ⟨_, -, hc⟩ := bind_eq_ok.mp hc
    obtain ⟨_, -, hc⟩ := bind_eq_ok.mp hc
    exact (reserveInternal_untouched hc).1.serviced id
  | executeReservedDraw rid minReceived => exact absurd trivial hnot
  | repayFor i amount =>
    obtain ⟨⟨r, q⟩, hc, rfl⟩ := map_eq_ok.mp h
    exact (managerRepayFor_repaid hc).1.serviced_of (by rfl) id
  | claimRefund i =>
    simp only [ManagerCall.exec, Credit.claimRefund] at h
    obtain ⟨_, -, h⟩ := bind_eq_ok.mp h
    obtain ⟨_, -, h⟩ := bind_eq_ok.mp h
    obtain ⟨_, -, h⟩ := bind_eq_ok.mp h
    obtain ⟨pool, hpool, h⟩ := bind_eq_ok.mp h
    obtain rfl := pure_eq_ok.mp h
    have hledger := VaultCall.exec_ledger (c := .refundExcess _ _ _) hpool
    have hsame : Untouched c { c with pool := pool } := ⟨rfl, congrArg Ledger.facilities hledger⟩
    exact hsame.serviced id

omit hw hs in
theorem RouterCall.exec_serviced {call : RouterCall} (h : call.exec d m c = .ok c')
    (id : FacilityId) : Serviced d m id (.router call) c c' := by
  cases call with
  | repayFor i amount =>
    obtain ⟨⟨r, q⟩, hc, rfl⟩ := map_eq_ok.mp h
    exact (routerRepayFor_repaid hc).serviced_of (by rfl) id
  | repayExact i maxAmount =>
    obtain ⟨⟨r, q⟩, hc, rfl⟩ := map_eq_ok.mp h
    exact (repayExact_repaid hc).serviced_of (by rfl) id
  | recordDestinationReceipt settlementId amount =>
    simp only [RouterCall.exec, Credit.recordDestinationReceipt] at h
    obtain ⟨_, -, h⟩ := bind_eq_ok.mp h
    obtain ⟨⟨got, q⟩, hc, h⟩ := bind_eq_ok.mp h
    obtain rfl := pure_eq_ok.mp h
    exact (recordReceipt_untouched hc).serviced id
  | allocate settlementId i amount =>
    obtain ⟨⟨r, q⟩, hc, rfl⟩ := map_eq_ok.mp h
    unfold allocateSettlement at hc
    obtain ⟨_, -, hc⟩ := bind_eq_ok.mp hc
    exact (allocateFromReceipt_repaid hc).serviced_of (by rfl) id
  | receiveSettlement i settlementId amount =>
    obtain ⟨⟨r, q⟩, hc, rfl⟩ := map_eq_ok.mp h
    unfold Credit.receiveSettlement at hc
    obtain ⟨_, -, hc⟩ := bind_eq_ok.mp hc
    obtain ⟨⟨got, c₁⟩, hrec, hc⟩ := bind_eq_ok.mp hc
    have hstart : Repaid m.now i c c₁ := .of_untouched (recordReceipt_untouched hrec)
    exact (hstart.trans (allocateFromReceipt_repaid hc)).serviced_of (by rfl) id
  | refundExcess i dst =>
    simp only [RouterCall.exec, routerRefundExcess] at h
    obtain ⟨wallet, -, h⟩ := bind_eq_ok.mp h
    obtain ⟨_, -, h⟩ := bind_eq_ok.mp h
    obtain ⟨_, -, h⟩ := bind_eq_ok.mp h
    obtain ⟨_, -, h⟩ := bind_eq_ok.mp h
    obtain ⟨pool, hpool, h⟩ := bind_eq_ok.mp h
    obtain rfl := pure_eq_ok.mp h
    have hledger := VaultCall.exec_ledger (c := .refundExcess _ _ _) hpool
    have hsame : Untouched c { c with pool := pool } := ⟨rfl, congrArg Ledger.facilities hledger⟩
    exact hsame.serviced id

omit hw in
theorem RecoveryCall.exec_serviced {call : RecoveryCall} (h : call.exec d reg m c = .ok c')
    (id : FacilityId) : Serviced d m id (.recovery call) c c' := by
  cases call with
  | setSchedule i dueAt grace disputeWindow dueAmount =>
    simp only [RecoveryCall.exec, Credit.setSchedule] at h
    obtain ⟨_, -, h⟩ := bind_eq_ok.mp h
    obtain ⟨_, -, h⟩ := bind_eq_ok.mp h
    obtain ⟨_, -, h⟩ := bind_eq_ok.mp h
    obtain ⟨_, -, h⟩ := bind_eq_ok.mp h
    obtain ⟨_, -, h⟩ := bind_eq_ok.mp h
    obtain ⟨_, -, h⟩ := bind_eq_ok.mp h
    obtain rfl := pure_eq_ok.mp h
    exact (setScheduleOf_untouched _).serviced id
  | observeAllocation i amount =>
    rcases (observeAllocation_ok h).1 with hsender | hsender
    · exact absurd (by simp [Deployment.contracts, hsender]) hs
    · exact absurd (by simp [Deployment.contracts, hsender]) hs
  | markDelinquent i =>
    obtain ⟨htouch, hstate, hallow, hdebt⟩ := markDelinquent_touches h
    exact htouch.serviced_of (by rw [hstate]; exact .markDelinquent hallow hdebt) id
  | cure i =>
    rcases cure_touches h with ⟨hrep, -⟩ | ⟨htouch, hdebt, hstate, hallow⟩
    · exact hrep.serviced_of (by rfl) id
    · exact htouch.serviced_of (by rw [hstate]; exact .cure hallow hdebt) id
  | setDispute i disputed =>
    simp only [RecoveryCall.exec, Credit.setDispute] at h
    obtain ⟨_, -, h⟩ := bind_eq_ok.mp h
    obtain ⟨_, -, h⟩ := bind_eq_ok.mp h
    obtain rfl := pure_eq_ok.mp h
    exact (setScheduleOf_untouched _).serviced id
  | approveDefault i reason =>
    simp only [RecoveryCall.exec, Credit.approveDefault] at h
    obtain ⟨_, -, h⟩ := bind_eq_ok.mp h
    obtain ⟨_, -, h⟩ := bind_eq_ok.mp h
    obtain ⟨_, -, h⟩ := bind_eq_ok.mp h
    obtain rfl := pure_eq_ok.mp h
    exact (setScheduleOf_untouched _).serviced id
  | declareDefault i =>
    obtain ⟨htouch, hstate, hallow, hrole, hfrozen⟩ := declareDefault_touches h
    exact htouch.serviced_of (by rw [hstate]; exact .declareDefault hallow hrole hfrozen) id
  | beginRecovery i =>
    obtain ⟨htouch, hstate, hallow, hrole⟩ := beginRecovery_touches h
    exact htouch.serviced_of (by rw [hstate]; exact .beginRecovery hallow hrole) id
  | fundReserve i amount =>
    simp only [RecoveryCall.exec, Credit.fundReserve] at h
    obtain ⟨_, -, h⟩ := bind_eq_ok.mp h
    obtain ⟨_, -, h⟩ := bind_eq_ok.mp h
    split at h
    · cases h
    · obtain ⟨_, -, h⟩ := bind_eq_ok.mp h
      obtain ⟨_, -, h⟩ := bind_eq_ok.mp h
      obtain ⟨_, -, h⟩ := bind_eq_ok.mp h
      obtain rfl := pure_eq_ok.mp h
      exact Untouched.serviced (by exact ⟨rfl, rfl⟩) id
  | applyReserve i =>
    simp only [RecoveryCall.exec, Credit.applyReserve] at h
    obtain ⟨_, -, h⟩ := bind_eq_ok.mp h
    exact (applyReserveInternal_repaid h).serviced_of (by rfl) id
  | returnReserve i =>
    simp only [RecoveryCall.exec, Credit.returnReserve] at h
    obtain ⟨_, -, h⟩ := bind_eq_ok.mp h
    obtain ⟨_, -, h⟩ := bind_eq_ok.mp h
    obtain ⟨_, -, h⟩ := bind_eq_ok.mp h
    split at h
    · cases h
    · obtain rfl := pure_eq_ok.mp h
      exact Untouched.serviced (by exact ⟨rfl, rfl⟩) id
  | impair i lossId amount =>
    simp only [RecoveryCall.exec, Credit.impair] at h
    obtain ⟨_, -, h⟩ := bind_eq_ok.mp h
    obtain ⟨_, -, h⟩ := bind_eq_ok.mp h
    obtain ⟨pool, hpool, h⟩ := bind_eq_ok.mp h
    obtain rfl := pure_eq_ok.mp h
    have hledger := VaultCall.exec_ledger (c := .recognizeImpairment _ _) hpool
    exact Untouched.serviced (by exact ⟨rfl, congrArg Ledger.facilities hledger⟩) id
  | reverseImpairment i amount =>
    simp only [RecoveryCall.exec, recoveryReverseImpairment] at h
    obtain ⟨_, -, h⟩ := bind_eq_ok.mp h
    obtain ⟨pool, hpool, h⟩ := bind_eq_ok.mp h
    obtain rfl := pure_eq_ok.mp h
    have hledger := VaultCall.exec_ledger (c := .reverseImpairment _ _) hpool
    exact Untouched.serviced (by exact ⟨rfl, congrArg Ledger.facilities hledger⟩) id
  | approveWriteOff i lossId =>
    simp only [RecoveryCall.exec, Credit.approveWriteOff] at h
    obtain ⟨_, -, h⟩ := bind_eq_ok.mp h
    obtain ⟨_, -, h⟩ := bind_eq_ok.mp h
    obtain ⟨_, -, h⟩ := bind_eq_ok.mp h
    obtain ⟨_, -, h⟩ := bind_eq_ok.mp h
    obtain rfl := pure_eq_ok.mp h
    exact (setScheduleOf_untouched _).serviced id
  | writeOff i lossId =>
    obtain ⟨hrole, hrep | ⟨htouch, hstate, hallow⟩⟩ := recoveryWriteOff_touches h
    · exact hrep.serviced_of (by rfl) id
    · exact htouch.serviced_of (by rw [hstate]; exact .writeOff hallow hrole) id

/-- Every call by an outsider that does not draw services every facility. -/
theorem CreditCall.exec_serviced {call : CreditCall} (hnot : ¬call.Draws)
    (h : call.exec d reg m c = .ok c') (id : FacilityId) : Serviced d m id call c c' := by
  cases call with
  | vault call =>
    obtain ⟨p, hp, rfl⟩ := map_eq_ok.mp h
    have hledger := VaultCall.exec_ledger hp
    exact Untouched.serviced (by exact ⟨rfl, congrArg Ledger.facilities hledger⟩) id
  | ledger call =>
    obtain ⟨l, hl, rfl⟩ := map_eq_ok.mp h
    exact (LedgerCall.exec_outsider hw hs hl).elim
  | token call =>
    obtain ⟨t, -, rfl⟩ := map_eq_ok.mp h
    exact Untouched.serviced (by exact ⟨rfl, rfl⟩) id
  | exposure call => exact (ExposureCall.exec_untouched hw hs h).serviced id
  | manager call => exact ManagerCall.exec_serviced hw hs hnot h id
  | router call => exact RouterCall.exec_serviced h id
  | recovery call => exact RecoveryCall.exec_serviced hs h id

/-- Every call by an outsider is a draw or services every facility. -/
theorem CreditCall.exec_outcome {call : CreditCall} (h : call.exec d reg m c = .ok c') :
    (∃ i, Drawn m.now i c c') ∨ ∀ id, Serviced d m id call c c' := by
  by_cases hdraws : call.Draws
  · cases call with
    | manager call =>
      cases call with
      | borrow i amount minReceived => exact .inl ⟨i, (borrow_drawn hw.paired h).1⟩
      | executeReservedDraw rid minReceived =>
        exact .inl ⟨_, (executeInternal_drawn hw.paired h).1⟩
      | _ => exact hdraws.elim
    | _ => exact hdraws.elim
  · exact .inr (CreditCall.exec_serviced hw hs hdraws h)

end

/-- The outcome of a transaction of the protocol. -/
theorem CreditStep.outcome {d : Deployment} {s s' : CreditState} {tx : Tx} (hi : s.Inv d)
    (h : CreditStep d s tx s') :
    (∃ i, Credit.Drawn tx.msg.now i s.credit s'.credit) ∨
      ∀ id, Serviced d tx.msg id tx.call s.credit s'.credit :=
  CreditCall.exec_outcome hi.wired h.2.1 h.2.2.1

end Rackline
