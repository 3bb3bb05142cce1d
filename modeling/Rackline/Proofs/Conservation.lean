import Rackline.Proofs.CreditInvariant

/-!
# `Rackline.Proofs.Conservation`: lending and repayment conserve the NAV

A draw turns cash into debt of the same amount. A repayment turns debt into cash, with three
regimes: on a performing facility the two cancel and the NAV moves by the released allowance;
on a facility written off in the current epoch the debt was already out of the NAV, so the cash
is a gain; on one written off in a closed epoch the cash goes to that epoch's holders. The
excess is the borrower's in all of them.

The regimes are those of the vault only if a written-off facility carries the epoch of its
write-off, which is the small invariant `Epochs`.
-/

set_option autoImplicit false

namespace Rackline

open Evm Transition Finset

/-! ### Write-off epochs -/

/-- A written-off facility carries an epoch that has begun. -/
structure Pool.Epochs (p : Pool) : Prop where
  current : p.vault.currentEpoch ≠ 0
  writeOff : ∀ id, p.vault.isWrittenOff id = true →
    p.vault.writeOffEpoch id ≠ 0 ∧ p.vault.writeOffEpoch id ≤ p.vault.currentEpoch

/-- The epoch, the write-offs and the latch are as before. -/
structure Pool.SameEpoch (p p' : Pool) : Prop where
  currentEpoch : p'.vault.currentEpoch = p.vault.currentEpoch
  writeOffEpoch : p'.vault.writeOffEpoch = p.vault.writeOffEpoch
  isWrittenOff : p'.vault.isWrittenOff = p.vault.isWrittenOff
  latch : p'.vault.epochRolloverRequired = p.vault.epochRolloverRequired

theorem Pool.SameEpoch.refl (p : Pool) : p.SameEpoch p := ⟨rfl, rfl, rfl, rfl⟩

theorem Pool.SameEpoch.trans {p q r : Pool} (h : p.SameEpoch q) (h' : q.SameEpoch r) :
    p.SameEpoch r :=
  ⟨h'.currentEpoch.trans h.currentEpoch, h'.writeOffEpoch.trans h.writeOffEpoch,
    h'.isWrittenOff.trans h.isWrittenOff, h'.latch.trans h.latch⟩

theorem Pool.HeadStep.sameEpoch_skip {now : Nat} {p p' : Pool}
    (h : Pool.HeadStep now p (.skip p')) : p.SameEpoch p' := by
  cases h with
  | passed => exact ⟨rfl, rfl, rfl, rfl⟩
  | expired => exact ⟨rfl, rfl, rfl, rfl⟩

theorem Pool.HeadStep.sameEpoch_filled {now id shares assets : Nat} {whole : Bool} {p p' : Pool}
    (h : Pool.HeadStep now p (.filled id shares assets p' whole)) : p.SameEpoch p' := by
  cases h with
  | whole => exact ⟨rfl, rfl, rfl, rfl⟩
  | part => exact ⟨rfl, rfl, rfl, rfl⟩

open Pool in
/-- Only the rollover and the write-off touch the epoch, the write-offs and the latch. -/
theorem VaultCall.exec_epoch {m : Msg} {p p' : Pool} {c : VaultCall} (h : c.exec m p = .ok p') :
    p.SameEpoch p' ∨ c = .rollLossEpoch ∨ ∃ id, c = .writeOff id := by
  cases c with
  | setManager manager enabled =>
    obtain ⟨_, _, _, _, rfl⟩ := setManager_ok h
    exact .inl ⟨rfl, rfl, rfl, rfl⟩
  | finalizeWiring =>
    obtain ⟨_, _, _, _, rfl⟩ := finalizeWiring_ok h
    exact .inl ⟨rfl, rfl, rfl, rfl⟩
  | bindRecoveryManager manager =>
    obtain ⟨_, _, _, _, rfl⟩ := bindRecoveryManager_ok h
    exact .inl ⟨rfl, rfl, rfl, rfl⟩
  | setDepositsPaused paused =>
    obtain ⟨_, _, _, _, rfl⟩ := setDepositsPaused_ok h
    exact .inl ⟨rfl, rfl, rfl, rfl⟩
  | deposit assets minShares =>
    obtain ⟨⟨shares, q⟩, hc, rfl⟩ := map_eq_ok.mp h
    obtain ⟨-, -, -, -, token, -, rfl⟩ := deposit_ok hc
    exact .inl ⟨rfl, rfl, rfl, rfl⟩
  | withdraw shares minAssets =>
    obtain ⟨⟨assets, q⟩, hc, rfl⟩ := map_eq_ok.mp h
    obtain ⟨-, -, -, -, -, -, -, -, token, -, rfl⟩ := withdraw_ok hc
    exact .inl ⟨rfl, rfl, rfl, rfl⟩
  | requestWithdrawal shares minAssets =>
    obtain ⟨⟨id, q⟩, hc, rfl⟩ := map_eq_ok.mp h
    obtain ⟨-, -, -, -, rfl⟩ := requestWithdrawal_ok hc
    exact .inl ⟨rfl, rfl, rfl, rfl⟩
  | cancelWithdrawal id =>
    obtain ⟨-, rfl⟩ := cancelWithdrawal_ok h
    exact .inl ⟨rfl, rfl, rfl, rfl⟩
  | processWithdrawals maxRequests =>
    obtain ⟨⟨filled, reserved, q⟩, hc, rfl⟩ := map_eq_ok.mp h
    obtain ⟨-, hloop⟩ := processWithdrawals_ok hc
    refine .inl (processLoop_invariant (P := fun _ => p.SameEpoch) ?_ ?_ hloop
      ⟨rfl, rfl, rfl, rfl⟩)
    · exact fun _ _ _ hq _ hstep => hq.trans hstep.sameEpoch_skip
    · exact fun _ _ _ _ _ _ _ hq _ hstep => hq.trans hstep.sameEpoch_filled
  | claimWithdrawal id =>
    obtain ⟨⟨assets, q⟩, hc, rfl⟩ := map_eq_ok.mp h
    obtain ⟨-, -, token, -, rfl⟩ := claimWithdrawal_ok hc
    exact .inl ⟨rfl, rfl, rfl, rfl⟩
  | rollLossEpoch => exact .inr (.inl rfl)
  | claimEpochRecovery epoch =>
    obtain ⟨⟨assets, q⟩, hc, rfl⟩ := map_eq_ok.mp h
    obtain ⟨-, -, -, token, -, rfl⟩ := claimEpochRecovery_ok hc
    exact .inl ⟨rfl, rfl, rfl, rfl⟩
  | lend id dst amount =>
    obtain ⟨-, -, -, token, -, rfl⟩ := lend_ok h
    exact .inl ⟨rfl, rfl, rfl, rfl⟩
  | onRepayment id result =>
    obtain ⟨-, -, -, -, -, rfl⟩ := onRepayment_ok h
    exact .inl ⟨rfl, rfl, rfl, rfl⟩
  | refundExcess id dst amount =>
    obtain ⟨-, -, token, -, rfl⟩ := refundExcess_ok h
    exact .inl ⟨rfl, rfl, rfl, rfl⟩
  | recordRecovery id amount =>
    obtain ⟨-, -, -, rfl⟩ := recordRecovery_ok h
    exact .inl ⟨rfl, rfl, rfl, rfl⟩
  | recognizeImpairment id amount =>
    obtain ⟨-, -, rfl⟩ := recognizeImpairment_ok h
    exact .inl ⟨rfl, rfl, rfl, rfl⟩
  | reverseImpairment id amount =>
    obtain ⟨-, -, rfl⟩ := reverseImpairment_ok h
    exact .inl ⟨rfl, rfl, rfl, rfl⟩
  | writeOff id => exact .inr (.inr ⟨id, rfl⟩)
  | approve spender amount =>
    cases h
    exact .inl ⟨rfl, rfl, rfl, rfl⟩
  | transfer dst amount =>
    obtain ⟨-, rfl⟩ := transferShares_ok h
    exact .inl ⟨rfl, rfl, rfl, rfl⟩
  | transferFrom src dst amount =>
    obtain ⟨-, allowances, rfl⟩ := transferFrom_ok h
    exact .inl ⟨rfl, rfl, rfl, rfl⟩

namespace Pool

variable {p p' : Pool} {m : Msg} {now : Nat} {id : FacilityId}

theorem Epochs.keep (h : p.Epochs) (hs : p.SameEpoch p') : p'.Epochs := by
  refine ⟨hs.currentEpoch ▸ h.current, fun id hid => ?_⟩
  rw [hs.writeOffEpoch, hs.currentEpoch]
  exact h.writeOff id (hs.isWrittenOff ▸ hid)

theorem Epochs.exec (h : p.Epochs) {c : VaultCall} (hc : c.exec m p = .ok p') : p'.Epochs := by
  rcases VaultCall.exec_epoch hc with hs | rfl | ⟨id, rfl⟩
  · exact h.keep hs
  · obtain ⟨-, residual, -, -, rfl⟩ := rollLossEpoch_ok hc
    refine ⟨Nat.succ_ne_zero _, fun id hid => ?_⟩
    obtain ⟨hz, hle⟩ := h.writeOff id hid
    exact ⟨hz, Nat.le_succ_of_le hle⟩
  · obtain ⟨-, -, -, lost, -, rfl⟩ := writeOff_ok hc
    refine ⟨h.current, fun i hi => ?_⟩
    by_cases hid : i = id
    · subst hid
      simpa [markWrittenOff, latch] using h.current
    · simp only [markWrittenOff, latch, Function.update_of_ne hid] at hi ⊢
      exact h.writeOff i hi

theorem repay_sameEpoch {received requested : Nat} {r : RepayResult}
    (h : p.repay m id received requested = .ok (r, p')) : p.SameEpoch p' := by
  obtain ⟨split, ledger, -, rfl, hrepay⟩ := repay_ok h
  obtain ⟨-, -, -, -, -, rfl⟩ := onRepayment_ok hrepay
  exact ⟨rfl, rfl, rfl, rfl⟩

end Pool

/-- Write-off epochs are in order in every state of every run. -/
theorem PoolReachable.epochs {s : PoolState} (h : PoolReachable s) : s.pool.Epochs := by
  refine Reachable.invariant (P := fun s => s.pool.Epochs) (fun s hinit => ?_)
    (fun s a s' he hstep => ?_) h
  · obtain ⟨-, hv, -⟩ := hinit
    refine ⟨by rw [hv]; simp [Vault.initial], fun id hid => ?_⟩
    rw [hv] at hid
    simp [Vault.initial] at hid
  · obtain ⟨m, c⟩ := a
    obtain ⟨-, -, hexec, -⟩ := hstep
    cases c with
    | vault c => exact he.exec hexec
    | ledger c =>
      obtain ⟨l, -, hp⟩ := map_eq_ok.mp hexec
      exact hp ▸ he.keep ⟨rfl, rfl, rfl, rfl⟩
    | token c =>
      obtain ⟨t, -, hp⟩ := map_eq_ok.mp hexec
      exact hp ▸ he.keep ⟨rfl, rfl, rfl, rfl⟩
    | repay id received requested =>
      obtain ⟨⟨r, q⟩, hq, hp⟩ := map_eq_ok.mp hexec
      exact hp ▸ he.keep (Pool.repay_sameEpoch hq)

theorem CoupledBy.epochs {now : Nat} {p : Pool} (h : CoupledBy now p) : p.Epochs := by
  obtain ⟨t, -, hreach⟩ := h
  exact hreach.reachable.epochs

/-! ### The performing debt -/

namespace Pool

variable {p p' : Pool} {m : Msg} {now : Nat} {id : FacilityId} {l : Ledger}

/-- The debt of one performing facility changed. -/
theorem performingDebt_performing {t : Nat} (hids : l.ids = p.ledger.ids)
    (hother : ∀ i, i ≠ id → l.facilities i = p.ledger.facilities i) (hin : id ∈ p.ledger.ids)
    (hw : p.vault.isWrittenOff id = false) :
    performingDebt { p with ledger := l } t + p.ledger.debtAt id t =
      p.performingDebt t + l.debtAt id t := by
  have hset : performing { p with ledger := l } = p.performing := by
    simp only [performing, hids]
  unfold performingDebt
  rw [hset]
  refine Total.sum_add_eq (s := p.performing) (i := id) (f := fun i => p.ledger.debtAt i t)
    (g := fun i => l.debtAt i t) (by simp [performing, hin, hw]) fun i hi => ?_
  simp only [Ledger.debtAt, hother i hi]

/-- The debt of a written-off facility does not count. -/
theorem performingDebt_writtenOff {t : Nat} (hids : l.ids = p.ledger.ids)
    (hother : ∀ i, i ≠ id → l.facilities i = p.ledger.facilities i)
    (hw : p.vault.isWrittenOff id = true) :
    performingDebt { p with ledger := l } t = p.performingDebt t := by
  have hset : performing { p with ledger := l } = p.performing := by
    simp only [performing, hids]
  unfold performingDebt
  rw [hset]
  refine sum_congr rfl fun i hi => ?_
  have hne : i ≠ id := by
    rintro rfl
    have := (mem_filter.mp hi).2
    rw [hw] at this
    cases this
  simp only [Ledger.debtAt, hother i hne]

/-- The mirror of the facility state is no debt. -/
theorem performingDebt_setState {t : Nat} {state : FacilityState}
    (h : p.ledger.setState m id state = .ok l) :
    performingDebt { p with ledger := l } t = p.performingDebt t := by
  obtain ⟨-, f, hf, rfl⟩ := Ledger.modifyFacility_ok h
  cases hf
  refine sum_congr rfl fun i _ => ?_
  by_cases hi : i = id
  · subst hi
    simp only [Ledger.debtAt, Function.update_self]
    rfl
  · simp only [Ledger.debtAt, Function.update_of_ne hi]

/-! ### Draws and repayments -/

/-- The NAV and what it leaves out add up to the cash and the performing debt: nothing is
clamped. -/
def NavExact (now : Nat) (p : Pool) : Prop :=
  p.exactNav now + (p.vault.liabilities + p.vault.totalImpairment) =
    p.cashBalance + p.performingDebt now

/-- Bookkeeping that moves no part of the NAV moves neither the NAV nor its exactness. -/
theorem NavExact.keep (h : NavExact now p) (hcash : p'.cashBalance = p.cashBalance)
    (hv : p'.vault = p.vault) (hperf : p'.performingDebt now = p.performingDebt now) :
    NavExact now p' ∧ p'.exactNav now = p.exactNav now := by
  have heq : p'.exactNav now = p.exactNav now := by
    unfold exactNav
    rw [hcash, hperf, hv]
  refine ⟨?_, heq⟩
  unfold NavExact
  rw [heq, hcash, hperf, hv]
  exact h

/-- The NAV after a call, from what the call did to each of its parts. -/
theorem NavExact.of (h' : NavExact now p') (cash liabilities impairment performing : Nat)
    (hcash : p'.cashBalance = cash) (hliab : p'.vault.liabilities = liabilities)
    (himp : p'.vault.totalImpairment = impairment)
    (hperf : p'.performingDebt now = performing) :
    p'.exactNav now + (liabilities + impairment) = cash + performing := by
  rw [← hcash, ← hliab, ← himp, ← hperf]
  exact h'

/-- A draw turns cash into debt. -/
theorem Sound.draw {m' : Msg} (h : Sound m.now p) (h' : Sound m.now p') {wallet : Address}
    {amount : Nat} (hdraw : p.ledger.recordDraw m id amount = .ok l)
    (hlend : lend m' id wallet amount { p with ledger := l } = .ok p') :
    p'.exactNav m.now = p.exactNav m.now := by
  obtain ⟨hopen, hids, hother, hdebt⟩ := Ledger.recordDraw_ok hdraw
  obtain ⟨-, hw, -, token, hpaid, hp'⟩ := lend_ok hlend
  have hin := (h.losses.ledger.mem_iff id).mpr hopen
  have hperf := performingDebt_performing (t := m.now) hids hother hin hw
  have hbefore := h.exactNav_add
  have hafter := NavExact.of h'.exactNav_add (token.balanceOf p.vault.self) p.vault.liabilities
    p.vault.totalImpairment (performingDebt { p with ledger := l } m.now) (by rw [hp']; rfl)
    (by rw [hp']; rfl) (by rw [hp']) (by rw [hp']; rfl)
  have hcash : token.balanceOf p.vault.self + amount = p.cashBalance := hpaid.self
  omega

/-- What a recorded repayment does to the vault, in one place: the excess is the borrower's, the
rest moves the NAV by the regime of the facility. -/
structure RepaidNav (id : FacilityId) (r : RepayResult) (now : Nat) (p p' : Pool) : Prop where
  excess : p'.vault.refundableOf id = p.vault.refundableOf id + r.excess
  others : ∀ i, i ≠ id → p'.vault.refundableOf i = p.vault.refundableOf i ∧
    p'.vault.impairmentOf i = p.vault.impairmentOf i
  released : p'.vault.impairmentOf id ≤ p.vault.impairmentOf id
  allowances : p'.vault.totalImpairment + (p.vault.impairmentOf id - p'.vault.impairmentOf id) =
    p.vault.totalImpairment
  performing : p.vault.isWrittenOff id = false →
    p'.exactNav now = p.exactNav now + (p.vault.impairmentOf id - p'.vault.impairmentOf id)
  currentEpoch : p.vault.isWrittenOff id = true →
    p.vault.writeOffEpoch id = p.vault.currentEpoch →
      p'.exactNav now = p.exactNav now + r.applied
  closedEpoch : p.vault.isWrittenOff id = true →
    p.vault.writeOffEpoch id < p.vault.currentEpoch →
      p'.exactNav now = p.exactNav now ∧
      p'.vault.totalRecoveryReserved = p.vault.totalRecoveryReserved + r.applied

/-- Bookkeeping that moves no value keeps what a repayment did. -/
theorem RepaidNav.keep {q : Pool} {r : RepayResult} (h : RepaidNav id r now p q)
    (hv : p'.vault = q.vault) (hnav : p'.exactNav now = q.exactNav now) :
    RepaidNav id r now p p' := by
  refine ⟨hv ▸ h.excess, hv ▸ h.others, hv ▸ h.released, hv ▸ h.allowances, fun hw => ?_, fun hw he => ?_,
    fun hw he => ?_⟩
  · rw [hnav, hv]
    exact h.performing hw
  · rw [hnav]
    exact h.currentEpoch hw he
  · rw [hnav, hv]
    exact h.closedEpoch hw he

/-- The repayment pair, on cash that has just arrived. -/
theorem NavExact.repaid (hx : NavExact m.now p) (hl : Losses m.now p) (he : p.Epochs)
    {token : Token Address} {got requested : Nat} {r : RepayResult}
    (harr : token.balanceOf p.vault.self = p.cashBalance + got)
    (hrepay : repay m id got requested { p with token := token } = .ok (r, p'))
    (hx' : NavExact m.now p') : RepaidNav id r m.now p p' := by
  obtain ⟨split, ledger, halloc, rfl, hon⟩ := repay_ok hrepay
  obtain ⟨hopen, -, -, hsplit, -, -, hfall, hother, hids, -⟩ := Ledger.allocate_ok halloc
  obtain ⟨-, -, -, hrel, -, hp'⟩ := onRepayment_ok hon
  have hfall : ledger.debtAt id m.now + split.applied = p.ledger.debtAt id m.now := hfall
  have hrel : p.impairmentRelease id split.newDebt ≤ p.vault.totalImpairment := hrel
  have hrelease : p'.vault.impairmentOf id + p.impairmentRelease id split.newDebt =
      p.vault.impairmentOf id := by
    rw [hp']
    simp only [afterRepayment, Function.update_self]
    exact Nat.sub_add_cancel (p.impairmentRelease_le id split.newDebt)
  have hin := (hl.ledger.mem_iff id).mpr hopen
  unfold NavExact at hx
  -- Cash in, excess and a closed epoch's part out, allowance released; the performing debt
  -- depends on the regime.
  have hliab : p'.vault.liabilities =
      p.vault.liabilities + split.excess + p.oldEpochPart id split.applied := by
    rw [hp']
    change p.vault.totalBorrowerOwned + split.excess + p.vault.totalWithdrawalReserved +
      (p.vault.totalRecoveryReserved + p.oldEpochPart id split.applied) = _
    unfold Vault.liabilities
    omega
  have hafter := hx'.of (p.cashBalance + got) _
    (p.vault.totalImpairment - p.impairmentRelease id split.newDebt)
    (performingDebt { p with ledger := ledger } m.now)
    (by rw [hp']; exact harr) hliab (by rw [hp']; rfl) (by rw [hp']; rfl)
  have htotal : p'.vault.totalImpairment =
      p.vault.totalImpairment - p.impairmentRelease id split.newDebt := by rw [hp']; rfl
  refine ⟨?_, fun i hi => ?_, by omega, by omega, fun hw => ?_, fun hw hep => ?_,
    fun hw hep => ?_⟩
  · rw [hp']
    simp [afterRepayment]
  · rw [hp']
    simp [afterRepayment, Function.update_of_ne hi]
  · have hperf := performingDebt_performing (p := p) (t := m.now) hids hother hin hw
    have hold : p.oldEpochPart id split.applied = 0 := if_neg (by simp [hw])
    omega
  · have hperf := performingDebt_writtenOff (p := p) (t := m.now) hids hother hw
    have hold : p.oldEpochPart id split.applied = 0 := if_neg (by omega)
    have hzero := hl.impairment_zero id hw
    change p'.exactNav m.now = p.exactNav m.now + split.applied
    omega
  · have hperf := performingDebt_writtenOff (p := p) (t := m.now) hids hother hw
    have hold : p.oldEpochPart id split.applied = split.applied :=
      if_pos ⟨hw, (he.writeOff id hw).1, hep⟩
    have hzero := hl.impairment_zero id hw
    refine ⟨by omega, ?_⟩
    rw [hp']
    simp only [afterRepayment]
    exact congrArg (p.vault.totalRecoveryReserved + ·) hold

end Pool

/-! ### The protocol's draws and repayments -/

namespace Credit

/-- A successful draw. -/
inductive Draw (d : Deployment) (reg : Registries) (m : Msg) (c c' : Credit) : Prop
  | borrow (id : FacilityId) (amount minReceived : Nat) :
      c.borrow d reg m id amount minReceived = .ok c' → Draw d reg m c c'
  | executeReservedDraw (rid : Bytes32) (minReceived : Nat) :
      c.executeReservedDraw d reg m rid minReceived = .ok c' → Draw d reg m c c'

/-- A successful repayment of `id` with the split `r`. -/
inductive Repayment (d : Deployment) (m : Msg) (id : FacilityId) (r : RepayResult)
    (c c' : Credit) : Prop
  | managerRepayFor (amount : Nat) : c.managerRepayFor d m id amount = .ok (r, c') →
      Repayment d m id r c c'
  | routerRepayFor (amount : Nat) : c.routerRepayFor d m id amount = .ok (r, c') →
      Repayment d m id r c c'
  | repayExact (maxAmount : Nat) : c.repayExact d m id maxAmount = .ok (r, c') →
      Repayment d m id r c c'
  | allocate (settlementId : Bytes32) (amount : Nat) :
      c.allocateSettlement d m settlementId id amount = .ok (r, c') → Repayment d m id r c c'
  | receiveSettlement (settlementId : Bytes32) (amount : Nat) :
      c.receiveSettlement d m id settlementId amount = .ok (r, c') → Repayment d m id r c c'

variable {d : Deployment} {reg : Registries} {m : Msg} {c c' : Credit} {id : FacilityId}
  {r : RepayResult} {E : Credit.Effects}

/-- Every draw records on the ledger what the vault pays out, for one facility. -/
theorem Draw.parts (hp : c.Paired) (h : Draw d reg m c c') :
    Internal d m.now E c c' ∧
    ∃ id wallet amount l, c.pool.ledger.recordDraw (m.calledBy d.exposure) id amount = .ok l ∧
      Pool.lend (m.calledBy d.manager) id wallet amount { c.pool with ledger := l } =
        .ok c'.pool := by
  cases h with
  | borrow id amount minReceived h =>
    obtain ⟨rid, c₁, hint, hpool, hexec⟩ := borrow_ok hp h
    obtain ⟨hint', l, hdraw, hlend⟩ := executeInternal_ok hint.paired hexec
    rw [hpool] at hdraw hlend
    exact ⟨hint.trans hint', _, _, _, l, hdraw, hlend⟩
  | executeReservedDraw rid minReceived h =>
    obtain ⟨hint, l, hdraw, hlend⟩ := executeInternal_ok hp h
    exact ⟨hint, _, _, _, l, hdraw, hlend⟩

/-- Every repayment brings its cash in and records one split of it. A settlement may first be
taken into the router, which the pool does not see. -/
theorem Repayment.parts (hp : c.Paired) (hpool : c.pool.Wired d) (hs : m.sender ≠ d.vault)
    (h : Repayment d m id r c c') :
    Internal d m.now E c c' ∧
    ∃ token caller got requested,
      token.balanceOf c.pool.vault.self = c.pool.cashBalance ∧
      Repays (m.calledBy caller) id got requested r { c.pool with token := token } c'.pool := by
  cases h with
  | managerRepayFor amount h =>
    obtain ⟨hint, got, requested, hrep⟩ := managerRepayFor_ok hp h
    exact ⟨hint, c.pool.token, _, got, requested, rfl, hrep⟩
  | routerRepayFor amount h =>
    obtain ⟨hint, got, requested, hrep⟩ := routerRepayFor_ok hp h
    exact ⟨hint, c.pool.token, _, got, requested, rfl, hrep⟩
  | repayExact maxAmount h =>
    obtain ⟨hint, got, requested, hrep⟩ := repayExact_ok hp h
    exact ⟨hint, c.pool.token, _, got, requested, rfl, hrep⟩
  | allocate settlementId amount h =>
    unfold allocateSettlement at h
    obtain ⟨_, -, h⟩ := bind_eq_ok.mp h
    obtain ⟨hint, got, requested, hrep⟩ := allocateFromReceipt_ok hp h
    exact ⟨hint, c.pool.token, _, got, requested, rfl, hrep⟩
  | receiveSettlement settlementId amount h =>
    unfold Credit.receiveSettlement at h
    obtain ⟨_, -, h⟩ := bind_eq_ok.mp h
    obtain ⟨⟨got, c₁⟩, hrec, h⟩ := bind_eq_ok.mp h
    have hint : Internal d m.now E c c₁ := recordReceipt_internal hp hrec
    obtain ⟨hint', got', requested, hrep⟩ := allocateFromReceipt_ok hint.paired h
    obtain ⟨token, router, htoken, rfl⟩ := recordReceipt_ok hrec
    refine ⟨hint.trans hint', token, _, got', requested, ?_, hrep⟩
    refine Token.transferFrom_other htoken ?_ ?_
    · rw [hpool.self]
      exact hs.symm
    · rw [hpool.self]
      exact d.router_ne.symm

end Credit

/-- NAV conservation, in every state of every run of the protocol and at every time from the
last call on, for a NAV of `n` before the call and `n'` after it.

- A draw leaves the NAV as it is.
- A repayment makes the excess of its split refundable to the facility, and of nobody else's
  refunds and allowances anything. On a facility that is not written off the NAV rises by the
  allowance released; on one written off in the current epoch by the amount applied; on one
  written off in a closed epoch the NAV stays and the amount applied is reserved for that
  epoch. -/
theorem nav_conservation {d : Deployment} {s : CreditState} (h : CreditReachable d s)
    (reg : Registries) {m : Msg} (hnow : s.now ≤ m.now) (hs : m.sender ≠ d.vault) {n : Nat}
    (hn : s.credit.pool.nav m.now = .ok n) :
    (∀ c' n', s.credit.Draw d reg m c' → c'.pool.nav m.now = .ok n' → n' = n) ∧
    ∀ id r c' n', s.credit.Repayment d m id r c' → c'.pool.nav m.now = .ok n' →
      c'.pool.vault.refundableOf id = s.credit.pool.vault.refundableOf id + r.excess ∧
      (∀ i, i ≠ id → c'.pool.vault.refundableOf i = s.credit.pool.vault.refundableOf i ∧
        c'.pool.vault.impairmentOf i = s.credit.pool.vault.impairmentOf i) ∧
      c'.pool.vault.impairmentOf id ≤ s.credit.pool.vault.impairmentOf id ∧
      (s.credit.pool.vault.isWrittenOff id = false →
        n' = n + (s.credit.pool.vault.impairmentOf id - c'.pool.vault.impairmentOf id)) ∧
      (s.credit.pool.vault.isWrittenOff id = true →
        s.credit.pool.vault.writeOffEpoch id = s.credit.pool.vault.currentEpoch →
          n' = n + r.applied) ∧
      (s.credit.pool.vault.isWrittenOff id = true →
        s.credit.pool.vault.writeOffEpoch id < s.credit.pool.vault.currentEpoch →
          n' = n ∧ c'.pool.vault.totalRecoveryReserved =
            s.credit.pool.vault.totalRecoveryReserved + r.applied) := by
  have hi := h.inv
  have hc := hi.coupled.later hnow
  obtain rfl := hc.sound.nav_eq_exactNav hn
  refine ⟨fun c' n' hdraw hn' => ?_, fun id r c' n' hrep hn' => ?_⟩
  · obtain ⟨hint, id, wallet, amount, l, hrec, hlend⟩ := hdraw.parts (E := ⟨∅, ∅⟩) hi.wired.paired
    have hc' := hint.coupled hi.wired hc
    rw [hc'.sound.nav_eq_exactNav hn']
    exact Pool.Sound.draw (m := m.calledBy d.exposure) hc.sound hc'.sound hrec hlend
  · obtain ⟨hint, token, caller, got, requested, hcash, token', p₁, hdep, hrepay, hlast⟩ :=
      hrep.parts (E := ⟨∅, ∅⟩) hi.wired.paired hi.wired.pool hs
    have hc' := hint.coupled hi.wired hc
    obtain rfl := hc'.sound.nav_eq_exactNav hn'
    -- The pool as the repayment finds it: a settlement may have moved tokens, but none of the
    -- vault's.
    have hx : Pool.NavExact m.now { s.credit.pool with token := token } ∧ _ :=
      Pool.NavExact.keep hc.sound.exactNav_add hcash rfl rfl
    have hl : Pool.Losses m.now { s.credit.pool with token := token } :=
      hc.sound.losses.keep rfl rfl rfl rfl
    have he : Pool.Epochs { s.credit.pool with token := token } :=
      hc.epochs.keep ⟨rfl, rfl, rfl, rfl⟩
    -- The pool as the repayment leaves it: the mirror of the state may follow.
    have hx₁ : Pool.NavExact m.now p₁ ∧ p₁.exactNav m.now = c'.pool.exactNav m.now ∧
        p₁.vault = c'.pool.vault := by
      rcases hlast with heq | ⟨m', l, hset, heq⟩
      · rw [heq]
        rw [heq] at hc'
        exact ⟨hc'.sound.exactNav_add, rfl, rfl⟩
      · have hperf : p₁.performingDebt m.now = c'.pool.performingDebt m.now := by
          rw [heq]
          exact (Pool.performingDebt_setState hset).symm
        have hkeep : Pool.NavExact m.now p₁ ∧ p₁.exactNav m.now = c'.pool.exactNav m.now :=
          Pool.NavExact.keep hc'.sound.exactNav_add (by rw [heq]; rfl) (by rw [heq]) hperf
        exact ⟨hkeep.1, hkeep.2, by rw [heq]⟩
    have hrepaid := Pool.NavExact.repaid (m := m.calledBy caller) hx.1 hl he hdep.2 hrepay hx₁.1
    have hfinal : Pool.RepaidNav id r m.now { s.credit.pool with token := token } c'.pool :=
      hrepaid.keep hx₁.2.2.symm hx₁.2.1.symm
    have hnav := hx.2
    refine ⟨hfinal.excess, hfinal.others, hfinal.released, fun hw => ?_, fun hw hep => ?_,
      fun hw hep => ?_⟩
    · exact hnav ▸ hfinal.performing hw
    · exact hnav ▸ hfinal.currentEpoch hw hep
    · exact hnav ▸ hfinal.closedEpoch hw hep

/-- A facility draws 600 of 1000 and 100 of it are impaired. -/
def Sample.impairedFacility : List Tx :=
  activeFacility 1000 600 ++ [tx 7 10 (.recovery (.impair 5 1 100))]

/-- A repayment of 700 on the debt of 600 releases the allowance of 100: the NAV goes from 900
to 1000, and the excess of 100 is refundable. -/
theorem nav_conservation_sample :
    ∃ s r c', CreditReachable Sample.protocol s ∧
      s.credit.Repayment Sample.protocol (Sample.tx 9 10 (.router (.repayFor 5 700))).msg 5 r c' ∧
      s.credit.pool.nav 10 = .ok 900 ∧ c'.pool.nav 10 = .ok 1000 ∧
      c'.pool.vault.refundableOf 5 = s.credit.pool.vault.refundableOf 5 + r.excess ∧
      1000 = 900 + (s.credit.pool.vault.impairmentOf 5 - c'.pool.vault.impairmentOf 5) := by
  obtain ⟨s, hrun, hview⟩ := Sample.creditDeployment.run_view Sample.protocol
    Sample.impairedFacility (fun s => (s.now, (s.credit.pool.nav 10).toOption,
      s.credit.pool.vault.isWrittenOff 5)) (v := (10, some 900, false)) (by decide +kernel)
  obtain ⟨s', hrun', hview'⟩ := Sample.creditDeployment.run_view Sample.protocol
    (Sample.impairedFacility ++ [Sample.tx 9 10 (.router (.repayFor 5 700))])
    (fun s => (s.credit.pool.nav 10).toOption) (v := some 1000) (by decide +kernel)
  have hstep := CreditState.run_last hrun hrun'
  have hreach : CreditReachable Sample.protocol s :=
    hstep.reachable Sample.creditDeployment_initial
  obtain ⟨⟨r, c'⟩, hrepay, hc'⟩ := map_eq_ok.mp hstep.step.2.2.1
  obtain ⟨hnow, hrest⟩ := Prod.mk.inj hview
  obtain ⟨hnav, hw⟩ := Prod.mk.inj hrest
  have hnav := toOption_eq_some.mp hnav
  have hnav' : c'.pool.nav 10 = .ok 1000 := by
    rw [show c' = s'.credit from hc']
    exact toOption_eq_some.mp hview'
  have hrep := Credit.Repayment.routerRepayFor 700 hrepay
  obtain ⟨hexcess, -, -, hperf, -⟩ := (nav_conservation hreach Sample.registries hnow.le
    (by decide +kernel) hnav).2 5 r c' 1000 hrep hnav'
  exact ⟨s, r, c', hreach, hrep, hnav, hnav', hexcess, hperf hw⟩

end Rackline
