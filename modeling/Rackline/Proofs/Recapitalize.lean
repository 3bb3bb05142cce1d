import Rackline.Proofs.Conservation

/-!
# `Rackline.Proofs.Recapitalize`: when a lost pool can be recapitalized

Deposits are refused while shares are outstanding over a NAV of zero. The way out is the epoch
rollover, which asks for the latch that a write-off sets. `Alive` says that the two agree:
outside the latch, outstanding shares stand over some cash or performing debt.

Lending and repayment conserve that worth, a write-off that destroys the last of it sets the
latch, and only one kind of step breaks the agreement: a redemption, by withdrawal or by a
queue fill, that takes the last unit of cash of a pool without performing debt and leaves
shares behind. The rounding of the price with its virtual offsets allows it.
-/

set_option autoImplicit false

namespace Rackline

open Evm Transition

namespace Pool

/-- A redemption of `shares` that takes all the LP cash of a pool without performing debt and
leaves shares behind. -/
def Drains (now shares : Nat) (p : Pool) : Prop :=
  p.performingReceivables now = .ok 0 ∧ shares < p.vault.totalShares ∧
    ∃ cash, p.lpCash = .ok cash ∧ p.convertToAssets now shares = .ok cash

/-- The queue loop with `fuel` requests to serve comes to a fill that drains the pool. -/
def LoopDrains (now : Nat) : Nat → Pool → Prop
  | 0, _ => False
  | fuel + 1, p =>
    p.vault.withdrawalHead < p.vault.nextWithdrawalId ∧
      ((∃ q, p.processHead now = .ok (.skip q) ∧ LoopDrains now fuel q) ∨
        ∃ id shares assets q whole, p.processHead now = .ok (.filled id shares assets q whole) ∧
          (p.Drains now shares ∨ whole = true ∧ LoopDrains now fuel q))

end Pool

/-- The vault call drains the pool: a withdrawal or a queue fill that takes the last of the
cash and leaves shares behind. -/
def VaultCall.Drains (m : Msg) (p : Pool) : VaultCall → Prop
  | withdraw shares _ => p.Drains m.now shares
  | processWithdrawals maxRequests => p.absorbDonation.LoopDrains m.now maxRequests
  | _ => False

/-- The transaction drains the pool. -/
def Tx.Drains (s : CreditState) (tx : Tx) : Prop :=
  ∃ call, tx.call = .vault call ∧ call.Drains tx.msg s.credit.pool

namespace Pool

variable {p p' : Pool} {m : Msg} {now : Nat}

/-- What the pool is worth before allowances. -/
def worth (now : Nat) (p : Pool) : Nat := p.exactNav now + p.vault.totalImpairment

/-- The worth is cash and performing debt, less what is owed. -/
theorem Sound.worth_add (h : Sound now p) :
    p.worth now + p.vault.liabilities = p.cashBalance + p.performingDebt now := by
  have := h.exactNav_add
  unfold worth
  omega

/-- A call moves the worth by the cash and against the liabilities, when it leaves the debts
alone. -/
theorem Sound.worth_shift (h : Sound now p) (h' : Sound now p') (cash liabilities : Nat)
    (hcash : p'.cashBalance = cash) (hliab : p'.vault.liabilities = liabilities)
    (hperf : p'.performingDebt now = p.performingDebt now) :
    p'.worth now + liabilities + p.cashBalance = p.worth now + p.vault.liabilities + cash := by
  have hbefore := h.worth_add
  have hafter := h'.worth_add
  omega

/-- Cash and performing debt that do not fall carry the worth. -/
theorem Sound.worth_le (h : Sound now p) (h' : Sound now p') (hcash : p.cashBalance ≤ p'.cashBalance)
    (hliab : p'.vault.liabilities = p.vault.liabilities)
    (hperf : p.performingDebt now ≤ p'.performingDebt now) : p.worth now ≤ p'.worth now := by
  have hbefore := h.worth_add
  have hafter := h'.worth_add
  omega

theorem Sound.worth_mono (h : Sound now p) {t : Nat} (ht : now ≤ t) :
    p.worth now ≤ p.worth t := by
  have hbefore := h.worth_add
  have hafter := Sound.worth_add ⟨h.solvent, h.losses.later ht⟩
  have hdebt : p.performingDebt now ≤ p.performingDebt t :=
    Finset.sum_le_sum fun id _ => Facility.debtAt_mono _ ht
  omega

/-- The latch is set over outstanding shares only, and outside the latch outstanding shares are
worth something. -/
structure Alive (now : Nat) (p : Pool) : Prop where
  latched : p.vault.epochRolloverRequired = true → p.vault.totalShares ≠ 0
  worth : p.vault.epochRolloverRequired = false → p.vault.totalShares ≠ 0 → p.worth now ≠ 0

theorem Alive.later (h : Alive now p) (hs : Sound now p) {t : Nat} (ht : now ≤ t) :
    Alive t p := by
  refine ⟨h.latched, fun hl hn => ?_⟩
  have := h.worth hl hn
  have := hs.worth_mono ht
  omega

/-- A call that keeps the shares and the latch and does not lower the worth. -/
theorem Alive.of_le (h : Alive now p)
    (hlatch : p'.vault.epochRolloverRequired = p.vault.epochRolloverRequired)
    (hshares : p'.vault.totalShares = p.vault.totalShares) (hle : p.worth now ≤ p'.worth now) :
    Alive now p' := by
  refine ⟨?_, ?_⟩
  · rw [hlatch, hshares]
    exact h.latched
  · rw [hlatch, hshares]
    intro hl hn
    have := h.worth hl hn
    omega

/-- A redemption that does not drain the pool keeps it alive. -/
theorem Alive.redeem (hs : Sound now p) (hs' : Sound now p')
    {shares assets cash : Nat} (hprice : p.convertToAssets now shares = .ok assets)
    (hcash : p.lpCash = .ok cash) (hle : assets ≤ cash)
    (hvalue : p'.worth now + assets = p.worth now)
    (hperf : p'.performingDebt now = p.performingDebt now)
    (hlatch : p'.vault.epochRolloverRequired = false)
    (hshares : p'.vault.totalShares + shares = p.vault.totalShares)
    (hd : ¬p.Drains now shares) : Alive now p' := by
  refine ⟨fun hl => ?_, fun _ hn hzero => hd ?_⟩
  · rw [hlatch] at hl
    cases hl
  have hadd' := hs'.worth_add
  have hadd := hs.worth_add
  have hlp := lpCash_ok hcash
  have hcov' := hs'.solvent.covered.trans hs'.solvent.present
  -- Nothing is left, so there is no performing debt and the redemption took all the cash.
  have hdebt : p.performingDebt now = 0 := by omega
  have hall : assets = cash := by omega
  subst hall
  refine ⟨?_, by omega, assets, hcash, hprice⟩
  unfold convertToAssets at hprice
  obtain ⟨n, hn', -⟩ := bind_eq_ok.mp hprice
  unfold nav at hn'
  obtain ⟨_, -, hn'⟩ := bind_eq_ok.mp hn'
  obtain ⟨performing, hperf', -⟩ := bind_eq_ok.mp hn'
  rw [hperf', hs.losses.performingReceivables_ok hperf', hdebt]

/-! ### The queue loop -/

theorem Alive.skip (h : Alive now p) (hstep : HeadStep now p (.skip p')) : Alive now p' := by
  cases hstep with
  | passed => exact h.of_le rfl rfl (Nat.le_refl _)
  | expired => exact h.of_le rfl rfl (Nat.le_refl _)

theorem Alive.filled {id shares assets : Nat} {whole : Bool} (hs : LoopSound now p)
    (hlatch : p.vault.epochRolloverRequired = false)
    (hstep : HeadStep now p (.filled id shares assets p' whole)) (hd : ¬p.Drains now shares) :
    Alive now p' := by
  obtain ⟨hs', hmoved⟩ := hs.filled hstep
  have hview : HeadFill now p shares assets ∧ p'.performingDebt now = p.performingDebt now ∧
      p'.vault.epochRolloverRequired = p.vault.epochRolloverRequired ∧
      p'.vault.totalImpairment = p.vault.totalImpairment ∧
      p'.vault.totalShares = p.vault.totalShares - shares := by
    cases hstep with
    | whole hfill _ => exact ⟨hfill, rfl, rfl, rfl, rfl⟩
    | part hfill => exact ⟨hfill, rfl, rfl, rfl, rfl⟩
  obtain ⟨hfill, hperf, hlatch', himp, hshares⟩ := hview
  obtain ⟨cash, hcash, hle⟩ := hfill.cash
  have hle' := hfill.le_totalShares
  have hvalue := hmoved.value
  exact Alive.redeem hs.sound hs'.sound hfill.price hcash hle (by unfold Pool.worth; omega) hperf
    (hlatch'.trans hlatch) (by omega) hd

/-- The queue loop keeps the pool alive when none of its fills drains it. The induction is on
the fuel, as the loop's. -/
theorem processLoop_alive : ∀ {fuel : Nat} {p p' : Pool} {filled reserved filled' reserved' : Nat},
    processLoop now fuel p filled reserved = .ok (filled', reserved', p') → LoopSound now p →
    p.vault.epochRolloverRequired = false → Alive now p → ¬p.LoopDrains now fuel →
    Alive now p' := by
  intro fuel
  induction fuel with
  | zero =>
    intro p p' filled reserved filled' reserved' h _ _ ha _
    cases h
    exact ha
  | succ fuel ih =>
    intro p p' filled reserved filled' reserved' h hs hlatch ha hd
    unfold processLoop at h
    split at h
    · rename_i hlt
      obtain ⟨o, ho, h⟩ := bind_eq_ok.mp h
      have hstep := processHead_ok ho
      cases o with
      | stop =>
        have hres := pure_eq_ok.mp h
        simp only [Prod.mk.injEq] at hres
        rw [← hres.2.2]
        exact ha
      | skip q =>
        refine ih h (hs.skip hstep).1 (hstep.sameEpoch_skip.latch.trans hlatch) (ha.skip hstep) ?_
        exact fun hq => hd ⟨hlt, .inl ⟨q, ho, hq⟩⟩
      | filled id shares assets q whole =>
        have hq : Alive now q := Alive.filled hs hlatch hstep fun hq =>
          hd ⟨hlt, .inr ⟨id, shares, assets, q, whole, ho, .inl hq⟩⟩
        obtain ⟨total, -, h⟩ := bind_eq_ok.mp h
        split at h
        · rename_i hwhole
          refine ih h (hs.filled hstep).1 (hstep.sameEpoch_filled.latch.trans hlatch) hq ?_
          exact fun hrest => hd ⟨hlt, .inr ⟨id, shares, assets, q, whole, ho, .inr ⟨hwhole, hrest⟩⟩⟩
        · have hres := pure_eq_ok.mp h
          simp only [Prod.mk.injEq] at hres
          rw [← hres.2.2]
          exact hq
    · cases h
      exact ha

/-! ### Vault calls -/

/-- A write-off that leaves nothing sets the latch. -/
theorem totalLoss_ok {lost : Bool} (h : p.totalLoss now = .ok lost) :
    (lost = true → p.vault.totalShares ≠ 0) ∧
    (lost = false → p.vault.totalShares ≠ 0 →
      (∃ n, p.nav now = .ok n ∧ n ≠ 0) ∨
      (∃ performing, p.performingReceivables now = .ok performing ∧
        (performing ≠ 0 ∨ p.vault.totalImpairment ≠ 0))) := by
  unfold totalLoss at h
  split at h
  · rename_i hz
    cases h
    exact ⟨nofun, fun _ hn => absurd hz hn⟩
  · rename_i hn
    refine ⟨fun _ => hn, fun hlost _ => ?_⟩
    obtain ⟨n, hnav, h⟩ := bind_eq_ok.mp h
    split at h
    · rename_i hne
      exact .inl ⟨n, hnav, hne⟩
    · obtain ⟨performing, hperf, h⟩ := bind_eq_ok.mp h
      have hdec := pure_eq_ok.mp h
      rw [hlost] at hdec
      have hnot : ¬(performing = 0 ∧ p.vault.totalImpairment = 0) := by simpa using hdec
      exact .inr ⟨performing, hperf, by tauto⟩

theorem Alive.writeOff {id : FacilityId} (ha : Alive m.now p) (hs' : Sound m.now p')
    (h : p.writeOff m id = .ok p') : Alive m.now p' := by
  obtain ⟨-, -, -, lost, hloss, rfl⟩ := writeOff_ok h
  obtain ⟨hlost, hkept⟩ := totalLoss_ok hloss
  refine ⟨fun hl => ?_, fun hl hn hzero => ?_⟩
  · rcases Bool.or_eq_true _ _ ▸ hl with hold | hnew
    · exact ha.latched hold
    · exact hlost hnew
  · have hfalse : lost = false := (Bool.or_eq_false_iff.mp hl).2
    have hexact := hs'.exactNav_add
    have hw : ((p.markWrittenOff id).latch lost).exactNav m.now +
      ((p.markWrittenOff id).latch lost).vault.totalImpairment = 0 := hzero
    rcases hkept hfalse hn with ⟨n, hnav, hne⟩ | ⟨performing, hperf, hne⟩
    · have := hs'.nav_eq_exactNav (n := n) hnav
      omega
    · have hperf' := hs'.losses.performingReceivables_ok (t := m.now) hperf
      have himp := hs'.losses.totalImpairment_le (Nat.le_refl _)
      have hcov := hs'.solvent.covered.trans hs'.solvent.present
      have hti : ((p.markWrittenOff id).latch lost).vault.totalImpairment =
        (p.markWrittenOff id).vault.totalImpairment := rfl
      omega

end Pool

open Pool in
/-- Every vault call that is complete in itself and does not drain the pool keeps it alive. -/
theorem VaultCall.exec_alive {m : Msg} {p p' : Pool} {c : VaultCall} (hs : Sound m.now p)
    (ha : Alive m.now p) (hplain : c.Plain) (hd : ¬c.Drains m p) (h : c.exec m p = .ok p') :
    Alive m.now p' := by
  have hs' := hs.exec h
  cases c with
  | setManager manager enabled =>
    obtain ⟨_, _, _, _, rfl⟩ := setManager_ok h
    exact ha.of_le rfl rfl (Nat.le_refl _)
  | finalizeWiring =>
    obtain ⟨_, _, _, _, rfl⟩ := finalizeWiring_ok h
    exact ha.of_le rfl rfl (Nat.le_refl _)
  | bindRecoveryManager manager =>
    obtain ⟨_, _, _, _, rfl⟩ := bindRecoveryManager_ok h
    exact ha.of_le rfl rfl (Nat.le_refl _)
  | setDepositsPaused paused =>
    obtain ⟨_, _, _, _, rfl⟩ := setDepositsPaused_ok h
    exact ha.of_le rfl rfl (Nat.le_refl _)
  | deposit assets minShares =>
    obtain ⟨⟨shares, q⟩, hc, rfl⟩ := map_eq_ok.mp h
    have hvalue := (hs.deposit hc).value
    obtain ⟨hne, hsh, -, -, token, -, rfl⟩ := deposit_ok hc
    refine ⟨fun _ hz => hsh (Nat.eq_zero_of_add_eq_zero hz).2, fun _ _ hz => ?_⟩
    have hnav : (p.afterDeposit m.sender shares token).exactNav m.now = 0 :=
      (Nat.eq_zero_of_add_eq_zero hz).1
    omega
  | withdraw shares minAssets =>
    obtain ⟨⟨assets, q⟩, hc, hq⟩ := map_eq_ok.mp h
    obtain rfl : q = p' := hq
    have hvalue := (hs.withdraw hc).value
    obtain ⟨-, -, hlatch, hpend, hprice, ⟨cash, hcash, hle⟩, -, htotal, token, -, hq⟩ :=
      withdraw_ok hc
    -- With no queue and no latch, the available cash is the LP cash.
    have havail : p.availableCash = p.lpCash := if_neg (by simp [hlatch, hpend])
    have himp : q.vault.totalImpairment = p.vault.totalImpairment := by rw [hq]; rfl
    have hshares : q.vault.totalShares = p.vault.totalShares - shares := by rw [hq]; rfl
    exact Alive.redeem hs hs' hprice (havail ▸ hcash) hle (by unfold Pool.worth; omega)
      (by rw [hq]; rfl) (by rw [hq]; exact hlatch) (by omega) hd
  | requestWithdrawal shares minAssets =>
    obtain ⟨⟨id, q⟩, hc, rfl⟩ := map_eq_ok.mp h
    obtain ⟨-, -, -, -, rfl⟩ := requestWithdrawal_ok hc
    exact ha.of_le rfl rfl (Nat.le_refl _)
  | cancelWithdrawal id =>
    obtain ⟨-, rfl⟩ := cancelWithdrawal_ok h
    exact ha.of_le rfl rfl (Nat.le_refl _)
  | processWithdrawals maxRequests =>
    obtain ⟨⟨filled, reserved, q⟩, hc, rfl⟩ := map_eq_ok.mp h
    obtain ⟨hlatch, hloop⟩ := processWithdrawals_ok hc
    rw [← absorbDonation_eq] at hloop
    have hsame : p.absorbDonation.vault.epochRolloverRequired = false ∧
        Alive m.now p.absorbDonation := by
      rw [absorbDonation_eq]
      exact ⟨hlatch, ha.of_le rfl rfl (Nat.le_refl _)⟩
    exact processLoop_alive hloop hs.absorb hsame.1 hsame.2 hd
  | claimWithdrawal id =>
    obtain ⟨⟨assets, q⟩, hc, hq⟩ := map_eq_ok.mp h
    obtain rfl : q = p' := hq
    have hvalue := (hs.claimWithdrawal hc).value
    obtain ⟨-, -, token, -, hq⟩ := claimWithdrawal_ok hc
    have himp : q.vault.totalImpairment = p.vault.totalImpairment := by rw [hq]
    exact ha.of_le (by rw [hq]) (by rw [hq]) (by unfold Pool.worth; omega)
  | rollLossEpoch =>
    obtain ⟨-, residual, -, -, rfl⟩ := rollLossEpoch_ok h
    exact ⟨nofun, fun _ hn => absurd rfl hn⟩
  | claimEpochRecovery epoch =>
    obtain ⟨⟨assets, q⟩, hc, hq⟩ := map_eq_ok.mp h
    obtain rfl : q = p' := hq
    obtain ⟨-, -, hle, token, hpaid, hq⟩ := claimEpochRecovery_ok hc
    have hshift := hs.worth_shift hs' (token.balanceOf p.vault.self)
      (p.vault.liabilities - assets) (by rw [hq]; rfl)
      (by rw [hq]; simp only [Vault.liabilities]; omega) (by rw [hq]; rfl)
    have hcash := hpaid.self
    have hliab : assets ≤ p.vault.liabilities := hle.trans (Nat.le_add_left _ _)
    exact ha.of_le (by rw [hq]) (by rw [hq]) (by omega)
  | lend id dst amount => exact hplain.elim
  | onRepayment id result => exact hplain.elim
  | refundExcess id dst amount =>
    obtain ⟨-, hle, token, hpaid, hq⟩ := refundExcess_ok h
    have hliab : amount ≤ p.vault.liabilities :=
      hle.trans ((Nat.le_add_right _ _).trans (Nat.le_add_right _ _))
    have hshift := hs.worth_shift hs' (token.balanceOf p.vault.self)
      (p.vault.liabilities - amount) (by rw [hq]; rfl)
      (by rw [hq]; simp only [Vault.liabilities]; omega) (by rw [hq]; rfl)
    have hcash := hpaid.self
    exact ha.of_le (by rw [hq]) (by rw [hq]) (by omega)
  | recordRecovery id amount => exact hplain.elim
  | recognizeImpairment id amount =>
    obtain ⟨-, -, hq⟩ := recognizeImpairment_ok h
    have hshift := hs.worth_shift hs' p.cashBalance p.vault.liabilities (by rw [hq]; rfl)
      (by rw [hq]; rfl) (by rw [hq]; rfl)
    exact ha.of_le (by rw [hq]) (by rw [hq]) (by omega)
  | reverseImpairment id amount =>
    obtain ⟨-, -, hq⟩ := reverseImpairment_ok h
    have hshift := hs.worth_shift hs' p.cashBalance p.vault.liabilities (by rw [hq]; rfl)
      (by rw [hq]; rfl) (by rw [hq]; rfl)
    exact ha.of_le (by rw [hq]) (by rw [hq]) (by omega)
  | writeOff id => exact ha.writeOff hs' h
  | approve spender amount =>
    cases h
    exact ha.of_le rfl rfl (Nat.le_refl _)
  | transfer dst amount =>
    obtain ⟨-, rfl⟩ := transferShares_ok h
    exact ha.of_le rfl rfl (Nat.le_refl _)
  | transferFrom src dst amount =>
    obtain ⟨-, allowances, rfl⟩ := transferFrom_ok h
    exact ha.of_le rfl rfl (Nat.le_refl _)

/-! ### Actions and runs -/

/-- A service call drains nothing. -/
theorem VaultCall.Service.not_drains {m : Msg} {p : Pool} {c : VaultCall} (h : c.Service) :
    ¬c.Drains m p := by
  cases c with
  | withdraw | processWithdrawals => exact h.elim
  | _ => exact not_false

/-- Ledger calls other than allocations do not lower the performing debt. -/
theorem Pool.performingDebt_grows {now : Nat} {p : Pool} {l : Ledger}
    (hl : Ledger.Grows now p.ledger l) (hwf : p.ledger.WF) :
    p.performingDebt now ≤ performingDebt { p with ledger := l } now := by
  have hsub : p.performing ⊆ performing { p with ledger := l } := by
    intro id hid
    simp only [performing, Finset.mem_filter, List.mem_toFinset] at hid ⊢
    exact ⟨hl.ids id hid.1, hid.2⟩
  calc p.performingDebt now
      ≤ ∑ id ∈ p.performing, l.debtAt id now := Finset.sum_le_sum fun id _ => hl.debt hwf id
    _ ≤ performingDebt { p with ledger := l } now :=
        Finset.sum_le_sum_of_subset_of_nonneg hsub fun _ _ _ => Nat.zero_le _

open Pool in
/-- Every action of the contracts keeps the pool alive. -/
theorem PoolAction.alive {d : Deployment} {now : Nat} {p p' : Pool} (hw : p.Wired d)
    (hc : CoupledBy now p) (ha : Alive now p) (h : PoolAction d now ∅ p p') : Alive now p' := by
  have hs := hc.sound
  have hs' := (h.coupled hw hc).sound
  cases h with
  | vault m c hnow _ hplain hserv hexec =>
    subst hnow
    have hserv : c.Service := hserv.resolve_right (Set.notMem_empty c)
    exact VaultCall.exec_alive hs ha hplain hserv.not_drains hexec
  | ledger m c hnow _ hplain hexec =>
    subst hnow
    have hgrow := LedgerCall.exec_grows (fun id received heq => by rw [heq] at hplain; exact hplain)
      hexec
    exact ha.of_le rfl rfl (hs.worth_le hs' (Nat.le_refl _) rfl
      (performingDebt_grows hgrow hs.losses.ledger))
  | token m c _ hsender hexec =>
    have hcash := (TokenCall.exec_outside hs.solvent (hw.self ▸ hsender) hexec).2
    exact ha.of_le rfl rfl (hs.worth_le hs' hcash rfl (Nat.le_refl _))
  | @draw _ m id wallet amount l hnow hdraw hlend =>
    subst hnow
    have hnav := Sound.draw (m := m.calledBy d.exposure) hs hs' hdraw hlend
    obtain ⟨-, -, -, token, -, hp'⟩ := lend_ok hlend
    have himp : p'.vault.totalImpairment = p.vault.totalImpairment := by rw [hp']
    exact ha.of_le (by rw [hp']) (by rw [hp']) (Nat.add_le_add hnav.ge himp.ge)
  | @repayment _ m t id got requested r hnow _ hdep hrepay =>
    subst hnow
    have hrep := NavExact.repaid hs.exactNav_add hs.losses hc.epochs hdep.2 hrepay
      hs'.exactNav_add
    have hsame : p'.vault.epochRolloverRequired = p.vault.epochRolloverRequired ∧
        p'.vault.totalShares = p.vault.totalShares := by
      obtain ⟨split, ledger, -, rfl, hon⟩ := repay_ok hrepay
      obtain ⟨-, -, -, -, -, rfl⟩ := onRepayment_ok hon
      exact ⟨rfl, rfl⟩
    refine ha.of_le hsame.1 hsame.2 ?_
    have hallow := hrep.allowances
    unfold Pool.worth
    -- The three regimes of a repayment.
    cases hwo : p.vault.isWrittenOff id with
    | false =>
      have hnav := hrep.performing hwo
      omega
    | true =>
      have hzero := hs.losses.impairment_zero id hwo
      rcases Nat.lt_or_eq_of_le (hc.epochs.writeOff id hwo).2 with hlt | heq
      · have hnav := (hrep.closedEpoch hwo hlt).1
        omega
      · have hnav := hrep.currentEpoch hwo heq
        omega

/-- A transaction that does not drain the pool keeps it alive. -/
theorem CreditStep.alive {d : Deployment} {s s' : CreditState} {tx : Tx} (hi : s.Inv d)
    (ha : s.credit.pool.Alive s.now) (hd : ¬tx.Drains s) (h : CreditStep d s tx s') :
    s'.credit.pool.Alive s'.now := by
  have hint := h.internal hi
  obtain ⟨hnow, hsender, hexec, htime⟩ := h
  have hcoupled := hi.coupled.later hnow
  have ha := ha.later hi.coupled.sound hnow
  rw [htime] at hint ⊢
  -- Calls that are not to the vault make only actions of the contracts.
  have hinternal : tx.call.effects.vaultCalls = ∅ → s'.credit.pool.Alive tx.msg.now := by
    intro hV
    have htrace := hint.trace
    rw [hV] at htrace
    refine (Trace.invariant (P := fun p => p.Wired d ∧ CoupledBy tx.msg.now p ∧
      p.Alive tx.msg.now) ?_ htrace ⟨hi.wired.pool, hcoupled, ha⟩).2.2
    rintro p p' ⟨hw, hc, ha⟩ hact
    exact ⟨hact.wired hw, hact.coupled hw hc, hact.alive hw hc ha⟩
  cases hcall : tx.call with
  | vault call =>
    rw [hcall] at hexec
    obtain ⟨p, hp, hp'⟩ := map_eq_ok.mp hexec
    rw [← hp']
    exact VaultCall.exec_alive hcoupled.sound ha
      (VaultCall.plain_of_outsider hi.wired hsender hp) (fun hdr => hd ⟨call, hcall, hdr⟩) hp
  | ledger call => exact hinternal (by rw [hcall]; rfl)
  | token call => exact hinternal (by rw [hcall]; rfl)
  | exposure call => exact hinternal (by rw [hcall]; rfl)
  | manager call => exact hinternal (by rw [hcall]; cases call <;> rfl)
  | router call => exact hinternal (by rw [hcall]; rfl)
  | recovery call => exact hinternal (by rw [hcall]; cases call <;> rfl)

/-- One transaction that does not drain the pool. -/
def SteadyStep (d : Deployment) (s : CreditState) (tx : Tx) (s' : CreditState) : Prop :=
  ¬tx.Drains s ∧ CreditStep d s tx s'

/-- Runs whose transactions drain nothing stay alive. -/
theorem SteadyStep.reachable_alive {d : Deployment} {s : CreditState}
    (h : Reachable (CreditState.Initial d) (SteadyStep d) s) :
    s.Inv d ∧ s.credit.pool.Alive s.now := by
  refine Reachable.invariant (P := fun s => s.Inv d ∧ s.credit.pool.Alive s.now) ?_ ?_ h
  · intro s hinit
    refine ⟨hinit.inv, ?_⟩
    obtain ⟨token, -, hs⟩ := hinit
    rw [hs]
    exact ⟨nofun, fun _ hn => absurd rfl hn⟩
  · rintro s tx s' ⟨hi, ha⟩ ⟨hd, hstep⟩
    exact ⟨hstep.inv hi, hstep.alive hi ha hd⟩

/-! ### Recapitalization -/

namespace Pool

variable {p : Pool} {m : Msg} {now : Nat}

/-- The guardian's call `m` rolls the epoch, and from then on every deposit that is not paused,
mints at least one share, at least the minimum asked for, and whose tokens can be pulled,
succeeds. -/
def Recapitalizes (d : Deployment) (m : Msg) (p : Pool) : Prop :=
  ∃ p₁, p.rollLossEpoch m = .ok p₁ ∧
    ∀ (lp : Msg) (assets minShares shares : Nat), m.now ≤ lp.now → lp.sender ∉ d.contracts →
      p₁.vault.depositsPaused = false → p₁.convertToShares lp.now assets = .ok shares →
      shares ≠ 0 → minShares ≤ shares →
      p₁.token.transferFrom p₁.vault.self lp.sender p₁.vault.self assets ≠ none →
      ∃ p₂, p₁.deposit lp assets minShares = .ok (shares, p₂)

/-- Over an alive pool without performing debt and allowances, deposits are refused exactly
behind the latch. -/
theorem Alive.latch_of_refused (ha : Alive now p) (hs : Sound now p)
    (hrefused : p.recapitalizationRequired now = .ok true) (himp : p.vault.totalImpairment = 0) :
    p.vault.epochRolloverRequired = true := by
  cases hl : p.vault.epochRolloverRequired with
  | true => rfl
  | false =>
    unfold recapitalizationRequired at hrefused
    rw [if_neg (by simp [hl])] at hrefused
    split at hrefused
    · rename_i hn
      obtain ⟨n, hnav, hzero⟩ := bind_eq_ok.mp hrefused
      have hzero : n = 0 := by simpa using pure_eq_ok.mp hzero
      have hexact := hs.nav_eq_exactNav hnav
      have hworth := ha.worth hl hn
      unfold Pool.worth at hworth
      omega
    · cases hrefused

/-- A guardian rolls an epoch behind the latch. The cash, the reserve and the epoch counter are
words. -/
theorem rollLossEpoch_of (hs : Solvent p) (hbook : ShareQueue.Valid p.vault.lpBook)
    (hguard : m.hasRole .guardian m.sender = true) (hlost : p.fullyWrittenOff m.now = .ok true)
    (hepoch : p.vault.currentEpoch + 1 < wordSize 64) :
    p.rollLossEpoch m = .ok (p.afterRoll (p.cashBalance - p.vault.liabilities)) := by
  have hcash := p.token.bounded p.vault.self
  have hcov := hs.covered.trans hs.present
  have hreceived : p.vault.epochRecoveryReceived p.vault.currentEpoch = 0 :=
    hbook.cohorts.unopened _ (.inr (Nat.le_refl _))
  have hliab : p.vault.totalRecoveryReserved ≤ p.vault.liabilities := Nat.le_add_left _ _
  change p.cashBalance < wordSize 256 at hcash
  unfold rollLossEpoch
  rw [revertIf_of_not _ (by simp [hguard]), ok_bind, hlost, ok_bind,
    revertIf_of_not _ (by simp), ok_bind]
  simp only [absorbDonation_eq, withTracked_lpCash]
  rw [hs.lpCash_eq, ok_bind]
  rw [addW_eq_ok.mpr ⟨by simp only [withTracked, hreceived]; omega, rfl⟩, ok_bind,
    addW_eq_ok.mpr ⟨by simp only [withTracked]; omega, rfl⟩, ok_bind,
    addW_eq_ok.mpr ⟨by simpa only [withTracked] using hepoch, rfl⟩]
  rfl

/-- Without the latch no epoch is rolled. -/
theorem rollLossEpoch_unlatched (hguard : m.hasRole .guardian m.sender = true)
    (hlatch : p.vault.epochRolloverRequired = false) :
    p.rollLossEpoch m = .error .epochNotFullyWrittenOff := by
  have hlost : p.fullyWrittenOff m.now = .ok false := by
    unfold fullyWrittenOff
    rw [if_pos (.inl hlatch)]
  unfold rollLossEpoch
  rw [revertIf_of_not _ (by simp [hguard]), ok_bind, hlost, ok_bind]
  exact revertIf_bind_of _ rfl _

/-- An empty epoch takes every deposit that mints a share. -/
theorem deposit_of_empty {lp : Msg} {assets minShares shares : Nat} {token : Token Address}
    (hopen : p.vault.depositsPaused = false) (hlatch : p.vault.epochRolloverRequired = false)
    (hempty : p.vault.totalShares = 0) (hbalance : p.balanceOf lp.sender = 0)
    (hne : lp.sender ≠ p.vault.self) (hshares : p.convertToShares lp.now assets = .ok shares)
    (hpos : shares ≠ 0) (hmin : minShares ≤ shares)
    (htoken : p.token.transferFrom p.vault.self lp.sender p.vault.self assets = some token) :
    ∃ p₂, p.deposit lp assets minShares = .ok (shares, p₂) := by
  have hword : assets ≠ 0 ∧ shares < wordSize 256 := by
    unfold convertToShares at hshares
    obtain ⟨_, -, h⟩ := bind_eq_ok.mp hshares
    obtain ⟨_, -, h⟩ := bind_eq_ok.mp h
    obtain ⟨_, -, h⟩ := bind_eq_ok.mp h
    obtain ⟨-, hlt, heq⟩ := mulDiv_eq_ok.mp h
    refine ⟨fun hz => hpos ?_, heq ▸ hlt⟩
    rw [heq, hz, Nat.zero_mul, Nat.zero_div]
  have hrefused : p.recapitalizationRequired lp.now = .ok false := by
    unfold recapitalizationRequired
    rw [if_neg (by simp [hlatch]), if_neg (by simp [hempty])]
  have hreceived : token.balanceOf p.vault.self = p.cashBalance + assets := by
    obtain ⟨-, t₁, hbal, -, -, hmove⟩ := Token.transferFrom_move htoken
    rw [(Token.move_of_ne hmove hne).2.1, hbal]
    rfl
  refine ⟨p.afterDeposit lp.sender shares token, ?_⟩
  unfold deposit
  rw [revertIf_of_not _ (by simp [hopen]), ok_bind, revertIf_of_not _ hword.1, ok_bind]
  simp only [absorbDonation_eq, withTracked_recapitalizationRequired, withTracked_convertToShares]
  rw [hrefused, ok_bind, revertIf_of_not _ (by simp), ok_bind, hshares, ok_bind,
    revertIf_of_not _ hpos, ok_bind, revertIf_of_not _ (by omega), ok_bind]
  unfold pull
  simp only [withTracked_token, withTracked_self, htoken, withTracked_cashBalance, hreceived]
  rw [subW_eq_ok.mpr ⟨Nat.le_add_right _ _, rfl⟩, ok_bind, pure_bind]
  simp only [Nat.add_sub_cancel_left]
  rw [revertIf_of_not _ (by simp), ok_bind]
  unfold mint
  rw [addW_eq_ok.mpr ⟨by simp only [withTracked, hempty]; omega, rfl⟩, ok_bind,
    addW_eq_ok.mpr ⟨by
      have hb : balanceOf { p.withTracked (max p.vault.trackedBalance p.cashBalance) with
        token := token } lp.sender = 0 := hbalance
      rw [hb]
      omega, rfl⟩]
  rfl

end Pool

/-- In a run whose transactions do not drain the pool, a pool that refuses deposits and has no
performing debt and no allowance is recapitalized: the guardian rolls the epoch and deposits
go in again. -/
theorem lost_pool_recapitalizes {d : Deployment} {s : CreditState} {m : Msg}
    (h : Reachable (CreditState.Initial d) (SteadyStep d) s)
    (hepoch : s.credit.pool.vault.currentEpoch + 1 < wordSize 64) (hnow : s.now ≤ m.now)
    (hguard : m.hasRole .guardian m.sender = true)
    (hrefused : s.credit.pool.recapitalizationRequired m.now = .ok true)
    (hperf : s.credit.pool.performingReceivables m.now = .ok 0)
    (himp : s.credit.pool.vault.totalImpairment = 0) :
    s.credit.pool.Recapitalizes d m := by
  obtain ⟨hi, ha⟩ := SteadyStep.reachable_alive h
  have hcoupled := hi.coupled.later hnow
  have hs := hcoupled.sound
  have ha := ha.later hi.coupled.sound hnow
  obtain ⟨t, -, hreach⟩ := hcoupled
  have hbook : ShareQueue.Valid s.credit.pool.vault.lpBook := hreach.reachable.lpBook_valid
  have hlatch := ha.latch_of_refused hs hrefused himp
  have hlost : s.credit.pool.fullyWrittenOff m.now = .ok true := by
    unfold Pool.fullyWrittenOff
    rw [if_neg (by simp [hlatch, ha.latched hlatch]), hperf, ok_bind]
    simp [himp, pure, Except.pure]
  refine ⟨_, Pool.rollLossEpoch_of hs.solvent hbook hguard hlost hepoch, ?_⟩
  intro lp assets minShares shares _ hsender hopen hshares hpos hmin htoken
  obtain ⟨token, htoken⟩ := Option.ne_none_iff_exists'.mp htoken
  -- Nobody holds shares of an epoch that has just begun.
  have hbalance : s.credit.pool.vault.shares (s.credit.pool.vault.currentEpoch + 1) lp.sender = 0 :=
    hbook.wf.future _ (Nat.lt_succ_self _) _
  have hself : lp.sender ≠ s.credit.pool.vault.self :=
    hi.wired.pool.self ▸ Deployment.outsider_ne_vault hsender
  exact Pool.deposit_of_empty hopen rfl rfl hbalance hself hshares hpos hmin htoken

/-- Facility 5 draws `amount` of a deposit of 1000, defaults and is written off. -/
def Sample.writtenOffFacility (amount : Nat) : List Tx :=
  activeFacility 1000 amount ++
    [tx 7 10 (.recovery (.setSchedule 5 20 5 0 100)),
      tx 7 30 (.recovery (.markDelinquent 5)),
      tx 7 30 (.recovery (.approveDefault 5 1)),
      tx 7 30 (.recovery (.declareDefault 5)),
      tx 7 30 (.recovery (.beginRecovery 5)),
      tx 7 30 (.recovery (.approveWriteOff 5 1)),
      tx 7 30 (.recovery (.writeOff 5 1))]

/-- The only vault call of that run is a deposit. -/
theorem Sample.writtenOffFacility_steady (amount : Nat) :
    ∀ tx ∈ writtenOffFacility amount, ∀ s, ¬tx.Drains s := by
  intro t ht s hdrains
  obtain ⟨call, hcall, hd⟩ := hdrains
  simp only [writtenOffFacility, activeFacility, List.cons_append, List.nil_append,
    List.mem_cons, List.not_mem_nil, or_false] at ht
  rcases ht with rfl | rfl | rfl | rfl | rfl | rfl | rfl | rfl | rfl | rfl | rfl | rfl | rfl |
    rfl | rfl | rfl <;> cases hcall
  exact hd

/-- The whole deposit is lent and lost: no transaction of the run drains the pool, the write-off
sets the latch, and the pool is recapitalized. -/
theorem lost_pool_recapitalizes_sample :
    ∃ s, Reachable (CreditState.Initial Sample.protocol) (SteadyStep Sample.protocol) s ∧
      s.credit.pool.vault.totalShares = 10 ^ 6 ∧
      s.credit.pool.recapitalizationRequired 30 = .ok true ∧
      s.credit.pool.Recapitalizes Sample.protocol (Sample.tx 7 30 (.vault .rollLossEpoch)).msg := by
  obtain ⟨s, hrun, hview⟩ := Sample.creditDeployment.run_view Sample.protocol
    (Sample.writtenOffFacility 1000) (fun s => decide (s.now = 30 ∧
      s.credit.pool.vault.totalShares = 10 ^ 6 ∧ s.credit.pool.vault.currentEpoch = 1 ∧
      s.credit.pool.vault.totalImpairment = 0 ∧
      (s.credit.pool.recapitalizationRequired 30).toOption = some true ∧
      (s.credit.pool.performingReceivables 30).toOption = some 0)) (v := true) (by decide +kernel)
  obtain ⟨hnow, hshares, hepoch, himp, hrefused, hperf⟩ := of_decide_eq_true hview
  have hreach : Reachable (CreditState.Initial Sample.protocol) (SteadyStep Sample.protocol) s :=
    ⟨_, _, Sample.creditDeployment_initial,
      (CreditState.run_steps hrun).restrict (Sample.writtenOffFacility_steady 1000)⟩
  have hrefused := toOption_eq_some.mp hrefused
  refine ⟨s, hreach, hshares, hrefused, ?_⟩
  exact lost_pool_recapitalizes hreach (by rw [hepoch]; decide +kernel) hnow.le (by decide +kernel)
    hrefused (toOption_eq_some.mp hperf) himp

/-- A loss of 999 of 1000 leaves one unit for the million shares. A withdrawal of half of them
and a bit more takes it, and the other shares stand over nothing: deposits are refused, and
the rollover too. -/
theorem withdrawal_strands_pool :
    ∃ s, CreditReachable Sample.protocol s ∧ s.now = 30 ∧
      s.credit.pool.recapitalizationRequired 30 = .ok true ∧
      s.credit.pool.performingReceivables 30 = .ok 0 ∧
      s.credit.pool.vault.totalImpairment = 0 ∧ s.credit.pool.vault.depositsPaused = false ∧
      (Sample.tx 7 30 (.vault .rollLossEpoch)).msg.hasRole .guardian 7 = true ∧
      s.credit.pool.rollLossEpoch (Sample.tx 7 30 (.vault .rollLossEpoch)).msg =
        .error .epochNotFullyWrittenOff := by
  obtain ⟨s, hrun, hview⟩ := Sample.creditDeployment.run_view Sample.protocol
    (Sample.writtenOffFacility 999 ++ [Sample.tx 8 30 (.vault (.withdraw 500500 0))])
    (fun s => decide (s.now = 30 ∧
      (s.credit.pool.recapitalizationRequired 30).toOption = some true ∧
      (s.credit.pool.performingReceivables 30).toOption = some 0 ∧
      s.credit.pool.vault.totalImpairment = 0 ∧ s.credit.pool.vault.depositsPaused = false ∧
      s.credit.pool.vault.epochRolloverRequired = false)) (v := true) (by decide +kernel)
  obtain ⟨hnow, hrefused, hperf, himp, hopen, hlatch⟩ := of_decide_eq_true hview
  refine ⟨s, ⟨_, _, Sample.creditDeployment_initial, CreditState.run_steps hrun⟩, hnow,
    toOption_eq_some.mp hrefused, toOption_eq_some.mp hperf, himp, hopen, by decide +kernel, ?_⟩
  exact Pool.rollLossEpoch_unlatched (by decide +kernel) hlatch

end Rackline
