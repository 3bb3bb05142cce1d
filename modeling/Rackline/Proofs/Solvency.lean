import Rackline.Proofs.LpBook

/-!
# `Rackline.Proofs.Solvency`: the vault covers what it owes

The vault owes cash to borrowers (excess to refund), to served withdrawal requests and to the
holders of closed epochs. `Solvent` says that the tracked balance covers the three, that the
tracked balance is really there, and that nobody may spend it: the vault approves nobody.

A call spends LP cash only, and LP cash is what is left of the balance after the liabilities;
a recovery that adds to a liability is checked against the balance growth since the last
observation. The rest of the accounting, which amounts the two reserve totals stand for, is
that of the share queue.
-/

set_option autoImplicit false

namespace Rackline

open Evm Transition Finset

/-- What the vault owes. -/
def Vault.liabilities (v : Vault) : Nat :=
  v.totalBorrowerOwned + v.totalWithdrawalReserved + v.totalRecoveryReserved

namespace Pool

variable {p p' : Pool} {m : Msg}

/-- LP cash is the balance less the liabilities. -/
theorem lpCash_ok {cash : Nat} (h : p.lpCash = .ok cash) :
    cash = p.cashBalance - p.vault.liabilities := by
  unfold lpCash at h
  obtain ⟨owned, ho, h⟩ := bind_eq_ok.mp h
  obtain ⟨-, rfl⟩ := addW_eq_ok.mp ho
  obtain ⟨total, ht, h⟩ := bind_eq_ok.mp h
  obtain ⟨-, rfl⟩ := addW_eq_ok.mp ht
  rw [← pure_eq_ok.mp h]
  unfold Vault.liabilities
  split <;> omega

theorem availableCash_le {cash : Nat} (h : p.availableCash = .ok cash) :
    cash ≤ p.cashBalance - p.vault.liabilities := by
  unfold availableCash at h
  split at h
  · cases h
    exact Nat.zero_le _
  · exact (lpCash_ok h).le

/-- The cash invariant of the vault. -/
structure Solvent (p : Pool) : Prop where
  unapproved : ∀ spender, p.token.allowance p.vault.self spender = 0
  owned : p.vault.totalBorrowerOwned = ∑ id, p.vault.refundableOf id
  covered : p.vault.liabilities ≤ p.vault.trackedBalance
  present : p.vault.trackedBalance ≤ p.cashBalance
  received_word : ∀ e, p.vault.epochRecoveryReceived e < wordSize 256

section
variable (hs : Solvent p)
include hs

/-- A payment of at most `amount` of the balance keeps the vault solvent when the liabilities
fit what is left. The vault's bookkeeping apart from the cash is that of `v`. -/
theorem Solvent.pay {v : Vault} {dst : Address} {amount : Nat} {token : Token Address}
    (hpaid : Paid p dst amount token) (hself : v.self = p.vault.self)
    (howned : v.totalBorrowerOwned = ∑ id, v.refundableOf id)
    (hcov : v.liabilities + amount ≤ p.cashBalance)
    (htrack : v.trackedBalance = token.balanceOf p.vault.self)
    (hword : ∀ e, v.epochRecoveryReceived e < wordSize 256) :
    Solvent { p with token := token, vault := v } := by
  have hbal := hpaid.self
  refine ⟨fun spender => ?_, howned, ?_, ?_, hword⟩
  · simp only [hself, hpaid.allowance, hs.unapproved]
  · simp only [htrack]
    omega
  · simp only [htrack, cashBalance, hself, Nat.le_refl]

/-- Bookkeeping that touches no cash field keeps the vault solvent. -/
theorem Solvent.keep {v : Vault} (hself : v.self = p.vault.self)
    (hrefund : v.refundableOf = p.vault.refundableOf)
    (howned : v.totalBorrowerOwned = p.vault.totalBorrowerOwned)
    (hres : v.totalWithdrawalReserved = p.vault.totalWithdrawalReserved)
    (hrec : v.totalRecoveryReserved = p.vault.totalRecoveryReserved)
    (htrack : v.trackedBalance = p.vault.trackedBalance)
    (hreceived : v.epochRecoveryReceived = p.vault.epochRecoveryReceived) :
    Solvent { p with vault := v } := by
  refine ⟨fun spender => ?_, ?_, ?_, ?_, fun e => ?_⟩
  · simp only [hself, hs.unapproved]
  · simp only [howned, hrefund, hs.owned]
  · have := hs.covered
    simp only [Vault.liabilities, howned, hres, hrec, htrack] at this ⊢
    exact this
  · simp only [htrack, cashBalance, hself]
    exact hs.present
  · simp only [hreceived]
    exact hs.received_word e

theorem Solvent.withTracked {t : Nat} (hcov : p.vault.liabilities ≤ t) (ht : t ≤ p.cashBalance) :
    Solvent (p.withTracked t) :=
  ⟨hs.unapproved, hs.owned, hcov, ht, hs.received_word⟩

/-- The words of the recovery totals after an amount was set aside. -/
theorem Solvent.word_update {e amount : Nat}
    (h : amount ≠ 0 → p.vault.epochRecoveryReceived e + amount < wordSize 256) (i : Nat) :
    Function.update p.vault.epochRecoveryReceived e (p.vault.epochRecoveryReceived e + amount) i <
      wordSize 256 := by
  by_cases hi : i = e
  · subst hi
    rw [Function.update_self]
    by_cases hz : amount = 0
    · simpa [hz] using hs.received_word i
    · exact h hz
  · rw [Function.update_of_ne hi]
    exact hs.received_word i

end

theorem oldEpochPart_le (p : Pool) (id : FacilityId) (amount : Nat) :
    p.oldEpochPart id amount ≤ amount := by
  unfold oldEpochPart
  split
  · exact Nat.le_refl _
  · exact Nat.zero_le _

/-- In the queue loop the donation has been absorbed. -/
def Absorbed (p : Pool) : Prop := Solvent p ∧ p.vault.trackedBalance = p.cashBalance

theorem Absorbed.fill {now shares assets : Nat} (h : Absorbed p)
    (hfill : HeadFill now p shares assets) :
    Absorbed (p.afterFill p.vault.withdrawalHead shares assets) := by
  obtain ⟨hs, htrack⟩ := h
  obtain ⟨cash, hcash, hle⟩ := hfill.cash
  have hlp := lpCash_ok hcash
  have hne := hfill.assets_ne_zero
  refine ⟨⟨hs.unapproved, hs.owned, ?_, hs.present, hs.received_word⟩, htrack⟩
  simp only [Vault.liabilities, afterFill] at hlp ⊢
  omega

theorem Absorbed.keep_skip {now : Nat} (h : Absorbed p) (hstep : HeadStep now p (.skip p')) :
    Absorbed p' := by
  obtain ⟨hs, htrack⟩ := h
  cases hstep with
  | passed => exact ⟨hs.keep rfl rfl rfl rfl rfl rfl rfl, htrack⟩
  | expired => exact ⟨hs.keep rfl rfl rfl rfl rfl rfl rfl, htrack⟩

theorem Absorbed.keep_filled {now id shares assets : Nat} {whole : Bool} (h : Absorbed p)
    (hstep : HeadStep now p (.filled id shares assets p' whole)) : Absorbed p' := by
  cases hstep with
  | whole hfill _ =>
    obtain ⟨hs, htrack⟩ := h.fill hfill
    exact ⟨hs.keep rfl rfl rfl rfl rfl rfl rfl, htrack⟩
  | part hfill => exact h.fill hfill

/-- The recorded split of a repayment: the new liabilities are part of what arrived. -/
theorem Solvent.repayment (hs : Solvent p) {id : FacilityId} {r : RepayResult}
    (hwhole : r.applied + r.excess = r.received)
    (harr : p.vault.trackedBalance + r.received ≤ p.cashBalance)
    (hold : p.OldEpochChecked id r.applied) : Solvent (p.afterRepayment id r) := by
  have hcov := hs.covered
  have hle := p.oldEpochPart_le id r.applied
  refine ⟨hs.unapproved, ?_, ?_, Nat.le_refl _, hs.word_update fun hne => (hold hne).2.2⟩
  · have hsum := Total.sum_update p.vault.refundableOf id (p.vault.refundableOf id + r.excess)
    have := hs.owned
    simp only [afterRepayment]
    omega
  · simp only [Vault.liabilities, afterRepayment] at hcov ⊢
    omega

end Pool

open Pool in
/-- Every vault call keeps the vault solvent. -/
theorem VaultCall.exec_solvent {m : Msg} {p p' : Pool} {c : VaultCall} (hs : p.Solvent)
    (h : c.exec m p = .ok p') : p'.Solvent := by
  have hcov := hs.covered
  have hpres := hs.present
  cases c with
  | setManager manager enabled =>
    obtain ⟨_, _, _, _, rfl⟩ := setManager_ok h
    exact hs.keep rfl rfl rfl rfl rfl rfl rfl
  | finalizeWiring =>
    obtain ⟨_, _, _, _, rfl⟩ := finalizeWiring_ok h
    exact hs.keep rfl rfl rfl rfl rfl rfl rfl
  | bindRecoveryManager manager =>
    obtain ⟨_, _, _, _, rfl⟩ := bindRecoveryManager_ok h
    exact hs.keep rfl rfl rfl rfl rfl rfl rfl
  | setDepositsPaused paused =>
    obtain ⟨_, _, _, _, rfl⟩ := setDepositsPaused_ok h
    exact hs.keep rfl rfl rfl rfl rfl rfl rfl
  | deposit assets minShares =>
    obtain ⟨⟨shares, q⟩, hc, rfl⟩ := map_eq_ok.mp h
    obtain ⟨-, -, -, -, token, harr, rfl⟩ := deposit_ok hc
    have hbal := harr.self
    refine ⟨fun spender => ?_, hs.owned, ?_, Nat.le_refl _, hs.received_word⟩
    · have hle := harr.allowance p.vault.self spender
      rw [hs.unapproved] at hle
      exact Nat.le_zero.mp hle
    · simp only [Vault.liabilities, afterDeposit] at hcov ⊢
      omega
  | withdraw shares minAssets =>
    obtain ⟨⟨assets, q⟩, hc, rfl⟩ := map_eq_ok.mp h
    obtain ⟨-, -, -, -, -, ⟨cash, hcash, hle⟩, -, -, token, hpaid, rfl⟩ := withdraw_ok hc
    have hlp := availableCash_le hcash
    exact hs.pay hpaid rfl hs.owned (by simp only [Vault.liabilities] at *; omega) rfl
      hs.received_word
  | requestWithdrawal shares minAssets =>
    obtain ⟨⟨id, q⟩, hc, rfl⟩ := map_eq_ok.mp h
    obtain ⟨-, -, -, -, rfl⟩ := requestWithdrawal_ok hc
    exact hs.keep rfl rfl rfl rfl rfl rfl rfl
  | cancelWithdrawal id =>
    obtain ⟨-, rfl⟩ := cancelWithdrawal_ok h
    exact hs.keep rfl rfl rfl rfl rfl rfl rfl
  | processWithdrawals maxRequests =>
    obtain ⟨⟨filled, reserved, q⟩, hc, rfl⟩ := map_eq_ok.mp h
    obtain ⟨-, hloop⟩ := processWithdrawals_ok hc
    rw [Nat.max_eq_right hpres] at hloop
    refine (processLoop_invariant (P := fun _ => Absorbed) ?_ ?_ hloop ⟨?_, rfl⟩).1
    · intro _ q q' hq _ hstep
      exact hq.keep_skip hstep
    · intro _ q q' id shares assets whole hq _ hstep
      exact hq.keep_filled hstep
    · exact hs.withTracked (hcov.trans hpres) (Nat.le_refl _)
  | claimWithdrawal id =>
    obtain ⟨⟨assets, q⟩, hc, rfl⟩ := map_eq_ok.mp h
    obtain ⟨-, hle, token, hpaid, rfl⟩ := claimWithdrawal_ok hc
    exact hs.pay hpaid rfl hs.owned (by simp only [Vault.liabilities] at *; omega) rfl
      hs.received_word
  | rollLossEpoch =>
    obtain ⟨-, residual, hres, hword, rfl⟩ := rollLossEpoch_ok h
    have hlp := lpCash_ok hres
    refine ⟨hs.unapproved, hs.owned, ?_, ?_, hs.word_update fun _ => hword⟩
    · simp only [Vault.liabilities, afterRoll] at *
      omega
    · simp only [afterRoll, cashBalance] at *
      omega
  | claimEpochRecovery epoch =>
    obtain ⟨⟨assets, q⟩, hc, rfl⟩ := map_eq_ok.mp h
    obtain ⟨-, -, hle, token, hpaid, rfl⟩ := claimEpochRecovery_ok hc
    exact hs.pay hpaid rfl hs.owned (by simp only [Vault.liabilities] at *; omega) rfl
      hs.received_word
  | lend id dst amount =>
    obtain ⟨-, -, ⟨cash, hcash, hle⟩, token, hpaid, rfl⟩ := lend_ok h
    have hlp := lpCash_ok hcash
    exact hs.pay hpaid rfl hs.owned (by simp only [Vault.liabilities] at *; omega) rfl
      hs.received_word
  | onRepayment id result =>
    obtain ⟨-, hwhole, harr, -, hold, rfl⟩ := onRepayment_ok h
    exact hs.repayment hwhole harr hold
  | refundExcess id dst amount =>
    obtain ⟨hle, hown, token, hpaid, rfl⟩ := refundExcess_ok h
    refine hs.pay hpaid rfl ?_ (by simp only [Vault.liabilities] at *; omega) rfl
      hs.received_word
    have hsum := Total.sum_update p.vault.refundableOf id (p.vault.refundableOf id - amount)
    have := hs.owned
    simp only
    omega
  | recordRecovery id amount =>
    obtain ⟨-, harr, hold, rfl⟩ := recordRecovery_ok h
    have hle := p.oldEpochPart_le id amount
    refine ⟨hs.unapproved, hs.owned, ?_, Nat.le_refl _,
      hs.word_update fun hne => (hold hne).2.2⟩
    simp only [Vault.liabilities, afterReserve, track, cashBalance] at *
    omega
  | recognizeImpairment id amount =>
    obtain ⟨-, -, rfl⟩ := recognizeImpairment_ok h
    exact hs.keep rfl rfl rfl rfl rfl rfl rfl
  | reverseImpairment id amount =>
    obtain ⟨-, -, rfl⟩ := reverseImpairment_ok h
    exact hs.keep rfl rfl rfl rfl rfl rfl rfl
  | writeOff id =>
    obtain ⟨-, -, -, lost, -, rfl⟩ := writeOff_ok h
    exact hs.keep rfl rfl rfl rfl rfl rfl rfl
  | approve spender amount =>
    cases h
    exact hs.keep rfl rfl rfl rfl rfl rfl rfl
  | transfer dst amount =>
    obtain ⟨-, rfl⟩ := transferShares_ok h
    exact hs.keep rfl rfl rfl rfl rfl rfl rfl
  | transferFrom src dst amount =>
    obtain ⟨-, allowances, rfl⟩ := transferFrom_ok h
    exact hs.keep rfl rfl rfl rfl rfl rfl rfl

/-- A token call spares every account but the caller. -/
theorem TokenCall.exec_spares {m : Msg} {a : Address} {t t' : Token Address} {c : TokenCall}
    (hne : a ≠ m.sender) (h : c.exec m t = .ok t') : Token.Spares a t t' := by
  cases c with
  | transfer dst amount =>
    simp only [exec, Token.transfer] at h
    split at h
    · cases h
    · rename_i t₁ hmove
      cases h
      exact Token.move_spares hmove hne
  | approve spender amount =>
    cases h
    exact Token.approve_spares hne
  | transferFrom src dst amount =>
    simp only [exec] at h
    split at h
    · cases h
    · rename_i t₁ hfrom
      cases h
      exact Token.transferFrom_spares hfrom

/-- A token call by another account leaves the vault's balance at least as high: the vault
approves nobody. -/
theorem TokenCall.exec_outside {m : Msg} {p : Pool} {t : Token Address} {c : TokenCall}
    (hs : p.Solvent) (hsender : m.sender ≠ p.vault.self) (h : c.exec m p.token = .ok t) :
    (∀ spender, t.allowance p.vault.self spender = 0) ∧
      p.cashBalance ≤ t.balanceOf p.vault.self :=
  TokenCall.exec_spares hsender.symm h hs.unapproved

theorem TokenCall.exec_solvent {m : Msg} {p : Pool} {t : Token Address} {c : TokenCall}
    (hs : p.Solvent) (hsender : m.sender ≠ p.vault.self) (h : c.exec m p.token = .ok t) :
    Pool.Solvent { p with token := t } := by
  obtain ⟨hallow, hcash⟩ := TokenCall.exec_outside hs hsender h
  exact ⟨hallow, hs.owned, hs.covered, hs.present.trans hcash, hs.received_word⟩

/-- Every step of the pool keeps the vault solvent. -/
theorem PoolStep.solvent {s s' : PoolState} {a : Msg × PoolCall} (hs : s.pool.Solvent)
    (h : PoolStep s a s') : s'.pool.Solvent := by
  obtain ⟨m, c⟩ := a
  obtain ⟨-, hsender, hexec, -⟩ := h
  cases c with
  | vault c => exact VaultCall.exec_solvent hs hexec
  | ledger c =>
    obtain ⟨l, -, hl⟩ := map_eq_ok.mp hexec
    rw [← hl]
    exact ⟨hs.unapproved, hs.owned, hs.covered, hs.present, hs.received_word⟩
  | token c =>
    obtain ⟨t, ht, hp⟩ := map_eq_ok.mp hexec
    rw [← hp]
    exact TokenCall.exec_solvent hs hsender ht
  | repay id received requested =>
    obtain ⟨⟨r, q⟩, hq, rfl⟩ := map_eq_ok.mp hexec
    obtain ⟨split, ledger, -, -, hrepay⟩ := Pool.repay_ok hq
    have hs' : Pool.Solvent { s.pool with ledger := ledger } :=
      ⟨hs.unapproved, hs.owned, hs.covered, hs.present, hs.received_word⟩
    exact VaultCall.exec_solvent (c := .onRepayment id r) hs' hrepay

theorem PoolState.Initial.solvent {s : PoolState} (h : s.Initial) : s.pool.Solvent := by
  obtain ⟨-, hv, hallow⟩ := h
  refine ⟨hallow, ?_, ?_, ?_, fun e => ?_⟩
  · rw [hv]
    simp [Vault.initial]
  · rw [hv]
    exact Nat.le_refl _
  · rw [hv]
    exact Nat.zero_le _
  · rw [hv]
    exact Nat.two_pow_pos 256

/-- The vault of every reachable pool is solvent. -/
theorem PoolReachable.solvent {s : PoolState} (h : PoolReachable s) : s.pool.Solvent :=
  Reachable.invariant (P := fun s => s.pool.Solvent) (fun _ hinit => hinit.solvent)
    (fun _ _ _ hs hstep => PoolStep.solvent hs hstep) h

/-! ### Closed epochs -/

/-- What a holder of a closed epoch has earned, in whole units. -/
def Vault.epochEarned (v : Vault) (e : Nat) (lp : Address) : Nat :=
  v.epochRecoveryReceived e * v.shares e lp / v.closedEpochShares e

section
variable {s : PoolState} (h : PoolReachable s)
include h

/-- Nobody has earned more than was received. -/
theorem PoolReachable.earned_le_received (e : Nat) (lp : Address) :
    s.pool.vault.epochEarned e lp ≤ s.pool.vault.epochRecoveryReceived e :=
  (Total.le_sum_univ (s.pool.vault.epochEarned e) lp).trans
    (h.lpBook_valid.cohorts.sum_earned_le e)

/-- `recoveryClaimable` never reverts: for a closed epoch the earned amount is a word and is
at least what was claimed. -/
theorem PoolReachable.recoveryClaimable_eq {e : Nat} (he : e < s.pool.vault.currentEpoch)
    (lp : Address) : s.pool.recoveryClaimable e lp =
      .ok (s.pool.vault.epochEarned e lp - s.pool.vault.epochRecoveryClaimed e lp) := by
  have hclaimed : s.pool.vault.epochRecoveryClaimed e lp ≤ s.pool.vault.epochEarned e lp :=
    h.lpBook_valid.cohorts.claimed_le e lp
  have hword : s.pool.vault.epochEarned e lp < wordSize 256 :=
    Nat.lt_of_le_of_lt (h.earned_le_received e lp) (h.solvent.received_word e)
  unfold Pool.recoveryClaimable
  dsimp only
  by_cases hz : s.pool.vault.closedEpochShares e = 0
  · -- Epoch zero never existed: nothing was earned.
    simp [hz, Vault.epochEarned]
  · rw [if_neg (by simp [hz, he])]
    rw [mulDiv_eq_ok.mpr ⟨hz, hword, rfl⟩]
    exact subW_eq_ok.mpr ⟨hclaimed, rfl⟩

end

/-- The claims of the holders of closed epochs on a reachable vault. -/
theorem PoolReachable.sum_claimable_le {s : PoolState} (h : PoolReachable s) :
    ∑ e ∈ range s.pool.vault.currentEpoch, ∑ lp,
      (s.pool.vault.epochEarned e lp - s.pool.vault.epochRecoveryClaimed e lp) ≤
        s.pool.vault.totalRecoveryReserved :=
  h.lpBook_valid.cohorts.sum_claimable_le

/-- The vault is solvent in every state of every run: the three liabilities are covered by the
tracked balance, which is really there; the borrowers' total and the withdrawal reserve are the
sums of their parts; and the recovery reserve covers everything `recoveryClaimable` promises
over all closed epochs and holders. -/
theorem vault_solvent {s : PoolState} (h : PoolReachable s) :
    s.pool.vault.totalBorrowerOwned + s.pool.vault.totalWithdrawalReserved +
      s.pool.vault.totalRecoveryReserved ≤ s.pool.vault.trackedBalance ∧
    s.pool.vault.trackedBalance ≤ s.pool.token.balanceOf s.pool.vault.self ∧
    s.pool.vault.totalBorrowerOwned = ∑ id, s.pool.vault.refundableOf id ∧
    s.pool.vault.totalWithdrawalReserved = ∑ id ∈ range s.pool.vault.nextWithdrawalId,
      ((s.pool.vault.withdrawals id).assetsReserved -
        (s.pool.vault.withdrawals id).assetsClaimed) ∧
    (∀ id, (s.pool.vault.withdrawals id).assetsClaimed ≤
      (s.pool.vault.withdrawals id).assetsReserved) ∧
    (∀ id, s.pool.vault.nextWithdrawalId ≤ id →
      (s.pool.vault.withdrawals id).assetsReserved = 0) ∧
    ∃ claimable : Nat → Address → Nat,
      (∀ e, e < s.pool.vault.currentEpoch → ∀ lp,
        s.pool.recoveryClaimable e lp = .ok (claimable e lp)) ∧
      ∑ e ∈ range s.pool.vault.currentEpoch, ∑ lp, claimable e lp ≤
        s.pool.vault.totalRecoveryReserved := by
  have hs := h.solvent
  have hres := h.lpBook_valid.reserves
  exact ⟨hs.covered, hs.present, hs.owned, hres.total, hres.claimed_le, hres.unmade, _,
    fun e he lp => h.recoveryClaimable_eq he lp, h.sum_claimable_le⟩

/-- A run with a deposit, a donation, a queued and served withdrawal and a partial claim ends in
a solvent vault with cash reserved. -/
theorem vault_solvent_sample :
    ∃ s, PoolReachable s ∧ s.pool.vault.totalWithdrawalReserved = 14 ∧
      s.pool.vault.totalWithdrawalReserved ≤ s.pool.vault.trackedBalance := by
  obtain ⟨s, hrun, hview⟩ := Sample.deployment.run_view
    [(Sample.msg 7 10, .vault (.deposit 500 0)), (Sample.msg 8 11, .token (.transfer 1 250)),
      (Sample.msg 7 12, .vault (.requestWithdrawal 10000 0)),
      (Sample.msg 9 13, .vault (.processWithdrawals 5))]
    (fun s => s.pool.vault.totalWithdrawalReserved) (v := 14) (by decide +kernel)
  have hreach := PoolState.run_reachable hrun Sample.deployment_initial
  have hsolvent := vault_solvent hreach
  exact ⟨s, hreach, hview, by omega⟩

/-- The cohort of a closed epoch. Nobody has claimed more than the floor of its share of what was
received, so the subtraction of `recoveryClaimable` never underflows; claimed and claimable add
up to that floor, whatever the order of recoveries and claims was; all holders together have
claimed at most what was received; and the shares the floors are taken of never change again. -/
theorem closed_epoch_cohorts {s : PoolState} (h : PoolReachable s) {e : Nat} (he : e ≠ 0)
    (hclosed : e < s.pool.vault.currentEpoch) :
    (∀ lp, s.pool.vault.epochRecoveryClaimed e lp ≤
      s.pool.vault.epochRecoveryReceived e * s.pool.vault.shares e lp /
        s.pool.vault.closedEpochShares e) ∧
    (∀ lp, ∃ claimable, s.pool.recoveryClaimable e lp = .ok claimable ∧
      s.pool.vault.epochRecoveryClaimed e lp + claimable =
        s.pool.vault.epochRecoveryReceived e * s.pool.vault.shares e lp /
          s.pool.vault.closedEpochShares e) ∧
    ∑ lp, s.pool.vault.epochRecoveryClaimed e lp ≤ s.pool.vault.epochRecoveryReceived e ∧
    s.pool.vault.closedEpochShares e ≠ 0 ∧
    s.pool.vault.closedEpochShares e = ∑ lp, s.pool.vault.shares e lp ∧
    ∀ as s', Steps PoolStep s as s' →
      e < s'.pool.vault.currentEpoch ∧ s'.pool.vault.shares e = s.pool.vault.shares e ∧
        s'.pool.vault.closedEpochShares e = s.pool.vault.closedEpochShares e := by
  have hcohorts := h.lpBook_valid.cohorts
  have hclaimed : ∀ lp, s.pool.vault.epochRecoveryClaimed e lp ≤ s.pool.vault.epochEarned e lp :=
    hcohorts.claimed_le e
  refine ⟨hclaimed, fun lp => ?_, ?_, (hcohorts.closed e he hclosed).2,
    (hcohorts.closed e he hclosed).1, fun as s' hrun => ?_⟩
  · exact ⟨_, h.recoveryClaimable_eq hclosed lp, Nat.add_sub_cancel' (hclaimed lp)⟩
  · exact (sum_le_sum fun lp _ => hclaimed lp).trans (hcohorts.sum_earned_le e)
  · have hfrozen := ShareQueue.run_frozen (Steps.run_lpBook hrun)
    exact ⟨Nat.lt_of_lt_of_le hclosed hfrozen.epoch_le, hfrozen.shares e hclosed,
      hfrozen.closedShares e hclosed⟩

/-- Two depositors lose everything to one write-off; the epoch is closed, a first recovery is
claimed by one of them and a second one arrives. Its 66 claimed and the rest make 134 of 201. -/
theorem closed_epoch_cohorts_sample :
    ∃ s, PoolReachable s ∧ s.pool.vault.currentEpoch = 2 ∧
      s.pool.vault.epochRecoveryClaimed 1 8 = 66 ∧
      ∃ claimable, s.pool.recoveryClaimable 1 8 = .ok claimable ∧ 66 + claimable = 134 := by
  obtain ⟨s, hrun, hview⟩ := Sample.deployment.run_view
    ([(Sample.msg 8 10, .vault (.deposit 1000 0)), (Sample.msg 9 10, .vault (.deposit 500 0))] ++
      Sample.drawCalls 10 1500 ++
      [(Sample.msg 7 11, .vault (.writeOff 5)), (Sample.msg 7 11, .vault .rollLossEpoch),
        (Sample.msg 7 12, .token (.transfer 1 100)), (Sample.msg 7 12, .vault (.recordRecovery 5 100)),
        (Sample.msg 8 13, .vault (.claimEpochRecovery 1)),
        (Sample.msg 7 14, .token (.transfer 1 101)), (Sample.msg 7 14, .vault (.recordRecovery 5 101))])
    (fun s => (s.pool.vault.currentEpoch, s.pool.vault.epochRecoveryClaimed 1 8,
      s.pool.vault.epochRecoveryReceived 1 * s.pool.vault.shares 1 8 /
        s.pool.vault.closedEpochShares 1)) (v := (2, 66, 134)) (by decide +kernel)
  simp only [Prod.mk.injEq] at hview
  obtain ⟨hepoch, hclaimed, hfloor⟩ := hview
  have hreach := PoolState.run_reachable hrun Sample.deployment_initial
  have hlt : 1 < s.pool.vault.currentEpoch := by omega
  obtain ⟨-, hclaimable, -⟩ := closed_epoch_cohorts hreach Nat.one_ne_zero hlt
  obtain ⟨claimable, hok, hsum⟩ := hclaimable 8
  exact ⟨s, hreach, hepoch, hclaimed, claimable, hok, by omega⟩

end Rackline
