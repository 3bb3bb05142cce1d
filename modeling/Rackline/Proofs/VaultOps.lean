import Rackline.PoolRun

/-!
# `Rackline.Proofs.VaultOps`: what each vault call does

One inversion lemma for each call of the vault: when the call returns, what it checked and
the exact state it leaves. Every proof about runs starts from these lemmas and never unfolds
a call again.

The tracked balance is read by the arrival check of a repayment only, so a change of it moves
no view. `withTracked` is that change.
-/

set_option autoImplicit false

namespace Rackline

open Evm

namespace Pool

variable {p p' : Pool} {m : Msg}

/-! ### The tracked balance -/

/-- The pool with another tracked balance. -/
def withTracked (p : Pool) (tracked : Nat) : Pool :=
  { p with vault := { p.vault with trackedBalance := tracked } }

section
variable (p : Pool) (t now n : Nat)

@[simp] theorem withTracked_token : (p.withTracked t).token = p.token := rfl
@[simp] theorem withTracked_ledger : (p.withTracked t).ledger = p.ledger := rfl
@[simp] theorem withTracked_self : (p.withTracked t).vault.self = p.vault.self := rfl
@[simp] theorem withTracked_cashBalance : (p.withTracked t).cashBalance = p.cashBalance := rfl
@[simp] theorem withTracked_lpCash : (p.withTracked t).lpCash = p.lpCash := rfl
@[simp] theorem withTracked_availableCash : (p.withTracked t).availableCash = p.availableCash := rfl
@[simp] theorem withTracked_performingReceivables :
    (p.withTracked t).performingReceivables now = p.performingReceivables now := rfl
@[simp] theorem withTracked_nav : (p.withTracked t).nav now = p.nav now := rfl
@[simp] theorem withTracked_convertToShares :
    (p.withTracked t).convertToShares now n = p.convertToShares now n := rfl
@[simp] theorem withTracked_convertToAssets :
    (p.withTracked t).convertToAssets now n = p.convertToAssets now n := rfl
@[simp] theorem withTracked_recapitalizationRequired :
    (p.withTracked t).recapitalizationRequired now = p.recapitalizationRequired now := rfl

/-- Absorbing a donation raises the tracked balance to the balance. -/
theorem absorbDonation_eq :
    p.absorbDonation = p.withTracked (max p.vault.trackedBalance p.cashBalance) := by
  unfold absorbDonation
  split
  · rename_i h
    rw [Nat.max_eq_right (Nat.le_of_lt h)]
    rfl
  · rename_i h
    rw [Nat.max_eq_left (Nat.le_of_not_lt h)]
    rfl

end

/-! ### Admin and guardian -/

/-- The pool with other wiring. -/
def withWiring (p : Pool) (isManager : Address → Bool) (wiringFinalized : Bool)
    (recoveryManager : Address) (depositsPaused : Bool) : Pool :=
  { p with vault := { p.vault with
    isManager := isManager
    wiringFinalized := wiringFinalized
    recoveryManager := recoveryManager
    depositsPaused := depositsPaused } }

theorem setManager_ok {manager : Address} {enabled : Bool}
    (h : p.setManager m manager enabled = .ok p') : ∃ a b c d, p' = p.withWiring a b c d := by
  unfold setManager at h
  obtain ⟨_, -, h⟩ := bind_eq_ok.mp h
  obtain ⟨_, -, h⟩ := bind_eq_ok.mp h
  obtain ⟨_, -, h⟩ := bind_eq_ok.mp h
  exact ⟨_, _, _, _, (pure_eq_ok.mp h).symm⟩

theorem finalizeWiring_ok (h : p.finalizeWiring m = .ok p') :
    ∃ a b c d, p' = p.withWiring a b c d := by
  unfold finalizeWiring at h
  obtain ⟨_, -, h⟩ := bind_eq_ok.mp h
  obtain ⟨_, -, h⟩ := bind_eq_ok.mp h
  exact ⟨_, _, _, _, (pure_eq_ok.mp h).symm⟩

theorem bindRecoveryManager_ok {manager : Address} (h : p.bindRecoveryManager m manager = .ok p') :
    ∃ a b c d, p' = p.withWiring a b c d := by
  unfold bindRecoveryManager at h
  obtain ⟨_, -, h⟩ := bind_eq_ok.mp h
  obtain ⟨_, -, h⟩ := bind_eq_ok.mp h
  obtain ⟨_, -, h⟩ := bind_eq_ok.mp h
  exact ⟨_, _, _, _, (pure_eq_ok.mp h).symm⟩

theorem setDepositsPaused_ok {paused : Bool} (h : p.setDepositsPaused m paused = .ok p') :
    ∃ a b c d, p' = p.withWiring a b c d := by
  unfold setDepositsPaused at h
  obtain ⟨_, -, h⟩ := bind_eq_ok.mp h
  exact ⟨_, _, _, _, (pure_eq_ok.mp h).symm⟩

/-! ### Token movements of the vault -/

/-- The token after the vault paid `amount` to `dst`. -/
structure Paid (p : Pool) (dst : Address) (amount : Nat) (token : Token Address) : Prop where
  self : token.balanceOf p.vault.self + amount = p.cashBalance
  dst : token.balanceOf dst = p.token.balanceOf dst + amount
  allowance : token.allowance = p.token.allowance

/-- The token after `amount` arrived at the vault from `src`. -/
structure Arrived (p : Pool) (amount : Nat) (token : Token Address) : Prop where
  self : token.balanceOf p.vault.self = p.cashBalance + amount
  allowance : ∀ owner spender, token.allowance owner spender ≤ p.token.allowance owner spender

theorem push_ok {dst : Address} {amount : Nat} (h : p.push dst amount = .ok p') :
    ∃ token, Paid p dst amount token ∧ p' = { p with token := token } := by
  unfold push at h
  split at h
  · cases h
  · rename_i token htoken
    obtain ⟨_, hcheck, h⟩ := bind_eq_ok.mp h
    obtain rfl := pure_eq_ok.mp h
    have hcheck := revertIf_eq_ok.mp hcheck
    refine ⟨token, ⟨?_, ?_, (Token.move_balance htoken).2.2⟩, rfl⟩
    · have := (Token.move_balance htoken).1
      unfold cashBalance at *
      omega
    · omega

theorem pull_ok {src : Address} {amount received : Nat}
    (h : p.pull src amount = .ok (received, p')) :
    ∃ token, Arrived p received token ∧ p' = { p with token := token } := by
  unfold pull at h
  split at h
  · cases h
  · rename_i token htoken
    obtain ⟨r, hr, h⟩ := bind_eq_ok.mp h
    obtain ⟨hle, rfl⟩ := subW_eq_ok.mp hr
    have hres := pure_eq_ok.mp h
    simp only [Prod.mk.injEq] at hres
    obtain ⟨rfl, rfl⟩ := hres
    obtain ⟨-, t₁, -, hother, hrow, hmove⟩ := Token.transferFrom_move htoken
    refine ⟨token, ⟨by omega, fun owner spender => ?_⟩, rfl⟩
    rw [(Token.move_balance hmove).2.2]
    by_cases ho : owner = src
    · subst ho
      exact hrow spender
    · rw [hother owner ho]

/-! ### Shares -/

theorem mint_ok {dst : Address} {shares : Nat} (h : p.mint dst shares = .ok p') :
    p' = { p with vault := { p.vault with
      totalShares := p.vault.totalShares + shares
      shares := set2 p.vault.shares p.vault.currentEpoch dst (p.balanceOf dst + shares) } } := by
  unfold mint at h
  obtain ⟨total, ht, h⟩ := bind_eq_ok.mp h
  obtain ⟨balance, hb, h⟩ := bind_eq_ok.mp h
  obtain ⟨-, rfl⟩ := addW_eq_ok.mp ht
  obtain ⟨-, rfl⟩ := addW_eq_ok.mp hb
  exact (pure_eq_ok.mp h).symm

theorem burn_ok {src : Address} {shares : Nat} (h : p.burn src shares = .ok p') :
    shares + p.vault.lockedShares p.vault.currentEpoch src ≤ p.balanceOf src ∧
    shares ≤ p.vault.totalShares ∧
    p' = { p with vault := { p.vault with
      totalShares := p.vault.totalShares - shares
      shares := set2 p.vault.shares p.vault.currentEpoch src (p.balanceOf src - shares) } } := by
  unfold burn at h
  obtain ⟨_, -, h⟩ := bind_eq_ok.mp h
  obtain ⟨unlocked, hu, h⟩ := bind_eq_ok.mp h
  obtain ⟨_, hl, h⟩ := bind_eq_ok.mp h
  obtain ⟨total, ht, h⟩ := bind_eq_ok.mp h
  obtain ⟨hle, rfl⟩ := subW_eq_ok.mp hu
  obtain ⟨htotal, rfl⟩ := subW_eq_ok.mp ht
  have hl := revertIf_eq_ok.mp hl
  exact ⟨by omega, htotal, (pure_eq_ok.mp h).symm⟩

/-- The balances after `amount` shares of the current epoch went from `src` to `dst`. -/
def movedShares (p : Pool) (src dst : Address) (amount : Nat) : Nat → Address → Nat :=
  let debited := set2 p.vault.shares p.vault.currentEpoch src (p.balanceOf src - amount)
  set2 debited p.vault.currentEpoch dst (debited p.vault.currentEpoch dst + amount)

theorem transferShares_ok {src dst : Address} {amount : Nat}
    (h : p.transferShares src dst amount = .ok p') :
    amount + p.vault.lockedShares p.vault.currentEpoch src ≤ p.balanceOf src ∧
    p' = { p with vault := { p.vault with shares := movedShares p src dst amount } } := by
  unfold transferShares at h
  obtain ⟨_, -, h⟩ := bind_eq_ok.mp h
  obtain ⟨_, -, h⟩ := bind_eq_ok.mp h
  obtain ⟨unlocked, hu, h⟩ := bind_eq_ok.mp h
  obtain ⟨_, hl, h⟩ := bind_eq_ok.mp h
  obtain ⟨credited, hc, h⟩ := bind_eq_ok.mp h
  obtain ⟨hle, rfl⟩ := subW_eq_ok.mp hu
  obtain ⟨-, rfl⟩ := addW_eq_ok.mp hc
  have hl := revertIf_eq_ok.mp hl
  exact ⟨by omega, (pure_eq_ok.mp h).symm⟩

theorem transferFrom_ok {src dst : Address} {amount : Nat}
    (h : p.transferFrom m src dst amount = .ok p') :
    amount + p.vault.lockedShares p.vault.currentEpoch src ≤ p.balanceOf src ∧
    ∃ allowances, p' = { p with vault := { p.vault with
      shares := movedShares p src dst amount
      allowances := allowances } } := by
  unfold transferFrom at h
  dsimp only at h
  split at h
  · obtain ⟨hunlocked, rfl⟩ := transferShares_ok h
    exact ⟨hunlocked, p.vault.allowances, rfl⟩
  · obtain ⟨_, -, h⟩ := bind_eq_ok.mp h
    obtain ⟨hunlocked, rfl⟩ := transferShares_ok h
    exact ⟨hunlocked, _, rfl⟩

/-! ### LP actions -/

/-- The pool after the vault minted `shares` to `lp` for the cash that arrived. -/
def afterDeposit (p : Pool) (lp : Address) (shares : Nat) (token : Token Address) : Pool :=
  { p with
    token := token
    vault := { p.vault with
      totalShares := p.vault.totalShares + shares
      shares := set2 p.vault.shares p.vault.currentEpoch lp (p.balanceOf lp + shares)
      trackedBalance := token.balanceOf p.vault.self } }

theorem deposit_ok {assets minShares shares : Nat}
    (h : p.deposit m assets minShares = .ok (shares, p')) :
    assets ≠ 0 ∧ shares ≠ 0 ∧ p.recapitalizationRequired m.now = .ok false ∧
    p.convertToShares m.now assets = .ok shares ∧
    ∃ token, Arrived p assets token ∧ p' = p.afterDeposit m.sender shares token := by
  unfold deposit at h
  obtain ⟨_, -, h⟩ := bind_eq_ok.mp h
  obtain ⟨_, hz, h⟩ := bind_eq_ok.mp h
  rw [absorbDonation_eq] at h
  obtain ⟨refused, hr, h⟩ := bind_eq_ok.mp h
  obtain ⟨_, hn, h⟩ := bind_eq_ok.mp h
  obtain ⟨sh, hs, h⟩ := bind_eq_ok.mp h
  obtain ⟨_, hz', h⟩ := bind_eq_ok.mp h
  obtain ⟨_, -, h⟩ := bind_eq_ok.mp h
  obtain ⟨⟨received, q⟩, hq, h⟩ := bind_eq_ok.mp h
  obtain ⟨_, hrec, h⟩ := bind_eq_ok.mp h
  obtain ⟨q', hm, h⟩ := bind_eq_ok.mp h
  have hres := pure_eq_ok.mp h
  simp only [Prod.mk.injEq] at hres
  obtain ⟨rfl, rfl⟩ := hres
  obtain ⟨token, harr, rfl⟩ := pull_ok hq
  obtain rfl := mint_ok hm
  obtain rfl : received = assets := Classical.not_not.mp (revertIf_eq_ok.mp hrec)
  have hrefused : refused = false := by simpa using revertIf_eq_ok.mp hn
  subst hrefused
  exact ⟨revertIf_eq_ok.mp hz, revertIf_eq_ok.mp hz', hr, hs, token,
    ⟨harr.self, harr.allowance⟩, rfl⟩

/-- The pool after the vault burned `shares` of `lp` and paid it. -/
def afterWithdraw (p : Pool) (lp : Address) (shares : Nat) (token : Token Address) : Pool :=
  { p with
    token := token
    vault := { p.vault with
      totalShares := p.vault.totalShares - shares
      shares := set2 p.vault.shares p.vault.currentEpoch lp (p.balanceOf lp - shares)
      trackedBalance := token.balanceOf p.vault.self } }

theorem withdraw_ok {shares minAssets assets : Nat}
    (h : p.withdraw m shares minAssets = .ok (assets, p')) :
    shares ≠ 0 ∧ assets ≠ 0 ∧ p.vault.epochRolloverRequired = false ∧
    p.vault.pendingWithdrawalShares = 0 ∧ p.convertToAssets m.now shares = .ok assets ∧
    (∃ cash, p.availableCash = .ok cash ∧ assets ≤ cash) ∧
    shares + p.vault.lockedShares p.vault.currentEpoch m.sender ≤ p.balanceOf m.sender ∧
    shares ≤ p.vault.totalShares ∧
    ∃ token, Paid p m.sender assets token ∧ p' = p.afterWithdraw m.sender shares token := by
  unfold withdraw at h
  obtain ⟨_, hz, h⟩ := bind_eq_ok.mp h
  obtain ⟨_, hroll, h⟩ := bind_eq_ok.mp h
  obtain ⟨_, hpend, h⟩ := bind_eq_ok.mp h
  rw [absorbDonation_eq] at h
  obtain ⟨a, ha, h⟩ := bind_eq_ok.mp h
  obtain ⟨_, hz', h⟩ := bind_eq_ok.mp h
  obtain ⟨_, -, h⟩ := bind_eq_ok.mp h
  obtain ⟨cash, hcash, h⟩ := bind_eq_ok.mp h
  obtain ⟨_, hle, h⟩ := bind_eq_ok.mp h
  obtain ⟨q, hq, h⟩ := bind_eq_ok.mp h
  obtain ⟨q', hq', h⟩ := bind_eq_ok.mp h
  have hres := pure_eq_ok.mp h
  simp only [Prod.mk.injEq] at hres
  obtain ⟨rfl, rfl⟩ := hres
  obtain ⟨hunlocked, htotal, rfl⟩ := burn_ok hq
  obtain ⟨token, hpaid, rfl⟩ := push_ok hq'
  exact ⟨revertIf_eq_ok.mp hz, revertIf_eq_ok.mp hz', by simpa using revertIf_eq_ok.mp hroll,
    by simpa using revertIf_eq_ok.mp hpend, ha,
    ⟨cash, hcash, Nat.le_of_not_lt (revertIf_eq_ok.mp hle)⟩, hunlocked, htotal, token,
    ⟨hpaid.self, hpaid.dst, hpaid.allowance⟩, rfl⟩

/-! ### The withdrawal queue -/

theorem requestWithdrawal_ok {shares minAssets id : Nat}
    (h : p.requestWithdrawal m shares minAssets = .ok (id, p')) :
    shares ≠ 0 ∧ p.vault.epochRolloverRequired = false ∧
    shares + p.vault.lockedShares p.vault.currentEpoch m.sender ≤ p.balanceOf m.sender ∧
    id = p.vault.nextWithdrawalId ∧
    p' = { p with vault := { p.vault with
      nextWithdrawalId := p.vault.nextWithdrawalId + 1
      withdrawals := Function.update p.vault.withdrawals p.vault.nextWithdrawalId
        { owner := m.sender, epoch := p.vault.currentEpoch, expiresAt := m.now + withdrawalTtl,
          sharesRequested := shares, sharesRemaining := shares, minAssets := minAssets,
          assetsReserved := 0, assetsClaimed := 0, cancelled := false }
      lockedShares := set2 p.vault.lockedShares p.vault.currentEpoch m.sender
        (p.vault.lockedShares p.vault.currentEpoch m.sender + shares)
      pendingWithdrawalShares := p.vault.pendingWithdrawalShares + shares } } := by
  unfold requestWithdrawal at h
  obtain ⟨_, hz, h⟩ := bind_eq_ok.mp h
  obtain ⟨_, hroll, h⟩ := bind_eq_ok.mp h
  obtain ⟨unlocked, hu, h⟩ := bind_eq_ok.mp h
  obtain ⟨_, hl, h⟩ := bind_eq_ok.mp h
  obtain ⟨_, -, h⟩ := bind_eq_ok.mp h
  obtain ⟨_, -, h⟩ := bind_eq_ok.mp h
  obtain ⟨_, -, h⟩ := bind_eq_ok.mp h
  obtain ⟨next, hn, h⟩ := bind_eq_ok.mp h
  obtain ⟨expiresAt, he, h⟩ := bind_eq_ok.mp h
  obtain ⟨locked, hlock, h⟩ := bind_eq_ok.mp h
  obtain ⟨pending, hp, h⟩ := bind_eq_ok.mp h
  obtain ⟨hle, rfl⟩ := subW_eq_ok.mp hu
  obtain ⟨-, rfl⟩ := addW_eq_ok.mp hn
  obtain ⟨-, rfl⟩ := addW_eq_ok.mp he
  obtain ⟨-, rfl⟩ := addW_eq_ok.mp hlock
  obtain ⟨-, rfl⟩ := addW_eq_ok.mp hp
  have hl := revertIf_eq_ok.mp hl
  have hres := pure_eq_ok.mp h
  simp only [Prod.mk.injEq] at hres
  exact ⟨revertIf_eq_ok.mp hz, by simpa using revertIf_eq_ok.mp hroll, by omega, hres.1.symm,
    hres.2.symm⟩

/-- The pool after the remaining shares of request `id` left the queue. -/
def afterCancel (p : Pool) (id : Nat) : Pool :=
  let r := p.vault.withdrawals id
  { p with vault := { p.vault with
    lockedShares := set2 p.vault.lockedShares r.epoch r.owner
      (p.vault.lockedShares r.epoch r.owner - r.sharesRemaining)
    pendingWithdrawalShares := p.vault.pendingWithdrawalShares -
      (if r.epoch = p.vault.currentEpoch then r.sharesRemaining else 0)
    withdrawals := Function.update p.vault.withdrawals id
      { r with sharesRemaining := 0, cancelled := true } } }

theorem cancelRequest_ok {id : Nat} (h : p.cancelRequest id = .ok p') :
    p' = p.afterCancel id := by
  unfold cancelRequest at h
  obtain ⟨locked, hl, h⟩ := bind_eq_ok.mp h
  obtain ⟨-, rfl⟩ := subW_eq_ok.mp hl
  unfold afterCancel
  dsimp only at h ⊢
  -- A request of the current epoch is in the pending total, one of a closed epoch is not.
  split at h
  · rename_i hepoch
    obtain ⟨pending, hp, h⟩ := bind_eq_ok.mp h
    obtain ⟨-, rfl⟩ := subW_eq_ok.mp hp
    rw [if_pos hepoch]
    exact (pure_eq_ok.mp h).symm
  · rename_i hepoch
    obtain ⟨pending, hp, h⟩ := bind_eq_ok.mp h
    cases hp
    rw [if_neg hepoch]
    exact (pure_eq_ok.mp h).symm

theorem cancelWithdrawal_ok {id : Nat} (h : p.cancelWithdrawal m id = .ok p') :
    (p.vault.withdrawals id).sharesRemaining ≠ 0 ∧ p' = p.afterCancel id := by
  unfold cancelWithdrawal at h
  obtain ⟨_, -, h⟩ := bind_eq_ok.mp h
  obtain ⟨_, -, h⟩ := bind_eq_ok.mp h
  obtain ⟨_, hz, h⟩ := bind_eq_ok.mp h
  exact ⟨revertIf_eq_ok.mp hz, cancelRequest_ok h⟩

/-- The pool after the head of the queue passed one request. -/
def afterAdvance (p : Pool) : Pool :=
  { p with vault := { p.vault with withdrawalHead := p.vault.withdrawalHead + 1 } }

theorem advanceHead_ok (h : p.advanceHead = .ok p') : p' = p.afterAdvance := by
  unfold advanceHead at h
  obtain ⟨head, hh, h⟩ := bind_eq_ok.mp h
  obtain ⟨-, rfl⟩ := addW_eq_ok.mp hh
  exact (pure_eq_ok.mp h).symm

/-- The pool after `shares` of request `id` were filled for `assets`. -/
def afterFill (p : Pool) (id shares assets : Nat) : Pool :=
  let r := p.vault.withdrawals id
  { p with vault := { p.vault with
    withdrawals := Function.update p.vault.withdrawals id
      { r with
        sharesRemaining := r.sharesRemaining - shares
        assetsReserved := r.assetsReserved + assets }
    lockedShares := set2 p.vault.lockedShares p.vault.currentEpoch r.owner
      (p.vault.lockedShares p.vault.currentEpoch r.owner - shares)
    pendingWithdrawalShares := p.vault.pendingWithdrawalShares - shares
    totalShares := p.vault.totalShares - shares
    shares := set2 p.vault.shares p.vault.currentEpoch r.owner (p.balanceOf r.owner - shares)
    totalWithdrawalReserved := p.vault.totalWithdrawalReserved + assets } }

theorem fill_ok {id shares assets : Nat} (h : p.fill id shares assets = .ok p') :
    shares ≤ (p.vault.withdrawals id).sharesRemaining ∧ shares ≤ p.vault.totalShares ∧
    p' = p.afterFill id shares assets := by
  unfold fill at h
  obtain ⟨remaining, hr, h⟩ := bind_eq_ok.mp h
  obtain ⟨reserved, hres, h⟩ := bind_eq_ok.mp h
  obtain ⟨locked, hl, h⟩ := bind_eq_ok.mp h
  obtain ⟨pending, hp, h⟩ := bind_eq_ok.mp h
  obtain ⟨q, hq, h⟩ := bind_eq_ok.mp h
  obtain ⟨total, ht, h⟩ := bind_eq_ok.mp h
  obtain ⟨hle, rfl⟩ := subW_eq_ok.mp hr
  obtain ⟨-, rfl⟩ := addW_eq_ok.mp hres
  obtain ⟨-, rfl⟩ := subW_eq_ok.mp hl
  obtain ⟨-, rfl⟩ := subW_eq_ok.mp hp
  obtain ⟨-, htotal, rfl⟩ := burn_ok hq
  obtain ⟨-, rfl⟩ := addW_eq_ok.mp ht
  exact ⟨hle, htotal, (pure_eq_ok.mp h).symm⟩

/-- The price of shares, in cleared form. -/
theorem convertToAssets_ok {now shares assets : Nat}
    (h : p.convertToAssets now shares = .ok assets) :
    ∃ n, p.nav now = .ok n ∧
      assets = shares * (n + virtualAssets) / (p.vault.totalShares + virtualShares) := by
  unfold convertToAssets at h
  obtain ⟨n, hn, h⟩ := bind_eq_ok.mp h
  obtain ⟨value, hv, h⟩ := bind_eq_ok.mp h
  obtain ⟨supply, hs, h⟩ := bind_eq_ok.mp h
  obtain ⟨-, rfl⟩ := addW_eq_ok.mp hv
  obtain ⟨-, rfl⟩ := addW_eq_ok.mp hs
  exact ⟨n, hn, (mulDiv_eq_ok.mp h).2.2⟩

theorem convertToShares_ok {now shares assets : Nat}
    (h : p.convertToShares now assets = .ok shares) :
    ∃ n, p.nav now = .ok n ∧
      shares = assets * (p.vault.totalShares + virtualShares) / (n + virtualAssets) := by
  unfold convertToShares at h
  obtain ⟨supply, hs, h⟩ := bind_eq_ok.mp h
  obtain ⟨n, hn, h⟩ := bind_eq_ok.mp h
  obtain ⟨value, hv, h⟩ := bind_eq_ok.mp h
  obtain ⟨-, rfl⟩ := addW_eq_ok.mp hv
  obtain ⟨-, rfl⟩ := addW_eq_ok.mp hs
  exact ⟨n, hn, (mulDiv_eq_ok.mp h).2.2⟩

/-- A quote is the price of its shares, and the cash covers it. -/
theorem quoteFill_ok {now cash shares assets : Nat} {r : WithdrawalRequest}
    (hr : r.sharesRemaining ≠ 0)
    (h : p.quoteFill now cash r = .ok (some (shares, assets))) :
    shares ≠ 0 ∧ p.convertToAssets now shares = .ok assets ∧ assets ≤ cash := by
  unfold quoteFill at h
  obtain ⟨whole, hwhole, h⟩ := bind_eq_ok.mp h
  split at h
  · obtain ⟨supply, hs, h⟩ := bind_eq_ok.mp h
    obtain ⟨-, rfl⟩ := addW_eq_ok.mp hs
    obtain ⟨n, hn, h⟩ := bind_eq_ok.mp h
    obtain ⟨value, hv, h⟩ := bind_eq_ok.mp h
    obtain ⟨-, rfl⟩ := addW_eq_ok.mp hv
    obtain ⟨part, hpart, h⟩ := bind_eq_ok.mp h
    split at h
    · cases h
    · rename_i hne
      obtain ⟨a, ha, h⟩ := bind_eq_ok.mp h
      have hres := pure_eq_ok.mp h
      simp only [Option.some.injEq, Prod.mk.injEq] at hres
      obtain ⟨rfl, rfl⟩ := hres
      refine ⟨hne, ha, ?_⟩
      -- The two roundings down: the shares the cash is worth are worth at most the cash.
      obtain ⟨n', hn', hprice⟩ := convertToAssets_ok ha
      obtain rfl : n = n' := by
        rw [hn] at hn'
        exact Except.ok.inj hn'
      rw [hprice]
      refine Nat.div_le_of_le_mul ?_
      rw [Nat.mul_comm _ cash]
      exact mulDiv_mul_le hpart
  · rename_i hle
    have hres := pure_eq_ok.mp h
    simp only [Option.some.injEq, Prod.mk.injEq] at hres
    obtain ⟨rfl, rfl⟩ := hres
    exact ⟨hr, hwhole, Nat.le_of_not_lt hle⟩

/-- What a fill of the head request has checked: it is of the current epoch, the LP cash covers
the price of the shares, and that price is not under the floor of the request. -/
structure HeadFill (now : Nat) (p : Pool) (shares assets : Nat) : Prop where
  epoch : (p.vault.withdrawals p.vault.withdrawalHead).epoch = p.vault.currentEpoch
  shares_ne_zero : shares ≠ 0
  assets_ne_zero : assets ≠ 0
  le_remaining : shares ≤ (p.vault.withdrawals p.vault.withdrawalHead).sharesRemaining
  le_totalShares : shares ≤ p.vault.totalShares
  price : p.convertToAssets now shares = .ok assets
  cash : ∃ cash, p.lpCash = .ok cash ∧ assets ≤ cash
  floor : ∃ minimum, (mulDivUp (p.vault.withdrawals p.vault.withdrawalHead).minAssets shares
      (p.vault.withdrawals p.vault.withdrawalHead).sharesRequested : Except Revert Nat) =
        .ok minimum ∧ minimum ≤ assets

/-- The outcomes of one iteration of the queue loop. -/
inductive HeadStep (now : Nat) (p : Pool) : HeadOutcome → Prop
  | stop : HeadStep now p .stop
  | passed (h : (p.vault.withdrawals p.vault.withdrawalHead).sharesRemaining = 0 ∨
      (p.vault.withdrawals p.vault.withdrawalHead).epoch ≠ p.vault.currentEpoch) :
      HeadStep now p (.skip p.afterAdvance)
  | expired (h : (p.vault.withdrawals p.vault.withdrawalHead).sharesRemaining ≠ 0) :
      HeadStep now p (.skip (p.afterCancel p.vault.withdrawalHead).afterAdvance)
  | whole {shares assets : Nat} (h : HeadFill now p shares assets)
      (hall : shares = (p.vault.withdrawals p.vault.withdrawalHead).sharesRemaining) :
      HeadStep now p (.filled p.vault.withdrawalHead shares assets
        (p.afterFill p.vault.withdrawalHead shares assets).afterAdvance true)
  | part {shares assets : Nat} (h : HeadFill now p shares assets)
      (hpart : shares < (p.vault.withdrawals p.vault.withdrawalHead).sharesRemaining) :
      HeadStep now p (.filled p.vault.withdrawalHead shares assets
        (p.afterFill p.vault.withdrawalHead shares assets) false)

theorem processHead_ok {now : Nat} {o : HeadOutcome} (h : p.processHead now = .ok o) :
    HeadStep now p o := by
  unfold processHead at h
  dsimp only at h
  split at h
  · rename_i hpast
    obtain ⟨q, hq, h⟩ := bind_eq_ok.mp h
    obtain rfl := advanceHead_ok hq
    rw [← pure_eq_ok.mp h]
    exact .passed hpast
  · rename_i hlive
    have hr : (p.vault.withdrawals p.vault.withdrawalHead).sharesRemaining ≠ 0 :=
      fun hz => hlive (Or.inl hz)
    have he : (p.vault.withdrawals p.vault.withdrawalHead).epoch = p.vault.currentEpoch :=
      Classical.not_not.mp fun hne => hlive (Or.inr hne)
    split at h
    · obtain ⟨q, hq, h⟩ := bind_eq_ok.mp h
      obtain ⟨q', hq', h⟩ := bind_eq_ok.mp h
      obtain rfl := cancelRequest_ok hq
      obtain rfl := advanceHead_ok hq'
      rw [← pure_eq_ok.mp h]
      exact .expired hr
    · obtain ⟨cash, hcash, h⟩ := bind_eq_ok.mp h
      split at h
      · rw [← pure_eq_ok.mp h]
        exact .stop
      obtain ⟨n, -, h⟩ := bind_eq_ok.mp h
      split at h
      · rw [← pure_eq_ok.mp h]
        exact .stop
      obtain ⟨quote, hquote, h⟩ := bind_eq_ok.mp h
      split at h
      · rw [← pure_eq_ok.mp h]
        exact .stop
      rename_i shares assets
      split at h
      · rw [← pure_eq_ok.mp h]
        exact .stop
      rename_i hassets
      obtain ⟨minimum, hminimum, h⟩ := bind_eq_ok.mp h
      split at h
      · rw [← pure_eq_ok.mp h]
        exact .stop
      rename_i hfloor
      obtain ⟨q, hq, h⟩ := bind_eq_ok.mp h
      obtain ⟨hle, htotal, rfl⟩ := fill_ok hq
      obtain ⟨hshares, hprice, hcovers⟩ := quoteFill_ok hr hquote
      have hfill : HeadFill now p shares assets :=
        ⟨he, hshares, hassets, hle, htotal, hprice, ⟨cash, hcash, hcovers⟩,
          minimum, hminimum, Nat.le_of_not_lt hfloor⟩
      split at h
      · rename_i hrem
        obtain ⟨q', hq', h⟩ := bind_eq_ok.mp h
        obtain rfl := advanceHead_ok hq'
        rw [← pure_eq_ok.mp h]
        refine .whole hfill ?_
        simp only [afterFill, Function.update_self] at hrem
        omega
      · rename_i hrem
        rw [← pure_eq_ok.mp h]
        refine .part hfill ?_
        simp only [afterFill, Function.update_self] at hrem
        omega

/-- What holds before the queue loop and is kept by each of its iterations holds after it. The
invariant may speak about the assets reserved so far. -/
theorem processLoop_invariant {now : Nat} {P : Nat → Pool → Prop}
    (hskip : ∀ n q q', P n q → q.vault.withdrawalHead < q.vault.nextWithdrawalId →
      HeadStep now q (.skip q') → P n q')
    (hfilled : ∀ n q q' id shares assets whole, P n q →
      q.vault.withdrawalHead < q.vault.nextWithdrawalId →
      HeadStep now q (.filled id shares assets q' whole) → P (n + assets) q') :
    ∀ {fuel : Nat} {p p' : Pool} {filled reserved filled' reserved' : Nat},
      processLoop now fuel p filled reserved = .ok (filled', reserved', p') →
      P reserved p → P reserved' p' := by
  intro fuel
  induction fuel with
  | zero =>
    intro p p' filled reserved filled' reserved' h hp
    cases h
    exact hp
  | succ fuel ih =>
    intro p p' filled reserved filled' reserved' h hp
    unfold processLoop at h
    split at h
    · rename_i hlt
      obtain ⟨o, ho, h⟩ := bind_eq_ok.mp h
      have hstep := processHead_ok ho
      cases o with
      | stop =>
        have hres := pure_eq_ok.mp h
        simp only [Prod.mk.injEq] at hres
        rw [← hres.2.1, ← hres.2.2]
        exact hp
      | skip q => exact ih h (hskip _ _ _ hp hlt hstep)
      | filled id shares assets q whole =>
        have hq := hfilled _ _ _ _ _ _ _ hp hlt hstep
        obtain ⟨total, ht, h⟩ := bind_eq_ok.mp h
        obtain ⟨-, rfl⟩ := addW_eq_ok.mp ht
        split at h
        · exact ih h hq
        · have hres := pure_eq_ok.mp h
          simp only [Prod.mk.injEq] at hres
          rw [← hres.2.1, ← hres.2.2]
          exact hq
    · cases h
      exact hp

theorem processWithdrawals_ok {maxRequests filled reserved : Nat}
    (h : p.processWithdrawals m maxRequests = .ok (filled, reserved, p')) :
    p.vault.epochRolloverRequired = false ∧
    processLoop m.now maxRequests
      (p.withTracked (max p.vault.trackedBalance p.cashBalance)) 0 0 =
        .ok (filled, reserved, p') := by
  unfold processWithdrawals at h
  obtain ⟨_, -, h⟩ := bind_eq_ok.mp h
  obtain ⟨_, hroll, h⟩ := bind_eq_ok.mp h
  rw [absorbDonation_eq] at h
  exact ⟨by simpa using revertIf_eq_ok.mp hroll, h⟩

theorem claimWithdrawal_ok {id assets : Nat}
    (h : p.claimWithdrawal m id = .ok (assets, p')) :
    (p.vault.withdrawals id).assetsClaimed + assets = (p.vault.withdrawals id).assetsReserved ∧
    assets ≤ p.vault.totalWithdrawalReserved ∧
    ∃ token, Paid p (p.vault.withdrawals id).owner assets token ∧
      p' = { p with
        token := token
        vault := { p.vault with
          withdrawals := Function.update p.vault.withdrawals id
            { p.vault.withdrawals id with
              assetsClaimed := (p.vault.withdrawals id).assetsClaimed + assets }
          totalWithdrawalReserved := p.vault.totalWithdrawalReserved - assets
          trackedBalance := token.balanceOf p.vault.self } } := by
  unfold claimWithdrawal at h
  obtain ⟨_, -, h⟩ := bind_eq_ok.mp h
  obtain ⟨_, -, h⟩ := bind_eq_ok.mp h
  obtain ⟨a, ha, h⟩ := bind_eq_ok.mp h
  obtain ⟨_, -, h⟩ := bind_eq_ok.mp h
  obtain ⟨claimed, hc, h⟩ := bind_eq_ok.mp h
  obtain ⟨reserved, hr, h⟩ := bind_eq_ok.mp h
  obtain ⟨q, hq, h⟩ := bind_eq_ok.mp h
  obtain ⟨hle, rfl⟩ := subW_eq_ok.mp ha
  obtain ⟨-, rfl⟩ := addW_eq_ok.mp hc
  obtain ⟨hres, rfl⟩ := subW_eq_ok.mp hr
  obtain ⟨token, hpaid, rfl⟩ := push_ok hq
  have hout := pure_eq_ok.mp h
  simp only [Prod.mk.injEq] at hout
  obtain ⟨rfl, rfl⟩ := hout
  exact ⟨by omega, hres, token, ⟨hpaid.self, hpaid.dst, hpaid.allowance⟩, rfl⟩

/-! ### Loss epochs -/

theorem fullyWrittenOff_ok {now : Nat} (h : p.fullyWrittenOff now = .ok true) :
    p.vault.epochRolloverRequired = true ∧ p.vault.totalShares ≠ 0 ∧
    p.performingReceivables now = .ok 0 ∧ p.vault.totalImpairment = 0 := by
  unfold fullyWrittenOff at h
  split at h
  · cases h
  · rename_i hlatch
    obtain ⟨performing, hp, h⟩ := bind_eq_ok.mp h
    have hzero : performing = 0 ∧ p.vault.totalImpairment = 0 := by simpa using pure_eq_ok.mp h
    obtain ⟨rfl, himp⟩ := hzero
    exact ⟨by simpa using fun hf => hlatch (Or.inl hf), fun hz => hlatch (Or.inr hz), hp, himp⟩

/-- The pool after the epoch closed with `residual` cash for its holders. -/
def afterRoll (p : Pool) (residual : Nat) : Pool :=
  { p with vault := { p.vault with
    trackedBalance := max p.vault.trackedBalance p.cashBalance
    epochRecoveryReceived := Function.update p.vault.epochRecoveryReceived p.vault.currentEpoch
      (p.vault.epochRecoveryReceived p.vault.currentEpoch + residual)
    totalRecoveryReserved := p.vault.totalRecoveryReserved + residual
    closedEpochShares := Function.update p.vault.closedEpochShares p.vault.currentEpoch
      p.vault.totalShares
    currentEpoch := p.vault.currentEpoch + 1
    epochRolloverRequired := false
    totalShares := 0
    pendingWithdrawalShares := 0
    withdrawalHead := p.vault.nextWithdrawalId } }

theorem rollLossEpoch_ok (h : p.rollLossEpoch m = .ok p') :
    p.fullyWrittenOff m.now = .ok true ∧
    ∃ residual, p.lpCash = .ok residual ∧
      p.vault.epochRecoveryReceived p.vault.currentEpoch + residual < wordSize 256 ∧
      p' = p.afterRoll residual := by
  unfold rollLossEpoch at h
  obtain ⟨_, -, h⟩ := bind_eq_ok.mp h
  obtain ⟨lost, hlost, h⟩ := bind_eq_ok.mp h
  obtain ⟨_, hl, h⟩ := bind_eq_ok.mp h
  have htrue : lost = true := by simpa using revertIf_eq_ok.mp hl
  rw [absorbDonation_eq] at h
  obtain ⟨residual, hres, h⟩ := bind_eq_ok.mp h
  obtain ⟨received, hrec, h⟩ := bind_eq_ok.mp h
  obtain ⟨reserved, hrsv, h⟩ := bind_eq_ok.mp h
  obtain ⟨next, hnext, h⟩ := bind_eq_ok.mp h
  obtain ⟨hword, rfl⟩ := addW_eq_ok.mp hrec
  obtain ⟨-, rfl⟩ := addW_eq_ok.mp hrsv
  obtain ⟨-, rfl⟩ := addW_eq_ok.mp hnext
  exact ⟨htrue ▸ hlost, residual, hres, hword, (pure_eq_ok.mp h).symm⟩

/-- What a holder of a closed epoch can claim is what it has earned and not yet claimed. -/
theorem recoveryClaimable_ok {epoch assets : Nat} {lp : Address}
    (hopen : ¬(epoch ≥ p.vault.currentEpoch ∨ p.vault.closedEpochShares epoch = 0))
    (h : p.recoveryClaimable epoch lp = .ok assets) :
    p.vault.epochRecoveryClaimed epoch lp + assets =
      p.vault.epochRecoveryReceived epoch * p.vault.shares epoch lp /
        p.vault.closedEpochShares epoch := by
  unfold recoveryClaimable at h
  dsimp only at h
  rw [if_neg hopen] at h
  obtain ⟨earned, he, h⟩ := bind_eq_ok.mp h
  obtain ⟨-, -, rfl⟩ := mulDiv_eq_ok.mp he
  obtain ⟨hle, rfl⟩ := subW_eq_ok.mp h
  omega

theorem claimEpochRecovery_ok {epoch assets : Nat}
    (h : p.claimEpochRecovery m epoch = .ok (assets, p')) :
    epoch < p.vault.currentEpoch ∧
    p.vault.epochRecoveryClaimed epoch m.sender + assets =
      p.vault.epochRecoveryReceived epoch * p.vault.shares epoch m.sender /
        p.vault.closedEpochShares epoch ∧
    assets ≤ p.vault.totalRecoveryReserved ∧
    ∃ token, Paid p m.sender assets token ∧
      p' = { p with
        token := token
        vault := { p.vault with
          epochRecoveryClaimed := set2 p.vault.epochRecoveryClaimed epoch m.sender
            (p.vault.epochRecoveryClaimed epoch m.sender + assets)
          totalRecoveryReserved := p.vault.totalRecoveryReserved - assets
          trackedBalance := token.balanceOf p.vault.self } } := by
  unfold claimEpochRecovery at h
  obtain ⟨_, hopen, h⟩ := bind_eq_ok.mp h
  obtain ⟨a, ha, h⟩ := bind_eq_ok.mp h
  obtain ⟨_, -, h⟩ := bind_eq_ok.mp h
  obtain ⟨claimed, hc, h⟩ := bind_eq_ok.mp h
  obtain ⟨reserved, hr, h⟩ := bind_eq_ok.mp h
  obtain ⟨q, hq, h⟩ := bind_eq_ok.mp h
  obtain ⟨-, rfl⟩ := addW_eq_ok.mp hc
  obtain ⟨hres, rfl⟩ := subW_eq_ok.mp hr
  obtain ⟨token, hpaid, rfl⟩ := push_ok hq
  have hout := pure_eq_ok.mp h
  simp only [Prod.mk.injEq] at hout
  obtain ⟨rfl, rfl⟩ := hout
  have hopen := revertIf_eq_ok.mp hopen
  exact ⟨by omega, recoveryClaimable_ok hopen ha, hres, token,
    ⟨hpaid.self, hpaid.dst, hpaid.allowance⟩, rfl⟩

/-- The part of an amount that a recovery of facility `id` sets aside for a closed epoch:
all of it when the facility was written off in an epoch that is closed, else nothing. -/
def oldEpochPart (p : Pool) (id : FacilityId) (amount : Nat) : Nat :=
  if p.vault.isWrittenOff id = true ∧ p.vault.writeOffEpoch id ≠ 0 ∧
      p.vault.writeOffEpoch id < p.vault.currentEpoch then amount else 0

/-- What was checked before a part of a recovery was set aside for a closed epoch. -/
def OldEpochChecked (p : Pool) (id : FacilityId) (amount : Nat) : Prop :=
  p.oldEpochPart id amount ≠ 0 →
    p.vault.writeOffEpoch id ≠ 0 ∧ p.vault.writeOffEpoch id < p.vault.currentEpoch ∧
    p.vault.epochRecoveryReceived (p.vault.writeOffEpoch id) + p.oldEpochPart id amount <
      wordSize 256

/-- The pool after `amount` was set aside for the holders of the epoch `e`. -/
def afterReserve (p : Pool) (e amount : Nat) : Pool :=
  { p with vault := { p.vault with
    epochRecoveryReceived := Function.update p.vault.epochRecoveryReceived e
      (p.vault.epochRecoveryReceived e + amount)
    totalRecoveryReserved := p.vault.totalRecoveryReserved + amount } }

theorem reserveOldEpochRecovery_ok {id : FacilityId} {amount : Nat}
    (h : p.reserveOldEpochRecovery id amount = .ok p') :
    p' = p.afterReserve (p.vault.writeOffEpoch id) (p.oldEpochPart id amount) ∧
    p.OldEpochChecked id amount := by
  unfold reserveOldEpochRecovery at h
  dsimp only at h
  split at h
  · rename_i hskip
    have hzero : p.oldEpochPart id amount = 0 := by
      unfold oldEpochPart
      split
      · rename_i hold
        rcases hskip with hw | he | he | ha
        · simp [hw] at hold
        · exact absurd he hold.2.1
        · omega
        · exact ha
      · rfl
    obtain rfl := pure_eq_ok.mp h
    refine ⟨?_, fun hne => absurd hzero hne⟩
    simp [hzero, afterReserve]
  · rename_i hkeep
    obtain ⟨received, hr, h⟩ := bind_eq_ok.mp h
    obtain ⟨reserved, hs, h⟩ := bind_eq_ok.mp h
    obtain ⟨hword, rfl⟩ := addW_eq_ok.mp hr
    obtain ⟨-, rfl⟩ := addW_eq_ok.mp hs
    obtain rfl := pure_eq_ok.mp h
    have hepoch : p.vault.writeOffEpoch id ≠ 0 ∧ p.vault.writeOffEpoch id < p.vault.currentEpoch :=
      ⟨fun hz => hkeep (Or.inr (Or.inl hz)),
        Nat.lt_of_not_le fun hle => hkeep (Or.inr (Or.inr (Or.inl hle)))⟩
    have hw : p.vault.isWrittenOff id = true := by
      simpa using fun hf => hkeep (Or.inl hf)
    have hall : p.oldEpochPart id amount = amount := if_pos ⟨hw, hepoch⟩
    exact ⟨by rw [hall]; rfl, fun _ => ⟨hepoch.1, hepoch.2, hall.symm ▸ hword⟩⟩

/-! ### Manager actions -/

theorem lend_ok {id : FacilityId} {dst : Address} {amount : Nat}
    (h : p.lend m id dst amount = .ok p') :
    p.vault.isManager m.sender = true ∧ p.vault.isWrittenOff id = false ∧
    (∃ cash, p.lpCash = .ok cash ∧ amount ≤ cash) ∧
    ∃ token, Paid p dst amount token ∧
      p' = { p with
        token := token
        vault := { p.vault with trackedBalance := token.balanceOf p.vault.self } } := by
  unfold lend at h
  obtain ⟨_, hm, h⟩ := bind_eq_ok.mp h
  obtain ⟨_, -, h⟩ := bind_eq_ok.mp h
  obtain ⟨_, -, h⟩ := bind_eq_ok.mp h
  obtain ⟨_, hw, h⟩ := bind_eq_ok.mp h
  obtain ⟨_, hroll, h⟩ := bind_eq_ok.mp h
  obtain ⟨_, hpend, h⟩ := bind_eq_ok.mp h
  rw [absorbDonation_eq] at h
  obtain ⟨cash, hcash, h⟩ := bind_eq_ok.mp h
  obtain ⟨_, hle, h⟩ := bind_eq_ok.mp h
  obtain ⟨q, hq, h⟩ := bind_eq_ok.mp h
  obtain ⟨token, hpaid, rfl⟩ := push_ok hq
  obtain rfl := pure_eq_ok.mp h
  -- With no queue and no latch, `availableCash` is the LP cash.
  have hroll := revertIf_eq_ok.mp hroll
  have hpend := revertIf_eq_ok.mp hpend
  have havail : p.availableCash = p.lpCash := by
    unfold availableCash
    exact if_neg (by simp_all)
  refine ⟨by simpa using revertIf_eq_ok.mp hm, by simpa using revertIf_eq_ok.mp hw,
    ⟨cash, havail ▸ hcash, Nat.le_of_not_lt (revertIf_eq_ok.mp hle)⟩, token,
    ⟨hpaid.self, hpaid.dst, hpaid.allowance⟩, rfl⟩

theorem arrived_le : p.arrived + p.vault.trackedBalance = max p.cashBalance p.vault.trackedBalance := by
  unfold arrived
  split <;> omega

/-- The allowance released when the debt of `id` falls to `newDebt`. -/
def impairmentRelease (p : Pool) (id : FacilityId) (newDebt : Nat) : Nat :=
  p.vault.impairmentOf id - newDebt

theorem capImpairment_ok {id : FacilityId} {newDebt : Nat}
    (h : p.capImpairment id newDebt = .ok p') :
    p.impairmentRelease id newDebt ≤ p.vault.totalImpairment ∧
    p' = { p with vault := { p.vault with
      impairmentOf := Function.update p.vault.impairmentOf id
        (p.vault.impairmentOf id - p.impairmentRelease id newDebt)
      totalImpairment := p.vault.totalImpairment - p.impairmentRelease id newDebt } } := by
  unfold capImpairment at h
  dsimp only at h
  unfold impairmentRelease
  split at h
  · rename_i hgt
    obtain ⟨total, ht, h⟩ := bind_eq_ok.mp h
    obtain ⟨hle, rfl⟩ := subW_eq_ok.mp ht
    refine ⟨hle, ?_⟩
    rw [← pure_eq_ok.mp h, Nat.sub_sub_self (Nat.le_of_lt hgt)]
  · rename_i hle
    obtain rfl := pure_eq_ok.mp h
    rw [Nat.sub_eq_zero_of_le (Nat.le_of_not_lt hle)]
    refine ⟨Nat.zero_le _, ?_⟩
    simp

/-- The pool after the split `result` of a repayment of `id` was recorded. -/
def afterRepayment (p : Pool) (id : FacilityId) (result : RepayResult) : Pool :=
  { p with vault := { p.vault with
    refundableOf := Function.update p.vault.refundableOf id
      (p.vault.refundableOf id + result.excess)
    totalBorrowerOwned := p.vault.totalBorrowerOwned + result.excess
    impairmentOf := Function.update p.vault.impairmentOf id
      (p.vault.impairmentOf id - p.impairmentRelease id result.newDebt)
    totalImpairment := p.vault.totalImpairment - p.impairmentRelease id result.newDebt
    epochRecoveryReceived := Function.update p.vault.epochRecoveryReceived
      (p.vault.writeOffEpoch id) (p.vault.epochRecoveryReceived (p.vault.writeOffEpoch id) +
        p.oldEpochPart id result.applied)
    totalRecoveryReserved := p.vault.totalRecoveryReserved + p.oldEpochPart id result.applied
    trackedBalance := p.cashBalance } }

theorem onRepayment_ok {id : FacilityId} {result : RepayResult}
    (h : p.onRepayment m id result = .ok p') :
    p.vault.isManager m.sender = true ∧
    result.applied + result.excess = result.received ∧
    p.vault.trackedBalance + result.received ≤ p.cashBalance ∧
    p.impairmentRelease id result.newDebt ≤ p.vault.totalImpairment ∧
    p.OldEpochChecked id result.applied ∧ p' = p.afterRepayment id result := by
  unfold onRepayment at h
  obtain ⟨_, hm, h⟩ := bind_eq_ok.mp h
  obtain ⟨_, hz, h⟩ := bind_eq_ok.mp h
  obtain ⟨split, hsplit, h⟩ := bind_eq_ok.mp h
  obtain ⟨-, rfl⟩ := addW_eq_ok.mp hsplit
  obtain ⟨_, hwhole, h⟩ := bind_eq_ok.mp h
  obtain ⟨_, harr, h⟩ := bind_eq_ok.mp h
  obtain ⟨refundable, hr, h⟩ := bind_eq_ok.mp h
  obtain ⟨-, rfl⟩ := addW_eq_ok.mp hr
  obtain ⟨owned, ho, h⟩ := bind_eq_ok.mp h
  obtain ⟨-, rfl⟩ := addW_eq_ok.mp ho
  obtain ⟨q, hq, h⟩ := bind_eq_ok.mp h
  obtain ⟨hrel, rfl⟩ := capImpairment_ok hq
  obtain ⟨q', hq', h⟩ := bind_eq_ok.mp h
  obtain ⟨rfl, hold⟩ := reserveOldEpochRecovery_ok hq'
  obtain rfl := pure_eq_ok.mp h
  have hwhole := Classical.not_not.mp (revertIf_eq_ok.mp hwhole)
  have harr := revertIf_eq_ok.mp harr
  have hz : result.received ≠ 0 := revertIf_eq_ok.mp hz
  have htracked := @arrived_le p
  exact ⟨by simpa using revertIf_eq_ok.mp hm, hwhole, by omega, hrel, hold, rfl⟩

/-- The repayment pair: the allocation, and its result as the vault records it. -/
theorem repay_ok {id : FacilityId} {received requested : Nat} {r : RepayResult}
    (h : p.repay m id received requested = .ok (r, p')) :
    ∃ split ledger, p.ledger.allocate m id received = .ok (split, ledger) ∧
      r = { split with requested := requested } ∧
      onRepayment m id r { p with ledger := ledger } = .ok p' := by
  unfold repay at h
  obtain ⟨⟨split, ledger⟩, hl, h⟩ := bind_eq_ok.mp h
  obtain ⟨q, hq, h⟩ := bind_eq_ok.mp h
  have hres := pure_eq_ok.mp h
  simp only [Prod.mk.injEq] at hres
  obtain ⟨rfl, rfl⟩ := hres
  exact ⟨split, ledger, hl, rfl, hq⟩

theorem refundExcess_ok {id : FacilityId} {dst : Address} {amount : Nat}
    (h : p.refundExcess m id dst amount = .ok p') :
    amount ≤ p.vault.refundableOf id ∧ amount ≤ p.vault.totalBorrowerOwned ∧
    ∃ token, Paid p dst amount token ∧
      p' = { p with
        token := token
        vault := { p.vault with
          refundableOf := Function.update p.vault.refundableOf id
            (p.vault.refundableOf id - amount)
          totalBorrowerOwned := p.vault.totalBorrowerOwned - amount
          trackedBalance := token.balanceOf p.vault.self } } := by
  unfold refundExcess at h
  obtain ⟨_, -, h⟩ := bind_eq_ok.mp h
  obtain ⟨_, -, h⟩ := bind_eq_ok.mp h
  obtain ⟨_, -, h⟩ := bind_eq_ok.mp h
  obtain ⟨_, hle, h⟩ := bind_eq_ok.mp h
  obtain ⟨owned, ho, h⟩ := bind_eq_ok.mp h
  obtain ⟨hown, rfl⟩ := subW_eq_ok.mp ho
  obtain ⟨q, hq, h⟩ := bind_eq_ok.mp h
  obtain ⟨token, hpaid, rfl⟩ := push_ok hq
  obtain rfl := pure_eq_ok.mp h
  exact ⟨Nat.le_of_not_lt (revertIf_eq_ok.mp hle), hown, token,
    ⟨hpaid.self, hpaid.dst, hpaid.allowance⟩, rfl⟩

theorem recordRecovery_ok {id : FacilityId} {amount : Nat}
    (h : p.recordRecovery m id amount = .ok p') :
    p.vault.isWrittenOff id = true ∧ p.vault.trackedBalance + amount ≤ p.cashBalance ∧
    p.OldEpochChecked id amount ∧
    p' = (p.afterReserve (p.vault.writeOffEpoch id) (p.oldEpochPart id amount)).track := by
  unfold recordRecovery at h
  obtain ⟨_, -, h⟩ := bind_eq_ok.mp h
  obtain ⟨_, hz, h⟩ := bind_eq_ok.mp h
  obtain ⟨_, hw, h⟩ := bind_eq_ok.mp h
  obtain ⟨_, harr, h⟩ := bind_eq_ok.mp h
  obtain ⟨q, hq, h⟩ := bind_eq_ok.mp h
  obtain ⟨rfl, hold⟩ := reserveOldEpochRecovery_ok hq
  obtain rfl := pure_eq_ok.mp h
  have harr := revertIf_eq_ok.mp harr
  have hz : amount ≠ 0 := revertIf_eq_ok.mp hz
  have htracked := @arrived_le p
  exact ⟨by simpa using revertIf_eq_ok.mp hw, by omega, hold, rfl⟩

/-! ### Losses -/

theorem recognizeImpairment_ok {id : FacilityId} {amount : Nat}
    (h : p.recognizeImpairment m id amount = .ok p') :
    p.vault.isWrittenOff id = false ∧
    (∃ exposure, p.ledger.legalDebtAt id m.now = .ok exposure ∧
      p.vault.impairmentOf id + amount ≤ exposure) ∧
    p' = { p with vault := { p.vault with
      impairmentOf := Function.update p.vault.impairmentOf id (p.vault.impairmentOf id + amount)
      totalImpairment := p.vault.totalImpairment + amount } } := by
  unfold recognizeImpairment at h
  obtain ⟨_, -, h⟩ := bind_eq_ok.mp h
  obtain ⟨_, -, h⟩ := bind_eq_ok.mp h
  obtain ⟨_, hw, h⟩ := bind_eq_ok.mp h
  obtain ⟨exposure, hexp, h⟩ := bind_eq_ok.mp h
  obtain ⟨after_, ha, h⟩ := bind_eq_ok.mp h
  obtain ⟨-, rfl⟩ := addW_eq_ok.mp ha
  obtain ⟨_, hle, h⟩ := bind_eq_ok.mp h
  obtain ⟨total, ht, h⟩ := bind_eq_ok.mp h
  obtain ⟨-, rfl⟩ := addW_eq_ok.mp ht
  exact ⟨by simpa using revertIf_eq_ok.mp hw,
    ⟨exposure, hexp, Nat.le_of_not_lt (revertIf_eq_ok.mp hle)⟩, (pure_eq_ok.mp h).symm⟩

theorem reverseImpairment_ok {id : FacilityId} {amount : Nat}
    (h : p.reverseImpairment m id amount = .ok p') :
    amount ≤ p.vault.impairmentOf id ∧ amount ≤ p.vault.totalImpairment ∧
    p' = { p with vault := { p.vault with
      impairmentOf := Function.update p.vault.impairmentOf id (p.vault.impairmentOf id - amount)
      totalImpairment := p.vault.totalImpairment - amount } } := by
  unfold reverseImpairment at h
  obtain ⟨_, -, h⟩ := bind_eq_ok.mp h
  obtain ⟨_, -, h⟩ := bind_eq_ok.mp h
  obtain ⟨_, hle, h⟩ := bind_eq_ok.mp h
  obtain ⟨total, ht, h⟩ := bind_eq_ok.mp h
  obtain ⟨htotal, rfl⟩ := subW_eq_ok.mp ht
  exact ⟨Nat.le_of_not_lt (revertIf_eq_ok.mp hle), htotal, (pure_eq_ok.mp h).symm⟩

/-- The pool after `id` was written off, before the latch. -/
def markWrittenOff (p : Pool) (id : FacilityId) : Pool :=
  { p with vault := { p.vault with
    impairmentOf := Function.update p.vault.impairmentOf id 0
    totalImpairment := p.vault.totalImpairment - p.vault.impairmentOf id
    isWrittenOff := Function.update p.vault.isWrittenOff id true
    writeOffEpoch := Function.update p.vault.writeOffEpoch id p.vault.currentEpoch
    writtenOff := p.vault.writtenOff ++ [id] } }

/-- The pool after the latch was raised. -/
def latch (p : Pool) (lost : Bool) : Pool :=
  { p with vault := { p.vault with
    epochRolloverRequired := p.vault.epochRolloverRequired || lost } }

theorem writeOff_ok {id : FacilityId} (h : p.writeOff m id = .ok p') :
    p.vault.isWrittenOff id = false ∧
    (∃ interest, p.ledger.unpaidInterestAt id m.now = .ok interest) ∧
    p.vault.impairmentOf id ≤ p.vault.totalImpairment ∧
    ∃ lost, (p.markWrittenOff id).totalLoss m.now = .ok lost ∧
      p' = (p.markWrittenOff id).latch lost := by
  unfold writeOff at h
  obtain ⟨_, -, h⟩ := bind_eq_ok.mp h
  obtain ⟨_, -, h⟩ := bind_eq_ok.mp h
  obtain ⟨_, hw, h⟩ := bind_eq_ok.mp h
  obtain ⟨interest, hi, h⟩ := bind_eq_ok.mp h
  obtain ⟨total, ht, h⟩ := bind_eq_ok.mp h
  obtain ⟨htotal, rfl⟩ := subW_eq_ok.mp ht
  obtain ⟨lost, hl, h⟩ := bind_eq_ok.mp h
  exact ⟨by simpa using revertIf_eq_ok.mp hw, ⟨interest, hi⟩, htotal, lost, hl,
    (pure_eq_ok.mp h).symm⟩

end Pool

end Rackline
