import Rackline.Proofs.VaultOps
import Rackline.Lib.ShareQueue

/-!
# `Rackline.Proofs.LpBook`: the vault keeps the book of a share queue

`Vault.lpBook` reads the book of `Rackline.Lib.ShareQueue` off the storage of the vault: the
shares, the queue, the reserves and the closed epochs. Every vault call is a run of moves of
that book, so every invariant of the book holds in every state of every run of the pool.
-/

set_option autoImplicit false

namespace Rackline

open Evm Transition

/-- What the share queue knows of a withdrawal request. -/
def WithdrawalRequest.toRequest (r : WithdrawalRequest) : ShareQueue.Request Address where
  owner := r.owner
  epoch := r.epoch
  remaining := r.sharesRemaining
  reserved := r.assetsReserved
  claimed := r.assetsClaimed

/-- The book of shares, requests and closed epochs that the vault keeps. -/
def Vault.lpBook (v : Vault) : ShareQueue.Book Address where
  epoch := v.currentEpoch
  totalShares := v.totalShares
  shares := v.shares
  locked := v.lockedShares
  pending := v.pendingWithdrawalShares
  next := v.nextWithdrawalId
  head := v.withdrawalHead
  requests := fun id => (v.withdrawals id).toRequest
  withdrawalReserved := v.totalWithdrawalReserved
  closedShares := v.closedEpochShares
  received := v.epochRecoveryReceived
  claimed := v.epochRecoveryClaimed
  recoveryReserved := v.totalRecoveryReserved

/-- A write to one request is a write to its view. -/
theorem toRequest_update (w : Nat → WithdrawalRequest) (id : Nat) (r : WithdrawalRequest) :
    (fun i => (Function.update w id r i).toRequest) =
      Function.update (fun i => (w i).toRequest) id r.toRequest := by
  funext i
  by_cases hi : i = id
  · simp [hi]
  · simp [Function.update_of_ne hi]

namespace Pool

variable {p p' : Pool} {m : Msg}

/-! ### The moves of the book -/

theorem lpBook_afterAdvance (p : Pool) :
    p.afterAdvance.vault.lpBook = p.vault.lpBook.advance := rfl

theorem lpBook_afterRepayment (p : Pool) (id : FacilityId) (r : RepayResult) :
    (p.afterRepayment id r).vault.lpBook =
      p.vault.lpBook.receive (p.vault.writeOffEpoch id) (p.oldEpochPart id r.applied) := rfl

theorem lpBook_afterCancel (p : Pool) (id : Nat) :
    (p.afterCancel id).vault.lpBook = p.vault.lpBook.cancel id := by
  unfold afterCancel Vault.lpBook ShareQueue.Book.cancel
  simp only [toRequest_update]
  rfl

theorem lpBook_afterFill (p : Pool) (shares assets : Nat) :
    (p.afterFill p.vault.withdrawalHead shares assets).vault.lpBook =
      p.vault.lpBook.fill shares assets := by
  unfold afterFill Vault.lpBook ShareQueue.Book.fill ShareQueue.Book.serve ShareQueue.Book.burn
  simp only [toRequest_update]
  rfl

/-- Setting nothing aside is no move; setting something aside is a move for a closed epoch. -/
theorem run_receive {e amount : Nat} {b : ShareQueue.Book Address}
    (h : amount ≠ 0 → e ≠ 0 ∧ e < b.epoch) : ShareQueue.Run b (b.receive e amount) := by
  by_cases hz : amount = 0
  · subst hz
    have hsame : b.receive e 0 = b := by
      simp [ShareQueue.Book.receive]
    rw [hsame]
    exact .refl
  · exact .single (.receive b e amount (h hz).1 (h hz).2)

/-! ### One iteration of the queue -/

theorem run_skip {now : Nat} (hlt : p.vault.withdrawalHead < p.vault.nextWithdrawalId)
    (h : HeadStep now p (.skip p')) : ShareQueue.Run p.vault.lpBook p'.vault.lpBook := by
  cases h with
  | passed hpast => exact .single (.advance p.vault.lpBook hlt hpast)
  | expired hr =>
    rw [lpBook_afterAdvance, lpBook_afterCancel]
    refine .tail (.single (.cancel p.vault.lpBook p.vault.withdrawalHead hr))
      (.advance _ hlt (Or.inl ?_))
    simp [ShareQueue.Book.cancel, Vault.lpBook]

theorem run_filled {now id shares assets : Nat} {whole : Bool}
    (hlt : p.vault.withdrawalHead < p.vault.nextWithdrawalId)
    (h : HeadStep now p (.filled id shares assets p' whole)) :
    ShareQueue.Run p.vault.lpBook p'.vault.lpBook := by
  cases h with
  | whole hfill hall =>
    rw [lpBook_afterAdvance, lpBook_afterFill]
    refine .tail (.single (.fill p.vault.lpBook shares assets hfill.shares_ne_zero
      hfill.le_remaining hfill.epoch)) (.advance _ hlt (Or.inl ?_))
    simp [ShareQueue.Book.fill, ShareQueue.Book.serve, ShareQueue.Book.burn, Vault.lpBook,
      WithdrawalRequest.toRequest, hall]
  | part hfill =>
    rw [lpBook_afterFill]
    exact .single (.fill p.vault.lpBook shares assets hfill.shares_ne_zero hfill.le_remaining
      hfill.epoch)

end Pool

open Pool in
/-- Every vault call is a run of moves of the book. -/
theorem VaultCall.exec_lpBook {m : Msg} {p p' : Pool} {c : VaultCall}
    (h : c.exec m p = .ok p') : ShareQueue.Run p.vault.lpBook p'.vault.lpBook := by
  cases c with
  | setManager manager enabled =>
    obtain ⟨_, _, _, _, rfl⟩ := setManager_ok h
    exact .refl
  | finalizeWiring =>
    obtain ⟨_, _, _, _, rfl⟩ := finalizeWiring_ok h
    exact .refl
  | bindRecoveryManager manager =>
    obtain ⟨_, _, _, _, rfl⟩ := bindRecoveryManager_ok h
    exact .refl
  | setDepositsPaused paused =>
    obtain ⟨_, _, _, _, rfl⟩ := setDepositsPaused_ok h
    exact .refl
  | deposit assets minShares =>
    obtain ⟨⟨shares, q⟩, hc, rfl⟩ := map_eq_ok.mp h
    obtain ⟨-, -, -, -, token, -, rfl⟩ := deposit_ok hc
    exact .single (.mint p.vault.lpBook m.sender shares)
  | withdraw shares minAssets =>
    obtain ⟨⟨assets, q⟩, hc, rfl⟩ := map_eq_ok.mp h
    obtain ⟨-, -, -, -, -, -, hunlocked, -, token, -, rfl⟩ := withdraw_ok hc
    exact .single (.burn p.vault.lpBook m.sender shares hunlocked)
  | requestWithdrawal shares minAssets =>
    obtain ⟨⟨id, q⟩, hc, rfl⟩ := map_eq_ok.mp h
    obtain ⟨-, -, hunlocked, -, rfl⟩ := requestWithdrawal_ok hc
    refine .single ?_
    have hstep := ShareQueue.Step.request p.vault.lpBook m.sender shares hunlocked
    simp only [ShareQueue.Book.request] at hstep
    simp only [Vault.lpBook, toRequest_update] at hstep ⊢
    exact hstep
  | cancelWithdrawal id =>
    obtain ⟨hr, rfl⟩ := cancelWithdrawal_ok h
    rw [lpBook_afterCancel]
    exact .single (.cancel p.vault.lpBook id hr)
  | processWithdrawals maxRequests =>
    obtain ⟨⟨filled, reserved, q⟩, hc, rfl⟩ := map_eq_ok.mp h
    obtain ⟨-, hloop⟩ := processWithdrawals_ok hc
    refine processLoop_invariant (P := fun _ q => ShareQueue.Run p.vault.lpBook q.vault.lpBook)
      ?_ ?_ hloop .refl
    · intro _ q q' hq hlt hstep
      exact hq.trans (run_skip hlt hstep)
    · intro _ q q' id shares assets whole hq hlt hstep
      exact hq.trans (run_filled hlt hstep)
  | claimWithdrawal id =>
    obtain ⟨⟨assets, q⟩, hc, rfl⟩ := map_eq_ok.mp h
    obtain ⟨hclaim, -, token, -, rfl⟩ := claimWithdrawal_ok hc
    refine .single ?_
    have hstep := ShareQueue.Step.claim p.vault.lpBook id assets hclaim
    simp only [ShareQueue.Book.claim] at hstep
    simp only [Vault.lpBook, toRequest_update] at hstep ⊢
    exact hstep
  | rollLossEpoch =>
    obtain ⟨hlost, residual, -, -, rfl⟩ := rollLossEpoch_ok h
    exact .single (.close p.vault.lpBook residual (fullyWrittenOff_ok hlost).2.1)
  | claimEpochRecovery epoch =>
    obtain ⟨⟨assets, q⟩, hc, rfl⟩ := map_eq_ok.mp h
    obtain ⟨hclosed, hearned, -, token, -, rfl⟩ := claimEpochRecovery_ok hc
    exact .single (.claimRecovery p.vault.lpBook epoch m.sender assets hclosed hearned)
  | lend id dst amount =>
    obtain ⟨-, -, -, token, -, rfl⟩ := lend_ok h
    exact .refl
  | onRepayment id result =>
    obtain ⟨-, -, -, -, hold, rfl⟩ := onRepayment_ok h
    rw [lpBook_afterRepayment]
    exact run_receive fun hne => ⟨(hold hne).1, (hold hne).2.1⟩
  | refundExcess id dst amount =>
    obtain ⟨-, -, token, -, rfl⟩ := refundExcess_ok h
    exact .refl
  | recordRecovery id amount =>
    obtain ⟨-, -, hold, rfl⟩ := recordRecovery_ok h
    exact run_receive fun hne => ⟨(hold hne).1, (hold hne).2.1⟩
  | recognizeImpairment id amount =>
    obtain ⟨-, -, rfl⟩ := recognizeImpairment_ok h
    exact .refl
  | reverseImpairment id amount =>
    obtain ⟨-, -, rfl⟩ := reverseImpairment_ok h
    exact .refl
  | writeOff id =>
    obtain ⟨-, -, -, lost, -, rfl⟩ := writeOff_ok h
    exact .refl
  | approve spender amount =>
    cases h
    exact .refl
  | transfer dst amount =>
    obtain ⟨hunlocked, rfl⟩ := transferShares_ok h
    exact .single (.move p.vault.lpBook m.sender dst amount hunlocked)
  | transferFrom src dst amount =>
    obtain ⟨hunlocked, allowances, rfl⟩ := transferFrom_ok h
    exact .single (.move p.vault.lpBook src dst amount hunlocked)

/-! ### Runs of the pool -/

/-- Every step of the pool is a run of moves of the book. -/
theorem PoolStep.run_lpBook {s s' : PoolState} {a : Msg × PoolCall} (h : PoolStep s a s') :
    ShareQueue.Run s.pool.vault.lpBook s'.pool.vault.lpBook := by
  obtain ⟨m, c⟩ := a
  obtain ⟨-, -, hexec, -⟩ := h
  cases c with
  | vault c => exact VaultCall.exec_lpBook hexec
  | ledger c =>
    obtain ⟨l, -, hl⟩ := map_eq_ok.mp hexec
    rw [← hl]
    exact .refl
  | token c =>
    obtain ⟨t, -, ht⟩ := map_eq_ok.mp hexec
    rw [← ht]
    exact .refl
  | repay id received requested =>
    obtain ⟨⟨r, q⟩, hq, rfl⟩ := map_eq_ok.mp hexec
    obtain ⟨split, ledger, -, -, hrepay⟩ := Pool.repay_ok hq
    exact VaultCall.exec_lpBook (c := .onRepayment id r)
      (p := { s.pool with ledger := ledger }) hrepay

theorem lpBook_valid_initial (self : Address) :
    ShareQueue.Valid (Vault.initial self).lpBook where
  wf := by
    refine ⟨Nat.one_ne_zero, ?_, fun _ _ _ => rfl, fun _ _ => rfl, fun _ => Nat.zero_le _, ?_, ?_,
      fun _ _ => Nat.le_refl _, Nat.le_refl _, fun _ _ _ => rfl⟩
    · simp [Vault.lpBook, Vault.initial]
    · simp [Vault.lpBook, Vault.initial, WithdrawalRequest.toRequest, WithdrawalRequest.empty,
        ShareQueue.Request.pendingIn]
    · intro e o
      refine (Finset.sum_eq_zero fun id _ => ?_).symm
      unfold ShareQueue.Request.lockedFor
      split <;> rfl
  reserves := ⟨fun _ _ => rfl, fun _ => Nat.le_refl _, rfl⟩
  cohorts := by
    refine ⟨fun e he hlt => ?_, fun _ _ => rfl, fun _ _ => Nat.zero_le _, ?_⟩
    · simp only [Vault.lpBook, Vault.initial] at hlt
      omega
    · simp [Vault.lpBook, Vault.initial]

/-- The book of every reachable pool is valid. -/
theorem PoolReachable.lpBook_valid {s : PoolState} (h : PoolReachable s) :
    ShareQueue.Valid s.pool.vault.lpBook := by
  refine Reachable.invariant (P := fun s => ShareQueue.Valid s.pool.vault.lpBook) ?_ ?_ h
  · rintro s ⟨-, hv, -⟩
    rw [hv]
    exact lpBook_valid_initial _
  · intro s a s' hs hstep
    exact ShareQueue.run_valid hs hstep.run_lpBook

/-- Every run of the pool is a run of moves of the book. -/
theorem Steps.run_lpBook {s s' : PoolState} {as : List (Msg × PoolCall)}
    (h : Steps PoolStep s as s') : ShareQueue.Run s.pool.vault.lpBook s'.pool.vault.lpBook := by
  induction h with
  | nil => exact .refl
  | cons hs _ ih => exact hs.run_lpBook.trans ih

end Rackline
