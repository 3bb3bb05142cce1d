import Rackline.Proofs.Solvency

/-!
# `Rackline.Proofs.Queue`: the withdrawal queue is served in order

The accounting of the queue is that of the share queue. What is left is the loop of
`processWithdrawals`: `LoopState` is the state in which the loop visits its next request, and
in each of them the requests before the head are served, cancelled or expired. The loop fills
the head only, so it never fills a request before an earlier one of the same epoch.
-/

set_option autoImplicit false

namespace Rackline

open Evm Transition Finset

/-- The loop of `processWithdrawals` that starts in `p` reaches `q` after `n` iterations and
goes on. -/
inductive LoopState (now : Nat) (p : Pool) : Nat → Pool → Prop
  | start : LoopState now p 0 p
  | skip {n : Nat} {q q' : Pool} : LoopState now p n q →
      q.vault.withdrawalHead < q.vault.nextWithdrawalId →
      q.processHead now = .ok (.skip q') → LoopState now p (n + 1) q'
  | whole {n id shares assets : Nat} {q q' : Pool} : LoopState now p n q →
      q.vault.withdrawalHead < q.vault.nextWithdrawalId →
      q.processHead now = .ok (.filled id shares assets q' true) → LoopState now p (n + 1) q'

/-- What each iteration keeps holds in every state the loop visits. -/
theorem LoopState.invariant {now n : Nat} {P : Pool → Prop} {p q : Pool}
    (hskip : ∀ q q', P q → q.vault.withdrawalHead < q.vault.nextWithdrawalId →
      Pool.HeadStep now q (.skip q') → P q')
    (hfilled : ∀ q q' id shares assets whole, P q →
      q.vault.withdrawalHead < q.vault.nextWithdrawalId →
      Pool.HeadStep now q (.filled id shares assets q' whole) → P q')
    (h : LoopState now p n q) (hp : P p) : P q := by
  induction h with
  | start => exact hp
  | skip _ hlt hhead ih => exact hskip _ _ ih hlt (Pool.processHead_ok hhead)
  | whole _ hlt hhead ih => exact hfilled _ _ _ _ _ _ ih hlt (Pool.processHead_ok hhead)

/-- The loop moves the book. -/
theorem LoopState.run_lpBook {now n : Nat} {p q : Pool} (h : LoopState now p n q) :
    ShareQueue.Run p.vault.lpBook q.vault.lpBook :=
  h.invariant (P := fun q => ShareQueue.Run p.vault.lpBook q.vault.lpBook)
    (fun _ _ hq hlt hstep => hq.trans (Pool.run_skip hlt hstep))
    (fun _ _ _ _ _ _ hq hlt hstep => hq.trans (Pool.run_filled hlt hstep)) .refl

/-- A fill is a fill of the head, by a request of the current epoch. -/
theorem Pool.filled_head {now id shares assets : Nat} {p p' : Pool} {whole : Bool}
    (h : p.processHead now = .ok (.filled id shares assets p' whole)) :
    id = p.vault.withdrawalHead ∧ (p.vault.withdrawals id).epoch = p.vault.currentEpoch := by
  cases Pool.processHead_ok h with
  | whole hfill _ => exact ⟨rfl, hfill.epoch⟩
  | part hfill => exact ⟨rfl, hfill.epoch⟩

/-- A change of a reserve since `p` happened at or before the head, in the current epoch. -/
def FilledUpTo (p q : Pool) : Prop :=
  ShareQueue.Run p.vault.lpBook q.vault.lpBook ∧
  ∀ j, (q.vault.withdrawals j).assetsReserved ≠ (p.vault.withdrawals j).assetsReserved →
    j ≤ q.vault.withdrawalHead ∧ (q.vault.withdrawals j).epoch = q.vault.currentEpoch

theorem FilledUpTo.skip {now : Nat} {p q q' : Pool} (h : FilledUpTo p q)
    (hlt : q.vault.withdrawalHead < q.vault.nextWithdrawalId)
    (hstep : Pool.HeadStep now q (.skip q')) : FilledUpTo p q' := by
  refine ⟨h.1.trans (Pool.run_skip hlt hstep), fun j hj => ?_⟩
  -- Neither an advance nor a cancel writes a reserve or an epoch.
  have hsame : (q'.vault.withdrawals j).assetsReserved = (q.vault.withdrawals j).assetsReserved ∧
      (q'.vault.withdrawals j).epoch = (q.vault.withdrawals j).epoch ∧
      q'.vault.currentEpoch = q.vault.currentEpoch ∧
      q'.vault.withdrawalHead = q.vault.withdrawalHead + 1 := by
    cases hstep with
    | passed => exact ⟨rfl, rfl, rfl, rfl⟩
    | expired =>
      by_cases hid : j = q.vault.withdrawalHead
      · simp [Pool.afterAdvance, Pool.afterCancel, hid]
      · simp [Pool.afterAdvance, Pool.afterCancel, Function.update_of_ne hid]
  obtain ⟨hres, hepoch, hcur, hhead⟩ := hsame
  obtain ⟨hle, he⟩ := h.2 j (hres ▸ hj)
  exact ⟨by omega, by rw [hepoch, hcur, he]⟩

theorem FilledUpTo.filled {now id shares assets : Nat} {whole : Bool} {p q q' : Pool}
    (h : FilledUpTo p q) (hlt : q.vault.withdrawalHead < q.vault.nextWithdrawalId)
    (hstep : Pool.HeadStep now q (.filled id shares assets q' whole)) : FilledUpTo p q' := by
  refine ⟨h.1.trans (Pool.run_filled hlt hstep), fun j hj => ?_⟩
  -- The fill writes the head request only and leaves every epoch alone.
  have hview : (j ≠ q.vault.withdrawalHead →
        (q'.vault.withdrawals j).assetsReserved = (q.vault.withdrawals j).assetsReserved) ∧
      (q'.vault.withdrawals j).epoch = (q.vault.withdrawals j).epoch ∧
      q'.vault.currentEpoch = q.vault.currentEpoch ∧
      q.vault.withdrawalHead ≤ q'.vault.withdrawalHead ∧
      (q.vault.withdrawals q.vault.withdrawalHead).epoch = q.vault.currentEpoch := by
    cases hstep with
    | whole hfill _ =>
      by_cases hid : j = q.vault.withdrawalHead
      · simp [Pool.afterAdvance, Pool.afterFill, hid, hfill.epoch]
      · simp [Pool.afterAdvance, Pool.afterFill, Function.update_of_ne hid, hfill.epoch]
    | part hfill =>
      by_cases hid : j = q.vault.withdrawalHead
      · simp [Pool.afterFill, hid, hfill.epoch]
      · simp [Pool.afterFill, Function.update_of_ne hid, hfill.epoch]
  obtain ⟨hres, hepoch, hcur, hhead, hheadEpoch⟩ := hview
  by_cases hid : j = q.vault.withdrawalHead
  · rw [hid] at hepoch ⊢
    exact ⟨hhead, by rw [hepoch, hcur, hheadEpoch]⟩
  · obtain ⟨hle, he⟩ := h.2 j (hres hid ▸ hj)
    exact ⟨hle.trans hhead, by rw [hepoch, hcur, he]⟩

/-- A call of `processWithdrawals` that changed the reserve of a request has left no earlier
request of that epoch unserved. -/
theorem Pool.processWithdrawals_filledUpTo {m : Msg} {maxRequests filled reserved : Nat}
    {p p' : Pool} (h : p.processWithdrawals m maxRequests = .ok (filled, reserved, p')) :
    FilledUpTo p p' := by
  obtain ⟨-, hloop⟩ := Pool.processWithdrawals_ok h
  refine Pool.processLoop_invariant (P := fun _ => FilledUpTo p) ?_ ?_ hloop ⟨.refl, fun j hj => ?_⟩
  · intro _ q q' hq hlt hstep
    exact hq.skip hlt hstep
  · intro _ q q' id shares assets whole hq hlt hstep
    exact hq.filled hlt hstep
  · exact absurd rfl hj

/-- The share register and the withdrawal queue in every state of every run.

- The supply is the sum of the balances of the current epoch.
- The pending shares are those the requests of the current epoch still queue.
- The locked shares of an owner in an epoch are those its requests of that epoch still queue,
  and they are held.
- A request that was not made queues nothing.
- When the loop of `processWithdrawals` fills request `j`, every earlier request of its epoch
  queues nothing: in the state in which the loop fills it, and after the whole call.
- The balances of a closed epoch are the same in every later state. -/
theorem withdrawal_queue {s : PoolState} (h : PoolReachable s) :
    s.pool.vault.totalShares = ∑ lp, s.pool.vault.shares s.pool.vault.currentEpoch lp ∧
    s.pool.vault.pendingWithdrawalShares = ∑ id ∈ range s.pool.vault.nextWithdrawalId,
      (if (s.pool.vault.withdrawals id).epoch = s.pool.vault.currentEpoch then
        (s.pool.vault.withdrawals id).sharesRemaining else 0) ∧
    (∀ e lp, s.pool.vault.lockedShares e lp = ∑ id ∈ range s.pool.vault.nextWithdrawalId,
        (if (s.pool.vault.withdrawals id).epoch = e ∧ (s.pool.vault.withdrawals id).owner = lp then
          (s.pool.vault.withdrawals id).sharesRemaining else 0) ∧
      s.pool.vault.lockedShares e lp ≤ s.pool.vault.shares e lp) ∧
    (∀ id, s.pool.vault.nextWithdrawalId ≤ id →
      (s.pool.vault.withdrawals id).sharesRemaining = 0) ∧
    (∀ now n q q' j shares assets whole, LoopState now s.pool.absorbDonation n q →
      q.processHead now = .ok (.filled j shares assets q' whole) →
      ∀ i, i < j → (q.vault.withdrawals i).epoch = (q.vault.withdrawals j).epoch →
        (q.vault.withdrawals i).sharesRemaining = 0) ∧
    (∀ m maxRequests filled reserved p' j,
      s.pool.processWithdrawals m maxRequests = .ok (filled, reserved, p') →
      (p'.vault.withdrawals j).assetsReserved ≠ (s.pool.vault.withdrawals j).assetsReserved →
      ∀ i, i < j → (p'.vault.withdrawals i).epoch = (p'.vault.withdrawals j).epoch →
        (p'.vault.withdrawals i).sharesRemaining = 0) ∧
    ∀ as s', Steps PoolStep s as s' → ∀ e, e < s.pool.vault.currentEpoch →
      s'.pool.vault.shares e = s.pool.vault.shares e := by
  have hvalid := h.lpBook_valid
  have hwf := hvalid.wf
  refine ⟨hwf.total, hwf.pending, fun e lp => ⟨hwf.locked e lp, hwf.locked_le e lp⟩, hwf.fresh,
    ?_, ?_, fun as s' hrun e he => (ShareQueue.run_frozen (Steps.run_lpBook hrun)).shares e he⟩
  · intro now n q q' j shares assets whole hloop hfill i hij hepoch
    rw [Pool.absorbDonation_eq] at hloop
    have hq := ShareQueue.run_valid hvalid hloop.run_lpBook
    obtain ⟨rfl, hcur⟩ := Pool.filled_head hfill
    exact hq.wf.served i hij (hepoch.trans hcur)
  · intro m maxRequests filled reserved p' j hcall hj i hij hepoch
    obtain ⟨hrun, hfilled⟩ := Pool.processWithdrawals_filledUpTo hcall
    obtain ⟨hle, hcur⟩ := hfilled j hj
    exact (ShareQueue.run_valid hvalid hrun).wf.served i (Nat.lt_of_lt_of_le hij hle)
      (hepoch.trans hcur)

/-- Three requests; the second is cancelled and the loop fills the first and part of the third. -/
theorem withdrawal_queue_sample :
    ∃ s, PoolReachable s ∧ s.pool.vault.pendingWithdrawalShares = 1500 ∧
      s.pool.vault.totalShares = ∑ lp, s.pool.vault.shares s.pool.vault.currentEpoch lp := by
  obtain ⟨s, hrun, hview⟩ := Sample.deployment.run_view
    ([(Sample.msg 8 10, .vault (.deposit 1000 0)), (Sample.msg 9 10, .vault (.deposit 500 0))] ++
      Sample.drawCalls 10 1490 ++
      [(Sample.msg 8 11, .vault (.requestWithdrawal 4000 0)),
        (Sample.msg 9 11, .vault (.requestWithdrawal 7000 0)),
        (Sample.msg 8 11, .vault (.requestWithdrawal 7500 0)),
        (Sample.msg 9 12, .vault (.cancelWithdrawal 2)),
        (Sample.msg 7 12, .vault (.processWithdrawals 10))])
    (fun s => s.pool.vault.pendingWithdrawalShares) (v := 1500) (by decide +kernel)
  have hreach := PoolState.run_reachable hrun Sample.deployment_initial
  exact ⟨s, hreach, hview, (withdrawal_queue hreach).1⟩

end Rackline
