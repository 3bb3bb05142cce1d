import Rackline.ShareProjection
import Rackline.Proofs.LpBook

/-!
# `Rackline.Proofs.ShareProjection`: when the folded shares are the vault's

`ShareEffect p e p'` says what one `Transfer` stands for in the storage of the vault, and
`VaultCall.exec_shares` that the events of every call but `rollLossEpoch` stand for exactly what
the call wrote. Folding such events keeps the gap between the view and the vault, for the total
and for every holder, so the fold never meets a negative number.

`rollLossEpoch` opens an epoch in which nobody has shares and emits no event, so it widens the
gap. `shares_projected_iff` is the result: the view equals the vault all along a run if and only
if the run never rolls an epoch over.
-/

set_option autoImplicit false

namespace Rackline

open Evm EventLog Transition

/-! ### What an event stands for -/

namespace Pool

variable {p q p' : Pool} {m : Msg}

/-- The total and the balances of the current epoch are the same. -/
structure SameShares (p p' : Pool) : Prop where
  total : p'.vault.totalShares = p.vault.totalShares
  balances : ∀ lp, p'.balanceOf lp = p.balanceOf lp

theorem SameShares.refl (p : Pool) : SameShares p p := ⟨rfl, fun _ => rfl⟩

theorem SameShares.trans (h : SameShares p q) (h' : SameShares q p') : SameShares p p' :=
  ⟨h'.total.trans h.total, fun lp => (h'.balances lp).trans (h.balances lp)⟩

/-- The writes that `Transfer(src, dst, value)` stands for. -/
structure ShareEffect (p : Pool) (e : ShareTransfer) (p' : Pool) : Prop where
  total : p'.vault.totalShares + (if e.dst = 0 then e.value else 0) =
    p.vault.totalShares + (if e.src = 0 then e.value else 0)
  balances : ∀ lp, p'.balanceOf lp + (if e.src ≠ 0 ∧ lp = e.src then e.value else 0) =
    p.balanceOf lp + (if e.dst ≠ 0 ∧ lp = e.dst then e.value else 0)

/-- No event touches the balance of the zero address. -/
theorem ShareEffect.zero {e : ShareTransfer} (h : ShareEffect p e p') :
    p'.balanceOf 0 = p.balanceOf 0 := by
  have hb := h.balances 0
  rw [if_neg (fun hc => hc.1 hc.2.symm), if_neg (fun hc => hc.1 hc.2.symm)] at hb
  omega

/-- The writes a list of events stands for. -/
def ShareEffects : Pool → List ShareTransfer → Pool → Prop
  | p, [], p' => SameShares p p'
  | p, e :: es, p' => ∃ q, ShareEffect p e q ∧ ShareEffects q es p'

/-- Writes that touch no share may come first. -/
theorem SameShares.then (h : SameShares p q) {es : List ShareTransfer}
    (h' : ShareEffects q es p') : ShareEffects p es p' := by
  cases es with
  | nil => exact h.trans h'
  | cons e es =>
    obtain ⟨r, he, hes⟩ := h'
    refine ⟨r, ⟨?_, fun lp => ?_⟩, hes⟩
    · rw [← h.total]
      exact he.total
    · rw [← h.balances lp]
      exact he.balances lp

/-- A call that writes no shares emits no event. -/
theorem quiet (htotal : p'.vault.totalShares = p.vault.totalShares)
    (hb : ∀ lp, p'.balanceOf lp = p.balanceOf lp) : ShareEffects p [] p' :=
  SameShares.mk htotal hb

theorem ShareEffect.effects {e : ShareTransfer} (h : ShareEffect p e p') :
    ShareEffects p [e] p' :=
  ⟨p', h, .refl p'⟩

/-! ### The three writes of shares -/

/-- Minting to an account is its event. -/
theorem shareEffect_mint {dst : Address} {shares : Nat} (hdst : dst ≠ 0)
    (htotal : p'.vault.totalShares = p.vault.totalShares + shares)
    (hb : ∀ lp, p'.balanceOf lp = if lp = dst then p.balanceOf dst + shares else p.balanceOf lp) :
    ShareEffect p (mintLog dst shares) p' := by
  refine ⟨?_, fun lp => ?_⟩
  · show p'.vault.totalShares + (if dst = 0 then shares else 0) = _ + (if (0 : Address) = 0 then _ else _)
    rw [if_neg hdst, if_pos rfl, htotal]
    rfl
  · show p'.balanceOf lp + (if (0 : Address) ≠ 0 ∧ lp = 0 then _ else 0) =
      p.balanceOf lp + (if dst ≠ 0 ∧ lp = dst then shares else 0)
    have hnot : ¬((0 : Address) ≠ 0 ∧ lp = 0) := fun hc => hc.1 rfl
    rw [if_neg hnot, hb lp]
    by_cases hlp : lp = dst
    · simp [hlp, hdst]
    · simp [hlp]

/-- Burning is its event. Nothing can be burnt of the zero address, which has no shares. -/
theorem shareEffect_burn {src : Address} {shares : Nat} (hzero : p.balanceOf 0 = 0)
    (hle : shares ≤ p.balanceOf src) (hle' : shares ≤ p.vault.totalShares)
    (htotal : p'.vault.totalShares = p.vault.totalShares - shares)
    (hb : ∀ lp, p'.balanceOf lp = if lp = src then p.balanceOf src - shares else p.balanceOf lp) :
    ShareEffect p (burnLog src shares) p' := by
  have hnone : src = 0 → shares = 0 := by
    rintro rfl
    omega
  refine ⟨?_, fun lp => ?_⟩
  · show p'.vault.totalShares + (if (0 : Address) = 0 then shares else 0) =
      p.vault.totalShares + (if src = 0 then shares else 0)
    rw [if_pos rfl, htotal]
    split
    · rename_i hsrc
      rw [hnone hsrc]
      omega
    · omega
  · show p'.balanceOf lp + (if src ≠ 0 ∧ lp = src then shares else 0) =
      p.balanceOf lp + (if (0 : Address) ≠ 0 ∧ lp = 0 then _ else 0)
    have hnot : ¬((0 : Address) ≠ 0 ∧ lp = 0) := fun hc => hc.1 rfl
    rw [if_neg hnot, hb lp]
    by_cases hlp : lp = src
    · subst hlp
      by_cases hsrc : lp = 0
      · simp [hnone hsrc]
      · simp only [ne_eq, hsrc, not_false_eq_true, and_self, if_true]
        omega
    · simp [hlp]

/-- Moving shares to an account is its event. -/
theorem shareEffect_move {src dst : Address} {amount : Nat} (hzero : p.balanceOf 0 = 0)
    (hdst : dst ≠ 0) (hle : amount ≤ p.balanceOf src)
    (htotal : p'.vault.totalShares = p.vault.totalShares)
    (hb : ∀ lp, p'.balanceOf lp = movedShares p src dst amount p.vault.currentEpoch lp) :
    ShareEffect p ⟨src, dst, amount⟩ p' := by
  have hnone : src = 0 → amount = 0 := by
    rintro rfl
    omega
  refine ⟨?_, fun lp => ?_⟩
  · show p'.vault.totalShares + (if dst = 0 then amount else 0) =
      p.vault.totalShares + (if src = 0 then amount else 0)
    rw [if_neg hdst, htotal]
    split
    · rename_i hsrc
      rw [hnone hsrc]
    · rfl
  · show p'.balanceOf lp + (if src ≠ 0 ∧ lp = src then amount else 0) =
      p.balanceOf lp + (if dst ≠ 0 ∧ lp = dst then amount else 0)
    have hcurrent : ∀ a, p.vault.shares p.vault.currentEpoch a = p.balanceOf a := fun _ => rfl
    rw [hb lp]
    simp only [movedShares, set2_apply, true_and, hcurrent]
    by_cases hsrc : src = 0
    · -- Only nothing can leave the zero address.
      subst hsrc
      simp only [hnone rfl, ne_eq, not_true_eq_false, false_and, ite_self, Nat.add_zero,
        Nat.sub_zero]
      split
      · rename_i hlp
        rw [hlp]
      · split
        · rename_i hz
          rw [hz]
        · rfl
    · by_cases hlp : lp = src
      · subst hlp
        by_cases hd : lp = dst
        · simp only [hd, hdst, ne_eq, not_false_eq_true, and_self, if_true]
          rw [hd] at hle
          omega
        · simp only [hd, hsrc, ne_eq, not_false_eq_true, and_self, and_false, if_true, if_false]
          omega
      · by_cases hd : lp = dst
        · have hne : dst ≠ src := fun h => hlp (hd.trans h)
          simp [hd, hdst, hne]
        · simp [hlp, hd]

/-- Shares are never moved to the zero address. -/
theorem transferShares_dst {src dst : Address} {amount : Nat}
    (h : p.transferShares src dst amount = .ok p') : dst ≠ 0 := by
  unfold transferShares at h
  obtain ⟨_, hz, -⟩ := bind_eq_ok.mp h
  exact revertIf_eq_ok.mp hz

theorem transferFrom_dst {src dst : Address} {amount : Nat}
    (h : p.transferFrom m src dst amount = .ok p') : dst ≠ 0 := by
  unfold transferFrom at h
  dsimp only at h
  split at h
  · exact transferShares_dst h
  · obtain ⟨_, -, h⟩ := bind_eq_ok.mp h
    exact transferShares_dst h

/-! ### The calls -/

/-- A fill burns shares that the owner of the head request has. -/
theorem HeadFill.covered {now shares assets : Nat} (h : HeadFill now p shares assets)
    (hvalid : ShareQueue.Valid p.vault.lpBook) :
    shares ≤ p.balanceOf (p.vault.withdrawals p.vault.withdrawalHead).owner := by
  have hle := h.le_remaining
  have hne := h.shares_ne_zero
  have hr : (p.vault.lpBook.requests p.vault.withdrawalHead).remaining ≠ 0 := by
    show (p.vault.withdrawals p.vault.withdrawalHead).sharesRemaining ≠ 0
    omega
  -- The shares are locked by the request, and what is locked is owned.
  have hlocked := hvalid.wf.lockedFor_le hr p.vault.currentEpoch
    (p.vault.withdrawals p.vault.withdrawalHead).owner
  have howned := hvalid.wf.locked_le p.vault.currentEpoch
    (p.vault.withdrawals p.vault.withdrawalHead).owner
  have hfor : (p.vault.lpBook.requests p.vault.withdrawalHead).lockedFor p.vault.currentEpoch
      (p.vault.withdrawals p.vault.withdrawalHead).owner =
        (p.vault.withdrawals p.vault.withdrawalHead).sharesRemaining := by
    unfold ShareQueue.Request.lockedFor
    exact if_pos ⟨h.epoch, rfl⟩
  rw [hfor] at hlocked
  exact hle.trans (hlocked.trans howned)

/-- A fill is the event of its burn. -/
theorem shareEffect_filled {now id shares assets : Nat} {whole : Bool}
    (hzero : p.balanceOf 0 = 0) (hvalid : ShareQueue.Valid p.vault.lpBook)
    (h : HeadStep now p (.filled id shares assets q whole)) :
    ShareEffect p (burnLog (p.vault.withdrawals id).owner shares) q := by
  cases h with
  | whole hfill =>
    refine shareEffect_burn hzero (hfill.covered hvalid) hfill.le_totalShares rfl fun lp => ?_
    show set2 p.vault.shares p.vault.currentEpoch _ _ p.vault.currentEpoch lp = _
    simp only [set2_apply, true_and]
    rfl
  | part hfill =>
    refine shareEffect_burn hzero (hfill.covered hvalid) hfill.le_totalShares rfl fun lp => ?_
    show set2 p.vault.shares p.vault.currentEpoch _ _ p.vault.currentEpoch lp = _
    simp only [set2_apply, true_and]
    rfl

/-- The events of the queue loop stand for what the loop wrote. -/
theorem processLoop_shares {now : Nat} : ∀ {fuel : Nat} {p p' : Pool}
    {filled reserved filled' reserved' : Nat}, p.balanceOf 0 = 0 →
      ShareQueue.Valid p.vault.lpBook →
      processLoop now fuel p filled reserved = .ok (filled', reserved', p') →
      ShareEffects p (p.loopTransfers now fuel) p' := by
  intro fuel
  induction fuel with
  | zero =>
    intro p p' filled reserved filled' reserved' _ _ h
    cases h
    exact .refl p
  | succ fuel ih =>
    intro p p' filled reserved filled' reserved' hzero hvalid h
    unfold processLoop at h
    unfold loopTransfers
    split at h
    · rename_i hlt
      rw [if_pos hlt]
      obtain ⟨o, ho, h⟩ := bind_eq_ok.mp h
      have hstep := processHead_ok ho
      rw [ho]
      cases o with
      | stop =>
        have hres := pure_eq_ok.mp h
        simp only [Prod.mk.injEq] at hres
        rw [← hres.2.2]
        exact .refl p
      | skip q =>
        -- A request that leaves the head takes no shares along.
        have hsame : SameShares p q := by
          cases hstep with
          | passed => exact ⟨rfl, fun _ => rfl⟩
          | expired => exact ⟨rfl, fun _ => rfl⟩
        have hvalid' := ShareQueue.run_valid hvalid (run_skip hlt hstep)
        exact hsame.then (ih ((hsame.balances 0).trans hzero) hvalid' h)
      | filled id shares assets q whole =>
        have heffect := shareEffect_filled hzero hvalid hstep
        have hvalid' := ShareQueue.run_valid hvalid (run_filled hlt hstep)
        obtain ⟨total, ht, h⟩ := bind_eq_ok.mp h
        refine ⟨q, heffect, ?_⟩
        show ShareEffects q (if whole = true then loopTransfers now fuel q else []) p'
        split at h
        · rename_i hwhole
          rw [if_pos hwhole]
          exact ih (heffect.zero.trans hzero) hvalid' h
        · rename_i hpart
          rw [if_neg hpart]
          have hres := pure_eq_ok.mp h
          simp only [Prod.mk.injEq] at hres
          rw [← hres.2.2]
          exact SameShares.refl q
    · rename_i hlt
      rw [if_neg hlt]
      cases h
      exact .refl p

end Pool

open Pool in
/-- The events of every call but a rollover stand for what the call wrote. -/
theorem VaultCall.exec_shares {m : Msg} {p p' : Pool} {c : VaultCall} (hsender : m.sender ≠ 0)
    (hzero : p.balanceOf 0 = 0) (hvalid : ShareQueue.Valid p.vault.lpBook)
    (hc : c ≠ .rollLossEpoch) (h : c.exec m p = .ok p') : ShareEffects p (c.transfers m p) p' := by
  cases c with
  | setManager manager enabled =>
    obtain ⟨_, _, _, _, rfl⟩ := setManager_ok h
    exact quiet rfl fun _ => rfl
  | finalizeWiring =>
    obtain ⟨_, _, _, _, rfl⟩ := finalizeWiring_ok h
    exact quiet rfl fun _ => rfl
  | bindRecoveryManager manager =>
    obtain ⟨_, _, _, _, rfl⟩ := bindRecoveryManager_ok h
    exact quiet rfl fun _ => rfl
  | setDepositsPaused paused =>
    obtain ⟨_, _, _, _, rfl⟩ := setDepositsPaused_ok h
    exact quiet rfl fun _ => rfl
  | deposit assets minShares =>
    obtain ⟨⟨shares, q⟩, hd, rfl⟩ := map_eq_ok.mp h
    have hlogs : (deposit assets minShares).transfers m p = [mintLog m.sender shares] := by
      simp only [transfers, hd]
    obtain ⟨-, -, -, -, token, -, rfl⟩ := deposit_ok hd
    rw [hlogs]
    refine (shareEffect_mint hsender rfl fun lp => ?_).effects
    show set2 p.vault.shares p.vault.currentEpoch _ _ p.vault.currentEpoch lp = _
    simp only [set2_apply, true_and]
    rfl
  | withdraw shares minAssets =>
    obtain ⟨⟨assets, q⟩, hd, rfl⟩ := map_eq_ok.mp h
    obtain ⟨-, -, -, -, -, -, hunlocked, htotal, token, -, rfl⟩ := withdraw_ok hd
    have hle : shares ≤ p.balanceOf m.sender := by omega
    refine (shareEffect_burn hzero hle htotal rfl fun lp => ?_).effects
    show set2 p.vault.shares p.vault.currentEpoch _ _ p.vault.currentEpoch lp = _
    simp only [set2_apply, true_and]
    rfl
  | requestWithdrawal shares minAssets =>
    obtain ⟨⟨id, q⟩, hd, rfl⟩ := map_eq_ok.mp h
    obtain ⟨-, -, -, -, rfl⟩ := requestWithdrawal_ok hd
    exact quiet rfl fun _ => rfl
  | cancelWithdrawal id =>
    obtain ⟨-, rfl⟩ := cancelWithdrawal_ok h
    exact quiet rfl fun _ => rfl
  | processWithdrawals maxRequests =>
    obtain ⟨⟨filled, reserved, q⟩, hd, rfl⟩ := map_eq_ok.mp h
    obtain ⟨-, hloop⟩ := processWithdrawals_ok hd
    show ShareEffects p (p.absorbDonation.loopTransfers m.now maxRequests) q
    rw [absorbDonation_eq]
    have hsame : SameShares p (p.withTracked (max p.vault.trackedBalance p.cashBalance)) :=
      ⟨rfl, fun _ => rfl⟩
    exact hsame.then (processLoop_shares hzero hvalid hloop)
  | claimWithdrawal id =>
    obtain ⟨⟨assets, q⟩, hd, rfl⟩ := map_eq_ok.mp h
    obtain ⟨-, -, token, -, rfl⟩ := claimWithdrawal_ok hd
    exact quiet rfl fun _ => rfl
  | rollLossEpoch => exact (hc rfl).elim
  | claimEpochRecovery epoch =>
    obtain ⟨⟨assets, q⟩, hd, rfl⟩ := map_eq_ok.mp h
    obtain ⟨-, -, -, token, -, rfl⟩ := claimEpochRecovery_ok hd
    exact quiet rfl fun _ => rfl
  | lend id dst amount =>
    obtain ⟨-, -, -, token, -, rfl⟩ := lend_ok h
    exact quiet rfl fun _ => rfl
  | onRepayment id result =>
    obtain ⟨-, -, -, -, -, rfl⟩ := onRepayment_ok h
    exact quiet rfl fun _ => rfl
  | refundExcess id dst amount =>
    obtain ⟨-, -, token, -, rfl⟩ := refundExcess_ok h
    exact quiet rfl fun _ => rfl
  | recordRecovery id amount =>
    obtain ⟨-, -, -, rfl⟩ := recordRecovery_ok h
    exact quiet rfl fun _ => rfl
  | recognizeImpairment id amount =>
    obtain ⟨-, -, rfl⟩ := recognizeImpairment_ok h
    exact quiet rfl fun _ => rfl
  | reverseImpairment id amount =>
    obtain ⟨-, -, rfl⟩ := reverseImpairment_ok h
    exact quiet rfl fun _ => rfl
  | writeOff id =>
    obtain ⟨-, -, -, lost, -, rfl⟩ := writeOff_ok h
    exact quiet rfl fun _ => rfl
  | approve spender amount =>
    cases h
    exact quiet rfl fun _ => rfl
  | transfer dst amount =>
    have hdst := transferShares_dst h
    obtain ⟨hunlocked, rfl⟩ := transferShares_ok h
    have hle : amount ≤ p.balanceOf m.sender := by omega
    apply ShareEffect.effects
    exact shareEffect_move hzero hdst hle rfl fun _ => rfl
  | transferFrom src dst amount =>
    have hdst := transferFrom_dst h
    obtain ⟨hunlocked, allowances, rfl⟩ := transferFrom_ok h
    have hle : amount ≤ p.balanceOf src := by omega
    apply ShareEffect.effects
    exact shareEffect_move hzero hdst hle rfl fun _ => rfl

/-- The events of every step but a rollover stand for what the step wrote. -/
theorem PoolStep.shares {s s' : PoolState} {a : Msg × PoolCall} (hsender : a.1.sender ≠ 0)
    (hzero : s.pool.balanceOf 0 = 0) (hvalid : ShareQueue.Valid s.pool.vault.lpBook)
    (hc : a.2 ≠ .vault .rollLossEpoch) (h : PoolStep s a s') :
    s.pool.ShareEffects (s.transfers a) s'.pool := by
  obtain ⟨m, c⟩ := a
  obtain ⟨-, -, hexec, -⟩ := h
  cases c with
  | vault c =>
    have hne : c ≠ .rollLossEpoch := fun hroll => hc (congrArg PoolCall.vault hroll)
    exact VaultCall.exec_shares hsender hzero hvalid hne hexec
  | ledger c =>
    obtain ⟨l, -, hl⟩ := map_eq_ok.mp hexec
    rw [← hl]
    exact Pool.quiet rfl fun _ => rfl
  | token c =>
    obtain ⟨t, -, ht⟩ := map_eq_ok.mp hexec
    rw [← ht]
    exact Pool.quiet rfl fun _ => rfl
  | repay id received requested =>
    obtain ⟨⟨r, q⟩, hq, rfl⟩ := map_eq_ok.mp hexec
    obtain ⟨split, ledger, -, -, hrepay⟩ := Pool.repay_ok hq
    obtain ⟨-, -, -, -, -, hq'⟩ := Pool.onRepayment_ok hrepay
    rw [hq']
    exact Pool.quiet rfl fun _ => rfl

/-! ### The fold -/

namespace ShareView

variable {v v' : ShareView} {p q p' : Pool} {e : ShareTransfer}

@[simp]
theorem credit_total (v : ShareView) (lp : Address) (amount : Int) :
    (v.credit lp amount).totalShares = v.totalShares := rfl

theorem credit_balanceOf (v : ShareView) (lp lp' : Address) (amount : Int) :
    (v.credit lp amount).balanceOf lp' = v.balanceOf lp' + (if lp' = lp then amount else 0) := by
  by_cases h : lp' = lp
  · subst h
    simp [credit, balanceOf]
  · simp [credit, balanceOf, h, AList.lookup_insert_ne h]

theorem leave_total (v : ShareView) (e : ShareTransfer) :
    (v.leave e).totalShares = v.totalShares + ((if e.src = 0 then e.value else 0 : Nat) : Int) := by
  unfold leave
  split
  · rfl
  · simp

theorem leave_balanceOf (v : ShareView) (e : ShareTransfer) (lp : Address) :
    (v.leave e).balanceOf lp =
      v.balanceOf lp - ((if e.src ≠ 0 ∧ lp = e.src then e.value else 0 : Nat) : Int) := by
  unfold leave
  split
  · rename_i hsrc
    rw [if_neg (fun hc => hc.1 hsrc)]
    show v.balanceOf lp = _
    simp
  · rename_i hsrc
    rw [credit_balanceOf]
    by_cases hlp : lp = e.src
    · simp [hlp, hsrc, Int.sub_eq_add_neg]
    · simp [hlp]

theorem arrive_total (v : ShareView) (e : ShareTransfer) :
    (v.arrive e).totalShares = v.totalShares - ((if e.dst = 0 then e.value else 0 : Nat) : Int) := by
  unfold arrive
  split
  · rfl
  · simp

theorem arrive_balanceOf (v : ShareView) (e : ShareTransfer) (lp : Address) :
    (v.arrive e).balanceOf lp =
      v.balanceOf lp + ((if e.dst ≠ 0 ∧ lp = e.dst then e.value else 0 : Nat) : Int) := by
  unfold arrive
  split
  · rename_i hdst
    rw [if_neg (fun hc => hc.1 hdst)]
    show v.balanceOf lp = _
    simp
  · rename_i hdst
    rw [credit_balanceOf]
    by_cases hlp : lp = e.dst
    · simp [hlp, hdst]
    · simp [hlp]

/-- The check passes when neither the total nor a balance is negative. -/
theorem negative_eq_false (htotal : 0 ≤ v.totalShares) (hb : ∀ lp, 0 ≤ v.balanceOf lp) :
    v.negative = false := by
  unfold negative
  simp only [Bool.or_eq_false_iff, decide_eq_false_iff_not, not_lt, List.any_eq_false,
    decide_eq_true_eq]
  refine ⟨htotal, fun e he => ?_⟩
  have hlookup : v.shareBalances.lookup e.1 = some e.2 := AList.mem_lookup_iff.mpr he
  have hread := hb e.1
  unfold balanceOf at hread
  rw [hlookup] at hread
  exact hread

/-- The view has at least the shares of the vault, and the vault nothing at the zero address. -/
structure Covers (v : ShareView) (p : Pool) : Prop where
  total : (p.vault.totalShares : Int) ≤ v.totalShares
  balances : ∀ lp, (p.balanceOf lp : Int) ≤ v.balanceOf lp
  zero : p.balanceOf 0 = 0

/-- The view moved by what the vault moved by: the gap between the two stays. -/
structure Follows (v v' : ShareView) (p p' : Pool) : Prop where
  total : v'.totalShares - p'.vault.totalShares = v.totalShares - p.vault.totalShares
  balances : ∀ lp, v'.balanceOf lp - p'.balanceOf lp = v.balanceOf lp - p.balanceOf lp

/-- Reading an event that stands for the writes of the vault follows them. -/
theorem foldTransfer_ok (hv : v.Covers p) (he : p.ShareEffect e p') :
    ∃ v', foldTransfer v e = .ok v' ∧ v.Follows v' p p' ∧ v'.Covers p' := by
  have htotal := he.total
  have hfollows : v.Follows ((v.leave e).arrive e) p p' := by
    refine ⟨?_, fun lp => ?_⟩
    · rw [arrive_total, leave_total]
      omega
    · have hb := he.balances lp
      rw [arrive_balanceOf, leave_balanceOf]
      omega
  have hcovers : ((v.leave e).arrive e).Covers p' := by
    refine ⟨?_, fun lp => ?_, he.zero.trans hv.zero⟩
    · have h := hfollows.total
      have := hv.total
      omega
    · have h := hfollows.balances lp
      have := hv.balances lp
      omega
  have hcheck : ((v.leave e).arrive e).negative = false := by
    refine negative_eq_false ?_ fun lp => ?_
    · have := hcovers.total
      omega
    · have := hcovers.balances lp
      omega
  refine ⟨_, ?_, hfollows, hcovers⟩
  unfold foldTransfer
  dsimp only
  rw [hcheck]
  rfl

/-- Reading the events of a call follows the call. -/
theorem fold_ok {es : List ShareTransfer} (hv : v.Covers p) (he : p.ShareEffects es p') :
    ∃ v', fold foldTransfer v es = .ok v' ∧ v.Follows v' p p' ∧ v'.Covers p' := by
  induction es generalizing v p with
  | nil =>
    have hsame : p.SameShares p' := he
    refine ⟨v, rfl, ⟨?_, fun lp => ?_⟩, ?_, fun lp => ?_, ?_⟩
    · rw [hsame.total]
    · rw [hsame.balances lp]
    · rw [hsame.total]
      exact hv.total
    · rw [hsame.balances lp]
      exact hv.balances lp
    · rw [hsame.balances 0]
      exact hv.zero
  | cons e es ih =>
    obtain ⟨q, he, hes⟩ := he
    obtain ⟨w, hw, hfollows, hcovers⟩ := foldTransfer_ok hv he
    obtain ⟨v', hv', hfollows', hcovers'⟩ := ih hcovers hes
    refine ⟨v', ?_, ⟨?_, fun lp => ?_⟩, hcovers'⟩
    · rw [fold_cons_ok hw, hv']
    · exact hfollows'.total.trans hfollows.total
    · exact (hfollows'.balances lp).trans (hfollows.balances lp)

/-- A view that follows the vault equals it before and after. -/
theorem Follows.equals_iff {s s' : PoolState} (h : v.Follows v' s.pool s'.pool) (hv : v.Equals s) :
    v'.Equals s' := by
  refine ⟨?_, fun lp => ?_⟩
  · have := h.total
    have := hv.1
    omega
  · have := h.balances lp
    have := hv.2 lp
    omega

end ShareView

/-! ### Runs -/

/-- What the view knows in every run: it covers the vault, and the book of the vault is valid. -/
def SharesTracked (v : ShareView) (s : PoolState) : Prop :=
  v.Covers s.pool ∧ ShareQueue.Valid s.pool.vault.lpBook

/-- A rollover leaves nobody with shares in the new epoch. -/
theorem Pool.rolled {m : Msg} {p p' : Pool} (hvalid : ShareQueue.Valid p.vault.lpBook)
    (h : p.rollLossEpoch m = .ok p') :
    p.vault.totalShares ≠ 0 ∧ p'.vault.totalShares = 0 ∧ ∀ lp, p'.balanceOf lp = 0 := by
  obtain ⟨hlost, residual, -, -, rfl⟩ := rollLossEpoch_ok h
  refine ⟨(fullyWrittenOff_ok hlost).2.1, rfl, fun lp => ?_⟩
  exact hvalid.wf.future (p.vault.currentEpoch + 1) (Nat.lt_succ_self _) lp

/-- The fold comes through the events of every step. -/
theorem AccountStep.read {s s' : PoolState} {a : Msg × PoolCall} {v : ShareView}
    (hv : SharesTracked v s) (hs : AccountStep s a s') :
    ∃ v', fold foldTransfer v (s.transfers a) = .ok v' ∧ SharesTracked v' s' := by
  obtain ⟨hcovers, hvalid⟩ := hv
  have hvalid' := ShareQueue.run_valid hvalid hs.2.run_lpBook
  by_cases hc : a.2 = .vault .rollLossEpoch
  · -- A rollover emits nothing, and the vault has less afterwards.
    obtain ⟨m, c⟩ := a
    cases hc
    have hexec : s.pool.rollLossEpoch m = .ok s'.pool := hs.2.2.2.1
    obtain ⟨-, htotal, hb⟩ := Pool.rolled hvalid hexec
    refine ⟨v, rfl, ⟨?_, fun lp => ?_, hb 0⟩, hvalid'⟩
    · have := hcovers.total
      omega
    · have := hcovers.balances lp
      have := hb lp
      omega
  · obtain ⟨v', hv', -, hcovers'⟩ := ShareView.fold_ok hcovers
      (hs.2.shares hs.1 hcovers.zero hvalid hc)
    exact ⟨v', hv', hcovers', hvalid'⟩

/-- A step keeps an exact view exact unless it rolls the epoch over. -/
theorem AccountStep.equals_iff {s s' : PoolState} {a : Msg × PoolCall} {v v' : ShareView}
    (hv : SharesTracked v s) (heq : v.Equals s) (hs : AccountStep s a s')
    (hread : fold foldTransfer v (s.transfers a) = .ok v') :
    v'.Equals s' ↔ a.2 ≠ .vault .rollLossEpoch := by
  obtain ⟨hcovers, hvalid⟩ := hv
  constructor
  · intro heq' hc
    obtain ⟨m, c⟩ := a
    cases hc
    have hexec : s.pool.rollLossEpoch m = .ok s'.pool := hs.2.2.2.1
    obtain ⟨hne, htotal, -⟩ := Pool.rolled hvalid hexec
    -- The fold read no event, so its total is still that of the closed epoch.
    cases hread
    have := heq.1
    have := heq'.1
    omega
  · intro hc
    obtain ⟨w, hw, hfollows, -⟩ := ShareView.fold_ok hcovers
      (hs.2.shares hs.1 hcovers.zero hvalid hc)
    rw [hread] at hw
    cases hw
    exact hfollows.equals_iff heq

section
variable {s₀ s : Logged PoolState ShareTransfer} {as : List (Msg × PoolCall)}

theorem ShareInitial.tracked (h : ShareInitial s₀) :
    SharesTracked .empty s₀.state ∧ ShareView.Equals .empty s₀.state := by
  obtain ⟨⟨-, hvault, -⟩, -⟩ := h
  have htotal : s₀.state.pool.vault.totalShares = 0 := by rw [hvault]; rfl
  have hb : ∀ lp, s₀.state.pool.balanceOf lp = 0 := by
    intro lp
    unfold Pool.balanceOf
    rw [hvault]
    rfl
  have hempty : ∀ lp, ShareView.empty.balanceOf lp = 0 := fun _ => rfl
  refine ⟨⟨⟨?_, fun lp => ?_, hb 0⟩, ?_⟩, ?_, fun lp => ?_⟩
  · rw [htotal]
    rfl
  · rw [hb lp, hempty lp]
    rfl
  · rw [hvault]
    exact lpBook_valid_initial _
  · rw [htotal]
    rfl
  · rw [hb lp, hempty lp]
    rfl

/-- The folded shares equal the shares of the vault after every call of a run if and only if no
call of the run rolls the loss epoch over. -/
theorem shares_projected_iff (hinit : ShareInitial s₀) (hrun : Steps ShareStep s₀ as s) :
    (∀ pre post t, as = pre ++ post → Steps ShareStep s₀ pre t → SharesProjected t) ↔
      ∀ a ∈ as, a.2 ≠ .vault .rollLossEpoch := by
  obtain ⟨htracked, heq⟩ := hinit.tracked
  rw [← hrun.forall_stepOf_iff (Q := fun a => a.2 ≠ .vault .rollLossEpoch)]
  exact projects_iff (Q := fun _ (a : Msg × PoolCall) => a.2 ≠ .vault .rollLossEpoch) hinit.2 htracked heq
    (fun _ _ _ _ hv hs => AccountStep.read hv hs)
    fun _ _ _ _ _ hv hp hs hread => AccountStep.equals_iff hv hp hs hread

end

/-! ### Runs to evaluate -/

theorem runShares_steps : ∀ {as : List (Msg × PoolCall)} {s s' : Logged PoolState ShareTransfer},
    runShares s as = .ok s' → Steps ShareStep s as s' := by
  intro as
  induction as with
  | nil =>
    intro s s' h
    cases h
    exact .nil s
  | cons a rest ih =>
    intro s s' h
    obtain ⟨m, c⟩ := a
    unfold runShares at h
    split at h
    · rename_i hc
      obtain ⟨p, hp, h⟩ := bind_eq_ok.mp h
      exact .cons ⟨⟨hc.1, hc.2.1, hc.2.2, hp, rfl⟩, rfl⟩ (ih h)
    · cases h

namespace Sample

/-- The deployment before any event. -/
def shareDeployment : Logged PoolState ShareTransfer := ⟨deployment, []⟩

/-- One holder is paid by the queue, one transfers and withdraws. -/
def shareCalls : List (Msg × PoolCall) :=
  [(msg 8 10, .vault (.deposit 1000 0)), (msg 9 10, .vault (.deposit 500 0)),
    (msg 8 11, .vault (.requestWithdrawal 400000 0)), (msg 7 12, .vault (.processWithdrawals 5)),
    (msg 8 13, .vault (.transfer 9 100000)), (msg 9 14, .vault (.withdraw 600000 0))]

/-- A facility takes all the cash, is written off, and the epoch is rolled over. -/
def rolledCalls : List (Msg × PoolCall) :=
  [(msg 8 10, .vault (.deposit 1000 0))] ++ drawCalls 10 1000 ++
    [(msg 7 11, .vault (.writeOff 5)), (msg 7 11, .vault .rollLossEpoch)]

end Sample

/-- In no run the fold meets a negative number, and in every run, also over a rollover, it finds at
least the shares that the vault has of each holder and in total. -/
theorem shares_covered {s₀ s : Logged PoolState ShareTransfer} {as : List (Msg × PoolCall)}
    (hinit : ShareInitial s₀) (hrun : Steps ShareStep s₀ as s) :
    ∃ v, fold foldTransfer .empty s.log = .ok v ∧ v.Covers s.state.pool := by
  obtain ⟨v, hv, hcovers, -⟩ := projects_of_steps hinit.2 hinit.tracked.1
    (fun _ _ _ _ hv hs => AccountStep.read hv hs) hrun
  exact ⟨v, hv, hcovers⟩

/-- Also after a rollover. -/
theorem shares_covered_sample :
    ∃ s v, Steps ShareStep Sample.shareDeployment Sample.rolledCalls s ∧
      fold foldTransfer .empty s.log = .ok v ∧ v.Covers s.state.pool := by
  have hreturns : (runShares Sample.shareDeployment Sample.rolledCalls).toOption.isSome = true := by
    decide +kernel
  obtain ⟨s, hs⟩ := Option.isSome_iff_exists.mp hreturns
  have hrun := runShares_steps (toOption_eq_some.mp hs)
  obtain ⟨v, hv, hcovers⟩ := shares_covered ⟨Sample.deployment_initial, rfl⟩ hrun
  exact ⟨s, v, hrun, hv, hcovers⟩

/-- After a rollover the vault has no shares, and the folded total is still that of the closed
epoch. -/
theorem shares_rolled_over :
    ∃ s, ShareInitial Sample.shareDeployment ∧
      Steps ShareStep Sample.shareDeployment Sample.rolledCalls s ∧
      s.state.pool.vault.totalShares = 0 ∧
      (∃ v, fold foldTransfer .empty s.log = .ok v ∧ v.totalShares = 1000000) ∧
      ¬SharesProjected s := by
  obtain ⟨s, hrun, hview⟩ := map_eq_ok.mp (toOption_eq_some.mp (show
    ((runShares Sample.shareDeployment Sample.rolledCalls).map fun s =>
      (s.state.pool.vault.totalShares,
        ((fold foldTransfer .empty s.log).map (·.totalShares)).toOption)).toOption =
      some (0, some 1000000) by decide +kernel))
  simp only [Prod.mk.injEq] at hview
  obtain ⟨htotal, hfold⟩ := hview
  obtain ⟨v, hv, hv'⟩ := map_eq_ok.mp (toOption_eq_some.mp hfold)
  refine ⟨s, ⟨Sample.deployment_initial, rfl⟩, runShares_steps hrun, htotal, ⟨v, hv, hv'⟩, ?_⟩
  rintro ⟨w, hw, hequal, -⟩
  rw [hv] at hw
  cases hw
  omega

/-- Deposits, a fill of the queue, a transfer and a withdrawal are all folded exactly. -/
theorem shares_projected_sample :
    ∃ s, Steps ShareStep Sample.shareDeployment Sample.shareCalls s ∧
      s.state.pool.vault.totalShares = 500000 ∧ s.state.pool.balanceOf 8 = 500000 ∧
      SharesProjected s := by
  obtain ⟨s, hrun, hview⟩ := map_eq_ok.mp (toOption_eq_some.mp (show
    ((runShares Sample.shareDeployment Sample.shareCalls).map fun s =>
      (s.state.pool.vault.totalShares, s.state.pool.balanceOf 8)).toOption =
      some (500000, 500000) by decide +kernel))
  simp only [Prod.mk.injEq] at hview
  have hsteps := runShares_steps hrun
  have hall := (shares_projected_iff ⟨Sample.deployment_initial, rfl⟩ hsteps).mpr (by
    intro a ha
    simp only [Sample.shareCalls, List.mem_cons, List.not_mem_nil, or_false] at ha
    obtain rfl | rfl | rfl | rfl | rfl | rfl := ha
    all_goals exact fun h => nomatch h)
  exact ⟨s, hsteps, hview.1, hview.2, hall Sample.shareCalls [] s (by simp) hsteps⟩

end Rackline
