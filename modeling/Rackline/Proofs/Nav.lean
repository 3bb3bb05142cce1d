import Rackline.Proofs.Ledger
import Rackline.Proofs.Solvency

/-!
# `Rackline.Proofs.Nav`: what the NAV counts

`Losses` is the invariant that ties the vault's loss bookkeeping to the ledger it reads: the
written-off list names open facilities, each once; the total impairment is the sum of the
allowances; no allowance exceeds the debt it stands against. It holds in every run in which
an allocation is reported to the vault in the same transaction: the report caps the allowance
by the debt that is left.

From it `performingReceivables` never underflows and is the debt of the facilities that are
not written off, and the clamp of `nav` at zero is never taken.
-/

set_option autoImplicit false

namespace Rackline

open Evm Transition Finset

namespace Pool

variable {p p' : Pool} {m : Msg}

/-- The loss bookkeeping of the vault agrees with the ledger at `now`. -/
structure Losses (now : Nat) (p : Pool) : Prop where
  ledger : p.ledger.WF
  nodup : p.vault.writtenOff.Nodup
  mem_iff : ∀ id, id ∈ p.vault.writtenOff ↔ p.vault.isWrittenOff id = true
  isOpen : ∀ id, id ∈ p.vault.writtenOff → id ∈ p.ledger.ids
  total : p.vault.totalImpairment = ∑ id, p.vault.impairmentOf id
  impairment_le : ∀ id, p.vault.impairmentOf id ≤ p.ledger.debtAt id now
  impairment_zero : ∀ id, p.vault.isWrittenOff id = true → p.vault.impairmentOf id = 0

/-- Time only raises the debts. -/
theorem Losses.later {now t : Nat} (h : Losses now p) (ht : now ≤ t) : Losses t p :=
  { h with impairment_le := fun id => (h.impairment_le id).trans (Facility.debtAt_mono _ ht) }

/-- Bookkeeping that touches no loss field keeps the agreement. -/
theorem Losses.keep {now : Nat} (h : Losses now p) {v : Vault} {token : Token Address}
    (hlist : v.writtenOff = p.vault.writtenOff) (hflag : v.isWrittenOff = p.vault.isWrittenOff)
    (himp : v.impairmentOf = p.vault.impairmentOf)
    (htotal : v.totalImpairment = p.vault.totalImpairment) :
    Losses now { p with token := token, vault := v } := by
  refine ⟨h.ledger, ?_, ?_, ?_, ?_, ?_, ?_⟩
  · simpa only [hlist] using h.nodup
  · simpa only [hlist, hflag] using h.mem_iff
  · simpa only [hlist] using h.isOpen
  · simpa only [htotal, himp] using h.total
  · simpa only [himp] using h.impairment_le
  · simpa only [hflag, himp] using h.impairment_zero

/-- A ledger call that lowers no debt keeps the agreement. -/
theorem Losses.grow {now : Nat} (h : Losses now p) {l : Ledger}
    (hl : Ledger.Grows now p.ledger l) : Losses now { p with ledger := l } :=
  ⟨hl.wf h.ledger, h.nodup, h.mem_iff, fun id hid => hl.ids id (h.isOpen id hid), h.total,
    fun id => (h.impairment_le id).trans (hl.debt h.ledger id), h.impairment_zero⟩

/-- One allowance is rewritten to `v`, the total with it. -/
theorem Losses.setImpairment {now : Nat} (h : Losses now p) (id : FacilityId) (v total : Nat)
    (htotal : total + p.vault.impairmentOf id = p.vault.totalImpairment + v)
    (hle : v ≤ p.ledger.debtAt id now) (hzero : p.vault.isWrittenOff id = true → v = 0) :
    Losses now { p with vault := { p.vault with
      impairmentOf := Function.update p.vault.impairmentOf id v
      totalImpairment := total } } := by
  refine ⟨h.ledger, h.nodup, h.mem_iff, h.isOpen, ?_, fun i => ?_, fun i hi => ?_⟩
  · have hsum := Total.sum_update p.vault.impairmentOf id v
    have := h.total
    simp only
    omega
  · by_cases hid : i = id
    · subst hid
      simpa using hle
    · simpa [Function.update_of_ne hid] using h.impairment_le i
  · by_cases hid : i = id
    · subst hid
      simpa using hzero hi
    · simpa [Function.update_of_ne hid] using h.impairment_zero i hi

/-- A recorded repayment caps the allowance by the reported debt, so it keeps the agreement
when the allowance is at most the debt before the call, and when the reported debt is the
ledger's. -/
theorem Losses.repayment {now : Nat} {id : FacilityId} {r : RepayResult}
    (h : Losses now { p with vault := { p.vault with
      impairmentOf := Function.update p.vault.impairmentOf id
        (p.vault.impairmentOf id - p.impairmentRelease id r.newDebt)
      totalImpairment := p.vault.totalImpairment - p.impairmentRelease id r.newDebt } }) :
    Losses now (p.afterRepayment id r) :=
  h.keep rfl rfl rfl rfl

theorem impairmentRelease_le (p : Pool) (id : FacilityId) (newDebt : Nat) :
    p.impairmentRelease id newDebt ≤ p.vault.impairmentOf id := Nat.sub_le _ _

theorem Losses.markWrittenOff {now : Nat} (h : Losses now p) {id : FacilityId}
    (hnot : p.vault.isWrittenOff id = false) (hopen : id ∈ p.ledger.ids)
    (hle : p.vault.impairmentOf id ≤ p.vault.totalImpairment) :
    Losses now (p.markWrittenOff id) := by
  have hfresh : id ∉ p.vault.writtenOff := fun hmem => by
    rw [(h.mem_iff id).mp hmem] at hnot
    cases hnot
  have himp := h.setImpairment id 0 (p.vault.totalImpairment - p.vault.impairmentOf id) (by omega)
    (Nat.zero_le _) (fun _ => rfl)
  refine ⟨h.ledger, ?_, fun i => ?_, fun i hi => ?_, himp.total, himp.impairment_le,
    fun i hi => ?_⟩
  · refine List.nodup_append.mpr ⟨h.nodup, List.nodup_singleton _, fun a ha b hb => ?_⟩
    rw [List.mem_singleton.mp hb]
    rintro rfl
    exact hfresh ha
  · by_cases hid : i = id
    · simp [Pool.markWrittenOff, hid]
    · simpa [Pool.markWrittenOff, Function.update_of_ne hid, hid] using h.mem_iff i
  · rcases List.mem_append.mp hi with hold | hnew
    · exact h.isOpen i hold
    · rw [List.mem_singleton.mp hnew]
      exact hopen
  · by_cases hid : i = id
    · simp [Pool.markWrittenOff, hid]
    · have hi' : p.vault.isWrittenOff i = true := by
        simpa [Pool.markWrittenOff, Function.update_of_ne hid] using hi
      simpa [Pool.markWrittenOff, Function.update_of_ne hid] using h.impairment_zero i hi'

theorem Losses.skip {now now' : Nat} (h : Losses now p) (hstep : HeadStep now' p (.skip p')) :
    Losses now p' := by
  cases hstep with
  | passed => exact h.keep rfl rfl rfl rfl
  | expired => exact h.keep rfl rfl rfl rfl

theorem Losses.filled {now now' id shares assets : Nat} {whole : Bool} (h : Losses now p)
    (hstep : HeadStep now' p (.filled id shares assets p' whole)) : Losses now p' := by
  cases hstep with
  | whole => exact h.keep rfl rfl rfl rfl
  | part => exact h.keep rfl rfl rfl rfl

end Pool

open Pool in
/-- Every vault call keeps the loss bookkeeping in agreement with the ledger. -/
theorem VaultCall.exec_losses {m : Msg} {p p' : Pool} {c : VaultCall} (hl : Losses m.now p)
    (h : c.exec m p = .ok p') : Losses m.now p' := by
  cases c with
  | setManager manager enabled =>
    obtain ⟨_, _, _, _, rfl⟩ := setManager_ok h
    exact hl.keep rfl rfl rfl rfl
  | finalizeWiring =>
    obtain ⟨_, _, _, _, rfl⟩ := finalizeWiring_ok h
    exact hl.keep rfl rfl rfl rfl
  | bindRecoveryManager manager =>
    obtain ⟨_, _, _, _, rfl⟩ := bindRecoveryManager_ok h
    exact hl.keep rfl rfl rfl rfl
  | setDepositsPaused paused =>
    obtain ⟨_, _, _, _, rfl⟩ := setDepositsPaused_ok h
    exact hl.keep rfl rfl rfl rfl
  | deposit assets minShares =>
    obtain ⟨⟨shares, q⟩, hc, rfl⟩ := map_eq_ok.mp h
    obtain ⟨-, -, -, -, token, -, rfl⟩ := deposit_ok hc
    exact hl.keep rfl rfl rfl rfl
  | withdraw shares minAssets =>
    obtain ⟨⟨assets, q⟩, hc, rfl⟩ := map_eq_ok.mp h
    obtain ⟨-, -, -, -, -, -, -, -, token, -, rfl⟩ := withdraw_ok hc
    exact hl.keep rfl rfl rfl rfl
  | requestWithdrawal shares minAssets =>
    obtain ⟨⟨id, q⟩, hc, rfl⟩ := map_eq_ok.mp h
    obtain ⟨-, -, -, -, rfl⟩ := requestWithdrawal_ok hc
    exact hl.keep rfl rfl rfl rfl
  | cancelWithdrawal id =>
    obtain ⟨-, rfl⟩ := cancelWithdrawal_ok h
    exact hl.keep rfl rfl rfl rfl
  | processWithdrawals maxRequests =>
    obtain ⟨⟨filled, reserved, q⟩, hc, rfl⟩ := map_eq_ok.mp h
    obtain ⟨-, hloop⟩ := processWithdrawals_ok hc
    exact processLoop_invariant (P := fun _ => Losses m.now)
      (fun _ _ _ hq _ hstep => hq.skip hstep)
      (fun _ _ _ _ _ _ _ hq _ hstep => hq.filled hstep) hloop (hl.keep rfl rfl rfl rfl)
  | claimWithdrawal id =>
    obtain ⟨⟨assets, q⟩, hc, rfl⟩ := map_eq_ok.mp h
    obtain ⟨-, -, token, -, rfl⟩ := claimWithdrawal_ok hc
    exact hl.keep rfl rfl rfl rfl
  | rollLossEpoch =>
    obtain ⟨-, residual, -, -, rfl⟩ := rollLossEpoch_ok h
    exact hl.keep rfl rfl rfl rfl
  | claimEpochRecovery epoch =>
    obtain ⟨⟨assets, q⟩, hc, rfl⟩ := map_eq_ok.mp h
    obtain ⟨-, -, -, token, -, rfl⟩ := claimEpochRecovery_ok hc
    exact hl.keep rfl rfl rfl rfl
  | lend id dst amount =>
    obtain ⟨-, -, -, token, -, rfl⟩ := lend_ok h
    exact hl.keep rfl rfl rfl rfl
  | onRepayment id result =>
    obtain ⟨-, -, -, hrel, -, rfl⟩ := onRepayment_ok h
    have hle := p.impairmentRelease_le id result.newDebt
    refine Losses.repayment (hl.setImpairment _ _ _ (by omega) ?_ fun hw => ?_)
    · exact (Nat.sub_le _ _).trans (hl.impairment_le id)
    · rw [hl.impairment_zero id hw]
      exact Nat.zero_sub _
  | refundExcess id dst amount =>
    obtain ⟨-, -, token, -, rfl⟩ := refundExcess_ok h
    exact hl.keep rfl rfl rfl rfl
  | recordRecovery id amount =>
    obtain ⟨-, -, -, rfl⟩ := recordRecovery_ok h
    exact hl.keep rfl rfl rfl rfl
  | recognizeImpairment id amount =>
    obtain ⟨hw, ⟨exposure, hexp, hle⟩, rfl⟩ := recognizeImpairment_ok h
    obtain ⟨-, rfl⟩ := Ledger.legalDebtAt_eq_ok hexp
    refine hl.setImpairment _ _ _ (by omega) hle fun hw' => ?_
    rw [hw] at hw'
    cases hw'
  | reverseImpairment id amount =>
    obtain ⟨hle, htotal, rfl⟩ := reverseImpairment_ok h
    refine hl.setImpairment _ _ _ (by omega) ((Nat.sub_le _ _).trans (hl.impairment_le id)) fun hw => ?_
    rw [hl.impairment_zero id hw]
    exact Nat.zero_sub _
  | writeOff id =>
    obtain ⟨hw, ⟨interest, hi⟩, hle, lost, -, rfl⟩ := writeOff_ok h
    have hopen := (hl.ledger.mem_iff id).mpr (Ledger.unpaidInterestAt_exists hi)
    exact (hl.markWrittenOff hw hopen hle).keep rfl rfl rfl rfl
  | approve spender amount =>
    cases h
    exact hl.keep rfl rfl rfl rfl
  | transfer dst amount =>
    obtain ⟨-, rfl⟩ := transferShares_ok h
    exact hl.keep rfl rfl rfl rfl
  | transferFrom src dst amount =>
    obtain ⟨-, allowances, rfl⟩ := transferFrom_ok h
    exact hl.keep rfl rfl rfl rfl

/-- The repayment pair keeps the agreement: the debt falls, and the report caps the allowance
by what is left. -/
theorem Pool.repay_losses {m : Msg} {p p' : Pool} {id : FacilityId} {received requested : Nat}
    {r : RepayResult} (hl : Pool.Losses m.now p)
    (h : p.repay m id received requested = .ok (r, p')) : Pool.Losses m.now p' := by
  obtain ⟨split, ledger, halloc, rfl, hrepay⟩ := Pool.repay_ok h
  obtain ⟨-, -, -, -, -, hnew, hfall, hother, hids, -⟩ := Ledger.allocate_ok halloc
  obtain ⟨-, -, -, hrel, -, rfl⟩ := Pool.onRepayment_ok hrepay
  have hle := Pool.impairmentRelease_le { p with ledger := ledger } id split.newDebt
  have hwf := hl.ledger.allocate halloc
  -- The allowance of `id` may exceed the new debt until the report caps it, so the capped
  -- state is built field by field and not by two steps.
  refine Pool.Losses.repayment
    ⟨hwf, hl.nodup, hl.mem_iff, fun i hi => hids ▸ hl.isOpen i hi, ?_, fun i => ?_, fun i hi => ?_⟩
  · have hsum := Total.sum_update p.vault.impairmentOf id (p.vault.impairmentOf id -
      Pool.impairmentRelease { p with ledger := ledger } id split.newDebt)
    have := hl.total
    simp only at hrel hle ⊢
    omega
  · by_cases hid : i = id
    · subst hid
      simp only [Function.update_self, Pool.impairmentRelease]
      omega
    · have hdebt : ledger.debtAt i m.now = p.ledger.debtAt i m.now := by
        simp only [Ledger.debtAt, hother i hid]
      simp only [Function.update_of_ne hid, hdebt]
      exact hl.impairment_le i
  · by_cases hid : i = id
    · subst hid
      simp only [Function.update_self, hl.impairment_zero i hi, Nat.zero_sub]
    · simp only [Function.update_of_ne hid]
      exact hl.impairment_zero i hi

/-- Every coupled step keeps the agreement. -/
theorem CoupledStep.losses {s s' : PoolState} {a : Msg × PoolCall}
    (hl : Pool.Losses s.now s.pool) (h : CoupledStep s a s') : Pool.Losses s'.now s'.pool := by
  obtain ⟨m, c⟩ := a
  obtain ⟨hc, hnow, -, hexec, htime⟩ := h
  have hl := hl.later hnow
  rw [htime]
  cases c with
  | vault c => exact VaultCall.exec_losses hl hexec
  | ledger c =>
    obtain ⟨l, hl', hp⟩ := map_eq_ok.mp hexec
    rw [← hp]
    refine hl.grow (LedgerCall.exec_grows ?_ hl')
    rintro id received rfl
    exact hc
  | token c =>
    obtain ⟨t, -, hp⟩ := map_eq_ok.mp hexec
    rw [← hp]
    exact hl.keep rfl rfl rfl rfl
  | repay id received requested =>
    obtain ⟨⟨r, q⟩, hq, rfl⟩ := map_eq_ok.mp hexec
    exact Pool.repay_losses hl hq

theorem PoolState.Initial.losses {s : PoolState} (h : s.Initial) :
    Pool.Losses s.now s.pool := by
  obtain ⟨hl, hv, -⟩ := h
  refine ⟨?_, ?_, ?_, ?_, ?_, ?_, ?_⟩
  · rw [hl]
    exact Ledger.wf_initial
  all_goals
    rw [hv]
    simp [Vault.initial]

/-- The loss bookkeeping agrees with the ledger in every state of a coupled run. -/
theorem CoupledReachable.losses {s : PoolState} (h : CoupledReachable s) :
    Pool.Losses s.now s.pool :=
  Reachable.invariant (P := fun s => Pool.Losses s.now s.pool) (fun _ hinit => hinit.losses)
    (fun _ _ _ hs hstep => CoupledStep.losses hs hstep) h

/-- A coupled run is a run. -/
theorem CoupledReachable.reachable {s : PoolState} (h : CoupledReachable s) : PoolReachable s :=
  h.mono fun _ _ _ hs => hs.2

/-! ### Performing receivables -/

/-- A facility that counts for `performingReceivables`: open and not written off. -/
def Pool.performing (p : Pool) : Finset FacilityId :=
  p.ledger.ids.toFinset.filter fun id => p.vault.isWrittenOff id = false

/-- The debt of the facilities that are not written off. -/
def Pool.performingDebt (p : Pool) (t : Nat) : Nat := ∑ id ∈ p.performing, p.ledger.debtAt id t

namespace Pool

variable {p : Pool} {now t : Nat}

/-- The loop of `performingReceivables` never underflows when the total covers the debts it
takes off. -/
theorem subtractWrittenOff_eq {l : Ledger} : ∀ {ids : List FacilityId} {total : Nat},
    (∀ id ∈ ids, l.legalDebtAt id t = .ok (l.debtAt id t)) →
    (ids.map fun id => l.debtAt id t).sum ≤ total →
    subtractWrittenOff l t ids total = .ok (total - (ids.map fun id => l.debtAt id t).sum) := by
  intro ids
  induction ids with
  | nil =>
    intro total _ _
    rfl
  | cons id rest ih =>
    intro total hread hle
    simp only [List.map_cons, List.sum_cons] at hle ⊢
    have hsub : (subW total (l.debtAt id t) : Except Revert Nat) = .ok (total - l.debtAt id t) :=
      subW_eq_ok.mpr ⟨by omega, rfl⟩
    unfold subtractWrittenOff
    rw [hread id List.mem_cons_self, ok_bind, hsub, ok_bind]
    rw [ih (fun i hi => hread i (List.mem_cons_of_mem _ hi)) (by omega), Nat.sub_sub]

/-- The ledger total splits into the performing and the written-off debt. -/
theorem Losses.sum_debt_eq (h : Losses now p) (t : Nat) :
    (p.ledger.ids.map fun id => p.ledger.debtAt id t).sum =
      p.performingDebt t + (p.vault.writtenOff.map fun id => p.ledger.debtAt id t).sum := by
  have hsub : p.vault.writtenOff.toFinset ⊆ p.ledger.ids.toFinset := fun id hid =>
    List.mem_toFinset.mpr (h.isOpen id (List.mem_toFinset.mp hid))
  have hperf : p.performing = p.ledger.ids.toFinset \ p.vault.writtenOff.toFinset := by
    ext id
    simp only [performing, mem_filter, mem_sdiff, List.mem_toFinset, h.mem_iff]
    simp
  rw [← List.sum_toFinset _ h.ledger.nodup, ← List.sum_toFinset _ h.nodup, performingDebt, hperf,
    sum_sdiff hsub]

/-- Every debt on the way of a total that returns was readable. -/
theorem Losses.legalDebtAt_eq (h : Losses now p) {total : Nat}
    (htotal : p.ledger.totalLegalDebtAt t = .ok total) {id : FacilityId}
    (hid : id ∈ p.ledger.ids) : p.ledger.legalDebtAt id t = .ok (p.ledger.debtAt id t) := by
  obtain ⟨d, hd⟩ := (Ledger.totalLegalDebtAt_eq_ok htotal).2 id hid
  have hopen : ¬(p.ledger.facilities id).exists_ = false := by
    simp [(h.ledger.mem_iff id).mp hid]
  unfold Ledger.legalDebtAt
  rw [revertIf_of_not _ hopen, ok_bind, hd, Facility.legalDebtAt_eq_ok hd]
  rfl

/-- `performingReceivables` reverts only when the ledger total does, and is the performing
debt. -/
theorem Losses.performingReceivables_eq (h : Losses now p) {total : Nat}
    (htotal : p.ledger.totalLegalDebtAt t = .ok total) :
    p.performingReceivables t = .ok (p.performingDebt t) := by
  have hsum := h.sum_debt_eq t
  have hval := (Ledger.totalLegalDebtAt_eq_ok htotal).1
  have hloop := subtractWrittenOff_eq
    (fun id hid => h.legalDebtAt_eq htotal (h.isOpen id hid)) (by omega : _ ≤ total)
  unfold performingReceivables
  rw [htotal, ok_bind]
  refine hloop.trans (congrArg Except.ok ?_)
  omega

theorem Losses.performingReceivables_ok (h : Losses now p) {performing : Nat}
    (hok : p.performingReceivables t = .ok performing) : performing = p.performingDebt t := by
  have hok' := hok
  unfold performingReceivables at hok'
  obtain ⟨total, htotal, -⟩ := bind_eq_ok.mp hok'
  rw [h.performingReceivables_eq htotal] at hok
  exact (Except.ok.inj hok).symm

/-- Only performing facilities are impaired. -/
theorem Losses.impairment_eq_zero (h : Losses now p) {id : FacilityId}
    (hid : id ∉ p.performing) : p.vault.impairmentOf id = 0 := by
  by_cases hopen : id ∈ p.ledger.ids
  · refine h.impairment_zero id ?_
    simpa [performing, hopen] using hid
  · have := h.impairment_le id
    rw [h.ledger.debtAt_eq_zero hopen] at this
    exact Nat.le_zero.mp this

theorem Losses.sum_impairment (h : Losses now p) :
    p.vault.totalImpairment = ∑ id ∈ p.performing, p.vault.impairmentOf id := by
  rw [h.total, ← sum_subset (subset_univ p.performing) fun _ _ hid => h.impairment_eq_zero hid]

/-- The allowances together are at most the performing debt. -/
theorem Losses.totalImpairment_le (h : Losses now p) (ht : now ≤ t) :
    p.vault.totalImpairment ≤ p.performingDebt t := by
  rw [h.sum_impairment]
  exact sum_le_sum fun id _ => (h.later ht).impairment_le id

/-! ### NAV -/

/-- The liabilities of a solvent vault are words, so `_lpCash` returns. -/
theorem Solvent.lpCash_eq (hs : Solvent p) :
    p.lpCash = .ok (p.cashBalance - p.vault.liabilities) := by
  have hword := p.token.bounded p.vault.self
  have hcov := hs.covered.trans hs.present
  unfold cashBalance Vault.liabilities at hcov
  have h₁ : (addW 256 p.vault.totalBorrowerOwned p.vault.totalWithdrawalReserved :
      Except Revert Nat) =
        .ok (p.vault.totalBorrowerOwned + p.vault.totalWithdrawalReserved) :=
    addW_eq_ok.mpr ⟨by omega, rfl⟩
  have h₂ : (addW 256 (p.vault.totalBorrowerOwned + p.vault.totalWithdrawalReserved)
      p.vault.totalRecoveryReserved : Except Revert Nat) = .ok p.vault.liabilities :=
    addW_eq_ok.mpr ⟨by omega, rfl⟩
  unfold lpCash
  rw [h₁, ok_bind, h₂, ok_bind]
  refine congrArg Except.ok ?_
  split <;> omega

/-- The NAV in terms of what it counts. It reverts only when the ledger total or the sum with
the cash leaves the word, and its clamp at zero is exact. -/
theorem Solvent.nav_eq (hs : Solvent p) (hl : Losses now p) {total : Nat}
    (htotal : p.ledger.totalLegalDebtAt t = .ok total) :
    p.nav t = (addW 256 (p.cashBalance - p.vault.liabilities) (p.performingDebt t)).map
      (· - p.vault.totalImpairment) := by
  unfold nav
  rw [hs.lpCash_eq, ok_bind, hl.performingReceivables_eq htotal, ok_bind]
  cases (addW 256 (p.cashBalance - p.vault.liabilities) (p.performingDebt t) :
      Except Revert Nat) with
  | error e => rfl
  | ok gross =>
    refine congrArg Except.ok ?_
    dsimp only
    split <;> omega

/-- What a NAV that returns is made of: cash and performing debt, less the liabilities and the
allowances. -/
theorem Solvent.nav_ok (hs : Solvent p) (hl : Losses now p) (ht : now ≤ t) {n : Nat}
    (hn : p.nav t = .ok n) :
    n + p.vault.totalImpairment + p.vault.liabilities = p.cashBalance + p.performingDebt t := by
  have hn' := hn
  unfold nav at hn'
  obtain ⟨cash, -, hn'⟩ := bind_eq_ok.mp hn'
  obtain ⟨performing, hperf, -⟩ := bind_eq_ok.mp hn'
  unfold performingReceivables at hperf
  obtain ⟨total, htotal, -⟩ := bind_eq_ok.mp hperf
  rw [hs.nav_eq hl htotal] at hn
  obtain ⟨gross, hgross, rfl⟩ := map_eq_ok.mp hn
  obtain ⟨-, rfl⟩ := addW_eq_ok.mp hgross
  have himp := hl.totalImpairment_le ht
  have hcov := hs.covered.trans hs.present
  omega

end Pool

/-- NAV exactness, in every state of every coupled run and at every time from the last call on.

- The ledger can be read at `t` for each facility when its total can, and then
  `performingReceivables` returns: it never underflows, and it is the sum of the debts of the
  open facilities that are not written off.
- The total impairment is the sum of the allowances; an allowance is at most the debt of its
  facility at `t`, and is zero for a facility that is written off or not open.
- The LP cash returns, and `nav` is that cash plus the performing debt less the total
  impairment, which the performing debt alone covers: nothing is clamped. -/
theorem nav_exact {s : PoolState} (h : CoupledReachable s) {t : Nat} (ht : s.now ≤ t) :
    (∀ total, s.pool.ledger.totalLegalDebtAt t = .ok total →
      (∀ id, id ∈ s.pool.ledger.ids →
        s.pool.ledger.legalDebtAt id t = .ok (s.pool.ledger.debtAt id t)) ∧
      s.pool.performingReceivables t = .ok (∑ id ∈ s.pool.ledger.ids.toFinset with
        s.pool.vault.isWrittenOff id = false, s.pool.ledger.debtAt id t)) ∧
    s.pool.vault.totalImpairment = ∑ id, s.pool.vault.impairmentOf id ∧
    (∀ id debt, s.pool.ledger.legalDebtAt id t = .ok debt →
      s.pool.vault.impairmentOf id ≤ debt) ∧
    (∀ id, id ∉ s.pool.ledger.ids → s.pool.vault.impairmentOf id = 0) ∧
    (∀ id, s.pool.vault.isWrittenOff id = true → s.pool.vault.impairmentOf id = 0) ∧
    ∃ cash, s.pool.lpCash = .ok cash ∧
      ∀ performing, s.pool.performingReceivables t = .ok performing →
        s.pool.vault.totalImpairment ≤ performing ∧
        s.pool.nav t = (addW 256 cash performing).map (· - s.pool.vault.totalImpairment) := by
  have hl := h.losses
  have hs := h.reachable.solvent
  refine ⟨fun total htotal => ⟨fun id hid => hl.legalDebtAt_eq htotal hid,
      hl.performingReceivables_eq htotal⟩, hl.total, fun id debt hdebt => ?_, fun id hid => ?_,
    hl.impairment_zero, _, hs.lpCash_eq, fun performing hperf => ?_⟩
  · rw [(Ledger.legalDebtAt_eq_ok hdebt).2]
    exact (hl.later ht).impairment_le id
  · have hle := hl.impairment_le id
    rw [hl.ledger.debtAt_eq_zero hid] at hle
    exact Nat.le_zero.mp hle
  · rw [hl.performingReceivables_ok hperf]
    refine ⟨hl.totalImpairment_le ht, ?_⟩
    unfold Pool.performingReceivables at hperf
    obtain ⟨total, htotal, -⟩ := bind_eq_ok.mp hperf
    exact hs.nav_eq hl htotal

/-- A draw, an impairment of 100, and a repayment a year later that leaves a debt of 40. -/
def Sample.impairmentCalls : List (Msg × PoolCall) :=
  [(msg 8 10, .vault (.deposit 1000 0))] ++ drawCalls 10 600 ++
    [(msg 7 20, .vault (.recognizeImpairment 5 100)), (msg 7 31536010, .token (.transfer 1 620)),
      (msg 7 31536010, .repay 5 620 620)]

/-- The allowance of the run is capped by the debt that is left, and is still covered a day
later. -/
theorem nav_exact_sample :
    ∃ s, CoupledReachable s ∧ s.pool.vault.impairmentOf 5 = 40 ∧
      s.pool.vault.totalImpairment = ∑ id, s.pool.vault.impairmentOf id ∧
      ∀ performing, s.pool.performingReceivables (s.now + 86400) = .ok performing →
        s.pool.vault.totalImpairment ≤ performing := by
  obtain ⟨s, hrun, hview⟩ := Sample.deployment.run_view Sample.impairmentCalls
    (fun s => s.pool.vault.impairmentOf 5) (v := 40) (by decide +kernel)
  have hreach := PoolState.run_coupledReachable hrun Sample.deployment_initial (by decide +kernel)
  obtain ⟨-, htotal, -, -, -, cash, -, hnav⟩ := nav_exact hreach (Nat.le_add_right s.now 86400)
  exact ⟨s, hreach, hview, htotal, fun performing hp => (hnav performing hp).1⟩

end Rackline
