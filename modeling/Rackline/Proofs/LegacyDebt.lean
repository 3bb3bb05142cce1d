import Rackline.HashCreditManager
import Rackline.Lib.Sum

/-!
# `Rackline.Proofs.LegacyDebt`: what a repayment leaves of a debt

The debt of a borrower is the principal in `currentDebt` and the interest since the last update. A
repayment moves the time of the update. A payment above the interest pays it off and lowers the
principal by the rest. A payment below the interest leaves the principal, and the interest that it
did not cover is gone (`repay_cases`).

`repay_conserves_iff` states this for every reachable state. The principals always add up to
`totalGlobalDebt` (`Books`).
-/

set_option autoImplicit false

namespace Rackline.HashCreditManager

open Evm Transition Finset

variable {s s' : State} {e : Env} {b : Address} {amount : Nat}

/-! ### The interest -/

theorem calculateAccruedInterest_of_debt {info : BorrowerInfo} (h : info.currentDebt = 0) :
    calculateAccruedInterest e info = .ok 0 := by
  simp [calculateAccruedInterest, h]

/-- No interest has accrued at the time of the update. -/
theorem calculateAccruedInterest_of_now {info : BorrowerInfo}
    (h : info.lastDebtUpdateTimestamp = e.now) : calculateAccruedInterest e info = .ok 0 := by
  unfold calculateAccruedInterest
  split
  · rfl
  · have hsub : (subW e.now.toNat info.lastDebtUpdateTimestamp.toNat : Except Err Nat) = .ok 0 := by
      rw [subW_eq_ok, h]
      omega
    rw [hsub, ok_bind]
    rfl

/-! ### The calls on the debt -/

/-- `borrow` makes the interest principal and adds the amount, within the limit. -/
theorem borrow_cases (h : s.borrow e amount = .ok s') :
    ∃ accrued, calculateAccruedInterest e (s.borrowers e.sender) = .ok accrued ∧
      (s.borrowers e.sender).status = .active ∧
      (s.borrowers e.sender).currentDebt.toNat + accrued + amount ≤
        (s.borrowers e.sender).creditLimit.toNat ∧
      s' = { s.setBorrower e.sender { s.borrowers e.sender with
          currentDebt :=
            BitVec.ofNat 128 ((s.borrowers e.sender).currentDebt.toNat + accrued + amount)
          lastDebtUpdateTimestamp := e.now } with
        totalGlobalDebt := s.totalGlobalDebt + (accrued + amount) } := by
  unfold State.borrow at h
  obtain ⟨-, -, h⟩ := bind_eq_ok.mp h
  obtain ⟨-, -, h⟩ := bind_eq_ok.mp h
  obtain ⟨-, -, h⟩ := bind_eq_ok.mp h
  obtain ⟨_, hactive, h⟩ := bind_eq_ok.mp h
  obtain ⟨accrued, haccrued, h⟩ := bind_eq_ok.mp h
  obtain ⟨principal, hprincipal, h⟩ := bind_eq_ok.mp h
  obtain ⟨newDebt, hnew, h⟩ := bind_eq_ok.mp h
  obtain ⟨_, hlimit, h⟩ := bind_eq_ok.mp h
  obtain ⟨-, -, h⟩ := bind_eq_ok.mp h
  obtain ⟨added, hadded, h⟩ := bind_eq_ok.mp h
  obtain ⟨total, htotal, h⟩ := bind_eq_ok.mp h
  obtain ⟨-, -, h⟩ := bind_eq_ok.mp h
  rw [addW_eq_ok] at hprincipal hnew hadded htotal
  rw [revertIf_eq_ok] at hactive hlimit
  obtain ⟨-, rfl⟩ := hprincipal
  obtain ⟨-, rfl⟩ := hnew
  obtain ⟨-, rfl⟩ := hadded
  obtain ⟨-, rfl⟩ := htotal
  exact ⟨accrued, haccrued, not_not.mp hactive, by omega, (pure_eq_ok.mp h).symm⟩

/-- `repay` takes at most the debt. What is left of the amount after the interest lowers the
principal. -/
theorem repay_cases {taken : Nat} (h : s.repay e amount = .ok (s', taken)) :
    ∃ accrued, calculateAccruedInterest e (s.borrowers e.sender) = .ok accrued ∧
      (s.borrowers e.sender).status ≠ .none ∧
      (s.borrowers e.sender).currentDebt.toNat + accrued < wordSize 256 ∧
      taken = min amount ((s.borrowers e.sender).currentDebt.toNat + accrued) ∧
      taken - accrued ≤ s.totalGlobalDebt ∧
      s' = { s.setBorrower e.sender { s.borrowers e.sender with
          currentDebt :=
            BitVec.ofNat 128 ((s.borrowers e.sender).currentDebt.toNat - (taken - accrued))
          lastDebtUpdateTimestamp := e.now } with
        totalGlobalDebt := s.totalGlobalDebt - (taken - accrued) } := by
  unfold State.repay at h
  obtain ⟨-, -, h⟩ := bind_eq_ok.mp h
  obtain ⟨-, -, h⟩ := bind_eq_ok.mp h
  obtain ⟨_, hreg, h⟩ := bind_eq_ok.mp h
  obtain ⟨accrued, haccrued, h⟩ := bind_eq_ok.mp h
  obtain ⟨totalDebt, htotalDebt, h⟩ := bind_eq_ok.mp h
  obtain ⟨principalPaid, hpaid, h⟩ := bind_eq_ok.mp h
  obtain ⟨-, -, h⟩ := bind_eq_ok.mp h
  obtain ⟨debt, hdebt, h⟩ := bind_eq_ok.mp h
  obtain ⟨total, htotal, h⟩ := bind_eq_ok.mp h
  have hpair := pure_eq_ok.mp h
  rw [addW_eq_ok] at htotalDebt
  rw [subW_eq_ok] at hdebt htotal
  rw [revertIf_eq_ok] at hreg
  obtain ⟨hfits, rfl⟩ := htotalDebt
  obtain ⟨-, rfl⟩ := hdebt
  obtain ⟨hle, rfl⟩ := htotal
  injection hpair with hstate htaken
  have hmin : taken = min amount ((s.borrowers e.sender).currentDebt.toNat + accrued) := by
    rw [← htaken]
    split
    · omega
    · omega
  rw [htaken] at hpaid
  have hprincipal : principalPaid = taken - accrued := by
    unfold State.principalPart at hpaid
    split at hpaid
    · cases hpaid
      omega
    · exact (subW_eq_ok.mp hpaid).2
  -- The principal that is paid is at most the debt, so the cast keeps it.
  have hcast : (BitVec.ofNat 128 principalPaid).toNat = principalPaid := by
    have hlt := (s.borrowers e.sender).currentDebt.isLt
    rw [BitVec.toNat_ofNat]
    exact Nat.mod_eq_of_lt (by omega)
  rw [hcast] at hstate
  subst hprincipal
  exact ⟨accrued, haccrued, hreg, hfits, hmin, hle, hstate.symm⟩

/-! ### The calls of the owner -/

/-- What a call of the owner can do to the entry of a borrower. -/
inductive Administered : BorrowerInfo → BorrowerInfo → Prop
  | same (info : BorrowerInfo) : Administered info info
  | rated (info : BorrowerInfo) (status : BorrowerStatus) (creditLimit : BitVec 128) :
      info.status ≠ .none → status ≠ .none → Administered info { info with status, creditLimit }
  | registered {info new : BorrowerInfo} : info.status = .none → new.status ≠ .none →
      new.currentDebt = 0 → new.trailingRevenueSats = 0 → Administered info new

/-- An entry that owes nothing before it is registered keeps its debt. -/
theorem Administered.debt {info new : BorrowerInfo} (h : Administered info new)
    (hnone : info.status = .none → info.currentDebt = 0) : new.currentDebt = info.currentDebt := by
  cases h with
  | same => rfl
  | rated => rfl
  | registered hold _ hzero _ => rw [hzero, hnone hold]

theorem Administered.trailing {info new : BorrowerInfo} (h : Administered info new)
    (hnone : info.status = .none → info.trailingRevenueSats = 0) :
    new.trailingRevenueSats = info.trailingRevenueSats := by
  cases h with
  | same => rfl
  | rated => rfl
  | registered hold _ _ hzero => rw [hzero, hnone hold]

/-- No call takes a registration back. -/
theorem Administered.unregistered {info new : BorrowerInfo} (h : Administered info new)
    (hnew : new.status = .none) : info.status = .none := by
  cases h with
  | same => exact hnew
  | rated _ _ _ hstatus => exact absurd hnew hstatus
  | registered hold => exact hold

/-- The calls of the owner touch neither the total nor the histories. -/
structure OwnerStep (s s' : State) : Prop where
  total : s'.totalGlobalDebt = s.totalGlobalDebt
  history : s'.payoutHistory = s.payoutHistory
  borrowers : ∀ b, Administered (s.borrowers b) (s'.borrowers b)

/-- A call that writes no borrower. -/
theorem OwnerStep.set (htotal : s'.totalGlobalDebt = s.totalGlobalDebt)
    (hhistory : s'.payoutHistory = s.payoutHistory) (hborrowers : s'.borrowers = s.borrowers) :
    OwnerStep s s' where
  total := htotal
  history := hhistory
  borrowers b := by
    rw [hborrowers]
    exact .same _

/-- A call that writes one. -/
theorem OwnerStep.write {info : BorrowerInfo} (h : Administered (s.borrowers b) info) :
    OwnerStep s (s.setBorrower b info) where
  total := rfl
  history := rfl
  borrowers b' := by
    by_cases hb : b' = b
    · subst hb
      simpa [State.setBorrower] using h
    · simpa [State.setBorrower, hb] using Administered.same _

/-- A call of the owner with one more guard. -/
theorem guarded_eq_ok {s₁ : State} {c : Prop} [Decidable c] {err : Err}
    (h : (do s.onlyOwner e; revertIf c err; return s₁) = .ok s') : ¬c ∧ s' = s₁ := by
  obtain ⟨-, -, h⟩ := bind_eq_ok.mp h
  obtain ⟨_, hc, h⟩ := bind_eq_ok.mp h
  exact ⟨revertIf_eq_ok.mp hc, (pure_eq_ok.mp h).symm⟩

theorem freezeBorrower_owner (h : s.freezeBorrower e b = .ok s') : OwnerStep s s' := by
  obtain ⟨hreg, rfl⟩ := guarded_eq_ok h
  exact .write (.rated _ .frozen _ hreg (by decide))

theorem unfreezeBorrower_owner (h : s.unfreezeBorrower e b = .ok s') : OwnerStep s s' := by
  obtain ⟨hfrozen, rfl⟩ := guarded_eq_ok h
  refine .write (.rated _ .active _ ?_ (by decide))
  intro hnone
  exact hfrozen (by simp [hnone])

theorem grantTestnetCredit_owner {limit : BitVec 128}
    (h : s.grantTestnetCredit e b limit = .ok s') : OwnerStep s s' := by
  obtain ⟨hreg, rfl⟩ := guarded_eq_ok h
  exact .write (.rated _ _ limit hreg hreg)

theorem registerBorrower_owner {keyHash : Bytes32} (h : s.registerBorrower e b keyHash = .ok s') :
    OwnerStep s s' := by
  obtain ⟨-, -, h⟩ := bind_eq_ok.mp h
  obtain ⟨-, -, h⟩ := bind_eq_ok.mp h
  obtain ⟨_, hnone, h⟩ := bind_eq_ok.mp h
  rw [revertIf_eq_ok, not_not] at hnone
  have hs := pure_eq_ok.mp h
  subst hs
  exact .write (.registered hnone (by simp) rfl rfl)

/-- Every call but a payout, a loan and a repayment is a call of the owner. -/
theorem step_owner {c : Call} (hpayout : ∀ proof, c ≠ .submitPayout proof)
    (hborrow : ∀ amount, c ≠ .borrow amount) (hrepay : ∀ amount, c ≠ .repay amount)
    (h : Step s (e, c) s') : OwnerStep s s' := by
  cases c with
  | setVerifier newVerifier =>
    obtain ⟨-, rfl⟩ := guarded_eq_ok h
    exact .set rfl rfl rfl
  | setVault newVault =>
    obtain ⟨-, rfl⟩ := guarded_eq_ok h
    exact .set rfl rfl rfl
  | setRiskConfig newRiskConfig =>
    obtain ⟨-, rfl⟩ := guarded_eq_ok h
    exact .set rfl rfl rfl
  | setPoolRegistry newPoolRegistry =>
    obtain ⟨-, -, h⟩ := bind_eq_ok.mp h
    cases h
    exact .set rfl rfl rfl
  | transferOwnership newOwner =>
    obtain ⟨-, rfl⟩ := guarded_eq_ok h
    exact .set rfl rfl rfl
  | pause =>
    obtain ⟨-, rfl⟩ := guarded_eq_ok h
    exact .set rfl rfl rfl
  | unpause =>
    obtain ⟨-, rfl⟩ := guarded_eq_ok h
    exact .set rfl rfl rfl
  | freezeBorrower borrower => exact freezeBorrower_owner h
  | grantTestnetCredit borrower creditLimitAmount => exact grantTestnetCredit_owner h
  | setAutoGrantCredit amount =>
    obtain ⟨-, -, h⟩ := bind_eq_ok.mp h
    cases h
    exact .set rfl rfl rfl
  | unfreezeBorrower borrower => exact unfreezeBorrower_owner h
  | registerBorrower borrower btcPayoutKeyHash => exact registerBorrower_owner h
  | submitPayout proof => exact absurd rfl (hpayout proof)
  | borrow amount => exact absurd rfl (hborrow amount)
  | repay amount => exact absurd rfl (hrepay amount)

/-! ### The payouts -/

/-- What a payout that is not below the minimum writes: the entry and the history of its
borrower. -/
structure Recorded (e : Env) (evidence : BtcSpvVerifier.PayoutEvidence Address) (s s' : State) :
    Prop where
  total : s'.totalGlobalDebt = s.totalGlobalDebt
  status : (s'.borrowers evidence.borrower).status = .active
  debt : ∀ b, (s'.borrowers b).currentDebt = (s.borrowers b).currentDebt
  others : ∀ b, b ≠ evidence.borrower → s'.borrowers b = s.borrowers b
  histories : ∀ b, b ≠ evidence.borrower → s'.payoutHistory b = s.payoutHistory b
  pruned : ∃ added,
    addPayoutRecord (s.payoutHistory evidence.borrower) e.now
      (e.params.applyPayoutHeuristics evidence.amountSats
        ((s.borrowers evidence.borrower).payoutCount + 1)) = .ok added ∧
    pruneAndCalculateTrailingRevenue e.now added e.params.windowSeconds =
      .ok (s'.payoutHistory evidence.borrower, (s'.borrowers evidence.borrower).trailingRevenueSats)

theorem recordPayout_recorded {evidence : BtcSpvVerifier.PayoutEvidence Address}
    (hactive : (s.borrowers evidence.borrower).status = .active)
    (h : s.recordPayout e evidence = .ok s') : Recorded e evidence s s' := by
  unfold State.recordPayout at h
  obtain ⟨payoutCount, hcount, h⟩ := bind_eq_ok.mp h
  obtain ⟨totalRevenue, -, h⟩ := bind_eq_ok.mp h
  obtain ⟨added, hadded, h⟩ := bind_eq_ok.mp h
  obtain ⟨⟨history, trailing⟩, hpruned, h⟩ := bind_eq_ok.mp h
  obtain ⟨limit, -, h⟩ := bind_eq_ok.mp h
  obtain ⟨periodEnd, -, h⟩ := bind_eq_ok.mp h
  obtain ⟨-, rfl⟩ := addW_eq_ok.mp hcount
  have hs := pure_eq_ok.mp h
  subst hs
  refine ⟨rfl, ?_, ?_, ?_, ?_, added, ?_, ?_⟩
  · simpa [State.setBorrower] using hactive
  · intro b
    by_cases hb : b = evidence.borrower
    · simp [State.setBorrower, hb]
    · simp [State.setBorrower, hb]
  · intro b hb
    simp [State.setBorrower, hb]
  · intro b hb
    simp [hb]
  · simpa using hadded
  · simpa [State.setBorrower] using hpruned

/-- A payout that is below the minimum is marked, and no more. Any other is recorded. -/
theorem submitPayout_cases {proof : List UInt8} (h : s.submitPayout e proof = .ok s') :
    ∃ evidence, e.verifyPayout proof = some evidence ∧
      (s.borrowers evidence.borrower).status = .active ∧
      (State.BelowMinimum e.params evidence ∧ s'.totalGlobalDebt = s.totalGlobalDebt ∧
          s'.borrowers = s.borrowers ∧ s'.payoutHistory = s.payoutHistory ∨
        ¬State.BelowMinimum e.params evidence ∧ Recorded e evidence s s') := by
  unfold State.submitPayout at h
  obtain ⟨-, -, h⟩ := bind_eq_ok.mp h
  obtain ⟨evidence, hevidence, h⟩ := bind_eq_ok.mp h
  obtain ⟨-, -, h⟩ := bind_eq_ok.mp h
  obtain ⟨_, hactive, h⟩ := bind_eq_ok.mp h
  obtain ⟨-, -, h⟩ := bind_eq_ok.mp h
  obtain ⟨-, -, h⟩ := bind_eq_ok.mp h
  rw [revertIf_eq_ok, not_not] at hactive
  have hverified : e.verifyPayout proof = some evidence := by
    unfold State.verified at hevidence
    split at hevidence
    · rename_i found hfound
      cases hevidence
      exact hfound
    · cases hevidence
  refine ⟨evidence, hverified, hactive, ?_⟩
  unfold State.countPayout at h
  split at h
  · rename_i hbelow
    cases h
    exact .inl ⟨hbelow, rfl, rfl, rfl⟩
  · rename_i hbelow
    obtain ⟨-, -, h⟩ := bind_eq_ok.mp h
    have hrec := recordPayout_recorded (s := { s with
      processedPayouts := Function.update s.processedPayouts (evidence.txid, evidence.vout) true })
      hactive h
    exact .inr ⟨hbelow, ⟨hrec.total, hrec.status, hrec.debt, hrec.others, hrec.histories,
      hrec.pruned⟩⟩

/-! ### The books -/

/-- The debt of each borrower. -/
def State.debt (s : State) (b : Address) : Nat := (s.borrowers b).currentDebt.toNat

/-- The debts add up to the total, and who is not registered owes nothing. -/
structure Books (s : State) : Prop where
  total : s.totalGlobalDebt = ∑ b, s.debt b
  unregistered : ∀ b, (s.borrowers b).status = .none → (s.borrowers b).currentDebt = 0

theorem Books.initial (h : Initial s) : Books s := by
  obtain ⟨sender, verifier, vault, riskConfig, poolRegistry, stablecoin, h⟩ := h
  unfold State.deploy at h
  obtain ⟨-, -, h⟩ := bind_eq_ok.mp h
  obtain ⟨-, -, h⟩ := bind_eq_ok.mp h
  obtain ⟨-, -, h⟩ := bind_eq_ok.mp h
  obtain ⟨-, -, h⟩ := bind_eq_ok.mp h
  have hs := pure_eq_ok.mp h
  subst hs
  refine ⟨?_, fun _ _ => rfl⟩
  simp [State.debt, BorrowerInfo.empty]

theorem Books.owner (h : Books s) (hstep : OwnerStep s s') : Books s' := by
  have hdebt : ∀ b, (s'.borrowers b).currentDebt = (s.borrowers b).currentDebt :=
    fun b => (hstep.borrowers b).debt (h.unregistered b)
  constructor
  · rw [hstep.total, h.total]
    simp only [State.debt, hdebt]
  · intro b hb
    rw [hdebt]
    exact h.unregistered b ((hstep.borrowers b).unregistered hb)

/-- A write to one debt and the same change of the total. -/
theorem Books.write (h : Books s) {info : BorrowerInfo} {total : Nat} (hreg : info.status ≠ .none)
    (htotal : total + s.debt b = s.totalGlobalDebt + info.currentDebt.toNat) :
    Books { s.setBorrower b info with totalGlobalDebt := total } := by
  have hdebts : ∀ b', State.debt { s.setBorrower b info with totalGlobalDebt := total } b' =
      Function.update s.debt b info.currentDebt.toNat b' := by
    intro b'
    by_cases hb : b' = b
    · subst hb
      simp [State.debt, State.setBorrower]
    · simp [State.debt, State.setBorrower, hb]
  constructor
  · have hsum := Total.sum_update s.debt b info.currentDebt.toNat
    simp only [hdebts]
    rw [h.total] at htotal
    show total = _
    omega
  · intro b' hb'
    by_cases hb : b' = b
    · subst hb
      exact absurd (by simpa [State.setBorrower] using hb') hreg
    · have hold : (s.borrowers b').status = .none := by simpa [State.setBorrower, hb] using hb'
      simpa [State.setBorrower, hb] using h.unregistered b' hold

/-- A `uint128` keeps what fits it. -/
theorem ofNat_toNat {n : Nat} {a : BitVec 128} (h : n ≤ a.toNat) :
    (BitVec.ofNat 128 n).toNat = n := by
  have hlt := a.isLt
  rw [BitVec.toNat_ofNat]
  exact Nat.mod_eq_of_lt (by omega)

theorem borrow_books (hb : Books s) (h : s.borrow e amount = .ok s') : Books s' := by
  obtain ⟨accrued, -, hactive, hlimit, rfl⟩ := borrow_cases h
  apply hb.write
  · simp [hactive]
  · rw [ofNat_toNat hlimit]
    show _ + (s.borrowers e.sender).currentDebt.toNat = _
    omega

theorem repay_books {taken : Nat} (hb : Books s) (h : s.repay e amount = .ok (s', taken)) :
    Books s' := by
  obtain ⟨accrued, -, hreg, -, htaken, hle, rfl⟩ := repay_cases h
  apply hb.write
  · exact hreg
  · rw [ofNat_toNat (Nat.sub_le _ _)]
    show _ + (s.borrowers e.sender).currentDebt.toNat = _
    omega

theorem submitPayout_books {proof : List UInt8} (hb : Books s)
    (h : s.submitPayout e proof = .ok s') : Books s' := by
  obtain ⟨evidence, -, hactive, hcases⟩ := submitPayout_cases h
  rcases hcases with ⟨-, htotal, hsame, -⟩ | ⟨-, hrec⟩
  · constructor
    · rw [htotal, hb.total]
      simp only [State.debt, hsame]
    · rw [hsame]
      exact hb.unregistered
  · constructor
    · rw [hrec.total, hb.total]
      simp only [State.debt, hrec.debt]
    · intro b hnone
      rw [hrec.debt]
      apply hb.unregistered b
      by_cases hborrower : b = evidence.borrower
      · subst hborrower
        rw [hrec.status] at hnone
        cases hnone
      · rwa [hrec.others b hborrower] at hnone

theorem step_books {a : Env × Call} (hb : Books s) (h : Step s a s') : Books s' := by
  obtain ⟨e, c⟩ := a
  cases c with
  | submitPayout proof => exact submitPayout_books hb h
  | borrow amount => exact borrow_books hb h
  | repay amount =>
    obtain ⟨⟨s₁, taken⟩, hrepay, hs⟩ := map_eq_ok.mp h
    cases hs
    exact repay_books hb hrepay
  | _ => exact hb.owner (step_owner (by simp) (by simp) (by simp) h)

/-- What `getCurrentDebt` returns. -/
theorem getCurrentDebt_eq {accrued : Nat}
    (haccrued : calculateAccruedInterest e (s.borrowers b) = .ok accrued)
    (hfits : s.debt b + accrued < wordSize 256) : s.getCurrentDebt e b = .ok (s.debt b + accrued) := by
  unfold State.getCurrentDebt State.getAccruedInterest
  rw [haccrued, ok_bind, addW_eq_ok]
  exact ⟨hfits, rfl⟩

/-- The books balance in every reachable state. -/
theorem books (h : Reachable Initial Step s) : Books s :=
  h.invariant (fun _ => .initial) fun _ _ _ hb hs => step_books hb hs

/-- In every reachable state the debts add up to `totalGlobalDebt`. A repayment takes the smaller of
the amount and the debt, and it lowers the debt by what it takes exactly when the amount covers the
interest that has accrued. -/
theorem repay_conserves_iff (h : Reachable Initial Step s) :
    s.totalGlobalDebt = ∑ b, s.debt b ∧
    ∀ (e : Env) (amount : Nat) (s' : State) (taken : Nat), s.repay e amount = .ok (s', taken) →
      ∃ before accrued after, s.getCurrentDebt e e.sender = .ok before ∧
        s.getAccruedInterest e e.sender = .ok accrued ∧
        s'.getCurrentDebt e e.sender = .ok after ∧ taken = min amount before ∧
        (after = before - taken ↔ accrued ≤ amount) := by
  refine ⟨(books h).total, ?_⟩
  intro e amount s' taken hrepay
  obtain ⟨accrued, haccrued, -, hfits, htaken, -, hs⟩ := repay_cases hrepay
  have hbefore := getCurrentDebt_eq haccrued hfits
  have hdebt : s'.debt e.sender = s.debt e.sender - (taken - accrued) := by
    rw [hs]
    simpa [State.debt, State.setBorrower] using ofNat_toNat (Nat.sub_le _ _)
  have hnow : calculateAccruedInterest e (s'.borrowers e.sender) = .ok 0 := by
    apply calculateAccruedInterest_of_now
    simp [hs, State.setBorrower]
  have hafter := getCurrentDebt_eq hnow (by
    have : s.debt e.sender + accrued < wordSize 256 := hfits
    omega)
  refine ⟨_, accrued, _, hbefore, haccrued, hafter, htaken, ?_⟩
  change taken = min amount (s.debt e.sender + accrued) at htaken
  rw [hdebt]
  -- A borrower without principal has no interest either.
  have hzero : s.debt e.sender = 0 → accrued = 0 := by
    intro hprincipal
    have hcurrent : (s.borrowers e.sender).currentDebt = 0 := BitVec.eq_of_toNat_eq hprincipal
    rw [calculateAccruedInterest_of_debt hcurrent] at haccrued
    cases haccrued
    rfl
  constructor
  · intro hlowered
    by_contra hshort
    omega
  · intro hcovered
    omega

namespace Sample

/-- A call at a rate of 10% a year. -/
def env (sender : Address) (now : UInt64) : Env where
  sender
  now
  verifyPayout := fun _ => none
  params := ⟨5000, 2592000, 0, 0, 0, 5000000000000, 0, 0, 0, 0⟩
  isEligiblePayoutSource := fun _ => true
  borrowAPR := 1000
  borrowFunds := fun _ _ => true
  repayFunds := fun _ _ => true

/-- A borrower of 1,000 units of the stablecoin. -/
def loan : List (Env × Call) :=
  [(env 1 900, .registerBorrower 20 7), (env 1 900, .grantTestnetCredit 20 2000000000),
    (env 20 1000, .borrow 1000000000)]

/-- The manager after the loan. -/
def indebted : Except Err State := do
  let s ← State.deploy 1 2 3 4 0 5
  s.run loan

theorem indebted_reachable {s : State} (h : indebted = .ok s) : Reachable Initial Step s := by
  obtain ⟨s₀, h₀, hrun⟩ := bind_eq_ok.mp h
  exact ⟨s₀, loan, ⟨1, 2, 3, 4, 0, 5, h₀⟩, State.run_steps hrun⟩

/-- A year after the loan. -/
def later : Env := env 20 31537000

end Sample

/-- The payment of 200 units covers the interest of 100 and lowers the debt by 200. -/
theorem repay_conserves_iff_sample : ∃ s s', Reachable Initial Step s ∧
    s.repay Sample.later 200000000 = .ok (s', 200000000) ∧
    s.getCurrentDebt Sample.later 20 = .ok 1100000000 ∧
    s'.getCurrentDebt Sample.later 20 = .ok 900000000 := by
  have hview : (do
      let s ← Sample.indebted
      let (s', taken) ← s.repay Sample.later 200000000
      let before ← s.getCurrentDebt Sample.later 20
      let accrued ← s.getAccruedInterest Sample.later 20
      pure (taken, before, accrued)).toOption = some (200000000, 1100000000, 100000000) := by
    decide +kernel
  obtain ⟨s, hs, hview⟩ := bind_eq_ok.mp (toOption_eq_some.mp hview)
  obtain ⟨⟨s', taken⟩, hrepay, hview⟩ := bind_eq_ok.mp hview
  obtain ⟨before, hbefore, hview⟩ := bind_eq_ok.mp hview
  obtain ⟨accrued, haccrued, hview⟩ := bind_eq_ok.mp hview
  have hvalues := pure_eq_ok.mp hview
  simp only [Prod.mk.injEq] at hvalues
  obtain ⟨rfl, rfl, rfl⟩ := hvalues
  have hreach := Sample.indebted_reachable hs
  obtain ⟨-, hrule⟩ := repay_conserves_iff hreach
  obtain ⟨before, accrued, after, hbefore', haccrued', hafter, -, hiff⟩ := hrule _ _ _ _ hrepay
  have heq : before = 1100000000 := Except.ok.inj (hbefore'.symm.trans hbefore)
  have heq' : accrued = 100000000 := Except.ok.inj (haccrued'.symm.trans haccrued)
  have hlowered := hiff.mpr (by omega)
  subst heq hlowered
  exact ⟨s, s', hreach, hrepay, hbefore, hafter⟩

/-- The payment of one millionth of a unit erases the interest of 100 units. -/
theorem small_repayment_erases_interest :
    ¬∀ s, Reachable Initial Step s → ∀ (e : Env) (amount : Nat) (s' : State) (taken : Nat),
      s.repay e amount = .ok (s', taken) → ∀ before, s.getCurrentDebt e e.sender = .ok before →
        s'.getCurrentDebt e e.sender = .ok (before - min amount before) := by
  intro hclaim
  have hview : (do
      let s ← Sample.indebted
      let (s', taken) ← s.repay Sample.later 1
      let before ← s.getCurrentDebt Sample.later 20
      let after ← s'.getCurrentDebt Sample.later 20
      pure (taken, before, after)).toOption = some (1, 1100000000, 1000000000) := by
    decide +kernel
  obtain ⟨s, hs, hview⟩ := bind_eq_ok.mp (toOption_eq_some.mp hview)
  obtain ⟨⟨s', taken⟩, hrepay, hview⟩ := bind_eq_ok.mp hview
  obtain ⟨before, hbefore, hview⟩ := bind_eq_ok.mp hview
  obtain ⟨after, hafter, hview⟩ := bind_eq_ok.mp hview
  have hvalues := pure_eq_ok.mp hview
  simp only [Prod.mk.injEq] at hvalues
  obtain ⟨rfl, rfl, rfl⟩ := hvalues
  have hlowered := hclaim s (Sample.indebted_reachable hs) _ _ _ _ hrepay _ hbefore
  have heq := Except.ok.inj (hafter.symm.trans hlowered)
  omega

end Rackline.HashCreditManager
