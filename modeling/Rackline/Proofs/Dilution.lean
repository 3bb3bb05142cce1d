import Rackline.Proofs.Nav
import Rackline.Proofs.Queue
import Rackline.Lib.SharePrice

/-!
# `Rackline.Proofs.Dilution`: share operations do not lower the share price

`exactNav` is the NAV as a plain natural, and `Sound` is what makes the two agree. Against it a
deposit, a withdrawal and a queue fill each move value and shares by the rounded price, so the
price of a share with its virtual offsets does not fall.

`ShareRun` is a sequence of share operations at one timestamp. Value only enters and leaves it
through the amounts paid, so LPs that leave at least as many shares outstanding as they found
take out at most what they put in. A single LP among several is not covered: another LP's
rounding loss can be its gain.
-/

set_option autoImplicit false

namespace Rackline

open Evm Transition SharePrice

namespace Pool

variable {p p' : Pool} {m : Msg} {now : Nat}

/-- The NAV as a natural: cash and performing debt, less liabilities and allowances. -/
def exactNav (p : Pool) (t : Nat) : Nat :=
  p.cashBalance + p.performingDebt t - (p.vault.liabilities + p.vault.totalImpairment)

/-- The cash and the loss bookkeeping are in order at `now`. -/
structure Sound (now : Nat) (p : Pool) : Prop where
  solvent : Solvent p
  losses : Losses now p

theorem Sound.exactNav_add (h : Sound now p) :
    p.exactNav now + (p.vault.liabilities + p.vault.totalImpairment) =
      p.cashBalance + p.performingDebt now := by
  have hcov := h.solvent.covered.trans h.solvent.present
  have himp := h.losses.totalImpairment_le (Nat.le_refl now)
  unfold exactNav
  omega

theorem Sound.nav_eq_exactNav (h : Sound now p) {n : Nat} (hn : p.nav now = .ok n) :
    n = p.exactNav now := by
  have hsum := h.solvent.nav_ok h.losses (Nat.le_refl now) hn
  have hexact := h.exactNav_add
  omega

/-- A call that leaves the debts and the allowances alone moves the NAV by the cash and against
the liabilities. -/
theorem Sound.exactNav_shift (h : Sound now p) (h' : Sound now p') (cash liabilities : Nat)
    (hcash : p'.cashBalance = cash) (hliab : p'.vault.liabilities = liabilities)
    (hperf : p'.performingDebt now = p.performingDebt now)
    (himp : p'.vault.totalImpairment = p.vault.totalImpairment) :
    p'.exactNav now + liabilities + p.cashBalance =
      p.exactNav now + p.vault.liabilities + cash := by
  have hbefore := h.exactNav_add
  have hafter := h'.exactNav_add
  omega

theorem Sound.exec (h : Sound m.now p) {c : VaultCall} (hc : c.exec m p = .ok p') :
    Sound m.now p' :=
  ⟨VaultCall.exec_solvent h.solvent hc, VaultCall.exec_losses h.losses hc⟩

/-- The price of a share did not fall between two pools at `now`. -/
def PriceKept (now : Nat) (p p' : Pool) : Prop :=
  PriceLe virtualAssets virtualShares (p.exactNav now) p.vault.totalShares
    (p'.exactNav now) p'.vault.totalShares

/-- A move of value `i` in and `o` out at a price that does not fall. -/
structure Moved (now : Nat) (p p' : Pool) (i o : Nat) : Prop where
  sound : Sound now p'
  value : p'.exactNav now + o = p.exactNav now + i
  price : PriceKept now p p'

/-- Value in and value out of consecutive moves add up. -/
theorem Moved.trans {p'' : Pool} {i o i' o' : Nat} (h : Moved now p p' i o)
    (h' : Moved now p' p'' i' o') : Moved now p p'' (i + i') (o + o') := by
  refine ⟨h'.sound, ?_, h.price.trans (by decide) h'.price⟩
  have h₁ := h.value
  have h₂ := h'.value
  omega

/-- A call that moves neither value nor shares. -/
theorem Moved.of_eq (hs : Sound now p') (hv : p'.exactNav now = p.exactNav now)
    (hshares : p'.vault.totalShares = p.vault.totalShares) : Moved now p p' 0 0 := by
  refine ⟨hs, by omega, ?_⟩
  unfold PriceKept
  rw [hv, hshares]
  exact PriceLe.refl _ _ _ _

/-- A deposit brings its assets in and mints at most what they are worth. -/
theorem Sound.deposit (h : Sound m.now p) {assets minShares shares : Nat}
    (hd : p.deposit m assets minShares = .ok (shares, p')) : Moved m.now p p' assets 0 := by
  have hs' : Sound m.now p' :=
    h.exec (c := .deposit assets minShares) (map_eq_ok.mpr ⟨_, hd, rfl⟩)
  obtain ⟨-, -, -, hconv, token, harr, rfl⟩ := deposit_ok hd
  obtain ⟨n, hn, hshares⟩ := convertToShares_ok hconv
  obtain rfl := h.nav_eq_exactNav hn
  have hvalue : (p.afterDeposit m.sender shares token).exactNav m.now =
      p.exactNav m.now + assets := by
    have hshift := h.exactNav_shift hs' (token.balanceOf p.vault.self) p.vault.liabilities
      rfl rfl rfl rfl
    have hcash := harr.self
    omega
  refine ⟨hs', by omega, ?_⟩
  unfold PriceKept
  rw [hvalue]
  refine priceLe_mint assets shares ?_
  rw [hshares]
  exact Nat.div_mul_le_self _ _

/-- The price rule of a redemption: `assets` is the rounded value of `shares`. -/
theorem Sound.redeem (h : Sound now p) (hs' : Sound now p') {shares assets : Nat}
    (hprice : p.convertToAssets now shares = .ok assets)
    (hvalue : p'.exactNav now + assets = p.exactNav now)
    (hshares : p'.vault.totalShares + shares = p.vault.totalShares) :
    Moved now p p' 0 assets := by
  obtain ⟨n, hn, hassets⟩ := convertToAssets_ok hprice
  obtain rfl := h.nav_eq_exactNav hn
  refine ⟨hs', by omega, priceLe_redeem assets shares ?_ hvalue hshares⟩
  rw [hassets]
  exact Nat.div_mul_le_self _ _

theorem Sound.withdraw (h : Sound m.now p) {shares minAssets assets : Nat}
    (hw : p.withdraw m shares minAssets = .ok (assets, p')) : Moved m.now p p' 0 assets := by
  have hs' : Sound m.now p' :=
    h.exec (c := .withdraw shares minAssets) (map_eq_ok.mpr ⟨_, hw, rfl⟩)
  obtain ⟨-, -, -, -, hconv, -, -, hle, token, hpaid, rfl⟩ := withdraw_ok hw
  refine h.redeem hs' hconv ?_ (Nat.sub_add_cancel hle)
  have hshift := h.exactNav_shift hs' (token.balanceOf p.vault.self) p.vault.liabilities
    rfl rfl rfl rfl
  have hcash := hpaid.self
  omega

/-! ### The queue -/

/-- Sound, with the donation absorbed: what the queue loop keeps. -/
structure LoopSound (now : Nat) (p : Pool) : Prop where
  absorbed : Absorbed p
  losses : Losses now p

theorem LoopSound.sound (h : LoopSound now p) : Sound now p := ⟨h.absorbed.1, h.losses⟩

theorem Sound.absorb (h : Sound now p) : LoopSound now p.absorbDonation := by
  have hcov := h.solvent.covered
  have hpres := h.solvent.present
  rw [absorbDonation_eq, Nat.max_eq_right hpres]
  exact ⟨⟨h.solvent.withTracked (hcov.trans hpres) (Nat.le_refl _), rfl⟩,
    h.losses.keep rfl rfl rfl rfl⟩

theorem LoopSound.skip (h : LoopSound now p) (hstep : HeadStep now p (.skip p')) :
    LoopSound now p' ∧ Moved now p p' 0 0 := by
  have hl : LoopSound now p' := ⟨h.absorbed.keep_skip hstep, h.losses.skip hstep⟩
  refine ⟨hl, Moved.of_eq hl.sound ?_ ?_⟩
  · cases hstep with
    | passed => rfl
    | expired => rfl
  · cases hstep with
    | passed => rfl
    | expired => rfl

/-- A fill sets its assets aside for the owner and burns at least what they are worth. -/
theorem LoopSound.filled (h : LoopSound now p) {id shares assets : Nat} {whole : Bool}
    (hstep : HeadStep now p (.filled id shares assets p' whole)) :
    LoopSound now p' ∧ Moved now p p' 0 assets := by
  have hl : LoopSound now p' := ⟨h.absorbed.keep_filled hstep, h.losses.filled hstep⟩
  refine ⟨hl, ?_⟩
  -- Whole or in part, the fill adds `assets` to the liabilities and burns `shares`.
  have hview : HeadFill now p shares assets ∧ p'.cashBalance = p.cashBalance ∧
      p'.performingDebt now = p.performingDebt now ∧
      p'.vault.liabilities = p.vault.liabilities + assets ∧
      p'.vault.totalImpairment = p.vault.totalImpairment ∧
      p'.vault.totalShares = p.vault.totalShares - shares := by
    have hliab : ∀ a b c d : Nat, a + (b + d) + c = a + b + c + d := by omega
    cases hstep with
    | whole hfill _ => exact ⟨hfill, rfl, rfl, hliab _ _ _ _, rfl, rfl⟩
    | part hfill => exact ⟨hfill, rfl, rfl, hliab _ _ _ _, rfl, rfl⟩
  obtain ⟨hfill, hcash, hperf, hliab, himp, hshares⟩ := hview
  have hle := hfill.le_totalShares
  refine h.sound.redeem hl.sound hfill.price ?_ (by omega)
  have hshift := h.sound.exactNav_shift hl.sound _ _ hcash hliab hperf himp
  omega

theorem Sound.processWithdrawals (h : Sound m.now p) {maxRequests filled reserved : Nat}
    (hp : p.processWithdrawals m maxRequests = .ok (filled, reserved, p')) :
    Moved m.now p p' 0 reserved := by
  obtain ⟨-, hloop⟩ := processWithdrawals_ok hp
  rw [← absorbDonation_eq] at hloop
  have hstart : LoopSound m.now p.absorbDonation := h.absorb
  have hmoved : Moved m.now p p.absorbDonation 0 0 := by
    refine Moved.of_eq hstart.sound ?_ ?_
    · rw [absorbDonation_eq]
      rfl
    · rw [absorbDonation_eq]
      rfl
  refine (processLoop_invariant
    (P := fun n q => LoopSound m.now q ∧ Moved m.now p q 0 n) ?_ ?_ hloop ⟨hstart, hmoved⟩).2
  · rintro n q q' ⟨hq, hmv⟩ _ hstep
    obtain ⟨hq', hmv'⟩ := hq.skip hstep
    exact ⟨hq', hmv.trans hmv'⟩
  · rintro n q q' id shares assets whole ⟨hq, hmv⟩ _ hstep
    obtain ⟨hq', hmv'⟩ := hq.filled hstep
    exact ⟨hq', hmv.trans hmv'⟩

/-- Queueing, cancelling and claiming move neither value nor shares. -/
theorem Sound.requestWithdrawal (h : Sound m.now p) {shares minAssets id : Nat}
    (hr : p.requestWithdrawal m shares minAssets = .ok (id, p')) : Moved m.now p p' 0 0 := by
  have hs' : Sound m.now p' :=
    h.exec (c := .requestWithdrawal shares minAssets) (map_eq_ok.mpr ⟨_, hr, rfl⟩)
  obtain ⟨-, -, -, -, rfl⟩ := requestWithdrawal_ok hr
  exact Moved.of_eq hs' rfl rfl

theorem Sound.cancelWithdrawal (h : Sound m.now p) {id : Nat}
    (hc : p.cancelWithdrawal m id = .ok p') : Moved m.now p p' 0 0 := by
  have hs' : Sound m.now p' := h.exec (c := .cancelWithdrawal id) hc
  obtain ⟨-, rfl⟩ := cancelWithdrawal_ok hc
  exact Moved.of_eq hs' rfl rfl

theorem Sound.claimWithdrawal (h : Sound m.now p) {id assets : Nat}
    (hc : p.claimWithdrawal m id = .ok (assets, p')) : Moved m.now p p' 0 0 := by
  have hs' : Sound m.now p' :=
    h.exec (c := .claimWithdrawal id) (map_eq_ok.mpr ⟨_, hc, rfl⟩)
  obtain ⟨-, hle, token, hpaid, rfl⟩ := claimWithdrawal_ok hc
  refine Moved.of_eq hs' ?_ rfl
  -- The cash and the reserve fall together.
  have hshift := h.exactNav_shift hs' (token.balanceOf p.vault.self)
    (p.vault.totalBorrowerOwned + (p.vault.totalWithdrawalReserved - assets) +
      p.vault.totalRecoveryReserved) rfl rfl rfl rfl
  have hcash := hpaid.self
  have hliab : p.vault.liabilities = p.vault.totalBorrowerOwned +
    p.vault.totalWithdrawalReserved + p.vault.totalRecoveryReserved := rfl
  omega

end Pool

/-- A sequence of share operations at the time `now`: `i` is paid in by the deposits, `o` is
paid out by the withdrawals and set aside by the fills. -/
inductive ShareRun (now : Nat) : Pool → Nat → Nat → Pool → Prop
  | nil (p : Pool) : ShareRun now p 0 0 p
  | deposit {m : Msg} {p q r : Pool} {assets minShares shares i o : Nat} : m.now = now →
      p.deposit m assets minShares = .ok (shares, q) → ShareRun now q i o r →
      ShareRun now p (assets + i) o r
  | withdraw {m : Msg} {p q r : Pool} {shares minAssets assets i o : Nat} : m.now = now →
      p.withdraw m shares minAssets = .ok (assets, q) → ShareRun now q i o r →
      ShareRun now p i (assets + o) r
  | processWithdrawals {m : Msg} {p q r : Pool} {maxRequests filled reserved i o : Nat} :
      m.now = now → p.processWithdrawals m maxRequests = .ok (filled, reserved, q) →
      ShareRun now q i o r → ShareRun now p i (reserved + o) r
  | requestWithdrawal {m : Msg} {p q r : Pool} {shares minAssets id i o : Nat} : m.now = now →
      p.requestWithdrawal m shares minAssets = .ok (id, q) → ShareRun now q i o r →
      ShareRun now p i o r
  | cancelWithdrawal {m : Msg} {p q r : Pool} {id i o : Nat} : m.now = now →
      p.cancelWithdrawal m id = .ok q → ShareRun now q i o r → ShareRun now p i o r
  | claimWithdrawal {m : Msg} {p q r : Pool} {id assets i o : Nat} : m.now = now →
      p.claimWithdrawal m id = .ok (assets, q) → ShareRun now q i o r → ShareRun now p i o r

/-- A sequence of share operations moves the value paid in and out, at a price that does not
fall. -/
theorem ShareRun.moved {now i o : Nat} {p r : Pool} (h : ShareRun now p i o r)
    (hs : p.Sound now) : Pool.Moved now p r i o := by
  induction h with
  | nil p => exact Pool.Moved.of_eq hs rfl rfl
  | deposit hnow hcall _ ih =>
    subst hnow
    have hstep := hs.deposit hcall
    simpa using hstep.trans (ih hstep.sound)
  | withdraw hnow hcall _ ih =>
    subst hnow
    have hstep := hs.withdraw hcall
    simpa using hstep.trans (ih hstep.sound)
  | processWithdrawals hnow hcall _ ih =>
    subst hnow
    have hstep := hs.processWithdrawals hcall
    simpa using hstep.trans (ih hstep.sound)
  | requestWithdrawal hnow hcall _ ih =>
    subst hnow
    have hstep := hs.requestWithdrawal hcall
    simpa using hstep.trans (ih hstep.sound)
  | cancelWithdrawal hnow hcall _ ih =>
    subst hnow
    have hstep := hs.cancelWithdrawal hcall
    simpa using hstep.trans (ih hstep.sound)
  | claimWithdrawal hnow hcall _ ih =>
    subst hnow
    have hstep := hs.claimWithdrawal hcall
    simpa using hstep.trans (ih hstep.sound)

/-- The pool of a coupled run is sound from the time of its last call on. -/
theorem CoupledReachable.sound {s : PoolState} (h : CoupledReachable s) {now : Nat}
    (ht : s.now ≤ now) : s.pool.Sound now :=
  ⟨h.reachable.solvent, h.losses.later ht⟩

/-- The price inequality, read at the returned NAVs. -/
theorem Pool.Moved.price_le {now i o n n' : Nat} {p p' : Pool} (h : p.Moved now p' i o)
    (hs : p.Sound now) (hn : p.nav now = .ok n) (hn' : p'.nav now = .ok n') :
    (n + 1) * (p'.vault.totalShares + 1000) ≤ (n' + 1) * (p.vault.totalShares + 1000) := by
  rw [hs.nav_eq_exactNav hn, h.sound.nav_eq_exactNav hn']
  exact h.price

/-- No share operation dilutes the remaining holders. With `n` and `n'` the NAV before and
after, the price with its virtual offsets does not fall in a deposit, in a withdrawal and in
each single fill of the queue loop; nor does it fall over a whole sequence of share operations
at one timestamp, and LPs that leave at least as many shares outstanding as they found take out
at most what they paid in. -/
theorem share_price_never_falls {s : PoolState} (h : CoupledReachable s) {now : Nat}
    (ht : s.now ≤ now) :
    (∀ m assets minShares shares p' n n', m.now = now →
      s.pool.deposit m assets minShares = .ok (shares, p') →
      s.pool.nav now = .ok n → p'.nav now = .ok n' →
      (n' + 1) * (s.pool.vault.totalShares + 1000) ≥ (n + 1) * (p'.vault.totalShares + 1000)) ∧
    (∀ m shares minAssets assets p' n n', m.now = now →
      s.pool.withdraw m shares minAssets = .ok (assets, p') →
      s.pool.nav now = .ok n → p'.nav now = .ok n' →
      (n' + 1) * (s.pool.vault.totalShares + 1000) ≥ (n + 1) * (p'.vault.totalShares + 1000)) ∧
    (∀ k q q' id shares assets whole n n', LoopState now s.pool.absorbDonation k q →
      q.processHead now = .ok (.filled id shares assets q' whole) →
      q.nav now = .ok n → q'.nav now = .ok n' →
      (n' + 1) * (q.vault.totalShares + 1000) ≥ (n + 1) * (q'.vault.totalShares + 1000)) ∧
    ∀ i o p' n n', ShareRun now s.pool i o p' → s.pool.nav now = .ok n → p'.nav now = .ok n' →
      n' + o = n + i ∧
      (n' + 1) * (s.pool.vault.totalShares + 1000) ≥ (n + 1) * (p'.vault.totalShares + 1000) ∧
      (s.pool.vault.totalShares ≤ p'.vault.totalShares → o ≤ i) := by
  have hs := h.sound ht
  refine ⟨?_, ?_, ?_, ?_⟩
  · rintro m assets minShares shares p' n n' rfl hd hn hn'
    exact (hs.deposit hd).price_le hs hn hn'
  · rintro m shares minAssets assets p' n n' rfl hw hn hn'
    exact (hs.withdraw hw).price_le hs hn hn'
  · intro k q q' id shares assets whole n n' hloop hhead hn hn'
    have hq : q.LoopSound now := hloop.invariant (fun _ _ hq _ hstep => (hq.skip hstep).1)
      (fun _ _ _ _ _ _ hq _ hstep => (hq.filled hstep).1) hs.absorb
    exact (hq.filled (Pool.processHead_ok hhead)).2.price_le hq.sound hn hn'
  · intro i o p' n n' hrun hn hn'
    have hmoved := hrun.moved hs
    have hvalue := hmoved.value
    rw [hs.nav_eq_exactNav hn, hmoved.sound.nav_eq_exactNav hn']
    refine ⟨hvalue, hmoved.price, fun hshares => ?_⟩
    have hle := value_le_of_priceLe (by decide) hmoved.price hshares
    omega

/-- A pool of 1999999 with 1000 shares, made by a deposit of 1 and a gift. -/
def Sample.giftCalls : List (Msg × PoolCall) :=
  [(msg 7 10, .vault (.deposit 1 0)), (msg 7 10, .token (.transfer 1 1999998))]

/-- What 8 gets for a deposit and the redemption of its shares, between two values of the pool. -/
def Sample.depositAndRedeem (p : Pool) : Except Revert (Nat × Nat × Nat × Nat) := do
  let n ← p.nav 10
  let d ← p.deposit (msg 8 10) 2000000 0
  let w ← d.2.withdraw (msg 8 10) 2000 0
  let n' ← w.2.nav 10
  return (n, d.1, w.1, n')

/-- In that pool a deposit and its withdrawal at one timestamp keep the price and pay out at
most what was paid in. -/
theorem share_price_never_falls_sample :
    ∃ s p₁ p₂, CoupledReachable s ∧ s.pool.nav 10 = .ok 1999999 ∧
      s.pool.deposit (Sample.msg 8 10) 2000000 0 = .ok (2000, p₁) ∧
      p₁.withdraw (Sample.msg 8 10) 2000 0 = .ok (2000000, p₂) ∧ p₂.nav 10 = .ok 1999999 ∧
      (1999999 + 1) * (s.pool.vault.totalShares + 1000) ≥
        (1999999 + 1) * (p₂.vault.totalShares + 1000) := by
  obtain ⟨s, hrun, hview⟩ := Sample.deployment.run_view Sample.giftCalls
    (fun s => (s.now, (Sample.depositAndRedeem s.pool).toOption))
    (v := (10, some (1999999, 2000, 2000000, 1999999))) (by decide +kernel)
  simp only [Prod.mk.injEq] at hview
  obtain ⟨hnow, hview⟩ := hview
  obtain ⟨n, hn, hview⟩ := bind_eq_ok.mp (toOption_eq_some.mp hview)
  obtain ⟨⟨a, p₁⟩, hd, hview⟩ := bind_eq_ok.mp hview
  obtain ⟨⟨b, p₂⟩, hw, hview⟩ := bind_eq_ok.mp hview
  obtain ⟨n', hn', hview⟩ := bind_eq_ok.mp hview
  have hvalues := pure_eq_ok.mp hview
  simp only [Prod.mk.injEq] at hvalues
  obtain ⟨rfl, rfl, rfl, rfl⟩ := hvalues
  have hreach := PoolState.run_coupledReachable hrun Sample.deployment_initial (by decide +kernel)
  obtain ⟨-, -, -, hseq⟩ := share_price_never_falls hreach hnow.le
  have hcalls : ShareRun 10 s.pool (2000000 + 0) (2000000 + 0) p₂ :=
    .deposit rfl hd (.withdraw rfl hw (.nil p₂))
  exact ⟨s, p₁, p₂, hreach, hn, hd, hw, hn', (hseq _ _ _ _ _ hcalls hn hn').2.1⟩

/-- What 8 and 9 get for their deposits, and 8 for the redemption of its shares. -/
def Sample.roundingGift (p : Pool) : Except Revert (Nat × Nat × Nat) := do
  let d ← p.deposit (msg 8 10) 2000000 0
  let d' ← d.2.deposit (msg 9 10) 1999 0
  let w ← d'.2.withdraw (msg 8 10) 2000 0
  return (d.1, d'.1, w.1)

/-- One LP among two can gain at one timestamp, with no loan, repayment, loss or donation in
between: 8 pays in 2000000 for 2000 shares, 9 pays 1999 for one share and loses its fraction,
and 8 redeems its 2000 shares for 2000499. -/
theorem share_rounding_pays_another_lp :
    ∃ s p₁ p₂ p₃, CoupledReachable s ∧ s.now = 10 ∧ s.pool.balanceOf 8 = 0 ∧
      s.pool.deposit (Sample.msg 8 10) 2000000 0 = .ok (2000, p₁) ∧
      p₁.deposit (Sample.msg 9 10) 1999 0 = .ok (1, p₂) ∧
      p₂.withdraw (Sample.msg 8 10) 2000 0 = .ok (2000499, p₃) ∧
      ¬ 2000499 ≤ 2000000 := by
  obtain ⟨s, hrun, hview⟩ := Sample.deployment.run_view Sample.giftCalls
    (fun s => (s.now, s.pool.balanceOf 8, (Sample.roundingGift s.pool).toOption))
    (v := (10, 0, some (2000, 1, 2000499))) (by decide +kernel)
  simp only [Prod.mk.injEq] at hview
  obtain ⟨hnow, hnone, hview⟩ := hview
  obtain ⟨⟨a, p₁⟩, hd, hview⟩ := bind_eq_ok.mp (toOption_eq_some.mp hview)
  obtain ⟨⟨b, p₂⟩, hd', hview⟩ := bind_eq_ok.mp hview
  obtain ⟨⟨c, p₃⟩, hw, hview⟩ := bind_eq_ok.mp hview
  have hvalues := pure_eq_ok.mp hview
  simp only [Prod.mk.injEq] at hvalues
  obtain ⟨rfl, rfl, rfl⟩ := hvalues
  have hreach := PoolState.run_coupledReachable hrun Sample.deployment_initial (by decide +kernel)
  exact ⟨s, p₁, p₂, p₃, hreach, hnow, hnone, hd, hd', hw, by decide⟩

end Rackline
