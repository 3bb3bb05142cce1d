import Rackline.CreditRun
import Rackline.Proofs.Dilution
import Mathlib.Logic.Relation

/-!
# `Rackline.Proofs.PoolActions`: what the protocol does to the pool

The contracts around the vault move the pool in few ways. `PoolAction` lists them: a call of
the vault, the ledger or the token that is complete in itself, a draw (the record on the ledger
and the payment by the vault, together) and a repayment (the arrival of the cash, the
allocation and the report, together). `Trace` is a sequence of actions at one time.

Every action is made of coupled pool calls, so the invariants of the pool hold in every state
of the protocol. The wiring of a finalized pool is kept by every action.
-/

set_option autoImplicit false

namespace Rackline

open Evm Transition Relation

/-- The vault calls that are complete in themselves: not the payment of a draw and not the
report of a cash arrival. -/
def VaultCall.Plain : VaultCall → Prop
  | lend .. | onRepayment .. | recordRecovery .. => False
  | _ => True

/-- The vault calls that the contracts around the vault make on their own. -/
def VaultCall.Service : VaultCall → Prop
  | refundExcess .. | recognizeImpairment .. | reverseImpairment .. | writeOff .. => True
  | _ => False

theorem VaultCall.Service.plain {c : VaultCall} (h : c.Service) : c.Plain := by
  cases c with
  | lend | onRepayment | recordRecovery => exact h
  | _ => trivial

/-- The ledger calls that are complete in themselves: not an allocation. -/
def LedgerCall.Plain : LedgerCall → Prop
  | allocate .. => False
  | _ => True

/-- The token after `m.sender` moved `got` into the vault. -/
def Pool.Deposited (m : Msg) (p : Pool) (got : Nat) (token : Token Address) : Prop :=
  (∃ c : TokenCall, c.exec m p.token = .ok token) ∧
    token.balanceOf p.vault.self = p.cashBalance + got

/-- One action of the protocol on the pool at the time `now`, with the vault calls `V` that come
from outside. -/
inductive PoolAction (d : Deployment) (now : Nat) (V : Set VaultCall) : Pool → Pool → Prop
  | vault {p p' : Pool} (m : Msg) (c : VaultCall) : m.now = now → m.sender ≠ d.vault → c.Plain →
      (c.Service ∨ c ∈ V) → c.exec m p = .ok p' → PoolAction d now V p p'
  | ledger {p : Pool} (m : Msg) (c : LedgerCall) {l : Ledger} : m.now = now →
      m.sender ≠ d.vault → c.Plain → c.exec m p.ledger = .ok l →
      PoolAction d now V p { p with ledger := l }
  | token {p : Pool} (m : Msg) (c : TokenCall) {t : Token Address} : m.now = now →
      m.sender ≠ d.vault → c.exec m p.token = .ok t → PoolAction d now V p { p with token := t }
  | draw {p p' : Pool} (m : Msg) {id : FacilityId} {wallet : Address} {amount : Nat}
      {l : Ledger} : m.now = now →
      p.ledger.recordDraw (m.calledBy d.exposure) id amount = .ok l →
      Pool.lend (m.calledBy d.manager) id wallet amount { p with ledger := l } = .ok p' →
      PoolAction d now V p p'
  | repayment {p p' : Pool} (m : Msg) {t : Token Address} {id : FacilityId}
      {got requested : Nat} {r : RepayResult} : m.now = now → m.sender ≠ d.vault →
      p.Deposited m got t →
      Pool.repay m id got requested { p with token := t } = .ok (r, p') →
      PoolAction d now V p p'

/-- A sequence of actions at one time. -/
def Trace (d : Deployment) (now : Nat) (V : Set VaultCall) : Pool → Pool → Prop :=
  ReflTransGen (PoolAction d now V)

theorem Trace.refl {d : Deployment} {now : Nat} {V : Set VaultCall} (p : Pool) :
    Trace d now V p p := ReflTransGen.refl

theorem Trace.single {d : Deployment} {now : Nat} {V : Set VaultCall} {p p' : Pool}
    (h : PoolAction d now V p p') : Trace d now V p p' := ReflTransGen.single h

/-- What every action keeps, a trace keeps. -/
theorem Trace.invariant {d : Deployment} {now : Nat} {V : Set VaultCall} {P : Pool → Prop}
    (hact : ∀ p p', P p → PoolAction d now V p p' → P p') {p p' : Pool}
    (h : Trace d now V p p') (hp : P p) : P p' := by
  induction h with
  | refl => exact hp
  | tail _ hlast ih => exact hact _ _ ih hlast

/-! ### Wiring -/

/-- The pool is wired as the deploy script wires it, and finalized. -/
structure Pool.Wired (d : Deployment) (p : Pool) : Prop where
  self : p.vault.self = d.vault
  managers : p.vault.isManager = d.lendingVault.isManager
  recovery : p.vault.recoveryManager = d.recovery
  finalized : p.vault.wiringFinalized = true
  writers : p.ledger.isWriter = d.ledger.isWriter
  ledgerFinalized : p.ledger.wiringFinalized = true

namespace Pool

variable {d : Deployment} {p p' : Pool} {m : Msg}

/-- Bookkeeping that touches no wiring field keeps the wiring. -/
theorem Wired.keep (h : p.Wired d) {v : Vault} {token : Token Address}
    (hself : v.self = p.vault.self) (hman : v.isManager = p.vault.isManager)
    (hrec : v.recoveryManager = p.vault.recoveryManager)
    (hfin : v.wiringFinalized = p.vault.wiringFinalized) :
    Wired d { p with token := token, vault := v } :=
  ⟨hself.trans h.self, hman.trans h.managers, hrec.trans h.recovery, hfin.trans h.finalized,
    h.writers, h.ledgerFinalized⟩

theorem Wired.skip {now : Nat} (h : p.Wired d) (hstep : HeadStep now p (.skip p')) :
    p'.Wired d := by
  cases hstep with
  | passed => exact h.keep rfl rfl rfl rfl
  | expired => exact h.keep rfl rfl rfl rfl

theorem Wired.filled {now id shares assets : Nat} {whole : Bool} (h : p.Wired d)
    (hstep : HeadStep now p (.filled id shares assets p' whole)) : p'.Wired d := by
  cases hstep with
  | whole => exact h.keep rfl rfl rfl rfl
  | part => exact h.keep rfl rfl rfl rfl

/-- A finalized vault takes no wiring call. -/
theorem setManager_finalized (hf : p.vault.wiringFinalized = true) {manager : Address}
    {enabled : Bool} (h : p.setManager m manager enabled = .ok p') : False := by
  unfold setManager at h
  obtain ⟨_, -, h⟩ := bind_eq_ok.mp h
  obtain ⟨_, hnot, -⟩ := bind_eq_ok.mp h
  exact revertIf_eq_ok.mp hnot hf

theorem finalizeWiring_finalized (hf : p.vault.wiringFinalized = true)
    (h : p.finalizeWiring m = .ok p') : False := by
  unfold finalizeWiring at h
  obtain ⟨_, -, h⟩ := bind_eq_ok.mp h
  obtain ⟨_, hnot, -⟩ := bind_eq_ok.mp h
  exact revertIf_eq_ok.mp hnot hf

theorem bindRecoveryManager_finalized (hf : p.vault.wiringFinalized = true) {manager : Address}
    (h : p.bindRecoveryManager m manager = .ok p') : False := by
  unfold bindRecoveryManager at h
  obtain ⟨_, -, h⟩ := bind_eq_ok.mp h
  obtain ⟨_, hnot, -⟩ := bind_eq_ok.mp h
  exact revertIf_eq_ok.mp hnot (Or.inl hf)

end Pool

open Pool in
/-- Every vault call keeps the wiring of a finalized pool. -/
theorem VaultCall.exec_wired {d : Deployment} {m : Msg} {p p' : Pool} {c : VaultCall}
    (hw : p.Wired d) (h : c.exec m p = .ok p') : p'.Wired d := by
  cases c with
  | setManager manager enabled => exact (setManager_finalized hw.finalized h).elim
  | finalizeWiring => exact (finalizeWiring_finalized hw.finalized h).elim
  | bindRecoveryManager manager => exact (bindRecoveryManager_finalized hw.finalized h).elim
  | setDepositsPaused paused =>
    simp only [exec, Pool.setDepositsPaused] at h
    obtain ⟨_, -, h⟩ := bind_eq_ok.mp h
    obtain rfl := pure_eq_ok.mp h
    exact hw.keep rfl rfl rfl rfl
  | deposit assets minShares =>
    obtain ⟨⟨shares, q⟩, hc, rfl⟩ := map_eq_ok.mp h
    obtain ⟨-, -, -, -, token, -, rfl⟩ := deposit_ok hc
    exact hw.keep rfl rfl rfl rfl
  | withdraw shares minAssets =>
    obtain ⟨⟨assets, q⟩, hc, rfl⟩ := map_eq_ok.mp h
    obtain ⟨-, -, -, -, -, -, -, -, token, -, rfl⟩ := withdraw_ok hc
    exact hw.keep rfl rfl rfl rfl
  | requestWithdrawal shares minAssets =>
    obtain ⟨⟨id, q⟩, hc, rfl⟩ := map_eq_ok.mp h
    obtain ⟨-, -, -, -, rfl⟩ := requestWithdrawal_ok hc
    exact hw.keep rfl rfl rfl rfl
  | cancelWithdrawal id =>
    obtain ⟨-, rfl⟩ := cancelWithdrawal_ok h
    exact hw.keep rfl rfl rfl rfl
  | processWithdrawals maxRequests =>
    obtain ⟨⟨filled, reserved, q⟩, hc, rfl⟩ := map_eq_ok.mp h
    obtain ⟨-, hloop⟩ := processWithdrawals_ok hc
    exact processLoop_invariant (P := fun _ => Wired d) (fun _ _ _ hq _ hstep => hq.skip hstep)
      (fun _ _ _ _ _ _ _ hq _ hstep => hq.filled hstep) hloop (hw.keep rfl rfl rfl rfl)
  | claimWithdrawal id =>
    obtain ⟨⟨assets, q⟩, hc, rfl⟩ := map_eq_ok.mp h
    obtain ⟨-, -, token, -, rfl⟩ := claimWithdrawal_ok hc
    exact hw.keep rfl rfl rfl rfl
  | rollLossEpoch =>
    obtain ⟨-, residual, -, -, rfl⟩ := rollLossEpoch_ok h
    exact hw.keep rfl rfl rfl rfl
  | claimEpochRecovery epoch =>
    obtain ⟨⟨assets, q⟩, hc, rfl⟩ := map_eq_ok.mp h
    obtain ⟨-, -, -, token, -, rfl⟩ := claimEpochRecovery_ok hc
    exact hw.keep rfl rfl rfl rfl
  | lend id dst amount =>
    obtain ⟨-, -, -, token, -, rfl⟩ := lend_ok h
    exact hw.keep rfl rfl rfl rfl
  | onRepayment id result =>
    obtain ⟨-, -, -, -, -, rfl⟩ := onRepayment_ok h
    exact hw.keep rfl rfl rfl rfl
  | refundExcess id dst amount =>
    obtain ⟨-, -, token, -, rfl⟩ := refundExcess_ok h
    exact hw.keep rfl rfl rfl rfl
  | recordRecovery id amount =>
    obtain ⟨-, -, -, rfl⟩ := recordRecovery_ok h
    exact hw.keep rfl rfl rfl rfl
  | recognizeImpairment id amount =>
    obtain ⟨-, -, rfl⟩ := recognizeImpairment_ok h
    exact hw.keep rfl rfl rfl rfl
  | reverseImpairment id amount =>
    obtain ⟨-, -, rfl⟩ := reverseImpairment_ok h
    exact hw.keep rfl rfl rfl rfl
  | writeOff id =>
    obtain ⟨-, -, -, lost, -, rfl⟩ := writeOff_ok h
    exact hw.keep rfl rfl rfl rfl
  | approve spender amount =>
    cases h
    exact hw.keep rfl rfl rfl rfl
  | transfer dst amount =>
    obtain ⟨-, rfl⟩ := transferShares_ok h
    exact hw.keep rfl rfl rfl rfl
  | transferFrom src dst amount =>
    obtain ⟨-, allowances, rfl⟩ := transferFrom_ok h
    exact hw.keep rfl rfl rfl rfl

/-- An operation on one facility keeps the writers. -/
theorem Ledger.modifyFacility_writers {m : Msg} {l l' : Ledger} {id : FacilityId}
    {body : Facility → Except Revert Facility} (h : l.modifyFacility m id body = .ok l') :
    l'.isWriter = l.isWriter ∧ l'.wiringFinalized = l.wiringFinalized := by
  obtain ⟨-, f, -, rfl⟩ := modifyFacility_ok h
  exact ⟨rfl, rfl⟩

/-- Every ledger call keeps the writers of a finalized ledger. -/
theorem LedgerCall.exec_writers {m : Msg} {l l' : Ledger} {c : LedgerCall}
    (hf : l.wiringFinalized = true) (h : c.exec m l = .ok l') :
    l'.isWriter = l.isWriter ∧ l'.wiringFinalized = l.wiringFinalized := by
  cases c with
  | setWriter writer enabled =>
    simp only [exec, Ledger.setWriter] at h
    obtain ⟨_, -, h⟩ := bind_eq_ok.mp h
    obtain ⟨_, hnot, -⟩ := bind_eq_ok.mp h
    exact (revertIf_eq_ok.mp hnot hf).elim
  | finalizeWiring =>
    simp only [exec, Ledger.finalizeWiring] at h
    obtain ⟨_, -, h⟩ := bind_eq_ok.mp h
    obtain ⟨_, hnot, -⟩ := bind_eq_ok.mp h
    exact (revertIf_eq_ok.mp hnot hf).elim
  | openFacility id terms =>
    simp only [exec, Ledger.openFacility] at h
    obtain ⟨_, -, h⟩ := bind_eq_ok.mp h
    obtain ⟨_, -, h⟩ := bind_eq_ok.mp h
    obtain ⟨_, -, h⟩ := bind_eq_ok.mp h
    obtain ⟨_, -, h⟩ := bind_eq_ok.mp h
    obtain ⟨_, -, h⟩ := bind_eq_ok.mp h
    obtain rfl := pure_eq_ok.mp h
    exact ⟨rfl, rfl⟩
  | setState id state =>
    simp only [exec, Ledger.setState] at h
    exact Ledger.modifyFacility_writers h
  | accrue id =>
    simp only [exec, Ledger.accrue] at h
    exact Ledger.modifyFacility_writers h
  | setRate id rateBps =>
    simp only [exec, Ledger.setRate] at h
    exact Ledger.modifyFacility_writers h
  | recordDraw id amount =>
    simp only [exec, Ledger.recordDraw] at h
    exact Ledger.modifyFacility_writers h
  | recordFee id amount =>
    simp only [exec, Ledger.recordFee] at h
    exact Ledger.modifyFacility_writers h
  | freezeAccrual id =>
    simp only [exec, Ledger.freezeAccrual] at h
    exact Ledger.modifyFacility_writers h
  | capitalize id =>
    simp only [exec, Ledger.capitalize] at h
    exact Ledger.modifyFacility_writers h
  | allocate id received =>
    obtain ⟨⟨r, q⟩, hc, rfl⟩ := map_eq_ok.mp h
    unfold Ledger.allocate at hc
    obtain ⟨_, -, hc⟩ := bind_eq_ok.mp hc
    obtain ⟨_, -, hc⟩ := bind_eq_ok.mp hc
    obtain ⟨⟨r', f⟩, -, hc⟩ := bind_eq_ok.mp hc
    have hres := pure_eq_ok.mp hc
    simp only [Prod.mk.injEq] at hres
    obtain ⟨-, rfl⟩ := hres
    exact ⟨rfl, rfl⟩

theorem Pool.Wired.withLedger {d : Deployment} {m : Msg} {p : Pool} {l : Ledger}
    {c : LedgerCall} (hw : p.Wired d) (h : c.exec m p.ledger = .ok l) :
    Pool.Wired d { p with ledger := l } := by
  obtain ⟨hwr, hfin⟩ := LedgerCall.exec_writers hw.ledgerFinalized h
  exact ⟨hw.self, hw.managers, hw.recovery, hw.finalized, hwr.trans hw.writers,
    hfin.trans hw.ledgerFinalized⟩

/-- Every action keeps the wiring. -/
theorem PoolAction.wired {d : Deployment} {now : Nat} {V : Set VaultCall} {p p' : Pool}
    (hw : p.Wired d) (h : PoolAction d now V p p') : p'.Wired d := by
  cases h with
  | vault m c _ _ _ _ hexec => exact VaultCall.exec_wired hw hexec
  | ledger m c _ _ _ hexec => exact hw.withLedger hexec
  | token m c _ _ _ => exact hw.keep rfl rfl rfl rfl
  | @draw _ m id wallet amount l _ hdraw hlend =>
    have hw' := hw.withLedger (m := m.calledBy d.exposure) (c := .recordDraw id amount) hdraw
    exact VaultCall.exec_wired (c := .lend id wallet amount) hw' hlend
  | @repayment _ m t id got requested r _ _ _ hrepay =>
    obtain ⟨split, ledger, halloc, rfl, hon⟩ := Pool.repay_ok hrepay
    have ht : Pool.Wired d { p with token := t } := hw.keep rfl rfl rfl rfl
    have hw' := ht.withLedger (m := m) (c := .allocate id got) (l := ledger)
      (map_eq_ok.mpr ⟨_, halloc, rfl⟩)
    exact VaultCall.exec_wired (c := .onRepayment id _) hw' hon

/-! ### Actions are coupled pool calls -/

/-- A pool that some coupled run reaches not later than `now`. -/
def CoupledBy (now : Nat) (p : Pool) : Prop := ∃ t, t ≤ now ∧ CoupledReachable ⟨t, p⟩

/-- One more coupled call. -/
theorem CoupledBy.call {now : Nat} {p p' : Pool} (h : CoupledBy now p) (m : Msg) (c : PoolCall)
    (hnow : m.now = now) (hself : m.sender ≠ p.vault.self) (hc : c.Coupled)
    (hexec : p.exec m c = .ok p') : CoupledBy now p' := by
  obtain ⟨t, ht, hreach⟩ := h
  refine ⟨m.now, hnow.le, hreach.step (a := (m, c)) ⟨hc, ?_, hself, hexec, rfl⟩⟩
  exact ht.trans hnow.ge

theorem CoupledBy.sound {now : Nat} {p : Pool} (h : CoupledBy now p) : Pool.Sound now p := by
  obtain ⟨t, ht, hreach⟩ := h
  exact ⟨hreach.reachable.solvent, hreach.losses.later ht⟩

theorem CoupledBy.later {now t : Nat} {p : Pool} (h : CoupledBy now p) (ht : now ≤ t) :
    CoupledBy t p := by
  obtain ⟨t₀, ht₀, hreach⟩ := h
  exact ⟨t₀, ht₀.trans ht, hreach⟩

theorem Deployment.manager_ne (d : Deployment) : d.manager ≠ d.vault := by
  have := d.nodup
  simp only [List.nodup_cons, List.mem_cons, not_or] at this
  exact fun h => this.1.2.1 h.symm

theorem Deployment.exposure_ne (d : Deployment) : d.exposure ≠ d.vault := by
  have := d.nodup
  simp only [List.nodup_cons, List.mem_cons, not_or] at this
  exact fun h => this.1.1 h.symm

theorem Deployment.router_ne (d : Deployment) : d.router ≠ d.vault := by
  have := d.nodup
  simp only [List.nodup_cons, List.mem_cons, not_or] at this
  exact fun h => this.1.2.2.1 h.symm

theorem Deployment.recovery_ne (d : Deployment) : d.recovery ≠ d.vault := by
  have := d.nodup
  simp only [List.nodup_cons, List.mem_cons, not_or] at this
  exact fun h => this.1.2.2.2.1 h.symm

theorem Deployment.router_ne_recovery (d : Deployment) : d.router ≠ d.recovery := by
  have := d.nodup
  simp only [List.nodup_cons, List.mem_cons, not_or] at this
  exact this.2.2.2.1.1

theorem LedgerCall.Plain.coupled {c : LedgerCall} (h : c.Plain) : (PoolCall.ledger c).Coupled := by
  cases c with
  | allocate => exact h.elim
  | _ => trivial

/-- Every action is a sequence of coupled calls. -/
theorem PoolAction.coupled {d : Deployment} {now : Nat} {V : Set VaultCall} {p p' : Pool}
    (hw : p.Wired d) (hp : CoupledBy now p) (h : PoolAction d now V p p') : CoupledBy now p' := by
  cases h with
  | vault m c hnow hs _ _ hexec => exact hp.call m (.vault c) hnow (hw.self ▸ hs) trivial hexec
  | ledger m c hnow hs hc hexec =>
    exact hp.call m (.ledger c) hnow (hw.self ▸ hs) hc.coupled (map_eq_ok.mpr ⟨_, hexec, rfl⟩)
  | token m c hnow hs hexec =>
    exact hp.call m (.token c) hnow (hw.self ▸ hs) trivial (map_eq_ok.mpr ⟨_, hexec, rfl⟩)
  | @draw _ m id wallet amount l hnow hdraw hlend =>
    have h₁ := hp.call (m.calledBy d.exposure) (.ledger (.recordDraw id amount)) hnow
      (hw.self ▸ d.exposure_ne) trivial (map_eq_ok.mpr ⟨l, hdraw, rfl⟩)
    exact h₁.call (m.calledBy d.manager) (.vault (.lend id wallet amount)) hnow
      (hw.self ▸ d.manager_ne) trivial hlend
  | @repayment _ m t id got requested r hnow hs harr hrepay =>
    obtain ⟨⟨c, hc⟩, -⟩ := harr
    have h₁ := hp.call m (.token c) hnow (hw.self ▸ hs) trivial (map_eq_ok.mpr ⟨t, hc, rfl⟩)
    exact h₁.call m (.repay id got requested) hnow (hw.self ▸ hs) trivial
      (map_eq_ok.mpr ⟨(r, p'), hrepay, rfl⟩)

end Rackline
