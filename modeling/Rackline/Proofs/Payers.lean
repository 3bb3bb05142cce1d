import Rackline.Proofs.SourceOps

/-!
# `Rackline.Proofs.Payers`: borrower wallets and payers

`setPayer` refuses the wallet of a borrower and `registerAccount` refuses a payer, so that the two
should never meet. Both ask one boolean a wallet, `_isBorrowerWallet`. A wallet may serve several
accounts; when one of them is registered anew the boolean is cleared, although the others still
have the wallet. From then on the wallet can become a payer.

`wallets_stay_separated` says that this, and the registration of the zero address, are the only ways out:
a run keeps `Separated` in each of its states if and only if each of its registrations `KeepsWallets`.
-/

set_option autoImplicit false

namespace Rackline

open Evm Transition

/-- An account is a key with a wallet. `_isBorrowerWallet` is true of the wallets of accounts and of
nothing else, and none of them is a payer. -/
structure SourceEscrow.Separated (e : SourceEscrow) : Prop where
  payer : ∀ k, e.borrowerWallet k ≠ 0 → e.payers (e.borrowerWallet k) = false
  exact_ : ∀ w, e.isBorrowerWallet w = true ↔ w ≠ 0 ∧ ∃ k, e.borrowerWallet k = w

/-- A registration names a wallet, and takes away none that another account has. -/
def SourceCall.KeepsWallets (e : SourceEscrow) : SourceCall → Prop
  | .registerAccount k wallet =>
    wallet ≠ 0 ∧ (e.borrowerWallet k = wallet ∨ e.borrowerWallet k = 0 ∨
      ∀ k', k' ≠ k → e.borrowerWallet k' ≠ e.borrowerWallet k)
  | _ => True

namespace SourceEscrow

variable {m : SourceMsg} {e e' : SourceEscrow}

/-- A call that is neither `setPayer` nor `registerAccount` writes none of the three mappings. -/
theorem call_wallets {c : SourceCall} {events : List SourceEvent}
    (h : e.call m c = .ok (events, e')) (hpayer : ∀ account enabled, c ≠ .setPayer account enabled)
    (hregister : ∀ k wallet, c ≠ .registerAccount k wallet) :
    e'.payers = e.payers ∧ e'.borrowerWallet = e.borrowerWallet ∧
      e'.isBorrowerWallet = e.isBorrowerWallet := by
  cases c with
  | setPayer account enabled => exact absurd rfl (hpayer account enabled)
  | registerAccount k wallet => exact absurd rfl (hregister k wallet)
  | transferOwnership newOwner =>
    obtain ⟨e₁, hok, heq⟩ := map_eq_ok.mp h
    simp only [transferOwnership, bind_eq_ok, pure_eq_ok] at hok
    obtain ⟨_, -, rfl⟩ := hok
    cases heq
    exact ⟨rfl, rfl, rfl⟩
  | setIssuer account enabled =>
    obtain ⟨e₁, hok, heq⟩ := map_eq_ok.mp h
    simp only [setIssuer, bind_eq_ok, pure_eq_ok] at hok
    obtain ⟨_, -, rfl⟩ := hok
    cases heq
    exact ⟨rfl, rfl, rfl⟩
  | setController account enabled =>
    obtain ⟨e₁, hok, heq⟩ := map_eq_ok.mp h
    simp only [setController, bind_eq_ok, pure_eq_ok] at hok
    obtain ⟨_, -, rfl⟩ := hok
    cases heq
    exact ⟨rfl, rfl, rfl⟩
  | admitToken token decimals nonstandardAllowed =>
    obtain ⟨e₁, hok, heq⟩ := map_eq_ok.mp h
    simp only [admitToken, bind_eq_ok, pure_eq_ok] at hok
    obtain ⟨_, -, rfl⟩ := hok
    cases heq
    exact ⟨rfl, rfl, rfl⟩
  | recognizeObligation a ref payer token amount dueAt =>
    simp only [call, recognizeObligation, bind_eq_ok, bumpAccountRevision_eq_ok, pure_eq_ok,
      Prod.mk.injEq] at h
    obtain ⟨_, -, _, -, _, -, _, -, _, -, _, -, _, -, _, -, _, ⟨-, rfl⟩, -, rfl⟩ := h
    exact ⟨rfl, rfl, rfl⟩
  | assignObligation a ref facilityKey =>
    simp only [call, assignObligation, bind_eq_ok, bumpAccountRevision_eq_ok, pure_eq_ok,
      Prod.mk.injEq] at h
    obtain ⟨_, -, _, -, _, -, _, -, _, -, _, ⟨-, rfl⟩, -, rfl⟩ := h
    exact ⟨rfl, rfl, rfl⟩
  | correctObligation a ref delta reason =>
    simp only [call, correctObligation, bind_eq_ok, bumpAccountRevision_eq_ok, pure_eq_ok,
      Prod.mk.injEq] at h
    obtain ⟨_, -, _, -, _, -, _, -, _, -, _, -, _, -, _, -, _, -, _, -, _, ⟨-, rfl⟩, -, rfl⟩ := h
    exact ⟨rfl, rfl, rfl⟩
  | publishCheckpoint a =>
    simp only [call, publishCheckpoint, bind_eq_ok, pure_eq_ok, Prod.mk.injEq] at h
    obtain ⟨_, -, _, -, _, -, -, rfl⟩ := h
    exact ⟨rfl, rfl, rfl⟩
  | reserveCheckpoint a until_ =>
    simp only [call, reserveCheckpoint, bind_eq_ok, pure_eq_ok, Prod.mk.injEq] at h
    obtain ⟨_, -, _, -, _, -, _, -, _, -, -, rfl⟩ := h
    exact ⟨rfl, rfl, rfl⟩
  | settle a ref token amount settlementId pulled =>
    obtain ⟨measured, e₁, -, -, -, -, -, hsettle, -, rfl⟩ := settle_ok h
    obtain ⟨-, rfl⟩ | ⟨-, -, o', -, rfl⟩ := settleObligation_ok hsettle
    · exact ⟨rfl, rfl, rfl⟩
    · exact ⟨rfl, rfl, rfl⟩
  | cancelPayout seq pushed =>
    simp only [call, cancelPayout, bind_eq_ok, pure_eq_ok, Prod.mk.injEq] at h
    obtain ⟨_, -, _, -, _, -, _, -, e₁, hun, _, -, _, -, _, -, -, rfl⟩ := h
    obtain ⟨-, rfl⟩ | ⟨-, -, o', -, rfl⟩ := unsettleObligation_ok hun
    · exact ⟨rfl, rfl, rfl⟩
    · exact ⟨rfl, rfl, rfl⟩
  | depositUnattributed token amount pulled =>
    obtain ⟨e₁, hok, heq⟩ := map_eq_ok.mp h
    cases pulled with
    | none =>
      simp only [depositUnattributed, bind_eq_ok] at hok
      obtain ⟨_, -, _, -, hok⟩ := hok
      cases hok
    | some measured =>
      simp only [depositUnattributed, recordUnattributed, bind_eq_ok, pure_eq_ok] at hok
      obtain ⟨_, -, _, -, _, -, _, -, _, -, _, -, rfl⟩ := hok
      cases heq
      exact ⟨rfl, rfl, rfl⟩
  | recordDirectDeposit token balance =>
    obtain ⟨e₁, hok, heq⟩ := map_eq_ok.mp h
    simp only [recordDirectDeposit, recordUnattributed, bind_eq_ok, pure_eq_ok] at hok
    obtain ⟨_, -, _, -, _, -, _, -, _, -, rfl⟩ := hok
    cases heq
    exact ⟨rfl, rfl, rfl⟩
  | withdraw token amount pushed =>
    obtain ⟨e₁, hok, heq⟩ := map_eq_ok.mp h
    simp only [withdraw, bind_eq_ok, pure_eq_ok] at hok
    obtain ⟨_, -, _, -, _, -, _, -, rfl⟩ := hok
    cases heq
    exact ⟨rfl, rfl, rfl⟩

theorem setPayer_ok {account : Address} {enabled : Bool}
    (h : e.setPayer m account enabled = .ok e') :
    ¬(enabled = true ∧ e.isBorrowerWallet account = true) ∧
      e' = { e with payers := Function.update e.payers account enabled } := by
  simp only [setPayer, bind_eq_ok, pure_eq_ok, revertIf_eq_ok, exists_const] at h
  obtain ⟨_, -, hwallet, rfl⟩ := h
  exact ⟨hwallet, rfl⟩

theorem registerAccount_ok {k : AccountKey} {wallet : Address}
    (h : e.registerAccount m k wallet = .ok e') :
    e.payers wallet = false ∧ e'.payers = e.payers ∧
      e'.borrowerWallet = Function.update e.borrowerWallet k wallet ∧
      ∀ w, e'.isBorrowerWallet w = true ↔
        w = wallet ∨ e.isBorrowerWallet w = true ∧
          ¬(w = e.borrowerWallet k ∧ e.borrowerWallet k ≠ 0) := by
  simp only [registerAccount, bind_eq_ok, pure_eq_ok, revertIf_eq_ok, exists_const] at h
  obtain ⟨_, -, hpayer, rfl⟩ := h
  refine ⟨by simpa using hpayer, rfl, rfl, fun w => ?_⟩
  show (Function.update _ wallet true : Address → Bool) w = true ↔ _
  by_cases hw : w = wallet
  · simp [hw]
  · rw [Function.update_of_ne hw]
    split
    · rename_i hprevious
      by_cases hold : w = e.borrowerWallet k
      · subst hold
        simp [hprevious, hw]
      · simp [hold, hw]
    · rename_i hprevious
      simp [hw, Classical.not_not.mp hprevious]

/-- After a registration the boolean is exact only if the registration keeps the wallets. -/
theorem Separated.keeps {k : AccountKey} {wallet : Address} (h' : e'.Separated)
    (hcall : e.registerAccount m k wallet = .ok e') :
    (SourceCall.registerAccount k wallet).KeepsWallets e := by
  obtain ⟨-, -, hwallet, hflag⟩ := registerAccount_ok hcall
  have hnew : e'.isBorrowerWallet wallet = true := (hflag wallet).mpr (.inl rfl)
  refine ⟨((h'.exact_ wallet).mp hnew).1, ?_⟩
  by_cases hsame : e.borrowerWallet k = wallet
  · exact .inl hsame
  by_cases hzero : e.borrowerWallet k = 0
  · exact .inr (.inl hzero)
  refine .inr (.inr fun k' hk' hshared => ?_)
  -- The other account keeps its wallet, so the flag should have stayed.
  have hstill : e'.isBorrowerWallet (e.borrowerWallet k) = true := by
    rw [h'.exact_]
    exact ⟨hzero, k', by rw [hwallet, Function.update_of_ne hk', hshared]⟩
  obtain hw | ⟨-, hcleared⟩ := (hflag _).mp hstill
  · exact hsame hw
  · exact hcleared ⟨rfl, hzero⟩

/-- A registration that keeps the wallets keeps the boolean exact. -/
theorem Separated.registerAccount {k : AccountKey} {wallet : Address} (h : e.Separated)
    (hcall : e.registerAccount m k wallet = .ok e')
    (hkeeps : (SourceCall.registerAccount k wallet).KeepsWallets e) : e'.Separated := by
  obtain ⟨hnot, hpayers, hwallet, hflag⟩ := registerAccount_ok hcall
  obtain ⟨hne, hshared⟩ := hkeeps
  constructor
  · intro k' hk'
    rw [hpayers]
    by_cases hk : k' = k
    · subst hk
      rw [hwallet, Function.update_self]
      exact hnot
    · rw [hwallet, Function.update_of_ne hk] at hk' ⊢
      exact h.payer k' hk'
  · intro w
    rw [hflag, h.exact_, hwallet]
    constructor
    · rintro (rfl | ⟨⟨hw, k', hk'⟩, hkept⟩)
      · exact ⟨hne, k, Function.update_self ..⟩
      · refine ⟨hw, k', ?_⟩
        have hk : k' ≠ k := by
          rintro rfl
          exact hkept ⟨hk'.symm, by rwa [hk']⟩
        rw [Function.update_of_ne hk, hk']
    · rintro ⟨hw, k', hk'⟩
      by_cases hk : k' = k
      · subst hk
        rw [Function.update_self] at hk'
        exact .inl hk'.symm
      · rw [Function.update_of_ne hk] at hk'
        by_cases heq : w = wallet
        · exact .inl heq
        refine .inr ⟨⟨hw, k', hk'⟩, ?_⟩
        rintro ⟨hold, hzero⟩
        obtain hsame | hz | hother := hshared
        · exact heq (hold.trans hsame)
        · exact hzero hz
        · exact hother k' hk (hk'.trans hold)

end SourceEscrow

open SourceEscrow

/-- A step from a separated state leads to a separated state exactly when it keeps the wallets. -/
theorem SourceStep.separated_iff {e e' : SourceEscrow} {tx : SourceTx} (h : SourceStep e tx e')
    (hsep : e.Separated) : e'.Separated ↔ tx.2.KeepsWallets e := by
  obtain ⟨m, c⟩ := tx
  obtain ⟨events, hcall⟩ := h
  cases c with
  | registerAccount k wallet =>
    obtain ⟨e₁, hok, heq⟩ := map_eq_ok.mp hcall
    cases heq
    exact ⟨fun h' => h'.keeps hok, hsep.registerAccount hok⟩
  | setPayer account enabled =>
    obtain ⟨e₁, hok, heq⟩ := map_eq_ok.mp hcall
    cases heq
    obtain ⟨hfree, rfl⟩ := setPayer_ok hok
    refine iff_of_true ⟨fun k hk => ?_, hsep.exact_⟩ trivial
    show Function.update e.payers account enabled (e.borrowerWallet k) = false
    by_cases hw : e.borrowerWallet k = account
    · have hflag : e.isBorrowerWallet account = true := (hsep.exact_ account).mpr ⟨hw ▸ hk, k, hw⟩
      rw [hw, Function.update_self]
      simpa [hflag] using hfree
    · rw [Function.update_of_ne hw]
      exact hsep.payer k hk
  | _ =>
    obtain ⟨hpayers, hwallet, hflag⟩ := call_wallets hcall (by simp) (by simp)
    refine iff_of_true ⟨fun k => ?_, fun w => ?_⟩ trivial
    · rw [hwallet, hpayers]
      exact hsep.payer k
    · rw [hwallet, hflag]
      exact hsep.exact_ w

theorem SourceEscrow.initial_separated (self owner : Address) :
    (SourceEscrow.initial self owner).Separated := by
  refine ⟨fun k hk => absurd rfl hk, fun w => ?_⟩
  constructor
  · intro h
    cases h
  · rintro ⟨hw, k, hk⟩
    exact absurd hk.symm hw

/-- A run of the escrow keeps borrower wallets and payers apart, in every state it comes through, if
and only if each of its registrations names a wallet and takes away none that another account has. -/
theorem wallets_stay_separated (self owner : Address) (txs : List SourceTx) (e : SourceEscrow)
    (hrun : Steps SourceStep (.initial self owner) txs e) :
    (∀ pre post s, txs = pre ++ post → Steps SourceStep (.initial self owner) pre s →
      s.Separated) ↔
    ∀ s tx s', StepOf SourceStep (.initial self owner) txs s tx s' → tx.2.KeepsWallets s := by
  clear hrun
  exact Steps.stays_iff (I := fun _ => True) trivial (fun _ _ _ _ _ => trivial)
    (initial_separated self owner) fun _ _ _ _ hsep hstep => hstep.separated_iff hsep

/-! ### Runs -/

namespace Sample

/-- A call by the owner of the sample escrow, which is at address 100. -/
def sourceTx (now : Nat) (call : SourceCall) : SourceTx := (⟨1, now⟩, call)

/-- The sample escrow before any call. -/
def sourceEscrow : SourceEscrow := .initial 100 1

/-- Two accounts share the wallet 7. One gets a wallet of its own, and 7 becomes a payer. -/
def sharedWallet : List SourceTx :=
  [sourceTx 1 (.registerAccount 1 7), sourceTx 1 (.registerAccount 2 7),
    sourceTx 2 (.registerAccount 1 8), sourceTx 3 (.setPayer 7 true)]

end Sample

/-- A wallet that two accounts shared becomes a payer while it is the wallet of one of them. -/
theorem shared_wallet_becomes_payer :
    ∃ e, SourceReachable e ∧ e.borrowerWallet 2 = 7 ∧ e.payers 7 = true ∧
      e.isBorrowerWallet 7 = false := by
  obtain ⟨e, hrun, hview⟩ := Sample.sourceEscrow.run_view Sample.sharedWallet
    (fun e => (e.borrowerWallet 2, e.payers 7, e.isBorrowerWallet 7))
    (v := (7, true, false)) (by decide +kernel)
  simp only [Prod.mk.injEq] at hview
  exact ⟨e, ⟨_, _, ⟨100, 1, rfl⟩, run_steps hrun⟩, hview.1, hview.2.1, hview.2.2⟩

theorem wallets_stay_separated_sample :
    ∃ e : SourceEscrow, e.borrowerWallet 2 = 7 ∧ e.payers 9 = true ∧
      ((∀ pre post s, Sample.sharedWallet.take 2 ++ [Sample.sourceTx 3 (.setPayer 9 true)] =
          pre ++ post → Steps SourceStep (.initial 100 1) pre s → s.Separated) ↔
        ∀ s tx s', StepOf SourceStep (.initial 100 1)
          (Sample.sharedWallet.take 2 ++ [Sample.sourceTx 3 (.setPayer 9 true)]) s tx s' →
          tx.2.KeepsWallets s) := by
  obtain ⟨e, hrun, hview⟩ := Sample.sourceEscrow.run_view
    (Sample.sharedWallet.take 2 ++ [Sample.sourceTx 3 (.setPayer 9 true)])
    (fun e => (e.borrowerWallet 2, e.payers 9)) (v := (7, true)) (by decide +kernel)
  simp only [Prod.mk.injEq] at hview
  exact ⟨e, hview.1, hview.2, wallets_stay_separated 100 1 _ e (run_steps hrun)⟩

end Rackline
