import Rackline.AuthorizationVerifier
import Rackline.Proofs.Authorization

/-!
# `Rackline.Proofs.AssertionUse`: a nonce and the effect it is spent on

A call of the account registry or the manager consumes a nonce together with its effect. The verifier
itself consumes one for any caller that brings the assertion, and then nothing else happens. So a nonce
is spent with its effect exactly when it is not consumed by a call of the verifier itself
(`assertion_spent`). No nonce is consumed twice either way.
-/

set_option autoImplicit false

namespace Rackline

open Evm Transition

/-! ### The check -/

section
variable {cfg : AssertionConfig} {env : AssertionEnv} {m : Msg} {v v' : AuthorizationVerifier}
  {a : Assertion} {purpose : AssertionPurpose} {subject : Bytes32}

theorem AuthorizationVerifier.check_ok {u : Unit} (h : v.check cfg env m a purpose subject = .ok u) :
    a.purpose = purpose ∧ a.subject = subject ∧ v.used a.signer a.purpose a.nonce = false := by
  unfold check at h
  obtain ⟨_, hpurpose, h⟩ := bind_eq_ok.mp h
  obtain ⟨_, hsubject, h⟩ := bind_eq_ok.mp h
  obtain ⟨_, -, h⟩ := bind_eq_ok.mp h
  obtain ⟨_, -, h⟩ := bind_eq_ok.mp h
  obtain ⟨_, hused, -⟩ := bind_eq_ok.mp h
  exact ⟨Classical.not_not.mp (revertIf_eq_ok.mp hpurpose),
    Classical.not_not.mp (revertIf_eq_ok.mp hsubject), by simpa using revertIf_eq_ok.mp hused⟩

theorem AuthorizationVerifier.isValid_ok (h : v.isValid cfg env m a purpose subject = true) :
    a.purpose = purpose ∧ a.subject = subject ∧ v.used a.signer a.purpose a.nonce = false := by
  unfold isValid at h
  obtain ⟨u, hu⟩ := Option.isSome_iff_exists.mp h
  exact check_ok (toOption_eq_some.mp hu)

theorem AuthorizationVerifier.verifyAndConsume_ok
    (h : v.verifyAndConsume cfg env m a purpose subject = .ok v') :
    (a.purpose = purpose ∧ a.subject = subject ∧ v.used a.signer a.purpose a.nonce = false) ∧
      v' = v.consume a := by
  obtain ⟨_, hcheck, h⟩ := bind_eq_ok.mp h
  exact ⟨check_ok hcheck, (pure_eq_ok.mp h).symm⟩

/-- The nonces that are used after one was consumed. -/
theorem AuthorizationVerifier.used_consume {signer : Address} {purpose : AssertionPurpose}
    {nonce : Nat} : (v.consume a).used signer purpose nonce = true ↔
      (signer, purpose, nonce) = (a.signer, a.purpose, a.nonce) ∨ v.used signer purpose nonce = true := by
  show (if _ then true else _) = true ↔ _
  split
  · rename_i hsame
    simp [hsame.1, hsame.2.1, hsame.2.2]
  · rename_i hother
    simp [Prod.mk.injEq, hother]

end

/-! ### The effects -/

/-- The wallet that signed is linked to the borrower it signed for, and no other wallet changes. -/
structure LinksWallet (cfg : AssertionConfig) (borrowerId : Bytes32) (a : Assertion)
    (s s' : AssertionState) : Prop where
  signed : a.subject = cfg.walletLinkSubject borrowerId a.signer
  fresh : s.accounts.walletOwner a.signer = 0
  owner : s'.accounts.walletOwner a.signer = borrowerId
  linked : s'.accounts.isWallet borrowerId a.signer = true
  others : ∀ w, w ≠ a.signer → s'.accounts.walletOwner w = s.accounts.walletOwner w ∧
    ∀ b, s'.accounts.isWallet b w = s.accounts.isWallet b w
  credit : s'.credit = s.credit

/-- The authorization that the underwriter signed is anchored under its name, and nothing else
changes. -/
structure AnchorsAuthorization (d : Deployment) (auth : CreditAuthorization) (a : Assertion)
    (s s' : AssertionState) : Prop where
  signed : a.subject = d.authorizationSubject auth
  anchored : ∃ anchor : Anchor, anchor.auth = auth ∧ anchor.signer = a.signer ∧
    anchor.signerEpoch = a.keyEpoch ∧
    s'.credit = { s.credit with manager := { s.credit.manager with
      anchors := Function.update s.credit.manager.anchors auth.facilityId anchor } }
  accounts : s'.accounts = s.accounts

/-- The transaction spent the nonce on a link or on an anchor. -/
inductive SpentWithEffect (cfg : AssertionConfig) (d : Deployment) (s : AssertionState)
    (tx : AssertionTx) (s' : AssertionState) : Address → AssertionPurpose → Nat → Prop
  | linked {borrowerId : Bytes32} {a : Assertion} :
      tx.call = .linkWallet borrowerId a → a.purpose = .walletLink →
      LinksWallet cfg borrowerId a s s' → SpentWithEffect cfg d s tx s' a.signer .walletLink a.nonce
  | anchored {auth : CreditAuthorization} {a : Assertion} :
      tx.call = .anchorAuthorization auth a → a.purpose = .creditApproval →
      AnchorsAuthorization d auth a s s' →
      SpentWithEffect cfg d s tx s' a.signer .creditApproval a.nonce

section
variable {cfg : AssertionConfig} {d : Deployment} {s s' : AssertionState} {tx : AssertionTx}

theorem linkWallet_links {borrowerId : Bytes32} {a : Assertion}
    (hcall : tx.call = .linkWallet borrowerId a) (h : s.exec cfg d tx = some s') :
    a.purpose = .walletLink ∧ s.verifier.used a.signer a.purpose a.nonce = false ∧
      s'.verifier = s.verifier.consume a ∧ LinksWallet cfg borrowerId a s s' := by
  unfold AssertionState.exec at h
  rw [hcall] at h
  obtain ⟨r, hr, rfl⟩ := Option.map_eq_some_iff.mp h
  have hr := toOption_eq_some.mp hr
  obtain ⟨_, -, hr⟩ := bind_eq_ok.mp hr
  obtain ⟨_, hfresh, hr⟩ := bind_eq_ok.mp hr
  obtain ⟨_, hvalid, hr⟩ := bind_eq_ok.mp hr
  obtain rfl := pure_eq_ok.mp hr
  have hvalid : s.verifier.isValid cfg tx.env tx.msg a .walletLink
      (cfg.walletLinkSubject borrowerId a.signer) = true := by
    simpa [AssertionState.accountEnv] using revertIf_eq_ok.mp hvalid
  obtain ⟨hpurpose, hsubject, hused⟩ := AuthorizationVerifier.isValid_ok hvalid
  refine ⟨hpurpose, hused, rfl, ⟨hsubject, Classical.not_not.mp (revertIf_eq_ok.mp hfresh),
    Function.update_self .., set2_self .., fun w hw => ⟨Function.update_of_ne hw .., fun b => ?_⟩, rfl⟩⟩
  show set2 s.accounts.isWallet borrowerId a.signer true b w = _
  rw [set2_apply, if_neg (fun heq => hw heq.2)]

theorem anchorAuthorization_anchors {auth : CreditAuthorization} {a : Assertion}
    (hcall : tx.call = .anchorAuthorization auth a) (h : s.exec cfg d tx = some s') :
    a.purpose = .creditApproval ∧ s.verifier.used a.signer a.purpose a.nonce = false ∧
      s'.verifier = s.verifier.consume a ∧ AnchorsAuthorization d auth a s s' := by
  unfold AssertionState.exec at h
  rw [hcall] at h
  obtain ⟨c, hc, rfl⟩ := Option.map_eq_some_iff.mp h
  obtain ⟨-, hvalid, -, anchor, hauth, hsigner, hepoch, -, rfl⟩ :=
    Credit.anchorAuthorization_ok (toOption_eq_some.mp hc)
  obtain ⟨hpurpose, hsubject, hused⟩ := AuthorizationVerifier.isValid_ok hvalid
  exact ⟨hpurpose, hused, rfl, hsubject, ⟨anchor, hauth, hsigner, hepoch, rfl⟩, rfl⟩

/-- The calls that consume no nonce. -/
theorem exec_unspent (hcall : tx.call.consumes = none) (h : s.exec cfg d tx = some s') :
    s'.verifier = s.verifier := by
  have haccount : ∀ {call : AccountCall}, s.account tx call = some s' →
      s'.verifier = s.verifier := by
    intro call h
    obtain ⟨r, -, rfl⟩ := Option.map_eq_some_iff.mp h
    rfl
  unfold AssertionState.exec at h
  cases hc : tx.call with
  | verifyAndConsume a purpose subject => simp [hc, AssertionCall.consumes] at hcall
  | linkWallet borrowerId a => simp [hc, AssertionCall.consumes] at hcall
  | anchorAuthorization auth a => simp [hc, AssertionCall.consumes] at hcall
  | releaseWallet wallet =>
    rw [hc] at h
    exact haccount h
  | linkAccount borrowerId providerId key =>
    rw [hc] at h
    exact haccount h
  | unlinkAccount key =>
    rw [hc] at h
    exact haccount h
  | credit call =>
    simp only [hc] at h
    split at h
    · obtain ⟨c, -, rfl⟩ := Option.map_eq_some_iff.mp h
      rfl
    · cases h

/-- A nonce that a transaction consumes was not used before it, and it is the one that is used after
it besides the old ones. -/
theorem exec_consumes {a : Address × AssertionPurpose × Nat} (hcall : tx.call.consumes = some a)
    (h : s.exec cfg d tx = some s') :
    s.verifier.used a.1 a.2.1 a.2.2 = false ∧ ∀ signer purpose nonce,
      s'.verifier.used signer purpose nonce = true ↔
        (signer, purpose, nonce) = a ∨ s.verifier.used signer purpose nonce = true := by
  cases hc : tx.call with
  | verifyAndConsume b purpose subject =>
    rw [hc] at hcall
    cases hcall
    unfold AssertionState.exec at h
    rw [hc] at h
    obtain ⟨v, hv, rfl⟩ := Option.map_eq_some_iff.mp h
    obtain ⟨⟨-, -, hused⟩, rfl⟩ := AuthorizationVerifier.verifyAndConsume_ok (toOption_eq_some.mp hv)
    exact ⟨hused, fun _ _ _ => AuthorizationVerifier.used_consume⟩
  | linkWallet borrowerId b =>
    obtain ⟨-, hused, hconsumed, -⟩ := linkWallet_links hc h
    rw [hc] at hcall
    cases hcall
    rw [hconsumed]
    exact ⟨hused, fun _ _ _ => AuthorizationVerifier.used_consume⟩
  | anchorAuthorization auth b =>
    obtain ⟨-, hused, hconsumed, -⟩ := anchorAuthorization_anchors hc h
    rw [hc] at hcall
    cases hcall
    rw [hconsumed]
    exact ⟨hused, fun _ _ _ => AuthorizationVerifier.used_consume⟩
  | releaseWallet wallet => simp [hc, AssertionCall.consumes] at hcall
  | linkAccount borrowerId providerId key => simp [hc, AssertionCall.consumes] at hcall
  | unlinkAccount key => simp [hc, AssertionCall.consumes] at hcall
  | credit call => simp [hc, AssertionCall.consumes] at hcall

/-- A nonce that becomes used is spent with its effect exactly when the transaction does not call the
verifier itself. -/
theorem AssertionStep.spent (h : AssertionStep cfg d s tx s') {signer : Address}
    {purpose : AssertionPurpose} {nonce : Nat}
    (hpurpose : purpose = .walletLink ∨ purpose = .creditApproval)
    (hfresh : s.verifier.used signer purpose nonce = false)
    (hused : s'.verifier.used signer purpose nonce = true) :
    SpentWithEffect cfg d s tx s' signer purpose nonce ↔ tx.call.direct = false := by
  obtain ⟨-, hexec⟩ := h
  constructor
  · intro heffect
    cases heffect with
    | linked hcall _ _ => rw [hcall]; rfl
    | anchored hcall _ _ => rw [hcall]; rfl
  · intro hdirect
    cases hconsumes : tx.call.consumes with
    | none =>
      rw [exec_unspent hconsumes hexec, hfresh] at hused
      cases hused
    | some consumed =>
      -- The nonce is the one that the call consumes.
      have hsame : (signer, purpose, nonce) = consumed := by
        rcases ((exec_consumes hconsumes hexec).2 signer purpose nonce).mp hused with hnew | hold
        · exact hnew
        · rw [hfresh] at hold
          cases hold
      cases hc : tx.call with
      | verifyAndConsume a purpose subject =>
        rw [hc] at hdirect
        cases hdirect
      | linkWallet borrowerId a =>
        obtain ⟨hwallet, -, -, hlinks⟩ := linkWallet_links hc hexec
        rw [hc] at hconsumes
        cases hconsumes
        cases hsame
        rw [hwallet]
        exact .linked hc hwallet hlinks
      | anchorAuthorization auth a =>
        obtain ⟨happroval, -, -, hanchors⟩ := anchorAuthorization_anchors hc hexec
        rw [hc] at hconsumes
        cases hconsumes
        cases hsame
        rw [happroval]
        exact .anchored hc happroval hanchors
      | releaseWallet wallet => simp [hc, AssertionCall.consumes] at hconsumes
      | linkAccount borrowerId providerId key => simp [hc, AssertionCall.consumes] at hconsumes
      | unlinkAccount key => simp [hc, AssertionCall.consumes] at hconsumes
      | credit call => simp [hc, AssertionCall.consumes] at hconsumes

/-- No nonce is consumed twice in a run, and the consumed ones are used at its end. -/
theorem consumes_nodup {s₀ : AssertionState} {txs : List AssertionTx}
    (hrun : Steps (AssertionStep cfg d) s₀ txs s) :
    (txs.filterMap fun tx => tx.call.consumes).Nodup ∧
      ∀ a ∈ txs.filterMap fun tx => tx.call.consumes, s.verifier.used a.1 a.2.1 a.2.2 = true := by
  refine Steps.history (P := fun txs s => (txs.filterMap fun tx => tx.call.consumes).Nodup ∧
    ∀ a ∈ txs.filterMap fun tx => tx.call.consumes, s.verifier.used a.1 a.2.1 a.2.2 = true)
    ⟨.nil, by simp⟩ ?_ hrun
  intro pre s tx s' _ ⟨hnodup, hused⟩ hstep
  obtain ⟨-, hexec⟩ := hstep
  cases hconsumes : tx.call.consumes with
  | none =>
    simp only [List.filterMap_append, List.filterMap_cons, List.filterMap_nil, hconsumes,
      List.append_nil]
    rw [exec_unspent hconsumes hexec]
    exact ⟨hnodup, hused⟩
  | some consumed =>
    obtain ⟨hfresh, hnow⟩ := exec_consumes hconsumes hexec
    simp only [List.filterMap_append, List.filterMap_cons, List.filterMap_nil, hconsumes]
    refine ⟨?_, fun a hmem => ?_⟩
    · refine List.Nodup.append hnodup (List.nodup_singleton consumed) ?_
      intro a hpre hlast
      rw [List.mem_singleton] at hlast
      subst hlast
      have hold := hused a hpre
      rw [hfresh] at hold
      cases hold
    · rw [List.mem_append, List.mem_singleton] at hmem
      rcases hmem with hpre | rfl
      · exact (hnow ..).mpr (.inr (hused a hpre))
      · exact (hnow ..).mpr (.inl rfl)

end

/-- In every run, by any callers in any order: a nonce of a wallet link or a credit approval that
becomes used is spent in that transaction with the effect that was signed, exactly when the
transaction does not call the verifier itself. So in a run without such calls every used nonce had its
effect. In no run is a nonce consumed twice. -/
theorem assertion_spent {cfg : AssertionConfig} {d : Deployment} {s₀ s : AssertionState}
    {txs : List AssertionTx} (hrun : Steps (AssertionStep cfg d) s₀ txs s) :
    (∀ t tx t', StepOf (AssertionStep cfg d) s₀ txs t tx t' → ∀ signer purpose nonce,
      purpose = .walletLink ∨ purpose = .creditApproval →
      t.verifier.used signer purpose nonce = false → t'.verifier.used signer purpose nonce = true →
      (SpentWithEffect cfg d t tx t' signer purpose nonce ↔ tx.call.direct = false)) ∧
    ((∀ tx ∈ txs, tx.call.direct = false) → ∀ signer purpose nonce,
      purpose = .walletLink ∨ purpose = .creditApproval →
      s₀.verifier.used signer purpose nonce = false → s.verifier.used signer purpose nonce = true →
      ∃ t tx t', StepOf (AssertionStep cfg d) s₀ txs t tx t' ∧
        SpentWithEffect cfg d t tx t' signer purpose nonce) ∧
    (txs.filterMap fun tx => tx.call.consumes).Nodup := by
  refine ⟨fun t tx t' hof signer purpose nonce hpurpose hfresh hused => ?_, ?_, (consumes_nodup hrun).1⟩
  · exact hof.step.spent hpurpose hfresh hused
  · intro hall signer purpose nonce hpurpose hfresh hused
    have hstart : ¬s₀.verifier.used signer purpose nonce = true := by simp [hfresh]
    obtain ⟨t, tx, t', hof, hbefore, hafter⟩ :=
      hrun.turns (P := fun s => s.verifier.used signer purpose nonce = true) hstart hused
    have hmem : tx ∈ txs := by
      obtain ⟨pre, post, rfl, -, -⟩ := hof
      simp
    have hbefore : t.verifier.used signer purpose nonce = false := by simpa using hbefore
    exact ⟨t, tx, t', hof, (hof.step.spent hpurpose hbefore hafter).mpr (hall tx hmem)⟩

namespace Sample

/-- The wallet 9 signs that it belongs to borrower 1. -/
def walletAssertion : Assertion :=
  { purpose := .walletLink, subject := 42, signer := 9, keyEpoch := 0, nonce := 1, issuedAt := 5,
    expiresAt := 100, signature := List.replicate 64 1 ++ [27] }

def assertionConfig : AssertionConfig where
  maxTtl := 300
  hashAssertion := fun a => Fin.ofNat (2 ^ 256) (a.nonce + 1)
  walletLinkSubject := fun borrowerId wallet => if borrowerId = 1 ∧ wallet = 9 then 42 else 0

/-- A call at a time when the signature of the wallet 9 recovers to it. Account 7 is a registrar. -/
def assertionTx (sender : Address) (now : Nat) (call : AssertionCall) : AssertionTx where
  msg := { sender := sender, now := now, hasRole := fun _ a => decide (a = 7), hasCode := fun _ => false }
  env := { isEpochValid := fun _ _ => true
           ecrecover := fun digest _ _ _ => if digest = 2 then 9 else 0
           isValidSignature := fun _ _ _ => false }
  providerExists := fun _ => true
  reg := registries
  call := call

/-- The verifier and the registry before any call, with the protocol of the sample. -/
def assertionDeployment : AssertionState :=
  { now := 0, verifier := .initial, accounts := .initial, credit := creditDeployment.credit }

end Sample

/-- Account 8 copies the assertion and brings it to the verifier itself. The nonce is used, the wallet
is not linked, and the registrar can no longer link it with that assertion. -/
theorem assertion_spent_fails : ∃ s,
    Steps (AssertionStep Sample.assertionConfig Sample.protocol) Sample.assertionDeployment
      [Sample.assertionTx 8 10 (.verifyAndConsume Sample.walletAssertion .walletLink 42)] s ∧
    Sample.assertionDeployment.verifier.used 9 .walletLink 1 = false ∧
    s.verifier.used 9 .walletLink 1 = true ∧ s.accounts.walletOwner 9 = 0 ∧
    s.exec Sample.assertionConfig Sample.protocol
      (Sample.assertionTx 7 11 (.linkWallet 1 Sample.walletAssertion)) = none := by
  have hview : ((Sample.assertionDeployment.run Sample.assertionConfig Sample.protocol
      [Sample.assertionTx 8 10 (.verifyAndConsume Sample.walletAssertion .walletLink 42)]).map fun s =>
      (s.verifier.used 9 .walletLink 1, s.accounts.walletOwner 9,
        (s.exec Sample.assertionConfig Sample.protocol
          (Sample.assertionTx 7 11 (.linkWallet 1 Sample.walletAssertion))).isSome)) =
      some (true, 0, false) := by
    decide +kernel
  obtain ⟨s, hrun, hs⟩ := Option.map_eq_some_iff.mp hview
  simp only [Prod.mk.injEq, Option.isSome_eq_false_iff, Option.isNone_iff_eq_none] at hs
  exact ⟨s, AssertionState.run_steps hrun, rfl, hs.1, hs.2.1, hs.2.2⟩

/-- The wallet links itself: the nonce is spent on the link. -/
theorem assertion_spent_sample : ∃ s s',
    SpentWithEffect Sample.assertionConfig Sample.protocol s
      (Sample.assertionTx 9 10 (.linkWallet 1 Sample.walletAssertion)) s' 9 .walletLink 1 ∧
      s'.accounts.walletOwner 9 = 1 := by
  have hview : ((Sample.assertionDeployment.run Sample.assertionConfig Sample.protocol
      [Sample.assertionTx 9 10 (.linkWallet 1 Sample.walletAssertion)]).map fun s =>
      (s.verifier.used 9 .walletLink 1, s.accounts.walletOwner 9)) = some (true, 1) := by
    decide +kernel
  obtain ⟨s, hrun, hs⟩ := Option.map_eq_some_iff.mp hview
  simp only [Prod.mk.injEq] at hs
  have hsteps := AssertionState.run_steps hrun
  have hof : StepOf (AssertionStep Sample.assertionConfig Sample.protocol) Sample.assertionDeployment
      [Sample.assertionTx 9 10 (.linkWallet 1 Sample.walletAssertion)] Sample.assertionDeployment
      (Sample.assertionTx 9 10 (.linkWallet 1 Sample.walletAssertion)) s := by
    cases hsteps with
    | cons hstep hnil =>
      cases hnil
      exact ⟨[], [], rfl, .nil _, hstep⟩
  exact ⟨_, s, ((assertion_spent hsteps).1 _ _ _ hof 9 .walletLink 1 (.inl rfl) rfl hs.1).mpr rfl,
    hs.2⟩

end Rackline
