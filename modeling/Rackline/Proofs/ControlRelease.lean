import Rackline.Proofs.Authorization
import Rackline.Proofs.Control
import Rackline.SecuredRun

/-!
# `Rackline.Proofs.ControlRelease`: what a release of control checks

An agreement secures every facility that was opened under it. When `ControlRegistry.release` lets
it go, none of them should owe anything.

The registry reads the debt of one facility, the one that `bindFacility` named last. So the
release is right about that facility only: control is released with nothing owed under it if and
only if, at every release, the other facilities of the agreement owe nothing. Two things have to
go together for it to fail: a second facility is opened under the agreement, or the agreement is
bound to a facility that is not its own. A run that does neither (`KeepsSingle`) is fine.
-/

set_option autoImplicit false

namespace Rackline

open Evm Transition Credit

/-! ### The facilities of an agreement -/

/-- The facility was opened under the agreement. -/
def Credit.OpenedUnder (c : Credit) (id : FacilityId) (agreementId : Bytes32) : Prop :=
  (c.manager.facilities id).exists_ = true ∧
    (c.manager.facilities id).controlAgreementId = agreementId

/-- The facility that a call opens, and the agreement it opens it under. -/
def CreditCall.opens : CreditCall → Option (FacilityId × Bytes32)
  | .manager (.openFacility id _ _ _ controlAgreementId _) => some (id, controlAgreementId)
  | _ => none

namespace Credit

variable {d : Deployment} {reg : Registries} {m : Msg} {c c' : Credit} {id : FacilityId}

/-- A facility is opened once, under one agreement. -/
theorem openFacility_under {borrowerId : Bytes32} {wallet : Address} {terms : Terms}
    {controlAgreementId : Bytes32} {controlVersion : Nat}
    (h : c.openFacility d reg m id borrowerId wallet terms controlAgreementId controlVersion =
      .ok c') (i : FacilityId) (agreementId : Bytes32) :
    c'.OpenedUnder i agreementId ↔
      c.OpenedUnder i agreementId ∨ i = id ∧ agreementId = controlAgreementId := by
  have hnew := (openFacility_touches h).2.2.1
  unfold openFacility at h
  obtain ⟨_, -, h⟩ := bind_eq_ok.mp h
  obtain ⟨_, -, h⟩ := bind_eq_ok.mp h
  obtain ⟨_, -, h⟩ := bind_eq_ok.mp h
  obtain ⟨_, -, h⟩ := bind_eq_ok.mp h
  obtain ⟨_, -, h⟩ := bind_eq_ok.mp h
  split at h
  · cases h
  · obtain ⟨_, -, h⟩ := bind_eq_ok.mp h
    obtain ⟨_, -, h⟩ := bind_eq_ok.mp h
    obtain ⟨_, -, h⟩ := bind_eq_ok.mp h
    obtain ⟨l, -, h⟩ := bind_eq_ok.mp h
    obtain ⟨l', -, rfl⟩ := setFacilityState_ok h
    unfold OpenedUnder
    by_cases hi : i = id
    · subst hi
      simp only [Function.update_self, hnew]
      tauto
    · simp only [Function.update_of_ne hi, hi, false_and, or_false]

/-- A call that keeps the terms of every facility keeps the facilities of every agreement. -/
theorem OpenedUnder.congr
    (h : ∀ i, { c'.manager.facilities i with state := .draft } =
      { c.manager.facilities i with state := .draft }) (i : FacilityId) (agreementId : Bytes32) :
    c'.OpenedUnder i agreementId ↔ c.OpenedUnder i agreementId := by
  have hknown := congrArg ManagedFacility.exists_ (h i)
  have hagreement := congrArg ManagedFacility.controlAgreementId (h i)
  dsimp only at hknown hagreement
  unfold OpenedUnder
  rw [hknown, hagreement]

theorem OpenedUnder.of_eq (h : c'.manager.facilities = c.manager.facilities) (i : FacilityId)
    (agreementId : Bytes32) : c'.OpenedUnder i agreementId ↔ c.OpenedUnder i agreementId :=
  OpenedUnder.congr (fun i => by rw [h]) i agreementId

end Credit

section
variable {d : Deployment} {reg : Registries} {m : Msg} {c c' : Credit}

theorem ManagerCall.exec_opens (hw : c.Wired d) {call : ManagerCall}
    (h : call.exec d reg m c = .ok c') (i : FacilityId) (agreementId : Bytes32) :
    c'.OpenedUnder i agreementId ↔ c.OpenedUnder i agreementId ∨
      (CreditCall.manager call).opens = some (i, agreementId) := by
  have hkeep : (∀ j, { c'.manager.facilities j with state := .draft } =
      { c.manager.facilities j with state := .draft }) → (CreditCall.manager call).opens = none →
      (c'.OpenedUnder i agreementId ↔ c.OpenedUnder i agreementId ∨
        (CreditCall.manager call).opens = some (i, agreementId)) := by
    intro hterms hnone
    rw [OpenedUnder.congr hterms, hnone]
    simp
  cases call with
  | openFacility id borrowerId wallet terms controlAgreementId controlVersion =>
    rw [openFacility_under h]
    simp only [CreditCall.opens, Option.some.injEq, Prod.mk.injEq]
    tauto
  | transition id target =>
    exact hkeep (setFacilityState_framed (transition_ok h).2.2).terms rfl
  | freezeDraws id => exact hkeep (freezeDraws_framed h).terms rfl
  | pauseDraws paused =>
    simp only [ManagerCall.exec, Credit.pauseDraws] at h
    obtain ⟨_, -, h⟩ := bind_eq_ok.mp h
    obtain ⟨_, -, h⟩ := bind_eq_ok.mp h
    obtain rfl := pure_eq_ok.mp h
    exact hkeep (fun _ => by rfl) rfl
  | approveDrawResume =>
    simp only [ManagerCall.exec, Credit.approveDrawResume] at h
    obtain ⟨_, -, h⟩ := bind_eq_ok.mp h
    obtain rfl := pure_eq_ok.mp h
    exact hkeep (fun _ => by rfl) rfl
  | bindRecoveryManager manager =>
    simp only [ManagerCall.exec, managerBindRecovery] at h
    obtain ⟨_, -, h⟩ := bind_eq_ok.mp h
    obtain ⟨_, -, h⟩ := bind_eq_ok.mp h
    obtain ⟨_, -, h⟩ := bind_eq_ok.mp h
    obtain rfl := pure_eq_ok.mp h
    exact hkeep (fun _ => by rfl) rfl
  | syncRepaid id => exact hkeep (syncRepaid_framed h).terms rfl
  | recoveryTransition id target => exact hkeep (recoveryTransition_framed h).terms rfl
  | anchorAuthorization auth approval =>
    obtain ⟨-, -, -, a, -, -, -, -, rfl⟩ := anchorAuthorization_ok h
    exact hkeep (fun _ => by rfl) rfl
  | borrow id amount minReceived =>
    have hdrawn := (borrow_drawn hw.paired h).1
    exact hkeep (fun _ => by rw [hdrawn.facilities]) rfl
  | reserveDraw id amount ttl =>
    obtain ⟨⟨rid, q⟩, hc, rfl⟩ := map_eq_ok.mp h
    unfold Credit.reserveDraw at hc
    obtain ⟨_, -, hc⟩ := bind_eq_ok.mp hc
    obtain ⟨expiresAt, -, hc⟩ := bind_eq_ok.mp hc
    have huntouched := (reserveInternal_untouched hc).1
    exact hkeep (fun _ => by rw [huntouched.facilities]) rfl
  | executeReservedDraw rid minReceived =>
    have hdrawn := (executeInternal_drawn hw.paired h).1
    exact hkeep (fun _ => by rw [hdrawn.facilities]) rfl
  | repayFor id amount =>
    obtain ⟨⟨r, q⟩, hc, rfl⟩ := map_eq_ok.mp h
    exact hkeep (managerRepayFor_framed hc).terms rfl
  | claimRefund id =>
    simp only [ManagerCall.exec, Credit.claimRefund] at h
    obtain ⟨_, -, h⟩ := bind_eq_ok.mp h
    obtain ⟨_, -, h⟩ := bind_eq_ok.mp h
    obtain ⟨_, -, h⟩ := bind_eq_ok.mp h
    obtain ⟨pool, -, h⟩ := bind_eq_ok.mp h
    obtain rfl := pure_eq_ok.mp h
    exact hkeep (fun _ => by rfl) rfl

/-- The facilities of an agreement after a call: those before it, and the one it opens. -/
theorem CreditCall.exec_opens (hw : c.Wired d) (hs : m.sender ∉ d.contracts) {call : CreditCall}
    (h : call.exec d reg m c = .ok c') (i : FacilityId) (agreementId : Bytes32) :
    c'.OpenedUnder i agreementId ↔
      c.OpenedUnder i agreementId ∨ call.opens = some (i, agreementId) := by
  cases call with
  | vault call =>
    obtain ⟨p, -, rfl⟩ := map_eq_ok.mp h
    simp [opens, OpenedUnder]
  | ledger call =>
    obtain ⟨l, -, rfl⟩ := map_eq_ok.mp h
    simp [opens, OpenedUnder]
  | token call =>
    obtain ⟨t, -, rfl⟩ := map_eq_ok.mp h
    simp [opens, OpenedUnder]
  | exposure call =>
    rw [OpenedUnder.of_eq (ExposureCall.exec_untouched hw hs h).facilities]
    simp [opens]
  | manager call => exact ManagerCall.exec_opens hw h i agreementId
  | router call =>
    rw [OpenedUnder.congr (RouterCall.exec_framed h).terms]
    simp [opens]
  | recovery call =>
    rw [OpenedUnder.congr (RecoveryCall.exec_framed h).terms]
    simp [opens]

end

/-! ### The facility an agreement is bound to -/

/-- The agreement that a call binds, and the facility it binds it to. -/
def ControlCall.binds : ControlCall → Option (Bytes32 × FacilityId)
  | .bindFacility agreementId facilityId => some (agreementId, facilityId)
  | _ => none

/-- The agreement that a call releases. -/
def ControlCall.releases : ControlCall → Option Bytes32
  | .release agreementId _ => some agreementId
  | _ => none

namespace ControlRegistry

variable {m : Msg} {env : ControlEnv} {k k' : ControlRegistry}

/-- The facility that the release of an agreement asks about. -/
def boundTo (k : ControlRegistry) (agreementId : Bytes32) : FacilityId :=
  (k.status agreementId).facilityId

theorem put_boundTo {id : Bytes32} (a : ControlAgreement) (st : ControlStatus)
    (h : st.facilityId = k.boundTo id) (i : Bytes32) : (k.put id a st).boundTo i = k.boundTo i := by
  unfold boundTo
  by_cases hi : i = id
  · subst hi
    rw [put_status]
    exact h
  · rw [put_status_of_ne _ _ hi]

theorem writeVersion_boundTo {id borrowerId : Bytes32} {accountKey : AccountKey} {version : Nat}
    {terms : VersionTerms} {st : ControlStatus}
    (h : k.writeVersion id borrowerId accountKey version terms st = .ok k')
    (hst : st.facilityId = k.boundTo id) (i : Bytes32) : k'.boundTo i = k.boundTo i := by
  unfold writeVersion at h
  obtain ⟨_, -, h⟩ := bind_eq_ok.mp h
  obtain ⟨_, -, h⟩ := bind_eq_ok.mp h
  obtain rfl := pure_eq_ok.mp h
  exact put_boundTo _ _ (by exact hst) i

end ControlRegistry

open ControlRegistry

section
variable {m : Msg} {env : ControlEnv} {k k' : ControlRegistry} {call : ControlCall}

/-- Only `bindFacility` changes what an agreement is bound to. -/
theorem ControlCall.exec_boundTo (h : call.exec m env k = .ok k') (i : Bytes32) :
    k'.boundTo i = k.boundTo i ∧ (∀ f, call.binds ≠ some (i, f)) ∨
      call.binds = some (i, k'.boundTo i) := by
  have hquiet : call.binds = none → k'.boundTo i = k.boundTo i →
      k'.boundTo i = k.boundTo i ∧ (∀ f, call.binds ≠ some (i, f)) ∨
        call.binds = some (i, k'.boundTo i) := by
    intro hnone hsame
    exact .inl ⟨hsame, fun f => by rw [hnone]; exact nofun⟩
  cases call with
  | createAgreement id borrowerId accountKey terms =>
    simp only [exec, ControlRegistry.createAgreement] at h
    obtain ⟨_, -, h⟩ := bind_eq_ok.mp h
    obtain ⟨_, -, h⟩ := bind_eq_ok.mp h
    obtain ⟨_, -, h⟩ := bind_eq_ok.mp h
    exact hquiet rfl (writeVersion_boundTo h rfl i)
  | bumpVersion id terms =>
    simp only [exec, ControlRegistry.bumpVersion] at h
    obtain ⟨_, -, h⟩ := bind_eq_ok.mp h
    obtain ⟨_, -, h⟩ := bind_eq_ok.mp h
    obtain ⟨version, -, h⟩ := bind_eq_ok.mp h
    exact hquiet rfl (writeVersion_boundTo h rfl i)
  | bindFacility id facilityId =>
    simp only [exec, ControlRegistry.bindFacility] at h
    obtain ⟨_, -, h⟩ := bind_eq_ok.mp h
    obtain ⟨_, -, h⟩ := bind_eq_ok.mp h
    obtain rfl := pure_eq_ok.mp h
    by_cases hi : i = id
    · subst hi
      refine .inr ?_
      rw [boundTo, put_status]
      rfl
    · refine .inl ⟨?_, fun f hf => ?_⟩
      · rw [boundTo, boundTo, put_status_of_ne _ _ hi]
      · cases hf
        exact hi rfl
  | observe id observedGrade observedReceiver =>
    simp only [exec, ControlRegistry.observe] at h
    obtain ⟨_, -, h⟩ := bind_eq_ok.mp h
    obtain ⟨_, -, h⟩ := bind_eq_ok.mp h
    obtain ⟨_, -, h⟩ := bind_eq_ok.mp h
    obtain rfl := pure_eq_ok.mp h
    exact hquiet rfl (put_boundTo _ _ (by rfl) i)
  | revoke id =>
    simp only [exec, ControlRegistry.revoke] at h
    obtain ⟨_, -, h⟩ := bind_eq_ok.mp h
    obtain ⟨_, -, h⟩ := bind_eq_ok.mp h
    obtain rfl := pure_eq_ok.mp h
    exact hquiet rfl (put_boundTo _ _ (by rfl) i)
  | approveRelease id terms =>
    simp only [exec, ControlRegistry.approveRelease] at h
    obtain ⟨_, -, h⟩ := bind_eq_ok.mp h
    obtain ⟨_, -, h⟩ := bind_eq_ok.mp h
    obtain ⟨_, -, h⟩ := bind_eq_ok.mp h
    obtain rfl := pure_eq_ok.mp h
    exact hquiet rfl (put_boundTo _ _ (by rfl) i)
  | release id version =>
    have hstep : ControlStep k ⟨m, env, .release id version⟩ k' := h
    obtain ⟨a, st, hput, heffect⟩ := hstep.effect
    cases heffect with
    | version hwrites _ _ _ => exact hwrites.elim
    | files hfiles _ _ _ _ _ => exact hfiles.elim
    | release =>
      subst hput
      exact hquiet rfl (put_boundTo _ _ (by rfl) i)

/-- A release asks about the facility the agreement is bound to, which owes nothing. -/
theorem ControlCall.exec_releases {agreementId : Bytes32} (h : call.exec m env k = .ok k')
    (hrel : call.releases = some agreementId) :
    k.boundTo agreementId ≠ 0 ∧
      ∃ legalDebt, env.debt = some legalDebt ∧ legalDebt (k.boundTo agreementId) = some 0 := by
  cases call with
  | release id version =>
    cases hrel
    simp only [exec, ControlRegistry.release] at h
    obtain ⟨_, -, h⟩ := bind_eq_ok.mp h
    obtain ⟨_, -, h⟩ := bind_eq_ok.mp h
    obtain ⟨_, -, h⟩ := bind_eq_ok.mp h
    obtain ⟨_, -, h⟩ := bind_eq_ok.mp h
    obtain ⟨_, -, h⟩ := bind_eq_ok.mp h
    obtain ⟨_, -, h⟩ := bind_eq_ok.mp h
    split at h
    · cases h
    · rename_i legalDebt henv
      obtain ⟨_, hbound, h⟩ := bind_eq_ok.mp h
      split at h
      · cases h
      · rename_i debt hdebt
        obtain ⟨_, hzero, -⟩ := bind_eq_ok.mp h
        obtain rfl : debt = 0 := Classical.not_not.mp (revertIf_eq_ok.mp hzero)
        exact ⟨revertIf_eq_ok.mp hbound, legalDebt, henv, hdebt⟩
  | _ => cases hrel

end

/-! ### Runs -/

/-- The facility that a transaction opens, and its agreement. -/
def SecuredTx.opens (tx : SecuredTx) : Option (FacilityId × Bytes32) :=
  match tx.call with
  | .credit _ call => call.opens
  | .control _ _ => none

/-- The agreement that a transaction binds, and to which facility. -/
def SecuredTx.binds (tx : SecuredTx) : Option (Bytes32 × FacilityId) :=
  match tx.call with
  | .credit _ _ => none
  | .control _ call => call.binds

/-- The agreement that a transaction releases. -/
def SecuredTx.releases (tx : SecuredTx) : Option Bytes32 :=
  match tx.call with
  | .credit _ _ => none
  | .control _ call => call.releases

/-- In the run of `txs`, whenever an agreement is released, every facility that was opened under
it so far, other than those of `exempt`, has a legal debt of zero. -/
def ReleasesClear (d : Deployment) (observationMaxAge : Nat)
    (exempt : Secured → Bytes32 → FacilityId → Prop) (s₀ : Secured) (txs : List SecuredTx) : Prop :=
  ∀ pre tx post s s', txs = pre ++ tx :: post →
    Steps (SecuredStep d observationMaxAge) s₀ pre s → SecuredStep d observationMaxAge s tx s' →
    ∀ agreementId, tx.releases = some agreementId →
      ∀ id, (∃ t ∈ pre, t.opens = some (id, agreementId)) → ¬exempt s agreementId id →
        s.debtAt tx.msg.now id = some 0

/-- The transaction keeps one facility to an agreement, and the agreement bound to no other: it
opens no second facility under an agreement and none under an agreement that is bound to another
one, and it does not bind an agreement away from its facility. -/
def SecuredTx.KeepsSingle (tx : SecuredTx) (s : Secured) : Prop :=
  (∀ id agreementId, tx.opens = some (id, agreementId) →
    (∀ i, ¬s.credit.OpenedUnder i agreementId) ∧
      (s.control.boundTo agreementId = 0 ∨ s.control.boundTo agreementId = id)) ∧
  ∀ agreementId facilityId, tx.binds = some (agreementId, facilityId) →
    ∀ id, s.credit.OpenedUnder id agreementId → facilityId = 0 ∨ facilityId = id

namespace Secured

/-- The facilities of an agreement are one, and what the agreement is bound to is that one. -/
def Single (s : Secured) : Prop :=
  ∀ agreementId id, s.credit.OpenedUnder id agreementId →
    (∀ i, s.credit.OpenedUnder i agreementId → i = id) ∧
      (s.control.boundTo agreementId = 0 ∨ s.control.boundTo agreementId = id)

end Secured

section
variable {d : Deployment} {observationMaxAge : Nat} {s₀ s s' : Secured} {tx : SecuredTx}
  {txs : List SecuredTx}

/-- A transaction is one of the protocol, or one of the registry. -/
theorem SecuredStep.cases (h : SecuredStep d observationMaxAge s tx s') :
    (∃ reg call, tx.call = .credit reg call ∧ s'.control = s.control ∧
      CreditStep d s.protocol ⟨tx.msg, reg.withControl s.control observationMaxAge tx.msg.now, call⟩
        s'.protocol) ∨
    (∃ borrowerOfAccount call, tx.call = .control borrowerOfAccount call ∧
      s'.credit = s.credit ∧ s'.now = tx.msg.now ∧
      call.exec tx.msg ⟨borrowerOfAccount, some (s.debtAt tx.msg.now)⟩ s.control =
        .ok s'.control) := by
  obtain ⟨hnow, hsender, hexec⟩ := h
  obtain ⟨m, call⟩ := tx
  unfold Secured.exec at hexec
  cases call with
  | credit reg call =>
    obtain ⟨c, hc, rfl⟩ := Option.map_eq_some_iff.mp hexec
    exact .inl ⟨reg, call, rfl, rfl, hnow, hsender, toOption_eq_some.mp hc, rfl⟩
  | control borrowerOfAccount call =>
    obtain ⟨k, hk, rfl⟩ := Option.map_eq_some_iff.mp hexec
    exact .inr ⟨borrowerOfAccount, call, rfl, rfl, rfl, toOption_eq_some.mp hk⟩

/-- The protocol keeps its invariant next to the registry. -/
theorem SecuredStep.inv (hi : s.protocol.Inv d) (h : SecuredStep d observationMaxAge s tx s') :
    s'.protocol.Inv d := by
  have hnow := h.1
  obtain ⟨reg, call, -, -, hstep⟩ | ⟨borrowerOfAccount, call, -, hcredit, htime, -⟩ := h.cases
  · exact hstep.inv hi
  · refine ⟨?_, ?_⟩
    · show s'.credit.Wired d
      rw [hcredit]
      exact hi.wired
    · show CoupledBy s'.now s'.credit.pool
      rw [hcredit, htime]
      exact hi.coupled.later hnow

/-- The facilities of an agreement after a transaction. -/
theorem SecuredStep.opened (hi : s.protocol.Inv d) (h : SecuredStep d observationMaxAge s tx s')
    (id : FacilityId) (agreementId : Bytes32) :
    s'.credit.OpenedUnder id agreementId ↔
      s.credit.OpenedUnder id agreementId ∨ tx.opens = some (id, agreementId) := by
  unfold SecuredTx.opens
  obtain ⟨reg, call, hcall, -, -, hsender, hexec, -⟩ | ⟨borrowerOfAccount, call, hcall, hcredit, -⟩ :=
    h.cases
  · rw [hcall]
    exact CreditCall.exec_opens hi.wired hsender hexec id agreementId
  · rw [hcall, hcredit]
    simp

/-- What the agreements are bound to after a transaction. -/
theorem SecuredStep.bound (h : SecuredStep d observationMaxAge s tx s') (agreementId : Bytes32) :
    s'.control.boundTo agreementId = s.control.boundTo agreementId ∨
      tx.binds = some (agreementId, s'.control.boundTo agreementId) := by
  unfold SecuredTx.binds
  obtain ⟨reg, call, hcall, hcontrol, -⟩ | ⟨borrowerOfAccount, call, hcall, -, -, hexec⟩ := h.cases
  · exact .inl (by rw [hcontrol])
  · rw [hcall]
    rcases ControlCall.exec_boundTo hexec agreementId with ⟨hsame, -⟩ | hbinds
    · exact .inl hsame
    · exact .inr hbinds

/-- A release found the debt of the bound facility at zero. -/
theorem SecuredStep.released (h : SecuredStep d observationMaxAge s tx s') {agreementId : Bytes32}
    (hrel : tx.releases = some agreementId) :
    s.control.boundTo agreementId ≠ 0 ∧
      s.debtAt tx.msg.now (s.control.boundTo agreementId) = some 0 := by
  unfold SecuredTx.releases at hrel
  obtain ⟨reg, call, hcall, -⟩ | ⟨borrowerOfAccount, call, hcall, -, -, hexec⟩ := h.cases
  · rw [hcall] at hrel
    cases hrel
  · rw [hcall] at hrel
    obtain ⟨hne, legalDebt, hdebt, hzero⟩ := ControlCall.exec_releases hexec hrel
    cases hdebt
    exact ⟨hne, hzero⟩

/-- A run keeps the protocol in order, and its facilities are those its transactions opened. -/
theorem Secured.Initial.openedUnder_iff (h₀ : s₀.Initial d)
    (hrun : Steps (SecuredStep d observationMaxAge) s₀ txs s) :
    s.protocol.Inv d ∧ ∀ id agreementId, s.credit.OpenedUnder id agreementId ↔
      ∃ t ∈ txs, t.opens = some (id, agreementId) := by
  refine Steps.history (P := fun txs s => s.protocol.Inv d ∧
    ∀ id agreementId, s.credit.OpenedUnder id agreementId ↔
      ∃ t ∈ txs, t.opens = some (id, agreementId)) ⟨h₀.1.inv, fun id agreementId => ?_⟩ ?_ hrun
  · obtain ⟨⟨token, -, hcredit⟩, -⟩ := h₀
    have hnone : (s₀.credit.manager.facilities id).exists_ = false := by
      have hsame : s₀.credit = d.credit token := hcredit
      rw [hsame]
      rfl
    simp [OpenedUnder, hnone]
  · intro pre s tx s' _ ⟨hi, hopened⟩ hstep
    refine ⟨hstep.inv hi, fun id agreementId => ?_⟩
    rw [hstep.opened hi, hopened]
    simp only [List.mem_append, List.mem_singleton]
    constructor
    · rintro (⟨t, hmem, hopens⟩ | hopens)
      · exact ⟨t, .inl hmem, hopens⟩
      · exact ⟨tx, .inr rfl, hopens⟩
    · rintro ⟨t, hmem | rfl, hopens⟩
      · exact .inl ⟨t, hmem, hopens⟩
      · exact .inr hopens

/-- A transaction that keeps agreements single leaves them single. -/
theorem SecuredStep.single (hi : s.protocol.Inv d) (hs : s.Single)
    (hkeeps : tx.KeepsSingle s) (h : SecuredStep d observationMaxAge s tx s') : s'.Single := by
  intro agreementId id hopened
  have hbound : ∀ {i}, s.credit.OpenedUnder i agreementId →
      s'.control.boundTo agreementId = 0 ∨ s'.control.boundTo agreementId = i := by
    intro i hwas
    rcases h.bound agreementId with hsame | hbinds
    · rw [hsame]
      exact (hs agreementId i hwas).2
    · exact hkeeps.2 agreementId _ hbinds i hwas
  rcases (h.opened hi id agreementId).mp hopened with hwas | hopens
  · refine ⟨fun i hnow => ?_, hbound hwas⟩
    rcases (h.opened hi i agreementId).mp hnow with hwas' | hopens
    · exact (hs agreementId id hwas).1 i hwas'
    · exact absurd hwas ((hkeeps.1 i agreementId hopens).1 id)
  · obtain ⟨hnone, hfree⟩ := hkeeps.1 id agreementId hopens
    refine ⟨fun i hnow => ?_, ?_⟩
    · rcases (h.opened hi i agreementId).mp hnow with hwas | hopens'
      · exact absurd hwas (hnone i)
      · rw [hopens] at hopens'
        cases hopens'
        rfl
    · -- A transaction that opens a facility is not one that binds.
      have hquiet : s'.control = s.control := by
        obtain ⟨reg, call, -, hcontrol, -⟩ | ⟨borrowerOfAccount, call, hcall, -⟩ := h.cases
        · exact hcontrol
        · unfold SecuredTx.opens at hopens
          rw [hcall] at hopens
          cases hopens
      rw [hquiet]
      exact hfree

/-- Control is released with nothing owed under it, all along a run, if and only if at every
release the facilities of the agreement that it is not bound to owe nothing. A run that keeps one
facility to an agreement, and the agreement bound to no other, is such a run. -/
theorem control_released_clear (h₀ : s₀.Initial d) :
    (ReleasesClear d observationMaxAge (fun _ _ _ => False) s₀ txs ↔
      ReleasesClear d observationMaxAge (fun s agreementId id => id = s.control.boundTo agreementId)
        s₀ txs) ∧
    ((∀ s tx s', StepOf (SecuredStep d observationMaxAge) s₀ txs s tx s' → tx.KeepsSingle s) →
      ReleasesClear d observationMaxAge (fun _ _ _ => False) s₀ txs) := by
  refine ⟨⟨?_, ?_⟩, ?_⟩
  · intro h pre tx post s s' heq hpre hstep agreementId hrel id hopens _
    exact h pre tx post s s' heq hpre hstep agreementId hrel id hopens not_false
  · intro h pre tx post s s' heq hpre hstep agreementId hrel id hopens _
    by_cases hid : id = s.control.boundTo agreementId
    · rw [hid]
      exact (hstep.released hrel).2
    · exact h pre tx post s s' heq hpre hstep agreementId hrel id hopens hid
  · intro hkeeps pre tx post s s' heq hpre hstep agreementId hrel id hopens _
    obtain ⟨-, hopened⟩ := h₀.openedUnder_iff hpre
    have hsingle : s.Single := by
      have hinitial : s₀.Single := by
        intro a i hunder
        have hnil : Steps (SecuredStep d observationMaxAge) s₀ [] s₀ := .nil s₀
        obtain ⟨t, hmem, -⟩ := ((h₀.openedUnder_iff hnil).2 i a).mp hunder
        cases hmem
      refine (Steps.history (P := fun pre s => ∀ post, txs = pre ++ post →
        s.protocol.Inv d ∧ s.Single) (fun _ _ => ⟨h₀.1.inv, hinitial⟩) ?_ hpre _ heq).2
      intro pre s tx s' hpre ih hstep post hcut
      have hcut' : txs = pre ++ tx :: post := by simpa using hcut
      obtain ⟨hi, hs⟩ := ih _ hcut'
      exact ⟨hstep.inv hi, hstep.single hi hs (hkeeps s tx s' ⟨pre, post, hcut', hpre, hstep⟩)⟩
    obtain ⟨hne, hzero⟩ := hstep.released hrel
    rcases (hsingle agreementId id ((hopened id agreementId).mpr hopens)).2 with hfree | hbound
    · exact absurd hfree hne
    · rw [← hbound]
      exact hzero

end

namespace Sample

/-- A transaction of the protocol, with the control registry as it is. -/
def secured (tx : Tx) : SecuredTx := ⟨tx.msg, .credit tx.reg tx.call⟩

/-- A call to the control registry by account 7, on an account of borrower 1. -/
def securedControl (now : Nat) (call : ControlCall) : SecuredTx :=
  ⟨(tx 7 now (.manager .approveDrawResume)).msg, .control (fun _ => 1) call⟩

/-- Agreement 1 is made and observed, and facility 5 is opened under it and draws 600. -/
def securedFacility : List SecuredTx :=
  [securedControl 10 createControl.call, securedControl 10 (.observe 1 .e2 30)] ++
    (activeFacility 1000 600).map secured ++ [securedControl 10 (.bindFacility 1 5)]

/-- The servicer has approved the release of agreement 1. -/
def approveControl : SecuredTx :=
  securedControl 11 (.approveRelease 1
    { version := 1, reconciliationClosesAt := 0, refundPending := false })

/-- The treasurer releases agreement 1. -/
def releaseControl : SecuredTx := securedControl 11 (.release 1 1)

/-- Facility 12 is opened under agreement 1 too, and the agreement is bound to it. -/
def reboundFacility : List SecuredTx :=
  securedFacility ++ [secured (tx 7 11 (.manager (.openFacility 12 1 9 loanTerms 1 1))),
    securedControl 11 (.bindFacility 1 12), approveControl]

/-- Facility 5 repays. -/
def repaidFacility : List SecuredTx :=
  securedFacility ++ [secured (tx 9 10 (.manager (.repayFor 5 600))), approveControl]

/-- The deployment before any call, with its control registry. -/
def securedDeployment : Secured :=
  { now := 0, credit := creditDeployment.credit, control := .initial }

theorem securedDeployment_initial : securedDeployment.Initial protocol :=
  ⟨creditDeployment_initial, rfl⟩

end Sample

/-- Agreement 1 is bound to the new facility 12 and released while facility 5, which was opened
under it, owes 600. -/
theorem release_with_second_facility_in_debt :
    Sample.securedDeployment.Initial Sample.protocol ∧
    (∃ s s', Steps (SecuredStep Sample.protocol 1000) Sample.securedDeployment
        Sample.reboundFacility s ∧
      SecuredStep Sample.protocol 1000 s Sample.releaseControl s' ∧
      s.debtAt 11 5 = some 600) ∧
    ¬ReleasesClear Sample.protocol 1000 (fun _ _ _ => False) Sample.securedDeployment
      (Sample.reboundFacility ++ [Sample.releaseControl]) := by
  obtain ⟨s, hrun, hdebt⟩ : ∃ s, Sample.securedDeployment.run Sample.protocol 1000
      Sample.reboundFacility = some s ∧ s.debtAt 11 5 = some 600 :=
    Option.map_eq_some_iff.mp (by decide +kernel)
  obtain ⟨s', hrun'⟩ : ∃ s', Sample.securedDeployment.run Sample.protocol 1000
      (Sample.reboundFacility ++ [Sample.releaseControl]) = some s' :=
    Option.isSome_iff_exists.mp (by decide +kernel)
  have hsteps := Secured.run_steps hrun
  have hrelease := Secured.run_last hrun hrun'
  refine ⟨Sample.securedDeployment_initial, ⟨s, s', hsteps, hrelease, hdebt⟩, fun hclear => ?_⟩
  have hopened : ∃ t ∈ Sample.reboundFacility, t.opens = some (5, 1) := by decide +kernel
  have hzero := hclear _ _ [] s s' rfl hsteps hrelease 1 rfl 5 hopened not_false
  exact absurd (hdebt.symm.trans hzero) (by decide)

/-- Agreement 1 is released after facility 5, the one opened under it, has repaid its 600. -/
theorem control_released_clear_sample :
    ∃ s s', Steps (SecuredStep Sample.protocol 1000) Sample.securedDeployment
        Sample.repaidFacility s ∧
      SecuredStep Sample.protocol 1000 s Sample.releaseControl s' ∧ s.debtAt 11 5 = some 0 := by
  obtain ⟨s, hrun, hbound⟩ : ∃ s, Sample.securedDeployment.run Sample.protocol 1000
      Sample.repaidFacility = some s ∧ s.control.boundTo 1 = 5 :=
    Option.map_eq_some_iff.mp (by decide +kernel)
  obtain ⟨s', hrun'⟩ : ∃ s', Sample.securedDeployment.run Sample.protocol 1000
      (Sample.repaidFacility ++ [Sample.releaseControl]) = some s' :=
    Option.isSome_iff_exists.mp (by decide +kernel)
  have hsteps := Secured.run_steps hrun
  have hrelease := Secured.run_last hrun hrun'
  refine ⟨s, s', hsteps, hrelease, ?_⟩
  have hquiet : ∀ t ∈ Sample.repaidFacility, t.releases = none := by decide +kernel
  have honly : ∀ t ∈ Sample.repaidFacility, t.opens = none ∨ t.opens = some (5, 1) := by
    decide +kernel
  have hclear : ReleasesClear Sample.protocol 1000 (fun _ _ _ => False) Sample.securedDeployment
      (Sample.repaidFacility ++ [Sample.releaseControl]) := by
    refine (control_released_clear Sample.securedDeployment_initial).1.mpr ?_
    intro pre tx post t t' heq hpre _ agreementId hrel id hopens hother
    -- The release is the last transaction, so `t` is `s`, which binds agreement 1 to facility 5.
    rcases List.eq_nil_or_concat post with rfl | ⟨front, last, rfl⟩
    · obtain ⟨rfl, htx⟩ := List.append_inj' heq rfl
      cases htx
      cases hrel
      have hsame := (Secured.run_of_steps hpre).symm.trans hrun
      cases hsame
      obtain ⟨tx, hmem, hopens⟩ := hopens
      rcases honly tx hmem with hnone | hfive
      · rw [hnone] at hopens
        cases hopens
      · rw [hfive] at hopens
        cases hopens
        exact absurd hbound.symm hother
    · have hmem : tx ∈ Sample.repaidFacility := by
        have hcut : Sample.repaidFacility ++ [Sample.releaseControl] =
            (pre ++ tx :: front) ++ [last] := by simpa using heq
        rw [(List.append_inj' hcut rfl).1]
        simp
      rw [hquiet tx hmem] at hrel
      cases hrel
  have hopened : ∃ t ∈ Sample.repaidFacility, t.opens = some (5, 1) := by decide +kernel
  exact hclear _ _ [] s s' rfl hsteps hrelease 1 rfl 5 hopened not_false

end Rackline
