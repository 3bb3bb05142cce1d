import Rackline.ControlRegistry

/-!
# `Rackline.Proofs.Control`: observations fail closed

An observation contradicts an agreement when it saw a lower grade or another receiver. From then
on the agreement should be shut: `isEffective` is false and `requireUsable` reverts, until an
observation matches again or a new version is written.

The receiver an observation writes is also the mark of "never observed" when it is zero. A keeper
that saw no receiver at all, and says so, erases the contradiction it reports: such a call is
`Blind`. `observations_fail_closed` says that this is the only way out: the observations of a run
fail closed if and only if no call of the run is blind.

The invariant is `Guarded`: the agreement is revoked, or the observation on record is there and
contradicts. A revocation lowers the grade it is compared with, and only a new version lifts a
revocation.
-/

set_option autoImplicit false

namespace Rackline

open Evm Transition

/-- The agreement a call is about. -/
def ControlCall.agreementId : ControlCall → Bytes32
  | createAgreement id _ _ _ | bumpVersion id _ | bindFacility id _ | observe id _ _
  | revoke id | approveRelease id _ | release id _ => id

/-- The call writes a version. -/
def ControlCall.WritesVersion : ControlCall → Prop
  | createAgreement _ _ _ _ | bumpVersion _ _ => True
  | bindFacility _ _ | observe _ _ _ | revoke _ | approveRelease _ _ | release _ _ => False

/-- The call files something that `isEffective` does not read. -/
def ControlCall.Files : ControlCall → Prop
  | bindFacility _ _ | approveRelease _ _ => True
  | createAgreement _ _ _ _ | bumpVersion _ _ | observe _ _ _ | revoke _ | release _ _ => False

/-- What a call writes to the agreement and the status of its id. -/
inductive ControlEffect (m : Msg) (k : ControlRegistry) (id : Bytes32) :
    ControlCall → ControlAgreement → ControlStatus → Prop
  | version {call : ControlCall} {a : ControlAgreement} {st : ControlStatus} :
      call.WritesVersion → a.version ≠ 0 → a.terms.receiver ≠ 0 →
      (a.terms.effectiveTo = 0 ∨ a.terms.effectiveFrom < a.terms.effectiveTo) →
      ControlEffect m k id call a st
  | observe {grade : ControlGrade} {receiver : Address} :
      (k.status id).exists_ = true → (k.status id).released = false →
      grade.rank ≤ (k.agreements id).terms.grade.rank →
      ControlEffect m k id (.observe id grade receiver)
        { k.agreements id with lastObservedAt := m.now }
        { k.status id with observedGrade := grade, observedReceiver := receiver }
  | revoke {a : ControlAgreement} {st : ControlStatus} : st.revoked = true →
      (k.status id).exists_ = true → st.released = (k.status id).released →
      a.version = (k.agreements id).version → a.terms.receiver = (k.agreements id).terms.receiver →
      a.terms.effectiveFrom = (k.agreements id).terms.effectiveFrom →
      a.terms.effectiveTo = (k.agreements id).terms.effectiveTo →
      ControlEffect m k id (.revoke id) a st
  | files {call : ControlCall} {st : ControlStatus} : call.Files →
      (k.status id).exists_ = true → st.revoked = (k.status id).revoked →
      st.released = (k.status id).released →
      st.observedGrade = (k.status id).observedGrade →
      st.observedReceiver = (k.status id).observedReceiver →
      ControlEffect m k id call (k.agreements id) st
  | release {version : Nat} : ControlEffect m k id (.release id version)
      { k.agreements id with
        terms := { (k.agreements id).terms with effectiveTo := m.now } }
      { k.status id with released := true, releaseApprovedVersion := 0 }

namespace ControlRegistry

variable {m : Msg} {env : ControlEnv} {id i : Bytes32} {k k' : ControlRegistry}

theorem put_agreements (a : ControlAgreement) (st : ControlStatus) :
    (k.put id a st).agreements id = a := Function.update_self ..

theorem put_status (a : ControlAgreement) (st : ControlStatus) :
    (k.put id a st).status id = st := Function.update_self ..

theorem put_agreements_of_ne (a : ControlAgreement) (st : ControlStatus) (h : i ≠ id) :
    (k.put id a st).agreements i = k.agreements i := Function.update_of_ne h ..

theorem put_status_of_ne (a : ControlAgreement) (st : ControlStatus) (h : i ≠ id) :
    (k.put id a st).status i = k.status i := Function.update_of_ne h ..

theorem requireLive_ok {u : Unit} (h : k.requireLive id = .ok u) :
    (k.status id).exists_ = true ∧ (k.status id).released = false := by
  unfold requireLive at h
  obtain ⟨_, hx, h⟩ := bind_eq_ok.mp h
  exact ⟨by simpa using revertIf_eq_ok.mp hx, by simpa using revertIf_eq_ok.mp h⟩

theorem writeVersion_ok {borrowerId : Bytes32} {accountKey : AccountKey} {version : Nat}
    {terms : VersionTerms} {st : ControlStatus}
    (h : k.writeVersion id borrowerId accountKey version terms st = .ok k') :
    ∃ a st', k' = k.put id a st' ∧ a.version = version ∧ a.terms.receiver ≠ 0 ∧
      (a.terms.effectiveTo = 0 ∨ a.terms.effectiveFrom < a.terms.effectiveTo) := by
  unfold writeVersion at h
  obtain ⟨_, hzero, h⟩ := bind_eq_ok.mp h
  obtain ⟨_, hwindow, h⟩ := bind_eq_ok.mp h
  have hzero := not_or.mp (revertIf_eq_ok.mp hzero)
  have hwindow := revertIf_eq_ok.mp hwindow
  refine ⟨_, _, (pure_eq_ok.mp h).symm, rfl, hzero.1, ?_⟩
  show terms.effectiveTo = 0 ∨ terms.effectiveFrom < terms.effectiveTo
  omega

end ControlRegistry

open ControlRegistry

/-- Every call writes one agreement, as `ControlEffect` says. -/
theorem ControlStep.effect {k k' : ControlRegistry} {tx : ControlTx} (h : ControlStep k tx k') :
    ∃ a st, k' = k.put tx.call.agreementId a st ∧
      ControlEffect tx.msg k tx.call.agreementId tx.call a st := by
  obtain ⟨m, env, call⟩ := tx
  unfold ControlStep at h
  cases call with
  | createAgreement i borrowerId accountKey terms =>
    simp only [ControlCall.exec, ControlRegistry.createAgreement] at h
    obtain ⟨_, -, h⟩ := bind_eq_ok.mp h
    obtain ⟨_, -, h⟩ := bind_eq_ok.mp h
    obtain ⟨_, -, h⟩ := bind_eq_ok.mp h
    obtain ⟨a, st, hk, hversion, hreceiver, hwindow⟩ := writeVersion_ok h
    exact ⟨a, st, hk, .version trivial (by rw [hversion]; exact Nat.one_ne_zero) hreceiver hwindow⟩
  | bumpVersion i terms =>
    simp only [ControlCall.exec, ControlRegistry.bumpVersion] at h
    obtain ⟨_, -, h⟩ := bind_eq_ok.mp h
    obtain ⟨_, -, h⟩ := bind_eq_ok.mp h
    obtain ⟨version, hv, h⟩ := bind_eq_ok.mp h
    obtain ⟨a, st, hk, hversion, hreceiver, hwindow⟩ := writeVersion_ok h
    have hne : a.version ≠ 0 := by
      rw [hversion, (addW_eq_ok.mp hv).2]
      exact Nat.succ_ne_zero _
    exact ⟨a, st, hk, .version trivial hne hreceiver hwindow⟩
  | bindFacility i facilityId =>
    simp only [ControlCall.exec, ControlRegistry.bindFacility] at h
    obtain ⟨_, -, h⟩ := bind_eq_ok.mp h
    obtain ⟨_, hlive, h⟩ := bind_eq_ok.mp h
    exact ⟨_, _, (pure_eq_ok.mp h).symm,
      .files trivial (requireLive_ok hlive).1 rfl rfl rfl rfl⟩
  | observe i grade receiver =>
    simp only [ControlCall.exec, ControlRegistry.observe] at h
    obtain ⟨_, -, h⟩ := bind_eq_ok.mp h
    obtain ⟨_, hlive, h⟩ := bind_eq_ok.mp h
    obtain ⟨_, hgrade, h⟩ := bind_eq_ok.mp h
    obtain ⟨hx, hreleased⟩ := requireLive_ok hlive
    exact ⟨_, _, (pure_eq_ok.mp h).symm,
      .observe hx hreleased (Nat.le_of_not_lt (revertIf_eq_ok.mp hgrade))⟩
  | revoke i =>
    simp only [ControlCall.exec, ControlRegistry.revoke] at h
    obtain ⟨_, -, h⟩ := bind_eq_ok.mp h
    obtain ⟨_, hlive, h⟩ := bind_eq_ok.mp h
    exact ⟨_, _, (pure_eq_ok.mp h).symm, .revoke rfl (requireLive_ok hlive).1 rfl rfl rfl rfl rfl⟩
  | approveRelease i terms =>
    simp only [ControlCall.exec, ControlRegistry.approveRelease] at h
    obtain ⟨_, -, h⟩ := bind_eq_ok.mp h
    obtain ⟨_, hlive, h⟩ := bind_eq_ok.mp h
    obtain ⟨_, -, h⟩ := bind_eq_ok.mp h
    exact ⟨_, _, (pure_eq_ok.mp h).symm,
      .files trivial (requireLive_ok hlive).1 rfl rfl rfl rfl⟩
  | release i version =>
    simp only [ControlCall.exec, ControlRegistry.release] at h
    obtain ⟨_, -, h⟩ := bind_eq_ok.mp h
    obtain ⟨_, -, h⟩ := bind_eq_ok.mp h
    obtain ⟨_, -, h⟩ := bind_eq_ok.mp h
    obtain ⟨_, -, h⟩ := bind_eq_ok.mp h
    obtain ⟨_, -, h⟩ := bind_eq_ok.mp h
    obtain ⟨_, -, h⟩ := bind_eq_ok.mp h
    split at h
    · cases h
    · obtain ⟨_, -, h⟩ := bind_eq_ok.mp h
      split at h
      · cases h
      · obtain ⟨_, -, h⟩ := bind_eq_ok.mp h
        exact ⟨_, _, (pure_eq_ok.mp h).symm, .release⟩

/-! ### What an observation says -/

/-- The call observes a lower grade or another receiver than the agreement has. -/
def ControlCall.Contradicts (id : Bytes32) (k : ControlRegistry) (call : ControlCall) : Prop :=
  ∃ grade receiver, call = .observe id grade receiver ∧
    (grade.rank < (k.agreements id).terms.grade.rank ∨
      receiver ≠ (k.agreements id).terms.receiver)

/-- The call observes the grade and the receiver of the agreement, or writes a new version. -/
def ControlCall.Clears (id : Bytes32) (k : ControlRegistry) (call : ControlCall) : Prop :=
  call = .observe id (k.agreements id).terms.grade (k.agreements id).terms.receiver ∨
    call.agreementId = id ∧ call.WritesVersion

/-- The call observes the receiver zero on an agreement that is not revoked. -/
def ControlCall.Blind (id : Bytes32) (k : ControlRegistry) (call : ControlCall) : Prop :=
  ∃ grade, call = .observe id grade 0 ∧ (k.status id).revoked = false

/-- The current version is not effective at any time, and cannot be drawn on. -/
def ControlRegistry.Shut (id : Bytes32) (k : ControlRegistry) : Prop :=
  (∀ time, k.isEffective id (k.agreements id).version time = false) ∧
    ∀ maxAge now, ∃ e,
      k.requireUsable id maxAge now (k.agreements id).version .e2 = .error e

/-- In the run of `txs` from `k₀`, an agreement is shut from every contradicting observation on,
as long as no call clears it. -/
def FailsClosed (id : Bytes32) (k₀ : ControlRegistry) (txs : List ControlTx) : Prop :=
  ∀ pre tx mid post k k' t, txs = pre ++ tx :: (mid ++ post) → Steps ControlStep k₀ pre k →
    ControlStep k tx k' → tx.call.Contradicts id k →
    Steps (fun k tx k' => ControlStep k tx k' ∧ ¬tx.call.Clears id k) k' mid t → t.Shut id

/-! ### The invariants -/

namespace ControlRegistry

variable {id : Bytes32} {k k' : ControlRegistry}

/-- The agreement is revoked, or the observation on record contradicts it. -/
def Guarded (id : Bytes32) (k : ControlRegistry) : Prop :=
  (k.status id).revoked = true ∨
    (k.status id).observedReceiver ≠ 0 ∧
      ((k.status id).observedReceiver ≠ (k.agreements id).terms.receiver ∨
        (k.status id).observedGrade.rank < (k.agreements id).terms.grade.rank)

/-- A version that was written and not released has a number, a receiver and a window. -/
structure Written (id : Bytes32) (k : ControlRegistry) : Prop where
  version : (k.agreements id).version ≠ 0
  receiver : (k.agreements id).terms.receiver ≠ 0
  window : (k.agreements id).terms.effectiveTo = 0 ∨
    (k.agreements id).terms.effectiveFrom < (k.agreements id).terms.effectiveTo

theorem Guarded.isEffective (h : k.Guarded id) (version time : Nat) :
    k.isEffective id version time = false := by
  unfold ControlRegistry.isEffective
  simp only [Bool.if_false_left, Bool.and_eq_false_imp]
  rcases h with hrevoked | ⟨hseen, hreceiver | hgrade⟩
  · intro hlive
    simp [hrevoked] at hlive
  · simp [hseen, hreceiver]
  · simp [hseen, hgrade]

theorem Guarded.shut (h : k.Guarded id) : k.Shut id := by
  refine ⟨h.isEffective _, fun maxAge now =>
    ⟨.agreementNotEffective id (k.agreements id).version, ?_⟩⟩
  unfold requireUsable
  exact revertIf_bind_of _ (h.isEffective _ _) _

/-- A written version that is neither revoked nor released and has no receiver on record is
effective when its window opens. -/
theorem Written.isEffective (h : k.Written id) (hx : (k.status id).exists_ = true)
    (hrevoked : (k.status id).revoked = false) (hreleased : (k.status id).released = false)
    (hunseen : (k.status id).observedReceiver = 0) :
    k.isEffective id (k.agreements id).version (k.agreements id).terms.effectiveFrom = true := by
  have hopen : ¬((k.agreements id).terms.effectiveTo ≠ 0 ∧
      (k.agreements id).terms.effectiveTo ≤ (k.agreements id).terms.effectiveFrom) := by
    rintro ⟨hne, hle⟩
    rcases h.window with hzero | hlt
    · exact hne hzero
    · exact Nat.not_le_of_lt hlt hle
  simp only [ControlRegistry.isEffective, hx, hrevoked, hreleased, hunseen, h.version, hopen]
  simp

end ControlRegistry

theorem ControlGrade.rank_injective : ∀ {g g' : ControlGrade}, g.rank = g'.rank → g = g' := by
  intro g g' h
  cases g <;> cases g' <;> first | rfl | cases h

section
variable {id : Bytes32} {k k' : ControlRegistry} {tx : ControlTx}

/-- A contradicting observation that is not blind guards the agreement. -/
theorem ControlStep.contradicts_guarded (h : ControlStep k tx k')
    (hc : tx.call.Contradicts id k) (hsees : ¬tx.call.Blind id k) : k'.Guarded id := by
  obtain ⟨m, env, call⟩ := tx
  obtain ⟨a, st, hk, heffect⟩ := h.effect
  obtain ⟨grade, receiver, rfl, hcontra⟩ := hc
  cases heffect with
  | version hwrites _ _ _ => exact hwrites.elim
  | files hfiles _ _ _ _ _ => exact hfiles.elim
  | observe _ _ _ =>
    subst hk
    show _ ∨ _
    rw [ControlCall.agreementId, put_status, put_agreements]
    by_cases hrevoked : (k.status id).revoked = true
    · exact .inl hrevoked
    · have hseen : receiver ≠ 0 := by
        rintro rfl
        exact hsees ⟨grade, rfl, by simpa using hrevoked⟩
      exact .inr ⟨hseen, hcontra.symm⟩

/-- An observation that does not match the agreement contradicts it. -/
theorem ControlStep.contradicts_of_not_clears {grade : ControlGrade} {receiver : Address}
    (h : ControlStep k tx k') (hcall : tx.call = .observe id grade receiver)
    (hc : ¬tx.call.Clears id k) : tx.call.Contradicts id k := by
  obtain ⟨m, env, call⟩ := tx
  obtain ⟨a, st, -, heffect⟩ := h.effect
  cases hcall
  refine ⟨grade, receiver, rfl, ?_⟩
  cases heffect with
  | version hwrites _ _ _ => exact hwrites.elim
  | files hfiles _ _ _ _ _ => exact hfiles.elim
  | observe _ _ hgrade =>
    rcases Nat.lt_or_eq_of_le hgrade with hlt | heq
    · exact .inl hlt
    · refine .inr fun hreceiver => hc (.inl ?_)
      rw [ControlGrade.rank_injective heq, hreceiver]
      rfl

/-- A guarded agreement stays guarded until it is cleared, if no call is blind. -/
theorem ControlStep.guarded (h : ControlStep k tx k') (hg : k.Guarded id)
    (hc : ¬tx.call.Clears id k) (hsees : ¬tx.call.Blind id k) : k'.Guarded id := by
  by_cases hobs : ∃ grade receiver, tx.call = .observe id grade receiver
  · obtain ⟨grade, receiver, hcall⟩ := hobs
    exact h.contradicts_guarded (h.contradicts_of_not_clears hcall hc) hsees
  · obtain ⟨a, st, rfl, heffect⟩ := h.effect
    by_cases hid : id = tx.call.agreementId
    · rw [← hid] at heffect ⊢
      show _ ∨ _
      rw [put_status, put_agreements]
      generalize hcall : tx.call = call at heffect
      cases heffect with
      | version hwrites _ _ _ => exact absurd (.inr ⟨hid.symm, hcall ▸ hwrites⟩) hc
      | observe _ _ _ => exact absurd ⟨_, _, hcall⟩ hobs
      | revoke hrevoked _ _ _ _ _ _ => exact .inl hrevoked
      | files _ _ hrevoked _ hgrade hreceiver =>
        rw [hrevoked, hgrade, hreceiver]
        exact hg
      | release => exact hg
    · show _ ∨ _
      rw [put_status_of_ne _ _ hid, put_agreements_of_ne _ _ hid]
      exact hg

/-- A call keeps what every version has. -/
theorem ControlStep.written (h : ControlStep k tx k')
    (hw : (k.status id).exists_ = true → (k.status id).released = false → k.Written id) :
    (k'.status id).exists_ = true → (k'.status id).released = false → k'.Written id := by
  obtain ⟨a, st, rfl, heffect⟩ := h.effect
  by_cases hid : id = tx.call.agreementId
  · rw [← hid] at heffect ⊢
    rw [put_status]
    intro hx hreleased
    suffices hterms : a.version ≠ 0 ∧ a.terms.receiver ≠ 0 ∧
        (a.terms.effectiveTo = 0 ∨ a.terms.effectiveFrom < a.terms.effectiveTo) by
      obtain ⟨hversion, hreceiver, hwindow⟩ := hterms
      constructor <;> rw [put_agreements]
      · exact hversion
      · exact hreceiver
      · exact hwindow
    generalize tx.call = call at heffect
    cases heffect with
    | version _ hversion hreceiver hwindow => exact ⟨hversion, hreceiver, hwindow⟩
    | observe hx hreleased _ =>
      have hwritten := hw hx hreleased
      exact ⟨hwritten.version, hwritten.receiver, hwritten.window⟩
    | revoke _ hx hsame hversion hreceiver hfrom hto =>
      have hwritten := hw hx (hsame ▸ hreleased)
      rw [hversion, hreceiver, hfrom, hto]
      exact ⟨hwritten.version, hwritten.receiver, hwritten.window⟩
    | files _ hx _ hsame _ _ =>
      have hwritten := hw hx (hsame ▸ hreleased)
      exact ⟨hwritten.version, hwritten.receiver, hwritten.window⟩
    | release => cases hreleased
  · rw [put_status_of_ne _ _ hid]
    intro hx hreleased
    have hwritten := hw hx hreleased
    constructor <;> rw [put_agreements_of_ne _ _ hid]
    · exact hwritten.version
    · exact hwritten.receiver
    · exact hwritten.window

/-- A blind observation of a written version leaves it effective. -/
theorem ControlStep.blind_effective (h : ControlStep k tx k')
    (hw : (k.status id).exists_ = true → (k.status id).released = false → k.Written id)
    (hblind : tx.call.Blind id k) : tx.call.Contradicts id k ∧ ¬k'.Shut id := by
  have hw' := h.written hw
  obtain ⟨m, env, call⟩ := tx
  obtain ⟨grade, rfl, hrevoked⟩ := hblind
  obtain ⟨a, st, rfl, heffect⟩ := h.effect
  cases heffect with
  | version hwrites _ _ _ => exact hwrites.elim
  | files hfiles _ _ _ _ _ => exact hfiles.elim
  | observe hx hreleased _ =>
    refine ⟨⟨grade, 0, rfl, .inr (hw hx hreleased).receiver.symm⟩, fun hshut => ?_⟩
    rw [ControlCall.agreementId] at hw' hshut
    have hstatus : (k.put id { k.agreements id with lastObservedAt := m.now }
        { k.status id with observedGrade := grade, observedReceiver := 0 }).status id =
        { k.status id with observedGrade := grade, observedReceiver := 0 } := put_status ..
    have heffective := (hw' (by rw [hstatus]; exact hx) (by rw [hstatus]; exact hreleased)).isEffective
      (by rw [hstatus]; exact hx) (by rw [hstatus]; exact hrevoked)
      (by rw [hstatus]; exact hreleased) (by rw [hstatus])
    exact absurd ((hshut.1 _).symm.trans heffective) nofun

end

/-- The observations of a run from the deployed registry fail closed, for an agreement, if and
only if no call of the run observes the receiver zero on that agreement while it is not
revoked. -/
theorem observations_fail_closed (id : Bytes32) (txs : List ControlTx) :
    FailsClosed id .initial txs ↔
      ∀ k tx k', StepOf ControlStep .initial txs k tx k' → ¬tx.call.Blind id k := by
  constructor
  · intro hclosed k tx k' hstep hblind
    obtain ⟨pre, post, htxs, hpre, hs⟩ := hstep
    have hw : (k.status id).exists_ = true → (k.status id).released = false → k.Written id :=
      hpre.invariant (P := fun k => (k.status id).exists_ = true →
        (k.status id).released = false → k.Written id) (fun _ _ _ hw hs => hs.written hw) nofun
    obtain ⟨hcontra, hopen⟩ := hs.blind_effective hw hblind
    exact hopen (hclosed pre tx [] post k k' k' htxs hpre hs hcontra (.nil k'))
  · intro hsees pre tx mid post k k' t htxs hpre hs hcontra hmid
    have hguarded : k'.Guarded id := by
      refine hs.contradicts_guarded hcontra (hsees k tx k' ?_)
      exact ⟨pre, mid ++ post, htxs, hpre, hs⟩
    -- Each call of the stretch is a call of the run, so it is not blind.
    have hlocated := hmid.located (fun _ _ _ hstep => hstep.1) post (hpre.snoc hs)
    rw [List.append_assoc, List.singleton_append, ← htxs] at hlocated
    refine (hlocated.invariant (P := fun k : ControlRegistry => k.Guarded id) ?_ hguarded).shut
    rintro k tx k' hg ⟨⟨hs, hc⟩, hstep⟩
    exact hs.guarded hg hc (hsees k tx k' hstep)

namespace Sample

/-- A call to the registry by account 7, which has every role, on an account of borrower 1. -/
def controlTx (now : Nat) (call : ControlCall) : ControlTx where
  msg := { sender := 7, now := now, hasRole := fun _ a => decide (a = 7), hasCode := fun _ => true }
  env := { borrowerOfAccount := fun _ => 1, debt := none }
  call := call

/-- Agreement 1, with grade E2 and receiver 30, from time 10 on. -/
def createControl : ControlTx :=
  controlTx 10 (.createAgreement 1 1 1
    { grade := .e2, receiver := 30, receiverChainId := 1, agreementHash := 1, effectiveFrom := 10,
      effectiveTo := 0, pocRef := 1 })

/-- A keeper finds no receiver for agreement 1. -/
def observeNoReceiver : ControlTx := controlTx 20 (.observe 1 .e2 0)

end Sample

/-- An observation of the receiver zero contradicts the receiver 30 of the agreement, which stays
effective and usable at E2. -/
theorem blind_observation_stays_effective :
    ∃ k k', ControlStep .initial Sample.createControl k ∧
      ControlStep k Sample.observeNoReceiver k' ∧
      Sample.observeNoReceiver.call.Contradicts 1 k ∧ k'.isEffective 1 1 20 = true ∧
      k'.requireUsable 1 1000 20 1 .e2 = .ok () ∧
      ¬FailsClosed 1 .initial [Sample.createControl, Sample.observeNoReceiver] := by
  have hrun : ∃ k k', ControlStep .initial Sample.createControl k ∧
      ControlStep k Sample.observeNoReceiver k' ∧ (k.agreements 1).terms.receiver = 30 ∧
      (k'.agreements 1).version = 1 ∧ k'.isEffective 1 1 20 = true ∧
      k'.requireUsable 1 1000 20 1 .e2 = .ok () := by
    refine ⟨_, _, rfl, rfl, ?_⟩
    decide +kernel
  obtain ⟨k, k', hcreate, hobserve, hreceiver, hversion, heffective, husable⟩ := hrun
  have hcontra : Sample.observeNoReceiver.call.Contradicts 1 k := by
    refine ⟨.e2, 0, rfl, .inr ?_⟩
    rw [hreceiver]
    decide +kernel
  refine ⟨k, k', hcreate, hobserve, hcontra, heffective, husable, fun hclosed => ?_⟩
  have hshut := hclosed [Sample.createControl] Sample.observeNoReceiver [] [] k k' k' rfl
    (.single hcreate) hobserve hcontra (.nil k')
  have hclosedAt := hshut.1 20
  rw [hversion] at hclosedAt
  exact absurd (hclosedAt.symm.trans heffective) nofun

end Rackline
