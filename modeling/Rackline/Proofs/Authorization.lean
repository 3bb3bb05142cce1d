import Rackline.Proofs.Exposure

/-!
# `Rackline.Proofs.Authorization`: draws under a signed authorization

An underwriter signs a `CreditAuthorization`, which `anchorAuthorization` stores in the manager.
The limit, the policy and the agreement that a draw is evaluated under are those of the
`Authorization` in the controller, which `setAuthorization` writes in transactions of its own.

Two counters tie the two records. The controller counts the authorizations it was given, and an
anchor keeps the count at which its terms were compared with the controller's. The anchor never
has a count of the future, and as long as its count is the controller's, the terms agree
(`Anchored`). A draw checks that the counts are the same.
-/

set_option autoImplicit false

namespace Rackline

open Evm Transition

/-- The terms of an authorization of the controller are those of a signed one, for a facility. The
signed one has its control agreement as a hash. -/
structure Signed (d : Deployment) (f : ManagedFacility) (ea : Authorization)
    (auth : CreditAuthorization) : Prop where
  limit : ea.limit = auth.limit
  policy : ea.policyVersionId = auth.policyVersionId
  agreement : ea.controlAgreementId = f.controlAgreementId ∧ ea.controlVersion = f.controlVersion
  agreementHash :
    d.controlVersionHash ea.controlAgreementId ea.controlVersion = auth.controlAgreementVersionHash
  validUntil : ea.validUntil = auth.validUntil

namespace Credit

/-- The anchor of a facility is for it, has no count of the future, and agrees with the
controller while the counts are the same. -/
structure Anchored (d : Deployment) (id : FacilityId) (c : Credit) : Prop where
  known : (c.manager.facilities id).exists_ = true
  facility : (c.manager.anchors id).auth.facilityId = id
  past : (c.manager.anchors id).exposureEpoch ≤ (c.exposure.auth id).epoch
  signed : (c.manager.anchors id).exposureEpoch = (c.exposure.auth id).epoch →
    Signed d (c.manager.facilities id) (c.exposure.auth id) (c.manager.anchors id).auth

variable {d : Deployment} {reg : Registries} {m : Msg} {c c' : Credit} {id : FacilityId}
  {rid : Bytes32}

/-! ### What the calls leave and check -/

/-- A reservation of the manager keeps its facilities and anchors. -/
theorem reserveInternal_manager {amount expiresAt : Nat}
    (h : c.reserveInternal d reg m id amount expiresAt = .ok (rid, c')) :
    c'.manager.facilities = c.manager.facilities ∧ c'.manager.anchors = c.manager.anchors ∧
      c'.exposure.auth = c.exposure.auth ∧ c'.manager.reservationFacility rid = id ∧
      c'.manager.drawsPaused = c.manager.drawsPaused := by
  unfold reserveInternal at h
  obtain ⟨_, -, h⟩ := bind_eq_ok.mp h
  obtain ⟨_, -, h⟩ := bind_eq_ok.mp h
  obtain ⟨_, -, h⟩ := bind_eq_ok.mp h
  obtain ⟨_, -, h⟩ := bind_eq_ok.mp h
  obtain ⟨ev, -, h⟩ := bind_eq_ok.mp h
  obtain ⟨_, -, h⟩ := bind_eq_ok.mp h
  obtain ⟨_, -, h⟩ := bind_eq_ok.mp h
  obtain ⟨cash, -, h⟩ := bind_eq_ok.mp h
  obtain ⟨_, -, h⟩ := bind_eq_ok.mp h
  obtain ⟨nonce, -, h⟩ := bind_eq_ok.mp h
  obtain ⟨⟨rid', q⟩, hq, h⟩ := bind_eq_ok.mp h
  obtain ⟨-, -, -, -, rfl⟩ := reserve_spec hq
  have hres := pure_eq_ok.mp h
  simp only [Prod.mk.injEq] at hres
  obtain ⟨rfl, rfl⟩ := hres
  exact ⟨rfl, rfl, rfl, Function.update_self .., rfl⟩

theorem executeInternal_manager {minReceived : Nat}
    (h : c.executeInternal d reg m rid minReceived = .ok c') : c'.manager = c.manager := by
  unfold executeInternal at h
  obtain ⟨_, -, h⟩ := bind_eq_ok.mp h
  obtain ⟨_, -, h⟩ := bind_eq_ok.mp h
  obtain ⟨_, -, h⟩ := bind_eq_ok.mp h
  obtain ⟨q, hq, h⟩ := bind_eq_ok.mp h
  obtain ⟨pool, -, h⟩ := bind_eq_ok.mp h
  obtain ⟨_, -, h⟩ := bind_eq_ok.mp h
  obtain ⟨_, -, h⟩ := bind_eq_ok.mp h
  obtain ⟨_, -, h⟩ := bind_eq_ok.mp h
  obtain ⟨-, -, -, ev, l, -, -, -, rfl⟩ := consumeReservation_spec hq
  rw [← pure_eq_ok.mp h]
  rfl

/-- A facility that may draw has an anchor at the count of the controller, whose signer still has
the role and the epoch. -/
theorem checkDrawable_ok (h : c.checkDrawable d reg m id = .ok ()) :
    (c.manager.anchors id).exists_ = true ∧
    m.hasRole .underwriter (c.manager.anchors id).signer = true ∧
    reg.isEpochValid .underwriter (c.manager.anchors id).signerEpoch = true ∧
    (c.manager.anchors id).exposureEpoch = (c.exposure.auth id).epoch := by
  unfold checkDrawable at h
  obtain ⟨_, -, h⟩ := bind_eq_ok.mp h
  obtain ⟨_, -, h⟩ := bind_eq_ok.mp h
  obtain ⟨_, -, h⟩ := bind_eq_ok.mp h
  obtain ⟨_, hanchor, h⟩ := bind_eq_ok.mp h
  obtain ⟨_, hsigner, h⟩ := bind_eq_ok.mp h
  obtain ⟨verifier, -, h⟩ := bind_eq_ok.mp h
  obtain ⟨_, -, h⟩ := bind_eq_ok.mp h
  obtain ⟨_, -, h⟩ := bind_eq_ok.mp h
  obtain ⟨_, hepoch, h⟩ := bind_eq_ok.mp h
  have hanchor := not_or.mp (revertIf_eq_ok.mp hanchor)
  have hsigner := not_or.mp (revertIf_eq_ok.mp hsigner)
  exact ⟨by simpa using hanchor.1, by simpa using hsigner.1, by simpa using hsigner.2,
    Classical.not_not.mp (revertIf_eq_ok.mp hepoch)⟩

/-- A draw is checked, consumes a reservation made under the current authorization, and leaves
the facility with no more than its limit. -/
theorem executeInternal_authorized {minReceived : Nat} (hp : c.Paired)
    (he : c.exposure.Enrollments) (h : c.executeInternal d reg m rid minReceived = .ok c')
    (hid : c.manager.reservationFacility rid = id) :
    c.checkDrawable d reg m id = .ok () ∧ c'.manager = c.manager ∧
    c'.exposure.auth = c.exposure.auth ∧
    (c.exposure.reservations rid).authorizationEpoch = (c.exposure.auth id).epoch ∧
    c'.committedAt m.now id ≤ (c.exposure.auth id).limit := by
  unfold executeInternal at h
  obtain ⟨_, -, h⟩ := bind_eq_ok.mp h
  obtain ⟨_, -, h⟩ := bind_eq_ok.mp h
  obtain ⟨_, hdrawable, h⟩ := bind_eq_ok.mp h
  obtain ⟨q, hq, h⟩ := bind_eq_ok.mp h
  obtain ⟨pool, hlend, h⟩ := bind_eq_ok.mp h
  obtain ⟨_, -, h⟩ := bind_eq_ok.mp h
  obtain ⟨_, -, h⟩ := bind_eq_ok.mp h
  obtain ⟨_, -, h⟩ := bind_eq_ok.mp h
  obtain rfl := pure_eq_ok.mp h
  have hledger : pool.ledger = q.pool.ledger := VaultCall.exec_ledger (c := .lend _ _ _) hlend
  obtain ⟨hactive, hepoch, -, _, l, -, -, -, hbooks⟩ := consumeReservation_spec hq
  have hpair : id = (c.exposure.reservations rid).facilityId := by
    rcases hp rid with hnone | hpair
    · rw [hactive] at hnone
      cases hnone
    · rw [← hpair, hid]
  obtain ⟨ev, -, hcapped⟩ := consumeReservation_capped he hpair hq
  have hlimit : q.committedAt m.now id ≤ (q.exposure.auth id).limit := by
    obtain ⟨p, -, -, hlimit⟩ := hcapped
    exact hlimit.trans (Nat.min_le_left _ _)
  subst hbooks
  rw [hid] at hdrawable
  rw [← hpair] at hepoch
  refine ⟨hdrawable, rfl, rfl, hepoch.symm, ?_⟩
  -- The vault pays out, and leaves the ledger as it is.
  have hsame : committedAt { c.bookClosed rid .consumed with pool := pool } m.now id =
      committedAt { c.bookClosed rid .consumed with pool := { c.pool with ledger := l } }
        m.now id := by
    simp only [committedAt, account, hledger]
  exact hsame ▸ hlimit

/-- An anchor is stored with the terms of the controller and its count, when the signature was
accepted. -/
theorem anchorAuthorization_ok {auth : CreditAuthorization} {approval : SupplementaryAssertion}
    (h : c.anchorAuthorization d reg m auth approval = .ok c') :
    (c.manager.facilities auth.facilityId).exists_ = true ∧
    reg.verifyAndConsume approval (d.authorizationSubject auth) = true ∧
    Signed d (c.manager.facilities auth.facilityId) (c.exposure.auth auth.facilityId) auth ∧
    ∃ a : Anchor, a.auth = auth ∧ a.signer = approval.signer ∧ a.signerEpoch = approval.keyEpoch ∧
      a.exposureEpoch = (c.exposure.auth auth.facilityId).epoch ∧
      c' = { c with manager := { c.manager with
        anchors := Function.update c.manager.anchors auth.facilityId a } } := by
  unfold anchorAuthorization at h
  obtain ⟨_, hknown, h⟩ := bind_eq_ok.mp h
  obtain ⟨_, -, h⟩ := bind_eq_ok.mp h
  obtain ⟨_, -, h⟩ := bind_eq_ok.mp h
  obtain ⟨verifier, -, h⟩ := bind_eq_ok.mp h
  obtain ⟨_, -, h⟩ := bind_eq_ok.mp h
  obtain ⟨_, hhash, h⟩ := bind_eq_ok.mp h
  obtain ⟨_, hagrees, h⟩ := bind_eq_ok.mp h
  obtain ⟨_, hverified, h⟩ := bind_eq_ok.mp h
  obtain ⟨epoch, -, h⟩ := bind_eq_ok.mp h
  have hhash := Classical.not_not.mp (revertIf_eq_ok.mp hhash)
  have hsigned : Signed d (c.manager.facilities auth.facilityId)
      (c.exposure.auth auth.facilityId) auth := by
    unfold requireExposureAgrees at hagrees
    obtain ⟨_, -, hagrees⟩ := bind_eq_ok.mp hagrees
    obtain ⟨_, hlimit, hagrees⟩ := bind_eq_ok.mp hagrees
    obtain ⟨_, hpolicy, hagrees⟩ := bind_eq_ok.mp hagrees
    obtain ⟨_, hcontrol, huntil⟩ := bind_eq_ok.mp hagrees
    have hcontrol := not_or.mp (revertIf_eq_ok.mp hcontrol)
    have hid := Classical.not_not.mp hcontrol.1
    have hversion := Classical.not_not.mp hcontrol.2
    refine ⟨Classical.not_not.mp (revertIf_eq_ok.mp hlimit),
      Classical.not_not.mp (revertIf_eq_ok.mp hpolicy), ⟨hid, hversion⟩, ?_,
      Classical.not_not.mp (revertIf_eq_ok.mp huntil)⟩
    rw [hid, hversion, hhash]
  refine ⟨by simpa [requireFacility] using revertIf_eq_ok.mp hknown,
    by simpa using revertIf_eq_ok.mp hverified, hsigned, _, ?_, ?_, ?_, ?_,
    (pure_eq_ok.mp h).symm⟩
  · rfl
  · rfl
  · rfl
  · rfl

/-! ### The invariant -/

/-- The invariant reads the anchor, the authorization and the terms of the facility. -/
theorem Anchored.of_eq (h : Anchored d id c)
    (hf : { c'.manager.facilities id with state := .draft } =
      { c.manager.facilities id with state := .draft })
    (ha : c'.manager.anchors id = c.manager.anchors id)
    (he : c'.exposure.auth id = c.exposure.auth id) : Anchored d id c' := by
  have hknown := congrArg ManagedFacility.exists_ hf
  have hagreement := congrArg ManagedFacility.controlAgreementId hf
  have hversion := congrArg ManagedFacility.controlVersion hf
  dsimp only at hknown hagreement hversion
  refine ⟨hknown.trans h.known, ha ▸ h.facility, ?_, fun hepoch => ?_⟩
  · rw [ha, he]
    exact h.past
  · rw [ha, he] at hepoch ⊢
    have hsigned := h.signed hepoch
    exact ⟨hsigned.limit, hsigned.policy, ⟨hsigned.agreement.1.trans hagreement.symm,
      hsigned.agreement.2.trans hversion.symm⟩, hsigned.agreementHash, hsigned.validUntil⟩

end Credit

open Credit

section
variable {d : Deployment} {reg : Registries} {m : Msg} {c c' : Credit} {call : CreditCall}

/-- Every call keeps an anchor as it is, or stores it with an accepted signature. -/
theorem Booking.anchor (h : Booking d reg m c c' call) (id : FacilityId) :
    c'.manager.anchors id = c.manager.anchors id ∨
    ∃ approval, call = .manager (.anchorAuthorization (c'.manager.anchors id).auth approval) ∧
      reg.verifyAndConsume approval
        (d.authorizationSubject (c'.manager.anchors id).auth) = true ∧
      (c'.manager.anchors id).signer = approval.signer ∧
      (c'.manager.anchors id).signerEpoch = approval.keyEpoch ∧ Anchored d id c' := by
  cases h with
  | framed _ hframe => exact .inl (by rw [hframe.anchors])
  | opened _ _ _ hanchors _ => exact .inl (by rw [hanchors])
  | enrolled hrun =>
    obtain ⟨-, enrolled, byBorrower, byGroup, byProvider, all, rfl⟩ := enrollFacility_spec hrun
    exact .inl rfl
  | authorized hrun =>
    obtain ⟨-, rfl⟩ := setAuthorization_spec hrun
    exact .inl rfl
  | @anchored auth approval hrun =>
    obtain ⟨hknown, hverified, hsigned, a, rfl, hsigner, hkey, hepoch, rfl⟩ :=
      anchorAuthorization_ok hrun
    by_cases hid : id = a.auth.facilityId
    · subst hid
      have hstored : Function.update c.manager.anchors a.auth.facilityId a a.auth.facilityId = a :=
        Function.update_self ..
      refine .inr ⟨approval, ?_, ?_, ?_, ?_, hknown, ?_, ?_, fun _ => ?_⟩
      all_goals dsimp only; rw [hstored]
      · exact hverified
      · exact hsigner
      · exact hkey
      · exact hepoch.le
      · exact hsigned
    · exact .inl (Function.update_of_ne hid ..)
  | released _ _ hrun =>
    obtain ⟨-, -, rfl⟩ := releaseReservation_spec hrun
    exact .inl rfl
  | reserved hrun => exact .inl (by rw [(reserveInternal_manager hrun).2.1])
  | drawn hrun => exact .inl (by rw [executeInternal_manager hrun])
  | borrowed hres hrun =>
    exact .inl (by rw [executeInternal_manager hrun, (reserveInternal_manager hres).2.1])

/-- A call that leaves the anchor of a facility keeps it right. A new authorization of the
controller outdates it. -/
theorem Booking.anchored_kept (h : Booking d reg m c c' call) {id : FacilityId}
    (hanchor : c'.manager.anchors id = c.manager.anchors id) (ha : Anchored d id c) :
    Anchored d id c' := by
  cases h with
  | framed _ hframe => exact ha.of_eq (hframe.terms id) hanchor (by rw [hframe.exposure])
  | @opened _ i _ hnew he _ hothers =>
    have hid : id ≠ i := by
      rintro rfl
      rw [ha.known] at hnew
      cases hnew
    exact ha.of_eq (by rw [hothers id hid]) hanchor (by rw [he])
  | enrolled hrun =>
    obtain ⟨-, enrolled, byBorrower, byGroup, byProvider, all, rfl⟩ := enrollFacility_spec hrun
    exact ha.of_eq rfl hanchor rfl
  | @authorized i limit policy agreement version validUntil hrun =>
    obtain ⟨-, rfl⟩ := setAuthorization_spec hrun
    by_cases hid : id = i
    · subst hid
      have hpast := ha.past
      refine ⟨ha.known, ha.facility, ?_, fun hepoch => ?_⟩
      · dsimp only
        rw [Function.update_self]
        exact hpast.trans (Nat.le_succ _)
      · dsimp only at hepoch
        rw [Function.update_self] at hepoch
        dsimp only at hepoch
        omega
    · exact ha.of_eq rfl hanchor (Function.update_of_ne hid ..)
  | @anchored auth approval hrun =>
    obtain ⟨-, -, -, a, -, -, -, -, rfl⟩ := anchorAuthorization_ok hrun
    exact ha.of_eq rfl hanchor rfl
  | released _ _ hrun =>
    obtain ⟨-, -, rfl⟩ := releaseReservation_spec hrun
    exact ha.of_eq rfl hanchor rfl
  | reserved hrun =>
    obtain ⟨hfacilities, -, hauth, -⟩ := reserveInternal_manager hrun
    exact ha.of_eq (by rw [hfacilities]) hanchor (by rw [hauth])
  | drawn hrun =>
    have hauth : c'.exposure.auth = c.exposure.auth := by
      rw [(executeInternal_books hrun).2.1]
      rfl
    exact ha.of_eq (by rw [executeInternal_manager hrun]) hanchor (by rw [hauth])
  | borrowed hres hrun =>
    obtain ⟨hfacilities, -, hauth, -⟩ := reserveInternal_manager hres
    have hauth' : c'.exposure.auth = c.exposure.auth := by
      rw [(executeInternal_books hrun).2.1, ← hauth]
      rfl
    exact ha.of_eq (by rw [executeInternal_manager hrun, hfacilities]) hanchor (by rw [hauth'])

end

/-- In every reachable state, an anchor that exists is right. -/
theorem CreditReachable.anchored {d : Deployment} {s : CreditState} (h : CreditReachable d s)
    {id : FacilityId} (hx : (s.credit.manager.anchors id).exists_ = true) :
    Anchored d id s.credit := by
  refine (Reachable.invariant (P := fun s => s.Inv d ∧
    ((s.credit.manager.anchors id).exists_ = true → Anchored d id s.credit)) ?_ ?_ h).2 hx
  · intro s hinit
    refine ⟨hinit.inv, fun hx => ?_⟩
    obtain ⟨token, -, hs⟩ := hinit
    rw [hs] at hx
    cases hx
  · rintro s tx s' ⟨hi, hold⟩ hstep
    refine ⟨hstep.inv hi, fun hx => ?_⟩
    have hbooking := hstep.booking hi
    rcases hbooking.anchor id with hsame | ⟨approval, -, -, -, -, hanchored⟩
    · exact hbooking.anchored_kept hsame (hold (hsame ▸ hx))
    · exact hanchored

/-- The anchor of a facility was stored by a transaction of the run that passed its signature to
the verifier, which accepted it. -/
def VerifiedIn (d : Deployment) (s₀ : CreditState) (txs : List Tx) (a : Anchor) : Prop :=
  ∃ s tx s' approval, StepOf (CreditStep d) s₀ txs s tx s' ∧
    tx.call = .manager (.anchorAuthorization a.auth approval) ∧
    tx.reg.verifyAndConsume approval (d.authorizationSubject a.auth) = true ∧
    a.signer = approval.signer ∧ a.signerEpoch = approval.keyEpoch

theorem CreditState.Initial.anchor_verified {d : Deployment} {s₀ s : CreditState} {txs : List Tx}
    (h₀ : s₀.Initial d) (hrun : Steps (CreditStep d) s₀ txs s) {id : FacilityId}
    (hx : (s.credit.manager.anchors id).exists_ = true) :
    VerifiedIn d s₀ txs (s.credit.manager.anchors id) := by
  refine Steps.history (P := fun txs s => (s.credit.manager.anchors id).exists_ = true →
    VerifiedIn d s₀ txs (s.credit.manager.anchors id)) ?_ ?_ hrun hx
  · intro hx
    obtain ⟨token, -, hs⟩ := h₀
    rw [hs] at hx
    cases hx
  · intro txs s tx s' hpre hold hstep hx
    have hreach : CreditReachable d s := ⟨s₀, txs, h₀, hpre⟩
    rcases (hstep.booking hreach.inv).anchor id with hsame | ⟨approval, hcall, hok, hs, hk, -⟩
    · rw [hsame] at hx ⊢
      obtain ⟨t, tx', t', approval, ⟨pre, post, rfl, hsteps, hstep'⟩, hcall⟩ := hold hx
      refine ⟨t, tx', t', approval, ⟨pre, post ++ [tx], ?_, hsteps, hstep'⟩, hcall⟩
      simp
    · exact ⟨s, tx, s', approval, ⟨txs, [], rfl, hpre, hstep⟩, hcall, hok, hs, hk⟩

/-! ### Draws -/

/-- The facility that a call draws on. -/
def CreditCall.drawsOn (c : Credit) : CreditCall → Option FacilityId
  | .manager (.borrow id _ _) => some id
  | .manager (.executeReservedDraw rid _) => some (c.manager.reservationFacility rid)
  | _ => none

theorem CreditCall.drawsOn_draws {c : Credit} {call : CreditCall} {id : FacilityId}
    (h : call.drawsOn c = some id) : call.Draws := by
  unfold drawsOn at h
  split at h
  · trivial
  · trivial
  · cases h

/-- What a draw finds and leaves: an anchor at the count of the controller, whose signer still has
the role; the same anchor and authorization after it; and no more than the limit taken. -/
structure DrawnUnder (reg : Registries) (m : Msg) (id : FacilityId) (c c' : Credit) : Prop where
  anchor : (c.manager.anchors id).exists_ = true
  role : m.hasRole .underwriter (c.manager.anchors id).signer = true
  key : reg.isEpochValid .underwriter (c.manager.anchors id).signerEpoch = true
  epoch : (c.manager.anchors id).exposureEpoch = (c.exposure.auth id).epoch
  anchorKept : c'.manager.anchors id = c.manager.anchors id
  authKept : c'.exposure.auth id = c.exposure.auth id
  limit : c'.committedAt m.now id ≤ (c.exposure.auth id).limit

theorem Credit.executeInternal_drawnUnder {d : Deployment} {reg : Registries} {m : Msg}
    {c c' : Credit} {id : FacilityId} {rid : Bytes32} {minReceived : Nat} (hp : c.Paired)
    (he : c.exposure.Enrollments) (h : c.executeInternal d reg m rid minReceived = .ok c')
    (hid : c.manager.reservationFacility rid = id) : DrawnUnder reg m id c c' := by
  obtain ⟨hdrawable, hmanager, hauth, -, hlimit⟩ := executeInternal_authorized hp he h hid
  obtain ⟨hanchor, hrole, hkey, hepoch⟩ := checkDrawable_ok hdrawable
  exact ⟨hanchor, hrole, hkey, hepoch, by rw [hmanager], by rw [hauth], hlimit⟩

theorem Booking.drawnUnder {d : Deployment} {reg : Registries} {m : Msg} {c c' : Credit}
    {call : CreditCall} {id : FacilityId} (h : Booking d reg m c c' call) (hp : c.Paired)
    (he : c.exposure.Enrollments) (hdraw : call.drawsOn c = some id) :
    DrawnUnder reg m id c c' := by
  have hdraws := CreditCall.drawsOn_draws hdraw
  cases h with
  | framed hnot _ => exact absurd hdraws hnot
  | opened hnot _ _ _ _ => exact absurd hdraws hnot
  | released hnot _ _ => exact absurd hdraws hnot
  | drawn hrun => exact executeInternal_drawnUnder hp he hrun (Option.some.inj hdraw)
  | @borrowed i amount minReceived expiresAt rid c₁ hres hrun =>
    have hid : i = id := Option.some.inj hdraw
    obtain ⟨-, hanchors, hauth, hfor, -⟩ := reserveInternal_manager hres
    have hint : Internal d m.now ⟨∅, ∅⟩ c c₁ := (reserveInternal_ok hp hres).1
    have he₁ : c₁.exposure.Enrollments := by
      obtain ⟨nonce, manager, -, -, -, rfl⟩ := reserveInternal_books hres
      exact ⟨he.borrower, he.group, he.provider, he.all⟩
    -- The reservation leaves the anchor and the authorization that the draw finds.
    obtain ⟨hanchor, hrole, hkey, hepoch, hkept, hauthKept, hlimit⟩ :=
      executeInternal_drawnUnder hint.paired he₁ hrun (hfor.trans hid)
    rw [hanchors] at hanchor hrole hkey hepoch hkept
    rw [hauth] at hepoch hauthKept hlimit
    exact ⟨hanchor, hrole, hkey, hepoch, hkept, hauthKept, hlimit⟩
  | _ => exact hdraws.elim

/-- Every draw is covered by the signed authorization. In any run, at every `borrow` and every
`executeReservedDraw`: the anchored authorization was signed by an assertion that the verifier
accepted, the terms that the controller uses are the signed ones, the signer still has the role
and a valid key epoch, and the facility ends with no more debt and reservations than the signed
limit. -/
theorem draws_are_signed {d : Deployment} {s₀ s s' : CreditState} {txs : List Tx} {tx : Tx}
    {id : FacilityId} (h₀ : s₀.Initial d) (hrun : Steps (CreditStep d) s₀ txs s)
    (hstep : CreditStep d s tx s') (hdraw : tx.call.drawsOn s.credit = some id) :
    VerifiedIn d s₀ txs (s.credit.manager.anchors id) ∧
    (s.credit.manager.anchors id).auth.facilityId = id ∧
    Signed d (s.credit.manager.facilities id) (s.credit.exposure.auth id)
      (s.credit.manager.anchors id).auth ∧
    s'.credit.manager.anchors id = s.credit.manager.anchors id ∧
    s'.credit.exposure.auth id = s.credit.exposure.auth id ∧
    tx.msg.hasRole .underwriter (s.credit.manager.anchors id).signer = true ∧
    tx.reg.isEpochValid .underwriter (s.credit.manager.anchors id).signerEpoch = true ∧
    s'.credit.committedAt tx.msg.now id ≤ (s.credit.manager.anchors id).auth.limit := by
  have hreach : CreditReachable d s := ⟨s₀, txs, h₀, hrun⟩
  have hdrawn := (hstep.booking hreach.inv).drawnUnder hreach.inv.wired.paired
    hreach.booked.enrollments hdraw
  have hanchored := hreach.anchored hdrawn.anchor
  have hsigned := hanchored.signed hdrawn.epoch
  refine ⟨h₀.anchor_verified hrun hdrawn.anchor, hanchored.facility, hsigned, hdrawn.anchorKept,
    hdrawn.authKept, hdrawn.role, hdrawn.key, ?_⟩
  rw [← hsigned.limit]
  exact hdrawn.limit

/-- Facility 5 borrows 600 under the authorization that account 7 signed. -/
theorem draws_are_signed_sample :
    ∃ s s', CreditStep Sample.protocol s (Sample.tx 9 10 (.manager (.borrow 5 600 0))) s' ∧
      VerifiedIn Sample.protocol Sample.creditDeployment ((Sample.activeFacility 1000 600).take 8)
        (s.credit.manager.anchors 5) ∧
      (s.credit.manager.anchors 5).auth.limit = 10 ^ 6 ∧
      Signed Sample.protocol (s.credit.manager.facilities 5) (s.credit.exposure.auth 5)
        (s.credit.manager.anchors 5).auth ∧
      s'.credit.committedAt 10 5 ≤ 10 ^ 6 := by
  obtain ⟨s, hrun, hlimit⟩ := Sample.creditDeployment.run_view Sample.protocol
    ((Sample.activeFacility 1000 600).take 8)
    (fun s => (s.credit.manager.anchors 5).auth.limit) (v := 10 ^ 6) (by decide +kernel)
  obtain ⟨s', hrun', -⟩ := Sample.creditDeployment.run_view Sample.protocol
    (Sample.activeFacility 1000 600) (fun _ => ()) (v := ()) (by decide +kernel)
  have hstep : CreditStep Sample.protocol s (Sample.tx 9 10 (.manager (.borrow 5 600 0))) s' :=
    (CreditState.run_last hrun hrun').step
  obtain ⟨hverified, -, hsigned, -, -, -, -, hwithin⟩ :=
    draws_are_signed Sample.creditDeployment_initial (CreditState.run_steps hrun) hstep rfl
  exact ⟨s, s', hstep, hverified, hlimit, hsigned, hlimit ▸ hwithin⟩

end Rackline
