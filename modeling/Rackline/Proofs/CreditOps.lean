import Rackline.Proofs.PoolActions

/-!
# `Rackline.Proofs.CreditOps`: what each call of the credit protocol does

`Internal` is what every call of the protocol does to the state around it: the pool moves by a
trace of actions, the wiring stays, every reservation stays paired with the facility it was
made for, and no facility becomes active but those the call names. It is closed under
composition, so a call that is made of others needs no more than their lemmas.

The calls that a proof looks into later (a transition, a draw, a repayment) have inversion
lemmas of their own.
-/

set_option autoImplicit false

namespace Rackline

open Evm Transition

namespace Credit

/-- Every reservation the controller knows belongs to the facility the manager has for it. -/
def Paired (c : Credit) : Prop :=
  ∀ rid, (c.exposure.reservations rid).state = .none ∨
    c.manager.reservationFacility rid = (c.exposure.reservations rid).facilityId

/-- What a call may do beyond what every call does: the facilities it may take to `ACTIVE`, and
the vault calls it makes for an outsider. -/
structure Effects where
  activated : Set FacilityId
  vaultCalls : Set VaultCall

/-- What a call does to the protocol, with the effects `E`. -/
structure Internal (d : Deployment) (now : Nat) (E : Effects) (c c' : Credit) : Prop where
  trace : Trace d now E.vaultCalls c.pool c'.pool
  managers : c'.exposure.isManager = c.exposure.isManager
  finalized : c'.exposure.wiringFinalized = c.exposure.wiringFinalized
  recovery : c'.manager.recoveryManager = c.manager.recoveryManager
  paired : c'.Paired
  quiet : ∀ id, (c'.manager.facilities id).state = .active →
    (c.manager.facilities id).state = .active ∨ id ∈ E.activated

variable {d : Deployment} {reg : Registries} {m : Msg} {now : Nat} {E : Effects}
  {c c' c'' : Credit} {id : FacilityId}

theorem Internal.refl (hp : c.Paired) : Internal d now E c c :=
  ⟨.refl _, rfl, rfl, rfl, hp, fun _ h => .inl h⟩

theorem Internal.trans (h : Internal d now E c c') (h' : Internal d now E c' c'') :
    Internal d now E c c'' := by
  refine ⟨Relation.ReflTransGen.trans h.trace h'.trace, h'.managers.trans h.managers,
    h'.finalized.trans h.finalized, h'.recovery.trans h.recovery, h'.paired, fun i hi => ?_⟩
  rcases h'.quiet i hi with hmid | hA
  · exact h.quiet i hmid
  · exact .inr hA

/-- The pool moves; the manager and the controller stay. -/
theorem Internal.ofPool (hp : c.Paired) {p : Pool} (h : Trace d now E.vaultCalls c.pool p)
    (router : Router) (recovery : Recovery) :
    Internal d now E c { c with pool := p, router := router, recovery := recovery } :=
  ⟨h, rfl, rfl, rfl, hp, fun _ hi => .inl hi⟩

/-! ### Facility states -/

theorem setFacilityState_ok {target : FacilityState}
    (h : c.setFacilityState d m id target = .ok c') :
    ∃ l, c.pool.ledger.setState (m.calledBy d.manager) id target = .ok l ∧
      c' = { c with
        pool := { c.pool with ledger := l }
        manager := { c.manager with
          facilities := Function.update c.manager.facilities id
            { c.manager.facilities id with state := target } } } := by
  unfold setFacilityState at h
  obtain ⟨l, hl, h⟩ := bind_eq_ok.mp h
  exact ⟨l, hl, (pure_eq_ok.mp h).symm⟩

/-- A ledger call of a contract that is complete in itself. -/
theorem trace_ledger {p : Pool} {l : Ledger} {caller : Address} (hcaller : caller ≠ d.vault)
    (call : LedgerCall) (hplain : call.Plain) (h : call.exec (m.calledBy caller) p.ledger = .ok l) :
    Trace d m.now E.vaultCalls p { p with ledger := l } :=
  .single (.ledger (m.calledBy caller) call rfl hcaller hplain h)

/-- A vault call of a contract. -/
theorem trace_vault {p p' : Pool} {caller : Address} (hcaller : caller ≠ d.vault)
    (call : VaultCall) (hserv : call.Service) (h : call.exec (m.calledBy caller) p = .ok p') :
    Trace d m.now E.vaultCalls p p' :=
  .single (.vault (m.calledBy caller) call rfl hcaller hserv.plain (.inl hserv) h)

/-- A token call of a contract. -/
theorem trace_token {p : Pool} {t : Token Address} {caller : Address} (hcaller : caller ≠ d.vault)
    (call : TokenCall) (h : call.exec (m.calledBy caller) p.token = .ok t) :
    Trace d m.now E.vaultCalls p { p with token := t } :=
  .single (.token (m.calledBy caller) call rfl hcaller h)

theorem setFacilityState_internal {target : FacilityState}
    (h : c.setFacilityState d m id target = .ok c') (hp : c.Paired)
    (hA : target = .active → id ∈ E.activated) : Internal d m.now E c c' := by
  obtain ⟨l, hl, rfl⟩ := setFacilityState_ok h
  refine ⟨trace_ledger d.manager_ne (.setState id target) trivial hl, rfl, rfl, rfl, hp,
    fun i hi => ?_⟩
  by_cases hid : i = id
  · subst hid
    exact .inr (hA (by simpa using hi))
  · exact .inl (by simpa [Function.update_of_ne hid] using hi)

theorem transition_ok {target : FacilityState} (h : c.transition d reg m id target = .ok c') :
    isTransitionAllowed (c.manager.facilities id).state target = true ∧
    c.hasAuthority d m (c.manager.facilities id).state target = true ∧
    c.setFacilityState d m id target = .ok c' := by
  unfold transition at h
  obtain ⟨_, -, h⟩ := bind_eq_ok.mp h
  obtain ⟨_, hallow, h⟩ := bind_eq_ok.mp h
  obtain ⟨_, hauth, h⟩ := bind_eq_ok.mp h
  obtain ⟨_, -, h⟩ := bind_eq_ok.mp h
  exact ⟨by simpa using revertIf_eq_ok.mp hallow, by simpa using revertIf_eq_ok.mp hauth, h⟩

theorem recoveryTransition_ok {target : FacilityState}
    (h : c.recoveryTransition d reg m id target = .ok c') :
    m.sender = c.manager.recoveryManager ∧
    isTransitionAllowed (c.manager.facilities id).state target = true ∧
    c.setFacilityState d m id target = .ok c' := by
  unfold recoveryTransition at h
  obtain ⟨_, -, h⟩ := bind_eq_ok.mp h
  obtain ⟨_, hsender, h⟩ := bind_eq_ok.mp h
  obtain ⟨_, hallow, h⟩ := bind_eq_ok.mp h
  obtain ⟨_, -, h⟩ := bind_eq_ok.mp h
  exact ⟨Classical.not_not.mp (revertIf_eq_ok.mp hsender), by simpa using revertIf_eq_ok.mp hallow,
    h⟩

theorem recoveryTransition_internal (hp : c.Paired) {target : FacilityState}
    (hA : target = .active → id ∈ E.activated) (h : c.recoveryTransition d reg m id target = .ok c') :
    Internal d m.now E c c' :=
  setFacilityState_internal (recoveryTransition_ok h).2.2 hp hA

theorem syncRepaid_ok (h : c.syncRepaid d m id = .ok c') :
    c.pool.ledger.legalDebtAt id m.now = .ok 0 ∧
    (c' = c ∨ c.setFacilityState d m id .repaid = .ok c') := by
  unfold syncRepaid at h
  obtain ⟨_, -, h⟩ := bind_eq_ok.mp h
  obtain ⟨debt, hdebt, h⟩ := bind_eq_ok.mp h
  obtain ⟨_, hzero, h⟩ := bind_eq_ok.mp h
  obtain rfl : debt = 0 := Classical.not_not.mp (revertIf_eq_ok.mp hzero)
  refine ⟨hdebt, ?_⟩
  split at h
  · exact .inr h
  · exact .inl (pure_eq_ok.mp h).symm

theorem syncRepaid_internal (hp : c.Paired) (h : c.syncRepaid d m id = .ok c') :
    Internal d m.now E c c' := by
  obtain ⟨-, rfl | hset⟩ := syncRepaid_ok h
  · exact .refl hp
  · exact setFacilityState_internal hset hp (fun ht => by cases ht)

theorem freezeDraws_internal (hp : c.Paired) (h : c.freezeDraws d m id = .ok c') :
    Internal d m.now E c c' := by
  unfold freezeDraws at h
  obtain ⟨_, -, h⟩ := bind_eq_ok.mp h
  obtain ⟨_, -, h⟩ := bind_eq_ok.mp h
  obtain ⟨_, -, h⟩ := bind_eq_ok.mp h
  exact setFacilityState_internal h hp (fun ht => by cases ht)

theorem openFacility_internal (hp : c.Paired) {borrowerId : Bytes32} {wallet : Address}
    {terms : Terms} {controlAgreementId : Bytes32} {controlVersion : Nat}
    (h : c.openFacility d reg m id borrowerId wallet terms controlAgreementId controlVersion =
      .ok c') : Internal d m.now E c c' := by
  unfold openFacility at h
  obtain ⟨_, -, h⟩ := bind_eq_ok.mp h
  obtain ⟨_, -, h⟩ := bind_eq_ok.mp h
  obtain ⟨_, -, h⟩ := bind_eq_ok.mp h
  obtain ⟨_, -, h⟩ := bind_eq_ok.mp h
  obtain ⟨_, -, h⟩ := bind_eq_ok.mp h
  split at h
  · cases h
  · obtain ⟨_, -, h⟩ := bind_eq_ok.mp h
    obtain ⟨_, -, h⟩ := bind_eq_ok.mp h
    obtain ⟨_, -, h⟩ := bind_eq_ok.mp h
    obtain ⟨l, hl, h⟩ := bind_eq_ok.mp h
    refine Internal.trans ?_ (setFacilityState_internal h hp (fun ht => by cases ht))
    refine ⟨trace_ledger d.manager_ne (.openFacility id terms) trivial hl, rfl, rfl, rfl, hp,
      fun i hi => ?_⟩
    by_cases hid : i = id
    · subst hid
      simp at hi
    · exact .inl (by simpa [Function.update_of_ne hid] using hi)

/-! ### Calls that move nothing but their own storage -/

theorem pauseDraws_internal (hp : c.Paired) {paused : Bool} (h : c.pauseDraws m paused = .ok c') :
    Internal d now E c c' := by
  unfold pauseDraws at h
  obtain ⟨_, -, h⟩ := bind_eq_ok.mp h
  obtain ⟨_, -, h⟩ := bind_eq_ok.mp h
  obtain rfl := pure_eq_ok.mp h
  exact ⟨.refl _, rfl, rfl, rfl, hp, fun _ hi => .inl hi⟩

theorem approveDrawResume_internal (hp : c.Paired) (h : c.approveDrawResume m = .ok c') :
    Internal d now E c c' := by
  unfold approveDrawResume at h
  obtain ⟨_, -, h⟩ := bind_eq_ok.mp h
  obtain rfl := pure_eq_ok.mp h
  exact ⟨.refl _, rfl, rfl, rfl, hp, fun _ hi => .inl hi⟩

theorem anchorAuthorization_internal (hp : c.Paired) {auth : CreditAuthorization}
    {approval : SupplementaryAssertion} (h : c.anchorAuthorization d reg m auth approval = .ok c') :
    Internal d now E c c' := by
  unfold anchorAuthorization at h
  obtain ⟨_, -, h⟩ := bind_eq_ok.mp h
  obtain ⟨_, -, h⟩ := bind_eq_ok.mp h
  obtain ⟨_, -, h⟩ := bind_eq_ok.mp h
  obtain ⟨verifier, -, h⟩ := bind_eq_ok.mp h
  obtain ⟨_, -, h⟩ := bind_eq_ok.mp h
  obtain ⟨_, -, h⟩ := bind_eq_ok.mp h
  obtain ⟨_, -, h⟩ := bind_eq_ok.mp h
  obtain ⟨_, -, h⟩ := bind_eq_ok.mp h
  obtain ⟨epoch, -, h⟩ := bind_eq_ok.mp h
  obtain rfl := pure_eq_ok.mp h
  exact ⟨.refl _, rfl, rfl, rfl, hp, fun _ hi => .inl hi⟩

theorem enrollFacility_internal (hp : c.Paired) {groupId : Bytes32}
    (h : c.enrollFacility reg m id groupId = .ok c') : Internal d now E c c' := by
  unfold enrollFacility at h
  obtain ⟨_, -, h⟩ := bind_eq_ok.mp h
  obtain ⟨_, -, h⟩ := bind_eq_ok.mp h
  obtain ⟨_, -, h⟩ := bind_eq_ok.mp h
  obtain ⟨_, -, h⟩ := bind_eq_ok.mp h
  obtain ⟨_, -, h⟩ := bind_eq_ok.mp h
  obtain rfl := pure_eq_ok.mp h
  exact ⟨.refl _, rfl, rfl, rfl, hp, fun _ hi => .inl hi⟩

theorem setAuthorization_internal (hp : c.Paired) {limit controlVersion validUntil : Nat}
    {policyVersionId controlAgreementId : Bytes32}
    (h : c.setAuthorization reg m id limit policyVersionId controlAgreementId controlVersion
      validUntil = .ok c') : Internal d now E c c' := by
  unfold setAuthorization at h
  obtain ⟨_, -, h⟩ := bind_eq_ok.mp h
  obtain ⟨_, -, h⟩ := bind_eq_ok.mp h
  obtain ⟨_, -, h⟩ := bind_eq_ok.mp h
  obtain ⟨_, -, h⟩ := bind_eq_ok.mp h
  obtain ⟨_, -, h⟩ := bind_eq_ok.mp h
  obtain ⟨epoch, -, h⟩ := bind_eq_ok.mp h
  obtain rfl := pure_eq_ok.mp h
  exact ⟨.refl _, rfl, rfl, rfl, hp, fun _ hi => .inl hi⟩

/-! ### Reservations -/

/-- A reservation that only changed its state is still paired. -/
theorem Paired.setState (hp : c.Paired) {rid : Bytes32} {next : ReservationState}
    {reserved : FacilityId → Nat} (hne : (c.exposure.reservations rid).state = .active) :
    Paired { c with exposure := { c.exposure with
      reservations := Function.update c.exposure.reservations rid
        { c.exposure.reservations rid with state := next }
      reserved := reserved } } := by
  intro i
  by_cases hi : i = rid
  · subst hi
    rcases hp i with hnone | hpair
    · rw [hne] at hnone
      cases hnone
    · exact .inr (by simpa using hpair)
  · simpa [Function.update_of_ne hi] using hp i

theorem releaseReservation_internal (hp : c.Paired) {rid : Bytes32} {next : ReservationState}
    (h : c.releaseReservation rid next = .ok c') : Internal d now E c c' := by
  unfold releaseReservation at h
  obtain ⟨_, hactive, h⟩ := bind_eq_ok.mp h
  obtain ⟨reserved, -, h⟩ := bind_eq_ok.mp h
  obtain rfl := pure_eq_ok.mp h
  have hactive := Classical.not_not.mp (revertIf_eq_ok.mp hactive)
  exact ⟨.refl _, rfl, rfl, rfl, hp.setState hactive, fun _ hi => .inl hi⟩

theorem cancelReservation_internal (hp : c.Paired) {rid : Bytes32}
    (h : c.cancelReservation m rid = .ok c') : Internal d now E c c' := by
  unfold cancelReservation at h
  obtain ⟨_, -, h⟩ := bind_eq_ok.mp h
  exact releaseReservation_internal hp h

theorem expireReservation_internal (hp : c.Paired) {rid : Bytes32}
    (h : c.expireReservation m rid = .ok c') : Internal d now E c c' := by
  unfold expireReservation at h
  obtain ⟨_, -, h⟩ := bind_eq_ok.mp h
  exact releaseReservation_internal hp h

/-- A reservation touches the controller only. -/
theorem reserve_ok {amount approvalNonce expiresAt : Nat} {rid : Bytes32}
    (h : c.reserve d reg m id amount approvalNonce expiresAt = .ok (rid, c')) :
    ∃ (nonceUsed : FacilityId → Nat → Bool) (r : Reservation) (reserved : FacilityId → Nat),
      r.facilityId = id ∧ c' = { c with exposure := { c.exposure with
        nonceUsed := nonceUsed
        reservations := Function.update c.exposure.reservations rid r
        reserved := reserved } } := by
  unfold reserve at h
  obtain ⟨_, -, h⟩ := bind_eq_ok.mp h
  obtain ⟨_, -, h⟩ := bind_eq_ok.mp h
  obtain ⟨_, -, h⟩ := bind_eq_ok.mp h
  obtain ⟨_, -, h⟩ := bind_eq_ok.mp h
  obtain ⟨_, -, h⟩ := bind_eq_ok.mp h
  obtain ⟨_, -, h⟩ := bind_eq_ok.mp h
  obtain ⟨p, -, h⟩ := bind_eq_ok.mp h
  obtain ⟨usable, -, h⟩ := bind_eq_ok.mp h
  obtain ⟨_, -, h⟩ := bind_eq_ok.mp h
  obtain ⟨_, -, h⟩ := bind_eq_ok.mp h
  obtain ⟨_, -, h⟩ := bind_eq_ok.mp h
  obtain ⟨ev, -, h⟩ := bind_eq_ok.mp h
  obtain ⟨_, -, h⟩ := bind_eq_ok.mp h
  obtain ⟨total, -, h⟩ := bind_eq_ok.mp h
  have hres := pure_eq_ok.mp h
  simp only [Prod.mk.injEq] at hres
  obtain ⟨rfl, rfl⟩ := hres
  exact ⟨_, _, _, rfl, rfl⟩

/-- The manager notes the facility of the reservation it makes, so the pairing is kept. -/
theorem reserveInternal_ok (hp : c.Paired) {amount expiresAt : Nat} {rid : Bytes32}
    (h : c.reserveInternal d reg m id amount expiresAt = .ok (rid, c')) :
    Internal d now E c c' ∧ c'.pool = c.pool := by
  unfold reserveInternal at h
  obtain ⟨_, -, h⟩ := bind_eq_ok.mp h
  obtain ⟨_, -, h⟩ := bind_eq_ok.mp h
  obtain ⟨_, -, h⟩ := bind_eq_ok.mp h
  obtain ⟨_, -, h⟩ := bind_eq_ok.mp h
  obtain ⟨ev, -, h⟩ := bind_eq_ok.mp h
  obtain ⟨_, -, h⟩ := bind_eq_ok.mp h
  obtain ⟨_, -, h⟩ := bind_eq_ok.mp h
  obtain ⟨cash, -, h⟩ := bind_eq_ok.mp h
  obtain ⟨_, -, h⟩ := bind_eq_ok.mp h
  obtain ⟨nonce, -, h⟩ := bind_eq_ok.mp h
  obtain ⟨⟨rid', q⟩, hq, h⟩ := bind_eq_ok.mp h
  obtain ⟨nonceUsed, r, reserved, hid, rfl⟩ := reserve_ok hq
  have hres := pure_eq_ok.mp h
  simp only [Prod.mk.injEq] at hres
  obtain ⟨rfl, rfl⟩ := hres
  refine ⟨⟨.refl _, rfl, rfl, rfl, fun i => ?_, fun _ hi => .inl hi⟩, rfl⟩
  by_cases hi : i = rid'
  · subst hi
    exact .inr (by simp [hid])
  · simpa [Function.update_of_ne hi] using hp i

theorem reserveDraw_internal (hp : c.Paired) {amount ttl : Nat} {rid : Bytes32}
    (h : c.reserveDraw d reg m id amount ttl = .ok (rid, c')) : Internal d now E c c' := by
  unfold reserveDraw at h
  obtain ⟨_, -, h⟩ := bind_eq_ok.mp h
  obtain ⟨expiresAt, -, h⟩ := bind_eq_ok.mp h
  exact (reserveInternal_ok hp h).1

/-! ### Draws -/

/-- Consuming a reservation records its amount on the ledger of its facility. -/
theorem consumeReservation_ok {rid : Bytes32} (h : c.consumeReservation d reg m rid = .ok c') :
    c.exposure.isManager m.sender = true ∧
    (c.exposure.reservations rid).state = .active ∧
    ∃ l reserved, c.pool.ledger.recordDraw (m.calledBy d.exposure)
        (c.exposure.reservations rid).facilityId (c.exposure.reservations rid).amount = .ok l ∧
      c' = { c with
        pool := { c.pool with ledger := l }
        exposure := { c.exposure with
          reservations := Function.update c.exposure.reservations rid
            { c.exposure.reservations rid with state := .consumed }
          reserved := reserved } } := by
  unfold consumeReservation at h
  obtain ⟨_, hman, h⟩ := bind_eq_ok.mp h
  obtain ⟨_, hactive, h⟩ := bind_eq_ok.mp h
  obtain ⟨_, -, h⟩ := bind_eq_ok.mp h
  obtain ⟨_, -, h⟩ := bind_eq_ok.mp h
  obtain ⟨_, -, h⟩ := bind_eq_ok.mp h
  obtain ⟨p, -, h⟩ := bind_eq_ok.mp h
  obtain ⟨usable, -, h⟩ := bind_eq_ok.mp h
  obtain ⟨_, -, h⟩ := bind_eq_ok.mp h
  obtain ⟨reserved, -, h⟩ := bind_eq_ok.mp h
  obtain ⟨ev, -, h⟩ := bind_eq_ok.mp h
  obtain ⟨_, -, h⟩ := bind_eq_ok.mp h
  obtain ⟨l, hl, h⟩ := bind_eq_ok.mp h
  obtain rfl := pure_eq_ok.mp h
  exact ⟨by simpa using revertIf_eq_ok.mp hman, Classical.not_not.mp (revertIf_eq_ok.mp hactive),
    l, _, hl, rfl⟩

/-- A draw: the reserved amount is recorded for the facility and lent to its wallet. -/
theorem executeInternal_ok (hp : c.Paired) {rid : Bytes32} {minReceived : Nat}
    (h : c.executeInternal d reg m rid minReceived = .ok c') :
    Internal d m.now E c c' ∧
    ∃ l, c.pool.ledger.recordDraw (m.calledBy d.exposure) (c.manager.reservationFacility rid)
        (c.exposure.reservations rid).amount = .ok l ∧
      Pool.lend (m.calledBy d.manager) (c.manager.reservationFacility rid)
        (c.manager.facilities (c.manager.reservationFacility rid)).wallet
        (c.exposure.reservations rid).amount { c.pool with ledger := l } = .ok c'.pool := by
  unfold executeInternal at h
  obtain ⟨_, -, h⟩ := bind_eq_ok.mp h
  obtain ⟨_, -, h⟩ := bind_eq_ok.mp h
  obtain ⟨_, -, h⟩ := bind_eq_ok.mp h
  obtain ⟨q, hq, h⟩ := bind_eq_ok.mp h
  obtain ⟨-, hactive, l, reserved, hl, rfl⟩ := consumeReservation_ok hq
  obtain ⟨pool, hlend, h⟩ := bind_eq_ok.mp h
  obtain ⟨received, -, h⟩ := bind_eq_ok.mp h
  obtain ⟨_, -, h⟩ := bind_eq_ok.mp h
  obtain ⟨_, -, h⟩ := bind_eq_ok.mp h
  obtain rfl := pure_eq_ok.mp h
  -- The ledger records the draw for the facility the controller has, the vault pays for the one
  -- the manager has: the pairing makes them one.
  have hpair : c.manager.reservationFacility rid = (c.exposure.reservations rid).facilityId := by
    rcases hp rid with hnone | hpair
    · rw [hactive] at hnone
      cases hnone
    · exact hpair
  rw [← hpair] at hl
  exact ⟨⟨.single (.draw m rfl hl hlend), rfl, rfl, rfl, hp.setState hactive,
    fun _ hi => .inl hi⟩, l, hl, hlend⟩

/-- `borrow` is a reservation and its execution in one transaction. -/
theorem borrow_ok (hp : c.Paired) {amount minReceived : Nat}
    (h : c.borrow d reg m id amount minReceived = .ok c') :
    ∃ rid c₁, Internal d m.now E c c₁ ∧ c₁.pool = c.pool ∧
      c₁.executeInternal d reg m rid minReceived = .ok c' := by
  unfold borrow at h
  obtain ⟨expiresAt, -, h⟩ := bind_eq_ok.mp h
  obtain ⟨⟨rid, c₁⟩, hres, h⟩ := bind_eq_ok.mp h
  obtain ⟨hint, hpool⟩ := reserveInternal_ok hp hres
  exact ⟨rid, c₁, hint, hpool, h⟩

theorem borrow_internal (hp : c.Paired) {amount minReceived : Nat}
    (h : c.borrow d reg m id amount minReceived = .ok c') : Internal d m.now E c c' := by
  obtain ⟨rid, c₁, hint, -, hexec⟩ := borrow_ok hp h
  exact hint.trans (executeInternal_ok hint.paired hexec).1

/-! ### Repayments -/

/-- The pool after a repayment of `id` that `m.sender` brought in: the cash arrived, the split
`r` was recorded, and the mirror of the facility state may have been set. -/
def Repays (m : Msg) (id : FacilityId) (got requested : Nat) (r : RepayResult) (p p' : Pool) :
    Prop :=
  ∃ token p₁, p.Deposited m got token ∧
    Pool.repay m id got requested { p with token := token } = .ok (r, p₁) ∧
    (p' = p₁ ∨ ∃ (m' : Msg) (l : Ledger), p₁.ledger.setState m' id .repaid = .ok l ∧
      p' = { p₁ with ledger := l })

theorem pullToVault_ok {caller payer : Address} {amount got : Nat} {p p' : Pool}
    (h : pullToVault caller payer amount p = .ok (got, p')) (m : Msg) :
    ∃ token, p.Deposited (m.calledBy caller) got token ∧ p' = { p with token := token } := by
  unfold pullToVault at h
  split at h
  · cases h
  · rename_i token htoken
    obtain ⟨received, hrec, h⟩ := bind_eq_ok.mp h
    obtain ⟨hle, rfl⟩ := subW_eq_ok.mp hrec
    obtain ⟨_, -, h⟩ := bind_eq_ok.mp h
    have hres := pure_eq_ok.mp h
    simp only [Prod.mk.injEq] at hres
    obtain ⟨rfl, rfl⟩ := hres
    refine ⟨token, ⟨⟨.transferFrom payer p.vault.self amount, ?_⟩, by omega⟩, rfl⟩
    simp only [TokenCall.exec, Msg.calledBy, htoken]

theorem pushToVault_ok {amount got : Nat} {p p' : Pool}
    (h : pushToVault d amount p = .ok (got, p')) (m : Msg) :
    ∃ token, p.Deposited (m.calledBy d.router) got token ∧ p' = { p with token := token } := by
  unfold pushToVault at h
  split at h
  · cases h
  · rename_i token htoken
    obtain ⟨received, hrec, h⟩ := bind_eq_ok.mp h
    obtain ⟨hle, rfl⟩ := subW_eq_ok.mp hrec
    obtain ⟨_, -, h⟩ := bind_eq_ok.mp h
    have hres := pure_eq_ok.mp h
    simp only [Prod.mk.injEq] at hres
    obtain ⟨rfl, rfl⟩ := hres
    refine ⟨token, ⟨⟨.transfer p.vault.self amount, ?_⟩, by omega⟩, rfl⟩
    simp only [TokenCall.exec, Msg.calledBy, htoken]

/-- The recovery manager's count of allocations is its own storage. -/
theorem observeAllocation_ok {amount : Nat} (h : c.observeAllocation d m id amount = .ok c') :
    (m.sender = d.router ∨ m.sender = d.manager) ∧
    ∃ recovery, c' = { c with recovery := recovery } := by
  unfold observeAllocation at h
  obtain ⟨_, hs, h⟩ := bind_eq_ok.mp h
  obtain ⟨total, -, h⟩ := bind_eq_ok.mp h
  have hs := revertIf_eq_ok.mp hs
  exact ⟨by tauto, _, (pure_eq_ok.mp h).symm⟩

theorem reportAllocation_ok {amount : Nat} (h : c.reportAllocation d m id amount = .ok c') :
    ∃ recovery, c' = { c with recovery := recovery } := by
  unfold reportAllocation at h
  split at h
  · exact (observeAllocation_ok h).2
  · cases h
    exact ⟨c.recovery, rfl⟩

/-- `repayFor` of the manager. -/
theorem managerRepayFor_ok (hp : c.Paired) {amount : Nat} {r : RepayResult}
    (h : c.managerRepayFor d m id amount = .ok (r, c')) :
    Internal d m.now E c c' ∧
    ∃ got requested, Repays (m.calledBy d.manager) id got requested r c.pool c'.pool := by
  unfold managerRepayFor at h
  obtain ⟨_, -, h⟩ := bind_eq_ok.mp h
  obtain ⟨_, -, h⟩ := bind_eq_ok.mp h
  obtain ⟨⟨got, q⟩, hpull, h⟩ := bind_eq_ok.mp h
  obtain ⟨token, hdep, rfl⟩ := pullToVault_ok hpull m
  obtain ⟨⟨r', p₁⟩, hrepay, h⟩ := bind_eq_ok.mp h
  obtain ⟨c₁, hobs, h⟩ := bind_eq_ok.mp h
  obtain ⟨recovery, rfl⟩ := reportAllocation_ok hobs
  have hact : Internal d m.now E c { c with pool := p₁, recovery := recovery } :=
    .ofPool hp (.single (.repayment (m.calledBy d.manager) rfl d.manager_ne hdep hrepay))
      c.router recovery
  split at h
  · obtain ⟨c₂, hset, h⟩ := bind_eq_ok.mp h
    have hres := pure_eq_ok.mp h
    simp only [Prod.mk.injEq] at hres
    obtain ⟨rfl, rfl⟩ := hres
    refine ⟨hact.trans (setFacilityState_internal hset hp fun ht => by cases ht), got, got, token,
      p₁, hdep, hrepay, .inr ?_⟩
    obtain ⟨l, hl, rfl⟩ := setFacilityState_ok hset
    exact ⟨_, l, hl, rfl⟩
  · have hres := pure_eq_ok.mp h
    simp only [Prod.mk.injEq] at hres
    obtain ⟨rfl, rfl⟩ := hres
    exact ⟨hact, got, got, token, p₁, hdep, hrepay, .inl rfl⟩

/-- The common end of the router's repayments, on cash that the router brought in. -/
theorem applyReceived_ok {token : Token Address} {router : Router} {requested got : Nat}
    {r : RepayResult}
    (h : applyReceived d m id requested got { c with
      pool := { c.pool with token := token }, router := router } = .ok (r, c'))
    (hdep : c.pool.Deposited (m.calledBy d.router) got token) (hp : c.Paired) :
    Internal d m.now E c c' ∧
      Repays (m.calledBy d.router) id got requested r c.pool c'.pool := by
  unfold applyReceived at h
  obtain ⟨⟨r', p₁⟩, hrepay, h⟩ := bind_eq_ok.mp h
  have hact : PoolAction d m.now E.vaultCalls c.pool p₁ :=
    .repayment (m.calledBy d.router) rfl d.router_ne hdep hrepay
  dsimp only at h
  split at h
  · obtain ⟨c₁, hobs, h⟩ := bind_eq_ok.mp h
    obtain ⟨recovery, rfl⟩ := reportAllocation_ok hobs
    have hint : Internal d m.now E c
        { c with pool := p₁, router := router, recovery := recovery } :=
      .ofPool hp (.single hact) router recovery
    split at h
    · obtain ⟨c₂, hsync, h⟩ := bind_eq_ok.mp h
      have hres := pure_eq_ok.mp h
      simp only [Prod.mk.injEq] at hres
      obtain ⟨rfl, rfl⟩ := hres
      refine ⟨hint.trans (syncRepaid_internal hp hsync), token, p₁, hdep, hrepay, ?_⟩
      obtain ⟨-, rfl | hset⟩ := syncRepaid_ok hsync
      · exact .inl rfl
      · obtain ⟨l, hl, rfl⟩ := setFacilityState_ok hset
        exact .inr ⟨_, l, hl, rfl⟩
    · have hres := pure_eq_ok.mp h
      simp only [Prod.mk.injEq] at hres
      obtain ⟨rfl, rfl⟩ := hres
      exact ⟨hint, token, p₁, hdep, hrepay, .inl rfl⟩
  · have hres := pure_eq_ok.mp h
    simp only [Prod.mk.injEq] at hres
    obtain ⟨rfl, rfl⟩ := hres
    exact ⟨.ofPool hp (.single hact) router c.recovery, token, p₁, hdep, hrepay, .inl rfl⟩

theorem routerRepayFor_ok (hp : c.Paired) {amount : Nat} {r : RepayResult}
    (h : c.routerRepayFor d m id amount = .ok (r, c')) :
    Internal d m.now E c c' ∧
    ∃ got requested, Repays (m.calledBy d.router) id got requested r c.pool c'.pool := by
  unfold routerRepayFor at h
  obtain ⟨_, -, h⟩ := bind_eq_ok.mp h
  obtain ⟨debt, -, h⟩ := bind_eq_ok.mp h
  obtain ⟨⟨got, q⟩, hpull, h⟩ := bind_eq_ok.mp h
  obtain ⟨token, hdep, rfl⟩ := pullToVault_ok hpull m
  obtain ⟨hint, hrep⟩ := applyReceived_ok h hdep hp
  exact ⟨hint, got, _, hrep⟩

theorem repayExact_ok (hp : c.Paired) {maxAmount : Nat} {r : RepayResult}
    (h : c.repayExact d m id maxAmount = .ok (r, c')) :
    Internal d m.now E c c' ∧
    ∃ got requested, Repays (m.calledBy d.router) id got requested r c.pool c'.pool := by
  unfold repayExact at h
  obtain ⟨_, -, h⟩ := bind_eq_ok.mp h
  obtain ⟨debt, -, h⟩ := bind_eq_ok.mp h
  obtain ⟨⟨got, q⟩, hpull, h⟩ := bind_eq_ok.mp h
  obtain ⟨token, hdep, rfl⟩ := pullToVault_ok hpull m
  obtain ⟨hint, hrep⟩ := applyReceived_ok h hdep hp
  exact ⟨hint, got, _, hrep⟩

/-- Recording a settlement moves the cash from the sender to the router. -/
theorem recordReceipt_ok {settlementId : Bytes32} {amount got : Nat}
    (h : c.recordReceipt d m settlementId amount = .ok (got, c')) :
    ∃ token router, c.pool.token.transferFrom d.router m.sender d.router amount = some token ∧
      c' = { c with pool := { c.pool with token := token }, router := router } := by
  unfold recordReceipt at h
  obtain ⟨_, -, h⟩ := bind_eq_ok.mp h
  obtain ⟨_, -, h⟩ := bind_eq_ok.mp h
  split at h
  · cases h
  · rename_i token htoken
    obtain ⟨received, -, h⟩ := bind_eq_ok.mp h
    obtain ⟨_, -, h⟩ := bind_eq_ok.mp h
    have hres := pure_eq_ok.mp h
    simp only [Prod.mk.injEq] at hres
    obtain ⟨-, rfl⟩ := hres
    exact ⟨token, _, htoken, rfl⟩

theorem recordReceipt_internal (hp : c.Paired) {settlementId : Bytes32} {amount got : Nat}
    (h : c.recordReceipt d m settlementId amount = .ok (got, c')) : Internal d m.now E c c' := by
  obtain ⟨token, router, htoken, rfl⟩ := recordReceipt_ok h
  refine .ofPool hp (trace_token d.router_ne (.transferFrom m.sender d.router amount) ?_) router
    c.recovery
  simp only [TokenCall.exec, Msg.calledBy, htoken]

theorem allocateFromReceipt_ok (hp : c.Paired) {settlementId : Bytes32} {amount : Nat}
    {r : RepayResult} (h : c.allocateFromReceipt d m settlementId id amount = .ok (r, c')) :
    Internal d m.now E c c' ∧
    ∃ got requested, Repays (m.calledBy d.router) id got requested r c.pool c'.pool := by
  unfold allocateFromReceipt at h
  obtain ⟨_, -, h⟩ := bind_eq_ok.mp h
  obtain ⟨_, -, h⟩ := bind_eq_ok.mp h
  obtain ⟨allocated, -, h⟩ := bind_eq_ok.mp h
  obtain ⟨_, -, h⟩ := bind_eq_ok.mp h
  obtain ⟨debt, -, h⟩ := bind_eq_ok.mp h
  obtain ⟨⟨got, q⟩, hpush, h⟩ := bind_eq_ok.mp h
  obtain ⟨token, hdep, rfl⟩ := pushToVault_ok hpush m
  obtain ⟨hint, hrep⟩ := applyReceived_ok h hdep hp
  exact ⟨hint, got, _, hrep⟩

theorem claimRefund_internal (hp : c.Paired) (h : c.claimRefund d m id = .ok c') :
    Internal d m.now E c c' := by
  unfold claimRefund at h
  obtain ⟨_, -, h⟩ := bind_eq_ok.mp h
  obtain ⟨_, -, h⟩ := bind_eq_ok.mp h
  obtain ⟨_, -, h⟩ := bind_eq_ok.mp h
  obtain ⟨pool, hpool, h⟩ := bind_eq_ok.mp h
  obtain rfl := pure_eq_ok.mp h
  exact .ofPool hp (trace_vault d.manager_ne (.refundExcess id _ _) trivial hpool) _ _

theorem routerRefundExcess_internal (hp : c.Paired) {dst : Address}
    (h : c.routerRefundExcess d m id dst = .ok c') : Internal d m.now E c c' := by
  unfold routerRefundExcess at h
  obtain ⟨wallet, -, h⟩ := bind_eq_ok.mp h
  obtain ⟨_, -, h⟩ := bind_eq_ok.mp h
  obtain ⟨_, -, h⟩ := bind_eq_ok.mp h
  obtain ⟨_, -, h⟩ := bind_eq_ok.mp h
  obtain ⟨pool, hpool, h⟩ := bind_eq_ok.mp h
  obtain rfl := pure_eq_ok.mp h
  exact .ofPool hp (trace_vault d.router_ne (.refundExcess id _ _) trivial hpool) _ _

end Credit

end Rackline
