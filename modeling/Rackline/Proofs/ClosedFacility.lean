import Rackline.Proofs.Lifecycle

/-!
# `Rackline.Proofs.ClosedFacility`: facilities that owe nothing

Two results about a debt of zero. A facility that is closed (`REPAID` or `RELEASED`) owes
nothing for good: no call raises a debt but a draw, and a draw finds its facility `ACTIVE`. And
a facility that has not been drawn yet owes nothing either, so that the permissionless paths
that close a repaid facility close it too: `syncRepaid`, the manager's `repayFor` and `cure` ask
for a debt of zero, not for a debt that was paid. The router's `repayFor` asks for a debt.
-/

set_option autoImplicit false

namespace Rackline

open Evm Transition Credit

/-! ### Closed facilities -/

/-- The states of a closed facility. -/
def FacilityState.closed : FacilityState → Bool
  | .repaid | .released => true
  | _ => false

/-- A facility that left `DRAFT` is known, and a closed one has an account that owes nothing. -/
structure Credit.Tidy (id : FacilityId) (c : Credit) : Prop where
  known : c.stateAt id ≠ .draft → (c.manager.facilities id).exists_ = true
  clean : (c.stateAt id).closed = true →
    (c.account id).exists_ = true ∧ ∀ t, (c.account id).debtAt t = 0

section
variable {d : Deployment} {m : Msg} {id : FacilityId} {call : CreditCall} {c c' : Credit}

/-- A change of state that ends in a closed state leaves no debt, or starts from a closed
state. -/
theorem StateChange.closed_debt {target : FacilityState} (h : StateChange d m id c c' call target)
    (hclosed : target.closed = true) :
    (c.stateAt id).closed = true ∨ (c'.account id).debtAt m.now = 0 := by
  cases h with
  | same => exact .inl hclosed
  | transition _ _ hdebt =>
    refine .inr (hdebt ?_)
    revert hclosed
    cases target <;> simp [FacilityState.closed]
  | settled _ _ hzero => exact .inr hzero
  | _ => cases hclosed

/-- `RELEASED` is left by no change of state, and `REPAID` only to `RELEASED`. -/
theorem StateChange.closed_stays {target : FacilityState} (h : StateChange d m id c c' call target)
    (ht : c.Tidy id) (hclosed : (c.stateAt id).closed = true) :
    target = c.stateAt id ∨ c.stateAt id = .repaid ∧ target = .released := by
  have hknown : (c.manager.facilities id).exists_ = true := by
    refine ht.known fun hdraft => ?_
    rw [hdraft] at hclosed
    cases hclosed
  -- Outside the table's one edge, each constructor asks for a state that is not closed.
  cases hstate : c.stateAt id with
  | repaid =>
    cases h with
    | same => exact .inl hstate
    | opened hnew _ => cases hknown.symm.trans hnew
    | @transition target hallow _ _ =>
      rw [hstate] at hallow
      exact .inr ⟨rfl, by simpa [isTransitionAllowed] using hallow⟩
    | freezeDraws hactive _ => cases hstate.symm.trans hactive
    | settled _ hsync _ =>
      rw [hstate] at hsync
      cases hsync
    | markDelinquent hallow _ | cure hallow _ | declareDefault hallow _ _ | beginRecovery hallow _
    | writeOff hallow _ =>
      rw [hstate] at hallow
      cases hallow
  | released =>
    cases h with
    | same => exact .inl hstate
    | opened hnew _ => cases hknown.symm.trans hnew
    | freezeDraws hactive _ => cases hstate.symm.trans hactive
    | settled _ hsync _ =>
      rw [hstate] at hsync
      cases hsync
    | transition hallow _ _ | markDelinquent hallow _ | cure hallow _ | declareDefault hallow _ _
    | beginRecovery hallow _ | writeOff hallow _ =>
      rw [hstate] at hallow
      cases hallow
  | _ =>
    rw [hstate] at hclosed
    cases hclosed

/-- A serviced facility stays tidy. -/
theorem Serviced.tidy (h : Serviced d m id call c c') (ht : c.Tidy id) : c'.Tidy id := by
  refine ⟨fun hne => ?_, fun hclosed => ?_⟩
  · by_cases hsame : c'.stateAt id = c.stateAt id
    · exact h.known (ht.known (hsame ▸ hne))
    · exact (h.moved hsame).1
  · have hzero : (c'.account id).debtAt m.now = 0 := by
      rcases h.change.closed_debt hclosed with hbefore | hzero
      · exact Nat.le_zero.mp ((ht.clean hbefore).2 m.now ▸ h.account.debt)
      · exact hzero
    refine ⟨?_, fun t => Facility.debtAt_eq_zero hzero t⟩
    by_cases hsame : c'.stateAt id = c.stateAt id
    · exact h.account.exists_ (ht.clean (hsame ▸ hclosed)).1
    · exact (h.moved hsame).2

/-- A draw leaves every facility tidy: its own is `ACTIVE`, the others are not touched. -/
theorem Credit.Drawn.tidy {now : Nat} {i : FacilityId} (h : Drawn now i c c') (ht : c.Tidy id) :
    c'.Tidy id := by
  have hstate : c'.stateAt id = c.stateAt id := by rw [stateAt, stateAt, h.facilities]
  refine ⟨fun hne => ?_, fun hclosed => ?_⟩
  · rw [h.facilities]
    exact ht.known (hstate ▸ hne)
  · rw [hstate] at hclosed
    have hi : id ≠ i := by
      rintro rfl
      rw [h.active] at hclosed
      cases hclosed
    rw [h.others id hi]
    exact ht.clean hclosed

end

/-- Every facility of every reachable state is tidy. -/
theorem CreditReachable.tidy {d : Deployment} {s : CreditState} (h : CreditReachable d s)
    (id : FacilityId) : s.credit.Tidy id := by
  refine (Reachable.invariant (P := fun s => s.Inv d ∧ s.credit.Tidy id) ?_ ?_ h).2
  · intro s hinit
    refine ⟨hinit.inv, ?_⟩
    obtain ⟨token, -, hs⟩ := hinit
    rw [hs]
    exact ⟨fun hne => absurd rfl hne, fun h => by cases h⟩
  · rintro s tx s' ⟨hi, ht⟩ hstep
    refine ⟨hstep.inv hi, ?_⟩
    rcases hstep.outcome hi with ⟨i, hdrawn⟩ | hserviced
    · exact hdrawn.tidy ht
    · exact (hserviced id).tidy ht

/-- In every reachable state a closed facility owes nothing, now and at every later time. A
transaction raises the principal of a facility only when the facility is `ACTIVE` before and
after it, never takes a facility out of `RELEASED`, and takes it out of `REPAID` only to
`RELEASED`. -/
theorem closed_facilities_owe_nothing {d : Deployment} {s : CreditState}
    (h : CreditReachable d s) (id : FacilityId) :
    ((s.credit.manager.facilities id).state = .repaid ∨
      (s.credit.manager.facilities id).state = .released →
        ∀ t, s.now ≤ t → s.credit.pool.ledger.legalDebtAt id t = .ok 0) ∧
    ∀ tx s', CreditStep d s tx s' →
      ((s.credit.pool.ledger.facilities id).principal <
          (s'.credit.pool.ledger.facilities id).principal →
        (s.credit.manager.facilities id).state = .active ∧
        (s'.credit.manager.facilities id).state = .active) ∧
      ((s.credit.manager.facilities id).state = .released →
        (s'.credit.manager.facilities id).state = .released) ∧
      ((s.credit.manager.facilities id).state = .repaid →
        (s'.credit.manager.facilities id).state = .repaid ∨
        (s'.credit.manager.facilities id).state = .released) := by
  have ht := h.tidy id
  refine ⟨fun hclosed t _ => ?_, fun tx s' hstep => ?_⟩
  · have hclosed : (s.credit.stateAt id).closed = true := by
      rcases hclosed with hr | hr
      · rw [stateAt, hr, FacilityState.closed]
      · rw [stateAt, hr, FacilityState.closed]
    obtain ⟨hx, hzero⟩ := ht.clean hclosed
    have hx : (s.credit.pool.ledger.facilities id).exists_ = true := hx
    unfold Ledger.legalDebtAt
    rw [revertIf_of_not _ (by simpa using hx), ok_bind]
    exact Facility.legalDebtAt_of_settled (hzero t) t
  · rcases hstep.outcome h.inv with ⟨i, hdrawn⟩ | hserviced
    · -- A draw keeps the states.
      rw [hdrawn.facilities]
      refine ⟨fun hlt => ?_, fun hr => hr, Or.inl⟩
      have hi : i = id := by
        by_contra hne
        have hsame := hdrawn.others id (Ne.symm hne)
        change (s.credit.account id).principal < (s'.credit.account id).principal at hlt
        rw [hsame] at hlt
        exact absurd hlt (Nat.lt_irrefl _)
      exact hi ▸ ⟨hdrawn.active, hdrawn.active⟩
    · have hserv := hserviced id
      refine ⟨fun hlt => absurd hserv.account.principal (Nat.not_le.mpr hlt), fun hr => ?_,
        fun hr => ?_⟩
      · rcases hserv.change.closed_stays ht (by rw [stateAt, hr, FacilityState.closed]) with
          hsame | ⟨hrepaid, -⟩
        · exact hsame.trans hr
        · cases hr.symm.trans hrepaid
      · rcases hserv.change.closed_stays ht (by rw [stateAt, hr, FacilityState.closed]) with
          hsame | ⟨-, hreleased⟩
        · exact .inl (hsame.trans hr)
        · exact .inr hreleased

/-- A facility that repaid its draw of 600 is `REPAID` and owes nothing a year later. -/
theorem closed_facilities_owe_nothing_sample :
    ∃ s, CreditReachable Sample.protocol s ∧
      (s.credit.manager.facilities 5).state = .repaid ∧
      s.credit.pool.ledger.legalDebtAt 5 (s.now + 31536000) = .ok 0 := by
  obtain ⟨s, hrun, hstate⟩ := Sample.creditDeployment.run_view Sample.protocol
    (Sample.activeFacility 1000 600 ++ [Sample.tx 9 10 (.router (.repayFor 5 600))])
    (fun s => (s.credit.manager.facilities 5).state) (v := .repaid) (by decide +kernel)
  have hreach : CreditReachable Sample.protocol s :=
    ⟨_, _, Sample.creditDeployment_initial, CreditState.run_steps hrun⟩
  exact ⟨s, hreach, hstate,
    (closed_facilities_owe_nothing hreach 5).1 (.inl hstate) _ (Nat.le_add_right _ _)⟩

/-! ### Facilities that were never drawn -/

/-- A transaction after which the principal of the facility is zero. -/
def UndrawnStep (d : Deployment) (id : FacilityId) (s : CreditState) (tx : Tx) (s' : CreditState) :
    Prop :=
  CreditStep d s tx s' ∧ (s'.credit.pool.ledger.facilities id).principal = 0

/-- A facility whose principal has never been positive owes nothing. -/
theorem UndrawnStep.reachable_debt {d : Deployment} {id : FacilityId} {s : CreditState}
    (h : Reachable (CreditState.Initial d) (UndrawnStep d id) s) (t : Nat) :
    (s.credit.account id).debtAt t = 0 := by
  refine (Reachable.invariant
    (P := fun s => s.Inv d ∧ ∀ t, (s.credit.account id).debtAt t = 0) ?_ ?_ h).2 t
  · intro s hinit
    refine ⟨hinit.inv, fun t => ?_⟩
    obtain ⟨token, -, hs⟩ := hinit
    rw [hs]
    exact (Facility.debtAt_eq_zero_iff _ t).mpr ⟨rfl, rfl, Nat.zero_div _⟩
  · rintro s tx s' ⟨hi, hzero⟩ ⟨hstep, hundrawn⟩
    refine ⟨hstep.inv hi, fun t => ?_⟩
    rcases hstep.outcome hi with ⟨i, hdrawn⟩ | hserviced
    · have hne : id ≠ i := by
        rintro rfl
        have hlt : (s.credit.account id).principal < (s'.credit.account id).principal :=
          hdrawn.principal
        rw [show (s'.credit.account id).principal = 0 from hundrawn] at hlt
        exact absurd hlt (Nat.not_lt_zero _)
      rw [hdrawn.others id hne]
      exact hzero t
    · have hle := (hserviced id).account.debt
      rw [hzero tx.msg.now] at hle
      exact Facility.debtAt_eq_zero (Nat.le_zero.mp hle) t

/-- The sender holds no protocol role and is not the wallet of the facility. -/
def Bystander (id : FacilityId) (s : CreditState) (m : Msg) : Prop :=
  (∀ role, m.hasRole role m.sender = false) ∧ m.sender ≠ (s.credit.manager.facilities id).wallet

/-- The permissionless calls that close a facility on a debt of zero without asking for a debt
before. -/
def ClosesUnused (id : FacilityId) (call : CreditCall) : Prop :=
  call = .manager (.syncRepaid id) ∨ (∃ amount, call = .manager (.repayFor id amount)) ∨
    call = .recovery (.cure id)

section
variable {d : Deployment} {s s' : CreditState} {tx : Tx} {id : FacilityId}

/-- On an `ACTIVE` facility without debt, those calls end in `REPAID`. -/
theorem ClosesUnused.repaid (hc : ClosesUnused id tx.call) (h : CreditStep d s tx s')
    (hactive : s.credit.stateAt id = .active)
    (hzero : (s.credit.account id).debtAt tx.msg.now = 0) : s'.credit.stateAt id = .repaid := by
  have hsync : FacilityState.syncs (s.credit.stateAt id) = true := by rw [hactive]; rfl
  have hexec := h.2.2.1
  rcases hc with hcall | ⟨amount, hcall⟩ | hcall
  · rw [hcall] at hexec
    exact (syncRepaid_repaid hexec).2.2 hsync
  · rw [hcall] at hexec
    obtain ⟨⟨r, c'⟩, hrepay, hc'⟩ := map_eq_ok.mp hexec
    obtain ⟨hrep, hdebt, hstate⟩ := managerRepayFor_repaid hrepay
    -- The debt was zero and falls no further, so the whole payment is excess.
    have hnew : r.newDebt = 0 := by
      have hle := hrep.serviced.debt
      rw [hzero, hdebt] at hle
      exact Nat.le_zero.mp hle
    rw [← hc']
    exact hstate hnew (by rw [hactive]; rfl)
  · rw [hcall] at hexec
    rcases cure_touches hexec with ⟨-, -, hstate⟩ | ⟨-, hne, -⟩
    · exact hstate hsync
    · exact absurd hzero hne

/-- The other calls that close a repaid facility ask for a debt or for a role. -/
theorem CreditCall.Settles.closesUnused {reg : Registries} {m : Msg} {c c' : Credit}
    {call : CreditCall} (hsettles : call.Settles id) (h : call.exec d reg m c = .ok c')
    (hnorole : ∀ {role : Role}, m.hasRole role m.sender ≠ true)
    (hzero : (c.account id).debtAt m.now = 0) : ClosesUnused id call := by
  have hleg : ∀ {u : Unit}, onlySettlementLeg m = .ok u → False := by
    intro u hu
    have hnot := revertIf_eq_ok.mp hu
    exact hnot ⟨by simpa using hnorole, by simpa using hnorole⟩
  have hdebt : ∀ {debt : Nat}, c.requireDebt id m.now = .ok debt → False := by
    intro debt hd
    unfold requireDebt at hd
    obtain ⟨debt', hdebt', hd⟩ := bind_eq_ok.mp hd
    obtain ⟨_, hne, -⟩ := bind_eq_ok.mp hd
    exact revertIf_eq_ok.mp hne ((Ledger.legalDebtAt_eq_ok hdebt').2.trans hzero)
  cases call with
  | manager call =>
    cases call with
    | syncRepaid i =>
      obtain rfl := hsettles
      exact .inl rfl
    | repayFor i amount =>
      obtain rfl := hsettles
      exact .inr (.inl ⟨amount, rfl⟩)
    | _ => exact hsettles.elim
  | router call =>
    cases call with
    | repayFor i amount =>
      obtain rfl := hsettles
      obtain ⟨⟨r, q⟩, hc, -⟩ := map_eq_ok.mp h
      unfold routerRepayFor at hc
      obtain ⟨_, -, hc⟩ := bind_eq_ok.mp hc
      obtain ⟨_, hd, -⟩ := bind_eq_ok.mp hc
      exact (hdebt hd).elim
    | repayExact i maxAmount =>
      obtain rfl := hsettles
      obtain ⟨⟨r, q⟩, hc, -⟩ := map_eq_ok.mp h
      unfold Credit.repayExact at hc
      obtain ⟨_, -, hc⟩ := bind_eq_ok.mp hc
      obtain ⟨_, hd, -⟩ := bind_eq_ok.mp hc
      exact (hdebt hd).elim
    | allocate settlementId i amount =>
      obtain ⟨⟨r, q⟩, hc, -⟩ := map_eq_ok.mp h
      unfold allocateSettlement at hc
      obtain ⟨_, hu, -⟩ := bind_eq_ok.mp hc
      exact (hleg hu).elim
    | receiveSettlement i settlementId amount =>
      obtain ⟨⟨r, q⟩, hc, -⟩ := map_eq_ok.mp h
      unfold Credit.receiveSettlement at hc
      obtain ⟨_, hu, -⟩ := bind_eq_ok.mp hc
      exact (hleg hu).elim
    | _ => exact hsettles.elim
  | recovery call =>
    cases call with
    | cure i =>
      obtain rfl := hsettles
      exact .inr (.inr rfl)
    | applyReserve i =>
      simp only [CreditCall.exec, RecoveryCall.exec, Credit.applyReserve] at h
      obtain ⟨_, hrole, -⟩ := bind_eq_ok.mp h
      exact absurd (by simpa using revertIf_eq_ok.mp hrole) hnorole
    | writeOff i lossId => exact absurd (recoveryWriteOff_touches h).1 hnorole
    | _ => exact hsettles.elim
  | _ => exact hsettles.elim

/-- A bystander's call that is none of those leaves an `ACTIVE` facility without debt alone. -/
theorem Bystander.stays_active (hb : Bystander id s tx.msg) (hi : s.Inv d)
    (h : CreditStep d s tx s') (hactive : s.credit.stateAt id = .active)
    (hzero : (s.credit.account id).debtAt tx.msg.now = 0) (hc : ¬ClosesUnused id tx.call) :
    s'.credit.stateAt id = .active := by
  rcases h.outcome hi with ⟨i, hdrawn⟩ | hserviced
  · rw [stateAt, hdrawn.facilities]
    exact hactive
  have hnorole : ∀ {role : Role}, tx.msg.hasRole role tx.msg.sender ≠ true := by
    intro role hrole
    cases (hb.1 role).symm.trans hrole
  obtain ⟨-, hsender, hexec, -⟩ := h
  have hchange := (hserviced id).change
  generalize hcall : tx.call = call at hchange hc hexec
  generalize htarget : s'.credit.stateAt id = target at hchange
  cases hchange with
  | same => exact hactive
  | opened _ hrole => exact absurd hrole hnorole
  | transition hallow hauth _ =>
    -- The edges from `ACTIVE` belong to the guardian and to the manager itself.
    have hm : tx.msg.sender ≠ d.manager := fun heq =>
      hsender (by simp [Deployment.contracts, heq])
    rw [hactive] at hallow hauth
    cases target <;> simp_all [isTransitionAllowed, hasAuthority]
  | freezeDraws _ hrole => exact absurd hrole hnorole
  | settled hsettles _ _ =>
    exact absurd (CreditCall.Settles.closesUnused hsettles hexec hnorole hzero) hc
  | markDelinquent _ hdebt => exact absurd hzero hdebt
  | cure _ _ => rfl
  | declareDefault _ hrole _ => exact absurd hrole hnorole
  | beginRecovery _ hrole => exact absurd hrole hnorole
  | writeOff _ hrole => exact absurd hrole hnorole

end

/-- On an `ACTIVE` facility that was never drawn, a call by a bystander leaves the facility
`ACTIVE` exactly when it is none of the calls that close a facility on a debt of zero. -/
theorem bystander_keeps_unused_facility {d : Deployment} {id : FacilityId} {s s' : CreditState}
    {tx : Tx} (h : Reachable (CreditState.Initial d) (UndrawnStep d id) s)
    (hactive : (s.credit.manager.facilities id).state = .active) (hb : Bystander id s tx.msg)
    (hstep : CreditStep d s tx s') :
    (s'.credit.manager.facilities id).state = .active ↔ ¬ClosesUnused id tx.call := by
  have hzero := UndrawnStep.reachable_debt h tx.msg.now
  have hi : s.Inv d :=
    CreditReachable.inv (h.mono fun _ _ _ hundrawn => hundrawn.1)
  constructor
  · intro hstays hc
    have hrepaid : (s'.credit.manager.facilities id).state = .repaid :=
      hc.repaid hstep hactive hzero
    cases hstays.symm.trans hrepaid
  · exact hb.stays_active hi hstep hactive hzero

/-- Facility 5 is opened, authorized and activated, and nothing is drawn. -/
def Sample.unusedFacility : List Tx := (activeFacility 1000 600).take 8

/-- The principal of facility 5 is zero all along that run. -/
theorem Sample.unusedFacility_undrawn {s : CreditState}
    (h : creditDeployment.run protocol unusedFacility = .ok s) :
    Reachable (CreditState.Initial protocol) (UndrawnStep protocol 5) s := by
  have hsteps := CreditState.run_along
    (fun s => decide ((s.credit.pool.ledger.facilities 5).principal = 0)) h (by decide +kernel)
  refine ⟨_, _, creditDeployment_initial, hsteps.mono ?_⟩
  intro s tx s' hstep
  exact ⟨hstep.1, of_decide_eq_true hstep.2⟩

/-- Account 8 pledges a reserve to the unused facility, which stays `ACTIVE`. -/
theorem bystander_keeps_unused_facility_sample :
    ∃ s tx s', CreditStep Sample.protocol s tx s' ∧ Bystander 5 s tx.msg ∧
      tx.call = .recovery (.fundReserve 5 100) ∧
      (s.credit.manager.facilities 5).state = .active ∧
      (s'.credit.manager.facilities 5).state = .active := by
  obtain ⟨s, hrun, hview⟩ := Sample.creditDeployment.run_view Sample.protocol
    Sample.unusedFacility (fun s => ((s.credit.manager.facilities 5).state,
      (s.credit.manager.facilities 5).wallet)) (v := (.active, 9)) (by decide +kernel)
  obtain ⟨s', hrun', -⟩ := Sample.creditDeployment.run_view Sample.protocol
    (Sample.unusedFacility ++ [Sample.tx 8 20 (.recovery (.fundReserve 5 100))])
    (fun _ => ()) (v := ()) (by decide +kernel)
  obtain ⟨hactive, hwallet⟩ := Prod.mk.inj hview
  have hstep := (CreditState.run_last hrun hrun').step
  have hb : Bystander 5 s (Sample.tx 8 20 (.recovery (.fundReserve 5 100))).msg :=
    ⟨fun _ => rfl, by rw [hwallet]; decide +kernel⟩
  refine ⟨s, _, s', hstep, hb, rfl, hactive, ?_⟩
  refine (bystander_keeps_unused_facility (Sample.unusedFacility_undrawn hrun) hactive hb
    hstep).mpr ?_
  rintro (hcall | ⟨amount, hcall⟩ | hcall) <;> cases hcall

/-- Account 8, which has no role and is not the wallet of facility 5, retires the unused
facility by `syncRepaid`. -/
theorem bystander_retires_unused_facility :
    ∃ s tx s', Reachable (CreditState.Initial Sample.protocol) (UndrawnStep Sample.protocol 5) s ∧
      CreditStep Sample.protocol s tx s' ∧ Bystander 5 s tx.msg ∧
      tx.call = .manager (.syncRepaid 5) ∧
      (s.credit.manager.facilities 5).state = .active ∧
      (s'.credit.manager.facilities 5).state = .repaid := by
  obtain ⟨s, hrun, hview⟩ := Sample.creditDeployment.run_view Sample.protocol
    Sample.unusedFacility (fun s => ((s.credit.manager.facilities 5).state,
      (s.credit.manager.facilities 5).wallet)) (v := (.active, 9)) (by decide +kernel)
  obtain ⟨s', hrun', hrepaid⟩ := Sample.creditDeployment.run_view Sample.protocol
    (Sample.unusedFacility ++ [Sample.tx 8 20 (.manager (.syncRepaid 5))])
    (fun s => (s.credit.manager.facilities 5).state) (v := .repaid) (by decide +kernel)
  obtain ⟨hactive, hwallet⟩ := Prod.mk.inj hview
  exact ⟨s, _, s', Sample.unusedFacility_undrawn hrun, (CreditState.run_last hrun hrun').step,
    ⟨fun _ => rfl, by rw [hwallet]; decide +kernel⟩, rfl, hactive, hrepaid⟩

end Rackline
