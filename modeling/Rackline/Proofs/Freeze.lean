import Rackline.Proofs.CreditInvariant

/-!
# `Rackline.Proofs.Freeze`: who lifts a guardian freeze

The table gives the edge from `DRAW_FROZEN` to `ACTIVE` to an underwriter. `transition` checks
it. `recoveryTransition` walks the same table without its authorities, and `cure` asks it for
`ACTIVE` on behalf of anyone, whatever state the facility is in: a cure meant for a delinquent
facility also lifts a freeze.

Every other way to `ACTIVE` is closed, so the freeze is lifted by underwriters only exactly in
the runs where nobody cures a frozen facility that owes debt.
-/

set_option autoImplicit false

namespace Rackline

open Evm Transition

/-- The step takes the facility from `DRAW_FROZEN` to `ACTIVE`. -/
def Reopens (s s' : CreditState) (id : FacilityId) : Prop :=
  (s.credit.manager.facilities id).state = .drawFrozen ∧
    (s'.credit.manager.facilities id).state = .active

/-- The transaction is a `transition` of the facility to `ACTIVE` by an underwriter. -/
def LiftedByUnderwriter (tx : Tx) (id : FacilityId) : Prop :=
  tx.call = .manager (.transition id .active) ∧
    tx.msg.hasRole .underwriter tx.msg.sender = true

/-- The transaction is a `cure` of a facility that is frozen and owes debt. -/
def CuresFrozen (s : CreditState) (tx : Tx) : Prop :=
  ∃ id debt, tx.call = .recovery (.cure id) ∧
    (s.credit.manager.facilities id).state = .drawFrozen ∧
    s.credit.pool.ledger.legalDebtAt id tx.msg.now = .ok debt ∧ debt ≠ 0

section
variable {d : Deployment} {s s' : CreditState} {tx : Tx}

/-- `_setState` leaves the facility in its target state. -/
theorem Credit.setFacilityState_state {m : Msg} {c c' : Credit} {id : FacilityId}
    {target : FacilityState} (h : c.setFacilityState d m id target = .ok c') :
    (c'.manager.facilities id).state = target := by
  obtain ⟨l, -, rfl⟩ := Credit.setFacilityState_ok h
  simp

/-- A cure of a frozen facility with debt reopens it, and is no underwriter's transition. -/
theorem CuresFrozen.reopens (hc : CuresFrozen s tx) (h : CreditStep d s tx s') :
    ∃ id, Reopens s s' id ∧ ¬LiftedByUnderwriter tx id := by
  obtain ⟨id, debt, hcall, hfrozen, hdebt, hne⟩ := hc
  refine ⟨id, ⟨hfrozen, ?_⟩, fun hlift => ?_⟩
  · have hexec := h.2.2.1
    rw [hcall] at hexec
    obtain ⟨debt', c₁, sched, hdebt', hcases, hs'⟩ := Credit.cure_ok hexec
    rw [hdebt] at hdebt'
    obtain rfl := Except.ok.inj hdebt'
    rcases hcases with ⟨hz, -⟩ | ⟨-, htrans⟩
    · exact absurd hz hne
    · have hstate := Credit.setFacilityState_state (Credit.recoveryTransition_ok htrans).2.2
      rw [hs']
      exact hstate
  · have := hcall.symm.trans hlift.1
    cases this

/-- A step that reopens a facility is an underwriter's transition or a cure of a frozen
facility with debt. -/
theorem CreditStep.reopens_cases (hi : s.Inv d) (h : CreditStep d s tx s') {id : FacilityId}
    (hre : Reopens s s' id) : LiftedByUnderwriter tx id ∨ CuresFrozen s tx := by
  obtain ⟨hfrozen, hactive⟩ := hre
  have hmem : id ∈ tx.call.effects.activated := by
    rcases (h.internal hi).quiet id hactive with hold | hmem
    · rw [hfrozen] at hold
      cases hold
    · exact hmem
  have hexec := h.2.2.1
  unfold CreditCall.effects at hmem
  split at hmem
  · exact hmem.elim
  · rename_i id' target hcall
    obtain rfl : id = id' := hmem
    rw [hcall] at hexec
    obtain ⟨-, hauth, hset⟩ := Credit.transition_ok hexec
    obtain rfl : target = .active := (Credit.setFacilityState_state hset).symm.trans hactive
    refine .inl ⟨hcall, ?_⟩
    simpa [Credit.hasAuthority, hfrozen] using hauth
  · rename_i id' hcall
    obtain rfl : id = id' := hmem
    rw [hcall] at hexec
    obtain ⟨debt, c₁, sched, hdebt, hcases, hs'⟩ := Credit.cure_ok hexec
    rcases hcases with ⟨-, hsync⟩ | ⟨hne, -⟩
    · -- Without debt the facility goes to `REPAID` or stays.
      rw [hs'] at hactive
      have hquiet := (Credit.syncRepaid_internal (E := ⟨∅, ∅⟩) hi.wired.paired hsync).quiet id hactive
      rcases hquiet with hold | hempty
      · rw [hfrozen] at hold
        cases hold
      · exact hempty.elim
    · exact .inr ⟨id, debt, hcall, hfrozen, hdebt, hne⟩
  · exact hmem.elim

end

/-- In every run of the protocol, by any senders: every step from `DRAW_FROZEN` to `ACTIVE` is a
`transition` by an underwriter if and only if no step of the run cures a facility that is
frozen and owes debt. -/
theorem freeze_lifted_by_underwriter {d : Deployment} {s₀ : CreditState} (h₀ : s₀.Initial d)
    (txs : List Tx) :
    (∀ s tx s', StepOf (CreditStep d) s₀ txs s tx s' →
      ∀ id, Reopens s s' id → LiftedByUnderwriter tx id) ↔
    (∀ s tx s', StepOf (CreditStep d) s₀ txs s tx s' → ¬CuresFrozen s tx) := by
  constructor
  · intro hlift s tx s' hstep hcure
    obtain ⟨id, hre, hnot⟩ := hcure.reopens hstep.step
    exact hnot (hlift s tx s' hstep id hre)
  · intro hno s tx s' hstep id hre
    have hreach : CreditReachable d s := hstep.reachable h₀
    rcases hstep.step.reopens_cases hreach.inv hre with hlift | hcure
    · exact hlift
    · exact absurd hcure (hno s tx s' hstep)

/-- A facility with a schedule pays its installment and is frozen by the guardian. -/
def Sample.frozenFacility : List Tx :=
  activeFacility 1000 600 ++
    [tx 7 20 (.recovery (.setSchedule 5 100 50 10 200)),
      tx 9 30 (.router (.repayFor 5 200)),
      tx 7 40 (.manager (.freezeDraws 5))]

/-- An underwriter's transition lifts the freeze of the run, and the run has no cure. -/
theorem freeze_lifted_by_underwriter_sample :
    ∃ s tx s', StepOf (CreditStep Sample.protocol) Sample.creditDeployment
        (Sample.frozenFacility ++ [Sample.tx 7 50 (.manager (.transition 5 .active))]) s tx s' ∧
      Reopens s s' 5 ∧ LiftedByUnderwriter tx 5 := by
  obtain ⟨s, hrun, hfrozen⟩ := Sample.creditDeployment.run_view Sample.protocol
    Sample.frozenFacility (fun s => (s.credit.manager.facilities 5).state) (v := .drawFrozen)
    (by decide +kernel)
  obtain ⟨s', hrun', hactive⟩ := Sample.creditDeployment.run_view Sample.protocol
    (Sample.frozenFacility ++ [Sample.tx 7 50 (.manager (.transition 5 .active))])
    (fun s => (s.credit.manager.facilities 5).state) (v := .active) (by decide +kernel)
  have hstep := CreditState.run_last hrun hrun'
  refine ⟨s, _, s', hstep, ⟨hfrozen, hactive⟩, ?_⟩
  refine (freeze_lifted_by_underwriter Sample.creditDeployment_initial _).mpr ?_ s _ s' hstep 5
    ⟨hfrozen, hactive⟩
  rintro s tx s' ⟨pre, post, htxs, -, -⟩ ⟨id, debt, hcall, -⟩
  have hmem : tx.call ∈ (Sample.frozenFacility ++
      [Sample.tx 7 50 (.manager (.transition 5 .active))]).map Tx.call :=
    List.mem_map.mpr ⟨tx, by simp [htxs], rfl⟩
  rw [hcall] at hmem
  simp [Sample.frozenFacility, Sample.activeFacility, Sample.tx] at hmem

/-- An account without any role cures the frozen facility, which still owes 400. -/
theorem cure_lifts_guardian_freeze :
    ∃ s tx s', StepOf (CreditStep Sample.protocol) Sample.creditDeployment
        (Sample.frozenFacility ++ [Sample.tx 9 50 (.recovery (.cure 5))]) s tx s' ∧
      (∀ role, tx.msg.hasRole role tx.msg.sender = false) ∧ Reopens s s' 5 ∧
      ¬LiftedByUnderwriter tx 5 ∧
      (s'.credit.pool.ledger.legalDebtAt 5 s'.now).toOption = some 400 := by
  obtain ⟨s, hrun, hfrozen⟩ := Sample.creditDeployment.run_view Sample.protocol
    Sample.frozenFacility (fun s => (s.credit.manager.facilities 5).state) (v := .drawFrozen)
    (by decide +kernel)
  obtain ⟨s', hrun', hview⟩ := Sample.creditDeployment.run_view Sample.protocol
    (Sample.frozenFacility ++ [Sample.tx 9 50 (.recovery (.cure 5))])
    (fun s => ((s.credit.manager.facilities 5).state,
      (s.credit.pool.ledger.legalDebtAt 5 s.now).toOption)) (v := (.active, some 400))
    (by decide +kernel)
  have hstep := CreditState.run_last hrun hrun'
  obtain ⟨hactive, hdebt⟩ := Prod.mk.inj hview
  refine ⟨s, _, s', hstep, fun _ => rfl, ⟨hfrozen, hactive⟩, ?_, hdebt⟩
  rintro ⟨hcall, -⟩
  cases hcall

end Rackline
