import Rackline.Proofs.Default

/-!
# `Rackline.Proofs.Schedules`: the next installment

`setSchedule` may not erase an installment that is overdue. It compares the due date with the clock
only, so it refuses to replace an installment that was paid before it was due as well: from its due
date on, a facility keeps the schedule it has (`next_installment`).
-/

set_option autoImplicit false

namespace Rackline

open Evm Transition

namespace Credit

variable {d : Deployment} {m : Msg} {c c' : Credit} {id : FacilityId}
  {dueAt grace disputeWindow dueAmount : Nat}

/-- What an underwriter needs for the next schedule of a performing facility, apart from the old due
date. -/
structure MaySchedule (m : Msg) (id : FacilityId) (dueAt grace disputeWindow dueAmount : Nat)
    (c : Credit) : Prop where
  underwriter : m.hasRole .underwriter m.sender = true
  active : c.stateAt id = .active
  paid : c.installmentPaid id m.now = .ok true
  approved : (c.recovery.schedules id).defaultApproved = false
  writtenOff : (c.recovery.schedules id).writtenOff = false
  future : m.now < dueAt
  positiveGrace : 0 < grace
  positiveAmount : 0 < dueAmount
  window : disputeWindow ≤ grace

/-- A new schedule is refused from the due date of the old one on, whoever asks. -/
theorem setSchedule_refused (hset : (c.recovery.schedules id).dueAt ≠ 0)
    (hdue : (c.recovery.schedules id).dueAt ≤ m.now) :
    c.setSchedule m id dueAt grace disputeWindow dueAmount ≠ .ok c' := by
  intro h
  obtain ⟨_, -, h⟩ := bind_eq_ok.mp h
  obtain ⟨_, -, h⟩ := bind_eq_ok.mp h
  obtain ⟨_, -, h⟩ := bind_eq_ok.mp h
  obtain ⟨_, -, h⟩ := bind_eq_ok.mp h
  obtain ⟨_, hopen, -⟩ := bind_eq_ok.mp h
  exact revertIf_eq_ok.mp hopen ⟨hset, .inl hdue⟩

/-- With everything else in order, the old due date and the width of the new dispute deadline decide. -/
theorem MaySchedule.iff (h : c.MaySchedule m id dueAt grace disputeWindow dueAmount)
    (hknown : (c.manager.facilities id).exists_ = true) :
    (∃ c', c.setSchedule m id dueAt grace disputeWindow dueAmount = .ok c') ↔
      ((c.recovery.schedules id).dueAt = 0 ∨ m.now < (c.recovery.schedules id).dueAt) ∧
        dueAt + disputeWindow < wordSize 64 := by
  constructor
  · rintro ⟨c', hrun⟩
    constructor
    · by_contra hpast
      have hset : (c.recovery.schedules id).dueAt ≠ 0 := fun hzero => hpast (.inl hzero)
      have hdue : (c.recovery.schedules id).dueAt ≤ m.now :=
        Nat.le_of_not_lt fun hlater => hpast (.inr hlater)
      exact setSchedule_refused hset hdue hrun
    · obtain ⟨_, -, hrun⟩ := bind_eq_ok.mp hrun
      obtain ⟨_, -, hrun⟩ := bind_eq_ok.mp hrun
      obtain ⟨_, -, hrun⟩ := bind_eq_ok.mp hrun
      obtain ⟨_, -, hrun⟩ := bind_eq_ok.mp hrun
      obtain ⟨_, -, hrun⟩ := bind_eq_ok.mp hrun
      obtain ⟨until_, hsum, -⟩ := bind_eq_ok.mp hrun
      obtain ⟨hfits, rfl⟩ := addW_eq_ok.mp hsum
      exact hfits
  · rintro ⟨hopen, hfits⟩
    have hstate : c.stateOf id = .ok .active := by
      unfold stateOf requireFacility
      rw [revertIf_of_not _ (by simp [hknown]), ok_bind]
      exact congrArg Except.ok h.active
    have hargs : ¬(dueAt ≤ m.now ∨ grace = 0 ∨ dueAmount = 0 ∨ disputeWindow > grace) := by
      have hfuture := h.future
      have hgrace := h.positiveGrace
      have hamount := h.positiveAmount
      have hwindow := h.window
      omega
    have hfree : ¬((c.recovery.schedules id).dueAt ≠ 0 ∧ ((c.recovery.schedules id).dueAt ≤ m.now ∨
        (c.recovery.schedules id).defaultApproved = true ∨
          (c.recovery.schedules id).writtenOff = true)) := by
      rw [h.approved, h.writtenOff]
      simp only [Bool.false_eq_true, or_false]
      omega
    unfold setSchedule
    rw [revertIf_of_not _ (by simp [h.underwriter]), ok_bind, hstate, ok_bind,
      revertIf_of_not _ (by simp), ok_bind, revertIf_of_not _ hargs, ok_bind,
      revertIf_of_not _ hfree, ok_bind, addW_eq_ok.mpr ⟨hfits, rfl⟩, ok_bind]
    exact ⟨_, rfl⟩

end Credit

open Credit

/-- In every state that a run reaches: for a performing facility with a paid installment, an
underwriter's `setSchedule` succeeds exactly when no schedule is set or the one that is set is not due
yet, and the new dispute deadline fits its word. No caller replaces a schedule that is past due and
unpaid. -/
theorem next_installment {d : Deployment} {s : CreditState} (hreach : CreditReachable d s) {m : Msg}
    {id : FacilityId} {dueAt grace disputeWindow dueAmount : Nat} :
    (s.credit.MaySchedule m id dueAt grace disputeWindow dueAmount →
      ((∃ c', s.credit.setSchedule m id dueAt grace disputeWindow dueAmount = .ok c') ↔
        ((s.credit.recovery.schedules id).dueAt = 0 ∨
            m.now < (s.credit.recovery.schedules id).dueAt) ∧
          dueAt + disputeWindow < wordSize 64)) ∧
    ((s.credit.recovery.schedules id).dueAt ≠ 0 → (s.credit.recovery.schedules id).dueAt ≤ m.now →
      s.credit.installmentPaid id m.now = .ok false →
      ∀ c', s.credit.setSchedule m id dueAt grace disputeWindow dueAmount ≠ .ok c') := by
  constructor
  · intro h
    refine h.iff ((CreditReachable.tidy hreach id).known ?_)
    simp [h.active]
  · intro hset hdue _ c'
    exact setSchedule_refused hset hdue

/-- An installment due at 20 that is paid in full at 15. -/
def Sample.paidInstallment : List Tx :=
  activeFacility 1000 600 ++
    [tx 7 10 (.recovery (.setSchedule 5 20 5 0 100)), tx 9 15 (.router (.repayExact 5 100))]

theorem Sample.paidInstallment_paid : ∃ s, CreditReachable protocol s ∧
    s.credit.stateAt 5 = .active ∧ (s.credit.recovery.schedules 5).dueAt = 20 ∧
    (s.credit.recovery.schedules 5).defaultApproved = false ∧
    (s.credit.recovery.schedules 5).writtenOff = false ∧
    s.credit.installmentPaid 5 18 = .ok true ∧ s.credit.installmentPaid 5 30 = .ok true := by
  obtain ⟨s, hs, hview⟩ := CreditState.run_view protocol creditDeployment paidInstallment
    (fun s => ((s.credit.stateAt 5, (s.credit.recovery.schedules 5).dueAt,
      (s.credit.recovery.schedules 5).defaultApproved, (s.credit.recovery.schedules 5).writtenOff),
      (s.credit.installmentPaid 5 18).toOption, (s.credit.installmentPaid 5 30).toOption))
    (v := ((.active, 20, false, false), some true, some true)) (by decide +kernel)
  simp only [Prod.mk.injEq] at hview
  obtain ⟨⟨hactive, hdue, happroved, hwritten⟩, hearly, hlate⟩ := hview
  exact ⟨s, ⟨_, _, creditDeployment_initial, CreditState.run_steps hs⟩, hactive, hdue, happroved,
    hwritten, toOption_eq_some.mp hearly, toOption_eq_some.mp hlate⟩

/-- Ten seconds after its due date the paid installment still blocks the next one. -/
theorem next_installment_fails : ∃ s, CreditReachable Sample.protocol s ∧
    s.credit.MaySchedule (Sample.tx 7 30 (.recovery (.cure 5))).msg 5 40 5 0 100 ∧
    ∀ c', s.credit.setSchedule (Sample.tx 7 30 (.recovery (.cure 5))).msg 5 40 5 0 100 ≠ .ok c' := by
  obtain ⟨s, hreach, hactive, hdue, happroved, hwritten, -, hpaid⟩ := Sample.paidInstallment_paid
  refine ⟨s, hreach, ⟨rfl, hactive, hpaid, happroved, hwritten, by decide, by decide, by decide,
    by decide⟩, fun c' => ?_⟩
  apply setSchedule_refused
  · rw [hdue]
    decide
  · rw [hdue]
    decide

/-- Two seconds before the due date the next installment can be set. -/
theorem next_installment_sample : ∃ s, CreditReachable Sample.protocol s ∧
    ∃ c', s.credit.setSchedule (Sample.tx 7 18 (.recovery (.cure 5))).msg 5 40 5 0 100 = .ok c' := by
  obtain ⟨s, hreach, hactive, hdue, happroved, hwritten, hpaid, -⟩ := Sample.paidInstallment_paid
  have hmay : s.credit.MaySchedule (Sample.tx 7 18 (.recovery (.cure 5))).msg 5 40 5 0 100 :=
    ⟨rfl, hactive, hpaid, happroved, hwritten, by decide, by decide, by decide, by decide⟩
  refine ⟨s, hreach, ((next_installment hreach).1 hmay).mpr ⟨.inr ?_, by decide⟩⟩
  rw [hdue]
  decide

end Rackline
