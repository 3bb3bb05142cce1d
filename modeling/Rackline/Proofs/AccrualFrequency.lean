import Rackline.Proofs.LedgerBounds

/-!
# `Rackline.Proofs.AccrualFrequency`: extra accruals change nothing

Every operation accrues before it reads the facility. To accrue to `t` and then to `now` is to accrue
to `now`: the two parts of the time add up to the whole, and the numerator is never rounded. So an
operation does the same to a facility and to that facility accrued to any time between
(`LedgerOp.body_accrued`), and it reverts with the same error when it reverts.
-/

set_option autoImplicit false

namespace Rackline

open Evm InterestMath Transition

namespace Facility

variable {f : Facility} {t now : Nat}

/-- Accruing in two parts is accruing at once. -/
theorem accrued_accrued (ht : f.lastAccrualAt ≤ t) (hnow : t ≤ now) :
    (f.accrued t).accrued now = f.accrued now := by
  have hsplit : now - f.lastAccrualAt = (t - f.lastAccrualAt) + (now - t) := by omega
  have haccum : (f.accrued t).accumAt now = f.accumAt now := by
    unfold accrued accumAt
    by_cases hfrozen : f.frozen = true
    · simp [hfrozen]
    · simp only [if_neg hfrozen, hsplit, Nat.mul_add]
      omega
  show { f with interestAccum := (f.accrued t).accumAt now, lastAccrualAt := now } = _
  rw [haccum]
  rfl

theorem accrued_self : f.accrued f.lastAccrualAt = f := by
  have haccum : f.accumAt f.lastAccrualAt = f.interestAccum := by simp [accumAt]
  show { f with interestAccum := f.accumAt f.lastAccrualAt, lastAccrualAt := f.lastAccrualAt } = f
  rw [haccum]

end Facility

/-! ### One operation -/

/-- What the operation does to the storage struct of its facility. -/
def LedgerOp.body (now : Nat) (id : FacilityId) (f : Facility) :
    LedgerOp → Except Revert (Option RepayResult × Facility)
  | .accrue => (f.accrue now).map fun f => (none, f)
  | .setRate rateBps => (f.setRate now rateBps).map fun f => (none, f)
  | .recordDraw amount => (f.recordDraw now id amount).map fun f => (none, f)
  | .recordFee amount => (f.recordFee now amount).map fun f => (none, f)
  | .allocate received => (f.allocate now received).map fun p => (some p.1, p.2)
  | .freezeAccrual => (f.freezeAccrual now).map fun f => (none, f)
  | .capitalize => (f.capitalize now id).map fun f => (none, f)

/-- The operation on the ledger: its two modifiers, and the write of the struct. -/
def Ledger.operate (m : Msg) (id : FacilityId) (l : Ledger)
    (body : Facility → Except Revert (Option RepayResult × Facility)) :
    Except Revert (Option RepayResult × Ledger) := do
  revertIf (l.isWriter m.sender = false) (.notLedgerWriter m.sender)
  revertIf ((l.facilities id).exists_ = false) (.facilityUnknown id)
  let p ← body (l.facilities id)
  return (p.1, { l with facilities := Function.update l.facilities id p.2 })

section
variable {m : Msg} {id : FacilityId} {l l' : Ledger} {f f' : Facility} {op : LedgerOp} {t now : Nat}
  {result : Option RepayResult}

/-- An operation without a result. -/
theorem Ledger.operate_modify {body : Facility → Except Revert Facility} :
    (l.modifyFacility m id body).map (fun l => ((none : Option RepayResult), l)) =
      l.operate m id fun f => (body f).map fun f => (none, f) := by
  unfold modifyFacility operate
  by_cases hwriter : l.isWriter m.sender = false
  · rw [revertIf_bind_of _ hwriter, revertIf_bind_of _ hwriter]
    rfl
  rw [revertIf_of_not _ hwriter, ok_bind, ok_bind]
  by_cases hexists : (l.facilities id).exists_ = false
  · rw [revertIf_bind_of _ hexists, revertIf_bind_of _ hexists]
    rfl
  rw [revertIf_of_not _ hexists, ok_bind, ok_bind]
  show _ = ((body (l.facilities id)).map fun f => (none, f)) >>= _
  cases body (l.facilities id) with
  | error e => rfl
  | ok f => rfl

theorem LedgerOp.perform_eq : op.perform m id l = l.operate m id fun f => op.body m.now id f := by
  cases op with
  | accrue => exact Ledger.operate_modify
  | setRate rateBps => exact Ledger.operate_modify
  | recordDraw amount => exact Ledger.operate_modify
  | recordFee amount => exact Ledger.operate_modify
  | freezeAccrual => exact Ledger.operate_modify
  | capitalize => exact Ledger.operate_modify
  | allocate received =>
    show (l.allocate m id received).map _ = _
    unfold Ledger.allocate Ledger.operate
    by_cases hwriter : l.isWriter m.sender = false
    · rw [revertIf_bind_of _ hwriter, revertIf_bind_of _ hwriter]
      rfl
    rw [revertIf_of_not _ hwriter, ok_bind, ok_bind]
    by_cases hexists : (l.facilities id).exists_ = false
    · rw [revertIf_bind_of _ hexists, revertIf_bind_of _ hexists]
      rfl
    rw [revertIf_of_not _ hexists, ok_bind, ok_bind]
    show _ = (((l.facilities id).allocate m.now received).map fun p => (some p.1, p.2)) >>= _
    cases (l.facilities id).allocate m.now received with
    | error e => rfl
    | ok p => rfl

/-- An operation on a facility that was accrued in between. -/
theorem LedgerOp.body_accrued (h : f.Narrow) (ht : f.lastAccrualAt ≤ t) (hle : t ≤ now)
    (hnow : now < wordSize 64) : op.body now id (f.accrued t) = op.body now id f := by
  have heq : f.accrue now = .ok (f.accrued now) := h.accrue_eq (ht.trans hle) hnow
  have hmid : f.accrue t = .ok (f.accrued t) := h.accrue_eq ht (Nat.lt_of_le_of_lt hle hnow)
  have hnarrow : (f.accrued t).Narrow := h.accrue (Nat.lt_of_le_of_lt hle hnow) hmid
  -- Both accrue to the same struct, and what an operation reads before it accrues is the same.
  have hsame : (f.accrued t).accrue now = f.accrue now := by
    rw [hnarrow.accrue_eq hle hnow, Facility.accrued_accrued ht hle, heq]
  cases op with
  | accrue => exact congrArg (Except.map _) hsame
  | setRate rateBps =>
    refine congrArg (Except.map _) ?_
    unfold Facility.setRate
    rw [hsame]
  | recordDraw amount =>
    refine congrArg (Except.map _) ?_
    unfold Facility.recordDraw
    rw [hsame]
    rfl
  | recordFee amount =>
    refine congrArg (Except.map _) ?_
    unfold Facility.recordFee
    rw [hsame]
  | allocate received =>
    refine congrArg (Except.map _) ?_
    unfold Facility.allocate
    rw [hsame]
  | freezeAccrual =>
    refine congrArg (Except.map _) ?_
    unfold Facility.freezeAccrual
    rw [hsame]
  | capitalize =>
    refine congrArg (Except.map _) ?_
    unfold Facility.capitalize
    rw [hsame]
    rfl

/-- The ledger with the facility accrued to `t`. -/
def Ledger.accruedTo (l : Ledger) (id : FacilityId) (t : Nat) : Ledger :=
  { l with facilities := Function.update l.facilities id ((l.facilities id).accrued t) }

/-- An operation on the ledger whose facility was accrued in between. -/
theorem LedgerOp.perform_accruedTo (h : (l.facilities id).Narrow)
    (ht : (l.facilities id).lastAccrualAt ≤ t) (hle : t ≤ m.now) (hnow : m.now < wordSize 64) :
    op.perform m id (l.accruedTo id t) = op.perform m id l := by
  have hself : (l.accruedTo id t).facilities id = (l.facilities id).accrued t :=
    Function.update_self ..
  have hwrite : ∀ f, Function.update (l.accruedTo id t).facilities id f =
      Function.update l.facilities id f := by
    intro f
    exact Function.update_idem ..
  rw [LedgerOp.perform_eq, LedgerOp.perform_eq]
  unfold Ledger.operate
  simp only [hself, hwrite, LedgerOp.body_accrued h ht hle hnow]
  rfl

/-- An operation that succeeds leaves a facility of its time. -/
theorem LedgerOp.body_bounded (h : f.Bounded now) (hnow : now < wordSize 64) (htyped : op.Typed)
    (hrun : op.body now id f = .ok (result, f')) : f'.Bounded now ∧ f'.exists_ = f.exists_ := by
  cases op with
  | accrue =>
    obtain ⟨g, hg, heq⟩ := map_eq_ok.mp hrun
    cases heq
    obtain ⟨haccrued, hbounded⟩ := h.accrue hnow
    cases haccrued.symm.trans hg
    exact ⟨hbounded, rfl⟩
  | setRate rateBps =>
    obtain ⟨g, hg, heq⟩ := map_eq_ok.mp hrun
    cases heq
    obtain ⟨f₁, hset, hbounded⟩ := h.setRate hnow htyped
    cases hset.symm.trans hg
    exact ⟨hbounded, (Facility.setRate_spec hg).1.exists_⟩
  | recordDraw amount =>
    obtain ⟨g, hg, heq⟩ := map_eq_ok.mp hrun
    cases heq
    exact ⟨h.recordDraw hnow hg, (Facility.recordDraw_spec hg).1.exists_⟩
  | recordFee amount =>
    obtain ⟨g, hg, heq⟩ := map_eq_ok.mp hrun
    cases heq
    exact ⟨h.recordFee hnow hg, (Facility.recordFee_spec hg).1.exists_⟩
  | allocate received =>
    obtain ⟨⟨r, g⟩, hg, heq⟩ := map_eq_ok.mp hrun
    cases heq
    exact ⟨h.allocated hnow hg, (Facility.allocate_spec hg).1.exists_⟩
  | freezeAccrual =>
    obtain ⟨g, hg, heq⟩ := map_eq_ok.mp hrun
    cases heq
    obtain ⟨f₁, hfreeze, hbounded⟩ := h.freezeAccrual hnow
    cases hfreeze.symm.trans hg
    exact ⟨hbounded, (Facility.freezeAccrual_spec hg).1.exists_⟩
  | capitalize =>
    obtain ⟨g, hg, heq⟩ := map_eq_ok.mp hrun
    cases heq
    exact ⟨h.capitalize hnow hg, (Facility.capitalize_spec hg).1.exists_⟩

/-- A known facility of its time. -/
structure Ledger.Serves (l : Ledger) (id : FacilityId) (now : Nat) : Prop where
  known : (l.facilities id).exists_ = true
  bounded : (l.facilities id).Bounded now

theorem Ledger.Serves.later (h : l.Serves id t) (hle : t ≤ now) : l.Serves id now :=
  ⟨h.known, h.bounded.later hle⟩

/-- An operation keeps the facility known, and the writers. -/
theorem LedgerOp.perform_serves (h : l.Serves id m.now) (hnow : m.now < wordSize 64)
    (htyped : op.Typed) (hrun : op.perform m id l = .ok (result, l')) :
    l'.Serves id m.now ∧ l'.isWriter = l.isWriter := by
  rw [LedgerOp.perform_eq] at hrun
  obtain ⟨_, -, hrun⟩ := bind_eq_ok.mp hrun
  obtain ⟨_, -, hrun⟩ := bind_eq_ok.mp hrun
  obtain ⟨⟨r, g⟩, hbody, hrun⟩ := bind_eq_ok.mp hrun
  cases pure_eq_ok.mp hrun
  obtain ⟨hbounded, hkept⟩ := LedgerOp.body_bounded h.bounded hnow htyped hbody
  have hself : Function.update l.facilities id g id = g := Function.update_self ..
  refine ⟨⟨?_, ?_⟩, rfl⟩
  · show (Function.update l.facilities id g id).exists_ = true
    rw [hself, hkept]
    exact h.known
  · show (Function.update l.facilities id g id).Bounded m.now
    rw [hself]
    exact hbounded

/-! ### Accruals in between -/

theorem Ledger.accrue_accruedTo (h : l.Serves id m.now) (hnow : m.now < wordSize 64)
    (hwriter : l.isWriter m.sender = true) : l.accrue m id = .ok (l.accruedTo id m.now) := by
  show l.modifyFacility m id (fun f => f.accrue m.now) = _
  unfold modifyFacility
  rw [revertIf_of_not _ (by simp [hwriter]), ok_bind, revertIf_of_not _ (by simp [h.known]), ok_bind]
  show (l.facilities id).accrue m.now >>= _ = _
  rw [(h.bounded.accrue hnow).1]
  rfl

/-- Any number of accruals leaves the facility accrued to some time up to the last of them. -/
theorem accrueAll_accruedTo {ms : List Msg} (h : l.Serves id now)
    (hsorted : (now :: ms.map Msg.now).Pairwise (· ≤ ·)) (htimes : ∀ m ∈ ms, m.now < wordSize 64)
    (hwriters : ∀ m ∈ ms, l.isWriter m.sender = true) :
    ∃ t, (l.facilities id).lastAccrualAt ≤ t ∧
      (∀ stop, now ≤ stop → (∀ m ∈ ms, m.now ≤ stop) → t ≤ stop) ∧
      accrueAll id ms l = .ok (l.accruedTo id t) := by
  induction ms generalizing l now with
  | nil =>
    refine ⟨_, Nat.le_refl _, fun stop hstart _ => h.bounded.past.trans hstart, ?_⟩
    have hself : l.accruedTo id (l.facilities id).lastAccrualAt = l := by
      unfold Ledger.accruedTo
      rw [Facility.accrued_self, Function.update_eq_self]
    rw [hself]
    rfl
  | cons m rest ih =>
    obtain ⟨hfirst, hrest⟩ := List.pairwise_cons.mp hsorted
    have hpast : now ≤ m.now := hfirst m.now (List.mem_map_of_mem List.mem_cons_self)
    have hm : m.now < wordSize 64 := htimes m List.mem_cons_self
    have hlater := h.later hpast
    have hself : (l.accruedTo id m.now).facilities id = (l.facilities id).accrued m.now :=
      Function.update_self ..
    have hserves : (l.accruedTo id m.now).Serves id m.now := by
      refine ⟨?_, ?_⟩
      · rw [hself]
        exact h.known
      · rw [hself]
        exact (hlater.bounded.accrue hm).2
    obtain ⟨t, ht, hbefore, hrun⟩ := ih hserves hrest
      (fun p hp => htimes p (List.mem_cons_of_mem _ hp))
      fun p hp => hwriters p (List.mem_cons_of_mem _ hp)
    rw [hself] at ht
    refine ⟨t, hlater.bounded.past.trans ht, ?_, ?_⟩
    · intro stop _ hle
      exact hbefore stop (hle m List.mem_cons_self) fun p hp => hle p (List.mem_cons_of_mem _ hp)
    have hmerge : (l.accruedTo id m.now).accruedTo id t = l.accruedTo id t := by
      unfold Ledger.accruedTo
      simp only [Function.update_self, Function.update_idem,
        Facility.accrued_accrued hlater.bounded.past ht]
    unfold accrueAll
    rw [Ledger.accrue_accruedTo hlater hm (hwriters m List.mem_cons_self), ok_bind, hrun, hmerge]

/-- The conditions on a plan of operations and accruals: the times never go back and are `uint64`,
the rates are `uint32`, and the accruals are made by writers. -/
structure PlanTyped (l : Ledger) (now : Nat) (plan : List (List Msg × Msg × LedgerOp)) : Prop where
  sorted : (now :: callTimes plan).Pairwise (· ≤ ·)
  times : ∀ t ∈ callTimes plan, t < wordSize 64
  typed : ∀ p ∈ plan, p.2.2.Typed
  writers : ∀ p ∈ plan, ∀ m ∈ p.1, l.isWriter m.sender = true

/-- The plan and the bare operations do the same to the ledger, one after another, and fail alike. -/
theorem performAccruing_eq {plan : List (List Msg × Msg × LedgerOp)} (h : l.Serves id now)
    (hplan : PlanTyped l now plan) :
    performAccruing id plan l = performTrace id (plan.map Prod.snd) l := by
  induction plan generalizing l now with
  | nil => rfl
  | cons p rest ih =>
    obtain ⟨accruals, m, op⟩ := p
    have htimes : callTimes ((accruals, m, op) :: rest) =
        accruals.map Msg.now ++ m.now :: callTimes rest := by
      simp [callTimes]
    have hsorted := hplan.sorted
    rw [htimes] at hsorted
    have hm : m.now < wordSize 64 := hplan.times m.now (by simp [htimes])
    have hnow : now ≤ m.now := by
      exact (List.pairwise_cons.mp hsorted).1 m.now (by simp)
    have happend : ((now :: accruals.map Msg.now) ++ m.now :: callTimes rest).Pairwise (· ≤ ·) := hsorted
    obtain ⟨hbefore, hafter, hcross⟩ := List.pairwise_append.mp happend
    have hmembers : ∀ a ∈ accruals, a.now ∈ accruals.map Msg.now := fun a ha => List.mem_map_of_mem ha
    obtain ⟨t, ht, hstop, hrun⟩ := accrueAll_accruedTo h hbefore
      (fun a ha => hplan.times a.now (by simp [htimes, hmembers a ha]))
      (hplan.writers _ List.mem_cons_self)
    have hle : t ≤ m.now := hstop m.now hnow fun a ha =>
      hcross a.now (List.mem_cons_of_mem _ (hmembers a ha)) m.now List.mem_cons_self
    have hlater := h.later hnow
    have hsame : op.perform m id (l.accruedTo id t) = op.perform m id l :=
      LedgerOp.perform_accruedTo h.bounded.toNarrow ht hle hm
    rw [performAccruing, List.map_cons, performTrace, hrun, ok_bind, hsame]
    cases hop : op.perform m id l with
    | error e => rfl
    | ok p =>
      obtain ⟨result, l₁⟩ := p
      have hop_typed := hplan.typed _ List.mem_cons_self
      obtain ⟨hserves, hwriters⟩ := LedgerOp.perform_serves hlater hm hop_typed hop
      have hrest : PlanTyped l₁ m.now rest := by
        refine ⟨hafter, ?_, fun q hq => hplan.typed q (List.mem_cons_of_mem _ hq), ?_⟩
        · intro u hu
          exact hplan.times u (by simp [htimes, hu])
        · intro q hq a ha
          rw [hwriters]
          exact hplan.writers q (List.mem_cons_of_mem _ hq) a ha
      rw [ok_bind, ok_bind]
      show (do let trace ← performAccruing id rest l₁; _) = _
      rw [ih hserves hrest]

/-- The times of the operations are among the times of the plan, in order. -/
theorem callTimes_sublist {plan : List (List Msg × Msg × LedgerOp)} :
    ((plan.map Prod.snd).map fun p => p.1.now).Sublist (callTimes plan) := by
  induction plan with
  | nil => exact List.Sublist.refl _
  | cons p rest ih =>
    show (p.2.1.now :: (rest.map Prod.snd).map fun p => p.1.now).Sublist
      ((p.1.map Msg.now ++ [p.2.1.now]) ++ callTimes rest)
    rw [List.append_assoc]
    exact (ih.cons_cons p.2.1.now).trans (List.sublist_append_right _ _)

/-- After the operations the facility serves at the time of the last one. -/
theorem performTrace_serves {ops : List (Msg × LedgerOp)} {trace : List (Option RepayResult × Ledger)}
    (h : l.Serves id now) (hsorted : (now :: ops.map fun p => p.1.now).Pairwise (· ≤ ·))
    (hops : ∀ p ∈ ops, p.1.now < wordSize 64 ∧ p.2.Typed)
    (hrun : performTrace id ops l = .ok trace) :
    (lastLedger l trace).Serves id ((ops.getLast?.map fun p => p.1.now).getD now) ∧
      (lastLedger l trace).isWriter = l.isWriter := by
  induction ops generalizing l now trace with
  | nil =>
    cases hrun
    exact ⟨h, rfl⟩
  | cons p rest ih =>
    obtain ⟨m, op⟩ := p
    obtain ⟨hfirst, hrest⟩ := List.pairwise_cons.mp hsorted
    obtain ⟨⟨result, l₁⟩, hop, hrun⟩ := bind_eq_ok.mp hrun
    obtain ⟨tail, htail, hrun⟩ := bind_eq_ok.mp hrun
    cases pure_eq_ok.mp hrun
    obtain ⟨hm, htyped⟩ := hops _ List.mem_cons_self
    obtain ⟨hserves, hwriters⟩ := LedgerOp.perform_serves (h.later (hfirst _ List.mem_cons_self)) hm
      htyped hop
    obtain ⟨hlast, hkept⟩ := ih hserves hrest (fun q hq => hops q (List.mem_cons_of_mem _ hq)) htail
    have hledger : lastLedger l ((result, l₁) :: tail) = lastLedger l₁ tail := by
      cases tail with
      | nil => rfl
      | cons x xs => rfl
    have htime : ((((m, op) :: rest).getLast?.map fun p => p.1.now).getD now) =
        ((rest.getLast?.map fun p => p.1.now).getD m.now) := by
      cases rest with
      | nil => rfl
      | cons x xs => rfl
    rw [hledger, htime, hkept]
    exact ⟨hlast, hwriters⟩

/-- The views of a facility that was accrued before the time of the view. -/
theorem Ledger.views_accruedTo {u : Nat} (h : (l.facilities id).Narrow)
    (ht : (l.facilities id).lastAccrualAt ≤ t) (hle : t ≤ u) (hu : u < wordSize 64) :
    (l.accruedTo id t).unpaidInterestAt id u = l.unpaidInterestAt id u ∧
      (l.accruedTo id t).legalDebtAt id u = l.legalDebtAt id u := by
  have hself : (l.accruedTo id t).facilities id = (l.facilities id).accrued t :=
    Function.update_self ..
  have hmid : ((l.facilities id).accrued t).Narrow := by
    exact h.accrue (Nat.lt_of_le_of_lt hle hu) (h.accrue_eq ht (Nat.lt_of_le_of_lt hle hu))
  have haccum : ((l.facilities id).accrued t).accumAt u = (l.facilities id).accumAt u :=
    congrArg Facility.interestAccum (Facility.accrued_accrued ht hle)
  have hinterest : ((l.facilities id).accrued t).unpaidInterestAt u =
      (l.facilities id).unpaidInterestAt u := by
    rw [hmid.unpaidInterestAt hu, h.unpaidInterestAt hu, haccum]
  constructor
  · unfold unpaidInterestAt
    rw [hself, hinterest]
    rfl
  · unfold legalDebtAt
    rw [hself]
    unfold Facility.legalDebtAt
    rw [hinterest]
    rfl

end

/-- From every state that a run of the ledger reaches, for every facility: a sequence of operations
with `accrue` calls of writers in between returns and leaves the same after each operation as the
operations alone, and it fails where they fail. `accrue` calls after the last operation change no view
at a later time. -/
theorem accrual_frequency {s : LedgerState} (hreach : LedgerReachable s) {id : FacilityId}
    (hexists : (s.ledger.facilities id).exists_ = true) {plan : List (List Msg × Msg × LedgerOp)}
    (hplan : PlanTyped s.ledger s.now plan) :
    performAccruing id plan s.ledger = performTrace id (plan.map Prod.snd) s.ledger ∧
    ∀ trace, performTrace id (plan.map Prod.snd) s.ledger = .ok trace →
      ∀ after : List Msg, ((s.now :: callTimes plan) ++ after.map Msg.now).Pairwise (· ≤ ·) →
        (∀ m ∈ after, s.ledger.isWriter m.sender = true) →
        (∀ m ∈ after, m.now < wordSize 64) →
        ∃ l, accrueAll id after (lastLedger s.ledger trace) = .ok l ∧
          ∀ t < wordSize 64, (∀ u ∈ (s.now :: callTimes plan) ++ after.map Msg.now, u ≤ t) →
            l.legalDebtAt id t = (lastLedger s.ledger trace).legalDebtAt id t ∧
            l.unpaidInterestAt id t = (lastLedger s.ledger trace).unpaidInterestAt id t := by
  have hserves : s.ledger.Serves id s.now :=
    ⟨hexists, (LedgerState.Inv.reachable hreach).bounded id hexists⟩
  refine ⟨performAccruing_eq hserves hplan, ?_⟩
  intro trace htrace after hsorted hwriters htimes
  obtain ⟨hplanned, hafter, hcross⟩ := List.pairwise_append.mp hsorted
  have hsublist : (s.now :: (plan.map Prod.snd).map fun p => p.1.now).Sublist
      (s.now :: callTimes plan) := callTimes_sublist.cons_cons s.now
  have hops : ∀ p ∈ plan.map Prod.snd, p.1.now < wordSize 64 ∧ p.2.Typed := by
    intro p hp
    refine ⟨hplan.times _ (callTimes_sublist.subset (List.mem_map_of_mem hp)), ?_⟩
    obtain ⟨q, hq, rfl⟩ := List.mem_map.mp hp
    exact hplan.typed q hq
  obtain ⟨hlast, hkept⟩ := performTrace_serves hserves (hplanned.sublist hsublist) hops htrace
  -- The time of the last operation is one of the times of the plan.
  have hmem : (((plan.map Prod.snd).getLast?.map fun p => p.1.now).getD s.now) ∈
      s.now :: callTimes plan := by
    cases hgot : (plan.map Prod.snd).getLast? with
    | none => exact List.mem_cons_self
    | some p =>
      exact List.mem_cons_of_mem _ (callTimes_sublist.subset
        (List.mem_map_of_mem (List.mem_of_getLast? hgot)))
  have hsorted : ((((plan.map Prod.snd).getLast?.map fun p => p.1.now).getD s.now) ::
      after.map Msg.now).Pairwise (· ≤ ·) :=
    List.pairwise_cons.mpr ⟨fun u hu => hcross _ hmem u hu, hafter⟩
  obtain ⟨t₀, ht₀, hbefore, haccrued⟩ := accrueAll_accruedTo hlast hsorted htimes
    (fun m hm => by rw [hkept]; exact hwriters m hm)
  refine ⟨_, haccrued, fun t ht hpast => ?_⟩
  have hle : t₀ ≤ t := hbefore t (hpast _ (List.mem_append_left _ hmem)) fun m hm =>
    hpast _ (List.mem_append_right _ (List.mem_map_of_mem hm))
  have hviews := Ledger.views_accruedTo hlast.bounded.toNarrow ht₀ hle ht
  exact ⟨hviews.2, hviews.1⟩

/-- Two rate changes in one second, a payment that leaves a fraction of a unit, a freeze, with
accruals in between. -/
def Sample.plan : List (List Msg × Msg × LedgerOp) :=
  [([msg 7 172811, msg 7 180000], msg 7 190000, .setRate 500),
    ([msg 7 190000], msg 7 190000, .setRate 900),
    ([msg 7 190001, msg 7 250000], msg 7 300000, .allocate 400000),
    ([msg 7 300001], msg 7 359211, .freezeAccrual), ([], msg 7 400000, .allocate 2000000000)]

theorem accrual_frequency_sample : ∃ s, LedgerReachable s ∧ ∃ trace : List (Option RepayResult × Ledger),
    performTrace 5 (Sample.plan.map Prod.snd) s.ledger = .ok trace ∧
    performAccruing 5 Sample.plan s.ledger = .ok trace ∧ trace.length = 5 := by
  have hview : (do
      let s ← Sample.deployedLedger.run Sample.ledgerCalls
      let trace ← performTrace 5 (Sample.plan.map Prod.snd) s.ledger
      pure (trace.length, s.now, s.ledger.isWriter 7, (s.ledger.facilities 5).exists_) :
      Except Revert _).toOption = some (5, 172810, true, true) := by
    decide +kernel
  obtain ⟨s, hs, hview⟩ := bind_eq_ok.mp (toOption_eq_some.mp hview)
  obtain ⟨trace, htrace, hview⟩ := bind_eq_ok.mp hview
  have hview := pure_eq_ok.mp hview
  simp only [Prod.mk.injEq] at hview
  obtain ⟨hlength, hnow, hwriter, hexists⟩ := hview
  have hinitial : Sample.deployedLedger.Initial := rfl
  have hplan : PlanTyped s.ledger s.now Sample.plan := by
    refine ⟨?_, by decide +kernel, ?_, ?_⟩
    · rw [hnow]
      decide +kernel
    · simp [Sample.plan, LedgerOp.Typed, wordSize]
    · simp [Sample.plan, Sample.msg, hwriter]
  obtain ⟨hsame, -⟩ := accrual_frequency ⟨_, _, hinitial, LedgerState.run_steps hs⟩ hexists hplan
  exact ⟨s, ⟨_, _, hinitial, LedgerState.run_steps hs⟩, trace, htrace, hsame.trans htrace, hlength⟩

end Rackline
