import Rackline.Reference
import Rackline.Proofs.Ledger

/-!
# `Rackline.Proofs.ReferenceLedger`: the ledger refines the reference model

`DebtLedger` keeps the current rate of a facility and accrues before every change of it. The
reference model keeps every rate segment and walks over them when it accrues. Both reach the same
numerator, because a rate change accrues first: at the last accrual, every segment has started
(`Started`). The walk from there has no boundary to stop at and meets the rate of the last
segment, which is the current rate (`accumulate_started`).

`Mirrors` relates a facility of the ledger to its reference. Each operation that the ledger
accepts is accepted by the reference and keeps the relation (`Mirrors.body`), so every sequence
of operations does (`Mirrors.performAll`).

The ledger counts in words, and the reference does not. A facility stays `Narrow`: its principal,
its rate and its times are words of 128, 32 and 64 bits, and the numerator is bounded by their
product. So the view of the ledger returns at every time.
-/

set_option autoImplicit false

namespace Rackline

open Evm InterestMath

/-! ### Segments that have all started -/

/-- The segments are in the order of their starts, all of them started at `t` or before, and the
last one has the rate `rate`. -/
structure Started (segments : List RateSegment) (t rate : Nat) : Prop where
  sorted : segments.Pairwise (fun a b => a.start < b.start)
  past : ∀ seg ∈ segments, seg.start ≤ t
  current : ∃ settled last, segments = settled ++ [last] ∧ last.rateBps = rate

namespace Started

variable {segments : List RateSegment} {t t' rate : Nat}

theorem single (t rate : Nat) : Started [{ start := t, rateBps := rate }] t rate := by
  refine ⟨List.pairwise_singleton _ _, ?_, [], _, rfl, rfl⟩
  intro seg hseg
  rw [List.mem_singleton.mp hseg]

theorem mono (h : Started segments t rate) (hle : t ≤ t') : Started segments t' rate :=
  ⟨h.sorted, fun seg hseg => (h.past seg hseg).trans hle, h.current⟩

/-- The segments before `now`, which a rate change at `now` keeps. -/
theorem push (h : Started segments t rate) (hle : t ≤ t') (rate' : Nat) :
    Started (segments.filter (fun seg => seg.start != t') ++ [{ start := t', rateBps := rate' }])
      t' rate' := by
  have hkept : ∀ seg ∈ segments.filter (fun seg => seg.start != t'), seg.start < t' := by
    intro seg hseg
    obtain ⟨hmem, hne⟩ := List.mem_filter.mp hseg
    have hpast := h.past seg hmem
    simp only [bne_iff_ne, ne_eq] at hne
    omega
  refine ⟨?_, ?_, _, _, rfl, rfl⟩
  · rw [List.pairwise_append]
    refine ⟨h.sorted.filter _, List.pairwise_singleton _ _, ?_⟩
    intro a ha b hb
    rw [List.mem_singleton.mp hb]
    exact hkept a ha
  · intro seg hseg
    rcases List.mem_append.mp hseg with hold | hnew
    · exact (hkept seg hold).le
    · rw [List.mem_singleton.mp hnew]

/-- What the contract does with the last segment: a rate change in the second of the last segment
replaces it, any other one is appended. -/
theorem replace (h : Started segments t rate) (hle : t ≤ t') (rate' : Nat) :
    ∃ last, segments.getLast? = some last ∧
      (if last.start = t' then segments.dropLast ++ [{ last with rateBps := rate' }]
        else segments ++ [{ start := t', rateBps := rate' }]) =
      segments.filter (fun seg => seg.start != t') ++ [{ start := t', rateBps := rate' }] := by
  obtain ⟨settled, last, rfl, -⟩ := h.current
  have hlast : last.start ≤ t' := (h.past last (by simp)).trans hle
  have hearlier : ∀ seg ∈ settled, seg.start < last.start := by
    intro seg hseg
    exact (List.pairwise_append.mp h.sorted).2.2 seg hseg last (List.mem_singleton_self last)
  -- No segment before the last starts at `t'`.
  have hsettled : settled.filter (fun seg => seg.start != t') = settled := by
    rw [List.filter_eq_self]
    intro seg hseg
    have := hearlier seg hseg
    simp only [bne_iff_ne, ne_eq]
    omega
  refine ⟨last, by simp, ?_⟩
  split
  · rename_i heq
    rw [List.dropLast_concat, List.filter_append, hsettled]
    simp [heq]
  · rename_i hne
    rw [List.filter_append, hsettled]
    simp [hne]

end Started

namespace Reference

variable {segments : List RateSegment} {g : FacilityLedger} {t stop rate accum : Nat}

theorem nextBoundary_started (h : ∀ seg ∈ segments, seg.start ≤ t) (stop : Nat) :
    nextBoundary segments t stop = stop := by
  induction segments with
  | nil => rfl
  | cons seg rest ih =>
    have hseg : ¬(t < seg.start ∧ seg.start < stop) := by
      have := h seg List.mem_cons_self
      omega
    show nextBoundary rest t (if t < seg.start ∧ seg.start < stop then seg.start else stop) = stop
    rw [if_neg hseg]
    exact ih fun s hs => h s (List.mem_cons_of_mem _ hs)

theorem FacilityLedger.currentRate_started (h : Started g.segments t rate) :
    g.currentRate t = .ok rate := by
  obtain ⟨settled, last, hsegments, hrate⟩ := h.current
  have hlast : last.start ≤ t := h.past last (by simp [hsegments])
  unfold currentRate
  cases hcases : g.segments with
  | nil => simp [hsegments] at hcases
  | cons first rest =>
    show Except.ok (List.foldl _ _ (first :: rest)) = _
    rw [← hcases, hsegments, List.foldl_append, List.foldl_cons, List.foldl_nil, if_pos hlast,
      hrate]

/-- From a time at which every segment has started, the walk takes one step, at the last rate. -/
theorem FacilityLedger.accumulate_started (h : Started g.segments t rate) (hle : t ≤ stop) :
    g.accumulate stop t accum = .ok (accum + g.principal * rate * (stop - t)) := by
  rw [accumulate]
  by_cases hlt : t < stop
  · rw [dif_pos hlt, currentRate_started h, ok_bind, nextBoundary_started h.past, accumulate,
      dif_neg (Nat.lt_irrefl stop)]
  · have hstop : stop = t := by omega
    rw [dif_neg hlt, hstop, Nat.sub_self, Nat.mul_zero, Nat.add_zero]

end Reference

/-! ### The relation -/

/-- The split of a payment, in the terms of the reference. -/
def RepayResult.allocation (r : RepayResult) : Reference.Allocation :=
  { fees := r.feePaid, interest := r.interestPaid, principal := r.principalPaid,
    excess := r.excess }

/-- A facility of the ledger and its reference: the same numbers and segments. Capitalization is
disabled in the reference. -/
structure Mirrors (f : Facility) (g : Reference.FacilityLedger) : Prop where
  principal : g.principal = f.principal
  fees : g.fees = f.fees
  interestAccum : g.interestAccum = f.interestAccum
  lastAccrualAt : g.lastAccrualAt = f.lastAccrualAt
  frozen : g.accrualFrozen = f.frozen
  segments : g.segments = f.segments
  started : Started f.segments f.lastAccrualAt f.rateBps
  plain : g.terms.capitalizeUnpaidInterest = false

namespace Mirrors

variable {f f' : Facility} {g g' : Reference.FacilityLedger} {now t : Nat}

/-- The numerator of the reference at `t`. -/
theorem accumulate_eq (h : Mirrors f g) (hle : f.lastAccrualAt ≤ t) :
    g.accumulate t g.lastAccrualAt g.interestAccum =
      .ok (f.interestAccum + f.principal * f.rateBps * (t - f.lastAccrualAt)) := by
  have hstarted : Started g.segments g.lastAccrualAt f.rateBps := by
    rw [h.segments, h.lastAccrualAt]
    exact h.started
  rw [Reference.FacilityLedger.accumulate_started hstarted (h.lastAccrualAt ▸ hle),
    h.principal, h.interestAccum, h.lastAccrualAt]

/-- The view of the reference is the exact unpaid interest of the ledger. -/
theorem unpaidInterestAt_eq (h : Mirrors f g) (t : Nat) :
    g.unpaidInterestAt t = .ok (units (f.accumAt t)) := by
  unfold Reference.FacilityLedger.unpaidInterestAt Facility.accumAt
  rw [h.frozen, h.lastAccrualAt]
  by_cases hfrozen : f.frozen = true
  · rw [if_pos (.inl hfrozen), if_pos hfrozen]
    simp [Reference.FacilityLedger.unpaidInterest, h.interestAccum, units]
  · rw [if_neg hfrozen]
    by_cases hle : t ≤ f.lastAccrualAt
    · rw [if_pos (.inr hle), Nat.sub_eq_zero_of_le hle]
      simp [Reference.FacilityLedger.unpaidInterest, h.interestAccum, units]
    · rw [if_neg (by simp [hfrozen, hle]), ← h.lastAccrualAt,
        h.accumulate_eq (Nat.le_of_not_le hle), ok_bind, h.lastAccrualAt]
      rfl

/-- Accruing to the same time. -/
theorem accrue (h : Mirrors f g) (hle : f.lastAccrualAt ≤ now) :
    ∃ g', g.accrue now = .ok g' ∧ Mirrors (f.accrued now) g' := by
  have hpass : Reference.raiseIf (now < g.lastAccrualAt) .accrualBackwards = .ok () := by
    rw [h.lastAccrualAt, Reference.raiseIf, if_neg (Nat.not_lt_of_le hle)]
  unfold Reference.FacilityLedger.accrue
  rw [hpass, ok_bind, h.frozen]
  by_cases hfrozen : f.frozen = true
  · rw [if_pos hfrozen]
    refine ⟨_, rfl, h.principal, h.fees, ?_, rfl, rfl, h.segments, h.started.mono hle,
      h.plain⟩
    simp [Facility.accrued, Facility.accumAt, hfrozen, h.interestAccum]
  · rw [if_neg hfrozen, h.accumulate_eq hle, ok_bind]
    refine ⟨_, rfl, h.principal, h.fees, ?_, rfl, rfl, h.segments, h.started.mono hle,
      h.plain⟩
    simp [Facility.accrued, Facility.accumAt, hfrozen]

theorem setRate {rateBps : Nat} (h : Mirrors f g) (hrun : f.setRate now rateBps = .ok f') :
    ∃ g', g.setRate now rateBps = .ok g' ∧ Mirrors f' g' := by
  unfold Facility.setRate at hrun
  obtain ⟨a, ha, hrun⟩ := bind_eq_ok.mp hrun
  obtain ⟨hle, rfl⟩ := Facility.accrue_ok ha
  obtain ⟨g₁, hg₁, hmirror⟩ := h.accrue hle
  obtain ⟨last, hlast, hsegments⟩ := hmirror.started.replace (Nat.le_refl now) rateBps
  rw [hlast] at hrun
  obtain rfl := pure_eq_ok.mp hrun
  have hpushed := hmirror.started.push (Nat.le_refl now) rateBps
  -- The filter alone does what the test and the filter do, and the result is sorted already.
  have hsame : (if g₁.segments.any (fun seg => seg.start == now) = true then
      g₁.segments.filter (fun seg => seg.start != now) else g₁.segments) =
      (f.accrued now).segments.filter (fun seg => seg.start != now) := by
    rw [hmirror.segments]
    split
    · rfl
    · rename_i hnone
      symm
      rw [List.filter_eq_self]
      intro seg hseg
      simp only [List.any_eq_true, beq_iff_eq, not_exists, not_and] at hnone
      simpa using hnone seg hseg
  have hsorted : List.mergeSort _ (fun a b : RateSegment => decide (a.start ≤ b.start)) = _ :=
    List.mergeSort_of_pairwise (hpushed.sorted.imp fun hlt => by simpa using hlt.le)
  unfold Reference.FacilityLedger.setRate
  rw [hg₁, ok_bind]
  dsimp only
  rw [hsame, hsorted]
  refine ⟨_, rfl, hmirror.principal, hmirror.fees, hmirror.interestAccum, hmirror.lastAccrualAt,
    hmirror.frozen, hsegments.symm, ?_, hmirror.plain⟩
  show Started _ now rateBps
  rw [hsegments]
  exact hpushed

theorem recordDraw {id : FacilityId} {amount : Nat} (h : Mirrors f g)
    (hrun : f.recordDraw now id amount = .ok f') :
    ∃ g', g.borrow now amount = .ok g' ∧ Mirrors f' g' := by
  unfold Facility.recordDraw at hrun
  obtain ⟨_, hzero, hrun⟩ := bind_eq_ok.mp hrun
  obtain ⟨_, -, hrun⟩ := bind_eq_ok.mp hrun
  obtain ⟨a, ha, hrun⟩ := bind_eq_ok.mp hrun
  obtain ⟨hle, rfl⟩ := Facility.accrue_ok ha
  obtain ⟨newPrincipal, hnew, hrun⟩ := bind_eq_ok.mp hrun
  obtain ⟨-, rfl⟩ := addW_eq_ok.mp hnew
  obtain ⟨_, -, hrun⟩ := bind_eq_ok.mp hrun
  obtain rfl := pure_eq_ok.mp hrun
  obtain ⟨g₁, hg₁, hmirror⟩ := h.accrue hle
  have hpass : Reference.raiseIf (amount = 0) .amountNotPositive = .ok () :=
    if_neg (revertIf_eq_ok.mp hzero)
  unfold Reference.FacilityLedger.borrow
  rw [hpass, ok_bind, hg₁, ok_bind, hmirror.plain]
  refine ⟨_, rfl, ?_, hmirror.fees, hmirror.interestAccum, hmirror.lastAccrualAt, hmirror.frozen,
    hmirror.segments, hmirror.started, hmirror.plain⟩
  show g₁.principal + amount = f.principal + amount
  rw [hmirror.principal]
  rfl

theorem recordFee {amount : Nat} (h : Mirrors f g) (hrun : f.recordFee now amount = .ok f') :
    ∃ g', g.chargeFee now amount = .ok g' ∧ Mirrors f' g' := by
  unfold Facility.recordFee at hrun
  obtain ⟨_, -, hrun⟩ := bind_eq_ok.mp hrun
  obtain ⟨a, ha, hrun⟩ := bind_eq_ok.mp hrun
  obtain ⟨hle, rfl⟩ := Facility.accrue_ok ha
  obtain ⟨fees, hfees, hrun⟩ := bind_eq_ok.mp hrun
  obtain ⟨-, rfl⟩ := addW_eq_ok.mp hfees
  obtain rfl := pure_eq_ok.mp hrun
  obtain ⟨g₁, hg₁, hmirror⟩ := h.accrue hle
  unfold Reference.FacilityLedger.chargeFee
  rw [hg₁, ok_bind]
  refine ⟨_, rfl, hmirror.principal, ?_, hmirror.interestAccum, hmirror.lastAccrualAt,
    hmirror.frozen, hmirror.segments, hmirror.started, hmirror.plain⟩
  show g₁.fees + amount = f.fees + amount
  rw [hmirror.fees]
  rfl

theorem freezeAccrual (h : Mirrors f g) (hrun : f.freezeAccrual now = .ok f') :
    ∃ g', g.freeze now = .ok g' ∧ Mirrors f' g' := by
  unfold Facility.freezeAccrual at hrun
  obtain ⟨a, ha, hrun⟩ := bind_eq_ok.mp hrun
  obtain ⟨hle, rfl⟩ := Facility.accrue_ok ha
  obtain rfl := pure_eq_ok.mp hrun
  obtain ⟨g₁, hg₁, hmirror⟩ := h.accrue hle
  unfold Reference.FacilityLedger.freeze
  rw [hg₁, ok_bind]
  exact ⟨_, rfl, hmirror.principal, hmirror.fees, hmirror.interestAccum, hmirror.lastAccrualAt,
    rfl, hmirror.segments, hmirror.started, hmirror.plain⟩

/-- `a < b ? a : b`. -/
theorem ite_lt_eq_min (a b : Nat) : (if a < b then a else b) = min a b := by
  split <;> omega

theorem allocate {received : Nat} {r : RepayResult} (h : Mirrors f g)
    (hrun : f.allocate now received = .ok (r, f')) :
    ∃ g', g.allocateRepayment now received = .ok (r.allocation, g') ∧ Mirrors f' g' := by
  unfold Facility.allocate at hrun
  obtain ⟨_, hzero, hrun⟩ := bind_eq_ok.mp hrun
  obtain ⟨a, ha, hrun⟩ := bind_eq_ok.mp hrun
  obtain ⟨hle, rfl⟩ := Facility.accrue_ok ha
  obtain ⟨x, hx, hrun⟩ := bind_eq_ok.mp hrun
  obtain ⟨y, hy, hrun⟩ := bind_eq_ok.mp hrun
  obtain ⟨d, -, hrun⟩ := bind_eq_ok.mp hrun
  obtain ⟨-, rfl⟩ := mulW_eq_ok.mp hx
  obtain ⟨-, rfl⟩ := subW_eq_ok.mp hy
  have hres := pure_eq_ok.mp hrun
  simp only [Prod.mk.injEq] at hres
  obtain ⟨rfl, rfl⟩ := hres
  obtain ⟨g₁, hg₁, hmirror⟩ := h.accrue hle
  have hpass : Reference.raiseIf (received = 0) .amountNotPositive = .ok () :=
    if_neg (revertIf_eq_ok.mp hzero)
  have hunpaid : g₁.unpaidInterest = units (f.accrued now).interestAccum := by
    rw [Reference.FacilityLedger.unpaidInterest, hmirror.interestAccum]
    rfl
  unfold Reference.FacilityLedger.allocateRepayment
  rw [hpass, ok_bind, hg₁, ok_bind]
  dsimp only
  rw [hunpaid, hmirror.fees, hmirror.principal, hmirror.interestAccum]
  simp only [ite_lt_eq_min, RepayResult.allocation]
  exact ⟨_, rfl, rfl, rfl, rfl, hmirror.lastAccrualAt, hmirror.frozen, hmirror.segments,
    hmirror.started, hmirror.plain⟩

/-- A facility that was opened just now. -/
theorem opened {terms : Terms} (hf : f.principal = 0 ∧ f.fees = 0 ∧ f.interestAccum = 0)
    (hfrozen : f.frozen = false) (hrate : f.rateBps = terms.rateBps) (hlast : f.lastAccrualAt = now)
    (hsegments : f.segments = [{ start := now, rateBps := terms.rateBps }])
    (hplain : terms.capitalizeUnpaidInterest = false) :
    Mirrors f (.new ⟨terms.rateBps, terms.capitalizeUnpaidInterest⟩ now) := by
  refine ⟨hf.1.symm, hf.2.1.symm, hf.2.2.symm, hlast.symm, hfrozen.symm, hsegments.symm, ?_, hplain⟩
  rw [hsegments, hlast, hrate]
  exact .single now terms.rateBps

end Mirrors

/-! ### Sequences of operations -/

/-- The operations on one facility that both models have. -/
inductive FacilityOp
  | accrue
  | setRate (rateBps : Nat)
  | recordDraw (amount : Nat)
  | recordFee (amount : Nat)
  | allocate (received : Nat)
  | freezeAccrual

/-- A call of the operation to `DebtLedger`, and the split of an allocation. -/
def FacilityOp.perform (m : Msg) (id : FacilityId) (l : Ledger) :
    FacilityOp → Except Revert (Option Reference.Allocation × Ledger)
  | .accrue => (l.accrue m id).map fun l => (none, l)
  | .setRate rateBps => (l.setRate m id rateBps).map fun l => (none, l)
  | .recordDraw amount => (l.recordDraw m id amount).map fun l => (none, l)
  | .recordFee amount => (l.recordFee m id amount).map fun l => (none, l)
  | .allocate received => (l.allocate m id received).map fun p => (some p.1.allocation, p.2)
  | .freezeAccrual => (l.freezeAccrual m id).map fun l => (none, l)

/-- The same operation of the reference, at the time `time`. -/
def FacilityOp.reference (time : Nat) (g : Reference.FacilityLedger) : FacilityOp →
    Except Reference.AccountingError (Option Reference.Allocation × Reference.FacilityLedger)
  | .accrue => (g.accrue time).map fun g => (none, g)
  | .setRate rateBps => (g.setRate time rateBps).map fun g => (none, g)
  | .recordDraw amount => (g.borrow time amount).map fun g => (none, g)
  | .recordFee amount => (g.chargeFee time amount).map fun g => (none, g)
  | .allocate received => (g.allocateRepayment time received).map fun p => (some p.1, p.2)
  | .freezeAccrual => (g.freeze time).map fun g => (none, g)

/-- A sequence of calls to `DebtLedger` on one facility, with the splits of its allocations. -/
def performAll (id : FacilityId) : List (Msg × FacilityOp) → Ledger →
    Except Revert (List (Option Reference.Allocation) × Ledger)
  | [], l => .ok ([], l)
  | (m, op) :: rest, l => do
    let (out, l) ← op.perform m id l
    let (outs, l) ← performAll id rest l
    return (out :: outs, l)

/-- The same sequence on the reference. -/
def referenceAll : List (Msg × FacilityOp) → Reference.FacilityLedger →
    Except Reference.AccountingError
      (List (Option Reference.Allocation) × Reference.FacilityLedger)
  | [], g => .ok ([], g)
  | (m, op) :: rest, g => do
    let (out, g) ← op.reference m.now g
    let (outs, g) ← referenceAll rest g
    return (out :: outs, g)

/-- What the operation does to the storage struct of its facility. -/
def FacilityOp.body (now : Nat) (id : FacilityId) (f : Facility) :
    FacilityOp → Except Revert (Option Reference.Allocation × Facility)
  | .accrue => (f.accrue now).map fun f => (none, f)
  | .setRate rateBps => (f.setRate now rateBps).map fun f => (none, f)
  | .recordDraw amount => (f.recordDraw now id amount).map fun f => (none, f)
  | .recordFee amount => (f.recordFee now amount).map fun f => (none, f)
  | .allocate received => (f.allocate now received).map fun p => (some p.1.allocation, p.2)
  | .freezeAccrual => (f.freezeAccrual now).map fun f => (none, f)

section
variable {m : Msg} {id : FacilityId} {op : FacilityOp} {l l' : Ledger} {f f' : Facility}
  {g : Reference.FacilityLedger} {out : Option Reference.Allocation} {now : Nat}

/-- The modifiers of the ledger add nothing to the struct, and the operations without a result
share the proof. -/
theorem FacilityOp.perform_modify {body : Facility → Except Revert Facility}
    (h : (l.modifyFacility m id body).map (fun l => ((none : Option Reference.Allocation), l)) =
      .ok (out, l')) :
    (l.facilities id).exists_ = true ∧
      (body (l.facilities id)).map (fun f => (none, f)) = .ok (out, l'.facilities id) := by
  obtain ⟨l₁, hl, heq⟩ := map_eq_ok.mp h
  simp only [Prod.mk.injEq] at heq
  obtain ⟨rfl, rfl⟩ := heq
  obtain ⟨hexists, f₁, hf, rfl⟩ := Ledger.modifyFacility_ok hl
  refine ⟨hexists, map_eq_ok.mpr ⟨f₁, hf, ?_⟩⟩
  simp

/-- What an allocation writes. -/
theorem Ledger.allocate_body {received : Nat} {r : RepayResult}
    (h : l.allocate m id received = .ok (r, l')) :
    (l.facilities id).exists_ = true ∧
    ∃ f₁, (l.facilities id).allocate m.now received = .ok (r, f₁) ∧
      l' = { l with facilities := Function.update l.facilities id f₁ } := by
  unfold Ledger.allocate at h
  obtain ⟨_, -, h⟩ := bind_eq_ok.mp h
  obtain ⟨_, hexists, h⟩ := bind_eq_ok.mp h
  obtain ⟨⟨r₁, f₁⟩, hf, h⟩ := bind_eq_ok.mp h
  have hres := pure_eq_ok.mp h
  simp only [Prod.mk.injEq] at hres
  obtain ⟨rfl, rfl⟩ := hres
  exact ⟨by simpa using revertIf_eq_ok.mp hexists, f₁, hf, rfl⟩

theorem FacilityOp.perform_ok (h : op.perform m id l = .ok (out, l')) :
    (l.facilities id).exists_ = true ∧
      op.body m.now id (l.facilities id) = .ok (out, l'.facilities id) := by
  cases op with
  | accrue => exact perform_modify h
  | setRate rateBps => exact perform_modify h
  | recordDraw amount => exact perform_modify h
  | recordFee amount => exact perform_modify h
  | freezeAccrual => exact perform_modify h
  | allocate received =>
    obtain ⟨⟨r, l₁⟩, hl, heq⟩ := map_eq_ok.mp h
    simp only [Prod.mk.injEq] at heq
    obtain ⟨rfl, rfl⟩ := heq
    obtain ⟨hexists, f₁, hf, rfl⟩ := Ledger.allocate_body hl
    refine ⟨hexists, map_eq_ok.mpr ⟨_, hf, ?_⟩⟩
    simp

/-- An operation without a result that has a counterpart in the reference. -/
theorem FacilityOp.mirrored {x : Except Revert Facility}
    {y : Except Reference.AccountingError Reference.FacilityLedger}
    (hstep : ∀ f₁, x = .ok f₁ → ∃ g', y = .ok g' ∧ Mirrors f₁ g')
    (h : x.map (fun f => ((none : Option Reference.Allocation), f)) = .ok (out, f')) :
    ∃ g', y.map (fun g => (none, g)) = .ok (out, g') ∧ Mirrors f' g' := by
  obtain ⟨f₁, hx, heq⟩ := map_eq_ok.mp h
  simp only [Prod.mk.injEq] at heq
  obtain ⟨rfl, rfl⟩ := heq
  obtain ⟨g', hy, hmirror⟩ := hstep f₁ hx
  exact ⟨g', map_eq_ok.mpr ⟨g', hy, rfl⟩, hmirror⟩

/-- One operation: the reference accepts it too, with the same split. -/
theorem Mirrors.body (hm : Mirrors f g) (h : op.body now id f = .ok (out, f')) :
    ∃ g', op.reference now g = .ok (out, g') ∧ Mirrors f' g' := by
  cases op with
  | accrue =>
    refine FacilityOp.mirrored (fun f₁ hf => ?_) h
    obtain ⟨hle, rfl⟩ := Facility.accrue_ok hf
    exact hm.accrue hle
  | setRate rateBps => exact FacilityOp.mirrored (fun _ hf => hm.setRate hf) h
  | recordDraw amount => exact FacilityOp.mirrored (fun _ hf => hm.recordDraw hf) h
  | recordFee amount => exact FacilityOp.mirrored (fun _ hf => hm.recordFee hf) h
  | freezeAccrual => exact FacilityOp.mirrored (fun _ hf => hm.freezeAccrual hf) h
  | allocate received =>
    obtain ⟨⟨r, f₁⟩, hf, heq⟩ := map_eq_ok.mp h
    simp only [Prod.mk.injEq] at heq
    obtain ⟨rfl, rfl⟩ := heq
    obtain ⟨g', hg, hmirror⟩ := hm.allocate hf
    exact ⟨g', map_eq_ok.mpr ⟨_, hg, rfl⟩, hmirror⟩

end

theorem performAll_cons {id : FacilityId} {m : Msg} {op : FacilityOp}
    {rest : List (Msg × FacilityOp)} {l l' : Ledger} {outs : List (Option Reference.Allocation)}
    (h : performAll id ((m, op) :: rest) l = .ok (outs, l')) :
    ∃ out l₁ outs₁, op.perform m id l = .ok (out, l₁) ∧
      performAll id rest l₁ = .ok (outs₁, l') ∧ outs = out :: outs₁ := by
  unfold performAll at h
  obtain ⟨⟨out, l₁⟩, hop, h⟩ := bind_eq_ok.mp h
  obtain ⟨⟨outs₁, l₂⟩, hrest, h⟩ := bind_eq_ok.mp h
  have hres := pure_eq_ok.mp h
  simp only [Prod.mk.injEq] at hres
  obtain ⟨rfl, rfl⟩ := hres
  exact ⟨out, l₁, outs₁, hop, hrest, rfl⟩

/-- A sequence of operations. -/
theorem Mirrors.performAll {id : FacilityId} {ops : List (Msg × FacilityOp)} {l l' : Ledger}
    {g : Reference.FacilityLedger} {outs : List (Option Reference.Allocation)}
    (hm : Mirrors (l.facilities id) g) (h : performAll id ops l = .ok (outs, l')) :
    ∃ g', referenceAll ops g = .ok (outs, g') ∧ Mirrors (l'.facilities id) g' := by
  induction ops generalizing l g outs with
  | nil =>
    cases h
    exact ⟨g, rfl, hm⟩
  | cons head rest ih =>
    obtain ⟨m, op⟩ := head
    obtain ⟨out, l₁, outs₁, hop, hrest, rfl⟩ := performAll_cons h
    obtain ⟨g₁, hg₁, hm₁⟩ := hm.body (FacilityOp.perform_ok hop).2
    obtain ⟨g', hg', hm'⟩ := ih hm₁ hrest
    refine ⟨g', ?_, hm'⟩
    unfold referenceAll
    rw [hg₁, ok_bind]
    dsimp only
    rw [hg', ok_bind]
    rfl

/-! ### The words of the ledger -/

/-- The widths of the storage of a facility: `uint128`, `uint32` and `uint64`. The numerator has
grown by less than the product of the widest principal and the widest rate in each second. -/
structure Facility.Narrow (f : Facility) : Prop where
  principal : f.principal ≤ maxPrincipal
  rateBps : f.rateBps < wordSize 32
  lastAccrualAt : f.lastAccrualAt < wordSize 64
  interestAccum : f.interestAccum ≤ maxPrincipal * wordSize 32 * f.lastAccrualAt

/-- The argument of the operation has the type of the contract. -/
def FacilityOp.Typed : FacilityOp → Prop
  | .setRate rateBps => rateBps < wordSize 32
  | _ => True

namespace Facility.Narrow

variable {f f' : Facility} {now t : Nat}

/-- The numerator at a later time. -/
theorem accumAt_le (h : f.Narrow) (hle : f.lastAccrualAt ≤ t) :
    f.accumAt t ≤ maxPrincipal * wordSize 32 * t := by
  have hgrowth : f.principal * f.rateBps * (t - f.lastAccrualAt) ≤
      maxPrincipal * wordSize 32 * (t - f.lastAccrualAt) :=
    Nat.mul_le_mul_right _ (Nat.mul_le_mul h.principal h.rateBps.le)
  have hsplit : maxPrincipal * wordSize 32 * f.lastAccrualAt +
      maxPrincipal * wordSize 32 * (t - f.lastAccrualAt) = maxPrincipal * wordSize 32 * t := by
    rw [← Nat.mul_add, Nat.add_sub_cancel' hle]
  have haccum := h.interestAccum
  unfold accumAt
  split <;> omega

/-- No word of a pending accrual overflows before the last `uint64` time. -/
theorem growth_ok (h : f.Narrow) (hlive : f.frozen ≠ true) (hlater : f.lastAccrualAt ≤ t)
    (ht : t < wordSize 64) :
    growth f.principal f.rateBps (t - f.lastAccrualAt) =
        .ok (f.principal * f.rateBps * (t - f.lastAccrualAt)) ∧
      addW 256 f.interestAccum (f.principal * f.rateBps * (t - f.lastAccrualAt)) =
        (.ok (f.accumAt t) : Except Revert Nat) := by
  have hfits : maxPrincipal * wordSize 32 * wordSize 64 < wordSize 256 := by decide +kernel
  have hrates : maxPrincipal * wordSize 32 < wordSize 256 := by decide +kernel
  have haccum : f.accumAt t =
      f.interestAccum + f.principal * f.rateBps * (t - f.lastAccrualAt) := by
    unfold accumAt
    rw [if_neg hlive]
  have hle := h.accumAt_le hlater
  have hbound : maxPrincipal * wordSize 32 * t ≤ maxPrincipal * wordSize 32 * wordSize 64 :=
    Nat.mul_le_mul_left _ ht.le
  have hrate : f.principal * f.rateBps ≤ maxPrincipal * wordSize 32 :=
    Nat.mul_le_mul h.principal h.rateBps.le
  constructor
  · unfold growth
    rw [revertIf_of_not _ (Nat.not_lt_of_le h.principal), ok_bind,
      mulW_eq_ok.mpr ⟨by omega, rfl⟩, ok_bind]
    exact mulW_eq_ok.mpr ⟨by omega, rfl⟩
  · exact addW_eq_ok.mpr ⟨by omega, haccum⟩

/-- No word of the view overflows before the last `uint64` time. -/
theorem unpaidInterestAt (h : f.Narrow) (ht : t < wordSize 64) :
    f.unpaidInterestAt t = .ok (units (f.accumAt t)) := by
  unfold Facility.unpaidInterestAt
  by_cases hstill : f.frozen = true ∨ t ≤ f.lastAccrualAt ∨ f.principal = 0
  · rw [if_pos hstill]
    have hzero : f.accumAt t = f.interestAccum := by
      unfold accumAt
      rcases hstill with hfrozen | hpast | hnone
      · simp [hfrozen]
      · simp [Nat.sub_eq_zero_of_le hpast]
      · simp [hnone]
    rw [hzero]
  · rw [if_neg hstill]
    simp only [not_or, Nat.not_le] at hstill
    obtain ⟨hlive, hlater, -⟩ := hstill
    obtain ⟨hgrowth, hadd⟩ := h.growth_ok hlive hlater.le ht
    rw [hgrowth, ok_bind, hadd, ok_bind]
    rfl

/-- No word of an accrual overflows before the last `uint64` time. -/
theorem accrue_eq (h : f.Narrow) (hle : f.lastAccrualAt ≤ now) (hnow : now < wordSize 64) :
    f.accrue now = .ok (f.accrued now) := by
  unfold Facility.accrue
  rw [revertIf_of_not _ (Nat.not_lt_of_le hle), ok_bind]
  by_cases hsame : now = f.lastAccrualAt
  · rw [if_pos hsame]
    simp [accrued, accumAt, hsame, pure, Except.pure]
  · rw [if_neg hsame]
    by_cases hgrows : f.frozen = false ∧ f.principal ≠ 0
    · obtain ⟨hgrowth, hadd⟩ := h.growth_ok (by simp [hgrows.1]) hle hnow
      rw [if_pos hgrows, hgrowth, ok_bind, hadd, ok_bind]
      rfl
    · rw [if_neg hgrows]
      -- Nothing accrues on a frozen facility or on no principal.
      have hzero : f.accumAt now = f.interestAccum := by
        unfold accumAt
        by_cases hfrozen : f.frozen = true
        · simp [hfrozen]
        · have hnone : f.principal = 0 := by
            by_contra hne
            exact hgrows ⟨by simpa using hfrozen, hne⟩
          simp [hnone]
      show Except.ok { f with lastAccrualAt := now } = _
      rw [accrued, hzero]

theorem accrue (h : f.Narrow) (hnow : now < wordSize 64) (hrun : f.accrue now = .ok f') :
    f'.Narrow := by
  obtain ⟨hle, rfl⟩ := Facility.accrue_ok hrun
  exact ⟨h.principal, h.rateBps, hnow, h.accumAt_le hle⟩

theorem setRate {rateBps : Nat} (h : f.Narrow) (hnow : now < wordSize 64)
    (hrate : rateBps < wordSize 32) (hrun : f.setRate now rateBps = .ok f') : f'.Narrow := by
  unfold Facility.setRate at hrun
  obtain ⟨a, ha, hrun⟩ := bind_eq_ok.mp hrun
  have hn := h.accrue hnow ha
  split at hrun
  · cases hrun
  · rw [← pure_eq_ok.mp hrun]
    exact ⟨hn.principal, hrate, hn.lastAccrualAt, hn.interestAccum⟩

theorem recordDraw {id : FacilityId} {amount : Nat} (h : f.Narrow) (hnow : now < wordSize 64)
    (hrun : f.recordDraw now id amount = .ok f') : f'.Narrow := by
  unfold Facility.recordDraw at hrun
  obtain ⟨_, -, hrun⟩ := bind_eq_ok.mp hrun
  obtain ⟨_, -, hrun⟩ := bind_eq_ok.mp hrun
  obtain ⟨a, ha, hrun⟩ := bind_eq_ok.mp hrun
  obtain ⟨newPrincipal, -, hrun⟩ := bind_eq_ok.mp hrun
  obtain ⟨_, hmax, hrun⟩ := bind_eq_ok.mp hrun
  have hn := h.accrue hnow ha
  rw [← pure_eq_ok.mp hrun]
  exact ⟨Nat.le_of_not_lt (revertIf_eq_ok.mp hmax), hn.rateBps, hn.lastAccrualAt,
    hn.interestAccum⟩

theorem recordFee {amount : Nat} (h : f.Narrow) (hnow : now < wordSize 64)
    (hrun : f.recordFee now amount = .ok f') : f'.Narrow := by
  unfold Facility.recordFee at hrun
  obtain ⟨_, -, hrun⟩ := bind_eq_ok.mp hrun
  obtain ⟨a, ha, hrun⟩ := bind_eq_ok.mp hrun
  obtain ⟨fees, -, hrun⟩ := bind_eq_ok.mp hrun
  have hn := h.accrue hnow ha
  rw [← pure_eq_ok.mp hrun]
  exact ⟨hn.principal, hn.rateBps, hn.lastAccrualAt, hn.interestAccum⟩

theorem freezeAccrual (h : f.Narrow) (hnow : now < wordSize 64)
    (hrun : f.freezeAccrual now = .ok f') : f'.Narrow := by
  unfold Facility.freezeAccrual at hrun
  obtain ⟨a, ha, hrun⟩ := bind_eq_ok.mp hrun
  have hn := h.accrue hnow ha
  rw [← pure_eq_ok.mp hrun]
  exact ⟨hn.principal, hn.rateBps, hn.lastAccrualAt, hn.interestAccum⟩

/-- A payment only lowers the numbers. -/
theorem allocate {received : Nat} {r : RepayResult} (h : f.Narrow) (hnow : now < wordSize 64)
    (hrun : f.allocate now received = .ok (r, f')) : f'.Narrow := by
  unfold Facility.allocate at hrun
  obtain ⟨_, -, hrun⟩ := bind_eq_ok.mp hrun
  obtain ⟨a, ha, hrun⟩ := bind_eq_ok.mp hrun
  obtain ⟨x, -, hrun⟩ := bind_eq_ok.mp hrun
  obtain ⟨y, hy, hrun⟩ := bind_eq_ok.mp hrun
  obtain ⟨d, -, hrun⟩ := bind_eq_ok.mp hrun
  obtain ⟨-, rfl⟩ := subW_eq_ok.mp hy
  have hres := pure_eq_ok.mp hrun
  simp only [Prod.mk.injEq] at hres
  obtain ⟨-, rfl⟩ := hres
  have hn := h.accrue hnow ha
  exact ⟨(Nat.sub_le _ _).trans hn.principal, hn.rateBps, hn.lastAccrualAt,
    (Nat.sub_le _ _).trans hn.interestAccum⟩

theorem body {id : FacilityId} {op : FacilityOp} {out : Option Reference.Allocation}
    (h : f.Narrow) (hnow : now < wordSize 64) (htyped : op.Typed)
    (hrun : op.body now id f = .ok (out, f')) : f'.Narrow := by
  cases op with
  | accrue =>
    obtain ⟨f₁, hf, heq⟩ := map_eq_ok.mp hrun
    cases heq
    exact h.accrue hnow hf
  | setRate rateBps =>
    obtain ⟨f₁, hf, heq⟩ := map_eq_ok.mp hrun
    cases heq
    exact h.setRate hnow htyped hf
  | recordDraw amount =>
    obtain ⟨f₁, hf, heq⟩ := map_eq_ok.mp hrun
    cases heq
    exact h.recordDraw hnow hf
  | recordFee amount =>
    obtain ⟨f₁, hf, heq⟩ := map_eq_ok.mp hrun
    cases heq
    exact h.recordFee hnow hf
  | freezeAccrual =>
    obtain ⟨f₁, hf, heq⟩ := map_eq_ok.mp hrun
    cases heq
    exact h.freezeAccrual hnow hf
  | allocate received =>
    obtain ⟨⟨r, f₁⟩, hf, heq⟩ := map_eq_ok.mp hrun
    cases heq
    exact h.allocate hnow hf

end Facility.Narrow

/-! ### The refinement -/

theorem FacilityOp.body_exists {op : FacilityOp} {now : Nat} {id : FacilityId} {f f' : Facility}
    {out : Option Reference.Allocation} (h : op.body now id f = .ok (out, f')) :
    f'.exists_ = f.exists_ := by
  cases op with
  | accrue =>
    obtain ⟨f₁, hf, heq⟩ := map_eq_ok.mp h
    cases heq
    exact (Facility.accrue_spec hf).1.exists_
  | setRate rateBps =>
    obtain ⟨f₁, hf, heq⟩ := map_eq_ok.mp h
    cases heq
    exact (Facility.setRate_spec hf).1.exists_
  | recordDraw amount =>
    obtain ⟨f₁, hf, heq⟩ := map_eq_ok.mp h
    cases heq
    exact (Facility.recordDraw_spec hf).1.exists_
  | recordFee amount =>
    obtain ⟨f₁, hf, heq⟩ := map_eq_ok.mp h
    cases heq
    exact (Facility.recordFee_spec hf).1.exists_
  | freezeAccrual =>
    obtain ⟨f₁, hf, heq⟩ := map_eq_ok.mp h
    cases heq
    exact (Facility.freezeAccrual_spec hf).1.exists_
  | allocate received =>
    obtain ⟨⟨r, f₁⟩, hf, heq⟩ := map_eq_ok.mp h
    cases heq
    exact (Facility.allocate_spec hf).1.exists_

/-- Along a sequence of operations the facility stays open and narrow. -/
theorem performAll_narrow {id : FacilityId} {ops : List (Msg × FacilityOp)} {l l' : Ledger}
    {outs : List (Option Reference.Allocation)} (hnarrow : (l.facilities id).Narrow)
    (hexists : (l.facilities id).exists_ = true)
    (htyped : ∀ op ∈ ops, op.1.now < wordSize 64 ∧ op.2.Typed)
    (h : performAll id ops l = .ok (outs, l')) :
    (l'.facilities id).Narrow ∧ (l'.facilities id).exists_ = true := by
  induction ops generalizing l outs with
  | nil =>
    cases h
    exact ⟨hnarrow, hexists⟩
  | cons head rest ih =>
    obtain ⟨m, op⟩ := head
    obtain ⟨out, l₁, outs₁, hop, hrest, rfl⟩ := performAll_cons h
    obtain ⟨hnow, hop_typed⟩ := htyped (m, op) List.mem_cons_self
    have hbody := (FacilityOp.perform_ok hop).2
    apply ih (hnarrow.body hnow hop_typed hbody)
    · rw [FacilityOp.body_exists hbody]
      exact hexists
    · intro p hp
      exact htyped p (List.mem_cons_of_mem _ hp)
    · exact hrest

/-- A sequence of calls to the ledger, none of which reverts. -/
def LedgerCall.execAll : List (Msg × LedgerCall) → Ledger → Except Revert Ledger
  | [], l => .ok l
  | (m, c) :: rest, l => do
    let l ← c.exec m l
    execAll rest l

theorem Ledger.WF.exec {m : Msg} {c : LedgerCall} {l l' : Ledger} (hw : l.WF)
    (h : c.exec m l = .ok l') : l'.WF := by
  by_cases hc : ∃ id received, c = .allocate id received
  · obtain ⟨id, received, rfl⟩ := hc
    obtain ⟨⟨r, l₁⟩, hl, rfl⟩ := map_eq_ok.mp h
    exact hw.allocate hl
  · have hother : ∀ id received, c ≠ .allocate id received := by
      intro id received heq
      exact hc ⟨id, received, heq⟩
    exact (LedgerCall.exec_grows hother h).wf hw

theorem Ledger.WF.execAll {calls : List (Msg × LedgerCall)} {l l' : Ledger} (hw : l.WF)
    (h : LedgerCall.execAll calls l = .ok l') : l'.WF := by
  induction calls generalizing l with
  | nil =>
    cases h
    exact hw
  | cons head rest ih =>
    obtain ⟨m, c⟩ := head
    unfold LedgerCall.execAll at h
    obtain ⟨l₁, hc, h⟩ := bind_eq_ok.mp h
    exact ih (hw.exec hc) h

/-- What `open` wrote for a facility of a well-formed ledger. -/
theorem Ledger.openFacility_ok {m : Msg} {id : FacilityId} {terms : Terms} {l l₀ : Ledger}
    (hw : l.WF) (h : l.openFacility m id terms = .ok l₀) :
    l₀.facilities id =
      { Facility.empty with
        exists_ := true
        state := .active
        terms := terms
        rateBps := terms.rateBps
        lastAccrualAt := m.now
        segments := [{ start := m.now, rateBps := terms.rateBps }] } := by
  unfold openFacility at h
  obtain ⟨_, -, h⟩ := bind_eq_ok.mp h
  obtain ⟨_, hexists, h⟩ := bind_eq_ok.mp h
  obtain ⟨_, -, h⟩ := bind_eq_ok.mp h
  obtain ⟨_, -, h⟩ := bind_eq_ok.mp h
  obtain ⟨_, -, h⟩ := bind_eq_ok.mp h
  have hempty : l.facilities id = .empty := by
    apply hw.empty
    rw [hw.mem_iff]
    exact revertIf_eq_ok.mp hexists
  rw [← pure_eq_ok.mp h]
  show Function.update l.facilities id _ id = _
  rw [Function.update_self, hempty]
  rfl

/-- `open` adds a new facility and touches no other one. -/
theorem Ledger.openFacility_frame {m : Msg} {id : FacilityId} {terms : Terms} {l l₀ : Ledger}
    (hw : l.WF) (h : l.openFacility m id terms = .ok l₀) :
    id ∉ l.ids ∧ l₀.ids = l.ids ++ [id] ∧ ∀ i, i ≠ id → l₀.facilities i = l.facilities i := by
  unfold openFacility at h
  obtain ⟨_, -, h⟩ := bind_eq_ok.mp h
  obtain ⟨_, hexists, h⟩ := bind_eq_ok.mp h
  obtain ⟨_, -, h⟩ := bind_eq_ok.mp h
  obtain ⟨_, -, h⟩ := bind_eq_ok.mp h
  obtain ⟨_, -, h⟩ := bind_eq_ok.mp h
  rw [← pure_eq_ok.mp h]
  refine ⟨?_, rfl, fun i hid => Function.update_of_ne hid _ _⟩
  rw [hw.mem_iff]
  exact revertIf_eq_ok.mp hexists

/-- A facility is opened without capitalization in a ledger that any calls have made since its
deployment, and operations on the facility follow, all of them accepted. The reference accepts the
same operations, returns the same splits and ends with the same numbers. Both views of the unpaid
interest return the same amount at every time. -/
theorem ledger_refines_reference {history : List (Msg × LedgerCall)} {l l₀ l' : Ledger} {m : Msg}
    {id : FacilityId} {terms : Terms} {ops : List (Msg × FacilityOp)}
    {outs : List (Option Reference.Allocation)}
    (hhistory : LedgerCall.execAll history .initial = .ok l)
    (hopen : l.openFacility m id terms = .ok l₀)
    (hplain : terms.capitalizeUnpaidInterest = false)
    (htyped : (m.now < wordSize 64 ∧ terms.rateBps < wordSize 32) ∧
      ∀ op ∈ ops, op.1.now < wordSize 64 ∧ op.2.Typed)
    (hrun : performAll id ops l₀ = .ok (outs, l')) :
    ∃ g', referenceAll ops
        (.new ⟨terms.rateBps, terms.capitalizeUnpaidInterest⟩ m.now) = .ok (outs, g') ∧
      g'.principal = (l'.facilities id).principal ∧
      g'.fees = (l'.facilities id).fees ∧
      g'.interestAccum = (l'.facilities id).interestAccum ∧
      g'.lastAccrualAt = (l'.facilities id).lastAccrualAt ∧
      ∀ t < wordSize 64, ∃ interest, l'.unpaidInterestAt id t = .ok interest ∧
        g'.unpaidInterestAt t = .ok interest := by
  have hf := Ledger.openFacility_ok (Ledger.wf_initial.execAll hhistory) hopen
  have hmirror : Mirrors (l₀.facilities id)
      (.new ⟨terms.rateBps, terms.capitalizeUnpaidInterest⟩ m.now) := by
    rw [hf]
    exact .opened ⟨rfl, rfl, rfl⟩ rfl rfl rfl rfl hplain
  have hnarrow : (l₀.facilities id).Narrow := by
    rw [hf]
    exact ⟨Nat.zero_le _, htyped.1.2, htyped.1.1, Nat.zero_le _⟩
  have hexists : (l₀.facilities id).exists_ = true := by
    rw [hf]
  obtain ⟨g', hreference, hm⟩ := hmirror.performAll hrun
  obtain ⟨hn, hopen'⟩ := performAll_narrow hnarrow hexists htyped.2 hrun
  refine ⟨g', hreference, hm.principal, hm.fees, hm.interestAccum, hm.lastAccrualAt, ?_⟩
  intro t ht
  refine ⟨units ((l'.facilities id).accumAt t), ?_, hm.unpaidInterestAt_eq t⟩
  unfold Ledger.unpaidInterestAt
  rw [revertIf_of_not _ (by simp [hopen']), ok_bind]
  exact hn.unpaidInterestAt ht

/-- Two rate changes in one second, a fee, a payment and a freeze. -/
def Sample.facilityOps : List (Msg × FacilityOp) :=
  [(Sample.msg 1 100, .recordDraw 1000000000), (Sample.msg 1 86500, .setRate 500),
    (Sample.msg 1 86500, .setRate 700), (Sample.msg 1 172900, .recordFee 5),
    (Sample.msg 1 172900, .allocate 1000), (Sample.msg 1 259300, .freezeAccrual),
    (Sample.msg 1 300000, .accrue), (Sample.msg 1 300001, .allocate 2000000000)]

theorem Sample.facilityOps_typed :
    ∀ op ∈ Sample.facilityOps, op.1.now < wordSize 64 ∧ op.2.Typed := by
  simp [Sample.facilityOps, Sample.msg, FacilityOp.Typed, wordSize]

/-- The splits of its two payments. -/
def Sample.facilitySplits : List (Option Reference.Allocation) :=
  [none, none, none, none, some ⟨5, 995, 0, 0⟩, none, none, some ⟨0, 656539, 1000000000, 999343461⟩]

theorem ledger_refines_reference_sample :
    ∃ g', referenceAll Sample.facilityOps (.new ⟨1000, false⟩ 100) =
        .ok (Sample.facilitySplits, g') ∧
      ∀ t < wordSize 64, ∃ interest, g'.unpaidInterestAt t = .ok interest := by
  have hview : ((do
      let l ← LedgerCall.execAll [(Sample.msg 0 50, .setWriter 1 true)] .initial
      let l₀ ← l.openFacility (Sample.msg 1 100) 5 Sample.terms
      let p ← performAll 5 Sample.facilityOps l₀
      pure p.1) : Except Revert _).toOption = some Sample.facilitySplits := by
    decide +kernel
  obtain ⟨l, hl, hview⟩ := bind_eq_ok.mp (toOption_eq_some.mp hview)
  obtain ⟨l₀, hl₀, hview⟩ := bind_eq_ok.mp hview
  obtain ⟨⟨outs, l'⟩, hrun, hview⟩ := bind_eq_ok.mp hview
  obtain rfl := pure_eq_ok.mp hview
  obtain ⟨g', hreference, -, -, -, -, hinterest⟩ :=
    ledger_refines_reference hl hl₀ rfl ⟨by decide +kernel, Sample.facilityOps_typed⟩ hrun
  refine ⟨g', hreference, fun t ht => ?_⟩
  obtain ⟨interest, -, hg⟩ := hinterest t ht
  exact ⟨interest, hg⟩

end Rackline
