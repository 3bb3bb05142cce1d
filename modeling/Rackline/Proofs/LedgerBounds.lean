import Rackline.LedgerRun
import Rackline.Proofs.ReferenceLedger

/-!
# `Rackline.Proofs.LedgerBounds`: the arithmetic of the ledger

`Facility.Bounded` is what a facility keeps in every run with `uint64` times and `uint32` rates: the
widths of `Narrow` and a rate segment. The numerator of the interest grows by less than a principal
times a rate for each second that the run lasts, whatever the payments and the capitalizations in
between. So the seconds of the whole run bound it, and no sum over intervals has to be made.

`ledger_never_blocks` is the consequence for the operations that a repayment needs, and
`allocation_waterfall` says what an allocation pays.
-/

set_option autoImplicit false

namespace Rackline

open Evm InterestMath Transition

/-! ### What a facility keeps -/

/-- A facility at a time of the run. -/
structure Facility.Bounded (now : Nat) (f : Facility) : Prop extends f.Narrow where
  past : f.lastAccrualAt ≤ now
  segments : f.segments ≠ []

namespace Facility

variable {f f' : Facility} {now now' : Nat}

theorem Bounded.later (h : f.Bounded now) (hnow : now ≤ now') : f.Bounded now' :=
  ⟨h.toNarrow, h.past.trans hnow, h.segments⟩

/-- The numerator fits 224 bits, up to the last `uint64` time. -/
theorem Narrow.accumAt_le_bits {t : Nat} (h : f.Narrow) (ht : t < wordSize 64) :
    f.accumAt t ≤ 2 ^ 224 := by
  have hwidths : maxPrincipal * wordSize 32 * wordSize 64 ≤ 2 ^ 224 := by decide +kernel
  rcases Nat.le_total f.lastAccrualAt t with hlater | hearlier
  · calc f.accumAt t ≤ maxPrincipal * wordSize 32 * t := h.accumAt_le hlater
      _ ≤ maxPrincipal * wordSize 32 * wordSize 64 := Nat.mul_le_mul_left _ ht.le
      _ ≤ 2 ^ 224 := hwidths
  · have hrecorded : f.accumAt t = f.interestAccum := by
      simp [accumAt, Nat.sub_eq_zero_of_le hearlier]
    calc f.accumAt t = f.interestAccum := hrecorded
      _ ≤ maxPrincipal * wordSize 32 * f.lastAccrualAt := h.interestAccum
      _ ≤ maxPrincipal * wordSize 32 * wordSize 64 := Nat.mul_le_mul_left _ h.lastAccrualAt.le
      _ ≤ 2 ^ 224 := hwidths

theorem Narrow.interestAccum_le_bits (h : f.Narrow) : f.interestAccum ≤ 2 ^ 224 := by
  have hrecorded : f.accumAt f.lastAccrualAt = f.interestAccum := by simp [accumAt]
  rw [← hrecorded]
  exact h.accumAt_le_bits h.lastAccrualAt

section
variable (h : f.Bounded now) (hnow : now < wordSize 64)
include h hnow

theorem Bounded.accrue : f.accrue now = .ok (f.accrued now) ∧ (f.accrued now).Bounded now := by
  have heq := h.accrue_eq h.past hnow
  exact ⟨heq, h.toNarrow.accrue hnow heq, Nat.le_refl _, h.segments⟩

/-- A rate change finds a segment. -/
theorem Bounded.setRate {rateBps : Nat} (hrate : rateBps < wordSize 32) :
    ∃ f', f.setRate now rateBps = .ok f' ∧ f'.Bounded now := by
  obtain ⟨heq, hbounded⟩ := h.accrue hnow
  obtain ⟨last, hlast⟩ : ∃ last, f.segments.getLast? = some last :=
    ⟨_, List.getLast?_eq_some_getLast h.segments⟩
  have hrun : f.setRate now rateBps = .ok { f.accrued now with
      segments := if last.start = now then f.segments.dropLast ++ [{ last with rateBps := rateBps }]
        else f.segments ++ [{ start := now, rateBps := rateBps }]
      rateBps := rateBps } := by
    unfold Facility.setRate
    have hlast' : (f.accrued now).segments.getLast? = some last := hlast
    simp only [heq, ok_bind, hlast']
    rfl
  refine ⟨_, hrun, h.toNarrow.setRate hnow hrate hrun, Nat.le_refl _, ?_⟩
  show (if _ then _ else _) ≠ []
  split
  · exact List.append_ne_nil_of_right_ne_nil _ (List.cons_ne_nil _ _)
  · exact List.append_ne_nil_of_right_ne_nil _ (List.cons_ne_nil _ _)

theorem Bounded.freezeAccrual : ∃ f', f.freezeAccrual now = .ok f' ∧ f'.Bounded now := by
  obtain ⟨heq, hbounded⟩ := h.accrue hnow
  refine ⟨{ f.accrued now with frozen := true }, ?_, ?_⟩
  · unfold Facility.freezeAccrual
    rw [heq, ok_bind]
    rfl
  · exact ⟨⟨hbounded.principal, hbounded.rateBps, hbounded.lastAccrualAt, hbounded.interestAccum⟩,
      hbounded.past, hbounded.segments⟩

theorem Bounded.recordDraw {id : FacilityId} {amount : Nat} (hrun : f.recordDraw now id amount = .ok f') :
    f'.Bounded now := by
  have hnarrow := h.toNarrow.recordDraw hnow hrun
  unfold Facility.recordDraw at hrun
  obtain ⟨_, -, hrun⟩ := bind_eq_ok.mp hrun
  obtain ⟨_, -, hrun⟩ := bind_eq_ok.mp hrun
  obtain ⟨a, ha, hrun⟩ := bind_eq_ok.mp hrun
  obtain ⟨newPrincipal, -, hrun⟩ := bind_eq_ok.mp hrun
  obtain ⟨_, -, hrun⟩ := bind_eq_ok.mp hrun
  obtain ⟨-, rfl⟩ := Facility.accrue_ok ha
  obtain rfl := pure_eq_ok.mp hrun
  exact ⟨hnarrow, Nat.le_refl _, h.segments⟩

theorem Bounded.recordFee {amount : Nat} (hrun : f.recordFee now amount = .ok f') : f'.Bounded now := by
  have hnarrow := h.toNarrow.recordFee hnow hrun
  unfold Facility.recordFee at hrun
  obtain ⟨_, -, hrun⟩ := bind_eq_ok.mp hrun
  obtain ⟨a, ha, hrun⟩ := bind_eq_ok.mp hrun
  obtain ⟨fees, -, hrun⟩ := bind_eq_ok.mp hrun
  obtain ⟨-, rfl⟩ := Facility.accrue_ok ha
  obtain rfl := pure_eq_ok.mp hrun
  exact ⟨hnarrow, Nat.le_refl _, h.segments⟩

/-- Whole units leave the numerator, and the principal that they become is checked. -/
theorem Bounded.capitalize {id : FacilityId} (hrun : f.capitalize now id = .ok f') : f'.Bounded now := by
  obtain ⟨-, hbounded⟩ := h.accrue hnow
  unfold Facility.capitalize at hrun
  obtain ⟨_, -, hrun⟩ := bind_eq_ok.mp hrun
  obtain ⟨_, -, hrun⟩ := bind_eq_ok.mp hrun
  obtain ⟨a, ha, hrun⟩ := bind_eq_ok.mp hrun
  obtain ⟨-, rfl⟩ := Facility.accrue_ok ha
  dsimp only at hrun
  split at hrun
  · obtain rfl := pure_eq_ok.mp hrun
    exact hbounded
  · obtain ⟨paid, -, hrun⟩ := bind_eq_ok.mp hrun
    obtain ⟨accum, haccum, hrun⟩ := bind_eq_ok.mp hrun
    obtain ⟨newPrincipal, -, hrun⟩ := bind_eq_ok.mp hrun
    obtain ⟨_, hmax, hrun⟩ := bind_eq_ok.mp hrun
    obtain ⟨-, rfl⟩ := subW_eq_ok.mp haccum
    obtain rfl := pure_eq_ok.mp hrun
    exact ⟨⟨Nat.le_of_not_lt (revertIf_eq_ok.mp hmax), hbounded.rateBps, hbounded.lastAccrualAt,
      (Nat.sub_le _ _).trans hbounded.interestAccum⟩, hbounded.past, hbounded.segments⟩

/-- A payment of any size is allocated. -/
theorem Bounded.allocate {received : Nat} (hreceived : received ≠ 0) (hfees : f.fees < 2 ^ 255) :
    ∃ r f', f.allocate now received = .ok (r, f') := by
  obtain ⟨heq, hbounded⟩ := h.accrue hnow
  have hfits : maxPrincipal + 2 ^ 255 + 2 ^ 224 < wordSize 256 := by decide +kernel
  have haccum := hbounded.interestAccum_le_bits
  have hprincipal : f.principal ≤ maxPrincipal := h.principal
  unfold Facility.allocate
  rw [revertIf_of_not _ hreceived, ok_bind, heq, ok_bind]
  dsimp only
  generalize hfee : (if received < (f.accrued now).fees then received else (f.accrued now).fees) = feePaid
  generalize hint : (if received - feePaid < units (f.accrued now).interestAccum then received - feePaid
    else units (f.accrued now).interestAccum) = interestPaid
  generalize hprin : (if received - feePaid - interestPaid < (f.accrued now).principal then
    received - feePaid - interestPaid else (f.accrued now).principal) = principalPaid
  have hwhole : interestPaid ≤ units (f.accrued now).interestAccum := by
    rw [← hint]
    split <;> omega
  -- What is paid are whole units of the numerator, so they can be taken out of it.
  have hsub := mul_denom_le_of_le_units hwhole
  have hunits : units ((f.accrued now).interestAccum - interestPaid * denom) ≤ 2 ^ 224 :=
    (Nat.div_le_self _ _).trans ((Nat.sub_le _ _).trans haccum)
  have hpaid : interestPaid * denom < wordSize 256 := by
    calc interestPaid * denom ≤ (f.accrued now).interestAccum := hsub
      _ ≤ 2 ^ 224 := haccum
      _ < wordSize 256 := by decide +kernel
  rw [toAccum, mulW_eq_ok.mpr ⟨hpaid, rfl⟩, ok_bind, subW_eq_ok.mpr ⟨hsub, rfl⟩, ok_bind]
  have hbase : (f.accrued now).principal - principalPaid + ((f.accrued now).fees - feePaid) <
      wordSize 256 := by
    show f.principal - principalPaid + (f.fees - feePaid) < wordSize 256
    omega
  have htotal : (f.accrued now).principal - principalPaid + ((f.accrued now).fees - feePaid) +
      units ((f.accrued now).interestAccum - interestPaid * denom) < wordSize 256 := by
    show f.principal - principalPaid + (f.fees - feePaid) + _ < wordSize 256
    omega
  unfold Facility.legalDebt
  rw [addW_eq_ok.mpr ⟨hbase, rfl⟩, ok_bind, addW_eq_ok.mpr ⟨htotal, rfl⟩, ok_bind]
  exact ⟨_, _, rfl⟩

theorem Bounded.allocated {received : Nat} {r : RepayResult}
    (hrun : f.allocate now received = .ok (r, f')) : f'.Bounded now := by
  have hnarrow := h.toNarrow.allocate hnow hrun
  unfold Facility.allocate at hrun
  obtain ⟨_, -, hrun⟩ := bind_eq_ok.mp hrun
  obtain ⟨a, ha, hrun⟩ := bind_eq_ok.mp hrun
  obtain ⟨x, -, hrun⟩ := bind_eq_ok.mp hrun
  obtain ⟨y, -, hrun⟩ := bind_eq_ok.mp hrun
  obtain ⟨debt, -, hrun⟩ := bind_eq_ok.mp hrun
  obtain ⟨-, rfl⟩ := Facility.accrue_ok ha
  have hres := pure_eq_ok.mp hrun
  simp only [Prod.mk.injEq] at hres
  obtain ⟨-, rfl⟩ := hres
  exact ⟨hnarrow, Nat.le_refl _, h.segments⟩

end

/-- The view of the debt returns whenever the debt is a word. -/
theorem Narrow.legalDebtAt_eq {t : Nat} (h : f.Narrow) (ht : t < wordSize 64)
    (hfits : f.debtAt t < wordSize 256) : f.legalDebtAt t = .ok (f.debtAt t) := by
  have hsum : f.principal + f.fees + units (f.accumAt t) < wordSize 256 := hfits
  unfold Facility.legalDebtAt
  rw [addW_eq_ok.mpr ⟨by omega, rfl⟩, ok_bind, h.unpaidInterestAt ht, ok_bind]
  exact addW_eq_ok.mpr ⟨hsum, rfl⟩

end Facility

/-! ### Runs -/

namespace LedgerState

variable {s s' : LedgerState}

/-- The shape of the facility list, and bounded facilities. -/
structure Inv (s : LedgerState) : Prop where
  wf : s.ledger.WF
  bounded : ∀ id, (s.ledger.facilities id).exists_ = true → (s.ledger.facilities id).Bounded s.now

/-- An operation on one facility. -/
theorem Inv.modify {m : Msg} {id : FacilityId} {body : Facility → Except Revert Facility} {l : Ledger}
    (h : s.Inv) (hnow : s.now ≤ m.now) (hrun : s.ledger.modifyFacility m id body = .ok l)
    (hbody : ∀ f f', f.Bounded m.now → body f = .ok f' → f'.Bounded m.now) :
    ∀ i, (l.facilities i).exists_ = true → (l.facilities i).Bounded m.now := by
  obtain ⟨hexists, f', hf, rfl⟩ := Ledger.modifyFacility_ok hrun
  intro i hi
  have hold : ∀ i, (s.ledger.facilities i).exists_ = true →
      (s.ledger.facilities i).Bounded m.now := fun i hi => (h.bounded i hi).later hnow
  by_cases hid : i = id
  · subst hid
    show (Function.update s.ledger.facilities i f' i).Bounded m.now
    rw [Function.update_self]
    exact hbody _ f' (hold i hexists) hf
  · have hsame : Function.update s.ledger.facilities id f' i = s.ledger.facilities i :=
      Function.update_of_ne hid ..
    show (Function.update s.ledger.facilities id f' i).Bounded m.now
    rw [hsame]
    refine hold i ?_
    rw [← hsame]
    exact hi

theorem Inv.step {a : Msg × LedgerCall} (h : s.Inv) (hstep : LedgerStep s a s') : s'.Inv := by
  obtain ⟨m, call⟩ := a
  obtain ⟨hnow, hlast, htyped, hexec, htime⟩ := hstep
  refine ⟨h.wf.exec hexec, ?_⟩
  rw [show s'.now = m.now from htime]
  have hold : ∀ i, (s.ledger.facilities i).exists_ = true →
      (s.ledger.facilities i).Bounded m.now := fun i hi => (h.bounded i hi).later hnow
  cases call with
  | setWriter writer enabled =>
    obtain ⟨_, -, hexec⟩ := bind_eq_ok.mp hexec
    obtain ⟨_, -, hexec⟩ := bind_eq_ok.mp hexec
    rw [← pure_eq_ok.mp hexec]
    exact hold
  | finalizeWiring =>
    obtain ⟨_, -, hexec⟩ := bind_eq_ok.mp hexec
    obtain ⟨_, -, hexec⟩ := bind_eq_ok.mp hexec
    rw [← pure_eq_ok.mp hexec]
    exact hold
  | openFacility id terms =>
    have hopened := Ledger.openFacility_ok h.wf hexec
    obtain ⟨-, -, hframe⟩ := Ledger.openFacility_frame h.wf hexec
    intro i hi
    by_cases hid : i = id
    · rw [hid, hopened]
      exact ⟨⟨Nat.zero_le _, htyped, hlast, Nat.zero_le _⟩, Nat.le_refl _, List.cons_ne_nil _ _⟩
    · rw [hframe i hid] at hi ⊢
      exact hold i hi
  | setState id state =>
    have hmodify : s.ledger.modifyFacility m id (fun f => .ok { f with state := state }) =
        .ok s'.ledger := hexec
    refine h.modify hnow hmodify fun f f' hf hbody => ?_
    cases hbody
    exact ⟨⟨hf.principal, hf.rateBps, hf.lastAccrualAt, hf.interestAccum⟩, hf.past, hf.segments⟩
  | accrue id =>
    refine h.modify hnow hexec fun f f' hf hbody => ?_
    obtain ⟨heq, hbounded⟩ := hf.accrue hlast
    cases heq.symm.trans hbody
    exact hbounded
  | setRate id rateBps =>
    refine h.modify hnow hexec fun f f' hf hbody => ?_
    obtain ⟨g, heq, hbounded⟩ := hf.setRate hlast htyped
    cases heq.symm.trans hbody
    exact hbounded
  | recordDraw id amount => exact h.modify hnow hexec fun f f' hf => hf.recordDraw hlast
  | recordFee id amount => exact h.modify hnow hexec fun f f' hf => hf.recordFee hlast
  | freezeAccrual id =>
    refine h.modify hnow hexec fun f f' hf hbody => ?_
    obtain ⟨g, heq, hbounded⟩ := hf.freezeAccrual hlast
    cases heq.symm.trans hbody
    exact hbounded
  | capitalize id => exact h.modify hnow hexec fun f f' hf => hf.capitalize hlast
  | allocate id received =>
    obtain ⟨⟨r, l⟩, hrun, heq⟩ := map_eq_ok.mp hexec
    obtain ⟨hexists, f', hf, rfl⟩ := Ledger.allocate_body hrun
    -- The allocation is the operation on one facility that returns this struct.
    have hmodify : s.ledger.modifyFacility m id (fun _ => .ok f') = .ok s'.ledger := by
      obtain ⟨_, hwriter, -⟩ := bind_eq_ok.mp hrun
      unfold Ledger.modifyFacility
      rw [hwriter, ok_bind, revertIf_of_not _ (by simp [hexists]), ok_bind, ok_bind, ← heq]
      rfl
    have hbounded := (hold id hexists).allocated hlast hf
    refine h.modify hnow hmodify fun f f'' _ hbody => ?_
    cases hbody
    exact hbounded

theorem Inv.reachable (h : LedgerReachable s) : s.Inv := by
  refine Reachable.invariant (fun s hinit => ?_) (fun s a s' hs hstep => hs.step hstep) h
  refine ⟨?_, fun id hid => ?_⟩
  · rw [hinit]
    exact Ledger.wf_initial
  · rw [hinit] at hid
    cases hid

end LedgerState

/-- In every state that a run of the ledger reaches, for a facility whose fees stay below `2 ^ 255`:
the numerator of its interest fits 224 bits, and no word of an operation that a repayment needs
overflows. So each of them returns, at every `uint64` time, for a payment of any size. -/
theorem ledger_never_blocks {s : LedgerState} (hreach : LedgerReachable s) {id : FacilityId}
    (hexists : (s.ledger.facilities id).exists_ = true)
    (hfees : (s.ledger.facilities id).fees < 2 ^ 255) :
    (s.ledger.facilities id).interestAccum ≤ 2 ^ 224 ∧
    (∀ m : Msg, s.now ≤ m.now → m.now < wordSize 64 → s.ledger.isWriter m.sender = true →
      (∃ l, s.ledger.accrue m id = .ok l) ∧
      (∀ rateBps < wordSize 32, ∃ l, s.ledger.setRate m id rateBps = .ok l) ∧
      (∃ l, s.ledger.freezeAccrual m id = .ok l) ∧
      ∀ received, 0 < received → ∃ p, s.ledger.allocate m id received = .ok p) ∧
    ∀ t < wordSize 64, ∃ interest debt, s.ledger.unpaidInterestAt id t = .ok interest ∧
      s.ledger.legalDebtAt id t = .ok debt := by
  have hbounded := (LedgerState.Inv.reachable hreach).bounded id hexists
  refine ⟨hbounded.interestAccum_le_bits, ?_, ?_⟩
  · intro m hnow hlast hwriter
    have hf := hbounded.later hnow
    have hmodify : ∀ {body : Facility → Except Revert Facility} {f : Facility},
        body (s.ledger.facilities id) = .ok f → ∃ l, s.ledger.modifyFacility m id body = .ok l := by
      intro body f hbody
      unfold Ledger.modifyFacility
      rw [revertIf_of_not _ (by simp [hwriter]), ok_bind, revertIf_of_not _ (by simp [hexists]),
        ok_bind, hbody]
      exact ⟨_, rfl⟩
    refine ⟨hmodify (hf.accrue hlast).1, ?_, ?_, ?_⟩
    · intro rateBps hrate
      obtain ⟨f, hset, -⟩ := hf.setRate hlast hrate
      exact hmodify hset
    · obtain ⟨f, hfreeze, -⟩ := hf.freezeAccrual hlast
      exact hmodify hfreeze
    · intro received hpositive
      obtain ⟨r, f, hallocate⟩ := hf.allocate hlast (Nat.ne_of_gt hpositive) hfees
      unfold Ledger.allocate
      rw [revertIf_of_not _ (by simp [hwriter]), ok_bind, revertIf_of_not _ (by simp [hexists]),
        ok_bind, hallocate]
      exact ⟨_, rfl⟩
  · intro t ht
    have hinterest := hbounded.unpaidInterestAt ht
    have hfits : (s.ledger.facilities id).debtAt t < wordSize 256 := by
      have hwidths : maxPrincipal + 2 ^ 255 + 2 ^ 224 < wordSize 256 := by decide +kernel
      have hprincipal := hbounded.principal
      have haccum : units ((s.ledger.facilities id).accumAt t) ≤ 2 ^ 224 := by
        exact (Nat.div_le_self _ _).trans (hbounded.accumAt_le_bits ht)
      show (s.ledger.facilities id).principal + (s.ledger.facilities id).fees + _ < _
      omega
    have hknown : (s.ledger.facilities id).exists_ ≠ false := by simp [hexists]
    have hview : s.ledger.unpaidInterestAt id t = .ok (units ((s.ledger.facilities id).accumAt t)) := by
      unfold Ledger.unpaidInterestAt
      rw [revertIf_of_not _ hknown, ok_bind]
      exact hinterest
    have hdebt : s.ledger.legalDebtAt id t = .ok ((s.ledger.facilities id).debtAt t) := by
      unfold Ledger.legalDebtAt
      rw [revertIf_of_not _ hknown, ok_bind]
      exact hbounded.legalDebtAt_eq ht hfits
    exact ⟨_, _, hview, hdebt⟩

/-- A writer at address 7 opens facility 5, draws, charges a fee, changes the rate in the same second
twice and capitalizes. -/
def Sample.ledgerCalls : List (Msg × LedgerCall) :=
  [(msg 7 10, .setWriter 7 true),
    (msg 7 10, .openFacility 5 { terms with capitalizeUnpaidInterest := true }),
    (msg 7 10, .recordDraw 5 1000000000), (msg 7 86410, .recordFee 5 5),
    (msg 7 86410, .setRate 5 500), (msg 7 86410, .setRate 5 700), (msg 7 172810, .capitalize 5)]

/-- The ledger before any call. -/
def Sample.deployedLedger : LedgerState := { now := 0, ledger := .initial }

theorem Sample.ledger_reachable : ∃ s, LedgerReachable s ∧
    s.now = 172810 ∧ s.ledger.isWriter 7 = true ∧ (s.ledger.facilities 5).exists_ = true ∧
    (s.ledger.facilities 5).fees = 5 ∧ (s.ledger.facilities 5).principal = 1000465753 := by
  have hview : ((deployedLedger.run ledgerCalls).map fun s =>
      (s.now, s.ledger.isWriter 7, (s.ledger.facilities 5).exists_, (s.ledger.facilities 5).fees,
        (s.ledger.facilities 5).principal)).toOption = some (172810, true, true, 5, 1000465753) := by
    decide +kernel
  obtain ⟨s, hrun, hs⟩ := map_eq_ok.mp (toOption_eq_some.mp hview)
  simp only [Prod.mk.injEq] at hs
  have hinitial : deployedLedger.Initial := rfl
  exact ⟨s, ⟨_, _, hinitial, LedgerState.run_steps hrun⟩, hs⟩

/-- A payment of any size is accepted a second later. -/
theorem ledger_never_blocks_sample : ∃ s, LedgerReachable s ∧
    ∀ received, 0 < received → ∃ p, s.ledger.allocate (Sample.msg 7 172811) 5 received = .ok p := by
  obtain ⟨s, hreach, hnow, hwriter, hexists, hfees, -⟩ := Sample.ledger_reachable
  obtain ⟨-, hblocks, -⟩ := ledger_never_blocks hreach hexists (by rw [hfees]; decide)
  refine ⟨s, hreach, (hblocks (Sample.msg 7 172811) ?_ (by decide +kernel) hwriter).2.2.2⟩
  rw [hnow]
  decide

/-! ### What an allocation pays -/

/-- The split of a payment: each part takes what the parts before it leave. -/
structure RepayResult.Splits (r : RepayResult) (received fees interest principal : Nat) : Prop where
  feePaid : r.feePaid = min received fees
  interestPaid : r.interestPaid = min (received - r.feePaid) interest
  principalPaid : r.principalPaid = min (received - r.feePaid - r.interestPaid) principal
  excess : r.excess = received - r.feePaid - r.interestPaid - r.principalPaid

theorem Facility.allocate_splits {f f' : Facility} {now received : Nat} {r : RepayResult}
    (h : f.allocate now received = .ok (r, f')) :
    r.Splits received f.fees (units (f.accumAt now)) f.principal ∧
      f'.interestAccum + r.interestPaid * denom = f.accumAt now ∧ f'.lastAccrualAt = now ∧
      r.newDebt < wordSize 256 := by
  unfold allocate at h
  obtain ⟨_, -, h⟩ := bind_eq_ok.mp h
  obtain ⟨g, hg, h⟩ := bind_eq_ok.mp h
  obtain ⟨-, rfl⟩ := accrue_ok hg
  obtain ⟨paid, hpaid, h⟩ := bind_eq_ok.mp h
  obtain ⟨accum, haccum, h⟩ := bind_eq_ok.mp h
  obtain ⟨debt, hdebt, h⟩ := bind_eq_ok.mp h
  obtain ⟨base, -, hdebt⟩ := bind_eq_ok.mp hdebt
  obtain ⟨hword, hsum⟩ := addW_eq_ok.mp hdebt
  rw [← hsum] at hword
  obtain ⟨-, rfl⟩ := mulW_eq_ok.mp hpaid
  obtain ⟨hwhole, rfl⟩ := subW_eq_ok.mp haccum
  have hres := pure_eq_ok.mp h
  simp only [Prod.mk.injEq] at hres
  obtain ⟨rfl, rfl⟩ := hres
  exact ⟨⟨Mirrors.ite_lt_eq_min .., Mirrors.ite_lt_eq_min .., Mirrors.ite_lt_eq_min .., rfl⟩,
    Nat.sub_add_cancel hwhole, rfl, hword⟩

/-- In every state that a run of the ledger reaches, an allocation pays the fees first, then the whole
units of interest and then the principal, up to the legal debt of the time. What it leaves is the debt
less what it applied, the fraction of a unit stays in the numerator, and no other facility changes. -/
theorem allocation_waterfall {s : LedgerState} (hreach : LedgerReachable s) {m : Msg} {id : FacilityId}
    {received : Nat} {r : RepayResult} {l : Ledger} (hnow : m.now < wordSize 64)
    (hrun : s.ledger.allocate m id received = .ok (r, l)) :
    (∀ debt, s.ledger.legalDebtAt id m.now = .ok debt ↔
      debt = s.ledger.debtAt id m.now ∧ debt < wordSize 256) ∧
    (r.feePaid + r.interestPaid + r.principalPaid + r.excess = received ∧
      r.applied = received - r.excess ∧ r.applied = min received (s.ledger.debtAt id m.now)) ∧
    (r.newDebt = s.ledger.debtAt id m.now - r.applied ∧ l.legalDebtAt id m.now = .ok r.newDebt) ∧
    (0 < r.interestPaid → r.feePaid = (s.ledger.facilities id).fees) ∧
    (0 < r.principalPaid → r.feePaid = (s.ledger.facilities id).fees ∧
      s.ledger.unpaidInterestAt id m.now = .ok r.interestPaid) ∧
    (0 < r.excess → r.newDebt = 0) ∧
    ((l.facilities id).interestAccum + r.interestPaid * denom =
        (s.ledger.facilities id).accumAt m.now ∧
      (l.facilities id).interestAccum % denom = (s.ledger.facilities id).accumAt m.now % denom) ∧
    ∀ i, i ≠ id → l.facilities i = s.ledger.facilities i := by
  obtain ⟨hexists, f, hf, rfl⟩ := Ledger.allocate_body hrun
  have hbounded := (LedgerState.Inv.reachable hreach).bounded id hexists
  obtain ⟨hkept, -, -, hwhole, happlied, hnewDebt, hfall⟩ := Facility.allocate_spec hf
  obtain ⟨⟨hfee, hinterest, hprincipal, hexcess⟩, haccum, hlast, hword⟩ :=
    Facility.allocate_splits hf
  have hdebt : s.ledger.debtAt id m.now = (s.ledger.facilities id).principal +
      (s.ledger.facilities id).fees + units ((s.ledger.facilities id).accumAt m.now) := rfl
  have hspent : r.applied = min received (s.ledger.debtAt id m.now) := happlied
  have hnarrow : f.Narrow := hbounded.toNarrow.allocate hnow hf
  have hafter : r.newDebt + r.applied = s.ledger.debtAt id m.now := hnewDebt ▸ hfall
  have hself : Function.update s.ledger.facilities id f id = f := Function.update_self ..
  refine ⟨?_, ⟨?_, by omega, hspent⟩, ⟨by omega, ?_⟩, ?_, ?_, ?_, ⟨?_, ?_⟩, ?_⟩
  · intro debt
    constructor
    · intro h
      refine ⟨(Ledger.legalDebtAt_eq_ok h).2, ?_⟩
      obtain ⟨_, -, h⟩ := bind_eq_ok.mp h
      obtain ⟨base, -, h⟩ := bind_eq_ok.mp h
      obtain ⟨interest, -, h⟩ := bind_eq_ok.mp h
      obtain ⟨hfits, rfl⟩ := addW_eq_ok.mp h
      exact hfits
    · rintro ⟨rfl, hfits⟩
      unfold Ledger.legalDebtAt
      rw [revertIf_of_not _ (by simp [hexists]), ok_bind]
      exact hbounded.legalDebtAt_eq hnow hfits
  · omega
  · have hopen : f.exists_ = true := hkept.exists_.trans hexists
    unfold Ledger.legalDebtAt
    show (do revertIf ((Function.update s.ledger.facilities id f id).exists_ = false) _
             Facility.legalDebtAt (Function.update s.ledger.facilities id f id) m.now) = _
    rw [hself, revertIf_of_not _ (by simp [hopen]), ok_bind, hnewDebt]
    exact hnarrow.legalDebtAt_eq hnow (hnewDebt ▸ hword)
  · intro hpaid
    omega
  · intro hpaid
    -- Something was left for the principal, so the fees and the whole units are covered.
    have hunits : r.interestPaid = units ((s.ledger.facilities id).accumAt m.now) := by omega
    refine ⟨by omega, ?_⟩
    unfold Ledger.unpaidInterestAt
    rw [revertIf_of_not _ (by simp [hexists]), ok_bind, hunits]
    exact hbounded.unpaidInterestAt hnow
  · intro hover
    omega
  · show (Function.update s.ledger.facilities id f id).interestAccum + _ = _
    rw [hself]
    exact haccum
  · show (Function.update s.ledger.facilities id f id).interestAccum % denom = _
    rw [hself, ← haccum, Nat.add_mul_mod_self_right]
  · intro i hi
    exact Function.update_of_ne hi ..

/-- A payment a day later covers the fee, the interest of the day and a part of the principal. -/
theorem allocation_waterfall_sample : ∃ s r l, LedgerReachable s ∧
    s.ledger.allocate (Sample.msg 7 259210) 5 200000 = .ok (r, l) ∧
    (r.feePaid, r.interestPaid, r.principalPaid, r.excess) = (5, 191870, 8125, 0) ∧
    r.applied = min 200000 (s.ledger.debtAt 5 259210) := by
  have hview : (do
      let s ← Sample.deployedLedger.run Sample.ledgerCalls
      let p ← s.ledger.allocate (Sample.msg 7 259210) 5 200000
      pure (p.1.feePaid, p.1.interestPaid, p.1.principalPaid, p.1.excess) :
      Except Revert _).toOption = some (5, 191870, 8125, 0) := by
    decide +kernel
  obtain ⟨s, hs, hview⟩ := bind_eq_ok.mp (toOption_eq_some.mp hview)
  obtain ⟨⟨r, l⟩, hrun, hview⟩ := bind_eq_ok.mp hview
  have hinitial : Sample.deployedLedger.Initial := rfl
  have hreach : LedgerReachable s := ⟨_, _, hinitial, LedgerState.run_steps hs⟩
  obtain ⟨-, ⟨-, -, happlied⟩, -⟩ := allocation_waterfall hreach (by decide +kernel) hrun
  exact ⟨s, r, l, hreach, hrun, pure_eq_ok.mp hview, happlied⟩

end Rackline
