import Rackline.PoolRun
import Rackline.Lib.Sum

/-!
# `Rackline.Proofs.Ledger`: the exact debt of a facility

`Facility.debtAt` is the legal debt at a time as a plain natural: principal, fees and the
whole units of the exact interest numerator, with the pending accrual included. The
contract's checked `legalDebtAt` returns this number whenever it returns.

Every writer operation first accrues, and accruing moves no debt (`debtAt_accrued`). What an
operation does to the debt at the time of the call is then one line: nothing, plus the drawn
or charged amount, or minus the applied amount. `debtAt_mono` carries the result to later
times.

`Ledger.WF` is the shape of the facility list. `LedgerCall.exec_grows` sums up a ledger call
that is not an allocation: it keeps the shape and lowers no debt. `Ledger.allocate_ok` is the
allocation.
-/

set_option autoImplicit false

namespace Rackline

open Evm Finset

namespace InterestMath

theorem growth_eq_ok {principal rateBps elapsed g : Nat}
    (h : growth principal rateBps elapsed = .ok g) : g = principal * rateBps * elapsed := by
  unfold growth at h
  obtain ⟨_, -, h⟩ := bind_eq_ok.mp h
  obtain ⟨x, hx, h⟩ := bind_eq_ok.mp h
  obtain ⟨-, rfl⟩ := mulW_eq_ok.mp hx
  exact (mulW_eq_ok.mp h).2

theorem denom_pos : 0 < denom := by decide

/-- Whole units taken out of the numerator leave the fraction. -/
theorem units_sub_mul {accum u : Nat} (h : u * denom ≤ accum) :
    units (accum - u * denom) = units accum - u := by
  unfold units
  rw [Nat.mul_comm] at h ⊢
  exact Nat.sub_mul_div_of_le _ _ _ h

theorem mul_denom_le_of_le_units {accum u : Nat} (h : u ≤ units accum) : u * denom ≤ accum :=
  (Nat.le_div_iff_mul_le denom_pos).mp h

end InterestMath

namespace Facility

open InterestMath

/-- The exact numerator of the unpaid interest at `t`, with the pending accrual. -/
def accumAt (f : Facility) (t : Nat) : Nat :=
  f.interestAccum + (if f.frozen = true then 0 else f.principal * f.rateBps * (t - f.lastAccrualAt))

/-- The exact legal debt at `t`. -/
def debtAt (f : Facility) (t : Nat) : Nat := f.principal + f.fees + units (f.accumAt t)

/-- The facility after accruing to `now`. -/
def accrued (f : Facility) (now : Nat) : Facility :=
  { f with interestAccum := f.accumAt now, lastAccrualAt := now }

variable {f f' : Facility}

theorem unpaidInterestAt_eq_ok {t d : Nat} (h : f.unpaidInterestAt t = .ok d) :
    d = units (f.accumAt t) := by
  unfold unpaidInterestAt at h
  split at h
  · rename_i hc
    cases h
    rcases hc with hc | hc | hc
    · simp [accumAt, hc]
    · simp [accumAt, Nat.sub_eq_zero_of_le hc]
    · simp [accumAt, hc]
  · rename_i hc
    obtain ⟨g, hg, h⟩ := bind_eq_ok.mp h
    obtain ⟨a, ha, h⟩ := bind_eq_ok.mp h
    obtain ⟨-, rfl⟩ := addW_eq_ok.mp ha
    have hfrozen : f.frozen ≠ true := fun hf => hc (Or.inl hf)
    rw [← pure_eq_ok.mp h, growth_eq_ok hg]
    simp [accumAt, hfrozen]

/-- The contract's `legalDebtAt` returns the exact debt. -/
theorem legalDebtAt_eq_ok {t d : Nat} (h : f.legalDebtAt t = .ok d) : d = f.debtAt t := by
  unfold legalDebtAt at h
  obtain ⟨base, hb, h⟩ := bind_eq_ok.mp h
  obtain ⟨i, hi, h⟩ := bind_eq_ok.mp h
  obtain ⟨-, rfl⟩ := addW_eq_ok.mp hb
  obtain ⟨-, rfl⟩ := addW_eq_ok.mp h
  rw [unpaidInterestAt_eq_ok hi]
  rfl

/-- Debt never falls by the passing of time. -/
theorem debtAt_mono (f : Facility) {t t' : Nat} (h : t ≤ t') : f.debtAt t ≤ f.debtAt t' := by
  unfold debtAt
  refine Nat.add_le_add_left (Nat.div_le_div_right ?_) _
  unfold accumAt
  split
  · exact Nat.le_refl _
  · exact Nat.add_le_add_left (Nat.mul_le_mul_left _ (by omega)) _

/-- At the time of the last accrual the debt is the recorded one. -/
theorem debtAt_lastAccrualAt (f : Facility) :
    f.debtAt f.lastAccrualAt = f.principal + f.fees + units f.interestAccum := by
  simp [debtAt, accumAt]

/-- `_accrue` brings the numerator up to `now` and changes nothing else. -/
theorem accrue_ok {now : Nat} (h : f.accrue now = .ok f') :
    f.lastAccrualAt ≤ now ∧ f' = f.accrued now := by
  unfold accrue at h
  obtain ⟨_, hback, h⟩ := bind_eq_ok.mp h
  have hle : f.lastAccrualAt ≤ now := Nat.le_of_not_lt (revertIf_eq_ok.mp hback)
  refine ⟨hle, ?_⟩
  split at h
  · rename_i heq
    rw [← pure_eq_ok.mp h]
    simp [accrued, accumAt, heq]
  · split at h
    · rename_i hc
      obtain ⟨g, hg, h⟩ := bind_eq_ok.mp h
      obtain ⟨a, ha, h⟩ := bind_eq_ok.mp h
      obtain ⟨-, rfl⟩ := addW_eq_ok.mp ha
      rw [← pure_eq_ok.mp h, growth_eq_ok hg]
      simp [accrued, accumAt, hc.1]
    · rename_i hc
      rw [← pure_eq_ok.mp h]
      by_cases hf : f.frozen = true
      · simp [accrued, accumAt, hf]
      · have hp : f.principal = 0 := by
          by_contra hne
          exact hc ⟨by simpa using hf, hne⟩
        simp [accrued, accumAt, hp]

/-- Accruing moves no debt. -/
theorem debtAt_accrued {now t : Nat} (hl : f.lastAccrualAt ≤ now) (ht : now ≤ t) :
    (f.accrued now).debtAt t = f.debtAt t := by
  have haccum : (f.accrued now).accumAt t = f.accumAt t := by
    have hsplit : t - f.lastAccrualAt = (now - f.lastAccrualAt) + (t - now) := by omega
    unfold accrued accumAt
    split
    · simp [*]
    · simp only [hsplit, Nat.mul_add]
      omega
  simp only [debtAt, haccum]
  rfl

section
variable {now : Nat}

/-- The shape every operation below ends in: accrued to `now`, so that the debt at `now` is
the recorded one. -/
theorem debtAt_of_lastAccrualAt (f : Facility) (h : f.lastAccrualAt = now) :
    f.debtAt now = f.principal + f.fees + units f.interestAccum := by
  subst h
  exact debtAt_lastAccrualAt f

/-- What no operation but `setState` changes. -/
structure Kept (f f' : Facility) : Prop where
  exists_ : f'.exists_ = f.exists_
  state : f'.state = f.state
  terms : f'.terms = f.terms

/-- The debt of `f` at `now`, as an operation that has just accrued sees it. -/
theorem debtAt_eq_accrued (f : Facility) (now : Nat) :
    f.debtAt now = (f.accrued now).principal + (f.accrued now).fees +
      units (f.accrued now).interestAccum := rfl

theorem accrue_spec (h : f.accrue now = .ok f') : f.Kept f' ∧ f'.debtAt now = f.debtAt now := by
  obtain ⟨hle, rfl⟩ := accrue_ok h
  exact ⟨⟨rfl, rfl, rfl⟩, debtAt_accrued hle (Nat.le_refl _)⟩

/-- A rate change counts from the time of the call on. -/
theorem setRate_spec {rateBps : Nat} (h : f.setRate now rateBps = .ok f') :
    f.Kept f' ∧ f'.debtAt now = f.debtAt now := by
  unfold setRate at h
  obtain ⟨g, hg, h⟩ := bind_eq_ok.mp h
  obtain ⟨-, rfl⟩ := accrue_ok hg
  split at h
  · cases h
  · obtain rfl := pure_eq_ok.mp h
    refine ⟨⟨rfl, rfl, rfl⟩, ?_⟩
    rw [debtAt_eq_accrued f]
    exact debtAt_of_lastAccrualAt _ rfl

/-- A draw adds its amount to the debt. -/
theorem recordDraw_spec {id : FacilityId} {amount : Nat}
    (h : f.recordDraw now id amount = .ok f') :
    f.Kept f' ∧ f'.debtAt now = f.debtAt now + amount := by
  unfold recordDraw at h
  obtain ⟨_, -, h⟩ := bind_eq_ok.mp h
  obtain ⟨_, -, h⟩ := bind_eq_ok.mp h
  obtain ⟨g, hg, h⟩ := bind_eq_ok.mp h
  obtain ⟨p, hp, h⟩ := bind_eq_ok.mp h
  obtain ⟨_, -, h⟩ := bind_eq_ok.mp h
  obtain ⟨-, rfl⟩ := accrue_ok hg
  obtain ⟨-, rfl⟩ := addW_eq_ok.mp hp
  obtain rfl := pure_eq_ok.mp h
  refine ⟨⟨rfl, rfl, rfl⟩, (debtAt_of_lastAccrualAt _ rfl).trans ?_⟩
  rw [debtAt_eq_accrued f]
  simp only
  omega

/-- A fee adds its amount to the debt. -/
theorem recordFee_spec {amount : Nat} (h : f.recordFee now amount = .ok f') :
    f.Kept f' ∧ f'.debtAt now = f.debtAt now + amount := by
  unfold recordFee at h
  obtain ⟨_, -, h⟩ := bind_eq_ok.mp h
  obtain ⟨g, hg, h⟩ := bind_eq_ok.mp h
  obtain ⟨x, hx, h⟩ := bind_eq_ok.mp h
  obtain ⟨-, rfl⟩ := accrue_ok hg
  obtain ⟨-, rfl⟩ := addW_eq_ok.mp hx
  obtain rfl := pure_eq_ok.mp h
  refine ⟨⟨rfl, rfl, rfl⟩, (debtAt_of_lastAccrualAt _ rfl).trans ?_⟩
  rw [debtAt_eq_accrued f]
  simp only
  omega

theorem freezeAccrual_spec (h : f.freezeAccrual now = .ok f') :
    f.Kept f' ∧ f'.debtAt now = f.debtAt now := by
  unfold freezeAccrual at h
  obtain ⟨g, hg, h⟩ := bind_eq_ok.mp h
  obtain ⟨-, rfl⟩ := accrue_ok hg
  obtain rfl := pure_eq_ok.mp h
  refine ⟨⟨rfl, rfl, rfl⟩, ?_⟩
  rw [debtAt_eq_accrued f]
  exact debtAt_of_lastAccrualAt _ rfl

/-- Capitalizing moves whole units of interest to principal, so the debt stays. -/
theorem capitalize_spec {id : FacilityId} (h : f.capitalize now id = .ok f') :
    f.Kept f' ∧ f'.debtAt now = f.debtAt now := by
  unfold capitalize at h
  obtain ⟨_, -, h⟩ := bind_eq_ok.mp h
  obtain ⟨_, -, h⟩ := bind_eq_ok.mp h
  obtain ⟨g, hg, h⟩ := bind_eq_ok.mp h
  obtain ⟨hle, rfl⟩ := accrue_ok hg
  dsimp only at h
  split at h
  · obtain rfl := pure_eq_ok.mp h
    exact ⟨⟨rfl, rfl, rfl⟩, debtAt_accrued hle (Nat.le_refl _)⟩
  · obtain ⟨x, hx, h⟩ := bind_eq_ok.mp h
    obtain ⟨y, hy, h⟩ := bind_eq_ok.mp h
    obtain ⟨z, hz, h⟩ := bind_eq_ok.mp h
    obtain ⟨_, -, h⟩ := bind_eq_ok.mp h
    obtain ⟨-, rfl⟩ := mulW_eq_ok.mp hx
    obtain ⟨hsub, rfl⟩ := subW_eq_ok.mp hy
    obtain ⟨-, rfl⟩ := addW_eq_ok.mp hz
    obtain rfl := pure_eq_ok.mp h
    refine ⟨⟨rfl, rfl, rfl⟩, (debtAt_of_lastAccrualAt _ rfl).trans ?_⟩
    rw [debtAt_eq_accrued f]
    simp only [units_sub_mul hsub]
    omega

/-- The split of a payment over fees, interest and principal, each paid only after the one
before is covered: nothing is lost, the debts together take what they can, and what they take
is what they fall by. -/
theorem waterfall {received fees interest principal fee int prin rest : Nat}
    (hfee : fee = if received < fees then received else fees)
    (hint : int = if received - fee < interest then received - fee else interest)
    (hprin : prin = if received - fee - int < principal then received - fee - int else principal)
    (hrest : rest = received - fee - int - prin) :
    received - rest + rest = received ∧
    received - rest = min received (principal + fees + interest) ∧
    principal - prin + (fees - fee) + (interest - int) + (received - rest) =
      principal + fees + interest := by
  split at hfee
  · split at hint <;> split at hprin <;> omega
  · split at hint <;> split at hprin <;> omega

/-- What an allocation returns and writes: the debt at the time of the call falls by what was
applied. -/
theorem allocate_spec {received : Nat} {r : RepayResult}
    (h : f.allocate now received = .ok (r, f')) :
    f.Kept f' ∧ received ≠ 0 ∧
    r.received = received ∧ r.applied + r.excess = received ∧
    r.applied = min received (f.debtAt now) ∧
    r.newDebt = f'.debtAt now ∧ f'.debtAt now + r.applied = f.debtAt now := by
  unfold allocate at h
  obtain ⟨_, hz, h⟩ := bind_eq_ok.mp h
  obtain ⟨g, hg, h⟩ := bind_eq_ok.mp h
  obtain ⟨-, rfl⟩ := accrue_ok hg
  obtain ⟨x, hx, h⟩ := bind_eq_ok.mp h
  obtain ⟨y, hy, h⟩ := bind_eq_ok.mp h
  obtain ⟨d, hd, h⟩ := bind_eq_ok.mp h
  obtain ⟨-, rfl⟩ := mulW_eq_ok.mp hx
  obtain ⟨hsub, rfl⟩ := subW_eq_ok.mp hy
  have hres := pure_eq_ok.mp h
  simp only [Prod.mk.injEq] at hres
  obtain ⟨rfl, hf'⟩ := hres
  -- The recorded debt after the split is the exact one: the facility was just accrued.
  have hdebt' : f'.debtAt now = f'.principal + f'.fees + units f'.interestAccum :=
    debtAt_of_lastAccrualAt f' (by rw [← hf']; rfl)
  have hdebt : f.debtAt now = f.principal + f.fees + units (f.accumAt now) := rfl
  unfold legalDebt at hd
  obtain ⟨base, hb, hd⟩ := bind_eq_ok.mp hd
  obtain ⟨-, rfl⟩ := addW_eq_ok.mp hb
  obtain ⟨-, rfl⟩ := addW_eq_ok.mp hd
  rw [hdebt', hdebt]
  clear hdebt hdebt'
  subst hf'
  simp only [accrued] at hsub ⊢
  rw [units_sub_mul hsub]
  clear hsub
  obtain ⟨hwhole, hmin, hfall⟩ :=
    @waterfall received f.fees (units (f.accumAt now)) f.principal _ _ _ _ rfl rfl rfl rfl
  exact ⟨⟨rfl, rfl, rfl⟩, revertIf_eq_ok.mp hz, trivial, hwhole, hmin, trivial, hfall⟩

end

end Facility

namespace Ledger

/-- The exact debt of a facility of the ledger. -/
def debtAt (l : Ledger) (id : FacilityId) (t : Nat) : Nat := (l.facilities id).debtAt t

/-- The facility list has each open facility once, and a facility that is not open is the
zero struct. -/
structure WF (l : Ledger) : Prop where
  nodup : l.ids.Nodup
  mem_iff : ∀ id, id ∈ l.ids ↔ (l.facilities id).exists_ = true
  empty : ∀ id, id ∉ l.ids → l.facilities id = .empty

theorem wf_initial : WF .initial :=
  ⟨List.nodup_nil, fun id => by simp [initial, Facility.empty], fun _ _ => rfl⟩

variable {l l' : Ledger} {m : Msg}

/-- A facility that is not open owes nothing. -/
theorem WF.debtAt_eq_zero (h : WF l) {id : FacilityId} (hid : id ∉ l.ids) (t : Nat) :
    l.debtAt id t = 0 := by
  simp [debtAt, h.empty id hid, Facility.empty, Facility.debtAt, Facility.accumAt,
    InterestMath.units]

theorem legalDebtAt_eq_ok {id : FacilityId} {t d : Nat} (h : l.legalDebtAt id t = .ok d) :
    (l.facilities id).exists_ = true ∧ d = l.debtAt id t := by
  unfold legalDebtAt at h
  obtain ⟨_, hx, h⟩ := bind_eq_ok.mp h
  exact ⟨by simpa using revertIf_eq_ok.mp hx, Facility.legalDebtAt_eq_ok h⟩

theorem unpaidInterestAt_exists {id : FacilityId} {t d : Nat}
    (h : l.unpaidInterestAt id t = .ok d) : (l.facilities id).exists_ = true := by
  unfold unpaidInterestAt at h
  obtain ⟨_, hx, -⟩ := bind_eq_ok.mp h
  simpa using revertIf_eq_ok.mp hx

/-- The loop of `totalLegalDebtAt` adds the exact debts, and every one of them was readable
on the way. -/
theorem sumLegalDebtAt_eq_ok {t : Nat} : ∀ {ids : List FacilityId} {acc total : Nat},
    l.sumLegalDebtAt t ids acc = .ok total →
      total = acc + (ids.map fun id => l.debtAt id t).sum ∧
      ∀ id ∈ ids, ∃ d, (l.facilities id).legalDebtAt t = .ok d := by
  intro ids
  induction ids with
  | nil =>
    intro acc total h
    cases h
    simp
  | cons id rest ih =>
    intro acc total h
    unfold sumLegalDebtAt at h
    obtain ⟨d, hd, h⟩ := bind_eq_ok.mp h
    obtain ⟨acc', hacc, h⟩ := bind_eq_ok.mp h
    obtain ⟨-, rfl⟩ := addW_eq_ok.mp hacc
    obtain ⟨htotal, hall⟩ := ih h
    refine ⟨?_, fun x hx => ?_⟩
    · rw [htotal, Facility.legalDebtAt_eq_ok hd]
      simp only [List.map_cons, List.sum_cons, debtAt]
      omega
    · rcases List.mem_cons.mp hx with rfl | hx
      · exact ⟨d, hd⟩
      · exact hall x hx

theorem totalLegalDebtAt_eq_ok {t total : Nat} (h : l.totalLegalDebtAt t = .ok total) :
    total = (l.ids.map fun id => l.debtAt id t).sum ∧
      ∀ id ∈ l.ids, ∃ d, (l.facilities id).legalDebtAt t = .ok d := by
  simpa using sumLegalDebtAt_eq_ok h

/-- An operation on one facility: what it wrote, and nothing else. -/
theorem modifyFacility_ok {id : FacilityId} {body : Facility → Except Revert Facility}
    (h : l.modifyFacility m id body = .ok l') :
    (l.facilities id).exists_ = true ∧
    ∃ f, body (l.facilities id) = .ok f ∧
      l' = { l with facilities := Function.update l.facilities id f } := by
  unfold modifyFacility at h
  obtain ⟨_, -, h⟩ := bind_eq_ok.mp h
  obtain ⟨_, hx, h⟩ := bind_eq_ok.mp h
  obtain ⟨f, hf, h⟩ := bind_eq_ok.mp h
  exact ⟨by simpa using revertIf_eq_ok.mp hx, f, hf, (pure_eq_ok.mp h).symm⟩

/-- A write to an open facility that leaves it open keeps the shape of the ledger. -/
theorem WF.update (h : WF l) {id : FacilityId} {f : Facility}
    (hx : (l.facilities id).exists_ = true) (hf : f.exists_ = true) :
    WF { l with facilities := Function.update l.facilities id f } := by
  refine ⟨h.nodup, fun i => ?_, fun i hi => ?_⟩
  · by_cases hid : i = id
    · subst hid
      simpa [hf] using (h.mem_iff i).mpr hx
    · simpa [Function.update_of_ne hid] using h.mem_iff i
  · have hid : i ≠ id := by
      rintro rfl
      exact hi ((h.mem_iff i).mpr hx)
    simpa [Function.update_of_ne hid] using h.empty i hi

/-- A ledger call that is not an allocation: the shape survives, open facilities stay open,
and no debt at the time of the call, or later, is lowered at the time of the call. -/
structure Grows (now : Nat) (l l' : Ledger) : Prop where
  wf : WF l → WF l'
  ids : ∀ id ∈ l.ids, id ∈ l'.ids
  debt : WF l → ∀ id, l.debtAt id now ≤ l'.debtAt id now

theorem Grows.of_facilities {now : Nat} (hids : l'.ids = l.ids)
    (hfac : l'.facilities = l.facilities) : Grows now l l' := by
  refine ⟨fun h => ?_, fun id hid => hids ▸ hid, fun _ id => ?_⟩
  · exact ⟨hids ▸ h.nodup, fun id => by rw [hids, hfac]; exact h.mem_iff id,
      fun id hid => by rw [hfac]; exact h.empty id (hids ▸ hid)⟩
  · simp [debtAt, hfac]

/-- An operation on one facility grows the ledger when it keeps the facility open and does
not lower its debt. -/
theorem Grows.of_modify {id : FacilityId} {body : Facility → Except Revert Facility}
    (h : l.modifyFacility m id body = .ok l')
    (hbody : ∀ f f', body f = .ok f' →
      f'.exists_ = f.exists_ ∧ f.debtAt m.now ≤ f'.debtAt m.now) : Grows m.now l l' := by
  obtain ⟨hx, f, hf, rfl⟩ := modifyFacility_ok h
  obtain ⟨hkeep, hdebt⟩ := hbody _ _ hf
  refine ⟨fun hw => hw.update hx (hkeep.trans hx), fun _ hi => hi, fun _ i => ?_⟩
  by_cases hid : i = id
  · subst hid
    simpa [debtAt] using hdebt
  · simp [debtAt, Function.update_of_ne hid]

theorem Grows.of_open {id : FacilityId} {t : Terms} (h : l.openFacility m id t = .ok l') :
    Grows m.now l l' := by
  unfold openFacility at h
  obtain ⟨_, -, h⟩ := bind_eq_ok.mp h
  obtain ⟨_, hx, h⟩ := bind_eq_ok.mp h
  obtain ⟨_, -, h⟩ := bind_eq_ok.mp h
  obtain ⟨_, -, h⟩ := bind_eq_ok.mp h
  obtain ⟨_, -, h⟩ := bind_eq_ok.mp h
  have hx' : (l.facilities id).exists_ = false := by simpa using revertIf_eq_ok.mp hx
  rw [← pure_eq_ok.mp h]
  refine ⟨fun hw => ?_, fun i hi => by simp [hi], fun hw i => ?_⟩
  · have hnot : id ∉ l.ids := fun hmem => by simp [(hw.mem_iff id).mp hmem] at hx'
    refine ⟨?_, fun i => ?_, fun i hi => ?_⟩
    · refine List.nodup_append.mpr ⟨hw.nodup, List.nodup_singleton _, fun a ha b hb => ?_⟩
      rw [List.mem_singleton.mp hb]
      rintro rfl
      exact hnot ha
    · by_cases hid : i = id
      · simp [hid]
      · simpa [Function.update_of_ne hid, hid] using hw.mem_iff i
    · have hid : i ≠ id := by
        rintro rfl
        simp at hi
      simpa [Function.update_of_ne hid] using hw.empty i (by
        intro hmem
        exact hi (by simp [hmem]))
  · by_cases hid : i = id
    · subst hid
      have hnot : i ∉ l.ids := fun hmem => by simp [(hw.mem_iff i).mp hmem] at hx'
      rw [hw.debtAt_eq_zero hnot]
      exact Nat.zero_le _
    · simp [debtAt, Function.update_of_ne hid]

/-- A recorded draw adds its amount to one facility's debt and touches no other facility. -/
theorem recordDraw_ok {id : FacilityId} {amount : Nat}
    (h : l.recordDraw m id amount = .ok l') :
    (l.facilities id).exists_ = true ∧ l'.ids = l.ids ∧
    (∀ i, i ≠ id → l'.facilities i = l.facilities i) ∧
    l'.debtAt id m.now = l.debtAt id m.now + amount := by
  obtain ⟨hx, f, hf, rfl⟩ := modifyFacility_ok h
  refine ⟨hx, rfl, fun i hi => Function.update_of_ne hi _ _, ?_⟩
  simpa [debtAt] using (Facility.recordDraw_spec hf).2

/-- An allocation pays `applied` of one facility's debt and touches no other facility. -/
theorem allocate_ok {id : FacilityId} {received : Nat} {r : RepayResult}
    (h : l.allocate m id received = .ok (r, l')) :
    (l.facilities id).exists_ = true ∧ received ≠ 0 ∧
    r.received = received ∧ r.applied + r.excess = received ∧
    r.applied = min received (l.debtAt id m.now) ∧
    r.newDebt = l'.debtAt id m.now ∧ l'.debtAt id m.now + r.applied = l.debtAt id m.now ∧
    (∀ i, i ≠ id → l'.facilities i = l.facilities i) ∧ l'.ids = l.ids ∧
    (l.facilities id).Kept (l'.facilities id) := by
  unfold allocate at h
  obtain ⟨_, -, h⟩ := bind_eq_ok.mp h
  obtain ⟨_, hx, h⟩ := bind_eq_ok.mp h
  obtain ⟨⟨r', f⟩, hf, h⟩ := bind_eq_ok.mp h
  have hres := pure_eq_ok.mp h
  simp only [Prod.mk.injEq] at hres
  obtain ⟨rfl, rfl⟩ := hres
  have hx' : (l.facilities id).exists_ = true := by simpa using revertIf_eq_ok.mp hx
  obtain ⟨hkept, hz, h₁, h₂, h₃, h₄, h₅⟩ := Facility.allocate_spec hf
  exact ⟨hx', hz, h₁, h₂, h₃, by simpa [debtAt] using h₄, by simpa [debtAt] using h₅,
    fun i hi => by simp [Function.update_of_ne hi], rfl, by simpa using hkept⟩

theorem WF.allocate (hw : WF l) {id : FacilityId} {received : Nat} {r : RepayResult}
    (h : l.allocate m id received = .ok (r, l')) : WF l' := by
  obtain ⟨hx, -, -, -, -, -, -, hfac, hids, hkept⟩ := allocate_ok h
  have hx' : (l'.facilities id).exists_ = true := hkept.exists_.trans hx
  refine ⟨hids ▸ hw.nodup, fun i => ?_, fun i hi => ?_⟩
  · by_cases hid : i = id
    · subst hid
      rw [hids]
      simp [hx', (hw.mem_iff i).mpr hx]
    · rw [hids, hfac i hid]
      exact hw.mem_iff i
  · have hid : i ≠ id := by
      rintro rfl
      exact hi (hids ▸ (hw.mem_iff i).mpr hx)
    rw [hfac i hid]
    exact hw.empty i (hids ▸ hi)

end Ledger

/-- Every ledger call but an allocation grows the ledger. -/
theorem LedgerCall.exec_grows {m : Msg} {l l' : Ledger} {c : LedgerCall}
    (hc : ∀ id received, c ≠ .allocate id received) (h : c.exec m l = .ok l') :
    Ledger.Grows m.now l l' := by
  cases c with
  | setWriter writer enabled =>
    simp only [exec, Ledger.setWriter] at h
    obtain ⟨_, -, h⟩ := bind_eq_ok.mp h
    obtain ⟨_, -, h⟩ := bind_eq_ok.mp h
    exact .of_facilities (by rw [← pure_eq_ok.mp h]) (by rw [← pure_eq_ok.mp h])
  | finalizeWiring =>
    simp only [exec, Ledger.finalizeWiring] at h
    obtain ⟨_, -, h⟩ := bind_eq_ok.mp h
    obtain ⟨_, -, h⟩ := bind_eq_ok.mp h
    exact .of_facilities (by rw [← pure_eq_ok.mp h]) (by rw [← pure_eq_ok.mp h])
  | openFacility id terms => exact .of_open h
  | setState id state =>
    simp only [exec, Ledger.setState] at h
    refine .of_modify h fun f f' hf => ?_
    cases hf
    exact ⟨rfl, Nat.le_refl _⟩
  | accrue id =>
    simp only [exec, Ledger.accrue] at h
    refine .of_modify h fun f f' hf => ?_
    obtain ⟨hkept, hdebt⟩ := Facility.accrue_spec hf
    exact ⟨hkept.exists_, hdebt.ge⟩
  | setRate id rateBps =>
    simp only [exec, Ledger.setRate] at h
    refine .of_modify h fun f f' hf => ?_
    obtain ⟨hkept, hdebt⟩ := Facility.setRate_spec hf
    exact ⟨hkept.exists_, hdebt.ge⟩
  | recordDraw id amount =>
    simp only [exec, Ledger.recordDraw] at h
    refine .of_modify h fun f f' hf => ?_
    obtain ⟨hkept, hdebt⟩ := Facility.recordDraw_spec hf
    exact ⟨hkept.exists_, by omega⟩
  | recordFee id amount =>
    simp only [exec, Ledger.recordFee] at h
    refine .of_modify h fun f f' hf => ?_
    obtain ⟨hkept, hdebt⟩ := Facility.recordFee_spec hf
    exact ⟨hkept.exists_, by omega⟩
  | freezeAccrual id =>
    simp only [exec, Ledger.freezeAccrual] at h
    refine .of_modify h fun f f' hf => ?_
    obtain ⟨hkept, hdebt⟩ := Facility.freezeAccrual_spec hf
    exact ⟨hkept.exists_, hdebt.ge⟩
  | capitalize id =>
    simp only [exec, Ledger.capitalize] at h
    refine .of_modify h fun f f' hf => ?_
    obtain ⟨hkept, hdebt⟩ := Facility.capitalize_spec hf
    exact ⟨hkept.exists_, hdebt.ge⟩
  | allocate id received => exact absurd rfl (hc id received)

end Rackline
