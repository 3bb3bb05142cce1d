import Rackline.DebtProjection
import Rackline.Proofs.Emissions

/-!
# `Rackline.Proofs.DebtProjection`: the projected facilities against the ledger

The ledger keeps the exact numerator of the unpaid interest, and its events tell whole units. A row
shows a facility when it has the whole units of the numerator (`ProjectedFacility.Shows`). Every
operation of the ledger changes the whole units by what its events say: an accrual tells the
difference of the units, and a payment or a capitalization takes whole units out of the numerator.

`Reads` is this for one operation on one facility. `Tracks` lifts it to the rows of all
facilities, and the decomposition `Emits` of the calls into operations gives it for every call. Only
an opening can be refused, when the profile of its terms is not the one of the deployment.
-/

set_option autoImplicit false

namespace Rackline

open Evm EventLog Transition

/-! ### One facility -/

/-- What a row says about the account of its facility and about its state. -/
structure ProjectedFacility.Shows (r : ProjectedFacility) (f : Facility) (state : FacilityState) :
    Prop where
  principal : r.principal = f.principal
  fees : r.fees = f.fees
  unpaidInterest : r.unpaidInterestRecorded = InterestMath.units f.interestAccum
  accrualFrozen : r.accrualFrozen = f.frozen
  state : r.state = state

/-- The events take a row that shows the one account to a row that shows the other. -/
def Reads (profile : ExecutionProfile) (logs : List ProtocolLog) (f : Facility)
    (state : FacilityState) (f' : Facility) (state' : FacilityState) : Prop :=
  ∀ r : ProjectedFacility, r.Shows f state →
    ∃ r' : ProjectedFacility, EventLog.fold (ProjectedFacility.fold profile) r logs = .ok r' ∧
      r'.Shows f' state'

section
variable {profile : ExecutionProfile} {logs more : List ProtocolLog} {log : ProtocolLog}
  {f f₁ f₂ : Facility} {state state₁ state₂ : FacilityState}

theorem Reads.nil (h : ∀ r : ProjectedFacility, r.Shows f state → r.Shows f₁ state₁) :
    Reads profile [] f state f₁ state₁ := fun r hr => ⟨r, rfl, h r hr⟩

theorem Reads.append (h : Reads profile logs f state f₁ state₁)
    (h' : Reads profile more f₁ state₁ f₂ state₂) :
    Reads profile (logs ++ more) f state f₂ state₂ := by
  intro r hr
  obtain ⟨r₁, hfold, hr₁⟩ := h r hr
  obtain ⟨r₂, hfold', hr₂⟩ := h' r₁ hr₁
  exact ⟨r₂, by rw [fold_append hfold, hfold'], hr₂⟩

theorem Reads.single (h : ∀ r : ProjectedFacility, r.Shows f state →
    ∃ r' : ProjectedFacility, r.fold profile log = .ok r' ∧ r'.Shows f₁ state₁) :
    Reads profile [log] f state f₁ state₁ := by
  intro r hr
  obtain ⟨r', hfold, hr'⟩ := h r hr
  exact ⟨r', by rw [fold_single, hfold], hr'⟩

end

namespace Facility

open InterestMath

variable {profile : ExecutionProfile} {id : FacilityId} {now : Nat} {f f' : Facility}
  {state : FacilityState}

/-- The events of one operation of the ledger on the facility. The state of the manager stays, and
so does whether the facility is open. -/
structure Tells (profile : ExecutionProfile) (id : FacilityId) (events : List LedgerEvent)
    (state : FacilityState) (f f' : Facility) : Prop where
  facility : ∀ e ∈ events, e.facilityId = id
  exists_ : f'.exists_ = f.exists_
  reads : Reads profile (events.map .ledger) f state f' state

theorem Tells.append {events more : List LedgerEvent} {f₁ f₂ : Facility}
    (h : Tells profile id events state f f₁) (h' : Tells profile id more state f₁ f₂) :
    Tells profile id (events ++ more) state f f₂ := by
  refine ⟨fun e he => ?_, h'.exists_.trans h.exists_, ?_⟩
  · rcases List.mem_append.mp he with he | he
    · exact h.facility e he
    · exact h'.facility e he
  · rw [List.map_append]
    exact h.reads.append h'.reads

theorem Tells.single {e : LedgerEvent} (hid : e.facilityId = id) (hx : f'.exists_ = f.exists_)
    (h : ∀ r : ProjectedFacility, r.Shows f state →
      ∃ r' : ProjectedFacility, r.fold profile (.ledger e) = .ok r' ∧ r'.Shows f' state) :
    Tells profile id [e] state f f' := by
  refine ⟨fun e' he => ?_, hx, .single h⟩
  rw [List.mem_singleton.mp he]
  exact hid

/-- Without an event, what a row shows is the same. -/
theorem Tells.nil (hx : f'.exists_ = f.exists_)
    (h : ∀ r : ProjectedFacility, r.Shows f state → r.Shows f' state) :
    Tells profile id [] state f f' := ⟨(by simp), hx, .nil h⟩

/-- Accruing tells by how many whole units the interest has grown. -/
theorem accrue_tells (h : f.accrue now = .ok f') :
    Tells profile id (f.accrueLogs now id) state f f' := by
  have hkept := (accrue_spec h).1
  have hf' := (accrue_ok h).2
  unfold accrueLogs
  split
  · rename_i heq
    -- In the second of the last accrual nothing is pending.
    refine .nil hkept.exists_ fun r hr => ?_
    have hsame : f' = f := by
      rw [hf']
      simp [accrued, accumAt, heq]
    rw [hsame]
    exact hr
  · split
    · rename_i hc
      rw [h]
      refine .single rfl hkept.exists_ fun r hr => ⟨_, rfl, ?_⟩
      have hgrow : units f.interestAccum ≤ units f'.interestAccum := by
        rw [hf']
        exact Nat.div_le_div_right (Nat.le_add_right _ _)
      refine ⟨?_, ?_, ?_, ?_, hr.state⟩
      · rw [hf']
        exact hr.principal
      · rw [hf']
        exact hr.fees
      · show r.unpaidInterestRecorded +
          ((units f'.interestAccum - units f.interestAccum : Nat) : Int) = _
        rw [hr.unpaidInterest]
        omega
      · rw [hf']
        exact hr.accrualFrozen
    · rename_i hc
      -- A frozen facility, or one without principal, does not accrue.
      refine .nil hkept.exists_ fun r hr => ?_
      have haccum : f'.interestAccum = f.interestAccum := by
        rw [hf']
        by_cases hfrozen : f.frozen = true
        · simp [accrued, accumAt, hfrozen]
        · have hp : f.principal = 0 := by
            by_contra hne
            exact hc ⟨by simpa using hfrozen, hne⟩
          simp [accrued, accumAt, hp]
      refine ⟨?_, ?_, ?_, ?_, hr.state⟩
      · rw [hf']
        exact hr.principal
      · rw [hf']
        exact hr.fees
      · rw [haccum]
        exact hr.unpaidInterest
      · rw [hf']
        exact hr.accrualFrozen

theorem setRate_tells {rateBps : Nat} (h : f.setRate now rateBps = .ok f') :
    Tells profile id (f.accrueLogs now id ++ [.rateSegmentAdded id now rateBps]) state f f' := by
  unfold setRate at h
  obtain ⟨g, hg, h⟩ := bind_eq_ok.mp h
  split at h
  · cases h
  · obtain rfl := pure_eq_ok.mp h
    refine (accrue_tells hg).append (.single rfl rfl fun r hr => ⟨r, rfl, ?_⟩)
    exact ⟨hr.principal, hr.fees, hr.unpaidInterest, hr.accrualFrozen, hr.state⟩

theorem recordDraw_tells {amount : Nat} (h : f.recordDraw now id amount = .ok f') :
    Tells profile id (f.accrueLogs now id ++ [.drawn id amount (f.principal + amount)]) state
      f f' := by
  unfold recordDraw at h
  obtain ⟨_, -, h⟩ := bind_eq_ok.mp h
  obtain ⟨_, -, h⟩ := bind_eq_ok.mp h
  obtain ⟨g, hg, h⟩ := bind_eq_ok.mp h
  obtain ⟨p, hp, h⟩ := bind_eq_ok.mp h
  obtain ⟨_, -, h⟩ := bind_eq_ok.mp h
  obtain ⟨-, rfl⟩ := addW_eq_ok.mp hp
  obtain rfl := pure_eq_ok.mp h
  have hprincipal : g.principal = f.principal := by
    rw [(accrue_ok hg).2]
    rfl
  refine (accrue_tells hg).append (.single rfl rfl fun r hr => ⟨_, rfl, ?_⟩)
  rw [← hprincipal]
  exact ⟨rfl, hr.fees, hr.unpaidInterest, hr.accrualFrozen, hr.state⟩

theorem recordFee_tells {amount : Nat} (h : f.recordFee now amount = .ok f') :
    Tells profile id (f.accrueLogs now id ++ [.feeCharged id amount]) state f f' := by
  unfold recordFee at h
  obtain ⟨_, -, h⟩ := bind_eq_ok.mp h
  obtain ⟨g, hg, h⟩ := bind_eq_ok.mp h
  obtain ⟨x, hx, h⟩ := bind_eq_ok.mp h
  obtain ⟨-, rfl⟩ := addW_eq_ok.mp hx
  obtain rfl := pure_eq_ok.mp h
  refine (accrue_tells hg).append (.single rfl rfl fun r hr => ⟨_, rfl, ?_⟩)
  refine ⟨hr.principal, ?_, hr.unpaidInterest, hr.accrualFrozen, hr.state⟩
  show r.fees + amount = ((g.fees + amount : Nat) : Int)
  rw [hr.fees, Nat.cast_add]

theorem freezeAccrual_tells (h : f.freezeAccrual now = .ok f') :
    Tells profile id (f.accrueLogs now id ++ [.accrualFrozen id now]) state f f' := by
  unfold freezeAccrual at h
  obtain ⟨g, hg, h⟩ := bind_eq_ok.mp h
  obtain rfl := pure_eq_ok.mp h
  refine (accrue_tells hg).append (.single rfl rfl fun r hr => ⟨_, rfl, ?_⟩)
  exact ⟨hr.principal, hr.fees, hr.unpaidInterest, rfl, hr.state⟩

/-- Capitalizing takes all whole units out of the numerator. The fraction stays, and no row shows
it. -/
theorem capitalize_tells (h : f.capitalize now id = .ok f') :
    ∃ g, f.accrue now = .ok g ∧
      Tells profile id (f.accrueLogs now id ++ g.capitalizeLogs id) state f f' := by
  unfold capitalize at h
  obtain ⟨_, -, h⟩ := bind_eq_ok.mp h
  obtain ⟨_, -, h⟩ := bind_eq_ok.mp h
  obtain ⟨g, hg, h⟩ := bind_eq_ok.mp h
  refine ⟨g, hg, ?_⟩
  refine (accrue_tells hg).append ?_
  dsimp only at h
  unfold capitalizeLogs
  split at h
  · rename_i hzero
    obtain rfl := pure_eq_ok.mp h
    rw [if_pos hzero]
    exact .nil rfl fun r hr => hr
  · rename_i hunits
    obtain ⟨x, hx, h⟩ := bind_eq_ok.mp h
    obtain ⟨y, hy, h⟩ := bind_eq_ok.mp h
    obtain ⟨z, hz, h⟩ := bind_eq_ok.mp h
    obtain ⟨_, -, h⟩ := bind_eq_ok.mp h
    obtain ⟨-, rfl⟩ := mulW_eq_ok.mp hx
    obtain ⟨hsub, rfl⟩ := subW_eq_ok.mp hy
    obtain ⟨-, rfl⟩ := addW_eq_ok.mp hz
    obtain rfl := pure_eq_ok.mp h
    rw [if_neg hunits]
    refine .single rfl rfl fun r hr => ⟨_, rfl, ?_⟩
    refine ⟨rfl, hr.fees, ?_, hr.accrualFrozen, hr.state⟩
    show r.unpaidInterestRecorded - (units g.interestAccum : Int) =
      (units (g.interestAccum - units g.interestAccum * denom) : Nat)
    rw [hr.unpaidInterest, units_sub_mul hsub]
    omega

/-- The payment takes whole units out of the numerator, and the new debt is the sum that the row
comes to. -/
theorem allocate_tells {received : Nat} {r : RepayResult}
    (h : f.allocate now received = .ok (r, f')) :
    Tells profile id (f.accrueLogs now id ++
      [.allocated id r.feePaid r.interestPaid r.principalPaid r.excess r.newDebt]) state f f' := by
  unfold allocate at h
  obtain ⟨_, -, h⟩ := bind_eq_ok.mp h
  obtain ⟨g, hg, h⟩ := bind_eq_ok.mp h
  obtain ⟨x, hx, h⟩ := bind_eq_ok.mp h
  obtain ⟨y, hy, h⟩ := bind_eq_ok.mp h
  obtain ⟨debt, hdebt, h⟩ := bind_eq_ok.mp h
  obtain ⟨-, rfl⟩ := mulW_eq_ok.mp hx
  obtain ⟨hsub, rfl⟩ := subW_eq_ok.mp hy
  have hres := pure_eq_ok.mp h
  simp only [Prod.mk.injEq] at hres
  obtain ⟨rfl, rfl⟩ := hres
  refine (accrue_tells hg).append (.single rfl rfl fun row hrow => ?_)
  have hfee : (if received < g.fees then received else g.fees) ≤ g.fees := by
    split <;> omega
  generalize (if received < g.fees then received else g.fees) = feePaid at *
  have hint : (if received - feePaid < units g.interestAccum then received - feePaid
      else units g.interestAccum) ≤ units g.interestAccum := by
    split <;> omega
  generalize (if received - feePaid < units g.interestAccum then received - feePaid
    else units g.interestAccum) = interestPaid at *
  have hprin : (if received - feePaid - interestPaid < g.principal then
      received - feePaid - interestPaid else g.principal) ≤ g.principal := by
    split <;> omega
  generalize (if received - feePaid - interestPaid < g.principal then
    received - feePaid - interestPaid else g.principal) = principalPaid at *
  unfold legalDebt at hdebt
  obtain ⟨base, hbase, hdebt⟩ := bind_eq_ok.mp hdebt
  obtain ⟨-, rfl⟩ := addW_eq_ok.mp hbase
  obtain ⟨-, rfl⟩ := addW_eq_ok.mp hdebt
  have hunits : units (g.interestAccum - interestPaid * denom) =
      units g.interestAccum - interestPaid := units_sub_mul hsub
  have hsum : row.fees - feePaid + (row.unpaidInterestRecorded - interestPaid) +
      (row.principal - principalPaid) =
        ((g.principal - principalPaid + (g.fees - feePaid) +
          units (g.interestAccum - interestPaid * denom) : Nat) : Int) := by
    rw [hrow.fees, hrow.unpaidInterest, hrow.principal, hunits]
    omega
  refine ⟨_, if_neg (not_not.mpr hsum), ?_⟩
  refine ⟨?_, ?_, ?_, hrow.accrualFrozen, hrow.state⟩
  · show row.principal - principalPaid = ((g.principal - principalPaid : Nat) : Int)
    rw [hrow.principal]
    omega
  · show row.fees - feePaid = ((g.fees - feePaid : Nat) : Int)
    rw [hrow.fees]
    omega
  · show row.unpaidInterestRecorded - interestPaid =
      (units (g.interestAccum - interestPaid * denom) : Int)
    rw [hrow.unpaidInterest, hunits]
    omega

end Facility

/-! ### All facilities -/

/-- The rows show every facility, and each facility that the ledger knows has a row. -/
structure FacilityView.Mirrors (profile : ExecutionProfile) (v : FacilityView) (c : Credit) :
    Prop where
  shows : ∀ id, (v.row profile id).Shows (c.account id) (c.stateAt id)
  known : ∀ id, (c.account id).exists_ = true → (v id).isSome = true

/-- The events take rows that mirror the one state to rows that mirror the other. -/
def Tracks (profile : ExecutionProfile) (logs : List ProtocolLog) (c c' : Credit) : Prop :=
  ∀ v : FacilityView, v.Mirrors profile c → ∃ v' : FacilityView,
    EventLog.fold (projectFacility profile) v logs = .ok v' ∧ v'.Mirrors profile c'

/-- No facility has another account or another state. -/
structure Credit.SameAccounts (c c' : Credit) : Prop where
  account : ∀ id, c'.account id = c.account id
  state : ∀ id, c'.stateAt id = c.stateAt id

section
variable {profile : ExecutionProfile} {logs more : List ProtocolLog} {c c₁ c₂ : Credit}

theorem Tracks.append (h : Tracks profile logs c c₁) (h' : Tracks profile more c₁ c₂) :
    Tracks profile (logs ++ more) c c₂ := by
  intro v hv
  obtain ⟨v₁, hread, hv₁⟩ := h v hv
  obtain ⟨v₂, hread', hv₂⟩ := h' v₁ hv₁
  exact ⟨v₂, by rw [fold_append hread, hread'], hv₂⟩

/-- Events that are not read, of a call that changes no account and no state. -/
theorem Tracks.skip (h : ∀ log ∈ logs, ProtocolLog.facilityKey log = none)
    (hs : c.SameAccounts c₁) : Tracks profile logs c c₁ := by
  intro v hv
  refine ⟨v, fold_rows_skip h, ⟨fun id => ?_, fun id hid => ?_⟩⟩
  · rw [hs.account, hs.state]
    exact hv.shows id
  · rw [hs.account] at hid
    exact hv.known id hid

/-- Events of one facility. -/
theorem Tracks.facility (id : FacilityId)
    (hkey : ∀ log ∈ logs, ProtocolLog.facilityKey log = some id)
    (hreads : Reads profile logs (c.account id) (c.stateAt id) (c₁.account id) (c₁.stateAt id))
    (hother : ∀ i, i ≠ id → c₁.account i = c.account i ∧ c₁.stateAt i = c.stateAt i)
    (hknown : logs = [] → (c₁.account id).exists_ = (c.account id).exists_) :
    Tracks profile logs c c₁ := by
  intro v hv
  obtain ⟨r, hr, hshows⟩ := hreads _ (hv.shows id)
  obtain ⟨v', hfold, hrow, hrest, hsome⟩ := fold_rows hkey hr
  refine ⟨v', hfold, ⟨fun i => ?_, fun i hi => ?_⟩⟩
  · by_cases hid : i = id
    · subst hid
      show ProjectedFacility.Shows ((v' i).getD _) _ _
      rw [hrow]
      exact hshows
    · show ProjectedFacility.Shows ((v' i).getD _) _ _
      rw [hrest i hid, (hother i hid).1, (hother i hid).2]
      exact hv.shows i
  · by_cases hid : i = id
    · subst hid
      refine hsome ?_
      by_cases hlogs : logs = []
      · rw [hknown hlogs] at hi
        exact .inl (hv.known i hi)
      · exact .inr hlogs
    · rw [hrest i hid]
      rw [(hother i hid).1] at hi
      exact hv.known i hi

/-- An operation of the ledger on one facility. -/
theorem Tracks.of_tells {id : FacilityId} {f : Facility} {l : Ledger} {events : List LedgerEvent}
    (htells : Facility.Tells profile id events (c.stateAt id) (c.account id) f)
    (hl : l.facilities = Function.update c.pool.ledger.facilities id f) :
    Tracks profile (events.map .ledger) c { c with pool := { c.pool with ledger := l } } := by
  have hself : l.facilities id = f := by
    rw [hl, Function.update_self]
  refine .facility id ?_ ?_ ?_ fun _ => ?_
  · intro log hlog
    obtain ⟨e, he, rfl⟩ := List.mem_map.mp hlog
    exact congrArg some (htells.facility e he)
  · show Reads profile _ _ _ (l.facilities id) _
    rw [hself]
    exact htells.reads
  · intro i hi
    refine ⟨?_, rfl⟩
    show l.facilities i = _
    rw [hl, Function.update_of_ne hi]
    rfl
  · show (l.facilities id).exists_ = _
    rw [hself]
    exact htells.exists_

end

section
variable {profile : ExecutionProfile} {d : Deployment} {m : Msg} {c c' : Credit} {l : Ledger}

open Facility

/-- Every operation of the ledger but an opening and a change of the state. -/
theorem LedgerCall.records {call : LedgerCall} (hshared : call.Shared)
    (h : call.exec m c.pool.ledger = .ok l) :
    Tracks profile ((call.logs m c.pool.ledger).map .ledger) c
      { c with pool := { c.pool with ledger := l } } := by
  have hmodify : ∀ (id : FacilityId) (events : List LedgerEvent)
      (body : Facility → Except Revert Facility),
      c.pool.ledger.modifyFacility m id body = .ok l →
      (∀ f, body (c.account id) = .ok f →
        Facility.Tells profile id events (c.stateAt id) (c.account id) f) →
      Tracks profile (events.map .ledger) c { c with pool := { c.pool with ledger := l } } := by
    intro id events body h hbody
    obtain ⟨-, f, hf, rfl⟩ := Ledger.modifyFacility_ok h
    exact .of_tells (hbody f hf) rfl
  cases call with
  | setWriter writer enabled =>
    simp only [LedgerCall.exec, Ledger.setWriter] at h
    obtain ⟨_, -, h⟩ := bind_eq_ok.mp h
    obtain ⟨_, -, h⟩ := bind_eq_ok.mp h
    obtain rfl := pure_eq_ok.mp h
    exact .skip (fun _ hl => absurd hl List.not_mem_nil) ⟨fun _ => rfl, fun _ => rfl⟩
  | finalizeWiring =>
    simp only [LedgerCall.exec, Ledger.finalizeWiring] at h
    obtain ⟨_, -, h⟩ := bind_eq_ok.mp h
    obtain ⟨_, -, h⟩ := bind_eq_ok.mp h
    obtain rfl := pure_eq_ok.mp h
    exact .skip (fun _ hl => absurd hl List.not_mem_nil) ⟨fun _ => rfl, fun _ => rfl⟩
  | openFacility id terms => exact hshared.elim
  | setState id state => exact hshared.elim
  | accrue id => exact hmodify id _ _ h fun f hf => accrue_tells hf
  | setRate id rateBps => exact hmodify id _ _ h fun f hf => setRate_tells hf
  | recordDraw id amount => exact hmodify id _ _ h fun f hf => recordDraw_tells hf
  | recordFee id amount => exact hmodify id _ _ h fun f hf => recordFee_tells hf
  | freezeAccrual id => exact hmodify id _ _ h fun f hf => freezeAccrual_tells hf
  | capitalize id =>
    refine hmodify id _ _ h fun f hf => ?_
    obtain ⟨g, hg, htells⟩ := capitalize_tells hf
    have hlogs : LedgerCall.logs m c.pool.ledger (.capitalize id) =
        (c.account id).accrueLogs m.now id ++ g.capitalizeLogs id := by
      simp only [LedgerCall.logs]
      rw [show (c.pool.ledger.facilities id).accrue m.now = .ok g from hg]
      rfl
    rw [hlogs]
    exact htells
  | allocate id received =>
    obtain ⟨⟨r, l⟩, hr, rfl⟩ := map_eq_ok.mp h
    unfold Ledger.allocate at hr
    obtain ⟨_, -, hr⟩ := bind_eq_ok.mp hr
    obtain ⟨_, -, hr⟩ := bind_eq_ok.mp hr
    obtain ⟨⟨r', f⟩, hf, hr⟩ := bind_eq_ok.mp hr
    have hres := pure_eq_ok.mp hr
    simp only [Prod.mk.injEq] at hres
    obtain ⟨rfl, rfl⟩ := hres
    simp only [LedgerCall.logs, hf]
    exact .of_tells (allocate_tells hf) rfl

/-- An opening on the ledger. The account starts without debt, as its row does. -/
theorem Ledger.openFacility_tracks {id : FacilityId} {terms : Terms}
    (h : c.pool.ledger.openFacility m id terms = .ok l) :
    Tracks profile ((LedgerCall.logs m c.pool.ledger (.openFacility id terms)).map .ledger) c
      { c with pool := { c.pool with ledger := l } } := by
  unfold openFacility at h
  obtain ⟨_, -, h⟩ := bind_eq_ok.mp h
  obtain ⟨_, -, h⟩ := bind_eq_ok.mp h
  obtain ⟨_, -, h⟩ := bind_eq_ok.mp h
  obtain ⟨_, -, h⟩ := bind_eq_ok.mp h
  obtain ⟨_, -, h⟩ := bind_eq_ok.mp h
  obtain rfl := pure_eq_ok.mp h
  refine .facility id ?_ ?_ (fun i hi => ⟨Function.update_of_ne hi _ _, rfl⟩) (fun h => by cases h)
  · intro log hlog
    simp only [LedgerCall.logs, List.map_cons, List.map_nil, List.mem_cons, List.not_mem_nil,
      or_false] at hlog
    rcases hlog with rfl | rfl
    · rfl
    · rfl
  · show Reads profile _ _ _ (Function.update c.pool.ledger.facilities id _ id) _
    rw [Function.update_self]
    intro r hr
    refine ⟨{ r with rateBps := terms.rateBps, lastAccrualAt := some m.now }, rfl, ?_⟩
    exact ⟨hr.principal, hr.fees, hr.unpaidInterest, hr.accrualFrozen, hr.state⟩

theorem Credit.setFacilityState_stateAt {id : FacilityId} {target : FacilityState}
    (h : c.setFacilityState d m id target = .ok c') : c'.stateAt id = target := by
  obtain ⟨l, -, rfl⟩ := setFacilityState_ok h
  show (Function.update c.manager.facilities id _ id).state = target
  rw [Function.update_self]

/-- A change of the state, on the ledger and in the manager. -/
theorem Credit.setFacilityState_tracks {id : FacilityId} {target : FacilityState}
    (h : c.setFacilityState d m id target = .ok c') :
    Tracks profile (c.setFacilityStateLogs id target) c c' := by
  obtain ⟨l, hl, rfl⟩ := setFacilityState_ok h
  obtain ⟨-, f, hf, rfl⟩ := Ledger.modifyFacility_ok hl
  cases hf
  refine .facility id ?_ ?_ ?_ (fun h => by cases h)
  · intro log hlog
    simp only [setFacilityStateLogs, List.mem_cons, List.not_mem_nil, or_false] at hlog
    rcases hlog with rfl | rfl
    · rfl
    · rfl
  · show Reads profile _ _ _ (Function.update c.pool.ledger.facilities id _ id)
      (Function.update c.manager.facilities id _ id).state
    rw [Function.update_self, Function.update_self]
    intro r hr
    refine ⟨{ r with state := target }, rfl, ?_⟩
    exact ⟨hr.principal, hr.fees, hr.unpaidInterest, hr.accrualFrozen, rfl⟩
  · intro i hi
    constructor
    · exact Function.update_of_ne hi _ _
    · show (Function.update c.manager.facilities id _ i).state = _
      rw [Function.update_of_ne hi]
      rfl

/-- An event of the manager that tells nothing about the debt or the state of its facility. -/
theorem Tracks.idle {e : ManagerEvent} (h : ∀ r : ProjectedFacility,
    ∃ r' : ProjectedFacility, r.fold profile (.manager e) = .ok r' ∧
      ∀ f state, r.Shows f state → r'.Shows f state) : Tracks profile [.manager e] c c := by
  refine .facility e.facilityId ?_ ?_ (fun _ _ => ⟨rfl, rfl⟩) fun _ => rfl
  · intro log hlog
    rw [List.mem_singleton.mp hlog]
    rfl
  · refine .single fun r hr => ?_
    obtain ⟨r', hfold, hshows⟩ := h r
    exact ⟨r', hfold, hshows _ _ hr⟩

theorem ProtocolLog.OffBooks.records {log : ProtocolLog} (h : log.OffBooks) :
    Tracks profile [log] c c := by
  have hskip : log.facilityKey = none → Tracks profile [log] c c := by
    intro hkey
    refine .skip (fun l hl => ?_) ⟨fun _ => rfl, fun _ => rfl⟩
    rw [List.mem_singleton.mp hl]
    exact hkey
  cases log with
  | ledger e => exact h.elim
  | vault e => exact h.elim
  | router e => exact hskip rfl
  | recovery e => exact hskip rfl
  | manager e =>
    cases e with
    | facilityOpened _ _ _ _ => exact h.elim
    | stateChanged _ _ _ => exact h.elim
    | facilityFrozen _ _ => exact h.elim
    | authorizationAnchored id decisionHash limit validUntil manifestHash =>
      refine .idle fun r => ⟨_, rfl, fun f state hr => ?_⟩
      exact ⟨hr.principal, hr.fees, hr.unpaidInterest, hr.accrualFrozen, hr.state⟩
    | drawReserved id => exact .idle fun r => ⟨r, rfl, fun _ _ hr => hr⟩
    | borrowed id => exact .idle fun r => ⟨r, rfl, fun _ _ hr => hr⟩
    | repaid id _ _ _ _ _ _ => exact .idle fun r => ⟨r, rfl, fun _ _ hr => hr⟩
    | excessRefunded id => exact .idle fun r => ⟨r, rfl, fun _ _ hr => hr⟩

theorem Tracks.offBooks {logs : List ProtocolLog} (h : ∀ log ∈ logs, log.OffBooks) :
    Tracks profile logs c c := by
  induction logs with
  | nil => exact .skip (fun _ hl => absurd hl List.not_mem_nil) ⟨fun _ => rfl, fun _ => rfl⟩
  | cons log rest ih =>
    have hfirst : Tracks profile [log] c c := (h log List.mem_cons_self).records
    exact hfirst.append (ih fun l hl => h l (List.mem_cons_of_mem log hl))

theorem Tracks.same {logs : List ProtocolLog} {c₁ : Credit} (h : Tracks profile logs c c₁)
    (hs : c₁.SameAccounts c') : Tracks profile logs c c' := by
  have hskip : Tracks profile [] c₁ c' := .skip (fun _ hl => absurd hl List.not_mem_nil) hs
  simpa using h.append hskip

/-- What a sequence of operations emits keeps the rows in step with the facilities. -/
theorem Emits.records {logs : List ProtocolLog} (h : Emits ProtocolLog.OffBooks d c logs c') :
    Tracks profile logs c c' := by
  induction h with
  | aside hlogs hloans =>
    refine (Tracks.offBooks hlogs).same ⟨fun i => ?_, fun i => ?_⟩
    · rw [Credit.account, Credit.account, hloans.ledger]
    · rw [Credit.stateAt, Credit.stateAt, hloans.facilities]
  | ledger m call hshared hexec => exact LedgerCall.records hshared hexec
  | vault m call hexec =>
    refine .skip (fun log hl => ?_) ⟨fun i => ?_, fun _ => rfl⟩
    · obtain ⟨e, -, rfl⟩ := List.mem_map.mp hl
      rfl
    · exact congrArg (fun l : Ledger => l.facilities i) (VaultCall.exec_ledger hexec)
  | state m id target hset => exact Credit.setFacilityState_tracks hset
  | froze m id hset =>
    refine (Credit.setFacilityState_tracks hset).append (.facility id ?_ ?_
      (fun _ _ => ⟨rfl, rfl⟩) fun _ => rfl)
    · intro log hl
      rw [List.mem_singleton.mp hl]
      rfl
    · have hfrozen := Credit.setFacilityState_stateAt hset
      -- The last event repeats the state that the facility now has.
      refine .single fun r hr => ⟨_, rfl, ?_⟩
      exact ⟨hr.principal, hr.fees, hr.unpaidInterest, hr.accrualFrozen, hfrozen.symm⟩
  | append _ _ ih ih' => exact ih.append ih'

/-- What `openFacility` does to the account and the state of its facility. -/
theorem Credit.openFacility_ok {reg : Registries} {id : FacilityId} {borrowerId : Bytes32}
    {wallet : Address} {terms : Terms} {controlAgreementId : Bytes32} {controlVersion : Nat}
    (h : c.openFacility d reg m id borrowerId wallet terms controlAgreementId controlVersion =
      .ok c') :
    ∃ l l', c.pool.ledger.openFacility (m.calledBy d.manager) id terms = .ok l ∧
      l.setState (m.calledBy d.manager) id .draft = .ok l' ∧ c'.pool.ledger = l' ∧
      c'.stateAt id = .draft ∧ ∀ i, i ≠ id → c'.stateAt i = c.stateAt i := by
  unfold openFacility at h
  obtain ⟨_, -, h⟩ := bind_eq_ok.mp h
  obtain ⟨_, -, h⟩ := bind_eq_ok.mp h
  obtain ⟨_, -, h⟩ := bind_eq_ok.mp h
  obtain ⟨_, -, h⟩ := bind_eq_ok.mp h
  obtain ⟨_, -, h⟩ := bind_eq_ok.mp h
  split at h
  · cases h
  · obtain ⟨_, -, h⟩ := bind_eq_ok.mp h
    obtain ⟨_, -, h⟩ := bind_eq_ok.mp h
    obtain ⟨_, -, h⟩ := bind_eq_ok.mp h
    obtain ⟨l, hl, h⟩ := bind_eq_ok.mp h
    have hdraft := setFacilityState_stateAt h
    obtain ⟨l', hl', rfl⟩ := setFacilityState_ok h
    refine ⟨l, l', hl, hl', rfl, hdraft, fun i hi => ?_⟩
    show (Function.update (Function.update c.manager.facilities id _) id _ i).state = _
    rw [Function.update_of_ne hi, Function.update_of_ne hi]
    rfl

section
variable {reg : Registries} {id : FacilityId} {borrowerId : Bytes32} {wallet : Address}
  {terms : Terms} {controlAgreementId : Bytes32} {controlVersion : Nat}

/-- An opening under the profile of the deployment. -/
theorem Credit.openFacility_tracks (hprofile : terms.executionProfile = profile)
    (h : c.openFacility d reg m id borrowerId wallet terms controlAgreementId controlVersion =
      .ok c') : Tracks profile (c.openFacilityLogs m id borrowerId terms) c c' := by
  obtain ⟨l, l', hl, hl', hledger, hdraft, hothers⟩ := openFacility_ok h
  refine (Ledger.openFacility_tracks hl).append (.facility id ?_ ?_ ?_ (fun h => by cases h))
  · intro log hlog
    simp only [List.mem_cons, List.not_mem_nil, or_false] at hlog
    rcases hlog with rfl | rfl
    · rfl
    · rfl
  · obtain ⟨-, f, hf, rfl⟩ := Ledger.modifyFacility_ok hl'
    cases hf
    have haccount : c'.account id = { l.facilities id with state := .draft } := by
      rw [Credit.account, hledger]
      exact Function.update_self _ _ _
    rw [hdraft, haccount]
    intro r hr
    refine ⟨{ r with state := .draft, borrowerKey := some borrowerId }, ?_, ?_⟩
    · simp only [fold_cons, fold_nil, ProjectedFacility.fold, ok_bind, hprofile, ne_eq,
        not_true_eq_false, if_false]
    · exact ⟨hr.principal, hr.fees, hr.unpaidInterest, hr.accrualFrozen, rfl⟩
  · intro i hi
    refine ⟨?_, hothers i hi⟩
    obtain ⟨-, f, -, rfl⟩ := Ledger.modifyFacility_ok hl'
    rw [Credit.account, hledger]
    exact Function.update_of_ne hi _ _

/-- An opening under another profile is refused. -/
theorem openFacilityLogs_refused (hprofile : terms.executionProfile ≠ profile)
    (v : FacilityView) : EventLog.fold (projectFacility profile) v
      (c.openFacilityLogs m id borrowerId terms) =
        .error "event execution profile differs from deployment" := by
  refine fold_rows_error (k := id) ?_ ?_
  · intro log hlog
    simp only [Credit.openFacilityLogs, LedgerCall.logs, List.map_cons, List.map_nil,
      List.cons_append, List.nil_append, List.mem_cons, List.not_mem_nil, or_false] at hlog
    rcases hlog with rfl | rfl | rfl | rfl
    · rfl
    · rfl
    · rfl
    · rfl
  · simp only [Credit.openFacilityLogs, LedgerCall.logs, List.map_cons, List.map_nil,
      List.cons_append, List.nil_append, fold_cons, ProjectedFacility.fold, ok_bind, ne_eq,
      hprofile, not_false_eq_true, if_true]
    rfl

end

/-- Every call that does not open a facility under another profile keeps the rows in step. -/
theorem CreditCall.debtRecords {reg : Registries} {call : CreditCall} {ref : Bytes32}
    (hdriven : ∀ id state, call ≠ .ledger (.setState id state))
    (hopens : ∀ id borrowerId wallet terms controlAgreementId controlVersion, call =
      .manager (.openFacility id borrowerId wallet terms controlAgreementId controlVersion) →
        terms.executionProfile = profile)
    (h : call.exec d reg m c = .ok c') : Tracks profile (call.logs d reg m ref c) c c' := by
  by_cases hopen : ∃ id borrowerId wallet terms controlAgreementId controlVersion, call =
      .manager (.openFacility id borrowerId wallet terms controlAgreementId controlVersion)
  · obtain ⟨id, borrowerId, wallet, terms, controlAgreementId, controlVersion, rfl⟩ := hopen
    exact Credit.openFacility_tracks (hopens id borrowerId wallet terms _ _ rfl) h
  by_cases hledger : ∃ id terms, call = .ledger (.openFacility id terms)
  · obtain ⟨id, terms, rfl⟩ := hledger
    obtain ⟨l, hl, rfl⟩ := map_eq_ok.mp h
    exact Ledger.openFacility_tracks hl
  refine (CreditCall.emits ?_ ?_ h).records
  · rintro write rfl
    cases write with
    | openFacility id terms => exact hledger ⟨id, terms, rfl⟩
    | setState id state => exact hdriven id state rfl
    | _ => trivial
  · intro id borrowerId wallet terms controlAgreementId controlVersion hcall
    exact hopen ⟨id, borrowerId, wallet, terms, controlAgreementId, controlVersion, hcall⟩

end

/-! ### Runs -/

theorem LoggedTx.opensUnder_iff {profile : ExecutionProfile} {tx : LoggedTx} :
    tx.OpensUnder profile ↔
      ∀ id borrowerId wallet terms controlAgreementId controlVersion, tx.call =
        .manager (.openFacility id borrowerId wallet terms controlAgreementId controlVersion) →
          terms.executionProfile = profile := by
  unfold OpensUnder
  constructor
  · intro h id borrowerId wallet terms controlAgreementId controlVersion hcall
    rw [hcall] at h
    exact h
  · intro h
    split
    · rename_i hcall
      exact h _ _ _ _ _ _ hcall
    · trivial

section
variable {profile : ExecutionProfile} {d : Deployment} {s₀ s s' : Logged CreditState ProtocolLog}
  {txs : List LoggedTx}

/-- Every protocol run is one of these: an outsider writes nothing on the ledger. -/
theorem ProtocolStep.debtLogStep {tx : LoggedTx} (hreach : CreditReachable d s.state)
    (hs : ProtocolStep d s tx s') : DebtLogStep d s tx s' := by
  obtain ⟨⟨hlater, houtside, hexec, hnow⟩, hlog⟩ := hs
  refine ⟨⟨hlater, hexec, hnow, fun id state hcall => ?_⟩, hlog⟩
  rw [show tx.call = .ledger (.setState id state) from hcall] at hexec
  obtain ⟨l, hl, -⟩ := map_eq_ok.mp hexec
  exact LedgerCall.exec_outsider hreach.inv.wired houtside hl

theorem protocol_steps_debt (h₀ : s₀.state.Initial d) (hrun : Steps (ProtocolStep d) s₀ txs s) :
    Steps (DebtLogStep d) s₀ txs s := by
  have hall : CreditReachable d s.state ∧ Steps (DebtLogStep d) s₀ txs s := by
    refine Steps.history (P := fun txs s => CreditReachable d s.state ∧
      Steps (DebtLogStep d) s₀ txs s) ⟨.init h₀, .nil s₀⟩ ?_ hrun
    intro txs s tx s' _ ih hs
    exact ⟨ih.1.step hs.1, ih.2.snoc (hs.debtLogStep ih.1)⟩
  exact hall.2

theorem DebtStep.records {t t' : CreditState} {tx : LoggedTx} (h : DebtStep d t tx t')
    (hopens : tx.OpensUnder profile) : Tracks profile (tx.logs d t) t.credit t'.credit :=
  CreditCall.debtRecords h.driven (LoggedTx.opensUnder_iff.mp hopens) h.exec

/-- A transaction that opens a facility under another profile stops the reader. -/
theorem LoggedTx.logs_refused {tx : LoggedTx} (h : ¬tx.OpensUnder profile) (t : CreditState)
    (v : FacilityView) : EventLog.fold (projectFacility profile) v (tx.logs d t) =
      .error "event execution profile differs from deployment" := by
  simp only [LoggedTx.opensUnder_iff, not_forall] at h
  obtain ⟨id, borrowerId, wallet, terms, controlAgreementId, controlVersion, hcall, hprofile⟩ := h
  rw [LoggedTx.logs, hcall]
  exact openFacilityLogs_refused hprofile v

/-- What the reader comes to after the transactions `txs`. -/
structure DebtsFollow (profile : ExecutionProfile) (txs : List LoggedTx)
    (s : Logged CreditState ProtocolLog) : Prop where
  projected : (∀ tx ∈ txs, tx.OpensUnder profile) →
    Projects (projectFacility profile) FacilityView.empty
      (fun v t => FacilityView.Mirrors profile v t.credit) s
  refused : (∃ tx ∈ txs, ¬tx.OpensUnder profile) →
    EventLog.fold (projectFacility profile) FacilityView.empty s.log =
      .error "event execution profile differs from deployment"

theorem DebtLogInitial.follow (h : DebtLogInitial d s₀) : DebtsFollow profile [] s₀ := by
  obtain ⟨⟨token, -, hcredit⟩, hlog⟩ := h
  constructor
  · intro _
    refine .init hlog ⟨fun id => ?_, fun id hid => ?_⟩
    · rw [hcredit]
      refine ⟨rfl, rfl, ?_, rfl, rfl⟩
      show (0 : Int) = ((0 / InterestMath.denom : Nat) : Int)
      rw [Nat.zero_div]
      rfl
    · rw [hcredit] at hid
      cases hid
  · rintro ⟨tx, htx, -⟩
    cases htx

theorem DebtsFollow.snoc {tx : LoggedTx} (h : DebtsFollow profile txs s)
    (hs : DebtLogStep d s tx s') : DebtsFollow profile (txs ++ [tx]) s' := by
  constructor
  · intro hall
    refine (h.projected fun tx' htx => hall tx' (List.mem_append_left _ htx)).step hs ?_
    exact hs.1.records (hall tx (List.mem_append_right _ List.mem_cons_self))
  · rintro ⟨other, hmem, hother⟩
    rw [hs.2]
    by_cases hbefore : ∃ tx ∈ txs, ¬tx.OpensUnder profile
    · exact fold_append_error (h.refused hbefore)
    · -- All before it were accepted, so it is this transaction that is refused.
      have hall : ∀ tx ∈ txs, tx.OpensUnder profile := by
        intro tx htx
        by_contra hne
        exact hbefore ⟨tx, htx, hne⟩
      obtain ⟨v, hv, -⟩ := h.projected hall
      have hlast : other = tx := by
        rcases List.mem_append.mp hmem with hin | hin
        · exact absurd (hall other hin) hother
        · exact List.mem_singleton.mp hin
      rw [fold_append hv]
      exact LoggedTx.logs_refused (hlast ▸ hother) s.state v

theorem DebtLogInitial.steps_follow (h₀ : DebtLogInitial d s₀)
    (hrun : Steps (DebtLogStep d) s₀ txs s) : DebtsFollow profile txs s := by
  refine Steps.history (P := fun txs s => DebtsFollow profile txs s) h₀.follow ?_ hrun
  intro txs s tx s' _ ih hs
  exact ih.snoc hs

/-- The facilities folded from the logs of any run. The fold never raises the conservation error.
If every facility is opened under the profile of the deployment, then it comes through, and every
facility that the ledger knows has a row with its principal, its fees, the whole units of its
interest, its frozen flag and the state that the manager has for it. Otherwise it raises the error
about the profile. -/
theorem facility_debts_projected (profile : ExecutionProfile) (h₀ : DebtLogInitial d s₀)
    (hrun : Steps (DebtLogStep d) s₀ txs s) :
    EventLog.fold (projectFacility profile) FacilityView.empty s.log ≠
      .error "debt event conservation discrepancy" ∧
    ((∀ tx ∈ txs, tx.OpensUnder profile) → ∃ v,
      EventLog.fold (projectFacility profile) FacilityView.empty s.log = .ok v ∧
      ∀ id, (s.state.credit.pool.ledger.facilities id).exists_ = true → ∃ row, v id = some row ∧
        row.principal = (s.state.credit.pool.ledger.facilities id).principal ∧
        row.fees = (s.state.credit.pool.ledger.facilities id).fees ∧
        row.unpaidInterestRecorded =
          ((s.state.credit.pool.ledger.facilities id).interestAccum / InterestMath.denom : Nat) ∧
        row.accrualFrozen = (s.state.credit.pool.ledger.facilities id).frozen ∧
        row.state = (s.state.credit.manager.facilities id).state) ∧
    ((∃ tx ∈ txs, ¬tx.OpensUnder profile) →
      EventLog.fold (projectFacility profile) FacilityView.empty s.log =
        .error "event execution profile differs from deployment") := by
  have hfollow : DebtsFollow profile txs s := h₀.steps_follow hrun
  refine ⟨fun herr => ?_, fun hall => ?_, hfollow.refused⟩
  · by_cases hall : ∀ tx ∈ txs, tx.OpensUnder profile
    · obtain ⟨v, hv, -⟩ := hfollow.projected hall
      rw [hv] at herr
      cases herr
    · simp only [not_forall] at hall
      obtain ⟨tx, htx, hne⟩ := hall
      rw [hfollow.refused ⟨tx, htx, hne⟩] at herr
      simp at herr
  · obtain ⟨v, hv, hmirrors⟩ := hfollow.projected hall
    refine ⟨v, hv, fun id hid => ?_⟩
    obtain ⟨row, hrow⟩ := Option.isSome_iff_exists.mp (hmirrors.known id hid)
    have hshows := hmirrors.shows id
    rw [FacilityView.row, hrow] at hshows
    exact ⟨row, hrow, hshows.principal, hshows.fees, hshows.unpaidInterest, hshows.accrualFrozen,
      hshows.state⟩

end

namespace Sample

/-- Facility 5 draws 600 and pays 100, which covers the interest so far, and then 5. -/
def indebted : List LoggedTx :=
  (activeFacility 1000 600 ++ [tx 7 (10 ^ 7) (.router (.repayFor 5 100)),
    tx 7 (2 * 10 ^ 7) (.router (.repayFor 5 5))]).map logged

/-- The provider of facility 6 has a verifier for production, next to the local one. -/
def twoProviders : Registries :=
  { registries with
    bookFacility := fun id =>
      { registries.bookFacility id with providerId := if id = 6 then 2 else 1 }
    verifierOf := fun provider =>
      if provider = 2 then some
        { executionProfile := .production, verificationMethod := .attestcoinNative, manifestHash := 1 }
      else registries.verifierOf provider }

/-- Two facilities, each opened under the profile of its provider. -/
def twoProfiles : List LoggedTx :=
  [logged { tx 7 10 (.manager (.openFacility 5 1 9 loanTerms 1 1)) with reg := twoProviders },
    logged { tx 7 10 (.manager (.openFacility 6 1 9
      { loanTerms with executionProfile := .production } 1 1)) with reg := twoProviders }]

/-- A run that returned, and a view of where it ended. -/
theorem debtRun (txs : List LoggedTx) (view : Logged CreditState ProtocolLog → Bool)
    (h : ((runLogs protocol ⟨creditDeployment, []⟩ txs).toOption.map view) = some true) :
    ∃ s, Steps (DebtLogStep protocol) ⟨creditDeployment, []⟩ txs s ∧ view s = true := by
  obtain ⟨s, hs, hview⟩ := Option.map_eq_some_iff.mp h
  have hrun := runLogs_steps (toOption_eq_some.mp hs)
  exact ⟨s, protocol_steps_debt creditDeployment_initial hrun, hview⟩

end Sample

/-- The row of the indebted facility: 519 of principal, and 11 of the 16 units of interest that were
due before the last payment. -/
theorem facility_debts_projected_sample :
    ∃ s v row, Steps (DebtLogStep Sample.protocol) ⟨Sample.creditDeployment, []⟩
        Sample.indebted s ∧
      EventLog.fold (projectFacility .localMock) FacilityView.empty s.log = .ok v ∧
      v 5 = some row ∧ row.principal = 519 ∧ row.unpaidInterestRecorded = 11 := by
  obtain ⟨s, hrun, hview⟩ := Sample.debtRun Sample.indebted (fun s =>
    (s.state.credit.pool.ledger.facilities 5).exists_ &&
    (s.state.credit.pool.ledger.facilities 5).principal == 519 &&
    (s.state.credit.pool.ledger.facilities 5).interestAccum / InterestMath.denom == 11)
    (by decide +kernel)
  simp only [Bool.and_eq_true, beq_iff_eq] at hview
  obtain ⟨⟨hknown, hprincipal⟩, hinterest⟩ := hview
  have hopens : ∀ tx ∈ Sample.indebted, tx.OpensUnder .localMock := by
    simp [Sample.indebted, Sample.activeFacility, Sample.tx, Sample.logged, LoggedTx.OpensUnder,
      Sample.loanTerms, Sample.terms]
  obtain ⟨-, hprojected, -⟩ := facility_debts_projected .localMock
    ⟨Sample.creditDeployment_initial, rfl⟩ hrun
  obtain ⟨v, hv, hrows⟩ := hprojected hopens
  obtain ⟨row, hrow, hp, -, hu, -⟩ := hrows 5 hknown
  rw [hprincipal] at hp
  rw [hinterest] at hu
  exact ⟨s, v, row, hrun, hv, hrow, hp, hu⟩

/-- Where two facilities have different profiles, the reader stops, whichever of them is that of the
deployment. -/
theorem facility_debts_refused :
    DebtLogInitial Sample.protocol ⟨Sample.creditDeployment, []⟩ ∧
    ∃ s, Steps (DebtLogStep Sample.protocol) ⟨Sample.creditDeployment, []⟩ Sample.twoProfiles s ∧
      (s.state.credit.pool.ledger.facilities 5).exists_ = true ∧
      ∀ profile, ¬∃ v, EventLog.fold (projectFacility profile) FacilityView.empty s.log = .ok v := by
  obtain ⟨s, hrun, hview⟩ := Sample.debtRun Sample.twoProfiles (fun s =>
    (s.state.credit.pool.ledger.facilities 5).exists_) (by decide +kernel)
  refine ⟨⟨Sample.creditDeployment_initial, rfl⟩, s, hrun, hview, fun profile hread => ?_⟩
  obtain ⟨v, hv⟩ := hread
  have hfollow : DebtsFollow profile Sample.twoProfiles s :=
    DebtLogInitial.steps_follow ⟨Sample.creditDeployment_initial, rfl⟩ hrun
  have hforeign : ∃ tx ∈ Sample.twoProfiles, ¬tx.OpensUnder profile := by
    by_cases hlocal : profile = .localMock
    · subst hlocal
      refine ⟨_, List.mem_cons_of_mem _ List.mem_cons_self, ?_⟩
      intro h
      cases h
    · refine ⟨_, List.mem_cons_self, fun h => hlocal ?_⟩
      exact h.symm
  rw [hfollow.refused hforeign] at hv
  cases hv

end Rackline
