import Rackline.CreditProjection
import Rackline.Proofs.Emissions

/-!
# `Rackline.Proofs.CreditProjection`: the credit status against the contracts

A row of the projection and the contracts agree in two independent parts. The state and the
impairment are written all over the protocol, and every write is emitted: `Carries` says that the
events of a call take rows that mirror the state before it to rows that mirror the state after it,
and leave the rest of each row as it is. The rest, the `Servicing` part, follows the schedule that
the recovery manager keeps for the facility. `Follows` is what the events of one call tell about it.

The schedule is not emitted in full. A new schedule, a cure and a returned reserve leave the row
behind, and a declared default clears an approval that the row keeps on purpose. So
`credit_status_projected` has a condition on the run next to each of these fields.
-/

set_option autoImplicit false

namespace Rackline

open Evm EventLog Transition

/-! ### Impairments -/

/-- The impairments after a vault call. -/
def VaultCall.impairmentAfter (p : Pool) : VaultCall → FacilityId → Nat
  | onRepayment id r =>
    Function.update p.vault.impairmentOf id
      (p.vault.impairmentOf id - p.impairmentRelease id r.newDebt)
  | recognizeImpairment id amount =>
    Function.update p.vault.impairmentOf id (p.vault.impairmentOf id + amount)
  | reverseImpairment id amount =>
    Function.update p.vault.impairmentOf id (p.vault.impairmentOf id - amount)
  | writeOff id => Function.update p.vault.impairmentOf id 0
  | _ => p.vault.impairmentOf

open Pool in
theorem VaultCall.exec_impairmentOf {m : Msg} {p p' : Pool} {call : VaultCall}
    (h : call.exec m p = .ok p') : p'.vault.impairmentOf = call.impairmentAfter p := by
  cases call with
  | setManager manager enabled =>
    obtain ⟨_, _, _, _, rfl⟩ := setManager_ok h
    rfl
  | finalizeWiring =>
    obtain ⟨_, _, _, _, rfl⟩ := finalizeWiring_ok h
    rfl
  | bindRecoveryManager manager =>
    obtain ⟨_, _, _, _, rfl⟩ := bindRecoveryManager_ok h
    rfl
  | setDepositsPaused paused =>
    obtain ⟨_, _, _, _, rfl⟩ := setDepositsPaused_ok h
    rfl
  | deposit assets minShares =>
    obtain ⟨⟨shares, q⟩, hc, rfl⟩ := map_eq_ok.mp h
    obtain ⟨-, -, -, -, token, -, rfl⟩ := deposit_ok hc
    rfl
  | withdraw shares minAssets =>
    obtain ⟨⟨assets, q⟩, hc, rfl⟩ := map_eq_ok.mp h
    obtain ⟨-, -, -, -, -, -, -, -, token, -, rfl⟩ := withdraw_ok hc
    rfl
  | requestWithdrawal shares minAssets =>
    obtain ⟨⟨id, q⟩, hc, rfl⟩ := map_eq_ok.mp h
    obtain ⟨-, -, -, -, rfl⟩ := requestWithdrawal_ok hc
    rfl
  | cancelWithdrawal id =>
    obtain ⟨-, rfl⟩ := cancelWithdrawal_ok h
    rfl
  | processWithdrawals maxRequests =>
    obtain ⟨⟨filled, reserved, q⟩, hc, rfl⟩ := map_eq_ok.mp h
    obtain ⟨-, hloop⟩ := processWithdrawals_ok hc
    refine processLoop_invariant (P := fun _ q => q.vault.impairmentOf = p.vault.impairmentOf)
      ?_ ?_ hloop rfl
    · intro _ q q' hq _ hstep
      cases hstep <;> exact hq
    · intro _ q q' _ _ _ _ hq _ hstep
      cases hstep <;> exact hq
  | claimWithdrawal id =>
    obtain ⟨⟨assets, q⟩, hc, rfl⟩ := map_eq_ok.mp h
    obtain ⟨-, -, token, -, rfl⟩ := claimWithdrawal_ok hc
    rfl
  | rollLossEpoch =>
    obtain ⟨-, residual, -, -, rfl⟩ := rollLossEpoch_ok h
    rfl
  | claimEpochRecovery epoch =>
    obtain ⟨⟨assets, q⟩, hc, rfl⟩ := map_eq_ok.mp h
    obtain ⟨-, -, -, token, -, rfl⟩ := claimEpochRecovery_ok hc
    rfl
  | lend id dst amount =>
    obtain ⟨-, -, -, token, -, rfl⟩ := lend_ok h
    rfl
  | onRepayment id result =>
    obtain ⟨-, -, -, -, -, rfl⟩ := onRepayment_ok h
    rfl
  | refundExcess id dst amount =>
    obtain ⟨-, -, token, -, rfl⟩ := refundExcess_ok h
    rfl
  | recordRecovery id amount =>
    obtain ⟨-, -, -, rfl⟩ := recordRecovery_ok h
    rfl
  | recognizeImpairment id amount =>
    obtain ⟨-, -, rfl⟩ := recognizeImpairment_ok h
    rfl
  | reverseImpairment id amount =>
    obtain ⟨-, -, rfl⟩ := reverseImpairment_ok h
    rfl
  | writeOff id =>
    obtain ⟨-, -, -, lost, -, rfl⟩ := writeOff_ok h
    rfl
  | approve spender amount =>
    cases h
    rfl
  | transfer dst amount =>
    obtain ⟨-, rfl⟩ := transferShares_ok h
    rfl
  | transferFrom src dst amount =>
    obtain ⟨-, allowances, rfl⟩ := transferFrom_ok h
    rfl

/-! ### Rows -/

/-- What a row says about the schedule, or what the schedule itself says: the terms, if any, the
dispute, whether a default is approved, and the reserve. -/
structure Servicing where
  terms : Option Nat × Option Nat × Option Nat
  disputed : Bool
  approved : Bool
  pledged : Nat

/-- The terms of a row. -/
def ProjectedFacilityCredit.terms (r : ProjectedFacilityCredit) :
    Option Nat × Option Nat × Option Nat :=
  (r.scheduleDueAt, r.scheduleGraceSeconds, r.scheduleDueAmount)

def ProjectedFacilityCredit.servicing (r : ProjectedFacilityCredit) : Servicing :=
  ⟨r.terms, r.disputed, r.defaultApprovedAt.isSome, r.reservePledged⟩

/-- The terms of a schedule. Before the first `setSchedule` there are none. -/
def Schedule.terms (s : Schedule) : Option Nat × Option Nat × Option Nat :=
  if s.dueAt = 0 then (none, none, none) else (some s.dueAt, some s.graceSeconds, some s.dueAmount)

def Schedule.servicing (s : Schedule) : Servicing :=
  ⟨s.terms, s.disputed, s.defaultApproved, s.pledgedReserve⟩

theorem CreditView.row_update (v : CreditView) (id i : FacilityId) (r : ProjectedFacilityCredit) :
    CreditView.row (Function.update v id (some r)) i = if i = id then r else v.row i := by
  by_cases hi : i = id
  · subst hi
    rw [if_pos rfl, row, Function.update_self]
    rfl
  · rw [if_neg hi, row, Function.update_of_ne hi]
    rfl

/-- The reader comes through the events of one block and ends with `v'`. -/
def Tells (at_ : Nat) (logs : List ProtocolLog) (v v' : CreditView) : Prop :=
  fold projectCredit v (logs.map (StampedLog.mk (some at_))) = .ok v'

section
variable {at_ : Nat} {logs more : List ProtocolLog} {log : ProtocolLog} {u v w : CreditView}
  {id : FacilityId} {r : ProjectedFacilityCredit}

theorem Tells.nil : Tells at_ [] v v := rfl

theorem Tells.append (h : Tells at_ logs u v) (h' : Tells at_ more v w) :
    Tells at_ (logs ++ more) u w := by
  unfold Tells at *
  rw [List.map_append, fold_append h, h']

/-- An event that is not read. -/
theorem Tells.skip (h : log.creditFacility = none) : Tells at_ [log] v v := by
  show fold projectCredit v [⟨some at_, log⟩] = .ok v
  rw [fold_single, projectCredit, h]

/-- An event of a facility changes its row. -/
theorem Tells.event (h : log.creditFacility = some id) (hr : (v.row id).fold at_ log = .ok r) :
    Tells at_ [log] v (Function.update v id (some r)) := by
  show fold projectCredit v [⟨some at_, log⟩] = .ok _
  rw [fold_single, projectCredit, h]
  show (v.row id).fold at_ log >>= _ = _
  rw [hr]
  rfl

theorem Tells.quiet (h : ∀ log ∈ logs, ProtocolLog.creditFacility log = none) :
    Tells at_ logs v v := by
  induction logs with
  | nil => exact .nil
  | cons log rest ih =>
    have hfirst : Tells at_ [log] v v := .skip (h log List.mem_cons_self)
    exact hfirst.append (ih fun l hl => h l (List.mem_cons_of_mem log hl))

end

/-! ### States and impairments -/

/-- Every row has the state and the impairment of its facility. -/
def CreditView.Mirrors (v : CreditView) (c : Credit) : Prop :=
  ∀ id, (v.row id).state = c.stateAt id ∧ (v.row id).impairment = c.pool.vault.impairmentOf id

/-- The events take rows that mirror the one state to rows that mirror the other, and tell nothing
about the schedules. -/
def Carries (at_ : Nat) (logs : List ProtocolLog) (c c' : Credit) : Prop :=
  ∀ v : CreditView, v.Mirrors c → ∃ v' : CreditView, Tells at_ logs v v' ∧ v'.Mirrors c' ∧
    ∀ id, (v'.row id).servicing = (v.row id).servicing

/-- No facility has another state or another impairment. -/
structure Credit.SameStatus (c c' : Credit) : Prop where
  state : ∀ id, c'.stateAt id = c.stateAt id
  impairment : c'.pool.vault.impairmentOf = c.pool.vault.impairmentOf

section
variable {at_ : Nat} {logs more : List ProtocolLog} {c c₁ c₂ : Credit} {id : FacilityId}

theorem Carries.append (h : Carries at_ logs c c₁) (h' : Carries at_ more c₁ c₂) :
    Carries at_ (logs ++ more) c c₂ := by
  intro v hv
  obtain ⟨v₁, hread, hv₁, hsame⟩ := h v hv
  obtain ⟨v₂, hread', hv₂, hsame'⟩ := h' v₁ hv₁
  exact ⟨v₂, hread.append hread', hv₂, fun id => (hsame' id).trans (hsame id)⟩

/-- Events that are not read, of a call that changes no state and no impairment. -/
theorem Carries.quiet (h : ∀ log ∈ logs, ProtocolLog.creditFacility log = none)
    (hs : c.SameStatus c₁) : Carries at_ logs c c₁ := by
  intro v hv
  refine ⟨v, .quiet h, fun id => ?_, fun _ => rfl⟩
  rw [hs.state, hs.impairment]
  exact hv id

theorem Carries.same (h : Carries at_ logs c c₁) (hs : c₁.SameStatus c₂) :
    Carries at_ logs c c₂ := by
  have hquiet : Carries at_ [] c₁ c₂ := .quiet (fun _ hl => absurd hl List.not_mem_nil) hs
  simpa using h.append hquiet

theorem Carries.from (hs : c.SameStatus c₁) (h : Carries at_ logs c₁ c₂) :
    Carries at_ logs c c₂ := by
  have hquiet : Carries at_ [] c c₁ := .quiet (fun _ hl => absurd hl List.not_mem_nil) hs
  exact hquiet.append h

/-- One event that changes the status of one facility. -/
theorem Carries.event {log : ProtocolLog} {f : ProjectedFacilityCredit → ProjectedFacilityCredit}
    (hid : log.creditFacility = some id)
    (hfold : ∀ r : ProjectedFacilityCredit, r.state = c.stateAt id →
      r.impairment = c.pool.vault.impairmentOf id → r.fold at_ log = .ok (f r) ∧
        (f r).state = c₁.stateAt id ∧ (f r).impairment = c₁.pool.vault.impairmentOf id ∧
        (f r).servicing = r.servicing)
    (hother : ∀ i, i ≠ id → c₁.stateAt i = c.stateAt i ∧
      c₁.pool.vault.impairmentOf i = c.pool.vault.impairmentOf i) :
    Carries at_ [log] c c₁ := by
  intro v hv
  obtain ⟨hok, hstate, himp, hserv⟩ := hfold (v.row id) (hv id).1 (hv id).2
  refine ⟨_, .event hid hok, fun i => ?_, fun i => ?_⟩
  · rw [CreditView.row_update]
    split
    · rename_i hi
      rw [hi]
      exact ⟨hstate, himp⟩
    · rename_i hi
      rw [(hother i hi).1, (hother i hi).2]
      exact hv i
  · rw [CreditView.row_update]
    split
    · rename_i hi
      rw [hi]
      exact hserv
    · rfl

end

theorem ledger_skipped {es : List LedgerEvent} :
    ∀ log ∈ es.map ProtocolLog.ledger, log.creditFacility = none := by
  intro log hl
  obtain ⟨e, -, rfl⟩ := List.mem_map.mp hl
  rfl

theorem frozen_skipped (m : Msg) (id : FacilityId) :
    ∀ log ∈ [ProtocolLog.manager (.facilityFrozen id m.sender)], log.creditFacility = none := by
  intro log hl
  obtain rfl := List.mem_singleton.mp hl
  rfl

theorem ProtocolLog.Aside.creditFacility {log : ProtocolLog} (h : log.Aside) :
    log.creditFacility = none := by
  unfold Aside at h
  split at h
  all_goals first
    | rfl
    | exact h.elim

theorem Credit.SameLoans.sameStatus {c c' : Credit} (h : c.SameLoans c') : c.SameStatus c' :=
  ⟨fun i => by rw [stateAt, stateAt, h.facilities], h.impairment⟩

/-- One event of the vault that changes the impairment of one facility. -/
theorem Carries.impairment {at_ x : Nat} {c : Credit} {p : Pool} {id : FacilityId} {e : VaultEvent}
    (hid : (ProtocolLog.vault e).creditFacility = some id)
    (hfold : ∀ row : ProjectedFacilityCredit, row.impairment = c.pool.vault.impairmentOf id →
      row.fold at_ (.vault e) = .ok { row with impairment := x })
    (himp : p.vault.impairmentOf = Function.update c.pool.vault.impairmentOf id x) :
    Carries at_ [.vault e] c { c with pool := p } := by
  refine .event (f := fun row => { row with impairment := x }) hid ?_ ?_
  · intro row hstate hrow
    refine ⟨hfold row hrow, hstate, ?_, rfl⟩
    show x = p.vault.impairmentOf id
    rw [himp, Function.update_self]
  · intro i hi
    refine ⟨rfl, ?_⟩
    show p.vault.impairmentOf i = _
    rw [himp, Function.update_of_ne hi]

/-- A reversal that the row covers. -/
theorem ProjectedFacilityCredit.fold_reversed {at_ amount : Nat} {id : FacilityId}
    {row : ProjectedFacilityCredit} (h : amount ≤ row.impairment) :
    row.fold at_ (.vault (.impairmentReversed id amount)) =
      .ok { row with impairment := row.impairment - amount } := by
  simp only [fold, revertIf_of_not _ (Nat.not_lt.mpr h)]
  rfl

/-- A vault call tells what it does to the impairments. -/
theorem VaultCall.carries {m : Msg} {c : Credit} {p : Pool} {call : VaultCall} {at_ : Nat}
    (h : call.exec m c.pool = .ok p) :
    Carries at_ ((call.logs m c.pool).map .vault) c { c with pool := p } := by
  have himp := exec_impairmentOf h
  cases call with
  | onRepayment id r =>
    have hreceived : ∀ log ∈ [ProtocolLog.vault
        (.repaymentReceived id r.received r.applied r.excess)], log.creditFacility = none := by
      intro log hl
      obtain rfl := List.mem_singleton.mp hl
      rfl
    simp only [logs, List.map_append, List.map_singleton]
    refine Carries.append ?_ (.quiet hreceived ⟨fun _ => rfl, rfl⟩)
    split
    · refine .impairment rfl (fun row hrow => ?_) himp
      rw [ProjectedFacilityCredit.fold_reversed (by omega), hrow]
      rfl
    · rename_i hle
      -- The debt still covers the allowance, and nothing is released.
      have hzero : c.pool.impairmentRelease id r.newDebt = 0 :=
        Nat.sub_eq_zero_of_le (Nat.le_of_not_lt hle)
      refine .quiet (fun _ hl => absurd hl List.not_mem_nil) ⟨fun _ => rfl, ?_⟩
      show p.vault.impairmentOf = _
      rw [himp, impairmentAfter, hzero, Nat.sub_zero, Function.update_eq_self]
  | recognizeImpairment id amount =>
    refine .impairment rfl (fun row hrow => ?_) himp
    rw [← hrow]
    rfl
  | reverseImpairment id amount =>
    have hle := (Pool.reverseImpairment_ok h).1
    refine .impairment rfl (fun row hrow => ?_) himp
    rw [ProjectedFacilityCredit.fold_reversed (by omega), hrow]
  | writeOff id =>
    obtain ⟨-, ⟨interest, hinterest⟩, -⟩ := Pool.writeOff_ok h
    simp only [logs, hinterest]
    exact .impairment rfl (fun _ _ => rfl) himp
  | _ => exact .quiet (fun _ hl => absurd hl List.not_mem_nil) ⟨fun _ => rfl, himp⟩

namespace Credit

variable {d : Deployment} {reg : Registries} {m : Msg} {c c' : Credit} {id : FacilityId} {at_ : Nat}

/-- `_setState` tells the state it writes. -/
theorem setFacilityState_carries {target : FacilityState}
    (h : c.setFacilityState d m id target = .ok c') :
    Carries at_ (c.setFacilityStateLogs id target) c c' := by
  obtain ⟨l, -, rfl⟩ := setFacilityState_ok h
  have hmirror : ∀ log ∈ [ProtocolLog.ledger (.stateSet id target)],
      log.creditFacility = none := by
    intro log hl
    obtain rfl := List.mem_singleton.mp hl
    rfl
  refine Carries.append (.quiet hmirror ⟨fun _ => rfl, rfl⟩) ?_
  refine .event (f := fun row => { row with
    state := target, stateChangedAt := some at_,
    transitions := row.transitions ++ [⟨(c.manager.facilities id).state, target, at_⟩] }) rfl ?_ ?_
  · intro row _ hrow
    refine ⟨rfl, ?_, hrow, rfl⟩
    show target = (Function.update c.manager.facilities id _ id).state
    rw [Function.update_self]
  · intro i hi
    refine ⟨?_, rfl⟩
    show (Function.update c.manager.facilities id _ i).state = _
    rw [Function.update_of_ne hi]
    rfl

/-! ### Calls -/

/-- A new facility has the state `DRAFT` that it had before it was known. -/
theorem openFacility_status (ht : ∀ id, c.Tidy id) {borrowerId : Bytes32} {wallet : Address}
    {terms : Terms} {controlAgreementId : Bytes32} {controlVersion : Nat}
    (h : c.openFacility d reg m id borrowerId wallet terms controlAgreementId controlVersion =
      .ok c') : c.SameStatus c' := by
  obtain ⟨htouch, hdraft, hnew, -⟩ := openFacility_touches h
  constructor
  · intro i
    by_cases hi : i = id
    · subst hi
      rw [hdraft]
      by_contra hne
      have hknown := (ht i).known (Ne.symm hne)
      rw [hnew] at hknown
      cases hknown
    · rw [stateAt, stateAt, (htouch.others i hi).1]
  · unfold openFacility at h
    obtain ⟨_, -, h⟩ := bind_eq_ok.mp h
    obtain ⟨_, -, h⟩ := bind_eq_ok.mp h
    obtain ⟨_, -, h⟩ := bind_eq_ok.mp h
    obtain ⟨_, -, h⟩ := bind_eq_ok.mp h
    obtain ⟨_, -, h⟩ := bind_eq_ok.mp h
    split at h
    · cases h
    · obtain ⟨_, -, h⟩ := bind_eq_ok.mp h
      obtain ⟨_, -, h⟩ := bind_eq_ok.mp h
      obtain ⟨_, -, h⟩ := bind_eq_ok.mp h
      obtain ⟨l, -, h⟩ := bind_eq_ok.mp h
      obtain ⟨l', -, rfl⟩ := setFacilityState_ok h
      rfl

end Credit

/-- What the parts of a call emit keeps the rows in step with them. -/
theorem Emits.carries {d : Deployment} {c c' : Credit} {logs : List ProtocolLog} {at_ : Nat}
    (h : Emits ProtocolLog.Aside d c logs c') : Carries at_ logs c c' := by
  induction h with
  | aside hlogs hbooks => exact .quiet (fun log hl => (hlogs log hl).creditFacility) hbooks.sameStatus
  | ledger m call _ _ => exact .quiet ledger_skipped ⟨fun _ => rfl, rfl⟩
  | vault m call hexec => exact VaultCall.carries hexec
  | state m id target hset => exact Credit.setFacilityState_carries hset
  | froze m id hset =>
    exact (Credit.setFacilityState_carries hset).append (.quiet (frozen_skipped m id) ⟨fun _ => rfl, rfl⟩)
  | append _ _ ih ih' => exact ih.append ih'

/-- Every call of the manager. -/
theorem ManagerCall.carries {d : Deployment} {reg : Registries} {m : Msg} {c c' : Credit}
    {at_ : Nat} (ht : ∀ id, c.Tidy id) {call : ManagerCall} (h : call.exec d reg m c = .ok c') :
    Carries at_ (call.logs d reg m c) c c' := by
  cases call with
  | openFacility i borrowerId wallet terms controlAgreementId controlVersion =>
    refine .quiet (fun log hl => ?_) (Credit.openFacility_status ht h)
    rcases List.mem_append.mp hl with hl | hl
    · exact ledger_skipped log hl
    · simp only [List.mem_cons, List.not_mem_nil, or_false] at hl
      rcases hl with rfl | rfl
      · rfl
      · rfl
  | _ => exact (ManagerCall.emits (by simp) h).carries

/-! ### Schedules -/

/-- The call sets the schedule of the facility. -/
def CreditCall.SetsSchedule (id : FacilityId) : CreditCall → Prop
  | .recovery (.setSchedule i _ _ _ _) => i = id
  | _ => False

/-- What the events of a call tell about the schedule of a facility: `a` and `a'` are what the row
says before and after it, `b` and `b'` what the schedule says. An approval that led to the
declaration of a default stays in the row, so it is compared together with `declared`, which is to
say that a default was declared and no dispute was opened since. -/
structure Follows (id : FacilityId) (call : CreditCall) (a b a' b' : Servicing) : Prop where
  terms : a.terms = b.terms → a'.terms = b'.terms
  covered : b.pledged ≤ a.pledged → b'.pledged ≤ a'.pledged
  disputed : (call.SetsSchedule id → b.disputed = false) →
    a.disputed = b.disputed → a'.disputed = b'.disputed
  pledged : (call = .recovery (.returnReserve id) → b.pledged = 0) →
    a.pledged = b.pledged → a'.pledged = b'.pledged
  approved : (call = .recovery (.cure id) → b.approved = false) → ∀ declared : Prop,
    (a.approved = true ↔ b.approved = true ∨ declared) →
      (a'.approved = true ↔ b'.approved = true ∨ call = .recovery (.declareDefault id) ∨
        declared ∧ call ≠ .recovery (.setDispute id true))

/-- Neither the row nor the schedule changes. -/
theorem Follows.same {id : FacilityId} {call : CreditCall} {a b : Servicing}
    (hdeclare : call ≠ .recovery (.declareDefault id))
    (hdispute : call ≠ .recovery (.setDispute id true)) : Follows id call a b a b := by
  refine ⟨fun h => h, fun h => h, fun _ h => h, fun _ h => h, fun _ declared h => ?_⟩
  rw [h]
  constructor
  · rintro (hb | hd)
    · exact .inl hb
    · exact .inr (.inr ⟨hd, hdispute⟩)
  · rintro (hb | hd | ⟨hd, -⟩)
    · exact .inl hb
    · exact absurd hd hdeclare
    · exact .inr hd

/-- The same part of the reserve leaves the row and the schedule. -/
theorem Follows.spend {id : FacilityId} {call : CreditCall} {a b : Servicing} (amount : Nat)
    (hdeclare : call ≠ .recovery (.declareDefault id))
    (hdispute : call ≠ .recovery (.setDispute id true)) :
    Follows id call a b { a with pledged := a.pledged - amount }
      { b with pledged := b.pledged - amount } := by
  have hsame : Follows id call a b a b := .same hdeclare hdispute
  refine ⟨hsame.terms, fun hle => Nat.sub_le_sub_right hle amount, hsame.disputed,
    fun _ heq => ?_, hsame.approved⟩
  show a.pledged - amount = b.pledged - amount
  rw [heq]

/-- `_schedules[id]`, as far as the projection shows it. -/
def Credit.servicingAt (c : Credit) (id : FacilityId) : Servicing :=
  (c.recovery.schedules id).servicing

/-- The events of a call keep the rows in step with the states, the impairments and the schedules. -/
def Informs (at_ : Nat) (call : CreditCall) (logs : List ProtocolLog) (c c' : Credit) : Prop :=
  ∀ v : CreditView, v.Mirrors c → (∀ id, (c.servicingAt id).pledged ≤ (v.row id).reservePledged) →
    ∃ v' : CreditView, Tells at_ logs v v' ∧ v'.Mirrors c' ∧
      ∀ id, Follows id call (v.row id).servicing (c.servicingAt id) (v'.row id).servicing
        (c'.servicingAt id)

section
variable {at_ : Nat} {call : CreditCall} {logs : List ProtocolLog} {c c' : Credit}

/-- Events that tell nothing about the schedules. -/
theorem Informs.of_carries (h : Carries at_ logs c c')
    (hf : ∀ id a, Follows id call a (c.servicingAt id) a (c'.servicingAt id)) :
    Informs at_ call logs c c' := by
  intro v hv _
  obtain ⟨v', htells, hv', hsame⟩ := h v hv
  refine ⟨v', htells, hv', fun id => ?_⟩
  rw [hsame id]
  exact hf id _

/-- A call that leaves the schedules alone. -/
theorem Informs.of_kept (h : Carries at_ logs c c')
    (hs : ∀ id, c'.servicingAt id = c.servicingAt id)
    (hdeclare : ∀ id, call ≠ .recovery (.declareDefault id))
    (hdispute : ∀ id, call ≠ .recovery (.setDispute id true)) : Informs at_ call logs c c' := by
  refine .of_carries h fun id a => ?_
  rw [hs id]
  exact .same (hdeclare id) (hdispute id)

/-- Later events of the call that tell nothing about the schedules. -/
theorem Informs.append {more : List ProtocolLog} {c₁ : Credit} (h : Informs at_ call logs c c₁)
    (h' : Carries at_ more c₁ c') (hs : ∀ id, c'.servicingAt id = c₁.servicingAt id) :
    Informs at_ call (logs ++ more) c c' := by
  intro v hv hcovered
  obtain ⟨v₁, htells, hv₁, hfollows⟩ := h v hv hcovered
  obtain ⟨v', htells', hv', hsame⟩ := h' v₁ hv₁
  refine ⟨v', htells.append htells', hv', fun id => ?_⟩
  rw [hsame id, hs id]
  exact hfollows id

/-- One event about the schedule of one facility. -/
theorem Informs.event {i : FacilityId} {log : ProtocolLog}
    {f : ProjectedFacilityCredit → ProjectedFacilityCredit}
    (hid : log.creditFacility = some i) (hstatus : c.SameStatus c')
    (hfold : ∀ r : ProjectedFacilityCredit, r.fold at_ log = .ok (f r) ∧ (f r).state = r.state ∧
      (f r).impairment = r.impairment ∧
      Follows i call r.servicing (c.servicingAt i) (f r).servicing (c'.servicingAt i))
    (hother : ∀ id, id ≠ i → c'.servicingAt id = c.servicingAt id ∧
      call ≠ .recovery (.declareDefault id) ∧ call ≠ .recovery (.setDispute id true)) :
    Informs at_ call [log] c c' := by
  intro v hv _
  obtain ⟨hok, hstate, himp, hfollows⟩ := hfold (v.row i)
  refine ⟨_, .event hid hok, fun id => ?_, fun id => ?_⟩
  · rw [CreditView.row_update, hstatus.state, hstatus.impairment]
    split
    · rename_i hi
      rw [hi, hstate, himp]
      exact hv i
    · exact hv id
  · rw [CreditView.row_update]
    split
    · rename_i hi
      rw [hi]
      exact hfollows
    · rename_i hi
      obtain ⟨hs, hdeclare, hdispute⟩ := hother id hi
      rw [hs]
      exact .same hdeclare hdispute

end

namespace Credit

variable {d : Deployment} {reg : Registries} {m : Msg} {c c' : Credit} {id : FacilityId} {at_ : Nat}

theorem servicingAt_setScheduleOf (s : Schedule) (i : FacilityId) :
    (c.setScheduleOf id s).servicingAt i = if i = id then s.servicing else c.servicingAt i := by
  show (Function.update c.recovery.schedules id s i).servicing = _
  by_cases hi : i = id
  · subst hi
    rw [Function.update_self, if_pos rfl]
  · rw [Function.update_of_ne hi, if_neg hi]
    rfl

theorem servicingAt_of_schedules (h : c'.recovery.schedules = c.recovery.schedules)
    (i : FacilityId) : c'.servicingAt i = c.servicingAt i := by
  rw [servicingAt, servicingAt, h]

/-- A new schedule. The row takes it for undisputed. -/
theorem setSchedule_informs {dueAt grace disputeWindow dueAmount : Nat}
    (h : c.setSchedule m id dueAt grace disputeWindow dueAmount = .ok c') :
    Informs at_ (.recovery (.setSchedule id dueAt grace disputeWindow dueAmount))
      [.recovery (.scheduleSet id dueAt grace dueAmount)] c c' := by
  unfold setSchedule at h
  obtain ⟨_, -, h⟩ := bind_eq_ok.mp h
  obtain ⟨state, -, h⟩ := bind_eq_ok.mp h
  obtain ⟨_, -, h⟩ := bind_eq_ok.mp h
  obtain ⟨_, hfuture, h⟩ := bind_eq_ok.mp h
  obtain ⟨_, -, h⟩ := bind_eq_ok.mp h
  obtain ⟨disputeUntil, -, h⟩ := bind_eq_ok.mp h
  obtain rfl := pure_eq_ok.mp h
  have hdue : dueAt ≠ 0 := by
    have hlate := (not_or.mp (revertIf_eq_ok.mp hfuture)).1
    omega
  refine .event (i := id) (f := fun r => { r with
    scheduleDueAt := some dueAt, scheduleGraceSeconds := some grace,
    scheduleDueAmount := some dueAmount, scheduleSetAt := some at_, disputed := false })
    rfl ⟨fun _ => rfl, rfl⟩ ?_ ?_
  · intro r
    refine ⟨rfl, rfl, rfl, ?_⟩
    rw [servicingAt_setScheduleOf, if_pos rfl]
    refine ⟨fun _ => ?_, fun hle => hle, fun hclear _ => ?_, fun _ heq => heq,
      fun _ declared happ => ?_⟩
    · show (some dueAt, some grace, some dueAmount) = Schedule.terms _
      simp only [Schedule.terms, if_neg hdue]
    · exact (hclear rfl).symm
    · refine happ.trans (or_congr_right ⟨fun hd => .inr ⟨hd, (by simp)⟩, ?_⟩)
      rintro (hd | ⟨hd, -⟩)
      · cases hd
      · exact hd
  · intro i hi
    refine ⟨?_, (by simp), (by simp)⟩
    rw [servicingAt_setScheduleOf, if_neg hi]

/-- A dispute, opened or closed. An open dispute withdraws the approval on both sides. -/
theorem setDispute_informs {disputed : Bool} (h : c.setDispute m id disputed = .ok c') :
    Informs at_ (.recovery (.setDispute id disputed))
      [.recovery (.disputeSet id disputed (c.recovery.schedules id).disputeUntil)] c c' := by
  unfold setDispute at h
  obtain ⟨_, -, h⟩ := bind_eq_ok.mp h
  obtain ⟨_, -, h⟩ := bind_eq_ok.mp h
  obtain rfl := pure_eq_ok.mp h
  cases disputed with
  | true =>
    refine .event (i := id) (f := fun r => { r with
      disputed := true, defaultReason := none, defaultApprovedAt := none })
      rfl ⟨fun _ => rfl, rfl⟩ ?_ ?_
    · intro r
      refine ⟨rfl, rfl, rfl, ?_⟩
      rw [servicingAt_setScheduleOf, if_pos rfl]
      refine ⟨fun heq => heq, fun hle => hle, fun _ _ => rfl, fun _ heq => heq,
        fun _ declared _ => ?_⟩
      simp [ProjectedFacilityCredit.servicing, Schedule.servicing]
    · intro i hi
      refine ⟨?_, (by simp), fun heq => hi ?_⟩
      · rw [servicingAt_setScheduleOf, if_neg hi]
      · cases heq
        rfl
  | false =>
    refine .event (i := id) (f := fun r => { r with disputed := false })
      rfl ⟨fun _ => rfl, rfl⟩ ?_ ?_
    · intro r
      refine ⟨rfl, rfl, rfl, ?_⟩
      rw [servicingAt_setScheduleOf, if_pos rfl]
      refine ⟨fun heq => heq, fun hle => hle, fun _ _ => rfl, fun _ heq => heq,
        fun _ declared happ => ?_⟩
      simpa [ProjectedFacilityCredit.servicing, Schedule.servicing, servicingAt] using happ
    · intro i hi
      refine ⟨?_, (by simp), (by simp)⟩
      rw [servicingAt_setScheduleOf, if_neg hi]

theorem approveDefault_informs {reason : Bytes32} (h : c.approveDefault m id reason = .ok c') :
    Informs at_ (.recovery (.approveDefault id reason)) [.recovery (.defaultApproved id reason)]
      c c' := by
  unfold approveDefault at h
  obtain ⟨_, -, h⟩ := bind_eq_ok.mp h
  obtain ⟨_, -, h⟩ := bind_eq_ok.mp h
  obtain ⟨_, -, h⟩ := bind_eq_ok.mp h
  obtain rfl := pure_eq_ok.mp h
  refine .event (i := id) (f := fun r => { r with
    defaultReason := some reason, defaultApprovedAt := some at_ }) rfl ⟨fun _ => rfl, rfl⟩ ?_ ?_
  · intro r
    refine ⟨rfl, rfl, rfl, ?_⟩
    rw [servicingAt_setScheduleOf, if_pos rfl]
    refine ⟨fun heq => heq, fun hle => hle, fun _ heq => heq, fun _ heq => heq,
      fun _ declared _ => ?_⟩
    simp [ProjectedFacilityCredit.servicing, Schedule.servicing]
  · intro i hi
    refine ⟨?_, (by simp), (by simp)⟩
    rw [servicingAt_setScheduleOf, if_neg hi]

theorem fundReserve_informs {amount : Nat} (h : c.fundReserve d m id amount = .ok c') :
    Informs at_ (.recovery (.fundReserve id amount))
      [.recovery (.reserveFunded id m.sender amount)] c c' := by
  unfold fundReserve at h
  obtain ⟨_, -, h⟩ := bind_eq_ok.mp h
  obtain ⟨_, -, h⟩ := bind_eq_ok.mp h
  split at h
  · cases h
  · rename_i token htoken
    obtain ⟨got, -, h⟩ := bind_eq_ok.mp h
    obtain ⟨_, -, h⟩ := bind_eq_ok.mp h
    obtain ⟨pledged, hpledged, h⟩ := bind_eq_ok.mp h
    obtain ⟨-, rfl⟩ := addW_eq_ok.mp hpledged
    obtain rfl := pure_eq_ok.mp h
    refine .event (i := id) (f := fun r => { r with
      reserveOwner := some m.sender, reservePledged := r.reservePledged + amount })
      rfl ⟨fun _ => rfl, rfl⟩ ?_ ?_
    · intro r
      refine ⟨rfl, rfl, rfl, ?_⟩
      rw [servicingAt_setScheduleOf, if_pos rfl]
      refine ⟨fun heq => heq, fun hle => Nat.add_le_add_right hle amount, fun _ heq => heq,
        fun _ heq => congrArg (· + amount) heq, fun _ declared happ => ?_⟩
      simpa [ProjectedFacilityCredit.servicing, Schedule.servicing, servicingAt] using happ
    · intro i hi
      refine ⟨?_, (by simp), (by simp)⟩
      rw [servicingAt_setScheduleOf, if_neg hi]
      rfl

/-! ### Calls that write a schedule and emit nothing about it -/

/-- A write that the row does not see. -/
theorem informs_of_setScheduleOf {call : CreditCall} {logs : List ProtocolLog} {c₁ : Credit}
    {s : Schedule} (h : Carries at_ logs c c₁)
    (hkept : ∀ i, c₁.servicingAt i = c.servicingAt i)
    (hown : ∀ a, Follows id call a (c.servicingAt id) a s.servicing)
    (hdeclare : ∀ i, i ≠ id → call ≠ .recovery (.declareDefault i))
    (hdispute : ∀ i, i ≠ id → call ≠ .recovery (.setDispute i true)) :
    Informs at_ call logs c (c₁.setScheduleOf id s) := by
  refine .of_carries (h.same ⟨fun _ => rfl, rfl⟩) fun i a => ?_
  rw [servicingAt_setScheduleOf]
  split
  · rename_i hi
    rw [hi]
    exact hown a
  · rename_i hi
    rw [hkept i]
    exact .same (hdeclare i hi) (hdispute i hi)

/-- A cure withdraws an approval that the row keeps. -/
theorem cure_informs (h : c.cure d reg m id = .ok c') :
    Informs at_ (.recovery (.cure id)) (c.cureLogs m id) c c' := by
  unfold cure at h
  obtain ⟨paid, -, h⟩ := bind_eq_ok.mp h
  obtain ⟨_, -, h⟩ := bind_eq_ok.mp h
  obtain ⟨debt, hdebt, h⟩ := bind_eq_ok.mp h
  obtain ⟨c₁, hcured, h⟩ := bind_eq_ok.mp h
  obtain rfl := pure_eq_ok.mp h
  have hcarries : Carries at_ (c.cureLogs m id) c c₁ ∧ c₁.recovery = c.recovery := by
    simp only [cureLogs, hdebt]
    unfold cureState at hcured
    split at hcured
    · rename_i hzero
      rw [if_pos hzero]
      exact ⟨(syncRepaid_emits hcured).carries, syncRepaid_recovery hcured⟩
    · rename_i howed
      rw [if_neg howed]
      exact ⟨(recoveryTransition_emits hcured).carries, recoveryTransition_recovery hcured⟩
  have hkept : ∀ i, c₁.servicingAt i = c.servicingAt i :=
    servicingAt_of_schedules (by rw [hcarries.2])
  refine informs_of_setScheduleOf hcarries.1 hkept ?_ (by simp) (by simp)
  intro a
  rw [← hkept id]
  refine ⟨fun heq => heq, fun hle => hle, fun _ heq => heq, fun _ heq => heq,
    fun hclear declared happ => ?_⟩
  rw [hclear rfl] at happ
  simpa [Schedule.servicing] using happ

/-- The declaration uses up the approval. The row keeps it, for it is why the facility is in
default. -/
theorem declareDefault_informs (h : c.declareDefault d reg m id = .ok c') :
    Informs at_ (.recovery (.declareDefault id))
      (c.setFacilityStateLogs id .defaulted ++
        (LedgerCall.logs m c.pool.ledger (.freezeAccrual id)).map .ledger) c c' := by
  have hdeclared := declareDefault_ok h
  unfold declareDefault at h
  obtain ⟨_, -, h⟩ := bind_eq_ok.mp h
  obtain ⟨_, -, h⟩ := bind_eq_ok.mp h
  obtain ⟨_, -, h⟩ := bind_eq_ok.mp h
  obtain ⟨c₁, htrans, h⟩ := bind_eq_ok.mp h
  obtain ⟨l, -, h⟩ := bind_eq_ok.mp h
  obtain rfl := pure_eq_ok.mp h
  have hschedules := recoveryTransition_recovery htrans
  have hstate : Carries at_ (c.setFacilityStateLogs id .defaulted) c c₁ :=
    .from
      ⟨fun _ => rfl, rfl⟩ (recoveryTransition_emits htrans).carries
  refine .of_carries (hstate.append (.quiet ledger_skipped ⟨fun _ => rfl, rfl⟩)) fun i a => ?_
  have hserv : Credit.servicingAt { c₁ with pool := { c₁.pool with ledger := l } } i =
      if i = id then Schedule.servicing { c.recovery.schedules id with defaultApproved := false }
      else c.servicingAt i := by
    rw [← servicingAt_setScheduleOf]
    exact servicingAt_of_schedules (by rw [← hschedules]) i
  rw [hserv]
  by_cases hi : i = id
  · subst hi
    rw [if_pos rfl]
    refine ⟨fun heq => heq, fun hle => hle, fun _ heq => heq, fun _ heq => heq,
      fun _ declared happ => ?_⟩
    have hwas : (c.servicingAt i).approved = true := hdeclared.2.1
    simp [happ.mpr (.inl hwas)]
  · rw [if_neg hi]
    refine .same (fun heq => hi ?_) (by simp)
    cases heq
    rfl

/-- A returned reserve stays in the row as pledged. -/
theorem returnReserve_informs (h : c.returnReserve d m id = .ok c') :
    Informs at_ (.recovery (.returnReserve id)) [] c c' := by
  unfold returnReserve at h
  obtain ⟨_, -, h⟩ := bind_eq_ok.mp h
  obtain ⟨debt, -, h⟩ := bind_eq_ok.mp h
  obtain ⟨_, -, h⟩ := bind_eq_ok.mp h
  split at h
  · cases h
  · rename_i token htoken
    obtain rfl := pure_eq_ok.mp h
    refine informs_of_setScheduleOf
      (.quiet (fun _ hl => absurd hl List.not_mem_nil) ⟨fun _ => rfl, rfl⟩) (fun _ => rfl) ?_ (by simp)
      (by simp)
    intro a
    refine ⟨fun heq => heq, fun _ => Nat.zero_le _, fun _ heq => heq, fun hnone heq => ?_,
      fun _ declared happ => ?_⟩
    · rw [heq, hnone rfl]
      rfl
    · simpa [Schedule.servicing, servicingAt] using happ

theorem approveWriteOff_informs {lossId : Bytes32} (h : c.approveWriteOff m id lossId = .ok c') :
    Informs at_ (.recovery (.approveWriteOff id lossId)) [] c c' := by
  unfold approveWriteOff at h
  obtain ⟨_, -, h⟩ := bind_eq_ok.mp h
  obtain ⟨_, -, h⟩ := bind_eq_ok.mp h
  obtain ⟨state, -, h⟩ := bind_eq_ok.mp h
  obtain ⟨_, -, h⟩ := bind_eq_ok.mp h
  obtain rfl := pure_eq_ok.mp h
  refine informs_of_setScheduleOf (.quiet (fun _ hl => absurd hl List.not_mem_nil) ⟨fun _ => rfl, rfl⟩)
    (fun _ => rfl) ?_ (by simp) (by simp)
  intro a
  exact .same (by simp) (by simp)

/-! ### Losses -/

/-- The reserve that is applied leaves the row and the schedule alike. The schedule is written
before the repayment, and the event comes after it. -/
theorem applyReserveInternal_informs (h : c.applyReserveInternal d m id = .ok c')
    {call : CreditCall} (hdeclare : ∀ i, call ≠ .recovery (.declareDefault i))
    (hdispute : ∀ i, call ≠ .recovery (.setDispute i true)) :
    Informs at_ call (c.applyReserveLogs d m id) c c' := by
  unfold applyReserveInternal at h
  obtain ⟨state, -, h⟩ := bind_eq_ok.mp h
  obtain ⟨_, -, h⟩ := bind_eq_ok.mp h
  obtain ⟨debt, hdebt, h⟩ := bind_eq_ok.mp h
  simp only [applyReserveLogs, hdebt]
  dsimp only at h
  have hle : (if (c.recovery.schedules id).pledgedReserve < debt then
      (c.recovery.schedules id).pledgedReserve else debt) ≤
        (c.recovery.schedules id).pledgedReserve := by
    split <;> omega
  generalize (if (c.recovery.schedules id).pledgedReserve < debt then
    (c.recovery.schedules id).pledgedReserve else debt) = amount at h hle ⊢
  split at h
  · rename_i hzero
    rw [if_pos hzero]
    obtain rfl := pure_eq_ok.mp h
    exact .of_kept (.quiet (fun _ hl => absurd hl List.not_mem_nil) ⟨fun _ => rfl, rfl⟩) (fun _ => rfl) hdeclare
      hdispute
  · rename_i hpays
    rw [if_neg hpays]
    obtain ⟨⟨r, c₁⟩, hrepay, h⟩ := bind_eq_ok.mp h
    obtain rfl := pure_eq_ok.mp h
    intro v hv hcovered
    have hrepaid : Carries at_ _ _ _ := (repayExact_emits hrepay).carries
    obtain ⟨v₁, htells, hv₁, hsame⟩ := (Carries.from (c := c) ⟨fun _ => rfl, rfl⟩ hrepaid) v hv
    have hpledged : (v₁.row id).reservePledged = (v.row id).reservePledged :=
      congrArg Servicing.pledged (hsame id)
    have hfits : ¬amount > (v₁.row id).reservePledged := by
      have hcover : (c.recovery.schedules id).pledgedReserve ≤ (v.row id).reservePledged :=
        hcovered id
      omega
    have hfold : (v₁.row id).fold at_ (.recovery (.reserveApplied id amount)) =
        .ok { v₁.row id with
          reservePledged := (v₁.row id).reservePledged - amount,
          reserveApplied := (v₁.row id).reserveApplied + amount } := by
      simp only [ProjectedFacilityCredit.fold, revertIf_of_not _ hfits]
      rfl
    refine ⟨_, htells.append (.event rfl hfold), fun i => ?_, fun i => ?_⟩
    · rw [CreditView.row_update]
      split
      · rename_i hi
        subst hi
        exact hv₁ i
      · exact hv₁ i
    · have hserv : Credit.servicingAt (c₁.approveRouter d 0) i =
          if i = id then { c.servicingAt id with pledged := (c.servicingAt id).pledged - amount }
          else c.servicingAt i := by
        have hkept : c₁.servicingAt i = Credit.servicingAt (c.setScheduleOf id _) i :=
          servicingAt_of_schedules (repayExact_schedules hrepay) i
        show c₁.servicingAt i = _
        rw [hkept, servicingAt_setScheduleOf]
        rfl
      rw [CreditView.row_update, hserv]
      split
      · rename_i hi
        subst hi
        have hrow : ProjectedFacilityCredit.servicing { v₁.row i with
            reservePledged := (v₁.row i).reservePledged - amount,
            reserveApplied := (v₁.row i).reserveApplied + amount } =
            { (v.row i).servicing with pledged := (v.row i).reservePledged - amount } := by
          rw [← hsame i, ← hpledged]
          rfl
        rw [hrow]
        exact .spend amount (hdeclare i) (hdispute i)
      · rw [hsame i]
        exact .same (hdeclare i) (hdispute i)

/-- `LossApplied` is read for its loss only. -/
theorem lossApplied_carries (lossId : Bytes32) (amount : Nat) (writeOff : Bool)
    (hs : c.SameStatus c') :
    Carries at_ [.recovery (.lossApplied id lossId amount writeOff)] c c' := by
  refine .event (f := fun r => if writeOff = true then { r with
    lossId := some lossId, lossAmount := some amount, writtenOffAt := some at_ } else r) rfl ?_
    fun i _ => ⟨hs.state i, by rw [hs.impairment]⟩
  intro r hstate himp
  rw [hs.state, hs.impairment]
  cases writeOff with
  | true => exact ⟨rfl, hstate, himp, rfl⟩
  | false => exact ⟨rfl, hstate, himp, rfl⟩

theorem impair_informs {lossId : Bytes32} {amount : Nat}
    (h : c.impair d m id lossId amount = .ok c') :
    Informs at_ (.recovery (.impair id lossId amount))
      [.vault (.impairmentRecognized id amount), .recovery (.lossApplied id lossId amount false)]
      c c' := by
  unfold impair at h
  obtain ⟨_, -, h⟩ := bind_eq_ok.mp h
  obtain ⟨_, -, h⟩ := bind_eq_ok.mp h
  obtain ⟨pool, hpool, h⟩ := bind_eq_ok.mp h
  obtain rfl := pure_eq_ok.mp h
  have hvault : Carries at_ [.vault (.impairmentRecognized id amount)] c { c with pool := pool } :=
    @VaultCall.carries (m.calledBy d.recovery) c pool (.recognizeImpairment id amount) at_ hpool
  exact .of_kept (hvault.append (lossApplied_carries lossId amount false ⟨fun _ => rfl, rfl⟩))
    (fun _ => rfl) (by simp) (by simp)

theorem recoveryReverseImpairment_informs {amount : Nat}
    (h : c.recoveryReverseImpairment d m id amount = .ok c') :
    Informs at_ (.recovery (.reverseImpairment id amount))
      [.vault (.impairmentReversed id amount)] c c' := by
  unfold recoveryReverseImpairment at h
  obtain ⟨_, -, h⟩ := bind_eq_ok.mp h
  obtain ⟨pool, hpool, h⟩ := bind_eq_ok.mp h
  obtain rfl := pure_eq_ok.mp h
  have hvault : Carries at_ [.vault (.impairmentReversed id amount)] c { c with pool := pool } :=
    @VaultCall.carries (m.calledBy d.recovery) c pool (.reverseImpairment id amount) at_ hpool
  exact .of_kept hvault (fun _ => rfl) (by simp) (by simp)

theorem recoveryWriteOff_informs {lossId : Bytes32}
    (h : c.recoveryWriteOff d reg m id lossId = .ok c') :
    Informs at_ (.recovery (.writeOff id lossId)) (c.recoveryWriteOffLogs d m id lossId) c c' := by
  unfold recoveryWriteOff at h
  obtain ⟨_, -, h⟩ := bind_eq_ok.mp h
  obtain ⟨_, -, h⟩ := bind_eq_ok.mp h
  obtain ⟨_, -, h⟩ := bind_eq_ok.mp h
  obtain ⟨c₁, hreserve, h⟩ := bind_eq_ok.mp h
  obtain ⟨debt, hdebt, h⟩ := bind_eq_ok.mp h
  have happlied : Informs at_ (.recovery (.writeOff id lossId)) (c.applyReserveLogs d m id) c c₁ :=
    applyReserveInternal_informs hreserve (by simp) (by simp)
  simp only [recoveryWriteOffLogs, hreserve, hdebt]
  split at h
  · rename_i hzero
    rw [if_pos hzero]
    exact happlied.append (syncRepaid_emits h).carries
      (servicingAt_of_schedules (by rw [syncRepaid_recovery h]))
  · rename_i hloss
    rw [if_neg hloss]
    obtain ⟨pool, hpool, h⟩ := bind_eq_ok.mp h
    have hvault := @VaultCall.carries (m.calledBy d.recovery) c₁ pool (.writeOff id) at_ hpool
    have htrans : Carries at_ _ _ _ := (recoveryTransition_emits h).carries
    have hclosed := Carries.from (c := { c₁ with pool := pool }) ⟨fun _ => rfl, rfl⟩ htrans
    refine happlied.append ((hvault.append hclosed).append
      (lossApplied_carries lossId debt true ⟨fun _ => rfl, rfl⟩)) fun i => ?_
    rw [servicingAt, recoveryTransition_recovery h]
    -- Of the schedule only `writtenOff` is new, which no row shows.
    show (Function.update c₁.recovery.schedules id _ i).servicing = _
    by_cases hi : i = id
    · subst hi
      rw [Function.update_self]
      rfl
    · rw [Function.update_of_ne hi]
      rfl

end Credit

section
variable {d : Deployment} {reg : Registries} {m : Msg} {c c' : Credit} {at_ : Nat}

open Credit

theorem RecoveryCall.informs {call : RecoveryCall} (h : call.exec d reg m c = .ok c') :
    Informs at_ (.recovery call) (call.logs d m c) c c' := by
  cases call with
  | setSchedule i dueAt grace disputeWindow dueAmount => exact setSchedule_informs h
  | observeAllocation i amount =>
    simp only [RecoveryCall.exec, Credit.observeAllocation] at h
    obtain ⟨_, -, h⟩ := bind_eq_ok.mp h
    obtain ⟨total, -, h⟩ := bind_eq_ok.mp h
    obtain rfl := pure_eq_ok.mp h
    exact .of_kept (.quiet (fun _ hl => absurd hl List.not_mem_nil) ⟨fun _ => rfl, rfl⟩) (fun _ => rfl)
      (by simp) (by simp)
  | markDelinquent i =>
    simp only [RecoveryCall.exec, Credit.markDelinquent] at h
    obtain ⟨_, -, h⟩ := bind_eq_ok.mp h
    obtain ⟨paid, -, h⟩ := bind_eq_ok.mp h
    obtain ⟨_, -, h⟩ := bind_eq_ok.mp h
    exact .of_kept ((recoveryTransition_emits h).carries)
      (servicingAt_of_schedules (by rw [recoveryTransition_recovery h])) (by simp)
      (by simp)
  | cure i => exact cure_informs h
  | setDispute i disputed => exact setDispute_informs h
  | approveDefault i reason => exact approveDefault_informs h
  | declareDefault i => exact declareDefault_informs h
  | beginRecovery i =>
    simp only [RecoveryCall.exec, Credit.beginRecovery] at h
    obtain ⟨_, -, h⟩ := bind_eq_ok.mp h
    exact .of_kept ((recoveryTransition_emits h).carries)
      (servicingAt_of_schedules (by rw [recoveryTransition_recovery h])) (by simp)
      (by simp)
  | fundReserve i amount => exact fundReserve_informs h
  | applyReserve i =>
    simp only [RecoveryCall.exec, Credit.applyReserve] at h
    obtain ⟨_, -, h⟩ := bind_eq_ok.mp h
    exact applyReserveInternal_informs h (by simp) (by simp)
  | returnReserve i => exact returnReserve_informs h
  | impair i lossId amount => exact impair_informs h
  | reverseImpairment i amount => exact recoveryReverseImpairment_informs h
  | approveWriteOff i lossId => exact approveWriteOff_informs h
  | writeOff i lossId => exact recoveryWriteOff_informs h

/-- Every call keeps the rows in step. -/
theorem CreditCall.informs (ht : ∀ id, c.Tidy id) {call : CreditCall} {ref : Bytes32}
    (h : call.exec d reg m c = .ok c') : Informs at_ call (call.logs d reg m ref c) c c' := by
  cases call with
  | vault call =>
    obtain ⟨p, hp, rfl⟩ := map_eq_ok.mp h
    exact .of_kept (VaultCall.carries hp) (fun _ => rfl) (by simp) (by simp)
  | ledger call =>
    obtain ⟨l, -, rfl⟩ := map_eq_ok.mp h
    exact .of_kept (.quiet ledger_skipped ⟨fun _ => rfl, rfl⟩) (fun _ => rfl) (by simp)
      (by simp)
  | token call =>
    obtain ⟨t, -, rfl⟩ := map_eq_ok.mp h
    exact .of_kept (.quiet (fun _ hl => absurd hl List.not_mem_nil) ⟨fun _ => rfl, rfl⟩) (fun _ => rfl)
      (by simp) (by simp)
  | exposure call =>
    exact .of_kept (ExposureCall.emits h).carries
      (servicingAt_of_schedules (by rw [(ExposureCall.exec_frame h).1])) (by simp)
      (by simp)
  | manager call =>
    exact .of_kept (ManagerCall.carries ht h)
      (servicingAt_of_schedules (ManagerCall.exec_schedules h)) (by simp) (by simp)
  | router call =>
    exact .of_kept (RouterCall.emits h).carries (servicingAt_of_schedules (RouterCall.exec_schedules h))
      (by simp) (by simp)
  | recovery call => exact RecoveryCall.informs h

end

/-! ### Runs -/

/-- In the transactions so far a default of the facility was declared, and no dispute on it was
opened since. -/
def DefaultStands (id : FacilityId) (txs : List LoggedTx) : Prop :=
  ∃ pre tx post, txs = pre ++ tx :: post ∧ tx.call = .recovery (.declareDefault id) ∧
    ∀ later ∈ post, later.call ≠ .recovery (.setDispute id true)

theorem defaultStands_snoc {id : FacilityId} {txs : List LoggedTx} {tx : LoggedTx} :
    DefaultStands id (txs ++ [tx]) ↔ tx.call = .recovery (.declareDefault id) ∨
      DefaultStands id txs ∧ tx.call ≠ .recovery (.setDispute id true) := by
  constructor
  · rintro ⟨pre, declared, post, heq, hdeclared, hlater⟩
    rcases List.eq_nil_or_concat post with rfl | ⟨post, last, rfl⟩
    · obtain ⟨-, hlast⟩ := List.append_inj' heq rfl
      cases hlast
      exact .inl hdeclared
    · have hcut : txs ++ [tx] = (pre ++ declared :: post) ++ [last] := by
        rw [heq]
        simp
      obtain ⟨htxs, hlast⟩ := List.append_inj' hcut rfl
      cases hlast
      refine .inr ⟨⟨pre, declared, post, htxs, hdeclared, fun later hl => ?_⟩, ?_⟩
      · exact hlater later (by simp [hl])
      · exact hlater tx (by simp)
  · rintro (hdeclared | ⟨⟨pre, declared, post, rfl, hdeclared, hlater⟩, hkeeps⟩)
    · exact ⟨txs, tx, [], rfl, hdeclared, by simp⟩
    · refine ⟨pre, declared, post ++ [tx], by simp, hdeclared, fun later hl => ?_⟩
      rcases List.mem_append.mp hl with hl | hl
      · exact hlater later hl
      · rw [List.mem_singleton.mp hl]
        exact hkeeps

section
variable {d : Deployment} {s₀ s s' : Logged CreditState StampedLog} {txs : List LoggedTx}

/-- Every transaction of the run is a call with `Q`, in the state before it. -/
def AllAlong (d : Deployment) (s₀ : Logged CreditState StampedLog) (txs : List LoggedTx)
    (Q : Credit → CreditCall → Prop) : Prop :=
  ∀ t tx t', StepOf (CreditLogStep d) s₀ txs t tx t' → Q t.state.credit tx.call

theorem AllAlong.init {Q : Credit → CreditCall → Prop} {tx : LoggedTx}
    (h : AllAlong d s₀ (txs ++ [tx]) Q) : AllAlong d s₀ txs Q :=
  fun t tx' t' hof => h t tx' t' (hof.snoc tx)

theorem AllAlong.last {Q : Credit → CreditCall → Prop} {tx : LoggedTx}
    (h : AllAlong d s₀ (txs ++ [tx]) Q) (hrun : Steps (CreditLogStep d) s₀ txs s)
    (hs : CreditLogStep d s tx s') : Q s.state.credit tx.call :=
  h s tx s' (hrun.lastStepOf hs)

/-- What a row and a schedule agree on after the transactions `txs`. The fields of the schedule that
are not emitted in full agree as long as no transaction leaves the row behind. -/
structure RowFollows (d : Deployment) (s₀ : Logged CreditState StampedLog) (txs : List LoggedTx)
    (id : FacilityId) (a b : Servicing) : Prop where
  terms : a.terms = b.terms
  covered : b.pledged ≤ a.pledged
  disputed : AllAlong d s₀ txs (fun c call => call.SetsSchedule id →
    (c.recovery.schedules id).disputed = false) → a.disputed = b.disputed
  pledged : AllAlong d s₀ txs (fun c call => call = .recovery (.returnReserve id) →
    (c.recovery.schedules id).pledgedReserve = 0) → a.pledged = b.pledged
  approved : AllAlong d s₀ txs (fun c call => call = .recovery (.cure id) →
    (c.recovery.schedules id).defaultApproved = false) →
    (a.approved = true ↔ b.approved = true ∨ DefaultStands id txs)

/-- One more transaction. -/
theorem RowFollows.snoc {tx : LoggedTx} {id : FacilityId} {a a' : Servicing}
    (h : RowFollows d s₀ txs id a (s.state.credit.servicingAt id))
    (hrun : Steps (CreditLogStep d) s₀ txs s) (hs : CreditLogStep d s tx s')
    (hf : Follows id tx.call a (s.state.credit.servicingAt id) a'
      (s'.state.credit.servicingAt id)) :
    RowFollows d s₀ (txs ++ [tx]) id a' (s'.state.credit.servicingAt id) := by
  refine ⟨hf.terms h.terms, hf.covered h.covered, fun hall => ?_, fun hall => ?_, fun hall => ?_⟩
  · exact hf.disputed (hall.last hrun hs) (h.disputed hall.init)
  · exact hf.pledged (hall.last hrun hs) (h.pledged hall.init)
  · rw [defaultStands_snoc]
    exact hf.approved (hall.last hrun hs) _ (h.approved hall.init)

/-- The reader comes through the log, its rows have the states and the impairments, and they follow
the schedules. -/
def StatusFollows (d : Deployment) (s₀ : Logged CreditState StampedLog) (txs : List LoggedTx)
    (s : Logged CreditState StampedLog) : Prop :=
  ∃ v, fold projectCredit CreditView.empty s.log = .ok v ∧ v.Mirrors s.state.credit ∧
    ∀ id, RowFollows d s₀ txs id (v.row id).servicing (s.state.credit.servicingAt id)

theorem CreditLogInitial.follows (h : CreditLogInitial d s₀) : StatusFollows d s₀ [] s₀ := by
  obtain ⟨⟨token, -, hcredit⟩, hlog⟩ := h
  refine ⟨.empty, by rw [hlog, fold_nil], fun id => ?_, fun id => ?_⟩
  · rw [hcredit]
    exact ⟨rfl, rfl⟩
  · rw [hcredit]
    refine ⟨rfl, Nat.le_refl _, fun _ => rfl, fun _ => rfl, fun _ => ?_⟩
    have hnone : ¬DefaultStands id [] := by
      rintro ⟨pre, tx, post, heq, -⟩
      cases pre <;> cases heq
    constructor
    · intro h
      cases h
    · rintro (h | h)
      · cases h
      · exact absurd h hnone

theorem StatusFollows.snoc {tx : LoggedTx} (h : StatusFollows d s₀ txs s)
    (hrun : Steps (CreditLogStep d) s₀ txs s) (hreach : CreditReachable d s.state)
    (hs : CreditLogStep d s tx s') : StatusFollows d s₀ (txs ++ [tx]) s' := by
  obtain ⟨v, hv, hmirrors, hrows⟩ := h
  have hinforms : Informs tx.msg.now tx.call (tx.logs d s.state) s.state.credit s'.state.credit :=
    CreditCall.informs (fun id => hreach.tidy id) hs.1.2.2.1
  obtain ⟨v', htells, hmirrors', hfollows⟩ := hinforms v hmirrors fun id => (hrows id).covered
  refine ⟨v', ?_, hmirrors', fun id => (hrows id).snoc hrun hs (hfollows id)⟩
  rw [hs.2, fold_append hv]
  exact htells

/-- The credit status folded from the logs of any run. The fold comes through, and every row has the
state, the impairment and the schedule terms of its facility. The other fields have a condition.
The dispute is that of the schedule as long as no new schedule was set for a disputed facility, and
the reserve as long as none was returned. As long as no approved facility was cured, a default is
shown as approved if and only if the schedule has it approved, or it was declared and no dispute was
opened since. -/
theorem credit_status_projected (h₀ : CreditLogInitial d s₀)
    (hrun : Steps (CreditLogStep d) s₀ txs s) :
    ∃ v, fold projectCredit CreditView.empty s.log = .ok v ∧ ∀ id,
      let row := v.row id
      let schedule := s.state.credit.recovery.schedules id
      row.state = (s.state.credit.manager.facilities id).state ∧
      row.impairment = s.state.credit.pool.vault.impairmentOf id ∧
      row.terms = schedule.terms ∧
      (AllAlong d s₀ txs (fun c call => call.SetsSchedule id →
          (c.recovery.schedules id).disputed = false) → row.disputed = schedule.disputed) ∧
      (AllAlong d s₀ txs (fun c call => call = .recovery (.returnReserve id) →
          (c.recovery.schedules id).pledgedReserve = 0) →
        row.reservePledged = schedule.pledgedReserve) ∧
      (AllAlong d s₀ txs (fun c call => call = .recovery (.cure id) →
          (c.recovery.schedules id).defaultApproved = false) →
        (row.defaultApprovedAt.isSome = true ↔
          schedule.defaultApproved = true ∨ DefaultStands id txs)) := by
  have hall : CreditReachable d s.state ∧ StatusFollows d s₀ txs s := by
    refine Steps.history (P := fun txs s => CreditReachable d s.state ∧ StatusFollows d s₀ txs s)
      ⟨.init h₀.1, h₀.follows⟩ ?_ hrun
    intro txs s tx s' hpre ih hs
    exact ⟨ih.1.step hs.1, ih.2.snoc hpre ih.1 hs⟩
  obtain ⟨-, v, hv, hmirrors, hrows⟩ := hall
  refine ⟨v, hv, fun id => ⟨(hmirrors id).1, (hmirrors id).2, (hrows id).terms, (hrows id).disputed,
    (hrows id).pledged, (hrows id).approved⟩⟩

end

namespace Sample

/-- An active facility with a schedule and a reserve of 50. -/
def scheduled : List Tx :=
  activeFacility 1000 600 ++
    [tx 7 20 (.recovery (.setSchedule 5 30 5 0 100)), tx 7 20 (.recovery (.fundReserve 5 50))]

/-- Its installment is overdue, and the default is approved. -/
def approved : List LoggedTx :=
  (scheduled ++ [tx 7 50 (.recovery (.markDelinquent 5)),
    tx 7 50 (.recovery (.approveDefault 5 1))]).map logged

/-- The default is declared. -/
def declared : List LoggedTx := approved ++ [logged (tx 7 51 (.recovery (.declareDefault 5)))]

/-- The debt is paid, and the reserve is returned. -/
def returned : List LoggedTx :=
  declared ++ [tx 7 52 (.router (.repayFor 5 600)), tx 7 53 (.recovery (.returnReserve 5))].map logged

/-- The installment is paid instead, and the facility is cured. -/
def cured : List LoggedTx :=
  approved ++ [tx 7 51 (.router (.repayFor 5 100)), tx 7 52 (.recovery (.cure 5))].map logged

/-- Another schedule is set under an open dispute. -/
def rescheduled : List LoggedTx :=
  (scheduled ++ [tx 7 21 (.recovery (.setDispute 5 true)),
    tx 7 22 (.recovery (.setSchedule 5 40 5 0 100))]).map logged

/-- The row and the schedule of facility 5 after a run. -/
def status (s : Logged CreditState StampedLog) : Option (ProjectedFacilityCredit × Schedule) :=
  (fold projectCredit CreditView.empty s.log).toOption.map fun v =>
    (v.row 5, s.state.credit.recovery.schedules 5)

def creditRun (txs : List LoggedTx) : Except Revert (Logged CreditState StampedLog) :=
  run (LoggedTx.exec protocol) (LoggedTx.stampedLogs protocol) ⟨creditDeployment, []⟩ txs

theorem creditRun_steps {txs : List LoggedTx} {s : Logged CreditState StampedLog}
    (h : creditRun txs = .ok s) :
    Steps (CreditLogStep protocol) ⟨creditDeployment, []⟩ txs s := by
  unfold creditRun at h
  refine run_steps ?_ h
  exact fun _ _ _ hexec => LoggedTx.exec_step hexec

/-- A run that returned, and the row and the schedule after it. -/
theorem creditRun_status (txs : List LoggedTx) (view : ProjectedFacilityCredit × Schedule → Bool)
    (h : (((creditRun txs).toOption.bind status).map view) = some true) :
    ∃ s v, Steps (CreditLogStep protocol) ⟨creditDeployment, []⟩ txs s ∧
      fold projectCredit CreditView.empty s.log = .ok v ∧
      view (v.row 5, s.state.credit.recovery.schedules 5) = true := by
  obtain ⟨p, hp, hview⟩ := Option.map_eq_some_iff.mp h
  obtain ⟨s, hs, hstatus⟩ := Option.bind_eq_some_iff.mp hp
  obtain ⟨v, hv, rfl⟩ := Option.map_eq_some_iff.mp hstatus
  exact ⟨s, v, creditRun_steps (toOption_eq_some.mp hs), toOption_eq_some.mp hv, hview⟩

end Sample

/-- The declared default, with the reserve in both places. -/
theorem credit_status_projected_sample :
    ∃ s v, Steps (CreditLogStep Sample.protocol) ⟨Sample.creditDeployment, []⟩ Sample.declared s ∧
      fold projectCredit CreditView.empty s.log = .ok v ∧
      (v.row 5).state = (s.state.credit.manager.facilities 5).state ∧
      (v.row 5).reservePledged = (s.state.credit.recovery.schedules 5).pledgedReserve ∧
      (s.state.credit.recovery.schedules 5).pledgedReserve = 50 ∧
      (v.row 5).defaultApprovedAt.isSome = true := by
  obtain ⟨s, w, hrun, -, hview⟩ := Sample.creditRun_status Sample.declared
    (fun p => decide (p.2.pledgedReserve = 50)) (by decide +kernel)
  have hreserve : (s.state.credit.recovery.schedules 5).pledgedReserve = 50 :=
    of_decide_eq_true hview
  obtain ⟨v, hv, hrows⟩ := credit_status_projected ⟨Sample.creditDeployment_initial, rfl⟩ hrun
  obtain ⟨hstate, -, -, -, hpledged, happroved⟩ := hrows 5
  have hcalls : ∀ tx ∈ Sample.declared, tx.call ≠ .recovery (.returnReserve 5) ∧
      tx.call ≠ .recovery (.cure 5) := by
    simp [Sample.declared, Sample.approved, Sample.scheduled, Sample.activeFacility, Sample.tx,
      Sample.logged]
  refine ⟨s, v, hrun, hv, hstate, hpledged ?_, hreserve, (happroved ?_).mpr (.inr ?_)⟩
  · rintro t tx t' ⟨pre, post, heq, -, -⟩ hcall
    exact absurd hcall (hcalls tx (by simp [heq])).1
  · rintro t tx t' ⟨pre, post, heq, -, -⟩ hcall
    exact absurd hcall (hcalls tx (by simp [heq])).2
  · exact ⟨Sample.approved, _, [], rfl, rfl, by simp⟩

/-- After the declaration the row still has the approval, which the schedule has not. Where a
condition of `credit_status_projected` fails, the row is behind: it shows the approval of a cured
facility, a reserve that was returned, and no dispute where one is open. -/
theorem credit_status_differs :
    CreditLogInitial Sample.protocol ⟨Sample.creditDeployment, []⟩ ∧
    (∃ s v, Steps (CreditLogStep Sample.protocol) ⟨Sample.creditDeployment, []⟩ Sample.declared s ∧
      fold projectCredit CreditView.empty s.log = .ok v ∧
      (v.row 5).defaultApprovedAt.isSome = true ∧
      (s.state.credit.recovery.schedules 5).defaultApproved = false) ∧
    (∃ s v, Steps (CreditLogStep Sample.protocol) ⟨Sample.creditDeployment, []⟩ Sample.cured s ∧
      fold projectCredit CreditView.empty s.log = .ok v ∧
      (v.row 5).defaultApprovedAt.isSome = true ∧
      (s.state.credit.recovery.schedules 5).defaultApproved = false) ∧
    (∃ s v, Steps (CreditLogStep Sample.protocol) ⟨Sample.creditDeployment, []⟩ Sample.returned s ∧
      fold projectCredit CreditView.empty s.log = .ok v ∧ (v.row 5).reservePledged = 50 ∧
      (s.state.credit.recovery.schedules 5).pledgedReserve = 0) ∧
    ∃ s v, Steps (CreditLogStep Sample.protocol) ⟨Sample.creditDeployment, []⟩
        Sample.rescheduled s ∧
      fold projectCredit CreditView.empty s.log = .ok v ∧ (v.row 5).disputed = false ∧
      (s.state.credit.recovery.schedules 5).disputed = true := by
  refine ⟨⟨Sample.creditDeployment_initial, rfl⟩, ?_, ?_, ?_, ?_⟩
  · obtain ⟨s, v, hrun, hv, hview⟩ := Sample.creditRun_status Sample.declared
      (fun p => p.1.defaultApprovedAt.isSome && !p.2.defaultApproved) (by decide +kernel)
    exact ⟨s, v, hrun, hv, by simpa using hview⟩
  · obtain ⟨s, v, hrun, hv, hview⟩ := Sample.creditRun_status Sample.cured
      (fun p => p.1.defaultApprovedAt.isSome && !p.2.defaultApproved) (by decide +kernel)
    exact ⟨s, v, hrun, hv, by simpa using hview⟩
  · obtain ⟨s, v, hrun, hv, hview⟩ := Sample.creditRun_status Sample.returned
      (fun p => decide (p.1.reservePledged = 50 ∧ p.2.pledgedReserve = 0)) (by decide +kernel)
    exact ⟨s, v, hrun, hv, of_decide_eq_true hview⟩
  · obtain ⟨s, v, hrun, hv, hview⟩ := Sample.creditRun_status Sample.rescheduled
      (fun p => !p.1.disputed && p.2.disputed) (by decide +kernel)
    exact ⟨s, v, hrun, hv, by simpa using hview⟩

end Rackline
