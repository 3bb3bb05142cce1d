import Rackline.Proofs.Default
import Rackline.Proofs.Settlement

/-!
# `Rackline.Proofs.Reserves`: pledged reserves are segregated

The recovery manager keeps the reserves of many owners in one balance. `pledgedReserve` says how much
of it belongs to a facility.

`KeepsReserves` is the frame: a call that leaves the pledges alone and takes nothing out of the
recovery manager. Every call of the protocol is one, apart from the three of `ReserveEffect`: funding,
which asks for the same owner again; applying, which repays through the router exactly what it takes
off the pledge; and returning, which pays a facility without debt back to its owner.
-/

set_option autoImplicit false

namespace Rackline

open Evm Transition Finset

namespace Credit

/-- `_schedules[id].pledgedReserve`. -/
def pledgedAt (c : Credit) (id : FacilityId) : Nat := (c.recovery.schedules id).pledgedReserve

/-- `_schedules[id].reserveOwner`. -/
def reserveOwnerAt (c : Credit) (id : FacilityId) : Address := (c.recovery.schedules id).reserveOwner

/-- A call that leaves the pledges alone and takes nothing out of the recovery manager. -/
structure KeepsReserves (d : Deployment) (c c' : Credit) : Prop where
  pledged : ∀ id, c'.pledgedAt id = c.pledgedAt id
  owner : ∀ id, c'.reserveOwnerAt id = c.reserveOwnerAt id
  token : Token.Spares d.recovery c.pool.token c'.pool.token

/-- Funding: the payer, who owned the reserve or is the first, adds to the pledge. -/
structure Funds (d : Deployment) (payer : Address) (id : FacilityId) (amount : Nat)
    (c c' : Credit) : Prop where
  unowned : c.reserveOwnerAt id = 0 ∨ c.reserveOwnerAt id = payer
  pledged : ∀ i, c'.pledgedAt i = c.pledgedAt i + if i = id then amount else 0
  owner : ∀ i, c'.reserveOwnerAt i = if i = id then payer else c.reserveOwnerAt i
  cash : c'.pool.token.balanceOf d.recovery = c.pool.token.balanceOf d.recovery + amount
  approvals : (∀ spender, c.pool.token.allowance d.recovery spender = 0) →
    ∀ spender, c'.pool.token.allowance d.recovery spender = 0

/-- Applying: a repayment of `amount` on the facility, which is in default or recovery. The debt falls
by what is taken off the pledge and out of the balance, and the vault gets it. -/
structure Applies (d : Deployment) (m : Msg) (id : FacilityId) (amount : Nat) (c c' : Credit) :
    Prop where
  state : c.stateAt id = .defaulted ∨ c.stateAt id = .recovery
  pledged : ∀ i, c'.pledgedAt i + (if i = id then amount else 0) = c.pledgedAt i
  owner : ∀ i, c'.reserveOwnerAt i = c.reserveOwnerAt i
  repaid : ∃ (c₁ : Credit) (r : RepayResult) (c₂ : Credit), c₁.pool.ledger = c.pool.ledger ∧
    c₁.repayExact d (m.calledBy d.recovery) id amount = .ok (r, c₂) ∧ r.applied = amount ∧
      r.excess = 0
  debt : (c'.account id).debtAt m.now + amount = (c.account id).debtAt m.now
  cash : c'.pool.token.balanceOf d.recovery + amount = c.pool.token.balanceOf d.recovery
  vault : c'.pool.token.balanceOf d.vault = c.pool.token.balanceOf d.vault + amount
  approvals : (∀ spender, c.pool.token.allowance d.recovery spender = 0) →
    ∀ spender, c'.pool.token.allowance d.recovery spender = 0

/-- Returning: the whole pledge of a facility without debt, to its owner. -/
structure Returns (d : Deployment) (m : Msg) (id : FacilityId) (c c' : Credit) : Prop where
  sender : m.sender = c.reserveOwnerAt id
  repaid : c.pool.ledger.legalDebtAt id m.now = .ok 0
  pledged : ∀ i, c'.pledgedAt i = if i = id then 0 else c.pledgedAt i
  owner : ∀ i, c'.reserveOwnerAt i = c.reserveOwnerAt i
  cash : c'.pool.token.balanceOf d.recovery + c.pledgedAt id = c.pool.token.balanceOf d.recovery
  received : c'.pool.token.balanceOf m.sender = c.pool.token.balanceOf m.sender + c.pledgedAt id
  approvals : (∀ spender, c.pool.token.allowance d.recovery spender = 0) →
    ∀ spender, c'.pool.token.allowance d.recovery spender = 0

variable {d : Deployment} {reg : Registries} {m : Msg} {c c' c'' : Credit} {id : FacilityId}

theorem KeepsReserves.of_eq (hs : c'.recovery.schedules = c.recovery.schedules)
    (ht : Token.Spares d.recovery c.pool.token c'.pool.token) : KeepsReserves d c c' := by
  refine ⟨fun i => ?_, fun i => ?_, ht⟩
  · rw [pledgedAt, hs]
    rfl
  · rw [reserveOwnerAt, hs]
    rfl

theorem KeepsReserves.refl (c : Credit) : KeepsReserves d c c := .of_eq rfl (.refl _ _)

theorem KeepsReserves.trans (h : KeepsReserves d c c') (h' : KeepsReserves d c' c'') :
    KeepsReserves d c c'' :=
  ⟨fun i => (h'.pledged i).trans (h.pledged i), fun i => (h'.owner i).trans (h.owner i),
    h.token.trans h'.token⟩

/-- A write to one schedule that keeps its reserve. -/
theorem setScheduleOf_keepsReserves {s : Schedule} (hpledged : s.pledgedReserve = c.pledgedAt id)
    (howner : s.reserveOwner = c.reserveOwnerAt id) : KeepsReserves d c (c.setScheduleOf id s) := by
  refine ⟨fun i => ?_, fun i => ?_, .refl _ _⟩
  · by_cases hi : i = id
    · subst hi
      simpa [pledgedAt, setScheduleOf] using hpledged
    · simp [pledgedAt, setScheduleOf, Function.update_of_ne hi]
  · by_cases hi : i = id
    · subst hi
      simpa [reserveOwnerAt, setScheduleOf] using howner
    · simp [reserveOwnerAt, setScheduleOf, Function.update_of_ne hi]

theorem recoveryTransition_keepsReserves {target : FacilityState}
    (h : c.recoveryTransition d reg m id target = .ok c') : KeepsReserves d c c' :=
  .of_eq (by rw [recoveryTransition_recovery h]) (recoveryTransition_leaves h).token

theorem syncRepaid_keepsReserves (h : c.syncRepaid d m id = .ok c') : KeepsReserves d c c' :=
  .of_eq (by rw [syncRepaid_recovery h]) (syncRepaid_leaves h).token

/-! ### A repayment out of the reserve -/

/-- `repayExact` of an amount up to the debt: all of it is pulled from the caller and applied. -/
theorem repayExact_pays {amount debt : Nat} {r : RepayResult} (hself : c.pool.vault.self = d.vault)
    (hne : m.sender ≠ d.vault) (hdebt : c.pool.ledger.legalDebtAt id m.now = .ok debt)
    (hle : amount ≤ debt) (h : c.repayExact d m id amount = .ok (r, c')) :
    (r.applied = amount ∧ r.excess = 0) ∧
    (c'.account id).debtAt m.now + amount = (c.account id).debtAt m.now ∧
    c'.pool.token.balanceOf m.sender + amount = c.pool.token.balanceOf m.sender ∧
    c'.pool.token.balanceOf d.vault = c.pool.token.balanceOf d.vault + amount ∧
    ∀ spender, c'.pool.token.allowance m.sender spender ≤ c.pool.token.allowance m.sender spender := by
  unfold repayExact at h
  obtain ⟨_, -, h⟩ := bind_eq_ok.mp h
  obtain ⟨debt', hdebt', h⟩ := bind_eq_ok.mp h
  obtain ⟨debt'', hread, hdebt'⟩ := bind_eq_ok.mp hdebt'
  obtain ⟨_, -, hdebt'⟩ := bind_eq_ok.mp hdebt'
  obtain rfl := pure_eq_ok.mp hdebt'
  cases hread.symm.trans hdebt
  obtain ⟨⟨got, pool⟩, hpull, h⟩ := bind_eq_ok.mp h
  have hamount : (if amount < debt then amount else debt) = amount := by
    split
    · rfl
    · omega
  rw [hamount] at hpull h
  unfold pullToVault at hpull
  split at hpull
  · cases hpull
  rename_i token htoken
  obtain ⟨received, hrec, hpull⟩ := bind_eq_ok.mp hpull
  obtain ⟨_, -, hpull⟩ := bind_eq_ok.mp hpull
  have hres := pure_eq_ok.mp hpull
  simp only [Prod.mk.injEq] at hres
  obtain ⟨rfl, rfl⟩ := hres
  obtain ⟨-, rfl⟩ := subW_eq_ok.mp hrec
  rw [hself] at htoken
  obtain ⟨-, t₁, hbalance, -, hallow, hmove⟩ := Token.transferFrom_move htoken
  obtain ⟨hsent, hgot, -⟩ := Token.move_of_ne hmove hne
  rw [hbalance] at hsent hgot
  -- What the vault got is the whole amount, so that is what the ledger allocates.
  have hwhole : token.balanceOf c.pool.vault.self - c.pool.cashBalance = amount := by
    show token.balanceOf c.pool.vault.self - c.pool.token.balanceOf c.pool.vault.self = amount
    rw [hself, hgot]
    omega
  rw [hwhole] at h
  obtain ⟨-, hmoved, -⟩ := applyReceived_settles h
  have hdone : applyReceived d m id amount amount { c with
      pool := { c.pool with token := token }, router := c.router } = .ok (r, c') := h
  have hnew := (applyReceived_repaid hdone).2
  unfold applyReceived at h
  obtain ⟨⟨r', p₁⟩, hrepay, h⟩ := bind_eq_ok.mp h
  obtain ⟨split, ledger, halloc, rfl, -⟩ := Pool.repay_ok hrepay
  obtain ⟨-, -, -, hparts, happlied, hleft, hfall, -⟩ := Ledger.allocate_ok halloc
  have hr : r.applied = split.applied ∧ r.excess = split.excess ∧ r.newDebt = split.newDebt := by
    dsimp only at h
    split at h
    · obtain ⟨c₁, -, h⟩ := bind_eq_ok.mp h
      split at h
      · obtain ⟨c₂, -, h⟩ := bind_eq_ok.mp h
        have hres := pure_eq_ok.mp h
        simp only [Prod.mk.injEq] at hres
        rw [← hres.1]
        exact ⟨rfl, rfl, rfl⟩
      · have hres := pure_eq_ok.mp h
        simp only [Prod.mk.injEq] at hres
        rw [← hres.1]
        exact ⟨rfl, rfl, rfl⟩
    · have hres := pure_eq_ok.mp h
      simp only [Prod.mk.injEq] at hres
      rw [← hres.1]
      exact ⟨rfl, rfl, rfl⟩
  have hbefore : debt = c.pool.ledger.debtAt id m.now := (Ledger.legalDebtAt_eq_ok hdebt).2
  have happlied : split.applied = min amount (c.pool.ledger.debtAt id m.now) := happlied
  have hfall : ledger.debtAt id m.now + split.applied = c.pool.ledger.debtAt id m.now := hfall
  have hleft : split.newDebt = ledger.debtAt id m.now := hleft
  refine ⟨⟨by omega, by omega⟩, ?_, ?_, ?_, ?_⟩
  · rw [hnew]
    show r.newDebt + amount = c.pool.ledger.debtAt id m.now
    omega
  · rw [hmoved]
    exact hsent
  · rw [hmoved]
    exact hgot
  · intro spender
    rw [hmoved]
    show token.allowance m.sender spender ≤ _
    rw [(Token.move_balance hmove).2.2]
    exact hallow spender

/-- Applying a reserve: nothing at all, or a repayment of what is taken off the pledge. -/
theorem applyReserveInternal_applies (hself : c.pool.vault.self = d.vault)
    (h : c.applyReserveInternal d m id = .ok c') :
    c' = c ∨ ∃ amount, 0 < amount ∧ Applies d m id amount c c' := by
  unfold applyReserveInternal at h
  obtain ⟨state, hstate, h⟩ := bind_eq_ok.mp h
  obtain ⟨_, hdue, h⟩ := bind_eq_ok.mp h
  obtain ⟨debt, hdebt, h⟩ := bind_eq_ok.mp h
  have hin : c.stateAt id = .defaulted ∨ c.stateAt id = .recovery := by
    have hread : state = c.stateAt id := by
      unfold stateOf at hstate
      obtain ⟨_, -, hstate⟩ := bind_eq_ok.mp hstate
      exact (pure_eq_ok.mp hstate).symm
    have hnot := revertIf_eq_ok.mp hdue
    rw [hread] at hnot
    tauto
  dsimp only at h
  generalize hamount : (if (c.recovery.schedules id).pledgedReserve < debt then
    (c.recovery.schedules id).pledgedReserve else debt) = amount at h
  have hpledge : amount ≤ c.pledgedAt id := by
    unfold pledgedAt
    split at hamount <;> omega
  have hle : amount ≤ debt := by split at hamount <;> omega
  split at h
  · exact .inl (pure_eq_ok.mp h).symm
  rename_i hpositive
  obtain ⟨⟨r, c₁⟩, hrepay, h⟩ := bind_eq_ok.mp h
  obtain rfl := pure_eq_ok.mp h
  obtain ⟨hparts, hfall, hcash, hvault, hallow⟩ := repayExact_pays (m := m.calledBy d.recovery)
    (c := approveRouter d amount (setScheduleOf id { c.recovery.schedules id with
      pledgedReserve := (c.recovery.schedules id).pledgedReserve - amount } c))
    hself d.recovery_ne hdebt hle hrepay
  have hschedules := repayExact_schedules hrepay
  refine .inr ⟨amount, Nat.pos_of_ne_zero hpositive, hin, ?_, ?_, ⟨_, r, c₁, by rfl, hrepay, hparts⟩,
    hfall, hcash, hvault, ?_⟩
  · intro i
    show (c₁.recovery.schedules i).pledgedReserve + _ = _
    rw [hschedules]
    by_cases hi : i = id
    · subst hi
      simpa [pledgedAt, approveRouter, setScheduleOf] using Nat.sub_add_cancel hpledge
    · simp [pledgedAt, approveRouter, setScheduleOf, hi]
  · intro i
    show (c₁.recovery.schedules i).reserveOwner = _
    rw [hschedules]
    by_cases hi : i = id
    · subst hi
      simp [reserveOwnerAt, approveRouter, setScheduleOf]
    · simp [reserveOwnerAt, approveRouter, setScheduleOf, hi]
  · intro hzero spender
    -- The last approval clears the router's allowance, and nobody else has one.
    by_cases hsp : spender = d.router
    · subst hsp
      simp [approveRouter, Token.approve]
    · have hold : c₁.pool.token.allowance d.recovery spender ≤ 0 := by
        have hstart := hallow spender
        simpa [approveRouter, Token.approve, Function.update_of_ne hsp, Msg.calledBy, setScheduleOf,
          hzero spender] using hstart
      have hnone : c₁.pool.token.allowance d.recovery spender = 0 := Nat.le_zero.mp hold
      simpa [approveRouter, Token.approve, Function.update_of_ne hsp] using hnone

/-- What comes after applying a reserve leaves the pledges, the cash and the debt alone. -/
theorem Applies.before {amount : Nat} (h : Applies d m id amount c c')
    (hs : c''.recovery.schedules = c'.recovery.schedules ∨
      ∃ s : Schedule, s.pledgedReserve = c'.pledgedAt id ∧ s.reserveOwner = c'.reserveOwnerAt id ∧
        c''.recovery.schedules = Function.update c'.recovery.schedules id s)
    (ht : c''.pool.token = c'.pool.token)
    (hd : (c''.account id).debtAt m.now = (c'.account id).debtAt m.now) :
    Applies d m id amount c c'' := by
  have hkept : ∀ i, c''.pledgedAt i = c'.pledgedAt i ∧ c''.reserveOwnerAt i = c'.reserveOwnerAt i := by
    intro i
    rcases hs with hs | ⟨s, hpledged, howner, hs⟩
    · rw [pledgedAt, reserveOwnerAt, hs]
      exact ⟨rfl, rfl⟩
    · rw [pledgedAt, reserveOwnerAt, hs]
      by_cases hi : i = id
      · subst hi
        simpa using ⟨hpledged, howner⟩
      · rw [Function.update_of_ne hi]
        exact ⟨rfl, rfl⟩
  refine ⟨h.state, fun i => ?_, fun i => ?_, h.repaid, ?_, ?_, ?_, ?_⟩
  · rw [(hkept i).1]
    exact h.pledged i
  · rw [(hkept i).2]
    exact h.owner i
  · rw [hd]
    exact h.debt
  · rw [ht]
    exact h.cash
  · rw [ht]
    exact h.vault
  · rw [ht]
    exact h.approvals

theorem setFacilityState_debt {target : FacilityState} {i : FacilityId} {t : Nat}
    (h : c.setFacilityState d m id target = .ok c') :
    (c'.account i).debtAt t = (c.account i).debtAt t ∧ c'.pool.token = c.pool.token := by
  obtain ⟨l, hl, rfl⟩ := setFacilityState_ok h
  obtain rfl := Ledger.setState_ok hl
  refine ⟨?_, rfl⟩
  by_cases hi : i = id
  · subst hi
    simp only [account, Function.update_self]
    rfl
  · simp [account, Function.update_of_ne hi]

/-! ### The calls of the recovery manager -/

theorem fundReserve_funds {amount : Nat}
    (h : c.fundReserve d m id amount = .ok c') : Funds d m.sender id amount c c' := by
  unfold fundReserve at h
  obtain ⟨_, -, h⟩ := bind_eq_ok.mp h
  obtain ⟨_, howner, h⟩ := bind_eq_ok.mp h
  split at h
  · cases h
  rename_i token htoken
  obtain ⟨got, hgot, h⟩ := bind_eq_ok.mp h
  obtain ⟨_, hwhole, h⟩ := bind_eq_ok.mp h
  obtain ⟨pledged, hpledged, h⟩ := bind_eq_ok.mp h
  obtain rfl := pure_eq_ok.mp h
  obtain ⟨hle, rfl⟩ := subW_eq_ok.mp hgot
  obtain ⟨-, rfl⟩ := addW_eq_ok.mp hpledged
  have hwhole := Classical.not_not.mp (revertIf_eq_ok.mp hwhole)
  have howner := revertIf_eq_ok.mp howner
  refine ⟨?_, fun i => ?_, fun i => ?_, ?_, fun hallow => ?_⟩
  · show (c.recovery.schedules id).reserveOwner = 0 ∨ (c.recovery.schedules id).reserveOwner = m.sender
    tauto
  · by_cases hi : i = id
    · subst hi
      simp [pledgedAt, setScheduleOf]
    · simp [pledgedAt, setScheduleOf, hi]
  · by_cases hi : i = id
    · subst hi
      simp [reserveOwnerAt, setScheduleOf]
    · simp [reserveOwnerAt, setScheduleOf, hi]
  · show token.balanceOf d.recovery = _
    omega
  · exact (Token.transferFrom_spares htoken hallow).1

theorem returnReserve_returns (hs : m.sender ∉ d.contracts) (h : c.returnReserve d m id = .ok c') :
    Returns d m id c c' := by
  unfold returnReserve at h
  obtain ⟨_, howner, h⟩ := bind_eq_ok.mp h
  obtain ⟨debt, hdebt, h⟩ := bind_eq_ok.mp h
  obtain ⟨_, hzero, h⟩ := bind_eq_ok.mp h
  split at h
  · cases h
  rename_i token htoken
  obtain rfl := pure_eq_ok.mp h
  obtain rfl : debt = 0 := Classical.not_not.mp (revertIf_eq_ok.mp hzero)
  have hne : d.recovery ≠ m.sender := by
    rintro heq
    exact hs (by simp [Deployment.contracts, ← heq])
  obtain ⟨hsent, hgot, -⟩ := Token.move_of_ne htoken hne
  refine ⟨Classical.not_not.mp (revertIf_eq_ok.mp howner), hdebt, fun i => ?_, fun i => ?_, hsent, hgot,
    fun hallow spender => ?_⟩
  · by_cases hi : i = id
    · subst hi
      simp [pledgedAt, setScheduleOf]
    · simp [pledgedAt, setScheduleOf, hi]
  · by_cases hi : i = id
    · subst hi
      simp [reserveOwnerAt, setScheduleOf]
    · simp [reserveOwnerAt, setScheduleOf, hi]
  · show token.allowance d.recovery spender = 0
    rw [(Token.move_balance htoken).2.2]
    exact hallow spender

theorem cure_keepsReserves (h : c.cure d reg m id = .ok c') : KeepsReserves d c c' := by
  unfold cure at h
  obtain ⟨_, -, h⟩ := bind_eq_ok.mp h
  obtain ⟨_, -, h⟩ := bind_eq_ok.mp h
  obtain ⟨debt, -, h⟩ := bind_eq_ok.mp h
  obtain ⟨cured, hcured, h⟩ := bind_eq_ok.mp h
  obtain rfl := pure_eq_ok.mp h
  have hstate : KeepsReserves d c cured := by
    unfold cureState at hcured
    split at hcured
    · exact syncRepaid_keepsReserves hcured
    · exact recoveryTransition_keepsReserves hcured
  exact hstate.trans (setScheduleOf_keepsReserves rfl rfl)

theorem declareDefault_keepsReserves (h : c.declareDefault d reg m id = .ok c') :
    KeepsReserves d c c' := by
  unfold declareDefault at h
  obtain ⟨_, -, h⟩ := bind_eq_ok.mp h
  obtain ⟨_, -, h⟩ := bind_eq_ok.mp h
  obtain ⟨_, -, h⟩ := bind_eq_ok.mp h
  obtain ⟨c₁, hmove, h⟩ := bind_eq_ok.mp h
  obtain ⟨l, -, h⟩ := bind_eq_ok.mp h
  obtain rfl := pure_eq_ok.mp h
  have hmark : KeepsReserves d c
      (c.setScheduleOf id { c.recovery.schedules id with defaultApproved := false }) :=
    setScheduleOf_keepsReserves rfl rfl
  have hmoved := recoveryTransition_keepsReserves hmove
  have hfrozen : KeepsReserves d c₁ { c₁ with pool := { c₁.pool with ledger := l } } :=
    .of_eq rfl (.refl _ _)
  exact (hmark.trans hmoved).trans hfrozen

end Credit

open Credit

/-- What a transaction does to the pledges and to the cash behind them. -/
inductive ReserveEffect (d : Deployment) (m : Msg) (c c' : Credit) : CreditCall → Prop
  | kept {call : CreditCall} : KeepsReserves d c c' → ReserveEffect d m c c' call
  | funded {id : FacilityId} {amount : Nat} : Funds d m.sender id amount c c' →
      ReserveEffect d m c c' (.recovery (.fundReserve id amount))
  | applied {id : FacilityId} {amount : Nat} : 0 < amount → Applies d m id amount c c' →
      ReserveEffect d m c c' (.recovery (.applyReserve id))
  | writtenOff {id : FacilityId} {lossId : Bytes32} {amount : Nat} : 0 < amount →
      Applies d m id amount c c' → ReserveEffect d m c c' (.recovery (.writeOff id lossId))
  | returned {id : FacilityId} : Returns d m id c c' →
      ReserveEffect d m c c' (.recovery (.returnReserve id))

section
variable {d : Deployment} {reg : Registries} {m : Msg} {c c' : Credit} {id : FacilityId}

/-- A write-off applies the reserve first. What follows leaves pledges, cash and debt alone. -/
theorem Credit.recoveryWriteOff_reserve {lossId : Bytes32} (hself : c.pool.vault.self = d.vault)
    (h : c.recoveryWriteOff d reg m id lossId = .ok c') :
    ReserveEffect d m c c' (.recovery (.writeOff id lossId)) := by
  unfold recoveryWriteOff at h
  obtain ⟨_, -, h⟩ := bind_eq_ok.mp h
  obtain ⟨_, -, h⟩ := bind_eq_ok.mp h
  obtain ⟨_, -, h⟩ := bind_eq_ok.mp h
  obtain ⟨c₁, hreserve, h⟩ := bind_eq_ok.mp h
  obtain ⟨debt, -, h⟩ := bind_eq_ok.mp h
  have hrest : (c'.recovery.schedules = c₁.recovery.schedules ∨
      ∃ s : Schedule, s.pledgedReserve = c₁.pledgedAt id ∧ s.reserveOwner = c₁.reserveOwnerAt id ∧
        c'.recovery.schedules = Function.update c₁.recovery.schedules id s) ∧
      c'.pool.token = c₁.pool.token ∧ (c'.account id).debtAt m.now = (c₁.account id).debtAt m.now := by
    split at h
    · rw [syncRepaid_recovery h]
      obtain ⟨-, rfl | hset⟩ := syncRepaid_ok h
      · exact ⟨.inl rfl, rfl, rfl⟩
      · exact ⟨.inl rfl, (setFacilityState_debt (i := id) (t := 0) hset).2, (setFacilityState_debt hset).1⟩
    · obtain ⟨pool, hpool, h⟩ := bind_eq_ok.mp h
      have hset := (recoveryTransition_ok h).2.2
      rw [recoveryTransition_recovery h]
      obtain ⟨-, -, -, lost, -, rfl⟩ := Pool.writeOff_ok hpool
      exact ⟨.inr ⟨{ c₁.recovery.schedules id with writtenOff := true }, rfl, rfl, rfl⟩,
        (setFacilityState_debt (i := id) (t := 0) hset).2, (setFacilityState_debt hset).1⟩
  obtain ⟨hschedules, htoken, hdebt⟩ := hrest
  obtain rfl | ⟨amount, hpositive, happlies⟩ := applyReserveInternal_applies hself hreserve
  · refine .kept ⟨fun i => ?_, fun i => ?_, ?_⟩
    · rcases hschedules with hs | ⟨s, hpledged, -, hs⟩
      · rw [pledgedAt, hs]
        rfl
      · rw [pledgedAt, hs]
        by_cases hi : i = id
        · subst hi
          simpa using hpledged
        · rw [Function.update_of_ne hi]
          rfl
    · rcases hschedules with hs | ⟨s, -, howner, hs⟩
      · rw [reserveOwnerAt, hs]
        rfl
      · rw [reserveOwnerAt, hs]
        by_cases hi : i = id
        · subst hi
          simpa using howner
        · rw [Function.update_of_ne hi]
          rfl
    · rw [htoken]
      exact .refl _ _
  · exact .writtenOff hpositive (happlies.before hschedules htoken hdebt)

theorem RecoveryCall.exec_reserve (hself : c.pool.vault.self = d.vault) (hs : m.sender ∉ d.contracts)
    {call : RecoveryCall} (h : call.exec d reg m c = .ok c') :
    ReserveEffect d m c c' (.recovery call) := by
  cases call with
  | setSchedule id dueAt grace disputeWindow dueAmount =>
    simp only [RecoveryCall.exec, Credit.setSchedule] at h
    obtain ⟨_, -, h⟩ := bind_eq_ok.mp h
    obtain ⟨state, -, h⟩ := bind_eq_ok.mp h
    obtain ⟨_, -, h⟩ := bind_eq_ok.mp h
    obtain ⟨_, -, h⟩ := bind_eq_ok.mp h
    obtain ⟨_, -, h⟩ := bind_eq_ok.mp h
    obtain ⟨disputeUntil, -, h⟩ := bind_eq_ok.mp h
    obtain rfl := pure_eq_ok.mp h
    exact .kept (setScheduleOf_keepsReserves rfl rfl)
  | observeAllocation id amount =>
    simp only [RecoveryCall.exec, Credit.observeAllocation] at h
    obtain ⟨_, -, h⟩ := bind_eq_ok.mp h
    obtain ⟨total, -, h⟩ := bind_eq_ok.mp h
    obtain rfl := pure_eq_ok.mp h
    exact .kept (.of_eq rfl (.refl _ _))
  | markDelinquent id =>
    simp only [RecoveryCall.exec, Credit.markDelinquent] at h
    obtain ⟨_, -, h⟩ := bind_eq_ok.mp h
    obtain ⟨paid, -, h⟩ := bind_eq_ok.mp h
    obtain ⟨_, -, h⟩ := bind_eq_ok.mp h
    exact .kept (recoveryTransition_keepsReserves h)
  | cure id => exact .kept (cure_keepsReserves h)
  | setDispute id disputed =>
    simp only [RecoveryCall.exec, Credit.setDispute] at h
    obtain ⟨_, -, h⟩ := bind_eq_ok.mp h
    obtain ⟨_, -, h⟩ := bind_eq_ok.mp h
    obtain rfl := pure_eq_ok.mp h
    exact .kept (setScheduleOf_keepsReserves rfl rfl)
  | approveDefault id reason =>
    simp only [RecoveryCall.exec, Credit.approveDefault] at h
    obtain ⟨_, -, h⟩ := bind_eq_ok.mp h
    obtain ⟨_, -, h⟩ := bind_eq_ok.mp h
    obtain ⟨_, -, h⟩ := bind_eq_ok.mp h
    obtain rfl := pure_eq_ok.mp h
    exact .kept (setScheduleOf_keepsReserves rfl rfl)
  | declareDefault id => exact .kept (declareDefault_keepsReserves h)
  | beginRecovery id =>
    simp only [RecoveryCall.exec, Credit.beginRecovery] at h
    obtain ⟨_, -, h⟩ := bind_eq_ok.mp h
    exact .kept (recoveryTransition_keepsReserves h)
  | fundReserve id amount => exact .funded (fundReserve_funds h)
  | applyReserve id =>
    simp only [RecoveryCall.exec, Credit.applyReserve] at h
    obtain ⟨_, -, h⟩ := bind_eq_ok.mp h
    obtain rfl | ⟨amount, hpositive, happlies⟩ := applyReserveInternal_applies hself h
    · exact .kept (.refl _)
    · exact .applied hpositive happlies
  | returnReserve id => exact .returned (returnReserve_returns hs h)
  | impair id lossId amount =>
    simp only [RecoveryCall.exec, Credit.impair] at h
    obtain ⟨_, -, h⟩ := bind_eq_ok.mp h
    obtain ⟨_, -, h⟩ := bind_eq_ok.mp h
    obtain ⟨pool, hpool, h⟩ := bind_eq_ok.mp h
    obtain rfl := pure_eq_ok.mp h
    obtain ⟨-, -, rfl⟩ := Pool.recognizeImpairment_ok hpool
    exact .kept (.of_eq rfl (.refl _ _))
  | reverseImpairment id amount =>
    simp only [RecoveryCall.exec, Credit.recoveryReverseImpairment] at h
    obtain ⟨_, -, h⟩ := bind_eq_ok.mp h
    obtain ⟨pool, hpool, h⟩ := bind_eq_ok.mp h
    obtain rfl := pure_eq_ok.mp h
    obtain ⟨-, -, rfl⟩ := Pool.reverseImpairment_ok hpool
    exact .kept (.of_eq rfl (.refl _ _))
  | approveWriteOff id lossId =>
    simp only [RecoveryCall.exec, Credit.approveWriteOff] at h
    obtain ⟨_, -, h⟩ := bind_eq_ok.mp h
    obtain ⟨_, -, h⟩ := bind_eq_ok.mp h
    obtain ⟨state, -, h⟩ := bind_eq_ok.mp h
    obtain ⟨_, -, h⟩ := bind_eq_ok.mp h
    obtain rfl := pure_eq_ok.mp h
    exact .kept (setScheduleOf_keepsReserves rfl rfl)
  | writeOff id lossId => exact recoveryWriteOff_reserve hself h

/-- The router takes cash out of the payer's account, which has to approve it, and out of its own. -/
theorem RouterCall.exec_token {a : Address} (hself : c.pool.vault.self = d.vault)
    (hrouter : a ≠ d.router) (hvault : a ≠ d.vault) {call : RouterCall}
    (h : call.exec d m c = .ok c') : Token.Spares a c.pool.token c'.pool.token := by
  have hrecord : ∀ {sid : Bytes32} {amount got : Nat} {c₁ c₂ : Credit},
      c₁.recordReceipt d m sid amount = .ok (got, c₂) →
        Token.Spares a c₁.pool.token c₂.pool.token := by
    intro sid amount got c₁ c₂ hrec
    obtain ⟨token, router, htoken, rfl⟩ := recordReceipt_ok hrec
    exact Token.transferFrom_spares htoken
  have hallocate : ∀ {sid : Bytes32} {id : FacilityId} {amount : Nat} {r : RepayResult}
      {c₁ c₂ : Credit}, c₁.allocateFromReceipt d m sid id amount = .ok (r, c₂) →
        Token.Spares a c₁.pool.token c₂.pool.token := by
    intro sid id amount r c₁ c₂ halloc
    unfold allocateFromReceipt at halloc
    obtain ⟨_, -, halloc⟩ := bind_eq_ok.mp halloc
    obtain ⟨_, -, halloc⟩ := bind_eq_ok.mp halloc
    obtain ⟨_, -, halloc⟩ := bind_eq_ok.mp halloc
    obtain ⟨_, -, halloc⟩ := bind_eq_ok.mp halloc
    obtain ⟨_, -, halloc⟩ := bind_eq_ok.mp halloc
    obtain ⟨⟨got, q⟩, hpush, halloc⟩ := bind_eq_ok.mp halloc
    unfold pushToVault at hpush
    split at hpush
    · cases hpush
    rename_i token htoken
    obtain ⟨received, -, hpush⟩ := bind_eq_ok.mp hpush
    obtain ⟨_, -, hpush⟩ := bind_eq_ok.mp hpush
    have hres := pure_eq_ok.mp hpush
    simp only [Prod.mk.injEq] at hres
    obtain ⟨-, rfl⟩ := hres
    rw [(applyReceived_settles halloc).2.1]
    exact Token.move_spares htoken hrouter
  cases call with
  | repayFor id amount =>
    obtain ⟨⟨r, q⟩, hc, rfl⟩ := map_eq_ok.mp h
    exact (routerRepayFor_leaves hc).token
  | repayExact id maxAmount =>
    obtain ⟨⟨r, q⟩, hc, rfl⟩ := map_eq_ok.mp h
    exact (repayExact_leaves hc).token
  | recordDestinationReceipt sid amount =>
    simp only [RouterCall.exec, Credit.recordDestinationReceipt] at h
    obtain ⟨_, -, h⟩ := bind_eq_ok.mp h
    obtain ⟨⟨got, q⟩, hc, h⟩ := bind_eq_ok.mp h
    obtain rfl := pure_eq_ok.mp h
    exact hrecord hc
  | allocate sid id amount =>
    obtain ⟨⟨r, q⟩, hc, rfl⟩ := map_eq_ok.mp h
    unfold Credit.allocateSettlement at hc
    obtain ⟨_, -, hc⟩ := bind_eq_ok.mp hc
    exact hallocate hc
  | receiveSettlement id sid amount =>
    obtain ⟨⟨r, q⟩, hc, rfl⟩ := map_eq_ok.mp h
    unfold Credit.receiveSettlement at hc
    obtain ⟨_, -, hc⟩ := bind_eq_ok.mp hc
    obtain ⟨⟨got, c₁⟩, hrec, hc⟩ := bind_eq_ok.mp hc
    exact (hrecord hrec).trans (hallocate hc)
  | refundExcess id dst =>
    simp only [RouterCall.exec, Credit.routerRefundExcess] at h
    obtain ⟨_, -, h⟩ := bind_eq_ok.mp h
    obtain ⟨_, -, h⟩ := bind_eq_ok.mp h
    obtain ⟨_, -, h⟩ := bind_eq_ok.mp h
    obtain ⟨_, -, h⟩ := bind_eq_ok.mp h
    obtain ⟨pool, hpool, h⟩ := bind_eq_ok.mp h
    obtain rfl := pure_eq_ok.mp h
    exact (refundExcess_leaves hvault hself hpool).token

/-- Every transaction by an outsider, as the pledges see it. -/
theorem CreditCall.exec_reserve (hw : c.Wired d) (hs : m.sender ∉ d.contracts) {call : CreditCall}
    (h : call.exec d reg m c = .ok c') : ReserveEffect d m c c' call := by
  have hself := hw.pool.self
  cases call with
  | vault call =>
    obtain ⟨p, hp, rfl⟩ := map_eq_ok.mp h
    have hne : d.recovery ≠ c.pool.vault.self := by
      rw [hself]
      exact d.recovery_ne
    exact .kept (.of_eq rfl (VaultCall.exec_spares hne hp))
  | ledger call =>
    obtain ⟨l, -, rfl⟩ := map_eq_ok.mp h
    exact .kept (.of_eq rfl (.refl _ _))
  | token call =>
    obtain ⟨t, ht, rfl⟩ := map_eq_ok.mp h
    have hne : d.recovery ≠ m.sender := by
      rintro heq
      exact hs (by simp [Deployment.contracts, ← heq])
    exact .kept (.of_eq rfl (TokenCall.exec_spares hne ht))
  | exposure call =>
    have hrecovery := (ExposureCall.exec_frame h).1
    exact .kept (.of_eq (by rw [hrecovery]) (ExposureCall.exec_leaves h).token)
  | manager call =>
    exact .kept (.of_eq (ManagerCall.exec_schedules h) (ManagerCall.exec_leaves hw d.recovery_ne h).token)
  | router call =>
    exact .kept (.of_eq (RouterCall.exec_schedules h)
      (RouterCall.exec_token hself d.router_ne_recovery.symm d.recovery_ne h))
  | recovery call => exact RecoveryCall.exec_reserve hself hs h

end

/-! ### The invariant of the pledges -/

namespace Credit

/-- Nobody may spend the cash of the recovery manager, and it covers all pledges together. -/
structure Segregated (d : Deployment) (c : Credit) : Prop where
  unapproved : ∀ spender, c.pool.token.allowance d.recovery spender = 0
  covered : ∑ id, c.pledgedAt id ≤ c.pool.token.balanceOf d.recovery

variable {d : Deployment} {m : Msg} {c c' : Credit} {call : CreditCall}

/-- A call that changes one pledge changes the total by as much. -/
theorem sum_pledged {id : FacilityId} (h : ∀ i, i ≠ id → c'.pledgedAt i = c.pledgedAt i) :
    ∑ i, c'.pledgedAt i + c.pledgedAt id = ∑ i, c.pledgedAt i + c'.pledgedAt id :=
  Total.sum_univ_add_eq id h

theorem Segregated.effect (hc : c.Segregated d) (h : ReserveEffect d m c c' call) :
    c'.Segregated d := by
  have happlies : ∀ {id : FacilityId} {amount : Nat}, Applies d m id amount c c' →
      c'.Segregated d := by
    intro id amount happ
    refine ⟨happ.approvals hc.unapproved, ?_⟩
    have hothers : ∀ i, i ≠ id → c'.pledgedAt i = c.pledgedAt i := by
      intro i hi
      have hi' := happ.pledged i
      rw [if_neg hi] at hi'
      omega
    have hsum := sum_pledged hothers
    have hself := happ.pledged id
    rw [if_pos rfl] at hself
    have hcov := hc.covered
    have hcash := happ.cash
    omega
  cases h with
  | kept hkept =>
    obtain ⟨hallow, hle⟩ := hkept.token hc.unapproved
    refine ⟨hallow, ?_⟩
    calc ∑ id, c'.pledgedAt id = ∑ id, c.pledgedAt id := Finset.sum_congr rfl fun i _ => hkept.pledged i
      _ ≤ c.pool.token.balanceOf d.recovery := hc.covered
      _ ≤ c'.pool.token.balanceOf d.recovery := hle
  | @funded id amount hfunds =>
    refine ⟨hfunds.approvals hc.unapproved, ?_⟩
    have hothers : ∀ i, i ≠ id → c'.pledgedAt i = c.pledgedAt i := by
      intro i hi
      rw [hfunds.pledged i, if_neg hi]
      rfl
    have hsum := sum_pledged hothers
    have hself := hfunds.pledged id
    rw [if_pos rfl] at hself
    have hcov := hc.covered
    have hcash := hfunds.cash
    omega
  | applied _ happ => exact happlies happ
  | writtenOff _ happ => exact happlies happ
  | @returned id hreturns =>
    refine ⟨hreturns.approvals hc.unapproved, ?_⟩
    have hothers : ∀ i, i ≠ id → c'.pledgedAt i = c.pledgedAt i := by
      intro i hi
      rw [hreturns.pledged i, if_neg hi]
    have hsum := sum_pledged hothers
    have hself := hreturns.pledged id
    rw [if_pos rfl] at hself
    have hcov := hc.covered
    have hcash := hreturns.cash
    omega

end Credit

/-- A pledge falls by a repayment on its facility or by its return. -/
theorem ReserveEffect.falls {d : Deployment} {m : Msg} {c c' : Credit} {call : CreditCall}
    {id : FacilityId} (h : ReserveEffect d m c c' call) (hfall : c'.pledgedAt id < c.pledgedAt id) :
    (∃ amount, c.pledgedAt id = c'.pledgedAt id + amount ∧ Applies d m id amount c c') ∨
      call = .recovery (.returnReserve id) ∧ Returns d m id c c' := by
  have happlies : ∀ {i : FacilityId} {amount : Nat}, Applies d m i amount c c' →
      ∃ amount, c.pledgedAt id = c'.pledgedAt id + amount ∧ Applies d m id amount c c' := by
    intro i amount happ
    have hid := happ.pledged id
    by_cases hi : id = i
    · rw [if_pos hi] at hid
      rw [← hi] at happ
      exact ⟨amount, hid.symm, happ⟩
    · rw [if_neg hi] at hid
      omega
  cases h with
  | kept hkept =>
    have hsame := hkept.pledged id
    omega
  | funded hfunds =>
    have hid := hfunds.pledged id
    omega
  | applied _ happ => exact .inl (happlies happ)
  | writtenOff _ happ => exact .inl (happlies happ)
  | @returned i hreturns =>
    by_cases hi : id = i
    · subst hi
      exact .inr ⟨rfl, hreturns⟩
    · have hid := hreturns.pledged id
      rw [if_neg hi] at hid
      omega

/-- A reserve keeps its owner. -/
theorem ReserveEffect.owner {d : Deployment} {m : Msg} {c c' : Credit} {call : CreditCall}
    (h : ReserveEffect d m c c' call) (id : FacilityId) (howned : c.reserveOwnerAt id ≠ 0) :
    c'.reserveOwnerAt id = c.reserveOwnerAt id := by
  cases h with
  | kept hkept => exact hkept.owner id
  | @funded i amount hfunds =>
    rw [hfunds.owner id]
    split
    · rename_i hi
      subst hi
      rcases hfunds.unowned with hzero | hpayer
      · exact absurd hzero howned
      · exact hpayer.symm
    · rfl
  | applied _ happ => exact happ.owner id
  | writtenOff _ happ => exact happ.owner id
  | returned hreturns => exact hreturns.owner id

section
variable {d : Deployment} {s₀ s s' : CreditState} {tx : Tx} {txs : List Tx}

/-- The invariant of the runs: that of the protocol, and segregated pledges. -/
structure CreditState.Pledged (d : Deployment) (s : CreditState) : Prop where
  inv : s.Inv d
  segregated : s.credit.Segregated d

theorem CreditStep.reserve (hi : s.Pledged d) (h : CreditStep d s tx s') :
    ReserveEffect d tx.msg s.credit s'.credit tx.call ∧ s'.Pledged d := by
  have heffect := CreditCall.exec_reserve hi.inv.wired h.2.1 h.2.2.1
  exact ⟨heffect, h.inv hi.inv, hi.segregated.effect heffect⟩

theorem CreditState.Initial.pledged (h : s.Initial d)
    (hrecovery : ∀ spender, s.credit.pool.token.allowance d.recovery spender = 0) : s.Pledged d := by
  refine ⟨h.inv, ?_⟩
  obtain ⟨token, -, hs⟩ := h
  rw [hs] at hrecovery ⊢
  refine ⟨hrecovery, ?_⟩
  show ∑ _ : Bytes32, 0 ≤ _
  rw [sum_const_zero]
  exact Nat.zero_le _

/-- Pledged reserves are segregated in every run of the protocol, whoever calls and whatever is
transferred in. The recovery manager holds all pledges together. A pledge falls only by a repayment of
as much on the same facility, which is in default or recovery, or by its return to its owner while the
facility owes nothing. And the owner of a reserve stays the owner in every continuation of the run. -/
theorem reserves_segregated (h₀ : s₀.Initial d)
    (hrecovery : ∀ spender, s₀.credit.pool.token.allowance d.recovery spender = 0)
    (hrun : Steps (CreditStep d) s₀ txs s) :
    ∑ id, s.credit.pledgedAt id ≤ s.credit.pool.token.balanceOf d.recovery ∧
    (∀ tx s', CreditStep d s tx s' → ∀ id, s'.credit.pledgedAt id < s.credit.pledgedAt id →
      (∃ amount, s.credit.pledgedAt id = s'.credit.pledgedAt id + amount ∧
        Applies d tx.msg id amount s.credit s'.credit) ∨
      tx.call = .recovery (.returnReserve id) ∧ Returns d tx.msg id s.credit s'.credit) ∧
    ∀ more s', Steps (CreditStep d) s more s' → ∀ id, s.credit.reserveOwnerAt id ≠ 0 →
      s'.credit.reserveOwnerAt id = s.credit.reserveOwnerAt id := by
  have hkept : ∀ s tx s', s.Pledged d → CreditStep d s tx s' → s'.Pledged d :=
    fun _ _ _ hi hstep => (hstep.reserve hi).2
  have hi : s.Pledged d := Steps.invariant hkept hrun (h₀.pledged hrecovery)
  refine ⟨hi.segregated.covered, fun tx s' hstep id hfall => ?_, fun more s' hmore id howned => ?_⟩
  · exact (hstep.reserve hi).1.falls hfall
  · -- Along the run the reserve has an owner, and each step keeps it.
    have hstays : s'.Pledged d ∧ s'.credit.reserveOwnerAt id = s.credit.reserveOwnerAt id := by
      refine Steps.invariant (P := fun t => t.Pledged d ∧
        t.credit.reserveOwnerAt id = s.credit.reserveOwnerAt id) ?_ hmore ⟨hi, rfl⟩
      rintro t tx u ⟨ht, howner⟩ hstep
      obtain ⟨heffect, hu⟩ := hstep.reserve ht
      refine ⟨hu, ?_⟩
      rw [← howner]
      exact heffect.owner id (by rwa [howner])
    exact hstays.2

end

namespace Sample

/-- Facility 5 misses an installment and is in default. Account 8 pledges 300 for it and 50 for
facility 5 again, account 9 sends 20 to the recovery manager. -/
def pledgeTxs : List Tx :=
  activeFacility 1000 600 ++
    [tx 7 10 (.recovery (.setSchedule 5 20 5 0 100)), tx 9 21 (.recovery (.markDelinquent 5)),
      tx 7 26 (.recovery (.approveDefault 5 1)), tx 7 26 (.recovery (.declareDefault 5)),
      tx 8 26 (.recovery (.fundReserve 5 300)), tx 8 26 (.recovery (.fundReserve 5 50)),
      tx 9 26 (.token (.transfer 6 20))]

end Sample

/-- The servicer applies the whole pledge of 350 to the debt. -/
theorem reserves_segregated_sample : ∃ s s', CreditReachable Sample.protocol s ∧
    CreditStep Sample.protocol s (Sample.tx 7 27 (.recovery (.applyReserve 5))) s' ∧
    s.credit.pledgedAt 5 = 350 ∧ s'.credit.pledgedAt 5 = 0 ∧
    Applies Sample.protocol (Sample.tx 7 27 (.recovery (.applyReserve 5))).msg 5 350 s.credit
      s'.credit := by
  obtain ⟨s, hrun, hpledged⟩ := CreditState.run_view Sample.protocol Sample.creditDeployment
    Sample.pledgeTxs (fun s => s.credit.pledgedAt 5) (v := 350) (by decide +kernel)
  obtain ⟨s', hrun', hpledged'⟩ := CreditState.run_view Sample.protocol Sample.creditDeployment
    (Sample.pledgeTxs ++ [Sample.tx 7 27 (.recovery (.applyReserve 5))])
    (fun s => s.credit.pledgedAt 5) (v := 0) (by decide +kernel)
  have hsteps := CreditState.run_steps hrun
  obtain ⟨_, _, -, -, hstep⟩ := CreditState.run_last hrun hrun'
  have hrecovery : ∀ spender,
      Sample.creditDeployment.credit.pool.token.allowance Sample.protocol.recovery spender = 0 := by
    intro spender
    have hself : ¬((6 : Address) = 7 ∨ (6 : Address) = 8 ∨ (6 : Address) = 9) := by decide
    show Sample.fundedToken.allowance 6 spender = 0
    simp only [Sample.fundedToken, hself, false_and, if_false]
  obtain ⟨-, hfalls, -⟩ := reserves_segregated Sample.creditDeployment_initial hrecovery hsteps
  refine ⟨s, s', ⟨_, _, Sample.creditDeployment_initial, hsteps⟩, hstep, hpledged, hpledged', ?_⟩
  rcases hfalls _ s' hstep 5 (by rw [hpledged, hpledged']; decide) with
    ⟨amount, hamount, happlies⟩ | ⟨hcall, -⟩
  · rw [hpledged, hpledged', Nat.zero_add] at hamount
    rw [hamount]
    exact happlies
  · cases hcall

end Rackline
