import Rackline.ProtocolLogs
import Rackline.Proofs.CreditInvariant

/-!
# `Rackline.Proofs.RepaymentLegs`: what a repayment emits

Every repayment emits the same events in the same order, its `Leg`: `Allocated`,
`RepaymentReceived`, `Repaid`, and for a settlement `AllocationApplied` at the end. Other events may
lie between them. `CreditCall.leg` says that the repayment events of a call are those of at most one
leg, and that the amounts of the leg are sound.
-/

set_option autoImplicit false

namespace Rackline

open Evm EventLog Transition

/-! ### Legs -/

/-- The four kinds of event that the pairing knows. -/
inductive RepaymentKind
  | repaid | allocated | received | applied
deriving DecidableEq

/-- The kind of an event and the facility it names. -/
def ProtocolLog.kind : ProtocolLog → Option (RepaymentKind × FacilityId)
  | .ledger (.allocated id _ _ _ _ _) => some (.allocated, id)
  | .vault (.repaymentReceived id _ _ _) => some (.received, id)
  | .manager (.repaid id _ _ _ _ _ _) => some (.repaid, id)
  | .router (.repaid id _ _ _ _ _ _ _ _ _ _) => some (.repaid, id)
  | .router (.allocationApplied _ id _ _ _) => some (.applied, id)
  | _ => none

/-- The events that the pairing knows. -/
def ProtocolLog.isRepayment (log : ProtocolLog) : Bool := log.kind.isSome

/-- The entry that a repayment comes in by. -/
inductive LegSource
  | manager
  | router (settlementRef : Bytes32)
  | settlement (settlementId : Bytes32)

/-- One repayment: what was asked for and how the ledger split what arrived. -/
structure Leg where
  facilityId : FacilityId
  payer : Address
  source : LegSource
  requested : Nat
  result : RepayResult

namespace Leg

def allocated (g : Leg) : ProtocolLog :=
  .ledger (.allocated g.facilityId g.result.feePaid g.result.interestPaid g.result.principalPaid
    g.result.excess g.result.newDebt)

def received (g : Leg) : ProtocolLog :=
  .vault (.repaymentReceived g.facilityId g.result.received g.result.applied g.result.excess)

/-- The `Repaid` of the router. -/
def routerRepaid (g : Leg) (settlementRef : Bytes32) : ProtocolLog :=
  .router (.repaid g.facilityId g.payer settlementRef g.requested g.result.received g.result.applied
    g.result.feePaid g.result.interestPaid g.result.principalPaid g.result.excess g.result.newDebt)

def repaid (g : Leg) : ProtocolLog :=
  match g.source with
  | .manager => .manager (.repaid g.facilityId g.payer g.requested g.result.received
      g.result.applied g.result.excess g.result.newDebt)
  | .router ref => g.routerRepaid ref
  | .settlement id => g.routerRepaid id

/-- The event after the `Repaid` of a settlement. -/
def marker (g : Leg) : List ProtocolLog :=
  match g.source with
  | .settlement id => [.router (.allocationApplied id g.facilityId g.requested g.result.applied
      g.result.excess)]
  | .manager | .router _ => []

/-- The events of a leg, in order. -/
def logs (g : Leg) : List ProtocolLog := [g.allocated, g.received, g.repaid] ++ g.marker

/-- Whether a leg settles a receipt of the router. -/
def settles (g : Leg) : Bool :=
  match g.source with
  | .settlement _ => true
  | .manager | .router _ => false

theorem settles_iff (g : Leg) : g.settles = true ↔ g.marker ≠ [] := by
  unfold settles marker
  cases g.source with
  | manager => simp
  | router ref => simp
  | settlement id => simp

/-- What the ledger, the vault and the token make sure of: the split is complete, and every amount
is a word. -/
structure Sound (g : Leg) : Prop where
  pos : 0 < g.result.received
  whole : g.result.received = g.result.applied + g.result.excess
  split : g.result.applied = g.result.feePaid + g.result.interestPaid + g.result.principalPaid
  requested : g.requested < 2 ^ 256
  received : g.result.received < 2 ^ 256
  newDebt : g.result.newDebt < 2 ^ 256

theorem repaid_kind (g : Leg) : g.repaid.kind = some (.repaid, g.facilityId) := by
  unfold repaid
  split <;> rfl

end Leg

/-! ### What a call emits -/

/-- What a payment applies is the sum of the three parts it pays in turn. -/
theorem paid_sum {received fees interest principal fee int prin : Nat}
    (hfee : fee = if received < fees then received else fees)
    (hint : int = if received - fee < interest then received - fee else interest)
    (hprin : prin = if received - fee - int < principal then received - fee - int else principal) :
    received - (received - fee - int - prin) = fee + int + prin := by
  split at hfee
  · split at hint <;> split at hprin <;> omega
  · split at hint <;> split at hprin <;> omega

/-- The split of an allocation, and the word its debt fits in. -/
theorem Facility.allocate_split {f f' : Facility} {now received : Nat} {r : RepayResult}
    (h : f.allocate now received = .ok (r, f')) :
    r.applied = r.feePaid + r.interestPaid + r.principalPaid ∧ r.newDebt < 2 ^ 256 := by
  unfold allocate at h
  obtain ⟨_, -, h⟩ := bind_eq_ok.mp h
  obtain ⟨g, -, h⟩ := bind_eq_ok.mp h
  obtain ⟨x, -, h⟩ := bind_eq_ok.mp h
  obtain ⟨y, -, h⟩ := bind_eq_ok.mp h
  obtain ⟨newDebt, hd, h⟩ := bind_eq_ok.mp h
  unfold legalDebt at hd
  obtain ⟨base, -, hd⟩ := bind_eq_ok.mp hd
  obtain ⟨hfit, rfl⟩ := addW_eq_ok.mp hd
  have hres := pure_eq_ok.mp h
  simp only [Prod.mk.injEq] at hres
  obtain ⟨rfl, -⟩ := hres
  exact ⟨paid_sum rfl rfl rfl, hfit⟩

theorem filter_accrueLogs (f : Facility) (now : Nat) (id : FacilityId) :
    ((f.accrueLogs now id).map ProtocolLog.ledger).filter ProtocolLog.isRepayment = [] := by
  unfold Facility.accrueLogs
  split
  · rfl
  · split
    · cases f.accrue now with
      | error e => rfl
      | ok f' => rfl
    · rfl

theorem filter_syncRepaidLogs (c : Credit) (id : FacilityId) :
    (c.syncRepaidLogs id).filter ProtocolLog.isRepayment = [] := by
  unfold Credit.syncRepaidLogs
  split
  · rfl
  · rfl

theorem pullToVault_words {caller payer : Address} {amount got : Nat} {p p' : Pool}
    (h : Credit.pullToVault caller payer amount p = .ok (got, p')) :
    amount < 2 ^ 256 ∧ got < 2 ^ 256 := by
  unfold Credit.pullToVault at h
  split at h
  · cases h
  · rename_i token htoken
    obtain ⟨received, hsub, h⟩ := bind_eq_ok.mp h
    obtain ⟨-, rfl⟩ := subW_eq_ok.mp hsub
    obtain ⟨_, -, h⟩ := bind_eq_ok.mp h
    have hres := pure_eq_ok.mp h
    simp only [Prod.mk.injEq] at hres
    obtain ⟨rfl, -⟩ := hres
    obtain ⟨-, spent, hbal, -, -, hmove⟩ := Token.transferFrom_move htoken
    have hle := (Token.move_balance hmove).1
    rw [hbal] at hle
    constructor
    · exact Nat.lt_of_le_of_lt hle (p.token.bounded payer)
    · exact Nat.lt_of_le_of_lt (Nat.sub_le _ _) (token.bounded p.vault.self)

theorem pushToVault_words {d : Deployment} {amount got : Nat} {p p' : Pool}
    (h : Credit.pushToVault d amount p = .ok (got, p')) : amount < 2 ^ 256 ∧ got < 2 ^ 256 := by
  unfold Credit.pushToVault at h
  split at h
  · cases h
  · rename_i token htoken
    obtain ⟨received, hsub, h⟩ := bind_eq_ok.mp h
    obtain ⟨-, rfl⟩ := subW_eq_ok.mp hsub
    obtain ⟨_, -, h⟩ := bind_eq_ok.mp h
    have hres := pure_eq_ok.mp h
    simp only [Prod.mk.injEq] at hres
    obtain ⟨rfl, -⟩ := hres
    have hle := (Token.move_balance htoken).1
    constructor
    · exact Nat.lt_of_le_of_lt hle (p.token.bounded d.router)
    · exact Nat.lt_of_le_of_lt (Nat.sub_le _ _) (token.bounded p.vault.self)

/-- The ledger and the vault emit the first two events of a leg, and its amounts are sound. -/
theorem Pool.repay_leg {m : Msg} {p p' : Pool} {id : FacilityId} {got requested : Nat}
    {r : RepayResult} (h : p.repay m id got requested = .ok (r, p')) (payer : Address)
    (source : LegSource) (asked : Nat) (hasked : asked < 2 ^ 256) (hgot : got < 2 ^ 256) :
    let g : Leg := ⟨id, payer, source, asked, r⟩
    g.Sound ∧ r.received = got ∧
      (p.repayLogs m id got requested).filter ProtocolLog.isRepayment = [g.allocated, g.received] := by
  intro g
  obtain ⟨split, ledger, hl, rfl, -⟩ := repay_ok h
  obtain ⟨-, hpos, hreceived, hwhole, -, -, -, -, -, -⟩ := Ledger.allocate_ok hl
  have hlogs := hl
  unfold Ledger.allocate at hl
  obtain ⟨_, -, hl⟩ := bind_eq_ok.mp hl
  obtain ⟨_, -, hl⟩ := bind_eq_ok.mp hl
  obtain ⟨⟨split', f⟩, hf, hl⟩ := bind_eq_ok.mp hl
  have hres := pure_eq_ok.mp hl
  simp only [Prod.mk.injEq] at hres
  obtain ⟨rfl, -⟩ := hres
  obtain ⟨hsplit, hnewDebt⟩ := Facility.allocate_split hf
  refine ⟨⟨?_, ?_, hsplit, hasked, ?_, hnewDebt⟩, hreceived, ?_⟩
  · show 0 < split'.received
    omega
  · show split'.received = split'.applied + split'.excess
    omega
  · show split'.received < 2 ^ 256
    omega
  · simp only [repayLogs, hlogs, LedgerCall.logs, hf, VaultCall.logs, List.map_append,
      List.filter_append, filter_accrueLogs]
    split
    · rfl
    · rfl

namespace Credit

variable {d : Deployment} {reg : Registries} {m : Msg} {c c' : Credit} {id : FacilityId}

/-- `_apply` emits a leg of the router. -/
theorem applyReceived_leg {requested got : Nat} {r : RepayResult}
    (h : c.applyReceived d m id requested got = .ok (r, c')) (hrequested : requested < 2 ^ 256)
    (hgot : got < 2 ^ 256) (source : LegSource) (ref : Bytes32) :
    let g : Leg := ⟨id, m.sender, source, requested, r⟩
    g.Sound ∧ (∃ pool, c.pool.repay (m.calledBy d.router) id got requested = .ok (r, pool)) ∧
      (c.applyReceivedLogs d m id ref requested got).filter ProtocolLog.isRepayment =
        [g.allocated, g.received, g.routerRepaid ref] := by
  intro g
  unfold applyReceived at h
  obtain ⟨⟨r', pool⟩, hrepay, h⟩ := bind_eq_ok.mp h
  have hr : r' = r := by
    dsimp only at h
    split at h
    · obtain ⟨c₁, -, h⟩ := bind_eq_ok.mp h
      split at h
      · obtain ⟨c₂, -, h⟩ := bind_eq_ok.mp h
        exact (Prod.mk.inj (pure_eq_ok.mp h)).1
      · exact (Prod.mk.inj (pure_eq_ok.mp h)).1
    · exact (Prod.mk.inj (pure_eq_ok.mp h)).1
  subst hr
  obtain ⟨hsound, -, hfilter⟩ := Pool.repay_leg hrepay m.sender source requested hrequested hgot
  refine ⟨hsound, ⟨pool, hrepay⟩, ?_⟩
  simp only [applyReceivedLogs, hrepay, List.filter_append, hfilter]
  split
  · rw [filter_syncRepaidLogs]
    rfl
  · rfl

/-- The events of a call that the pairing knows are those of one sound leg. -/
def LegOf (settles : Bool) (logs : List ProtocolLog) : Prop :=
  ∃ g : Leg, g.Sound ∧ g.settles = settles ∧ logs.filter ProtocolLog.isRepayment = g.logs

theorem managerRepayFor_leg {amount : Nat} {r : RepayResult}
    (h : c.managerRepayFor d m id amount = .ok (r, c')) :
    LegOf false (c.managerRepayForLogs d m id amount) := by
  unfold managerRepayFor at h
  obtain ⟨_, -, h⟩ := bind_eq_ok.mp h
  obtain ⟨_, -, h⟩ := bind_eq_ok.mp h
  obtain ⟨⟨received, pool⟩, hpull, h⟩ := bind_eq_ok.mp h
  obtain ⟨⟨r', pool'⟩, hrepay, -⟩ := bind_eq_ok.mp h
  obtain ⟨hamount, hreceived⟩ := pullToVault_words hpull
  obtain ⟨hsound, hgot, hfilter⟩ :=
    Pool.repay_leg hrepay m.sender .manager amount hamount hreceived
  refine ⟨⟨id, m.sender, .manager, amount, r'⟩, hsound, rfl, ?_⟩
  have hgot' : r'.received = received := hgot
  subst hgot'
  simp only [managerRepayForLogs, hpull, hrepay, List.filter_append, hfilter]
  split
  · rfl
  · rfl

theorem routerRepayForLogs_leg {ref : Bytes32} {amount got : Nat} {pool : Pool} {r : RepayResult}
    (hpull : pullToVault d.router m.sender amount c.pool = .ok (got, pool))
    (h : applyReceived d m id amount got { c with pool := pool } = .ok (r, c')) :
    LegOf false (c.routerRepayForLogs d m ref id amount) := by
  obtain ⟨hamount, hgot⟩ := pullToVault_words hpull
  obtain ⟨hsound, -, hfilter⟩ := applyReceived_leg h hamount hgot (.router ref) ref
  refine ⟨⟨id, m.sender, .router ref, amount, r⟩, hsound, rfl, ?_⟩
  simp only [routerRepayForLogs, hpull]
  exact hfilter

theorem routerRepayFor_leg {ref : Bytes32} {amount : Nat} {r : RepayResult}
    (h : c.routerRepayFor d m id amount = .ok (r, c')) :
    LegOf false (c.routerRepayForLogs d m ref id amount) := by
  unfold routerRepayFor at h
  obtain ⟨_, -, h⟩ := bind_eq_ok.mp h
  obtain ⟨debt, -, h⟩ := bind_eq_ok.mp h
  obtain ⟨⟨got, pool⟩, hpull, h⟩ := bind_eq_ok.mp h
  exact routerRepayForLogs_leg hpull h

theorem repayExact_leg {maxAmount : Nat} {r : RepayResult}
    (h : c.repayExact d m id maxAmount = .ok (r, c')) :
    LegOf false (c.repayExactLogs d m id maxAmount) := by
  unfold repayExact at h
  obtain ⟨_, -, h⟩ := bind_eq_ok.mp h
  obtain ⟨debt, hdebt, h⟩ := bind_eq_ok.mp h
  obtain ⟨⟨got, pool⟩, hpull, h⟩ := bind_eq_ok.mp h
  simp only [repayExactLogs, hdebt]
  exact routerRepayForLogs_leg hpull h

theorem allocateFromReceipt_leg {settlementId : Bytes32} {amount : Nat} {r : RepayResult}
    (h : c.allocateFromReceipt d m settlementId id amount = .ok (r, c')) :
    LegOf true (c.allocateFromReceiptLogs d m settlementId id amount) := by
  unfold allocateFromReceipt at h
  obtain ⟨_, -, h⟩ := bind_eq_ok.mp h
  obtain ⟨_, -, h⟩ := bind_eq_ok.mp h
  obtain ⟨allocated, -, h⟩ := bind_eq_ok.mp h
  obtain ⟨_, -, h⟩ := bind_eq_ok.mp h
  obtain ⟨debt, -, h⟩ := bind_eq_ok.mp h
  obtain ⟨⟨got, pool⟩, hpush, h⟩ := bind_eq_ok.mp h
  obtain ⟨hamount, hgot⟩ := pushToVault_words hpush
  obtain ⟨hsound, ⟨pool', hrepay⟩, hfilter⟩ :=
    applyReceived_leg h hamount hgot (.settlement settlementId) settlementId
  refine ⟨⟨id, m.sender, .settlement settlementId, amount, r⟩, hsound, rfl, ?_⟩
  have hrepay' : pool.repay (m.calledBy d.router) id got amount = .ok (r, pool') := hrepay
  simp only [allocateFromReceiptLogs, hpush, hrepay', List.filter_append]
  -- The receipt of the router plays no part in what `_apply` emits.
  have hfilter' : (applyReceivedLogs d m id settlementId amount got
      { c with pool := pool }).filter ProtocolLog.isRepayment = _ := hfilter
  rw [hfilter']
  rfl

theorem receiveSettlement_leg {settlementId : Bytes32} {amount : Nat} {r : RepayResult}
    (h : c.receiveSettlement d m id settlementId amount = .ok (r, c')) :
    LegOf true (c.receiveSettlementLogs d m id settlementId amount) := by
  unfold receiveSettlement at h
  obtain ⟨_, -, h⟩ := bind_eq_ok.mp h
  obtain ⟨⟨got, c₁⟩, hrecord, h⟩ := bind_eq_ok.mp h
  simp only [receiveSettlementLogs, hrecord]
  exact allocateFromReceipt_leg h

/-- The events of a call that the pairing knows are those of one sound leg, or there are none. -/
def AtMostOneLeg (settles : Bool) (logs : List ProtocolLog) : Prop :=
  LegOf settles logs ∨ logs.filter ProtocolLog.isRepayment = []

/-- Events before and after a leg that the pairing does not know. -/
theorem AtMostOneLeg.append {settles : Bool} {logs more : List ProtocolLog}
    (h : AtMostOneLeg settles logs) (hmore : more.filter ProtocolLog.isRepayment = []) :
    AtMostOneLeg settles (logs ++ more) := by
  have hfilter : (logs ++ more).filter ProtocolLog.isRepayment =
      logs.filter ProtocolLog.isRepayment := by
    rw [List.filter_append, hmore, List.append_nil]
  rcases h with ⟨g, hsound, hsettles, hlogs⟩ | hnone
  · exact .inl ⟨g, hsound, hsettles, hfilter.trans hlogs⟩
  · exact .inr (hfilter.trans hnone)

theorem applyReserve_leg (h : c.applyReserveInternal d m id = .ok c') :
    AtMostOneLeg false (c.applyReserveLogs d m id) := by
  unfold applyReserveInternal at h
  obtain ⟨state, -, h⟩ := bind_eq_ok.mp h
  obtain ⟨_, -, h⟩ := bind_eq_ok.mp h
  obtain ⟨debt, hdebt, h⟩ := bind_eq_ok.mp h
  simp only [applyReserveLogs, hdebt]
  dsimp only at h
  generalize (if (c.recovery.schedules id).pledgedReserve < debt then
    (c.recovery.schedules id).pledgedReserve else debt) = amount at h ⊢
  split at h
  · rename_i hzero
    rw [if_pos hzero]
    exact .inr rfl
  · rename_i hpays
    obtain ⟨⟨r, c₁⟩, hrepay, -⟩ := bind_eq_ok.mp h
    rw [if_neg hpays]
    exact AtMostOneLeg.append (.inl (repayExact_leg (m := m.calledBy d.recovery) hrepay)) rfl

theorem filter_consumeReservationLogs (rid : Bytes32) :
    (c.consumeReservationLogs m rid).filter ProtocolLog.isRepayment = [] := by
  simp only [consumeReservationLogs, LedgerCall.logs, List.map_append, List.filter_append,
    filter_accrueLogs]
  rfl

theorem filter_executeLogs (rid : Bytes32) :
    (c.executeLogs m rid).filter ProtocolLog.isRepayment = [] := by
  simp only [executeLogs, List.filter_append, filter_consumeReservationLogs]
  rfl

theorem writeOff_leg {lossId : Bytes32} (h : c.recoveryWriteOff d reg m id lossId = .ok c') :
    AtMostOneLeg false (c.recoveryWriteOffLogs d m id lossId) := by
  unfold recoveryWriteOff at h
  obtain ⟨_, -, h⟩ := bind_eq_ok.mp h
  obtain ⟨_, -, h⟩ := bind_eq_ok.mp h
  obtain ⟨_, -, h⟩ := bind_eq_ok.mp h
  obtain ⟨c₁, hreserve, h⟩ := bind_eq_ok.mp h
  obtain ⟨debt, hdebt, -⟩ := bind_eq_ok.mp h
  simp only [recoveryWriteOffLogs, hreserve, hdebt]
  refine (applyReserve_leg hreserve).append ?_
  split
  · exact filter_syncRepaidLogs c₁ id
  · simp only [VaultCall.logs]
    cases c₁.pool.ledger.unpaidInterestAt id (m.calledBy d.recovery).now with
    | error e => rfl
    | ok interest => rfl

end Credit

/-- The calls whose repayments settle a receipt. -/
def CreditCall.settles : CreditCall → Bool
  | .router (.allocate _ _ _) | .router (.receiveSettlement _ _ _) => true
  | _ => false

theorem LedgerCall.filter_logs {m : Msg} {l : Ledger} {call : LedgerCall} (h : call.Plain) :
    ((call.logs m l).map ProtocolLog.ledger).filter ProtocolLog.isRepayment = [] := by
  cases call with
  | allocate id received => exact h.elim
  | capitalize id =>
    simp only [logs]
    cases (l.facilities id).accrue m.now with
    | error e => rfl
    | ok f =>
      simp only [List.map_append, List.filter_append, filter_accrueLogs, Facility.capitalizeLogs]
      split
      · rfl
      · rfl
  | setWriter | finalizeWiring | openFacility | setState => rfl
  | accrue id => exact filter_accrueLogs _ _ _
  | setRate | recordDraw | recordFee | freezeAccrual =>
    simp only [logs, List.map_append, List.filter_append, filter_accrueLogs]
    rfl

theorem VaultCall.filter_logs {m : Msg} {p : Pool} {call : VaultCall} (h : call.Plain) :
    ((call.logs m p).map ProtocolLog.vault).filter ProtocolLog.isRepayment = [] := by
  cases call with
  | onRepayment id result => exact h.elim
  | writeOff id =>
    simp only [logs]
    cases p.ledger.unpaidInterestAt id m.now with
    | error e => rfl
    | ok interest => rfl
  | _ => rfl

section
variable {d : Deployment} {reg : Registries} {m : Msg} {c c' : Credit} {ref : Bytes32}

open Credit

theorem ManagerCall.leg {call : ManagerCall} (h : call.exec d reg m c = .ok c') :
    AtMostOneLeg false (call.logs d reg m c) := by
  cases call with
  | repayFor id amount =>
    obtain ⟨⟨r, q⟩, hc, -⟩ := map_eq_ok.mp h
    exact .inl (managerRepayFor_leg hc)
  | syncRepaid id => exact .inr (filter_syncRepaidLogs c id)
  | borrow id amount minReceived =>
    right
    simp only [logs, borrowLogs]
    cases c.reserveInternal d reg m id amount (m.now + 1) with
    | error e => rfl
    | ok res => exact filter_executeLogs res.1
  | executeReservedDraw rid minReceived => exact .inr (filter_executeLogs rid)
  | _ => exact .inr rfl

theorem RouterCall.leg {call : RouterCall} (h : call.exec d m c = .ok c') :
    AtMostOneLeg (CreditCall.settles (.router call)) (call.logs d m ref c) := by
  cases call with
  | repayFor id amount =>
    obtain ⟨⟨r, q⟩, hc, -⟩ := map_eq_ok.mp h
    exact .inl (routerRepayFor_leg hc)
  | repayExact id maxAmount =>
    obtain ⟨⟨r, q⟩, hc, -⟩ := map_eq_ok.mp h
    exact .inl (repayExact_leg hc)
  | allocate settlementId id amount =>
    obtain ⟨⟨r, q⟩, hc, -⟩ := map_eq_ok.mp h
    unfold allocateSettlement at hc
    obtain ⟨_, -, hc⟩ := bind_eq_ok.mp hc
    exact .inl (allocateFromReceipt_leg hc)
  | receiveSettlement id settlementId amount =>
    obtain ⟨⟨r, q⟩, hc, -⟩ := map_eq_ok.mp h
    exact .inl (receiveSettlement_leg hc)
  | _ => exact .inr rfl

theorem RecoveryCall.leg {call : RecoveryCall} (h : call.exec d reg m c = .ok c') :
    AtMostOneLeg false (call.logs d m c) := by
  cases call with
  | applyReserve id =>
    unfold RecoveryCall.exec Credit.applyReserve at h
    obtain ⟨_, -, h⟩ := bind_eq_ok.mp h
    exact applyReserve_leg h
  | writeOff id lossId => exact writeOff_leg h
  | cure id =>
    right
    simp only [logs, cureLogs]
    cases c.pool.ledger.legalDebtAt id m.now with
    | error e => rfl
    | ok debt =>
      dsimp only
      split
      · exact filter_syncRepaidLogs c id
      · rfl
  | declareDefault id =>
    have hfreeze : ((LedgerCall.logs m c.pool.ledger (.freezeAccrual id)).map
        ProtocolLog.ledger).filter ProtocolLog.isRepayment = [] := LedgerCall.filter_logs trivial
    right
    show (c.setFacilityStateLogs id .defaulted ++ _).filter ProtocolLog.isRepayment = []
    rw [List.filter_append, hfreeze]
    rfl
  | _ => exact .inr rfl

/-- A call by an outsider emits at most one leg. -/
theorem CreditCall.leg (hw : c.Wired d) (hs : m.sender ∉ d.contracts) {call : CreditCall}
    (h : call.exec d reg m c = .ok c') : AtMostOneLeg call.settles (call.logs d reg m ref c) := by
  cases call with
  | vault call =>
    obtain ⟨p, hp, -⟩ := map_eq_ok.mp h
    exact .inr (VaultCall.filter_logs (VaultCall.plain_of_outsider hw hs hp))
  | ledger call =>
    obtain ⟨l, hl, -⟩ := map_eq_ok.mp h
    exact .inr (LedgerCall.filter_logs (LedgerCall.plain_of_outsider hw hs hl))
  | token call => exact .inr rfl
  | exposure call =>
    cases call with
    | consumeReservation rid => exact .inr (filter_consumeReservationLogs rid)
    | _ => exact .inr rfl
  | manager call => exact ManagerCall.leg h
  | router call => exact RouterCall.leg h
  | recovery call => exact RecoveryCall.leg h

end

end Rackline
