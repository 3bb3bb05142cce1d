import Rackline.LendingVault
import Rackline.Lib.Transition

/-!
# `Rackline.PoolRun`: runs of the vault, the ledger and the token

A run of the pool is any sequence of calls to the vault, the ledger and the token, by any
callers, at times that never go back. A call that reverts changes nothing and is no step.
The vault contract itself starts no call, and that is all a step asks of the caller: the
role and manager checks are inside the calls.

`repay` is the pair of calls every repayment path makes in one transaction: `ledger.allocate`
and `vault.onRepayment` with its result. The router overwrites `requested` in that result,
so the call carries the value. A ledger `allocate` on its own is also a call here;
`Coupled` picks the runs that never make it.
-/

set_option autoImplicit false

namespace Rackline

open Evm Transition

/-- The external calls of `LendingVaultV2`. -/
inductive VaultCall
  | setManager (manager : Address) (enabled : Bool)
  | finalizeWiring
  | bindRecoveryManager (manager : Address)
  | setDepositsPaused (paused : Bool)
  | deposit (assets minShares : Nat)
  | withdraw (shares minAssets : Nat)
  | requestWithdrawal (shares minAssets : Nat)
  | cancelWithdrawal (id : Nat)
  | processWithdrawals (maxRequests : Nat)
  | claimWithdrawal (id : Nat)
  | rollLossEpoch
  | claimEpochRecovery (epoch : Nat)
  | lend (id : FacilityId) (dst : Address) (amount : Nat)
  | onRepayment (id : FacilityId) (result : RepayResult)
  | refundExcess (id : FacilityId) (dst : Address) (amount : Nat)
  | recordRecovery (id : FacilityId) (amount : Nat)
  | recognizeImpairment (id : FacilityId) (amount : Nat)
  | reverseImpairment (id : FacilityId) (amount : Nat)
  | writeOff (id : FacilityId)
  | approve (spender : Address) (amount : Nat)
  | transfer (dst : Address) (amount : Nat)
  | transferFrom (src dst : Address) (amount : Nat)

/-- The external calls of `DebtLedger`. -/
inductive LedgerCall
  | setWriter (writer : Address) (enabled : Bool)
  | finalizeWiring
  | openFacility (id : FacilityId) (terms : Terms)
  | setState (id : FacilityId) (state : FacilityState)
  | accrue (id : FacilityId)
  | setRate (id : FacilityId) (rateBps : Nat)
  | recordDraw (id : FacilityId) (amount : Nat)
  | recordFee (id : FacilityId) (amount : Nat)
  | freezeAccrual (id : FacilityId)
  | capitalize (id : FacilityId)
  | allocate (id : FacilityId) (received : Nat)

/-- The external calls of the token. -/
inductive TokenCall
  | transfer (dst : Address) (amount : Nat)
  | approve (spender : Address) (amount : Nat)
  | transferFrom (src dst : Address) (amount : Nat)

/-- A call to one of the three contracts, or the repayment pair. -/
inductive PoolCall
  | vault (c : VaultCall)
  | ledger (c : LedgerCall)
  | token (c : TokenCall)
  | repay (id : FacilityId) (received requested : Nat)

namespace VaultCall

/-- Run a vault call, without its return value. -/
def exec (m : Msg) (p : Pool) : VaultCall → Except Revert Pool
  | setManager manager enabled => p.setManager m manager enabled
  | finalizeWiring => p.finalizeWiring m
  | bindRecoveryManager manager => p.bindRecoveryManager m manager
  | setDepositsPaused paused => p.setDepositsPaused m paused
  | deposit assets minShares => (p.deposit m assets minShares).map (·.2)
  | withdraw shares minAssets => (p.withdraw m shares minAssets).map (·.2)
  | requestWithdrawal shares minAssets => (p.requestWithdrawal m shares minAssets).map (·.2)
  | cancelWithdrawal id => p.cancelWithdrawal m id
  | processWithdrawals maxRequests => (p.processWithdrawals m maxRequests).map (·.2.2)
  | claimWithdrawal id => (p.claimWithdrawal m id).map (·.2)
  | rollLossEpoch => p.rollLossEpoch m
  | claimEpochRecovery epoch => (p.claimEpochRecovery m epoch).map (·.2)
  | lend id dst amount => p.lend m id dst amount
  | onRepayment id result => p.onRepayment m id result
  | refundExcess id dst amount => p.refundExcess m id dst amount
  | recordRecovery id amount => p.recordRecovery m id amount
  | recognizeImpairment id amount => p.recognizeImpairment m id amount
  | reverseImpairment id amount => p.reverseImpairment m id amount
  | writeOff id => p.writeOff m id
  | approve spender amount => .ok (p.approveShares m spender amount)
  | transfer dst amount => p.transfer m dst amount
  | transferFrom src dst amount => p.transferFrom m src dst amount

end VaultCall

namespace LedgerCall

/-- Run a ledger call, without its return value. -/
def exec (m : Msg) (l : Ledger) : LedgerCall → Except Revert Ledger
  | setWriter writer enabled => l.setWriter m writer enabled
  | finalizeWiring => l.finalizeWiring m
  | openFacility id terms => l.openFacility m id terms
  | setState id state => l.setState m id state
  | accrue id => l.accrue m id
  | setRate id rateBps => l.setRate m id rateBps
  | recordDraw id amount => l.recordDraw m id amount
  | recordFee id amount => l.recordFee m id amount
  | freezeAccrual id => l.freezeAccrual m id
  | capitalize id => l.capitalize m id
  | allocate id received => (l.allocate m id received).map (·.2)

end LedgerCall

namespace TokenCall

/-- Run a token call. A failed call reverts. -/
def exec (m : Msg) (t : Token Address) : TokenCall → Except Revert (Token Address)
  | transfer dst amount =>
    match t.transfer m.sender dst amount with
    | none => .error .transferFailed
    | some t' => .ok t'
  | approve spender amount => .ok (t.approve m.sender spender amount)
  | transferFrom src dst amount =>
    match t.transferFrom m.sender src dst amount with
    | none => .error .transferFailed
    | some t' => .ok t'

end TokenCall

namespace Pool

/-- Run a call on the pool. -/
def exec (m : Msg) (p : Pool) : PoolCall → Except Revert Pool
  | .vault c => c.exec m p
  | .ledger c => (c.exec m p.ledger).map fun l => { p with ledger := l }
  | .token c => (c.exec m p.token).map fun t => { p with token := t }
  | .repay id received requested => (p.repay m id received requested).map (·.2)

end Pool

/-- The pool and the time of the last call. -/
structure PoolState where
  now : Nat
  pool : Pool

/-- A deployment: an arbitrary token, an empty ledger and an empty vault that has approved
nobody. -/
def PoolState.Initial (s : PoolState) : Prop :=
  s.pool.ledger = .initial ∧ s.pool.vault = .initial s.pool.vault.self ∧
    ∀ spender, s.pool.token.allowance s.pool.vault.self spender = 0

/-- One successful call, at a time that is not before the last one. -/
def PoolStep (s : PoolState) (a : Msg × PoolCall) (s' : PoolState) : Prop :=
  s.now ≤ a.1.now ∧ a.1.sender ≠ s.pool.vault.self ∧
    s.pool.exec a.1 a.2 = .ok s'.pool ∧ s'.now = a.1.now

/-- Run a list of calls. A call out of time order or from the vault itself is not made, and the
run stops. -/
def PoolState.run (s : PoolState) : List (Msg × PoolCall) → Except Revert PoolState
  | [] => .ok s
  | (m, c) :: rest =>
    if s.now ≤ m.now ∧ m.sender ≠ s.pool.vault.self then do
      let p ← s.pool.exec m c
      run { now := m.now, pool := p } rest
    else .error .panic

theorem PoolState.run_steps : ∀ {as : List (Msg × PoolCall)} {s s' : PoolState},
    s.run as = .ok s' → Steps PoolStep s as s' := by
  intro as
  induction as with
  | nil =>
    intro s s' h
    cases h
    exact .nil s
  | cons a rest ih =>
    intro s s' h
    obtain ⟨m, c⟩ := a
    unfold run at h
    split at h
    · rename_i hc
      obtain ⟨p, hp, h⟩ := bind_eq_ok.mp h
      exact .cons ⟨hc.1, hc.2, hp, rfl⟩ (ih h)
    · cases h

/-- The calls of a run in which every ledger allocation is reported to the vault in the same
transaction. -/
def PoolCall.Coupled : PoolCall → Prop
  | .ledger (.allocate ..) => False
  | _ => True

instance : DecidablePred PoolCall.Coupled := fun c =>
  match c with
  | .vault _ | .token _ | .repay .. => .isTrue trivial
  | .ledger (.allocate ..) => .isFalse id
  | .ledger (.setWriter ..) | .ledger .finalizeWiring | .ledger (.openFacility ..)
  | .ledger (.setState ..) | .ledger (.accrue ..) | .ledger (.setRate ..)
  | .ledger (.recordDraw ..) | .ledger (.recordFee ..) | .ledger (.freezeAccrual ..)
  | .ledger (.capitalize ..) => .isTrue trivial

/-- One successful call that is not a bare ledger allocation. -/
def CoupledStep (s : PoolState) (a : Msg × PoolCall) (s' : PoolState) : Prop :=
  a.2.Coupled ∧ PoolStep s a s'

/-- The states of any run. -/
def PoolReachable : PoolState → Prop := Reachable PoolState.Initial PoolStep

/-- The states of the runs in which every allocation is coupled. -/
def CoupledReachable : PoolState → Prop := Reachable PoolState.Initial CoupledStep

/-- A run that returned, and a view of where it ended: the form in which an evaluated run
enters a proof. -/
theorem PoolState.run_view {α : Type} (s : PoolState) (as : List (Msg × PoolCall))
    (view : PoolState → α) {v : α} (h : ((s.run as).map view).toOption = some v) :
    ∃ s', s.run as = .ok s' ∧ view s' = v :=
  map_eq_ok.mp (toOption_eq_some.mp h)

theorem PoolState.run_reachable {as : List (Msg × PoolCall)} {s s' : PoolState}
    (h : s.run as = .ok s') (hinit : s.Initial) : PoolReachable s' :=
  ⟨s, as, hinit, run_steps h⟩

theorem Steps.coupled {as : List (Msg × PoolCall)} {s s' : PoolState}
    (h : Steps PoolStep s as s') (hc : ∀ a ∈ as, a.2.Coupled) : Steps CoupledStep s as s' := by
  induction h with
  | nil => exact .nil _
  | cons hs _ ih =>
    exact .cons ⟨hc _ List.mem_cons_self, hs⟩ (ih fun a ha => hc a (List.mem_cons_of_mem _ ha))

theorem PoolState.run_coupledReachable {as : List (Msg × PoolCall)} {s s' : PoolState}
    (h : s.run as = .ok s') (hinit : s.Initial) (hc : ∀ a ∈ as, a.2.Coupled) :
    CoupledReachable s' :=
  ⟨s, as, hinit, Steps.coupled (run_steps h) hc⟩

/-! ### A deployment to evaluate runs on -/

namespace Sample

/-- A token with three funded accounts that have approved the vault at address 1. -/
def token : Token Address where
  balanceOf a := if a = 7 ∨ a = 8 ∨ a = 9 then 10 ^ 9 else 0
  allowance owner spender :=
    if (owner = 7 ∨ owner = 8 ∨ owner = 9) ∧ spender = 1 then 10 ^ 9 else 0
  bounded a := by
    split
    · decide
    · decide

/-- The vault at address 1, before any call. -/
def deployment : PoolState :=
  { now := 0, pool := { token := token, ledger := .initial, vault := .initial 1 } }

theorem deployment_initial : deployment.Initial := by
  refine ⟨rfl, rfl, fun spender => ?_⟩
  have hself : ¬((1 : Address) = 7 ∨ (1 : Address) = 8 ∨ (1 : Address) = 9) := by decide
  simp only [deployment, token, Vault.initial, hself, false_and, if_false]

/-- A call by `sender` at `now`, by an account that has every role. -/
def msg (sender : Address) (now : Nat) : Msg :=
  { sender := sender, now := now, hasRole := fun _ _ => true, hasCode := fun _ => true }

/-- Terms the ledger accepts: ten percent a year, no maturity. -/
def terms : Terms :=
  { loanAsset := { chainId := 1, token := 2, decimals := 6 }, rateBps := 1000, maturityAt := 0,
    termsVersionId := 1, policyVersionId := 1, executionProfile := .localMock,
    capitalizeUnpaidInterest := false }

/-- A writer and manager at address 7, and a facility 5 that draws `amount` at `now`. -/
def drawCalls (now amount : Nat) : List (Msg × PoolCall) :=
  [(msg 7 now, .ledger (.setWriter 7 true)), (msg 7 now, .vault (.setManager 7 true)),
    (msg 7 now, .ledger (.openFacility 5 terms)), (msg 7 now, .ledger (.recordDraw 5 amount)),
    (msg 7 now, .vault (.lend 5 7 amount))]

end Sample

end Rackline
