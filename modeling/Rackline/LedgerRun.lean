import Rackline.PoolRun

/-!
# `Rackline.LedgerRun`: runs of the ledger alone

A run of the ledger is any sequence of its calls, by any senders, at `uint64` times that never go
back. A call that reverts changes nothing and is no step.

`LedgerOp` is an operation on one facility that accrues first. `performTrace` makes a sequence of
operations and keeps what each returned and left. `performAccruing` makes the same operations and
calls `accrue` any number of times before each of them.
-/

set_option autoImplicit false

namespace Rackline

open Evm Transition

/-! ### Runs -/

/-- The rate in the arguments of a call is a `uint32`. -/
def LedgerCall.Typed : LedgerCall → Prop
  | openFacility _ terms => terms.rateBps < wordSize 32
  | setRate _ rateBps => rateBps < wordSize 32
  | _ => True

instance : DecidablePred LedgerCall.Typed := fun c =>
  match c with
  | .openFacility _ terms => inferInstanceAs (Decidable (terms.rateBps < _))
  | .setRate _ rateBps => inferInstanceAs (Decidable (rateBps < _))
  | .setWriter .. | .finalizeWiring | .setState .. | .accrue .. | .recordDraw .. | .recordFee ..
  | .freezeAccrual .. | .capitalize .. | .allocate .. => .isTrue trivial

/-- The ledger and the time of the last call. -/
structure LedgerState where
  now : Nat
  ledger : Ledger

/-- A deployed ledger. -/
def LedgerState.Initial (s : LedgerState) : Prop := s.ledger = .initial

/-- One successful call, at a `uint64` time that is not before the last one. -/
def LedgerStep (s : LedgerState) (a : Msg × LedgerCall) (s' : LedgerState) : Prop :=
  s.now ≤ a.1.now ∧ a.1.now < wordSize 64 ∧ a.2.Typed ∧ a.2.exec a.1 s.ledger = .ok s'.ledger ∧
    s'.now = a.1.now

/-- The states of any run. -/
def LedgerReachable : LedgerState → Prop := Reachable LedgerState.Initial LedgerStep

/-- Run a list of calls. A call that is no step is not made, and the run stops. -/
def LedgerState.run (s : LedgerState) : List (Msg × LedgerCall) → Except Revert LedgerState
  | [] => .ok s
  | (m, c) :: rest =>
    if s.now ≤ m.now ∧ m.now < wordSize 64 ∧ c.Typed then do
      let l ← c.exec m s.ledger
      run { now := m.now, ledger := l } rest
    else .error .panic

theorem LedgerState.run_steps : ∀ {as : List (Msg × LedgerCall)} {s s' : LedgerState},
    s.run as = .ok s' → Steps LedgerStep s as s' := by
  intro as
  induction as with
  | nil =>
    intro s s' h
    cases h
    exact .nil s
  | cons a rest ih =>
    intro s s' h
    obtain ⟨m, c⟩ := a
    unfold run at h
    split at h
    · rename_i hc
      obtain ⟨l, hl, h⟩ := bind_eq_ok.mp h
      exact .cons ⟨hc.1, hc.2.1, hc.2.2, hl, rfl⟩ (ih h)
    · cases h

/-! ### Operations on one facility -/

/-- The operations on one facility that accrue. -/
inductive LedgerOp
  | accrue
  | setRate (rateBps : Nat)
  | recordDraw (amount : Nat)
  | recordFee (amount : Nat)
  | allocate (received : Nat)
  | freezeAccrual
  | capitalize

namespace LedgerOp

/-- The rate of the operation is a `uint32`. -/
def Typed : LedgerOp → Prop
  | setRate rateBps => rateBps < wordSize 32
  | _ => True

/-- A call of the operation, with what an allocation returns. -/
def perform (m : Msg) (id : FacilityId) (l : Ledger) :
    LedgerOp → Except Revert (Option RepayResult × Ledger)
  | accrue => (l.accrue m id).map fun l => (none, l)
  | setRate rateBps => (l.setRate m id rateBps).map fun l => (none, l)
  | recordDraw amount => (l.recordDraw m id amount).map fun l => (none, l)
  | recordFee amount => (l.recordFee m id amount).map fun l => (none, l)
  | allocate received => (l.allocate m id received).map fun p => (some p.1, p.2)
  | freezeAccrual => (l.freezeAccrual m id).map fun l => (none, l)
  | capitalize => (l.capitalize m id).map fun l => (none, l)

end LedgerOp

/-- A sequence of operations: what each returned, and the ledger after it. -/
def performTrace (id : FacilityId) : List (Msg × LedgerOp) → Ledger →
    Except Revert (List (Option RepayResult × Ledger))
  | [], _ => .ok []
  | (m, op) :: rest, l => do
    let (result, l) ← op.perform m id l
    let trace ← performTrace id rest l
    return (result, l) :: trace

/-- A sequence of `accrue` calls. -/
def accrueAll (id : FacilityId) : List Msg → Ledger → Except Revert Ledger
  | [], l => .ok l
  | m :: rest, l => do
    let l ← l.accrue m id
    accrueAll id rest l

/-- A sequence of operations with `accrue` calls before each of them. -/
def performAccruing (id : FacilityId) : List (List Msg × Msg × LedgerOp) → Ledger →
    Except Revert (List (Option RepayResult × Ledger))
  | [], _ => .ok []
  | (accruals, m, op) :: rest, l => do
    let l ← accrueAll id accruals l
    let (result, l) ← op.perform m id l
    let trace ← performAccruing id rest l
    return (result, l) :: trace

/-- The times of the calls, in order. -/
def callTimes (plan : List (List Msg × Msg × LedgerOp)) : List Nat :=
  plan.flatMap fun p => p.1.map Msg.now ++ [p.2.1.now]

/-- The ledger after the last operation. -/
def lastLedger (l : Ledger) (trace : List (Option RepayResult × Ledger)) : Ledger :=
  (trace.getLast?.map Prod.snd).getD l

end Rackline
