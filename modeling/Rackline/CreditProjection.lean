import Rackline.ProtocolLogs

/-!
# `Rackline.CreditProjection`: the credit status folded from the logs

`projectCredit` is `_project_credit` in `indexer.py`. It reads the events of `CREDIT_EVENTS` and
keeps one row of `proj_facility_credit` for each facility that such an event names. Each log comes
with the timestamp of its block, if the journal has the block.

Of the row, the trigger, the authority and the transaction of the last transition are left out, with
the place of an event in the chain.
-/

set_option autoImplicit false

namespace Rackline

open Evm EventLog

/-- A log, with the timestamp that the block journal has for its block. -/
structure StampedLog where
  at_ : Option Nat
  log : ProtocolLog
deriving DecidableEq

/-- The facility of an event in `CREDIT_EVENTS`. -/
def ProtocolLog.creditFacility : ProtocolLog → Option FacilityId
  | .manager (.stateChanged id _ _) => some id
  | .recovery (.scheduleSet id _ _ _) => some id
  | .recovery (.disputeSet id _ _) => some id
  | .recovery (.defaultApproved id _) => some id
  | .recovery (.reserveFunded id _ _) => some id
  | .recovery (.reserveApplied id _) => some id
  | .recovery (.lossApplied id _ _ _) => some id
  | .vault (.impairmentRecognized id _) => some id
  | .vault (.impairmentReversed id _) => some id
  | .vault (.writtenOff id _ _ _) => some id
  | _ => none

/-- An entry of `transitions`. -/
structure ProjectedTransition where
  source : FacilityState
  target : FacilityState
  at_ : Nat
deriving DecidableEq

/-- `ProjectedFacilityCredit`. -/
structure ProjectedFacilityCredit where
  state : FacilityState
  stateChangedAt : Option Nat
  scheduleDueAt : Option Nat
  scheduleGraceSeconds : Option Nat
  scheduleDueAmount : Option Nat
  scheduleSetAt : Option Nat
  disputed : Bool
  defaultReason : Option Bytes32
  defaultApprovedAt : Option Nat
  reserveOwner : Option Address
  reservePledged : Nat
  reserveApplied : Nat
  impairment : Nat
  lossId : Option Bytes32
  lossAmount : Option Nat
  writtenOffAt : Option Nat
  transitions : List ProjectedTransition
deriving DecidableEq

namespace ProjectedFacilityCredit

/-- The row that the first event of a facility starts from. -/
def fresh : ProjectedFacilityCredit where
  state := .draft
  stateChangedAt := none
  scheduleDueAt := none
  scheduleGraceSeconds := none
  scheduleDueAmount := none
  scheduleSetAt := none
  disputed := false
  defaultReason := none
  defaultApprovedAt := none
  reserveOwner := none
  reservePledged := 0
  reserveApplied := 0
  impairment := 0
  lossId := none
  lossAmount := none
  writtenOffAt := none
  transitions := []

/-- The row after an event in a block with the timestamp `at_`. -/
def fold (at_ : Nat) (c : ProjectedFacilityCredit) :
    ProtocolLog → Except String ProjectedFacilityCredit
  | .manager (.stateChanged _ source target) => .ok { c with
      state := target, stateChangedAt := some at_,
      transitions := c.transitions ++ [⟨source, target, at_⟩] }
  | .recovery (.scheduleSet _ dueAt graceSeconds dueAmount) => .ok { c with
      scheduleDueAt := some dueAt, scheduleGraceSeconds := some graceSeconds,
      scheduleDueAmount := some dueAmount, scheduleSetAt := some at_, disputed := false }
  | .recovery (.disputeSet _ disputed _) =>
    if disputed = true then
      .ok { c with disputed := true, defaultReason := none, defaultApprovedAt := none }
    else .ok { c with disputed := false }
  | .recovery (.defaultApproved _ reason) =>
    .ok { c with defaultReason := some reason, defaultApprovedAt := some at_ }
  | .recovery (.reserveFunded _ owner amount) =>
    .ok { c with reserveOwner := some owner, reservePledged := c.reservePledged + amount }
  | .recovery (.reserveApplied _ amount) => do
    revertIf (amount > c.reservePledged) "reserve application exceeds the pledged reserve"
    return { c with
      reservePledged := c.reservePledged - amount, reserveApplied := c.reserveApplied + amount }
  | .vault (.impairmentRecognized _ amount) => .ok { c with impairment := c.impairment + amount }
  | .vault (.impairmentReversed _ amount) => do
    revertIf (amount > c.impairment) "impairment reversal exceeds the recognised impairment"
    return { c with impairment := c.impairment - amount }
  -- The vault releases the impairment when the facility leaves the performing book.
  | .vault (.writtenOff _ _ _ _) => .ok { c with impairment := 0 }
  | .recovery (.lossApplied _ lossId amount writeOff) =>
    if writeOff = true then
      .ok { c with lossId := some lossId, lossAmount := some amount, writtenOffAt := some at_ }
    else .ok c
  | _ => .ok c

end ProjectedFacilityCredit

/-- The rows of `proj_facility_credit`. -/
abbrev CreditView := FacilityId → Option ProjectedFacilityCredit

namespace CreditView

/-- No row yet. -/
def empty : CreditView := fun _ => none

/-- The row of a facility, or the one that its first event would start from. -/
def row (v : CreditView) (id : FacilityId) : ProjectedFacilityCredit := (v id).getD .fresh

end CreditView

/-- `_project_credit`, for the events of `CREDIT_EVENTS`; the others pass it by. -/
def projectCredit (v : CreditView) (l : StampedLog) : Except String CreditView :=
  match l.log.creditFacility with
  | none => .ok v
  | some id =>
    match l.at_ with
    | none => .error "credit event lacks its canonical block journal row"
    | some at_ => do
      let c ← (v.row id).fold at_ l.log
      return Function.update v id (some c)

/-! ### Runs -/

/-- The events of a transaction, in a block of the journal. -/
def LoggedTx.stampedLogs (d : Deployment) (s : CreditState) (tx : LoggedTx) : List StampedLog :=
  (tx.logs d s).map (StampedLog.mk (some tx.msg.now))

/-- One transaction, with the events it appends to the log. -/
def CreditLogStep (d : Deployment) :
    Logged CreditState StampedLog → LoggedTx → Logged CreditState StampedLog → Prop :=
  LoggedStep (fun s tx s' => CreditStep d s tx.toTx s') (LoggedTx.stampedLogs d)

/-- A deployment, before any event. -/
def CreditLogInitial (d : Deployment) (s : Logged CreditState StampedLog) : Prop :=
  s.state.Initial d ∧ s.log = []

/-- The state after a transaction that returns. -/
def LoggedTx.exec (d : Deployment) (s : CreditState) (tx : LoggedTx) : Except Revert CreditState :=
  if s.now ≤ tx.msg.now ∧ tx.msg.sender ∉ d.contracts then
    (tx.call.exec d tx.reg tx.msg s.credit).map fun c => { now := tx.msg.now, credit := c }
  else .error .panic

theorem LoggedTx.exec_step {d : Deployment} {s s' : CreditState} {tx : LoggedTx}
    (h : tx.exec d s = .ok s') : CreditStep d s tx.toTx s' := by
  unfold exec at h
  split at h
  · rename_i hc
    obtain ⟨c, hexec, rfl⟩ := map_eq_ok.mp h
    exact ⟨hc.1, hc.2, hexec, rfl⟩
  · cases h

end Rackline
