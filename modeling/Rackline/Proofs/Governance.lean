import Rackline.GovernanceTimelock
import Rackline.Lib.Transition

/-!
# `Rackline.Proofs.Governance`: an operation is executed once, and not too early

`Life` lists what can be logged for one id: nothing, the call of the governor that scheduled it, and
after it at most one more call, which cancelled or executed it. `schedule` asks for an id without a
time and `execute` marks the id before it calls the target, so that a target finds no way around.
-/

set_option autoImplicit false

namespace Rackline.GovernanceTimelock

open Evm Transition

/-- What is logged for an id, next to its time and its mark. -/
inductive Life (T : Timelock) (id : Bytes32) : List Entry → Nat → Bool → Prop
  | unknown : Life T id [] 0 false
  | pending {now : Nat} {op : Operation} : T.operationId op = id →
      Life T id [.scheduled T.governor now op] (now + T.delay) false
  | cancelled {now : Nat} {op : Operation} : T.operationId op = id →
      Life T id [.scheduled T.governor now op, .cancelled T.governor id] (now + T.delay) true
  | executed {now now' : Nat} {op op' : Operation} : T.operationId op = id →
      T.operationId op' = id → now + T.delay ≤ now' →
      Life T id [.scheduled T.governor now op, .executed now' op'] (now + T.delay) true

variable {T : Timelock} {s t u : State} {now : Nat} {log : List Entry}

/-- An id without a time has no log. -/
theorem Life.fresh {id : Bytes32} {l : List Entry} {ready : Nat} {used : Bool}
    (h : Life T id l ready used) (hready : ready = 0) : l = [] ∧ used = false := by
  have hdelay := T.delay_ne
  cases h with
  | unknown => exact ⟨rfl, rfl⟩
  | pending _ => omega
  | cancelled _ => omega
  | executed _ _ _ => omega

/-- An id with a time and without a mark was scheduled, and no more. -/
theorem Life.open {id : Bytes32} {l : List Entry} {ready : Nat} {used : Bool}
    (h : Life T id l ready used) (hready : ready ≠ 0) (hused : used ≠ true) :
    ∃ at_ op, T.operationId op = id ∧ l = [.scheduled T.governor at_ op] ∧
      ready = at_ + T.delay := by
  cases h with
  | unknown => exact absurd rfl hready
  | @pending at_ op hid => exact ⟨at_, op, hid, rfl, rfl⟩
  | cancelled _ => exact absurd rfl hused
  | executed _ _ _ => exact absurd rfl hused

/-- The calls of an id. -/
def callsOf (T : Timelock) (id : Bytes32) (log : List Entry) : List Entry :=
  log.filter fun e => e.id T = id

/-- The log accounts for the state. -/
def Logged (T : Timelock) (log : List Entry) (s : State) : Prop :=
  ∀ id, Life T id (callsOf T id log) (s.readyAt id) (s.used id)

/-- One more call: its id lives on, and the others are as they were. -/
theorem Logged.snoc {e : Entry} (h : Logged T log s)
    (hlife : Life T (e.id T) (callsOf T (e.id T) log ++ [e]) (t.readyAt (e.id T))
      (t.used (e.id T)))
    (hready : ∀ id, id ≠ e.id T → t.readyAt id = s.readyAt id)
    (hused : ∀ id, id ≠ e.id T → t.used id = s.used id) : Logged T (log ++ [e]) t := by
  intro id
  unfold callsOf
  rw [List.filter_append]
  by_cases hid : id = e.id T
  · subst hid
    simpa [callsOf] using hlife
  · rw [hready id hid, hused id hid]
    simpa [callsOf, Ne.symm hid] using h id

theorem Logged.schedule {sender : Address} {op : Operation} (h : Logged T log s)
    (hcall : s.schedule T sender now op = .ok t) :
    Logged T (log ++ [.scheduled sender now op]) t := by
  obtain ⟨_, hsender, hcall⟩ := bind_eq_ok.mp hcall
  obtain ⟨_, hnew, hcall⟩ := bind_eq_ok.mp hcall
  obtain ⟨ready, hready, hcall⟩ := bind_eq_ok.mp hcall
  obtain ⟨-, rfl⟩ := addW_eq_ok.mp hready
  cases pure_eq_ok.mp hcall
  have hsender : sender = T.governor := not_not.mp (revertIf_eq_ok.mp hsender)
  have hzero : s.readyAt (T.operationId op) = 0 := by
    have := revertIf_eq_ok.mp hnew
    tauto
  obtain ⟨hlog, hused⟩ := (h (T.operationId op)).fresh hzero
  refine h.snoc ?_ (fun id hid => Function.update_of_ne hid _ _) (fun _ _ => rfl)
  show Life T (T.operationId op) (callsOf T (T.operationId op) log ++ [.scheduled sender now op])
    (Function.update s.readyAt (T.operationId op) _ (T.operationId op)) (s.used (T.operationId op))
  rw [hlog, hsender, hused, Function.update_self]
  exact .pending rfl

theorem Logged.cancel {sender : Address} {id : Bytes32} (h : Logged T log s)
    (hcall : s.cancel T sender id = .ok t) : Logged T (log ++ [.cancelled sender id]) t := by
  obtain ⟨_, hsender, hcall⟩ := bind_eq_ok.mp hcall
  obtain ⟨_, hopen, hcall⟩ := bind_eq_ok.mp hcall
  cases pure_eq_ok.mp hcall
  have hsender : sender = T.governor := not_not.mp (revertIf_eq_ok.mp hsender)
  obtain ⟨hready, hused⟩ := not_or.mp (revertIf_eq_ok.mp hopen)
  obtain ⟨at_, op, hid, hlog, htime⟩ := (h id).open hready hused
  refine h.snoc ?_ (fun _ _ => rfl) (fun id hid => Function.update_of_ne hid _ _)
  show Life T id (callsOf T id log ++ [.cancelled sender id]) (s.readyAt id)
    (Function.update s.used id true id)
  rw [hlog, hsender, htime, Function.update_self]
  exact .cancelled hid

/-- The mark stands before the target is called. -/
theorem Logged.execute {op : Operation} {r : List UInt8 × State}
    {call : State → Except (List UInt8) (List UInt8 × State)} (h : Logged T log s)
    (hcall : s.execute T call now op = .ok r) :
    Logged T (log ++ [.executed now op]) (s.use (T.operationId op)) := by
  obtain ⟨_, hopen, -⟩ := bind_eq_ok.mp hcall
  obtain ⟨hready, hopen⟩ := not_or.mp (revertIf_eq_ok.mp hopen)
  obtain ⟨hdue, hused⟩ := not_or.mp hopen
  obtain ⟨at_, op', hid, hlog, htime⟩ := (h (T.operationId op)).open hready hused
  refine h.snoc ?_ (fun _ _ => rfl) (fun id hid => Function.update_of_ne hid _ _)
  show Life T (T.operationId op) (callsOf T (T.operationId op) log ++ [.executed now op])
    (s.readyAt (T.operationId op))
    (Function.update s.used (T.operationId op) true (T.operationId op))
  rw [htime] at hdue
  rw [hlog, htime, Function.update_self]
  exact .executed hid rfl (Nat.not_lt.mp hdue)

/-- Calls and the calls inside of them keep the log and the state together. -/
theorem Calls.logged {calls : List Entry} (h : Calls T now s calls u) :
    ∀ {log : List Entry}, Logged T log s → Logged T (log ++ calls) u := by
  induction h with
  | nil s =>
    intro log hs
    rwa [List.append_nil]
  | schedule hcall _ ih =>
    intro log hs
    simpa using ih (hs.schedule hcall)
  | cancel hcall _ ih =>
    intro log hs
    simpa using ih (hs.cancel hcall)
  | execute hcall _ _ ihinner ih =>
    intro log hs
    simpa using ih (ihinner (hs.execute hcall))

/-- In every run, and whatever the targets call while they are executed: an id is scheduled at most
once and by the governor, and afterwards it is cancelled by the governor or executed, one of them
and once. It is executed the delay after it was scheduled, or later. -/
theorem executed_once_after_delay {as : List (Nat × List Entry)}
    (hrun : Steps (Step T) .initial as s) (id : Bytes32) :
    Life T id (callsOf T id (as.flatMap (·.2))) (s.readyAt id) (s.used id) := by
  refine Steps.history (P := fun as s => Logged T (as.flatMap (·.2)) s) (fun _ => .unknown) ?_
    hrun id
  intro as s a s' _ hlogged hstep
  rw [List.flatMap_append, List.flatMap_singleton]
  exact hstep.logged hlogged

namespace Sample

/-- A timelock of five seconds. -/
def timelock : Timelock := ⟨7, 5, fun op => op.salt, by decide, by decide⟩

/-- An operation for each salt, on the governor. -/
def op (salt : Bytes32) : Operation := ⟨7, 0, [], salt⟩

/-- After `op 1` was scheduled at 10. -/
def waiting : State := ⟨Function.update (fun _ => 0) 1 15, fun _ => false⟩

/-- After its execution at 15, in which the governor scheduled `op 2`. -/
def done : State := { waiting.use 1 with readyAt := Function.update waiting.readyAt 2 20 }

end Sample

/-- The operation ran once, although its target called the timelock. -/
theorem executed_once_after_delay_sample :
    Life Sample.timelock 1 [.scheduled 7 10 (Sample.op 1), .executed 15 (Sample.op 1)] 15 true := by
  have hfirst : Calls Sample.timelock 10 .initial [.scheduled 7 10 (Sample.op 1)] Sample.waiting :=
    .schedule rfl (.nil _)
  have hinner : Calls Sample.timelock 15 (Sample.waiting.use 1) [.scheduled 7 15 (Sample.op 2)]
      Sample.done := .schedule rfl (.nil _)
  have hcall : Sample.waiting.execute Sample.timelock (fun _ => .ok ([], Sample.done)) 15
      (Sample.op 1) = .ok ([], Sample.done) := rfl
  have hsecond := Calls.execute hcall hinner (.nil _)
  have hrun : Steps (Step Sample.timelock) .initial [(10, _), (15, _)] Sample.done :=
    .cons hfirst (.single hsecond)
  exact executed_once_after_delay hrun 1

end Rackline.GovernanceTimelock
