import Rackline.Types

/-!
# `Rackline.GovernanceTimelock`: operations that wait

`GovernanceTimelock.sol`. The governor schedules an operation, and may cancel it; anyone executes it
once the delay is over. `keccak256` of the chain, the contract and the operation is the parameter
`operationId`.

`execute` hands control to the target, which may call the timelock again. `Calls` are therefore
nested: what is called before the target returns stands inside of the `execute`. A call that reverts
leaves nothing, and nothing of what its target did.
-/

set_option autoImplicit false

namespace Rackline.GovernanceTimelock

open Evm

/-- The errors. -/
inductive Err
  | notGovernor | invalidOperation | notReady | panic
  | executionFailed (reason : List UInt8)
deriving DecidableEq

instance : Panics Err := ⟨.panic⟩

/-- The arguments of `schedule` and `execute`. -/
structure Operation where
  target : Address
  value : Fin (2 ^ 256)
  data : List UInt8
  salt : Bytes32

/-- The immutables, as the constructor asks for them, and `operationId`. -/
structure Timelock where
  governor : Address
  delay : Nat
  operationId : Operation → Bytes32
  governor_ne : governor ≠ 0
  delay_ne : delay ≠ 0

/-- The storage. -/
structure State where
  readyAt : Bytes32 → Nat
  used : Bytes32 → Bool

namespace State

/-- A timelock that was just deployed. -/
def initial : State := ⟨fun _ => 0, fun _ => false⟩

variable (T : Timelock) (s : State)

/-- `schedule`. -/
def schedule (sender : Address) (now : Nat) (op : Operation) : Except Err State := do
  revertIf (sender ≠ T.governor) .notGovernor
  let id := T.operationId op
  revertIf (op.target = 0 ∨ s.used id = true ∨ s.readyAt id ≠ 0) .invalidOperation
  let ready ← addW 64 now T.delay
  return { s with readyAt := Function.update s.readyAt id ready }

/-- `used[id] = true`. -/
def use (id : Bytes32) : State := { s with used := Function.update s.used id true }

/-- `cancel`. -/
def cancel (sender : Address) (id : Bytes32) : Except Err State := do
  revertIf (sender ≠ T.governor) .notGovernor
  revertIf (s.readyAt id = 0 ∨ s.used id = true) .invalidOperation
  return s.use id

/-- `execute`. The target is `call`: it fails with a reason, or it returns bytes and leaves a state
behind. -/
def execute (call : State → Except (List UInt8) (List UInt8 × State)) (now : Nat)
    (op : Operation) : Except Err (List UInt8 × State) := do
  let id := T.operationId op
  revertIf (s.readyAt id = 0 ∨ now < s.readyAt id ∨ s.used id = true) .notReady
  (call (s.use id)).mapError .executionFailed

end State

/-- A call that returned. -/
inductive Entry
  | scheduled (sender : Address) (now : Nat) (op : Operation)
  | cancelled (sender : Address) (id : Bytes32)
  | executed (now : Nat) (op : Operation)

/-- The operation that a call is about. -/
def Entry.id (T : Timelock) : Entry → Bytes32
  | .scheduled _ _ op => T.operationId op
  | .cancelled _ id => id
  | .executed _ op => T.operationId op

/-- The calls that are made at `now` and return, in the order in which they begin. -/
inductive Calls (T : Timelock) (now : Nat) : State → List Entry → State → Prop
  | nil (s : State) : Calls T now s [] s
  | schedule {s t u : State} {sender : Address} {op : Operation} {log : List Entry} :
      s.schedule T sender now op = .ok t → Calls T now t log u →
      Calls T now s (.scheduled sender now op :: log) u
  | cancel {s t u : State} {sender : Address} {id : Bytes32} {log : List Entry} :
      s.cancel T sender id = .ok t → Calls T now t log u →
      Calls T now s (.cancelled sender id :: log) u
  | execute {s t u : State} {op : Operation} {inner log : List Entry} {result : List UInt8}
      {call : State → Except (List UInt8) (List UInt8 × State)} :
      s.execute T call now op = .ok (result, t) →
      Calls T now (s.use (T.operationId op)) inner t → Calls T now t log u →
      Calls T now s (.executed now op :: (inner ++ log)) u

/-- A transaction: its time, and the calls that are made. -/
def Step (T : Timelock) (s : State) (a : Nat × List Entry) (s' : State) : Prop :=
  Calls T a.1 s a.2 s'

end Rackline.GovernanceTimelock
