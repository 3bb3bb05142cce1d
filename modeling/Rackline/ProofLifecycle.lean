import Rackline.Lib.RowLock
import Rackline.Lib.Transition

/-!
# `Rackline.ProofLifecycle`: the status of a proof request

`jobs/proof.py` and the trigger `hcg_proof_requests_status_evidence` of the migration.
`ProofLifecycle.apply` moves a proof request by the outcome that a handler has got for it. It reads
the status under a row lock. An `OK` sets the next status in the handler's own transaction. A
failure is recorded in an autonomous one: the handler's transaction is rolled back first, which
drops the lock, and the status that was computed before is written after.

The actions are the statements of any number of handlers, in any interleaving; an exception or a
crash rolls the open transaction back. The evidence tables are an environment: each write sees the
counts that the trigger finds then.
-/

set_option autoImplicit false

namespace Rackline.Proof

open RowLock

/-! ### Kinds, outcomes and statuses -/

/-- `proof_requests.status`, of `ck_proof_requests_status`. -/
inductive Status
  | NOT_REQUESTED
  | OBSERVED
  | WAITING_ATTESTATION
  | PROOF_READY
  | SUBMITTED
  | NATIVE_ACCEPTED
  | CONSUMED
  | INVALID
  | UNSUPPORTED
  | EXPIRED
deriving DecidableEq

/-- `PROOF_JOB_KINDS`. -/
inductive Kind
  | PROOF_WAIT_ATTESTATION
  | PROOF_FETCH_ARTIFACT
  | PROOF_SUBMIT
  | PROOF_CONFIRM
  | EVIDENCE_CONSUME
deriving DecidableEq

inductive Outcome
  | OK
  | NOT_READY
  | NETWORK_ERROR
  | UNSUPPORTED
  | INVALID
  | EXPIRED
deriving DecidableEq

inductive FailureKind
  | TRANSIENT
  | TERMINAL
deriving DecidableEq

/-- `classify`. -/
def classify : Outcome → Option FailureKind
  | .OK => none
  | .NOT_READY | .NETWORK_ERROR => some .TRANSIENT
  | .UNSUPPORTED | .INVALID | .EXPIRED => some .TERMINAL

/-- `_OK_STATUS`. -/
def okStatus : Kind → Status
  | .PROOF_WAIT_ATTESTATION => .WAITING_ATTESTATION
  | .PROOF_FETCH_ARTIFACT => .PROOF_READY
  | .PROOF_SUBMIT => .SUBMITTED
  | .PROOF_CONFIRM => .NATIVE_ACCEPTED
  | .EVIDENCE_CONSUME => .CONSUMED

/-- `_FROM_STATUS`. -/
def fromStatus : Kind → List Status
  | .PROOF_WAIT_ATTESTATION => [.OBSERVED, .WAITING_ATTESTATION]
  | .PROOF_FETCH_ARTIFACT => [.WAITING_ATTESTATION]
  | .PROOF_SUBMIT => [.PROOF_READY]
  | .PROOF_CONFIRM => [.SUBMITTED]
  | .EVIDENCE_CONSUME => [.NATIVE_ACCEPTED]

/-- The statuses that `apply` refuses to move. -/
def Status.terminal : Status → Bool
  | .INVALID | .UNSUPPORTED | .EXPIRED | .CONSUMED => true
  | _ => false

/-- The text of an `Outcome`. -/
def Outcome.value : Outcome → String
  | .OK => "OK"
  | .NOT_READY => "NOT_READY"
  | .NETWORK_ERROR => "NETWORK_ERROR"
  | .UNSUPPORTED => "UNSUPPORTED"
  | .INVALID => "INVALID"
  | .EXPIRED => "EXPIRED"

/-- The status that `apply` records for a failure: `after`, from the status `before` it has read.
An `OK` is not recorded so. -/
def recordedStatus (kind : Kind) (outcome : Outcome) (before : Status) : Status :=
  match outcome with
  | .UNSUPPORTED => .UNSUPPORTED
  | .INVALID => .INVALID
  | .EXPIRED => .EXPIRED
  | .OK | .NOT_READY | .NETWORK_ERROR =>
    if kind = .PROOF_WAIT_ATTESTATION ∧ before = .OBSERVED then .WAITING_ATTESTATION else before

/-! ### The row and its trigger -/

abbrev RequestId : Type := Nat

/-- The columns of `proof_requests` that the lifecycle writes. -/
structure ProofRequest where
  status : Status
  attempt : Nat
  lastError : Option String
deriving DecidableEq

/-- What the trigger counts for the request. -/
structure Evidence where
  artifacts : Nat
  accepted : Nat
  consumed : Nat

/-- `hcg_proof_requests_status_evidence`: the write of `status` is let through. -/
def Evidence.admits (ev : Evidence) (status : Status) : Bool :=
  (status ∈ [.PROOF_READY, .SUBMITTED, .NATIVE_ACCEPTED, .CONSUMED] → ev.artifacts ≠ 0) ∧
    (status ∈ [.NATIVE_ACCEPTED, .CONSUMED] → ev.accepted ≠ 0) ∧
    (status = .CONSUMED → ev.consumed ≠ 0)

/-- The row after an `OK`. -/
def ProofRequest.advanced (r : ProofRequest) (kind : Kind) : ProofRequest :=
  { r with status := okStatus kind, lastError := none, attempt := r.attempt + 1 }

/-- The row after a failure is recorded. -/
def ProofRequest.failed (r : ProofRequest) (kind : Kind) (outcome : Outcome)
    (error : Option String) (before : Status) : ProofRequest where
  status := recordedStatus kind outcome before
  lastError := some (String.ofList ((outcome.value ++ ": " ++ error.getD "").toList.take 2000))
  attempt := r.attempt + 1

/-! ### The handlers -/

/-- The arguments of `apply`. -/
structure Call where
  proofRequestId : RequestId
  kind : Kind
  outcome : Outcome
  error : Option String

/-- How far a handler is in `apply`; `before` is the status it has read. -/
inductive Phase
  | idle
  /-- It has selected the row for update. -/
  | locked (call : Call) (before : Status)
  /-- It has set the status of an `OK`, and its transaction is open. -/
  | advanced (call : Call) (before : Status)
  /-- It has rolled its transaction back, and has a failure to record. -/
  | released (call : Call) (before : Status)
  /-- It has recorded the failure, and its autonomous transaction is open. -/
  | recorded (call : Call) (before : Status)

/-- A handler. Its own transaction and its autonomous one are not open at the same time, so both
go by its name. -/
abbrev HandlerId : Type := Nat

/-- The table, and the handlers in progress. -/
structure Requests where
  rows : Rows HandlerId RequestId (Option ProofRequest)
  phase : HandlerId → Phase

/-- A table without handlers in progress. -/
def Requests.start (table : RequestId → Option ProofRequest) : Requests where
  rows := .settled table
  phase := fun _ => .idle

namespace Requests

variable (s : Requests) (h : HandlerId)

/-- The handler goes on as `phase`. -/
def goOn (phase : Phase) : Requests := { s with phase := Function.update s.phase h phase }

/-- The open transaction of the handler is rolled back, and the handler is at `phase`. -/
def rollback (phase : Phase) : Requests where
  rows := s.rows.rollback h
  phase := Function.update s.phase h phase

/-- The handler writes the row, and goes on as `phase`. -/
def write (id : RequestId) (row : ProofRequest) (phase : Phase) : Requests where
  rows := s.rows.put h id (some row)
  phase := Function.update s.phase h phase

/-- `current_status`: `SELECT status … FOR UPDATE`. A request that is not found is a
`LookupError`. -/
def currentStatus (call : Call) : Option Requests :=
  match s.phase h with
  | .idle =>
    if s.rows.Free h call.proofRequestId then
      match s.rows.version h call.proofRequestId with
      | some row => some (s.write h call.proofRequestId row (.locked call row.status))
      | none => some s
    else none
  | _ => none

/-- The branch of an `OK`. A status that the kind cannot start from, a terminal one, and a write
that the trigger rejects are exceptions. -/
def advance (ev : Evidence) : Option Requests :=
  match s.phase h with
  | .locked call before =>
    if call.outcome = .OK then
      match s.rows.version h call.proofRequestId with
      | some row =>
        if before.terminal = false ∧ before ∈ fromStatus call.kind ∧
            ev.admits (okStatus call.kind) then
          some (s.write h call.proofRequestId (row.advanced call.kind) (.advanced call before))
        else some (s.rollback h .idle)
      | none => some (s.rollback h .idle)
    else none
  | _ => none

/-- The branch of a failure, up to `cx.rollback()`. -/
def release : Option Requests :=
  match s.phase h with
  | .locked call before =>
    if call.outcome ≠ .OK then
      if before.terminal then some (s.rollback h .idle)
      else some (s.rollback h (.released call before))
    else none
  | _ => none

/-- The `UPDATE` of the autonomous transaction. It is not conditional on the status. -/
def record (ev : Evidence) : Option Requests :=
  match s.phase h with
  | .released call before =>
    if s.rows.Free h call.proofRequestId then
      match s.rows.version h call.proofRequestId with
      | some row =>
        if ev.admits (recordedStatus call.kind call.outcome before) then
          some (s.write h call.proofRequestId (row.failed call.kind call.outcome call.error before)
            (.recorded call before))
        else some (s.rollback h .idle)
      | none => some (s.rollback h .idle)
    else none
  | _ => none

/-- The handler's transaction commits after an `OK`, the autonomous one after a failure. -/
def commit : Option Requests :=
  match s.phase h with
  | .advanced _ _ | .recorded _ _ =>
    some ⟨s.rows.commit h, Function.update s.phase h .idle⟩
  | _ => none

end Requests

/-! ### The steps -/

inductive Action
  | currentStatus (h : HandlerId) (call : Call)
  | advance (h : HandlerId) (ev : Evidence)
  | release (h : HandlerId)
  | record (h : HandlerId) (ev : Evidence)
  | commit (h : HandlerId)
  /-- An exception or a crash, at any point. -/
  | rollback (h : HandlerId)

/-- One action, if it can happen. -/
def Requests.step (s : Requests) : Action → Option Requests
  | .currentStatus h call => s.currentStatus h call
  | .advance h ev => s.advance h ev
  | .release h => s.release h
  | .record h ev => s.record h ev
  | .commit h => s.commit h
  | .rollback h => some (s.rollback h .idle)

/-- The actions one after the other. -/
def Requests.run (s : Requests) : List Action → Option Requests
  | [] => some s
  | a :: as => (s.step a).bind fun t => t.run as

/-- The steps of the handlers. -/
def Step (s : Requests) (a : Action) (s' : Requests) : Prop := s.step a = some s'

theorem Requests.run_steps : ∀ {as : List Action} {s s' : Requests}, s.run as = some s' →
    Transition.Steps Step s as s'
  | [], s, s', h => by
    obtain rfl := Option.some.inj h
    exact .nil s
  | a :: as, s, s', h => by
    obtain ⟨t, hstep, hrest⟩ := Option.bind_eq_some_iff.mp h
    exact .cons hstep (run_steps hrest)

end Rackline.Proof
