import Mathlib.Data.List.Sort
import Rackline.Lib.RowLock
import Rackline.Lib.Transition

/-!
# `Rackline.JobQueue`: the job table, its queue and its workers

`jobs/queue.py`, `jobs/worker.py`, and `hcg_lease_job` of the migration. A job is a row of `jobs`.
`claim` leases one, and the pair of the worker and the attempt is the token of the lease: `renew_lease`,
`complete` and `fail` are one `UPDATE` that is fenced by it.

Each method runs in a transaction, its own or that of its caller (`cx`). So the actions here are
the statements of open transactions, in any interleaving, and `begin_`, `commit` and `rollback`.
`now()` is the time at which the transaction began, however long it has been open since. A worker
that crashes makes no further action, and its open transaction is rolled back.

A statement that another transaction blocks is an action that cannot happen yet. A statement that
raises changes nothing: `LeaseLost` leaves the state as it is, and what the caller makes of it is
its next action. The audit row of `resume` is left to `AuditLog`.
-/

set_option autoImplicit false

namespace Rackline.Jobs

open RowLock

/-! ### The table -/

/-- A timestamp, in microseconds. -/
abbrev Time : Type := Int

/-- `make_interval(secs => n)`, for a whole number of seconds. -/
def seconds (n : Int) : Time := n * 1000000

/-- The largest value of an `integer` column. -/
def maxInteger : Nat := 2147483647

/-- A ULID, as the number it encodes: the ids are ordered as the numbers are. -/
abbrev JobId : Type := Nat

/-- A database transaction. -/
abbrev TxId : Type := Nat

/-- `JOB_STATES`. -/
inductive JobState
  | PENDING
  | LEASED
  | SUCCEEDED
  | FAILED
  | DEAD
deriving DecidableEq

/-- A row of `jobs`. -/
structure JobRow where
  kind : String
  semanticIdempotencyKey : String
  payload : String
  state : JobState
  attempt : Nat
  maxAttempts : Nat
  leasedBy : Option String
  leaseUntil : Option Time
  nextRunAt : Time
  lastError : Option String
deriving DecidableEq

/-- What `claim` returns: the job, and the token of the lease. -/
structure ClaimedJob where
  jobId : JobId
  kind : String
  payload : String
  semanticIdempotencyKey : String
  attempt : Nat
  maxAttempts : Nat
  workerId : String
  leaseUntil : Option Time
deriving DecidableEq

/-- The row that `claim` reads after it has won the lease. -/
def JobRow.claimed (row : JobRow) (id : JobId) (worker : String) : ClaimedJob where
  jobId := id
  kind := row.kind
  payload := row.payload
  semanticIdempotencyKey := row.semanticIdempotencyKey
  attempt := row.attempt
  maxAttempts := row.maxAttempts
  workerId := worker
  leaseUntil := row.leaseUntil

/-! ### The statements, on one row -/

/-- `hcg_lease_job`: the row after the lease, if the caller wins it. -/
def hcgLeaseJob (now : Time) (worker : String) (secs : Int) (row : JobRow) : Option JobRow :=
  if (row.state = .PENDING ∨ row.state = .LEASED) ∧ row.attempt < row.maxAttempts ∧
      row.nextRunAt ≤ now ∧ ∀ u ∈ row.leaseUntil, u < now then
    some { row with
      state := .LEASED
      leasedBy := some worker
      leaseUntil := some (now + seconds secs)
      attempt := row.attempt + 1 }
  else none

/-- `_fenced_update`: the row after `set`, if the caller holds exactly this lease. Otherwise no
row is updated and `LeaseLost` is raised. -/
def fencedUpdate (now : Time) (job : ClaimedJob) (set : JobRow → JobRow) (row : JobRow) :
    Option JobRow :=
  if row.state = .LEASED ∧ row.leasedBy = some job.workerId ∧ row.attempt = job.attempt ∧
      ∃ u ∈ row.leaseUntil, now ≤ u then
    some (set row)
  else none

/-- What `renew_lease` sets. -/
def setRenewed (now : Time) (secs : Int) (row : JobRow) : JobRow :=
  { row with leaseUntil := some (now + seconds secs) }

/-- What `complete` sets. -/
def setCompleted (row : JobRow) : JobRow :=
  { row with state := .SUCCEEDED, leaseUntil := none, leasedBy := none, lastError := none }

/-- `FailureKind`. -/
inductive FailureKind
  | TRANSIENT
  | TERMINAL
deriving DecidableEq

/-- The text of a `FailureKind`. -/
def FailureKind.value : FailureKind → String
  | .TRANSIENT => "TRANSIENT"
  | .TERMINAL => "TERMINAL"

/-- The attempts of the claimed job are used up. -/
def ClaimedJob.exhausted (job : ClaimedJob) : Bool := decide (job.maxAttempts ≤ job.attempt)

/-- What `fail` sets: the job is dead-lettered, or scheduled again after the backoff `delay`. -/
def setFailed (now : Time) (job : ClaimedJob) (kind : FailureKind) (reason : String) (delay : Nat)
    (row : JobRow) : JobRow :=
  let reason := String.ofList (reason.toList.take 2000)
  if kind = .TERMINAL ∨ job.exhausted then
    { row with
      state := .DEAD
      leaseUntil := none
      leasedBy := none
      lastError := some (kind.value ++ ": " ++ reason ++
        if job.exhausted ∧ kind = .TRANSIENT then " (attempts exhausted)" else "") }
  else
    { row with
      state := .PENDING
      leaseUntil := none
      leasedBy := none
      lastError := some (kind.value ++ ": " ++ reason)
      nextRunAt := now + delay }

/-- What `resume` sets: a fresh budget on top of the attempts made, which stay. -/
def setResumed (now : Time) (row : JobRow) : JobRow :=
  { row with
    state := .PENDING
    maxAttempts := row.maxAttempts + row.attempt
    leaseUntil := none
    leasedBy := none
    nextRunAt := now }

/-- What `resume` can raise on a job that exists. -/
inductive ResumeError
  /-- "only DEAD jobs can be resumed" -/
  | valueError (state : JobState)
  /-- The new budget does not fit the column. -/
  | integerOutOfRange
deriving DecidableEq

/-- `resume`, on the row it has selected for update. -/
def JobRow.resume (now : Time) (row : JobRow) : Except ResumeError JobRow :=
  if row.state ≠ .DEAD then
    throw (.valueError row.state)
  else if maxInteger < row.maxAttempts + row.attempt then
    throw .integerOutOfRange
  else
    pure (setResumed now row)

/-- `E.Role`, as its values. -/
def roles : List String :=
  ["borrower", "lp", "underwriter", "operator", "keeper", "guardian", "treasury", "system"]

/-- What `resume` asks of its arguments. -/
def resumeRequires (actor actorRole reason : String) : Bool :=
  actor ≠ "" ∧ actorRole ∈ roles ∧ reason.toList.any (!·.isWhitespace)

/-- A row that `enqueue` inserts. -/
def enqueued (now : Time) (kind key payload : String) (maxAttempts : Nat) (runAt : Option Time) :
    JobRow where
  kind := kind
  semanticIdempotencyKey := key
  payload := payload
  state := .PENDING
  attempt := 0
  maxAttempts := maxAttempts
  leasedBy := none
  leaseUntil := none
  nextRunAt := runAt.getD now
  lastError := none

/-- The filter of the `SELECT` in `claim`. -/
def JobRow.runnable (now : Time) (kinds : List String) (jobIds : Option (List JobId)) (id : JobId)
    (row : JobRow) : Bool :=
  (row.state = .PENDING ∨ row.state = .LEASED) ∧ row.kind ∈ kinds ∧ (∀ ids ∈ jobIds, id ∈ ids) ∧
    row.nextRunAt ≤ now ∧ row.attempt < row.maxAttempts ∧ ∀ u ∈ row.leaseUntil, u < now

/-- The `SELECT` in `claim`: the runnable jobs, the longest due first, at most `n`. -/
def candidates (now : Time) (kinds : List String) (jobIds : Option (List JobId)) (n : Nat)
    (table : List (JobId × JobRow)) : List JobId :=
  (((table.filter fun p => p.2.runnable now kinds jobIds p.1).mergeSort fun p q =>
    p.2.nextRunAt < q.2.nextRunAt || (p.2.nextRunAt = q.2.nextRunAt && p.1 ≤ q.1)).map
      Prod.fst).take n

/-! ### The open transactions -/

/-- The arguments of a `claim`. -/
structure ClaimRequest where
  workerId : String
  kinds : List String
  leaseSeconds : Int
  candidates : Nat
  jobIds : Option (List JobId)

/-- Whose transaction it is. -/
inductive Role
  /-- The transaction of one method, or one that is passed on as `cx`. -/
  | caller
  /-- `claim`: the candidates that are left of its loop, and the job once it is won. -/
  | claim (request : ClaimRequest) (left : Option (List JobId)) (won : Option ClaimedJob)
  /-- `Worker.run_one`: the handler of the job, and then `complete`. -/
  | handler (job : ClaimedJob) (completed : Bool)

/-- An open transaction. -/
structure Session where
  /-- `now()` in this transaction. -/
  now : Time
  role : Role
  /-- The leases under which it has updated a row. -/
  used : List ClaimedJob

/-- The transaction is not that of a `claim`. -/
def Session.takes (x : Session) : Bool :=
  match x.role with
  | .claim .. => false
  | _ => true

/-- The job that the worker of a `claim` gets, when the transaction commits. -/
def Session.claimed (x : Session) : List ClaimedJob :=
  match x.role with
  | .claim _ _ (some job) => [job]
  | _ => []

/-- The job whose handler ran in the transaction. -/
def Session.handled (x : Session) : List ClaimedJob :=
  match x.role with
  | .handler job _ => [job]
  | _ => []

/-- `run_one` leaves its transaction by the commit only after `complete`. -/
def Session.mayCommit (x : Session) : Bool :=
  match x.role with
  | .handler _ completed => completed
  | _ => true

/-- The transaction after an update under the lease `job`. -/
def Session.use (x : Session) (job : ClaimedJob) (completes : Bool) : Session where
  now := x.now
  role :=
    match x.role with
    | .handler own completed => .handler own (completed || (completes && decide (own = job)))
    | role => role
  used := job :: x.used

/-- The database, its open transactions, and what has been handed to the workers. -/
structure Queue where
  now : Time
  /-- The ids that have been inserted, also by a transaction that has not committed. -/
  ids : List JobId
  rows : Rows TxId JobId (Option JobRow)
  sessions : TxId → Option Session
  /-- The leases that the workers have got, by a committed `claim`. -/
  issued : List ClaimedJob
  /-- The jobs of the committed handler transactions. -/
  effects : List ClaimedJob

/-- An empty table. -/
def Queue.start (now : Time) : Queue where
  now := now
  ids := []
  rows := .settled fun _ => none
  sessions := fun _ => none
  issued := []
  effects := []

namespace Queue

/-- The rows that a statement of `x` sees. -/
def table (s : Queue) (x : TxId) : List (JobId × JobRow) :=
  s.ids.filterMap fun id => (s.rows.version x id).map (id, ·)

/-- `x` writes the row of `id`, and goes on as `ses`. -/
def write (s : Queue) (x : TxId) (ses : Session) (id : JobId) (row : JobRow) : Queue :=
  { s with
    rows := s.rows.put x id (some row)
    sessions := Function.update s.sessions x (some ses) }

/-- `x` goes on as `ses`. -/
def goOn (s : Queue) (x : TxId) (ses : Session) : Queue :=
  { s with sessions := Function.update s.sessions x (some ses) }

/-- `x` begins, as `role`. -/
def open_ (s : Queue) (x : TxId) (role : Role) : Option Queue :=
  match s.sessions x with
  | none => some (s.goOn x ⟨s.now, role, []⟩)
  | some _ => none

/-- The `SELECT` of `claim`. -/
def select (s : Queue) (x : TxId) : Option Queue := do
  let ses ← s.sessions x
  match ses.role with
  | .claim r none none =>
    let left := candidates ses.now r.kinds r.jobIds r.candidates (s.table x)
    return s.goOn x { ses with role := .claim r (some left) none }
  | _ => none

/-- One `hcg_lease_job` of the loop in `claim`. A candidate that is not won is passed over. -/
def lease (s : Queue) (x : TxId) : Option Queue := do
  let ses ← s.sessions x
  match ses.role with
  | .claim r (some (id :: left)) none =>
    match (s.rows.version x id).bind (hcgLeaseJob ses.now r.workerId r.leaseSeconds) with
    | some row =>
      if s.rows.Free x id then
        let won := row.claimed id r.workerId
        return s.write x { ses with role := .claim r (some left) (some won) } id row
      else none
    | none => return s.goOn x { ses with role := .claim r (some left) none }
  | _ => none

/-- A statement fenced by the lease `job`. The row is checked before the statement waits for
it, and the statement changes nothing if the lease is lost. -/
def fenced (s : Queue) (x : TxId) (job : ClaimedJob) (completes : Bool)
    (set : Time → JobRow → JobRow) : Option Queue := do
  let ses ← s.sessions x
  if ses.takes ∧ job ∈ s.issued then
    match (s.rows.version x job.jobId).bind (fencedUpdate ses.now job (set ses.now)) with
    | some row =>
      if s.rows.Free x job.jobId then
        return s.write x (ses.use job completes) job.jobId row
      else none
    | none => return s
  else none

/-- `resume`. `SELECT … FOR UPDATE` locks the row also when the job is not resumed. -/
def resume (s : Queue) (x : TxId) (id : JobId) (actor actorRole reason : String) :
    Option Queue := do
  let ses ← s.sessions x
  if ses.takes ∧ s.rows.Free x id then
    if resumeRequires actor actorRole reason then
      match s.rows.version x id with
      | some row =>
        match row.resume ses.now with
        | .ok row' => return s.write x ses id row'
        | .error _ => return s.write x ses id row
      | none => return s
    else return s
  else none

/-- `enqueue`, with the fresh `id`. A job with the same key wins over the new one; if its insert
is not committed yet, the statement waits for it. -/
def enqueue (s : Queue) (x : TxId) (id : JobId) (kind key payload : String) (maxAttempts : Nat)
    (runAt : Option Time) : Option Queue := do
  let ses ← s.sessions x
  if ses.takes ∧ id ∉ s.ids ∧ key ≠ "" then
    if 1 ≤ maxAttempts ∧ maxAttempts ≤ maxInteger then
      if ∃ p ∈ s.table x, p.2.semanticIdempotencyKey = key then
        return s
      else if ∃ j ∈ s.ids, ∃ h ∈ s.rows.held j,
          h.holder ≠ x ∧ ∃ row ∈ h.version, row.semanticIdempotencyKey = key then
        none
      else
        let row := enqueued ses.now kind key payload maxAttempts runAt
        return { s.write x ses id row with ids := id :: s.ids }
    else return s
  else none

/-- The end of a transaction that commits. -/
def commit (s : Queue) (x : TxId) : Option Queue := do
  let ses ← s.sessions x
  if ses.mayCommit then
    return { s with
      rows := s.rows.commit x
      sessions := Function.update s.sessions x none
      issued := s.issued ++ ses.claimed
      effects := s.effects ++ ses.handled }
  else none

/-- The end of a transaction that is rolled back, by an exception or a crash. -/
def rollback (s : Queue) (x : TxId) : Option Queue := do
  let _ ← s.sessions x
  return { s with
    rows := s.rows.rollback x
    sessions := Function.update s.sessions x none }

end Queue

/-! ### The steps -/

/-- The actions. The backoff of `fail` is random, so it is a parameter of the action. -/
inductive Action
  | tick (now : Time)
  | begin_ (x : TxId)
  | enqueue (x : TxId) (id : JobId) (kind key payload : String) (maxAttempts : Nat)
      (runAt : Option Time)
  /-- `claim` enters its transaction. -/
  | claim (x : TxId) (request : ClaimRequest)
  | select (x : TxId)
  | lease (x : TxId)
  | renewLease (x : TxId) (job : ClaimedJob) (leaseSeconds : Int)
  /-- `run_one` enters its transaction. -/
  | runOne (x : TxId) (job : ClaimedJob)
  | complete (x : TxId) (job : ClaimedJob)
  | fail (x : TxId) (job : ClaimedJob) (kind : FailureKind) (reason : String) (delay : Nat)
  | resume (x : TxId) (id : JobId) (actor actorRole reason : String)
  | commit (x : TxId)
  | rollback (x : TxId)

/-- One action, if it can happen. -/
def Queue.step (s : Queue) : Action → Option Queue
  | .tick now => if s.now ≤ now then some { s with now := now } else none
  | .begin_ x => s.open_ x .caller
  | .enqueue x id kind key payload maxAttempts runAt =>
    s.enqueue x id kind key payload maxAttempts runAt
  | .claim x r =>
    if r.kinds ≠ [] ∧ r.jobIds ≠ some [] then s.open_ x (.claim r none none) else none
  | .select x => s.select x
  | .lease x => s.lease x
  | .renewLease x job secs => s.fenced x job false fun now => setRenewed now secs
  | .runOne x job => if job ∈ s.issued then s.open_ x (.handler job false) else none
  | .complete x job => s.fenced x job true fun _ => setCompleted
  | .fail x job kind reason delay => s.fenced x job false fun now => setFailed now job kind reason delay
  | .resume x id actor actorRole reason => s.resume x id actor actorRole reason
  | .commit x => s.commit x
  | .rollback x => s.rollback x

/-- The actions one after the other. -/
def Queue.run (s : Queue) : List Action → Option Queue
  | [] => some s
  | a :: as => (s.step a).bind fun t => t.run as

/-- The steps of the queue. -/
def Step (s : Queue) (a : Action) (s' : Queue) : Prop := s.step a = some s'

theorem Queue.run_steps : ∀ {as : List Action} {s s' : Queue}, s.run as = some s' →
    Transition.Steps Step s as s'
  | [], s, s', h => by
    obtain rfl := Option.some.inj h
    exact .nil s
  | a :: as, s, s', h => by
    obtain ⟨t, hstep, hrest⟩ := Option.bind_eq_some_iff.mp h
    exact .cons hstep (run_steps hrest)

/-- The lease under which a worker makes a statement. -/
def Action.token : Action → Option ClaimedJob
  | .renewLease _ job _ => some job
  | .complete _ job => some job
  | .fail _ job _ _ _ => some job
  | _ => none

end Rackline.Jobs
