import Rackline.CashReconciliation

/-!
# `Rackline.SettlementLegs`: legs from a source settlement to the destination

`settlement/legs.py`. A leg moves a part of what a settlement paid at the source over a rail to the
destination. `enqueue` plans it: it checks the quote, the evidence of the payout and what other legs
have reserved, and writes the plan with the job. `handle` runs the job: it asks the rail for the
request of the leg, sends it when there is none, and follows it until the cash is received and
allocated.

`LegStep` lets any number of workers overlap. The transaction of a job lasts from the reading of the
acknowledgement to the end and is written at the end; the acknowledgement and the receipt are put by
transactions of their own, one step each. A worker can be lost between any two steps, a job can run
any number of times and twice at once, and leases are left out. What the rail knows is not in the
database and is not rolled back. Prices are those of the quote, and a time is a number of seconds.
-/

set_option autoImplicit false

namespace Rackline.Legs

open Evm Cash

/-! ### Bindings, quotes and evidence -/

/-- The `status` of a rail. -/
inductive RailStatus
  | APPROVED | TEST_ONLY
  | other (status : String)
deriving DecidableEq

/-- The `partner_binding` of a rail. -/
inductive PartnerBinding
  | LIVE_VERIFIED
  | other (binding : String)
deriving DecidableEq

/-- `RailBinding`. -/
structure RailBinding where
  railId : String
  executionProfile : ExecutionProfile
  status : RailStatus
  partnerBinding : PartnerBinding
  sourceAsset : LedgerAsset
  destinationAsset : LedgerAsset
  destinationReceiver : HexString
  vaultId : String
  sourceCap : Int
  maxFeeDestination : Int
  maxSlippageBps : Int
  approvalRef : String
  refundAddress : HexString
deriving DecidableEq

/-- `Quote`. -/
structure Quote where
  legId : String
  settlementId : String
  railId : String
  sourceAmount : Int
  expectedDestination : Int
  minimumDestination : Int
  feeDestination : Int
  expiresAt : Int
  destinationReceiver : HexString
  refundAddress : HexString
deriving DecidableEq

/-- `asdict(quote)`. -/
def Quote.payload (quote : Quote) : List (String × PayloadValue) :=
  [("leg_id", .str quote.legId), ("settlement_id", .str quote.settlementId),
    ("rail_id", .str quote.railId), ("source_amount", .int quote.sourceAmount),
    ("expected_destination", .int quote.expectedDestination),
    ("minimum_destination", .int quote.minimumDestination),
    ("fee_destination", .int quote.feeDestination), ("expires_at", .int quote.expiresAt),
    ("destination_receiver", .str (String.ofList quote.destinationReceiver)),
    ("refund_address", .str (String.ofList quote.refundAddress))]

/-- `validate_quote`. -/
def validateQuote (quote : Quote) (binding : RailBinding) (now : Int) : Except LedgerError Unit := do
  revertIf (binding.approvalRef = "" ∨ binding.status ∉ [.APPROVED, .TEST_ONLY])
    (.valueError "settlement rail is not approved")
  revertIf (binding.executionProfile = .production ∧
      (binding.status ≠ .APPROVED ∨ binding.partnerBinding ≠ .LIVE_VERIFIED))
    (.valueError "production settlement requires a verified live rail")
  revertIf (quote.railId ≠ binding.railId ∨
      quote.destinationReceiver ≠ binding.destinationReceiver ∨
      quote.refundAddress ≠ binding.refundAddress)
    (.valueError "quote destination/refund route mismatch")
  revertIf (quote.sourceAmount < 0 ∨ quote.expectedDestination < 0 ∨ quote.minimumDestination < 0 ∨
      quote.feeDestination < 0 ∨ quote.expiresAt < 0)
    (.valueError "quote uses nonnegative exact integer units")
  revertIf (¬(0 ≤ binding.maxSlippageBps ∧ binding.maxSlippageBps ≤ 10000) ∨ quote.expiresAt ≤ now)
    (.valueError "expired quote or invalid slippage policy")
  revertIf (¬(0 < quote.sourceAmount ∧ quote.sourceAmount ≤ binding.sourceCap))
    (.valueError "source leg cap exceeded")
  revertIf (binding.maxFeeDestination < quote.feeDestination)
    (.valueError "settlement fee cap exceeded")
  revertIf (¬(0 < quote.minimumDestination ∧ quote.minimumDestination ≤ quote.expectedDestination))
    (.valueError "invalid minimum destination amount")
  revertIf (quote.minimumDestination * 10000 <
      quote.expectedDestination * (10000 - binding.maxSlippageBps))
    (.valueError "minimum destination violates slippage bound")

/-- `EVIDENCE_MEANINGS`. -/
inductive EvidenceMeaning
  | OBLIGATION_RECOGNIZED | ASSIGNMENT_RECOGNIZED | CORRECTION | PAYOUT | PAYMENT_CANCELLED
  | CHECKPOINT
deriving DecidableEq

/-- `E.Trust`. -/
inductive EvidenceTrust
  | PROVEN | ASSERTED | OBSERVED | CLAIMED
deriving DecidableEq

/-- `VERIFICATION_STATUSES`. -/
inductive VerificationStatus
  | SUBMITTED | ACCEPTED | REJECTED | ORPHANED
deriving DecidableEq

/-- A row of `evidence_consumptions`. -/
structure EvidenceConsumption where
  consumptionId : String
  nativeVerificationId : String
  providerAccountId : String
  meaning : EvidenceMeaning
  trust : EvidenceTrust
  verificationMethod : VerificationMethod
deriving DecidableEq

/-- A row of `native_verifications`. -/
structure NativeVerification where
  nativeVerificationId : String
  status : VerificationStatus
deriving DecidableEq

/-- A `SETTLEMENT_LEG` row of `jobs`. -/
structure LegJob where
  semanticKey : String
  payload : Quote
deriving DecidableEq

/-- The tables. -/
structure LegDb where
  cash : CashDb
  consumptions : List EvidenceConsumption
  verifications : List NativeVerification
  jobs : List LegJob
deriving DecidableEq

/-- `SettlementLegExecutor`: its rail, and what its adapter says of itself. -/
structure Executor where
  binding : RailBinding
  isMock : Bool
  idempotentRequests : Bool
deriving DecidableEq

/-- A leg of a rail, as the keys name it. -/
def legName (railId legId : String) : String := railId ++ ":" ++ legId

/-- The key of the plan of a leg. -/
def planKey (railId legId : String) : String := "settlement-plan:" ++ legName railId legId

/-- The key of the acknowledgement of a leg. -/
def ackKey (railId legId : String) : String := "settlement-ack:" ++ legName railId legId

/-- The key of the job of a leg. -/
def jobKey (railId legId : String) : String := "settlement-leg:" ++ legName railId legId

/-! ### Events -/

/-- An event of a settlement. -/
def settlementEvent (settlementId eventType key : String) (payload : List (String × PayloadValue)) :
    OutboxEvent where
  aggregateType := "settlement"
  aggregateId := settlementId
  eventType := eventType
  idempotencyKey := key
  payload := payload

/-- The plan of a leg. -/
def planEvent (railId : String) (quote : Quote) : OutboxEvent :=
  settlementEvent quote.settlementId "SETTLEMENT_LEG_PLANNED" (planKey railId quote.legId)
    quote.payload

/-- The rail has the request of the leg. -/
def ackEvent (railId : String) (quote : Quote) (reference : String) : OutboxEvent :=
  settlementEvent quote.settlementId "SETTLEMENT_LEG_ACKNOWLEDGED" (ackKey railId quote.legId)
    [("reference", .str reference), ("legId", .str quote.legId), ("cashState", .str "IN_FLIGHT"),
      ("debtApplied", .bool false)]

/-- The rail sent the source amount back. -/
def refundEvent (railId : String) (quote : Quote) (reference : String) : OutboxEvent :=
  settlementEvent quote.settlementId "SETTLEMENT_LEG_REFUNDED"
    ("settlement-refund:" ++ legName railId quote.legId)
    [("reference", .str reference), ("refundAddress", .str (String.ofList quote.refundAddress)),
      ("debtApplied", .bool false)]

/-- Less cash arrived than the quote allows. -/
def breachEvent (railId : String) (quote : Quote) (amount : Int) : OutboxEvent :=
  settlementEvent quote.settlementId "SETTLEMENT_LEG_SLIPPAGE_BREACH"
    ("settlement-slippage:" ++ legName railId quote.legId)
    [("actualDestination", .str (toString amount)),
      ("minimumDestination", .str (toString quote.minimumDestination)),
      ("requiresReview", .bool true)]

/-- The cash of the leg is allocated. -/
def allocatedEvent (railId : String) (quote : Quote) (reference allocationId : String) : OutboxEvent :=
  settlementEvent quote.settlementId "SETTLEMENT_LEG_ALLOCATED"
    ("settlement-allocated:" ++ legName railId quote.legId)
    [("reference", .str reference), ("allocationId", .str allocationId),
      ("cashState", .str "ALLOCATED")]

namespace LegDb

variable (db : LegDb)

/-- Put an event. -/
def emit (event : OutboxEvent) : LegDb :=
  { db with cash := { db.cash with outbox := Rackline.emit db.cash.outbox event } }

/-- The event with a key. -/
def event (key : String) : Option OutboxEvent :=
  db.cash.outbox.find? fun r => r.idempotencyKey == key

/-- The plans of a settlement. -/
def plans (settlementId : String) : List OutboxEvent :=
  db.cash.outbox.filter fun r => r.aggregateType == "settlement" && r.aggregateId == settlementId &&
    r.eventType == "SETTLEMENT_LEG_PLANNED"

end LegDb

/-- `int(row.payload["source_amount"])`. -/
def plannedAmount (row : OutboxEvent) : Int :=
  match row.payload.lookup "source_amount" with
  | some (.int n) => n
  | _ => 0

/-- `ack.payload["reference"]`. -/
def ackReference (row : OutboxEvent) : String :=
  match row.payload.lookup "reference" with
  | some (.str s) => s
  | _ => ""

namespace LegDb

variable (db : LegDb)

/-- What the plans of a settlement have reserved. -/
def reserved (settlementId : String) : Int := ((db.plans settlementId).map plannedAmount).sum

/-! ### `enqueue` -/

/-- The settlement is paid at the source, with native evidence of its payout. -/
def provenPayout (binding : RailBinding) (settlement : Settlement) : Prop :=
  settlement.executionProfile = binding.executionProfile ∧
    settlement.state ∉ [.ANNOUNCED, .REVERSED] ∧
    settlement.asset.key = binding.sourceAsset.key ∧
    ∃ consumptionId ∈ settlement.payoutConsumptionId,
      ∃ evidence ∈ db.consumptions.find? fun c => c.consumptionId == consumptionId,
        evidence.meaning = .PAYOUT ∧ evidence.trust = .PROVEN ∧
          evidence.providerAccountId = settlement.providerAccountId ∧
          (∃ verified ∈ db.verifications.find? fun v =>
              v.nativeVerificationId == evidence.nativeVerificationId,
            verified.status = .ACCEPTED) ∧
          (binding.executionProfile = .localMock ∨ evidence.verificationMethod = .attestcoinNative)

instance (binding : RailBinding) (settlement : Settlement) :
    Decidable (db.provenPayout binding settlement) := by
  unfold provenPayout
  infer_instance

/-- `enqueue` up to its writes, under the lock of the settlement: whether the plan is new. -/
def accept (e : Executor) (quote : Quote) (now : Int) : Except LedgerError Bool := do
  validateQuote quote e.binding now
  revertIf (e.isMock = true ∧ e.binding.executionProfile = .production)
    (.valueError "mock settlement adapter cannot run in production")
  revertIf (e.idempotentRequests = false)
    (.valueError "durable settlement requires an idempotent external interface")
  match db.cash.settlement quote.settlementId with
  | none => .error (.valueError "source settlement requires matching native payout evidence")
  | some settlement => do
    revertIf (¬db.provenPayout e.binding settlement)
      (.valueError "source settlement requires matching native payout evidence")
    match db.event (planKey e.binding.railId quote.legId) with
    | some prior => do
      revertIf (prior.payload ≠ quote.payload) (.valueError "legId already bound to another quote")
      return false
    | none => do
      revertIf (settlement.sourceAmount < db.reserved quote.settlementId + quote.sourceAmount)
        (.valueError "settlement legs exceed source receipt")
      return true

/-- The writes of `enqueue`: the plan when it is new, and the job. -/
def plan (railId : String) (quote : Quote) (fresh : Bool) : LegDb :=
  let db := if fresh = true then db.emit (planEvent railId quote) else db
  if db.jobs.any fun j => j.semanticKey == jobKey railId quote.legId then db
  else { db with jobs := db.jobs ++ [{ semanticKey := jobKey railId quote.legId, payload := quote }] }

/-- `enqueue`. -/
def enqueue (e : Executor) (quote : Quote) (now : Int) : Except LedgerError LegDb := do
  let fresh ← db.accept e quote now
  return db.plan e.binding.railId quote fresh

/-- The writes of an `enqueue` inside a job, when there was one. -/
def planned (railId : String) (quote : Quote) (plan : Option Bool) : LegDb :=
  match plan with
  | none => db
  | some fresh => db.plan railId quote fresh

end LegDb

/-! ### `handle` -/

/-- What a job can raise. -/
inductive HandlerError
  | terminal (message : String)
  | transient (message : String)
  | ledger (error : LedgerError)

/-- The `state` of an observation. -/
inductive ObservedState
  | PENDING | SOURCE_SENT | IN_FLIGHT | REFUNDED | DESTINATION_RECEIVED
  | other (state : String)
deriving DecidableEq

/-- `LegObservation`. -/
structure LegObservation where
  state : ObservedState
  reference : String
  receiptReference : Option String

/-- How far a job is. A job that ran `enqueue` itself keeps what is to be written for it. -/
inductive Stage
  /-- The leg has no acknowledgement. -/
  | unsent
  /-- The rail knows no request, and the plan was checked again. -/
  | admitted (fresh : Bool)
  /-- The rail told the reference of the request. -/
  | referred (reference : String) (plan : Option Bool)
  /-- The acknowledgement is there. -/
  | acknowledged (reference : String) (plan : Option Bool)
  /-- The cash receipt is there. -/
  | received (reference receiptReference : String) (plan : Option Bool)

/-- What is to be written for the `enqueue` of the job. -/
def Stage.plan : Stage → Option Bool
  | unsent => none
  | admitted fresh => some fresh
  | referred _ plan => plan
  | acknowledged _ plan => plan
  | received _ _ plan => plan

/-- `DestinationRoute` of a rail. -/
def RailBinding.route (binding : RailBinding) : DestinationRoute where
  vaultId := binding.vaultId
  receiverAddress := binding.destinationReceiver
  asset := binding.destinationAsset
  executionProfile := binding.executionProfile

/-- A reference that the adapter gave. -/
def knownReference (reference : String) (plan : Option Bool) : Except HandlerError Stage :=
  if reference = "" then .error (.transient "settlement submission outcome unknown")
  else .ok (.referred reference plan)

/-- What an observation of a request says. -/
inductive Observed
  | refunded
  | received (receiptReference : String)

/-- The checks of an observation. -/
def observed (reference : String) (observation : LegObservation) : Except HandlerError Observed :=
  if observation.reference ≠ reference then
    .error (.terminal "settlement observation reference mismatch")
  else if observation.state ∈ [.PENDING, .SOURCE_SENT, .IN_FLIGHT] then
    .error (.transient "destination receipt pending; source send is not repayment")
  else if observation.state = .REFUNDED then .ok .refunded
  else
    match observation.receiptReference with
    | none => .error (.transient "settlement outcome unresolved")
    | some receiptReference =>
      if observation.state ≠ .DESTINATION_RECEIVED ∨ receiptReference = "" then
        .error (.transient "settlement outcome unresolved")
      else .ok (.received receiptReference)

/-- The checks of the fact that the reader gives for the receipt. -/
def ownFact (quote : Quote) (fact : Option ReceiptFact) : Except HandlerError ReceiptFact :=
  match fact with
  | none => .error (.transient "destination receipt not yet indexed")
  | some fact =>
    if fact.sourceKind ≠ .SETTLEMENT ∨ fact.settlementId ≠ some quote.settlementId then
      .error (.terminal "destination receipt does not belong to this settlement")
    else .ok fact

namespace LegDb

variable (db : LegDb)

/-- `handle` up to the first question to the rail. -/
def begin (e : Executor) (quote : Quote) : Except HandlerError Stage :=
  match db.cash.settlement quote.settlementId with
  | none => .error (.terminal "unknown source settlement")
  | some _ =>
    match db.event (ackKey e.binding.railId quote.legId) with
    | some ack => .ok (.acknowledged (ackReference ack) none)
    | none => .ok .unsent

/-- The `enqueue` inside a job. -/
def reaccept (e : Executor) (quote : Quote) (now : Int) : Except HandlerError Stage :=
  match db.accept e quote now with
  | .ok fresh => .ok (.admitted fresh)
  | .error (.valueError message) => .error (.terminal message)
  | .error error => .error (.ledger error)

/-- The transaction that records the receipt: `fact` was read before it, `again` is what the reader
says inside it. -/
def receive (e : Executor) (quote : Quote) (receiptReference : String) (fact : ReceiptFact)
    (again : Option ReceiptFact) : Except LedgerError (ReconciliationResult × LegDb) := do
  let reader : CashEvidenceReader := { receipt := fun _ => again, allocation := fun _ => none }
  let (result, cash) ←
    db.cash.recordDestinationReceipt receiptReference e.binding.route (some reader)
  let db := { db with cash := cash }
  if result.entityId.isSome = true ∧ fact.amount < quote.minimumDestination then
    let cases := exception cash.exceptions "SETTLEMENT_MINIMUM_BREACH" "settlements"
      quote.settlementId []
    let db := { db with cash := { cash with exceptions := cases } }
    return (result, db.emit (breachEvent e.binding.railId quote fact.amount))
  else return (result, db)

/-- The end of a job: the allocation, and the event of it. -/
def allocate (e : Executor) (quote : Quote) (reference receiptReference : String)
    (reader : CashEvidenceReader) : Except HandlerError LegDb :=
  match db.cash.recordConfirmedAllocation receiptReference (some reader) with
  | .error error => .error (.ledger error)
  | .ok (allocated, cash) =>
    match allocated.entityId with
    | none => .error (.transient (allocated.reason.getD "destination allocation pending"))
    | some allocationId => .ok (({ db with cash := cash } : LegDb).emit
        (allocatedEvent e.binding.railId quote reference allocationId))

end LegDb

/-! ### Workers that overlap -/

/-- A transaction that is open: an `enqueue` that has checked its quote, or a job. -/
inductive LegCall
  | enqueue (e : Executor) (quote : Quote) (fresh : Bool)
  | handle (e : Executor) (quote : Quote) (stage : Stage)

/-- The transaction holds the advisory lock of the settlement. -/
def LegCall.HoldsLock : LegCall → String → Prop
  | enqueue _ quote _, id => quote.settlementId = id
  | handle _ quote stage, id => stage.plan.isSome = true ∧ quote.settlementId = id

/-- The tables, the open transactions, and the requests that each rail has, with their references by
the idempotency key. -/
structure LegRun where
  db : LegDb
  calls : Nat → Option LegCall
  requests : String → List (String × String)

namespace LegRun

/-- Tables with settlements and no legs. -/
def initial (db : LegDb) : LegRun where
  db := { db with
    cash := { db.cash with receipts := [], allocations := [], outbox := [] }
    jobs := [] }
  calls := fun _ => none
  requests := fun _ => []

/-- No transaction holds the lock of the settlement. -/
def LockFree (s : LegRun) (id : String) : Prop := ∀ t c, s.calls t = some c → ¬c.HoldsLock id

/-- `lookup`. -/
def lookup (s : LegRun) (railId key : String) : Option String := (s.requests railId).lookup key

/-- `send`: a key that the rail has makes no new request and keeps its reference. -/
def send (s : LegRun) (railId key reference : String) : LegRun :=
  match s.lookup railId key with
  | some _ => s
  | none => { s with
      requests := Function.update s.requests railId (s.requests railId ++ [(key, reference)]) }

/-- Put a transaction. -/
def setCall (s : LegRun) (t : Nat) (c : Option LegCall) : LegRun :=
  { s with calls := Function.update s.calls t c }

end LegRun

/-- What can happen next. -/
inductive LegAction
  /-- `enqueue` takes its lock and checks the quote. -/
  | readEnqueue (t : Nat) (e : Executor) (quote : Quote) (now : Int)
  /-- `enqueue` writes and commits. -/
  | commitEnqueue (t : Nat)
  /-- A worker starts a job. -/
  | start (t : Nat) (e : Executor) (job : LegJob)
  /-- `lookup`, and the `enqueue` inside the job when the rail knows no request. -/
  | ask (t : Nat) (now : Int)
  /-- `send`; `reference` is the one of a new request. -/
  | send (t : Nat) (reference : String)
  /-- `send`, and the answer is lost. -/
  | sendLost (t : Nat) (reference : String)
  /-- The acknowledgement is put. -/
  | acknowledge (t : Nat)
  /-- `observe` says that the source amount came back. -/
  | refund (t : Nat) (observation : LegObservation)
  /-- `observe` says that the cash arrived, and its receipt is put. -/
  | receive (t : Nat) (observation : LegObservation) (fact again : Option ReceiptFact)
  /-- The cash is allocated and the job commits. -/
  | complete (t : Nat) (reader : CashEvidenceReader)
  /-- The transaction raises or its worker is lost, and it is rolled back. -/
  | stop (t : Nat)
  /-- Other services write their tables. -/
  | others (db : LegDb)
  /-- Another service reconciles cash. -/
  | receipt (reference : String) (route : DestinationRoute) (reader : CashEvidenceReader)
  | allocation (reference : String) (reader : CashEvidenceReader)

/-- The check on the amount of a settlement. -/
def LegDb.Checked (db : LegDb) : Prop := ∀ st ∈ db.cash.settlements, 0 ≤ st.sourceAmount

/-- A settlement stays, and so does its amount. -/
def LegDb.KeepsAmounts (db db' : LegDb) : Prop :=
  ∀ id st, db.cash.settlement id = some st →
    ∃ st', db'.cash.settlement id = some st' ∧ st'.sourceAmount = st.sourceAmount

/-- What other services leave alone: they can put a settlement and change all but its amount. -/
structure LegDb.OthersWrite (db db' : LegDb) : Prop where
  receipts : db'.cash.receipts = db.cash.receipts
  allocations : db'.cash.allocations = db.cash.allocations
  outbox : db'.cash.outbox = db.cash.outbox
  jobs : db'.jobs = db.jobs
  amounts : db.KeepsAmounts db'
  checked : db'.Checked

/-- One step. `landing` is the log in which the cash of a request arrives at the destination: what
the reader says of the receipt of a request is about that log. -/
inductive LegStep (landing : String → String → Int × HexString × Int) :
    LegRun → LegAction → LegRun → Prop
  | readEnqueue {s : LegRun} {t : Nat} {e : Executor} {quote : Quote} {now : Int} {fresh : Bool}
      (hidle : s.calls t = none) (hlock : s.LockFree quote.settlementId)
      (haccept : s.db.accept e quote now = .ok fresh) :
      LegStep landing s (.readEnqueue t e quote now) (s.setCall t (some (.enqueue e quote fresh)))
  | commitEnqueue {s : LegRun} {t : Nat} {e : Executor} {quote : Quote} {fresh : Bool}
      (hcall : s.calls t = some (.enqueue e quote fresh)) :
      LegStep landing s (.commitEnqueue t)
        { s.setCall t none with db := s.db.plan e.binding.railId quote fresh }
  | start {s : LegRun} {t : Nat} {e : Executor} {job : LegJob} {stage : Stage}
      (hidle : s.calls t = none) (hjob : job ∈ s.db.jobs)
      (hbegin : s.db.begin e job.payload = .ok stage) :
      LegStep landing s (.start t e job) (s.setCall t (some (.handle e job.payload stage)))
  | found {s : LegRun} {t : Nat} {e : Executor} {quote : Quote} {now : Int} {reference : String}
      {stage : Stage} (hcall : s.calls t = some (.handle e quote .unsent))
      (hlookup : s.lookup e.binding.railId quote.legId = some reference)
      (hstage : knownReference reference none = .ok stage) :
      LegStep landing s (.ask t now) (s.setCall t (some (.handle e quote stage)))
  | reaccept {s : LegRun} {t : Nat} {e : Executor} {quote : Quote} {now : Int} {stage : Stage}
      (hcall : s.calls t = some (.handle e quote .unsent))
      (hlookup : s.lookup e.binding.railId quote.legId = none)
      (hlock : s.LockFree quote.settlementId) (hstage : s.db.reaccept e quote now = .ok stage) :
      LegStep landing s (.ask t now) (s.setCall t (some (.handle e quote stage)))
  | send {s : LegRun} {t : Nat} {e : Executor} {quote : Quote} {fresh : Bool}
      {new reference : String} {stage : Stage}
      (hcall : s.calls t = some (.handle e quote (.admitted fresh)))
      (hsent : (s.send e.binding.railId quote.legId new).lookup e.binding.railId quote.legId =
        some reference)
      (hstage : knownReference reference (some fresh) = .ok stage) :
      LegStep landing s (.send t new)
        ((s.send e.binding.railId quote.legId new).setCall t (some (.handle e quote stage)))
  | sendLost {s : LegRun} {t : Nat} {e : Executor} {quote : Quote} {fresh : Bool} {new : String}
      (hcall : s.calls t = some (.handle e quote (.admitted fresh))) :
      LegStep landing s (.sendLost t new)
        ((s.send e.binding.railId quote.legId new).setCall t none)
  | acknowledge {s : LegRun} {t : Nat} {e : Executor} {quote : Quote} {reference : String}
      {plan : Option Bool} (hcall : s.calls t = some (.handle e quote (.referred reference plan))) :
      LegStep landing s (.acknowledge t)
        { s.setCall t (some (.handle e quote (.acknowledged reference plan))) with
          db := s.db.emit (ackEvent e.binding.railId quote reference) }
  | refund {s : LegRun} {t : Nat} {e : Executor} {quote : Quote} {reference : String}
      {plan : Option Bool} {observation : LegObservation}
      (hcall : s.calls t = some (.handle e quote (.acknowledged reference plan)))
      (hobserved : observed reference observation = .ok .refunded) :
      LegStep landing s (.refund t observation)
        { s.setCall t none with
          db := (s.db.planned e.binding.railId quote plan).emit
            (refundEvent e.binding.railId quote reference) }
  | receive {s : LegRun} {t : Nat} {e : Executor} {quote : Quote}
      {reference receiptReference id : String} {plan : Option Bool} {observation : LegObservation}
      {fact : ReceiptFact} {first again : Option ReceiptFact} {result : ReconciliationResult}
      {db : LegDb} (hcall : s.calls t = some (.handle e quote (.acknowledged reference plan)))
      (hobserved : observed reference observation = .ok (.received receiptReference))
      (hfact : ownFact quote first = .ok fact)
      (hlanding : ∀ fact ∈ again, fact.key = landing e.binding.railId reference)
      (hreceive : s.db.receive e quote receiptReference fact again = .ok (result, db))
      (hid : result.entityId = some id) :
      LegStep landing s (.receive t observation first again)
        { s.setCall t (some (.handle e quote (.received reference receiptReference plan))) with
          db := db }
  | notReceived {s : LegRun} {t : Nat} {e : Executor} {quote : Quote}
      {reference receiptReference : String} {plan : Option Bool} {observation : LegObservation}
      {fact : ReceiptFact} {first again : Option ReceiptFact} {result : ReconciliationResult}
      {db : LegDb} (hcall : s.calls t = some (.handle e quote (.acknowledged reference plan)))
      (hobserved : observed reference observation = .ok (.received receiptReference))
      (hfact : ownFact quote first = .ok fact)
      (hlanding : ∀ fact ∈ again, fact.key = landing e.binding.railId reference)
      (hreceive : s.db.receive e quote receiptReference fact again = .ok (result, db))
      (hid : result.entityId = none) :
      LegStep landing s (.receive t observation first again) { s.setCall t none with db := db }
  | complete {s : LegRun} {t : Nat} {e : Executor} {quote : Quote}
      {reference receiptReference : String} {plan : Option Bool} {reader : CashEvidenceReader}
      {db : LegDb}
      (hcall : s.calls t = some (.handle e quote (.received reference receiptReference plan)))
      (hallocate : (s.db.planned e.binding.railId quote plan).allocate e quote reference
        receiptReference reader = .ok db) :
      LegStep landing s (.complete t reader) { s.setCall t none with db := db }
  | stop {s : LegRun} {t : Nat} : LegStep landing s (.stop t) (s.setCall t none)
  | others {s : LegRun} {db : LegDb} (hothers : s.db.OthersWrite db) :
      LegStep landing s (.others db) { s with db := db }
  | receipt {s : LegRun} {reference : String} {route : DestinationRoute}
      {reader : CashEvidenceReader} {result : ReconciliationResult} {cash : CashDb}
      (hrun : s.db.cash.recordDestinationReceipt reference route (some reader) =
        .ok (result, cash)) :
      LegStep landing s (.receipt reference route reader)
        { s with db := { s.db with cash := cash } }
  | allocation {s : LegRun} {reference : String} {reader : CashEvidenceReader}
      {result : ReconciliationResult} {cash : CashDb}
      (hrun : s.db.cash.recordConfirmedAllocation reference (some reader) = .ok (result, cash)) :
      LegStep landing s (.allocation reference reader)
        { s with db := { s.db with cash := cash } }

end Rackline.Legs
