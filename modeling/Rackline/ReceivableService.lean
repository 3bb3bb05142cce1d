import Rackline.LedgerTables

/-!
# `Rackline.ReceivableService`: observed receivables and their revisions

`record_obligation` and `apply_revision` of `receivables/service.py`, over the tables they read and
write. A receivable is recorded from the first observation of an obligation. A correction, a payout
or a cancellation then arrives as a revision, which is applied when it is the next one. One that
arrives before its turn is put down with `out_of_order` and is not applied.

A call is one transaction under the lock of the receivable's row, so calls of one receivable come
one after another, and a call that raises changes nothing. Times are numbers of seconds, and all of
them carry a zone. Left out are the columns that neither call reads: `debtor`, `contract_ref`, the
time stamps and the fields of a raw observation other than its provider.
-/

set_option autoImplicit false

namespace Rackline.Receivables

open Evm

/-! ### Rows -/

/-- The `state` of a receivable. -/
inductive ReceivableState
  | RECOGNIZED | ASSIGNED | PARTIALLY_PAID | PAID | DISPUTED | CANCELLED | WRITTEN_OFF
deriving DecidableEq

/-- `REVISION_KINDS`. -/
inductive RevisionKind
  | RECOGNIZED | CORRECTION | ASSIGNMENT | PAYOUT | CANCELLATION | DISPUTE | CHECKPOINT
deriving DecidableEq

/-- `RevenueKind`. -/
inductive RevenueKind
  | OPERATING_RECEIVABLE | SELF_TRANSFER | INCENTIVE | REFUND | BORROWING | FUTURE_REVENUE | UNKNOWN
deriving DecidableEq

/-- The value of a kind of revenue. -/
def RevenueKind.value : RevenueKind → String
  | OPERATING_RECEIVABLE => "OPERATING_RECEIVABLE"
  | SELF_TRANSFER => "SELF_TRANSFER"
  | INCENTIVE => "INCENTIVE"
  | REFUND => "REFUND"
  | BORROWING => "BORROWING"
  | FUTURE_REVENUE => "FUTURE_REVENUE"
  | UNKNOWN => "UNKNOWN"

/-- The `status` of a credit decision. -/
inductive DecisionStatus
  | DRAFT | APPROVED | EXPIRED | REVOKED
deriving DecidableEq

/-- A row of `providers`. -/
structure Provider where
  providerId : String
  sourceChainId : Int
  executionProfile : ExecutionProfile
deriving DecidableEq

/-- A row of `provider_accounts`. -/
structure ProviderAccount where
  providerAccountId : String
  providerId : String
  externalAccountId : String
deriving DecidableEq

/-- A row of `raw_source_observations`. -/
structure RawSourceObservation where
  observationId : String
  providerId : String
deriving DecidableEq

/-- A row of `credit_decisions`. -/
structure CreditDecision where
  creditDecisionId : String
  facilityId : String
  status : DecisionStatus
deriving DecidableEq

/-- A row of `receivables`. -/
structure Receivable where
  receivableId : String
  economicEventId : String
  providerAccountId : String
  obligationRef : String
  asset : LedgerAsset
  gross : Int
  net : Int
  paidAmount : Int
  unpaidAmount : Int
  state : ReceivableState
  revision : Int
  facilityId : Option String
  checkpointSeq : Option Int
  checkpointConsumptionId : Option String
  periodFrom : Int
  periodTo : Int
  dueAt : Int
  disputedReason : Option String
  executionProfile : ExecutionProfile
deriving DecidableEq

/-- The check constraints of a receivable. -/
def Receivable.checks (r : Receivable) : Prop :=
  (0 < r.asset.chainId ∧ 0 ≤ r.asset.decimals ∧ r.asset.decimals ≤ 36) ∧
    (0 ≤ r.gross ∧ 0 ≤ r.net ∧ 0 ≤ r.paidAmount ∧ 0 ≤ r.unpaidAmount) ∧
    (r.net ≤ r.gross ∧ r.paidAmount ≤ r.net ∧ r.unpaidAmount = r.net - r.paidAmount) ∧
    (1 ≤ r.revision ∧ isInteger r.revision) ∧
    (r.state = .ASSIGNED → r.facilityId.isSome = true) ∧
    (r.state = .DISPUTED → r.disputedReason.isSome = true) ∧
    (r.state = .PAID → r.unpaidAmount = 0)

instance (r : Receivable) : Decidable r.checks :=
  inferInstanceAs (Decidable (_ ∧ _ ∧ _ ∧ _ ∧ _ ∧ _ ∧ _))

/-- A row of `receivable_revisions`. -/
structure ReceivableRevision where
  receivableId : String
  revision : Int
  kind : RevisionKind
  observationId : Option String
  delta : Int
  netAfter : Int
  unpaidAfter : Int
  outOfOrder : Bool
deriving DecidableEq

/-- The tables. -/
structure Db where
  providers : List Provider
  accounts : List ProviderAccount
  observations : List RawSourceObservation
  receivables : List Receivable
  revisions : List ReceivableRevision
  decisions : List CreditDecision
  exceptions : List ExceptionCase
  outbox : List OutboxEvent
deriving DecidableEq

/-- `ReceivableResult`. -/
structure ReceivableResult where
  receivableId : Option String
  created : Bool
  applied : Bool
  reason : Option String
deriving DecidableEq

/-! ### What arrives -/

/-- `ObligationInput`. -/
structure ObligationInput where
  receivableId : String
  providerAccountId : String
  obligationRef : String
  observationId : String
  asset : LedgerAsset
  gross : Int
  net : Int
  paidAmount : Int
  revision : Int
  kind : RevenueKind
  periodFrom : Int
  periodTo : Int
  dueAt : Int
  executionProfile : ExecutionProfile

/-- A receivable says what the command says. -/
def ObligationInput.sameAs (command : ObligationInput) (row : Receivable) : Prop :=
  row.revision = command.revision ∧ row.gross = command.gross ∧ row.net = command.net ∧
    row.paidAmount = command.paidAmount ∧ row.asset = command.asset ∧
    row.periodFrom = command.periodFrom ∧ row.periodTo = command.periodTo ∧
    row.dueAt = command.dueAt ∧ row.executionProfile = command.executionProfile

instance (command : ObligationInput) (row : Receivable) : Decidable (command.sameAs row) :=
  inferInstanceAs (Decidable (_ ∧ _ ∧ _ ∧ _ ∧ _ ∧ _ ∧ _ ∧ _ ∧ _))

/-- The row of a new obligation. -/
def ObligationInput.row (command : ObligationInput) (economicId : String) : Receivable where
  receivableId := command.receivableId
  economicEventId := economicId
  providerAccountId := command.providerAccountId
  obligationRef := command.obligationRef
  asset := command.asset
  gross := command.gross
  net := command.net
  paidAmount := command.paidAmount
  unpaidAmount := command.net - command.paidAmount
  state := if command.net = command.paidAmount then .PAID else .RECOGNIZED
  revision := command.revision
  facilityId := none
  checkpointSeq := none
  checkpointConsumptionId := none
  periodFrom := command.periodFrom
  periodTo := command.periodTo
  dueAt := command.dueAt
  disputedReason := none
  executionProfile := command.executionProfile

/-- The arguments of `apply_revision`. -/
structure Revision where
  receivableId : String
  observationId : String
  revision : Int
  kind : RevisionKind
  delta : Int
deriving DecidableEq

/-- The row that records a revision. -/
def Revision.entry (r : Revision) (netAfter unpaidAfter : Int) (outOfOrder : Bool) :
    ReceivableRevision where
  receivableId := r.receivableId
  revision := r.revision
  kind := r.kind
  observationId := some r.observationId
  delta := r.delta
  netAfter := netAfter
  unpaidAfter := unpaidAfter
  outOfOrder := outOfOrder

/-- A row is of this receivable, revision and kind. -/
def Revision.sameKey (r : Revision) (q : ReceivableRevision) : Bool :=
  q.receivableId == r.receivableId && q.revision == r.revision && q.kind == r.kind

/-- The checks of the arguments. -/
def Revision.valid (r : Revision) : Except LedgerError Unit := do
  Tables.units r.revision "revision" false
  Tables.units r.delta "delta" (r.kind = .CORRECTION)
  revertIf (r.kind ∉ [.CORRECTION, .PAYOUT, .CANCELLATION] ∨ r.delta = 0)
    (.valueError "explicit nonzero correction/payout/cancellation required")

/-- `net` and `paid` after a revision. -/
def Revision.amounts (r : Revision) (row : Receivable) : Int × Int :=
  match r.kind with
  | .CORRECTION => (row.net + r.delta, row.paidAmount)
  | .PAYOUT => (row.net, row.paidAmount + r.delta)
  | _ => (row.net, row.paidAmount - r.delta)

/-- The row after a revision that is applied. -/
def Revision.applied (r : Revision) (row : Receivable) : Receivable :=
  let (net, paid) := r.amounts row
  { row with
    net := net
    paidAmount := paid
    unpaidAmount := net - paid
    revision := r.revision
    state :=
      if paid = net then .PAID
      else if paid ≠ 0 then .PARTIALLY_PAID
      else if row.facilityId.isSome = true then .ASSIGNED
      else .RECOGNIZED
    checkpointSeq := none
    checkpointConsumptionId := none }

/-- What a call that applies nothing answers. -/
def Revision.refused (r : Revision) (reason : String) : ReceivableResult :=
  ⟨some r.receivableId, false, false, some reason⟩

namespace Db

variable (db : Db)

/-! ### Reads and writes of the tables -/

/-- The row of a receivable. -/
def receivable (id : String) : Option Receivable :=
  db.receivables.find? fun r => r.receivableId == id

/-- `exception`. -/
def except (code table entityId : String) (detail : List (String × String)) : Db :=
  { db with exceptions := exception db.exceptions code table entityId detail }

/-- Insert into `receivables`. -/
def insertReceivable (r : Receivable) : Except LedgerError Db := do
  revertIf (¬r.checks ∨ ∃ q ∈ db.receivables, q.receivableId = r.receivableId ∨
    q.economicEventId = r.economicEventId ∨
    q.providerAccountId = r.providerAccountId ∧ q.obligationRef = r.obligationRef) .integrity
  return { db with receivables := db.receivables ++ [r] }

/-- Update a row of `receivables`. -/
def updateReceivable (r : Receivable) : Except LedgerError Db := do
  revertIf (¬r.checks) .integrity
  return { db with
    receivables := db.receivables.map fun q => if q.receivableId = r.receivableId then r else q }

/-- Insert into `receivable_revisions`, with `hcg_receivable_revisions_monotonic`. -/
def insertRevision (r : ReceivableRevision) : Except LedgerError Db := do
  revertIf (r.revision < 1 ∨ ¬isInteger r.revision ∨ r.netAfter < 0 ∨ r.unpaidAfter < 0 ∨
    r.observationId = none) .integrity
  revertIf (∃ q ∈ db.revisions, q.receivableId = r.receivableId ∧ q.revision = r.revision ∧
    q.kind = r.kind) .integrity
  revertIf (r.outOfOrder = false ∧ ∃ q ∈ db.revisions, q.receivableId = r.receivableId ∧
    q.outOfOrder = false ∧ r.revision ≤ q.revision) .integrity
  return { db with
    revisions := db.revisions ++ [r]
    receivables := db.receivables.map fun q =>
      if r.outOfOrder = false ∧ q.receivableId = r.receivableId ∧ q.revision < r.revision then
        { q with revision := r.revision }
      else q }

/-- `_source`. -/
def source (accountId observationId : String) (profile : ExecutionProfile) :
    Except LedgerError (ProviderAccount × Provider) :=
  match db.accounts.find? fun a => a.providerAccountId == accountId with
  | none => .error (.valueError "unknown provider account")
  | some account =>
    match db.providers.find? fun p => p.providerId == account.providerId with
    | none => .error .integrity
    | some provider => do
      revertIf (provider.executionProfile ≠ profile) (.valueError "execution profile mismatch")
      revertIf ((db.observations.find? fun o => o.observationId == observationId).map
          RawSourceObservation.providerId ≠ some account.providerId)
        (.valueError "observation provider mismatch")
      return (account, provider)

/-- `_trace`. -/
def trace (r : Receivable) (observationId action : String) : Db :=
  { db with outbox := emit db.outbox {
      aggregateType := "receivable"
      aggregateId := r.receivableId
      eventType := action
      idempotencyKey := "receivable:" ++ r.receivableId ++ ":" ++ observationId
      payload := [("receivableId", .str r.receivableId),
        ("economicEventId", .str r.economicEventId), ("observationId", .str observationId),
        ("revision", .int r.revision), ("net", .str (toString r.net)),
        ("paid", .str (toString r.paidAmount)), ("unpaid", .str (toString r.unpaidAmount)),
        ("executionProfile", .str (r.executionProfile.value)), ("trust", .str "ASSERTED"),
        ("creditApproved", .bool false)] } }

/-! ### Recording an obligation -/

/-- Quarantine each receivable of the account that overlaps the new one in time, and the new one
with it. -/
def reviewOverlaps (row : Receivable) : Db :=
  (db.receivables.filter fun r => r.providerAccountId = row.providerAccountId ∧
      r.receivableId ≠ row.receivableId ∧ r.periodFrom < row.periodTo ∧
      row.periodFrom < r.periodTo ∧ r.state ≠ .CANCELLED ∧ r.state ≠ .WRITTEN_OFF).foldl
    (fun db other => (db.except "PERIOD_OVERLAP_REVIEW" "receivables" other.receivableId
        [("otherReceivableId", row.receivableId)]).except
      "PERIOD_OVERLAP_REVIEW" "receivables" row.receivableId
        [("otherReceivableId", other.receivableId)])
    db

/-- `record_obligation`. -/
def recordObligation (command : ObligationInput) (asOf : Int) :
    Except LedgerError (ReceivableResult × Db) := do
  Tables.units command.gross "gross" false
  Tables.units command.net "net" false
  Tables.units command.paidAmount "paid_amount" false
  Tables.units command.revision "revision" false
  revertIf (command.revision < 1 ∨
      ¬(0 ≤ command.paidAmount ∧ command.paidAmount ≤ command.net ∧ command.net ≤ command.gross))
    (.valueError "invalid revision or gross/net/paid relationship")
  revertIf (command.obligationRef = "" ∨ '/' ∈ command.obligationRef.toList ∨
      128 < command.obligationRef.toList.length)
    (.valueError "obligation reference must be stable, nonempty and unambiguous")
  revertIf (command.periodTo ≤ command.periodFrom ∨ command.dueAt < command.periodTo)
    (.valueError "invalid service period or due date")
  let (account, provider) ←
    db.source command.providerAccountId command.observationId command.executionProfile
  revertIf (command.asset.chainId ≠ provider.sourceChainId)
    (.valueError "source chain does not match provider")
  if command.kind ≠ .OPERATING_RECEIVABLE ∨ asOf < command.periodTo then
    let reason := if asOf < command.periodTo then "FUTURE_REVENUE"
      else "NON_OPERATING:" ++ command.kind.value
    return (⟨none, false, false, some reason⟩,
      db.except "REVENUE_INELIGIBLE" "raw_source_observations" command.observationId
        [("reason", reason)])
  else
    match db.receivables.find? fun r => r.providerAccountId == account.providerAccountId &&
        r.obligationRef == command.obligationRef with
    | some row =>
      if command.sameAs row then
        return (⟨some row.receivableId, false, false, some "DUPLICATE_OBSERVATION"⟩,
          db.trace row command.observationId "RECEIVABLE_OBSERVATION_MERGED")
      else
        let reason := if command.revision ≠ row.revision then "REVISION_REQUIRES_DELTA"
          else "AMOUNT_OR_BINDING_CONFLICT"
        return (⟨some row.receivableId, false, false, some reason⟩,
          db.except reason "receivables" row.receivableId
            [("observationId", command.observationId)])
    | none => do
      let row := command.row (provider.providerId ++ "/" ++ account.externalAccountId ++
        "/OBLIGATION/" ++ command.obligationRef)
      let db ← db.insertReceivable row
      let db ← db.insertRevision {
        receivableId := row.receivableId, revision := row.revision, kind := .RECOGNIZED,
        observationId := some command.observationId, delta := command.net, netAfter := row.net,
        unpaidAfter := row.unpaidAmount, outOfOrder := false }
      return (⟨some row.receivableId, true, true, none⟩,
        (db.reviewOverlaps row).trace row command.observationId "RECEIVABLE_OBSERVED")

/-! ### Applying a revision -/

/-- The recorded row of the same receivable, revision and kind. -/
def previous (r : Revision) : Option ReceivableRevision := db.revisions.find? r.sameKey

/-- Open a case on the receivable, and answer with its name. -/
def refuse (r : Revision) (code : String) : ReceivableResult × Db :=
  (r.refused code,
    db.except code "receivables" r.receivableId [("observationId", r.observationId)])

/-- Revoke the open credit decisions of the facility that holds the receivable. -/
def revokeDecisions (facilityId : Option String) : Db :=
  { db with decisions := db.decisions.map fun d =>
      if facilityId = some d.facilityId ∧ (d.status = .DRAFT ∨ d.status = .APPROVED) then
        { d with status := .REVOKED }
      else d }

/-- The branch of `apply_revision` for a revision that is not the next one. -/
def setAside (r : Revision) (row : Receivable) : Except LedgerError (ReceivableResult × Db) := do
  let db ← db.insertRevision (r.entry row.net row.unpaidAmount true)
  return db.refuse r "REVISION_OUT_OF_ORDER"

/-- The branch of `apply_revision` for the next revision. -/
def applyNext (r : Revision) (row : Receivable) :
    Except LedgerError (ReceivableResult × Db) := do
  revertIf (row.state ∈ [.CANCELLED, .WRITTEN_OFF, .DISPUTED])
    (.valueError "inactive/disputed receivable requires reviewed resolution")
  let (net, paid) := r.amounts row
  if ¬(0 ≤ paid ∧ paid ≤ net ∧ net ≤ row.gross) then
    return db.refuse r "REVISION_BALANCE_CONFLICT"
  else do
    let db ← db.updateReceivable (r.applied row)
    let db ← db.insertRevision (r.entry net (net - paid) false)
    return (⟨some r.receivableId, false, true, none⟩, (db.revokeDecisions row.facilityId).trace
      (r.applied row) r.observationId "RECEIVABLE_REVISED")

/-- `apply_revision`. -/
def applyRevision (r : Revision) : Except LedgerError (ReceivableResult × Db) := do
  r.valid
  match db.receivable r.receivableId with
  | none => .error (.valueError "unknown receivable")
  | some row => do
    let _ ← db.source row.providerAccountId r.observationId row.executionProfile
    match db.previous r with
    | some previous =>
      if previous.delta = r.delta then return (r.refused "DUPLICATE_REVISION", db)
      else return db.refuse r "REVISION_CONFLICT"
    | none =>
      if ∃ q ∈ db.revisions, q.receivableId = r.receivableId ∧
          q.observationId = some r.observationId then
        return db.refuse r "OBSERVATION_ALREADY_APPLIED"
      else if r.revision ≠ row.revision + 1 then db.setAside r row
      else db.applyNext r row

/-- A revision arrives. A call that raises is rolled back. -/
def deliver (r : Revision) : Db :=
  match db.applyRevision r with
  | .ok (_, db') => db'
  | .error _ => db

/-- Revisions arrive one after another. -/
def deliverAll (rs : List Revision) : Db := rs.foldl deliver db

end Db

end Rackline.Receivables
