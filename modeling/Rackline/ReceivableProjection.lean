import Rackline.ReceivableBook
import Rackline.Lib.EventLog

/-!
# `Rackline.ReceivableProjection`: the receivables folded from the book's logs

`Destination.events` lists the events a successful call of `ReceivableBook` emits.
`projectReceivable` is `_project_receivable` of `indexer.py`. A payout and its cancellation carry
neither a revision nor a state, so the projection derives both.

A projected receivable keeps its facility as a string that is absent until the first assignment.
Any string is true, the one of `bytes32(0)` too: that is `facilityKey.isSome`. The journal columns
of a projected receivable (hashes of transactions, block numbers, the history) are left out.
-/

set_option autoImplicit false

namespace Rackline

open Evm EventLog Transition

/-- The events of `IReceivableBook`. -/
inductive BookEvent
  | facilityRegistered (facilityId : FacilityId) (borrowerId : Bytes32) (providerId : ProviderId)
  | receivableRecognized (receivableId : ReceivableId) (accountKey : AccountKey)
      (obligationRef : Bytes32) (net : Nat)
  | receivableAssigned (receivableId : ReceivableId) (facilityId : FacilityId) (revision : Nat)
  | receivableCorrected (receivableId : ReceivableId) (delta : Int) (revision reason : Nat)
  | receivablePaid (receivableId : ReceivableId) (amount settlementSeq unpaidAfter : Nat)
  | receivablePayoutCancelled (receivableId : ReceivableId) (amount settlementSeq : Nat)
  | unattributedPayoutRecorded (accountKey : AccountKey) (amount settlementSeq : Nat)
  | checkpointRecorded (accountKey : AccountKey) (checkpointSeq latestRevision : Nat)
  | receivableDisputed (receivableId : ReceivableId) (disputed : Bool)

/-! ### What the book emits -/

namespace ReceivableBook

/-- The events of `_apply` on the log `event`, from the storage before it. -/
def applied (providerId : ProviderId) (b : ReceivableBook) : SourceEvent → List BookEvent
  | .obligationRecognized a ref _ _ _ amount _ _ =>
    [.receivableRecognized ⟨providerId, a, ref⟩ a ref amount]
  | .obligationRecognizedV2 a ref _ _ _ _ amount _ _ =>
    [.receivableRecognized ⟨providerId, a, ref⟩ a ref amount]
  | .obligationAssigned a ref facilityKey revision =>
    [.receivableAssigned ⟨providerId, a, ref⟩ (b.facilityByKey facilityKey) revision]
  | .obligationCorrected a ref delta revision reason =>
    [.receivableCorrected ⟨providerId, a, ref⟩ delta revision reason]
  | .payoutReceived a ref _ _ amount seq =>
    if ref = 0 then [.unattributedPayoutRecorded a amount seq]
    else
      let r := b.receivables ⟨providerId, a, ref⟩
      -- `r.net - r.paid`, after the payout.
      [.receivablePaid ⟨providerId, a, ref⟩ amount seq (r.net - (r.paid + amount))]
  | .payoutCancelled _ _ seq amount =>
    match (b.settlements providerId seq).receivableId with
    | none => []
    | some id => [.receivablePayoutCancelled id amount seq]
  | .sourceCheckpoint a seq latestRevision _ _ => [.checkpointRecorded a seq latestRevision]
  | .sourceCheckpointV2 a seq latestRevision _ _ _ _ => [.checkpointRecorded a seq latestRevision]

end ReceivableBook

/-- The events of a call that returns. -/
def Destination.events (d : Destination) (tx : BookTx) : List BookEvent :=
  match tx.2 with
  | .ingest _ _ providerId _ event _ => d.book.applied providerId event
  | .registerFacility _ facilityId borrowerId providerId _ =>
    [.facilityRegistered facilityId borrowerId providerId]
  | .setDisputed id disputed => [.receivableDisputed id disputed]

/-- One transaction, with the events it appends to the log of the book. -/
def ReceivableStep (facilityKey : FacilityId → Bytes32) :
    Logged Destination BookEvent → BookTx → Logged Destination BookEvent → Prop :=
  LoggedStep (DestinationStep facilityKey) Destination.events

/-- The destination chain before any event. -/
def bookDeployment : Logged Destination BookEvent := ⟨.initial, []⟩

/-! ### What the indexer folds -/

/-- `ProjectedReceivable`. The state is one of the four names of a recognized receivable. -/
structure ProjectedReceivable where
  accountKey : AccountKey
  obligationRef : Bytes32
  facilityKey : Option FacilityId
  state : ReceivableState
  net : Int
  paid : Int
  revision : Nat
  disputed : Bool

/-- The projected receivables by `receivable_key`. -/
abbrev ReceivableView := ReceivableId → Option ProjectedReceivable

namespace ReceivableView

/-- Before any event. -/
def empty : ReceivableView := fun _ => none

/-- The last check of `_project_receivable`, and the write. -/
def put (v : ReceivableView) (id : ReceivableId) (r : ProjectedReceivable) :
    Except String ReceivableView := do
  revertIf (r.net < 0 ∨ r.paid < 0 ∨ r.paid > r.net) "receivable amount conservation discrepancy"
  return Function.update v id (some r)

/-- The branches for an event of a receivable that has to be there. -/
def amend (v : ReceivableView) (id : ReceivableId)
    (f : ProjectedReceivable → Except String ProjectedReceivable) : Except String ReceivableView :=
  match v id with
  | none => .error "receivable event before its recognition in the canonical journal"
  | some r => do
    let r ← f r
    v.put id r

end ReceivableView

namespace ProjectedReceivable

/-- The branch `ReceivableAssigned`. -/
def assign (facilityId : FacilityId) (revision : Nat) (r : ProjectedReceivable) :
    ProjectedReceivable :=
  { r with facilityKey := some facilityId, state := .assigned, revision := revision }

/-- The branch `ReceivableCorrected`. -/
def correct (delta : Int) (revision reason : Nat) (r : ProjectedReceivable) : ProjectedReceivable :=
  { r with
    net := r.net + delta
    revision := revision
    state :=
      if reason = ReceivableBook.correctionReasonCancel then .cancelled else r.state }

/-- The writes of the branch `ReceivablePaid`. -/
def pay (amount : Nat) (r : ProjectedReceivable) : ProjectedReceivable :=
  { r with
    paid := r.paid + amount
    revision := r.revision + 1
    state := if r.paid + amount = r.net then .paid else r.state }

/-- The branch `ReceivablePayoutCancelled`. -/
def cancelPayout (amount : Nat) (r : ProjectedReceivable) : ProjectedReceivable :=
  { r with
    paid := r.paid - amount
    revision := r.revision + 1
    state :=
      if r.state = .paid then if r.facilityKey.isSome then .assigned else .open_ else r.state }

end ProjectedReceivable

/-- `_project_receivable`. -/
def projectReceivable (v : ReceivableView) : BookEvent → Except String ReceivableView
  | .receivableRecognized id accountKey obligationRef net =>
    match v id with
    | some _ => .error "receivable recognised twice in the canonical journal"
    | none =>
      v.put id
        { accountKey := accountKey, obligationRef := obligationRef, facilityKey := none,
          state := .open_, net := net, paid := 0, revision := 1, disputed := false }
  | .receivableAssigned id facilityId revision => v.amend id fun r => .ok (r.assign facilityId revision)
  | .receivableCorrected id delta revision reason =>
    v.amend id fun r => .ok (r.correct delta revision reason)
  | .receivablePaid id amount _ unpaidAfter => v.amend id fun r => do
    let r := r.pay amount
    revertIf (r.net - r.paid ≠ unpaidAfter) "receivable payout conservation discrepancy"
    return r
  | .receivablePayoutCancelled id amount _ => v.amend id fun r => .ok (r.cancelPayout amount)
  | .receivableDisputed id disputed => v.amend id fun r => .ok { r with disputed := disputed }
  -- These carry no receivable.
  | .facilityRegistered .. | .unattributedPayoutRecorded .. | .checkpointRecorded .. => .ok v

/-- A projected receivable equals the receivable in the storage of the book. -/
structure ProjectedReceivable.Equals (q : ProjectedReceivable) (r : Receivable) : Prop where
  net : q.net = r.net
  paid : q.paid = r.paid
  revision : q.revision = r.revision
  state : q.state = r.state
  facility : q.facilityKey.getD 0 = r.facilityId
  disputed : q.disputed = r.disputed

/-- The recognized receivables are projected, and each equals the one in the storage. -/
def ReceivableView.Equals (v : ReceivableView) (d : Destination) : Prop :=
  ∀ id, (v id = none → (d.book.receivables id).state = .none) ∧
    ∀ q, v id = some q → (d.book.receivables id).state ≠ .none ∧ q.Equals (d.book.receivables id)

/-- The fold of the log comes through, and its view equals the book. -/
def ReceivablesProjected : Logged Destination BookEvent → Prop :=
  Projects projectReceivable .empty ReceivableView.Equals

/-- The call ingests the cancellation of a payout of a paid receivable that is assigned to the
facility with the zero id: the first assignment listed it there, and no other took it since. -/
def Destination.ReopensZeroFacility (d : Destination) : BookCall → Prop
  | .ingest _ _ providerId _ (.payoutCancelled _ _ seq _) _ =>
    ∃ id, (d.book.settlements providerId seq).receivableId = some id ∧
      (d.book.receivables id).state = .paid ∧ (d.book.receivables id).facilityId = 0 ∧
      id ∈ d.book.facilityReceivables 0
  | _ => False

/-- Run a list of transactions and collect the events. -/
def runBook (facilityKey : FacilityId → Bytes32) (s : Logged Destination BookEvent) :
    List BookTx → Except BookRevert (Logged Destination BookEvent)
  | [] => .ok s
  | tx :: rest => do
    let d ← s.state.call facilityKey tx.1 tx.2
    runBook facilityKey ⟨d, s.log ++ s.state.events tx⟩ rest

end Rackline
