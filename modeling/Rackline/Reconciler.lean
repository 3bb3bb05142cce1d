import Mathlib.Algebra.GroupWithZero.Nat
import Mathlib.Algebra.Ring.Int.Defs
import Mathlib.Data.List.Dedup
import Mathlib.Data.List.Sort
import Mathlib.Logic.Function.Basic

/-!
# `Rackline.Reconciler`: the reference reconciler

`reconciliation/reference.py`. Observations of the providers, the statements and the chain are merged
into economic events, one for an id, in the order in which they were observed. The events are then
applied to a ledger of receivables, settlements, cash and debt in the order of their first
observation.

A dictionary is a function to options where its order is never read, and the events are a list in
the order of insertion. A missing field of an observation is `none`; what the reconciler defaults is
a field that is always there. An event that lacks an amount or a delta its type needs ends the run:
Python raises where it first computes with it. Texts that the reconciler never compares with its own
are kept as they are.

Left out is what it does not read: the destination fields of an observation (`toAmount`, `toAsset`,
`leg` and `destination`), which the merge drops, and the asset and the chain of a facility. Of
`summary`, which prints the ledger, only the sum over the receivables is here.
-/

set_option autoImplicit false

namespace Rackline.Reconciler

/-! ### Observations -/

/-- `source`. -/
inductive Source
  | API | WEBHOOK | STATEMENT | CHAIN
deriving DecidableEq

/-- `trust`. -/
inductive Trust
  | CLAIMED | OBSERVED | ASSERTED | PROVEN
deriving DecidableEq

/-- `TRUST_RANK`. -/
def Trust.rank : Trust → Nat
  | CLAIMED => 0
  | OBSERVED => 1
  | ASSERTED => 2
  | PROVEN => 3

/-- `eventType`. -/
inductive EventType
  | OBLIGATION | ASSIGNMENT | CORRECTION | PAYOUT | CANCELLATION | LEG | DESTINATION_RECEIPT
  | ALLOCATION | DECISION_USE
  /-- A text that is none of them. -/
  | other (name : String)
deriving DecidableEq

/-- `provenance`. -/
inductive Provenance
  | PROVIDER_SETTLEMENT | UNCLASSIFIED | SELF_TRANSFER | REFUND_OR_REVERSAL
  /-- A text of an observation that is none of them. -/
  | other (name : String)
deriving DecidableEq

/-- A locator of a log, as a dictionary. -/
abbrev Locator := List (String × Int)

/-- An item of `obs_list`. -/
structure Observation where
  observationId : String
  /-- `observedAt`, or the empty text. -/
  observedAt : String
  source : Source
  trust : Trust
  economicEventId : String
  eventType : EventType
  account : String
  asset : String
  amount : Option Int
  delta : Option Int
  /-- `revision`, or 1. -/
  revision : Int
  obligationRef : Option String
  facility : Option String
  targetEconomicEventId : Option String
  sourceEventId : Option String
  settlementId : Option String
  payer : Option String
  payerIsBorrower : Bool
  provenance : Option Provenance
  consumed : Bool
  emitterRegistered : Option Bool
  anchor : Bool
  proven : Option Locator
  claimed : Option Locator
deriving DecidableEq

/-- A value of `facilities`, with `debt` or 0. -/
structure FacilityRow where
  account : Option String
  loanAsset : Option String
  debt : Int
deriving DecidableEq

/-- `facilities`. -/
abbrev FacilityTable := String → Option FacilityRow

/-- The truth of an optional text: there, and not empty. -/
def truthy (s : Option String) : Bool := s.any (· ≠ "")

/-! ### The ledger -/

/-- A value of `economic_events`. -/
structure EconomicEvent where
  economicEventId : String
  eventType : EventType
  account : String
  asset : String
  amount : Option Int
  delta : Option Int
  revision : Int
  obligationRef : Option String
  facility : Option String
  target : Option String
  trust : Trust
  observedVia : List String
  settlementId : Option String
  sourceEventId : Option String
  payer : Option String
  payerIsBorrower : Bool
  provenance : Option Provenance
deriving DecidableEq

/-- `Receivable.state`. -/
inductive ReceivableState
  | RECOGNIZED | ASSIGNED | PARTIALLY_PAID | PAID
deriving DecidableEq

/-- `Receivable`. -/
structure Receivable where
  receivableId : String
  economicEventId : String
  account : String
  obligationRef : Option String
  asset : String
  net : Int
  paid : Int
  revision : Int
  state : ReceivableState
  assignedFacility : Option String
  trust : Trust
  usedInDecision : Bool
deriving DecidableEq

/-- `Receivable.unpaid`. -/
def Receivable.unpaid (r : Receivable) : Int := max 0 (r.net - r.paid)

/-- `where` of an entry of the cash. -/
inductive Place
  | SOURCE_ESCROW | IN_FLIGHT | DESTINATION
deriving DecidableEq

/-- An entry of `cash`. -/
structure CashEntry where
  place : Place
  amount : Int
  settlementId : Option String
  provenance : Option Provenance
  economicEventId : Option String
deriving DecidableEq

/-- A leg of a settlement. The merge carries no destination, so two of its fields stay empty. -/
structure Leg where
  source : Int
  destination : Option Int
  asset : String
  toAsset : Option String
deriving DecidableEq

/-- A value of `settlements`. -/
structure Settlement where
  sourceAmount : Int
  allocations : String → Option Int
  legs : List Leg
  destinationAmount : Int

/-- The settlement that `setdefault` puts. -/
def Settlement.empty : Settlement :=
  { sourceAmount := 0, allocations := fun _ => none, legs := [], destinationAmount := 0 }

/-- An entry of `allocations`. -/
structure Allocation where
  facility : String
  amount : Int
  applied : Int
  excess : Int
  settlementId : Option String
deriving DecidableEq

/-- `code` of an exception. -/
inductive ExceptionCode
  | LOCATOR_TAMPERED | DUPLICATE_CONSUMPTION | EMITTER_NOT_REGISTERED | OWN_ANCHOR_INELIGIBLE
  | AMOUNT_CONFLICT | REVISION_OUT_OF_ORDER | ACCOUNT_MISMATCH | ASSIGNMENT_WITHOUT_OBLIGATION
  | PAID_REPLEDGE | CORRECTION_TARGET_MISSING | TOKEN_MISMATCH | CANCEL_EXCEEDS_PAID
  | LOAN_ASSET_MISMATCH | ALLOCATION_EXCEEDS_RECEIPT | UNKNOWN_EVENT_TYPE
deriving DecidableEq

/-- An entry of `exceptions`. -/
structure ExceptionEntry where
  code : ExceptionCode
  economicEventId : Option String
  observationId : Option String
deriving DecidableEq

/-- `Ledger`. -/
structure Ledger where
  economicEvents : List EconomicEvent
  receivables : String → Option Receivable
  settlements : Option String → Option Settlement
  cash : List CashEntry
  allocations : List Allocation
  facilityDebt : String → Option Int
  exceptions : List ExceptionEntry
  consumedSourceEvents : List String
  decisionsRevoked : List String

/-- `_key`. A missing reference prints as `None`. -/
def key (account : String) (ref : Option String) : String := account ++ "|" ++ ref.getD "None"

namespace Ledger

/-- The ledger before the first observation. -/
def initial (facilities : FacilityTable) : Ledger where
  economicEvents := []
  receivables := fun _ => none
  settlements := fun _ => none
  cash := []
  allocations := []
  facilityDebt := fun f => (facilities f).map (·.debt)
  exceptions := []
  consumedSourceEvents := []
  decisionsRevoked := []

variable (L : Ledger)

/-- `economic_events.get`. -/
def event (id : String) : Option EconomicEvent :=
  L.economicEvents.find? fun e => e.economicEventId == id

/-- Append to `exceptions`. -/
def except (code : ExceptionCode) (economicEventId observationId : Option String) : Ledger :=
  { L with exceptions := L.exceptions ++ [⟨code, economicEventId, observationId⟩] }

/-- Write a receivable. -/
def setReceivable (k : String) (r : Receivable) : Ledger :=
  { L with receivables := Function.update L.receivables k (some r) }

/-- `settlements.setdefault`, and a write to what it returns. -/
def withSettlement (id : Option String) (f : Settlement → Settlement) : Ledger :=
  { L with settlements :=
      Function.update L.settlements id (some (f ((L.settlements id).getD .empty))) }

/-- Append to `cash`. -/
def addCash (c : CashEntry) : Ledger := { L with cash := L.cash ++ [c] }

/-- `decisions_revoked.add(r.assigned_facility or "?")`. -/
def revoke (r : Receivable) : Ledger :=
  let facility := if truthy r.assignedFacility then r.assignedFacility.getD "?" else "?"
  { L with decisionsRevoked := L.decisionsRevoked.insert facility }

/-- The keys of `receivables`. An obligation among the events opens each of them. -/
def keys : List String := (L.economicEvents.map fun e => key e.account e.obligationRef).dedup

/-- `receivables.values()`. -/
def receivableValues : List Receivable := L.keys.filterMap L.receivables

/-- `eligibleUnpaid` of `summary`. -/
def eligibleUnpaid : Int :=
  ((L.receivableValues.filter fun r => (r.state = .RECOGNIZED ∨ r.state = .ASSIGNED ∨
    r.state = .PARTIALLY_PAID) ∧ r.trust = .PROVEN ∧ truthy r.assignedFacility = true).map
      (·.unpaid)).sum

end Ledger

/-! ### The merge -/

/-- The order of the merge: by the time of the observation, then by its id. -/
def Observation.before (a b : Observation) : Prop :=
  a.observedAt < b.observedAt ∨ (a.observedAt = b.observedAt ∧ a.observationId ≤ b.observationId)

instance : DecidableRel Observation.before := fun a b => inferInstanceAs (Decidable
  (a.observedAt < b.observedAt ∨ (a.observedAt = b.observedAt ∧ a.observationId ≤ b.observationId)))

namespace Observation

variable (o : Observation)

/-- The claimed locator is not the proven one. -/
def tampered : Bool :=
  match o.claimed, o.proven with
  | some claimed, some proven => !claimed.isEmpty && !proven.isEmpty &&
      ["height", "txIndex", "logOrdinal"].any fun k => claimed.lookup k != proven.lookup k
  | _, _ => false

/-- The source event that a native observation consumes. -/
def consumes : Option String :=
  if o.source = .CHAIN ∧ truthy o.sourceEventId = true ∧ o.consumed = true then o.sourceEventId
  else none

/-- The trust of an observation: a native one that is not consumed is only observed. -/
def mergedTrust : Trust :=
  if o.source = .CHAIN ∧ o.consumed = false then .OBSERVED else o.trust

/-- The event of a first observation. -/
def toEvent : EconomicEvent where
  economicEventId := o.economicEventId
  eventType := o.eventType
  account := o.account
  asset := o.asset
  amount := o.amount
  delta := o.delta
  revision := o.revision
  obligationRef := o.obligationRef
  facility := o.facility
  target := o.targetEconomicEventId
  trust := o.mergedTrust
  observedVia := [o.observationId]
  settlementId := o.settlementId
  sourceEventId := o.sourceEventId
  payer := o.payer
  payerIsBorrower := o.payerIsBorrower
  provenance := o.provenance

end Observation

namespace EconomicEvent

/-- Both amounts are known and differ. -/
def conflicts (e : EconomicEvent) (o : Observation) : Bool :=
  match e.amount, o.amount with
  | some a, some b => a ≠ b
  | _, _ => false

/-- One more observation of the event. A stronger one lends it its trust and its source event. -/
def observe (e : EconomicEvent) (o : Observation) : EconomicEvent :=
  let e := { e with observedVia := e.observedVia ++ [o.observationId] }
  if o.mergedTrust.rank > e.trust.rank then
    { e with
      trust := o.mergedTrust
      sourceEventId := o.sourceEventId.or e.sourceEventId }
  else e

end EconomicEvent

/-- The merge of an observation into its event. -/
def mergeEvent (L : Ledger) (o : Observation) : Ledger :=
  match L.event o.economicEventId with
  | none => { L with economicEvents := L.economicEvents ++ [o.toEvent] }
  | some e =>
    if e.conflicts o then
      L.except .AMOUNT_CONFLICT (some o.economicEventId) (some o.observationId)
    else
      { L with economicEvents := L.economicEvents.map fun e' =>
          if e'.economicEventId = o.economicEventId then e'.observe o else e' }

/-- The checks of a native observation after its consumption, and the merge. -/
def mergeChecked (L : Ledger) (o : Observation) : Ledger :=
  if o.source = .CHAIN ∧ o.emitterRegistered = some false then
    L.except .EMITTER_NOT_REGISTERED none (some o.observationId)
  else if o.source = .CHAIN ∧ o.anchor = true then
    L.except .OWN_ANCHOR_INELIGIBLE none (some o.observationId)
  else mergeEvent L o

/-- One turn of the first loop of `reconcile`. -/
def merge (L : Ledger) (o : Observation) : Ledger :=
  if o.source = .CHAIN ∧ o.tampered = true then
    L.except .LOCATOR_TAMPERED none (some o.observationId)
  else
    match o.consumes with
    | none => mergeChecked L o
    | some sev =>
      if sev ∈ L.consumedSourceEvents then
        L.except .DUPLICATE_CONSUMPTION none (some o.observationId)
      else mergeChecked { L with consumedSourceEvents := sev :: L.consumedSourceEvents } o

/-! ### The events -/

section
variable (facilities : FacilityTable) (e : EconomicEvent) (L : Ledger)

/-- The row of the facility that an event names. -/
def facilityRow : Option FacilityRow := e.facility.bind facilities

/-- An exception of an event. -/
def refuse (code : ExceptionCode) : Option Ledger :=
  some (L.except code (some e.economicEventId) none)

/-- `OBLIGATION`. -/
def obligation : Option Ledger :=
  let k := key e.account e.obligationRef
  match L.receivables k with
  | some r =>
    if e.revision ≤ r.revision then refuse e L .REVISION_OUT_OF_ORDER
    else do
      let amount ← e.amount
      return L.setReceivable k { r with
        net := amount
        revision := e.revision
        trust := if e.trust.rank ≥ r.trust.rank then e.trust else r.trust }
  | none => do
    let amount ← e.amount
    return L.setReceivable k
      { receivableId := k, economicEventId := e.economicEventId, account := e.account,
        obligationRef := e.obligationRef, asset := e.asset, net := amount, paid := 0,
        revision := e.revision, state := .RECOGNIZED, assignedFacility := none, trust := e.trust,
        usedInDecision := false }

/-- `ASSIGNMENT`. -/
def assignment : Option Ledger :=
  let k := key e.account e.obligationRef
  if (facilityRow facilities e).bind (·.account) ≠ some e.account then
    refuse e L .ACCOUNT_MISMATCH
  else
    match L.receivables k with
    | none => refuse e L .ASSIGNMENT_WITHOUT_OBLIGATION
    | some r =>
      if r.state = .PAID then refuse e L .PAID_REPLEDGE
      else some (L.setReceivable k { r with
        assignedFacility := e.facility
        state := if r.paid = 0 then .ASSIGNED else .PARTIALLY_PAID })

/-- `CORRECTION`. -/
def correction : Option Ledger :=
  match (e.target.bind L.event).map fun t => key e.account t.obligationRef with
  | none => refuse e L .CORRECTION_TARGET_MISSING
  | some k =>
    match L.receivables k with
    | none => refuse e L .CORRECTION_TARGET_MISSING
    | some r =>
      if e.revision ≠ r.revision + 1 then refuse e L .REVISION_OUT_OF_ORDER
      else do
        let delta ← e.delta
        let r := { r with
          net := r.net + delta
          revision := e.revision }
        let L := if r.usedInDecision ∧ r.unpaid < 0 ∨ r.usedInDecision ∧ delta < 0 then L.revoke r
          else L
        return L.setReceivable k (if r.net ≤ r.paid then { r with state := .PAID } else r)

/-- The receivable that a payout names, with its key. -/
def payoutTarget : Option (String × Receivable) :=
  if truthy e.obligationRef then
    let k := key e.account e.obligationRef
    (L.receivables k).map fun r => (k, r)
  else none

/-- The provenance of a payout to `r`. -/
def payoutProvenance (r : Option (String × Receivable)) : Provenance :=
  if truthy e.payer ∧ e.payerIsBorrower = true then .SELF_TRANSFER
  else
    match e.provenance with
    | some (.other "") | none => if r.isSome then .PROVIDER_SETTLEMENT else .UNCLASSIFIED
    | some p => p

/-- `PAYOUT`. -/
def payout : Option Ledger := do
  let r := payoutTarget e L
  let mismatch := r.any fun r => r.2.asset ≠ e.asset
  let L := if mismatch then L.except .TOKEN_MISMATCH (some e.economicEventId) none else L
  let provenance := payoutProvenance e r
  let amount ← e.amount
  let L := L.addCash ⟨.SOURCE_ESCROW, amount, e.settlementId, some provenance,
    some e.economicEventId⟩
  let L := match r with
    | some (k, r) =>
      if mismatch = false ∧ provenance = .PROVIDER_SETTLEMENT then
        let paid := r.paid + amount
        L.setReceivable k { r with
          paid := paid
          state := if paid ≥ r.net then .PAID
            else if truthy r.assignedFacility then .PARTIALLY_PAID else .RECOGNIZED }
      else L
    | none => L
  if truthy e.settlementId then
    return L.withSettlement e.settlementId fun s => { s with
      sourceAmount := s.sourceAmount + amount
      allocations := match r with
        | some (_, r) => Function.update s.allocations r.receivableId
            (some ((s.allocations r.receivableId).getD 0 + amount))
        | none => s.allocations }
  else return L

/-- `CANCELLATION`. -/
def cancellation : Option Ledger :=
  let k := key e.account e.obligationRef
  match L.receivables k with
  | none => refuse e L .CANCEL_EXCEEDS_PAID
  | some r => do
    let amount ← e.amount
    if r.paid < amount then refuse e L .CANCEL_EXCEEDS_PAID
    else
      let paid := r.paid - amount
      let L := L.setReceivable k { r with
        paid := paid
        state := if paid ≠ 0 then .PARTIALLY_PAID
          else if truthy r.assignedFacility then .ASSIGNED else .RECOGNIZED }
      let L := L.addCash ⟨.SOURCE_ESCROW, -amount, e.settlementId, some .REFUND_OR_REVERSAL,
        some e.economicEventId⟩
      return if r.usedInDecision then L.revoke r else L

/-- `LEG`. -/
def leg : Option Ledger := do
  let amount ← e.amount
  let L := L.withSettlement e.settlementId fun s => { s with
    legs := s.legs ++ [⟨amount, none, e.asset, none⟩] }
  let L := L.addCash ⟨.SOURCE_ESCROW, -amount, e.settlementId, none, none⟩
  return L.addCash ⟨.IN_FLIGHT, amount, e.settlementId, none, none⟩

/-- `DESTINATION_RECEIPT`. -/
def destinationReceipt : Option Ledger := do
  let amount ← e.amount
  let L := L.withSettlement e.settlementId fun s => { s with
    destinationAmount := s.destinationAmount + amount }
  let L := L.addCash ⟨.IN_FLIGHT, -amount, e.settlementId, none, none⟩
  return L.addCash ⟨.DESTINATION, amount, e.settlementId, none, none⟩

/-- The destination cash of a settlement. -/
def received (cash : List CashEntry) (id : Option String) : Int :=
  ((cash.filter fun c => c.place = .DESTINATION ∧ c.settlementId = id).map (·.amount)).sum

/-- What is allocated of a settlement. -/
def allocated (allocations : List Allocation) (id : Option String) : Int :=
  ((allocations.filter fun a => a.settlementId = id).map (·.amount)).sum

/-- `ALLOCATION`. -/
def allocation : Option Ledger :=
  match e.facility with
  | none => refuse e L .LOAN_ASSET_MISMATCH
  | some fid =>
    if (facilities fid).bind (·.loanAsset) ≠ some e.asset then refuse e L .LOAN_ASSET_MISMATCH
    else do
      let amount ← e.amount
      if allocated L.allocations e.settlementId + amount > received L.cash e.settlementId then
        refuse e L .ALLOCATION_EXCEEDS_RECEIPT
      else
        let debt := (L.facilityDebt fid).getD 0
        let applied := min amount debt
        return { L with
          facilityDebt := Function.update L.facilityDebt fid (some (debt - applied))
          allocations := L.allocations ++ [⟨fid, amount, applied, amount - applied, e.settlementId⟩] }

/-- `DECISION_USE`. -/
def decisionUse : Option Ledger :=
  let k := key e.account e.obligationRef
  match L.receivables k with
  | none => some L
  | some r => some (L.setReceivable k { r with usedInDecision := true })

/-- One turn of the second loop of `reconcile`. -/
def apply : Option Ledger :=
  match e.eventType with
  | .OBLIGATION => obligation e L
  | .ASSIGNMENT => assignment facilities e L
  | .CORRECTION => correction e L
  | .PAYOUT => payout e L
  | .CANCELLATION => cancellation e L
  | .LEG => leg e L
  | .DESTINATION_RECEIPT => destinationReceipt e L
  | .ALLOCATION => allocation facilities e L
  | .DECISION_USE => decisionUse e L
  | .other _ => refuse e L .UNKNOWN_EVENT_TYPE

end

/-- The ledger after the merge. -/
def merged (facilities : FacilityTable) (obs : List Observation) : Ledger :=
  (obs.insertionSort Observation.before).foldl merge (.initial facilities)

/-- `reconcile`. -/
def reconcile (facilities : FacilityTable) (obs : List Observation) : Option Ledger :=
  let L := merged facilities obs
  L.economicEvents.foldlM (fun L e => apply facilities e L) L

end Rackline.Reconciler
