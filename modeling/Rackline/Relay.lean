import Rackline.ObligationLog
import Rackline.ReceivableBook

/-!
# `Rackline.Relay`: runs of the escrow and the book

The two chains run on one clock. The escrow emits logs; relayers bring them to the book in any
order, or not at all. A log can be brought once it is emitted, by anyone, any number of times: what
is accepted is up to the evidence book and the book.

`Relay` is the state of both chains. `logs` are the logs that the escrow emitted, in order, and the
place of a log in it is its identity. `ingested` is a history variable: the facts that the book took
for a provider, in order.

A call that reverts leaves everything as it is.
-/

set_option autoImplicit false

namespace Rackline

open Evm Transition

/-- The calls on either chain. -/
inductive RelayCall
  | source (call : SourceCall)
  | ingest (reg : Providers) (providerId : ProviderId) (log : Nat) (claim : ReceivableClaim)
  | registerFacility (reg : Providers) (facilityId : FacilityId) (borrowerId : Bytes32)
      (providerId : ProviderId) (sourceAsset : AssetRef)
  | setDisputed (id : ReceivableId) (disputed : Bool)

/-- The two chains. -/
structure Relay where
  now : Nat
  escrow : SourceEscrow
  logs : List SourceEvent
  destination : Destination
  ingested : ProviderId → List SourceEvent

/-- Both contracts, just deployed. -/
def Relay.initial (self owner : Address) : Relay where
  now := 0
  escrow := .initial self owner
  logs := []
  destination := .initial
  ingested := fun _ => []

namespace Relay

/-- The book. -/
def book (s : Relay) : ReceivableBook := s.destination.book

/-- A call, if it returns. -/
def call (facilityKey : FacilityId → Bytes32) (m : Msg) (s : Relay) : RelayCall → Option Relay
  | .source c => do
    let (events, escrow) ← (s.escrow.call ⟨m.sender, m.now⟩ c).toOption
    return { s with escrow := escrow, logs := s.logs ++ events }
  | .ingest reg providerId log claim => do
    let event ← s.logs[log]?
    let destination ←
      (s.destination.ingest m reg s.escrow.self providerId log event claim).toOption
    let facts := s.ingested providerId ++ [event.fact]
    return { s with
      destination := destination
      ingested := Function.update s.ingested providerId facts }
  | .registerFacility reg facilityId borrowerId providerId sourceAsset => do
    let destination ← (s.destination.call facilityKey m
      (.registerFacility reg facilityId borrowerId providerId sourceAsset)).toOption
    return { s with destination := destination }
  | .setDisputed id disputed => do
    let destination ← (s.destination.call facilityKey m (.setDisputed id disputed)).toOption
    return { s with destination := destination }

/-- One transaction on either chain, at a time that is not over. When it reverts, only time has
passed. -/
def perform (facilityKey : FacilityId → Bytes32) (s : Relay) (a : Msg × RelayCall) : Relay :=
  { (s.call facilityKey a.1 a.2).getD s with now := a.1.now }

end Relay

/-- The steps of the two chains: time does not go back. -/
def RelayStep (facilityKey : FacilityId → Bytes32) (s : Relay) (a : Msg × RelayCall) (s' : Relay) :
    Prop :=
  s.now ≤ a.1.now ∧ s.perform facilityKey a = s'

/-- The states of both chains before any transaction. -/
def Relay.Initial (s : Relay) : Prop := ∃ self owner, s = .initial self owner

/-- The states of any run of the two chains. -/
def RelayReachable (facilityKey : FacilityId → Bytes32) : Relay → Prop :=
  Reachable Relay.Initial (RelayStep facilityKey)

end Rackline
