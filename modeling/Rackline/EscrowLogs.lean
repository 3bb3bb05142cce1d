import Rackline.Evm.Bytes
import Rackline.NativeIngest

/-!
# `Rackline.EscrowLogs`: the logs of the escrow in bytes, and the booking of them

`Wiring.logOf` is the receipt log of an event of `SourceEscrow`: the hash of the signature, the
indexed arguments as topics, and one word for each of the others. `keyOf` is the economic key that
`ingest` derives from a claim about a log, and `ReceivableClaim.Matches` the check that
`ClaimMismatch` guards.

`EscrowBooking` is a run of one escrow next to an evidence book. The escrow emits; the book consumes
the emitted logs in any order, each for some provider and with some claim that passes the check.
`booked` is a history variable: what was consumed, in order.
-/

set_option autoImplicit false

namespace Rackline

open Evm Transition

/-- The arguments of a call are values of the types that the function has. -/
def SourceCall.Typed : SourceCall → Prop
  | .recognizeObligation _ _ _ _ amount dueAt => amount < wordSize 256 ∧ dueAt < wordSize 64
  | .correctObligation _ _ delta _ => -(2 : Int) ^ 255 ≤ delta ∧ delta < (2 : Int) ^ 255
  | .reserveCheckpoint _ until_ => until_ < wordSize 64
  | .settle _ _ _ amount _ _ => amount < wordSize 256
  | .cancelPayout seq _ => seq < wordSize 64
  | .depositUnattributed _ amount _ => amount < wordSize 256
  | .withdraw _ amount _ => amount < wordSize 256
  | _ => True

instance (c : SourceCall) : Decidable c.Typed := by
  cases c <;> unfold SourceCall.Typed <;> infer_instance

/-! ### Logs -/

/-- `bytes32(uint256(uint160(a)))`. -/
def Address.toWord (a : Address) : Nat :=
  let n : Fin (2 ^ 160) := a
  n.val

/-- The topic of an indexed address. -/
def Address.toTopic (a : Address) : Bytes32 := Fin.ofNat (2 ^ 256) a.toWord

namespace SourceEvent

/-- The indexed arguments. -/
def indexed : SourceEvent → List Bytes32
  | .obligationRecognized a ref issuer .. => [a, ref, issuer.toTopic]
  | .obligationRecognizedV2 a ref issuer .. => [a, ref, issuer.toTopic]
  | .obligationAssigned a ref facilityKey _ => [a, ref, facilityKey]
  | .obligationCorrected a ref .. => [a, ref]
  | .payoutReceived a ref token .. => [a, ref, token.toTopic]
  | .payoutCancelled a ref .. => [a, ref]
  | .sourceCheckpoint a .. => [a]
  | .sourceCheckpointV2 a .. => [a]

/-- The other arguments, a word each. A negative `int256` is its two's complement. -/
def words : SourceEvent → List Nat
  | .obligationRecognized _ _ _ payer payee amount dueAt revision =>
    [payer.toWord, payee.toWord, amount, dueAt, revision]
  | .obligationRecognizedV2 _ _ _ payer payee token amount dueAt revision =>
    [payer.toWord, payee.toWord, token.toWord, amount, dueAt, revision]
  | .obligationAssigned _ _ _ revision => [revision]
  | .obligationCorrected _ _ delta revision reason =>
    [(delta % (2 : Int) ^ 256).toNat, revision, reason]
  | .payoutReceived _ _ _ payer amount seq => [payer.toWord, amount, seq]
  | .payoutCancelled _ _ seq amount => [seq, amount]
  | .sourceCheckpoint _ seq latestRevision openAmount paidCumulative =>
    [seq, latestRevision, openAmount, paidCumulative]
  | .sourceCheckpointV2 _ seq latestRevision openAmount paidCumulative observedAt until_ =>
    [seq, latestRevision, openAmount, paidCumulative, observedAt, until_]

end SourceEvent

namespace Native

/-- `abi.encode` of words. -/
def Abi.encode (words : List Nat) : Bytes := words.flatMap (bigEndian 32)

/-- The receipt log of an event that the escrow at `self` emits. -/
def Wiring.logOf (w : Wiring) (self : Address) (e : SourceEvent) : LogEntry where
  address_ := self
  topics := w.signature e.topic :: e.indexed
  data := Abi.encode e.words

/-- The check of `_apply` on a claim about a log: `ClaimMismatch` unless the hash of the claim is
that of the log. -/
def ReceivableClaim.Matches (w : Wiring) (log : LogEntry) (c : ReceivableClaim) : Prop :=
  let topic0 := log.topics.headD 0
  match w.topicOf topic0 with
  | .ok topic => (⟨topicsFor topic.kind topic0 c, c.data⟩ : DataHash) = log.dataHash
  | .error _ => False

instance (w : Wiring) (log : LogEntry) (c : ReceivableClaim) : Decidable (c.Matches w log) := by
  unfold ReceivableClaim.Matches
  dsimp only
  split <;> infer_instance

/-- The economic key that `ingest` derives from a claim about a log, asked for by its signature. -/
def keyOf (w : Wiring) (providerId : ProviderId) (log : LogEntry) (c : ReceivableClaim) :
    Except IngestRevert EconomicId :=
  (instructionOf w providerId [log.topics.headD 0] c).map (·.economicEventId)

/-- The two logs are the two forms of one recognition. -/
inductive SameRecognition : SourceEvent → SourceEvent → Prop
  | first (a : AccountKey) (ref : Bytes32) (issuer payer payee token : Address)
      (amount dueAt revision : Nat) :
      SameRecognition (.obligationRecognized a ref issuer payer payee amount dueAt revision)
        (.obligationRecognizedV2 a ref issuer payer payee token amount dueAt revision)
  | second (a : AccountKey) (ref : Bytes32) (issuer payer payee token : Address)
      (amount dueAt revision : Nat) :
      SameRecognition
        (.obligationRecognizedV2 a ref issuer payer payee token amount dueAt revision)
        (.obligationRecognized a ref issuer payer payee amount dueAt revision)

/-! ### Booking -/

/-- A log that was consumed for a provider, by its place among the logs, under its economic key. -/
structure Booked where
  providerId : ProviderId
  log : Nat
  key : EconomicId

/-- The escrow with the logs that it emitted, the evidence book, and what was consumed. -/
structure EscrowBooking where
  escrow : SourceEscrow
  logs : List SourceEvent
  evidence : EvidenceBook
  booked : List Booked

/-- Both contracts, just deployed. -/
def EscrowBooking.initial (self owner : Address) : EscrowBooking where
  escrow := .initial self owner
  logs := []
  evidence := .initial
  booked := []

/-- A call of the escrow, or the consumption of one of its logs. The log is the `ordinal`-th of the
receipt at `height` and `txIndex`. -/
inductive BookingCall
  | emit (tx : SourceTx)
  | consume (reg : ProviderRegistry) (now : Nat) (v : Verifier) (height txIndex ordinal : Nat)
      (log : Nat) (claim : ReceivableClaim)

/-- `EvidenceBook._consumeOne` for the book, of what the verifier makes of a log, with the
instruction that `ingest` derives from the claim. -/
def consumeLog (w : Wiring) (reg : ProviderRegistry) (now : Nat) (v : Verifier)
    (height txIndex ordinal : Nat) (log : LogEntry) (c : ReceivableClaim) (ev : EvidenceBook) :
    Except IngestRevert (EvidenceRecord × EvidenceBook) := do
  let ins ← instructionOf w v.providerId [log.topics.headD 0] c
  ev.consumeOne w reg w.book now v.providerId v.verificationMethod
    (ev.selfAsserted v.providerId log.address_) (v.event height txIndex log ordinal) ins

/-- A call that returns. A consumption whose claim does not match is undone with its transaction. -/
def EscrowBooking.call (w : Wiring) (s : EscrowBooking) : BookingCall → Option EscrowBooking
  | .emit tx => do
    guard tx.2.Typed
    let (events, escrow) ← (s.escrow.call tx.1 tx.2).toOption
    return { s with
      escrow := escrow
      logs := s.logs ++ events }
  | .consume reg now v height txIndex ordinal log claim => do
    let e ← s.logs[log]?
    let entry := w.logOf s.escrow.self e
    guard (claim.Matches w entry)
    let (r, evidence) ←
      (consumeLog w reg now v height txIndex ordinal entry claim s.evidence).toOption
    return { s with
      evidence := evidence
      booked := s.booked ++ [⟨v.providerId, log, r.economicEventId⟩] }

/-- The steps of a run. -/
def BookingStep (w : Wiring) (s : EscrowBooking) (a : BookingCall) (s' : EscrowBooking) : Prop :=
  s.call w a = some s'

/-- The states of any run. -/
def BookingReachable (w : Wiring) : EscrowBooking → Prop :=
  Reachable (fun s => ∃ self owner, s = .initial self owner) (BookingStep w)

/-- Run a list of calls. -/
def EscrowBooking.run (w : Wiring) (s : EscrowBooking) : List BookingCall → Option EscrowBooking
  | [] => some s
  | a :: rest => do
    let s ← s.call w a
    s.run w rest

theorem EscrowBooking.run_steps {w : Wiring} : ∀ {as : List BookingCall} {s s' : EscrowBooking},
    s.run w as = some s' → Steps (BookingStep w) s as s' := by
  intro as
  induction as with
  | nil =>
    intro s s' h
    cases h
    exact .nil s
  | cons a rest ih =>
    intro s s' h
    obtain ⟨mid, hcall, h⟩ := Option.bind_eq_some_iff.mp h
    exact .cons hcall (ih h)

end Native

end Rackline
