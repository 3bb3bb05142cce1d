import Rackline.NativeEvidence

/-!
# `Rackline.NativeIngest`: from receipt logs to the receivable book

`ReceivableBook.ingest`, with the bytes that it gets. A submitter names logs of one transaction by
their index and says, claim by claim, what their topics and data are. The evidence book consumes
the logs, and the book applies a claim when its hash is the one of the log's record. What it applies
is what the topics and the data decode to, and from there on the book is that of
`Rackline.ReceivableBook`.

A call that reverts leaves everything as it is. `history` is a history variable: the records that
were made, in order.
-/

set_option autoImplicit false

namespace Rackline.Native

open Evm Transition

/-! ### Decoding -/

namespace Abi

variable (data : Bytes) (i : Nat)

/-- The `i`-th word of the data. -/
def word : Option Nat :=
  let chunk := (data.drop (32 * i)).take 32
  if chunk.length = 32 then some (chunk.foldl (fun acc b => 256 * acc + b.toNat) 0) else none

/-- A `uint` of so many bits. -/
def uint (bits : Nat) : Option Nat := do
  let x ← word data i
  if x < 2 ^ bits then some x else none

/-- An `address`. -/
def address : Option Address := do
  let x ← word data i
  if h : x < 2 ^ 160 then some (⟨x, h⟩ : Fin (2 ^ 160)) else none

/-- An `int256`. -/
def int256 : Option Int := do
  let x ← word data i
  some (if x < 2 ^ 255 then (x : Int) else (x : Int) - 2 ^ 256)

end Abi

/-- `address(uint160(uint256(word)))`. -/
def toAddress (word : Bytes32) : Address :=
  let w : Fin (2 ^ 256) := word
  Fin.ofNat (2 ^ 160) w.val

open Abi in
/-- What a log with this signature says: the `abi.decode` of its handler, with its topics. -/
def decodeEvent (accountKey : AccountKey) (topic2 topic3 : Bytes32) (data : Bytes) :
    Topic → Option SourceEvent
  | .obligationRecognized => do
    let payer ← address data 0
    let payee ← address data 1
    let amount ← uint data 2 256
    let dueAt ← uint data 3 64
    let revision ← uint data 4 32
    return .obligationRecognized accountKey topic2 (toAddress topic3) payer payee amount dueAt
      revision
  | .obligationRecognizedV2 => do
    let payer ← address data 0
    let payee ← address data 1
    let token ← address data 2
    let amount ← uint data 3 256
    let dueAt ← uint data 4 64
    let revision ← uint data 5 32
    return .obligationRecognizedV2 accountKey topic2 (toAddress topic3) payer payee token amount
      dueAt revision
  | .obligationAssigned => do
    let revision ← uint data 0 32
    return .obligationAssigned accountKey topic2 topic3 revision
  | .obligationCorrected => do
    let delta ← int256 data 0
    let revision ← uint data 1 32
    let reason ← uint data 2 8
    return .obligationCorrected accountKey topic2 delta revision reason
  | .payoutReceived => do
    let payer ← address data 0
    let amount ← uint data 1 256
    let seq ← uint data 2 64
    return .payoutReceived accountKey topic2 (toAddress topic3) payer amount seq
  | .payoutCancelled => do
    let seq ← uint data 0 64
    let amount ← uint data 1 256
    return .payoutCancelled accountKey topic2 seq amount
  | .sourceCheckpoint => do
    let seq ← uint data 0 64
    let latestRevision ← uint data 1 32
    let openAmount ← uint data 2 256
    let paidCumulative ← uint data 3 256
    return .sourceCheckpoint accountKey seq latestRevision openAmount paidCumulative
  | .sourceCheckpointV2 => do
    let seq ← uint data 0 64
    let latestRevision ← uint data 1 32
    let openAmount ← uint data 2 256
    let paidCumulative ← uint data 3 256
    let observedAt ← uint data 4 64
    let until_ ← uint data 5 64
    return .sourceCheckpointV2 accountKey seq latestRevision openAmount paidCumulative observedAt
      until_

/-- The signatures that the book knows. -/
def Topic.all : List Topic :=
  [.obligationRecognized, .obligationRecognizedV2, .obligationAssigned, .obligationCorrected,
    .payoutReceived, .payoutCancelled, .sourceCheckpoint, .sourceCheckpointV2]

/-- `_kindOf`: which signature a topic is. -/
def Wiring.topicOf (w : Wiring) (topic0 : Bytes32) : Except IngestRevert Topic :=
  match Topic.all.find? fun t => decide (w.signature t = topic0) with
  | none => .error (.unknownTopic topic0)
  | some t => .ok t

/-- What a receipt log says, as its own topics and data have it. -/
def Wiring.decodeLog (w : Wiring) (log : LogEntry) : Option SourceEvent := do
  let topic0 ← log.topics[0]?
  let accountKey ← log.topics[1]?
  let topic ← (w.topicOf topic0).toOption
  decodeEvent accountKey (log.topics.getD 2 0) (log.topics.getD 3 0) log.data topic

/-! ### Claims -/

/-- `IReceivableBook.ReceivableClaim`. -/
structure ReceivableClaim where
  logOrdinal : Nat
  accountKey : AccountKey
  topic2 : Bytes32
  topic3 : Bytes32
  data : Bytes
  validUntil : Nat

/-- The tuple that `_economicKey` decodes: a recognition by the length of its data, a checkpoint
without its times. -/
def shape (data : Bytes) : Kind → Topic
  | .recognized => if data.length = 192 then .obligationRecognizedV2 else .obligationRecognized
  | .assigned => .obligationAssigned
  | .corrected => .obligationCorrected
  | .payout => .payoutReceived
  | .payoutCancelled => .payoutCancelled
  | .checkpoint => .sourceCheckpoint

/-- `_economicKey`. -/
def economicKey (providerId : ProviderId) (c : ReceivableClaim) (kind : Kind) :
    Except IngestRevert EconomicId :=
  match decodeEvent c.accountKey c.topic2 c.topic3 c.data (shape c.data kind) with
  | none => .error .abi
  | some event =>
    .ok (.derived { providerId := providerId, accountKey := c.accountKey, kind := kind,
                    topic2 := c.topic2, seqOrRev := event.seqOrRev })

/-- `_topicsFor`. -/
def topicsFor (kind : Kind) (topic0 : Bytes32) (c : ReceivableClaim) : List Bytes32 :=
  match kind with
  | .checkpoint => [topic0, c.accountKey]
  | .corrected => [topic0, c.accountKey, c.topic2]
  | .payoutCancelled => [topic0, c.accountKey, c.topic2]
  | _ => [topic0, c.accountKey, c.topic2, c.topic3]

/-- The instruction that `ingest` derives from a claim, with `_kindOfClaim`. -/
def instructionOf (w : Wiring) (providerId : ProviderId) (topic0s : List Bytes32)
    (c : ReceivableClaim) : Except IngestRevert ConsumeInstruction :=
  match topic0s with
  | [topic0] => do
    let topic ← w.topicOf topic0
    let economicEventId ← economicKey providerId c topic.kind
    return { logOrdinal := c.logOrdinal, economicEventId := economicEventId,
             accountKey := c.accountKey, validUntil := c.validUntil }
  | _ => .error (.unknownTopic 0)

/-! ### Applying -/

/-- The registries and the evidence book as the handlers of the book see them. -/
def ProviderRegistry.providers (reg : ProviderRegistry) (w : Wiring) (ev : EvidenceBook)
    (emitter : Address) : Providers where
  provider providerId := (reg.provider providerId).map fun cfg =>
    { executionProfile := cfg.executionProfile, sourceChainId := cfg.sourceChain.chainId,
      manifestHash := cfg.sourceChain.manifestHash }
  isAdmitted := reg.isAdmitted
  isIssuer := reg.isIssuer
  isTokenAdmitted := reg.isTokenAdmitted
  emitterMeaning providerId topic := reg.emitterMeaning providerId emitter (w.signature topic)
  borrowerOfWallet := reg.borrowerOfWallet
  borrowerOfAccount := reg.borrowerOfAccount
  evidencePaused := ev.evidencePaused
  isConsumer := ev.consumers w.book
  verificationMethod providerId :=
    (w.verifierAt (ev.verifiers providerId)).map Verifier.verificationMethod
  selfAsserted providerId := ev.selfAsserted providerId emitter
  maxValidity := w.maxValidity

/-- The part of a record that the handlers read. -/
def EvidenceRecord.handed (r : EvidenceRecord) : Rackline.EvidenceRecord :=
  { meaning := r.meaning, method := r.method, trust := r.trust, provenAt := r.provenAt,
    validUntil := r.validUntil }

/-- A revert of the book. -/
def liftBook {α : Type} (x : Except BookRevert α) : Except IngestRevert α :=
  x.mapError .book

section
variable (w : Wiring) (now : Nat) (reg : ProviderRegistry) (ev : EvidenceBook)
  (providerId : ProviderId)

/-- The handler of an event, for a record. -/
def handle (r : EvidenceRecord) (event : SourceEvent) (b : ReceivableBook) :
    Except BookRevert ReceivableBook :=
  b.dispatch now (reg.providers w ev r.emitter) r.emitter providerId r.handed event

/-- `_apply`. -/
def apply (r : EvidenceRecord) (c : ReceivableClaim) (b : ReceivableBook) :
    Except IngestRevert ReceivableBook := do
  let topic ← w.topicOf r.topic0
  let cfg ← reg.config providerId
  revertIf (r.trust ≠ .proven ∨ r.method = .offchainAssertion ∨
    (cfg.executionProfile ≠ .localMock ∧ r.method ≠ .attestcoinNative)) (.book .untrustedEvidence)
  revertIf (r.meaning ≠ topic.kind.expectedMeaning)
    (.book (.meaningMismatch topic.kind.expectedMeaning r.meaning))
  revertIf ((⟨topicsFor topic.kind r.topic0 c, c.data⟩ : DataHash) ≠ r.dataHash)
    (.book .claimMismatch)
  match decodeEvent c.accountKey c.topic2 c.topic3 c.data topic with
  | none => .error .abi
  | some event => liftBook (handle w now reg ev providerId r event b)

/-- The loop of `ingest` over the records. -/
def applyAll : List EvidenceRecord → List ReceivableClaim → ReceivableBook →
    Except IngestRevert ReceivableBook
  | r :: recs, c :: claims, b => do
    let b ← apply w now reg ev providerId r c b
    applyAll recs claims b
  | _, _, b => .ok b

end

/-! ### Runs -/

/-- The two contracts, and the records made so far. -/
structure Destination where
  evidence : EvidenceBook
  book : ReceivableBook
  history : List EvidenceRecord

/-- The destination chain after deployment. -/
def Destination.initial : Destination := ⟨.initial, .initial, []⟩

/-- The calls that write either contract. -/
inductive IngestCall
  | ingest (reg : ProviderRegistry) (answers : NativeAnswers) (providerId : ProviderId)
      (envelope : NativeProofEnvelope) (expectedEmitter : Address) (topic0s : List Bytes32)
      (claims : List ReceivableClaim)
  /-- `consume` by a consumer that is not the book. -/
  | consume (reg : ProviderRegistry) (answers : NativeAnswers) (providerId : ProviderId)
      (envelope : NativeProofEnvelope) (expectedEmitter : Address) (topic0s : List Bytes32)
      (instructions : List ConsumeInstruction)
  | bindVerifier (reg : ProviderRegistry) (providerId : ProviderId) (verifier : Address)
  | setConsumer (consumer : Address) (allowed : Bool)
  | setSelfAssertedEmitter (providerId : ProviderId) (emitter : Address) (selfAsserted : Bool)
  | finalizeWiring
  | pauseEvidenceIntake (paused : Bool)
  | registerFacility (reg : ProviderRegistry) (facilityId : FacilityId) (borrowerId : Bytes32)
      (providerId : ProviderId) (sourceAsset : AssetRef)
  | setDisputed (id : ReceivableId) (disputed : Bool)

namespace Destination

variable (w : Wiring) (m : Msg) (d : Destination)

/-- `ingest`. -/
def ingest (reg : ProviderRegistry) (answers : NativeAnswers) (providerId : ProviderId)
    (envelope : NativeProofEnvelope) (expectedEmitter : Address) (topic0s : List Bytes32)
    (claims : List ReceivableClaim) : Except IngestRevert Destination := do
  liftBook (requireSubmitter m)
  let instructions ← claims.mapM (instructionOf w providerId topic0s)
  let (recs, evidence) ← d.evidence.consume w reg w.book m.now answers providerId envelope
    expectedEmitter topic0s instructions
  let book ← applyAll w m.now reg evidence providerId recs claims d.book
  return ⟨evidence, book, d.history ++ recs⟩

/-- One call. -/
def call : IngestCall → Except IngestRevert Destination
  | .ingest reg answers providerId envelope expectedEmitter topic0s claims =>
    d.ingest w m reg answers providerId envelope expectedEmitter topic0s claims
  | .consume reg answers providerId envelope expectedEmitter topic0s instructions => do
    let (recs, evidence) ← d.evidence.consume w reg m.sender m.now answers providerId envelope
      expectedEmitter topic0s instructions
    return { d with evidence := evidence, history := d.history ++ recs }
  | .bindVerifier reg providerId verifier =>
    (d.evidence.bindVerifier w m reg providerId verifier).map fun ev => { d with evidence := ev }
  | .setConsumer consumer allowed =>
    (d.evidence.setConsumer m consumer allowed).map fun ev => { d with evidence := ev }
  | .setSelfAssertedEmitter providerId emitter selfAsserted =>
    (d.evidence.setSelfAssertedEmitter m providerId emitter selfAsserted).map fun ev =>
      { d with evidence := ev }
  | .finalizeWiring => (d.evidence.finalizeWiring m).map fun ev => { d with evidence := ev }
  | .pauseEvidenceIntake paused =>
    (d.evidence.pauseEvidenceIntake m paused).map fun ev => { d with evidence := ev }
  | .registerFacility reg facilityId borrowerId providerId sourceAsset =>
    (liftBook (d.book.registerFacility w.facilityKey m (reg.providers w d.evidence 0) facilityId
      borrowerId providerId sourceAsset)).map fun b => { d with book := b }
  | .setDisputed id disputed =>
    (liftBook (d.book.setDisputed m id disputed)).map fun b => { d with book := b }

/-- A call that reverts leaves everything as it is. -/
def perform (c : IngestCall) : Destination := ((d.call w m c).toOption).getD d

end Destination

/-- A transaction and its context. -/
abbrev IngestTx : Type := Msg × IngestCall

/-- What a transaction relies on: the precompile is sound, and only `ingest` speaks for the book. -/
def IngestTx.Sound (tx : IngestTx) (w : Wiring) (world : SourceWorld) : Prop :=
  match tx.2 with
  | .ingest _ answers _ envelope _ _ _ => answers.Sound world envelope
  | .consume _ answers _ envelope _ _ _ => answers.Sound world envelope ∧ tx.1.sender ≠ w.book
  | _ => True

/-- The steps of the destination chain. -/
def IngestStep (w : Wiring) (world : SourceWorld) (d : Destination) (tx : IngestTx)
    (d' : Destination) : Prop :=
  tx.Sound w world ∧ d.perform w tx.1 tx.2 = d'

/-- Every list of sound transactions is a run. -/
theorem Destination.steps_foldl {w : Wiring} {world : SourceWorld} :
    ∀ {txs : List IngestTx} {d : Destination}, (∀ tx ∈ txs, tx.Sound w world) →
      Steps (IngestStep w world) d txs (txs.foldl (fun d tx => d.perform w tx.1 tx.2) d) := by
  intro txs
  induction txs with
  | nil =>
    intro d _
    exact .nil d
  | cons tx rest ih =>
    intro d hsound
    refine .cons ⟨hsound tx List.mem_cons_self, rfl⟩ ?_
    exact ih fun tx' hmem => hsound tx' (List.mem_cons_of_mem _ hmem)

end Rackline.Native
