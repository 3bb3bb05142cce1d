import Rackline.Registries
import Rackline.SourceEscrow

/-!
# `Rackline.ReceivableBook`: the mirror of the obligations on the destination chain

`ReceivableBook.ingest` takes verified logs of the escrow, has the `EvidenceBook` consume them and
applies them to the receivables. Native verification is sound and the hash is free of collisions,
so a verified log is the `SourceEvent` that the escrow emitted, and an identifier that the source
hashes is the record of what it hashes: `AccountId`, `ReceivableId`, `EconomicEventId`. A log is
known by its place among the logs of the escrow, which stands for `SourceEventId`.

`Providers` is what the registries and the wiring of the evidence book answer during one
transaction. Every transaction carries its own.
-/

set_option autoImplicit false

namespace Rackline

open Evm Transition

/-- `IReceivableBook.ReceivableState`. -/
inductive ReceivableState
  | none | open_ | assigned | paid | cancelled
deriving DecidableEq, Repr

/-- `ReceivableBook.Kind`, without `NONE`. -/
inductive Kind
  | recognized | assigned | corrected | payout | payoutCancelled | checkpoint
deriving DecidableEq, Repr

/-- `GpuTypes.EvidenceMeaning`. -/
inductive EvidenceMeaning
  | obligationRecognized | assignmentRecognized | correction | payout | paymentCancelled
deriving DecidableEq, Repr

/-- `GpuTypes.Trust`, without the two values that no record of the evidence book has. -/
inductive Trust
  | proven | asserted
deriving DecidableEq, Repr

/-- The signatures that the book knows: `TOPIC_OBLIGATION_RECOGNIZED` and its siblings. -/
inductive Topic
  | obligationRecognized | obligationRecognizedV2 | obligationAssigned | obligationCorrected
  | payoutReceived | payoutCancelled | sourceCheckpoint | sourceCheckpointV2
deriving DecidableEq, Repr

/-- What `_accountId` hashes. -/
structure AccountId where
  providerId : ProviderId
  accountKey : AccountKey
deriving DecidableEq

/-- What `receivableId` hashes. -/
structure ReceivableId where
  providerId : ProviderId
  accountKey : AccountKey
  obligationRef : Bytes32
deriving DecidableEq

/-- What `_economicKey` hashes. -/
structure EconomicEventId where
  providerId : ProviderId
  accountKey : AccountKey
  kind : Kind
  topic2 : Bytes32
  seqOrRev : Nat
deriving DecidableEq

/-- `IReceivableBook.Receivable`. -/
structure Receivable where
  providerId : ProviderId
  accountKey : AccountKey
  obligationRef : Bytes32
  payer : Address
  token : Address
  denominationProven : Bool
  net : Nat
  paid : Nat
  revision : Nat
  dueAt : Nat
  evidenceValidUntil : Nat
  facilityId : FacilityId
  state : ReceivableState
  disputed : Bool

/-- The zero value of a storage struct. -/
def Receivable.empty : Receivable :=
  { providerId := 0, accountKey := 0, obligationRef := 0, payer := 0, token := 0,
    denominationProven := false, net := 0, paid := 0, revision := 0, dueAt := 0,
    evidenceValidUntil := 0, facilityId := 0, state := .none, disputed := false }

/-- `IReceivableBook.Checkpoint`. -/
structure Checkpoint where
  checkpointSeq : Nat
  latestRevision : Nat
  openAmount : Nat
  paidCumulative : Nat
  provenAt : Nat
  observedAt : Nat
  protectedUntil : Nat
  exists_ : Bool

/-- The zero value of a storage struct. -/
def Checkpoint.empty : Checkpoint :=
  { checkpointSeq := 0, latestRevision := 0, openAmount := 0, paidCumulative := 0, provenAt := 0,
    observedAt := 0, protectedUntil := 0, exists_ := false }

/-- `IReceivableBook.AccountStats`. -/
structure AccountStats where
  eventsConsumed : Nat
  openAmount : Nat
  paidCumulative : Nat

/-- `ReceivableBook.Settlement`. `receivableId` is `none` when no obligation was named. -/
structure Settlement where
  accountKey : AccountKey
  receivableId : Option ReceivableId
  amount : Nat
  exists_ : Bool
  cancelled : Bool

/-- The zero value of a storage struct. -/
def Settlement.empty : Settlement :=
  { accountKey := 0, receivableId := none, amount := 0, exists_ := false, cancelled := false }

/-- The errors of `IReceivableBook` and `IEvidenceBook`, and the panic. -/
inductive BookRevert
  | panic
  | notRole (role : Role) (caller : Address)
  | zeroAddress
  | untrustedEvidence
  | invalidCheckpointTime
  | evidencePaused
  | consumerNotAllowed
  | verifierNotBound (providerId : ProviderId)
  | unknownLogOrdinal (log : Nat)
  | alreadyConsumed (log : Nat)
  | staleVerification (log : Nat)
  | invalidInstruction (field : String)
  | economicEventAlreadyRecorded (id : EconomicEventId)
  | unregisteredEmitter (providerId : ProviderId) (topic : Topic)
  | providerUnknown (providerId : ProviderId)
  | tokenNotAdmitted (providerId : ProviderId) (chainId : Nat) (token : Address)
  | meaningMismatch (expected actual : EvidenceMeaning)
  | claimMismatch
  | facilityUnknown (facilityId : FacilityId)
  | facilityExists (facilityId : FacilityId)
  | receivableExists (id : ReceivableId)
  | receivableUnknown (id : ReceivableId)
  | receivableNotOpen (id : ReceivableId) (state : ReceivableState)
  | revisionGap (id : ReceivableId) (expected actual : Nat)
  | revisionStale (id : ReceivableId) (current actual : Nat)
  | accountNotOfBorrower (accountKey : AccountKey) (borrowerId : Bytes32)
  | alreadyAssigned (id : ReceivableId) (facilityId : FacilityId)
  | facilityKeyMismatch (facilityKey : Bytes32)
  | tokenMismatch (expected actual : Address)
  | overpayment (id : ReceivableId) (remaining amount : Nat)
  | settlementSeen (seq : Nat)
  | settlementUnknown (seq : Nat)
  | checkpointNotNewer (current claimed : Nat)
  | correctionBelowPaid (id : ReceivableId) (paid : Nat) (delta : Int)
  | cancelMustZeroOpen (id : ReceivableId) (open_ : Nat)
  | pilotValuationUnsupported (reason : String)

instance : Panics BookRevert := ⟨.panic⟩

/-- `IProviderRegistry.ProviderConfig`: what the book reads of it. -/
structure ProviderConfig where
  executionProfile : ExecutionProfile
  sourceChainId : Nat
  manifestHash : Bytes32

/-- What the registries and the evidence book's own settings answer during one transaction. The
escrow is the only emitter. -/
structure Providers where
  provider : ProviderId → Option ProviderConfig
  isAdmitted : ProviderId → Bytes32 → Bool
  isIssuer : ProviderId → Address → Bool
  isTokenAdmitted : ProviderId → Nat → Address → Bool
  /-- `PROVIDERS.emitterMeaning(providerId, escrow, topic0)`; `none` is not registered. -/
  emitterMeaning : ProviderId → Topic → Option EvidenceMeaning
  borrowerOfWallet : Address → Bytes32
  borrowerOfAccount : AccountKey → Bytes32
  evidencePaused : Bool
  /-- Whether the book may consume. -/
  isConsumer : Bool
  /-- The method of the verifier bound to a provider; `none` is not bound. -/
  verificationMethod : ProviderId → Option VerificationMethod
  /-- `_selfAsserted[providerId][escrow]`. -/
  selfAsserted : ProviderId → Bool
  maxValidity : Nat

/-- `PROVIDERS.provider`, which reverts on an unknown provider. -/
def Providers.config (reg : Providers) (providerId : ProviderId) : Except BookRevert ProviderConfig :=
  match reg.provider providerId with
  | none => .error (.providerUnknown providerId)
  | some cfg => .ok cfg

/-- `PROVIDERS.emitterMeaning`, which reverts on an unregistered emitter. -/
def Providers.meaning (reg : Providers) (providerId : ProviderId) (topic : Topic) :
    Except BookRevert EvidenceMeaning :=
  match reg.emitterMeaning providerId topic with
  | none => .error (.unregisteredEmitter providerId topic)
  | some meaning => .ok meaning

/-! ### Reading a log -/

namespace SourceEvent

/-- `topics[0]`. -/
def topic : SourceEvent → Topic
  | .obligationRecognized .. => .obligationRecognized
  | .obligationRecognizedV2 .. => .obligationRecognizedV2
  | .obligationAssigned .. => .obligationAssigned
  | .obligationCorrected .. => .obligationCorrected
  | .payoutReceived .. => .payoutReceived
  | .payoutCancelled .. => .payoutCancelled
  | .sourceCheckpoint .. => .sourceCheckpoint
  | .sourceCheckpointV2 .. => .sourceCheckpointV2

/-- `topics[1]`. -/
def accountKey : SourceEvent → AccountKey
  | .obligationRecognized a .. => a
  | .obligationRecognizedV2 a .. => a
  | .obligationAssigned a .. => a
  | .obligationCorrected a .. => a
  | .payoutReceived a .. => a
  | .payoutCancelled a .. => a
  | .sourceCheckpoint a .. => a
  | .sourceCheckpointV2 a .. => a

/-- `topics[2]` of the logs that have it. -/
def topic2 : SourceEvent → Option Bytes32
  | .obligationRecognized _ ref .. => some ref
  | .obligationRecognizedV2 _ ref .. => some ref
  | .obligationAssigned _ ref .. => some ref
  | .obligationCorrected _ ref .. => some ref
  | .payoutReceived _ ref .. => some ref
  | .payoutCancelled _ ref .. => some ref
  | .sourceCheckpoint .. => none
  | .sourceCheckpointV2 .. => none

/-- `seqOrRev` of `_economicKey`: the revision, the settlement sequence or the checkpoint
sequence. -/
def seqOrRev : SourceEvent → Nat
  | .obligationRecognized _ _ _ _ _ _ _ revision => revision
  | .obligationRecognizedV2 _ _ _ _ _ _ _ _ revision => revision
  | .obligationAssigned _ _ _ revision => revision
  | .obligationCorrected _ _ _ revision _ => revision
  | .payoutReceived _ _ _ _ _ seq => seq
  | .payoutCancelled _ _ seq _ => seq
  | .sourceCheckpoint _ seq _ _ _ => seq
  | .sourceCheckpointV2 _ seq _ _ _ _ _ => seq

end SourceEvent

/-- `_kindOf`. -/
def Topic.kind : Topic → Kind
  | .obligationRecognized => .recognized
  | .obligationRecognizedV2 => .recognized
  | .obligationAssigned => .assigned
  | .obligationCorrected => .corrected
  | .payoutReceived => .payout
  | .payoutCancelled => .payoutCancelled
  | .sourceCheckpoint => .checkpoint
  | .sourceCheckpointV2 => .checkpoint

/-- `_expectedMeaning`. -/
def Kind.expectedMeaning : Kind → EvidenceMeaning
  | .recognized => .obligationRecognized
  | .assigned => .assignmentRecognized
  | .corrected => .correction
  | .payout => .payout
  | .checkpoint => .correction
  | .payoutCancelled => .paymentCancelled

/-- `IReceivableBook.ReceivableClaim`: the log that is claimed, and the validity of the proof. The
claim of a checkpoint carries a `topic2` that no topic of the log is compared with. -/
structure ReceivableClaim where
  event : SourceEvent
  topic2 : Bytes32
  validUntil : Nat

/-- `_economicKey`. -/
def economicKey (providerId : ProviderId) (c : ReceivableClaim) : EconomicEventId where
  providerId := providerId
  accountKey := c.event.accountKey
  kind := c.event.topic.kind
  topic2 := c.event.topic2.getD c.topic2
  seqOrRev := c.event.seqOrRev

/-! ### The evidence book -/

/-- The part of a log's `EvidenceRecord` that the book reads. -/
structure EvidenceRecord where
  meaning : EvidenceMeaning
  method : VerificationMethod
  trust : Trust
  provenAt : Nat
  validUntil : Nat

/-- `_consumed` and `_economicSeen`. -/
structure EvidenceBook where
  consumed : Nat → Bool
  economicSeen : EconomicEventId → Bool

/-- The evidence book after deployment. -/
def EvidenceBook.initial : EvidenceBook := ⟨fun _ => false, fun _ => false⟩

/-- The guards of `EvidenceBook.consume` ahead of the logs: it returns the method of the verifier. -/
def EvidenceBook.consumeGuards (providerId : ProviderId) (reg : Providers) :
    Except BookRevert VerificationMethod := do
  revertIf (reg.evidencePaused = true) .evidencePaused
  revertIf (reg.isConsumer = false) .consumerNotAllowed
  match reg.verificationMethod providerId with
  | none => .error (.verifierNotBound providerId)
  | some method => .ok method

/-- `_consumeOne`, of the log `event` at the place `log`. -/
def EvidenceBook.consumeOne (now : Nat) (providerId : ProviderId) (reg : Providers)
    (method : VerificationMethod) (log : Nat) (event : SourceEvent) (c : ReceivableClaim)
    (ev : EvidenceBook) : Except BookRevert (EvidenceRecord × EvidenceBook) := do
  revertIf (ev.consumed log = true) (.alreadyConsumed log)
  revertIf (c.validUntil ≤ now) (.staleVerification log)
  revertIf (c.validUntil > now + reg.maxValidity) (.invalidInstruction "validUntil beyond policy")
  revertIf (c.event.accountKey = 0) (.invalidInstruction "accountKey")
  revertIf (event.accountKey ≠ c.event.accountKey) (.invalidInstruction "accountKey != topics[1]")
  let key := economicKey providerId c
  revertIf (ev.economicSeen key = true) (.economicEventAlreadyRecorded key)
  let meaning ← reg.meaning providerId event.topic
  let selfAsserted := reg.selfAsserted providerId
  return (
    { meaning := meaning
      method := if selfAsserted then .offchainAssertion else method
      trust := if selfAsserted then .asserted else .proven
      provenAt := now
      validUntil := c.validUntil },
    { consumed := Function.update ev.consumed log true
      economicSeen := Function.update ev.economicSeen key true })

/-! ### The book -/

/-- The storage of `ReceivableBook`. -/
structure ReceivableBook where
  facilities : FacilityId → BookFacility
  facilityByKey : Bytes32 → FacilityId
  facilityReceivables : FacilityId → List ReceivableId
  receivables : ReceivableId → Receivable
  stats : AccountId → AccountStats
  checkpoints : AccountId → Checkpoint
  settlements : ProviderId → Nat → Settlement

/-- The book after deployment. -/
def ReceivableBook.initial : ReceivableBook where
  facilities := fun _ => { borrowerId := 0, providerId := 0, sourceAsset := ⟨0, 0, 0⟩, exists_ := false }
  facilityByKey := fun _ => 0
  facilityReceivables := fun _ => []
  receivables := fun _ => .empty
  stats := fun _ => ⟨0, 0, 0⟩
  checkpoints := fun _ => .empty
  settlements := fun _ _ => .empty

namespace ReceivableBook

/-! ### Configuration -/

/-- `registerFacility`, with `facilityKey` for the hash of a facility id. -/
def registerFacility (facilityKey : FacilityId → Bytes32) (m : Msg) (reg : Providers)
    (facilityId : FacilityId) (borrowerId : Bytes32) (providerId : ProviderId)
    (sourceAsset : AssetRef) (b : ReceivableBook) : Except BookRevert ReceivableBook := do
  revertIf (m.hasRole .underwriter m.sender = false) (.notRole .underwriter m.sender)
  revertIf ((b.facilities facilityId).exists_ = true) (.facilityExists facilityId)
  revertIf (borrowerId = 0) .zeroAddress
  let cfg ← reg.config providerId
  revertIf (sourceAsset.chainId ≠ cfg.sourceChainId) (.pilotValuationUnsupported "source chain")
  revertIf (reg.isTokenAdmitted providerId sourceAsset.chainId sourceAsset.token = false)
    (.tokenNotAdmitted providerId sourceAsset.chainId sourceAsset.token)
  let f : BookFacility :=
    { borrowerId := borrowerId, providerId := providerId, sourceAsset := sourceAsset, exists_ := true }
  return { b with
    facilities := Function.update b.facilities facilityId f
    facilityByKey := Function.update b.facilityByKey (facilityKey facilityId) facilityId }

/-- `setDisputed`. -/
def setDisputed (m : Msg) (id : ReceivableId) (disputed : Bool) (b : ReceivableBook) :
    Except BookRevert ReceivableBook := do
  revertIf (m.hasRole .underwriter m.sender = false ∧ m.hasRole .guardian m.sender = false)
    (.notRole .underwriter m.sender)
  let r := b.receivables id
  revertIf (r.state = .none) (.receivableUnknown id)
  return { b with receivables := Function.update b.receivables id { r with disputed := disputed } }

/-! ### Views -/

/-- `_checkpointOk`, together with its second result, the age of the checkpoint. -/
def checkpointOk (accountId : AccountId) (maxAge toleranceBps at_ : Nat) (b : ReceivableBook) :
    Except BookRevert (Bool × Nat) :=
  let c := b.checkpoints accountId
  let s := b.stats accountId
  if c.exists_ = false ∨ c.observedAt = 0 ∨ at_ < c.observedAt ∨ at_ ≥ c.protectedUntil then
    .ok (false, 0)
  else if at_ - c.observedAt > maxAge then .ok (false, at_ - c.observedAt)
  else if c.latestRevision ≠ s.eventsConsumed then .ok (false, at_ - c.observedAt)
  else if c.paidCumulative ≠ s.paidCumulative then .ok (false, at_ - c.observedAt)
  else do
    let hi := if c.openAmount > s.openAmount then c.openAmount else s.openAmount
    let lo := if c.openAmount > s.openAmount then s.openAmount else c.openAmount
    let tolerated ← mulW 256 s.openAmount toleranceBps
    return (decide (hi - lo ≤ tolerated / 10000), at_ - c.observedAt)

/-- The result of `eligibleUnpaid`: eligible amount, evidence validity and checkpoint age. -/
structure Eligibility where
  eligible : Nat
  evidenceValidUntil : Nat
  checkpointAge : Nat
deriving DecidableEq

/-- What an unpaid amount counts for at `at_`: less once it is overdue. -/
def haircut (r : Receivable) (haircutBps at_ unpaid : Nat) : Except BookRevert Nat :=
  if r.dueAt ≠ 0 ∧ r.dueAt < at_ then do
    let factor ← subW 10000 haircutBps
    let product ← mulW 256 unpaid factor
    return product / 10000
  else .ok unpaid

/-- One round of the loop of `eligibleUnpaid`. -/
def countReceivable (facilityId : FacilityId) (f : BookFacility)
    (maxAge toleranceBps haircutBps at_ : Nat) (b : ReceivableBook) (acc : Eligibility)
    (id : ReceivableId) : Except BookRevert Eligibility :=
  let r := b.receivables id
  if r.state ≠ .assigned ∨ r.disputed = true then .ok acc
  else if r.facilityId ≠ facilityId then .ok acc
  else if r.evidenceValidUntil ≤ at_ then .ok acc
  else if r.denominationProven = false ∨ r.token ≠ f.sourceAsset.token then .ok acc
  else do
    let (fresh, age) ← b.checkpointOk ⟨f.providerId, r.accountKey⟩ maxAge toleranceBps at_
    if fresh = false then return acc
    let unpaid ← subW r.net r.paid
    let counted ← haircut r haircutBps at_ unpaid
    let eligible ← addW 256 acc.eligible counted
    let until_ := (b.checkpoints ⟨f.providerId, r.accountKey⟩).protectedUntil
    return {
      eligible := eligible
      evidenceValidUntil := min (min acc.evidenceValidUntil r.evidenceValidUntil) until_
      checkpointAge := max acc.checkpointAge age }

/-- `eligibleUnpaid`. -/
def eligibleUnpaid (reg : Providers) (facilityId : FacilityId)
    (maxAge toleranceBps haircutBps at_ : Nat) (b : ReceivableBook) :
    Except BookRevert Eligibility := do
  let f := b.facilities facilityId
  revertIf (f.exists_ = false) (.facilityUnknown facilityId)
  let cfg ← reg.config f.providerId
  if reg.isAdmitted f.providerId cfg.manifestHash = false then return ⟨0, 0, 0⟩
  let total ← (b.facilityReceivables facilityId).foldlM
    (b.countReceivable facilityId f maxAge toleranceBps haircutBps at_) ⟨0, wordSize 64 - 1, 0⟩
  return if total.eligible = 0 then { total with evidenceValidUntil := 0 } else total

/-! ### Applying a log -/

/-- `_requireOpen`. -/
def requireOpen (id : ReceivableId) (r : Receivable) : Except BookRevert Unit :=
  revertIf (r.state ≠ .open_ ∧ r.state ≠ .assigned) (.receivableNotOpen id r.state)

/-- `_bumpRevision`: the revision that is stored. -/
def bumpRevision (id : ReceivableId) (r : Receivable) (revision : Nat) : Except BookRevert Nat := do
  revertIf (revision ≤ r.revision) (.revisionStale id r.revision revision)
  let next ← addW 32 r.revision 1
  revertIf (revision ≠ next) (.revisionGap id next revision)
  return revision

/-- One more event of the account. -/
def countEvent (accountId : AccountId) (s : AccountStats) (b : ReceivableBook) :
    Except BookRevert ReceivableBook := do
  let eventsConsumed ← addW 32 s.eventsConsumed 1
  return { b with
    stats := Function.update b.stats accountId { s with eventsConsumed := eventsConsumed } }

/-- The check of `_recognize` on the token, which only an `ObligationRecognizedV2` names. -/
def requireToken (reg : Providers) (providerId : ProviderId) :
    Option Address → Except BookRevert Unit
  | none => .ok ()
  | some token => do
    revertIf (token = 0) (.tokenMismatch 0 token)
    let cfg ← reg.config providerId
    revertIf (reg.isTokenAdmitted providerId cfg.sourceChainId token = false)
      (.tokenMismatch 0 token)

/-- `_recognize`. `token` is what the second version of the event names. -/
def recognize (reg : Providers) (emitter : Address) (providerId : ProviderId)
    (rec : EvidenceRecord) (accountKey : AccountKey) (obligationRef : Bytes32)
    (issuer payer payee : Address) (token : Option Address) (amount dueAt revision : Nat)
    (b : ReceivableBook) : Except BookRevert ReceivableBook := do
  let id : ReceivableId := ⟨providerId, accountKey, obligationRef⟩
  let r := b.receivables id
  revertIf (r.state ≠ .none) (.receivableExists id)
  revertIf (revision ≠ 1) (.revisionGap id 1 revision)
  revertIf (reg.isIssuer providerId issuer = false ∨ payer = 0 ∨ amount = 0) .untrustedEvidence
  revertIf (reg.borrowerOfWallet payer ≠ 0) .untrustedEvidence
  requireToken reg providerId token
  revertIf (payee ≠ emitter) .claimMismatch
  let s := b.stats ⟨providerId, accountKey⟩
  let recognized : Receivable :=
    { r with
      providerId := providerId
      accountKey := accountKey
      obligationRef := obligationRef
      payer := payer
      token := token.getD 0
      denominationProven := token.isSome
      net := amount
      revision := 1
      dueAt := dueAt
      evidenceValidUntil := rec.validUntil
      state := .open_ }
  let openAmount ← addW 256 s.openAmount amount
  let b := { b with receivables := Function.update b.receivables id recognized }
  b.countEvent ⟨providerId, accountKey⟩ { s with openAmount := openAmount }

/-- `_assign`. -/
def assign (reg : Providers) (providerId : ProviderId) (rec : EvidenceRecord)
    (accountKey : AccountKey) (obligationRef facilityKey : Bytes32) (revision : Nat)
    (b : ReceivableBook) : Except BookRevert ReceivableBook := do
  let id : ReceivableId := ⟨providerId, accountKey, obligationRef⟩
  let r := b.receivables id
  requireOpen id r
  let revision ← bumpRevision id r revision
  let facilityId := b.facilityByKey facilityKey
  let f := b.facilities facilityId
  revertIf (f.exists_ = false) (.facilityKeyMismatch facilityKey)
  revertIf (f.providerId ≠ providerId) (.facilityKeyMismatch facilityKey)
  revertIf (reg.borrowerOfAccount accountKey ≠ f.borrowerId)
    (.accountNotOfBorrower accountKey f.borrowerId)
  revertIf (r.denominationProven = true ∧ r.token ≠ f.sourceAsset.token)
    (.tokenMismatch f.sourceAsset.token r.token)
  revertIf (r.facilityId ≠ 0 ∧ r.facilityId ≠ facilityId) (.alreadyAssigned id r.facilityId)
  let assigned : Receivable :=
    { r with
      revision := revision
      facilityId := if r.facilityId = 0 then facilityId else r.facilityId
      state := .assigned
      evidenceValidUntil := rec.validUntil }
  let listed :=
    if r.facilityId = 0 then
      Function.update b.facilityReceivables facilityId (b.facilityReceivables facilityId ++ [id])
    else b.facilityReceivables
  let b := { b with
    receivables := Function.update b.receivables id assigned
    facilityReceivables := listed }
  b.countEvent ⟨providerId, accountKey⟩ (b.stats ⟨providerId, accountKey⟩)

/-- `CORRECTION_REASON_CANCEL`. -/
def correctionReasonCancel : Nat := 3

/-- The state after a correction. A cancellation has to leave nothing open. -/
def correctedState (id : ReceivableId) (reason openAfter : Nat) (state : ReceivableState) :
    Except BookRevert ReceivableState :=
  if reason = correctionReasonCancel then do
    revertIf (openAfter ≠ 0) (.cancelMustZeroOpen id openAfter)
    return .cancelled
  else .ok state

/-- `_correct`. -/
def correct (providerId : ProviderId) (rec : EvidenceRecord) (accountKey : AccountKey)
    (obligationRef : Bytes32) (delta : Int) (revision reason : Nat) (b : ReceivableBook) :
    Except BookRevert ReceivableBook := do
  let id : ReceivableId := ⟨providerId, accountKey, obligationRef⟩
  let r := b.receivables id
  requireOpen id r
  let revision ← bumpRevision id r revision
  let newNet ← correctedNet (.correctionBelowPaid id r.paid delta) r.net r.paid delta
  let openBefore ← subW r.net r.paid
  let openAfter ← subW newNet r.paid
  let state ← correctedState id reason openAfter r.state
  let s := b.stats ⟨providerId, accountKey⟩
  let rest ← subW s.openAmount openBefore
  let openAmount ← addW 256 rest openAfter
  let corrected : Receivable :=
    { r with
      revision := revision, state := state, net := newNet, evidenceValidUntil := rec.validUntil }
  let b := { b with receivables := Function.update b.receivables id corrected }
  b.countEvent ⟨providerId, accountKey⟩ { s with openAmount := openAmount }

/-- `_payout`. The log has no revision, but moves the receivable's by one. -/
def payout (providerId : ProviderId) (accountKey : AccountKey) (obligationRef : Bytes32)
    (token : Address) (amount seq : Nat) (b : ReceivableBook) : Except BookRevert ReceivableBook := do
  revertIf ((b.settlements providerId seq).exists_ = true) (.settlementSeen seq)
  let s := b.stats ⟨providerId, accountKey⟩
  if obligationRef = 0 then do
    let paidCumulative ← addW 256 s.paidCumulative amount
    let settlement : Settlement :=
      { accountKey := accountKey, receivableId := none, amount := amount, exists_ := true,
        cancelled := false }
    return { b with
      settlements := set2 b.settlements providerId seq settlement
      stats := Function.update b.stats ⟨providerId, accountKey⟩
        { s with paidCumulative := paidCumulative } }
  else do
    let id : ReceivableId := ⟨providerId, accountKey, obligationRef⟩
    let r := b.receivables id
    requireOpen id r
    revertIf (r.token ≠ 0 ∧ r.token ≠ token) (.tokenMismatch r.token token)
    let expected := (b.facilities r.facilityId).sourceAsset.token
    revertIf (r.facilityId ≠ 0 ∧ token ≠ expected) (.tokenMismatch expected token)
    let remaining ← subW r.net r.paid
    revertIf (amount > remaining) (.overpayment id remaining amount)
    let paid ← addW 256 r.paid amount
    let revision ← addW 32 r.revision 1
    let settled : Receivable :=
      { r with
        token := if r.token = 0 then token else r.token
        paid := paid
        revision := revision
        state := if paid = r.net then .paid else r.state }
    let settlement : Settlement :=
      { accountKey := accountKey, receivableId := some id, amount := amount, exists_ := true,
        cancelled := false }
    let openAmount ← subW s.openAmount amount
    let paidCumulative ← addW 256 s.paidCumulative amount
    let b := { b with
      receivables := Function.update b.receivables id settled
      settlements := set2 b.settlements providerId seq settlement }
    b.countEvent ⟨providerId, accountKey⟩
      { s with openAmount := openAmount, paidCumulative := paidCumulative }

/-- `_cancelPayout`. -/
def cancelPayout (providerId : ProviderId) (accountKey : AccountKey) (obligationRef : Bytes32)
    (seq amount : Nat) (b : ReceivableBook) : Except BookRevert ReceivableBook := do
  let st := b.settlements providerId seq
  revertIf (st.exists_ = false) (.settlementUnknown seq)
  revertIf (st.accountKey ≠ accountKey) (.settlementUnknown seq)
  revertIf (st.receivableId ≠ none ∧ st.receivableId ≠ some ⟨providerId, accountKey, obligationRef⟩)
    (.settlementUnknown seq)
  revertIf (st.cancelled = true) (.settlementSeen seq)
  revertIf (st.amount ≠ amount) .claimMismatch
  let s := b.stats ⟨providerId, accountKey⟩
  let paidCumulative ← subW s.paidCumulative amount
  let s := { s with paidCumulative := paidCumulative }
  let b := { b with settlements := set2 b.settlements providerId seq { st with cancelled := true } }
  match st.receivableId with
  | none => return { b with stats := Function.update b.stats ⟨providerId, accountKey⟩ s }
  | some id =>
    let r := b.receivables id
    let paid ← subW r.paid amount
    let revision ← addW 32 r.revision 1
    let unsettled : Receivable :=
      { r with
        paid := paid
        revision := revision
        state :=
          if r.state = .paid then if r.facilityId ≠ 0 then .assigned else .open_ else r.state }
    let openAmount ← addW 256 s.openAmount amount
    let b := { b with receivables := Function.update b.receivables id unsettled }
    b.countEvent ⟨providerId, accountKey⟩ { s with openAmount := openAmount }

/-- The times of a `SourceCheckpointV2` that `_checkpoint` accepts. -/
def requireCheckpointTime (now observedAt until_ : Nat) : Except BookRevert Unit := do
  revertIf (observedAt = 0 ∨ observedAt > now ∨ until_ ≤ observedAt) .invalidCheckpointTime
  let latest ← addW 64 observedAt (15 * 60)
  revertIf (until_ > latest) .invalidCheckpointTime

/-- `_checkpoint`. The first version of the event has no times. -/
def checkpoint (providerId : ProviderId) (rec : EvidenceRecord) (accountKey : AccountKey)
    (seq latestRevision openAmount paidCumulative observedAt until_ : Nat) (b : ReceivableBook) :
    Except BookRevert ReceivableBook := do
  let cp := b.checkpoints ⟨providerId, accountKey⟩
  revertIf (cp.exists_ = true ∧ seq ≤ cp.checkpointSeq) (.checkpointNotNewer cp.checkpointSeq seq)
  let recorded : Checkpoint :=
    { checkpointSeq := seq
      latestRevision := latestRevision
      openAmount := openAmount
      paidCumulative := paidCumulative
      provenAt := rec.provenAt
      observedAt := observedAt
      protectedUntil := until_
      exists_ := true }
  return { b with checkpoints := Function.update b.checkpoints ⟨providerId, accountKey⟩ recorded }

/-- The dispatch of `_apply` on the kind of the log. -/
def dispatch (now : Nat) (reg : Providers) (emitter : Address) (providerId : ProviderId)
    (rec : EvidenceRecord) (event : SourceEvent) (b : ReceivableBook) :
    Except BookRevert ReceivableBook :=
  match event with
  | .obligationRecognized a ref issuer payer payee amount dueAt revision =>
    b.recognize reg emitter providerId rec a ref issuer payer payee none amount dueAt revision
  | .obligationRecognizedV2 a ref issuer payer payee token amount dueAt revision =>
    b.recognize reg emitter providerId rec a ref issuer payer payee (some token) amount dueAt revision
  | .obligationAssigned a ref facilityKey revision =>
    b.assign reg providerId rec a ref facilityKey revision
  | .obligationCorrected a ref delta revision reason =>
    b.correct providerId rec a ref delta revision reason
  | .payoutReceived a ref token _ amount seq => b.payout providerId a ref token amount seq
  | .payoutCancelled a ref seq amount => b.cancelPayout providerId a ref seq amount
  | .sourceCheckpoint a seq latestRevision openAmount paidCumulative =>
    b.checkpoint providerId rec a seq latestRevision openAmount paidCumulative 0 0
  | .sourceCheckpointV2 a seq latestRevision openAmount paidCumulative observedAt until_ => do
    requireCheckpointTime now observedAt until_
    b.checkpoint providerId rec a seq latestRevision openAmount paidCumulative observedAt until_

/-- `_apply`. The claim has to be the log that was verified. -/
def apply (now : Nat) (reg : Providers) (emitter : Address) (providerId : ProviderId)
    (rec : EvidenceRecord) (event : SourceEvent) (c : ReceivableClaim) (b : ReceivableBook) :
    Except BookRevert ReceivableBook := do
  let kind := event.topic.kind
  let cfg ← reg.config providerId
  revertIf (rec.trust ≠ .proven ∨ rec.method = .offchainAssertion ∨
    (cfg.executionProfile ≠ .localMock ∧ rec.method ≠ .attestcoinNative)) .untrustedEvidence
  revertIf (rec.meaning ≠ kind.expectedMeaning) (.meaningMismatch kind.expectedMeaning rec.meaning)
  revertIf (c.event ≠ event) .claimMismatch
  b.dispatch now reg emitter providerId rec event

end ReceivableBook

/-! ### Ingestion -/

/-- The two contracts that a transaction of `ingest` writes. -/
structure Destination where
  evidence : EvidenceBook
  book : ReceivableBook

/-- The destination chain after deployment. -/
def Destination.initial : Destination := ⟨.initial, .initial⟩

/-- The role check of `ingest`. -/
def requireSubmitter (m : Msg) : Except BookRevert Unit :=
  revertIf (m.hasRole .relayer m.sender = false ∧ m.hasRole .servicer m.sender = false)
    (.notRole .relayer m.sender)

/-- `ingest` of one claim, about the log at the place `log`, which is `event`. -/
def Destination.ingest (m : Msg) (reg : Providers) (emitter : Address) (providerId : ProviderId)
    (log : Nat) (event : SourceEvent) (c : ReceivableClaim) (d : Destination) :
    Except BookRevert Destination := do
  requireSubmitter m
  let method ← EvidenceBook.consumeGuards providerId reg
  let (rec, evidence) ← d.evidence.consumeOne m.now providerId reg method log event c
  let book ← d.book.apply m.now reg emitter providerId rec event c
  return ⟨evidence, book⟩

/-! ### Runs -/

/-- The calls that write the book. -/
inductive BookCall
  | ingest (reg : Providers) (emitter : Address) (providerId : ProviderId) (log : Nat)
      (event : SourceEvent) (claim : ReceivableClaim)
  | registerFacility (reg : Providers) (facilityId : FacilityId) (borrowerId : Bytes32)
      (providerId : ProviderId) (sourceAsset : AssetRef)
  | setDisputed (id : ReceivableId) (disputed : Bool)

/-- One call, with `facilityKey` for the hash of a facility id. The log that is ingested is any. -/
def Destination.call (facilityKey : FacilityId → Bytes32) (m : Msg) (d : Destination) :
    BookCall → Except BookRevert Destination
  | .ingest reg emitter providerId log event claim =>
    d.ingest m reg emitter providerId log event claim
  | .registerFacility reg facilityId borrowerId providerId sourceAsset =>
    (d.book.registerFacility facilityKey m reg facilityId borrowerId providerId sourceAsset).map
      fun b => { d with book := b }
  | .setDisputed id disputed => (d.book.setDisputed m id disputed).map fun b => { d with book := b }

/-- A call and its context. -/
abbrev BookTx := Msg × BookCall

/-- One successful transaction on the destination chain, whatever log it brings. -/
def DestinationStep (facilityKey : FacilityId → Bytes32) (d : Destination) (tx : BookTx)
    (d' : Destination) : Prop :=
  d.call facilityKey tx.1 tx.2 = .ok d'

/-- Run a list of transactions. -/
def Destination.run (facilityKey : FacilityId → Bytes32) (d : Destination) :
    List BookTx → Except BookRevert Destination
  | [] => .ok d
  | tx :: rest => do
    let d ← d.call facilityKey tx.1 tx.2
    run facilityKey d rest

theorem Destination.run_steps {facilityKey : FacilityId → Bytes32} :
    ∀ {txs : List BookTx} {d d' : Destination}, d.run facilityKey txs = .ok d' →
      Steps (DestinationStep facilityKey) d txs d' := by
  intro txs
  induction txs with
  | nil =>
    intro d d' h
    cases h
    exact .nil d
  | cons tx rest ih =>
    intro d d' h
    obtain ⟨d₁, hcall, h⟩ := bind_eq_ok.mp h
    exact .cons hcall (ih h)

/-- A run that returned, and a view of where it ended. -/
theorem Destination.run_view {α : Type} (facilityKey : FacilityId → Bytes32) (d : Destination)
    (txs : List BookTx) (view : Destination → α) {v : α}
    (h : ((d.run facilityKey txs).map view).toOption = some v) :
    ∃ d', d.run facilityKey txs = .ok d' ∧ view d' = v :=
  map_eq_ok.mp (toOption_eq_some.mp h)

end Rackline
