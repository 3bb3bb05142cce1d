import Rackline.NativeVerifier

/-!
# `Rackline.NativeEvidence`: the records of the consumed logs

`EvidenceBook.sol`. An allowed consumer has the verifier that is bound to a provider verify one
transaction, and consumes some of the logs that it returns: each is named by its index in the
receipt, and gets a record under its position. A position is consumed once, and an economic event
is recorded once.

Verifiers are bound and replaced until the wiring is sealed. The contracts that can be bound are
those of `Wiring`.
-/

set_option autoImplicit false

namespace Rackline.Native

open Evm

/-- A `bytes32` economic event id: the hash that `_economicKey` makes, or a word that is none. -/
inductive EconomicId
  | derived (key : EconomicEventId)
  | other (word : Bytes32)
deriving DecidableEq

/-- `IEvidenceBook.EvidenceRecord`. -/
structure EvidenceRecord where
  id : SourceEventId
  economicEventId : EconomicId
  providerId : ProviderId
  accountKey : AccountKey
  meaning : EvidenceMeaning
  method : VerificationMethod
  trust : Trust
  consumer : Address
  manifestHash : Bytes32
  provenAt : Nat
  validUntil : Nat
  locator : SourceEventLocator
  emitter : Address
  topic0 : Bytes32
  dataHash : DataHash
deriving DecidableEq

/-- `IEvidenceBook.ConsumeInstruction`. -/
structure ConsumeInstruction where
  logOrdinal : Nat
  economicEventId : EconomicId
  accountKey : AccountKey
  validUntil : Nat

/-- The storage of `EvidenceBook`. The verifier of a provider is the zero address until one is
bound. -/
structure EvidenceBook where
  verifiers : ProviderId → Address
  consumers : Address → Bool
  selfAsserted : ProviderId → Address → Bool
  records : SourceEventId → Option EvidenceRecord
  consumed : SourceEventId → Bool
  firstSource : EconomicId → Option SourceEventId
  economicSeen : EconomicId → Bool
  wiringFinalized : Bool
  evidencePaused : Bool

/-- The evidence book after deployment. -/
def EvidenceBook.initial : EvidenceBook where
  verifiers := fun _ => 0
  consumers := fun _ => false
  selfAsserted := fun _ _ => false
  records := fun _ => none
  consumed := fun _ => false
  firstSource := fun _ => none
  economicSeen := fun _ => false
  wiringFinalized := false
  evidencePaused := false

/-- What is fixed at deployment: `_ENV_ID_HASH`, `_MAX_VALIDITY`, the address of the receivable book,
the verifier contracts and the decoder. `signature` hashes the signature of an event, and
`facilityKey` a facility id. -/
structure Wiring where
  envIdHash : Bytes32
  maxValidity : Nat
  book : Address
  verifierAt : Address → Option Verifier
  decoder : EvmV1Decoder
  signature : Topic → Bytes32
  facilityKey : FacilityId → Bytes32
  signature_injective : Function.Injective signature

namespace EvidenceBook

variable (w : Wiring) (m : Msg) (reg : ProviderRegistry) (ev : EvidenceBook)

/-! ### Wiring -/

/-- `onlyAdmin`, and the seal that every wiring call checks. -/
def requireWiring : Except IngestRevert Unit := do
  revertIf (m.hasRole .admin m.sender = false) (.notAdmin m.sender)
  revertIf (ev.wiringFinalized = true) .wiringFinalized

/-- `bindVerifier`. An address without a verifier answers nothing. -/
def bindVerifier (providerId : ProviderId) (verifier : Address) :
    Except IngestRevert EvidenceBook := do
  ev.requireWiring m
  revertIf (verifier = 0) .zeroAddress
  match w.verifierAt verifier with
  | none => .error .abi
  | some v =>
    revertIf (v.sourceChain.envIdHash ≠ w.envIdHash)
      (.verifierEnvMismatch w.envIdHash v.sourceChain.envIdHash)
    let config ← reg.config providerId
    revertIf (v.providerId ≠ providerId ∨ v.profile ≠ config.executionProfile ∨
        v.sourceChain.manifestHash ≠ config.sourceChain.manifestHash ∨
        v.sourceChain.chainKey ≠ config.sourceChain.chainKey ∨
        v.sourceChain.chainId ≠ config.sourceChain.chainId ∨
        v.sourceChain.encoding ≠ config.sourceChain.encoding) .invalidVerifierBinding
    revertIf (config.executionProfile ≠ .localMock ∧ v.verificationMethod ≠ .attestcoinNative)
      .invalidVerifierBinding
    return { ev with verifiers := Function.update ev.verifiers providerId verifier }

/-- `setConsumer`. -/
def setConsumer (consumer : Address) (allowed : Bool) : Except IngestRevert EvidenceBook := do
  ev.requireWiring m
  revertIf (consumer = 0) .zeroAddress
  return { ev with consumers := Function.update ev.consumers consumer allowed }

/-- `setSelfAssertedEmitter`. -/
def setSelfAssertedEmitter (providerId : ProviderId) (emitter : Address) (selfAsserted : Bool) :
    Except IngestRevert EvidenceBook := do
  ev.requireWiring m
  return { ev with
    selfAsserted := Function.update ev.selfAsserted providerId
      (Function.update (ev.selfAsserted providerId) emitter selfAsserted) }

/-- `finalizeWiring`. -/
def finalizeWiring : Except IngestRevert EvidenceBook := do
  ev.requireWiring m
  return { ev with wiringFinalized := true }

/-- `pauseEvidenceIntake`. -/
def pauseEvidenceIntake (paused : Bool) : Except IngestRevert EvidenceBook := do
  revertIf (m.hasRole .guardian m.sender = false) (.notAdmin m.sender)
  return { ev with evidencePaused := paused }

/-! ### Consumption -/

/-- `_eventAt`. -/
def eventAt (events : List VerifiedSourceEvent) (ordinal : Nat) :
    Except IngestRevert VerifiedSourceEvent :=
  match events.find? fun e => decide (e.locator.logOrdinal = ordinal) with
  | none => .error (.unknownLogOrdinal ordinal)
  | some e => .ok e

/-- `PROVIDERS.emitterMeaning`. -/
def meaningOf (providerId : ProviderId) (e : VerifiedSourceEvent) :
    Except IngestRevert EvidenceMeaning :=
  match reg.emitterMeaning providerId e.emitter e.topic0 with
  | none => .error (.unregisteredEmitter providerId e.emitter e.topic0)
  | some meaning => .ok meaning

/-- `_consumeOne`. -/
def consumeOne (consumer : Address) (now : Nat) (providerId : ProviderId)
    (method : VerificationMethod) (selfAsserted : Bool) (e : VerifiedSourceEvent)
    (ins : ConsumeInstruction) : Except IngestRevert (EvidenceRecord × EvidenceBook) := do
  revertIf (ev.consumed e.id = true) (.alreadyConsumed e.id)
  revertIf (ins.validUntil ≤ now) (.staleVerification e.id)
  revertIf (ins.validUntil > now + w.maxValidity) (.invalidInstruction "validUntil beyond policy")
  revertIf (ins.economicEventId = .other 0) (.invalidInstruction "economicEventId")
  revertIf (ins.accountKey = 0) (.invalidInstruction "accountKey")
  revertIf (e.topics.length > 1 ∧ e.topics[1]? ≠ some ins.accountKey)
    (.invalidInstruction "accountKey != topics[1]")
  revertIf (ev.economicSeen ins.economicEventId = true) .economicEventAlreadyRecorded
  let meaning ← meaningOf reg providerId e
  let record : EvidenceRecord :=
    { id := e.id
      economicEventId := ins.economicEventId
      providerId := providerId
      accountKey := ins.accountKey
      meaning := meaning
      method := if selfAsserted then .offchainAssertion else method
      trust := if selfAsserted then .asserted else .proven
      consumer := consumer
      manifestHash := e.manifestHash
      provenAt := now
      validUntil := ins.validUntil
      locator := e.locator
      emitter := e.emitter
      topic0 := e.topic0
      dataHash := ⟨e.topics, e.data⟩ }
  return (record, { ev with
    records := Function.update ev.records e.id (some record)
    consumed := Function.update ev.consumed e.id true
    economicSeen := Function.update ev.economicSeen ins.economicEventId true
    firstSource := Function.update ev.firstSource ins.economicEventId (some e.id) })

/-- The loop of `consume` over its instructions, with the ordinals of the earlier ones. -/
def consumeAll (consumer : Address) (now : Nat) (providerId : ProviderId) (v : Verifier)
    (selfAsserted : Bool) (events : List VerifiedSourceEvent) :
    List ConsumeInstruction → List Nat → EvidenceBook →
      Except IngestRevert (List EvidenceRecord × EvidenceBook)
  | [], _, ev => .ok ([], ev)
  | ins :: rest, seen, ev => do
    revertIf (ins.logOrdinal ∈ seen) (.invalidInstruction "duplicate logOrdinal")
    let e ← eventAt events ins.logOrdinal
    revertIf (e.verifier ≠ v.self) (.notFromVerifier e.verifier)
    let (rec, ev) ← ev.consumeOne w reg consumer now providerId v.verificationMethod selfAsserted
      e ins
    let (recs, ev) ← consumeAll consumer now providerId v selfAsserted events rest
      (ins.logOrdinal :: seen) ev
    return (rec :: recs, ev)

/-- `consume`, called by `consumer`. -/
def consume (consumer : Address) (now : Nat) (answers : NativeAnswers) (providerId : ProviderId)
    (envelope : NativeProofEnvelope) (expectedEmitter : Address) (topic0s : List Bytes32)
    (instructions : List ConsumeInstruction) :
    Except IngestRevert (List EvidenceRecord × EvidenceBook) := do
  revertIf (ev.evidencePaused = true) .evidencePaused
  revertIf (ev.consumers consumer = false) (.consumerNotAllowed consumer)
  revertIf (ev.verifiers providerId = 0) (.verifierNotBound providerId)
  match w.verifierAt (ev.verifiers providerId) with
  | none => .error .abi
  | some v =>
    revertIf (v.providerId ≠ providerId) (.verifierNotBound providerId)
    let events ← v.verifyAndExtract reg w.decoder answers envelope expectedEmitter topic0s
    revertIf (instructions = [] ∨ instructions.length > events.length)
      (.instructionMismatch events.length instructions.length)
    consumeAll w reg consumer now providerId v (ev.selfAsserted providerId expectedEmitter) events
      instructions [] ev

end EvidenceBook

end Rackline.Native
