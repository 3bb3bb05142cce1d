import Rackline.ReceivableBook

/-!
# `Rackline.NativeVerifier`: logs of a natively verified transaction

`AttestcoinRevenueVerifier.sol`. The verifier has the native precompile check that some bytes are a
transaction of a source block, has the official decoder read the receipt off those bytes, and
returns the logs of one emitter with one of the asked topics. A log is known by its position: the
chain key, the height and the index of the transaction, and the index of the log in the receipt.

What the precompile answers comes with the call (`NativeAnswers`), and so does what the provider
registry answers (`ProviderRegistry`). The decoder is a parameter. `SourceWorld` is what the
precompile is about: the transactions of the source chains. A precompile that is sound vouches for
those only.

The hash is free of collisions, so an identifier is the record of what the source hashes.
-/

set_option autoImplicit false

namespace Rackline.Native

open Evm

/-! ### Data -/

/-- `bytes`. -/
abbrev Bytes : Type := List UInt8

/-- `GpuTypes.SourceEventLocator`. -/
structure SourceEventLocator where
  chainKey : Nat
  height : Nat
  txIndex : Nat
  logOrdinal : Nat
deriving DecidableEq

/-- What `sourceEventId` hashes: the environment and the position. -/
structure SourceEventId where
  envIdHash : Bytes32
  locator : SourceEventLocator
deriving DecidableEq

/-- What `dataHash` hashes. -/
structure DataHash where
  topics : List Bytes32
  data : Bytes
deriving DecidableEq

/-- `GpuTypes.NativeProofEnvelope`. -/
structure NativeProofEnvelope where
  chainKey : Nat
  height : Nat
  encodedTransaction : Bytes
  merkleRoot : Bytes32
  siblings : List (Bytes32 × Bool)
  lowerEndpointDigest : Bytes32
  continuityRoots : List Bytes32

/-- `EvmV1Decoder.LogEntry`. -/
structure LogEntry where
  address_ : Address
  topics : List Bytes32
  data : Bytes
deriving DecidableEq

/-- The hash that a record of the log carries. -/
def LogEntry.dataHash (log : LogEntry) : DataHash := ⟨log.topics, log.data⟩

/-- `EvmV1Decoder.ReceiptFields`. An array of memory has fewer than `2^32` entries. -/
structure ReceiptFields where
  receiptStatus : Nat
  receiptLogs : List LogEntry
  bounded : receiptLogs.length ≤ 2 ^ 32

/-- `EvmV1Decoder`; `none` is a revert. -/
structure EvmV1Decoder where
  getTransactionType : Bytes → Option Nat
  isValidTransactionType : Nat → Bool
  decodeReceiptFields : Bytes → Option ReceiptFields

/-- The transactions of the source chains: the bytes at a chain key, a height and an index. -/
abbrev SourceWorld : Type := Nat → Nat → Nat → Option Bytes

/-- The log at a position. -/
def logAt (world : SourceWorld) (decoder : EvmV1Decoder) (l : SourceEventLocator) :
    Option LogEntry := do
  let encoded ← world l.chainKey l.height l.txIndex
  let receipt ← decoder.decodeReceiptFields encoded
  receipt.receiptLogs[l.logOrdinal]?

/-- `GpuTypes.VerifiedSourceEvent`. -/
structure VerifiedSourceEvent where
  id : SourceEventId
  locator : SourceEventLocator
  emitter : Address
  topic0 : Bytes32
  topics : List Bytes32
  data : Bytes
  manifestHash : Bytes32
  verifier : Address

/-- `GpuTypes.SourceChainRef`. -/
structure SourceChainRef where
  envIdHash : Bytes32
  chainKey : Nat
  chainId : Nat
  encoding : Nat
  manifestHash : Bytes32
deriving DecidableEq

/-- The precompile's answers to the two calls of `_nativeVerify`: `none` is a failed call, and the
data of a call that returned is a word when it is exactly one. -/
structure NativeAnswers where
  verifyAndEmit : Option (Option Nat)
  calculateTxIndex : Option (Option Nat)

/-- A sound precompile answers 1 for a transaction of the source chain, with its index. -/
def NativeAnswers.Sound (answers : NativeAnswers) (world : SourceWorld)
    (envelope : NativeProofEnvelope) : Prop :=
  ∀ i, answers.verifyAndEmit = some (some 1) → answers.calculateTxIndex = some (some i) →
    world envelope.chainKey envelope.height i = some envelope.encodedTransaction

/-- `IProviderRegistry.ProviderConfig`: what is read of it. -/
structure ProviderConfig where
  executionProfile : ExecutionProfile
  sourceChain : SourceChainRef

/-- What the provider registry and the account registry answer during one transaction. -/
structure ProviderRegistry where
  provider : ProviderId → Option ProviderConfig
  isEmitterRegistered : ProviderId → Address → Bytes32 → Bool
  emitterMeaning : ProviderId → Address → Bytes32 → Option EvidenceMeaning
  isAdmitted : ProviderId → Bytes32 → Bool
  isIssuer : ProviderId → Address → Bool
  isTokenAdmitted : ProviderId → Nat → Address → Bool
  borrowerOfWallet : Address → Bytes32
  borrowerOfAccount : AccountKey → Bytes32

/-- The reverts of the verifier, the evidence book and the book. -/
inductive IngestRevert
  /-- An `abi.decode` of data that does not fit. -/
  | abi
  | notAdmin (caller : Address)
  | zeroAddress
  | wiringFinalized
  | invalidVerifierBinding
  | verifierEnvMismatch (expected actual : Bytes32)
  | providerUnknown (providerId : ProviderId)
  | chainKeyMismatch (expected actual : Nat)
  | malformedEncoding
  | inputTooLarge (size max : Nat)
  | noMatchingLogs
  | emitterNotRegistered (emitter : Address) (topic0 : Bytes32)
  | manifestMismatch (expected actual : Bytes32)
  | providerNotAdmitted (providerId : ProviderId)
  | nativeVerificationFailed
  | transactionTypeUnsupported (txType : Nat)
  | receiptNotSuccessful (status : Nat)
  | evidencePaused
  | consumerNotAllowed (consumer : Address)
  | verifierNotBound (providerId : ProviderId)
  | instructionMismatch (expected actual : Nat)
  | invalidInstruction (field : String)
  | unknownLogOrdinal (ordinal : Nat)
  | notFromVerifier (verifier : Address)
  | alreadyConsumed (id : SourceEventId)
  | staleVerification (id : SourceEventId)
  | economicEventAlreadyRecorded
  | unregisteredEmitter (providerId : ProviderId) (emitter : Address) (topic0 : Bytes32)
  | unknownTopic (topic0 : Bytes32)
  | book (e : BookRevert)

instance : Panics IngestRevert := ⟨.book .panic⟩

/-- `PROVIDERS.provider`. -/
def ProviderRegistry.config (reg : ProviderRegistry) (providerId : ProviderId) :
    Except IngestRevert ProviderConfig :=
  match reg.provider providerId with
  | none => .error (.providerUnknown providerId)
  | some cfg => .ok cfg

/-! ### The verifier -/

/-- `SUPPORTED_ENCODING`. -/
def supportedEncoding : Nat := 1

/-- The immutables of an `AttestcoinRevenueVerifier`, and its address. -/
structure Verifier where
  self : Address
  providerId : ProviderId
  manifestHash : Bytes32
  envIdHash : Bytes32
  chainKey : Nat
  sourceChainId : Nat
  profile : ExecutionProfile
  maxTxBytes : Nat
  maxLogs : Nat
  maxSiblings : Nat
  maxContinuityRoots : Nat

namespace Verifier

variable (v : Verifier) (reg : ProviderRegistry) (decoder : EvmV1Decoder) (answers : NativeAnswers)
  (envelope : NativeProofEnvelope) (expectedEmitter : Address) (topic0s : List Bytes32)

/-- `sourceChain`. -/
def sourceChain : SourceChainRef :=
  { envIdHash := v.envIdHash, chainKey := v.chainKey, chainId := v.sourceChainId,
    encoding := supportedEncoding, manifestHash := v.manifestHash }

/-- `verificationMethod`. -/
def verificationMethod : VerificationMethod :=
  if v.profile = .localMock then .localMock else .attestcoinNative

/-- The loop over the asked topics in `_checkBinding`. -/
def requireRegistered : List Bytes32 → Except IngestRevert Unit
  | [] => .ok ()
  | topic0 :: rest => do
    revertIf (reg.isEmitterRegistered v.providerId expectedEmitter topic0 = false)
      (.emitterNotRegistered expectedEmitter topic0)
    requireRegistered rest

/-- `_checkBinding`. -/
def checkBinding : Except IngestRevert Unit := do
  revertIf (envelope.chainKey ≠ v.chainKey) (.chainKeyMismatch v.chainKey envelope.chainKey)
  revertIf (envelope.encodedTransaction = []) .malformedEncoding
  revertIf (envelope.encodedTransaction.length > v.maxTxBytes)
    (.inputTooLarge envelope.encodedTransaction.length v.maxTxBytes)
  revertIf (envelope.siblings.length > v.maxSiblings)
    (.inputTooLarge envelope.siblings.length v.maxSiblings)
  revertIf (envelope.continuityRoots.length > v.maxContinuityRoots)
    (.inputTooLarge envelope.continuityRoots.length v.maxContinuityRoots)
  revertIf (topic0s = []) .noMatchingLogs
  v.requireRegistered reg expectedEmitter topic0s
  if reg.isAdmitted v.providerId v.manifestHash = false then
    let cfg ← reg.config v.providerId
    revertIf (cfg.sourceChain.manifestHash ≠ v.manifestHash)
      (.manifestMismatch v.manifestHash cfg.sourceChain.manifestHash)
    .error (.providerNotAdmitted v.providerId)
  else
    return ()

/-- `_nativeVerify`: the index of the transaction that the precompile has verified. -/
def nativeVerify : Except IngestRevert Nat :=
  if answers.verifyAndEmit = some (some 1) then
    match answers.calculateTxIndex with
    | some (some idx) => do
      revertIf (idx ≥ wordSize 64) .nativeVerificationFailed
      return idx
    | _ => .error .nativeVerificationFailed
  else .error .nativeVerificationFailed

/-- `_decodeVerified`, with `decodeReceiptForSelf`. -/
def decodeVerified : Except IngestRevert ReceiptFields :=
  match decoder.getTransactionType envelope.encodedTransaction with
  | none => .error .malformedEncoding
  | some txType => do
    revertIf (decoder.isValidTransactionType txType = false) (.transactionTypeUnsupported txType)
    match decoder.decodeReceiptFields envelope.encodedTransaction with
    | none => .error .malformedEncoding
    | some receipt =>
      revertIf (receipt.receiptStatus ≠ 1) (.receiptNotSuccessful receipt.receiptStatus)
      revertIf (receipt.receiptLogs.length > v.maxLogs)
        (.inputTooLarge receipt.receiptLogs.length v.maxLogs)
      return receipt

/-- `_matches`. -/
def matches_ (log : LogEntry) : Bool :=
  match log.topics with
  | [] => false
  | topic0 :: _ => decide (log.address_ = expectedEmitter ∧ topic0 ∈ topic0s)

/-- `_event`, of the log at an index of the receipt. The index is cast to a `uint32`. -/
def event (height txIndex : Nat) (log : LogEntry) (ordinal : Nat) : VerifiedSourceEvent :=
  let locator : SourceEventLocator :=
    { chainKey := v.chainKey, height := height, txIndex := txIndex,
      logOrdinal := ordinal % wordSize 32 }
  { id := ⟨v.envIdHash, locator⟩, locator := locator, emitter := log.address_,
    topic0 := log.topics.headD 0, topics := log.topics, data := log.data,
    manifestHash := v.manifestHash, verifier := v.self }

/-- `_extract`: the logs that match, in receipt order. -/
def extract (receipt : ReceiptFields) (height txIndex : Nat) :
    Except IngestRevert (List VerifiedSourceEvent) := do
  let found := receipt.receiptLogs.zipIdx.filter fun l => matches_ expectedEmitter topic0s l.1
  revertIf (found = []) .noMatchingLogs
  return found.map fun l => v.event height txIndex l.1 l.2

/-- `verifyAndExtract`. -/
def verifyAndExtract : Except IngestRevert (List VerifiedSourceEvent) := do
  v.checkBinding reg envelope expectedEmitter topic0s
  let txIndex ← nativeVerify answers
  let receipt ← v.decodeVerified decoder envelope
  v.extract expectedEmitter topic0s receipt envelope.height txIndex

end Verifier

end Rackline.Native
