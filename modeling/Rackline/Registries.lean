import Rackline.LendingVault

/-!
# `Rackline.Registries`: what the protocol reads from outside

The credit protocol reads registries that it never writes: wallet links, receivables, control
agreements, the verifier of a provider, the risk policy, key epochs. `Registries` is what they
answer during one transaction. Every call of a run carries its own, so a run may see any
history of them.

`Deployment` is what is fixed when the contracts are deployed: their addresses, the loan asset
and the hash functions of the identifiers.
-/

set_option autoImplicit false

namespace Rackline

/-- `IReceivableBook.Facility`. -/
structure BookFacility where
  borrowerId : Bytes32
  providerId : ProviderId
  sourceAsset : AssetRef
  exists_ : Bool

/-- What the verifier bound to a provider reports. -/
structure RevenueVerifier where
  executionProfile : ExecutionProfile
  verificationMethod : VerificationMethod
  manifestHash : Bytes32

/-- `IControlRegistry.Agreement`. -/
structure Agreement where
  borrowerId : Bytes32
  version : Nat
  grade : ControlGrade

/-- `IRiskPolicy.Params`. -/
structure PolicyParams where
  advanceRateBps : Nat
  overdueHaircutBps : Nat
  concentrationHaircutBps : Nat
  collectabilityHaircutBps : Nat
  checkpointMaxAge : Nat
  controlObservationMaxAge : Nat
  perBorrowerCap : Nat
  perGroupCap : Nat
  perProviderCap : Nat
  globalCap : Nat
  checkpointToleranceBps : Nat

/-- `GpuTypes.CreditAuthorization`. -/
structure CreditAuthorization where
  facilityId : FacilityId
  decisionHash : Bytes32
  limit : Nat
  validUntil : Nat
  policyVersionId : Bytes32
  manifestHash : Bytes32
  controlAgreementVersionHash : Bytes32
deriving DecidableEq

instance : Inhabited CreditAuthorization := ⟨⟨0, 0, 0, 0, 0, 0, 0⟩⟩

/-- `GpuTypes.SupplementaryAssertion`: the parts the manager reads. Purpose, nonce, expiry and
signature are checked by the `AuthorizationVerifier`. -/
structure SupplementaryAssertion where
  signer : Address
  keyEpoch : Nat
deriving DecidableEq

/-- What the registries answer during one transaction. `none` is a revert of the registry. -/
structure Registries where
  isWalletOf : Bytes32 → Address → Bool
  bookFacility : FacilityId → BookFacility
  /-- `BOOK.eligibleUnpaid(facilityId, checkpointMaxAge, toleranceBps, overdueHaircutBps, at)`:
  eligible amount, evidence validity and checkpoint age. -/
  eligibleUnpaid : FacilityId → Nat → Nat → Nat → Nat → Option (Nat × Nat × Nat)
  /-- `EVIDENCE.verifierOf(providerId)`; `none` is the zero address. -/
  verifierOf : ProviderId → Option RevenueVerifier
  agreement : Bytes32 → Option Agreement
  isEffective : Bytes32 → Nat → Nat → Bool
  isFresh : Bytes32 → Nat → Bool
  /-- `CONTROL.requireUsable(agreementId, version, E2)` does not revert. -/
  requireUsable : Bytes32 → Nat → Bool
  /-- `POLICY.params`, with the checkpoint tolerance; `none` is an unknown version. -/
  policyParams : Bytes32 → Option PolicyParams
  currentPolicy : Bytes32
  isEpochValid : Role → Nat → Bool
  /-- `AUTH.verifyAndConsume(assertion, CREDIT_APPROVAL, subject)` does not revert. -/
  verifyAndConsume : SupplementaryAssertion → Bytes32 → Bool

namespace Registries

/-- `POLICY.isCurrent`. -/
def isCurrent (reg : Registries) (policyVersionId : Bytes32) : Bool :=
  (reg.policyParams policyVersionId).isSome && decide (policyVersionId = reg.currentPolicy)

/-- A read that may revert inside the registry. -/
def read {α : Type} (x : Option α) : Except Revert α :=
  match x with
  | none => .error .registry
  | some a => .ok a

/-- `POLICY.params`. -/
def params (reg : Registries) (policyVersionId : Bytes32) : Except Revert PolicyParams :=
  match reg.policyParams policyVersionId with
  | none => .error (.policyUnknown policyVersionId)
  | some p => .ok p

end Registries

/-- What is fixed at deployment. The contracts have different addresses, none of them zero. -/
structure Deployment where
  chainId : Nat
  asset : Address
  vault : Address
  exposure : Address
  manager : Address
  router : Address
  recovery : Address
  /-- Whether the router knows the manager (`FACILITIES`). -/
  routerHasFacilities : Bool
  /-- `keccak256(abi.encode(agreementId, version))`. -/
  controlVersionHash : Bytes32 → Nat → Bytes32
  /-- `keccak256(abi.encode(auth))`. -/
  authorizationSubject : CreditAuthorization → Bytes32
  /-- `keccak256(abi.encode(facilityId, approvalNonce))`. -/
  reservationId : FacilityId → Nat → Bytes32
  nodup : [vault, exposure, manager, router, recovery].Nodup
  nonzero : 0 ∉ [vault, exposure, manager, router, recovery]

/-- The contracts of the protocol that call each other. -/
def Deployment.contracts (d : Deployment) : List Address :=
  [d.vault, d.exposure, d.manager, d.router, d.recovery]

end Rackline
