import Rackline.Evm.Token
import Mathlib.Data.Fintype.Basic

/-!
# `Rackline.Types`: identifiers, enums and structs shared by the contracts

The typed identifiers, enums and structs of `GpuTypes.sol`, the protocol roles, and the
reverts of the contracts that live on the destination chain. An error bubbles through a
cross-contract call unchanged, so one type holds the errors of all of them; `panic` is the
checked-arithmetic panic.

Amounts, times and counters are naturals. Every operation of the source that can leave its
word is one of the checked operations of `Evm.Arith`. `block.timestamp` is `Msg.now`; the
casts `uint64(block.timestamp)` are the identity on every time a chain has.
-/

set_option autoImplicit false

namespace Rackline

instance addressSize : NeZero (2 ^ 160) := inferInstance
instance wordSize256 : NeZero (2 ^ 256) := inferInstance

/-- A 160-bit account address. -/
def Address := Fin (2 ^ 160)

instance : DecidableEq Address := inferInstanceAs (DecidableEq (Fin (2 ^ 160)))
instance : Fintype Address := inferInstanceAs (Fintype (Fin (2 ^ 160)))
instance (n : Nat) : OfNat Address n := ⟨Fin.ofNat (2 ^ 160) n⟩
instance : Inhabited Address := ⟨0⟩

/-- A 256-bit word used as an identifier (`bytes32`). -/
def Bytes32 := Fin (2 ^ 256)

instance : DecidableEq Bytes32 := inferInstanceAs (DecidableEq (Fin (2 ^ 256)))
instance : Fintype Bytes32 := inferInstanceAs (Fintype (Fin (2 ^ 256)))
instance (n : Nat) : OfNat Bytes32 n := ⟨Fin.ofNat (2 ^ 256) n⟩
instance : Inhabited Bytes32 := ⟨0⟩

/-- `type FacilityId is bytes32`. -/
abbrev FacilityId := Bytes32
/-- `type ProviderId is bytes32`. -/
abbrev ProviderId := Bytes32
/-- `type AccountKey is bytes32`. -/
abbrev AccountKey := Bytes32

/-- The roles of `ProtocolRoles.sol`. -/
inductive Role
  | admin | registrar | underwriter | guardian | treasury | relayer | servicer
deriving DecidableEq, Repr

/-- `GpuTypes.FacilityState`. -/
inductive FacilityState
  | draft | underReview | controlPending | active | drawFrozen | delinquent | defaulted
  | recovery | repaid | released | closedWithLoss
deriving DecidableEq, Repr

/-- `GpuTypes.ExecutionProfile`. -/
inductive ExecutionProfile
  | localMock | nativeTestnet | production
deriving DecidableEq, Repr

/-- `GpuTypes.VerificationMethod`. -/
inductive VerificationMethod
  | attestcoinNative | localMock | offchainAssertion
deriving DecidableEq, Repr

/-- `GpuTypes.ControlGrade`, in order. -/
inductive ControlGrade
  | e0 | e1 | e2 | e3
deriving DecidableEq, Repr

/-- `GpuTypes.AssetRef`. -/
structure AssetRef where
  chainId : Nat
  token : Address
  decimals : Nat
deriving DecidableEq, Inhabited

/-- `GpuTypes.RepayResult`: how the ledger split a received amount. -/
structure RepayResult where
  requested : Nat
  received : Nat
  applied : Nat
  feePaid : Nat
  interestPaid : Nat
  principalPaid : Nat
  excess : Nat
  newDebt : Nat
deriving DecidableEq

/-- The context of a call: `msg.sender`, `block.timestamp`, the answers of `ROLES.hasRole`
during the transaction, and which addresses have code. -/
structure Msg where
  sender : Address
  now : Nat
  hasRole : Role → Address → Bool
  hasCode : Address → Bool

/-- The same transaction, seen by a contract that `caller` calls. -/
def Msg.calledBy (m : Msg) (caller : Address) : Msg := { m with sender := caller }

/-- `IExposureController.ReservationState`. -/
inductive ReservationState
  | none | active | consumed | cancelled | expired
deriving DecidableEq, Repr

/-- The reverts of the destination-chain contracts. -/
inductive Revert
  | panic
  | notAdmin (caller : Address)
  | notGuardian (caller : Address)
  | notGuardianOrUnderwriter (caller : Address)
  | onlyManager (caller : Address)
  | onlyRecoveryManager
  | wiringFinalized
  | paused
  | zeroAddress
  | zeroAmount
  | zeroShares
  | transferFailed
  | cashNotReceived (expected measured : Nat)
  | slippageExceeded (actual minimum : Nat)
  | insufficientCash (requested available : Nat)
  | facilityWrittenOff (facilityId : FacilityId)
  | facilityNotWrittenOff (facilityId : FacilityId)
  | refundExceedsBalance (requested available : Nat)
  | impairmentExceedsExposure (requested available : Nat)
  | withdrawalQueueActive
  | unknownWithdrawal (requestId : Nat)
  | notWithdrawalOwner (caller : Address)
  | noPendingWithdrawal (requestId : Nat)
  | noClaimableAssets
  | lockedShares (requested unlocked : Nat)
  | invalidProcessLimit
  | epochRecapitalizationRequired
  | epochNotFullyWrittenOff
  | epochNotClosed (epoch : Nat)
  | notLedgerWriter (caller : Address)
  | facilityUnknown (facilityId : FacilityId)
  | facilityExists (facilityId : FacilityId)
  | invalidTerms (reason : String)
  | accrualFrozenError (facilityId : FacilityId)
  | accrualBackwards (lastAccrualAt nowTs : Nat)
  | principalTooLarge (principal : Nat)
  | capitalizationDisabled
  | notRole (role : Role) (caller : Address)
  | notRecoveryManager (caller : Address)
  /-- `RecoveryManager.NotRole`, which names no role. -/
  | recoveryNotRole
  | notTransitionAuthority (source target : FacilityState) (caller : Address)
  | notManager (caller : Address)
  | facilityNotEnrolled (facilityId : FacilityId)
  | facilityAlreadyEnrolled (facilityId : FacilityId)
  | noAuthorization (facilityId : FacilityId)
  | authorizationExpired (facilityId : FacilityId) (validUntil : Nat)
  | policyStale (policyVersionId : Bytes32)
  | policyUnknown (policyVersionId : Bytes32)
  | capNotSet (category : String)
  | controlNotUsable (agreementId : Bytes32) (version : Nat)
  | facilityLimitZero (facilityId : FacilityId)
  | insufficientHeadroom (requested available : Nat)
  | nonceUsed (facilityId : FacilityId) (approvalNonce : Nat)
  | reservationNotActive (reservationId : Bytes32) (state : ReservationState)
  | reservationExpired (reservationId : Bytes32) (expiresAt : Nat)
  | reservationInvalidated (reservationId : Bytes32) (reason : String)
  | pilotValuationUnsupported (reason : String)
  | facilityNotActive (facilityId : FacilityId) (state : FacilityState)
  | walletNotLinked (borrowerId : Bytes32) (wallet : Address)
  | bookFacilityMismatch (facilityId : FacilityId)
  | controlAgreementMismatch (agreementId borrowerId : Bytes32)
  | exposureAuthorizationMismatch (facilityId : FacilityId) (field : String)
  | insufficientReceived (minReceived received : Nat)
  | reservationUnknown (reservationId : Bytes32)
  | nothingToRefund (facilityId : FacilityId)
  | recoveryAlreadyBound
  | resumeNotApproved
  | loanAssetMismatch
  | nativeEvidenceRequired (facilityId : FacilityId)
  | authorizationMissingOrExpired (facilityId : FacilityId)
  | authorizationManifestMismatch (expected actual : Bytes32)
  | controlInsufficientOrStale (facilityId : FacilityId)
  | exceedsAvailableDraw (requested available : Nat)
  | drawsArePaused
  | illegalTransition (source target : FacilityState)
  | profileMismatch (expected actual : ExecutionProfile)
  | notBorrower (facilityId : FacilityId) (caller : Address)
  | debtOutstanding (facilityId : FacilityId) (debt : Nat)
  | assertionRejected
  | unknownFacility (facilityId : FacilityId)
  | notSettlementLeg (caller : Address)
  | allocationExceedsReceipt (settlementId : Bytes32) (allocated received : Nat)
  | duplicateSettlement (settlementId : Bytes32)
  | nothingToRepay (facilityId : FacilityId)
  | unknownSettlement (settlementId : Bytes32)
  | notRefundAuthority (facilityId : FacilityId) (caller : Address)
  | invalidSchedule
  | disputeOpen
  | notDue
  | notApproved
  | duplicateLoss
  | notReserveOwner
  | outstandingDebt
  /-- A call into a registry that reverted with an error of its own. -/
  | registry

instance : Evm.Panics Revert := ⟨.panic⟩

end Rackline
