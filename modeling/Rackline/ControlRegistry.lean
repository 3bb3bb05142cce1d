import Rackline.Types
import Rackline.Lib.Transition

/-!
# `Rackline.ControlRegistry`: payment-control agreements

`ControlRegistry.sol`. An agreement has versions, each with a grade, a receiver and a window in
which it is effective. Keepers observe the partner side: an observation writes the grade and the
receiver it saw and refreshes the freshness timestamp. A guardian revokes, and a servicer and a
treasurer together release.

`st.observedReceiver == address(0)` reads as "never observed" in `isEffective` and
`effectiveGrade`. `observe` writes whatever receiver it is given.

What a call reads from outside, the owner of an account and the debt of a facility, comes with
the call (`ControlEnv`). Events are left out, and the reason of a revocation with them.
-/

set_option autoImplicit false

namespace Rackline

open Evm Transition

/-- The place of a grade in the order of `GpuTypes.ControlGrade`. -/
def ControlGrade.rank : ControlGrade → Nat
  | .e0 => 0
  | .e1 => 1
  | .e2 => 2
  | .e3 => 3

/-- The reverts of `ControlRegistry`. -/
inductive ControlRevert
  | panic
  | notRole (role : Role) (caller : Address)
  | agreementExists (agreementId : Bytes32)
  | agreementUnknown (agreementId : Bytes32)
  | agreementTerminal (agreementId : Bytes32)
  | accountNotOwnedByBorrower (accountKey : AccountKey) (borrowerId : Bytes32)
  | gradeNotAllowedForRole (grade : ControlGrade) (caller : Address)
  | observationCannotUpgrade (agreementGrade observed : ControlGrade)
  | badEffectiveWindow (source target : Nat)
  | zeroAddress
  | gradeInsufficient (required actual : ControlGrade)
  | observationStale (lastObservedAt maxAge : Nat)
  | agreementNotEffective (agreementId : Bytes32) (version : Nat)
  | releaseBlocked (reason : String)
  | e2RequiresPoc (agreementId : Bytes32)
  /-- The ledger reverted. -/
  | ledger
deriving DecidableEq

instance : Panics ControlRevert := ⟨.panic⟩

/-- The terms of one version, as the callers of `_writeVersion` pass them. -/
structure VersionTerms where
  grade : ControlGrade
  receiver : Address
  receiverChainId : Nat
  agreementHash : Bytes32
  effectiveFrom : Nat
  effectiveTo : Nat
  pocRef : Bytes32

/-- `IControlRegistry.Agreement`. -/
structure ControlAgreement where
  agreementId : Bytes32
  borrowerId : Bytes32
  accountKey : AccountKey
  version : Nat
  lastObservedAt : Nat
  terms : VersionTerms

/-- `ControlRegistry.Status`. -/
structure ControlStatus where
  exists_ : Bool
  revoked : Bool
  released : Bool
  observedGrade : ControlGrade
  observedReceiver : Address
  facilityId : FacilityId
  releaseApprovedVersion : Nat
  reconciliationClosesAt : Nat
  refundPending : Bool

/-- `ControlRegistry.ReleaseTerms`. -/
structure ReleaseTerms where
  version : Nat
  reconciliationClosesAt : Nat
  refundPending : Bool

/-- The storage of `ControlRegistry`. -/
structure ControlRegistry where
  agreements : Bytes32 → ControlAgreement
  status : Bytes32 → ControlStatus

/-- The registry after deployment. -/
def ControlRegistry.initial : ControlRegistry where
  agreements := fun _ => ⟨0, 0, 0, 0, 0, ⟨.e0, 0, 0, 0, 0, 0, 0⟩⟩
  status := fun _ => ⟨false, false, false, .e0, 0, 0, 0, 0, false⟩

/-- What a call reads from other contracts: `ACCOUNTS.borrowerOfAccount`, and
`DEBT.legalDebtAt` at the time of the call, where `none` is a revert of the ledger. A `DEBT` of
zero is `none` as a whole. -/
structure ControlEnv where
  borrowerOfAccount : AccountKey → Bytes32
  debt : Option (FacilityId → Option Nat)

namespace ControlRegistry

variable (m : Msg) (env : ControlEnv) (agreementId : Bytes32) (k : ControlRegistry)

/-- Write the agreement and the status of one id. -/
def put (a : ControlAgreement) (st : ControlStatus) : ControlRegistry where
  agreements := Function.update k.agreements agreementId a
  status := Function.update k.status agreementId st

/-- The checks `!st.exists` and `st.released` that most calls start with. -/
def requireLive : Except ControlRevert Unit := do
  revertIf ((k.status agreementId).exists_ = false) (.agreementUnknown agreementId)
  revertIf ((k.status agreementId).released = true) (.agreementTerminal agreementId)

/-! ### Versions -/

/-- `_checkGradeAuthority`. -/
def checkGradeAuthority (grade : ControlGrade) (pocRef : Bytes32) : Except ControlRevert Unit :=
  if ControlGrade.e2.rank ≤ grade.rank then do
    revertIf (m.hasRole .underwriter m.sender = false) (.gradeNotAllowedForRole grade m.sender)
    revertIf (pocRef = 0) (.e2RequiresPoc agreementId)
  else
    revertIf (m.hasRole .registrar m.sender = false ∧ m.hasRole .underwriter m.sender = false)
      (.gradeNotAllowedForRole grade m.sender)

/-- `_writeVersion`: the new terms, and no observation of them yet. -/
def writeVersion (borrowerId : Bytes32) (accountKey : AccountKey) (version : Nat)
    (terms : VersionTerms) (st : ControlStatus) : Except ControlRevert ControlRegistry := do
  revertIf (terms.receiver = 0 ∨ terms.agreementHash = 0) .zeroAddress
  revertIf (terms.effectiveTo ≠ 0 ∧ terms.effectiveTo ≤ terms.effectiveFrom)
    (.badEffectiveWindow terms.effectiveFrom terms.effectiveTo)
  return k.put agreementId
    { agreementId := agreementId, borrowerId := borrowerId, accountKey := accountKey,
      version := version, lastObservedAt := 0, terms := terms }
    { st with observedReceiver := 0, observedGrade := .e0 }

/-- `createAgreement`. -/
def createAgreement (borrowerId : Bytes32) (accountKey : AccountKey) (terms : VersionTerms) :
    Except ControlRevert ControlRegistry := do
  revertIf ((k.status agreementId).exists_ = true) (.agreementExists agreementId)
  checkGradeAuthority m agreementId terms.grade terms.pocRef
  revertIf (env.borrowerOfAccount accountKey ≠ borrowerId)
    (.accountNotOwnedByBorrower accountKey borrowerId)
  k.writeVersion agreementId borrowerId accountKey 1 terms
    { k.status agreementId with exists_ := true }

/-- `bumpVersion`. -/
def bumpVersion (terms : VersionTerms) : Except ControlRevert ControlRegistry := do
  k.requireLive agreementId
  checkGradeAuthority m agreementId terms.grade terms.pocRef
  let a := k.agreements agreementId
  let version ← addW 32 a.version 1
  k.writeVersion agreementId a.borrowerId a.accountKey version terms
    { k.status agreementId with revoked := false, releaseApprovedVersion := 0 }

/-- `bindFacility`. -/
def bindFacility (facilityId : FacilityId) : Except ControlRevert ControlRegistry := do
  revertIf (m.hasRole .underwriter m.sender = false) (.notRole .underwriter m.sender)
  k.requireLive agreementId
  return k.put agreementId (k.agreements agreementId)
    { k.status agreementId with facilityId := facilityId }

/-! ### Observations -/

/-- `observe`. -/
def observe (observedGrade : ControlGrade) (observedReceiver : Address) :
    Except ControlRevert ControlRegistry := do
  revertIf (m.hasRole .servicer m.sender = false ∧ m.hasRole .relayer m.sender = false)
    (.notRole .servicer m.sender)
  k.requireLive agreementId
  let a := k.agreements agreementId
  revertIf (a.terms.grade.rank < observedGrade.rank)
    (.observationCannotUpgrade a.terms.grade observedGrade)
  return k.put agreementId { a with lastObservedAt := m.now }
    { k.status agreementId with
      observedGrade := observedGrade, observedReceiver := observedReceiver }

/-! ### Revocation and release -/

/-- The grade of a revoked agreement: `E1` at most. -/
def capGrade (grade : ControlGrade) : ControlGrade :=
  if ControlGrade.e1.rank < grade.rank then .e1 else grade

/-- `revoke`. -/
def revoke : Except ControlRevert ControlRegistry := do
  revertIf (m.hasRole .guardian m.sender = false) (.notRole .guardian m.sender)
  k.requireLive agreementId
  let a := k.agreements agreementId
  let st := k.status agreementId
  return k.put agreementId { a with terms := { a.terms with grade := capGrade a.terms.grade } }
    { st with revoked := true, releaseApprovedVersion := 0,
              observedGrade := capGrade st.observedGrade }

/-- `approveRelease`. -/
def approveRelease (terms : ReleaseTerms) : Except ControlRevert ControlRegistry := do
  revertIf (m.hasRole .servicer m.sender = false) (.notRole .servicer m.sender)
  k.requireLive agreementId
  revertIf (terms.version = 0 ∨ terms.version ≠ (k.agreements agreementId).version)
    (.agreementNotEffective agreementId terms.version)
  return k.put agreementId (k.agreements agreementId)
    { k.status agreementId with
      releaseApprovedVersion := terms.version
      reconciliationClosesAt := terms.reconciliationClosesAt
      refundPending := terms.refundPending }

/-- `release`. -/
def release (version : Nat) : Except ControlRevert ControlRegistry := do
  revertIf (m.hasRole .treasury m.sender = false) (.notRole .treasury m.sender)
  k.requireLive agreementId
  let a := k.agreements agreementId
  let st := k.status agreementId
  revertIf (version = 0 ∨ version ≠ a.version) (.agreementNotEffective agreementId version)
  revertIf (st.releaseApprovedVersion ≠ version)
    (.releaseBlocked "servicer approval missing or stale")
  revertIf (st.refundPending = true) (.releaseBlocked "refund pending")
  revertIf (m.now < st.reconciliationClosesAt) (.releaseBlocked "reconciliation window open")
  match env.debt with
  | none => .error (.releaseBlocked "no authoritative debt source")
  | some legalDebt =>
    revertIf (st.facilityId = 0) (.releaseBlocked "no facility bound")
    match legalDebt st.facilityId with
    | none => .error .ledger
    | some debt =>
      revertIf (debt ≠ 0) (.releaseBlocked "debt outstanding")
      return k.put agreementId { a with terms := { a.terms with effectiveTo := m.now } }
        { st with released := true, releaseApprovedVersion := 0 }

/-! ### Views -/

/-- `isEffective`. -/
def isEffective (version time : Nat) : Bool :=
  let st := k.status agreementId
  let a := k.agreements agreementId
  if st.exists_ = false ∨ st.revoked = true ∨ st.released = true then false
  else if version = 0 ∨ version ≠ a.version then false
  else if time < a.terms.effectiveFrom then false
  else if a.terms.effectiveTo ≠ 0 ∧ a.terms.effectiveTo ≤ time then false
  else if st.observedReceiver ≠ 0 ∧ st.observedReceiver ≠ a.terms.receiver then false
  else if st.observedReceiver ≠ 0 ∧ st.observedGrade.rank < a.terms.grade.rank then false
  else true

/-- `effectiveGrade` at the time `now`. -/
def effectiveGrade (now : Nat) : ControlGrade :=
  let st := k.status agreementId
  let a := k.agreements agreementId
  if k.isEffective agreementId a.version now = false then .e0
  else if st.observedReceiver = 0 ∨ a.terms.grade.rank < st.observedGrade.rank then a.terms.grade
  else st.observedGrade

/-- `isFresh` at the time `now`. The sum is one of 256-bit words and cannot leave them. -/
def isFresh (maxAge now : Nat) : Bool :=
  let st := k.status agreementId
  if st.exists_ = false ∨ st.revoked = true ∨ st.released = true then false
  else if (k.agreements agreementId).lastObservedAt = 0 then false
  else decide (now ≤ (k.agreements agreementId).lastObservedAt + maxAge)

/-- `requireUsable` at the time `now`, in a registry with the given `_OBSERVATION_MAX_AGE`. -/
def requireUsable (observationMaxAge now version : Nat) (required : ControlGrade) :
    Except ControlRevert Unit := do
  revertIf (k.isEffective agreementId version now = false)
    (.agreementNotEffective agreementId version)
  revertIf ((k.effectiveGrade agreementId now).rank < required.rank)
    (.gradeInsufficient required (k.effectiveGrade agreementId now))
  revertIf (k.isFresh agreementId observationMaxAge now = false)
    (.observationStale (k.agreements agreementId).lastObservedAt observationMaxAge)

end ControlRegistry

/-! ### Runs -/

/-- The external calls of `ControlRegistry` that write. -/
inductive ControlCall
  | createAgreement (agreementId borrowerId : Bytes32) (accountKey : AccountKey)
      (terms : VersionTerms)
  | bumpVersion (agreementId : Bytes32) (terms : VersionTerms)
  | bindFacility (agreementId : Bytes32) (facilityId : FacilityId)
  | observe (agreementId : Bytes32) (observedGrade : ControlGrade) (observedReceiver : Address)
  | revoke (agreementId : Bytes32)
  | approveRelease (agreementId : Bytes32) (terms : ReleaseTerms)
  | release (agreementId : Bytes32) (version : Nat)

/-- Run a call of the registry. -/
def ControlCall.exec (m : Msg) (env : ControlEnv) (k : ControlRegistry) :
    ControlCall → Except ControlRevert ControlRegistry
  | createAgreement id borrowerId accountKey terms =>
    k.createAgreement m env id borrowerId accountKey terms
  | bumpVersion id terms => k.bumpVersion m id terms
  | bindFacility id facilityId => k.bindFacility m id facilityId
  | observe id observedGrade observedReceiver => k.observe m id observedGrade observedReceiver
  | revoke id => k.revoke m id
  | approveRelease id terms => k.approveRelease m id terms
  | release id version => k.release m env id version

/-- A transaction of the registry. -/
structure ControlTx where
  msg : Msg
  env : ControlEnv
  call : ControlCall

/-- One successful transaction. -/
def ControlStep (k : ControlRegistry) (tx : ControlTx) (k' : ControlRegistry) : Prop :=
  tx.call.exec tx.msg tx.env k = .ok k'

end Rackline
