import Rackline.Types

/-!
# `Rackline.DebtLedger`: the facility ledger

`InterestMath.sol` and `DebtLedger.sol`. The ledger keeps, for each facility, the principal,
the fees and the exact numerator of the unpaid interest. `accrue` brings the numerator up to
the call's time at the current rate; every writer operation accrues first.

`onlyWriter` and `exists` guard every writer operation. `modifyFacility` is that pair of
modifiers around the body of the operation, with the write-back of the storage struct.
-/

set_option autoImplicit false

namespace Rackline

open Evm

namespace InterestMath

/-- Basis points in one. -/
def bps : Nat := 10000

/-- `365 days` in seconds. -/
def year : Nat := 365 * 86400

/-- One unit of interest is `denom` accumulator units. -/
def denom : Nat := bps * year

/-- `type(uint128).max`. -/
def maxPrincipal : Nat := 2 ^ 128 - 1

/-- Numerator growth of `principal` at `rateBps` over `elapsed` seconds. -/
def growth (principal rateBps elapsed : Nat) : Except Revert Nat := do
  revertIf (principal > maxPrincipal) (.principalTooLarge principal)
  let perSecond ← mulW 256 principal rateBps
  mulW 256 perSecond elapsed

/-- Whole interest units in an accumulator. -/
def units (accum : Nat) : Nat := accum / denom

/-- Accumulator units of `unitsPaid` whole units. -/
def toAccum (unitsPaid : Nat) : Except Revert Nat := mulW 256 unitsPaid denom

end InterestMath

/-- `IDebtLedger.Terms`. -/
structure Terms where
  loanAsset : AssetRef
  rateBps : Nat
  maturityAt : Nat
  termsVersionId : Bytes32
  policyVersionId : Bytes32
  executionProfile : ExecutionProfile
  capitalizeUnpaidInterest : Bool
deriving DecidableEq

instance : Inhabited Terms := ⟨⟨default, 0, 0, 0, 0, .localMock, false⟩⟩

/-- `DebtLedger.RateSegment`. -/
structure RateSegment where
  start : Nat
  rateBps : Nat
deriving DecidableEq

/-- `DebtLedger.Facility`. -/
structure Facility where
  exists_ : Bool
  frozen : Bool
  state : FacilityState
  terms : Terms
  principal : Nat
  fees : Nat
  interestAccum : Nat
  lastAccrualAt : Nat
  rateBps : Nat
  segments : List RateSegment

/-- The zero value of a storage struct. -/
def Facility.empty : Facility :=
  { exists_ := false, frozen := false, state := .draft, terms := default, principal := 0,
    fees := 0, interestAccum := 0, lastAccrualAt := 0, rateBps := 0, segments := [] }

namespace Facility

/-- `_accrue`: settle `[lastAccrualAt, now)` at the current rate. -/
def accrue (now : Nat) (f : Facility) : Except Revert Facility := do
  revertIf (now < f.lastAccrualAt) (.accrualBackwards f.lastAccrualAt now)
  if now = f.lastAccrualAt then
    return f
  else if f.frozen = false ∧ f.principal ≠ 0 then
    let g ← InterestMath.growth f.principal f.rateBps (now - f.lastAccrualAt)
    let accum ← addW 256 f.interestAccum g
    return { f with interestAccum := accum, lastAccrualAt := now }
  else
    return { f with lastAccrualAt := now }

/-- `_unpaidInterestAt`: recorded interest plus the pending accrual up to `t`. -/
def unpaidInterestAt (f : Facility) (t : Nat) : Except Revert Nat :=
  if f.frozen = true ∨ t ≤ f.lastAccrualAt ∨ f.principal = 0 then
    .ok (InterestMath.units f.interestAccum)
  else do
    let g ← InterestMath.growth f.principal f.rateBps (t - f.lastAccrualAt)
    let accum ← addW 256 f.interestAccum g
    return InterestMath.units accum

/-- `principal + fees + _unpaidInterestAt(f, t)`, the body of `legalDebtAt` and of the loop
of `totalLegalDebtAt`. -/
def legalDebtAt (f : Facility) (t : Nat) : Except Revert Nat := do
  let base ← addW 256 f.principal f.fees
  let interest ← f.unpaidInterestAt t
  addW 256 base interest

/-- `_legalDebt`: the recorded debt. -/
def legalDebt (f : Facility) : Except Revert Nat := do
  let base ← addW 256 f.principal f.fees
  addW 256 base (InterestMath.units f.interestAccum)

/-- The body of `setRate`. A change in the second of the last segment replaces it. -/
def setRate (now rateBps : Nat) (f : Facility) : Except Revert Facility := do
  let f ← f.accrue now
  match f.segments.getLast? with
  | none => .error .panic
  | some last =>
    let segments :=
      if last.start = now then f.segments.dropLast ++ [{ last with rateBps := rateBps }]
      else f.segments ++ [{ start := now, rateBps := rateBps }]
    return { f with segments := segments, rateBps := rateBps }

/-- The body of `recordDraw`. -/
def recordDraw (now : Nat) (id : FacilityId) (amount : Nat) (f : Facility) :
    Except Revert Facility := do
  revertIf (amount = 0) .zeroAmount
  revertIf (f.frozen = true) (.accrualFrozenError id)
  let f ← f.accrue now
  let newPrincipal ← addW 256 f.principal amount
  revertIf (newPrincipal > InterestMath.maxPrincipal) (.principalTooLarge newPrincipal)
  return { f with principal := newPrincipal }

/-- The body of `recordFee`. -/
def recordFee (now amount : Nat) (f : Facility) : Except Revert Facility := do
  revertIf (amount = 0) .zeroAmount
  let f ← f.accrue now
  let fees ← addW 256 f.fees amount
  return { f with fees := fees }

/-- The body of `allocate`: fees, then whole interest units, then principal, then excess. -/
def allocate (now received : Nat) (f : Facility) : Except Revert (RepayResult × Facility) := do
  revertIf (received = 0) .zeroAmount
  let f ← f.accrue now
  let feePaid := if received < f.fees then received else f.fees
  let remaining := received - feePaid
  let unpaid := InterestMath.units f.interestAccum
  let interestPaid := if remaining < unpaid then remaining else unpaid
  let paidAccum ← InterestMath.toAccum interestPaid
  let accum ← subW f.interestAccum paidAccum
  let remaining := remaining - interestPaid
  let principalPaid := if remaining < f.principal then remaining else f.principal
  let remaining := remaining - principalPaid
  let f := { f with
    fees := f.fees - feePaid
    interestAccum := accum
    principal := f.principal - principalPaid }
  let newDebt ← f.legalDebt
  return ({ requested := received, received := received, applied := received - remaining,
            feePaid := feePaid, interestPaid := interestPaid, principalPaid := principalPaid,
            excess := remaining, newDebt := newDebt }, f)

/-- The body of `freezeAccrual`. -/
def freezeAccrual (now : Nat) (f : Facility) : Except Revert Facility := do
  let f ← f.accrue now
  return { f with frozen := true }

/-- The body of `capitalize`. -/
def capitalize (now : Nat) (id : FacilityId) (f : Facility) : Except Revert Facility := do
  revertIf (f.terms.capitalizeUnpaidInterest = false) .capitalizationDisabled
  revertIf (f.frozen = true) (.accrualFrozenError id)
  let f ← f.accrue now
  let unpaid := InterestMath.units f.interestAccum
  if unpaid = 0 then
    return f
  else
    let paidAccum ← InterestMath.toAccum unpaid
    let accum ← subW f.interestAccum paidAccum
    let newPrincipal ← addW 256 f.principal unpaid
    revertIf (newPrincipal > InterestMath.maxPrincipal) (.principalTooLarge newPrincipal)
    return { f with interestAccum := accum, principal := newPrincipal }

end Facility

/-- The storage of `DebtLedger`. -/
structure Ledger where
  facilities : FacilityId → Facility
  ids : List FacilityId
  isWriter : Address → Bool
  wiringFinalized : Bool

/-- The ledger after deployment. -/
def Ledger.initial : Ledger :=
  { facilities := fun _ => .empty, ids := [], isWriter := fun _ => false,
    wiringFinalized := false }

namespace Ledger

/-- `setWriter`. -/
def setWriter (m : Msg) (writer : Address) (enabled : Bool) (l : Ledger) :
    Except Revert Ledger := do
  revertIf (m.hasRole .admin m.sender = false) (.notAdmin m.sender)
  revertIf (l.wiringFinalized = true) .wiringFinalized
  return { l with isWriter := Function.update l.isWriter writer enabled }

/-- `finalizeWiring`. -/
def finalizeWiring (m : Msg) (l : Ledger) : Except Revert Ledger := do
  revertIf (m.hasRole .admin m.sender = false) (.notAdmin m.sender)
  revertIf (l.wiringFinalized = true) .wiringFinalized
  return { l with wiringFinalized := true }

/-- `open`. -/
def openFacility (m : Msg) (id : FacilityId) (t : Terms) (l : Ledger) :
    Except Revert Ledger := do
  revertIf (l.isWriter m.sender = false) (.notLedgerWriter m.sender)
  revertIf ((l.facilities id).exists_ = true) (.facilityExists id)
  revertIf (t.termsVersionId = 0 ∨ t.policyVersionId = 0) (.invalidTerms "version ids")
  revertIf (t.loanAsset.chainId = 0) (.invalidTerms "loan asset")
  revertIf (t.maturityAt ≠ 0 ∧ t.maturityAt ≤ m.now) (.invalidTerms "maturity")
  let f := l.facilities id
  return { l with
    facilities := Function.update l.facilities id { f with
      exists_ := true
      state := .active
      terms := t
      rateBps := t.rateBps
      lastAccrualAt := m.now
      segments := f.segments ++ [{ start := m.now, rateBps := t.rateBps }] }
    ids := l.ids ++ [id] }

/-- The modifiers `onlyWriter` and `exists` around an operation on one facility. -/
def modifyFacility (m : Msg) (id : FacilityId) (body : Facility → Except Revert Facility)
    (l : Ledger) : Except Revert Ledger := do
  revertIf (l.isWriter m.sender = false) (.notLedgerWriter m.sender)
  revertIf ((l.facilities id).exists_ = false) (.facilityUnknown id)
  let f ← body (l.facilities id)
  return { l with facilities := Function.update l.facilities id f }

/-- `setState`. -/
def setState (m : Msg) (id : FacilityId) (state : FacilityState) : Ledger → Except Revert Ledger :=
  modifyFacility m id fun f => .ok { f with state := state }

/-- `accrue`. -/
def accrue (m : Msg) (id : FacilityId) : Ledger → Except Revert Ledger :=
  modifyFacility m id (Facility.accrue m.now)

/-- `setRate`. -/
def setRate (m : Msg) (id : FacilityId) (rateBps : Nat) : Ledger → Except Revert Ledger :=
  modifyFacility m id (Facility.setRate m.now rateBps)

/-- `recordDraw`. -/
def recordDraw (m : Msg) (id : FacilityId) (amount : Nat) : Ledger → Except Revert Ledger :=
  modifyFacility m id (Facility.recordDraw m.now id amount)

/-- `recordFee`. -/
def recordFee (m : Msg) (id : FacilityId) (amount : Nat) : Ledger → Except Revert Ledger :=
  modifyFacility m id (Facility.recordFee m.now amount)

/-- `freezeAccrual`. -/
def freezeAccrual (m : Msg) (id : FacilityId) : Ledger → Except Revert Ledger :=
  modifyFacility m id (Facility.freezeAccrual m.now)

/-- `capitalize`. -/
def capitalize (m : Msg) (id : FacilityId) : Ledger → Except Revert Ledger :=
  modifyFacility m id (Facility.capitalize m.now id)

/-- `allocate`. The one writer operation with a result. -/
def allocate (m : Msg) (id : FacilityId) (received : Nat) (l : Ledger) :
    Except Revert (RepayResult × Ledger) := do
  revertIf (l.isWriter m.sender = false) (.notLedgerWriter m.sender)
  revertIf ((l.facilities id).exists_ = false) (.facilityUnknown id)
  let (r, f) ← (l.facilities id).allocate m.now received
  return (r, { l with facilities := Function.update l.facilities id f })

/-- `unpaidInterestAt`. -/
def unpaidInterestAt (l : Ledger) (id : FacilityId) (t : Nat) : Except Revert Nat := do
  revertIf ((l.facilities id).exists_ = false) (.facilityUnknown id)
  (l.facilities id).unpaidInterestAt t

/-- `legalDebtAt`. -/
def legalDebtAt (l : Ledger) (id : FacilityId) (t : Nat) : Except Revert Nat := do
  revertIf ((l.facilities id).exists_ = false) (.facilityUnknown id)
  (l.facilities id).legalDebtAt t

/-- The loop of `totalLegalDebtAt` from the accumulator `total`. -/
def sumLegalDebtAt (l : Ledger) (t : Nat) : List FacilityId → Nat → Except Revert Nat
  | [], total => .ok total
  | id :: rest, total => do
    let debt ← (l.facilities id).legalDebtAt t
    let total ← addW 256 total debt
    sumLegalDebtAt l t rest total

/-- `totalLegalDebtAt`. -/
def totalLegalDebtAt (l : Ledger) (t : Nat) : Except Revert Nat :=
  l.sumLegalDebtAt t l.ids 0

end Ledger

end Rackline
