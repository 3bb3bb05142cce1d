import Mathlib.Algebra.Ring.Int.Defs
import Rackline.DebtLedger

/-!
# `Rackline.Reference`: the accounting reference model

`hashcredit_gpu/accounting/reference.py`: the Python model of the facility ledger and of the book
of the vault. Its numbers are unbounded integers and its errors are exceptions.

A facility keeps the list of its rate segments, sorted by their starts. `accrue` walks from the
last accrual to the new time, segment by segment (`accumulate`, the `while` loop). The book of the
vault keeps LP cash and evaluates NAV at its clock, over the facilities that are not written off.

The dictionaries are functions with the value of an absent key, next to the list of the keys that
are iterated over. The journals are left out, and so is the pipeline of source cash
(`source_receipt`, `start_leg`, `destination_receipt`), which never touches a facility.
-/

set_option autoImplicit false

namespace Rackline.Reference

open InterestMath (denom)

/-- `AccountingError`, by its message, and the exceptions of Python. -/
inductive AccountingError
  | accrualBackwards
  | amountNotPositive
  | clockBackwards
  | depositTooSmall
  | insufficientShares
  | insufficientCash
  | impairmentExceedsExposure
  | indexError
  | keyError
  | zeroDivision
deriving DecidableEq

/-- `raise e` under a condition. -/
def raiseIf (c : Prop) [Decidable c] (e : AccountingError) : Except AccountingError Unit :=
  if c then .error e else .ok ()

/-- `Terms`, the part that the ledger reads. -/
structure Terms where
  rateBps : Nat
  capitalizeUnpaidInterest : Bool

/-- `FacilityLedger`. -/
structure FacilityLedger where
  terms : Terms
  openedAt : Nat
  principal : Nat
  fees : Nat
  interestAccum : Nat
  lastAccrualAt : Nat
  segments : List RateSegment
  writtenOffPrincipal : Nat
  writtenOffInterest : Nat
  impaired : Bool
  accrualFrozen : Bool

/-- What `allocate_repayment` returns. -/
structure Allocation where
  fees : Nat
  interest : Nat
  principal : Nat
  excess : Nat
deriving DecidableEq

/-- The inner `for` loop: the first segment start after `t`, or `stop`. -/
def nextBoundary (segments : List RateSegment) (t stop : Nat) : Nat :=
  segments.foldl (fun nxt seg => if t < seg.start ∧ seg.start < nxt then seg.start else nxt) stop

/-- The loop goes forward. -/
theorem lt_nextBoundary (segments : List RateSegment) {t stop : Nat} (h : t < stop) :
    t < nextBoundary segments t stop := by
  induction segments generalizing stop with
  | nil => exact h
  | cons seg rest ih =>
    show t < nextBoundary rest t (if t < seg.start ∧ seg.start < stop then seg.start else stop)
    apply ih
    split
    · rename_i hseg
      exact hseg.1
    · exact h

namespace FacilityLedger

/-- `FacilityLedger(facility_id, terms, opened_at)` with `__post_init__`. -/
def new (terms : Terms) (openedAt : Nat) : FacilityLedger where
  terms := terms
  openedAt := openedAt
  principal := 0
  fees := 0
  interestAccum := 0
  lastAccrualAt := openedAt
  segments := [{ start := openedAt, rateBps := terms.rateBps }]
  writtenOffPrincipal := 0
  writtenOffInterest := 0
  impaired := false
  accrualFrozen := false

variable (f : FacilityLedger)

/-- `unpaid_interest`. -/
def unpaidInterest : Nat := f.interestAccum / denom

/-- `legal_debt`. -/
def legalDebt : Nat := f.principal + f.unpaidInterest + f.fees

/-- `current_rate`: the rate of the last segment that has started. -/
def currentRate (time : Nat) : Except AccountingError Nat :=
  match f.segments with
  | [] => .error .indexError
  | first :: _ => .ok (f.segments.foldl
      (fun rate seg => if seg.start ≤ time then seg.rateBps else rate) first.rateBps)

/-- The `while t < stop` loop, from the accumulator `accum`. -/
def accumulate (stop t accum : Nat) : Except AccountingError Nat :=
  if _h : t < stop then do
    let rate ← f.currentRate t
    let nxt := nextBoundary f.segments t stop
    accumulate stop nxt (accum + f.principal * rate * (nxt - t))
  else
    .ok accum
termination_by stop - t
decreasing_by
  have := lt_nextBoundary f.segments ‹t < stop›
  omega

/-- `unpaid_interest_at`. -/
def unpaidInterestAt (time : Nat) : Except AccountingError Nat :=
  if f.accrualFrozen = true ∨ time ≤ f.lastAccrualAt then .ok f.unpaidInterest
  else do
    let accum ← f.accumulate time f.lastAccrualAt f.interestAccum
    return accum / denom

/-- `accrue`. -/
def accrue (toTs : Nat) : Except AccountingError FacilityLedger := do
  raiseIf (toTs < f.lastAccrualAt) .accrualBackwards
  if f.accrualFrozen = true then
    return { f with lastAccrualAt := toTs }
  else
    let accum ← f.accumulate toTs f.lastAccrualAt f.interestAccum
    return { f with interestAccum := accum, lastAccrualAt := toTs }

/-- `set_rate`. -/
def setRate (time rateBps : Nat) : Except AccountingError FacilityLedger := do
  let f ← f.accrue time
  let segments :=
    if f.segments.any (fun seg => seg.start == time) = true then
      f.segments.filter (fun seg => seg.start != time)
    else f.segments
  let segments := segments ++ [{ start := time, rateBps := rateBps }]
  return { f with segments := segments.mergeSort (fun a b => a.start ≤ b.start) }

/-- `borrow`. -/
def borrow (time amount : Nat) : Except AccountingError FacilityLedger := do
  raiseIf (amount = 0) .amountNotPositive
  let f ← f.accrue time
  let f :=
    if f.terms.capitalizeUnpaidInterest = true then
      { f with
        principal := f.principal + f.unpaidInterest
        interestAccum := f.interestAccum - f.unpaidInterest * denom }
    else f
  return { f with principal := f.principal + amount }

/-- `charge_fee`. -/
def chargeFee (time amount : Nat) : Except AccountingError FacilityLedger := do
  let f ← f.accrue time
  return { f with fees := f.fees + amount }

/-- `allocate_repayment`. -/
def allocateRepayment (time amount : Nat) :
    Except AccountingError (Allocation × FacilityLedger) := do
  raiseIf (amount = 0) .amountNotPositive
  let f ← f.accrue time
  let fees := min amount f.fees
  let remaining := amount - fees
  let interest := min remaining f.unpaidInterest
  let remaining := remaining - interest
  let principal := min remaining f.principal
  let remaining := remaining - principal
  return ({ fees := fees, interest := interest, principal := principal, excess := remaining },
    { f with
      fees := f.fees - fees
      interestAccum := f.interestAccum - interest * denom
      principal := f.principal - principal })

/-- `accrue` and then `accrual_frozen = True`. -/
def freeze (time : Nat) : Except AccountingError FacilityLedger := do
  let f ← f.accrue time
  return { f with accrualFrozen := true }

end FacilityLedger

/-- `VaultLedger`. `ids` are the keys of `facilities`. -/
structure VaultLedger where
  virtualShares : Int
  virtualAssets : Int
  clock : Nat
  cash : Int
  totalShares : Int
  sharesOf : Address → Int
  ids : List FacilityId
  facilities : FacilityId → FacilityLedger
  impairmentBy : FacilityId → Int
  borrowerReserve : FacilityId → Nat
  borrowerRefundable : FacilityId → Int

namespace VaultLedger

/-- `VaultLedger()`. -/
def new : VaultLedger where
  virtualShares := 1000
  virtualAssets := 1
  clock := 0
  cash := 0
  totalShares := 0
  sharesOf := fun _ => 0
  ids := []
  facilities := fun _ => .new ⟨0, false⟩ 0
  impairmentBy := fun _ => 0
  borrowerReserve := fun _ => 0
  borrowerRefundable := fun _ => 0

variable (v : VaultLedger)

/-- `self.facilities[facility_id]`. -/
def facility (id : FacilityId) : Except AccountingError FacilityLedger :=
  if id ∈ v.ids then .ok (v.facilities id) else .error .keyError

/-- `self.facilities[facility_id] = f`, for a key that is there. -/
def setFacility (id : FacilityId) (f : FacilityLedger) : VaultLedger :=
  { v with facilities := Function.update v.facilities id f }

/-- The facilities of the performing book. -/
def performing : List FacilityId := v.ids.filter fun id => !(v.facilities id).impaired

/-- `performing_principal`. -/
def performingPrincipal : Int := ((v.performing.map fun id => (v.facilities id).principal).sum : Nat)

/-- The generator of `performing_interest`, summed from `total`. -/
def sumInterest : List FacilityId → Nat → Except AccountingError Nat
  | [], total => .ok total
  | id :: rest, total => do
    let interest ← (v.facilities id).unpaidInterestAt v.clock
    sumInterest rest (total + interest)

/-- `performing_interest`. -/
def performingInterest : Except AccountingError Nat := v.sumInterest v.performing 0

/-- `tick`. -/
def tick (time : Nat) : Except AccountingError VaultLedger := do
  raiseIf (time < v.clock) .clockBackwards
  return { v with clock := time }

/-- `impairment`. -/
def impairment : Int := (v.performing.map v.impairmentBy).sum

/-- `nav`. It may be negative. -/
def nav : Except AccountingError Int := do
  let interest ← v.performingInterest
  return v.cash + v.performingPrincipal + interest - v.impairment

/-- `a // b`. -/
def floorDiv (a b : Int) : Except AccountingError Int :=
  if b = 0 then .error .zeroDivision else .ok (a.fdiv b)

/-- `convert_to_shares`. -/
def convertToShares (assets : Int) : Except AccountingError Int := do
  let nav ← v.nav
  floorDiv (assets * (v.totalShares + v.virtualShares)) (nav + v.virtualAssets)

/-- `convert_to_assets`. -/
def convertToAssets (shares : Int) : Except AccountingError Int := do
  let nav ← v.nav
  floorDiv (shares * (nav + v.virtualAssets)) (v.totalShares + v.virtualShares)

/-- `deposit`. -/
def deposit (lp : Address) (assets : Int) : Except AccountingError (Int × VaultLedger) := do
  let shares ← v.convertToShares assets
  raiseIf (shares ≤ 0) .depositTooSmall
  return (shares, { v with
    cash := v.cash + assets
    totalShares := v.totalShares + shares
    sharesOf := Function.update v.sharesOf lp (v.sharesOf lp + shares) })

/-- `withdraw`. -/
def withdraw (lp : Address) (shares : Int) : Except AccountingError (Int × VaultLedger) := do
  raiseIf (shares > v.sharesOf lp) .insufficientShares
  let assets ← v.convertToAssets shares
  raiseIf (assets > v.cash) .insufficientCash
  return (assets, { v with
    cash := v.cash - assets
    totalShares := v.totalShares - shares
    sharesOf := Function.update v.sharesOf lp (v.sharesOf lp - shares) })

/-- `donate`. -/
def donate (assets : Int) : VaultLedger := { v with cash := v.cash + assets }

/-- `open_facility`. -/
def openFacility (id : FacilityId) (terms : Terms) (time : Nat) : VaultLedger :=
  { v with
    ids := if id ∈ v.ids then v.ids else v.ids ++ [id]
    facilities := Function.update v.facilities id (.new terms time) }

/-- `draw`. -/
def draw (id : FacilityId) (time amount : Nat) : Except AccountingError VaultLedger := do
  let f ← v.facility id
  raiseIf ((amount : Int) > v.cash) .insufficientCash
  let v ← v.tick time
  let f ← f.borrow time amount
  let v := v.setFacility id f
  return { v with cash := v.cash - amount }

/-- What `repay_for` and `recover` do with an allocation: the excess is the borrower's. -/
def owe (id : FacilityId) (excess : Nat) : VaultLedger :=
  if excess ≠ 0 then
    { v with
      cash := v.cash - excess
      borrowerRefundable :=
        Function.update v.borrowerRefundable id (v.borrowerRefundable id + excess) }
  else v

/-- `repay_for`. A third party brings the cash with the call. -/
def repayFor (id : FacilityId) (time amount : Nat) (thirdParty : Bool) :
    Except AccountingError (Allocation × VaultLedger) := do
  let f ← v.facility id
  let v ← v.tick time
  let v := if thirdParty = true then { v with cash := v.cash + amount } else v
  let (alloc, f) ← f.allocateRepayment time amount
  return (alloc, (v.setFacility id f).owe id alloc.excess)

/-- `impair`. The exposure is the recorded one. -/
def impair (id : FacilityId) (amount : Int) : Except AccountingError VaultLedger := do
  let f ← v.facility id
  let already := v.impairmentBy id
  raiseIf (amount > f.principal + f.unpaidInterest - already) .impairmentExceedsExposure
  return { v with impairmentBy := Function.update v.impairmentBy id (already + amount) }

/-- `write_off`. The reserve of the borrower is applied first. -/
def writeOff (id : FacilityId) (time : Nat) : Except AccountingError VaultLedger := do
  let f ← v.facility id
  let v ← v.tick time
  let f ← f.accrue time
  let used := min (v.borrowerReserve id) f.legalDebt
  let (v, f) ←
    if used ≠ 0 then do
      let (_, f) ← f.allocateRepayment time used
      pure ({ v with
        borrowerReserve := Function.update v.borrowerReserve id (v.borrowerReserve id - used)
        cash := v.cash + used }, f)
    else
      pure (v, f)
  let v := v.setFacility id { f with
    impaired := true
    accrualFrozen := true
    writtenOffPrincipal := f.writtenOffPrincipal + f.principal
    writtenOffInterest := f.writtenOffInterest + f.unpaidInterest }
  return { v with impairmentBy := Function.update v.impairmentBy id 0 }

/-- `recover`. -/
def recover (id : FacilityId) (time amount : Nat) :
    Except AccountingError (Allocation × VaultLedger) := do
  let f ← v.facility id
  let v ← v.tick time
  let v := { v with cash := v.cash + amount }
  let (alloc, f) ← f.allocateRepayment time amount
  return (alloc, (v.setFacility id f).owe id alloc.excess)

end VaultLedger

end Rackline.Reference
