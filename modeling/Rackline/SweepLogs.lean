import Rackline.Lib.Seniority
import Rackline.RevenueEscrow

/-!
# `Rackline.SweepLogs`: the tranches and the events of a sweep

`Custody.tranches` are the four amounts that `_distribute` returns and `PayoutSwept` carries, and
`Custody.sweptLogs` the `SweptToSettlement` events of a call, both from the state before it.

In a claim the target runs in the name of the account. `ClaimingStep` lets it call the escrow of the
account as well, which `CustodyStep` leaves out. `ClaimsSpare` is the claim whose target takes no
token of the account: not itself, and not through a spender that it approved.
-/

set_option autoImplicit false

namespace Rackline

open Evm Transition

/-- `PayoutSwept`, without its payout and version: the four tranches of a payout. -/
structure Tranches where
  operating : Nat
  reserve : Nat
  debt : Nat
  residual : Nat

/-- The event `SweptToSettlement`. -/
structure SweptToSettlement where
  facilityId : FacilityId
  /-- `settlementIdOf`: the agreement, the version, the payout and the facility. -/
  settlementId : Bytes32 × Nat × Nat × FacilityId
  payoutSeq : Nat
  amount : Nat

/-- An allocation as a claim on what a sweep has for the debt. -/
def FacilityAllocation.toClaim (f : FacilityAllocation) : Seniority.Claim FacilityId :=
  ⟨f.facilityId, f.target⟩

namespace Waterfall

/-- The operating allowance of a payout: floored, and capped per sweep. -/
def operatingPart (w : Waterfall) (amount : Nat) : Nat :=
  let share := amount * w.operatingBps / 10000
  if share > w.operatingCapPerSweep then w.operatingCapPerSweep else share

/-- What the reserve takes of `remaining` when it holds `held`. -/
def reservePart (w : Waterfall) (held remaining : Nat) : Nat :=
  if held < w.reserveTarget then
    let room := w.reserveTarget - held
    if room > remaining then remaining else room
  else 0

end Waterfall

namespace Custody

/-- What a payout leaves for the debt. -/
def debtPart (w : Waterfall) (amount : Nat) (c : Custody) : Nat :=
  let remaining := amount - w.operatingPart amount
  remaining - w.reservePart (c.revenue.reserveBalance w.token) remaining

/-- The payments to the facilities out of a payout. -/
def debtPays (w : Waterfall) (amount : Nat) (c : Custody) : List (FacilityId × Nat) :=
  Seniority.pays (w.facilities.map (·.toClaim)) (c.debtPart w amount) c.revenue.sweptToFacility

/-- The tranches of a payout. -/
def tranches (w : Waterfall) (amount : Nat) (c : Custody) : Tranches where
  operating := w.operatingPart amount
  reserve := w.reservePart (c.revenue.reserveBalance w.token) (amount - w.operatingPart amount)
  debt := Seniority.total (c.debtPays w amount)
  residual := c.debtPart w amount - Seniority.total (c.debtPays w amount)

/-- The `SweptToSettlement` events of a call. -/
def sweptLogs (env : RevenueEnv) (c : Custody) : CustodyCall → List SweptToSettlement
  | .sweep payoutSeq =>
    match c.currentWaterfall env with
    | .error _ => []
    | .ok w => (c.debtPays w (c.chain.escrow.payouts payoutSeq).amount).map fun p =>
        { facilityId := p.1
          settlementId := (c.revenue.agreementId, c.currentVersion env, payoutSeq, p.1)
          payoutSeq := payoutSeq
          amount := p.2 }
  | _ => []

/-- The sum of the amounts of a facility in a list of events. -/
def loggedFor (f : FacilityId) (logs : List SweptToSettlement) : Nat :=
  (logs.map fun e => if e.facilityId = f then e.amount else 0).sum

/-! ### Runs with claims of any target -/

/-- The call of the source escrow that the target of a claim makes in the name of the account. -/
def TargetCalls (c : Custody) (sender : Address) (call : CustodyCall) : Prop :=
  c.revenue.lock.isSome = true ∧ sender = c.revenue.self ∧ ∃ r, call = .outside (.escrow r)

/-- One successful transaction, or one call that the target of a claim makes. -/
def ClaimingStep (c : Custody) (tx : CustodyTx) (c' : Custody) : Prop :=
  (c.MayCall tx.1.msg.sender tx.2 ∨ c.TargetCalls tx.1.msg.sender tx.2) ∧
    c.call tx.1 tx.2 = .ok c'

/-- Run a call, if it may be made and returns. -/
def next (c : Custody) (tx : CustodyTx) : Option Custody := (c.call tx.1 tx.2).toOption

/-- Nobody but the source escrow may spend tokens of the account. -/
def Guarded (c : Custody) : Prop :=
  ∀ token spender, spender ≠ c.chain.escrow.self →
    (c.chain.tokens token).allowance c.revenue.self spender = 0

/-- No token leaves the account by a call in its name, nor, once such a call has approved a spender,
by a call of others. -/
def ClaimsSpare (c : Custody) (tx : CustodyTx) (c' : Custody) : Prop :=
  ∀ call, tx.2 = .outside call → (tx.1.msg.sender = c.revenue.self ∨ ¬c.Guarded) →
    ∀ token, c.held token ≤ c'.held token

end Custody

end Rackline
