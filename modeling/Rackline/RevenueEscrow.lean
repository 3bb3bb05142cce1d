import Rackline.ControlRegistry
import Rackline.SourceChain

/-!
# `Rackline.RevenueEscrow`: the controlled account

`RevenueEscrow.sol` owns a `SourceEscrow`. It sweeps its payouts through the waterfall of the current
agreement version, refunds unattributed deposits, forwards what upstream claims brought in, and gives
everything back on `release`.

`SourceEscrow.withdraw` takes from the unattributed bucket first. `_unattributedShadow` counts what
sweeps took from it that way, so that the deposits stay refundable.

The call that `claim` makes to its target runs code that is not here. `claim` is therefore two steps,
with the token and the balance before the call kept in `lock` in between: whatever others do
meanwhile are steps of their own, and the entry points that share the lock revert. The target is not
the source escrow. What `CONTROL` answers comes with each call. Events are left out, and the text of
`setRefundPending` with them.
-/

set_option autoImplicit false

namespace Rackline

open Evm Transition

/-- `IRevenueEscrow.FacilityAllocation`. -/
structure FacilityAllocation where
  facilityId : FacilityId
  target : Nat

/-- `IRevenueEscrow.ClaimTarget`. -/
structure ClaimTarget where
  target : Address
  selector : Nat
  recipientArgIndex : Nat

/-- `IRevenueEscrow.Waterfall`. -/
structure Waterfall where
  version : Nat
  token : Address
  operatingBps : Nat
  operatingCapPerSweep : Nat
  operatingRecipient : Address
  reserveTarget : Nat
  settlementLeg : Address
  residualRecipient : Address
  facilities : List FacilityAllocation
  claimTargets : List ClaimTarget

/-- The reverts of `RevenueEscrow`, and those of the contracts that it calls. -/
inductive RevenueRevert
  | panic
  | notRole (role : Role) (caller : Address)
  | noWaterfall (version : Nat)
  | waterfallExists (version : Nat)
  | waterfallVersionMismatch (registryVersion given : Nat)
  | invalidWaterfall (reason : String)
  | payoutNotSweepable (payoutSeq : Nat) (reason : String)
  | alreadySwept (payoutSeq : Nat)
  | claimNotAllowed (target : Address) (selector : Nat)
  | claimRecipientMismatch (expected actual : Address)
  | alreadyReleased
  | reentrancy
  | transferFailed
  | measuredDeltaMismatch (expected measured : Nat)
  | releaseBlocked (reason : String)
  | control (reason : ControlRevert)
  | source (reason : SourceRevert)

instance : Panics RevenueRevert := ⟨.panic⟩

/-- The storage of `RevenueEscrow`, with `self` for `address(this)`. -/
structure RevenueEscrow where
  self : Address
  agreementId : Bytes32
  accountKey : AccountKey
  /-- `_waterfalls[version]`; `none` is not set. -/
  waterfalls : Nat → Option Waterfall
  isSwept : Nat → Bool
  sweptToFacility : FacilityId → Nat
  reserveBalance : Address → Nat
  claimedBalance : Address → Nat
  unattributedShadow : Address → Nat
  sweepCount : Nat
  released : Bool
  refundPending : Bool
  /-- Inside `claim`: its token, and the balance before the call of the target. -/
  lock : Option (Address × Nat)

/-- The account after deployment. -/
def RevenueEscrow.initial (self : Address) (agreementId : Bytes32) (accountKey : AccountKey) :
    RevenueEscrow where
  self := self
  agreementId := agreementId
  accountKey := accountKey
  waterfalls := fun _ => none
  isSwept := fun _ => false
  sweptToFacility := fun _ => 0
  reserveBalance := fun _ => 0
  claimedBalance := fun _ => 0
  unattributedShadow := fun _ => 0
  sweepCount := 0
  released := false
  refundPending := false
  lock := none

/-- The account and the chain of the escrow that it owns. `deposited` and `refunded` are history
variables: what was recorded as unattributed, and what `refundUnattributed` paid. -/
structure Custody where
  revenue : RevenueEscrow
  chain : SourceChain
  deposited : Address → Nat
  refunded : Address → Nat

/-- The context of a call, with what `CONTROL` holds and its `_OBSERVATION_MAX_AGE`. -/
structure RevenueEnv where
  msg : Msg
  control : ControlRegistry
  observationMaxAge : Nat

/-- The number that bytes spell, most significant first. -/
def ofBytes (bytes : List UInt8) : Nat := bytes.foldl (fun n b => n * 256 + b.toNat) 0

namespace Custody

variable (env : RevenueEnv)

/-! ### Guards and calls -/

/-- The modifier `onlyRole`. -/
def onlyRole (role : Role) : Except RevenueRevert Unit :=
  revertIf (env.msg.hasRole role env.msg.sender = false) (.notRole role env.msg.sender)

/-- The modifier `nonReentrant`. -/
def nonReentrant (c : Custody) : Except RevenueRevert Unit :=
  revertIf (c.revenue.lock.isSome = true) .reentrancy

/-- The modifier `notReleased`. -/
def notReleased (c : Custody) : Except RevenueRevert Unit :=
  revertIf (c.revenue.released = true) .alreadyReleased

/-- `currentVersion`. -/
def currentVersion (c : Custody) : Nat :=
  (env.control.agreements c.revenue.agreementId).version

/-- The waterfall of the current version. -/
def currentWaterfall (c : Custody) : Except RevenueRevert Waterfall :=
  match c.revenue.waterfalls (c.currentVersion env) with
  | none => .error (.noWaterfall (c.currentVersion env))
  | some w => .ok w

/-- `balanceOf(address(this))`. -/
def held (token : Address) (c : Custody) : Nat :=
  (c.chain.tokens token).balanceOf c.revenue.self

/-- A call of `SOURCE` by this account. -/
def source (r : SourceRequest) (c : Custody) : Except RevenueRevert Custody :=
  match c.chain.request ⟨c.revenue.self, env.msg.now⟩ r with
  | .error e => .error (.source e)
  | .ok chain => .ok { c with chain := chain }

/-- `_push`. -/
def push (token dst : Address) (amount : Nat) (c : Custody) : Except RevenueRevert Custody :=
  match (c.chain.tokens token).transfer c.revenue.self dst amount with
  | none => .error .transferFailed
  | some t => .ok { c with chain := c.chain.setToken token t }

/-- `refundableUnattributed`. -/
def refundableUnattributed (token : Address) (c : Custody) : Except RevenueRevert Nat :=
  addW 256 (c.chain.escrow.unattributed token) (c.revenue.unattributedShadow token)

/-! ### Waterfall -/

/-- `setWaterfall`. -/
def setWaterfall (w : Waterfall) (c : Custody) : Except RevenueRevert Custody := do
  onlyRole env .underwriter
  c.notReleased
  let v := c.currentVersion env
  revertIf (w.version ≠ v) (.waterfallVersionMismatch v w.version)
  revertIf ((c.revenue.waterfalls v).isSome = true) (.waterfallExists v)
  revertIf (w.token = 0 ∨ w.settlementLeg = 0 ∨ w.residualRecipient = 0)
    (.invalidWaterfall "zero address")
  revertIf (w.operatingBps > 10000) (.invalidWaterfall "operatingBps")
  revertIf (w.operatingBps ≠ 0 ∧ w.operatingRecipient = 0) (.invalidWaterfall "operating recipient")
  revertIf (w.settlementLeg = c.revenue.self ∨ w.residualRecipient = c.revenue.self)
    (.invalidWaterfall "self recipient")
  revertIf (¬(w.facilities.map (·.facilityId)).Nodup) (.invalidWaterfall "duplicate facility")
  revertIf (w.claimTargets.any (fun t => t.target = 0 ∨ t.target = w.token) = true)
    (.invalidWaterfall "claim target")
  return { c with revenue := { c.revenue with
    waterfalls := Function.update c.revenue.waterfalls v (some w) } }

/-! ### Sweep -/

/-- `_pullFromSource`, which returns what was measured. -/
def pullFromSource (token : Address) (amount : Nat) (c : Custody) :
    Except RevenueRevert (Nat × Custody) := do
  let unattrBefore := c.chain.escrow.unattributed token
  let before := c.held token
  let c ← c.source env (.withdraw token c.revenue.self amount)
  let measured ← subW (c.held token) before
  revertIf (measured ≠ amount) (.measuredDeltaMismatch amount measured)
  let consumed ← subW unattrBefore (c.chain.escrow.unattributed token)
  let shadow ← (if consumed > 0 then addW 256 (c.revenue.unattributedShadow token) consumed
    else .ok (c.revenue.unattributedShadow token))
  return (measured, { c with revenue := { c.revenue with
    unattributedShadow := Function.update c.revenue.unattributedShadow token shadow } })

/-- The operating allowance of `_distribute`, and what remains. -/
def payOperating (w : Waterfall) (amount : Nat) (c : Custody) :
    Except RevenueRevert (Nat × Custody) := do
  let product ← mulW 256 amount w.operatingBps
  let share := product / 10000
  let operating := if share > w.operatingCapPerSweep then w.operatingCapPerSweep else share
  if operating > 0 then do
    let remaining ← subW amount operating
    let c ← c.push w.token w.operatingRecipient operating
    return (remaining, c)
  else return (amount, c)

/-- The reserve of `_distribute`, up to its target, and what remains. -/
def fillReserve (w : Waterfall) (remaining : Nat) (c : Custody) : Nat × Custody :=
  let held := c.revenue.reserveBalance w.token
  if held < w.reserveTarget then
    let room := w.reserveTarget - held
    let reserve := if room > remaining then remaining else room
    (remaining - reserve, { c with revenue := { c.revenue with
      reserveBalance := Function.update c.revenue.reserveBalance w.token (held + reserve) } })
  else (remaining, c)

/-- `_sweepDebt`, by seniority, and what remains. -/
def sweepDebt (token settlementLeg : Address) :
    List FacilityAllocation → Nat → Custody → Except RevenueRevert (Nat × Custody)
  | [], remaining, c => .ok (remaining, c)
  | f :: rest, remaining, c =>
    let already := c.revenue.sweptToFacility f.facilityId
    if remaining = 0 then .ok (remaining, c)
    else if already ≥ f.target then sweepDebt token settlementLeg rest remaining c
    else do
      let room := f.target - already
      let take := if room > remaining then remaining else room
      let c := { c with revenue := { c.revenue with
        sweptToFacility := Function.update c.revenue.sweptToFacility f.facilityId (already + take) } }
      let c ← c.push token settlementLeg take
      sweepDebt token settlementLeg rest (remaining - take) c

/-- `_distribute`. -/
def distribute (w : Waterfall) (amount : Nat) (c : Custody) : Except RevenueRevert Custody := do
  let (remaining, c) ← c.payOperating w amount
  let (remaining, c) := c.fillReserve w remaining
  let (residual, c) ← sweepDebt w.token w.settlementLeg w.facilities remaining c
  if residual > 0 then c.push w.token w.residualRecipient residual else return c

/-- `CONTROL.requireUsable` for grade E2 and the version `v`. -/
def requireUsable (v : Nat) (c : Custody) : Except RevenueRevert Unit :=
  match env.control.requireUsable c.revenue.agreementId env.observationMaxAge env.msg.now v .e2 with
  | .error e => .error (.control e)
  | .ok _ => .ok ()

/-- `sweep`. -/
def sweep (payoutSeq : Nat) (c : Custody) : Except RevenueRevert Custody := do
  onlyRole env .servicer
  c.notReleased
  c.nonReentrant
  revertIf (c.revenue.isSwept payoutSeq = true) (.alreadySwept payoutSeq)
  let p := c.chain.escrow.payouts payoutSeq
  revertIf (p.payer = 0) (.payoutNotSweepable payoutSeq "unknown")
  revertIf (p.cancelled = true) (.payoutNotSweepable payoutSeq "cancelled")
  revertIf (p.accountKey ≠ c.revenue.accountKey) (.payoutNotSweepable payoutSeq "other account")
  let v := c.currentVersion env
  let w ← c.currentWaterfall env
  revertIf (p.token ≠ w.token) (.payoutNotSweepable payoutSeq "token")
  c.requireUsable env v
  let c := { c with revenue := { c.revenue with
    isSwept := Function.update c.revenue.isSwept payoutSeq true } }
  let (amount, c) ← c.pullFromSource env w.token p.amount
  let c ← c.distribute w amount
  let sweepCount ← addW 64 c.revenue.sweepCount 1
  return { c with revenue := { c.revenue with sweepCount := sweepCount } }

/-! ### Upstream claims -/

/-- `_checkClaim`, which returns the token. -/
def checkClaim (target : Address) (data : List UInt8) (c : Custody) :
    Except RevenueRevert Address := do
  let w ← c.currentWaterfall env
  revertIf (data.length < 4) (.claimNotAllowed target 0)
  let sel := ofBytes (data.take 4)
  match w.claimTargets.find? (fun t => t.target = target ∧ t.selector = sel) with
  | none => .error (.claimNotAllowed target sel)
  | some t =>
    let off := 4 + 32 * t.recipientArgIndex
    revertIf (data.length < off + 32) (.claimRecipientMismatch c.revenue.self 0)
    let recipient : Address := Fin.ofNat (2 ^ 160) (ofBytes ((data.drop off).take 32))
    revertIf (recipient ≠ c.revenue.self) (.claimRecipientMismatch c.revenue.self recipient)
    return w.token

/-- `claim`, up to the call of the target. -/
def claim (target : Address) (data : List UInt8) (c : Custody) : Except RevenueRevert Custody := do
  onlyRole env .servicer
  c.notReleased
  c.nonReentrant
  let token ← c.checkClaim env target data
  return { c with revenue := { c.revenue with lock := some (token, c.held token) } }

/-- `claim`, from the return of the target. -/
def claimReturns (c : Custody) : Except RevenueRevert Custody :=
  match c.revenue.lock with
  | none => .error .reentrancy
  | some (token, before) => do
    let measured := c.held token - before
    let claimed ← addW 256 (c.revenue.claimedBalance token) measured
    return { c with revenue := { c.revenue with
      claimedBalance := Function.update c.revenue.claimedBalance token claimed
      lock := none } }

/-- `forwardClaimed`. -/
def forwardClaimed (obligationRef : Bytes32) (amount : Nat) (settlementId : Bytes32) (c : Custody) :
    Except RevenueRevert Custody := do
  onlyRole env .servicer
  c.notReleased
  c.nonReentrant
  let w ← c.currentWaterfall env
  revertIf (amount = 0 ∨ amount > c.revenue.claimedBalance w.token)
    (.invalidWaterfall "claimed amount")
  let claimed := c.revenue.claimedBalance w.token - amount
  let t := (c.chain.tokens w.token).approve c.revenue.self c.chain.escrow.self amount
  let c := { c with
    revenue := { c.revenue with
      claimedBalance := Function.update c.revenue.claimedBalance w.token claimed }
    chain := c.chain.setToken w.token t }
  c.source env (.settle c.revenue.accountKey obligationRef w.token amount settlementId)

/-! ### Refunds -/

/-- `refundUnattributed`. -/
def refundUnattributed (token dst : Address) (amount : Nat) (c : Custody) :
    Except RevenueRevert Custody := do
  onlyRole env .treasury
  c.nonReentrant
  let refundable ← c.refundableUnattributed token
  revertIf (amount = 0 ∨ amount > refundable) (.invalidWaterfall "unattributed amount")
  let shadow := c.revenue.unattributedShadow token
  let fromShadow := if amount ≤ shadow then amount else shadow
  let c := { c with revenue := { c.revenue with
    unattributedShadow :=
      Function.update c.revenue.unattributedShadow token (shadow - fromShadow) } }
  let before := c.chain.escrow.unattributed token
  let c ← c.source env (.withdraw token dst amount)
  let consumed ← subW before (c.chain.escrow.unattributed token)
  let cut ← addW 256 consumed fromShadow
  -- What neither the bucket nor the shadow gave goes back on the shadow.
  let shadow ← (if cut < amount
    then addW 256 (c.revenue.unattributedShadow token) (amount - consumed - fromShadow)
    else .ok (c.revenue.unattributedShadow token))
  return { c with
    revenue := { c.revenue with
      unattributedShadow := Function.update c.revenue.unattributedShadow token shadow }
    refunded := Function.update c.refunded token (c.refunded token + amount) }

/-- `setRefundPending`. -/
def setRefundPending (pending : Bool) (c : Custody) : Except RevenueRevert Custody := do
  onlyRole env .servicer
  c.notReleased
  return { c with revenue := { c.revenue with refundPending := pending } }

/-! ### Release -/

/-- A payout of the account that is neither cancelled nor swept. -/
def isUnswept (c : Custody) (token : Address) (seq : Nat) : Bool :=
  let p := c.chain.escrow.payouts seq
  !c.revenue.isSwept seq && p.accountKey = c.revenue.accountKey && !p.cancelled && p.token = token

/-- `_hasUnsweptPayout`: the loop over the settlements from 1 on. -/
def hasUnsweptPayout (token : Address) (c : Custody) : Bool :=
  (List.range c.chain.escrow.settlementSeq).any fun i => c.isUnswept token (i + 1)

/-- `release`. -/
def release (token returnTo : Address) (c : Custody) : Except RevenueRevert Custody := do
  onlyRole env .treasury
  c.notReleased
  c.nonReentrant
  revertIf ((env.control.status c.revenue.agreementId).released = false)
    (.releaseBlocked "control registry has not released the agreement")
  revertIf (c.revenue.refundPending = true) (.releaseBlocked "refund pending")
  revertIf (c.hasUnsweptPayout token = true) (.releaseBlocked "unswept classified payout")
  revertIf (returnTo = 0 ∨ returnTo ≠ c.chain.escrow.borrowerWallet c.revenue.accountKey)
    (.releaseBlocked "return address is not the borrower wallet")
  let total ← addW 256 (c.revenue.reserveBalance token) (c.revenue.claimedBalance token)
  let c := { c with revenue := { c.revenue with
    released := true
    reserveBalance := Function.update c.revenue.reserveBalance token 0
    claimedBalance := Function.update c.revenue.claimedBalance token 0 } }
  let c ← (if total > 0 then c.push token returnTo total else .ok c)
  c.source env (.tokenless ⟨.transferOwnership returnTo, rfl⟩)

end Custody

/-! ### Runs -/

/-- What a call records as unattributed, of a token. -/
def SourceChain.recorded (m : SourceMsg) (w : SourceChain) (token : Address) : ChainCall → Nat
  | .escrow (.depositUnattributed token' amount) =>
    if token' = token then ((w.pull token m.sender amount).map (·.1)).getD 0 else 0
  | .escrow (.recordDirectDeposit token') =>
    if token' = token then w.held token - w.escrow.tracked token else 0
  | _ => 0

/-- The external calls of `RevenueEscrow`, and what others do on the chain. -/
inductive CustodyCall
  | setWaterfall (w : Waterfall)
  | sweep (payoutSeq : Nat)
  | claim (target : Address) (data : List UInt8)
  | claimReturns
  | forwardClaimed (obligationRef : Bytes32) (amount : Nat) (settlementId : Bytes32)
  | refundUnattributed (token dst : Address) (amount : Nat)
  | setRefundPending (pending : Bool)
  | release (token returnTo : Address)
  | outside (call : ChainCall)

/-- Run a call. -/
def Custody.call (env : RevenueEnv) (c : Custody) : CustodyCall → Except RevenueRevert Custody
  | .setWaterfall w => c.setWaterfall env w
  | .sweep payoutSeq => c.sweep env payoutSeq
  | .claim target data => c.claim env target data
  | .claimReturns => c.claimReturns
  | .forwardClaimed obligationRef amount settlementId =>
    c.forwardClaimed env obligationRef amount settlementId
  | .refundUnattributed token dst amount => c.refundUnattributed env token dst amount
  | .setRefundPending pending => c.setRefundPending env pending
  | .release token returnTo => c.release env token returnTo
  | .outside call =>
    match c.chain.call ⟨env.msg.sender, env.msg.now⟩ call with
    | .error e => .error (.source e)
    | .ok chain => .ok { c with
        chain := chain
        deposited := fun token =>
          c.deposited token + c.chain.recorded ⟨env.msg.sender, env.msg.now⟩ token call }

/-- A call and its context. -/
abbrev CustodyTx := RevenueEnv × CustodyCall

/-- Who makes a call from outside: not the escrow, and not the account, unless it is the call of a
token that a claim in progress makes. -/
def Custody.MayCall (c : Custody) (sender : Address) : CustodyCall → Prop
  | .outside (.escrow _) => sender ≠ c.revenue.self ∧ sender ≠ c.chain.escrow.self
  | .outside (.token _ _) =>
    (sender ≠ c.revenue.self ∨ c.revenue.lock.isSome = true) ∧ sender ≠ c.chain.escrow.self
  | _ => True

/-- One successful transaction. -/
def CustodyStep (c : Custody) (tx : CustodyTx) (c' : Custody) : Prop :=
  c.MayCall tx.1.msg.sender tx.2 ∧ c.call tx.1 tx.2 = .ok c'

/-- The account, just deployed, as the owner of an escrow that is in use. The unattributed deposits
that the escrow has at that time count as deposited. -/
def Custody.Initial (c : Custody) : Prop :=
  Reachable SourceChain.Initial ChainStep c.chain ∧ c.chain.escrow.owner = c.revenue.self ∧
    c.revenue = .initial c.revenue.self c.revenue.agreementId c.revenue.accountKey ∧
    c.deposited = c.chain.escrow.unattributed ∧ c.refunded = fun _ => 0

instance (c : Custody) (sender : Address) : (call : CustodyCall) → Decidable (c.MayCall sender call)
  | .outside (.escrow _) => inferInstanceAs (Decidable (_ ∧ _))
  | .outside (.token _ _) => inferInstanceAs (Decidable (_ ∧ _))
  | .setWaterfall _ | .sweep _ | .claim _ _ | .claimReturns | .forwardClaimed _ _ _
  | .refundUnattributed _ _ _ | .setRefundPending _ | .release _ _ => .isTrue trivial

/-- Run a list of transactions, if all of them can be made and return. -/
def Custody.run (c : Custody) : List CustodyTx → Option Custody
  | [] => some c
  | tx :: rest =>
    if c.MayCall tx.1.msg.sender tx.2 then
      match c.call tx.1 tx.2 with
      | .error _ => none
      | .ok c' => run c' rest
    else none

theorem Custody.run_steps : ∀ {txs : List CustodyTx} {c c' : Custody}, c.run txs = some c' →
    Steps CustodyStep c txs c' := by
  intro txs
  induction txs with
  | nil =>
    intro c c' h
    cases h
    exact .nil c
  | cons tx rest ih =>
    intro c c' h
    unfold run at h
    split at h
    · rename_i hmay
      split at h
      · cases h
      · rename_i c₁ hcall
        exact .cons ⟨hmay, hcall⟩ (ih h)
    · cases h

end Rackline
