import Rackline.Types
import Rackline.BtcSpvVerifier
import Rackline.Lib.Transition

/-!
# `Rackline.HashCreditManager`: the manager of the mining credit

`HashCreditManager.sol` and the heuristics of `RiskConfig.sol`. What the other contracts answer
during a call is its `Env`: the verifier, the risk parameters, the pool registry, the rate of the
vault, and whether the token and the vault let the money through. `block.timestamp` is a `uint64`,
so that the casts `uint64(block.timestamp)` are the identity.

The widths are those of the source. A payout is keyed by its transaction and output, where the
source keys it by their hash. The calls return no events, and the lock of `nonReentrant` is left
out, since no call of the model enters another one.
-/

set_option autoImplicit false

namespace Rackline

open Evm BitcoinLib Transition

/-! ### The risk parameters -/

/-- `IRiskConfig.RiskParams`, less `confirmationsRequired`. -/
structure RiskParams where
  advanceRateBps : UInt32
  windowSeconds : UInt32
  newBorrowerCap : BitVec 128
  globalCap : BitVec 128
  minPayoutSats : UInt64
  btcPriceUsd : UInt64
  minPayoutCountForFullCredit : UInt32
  largePayoutThresholdSats : UInt64
  largePayoutDiscountBps : UInt32
  newBorrowerPeriodSeconds : UInt32

/-- `RiskConfig.applyPayoutHeuristics`. -/
def RiskParams.applyPayoutHeuristics (params : RiskParams) (amountSats : UInt64)
    (payoutCount : UInt32) : UInt64 :=
  let effectiveAmount :=
    if params.largePayoutThresholdSats > 0 ∧ amountSats > params.largePayoutThresholdSats then
      UInt64.ofNat (amountSats.toNat * params.largePayoutDiscountBps.toNat / 10000)
    else amountSats
  if params.minPayoutCountForFullCredit > 0 ∧ payoutCount < params.minPayoutCountForFullCredit ∧
      effectiveAmount > params.minPayoutSats then params.minPayoutSats
  else effectiveAmount

namespace HashCreditManager

/-- `SATS_PER_BTC`. -/
def SATS_PER_BTC : Nat := 100000000

/-- `BPS`. -/
def BPS : Nat := 10000

/-- `MAX_PAYOUT_RECORDS`. -/
def MAX_PAYOUT_RECORDS : Nat := 100

/-- `SECONDS_PER_YEAR`: 365 days. -/
def SECONDS_PER_YEAR : Nat := 31536000

/-- `IHashCreditManager.BorrowerStatus`. -/
inductive BorrowerStatus
  | none | active | frozen | closed
deriving DecidableEq, Repr

/-- `IHashCreditManager.BorrowerInfo`. -/
structure BorrowerInfo where
  status : BorrowerStatus
  btcPayoutKeyHash : Bytes32
  totalRevenueSats : BitVec 128
  trailingRevenueSats : BitVec 128
  creditLimit : BitVec 128
  currentDebt : BitVec 128
  lastPayoutTimestamp : UInt64
  registeredAt : UInt64
  payoutCount : UInt32
  lastDebtUpdateTimestamp : UInt64
deriving DecidableEq

/-- An entry of the mapping that nothing wrote. -/
def BorrowerInfo.empty : BorrowerInfo := ⟨.none, 0, 0, 0, 0, 0, 0, 0, 0, 0⟩

/-- `IHashCreditManager.PayoutRecord`. -/
structure PayoutRecord where
  timestamp : UInt64
  effectiveAmountSats : UInt64
deriving DecidableEq

/-- The errors of the manager. -/
inductive Err
  | unauthorized | invalidAddress | borrowerAlreadyRegistered | borrowerNotRegistered
  | borrowerNotActive | payoutAlreadyProcessed | zeroAmount | ineligiblePayoutSource
  | exceedsCreditLimit
  /-- `Pausable.EnforcedPause`. -/
  | enforcedPause
  /-- `Pausable.ExpectedPause`. -/
  | expectedPause
  /-- A call of another contract that reverted. -/
  | other
  | panic
deriving DecidableEq

instance : Panics Err := ⟨.panic⟩

/-- The storage of the manager. -/
structure State where
  owner : Address
  verifier : Address
  vault : Address
  riskConfig : Address
  poolRegistry : Address
  stablecoin : Address
  borrowers : Address → BorrowerInfo
  processedPayouts : BytesN 32 × UInt32 → Bool
  payoutHistory : Address → List PayoutRecord
  totalGlobalDebt : Nat
  autoGrantCreditAmount : BitVec 128
  paused : Bool

/-- The context of a call, and the answers that the other contracts give during it. -/
structure Env where
  sender : Address
  now : UInt64
  /-- `verifier.verifyPayout(proof)`, which reverts with `none`. -/
  verifyPayout : List UInt8 → Option (BtcSpvVerifier.PayoutEvidence Address)
  /-- `riskConfig.getRiskParams()`. -/
  params : RiskParams
  /-- `poolRegistry.isEligiblePayoutSource(txid)`. -/
  isEligiblePayoutSource : BytesN 32 → Bool
  /-- `vault.borrowAPR()`. -/
  borrowAPR : Nat
  /-- Whether `vault.borrowFunds(borrower, amount)` returns. -/
  borrowFunds : Address → Nat → Bool
  /-- Whether `amount` of the token comes in and `vault.repayFunds(borrower, amount)` returns. -/
  repayFunds : Address → Nat → Bool

namespace State

/-- The constructor. -/
def deploy (sender verifier vault riskConfig poolRegistry stablecoin : Address) :
    Except Err State := do
  revertIf (verifier = 0) .invalidAddress
  revertIf (vault = 0) .invalidAddress
  revertIf (riskConfig = 0) .invalidAddress
  revertIf (stablecoin = 0) .invalidAddress
  return {
    owner := sender, verifier, vault, riskConfig, poolRegistry, stablecoin
    borrowers := fun _ => .empty
    processedPayouts := fun _ => false
    payoutHistory := fun _ => []
    totalGlobalDebt := 0
    autoGrantCreditAmount := 0
    paused := false }

variable (s : State) (e : Env)

/-- `_borrowers[borrower] = info`. -/
def setBorrower (borrower : Address) (info : BorrowerInfo) : State :=
  { s with borrowers := Function.update s.borrowers borrower info }

/-- The modifier `onlyOwner`. -/
def onlyOwner : Except Err Unit := revertIf (e.sender ≠ s.owner) .unauthorized

/-- The modifier `whenNotPaused`. -/
def whenNotPaused : Except Err Unit := revertIf (s.paused = true) .enforcedPause

/-! ### The calls of the owner -/

/-- `setVerifier`. -/
def setVerifier (newVerifier : Address) : Except Err State := do
  s.onlyOwner e
  revertIf (newVerifier = 0) .invalidAddress
  return { s with verifier := newVerifier }

/-- `setVault`. -/
def setVault (newVault : Address) : Except Err State := do
  s.onlyOwner e
  revertIf (newVault = 0) .invalidAddress
  return { s with vault := newVault }

/-- `setRiskConfig`. -/
def setRiskConfig (newRiskConfig : Address) : Except Err State := do
  s.onlyOwner e
  revertIf (newRiskConfig = 0) .invalidAddress
  return { s with riskConfig := newRiskConfig }

/-- `setPoolRegistry`. -/
def setPoolRegistry (newPoolRegistry : Address) : Except Err State := do
  s.onlyOwner e
  return { s with poolRegistry := newPoolRegistry }

/-- `transferOwnership`. -/
def transferOwnership (newOwner : Address) : Except Err State := do
  s.onlyOwner e
  revertIf (newOwner = 0) .invalidAddress
  return { s with owner := newOwner }

/-- `pause`. -/
def pause : Except Err State := do
  s.onlyOwner e
  s.whenNotPaused
  return { s with paused := true }

/-- `unpause`. -/
def unpause : Except Err State := do
  s.onlyOwner e
  revertIf (s.paused = false) .expectedPause
  return { s with paused := false }

/-- `freezeBorrower`. -/
def freezeBorrower (borrower : Address) : Except Err State := do
  s.onlyOwner e
  let info := s.borrowers borrower
  revertIf (info.status = .none) .borrowerNotRegistered
  return s.setBorrower borrower { info with status := .frozen }

/-- `grantTestnetCredit`. -/
def grantTestnetCredit (borrower : Address) (creditLimitAmount : BitVec 128) :
    Except Err State := do
  s.onlyOwner e
  let info := s.borrowers borrower
  revertIf (info.status = .none) .borrowerNotRegistered
  return s.setBorrower borrower { info with creditLimit := creditLimitAmount }

/-- `setAutoGrantCredit`. -/
def setAutoGrantCredit (amount : BitVec 128) : Except Err State := do
  s.onlyOwner e
  return { s with autoGrantCreditAmount := amount }

/-- `unfreezeBorrower`. -/
def unfreezeBorrower (borrower : Address) : Except Err State := do
  s.onlyOwner e
  let info := s.borrowers borrower
  revertIf (info.status ≠ .frozen) .borrowerNotActive
  return s.setBorrower borrower { info with status := .active }

/-- `registerBorrower`. -/
def registerBorrower (borrower : Address) (btcPayoutKeyHash : Bytes32) : Except Err State := do
  s.onlyOwner e
  revertIf (borrower = 0) .invalidAddress
  revertIf ((s.borrowers borrower).status ≠ .none) .borrowerAlreadyRegistered
  let initialCredit := s.autoGrantCreditAmount
  return s.setBorrower borrower {
    status := .active
    btcPayoutKeyHash
    totalRevenueSats := 0
    trailingRevenueSats := 0
    creditLimit := initialCredit
    currentDebt := 0
    lastPayoutTimestamp := 0
    registeredAt := e.now
    payoutCount := 0
    lastDebtUpdateTimestamp := 0 }

end State

/-! ### Loops over the payout history -/

/-- `history[i]`. -/
def recordAt (history : List PayoutRecord) (i : Nat) : Except Err PayoutRecord :=
  match history[i]? with
  | some record => .ok record
  | none => .error .panic

/-- `history.pop()`, `count` times. -/
def popLoop : Nat → List PayoutRecord → Except Err (List PayoutRecord)
  | 0, history => .ok history
  | count + 1, history => do
    revertIf (history = []) .panic
    popLoop count history.dropLast

/-- `history[i] = history[from + i]`, from the turn `i` on, for the `count` turns that are left. -/
def shiftLoop (from_ : Nat) : Nat → Nat → List PayoutRecord → Except Err (List PayoutRecord)
  | 0, _, history => .ok history
  | count + 1, i, history => do
    let record ← recordAt history (from_ + i)
    shiftLoop from_ count (i + 1) (history.set i record)

/-- `_addPayoutRecord`, up to the push: the oldest record makes room. -/
def removeOldest (history : List PayoutRecord) : Except Err (List PayoutRecord) :=
  if history.length ≥ MAX_PAYOUT_RECORDS then do
    let shifted ← shiftLoop 1 (history.length - 1) 0 history
    popLoop 1 shifted
  else .ok history

/-- `_addPayoutRecord`, on the history of the borrower. -/
def addPayoutRecord (history : List PayoutRecord) (timestamp effectiveAmountSats : UInt64) :
    Except Err (List PayoutRecord) := do
  let history ← removeOldest history
  return history ++ [⟨timestamp, effectiveAmountSats⟩]

/-- The search for the first record that has not expired, over the records from `i` on. It ends with
`firstValid` and `prunedCount`. -/
def findLoop (length : Nat) (cutoffTime : UInt64) :
    List PayoutRecord → Nat → Nat → Nat → Nat × Nat
  | [], _, firstValid, prunedCount => (firstValid, prunedCount)
  | record :: records, i, firstValid, prunedCount =>
    if record.timestamp ≥ cutoffTime then (i, prunedCount)
    else findLoop length cutoffTime records (i + 1)
      (if i = length - 1 then length else firstValid) (prunedCount + 1)

/-- `trailingRevenue += history[i].effectiveAmountSats`, over the records that are left. -/
def sumLoop : List PayoutRecord → Nat → Except Err Nat
  | [], trailingRevenue => .ok trailingRevenue
  | record :: records, trailingRevenue => do
    let trailingRevenue ← addW 128 trailingRevenue record.effectiveAmountSats.toNat
    sumLoop records trailingRevenue

/-- `cutoffTime` of `_pruneAndCalculateTrailingRevenue`. -/
def cutoff (now : UInt64) (windowSeconds : UInt32) : UInt64 :=
  if now.toNat > windowSeconds.toNat then UInt64.ofNat (now.toNat - windowSeconds.toNat) else 0

/-- The valid records move to the front, and the slots that are left at the end go. -/
def removeExpired (history : List PayoutRecord) (firstValid prunedCount : Nat) :
    Except Err (List PayoutRecord) := do
  let newLength ← subW history.length prunedCount
  let shifted ← shiftLoop firstValid newLength 0 history
  popLoop prunedCount shifted

/-- The history and the sum of its amounts. -/
def withSum (history : List PayoutRecord) : Except Err (List PayoutRecord × BitVec 128) := do
  let trailingRevenue ← sumLoop history 0
  return (history, BitVec.ofNat 128 trailingRevenue)

/-- `_pruneAndCalculateTrailingRevenue`, on the history of the borrower: the history that is left and
the trailing revenue. -/
def pruneAndCalculateTrailingRevenue (now : UInt64) (history : List PayoutRecord)
    (windowSeconds : UInt32) : Except Err (List PayoutRecord × BitVec 128) :=
  if history.length = 0 then .ok (history, 0)
  else
    let (firstValid, prunedCount) :=
      findLoop history.length (cutoff now windowSeconds) history 0 0 0
    if prunedCount > 0 ∧ firstValid < history.length then do
      let history ← removeExpired history firstValid prunedCount
      withSum history
    else if prunedCount > 0 ∧ firstValid = history.length then .ok ([], 0)
    else withSum history

/-- `_calculateCreditLimit`. -/
def calculateCreditLimit (params : RiskParams) (trailingRevenueSats : BitVec 128) :
    Except Err (BitVec 128) := do
  let product ← mulW 256 trailingRevenueSats.toNat params.btcPriceUsd.toNat
  let btcValueUsd := product / SATS_PER_BTC
  let product ← mulW 256 btcValueUsd params.advanceRateBps.toNat
  let creditLimitUsd := product / BPS
  let creditLimit := creditLimitUsd / 100
  return if creditLimit > wordSize 128 - 1 then BitVec.ofNat 128 (wordSize 128 - 1)
    else BitVec.ofNat 128 creditLimit

/-- `_calculateAccruedInterest`. -/
def calculateAccruedInterest (e : Env) (info : BorrowerInfo) : Except Err Nat :=
  if info.currentDebt = 0 ∨ info.lastDebtUpdateTimestamp = 0 then .ok 0
  else do
    let timeElapsed ← subW e.now.toNat info.lastDebtUpdateTimestamp.toNat
    if timeElapsed = 0 then .ok 0
    else do
      let product ← mulW 256 info.currentDebt.toNat e.borrowAPR
      let product ← mulW 256 product timeElapsed
      return product / (SECONDS_PER_YEAR * BPS)

namespace State

variable (s : State) (e : Env)

/-! ### The payouts -/

/-- The payout is below `minPayoutSats`: it is processed and not recorded. -/
def BelowMinimum (params : RiskParams) (evidence : BtcSpvVerifier.PayoutEvidence Address) : Prop :=
  params.minPayoutSats > 0 ∧ evidence.amountSats < params.minPayoutSats

instance (params : RiskParams) (evidence : BtcSpvVerifier.PayoutEvidence Address) :
    Decidable (BelowMinimum params evidence) := inferInstanceAs (Decidable (_ ∧ _))

/-- `submitPayout` from the update of the payout count on. -/
def recordPayout (evidence : BtcSpvVerifier.PayoutEvidence Address) : Except Err State := do
  let info := s.borrowers evidence.borrower
  let payoutCount ← addW 32 info.payoutCount.toNat 1
  let effectiveAmount :=
    e.params.applyPayoutHeuristics evidence.amountSats (UInt32.ofNat payoutCount)
  let totalRevenueSats ← addW 128 info.totalRevenueSats.toNat effectiveAmount.toNat
  let history ← addPayoutRecord (s.payoutHistory evidence.borrower) e.now effectiveAmount
  let (history, newTrailingRevenue) ←
    pruneAndCalculateTrailingRevenue e.now history e.params.windowSeconds
  let newCreditLimit ← calculateCreditLimit e.params newTrailingRevenue
  let newBorrowerPeriod := if e.params.newBorrowerPeriodSeconds > 0 then
    e.params.newBorrowerPeriodSeconds else e.params.windowSeconds
  let periodEnd ← addW 64 info.registeredAt.toNat newBorrowerPeriod.toNat
  let newCreditLimit :=
    if periodEnd > e.now.toNat ∧ newCreditLimit > e.params.newBorrowerCap then
      e.params.newBorrowerCap
    else newCreditLimit
  return { s.setBorrower evidence.borrower { info with
      payoutCount := UInt32.ofNat payoutCount
      totalRevenueSats := BitVec.ofNat 128 totalRevenueSats
      lastPayoutTimestamp := evidence.blockTimestamp.toUInt64
      trailingRevenueSats := newTrailingRevenue
      creditLimit := newCreditLimit } with
    payoutHistory := Function.update s.payoutHistory evidence.borrower history }

/-- `verifier.verifyPayout(proof)`. -/
def verified (proof : List UInt8) : Except Err (BtcSpvVerifier.PayoutEvidence Address) :=
  match e.verifyPayout proof with
  | some evidence => .ok evidence
  | none => .error .other

/-- `submitPayout` from the check against the minimum on. Every branch that returns has marked the
payout as processed. -/
def countPayout (evidence : BtcSpvVerifier.PayoutEvidence Address) : Except Err State :=
  if BelowMinimum e.params evidence then .ok s
  else do
    revertIf (s.poolRegistry ≠ 0 ∧ e.isEligiblePayoutSource evidence.txid = false)
      .ineligiblePayoutSource
    s.recordPayout e evidence

/-- `submitPayout`. -/
def submitPayout (proof : List UInt8) : Except Err State := do
  s.whenNotPaused
  let evidence ← verified e proof
  let info := s.borrowers evidence.borrower
  revertIf (info.status = .none) .borrowerNotRegistered
  revertIf (info.status ≠ .active) .borrowerNotActive
  let payoutKey := (evidence.txid, evidence.vout)
  revertIf (s.processedPayouts payoutKey = true) .payoutAlreadyProcessed
  revertIf (evidence.amountSats = 0) .zeroAmount
  let processed :=
    { s with processedPayouts := Function.update s.processedPayouts payoutKey true }
  processed.countPayout e evidence

/-! ### Borrowing and repaying -/

/-- The check of `borrow` against the global cap. -/
def checkGlobalCap (accruedInterest amount : Nat) : Except Err Unit :=
  if e.params.globalCap > 0 then do
    let total ← addW 256 s.totalGlobalDebt accruedInterest
    let total ← addW 256 total amount
    revertIf (total > e.params.globalCap.toNat) .exceedsCreditLimit
  else return

/-- `borrow`. -/
def borrow (amount : Nat) : Except Err State := do
  s.whenNotPaused
  revertIf (amount = 0) .zeroAmount
  let info := s.borrowers e.sender
  revertIf (info.status = .none) .borrowerNotRegistered
  revertIf (info.status ≠ .active) .borrowerNotActive
  let accruedInterest ← calculateAccruedInterest e info
  let currentPrincipal ← addW 256 info.currentDebt.toNat accruedInterest
  let newDebt ← addW 256 currentPrincipal amount
  revertIf (newDebt > info.creditLimit.toNat) .exceedsCreditLimit
  s.checkGlobalCap e accruedInterest amount
  let added ← addW 256 accruedInterest amount
  let totalGlobalDebt ← addW 256 s.totalGlobalDebt added
  revertIf (e.borrowFunds e.sender amount = false) .other
  return { s.setBorrower e.sender { info with
      currentDebt := BitVec.ofNat 128 newDebt
      lastDebtUpdateTimestamp := e.now } with
    totalGlobalDebt }

/-- `principalPaid` of `repay`. -/
def principalPart (actualRepay accruedInterest : Nat) : Except Err Nat :=
  if actualRepay ≤ accruedInterest then .ok 0 else subW actualRepay accruedInterest

/-- `repay`, with the amount that it takes from the borrower. -/
def repay (amount : Nat) : Except Err (State × Nat) := do
  s.whenNotPaused
  revertIf (amount = 0) .zeroAmount
  let info := s.borrowers e.sender
  revertIf (info.status = .none) .borrowerNotRegistered
  let accruedInterest ← calculateAccruedInterest e info
  let totalDebt ← addW 256 info.currentDebt.toNat accruedInterest
  let actualRepay := if amount > totalDebt then totalDebt else amount
  let principalPaid ← principalPart actualRepay accruedInterest
  revertIf (e.repayFunds e.sender actualRepay = false) .other
  let currentDebt ← subW info.currentDebt.toNat (BitVec.ofNat 128 principalPaid).toNat
  let totalGlobalDebt ← subW s.totalGlobalDebt principalPaid
  return ({ s.setBorrower e.sender { info with
      currentDebt := BitVec.ofNat 128 currentDebt
      lastDebtUpdateTimestamp := e.now } with
    totalGlobalDebt }, actualRepay)

/-- `getAccruedInterest`. -/
def getAccruedInterest (borrower : Address) : Except Err Nat :=
  calculateAccruedInterest e (s.borrowers borrower)

/-- `getCurrentDebt`. -/
def getCurrentDebt (borrower : Address) : Except Err Nat := do
  let accruedInterest ← s.getAccruedInterest e borrower
  addW 256 (s.borrowers borrower).currentDebt.toNat accruedInterest

end State

/-- The calls that write. -/
inductive Call
  | setVerifier (newVerifier : Address)
  | setVault (newVault : Address)
  | setRiskConfig (newRiskConfig : Address)
  | setPoolRegistry (newPoolRegistry : Address)
  | transferOwnership (newOwner : Address)
  | pause
  | unpause
  | freezeBorrower (borrower : Address)
  | grantTestnetCredit (borrower : Address) (creditLimitAmount : BitVec 128)
  | setAutoGrantCredit (amount : BitVec 128)
  | unfreezeBorrower (borrower : Address)
  | registerBorrower (borrower : Address) (btcPayoutKeyHash : Bytes32)
  | submitPayout (proof : List UInt8)
  | borrow (amount : Nat)
  | repay (amount : Nat)

/-- Run a call. -/
def exec (e : Env) (s : State) : Call → Except Err State
  | .setVerifier newVerifier => s.setVerifier e newVerifier
  | .setVault newVault => s.setVault e newVault
  | .setRiskConfig newRiskConfig => s.setRiskConfig e newRiskConfig
  | .setPoolRegistry newPoolRegistry => s.setPoolRegistry e newPoolRegistry
  | .transferOwnership newOwner => s.transferOwnership e newOwner
  | .pause => s.pause e
  | .unpause => s.unpause e
  | .freezeBorrower borrower => s.freezeBorrower e borrower
  | .grantTestnetCredit borrower amount => s.grantTestnetCredit e borrower amount
  | .setAutoGrantCredit amount => s.setAutoGrantCredit e amount
  | .unfreezeBorrower borrower => s.unfreezeBorrower e borrower
  | .registerBorrower borrower keyHash => s.registerBorrower e borrower keyHash
  | .submitPayout proof => s.submitPayout e proof
  | .borrow amount => s.borrow e amount
  | .repay amount => (s.repay e amount).map Prod.fst

/-- A deployed manager. -/
def Initial (s : State) : Prop :=
  ∃ sender verifier vault riskConfig poolRegistry stablecoin,
    State.deploy sender verifier vault riskConfig poolRegistry stablecoin = .ok s

/-- One successful call. -/
def Step (s : State) (a : Env × Call) (s' : State) : Prop := exec a.1 s a.2 = .ok s'

/-- Run a list of calls. The run stops at one that reverts. -/
def State.run (s : State) : List (Env × Call) → Except Err State
  | [] => .ok s
  | (e, c) :: rest => do
    let s ← exec e s c
    s.run rest

theorem State.run_steps : ∀ {as : List (Env × Call)} {s s' : State},
    s.run as = .ok s' → Steps Step s as s' := by
  intro as
  induction as with
  | nil =>
    intro s s' h
    cases h
    exact .nil s
  | cons a rest ih =>
    intro s s' h
    obtain ⟨e, c⟩ := a
    obtain ⟨t, ht, hrest⟩ := bind_eq_ok.mp h
    exact .cons ht (ih hrest)

end HashCreditManager

end Rackline
