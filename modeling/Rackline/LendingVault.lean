import Rackline.DebtLedger
import Rackline.Evm.Storage

/-!
# `Rackline.LendingVault`: the LP vault

`LendingVaultV2.sol` over a standard token and the facility ledger it reads. A vault call
acts on a `Pool`: the token, the ledger and the vault's own storage. The vault writes its
storage and moves its own tokens; it never writes the ledger.

The reentrancy lock is not part of the storage: the token has no callback, so a call never
finds the lock taken. Events are not part of it either, no modelled function reads one.

The loop of `processWithdrawals` is `processHead`, which serves the request at the head of
the queue once, and `processLoop`, which repeats it.
-/

set_option autoImplicit false

namespace Rackline

open Evm

/-- `ILendingVaultV2.WithdrawalRequest`. -/
structure WithdrawalRequest where
  owner : Address
  epoch : Nat
  expiresAt : Nat
  sharesRequested : Nat
  sharesRemaining : Nat
  minAssets : Nat
  assetsReserved : Nat
  assetsClaimed : Nat
  cancelled : Bool
deriving DecidableEq

/-- The zero value of a storage struct. -/
def WithdrawalRequest.empty : WithdrawalRequest :=
  { owner := 0, epoch := 0, expiresAt := 0, sharesRequested := 0, sharesRemaining := 0,
    minAssets := 0, assetsReserved := 0, assetsClaimed := 0, cancelled := false }

/-- The storage of `LendingVaultV2`, with `self` for `address(this)`. -/
structure Vault where
  self : Address
  totalShares : Nat
  currentEpoch : Nat
  shares : Nat → Address → Nat
  allowances : Nat → Address → Address → Nat
  lockedShares : Nat → Address → Nat
  totalWithdrawalReserved : Nat
  totalRecoveryReserved : Nat
  pendingWithdrawalShares : Nat
  nextWithdrawalId : Nat
  withdrawalHead : Nat
  withdrawals : Nat → WithdrawalRequest
  closedEpochShares : Nat → Nat
  epochRecoveryReceived : Nat → Nat
  epochRecoveryClaimed : Nat → Address → Nat
  writeOffEpoch : FacilityId → Nat
  epochRolloverRequired : Bool
  isManager : Address → Bool
  wiringFinalized : Bool
  recoveryManager : Address
  depositsPaused : Bool
  impairmentOf : FacilityId → Nat
  totalImpairment : Nat
  isWrittenOff : FacilityId → Bool
  writtenOff : List FacilityId
  refundableOf : FacilityId → Nat
  totalBorrowerOwned : Nat
  trackedBalance : Nat

/-- The vault after deployment at `self`. -/
def Vault.initial (self : Address) : Vault where
  self := self
  totalShares := 0
  currentEpoch := 1
  shares := fun _ _ => 0
  allowances := fun _ _ _ => 0
  lockedShares := fun _ _ => 0
  totalWithdrawalReserved := 0
  totalRecoveryReserved := 0
  pendingWithdrawalShares := 0
  nextWithdrawalId := 1
  withdrawalHead := 1
  withdrawals := fun _ => .empty
  closedEpochShares := fun _ => 0
  epochRecoveryReceived := fun _ => 0
  epochRecoveryClaimed := fun _ _ => 0
  writeOffEpoch := fun _ => 0
  epochRolloverRequired := false
  isManager := fun _ => false
  wiringFinalized := false
  recoveryManager := 0
  depositsPaused := false
  impairmentOf := fun _ => 0
  totalImpairment := 0
  isWrittenOff := fun _ => false
  writtenOff := []
  refundableOf := fun _ => 0
  totalBorrowerOwned := 0
  trackedBalance := 0

/-- `WITHDRAWAL_TTL`: 7 days. -/
def withdrawalTtl : Nat := 7 * 86400

/-- `MAX_PROCESS_REQUESTS`. -/
def maxProcessRequests : Nat := 50

/-- `VIRTUAL_SHARES`. -/
def virtualShares : Nat := 1000

/-- `VIRTUAL_ASSETS`. -/
def virtualAssets : Nat := 1

/-- What a vault call reads and writes: the asset token, the ledger and the vault. -/
structure Pool where
  token : Token Address
  ledger : Ledger
  vault : Vault

namespace Pool

/-- `IERC20(_ASSET).balanceOf(address(this))`. -/
def cashBalance (p : Pool) : Nat := p.token.balanceOf p.vault.self

/-! ### Admin and guardian -/

/-- `setManager`. -/
def setManager (m : Msg) (manager : Address) (enabled : Bool) (p : Pool) :
    Except Revert Pool := do
  revertIf (m.hasRole .admin m.sender = false) (.notAdmin m.sender)
  revertIf (p.vault.wiringFinalized = true) .wiringFinalized
  revertIf (manager = 0) .zeroAddress
  return { p with vault := { p.vault with
    isManager := Function.update p.vault.isManager manager enabled } }

/-- `finalizeWiring`. -/
def finalizeWiring (m : Msg) (p : Pool) : Except Revert Pool := do
  revertIf (m.hasRole .admin m.sender = false) (.notAdmin m.sender)
  revertIf (p.vault.wiringFinalized = true) .wiringFinalized
  return { p with vault := { p.vault with wiringFinalized := true } }

/-- `bindRecoveryManager`. -/
def bindRecoveryManager (m : Msg) (manager : Address) (p : Pool) : Except Revert Pool := do
  revertIf (m.hasRole .admin m.sender = false) (.notAdmin m.sender)
  revertIf (p.vault.wiringFinalized = true ∨ p.vault.recoveryManager ≠ 0) .wiringFinalized
  revertIf (m.hasCode manager = false) .zeroAddress
  return { p with vault := { p.vault with recoveryManager := manager } }

/-- `setDepositsPaused`. -/
def setDepositsPaused (m : Msg) (paused : Bool) (p : Pool) : Except Revert Pool := do
  revertIf (m.hasRole .guardian m.sender = false) (.notGuardian m.sender)
  return { p with vault := { p.vault with depositsPaused := paused } }

/-! ### Views -/

/-- `_lpCash`. -/
def lpCash (p : Pool) : Except Revert Nat := do
  let owned ← addW 256 p.vault.totalBorrowerOwned p.vault.totalWithdrawalReserved
  let liabilities ← addW 256 owned p.vault.totalRecoveryReserved
  return if p.cashBalance > liabilities then p.cashBalance - liabilities else 0

/-- `availableCash`. -/
def availableCash (p : Pool) : Except Revert Nat :=
  if p.vault.pendingWithdrawalShares ≠ 0 ∨ p.vault.epochRolloverRequired = true then .ok 0
  else p.lpCash

/-- The loop of `performingReceivables`: take the written-off debts off the ledger total. -/
def subtractWrittenOff (l : Ledger) (now : Nat) : List FacilityId → Nat → Except Revert Nat
  | [], total => .ok total
  | id :: rest, total => do
    let debt ← l.legalDebtAt id now
    let total ← subW total debt
    subtractWrittenOff l now rest total

/-- `performingReceivables`. -/
def performingReceivables (now : Nat) (p : Pool) : Except Revert Nat := do
  let total ← p.ledger.totalLegalDebtAt now
  subtractWrittenOff p.ledger now p.vault.writtenOff total

/-- `nav`. -/
def nav (now : Nat) (p : Pool) : Except Revert Nat := do
  let cash ← p.lpCash
  let performing ← p.performingReceivables now
  let gross ← addW 256 cash performing
  return if gross > p.vault.totalImpairment then gross - p.vault.totalImpairment else 0

/-- `convertToShares`. -/
def convertToShares (now assets : Nat) (p : Pool) : Except Revert Nat := do
  let supply ← addW 256 p.vault.totalShares virtualShares
  let n ← p.nav now
  let value ← addW 256 n virtualAssets
  mulDiv assets supply value

/-- `convertToAssets`. -/
def convertToAssets (now shares : Nat) (p : Pool) : Except Revert Nat := do
  let n ← p.nav now
  let value ← addW 256 n virtualAssets
  let supply ← addW 256 p.vault.totalShares virtualShares
  mulDiv shares value supply

/-- `balanceOf(lp)`: shares of the current epoch. -/
def balanceOf (p : Pool) (lp : Address) : Nat := p.vault.shares p.vault.currentEpoch lp

/-! ### Internals -/

/-- `_trackedBalance = balanceOf(address(this))`. -/
def track (p : Pool) : Pool :=
  { p with vault := { p.vault with trackedBalance := p.cashBalance } }

/-- `_absorbDonation`. -/
def absorbDonation (p : Pool) : Pool :=
  if p.cashBalance > p.vault.trackedBalance then p.track else p

/-- `_pull`: the measured arrival of a `transferFrom` into the vault. -/
def pull (src : Address) (amount : Nat) (p : Pool) : Except Revert (Nat × Pool) :=
  match p.token.transferFrom p.vault.self src p.vault.self amount with
  | none => .error .transferFailed
  | some token => do
    let received ← subW (token.balanceOf p.vault.self) p.cashBalance
    return (received, { p with token := token })

/-- `_push`: a transfer out of the vault, measured at both ends. -/
def push (dst : Address) (amount : Nat) (p : Pool) : Except Revert Pool :=
  match p.token.transfer p.vault.self dst amount with
  | none => .error .transferFailed
  | some token => do
    let before := p.cashBalance
    let after_ := token.balanceOf p.vault.self
    let receivedBefore := p.token.balanceOf dst
    let receivedAfter := token.balanceOf dst
    revertIf (after_ > before ∨ before - after_ ≠ amount ∨ receivedAfter < receivedBefore
        ∨ receivedAfter - receivedBefore ≠ amount)
      (.cashNotReceived amount
        (if receivedAfter > receivedBefore then receivedAfter - receivedBefore else 0))
    return { p with token := token }

/-- `_mint`. -/
def mint (dst : Address) (shares : Nat) (p : Pool) : Except Revert Pool := do
  let total ← addW 256 p.vault.totalShares shares
  let balance ← addW 256 (p.balanceOf dst) shares
  return { p with vault := { p.vault with
    totalShares := total
    shares := set2 p.vault.shares p.vault.currentEpoch dst balance } }

/-- `_burn`. -/
def burn (src : Address) (shares : Nat) (p : Pool) : Except Revert Pool := do
  revertIf (shares > p.balanceOf src) .zeroShares
  let unlocked ← subW (p.balanceOf src) (p.vault.lockedShares p.vault.currentEpoch src)
  revertIf (shares > unlocked) (.lockedShares shares unlocked)
  let total ← subW p.vault.totalShares shares
  return { p with vault := { p.vault with
    totalShares := total
    shares := set2 p.vault.shares p.vault.currentEpoch src (p.balanceOf src - shares) } }

/-- `_reserveOldEpochRecovery`. -/
def reserveOldEpochRecovery (id : FacilityId) (amount : Nat) (p : Pool) :
    Except Revert Pool := do
  let epoch := p.vault.writeOffEpoch id
  if p.vault.isWrittenOff id = false ∨ epoch = 0 ∨ epoch ≥ p.vault.currentEpoch ∨ amount = 0 then
    return p
  else
    let received ← addW 256 (p.vault.epochRecoveryReceived epoch) amount
    let reserved ← addW 256 p.vault.totalRecoveryReserved amount
    return { p with vault := { p.vault with
      epochRecoveryReceived := Function.update p.vault.epochRecoveryReceived epoch received
      totalRecoveryReserved := reserved } }

/-! ### LP actions -/

/-- The refusal of `deposit`: `epochRolloverRequired || (totalShares != 0 && nav() == 0)`. -/
def recapitalizationRequired (now : Nat) (p : Pool) : Except Revert Bool :=
  if p.vault.epochRolloverRequired = true then .ok true
  else if p.vault.totalShares ≠ 0 then do
    let n ← p.nav now
    return decide (n = 0)
  else .ok false

/-- `deposit`. -/
def deposit (m : Msg) (assets minShares : Nat) (p : Pool) : Except Revert (Nat × Pool) := do
  revertIf (p.vault.depositsPaused = true) .paused
  revertIf (assets = 0) .zeroAmount
  let p := p.absorbDonation
  let refused ← p.recapitalizationRequired m.now
  revertIf (refused = true) .epochRecapitalizationRequired
  let shares ← p.convertToShares m.now assets
  revertIf (shares = 0) .zeroShares
  revertIf (shares < minShares) (.slippageExceeded shares minShares)
  let (received, p) ← p.pull m.sender assets
  revertIf (received ≠ assets) (.cashNotReceived assets received)
  let p ← p.mint m.sender shares
  return (shares, p.track)

/-- `withdraw`. -/
def withdraw (m : Msg) (shares minAssets : Nat) (p : Pool) : Except Revert (Nat × Pool) := do
  revertIf (shares = 0) .zeroShares
  revertIf (p.vault.epochRolloverRequired = true) .epochRecapitalizationRequired
  revertIf (p.vault.pendingWithdrawalShares ≠ 0) .withdrawalQueueActive
  let p := p.absorbDonation
  let assets ← p.convertToAssets m.now shares
  revertIf (assets = 0) .zeroAmount
  revertIf (assets < minAssets) (.slippageExceeded assets minAssets)
  let cash ← p.availableCash
  revertIf (assets > cash) (.insufficientCash assets cash)
  let p ← p.burn m.sender shares
  let p ← p.push m.sender assets
  return (assets, p.track)

/-! ### The withdrawal queue -/

/-- `requestWithdrawal`. -/
def requestWithdrawal (m : Msg) (shares minAssets : Nat) (p : Pool) :
    Except Revert (Nat × Pool) := do
  revertIf (shares = 0) .zeroShares
  revertIf (p.vault.epochRolloverRequired = true) .epochRecapitalizationRequired
  let epoch := p.vault.currentEpoch
  let unlocked ← subW (p.balanceOf m.sender) (p.vault.lockedShares epoch m.sender)
  revertIf (shares > unlocked) (.lockedShares shares unlocked)
  let quoted ← p.convertToAssets m.now shares
  revertIf (quoted = 0) .zeroAmount
  revertIf (minAssets > quoted) (.slippageExceeded quoted minAssets)
  let id := p.vault.nextWithdrawalId
  let next ← addW 256 id 1
  let expiresAt ← addW 256 m.now withdrawalTtl
  let locked ← addW 256 (p.vault.lockedShares epoch m.sender) shares
  let pending ← addW 256 p.vault.pendingWithdrawalShares shares
  return (id, { p with vault := { p.vault with
    nextWithdrawalId := next
    withdrawals := Function.update p.vault.withdrawals id
      { owner := m.sender, epoch := epoch, expiresAt := expiresAt, sharesRequested := shares,
        sharesRemaining := shares, minAssets := minAssets, assetsReserved := 0,
        assetsClaimed := 0, cancelled := false }
    lockedShares := set2 p.vault.lockedShares epoch m.sender locked
    pendingWithdrawalShares := pending } })

/-- `_cancelWithdrawal`. -/
def cancelRequest (id : Nat) (p : Pool) : Except Revert Pool := do
  let r := p.vault.withdrawals id
  let locked ← subW (p.vault.lockedShares r.epoch r.owner) r.sharesRemaining
  let pending ← if r.epoch = p.vault.currentEpoch then
      subW p.vault.pendingWithdrawalShares r.sharesRemaining
    else .ok p.vault.pendingWithdrawalShares
  return { p with vault := { p.vault with
    lockedShares := set2 p.vault.lockedShares r.epoch r.owner locked
    pendingWithdrawalShares := pending
    withdrawals := Function.update p.vault.withdrawals id
      { r with sharesRemaining := 0, cancelled := true } } }

/-- `cancelWithdrawal`. -/
def cancelWithdrawal (m : Msg) (id : Nat) (p : Pool) : Except Revert Pool := do
  revertIf ((p.vault.withdrawals id).owner = 0) (.unknownWithdrawal id)
  revertIf (m.sender ≠ (p.vault.withdrawals id).owner) (.notWithdrawalOwner m.sender)
  revertIf ((p.vault.withdrawals id).sharesRemaining = 0) (.noPendingWithdrawal id)
  p.cancelRequest id

/-- `withdrawalHead++`. -/
def advanceHead (p : Pool) : Except Revert Pool := do
  let head ← addW 256 p.vault.withdrawalHead 1
  return { p with vault := { p.vault with withdrawalHead := head } }

/-- The price of a fill: all remaining shares when the cash covers them, else the shares the
cash is worth. `none` is a `break`. -/
def quoteFill (now cash : Nat) (r : WithdrawalRequest) (p : Pool) :
    Except Revert (Option (Nat × Nat)) := do
  let assets ← p.convertToAssets now r.sharesRemaining
  if assets > cash then
    let supply ← addW 256 p.vault.totalShares virtualShares
    let n ← p.nav now
    let value ← addW 256 n virtualAssets
    let shares ← mulDiv cash supply value
    if shares = 0 then
      return none
    else
      let assets ← p.convertToAssets now shares
      return some (shares, assets)
  else
    return some (r.sharesRemaining, assets)

/-- The writes of a fill of `shares` of request `id` for `assets`. -/
def fill (id shares assets : Nat) (p : Pool) : Except Revert Pool := do
  let r := p.vault.withdrawals id
  let epoch := p.vault.currentEpoch
  let remaining ← subW r.sharesRemaining shares
  let reserved ← addW 256 r.assetsReserved assets
  let locked ← subW (p.vault.lockedShares epoch r.owner) shares
  let pending ← subW p.vault.pendingWithdrawalShares shares
  let p ← burn r.owner shares { p with vault := { p.vault with
    withdrawals := Function.update p.vault.withdrawals id
      { r with sharesRemaining := remaining, assetsReserved := reserved }
    lockedShares := set2 p.vault.lockedShares epoch r.owner locked
    pendingWithdrawalShares := pending } }
  let total ← addW 256 p.vault.totalWithdrawalReserved assets
  return { p with vault := { p.vault with totalWithdrawalReserved := total } }

/-- What one iteration of the loop of `processWithdrawals` does. -/
inductive HeadOutcome
  /-- `break` with no write. -/
  | stop
  /-- A closed or expired request leaves the head; `continue`. -/
  | skip (p : Pool)
  /-- The head request was filled. The loop goes on exactly when it was filled whole. -/
  | filled (id shares assets : Nat) (p : Pool) (whole : Bool)

/-- One iteration of the loop of `processWithdrawals`. -/
def processHead (now : Nat) (p : Pool) : Except Revert HeadOutcome := do
  let id := p.vault.withdrawalHead
  let r := p.vault.withdrawals id
  if r.sharesRemaining = 0 ∨ r.epoch ≠ p.vault.currentEpoch then
    let p ← p.advanceHead
    return .skip p
  else if now ≥ r.expiresAt then
    let p ← p.cancelRequest id
    let p ← p.advanceHead
    return .skip p
  else
    let cash ← p.lpCash
    if cash = 0 then
      return .stop
    else
      let n ← p.nav now
      if n = 0 then
        return .stop
      else
        match ← p.quoteFill now cash r with
        | none => return .stop
        | some (shares, assets) =>
          if assets = 0 then
            return .stop
          else
            let minimum ← mulDivUp r.minAssets shares r.sharesRequested
            if assets < minimum then
              return .stop
            else
              let p ← p.fill id shares assets
              if (p.vault.withdrawals id).sharesRemaining = 0 then
                let p ← p.advanceHead
                return .filled id shares assets p true
              else
                return .filled id shares assets p false

/-- The loop of `processWithdrawals`, with `fuel` requests left to visit. -/
def processLoop (now : Nat) : Nat → Pool → Nat → Nat → Except Revert (Nat × Nat × Pool)
  | 0, p, filled, reserved => .ok (filled, reserved, p)
  | fuel + 1, p, filled, reserved =>
    if p.vault.withdrawalHead < p.vault.nextWithdrawalId then do
      match ← p.processHead now with
      | .stop => return (filled, reserved, p)
      | .skip p => processLoop now fuel p filled reserved
      | .filled _ _ assets p whole =>
        let reserved ← addW 256 reserved assets
        if whole then processLoop now fuel p (filled + 1) reserved
        else return (filled + 1, reserved, p)
    else .ok (filled, reserved, p)

/-- `processWithdrawals`. -/
def processWithdrawals (m : Msg) (maxRequests : Nat) (p : Pool) :
    Except Revert (Nat × Nat × Pool) := do
  revertIf (maxRequests = 0 ∨ maxRequests > maxProcessRequests) .invalidProcessLimit
  revertIf (p.vault.epochRolloverRequired = true) .epochRecapitalizationRequired
  processLoop m.now maxRequests p.absorbDonation 0 0

/-- `claimWithdrawal`. -/
def claimWithdrawal (m : Msg) (id : Nat) (p : Pool) : Except Revert (Nat × Pool) := do
  let r := p.vault.withdrawals id
  revertIf (r.owner = 0) (.unknownWithdrawal id)
  revertIf (m.sender ≠ r.owner) (.notWithdrawalOwner m.sender)
  let assets ← subW r.assetsReserved r.assetsClaimed
  revertIf (assets = 0) .noClaimableAssets
  let claimed ← addW 256 r.assetsClaimed assets
  let reserved ← subW p.vault.totalWithdrawalReserved assets
  let p ← push r.owner assets { p with vault := { p.vault with
    withdrawals := Function.update p.vault.withdrawals id { r with assetsClaimed := claimed }
    totalWithdrawalReserved := reserved } }
  return (assets, p.track)

/-! ### Loss epochs -/

/-- The latch condition of `rollLossEpoch`:
`epochRolloverRequired && totalShares != 0 && performingReceivables() == 0 &&
totalImpairment == 0`. -/
def fullyWrittenOff (now : Nat) (p : Pool) : Except Revert Bool :=
  if p.vault.epochRolloverRequired = false ∨ p.vault.totalShares = 0 then .ok false
  else do
    let performing ← p.performingReceivables now
    return decide (performing = 0 ∧ p.vault.totalImpairment = 0)

/-- `rollLossEpoch`. -/
def rollLossEpoch (m : Msg) (p : Pool) : Except Revert Pool := do
  revertIf (m.hasRole .guardian m.sender = false) (.notGuardian m.sender)
  let lost ← p.fullyWrittenOff m.now
  revertIf (lost = false) .epochNotFullyWrittenOff
  let p := p.absorbDonation
  let epoch := p.vault.currentEpoch
  let residual ← p.lpCash
  let received ← addW 256 (p.vault.epochRecoveryReceived epoch) residual
  let reserved ← addW 256 p.vault.totalRecoveryReserved residual
  let next ← addW 64 epoch 1
  return { p with vault := { p.vault with
    epochRecoveryReceived := Function.update p.vault.epochRecoveryReceived epoch received
    totalRecoveryReserved := reserved
    closedEpochShares := Function.update p.vault.closedEpochShares epoch p.vault.totalShares
    currentEpoch := next
    epochRolloverRequired := false
    totalShares := 0
    pendingWithdrawalShares := 0
    withdrawalHead := p.vault.nextWithdrawalId } }

/-- `recoveryClaimable`. -/
def recoveryClaimable (epoch : Nat) (lp : Address) (p : Pool) : Except Revert Nat :=
  let supply := p.vault.closedEpochShares epoch
  if epoch ≥ p.vault.currentEpoch ∨ supply = 0 then .ok 0
  else do
    let earned ← mulDiv (p.vault.epochRecoveryReceived epoch) (p.vault.shares epoch lp) supply
    subW earned (p.vault.epochRecoveryClaimed epoch lp)

/-- `claimEpochRecovery`. -/
def claimEpochRecovery (m : Msg) (epoch : Nat) (p : Pool) : Except Revert (Nat × Pool) := do
  revertIf (epoch ≥ p.vault.currentEpoch ∨ p.vault.closedEpochShares epoch = 0)
    (.epochNotClosed epoch)
  let assets ← p.recoveryClaimable epoch m.sender
  revertIf (assets = 0) .noClaimableAssets
  let claimed ← addW 256 (p.vault.epochRecoveryClaimed epoch m.sender) assets
  let reserved ← subW p.vault.totalRecoveryReserved assets
  let p ← push m.sender assets { p with vault := { p.vault with
    epochRecoveryClaimed := set2 p.vault.epochRecoveryClaimed epoch m.sender claimed
    totalRecoveryReserved := reserved } }
  return (assets, p.track)

/-! ### Manager actions -/

/-- `lend`. -/
def lend (m : Msg) (id : FacilityId) (dst : Address) (amount : Nat) (p : Pool) :
    Except Revert Pool := do
  revertIf (p.vault.isManager m.sender = false) (.onlyManager m.sender)
  revertIf (amount = 0) .zeroAmount
  revertIf (dst = 0) .zeroAddress
  revertIf (p.vault.isWrittenOff id = true) (.facilityWrittenOff id)
  revertIf (p.vault.epochRolloverRequired = true) .epochRecapitalizationRequired
  revertIf (p.vault.pendingWithdrawalShares ≠ 0) .withdrawalQueueActive
  let p := p.absorbDonation
  let cash ← p.availableCash
  revertIf (amount > cash) (.insufficientCash amount cash)
  let p ← p.push dst amount
  return p.track

/-- The balance growth since the last observation. -/
def arrived (p : Pool) : Nat :=
  if p.cashBalance > p.vault.trackedBalance then p.cashBalance - p.vault.trackedBalance else 0

/-- The impairment release of `onRepayment`: cap the allowance by the remaining debt. -/
def capImpairment (id : FacilityId) (newDebt : Nat) (p : Pool) : Except Revert Pool := do
  let impairment := p.vault.impairmentOf id
  if impairment > newDebt then
    let total ← subW p.vault.totalImpairment (impairment - newDebt)
    return { p with vault := { p.vault with
      impairmentOf := Function.update p.vault.impairmentOf id newDebt
      totalImpairment := total } }
  else
    return p

/-- `onRepayment`. -/
def onRepayment (m : Msg) (id : FacilityId) (result : RepayResult) (p : Pool) :
    Except Revert Pool := do
  revertIf (p.vault.isManager m.sender = false) (.onlyManager m.sender)
  revertIf (result.received = 0) .zeroAmount
  let split ← addW 256 result.applied result.excess
  revertIf (split ≠ result.received) (.cashNotReceived result.received result.applied)
  revertIf (p.arrived < result.received) (.cashNotReceived result.received p.arrived)
  let refundable ← addW 256 (p.vault.refundableOf id) result.excess
  let owned ← addW 256 p.vault.totalBorrowerOwned result.excess
  let p := { p with vault := { p.vault with
    refundableOf := Function.update p.vault.refundableOf id refundable
    totalBorrowerOwned := owned } }
  let p ← p.capImpairment id result.newDebt
  let p ← p.reserveOldEpochRecovery id result.applied
  return p.track

/-- `refundExcess`. -/
def refundExcess (m : Msg) (id : FacilityId) (dst : Address) (amount : Nat) (p : Pool) :
    Except Revert Pool := do
  revertIf (p.vault.isManager m.sender = false) (.onlyManager m.sender)
  revertIf (amount = 0) .zeroAmount
  revertIf (dst = 0) .zeroAddress
  revertIf (amount > p.vault.refundableOf id)
    (.refundExceedsBalance amount (p.vault.refundableOf id))
  let owned ← subW p.vault.totalBorrowerOwned amount
  let p ← push dst amount { p with vault := { p.vault with
    refundableOf := Function.update p.vault.refundableOf id (p.vault.refundableOf id - amount)
    totalBorrowerOwned := owned } }
  return p.track

/-- `recordRecovery`. -/
def recordRecovery (m : Msg) (id : FacilityId) (amount : Nat) (p : Pool) :
    Except Revert Pool := do
  revertIf (p.vault.isManager m.sender = false) (.onlyManager m.sender)
  revertIf (amount = 0) .zeroAmount
  revertIf (p.vault.isWrittenOff id = false) (.facilityNotWrittenOff id)
  revertIf (p.arrived < amount) (.cashNotReceived amount p.arrived)
  let p ← p.reserveOldEpochRecovery id amount
  return p.track

/-! ### Losses -/

/-- The modifier `onlyGuardianOrUnderwriter`. -/
def onlyGuardianOrUnderwriter (m : Msg) (p : Pool) : Except Revert Unit := do
  revertIf (p.vault.recoveryManager ≠ 0 ∧ m.sender ≠ p.vault.recoveryManager)
    .onlyRecoveryManager
  revertIf (m.hasRole .guardian m.sender = false ∧ m.hasRole .underwriter m.sender = false)
    (.notGuardianOrUnderwriter m.sender)

/-- `recognizeImpairment`. -/
def recognizeImpairment (m : Msg) (id : FacilityId) (amount : Nat) (p : Pool) :
    Except Revert Pool := do
  p.onlyGuardianOrUnderwriter m
  revertIf (amount = 0) .zeroAmount
  revertIf (p.vault.isWrittenOff id = true) (.facilityWrittenOff id)
  let exposure ← p.ledger.legalDebtAt id m.now
  let after_ ← addW 256 (p.vault.impairmentOf id) amount
  revertIf (after_ > exposure) (.impairmentExceedsExposure after_ exposure)
  let total ← addW 256 p.vault.totalImpairment amount
  return { p with vault := { p.vault with
    impairmentOf := Function.update p.vault.impairmentOf id after_
    totalImpairment := total } }

/-- `reverseImpairment`. -/
def reverseImpairment (m : Msg) (id : FacilityId) (amount : Nat) (p : Pool) :
    Except Revert Pool := do
  p.onlyGuardianOrUnderwriter m
  revertIf (amount = 0) .zeroAmount
  revertIf (amount > p.vault.impairmentOf id)
    (.impairmentExceedsExposure amount (p.vault.impairmentOf id))
  let total ← subW p.vault.totalImpairment amount
  return { p with vault := { p.vault with
    impairmentOf := Function.update p.vault.impairmentOf id (p.vault.impairmentOf id - amount)
    totalImpairment := total } }

/-- The latch of `writeOff`:
`totalShares != 0 && nav() == 0 && performingReceivables() == 0 && totalImpairment == 0`. -/
def totalLoss (now : Nat) (p : Pool) : Except Revert Bool :=
  if p.vault.totalShares = 0 then .ok false
  else do
    let n ← p.nav now
    if n ≠ 0 then return false
    else
      let performing ← p.performingReceivables now
      return decide (performing = 0 ∧ p.vault.totalImpairment = 0)

/-- `writeOff`. -/
def writeOff (m : Msg) (id : FacilityId) (p : Pool) : Except Revert Pool := do
  revertIf (m.hasRole .guardian m.sender = false) (.notGuardian m.sender)
  revertIf (p.vault.recoveryManager ≠ 0 ∧ m.sender ≠ p.vault.recoveryManager)
    .onlyRecoveryManager
  revertIf (p.vault.isWrittenOff id = true) (.facilityWrittenOff id)
  -- `LEDGER.view_` and `LEDGER.unpaidInterestAt`, read for the event: both need the facility.
  let _ ← p.ledger.unpaidInterestAt id m.now
  let total ← subW p.vault.totalImpairment (p.vault.impairmentOf id)
  let p := { p with vault := { p.vault with
    impairmentOf := Function.update p.vault.impairmentOf id 0
    totalImpairment := total
    isWrittenOff := Function.update p.vault.isWrittenOff id true
    writeOffEpoch := Function.update p.vault.writeOffEpoch id p.vault.currentEpoch
    writtenOff := p.vault.writtenOff ++ [id] } }
  let lost ← p.totalLoss m.now
  return { p with vault := { p.vault with
    epochRolloverRequired := p.vault.epochRolloverRequired || lost } }

/-! ### Share token -/

/-- `approve`. -/
def approveShares (m : Msg) (spender : Address) (amount : Nat) (p : Pool) : Pool :=
  { p with vault := { p.vault with
    allowances := Function.update p.vault.allowances p.vault.currentEpoch
      (set2 (p.vault.allowances p.vault.currentEpoch) m.sender spender amount) } }

/-- `_transferShares`. -/
def transferShares (src dst : Address) (amount : Nat) (p : Pool) : Except Revert Pool := do
  revertIf (dst = 0) .zeroAddress
  revertIf (amount > p.balanceOf src) .zeroShares
  let epoch := p.vault.currentEpoch
  let unlocked ← subW (p.balanceOf src) (p.vault.lockedShares epoch src)
  revertIf (amount > unlocked) (.lockedShares amount unlocked)
  let debited := set2 p.vault.shares epoch src (p.balanceOf src - amount)
  let credited ← addW 256 (debited epoch dst) amount
  return { p with vault := { p.vault with shares := set2 debited epoch dst credited } }

/-- `transfer`. -/
def transfer (m : Msg) (dst : Address) (amount : Nat) (p : Pool) : Except Revert Pool :=
  p.transferShares m.sender dst amount

/-- `transferFrom`. -/
def transferFrom (m : Msg) (src dst : Address) (amount : Nat) (p : Pool) :
    Except Revert Pool := do
  let epoch := p.vault.currentEpoch
  let allowed := p.vault.allowances epoch src m.sender
  if allowed + 1 = wordSize 256 then
    p.transferShares src dst amount
  else
    revertIf (amount > allowed) .zeroShares
    transferShares src dst amount { p with vault := { p.vault with
      allowances := Function.update p.vault.allowances epoch
        (set2 (p.vault.allowances epoch) src m.sender (allowed - amount)) } }

/-! ### The repayment pair -/

/-- What the manager and the router do with a received amount: `LEDGER.allocate`, then
`VAULT.onRepayment` with the split. The router overwrites `requested` in between. -/
def repay (m : Msg) (id : FacilityId) (received requested : Nat) (p : Pool) :
    Except Revert (RepayResult × Pool) := do
  let (r, ledger) ← p.ledger.allocate m id received
  let r := { r with requested := requested }
  let p ← onRepayment m id r { p with ledger := ledger }
  return (r, p)

end Pool

end Rackline
