import Rackline.PoolRun
import Rackline.Lib.EventLog
import Mathlib.Data.List.AList

/-!
# `Rackline.ShareProjection`: the share balances folded from the vault's logs

`LendingVaultV2` emits `Transfer` wherever `_mint`, `_burn` and `_transferShares` write shares.
`VaultCall.transfers` lists the `Transfer` logs of a call that returns, in the order in which the
call emits them. `rollLossEpoch` emits none.

`foldTransfer` is the branch of `replay` in `indexer.py` that reads a `Transfer` of the vault. Its
state is what the vault entity keeps under `totalShares` and `shareBalances`: a total and a
dictionary, of which an absent key reads as zero.
-/

set_option autoImplicit false

namespace Rackline

open Evm EventLog

/-- The event `Transfer(from, to, value)` of the vault. -/
structure ShareTransfer where
  src : Address
  dst : Address
  value : Nat
deriving DecidableEq

/-! ### What the vault emits -/

namespace Pool

/-- The event of `_mint`. -/
def mintLog (dst : Address) (shares : Nat) : ShareTransfer := ⟨0, dst, shares⟩

/-- The event of `_burn`. -/
def burnLog (src : Address) (shares : Nat) : ShareTransfer := ⟨src, 0, shares⟩

/-- The events of the loop of `processWithdrawals`: each fill burns shares of the owner of the
request it fills. -/
def loopTransfers (now : Nat) : Nat → Pool → List ShareTransfer
  | 0, _ => []
  | fuel + 1, p =>
    if p.vault.withdrawalHead < p.vault.nextWithdrawalId then
      match p.processHead now with
      | .ok (.skip p') => loopTransfers now fuel p'
      | .ok (.filled id shares _ p' whole) =>
        burnLog (p.vault.withdrawals id).owner shares ::
          if whole then loopTransfers now fuel p' else []
      | .ok .stop | .error _ => []
    else []

end Pool

/-- The `Transfer` events of a vault call that returns. -/
def VaultCall.transfers (m : Msg) (p : Pool) : VaultCall → List ShareTransfer
  | deposit assets minShares =>
    match p.deposit m assets minShares with
    | .ok (shares, _) => [Pool.mintLog m.sender shares]
    | .error _ => []
  | withdraw shares _ => [Pool.burnLog m.sender shares]
  | processWithdrawals maxRequests => p.absorbDonation.loopTransfers m.now maxRequests
  | transfer dst amount => [⟨m.sender, dst, amount⟩]
  | transferFrom src dst amount => [⟨src, dst, amount⟩]
  -- No other call reaches `_mint`, `_burn` or `_transferShares`.
  | _ => []

/-- The `Transfer` events of the vault in a call on the pool. -/
def PoolState.transfers (s : PoolState) (a : Msg × PoolCall) : List ShareTransfer :=
  match a.2 with
  | .vault c => c.transfers a.1 s.pool
  | _ => []

/-- One call on the pool by an account. No account has the zero address. -/
def AccountStep (s : PoolState) (a : Msg × PoolCall) (s' : PoolState) : Prop :=
  a.1.sender ≠ 0 ∧ PoolStep s a s'

/-- One call, with the `Transfer` events it appends to the log of the vault. -/
def ShareStep : Logged PoolState ShareTransfer → Msg × PoolCall → Logged PoolState ShareTransfer →
    Prop :=
  LoggedStep AccountStep PoolState.transfers

/-- A deployment, before any event. -/
def ShareInitial (s : Logged PoolState ShareTransfer) : Prop := s.state.Initial ∧ s.log = []

/-! ### What the indexer folds -/

/-- `totalShares` and `shareBalances` of the vault entity. -/
structure ShareView where
  totalShares : Int
  shareBalances : AList fun _ : Address => Int

namespace ShareView

/-- The entity of a vault that has emitted nothing. -/
def empty : ShareView := ⟨0, ∅⟩

/-- `balances.get(lp, "0")`. -/
def balanceOf (v : ShareView) (lp : Address) : Int := (v.shareBalances.lookup lp).getD 0

/-- `balances[lp] = balances.get(lp, "0") + amount`. -/
def credit (v : ShareView) (lp : Address) (amount : Int) : ShareView :=
  { v with shareBalances := v.shareBalances.insert lp (v.balanceOf lp + amount) }

/-- `if a["from"] == zero: total += amount; else: balances[a["from"]] -= amount`. -/
def leave (v : ShareView) (e : ShareTransfer) : ShareView :=
  if e.src = 0 then { v with totalShares := v.totalShares + e.value }
  else v.credit e.src (-e.value)

/-- `if a["to"] == zero: total -= amount; else: balances[a["to"]] += amount`. -/
def arrive (v : ShareView) (e : ShareTransfer) : ShareView :=
  if e.dst = 0 then { v with totalShares := v.totalShares - e.value }
  else v.credit e.dst e.value

/-- `total < 0 or any(int(v) < 0 for v in balances.values())`. -/
def negative (v : ShareView) : Bool :=
  decide (v.totalShares < 0) || v.shareBalances.entries.any fun e => decide (e.2 < 0)

end ShareView

/-- The share branch of `replay`. -/
def foldTransfer (v : ShareView) (e : ShareTransfer) : Except String ShareView := do
  let v := (v.leave e).arrive e
  revertIf (v.negative = true) "share event conservation discrepancy; deployment history incomplete"
  return v

/-- The view equals the vault: the total, and the balance of every holder. -/
def ShareView.Equals (v : ShareView) (s : PoolState) : Prop :=
  v.totalShares = s.pool.vault.totalShares ∧ ∀ lp, v.balanceOf lp = s.pool.balanceOf lp

/-- The fold of the log comes through, and its view equals the vault. -/
def SharesProjected : Logged PoolState ShareTransfer → Prop :=
  Projects foldTransfer .empty ShareView.Equals

/-- Run a list of calls and collect the events. -/
def runShares (s : Logged PoolState ShareTransfer) :
    List (Msg × PoolCall) → Except Revert (Logged PoolState ShareTransfer)
  | [] => .ok s
  | (m, c) :: rest =>
    if m.sender ≠ 0 ∧ s.state.now ≤ m.now ∧ m.sender ≠ s.state.pool.vault.self then do
      let p ← s.state.pool.exec m c
      runShares ⟨{ now := m.now, pool := p }, s.log ++ s.state.transfers (m, c)⟩ rest
    else .error .panic

end Rackline
