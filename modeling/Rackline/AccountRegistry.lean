import Rackline.Types
import Rackline.Evm.Storage
import Rackline.Lib.Transition

/-!
# `Rackline.AccountRegistry`: borrowers, wallets and provider accounts

`AccountRegistry.sol`. A wallet signs that it belongs to a borrower, and is released before it can
be linked again. A provider account has a history of links with the time of each, of which the last
may be open.

Zero is a sentinel twice: a `_walletOwner` of zero is a wallet without a borrower, and a `to` of
zero is an open link. `linkWallet` links whatever `borrowerId` the wallet has signed.

What a call reads from outside comes with the call (`AccountEnv`). Events are left out.
-/

set_option autoImplicit false

namespace Rackline

open Evm Transition

/-- The reverts of `AccountRegistry`. -/
inductive AccountRevert
  | notRegistrar (caller : Address)
  | walletAlreadyLinked (wallet : Address) (borrowerId : Bytes32)
  | walletNotLinked (wallet : Address)
  | providerNotRegistered (providerId : ProviderId)
  | accountAlreadyLinked (accountKey : AccountKey) (borrowerId : Bytes32)
  | accountNotLinked (accountKey : AccountKey)
  /-- The error of `AuthorizationVerifier`. -/
  | assertion
deriving DecidableEq

/-- `AccountRegistry.AccountLink`. -/
structure AccountLink where
  borrowerId : Bytes32
  from_ : Nat
  /-- Zero is open. -/
  to_ : Nat
deriving DecidableEq

/-- The storage of `AccountRegistry`. The last link of a history is the latest. -/
structure AccountRegistry where
  walletOwner : Address → Bytes32
  isWallet : Bytes32 → Address → Bool
  accountHistory : AccountKey → List AccountLink
  accountProvider : AccountKey → ProviderId

/-- The registry after deployment. -/
def AccountRegistry.initial : AccountRegistry where
  walletOwner := fun _ => 0
  isWallet := fun _ _ => false
  accountHistory := fun _ => []
  accountProvider := fun _ => 0

/-- What a call reads from other contracts: whether `AUTH.verifyAndConsume` takes the assertion of
a wallet for `walletLinkSubject(borrowerId, wallet)`, and `_providerExists`. -/
structure AccountEnv where
  verifyAndConsume : Bytes32 → Address → Bool
  providerExists : ProviderId → Bool

namespace AccountRegistry

variable (m : Msg) (env : AccountEnv) (r : AccountRegistry)

/-! ### Wallets -/

/-- `linkWallet`, for an assertion with this signer. -/
def linkWallet (borrowerId : Bytes32) (wallet : Address) : Except AccountRevert AccountRegistry := do
  revertIf (m.sender ≠ wallet ∧ m.hasRole .registrar m.sender = false) (.notRegistrar m.sender)
  let existing := r.walletOwner wallet
  revertIf (existing ≠ 0) (.walletAlreadyLinked wallet existing)
  revertIf (env.verifyAndConsume borrowerId wallet = false) .assertion
  return { r with
    walletOwner := Function.update r.walletOwner wallet borrowerId
    isWallet := set2 r.isWallet borrowerId wallet true }

/-- `releaseWallet`. -/
def releaseWallet (wallet : Address) : Except AccountRevert AccountRegistry := do
  let borrowerId := r.walletOwner wallet
  revertIf (borrowerId = 0) (.walletNotLinked wallet)
  revertIf (m.sender ≠ wallet ∧ m.hasRole .registrar m.sender = false) (.notRegistrar m.sender)
  return { r with
    walletOwner := Function.update r.walletOwner wallet 0
    isWallet := set2 r.isWallet borrowerId wallet false }

/-! ### Provider accounts -/

/-- The last link of a history, when it is open. -/
def openLink (key : AccountKey) : Option AccountLink :=
  (r.accountHistory key).getLast?.filter fun l => l.to_ == 0

/-- `linkAccount`. -/
def linkAccount (borrowerId : Bytes32) (providerId : ProviderId) (key : AccountKey) :
    Except AccountRevert AccountRegistry := do
  revertIf (m.hasRole .registrar m.sender = false) (.notRegistrar m.sender)
  revertIf (env.providerExists providerId = false) (.providerNotRegistered providerId)
  match r.openLink key with
  | some last => .error (.accountAlreadyLinked key last.borrowerId)
  | none =>
    return { r with
      accountHistory := Function.update r.accountHistory key
        (r.accountHistory key ++ [{ borrowerId := borrowerId, from_ := m.now, to_ := 0 }])
      accountProvider := Function.update r.accountProvider key providerId }

/-- `unlinkAccount`. -/
def unlinkAccount (key : AccountKey) : Except AccountRevert AccountRegistry := do
  revertIf (m.hasRole .registrar m.sender = false) (.notRegistrar m.sender)
  match r.openLink key with
  | none => .error (.accountNotLinked key)
  | some last =>
    return { r with
      accountHistory := Function.update r.accountHistory key
        ((r.accountHistory key).dropLast ++ [{ last with to_ := m.now }]) }

/-! ### Views -/

/-- `borrowerOfAccount`. -/
def borrowerOfAccount (key : AccountKey) : Bytes32 :=
  match r.openLink key with
  | none => 0
  | some last => last.borrowerId

/-- `borrowerOfAccountAt`: the loop over the history, from its end. -/
def borrowerOfAccountAt (key : AccountKey) (at_ : Nat) : Bytes32 :=
  match (r.accountHistory key).reverse.find? fun l =>
      decide (l.from_ ≤ at_ ∧ (l.to_ = 0 ∨ at_ < l.to_)) with
  | none => 0
  | some l => l.borrowerId

/-- `borrowerOfWallet`. -/
def borrowerOfWallet (wallet : Address) : Bytes32 := r.walletOwner wallet

/-- `isWalletOf`. -/
def isWalletOf (borrowerId : Bytes32) (wallet : Address) : Bool := r.isWallet borrowerId wallet

end AccountRegistry

/-! ### Runs -/

/-- The external calls of `AccountRegistry` that write. -/
inductive AccountCall
  | linkWallet (borrowerId : Bytes32) (wallet : Address)
  | releaseWallet (wallet : Address)
  | linkAccount (borrowerId : Bytes32) (providerId : ProviderId) (key : AccountKey)
  | unlinkAccount (key : AccountKey)

/-- Run a call of the registry. -/
def AccountCall.exec (m : Msg) (env : AccountEnv) (r : AccountRegistry) :
    AccountCall → Except AccountRevert AccountRegistry
  | linkWallet borrowerId wallet => r.linkWallet m env borrowerId wallet
  | releaseWallet wallet => r.releaseWallet m wallet
  | linkAccount borrowerId providerId key => r.linkAccount m env borrowerId providerId key
  | unlinkAccount key => r.unlinkAccount m key

/-- A transaction of the registry. -/
structure AccountTx where
  msg : Msg
  env : AccountEnv
  call : AccountCall

/-- One successful transaction. -/
def BindingStep (r : AccountRegistry) (tx : AccountTx) (r' : AccountRegistry) : Prop :=
  tx.call.exec tx.msg tx.env r = .ok r'

/-- Run a list of transactions, as long as they succeed. -/
def AccountRegistry.run (r : AccountRegistry) : List AccountTx → Option AccountRegistry
  | [] => some r
  | tx :: rest => (tx.call.exec tx.msg tx.env r).toOption.bind fun r' => run r' rest

theorem AccountRegistry.run_steps : ∀ {txs : List AccountTx} {r r' : AccountRegistry},
    r.run txs = some r' → Steps BindingStep r txs r' := by
  intro txs
  induction txs with
  | nil =>
    intro r r' h
    cases h
    exact .nil r
  | cons tx rest ih =>
    intro r r' h
    obtain ⟨mid, hexec, h⟩ := Option.bind_eq_some_iff.mp h
    exact .cons (toOption_eq_some.mp hexec) (ih h)

end Rackline
