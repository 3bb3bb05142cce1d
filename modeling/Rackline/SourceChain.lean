import Rackline.Evm.Token
import Rackline.PoolRun
import Rackline.SourceEscrow

/-!
# `Rackline.SourceChain`: the escrow and the tokens of its chain

`SourceEscrow` leaves the token outside. Here every token is a standard one: a movement is exact or
fails, nothing is taken in between, and nobody is called back. What `_pull` measured and whether
`_push` went through are then read off the token.

Anyone may move tokens of his own, into the escrow as well. The escrow itself only moves what
`_push` sends, and has approved nobody.
-/

set_option autoImplicit false

namespace Rackline

open Evm Transition

/-- The calls of the escrow that move no token and measure none. -/
def SourceCall.tokenless : SourceCall → Bool
  | .settle .. | .cancelPayout .. | .depositUnattributed .. | .recordDirectDeposit ..
  | .withdraw .. => false
  | _ => true

/-- The external calls of the escrow, as a sender makes them. -/
inductive SourceRequest
  | settle (accountKey : AccountKey) (obligationRef : Bytes32) (token : Address) (amount : Nat)
      (settlementId : Bytes32)
  | cancelPayout (seq : Nat)
  | depositUnattributed (token : Address) (amount : Nat)
  | recordDirectDeposit (token : Address)
  | withdraw (token dst : Address) (amount : Nat)
  | tokenless (call : { c : SourceCall // c.tokenless = true })

/-- The escrow and the tokens. -/
structure SourceChain where
  escrow : SourceEscrow
  tokens : Address → Token Address

namespace SourceChain

/-- `balanceOf` of the escrow. -/
def held (token : Address) (w : SourceChain) : Nat := (w.tokens token).balanceOf w.escrow.self

/-- The tokens with one of them replaced. -/
def setToken (token : Address) (t : Token Address) (w : SourceChain) : SourceChain :=
  { w with tokens := Function.update w.tokens token t }

/-- `_pull`: the growth of the escrow's balance, and the tokens after it. -/
def pull (token src : Address) (amount : Nat) (w : SourceChain) : Option (Nat × SourceChain) :=
  ((w.tokens token).transferFrom w.escrow.self src w.escrow.self amount).map fun t =>
    (t.balanceOf w.escrow.self - w.held token, w.setToken token t)

/-- `_push`. -/
def push (token dst : Address) (amount : Nat) (w : SourceChain) : Option SourceChain :=
  ((w.tokens token).transfer w.escrow.self dst amount).map fun t => w.setToken token t

/-- The call that a request is, with what the tokens answer. -/
def asCall (m : SourceMsg) (w : SourceChain) : SourceRequest → SourceCall
  | .settle accountKey obligationRef token amount settlementId =>
    .settle accountKey obligationRef token amount settlementId
      ((w.pull token m.sender amount).map (·.1))
  | .cancelPayout seq =>
    let p := w.escrow.payouts seq
    .cancelPayout seq (w.push p.token p.payer p.amount).isSome
  | .depositUnattributed token amount =>
    .depositUnattributed token amount ((w.pull token m.sender amount).map (·.1))
  | .recordDirectDeposit token => .recordDirectDeposit token (w.held token)
  | .withdraw token dst amount => .withdraw token amount (w.push token dst amount).isSome
  | .tokenless call => call.1

/-- The tokens after a request. -/
def tokensAfter (m : SourceMsg) (w : SourceChain) : SourceRequest → Address → Token Address
  | .settle _ _ token amount _ => ((w.pull token m.sender amount).map (·.2.tokens)).getD w.tokens
  | .cancelPayout seq =>
    let p := w.escrow.payouts seq
    ((w.push p.token p.payer p.amount).map (·.tokens)).getD w.tokens
  | .depositUnattributed token amount =>
    ((w.pull token m.sender amount).map (·.2.tokens)).getD w.tokens
  | .recordDirectDeposit _ => w.tokens
  | .withdraw token dst amount => ((w.push token dst amount).map (·.tokens)).getD w.tokens
  | .tokenless _ => w.tokens

/-- One external call of the escrow. -/
def request (m : SourceMsg) (w : SourceChain) (r : SourceRequest) :
    Except SourceRevert SourceChain := do
  let (_, escrow) ← w.escrow.call m (w.asCall m r)
  return { escrow := escrow, tokens := w.tokensAfter m r }

/-- A call of a token by `sender`. -/
def tokenCall (sender token : Address) (w : SourceChain) :
    TokenCall → Except SourceRevert SourceChain := fun call =>
  let t := w.tokens token
  let after := match call with
    | .transfer dst amount => t.transfer sender dst amount
    | .approve spender amount => some (t.approve sender spender amount)
    | .transferFrom src dst amount => t.transferFrom sender src dst amount
  match after with
  | none => .error .transferFailed
  | some t => .ok (w.setToken token t)

end SourceChain

/-! ### Runs -/

/-- What can happen on the chain: a call of the escrow, or a call of a token. -/
inductive ChainCall
  | escrow (request : SourceRequest)
  | token (token : Address) (call : TokenCall)

/-- Run a call. -/
def SourceChain.call (m : SourceMsg) (w : SourceChain) : ChainCall → Except SourceRevert SourceChain
  | .escrow r => w.request m r
  | .token token c => w.tokenCall m.sender token c

/-- A call and its context. -/
abbrev ChainTx := SourceMsg × ChainCall

/-- One successful transaction. The escrow sends none of its own. -/
def ChainStep (w : SourceChain) (tx : ChainTx) (w' : SourceChain) : Prop :=
  tx.1.sender ≠ w.escrow.self ∧ w.call tx.1 tx.2 = .ok w'

/-- The escrow just after deployment, over any tokens. It has approved nobody. -/
def SourceChain.Initial (w : SourceChain) : Prop :=
  (∃ self owner, w.escrow = .initial self owner) ∧
    ∀ token spender, (w.tokens token).allowance w.escrow.self spender = 0

/-- Run a list of transactions. -/
def SourceChain.run (w : SourceChain) : List ChainTx → Except SourceRevert SourceChain
  | [] => .ok w
  | tx :: rest => do
    let w ← w.call tx.1 tx.2
    run w rest

end Rackline
