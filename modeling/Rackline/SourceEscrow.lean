import Rackline.Types
import Rackline.Evm.Storage
import Rackline.Lib.Transition

/-!
# `Rackline.SourceEscrow`: the escrow on the source chain

`SourceEscrow.sol` keeps the obligations of an account, the payouts and the checkpoints. A call
returns the events that it emits, next to the new storage. Only the events that the destination
reads are kept: the anchor of statements, the unattributed deposits and the history of the roles are
never registered as revenue.

A recognition emits two events, `ObligationRecognized` and `ObligationRecognizedV2`, of which the
second also names the token.

The token is outside. `pulled` is the growth of its balance that `_pull` measured, `pushed` is
whether the transfer of `_push` went through. The lock is not part of the storage.
-/

set_option autoImplicit false

namespace Rackline

open Evm Transition

/-- `ISourceEscrow.ObligationStatus`. -/
inductive ObligationStatus
  | none | open_ | paid | cancelled
deriving DecidableEq, Repr

/-- `ISourceEscrow.CorrectionReason`. -/
inductive CorrectionReason
  | dispute | refund | sla | cancel | other
deriving DecidableEq, Repr

/-- `uint8(reason)`. -/
def CorrectionReason.code : CorrectionReason → Nat
  | dispute => 0
  | refund => 1
  | sla => 2
  | cancel => 3
  | other => 4

/-- `ISourceEscrow.Obligation`. `assignedTo` is the facility key, or zero. -/
structure Obligation where
  accountKey : AccountKey
  payer : Address
  token : Address
  net : Nat
  paid : Nat
  dueAt : Nat
  revision : Nat
  assignedTo : Bytes32
  status : ObligationStatus

/-- The zero value of a storage struct. -/
def Obligation.empty : Obligation :=
  { accountKey := 0, payer := 0, token := 0, net := 0, paid := 0, dueAt := 0, revision := 0,
    assignedTo := 0, status := .none }

/-- `ISourceEscrow.Payout`. -/
structure Payout where
  accountKey : AccountKey
  obligationRef : Bytes32
  token : Address
  payer : Address
  amount : Nat
  cancelled : Bool

/-- The zero value of a storage struct. -/
def Payout.empty : Payout :=
  { accountKey := 0, obligationRef := 0, token := 0, payer := 0, amount := 0, cancelled := false }

/-- `SourceEscrow.TokenInfo`. -/
structure TokenInfo where
  admitted : Bool
  decimals : Nat
  nonstandardAllowed : Bool

/-- The events that the receivable book reads. -/
inductive SourceEvent
  | obligationRecognized (accountKey : AccountKey) (obligationRef : Bytes32)
      (issuer payer payee : Address) (amount dueAt revision : Nat)
  | obligationRecognizedV2 (accountKey : AccountKey) (obligationRef : Bytes32)
      (issuer payer payee token : Address) (amount dueAt revision : Nat)
  | obligationAssigned (accountKey : AccountKey) (obligationRef facilityKey : Bytes32)
      (revision : Nat)
  | obligationCorrected (accountKey : AccountKey) (obligationRef : Bytes32) (delta : Int)
      (revision reason : Nat)
  | payoutReceived (accountKey : AccountKey) (obligationRef : Bytes32) (token payer : Address)
      (amount settlementSeq : Nat)
  | payoutCancelled (accountKey : AccountKey) (obligationRef : Bytes32)
      (settlementSeq amount : Nat)
  | sourceCheckpoint (accountKey : AccountKey) (checkpointSeq latestRevision openAmount
      paidCumulative : Nat)
  | sourceCheckpointV2 (accountKey : AccountKey) (checkpointSeq latestRevision openAmount
      paidCumulative observedAt protectedUntil : Nat)
deriving DecidableEq

/-- The errors of `ISourceEscrow`, and the panic. -/
inductive SourceRevert
  | panic
  | notOwner (caller : Address)
  | notIssuer (caller : Address)
  | notIssuerOrController (caller : Address)
  | notRegisteredPayer (caller : Address)
  | payerIsBorrowerWallet (account : Address)
  | tokenNotAdmitted (token : Address)
  | accountUnknown (accountKey : AccountKey)
  | accountReserved (accountKey : AccountKey) (protectedUntil : Nat)
  | obligationExists (accountKey : AccountKey) (obligationRef : Bytes32)
  | obligationNotOpen (accountKey : AccountKey) (obligationRef : Bytes32) (status : ObligationStatus)
  | obligationTokenMismatch (expected actual : Address)
  | alreadyAssigned (obligationRef facilityKey : Bytes32)
  | correctionBelowPaid (paid : Nat) (delta : Int)
  | cancelMustZeroOpenAmount (openBefore : Nat) (delta : Int)
  | invalidReservationWindow
  | zeroAmount
  | settlementIdUsed (payer : Address) (settlementId : Bytes32)
  | measuredDeltaMismatch (declared measured : Nat)
  | overpayment (remaining measured : Nat)
  | payoutUnknown (settlementSeq : Nat)
  | payoutAlreadyCancelled (settlementSeq : Nat)
  | noUnattributedBalance (token : Address)
  | transferFailed

instance : Panics SourceRevert := ⟨.panic⟩

/-- The storage of `SourceEscrow`, with `self` for `address(this)`. -/
structure SourceEscrow where
  self : Address
  owner : Address
  issuers : Address → Bool
  controllers : Address → Bool
  payers : Address → Bool
  tokenInfo : Address → TokenInfo
  borrowerWallet : AccountKey → Address
  isBorrowerWallet : Address → Bool
  obligations : AccountKey → Bytes32 → Obligation
  latestRevision : AccountKey → Nat
  openAmount : AccountKey → Nat
  paidCumulative : AccountKey → Nat
  checkpointSeq : AccountKey → Nat
  protectedUntil : AccountKey → Nat
  accountToken : AccountKey → Address
  settlementUsed : Address → Bytes32 → Bool
  payouts : Nat → Payout
  settlementSeq : Nat
  depositSeq : Nat
  tracked : Address → Nat
  unattributed : Address → Nat

/-- The escrow after deployment. -/
def SourceEscrow.initial (self owner : Address) : SourceEscrow where
  self := self
  owner := owner
  issuers := fun _ => false
  controllers := fun _ => false
  payers := fun _ => false
  tokenInfo := fun _ => ⟨false, 0, false⟩
  borrowerWallet := fun _ => 0
  isBorrowerWallet := fun _ => false
  obligations := fun _ _ => .empty
  latestRevision := fun _ => 0
  openAmount := fun _ => 0
  paidCumulative := fun _ => 0
  checkpointSeq := fun _ => 0
  protectedUntil := fun _ => 0
  accountToken := fun _ => 0
  settlementUsed := fun _ _ => false
  payouts := fun _ => .empty
  settlementSeq := 0
  depositSeq := 0
  tracked := fun _ => 0
  unattributed := fun _ => 0

/-- `MAX_RESERVATION`: 15 minutes. -/
def maxReservation : Nat := 15 * 60

/-- `msg.sender` and `block.timestamp` on the source chain. -/
structure SourceMsg where
  sender : Address
  now : Nat

/-- `newNet` of a correction, as both chains compute it: `below` is the error of a net amount under
the paid one. The negation of the least `int256` is a panic. -/
def correctedNet {ε : Type} [Panics ε] (below : ε) (net paid : Nat) (delta : Int) :
    Except ε Nat :=
  if delta < 0 then do
    revertIf (delta = -(2 : Int) ^ 255) Panics.panic
    let dec := (-delta).toNat
    revertIf (dec > net ∨ net - dec < paid) below
    return net - dec
  else
    addW 256 net delta.toNat

namespace SourceEscrow

/-! ### Roles and registration -/

/-- The modifier `onlyOwner`. -/
def onlyOwner (m : SourceMsg) (e : SourceEscrow) : Except SourceRevert Unit :=
  revertIf (m.sender ≠ e.owner) (.notOwner m.sender)

/-- The modifier `onlyIssuer`. -/
def onlyIssuer (m : SourceMsg) (e : SourceEscrow) : Except SourceRevert Unit :=
  revertIf (e.issuers m.sender = false) (.notIssuer m.sender)

/-- `transferOwnership`. -/
def transferOwnership (m : SourceMsg) (newOwner : Address) (e : SourceEscrow) :
    Except SourceRevert SourceEscrow := do
  e.onlyOwner m
  return { e with owner := newOwner }

/-- `setIssuer`. -/
def setIssuer (m : SourceMsg) (account : Address) (enabled : Bool) (e : SourceEscrow) :
    Except SourceRevert SourceEscrow := do
  e.onlyOwner m
  return { e with issuers := Function.update e.issuers account enabled }

/-- `setController`. -/
def setController (m : SourceMsg) (account : Address) (enabled : Bool) (e : SourceEscrow) :
    Except SourceRevert SourceEscrow := do
  e.onlyOwner m
  return { e with controllers := Function.update e.controllers account enabled }

/-- `setPayer`. -/
def setPayer (m : SourceMsg) (account : Address) (enabled : Bool) (e : SourceEscrow) :
    Except SourceRevert SourceEscrow := do
  e.onlyOwner m
  revertIf (enabled = true ∧ e.isBorrowerWallet account = true) (.payerIsBorrowerWallet account)
  return { e with payers := Function.update e.payers account enabled }

/-- `registerAccount`. The wallet that the account had before is released. -/
def registerAccount (m : SourceMsg) (accountKey : AccountKey) (wallet : Address)
    (e : SourceEscrow) : Except SourceRevert SourceEscrow := do
  e.onlyOwner m
  revertIf (e.payers wallet = true) (.payerIsBorrowerWallet wallet)
  let previous := e.borrowerWallet accountKey
  let released :=
    if previous ≠ 0 then Function.update e.isBorrowerWallet previous false else e.isBorrowerWallet
  return { e with
    borrowerWallet := Function.update e.borrowerWallet accountKey wallet
    isBorrowerWallet := Function.update released wallet true }

/-- `admitToken`. -/
def admitToken (m : SourceMsg) (token : Address) (decimals : Nat) (nonstandardAllowed : Bool)
    (e : SourceEscrow) : Except SourceRevert SourceEscrow := do
  e.onlyOwner m
  let info : TokenInfo :=
    { admitted := true, decimals := decimals, nonstandardAllowed := nonstandardAllowed }
  return { e with tokenInfo := Function.update e.tokenInfo token info }

/-! ### Obligations -/

/-- `_requireUnreserved`. -/
def requireUnreserved (now : Nat) (accountKey : AccountKey) (e : SourceEscrow) :
    Except SourceRevert Unit :=
  revertIf (now < e.protectedUntil accountKey)
    (.accountReserved accountKey (e.protectedUntil accountKey))

/-- `_bumpAccountRevision`. -/
def bumpAccountRevision (accountKey : AccountKey) (e : SourceEscrow) :
    Except SourceRevert SourceEscrow := do
  let revision ← addW 32 (e.latestRevision accountKey) 1
  return { e with latestRevision := Function.update e.latestRevision accountKey revision }

/-- `recognizeObligation`. -/
def recognizeObligation (m : SourceMsg) (accountKey : AccountKey) (obligationRef : Bytes32)
    (payer token : Address) (amount dueAt : Nat) (e : SourceEscrow) :
    Except SourceRevert (List SourceEvent × SourceEscrow) := do
  e.onlyIssuer m
  e.requireUnreserved m.now accountKey
  revertIf (e.borrowerWallet accountKey = 0) (.accountUnknown accountKey)
  revertIf ((e.tokenInfo token).admitted = false) (.tokenNotAdmitted token)
  revertIf (amount = 0) .zeroAmount
  revertIf (e.accountToken accountKey ≠ 0 ∧ e.accountToken accountKey ≠ token)
    (.obligationTokenMismatch (e.accountToken accountKey) token)
  let o := e.obligations accountKey obligationRef
  revertIf (o.status ≠ .none) (.obligationExists accountKey obligationRef)
  let openAmount ← addW 256 (e.openAmount accountKey) amount
  let recognized : Obligation :=
    { o with
      accountKey := accountKey
      payer := payer
      token := token
      net := amount
      dueAt := dueAt
      revision := 1
      status := .open_ }
  let e := { e with
    accountToken := Function.update e.accountToken accountKey token
    obligations := set2 e.obligations accountKey obligationRef recognized
    openAmount := Function.update e.openAmount accountKey openAmount }
  let e ← e.bumpAccountRevision accountKey
  return ([.obligationRecognized accountKey obligationRef m.sender payer e.self amount dueAt 1,
    .obligationRecognizedV2 accountKey obligationRef m.sender payer e.self token amount dueAt 1], e)

/-- `assignObligation`. -/
def assignObligation (m : SourceMsg) (accountKey : AccountKey) (obligationRef facilityKey : Bytes32)
    (e : SourceEscrow) : Except SourceRevert (List SourceEvent × SourceEscrow) := do
  e.requireUnreserved m.now accountKey
  revertIf (e.issuers m.sender = false ∧ e.controllers m.sender = false)
    (.notIssuerOrController m.sender)
  let o := e.obligations accountKey obligationRef
  revertIf (o.status ≠ .open_) (.obligationNotOpen accountKey obligationRef o.status)
  revertIf (o.assignedTo ≠ 0 ∧ o.assignedTo ≠ facilityKey)
    (.alreadyAssigned obligationRef o.assignedTo)
  let revision ← addW 32 o.revision 1
  let assigned : Obligation := { o with assignedTo := facilityKey, revision := revision }
  let e := { e with obligations := set2 e.obligations accountKey obligationRef assigned }
  let e ← e.bumpAccountRevision accountKey
  return ([.obligationAssigned accountKey obligationRef facilityKey revision], e)

/-- The status after a correction. A cancellation has to leave nothing open. -/
def correctedStatus (reason : CorrectionReason) (openBefore openAfter : Nat) (delta : Int)
    (status : ObligationStatus) : Except SourceRevert ObligationStatus :=
  if reason = .cancel then do
    revertIf (openAfter ≠ 0) (.cancelMustZeroOpenAmount openBefore delta)
    return .cancelled
  else .ok status

/-- `correctObligation`. -/
def correctObligation (m : SourceMsg) (accountKey : AccountKey) (obligationRef : Bytes32)
    (delta : Int) (reason : CorrectionReason) (e : SourceEscrow) :
    Except SourceRevert (List SourceEvent × SourceEscrow) := do
  e.onlyIssuer m
  e.requireUnreserved m.now accountKey
  let o := e.obligations accountKey obligationRef
  revertIf (o.status ≠ .open_) (.obligationNotOpen accountKey obligationRef o.status)
  let newNet ← correctedNet (.correctionBelowPaid o.paid delta) o.net o.paid delta
  let openBefore ← subW o.net o.paid
  let openAfter ← subW newNet o.paid
  let status ← correctedStatus reason openBefore openAfter delta o.status
  let rest ← subW (e.openAmount accountKey) openBefore
  let openAmount ← addW 256 rest openAfter
  let revision ← addW 32 o.revision 1
  let corrected : Obligation := { o with net := newNet, status := status, revision := revision }
  let e := { e with
    obligations := set2 e.obligations accountKey obligationRef corrected
    openAmount := Function.update e.openAmount accountKey openAmount }
  let e ← e.bumpAccountRevision accountKey
  return ([.obligationCorrected accountKey obligationRef delta revision reason.code], e)

/-! ### Checkpoints -/

/-- `publishCheckpoint`. -/
def publishCheckpoint (m : SourceMsg) (accountKey : AccountKey) (e : SourceEscrow) :
    Except SourceRevert (List SourceEvent × SourceEscrow) := do
  e.onlyIssuer m
  revertIf (e.borrowerWallet accountKey = 0) (.accountUnknown accountKey)
  let seq ← addW 64 (e.checkpointSeq accountKey) 1
  return ([.sourceCheckpoint accountKey seq (e.latestRevision accountKey) (e.openAmount accountKey)
      (e.paidCumulative accountKey)],
    { e with checkpointSeq := Function.update e.checkpointSeq accountKey seq })

/-- `reserveCheckpoint`. -/
def reserveCheckpoint (m : SourceMsg) (accountKey : AccountKey) (until_ : Nat) (e : SourceEscrow) :
    Except SourceRevert (List SourceEvent × SourceEscrow) := do
  e.onlyIssuer m
  e.requireUnreserved m.now accountKey
  revertIf (e.borrowerWallet accountKey = 0) (.accountUnknown accountKey)
  revertIf (until_ ≤ m.now ∨ until_ > m.now + maxReservation) .invalidReservationWindow
  let seq ← addW 64 (e.checkpointSeq accountKey) 1
  return ([.sourceCheckpointV2 accountKey seq (e.latestRevision accountKey)
      (e.openAmount accountKey) (e.paidCumulative accountKey) m.now until_],
    { e with
      protectedUntil := Function.update e.protectedUntil accountKey until_
      checkpointSeq := Function.update e.checkpointSeq accountKey seq })

/-! ### Settlements -/

/-- What a settlement of `measured` does to its obligation, if it names one. -/
def settleObligation (accountKey : AccountKey) (obligationRef : Bytes32) (token : Address)
    (measured : Nat) (e : SourceEscrow) : Except SourceRevert SourceEscrow :=
  if obligationRef = 0 then .ok e
  else do
    let o := e.obligations accountKey obligationRef
    revertIf (o.status ≠ .open_) (.obligationNotOpen accountKey obligationRef o.status)
    revertIf (o.token ≠ token) (.obligationTokenMismatch o.token token)
    let remaining ← subW o.net o.paid
    revertIf (measured > remaining) (.overpayment remaining measured)
    let paid ← addW 256 o.paid measured
    let openAmount ← subW (e.openAmount accountKey) measured
    let revision ← addW 32 o.revision 1
    let settled : Obligation :=
      { o with
        paid := paid
        status := if paid = o.net then .paid else o.status
        revision := revision }
    let e := { e with
      obligations := set2 e.obligations accountKey obligationRef settled
      openAmount := Function.update e.openAmount accountKey openAmount }
    e.bumpAccountRevision accountKey

/-- `settle`, without its return value. A settlement without an obligation reference is recorded,
but touches no obligation. -/
def settle (m : SourceMsg) (accountKey : AccountKey) (obligationRef : Bytes32) (token : Address)
    (amount : Nat) (settlementId : Bytes32) (pulled : Option Nat) (e : SourceEscrow) :
    Except SourceRevert (List SourceEvent × SourceEscrow) := do
  e.requireUnreserved m.now accountKey
  revertIf (e.payers m.sender = false) (.notRegisteredPayer m.sender)
  revertIf (e.borrowerWallet accountKey = 0) (.accountUnknown accountKey)
  revertIf ((e.tokenInfo token).admitted = false) (.tokenNotAdmitted token)
  revertIf (amount = 0) .zeroAmount
  revertIf (e.settlementUsed m.sender settlementId = true) (.settlementIdUsed m.sender settlementId)
  match pulled with
  | none => .error .transferFailed
  | some measured =>
    revertIf (measured ≠ amount ∧ (e.tokenInfo token).nonstandardAllowed = false)
      (.measuredDeltaMismatch amount measured)
    revertIf (measured = 0) .zeroAmount
    let e := { e with settlementUsed := set2 e.settlementUsed m.sender settlementId true }
    let e ← e.settleObligation accountKey obligationRef token measured
    let paidCumulative ← addW 256 (e.paidCumulative accountKey) measured
    let tracked ← addW 256 (e.tracked token) measured
    let seq ← addW 64 e.settlementSeq 1
    let payout : Payout :=
      { accountKey := accountKey, obligationRef := obligationRef, token := token,
        payer := m.sender, amount := measured, cancelled := false }
    return ([.payoutReceived accountKey obligationRef token m.sender measured seq],
      { e with
        paidCumulative := Function.update e.paidCumulative accountKey paidCumulative
        tracked := Function.update e.tracked token tracked
        settlementSeq := seq
        payouts := Function.update e.payouts seq payout })

/-- What the cancellation of a payout of `amount` does to its obligation, if it names one. -/
def unsettleObligation (accountKey : AccountKey) (obligationRef : Bytes32) (amount : Nat)
    (e : SourceEscrow) : Except SourceRevert SourceEscrow :=
  if obligationRef = 0 then .ok e
  else do
    let o := e.obligations accountKey obligationRef
    let paid ← subW o.paid amount
    let openAmount ← addW 256 (e.openAmount accountKey) amount
    let revision ← addW 32 o.revision 1
    let unsettled : Obligation :=
      { o with
        paid := paid
        status := if o.status = .paid then .open_ else o.status
        revision := revision }
    let e := { e with
      obligations := set2 e.obligations accountKey obligationRef unsettled
      openAmount := Function.update e.openAmount accountKey openAmount }
    e.bumpAccountRevision accountKey

/-- `cancelPayout`. -/
def cancelPayout (m : SourceMsg) (seq : Nat) (pushed : Bool) (e : SourceEscrow) :
    Except SourceRevert (List SourceEvent × SourceEscrow) := do
  e.onlyIssuer m
  let p := e.payouts seq
  e.requireUnreserved m.now p.accountKey
  revertIf (p.payer = 0) (.payoutUnknown seq)
  revertIf (p.cancelled = true) (.payoutAlreadyCancelled seq)
  let e := { e with payouts := Function.update e.payouts seq { p with cancelled := true } }
  let e ← e.unsettleObligation p.accountKey p.obligationRef p.amount
  let paidCumulative ← subW (e.paidCumulative p.accountKey) p.amount
  let tracked ← subW (e.tracked p.token) p.amount
  revertIf (pushed = false) .transferFailed
  return ([.payoutCancelled p.accountKey p.obligationRef seq p.amount],
    { e with
      paidCumulative := Function.update e.paidCumulative p.accountKey paidCumulative
      tracked := Function.update e.tracked p.token tracked })

/-! ### Deposits and the treasury -/

/-- `_recordUnattributed`. -/
def recordUnattributed (token : Address) (measured : Nat) (e : SourceEscrow) :
    Except SourceRevert SourceEscrow := do
  let tracked ← addW 256 (e.tracked token) measured
  let unattributed ← addW 256 (e.unattributed token) measured
  let seq ← addW 64 e.depositSeq 1
  return { e with
    tracked := Function.update e.tracked token tracked
    unattributed := Function.update e.unattributed token unattributed
    depositSeq := seq }

/-- `depositUnattributed`, without its return value. -/
def depositUnattributed (token : Address) (amount : Nat) (pulled : Option Nat) (e : SourceEscrow) :
    Except SourceRevert SourceEscrow := do
  revertIf ((e.tokenInfo token).admitted = false) (.tokenNotAdmitted token)
  revertIf (amount = 0) .zeroAmount
  match pulled with
  | none => .error .transferFailed
  | some measured =>
    revertIf (measured = 0) .zeroAmount
    e.recordUnattributed token measured

/-- `recordDirectDeposit`, without its return value, at the token balance `balance`. -/
def recordDirectDeposit (token : Address) (balance : Nat) (e : SourceEscrow) :
    Except SourceRevert SourceEscrow := do
  revertIf ((e.tokenInfo token).admitted = false) (.tokenNotAdmitted token)
  revertIf (balance ≤ e.tracked token) (.noUnattributedBalance token)
  e.recordUnattributed token (balance - e.tracked token)

/-- `withdraw`. -/
def withdraw (m : SourceMsg) (token : Address) (amount : Nat) (pushed : Bool) (e : SourceEscrow) :
    Except SourceRevert SourceEscrow := do
  e.onlyOwner m
  revertIf (amount = 0) .zeroAmount
  let fromUnattributed := if amount ≤ e.unattributed token then amount else e.unattributed token
  let tracked ← subW (e.tracked token) amount
  revertIf (pushed = false) .transferFailed
  return { e with
    unattributed :=
      Function.update e.unattributed token (e.unattributed token - fromUnattributed)
    tracked := Function.update e.tracked token tracked }

end SourceEscrow

/-! ### Runs -/

/-- The external calls of `SourceEscrow`. -/
inductive SourceCall
  | transferOwnership (newOwner : Address)
  | setIssuer (account : Address) (enabled : Bool)
  | setController (account : Address) (enabled : Bool)
  | setPayer (account : Address) (enabled : Bool)
  | registerAccount (accountKey : AccountKey) (wallet : Address)
  | admitToken (token : Address) (decimals : Nat) (nonstandardAllowed : Bool)
  | recognizeObligation (accountKey : AccountKey) (obligationRef : Bytes32) (payer token : Address)
      (amount dueAt : Nat)
  | assignObligation (accountKey : AccountKey) (obligationRef facilityKey : Bytes32)
  | correctObligation (accountKey : AccountKey) (obligationRef : Bytes32) (delta : Int)
      (reason : CorrectionReason)
  | publishCheckpoint (accountKey : AccountKey)
  | reserveCheckpoint (accountKey : AccountKey) (until_ : Nat)
  | settle (accountKey : AccountKey) (obligationRef : Bytes32) (token : Address) (amount : Nat)
      (settlementId : Bytes32) (pulled : Option Nat)
  | cancelPayout (seq : Nat) (pushed : Bool)
  | depositUnattributed (token : Address) (amount : Nat) (pulled : Option Nat)
  | recordDirectDeposit (token : Address) (balance : Nat)
  | withdraw (token : Address) (amount : Nat) (pushed : Bool)

/-- A call that emits no log that the book reads. -/
def SourceEscrow.quiet (x : Except SourceRevert SourceEscrow) :
    Except SourceRevert (List SourceEvent × SourceEscrow) :=
  x.map fun e => ([], e)

/-- One external call of the escrow. -/
def SourceEscrow.call (m : SourceMsg) (e : SourceEscrow) :
    SourceCall → Except SourceRevert (List SourceEvent × SourceEscrow)
  | .transferOwnership newOwner => quiet (e.transferOwnership m newOwner)
  | .setIssuer account enabled => quiet (e.setIssuer m account enabled)
  | .setController account enabled => quiet (e.setController m account enabled)
  | .setPayer account enabled => quiet (e.setPayer m account enabled)
  | .registerAccount accountKey wallet => quiet (e.registerAccount m accountKey wallet)
  | .admitToken token decimals nonstandardAllowed =>
    quiet (e.admitToken m token decimals nonstandardAllowed)
  | .recognizeObligation accountKey obligationRef payer token amount dueAt =>
    e.recognizeObligation m accountKey obligationRef payer token amount dueAt
  | .assignObligation accountKey obligationRef facilityKey =>
    e.assignObligation m accountKey obligationRef facilityKey
  | .correctObligation accountKey obligationRef delta reason =>
    e.correctObligation m accountKey obligationRef delta reason
  | .publishCheckpoint accountKey => e.publishCheckpoint m accountKey
  | .reserveCheckpoint accountKey until_ => e.reserveCheckpoint m accountKey until_
  | .settle accountKey obligationRef token amount settlementId pulled =>
    e.settle m accountKey obligationRef token amount settlementId pulled
  | .cancelPayout seq pushed => e.cancelPayout m seq pushed
  | .depositUnattributed token amount pulled => quiet (e.depositUnattributed token amount pulled)
  | .recordDirectDeposit token balance => quiet (e.recordDirectDeposit token balance)
  | .withdraw token amount pushed => quiet (e.withdraw m token amount pushed)

/-- A call and its context. -/
abbrev SourceTx := SourceMsg × SourceCall

/-- One successful transaction of the escrow, with any token. -/
def SourceStep (e : SourceEscrow) (tx : SourceTx) (e' : SourceEscrow) : Prop :=
  ∃ events, e.call tx.1 tx.2 = .ok (events, e')

/-- The escrow just after deployment. -/
def SourceEscrow.Initial (e : SourceEscrow) : Prop := ∃ self owner, e = .initial self owner

/-- The states of any run of the escrow. -/
def SourceReachable : SourceEscrow → Prop := Reachable SourceEscrow.Initial SourceStep

/-- Run a list of transactions. -/
def SourceEscrow.run (e : SourceEscrow) : List SourceTx → Except SourceRevert SourceEscrow
  | [] => .ok e
  | tx :: rest => do
    let (_, e) ← e.call tx.1 tx.2
    run e rest

theorem SourceEscrow.run_steps : ∀ {txs : List SourceTx} {e e' : SourceEscrow},
    e.run txs = .ok e' → Steps SourceStep e txs e' := by
  intro txs
  induction txs with
  | nil =>
    intro e e' h
    cases h
    exact .nil e
  | cons tx rest ih =>
    intro e e' h
    obtain ⟨⟨events, e₁⟩, hcall, h⟩ := bind_eq_ok.mp h
    exact .cons ⟨events, hcall⟩ (ih h)

/-- A run that returned, and a view of where it ended. -/
theorem SourceEscrow.run_view {α : Type} (e : SourceEscrow) (txs : List SourceTx)
    (view : SourceEscrow → α) {v : α} (h : ((e.run txs).map view).toOption = some v) :
    ∃ e', e.run txs = .ok e' ∧ view e' = v :=
  map_eq_ok.mp (toOption_eq_some.mp h)

end Rackline
