import Rackline.AccountRegistry
import Rackline.CreditRun

/-!
# `Rackline.AuthorizationVerifier`: signed assertions and what they are spent on

`AuthorizationVerifier.sol` checks an assertion (its purpose, its subject, its times, the epoch of its
signer and the signature) and marks its nonce as used. Two contracts ask it to: `linkWallet` of the
account registry for a `WALLET_LINK`, and `anchorAuthorization` of the facility manager for a
`CREDIT_APPROVAL`. Anybody else may ask as well, since `verifyAndConsume` does not look at its caller.

The three contracts run together here: a call of the registry or the manager gets the answer of the
verifier as it is, and marks the nonce in the same transaction. Hashes, `ecrecover` and the answers of
contract wallets are parameters. Events are left out.
-/

set_option autoImplicit false

namespace Rackline

open Evm Transition

/-- `GpuTypes.AssertionPurpose`. -/
inductive AssertionPurpose
  | walletLink | agreementConsent | creditApproval | controlAttestation | relay | treasuryOp
deriving DecidableEq, Repr

/-- `GpuTypes.SupplementaryAssertion`, the whole struct. -/
structure Assertion where
  purpose : AssertionPurpose
  subject : Bytes32
  signer : Address
  keyEpoch : Nat
  nonce : Nat
  issuedAt : Nat
  expiresAt : Nat
  signature : List UInt8
deriving DecidableEq

/-- The parts that the manager reads. -/
def Assertion.approval (a : Assertion) : SupplementaryAssertion :=
  { signer := a.signer, keyEpoch := a.keyEpoch }

/-- The reverts of `AuthorizationVerifier`. -/
inductive VerifierRevert
  | wrongPurpose (expected actual : AssertionPurpose)
  | badSignature (expectedSigner : Address)
  | signatureExpired (expiresAt nowTs : Nat)
  | ttlTooLong (ttl maxTtl : Nat)
  | nonceAlreadyUsed (signer : Address) (purpose : AssertionPurpose) (nonce : Nat)
  | keyEpochInvalid (signer : Address) (epoch : Nat)
deriving DecidableEq

/-- The immutables of the contracts, and their hashes. -/
structure AssertionConfig where
  maxTtl : Nat
  /-- `hashAssertion`, under the domain of the verifier. -/
  hashAssertion : Assertion → Bytes32
  /-- `walletLinkSubject` of the account registry. -/
  walletLinkSubject : Bytes32 → Address → Bytes32

/-- What a check reads from elsewhere: `ROLES.isEpochValid`, `ecrecover` (zero is a failure) and
`isValidSignature` of the contract wallets. -/
structure AssertionEnv where
  isEpochValid : Role → Nat → Bool
  ecrecover : Bytes32 → Nat → Nat → Nat → Address
  isValidSignature : Address → Bytes32 → List UInt8 → Bool

/-- `_used`. -/
structure AuthorizationVerifier where
  used : Address → AssertionPurpose → Nat → Bool

/-- The verifier after deployment. -/
def AuthorizationVerifier.initial : AuthorizationVerifier where
  used := fun _ _ _ => false

/-- A big-endian word. -/
def beWord (bytes : List UInt8) : Nat := bytes.foldl (fun acc b => acc * 256 + b.toNat) 0

/-- `_HALF_ORDER`. -/
def halfOrder : Nat := 0x7FFFFFFFFFFFFFFFFFFFFFFFFFFFFFFF5D576E7357A4501DDFE92F46681B20A0

/-- `_roleFor`. -/
def AssertionPurpose.role : AssertionPurpose → Option Role
  | creditApproval => some .underwriter
  | treasuryOp => some .treasury
  | relay => some .relayer
  | controlAttestation => some .registrar
  | walletLink | agreementConsent => none

namespace AuthorizationVerifier

variable (cfg : AssertionConfig) (env : AssertionEnv) (m : Msg) (v : AuthorizationVerifier)
  (a : Assertion) (purpose : AssertionPurpose) (subject : Bytes32)

/-- `_isValidSignatureNow`: 65 bytes of `r`, `s` and `v` of an account without code, or the answer
of a contract wallet. -/
def isValidSignatureNow (signer : Address) (digest : Bytes32) (signature : List UInt8) : Bool :=
  if m.hasCode signer = false then
    if signature.length ≠ 65 then false
    else
      let r := beWord (signature.take 32)
      let s := beWord ((signature.drop 32).take 32)
      let v := beWord (signature.drop 64)
      if s > halfOrder ∨ (v ≠ 27 ∧ v ≠ 28) then false
      else
        let recovered := env.ecrecover digest v r s
        decide (recovered ≠ 0 ∧ recovered = signer)
  else env.isValidSignature signer digest signature

/-- `_check`. -/
def check : Except VerifierRevert Unit := do
  revertIf (a.purpose ≠ purpose) (.wrongPurpose purpose a.purpose)
  revertIf (a.subject ≠ subject) (.badSignature a.signer)
  revertIf (a.expiresAt ≤ m.now) (.signatureExpired a.expiresAt m.now)
  revertIf (a.expiresAt ≤ a.issuedAt ∨ a.expiresAt - a.issuedAt > cfg.maxTtl)
    (.ttlTooLong (if a.expiresAt > a.issuedAt then a.expiresAt - a.issuedAt else 0) cfg.maxTtl)
  revertIf (v.used a.signer a.purpose a.nonce = true) (.nonceAlreadyUsed a.signer a.purpose a.nonce)
  match purpose.role with
  | some role =>
    revertIf (m.hasRole role a.signer = false ∨ env.isEpochValid role a.keyEpoch = false)
      (.keyEpochInvalid a.signer a.keyEpoch)
  | none => revertIf (a.keyEpoch ≠ 0) (.keyEpochInvalid a.signer a.keyEpoch)
  revertIf (isValidSignatureNow env m a.signer (cfg.hashAssertion a) a.signature = false)
    (.badSignature a.signer)

/-- `isValid`. -/
def isValid : Bool := (v.check cfg env m a purpose subject).toOption.isSome

/-- Mark the nonce of an assertion. -/
def consume : AuthorizationVerifier :=
  { v with used := fun signer purpose nonce =>
      if signer = a.signer ∧ purpose = a.purpose ∧ nonce = a.nonce then true
      else v.used signer purpose nonce }

/-- `verifyAndConsume`. -/
def verifyAndConsume : Except VerifierRevert AuthorizationVerifier := do
  v.check cfg env m a purpose subject
  return v.consume a

end AuthorizationVerifier

/-! ### The verifier and the contracts that use it -/

/-- The verifier, the account registry and the credit protocol, at the time of the last call. -/
structure AssertionState where
  now : Nat
  verifier : AuthorizationVerifier
  accounts : AccountRegistry
  credit : Credit

/-- A call to one of the contracts. Those that spend an assertion bring all of it. -/
inductive AssertionCall
  | verifyAndConsume (a : Assertion) (purpose : AssertionPurpose) (subject : Bytes32)
  | linkWallet (borrowerId : Bytes32) (a : Assertion)
  | anchorAuthorization (auth : CreditAuthorization) (a : Assertion)
  | releaseWallet (wallet : Address)
  | linkAccount (borrowerId : Bytes32) (providerId : ProviderId) (key : AccountKey)
  | unlinkAccount (key : AccountKey)
  | credit (call : CreditCall)

/-- The calls of the protocol that spend no assertion. -/
def CreditCall.plain : CreditCall → Bool
  | .manager (.anchorAuthorization ..) => false
  | _ => true

/-- A transaction: who calls when, what is read from elsewhere, and the call. -/
structure AssertionTx where
  msg : Msg
  env : AssertionEnv
  providerExists : ProviderId → Bool
  reg : Registries
  call : AssertionCall

namespace AssertionState

variable (cfg : AssertionConfig) (d : Deployment)

/-- What the account registry reads, with the verifier as it is. -/
def accountEnv (s : AssertionState) (tx : AssertionTx) (a : Assertion) : AccountEnv where
  verifyAndConsume := fun borrowerId wallet =>
    s.verifier.isValid cfg tx.env tx.msg a .walletLink (cfg.walletLinkSubject borrowerId wallet)
  providerExists := tx.providerExists

/-- What the credit protocol reads, with the wallets as they are. -/
def registries (s : AssertionState) (tx : AssertionTx) : Registries :=
  { tx.reg with isWalletOf := s.accounts.isWalletOf, isEpochValid := tx.env.isEpochValid }

/-- What the manager reads to anchor an authorization, with the verifier as it is. -/
def approvalRegistries (s : AssertionState) (tx : AssertionTx) (a : Assertion) : Registries :=
  { s.registries tx with
    verifyAndConsume := fun _ subject =>
      s.verifier.isValid cfg tx.env tx.msg a .creditApproval subject }

/-- Run a call of the account registry that spends no assertion. -/
def account (s : AssertionState) (tx : AssertionTx) (call : AccountCall) : Option AssertionState :=
  (call.exec tx.msg { verifyAndConsume := fun _ _ => false, providerExists := tx.providerExists }
    s.accounts).toOption.map fun r => { s with now := tx.msg.now, accounts := r }

/-- Run a transaction. -/
def exec (s : AssertionState) (tx : AssertionTx) : Option AssertionState :=
  match tx.call with
  | .verifyAndConsume a purpose subject =>
    (s.verifier.verifyAndConsume cfg tx.env tx.msg a purpose subject).toOption.map fun v =>
      { s with now := tx.msg.now, verifier := v }
  | .linkWallet borrowerId a =>
    (s.accounts.linkWallet tx.msg (s.accountEnv cfg tx a) borrowerId a.signer).toOption.map fun r =>
      { s with now := tx.msg.now, verifier := s.verifier.consume a, accounts := r }
  | .anchorAuthorization auth a =>
    (s.credit.anchorAuthorization d (s.approvalRegistries cfg tx a) tx.msg auth
      a.approval).toOption.map fun c =>
      { s with now := tx.msg.now, verifier := s.verifier.consume a, credit := c }
  | .releaseWallet wallet => s.account tx (.releaseWallet wallet)
  | .linkAccount borrowerId providerId key => s.account tx (.linkAccount borrowerId providerId key)
  | .unlinkAccount key => s.account tx (.unlinkAccount key)
  | .credit call =>
    if call.plain = true then
      (call.exec d (s.registries tx) tx.msg s.credit).toOption.map fun c =>
        { s with now := tx.msg.now, credit := c }
    else none

end AssertionState

/-- One successful transaction, at a time that is not before the last one. -/
def AssertionStep (cfg : AssertionConfig) (d : Deployment) (s : AssertionState) (tx : AssertionTx)
    (s' : AssertionState) : Prop :=
  s.now ≤ tx.msg.now ∧ s.exec cfg d tx = some s'

/-- The nonce that a transaction consumes when it succeeds. -/
def AssertionCall.consumes : AssertionCall → Option (Address × AssertionPurpose × Nat)
  | verifyAndConsume a _ _ => some (a.signer, a.purpose, a.nonce)
  | linkWallet _ a => some (a.signer, a.purpose, a.nonce)
  | anchorAuthorization _ a => some (a.signer, a.purpose, a.nonce)
  | releaseWallet .. | linkAccount .. | unlinkAccount .. | credit .. => none

/-- The calls of the verifier itself. -/
def AssertionCall.direct : AssertionCall → Bool
  | verifyAndConsume .. => true
  | _ => false

/-- Run a list of transactions. One out of time order is not made, and the run stops. -/
def AssertionState.run (cfg : AssertionConfig) (d : Deployment) (s : AssertionState) :
    List AssertionTx → Option AssertionState
  | [] => some s
  | tx :: rest =>
    if s.now ≤ tx.msg.now then (s.exec cfg d tx).bind fun s' => run cfg d s' rest else none

theorem AssertionState.run_steps {cfg : AssertionConfig} {d : Deployment} :
    ∀ {txs : List AssertionTx} {s s' : AssertionState}, s.run cfg d txs = some s' →
      Steps (AssertionStep cfg d) s txs s' := by
  intro txs
  induction txs with
  | nil =>
    intro s s' h
    cases h
    exact .nil s
  | cons tx rest ih =>
    intro s s' h
    unfold run at h
    split at h
    · rename_i hnow
      obtain ⟨t, hexec, h⟩ := Option.bind_eq_some_iff.mp h
      exact .cons ⟨hnow, hexec⟩ (ih h)
    · cases h

end Rackline
