import Rackline.CreditRun
import Rackline.ControlRegistry

/-!
# `Rackline.SecuredRun`: the credit protocol with its control registry

The manager and the controller read payment-control agreements from `ControlRegistry`, and the
registry reads the debt of a facility from `DebtLedger`. Here the two run together: a call of the
credit protocol gets the answers of the registry as it is, and a call of the registry those of the
ledger. The other registries answer as they like.

A facility is opened under an agreement, and an agreement is bound to a facility. The two are
written by different contracts, and nothing compares them.
-/

set_option autoImplicit false

namespace Rackline

open Evm Transition

/-- The registries, with a control registry of the given `_OBSERVATION_MAX_AGE`. -/
def Registries.withControl (reg : Registries) (k : ControlRegistry) (observationMaxAge now : Nat) :
    Registries :=
  { reg with
    agreement := fun agreementId =>
      if (k.status agreementId).exists_ = true then
        some { borrowerId := (k.agreements agreementId).borrowerId,
               version := (k.agreements agreementId).version,
               grade := (k.agreements agreementId).terms.grade }
      else none
    isEffective := fun agreementId version time => k.isEffective agreementId version time
    isFresh := fun agreementId maxAge => k.isFresh agreementId maxAge now
    requireUsable := fun agreementId version =>
      (k.requireUsable agreementId observationMaxAge now version .e2).toOption.isSome }

/-- The credit protocol and the control registry, at the time of the last call. -/
structure Secured where
  now : Nat
  credit : Credit
  control : ControlRegistry

/-- A call to the protocol or to the control registry, with what it reads from elsewhere. -/
inductive SecuredCall
  | credit (reg : Registries) (call : CreditCall)
  | control (borrowerOfAccount : AccountKey → Bytes32) (call : ControlCall)

/-- A transaction. -/
structure SecuredTx where
  msg : Msg
  call : SecuredCall

namespace Secured

variable (d : Deployment) (observationMaxAge : Nat)

/-- `DEBT.legalDebtAt(facilityId, block.timestamp)`; `none` is a revert. -/
def debtAt (s : Secured) (now : Nat) (id : FacilityId) : Option Nat :=
  (s.credit.pool.ledger.legalDebtAt id now).toOption

/-- Run a transaction. -/
def exec (tx : SecuredTx) (s : Secured) : Option Secured :=
  match tx.call with
  | .credit reg call =>
    (call.exec d (reg.withControl s.control observationMaxAge tx.msg.now) tx.msg
      s.credit).toOption.map fun c => { s with now := tx.msg.now, credit := c }
  | .control borrowerOfAccount call =>
    (call.exec tx.msg { borrowerOfAccount := borrowerOfAccount, debt := some (s.debtAt tx.msg.now) }
      s.control).toOption.map fun k => { s with now := tx.msg.now, control := k }

/-- The protocol without its control registry. -/
def protocol (s : Secured) : CreditState := { now := s.now, credit := s.credit }

/-- A fresh deployment. -/
def Initial (s : Secured) : Prop := s.protocol.Initial d ∧ s.control = .initial

end Secured

/-- One successful transaction, at a time that is not before the last one, by a sender that is not
one of the contracts. -/
def SecuredStep (d : Deployment) (observationMaxAge : Nat) (s : Secured) (tx : SecuredTx)
    (s' : Secured) : Prop :=
  s.now ≤ tx.msg.now ∧ tx.msg.sender ∉ d.contracts ∧ s.exec d observationMaxAge tx = some s'

/-- Run a list of transactions. One out of time order or from a contract is not made, and the run
stops. -/
def Secured.run (d : Deployment) (observationMaxAge : Nat) (s : Secured) :
    List SecuredTx → Option Secured
  | [] => some s
  | tx :: rest =>
    if s.now ≤ tx.msg.now ∧ tx.msg.sender ∉ d.contracts then
      (s.exec d observationMaxAge tx).bind fun s' => run d observationMaxAge s' rest
    else none

/-- The transactions of a run determine where it ends. -/
theorem Secured.run_of_steps {d : Deployment} {observationMaxAge : Nat} {txs : List SecuredTx}
    {s s' : Secured} (h : Steps (SecuredStep d observationMaxAge) s txs s') :
    s.run d observationMaxAge txs = some s' := by
  induction h with
  | nil => rfl
  | cons hstep _ ih =>
    obtain ⟨hnow, hsender, hexec⟩ := hstep
    rw [run, if_pos ⟨hnow, hsender⟩, hexec]
    exact ih

theorem Secured.run_steps {d : Deployment} {observationMaxAge : Nat} :
    ∀ {txs : List SecuredTx} {s s' : Secured}, s.run d observationMaxAge txs = some s' →
      Steps (SecuredStep d observationMaxAge) s txs s' := by
  intro txs
  induction txs with
  | nil =>
    intro s s' h
    cases h
    exact .nil s
  | cons tx rest ih =>
    intro s s' h
    unfold run at h
    split at h
    · rename_i hc
      obtain ⟨t, hexec, h⟩ := Option.bind_eq_some_iff.mp h
      exact .cons ⟨hc.1, hc.2, hexec⟩ (ih h)
    · cases h

/-- A run goes on from where its first part ended. -/
theorem Secured.run_append {d : Deployment} {observationMaxAge : Nat} {bs : List SecuredTx} :
    ∀ {as : List SecuredTx} {s : Secured}, s.run d observationMaxAge (as ++ bs) =
      (s.run d observationMaxAge as).bind fun t => t.run d observationMaxAge bs := by
  intro as
  induction as with
  | nil =>
    intro s
    rfl
  | cons tx rest ih =>
    intro s
    rw [List.cons_append, run, run]
    split
    · rw [Option.bind_assoc]
      congr
      funext t
      exact ih
    · rfl

/-- The last transaction of a run that returned. -/
theorem Secured.run_last {d : Deployment} {observationMaxAge : Nat} {as : List SecuredTx}
    {tx : SecuredTx} {s t u : Secured} (h : s.run d observationMaxAge as = some t)
    (h' : s.run d observationMaxAge (as ++ [tx]) = some u) :
    SecuredStep d observationMaxAge t tx u := by
  rw [run_append, h] at h'
  cases run_steps h' with
  | cons hstep hnil =>
    cases hnil
    exact hstep

end Rackline
