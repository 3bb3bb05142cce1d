import Rackline.ObligationLog

/-!
# `Rackline.Proofs.SourceOps`: what a transaction of the escrow can do

`SourceStep.effect` sorts the transactions of the escrow by what they do. Five kinds move one
obligation by one revision (`moved`), two of them together with a payout. A settlement that names no
obligation, and its cancellation, touch a payout only. Two kinds are checkpoints. What is left is
quiet: it writes neither obligations nor payouts. Every invariant of the escrow is a case
analysis of `SourceEffect`.
-/

set_option autoImplicit false

namespace Rackline

open Evm Transition

namespace SourceEscrow

/-- One obligation moved by one revision. -/
def moved (a : AccountKey) (ref : Bytes32) (o : Obligation) (openAmount : Nat)
    (e : SourceEscrow) : SourceEscrow :=
  { e with
    obligations := set2 e.obligations a ref o
    openAmount := Function.update e.openAmount a openAmount
    latestRevision := Function.update e.latestRevision a (e.latestRevision a + 1) }

/-- One payout more. -/
def payoutAdded (p : Payout) (settlementId : Bytes32) (e : SourceEscrow) : SourceEscrow :=
  { e with
    settlementUsed := set2 e.settlementUsed p.payer settlementId true
    paidCumulative := Function.update e.paidCumulative p.accountKey
      (e.paidCumulative p.accountKey + p.amount)
    tracked := Function.update e.tracked p.token (e.tracked p.token + p.amount)
    settlementSeq := e.settlementSeq + 1
    payouts := Function.update e.payouts (e.settlementSeq + 1) p }

/-- One payout cancelled. -/
def payoutDropped (seq : Nat) (e : SourceEscrow) : SourceEscrow :=
  let p := e.payouts seq
  { e with
    paidCumulative := Function.update e.paidCumulative p.accountKey
      (e.paidCumulative p.accountKey - p.amount)
    tracked := Function.update e.tracked p.token (e.tracked p.token - p.amount)
    payouts := Function.update e.payouts seq { p with cancelled := true } }

/-- Obligations, payouts and checkpoints are the same. -/
structure Quiet (e e' : SourceEscrow) : Prop where
  self : e'.self = e.self
  obligations : e'.obligations = e.obligations
  latestRevision : e'.latestRevision = e.latestRevision
  openAmount : e'.openAmount = e.openAmount
  checkpointSeq : e'.checkpointSeq = e.checkpointSeq
  protectedUntil : e'.protectedUntil = e.protectedUntil
  payouts : e'.payouts = e.payouts
  settlementSeq : e'.settlementSeq = e.settlementSeq

theorem bumpAccountRevision_eq_ok {a : AccountKey} {e e' : SourceEscrow} :
    e.bumpAccountRevision a = .ok e' ↔ e.latestRevision a + 1 < wordSize 32 ∧
      e' = { e with
        latestRevision := Function.update e.latestRevision a (e.latestRevision a + 1) } := by
  simp only [bumpAccountRevision, bind_eq_ok, addW_eq_ok, pure_eq_ok]
  constructor
  · rintro ⟨_, ⟨h, rfl⟩, rfl⟩
    exact ⟨h, rfl⟩
  · rintro ⟨h, rfl⟩
    exact ⟨_, ⟨h, rfl⟩, rfl⟩

end SourceEscrow

open SourceEscrow

/-- What a settlement of `measured` needs of the obligation and the open amount of its account,
and what it makes of the obligation. -/
structure Settles (o : Obligation) (token : Address) (measured openAmount : Nat)
    (o' : Obligation) : Prop where
  opened : o.status = .open_
  token : o.token = token
  fits : o.paid + measured ≤ o.net
  word : o.paid + measured < wordSize 256
  counter : o.revision + 1 < wordSize 32
  covered : measured ≤ openAmount
  result : o' = { o with
    paid := o.paid + measured
    status := if o.paid + measured = o.net then .paid else o.status
    revision := o.revision + 1 }

/-- What the cancellation of a payout of `amount` needs of the obligation and the open amount of
its account, and what it makes of the obligation. -/
structure Unsettles (o : Obligation) (amount openAmount : Nat) (o' : Obligation) : Prop where
  paid : amount ≤ o.paid
  word : openAmount + amount < wordSize 256
  counter : o.revision + 1 < wordSize 32
  result : o' = { o with
    paid := o.paid - amount
    status := if o.status = .paid then .open_ else o.status
    revision := o.revision + 1 }

/-- What a correction needs of the obligation and the open amount of its account, and what it makes
of the obligation. -/
structure Corrects (o : Obligation) (delta : Int) (reason : CorrectionReason) (openAmount : Nat)
    (o' : Obligation) (openAmount' : Nat) : Prop where
  opened : o.status = .open_
  paid : o.paid ≤ o.net
  correctable : Correctable o.net o.paid delta
  cancel : reason = .cancel → (o.net : Int) + delta = o.paid
  covered : o.net - o.paid ≤ openAmount
  openAmount : openAmount' = openAmount - (o.net - o.paid) + (o'.net - o.paid)
  counter : o.revision + 1 < wordSize 32
  result : o' = { o with
    net := ((o.net : Int) + delta).toNat
    status := if reason = .cancel then .cancelled else o.status
    revision := o.revision + 1 }

/-- The calls that touch neither obligations nor payouts nor checkpoints. -/
def SourceCall.IsQuiet : SourceCall → Prop
  | .transferOwnership .. | .setIssuer .. | .setController .. | .setPayer .. | .registerAccount ..
  | .admitToken .. | .depositUnattributed .. | .recordDirectDeposit .. | .withdraw .. => True
  | .recognizeObligation .. | .assignObligation .. | .correctObligation .. | .publishCheckpoint ..
  | .reserveCheckpoint .. | .settle .. | .cancelPayout .. => False

/-- What a transaction of the escrow does: the logs that it emits, and the state after it. -/
inductive SourceEffect (m : SourceMsg) (e : SourceEscrow) :
    SourceCall → List SourceEvent → SourceEscrow → Prop
  | quiet {c : SourceCall} {e' : SourceEscrow} : c.IsQuiet → Quiet e e' →
      SourceEffect m e c [] e'
  | recognized (a : AccountKey) (ref : Bytes32) (payer token : Address) (amount dueAt : Nat) :
      e.protectedUntil a ≤ m.now → e.latestRevision a + 1 < wordSize 32 → amount ≠ 0 →
      e.openAmount a + amount < wordSize 256 → (e.obligations a ref).status = .none →
      SourceEffect m e (.recognizeObligation a ref payer token amount dueAt)
        [.obligationRecognized a ref m.sender payer e.self amount dueAt 1,
          .obligationRecognizedV2 a ref m.sender payer e.self token amount dueAt 1]
        { e.moved a ref
            { e.obligations a ref with
              accountKey := a, payer := payer, token := token, net := amount, dueAt := dueAt,
              revision := 1, status := .open_ }
            (e.openAmount a + amount) with
          accountToken := Function.update e.accountToken a token }
  | assigned (a : AccountKey) (ref facilityKey : Bytes32) :
      e.protectedUntil a ≤ m.now → e.latestRevision a + 1 < wordSize 32 →
      (e.obligations a ref).status = .open_ →
      ((e.obligations a ref).assignedTo = 0 ∨ (e.obligations a ref).assignedTo = facilityKey) →
      (e.obligations a ref).revision + 1 < wordSize 32 →
      SourceEffect m e (.assignObligation a ref facilityKey)
        [.obligationAssigned a ref facilityKey ((e.obligations a ref).revision + 1)]
        (e.moved a ref
          { e.obligations a ref with
            assignedTo := facilityKey, revision := (e.obligations a ref).revision + 1 }
          (e.openAmount a))
  | corrected (a : AccountKey) (ref : Bytes32) (delta : Int) (reason : CorrectionReason)
      (o' : Obligation) (openAmount' : Nat) :
      e.protectedUntil a ≤ m.now → e.latestRevision a + 1 < wordSize 32 →
      Corrects (e.obligations a ref) delta reason (e.openAmount a) o' openAmount' →
      SourceEffect m e (.correctObligation a ref delta reason)
        [.obligationCorrected a ref delta ((e.obligations a ref).revision + 1) reason.code]
        (e.moved a ref o' openAmount')
  | published (a : AccountKey) : e.checkpointSeq a + 1 < wordSize 64 →
      SourceEffect m e (.publishCheckpoint a)
        [.sourceCheckpoint a (e.checkpointSeq a + 1) (e.latestRevision a) (e.openAmount a)
          (e.paidCumulative a)]
        { e with checkpointSeq := Function.update e.checkpointSeq a (e.checkpointSeq a + 1) }
  | reserved (a : AccountKey) (until_ : Nat) :
      e.protectedUntil a ≤ m.now → m.now < until_ → until_ ≤ m.now + maxReservation →
      e.checkpointSeq a + 1 < wordSize 64 →
      SourceEffect m e (.reserveCheckpoint a until_)
        [.sourceCheckpointV2 a (e.checkpointSeq a + 1) (e.latestRevision a) (e.openAmount a)
          (e.paidCumulative a) m.now until_]
        { e with
          protectedUntil := Function.update e.protectedUntil a until_
          checkpointSeq := Function.update e.checkpointSeq a (e.checkpointSeq a + 1) }
  | settled (a : AccountKey) (ref : Bytes32) (token : Address) (amount measured : Nat)
      (settlementId : Bytes32) (o' : Obligation) :
      (measured = amount ∨ (e.tokenInfo token).nonstandardAllowed = true) →
      e.protectedUntil a ≤ m.now → e.latestRevision a + 1 < wordSize 32 → measured ≠ 0 →
      e.paidCumulative a + measured < wordSize 256 → ref ≠ 0 →
      Settles (e.obligations a ref) token measured (e.openAmount a) o' →
      SourceEffect m e (.settle a ref token amount settlementId (some measured))
        [.payoutReceived a ref token m.sender measured (e.settlementSeq + 1)]
        ((e.moved a ref o' (e.openAmount a - measured)).payoutAdded
          { accountKey := a, obligationRef := ref, token := token, payer := m.sender,
            amount := measured, cancelled := false } settlementId)
  | settledUnnamed (a : AccountKey) (token : Address) (amount measured : Nat)
      (settlementId : Bytes32) :
      (measured = amount ∨ (e.tokenInfo token).nonstandardAllowed = true) →
      e.protectedUntil a ≤ m.now → measured ≠ 0 →
      e.paidCumulative a + measured < wordSize 256 →
      SourceEffect m e (.settle a 0 token amount settlementId (some measured))
        [.payoutReceived a 0 token m.sender measured (e.settlementSeq + 1)]
        (e.payoutAdded
          { accountKey := a, obligationRef := 0, token := token, payer := m.sender,
            amount := measured, cancelled := false } settlementId)
  | unsettled (seq : Nat) (o' : Obligation) :
      (e.payouts seq).amount ≤ e.tracked (e.payouts seq).token →
      e.protectedUntil (e.payouts seq).accountKey ≤ m.now →
      e.latestRevision (e.payouts seq).accountKey + 1 < wordSize 32 →
      (e.payouts seq).payer ≠ 0 → (e.payouts seq).cancelled = false →
      (e.payouts seq).obligationRef ≠ 0 →
      Unsettles (e.obligations (e.payouts seq).accountKey (e.payouts seq).obligationRef)
        (e.payouts seq).amount (e.openAmount (e.payouts seq).accountKey) o' →
      SourceEffect m e (.cancelPayout seq true)
        [.payoutCancelled (e.payouts seq).accountKey (e.payouts seq).obligationRef seq
          (e.payouts seq).amount]
        ((e.moved (e.payouts seq).accountKey (e.payouts seq).obligationRef o'
          (e.openAmount (e.payouts seq).accountKey + (e.payouts seq).amount)).payoutDropped seq)
  | unsettledUnnamed (seq : Nat) :
      (e.payouts seq).amount ≤ e.tracked (e.payouts seq).token →
      e.protectedUntil (e.payouts seq).accountKey ≤ m.now →
      (e.payouts seq).payer ≠ 0 → (e.payouts seq).cancelled = false →
      (e.payouts seq).obligationRef = 0 →
      SourceEffect m e (.cancelPayout seq true)
        [.payoutCancelled (e.payouts seq).accountKey (e.payouts seq).obligationRef seq
          (e.payouts seq).amount]
        (e.payoutDropped seq)

/-! ### Each call -/

section Calls

variable {m : SourceMsg} {e e' : SourceEscrow} {events : List SourceEvent} {a : AccountKey}
  {ref : Bytes32}

theorem SourceEscrow.recognizeObligation_effect {payer token : Address} {amount dueAt : Nat}
    (h : e.recognizeObligation m a ref payer token amount dueAt = .ok (events, e')) :
    SourceEffect m e (.recognizeObligation a ref payer token amount dueAt) events e' := by
  simp only [recognizeObligation, onlyIssuer, requireUnreserved, bind_eq_ok, revertIf_eq_ok,
    addW_eq_ok, bumpAccountRevision_eq_ok, pure_eq_ok, Prod.mk.injEq, exists_const,
    and_assoc] at h
  obtain ⟨-, hfree, -, -, hzero, -, hnone, _, hword, rfl, _, hrev, rfl, rfl, rfl⟩ := h
  exact .recognized a ref payer token amount dueAt (by omega) hrev hzero hword
    (Classical.not_not.mp hnone)

theorem SourceEscrow.assignObligation_effect {facilityKey : Bytes32}
    (h : e.assignObligation m a ref facilityKey = .ok (events, e')) :
    SourceEffect m e (.assignObligation a ref facilityKey) events e' := by
  simp only [assignObligation, requireUnreserved, bind_eq_ok, revertIf_eq_ok, addW_eq_ok,
    bumpAccountRevision_eq_ok, pure_eq_ok, Prod.mk.injEq, exists_const, and_assoc] at h
  obtain ⟨hfree, -, hopen, hkey, _, hnext, rfl, _, hrev, rfl, rfl, rfl⟩ := h
  have heffect := SourceEffect.assigned (m := m) (e := e) a ref facilityKey (by omega) hrev
    (Classical.not_not.mp hopen) (by tauto) hnext
  simpa only [moved, Function.update_eq_self] using heffect

theorem SourceEscrow.correctObligation_effect {delta : Int} {reason : CorrectionReason}
    (h : e.correctObligation m a ref delta reason = .ok (events, e')) :
    SourceEffect m e (.correctObligation a ref delta reason) events e' := by
  simp only [correctObligation, onlyIssuer, requireUnreserved, bind_eq_ok, revertIf_eq_ok,
    addW_eq_ok, subW_eq_ok, bumpAccountRevision_eq_ok, pure_eq_ok, Prod.mk.injEq, exists_const,
    and_assoc] at h
  obtain ⟨-, hfree, hopen, newNet, hnet, _, hpaid, rfl, _, hnew, rfl, status, hstatus, _, hcover,
    rfl, _, -, rfl, _, hnext, rfl, _, hrev, rfl, rfl, rfl⟩ := h
  obtain ⟨hfits, rfl⟩ := correctedNet_eq_ok.mp ⟨hnet, hnew⟩
  have hstatus' : (reason = .cancel → ((e.obligations a ref).net : Int) + delta =
      (e.obligations a ref).paid) ∧
      status = if reason = .cancel then .cancelled else (e.obligations a ref).status := by
    unfold correctedStatus at hstatus
    split at hstatus
    · obtain ⟨_, hzero, hstatus⟩ := bind_eq_ok.mp hstatus
      have hzero := revertIf_eq_ok.mp hzero
      have hle := hfits.2.1
      rw [← pure_eq_ok.mp hstatus]
      exact ⟨fun _ => by omega, by rw [if_pos ‹_›]⟩
    · rename_i hne
      cases hstatus
      exact ⟨fun hc => absurd hc hne, by rw [if_neg hne]⟩
  refine .corrected a ref delta reason _ _ (by omega) hrev ⟨Classical.not_not.mp hopen, hpaid, hfits,
    hstatus'.1, hcover, rfl, hnext, ?_⟩
  rw [hstatus'.2]

theorem SourceEscrow.publishCheckpoint_effect
    (h : e.publishCheckpoint m a = .ok (events, e')) :
    SourceEffect m e (.publishCheckpoint a) events e' := by
  simp only [publishCheckpoint, onlyIssuer, bind_eq_ok, revertIf_eq_ok, addW_eq_ok, pure_eq_ok,
    Prod.mk.injEq, exists_const, and_assoc] at h
  obtain ⟨-, -, _, hseq, rfl, rfl, rfl⟩ := h
  exact .published a hseq

theorem SourceEscrow.reserveCheckpoint_effect {until_ : Nat}
    (h : e.reserveCheckpoint m a until_ = .ok (events, e')) :
    SourceEffect m e (.reserveCheckpoint a until_) events e' := by
  simp only [reserveCheckpoint, onlyIssuer, requireUnreserved, bind_eq_ok, revertIf_eq_ok,
    addW_eq_ok, pure_eq_ok, Prod.mk.injEq, exists_const, and_assoc] at h
  obtain ⟨-, hfree, -, hwindow, _, hseq, rfl, rfl, rfl⟩ := h
  exact .reserved a until_ (by omega) (by omega) (by omega) hseq

theorem SourceEscrow.settleObligation_ok {token : Address} {measured : Nat}
    (h : e.settleObligation a ref token measured = .ok e') :
    (ref = 0 ∧ e' = e) ∨
      ref ≠ 0 ∧ e.latestRevision a + 1 < wordSize 32 ∧
        ∃ o', Settles (e.obligations a ref) token measured (e.openAmount a) o' ∧
          e' = e.moved a ref o' (e.openAmount a - measured) := by
  unfold settleObligation at h
  split at h
  · rename_i h0
    cases h
    exact .inl ⟨h0, rfl⟩
  · rename_i h0
    simp only [bind_eq_ok, revertIf_eq_ok, addW_eq_ok, subW_eq_ok, bumpAccountRevision_eq_ok,
      exists_const, and_assoc] at h
    obtain ⟨hopen, htoken, _, hpaid, rfl, hover, _, hword, rfl, _, hcover, rfl, _, hnext, rfl, hrev,
      rfl⟩ := h
    refine .inr ⟨h0, hrev, _, ⟨Classical.not_not.mp hopen, Classical.not_not.mp htoken, by omega,
      hword, hnext, hcover, rfl⟩, rfl⟩

theorem SourceEscrow.settle_ok {token : Address} {amount : Nat} {settlementId : Bytes32}
    {pulled : Option Nat}
    (h : e.settle m a ref token amount settlementId pulled = .ok (events, e')) :
    ∃ measured e₁, pulled = some measured ∧ measured ≠ 0 ∧
      (measured = amount ∨ (e.tokenInfo token).nonstandardAllowed = true) ∧
      e.protectedUntil a ≤ m.now ∧ e.paidCumulative a + measured < wordSize 256 ∧
      ({ e with settlementUsed := set2 e.settlementUsed m.sender settlementId true }).settleObligation
        a ref token measured = .ok e₁ ∧
      events = [.payoutReceived a ref token m.sender measured (e.settlementSeq + 1)] ∧
      e' = e₁.payoutAdded
        { accountKey := a, obligationRef := ref, token := token, payer := m.sender,
          amount := measured, cancelled := false } settlementId := by
  simp only [settle, requireUnreserved, bind_eq_ok, revertIf_eq_ok, exists_const] at h
  obtain ⟨hfree, -, -, -, -, -, h⟩ := h
  cases pulled with
  | none => cases h
  | some measured =>
    simp only [bind_eq_ok, revertIf_eq_ok, addW_eq_ok, pure_eq_ok, Prod.mk.injEq, exists_const,
      and_assoc] at h
    obtain ⟨hmeasured, hzero, e₁, hsettle, _, hpaid, rfl, _, -, rfl, _, -, rfl, rfl, rfl⟩ := h
    -- A settlement of an obligation leaves the payouts and what was paid alone.
    have hframe : e₁.paidCumulative = e.paidCumulative ∧ e₁.settlementSeq = e.settlementSeq ∧
        e₁.settlementUsed = set2 e.settlementUsed m.sender settlementId true := by
      obtain ⟨-, rfl⟩ | ⟨-, -, o', -, rfl⟩ := settleObligation_ok hsettle
      · exact ⟨rfl, rfl, rfl⟩
      · exact ⟨rfl, rfl, rfl⟩
    refine ⟨measured, e₁, rfl, hzero, ?_, by omega, by rwa [hframe.1] at hpaid, hsettle, ?_, ?_⟩
    · by_cases heq : measured = amount
      · exact .inl heq
      · exact .inr (by simpa [heq] using hmeasured)
    · rw [hframe.2.1]
    · have hused : set2 e₁.settlementUsed m.sender settlementId true = e₁.settlementUsed := by
        rw [hframe.2.2, set2_idem]
      simp only [payoutAdded, hused]

theorem SourceEscrow.settle_effect {token : Address} {amount : Nat} {settlementId : Bytes32}
    {pulled : Option Nat}
    (h : e.settle m a ref token amount settlementId pulled = .ok (events, e')) :
    SourceEffect m e (.settle a ref token amount settlementId pulled) events e' := by
  obtain ⟨measured, e₁, rfl, hzero, hexact, hfree, hpaid, hsettle, rfl, rfl⟩ := settle_ok h
  obtain ⟨rfl, rfl⟩ | ⟨h0, hrev, o', hsettles, rfl⟩ := settleObligation_ok hsettle
  · have heffect := SourceEffect.settledUnnamed (m := m) (e := e) a token amount measured
      settlementId hexact hfree hzero hpaid
    simpa only [payoutAdded, set2_idem] using heffect
  · have heffect := SourceEffect.settled (m := m) (e := e) a ref token amount measured
      settlementId o' hexact hfree hrev hzero hpaid h0 hsettles
    simpa only [payoutAdded, moved, set2_idem] using heffect

theorem SourceEscrow.unsettleObligation_ok {amount : Nat}
    (h : e.unsettleObligation a ref amount = .ok e') :
    (ref = 0 ∧ e' = e) ∨
      ref ≠ 0 ∧ e.latestRevision a + 1 < wordSize 32 ∧
        ∃ o', Unsettles (e.obligations a ref) amount (e.openAmount a) o' ∧
          e' = e.moved a ref o' (e.openAmount a + amount) := by
  unfold unsettleObligation at h
  split at h
  · rename_i h0
    cases h
    exact .inl ⟨h0, rfl⟩
  · rename_i h0
    simp only [bind_eq_ok, addW_eq_ok, subW_eq_ok, bumpAccountRevision_eq_ok, and_assoc] at h
    obtain ⟨_, hpaid, rfl, _, hword, rfl, _, hnext, rfl, hrev, rfl⟩ := h
    exact .inr ⟨h0, hrev, _, ⟨hpaid, hword, hnext, rfl⟩, rfl⟩

theorem SourceEscrow.cancelPayout_effect {seq : Nat} {pushed : Bool}
    (h : e.cancelPayout m seq pushed = .ok (events, e')) :
    SourceEffect m e (.cancelPayout seq pushed) events e' := by
  simp only [cancelPayout, onlyIssuer, requireUnreserved, bind_eq_ok, revertIf_eq_ok, subW_eq_ok,
    pure_eq_ok, Prod.mk.injEq, exists_const, and_assoc] at h
  obtain ⟨-, hfree, hpayer, hcancelled, e₁, hun, _, -, rfl, _, htracked, rfl, hpushed, rfl, rfl⟩ := h
  have hc : (e.payouts seq).cancelled = false := by simpa using hcancelled
  obtain rfl : pushed = true := by simpa using hpushed
  obtain ⟨h0, rfl⟩ | ⟨h0, hrev, o', ho', rfl⟩ := unsettleObligation_ok hun
  · exact .unsettledUnnamed seq htracked (by omega) hpayer hc h0
  · exact .unsettled seq o' htracked (by omega) hrev hpayer hc h0 ho'

end Calls

/-- The calls of the owner that set roles, wallets and tokens. -/
def SourceCall.IsAdmin : SourceCall → Prop
  | .transferOwnership .. | .setIssuer .. | .setController .. | .setPayer .. | .registerAccount ..
  | .admitToken .. => True
  | _ => False

/-- Such a call is the owner's, emits nothing, and writes roles, wallets and tokens only. -/
theorem SourceEscrow.admin_ok {m : SourceMsg} {e e' : SourceEscrow} {events : List SourceEvent}
    {c : SourceCall} (h : e.call m c = .ok (events, e')) (hc : c.IsAdmin) :
    m.sender = e.owner ∧ events = [] ∧
      ∃ owner issuers controllers payers tokenInfo borrowerWallet isBorrowerWallet,
        e' = { e with
          owner := owner, issuers := issuers, controllers := controllers, payers := payers,
          tokenInfo := tokenInfo, borrowerWallet := borrowerWallet,
          isBorrowerWallet := isBorrowerWallet } := by
  have hquiet : ∀ {x : Except SourceRevert SourceEscrow}, quiet x = .ok (events, e') →
      events = [] ∧ x = .ok e' := by
    intro x hx
    obtain ⟨e₂, hok, heq⟩ := map_eq_ok.mp hx
    cases heq
    exact ⟨rfl, hok⟩
  cases c with
  | transferOwnership newOwner =>
    obtain ⟨rfl, hok⟩ := hquiet h
    simp only [transferOwnership, onlyOwner, bind_eq_ok, revertIf_eq_ok, pure_eq_ok] at hok
    obtain ⟨_, howner, rfl⟩ := hok
    exact ⟨Classical.not_not.mp howner, rfl, _, _, _, _, _, _, _, rfl⟩
  | setIssuer account enabled =>
    obtain ⟨rfl, hok⟩ := hquiet h
    simp only [setIssuer, onlyOwner, bind_eq_ok, revertIf_eq_ok, pure_eq_ok] at hok
    obtain ⟨_, howner, rfl⟩ := hok
    exact ⟨Classical.not_not.mp howner, rfl, _, _, _, _, _, _, _, rfl⟩
  | setController account enabled =>
    obtain ⟨rfl, hok⟩ := hquiet h
    simp only [setController, onlyOwner, bind_eq_ok, revertIf_eq_ok, pure_eq_ok] at hok
    obtain ⟨_, howner, rfl⟩ := hok
    exact ⟨Classical.not_not.mp howner, rfl, _, _, _, _, _, _, _, rfl⟩
  | setPayer account enabled =>
    obtain ⟨rfl, hok⟩ := hquiet h
    simp only [setPayer, onlyOwner, bind_eq_ok, revertIf_eq_ok, pure_eq_ok] at hok
    obtain ⟨_, howner, _, -, rfl⟩ := hok
    exact ⟨Classical.not_not.mp howner, rfl, _, _, _, _, _, _, _, rfl⟩
  | registerAccount accountKey wallet =>
    obtain ⟨rfl, hok⟩ := hquiet h
    simp only [registerAccount, onlyOwner, bind_eq_ok, revertIf_eq_ok, pure_eq_ok] at hok
    obtain ⟨_, howner, _, -, rfl⟩ := hok
    exact ⟨Classical.not_not.mp howner, rfl, _, _, _, _, _, _, _, rfl⟩
  | admitToken token decimals nonstandardAllowed =>
    obtain ⟨rfl, hok⟩ := hquiet h
    simp only [admitToken, onlyOwner, bind_eq_ok, revertIf_eq_ok, pure_eq_ok] at hok
    obtain ⟨_, howner, rfl⟩ := hok
    exact ⟨Classical.not_not.mp howner, rfl, _, _, _, _, _, _, _, rfl⟩
  | _ => exact hc.elim

/-- Every transaction of the escrow does one of the things in `SourceEffect`. -/
theorem SourceEscrow.call_effect {m : SourceMsg} {e e' : SourceEscrow} {events : List SourceEvent}
    {c : SourceCall} (h : e.call m c = .ok (events, e')) : SourceEffect m e c events e' := by
  have hquiet : ∀ {x : Except SourceRevert SourceEscrow}, c.IsQuiet →
      quiet x = .ok (events, e') → (∀ e₁, x = .ok e₁ → Quiet e e₁) →
      SourceEffect m e c events e' := by
    intro x hc hx hsame
    obtain ⟨e₂, hok, heq⟩ := map_eq_ok.mp hx
    cases heq
    exact .quiet hc (hsame e' hok)
  cases c with
  | transferOwnership | setIssuer | setController | setPayer | registerAccount | admitToken =>
    obtain ⟨-, rfl, _, _, _, _, _, _, _, rfl⟩ := admin_ok h trivial
    exact .quiet trivial (by constructor <;> rfl)
  | recognizeObligation a ref payer token amount dueAt => exact recognizeObligation_effect h
  | assignObligation a ref facilityKey => exact assignObligation_effect h
  | correctObligation a ref delta reason => exact correctObligation_effect h
  | publishCheckpoint a => exact publishCheckpoint_effect h
  | reserveCheckpoint a until_ => exact reserveCheckpoint_effect h
  | settle a ref token amount settlementId pulled => exact settle_effect h
  | cancelPayout seq pushed => exact cancelPayout_effect h
  | depositUnattributed token amount pulled =>
    refine hquiet trivial h fun e₁ hok => ?_
    cases pulled with
    | none =>
      simp only [depositUnattributed, bind_eq_ok] at hok
      obtain ⟨_, -, _, -, hok⟩ := hok
      cases hok
    | some measured =>
      simp only [depositUnattributed, recordUnattributed, bind_eq_ok, pure_eq_ok] at hok
      obtain ⟨_, -, _, -, _, -, _, -, _, -, _, -, rfl⟩ := hok
      constructor <;> rfl
  | recordDirectDeposit token balance =>
    refine hquiet trivial h fun e₁ hok => ?_
    simp only [recordDirectDeposit, recordUnattributed, bind_eq_ok, pure_eq_ok] at hok
    obtain ⟨_, -, _, -, _, -, _, -, _, -, rfl⟩ := hok
    constructor <;> rfl
  | withdraw token amount pushed =>
    refine hquiet trivial h fun e₁ hok => ?_
    simp only [withdraw, bind_eq_ok, pure_eq_ok] at hok
    obtain ⟨_, -, _, -, _, -, _, -, rfl⟩ := hok
    constructor <;> rfl

theorem SourceStep.effect {e e' : SourceEscrow} {tx : SourceTx} (h : SourceStep e tx e') :
    ∃ events, SourceEffect tx.1 e tx.2 events e' := by
  obtain ⟨events, hcall⟩ := h
  exact ⟨events, call_effect hcall⟩

end Rackline
