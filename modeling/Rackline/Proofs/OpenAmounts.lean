import Rackline.Proofs.Payers
import Rackline.Proofs.ReceivableOps
import Rackline.Lib.Sum

/-!
# `Rackline.Proofs.OpenAmounts`: the open amount of an account

Both chains keep, next to the obligations of an account, the sum of what is open. The sum moves with
each operation, and the statuses move beside it. Each operation moves the sum by exactly what it
moves the open part of the obligation, with one exception: the reversal of a payout adds the amount
to the sum also when the obligation was cancelled since, and a cancelled obligation stays cancelled.

The result is an equivalence on both chains: the sum is right in every state of a run if and
only if no payout of a cancelled obligation is reversed in it.
-/

set_option autoImplicit false

namespace Rackline

open Evm Transition Finset

/-! ### The escrow -/

/-- What is open of an obligation. -/
def Obligation.openPart (o : Obligation) : Nat := if o.status = .open_ then o.net - o.paid else 0

namespace SourceEscrow

/-- The sum of what is open of the obligations of an account. -/
def openTotal (e : SourceEscrow) (a : AccountKey) : Nat :=
  ∑ ref, (e.obligations a ref).openPart

/-- The open amount of every account is the sum, and a cancelled obligation has nothing unpaid. -/
structure Reconciled (e : SourceEscrow) : Prop where
  openAmount : ∀ a, e.openAmount a = e.openTotal a
  cancelled : ∀ a ref, (e.obligations a ref).status = .cancelled →
    (e.obligations a ref).net = (e.obligations a ref).paid

/-- What holds of the amounts in every state. -/
structure Sound (e : SourceEscrow) : Prop where
  le : ∀ a ref, (e.obligations a ref).paid ≤ (e.obligations a ref).net
  paid : ∀ a ref, (e.obligations a ref).status = .paid →
    (e.obligations a ref).paid = (e.obligations a ref).net
  blank : ∀ a ref, (e.obligations a ref).status = .none → (e.obligations a ref).paid = 0
  payout : ∀ seq, (e.payouts seq).payer ≠ 0 → (e.payouts seq).amount ≠ 0

/-- The reversal of a payout of an obligation that was cancelled. -/
def ReversesCancelled (e : SourceEscrow) (c : SourceCall) : Prop :=
  ∃ seq pushed, c = .cancelPayout seq pushed ∧ (e.payouts seq).obligationRef ≠ 0 ∧
    (e.obligations (e.payouts seq).accountKey (e.payouts seq).obligationRef).status = .cancelled

variable {m : SourceMsg} {e e' : SourceEscrow} {c : SourceCall} {events : List SourceEvent}
  {a : AccountKey} {ref : Bytes32} {o' : Obligation} {n : Nat}

theorem moved_obligations_of_ne {a' : AccountKey} {ref' : Bytes32} (h : ¬(a' = a ∧ ref' = ref)) :
    (e.moved a ref o' n).obligations a' ref' = e.obligations a' ref' := by
  show set2 e.obligations a ref o' a' ref' = _
  rw [set2_apply, if_neg h]

@[simp]
theorem moved_obligations_self : (e.moved a ref o' n).obligations a ref = o' := set2_self ..

/-- What a property of single obligations needs to survive a move. -/
theorem moved_forall {P : Obligation → Prop} (h : ∀ a ref, P (e.obligations a ref)) (ho : P o') :
    ∀ a' ref', P ((e.moved a ref o' n).obligations a' ref') := by
  intro a' ref'
  by_cases hk : a' = a ∧ ref' = ref
  · obtain ⟨rfl, rfl⟩ := hk
    rwa [moved_obligations_self]
  · rw [moved_obligations_of_ne hk]
    exact h a' ref'

/-- The sum moves with the obligation that moves. -/
theorem moved_openTotal :
    (e.moved a ref o' n).openTotal a + (e.obligations a ref).openPart =
      e.openTotal a + o'.openPart := by
  have hsum := Total.sum_univ_add_eq (f := fun r => (e.obligations a r).openPart)
    (g := fun r => ((e.moved a ref o' n).obligations a r).openPart) ref (fun r hr => by
      rw [moved_obligations_of_ne (fun h => hr h.2)])
  rw [moved_obligations_self] at hsum
  exact hsum

theorem moved_openTotal_of_ne {a' : AccountKey} (h : a' ≠ a) :
    (e.moved a ref o' n).openTotal a' = e.openTotal a' :=
  sum_congr rfl fun r _ => by rw [moved_obligations_of_ne (fun hk => h hk.1)]

/-- A move keeps the books reconciled when the open amount moves with the open part. -/
theorem Reconciled.moved (h : e.Reconciled)
    (hopen : n + (e.obligations a ref).openPart = e.openAmount a + o'.openPart)
    (hcancelled : o'.status = .cancelled → o'.net = o'.paid) :
    (e.moved a ref o' n).Reconciled := by
  constructor
  · intro a'
    by_cases ha : a' = a
    · subst ha
      have htotal : (e.moved a' ref o' n).openTotal a' + (e.obligations a' ref).openPart =
          e.openTotal a' + o'.openPart := moved_openTotal
      have hwas := h.openAmount a'
      show Function.update e.openAmount a' n a' = _
      rw [Function.update_self]
      omega
    · rw [moved_openTotal_of_ne ha, ← h.openAmount a']
      exact Function.update_of_ne ha ..
  · exact moved_forall (P := fun o => o.status = .cancelled → o.net = o.paid) h.cancelled hcancelled

theorem Reconciled.congr (h : e.Reconciled) (ho : e'.obligations = e.obligations)
    (hn : e'.openAmount = e.openAmount) : e'.Reconciled := by
  constructor
  · intro a
    rw [hn, h.openAmount a, openTotal, openTotal, ho]
  · rw [ho]
    exact h.cancelled

theorem Sound.congr (h : e.Sound) (ho : e'.obligations = e.obligations)
    (hp : ∀ seq, (e'.payouts seq).payer ≠ 0 → (e'.payouts seq).amount ≠ 0) : e'.Sound := by
  constructor
  · rw [ho]
    exact h.le
  · rw [ho]
    exact h.paid
  · rw [ho]
    exact h.blank
  · exact hp

theorem Sound.moved (h : e.Sound) (hle : o'.paid ≤ o'.net)
    (hpaid : o'.status = .paid → o'.paid = o'.net) (hblank : o'.status = .none → o'.paid = 0) :
    (e.moved a ref o' n).Sound where
  le := moved_forall (P := fun o => o.paid ≤ o.net) h.le hle
  paid := moved_forall (P := fun o => o.status = .paid → o.paid = o.net) h.paid hpaid
  blank := moved_forall (P := fun o => o.status = .none → o.paid = 0) h.blank hblank
  payout := h.payout

theorem Sound.payoutAdded (h : e.Sound) {p : Payout} (settlementId : Bytes32) (hp : p.amount ≠ 0) :
    (e.payoutAdded p settlementId).Sound := by
  refine h.congr rfl fun seq => ?_
  show (Function.update e.payouts (e.settlementSeq + 1) p seq).payer ≠ 0 →
    (Function.update e.payouts (e.settlementSeq + 1) p seq).amount ≠ 0
  by_cases hs : seq = e.settlementSeq + 1
  · subst hs
    rw [Function.update_self]
    exact fun _ => hp
  · rw [Function.update_of_ne hs]
    exact h.payout seq

theorem Sound.payoutDropped (h : e.Sound) (seq : Nat) : (e.payoutDropped seq).Sound := by
  refine h.congr rfl fun seq' => ?_
  show (Function.update e.payouts seq _ seq').payer ≠ 0 →
    (Function.update e.payouts seq _ seq').amount ≠ 0
  by_cases hs : seq' = seq
  · subst hs
    rw [Function.update_self]
    exact h.payout seq'
  · rw [Function.update_of_ne hs]
    exact h.payout seq'

/-- Every transaction keeps the amounts sound. -/
theorem Sound.step (h : e.Sound) (heffect : SourceEffect m e c events e') : e'.Sound := by
  cases heffect with
  | quiet hc hq =>
    refine h.congr hq.obligations ?_
    rw [hq.payouts]
    exact h.payout
  | recognized a ref payer token amount dueAt hfree hrev hzero hword hnone =>
    refine Sound.congr (e := e.moved a ref _ (e.openAmount a + amount)) (h.moved ?_ ?_ ?_) rfl h.payout
    · show (e.obligations a ref).paid ≤ amount
      rw [h.blank a ref hnone]
      exact Nat.zero_le _
    · exact fun hs => nomatch hs
    · exact fun hs => nomatch hs
  | assigned a ref facilityKey hfree hrev hopen hkey hnext =>
    exact h.moved (h.le a ref) (h.paid a ref) (h.blank a ref)
  | corrected a ref delta reason o' openAmount' hfree hrev hc =>
    have hle := hc.correctable.2.1
    rw [hc.result]
    refine h.moved ?_ ?_ ?_
    · show (e.obligations a ref).paid ≤ (((e.obligations a ref).net : Int) + delta).toNat
      omega
    · intro hs
      split at hs
      · cases hs
      · rw [hc.opened] at hs
        cases hs
    · intro hs
      split at hs
      · cases hs
      · rw [hc.opened] at hs
        cases hs
  | published a hseq => exact h.congr rfl h.payout
  | reserved a until_ hfree hlt hle hseq => exact h.congr rfl h.payout
  | settled a ref token amount measured settlementId o' hexact hfree hrev hzero hpaid h0 hs =>
    refine Sound.payoutAdded ?_ settlementId hzero
    rw [hs.result]
    refine h.moved hs.fits ?_ ?_
    · intro hst
      split at hst
      · assumption
      · rw [hs.opened] at hst
        cases hst
    · intro hst
      split at hst
      · cases hst
      · rw [hs.opened] at hst
        cases hst
  | settledUnnamed a token amount measured settlementId hexact hfree hzero hpaid =>
    exact h.payoutAdded settlementId hzero
  | unsettled seq o' htracked hfree hrev hpayer hlive h0 hu =>
    refine Sound.payoutDropped ?_ seq
    rw [hu.result]
    have hle := h.le (e.payouts seq).accountKey (e.payouts seq).obligationRef
    refine h.moved ?_ ?_ ?_
    · exact Nat.le_trans (Nat.sub_le _ _) hle
    · intro hst
      split at hst
      · cases hst
      · contradiction
    · intro hst
      split at hst
      · cases hst
      · have hzero := h.blank _ _ hst
        show _ - _ = 0
        omega
  | unsettledUnnamed seq htracked hfree hpayer hlive h0 => exact h.payoutDropped seq

/-- A reversal on a cancelled obligation leaves it with an unpaid amount. -/
theorem Sound.reverses (h : e.Sound) (hr : e.Reconciled) (hrev : e.ReversesCancelled c)
    (heffect : SourceEffect m e c events e') : ¬e'.Reconciled := by
  obtain ⟨seq, pushed, rfl, h0, hcancelled⟩ := hrev
  cases heffect with
  | quiet hc hq => exact hc.elim
  | unsettled _ o' htracked hfree hcount hpayer hlive hne hu =>
    intro hbad
    have hzero := h.payout seq hpayer
    have hnet := hr.cancelled _ _ hcancelled
    have hstill := hbad.cancelled (e.payouts seq).accountKey (e.payouts seq).obligationRef
    have hget : ((e.moved (e.payouts seq).accountKey (e.payouts seq).obligationRef o'
        (e.openAmount (e.payouts seq).accountKey + (e.payouts seq).amount)).payoutDropped
          seq).obligations (e.payouts seq).accountKey (e.payouts seq).obligationRef = o' :=
      moved_obligations_self (n := e.openAmount (e.payouts seq).accountKey + (e.payouts seq).amount)
    rw [hget, hu.result] at hstill
    simp only [hcancelled, reduceCtorEq, if_false, true_implies] at hstill
    have hle := hu.paid
    omega
  | unsettledUnnamed _ htracked hfree hpayer hlive hne => exact absurd hne h0

/-- Every other transaction keeps the books reconciled. -/
theorem Reconciled.step (hr : e.Reconciled) (h : e.Sound) (hrev : ¬e.ReversesCancelled c)
    (heffect : SourceEffect m e c events e') : e'.Reconciled := by
  cases heffect with
  | quiet hc hq => exact hr.congr hq.obligations hq.openAmount
  | recognized a ref payer token amount dueAt hfree hrevision hzero hword hnone =>
    refine Reconciled.congr (e := e.moved a ref _ (e.openAmount a + amount)) (hr.moved ?_ ?_) rfl rfl
    · have hpaid := h.blank a ref hnone
      simp [Obligation.openPart, hnone, hpaid]
    · exact fun hs => nomatch hs
  | assigned _ _ facilityKey hfree hrevision hopen hkey hnext =>
    refine hr.moved ?_ ?_
    · simp [Obligation.openPart, hopen]
    · intro hs
      rw [hopen] at hs
      cases hs
  | corrected a ref delta reason o' openAmount' hfree hrevision hc =>
    have hle := hc.correctable.2.1
    have hcover := hc.covered
    have hpaid := hc.paid
    refine hr.moved ?_ ?_
    · rw [hc.openAmount, hc.result]
      by_cases hcancel : reason = .cancel
      · have hzero := hc.cancel hcancel
        simp only [Obligation.openPart, hc.opened, hcancel, if_true, reduceCtorEq, if_false]
        omega
      · simp only [Obligation.openPart, hc.opened, hcancel, if_true, if_false]
        omega
    · rw [hc.result]
      intro hs
      split at hs
      · rename_i hcancel
        have hzero := hc.cancel hcancel
        show (((e.obligations a ref).net : Int) + delta).toNat = (e.obligations a ref).paid
        omega
      · rw [hc.opened] at hs
        cases hs
  | published a hseq => exact hr.congr rfl rfl
  | reserved a until_ hfree hlt hle hseq => exact hr.congr rfl rfl
  | settled a ref token amount measured settlementId o' hexact hfree hrevision hzero hpaid h0 hs =>
    refine Reconciled.congr (e := e.moved a ref o' (e.openAmount a - measured)) (hr.moved ?_ ?_) rfl
      rfl
    · have hfits := hs.fits
      have hcover := hs.covered
      rw [hs.result]
      by_cases hfull : (e.obligations a ref).paid + measured = (e.obligations a ref).net
      · simp only [Obligation.openPart, hs.opened, hfull, if_true, reduceCtorEq, if_false]
        omega
      · simp only [Obligation.openPart, hs.opened, hfull, if_true, if_false]
        omega
    · rw [hs.result]
      intro hst
      split at hst
      · cases hst
      · rw [hs.opened] at hst
        cases hst
  | settledUnnamed a token amount measured settlementId hexact hfree hzero hpaid =>
    exact hr.congr rfl rfl
  | unsettled seq o' htracked hfree hcount hpayer hlive h0 hu =>
    have hnot : (e.obligations (e.payouts seq).accountKey (e.payouts seq).obligationRef).status
        ≠ .cancelled := fun hs => hrev ⟨seq, true, rfl, h0, hs⟩
    have hpaid := hu.paid
    have hle := h.le (e.payouts seq).accountKey (e.payouts seq).obligationRef
    refine Reconciled.congr (e := e.moved _ _ o' _) (hr.moved ?_ ?_) rfl rfl
    · rw [hu.result]
      cases hst : (e.obligations (e.payouts seq).accountKey (e.payouts seq).obligationRef).status with
      | none =>
        have hzero := h.blank _ _ hst
        simp only [Obligation.openPart, hst, reduceCtorEq, if_false]
        omega
      | open_ =>
        simp only [Obligation.openPart, hst, reduceCtorEq, if_false, if_true]
        omega
      | paid =>
        have hfull := h.paid _ _ hst
        simp only [Obligation.openPart, hst, reduceCtorEq, if_false, if_true]
        omega
      | cancelled => exact absurd hst hnot
    · rw [hu.result]
      intro hst
      split at hst
      · cases hst
      · exact absurd hst hnot
  | unsettledUnnamed seq htracked hfree hpayer hlive h0 => exact hr.congr rfl rfl

theorem initial_sound (self owner : Address) : (SourceEscrow.initial self owner).Sound where
  le := fun _ _ => Nat.le_refl _
  paid := fun _ _ hs => nomatch hs
  blank := fun _ _ _ => rfl
  payout := fun _ hp => absurd rfl hp

theorem initial_reconciled (self owner : Address) :
    (SourceEscrow.initial self owner).Reconciled where
  openAmount := fun _ => (sum_eq_zero fun _ _ => rfl).symm
  cancelled := fun _ _ hs => nomatch hs

end SourceEscrow

/-! ### The book -/

/-- What is open of a receivable. -/
def Receivable.openPart (r : Receivable) : Nat :=
  if r.state = .open_ ∨ r.state = .assigned then r.net - r.paid else 0

namespace ReceivableBook

/-- The sum of what is open of the receivables of an account. -/
def openTotal (b : ReceivableBook) (a : AccountId) : Nat :=
  ∑ ref, (b.receivables ⟨a.providerId, a.accountKey, ref⟩).openPart

/-- The open amount of every account is the sum. -/
def Reconciled (b : ReceivableBook) : Prop := ∀ a, (b.stats a).openAmount = b.openTotal a

/-- What holds of a receivable in every state. -/
structure ReceivableSound (r : Receivable) : Prop where
  le : r.paid ≤ r.net
  paid : r.state = .paid → r.paid = r.net
  blank : r.state = .none → r.paid = 0

/-- What holds of the receivables in every state. -/
def Sound (b : ReceivableBook) : Prop := ∀ id, ReceivableSound (b.receivables id)

/-- The call ingests the reversal of a payout of a receivable that was cancelled. -/
def ReversesCancelled (b : ReceivableBook) : BookCall → Prop
  | .ingest _ _ P _ (.payoutCancelled _ _ seq amount) _ =>
    ∃ id, (b.settlements P seq).receivableId = some id ∧ (b.receivables id).state = .cancelled ∧
      amount ≠ 0
  | _ => False

variable {now : Nat} {reg : Providers} {emitter : Address} {P : ProviderId} {rec : EvidenceRecord}
  {b b' : ReceivableBook} {event : SourceEvent} {id : ReceivableId} {r : Receivable} {n m : Nat}

@[simp]
theorem moved_receivables_self : (b.moved id r n m).receivables id = r := Function.update_self ..

theorem moved_receivables_of_ne {id' : ReceivableId} (h : id' ≠ id) :
    (b.moved id r n m).receivables id' = b.receivables id' := Function.update_of_ne h ..

/-- The sum moves with the receivable that moves. -/
theorem moved_openTotal :
    (b.moved id r n m).openTotal id.account + (b.receivables id).openPart =
      b.openTotal id.account + r.openPart := by
  have hsum := Total.sum_univ_add_eq
    (f := fun ref => (b.receivables ⟨id.providerId, id.accountKey, ref⟩).openPart)
    (g := fun ref => ((b.moved id r n m).receivables ⟨id.providerId, id.accountKey, ref⟩).openPart)
    id.obligationRef (fun ref href => by
      rw [moved_receivables_of_ne]
      exact fun h => href (congrArg ReceivableId.obligationRef h))
  rw [moved_receivables_self] at hsum
  exact hsum

theorem moved_openTotal_of_ne {a : AccountId} (h : a ≠ id.account) :
    (b.moved id r n m).openTotal a = b.openTotal a := by
  refine sum_congr rfl fun ref _ => ?_
  rw [moved_receivables_of_ne]
  intro heq
  rw [← heq] at h
  exact h rfl

/-- The book is reconciled after a move exactly when the open amount moves with the open part. -/
theorem Reconciled.moved_iff (h : b.Reconciled) :
    (b.moved id r n m).Reconciled ↔
      n + (b.receivables id).openPart = (b.stats id.account).openAmount + r.openPart := by
  have htotal : (b.moved id r n m).openTotal id.account + (b.receivables id).openPart =
      b.openTotal id.account + r.openPart := moved_openTotal
  have hwas := h id.account
  have hstat : ((b.moved id r n m).stats id.account).openAmount = n := by
    show (Function.update b.stats id.account _ id.account).openAmount = n
    rw [Function.update_self]
  constructor
  · intro h'
    have hnow := h' id.account
    omega
  · intro hn a
    by_cases ha : a = id.account
    · subst ha
      omega
    · rw [moved_openTotal_of_ne ha, ← h a]
      show (Function.update b.stats id.account _ a).openAmount = _
      rw [Function.update_of_ne ha]

theorem Reconciled.congr (h : b.Reconciled)
    (hr : ∀ id, (b'.receivables id).openPart = (b.receivables id).openPart)
    (hs : ∀ a, (b'.stats a).openAmount = (b.stats a).openAmount) : b'.Reconciled := by
  intro a
  rw [hs, h a]
  exact sum_congr rfl fun ref _ => (hr _).symm

theorem Sound.moved (h : b.Sound) (hr : ReceivableSound r) : (b.moved id r n m).Sound := by
  intro id'
  by_cases hid : id' = id
  · subst hid
    rwa [moved_receivables_self]
  · rw [moved_receivables_of_ne hid]
    exact h id'

/-- A total that names no obligation leaves the open amounts as they are. -/
theorem withPaid_openAmount (accountId a : AccountId) :
    ((b.withPaid accountId n).stats a).openAmount = (b.stats a).openAmount := by
  show (Function.update b.stats accountId _ a).openAmount = _
  by_cases ha : a = accountId
  · subst ha
    rw [Function.update_self]
  · rw [Function.update_of_ne ha]

/-- Every log keeps the receivables sound. -/
theorem Sound.effect (h : b.Sound) (heffect : BookEffect now reg emitter P rec b event b') :
    b'.Sound := by
  cases heffect with
  | recognized _ id issuer payer token amount dueAt hev hP hnone hzero hword =>
    refine h.moved ⟨?_, (fun hs => nomatch hs), fun hs => nomatch hs⟩
    show (b.receivables id).paid ≤ amount
    rw [(h id).blank hnone]
    exact Nat.zero_le _
  | assigned id facilityKey hP hopen hexists hprovider htoken h0 hsame =>
    exact h.moved ⟨(h id).le, (fun hs => nomatch hs), fun hs => nomatch hs⟩
  | assignedFirst id facilityKey hP hopen hexists hprovider htoken h0 =>
    exact Sound.moved (b := b) (n := 0) (m := 0) h ⟨(h id).le, (fun hs => nomatch hs), fun hs => nomatch hs⟩
  | corrected id delta reason openAmount' hP hopen hle hfits hcancel hcover heq =>
    have hbelow := hfits.2.1
    refine h.moved ⟨?_, ?_, ?_⟩
    · show (b.receivables id).paid ≤ (((b.receivables id).net : Int) + delta).toNat
      omega
    · intro hs
      split at hs
      · cases hs
      · obtain ho | ho := hopen <;> · rw [ho] at hs; cases hs
    · intro hs
      split at hs
      · cases hs
      · obtain ho | ho := hopen <;> · rw [ho] at hs; cases hs
  | paid id token payer amount seq hP h0 hseen hopen htoken hfacility hfits hcover =>
    refine Sound.moved (b := b) (n := 0) (m := 0) h ⟨hfits, ?_, ?_⟩
    · intro hs
      dsimp only at hs
      split at hs
      · assumption
      · obtain ho | ho := hopen <;> · rw [ho] at hs; cases hs
    · intro hs
      dsimp only at hs
      split at hs
      · cases hs
      · obtain ho | ho := hopen <;> · rw [ho] at hs; cases hs
  | paidUnnamed a token payer amount seq hseen => exact h
  | unpaid id seq amount hP hexists haccount hid hlive hamount hpaid hcover hword =>
    have hle := (h id).le
    refine Sound.moved (b := b) (n := 0) (m := 0) h ⟨?_, ?_, ?_⟩
    · show (b.receivables id).paid - amount ≤ (b.receivables id).net
      omega
    · intro hs
      split at hs
      · split at hs <;> cases hs
      · contradiction
    · intro hs
      split at hs
      · split at hs <;> cases hs
      · have hzero := (h id).blank hs
        show (b.receivables id).paid - amount = 0
        omega
  | unpaidUnnamed a ref seq amount hexists haccount hid hlive hamount hcover => exact h
  | checkpointed _ a seq latestRevision openAmount paidCumulative observedAt until_ hev => exact h

/-- A log keeps the book reconciled unless it reverses a payout of a cancelled receivable. -/
theorem Reconciled.effect_iff (hr : b.Reconciled) (h : b.Sound) {log : Nat} {c : ReceivableClaim}
    (heffect : BookEffect now reg emitter P rec b event b') :
    b'.Reconciled ↔ ¬b.ReversesCancelled (.ingest reg emitter P log event c) := by
  cases heffect with
  | recognized _ id issuer payer token amount dueAt hev hP hnone hzero hword =>
    have hpaid := (h id).blank hnone
    have hnot : ¬b.ReversesCancelled (.ingest reg emitter P log event c) := by
      obtain ⟨rfl, -⟩ | ⟨t, rfl, -⟩ := hev <;> exact not_false
    rw [hr.moved_iff]
    simp [Receivable.openPart, hnone, hpaid, hnot]
  | assigned id facilityKey hP hopen hexists hprovider htoken h0 hsame =>
    rw [hr.moved_iff]
    simp [Receivable.openPart, hopen, ReversesCancelled]
  | assignedFirst id facilityKey hP hopen hexists hprovider htoken h0 =>
    have hkept : (b.moved id
        { b.receivables id with
          revision := (b.receivables id).revision + 1,
          facilityId := b.facilityByKey facilityKey, state := .assigned,
          evidenceValidUntil := rec.validUntil }
        (b.stats id.account).openAmount (b.stats id.account).paidCumulative).Reconciled :=
      hr.moved_iff.mpr (by simp [Receivable.openPart, hopen])
    exact iff_of_true (hkept.congr (fun _ => rfl) fun _ => rfl) not_false
  | corrected id delta reason openAmount' hP hopen hle hfits hcancel hcover heq =>
    have hbelow := hfits.2.1
    rw [hr.moved_iff]
    refine iff_of_true ?_ not_false
    rw [heq]
    by_cases hreason : reason = correctionReasonCancel
    · have hzero := hcancel hreason
      simp only [Receivable.openPart, hopen, hreason, if_true, reduceCtorEq, or_self, if_false]
      omega
    · simp only [Receivable.openPart, hopen, hreason, if_true, if_false]
      omega
  | paid id token payer amount seq hP h0 hseen hopen htoken hfacility hfits hcover =>
    refine iff_of_true (Reconciled.congr (hr.moved_iff.mpr ?_) (fun _ => rfl) fun _ => rfl) not_false
    by_cases hfull : (b.receivables id).paid + amount = (b.receivables id).net
    · simp only [Receivable.openPart, hopen, hfull, if_true, reduceCtorEq, or_self, if_false]
      omega
    · simp only [Receivable.openPart, hopen, hfull, if_true, if_false]
      omega
  | paidUnnamed a token payer amount seq hseen =>
    exact iff_of_true (hr.congr (fun _ => rfl) fun a => withPaid_openAmount _ a) not_false
  | unpaid id seq amount hP hexists haccount hid hlive hamount hpaid hcover hword =>
    have hle := (h id).le
    have hcongr : ∀ b₁ : ReceivableBook, b₁.Reconciled ↔ (b₁.withSettlement P seq
        { b.settlements P seq with cancelled := true }).Reconciled := fun b₁ => Iff.rfl
    rw [← hcongr, hr.moved_iff]
    simp only [ReversesCancelled, hid, Option.some.injEq, exists_eq_left', not_and, not_not]
    cases hst : (b.receivables id).state with
    | none =>
      have hzero := (h id).blank hst
      simp only [Receivable.openPart, hst, reduceCtorEq, or_self, if_false]
      simp
      omega
    | open_ =>
      simp only [Receivable.openPart, hst, reduceCtorEq, true_or, if_false, if_true]
      simp
      omega
    | assigned =>
      simp only [Receivable.openPart, hst, reduceCtorEq, or_true, if_false, if_true]
      simp
      omega
    | paid =>
      have hfull := (h id).paid hst
      have hback : (if (b.receivables id).facilityId ≠ 0 then ReceivableState.assigned else .open_) =
          .open_ ∨ (if (b.receivables id).facilityId ≠ 0 then ReceivableState.assigned else .open_) =
          .assigned := by
        split <;> simp
      simp only [Receivable.openPart, hst, hback, reduceCtorEq, or_self, if_false, if_true]
      simp
      omega
    | cancelled =>
      simp only [Receivable.openPart, hst, reduceCtorEq, or_self, if_false]
      simp
  | unpaidUnnamed a ref seq amount hexists haccount hid hlive hamount hcover =>
    refine iff_of_true (hr.congr (fun _ => rfl) fun a => withPaid_openAmount _ a) ?_
    rintro ⟨id, hsome, -⟩
    rw [hid] at hsome
    cases hsome
  | checkpointed _ a seq latestRevision openAmount paidCumulative observedAt until_ hev =>
    refine iff_of_true (hr.congr (fun _ => rfl) fun _ => rfl) ?_
    obtain ⟨rfl, -⟩ | rfl := hev <;> exact not_false

end ReceivableBook

/-! ### Runs -/

open SourceEscrow in
theorem SourceStep.reconciled_iff {e e' : SourceEscrow} {tx : SourceTx} (h : e.Sound)
    (hr : e.Reconciled) (hstep : SourceStep e tx e') :
    e'.Reconciled ↔ ¬e.ReversesCancelled tx.2 := by
  obtain ⟨events, heffect⟩ := SourceStep.effect hstep
  exact ⟨fun h' hrev => h.reverses hr hrev heffect h', fun hrev => hr.step h hrev heffect⟩

open ReceivableBook

theorem DestinationStep.sound {facilityKey : FacilityId → Bytes32} {d d' : Destination} {tx : BookTx}
    (h : d.book.Sound) (hstep : DestinationStep facilityKey d tx d') : d'.book.Sound := by
  obtain ⟨reg, emitter, P, log, event, c, rec, -, heffect⟩ | ⟨id, disputed, -, -, hbook⟩ |
    ⟨reg, facilityId, borrowerId, providerId, sourceAsset, -, -, hbook⟩ := hstep.effect
  · exact h.effect heffect
  · rw [hbook]
    intro id'
    show ReceivableSound (Function.update d.book.receivables id _ id')
    by_cases hid : id' = id
    · subst hid
      rw [Function.update_self]
      exact ⟨(h id').le, (h id').paid, (h id').blank⟩
    · rw [Function.update_of_ne hid]
      exact h id'
  · rw [hbook]
    exact h

theorem DestinationStep.reconciled_iff {facilityKey : FacilityId → Bytes32} {d d' : Destination}
    {tx : BookTx} (h : d.book.Sound) (hr : d.book.Reconciled)
    (hstep : DestinationStep facilityKey d tx d') :
    d'.book.Reconciled ↔ ¬d.book.ReversesCancelled tx.2 := by
  obtain ⟨reg, emitter, P, log, event, c, rec, htx, heffect⟩ | ⟨id, disputed, htx, -, hbook⟩ |
    ⟨reg, facilityId, borrowerId, providerId, sourceAsset, htx, -, hbook⟩ := hstep.effect
  · rw [htx]
    exact hr.effect_iff h heffect
  · rw [htx, hbook]
    refine iff_of_true (hr.congr (fun id' => ?_) fun _ => rfl) not_false
    show (Function.update d.book.receivables id _ id').openPart = _
    by_cases hid : id' = id
    · subst hid
      rw [Function.update_self]
      rfl
    · rw [Function.update_of_ne hid]
  · rw [htx, hbook]
    exact iff_of_true (hr.congr (fun _ => rfl) fun _ => rfl) not_false

theorem ReceivableBook.initial_sound : ReceivableBook.initial.Sound := fun _ =>
  ⟨Nat.le_refl _, (fun hs => nomatch hs), fun _ => rfl⟩

theorem ReceivableBook.initial_reconciled : ReceivableBook.initial.Reconciled := fun _ =>
  (sum_eq_zero fun _ _ => rfl).symm

/-- On the escrow and in the book, whatever logs it ingests: the open amounts are the sums of what is
open, and the cancelled obligations have nothing unpaid, in every state of a run, if and only if no
payout of a cancelled obligation is reversed in the run. -/
theorem open_amounts_match (self owner : Address) (txs : List SourceTx)
    (facilityKey : FacilityId → Bytes32) (bookTxs : List BookTx) :
    ((∀ pre post e, txs = pre ++ post → Steps SourceStep (.initial self owner) pre e →
        e.Reconciled) ↔
      ∀ e tx e', StepOf SourceStep (.initial self owner) txs e tx e' → ¬e.ReversesCancelled tx.2) ∧
    ((∀ pre post d, bookTxs = pre ++ post → Steps (DestinationStep facilityKey) .initial pre d →
        d.book.Reconciled) ↔
      ∀ d tx d', StepOf (DestinationStep facilityKey) .initial bookTxs d tx d' →
        ¬d.book.ReversesCancelled tx.2) := by
  constructor
  · refine Steps.stays_iff (I := SourceEscrow.Sound) (SourceEscrow.initial_sound self owner) ?_
      (SourceEscrow.initial_reconciled self owner)
      fun e tx e' h hr hstep => hstep.reconciled_iff h hr
    intro e tx e' h hstep
    obtain ⟨events, heffect⟩ := SourceStep.effect hstep
    exact h.step heffect
  · exact Steps.stays_iff (I := fun d => d.book.Sound) ReceivableBook.initial_sound
      (fun d tx d' h hstep => hstep.sound h) ReceivableBook.initial_reconciled
      fun d tx d' h hr hstep => hstep.reconciled_iff h hr

namespace Sample

/-- The wallet 7 has the account 1, the payer 9 owes it 100 of the token 5 and pays 40. -/
def partlyPaid : List SourceTx :=
  [sourceTx 1 (.setIssuer 1 true), sourceTx 1 (.setPayer 9 true), sourceTx 1 (.registerAccount 1 7),
    sourceTx 1 (.admitToken 5 6 false), sourceTx 2 (.recognizeObligation 1 1 9 5 100 50),
    (⟨9, 3⟩, .settle 1 1 5 40 1 (some 40))]

/-- The rest is cancelled, and then the payout is reversed. -/
def reversedAfterCancel : List SourceTx :=
  partlyPaid ++ [sourceTx 4 (.correctObligation 1 1 (-60) .cancel),
    sourceTx 5 (.cancelPayout 1 true)]

end Sample

/-- A payout of 40 reversed after the cancellation of its obligation: the account has 40 open, and
its only obligation is cancelled with a net of 40 and nothing paid. -/
theorem reversed_payout_of_cancelled_stays_open :
    ∃ e, SourceReachable e ∧ e.openAmount 1 = 40 ∧ (e.obligations 1 1).status = .cancelled ∧
      (e.obligations 1 1).net = 40 ∧ (e.obligations 1 1).paid = 0 ∧ ¬e.Reconciled := by
  obtain ⟨e, hrun, hview⟩ := Sample.sourceEscrow.run_view Sample.reversedAfterCancel
    (fun e => (e.openAmount 1, (e.obligations 1 1).status, (e.obligations 1 1).net,
      (e.obligations 1 1).paid))
    (v := (40, .cancelled, 40, 0)) (by decide +kernel)
  simp only [Prod.mk.injEq] at hview
  obtain ⟨hopen, hstatus, hnet, hpaid⟩ := hview
  refine ⟨e, ⟨_, _, ⟨100, 1, rfl⟩, SourceEscrow.run_steps hrun⟩, hopen, hstatus, hnet, hpaid, ?_⟩
  intro h
  have hbad := h.cancelled 1 1 hstatus
  omega

end Rackline
