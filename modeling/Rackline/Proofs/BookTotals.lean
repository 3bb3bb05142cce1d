import Rackline.Proofs.IngestedFacts
import Rackline.Proofs.OpenAmounts

/-!
# `Rackline.Proofs.BookTotals`: the totals cover what they are made of

The book subtracts from the totals of an account: the unpaid part of a receivable that is corrected or
paid, the amount of a payout that is cancelled. None of this can fail, because the totals cover these
amounts in every state, whatever was ingested (`Covering`).

A facility that was registered is found under its key, and no other under that key, as long as the
hash of the ids has no collisions (`Keyed`).
-/

set_option autoImplicit false

namespace Rackline

open Evm Transition Finset

/-- What a settlement adds to the paid total of an account, until it is cancelled. -/
def Settlement.liveFor (st : Settlement) (a : AccountKey) : Nat :=
  if st.exists_ = true ∧ st.cancelled = false ∧ st.accountKey = a then st.amount else 0

theorem Receivable.openPart_le (r : Receivable) : r.openPart ≤ r.net - r.paid := by
  unfold openPart
  split
  · exact Nat.le_refl _
  · exact Nat.zero_le _

theorem Receivable.openPart_of_live {r : Receivable} (h : r.state = .open_ ∨ r.state = .assigned) :
    r.openPart = r.net - r.paid := if_pos h

namespace ReceivableBook

/-- The open amount covers what is open, and the paid total covers the settlements that live. -/
structure Covering (b : ReceivableBook) : Prop where
  opened : ∀ A, b.openTotal A ≤ (b.stats A).openAmount
  paid : ∀ (A : AccountId) (seqs : Finset Nat),
    ∑ seq ∈ seqs, (b.settlements A.providerId seq).liveFor A.accountKey ≤
      (b.stats A).paidCumulative

/-- The keys of the facilities. -/
structure Keyed (facilityKey : FacilityId → Bytes32) (b : ReceivableBook) : Prop where
  named : ∀ k, b.facilityByKey k ≠ 0 → facilityKey (b.facilityByKey k) = k
  found : ∀ f, (b.facilities f).exists_ = true → b.facilityByKey (facilityKey f) = f

variable {now : Nat} {reg : Providers} {emitter : Address} {P : ProviderId} {rec : EvidenceRecord}
  {b b' : ReceivableBook} {event : SourceEvent} {id : ReceivableId} {r : Receivable} {n m : Nat}
  {facilityKey : FacilityId → Bytes32}

/-! ### Keys -/

theorem initial_keyed : ReceivableBook.initial.Keyed facilityKey where
  named := fun _ h => absurd rfl h
  found := fun _ h => nomatch h

theorem Keyed.congr (h : b.Keyed facilityKey) (hf : b'.facilities = b.facilities)
    (hk : b'.facilityByKey = b.facilityByKey) : b'.Keyed facilityKey where
  named := by
    rw [hk]
    exact h.named
  found := by
    rw [hf, hk]
    exact h.found

theorem effect_facilities (h : BookEffect now reg emitter P rec b event b') :
    b'.facilities = b.facilities ∧ b'.facilityByKey = b.facilityByKey := by
  cases h with
  | _ => exact ⟨rfl, rfl⟩

theorem Keyed.configured (h : b.Keyed facilityKey) (hinj : Function.Injective facilityKey)
    (hc : Configured facilityKey b b') : b'.Keyed facilityKey := by
  cases hc with
  | disputed => exact h.congr rfl rfl
  | registered facilityId f hnew hf =>
    constructor
    · intro k
      show Function.update b.facilityByKey (facilityKey facilityId) facilityId k ≠ 0 →
        facilityKey (Function.update b.facilityByKey (facilityKey facilityId) facilityId k) = k
      by_cases hk : k = facilityKey facilityId
      · subst hk
        rw [Function.update_self]
        exact fun _ => rfl
      · rw [Function.update_of_ne hk]
        exact h.named k
    · intro g
      show (Function.update b.facilities facilityId f g).exists_ = true →
        Function.update b.facilityByKey (facilityKey facilityId) facilityId (facilityKey g) = g
      by_cases hg : g = facilityId
      · subst hg
        rw [Function.update_self, Function.update_self]
        exact fun _ => rfl
      · rw [Function.update_of_ne hg, Function.update_of_ne fun hkey => hg (hinj hkey)]
        exact h.found g

/-! ### What is open -/

/-- A move keeps what is open covered when the open amount moves along. -/
theorem opened_moved (h : ∀ A, b.openTotal A ≤ (b.stats A).openAmount)
    (hle : (b.stats id.account).openAmount + r.openPart ≤ n + (b.receivables id).openPart)
    (A : AccountId) : (b.moved id r n m).openTotal A ≤ ((b.moved id r n m).stats A).openAmount := by
  by_cases hA : A = id.account
  · subst hA
    have htotal : (b.moved id r n m).openTotal id.account + (b.receivables id).openPart =
        b.openTotal id.account + r.openPart := moved_openTotal
    have hwas := h id.account
    have hnow : ((b.moved id r n m).stats id.account).openAmount = n := by
      show (Function.update b.stats id.account _ id.account).openAmount = n
      rw [Function.update_self]
    omega
  · rw [moved_openTotal_of_ne hA]
    show _ ≤ (Function.update b.stats id.account _ A).openAmount
    rw [Function.update_of_ne hA]
    exact h A

/-- The same when the open amount moves along with what is unpaid. -/
theorem opened_unpaid (h : ∀ A, b.openTotal A ≤ (b.stats A).openAmount)
    (hle : (b.stats id.account).openAmount + (r.net - r.paid) ≤ n + (b.receivables id).openPart)
    (A : AccountId) : (b.moved id r n m).openTotal A ≤ ((b.moved id r n m).stats A).openAmount :=
  opened_moved h (le_trans (Nat.add_le_add_left r.openPart_le _) hle) A

/-- What is open of a receivable is covered by the open amount. -/
theorem Covering.openPart_le (h : b.Covering) (id : ReceivableId) :
    (b.receivables id).openPart ≤ (b.stats id.account).openAmount := by
  refine le_trans ?_ (h.opened id.account)
  exact Total.le_sum_univ
    (f := fun ref => (b.receivables ⟨id.providerId, id.accountKey, ref⟩).openPart) id.obligationRef

theorem Covering.opened_effect (h : b.Covering) (hs : b.Sound)
    (heffect : BookEffect now reg emitter P rec b event b') (A : AccountId) :
    b'.openTotal A ≤ (b'.stats A).openAmount := by
  cases heffect with
  | recognized _ id issuer payer token amount dueAt =>
    refine opened_unpaid h.opened ?_ A
    dsimp only
    omega
  | assigned id facilityKey hP hopen | assignedFirst id facilityKey hP hopen =>
    refine opened_unpaid h.opened ?_ A
    rw [Receivable.openPart_of_live hopen]
  | corrected id delta reason openAmount' hP hopen hle hfits hcancel hcover hresult =>
    refine opened_unpaid h.opened ?_ A
    rw [Receivable.openPart_of_live hopen]
    dsimp only
    omega
  | paid id token payer amount seq hP href hseen hopen htoken hfacility hfits hcover =>
    refine opened_unpaid h.opened ?_ A
    rw [Receivable.openPart_of_live hopen]
    dsimp only
    omega
  | paidUnnamed | unpaidUnnamed =>
    refine le_trans (h.opened A) (Nat.le_of_eq ?_)
    exact (withPaid_openAmount ..).symm
  | unpaid id seq amount hP hexists haccount hid hlive hamount hle hpaid hword =>
    have hwas := (hs id).le
    -- A receivable that is reopened was paid in full; one that is not open stays so.
    by_cases hstate : (b.receivables id).state = .paid
    · have hfull := (hs id).paid hstate
      refine opened_unpaid h.opened ?_ A
      dsimp only
      omega
    · refine opened_moved h.opened ?_ A
      simp only [Receivable.openPart, if_neg hstate]
      split
      · omega
      · omega
  | checkpointed => exact h.opened A

/-! ### What was paid -/

/-- One settlement written. -/
theorem live_set2 (P Q : ProviderId) (seq : Nat) (st : Settlement) (a : AccountKey) :
    (fun s => (set2 b.settlements P seq st Q s).liveFor a) =
      if Q = P then
        Function.update (fun s => (b.settlements Q s).liveFor a) seq (st.liveFor a)
      else fun s => (b.settlements Q s).liveFor a := by
  funext s
  split
  case isTrue hQ =>
    subst hQ
    rw [set2_row]
    by_cases hs : s = seq
    · subst hs
      rw [Function.update_self, Function.update_self]
    · rw [Function.update_of_ne hs, Function.update_of_ne hs]
  case isFalse hQ => rw [set2_row_of_ne _ _ _ hQ]

/-- One term more. -/
theorem sum_update_le (f : Nat → Nat) (i v : Nat) (seqs : Finset Nat) :
    ∑ s ∈ seqs, Function.update f i v s ≤ ∑ s ∈ seqs, f s + v := by
  by_cases hi : i ∈ seqs
  · rw [Finset.sum_update_of_mem hi, add_comm]
    exact Nat.add_le_add_right (Finset.sum_le_sum_of_subset Finset.sdiff_subset) _
  · rw [Finset.sum_update_of_notMem hi]
    exact Nat.le_add_right _ _

/-- One term less. -/
theorem sum_update_zero_add (f : Nat → Nat) (i : Nat) (seqs : Finset Nat) :
    ∑ s ∈ seqs, Function.update f i 0 s + f i ≤ ∑ s ∈ insert i seqs, f s := by
  have hle : ∑ s ∈ seqs, Function.update f i 0 s ≤ ∑ s ∈ insert i seqs, Function.update f i 0 s :=
    Finset.sum_le_sum_of_subset (Finset.subset_insert _ _)
  rw [Finset.sum_update_of_mem (Finset.mem_insert_self _ _), zero_add] at hle
  have hsplit := Finset.sum_sdiff (f := f) (Finset.singleton_subset_iff.mpr
    (Finset.mem_insert_self i seqs))
  rw [Finset.sum_singleton] at hsplit
  omega

/-- The paid total of an account after one write to the totals. -/
theorem update_paid (a : AccountId) (st : AccountStats) (A : AccountId) :
    (Function.update b.stats a st A).paidCumulative =
      if A = a then st.paidCumulative else (b.stats A).paidCumulative := by
  split
  case isTrue hA => rw [hA, Function.update_self]
  case isFalse hA => rw [Function.update_of_ne hA]

/-- A settlement that was not there is written. -/
theorem Covering.paid_added (h : b.Covering) {seq : Nat} {st : Settlement} {a : AccountKey}
    (hsettlements : b'.settlements = set2 b.settlements P seq st) (haccount : st.accountKey = a)
    (hstats : ∀ A, (b'.stats A).paidCumulative =
      if A = ⟨P, a⟩ then (b.stats ⟨P, a⟩).paidCumulative + st.amount
      else (b.stats A).paidCumulative)
    (A : AccountId) (seqs : Finset Nat) :
    ∑ s ∈ seqs, (b'.settlements A.providerId s).liveFor A.accountKey ≤
      (b'.stats A).paidCumulative := by
  have hwas := h.paid A seqs
  have hold : (b.stats A).paidCumulative ≤ (b'.stats A).paidCumulative := by
    rw [hstats]
    split
    case isTrue hA => rw [hA]; exact Nat.le_add_right _ _
    case isFalse => exact Nat.le_refl _
  rw [hsettlements, live_set2]
  split
  case isTrue hP =>
    refine le_trans (sum_update_le _ _ _ _) ?_
    by_cases ha : A.accountKey = a
    · obtain rfl : A = ⟨P, a⟩ := by
        rw [← hP, ← ha]
      have hnew := hstats ⟨P, a⟩
      rw [if_pos rfl] at hnew
      have hlive : st.liveFor a ≤ st.amount := by
        unfold Settlement.liveFor
        split
        · exact Nat.le_refl _
        · exact Nat.zero_le _
      dsimp only at hwas ⊢
      omega
    · have hzero : st.liveFor A.accountKey = 0 := if_neg fun hl => ha (hl.2.2.symm.trans haccount)
      rw [hzero]
      exact le_trans hwas hold
  case isFalse => exact le_trans hwas hold

/-- A settlement that lives is cancelled. -/
theorem Covering.paid_dropped (h : b.Covering) {seq : Nat} {a : AccountKey}
    (hlive : (b.settlements P seq).exists_ = true ∧ (b.settlements P seq).cancelled = false ∧
      (b.settlements P seq).accountKey = a)
    (hsettlements : b'.settlements =
      set2 b.settlements P seq { b.settlements P seq with cancelled := true })
    (hstats : ∀ A, (b'.stats A).paidCumulative =
      if A = ⟨P, a⟩ then (b.stats ⟨P, a⟩).paidCumulative - (b.settlements P seq).amount
      else (b.stats A).paidCumulative)
    (A : AccountId) (seqs : Finset Nat) :
    ∑ s ∈ seqs, (b'.settlements A.providerId s).liveFor A.accountKey ≤
      (b'.stats A).paidCumulative := by
  have hzero : ∀ a', Settlement.liveFor { b.settlements P seq with cancelled := true } a' = 0 :=
    fun a' => if_neg fun hl => nomatch hl.2.1
  rw [hsettlements, live_set2, hzero, hstats]
  split
  case isTrue hP =>
    have hwas := h.paid A (insert seq seqs)
    have hsum := sum_update_zero_add (fun s => (b.settlements A.providerId s).liveFor A.accountKey)
      seq seqs
    by_cases hA : A = ⟨P, a⟩
    · subst hA
      have hamount : (b.settlements P seq).liveFor a = (b.settlements P seq).amount := if_pos hlive
      rw [if_pos rfl]
      dsimp only at hsum hwas ⊢
      omega
    · rw [if_neg hA]
      omega
  case isFalse hP =>
    rw [if_neg fun hA => hP (by rw [hA])]
    exact h.paid A seqs

theorem Covering.paid_effect (h : b.Covering)
    (heffect : BookEffect now reg emitter P rec b event b') (A : AccountId) (seqs : Finset Nat) :
    ∑ s ∈ seqs, (b'.settlements A.providerId s).liveFor A.accountKey ≤
      (b'.stats A).paidCumulative := by
  have hsame : ∀ {a : AccountId} {st : AccountStats},
      st.paidCumulative = (b.stats a).paidCumulative →
        ∑ s ∈ seqs, (b.settlements A.providerId s).liveFor A.accountKey ≤
          (Function.update b.stats a st A).paidCumulative := by
    intro a st hst
    by_cases hA : A = a
    · subst hA
      rw [Function.update_self, hst]
      exact h.paid A seqs
    · rw [Function.update_of_ne hA]
      exact h.paid A seqs
  cases heffect with
  | recognized | assigned | assignedFirst | corrected => exact hsame (by rfl)
  | paid id token payer amount seq hP =>
    subst hP
    exact h.paid_added (a := id.accountKey) rfl rfl (update_paid _ _) A seqs
  | paidUnnamed a token payer amount seq =>
    exact h.paid_added (a := a) rfl rfl (update_paid _ _) A seqs
  | unpaid id seq amount hP hexists haccount hid hlive hamount =>
    subst hP hamount
    exact h.paid_dropped ⟨hexists, hlive, haccount⟩ rfl (update_paid _ _) A seqs
  | unpaidUnnamed a ref seq amount hexists haccount hnone hlive hamount =>
    subst hamount
    exact h.paid_dropped ⟨hexists, hlive, haccount⟩ rfl (update_paid _ _) A seqs
  | checkpointed => exact h.paid A seqs

/-- The total of an account covers each of its settlements that lives. -/
theorem Covering.live_le (h : b.Covering) {seq : Nat} {a : AccountKey}
    (hlive : (b.settlements P seq).exists_ = true ∧ (b.settlements P seq).cancelled = false ∧
      (b.settlements P seq).accountKey = a) :
    (b.settlements P seq).amount ≤ (b.stats ⟨P, a⟩).paidCumulative := by
  have hsum := h.paid ⟨P, a⟩ {seq}
  rw [Finset.sum_singleton, Settlement.liveFor, if_pos hlive] at hsum
  exact hsum

theorem initial_covering : ReceivableBook.initial.Covering where
  opened := fun _ => Nat.le_of_eq (sum_eq_zero fun _ _ => rfl)
  paid := fun _ _ => Nat.le_of_eq (sum_eq_zero fun _ _ => rfl)

theorem Covering.effect (h : b.Covering) (hs : b.Sound)
    (heffect : BookEffect now reg emitter P rec b event b') : b'.Covering :=
  ⟨h.opened_effect hs heffect, h.paid_effect heffect⟩

theorem Covering.configured (h : b.Covering) (hc : Configured facilityKey b b') : b'.Covering := by
  obtain ⟨hstats, hsettlements, -⟩ := hc.others
  constructor
  · intro A
    rw [hstats]
    refine le_trans (Nat.le_of_eq (sum_congr rfl fun ref _ => ?_)) (h.opened A)
    obtain ⟨hnet, hpaid, hstate⟩ := hc.amounts ⟨A.providerId, A.accountKey, ref⟩
    rw [Receivable.openPart, Receivable.openPart, hnet, hpaid, hstate]
  · rw [hstats, hsettlements]
    exact h.paid

theorem Sound.configured (h : b.Sound) (hc : Configured facilityKey b b') : b'.Sound := by
  intro id
  obtain ⟨hnet, hpaid, hstate⟩ := hc.amounts id
  constructor
  · rw [hnet, hpaid]
    exact (h id).le
  · rw [hstate, hnet, hpaid]
    exact (h id).paid
  · rw [hstate, hpaid]
    exact (h id).blank

end ReceivableBook

end Rackline
