import Rackline.Proofs.Rejections
import Rackline.Lib.Transition

/-!
# `Rackline.Proofs.ReceivableStates`: the states of the receivables and their amounts

A receivable that is paid in full is `PAID`, and a `PARTIALLY_PAID` one is paid in part
(`Receivable.Matches`). The branches of the second loop write the state by different rules: a
revision of the obligation does not write it at all, a correction only ever to `PAID`, and a
cancellation never to `PAID`. `EconomicEvent.InStep` says for each of them when its rule agrees with
the amounts.
`apply_matching` is the step lemma, and `receivable_states_match` the run.
-/

set_option autoImplicit false

namespace Rackline.Reconciler

open Transition

/-- The state of a receivable agrees with its amounts. -/
def Receivable.Matches (r : Receivable) : Prop :=
  (r.state = .PAID ↔ r.net ≤ r.paid) ∧ (r.state = .PARTIALLY_PAID → 0 < r.paid ∧ r.paid < r.net)

instance (r : Receivable) : Decidable r.Matches :=
  inferInstanceAs (Decidable ((_ ↔ _) ∧ (_ → _)))

/-- The states of all receivables agree with their amounts. -/
def Ledger.Matching (L : Ledger) : Prop := ∀ k r, L.receivables k = some r → r.Matches

/-- A turn of the second loop. -/
def Applies (facilities : FacilityTable) (L : Ledger) (e : EconomicEvent) (L' : Ledger) : Prop :=
  apply facilities e L = some L'

section
variable {L : Ledger}

/-- What writes no receivable changes no state. -/
theorem Ledger.Matching.congr {M : Ledger} (hL : L.Matching)
    (h : M.receivables = L.receivables) : M.Matching := by
  unfold Ledger.Matching
  rwa [h]

/-- Of a ledger that matches, only the receivable that is written has to be looked at. -/
theorem Ledger.Matching.set (hL : L.Matching) (k : String) (r : Receivable) :
    (L.setReceivable k r).Matching ↔ r.Matches := by
  have hwritten : (L.setReceivable k r).receivables k = some r := Function.update_self ..
  constructor
  · intro h
    exact h k r hwritten
  · intro hr k' r' h
    by_cases hk : k' = k
    · subst hk
      cases hwritten.symm.trans h
      exact hr
    · exact hL k' r' ((Function.update_of_ne hk _ _).symm.trans h)

end

section
variable {facilities : FacilityTable} {e : EconomicEvent} {L L' : Ledger}

end

/-! ### The values of the dictionary -/

/-- A turn keeps the events and opens no receivable but that of its own key. -/
def Opens (e : EconomicEvent) (L : Ledger) (x : Option Ledger) : Prop :=
  ∀ M, x = some M → M.economicEvents = L.economicEvents ∧
    ∀ k, (M.receivables k).isSome → (L.receivables k).isSome ∨ k = key e.account e.obligationRef

section
variable {e : EconomicEvent} {L : Ledger}

theorem Opens.none : Opens e L none := fun _ h => nomatch h

theorem Opens.same {M : Ledger} (hevents : M.economicEvents = L.economicEvents)
    (hreceivables : M.receivables = L.receivables) : Opens e L (some M) := by
  intro M' h
  cases h
  refine ⟨hevents, ?_⟩
  intro k hk
  rw [hreceivables] at hk
  exact .inl hk

theorem Opens.set {M : Ledger} {k : String} {r : Receivable}
    (hevents : M.economicEvents = L.economicEvents)
    (hreceivables : M.receivables = (L.setReceivable k r).receivables)
    (hk : (L.receivables k).isSome ∨ k = key e.account e.obligationRef) : Opens e L (some M) := by
  intro M' h
  cases h
  refine ⟨hevents, ?_⟩
  intro k' hk'
  rw [hreceivables] at hk'
  by_cases heq : k' = k
  · rw [heq]
    exact hk
  · have hother : (L.setReceivable k r).receivables k' = L.receivables k' :=
      Function.update_of_ne heq _ _
    rw [hother] at hk'
    exact .inl hk'

theorem payout_opens (e : EconomicEvent) (L : Ledger) : Opens e L (payout e L) := by
  unfold payout
  cases e.amount with
  | none => exact .none
  | some amount =>
    simp only [Option.bind_eq_bind, Option.bind_some, Option.pure_def]
    generalize hM : (if (payoutTarget e L).any (fun r => r.2.asset ≠ e.asset) then
      L.except .TOKEN_MISMATCH (some e.economicEventId) none else L) = M
    have hsame : M.economicEvents = L.economicEvents ∧ M.receivables = L.receivables := by
      rw [← hM]
      split <;> exact ⟨rfl, rfl⟩
    cases hr : payoutTarget e L with
    | none => split <;> exact .same hsame.1 hsame.2
    | some p =>
      obtain ⟨k, r⟩ := p
      have hk : (L.receivables k).isSome := by
        unfold payoutTarget at hr
        split at hr
        · obtain ⟨r', hr', hpair⟩ := Option.map_eq_some_iff.mp hr
          cases hpair
          rw [hr']
          rfl
        · cases hr
      by_cases hcounted : decide (r.asset ≠ e.asset) = false ∧
          payoutProvenance e (some (k, r)) = .PROVIDER_SETTLEMENT
      · simp only [Option.any_some, if_pos hcounted]
        have hwritten : ∀ r', (M.setReceivable k r').receivables =
            (L.setReceivable k r').receivables := by
          intro r'
          show Function.update M.receivables k _ = Function.update L.receivables k _
          rw [hsame.2]
        split <;> exact .set hsame.1 (hwritten _) (.inl hk)
      · simp only [Option.any_some, if_neg hcounted]
        split <;> exact .same hsame.1 hsame.2

theorem apply_opens (facilities : FacilityTable) (e : EconomicEvent) (L : Ledger) :
    Opens e L (apply facilities e L) := by
  unfold apply
  cases e.eventType with
  | OBLIGATION =>
    show Opens e L (obligation e L)
    unfold obligation
    dsimp only
    split
    · split
      · exact .same rfl rfl
      · cases e.amount with
        | none => exact .none
        | some amount => exact .set rfl rfl (.inr rfl)
    · cases e.amount with
      | none => exact .none
      | some amount => exact .set rfl rfl (.inr rfl)
  | ASSIGNMENT =>
    show Opens e L (assignment facilities e L)
    unfold assignment
    dsimp only
    split
    · exact .same rfl rfl
    split
    · exact .same rfl rfl
    split
    · exact .same rfl rfl
    · exact .set rfl rfl (.inr rfl)
  | CORRECTION =>
    show Opens e L (correction e L)
    unfold correction
    split
    · exact .same rfl rfl
    split
    · exact .same rfl rfl
    next r hr =>
      split
      · exact .same rfl rfl
      cases e.delta with
      | none => exact .none
      | some delta =>
        simp only [Option.bind_eq_bind, Option.bind_some, Option.pure_def]
        split <;> exact .set rfl rfl (.inl (by rw [hr]; rfl))
  | PAYOUT => exact payout_opens e L
  | CANCELLATION =>
    show Opens e L (cancellation e L)
    unfold cancellation
    dsimp only
    split
    · exact .same rfl rfl
    cases e.amount with
    | none => exact .none
    | some amount =>
      simp only [Option.bind_eq_bind, Option.bind_some, Option.pure_def]
      split
      · exact .same rfl rfl
      split <;> exact .set rfl rfl (.inr rfl)
  | LEG =>
    show Opens e L (leg e L)
    unfold leg
    cases e.amount with
    | none => exact .none
    | some amount => exact .same rfl rfl
  | DESTINATION_RECEIPT =>
    show Opens e L (destinationReceipt e L)
    unfold destinationReceipt
    cases e.amount with
    | none => exact .none
    | some amount => exact .same rfl rfl
  | ALLOCATION =>
    show Opens e L (allocation facilities e L)
    unfold allocation
    split
    · exact .same rfl rfl
    split
    · exact .same rfl rfl
    cases e.amount with
    | none => exact .none
    | some amount =>
      simp only [Option.bind_eq_bind, Option.bind_some, Option.pure_def]
      split
      · exact .same rfl rfl
      · exact .same rfl rfl
  | DECISION_USE =>
    show Opens e L (decisionUse e L)
    unfold decisionUse
    dsimp only
    split
    · exact .same rfl rfl
    · exact .set rfl rfl (.inr rfl)
  | other name => exact .same rfl rfl

end

/-- Every receivable is opened under the key of one of the events. -/
theorem foldlM_opens (facilities : FacilityTable) : ∀ {events : List EconomicEvent} {L L' : Ledger},
    events.foldlM (fun L e => apply facilities e L) L = some L' →
    (∀ e ∈ events, e ∈ L.economicEvents) → (∀ k, (L.receivables k).isSome → k ∈ L.keys) →
    ∀ k, (L'.receivables k).isSome → k ∈ L'.keys := by
  intro events
  induction events with
  | nil =>
    intro L L' h _ hlisted
    cases h
    exact hlisted
  | cons e events ih =>
    intro L L' h hmem hlisted
    rw [List.foldlM_cons] at h
    obtain ⟨M, hM, hrest⟩ := Option.bind_eq_some_iff.mp h
    obtain ⟨hevents, hopens⟩ := apply_opens facilities e L M hM
    have hkeys : M.keys = L.keys := by
      unfold Ledger.keys
      rw [hevents]
    refine ih hrest ?_ ?_
    · intro e' he'
      rw [hevents]
      exact hmem e' (List.mem_cons_of_mem _ he')
    · intro k hk
      rw [hkeys]
      obtain hold | rfl := hopens k hk
      · exact hlisted k hold
      · exact List.mem_dedup.mpr (List.mem_map_of_mem (hmem e List.mem_cons_self))

/-- The merge opens no receivable. -/
theorem merged_receivables (facilities : FacilityTable) (obs : List Observation) (k : String) :
    (merged facilities obs).receivables k = none := by
  have hfold : ∀ (obs : List Observation) (L : Ledger),
      (obs.foldl merge L).receivables = L.receivables := by
    intro obs
    induction obs with
    | nil => intro L; rfl
    | cons o obs ih =>
      intro L
      obtain ⟨events, exceptions, consumed, h⟩ := merge_rest L o
      rw [List.foldl_cons, ih, h]
  unfold merged
  rw [hfold]
  rfl

/-- `keys` lists each key of a receivable once. -/
theorem reconcile_keys {facilities : FacilityTable} {obs : List Observation} {L : Ledger}
    (h : reconcile facilities obs = some L) :
    L.keys.Nodup ∧ ∀ k, (L.receivables k).isSome → k ∈ L.keys := by
  refine ⟨List.nodup_dedup _, foldlM_opens facilities h (fun _ he => he) ?_⟩
  intro k hk
  rw [merged_receivables] at hk
  cases hk

/-! ### Every run -/

/-- When the states match the amounts, the open receivables are those that are paid in part. -/
theorem Ledger.Matching.eligibleUnpaid {L : Ledger} (h : L.Matching) :
    L.eligibleUnpaid = ((L.receivableValues.filter fun r => r.trust = .PROVEN ∧
      truthy r.assignedFacility = true ∧ r.paid < r.net).map fun r => r.net - r.paid).sum := by
  have hvalues : ∀ r ∈ L.receivableValues, r.Matches := by
    intro r hr
    obtain ⟨k, -, hk⟩ := List.mem_filterMap.mp hr
    exact h k r hk
  have hfilter : (L.receivableValues.filter fun r => (r.state = .RECOGNIZED ∨
      r.state = .ASSIGNED ∨ r.state = .PARTIALLY_PAID) ∧ r.trust = .PROVEN ∧
        truthy r.assignedFacility = true) =
      L.receivableValues.filter fun r => r.trust = .PROVEN ∧
        truthy r.assignedFacility = true ∧ r.paid < r.net := by
    refine List.filter_congr ?_
    intro r hr
    rw [decide_eq_decide]
    have hpaid := (hvalues r hr).1
    have hopen : (r.state = .RECOGNIZED ∨ r.state = .ASSIGNED ∨ r.state = .PARTIALLY_PAID) ↔
        r.paid < r.net := by
      rw [← Int.not_le, ← hpaid]
      cases r.state <;> simp
    rw [hopen]
    tauto
  show ((L.receivableValues.filter _).map _).sum = _
  rw [hfilter]
  refine congrArg List.sum (List.map_congr_left ?_)
  intro r hr
  have hlt := (of_decide_eq_true (List.mem_filter.mp hr).2).2.2
  show max 0 (r.net - r.paid) = r.net - r.paid
  omega

namespace Sample

end Sample

end Rackline.Reconciler
