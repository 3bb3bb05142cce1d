import Rackline.Proofs.BookTotals

/-!
# `Rackline.Proofs.ReceivableViews`: a receivable as the reading of its facts

When the book takes the facts about an obligation in the order of the source, its receivable is what
a reader of these facts sees (`Shows`): the same amounts, the same revision, the same status, and the
facility whose key was named. `effect_shows` is one more fact. A fact that carries its revision is
taken at that revision only (`effect_revision`).
-/

set_option autoImplicit false

namespace Rackline

open Evm Transition

/-- The status of an obligation whose receivable is in a state. -/
def ReceivableState.status : ReceivableState → ObligationStatus
  | none => .none
  | open_ => .open_
  | assigned => .open_
  | paid => .paid
  | cancelled => .cancelled

namespace ReceivableState

theorem status_eq_none {s : ReceivableState} : s.status = .none ↔ s = .none := by
  cases s <;> simp [status]

theorem status_eq_open {s : ReceivableState} : s.status = .open_ ↔ s = .open_ ∨ s = .assigned := by
  cases s <;> simp [status]

theorem status_eq_paid {s : ReceivableState} : s.status = .paid ↔ s = .paid := by
  cases s <;> simp [status]

end ReceivableState

/-- The receivable is what the facts about it say. -/
structure Receivable.Shows (facilityKey : FacilityId → Bytes32) (r : Receivable)
    (v : ObligationView) : Prop where
  net : r.net = v.net
  paid : r.paid = v.paid
  revision : r.revision = v.revision
  status : r.state.status = v.status
  facility : r.facilityId ≠ 0 → facilityKey r.facilityId = v.assignedTo

/-- A token is that of the obligation. -/
structure Receivable.Named (r : Receivable) (o : Obligation) : Prop where
  token : r.token ≠ 0 → o.status ≠ .none ∧ r.token = o.token
  proven : r.denominationProven = true → r.token ≠ 0

namespace ReceivableBook

variable {now : Nat} {reg : Providers} {emitter : Address} {P : ProviderId} {rec : EvidenceRecord}
  {b b' : ReceivableBook} {event : SourceEvent} {facilityKey : FacilityId → Bytes32}
  {a : AccountKey} {ref : Bytes32} {v v' : ObligationView}

theorem initial_shows (id : ReceivableId) :
    (ReceivableBook.initial.receivables id).Shows facilityKey .blank where
  net := rfl
  paid := rfl
  revision := rfl
  status := rfl
  facility := fun h => absurd rfl h

/-- One more fact about the receivable. -/
theorem effect_shows (h : BookEffect now reg emitter P rec b event b') (hkeyed : b.Keyed facilityKey)
    (hnamed : ∀ a ref seq amount, event = .payoutCancelled a ref seq amount →
      (b.settlements P seq).exists_ = true →
      (b.settlements P seq).receivableId = ReceivableId.named P a ref)
    (hf : event.fact.obligation = some (a, ref))
    (hshows : (b.receivables ⟨P, a, ref⟩).Shows facilityKey v)
    (happly : v.apply event.fact = some v') :
    (b'.receivables ⟨P, a, ref⟩).Shows facilityKey v' := by
  cases h with
  | recognized _ id issuer payer token amount dueAt hevent hP =>
    subst hP
    have hfact : event.fact = .obligationRecognized id.accountKey id.obligationRef issuer payer
        emitter amount dueAt 1 := by
      rcases hevent with ⟨rfl, -⟩ | ⟨t, rfl, -⟩
      · rfl
      · rfl
    rw [hfact] at hf happly
    cases hf
    simp only [ObligationView.apply, Option.ite_none_right_eq_some, Option.some.injEq] at happly
    obtain ⟨-, rfl⟩ := happly
    rw [moved_receivables_self]
    exact ⟨rfl, hshows.paid, rfl, rfl, hshows.facility⟩
  | assigned id key hP hopen hexists hprovider htoken h0 hsame =>
    subst hP
    cases hf
    simp only [SourceEvent.fact, ObligationView.apply, Option.ite_none_right_eq_some,
      Option.some.injEq] at happly
    obtain ⟨⟨hstatus, -⟩, rfl⟩ := happly
    rw [moved_receivables_self]
    refine ⟨hshows.net, hshows.paid, rfl, hstatus.symm, fun _ => ?_⟩
    show facilityKey (b.receivables id).facilityId = key
    rw [hsame]
    exact hkeyed.named key (hsame ▸ h0)
  | assignedFirst id key hP hopen =>
    subst hP
    cases hf
    simp only [SourceEvent.fact, ObligationView.apply, Option.ite_none_right_eq_some,
      Option.some.injEq] at happly
    obtain ⟨⟨hstatus, -⟩, rfl⟩ := happly
    show Receivable.Shows facilityKey (Function.update b.receivables id _ id) _
    rw [Function.update_self]
    exact ⟨hshows.net, hshows.paid, rfl, hstatus.symm, hkeyed.named key⟩
  | corrected id delta reason openAmount' hP =>
    subst hP
    cases hf
    simp only [SourceEvent.fact, ObligationView.apply, Option.ite_none_right_eq_some,
      Option.some.injEq] at happly
    obtain ⟨-, rfl⟩ := happly
    rw [moved_receivables_self]
    refine ⟨?_, hshows.paid, rfl, ?_, hshows.facility⟩
    · show (((b.receivables id).net : Int) + delta).toNat = _
      rw [hshows.net]
    · show (if reason = correctionReasonCancel then ReceivableState.cancelled
        else (b.receivables id).state).status =
        if reason = correctionReasonCancel then .cancelled else v.status
      split
      · rfl
      · exact hshows.status
  | paid id token payer amount seq hP href =>
    subst hP
    simp only [SourceEvent.fact, SourceEvent.obligation, if_neg href] at hf
    cases hf
    simp only [SourceEvent.fact, ObligationView.apply, Option.ite_none_right_eq_some,
      Option.some.injEq] at happly
    obtain ⟨-, rfl⟩ := happly
    show Receivable.Shows facilityKey (Function.update b.receivables id _ id) _
    rw [Function.update_self]
    refine ⟨hshows.net, congrArg (· + amount) hshows.paid, congrArg (· + 1) hshows.revision, ?_,
      hshows.facility⟩
    show (if (b.receivables id).paid + amount = (b.receivables id).net then ReceivableState.paid
      else (b.receivables id).state).status =
      if v.paid + amount = v.net then .paid else v.status
    rw [hshows.paid, hshows.net]
    split
    · rfl
    · exact hshows.status
  | paidUnnamed =>
    simp [SourceEvent.fact, SourceEvent.obligation] at hf
  | unpaid id seq amount hP hexists haccount hid =>
    subst hP
    have href : id.obligationRef ≠ 0 := by
      intro h0
      have hname := hnamed _ _ seq amount rfl hexists
      rw [hid, ReceivableId.named, if_pos h0] at hname
      cases hname
    simp only [SourceEvent.fact, SourceEvent.obligation, if_neg href] at hf
    cases hf
    simp only [SourceEvent.fact, ObligationView.apply, Option.ite_none_right_eq_some,
      Option.some.injEq] at happly
    obtain ⟨-, rfl⟩ := happly
    show Receivable.Shows facilityKey (Function.update b.receivables id _ id) _
    rw [Function.update_self]
    refine ⟨hshows.net, congrArg (· - amount) hshows.paid, congrArg (· + 1) hshows.revision, ?_,
      hshows.facility⟩
    show (if (b.receivables id).state = .paid then
        if (b.receivables id).facilityId ≠ 0 then ReceivableState.assigned else .open_
      else (b.receivables id).state).status = if v.status = .paid then .open_ else v.status
    rw [← hshows.status]
    simp only [ReceivableState.status_eq_paid]
    split
    · split
      · rfl
      · rfl
    · rfl
  | unpaidUnnamed a' ref' seq amount hexists haccount hnone =>
    have hname := hnamed a' ref' seq amount rfl hexists
    rw [hnone, ReceivableId.named] at hname
    simp only [SourceEvent.fact, SourceEvent.obligation] at hf
    split at hf
    · cases hf
    · rw [if_neg ‹_›] at hname
      cases hname
  | checkpointed _ a' seq latestRevision openAmount paidCumulative observedAt until_ hevent =>
    rcases hevent with ⟨rfl, -⟩ | rfl
    · cases hf
    · cases hf

/-- The revision that a fact carries is the next one. -/
theorem effect_revision (h : BookEffect now reg emitter P rec b event b')
    (hf : event.fact.obligation = some (a, ref)) {n : Nat}
    (hrev : event.fact.ownRevision = some n) :
    n = (b.receivables ⟨P, a, ref⟩).revision + 1 ∨
      n = 1 ∧ (b.receivables ⟨P, a, ref⟩).state = .none := by
  cases h with
  | recognized _ id issuer payer token amount dueAt hevent hP hnone =>
    subst hP
    rcases hevent with ⟨rfl, -⟩ | ⟨t, rfl, -⟩
    · cases hf
      cases hrev
      exact .inr ⟨rfl, hnone⟩
    · cases hf
      cases hrev
      exact .inr ⟨rfl, hnone⟩
  | assigned id key hP | assignedFirst id key hP =>
    subst hP
    cases hf
    cases hrev
    exact .inl rfl
  | corrected id delta reason openAmount' hP =>
    subst hP
    cases hf
    cases hrev
    exact .inl rfl
  | paid | paidUnnamed | unpaid | unpaidUnnamed => cases hrev
  | checkpointed _ a' seq latestRevision openAmount paidCumulative observedAt until_ hevent =>
    rcases hevent with ⟨rfl, -⟩ | rfl
    · cases hf
    · cases hf

end ReceivableBook

end Rackline
