import Rackline.Reconciler

/-!
# `Rackline.Proofs.Reconciled`: what the reference reconciler conserves

`Balanced` is the invariant of the second loop: what a facility owes and what was applied to it add
up to what it owed at first, and of no settlement is more allocated than was received for it. Only a
receipt and an allocation touch these; the other events are `Quiet`.

`Known` says that the merge has seen an observation. It stays so, whatever is merged later, and a
copy of a known observation leaves no trace but an exception or one more name in `observedVia`. The
events read neither, so `reconcile_conserves` can compare whole ledgers.
-/

set_option autoImplicit false

namespace Rackline.Reconciler

/-! ### Well-formed observations -/

/-- The event has the fields that its type reads. -/
def EconomicEvent.Complete (e : EconomicEvent) : Prop :=
  match e.eventType with
  | .OBLIGATION | .CANCELLATION => e.amount.isSome ∧ e.obligationRef.isSome
  | .ASSIGNMENT => e.facility.isSome ∧ e.obligationRef.isSome
  | .CORRECTION => e.target.isSome ∧ e.delta.isSome
  | .PAYOUT => e.amount.isSome
  | .LEG | .DESTINATION_RECEIPT => e.amount.isSome ∧ e.settlementId.isSome
  | .ALLOCATION => e.facility.isSome ∧ e.amount.isSome
  | .DECISION_USE => e.obligationRef.isSome
  | .other _ => True

/-- The observation carries the fields that its event type reads. -/
def Observation.WellFormed (o : Observation) : Prop := o.toEvent.Complete

/-- The same observation under another id and at another time. -/
def Observation.CopyOf (c o : Observation) : Prop :=
  c = { o with
    observationId := c.observationId
    observedAt := c.observedAt }

/-! ### The merge -/

/-- A merge writes events, exceptions and consumptions only. -/
theorem merge_rest (L : Ledger) (o : Observation) :
    ∃ events exceptions consumed, merge L o = { L with
      economicEvents := events
      exceptions := exceptions
      consumedSourceEvents := consumed } := by
  have hevent : ∀ L : Ledger, ∃ events exceptions, mergeEvent L o = { L with
      economicEvents := events
      exceptions := exceptions } := by
    intro L
    unfold mergeEvent
    split
    · exact ⟨_, _, rfl⟩
    · split <;> exact ⟨_, _, rfl⟩
  have hchecked : ∀ L : Ledger, ∃ events exceptions, mergeChecked L o = { L with
      economicEvents := events
      exceptions := exceptions } := by
    intro L
    unfold mergeChecked
    split
    · exact ⟨_, _, rfl⟩
    split
    · exact ⟨_, _, rfl⟩
    · exact hevent L
  unfold merge
  split
  · exact ⟨_, _, _, rfl⟩
  split
  · obtain ⟨events, exceptions, h⟩ := hchecked L
    exact ⟨events, exceptions, _, h⟩
  split
  · exact ⟨_, _, _, rfl⟩
  · obtain ⟨events, exceptions, h⟩ :=
      hchecked { L with consumedSourceEvents := _ :: L.consumedSourceEvents }
    exact ⟨events, exceptions, _, h⟩

/-- Another observation changes of an event what it was observed by, and its trust. -/
theorem EconomicEvent.observe_eq (e : EconomicEvent) (o : Observation) :
    ∃ via trust source, e.observe o = { e with
      observedVia := via
      trust := trust
      sourceEventId := source } ∧ e.trust.rank ≤ trust.rank ∧ o.mergedTrust.rank ≤ trust.rank := by
  unfold observe
  dsimp only
  split
  · rename_i hlt
    exact ⟨_, _, _, rfl, Nat.le_of_lt hlt, Nat.le_refl _⟩
  · rename_i hle
    exact ⟨_, _, _, rfl, Nat.le_refl _, Nat.le_of_not_lt hle⟩

/-- What every merge leaves: consumptions stay, and so do events, with their amounts and at least
their trust. -/
structure Grows (L L' : Ledger) : Prop where
  consumed : ∀ sev ∈ L.consumedSourceEvents, sev ∈ L'.consumedSourceEvents
  event : ∀ id e, L.event id = some e → ∃ e', L'.event id = some e' ∧ e'.amount = e.amount
  trust : ∀ id n, (L.event id).isSome = true →
    (∀ e ∈ L.economicEvents, e.economicEventId = id → n ≤ e.trust.rank) →
    ∀ e ∈ L'.economicEvents, e.economicEventId = id → n ≤ e.trust.rank

theorem Grows.of_events {L L' : Ledger} (hevents : L'.economicEvents = L.economicEvents)
    (hconsumed : ∀ sev ∈ L.consumedSourceEvents, sev ∈ L'.consumedSourceEvents) : Grows L L' := by
  refine ⟨hconsumed, fun id e he => ⟨e, ?_, rfl⟩, fun id n _ h => ?_⟩
  · show L'.economicEvents.find? _ = some e
    rw [hevents]
    exact he
  · rw [hevents]
    exact h

theorem Grows.refl (L : Ledger) : Grows L L := .of_events rfl fun _ h => h

theorem Grows.trans {L L' L'' : Ledger} (h : Grows L L') (h' : Grows L' L'') : Grows L L'' := by
  refine ⟨fun sev hs => h'.consumed sev (h.consumed sev hs), fun id e he => ?_,
    fun id n hsome hall => ?_⟩
  · obtain ⟨e', he', hamount⟩ := h.event id e he
    obtain ⟨e'', he'', hamount'⟩ := h'.event id e' he'
    exact ⟨e'', he'', hamount'.trans hamount⟩
  · obtain ⟨e, he⟩ := Option.isSome_iff_exists.mp hsome
    obtain ⟨e', he', -⟩ := h.event id e he
    exact h'.trust id n (by rw [he']; rfl) (h.trust id n hsome hall)

/-- The events after one of them was observed once more. -/
def observed (o : Observation) (l : List EconomicEvent) : List EconomicEvent :=
  l.map fun e => if e.economicEventId = o.economicEventId then e.observe o else e

theorem observed_find (o : Observation) (id : String) (l : List EconomicEvent) :
    (observed o l).find? (fun e => e.economicEventId == id) =
      (l.find? fun e => e.economicEventId == id).map fun e =>
        if e.economicEventId = o.economicEventId then e.observe o else e := by
  unfold observed
  rw [List.find?_map]
  congr 2
  funext e
  show ((if e.economicEventId = o.economicEventId then e.observe o else e).economicEventId == id) =
    (e.economicEventId == id)
  obtain ⟨via, trust, source, hobs, -, -⟩ := e.observe_eq o
  rw [hobs]
  split <;> rfl

theorem mergeEvent_grows (L : Ledger) (o : Observation) : Grows L (mergeEvent L o) := by
  unfold mergeEvent
  split
  · rename_i hnone
    refine ⟨fun _ h => h, fun id e he => ⟨e, ?_, rfl⟩, fun id n hsome hall e he hid => ?_⟩
    · show (L.economicEvents ++ [o.toEvent]).find? _ = some e
      rw [List.find?_append]
      have he' : L.economicEvents.find? (fun e => e.economicEventId == id) = some e := he
      rw [he']
      rfl
    · obtain he | he := List.mem_append.mp he
      · exact hall e he hid
      · -- The event is new, and there was one with that id already.
        obtain rfl := List.mem_singleton.mp he
        have hid' : o.economicEventId = id := hid
        rw [← hid', hnone] at hsome
        cases hsome
  split
  · exact .of_events rfl fun _ h => h
  · refine ⟨fun _ h => h, fun id e he => ?_, fun id n _ hall e he hid => ?_⟩
    · refine ⟨_, (observed_find o id L.economicEvents).trans (congrArg _ he), ?_⟩
      obtain ⟨via, trust, source, hobs, -, -⟩ := e.observe_eq o
      dsimp only
      rw [hobs]
      split <;> rfl
    · obtain ⟨e₀, he₀, rfl⟩ := List.mem_map.mp he
      obtain ⟨via, trust, source, hobs, hle, -⟩ := e₀.observe_eq o
      rw [hobs] at hid ⊢
      split at hid
      · rename_i hsame
        rw [if_pos hsame]
        exact (hall e₀ he₀ hid).trans hle
      · rename_i hother
        rw [if_neg hother]
        exact hall e₀ he₀ hid

theorem mergeChecked_grows (L : Ledger) (o : Observation) : Grows L (mergeChecked L o) := by
  unfold mergeChecked
  split
  · exact .of_events rfl fun _ h => h
  split
  · exact .of_events rfl fun _ h => h
  · exact mergeEvent_grows L o

theorem merge_grows (L : Ledger) (o : Observation) : Grows L (merge L o) := by
  unfold merge
  split
  · exact .of_events rfl fun _ h => h
  split
  · exact mergeChecked_grows L o
  split
  · exact .of_events rfl fun _ h => h
  · rename_i sev _ _
    have hfirst : Grows L { L with consumedSourceEvents := sev :: L.consumedSourceEvents } :=
      .of_events rfl fun _ hs => List.mem_cons_of_mem _ hs
    exact hfirst.trans (mergeChecked_grows _ o)

/-! ### Known observations -/

/-- The merge would refuse the observation after its consumption, or has its event already, in
conflict with it or with at least its trust. -/
def Settled (o : Observation) (L : Ledger) : Prop :=
  (o.source = .CHAIN ∧ o.emitterRegistered = some false) ∨
  (o.source = .CHAIN ∧ o.anchor = true) ∨
  ∃ e, L.event o.economicEventId = some e ∧ (e.conflicts o = true ∨
    ∀ e ∈ L.economicEvents, e.economicEventId = o.economicEventId →
      o.mergedTrust.rank ≤ e.trust.rank)

/-- The merge has seen the observation. -/
def Known (o : Observation) (L : Ledger) : Prop :=
  (o.source = .CHAIN ∧ o.tampered = true) ∨
  (∃ sev, o.consumes = some sev ∧ sev ∈ L.consumedSourceEvents) ∨
  (o.consumes = none ∧ Settled o L)

theorem Settled.grows {o : Observation} {L L' : Ledger} (h : Settled o L) (hg : Grows L L') :
    Settled o L' := by
  obtain hemitter | hanchor | ⟨e, he, hcase⟩ := h
  · exact .inl hemitter
  · exact .inr (.inl hanchor)
  · obtain ⟨e', he', hamount⟩ := hg.event _ e he
    refine .inr (.inr ⟨e', he', ?_⟩)
    obtain hconflict | htrust := hcase
    · left
      unfold EconomicEvent.conflicts at hconflict ⊢
      rw [hamount]
      exact hconflict
    · right
      exact hg.trust _ _ (by rw [he]; rfl) htrust

theorem Known.grows {o : Observation} {L L' : Ledger} (h : Known o L) (hg : Grows L L') :
    Known o L' := by
  obtain htampered | ⟨sev, hsev, hmem⟩ | ⟨hnone, hsettled⟩ := h
  · exact .inl htampered
  · exact .inr (.inl ⟨sev, hsev, hg.consumed sev hmem⟩)
  · exact .inr (.inr ⟨hnone, hsettled.grows hg⟩)

theorem mergeEvent_settled (L : Ledger) (o : Observation) : Settled o (mergeEvent L o) := by
  refine .inr (.inr ?_)
  unfold mergeEvent
  split
  · rename_i hnone
    refine ⟨o.toEvent, ?_, .inr fun e he hid => ?_⟩
    · show (L.economicEvents ++ [o.toEvent]).find? _ = some o.toEvent
      have hnone' : L.economicEvents.find? (fun e => e.economicEventId == o.economicEventId) =
        none := hnone
      rw [List.find?_append, hnone']
      simp [Observation.toEvent]
    · obtain he | he := List.mem_append.mp he
      · have hno := List.find?_eq_none.mp hnone e he
        exact absurd (beq_iff_eq.mpr hid) hno
      · obtain rfl := List.mem_singleton.mp he
        exact Nat.le_refl _
  · rename_i e he
    split
    · rename_i hconflict
      exact ⟨e, he, .inl hconflict⟩
    · refine ⟨_, (observed_find o o.economicEventId L.economicEvents).trans (congrArg _ he),
        .inr fun e' he' hid => ?_⟩
      obtain ⟨e₀, -, rfl⟩ := List.mem_map.mp he'
      obtain ⟨via, trust, source, hobs, -, hle⟩ := e₀.observe_eq o
      rw [hobs] at hid ⊢
      split at hid
      · rename_i hsame
        rw [if_pos hsame]
        exact hle
      · rename_i hother
        exact absurd hid hother

theorem mergeChecked_settled (L : Ledger) (o : Observation) : Settled o (mergeChecked L o) := by
  unfold mergeChecked
  split
  · rename_i hemitter
    exact .inl hemitter
  split
  · rename_i hanchor
    exact .inr (.inl hanchor)
  · exact mergeEvent_settled L o

/-- After its merge an observation is known. -/
theorem merge_known (L : Ledger) (o : Observation) : Known o (merge L o) := by
  unfold merge
  split
  · rename_i htampered
    exact .inl htampered
  split
  · rename_i hnone
    exact .inr (.inr ⟨hnone, mergeChecked_settled L o⟩)
  · rename_i sev hsev
    refine .inr (.inl ⟨sev, hsev, ?_⟩)
    split
    · rename_i hmem
      exact hmem
    · exact (mergeChecked_grows _ o).consumed sev List.mem_cons_self

/-- Everything that was merged is known. -/
theorem foldl_known {o : Observation} : ∀ {obs : List Observation} {L : Ledger},
    (o ∈ obs ∨ Known o L) → Known o (obs.foldl merge L) := by
  intro obs
  induction obs with
  | nil =>
    intro L h
    obtain h | h := h
    · exact absurd h List.not_mem_nil
    · exact h
  | cons o' obs ih =>
    intro L h
    refine ih ?_
    obtain h | h := h
    · obtain rfl | h := List.mem_cons.mp h
      · exact .inr (merge_known L o)
      · exact .inl h
    · exact .inr (h.grows (merge_grows L o'))

/-! ### A copy of a known observation -/

/-- The event without the names of its observations. -/
def EconomicEvent.unseen (e : EconomicEvent) : EconomicEvent := { e with observedVia := [] }

/-- All that the ledger says but its exceptions and the names of the observations. -/
def Ledger.facts (L : Ledger) : Ledger := { L with
  economicEvents := L.economicEvents.map EconomicEvent.unseen
  exceptions := [] }

@[simp] theorem facts_facts (L : Ledger) : L.facts.facts = L.facts := by
  show { L.facts with
    economicEvents := (L.economicEvents.map EconomicEvent.unseen).map EconomicEvent.unseen
    exceptions := [] } = L.facts
  rw [List.map_map]
  rfl

@[simp] theorem facts_except (L : Ledger) (code : ExceptionCode) (id observation : Option String) :
    (L.except code id observation).facts = L.facts := rfl

/-- A weaker observation of an event leaves only its name. -/
theorem observed_unseen (o : Observation) (l : List EconomicEvent)
    (h : ∀ e ∈ l, e.economicEventId = o.economicEventId → o.mergedTrust.rank ≤ e.trust.rank) :
    (observed o l).map EconomicEvent.unseen = l.map EconomicEvent.unseen := by
  unfold observed
  rw [List.map_map]
  refine List.map_congr_left fun e he => ?_
  show (if e.economicEventId = o.economicEventId then e.observe o else e).unseen = e.unseen
  split
  · rename_i hid
    unfold EconomicEvent.observe
    dsimp only
    rw [if_neg (Nat.not_lt.mpr (h e he hid))]
    rfl
  · rfl

theorem mergeEvent_settled_facts {o : Observation} {L : Ledger} {e : EconomicEvent}
    (he : L.event o.economicEventId = some e)
    (h : e.conflicts o = true ∨ ∀ e ∈ L.economicEvents, e.economicEventId = o.economicEventId →
      o.mergedTrust.rank ≤ e.trust.rank) : (mergeEvent L o).facts = L.facts := by
  unfold mergeEvent
  rw [he]
  dsimp only
  split
  · rfl
  · rename_i hagrees
    obtain hconflict | htrust := h
    · exact absurd hconflict hagrees
    · show { L with
        economicEvents := (observed o L.economicEvents).map EconomicEvent.unseen
        exceptions := [] } = L.facts
      rw [observed_unseen o _ htrust]
      rfl

theorem mergeChecked_settled_facts {o : Observation} {L : Ledger} (h : Settled o L) :
    (mergeChecked L o).facts = L.facts := by
  unfold mergeChecked
  split
  · rfl
  split
  · rfl
  · rename_i hemitter hanchor
    obtain h | h | ⟨e, he, h⟩ := h
    · exact absurd h hemitter
    · exact absurd h hanchor
    · exact mergeEvent_settled_facts he h

/-- An observation that the merge has seen adds nothing. -/
theorem merge_known_facts {o : Observation} {L : Ledger} (h : Known o L) :
    (merge L o).facts = L.facts := by
  unfold merge
  split
  · rfl
  · rename_i huntampered
    obtain htampered | ⟨sev, hsev, hmem⟩ | ⟨hnone, hsettled⟩ := h
    · exact absurd htampered huntampered
    · rw [hsev]
      dsimp only
      rw [if_pos hmem]
      rfl
    · rw [hnone]
      exact mergeChecked_settled_facts hsettled

/-- What the merge asks of an observation, its copy answers the same. -/
theorem Known.copy {o c : Observation} {L : Ledger} (h : Known o L) (hcopy : c.CopyOf o) :
    Known c L := by
  rw [hcopy]
  exact h

/-! ### The order of the merge -/

theorem orderedInsert_last {a c : Observation} (h : a.before c) : ∀ l : List Observation,
    List.orderedInsert Observation.before a (l ++ [c]) =
      List.orderedInsert Observation.before a l ++ [c] := by
  intro l
  induction l with
  | nil =>
    show List.orderedInsert Observation.before a [c] = [a, c]
    rw [List.orderedInsert_cons, if_pos h]
  | cons b l ih =>
    rw [List.cons_append, List.orderedInsert_cons, List.orderedInsert_cons, ih]
    split <;> rfl

/-- The latest observation is merged last. -/
theorem insertionSort_last {c : Observation} : ∀ {obs : List Observation},
    (∀ o ∈ obs, o.observedAt < c.observedAt) →
    (obs ++ [c]).insertionSort Observation.before =
      obs.insertionSort Observation.before ++ [c] := by
  intro obs
  induction obs with
  | nil => intro _; rfl
  | cons o obs ih =>
    intro h
    have hrest := ih fun o' ho' => h o' (List.mem_cons_of_mem _ ho')
    rw [List.cons_append, List.insertionSort_cons, List.insertionSort_cons, hrest]
    exact orderedInsert_last (.inl (h o List.mem_cons_self)) _

/-- One more copy of a listed observation, after all of them, adds nothing to the merge. -/
theorem merged_copy (facilities : FacilityTable) {obs : List Observation} {o c : Observation}
    (ho : o ∈ obs) (hcopy : c.CopyOf o) (hlast : ∀ o' ∈ obs, o'.observedAt < c.observedAt) :
    (merged facilities (obs ++ [c])).facts = (merged facilities obs).facts := by
  have hknown : Known o (merged facilities obs) :=
    foldl_known (.inl ((List.mem_insertionSort Observation.before).mpr ho))
  unfold merged
  rw [insertionSort_last hlast, List.foldl_append]
  exact merge_known_facts (hknown.copy hcopy)

/-! ### What the events read -/

section
variable (L : Ledger)

@[simp] theorem facts_receivables : L.facts.receivables = L.receivables := rfl

@[simp] theorem facts_cash : L.facts.cash = L.cash := rfl

@[simp] theorem facts_allocations : L.facts.allocations = L.allocations := rfl

@[simp] theorem facts_facilityDebt : L.facts.facilityDebt = L.facilityDebt := rfl

@[simp] theorem facts_setReceivable (k : String) (r : Receivable) :
    (L.setReceivable k r).facts = L.facts.setReceivable k r := rfl

@[simp] theorem facts_withSettlement (id : Option String) (f : Settlement → Settlement) :
    (L.withSettlement id f).facts = L.facts.withSettlement id f := rfl

@[simp] theorem facts_addCash (c : CashEntry) : (L.addCash c).facts = L.facts.addCash c := rfl

@[simp] theorem facts_revoke (r : Receivable) : (L.revoke r).facts = L.facts.revoke r := rfl

@[simp] theorem facts_refuse (e : EconomicEvent) (code : ExceptionCode) :
    (refuse e L code).map Ledger.facts = some L.facts := rfl

theorem facts_allocate (debt : String → Option Int) (allocations : List Allocation) :
    Ledger.facts { L with
      facilityDebt := debt
      allocations := allocations } = Ledger.facts { L.facts with
      facilityDebt := debt
      allocations := allocations } := by
  show { L.facts with
    facilityDebt := debt
    allocations := allocations } = { L.facts.facts with
    facilityDebt := debt
    allocations := allocations }
  rw [facts_facts]

theorem facts_event (id : String) : L.facts.event id = (L.event id).map EconomicEvent.unseen := by
  show (L.economicEvents.map EconomicEvent.unseen).find? _ = _
  rw [List.find?_map]
  rfl

end

/-! Each type of event reads only the facts. -/

section
variable (facilities : FacilityTable) (e : EconomicEvent) (L : Ledger)

/-- No event reads by whom it was observed. -/
theorem apply_unseen : apply facilities e.unseen L = apply facilities e L := rfl

theorem obligation_facts :
    (obligation e L).map Ledger.facts = (obligation e L.facts).map Ledger.facts := by
  unfold obligation
  simp only [facts_receivables]
  cases L.receivables (key e.account e.obligationRef) with
  | none => cases e.amount <;> simp
  | some r =>
    dsimp only
    split
    · simp
    · cases e.amount <;> simp

theorem assignment_facts : (assignment facilities e L).map Ledger.facts =
    (assignment facilities e L.facts).map Ledger.facts := by
  unfold assignment
  simp only [facts_receivables]
  split
  · simp
  cases L.receivables (key e.account e.obligationRef) with
  | none => simp
  | some r =>
    dsimp only
    split <;> simp

theorem correction_facts :
    (correction e L).map Ledger.facts = (correction e L.facts).map Ledger.facts := by
  -- The target is looked up for its reference, which an observation leaves.
  have htarget : ((e.target.bind L.facts.event).map fun t => key e.account t.obligationRef) =
      (e.target.bind L.event).map fun t => key e.account t.obligationRef := by
    cases e.target with
    | none => rfl
    | some id =>
      show (L.facts.event id).map _ = (L.event id).map _
      rw [facts_event, Option.map_map]
      rfl
  unfold correction
  rw [htarget]
  simp only [facts_receivables]
  cases (e.target.bind L.event).map fun t => key e.account t.obligationRef with
  | none => simp
  | some k =>
    dsimp only
    cases L.receivables k with
    | none => simp
    | some r =>
      dsimp only
      split
      · simp
      · cases e.delta <;> simp [apply_ite Ledger.facts]

theorem payout_facts : (payout e L).map Ledger.facts = (payout e L.facts).map Ledger.facts := by
  have htarget : payoutTarget e L.facts = payoutTarget e L := rfl
  unfold payout
  rw [htarget]
  cases e.amount with
  | none => rfl
  | some amount =>
    simp only [Option.bind_eq_bind, Option.bind_some, Option.pure_def]
    cases payoutTarget e L with
    | none => split <;> simp
    | some p =>
      obtain ⟨k, r⟩ := p
      dsimp only
      by_cases hasset : r.asset = e.asset <;>
        by_cases hprovenance : payoutProvenance e (some (k, r)) = .PROVIDER_SETTLEMENT <;>
        split <;> simp [hasset, hprovenance]

theorem cancellation_facts :
    (cancellation e L).map Ledger.facts = (cancellation e L.facts).map Ledger.facts := by
  unfold cancellation
  simp only [facts_receivables]
  cases L.receivables (key e.account e.obligationRef) with
  | none => simp
  | some r =>
    cases e.amount with
    | none => rfl
    | some amount =>
      simp only [Option.bind_eq_bind, Option.bind_some, Option.pure_def]
      split
      · simp
      · cases r.usedInDecision <;> simp

theorem leg_facts : (leg e L).map Ledger.facts = (leg e L.facts).map Ledger.facts := by
  unfold leg
  cases e.amount <;> simp

theorem destinationReceipt_facts :
    (destinationReceipt e L).map Ledger.facts = (destinationReceipt e L.facts).map Ledger.facts := by
  unfold destinationReceipt
  cases e.amount <;> simp

theorem allocation_facts : (allocation facilities e L).map Ledger.facts =
    (allocation facilities e L.facts).map Ledger.facts := by
  unfold allocation
  cases e.facility with
  | none => simp
  | some fid =>
    dsimp only
    split
    · simp
    cases e.amount with
    | none => rfl
    | some amount =>
      show Option.map _ (if allocated L.allocations e.settlementId + amount >
          received L.cash e.settlementId then _ else some _) =
        Option.map _ (if allocated L.allocations e.settlementId + amount >
          received L.cash e.settlementId then _ else some _)
      split
      · simp
      · exact congrArg some (facts_allocate L _ _)

theorem decisionUse_facts :
    (decisionUse e L).map Ledger.facts = (decisionUse e L.facts).map Ledger.facts := by
  unfold decisionUse
  simp only [facts_receivables]
  cases L.receivables (key e.account e.obligationRef) <;> simp

theorem apply_facts : (apply facilities e L).map Ledger.facts =
    (apply facilities e L.facts).map Ledger.facts := by
  unfold apply
  cases e.eventType with
  | OBLIGATION => exact obligation_facts e L
  | ASSIGNMENT => exact assignment_facts facilities e L
  | CORRECTION => exact correction_facts e L
  | PAYOUT => exact payout_facts e L
  | CANCELLATION => exact cancellation_facts e L
  | LEG => exact leg_facts e L
  | DESTINATION_RECEIPT => exact destinationReceipt_facts e L
  | ALLOCATION => exact allocation_facts facilities e L
  | DECISION_USE => exact decisionUse_facts e L
  | other name => simp

end

/-- Two runs of the second loop agree when they start from the same facts. -/
theorem foldlM_facts (facilities : FacilityTable) : ∀ {l l' : List EconomicEvent} {L L' : Ledger},
    l.map EconomicEvent.unseen = l'.map EconomicEvent.unseen → L.facts = L'.facts →
    (l.foldlM (fun L e => apply facilities e L) L).map Ledger.facts =
      (l'.foldlM (fun L e => apply facilities e L) L').map Ledger.facts := by
  intro l
  induction l with
  | nil =>
    intro l' L L' hl h
    obtain rfl : l' = [] := List.map_eq_nil_iff.mp hl.symm
    exact congrArg some h
  | cons e l ih =>
    intro l' L L' hl h
    cases l' with
    | nil => cases hl
    | cons e' l' =>
      rw [List.map_cons, List.map_cons, List.cons.injEq] at hl
      obtain ⟨he, hl⟩ := hl
      have hstep : (apply facilities e L).map Ledger.facts =
          (apply facilities e' L').map Ledger.facts := by
        rw [apply_facts facilities e L, apply_facts facilities e' L', h,
          ← apply_unseen facilities e, ← apply_unseen facilities e', he]
      rw [List.foldlM_cons, List.foldlM_cons]
      cases hfirst : apply facilities e L with
      | none =>
        rw [hfirst] at hstep
        rw [Option.map_eq_none_iff.mp hstep.symm]
        rfl
      | some L₁ =>
        rw [hfirst] at hstep
        obtain ⟨L₁', hfirst', hfacts⟩ := Option.map_eq_some_iff.mp hstep.symm
        rw [hfirst']
        exact ih hl hfacts.symm


/-! ### What the events conserve -/

/-- What was applied to a facility. -/
def appliedTo (f : String) (allocations : List Allocation) : Int :=
  ((allocations.filter fun a => a.facility = f).map (·.applied)).sum

/-- The receipts that the settlement books. -/
def Ledger.destinationAmount (L : Ledger) (id : Option String) : Int :=
  ((L.settlements id).map (·.destinationAmount)).getD 0

/-- Debt and cash are conserved. -/
structure Balanced (facilities : FacilityTable) (L : Ledger) : Prop where
  debt : ∀ f, L.facilityDebt f = (facilities f).map fun row => row.debt - appliedTo f L.allocations
  nonneg : ∀ f d, L.facilityDebt f = some d → 0 ≤ d
  parts : ∀ a ∈ L.allocations, a.applied + a.excess = a.amount
  covered : ∀ id, allocated L.allocations id ≤ received L.cash id
  booked : ∀ id, received L.cash id = L.destinationAmount id

/-- Neither debt nor allocations nor receipts change. -/
structure Quiet (L L' : Ledger) : Prop where
  facilityDebt : L'.facilityDebt = L.facilityDebt
  allocations : L'.allocations = L.allocations
  received : ∀ id, received L'.cash id = received L.cash id
  destination : ∀ id, L'.destinationAmount id = L.destinationAmount id

theorem Quiet.refl (L : Ledger) : Quiet L L := ⟨rfl, rfl, fun _ => rfl, fun _ => rfl⟩

theorem Quiet.trans {L L' L'' : Ledger} (h : Quiet L L') (h' : Quiet L' L'') : Quiet L L'' where
  facilityDebt := h'.facilityDebt.trans h.facilityDebt
  allocations := h'.allocations.trans h.allocations
  received := fun id => (h'.received id).trans (h.received id)
  destination := fun id => (h'.destination id).trans (h.destination id)

theorem Quiet.balanced {facilities : FacilityTable} {L L' : Ledger} (h : Quiet L L')
    (hb : Balanced facilities L) : Balanced facilities L' where
  debt := by rw [h.facilityDebt, h.allocations]; exact hb.debt
  nonneg := by rw [h.facilityDebt]; exact hb.nonneg
  parts := by rw [h.allocations]; exact hb.parts
  covered := fun id => by rw [h.allocations, h.received]; exact hb.covered id
  booked := fun id => by rw [h.received, h.destination]; exact hb.booked id

section
variable (L : Ledger)

theorem except_quiet (code : ExceptionCode) (id observation : Option String) :
    Quiet L (L.except code id observation) := ⟨rfl, rfl, fun _ => rfl, fun _ => rfl⟩

theorem setReceivable_quiet (k : String) (r : Receivable) : Quiet L (L.setReceivable k r) :=
  ⟨rfl, rfl, fun _ => rfl, fun _ => rfl⟩

theorem revoke_quiet (r : Receivable) : Quiet L (L.revoke r) :=
  ⟨rfl, rfl, fun _ => rfl, fun _ => rfl⟩

theorem received_append (cash : List CashEntry) (c : CashEntry) (id : Option String) :
    received (cash ++ [c]) id =
      received cash id + if c.place = .DESTINATION ∧ c.settlementId = id then c.amount else 0 := by
  unfold received
  rw [List.filter_append, List.map_append, List.sum_append]
  congr 1
  split
  · rename_i h
    rw [List.filter_cons_of_pos (by simpa using h)]
    simp
  · rename_i h
    rw [List.filter_cons_of_neg (by simpa using h)]
    simp

theorem addCash_quiet (c : CashEntry) (h : c.place ≠ .DESTINATION) : Quiet L (L.addCash c) := by
  refine ⟨rfl, rfl, fun id => ?_, fun _ => rfl⟩
  show received (L.cash ++ [c]) id = received L.cash id
  rw [received_append, if_neg fun hc => h hc.1, Int.add_zero]

theorem withSettlement_destination (id id' : Option String) (f : Settlement → Settlement) :
    (L.withSettlement id f).destinationAmount id' =
      if id' = id then (f ((L.settlements id).getD .empty)).destinationAmount
      else L.destinationAmount id' := by
  show ((Function.update L.settlements id (some (f ((L.settlements id).getD .empty))) id').map
    (·.destinationAmount)).getD 0 = _
  by_cases hid : id' = id
  · subst hid
    rw [Function.update_self, if_pos rfl]
    rfl
  · rw [Function.update_of_ne hid, if_neg hid]
    rfl

/-- A new settlement books nothing yet. -/
theorem settlement_destination (id : Option String) :
    ((L.settlements id).getD .empty).destinationAmount = L.destinationAmount id := by
  unfold Ledger.destinationAmount
  cases L.settlements id <;> rfl

theorem withSettlement_quiet (id : Option String) (f : Settlement → Settlement)
    (hf : ∀ s, (f s).destinationAmount = s.destinationAmount) : Quiet L (L.withSettlement id f) := by
  refine ⟨rfl, rfl, fun _ => rfl, fun id' => ?_⟩
  rw [withSettlement_destination, hf, settlement_destination]
  split
  · rename_i hid
    rw [hid]
  · rfl

end

/-! Eight types of event leave all of it. -/

/-- The event is applied, and conserves what there is. -/
def Quietly (L : Ledger) (x : Option Ledger) : Prop := ∃ L', x = some L' ∧ Quiet L L'

section
variable (facilities : FacilityTable) {e : EconomicEvent} (L : Ledger)

theorem refuse_quietly (e : EconomicEvent) (code : ExceptionCode) : Quietly L (refuse e L code) :=
  ⟨_, rfl, except_quiet L code _ _⟩

theorem obligation_quietly (h : e.amount.isSome = true) : Quietly L (obligation e L) := by
  obtain ⟨amount, hamount⟩ := Option.isSome_iff_exists.mp h
  unfold obligation
  rw [hamount]
  dsimp only
  split
  · split
    · exact refuse_quietly L e _
    · exact ⟨_, rfl, setReceivable_quiet L _ _⟩
  · exact ⟨_, rfl, setReceivable_quiet L _ _⟩

theorem assignment_quietly (e : EconomicEvent) : Quietly L (assignment facilities e L) := by
  unfold assignment
  dsimp only
  split
  · exact refuse_quietly L e _
  split
  · exact refuse_quietly L e _
  split
  · exact refuse_quietly L e _
  · exact ⟨_, rfl, setReceivable_quiet L _ _⟩

theorem correction_quietly (h : e.delta.isSome = true) : Quietly L (correction e L) := by
  obtain ⟨delta, hdelta⟩ := Option.isSome_iff_exists.mp h
  unfold correction
  rw [hdelta]
  dsimp only
  split
  · exact refuse_quietly L e _
  split
  · exact refuse_quietly L e _
  split
  · exact refuse_quietly L e _
  · refine ⟨_, rfl, Quiet.trans ?_ (setReceivable_quiet _ _ _)⟩
    split
    · exact revoke_quiet L _
    · exact .refl L

theorem payout_quietly (h : e.amount.isSome = true) : Quietly L (payout e L) := by
  obtain ⟨amount, hamount⟩ := Option.isSome_iff_exists.mp h
  unfold payout
  rw [hamount]
  dsimp only [Option.bind_eq_bind, Option.bind_some, Option.pure_def]
  have hmismatch : ∀ b : Bool, Quiet L
      (if b = true then L.except .TOKEN_MISMATCH (some e.economicEventId) none else L) := by
    intro b
    cases b
    · exact .refl L
    · exact except_quiet L _ _ _
  have hcash := (hmismatch ((payoutTarget e L).any fun r => r.2.asset ≠ e.asset)).trans
    (addCash_quiet _ ⟨.SOURCE_ESCROW, amount, e.settlementId,
      some (payoutProvenance e (payoutTarget e L)), some e.economicEventId⟩ (by simp))
  -- The receivable is paid after the cash is there, and the settlement is written last.
  split
  · refine ⟨_, rfl, Quiet.trans ?_ (withSettlement_quiet _ _ _ fun _ => rfl)⟩
    split
    · split
      · exact hcash.trans (setReceivable_quiet _ _ _)
      · exact hcash
    · exact hcash
  · refine ⟨_, rfl, ?_⟩
    split
    · split
      · exact hcash.trans (setReceivable_quiet _ _ _)
      · exact hcash
    · exact hcash

theorem cancellation_quietly (h : e.amount.isSome = true) : Quietly L (cancellation e L) := by
  obtain ⟨amount, hamount⟩ := Option.isSome_iff_exists.mp h
  unfold cancellation
  rw [hamount]
  dsimp only [Option.bind_eq_bind, Option.bind_some, Option.pure_def]
  split
  · exact refuse_quietly L e _
  split
  · exact refuse_quietly L e _
  · have hcash := fun k r => (setReceivable_quiet L k r).trans
      (addCash_quiet _ ⟨.SOURCE_ESCROW, -amount, e.settlementId, some .REFUND_OR_REVERSAL,
        some e.economicEventId⟩ (by simp))
    refine ⟨_, rfl, ?_⟩
    split
    · exact (hcash _ _).trans (revoke_quiet _ _)
    · exact hcash _ _

theorem leg_quietly (h : e.amount.isSome = true) : Quietly L (leg e L) := by
  obtain ⟨amount, hamount⟩ := Option.isSome_iff_exists.mp h
  unfold leg
  rw [hamount]
  refine ⟨_, rfl, ?_⟩
  have hcash := fun L' => (addCash_quiet L'
    ⟨.SOURCE_ESCROW, -amount, e.settlementId, none, none⟩ (by simp)).trans
      (addCash_quiet _ ⟨.IN_FLIGHT, amount, e.settlementId, none, none⟩ (by simp))
  have hleg := withSettlement_quiet L e.settlementId (fun s => { s with
    legs := s.legs ++ [⟨amount, none, e.asset, none⟩] }) fun _ => rfl
  exact hleg.trans (hcash _)

theorem decisionUse_quietly (e : EconomicEvent) : Quietly L (decisionUse e L) := by
  unfold decisionUse
  dsimp only
  split
  · exact ⟨L, rfl, .refl L⟩
  · exact ⟨_, rfl, setReceivable_quiet L _ _⟩

end

/-! A receipt and an allocation keep the balance. -/

/-- The amount of the event, if it has one, is not negative. -/
def EconomicEvent.NonNegative (e : EconomicEvent) : Prop := ∀ a, e.amount = some a → 0 ≤ a

section
variable {facilities : FacilityTable} {e : EconomicEvent} {L : Ledger}

theorem allocated_append (l : List Allocation) (a : Allocation) (id : Option String) :
    allocated (l ++ [a]) id = allocated l id + if a.settlementId = id then a.amount else 0 := by
  unfold allocated
  rw [List.filter_append, List.map_append, List.sum_append]
  congr 1
  split
  · rename_i h
    rw [List.filter_cons_of_pos (by simpa using h)]
    simp
  · rename_i h
    rw [List.filter_cons_of_neg (by simpa using h)]
    simp

theorem appliedTo_append (f : String) (l : List Allocation) (a : Allocation) :
    appliedTo f (l ++ [a]) = appliedTo f l + if a.facility = f then a.applied else 0 := by
  unfold appliedTo
  rw [List.filter_append, List.map_append, List.sum_append]
  congr 1
  split
  · rename_i h
    rw [List.filter_cons_of_pos (by simpa using h)]
    simp
  · rename_i h
    rw [List.filter_cons_of_neg (by simpa using h)]
    simp

/-- A receipt books what it adds to the destination cash. -/
theorem destinationReceipt_balanced (hamount : e.amount.isSome = true) (hn : e.NonNegative)
    (hb : Balanced facilities L) :
    ∃ L', destinationReceipt e L = some L' ∧ Balanced facilities L' := by
  obtain ⟨amount, hamount⟩ := Option.isSome_iff_exists.mp hamount
  have hpos : 0 ≤ amount := hn amount hamount
  unfold destinationReceipt
  rw [hamount]
  refine ⟨_, rfl, ?_⟩
  have hreceived : ∀ id, received ((L.cash ++
      [(⟨.IN_FLIGHT, -amount, e.settlementId, none, none⟩ : CashEntry)]) ++
      [⟨.DESTINATION, amount, e.settlementId, none, none⟩]) id =
      received L.cash id + if id = e.settlementId then amount else 0 := by
    intro id
    rw [received_append, received_append, if_neg (by simp), Int.add_zero]
    congr 1
    by_cases hid : id = e.settlementId
    · rw [if_pos ⟨rfl, hid.symm⟩, if_pos hid]
    · rw [if_neg fun h => hid h.2.symm, if_neg hid]
  refine ⟨hb.debt, hb.nonneg, hb.parts, fun id => ?_, fun id => ?_⟩
  · have hold := hb.covered id
    refine le_trans hold ?_
    refine le_trans ?_ (le_of_eq (hreceived id).symm)
    split <;> omega
  · refine (hreceived id).trans ?_
    refine Eq.trans ?_ (withSettlement_destination L e.settlementId id fun s => { s with
      destinationAmount := s.destinationAmount + amount }).symm
    dsimp only
    rw [settlement_destination, hb.booked id]
    split
    · rename_i hid
      rw [hid]
    · rw [Int.add_zero]

/-- An allocation takes from the debt what it applies, and is covered by the receipts. -/
theorem allocation_balanced (hamount : e.amount.isSome = true) (hn : e.NonNegative)
    (hb : Balanced facilities L) :
    ∃ L', allocation facilities e L = some L' ∧ Balanced facilities L' := by
  obtain ⟨amount, hamount⟩ := Option.isSome_iff_exists.mp hamount
  have hpos : 0 ≤ amount := hn amount hamount
  have hrefuse : ∀ code, ∃ L', refuse e L code = some L' ∧ Balanced facilities L' := by
    intro code
    obtain ⟨L', hL', hquiet⟩ := refuse_quietly L e code
    exact ⟨L', hL', hquiet.balanced hb⟩
  unfold allocation
  rw [hamount]
  split
  · exact hrefuse _
  rename_i fid hfid
  split
  · exact hrefuse _
  rename_i hasset
  dsimp only [Option.bind_eq_bind, Option.bind_some, Option.pure_def]
  split
  · exact hrefuse _
  rename_i hcovered
  -- The facility is in the table, so it has a debt.
  obtain ⟨row, hrow⟩ : ∃ row, facilities fid = some row := by
    cases h : facilities fid with
    | none => rw [h] at hasset; exact absurd (by simp) hasset
    | some row => exact ⟨row, rfl⟩
  have hdebt : L.facilityDebt fid = some (row.debt - appliedTo fid L.allocations) := by
    rw [hb.debt fid, hrow]
    rfl
  have hleft := hb.nonneg fid _ hdebt
  refine ⟨_, rfl, fun f => ?_, fun f d hd => ?_, fun a ha => ?_, fun id => ?_, hb.booked⟩
  · show Function.update L.facilityDebt fid _ f = (facilities f).map fun row =>
      row.debt - appliedTo f (L.allocations ++ [_])
    by_cases hf : f = fid
    · subst hf
      rw [Function.update_self, hrow, hdebt]
      show some (row.debt - appliedTo f L.allocations -
          min amount (row.debt - appliedTo f L.allocations)) = some (row.debt -
        appliedTo f (L.allocations ++ [_]))
      rw [appliedTo_append, if_pos rfl]
      congr 1
      exact Int.sub_sub _ _ _
    · rw [Function.update_of_ne hf, hb.debt f]
      congr 1
      funext row
      rw [appliedTo_append, if_neg fun h => hf h.symm, Int.add_zero]
  · have hd' : Function.update L.facilityDebt fid _ f = some d := hd
    by_cases hf : f = fid
    · subst hf
      rw [Function.update_self, hdebt, Option.some.injEq] at hd'
      rw [← hd']
      show 0 ≤ row.debt - appliedTo f L.allocations - min amount (row.debt - appliedTo f L.allocations)
      omega
    · rw [Function.update_of_ne hf] at hd'
      exact hb.nonneg f d hd'
  · obtain ha | ha := List.mem_append.mp ha
    · exact hb.parts a ha
    · obtain rfl := List.mem_singleton.mp ha
      show min amount _ + (amount - min amount _) = amount
      omega
  · have hold := hb.covered id
    show allocated (L.allocations ++ [_]) id ≤ received L.cash id
    rw [allocated_append]
    split
    · rename_i hid
      have hid' : e.settlementId = id := hid
      rw [← hid']
      show allocated L.allocations e.settlementId + amount ≤ received L.cash e.settlementId
      omega
    · omega

/-- Every type of event is applied and keeps the balance. -/
theorem apply_balanced (hc : e.Complete) (hn : e.NonNegative) (hb : Balanced facilities L) :
    ∃ L', apply facilities e L = some L' ∧ Balanced facilities L' := by
  have hquiet : ∀ {x}, Quietly L x → ∃ L', x = some L' ∧ Balanced facilities L' := by
    rintro x ⟨L', hL', hq⟩
    exact ⟨L', hL', hq.balanced hb⟩
  unfold EconomicEvent.Complete at hc
  unfold apply
  cases htype : e.eventType with
  | OBLIGATION =>
    rw [htype] at hc
    exact hquiet (obligation_quietly L hc.1)
  | ASSIGNMENT => exact hquiet (assignment_quietly facilities L e)
  | CORRECTION =>
    rw [htype] at hc
    exact hquiet (correction_quietly L hc.2)
  | PAYOUT =>
    rw [htype] at hc
    exact hquiet (payout_quietly L hc)
  | CANCELLATION =>
    rw [htype] at hc
    exact hquiet (cancellation_quietly L hc.1)
  | LEG =>
    rw [htype] at hc
    exact hquiet (leg_quietly L hc.1)
  | DESTINATION_RECEIPT =>
    rw [htype] at hc
    exact destinationReceipt_balanced hc.1 hn hb
  | ALLOCATION =>
    rw [htype] at hc
    exact allocation_balanced hc.2 hn hb
  | DECISION_USE => exact hquiet (decisionUse_quietly L e)
  | other name => exact hquiet (refuse_quietly L e _)

end

/-- The second loop runs to its end and keeps the balance. -/
theorem foldlM_balanced (facilities : FacilityTable) : ∀ {l : List EconomicEvent} {L : Ledger},
    (∀ e ∈ l, e.Complete ∧ e.NonNegative) → Balanced facilities L →
    ∃ L', l.foldlM (fun L e => apply facilities e L) L = some L' ∧ Balanced facilities L' := by
  intro l
  induction l with
  | nil => intro L _ hb; exact ⟨L, rfl, hb⟩
  | cons e l ih =>
    intro L hl hb
    obtain ⟨hc, hn⟩ := hl e List.mem_cons_self
    obtain ⟨L₁, hfirst, hb₁⟩ := apply_balanced hc hn hb
    rw [List.foldlM_cons, hfirst]
    exact ih (fun e he => hl e (List.mem_cons_of_mem _ he)) hb₁

/-! ### The whole reconciliation -/

/-- The event of an observation has its fields and its amount. -/
theorem mergeEvent_events {P : EconomicEvent → Prop} {L : Ledger} {o : Observation}
    (hL : ∀ e ∈ L.economicEvents, P e) (ho : P o.toEvent)
    (hobs : ∀ e via trust source, P e → P { e with
      observedVia := via
      trust := trust
      sourceEventId := source }) :
    ∀ e ∈ (mergeEvent L o).economicEvents, P e := by
  unfold mergeEvent
  split
  · intro e he
    obtain he | he := List.mem_append.mp he
    · exact hL e he
    · obtain rfl := List.mem_singleton.mp he
      exact ho
  split
  · exact hL
  · intro e he
    obtain ⟨e₀, he₀, rfl⟩ := List.mem_map.mp he
    split
    · obtain ⟨via, trust, source, heq, -, -⟩ := e₀.observe_eq o
      rw [heq]
      exact hobs e₀ via trust source (hL e₀ he₀)
    · exact hL e₀ he₀

theorem merge_events {P : EconomicEvent → Prop} {L : Ledger} {o : Observation}
    (hL : ∀ e ∈ L.economicEvents, P e) (ho : P o.toEvent)
    (hobs : ∀ e via trust source, P e → P { e with
      observedVia := via
      trust := trust
      sourceEventId := source }) :
    ∀ e ∈ (merge L o).economicEvents, P e := by
  have hchecked : ∀ L : Ledger, (∀ e ∈ L.economicEvents, P e) →
      ∀ e ∈ (mergeChecked L o).economicEvents, P e := by
    intro L hL
    unfold mergeChecked
    split
    · exact hL
    split
    · exact hL
    · exact mergeEvent_events hL ho hobs
  unfold merge
  split
  · exact hL
  split
  · exact hchecked L hL
  split
  · exact hL
  · exact hchecked _ hL

theorem foldl_merge_events {P : EconomicEvent → Prop}
    (hobs : ∀ e via trust source, P e → P { e with
      observedVia := via
      trust := trust
      sourceEventId := source }) : ∀ {obs : List Observation} {L : Ledger},
    (∀ e ∈ L.economicEvents, P e) → (∀ o ∈ obs, P o.toEvent) →
    ∀ e ∈ (obs.foldl merge L).economicEvents, P e := by
  intro obs
  induction obs with
  | nil => intro L hL _; exact hL
  | cons o obs ih =>
    intro L hL ho
    exact ih (merge_events hL (ho o List.mem_cons_self) hobs)
      fun o' ho' => ho o' (List.mem_cons_of_mem _ ho')

/-- The merge is quiet. -/
theorem foldl_merge_quiet : ∀ (obs : List Observation) (L : Ledger),
    Quiet L (obs.foldl merge L) := by
  intro obs
  induction obs with
  | nil => intro L; exact .refl L
  | cons o obs ih =>
    intro L
    refine Quiet.trans ?_ (ih (merge L o))
    obtain ⟨events, exceptions, consumed, h⟩ := merge_rest L o
    rw [h]
    exact ⟨rfl, rfl, fun _ => rfl, fun _ => rfl⟩

theorem initial_balanced {facilities : FacilityTable}
    (hdebt : ∀ f row, facilities f = some row → 0 ≤ row.debt) :
    Balanced facilities (.initial facilities) where
  debt := fun f => by
    show (facilities f).map (·.debt) = (facilities f).map fun row => row.debt - 0
    congr 1
    funext row
    exact (Int.sub_zero row.debt).symm
  nonneg := fun f d h => by
    obtain ⟨row, hrow, rfl⟩ := Option.map_eq_some_iff.mp h
    exact hdebt f row hrow
  parts := fun a h => absurd h List.not_mem_nil
  covered := fun _ => Int.le_refl 0
  booked := fun _ => rfl

/-- Reconciliation of well-formed observations ends in a ledger in which debt and cash are
conserved, and one more copy of a listed observation, later than all of them, changes of it at most
the exceptions and the observations of each event. -/
theorem reconcile_conserves (facilities : FacilityTable) (obs : List Observation)
    (hdebt : ∀ f row, facilities f = some row → 0 ≤ row.debt)
    (hformed : ∀ o ∈ obs, o.WellFormed)
    (hamount : ∀ o ∈ obs, ∀ a, o.amount = some a → 0 ≤ a) :
    ∃ L, reconcile facilities obs = some L ∧
      (∀ f row, facilities f = some row →
        L.facilityDebt f = some (row.debt - appliedTo f L.allocations) ∧
        0 ≤ row.debt - appliedTo f L.allocations) ∧
      (∀ a ∈ L.allocations, a.applied + a.excess = a.amount) ∧
      (∀ id, allocated L.allocations id ≤ received L.cash id) ∧
      (∀ id, received L.cash id = L.destinationAmount id) ∧
      ∀ o ∈ obs, ∀ c : Observation, c.CopyOf o →
        (∀ o' ∈ obs, o'.observedAt < c.observedAt) →
        ∃ L', reconcile facilities (obs ++ [c]) = some L' ∧ L'.facts = L.facts := by
  have hevents : ∀ e ∈ (merged facilities obs).economicEvents, e.Complete ∧ e.NonNegative := by
    refine foldl_merge_events (fun e via trust source h => h) ?_ fun o ho => ?_
    · exact fun e he => absurd he List.not_mem_nil
    · have ho' := (List.mem_insertionSort Observation.before).mp ho
      exact ⟨hformed o ho', hamount o ho'⟩
  have hmerged : Balanced facilities (merged facilities obs) :=
    (foldl_merge_quiet _ _).balanced (initial_balanced hdebt)
  obtain ⟨L, hL, hb⟩ := foldlM_balanced facilities hevents hmerged
  refine ⟨L, hL, fun f row hrow => ?_, hb.parts, hb.covered, hb.booked, ?_⟩
  · have hf : L.facilityDebt f = some (row.debt - appliedTo f L.allocations) := by
      rw [hb.debt f, hrow]
      rfl
    exact ⟨hf, hb.nonneg f _ hf⟩
  · intro o ho c hcopy hlast
    have hsame := merged_copy facilities ho hcopy hlast
    have hrun : (reconcile facilities (obs ++ [c])).map Ledger.facts =
        (reconcile facilities obs).map Ledger.facts :=
      foldlM_facts facilities (congrArg Ledger.economicEvents hsame) hsame
    have hL' : reconcile facilities obs = some L := hL
    rw [hL'] at hrun
    exact Option.map_eq_some_iff.mp hrun

namespace Sample

/-- One facility owes 100. -/
def facilities : FacilityTable := fun f =>
  if f = "facility" then some ⟨some "account", some "USDC", 100⟩ else none

/-- An observation of the chain. -/
def observation (id at_ : String) (t : EventType) (amount : Int) : Observation where
  observationId := id
  observedAt := at_
  source := .CHAIN
  trust := .PROVEN
  economicEventId := "event " ++ id
  eventType := t
  account := "account"
  asset := "USDC"
  amount := some amount
  delta := none
  revision := 1
  obligationRef := some "invoice"
  facility := some "facility"
  targetEconomicEventId := none
  sourceEventId := some ("log " ++ id)
  settlementId := some "settlement"
  payer := none
  payerIsBorrower := false
  provenance := none
  consumed := true
  emitterRegistered := some true
  anchor := false
  proven := none
  claimed := none

/-- A debt of the provider, its payment, the receipt of it and two allocations, of which the second
is not covered. -/
def observations : List Observation :=
  [observation "1" "01" .OBLIGATION 80, observation "2" "02" .PAYOUT 80,
    observation "3" "03" .DESTINATION_RECEIPT 50, observation "4" "04" .ALLOCATION 40,
    observation "5" "05" .ALLOCATION 20]

/-- The receipt again. -/
def replayed : Observation := { observation "3" "03" .DESTINATION_RECEIPT 50 with
  observationId := "6"
  observedAt := "06" }

theorem facilities_nonneg (f : String) (row : FacilityRow) (h : facilities f = some row) :
    0 ≤ row.debt := by
  unfold facilities at h
  split at h
  · rw [Option.some.injEq] at h
    rw [← h]
    decide
  · cases h

theorem observations_formed : ∀ o ∈ observations, o.WellFormed := by
  intro o ho
  unfold observations at ho
  simp only [List.mem_cons, List.not_mem_nil, or_false] at ho
  obtain rfl | rfl | rfl | rfl | rfl := ho
  · exact ⟨rfl, rfl⟩
  · exact rfl
  · exact ⟨rfl, rfl⟩
  · exact ⟨rfl, rfl⟩
  · exact ⟨rfl, rfl⟩

theorem observations_nonneg : ∀ o ∈ observations, ∀ a, o.amount = some a → 0 ≤ a := by
  have h : ∀ o ∈ observations, ∀ a ∈ o.amount, 0 ≤ a := by decide +kernel
  exact fun o ho a ha => h o ho a ha

end Sample

/-- The covered allocation is applied, and the replay of the receipt changes nothing. -/
theorem reconcile_conserves_sample :
    ∃ L, reconcile Sample.facilities Sample.observations = some L ∧
      L.facilityDebt "facility" = some (100 - appliedTo "facility" L.allocations) ∧
      ∃ L', reconcile Sample.facilities (Sample.observations ++ [Sample.replayed]) = some L' ∧
        L'.facts = L.facts := by
  obtain ⟨L, hL, hdebt, -, -, -, hcopy⟩ := reconcile_conserves Sample.facilities
    Sample.observations Sample.facilities_nonneg Sample.observations_formed
    Sample.observations_nonneg
  refine ⟨L, hL, (hdebt "facility" ⟨some "account", some "USDC", 100⟩ rfl).1, ?_⟩
  exact hcopy (Sample.observation "3" "03" .DESTINATION_RECEIPT 50) (by simp [Sample.observations])
    Sample.replayed rfl (by decide +kernel)

/-- Of the two allocations one is booked. -/
example : (reconcile Sample.facilities Sample.observations).map
    (fun L => (L.facilityDebt "facility", L.exceptions.map (·.code))) =
      some (some 60, [.ALLOCATION_EXCEEDS_RECEIPT]) := by
  decide +kernel

end Rackline.Reconciler
