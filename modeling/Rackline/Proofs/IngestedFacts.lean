import Rackline.Proofs.EmittedLogs
import Rackline.Proofs.RelayOps

/-!
# `Rackline.Proofs.IngestedFacts`: what the facts that the book took say of it

The counterpart of `Proofs.EmittedLogs` on the destination chain. The book may have taken any part
of the facts, in any order. The amounts that it keeps of a receivable are sums over the facts about it,
and it counts the facts of an account (`Tallied`). A log that the book takes tells it one fact
(`Told`), and `Tallied.told` is the step lemma.
-/

set_option autoImplicit false

namespace Rackline

open Evm Transition Replay

/-! ### What a fact does to a receivable -/

/-- What the book does with the receivable that a fact is about. -/
structure Receivable.Takes (r : Receivable) (f : SourceEvent) (r' : Receivable) : Prop where
  net : (r'.net : Int) = r.net + f.netDelta
  paid : (r'.paid : Int) = r.paid + f.paidDelta
  cancelled : r'.state = .cancelled ↔ r.state = .cancelled ∨ f.cancels = true
  blank : r'.state = .none → r.state = .none ∧ r'.net = r.net ∧ r'.paid ≤ r.paid

/-- How many facts the book counted for an account. -/
def ReceivableBook.counted (b : ReceivableBook) (a : AccountId) : Nat := (b.stats a).eventsConsumed

/-- A fact moves the receivable that it is about, and is counted; or it is about none. -/
inductive Told (P : ProviderId) (b : ReceivableBook) (f : SourceEvent) (b' : ReceivableBook) : Prop
  | moved (a : AccountKey) (ref : Bytes32) (r' : Receivable) :
      f.obligation = some (a, ref) → (b.receivables ⟨P, a, ref⟩).Takes f r' →
      b'.receivables = Function.update b.receivables ⟨P, a, ref⟩ r' →
      b'.counted = Function.update b.counted ⟨P, a⟩ (b.counted ⟨P, a⟩ + 1) → Told P b f b'
  | aside : f.obligation = none → b'.receivables = b.receivables → b'.counted = b.counted →
      Told P b f b'

/-- The receivable that a reference of an account names. A payout may name none. -/
def ReceivableId.named (P : ProviderId) (a : AccountKey) (ref : Bytes32) : Option ReceivableId :=
  if ref = 0 then none else some ⟨P, a, ref⟩

namespace ReceivableBook

section Facts

variable {now : Nat} {reg : Providers} {emitter : Address} {P : ProviderId} {rec : EvidenceRecord}
  {b b' : ReceivableBook} {event : SourceEvent} {id : ReceivableId} {r : Receivable} {n m : Nat}

theorem counted_of_stats {a : AccountId} (h : b'.stats = Function.update b.stats a
    { eventsConsumed := (b.stats a).eventsConsumed + 1, openAmount := n, paidCumulative := m }) :
    b'.counted = Function.update b.counted a (b.counted a + 1) := by
  funext a'
  show (b'.stats a').eventsConsumed = _
  rw [h]
  by_cases ha : a' = a
  · subst ha
    rw [Function.update_self, Function.update_self]
    rfl
  · rw [Function.update_of_ne ha, Function.update_of_ne ha]
    rfl

theorem withPaid_counted (a : AccountId) : (b.withPaid a n).counted = b.counted := by
  funext a'
  show (Function.update b.stats a _ a').eventsConsumed = _
  by_cases ha : a' = a
  · subst ha
    rw [Function.update_self]
    rfl
  · rw [Function.update_of_ne ha]
    rfl

/-- A receivable that nothing was said of has no amounts. -/
def Blank (b : ReceivableBook) : Prop :=
  ∀ id, (b.receivables id).state = .none → (b.receivables id).net = 0 ∧ (b.receivables id).paid = 0

/-- A log that the book takes tells it one fact, provided that the cancellation of a payout is about
the receivable that the payout was about. -/
theorem effect_told (h : BookEffect now reg emitter P rec b event b') (hblank : b.Blank)
    (hnamed : ∀ a ref seq amount, event = .payoutCancelled a ref seq amount →
      (b.settlements P seq).exists_ = true →
      (b.settlements P seq).receivableId = ReceivableId.named P a ref) :
    Told P b event.fact b' := by
  cases h with
  | recognized _ id issuer payer token amount dueAt hevent hP hnone =>
    subst hP
    have hfact : event.fact = .obligationRecognized id.accountKey id.obligationRef issuer payer
        emitter amount dueAt 1 := by
      rcases hevent with ⟨rfl, -⟩ | ⟨t, rfl, -⟩
      · rfl
      · rfl
    obtain ⟨hnet, hpaid⟩ := hblank id hnone
    rw [hfact]
    refine .moved id.accountKey id.obligationRef _ rfl ⟨?_, ?_, ?_, ?_⟩ rfl (counted_of_stats rfl)
    · show (amount : Int) = (b.receivables id).net + amount
      rw [hnet]
      simp
    · show ((b.receivables id).paid : Int) = (b.receivables id).paid + 0
      simp
    · show ReceivableState.open_ = .cancelled ↔ (b.receivables id).state = .cancelled ∨ false = true
      simp [hnone]
    · exact fun hs => nomatch hs
  | assigned id facilityKey hP hopen | assignedFirst id facilityKey hP hopen =>
    subst hP
    refine .moved id.accountKey id.obligationRef _ rfl ⟨?_, ?_, ?_, ?_⟩ rfl (counted_of_stats rfl)
    · show ((b.receivables id).net : Int) = (b.receivables id).net + 0
      simp
    · show ((b.receivables id).paid : Int) = (b.receivables id).paid + 0
      simp
    · show ReceivableState.assigned = .cancelled ↔
        (b.receivables id).state = .cancelled ∨ false = true
      rcases hopen with hs | hs
      · simp [hs]
      · simp [hs]
    · exact fun hs => nomatch hs
  | corrected id delta reason openAmount' hP hopen hle hfits hcancel =>
    subst hP
    have hnet := hfits.2.1
    refine .moved id.accountKey id.obligationRef _ rfl ⟨?_, ?_, ?_, ?_⟩ rfl (counted_of_stats rfl)
    · show ((((b.receivables id).net : Int) + delta).toNat : Int) = (b.receivables id).net + delta
      omega
    · show ((b.receivables id).paid : Int) = (b.receivables id).paid + 0
      simp
    · show (if reason = correctionReasonCancel then ReceivableState.cancelled
        else (b.receivables id).state) = .cancelled ↔
        (b.receivables id).state = .cancelled ∨ decide (reason = correctionReasonCancel) = true
      by_cases hreason : reason = correctionReasonCancel
      · simp [hreason]
      · simp [hreason]
    · show (if reason = correctionReasonCancel then ReceivableState.cancelled
        else (b.receivables id).state) = .none → _
      intro hs
      by_cases hreason : reason = correctionReasonCancel
      · rw [if_pos hreason] at hs
        cases hs
      · rw [if_neg hreason] at hs
        rcases hopen with ho | ho
        · rw [ho] at hs
          cases hs
        · rw [ho] at hs
          cases hs
  | paid id token payer amount seq hP href hseen hopen =>
    subst hP
    have hstate : (if (b.receivables id).paid + amount = (b.receivables id).net then .paid
        else (b.receivables id).state) ≠ ReceivableState.cancelled ∧
        (if (b.receivables id).paid + amount = (b.receivables id).net then .paid
        else (b.receivables id).state) ≠ ReceivableState.none := by
      split
      · exact ⟨by decide, by decide⟩
      · rcases hopen with ho | ho
        · simp [ho]
        · simp [ho]
    refine .moved id.accountKey id.obligationRef _ (if_neg href) ⟨?_, ?_, ?_, ?_⟩ rfl
      (counted_of_stats rfl)
    · show ((b.receivables id).net : Int) = (b.receivables id).net + 0
      simp
    · show (((b.receivables id).paid + amount : Nat) : Int) = (b.receivables id).paid + amount
      simp
    · refine iff_of_false hstate.1 ?_
      rintro (hs | hs)
      · rcases hopen with ho | ho
        · rw [ho] at hs
          cases hs
        · rw [ho] at hs
          cases hs
      · cases hs
    · exact fun hs => absurd hs hstate.2
  | paidUnnamed a token payer amount seq => exact .aside rfl rfl (withPaid_counted _)
  | unpaid id seq amount hP hexists haccount hid hlive hamount hle =>
    subst hP
    have href : id.obligationRef ≠ 0 := by
      intro h0
      have hname := hnamed _ _ seq amount rfl hexists
      rw [hid, ReceivableId.named, if_pos h0] at hname
      cases hname
    refine .moved id.accountKey id.obligationRef _ (if_neg href) ⟨?_, ?_, ?_, ?_⟩ rfl
      (counted_of_stats rfl)
    · show ((b.receivables id).net : Int) = (b.receivables id).net + 0
      simp
    · show (((b.receivables id).paid - amount : Nat) : Int) = (b.receivables id).paid + -amount
      omega
    · show (if (b.receivables id).state = .paid then
          if (b.receivables id).facilityId ≠ 0 then .assigned else .open_
        else (b.receivables id).state) = ReceivableState.cancelled ↔
        (b.receivables id).state = .cancelled ∨ false = true
      by_cases hpaid : (b.receivables id).state = .paid
      · rw [if_pos hpaid, hpaid]
        split
        · simp
        · simp
      · simp [hpaid]
    · show (if (b.receivables id).state = .paid then
          if (b.receivables id).facilityId ≠ 0 then .assigned else .open_
        else (b.receivables id).state) = ReceivableState.none → _
      by_cases hpaid : (b.receivables id).state = .paid
      · rw [if_pos hpaid]
        split
        · exact fun hs => nomatch hs
        · exact fun hs => nomatch hs
      · rw [if_neg hpaid]
        exact fun hs => ⟨hs, rfl, Nat.sub_le _ _⟩
  | unpaidUnnamed a ref seq amount hexists haccount hnone =>
    have href : ref = 0 := by
      by_contra h0
      have hname := hnamed _ _ seq amount rfl hexists
      rw [hnone, ReceivableId.named, if_neg h0] at hname
      cases hname
    exact .aside (if_pos href) rfl (withPaid_counted _)
  | checkpointed _ a seq latestRevision openAmount paidCumulative observedAt until_ hevent =>
    rcases hevent with ⟨rfl, -⟩ | rfl
    · exact .aside rfl rfl rfl
    · exact .aside rfl rfl rfl

/-- The settlements after a log. -/
def settlementsAfter (P : ProviderId) (b : ReceivableBook) :
    SourceEvent → ProviderId → Nat → Settlement
  | .payoutReceived a ref _ _ amount seq =>
    set2 b.settlements P seq
      { accountKey := a, receivableId := ReceivableId.named P a ref, amount := amount,
        exists_ := true, cancelled := false }
  | .payoutCancelled _ _ seq _ =>
    set2 b.settlements P seq { b.settlements P seq with cancelled := true }
  | _ => b.settlements

theorem effect_settlements (h : BookEffect now reg emitter P rec b event b') :
    b'.settlements = b.settlementsAfter P event := by
  cases h with
  | recognized _ id issuer payer token amount dueAt hevent =>
    rcases hevent with ⟨rfl, -⟩ | ⟨t, rfl, -⟩
    · rfl
    · rfl
  | assigned | assignedFirst | corrected => rfl
  | paid id token payer amount seq hP href =>
    subst hP
    show set2 b.settlements id.providerId seq _ = set2 b.settlements id.providerId seq _
    rw [ReceivableId.named, if_neg href]
  | paidUnnamed | unpaid | unpaidUnnamed => rfl
  | checkpointed _ a seq latestRevision openAmount paidCumulative observedAt until_ hevent =>
    rcases hevent with ⟨rfl, -⟩ | rfl
    · rfl
    · rfl

/-- A checkpoint of the book is old, or has no time, or is that of the log. -/
theorem effect_checkpoints (h : BookEffect now reg emitter P rec b event b') (a : AccountId) :
    b'.checkpoints a = b.checkpoints a ∨ (b'.checkpoints a).observedAt = 0 ∨
      a.providerId = P ∧ event.reservation = some (a.accountKey, (b'.checkpoints a).latestRevision,
        (b'.checkpoints a).protectedUntil) := by
  cases h with
  | checkpointed _ a' seq latestRevision openAmount paidCumulative observedAt until_ hevent =>
    by_cases ha : a = ⟨P, a'⟩
    · subst ha
      rcases hevent with ⟨rfl, h0⟩ | rfl
      · refine .inr (.inl ?_)
        simp [h0]
      · refine .inr (.inr ⟨rfl, ?_⟩)
        simp [SourceEvent.reservation]
    · exact .inl (Function.update_of_ne ha ..)
  | _ => exact .inl rfl

/-- A receivable is of its account, and of a facility of its provider once it has one. -/
structure Placed (b : ReceivableBook) : Prop where
  account : ∀ id, (b.receivables id).state ≠ .none → (b.receivables id).accountKey = id.accountKey
  facility : ∀ id, (b.receivables id).state = .assigned ∨ (b.receivables id).facilityId ≠ 0 →
    (b.facilities (b.receivables id).facilityId).exists_ = true ∧
      (b.facilities (b.receivables id).facilityId).providerId = id.providerId

/-- One receivable was written. -/
theorem Placed.written (h : b.Placed) (hr : b'.receivables = Function.update b.receivables id r)
    (hf : b'.facilities = b.facilities) (haccount : r.state ≠ .none → r.accountKey = id.accountKey)
    (hfacility : r.state = .assigned ∨ r.facilityId ≠ 0 →
      (b.facilities r.facilityId).exists_ = true ∧
        (b.facilities r.facilityId).providerId = id.providerId) : b'.Placed := by
  constructor
  · intro id'
    rw [hr]
    by_cases hid : id' = id
    · subst hid
      rwa [Function.update_self]
    · rw [Function.update_of_ne hid]
      exact h.account id'
  · intro id'
    rw [hr, hf]
    by_cases hid : id' = id
    · subst hid
      rwa [Function.update_self]
    · rw [Function.update_of_ne hid]
      exact h.facility id'

theorem Placed.effect (h : b.Placed) (heffect : BookEffect now reg emitter P rec b event b') :
    b'.Placed := by
  have hknown : ∀ id, (b.receivables id).state = .open_ ∨ (b.receivables id).state = .assigned →
      (b.receivables id).accountKey = id.accountKey := by
    intro id hopen
    rcases hopen with hs | hs
    · exact h.account id (by simp [hs])
    · exact h.account id (by simp [hs])
  cases heffect with
  | recognized _ id issuer payer token amount dueAt =>
    refine h.written rfl rfl (fun _ => rfl) fun hr => h.facility id (.inr ?_)
    exact hr.resolve_left fun hs => nomatch hs
  | assigned id facilityKey hP hopen hexists hprovider htoken h0 hsame =>
    exact h.written rfl rfl (fun _ => hknown id hopen) fun _ => h.facility id (.inr h0)
  | assignedFirst id facilityKey hP hopen hexists hprovider =>
    exact h.written rfl rfl (fun _ => hknown id hopen) fun _ => ⟨hexists, hprovider.trans hP.symm⟩
  | corrected id delta reason openAmount' hP hopen =>
    refine h.written rfl rfl (fun _ => hknown id hopen) fun hr => h.facility id ?_
    refine hr.imp_left fun hs => ?_
    dsimp only at hs
    split at hs
    · cases hs
    · exact hs
  | paid id token payer amount seq hP href hseen hopen =>
    refine h.written rfl rfl (fun _ => hknown id hopen) fun hr => h.facility id ?_
    refine hr.imp_left fun hs => ?_
    dsimp only at hs
    split at hs
    · cases hs
    · exact hs
  | unpaid id seq amount =>
    refine h.written rfl rfl (fun hs => ?_) fun hr => h.facility id ?_
    · refine h.account id fun hnone => hs ?_
      dsimp only
      rw [hnone]
      rfl
    · rcases hr with hs | h0
      · dsimp only at hs
        split at hs
        · split at hs
          · exact .inr ‹_›
          · cases hs
        · exact .inl hs
      · exact .inr h0
  | paidUnnamed | unpaidUnnamed | checkpointed => exact ⟨h.account, h.facility⟩

end Facts

end ReceivableBook

open ReceivableBook

section Config

variable {facilityKey : FacilityId → Bytes32} {b b' : ReceivableBook}

theorem Configured.placed (h : Configured facilityKey b b') (hplaced : b.Placed) : b'.Placed := by
  cases h with
  | disputed id disputed hsome =>
    exact hplaced.written rfl rfl (hplaced.account id) (hplaced.facility id)
  | registered facilityId f hnew hf =>
    refine ⟨hplaced.account, fun id hr => ?_⟩
    obtain ⟨hexists, hprovider⟩ := hplaced.facility id hr
    show (Function.update b.facilities facilityId f (b.receivables id).facilityId).exists_ = true ∧
      (Function.update b.facilities facilityId f (b.receivables id).facilityId).providerId = _
    -- A facility that is there is not registered again.
    have hne : (b.receivables id).facilityId ≠ facilityId := by
      intro heq
      rw [heq, hnew] at hexists
      cases hexists
    rw [Function.update_of_ne hne]
    exact ⟨hexists, hprovider⟩

/-- Configuration leaves the receivables as they are, up to the dispute flag. -/
theorem Configured.receivable (h : Configured facilityKey b b') (id : ReceivableId) :
    ∃ disputed, b'.receivables id = { b.receivables id with disputed := disputed } := by
  cases h with
  | disputed id' disputed hsome =>
    by_cases hid : id = id'
    · subst hid
      exact ⟨disputed, Function.update_self ..⟩
    · exact ⟨(b.receivables id).disputed, Function.update_of_ne hid ..⟩
  | registered => exact ⟨(b.receivables id).disputed, rfl⟩

theorem Configured.amounts (h : Configured facilityKey b b') (id : ReceivableId) :
    (b'.receivables id).net = (b.receivables id).net ∧
      (b'.receivables id).paid = (b.receivables id).paid ∧
      (b'.receivables id).state = (b.receivables id).state := by
  obtain ⟨disputed, hr⟩ := h.receivable id
  rw [hr]
  exact ⟨rfl, rfl, rfl⟩

theorem Configured.others (h : Configured facilityKey b b') :
    b'.stats = b.stats ∧ b'.settlements = b.settlements ∧ b'.checkpoints = b.checkpoints := by
  cases h with
  | disputed => exact ⟨rfl, rfl, rfl⟩
  | registered => exact ⟨rfl, rfl, rfl⟩

end Config

namespace ReceivableBook

/-! ### What the facts add up to -/

section Told

variable {P : ProviderId} {b b' : ReceivableBook} {f : SourceEvent} {facts : List SourceEvent}

theorem Blank.told (h : b.Blank) (ht : Told P b f b') : b'.Blank := by
  cases ht with
  | moved a ref r' hf htakes hr hcounted =>
    intro id
    rw [hr]
    by_cases hid : id = ⟨P, a, ref⟩
    · subst hid
      rw [Function.update_self]
      intro hs
      obtain ⟨hnone, hnet, hpaid⟩ := htakes.blank hs
      obtain ⟨hnet₀, hpaid₀⟩ := h _ hnone
      omega
    · rw [Function.update_of_ne hid]
      exact h id
  | aside hf hr hcounted =>
    intro id
    rw [hr]
    exact h id

/-- What the book keeps for a provider is what the facts add up to. -/
structure Tallied (P : ProviderId) (facts : List SourceEvent) (b : ReceivableBook) : Prop where
  counted : ∀ a, b.counted ⟨P, a⟩ = countOf a facts
  net : ∀ a ref, ((b.receivables ⟨P, a, ref⟩).net : Int) = netOf a ref facts
  paid : ∀ a ref, ((b.receivables ⟨P, a, ref⟩).paid : Int) = paidOf a ref facts
  cancelled : ∀ a ref, (b.receivables ⟨P, a, ref⟩).state = .cancelled ↔
    ∃ f ∈ logsOf a ref facts, f.cancels = true

theorem initial_tallied (P : ProviderId) : ReceivableBook.initial.Tallied P [] where
  counted := fun _ => rfl
  net := fun _ _ => rfl
  paid := fun _ _ => rfl
  cancelled := by
    intro a ref
    refine iff_of_false (fun hs => nomatch hs) ?_
    rintro ⟨f, hf, -⟩
    exact nomatch hf

/-- Nothing of what the facts add up to has changed. -/
theorem Tallied.congr (h : b.Tallied P facts) (hcounted : ∀ a, b'.counted ⟨P, a⟩ = b.counted ⟨P, a⟩)
    (hr : ∀ a ref, (b'.receivables ⟨P, a, ref⟩).net = (b.receivables ⟨P, a, ref⟩).net ∧
      (b'.receivables ⟨P, a, ref⟩).paid = (b.receivables ⟨P, a, ref⟩).paid ∧
      (b'.receivables ⟨P, a, ref⟩).state = (b.receivables ⟨P, a, ref⟩).state) :
    b'.Tallied P facts where
  counted := fun a => (hcounted a).trans (h.counted a)
  net := fun a ref => by rw [(hr a ref).1, h.net]
  paid := fun a ref => by rw [(hr a ref).2.1, h.paid]
  cancelled := fun a ref => by rw [(hr a ref).2.2, h.cancelled]

/-- One more fact. -/
theorem Tallied.told (h : b.Tallied P facts) (ht : Told P b f b') :
    b'.Tallied P (facts ++ [f]) := by
  cases ht with
  | moved a ref r' hf htakes hr hcounted =>
    have hof := SourceEvent.concerns_of hf
    have hself : b'.receivables ⟨P, a, ref⟩ = r' := by
      rw [hr, Function.update_self]
    have hother : ∀ a' ref', ¬(a' = a ∧ ref' = ref) →
        b'.receivables ⟨P, a', ref'⟩ = b.receivables ⟨P, a', ref'⟩ := by
      intro a' ref' hk
      rw [hr, Function.update_of_ne]
      intro heq
      cases heq
      exact hk ⟨rfl, rfl⟩
    constructor
    · intro a'
      rw [hcounted]
      by_cases ha : a' = a
      · subst ha
        rw [Function.update_self, countOf_snoc_of (SourceEvent.counts_of hf), h.counted]
      · rw [Function.update_of_ne (by simp [ha]),
          countOf_snoc_of_not (SourceEvent.counts_of_ne hf ha), h.counted]
    · intro a' ref'
      by_cases hk : a' = a ∧ ref' = ref
      · obtain ⟨rfl, rfl⟩ := hk
        rw [hself, netOf_snoc_of hof, ← h.net]
        exact htakes.net
      · rw [hother a' ref' hk, netOf_snoc_of_not (SourceEvent.concerns_of_ne hf hk)]
        exact h.net a' ref'
    · intro a' ref'
      by_cases hk : a' = a ∧ ref' = ref
      · obtain ⟨rfl, rfl⟩ := hk
        rw [hself, paidOf_snoc_of hof, ← h.paid]
        exact htakes.paid
      · rw [hother a' ref' hk, paidOf_snoc_of_not (SourceEvent.concerns_of_ne hf hk)]
        exact h.paid a' ref'
    · intro a' ref'
      by_cases hk : a' = a ∧ ref' = ref
      · obtain ⟨rfl, rfl⟩ := hk
        rw [hself, logsOf_snoc_of hof, htakes.cancelled, h.cancelled]
        simp [or_and_right, exists_or]
      · rw [hother a' ref' hk, logsOf_snoc_of_not (SourceEvent.concerns_of_ne hf hk)]
        exact h.cancelled a' ref'
  | aside hf hr hcounted =>
    have hnone := SourceEvent.concerns_of_none hf
    constructor
    · intro a
      rw [hcounted, countOf_snoc_of_not (SourceEvent.counts_of_none hf a), h.counted]
    · intro a ref
      rw [hr, netOf_snoc_of_not (hnone a ref), h.net]
    · intro a ref
      rw [hr, paidOf_snoc_of_not (hnone a ref), h.paid]
    · intro a ref
      rw [hr, logsOf_snoc_of_not (hnone a ref), h.cancelled]

/-- A fact told for one provider is not told for another. -/
theorem Tallied.told_other {Q : ProviderId} (h : b.Tallied Q facts) (hne : Q ≠ P)
    (ht : Told P b f b') : b'.Tallied Q facts := by
  cases ht with
  | moved a ref r' hf htakes hr hcounted =>
    refine h.congr ?_ ?_
    · intro a'
      rw [hcounted, Function.update_of_ne (by simp [hne])]
    · intro a' ref'
      rw [hr, Function.update_of_ne (by simp [hne])]
      exact ⟨rfl, rfl, rfl⟩
  | aside hf hr hcounted =>
    refine h.congr (fun a => by rw [hcounted]) ?_
    intro a ref
    rw [hr]
    exact ⟨rfl, rfl, rfl⟩

end Told

end ReceivableBook

end Rackline
