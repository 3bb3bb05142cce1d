import Rackline.Proofs.LogOrder

/-!
# `Rackline.Proofs.LogCompletion`: the replay of the logs can go on

In a state in which the logs came in their order (`Relay.InOrder`), the earliest fact about an
obligation that is missing can be ingested, from any log that states it: the receivable is what the
escrow kept when it emitted the log, so the book comes to the same answer. What is left to the
circumstances are the registries (`Relay.Registered`) and the totals of the account, which have to
stay words (`Relay.Room`).
-/

set_option autoImplicit false

namespace Rackline

open Evm Transition Replay

/-- An obligation is assigned to what an assignment names. -/
theorem readLogs_assigned {l : List SourceEvent} {v : ObligationView} (h : readLogs l = some v) :
    v.assignedTo ≠ 0 → ∃ a ref revision, .obligationAssigned a ref v.assignedTo revision ∈ l := by
  refine replay_rule (P := fun l v => v.assignedTo ≠ 0 →
    ∃ a ref revision, SourceEvent.obligationAssigned a ref v.assignedTo revision ∈ l) ?_ ?_ h
  · exact fun h0 => absurd rfl h0
  · intro l v e w ih hstep h0
    have hold : w.assignedTo = v.assignedTo → ∃ a ref revision,
        SourceEvent.obligationAssigned a ref w.assignedTo revision ∈ l ++ [e] := by
      intro hsame
      rw [hsame] at h0 ⊢
      obtain ⟨a, ref, revision, hmem⟩ := ih h0
      exact ⟨a, ref, revision, List.mem_append_left _ hmem⟩
    cases e with
    | obligationAssigned a ref facilityKey revision =>
      simp only [ObligationView.apply, Option.ite_none_right_eq_some, Option.some.injEq] at hstep
      obtain ⟨-, rfl⟩ := hstep
      exact ⟨a, ref, revision, by simp⟩
    | obligationRecognizedV2 | sourceCheckpoint | sourceCheckpointV2 => cases hstep
    | _ =>
      simp only [ObligationView.apply, Option.ite_none_right_eq_some, Option.some.injEq] at hstep
      obtain ⟨-, rfl⟩ := hstep
      exact hold rfl

namespace SourceEvent

variable {f g x : SourceEvent}

/-- The logs of checkpoints have one topic less. -/
theorem topic2_isSome : x.topic2.isSome = true ↔ x.topic.kind ≠ .checkpoint := by
  cases x <;> simp [topic2, topic, Topic.kind]

/-- Facts with one key have one label. -/
theorem label_of_economicId {P : ProviderId} (hf : f.topic2.isSome = true)
    (h : g.economicId P = f.economicId P) : g.label = f.label := by
  have haccount : g.accountKey = f.accountKey := congrArg EconomicEventId.accountKey h
  have hkind : g.topic.kind = f.topic.kind := congrArg EconomicEventId.kind h
  have htopic : g.topic2.getD 0 = f.topic2.getD 0 := congrArg EconomicEventId.topic2 h
  have hseq : g.seqOrRev = f.seqOrRev := congrArg EconomicEventId.seqOrRev h
  have hg : g.topic2.isSome = true := by
    rw [topic2_isSome, hkind]
    exact topic2_isSome.mp hf
  obtain ⟨t, ht⟩ := Option.isSome_iff_exists.mp hf
  obtain ⟨u, hu⟩ := Option.isSome_iff_exists.mp hg
  rw [ht, hu] at htopic
  obtain rfl : u = t := htopic
  simp only [label, haccount, hkind, ht, hu, hseq]

/-- A log is about the account of the obligation. -/
theorem accountKey_of_obligation {a : AccountKey} {ref : Bytes32}
    (h : x.fact.obligation = some (a, ref)) : x.accountKey = a := by
  cases x with
  | payoutReceived | payoutCancelled =>
    simp only [fact, obligation] at h
    split at h
    · cases h
    · cases h
      rfl
  | sourceCheckpoint | sourceCheckpointV2 => cases h
  | _ =>
    cases h
    rfl

end SourceEvent

namespace Relay

section Completion

variable {facilityKey : FacilityId → Bytes32} {P : ProviderId} {s : Relay} {a : AccountKey}
  {ref : Bytes32} {f x : SourceEvent} {v v' : ObligationView} {reg : Providers}

theorem earliest_mem (h : s.earliest P a ref = some f) : f ∈ s.sent a ref ∧ f ∉ s.ingested P :=
  ⟨List.mem_of_find?_eq_some h, of_decide_eq_true (List.find?_eq_some_iff_append.mp h).1⟩

/-- While a fact is missing, the book counted fewer facts than the escrow. -/
theorem InOrder.room_count (hs : s.InOrder facilityKey P) (hf : f ∈ s.sent a ref)
    (hnew : f ∉ s.ingested P) : (s.book.stats ⟨P, a⟩).eventsConsumed + 1 < wordSize 32 := by
  obtain ⟨hsent, hobligation⟩ := mem_sent.mp hf
  have hcounts := SourceEvent.counts_of hobligation
  have hnodup : (f :: (s.ingested P).filter (·.counts a)).Nodup :=
    List.nodup_cons.mpr ⟨fun hmem => hnew (List.mem_filter.mp hmem).1,
      (hs.kept.relayed P).counts_nodup a⟩
  have hsub : f :: (s.ingested P).filter (·.counts a) ⊆ (factsOf s.logs).filter (·.counts a) :=
    List.cons_subset.mpr ⟨List.mem_filter.mpr ⟨hsent, hcounts⟩, (hs.kept.relayed P).counts_sent a⟩
  have hlength := (hnodup.subperm hsub).length_le
  have hcounted : (s.book.stats ⟨P, a⟩).eventsConsumed = countOf a (s.ingested P) :=
    (hs.kept.relayed P).tallied.counted a
  calc (s.book.stats ⟨P, a⟩).eventsConsumed + 1 = countOf a (s.ingested P) + 1 := by rw [hcounted]
    _ ≤ countOf a (factsOf s.logs) := hlength
    _ = s.escrow.latestRevision a := (hs.kept.logged.count a).symm
    _ < wordSize 32 := hs.noted.counter a

/-- The facility of a receivable is the one that its assignment names. -/
theorem InOrder.facility (hs : s.InOrder facilityKey P)
    (hreg : s.Registered reg P a ref) (hread : readLogs (s.taken P a ref) = some v)
    (hshows : (s.book.receivables ⟨P, a, ref⟩).Shows facilityKey v)
    (h0 : (s.book.receivables ⟨P, a, ref⟩).facilityId ≠ 0) :
    v.assignedTo ≠ 0 ∧
      s.book.facilityByKey v.assignedTo = (s.book.receivables ⟨P, a, ref⟩).facilityId ∧
      (s.book.facilities (s.book.receivables ⟨P, a, ref⟩).facilityId).sourceAsset.token =
        (s.escrow.obligations a ref).token := by
  have hkey := hshows.facility h0
  have hfound := hs.keyed.found _ (hs.kept.placed.facility ⟨P, a, ref⟩ (.inr h0)).1
  rw [hkey] at hfound
  have hassigned : v.assignedTo ≠ 0 := by
    intro hnone
    rw [hnone, hreg.unkeyed] at hfound
    exact h0 hfound.symm
  obtain ⟨a', ref', revision, hmem⟩ := readLogs_assigned hread hassigned
  obtain ⟨hmem, hobligation⟩ := mem_taken.mp hmem
  cases hobligation
  -- The assignment was emitted, so its facility is registered with the token of the obligation.
  have hlogged : SourceEvent.obligationAssigned a ref v.assignedTo revision ∈ s.logs :=
    List.mem_of_mem_filter ((hs.kept.relayed P).emitted _ hmem)
  obtain ⟨-, -, -, htoken⟩ := hreg.facility _ _ hlogged
  rw [hfound] at htoken
  exact ⟨hassigned, hfound, htoken⟩

/-- A payout that is missing has no settlement. -/
theorem InOrder.no_settlement (hs : s.InOrder facilityKey P) {token payer : Address}
    {amount seq : Nat} (hsent : .payoutReceived a ref token payer amount seq ∈ factsOf s.logs)
    (hnew : .payoutReceived a ref token payer amount seq ∉ s.ingested P) :
    (s.book.settlements P seq).exists_ = false := by
  by_contra hexists
  obtain ⟨a', ref', token', payer', amount', hmem⟩ :=
    hs.settled.told seq (Bool.eq_true_of_not_eq_false hexists)
  have hemitted := (hs.kept.relayed P).emitted _ hmem
  obtain ⟨-, ha', href', -⟩ := hs.kept.logged.settlements _ (List.mem_of_mem_filter hemitted) seq
    a' ref' amount' rfl
  obtain ⟨-, ha, href, -⟩ := hs.kept.logged.settlements _ (List.mem_of_mem_filter hsent) seq
    a ref amount rfl
  have hlabel : SourceEvent.label (.payoutReceived a' ref' token' payer' amount' seq) =
      SourceEvent.label (.payoutReceived a ref token payer amount seq) := by
    rw [← ha', ← href', ← ha, ← href]
    rfl
  exact hnew (hs.noted.unique hemitted hsent hlabel ▸ hmem)

/-- The payout of a cancellation that is the earliest fact that is missing was taken, and is not
cancelled. -/
theorem InOrder.live_settlement (hs : s.InOrder facilityKey P) {seq amount : Nat}
    (hearliest : s.earliest P a ref = some (.payoutCancelled a ref seq amount)) :
    (s.book.settlements P seq).exists_ = true ∧ (s.book.settlements P seq).cancelled = false ∧
      (s.book.settlements P seq).accountKey = a ∧
      (s.book.settlements P seq).receivableId = some ⟨P, a, ref⟩ ∧
      (s.book.settlements P seq).amount = amount := by
  obtain ⟨hmem, hnew⟩ := earliest_mem hearliest
  obtain ⟨hsent, hobligation⟩ := mem_sent.mp hmem
  have href : ref ≠ 0 := by
    rintro rfl
    simp [SourceEvent.obligation] at hobligation
  obtain ⟨-, -, left, hcut, -⟩ := hs.cut hearliest
  have hlogged := List.mem_of_mem_filter hsent
  -- At the source, the payout comes before the cancellation.
  obtain ⟨p, q, hpq⟩ := List.append_of_mem hlogged
  obtain ⟨token, payer, hpayout⟩ := hs.noted.cancellations p q a ref seq amount hpq
  have hsplit : s.sent a ref = logsOf a ref (factsOf p) ++
      .payoutCancelled a ref seq amount :: logsOf a ref (factsOf q) := by
    rw [sent, hpq, factsOf_append]
    simp [factsOf, logsOf, SourceEvent.fact, SourceEvent.concerns, SourceEvent.obligation, href]
  have htaken : s.taken P a ref = logsOf a ref (factsOf p) := by
    have hnodup := hs.sent_nodup a ref
    rw [hcut] at hsplit hnodup
    have hnot := (List.nodup_cons.mp (List.nodup_middle.mp hnodup)).1
    rw [List.mem_append, not_or] at hnot
    exact ((List.append_cons_inj_of_notMem hnot.1 hnot.2).mp hsplit).1
  have hold : SourceEvent.payoutReceived a ref token payer amount seq ∈ s.taken P a ref := by
    rw [htaken]
    simp [factsOf, logsOf, SourceEvent.fact, SourceEvent.concerns, SourceEvent.obligation, href,
      hpayout]
  have hexists := hs.settled.taken _ _ _ _ _ _ (mem_taken.mp hold).1
  obtain ⟨-, hof⟩ := (hs.kept.relayed P).settlements seq hexists
  obtain ⟨-, haccount, hreference, hamount⟩ := hs.kept.logged.settlements _ hlogged seq a ref amount
    rfl
  refine ⟨hexists, ?_, hof.account.trans haccount, ?_, hof.amount.trans hamount⟩
  · by_contra hcancelled
    obtain ⟨a', ref', amount', hmem'⟩ :=
      hs.settled.dropped seq (Bool.eq_true_of_not_eq_false hcancelled)
    have hemitted := (hs.kept.relayed P).emitted _ hmem'
    obtain ⟨-, ha', href', -⟩ := hs.kept.logged.settlements _ (List.mem_of_mem_filter hemitted) seq
      a' ref' amount' rfl
    have hlabel : SourceEvent.label (.payoutCancelled a' ref' seq amount') =
        SourceEvent.label (.payoutCancelled a ref seq amount) := by
      rw [← ha', ← href', haccount, hreference]
      rfl
    exact hnew (hs.noted.unique hemitted hsent hlabel ▸ hmem')
  · refine hof.receivable.trans ?_
    rw [haccount, hreference, ReceivableId.named, if_neg href]

/-! ### The kinds of logs -/

/-- What is known of the earliest fact that is missing. -/
structure Awaits (facilityKey : FacilityId → Bytes32) (s : Relay) (reg : Providers) (P : ProviderId)
    (a : AccountKey) (ref : Bytes32) (f : SourceEvent) (v : ObligationView) : Prop where
  order : s.InOrder facilityKey P
  registered : s.Registered reg P a ref
  room : s.Room P a f
  earliest : s.earliest P a ref = some f
  reads : readLogs (s.taken P a ref) = some v
  accepts : (v.apply f).isSome = true
  shows_ : (s.book.receivables ⟨P, a, ref⟩).Shows facilityKey v

theorem Awaits.count (h : s.Awaits facilityKey reg P a ref f v) :
    (s.book.stats ⟨P, a⟩).eventsConsumed + 1 < wordSize 32 :=
  h.order.room_count (earliest_mem h.earliest).1 (earliest_mem h.earliest).2

/-- What is unpaid of a receivable that is open is covered by the open amount. -/
theorem Awaits.cover (h : s.Awaits facilityKey reg P a ref f v)
    (hopen : (s.book.receivables ⟨P, a, ref⟩).state = .open_ ∨
      (s.book.receivables ⟨P, a, ref⟩).state = .assigned) :
    (s.book.receivables ⟨P, a, ref⟩).net - (s.book.receivables ⟨P, a, ref⟩).paid ≤
      (s.book.stats ⟨P, a⟩).openAmount := by
  rw [← Receivable.openPart_of_live hopen]
  exact h.order.covering.openPart_le ⟨P, a, ref⟩

variable {m : Msg} {rec : EvidenceRecord}

theorem Awaits.recognized {issuer payer payee : Address} {amount dueAt revision : Nat}
    (h : s.Awaits facilityKey reg P a ref
      (.obligationRecognized a ref issuer payer payee amount dueAt revision) v)
    (hx : x ∈ s.logs)
    (hfact : x.fact = .obligationRecognized a ref issuer payer payee amount dueAt revision) :
    ∃ b', s.book.dispatch m.now reg s.escrow.self P rec x = .ok b' := by
  have haccepts := h.accepts
  simp only [ObligationView.apply, Option.isSome_ite] at haccepts
  obtain ⟨hstatus, rfl⟩ := haccepts
  have hnone : (s.book.receivables ⟨P, a, ref⟩).state = .none :=
    ReceivableState.status_eq_none.mp (h.shows_.status.trans hstatus)
  obtain ⟨hissuer, hpayer, hwallet⟩ :=
    h.registered.recognition x hx issuer payer payee amount dueAt 1 hfact
  have hroom : (s.book.stats ⟨P, a⟩).openAmount + amount < wordSize 256 := by
    have := h.room.1
    simp only [SourceEvent.netDelta, SourceEvent.paidDelta] at this
    omega
  cases x with
  | obligationRecognized =>
    cases hfact
    obtain ⟨rfl, hamount⟩ := h.order.noted.recognitions _ hx payee amount rfl
    exact ReceivableBook.recognize_returns hnone hissuer hpayer hamount hwallet rfl hroom h.count
  | obligationRecognizedV2 _ _ _ _ _ token =>
    cases hfact
    obtain ⟨rfl, hamount⟩ := h.order.noted.recognitions _ hx payee amount rfl
    obtain ⟨htoken, hadmitted⟩ := h.registered.token _ hx token rfl
    obtain ⟨cfg, hcfg⟩ := Option.isSome_iff_exists.mp h.registered.provider
    have hrequire : ReceivableBook.requireToken reg P (some token) = .ok () := by
      simp only [ReceivableBook.requireToken, Providers.config, hcfg, bind_eq_ok, revertIf_eq_ok,
        exists_const]
      exact ⟨htoken, cfg, rfl, by simp [hadmitted cfg hcfg]⟩
    exact ReceivableBook.recognize_returns hnone hissuer hpayer hamount hwallet hrequire hroom h.count
  | _ => cases hfact

theorem Awaits.assigned {key : Bytes32} {revision : Nat}
    (h : s.Awaits facilityKey reg P a ref (.obligationAssigned a ref key revision) v) :
    ∃ b', s.book.dispatch m.now reg s.escrow.self P rec (.obligationAssigned a ref key revision)
      = .ok b' := by
  have haccepts := h.accepts
  simp only [ObligationView.apply, Option.isSome_ite] at haccepts
  obtain ⟨hstatus, hkey, rfl, hword⟩ := haccepts
  have hopen := ReceivableState.status_eq_open.mp (h.shows_.status.trans hstatus)
  have hmem := List.mem_of_mem_filter (mem_sent.mp (earliest_mem h.earliest).1).1
  obtain ⟨hexists, hprovider, hborrower, htoken⟩ := h.registered.facility key _ hmem
  rw [← h.shows_.revision] at hword ⊢
  refine ReceivableBook.assign_returns hopen hword hexists hprovider hborrower.symm ?_ ?_ h.count
  · intro hproven
    have hnamed := h.order.named a ref
    rw [htoken]
    exact (hnamed.token (hnamed.proven hproven)).2
  · intro h0
    obtain ⟨hassigned, hfound, -⟩ := h.order.facility h.registered h.reads h.shows_ h0
    rw [← hkey.resolve_left hassigned, hfound]

theorem Awaits.corrected {delta : Int} {revision reason : Nat}
    (h : s.Awaits facilityKey reg P a ref (.obligationCorrected a ref delta revision reason) v) :
    ∃ b', s.book.dispatch m.now reg s.escrow.self P rec
      (.obligationCorrected a ref delta revision reason) = .ok b' := by
  have haccepts := h.accepts
  simp only [ObligationView.apply, Option.isSome_ite] at haccepts
  obtain ⟨hstatus, rfl, hword, hfits, hcancel⟩ := haccepts
  have hopen := ReceivableState.status_eq_open.mp (h.shows_.status.trans hstatus)
  have hroom := h.room.1
  simp only [SourceEvent.netDelta, SourceEvent.paidDelta, Int.sub_zero] at hroom
  rw [← h.shows_.revision] at hword ⊢
  rw [← h.shows_.net, ← h.shows_.paid] at hfits hcancel
  exact ReceivableBook.correct_returns hopen hword (h.order.sound ⟨P, a, ref⟩).le hfits hcancel
    (h.cover hopen) hroom h.count

theorem Awaits.paid {token payer : Address} {amount seq : Nat}
    (h : s.Awaits facilityKey reg P a ref (.payoutReceived a ref token payer amount seq) v) :
    ∃ b', s.book.dispatch m.now reg s.escrow.self P rec
      (.payoutReceived a ref token payer amount seq) = .ok b' := by
  have haccepts := h.accepts
  simp only [ObligationView.apply, Option.isSome_ite] at haccepts
  obtain ⟨hstatus, hfits, hpaid, hword⟩ := haccepts
  have hopen := ReceivableState.status_eq_open.mp (h.shows_.status.trans hstatus)
  obtain ⟨hmem, hnew⟩ := earliest_mem h.earliest
  obtain ⟨hsent, hobligation⟩ := mem_sent.mp hmem
  have href : ref ≠ 0 := by
    rintro rfl
    simp [SourceEvent.obligation] at hobligation
  -- The log, the receivable and its facility name the token of the obligation.
  obtain ⟨-, htoken⟩ := h.order.noted.tokens _ (List.mem_of_mem_filter hsent) a ref token
    (if_neg href)
  have hcover := h.cover hopen
  have hroom := h.room.2
  simp only [SourceEvent.paidDelta] at hroom
  rw [← h.shows_.net, ← h.shows_.paid] at hfits
  rw [← h.shows_.paid] at hpaid
  rw [← h.shows_.revision] at hword
  refine ReceivableBook.payout_returns href (h.order.no_settlement hsent hnew) hopen ?_ ?_ hfits hpaid
    hword (by omega) (by omega) h.count
  · exact fun h0 => ((h.order.named a ref).token h0).2.trans htoken
  · intro h0
    obtain ⟨-, -, hfacility⟩ := h.order.facility h.registered h.reads h.shows_ h0
    exact (hfacility.trans htoken).symm

theorem Awaits.unpaid {amount seq : Nat}
    (h : s.Awaits facilityKey reg P a ref (.payoutCancelled a ref seq amount) v) :
    ∃ b', s.book.dispatch m.now reg s.escrow.self P rec (.payoutCancelled a ref seq amount)
      = .ok b' := by
  have haccepts := h.accepts
  simp only [ObligationView.apply, Option.isSome_ite] at haccepts
  obtain ⟨-, hpaid, hword⟩ := haccepts
  obtain ⟨hexists, hlive, haccount, hid, hamount⟩ := h.order.live_settlement h.earliest
  have hcover := h.order.covering.live_le ⟨hexists, hlive, haccount⟩
  rw [hamount] at hcover
  have hroom := h.room.1
  simp only [SourceEvent.netDelta, SourceEvent.paidDelta] at hroom
  rw [← h.shows_.paid] at hpaid
  rw [← h.shows_.revision] at hword
  exact ReceivableBook.cancelPayout_returns hexists haccount hid hlive hamount hpaid hword hcover
    (by omega) h.count

/-- The book takes the earliest fact that is missing. -/
theorem Awaits.dispatches (h : s.Awaits facilityKey reg P a ref f v) (hx : x ∈ s.logs) (hfact : x.fact = f) :
    ∃ b', s.book.dispatch m.now reg s.escrow.self P rec x = .ok b' := by
  have hobligation := (mem_sent.mp (earliest_mem h.earliest).1).2
  cases x with
  | obligationRecognized | obligationRecognizedV2 =>
    subst hfact
    cases hobligation
    exact h.recognized hx rfl
  | obligationAssigned =>
    subst hfact
    cases hobligation
    exact h.assigned
  | obligationCorrected =>
    subst hfact
    cases hobligation
    exact h.corrected
  | payoutReceived a' ref' =>
    subst hfact
    have hnamed := hobligation
    simp only [SourceEvent.fact, SourceEvent.obligation] at hnamed
    split at hnamed
    · cases hnamed
    · cases hnamed
      exact h.paid
  | payoutCancelled a' ref' =>
    subst hfact
    have hnamed := hobligation
    simp only [SourceEvent.fact, SourceEvent.obligation] at hnamed
    split at hnamed
    · cases hnamed
    · cases hnamed
      exact h.unpaid
  | sourceCheckpoint | sourceCheckpointV2 =>
    subst hfact
    cases hobligation

/-- The key of a fact that is missing was not seen. -/
theorem InOrder.unseen (hs : s.InOrder facilityKey P) (hf : f ∈ s.sent a ref)
    (hnew : f ∉ s.ingested P) : s.destination.evidence.economicSeen (f.economicId P) = false := by
  obtain ⟨hsent, hobligation⟩ := mem_sent.mp hf
  have hsome := SourceEvent.topic2_of_counts (SourceEvent.counts_of hobligation)
  by_contra hseen
  obtain ⟨g, hg, hkey⟩ := hs.seen _ (Bool.eq_true_of_not_eq_false hseen) rfl
    (SourceEvent.topic2_isSome.mp hsome)
  have hlabel := SourceEvent.label_of_economicId hsome hkey
  exact hnew (hs.noted.unique ((hs.kept.relayed P).emitted g hg) hsent hlabel ▸ hg)

/-- A call that ingests a log. -/
theorem call_ingest {m : Msg} {log : Nat} {claim : ReceivableClaim} {d' : Destination}
    (hx : s.logs[log]? = some x)
    (hok : s.destination.ingest m reg s.escrow.self P log x claim = .ok d') :
    s.call facilityKey m (.ingest reg P log claim) = some { s with
      destination := d'
      ingested := Function.update s.ingested P (s.ingested P ++ [x.fact]) } := by
  simp only [Relay.call, hx, Option.bind_eq_bind, Option.bind_some]
  rw [hok]
  rfl

/-- The earliest fact that is missing can be ingested, from any log that states it. -/
theorem InOrder.completes (hs : s.InOrder facilityKey P)
    (hearliest : s.earliest P a ref = some f) (hreg : s.Registered reg P a ref)
    (hroom : s.Room P a f) {m : Msg} (hrole : m.hasRole .relayer m.sender = true) {log : Nat}
    (hx : s.logs[log]? = some x) (hfact : x.fact = f) :
    ∃ claim s', s.call facilityKey m (.ingest reg P log claim) = some s' := by
  obtain ⟨v, v', left, hcut, hread, happly, hshows⟩ := hs.cut hearliest
  obtain ⟨hmem, hnew⟩ := earliest_mem hearliest
  obtain ⟨-, hobligation⟩ := mem_sent.mp hmem
  have hawaits : s.Awaits facilityKey reg P a ref f v :=
    ⟨hs, hreg, hroom, hearliest, hread, by simp [happly], hshows⟩
  have hsome : x.topic2.isSome = true := by
    rw [← SourceEvent.fact_topic2, hfact]
    exact SourceEvent.topic2_of_counts (SourceEvent.counts_of hobligation)
  have hconsumed : s.destination.evidence.consumed log = false := by
    by_contra hconsumed
    obtain ⟨y, hy, hold⟩ := hs.consumed log (Bool.eq_true_of_not_eq_false hconsumed)
    rw [hx, Option.some.injEq] at hy
    rw [← hy, hfact] at hold
    exact hnew hold
  -- The proof is claimed to be valid for one more second.
  let claim : ReceivableClaim := { event := x, topic2 := 0, validUntil := m.now + 1 }
  have hseen : s.destination.evidence.economicSeen (economicKey P claim) = false := by
    rw [economicKey_fact (c := claim) hsome]
    show s.destination.evidence.economicSeen (x.fact.economicId P) = false
    rw [hfact]
    exact hs.unseen hmem hnew
  have haccount : x.accountKey ≠ 0 := by
    rw [SourceEvent.accountKey_of_obligation (hfact ▸ hobligation)]
    exact hreg.account
  obtain ⟨cfg, hcfg⟩ := Option.isSome_iff_exists.mp hreg.provider
  have hvalidity := hreg.validity
  obtain ⟨d', hok⟩ := Destination.ingest_returns (c := claim) hrole hreg.intake hreg.consumer
    hreg.verifier hreg.proven hcfg (hreg.meaning _) hconsumed
    ⟨Nat.lt_succ_self _, show m.now + 1 ≤ m.now + reg.maxValidity by omega⟩ haccount hseen
    fun _ => hawaits.dispatches (List.mem_of_getElem? hx) hfact
  exact ⟨claim, _, call_ingest hx hok⟩

/-! ### Logs that come too early or too late -/

/-- What an accepted call ingests. -/
theorem call_ingest_some {m : Msg} {log : Nat} {claim : ReceivableClaim} {s' : Relay}
    (hx : s.logs[log]? = some x)
    (h : s.call facilityKey m (.ingest reg P log claim) = some s') :
    ∃ d', s.destination.ingest m reg s.escrow.self P log x claim = .ok d' := by
  simp only [Relay.call, hx, Option.bind_eq_bind, Option.bind_some, Option.bind_eq_some_iff,
    toOption_eq_some] at h
  obtain ⟨d', hok, -⟩ := h
  exact ⟨d', hok⟩

/-- A log that carries its revision is refused out of its turn. -/
theorem InOrder.refuses (hs : s.InOrder facilityKey P) {log : Nat} (hx : s.logs[log]? = some x)
    (hf : x.fact.obligation = some (a, ref)) (hrev : x.fact.ownRevision ≠ none)
    (hearliest : s.earliest P a ref ≠ some x.fact) (m : Msg) (reg : Providers)
    (claim : ReceivableClaim) : s.call facilityKey m (.ingest reg P log claim) = none := by
  cases hcall : s.call facilityKey m (.ingest reg P log claim) with
  | none => rfl
  | some s' =>
    obtain ⟨d', hok⟩ := call_ingest_some hx hcall
    have hsome : x.topic2.isSome = true := by
      rw [← SourceEvent.fact_topic2]
      exact SourceEvent.topic2_of_counts (SourceEvent.counts_of hf)
    have hnew := hs.kept.ingest_new hsome hok
    obtain ⟨-, -, -, -, -, rec, heffect⟩ := Destination.ingest_effect hok
    have htimely : s.Timely P x := by
      intro o ho
      rw [SourceEvent.loose, if_neg hrev] at ho
      cases ho
    exact absurd (hs.accepted (List.mem_of_getElem? hx) hnew htimely hf heffect) hearliest

/-- A log is overtaken when the receivable is past its revision. -/
def Overtaken (P : ProviderId) (s : Relay) (log : Nat) (a : AccountKey) (ref : Bytes32) (n : Nat) :
    Prop :=
  (∃ x, s.logs[log]? = some x ∧ x.fact.obligation = some (a, ref) ∧ x.fact.ownRevision = some n) ∧
    (s.book.receivables ⟨P, a, ref⟩).state ≠ .none ∧ n ≤ (s.book.receivables ⟨P, a, ref⟩).revision

/-- A log that was overtaken is refused. -/
theorem Overtaken.refused {log n : Nat} (h : s.Overtaken P log a ref n) (m : Msg) (reg : Providers)
    (claim : ReceivableClaim) : s.call facilityKey m (.ingest reg P log claim) = none := by
  obtain ⟨⟨x, hx, hf, hrev⟩, hstate, hle⟩ := h
  cases hcall : s.call facilityKey m (.ingest reg P log claim) with
  | none => rfl
  | some s' =>
    obtain ⟨d', hok⟩ := call_ingest_some hx hcall
    obtain ⟨-, -, -, -, -, rec, heffect⟩ := Destination.ingest_effect hok
    rcases ReceivableBook.effect_revision heffect hf hrev with hnext | ⟨-, hnone⟩
    · have hle : n ≤ (s.destination.book.receivables ⟨P, a, ref⟩).revision := hle
      omega
    · exact absurd hnone hstate

end Completion

end Relay

namespace ReceivableBook

variable {now : Nat} {reg : Providers} {emitter : Address} {P : ProviderId} {rec : EvidenceRecord}
  {b b' : ReceivableBook} {event : SourceEvent} {id : ReceivableId} {r : Receivable}

/-- One receivable was written. -/
theorem ages_written (hr : b'.receivables = Function.update b.receivables id r)
    (h : (b.receivables id).state ≠ .none →
      r.state ≠ .none ∧ (b.receivables id).revision ≤ r.revision)
    (id' : ReceivableId) (hsome : (b.receivables id').state ≠ .none) :
    (b'.receivables id').state ≠ .none ∧
      (b.receivables id').revision ≤ (b'.receivables id').revision := by
  rw [hr]
  by_cases hid : id' = id
  · subst hid
    rw [Function.update_self]
    exact h hsome
  · rw [Function.update_of_ne hid]
    exact ⟨hsome, Nat.le_refl _⟩

/-- A receivable that is there stays, and its revision does not go back. -/
theorem effect_ages (h : BookEffect now reg emitter P rec b event b') (id' : ReceivableId)
    (hsome : (b.receivables id').state ≠ .none) :
    (b'.receivables id').state ≠ .none ∧
      (b.receivables id').revision ≤ (b'.receivables id').revision := by
  have hfinal : ∀ {p : Prop} [Decidable p] {s t : ReceivableState}, t ≠ .none → s ≠ .none →
      (if p then t else s) ≠ .none := by
    intro p _ s t ht hs
    split
    · exact ht
    · exact hs
  cases h with
  | recognized _ id issuer payer token amount dueAt hevent hP hnone =>
    exact ages_written rfl (fun hs => absurd hnone hs) id' hsome
  | assigned id key | assignedFirst id key =>
    exact ages_written rfl (fun _ => ⟨by simp, Nat.le_succ _⟩) id' hsome
  | corrected id delta reason openAmount' hP hopen =>
    exact ages_written rfl (fun hs => ⟨hfinal (by decide) hs, Nat.le_succ _⟩) id' hsome
  | paid id token payer amount seq =>
    exact ages_written rfl (fun hs => ⟨hfinal (by decide) hs, Nat.le_succ _⟩) id' hsome
  | unpaid id seq amount =>
    exact ages_written rfl (fun hs => ⟨hfinal (hfinal (by decide) (by decide)) hs, Nat.le_succ _⟩)
      id' hsome
  | paidUnnamed | unpaidUnnamed | checkpointed => exact ⟨hsome, Nat.le_refl _⟩

end ReceivableBook

/-- A log that was overtaken stays so. -/
theorem RelayStep.overtaken {facilityKey : FacilityId → Bytes32} {P : ProviderId} {s s' : Relay}
    {a : AccountKey} {ref : Bytes32} {log n : Nat} {tx : Msg × RelayCall}
    (hs : s.Overtaken P log a ref n) (h : RelayStep facilityKey s tx s') :
    s'.Overtaken P log a ref n := by
  obtain ⟨⟨x, hx, hf, hrev⟩, hstate, hle⟩ := hs
  obtain ⟨m, call⟩ := tx
  cases h.effect with
  | waited => exact ⟨⟨x, hx, hf, hrev⟩, hstate, hle⟩
  | emitted c events e' heffect =>
    refine ⟨⟨x, ?_, hf, hrev⟩, hstate, hle⟩
    obtain ⟨hlt, -⟩ := List.getElem?_eq_some_iff.mp hx
    show (s.logs ++ events)[log]? = some x
    rwa [List.getElem?_append_left hlt]
  | ingested reg Q log' y c d' hy hok =>
    obtain ⟨-, -, -, -, -, rec, heffect⟩ := Destination.ingest_effect hok
    obtain ⟨hstays, hages⟩ := ReceivableBook.effect_ages heffect ⟨P, a, ref⟩ hstate
    exact ⟨⟨x, hx, hf, hrev⟩, hstays, Nat.le_trans hle hages⟩
  | configured _ b' hc =>
    obtain ⟨disputed, hr⟩ := hc.receivable ⟨P, a, ref⟩
    refine ⟨⟨x, hx, hf, hrev⟩, ?_⟩
    show (b'.receivables ⟨P, a, ref⟩).state ≠ .none ∧ n ≤ (b'.receivables ⟨P, a, ref⟩).revision
    rw [hr]
    exact ⟨hstate, hle⟩

/-! ### Runs in turn -/

/-- The steps of the two chains in which the logs are submitted in turn. -/
def RelayTurn (facilityKey : FacilityId → Bytes32) (P : ProviderId) (s : Relay)
    (tx : Msg × RelayCall) (s' : Relay) : Prop :=
  s.InTurn P tx ∧ RelayStep facilityKey s tx s'

theorem Relay.turns_inOrder {facilityKey : FacilityId → Bytes32} {P : ProviderId}
    (hinj : Function.Injective facilityKey) {self owner : Address} {txs : List (Msg × RelayCall)}
    {s : Relay} (h : Steps (RelayTurn facilityKey P) (.initial self owner) txs s) :
    s.InOrder facilityKey P :=
  h.invariant (fun _ _ _ hs hstep => hs.step hinj hstep.1 hstep.2)
    (Relay.initial_inOrder self owner)

/-- Replay in turn. Take any run in which the logs are submitted for one provider, and no payout and
no cancellation of one is submitted while an earlier log of its obligation is missing, unless the book
has it already or does not admit it. Then the book took the first facts about each obligation, in
their order. The earliest fact that is missing was emitted, and every log that states it can be
ingested, as long as no registry refuses it and the totals of the account stay words. A log that
carries its revision is refused when it states another fact. -/
theorem replay_in_turn {facilityKey : FacilityId → Bytes32} (hinj : Function.Injective facilityKey)
    {P : ProviderId} {self owner : Address}
    {txs : List (Msg × RelayCall)} {s : Relay}
    (hrun : Steps (RelayTurn facilityKey P) (.initial self owner) txs s) (a : AccountKey)
    (ref : Bytes32) :
    s.taken P a ref <+: s.sent a ref ∧
    (∀ f reg, s.earliest P a ref = some f → s.Registered reg P a ref → s.Room P a f →
      f ∈ s.logs ∧ ∀ log x, s.logs[log]? = some x → x.fact = f →
        ∀ m : Msg, m.hasRole .relayer m.sender = true →
          ∃ claim s', s.call facilityKey m (.ingest reg P log claim) = some s') ∧
    ∀ log x, s.logs[log]? = some x → x.fact.obligation = some (a, ref) →
      x.fact.ownRevision ≠ none → s.earliest P a ref ≠ some x.fact →
        ∀ m reg claim, s.call facilityKey m (.ingest reg P log claim) = none := by
  have hs := Relay.turns_inOrder hinj hrun
  refine ⟨?_, ?_, ?_⟩
  · obtain ⟨v, left, hcut, -⟩ := hs.follows a ref
    exact ⟨left, hcut.symm⟩
  · intro f reg hearliest hreg hroom
    obtain ⟨hsent, -⟩ := Relay.mem_sent.mp (Relay.earliest_mem hearliest).1
    refine ⟨List.mem_of_mem_filter hsent, ?_⟩
    intro log x hx hfact m hrole
    exact hs.completes hearliest hreg hroom hrole hx hfact
  · intro log x hx hf hrev hearliest m reg claim
    exact hs.refuses hx hf hrev hearliest m reg claim


/-! ### An assignment that is overtaken -/

/-- Whether these transactions are submitted in turn. -/
def Relay.TakeTurns (facilityKey : FacilityId → Bytes32) (P : ProviderId) :
    Relay → List (Msg × RelayCall) → Prop
  | _, [] => True
  | s, tx :: rest => s.InTurn P tx ∧ TakeTurns facilityKey P (s.perform facilityKey tx) rest

instance (facilityKey : FacilityId → Bytes32) (P : ProviderId) :
    ∀ (txs : List (Msg × RelayCall)) (s : Relay), Decidable (s.TakeTurns facilityKey P txs)
  | [], _ => isTrue trivial
  | tx :: rest, s =>
    have := instDecidableTakeTurns facilityKey P rest (s.perform facilityKey tx)
    inferInstanceAs (Decidable (_ ∧ _))

theorem Relay.after_turns {facilityKey : FacilityId → Bytes32} {P : ProviderId} :
    ∀ {txs : List (Msg × RelayCall)} {s : Relay},
      (s.now :: txs.map fun tx => tx.1.now).Pairwise (· ≤ ·) → s.TakeTurns facilityKey P txs →
        Steps (RelayTurn facilityKey P) s txs (s.after facilityKey txs) := by
  intro txs
  induction txs with
  | nil => exact fun _ _ => .nil _
  | cons tx rest ih =>
    intro s htimes hturns
    obtain ⟨hfirst, hrest⟩ := List.pairwise_cons.mp htimes
    exact .cons ⟨hturns.1, hfirst _ List.mem_cons_self, rfl⟩ (ih hrest hturns.2)

namespace Sample

/-- The wallet 7 has the account 1. The payer 9 owes it 100 of the token 5, which is assigned to the
facility 2, and pays 40. The recognition is relayed. -/
def assignedAndPaid : List (Msg × RelayCall) :=
  [relayTx 1 (.source (.setIssuer 1 true)), relayTx 1 (.source (.setPayer 1 true)),
    relayTx 1 (.source (.registerAccount 1 7)), relayTx 1 (.source (.admitToken 5 6 false)),
    relayTx 1 (.registerFacility providers 2 3 1 ⟨1, 5, 6⟩),
    relayTx 2 (.source (.recognizeObligation 1 1 9 5 100 0)),
    relayTx 3 (.source (.assignObligation 1 1 2)),
    relayTx 4 (.source (.settle 1 1 5 40 1 (some 40))),
    relayed 5 1 (.obligationRecognizedV2 1 1 1 9 100 5 100 0 1)]

/-- The logs of the escrow. -/
def assignedAndPaidLogs : List SourceEvent :=
  [.obligationRecognized 1 1 1 9 100 100 0 1, .obligationRecognizedV2 1 1 1 9 100 5 100 0 1,
    .obligationAssigned 1 1 2 2, .payoutReceived 1 1 5 1 40 1]

/-- Then the assignment is relayed. -/
def inTurn : List (Msg × RelayCall) :=
  assignedAndPaid ++ [relayed 6 2 (.obligationAssigned 1 1 2 2)]

/-- Or the payout is relayed. -/
def overtaking : List (Msg × RelayCall) :=
  assignedAndPaid ++ [relayed 6 3 (.payoutReceived 1 1 5 1 40 1)]

/-- In both cases no registry refuses a log. -/
theorem registered_logs {s : Relay} (hlogs : s.logs = assignedAndPaidLogs)
    (htoken : (s.escrow.obligations 1 1).token = 5)
    (hkey : s.book.facilityByKey 0 = 0)
    (hfacility : (s.book.facilities (s.book.facilityByKey 2)).exists_ = true ∧
      (s.book.facilities (s.book.facilityByKey 2)).providerId = 1 ∧
      (s.book.facilities (s.book.facilityByKey 2)).borrowerId = 3 ∧
      (s.book.facilities (s.book.facilityByKey 2)).sourceAsset.token = 5) :
    s.Registered providers 1 1 1 where
  account := by decide
  intake := rfl
  consumer := rfl
  verifier := rfl
  proven := rfl
  validity := by decide
  provider := rfl
  meaning := fun _ => rfl
  recognition := by
    rw [hlogs]
    intro x hx issuer payer payee amount dueAt revision hfact
    simp only [assignedAndPaidLogs, List.mem_cons, List.not_mem_nil, or_false] at hx
    rcases hx with rfl | rfl | rfl | rfl
    · cases hfact
      decide
    · cases hfact
      decide
    · cases hfact
    · cases hfact
  token := by
    rw [hlogs]
    intro x hx token hnamed
    simp only [assignedAndPaidLogs, List.mem_cons, List.not_mem_nil, or_false] at hx
    rcases hx with rfl | rfl | rfl | rfl
    · cases hnamed
    · cases hnamed
      exact ⟨by decide, fun _ _ => rfl⟩
    · cases hnamed
    · cases hnamed
      exact ⟨by decide, fun _ _ => rfl⟩
  unkeyed := hkey
  facility := by
    rw [hlogs, htoken]
    intro key revision hmem
    simp only [assignedAndPaidLogs, List.mem_cons, List.not_mem_nil, or_false, reduceCtorEq,
      false_or, SourceEvent.obligationAssigned.injEq, true_and] at hmem
    obtain ⟨rfl, -⟩ := hmem
    exact hfacility

end Sample

/-- After the recognition and the assignment, the payout can be ingested. -/
theorem replay_in_turn_sample :
    ∃ claim s', ((Relay.initial 100 1).after (fun id => id) Sample.inTurn).call
      (fun id => id) (Sample.bookMsg 9) (.ingest Sample.providers 1 3 claim) = some s' := by
  have hrun : Steps (RelayTurn (fun id => id) 1) (Relay.initial 100 1) Sample.inTurn
      ((Relay.initial 100 1).after (fun id => id) Sample.inTurn) :=
    Relay.after_turns (by decide) (by decide +kernel)
  obtain ⟨-, hnext, -⟩ := replay_in_turn (fun _ _ h => h) hrun 1 1
  obtain ⟨-, hcall⟩ := hnext (.payoutReceived 1 1 5 1 40 1) Sample.providers (by decide +kernel)
    (Sample.registered_logs (by decide +kernel) (by decide +kernel) (by decide +kernel)
      (by decide +kernel))
    (by decide +kernel)
  exact hcall 3 (.payoutReceived 1 1 5 1 40 1) (by decide +kernel) rfl (Sample.bookMsg 9) rfl

/-- The payout overtakes the assignment and is applied. The assignment is then the earliest fact that
is missing, no registry refuses it and the totals have room. But it is refused, in this state and in
every later one. -/
theorem overtaken_assignment_is_lost :
    ∃ s, RelayReachable (fun id => id) s ∧
      s.earliest 1 1 1 = some (.obligationAssigned 1 1 2 2) ∧
      s.ingested 1 = [.obligationRecognized 1 1 1 9 100 100 0 1, .payoutReceived 1 1 5 1 40 1] ∧
      s.Registered Sample.providers 1 1 1 ∧ s.Room 1 1 (.obligationAssigned 1 1 2 2) ∧
      s.logs[2]? = some (.obligationAssigned 1 1 2 2) ∧
      ∀ txs s', Steps (RelayStep (fun id => id)) s txs s' → ∀ m reg claim,
        s'.call (fun id => id) m (.ingest reg 1 2 claim) = none := by
  refine ⟨(Relay.initial 100 1).after (fun id => id) Sample.overtaking,
    ⟨_, _, ⟨100, 1, rfl⟩, Relay.after_steps (by decide)⟩, by decide +kernel, by decide +kernel,
    Sample.registered_logs (by decide +kernel) (by decide +kernel) (by decide +kernel)
      (by decide +kernel),
    by decide +kernel, by decide +kernel, ?_⟩
  intro txs s' hsteps m reg claim
  have hlost : s'.Overtaken 1 2 1 1 2 := by
    refine hsteps.invariant (fun _ _ _ hs hstep => hstep.overtaken hs) ?_
    exact ⟨⟨.obligationAssigned 1 1 2 2, by decide +kernel, rfl, rfl⟩, by decide +kernel,
      by decide +kernel⟩
  exact hlost.refused m reg claim

end Rackline
