import Rackline.Proofs.IngestedFacts
import Rackline.Proofs.Pledge

/-!
# `Rackline.Proofs.Freshness`: a fresh checkpoint means equal amounts

Every fact that the book took was emitted, and none was taken twice: the evidence book has seen its
key. A checkpoint that is still protected states the latest revision of its account. When the book
counted as many facts, it took all of them (`Replay.perm_of_received`), and the sums do not depend
on the order.
-/

set_option autoImplicit false

namespace Rackline

open Evm Transition Replay

/-! ### The keys of facts -/

namespace SourceEvent

/-- The key under which the evidence book knows a fact of a provider. -/
def economicId (P : ProviderId) (f : SourceEvent) : EconomicEventId :=
  economicKey P { event := f, topic2 := 0, validUntil := 0 }

theorem fact_topic2 (x : SourceEvent) : x.fact.topic2 = x.topic2 := by
  cases x with
  | _ => rfl

theorem topic2_of_counts {a : AccountKey} {f : SourceEvent} (h : f.counts a = true) :
    f.topic2.isSome = true := by
  cases f with
  | sourceCheckpoint | sourceCheckpointV2 => simp [counts, obligation] at h
  | _ => rfl

end SourceEvent

/-- A log has the key of the fact that it states. -/
theorem economicKey_fact {P : ProviderId} {c : ReceivableClaim} (h : c.event.topic2.isSome = true) :
    economicKey P c = c.event.fact.economicId P := by
  obtain ⟨event, topic2, validUntil⟩ := c
  cases event with
  | sourceCheckpoint | sourceCheckpointV2 => cases h
  | _ => rfl

/-! ### The book and the escrow -/

/-- The settlement is that of a payout. -/
structure Settlement.Of (st : Settlement) (P : ProviderId) (p : Payout) : Prop where
  account : st.accountKey = p.accountKey
  receivable : st.receivableId = ReceivableId.named P p.accountKey p.obligationRef
  amount : st.amount = p.amount

/-- What the destination keeps for a provider, next to the escrow, its logs and the facts that were
ingested for the provider. -/
structure Relayed (e : SourceEscrow) (logs : List SourceEvent) (P : ProviderId) (d : Destination)
    (facts : List SourceEvent) : Prop where
  tallied : d.book.Tallied P facts
  emitted : ∀ f ∈ facts, f ∈ factsOf logs
  seen : ∀ f ∈ facts, f.topic2.isSome = true → d.evidence.economicSeen (f.economicId P) = true
  once : (facts.filter (·.topic2.isSome)).Nodup
  settlements : ∀ seq, (d.book.settlements P seq).exists_ = true → seq ≤ e.settlementSeq ∧
    (d.book.settlements P seq).Of P (e.payouts seq)
  checkpoints : ∀ a, (d.book.checkpoints ⟨P, a⟩).observedAt ≠ 0 → ∃ x ∈ logs, x.reservation =
    some (a, (d.book.checkpoints ⟨P, a⟩).latestRevision, (d.book.checkpoints ⟨P, a⟩).protectedUntil)

section Relayed

variable {now : Nat} {m : Msg} {e e' : SourceEscrow} {logs events : List SourceEvent}
  {P Q : ProviderId} {d d' : Destination} {facts : List SourceEvent} {x : SourceEvent}

theorem initial_relayed (self owner : Address) (P : ProviderId) :
    Relayed (.initial self owner) [] P .initial [] where
  tallied := ReceivableBook.initial_tallied P
  emitted := fun _ hf => nomatch hf
  seen := fun _ hf => nomatch hf
  once := .nil
  settlements := fun _ hs => nomatch hs
  checkpoints := fun _ h => absurd rfl h

/-- The escrow goes on. -/
theorem Relayed.emit (h : Relayed e logs P d facts) (hkeeps : e.KeepsPayouts e') :
    Relayed e' (logs ++ events) P d facts where
  tallied := h.tallied
  emitted := by
    intro f hf
    rw [factsOf_append]
    exact List.mem_append_left _ (h.emitted f hf)
  seen := h.seen
  once := h.once
  settlements := by
    intro seq hexists
    obtain ⟨hle, hof⟩ := h.settlements seq hexists
    obtain ⟨haccount, href, hamount⟩ := hkeeps.payouts seq hle
    refine ⟨Nat.le_trans hle hkeeps.seq, ?_, ?_, ?_⟩
    · rw [haccount, hof.account]
    · rw [haccount, href, hof.receivable]
    · rw [hamount, hof.amount]
  checkpoints := by
    intro a hobserved
    obtain ⟨x, hx, hreservation⟩ := h.checkpoints a hobserved
    exact ⟨x, List.mem_append_left _ hx, hreservation⟩

/-- The book is configured. -/
theorem Relayed.configure (h : Relayed e logs P d facts) {facilityKey : FacilityId → Bytes32}
    {b' : ReceivableBook} (hc : Configured facilityKey d.book b') : Relayed e logs P { d with book := b' } facts := by
  obtain ⟨hstats, hsettlements, hcheckpoints⟩ := hc.others
  constructor
  · refine h.tallied.congr ?_ fun a ref => hc.amounts _
    intro a
    show (b'.stats _).eventsConsumed = (d.book.stats _).eventsConsumed
    rw [hstats]
  · exact h.emitted
  · exact h.seen
  · exact h.once
  · rw [hsettlements]
    exact h.settlements
  · rw [hcheckpoints]
    exact h.checkpoints

/-- What a log tells the book, when the settlements are those of the escrow. -/
theorem Relayed.told (h : Relayed e logs P d facts) (hlogged : e.Logged now logs)
    (hblank : d.book.Blank) (hx : x ∈ logs) {reg : Providers} {emitter : Address}
    {rec : EvidenceRecord} {t : Nat} {b' : ReceivableBook}
    (heffect : BookEffect t reg emitter P rec d.book x b') : Told P d.book x.fact b' := by
  refine ReceivableBook.effect_told heffect hblank ?_
  rintro a ref seq amount rfl hexists
  obtain ⟨-, hof⟩ := h.settlements seq hexists
  obtain ⟨-, haccount, href, -⟩ := hlogged.settlements _ hx seq a ref amount rfl
  rw [hof.receivable, haccount, href]

/-- A log is ingested for the provider. -/
theorem Relayed.ingest (h : Relayed e logs P d facts) (hlogged : e.Logged now logs)
    (hblank : d.book.Blank) (hx : x ∈ logs) {reg : Providers} {emitter : Address} {log : Nat}
    {c : ReceivableClaim} (hok : d.ingest m reg emitter P log x c = .ok d') :
    Relayed e logs P d' (facts ++ [x.fact]) := by
  obtain ⟨rfl, -, hunseen, -, hseen', rec, heffect⟩ := Destination.ingest_effect hok
  have hold : ∀ k, d.evidence.economicSeen k = true → d'.evidence.economicSeen k = true := by
    intro k hk
    rw [hseen']
    by_cases hkey : k = economicKey P c
    · rw [hkey, Function.update_self]
    · rwa [Function.update_of_ne hkey]
  constructor
  · exact h.tallied.told (h.told hlogged hblank hx heffect)
  · intro f hf
    rcases List.mem_append.mp hf with hf | hf
    · exact h.emitted f hf
    · rw [List.mem_singleton.mp hf]
      exact hlogged.facts _ hx
  · intro f hf hsome
    rcases List.mem_append.mp hf with hf | hf
    · exact hold _ (h.seen f hf hsome)
    · rw [List.mem_singleton.mp hf] at hsome ⊢
      rw [SourceEvent.fact_topic2] at hsome
      rw [hseen', ← economicKey_fact hsome, Function.update_self]
  · rw [List.filter_append, List.nodup_append]
    refine ⟨h.once, (List.nodup_singleton _).filter _, ?_⟩
    intro f hf g hg heq
    obtain ⟨hf, hsome⟩ := List.mem_filter.mp hf
    -- The key of the log was not seen, so its fact is not among the earlier ones.
    have hfact : g = c.event.fact := List.mem_singleton.mp (List.mem_of_mem_filter hg)
    rw [heq, hfact] at hf hsome
    have hkey := h.seen _ hf hsome
    rw [SourceEvent.fact_topic2] at hsome
    rw [← economicKey_fact hsome, hunseen] at hkey
    cases hkey
  · intro seq
    rw [ReceivableBook.effect_settlements heffect]
    have hlast := hlogged.settlements _ hx
    cases hevent : c.event with
    | payoutReceived a ref token payer amount seq' =>
      rw [hevent] at hlast
      simp only [ReceivableBook.settlementsAfter, set2_row]
      by_cases hs : seq = seq'
      · subst hs
        rw [Function.update_self]
        obtain ⟨hle, haccount, href, hamount⟩ := hlast seq a ref amount rfl
        exact fun _ => ⟨hle, haccount.symm, by rw [haccount, href], hamount.symm⟩
      · rw [Function.update_of_ne hs]
        exact h.settlements seq
    | payoutCancelled a ref seq' amount =>
      simp only [ReceivableBook.settlementsAfter, set2_row]
      by_cases hs : seq = seq'
      · subst hs
        rw [Function.update_self]
        intro hexists
        obtain ⟨hle, hof⟩ := h.settlements seq hexists
        exact ⟨hle, hof.account, hof.receivable, hof.amount⟩
      · rw [Function.update_of_ne hs]
        exact h.settlements seq
    | _ => exact h.settlements seq
  · intro a hobserved
    rcases ReceivableBook.effect_checkpoints heffect ⟨P, a⟩ with hsame | h0 | ⟨-, hreservation⟩
    · rw [hsame] at hobserved ⊢
      exact h.checkpoints a hobserved
    · exact absurd h0 hobserved
    · exact ⟨_, hx, hreservation⟩

/-- A log is ingested for another provider. -/
theorem Relayed.ingest_other (h : Relayed e logs Q d facts) (hne : Q ≠ P) {reg : Providers}
    {emitter : Address} {log : Nat} {c : ReceivableClaim} (htold : Told P d.book x.fact d'.book)
    (hok : d.ingest m reg emitter P log x c = .ok d') : Relayed e logs Q d' facts := by
  obtain ⟨rfl, -, -, -, hseen', rec, heffect⟩ := Destination.ingest_effect hok
  have hsettlements : d'.book.settlements Q = d.book.settlements Q := by
    rw [ReceivableBook.effect_settlements heffect]
    cases c.event with
    | payoutReceived | payoutCancelled => exact set2_row_of_ne _ _ _ hne
    | _ => rfl
  constructor
  · exact h.tallied.told_other hne htold
  · exact h.emitted
  · intro f hf hsome
    rw [hseen']
    by_cases hkey : f.economicId Q = economicKey P c
    · rw [hkey, Function.update_self]
    · rw [Function.update_of_ne hkey]
      exact h.seen f hf hsome
  · exact h.once
  · rw [hsettlements]
    exact h.settlements
  · intro a hobserved
    rcases ReceivableBook.effect_checkpoints heffect ⟨Q, a⟩ with hsame | h0 | ⟨hP, -⟩
    · rw [hsame] at hobserved ⊢
      exact h.checkpoints a hobserved
    · exact absurd h0 hobserved
    · exact absurd hP hne

/-- The facts that the book counted for an account are different facts. -/
theorem Relayed.counts_nodup (h : Relayed e logs P d facts) (a : AccountKey) :
    (facts.filter (·.counts a)).Nodup := by
  refine h.once.sublist ?_
  rw [show facts.filter (·.counts a) = (facts.filter (·.topic2.isSome)).filter (·.counts a) by
    rw [List.filter_filter]
    refine List.filter_congr fun f _ => ?_
    cases hc : f.counts a with
    | false => rfl
    | true => rw [SourceEvent.topic2_of_counts hc]; rfl]
  exact List.filter_sublist

/-- The facts that the book counted for an account were emitted. -/
theorem Relayed.counts_sent (h : Relayed e logs P d facts) (a : AccountKey) :
    facts.filter (·.counts a) ⊆ (factsOf logs).filter (·.counts a) := by
  intro f hf
  obtain ⟨hf, hc⟩ := List.mem_filter.mp hf
  exact List.mem_filter.mpr ⟨h.emitted f hf, hc⟩

/-- A book that counted as many facts of an account as were emitted took all of them. -/
theorem Relayed.perm {a : AccountKey} (h : Relayed e logs P d facts)
    (hcount : countOf a (factsOf logs) ≤ countOf a facts) (ref : Bytes32) :
    (logsOf a ref facts).Perm (logsOf a ref (factsOf logs)) := by
  have hperm := perm_of_received (h.counts_nodup a) (h.counts_sent a) hcount
  rw [← logsOf_filter a ref facts, ← logsOf_filter a ref (factsOf logs)]
  exact hperm.filter _

end Relayed

/-! ### Runs -/

/-- What holds of the two chains in every state. -/
structure Relay.Kept (s : Relay) : Prop where
  sound : s.escrow.Sound
  logged : s.escrow.Logged s.now s.logs
  blank : s.book.Blank
  placed : s.book.Placed
  relayed : ∀ P, Relayed s.escrow s.logs P s.destination (s.ingested P)

theorem Relay.initial_kept (self owner : Address) : (Relay.initial self owner).Kept where
  sound := SourceEscrow.initial_sound self owner
  logged := SourceEscrow.initial_logged self owner
  blank := fun _ _ => ⟨rfl, rfl⟩
  placed :=
    { account := fun _ h => absurd rfl h
      facility := fun _ h => h.elim (fun hs => nomatch hs) fun h0 => absurd rfl h0 }
  relayed := initial_relayed self owner

theorem RelayStep.kept {facilityKey : FacilityId → Bytes32} {s s' : Relay} {a : Msg × RelayCall}
    (hs : s.Kept) (h : RelayStep facilityKey s a s') : s'.Kept := by
  obtain ⟨m, call⟩ := a
  have hnow := h.1
  cases h.effect with
  | waited => exact ⟨hs.sound, hs.logged.wait hnow, hs.blank, hs.placed, hs.relayed⟩
  | emitted c events e' heffect =>
    exact ⟨hs.sound.step heffect, hs.logged.step hnow hs.sound heffect, hs.blank, hs.placed,
      fun P => (hs.relayed P).emit (SourceEscrow.effect_keepsPayouts heffect)⟩
  | ingested reg P log x c d' hx hok =>
    have hmem : x ∈ s.logs := List.mem_of_getElem? hx
    obtain ⟨-, -, -, -, -, rec, heffect⟩ := Destination.ingest_effect hok
    have htold := (hs.relayed P).told hs.logged hs.blank hmem heffect
    refine ⟨hs.sound, hs.logged.wait hnow, hs.blank.told htold, hs.placed.effect heffect, ?_⟩
    intro Q
    show Relayed s.escrow s.logs Q d' (Function.update s.ingested P _ Q)
    by_cases hQ : Q = P
    · subst hQ
      rw [Function.update_self]
      exact (hs.relayed Q).ingest hs.logged hs.blank hmem hok
    · rw [Function.update_of_ne hQ]
      exact (hs.relayed Q).ingest_other hQ htold hok
  | configured _ b' hc =>
    refine ⟨hs.sound, hs.logged.wait hnow, ?_, hc.placed hs.placed,
      fun P => (hs.relayed P).configure hc⟩
    intro id hnone
    obtain ⟨hnet, hpaid, hstate⟩ := hc.amounts id
    obtain ⟨hnet₀, hpaid₀⟩ := hs.blank id (hstate.symm.trans hnone)
    exact ⟨hnet.trans hnet₀, hpaid.trans hpaid₀⟩

theorem RelayReachable.kept {facilityKey : FacilityId → Bytes32} {s : Relay}
    (h : RelayReachable facilityKey s) : s.Kept := by
  refine Reachable.invariant ?_ (fun s a s' hs hstep => hstep.kept hs) h
  rintro s ⟨self, owner, rfl⟩
  exact Relay.initial_kept self owner

/-! ### Fresh checkpoints -/

section Fresh

variable {s : Relay} {P : ProviderId} {a : AccountKey} {maxAge toleranceBps at_ age : Nat}

/-- What `_checkpointOk` checks, apart from the age and the totals. -/
theorem ReceivableBook.checkpointOk_true {b : ReceivableBook} {accountId : AccountId}
    (h : b.checkpointOk accountId maxAge toleranceBps at_ = .ok (true, age)) :
    (b.checkpoints accountId).observedAt ≠ 0 ∧ at_ < (b.checkpoints accountId).protectedUntil ∧
      (b.checkpoints accountId).latestRevision = b.counted accountId := by
  unfold checkpointOk at h
  dsimp only at h
  split at h
  · cases h
  rename_i hlive
  split at h
  · cases h
  split at h
  · cases h
  rename_i hcount
  push Not at hlive
  exact ⟨hlive.2.1, hlive.2.2.2, Classical.not_not.mp hcount⟩

/-- Under a fresh checkpoint, the book took all facts of the account. -/
theorem Relay.Kept.took_all (hs : s.Kept) (hat : s.now ≤ at_)
    (h : s.book.checkpointOk ⟨P, a⟩ maxAge toleranceBps at_ = .ok (true, age)) (ref : Bytes32) :
    (logsOf a ref (s.ingested P)).Perm (logsOf a ref (factsOf s.logs)) := by
  obtain ⟨hobserved, hlive, hcount⟩ := ReceivableBook.checkpointOk_true h
  obtain ⟨x, hx, hreservation⟩ := (hs.relayed P).checkpoints a hobserved
  obtain ⟨-, hlatest⟩ := hs.logged.reserved x hx _ _ _ hreservation (Nat.lt_of_le_of_lt hat hlive)
  refine (hs.relayed P).perm (Nat.le_of_eq ?_) ref
  calc countOf a (factsOf s.logs) = s.escrow.latestRevision a := (hs.logged.count a).symm
    _ = s.book.counted ⟨P, a⟩ := hlatest.trans hcount
    _ = countOf a (s.ingested P) := (hs.relayed P).tallied.counted a

/-- Under a fresh checkpoint, the book has the amounts of the escrow and knows what is cancelled. -/
theorem Relay.Kept.agree (hs : s.Kept) (hat : s.now ≤ at_)
    (h : s.book.checkpointOk ⟨P, a⟩ maxAge toleranceBps at_ = .ok (true, age)) (ref : Bytes32) :
    (s.book.receivables ⟨P, a, ref⟩).net = (s.escrow.obligations a ref).net ∧
      (s.book.receivables ⟨P, a, ref⟩).paid = (s.escrow.obligations a ref).paid ∧
      ((s.book.receivables ⟨P, a, ref⟩).state = .cancelled ↔
        (s.escrow.obligations a ref).status = .cancelled) := by
  have hperm := hs.took_all hat h ref
  have htally := readLogs_tally (hs.logged.views a ref)
  have htallied := (hs.relayed P).tallied
  have hnet : ((s.book.receivables ⟨P, a, ref⟩).net : Int) = (s.escrow.obligations a ref).net := by
    calc ((s.book.receivables ⟨P, a, ref⟩).net : Int)
        = ((logsOf a ref (s.ingested P)).map SourceEvent.netDelta).sum := htallied.net a ref
      _ = ((logsOf a ref (factsOf s.logs)).map SourceEvent.netDelta).sum := (hperm.map _).sum_eq
      _ = (s.escrow.obligations a ref).net := htally.net.symm
  have hpaid : ((s.book.receivables ⟨P, a, ref⟩).paid : Int) =
      (s.escrow.obligations a ref).paid := by
    calc ((s.book.receivables ⟨P, a, ref⟩).paid : Int)
        = ((logsOf a ref (s.ingested P)).map SourceEvent.paidDelta).sum := htallied.paid a ref
      _ = ((logsOf a ref (factsOf s.logs)).map SourceEvent.paidDelta).sum := (hperm.map _).sum_eq
      _ = (s.escrow.obligations a ref).paid := htally.paid.symm
  refine ⟨by omega, by omega, (htallied.cancelled a ref).trans (Iff.trans ?_ htally.cancelled.symm)⟩
  exact ⟨fun ⟨f, hf, hc⟩ => ⟨f, hperm.mem_iff.mp hf, hc⟩,
    fun ⟨f, hf, hc⟩ => ⟨f, hperm.mem_iff.mpr hf, hc⟩⟩

/-- What an assigned receivable counts for, under a fresh checkpoint, is open at the source. -/
theorem Relay.Kept.owed (hs : s.Kept) (hat : s.now ≤ at_) (ref : Bytes32)
    (hassigned : (s.book.receivables ⟨P, a, ref⟩).state = .assigned)
    (h : s.book.checkpointOk ⟨P, a⟩ maxAge toleranceBps at_ = .ok (true, age)) :
    (s.book.receivables ⟨P, a, ref⟩).net - (s.book.receivables ⟨P, a, ref⟩).paid ≤
      (s.escrow.obligations a ref).openPart := by
  obtain ⟨hnet, hpaid, hcancelled⟩ := hs.agree hat h ref
  have htally := readLogs_tally (hs.logged.views a ref)
  rw [hnet, hpaid]
  cases hstatus : (s.escrow.obligations a ref).status with
  | none =>
    have hblank := congrArg ObligationView.net (htally.blank hstatus)
    have hzero : (s.escrow.obligations a ref).net = 0 := hblank
    omega
  | open_ =>
    rw [Obligation.openPart, if_pos hstatus]
  | paid =>
    have hall := hs.sound.paid a ref hstatus
    omega
  | cancelled =>
    rw [hcancelled.mpr hstatus] at hassigned
    cases hassigned

/-- A round of the loop of `eligibleUnpaid` counts no more than what is open at the source. -/
theorem Relay.Kept.counts (hs : s.Kept) (hat : s.now ≤ at_) {facilityId : FacilityId}
    {haircutBps : Nat} (acc out : ReceivableBook.Eligibility) (id : ReceivableId)
    (h : s.book.countReceivable facilityId (s.book.facilities facilityId) maxAge toleranceBps
      haircutBps at_ acc id = .ok out) :
    out.eligible ≤ acc.eligible +
      (s.escrow.obligations id.accountKey id.obligationRef).openPart := by
  rcases ReceivableBook.countReceivable_ok h with hsame | ⟨hassigned, hfacility, hfresh, hle⟩
  · rw [hsame]
    exact Nat.le_add_right _ _
  · obtain ⟨age, hfresh⟩ := hfresh
    -- The checkpoint that was looked at is that of the receivable's own account.
    have hprovider := (hs.placed.facility id (.inl hassigned)).2
    rw [hfacility] at hprovider
    rw [hs.placed.account id (by simp [hassigned]), hprovider] at hfresh
    have howed := hs.owed (P := id.providerId) (a := id.accountKey) hat id.obligationRef hassigned
      hfresh
    exact Nat.le_trans hle (Nat.add_le_add_left howed _)

end Fresh

/-- Freshness across the chains. In every state of a run of both, whatever logs were ingested, in
whatever order: if the checkpoint of an account is in order at a time from now on, then the book has
the net and the paid amount of every obligation of the account, whatever the tolerance. And what a
facility counts as eligible is, receivable by receivable, no more than what is open at the
source. -/
theorem checkpoint_fresh {facilityKey : FacilityId → Bytes32} {s : Relay}
    (h : RelayReachable facilityKey s) (at_ : Nat) (hat : s.now ≤ at_)
    (maxAge toleranceBps : Nat) :
    (∀ P a age, s.book.checkpointOk ⟨P, a⟩ maxAge toleranceBps at_ = .ok (true, age) →
      ∀ ref, (s.book.receivables ⟨P, a, ref⟩).net = (s.escrow.obligations a ref).net ∧
        (s.book.receivables ⟨P, a, ref⟩).paid = (s.escrow.obligations a ref).paid) ∧
    ∀ reg facilityId haircutBps e,
      s.book.eligibleUnpaid reg facilityId maxAge toleranceBps haircutBps at_ = .ok e →
        e.eligible ≤ ((s.book.facilityReceivables facilityId).map fun id =>
          (s.escrow.obligations id.accountKey id.obligationRef).openPart).sum := by
  have hs := h.kept
  constructor
  · intro P a age hfresh ref
    obtain ⟨hnet, hpaid, -⟩ := hs.agree hat hfresh ref
    exact ⟨hnet, hpaid⟩
  · intro reg facilityId haircutBps e heligible
    exact ReceivableBook.eligibleUnpaid_le (fun acc out id => hs.counts hat acc out id) heligible

/-! ### A relayed account -/

/-- The state after transactions, of which some may revert. -/
def Relay.after (facilityKey : FacilityId → Bytes32) (s : Relay) (txs : List (Msg × RelayCall)) :
    Relay :=
  txs.foldl (Relay.perform facilityKey) s

/-- Transactions in the order of their times are a run. -/
theorem Relay.after_steps {facilityKey : FacilityId → Bytes32} :
    ∀ {txs : List (Msg × RelayCall)} {s : Relay},
      (s.now :: txs.map fun tx => tx.1.now).Pairwise (· ≤ ·) →
        Steps (RelayStep facilityKey) s txs (s.after facilityKey txs) := by
  intro txs
  induction txs with
  | nil => exact fun _ => .nil _
  | cons tx rest ih =>
    intro s htimes
    obtain ⟨hfirst, hrest⟩ := List.pairwise_cons.mp htimes
    exact .cons ⟨hfirst _ List.mem_cons_self, rfl⟩ (ih hrest)

namespace Sample

/-- The sender 1 has every role, on both chains. -/
def relayTx (now : Nat) (call : RelayCall) : Msg × RelayCall := (bookMsg now, call)

/-- The ingestion of a log that is at this place. -/
def relayed (now log : Nat) (event : SourceEvent) : Msg × RelayCall :=
  relayTx now (.ingest providers 1 log ⟨event, 0, 5000⟩)

/-- The wallet 7 has the account 1. The payer 9 owes it 100 of the token 5, which is assigned to the
facility 2, and pays 40. The account is reserved until 500. All logs are relayed, the second form of
the recognition among them. -/
def reservedAccount : List (Msg × RelayCall) :=
  [relayTx 1 (.source (.setIssuer 1 true)), relayTx 1 (.source (.setPayer 1 true)),
    relayTx 1 (.source (.registerAccount 1 7)), relayTx 1 (.source (.admitToken 5 6 false)),
    relayTx 1 (.registerFacility providers 2 3 1 ⟨1, 5, 6⟩),
    relayTx 2 (.source (.recognizeObligation 1 1 9 5 100 0)),
    relayTx 3 (.source (.assignObligation 1 1 2)),
    relayTx 4 (.source (.settle 1 1 5 40 1 (some 40))),
    relayTx 5 (.source (.reserveCheckpoint 1 500)),
    relayed 6 4 (.sourceCheckpointV2 1 1 3 60 40 5 500),
    relayed 6 1 (.obligationRecognizedV2 1 1 1 9 100 5 100 0 1),
    relayed 7 0 (.obligationRecognized 1 1 1 9 100 100 0 1),
    relayed 7 2 (.obligationAssigned 1 1 2 2), relayed 8 3 (.payoutReceived 1 1 5 1 40 1)]

/-- The two chains after that. -/
def relayedChains : Relay := (Relay.initial 100 1).after (fun id => id) reservedAccount

end Sample

/-- In this run the checkpoint is in order at 10, and 60 of the receivable are eligible, which is
what is open at the source. -/
theorem checkpoint_fresh_sample :
    ((Sample.relayedChains.book.receivables ⟨1, 1, 1⟩).net =
        (Sample.relayedChains.escrow.obligations 1 1).net ∧
      (Sample.relayedChains.book.receivables ⟨1, 1, 1⟩).paid =
        (Sample.relayedChains.escrow.obligations 1 1).paid) ∧
    60 ≤ ((Sample.relayedChains.book.facilityReceivables 2).map fun id =>
      (Sample.relayedChains.escrow.obligations id.accountKey id.obligationRef).openPart).sum := by
  have hrun : RelayReachable (fun id => id) Sample.relayedChains :=
    ⟨_, _, ⟨100, 1, rfl⟩, Relay.after_steps (by decide)⟩
  obtain ⟨hamounts, heligible⟩ := checkpoint_fresh hrun 10 (by decide) 100 0
  refine ⟨hamounts 1 1 5 ?_ 1, heligible Sample.providers 2 0 ⟨60, 500, 5⟩ ?_⟩
  · exact toOption_eq_some.mp (by decide +kernel)
  · exact toOption_eq_some.mp (by decide +kernel)

end Rackline
