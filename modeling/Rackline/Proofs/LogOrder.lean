import Rackline.Lib.Delivery
import Rackline.Proofs.Freshness
import Rackline.Proofs.Ingestible
import Rackline.Proofs.NotedLogs
import Rackline.Proofs.ReceivableViews

/-!
# `Rackline.Proofs.LogOrder`: which orders of the logs can be completed

The logs of an obligation have an order at the source, and each of them moves its revision by one. A
recognition, an assignment and a correction carry the revision, so the book takes them in their turn
only. A payout and its cancellation carry none: the book takes them early, moves the revision as well,
and the assignment or correction that they overtook is stale from then on.

In a run in which no payout and no cancellation overtakes an earlier log (`Relay.InTurn`), the book
has taken the first facts of each obligation, and its receivable is what a reader of them sees
(`Relay.InOrder`).
-/

set_option autoImplicit false

namespace Rackline

open Evm Transition Replay

/-! ### Settlements and facts -/

namespace ReceivableBook

/-- The settlements of a provider are those of the payouts that were told. -/
structure Settled (P : ProviderId) (facts : List SourceEvent) (b : ReceivableBook) : Prop where
  taken : ∀ a ref token payer amount seq, .payoutReceived a ref token payer amount seq ∈ facts →
    (b.settlements P seq).exists_ = true
  told : ∀ seq, (b.settlements P seq).exists_ = true → ∃ a ref token payer amount,
    .payoutReceived a ref token payer amount seq ∈ facts
  dropped : ∀ seq, (b.settlements P seq).cancelled = true → ∃ a ref amount,
    .payoutCancelled a ref seq amount ∈ facts

variable {now : Nat} {reg : Providers} {emitter : Address} {P : ProviderId} {rec : EvidenceRecord}
  {b b' : ReceivableBook} {event : SourceEvent} {facts : List SourceEvent} {e : SourceEscrow}

/-- Facts that say nothing of a settlement. -/
theorem Settled.other (h : b.Settled P facts) {f : SourceEvent}
    (hpayout : ∀ a ref token payer amount seq, f ≠ .payoutReceived a ref token payer amount seq)
    (hsettlements : b'.settlements = b.settlements) : b'.Settled P (facts ++ [f]) := by
  constructor
  · intro a ref token payer amount seq hmem
    rw [hsettlements]
    rcases List.mem_append.mp hmem with hmem | hmem
    · exact h.taken a ref token payer amount seq hmem
    · exact absurd (List.mem_singleton.mp hmem).symm (hpayout a ref token payer amount seq)
  · intro seq hexists
    rw [hsettlements] at hexists
    obtain ⟨a, ref, token, payer, amount, hmem⟩ := h.told seq hexists
    exact ⟨a, ref, token, payer, amount, List.mem_append_left _ hmem⟩
  · intro seq hcancelled
    rw [hsettlements] at hcancelled
    obtain ⟨a, ref, amount, hmem⟩ := h.dropped seq hcancelled
    exact ⟨a, ref, amount, List.mem_append_left _ hmem⟩

theorem Settled.effect (h : b.Settled P facts)
    (heffect : BookEffect now reg emitter P rec b event b') :
    b'.Settled P (facts ++ [event.fact]) := by
  have hsettlements := effect_settlements heffect
  cases event with
  | payoutReceived a ref token payer amount seq =>
    have hself : (b'.settlements P seq).exists_ = true ∧ (b'.settlements P seq).cancelled = false := by
      rw [hsettlements, settlementsAfter, set2_self]
      exact ⟨rfl, rfl⟩
    have hother : ∀ s, s ≠ seq → b'.settlements P s = b.settlements P s := by
      intro s hs
      rw [hsettlements, settlementsAfter, set2_row, Function.update_of_ne hs]
    constructor
    · intro a' ref' token' payer' amount' seq' hmem
      by_cases hs : seq' = seq
      · rw [hs]
        exact hself.1
      · rw [hother seq' hs]
        rcases List.mem_append.mp hmem with hmem | hmem
        · exact h.taken a' ref' token' payer' amount' seq' hmem
        · cases List.mem_singleton.mp hmem
          exact absurd rfl hs
    · intro s hexists
      by_cases hs : s = seq
      · subst hs
        exact ⟨a, ref, token, payer, amount, by simp [SourceEvent.fact]⟩
      · rw [hother s hs] at hexists
        obtain ⟨a', ref', token', payer', amount', hmem⟩ := h.told s hexists
        exact ⟨a', ref', token', payer', amount', List.mem_append_left _ hmem⟩
    · intro s hcancelled
      by_cases hs : s = seq
      · rw [hs, hself.2] at hcancelled
        cases hcancelled
      · rw [hother s hs] at hcancelled
        obtain ⟨a', ref', amount', hmem⟩ := h.dropped s hcancelled
        exact ⟨a', ref', amount', List.mem_append_left _ hmem⟩
  | payoutCancelled a ref seq amount =>
    have hsame : ∀ s, (b'.settlements P s).exists_ = (b.settlements P s).exists_ := by
      intro s
      rw [hsettlements, settlementsAfter, set2_row]
      by_cases hs : s = seq
      · rw [hs, Function.update_self]
      · rw [Function.update_of_ne hs]
    constructor
    · intro a' ref' token payer amount' seq' hmem
      rw [hsame]
      rcases List.mem_append.mp hmem with hmem | hmem
      · exact h.taken a' ref' token payer amount' seq' hmem
      · cases List.mem_singleton.mp hmem
    · intro s hexists
      rw [hsame] at hexists
      obtain ⟨a', ref', token', payer', amount', hmem⟩ := h.told s hexists
      exact ⟨a', ref', token', payer', amount', List.mem_append_left _ hmem⟩
    · intro s hcancelled
      by_cases hs : s = seq
      · subst hs
        exact ⟨a, ref, amount, by simp [SourceEvent.fact]⟩
      · rw [hsettlements, settlementsAfter, set2_row, Function.update_of_ne hs] at hcancelled
        obtain ⟨a', ref', amount', hmem⟩ := h.dropped s hcancelled
        exact ⟨a', ref', amount', List.mem_append_left _ hmem⟩
  | _ => exact h.other (fun _ _ _ _ _ _ => by simp [SourceEvent.fact]) hsettlements

/-! ### Tokens -/

/-- One receivable was written. -/
theorem named_written {id : ReceivableId} {r : Receivable} (hP : id.providerId = P)
    (h : ∀ a ref, (b.receivables ⟨P, a, ref⟩).Named (e.obligations a ref))
    (hr : b'.receivables = Function.update b.receivables id r)
    (hnamed : r.Named (e.obligations id.accountKey id.obligationRef)) (a : AccountKey)
    (ref : Bytes32) : (b'.receivables ⟨P, a, ref⟩).Named (e.obligations a ref) := by
  subst hP
  rw [hr]
  by_cases hid : (⟨id.providerId, a, ref⟩ : ReceivableId) = id
  · obtain rfl : a = id.accountKey := congrArg ReceivableId.accountKey hid
    obtain rfl : ref = id.obligationRef := congrArg ReceivableId.obligationRef hid
    rw [hid, Function.update_self]
    exact hnamed
  · rw [Function.update_of_ne hid]
    exact h a ref

/-- The token of a receivable is that of the obligation. -/
theorem effect_named (heffect : BookEffect now reg emitter P rec b event b')
    (hlog : ∀ a ref token, event.tokenOf = some (a, ref, token) →
      (e.obligations a ref).status ≠ .none ∧ (e.obligations a ref).token = token)
    (h : ∀ a ref, (b.receivables ⟨P, a, ref⟩).Named (e.obligations a ref)) (a : AccountKey)
    (ref : Bytes32) : (b'.receivables ⟨P, a, ref⟩).Named (e.obligations a ref) := by
  cases heffect with
  | recognized _ id issuer payer token amount dueAt hevent hP =>
    refine named_written hP h rfl ?_ a ref
    rcases hevent with ⟨rfl, rfl⟩ | ⟨t, rfl, rfl, ht⟩
    · exact ⟨fun h0 => absurd rfl h0, fun hproven => nomatch hproven⟩
    · obtain ⟨hentered, htoken⟩ := hlog id.accountKey id.obligationRef t rfl
      exact ⟨fun _ => ⟨hentered, htoken.symm⟩, fun _ => ht⟩
  | assigned id key hP | assignedFirst id key hP | corrected id delta reason openAmount' hP =>
    subst hP
    have hwas := h id.accountKey id.obligationRef
    refine named_written rfl h rfl ?_ a ref
    exact ⟨hwas.token, hwas.proven⟩
  | paid id token payer amount seq hP href =>
    subst hP
    refine named_written rfl h rfl ?_ a ref
    have hwas := h id.accountKey id.obligationRef
    obtain ⟨hentered, htoken⟩ := hlog id.accountKey id.obligationRef token (if_neg href)
    constructor
    · show (if (b.receivables id).token = 0 then token else (b.receivables id).token) ≠ 0 → _ ∧
        (if (b.receivables id).token = 0 then token else (b.receivables id).token) = _
      split
      case isTrue => exact fun _ => ⟨hentered, htoken.symm⟩
      case isFalse => exact hwas.token
    · intro hproven
      have hset : (b.receivables id).token ≠ 0 := hwas.proven hproven
      show (if (b.receivables id).token = 0 then token else (b.receivables id).token) ≠ 0
      rwa [if_neg hset]
  | unpaid id seq amount hP =>
    subst hP
    have hwas := h id.accountKey id.obligationRef
    refine named_written rfl h rfl ?_ a ref
    exact ⟨hwas.token, hwas.proven⟩
  | paidUnnamed | unpaidUnnamed | checkpointed => exact h a ref

/-! ### Payouts that the book admits -/

/-- What the book requires of a payout or a cancellation that names an obligation: the receivable is
open and has room for the amount, the payout is known. -/
def Admits (P : ProviderId) (b : ReceivableBook) : SourceEvent → Prop
  | .payoutReceived a ref _ _ amount _ =>
    ((b.receivables ⟨P, a, ref⟩).state = .open_ ∨ (b.receivables ⟨P, a, ref⟩).state = .assigned) ∧
      (b.receivables ⟨P, a, ref⟩).paid + amount ≤ (b.receivables ⟨P, a, ref⟩).net
  | .payoutCancelled _ _ seq _ => (b.settlements P seq).exists_ = true
  | _ => True

instance (P : ProviderId) (b : ReceivableBook) : (x : SourceEvent) → Decidable (b.Admits P x)
  | .payoutReceived .. => inferInstanceAs (Decidable (_ ∧ _))
  | .payoutCancelled .. => inferInstanceAs (Decidable (_ = _))
  | .obligationRecognized .. => isTrue trivial
  | .obligationRecognizedV2 .. => isTrue trivial
  | .obligationAssigned .. => isTrue trivial
  | .obligationCorrected .. => isTrue trivial
  | .sourceCheckpoint .. => isTrue trivial
  | .sourceCheckpointV2 .. => isTrue trivial

theorem effect_admits (h : BookEffect now reg emitter P rec b event b') {a : AccountKey}
    {ref : Bytes32} (hf : event.fact.obligation = some (a, ref)) : b.Admits P event := by
  cases h with
  | recognized _ id issuer payer token amount dueAt hevent =>
    rcases hevent with ⟨rfl, -⟩ | ⟨t, rfl, -⟩
    · trivial
    · trivial
  | assigned | assignedFirst | corrected => trivial
  | paid id token payer amount seq hP href hseen hopen htoken hfacility hfits =>
    subst hP
    exact ⟨hopen, hfits⟩
  | paidUnnamed => simp [SourceEvent.fact, SourceEvent.obligation] at hf
  | unpaid id seq amount hP hexists => exact hexists
  | unpaidUnnamed a' ref' seq amount hexists => exact hexists
  | checkpointed _ a' seq latestRevision openAmount paidCumulative observedAt until_ hevent =>
    rcases hevent with ⟨rfl, -⟩ | rfl
    · trivial
    · trivial

end ReceivableBook

/-! ### Turns -/

/-- The obligation of a log that moves its revision and does not carry it. -/
def SourceEvent.loose (x : SourceEvent) : Option (AccountKey × Bytes32) :=
  if x.fact.ownRevision = none then x.fact.obligation else none

namespace Relay

/-- The facts about an obligation that were emitted, in the order of the source. -/
def sent (s : Relay) (a : AccountKey) (ref : Bytes32) : List SourceEvent :=
  logsOf a ref (factsOf s.logs)

/-- The facts about an obligation that the book took for a provider, in its order. -/
def taken (s : Relay) (P : ProviderId) (a : AccountKey) (ref : Bytes32) : List SourceEvent :=
  logsOf a ref (s.ingested P)

/-- The earliest fact about an obligation that the book has not taken. -/
def earliest (s : Relay) (P : ProviderId) (a : AccountKey) (ref : Bytes32) : Option SourceEvent :=
  (s.sent a ref).find? fun f => decide (f ∉ s.ingested P)

/-- A log that does not carry the revision which it moves is submitted in its turn, or again, or
when the book does not admit it. -/
def Timely (P : ProviderId) (s : Relay) (x : SourceEvent) : Prop :=
  ∀ o ∈ x.loose, x.fact ∈ s.ingested P ∨ s.earliest P o.1 o.2 = some x.fact ∨ ¬s.book.Admits P x

-- The accounts and references are a finite type, which is not what is to be searched here.
instance (P : ProviderId) (s : Relay) (x : SourceEvent) : Decidable (s.Timely P x) :=
  Option.decidableForallMem x.loose

/-- Logs are submitted for one provider, and timely. -/
def InTurn (P : ProviderId) (s : Relay) : Msg × RelayCall → Prop
  | (_, .ingest _ Q log _) => Q = P ∧ ∀ x ∈ s.logs[log]?, s.Timely P x
  | _ => True

instance (P : ProviderId) (s : Relay) : (a : Msg × RelayCall) → Decidable (s.InTurn P a)
  | (_, .ingest ..) => inferInstanceAs (Decidable (_ ∧ _))
  | (_, .source _) => isTrue trivial
  | (_, .registerFacility ..) => isTrue trivial
  | (_, .setDisputed ..) => isTrue trivial

/-- No registry refuses a log of the obligation: native verification is set up for the provider, and
the issuers, the tokens and the facilities that the logs name are registered. No facility has the key
zero, which stands for none at the source. -/
structure Registered (s : Relay) (reg : Providers) (P : ProviderId) (a : AccountKey)
    (ref : Bytes32) : Prop where
  account : a ≠ 0
  intake : reg.evidencePaused = false
  consumer : reg.isConsumer = true
  verifier : reg.verificationMethod P = some .attestcoinNative
  proven : reg.selfAsserted P = false
  validity : reg.maxValidity ≠ 0
  provider : (reg.provider P).isSome = true
  meaning : ∀ topic, reg.emitterMeaning P topic = some topic.kind.expectedMeaning
  recognition : ∀ x ∈ s.logs, ∀ issuer payer payee amount dueAt revision,
    x.fact = .obligationRecognized a ref issuer payer payee amount dueAt revision →
      reg.isIssuer P issuer = true ∧ payer ≠ 0 ∧ reg.borrowerOfWallet payer = 0
  token : ∀ x ∈ s.logs, ∀ token, x.tokenOf = some (a, ref, token) → token ≠ 0 ∧
    ∀ cfg, reg.provider P = some cfg → reg.isTokenAdmitted P cfg.sourceChainId token = true
  unkeyed : s.book.facilityByKey 0 = 0
  facility : ∀ key revision, .obligationAssigned a ref key revision ∈ s.logs →
    (s.book.facilities (s.book.facilityByKey key)).exists_ = true ∧
    (s.book.facilities (s.book.facilityByKey key)).providerId = P ∧
    (s.book.facilities (s.book.facilityByKey key)).borrowerId = reg.borrowerOfAccount a ∧
    (s.book.facilities (s.book.facilityByKey key)).sourceAsset.token =
      (s.escrow.obligations a ref).token

/-- The totals of the account stay words. -/
def Room (s : Relay) (P : ProviderId) (a : AccountKey) (f : SourceEvent) : Prop :=
  ((s.book.stats ⟨P, a⟩).openAmount : Int) + f.netDelta - f.paidDelta < wordSize 256 ∧
    ((s.book.stats ⟨P, a⟩).paidCumulative : Int) + f.paidDelta < wordSize 256

instance (s : Relay) (P : ProviderId) (a : AccountKey) (f : SourceEvent) :
    Decidable (s.Room P a f) :=
  inferInstanceAs (Decidable (_ ∧ _))

/-- The book took the first facts about an obligation, and shows what they say. -/
def Follows (facilityKey : FacilityId → Bytes32) (P : ProviderId) (s : Relay) (a : AccountKey)
    (ref : Bytes32) : Prop :=
  ∃ v left, s.sent a ref = s.taken P a ref ++ left ∧ readLogs (s.taken P a ref) = some v ∧
    (s.book.receivables ⟨P, a, ref⟩).Shows facilityKey v

/-- What holds in a run whose logs are submitted in turn. -/
structure InOrder (facilityKey : FacilityId → Bytes32) (P : ProviderId) (s : Relay) : Prop where
  kept : s.Kept
  noted : s.escrow.Noted s.logs
  sound : s.book.Sound
  covering : s.book.Covering
  keyed : s.book.Keyed facilityKey
  follows : ∀ a ref, s.Follows facilityKey P a ref
  named : ∀ a ref, (s.book.receivables ⟨P, a, ref⟩).Named (s.escrow.obligations a ref)
  settled : s.book.Settled P (s.ingested P)
  consumed : ∀ i, s.destination.evidence.consumed i = true → ∃ x, s.logs[i]? = some x ∧
    x.fact ∈ s.ingested P
  seen : ∀ k, s.destination.evidence.economicSeen k = true → k.providerId = P →
    k.kind ≠ .checkpoint → ∃ f ∈ s.ingested P, f.economicId P = k

section Order

variable {facilityKey : FacilityId → Bytes32} {P : ProviderId} {s s' : Relay} {a : AccountKey}
  {ref : Bytes32} {f : SourceEvent}

theorem initial_inOrder (self owner : Address) :
    (Relay.initial self owner).InOrder facilityKey P where
  kept := Relay.initial_kept self owner
  noted := SourceEscrow.initial_noted self owner
  sound := ReceivableBook.initial_sound
  covering := ReceivableBook.initial_covering
  keyed := ReceivableBook.initial_keyed
  follows := fun _ _ => ⟨.blank, [], rfl, rfl, ReceivableBook.initial_shows _⟩
  named := fun _ _ => ⟨fun h => absurd rfl h, fun h => nomatch h⟩
  settled := ⟨fun _ _ _ _ _ _ h => (nomatch h), fun _ h => (nomatch h), fun _ h => (nomatch h)⟩
  consumed := fun _ h => nomatch h
  seen := fun _ h => nomatch h

theorem mem_sent : f ∈ s.sent a ref ↔ f ∈ factsOf s.logs ∧ f.obligation = some (a, ref) := by
  simp [sent, logsOf, SourceEvent.concerns]

theorem mem_taken : f ∈ s.taken P a ref ↔ f ∈ s.ingested P ∧ f.obligation = some (a, ref) := by
  simp [taken, logsOf, SourceEvent.concerns]

theorem InOrder.sent_nodup (hs : s.InOrder facilityKey P) (a : AccountKey) (ref : Bytes32) :
    (s.sent a ref).Nodup := hs.noted.nodup.filter _

/-- What is missing starts with the earliest fact that is missing. -/
theorem InOrder.earliest_eq (hs : s.InOrder facilityKey P) {left : List SourceEvent}
    (hcut : s.sent a ref = s.taken P a ref ++ left) : s.earliest P a ref = left.head? := by
  refine Delivery.find?_missing hcut (hs.sent_nodup a ref) fun f hf => ?_
  rw [mem_taken]
  exact ⟨fun h => ⟨h, (mem_sent.mp hf).2⟩, fun h => h.1⟩

/-- Around the earliest fact that is missing. -/
theorem InOrder.cut (hs : s.InOrder facilityKey P) (hearliest : s.earliest P a ref = some f) :
    ∃ v v' left, s.sent a ref = s.taken P a ref ++ f :: left ∧
      readLogs (s.taken P a ref) = some v ∧ v.apply f = some v' ∧
      (s.book.receivables ⟨P, a, ref⟩).Shows facilityKey v := by
  obtain ⟨v, left, hcut, hread, hshows⟩ := hs.follows a ref
  rw [hs.earliest_eq hcut] at hearliest
  obtain ⟨left, rfl⟩ := List.head?_eq_some_iff.mp hearliest
  have hviews := hs.kept.logged.views a ref
  change readLogs (s.sent a ref) = _ at hviews
  rw [hcut] at hviews
  obtain ⟨u, v', hu, hv'⟩ := replay_at hviews
  obtain rfl : u = v := by
    rw [readLogs, hu] at hread
    exact Option.some.inj hread
  exact ⟨u, v', left, hcut, hread, hv', hshows⟩

/-- A fact that is taken at its own revision is the earliest one that is missing. -/
theorem InOrder.earliest_of_revision (hs : s.InOrder facilityKey P) {n : Nat}
    (hmem : f ∈ s.sent a ref) (hrev : f.ownRevision = some n)
    (hnext : n = (s.book.receivables ⟨P, a, ref⟩).revision + 1 ∨
      n = 1 ∧ (s.book.receivables ⟨P, a, ref⟩).state = .none) :
    s.earliest P a ref = some f := by
  obtain ⟨v, left, hcut, hread, hshows⟩ := hs.follows a ref
  have htally := readLogs_tally hread
  have hn : n = (s.taken P a ref).length + 1 := by
    rcases hnext with rfl | ⟨rfl, hnone⟩
    · rw [hshows.revision, htally.revision]
    · have hstatus := hshows.status
      rw [hnone] at hstatus
      rw [htally.ne_none.mp hstatus.symm]
      rfl
  -- Its place among the facts of the source is where the book stands.
  obtain ⟨p, q, hpq⟩ := List.append_of_mem hmem
  have hviews := hs.kept.logged.views a ref
  change readLogs (s.sent a ref) = _ at hviews
  rw [hpq] at hviews
  have hplace := readLogs_place hviews hrev
  rw [hs.earliest_eq hcut]
  rw [hpq] at hcut
  obtain ⟨-, rfl⟩ := List.append_inj hcut (by omega)
  rfl

/-- The escrow goes on. -/
theorem InOrder.emit (hs : s.InOrder facilityKey P) {m : Msg} {c : SourceCall}
    {events : List SourceEvent} {e' : SourceEscrow}
    (heffect : SourceEffect ⟨m.sender, m.now⟩ s.escrow c events e')
    (hkept : Relay.Kept { s with
      now := m.now
      escrow := e'
      logs := s.logs ++ events }) :
    InOrder facilityKey P { s with
      now := m.now
      escrow := e'
      logs := s.logs ++ events } where
  kept := hkept
  noted := hs.noted.step hs.kept.logged.vacant heffect
  sound := hs.sound
  covering := hs.covering
  keyed := hs.keyed
  follows := by
    intro a ref
    obtain ⟨v, left, hcut, hread, hshows⟩ := hs.follows a ref
    refine ⟨v, left ++ logsOf a ref (factsOf events), ?_, hread, hshows⟩
    show logsOf a ref (factsOf (s.logs ++ events)) = s.taken P a ref ++ _
    rw [factsOf_append, ← List.append_assoc, ← hcut]
    exact List.filter_append ..
  named := by
    intro a ref
    have hwas := hs.named a ref
    refine ⟨fun htoken => ?_, hwas.proven⟩
    obtain ⟨hentered, heq⟩ := hwas.token htoken
    exact ⟨((SourceEscrow.effect_advances heffect).entered a ref hentered).1,
      heq.trans (SourceEscrow.effect_token heffect a ref hentered).symm⟩
  settled := hs.settled
  consumed := by
    intro i hi
    obtain ⟨x, hx, hfact⟩ := hs.consumed i hi
    obtain ⟨hlt, -⟩ := List.getElem?_eq_some_iff.mp hx
    refine ⟨x, ?_, hfact⟩
    show (s.logs ++ events)[i]? = some x
    rwa [List.getElem?_append_left hlt]
  seen := hs.seen

/-- The book is configured. -/
theorem InOrder.configure (hs : s.InOrder facilityKey P) (hinj : Function.Injective facilityKey)
    {m : Msg} {b' : ReceivableBook} (hc : Configured facilityKey s.book b')
    (hkept : Relay.Kept { s with
      now := m.now
      destination := { s.destination with book := b' } }) :
    InOrder facilityKey P { s with
      now := m.now
      destination := { s.destination with book := b' } } where
  kept := hkept
  noted := hs.noted
  sound := hs.sound.configured hc
  covering := hs.covering.configured hc
  keyed := hs.keyed.configured hinj hc
  follows := by
    intro a ref
    obtain ⟨v, left, hcut, hread, hshows⟩ := hs.follows a ref
    refine ⟨v, left, hcut, hread, ?_⟩
    obtain ⟨disputed, hr⟩ := hc.receivable ⟨P, a, ref⟩
    show (b'.receivables ⟨P, a, ref⟩).Shows facilityKey v
    rw [hr]
    exact ⟨hshows.net, hshows.paid, hshows.revision, hshows.status, hshows.facility⟩
  named := by
    intro a ref
    obtain ⟨disputed, hr⟩ := hc.receivable ⟨P, a, ref⟩
    show (b'.receivables ⟨P, a, ref⟩).Named _
    rw [hr]
    exact ⟨(hs.named a ref).token, (hs.named a ref).proven⟩
  settled := by
    obtain ⟨-, hsettlements, -⟩ := hc.others
    constructor
    · show ∀ a ref token payer amount seq, _ → (b'.settlements P seq).exists_ = true
      rw [hsettlements]
      exact hs.settled.taken
    · show ∀ seq, (b'.settlements P seq).exists_ = true → _
      rw [hsettlements]
      exact hs.settled.told
    · show ∀ seq, (b'.settlements P seq).cancelled = true → _
      rw [hsettlements]
      exact hs.settled.dropped
  consumed := hs.consumed
  seen := hs.seen

/-- What the cancellation of a payout is about, among the logs that were emitted. -/
theorem Kept.named_settlement (hs : s.Kept) {x : SourceEvent} (hx : x ∈ s.logs) (a : AccountKey)
    (ref : Bytes32) (seq amount : Nat) (hevent : x = .payoutCancelled a ref seq amount)
    (hexists : (s.book.settlements P seq).exists_ = true) :
    (s.book.settlements P seq).receivableId = ReceivableId.named P a ref := by
  subst hevent
  obtain ⟨-, hof⟩ := (hs.relayed P).settlements seq hexists
  obtain ⟨-, haccount, href, -⟩ := hs.logged.settlements _ hx seq a ref amount rfl
  rw [← haccount, ← href]
  exact hof.receivable

/-- An accepted log that was not taken before is the earliest one that is missing. -/
theorem InOrder.accepted (hs : s.InOrder facilityKey P) {x : SourceEvent} (hx : x ∈ s.logs)
    (hnew : x.fact ∉ s.ingested P) (htimely : s.Timely P x)
    (hf : x.fact.obligation = some (a, ref)) {now : Nat} {reg : Providers} {emitter : Address}
    {rec : EvidenceRecord} {b' : ReceivableBook}
    (heffect : BookEffect now reg emitter P rec s.book x b') :
    s.earliest P a ref = some x.fact := by
  cases hrev : x.fact.ownRevision with
  | none =>
    have hloose : x.loose = some (a, ref) := by
      rw [SourceEvent.loose, if_pos hrev, hf]
    rcases htimely _ hloose with hold | hturn | hrefused
    · exact absurd hold hnew
    · exact hturn
    · exact absurd (ReceivableBook.effect_admits heffect hf) hrefused
  | some n =>
    have hmem : x.fact ∈ s.sent a ref := mem_sent.mpr ⟨hs.kept.logged.facts x hx, hf⟩
    exact hs.earliest_of_revision hmem hrev (ReceivableBook.effect_revision heffect hf hrev)

/-- What is ingested was not taken before. -/
theorem Kept.ingest_new (hs : s.Kept) {m : Msg} {reg : Providers} {log : Nat} {x : SourceEvent}
    {c : ReceivableClaim} {d' : Destination} (hsome : x.topic2.isSome = true)
    (hok : s.destination.ingest m reg s.escrow.self P log x c = .ok d') :
    x.fact ∉ s.ingested P := by
  obtain ⟨rfl, -, hunseen, -⟩ := Destination.ingest_effect hok
  intro hold
  have hseen := (hs.relayed P).seen _ hold (by rwa [SourceEvent.fact_topic2])
  rw [← economicKey_fact hsome, hunseen] at hseen
  cases hseen

/-- A log is ingested in its turn. -/
theorem InOrder.ingest (hs : s.InOrder facilityKey P) {m : Msg} {reg : Providers} {log : Nat}
    {x : SourceEvent} {c : ReceivableClaim} {d' : Destination} (hx : s.logs[log]? = some x)
    (hok : s.destination.ingest m reg s.escrow.self P log x c = .ok d')
    (htimely : s.Timely P x) (hkept : Relay.Kept { s with
      now := m.now
      destination := d'
      ingested := Function.update s.ingested P (s.ingested P ++ [x.fact]) }) :
    InOrder facilityKey P { s with
      now := m.now
      destination := d'
      ingested := Function.update s.ingested P (s.ingested P ++ [x.fact]) } := by
  have hnew := fun hsome => hs.kept.ingest_new hsome hok
  obtain ⟨rfl, -, -, hconsumed, hseen, rec, heffect⟩ := Destination.ingest_effect hok
  have hmem : c.event ∈ s.logs := List.mem_of_getElem? hx
  have hnamed := hs.kept.named_settlement (P := P) hmem
  have htold := ReceivableBook.effect_told heffect hs.kept.blank hnamed
  have hingested : Function.update s.ingested P (s.ingested P ++ [c.event.fact]) P =
      s.ingested P ++ [c.event.fact] := Function.update_self ..
  constructor
  · exact hkept
  · exact hs.noted
  · exact hs.sound.effect heffect
  · exact hs.covering.effect hs.sound heffect
  · obtain ⟨hfacilities, hkeys⟩ := ReceivableBook.effect_facilities heffect
    exact hs.keyed.congr hfacilities hkeys
  · intro a ref
    show ∃ v left, s.sent a ref = logsOf a ref (Function.update s.ingested P _ P) ++ left ∧
      readLogs (logsOf a ref (Function.update s.ingested P _ P)) = some v ∧
      (d'.book.receivables ⟨P, a, ref⟩).Shows facilityKey v
    rw [hingested]
    by_cases hf : c.event.fact.obligation = some (a, ref)
    · -- It is the next fact about this obligation.
      have hsome : c.event.topic2.isSome = true := by
        rw [← SourceEvent.fact_topic2]
        exact SourceEvent.topic2_of_counts (SourceEvent.counts_of hf)
      obtain ⟨v, v', left, hcut, hread, happly, hshows⟩ :=
        hs.cut (hs.accepted hmem (hnew hsome) htimely hf heffect)
      rw [logsOf_snoc_of (SourceEvent.concerns_of hf)]
      refine ⟨v', left, ?_, replay_snoc_eq_some.mpr ⟨v, hread, happly⟩,
        ReceivableBook.effect_shows heffect hs.keyed hnamed hf hshows happly⟩
      rw [hcut]
      simp [taken]
    · obtain ⟨v, left, hcut, hread, hshows⟩ := hs.follows a ref
      rw [logsOf_snoc_of_not (decide_eq_false hf)]
      refine ⟨v, left, hcut, hread, ?_⟩
      have hsame : d'.book.receivables ⟨P, a, ref⟩ = s.book.receivables ⟨P, a, ref⟩ := by
        cases htold with
        | moved a' ref' r' hf' htakes hr =>
          rw [hr, Function.update_of_ne]
          · rfl
          · intro heq
            cases heq
            exact hf hf'
        | aside hf' hr =>
          rw [hr]
          rfl
      rw [hsame]
      exact hshows
  · exact ReceivableBook.effect_named heffect (hs.noted.tokens _ hmem) hs.named
  · show d'.book.Settled P (Function.update s.ingested P _ P)
    rw [hingested]
    exact hs.settled.effect heffect
  · intro i hi
    show ∃ x, s.logs[i]? = some x ∧ x.fact ∈ Function.update s.ingested P _ P
    rw [hingested]
    change d'.evidence.consumed i = true at hi
    rw [hconsumed] at hi
    by_cases hlog : i = log
    · subst hlog
      exact ⟨c.event, hx, by simp⟩
    · rw [Function.update_of_ne hlog] at hi
      obtain ⟨y, hy, hfact⟩ := hs.consumed i hi
      exact ⟨y, hy, List.mem_append_left _ hfact⟩
  · intro k hk hP hkind
    show ∃ f ∈ Function.update s.ingested P _ P, f.economicId P = k
    rw [hingested]
    change d'.evidence.economicSeen k = true at hk
    rw [hseen] at hk
    by_cases hkey : k = economicKey P c
    · refine ⟨c.event.fact, by simp, ?_⟩
      have hsome : c.event.topic2.isSome = true := by
        rw [hkey] at hkind
        cases hevent : c.event with
        | sourceCheckpoint | sourceCheckpointV2 =>
          rw [economicKey, hevent] at hkind
          exact absurd rfl hkind
        | _ => rfl
      rw [hkey, economicKey_fact hsome]
    · rw [Function.update_of_ne hkey] at hk
      obtain ⟨f, hf, hfk⟩ := hs.seen k hk hP hkind
      exact ⟨f, List.mem_append_left _ hf, hfk⟩

theorem InOrder.step (hs : s.InOrder facilityKey P) (hinj : Function.Injective facilityKey)
    {tx : Msg × RelayCall} (hturn : s.InTurn P tx) (h : RelayStep facilityKey s tx s') :
    s'.InOrder facilityKey P := by
  have hkept := h.kept hs.kept
  obtain ⟨m, call⟩ := tx
  cases h.effect with
  | waited =>
    exact ⟨hkept, hs.noted, hs.sound, hs.covering, hs.keyed, hs.follows, hs.named, hs.settled,
      hs.consumed, hs.seen⟩
  | emitted c events e' heffect => exact hs.emit heffect hkept
  | ingested reg Q log x c d' hx hok =>
    obtain ⟨rfl, htimely⟩ := hturn
    exact hs.ingest hx hok (htimely x hx) hkept
  | configured _ b' hc => exact hs.configure hinj hc hkept

end Order

end Relay

end Rackline
