import Rackline.ObligationLog
import Rackline.ReceivableBook

/-!
# `Rackline.Proofs.ReceivableOps`: what a log can do to the book

The counterpart of `Proofs.SourceOps` on the destination chain. `BookEffect` sorts the logs that the
book takes by what they do: five kinds move one receivable and count one event, a payout without an
obligation and its cancellation touch a settlement only, and a checkpoint replaces a checkpoint.
`ingest_effect` is the reading of a whole ingestion: what the evidence book required and recorded,
and the effect on the book.
-/

set_option autoImplicit false

namespace Rackline

open Evm Transition

/-- The account of a receivable. -/
def ReceivableId.account (id : ReceivableId) : AccountId := ⟨id.providerId, id.accountKey⟩

namespace ReceivableBook

/-- One receivable moved by one event. -/
def moved (id : ReceivableId) (r : Receivable) (openAmount paidCumulative : Nat)
    (b : ReceivableBook) : ReceivableBook :=
  { b with
    receivables := Function.update b.receivables id r
    stats := Function.update b.stats id.account
      { eventsConsumed := (b.stats id.account).eventsConsumed + 1
        openAmount := openAmount
        paidCumulative := paidCumulative } }

/-- One settlement written. -/
def withSettlement (providerId : ProviderId) (seq : Nat) (st : Settlement) (b : ReceivableBook) :
    ReceivableBook :=
  { b with settlements := set2 b.settlements providerId seq st }

/-- The paid total of an account that names no obligation. -/
def withPaid (accountId : AccountId) (paidCumulative : Nat) (b : ReceivableBook) :
    ReceivableBook :=
  { b with
    stats := Function.update b.stats accountId
      { b.stats accountId with paidCumulative := paidCumulative } }

/-- A receivable put on the list of a facility. -/
def listed (id : ReceivableId) (facilityId : FacilityId) (b : ReceivableBook) : ReceivableBook :=
  { b with
    facilityReceivables := Function.update b.facilityReceivables facilityId
      (b.facilityReceivables facilityId ++ [id]) }

theorem countEvent_eq_ok {accountId : AccountId} {s : AccountStats} {b b' : ReceivableBook} :
    b.countEvent accountId s = .ok b' ↔ s.eventsConsumed + 1 < wordSize 32 ∧
      b' = { b with
        stats := Function.update b.stats accountId
          { s with eventsConsumed := s.eventsConsumed + 1 } } := by
  simp only [countEvent, bind_eq_ok, addW_eq_ok, pure_eq_ok]
  constructor
  · rintro ⟨_, ⟨h, rfl⟩, rfl⟩
    exact ⟨h, rfl⟩
  · rintro ⟨h, rfl⟩
    exact ⟨_, ⟨h, rfl⟩, rfl⟩

theorem requireOpen_eq_ok {id : ReceivableId} {r : Receivable} {u : Unit} :
    requireOpen id r = .ok u ↔ r.state = .open_ ∨ r.state = .assigned := by
  unfold requireOpen
  rw [revertIf_eq_ok]
  tauto

theorem bumpRevision_eq_ok {id : ReceivableId} {r : Receivable} {revision n : Nat} :
    bumpRevision id r revision = .ok n ↔
      revision = r.revision + 1 ∧ r.revision + 1 < wordSize 32 ∧ n = revision := by
  simp only [bumpRevision, bind_eq_ok, revertIf_eq_ok, addW_eq_ok, pure_eq_ok, exists_const]
  constructor
  · rintro ⟨-, _, ⟨hword, rfl⟩, hnext, rfl⟩
    exact ⟨Classical.not_not.mp hnext, hword, rfl⟩
  · rintro ⟨rfl, hword, rfl⟩
    exact ⟨by omega, _, ⟨hword, rfl⟩, by simp, rfl⟩

end ReceivableBook

open ReceivableBook

/-- What an ingested log does to the book of a provider. -/
inductive BookEffect (now : Nat) (reg : Providers) (emitter : Address) (P : ProviderId)
    (rec : EvidenceRecord) (b : ReceivableBook) : SourceEvent → ReceivableBook → Prop
  | recognized (event : SourceEvent) (id : ReceivableId) (issuer payer : Address)
      (token : Option Address) (amount dueAt : Nat) :
      (event = .obligationRecognized id.accountKey id.obligationRef issuer payer emitter amount
          dueAt 1 ∧ token = none ∨
        ∃ t, event = .obligationRecognizedV2 id.accountKey id.obligationRef issuer payer emitter t
          amount dueAt 1 ∧ token = some t ∧ t ≠ 0) →
      id.providerId = P → (b.receivables id).state = .none → amount ≠ 0 →
      (b.stats id.account).openAmount + amount < wordSize 256 →
      BookEffect now reg emitter P rec b event
        (b.moved id
          { b.receivables id with
            providerId := P, accountKey := id.accountKey, obligationRef := id.obligationRef,
            payer := payer, token := token.getD 0, denominationProven := token.isSome,
            net := amount, revision := 1, dueAt := dueAt, evidenceValidUntil := rec.validUntil,
            state := .open_ }
          ((b.stats id.account).openAmount + amount) (b.stats id.account).paidCumulative)
  | assigned (id : ReceivableId) (facilityKey : Bytes32) :
      id.providerId = P →
      ((b.receivables id).state = .open_ ∨ (b.receivables id).state = .assigned) →
      (b.facilities (b.facilityByKey facilityKey)).exists_ = true →
      (b.facilities (b.facilityByKey facilityKey)).providerId = P →
      ((b.receivables id).denominationProven = true →
        (b.receivables id).token =
          (b.facilities (b.facilityByKey facilityKey)).sourceAsset.token) →
      (b.receivables id).facilityId ≠ 0 →
      (b.receivables id).facilityId = b.facilityByKey facilityKey →
      BookEffect now reg emitter P rec b
        (.obligationAssigned id.accountKey id.obligationRef facilityKey
          ((b.receivables id).revision + 1))
        (b.moved id
          { b.receivables id with
            revision := (b.receivables id).revision + 1, state := .assigned,
            evidenceValidUntil := rec.validUntil }
          (b.stats id.account).openAmount (b.stats id.account).paidCumulative)
  | assignedFirst (id : ReceivableId) (facilityKey : Bytes32) :
      id.providerId = P →
      ((b.receivables id).state = .open_ ∨ (b.receivables id).state = .assigned) →
      (b.facilities (b.facilityByKey facilityKey)).exists_ = true →
      (b.facilities (b.facilityByKey facilityKey)).providerId = P →
      ((b.receivables id).denominationProven = true →
        (b.receivables id).token =
          (b.facilities (b.facilityByKey facilityKey)).sourceAsset.token) →
      (b.receivables id).facilityId = 0 →
      BookEffect now reg emitter P rec b
        (.obligationAssigned id.accountKey id.obligationRef facilityKey
          ((b.receivables id).revision + 1))
        ((b.moved id
          { b.receivables id with
            revision := (b.receivables id).revision + 1,
            facilityId := b.facilityByKey facilityKey, state := .assigned,
            evidenceValidUntil := rec.validUntil }
          (b.stats id.account).openAmount (b.stats id.account).paidCumulative).listed id
            (b.facilityByKey facilityKey))
  | corrected (id : ReceivableId) (delta : Int) (reason openAmount' : Nat) :
      id.providerId = P →
      ((b.receivables id).state = .open_ ∨ (b.receivables id).state = .assigned) →
      (b.receivables id).paid ≤ (b.receivables id).net →
      Correctable (b.receivables id).net (b.receivables id).paid delta →
      (reason = correctionReasonCancel →
        ((b.receivables id).net : Int) + delta = (b.receivables id).paid) →
      (b.receivables id).net - (b.receivables id).paid ≤ (b.stats id.account).openAmount →
      openAmount' = (b.stats id.account).openAmount -
          ((b.receivables id).net - (b.receivables id).paid) +
        ((((b.receivables id).net : Int) + delta).toNat - (b.receivables id).paid) →
      BookEffect now reg emitter P rec b
        (.obligationCorrected id.accountKey id.obligationRef delta
          ((b.receivables id).revision + 1) reason)
        (b.moved id
          { b.receivables id with
            net := (((b.receivables id).net : Int) + delta).toNat
            revision := (b.receivables id).revision + 1
            state := if reason = correctionReasonCancel then .cancelled else (b.receivables id).state
            evidenceValidUntil := rec.validUntil }
          openAmount' (b.stats id.account).paidCumulative)
  | paid (id : ReceivableId) (token payer : Address) (amount seq : Nat) :
      id.providerId = P → id.obligationRef ≠ 0 → (b.settlements P seq).exists_ = false →
      ((b.receivables id).state = .open_ ∨ (b.receivables id).state = .assigned) →
      ((b.receivables id).token = 0 ∨ (b.receivables id).token = token) →
      ((b.receivables id).facilityId ≠ 0 →
        token = (b.facilities (b.receivables id).facilityId).sourceAsset.token) →
      (b.receivables id).paid + amount ≤ (b.receivables id).net →
      amount ≤ (b.stats id.account).openAmount →
      BookEffect now reg emitter P rec b
        (.payoutReceived id.accountKey id.obligationRef token payer amount seq)
        ((b.moved id
          { b.receivables id with
            token := if (b.receivables id).token = 0 then token else (b.receivables id).token
            paid := (b.receivables id).paid + amount
            revision := (b.receivables id).revision + 1
            state := if (b.receivables id).paid + amount = (b.receivables id).net then .paid
              else (b.receivables id).state }
          ((b.stats id.account).openAmount - amount)
          ((b.stats id.account).paidCumulative + amount)).withSettlement P seq
            { accountKey := id.accountKey, receivableId := some id, amount := amount,
              exists_ := true, cancelled := false })
  | paidUnnamed (a : AccountKey) (token payer : Address) (amount seq : Nat) :
      (b.settlements P seq).exists_ = false →
      BookEffect now reg emitter P rec b (.payoutReceived a 0 token payer amount seq)
        ((b.withPaid ⟨P, a⟩ ((b.stats ⟨P, a⟩).paidCumulative + amount)).withSettlement P seq
          { accountKey := a, receivableId := none, amount := amount, exists_ := true,
            cancelled := false })
  | unpaid (id : ReceivableId) (seq amount : Nat) :
      id.providerId = P → (b.settlements P seq).exists_ = true →
      (b.settlements P seq).accountKey = id.accountKey →
      (b.settlements P seq).receivableId = some id → (b.settlements P seq).cancelled = false →
      (b.settlements P seq).amount = amount → amount ≤ (b.receivables id).paid →
      amount ≤ (b.stats id.account).paidCumulative →
      (b.stats id.account).openAmount + amount < wordSize 256 →
      BookEffect now reg emitter P rec b
        (.payoutCancelled id.accountKey id.obligationRef seq amount)
        ((b.moved id
          { b.receivables id with
            paid := (b.receivables id).paid - amount
            revision := (b.receivables id).revision + 1
            state :=
              if (b.receivables id).state = .paid then
                if (b.receivables id).facilityId ≠ 0 then .assigned else .open_
              else (b.receivables id).state }
          ((b.stats id.account).openAmount + amount)
          ((b.stats id.account).paidCumulative - amount)).withSettlement P seq
            { b.settlements P seq with cancelled := true })
  | unpaidUnnamed (a : AccountKey) (ref : Bytes32) (seq amount : Nat) :
      (b.settlements P seq).exists_ = true → (b.settlements P seq).accountKey = a →
      (b.settlements P seq).receivableId = none → (b.settlements P seq).cancelled = false →
      (b.settlements P seq).amount = amount → amount ≤ (b.stats ⟨P, a⟩).paidCumulative →
      BookEffect now reg emitter P rec b (.payoutCancelled a ref seq amount)
        ((b.withPaid ⟨P, a⟩ ((b.stats ⟨P, a⟩).paidCumulative - amount)).withSettlement P seq
          { b.settlements P seq with cancelled := true })
  | checkpointed (event : SourceEvent) (a : AccountKey) (seq latestRevision openAmount
      paidCumulative observedAt until_ : Nat) :
      (event = .sourceCheckpoint a seq latestRevision openAmount paidCumulative ∧ observedAt = 0 ∨
        event = .sourceCheckpointV2 a seq latestRevision openAmount paidCumulative observedAt
          until_) →
      BookEffect now reg emitter P rec b event
        { b with
          checkpoints := Function.update b.checkpoints ⟨P, a⟩
            { checkpointSeq := seq, latestRevision := latestRevision, openAmount := openAmount,
              paidCumulative := paidCumulative, provenAt := rec.provenAt, observedAt := observedAt,
              protectedUntil := until_, exists_ := true } }

/-! ### Each kind of log -/

section Kinds

variable {now : Nat} {reg : Providers} {emitter : Address} {P : ProviderId} {rec : EvidenceRecord}
  {b b' : ReceivableBook} {a : AccountKey} {ref : Bytes32}

theorem ReceivableBook.recognize_ok {issuer payer payee : Address} {token : Option Address}
    {amount dueAt revision : Nat}
    (h : b.recognize reg emitter P rec a ref issuer payer payee token amount dueAt revision
      = .ok b') :
    (b.receivables ⟨P, a, ref⟩).state = .none ∧ revision = 1 ∧ amount ≠ 0 ∧ payee = emitter ∧
      (∀ t, token = some t → t ≠ 0) ∧ (b.stats ⟨P, a⟩).openAmount + amount < wordSize 256 ∧
      b' = b.moved ⟨P, a, ref⟩
        { b.receivables ⟨P, a, ref⟩ with
          providerId := P, accountKey := a, obligationRef := ref, payer := payer,
          token := token.getD 0, denominationProven := token.isSome, net := amount, revision := 1,
          dueAt := dueAt, evidenceValidUntil := rec.validUntil, state := .open_ }
        ((b.stats ⟨P, a⟩).openAmount + amount) (b.stats ⟨P, a⟩).paidCumulative := by
  simp only [recognize, bind_eq_ok, revertIf_eq_ok, addW_eq_ok, countEvent_eq_ok, exists_const,
    and_assoc] at h
  obtain ⟨hnone, hrev, hissuer, -, _, htoken, hpayee, _, hword, rfl, -, rfl⟩ := h
  refine ⟨Classical.not_not.mp hnone, Classical.not_not.mp hrev, by tauto,
    Classical.not_not.mp hpayee, ?_, hword, rfl⟩
  rintro t rfl
  simp only [requireToken, bind_eq_ok, revertIf_eq_ok, exists_const] at htoken
  exact htoken.1

theorem ReceivableBook.assign_effect {facilityKey : Bytes32} {revision : Nat}
    (h : b.assign reg P rec a ref facilityKey revision = .ok b') :
    BookEffect now reg emitter P rec b (.obligationAssigned a ref facilityKey revision) b' := by
  simp only [assign, bind_eq_ok, revertIf_eq_ok, requireOpen_eq_ok, bumpRevision_eq_ok,
    countEvent_eq_ok, exists_const, and_assoc] at h
  obtain ⟨hopen, _, rfl, -, rfl, hexists, hprovider, -, htoken, hother, -, rfl⟩ := h
  have hexists : (b.facilities (b.facilityByKey facilityKey)).exists_ = true := by
    simpa using hexists
  have hprovider := Classical.not_not.mp hprovider
  have htoken : (b.receivables ⟨P, a, ref⟩).denominationProven = true →
      (b.receivables ⟨P, a, ref⟩).token =
        (b.facilities (b.facilityByKey facilityKey)).sourceAsset.token := by tauto
  by_cases h0 : (b.receivables ⟨P, a, ref⟩).facilityId = 0
  · have heffect : BookEffect now reg emitter P rec b _ _ :=
      .assignedFirst ⟨P, a, ref⟩ facilityKey rfl hopen hexists hprovider htoken h0
    rw [if_pos h0, if_pos h0]
    exact heffect
  · have heffect : BookEffect now reg emitter P rec b _ _ :=
      .assigned ⟨P, a, ref⟩ facilityKey rfl hopen hexists hprovider htoken h0 (by tauto)
    rw [if_neg h0, if_neg h0]
    exact heffect

theorem ReceivableBook.correct_effect {delta : Int} {revision reason : Nat}
    (h : b.correct P rec a ref delta revision reason = .ok b') :
    BookEffect now reg emitter P rec b (.obligationCorrected a ref delta revision reason) b' := by
  simp only [correct, bind_eq_ok, requireOpen_eq_ok, bumpRevision_eq_ok, addW_eq_ok, subW_eq_ok,
    countEvent_eq_ok, exists_const, and_assoc] at h
  obtain ⟨hopen, _, rfl, -, rfl, newNet, hnet, _, hpaid, rfl, _, hnew, rfl, state, hstate, _, hcover,
    rfl, _, -, rfl, -, rfl⟩ := h
  obtain ⟨hfits, rfl⟩ := correctedNet_eq_ok.mp ⟨hnet, hnew⟩
  have hcancel : (reason = correctionReasonCancel →
      ((b.receivables ⟨P, a, ref⟩).net : Int) + delta = (b.receivables ⟨P, a, ref⟩).paid) ∧
      state = if reason = correctionReasonCancel then .cancelled
        else (b.receivables ⟨P, a, ref⟩).state := by
    unfold correctedState at hstate
    split at hstate
    · obtain ⟨_, hzero, hstate⟩ := bind_eq_ok.mp hstate
      have hzero := revertIf_eq_ok.mp hzero
      have hle := hfits.2.1
      rw [← pure_eq_ok.mp hstate]
      exact ⟨fun _ => by omega, by rw [if_pos ‹_›]⟩
    · rename_i hne
      cases hstate
      exact ⟨fun hc => absurd hc hne, by rw [if_neg hne]⟩
  rw [hcancel.2]
  exact .corrected ⟨P, a, ref⟩ delta reason _ rfl hopen hpaid hfits hcancel.1 hcover rfl

theorem ReceivableBook.payout_effect {token payer : Address} {amount seq : Nat}
    (h : b.payout P a ref token amount seq = .ok b') :
    BookEffect now reg emitter P rec b (.payoutReceived a ref token payer amount seq) b' := by
  simp only [payout, bind_eq_ok, revertIf_eq_ok, exists_const] at h
  obtain ⟨hseen, h⟩ := h
  have hseen : (b.settlements P seq).exists_ = false := by simpa using hseen
  split at h
  · rename_i h0
    subst h0
    simp only [bind_eq_ok, addW_eq_ok, pure_eq_ok, and_assoc] at h
    obtain ⟨_, -, rfl, rfl⟩ := h
    exact .paidUnnamed a token payer amount seq hseen
  · rename_i h0
    simp only [bind_eq_ok, revertIf_eq_ok, requireOpen_eq_ok, addW_eq_ok, subW_eq_ok,
      countEvent_eq_ok, exists_const, and_assoc] at h
    obtain ⟨hopen, htoken, hfacility, _, hpaid, rfl, hover, _, -, rfl, _, -, rfl, _, hcover, rfl, _, -,
      rfl, -, rfl⟩ := h
    exact .paid ⟨P, a, ref⟩ token payer amount seq rfl h0 hseen hopen (by tauto) (by tauto)
      (by omega) hcover

theorem ReceivableBook.cancelPayout_effect {seq amount : Nat}
    (h : b.cancelPayout P a ref seq amount = .ok b') :
    BookEffect now reg emitter P rec b (.payoutCancelled a ref seq amount) b' := by
  simp only [cancelPayout, bind_eq_ok, revertIf_eq_ok, subW_eq_ok, exists_const, and_assoc] at h
  obtain ⟨hexists, haccount, hid, hcancelled, hamount, _, hpaid, rfl, h⟩ := h
  have hexists : (b.settlements P seq).exists_ = true := by simpa using hexists
  have hcancelled : (b.settlements P seq).cancelled = false := by simpa using hcancelled
  have haccount := Classical.not_not.mp haccount
  have hamount := Classical.not_not.mp hamount
  split at h
  · rename_i hst
    rw [← pure_eq_ok.mp h]
    exact .unpaidUnnamed a ref seq amount hexists haccount hst hcancelled hamount hpaid
  · rename_i id hst
    have heq : id = ⟨P, a, ref⟩ := by
      rw [hst] at hid
      simpa using hid
    subst heq
    simp only [bind_eq_ok, addW_eq_ok, subW_eq_ok, countEvent_eq_ok, and_assoc] at h
    obtain ⟨_, hle, rfl, _, -, rfl, _, hword, rfl, -, rfl⟩ := h
    exact .unpaid ⟨P, a, ref⟩ seq amount rfl hexists haccount hst hcancelled hamount hle hpaid hword

theorem ReceivableBook.dispatch_effect {event : SourceEvent}
    (h : b.dispatch now reg emitter P rec event = .ok b') :
    BookEffect now reg emitter P rec b event b' := by
  cases event with
  | obligationRecognized a ref issuer payer payee amount dueAt revision =>
    obtain ⟨hnone, rfl, hzero, rfl, -, hword, rfl⟩ := recognize_ok h
    exact .recognized _ ⟨P, a, ref⟩ issuer payer none amount dueAt (.inl ⟨rfl, rfl⟩) rfl hnone hzero
      hword
  | obligationRecognizedV2 a ref issuer payer payee token amount dueAt revision =>
    obtain ⟨hnone, rfl, hzero, rfl, htoken, hword, rfl⟩ := recognize_ok h
    exact .recognized _ ⟨P, a, ref⟩ issuer payer (some token) amount dueAt
      (.inr ⟨token, rfl, rfl, htoken token rfl⟩) rfl hnone hzero hword
  | obligationAssigned a ref facilityKey revision => exact assign_effect h
  | obligationCorrected a ref delta revision reason => exact correct_effect h
  | payoutReceived a ref token payer amount seq => exact payout_effect h
  | payoutCancelled a ref seq amount => exact cancelPayout_effect h
  | sourceCheckpoint a seq latestRevision openAmount paidCumulative =>
    simp only [dispatch, checkpoint, bind_eq_ok, pure_eq_ok] at h
    obtain ⟨_, -, rfl⟩ := h
    exact .checkpointed _ a seq latestRevision openAmount paidCumulative 0 0 (.inl ⟨rfl, rfl⟩)
  | sourceCheckpointV2 a seq latestRevision openAmount paidCumulative observedAt until_ =>
    simp only [dispatch, checkpoint, bind_eq_ok, pure_eq_ok] at h
    obtain ⟨_, -, _, -, rfl⟩ := h
    exact .checkpointed _ a seq latestRevision openAmount paidCumulative observedAt until_ (.inr rfl)

end Kinds

/-- What an ingestion requires of the evidence book, what it records there, and what it does to the
book. -/
theorem Destination.ingest_effect {m : Msg} {reg : Providers} {emitter : Address} {P : ProviderId}
    {log : Nat} {event : SourceEvent} {c : ReceivableClaim} {d d' : Destination}
    (h : d.ingest m reg emitter P log event c = .ok d') :
    c.event = event ∧ d.evidence.consumed log = false ∧
      d.evidence.economicSeen (economicKey P c) = false ∧
      d'.evidence.consumed = Function.update d.evidence.consumed log true ∧
      d'.evidence.economicSeen =
        Function.update d.evidence.economicSeen (economicKey P c) true ∧
      ∃ rec, BookEffect m.now reg emitter P rec d.book event d'.book := by
  obtain ⟨_, -, hguards⟩ := bind_eq_ok.mp h
  obtain ⟨method, -, hrest⟩ := bind_eq_ok.mp hguards
  obtain ⟨⟨rec, evidence⟩, hconsume, hbook⟩ := bind_eq_ok.mp hrest
  obtain ⟨book, happly, hresult⟩ := bind_eq_ok.mp hbook
  obtain rfl := pure_eq_ok.mp hresult
  simp only [EvidenceBook.consumeOne, bind_eq_ok, revertIf_eq_ok, pure_eq_ok, exists_const] at hconsume
  obtain ⟨hfresh, -, -, -, -, hseen, meaning, -, hrec⟩ := hconsume
  simp only [apply, bind_eq_ok, revertIf_eq_ok, exists_const] at happly
  obtain ⟨cfg, -, -, -, hclaim, happly⟩ := happly
  cases hrec
  exact ⟨Classical.not_not.mp hclaim, by simpa using hfresh, by simpa using hseen, rfl, rfl, _,
    dispatch_effect happly⟩

/-- A transaction on the destination chain ingests a log, or leaves receivables, totals,
settlements and lists as they are, up to the dispute flag. -/
theorem DestinationStep.effect {facilityKey : FacilityId → Bytes32} {d d' : Destination} {tx : BookTx}
    (h : DestinationStep facilityKey d tx d') :
    (∃ reg emitter P log event c rec, tx.2 = .ingest reg emitter P log event c ∧
      BookEffect tx.1.now reg emitter P rec d.book event d'.book) ∨
    (∃ id disputed, tx.2 = .setDisputed id disputed ∧ (d.book.receivables id).state ≠ .none ∧
      d'.book = { d.book with
        receivables := Function.update d.book.receivables id
          { d.book.receivables id with disputed := disputed } }) ∨
    ∃ reg facilityId borrowerId providerId sourceAsset,
      tx.2 = .registerFacility reg facilityId borrowerId providerId sourceAsset ∧
      (d.book.facilities facilityId).exists_ = false ∧
      d'.book = { d.book with
        facilities := Function.update d.book.facilities facilityId
          { borrowerId := borrowerId, providerId := providerId, sourceAsset := sourceAsset,
            exists_ := true }
        facilityByKey := Function.update d.book.facilityByKey (facilityKey facilityId) facilityId } := by
  obtain ⟨m, call⟩ := tx
  cases call with
  | ingest reg emitter P log event c =>
    obtain ⟨-, -, -, -, -, rec, heffect⟩ := Destination.ingest_effect h
    exact .inl ⟨reg, emitter, P, log, event, c, rec, rfl, heffect⟩
  | registerFacility reg facilityId borrowerId providerId sourceAsset =>
    obtain ⟨b, hok, heq⟩ := map_eq_ok.mp h
    simp only [ReceivableBook.registerFacility, bind_eq_ok, revertIf_eq_ok, pure_eq_ok,
      exists_const] at hok
    obtain ⟨-, hexists, -, cfg, -, -, -, rfl⟩ := hok
    rw [← heq]
    exact .inr (.inr ⟨reg, facilityId, borrowerId, providerId, sourceAsset, rfl,
      by simpa using hexists, rfl⟩)
  | setDisputed id disputed =>
    obtain ⟨b, hok, heq⟩ := map_eq_ok.mp h
    simp only [ReceivableBook.setDisputed, bind_eq_ok, revertIf_eq_ok, pure_eq_ok,
      exists_const] at hok
    obtain ⟨-, hsome, rfl⟩ := hok
    rw [← heq]
    exact .inr (.inl ⟨id, disputed, rfl, hsome, rfl⟩)

end Rackline
