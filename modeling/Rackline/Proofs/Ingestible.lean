import Rackline.Proofs.ReceivableOps

/-!
# `Rackline.Proofs.Ingestible`: when the book takes a log

The converse of `Proofs.ReceivableOps`: for each kind of log, conditions under which the book takes
it. `Destination.ingest_returns` adds what the evidence book requires.
-/

set_option autoImplicit false

namespace Rackline

open Evm

namespace ReceivableBook

variable {now : Nat} {reg : Providers} {emitter : Address} {P : ProviderId} {rec : EvidenceRecord}
  {b : ReceivableBook} {a : AccountKey} {ref : Bytes32}

theorem recognize_returns {issuer payer : Address} {token : Option Address} {amount dueAt : Nat}
    (hnone : (b.receivables ⟨P, a, ref⟩).state = .none) (hissuer : reg.isIssuer P issuer = true)
    (hpayer : payer ≠ 0) (hamount : amount ≠ 0) (hwallet : reg.borrowerOfWallet payer = 0)
    (htoken : requireToken reg P token = .ok ())
    (hroom : (b.stats ⟨P, a⟩).openAmount + amount < wordSize 256)
    (hcount : (b.stats ⟨P, a⟩).eventsConsumed + 1 < wordSize 32) :
    ∃ b', b.recognize reg emitter P rec a ref issuer payer emitter token amount dueAt 1 = .ok b' := by
  simp only [recognize, bind_eq_ok, revertIf_eq_ok, addW_eq_ok, countEvent_eq_ok, exists_const]
  refine ⟨_, not_not.mpr hnone, not_not.mpr rfl, ?_, not_not.mpr hwallet, ⟨⟩, htoken, not_not.mpr rfl,
    _, ⟨hroom, rfl⟩, hcount, rfl⟩
  rintro (h | h | h)
  · rw [hissuer] at h
    cases h
  · exact hpayer h
  · exact hamount h

theorem assign_returns {facilityKey : Bytes32}
    (hopen : (b.receivables ⟨P, a, ref⟩).state = .open_ ∨
      (b.receivables ⟨P, a, ref⟩).state = .assigned)
    (hword : (b.receivables ⟨P, a, ref⟩).revision + 1 < wordSize 32)
    (hexists : (b.facilities (b.facilityByKey facilityKey)).exists_ = true)
    (hprovider : (b.facilities (b.facilityByKey facilityKey)).providerId = P)
    (hborrower : reg.borrowerOfAccount a = (b.facilities (b.facilityByKey facilityKey)).borrowerId)
    (htoken : (b.receivables ⟨P, a, ref⟩).denominationProven = true →
      (b.receivables ⟨P, a, ref⟩).token =
        (b.facilities (b.facilityByKey facilityKey)).sourceAsset.token)
    (hother : (b.receivables ⟨P, a, ref⟩).facilityId ≠ 0 →
      (b.receivables ⟨P, a, ref⟩).facilityId = b.facilityByKey facilityKey)
    (hcount : (b.stats ⟨P, a⟩).eventsConsumed + 1 < wordSize 32) :
    ∃ b', b.assign reg P rec a ref facilityKey ((b.receivables ⟨P, a, ref⟩).revision + 1)
      = .ok b' := by
  simp only [assign, bind_eq_ok, revertIf_eq_ok, requireOpen_eq_ok, bumpRevision_eq_ok,
    countEvent_eq_ok, exists_const]
  refine ⟨_, hopen, _, ⟨trivial, hword, rfl⟩, by simp [hexists], not_not.mpr hprovider,
    not_not.mpr hborrower, ?_, ?_, hcount, rfl⟩
  · exact fun h => h.2 (htoken h.1)
  · exact fun h => h.2 (hother h.1)

theorem correct_returns {delta : Int} {reason : Nat}
    (hopen : (b.receivables ⟨P, a, ref⟩).state = .open_ ∨
      (b.receivables ⟨P, a, ref⟩).state = .assigned)
    (hword : (b.receivables ⟨P, a, ref⟩).revision + 1 < wordSize 32)
    (hle : (b.receivables ⟨P, a, ref⟩).paid ≤ (b.receivables ⟨P, a, ref⟩).net)
    (hfits : Correctable (b.receivables ⟨P, a, ref⟩).net (b.receivables ⟨P, a, ref⟩).paid delta)
    (hcancel : reason = correctionReasonCancel →
      ((b.receivables ⟨P, a, ref⟩).net : Int) + delta = (b.receivables ⟨P, a, ref⟩).paid)
    (hcover : (b.receivables ⟨P, a, ref⟩).net - (b.receivables ⟨P, a, ref⟩).paid ≤
      (b.stats ⟨P, a⟩).openAmount)
    (hroom : ((b.stats ⟨P, a⟩).openAmount : Int) + delta < wordSize 256)
    (hcount : (b.stats ⟨P, a⟩).eventsConsumed + 1 < wordSize 32) :
    ∃ b', b.correct P rec a ref delta ((b.receivables ⟨P, a, ref⟩).revision + 1) reason
      = .ok b' := by
  have hnet : correctedNet
      (BookRevert.correctionBelowPaid ⟨P, a, ref⟩ (b.receivables ⟨P, a, ref⟩).paid delta)
      (b.receivables ⟨P, a, ref⟩).net (b.receivables ⟨P, a, ref⟩).paid delta =
        .ok (((b.receivables ⟨P, a, ref⟩).net : Int) + delta).toNat ∧
      (b.receivables ⟨P, a, ref⟩).paid ≤ (((b.receivables ⟨P, a, ref⟩).net : Int) + delta).toNat :=
    correctedNet_eq_ok.mpr ⟨hfits, rfl⟩
  obtain ⟨hnet, hnew⟩ := hnet
  have hstate : ∃ state, correctedState ⟨P, a, ref⟩ reason
      ((((b.receivables ⟨P, a, ref⟩).net : Int) + delta).toNat - (b.receivables ⟨P, a, ref⟩).paid)
      (b.receivables ⟨P, a, ref⟩).state = .ok state := by
    unfold correctedState
    split
    case isTrue hreason =>
      have hzero := hcancel hreason
      simp only [bind_eq_ok, revertIf_eq_ok, exists_const]
      exact ⟨_, by omega, rfl⟩
    case isFalse => exact ⟨_, rfl⟩
  obtain ⟨state, hstate⟩ := hstate
  have hpaid := hfits.2.1
  simp only [correct, bind_eq_ok, requireOpen_eq_ok, bumpRevision_eq_ok, addW_eq_ok, subW_eq_ok,
    countEvent_eq_ok, exists_const]
  refine ⟨_, hopen, _, ⟨trivial, hword, rfl⟩, _, hnet, _, ⟨hle, rfl⟩, _, ⟨hnew, rfl⟩, state, hstate, _,
    ⟨hcover, rfl⟩, _, ⟨?_, rfl⟩, hcount, rfl⟩
  omega

theorem payout_returns {token : Address} {amount seq : Nat} (href : ref ≠ 0)
    (hfresh : (b.settlements P seq).exists_ = false)
    (hopen : (b.receivables ⟨P, a, ref⟩).state = .open_ ∨
      (b.receivables ⟨P, a, ref⟩).state = .assigned)
    (htoken : (b.receivables ⟨P, a, ref⟩).token ≠ 0 → (b.receivables ⟨P, a, ref⟩).token = token)
    (hfacility : (b.receivables ⟨P, a, ref⟩).facilityId ≠ 0 →
      token = (b.facilities (b.receivables ⟨P, a, ref⟩).facilityId).sourceAsset.token)
    (hfits : (b.receivables ⟨P, a, ref⟩).paid + amount ≤ (b.receivables ⟨P, a, ref⟩).net)
    (hpaid : (b.receivables ⟨P, a, ref⟩).paid + amount < wordSize 256)
    (hword : (b.receivables ⟨P, a, ref⟩).revision + 1 < wordSize 32)
    (hcover : amount ≤ (b.stats ⟨P, a⟩).openAmount)
    (hroom : (b.stats ⟨P, a⟩).paidCumulative + amount < wordSize 256)
    (hcount : (b.stats ⟨P, a⟩).eventsConsumed + 1 < wordSize 32) :
    ∃ b', b.payout P a ref token amount seq = .ok b' := by
  simp only [payout, bind_eq_ok, revertIf_eq_ok, if_neg href, requireOpen_eq_ok, addW_eq_ok,
    subW_eq_ok, countEvent_eq_ok, exists_const]
  refine ⟨_, by simp [hfresh], hopen, ?_, ?_, _, ⟨by omega, rfl⟩, by omega, _, ⟨hpaid, rfl⟩, _,
    ⟨hword, rfl⟩, _, ⟨hcover, rfl⟩, _, ⟨hroom, rfl⟩, hcount, rfl⟩
  · exact fun h => h.2 (htoken h.1)
  · exact fun h => h.2 (hfacility h.1)

theorem cancelPayout_returns {amount seq : Nat} (hexists : (b.settlements P seq).exists_ = true)
    (haccount : (b.settlements P seq).accountKey = a)
    (hid : (b.settlements P seq).receivableId = some ⟨P, a, ref⟩)
    (hlive : (b.settlements P seq).cancelled = false)
    (hamount : (b.settlements P seq).amount = amount)
    (hpaid : amount ≤ (b.receivables ⟨P, a, ref⟩).paid)
    (hword : (b.receivables ⟨P, a, ref⟩).revision + 1 < wordSize 32)
    (hcover : amount ≤ (b.stats ⟨P, a⟩).paidCumulative)
    (hroom : (b.stats ⟨P, a⟩).openAmount + amount < wordSize 256)
    (hcount : (b.stats ⟨P, a⟩).eventsConsumed + 1 < wordSize 32) :
    ∃ b', b.cancelPayout P a ref seq amount = .ok b' := by
  simp only [cancelPayout, hid, bind_eq_ok, revertIf_eq_ok, addW_eq_ok, subW_eq_ok,
    countEvent_eq_ok, exists_const]
  refine ⟨_, by simp [hexists], not_not.mpr haccount, by simp, by simp [hlive], not_not.mpr hamount, _,
    ⟨hcover, rfl⟩, _, ⟨hpaid, rfl⟩, _, ⟨hword, rfl⟩, _, ⟨hroom, rfl⟩, hcount, rfl⟩

end ReceivableBook

/-- An ingestion returns when the evidence book consumes the log and the book takes it. -/
theorem Destination.ingest_returns {m : Msg} {reg : Providers} {emitter : Address} {P : ProviderId}
    {log : Nat} {c : ReceivableClaim} {d : Destination} {cfg : ProviderConfig}
    (hrole : m.hasRole .relayer m.sender = true) (hpaused : reg.evidencePaused = false)
    (hconsumer : reg.isConsumer = true)
    (hverifier : reg.verificationMethod P = some .attestcoinNative)
    (hasserted : reg.selfAsserted P = false) (hcfg : reg.provider P = some cfg)
    (hmeaning : reg.emitterMeaning P c.event.topic = some c.event.topic.kind.expectedMeaning)
    (hconsumed : d.evidence.consumed log = false)
    (hvalid : m.now < c.validUntil ∧ c.validUntil ≤ m.now + reg.maxValidity)
    (haccount : c.event.accountKey ≠ 0)
    (hseen : d.evidence.economicSeen (economicKey P c) = false)
    (hdispatch : ∀ rec, ∃ b', d.book.dispatch m.now reg emitter P rec c.event = .ok b') :
    ∃ d', d.ingest m reg emitter P log c.event c = .ok d' := by
  have hsubmitter : requireSubmitter m = .ok () := revertIf_eq_ok.mpr (by simp [hrole])
  have hguards : EvidenceBook.consumeGuards P reg = .ok .attestcoinNative := by
    simp only [EvidenceBook.consumeGuards, hverifier, bind_eq_ok, revertIf_eq_ok, exists_const]
    exact ⟨by simp [hpaused], by simp [hconsumer], trivial⟩
  have hmean : reg.meaning P c.event.topic = .ok c.event.topic.kind.expectedMeaning := by
    simp only [Providers.meaning, hmeaning]
  have hconsume : ∃ rec evidence, rec.trust = .proven ∧ rec.method = .attestcoinNative ∧
      rec.meaning = c.event.topic.kind.expectedMeaning ∧
      d.evidence.consumeOne m.now P reg .attestcoinNative log c.event c = .ok (rec, evidence) := by
    simp only [EvidenceBook.consumeOne, bind_eq_ok, revertIf_eq_ok, pure_eq_ok, exists_const, hmean,
      hasserted]
    exact ⟨_, _, rfl, rfl, rfl, by simp [hconsumed], by omega, by omega, haccount, not_not.mpr rfl,
      by simp [hseen], _, rfl, rfl⟩
  obtain ⟨rec, evidence, htrust, hmethod, hrecord, hconsume⟩ := hconsume
  obtain ⟨b', hb'⟩ := hdispatch rec
  have happly : d.book.apply m.now reg emitter P rec c.event c = .ok b' := by
    simp only [ReceivableBook.apply, Providers.config, hcfg, htrust, hmethod, hrecord, bind_eq_ok,
      revertIf_eq_ok, exists_const]
    exact ⟨cfg, rfl, by simp, not_not.mpr rfl, not_not.mpr rfl, hb'⟩
  exact ⟨⟨evidence, b'⟩, bind_eq_ok.mpr ⟨_, hsubmitter, bind_eq_ok.mpr ⟨_, hguards,
    bind_eq_ok.mpr ⟨_, hconsume, bind_eq_ok.mpr ⟨_, happly, rfl⟩⟩⟩⟩⟩

end Rackline
