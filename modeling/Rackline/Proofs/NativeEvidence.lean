import Rackline.NativeIngest

/-!
# `Rackline.Proofs.NativeEvidence`: each log is applied once, and as it is

What becomes of the logs of the source chain, for any calls of `ingest` in any order: a position is
consumed at most once and an economic event recorded at most once, a record carries the hash of the
log at its position, the book applies what that log decodes to, and a call applies all its claims
or changes nothing.

The chain of custody has three links. The verifier returns logs of the transaction that the
precompile vouched for, at their own positions (`verifyAndExtract_ok`). The evidence book copies
them into its records (`consumeOne_ok`). The book compares the hash of a claim with that of the
record, so that it decodes the log itself (`apply_ok`). `Ledger` is what the evidence book keeps
next to the history of its records.
-/

set_option autoImplicit false

namespace Rackline.Native

open Evm Transition

/-! ### The verifier -/

/-- The event is the log at its position, in the environment of the verifier. -/
structure VerifiedSourceEvent.Genuine (e : VerifiedSourceEvent) (v : Verifier)
    (world : SourceWorld) (decoder : EvmV1Decoder) (log : LogEntry) : Prop where
  located : logAt world decoder e.locator = some log
  id : e.id = ⟨v.envIdHash, e.locator⟩
  emitter : e.emitter = log.address_
  topics : e.topics = log.topics
  data : e.data = log.data
  verifier : e.verifier = v.self

namespace Verifier

variable {v : Verifier} {reg : ProviderRegistry} {decoder : EvmV1Decoder} {answers : NativeAnswers}
  {envelope : NativeProofEnvelope} {expectedEmitter : Address} {topic0s : List Bytes32}
  {world : SourceWorld} {events : List VerifiedSourceEvent}

theorem checkBinding_ok {u : Unit}
    (h : v.checkBinding reg envelope expectedEmitter topic0s = .ok u) :
    envelope.chainKey = v.chainKey := by
  unfold checkBinding at h
  obtain ⟨_, hkey, -⟩ := bind_eq_ok.mp h
  exact not_not.mp (revertIf_eq_ok.mp hkey)

theorem nativeVerify_ok {txIndex : Nat} (h : nativeVerify answers = .ok txIndex)
    (hsound : answers.Sound world envelope) :
    world envelope.chainKey envelope.height txIndex = some envelope.encodedTransaction := by
  unfold nativeVerify at h
  split at h
  · rename_i hverified
    split at h
    · rename_i idx hidx
      obtain ⟨_, -, h⟩ := bind_eq_ok.mp h
      obtain rfl := pure_eq_ok.mp h
      exact hsound idx hverified hidx
    · cases h
  · cases h

theorem decodeVerified_ok {receipt : ReceiptFields}
    (h : v.decodeVerified decoder envelope = .ok receipt) :
    decoder.decodeReceiptFields envelope.encodedTransaction = some receipt := by
  unfold decodeVerified at h
  split at h
  · cases h
  · obtain ⟨_, -, h⟩ := bind_eq_ok.mp h
    split at h
    · cases h
    · rename_i decoded hdecoded
      obtain ⟨_, -, h⟩ := bind_eq_ok.mp h
      obtain ⟨_, -, h⟩ := bind_eq_ok.mp h
      obtain rfl := pure_eq_ok.mp h
      exact hdecoded

/-- The events of the extraction are logs of the receipt, at their indices. -/
theorem extract_ok {receipt : ReceiptFields} {height txIndex : Nat}
    (h : v.extract expectedEmitter topic0s receipt height txIndex = .ok events) :
    ∀ e ∈ events, ∃ log i, receipt.receiptLogs[i]? = some log ∧
      e = v.event height txIndex log i ∧ i < 2 ^ 32 := by
  unfold extract at h
  obtain ⟨_, -, h⟩ := bind_eq_ok.mp h
  obtain rfl := pure_eq_ok.mp h
  intro e he
  obtain ⟨⟨log, i⟩, hfound, rfl⟩ := List.mem_map.mp he
  have hat : receipt.receiptLogs[i]? = some log :=
    List.mem_zipIdx_iff_getElem?.mp (List.mem_filter.mp hfound).1
  have hlt : i < receipt.receiptLogs.length := (List.getElem?_eq_some_iff.mp hat).1
  exact ⟨log, i, hat, rfl, hlt.trans_le receipt.bounded⟩

/-- What the verifier returns are the logs at their positions. -/
theorem verifyAndExtract_ok
    (h : v.verifyAndExtract reg decoder answers envelope expectedEmitter topic0s = .ok events)
    (hsound : answers.Sound world envelope) :
    ∀ e ∈ events, ∃ log, e.Genuine v world decoder log := by
  unfold verifyAndExtract at h
  obtain ⟨_, hbinding, h⟩ := bind_eq_ok.mp h
  obtain ⟨txIndex, hverified, h⟩ := bind_eq_ok.mp h
  obtain ⟨receipt, hdecoded, h⟩ := bind_eq_ok.mp h
  have hkey := checkBinding_ok hbinding
  have htx := nativeVerify_ok hverified hsound
  have hreceipt := decodeVerified_ok hdecoded
  intro e he
  obtain ⟨log, i, hlog, rfl, hlt⟩ := extract_ok h e he
  have hordinal : i % wordSize 32 = i := Nat.mod_eq_of_lt hlt
  refine ⟨log, ?_, rfl, rfl, rfl, rfl, rfl⟩
  show (world v.chainKey envelope.height txIndex).bind (fun encoded =>
    (decoder.decodeReceiptFields encoded).bind fun r => r.receiptLogs[i % wordSize 32]?) = some log
  rw [← hkey, htx, Option.bind_some, hreceipt, Option.bind_some, hordinal]
  exact hlog

end Verifier

/-! ### The records -/

/-- The record is that of the log at its position, in the environment of the book. -/
def EvidenceRecord.Proven (r : EvidenceRecord) (w : Wiring) (world : SourceWorld) : Prop :=
  r.id = ⟨w.envIdHash, r.locator⟩ ∧
    ∃ log, logAt world w.decoder r.locator = some log ∧ r.emitter = log.address_ ∧
      r.dataHash = log.dataHash

/-- The record is what was asked for. -/
def EvidenceRecord.Answers (r : EvidenceRecord) (ins : ConsumeInstruction) : Prop :=
  r.locator.logOrdinal = ins.logOrdinal ∧ r.economicEventId = ins.economicEventId ∧
    r.accountKey = ins.accountKey ∧ r.validUntil = ins.validUntil

namespace EvidenceBook

variable {w : Wiring} {world : SourceWorld} {m : Msg} {reg : ProviderRegistry}
  {ev ev' : EvidenceBook} {consumer : Address} {now : Nat} {providerId : ProviderId}

/-- The evidence book with one more record. -/
def withRecord (ev : EvidenceBook) (r : EvidenceRecord) : EvidenceBook :=
  { ev with
    records := Function.update ev.records r.id (some r)
    consumed := Function.update ev.consumed r.id true
    economicSeen := Function.update ev.economicSeen r.economicEventId true
    firstSource := Function.update ev.firstSource r.economicEventId (some r.id) }

theorem consumeOne_ok {method : VerificationMethod} {selfAsserted : Bool}
    {e : VerifiedSourceEvent} {ins : ConsumeInstruction} {r : EvidenceRecord}
    (h : ev.consumeOne w reg consumer now providerId method selfAsserted e ins = .ok (r, ev')) :
    ev' = ev.withRecord r ∧ ev.consumed r.id = false ∧
      ev.economicSeen r.economicEventId = false ∧ r.id = e.id ∧ r.locator = e.locator ∧
      r.emitter = e.emitter ∧ r.dataHash = ⟨e.topics, e.data⟩ ∧ r.economicEventId = ins.economicEventId ∧
      r.accountKey = ins.accountKey ∧ r.validUntil = ins.validUntil := by
  unfold consumeOne at h
  obtain ⟨_, hconsumed, h⟩ := bind_eq_ok.mp h
  obtain ⟨_, -, h⟩ := bind_eq_ok.mp h
  obtain ⟨_, -, h⟩ := bind_eq_ok.mp h
  obtain ⟨_, -, h⟩ := bind_eq_ok.mp h
  obtain ⟨_, -, h⟩ := bind_eq_ok.mp h
  obtain ⟨_, -, h⟩ := bind_eq_ok.mp h
  obtain ⟨_, hseen, h⟩ := bind_eq_ok.mp h
  obtain ⟨meaning, -, h⟩ := bind_eq_ok.mp h
  obtain ⟨rfl, rfl⟩ := Prod.mk.inj (pure_eq_ok.mp h)
  exact ⟨rfl, by simpa using revertIf_eq_ok.mp hconsumed, by simpa using revertIf_eq_ok.mp hseen,
    rfl, rfl, rfl, rfl, rfl, rfl, rfl⟩

/-- What the evidence book keeps, next to the history of its records: the records are proven, no
two of them share a position or an economic event, and the book knows the records by their
position. -/
structure Ledger (ev : EvidenceBook) (w : Wiring) (world : SourceWorld)
    (history : List EvidenceRecord) : Prop where
  ids : (history.map EvidenceRecord.id).Nodup
  economicIds : (history.map EvidenceRecord.economicEventId).Nodup
  consumed : ∀ id, ev.consumed id = true ↔ ∃ r ∈ history, r.id = id
  seen : ∀ k, ev.economicSeen k = true ↔ ∃ r ∈ history, r.economicEventId = k
  records : ∀ id r, ev.records id = some r ↔ r ∈ history ∧ r.id = id
  proven : ∀ r ∈ history, r.Proven w world

/-- The verifiers that are bound serve the environment of the book. -/
def Bound (ev : EvidenceBook) (w : Wiring) : Prop :=
  ∀ providerId v, ev.verifiers providerId ≠ 0 →
    w.verifierAt (ev.verifiers providerId) = some v → v.envIdHash = w.envIdHash

theorem initial_ledger : EvidenceBook.initial.Ledger w world [] where
  ids := List.nodup_nil
  economicIds := List.nodup_nil
  consumed id := by simp [EvidenceBook.initial]
  seen k := by simp [EvidenceBook.initial]
  records id r := by simp [EvidenceBook.initial]
  proven := nofun

theorem initial_bound : EvidenceBook.initial.Bound w :=
  fun _ _ hne _ => absurd rfl hne

/-- The ledger does not read the wiring. -/
theorem Ledger.congr {history : List EvidenceRecord} (h : ev.Ledger w world history)
    (hrecords : ev'.records = ev.records) (hconsumed : ev'.consumed = ev.consumed)
    (hseen : ev'.economicSeen = ev.economicSeen) : ev'.Ledger w world history where
  ids := h.ids
  economicIds := h.economicIds
  consumed id := by rw [hconsumed]; exact h.consumed id
  seen k := by rw [hseen]; exact h.seen k
  records id r := by rw [hrecords]; exact h.records id r
  proven := h.proven

/-- One more record, at a position and for an economic event that have none. -/
theorem Ledger.snoc {history : List EvidenceRecord} {r : EvidenceRecord}
    (h : ev.Ledger w world history) (hid : ev.consumed r.id = false)
    (hseen : ev.economicSeen r.economicEventId = false) (hproven : r.Proven w world) :
    (ev.withRecord r).Ledger w world (history ++ [r]) := by
  have hfresh : ∀ q ∈ history, q.id ≠ r.id := by
    intro q hq heq
    have htrue := (h.consumed r.id).mpr ⟨q, hq, heq⟩
    rw [hid] at htrue
    cases htrue
  have hnew : ∀ q ∈ history, q.economicEventId ≠ r.economicEventId := by
    intro q hq heq
    have htrue := (h.seen r.economicEventId).mpr ⟨q, hq, heq⟩
    rw [hseen] at htrue
    cases htrue
  refine ⟨?_, ?_, fun id => ?_, fun k => ?_, fun id q => ?_, fun q hq => ?_⟩
  · rw [List.map_append, List.nodup_append]
    refine ⟨h.ids, List.nodup_singleton _, ?_⟩
    rintro _ hmem _ hr rfl
    obtain ⟨q, hq, heq⟩ := List.mem_map.mp hmem
    exact hfresh q hq (heq.trans (List.mem_singleton.mp hr))
  · rw [List.map_append, List.nodup_append]
    refine ⟨h.economicIds, List.nodup_singleton _, ?_⟩
    rintro _ hmem _ hr rfl
    obtain ⟨q, hq, heq⟩ := List.mem_map.mp hmem
    exact hnew q hq (heq.trans (List.mem_singleton.mp hr))
  · show Function.update ev.consumed r.id true id = true ↔ _
    by_cases heq : id = r.id
    · subst heq
      simp
    · rw [Function.update_of_ne heq, h.consumed]
      simp [Ne.symm heq]
  · show Function.update ev.economicSeen r.economicEventId true k = true ↔ _
    by_cases heq : k = r.economicEventId
    · subst heq
      simp
    · rw [Function.update_of_ne heq, h.seen]
      simp [Ne.symm heq]
  · show Function.update ev.records r.id (some r) id = some q ↔ _
    by_cases heq : id = r.id
    · subst heq
      rw [Function.update_self]
      constructor
      · intro hsome
        cases hsome
        exact ⟨by simp, rfl⟩
      · rintro ⟨hmem, hsame⟩
        rcases List.mem_append.mp hmem with hold | hlast
        · exact absurd hsame (hfresh q hold)
        · rw [List.mem_singleton.mp hlast]
    · rw [Function.update_of_ne heq, h.records]
      constructor
      · exact fun hold => ⟨List.mem_append_left _ hold.1, hold.2⟩
      · rintro ⟨hmem, hsame⟩
        rcases List.mem_append.mp hmem with hold | hlast
        · exact ⟨hold, hsame⟩
        · rw [List.mem_singleton.mp hlast] at hsame
          exact absurd hsame.symm heq
  · rcases List.mem_append.mp hq with hold | hlast
    · exact h.proven q hold
    · rw [List.mem_singleton.mp hlast]
      exact hproven

/-- The loop of `consume` keeps the ledger, and its records are what the instructions ask for. -/
theorem consumeAll_ok {v : Verifier} {selfAsserted : Bool} {events : List VerifiedSourceEvent}
    (henv : v.envIdHash = w.envIdHash)
    (hevents : ∀ e ∈ events, ∃ log, e.Genuine v world w.decoder log) :
    ∀ {instructions : List ConsumeInstruction} {seen : List Nat} {ev ev' : EvidenceBook}
      {recs history : List EvidenceRecord}, ev.Ledger w world history →
      consumeAll w reg consumer now providerId v selfAsserted events instructions seen ev =
        .ok (recs, ev') →
      ev'.Ledger w world (history ++ recs) ∧ ev'.verifiers = ev.verifiers ∧
        List.Forall₂ EvidenceRecord.Answers recs instructions := by
  intro instructions
  induction instructions with
  | nil =>
    intro seen ev ev' recs history hledger h
    obtain ⟨rfl, rfl⟩ := Prod.mk.inj (Except.ok.inj h)
    exact ⟨by simpa using hledger, rfl, .nil⟩
  | cons ins rest ih =>
    intro seen ev ev' recs history hledger h
    rw [consumeAll] at h
    obtain ⟨_, -, h⟩ := bind_eq_ok.mp h
    obtain ⟨e, hat, h⟩ := bind_eq_ok.mp h
    obtain ⟨_, -, h⟩ := bind_eq_ok.mp h
    obtain ⟨⟨r, mid⟩, hone, h⟩ := bind_eq_ok.mp h
    obtain ⟨⟨recs', ev''⟩, hrest, h⟩ := bind_eq_ok.mp h
    obtain ⟨rfl, rfl⟩ := Prod.mk.inj (pure_eq_ok.mp h)
    unfold eventAt at hat
    split at hat
    · cases hat
    · rename_i found hfound
      cases hat
      have hordinal : e.locator.logOrdinal = ins.logOrdinal := by
        simpa using List.find?_some hfound
      obtain ⟨log, hgenuine⟩ := hevents e (List.mem_of_find?_eq_some hfound)
      obtain ⟨rfl, hid, hseen, hrid, hlocator, hemitter, hhash, heconomic, haccount, hvalid⟩ :=
        consumeOne_ok hone
      have hproven : r.Proven w world := by
        refine ⟨?_, log, ?_, hemitter.trans hgenuine.emitter, ?_⟩
        · rw [hrid, hgenuine.id, henv, hlocator]
        · rw [hlocator]
          exact hgenuine.located
        · rw [hhash, hgenuine.topics, hgenuine.data]
          rfl
      obtain ⟨hledger', hverifiers, hanswers⟩ := ih (hledger.snoc hid hseen hproven) hrest
      refine ⟨by simpa using hledger', hverifiers, .cons ⟨?_, heconomic, haccount, hvalid⟩ hanswers⟩
      rw [hlocator]
      exact hordinal

/-- A consumption keeps the ledger. -/
theorem consume_ok {answers : NativeAnswers} {envelope : NativeProofEnvelope}
    {expectedEmitter : Address} {topic0s : List Bytes32} {instructions : List ConsumeInstruction}
    {recs history : List EvidenceRecord} (hledger : ev.Ledger w world history) (hbound : ev.Bound w)
    (hsound : answers.Sound world envelope)
    (h : ev.consume w reg consumer now answers providerId envelope expectedEmitter topic0s
      instructions = .ok (recs, ev')) :
    ev'.Ledger w world (history ++ recs) ∧ ev'.Bound w ∧
      List.Forall₂ EvidenceRecord.Answers recs instructions := by
  unfold consume at h
  obtain ⟨_, -, h⟩ := bind_eq_ok.mp h
  obtain ⟨_, -, h⟩ := bind_eq_ok.mp h
  obtain ⟨_, hnonzero, h⟩ := bind_eq_ok.mp h
  split at h
  · cases h
  · rename_i v hv
    obtain ⟨_, -, h⟩ := bind_eq_ok.mp h
    obtain ⟨events, hextract, h⟩ := bind_eq_ok.mp h
    obtain ⟨_, -, h⟩ := bind_eq_ok.mp h
    have henv := hbound providerId v (revertIf_eq_ok.mp hnonzero) hv
    obtain ⟨hledger', hverifiers, hanswers⟩ :=
      consumeAll_ok henv (Verifier.verifyAndExtract_ok hextract hsound) hledger h
    refine ⟨hledger', fun p v' hne hv' => ?_, hanswers⟩
    rw [hverifiers] at hne hv'
    exact hbound p v' hne hv'

/-- A wiring call changes neither the records nor what is consumed. -/
structure Rewired (ev ev' : EvidenceBook) : Prop where
  records : ev'.records = ev.records
  consumed : ev'.consumed = ev.consumed
  economicSeen : ev'.economicSeen = ev.economicSeen

theorem bindVerifier_ok {verifier : Address} (hbound : ev.Bound w)
    (h : ev.bindVerifier w m reg providerId verifier = .ok ev') : ev.Rewired ev' ∧ ev'.Bound w := by
  unfold bindVerifier at h
  obtain ⟨_, -, h⟩ := bind_eq_ok.mp h
  obtain ⟨_, -, h⟩ := bind_eq_ok.mp h
  split at h
  · cases h
  · rename_i v hv
    obtain ⟨_, henv, h⟩ := bind_eq_ok.mp h
    obtain ⟨_, -, h⟩ := bind_eq_ok.mp h
    obtain ⟨_, -, h⟩ := bind_eq_ok.mp h
    obtain ⟨_, -, h⟩ := bind_eq_ok.mp h
    obtain rfl := pure_eq_ok.mp h
    refine ⟨⟨rfl, rfl, rfl⟩, fun p v' hne hv' => ?_⟩
    replace hne : Function.update ev.verifiers providerId verifier p ≠ 0 := hne
    replace hv' : w.verifierAt (Function.update ev.verifiers providerId verifier p) = some v' := hv'
    by_cases hp : p = providerId
    · subst hp
      rw [Function.update_self, hv] at hv'
      cases hv'
      exact not_not.mp (revertIf_eq_ok.mp henv)
    · rw [Function.update_of_ne hp] at hne hv'
      exact hbound p v' hne hv'

theorem setConsumer_ok {address : Address} {allowed : Bool}
    (h : ev.setConsumer m address allowed = .ok ev') :
    ev.Rewired ev' ∧ ev'.verifiers = ev.verifiers := by
  unfold setConsumer at h
  obtain ⟨_, -, h⟩ := bind_eq_ok.mp h
  obtain ⟨_, -, h⟩ := bind_eq_ok.mp h
  obtain rfl := pure_eq_ok.mp h
  exact ⟨⟨rfl, rfl, rfl⟩, rfl⟩

theorem setSelfAssertedEmitter_ok {emitter : Address} {selfAsserted : Bool}
    (h : ev.setSelfAssertedEmitter m providerId emitter selfAsserted = .ok ev') :
    ev.Rewired ev' ∧ ev'.verifiers = ev.verifiers := by
  unfold setSelfAssertedEmitter at h
  obtain ⟨_, -, h⟩ := bind_eq_ok.mp h
  obtain rfl := pure_eq_ok.mp h
  exact ⟨⟨rfl, rfl, rfl⟩, rfl⟩

theorem finalizeWiring_ok (h : ev.finalizeWiring m = .ok ev') :
    ev.Rewired ev' ∧ ev'.verifiers = ev.verifiers := by
  unfold finalizeWiring at h
  obtain ⟨_, -, h⟩ := bind_eq_ok.mp h
  obtain rfl := pure_eq_ok.mp h
  exact ⟨⟨rfl, rfl, rfl⟩, rfl⟩

theorem pauseEvidenceIntake_ok {paused : Bool} (h : ev.pauseEvidenceIntake m paused = .ok ev') :
    ev.Rewired ev' ∧ ev'.verifiers = ev.verifiers := by
  unfold pauseEvidenceIntake at h
  obtain ⟨_, -, h⟩ := bind_eq_ok.mp h
  obtain rfl := pure_eq_ok.mp h
  exact ⟨⟨rfl, rfl, rfl⟩, rfl⟩

theorem Rewired.ledger {history : List EvidenceRecord} (h : ev.Rewired ev')
    (hledger : ev.Ledger w world history) : ev'.Ledger w world history :=
  hledger.congr h.records h.consumed h.economicSeen

theorem Bound.congr (hbound : ev.Bound w) (h : ev'.verifiers = ev.verifiers) : ev'.Bound w := by
  intro providerId v hne hv
  rw [h] at hne hv
  exact hbound providerId v hne hv

end EvidenceBook

/-! ### The book -/

section
variable {w : Wiring} {world : SourceWorld} {now : Nat} {reg : ProviderRegistry}
  {ev : EvidenceBook} {providerId : ProviderId}

/-- A claim with the topics and the data of a log says what the log says. -/
theorem decodeLog_of_claim {topic : Topic} {topic0 : Bytes32} {c : ReceivableClaim} {log : LogEntry}
    (htopic : w.topicOf topic0 = .ok topic) (htopics : topicsFor topic.kind topic0 c = log.topics)
    (hdata : c.data = log.data) :
    w.decodeLog log = decodeEvent c.accountKey c.topic2 c.topic3 c.data topic := by
  unfold Wiring.decodeLog
  rw [← htopics, ← hdata]
  cases topic with
  | _ =>
    show ((w.topicOf topic0).toOption.bind fun t => _) = _
    rw [htopic]
    rfl

/-- The book applies a claim whose hash is that of the record, so it handles what the log at the
position of the record decodes to. -/
theorem apply_ok {r : EvidenceRecord} {c : ReceivableClaim} {b b' : ReceivableBook} {log : LogEntry}
    (h : apply w now reg ev providerId r c b = .ok b') (hhash : r.dataHash = log.dataHash) :
    ∃ event, w.decodeLog log = some event ∧ handle w now reg ev providerId r event b = .ok b' := by
  unfold apply at h
  obtain ⟨topic, htopic, h⟩ := bind_eq_ok.mp h
  obtain ⟨cfg, -, h⟩ := bind_eq_ok.mp h
  obtain ⟨_, -, h⟩ := bind_eq_ok.mp h
  obtain ⟨_, -, h⟩ := bind_eq_ok.mp h
  obtain ⟨_, hclaimed, h⟩ := bind_eq_ok.mp h
  have hsame : (⟨topicsFor topic.kind r.topic0 c, c.data⟩ : DataHash) = log.dataHash := by
    rw [← hhash]
    exact not_not.mp (revertIf_eq_ok.mp hclaimed)
  obtain ⟨htopics, hdata⟩ := DataHash.mk.inj hsame
  split at h
  · cases h
  · rename_i event hevent
    refine ⟨event, (decodeLog_of_claim htopic htopics hdata).trans hevent, ?_⟩
    unfold liftBook at h
    cases hhandle : handle w now reg ev providerId r event b with
    | error e =>
      rw [hhandle] at h
      cases h
    | ok b'' =>
      rw [hhandle] at h
      cases h
      rfl

/-- The records are applied one after the other, each as the log at its position decodes. -/
inductive Applied (w : Wiring) (world : SourceWorld) (now : Nat) (reg : ProviderRegistry)
    (ev : EvidenceBook) (providerId : ProviderId) :
    ReceivableBook → List EvidenceRecord → ReceivableBook → Prop
  | nil (b : ReceivableBook) : Applied w world now reg ev providerId b [] b
  | cons {r : EvidenceRecord} {recs : List EvidenceRecord} {log : LogEntry} {event : SourceEvent}
      {b b' b'' : ReceivableBook} (hlog : logAt world w.decoder r.locator = some log)
      (hevent : w.decodeLog log = some event)
      (hhandle : handle w now reg ev providerId r event b = .ok b')
      (hrest : Applied w world now reg ev providerId b' recs b'') :
      Applied w world now reg ev providerId b (r :: recs) b''

theorem applyAll_ok : ∀ {recs : List EvidenceRecord} {claims : List ReceivableClaim}
    {b b' : ReceivableBook}, recs.length = claims.length → (∀ r ∈ recs, r.Proven w world) →
    applyAll w now reg ev providerId recs claims b = .ok b' →
    Applied w world now reg ev providerId b recs b' := by
  intro recs
  induction recs with
  | nil =>
    intro claims b b' hlength _ h
    cases claims with
    | nil =>
      cases h
      exact .nil b
    | cons c claims => cases hlength
  | cons r recs ih =>
    intro claims b b' hlength hproven h
    cases claims with
    | nil => cases hlength
    | cons c claims =>
      rw [applyAll] at h
      obtain ⟨mid, hone, h⟩ := bind_eq_ok.mp h
      obtain ⟨-, log, hlog, -, hhash⟩ := hproven r List.mem_cons_self
      obtain ⟨event, hevent, hhandle⟩ := apply_ok hone hhash
      have hrest := ih (Nat.succ.inj hlength)
        (fun q hq => hproven q (List.mem_cons_of_mem _ hq)) h
      exact .cons hlog hevent hhandle hrest

end

/-! ### Runs -/

/-- The record is that of the log that the claim names. -/
def EvidenceRecord.Claimed (r : EvidenceRecord) (c : ReceivableClaim) : Prop :=
  r.locator.logOrdinal = c.logOrdinal ∧ r.accountKey = c.accountKey ∧ r.validUntil = c.validUntil

/-- All claims of a call have become records, and all of these have been applied. -/
def Ingested (w : Wiring) (world : SourceWorld) (m : Msg) (reg : ProviderRegistry)
    (providerId : ProviderId) (claims : List ReceivableClaim) (d d' : Destination) : Prop :=
  ∃ recs, d'.history = d.history ++ recs ∧ List.Forall₂ EvidenceRecord.Claimed recs claims ∧
    Applied w world m.now reg d'.evidence providerId d.book recs d'.book

section
variable {w : Wiring} {world : SourceWorld} {m : Msg} {d d' : Destination}

theorem instructionOf_ok {providerId : ProviderId} {topic0s : List Bytes32} {c : ReceivableClaim}
    {ins : ConsumeInstruction} (h : instructionOf w providerId topic0s c = .ok ins) :
    ins.logOrdinal = c.logOrdinal ∧ ins.accountKey = c.accountKey ∧
      ins.validUntil = c.validUntil := by
  unfold instructionOf at h
  split at h
  · obtain ⟨topic, -, h⟩ := bind_eq_ok.mp h
    obtain ⟨key, -, h⟩ := bind_eq_ok.mp h
    obtain rfl := pure_eq_ok.mp h
    exact ⟨rfl, rfl, rfl⟩
  · cases h

/-- The records answer the instructions that were derived from the claims, so they are those of the
claims. -/
theorem claimed_of_answers {providerId : ProviderId} {topic0s : List Bytes32} :
    ∀ {claims : List ReceivableClaim} {instructions : List ConsumeInstruction}
      {recs : List EvidenceRecord},
      claims.mapM (instructionOf w providerId topic0s) = .ok instructions →
      List.Forall₂ EvidenceRecord.Answers recs instructions →
      List.Forall₂ EvidenceRecord.Claimed recs claims := by
  intro claims
  induction claims with
  | nil =>
    intro instructions recs h hanswers
    rw [List.mapM_nil] at h
    obtain rfl := pure_eq_ok.mp h
    cases hanswers
    exact .nil
  | cons c claims ih =>
    intro instructions recs h hanswers
    rw [List.mapM_cons] at h
    obtain ⟨ins, hone, h⟩ := bind_eq_ok.mp h
    obtain ⟨rest, hrest, h⟩ := bind_eq_ok.mp h
    obtain rfl := pure_eq_ok.mp h
    cases hanswers with
    | cons hfirst hothers =>
      obtain ⟨hordinal, haccount, hvalid⟩ := instructionOf_ok hone
      refine .cons ⟨?_, ?_, ?_⟩ (ih hrest hothers)
      · exact hfirst.1.trans hordinal
      · exact hfirst.2.2.1.trans haccount
      · exact hfirst.2.2.2.trans hvalid

/-- What every run keeps. -/
structure Destination.Kept (d : Destination) (w : Wiring) (world : SourceWorld) : Prop where
  ledger : d.evidence.Ledger w world d.history
  bound : d.evidence.Bound w

theorem Destination.ingest_ok {reg : ProviderRegistry} {answers : NativeAnswers}
    {providerId : ProviderId} {envelope : NativeProofEnvelope} {expectedEmitter : Address}
    {topic0s : List Bytes32} {claims : List ReceivableClaim} (hd : d.Kept w world)
    (hsound : answers.Sound world envelope)
    (h : d.ingest w m reg answers providerId envelope expectedEmitter topic0s claims = .ok d') :
    d'.Kept w world ∧ Ingested w world m reg providerId claims d d' := by
  unfold Destination.ingest at h
  obtain ⟨_, -, h⟩ := bind_eq_ok.mp h
  obtain ⟨instructions, hinstructions, h⟩ := bind_eq_ok.mp h
  obtain ⟨⟨recs, evidence⟩, hconsume, h⟩ := bind_eq_ok.mp h
  obtain ⟨book, hbook, h⟩ := bind_eq_ok.mp h
  obtain rfl := pure_eq_ok.mp h
  obtain ⟨hledger, hbound, hanswers⟩ := EvidenceBook.consume_ok hd.ledger hd.bound hsound hconsume
  have hclaimed := claimed_of_answers hinstructions hanswers
  have happlied := applyAll_ok hclaimed.length_eq
    (fun r hr => hledger.proven r (List.mem_append_right _ hr)) hbook
  exact ⟨⟨hledger, hbound⟩, recs, rfl, hclaimed, happlied⟩

/-- A call that rewires the evidence book, or changes the book only, keeps what every run keeps. -/
theorem Destination.Kept.rewired {ev : EvidenceBook} (hd : d.Kept w world)
    (h : d.evidence.Rewired ev ∧ ev.verifiers = d.evidence.verifiers) :
    ({ d with evidence := ev } : Destination).Kept w world :=
  ⟨h.1.ledger hd.ledger, hd.bound.congr h.2⟩

theorem IngestStep.kept {tx : IngestTx} (hd : d.Kept w world) (h : IngestStep w world d tx d') :
    d'.Kept w world := by
  obtain ⟨hsound, rfl⟩ := h
  obtain ⟨m, call⟩ := tx
  unfold Destination.perform
  cases hcall : d.call w m call with
  | error e => exact hd
  | ok d' =>
    show d'.Kept w world
    cases call with
    | ingest reg answers providerId envelope expectedEmitter topic0s claims =>
      exact (Destination.ingest_ok hd hsound hcall).1
    | consume reg answers providerId envelope expectedEmitter topic0s instructions =>
      obtain ⟨⟨recs, evidence⟩, hconsume, hcall⟩ := bind_eq_ok.mp hcall
      obtain rfl := pure_eq_ok.mp hcall
      obtain ⟨hledger, hbound, -⟩ :=
        EvidenceBook.consume_ok hd.ledger hd.bound hsound.1 hconsume
      exact ⟨hledger, hbound⟩
    | bindVerifier reg providerId verifier =>
      obtain ⟨ev, hev, rfl⟩ := map_eq_ok.mp hcall
      obtain ⟨hrewired, hbound⟩ := EvidenceBook.bindVerifier_ok hd.bound hev
      exact ⟨hrewired.ledger hd.ledger, hbound⟩
    | setConsumer consumer allowed =>
      obtain ⟨ev, hev, rfl⟩ := map_eq_ok.mp hcall
      exact hd.rewired (EvidenceBook.setConsumer_ok hev)
    | setSelfAssertedEmitter providerId emitter selfAsserted =>
      obtain ⟨ev, hev, rfl⟩ := map_eq_ok.mp hcall
      exact hd.rewired (EvidenceBook.setSelfAssertedEmitter_ok hev)
    | finalizeWiring =>
      obtain ⟨ev, hev, rfl⟩ := map_eq_ok.mp hcall
      exact hd.rewired (EvidenceBook.finalizeWiring_ok hev)
    | pauseEvidenceIntake paused =>
      obtain ⟨ev, hev, rfl⟩ := map_eq_ok.mp hcall
      exact hd.rewired (EvidenceBook.pauseEvidenceIntake_ok hev)
    | registerFacility reg facilityId borrowerId providerId sourceAsset =>
      obtain ⟨b, -, rfl⟩ := map_eq_ok.mp hcall
      exact ⟨hd.ledger, hd.bound⟩
    | setDisputed id disputed =>
      obtain ⟨b, -, rfl⟩ := map_eq_ok.mp hcall
      exact ⟨hd.ledger, hd.bound⟩

/-- An `ingest` changes nothing, or it has recorded and applied all its claims. -/
theorem IngestStep.all_or_nothing {reg : ProviderRegistry} {answers : NativeAnswers}
    {providerId : ProviderId} {envelope : NativeProofEnvelope} {expectedEmitter : Address}
    {topic0s : List Bytes32} {claims : List ReceivableClaim} (hd : d.Kept w world)
    (h : IngestStep w world d
      (m, .ingest reg answers providerId envelope expectedEmitter topic0s claims) d') :
    d' = d ∨ Ingested w world m reg providerId claims d d' := by
  obtain ⟨hsound, rfl⟩ := h
  unfold Destination.perform
  cases hcall : d.call w m (.ingest reg answers providerId envelope expectedEmitter topic0s claims)
    with
  | error e => exact .inl rfl
  | ok d' => exact .inr (Destination.ingest_ok hd hsound hcall).2

variable {txs : List IngestTx}

theorem IngestStep.run_kept (hrun : Steps (IngestStep w world) .initial txs d) : d.Kept w world :=
  hrun.invariant (P := fun d : Destination => d.Kept w world) (fun _ _ _ hd hs => hs.kept hd)
    ⟨EvidenceBook.initial_ledger, EvidenceBook.initial_bound⟩

/-- In every run, no two records share a position or an economic event, and each carries the emitter
and the hash of the log at its position. Every `ingest` of the run changes nothing, or records and applies all its
claims, each as the log at the position of its record decodes. -/
theorem evidence_applied_once (hrun : Steps (IngestStep w world) .initial txs d) :
    (d.history.map EvidenceRecord.id).Nodup ∧
    (d.history.map EvidenceRecord.economicEventId).Nodup ∧
    (∀ id r, d.evidence.records id = some r ↔ r ∈ d.history ∧ r.id = id) ∧
    (∀ r ∈ d.history, r.id = ⟨w.envIdHash, r.locator⟩ ∧
      ∃ log, logAt world w.decoder r.locator = some log ∧ r.emitter = log.address_ ∧
        r.dataHash = log.dataHash) ∧
    ∀ d₁ d₂ m reg answers providerId envelope expectedEmitter topic0s claims,
      StepOf (IngestStep w world) .initial txs d₁
        (m, .ingest reg answers providerId envelope expectedEmitter topic0s claims) d₂ →
      d₂ = d₁ ∨ Ingested w world m reg providerId claims d₁ d₂ := by
  have hkept := IngestStep.run_kept hrun
  refine ⟨hkept.ledger.ids, hkept.ledger.economicIds, hkept.ledger.records, hkept.ledger.proven, ?_⟩
  rintro d₁ d₂ m reg answers providerId envelope expectedEmitter topic0s claims
    ⟨pre, post, -, hpre, hstep⟩
  exact hstep.all_or_nothing (IngestStep.run_kept hpre)

end

namespace Sample

/-- The bytes of a word. -/
def wordBytes (n : UInt8) : Bytes := List.replicate 31 0 ++ [n]

/-- The eight signatures, numbered. -/
def signature : Topic → Bytes32
  | .obligationRecognized => 1
  | .obligationRecognizedV2 => 2
  | .obligationAssigned => 3
  | .obligationCorrected => 4
  | .payoutReceived => 5
  | .payoutCancelled => 6
  | .sourceCheckpoint => 7
  | .sourceCheckpointV2 => 8

/-- The escrow at address 40 recognizes 100, which payer 9 owes on obligation 3 of account 2. -/
def recognitionLog : LogEntry where
  address_ := 40
  topics := [signature .obligationRecognized, 2, 3, 30]
  data := wordBytes 9 ++ wordBytes 40 ++ wordBytes 100 ++ wordBytes 0 ++ wordBytes 1

/-- A receipt with the log of another contract in front of it. -/
def receipt : ReceiptFields where
  receiptStatus := 1
  receiptLogs := [{ address_ := 41, topics := [], data := [] }, recognitionLog]
  bounded := by decide

/-- The transaction is the third of block 7 of chain 1. -/
def world : SourceWorld := fun chainKey height txIndex =>
  if chainKey = 1 ∧ height = 7 ∧ txIndex = 3 then some [1] else none

/-- A verifier for provider 5 at address 50. -/
def verifier : Verifier :=
  { self := 50, providerId := 5, manifestHash := 1, envIdHash := 1, chainKey := 1, sourceChainId := 1,
    profile := .localMock, maxTxBytes := 100, maxLogs := 16, maxSiblings := 32,
    maxContinuityRoots := 64 }

/-- The book is at address 60. -/
def wiring : Wiring where
  envIdHash := 1
  maxValidity := 1000
  book := 60
  verifierAt := fun a => if a = 50 then some verifier else none
  decoder :=
    { getTransactionType := fun _ => some 2
      isValidTransactionType := fun t => decide (t = 2)
      decodeReceiptFields := fun encoded => if encoded = [1] then some receipt else none }
  signature := signature
  facilityKey := fun id => id
  signature_injective := by
    intro a b h
    cases a <;> cases b <;> first | rfl | exact absurd h (by decide +kernel)

/-- One provider, whose emitters and issuers are all registered. -/
def registry : ProviderRegistry where
  provider := fun _ => some { executionProfile := .localMock, sourceChain := verifier.sourceChain }
  isEmitterRegistered := fun _ _ _ => true
  emitterMeaning := fun _ _ _ => some .obligationRecognized
  isAdmitted := fun _ _ => true
  isIssuer := fun _ _ => true
  isTokenAdmitted := fun _ _ _ => true
  borrowerOfWallet := fun _ => 0
  borrowerOfAccount := fun _ => 0

/-- The transaction and its proof. -/
def envelope : NativeProofEnvelope :=
  { chainKey := 1, height := 7, encodedTransaction := [1], merkleRoot := 0, siblings := [],
    lowerEndpointDigest := 0, continuityRoots := [] }

/-- The claim about the second log of the receipt. -/
def claim : ReceivableClaim :=
  { logOrdinal := 1, accountKey := 2, topic2 := 3, topic3 := 30, data := recognitionLog.data,
    validUntil := 100 }

/-- An account that has every role, at time 10. -/
def admin : Msg where
  sender := 7
  now := 10
  hasRole := fun _ _ => true
  hasCode := fun _ => true

/-- An `ingest` of the claim. -/
def ingestClaim : IngestTx :=
  (admin, .ingest registry ⟨some (some 1), some (some 3)⟩ 5 envelope 40
    [signature .obligationRecognized] [claim])

/-- The verifier is bound and the book allowed; then the same claim is brought twice. -/
def ingestTxs : List IngestTx :=
  [(admin, .bindVerifier registry 5 50), (admin, .setConsumer 60 true), ingestClaim, ingestClaim]

theorem ingestTxs_sound : ∀ tx ∈ ingestTxs, tx.Sound wiring world := by
  have hingest : ingestClaim.Sound wiring world := by
    intro i _ hi
    cases hi
    rfl
  intro tx hmem
  simp only [ingestTxs, List.mem_cons, List.not_mem_nil, or_false] at hmem
  rcases hmem with rfl | rfl | rfl | rfl
  · trivial
  · trivial
  · exact hingest
  · exact hingest

end Sample

/-- The log is applied by the first of the two calls, and its record carries its hash. -/
theorem evidence_applied_once_sample :
    ∃ d, Steps (IngestStep Sample.wiring Sample.world) .initial Sample.ingestTxs d ∧
      d.history.length = 1 ∧ (d.book.receivables ⟨5, 2, 3⟩).net = 100 ∧
      ∀ r ∈ d.history, ∃ log, logAt Sample.world Sample.wiring.decoder r.locator = some log ∧
        r.emitter = log.address_ ∧ r.dataHash = log.dataHash := by
  have hrun := Destination.steps_foldl (d := .initial) Sample.ingestTxs_sound
  obtain ⟨-, -, -, hproven, -⟩ := evidence_applied_once hrun
  exact ⟨_, hrun, by decide +kernel, by decide +kernel, fun r hr => (hproven r hr).2⟩

end Rackline.Native
