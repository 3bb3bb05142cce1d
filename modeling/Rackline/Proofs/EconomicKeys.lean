import Rackline.EscrowLogs
import Rackline.Proofs.NativeEvidence
import Rackline.Proofs.SourceOps
import Rackline.Evm.Errors

/-!
# `Rackline.Proofs.EconomicKeys`: one key for one economic fact

Two logs of an escrow get one economic key exactly when they are the two forms of one recognition
(`economic_keys_separate`). The key is made of words that are decoded from the claim, so first the
words of a log are shown to decode to what was emitted (`seqOrRev_decode`): the key of a log is its
`label`, and nothing else of the claim gets into it.

That labels are fresh is the escrow's doing. `Behind e x` is what the state `e` keeps of a log `x`
that it has emitted: the obligation is there at this revision or a later one, the settlement or
checkpoint number is used up, the payout is marked. No transaction goes back behind a log
(`Behind.mono`), and what a transaction emits is not labelled like any log behind the state before
(`SourceEffect.fresh`).
-/

set_option autoImplicit false

namespace Rackline

open Evm Transition

/-- A number of fewer bits is a word. -/
theorem lt_word_of_lt {n x : Nat} (h : x < wordSize n) (hn : n ≤ 256) : x < wordSize 256 :=
  Nat.lt_of_lt_of_le h (Nat.pow_le_pow_right (by decide) hn)

/-- What a key says of a log: the account, the kind, the reference and the number. A checkpoint has
no reference. -/
def SourceEvent.label (e : SourceEvent) : AccountKey × Kind × Option Bytes32 × Nat :=
  (e.accountKey, e.topic.kind, e.topic2, e.seqOrRev)

namespace Native

/-! ### Decoding what was encoded -/

namespace Abi

/-- A word of an encoding is the one that was encoded. -/
theorem word_encode {words : List Nat} {i x : Nat} (h : words[i]? = some x)
    (hx : x < wordSize 256) : word (encode words) i = some x := by
  have hi : i < words.length := by
    by_contra hle
    rw [List.getElem?_eq_none (by omega)] at h
    cases h
  have hrest : words.drop i = x :: words.drop (i + 1) := by
    rw [List.drop_eq_getElem_cons hi, Option.some.inj ((List.getElem?_eq_getElem hi).symm.trans h)]
  have hchunk : ((encode words).drop (32 * i)).take 32 = bigEndian 32 x := by
    show ((words.flatMap (bigEndian 32)).drop (32 * i)).take 32 = _
    rw [drop_flatMap_bigEndian, hrest, List.flatMap_cons, List.take_append_of_le_length (by simp)]
    exact List.take_of_length_le (by simp)
  show (if (((encode words).drop (32 * i)).take 32).length = 32 then
    some (ofBigEndian (((encode words).drop (32 * i)).take 32)) else none) = some x
  rw [hchunk, if_pos (length_bigEndian 32 x), ofBigEndian_bigEndian]
  have hpow : 256 ^ 32 = wordSize 256 := by decide
  rw [hpow, Nat.mod_eq_of_lt hx]

/-- A number comes back if it has so many bits. -/
theorem uint_encode {words : List Nat} {i x bits : Nat} (h : words[i]? = some x)
    (hx : x < wordSize bits) (hbits : bits ≤ 256) : uint (encode words) i bits = some x := by
  unfold uint
  rw [word_encode h (lt_word_of_lt hx hbits)]
  exact if_pos hx

/-- Whatever comes back is what was encoded. -/
theorem uint_encode_eq {words : List Nat} {i x y bits : Nat} (h : words[i]? = some x)
    (hx : x < wordSize 256) (hy : uint (encode words) i bits = some y) : y = x := by
  unfold uint at hy
  rw [word_encode h hx] at hy
  obtain ⟨-, hxy⟩ := Option.ite_none_right_eq_some.mp hy
  exact (Option.some.inj hxy).symm

theorem address_encode {words : List Nat} {i : Nat} {a : Address}
    (h : words[i]? = some a.toWord) : (address (encode words) i).isSome = true := by
  have ha : a.toWord < wordSize 160 := Fin.isLt (n := 2 ^ 160) a
  unfold address
  rw [word_encode h (lt_word_of_lt ha (by decide))]
  exact congrArg Option.isSome (dif_pos (show a.toWord < 2 ^ 160 from ha))

theorem length_encode (words : List Nat) : (encode words).length = 32 * words.length :=
  length_flatMap_bigEndian 32 words

end Abi

/-! ### The key of a log -/

theorem topicOf_signature (w : Wiring) (topic : Topic) :
    w.topicOf (w.signature topic) = .ok topic := by
  have hall : topic ∈ Topic.all := by cases topic <;> decide
  unfold Wiring.topicOf
  cases hfind : Topic.all.find? fun t => decide (w.signature t = w.signature topic) with
  | none =>
    have hnone := List.find?_eq_none.mp hfind topic hall
    simp at hnone
  | some t =>
    have hsome := List.find?_some hfind
    have hsig : w.signature t = w.signature topic := by simpa using hsome
    rw [w.signature_injective hsig]

section Keys

variable {w : Wiring} {self : Address} {providerId : ProviderId} {e : SourceEvent}
  {c : ReceivableClaim} {k : EconomicId}

theorem matches_logOf : c.Matches w (w.logOf self e) ↔
    topicsFor e.topic.kind (w.signature e.topic) c = w.signature e.topic :: e.indexed ∧
      c.data = Abi.encode e.words := by
  have htopic : w.topicOf ((w.logOf self e).topics.headD 0) = .ok e.topic :=
    topicOf_signature w e.topic
  simp only [ReceivableClaim.Matches, htopic]
  show (⟨topicsFor e.topic.kind (w.signature e.topic) c, c.data⟩ : DataHash) =
    ⟨w.signature e.topic :: e.indexed, Abi.encode e.words⟩ ↔ _
  rw [DataHash.mk.injEq]

theorem keyOf_logOf :
    keyOf w providerId (w.logOf self e) c = economicKey providerId c e.topic.kind := by
  show ((w.topicOf (w.signature e.topic) >>= fun topic =>
    economicKey providerId c topic.kind >>= fun economicEventId => _).map _) = _
  rw [topicOf_signature]
  show ((economicKey providerId c e.topic.kind >>= fun economicEventId => _).map _) = _
  cases economicKey providerId c e.topic.kind with
  | error e => rfl
  | ok k => rfl

/-- A claim that matches names the account of the log, and its reference if it has one. -/
theorem ReceivableClaim.Matches.names (h : c.Matches w (w.logOf self e)) :
    c.accountKey = e.accountKey ∧ ∀ ref, e.topic2 = some ref → c.topic2 = ref := by
  obtain ⟨htopics, -⟩ := matches_logOf.mp h
  cases e <;>
    simp_all [topicsFor, SourceEvent.topic, Topic.kind, SourceEvent.indexed, SourceEvent.accountKey,
      SourceEvent.topic2]

/-- The tuple that `_economicKey` decodes of a log: its own, but a checkpoint's without times. -/
def SourceEvent.layout (e : SourceEvent) : Topic :=
  match e.topic with
  | .sourceCheckpointV2 => .sourceCheckpoint
  | topic => topic

/-- The length of the data tells the two forms of a recognition apart. -/
theorem shape_of_length {data : Bytes} (h : data.length = 32 * e.words.length) :
    shape data e.topic.kind = SourceEvent.layout e := by
  cases e with
  | obligationRecognized a ref issuer payer payee amount dueAt revision =>
    have hlen : data.length ≠ 192 := by simp [h, SourceEvent.words]
    exact if_neg hlen
  | obligationRecognizedV2 a ref issuer payer payee token amount dueAt revision =>
    have hlen : data.length = 192 := by simp [h, SourceEvent.words]
    exact if_pos hlen
  | _ => rfl

/-- The word of a tuple that is its number. -/
def numberAt : Topic → Nat
  | .obligationRecognized => 4
  | .obligationRecognizedV2 => 5
  | .obligationAssigned => 0
  | .obligationCorrected => 1
  | .payoutReceived => 2
  | .payoutCancelled => 0
  | .sourceCheckpoint => 0
  | .sourceCheckpointV2 => 0

/-- The number of what was decoded is one of the words of the data. -/
theorem decodeEvent_number {a : AccountKey} {t2 t3 : Bytes32} {data : Bytes} {topic : Topic}
    (h : decodeEvent a t2 t3 data topic = some e) :
    ∃ bits, Abi.uint data (numberAt topic) bits = some e.seqOrRev := by
  cases topic <;> simp only [decodeEvent, bind, Option.bind_eq_some_iff] at h
  case obligationRecognized =>
    obtain ⟨_, -, _, -, _, -, _, -, x, hx, he⟩ := h
    cases he
    exact ⟨32, hx⟩
  case obligationRecognizedV2 =>
    obtain ⟨_, -, _, -, _, -, _, -, _, -, x, hx, he⟩ := h
    cases he
    exact ⟨32, hx⟩
  case obligationAssigned =>
    obtain ⟨x, hx, he⟩ := h
    cases he
    exact ⟨32, hx⟩
  case obligationCorrected =>
    obtain ⟨_, -, x, hx, _, -, he⟩ := h
    cases he
    exact ⟨32, hx⟩
  case payoutReceived =>
    obtain ⟨_, -, _, -, x, hx, he⟩ := h
    cases he
    exact ⟨64, hx⟩
  case payoutCancelled =>
    obtain ⟨x, hx, _, -, he⟩ := h
    cases he
    exact ⟨64, hx⟩
  case sourceCheckpoint =>
    obtain ⟨x, hx, _, -, _, -, _, -, he⟩ := h
    cases he
    exact ⟨64, hx⟩
  case sourceCheckpointV2 =>
    obtain ⟨x, hx, _, -, _, -, _, -, _, -, _, -, he⟩ := h
    cases he
    exact ⟨64, hx⟩

/-- Whatever tuple the key decodes of the data of a log, its number is that of the log. -/
theorem seqOrRev_decode {a : AccountKey} {t2 t3 : Bytes32} {e' : SourceEvent}
    (hseq : e.seqOrRev < wordSize 256)
    (h : decodeEvent a t2 t3 (Abi.encode e.words) (SourceEvent.layout e) = some e') :
    e'.seqOrRev = e.seqOrRev := by
  have hplace : e.words[numberAt (SourceEvent.layout e)]? = some e.seqOrRev := by
    cases e with
    | _ => rfl
  obtain ⟨bits, hnumber⟩ := decodeEvent_number h
  exact Abi.uint_encode_eq hplace hseq hnumber

/-- The key of a log: its label for the provider, and the reference that was claimed. -/
theorem keyOf_ok (hmatch : c.Matches w (w.logOf self e)) (hseq : e.seqOrRev < wordSize 256)
    (h : keyOf w providerId (w.logOf self e) c = .ok k) :
    k = .derived ⟨providerId, e.accountKey, e.topic.kind, c.topic2, e.seqOrRev⟩ := by
  obtain ⟨-, hdata⟩ := matches_logOf.mp hmatch
  rw [keyOf_logOf] at h
  unfold economicKey at h
  rw [hdata, shape_of_length (Abi.length_encode e.words)] at h
  split at h
  · cases h
  · rename_i e' hdecode
    cases h
    rw [seqOrRev_decode hseq hdecode, hmatch.names.1]

/-- Logs with one key have one label. -/
theorem label_of_keyOf {e' : SourceEvent} {c' : ReceivableClaim} {providerId' : ProviderId}
    (hmatch : c.Matches w (w.logOf self e)) (hmatch' : c'.Matches w (w.logOf self e'))
    (hseq : e.seqOrRev < wordSize 256) (hseq' : e'.seqOrRev < wordSize 256)
    (h : keyOf w providerId (w.logOf self e) c = .ok k)
    (h' : keyOf w providerId' (w.logOf self e') c' = .ok k) :
    providerId = providerId' ∧ e.label = e'.label := by
  have hk := (keyOf_ok hmatch hseq h).symm.trans (keyOf_ok hmatch' hseq' h')
  simp only [EconomicId.derived.injEq, EconomicEventId.mk.injEq] at hk
  obtain ⟨hprovider, haccount, hkind, htopic, hnumber⟩ := hk
  have href : ∀ {e : SourceEvent} {c : ReceivableClaim}, c.Matches w (w.logOf self e) →
      e.topic2 = if e.topic.kind = .checkpoint then none else some c.topic2 := by
    intro e c hmatch
    have hnames := hmatch.names.2
    cases e <;> simp_all [SourceEvent.topic, Topic.kind, SourceEvent.topic2]
  refine ⟨hprovider, ?_⟩
  show (e.accountKey, e.topic.kind, e.topic2, e.seqOrRev) =
    (e'.accountKey, e'.topic.kind, e'.topic2, e'.seqOrRev)
  rw [href hmatch, href hmatch', haccount, hkind, htopic, hnumber]

/-- The data of a recognition decodes, in either form. -/
theorem recognition_decodes {issuer payer payee : Address} {ref : Bytes32}
    {amount dueAt revision : Nat} {a a' : AccountKey} {t2 t3 : Bytes32}
    (hamount : amount < wordSize 256) (hdueAt : dueAt < wordSize 64)
    (hrevision : revision < wordSize 32)
    (he : e = .obligationRecognized a ref issuer payer payee amount dueAt revision ∨
      ∃ token, e = .obligationRecognizedV2 a ref issuer payer payee token amount dueAt revision) :
    ∃ e', decodeEvent a' t2 t3 (Abi.encode e.words) (SourceEvent.layout e) = some e' := by
  have haddress : ∀ {i : Nat} {p : Address}, e.words[i]? = some p.toWord →
      ∃ q, Abi.address (Abi.encode e.words) i = some q :=
    fun hi => Option.isSome_iff_exists.mp (Abi.address_encode hi)
  have hnumber : ∀ {i x : Nat} (bits : Nat), e.words[i]? = some x → x < wordSize bits →
      bits ≤ 256 → Abi.uint (Abi.encode e.words) i bits = some x :=
    fun bits hi hx hbits => Abi.uint_encode hi hx hbits
  rcases he with rfl | ⟨token, rfl⟩
  · obtain ⟨p₀, h₀⟩ := haddress (i := 0) rfl
    obtain ⟨p₁, h₁⟩ := haddress (i := 1) rfl
    have h₂ := hnumber (i := 2) 256 rfl hamount (by decide)
    have h₃ := hnumber (i := 3) 64 rfl hdueAt (by decide)
    have h₄ := hnumber (i := 4) 32 rfl hrevision (by decide)
    simp [SourceEvent.layout, SourceEvent.topic, decodeEvent, h₀, h₁, h₂, h₃, h₄]
  · obtain ⟨p₀, h₀⟩ := haddress (i := 0) rfl
    obtain ⟨p₁, h₁⟩ := haddress (i := 1) rfl
    obtain ⟨p₂, h₂⟩ := haddress (i := 2) rfl
    have h₃ := hnumber (i := 3) 256 rfl hamount (by decide)
    have h₄ := hnumber (i := 4) 64 rfl hdueAt (by decide)
    have h₅ := hnumber (i := 5) 32 rfl hrevision (by decide)
    simp [SourceEvent.layout, SourceEvent.topic, decodeEvent, h₀, h₁, h₂, h₃, h₄, h₅]

/-- The key of a log whose data decodes. -/
theorem keyOf_of_decodes (hmatch : c.Matches w (w.logOf self e)) (hseq : e.seqOrRev < wordSize 256)
    (h : ∃ e', decodeEvent c.accountKey c.topic2 c.topic3 (Abi.encode e.words)
      (SourceEvent.layout e) = some e') :
    keyOf w providerId (w.logOf self e) c =
      .ok (.derived ⟨providerId, e.accountKey, e.topic.kind, c.topic2, e.seqOrRev⟩) := by
  obtain ⟨e', hdecode⟩ := h
  obtain ⟨-, hdata⟩ := matches_logOf.mp hmatch
  have hkey : ∃ k, keyOf w providerId (w.logOf self e) c = .ok k := by
    rw [keyOf_logOf]
    unfold economicKey
    rw [hdata, shape_of_length (Abi.length_encode e.words), hdecode]
    exact ⟨_, rfl⟩
  obtain ⟨k, hk⟩ := hkey
  rw [hk, keyOf_ok hmatch hseq hk]

end Keys

end Native

/-! ### What the escrow keeps of a log -/

/-- The numbers of a log are of their types, and a recognition is the first revision. -/
def SourceEvent.Fits : SourceEvent → Prop
  | .obligationRecognized _ _ _ _ _ amount dueAt revision =>
    amount < wordSize 256 ∧ dueAt < wordSize 64 ∧ revision = 1
  | .obligationRecognizedV2 _ _ _ _ _ _ amount dueAt revision =>
    amount < wordSize 256 ∧ dueAt < wordSize 64 ∧ revision = 1
  | .obligationAssigned _ _ _ revision => revision < wordSize 32
  | .obligationCorrected _ _ _ revision _ => revision < wordSize 32
  | _ => True

namespace SourceEscrow

/-- Nothing that the escrow has counted or entered is undone. -/
structure Advances (e e' : SourceEscrow) : Prop where
  self : e'.self = e.self
  entered : ∀ a ref, (e.obligations a ref).status ≠ .none →
    (e'.obligations a ref).status ≠ .none ∧
      (e.obligations a ref).revision ≤ (e'.obligations a ref).revision
  settlementSeq : e.settlementSeq ≤ e'.settlementSeq
  cancelled : ∀ seq ≤ e.settlementSeq, (e.payouts seq).cancelled = true →
    (e'.payouts seq).cancelled = true
  checkpointSeq : ∀ a, e.checkpointSeq a ≤ e'.checkpointSeq a

/-- The label is that of a fact that the escrow can have stated, as far as the state shows. -/
def Used (e : SourceEscrow) : AccountKey × Kind × Option Bytes32 × Nat → Prop
  | (a, .recognized, some ref, _) => (e.obligations a ref).status ≠ .none
  | (a, .assigned, some ref, revision) =>
    (e.obligations a ref).status ≠ .none ∧ revision ≤ (e.obligations a ref).revision
  | (a, .corrected, some ref, revision) =>
    (e.obligations a ref).status ≠ .none ∧ revision ≤ (e.obligations a ref).revision
  | (_, .payout, _, seq) => seq ≤ e.settlementSeq
  | (_, .payoutCancelled, _, seq) => seq ≤ e.settlementSeq ∧ (e.payouts seq).cancelled = true
  | (a, .checkpoint, _, seq) => seq ≤ e.checkpointSeq a
  | _ => False

/-- What was emitted is used up, and its numbers are of their types. -/
def Behind (e : SourceEscrow) (x : SourceEvent) : Prop := e.Used x.label ∧ x.Fits

/-- The sequence numbers are of their type, and no payout is ahead of its number. -/
structure Counted (e : SourceEscrow) : Prop where
  settlementSeq : e.settlementSeq < wordSize 64
  checkpointSeq : ∀ a, e.checkpointSeq a < wordSize 64
  vacant : ∀ seq, e.settlementSeq < seq → (e.payouts seq).payer = 0

section Escrow

variable {m : SourceMsg} {e e' : SourceEscrow} {c : SourceCall} {events : List SourceEvent}
  {x y : SourceEvent}

/-- A label that is used up stays so. -/
theorem Used.mono {l : AccountKey × Kind × Option Bytes32 × Nat} (h : e.Used l)
    (hadv : e.Advances e') : e'.Used l := by
  obtain ⟨a, kind, ref, n⟩ := l
  have hentered : ∀ {ref : Bytes32}, (e.obligations a ref).status ≠ .none ∧
      n ≤ (e.obligations a ref).revision → (e'.obligations a ref).status ≠ .none ∧
        n ≤ (e'.obligations a ref).revision := by
    intro ref hused
    obtain ⟨hstatus, hle⟩ := hadv.entered a ref hused.1
    exact ⟨hstatus, Nat.le_trans hused.2 hle⟩
  cases kind with
  | recognized =>
    cases ref with
    | none => exact h.elim
    | some ref => exact (hadv.entered a ref h).1
  | assigned | corrected =>
    cases ref with
    | none => exact h.elim
    | some ref => exact hentered h
  | payout => exact Nat.le_trans h hadv.settlementSeq
  | payoutCancelled =>
    exact ⟨Nat.le_trans h.1 hadv.settlementSeq, hadv.cancelled _ h.1 h.2⟩
  | checkpoint => exact Nat.le_trans h (hadv.checkpointSeq a)

/-- What was emitted stays behind. -/
theorem Behind.mono (h : e.Behind x) (hadv : e.Advances e') : e'.Behind x :=
  ⟨h.1.mono hadv, h.2⟩

/-- The number of a log that was emitted is a word. -/
theorem Behind.seqOrRev_lt (h : e.Behind x) (hcounted : e.Counted) : x.seqOrRev < wordSize 256 := by
  have hseq := lt_word_of_lt hcounted.settlementSeq (by decide)
  have hcheckpoint := fun a => lt_word_of_lt (hcounted.checkpointSeq a) (by decide)
  obtain ⟨hused, hfits⟩ := h
  cases x with
  | obligationRecognized | obligationRecognizedV2 =>
    obtain ⟨-, -, hone⟩ := hfits
    have hword : 1 < wordSize 256 := lt_word_of_lt (n := 32) (by decide) (by decide)
    exact hone ▸ hword
  | obligationAssigned | obligationCorrected => exact lt_word_of_lt hfits (by decide)
  | payoutReceived => exact Nat.lt_of_le_of_lt hused hseq
  | payoutCancelled => exact Nat.lt_of_le_of_lt hused.1 hseq
  | sourceCheckpoint a | sourceCheckpointV2 a => exact Nat.lt_of_le_of_lt hused (hcheckpoint a)

/-- One obligation moved on. -/
theorem Advances.moved {a : AccountKey} {ref : Bytes32} {o : Obligation} {openAmount : Nat}
    (hstatus : (e.obligations a ref).status ≠ .none → o.status ≠ .none ∧
      (e.obligations a ref).revision ≤ o.revision) :
    e.Advances (e.moved a ref o openAmount) where
  self := rfl
  entered := by
    intro a' ref' hentered
    show (set2 e.obligations a ref o a' ref').status ≠ _ ∧
      _ ≤ (set2 e.obligations a ref o a' ref').revision
    rw [set2_apply]
    split
    · rename_i hsame
      obtain ⟨rfl, rfl⟩ := hsame
      exact hstatus hentered
    · exact ⟨hentered, Nat.le_refl _⟩
  settlementSeq := Nat.le_refl _
  cancelled := fun _ _ h => h
  checkpointSeq := fun _ => Nat.le_refl _

theorem Advances.trans {e'' : SourceEscrow} (h : e.Advances e') (h' : e'.Advances e'') :
    e.Advances e'' where
  self := h'.self.trans h.self
  entered := by
    intro a ref hstatus
    obtain ⟨hstatus', hle⟩ := h.entered a ref hstatus
    obtain ⟨hstatus'', hle'⟩ := h'.entered a ref hstatus'
    exact ⟨hstatus'', Nat.le_trans hle hle'⟩
  settlementSeq := Nat.le_trans h.settlementSeq h'.settlementSeq
  cancelled := by
    intro seq hle hcancelled
    exact h'.cancelled seq (Nat.le_trans hle h.settlementSeq) (h.cancelled seq hle hcancelled)
  checkpointSeq := fun a => Nat.le_trans (h.checkpointSeq a) (h'.checkpointSeq a)

theorem Advances.payoutAdded (p : Payout) (settlementId : Bytes32) :
    e.Advances (e.payoutAdded p settlementId) where
  self := rfl
  entered := fun _ _ h => ⟨h, Nat.le_refl _⟩
  settlementSeq := Nat.le_succ _
  cancelled := by
    intro seq hle hcancelled
    -- The new payout has the next number.
    show ((Function.update e.payouts (e.settlementSeq + 1) p) seq).cancelled = true
    rwa [Function.update_of_ne (by omega)]
  checkpointSeq := fun _ => Nat.le_refl _

theorem Advances.payoutDropped (seq : Nat) : e.Advances (e.payoutDropped seq) where
  self := rfl
  entered := fun _ _ h => ⟨h, Nat.le_refl _⟩
  settlementSeq := Nat.le_refl _
  cancelled := by
    intro seq' _ hcancelled
    show ((Function.update e.payouts seq { e.payouts seq with cancelled := true }) seq').cancelled =
      true
    by_cases heq : seq' = seq
    · rw [heq, Function.update_self]
    · rwa [Function.update_of_ne heq]
  checkpointSeq := fun _ => Nat.le_refl _

theorem le_bumped (f : AccountKey → Nat) (a a' : AccountKey) :
    f a' ≤ Function.update f a (f a + 1) a' := by
  by_cases heq : a' = a
  · subst heq
    simp
  · simp [heq]

/-- No transaction goes back behind what was counted and entered. -/
theorem effect_advances (h : SourceEffect m e c events e') : e.Advances e' := by
  cases h with
  | quiet hc hquiet =>
    obtain ⟨hself, hobligations, -, -, hcheckpoint, -, hpayouts, hseq⟩ := hquiet
    constructor <;> simp [hself, hobligations, hcheckpoint, hpayouts, hseq]
  | recognized a ref payer token amount dueAt hfree hrev hzero hword hnone =>
    have hmoved : ∀ o : Obligation, e.Advances (e.moved a ref o (e.openAmount a + amount)) :=
      fun o => Advances.moved fun hstatus => absurd hnone hstatus
    obtain ⟨hself, hentered, hseq, hcancelled, hcheckpoint⟩ := hmoved _
    exact ⟨hself, hentered, hseq, hcancelled, hcheckpoint⟩
  | assigned a ref facilityKey hfree hrev hopen hkey hword =>
    exact Advances.moved fun hstatus => ⟨hstatus, Nat.le_succ _⟩
  | corrected a ref delta reason o' openAmount' hfree hrev hcorrects =>
    refine Advances.moved fun hstatus => ?_
    rw [hcorrects.result]
    refine ⟨?_, Nat.le_succ _⟩
    show (if reason = .cancel then ObligationStatus.cancelled else _) ≠ _
    split
    · decide
    · exact hstatus
  | published a hseq =>
    exact ⟨rfl, fun _ _ h => ⟨h, Nat.le_refl _⟩, Nat.le_refl _, fun _ _ h => h,
      le_bumped e.checkpointSeq a⟩
  | reserved a until_ hfree hlate hwindow hseq =>
    exact ⟨rfl, fun _ _ h => ⟨h, Nat.le_refl _⟩, Nat.le_refl _, fun _ _ h => h,
      le_bumped e.checkpointSeq a⟩
  | settled a ref token amount measured settlementId o' hexact hfree hrev hzero hpaid href
      hsettles =>
    have hmoved : e.Advances (e.moved a ref o' (e.openAmount a - measured)) := by
      refine Advances.moved fun hstatus => ?_
      rw [hsettles.result]
      refine ⟨?_, Nat.le_succ _⟩
      show (if _ then ObligationStatus.paid else _) ≠ _
      split
      · decide
      · exact hstatus
    exact hmoved.trans (.payoutAdded _ _)
  | settledUnnamed => exact .payoutAdded _ _
  | unsettled seq o' htracked hfree hrev hpayer hcancelled href hunsettles =>
    refine (Advances.moved fun hstatus => ?_).trans (.payoutDropped seq)
    rw [hunsettles.result]
    refine ⟨?_, Nat.le_succ _⟩
    show (if _ then ObligationStatus.open_ else _) ≠ _
    split
    · decide
    · exact hstatus
  | unsettledUnnamed seq => exact .payoutDropped seq

/-- A settlement takes a number of its type. -/
theorem settle_seq_lt {a : AccountKey} {ref : Bytes32} {token : Address} {amount : Nat}
    {settlementId : Bytes32} {pulled : Option Nat}
    (h : e.call m (.settle a ref token amount settlementId pulled) = .ok (events, e')) :
    e.settlementSeq + 1 < wordSize 64 := by
  simp only [call, settle, requireUnreserved, bind_eq_ok, revertIf_eq_ok, exists_const] at h
  obtain ⟨-, -, -, -, -, -, h⟩ := h
  cases pulled with
  | none => cases h
  | some measured =>
    simp only [bind_eq_ok, revertIf_eq_ok, addW_eq_ok, pure_eq_ok, exists_const] at h
    obtain ⟨-, -, e₁, hsettle, _, -, _, -, _, ⟨hseq, -⟩, -⟩ := h
    -- A settlement of an obligation takes no number.
    have hframe : e₁.settlementSeq = e.settlementSeq := by
      obtain ⟨-, rfl⟩ | ⟨-, -, o', -, rfl⟩ := settleObligation_ok hsettle
      · rfl
      · rfl
    rwa [hframe] at hseq

theorem Counted.moved {a : AccountKey} {ref : Bytes32} {o : Obligation} {openAmount : Nat}
    (h : e.Counted) : (e.moved a ref o openAmount).Counted :=
  ⟨h.settlementSeq, h.checkpointSeq, h.vacant⟩

theorem Counted.payoutAdded {p : Payout} {settlementId : Bytes32} (h : e.Counted)
    (hseq : e.settlementSeq + 1 < wordSize 64) : (e.payoutAdded p settlementId).Counted where
  settlementSeq := hseq
  checkpointSeq := h.checkpointSeq
  vacant := by
    intro seq hlt
    have hlt : e.settlementSeq + 1 < seq := hlt
    show ((Function.update e.payouts (e.settlementSeq + 1) p) seq).payer = 0
    rw [Function.update_of_ne (by omega)]
    exact h.vacant seq (by omega)

theorem Counted.payoutDropped (h : e.Counted) (seq : Nat) : (e.payoutDropped seq).Counted where
  settlementSeq := h.settlementSeq
  checkpointSeq := h.checkpointSeq
  vacant := by
    intro seq' hlt
    show ((Function.update e.payouts seq { e.payouts seq with cancelled := true }) seq').payer = 0
    by_cases heq : seq' = seq
    · rw [heq, Function.update_self]
      exact h.vacant seq (heq ▸ hlt)
    · rw [Function.update_of_ne heq]
      exact h.vacant seq' hlt

theorem Counted.checkpoint {a : AccountKey} (h : e.Counted)
    (hseq : e.checkpointSeq a + 1 < wordSize 64) (a' : AccountKey) :
    Function.update e.checkpointSeq a (e.checkpointSeq a + 1) a' < wordSize 64 := by
  by_cases heq : a' = a
  · rw [heq, Function.update_self]
    exact hseq
  · rw [Function.update_of_ne heq]
    exact h.checkpointSeq a'

theorem Counted.call (h : e.Counted) (hcall : e.call m c = .ok (events, e')) : e'.Counted := by
  cases call_effect hcall with
  | quiet hc hquiet =>
    constructor
    · rw [hquiet.settlementSeq]
      exact h.settlementSeq
    · rw [hquiet.checkpointSeq]
      exact h.checkpointSeq
    · rw [hquiet.settlementSeq, hquiet.payouts]
      exact h.vacant
  | recognized => exact ⟨h.settlementSeq, h.checkpointSeq, h.vacant⟩
  | assigned | corrected => exact h.moved
  | published a hseq => exact ⟨h.settlementSeq, h.checkpoint hseq, h.vacant⟩
  | reserved a until_ hfree hlate hwindow hseq =>
    exact ⟨h.settlementSeq, h.checkpoint hseq, h.vacant⟩
  | settled =>
    have hseq := settle_seq_lt hcall
    exact h.moved.payoutAdded hseq
  | settledUnnamed =>
    have hseq := settle_seq_lt hcall
    exact h.payoutAdded hseq
  | unsettled seq => exact h.moved.payoutDropped seq
  | unsettledUnnamed seq => exact h.payoutDropped seq

/-- What a transaction emits is used up after it. -/
theorem effect_used (h : SourceEffect m e c events e')
    (hvacant : ∀ seq, e.settlementSeq < seq → (e.payouts seq).payer = 0) :
    ∀ x ∈ events, e'.Used x.label := by
  -- A payout that is there has a number that was taken.
  have htaken : ∀ {seq : Nat}, (e.payouts seq).payer ≠ 0 → seq ≤ e.settlementSeq := by
    intro seq hpayer
    by_contra hlt
    exact hpayer (hvacant seq (by omega))
  cases h with
  | quiet => exact fun x hx => nomatch hx
  | recognized a ref payer token amount dueAt =>
    have hentered : ∀ o : Obligation, o.status = .open_ →
        (set2 e.obligations a ref o a ref).status ≠ .none := by
      intro o ho
      rw [set2_self, ho]
      decide
    intro x hx
    simp only [List.mem_cons, List.not_mem_nil, or_false] at hx
    rcases hx with rfl | rfl
    · exact hentered _ rfl
    · exact hentered _ rfl
  | assigned a ref facilityKey hfree hrev hopen =>
    intro x hx
    obtain rfl := List.mem_singleton.mp hx
    show (set2 e.obligations a ref _ a ref).status ≠ _ ∧
      _ ≤ (set2 e.obligations a ref _ a ref).revision
    rw [set2_self]
    refine ⟨?_, Nat.le_refl _⟩
    show (e.obligations a ref).status ≠ .none
    rw [hopen]
    decide
  | corrected a ref delta reason o' openAmount' hfree hrev hcorrects =>
    intro x hx
    obtain rfl := List.mem_singleton.mp hx
    show (set2 e.obligations a ref o' a ref).status ≠ _ ∧
      _ ≤ (set2 e.obligations a ref o' a ref).revision
    rw [set2_self, hcorrects.result, hcorrects.opened]
    refine ⟨?_, Nat.le_refl _⟩
    show (if reason = .cancel then ObligationStatus.cancelled else _) ≠ _
    split
    · decide
    · decide
  | published a | reserved a =>
    intro x hx
    obtain rfl := List.mem_singleton.mp hx
    show _ ≤ Function.update e.checkpointSeq a (e.checkpointSeq a + 1) a
    rw [Function.update_self]
    exact Nat.le_refl _
  | settled | settledUnnamed =>
    intro x hx
    obtain rfl := List.mem_singleton.mp hx
    exact Nat.le_refl _
  | unsettled seq o' htracked hfree hrev hpayer | unsettledUnnamed seq htracked hfree hpayer =>
    intro x hx
    obtain rfl := List.mem_singleton.mp hx
    refine ⟨htaken hpayer, ?_⟩
    show ((Function.update e.payouts seq { e.payouts seq with cancelled := true }) seq).cancelled =
      true
    rw [Function.update_self]

/-- The numbers of what a transaction emits are of their types. -/
theorem effect_fits (h : SourceEffect m e c events e') (htyped : c.Typed) :
    ∀ x ∈ events, x.Fits := by
  intro x hx
  cases h with
  | quiet => cases hx
  | recognized =>
    simp only [List.mem_cons, List.not_mem_nil, or_false] at hx
    rcases hx with rfl | rfl
    · exact ⟨htyped.1, htyped.2, rfl⟩
    · exact ⟨htyped.1, htyped.2, rfl⟩
  | assigned a ref facilityKey hfree hrev hopen hkey hword =>
    obtain rfl := List.mem_singleton.mp hx
    exact hword
  | corrected a ref delta reason o' openAmount' hfree hrev hcorrects =>
    obtain rfl := List.mem_singleton.mp hx
    exact hcorrects.counter
  | published | reserved | settled | settledUnnamed | unsettled | unsettledUnnamed =>
    obtain rfl := List.mem_singleton.mp hx
    trivial

/-- What a transaction emits is behind the state after it. -/
theorem effect_behind (h : SourceEffect m e c events e') (hcounted : e.Counted)
    (htyped : c.Typed) : ∀ x ∈ events, e'.Behind x :=
  fun x hx => ⟨effect_used h hcounted.vacant x hx, effect_fits h htyped x hx⟩

/-- What a transaction emits was not used up before it. -/
theorem effect_unused (h : SourceEffect m e c events e') : ∀ x ∈ events, ¬e.Used x.label := by
  cases h with
  | quiet => exact fun x hx => nomatch hx
  | recognized a ref payer token amount dueAt hfree hrev hzero hword hnone =>
    intro x hx
    simp only [List.mem_cons, List.not_mem_nil, or_false] at hx
    rcases hx with rfl | rfl
    · exact fun hused => hused hnone
    · exact fun hused => hused hnone
  | assigned | corrected =>
    intro x hx hused
    obtain rfl := List.mem_singleton.mp hx
    exact Nat.not_succ_le_self _ hused.2
  | published | reserved | settled | settledUnnamed =>
    intro x hx hused
    obtain rfl := List.mem_singleton.mp hx
    exact Nat.not_succ_le_self _ hused
  | unsettled seq o' htracked hfree hrev hpayer hcancelled
  | unsettledUnnamed seq htracked hfree hpayer hcancelled =>
    intro x hx hused
    obtain rfl := List.mem_singleton.mp hx
    have hset : (e.payouts seq).cancelled = true := hused.2
    rw [hcancelled] at hset
    cases hset

/-- Only a recognition emits two logs, and they are its two forms. -/
theorem effect_pair (h : SourceEffect m e c events e') :
    events.Pairwise fun x y => x.label = y.label → Native.SameRecognition x y := by
  cases h with
  | quiet => exact .nil
  | recognized a ref payer token amount dueAt =>
    refine .cons ?_ (List.pairwise_singleton _ _)
    intro y hy _
    obtain rfl := List.mem_singleton.mp hy
    exact .first a ref m.sender payer e.self token amount dueAt 1
  | _ => exact List.pairwise_singleton _ _

end Escrow

end SourceEscrow

namespace Native

/-! ### Runs -/

theorem SameRecognition.symm {x y : SourceEvent} (h : SameRecognition x y) :
    SameRecognition y x := by
  cases h with
  | first => exact .second ..
  | second => exact .first ..

/-- What a run keeps: the logs are behind the escrow, no two of them have one label unless they are
the forms of one recognition, and the evidence book has seen the keys of what was booked, each once.
-/
structure EscrowBooking.Kept (w : Wiring) (s : EscrowBooking) : Prop where
  counted : s.escrow.Counted
  behind : ∀ x ∈ s.logs, s.escrow.Behind x
  apart : s.logs.Pairwise fun x y => x.label = y.label → SameRecognition x y
  booked : ∀ b ∈ s.booked, ∃ e c, s.logs[b.log]? = some e ∧
    c.Matches w (w.logOf s.escrow.self e) ∧
    keyOf w b.providerId (w.logOf s.escrow.self e) c = .ok b.key
  keys : (s.booked.map Booked.key).Nodup
  seen : ∀ k, s.evidence.economicSeen k = true ↔ ∃ b ∈ s.booked, b.key = k

section Run

variable {w : Wiring} {s s' : EscrowBooking}

theorem EscrowBooking.initial_kept (self owner : Address) :
    (EscrowBooking.initial self owner).Kept w where
  counted :=
    { settlementSeq := Nat.two_pow_pos 64
      checkpointSeq := fun _ => Nat.two_pow_pos 64
      vacant := fun _ _ => rfl }
  behind := fun _ hx => nomatch hx
  apart := .nil
  booked := fun _ hb => nomatch hb
  keys := .nil
  seen := by
    intro k
    constructor
    · exact fun hseen => nomatch hseen
    · rintro ⟨b, hb, -⟩
      exact nomatch hb

/-- The book consumes a log under the key that was derived, which it had not seen. -/
theorem consumeLog_ok {reg : ProviderRegistry} {now : Nat} {v : Verifier}
    {height txIndex ordinal : Nat} {log : LogEntry} {c : ReceivableClaim} {ev ev' : EvidenceBook}
    {r : EvidenceRecord}
    (h : consumeLog w reg now v height txIndex ordinal log c ev = .ok (r, ev')) :
    keyOf w v.providerId log c = .ok r.economicEventId ∧
      ev.economicSeen r.economicEventId = false ∧
      ev'.economicSeen = Function.update ev.economicSeen r.economicEventId true := by
  unfold consumeLog at h
  obtain ⟨ins, hins, h⟩ := bind_eq_ok.mp h
  obtain ⟨rfl, -, hseen, -, -, -, -, hkey, -, -⟩ := EvidenceBook.consumeOne_ok h
  refine ⟨?_, hseen, rfl⟩
  unfold keyOf
  rw [hins, hkey]
  rfl

/-- What a call that returned has done. -/
inductive BookingEffect (w : Wiring) (s : EscrowBooking) : BookingCall → EscrowBooking → Prop
  | emit {tx : SourceTx} {events : List SourceEvent} {escrow : SourceEscrow} :
      tx.2.Typed → s.escrow.call tx.1 tx.2 = .ok (events, escrow) →
      BookingEffect w s (.emit tx) { s with
        escrow := escrow
        logs := s.logs ++ events }
  | consume {reg : ProviderRegistry} {now : Nat} {v : Verifier} {height txIndex ordinal log : Nat}
      {c : ReceivableClaim} {e : SourceEvent} {r : EvidenceRecord} {ev : EvidenceBook} :
      s.logs[log]? = some e → c.Matches w (w.logOf s.escrow.self e) →
      consumeLog w reg now v height txIndex ordinal (w.logOf s.escrow.self e) c s.evidence =
        .ok (r, ev) →
      BookingEffect w s (.consume reg now v height txIndex ordinal log c) { s with
        evidence := ev
        booked := s.booked ++ [⟨v.providerId, log, r.economicEventId⟩] }

theorem BookingStep.effect {a : BookingCall} (h : BookingStep w s a s') :
    BookingEffect w s a s' := by
  cases a with
  | emit tx =>
    obtain ⟨_, htyped, h⟩ := Option.bind_eq_some_iff.mp h
    obtain ⟨⟨events, escrow⟩, hcall, h⟩ := Option.bind_eq_some_iff.mp h
    cases h
    exact .emit ((Option.guard_eq_some' _).mp htyped) (toOption_eq_some.mp hcall)
  | consume reg now v height txIndex ordinal log c =>
    obtain ⟨e, hlog, h⟩ := Option.bind_eq_some_iff.mp h
    obtain ⟨_, hmatch, h⟩ := Option.bind_eq_some_iff.mp h
    obtain ⟨⟨r, ev⟩, hconsume, h⟩ := Option.bind_eq_some_iff.mp h
    cases h
    exact .consume hlog ((Option.guard_eq_some' _).mp hmatch) (toOption_eq_some.mp hconsume)

theorem BookingStep.kept {a : BookingCall} (hs : s.Kept w) (h : BookingStep w s a s') :
    s'.Kept w := by
  cases h.effect with
  | @emit tx events escrow htyped hcall =>
    have heffect := SourceEscrow.call_effect hcall
    have hadv := SourceEscrow.effect_advances heffect
    constructor
    · exact hs.counted.call hcall
    · intro x hx
      cases List.mem_append.mp hx with
      | inl hx => exact (hs.behind x hx).mono hadv
      | inr hx => exact SourceEscrow.effect_behind heffect hs.counted htyped x hx
    · refine List.pairwise_append.mpr ⟨hs.apart, SourceEscrow.effect_pair heffect, ?_⟩
      intro x hx y hy hlabel
      exact absurd (hlabel ▸ (hs.behind x hx).1) (SourceEscrow.effect_unused heffect y hy)
    · intro b hb
      obtain ⟨e, c, hlog, hmatch, hkey⟩ := hs.booked b hb
      refine ⟨e, c, ?_, ?_, ?_⟩
      · show (s.logs ++ events)[b.log]? = some e
        obtain ⟨hlt, -⟩ := List.getElem?_eq_some_iff.mp hlog
        rwa [List.getElem?_append_left hlt]
      · show c.Matches w (w.logOf escrow.self e)
        rwa [hadv.self]
      · show keyOf w b.providerId (w.logOf escrow.self e) c = .ok b.key
        rwa [hadv.self]
    · exact hs.keys
    · exact hs.seen
  | @consume reg now v height txIndex ordinal log c e r ev hlog hmatch hconsume =>
    obtain ⟨hkey, hunseen, hseen⟩ := consumeLog_ok hconsume
    constructor
    · exact hs.counted
    · exact hs.behind
    · exact hs.apart
    · intro b hb
      cases List.mem_append.mp hb with
      | inl hb => exact hs.booked b hb
      | inr hb =>
        obtain rfl := List.mem_singleton.mp hb
        exact ⟨e, c, hlog, hmatch, hkey⟩
    · show ((s.booked ++ [_]).map Booked.key).Nodup
      rw [List.map_append, List.nodup_append]
      refine ⟨hs.keys, List.nodup_singleton _, ?_⟩
      intro k hk k' hk' heq
      obtain rfl := List.mem_singleton.mp hk'
      subst heq
      obtain ⟨b, hb, hbk⟩ := List.mem_map.mp hk
      have htrue := (hs.seen _).mpr ⟨b, hb, hbk⟩
      rw [hunseen] at htrue
      cases htrue
    · intro k
      show ev.economicSeen k = true ↔ ∃ b ∈ s.booked ++ [_], b.key = k
      rw [hseen]
      by_cases hk : k = r.economicEventId
      · subst hk
        simp
      · rw [Function.update_of_ne hk, hs.seen k]
        simp [Ne.symm hk]

theorem BookingReachable.kept (h : BookingReachable w s) : s.Kept w := by
  obtain ⟨s₀, as, ⟨self, owner, rfl⟩, hrun⟩ := h
  exact hrun.invariant (fun s a s' hs hstep => hstep.kept hs)
    (EscrowBooking.initial_kept self owner)

/-- Two logs of a run with one label are the forms of one recognition. -/
theorem EscrowBooking.Kept.same {i j : Nat} {x y : SourceEvent} (hs : s.Kept w) (hij : i ≠ j)
    (hx : s.logs[i]? = some x) (hy : s.logs[j]? = some y) (hlabel : x.label = y.label) :
    SameRecognition x y := by
  obtain ⟨hi, rfl⟩ := List.getElem?_eq_some_iff.mp hx
  obtain ⟨hj, rfl⟩ := List.getElem?_eq_some_iff.mp hy
  have hpairs := List.pairwise_iff_getElem.mp hs.apart
  cases Nat.lt_or_gt_of_ne hij with
  | inl hlt => exact hpairs i j hi hj hlt hlabel
  | inr hlt => exact (hpairs j i hj hi hlt hlabel.symm).symm

/-- The forms of one recognition get one key. -/
theorem SameRecognition.keyOf {self : Address} {x y : SourceEvent} {c₁ c₂ : ReceivableClaim}
    (h : SameRecognition x y) (providerId : ProviderId) (hx : x.Fits) (hy : y.Fits)
    (h₁ : c₁.Matches w (w.logOf self x)) (h₂ : c₂.Matches w (w.logOf self y)) :
    ∃ k, keyOf w providerId (w.logOf self x) c₁ = .ok k ∧
      keyOf w providerId (w.logOf self y) c₂ = .ok k := by
  have hword : 1 < wordSize 256 := lt_word_of_lt (n := 32) (by decide) (by decide)
  cases h with
  | first a ref issuer payer payee token amount dueAt revision =>
    obtain ⟨hamount, hdueAt, rfl⟩ := hx
    refine ⟨_, keyOf_of_decodes h₁ hword
      (recognition_decodes hamount hdueAt (by decide) (.inl rfl)), ?_⟩
    rw [keyOf_of_decodes h₂ hword
      (recognition_decodes hamount hdueAt (by decide) (.inr ⟨token, rfl⟩)),
      h₁.names.2 ref rfl, h₂.names.2 ref rfl]
    rfl
  | second a ref issuer payer payee token amount dueAt revision =>
    obtain ⟨hamount, hdueAt, rfl⟩ := hx
    refine ⟨_, keyOf_of_decodes h₁ hword
      (recognition_decodes hamount hdueAt (by decide) (.inr ⟨token, rfl⟩)), ?_⟩
    rw [keyOf_of_decodes h₂ hword (recognition_decodes hamount hdueAt (by decide) (.inl rfl)),
      h₁.names.2 ref rfl, h₂.names.2 ref rfl]
    rfl

/-- What is refused as recorded has a key that the book has seen. -/
theorem consumeLog_refused {reg : ProviderRegistry} {now : Nat} {v : Verifier}
    {height txIndex ordinal : Nat} {log : LogEntry} {c : ReceivableClaim} {ev : EvidenceBook}
    (h : consumeLog w reg now v height txIndex ordinal log c ev =
      .error .economicEventAlreadyRecorded) :
    ∃ k, keyOf w v.providerId log c = .ok k ∧ ev.economicSeen k = true := by
  have herrors : ErrorsIn (fun err => err = .economicEventAlreadyRecorded →
      ∃ k, keyOf w v.providerId log c = .ok k ∧ ev.economicSeen k = true)
      (consumeLog w reg now v height txIndex ordinal log c ev) := by
    unfold consumeLog
    refine ErrorsIn.bind ?_ fun ins hins => ?_
    · -- The derivation of the instruction has other errors.
      refine ErrorsIn.bind ?_ fun topic _ => ErrorsIn.bind ?_ fun k _ => .of_ok rfl
      · unfold Wiring.topicOf
        split
        · exact (errorsIn_error _).mpr nofun
        · exact .of_ok rfl
      · unfold economicKey
        split
        · exact (errorsIn_error _).mpr nofun
        · exact .of_ok rfl
    · have hkey : keyOf w v.providerId log c = .ok ins.economicEventId := by
        unfold keyOf
        rw [hins]
        rfl
      -- Of the guards of `_consumeOne`, only the one about the economic event has this error.
      unfold EvidenceBook.consumeOne
      refine .guard nofun fun _ => .guard nofun fun _ => .guard nofun fun _ => ?_
      refine .guard nofun fun _ => .guard nofun fun _ => .guard nofun fun _ => ?_
      refine errorsIn_guard.mpr ⟨?_, fun _ => ?_⟩
      · exact fun hseen _ => ⟨_, hkey, hseen⟩
      · refine ErrorsIn.bind ?_ fun meaning _ => .of_ok rfl
        unfold EvidenceBook.meaningOf
        split
        · exact (errorsIn_error _).mpr nofun
        · exact .of_ok rfl
  exact herrors _ h rfl

end Run

/-- The economic keys of the logs of an escrow separate its facts. In any run of one escrow, beside
an evidence book that consumes its logs, take two logs at different places, and for each a claim
that passes the check. They get one key for a provider if and only if they are the two forms of one
recognition. A log is refused as recorded only when it has been booked itself for that provider, or
it is one form of a recognition of which the other has. And no recognition is booked for a provider
in both of its forms. -/
theorem economic_keys_separate {w : Wiring} {s : EscrowBooking} (hs : BookingReachable w s)
    {i j : Nat} (hij : i ≠ j) {e₁ e₂ : SourceEvent} (h₁ : s.logs[i]? = some e₁)
    (h₂ : s.logs[j]? = some e₂) {c₁ c₂ : ReceivableClaim}
    (hc₁ : c₁.Matches w (w.logOf s.escrow.self e₁))
    (hc₂ : c₂.Matches w (w.logOf s.escrow.self e₂)) (providerId : ProviderId) :
    ((∃ k, keyOf w providerId (w.logOf s.escrow.self e₁) c₁ = .ok k ∧
        keyOf w providerId (w.logOf s.escrow.self e₂) c₂ = .ok k) ↔ SameRecognition e₁ e₂) ∧
      (∀ reg now (v : Verifier) height txIndex ordinal,
        consumeLog w reg now v height txIndex ordinal (w.logOf s.escrow.self e₁) c₁ s.evidence =
          .error .economicEventAlreadyRecorded →
        ∃ b ∈ s.booked, b.providerId = v.providerId ∧
          (b.log = i ∨ ∃ e, s.logs[b.log]? = some e ∧ SameRecognition e₁ e)) ∧
      (SameRecognition e₁ e₂ → ¬∃ b₁ ∈ s.booked, ∃ b₂ ∈ s.booked,
        b₁.providerId = providerId ∧ b₁.log = i ∧ b₂.providerId = providerId ∧ b₂.log = j) := by
  have hkept := hs.kept
  have hlt : ∀ {x : SourceEvent}, x ∈ s.logs → x.seqOrRev < wordSize 256 :=
    fun hx => (hkept.behind _ hx).seqOrRev_lt hkept.counted
  have hm₁ := List.mem_of_getElem? h₁
  have hm₂ := List.mem_of_getElem? h₂
  refine ⟨⟨?_, ?_⟩, ?_, ?_⟩
  · rintro ⟨k, hk₁, hk₂⟩
    exact hkept.same hij h₁ h₂ (label_of_keyOf hc₁ hc₂ (hlt hm₁) (hlt hm₂) hk₁ hk₂).2
  · intro hsame
    exact hsame.keyOf providerId (hkept.behind _ hm₁).2 (hkept.behind _ hm₂).2 hc₁ hc₂
  · intro reg now v height txIndex ordinal hrefused
    obtain ⟨k, hk, hseen⟩ := consumeLog_refused hrefused
    obtain ⟨b, hb, rfl⟩ := (hkept.seen k).mp hseen
    obtain ⟨e, c, hlog, hmatch, hkey⟩ := hkept.booked b hb
    obtain ⟨hprovider, hlabel⟩ :=
      label_of_keyOf hc₁ hmatch (hlt hm₁) (hlt (List.mem_of_getElem? hlog)) hk hkey
    refine ⟨b, hb, hprovider.symm, ?_⟩
    by_cases heq : b.log = i
    · exact .inl heq
    · exact .inr ⟨e, hlog, hkept.same (Ne.symm heq) h₁ hlog hlabel⟩
  · rintro hsame ⟨b₁, hb₁, b₂, hb₂, rfl, rfl, hprovider, rfl⟩
    obtain ⟨e₁', c₁', hlog₁, hmatch₁, hkey₁⟩ := hkept.booked b₁ hb₁
    obtain ⟨e₂', c₂', hlog₂, hmatch₂, hkey₂⟩ := hkept.booked b₂ hb₂
    obtain rfl := Option.some.inj (h₁.symm.trans hlog₁)
    obtain rfl := Option.some.inj (h₂.symm.trans hlog₂)
    -- Both were booked under one key, and the book has seen each key once.
    obtain ⟨k, hk₁, hk₂⟩ := hsame.keyOf b₁.providerId (hkept.behind _ hm₁).2
      (hkept.behind _ hm₂).2 hmatch₁ hmatch₂
    rw [hprovider, hk₂] at hkey₂
    rw [hk₁] at hkey₁
    have hkeys : b₁.key = b₂.key := by
      rw [← Except.ok.inj hkey₁, ← Except.ok.inj hkey₂]
    exact hij (congrArg Booked.log (List.inj_on_of_nodup_map hkept.keys hb₁ hb₂ hkeys))

namespace Sample

/-- The escrow at 40 is set up by its owner 7, and issuer 30 recognizes 100 that payer 9 owes. Then
the first form of the recognition is booked. -/
def bookingCalls : List BookingCall :=
  [.emit (⟨7, 1⟩, .setIssuer 30 true), .emit (⟨7, 1⟩, .registerAccount 2 8),
    .emit (⟨7, 1⟩, .admitToken 21 6 false),
    .emit (⟨30, 2⟩, .recognizeObligation 2 3 9 21 100 500),
    .consume registry 10 verifier 7 3 0 0
      { logOrdinal := 0, accountKey := 2, topic2 := 3, topic3 := Address.toTopic 30,
        data := Abi.encode [9, 40, 100, 500, 1], validUntil := 100 }]

/-- The two forms that are emitted. -/
def forms : List SourceEvent :=
  [.obligationRecognized 2 3 30 9 40 100 500 1, .obligationRecognizedV2 2 3 30 9 40 21 100 500 1]

/-- The claims about the two forms. -/
def formClaim (words : List Nat) : ReceivableClaim :=
  { logOrdinal := 0, accountKey := 2, topic2 := 3, topic3 := Address.toTopic 30,
    data := Abi.encode words, validUntil := 100 }

end Sample

/-- The second form has the key of the first, which is booked, so it can never be. -/
theorem economic_keys_separate_sample :
    ∃ s, BookingReachable Sample.wiring s ∧ s.booked.length = 1 ∧
      ∃ e₁ e₂, s.logs = [e₁, e₂] ∧ SameRecognition e₁ e₂ ∧
        ∃ k, keyOf Sample.wiring 5 (Sample.wiring.logOf 40 e₁)
            (Sample.formClaim [9, 40, 100, 500, 1]) = .ok k ∧
          keyOf Sample.wiring 5 (Sample.wiring.logOf 40 e₂)
            (Sample.formClaim [9, 40, 21, 100, 500, 1]) = .ok k := by
  have hview : ((EscrowBooking.initial 40 7).run Sample.wiring Sample.bookingCalls).map
      (fun s => (s.logs, s.escrow.self, s.booked.length)) = some (Sample.forms, 40, 1) := by
    decide +kernel
  obtain ⟨s, hrun, hs⟩ := Option.map_eq_some_iff.mp hview
  obtain ⟨hlogs, hself, hbooked⟩ : s.logs = Sample.forms ∧ s.escrow.self = 40 ∧
      s.booked.length = 1 := by simpa using hs
  have hreach : BookingReachable Sample.wiring s :=
    ⟨_, _, ⟨40, 7, rfl⟩, EscrowBooking.run_steps hrun⟩
  have h₁ : s.logs[0]? = some (.obligationRecognized 2 3 30 9 40 100 500 1) := by
    rw [hlogs]
    rfl
  have h₂ : s.logs[1]? = some (.obligationRecognizedV2 2 3 30 9 40 21 100 500 1) := by
    rw [hlogs]
    rfl
  have hc₁ : (Sample.formClaim [9, 40, 100, 500, 1]).Matches Sample.wiring (Sample.wiring.logOf
      s.escrow.self (.obligationRecognized 2 3 30 9 40 100 500 1)) := by
    rw [hself]
    decide +kernel
  have hc₂ : (Sample.formClaim [9, 40, 21, 100, 500, 1]).Matches Sample.wiring (Sample.wiring.logOf
      s.escrow.self (.obligationRecognizedV2 2 3 30 9 40 21 100 500 1)) := by
    rw [hself]
    decide +kernel
  have hsame : SameRecognition (.obligationRecognized 2 3 30 9 40 100 500 1)
      (.obligationRecognizedV2 2 3 30 9 40 21 100 500 1) := .first ..
  have hkeys := (economic_keys_separate hreach (by decide) h₁ h₂ hc₁ hc₂ 5).1.mpr hsame
  rw [hself] at hkeys
  exact ⟨s, hreach, hbooked, _, _, hlogs, hsame, hkeys⟩

end Native

end Rackline
