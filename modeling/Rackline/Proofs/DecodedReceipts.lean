import Rackline.EvmV1Decoder
import Rackline.Proofs.NativeEvidence

/-!
# `Rackline.Proofs.DecodedReceipts`: what the decoder reads is what the transaction says

The library of the decoder against the bytes that a prover hands over of a transaction. Each chunk
is read back by the round trip of its codec, once its length is known to be a size, which it is as a
part of bytes that are one (`length_chunk_le`).

`decodes_transaction` is the round trip of each function of the library, over every transaction of
every type. `verified_logs_are_the_receipts` puts the library under the verifier: with a precompile
that is sound about a chain of such transactions, a call returns the logs of the emitter with the
asked topics, all of them, in receipt order, and from a receipt of success.
-/

set_option autoImplicit false

namespace Rackline.EvmV1Decoder

open AbiCodec Evm

/-! ### Sizes -/

section
variable {txType : Fin (2 ^ 8)} {chunks : List Bytes} {chunk : Bytes}

/-- The bytes of a transaction are the two heads, the number of the chunks, the offsets of the
chunks, and the chunks. -/
theorem length_transaction_encode (txType : Fin (2 ^ 8)) (chunks : List Bytes) :
    (transaction.encode (txType, chunks, ())).length =
      96 + chunks.length * 32 + (chunks.flatMap Codec.bytes.tail).length := by
  have hheads := Fields.length_elementHeads Codec.bytes chunks (chunks.length * 32)
  have hsize : Codec.bytes.headSize = 32 := rfl
  rw [hsize] at hheads
  show (bigEndian 32 txType.val ++ (bigEndian 32 64 ++ []) ++ ([] ++
    (bigEndian 32 chunks.length ++ (Fields.elementHeads Codec.bytes (chunks.length * 32) chunks ++
      Fields.elementTails Codec.bytes chunks) ++ []))).length = _
  simp only [List.length_append, List.length_nil, length_bigEndian, hheads]
  show _ + (0 + (32 + (_ + (chunks.flatMap Codec.bytes.tail).length) + 0)) = _
  omega

/-- No chunk is longer than the bytes of the transaction. -/
theorem length_chunk_le (h : chunk ∈ chunks) :
    chunk.length ≤ (transaction.encode (txType, chunks, ())).length := by
  have htail : (Codec.bytes.tail chunk).length =
      32 + (chunk.length + (Codec.padding chunk.length).length) := by
    show (bigEndian 32 chunk.length ++ (chunk ++ Codec.padding chunk.length)).length = _
    simp
  have hle := Codec.bytes.length_tail_le h
  rw [length_transaction_encode]
  omega

end

/-! ### The functions of the library -/

theorem require_of {c : Prop} [Decidable c] (h : c) (text : String) : require c text = .ok () :=
  if_pos h

theorem abiDecode_encode {α : Type} (c : Codec α) {a : α} (h : (c.encode a).length < 2 ^ 64) :
    abiDecode c (c.encode a) = .ok a := by
  unfold abiDecode
  rw [c.decode_encode a h]
  rfl

namespace SourceTransaction

variable {tx : SourceTransaction}

theorem length_chunks (tx : SourceTransaction) :
    tx.chunks.length = if tx.txType.val ≤ 2 then 3 else 4 := by
  unfold chunks
  rw [List.length_cons, List.length_append, tx.counted, middleChunks]
  split <;> rfl

theorem encode_ne_nil (tx : SourceTransaction) : tx.encode.length > 0 := by
  unfold encode
  rw [length_transaction_encode]
  omega

theorem abiDecode_transaction (h : tx.encode.length < 2 ^ 64) :
    abiDecode transaction tx.encode = .ok (tx.txType, tx.chunks, ()) :=
  abiDecode_encode transaction h

/-- The type is the last byte of the first word. -/
theorem getTransactionType_encode (tx : SourceTransaction) :
    getTransactionType tx.encode = tx.txType := by
  have hbyte : tx.encode[31]? = some (UInt8.ofNat tx.txType.val) := by
    show (bigEndian 31 (tx.txType.val / 256) ++ [UInt8.ofNat tx.txType.val] ++ _ ++ _)[31]? = _
    simp only [List.append_assoc]
    rw [List.getElem?_append_right (by simp), length_bigEndian]
    rfl
  apply Fin.ext
  unfold getTransactionType
  simp only [hbyte, Option.getD_some, UInt8.toNat_ofNat']
  exact Nat.mod_eq_of_lt tx.txType.isLt

theorem chunkAt_common (tx : SourceTransaction) :
    chunkAt tx.chunks 0 = commonTx.encode tx.common := rfl

/-- The receipt is in the last chunk, which the type tells the index of. -/
theorem chunkAt_receipt (tx : SourceTransaction) :
    chunkAt tx.chunks (if tx.txType.val ≤ 2 then 2 else 3) = receiptFields.encode tx.receipt := by
  have hindex : (if tx.txType.val ≤ 2 then 2 else 3) = tx.middle.length + 1 := by
    rw [tx.counted, middleChunks]
    split <;> rfl
  rw [hindex]
  simp [chunkAt, chunks]

theorem decodeCommonTxChunk_encode (h : tx.encode.length < 2 ^ 64) :
    decodeCommonTxChunk tx.encode = .ok tx.common := by
  have hcount : tx.chunks.length = 3 ∨ tx.chunks.length = 4 := by
    rw [tx.length_chunks]
    split
    · exact .inl rfl
    · exact .inr rfl
  have hsize : (commonTx.encode tx.common).length < 2 ^ 64 :=
    Nat.lt_of_le_of_lt (length_chunk_le List.mem_cons_self) h
  unfold decodeCommonTxChunk
  simp only [abiDecode_transaction h, ok_bind, require_of hcount, chunkAt_common]
  exact abiDecode_encode commonTx hsize

theorem decodeReceiptChunk_encode (h : tx.encode.length < 2 ^ 64) :
    decodeReceiptChunk tx.encode tx.txType = .ok tx.receipt := by
  have hmem : receiptFields.encode tx.receipt ∈ tx.chunks := by simp [chunks]
  have hsize : (receiptFields.encode tx.receipt).length < 2 ^ 64 :=
    Nat.lt_of_le_of_lt (length_chunk_le hmem) h
  have hcount := tx.length_chunks
  unfold decodeReceiptChunk
  simp only [abiDecode_transaction h, ok_bind, chunkAt_receipt]
  split
  case isTrue htype =>
    rw [if_pos htype] at hcount
    rw [require_of hcount, ok_bind]
    exact abiDecode_encode receiptFields hsize
  case isFalse htype =>
    rw [if_neg htype] at hcount
    rw [require_of hcount, ok_bind]
    exact abiDecode_encode receiptFields hsize

theorem decodeReceiptFields_encode (h : tx.encode.length < 2 ^ 64) :
    decodeReceiptFields tx.encode = .ok tx.receipt := by
  unfold decodeReceiptFields
  simp only [require_of tx.encode_ne_nil, ok_bind, getTransactionType_encode,
    require_of tx.supported]
  exact decodeReceiptChunk_encode h

theorem decodeCommonTxFields_encode (h : tx.encode.length < 2 ^ 64) :
    decodeCommonTxFields tx.encode = .ok tx.common := by
  unfold decodeCommonTxFields
  rw [require_of tx.encode_ne_nil, ok_bind]
  exact decodeCommonTxChunk_encode h

/-- A log takes more than a byte. -/
theorem length_logs_le (tx : SourceTransaction) :
    tx.receipt.receiptLogs.length ≤ tx.encode.length := by
  have hmem : receiptFields.encode tx.receipt ∈ tx.chunks := by simp [chunks]
  have hchunk : (receiptFields.encode tx.receipt).length ≤ tx.encode.length := length_chunk_le hmem
  have hheads := Fields.length_elementHeads logEntry tx.receipt.receiptLogs
    (tx.receipt.receiptLogs.length * 32)
  have hsize : logEntry.headSize = 32 := rfl
  rw [hsize] at hheads
  have hlogs : tx.receipt.receiptLogs.length * 32 ≤ (receiptFields.encode tx.receipt).length := by
    show _ ≤ (_ ++ ([] ++ ([] ++ (bigEndian 32 tx.receipt.receiptLogs.length ++
      (Fields.elementHeads logEntry (tx.receipt.receiptLogs.length * 32) tx.receipt.receiptLogs ++
        _) ++ _)))).length
    simp only [List.length_append, hheads]
    omega
  omega

/-- The one chunk between the first and the last. -/
theorem abiDecode_middle {α : Type} {c : Codec α} {f : α} (h : tx.encode.length < 2 ^ 64)
    (hmiddle : tx.middle = [c.encode f]) : abiDecode c (chunkAt tx.chunks 1) = .ok f := by
  have hchunk : chunkAt tx.chunks 1 = c.encode f := by simp [chunkAt, chunks, hmiddle]
  have hmem : c.encode f ∈ tx.chunks := by simp [chunks, hmiddle]
  rw [hchunk]
  exact abiDecode_encode c (Nat.lt_of_le_of_lt (length_chunk_le hmem) h)

theorem decodeTransactionType0_encode (h : tx.encode.length < 2 ^ 64) {f : LegacyFields}
    (htype : tx.txType = 0) (hmiddle : tx.middle = [legacyFields.encode f]) :
    decodeTransactionType0 tx.encode = .ok ⟨tx.common, f, tx.receipt⟩ := by
  have hcount : tx.chunks.length = 3 := by simp [tx.length_chunks, htype]
  have hreceipt := decodeReceiptChunk_encode h
  rw [htype] at hreceipt
  unfold decodeTransactionType0
  simp only [require_of tx.encode_ne_nil, ok_bind, abiDecode_transaction h, require_of htype,
    require_of hcount, decodeCommonTxChunk_encode h, abiDecode_middle h hmiddle, hreceipt]
  rfl

theorem decodeTransactionType2_encode (h : tx.encode.length < 2 ^ 64) {f : Type2Fields}
    (htype : tx.txType = 2) (hmiddle : tx.middle = [type2Fields.encode f]) :
    decodeTransactionType2 tx.encode = .ok ⟨tx.common, f, tx.receipt⟩ := by
  have hcount : tx.chunks.length = 3 := by simp [tx.length_chunks, htype]
  have hreceipt := decodeReceiptChunk_encode h
  rw [htype] at hreceipt
  unfold decodeTransactionType2
  simp only [require_of tx.encode_ne_nil, ok_bind, abiDecode_transaction h, require_of htype,
    require_of hcount, decodeCommonTxChunk_encode h, abiDecode_middle h hmiddle, hreceipt]
  rfl

/-- The decoder of the verifier reads the receipt. -/
theorem official_receipt (h : tx.encode.length < 2 ^ 32) :
    ∃ receipt, official.decodeReceiptFields tx.encode = some receipt ∧
      receipt.receiptStatus = tx.receipt.receiptStatus.val ∧
      receipt.receiptLogs = tx.receipt.receiptLogs := by
  have hlogs : tx.receipt.receiptLogs.length ≤ 2 ^ 32 :=
    tx.length_logs_le.trans (Nat.le_of_lt h)
  have hdecoded : EvmV1Decoder.decodeReceiptFields tx.encode = .ok tx.receipt :=
    decodeReceiptFields_encode (by omega)
  refine ⟨⟨tx.receipt.receiptStatus.val, tx.receipt.receiptLogs, hlogs⟩, ?_, rfl, rfl⟩
  simp only [official, hdecoded, Except.toOption, Option.bind_some, ReceiptFields.forVerifier,
    dif_pos hlogs]

end SourceTransaction

/-- The bytes of a transaction, of any type and with any logs, are read back by each function of the
library: its type, the fields that all types share, the receipt, and all of a transaction of type 0
or 2. -/
theorem decodes_transaction (tx : SourceTransaction) (h : tx.encode.length < 2 ^ 64) :
    getTransactionType tx.encode = tx.txType ∧
      decodeCommonTxFields tx.encode = .ok tx.common ∧
      decodeReceiptFields tx.encode = .ok tx.receipt ∧
      (∀ f, tx.txType = 0 → tx.middle = [legacyFields.encode f] →
        decodeTransactionType0 tx.encode = .ok ⟨tx.common, f, tx.receipt⟩) ∧
      ∀ f, tx.txType = 2 → tx.middle = [type2Fields.encode f] →
        decodeTransactionType2 tx.encode = .ok ⟨tx.common, f, tx.receipt⟩ :=
  ⟨tx.getTransactionType_encode, SourceTransaction.decodeCommonTxFields_encode h,
    SourceTransaction.decodeReceiptFields_encode h,
    fun _ => SourceTransaction.decodeTransactionType0_encode h,
    fun _ => SourceTransaction.decodeTransactionType2_encode h⟩

/-- The chunk of a transaction of type 2 with an access list. -/
def Sample.type2 : Type2Fields :=
  { chainId := 1, maxPriorityFeePerGas := 2, maxFeePerGas := 3, accessList := [⟨9, [4, 5]⟩]
    yParity := 1, r := 10, s := 11 }

/-- A transaction with three logs. -/
def Sample.sourceTransaction : SourceTransaction where
  txType := 2
  common :=
    { nonce := 7, gasLimit := 21000, from_ := 8, toIsNull := false, to_ := 9, value := 5
      data := [1, 2, 3] }
  middle := [type2Fields.encode type2]
  receipt :=
    { receiptStatus := 1, receiptGasUsed := 20000
      receiptLogs := [⟨9, [40, 41], [6, 7]⟩, ⟨8, [], []⟩, ⟨9, [40], List.replicate 33 1⟩]
      receiptLogsBloom := [0] }
  supported := by decide
  counted := by decide

theorem decodes_transaction_sample :
    decodeReceiptFields Sample.sourceTransaction.encode = .ok Sample.sourceTransaction.receipt ∧
      decodeTransactionType2 Sample.sourceTransaction.encode =
        .ok ⟨Sample.sourceTransaction.common, Sample.type2, Sample.sourceTransaction.receipt⟩ := by
  have hsize : Sample.sourceTransaction.encode.length < 2 ^ 64 := by decide +kernel
  obtain ⟨-, -, hreceipt, -, htype2⟩ := decodes_transaction Sample.sourceTransaction hsize
  exact ⟨hreceipt, htype2 Sample.type2 (by rfl) (by rfl)⟩

/-! ### Under the verifier -/

section
open Native Native.Verifier

variable {v : Verifier} {reg : ProviderRegistry} {answers : NativeAnswers}
  {envelope : NativeProofEnvelope} {expectedEmitter : Address} {topic0s : List Bytes32}
  {world : SourceWorld} {events : List VerifiedSourceEvent}

/-- The chains have transactions, in the bytes that provers hand over. -/
def Encoded (world : SourceWorld) : Prop :=
  ∀ chainKey height i encoded, world chainKey height i = some encoded →
    ∃ tx : SourceTransaction, encoded = tx.encode

/-- The log is one of the emitter with one of the asked topics. -/
def Asked (expectedEmitter : Address) (topic0s : List Bytes32) (log : LogEntry) : Prop :=
  log.address_ = expectedEmitter ∧ ∃ topic0 ∈ topic0s, log.topics.head? = some topic0

theorem matches_iff {log : LogEntry} :
    matches_ expectedEmitter topic0s log = true ↔ Asked expectedEmitter topic0s log := by
  unfold matches_ Asked
  cases htopics : log.topics with
  | nil => simp
  | cons topic0 topics => simp

instance (log : LogEntry) : Decidable (Asked expectedEmitter topic0s log) :=
  decidable_of_iff _ matches_iff

/-- The events of the asked logs of a receipt, in receipt order. -/
def askedEvents (v : Verifier) (expectedEmitter : Address) (topic0s : List Bytes32)
    (height txIndex : Nat) (logs : List LogEntry) : List VerifiedSourceEvent :=
  (logs.zipIdx.filter fun l => Asked expectedEmitter topic0s l.1).map
    fun l => v.event height txIndex l.1 l.2

theorem extract_iff {receipt : Native.ReceiptFields} {height txIndex : Nat} :
    v.extract expectedEmitter topic0s receipt height txIndex = .ok events ↔
      events = askedEvents v expectedEmitter topic0s height txIndex receipt.receiptLogs ∧
        events ≠ [] := by
  have hfilter : (receipt.receiptLogs.zipIdx.filter
      fun l => matches_ expectedEmitter topic0s l.1) =
      receipt.receiptLogs.zipIdx.filter fun l => Asked expectedEmitter topic0s l.1 := by
    refine List.filter_congr fun l _ => ?_
    rw [Bool.eq_iff_iff, matches_iff, decide_eq_true_iff]
  unfold extract askedEvents
  simp only [hfilter]
  rw [bind_eq_ok]
  simp only [revertIf_eq_ok, pure_eq_ok, exists_and_left, exists_const]
  constructor
  · rintro ⟨hne, rfl⟩
    exact ⟨rfl, by simpa using hne⟩
  · rintro ⟨rfl, hne⟩
    exact ⟨by simpa using hne, rfl⟩

/-- The receipt that the verifier goes on with. -/
theorem decodeVerified_iff {tx : SourceTransaction} {receipt : Native.ReceiptFields}
    (hbytes : envelope.encodedTransaction = tx.encode) (hsize : tx.encode.length < 2 ^ 32) :
    v.decodeVerified official envelope = .ok receipt ↔
      tx.receipt.receiptStatus = 1 ∧ tx.receipt.receiptLogs.length ≤ v.maxLogs ∧
        receipt.receiptStatus = 1 ∧ receipt.receiptLogs = tx.receipt.receiptLogs := by
  obtain ⟨decoded, hdecoded, hstatus, hlogs⟩ := SourceTransaction.official_receipt hsize
  have htype : official.getTransactionType tx.encode = some tx.txType.val := by
    simp only [official, tx.getTransactionType_encode]
  have hvalid : official.isValidTransactionType tx.txType.val = true := by
    simp [official, tx.supported]
  have hone : tx.receipt.receiptStatus = 1 ↔ decoded.receiptStatus = 1 := by
    rw [hstatus]
    exact Fin.ext_iff
  unfold decodeVerified
  simp only [hbytes, htype, hvalid, hdecoded]
  rw [hone, ← hlogs]
  constructor
  · intro h
    obtain ⟨_, -, h⟩ := bind_eq_ok.mp h
    obtain ⟨_, hsuccess, h⟩ := bind_eq_ok.mp h
    obtain ⟨_, hmax, h⟩ := bind_eq_ok.mp h
    have hone := not_not.mp (revertIf_eq_ok.mp hsuccess)
    rw [← pure_eq_ok.mp h]
    exact ⟨hone, Nat.le_of_not_lt (revertIf_eq_ok.mp hmax), hone, rfl⟩
  · rintro ⟨hsuccess, hmax, hsame, hlogs'⟩
    have hreceipt : receipt = decoded := by
      cases receipt
      cases decoded
      simp_all
    rw [revertIf_of_not _ (by simp), ok_bind, revertIf_of_not _ (not_not.mpr hsuccess), ok_bind,
      revertIf_of_not _ (Nat.not_lt.mpr hmax), hreceipt]
    rfl

/-- What a call of the verifier returns, with a precompile that is sound about a chain of
transactions: the events of all the logs of one transaction that were asked for, in the order of its
receipt, and there is one, and the transaction succeeded. It returns whenever the bindings are
right and the precompile vouches for such a transaction. Each event says what the log at its
position says. -/
theorem verified_logs_are_the_receipts (hworld : Encoded world)
    (hsound : answers.Sound world envelope)
    (hsize : envelope.encodedTransaction.length < 2 ^ 32) :
    (v.verifyAndExtract reg official answers envelope expectedEmitter topic0s = .ok events ↔
      v.checkBinding reg envelope expectedEmitter topic0s = .ok () ∧
        ∃ (i : Nat) (tx : SourceTransaction), nativeVerify answers = .ok i ∧
          world envelope.chainKey envelope.height i = some tx.encode ∧
          envelope.encodedTransaction = tx.encode ∧ tx.receipt.receiptStatus = 1 ∧
          tx.receipt.receiptLogs.length ≤ v.maxLogs ∧
          events =
            askedEvents v expectedEmitter topic0s envelope.height i tx.receipt.receiptLogs ∧
          events ≠ []) ∧
      (v.verifyAndExtract reg official answers envelope expectedEmitter topic0s = .ok events →
        ∀ e ∈ events, logAt world official e.locator = some ⟨e.emitter, e.topics, e.data⟩) := by
  refine ⟨⟨fun h => ?_, ?_⟩, fun h e he => ?_⟩
  · obtain ⟨_, hbinding, h⟩ := bind_eq_ok.mp h
    obtain ⟨i, hverified, h⟩ := bind_eq_ok.mp h
    obtain ⟨receipt, hdecoded, h⟩ := bind_eq_ok.mp h
    have htx := nativeVerify_ok hverified hsound
    obtain ⟨tx, hbytes⟩ := hworld _ _ _ _ htx
    rw [hbytes] at htx hsize
    obtain ⟨hsuccess, hmax, -, hlogs⟩ := (decodeVerified_iff hbytes hsize).mp hdecoded
    obtain ⟨hevents, hne⟩ := extract_iff.mp h
    rw [hlogs] at hevents
    exact ⟨hbinding, i, tx, hverified, htx, hbytes, hsuccess, hmax, hevents, hne⟩
  · rintro ⟨hbinding, i, tx, hverified, -, hbytes, hsuccess, hmax, hevents, hne⟩
    rw [hbytes] at hsize
    obtain ⟨decoded, -, hstatus, hlogs⟩ := SourceTransaction.official_receipt hsize
    have hone : decoded.receiptStatus = 1 := by
      rw [hstatus, hsuccess]
      rfl
    have hdecoded := (decodeVerified_iff (v := v) hbytes hsize).mpr ⟨hsuccess, hmax, hone, hlogs⟩
    rw [← hlogs] at hevents
    have hextract := extract_iff.mpr ⟨hevents, hne⟩
    unfold verifyAndExtract
    rw [hbinding, ok_bind, hverified, ok_bind, hdecoded, ok_bind]
    exact hextract
  · obtain ⟨log, hgenuine⟩ := verifyAndExtract_ok h hsound e he
    rw [hgenuine.located, hgenuine.emitter, hgenuine.topics, hgenuine.data]

end

section
open Native

/-- The sample transaction is the first of block 7 of chain 1. -/
def Sample.world : SourceWorld := fun chainKey height txIndex =>
  if chainKey = 1 ∧ height = 7 ∧ txIndex = 0 then some sourceTransaction.encode else none

theorem Sample.world_encoded : Encoded world := by
  intro chainKey height i encoded h
  unfold world at h
  split at h
  · cases h
    exact ⟨sourceTransaction, rfl⟩
  · cases h

/-- A proof of the sample transaction. -/
def Sample.envelope : NativeProofEnvelope where
  chainKey := 1
  height := 7
  encodedTransaction := sourceTransaction.encode
  merkleRoot := 1
  siblings := []
  lowerEndpointDigest := 0
  continuityRoots := []

/-- The sample verifier, for transactions of some size. -/
def Sample.verifier : Verifier := { Native.Sample.verifier with maxTxBytes := 10000 }

/-- The logs of emitter 9 with topic 40 are the first and the third. -/
theorem verified_logs_are_the_receipts_sample :
    ∃ events, Sample.verifier.verifyAndExtract Native.Sample.registry official
        ⟨some (some 1), some (some 0)⟩ Sample.envelope 9 [40] = .ok events ∧
      events.map (fun e => e.locator.logOrdinal) = [0, 2] := by
  have hordinals : (askedEvents Sample.verifier 9 [40] 7 0
      Sample.sourceTransaction.receipt.receiptLogs).map (fun e => e.locator.logOrdinal) = [0, 2] := by
    decide +kernel
  have hreturns : (Sample.verifier.checkBinding Native.Sample.registry Sample.envelope 9
      [40]).toBool = true := by decide +kernel
  have hbinding : Sample.verifier.checkBinding Native.Sample.registry Sample.envelope 9 [40] =
      .ok () := by
    cases h : Sample.verifier.checkBinding Native.Sample.registry Sample.envelope 9 [40] with
    | ok u => rfl
    | error e =>
      rw [h] at hreturns
      cases hreturns
  have hworld : Sample.world 1 7 0 = some Sample.sourceTransaction.encode :=
    if_pos ⟨rfl, rfl, rfl⟩
  refine ⟨_, ((verified_logs_are_the_receipts Sample.world_encoded ?_ (by decide +kernel)).1.mpr
    ⟨hbinding, 0, Sample.sourceTransaction, rfl, hworld, rfl, rfl, by decide, rfl, ?_⟩), hordinals⟩
  · intro i _ hindex
    cases hindex
    exact hworld
  · intro hnone
    have hlost := congrArg (List.map fun e => e.locator.logOrdinal) hnone
    rw [show Sample.envelope.height = 7 from rfl, hordinals] at hlost
    cases hlost

end

end Rackline.EvmV1Decoder
