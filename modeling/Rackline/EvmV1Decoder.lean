import Rackline.Lib.AbiCodec
import Rackline.NativeVerifier

/-!
# `Rackline.EvmV1Decoder`: the official decoder of proven transactions

`vendor/attestcoin/common/EvmV1Decoder.sol`. The bytes of a source transaction are
`abi.encode(uint8 txType, bytes[] chunks)`: the common fields in the first chunk, the receipt in the
last one, and between them what the type of the transaction asks for, in two chunks for the types 3
and 4 and in one for the others.

`SourceTransaction.encode` writes these bytes, as the comment of the library describes them. The
functions after it are those of the library. A revert is the text of a `require`, or `abi`, for an
`abi.decode` that does not go through.

Left out are the structs for the chunks of the types 1, 3 and 4, which no function decodes.
-/

set_option autoImplicit false

namespace Rackline.EvmV1Decoder

open AbiCodec

/-- `bytes`. -/
abbrev Bytes : Type := Native.Bytes

scoped instance byteSize : NeZero (2 ^ 8) := inferInstance

/-! ### The chunks -/

/-- `CommonTxFields`. -/
structure CommonTxFields where
  nonce : Fin (2 ^ 64)
  gasLimit : Fin (2 ^ 64)
  from_ : Address
  toIsNull : Bool
  to_ : Address
  value : Fin (2 ^ 256)
  data : Bytes
deriving DecidableEq

/-- `ReceiptFields`. -/
structure ReceiptFields where
  receiptStatus : Fin (2 ^ 8)
  receiptGasUsed : Fin (2 ^ 64)
  receiptLogs : List Native.LogEntry
  receiptLogsBloom : Bytes
deriving DecidableEq

/-- `AccessListEntry`. -/
structure AccessListEntry where
  account : Address
  storageKeys : List Bytes32
deriving DecidableEq

/-- `LegacyFields`. -/
structure LegacyFields where
  gasPrice : Fin (2 ^ 128)
  v : Fin (2 ^ 256)
  r : Bytes32
  s : Bytes32
deriving DecidableEq

/-- `Type2Fields`. -/
structure Type2Fields where
  chainId : Fin (2 ^ 64)
  maxPriorityFeePerGas : Fin (2 ^ 128)
  maxFeePerGas : Fin (2 ^ 128)
  accessList : List AccessListEntry
  yParity : Fin (2 ^ 8)
  r : Bytes32
  s : Bytes32
deriving DecidableEq

/-- `uint8`. -/
def uint8 : Codec (Fin (2 ^ 8)) := .word (2 ^ 8) (by decide)

/-- `uint64`. -/
def uint64 : Codec (Fin (2 ^ 64)) := .word (2 ^ 64) (by decide)

/-- `uint128`. -/
def uint128 : Codec (Fin (2 ^ 128)) := .word (2 ^ 128) (by decide)

/-- `address`. -/
def address : Codec Address := Codec.uint160

/-- `bytes32`. -/
def bytes32 : Codec Bytes32 := Codec.uint256

/-- `bool`: a word that is 0 or 1. -/
def bool : Codec Bool :=
  Codec.map (.word 2 (by decide)) (fun n => some (decide (n = 1))) (fun b => if b then 1 else 0)
    (by decide)

/-- `LogEntryTuple`. -/
def logEntry : Codec Native.LogEntry :=
  Codec.map (.tuple (.cons address (.cons (.array bytes32 (by decide)) (.cons .bytes .nil))))
    (fun (address_, topics, data, ()) => some { address_, topics, data })
    (fun log => (log.address_, log.topics, log.data, ())) (fun _ => rfl)

/-- `AccessListEntryBytes32`. -/
def accessListEntry : Codec AccessListEntry :=
  Codec.map (.tuple (.cons address (.cons (.array bytes32 (by decide)) .nil)))
    (fun (account, storageKeys, ()) => some { account, storageKeys })
    (fun entry => (entry.account, entry.storageKeys, ())) (fun _ => rfl)

/-- `(uint64, uint64, address, bool, address, uint256, bytes)`. -/
def commonTx : Codec CommonTxFields :=
  Codec.map
    (.tuple (.cons uint64 (.cons uint64 (.cons address (.cons bool (.cons address (.cons .uint256
      (.cons .bytes .nil))))))))
    (fun (nonce, gasLimit, from_, toIsNull, to_, value, data, ()) =>
      some { nonce, gasLimit, from_, toIsNull, to_, value, data })
    (fun c => (c.nonce, c.gasLimit, c.from_, c.toIsNull, c.to_, c.value, c.data, ())) (fun _ => rfl)

/-- `(uint8, uint64, LogEntryTuple[], bytes)`. `_toLogs` copies the tuples into the structs. -/
def receiptFields : Codec ReceiptFields :=
  Codec.map
    (.tuple (.cons uint8 (.cons uint64 (.cons (.array logEntry (by decide)) (.cons .bytes .nil)))))
    (fun (receiptStatus, receiptGasUsed, receiptLogs, receiptLogsBloom, ()) =>
      some { receiptStatus, receiptGasUsed, receiptLogs, receiptLogsBloom })
    (fun r => (r.receiptStatus, r.receiptGasUsed, r.receiptLogs, r.receiptLogsBloom, ()))
    (fun _ => rfl)

/-- `(uint128, uint256, bytes32, bytes32)`. -/
def legacyFields : Codec LegacyFields :=
  Codec.map (.tuple (.cons uint128 (.cons .uint256 (.cons bytes32 (.cons bytes32 .nil)))))
    (fun (gasPrice, v, r, s, ()) => some { gasPrice, v, r, s })
    (fun f => (f.gasPrice, f.v, f.r, f.s, ())) (fun _ => rfl)

/-- `(uint64, uint128, uint128, AccessListEntryBytes32[], uint8, bytes32, bytes32)`. -/
def type2Fields : Codec Type2Fields :=
  Codec.map
    (.tuple (.cons uint64 (.cons uint128 (.cons uint128 (.cons (.array accessListEntry (by decide))
      (.cons uint8 (.cons bytes32 (.cons bytes32 .nil))))))))
    (fun (chainId, maxPriorityFeePerGas, maxFeePerGas, accessList, yParity, r, s, ()) =>
      some { chainId, maxPriorityFeePerGas, maxFeePerGas, accessList, yParity, r, s })
    (fun f => (f.chainId, f.maxPriorityFeePerGas, f.maxFeePerGas, f.accessList, f.yParity, f.r,
      f.s, ())) (fun _ => rfl)

/-- `(uint8, bytes[])`. -/
def transaction : Codec (Fin (2 ^ 8) × List Bytes × Unit) :=
  .tuple (.cons uint8 (.cons (.array .bytes (by decide)) .nil))

/-! ### The bytes of a transaction -/

/-- The number of the chunks between the first and the last. -/
def middleChunks (txType : Fin (2 ^ 8)) : Nat := if txType.val ≤ 2 then 1 else 2

/-- A transaction of a source chain with its receipt. -/
structure SourceTransaction where
  txType : Fin (2 ^ 8)
  common : CommonTxFields
  /-- The chunks that depend on the type. -/
  middle : List Bytes
  receipt : ReceiptFields
  supported : txType.val ≤ 4
  counted : middle.length = middleChunks txType

/-- The chunks of a transaction. -/
def SourceTransaction.chunks (tx : SourceTransaction) : List Bytes :=
  commonTx.encode tx.common :: (tx.middle ++ [receiptFields.encode tx.receipt])

/-- What a prover hands over of a transaction. -/
def SourceTransaction.encode (tx : SourceTransaction) : Bytes :=
  transaction.encode (tx.txType, tx.chunks, ())

/-! ### The library -/

/-- A call of the library that reverts. -/
inductive DecoderRevert
  | require (text : String)
  | abi
deriving DecidableEq

/-- `require(c, text)`. -/
def require (c : Prop) [Decidable c] (text : String) : Except DecoderRevert Unit :=
  if c then .ok () else .error (.require text)

/-- `abi.decode`. -/
def abiDecode {α : Type} (c : Codec α) (data : Bytes) : Except DecoderRevert α :=
  (c.decode data 0).elim (.error .abi) .ok

/-- `getTransactionType`: the byte 31. Memory behind the data is zero. -/
def getTransactionType (encodedTx : Bytes) : Fin (2 ^ 8) :=
  ⟨(encodedTx[31]?.getD 0).toNat, UInt8.toNat_lt _⟩

/-- `isValidTransactionType`. -/
def isValidTransactionType (txType : Fin (2 ^ 8)) : Bool := txType.val ≤ 4

/-- `getLogsByEventSignature`. -/
def getLogsByEventSignature (logs : List Native.LogEntry) (eventSignature : Bytes32) :
    List Native.LogEntry :=
  logs.filter fun log => log.topics.head? = some eventSignature

/-- `chunks[i]`, which is called within the chunks only. -/
def chunkAt (chunks : List Bytes) (i : Nat) : Bytes := chunks[i]?.getD []

/-- `_decodeCommonTxChunk`. -/
def decodeCommonTxChunk (chunk : Bytes) : Except DecoderRevert CommonTxFields := do
  let (_, chunks, _) ← abiDecode transaction chunk
  require (chunks.length = 3 ∨ chunks.length = 4) "EvmV1Decoder: Wrong chunk count"
  abiDecode commonTx (chunkAt chunks 0)

/-- `decodeCommonTxFields`. -/
def decodeCommonTxFields (encodedTx : Bytes) : Except DecoderRevert CommonTxFields := do
  require (encodedTx.length > 0) "EvmV1Decoder: Empty"
  decodeCommonTxChunk encodedTx

/-- `_decodeReceiptChunk`. -/
def decodeReceiptChunk (chunk : Bytes) (txType : Fin (2 ^ 8)) :
    Except DecoderRevert ReceiptFields := do
  let (_, chunks, _) ← abiDecode transaction chunk
  let receiptIdx := if txType.val ≤ 2 then 2 else 3
  if txType.val ≤ 2 then
    require (chunks.length = 3) "EvmV1Decoder: bad chunks (t0-2)"
  else
    require (chunks.length = 4) "EvmV1Decoder: bad chunks (t3-4)"
  abiDecode receiptFields (chunkAt chunks receiptIdx)

/-- `decodeReceiptFields`. -/
def decodeReceiptFields (encodedTx : Bytes) : Except DecoderRevert ReceiptFields := do
  require (encodedTx.length > 0) "EvmV1Decoder: Empty"
  let txType := getTransactionType encodedTx
  require (txType.val ≤ 4) "EvmV1Decoder: Invalid tx type"
  decodeReceiptChunk encodedTx txType

/-- `DecodedTransactionType0`. -/
structure DecodedTransactionType0 where
  commonTx : CommonTxFields
  type0 : LegacyFields
  receipt : ReceiptFields
deriving DecidableEq

/-- `DecodedTransactionType2`. -/
structure DecodedTransactionType2 where
  commonTx : CommonTxFields
  type2 : Type2Fields
  receipt : ReceiptFields
deriving DecidableEq

/-- `decodeTransactionType0`. -/
def decodeTransactionType0 (chunk : Bytes) : Except DecoderRevert DecodedTransactionType0 := do
  require (chunk.length > 0) "EvmV1Decoder: Empty"
  let (decodedTxType, chunks, _) ← abiDecode transaction chunk
  require (decodedTxType = 0) "EvmV1Decoder: Expected type 0"
  require (chunks.length = 3) "EvmV1Decoder: bad chunks (t0)"
  let common ← decodeCommonTxChunk chunk
  let type0 ← abiDecode legacyFields (chunkAt chunks 1)
  let receipt ← decodeReceiptChunk chunk 0
  return { commonTx := common, type0, receipt }

/-- `decodeTransactionType2`. -/
def decodeTransactionType2 (chunk : Bytes) : Except DecoderRevert DecodedTransactionType2 := do
  require (chunk.length > 0) "EvmV1Decoder: Empty"
  let (decodedTxType, chunks, _) ← abiDecode transaction chunk
  require (decodedTxType = 2) "EvmV1Decoder: Expected type 2"
  require (chunks.length = 3) "EvmV1Decoder: bad chunks (t2)"
  let common ← decodeCommonTxChunk chunk
  let type2 ← abiDecode type2Fields (chunkAt chunks 1)
  let receipt ← decodeReceiptChunk chunk 2
  return { commonTx := common, type2, receipt }

/-! ### As the decoder of the verifier -/

/-- The parts of a receipt that the verifier reads. No memory has room for more than `2^32` logs. -/
def ReceiptFields.forVerifier (receipt : ReceiptFields) : Option Native.ReceiptFields :=
  if h : receipt.receiptLogs.length ≤ 2 ^ 32 then
    some ⟨receipt.receiptStatus.val, receipt.receiptLogs, h⟩
  else none

/-- The decoder that the verifier is linked with. -/
def official : Native.EvmV1Decoder where
  getTransactionType encodedTx := some (getTransactionType encodedTx).val
  isValidTransactionType txType := decide (txType ≤ 4)
  decodeReceiptFields encodedTx :=
    (decodeReceiptFields encodedTx).toOption.bind ReceiptFields.forVerifier

end Rackline.EvmV1Decoder
