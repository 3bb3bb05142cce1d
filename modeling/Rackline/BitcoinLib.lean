import Rackline.Evm.Arith

/-!
# `Rackline.BitcoinLib`: the Bitcoin library of the verifier

`lib/BitcoinLib.sol`. Headers, transactions and scripts are lists of bytes, and a read behind the
end of one is the panic of an array out of bounds. `sha256d` is a parameter, as any function to 32
bytes.

Offsets are numbers: no offset comes near the size of a word, since it is at most a length of 64
bits behind a byte that was read. The functions return words of the width that the source declares.
Fixed-size byte arrays are lists that carry the proof of their length.

Left out are the errors that the library declares and never raises.
-/

set_option autoImplicit false

namespace Rackline

/-- `bytes32` and `bytes20`: so many bytes. -/
abbrev BytesN (n : Nat) := { bytes : List UInt8 // bytes.length = n }

namespace BitcoinLib

open Evm

/-- The errors of the library. -/
inductive Err
  | invalidHeaderSize (size : Nat)
  | invalidTxData
  /-- Of an array out of bounds, or of checked arithmetic. -/
  | panic
deriving DecidableEq

/-- `HEADER_SIZE`. -/
def HEADER_SIZE : Nat := 80

/-- `MAX_TARGET`. -/
def MAX_TARGET : Nat := 0x00000000FFFF0000000000000000000000000000000000000000000000000000

/-! ### Reads -/

section
variable (data : List UInt8) (offset : Nat)

/-- `data[offset]`. -/
def byteAt : Except Err UInt8 :=
  match data[offset]? with
  | some b => .ok b
  | none => .error .panic

/-- `readUint32LE`. -/
def readUint32LE : Except Err UInt32 := do
  let b₀ ← byteAt data offset
  let b₁ ← byteAt data (offset + 1)
  let b₂ ← byteAt data (offset + 2)
  let b₃ ← byteAt data (offset + 3)
  return b₀.toUInt32 ||| (b₁.toUInt32 <<< 8) ||| (b₂.toUInt32 <<< 16) ||| (b₃.toUInt32 <<< 24)

/-- `readUint64LE`. -/
def readUint64LE : Except Err UInt64 := do
  let b₀ ← byteAt data offset
  let b₁ ← byteAt data (offset + 1)
  let b₂ ← byteAt data (offset + 2)
  let b₃ ← byteAt data (offset + 3)
  let b₄ ← byteAt data (offset + 4)
  let b₅ ← byteAt data (offset + 5)
  let b₆ ← byteAt data (offset + 6)
  let b₇ ← byteAt data (offset + 7)
  return b₀.toUInt64 ||| (b₁.toUInt64 <<< 8) ||| (b₂.toUInt64 <<< 16) ||| (b₃.toUInt64 <<< 24) |||
    (b₄.toUInt64 <<< 32) ||| (b₅.toUInt64 <<< 40) ||| (b₆.toUInt64 <<< 48) |||
    (b₇.toUInt64 <<< 56)

/-- The bytes from an offset, filled up with zeros. -/
def padded (n : Nat) : List UInt8 := ((data.drop offset).take n).rightpad n 0

theorem length_padded (n : Nat) : (padded data offset n).length = n := by
  unfold padded
  rw [List.length_rightpad, List.length_take]
  omega

/-- `readBytes32`, which is called within the data only. -/
def readBytes32 : BytesN 32 := ⟨padded data offset 32, length_padded data offset 32⟩

/-- `readBytes20`, which is called within the data only. -/
def readBytes20 : BytesN 20 := ⟨padded data offset 20, length_padded data offset 20⟩

/-- `readVarInt`: the value and the offset behind it. -/
def readVarInt : Except Err (Nat × Nat) := do
  let first ← byteAt data offset
  if first < 0xfd then
    return (first.toNat, offset + 1)
  else if first = 0xfd then do
    let b₁ ← byteAt data (offset + 1)
    let b₂ ← byteAt data (offset + 2)
    return ((b₁.toUInt16 ||| (b₂.toUInt16 <<< 8)).toNat, offset + 3)
  else if first = 0xfe then do
    let value ← readUint32LE data (offset + 1)
    return (value.toNat, offset + 5)
  else do
    let value ← readUint64LE data (offset + 1)
    return (value.toNat, offset + 9)

end

/-! ### Headers -/

/-- `BlockHeader`. -/
structure BlockHeader where
  version : UInt32
  prevBlockHash : BytesN 32
  merkleRoot : BytesN 32
  timestamp : UInt32
  bits : UInt32
  nonce : UInt32
deriving DecidableEq

/-- `parseHeader`. -/
def parseHeader (header : List UInt8) : Except Err BlockHeader := do
  revertIf (header.length ≠ HEADER_SIZE) (.invalidHeaderSize header.length)
  let version ← readUint32LE header 0
  let prevBlockHash := readBytes32 header 4
  let merkleRoot := readBytes32 header 36
  let timestamp ← readUint32LE header 68
  let bits ← readUint32LE header 72
  let nonce ← readUint32LE header 76
  return { version, prevBlockHash, merkleRoot, timestamp, bits, nonce }

/-- `hashHeader`. -/
def hashHeader (sha256d : List UInt8 → BytesN 32) (header : List UInt8) :
    Except Err (BytesN 32) := do
  revertIf (header.length ≠ HEADER_SIZE) (.invalidHeaderSize header.length)
  return sha256d header

/-- `bitsToTarget`. A shift to the left drops what leaves the word. -/
def bitsToTarget (bits : UInt32) : Nat :=
  let exponent := bits.toNat >>> 24
  let mantissa := bits.toNat &&& 0x007fffff
  let target := if exponent ≤ 3 then mantissa >>> (8 * (3 - exponent))
    else (mantissa <<< (8 * (exponent - 3))) % wordSize 256
  if target > MAX_TARGET then MAX_TARGET else target

/-- `reverseBytes32ToUint`. -/
def reverseBytes32ToUint (input : BytesN 32) : Nat :=
  (List.range 32).foldl
    (fun result i => result ||| (((input.1[i]?.getD 0).toNat <<< ((31 - i) * 8)) % wordSize 256)) 0

/-- `verifyPoW`. -/
def verifyPoW (blockHash : BytesN 32) (bits : UInt32) : Bool :=
  reverseBytes32ToUint blockHash ≤ bitsToTarget bits

/-! ### Merkle proofs -/

/-- The loop of `verifyMerkleProof`, from `current` up. -/
def foldMerkleProof (sha256d : List UInt8 → BytesN 32) (current : BytesN 32) :
    List (BytesN 32) → Nat → BytesN 32
  | [], _ => current
  | sibling :: proof, txIndex =>
    foldMerkleProof sha256d
      (if txIndex &&& 1 = 0 then sha256d (current.1 ++ sibling.1)
        else sha256d (sibling.1 ++ current.1))
      proof (txIndex >>> 1)

/-- `verifyMerkleProof`. -/
def verifyMerkleProof (sha256d : List UInt8 → BytesN 32) (txid merkleRoot : BytesN 32)
    (proof : List (BytesN 32)) (txIndex : Nat) : Bool :=
  foldMerkleProof sha256d txid proof txIndex = merkleRoot

/-! ### Transactions -/

/-- `TxOutput`. -/
structure TxOutput where
  value : UInt64
  scriptPubKey : List UInt8
deriving DecidableEq

section
variable (rawTx : List UInt8)

/-- The loop over the inputs: the offset behind them. -/
def skipInputs : Nat → Nat → Except Err Nat
  | 0, offset => .ok offset
  | n + 1, offset => do
    let (inputScriptLen, offset) ← readVarInt rawTx (offset + 32 + 4)
    skipInputs n (offset + inputScriptLen + 4)

/-- The loop over the outputs before the one that is asked for. -/
def skipOutputs : Nat → Nat → Except Err Nat
  | 0, offset => .ok offset
  | n + 1, offset => do
    let (skipScriptLen, offset) ← readVarInt rawTx (offset + 8)
    skipOutputs n (offset + skipScriptLen)

/-- The loop that copies the script. -/
def copyBytes : Nat → Nat → Except Err (List UInt8)
  | 0, _ => .ok []
  | n + 1, offset => do
    let b ← byteAt rawTx offset
    let rest ← copyBytes n (offset + 1)
    return b :: rest

/-- The offset behind the version, the marker and the flag. -/
def inputsOffset : Except Err Nat := do
  let marker ← byteAt rawTx 4
  if marker = 0x00 then
    let flag ← byteAt rawTx 5
    return if flag = 0x01 then 6 else 4
  else return 4

/-- `parseTxOutput`. -/
def parseTxOutput (outputIndex : UInt32) : Except Err TxOutput := do
  let offset ← inputsOffset rawTx
  let (inputCount, offset) ← readVarInt rawTx offset
  let offset ← skipInputs rawTx inputCount offset
  let (outputCount, offset) ← readVarInt rawTx offset
  revertIf (outputIndex.toNat ≥ outputCount) .invalidTxData
  let offset ← skipOutputs rawTx outputIndex.toNat offset
  let value ← readUint64LE rawTx offset
  let (scriptLen, offset) ← readVarInt rawTx (offset + 8)
  let scriptPubKey ← copyBytes rawTx scriptLen offset
  return { value, scriptPubKey }

end

/-- `scriptType`: 0, 1 and 2. -/
inductive ScriptType
  | P2WPKH | P2PKH | other
deriving DecidableEq

/-- `extractPubkeyHash`. Of another script the hash is zero. -/
def extractPubkeyHash (scriptPubKey : List UInt8) : BytesN 20 × ScriptType :=
  if scriptPubKey.length = 22 ∧ scriptPubKey.take 2 = [0x00, 0x14] then
    (readBytes20 scriptPubKey 2, .P2WPKH)
  else if scriptPubKey.length = 25 ∧ scriptPubKey.take 3 = [0x76, 0xa9, 0x14] ∧
      scriptPubKey.drop 23 = [0x88, 0xac] then
    (readBytes20 scriptPubKey 3, .P2PKH)
  else (⟨List.replicate 20 0, rfl⟩, .other)

end BitcoinLib

end Rackline
