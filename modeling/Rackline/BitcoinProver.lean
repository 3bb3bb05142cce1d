import Rackline.BitcoinLib
import Rackline.Lib.LittleEndian

/-!
# `Rackline.BitcoinProver`: the Bitcoin functions of the prover

`hashcredit_prover/bitcoin.py`. The functions that build and check Merkle proofs work on hashes of
32 bytes, and those that parse transactions on lists of bytes. An index behind the end of the data
raises; a slice behind it is cut.

Left out are the conversions between the byte orders of the display and the header dataclass.
-/

set_option autoImplicit false

namespace Rackline.BitcoinProver

/-- What the functions raise. -/
inductive Err
  | valueError (text : String)
  | indexError
deriving DecidableEq

/-! ### Merkle trees -/

section
variable (sha256d : List UInt8 → BytesN 32)

/-- A last hash of an odd list is doubled. -/
def evened (hashes : List (BytesN 32)) : List (BytesN 32) :=
  if hashes.length % 2 = 1 then hashes ++ hashes.getLast?.toList else hashes

/-- The loop over the pairs. -/
def hashPairs : List (BytesN 32) → List (BytesN 32)
  | a :: b :: hashes => sha256d (a.1 ++ b.1) :: hashPairs hashes
  | _ => []

theorem length_hashPairs : ∀ hashes : List (BytesN 32),
    (hashPairs sha256d hashes).length = hashes.length / 2
  | [] => rfl
  | [_] => by simp [hashPairs]
  | _ :: _ :: hashes => by
    rw [hashPairs, List.length_cons, length_hashPairs hashes, List.length_cons, List.length_cons]
    omega

theorem length_evened (hashes : List (BytesN 32)) :
    (evened hashes).length = hashes.length + hashes.length % 2 := by
  unfold evened
  split
  case isTrue hodd =>
    have hne : hashes ≠ [] := by
      rintro rfl
      cases hodd
    rw [List.getLast?_eq_some_getLast hne, List.length_append, hodd]
    rfl
  case isFalse heven => omega

/-- Each turn of the outer loops makes the list shorter. -/
theorem hashPairs_shorter {hashes : List (BytesN 32)} (h : 1 < hashes.length) :
    (hashPairs sha256d (evened hashes)).length < hashes.length := by
  rw [length_hashPairs, length_evened]
  omega

/-- The outer loop of `compute_merkle_root`. -/
def merkleLoop (hashes : List (BytesN 32)) : List (BytesN 32) :=
  if 1 < hashes.length then merkleLoop (hashPairs sha256d (evened hashes)) else hashes
termination_by hashes.length
decreasing_by exact hashPairs_shorter sha256d ‹_›

/-- `hashes[0]`. -/
def firstHash (hashes : List (BytesN 32)) : Except Err (BytesN 32) :=
  match hashes[0]? with
  | some hash => .ok hash
  | none => .error .indexError

/-- `compute_merkle_root`. -/
def computeMerkleRoot (txids : List (BytesN 32)) : Except Err (BytesN 32) :=
  if txids = [] then .error (.valueError "Cannot compute Merkle root of empty list")
  else firstHash (merkleLoop sha256d txids)

/-- The outer loop of `generate_merkle_proof`: what it appends to the proof, and the last list. -/
def proofLoop (hashes : List (BytesN 32)) (index : Nat) :
    Except Err (List (BytesN 32) × List (BytesN 32)) :=
  if 1 < hashes.length then
    match (evened hashes)[index ^^^ 1]? with
    | none => .error .indexError
    | some sibling => do
      let (proof, hashes) ← proofLoop (hashPairs sha256d (evened hashes)) (index / 2)
      return (sibling :: proof, hashes)
  else .ok ([], hashes)
termination_by hashes.length
decreasing_by exact hashPairs_shorter sha256d ‹_›

/-- `generate_merkle_proof`: the siblings and the root. -/
def generateMerkleProof (txids : List (BytesN 32)) (txIndex : Int) :
    Except Err (List (BytesN 32) × BytesN 32) :=
  if txids = [] then .error (.valueError "Cannot generate proof for empty list")
  else if txIndex < 0 ∨ txIndex ≥ txids.length then
    .error (.valueError s!"tx_index {txIndex} out of range [0, {txids.length})")
  else do
    let (proof, hashes) ← proofLoop sha256d txids txIndex.toNat
    let root ← firstHash hashes
    return (proof, root)

/-- The loop of `verify_merkle_proof`. -/
def verifyLoop (current : BytesN 32) : List (BytesN 32) → Nat → BytesN 32
  | [], _ => current
  | sibling :: proof, index =>
    verifyLoop
      (if index &&& 1 = 0 then sha256d (current.1 ++ sibling.1)
        else sha256d (sibling.1 ++ current.1))
      proof (index / 2)

/-- `verify_merkle_proof`. -/
def verifyMerkleProof (txid merkleRoot : BytesN 32) (proof : List (BytesN 32)) (txIndex : Nat) :
    Bool :=
  verifyLoop sha256d txid proof txIndex = merkleRoot

end

/-! ### Transactions -/

/-- `TxOutput`. -/
structure TxOutput where
  value : Nat
  scriptPubkey : List UInt8
deriving DecidableEq

/-- `data[offset]`. -/
def byteAt (data : List UInt8) (offset : Nat) : Except Err UInt8 :=
  match data[offset]? with
  | some b => .ok b
  | none => .error .indexError

/-- `data[start:start + n]`. -/
def slice (data : List UInt8) (start n : Nat) : List UInt8 := (data.drop start).take n

/-- `parse_varint`: the value and the offset behind it. -/
def parseVarint (data : List UInt8) (offset : Nat) : Except Err (Nat × Nat) := do
  let first ← byteAt data offset
  if first < 0xfd then
    return (first.toNat, offset + 1)
  else if first = 0xfd then
    return (ofLittleEndian (slice data (offset + 1) 2), offset + 3)
  else if first = 0xfe then
    return (ofLittleEndian (slice data (offset + 1) 4), offset + 5)
  else
    return (ofLittleEndian (slice data (offset + 1) 8), offset + 9)

section
variable (rawTx : List UInt8)

/-- The loop over the inputs: the offset behind them. -/
def skipInputs : Nat → Nat → Except Err Nat
  | 0, offset => .ok offset
  | n + 1, offset => do
    let (scriptLen, offset) ← parseVarint rawTx (offset + 32 + 4)
    skipInputs n (offset + scriptLen + 4)

/-- The loop over the outputs. -/
def outputsLoop : Nat → Nat → Except Err (List TxOutput)
  | 0, _ => .ok []
  | n + 1, offset => do
    let value := ofLittleEndian (slice rawTx offset 8)
    let (scriptLen, offset) ← parseVarint rawTx (offset + 8)
    let scriptPubkey := slice rawTx offset scriptLen
    let outputs ← outputsLoop n (offset + scriptLen)
    return { value, scriptPubkey } :: outputs

/-- `parse_tx_outputs`. -/
def parseTxOutputs : Except Err (List TxOutput) := do
  let marker ← byteAt rawTx 4
  let offset ← if marker = 0x00 then do
      let flag ← byteAt rawTx 5
      pure (if flag = 0x01 then 6 else 4)
    else pure 4
  let (inputCount, offset) ← parseVarint rawTx offset
  let offset ← skipInputs rawTx inputCount offset
  let (outputCount, offset) ← parseVarint rawTx offset
  outputsLoop rawTx outputCount offset

end

end Rackline.BitcoinProver
