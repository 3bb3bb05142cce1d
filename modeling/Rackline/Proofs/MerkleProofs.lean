import Rackline.BitcoinProver
import Rackline.Lib.MerkleTree
import Mathlib.Data.Nat.Bitwise

/-!
# `Rackline.Proofs.MerkleProofs`: the proofs that the prover generates

The loops of the prover and of the contract are those of a Merkle tree whose nodes are combined by
hashing them one behind the other (`merkleLoop_eq`, `proofLoop_eq`, `verifyLoop_eq`,
`foldMerkleProof_eq`). A generated proof is therefore the branch of its leaf, and it leads to the
root.
-/

set_option autoImplicit false

namespace Rackline.BitcoinProver

open Evm MerkleTree

section
variable (sha256d : List UInt8 → BytesN 32)

/-- Two hashes, one behind the other, hashed. -/
def joined (a b : BytesN 32) : BytesN 32 := sha256d (a.1 ++ b.1)

theorem evened_eq (hashes : List (BytesN 32)) : evened hashes = even hashes := rfl

theorem hashPairs_eq : ∀ hashes : List (BytesN 32),
    hashPairs sha256d hashes = pairs (joined sha256d) hashes
  | [] => by simp [hashPairs, pairs]
  | [_] => by simp [hashPairs, pairs]
  | a :: b :: hashes => by
    rw [hashPairs, pairs, hashPairs_eq hashes]
    rfl

/-- A turn of the outer loops goes up one level. -/
theorem hashPairs_up (hashes : List (BytesN 32)) :
    hashPairs sha256d (evened hashes) = up (joined sha256d) hashes := by
  rw [hashPairs_eq, evened_eq]
  rfl

/-- The level above several hashes is one less deep. -/
theorem depth_up {hashes : List (BytesN 32)} (h : 1 < hashes.length) :
    depth hashes = depth (up (joined sha256d) hashes) + 1 := by
  have hhalf : hashes.length + 2 - 1 = hashes.length + 1 := by omega
  unfold depth
  rw [length_up, Nat.clog_of_two_le (by decide) h, hhalf]

theorem depth_one {hashes : List (BytesN 32)} (h : ¬ 1 < hashes.length) : depth hashes = 0 :=
  Nat.clog_of_right_le_one (Nat.not_lt.mp h) 2

/-- The loop of `compute_merkle_root` ends on the last level. -/
theorem merkleLoop_eq (hashes : List (BytesN 32)) :
    merkleLoop sha256d hashes = level (joined sha256d) (depth hashes) hashes := by
  fun_induction merkleLoop sha256d hashes with
  | case1 hashes h ih =>
    rw [ih, hashPairs_up, depth_up sha256d h]
    rfl
  | case2 hashes h =>
    rw [depth_one h]
    rfl

/-- The sibling of a place. -/
theorem xor_one (i : Nat) : i ^^^ 1 = sibling i := by
  have hmod : (i ^^^ 1) % 2 = (i + 1) % 2 := Nat.xor_mod_two_eq
  have hdiv : (i ^^^ 1) / 2 = i / 2 := by
    rw [Nat.xor_div_two]
    exact Nat.xor_zero (i / 2)
  unfold sibling
  split <;> omega

/-- The loop of `generate_merkle_proof` collects the branch and ends on the last level. -/
theorem proofLoop_eq (hashes : List (BytesN 32)) (index : Nat) {siblings : List (BytesN 32)}
    (h : branch (joined sha256d) (depth hashes) hashes index = some siblings) :
    proofLoop sha256d hashes index =
      .ok (siblings, level (joined sha256d) (depth hashes) hashes) := by
  fun_induction proofLoop sha256d hashes index generalizing siblings with
  | case1 hashes index hlen hnone =>
    rw [depth_up sha256d hlen] at h
    obtain ⟨s, hs, -⟩ := Option.bind_eq_some_iff.mp h
    rw [xor_one, evened_eq, hs] at hnone
    cases hnone
  | case2 hashes index hlen s hs ih =>
    rw [depth_up sha256d hlen] at h ⊢
    obtain ⟨s', hs', h⟩ := Option.bind_eq_some_iff.mp h
    obtain ⟨rest, hrest, hsiblings⟩ := Option.bind_eq_some_iff.mp h
    cases hsiblings
    rw [xor_one, evened_eq, hs'] at hs
    cases hs
    rw [hashPairs_up] at ih
    rw [hashPairs_up, ih hrest]
    rfl
  | case3 hashes index hlen =>
    rw [depth_one hlen] at h ⊢
    cases h
    rfl

theorem verifyLoop_eq : ∀ (proof : List (BytesN 32)) (current : BytesN 32) (index : Nat),
    verifyLoop sha256d current proof index = climb (joined sha256d) current proof index := by
  intro proof
  induction proof with
  | nil => intro current index; rfl
  | cons s proof ih =>
    intro current index
    unfold verifyLoop climb
    rw [ih, Nat.and_one_is_mod]
    rfl

theorem foldMerkleProof_eq : ∀ (proof : List (BytesN 32)) (current : BytesN 32) (txIndex : Nat),
    BitcoinLib.foldMerkleProof sha256d current proof txIndex =
      climb (joined sha256d) current proof txIndex := by
  intro proof
  induction proof with
  | nil => intro current txIndex; rfl
  | cons s proof ih =>
    intro current txIndex
    unfold BitcoinLib.foldMerkleProof climb
    rw [ih, Nat.and_one_is_mod]
    rfl

/-- The root is the node of the last level. -/
theorem computeMerkleRoot_eq {txids : List (BytesN 32)} (hne : txids ≠ []) {root : BytesN 32}
    (hroot : level (joined sha256d) (depth txids) txids = [root]) :
    computeMerkleRoot sha256d txids = .ok root := by
  unfold computeMerkleRoot
  rw [if_neg hne, merkleLoop_eq, hroot]
  rfl

/-- For every list of transaction ids and every place in it, the prover generates the Merkle root of
the list and a proof that the prover and the contract accept. -/
theorem generated_proof_verifies (txids : List (BytesN 32)) {i : Nat} (hi : i < txids.length) :
    ∃ proof root, generateMerkleProof sha256d txids i = .ok (proof, root) ∧
      computeMerkleRoot sha256d txids = .ok root ∧
      verifyMerkleProof sha256d txids[i] root proof i = true ∧
      BitcoinLib.verifyMerkleProof sha256d txids[i] root proof i = true := by
  have hne : txids ≠ [] := by
    rintro rfl
    cases hi
  obtain ⟨root, hroot⟩ := level_depth (joined sha256d) hne
  obtain ⟨proof, hproof⟩ := branch_isSome (joined sha256d) (d := depth txids) hi
  have hclimb := climb_branch (joined sha256d) hroot (List.getElem?_eq_getElem hi) hproof
  refine ⟨proof, root, ?_, computeMerkleRoot_eq sha256d hne hroot, ?_, ?_⟩
  · unfold generateMerkleProof
    rw [if_neg hne, if_neg (by omega), Int.toNat_natCast, proofLoop_eq sha256d txids i hproof,
      ok_bind]
    dsimp only
    rw [hroot]
    rfl
  · unfold verifyMerkleProof
    rw [verifyLoop_eq, hclimb, decide_eq_true_iff]
  · unfold BitcoinLib.verifyMerkleProof
    rw [foldMerkleProof_eq, hclimb, decide_eq_true_iff]

end

namespace Sample

/-- A function to 32 bytes: the first of the data, filled up with zeros. -/
def shortHash (data : List UInt8) : BytesN 32 := BitcoinLib.readBytes32 data 0

/-- Three ids, so that the last is doubled. -/
def txids : List (BytesN 32) :=
  [⟨List.replicate 32 1, rfl⟩, ⟨List.replicate 32 2, rfl⟩, ⟨List.replicate 32 3, rfl⟩]

end Sample

/-- The proof of the last id, whose sibling is itself. -/
theorem generated_proof_verifies_sample :
    ∃ proof root, generateMerkleProof Sample.shortHash Sample.txids 2 = .ok (proof, root) ∧
      BitcoinLib.verifyMerkleProof Sample.shortHash ⟨List.replicate 32 3, rfl⟩ root proof 2 =
        true := by
  obtain ⟨proof, root, hgenerate, -, -, hverify⟩ :=
    generated_proof_verifies Sample.shortHash Sample.txids (i := 2) (by decide)
  exact ⟨proof, root, hgenerate, hverify⟩

end Rackline.BitcoinProver
