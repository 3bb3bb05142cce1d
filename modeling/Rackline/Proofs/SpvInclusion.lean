import Rackline.Proofs.MerkleProofs
import Rackline.Proofs.ProofOfWork
import Rackline.Evm.Sha256

/-!
# `Rackline.Proofs.SpvInclusion`: what an accepted proof says about the block

An accepted proof leads from the hash of `rawTx` to the Merkle root of a block. Leaves and inner
nodes are hashed alike, and the verifier takes any number of siblings. Without a collision, a proof
with as many siblings as the tree has levels begins at a leaf, and `rawTx` is a transaction of the
block. A shorter one begins at an inner node: then `rawTx` is two nodes, one behind the other. A
longer one passes through a leaf whose transaction is two hashes, one behind the other.

`spv_inclusion` says this of `verifyPayout`. `forged_payout` is a proof without siblings that the
verifier accepts, for a block of two transactions and headers with the work that it asks for.
-/

set_option autoImplicit false

namespace Rackline.BtcSpvVerifier

open Evm BitcoinLib MerkleTree
open BitcoinProver (joined)

section
variable (sha256d : List UInt8 → BytesN 32)

/-- The ids of the transactions of a block. -/
def txids (txs : List (List UInt8)) : List (BytesN 32) := txs.map sha256d

/-- What is hashed in the tree of a block: the transactions, and the nodes in pairs. -/
def treeStrings (txs : List (List UInt8)) : List (List UInt8) :=
  txs ++ (combined (joined sha256d) (depth (txids sha256d txs)) (txids sha256d txs)).map
    fun p => p.1.1 ++ p.2.1

/-- What is hashed in a proof: the transaction, and the nodes on the way up. -/
def proofStrings (rawTx : List UInt8) (merkleProof : List (BytesN 32)) (txIndex : Nat) :
    List (List UInt8) :=
  rawTx :: (climbed (joined sha256d) (sha256d rawTx) merkleProof txIndex).map
    fun p => p.1.1 ++ p.2.1

/-- No two of the strings have the same hash. -/
def NoCollision (strings : List (List UInt8)) : Prop :=
  ∀ x ∈ strings, ∀ y ∈ strings, sha256d x = sha256d y → x = y

/-! ### A proof and a tree -/

variable {sha256d}

theorem append_inj {a b c d : BytesN 32} (h : a.1 ++ b.1 = c.1 ++ d.1) : a = c ∧ b = d := by
  obtain ⟨h₁, h₂⟩ := List.append_inj h (a.2.trans c.2.symm)
  exact ⟨Subtype.ext h₁, Subtype.ext h₂⟩

section
variable {txs : List (List UInt8)} {root : BytesN 32} {rawTx : List UInt8}
  {merkleProof : List (BytesN 32)} {txIndex : Nat}

/-- Without a collision of strings, there is none of pairs of nodes. -/
theorem NoCollision.pairs (h : NoCollision sha256d
      (treeStrings sha256d txs ++ proofStrings sha256d rawTx merkleProof txIndex)) :
    ∀ p ∈ combined (joined sha256d) (depth (txids sha256d txs)) (txids sha256d txs),
      ∀ q ∈ climbed (joined sha256d) (sha256d rawTx) merkleProof txIndex,
        joined sha256d p.1 p.2 = joined sha256d q.1 q.2 → p = q := by
  intro p hp q hq heq
  have hstring := h (p.1.1 ++ p.2.1)
    (List.mem_append_left _ (List.mem_append_right _ (List.mem_map_of_mem hp)))
    (q.1.1 ++ q.2.1)
    (List.mem_append_right _ (List.mem_cons_of_mem _ (List.mem_map_of_mem hq))) heq
  obtain ⟨h₁, h₂⟩ := append_inj hstring
  exact Prod.ext h₁ h₂

/-- A proof that is as long as the tree is deep begins at a leaf. -/
theorem climb_leaf (hroot : level (joined sha256d) (depth (txids sha256d txs)) (txids sha256d txs) =
      [root]) (hclimb : climb (joined sha256d) (sha256d rawTx) merkleProof txIndex = root)
    (hinj : NoCollision sha256d
      (treeStrings sha256d txs ++ proofStrings sha256d rawTx merkleProof txIndex))
    (hlen : merkleProof.length = depth (txids sha256d txs)) : rawTx ∈ txs := by
  have hnode := mem_level_of_climb (joined sha256d) hroot hlen.le hclimb hinj.pairs
  rw [hlen, Nat.sub_self] at hnode
  obtain ⟨tx, htx, hhash⟩ := List.mem_map.mp hnode
  have hsame := hinj tx (List.mem_append_left _ (List.mem_append_left _ htx)) rawTx
    (List.mem_append_right _ List.mem_cons_self) hhash
  rwa [← hsame]

/-- A shorter one begins at an inner node. -/
theorem climb_inner (hroot : level (joined sha256d) (depth (txids sha256d txs))
      (txids sha256d txs) = [root]) (hclimb : climb (joined sha256d) (sha256d rawTx) merkleProof txIndex = root)
    (hinj : NoCollision sha256d
      (treeStrings sha256d txs ++ proofStrings sha256d rawTx merkleProof txIndex))
    (hlen : merkleProof.length < depth (txids sha256d txs)) :
    ∃ p ∈ combined (joined sha256d) (depth (txids sha256d txs)) (txids sha256d txs),
      rawTx = p.1.1 ++ p.2.1 := by
  have hnode := mem_level_of_climb (joined sha256d) hroot hlen.le hclimb hinj.pairs
  have hj : depth (txids sha256d txs) - merkleProof.length =
      (depth (txids sha256d txs) - merkleProof.length - 1) + 1 := by omega
  rw [hj] at hnode
  obtain ⟨p, hp, hhash⟩ := mem_level_succ (joined sha256d) hnode
  have hp := neighbours_combined (joined sha256d) (d := depth (txids sha256d txs)) (by omega) hp
  refine ⟨p, hp, hinj rawTx (List.mem_append_right _ List.mem_cons_self) _ ?_ hhash⟩
  exact List.mem_append_left _ (List.mem_append_right _ (List.mem_map_of_mem hp))

/-- A longer one passes through a leaf that two hashes are combined to. -/
theorem climb_through (hroot : level (joined sha256d) (depth (txids sha256d txs))
      (txids sha256d txs) = [root])
    (hclimb : climb (joined sha256d) (sha256d rawTx) merkleProof txIndex = root)
    (hinj : NoCollision sha256d
      (treeStrings sha256d txs ++ proofStrings sha256d rawTx merkleProof txIndex))
    (hlen : depth (txids sha256d txs) < merkleProof.length) : ∃ tx ∈ txs, tx.length = 64 := by
  -- The last siblings lead from a leaf to the root, the first ones to that leaf.
  obtain ⟨first, last, hsplit, hlast⟩ : ∃ first last, merkleProof = first ++ last ∧
      last.length = depth (txids sha256d txs) := by
    refine ⟨_, _, (List.take_append_drop (merkleProof.length - depth (txids sha256d txs))
      merkleProof).symm, ?_⟩
    rw [List.length_drop]
    omega
  have hpairs := hinj.pairs
  rw [hsplit, climb_append] at hclimb
  rw [hsplit, climbed_append] at hpairs
  have hleaf := mem_level_of_climb (joined sha256d) hroot hlast.le hclimb
    fun p hp q hq => hpairs p hp q (List.mem_append_right _ hq)
  rw [hlast, Nat.sub_self] at hleaf
  obtain ⟨tx, htx, hhash⟩ := List.mem_map.mp hleaf
  have hfirst : first ≠ [] := by
    rintro rfl
    rw [hsplit, List.nil_append] at hlen
    omega
  obtain ⟨q, hq, hcombine⟩ := climb_last (joined sha256d) (x := sha256d rawTx) (i := txIndex) hfirst
  have hmem : q.1.1 ++ q.2.1 ∈ proofStrings sha256d rawTx merkleProof txIndex := by
    refine List.mem_cons_of_mem _ (List.mem_map.mpr ⟨q, ?_, rfl⟩)
    rw [hsplit, climbed_append]
    exact List.mem_append_left _ hq
  have hsame := hinj tx (List.mem_append_left _ (List.mem_append_left _ htx)) _
    (List.mem_append_right _ hmem) (hhash.trans hcombine)
  refine ⟨tx, htx, ?_⟩
  rw [hsame, List.length_append, q.1.2, q.2.2]

end

/-! ### The verifier -/

/-- The accepted headers are those of the proof. -/
theorem verifyHeaderChainFull_getElem {bits : UInt32} {header : BlockHeader} :
    ∀ {headers : List (List UInt8)} {prevHash : BytesN 32} {parsed : List BlockHeader} {i : Nat},
      verifyHeaderChainFull sha256d bits prevHash headers = .ok parsed →
      parsed[i]? = some header →
      ∃ raw, headers[i]? = some raw ∧ parseHeader raw = .ok header := by
  intro headers
  induction headers with
  | nil =>
    intro prevHash parsed i h hi
    cases h
    cases hi
  | cons raw headers ih =>
    intro prevHash parsed i h hi
    obtain ⟨first, hparse, h⟩ := bind_eq_ok.mp h
    obtain ⟨_, -, h⟩ := bind_eq_ok.mp h
    obtain ⟨_, -, h⟩ := bind_eq_ok.mp h
    obtain ⟨hash, -, h⟩ := bind_eq_ok.mp h
    obtain ⟨_, -, h⟩ := bind_eq_ok.mp h
    obtain ⟨rest, hrest, hparsed⟩ := bind_eq_ok.mp h
    cases pure_eq_ok.mp hparsed
    cases i with
    | zero =>
      cases hi
      exact ⟨raw, rfl, lib_ok.mp hparse⟩
    | succ i => exact ih hrest hi

/-- An accepted proof leads to the Merkle root of its header. -/
theorem verifyPayout_merkle {A : Type} {borrowerPubkeyHash : A → BytesN 20}
    {getCheckpoint : UInt32 → Checkpoint} {proof : SpvProof A} {evidence : PayoutEvidence A}
    (h : verifyPayout sha256d borrowerPubkeyHash getCheckpoint proof = .ok evidence) :
    ∃ raw header, proof.headers[proof.txBlockIndex.toNat]? = some raw ∧
      parseHeader raw = .ok header ∧
      climb (joined sha256d) (sha256d proof.rawTx) proof.merkleProof proof.txIndex =
        header.merkleRoot := by
  unfold verifyPayout at h
  obtain ⟨_, -, h⟩ := bind_eq_ok.mp h
  obtain ⟨_, -, h⟩ := bind_eq_ok.mp h
  obtain ⟨_, -, h⟩ := bind_eq_ok.mp h
  obtain ⟨_, -, h⟩ := bind_eq_ok.mp h
  obtain ⟨_, -, h⟩ := bind_eq_ok.mp h
  obtain ⟨_, -, h⟩ := bind_eq_ok.mp h
  obtain ⟨_, -, h⟩ := bind_eq_ok.mp h
  obtain ⟨_, -, h⟩ := bind_eq_ok.mp h
  obtain ⟨_, -, h⟩ := bind_eq_ok.mp h
  obtain ⟨_, -, h⟩ := bind_eq_ok.mp h
  obtain ⟨parsed, hchain, h⟩ := bind_eq_ok.mp h
  obtain ⟨header, hheader, h⟩ := bind_eq_ok.mp h
  obtain ⟨_, hmerkle, -⟩ := bind_eq_ok.mp h
  have hat : parsed[proof.txBlockIndex.toNat]? = some header := by
    unfold headerAt at hheader
    split at hheader
    next found hfound =>
      cases hheader
      exact hfound
    next => cases hheader
  obtain ⟨raw, hraw, hparse⟩ := verifyHeaderChainFull_getElem hchain hat
  refine ⟨raw, header, hraw, hparse, ?_⟩
  have hverified := revertIf_eq_ok.mp hmerkle
  rw [Bool.not_eq_false] at hverified
  unfold verifyMerkleProof at hverified
  rw [BitcoinProver.foldMerkleProof_eq] at hverified
  exact of_decide_eq_true hverified

end

/-- What an accepted proof says about the block whose Merkle root its header carries: with as many
siblings as the tree has levels, `rawTx` is a transaction of the block, and in a block without
transactions of 64 bytes only then. With fewer siblings `rawTx` is two nodes of the tree, one behind
the other. -/
theorem spv_inclusion {A : Type} (sha256d : List UInt8 → BytesN 32)
    {borrowerPubkeyHash : A → BytesN 20} {getCheckpoint : UInt32 → Checkpoint}
    {proof : SpvProof A} {evidence : PayoutEvidence A}
    (haccept : verifyPayout sha256d borrowerPubkeyHash getCheckpoint proof = .ok evidence)
    {txs : List (List UInt8)} {raw : List UInt8} {header : BlockHeader}
    (hraw : proof.headers[proof.txBlockIndex.toNat]? = some raw)
    (hheader : parseHeader raw = .ok header)
    (hroot : BitcoinProver.computeMerkleRoot sha256d (txids sha256d txs) = .ok header.merkleRoot)
    (hinj : NoCollision sha256d (treeStrings sha256d txs ++
      proofStrings sha256d proof.rawTx proof.merkleProof proof.txIndex)) :
    (proof.merkleProof.length = Nat.clog 2 txs.length → proof.rawTx ∈ txs) ∧
    ((∀ tx ∈ txs, tx.length ≠ 64) →
      (proof.rawTx ∈ txs ↔ proof.merkleProof.length = Nat.clog 2 txs.length)) ∧
    (proof.merkleProof.length < Nat.clog 2 txs.length →
      ∃ p ∈ combined (joined sha256d) (Nat.clog 2 txs.length) (txids sha256d txs),
        proof.rawTx = p.1.1 ++ p.2.1) := by
  have hdepth : depth (txids sha256d txs) = Nat.clog 2 txs.length := by
    unfold depth txids
    rw [List.length_map]
  have hne : txids sha256d txs ≠ [] := by
    intro hnil
    rw [hnil] at hroot
    cases hroot
  obtain ⟨root, hlevel⟩ := level_depth (joined sha256d) hne
  have hsame := hroot.symm.trans (BitcoinProver.computeMerkleRoot_eq sha256d hne hlevel)
  rw [Except.ok.injEq] at hsame
  obtain ⟨raw', header', hraw', hheader', hclimb⟩ := verifyPayout_merkle haccept
  cases hraw.symm.trans hraw'
  cases hheader.symm.trans hheader'
  rw [hsame] at hclimb
  rw [← hdepth]
  refine ⟨climb_leaf hlevel hclimb hinj, ?_, climb_inner hlevel hclimb hinj⟩
  intro hno64
  refine ⟨?_, climb_leaf hlevel hclimb hinj⟩
  intro hmem
  rcases lt_trichotomy proof.merkleProof.length (depth (txids sha256d txs)) with hlt | heq | hgt
  · obtain ⟨p, -, hp⟩ := climb_inner hlevel hclimb hinj hlt
    refine absurd ?_ (hno64 _ hmem)
    rw [hp, List.length_append, p.1.2, p.2.2]
  · exact heq
  · obtain ⟨tx, htx, hlen⟩ := climb_through hlevel hclimb hinj hgt
    exact absurd hlen (hno64 tx htx)

namespace Sample

/-- The first transaction of the block. -/
def coinbase : List UInt8 :=
  bigEndian 32 0x0100000001000000000000000000000000000000000000000000000000000000 ++
    bigEndian 32 0x0000000000ffffffff04881b0000ffffffff0100f2052a010000001600140102 ++
    bigEndian 22 0x030405060708090a0b0c0d0e0f101112131400000000

/-- The second one. -/
def spend : List UInt8 :=
  bigEndian 32 0x0100000001fb7d63fccf0e6b19ca741f560c199281df611e86481c47a466146b ++
    bigEndian 32 0x1773d19b270000000000ffffffff01a08601000000000016001415161718191a ++
    bigEndian 18 0x1b1c1d1e1f202122232425262728a4492100

/-- The header of the block. -/
def header₀ : List UInt8 :=
  bigEndian 32 0x010000000a46c63fd3d7e71f982774a541549ce920c7afb9c9ecf742214e22cb ++
    bigEndian 32 0x9eab398fea115133f8998add4186e8d9f4c854c230fe4ccc00ddf362addb6b79 ++
    bigEndian 16 0xb0a4da1500f15365ffff001d01b5219a

/-- A header behind it. -/
def header₁ : List UInt8 :=
  bigEndian 32 0x01000000000000008a595c12e0941418a49961b5ca1bd5539b090a41c8f28024 ++
    bigEndian 32 0x937806c7e263cfbb06d5d6fb63a7b97256a59120f8116ca37edbc8e818d02296 ++
    bigEndian 16 0xb021b35b58f35365ffff001d96193dc2

/-- A header behind it. -/
def header₂ : List UInt8 :=
  bigEndian 32 0x0100000000000000ef6eddcaea98cb35b767fe910c97466e2c7a53e9d7a6963f ++
    bigEndian 32 0xd8ec197a0bdadaad7e480727a17635e0b3219b6c0f4014ae28db73365442756f ++
    bigEndian 16 0xd7c9c82eb2f55365ffff001db7aabe74

/-- A header behind it. -/
def header₃ : List UInt8 :=
  bigEndian 32 0x0100000000000000b7742eb8d487b30d8870a2ce112aea4b6875eddb3da84ce1 ++
    bigEndian 32 0xa6addcae739b7bb6dbe290006ba317f7e938e2c884ac918cbcd139665e0de28f ++
    bigEndian 16 0x99e025c408f85365ffff001d77870b7d

/-- A header behind it. -/
def header₄ : List UInt8 :=
  bigEndian 32 0x01000000000000002729fe4e2836915a4f07499134000cdff289cc2f8003f398 ++
    bigEndian 32 0x052620037897f999b92a323395cc447d13fb8d7163ebf9c7802fad767638d900 ++
    bigEndian 16 0x3116647d60fa5365ffff001db3bf88e5

/-- A header behind it. -/
def header₅ : List UInt8 :=
  bigEndian 32 0x0100000000000000944ed32f5b9fcfab8bcad6fbd7db0f9b1f0987d2bfc76f4b ++
    bigEndian 32 0x2bb6299489cd21546eb3f0120f1d1b596aae0c9a8c286f71e243e108c26dac7f ++
    bigEndian 16 0x8cde8b87b9fc5365ffff001d80f71f4b

/-- The transactions of the block. -/
def block : List (List UInt8) := [coinbase, spend]

/-- The two ids, one behind the other: 64 bytes that parse as a transaction without inputs. -/
def twoIds : List UInt8 := (Evm.sha256d coinbase).1 ++ (Evm.sha256d spend).1

/-- The pubkey hash of the borrower. -/
def pubkeyHash : BytesN 20 := ⟨bigEndian 20 0x6a0269b801454cd0c9c52ed359cc8a8a0ceb3329, rfl⟩

/-- The block before `header₀`. -/
def checkpoint : Checkpoint where
  blockHash :=
    ⟨bigEndian 32 0x0a46c63fd3d7e71f982774a541549ce920c7afb9c9ecf742214e22cb9eab398f, rfl⟩
  height := 100
  bits := 0x1d00ffff

/-- A proof without siblings, of the second output of `twoIds`. -/
def forged : SpvProof Unit where
  checkpointHeight := 100
  headers := [header₀, header₁, header₂, header₃, header₄, header₅]
  txBlockIndex := 0
  rawTx := twoIds
  merkleProof := []
  txIndex := 0
  outputIndex := 1
  borrower := ()

/-- A proof of the second transaction. -/
def honest : SpvProof Unit := { forged with
  rawTx := spend
  merkleProof := [Evm.sha256d coinbase]
  txIndex := 1
  outputIndex := 0 }

/-- The pubkey hash that the second transaction pays to. -/
def paidHash : BytesN 20 := ⟨bigEndian 20 0x15161718191a1b1c1d1e1f202122232425262728, rfl⟩

/-- What the verifier makes of the proof without siblings. -/
def forgedEvidence : PayoutEvidence Unit where
  borrower := ()
  txid := Evm.sha256d twoIds
  vout := 1
  amountSats := 16721412800627124636
  blockHeight := 101
  blockTimestamp := 1700000000

/-- The tree has one level above the ids. -/
theorem block_depth : depth (txids Evm.sha256d block) = 1 := by
  show Nat.clog 2 2 = 1
  decide

/-- It has one pair. -/
theorem block_strings : treeStrings Evm.sha256d block = [coinbase, spend, twoIds] := by
  unfold treeStrings
  rw [block_depth]
  rfl

/-- Its root is in the header. -/
theorem block_root : ∃ header, parseHeader header₀ = .ok header ∧
    BitcoinProver.computeMerkleRoot Evm.sha256d (txids Evm.sha256d block) =
      .ok header.merkleRoot := by
  have hroot : BitcoinProver.computeMerkleRoot Evm.sha256d (txids Evm.sha256d block) =
      .ok (Evm.sha256d twoIds) := by
    have hne : txids Evm.sha256d block ≠ [] := List.cons_ne_nil _ _
    refine BitcoinProver.computeMerkleRoot_eq Evm.sha256d hne ?_
    rw [block_depth]
    rfl
  have hparse : ((parseHeader header₀).toOption.map (·.merkleRoot)) =
      some (Evm.sha256d twoIds) := by decide +kernel
  obtain ⟨header, hheader, hsame⟩ := Option.map_eq_some_iff.mp hparse
  refine ⟨header, toOption_eq_some.mp hheader, ?_⟩
  rw [hroot, hsame]

end Sample

/-- With the hash of Bitcoin the verifier accepts two ids, one behind the other, for a payout of the
block, though no hashes collide and they are no transaction of it. -/
theorem forged_payout :
    verifyPayout Evm.sha256d (fun _ => Sample.pubkeyHash) (fun _ => Sample.checkpoint)
      Sample.forged = .ok Sample.forgedEvidence ∧
    (∃ header, parseHeader Sample.header₀ = .ok header ∧
      BitcoinProver.computeMerkleRoot Evm.sha256d (txids Evm.sha256d Sample.block) =
        .ok header.merkleRoot) ∧
    NoCollision Evm.sha256d (treeStrings Evm.sha256d Sample.block ++
      proofStrings Evm.sha256d Sample.forged.rawTx Sample.forged.merkleProof
        Sample.forged.txIndex) ∧
    Sample.forged.rawTx ∉ Sample.block := by
  refine ⟨?_, Sample.block_root, ?_, by decide +kernel⟩
  · exact toOption_eq_some.mp (by decide +kernel)
  · rw [Sample.block_strings]
    have hdistinct : ∀ x ∈ [Sample.coinbase, Sample.spend, Sample.twoIds, Sample.twoIds],
        ∀ y ∈ [Sample.coinbase, Sample.spend, Sample.twoIds, Sample.twoIds],
          Evm.sha256d x = Evm.sha256d y → x = y := by decide +kernel
    exact hdistinct

/-- The proof of the second transaction has one sibling, as the tree has one level. -/
theorem spv_inclusion_sample :
    (verifyPayout Evm.sha256d (fun _ => Sample.paidHash) (fun _ => Sample.checkpoint)
      Sample.honest).toOption.isSome = true ∧ Sample.honest.rawTx ∈ Sample.block := by
  have haccept : (verifyPayout Evm.sha256d (fun _ => Sample.paidHash)
      (fun _ => Sample.checkpoint) Sample.honest).toOption.isSome = true := by decide +kernel
  refine ⟨haccept, ?_⟩
  obtain ⟨evidence, hevidence⟩ := Option.isSome_iff_exists.mp haccept
  obtain ⟨header, hheader, hroot⟩ := Sample.block_root
  refine (spv_inclusion Evm.sha256d (toOption_eq_some.mp hevidence) rfl hheader hroot ?_).1 ?_
  · rw [Sample.block_strings]
    have hdistinct : ∀ x ∈ [Sample.coinbase, Sample.spend, Sample.twoIds, Sample.spend,
          Sample.twoIds], ∀ y ∈ [Sample.coinbase, Sample.spend, Sample.twoIds, Sample.spend,
          Sample.twoIds], Evm.sha256d x = Evm.sha256d y → x = y := by decide +kernel
    exact hdistinct
  · show 1 = Nat.clog 2 2
    decide

end Rackline.BtcSpvVerifier
