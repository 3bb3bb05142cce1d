import Rackline.CheckpointManager
import Rackline.Lib.Transition
import Rackline.Proofs.SpvInclusion

/-!
# `Rackline.Proofs.SpvAcceptance`: how long a proof is accepted

The verifier reads one checkpoint, which is set, and one pubkey hash (`verifyPayout_reads`). The
manager writes checkpoints at heights that were never used (`Recorded`, `Extends`). An accepted
proof can therefore be lost by the pubkey hash of its borrower alone, which the owner of the
verifier and the borrower may change.
-/

set_option autoImplicit false

namespace Rackline

open Evm Transition

/-! ### Checkpoints -/

namespace CheckpointManager

variable {s s' : State} {sender : Address} {call : Call}

/-- What is recorded in every state: a checkpoint stands at its own height, at most the latest one,
and has a hash, a time and a target. -/
structure Recorded (s : State) : Prop where
  at_height : ∀ h, (s.checkpoints h).height ≠ 0 → (s.checkpoints h).height = h
  le_latest : ∀ h, (s.checkpoints h).height ≠ 0 → h ≤ s.latestHeight
  complete : ∀ h, (s.checkpoints h).height ≠ 0 → (s.checkpoints h).blockHash ≠ zeroHash ∧
    (s.checkpoints h).timestamp ≠ 0 ∧ (s.checkpoints h).bits ≠ 0

/-- The checkpoints that are set stay. -/
def Extends (s s' : State) : Prop :=
  ∀ h, (s.checkpoints h).height ≠ 0 → s'.checkpoints h = s.checkpoints h

theorem Extends.trans {t : State} (h : Extends s t) (h' : Extends t s') : Extends s s' := by
  intro height hset
  have hkept := h height hset
  rw [h' height (by rw [hkept]; exact hset), hkept]

/-- What a call does: the owner changes, or a complete checkpoint is set above the latest one. -/
theorem exec_cases (h : exec s sender call = .ok s') :
    (∃ newOwner, s' = { s with owner := newOwner }) ∨
    ∃ cp : Checkpoint, cp.blockHash ≠ zeroHash ∧ cp.timestamp ≠ 0 ∧ cp.bits ≠ 0 ∧
      s.latestHeight < cp.height ∧
      s' = { s with
        checkpoints := Function.update s.checkpoints cp.height cp
        latestHeight := cp.height } := by
  unfold exec at h
  cases call with
  | transferOwnership newOwner =>
    obtain ⟨_, -, h⟩ := bind_eq_ok.mp h
    obtain ⟨_, -, h⟩ := bind_eq_ok.mp h
    cases pure_eq_ok.mp h
    exact .inl ⟨newOwner, rfl⟩
  | setCheckpoint height blockHash chainWork timestamp bits =>
    obtain ⟨_, -, h⟩ := bind_eq_ok.mp h
    obtain ⟨_, hhash, h⟩ := bind_eq_ok.mp h
    obtain ⟨_, htime, h⟩ := bind_eq_ok.mp h
    obtain ⟨_, hbits, h⟩ := bind_eq_ok.mp h
    obtain ⟨_, hheight, h⟩ := bind_eq_ok.mp h
    cases pure_eq_ok.mp h
    exact .inr ⟨⟨blockHash, height, chainWork, timestamp, bits⟩, revertIf_eq_ok.mp hhash,
      revertIf_eq_ok.mp htime, revertIf_eq_ok.mp hbits,
      UInt32.not_le.mp (revertIf_eq_ok.mp hheight), rfl⟩

theorem Recorded.deploy {owner : Address} (h : State.deploy owner = .ok s) : Recorded s := by
  obtain ⟨_, -, h⟩ := bind_eq_ok.mp h
  cases pure_eq_ok.mp h
  have hempty : Checkpoint.empty.height = 0 := rfl
  exact {
    at_height := fun _ hset => absurd hempty hset
    le_latest := fun _ hset => absurd hempty hset
    complete := fun _ hset => absurd hempty hset }

theorem Recorded.exec (h : Recorded s) (hcall : exec s sender call = .ok s') : Recorded s' := by
  obtain ⟨newOwner, rfl⟩ | ⟨cp, hhash, htime, hbits, habove, rfl⟩ := exec_cases hcall
  · exact { h with }
  · -- The new checkpoint is looked at by itself, the others are as they were.
    have hsplit : ∀ {P : UInt32 → Checkpoint → Prop}, P cp.height cp →
        (∀ height, (s.checkpoints height).height ≠ 0 → P height (s.checkpoints height)) →
        ∀ height, (Function.update s.checkpoints cp.height cp height).height ≠ 0 →
          P height (Function.update s.checkpoints cp.height cp height) := by
      intro P hnew hold height
      by_cases hsame : height = cp.height
      · rw [hsame, Function.update_self]
        exact fun _ => hnew
      · rw [Function.update_of_ne hsame]
        exact hold height
    exact {
      at_height := hsplit (P := fun height c => c.height = height) rfl h.at_height
      le_latest := hsplit (P := fun height _ => height ≤ cp.height) (UInt32.le_refl _)
        fun height hset => UInt32.le_trans (h.le_latest height hset) (UInt32.le_of_lt habove)
      complete := hsplit (P := fun _ c => c.blockHash ≠ zeroHash ∧ c.timestamp ≠ 0 ∧ c.bits ≠ 0)
        ⟨hhash, htime, hbits⟩ h.complete }

/-- A checkpoint is set where there was none. -/
theorem Recorded.extends (h : Recorded s) (hcall : CheckpointManager.exec s sender call = .ok s') :
    Extends s s' := by
  obtain ⟨newOwner, rfl⟩ | ⟨cp, -, -, -, habove, rfl⟩ := exec_cases hcall
  · exact fun _ _ => rfl
  · intro height hset
    have hne : height ≠ cp.height := by
      rintro rfl
      exact absurd (h.le_latest _ hset) (UInt32.not_le.mpr habove)
    exact Function.update_of_ne hne _ _

end CheckpointManager

namespace BtcSpvVerifier

/-! ### The verifier -/

/-- A call writes the pubkey hash of one account. -/
theorem State.exec_hash {c : Crypto} {s s' : State} {sender borrower : Address} {call : AdminCall}
    (h : s.exec c sender call = .ok s') (hother : call.writes sender ≠ some borrower) :
    s'.borrowerPubkeyHash borrower = s.borrowerPubkeyHash borrower := by
  cases call with
  | setBorrowerPubkeyHash account pubkeyHash =>
    obtain ⟨_, -, h⟩ := bind_eq_ok.mp h
    obtain ⟨_, -, h⟩ := bind_eq_ok.mp h
    cases pure_eq_ok.mp h
    exact Function.update_of_ne (fun heq => hother (congrArg some heq.symm)) _ _
  | claimBtcAddress =>
    obtain ⟨_, -, h⟩ := bind_eq_ok.mp h
    cases pure_eq_ok.mp h
    exact Function.update_of_ne (fun heq => hother (congrArg some heq.symm)) _ _
  | transferOwnership =>
    obtain ⟨_, -, h⟩ := bind_eq_ok.mp h
    obtain ⟨_, -, h⟩ := bind_eq_ok.mp h
    cases pure_eq_ok.mp h
    rfl

/-- What the verifier reads of the two contracts: a checkpoint that is set, and the pubkey hash of
the borrower. -/
theorem verifyPayout_reads {A : Type} {sha256d : List UInt8 → BytesN 32}
    {borrowerPubkeyHash borrowerPubkeyHash' : A → BytesN 20}
    {getCheckpoint getCheckpoint' : UInt32 → Checkpoint} {p : SpvProof A}
    {evidence : PayoutEvidence A}
    (h : verifyPayout sha256d borrowerPubkeyHash getCheckpoint p = .ok evidence)
    (hhash : borrowerPubkeyHash' evidence.borrower = borrowerPubkeyHash evidence.borrower)
    (hcp : (getCheckpoint p.checkpointHeight).height ≠ 0 →
      getCheckpoint' p.checkpointHeight = getCheckpoint p.checkpointHeight) :
    verifyPayout sha256d borrowerPubkeyHash' getCheckpoint' p = .ok evidence := by
  have hall := h
  unfold verifyPayout at h
  obtain ⟨_, -, h⟩ := bind_eq_ok.mp h
  obtain ⟨_, -, h⟩ := bind_eq_ok.mp h
  obtain ⟨_, -, h⟩ := bind_eq_ok.mp h
  obtain ⟨_, -, h⟩ := bind_eq_ok.mp h
  obtain ⟨_, -, h⟩ := bind_eq_ok.mp h
  obtain ⟨_, -, h⟩ := bind_eq_ok.mp h
  obtain ⟨_, -, h⟩ := bind_eq_ok.mp h
  obtain ⟨_, hanchored, h⟩ := bind_eq_ok.mp h
  obtain ⟨_, -, h⟩ := bind_eq_ok.mp h
  obtain ⟨_, -, h⟩ := bind_eq_ok.mp h
  obtain ⟨_, -, h⟩ := bind_eq_ok.mp h
  obtain ⟨_, -, h⟩ := bind_eq_ok.mp h
  obtain ⟨_, -, h⟩ := bind_eq_ok.mp h
  obtain ⟨_, -, h⟩ := bind_eq_ok.mp h
  obtain ⟨_, -, h⟩ := bind_eq_ok.mp h
  obtain ⟨_, -, h⟩ := bind_eq_ok.mp h
  obtain ⟨_, -, h⟩ := bind_eq_ok.mp h
  obtain ⟨_, -, h⟩ := bind_eq_ok.mp h
  have hborrower : p.borrower = evidence.borrower :=
    congrArg PayoutEvidence.borrower (pure_eq_ok.mp h)
  have hcp := hcp (revertIf_eq_ok.mp hanchored)
  unfold verifyPayout at hall ⊢
  rw [hborrower] at hall ⊢
  rw [hhash, hcp]
  exact hall

/-! ### Runs of both -/

variable {c : Crypto} {s s' : Contracts}

theorem recorded (h : Reachable Contracts.Initial (Contracts.Step c) s) :
    CheckpointManager.Recorded s.manager := by
  refine h.invariant (P := fun s => CheckpointManager.Recorded s.manager) ?_ ?_
  · rintro s ⟨_, _, hmanager, -⟩
    exact .deploy hmanager
  · intro s a s' hs hstep
    cases hstep with
    | manager hcall => exact hs.exec hcall
    | verifier => exact hs

/-- Once the verifier accepts a proof, it accepts it for good and with the same evidence, as long as
no call writes the pubkey hash of its borrower: whatever else happens to both contracts. No run
changes a checkpoint that is set, and each stands at its own height. -/
theorem accepted_proof_stays_accepted
    {as : List (Address × (CheckpointManager.Call ⊕ AdminCall))} {proof : List UInt8}
    {evidence : PayoutEvidence Address}
    (hs : Reachable Contracts.Initial (Contracts.Step c) s)
    (hrun : Steps (Contracts.Step c) s as s')
    (hkeep : ∀ sender call, (sender, .inr call) ∈ as →
      call.writes sender ≠ some evidence.borrower)
    (haccept : s.verifyPayout c proof = some evidence) :
    s'.verifyPayout c proof = some evidence ∧
    ∀ h, (s.manager.checkpoints h).height ≠ 0 →
      (s.manager.checkpoints h).height = h ∧
        s'.manager.checkpoints h = s.manager.checkpoints h := by
  have hrecorded := recorded hs
  have hrelated : CheckpointManager.Extends s.manager s'.manager ∧
      s'.verifier.borrowerPubkeyHash evidence.borrower =
        s.verifier.borrowerPubkeyHash evidence.borrower := by
    have hrestricted := hrun.restrict
      (Q := fun _ a => ∀ call, a.2 = .inr call → call.writes a.1 ≠ some evidence.borrower) <| by
      rintro ⟨sender, call⟩ hmem _ call' rfl
      exact hkeep sender call' hmem
    refine hrestricted.related (P := fun s => CheckpointManager.Recorded s.manager)
      (R := fun s s' => CheckpointManager.Extends s.manager s'.manager ∧
        s'.verifier.borrowerPubkeyHash evidence.borrower =
          s.verifier.borrowerPubkeyHash evidence.borrower) ?_ ?_ ?_ ?_ hrecorded
    · rintro s a s' hs ⟨-, hstep⟩
      cases hstep with
      | manager hcall => exact hs.exec hcall
      | verifier => exact hs
    · exact fun s => ⟨fun _ _ => rfl, rfl⟩
    · exact fun h h' => ⟨h.1.trans h'.1, h'.2.trans h.2⟩
    · rintro s a s' hs ⟨hwrites, hstep⟩
      cases hstep with
      | manager hcall => exact ⟨hs.extends hcall, rfl⟩
      | verifier hcall => exact ⟨fun _ _ => rfl, State.exec_hash hcall (hwrites _ rfl)⟩
  refine ⟨?_, fun h hset => ⟨hrecorded.at_height h hset, hrelated.1 h hset⟩⟩
  unfold Contracts.verifyPayout at haccept ⊢
  obtain ⟨⟨fields, ⟨⟩⟩, hdecode, hverify⟩ := Option.bind_eq_some_iff.mp haccept
  rw [hdecode]
  refine toOption_eq_some.mpr (verifyPayout_reads (toOption_eq_some.mp hverify) hrelated.2 ?_)
  intro hset
  exact congrArg CheckpointManager.Checkpoint.forVerifier (hrelated.1 _ hset)

namespace Sample

/-- The hashes of the machine. No signature is looked at. -/
def crypto : Crypto := ⟨Evm.sha256, fun _ => paidHash, fun _ _ => 0, fun _ _ _ _ => 0⟩

/-- A manager that just got the checkpoint, and a verifier that knows the pubkey hash of the
borrower. -/
def contracts : Contracts where
  manager :=
    { owner := 1
      checkpoints := Function.update (fun _ => .empty) 100
        ⟨checkpoint.blockHash, 100, 0, 1700000000, checkpoint.bits⟩
      latestHeight := 100 }
  verifier := ⟨1, Function.update (fun _ => zeroPubkeyHash) 20 paidHash⟩

/-- The owner sets a checkpoint above the latest one. -/
theorem setCheckpoint_eq (s : CheckpointManager.State) (cp : CheckpointManager.Checkpoint)
    (hhash : cp.blockHash ≠ CheckpointManager.zeroHash) (htime : cp.timestamp ≠ 0)
    (hbits : cp.bits ≠ 0) (habove : s.latestHeight < cp.height) :
    CheckpointManager.exec s s.owner
      (.setCheckpoint cp.height cp.blockHash cp.chainWork cp.timestamp cp.bits) =
      .ok { s with
        checkpoints := Function.update s.checkpoints cp.height cp
        latestHeight := cp.height } := by
  show s.setCheckpoint _ _ _ _ _ _ = _
  unfold CheckpointManager.State.setCheckpoint CheckpointManager.State.onlyOwner
  rw [revertIf_of_not _ (by simp), ok_bind, revertIf_of_not _ hhash, ok_bind,
    revertIf_of_not _ htime, ok_bind, revertIf_of_not _ hbits, ok_bind,
    revertIf_of_not _ (UInt32.not_le.mpr habove), ok_bind]
  rfl

theorem contracts_reachable : Reachable Contracts.Initial (Contracts.Step crypto) contracts := by
  have hdeployed : Contracts.Initial ⟨⟨1, fun _ => .empty, 0⟩, ⟨1, fun _ => zeroPubkeyHash⟩⟩ :=
    ⟨1, 2, rfl, rfl⟩
  have hhash : State.exec crypto ⟨1, fun _ => zeroPubkeyHash⟩ 1
      (.setBorrowerPubkeyHash 20 paidHash) = .ok contracts.verifier := rfl
  exact ((Reachable.init hdeployed).step (.manager (setCheckpoint_eq _
    ⟨checkpoint.blockHash, 100, 0, 1700000000, checkpoint.bits⟩ (by decide) (by decide) (by decide)
    (by decide)))).step (.verifier hhash)

/-- The proof of the second transaction of the block. -/
def proof : List UInt8 :=
  calldata.encode ({
    checkpointHeight := 100
    headers := [header₀, header₁, header₂, header₃, header₄, header₅]
    txBlockIndex := 0
    rawTx := spend
    merkleProof := [Evm.sha256d coinbase]
    txIndex := 1
    outputIndex := 0
    borrower := 20 }, ())

end Sample

/-- The proof is accepted after the next checkpoint too. -/
theorem accepted_proof_stays_accepted_sample :
    ∃ s' evidence, Contracts.verifyPayout Sample.crypto s' Sample.proof = some evidence ∧
      s'.manager.latestHeight = 200 ∧ evidence.borrower = 20 := by
  have haccept : ((Sample.contracts.verifyPayout Sample.crypto Sample.proof).map
      PayoutEvidence.borrower) = some 20 := by decide +kernel
  obtain ⟨evidence, haccept, hborrower⟩ := Option.map_eq_some_iff.mp haccept
  have hset := Sample.setCheckpoint_eq Sample.contracts.manager
    ⟨Sample.checkpoint.blockHash, 200, 0, 1, 1⟩ (by decide) (by decide) (by decide) (by decide)
  have hrun := Steps.single (Contracts.Step.manager (c := Sample.crypto) hset)
  refine ⟨_, evidence, (accepted_proof_stays_accepted Sample.contracts_reachable hrun ?_ haccept).1,
    rfl, hborrower⟩
  simp

end BtcSpvVerifier

end Rackline
