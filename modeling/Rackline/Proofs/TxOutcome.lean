import Rackline.Dispatcher
import Rackline.Proofs.NonceSlots

/-!
# `Rackline.Proofs.TxOutcome`: what an intent ends in

An intent is to end in what the chain did with it: `FINALIZED` or `FAILED`, with the block of the
receipt, once one of its hashes has a receipt at the finality depth.

`reconcile` compares an intent in `PENDING_MINED` with the chain only as far as some hash still has
a canonical receipt. When the transaction moved to another block, or failed there, and no
`reconcile` saw the time in between, the row keeps the old block, and a failed transaction stays
`PENDING_MINED`. So the guarantee holds for the evolutions of the chain that do not take an intent
in `PENDING_MINED` to such a receipt at the finality depth, and for no others.

`TxTable.Opens` says once what the calls other than `reconcile` do.
-/

set_option autoImplicit false

namespace Rackline

open Evm Transition

/-! ### The guarantee -/

/-- The row records what the receipt shows. -/
structure Intent.Records (i : Intent) (receipt : TxReceipt) : Prop where
  state : i.state = if receipt.status = 1 then .FINALIZED else .FAILED
  block : i.minedBlock = some receipt.blockNumber

namespace DispatchState

variable (d : Dispatcher) (s : DispatchState)

/-- What a chain promises whose reorgs are shallower than the finality depth. -/
structure ChainHolds : Prop where
  status : ∀ hash receipt, s.chain.canonical hash = some receipt →
    receipt.status = 0 ∨ receipt.status = 1
  /-- The hashes of an intent have one nonce, and the chain takes one transaction per nonce. -/
  one : ∀ id, ∀ h₁ ∈ s.table.allHashes id, ∀ h₂ ∈ s.table.allHashes id,
    (s.chain.canonical h₁).isSome = true → (s.chain.canonical h₂).isSome = true → h₁ = h₂
  shallow : ∀ node ∈ s.past, ∀ hash receipt, node.canonical hash = some receipt →
    d.finalityDepth ≤ node.depth receipt → s.chain.canonical hash = some receipt

/-- Once a hash of an intent has a canonical receipt at the finality depth, the next `reconcile`
ends in what it shows. -/
def Settles : Prop :=
  ∀ i ∈ s.table.rows, ∀ hash ∈ s.table.allHashes i.txIntentId, ∀ receipt,
    s.chain.canonical hash = some receipt → d.finalityDepth ≤ s.chain.depth receipt →
      ∃ t i', d.reconcile s.table i.txIntentId s.chain = .ok t ∧
        t.get i.txIntentId = .ok i' ∧ i'.Records receipt

/-- An intent is `FINALIZED` or `FAILED` only if one of its hashes has a canonical receipt that
shows it, and that receipt was at the finality depth. -/
def OnlySettled : Prop :=
  ∀ i ∈ s.table.rows, i.state = .FINALIZED ∨ i.state = .FAILED →
    ∃ hash ∈ s.table.allHashes i.txIntentId, ∃ receipt,
      s.chain.canonical hash = some receipt ∧ i.Records receipt ∧
        ∃ node ∈ s.chain :: s.past, node.canonical hash = some receipt ∧
          d.finalityDepth ≤ node.depth receipt

/-- The intents agree with the chain. -/
structure Agrees : Prop where
  settles : s.Settles d
  onlySettled : s.OnlySettled d

/-- No intent in `PENDING_MINED` has a receipt on the chain, at the finality depth, that failed or
is in another block. -/
def Current (node : TxNode) : Prop :=
  ∀ i ∈ s.table.rows, i.state = .PENDING_MINED → ∀ hash ∈ s.table.allHashes i.txIntentId,
    ∀ receipt, node.canonical hash = some receipt → d.finalityDepth ≤ node.depth receipt →
      receipt.status = 1 ∧ i.minedBlock = some receipt.blockNumber

end DispatchState

/-- One action, on a chain that keeps its promises. -/
def DispatchStep (d : Dispatcher) (s : DispatchState) (a : DispatchAction) (s' : DispatchState) :
    Prop :=
  s' = d.next s a ∧ s'.ChainHolds d

/-- The chain does not go on to a receipt that an intent in `PENDING_MINED` misses. -/
def DispatchAction.KeepsMined (d : Dispatcher) (s : DispatchState) : DispatchAction → Prop
  | chain node => s.Current d node
  | _ => True

/-! ### The table -/

namespace TxTable

variable {t t' : TxTable} {i j cur r : Intent} {id : String} {hash : HexString}
  {target : IntentState} {setSql : Intent → Intent} {signed : SignedTx}

theorem Sound.get_of_mem (h : t.Sound) (hcur : cur ∈ t.rows) (hid : cur.txIntentId = id) :
    t.get id = .ok cur := by
  unfold get
  cases hfind : t.rows.find? fun i => i.txIntentId == id with
  | none =>
    have hnone := List.find?_eq_none.mp hfind cur hcur
    simp [hid] at hnone
  | some found =>
    have hsame : found.txIntentId = id := by simpa using List.find?_some hfind
    rw [h.eq_of_id (List.mem_of_find?_eq_some hfind) hcur (hsame.trans hid.symm)]

theorem mem_set (hr : r ∈ (t.set i).rows) : r = i ∨ r ∈ t.rows ∧ r.txIntentId ≠ i.txIntentId := by
  obtain ⟨r₀, hr₀, heq⟩ := List.mem_map.mp hr
  split at heq
  · exact .inl heq.symm
  · rename_i hother
    rw [← heq]
    exact .inr ⟨hr₀, hother⟩

theorem self_mem_set (hcur : cur ∈ t.rows) (hid : i.txIntentId = cur.txIntentId) :
    i ∈ (t.set i).rows :=
  List.mem_map.mpr ⟨cur, hcur, if_pos hid.symm⟩

/-- Of two updates of one row the later counts. -/
theorem set_set (hid : j.txIntentId = i.txIntentId) : (t.set i).set j = t.set j := by
  simp only [set, List.map_map, TxTable.mk.injEq, and_true]
  refine List.map_congr_left fun r _ => ?_
  simp only [Function.comp_apply, hid]
  split
  · exact if_pos rfl
  · rfl

/-- A signature adds a hash to its intent and to no other. -/
theorem allHashes_writeSigned_of_ne (hne : i.txIntentId ≠ id) :
    (t.writeSigned i signed).allHashes id = t.allHashes id := by
  simp [allHashes, writeSigned, hne]

/-- What every table of signed intents is like. -/
structure Signed (t : TxTable) : Prop where
  sound : t.Sound
  checks : ∀ i ∈ t.rows, i.Checks
  hash : ∀ i ∈ t.rows, i.txHash.isSome = true
  distinct : ∀ i ∈ t.rows, ∀ j ∈ t.rows, i.txHash = j.txHash → i = j
  notReplaced : ∀ i ∈ t.rows, i.state ≠ .REPLACED

theorem initial_signed : TxTable.initial.Signed := by
  have hempty : ∀ i, i ∉ TxTable.initial.rows := fun i => List.not_mem_nil
  exact ⟨initial_sound, fun i hi => absurd hi (hempty i), fun i hi => absurd hi (hempty i),
    fun i hi => absurd hi (hempty i), fun i hi => absurd hi (hempty i)⟩

theorem update_fresh (h : t.update i = .ok t') (hhash : i.txHash.isSome = true) :
    ∀ r ∈ t.rows, r.txIntentId ≠ i.txIntentId → r.txHash ≠ i.txHash := by
  intro r hr hother hsame
  obtain ⟨_, hguard, h⟩ := bind_eq_ok.mp h
  exact revertIf_eq_ok.mp hguard (.inr ⟨r, hr, hother, by rwa [hsame], hsame⟩)

/-- A table whose rows are those of one in order, and one more with a hash of its own. -/
theorem Signed.of_rows (h : t.Signed) (hsound : t'.Sound)
    (hrows : ∀ r ∈ t'.rows, r = i ∨ r ∈ t.rows ∧ r.txHash ≠ i.txHash) (hchecks : i.Checks)
    (hhash : i.txHash.isSome = true) (hstate : i.state ≠ .REPLACED) : t'.Signed := by
  refine ⟨hsound, ?_, ?_, ?_, ?_⟩
  · intro r hr
    rcases hrows r hr with rfl | ⟨hr, -⟩
    · exact hchecks
    · exact h.checks r hr
  · intro r hr
    rcases hrows r hr with rfl | ⟨hr, -⟩
    · exact hhash
    · exact h.hash r hr
  · intro r hr r' hr' hsame
    rcases hrows r hr with heq | ⟨hr, hother⟩ <;> rcases hrows r' hr' with heq' | ⟨hr', hother'⟩
    · rw [heq, heq']
    · rw [heq] at hsame
      exact absurd hsame.symm hother'
    · rw [heq'] at hsame
      exact absurd hsame hother
    · exact h.distinct r hr r' hr' hsame
  · intro r hr
    rcases hrows r hr with rfl | ⟨hr, -⟩
    · exact hstate
    · exact h.notReplaced r hr

/-- An update that goes through keeps the table in order. -/
theorem Signed.update (h : t.Signed) (hok : t.update i = .ok t') (hcur : cur ∈ t.rows)
    (hid : i.txIntentId = cur.txIntentId) (hnonce : i.nonce = cur.nonce)
    (hhash : i.txHash.isSome = true) (hstate : i.state ≠ .REPLACED) : t'.Signed := by
  have hfresh := update_fresh hok hhash
  obtain ⟨hchecks, rfl⟩ := update_ok hok
  refine h.of_rows (h.sound.set hcur hid hnonce) (fun r hr => ?_) hchecks hhash hstate
  exact (mem_set hr).imp_right fun ⟨hr, hother⟩ => ⟨hr, hfresh r hr hother⟩

/-- A row that keeps its hash can be updated. -/
theorem Signed.update_eq (h : t.Signed) (hcur : cur ∈ t.rows)
    (hid : i.txIntentId = cur.txIntentId) (hhash : i.txHash = cur.txHash) (hchecks : i.Checks) :
    t.update i = .ok (t.set i) := by
  have hfree : ¬(¬i.Checks ∨ ∃ r ∈ t.rows, r.txIntentId ≠ i.txIntentId ∧ r.txHash.isSome = true ∧
      r.txHash = i.txHash) := by
    rintro (hbad | ⟨r, hr, hother, -, hsame⟩)
    · exact hbad hchecks
    · rw [h.distinct r hr cur hcur (hsame.trans hhash)] at hother
      exact hother hid.symm
  unfold TxTable.update
  rw [revertIf_of_not _ hfree, ok_bind]
  rfl

/-- A transition that is allowed, to a row that meets the checks, goes through. -/
theorem Signed.transition_eq (setSql : Intent → Intent) (h : t.Signed) (hcur : cur ∈ t.rows) (hid : cur.txIntentId = id)
    (hallowed : target ∈ cur.state.transitions)
    (hset : ∀ i, (setSql i).txIntentId = i.txIntentId ∧ (setSql i).txHash = i.txHash)
    (hchecks : ({ setSql cur with state := target } : Intent).Checks) :
    t.transition id target setSql = .ok (t.set { setSql cur with state := target }) := by
  unfold transition
  rw [h.sound.get_of_mem hcur hid, ok_bind, revertIf_of_not _ fun hbad => hbad.2 hallowed, ok_bind]
  exact h.update_eq hcur (hset cur).1 (hset cur).2 hchecks

/-- What a transition that goes through leaves. -/
theorem Signed.transition (h : t.Signed) (hok : t.transition id target setSql = .ok t')
    (hcur : cur ∈ t.rows) (hid : cur.txIntentId = id) (htarget : target ≠ .REPLACED)
    (hset : ∀ i, (setSql i).txIntentId = i.txIntentId ∧ (setSql i).nonce = i.nonce ∧
      (setSql i).txHash = i.txHash) :
    ∃ i, i = { setSql cur with state := target } ∧ i.txIntentId = cur.txIntentId ∧
      i.nonce = cur.nonce ∧ i.txHash = cur.txHash ∧ t'.Signed ∧ t' = t.set i := by
  obtain ⟨found, hget, hok⟩ := bind_eq_ok.mp hok
  obtain ⟨_, -, hok⟩ := bind_eq_ok.mp hok
  rw [h.sound.get_of_mem hcur hid] at hget
  cases hget
  obtain ⟨hsame, hnonce, hhash⟩ := hset cur
  have hsome : (setSql cur).txHash.isSome = true := by
    rw [hhash]
    exact h.hash cur hcur
  exact ⟨_, rfl, hsame, hnonce, hhash, h.update hok hcur hsame hnonce hsome htarget, (update_ok hok).2⟩

end TxTable

/-- A row with a hash that keeps it, and what it is for, meets the checks if its blocks do. -/
theorem Intent.Checks.of_same {cur i : Intent} (h : cur.Checks) (hsome : cur.txHash.isSome = true)
    (hhash : i.txHash = cur.txHash) (hid : i.txIntentId = cur.txIntentId) (hspec : i.spec = cur.spec)
    (hfinal : i.state = .FINALIZED → i.minedBlock.isSome = true ∧ i.finalityBlock.isSome = true ∧
      i.minedBlock.getD 0 ≤ i.finalityBlock.getD 0) : i.Checks where
  finalBlocks := hfinal
  sentHasHash := fun _ => by rw [hhash]; exact hsome
  tx := by rw [hhash]; exact h.tx
  noSelfReplace := by rw [hspec, hid]; exact h.noSelfReplace

/-! ### What the other calls do -/

/-- The rows that are not `PENDING` or `SENT` are old ones, and no hash was signed for them. -/
structure TxTable.Opens (t t' : TxTable) : Prop where
  signed : t'.Signed
  kept : ∀ i ∈ t'.rows, i.state = .PENDING ∨ i.state = .SENT ∨
    i ∈ t.rows ∧ t'.allHashes i.txIntentId = t.allHashes i.txIntentId

namespace TxTable

variable {t t' : TxTable} {i cur : Intent} {id : String} {signed : SignedTx}

theorem Signed.refl (h : t.Signed) : t.Opens t :=
  ⟨h, fun _ hi => .inr (.inr ⟨hi, rfl⟩)⟩

/-- A signature for a row that is `PENDING`. -/
theorem Signed.sign (h : t'.Signed) (hrows : ∀ r ∈ t'.rows, r = i ∨
      r ∈ t.rows ∧ r.txIntentId ≠ i.txIntentId) (hhashes : t'.signed = t.signed)
    (hpending : i.state = .PENDING) (hid : cur.txIntentId = i.txIntentId) :
    t.Opens (t'.writeSigned cur signed) where
  signed := ⟨⟨h.sound.ids, h.sound.nonces⟩, h.checks, h.hash, h.distinct, h.notReplaced⟩
  kept := by
    intro r hr
    rcases hrows r hr with rfl | ⟨hr, hother⟩
    · exact .inl hpending
    · refine .inr (.inr ⟨hr, ?_⟩)
      rw [allHashes_writeSigned_of_ne (by rw [hid]; exact hother.symm)]
      simp only [allHashes, hhashes]

theorem Signed.recordFeeBump (h : t.Signed) (hok : t.recordFeeBump id signed = .ok t') :
    t.Opens t' := by
  obtain ⟨cur, hget, hok⟩ := bind_eq_ok.mp hok
  obtain ⟨_, -, hok⟩ := bind_eq_ok.mp hok
  obtain ⟨_, -, hok⟩ := bind_eq_ok.mp hok
  obtain ⟨t₁, hupdate, hok⟩ := bind_eq_ok.mp hok
  cases hok
  have hsigned := h.update hupdate (get_ok hget).1 rfl rfl rfl nofun
  obtain ⟨-, rfl⟩ := update_ok hupdate
  exact hsigned.sign (fun r hr => mem_set hr) rfl rfl rfl

/-- In a table of signed intents `create` adds a row. -/
theorem Signed.create_ok {nonce : Nat} {spec : IntentSpec} (h : t.Signed)
    (hok : t.create id nonce spec = .ok (i, t')) :
    i.txIntentId = id ∧ (∀ r ∈ t.rows, r.txIntentId ≠ id) ∧ t'.rows = t.rows ++ [i] ∧
      t'.signed = t.signed := by
  unfold create at hok
  split at hok
  · -- Every intent has a hash, so none has given up its nonce.
    rename_i stale hfind
    have hfound := List.find?_some hfind
    have hsome := h.hash stale (List.mem_of_find?_eq_some hfind)
    simp only [Bool.and_eq_true, Bool.not_eq_true', Intent.holdsNonce, decide_eq_false_iff_not,
      Classical.not_not] at hfound
    rw [hfound.2.2] at hsome
    cases hsome
  · obtain ⟨_, hguard, hok⟩ := bind_eq_ok.mp hok
    cases hok
    refine ⟨rfl, fun r hr hsame => ?_, rfl, rfl⟩
    exact revertIf_eq_ok.mp hguard (.inr ⟨r, hr, .inl hsame⟩)

/-- `create` and `record_signed` in one transaction. -/
theorem Signed.createSigned {pendingCount : Nat} {spec : IntentSpec} {t₁ : TxTable} (h : t.Signed)
    (hcreate : t.create id (t.allocateNonce pendingCount) spec = .ok (i, t₁))
    (hrecord : t₁.recordSigned i.txIntentId signed = .ok t') : t.Opens t' := by
  have hsound := (h.sound.create hcreate).1
  have hsound' : t'.Sound := (hsound.recordSigned 0 hrecord).1
  obtain ⟨hid, hfresh, hrows, hhashes⟩ := h.create_ok hcreate
  obtain ⟨cur, hget, hok⟩ := bind_eq_ok.mp hrecord
  obtain ⟨_, hstate, hok⟩ := bind_eq_ok.mp hok
  obtain ⟨_, -, hok⟩ := bind_eq_ok.mp hok
  obtain ⟨t₂, hupdate, hok⟩ := bind_eq_ok.mp hok
  cases hok
  have hpending : cur.state = .PENDING := Classical.not_not.mp (revertIf_eq_ok.mp hstate)
  have hsame : cur.txIntentId = id := (get_ok hget).2.trans hid
  have hnew := update_fresh hupdate rfl
  obtain ⟨hchecks, rfl⟩ := update_ok hupdate
  -- Apart from the signed row, the rows are those from before.
  have hkept : ∀ r ∈ (t₁.set { cur with txHash := some signed.txHash }).rows,
      r = { cur with txHash := some signed.txHash } ∨
        r ∈ t.rows ∧ r.txIntentId ≠ cur.txIntentId ∧ r.txHash ≠ some signed.txHash := by
    intro r hr
    refine (mem_set hr).imp_right fun ⟨hmem, hother⟩ => ⟨?_, hother, hnew r hmem hother⟩
    rw [hrows] at hmem
    rcases List.mem_append.mp hmem with hold | hlast
    · exact hold
    · rw [List.mem_singleton] at hlast
      rw [hlast] at hother
      exact absurd (hid.trans hsame.symm) hother
  have hsigned : (t₁.set { cur with txHash := some signed.txHash }).Signed :=
    h.of_rows ⟨hsound'.ids, hsound'.nonces⟩ (fun r hr => (hkept r hr).imp_right fun hold =>
      ⟨hold.1, hold.2.2⟩) hchecks rfl (by rw [hpending]; exact nofun)
  exact hsigned.sign (i := { cur with txHash := some signed.txHash })
    (fun r hr => (hkept r hr).imp_right fun hold => ⟨hold.1, hold.2.1⟩) hhashes hpending rfl

end TxTable

namespace Dispatcher

variable {d : Dispatcher} {t t' : TxTable} {i : Intent} {id : String}

theorem prepare_opens {jobId purpose : String} {calldata : HexString}
    {simulated : Option Simulation} (h : t.Signed)
    (hok : d.prepare t id jobId purpose calldata simulated = .ok (i, t')) : t.Opens t' := by
  obtain ⟨p, -, hok⟩ := bind_eq_ok.mp hok
  split at hok
  · cases hok
  · simp only at hok
    split at hok
    · obtain ⟨_, -, hok⟩ := bind_eq_ok.mp hok
      cases hok
      exact h.refl
    · split at hok
      · cases hok
      · obtain ⟨_, -, hok⟩ := bind_eq_ok.mp hok
        obtain ⟨⟨created, t₁⟩, hcreate, hok⟩ := bind_eq_ok.mp hok
        obtain ⟨t₂, hrecord, hok⟩ := bind_eq_ok.mp hok
        obtain ⟨i', -, hok⟩ := bind_eq_ok.mp hok
        cases hok
        exact h.createSigned hcreate hrecord

theorem broadcast_opens {sent : Option HexString} (h : t.Signed)
    (hok : d.broadcast t id sent = .ok t') : t.Opens t' := by
  obtain ⟨cur, hget, hok⟩ := bind_eq_ok.mp hok
  obtain ⟨hcur, hid⟩ := TxTable.get_ok hget
  split at hok
  · cases hok
    exact h.refl
  · obtain ⟨_, -, hok⟩ := bind_eq_ok.mp hok
    split at hok
    · cases hok
      exact h.refl
    · split at hok
      · obtain ⟨i, hi, -, -, -, hsigned, rfl⟩ := h.transition hok hcur hid nofun
          fun _ => ⟨rfl, rfl, rfl⟩
        refine ⟨hsigned, fun r hr => ?_⟩
        rcases TxTable.mem_set hr with rfl | ⟨hr, -⟩
        · exact .inr (.inl (by rw [hi]))
        · exact .inr (.inr ⟨hr, rfl⟩)
      · cases hok
        exact h.refl

end Dispatcher

/-! ### What `reconcile` does -/

namespace Dispatcher

variable {d : Dispatcher} {t t' : TxTable} {cur : Intent} {id : String} {node : TxNode}
  {receipt : TxReceipt}

/-- The receipt that is found is the canonical one of a hash of the intent. -/
theorem canonicalReceipt_some (h : canonicalReceipt t id node = some receipt) :
    ∃ hash ∈ t.allHashes id, node.canonical hash = some receipt :=
  List.exists_of_findSome?_eq_some h

/-- The only canonical receipt is found. -/
theorem canonicalReceipt_eq {hash : HexString} (hmem : hash ∈ t.allHashes id)
    (hcanonical : node.canonical hash = some receipt)
    (hone : ∀ h₁ ∈ t.allHashes id, ∀ h₂ ∈ t.allHashes id, (node.canonical h₁).isSome = true →
      (node.canonical h₂).isSome = true → h₁ = h₂) : canonicalReceipt t id node = some receipt := by
  cases hfound : canonicalReceipt t id node with
  | none =>
    have hnone := List.findSome?_eq_none_iff.mp hfound hash hmem
    rw [hcanonical] at hnone
    cases hnone
  | some found =>
    obtain ⟨hash', hmem', hfound'⟩ := canonicalReceipt_some hfound
    have hsame := hone hash' hmem' hash hmem (by rw [hfound']; rfl) (by rw [hcanonical]; rfl)
    rw [← hfound', hsame, hcanonical]

/-- What `reconcile` makes of a row, when it changes it. -/
structure Follows (d : Dispatcher) (t : TxTable) (node : TxNode) (cur i : Intent) : Prop where
  id : i.txIntentId = cur.txIntentId
  nonce : i.nonce = cur.nonce
  hash : i.txHash = cur.txHash
  state : i.state = .ORPHANED ∨ ∃ receipt,
    canonicalReceipt t cur.txIntentId node = some receipt ∧
      (i.state = .PENDING_MINED ∧ receipt.status = 1 ∧ i.minedBlock = some receipt.blockNumber ∨
        (i.state = .FINALIZED ∨ i.state = .FAILED) ∧ d.finalityDepth ≤ node.depth receipt)

/-- A call of `reconcile` that returns leaves the table as it was, or changes the row as the receipt
says. -/
theorem reconcile_ok (h : t.Signed) (hcur : cur ∈ t.rows) (hid : cur.txIntentId = id)
    (hstatus : ∀ receipt, canonicalReceipt t id node = some receipt →
      receipt.status = 0 ∨ receipt.status = 1) (hok : d.reconcile t id node = .ok t') :
    t' = t ∨ t'.Signed ∧ ∃ i, d.Follows t node cur i ∧ t' = t.set i := by
  subst hid
  unfold reconcile at hok
  rw [h.sound.get_of_mem hcur rfl, ok_bind] at hok
  split at hok
  · cases hok
    exact .inl rfl
  · cases hfound : canonicalReceipt t cur.txIntentId node with
    | none =>
      rw [hfound] at hok
      simp only at hok
      split at hok
      · obtain ⟨i, hi, hsame, hnonce, hhash, hsigned, hset⟩ :=
          h.transition hok hcur rfl nofun fun _ => ⟨rfl, rfl, rfl⟩
        exact .inr ⟨hsigned, i, ⟨hsame, hnonce, hhash, .inl (by rw [hi])⟩, hset⟩
      · cases hok
        exact .inl rfl
    | some receipt =>
      rw [hfound] at hok
      simp only at hok
      split at hok
      · cases hok
        exact .inl rfl
      · rename_i hdeep
        split at hok
        · obtain ⟨t₁, hmined, hok⟩ := bind_eq_ok.mp hok
          unfold TxTable.markMined at hmined
          split at hmined
          · rename_i hgood
            obtain ⟨i, hi, hsame, hnonce, hhash, hsigned, rfl⟩ :=
              h.transition hmined hcur rfl nofun fun _ => ⟨rfl, rfl, rfl⟩
            rw [if_neg (by omega)] at hok
            split at hok
            · -- The row is mined and final in one call.
              rename_i hfinal
              obtain ⟨i', hi', hsame', hnonce', hhash', hsigned', hset⟩ :=
                hsigned.transition hok (TxTable.self_mem_set hcur hsame) hsame nofun
                  fun _ => ⟨rfl, rfl, rfl⟩
              refine .inr ⟨hsigned', i', ⟨hsame'.trans hsame, hnonce'.trans hnonce,
                hhash'.trans hhash, .inr ⟨receipt, hfound, .inr ⟨.inl ?_, hfinal⟩⟩⟩, ?_⟩
              · rw [hi']
              · rw [hset, TxTable.set_set hsame']
            · cases hok
              refine .inr ⟨hsigned, i, ⟨hsame, hnonce, hhash, .inr ⟨receipt, hfound, .inl ?_⟩⟩, rfl⟩
              rw [hi]
              exact ⟨rfl, hgood, rfl⟩
          · rename_i hbad
            have hzero : receipt.status = 0 := (hstatus receipt hfound).resolve_right hbad
            obtain ⟨i, hi, hsame, hnonce, hhash, hsigned, hset⟩ :=
              h.transition hmined hcur rfl nofun fun _ => ⟨rfl, rfl, rfl⟩
            rw [if_pos hzero] at hok
            cases hok
            refine .inr ⟨hsigned, i, ⟨hsame, hnonce, hhash, .inr ⟨receipt, hfound, .inr ⟨.inr ?_, ?_⟩⟩⟩,
              hset⟩
            · rw [hi]
            · omega
        · rw [pure_bind] at hok
          split at hok
          · cases hok
            exact .inl rfl
          · split at hok
            · rename_i hfinal
              obtain ⟨i, hi, hsame, hnonce, hhash, hsigned, hset⟩ :=
                h.transition hok hcur rfl nofun fun _ => ⟨rfl, rfl, rfl⟩
              exact .inr ⟨hsigned, i, ⟨hsame, hnonce, hhash, .inr ⟨receipt, hfound,
                .inr ⟨.inl (by rw [hi]), hfinal⟩⟩⟩, hset⟩
            · cases hok
              exact .inl rfl

/-- An intent that is closed is left as it is. -/
theorem reconcile_closed (h : t.Signed) (hcur : cur ∈ t.rows) (hclosed : cur.state ∉ IntentState.live) :
    d.reconcile t cur.txIntentId node = .ok t := by
  unfold reconcile
  rw [h.sound.get_of_mem hcur rfl, ok_bind, if_pos hclosed]
  rfl

/-- An intent in `PENDING_MINED` with a receipt at the finality depth: its block is not compared. -/
theorem reconcile_mined (h : t.Signed) (hcur : cur ∈ t.rows) (hmined : cur.state = .PENDING_MINED)
    (hfound : canonicalReceipt t cur.txIntentId node = some receipt)
    (hdeep : d.finalityDepth ≤ node.depth receipt) :
    d.reconcile t cur.txIntentId node =
      if receipt.status = 0 then .ok t else t.markFinal cur.txIntentId node.blockNumber := by
  unfold reconcile
  rw [h.sound.get_of_mem hcur rfl, ok_bind, if_neg (by rw [hmined]; decide), hfound]
  simp only [hmined, ne_eq, not_true_eq_false, if_false, pure_bind, if_pos hdeep]
  rw [if_neg (by omega)]
  rfl

/-- A row that is mined at the block of a receipt at the finality depth becomes final. -/
theorem markFinal_eq (h : t.Signed) (hcur : cur ∈ t.rows) (hmined : cur.state = .PENDING_MINED)
    (hblock : cur.minedBlock = some receipt.blockNumber)
    (hdeep : d.finalityDepth ≤ node.depth receipt) :
    t.markFinal cur.txIntentId node.blockNumber = .ok (t.set
      { cur with finalityBlock := some node.blockNumber, state := .FINALIZED }) := by
  refine h.transition_eq (fun i => { i with finalityBlock := some node.blockNumber }) hcur
    rfl (by rw [hmined]; decide) (fun _ => ⟨rfl, rfl⟩) ?_
  refine (h.checks cur hcur).of_same (h.hash cur hcur) rfl rfl rfl fun _ => ?_
  have hpositive := d.positive.1
  unfold TxNode.depth at hdeep
  refine ⟨by rw [hblock]; rfl, rfl, ?_⟩
  rw [hblock]
  show receipt.blockNumber ≤ node.blockNumber
  omega

/-- An intent that was not seen mined yet ends in what a receipt at the finality depth shows. -/
theorem reconcile_open (h : t.Signed) (hcur : cur ∈ t.rows)
    (hopen : cur.state ∈ [IntentState.PENDING, .SENT, .ORPHANED])
    (hfound : canonicalReceipt t cur.txIntentId node = some receipt)
    (hdeep : d.finalityDepth ≤ node.depth receipt)
    (hstatus : receipt.status = 0 ∨ receipt.status = 1) :
    ∃ i, i.txIntentId = cur.txIntentId ∧ i.Records receipt ∧ (t.set i).Signed ∧
      d.reconcile t cur.txIntentId node = .ok (t.set i) := by
  have hlive : ¬cur.state ∉ IntentState.live := by
    simp only [List.mem_cons, List.not_mem_nil, or_false] at hopen
    rcases hopen with hs | hs | hs <;> rw [hs] <;> decide
  have hnot : cur.state ≠ .PENDING_MINED := by
    intro hs
    rw [hs] at hopen
    exact absurd hopen (by decide)
  have htargets : .PENDING_MINED ∈ cur.state.transitions ∧ .FAILED ∈ cur.state.transitions := by
    simp only [List.mem_cons, List.not_mem_nil, or_false] at hopen
    rcases hopen with hs | hs | hs <;> rw [hs] <;> decide
  have hchecks : ∀ i : Intent, i.txHash = cur.txHash → i.txIntentId = cur.txIntentId →
      i.spec = cur.spec → i.state ≠ .FINALIZED → i.Checks := fun i hhash hid hspec hstate =>
    (h.checks cur hcur).of_same (h.hash cur hcur) hhash hid hspec fun hfinal => absurd hfinal hstate
  have hreconcile : d.reconcile t cur.txIntentId node =
      (t.markMined cur.txIntentId receipt.blockNumber receipt.status >>= fun t =>
        if receipt.status = 0 then .ok t else t.markFinal cur.txIntentId node.blockNumber) := by
    unfold reconcile
    rw [h.sound.get_of_mem hcur rfl, ok_bind, if_neg hlive, hfound]
    simp only [hnot, ne_eq, not_false_eq_true, if_true, if_pos hdeep]
    rw [if_neg (by omega)]
    rfl
  rw [hreconcile]
  rcases hstatus with hzero | hone
  · have hfail := h.transition_eq (fun i => { i with
        minedBlock := some receipt.blockNumber,
        lastError := some ("REVERTED: receipt status 0 at block " ++ toString receipt.blockNumber) })
      hcur rfl htargets.2 (fun _ => ⟨rfl, rfl⟩) (hchecks _ rfl rfl rfl nofun)
    unfold TxTable.markMined
    rw [if_neg (by omega), hfail, ok_bind, if_pos hzero]
    obtain ⟨i, hi, hsame, -, -, hsigned, hset⟩ := h.transition hfail hcur rfl nofun
      fun _ => ⟨rfl, rfl, rfl⟩
    refine ⟨i, hsame, ⟨?_, ?_⟩, hset ▸ hsigned, by rw [hset]⟩
    · rw [hi, if_neg (by omega)]
    · rw [hi]
  · have hmine := h.transition_eq (fun i => { i with
        minedBlock := some receipt.blockNumber, lastError := none })
      hcur rfl htargets.1 (fun _ => ⟨rfl, rfl⟩) (hchecks _ rfl rfl rfl nofun)
    obtain ⟨i, hi, hsame, -, -, hsigned, hset⟩ := h.transition hmine hcur rfl nofun
      fun _ => ⟨rfl, rfl, rfl⟩
    rw [hset] at hsigned
    have hmem := TxTable.self_mem_set hcur hsame
    have hfinal := markFinal_eq hsigned hmem (by rw [hi]) (by rw [hi]) hdeep
    obtain ⟨i', hi', hsame', -, -, hsigned', hset'⟩ := hsigned.transition hfinal hmem rfl nofun
      fun _ => ⟨rfl, rfl, rfl⟩
    rw [hset', TxTable.set_set hsame'] at hsigned'
    unfold TxTable.markMined
    rw [if_pos hone, hmine, ok_bind, if_neg (by omega), hset, ← hsame, hfinal, hset',
      TxTable.set_set hsame']
    refine ⟨i', hsame', ⟨?_, ?_⟩, hsigned', rfl⟩
    · rw [hi', if_pos hone]
    · rw [hi', hi]

end Dispatcher

/-! ### Runs -/

namespace DispatchState

variable {d : Dispatcher} {s s' : DispatchState} {t : TxTable} {cur : Intent}
  {receipt : TxReceipt} {hash : HexString}

theorem ChainHolds.found (h : s.ChainHolds d) {id : String} (hmem : hash ∈ s.table.allHashes id)
    (hcanonical : s.chain.canonical hash = some receipt) :
    Dispatcher.canonicalReceipt s.table id s.chain = some receipt :=
  Dispatcher.canonicalReceipt_eq hmem hcanonical (h.one id)

/-- The next `reconcile` ends in what the chain shows if and only if no intent in `PENDING_MINED`
misses its receipt. -/
theorem agrees_iff (hsigned : s.table.Signed) (hchain : s.ChainHolds d) :
    s.Agrees d ↔ s.OnlySettled d ∧ s.Current d s.chain := by
  constructor
  · rintro ⟨hsettles, honly⟩
    refine ⟨honly, fun i hi hmined hash hmem receipt hcanonical hdeep => ?_⟩
    obtain ⟨t, i', hreconcile, hget, hrecords⟩ := hsettles i hi hash hmem receipt hcanonical hdeep
    rw [Dispatcher.reconcile_mined hsigned hi hmined (hchain.found hmem hcanonical) hdeep] at hreconcile
    split at hreconcile
    · -- A failed transaction leaves the row in `PENDING_MINED`.
      rename_i hzero
      cases hreconcile
      rw [hsigned.sound.get_of_mem hi rfl] at hget
      cases hget
      have hstate := hrecords.state
      rw [hmined, if_neg (by omega)] at hstate
      cases hstate
    · rename_i hnonzero
      obtain ⟨i₁, hi₁, hsame, -, -, hsigned', rfl⟩ := hsigned.transition hreconcile hi rfl nofun
        fun _ => ⟨rfl, rfl, rfl⟩
      rw [hsigned'.sound.get_of_mem (TxTable.self_mem_set hi hsame) hsame] at hget
      cases hget
      have hblock := hrecords.block
      rw [hi₁] at hblock
      exact ⟨(hchain.status hash receipt hcanonical).resolve_left hnonzero, hblock⟩
  · rintro ⟨honly, hcurrent⟩
    refine ⟨fun i hi hash hmem receipt hcanonical hdeep => ?_, honly⟩
    have hfound := hchain.found hmem hcanonical
    have hstatus := hchain.status hash receipt hcanonical
    have hdone : i.state = .FINALIZED ∨ i.state = .FAILED → i.Records receipt := by
      intro hclosed
      obtain ⟨hash', hmem', receipt', hcanonical', hrecords, -⟩ := honly i hi hclosed
      have hfound' := hchain.found hmem' hcanonical'
      rw [hfound] at hfound'
      cases hfound'
      exact hrecords
    have hopen : i.state ∈ [IntentState.PENDING, .SENT, .ORPHANED] → ∃ t i',
        d.reconcile s.table i.txIntentId s.chain = .ok t ∧ t.get i.txIntentId = .ok i' ∧
          i'.Records receipt := by
      intro hstate
      obtain ⟨i', hsame, hrecords, hsigned', hreconcile⟩ :=
        Dispatcher.reconcile_open hsigned hi hstate hfound hdeep hstatus
      exact ⟨_, i', hreconcile,
        hsigned'.sound.get_of_mem (TxTable.self_mem_set hi hsame) hsame, hrecords⟩
    cases hstate : i.state with
    | PENDING => exact hopen (by rw [hstate]; decide)
    | SENT => exact hopen (by rw [hstate]; decide)
    | ORPHANED => exact hopen (by rw [hstate]; decide)
    | REPLACED => exact absurd hstate (hsigned.notReplaced i hi)
    | FINALIZED =>
      exact ⟨_, i, Dispatcher.reconcile_closed hsigned hi (by rw [hstate]; decide),
        hsigned.sound.get_of_mem hi rfl, hdone (.inl hstate)⟩
    | FAILED =>
      exact ⟨_, i, Dispatcher.reconcile_closed hsigned hi (by rw [hstate]; decide),
        hsigned.sound.get_of_mem hi rfl, hdone (.inr hstate)⟩
    | PENDING_MINED =>
      obtain ⟨hone, hblock⟩ := hcurrent i hi hstate hash hmem receipt hcanonical hdeep
      have hfinal := Dispatcher.markFinal_eq hsigned hi hstate hblock hdeep
      obtain ⟨i', hi', hsame, -, -, hsigned', hset⟩ := hsigned.transition hfinal hi rfl nofun
        fun _ => ⟨rfl, rfl, rfl⟩
      rw [hset] at hsigned' hfinal
      refine ⟨_, i', ?_, hsigned'.sound.get_of_mem (TxTable.self_mem_set hi hsame) hsame, ?_, ?_⟩
      · rw [Dispatcher.reconcile_mined hsigned hi hstate hfound hdeep, if_neg (by omega)]
        exact hfinal
      · rw [hi', if_pos hone]
      · rw [hi', hblock]

/-- A call other than `reconcile` keeps the agreement. -/
theorem opens_agrees (hopens : s.table.Opens t) (honly : s.OnlySettled d)
    (hcurrent : s.Current d s.chain) :
    ({ s with table := t } : DispatchState).OnlySettled d ∧
      ({ s with table := t } : DispatchState).Current d s.chain := by
  constructor
  · intro i hi hclosed
    rcases hopens.kept i hi with hs | hs | ⟨hold, hhashes⟩
    · rw [hs] at hclosed
      rcases hclosed with hbad | hbad <;> cases hbad
    · rw [hs] at hclosed
      rcases hclosed with hbad | hbad <;> cases hbad
    · show ∃ hash ∈ t.allHashes i.txIntentId, _
      rw [hhashes]
      exact honly i hold hclosed
  · intro i hi hmined hash hmem
    replace hmem : hash ∈ t.allHashes i.txIntentId := hmem
    rcases hopens.kept i hi with hs | hs | ⟨hold, hhashes⟩
    · rw [hs] at hmined
      cases hmined
    · rw [hs] at hmined
      cases hmined
    · rw [hhashes] at hmem
      exact hcurrent i hold hmined hash hmem

/-- `reconcile` keeps the agreement. -/
theorem reconcile_agrees (hsigned : s.table.Signed) (hchain : s.ChainHolds d)
    {id : String} (hok : d.reconcile s.table id s.chain = .ok t) :
    t.Signed ∧ (s.Agrees d → ({ s with table := t } : DispatchState).OnlySettled d ∧
      ({ s with table := t } : DispatchState).Current d s.chain) := by
  obtain ⟨cur, hget, -⟩ := bind_eq_ok.mp hok
  obtain ⟨hcur, rfl⟩ := TxTable.get_ok hget
  have hstatus : ∀ receipt, Dispatcher.canonicalReceipt s.table cur.txIntentId s.chain =
      some receipt → receipt.status = 0 ∨ receipt.status = 1 := by
    intro receipt hfound
    obtain ⟨hash, -, hcanonical⟩ := Dispatcher.canonicalReceipt_some hfound
    exact hchain.status hash receipt hcanonical
  rcases Dispatcher.reconcile_ok hsigned hcur rfl hstatus hok with rfl | ⟨hsigned', i, hi, hset⟩
  · exact ⟨hsigned, (agrees_iff hsigned hchain).mp⟩
  · refine ⟨hsigned', fun hagrees => ?_⟩
    obtain ⟨honly, hcurrent⟩ := (agrees_iff hsigned hchain).mp hagrees
    refine ⟨fun r hr hclosed => ?_, fun r hr hmined hash hmem receipt hcanonical
      hdeep => ?_⟩
    · have hhashes : t.allHashes r.txIntentId = s.table.allHashes r.txIntentId := by rw [hset]; rfl
      show ∃ hash ∈ t.allHashes r.txIntentId, _
      rw [hhashes]
      replace hr : r ∈ t.rows := hr
      rw [hset] at hr
      rcases TxTable.mem_set hr with rfl | ⟨hr, -⟩
      · -- The row is closed by this call: it records the receipt at the finality depth.
        rcases hi.state with hs | ⟨receipt, hfound, ⟨hs, -⟩ | ⟨-, hdeep⟩⟩
        · rw [hs] at hclosed
          rcases hclosed with hbad | hbad <;> cases hbad
        · rw [hs] at hclosed
          rcases hclosed with hbad | hbad <;> cases hbad
        · obtain ⟨hash, hmem, hcanonical⟩ := Dispatcher.canonicalReceipt_some hfound
          obtain ⟨t', i', hreconcile, hget', hrecords⟩ :=
            hagrees.settles cur hcur hash hmem receipt hcanonical hdeep
          rw [hok] at hreconcile
          cases hreconcile
          have hmem' : r ∈ t.rows := hset ▸ hr
          rw [hsigned'.sound.get_of_mem hmem' hi.id] at hget'
          cases hget'
          rw [hi.id]
          exact ⟨hash, hmem, receipt, hcanonical, hrecords, s.chain, List.mem_cons_self, hcanonical,
            hdeep⟩
      · exact honly r hr hclosed
    · replace hmem : hash ∈ t.allHashes r.txIntentId := hmem
      have hhashes : t.allHashes r.txIntentId = s.table.allHashes r.txIntentId := by rw [hset]; rfl
      rw [hhashes] at hmem
      replace hr : r ∈ t.rows := hr
      rw [hset] at hr
      rcases TxTable.mem_set hr with rfl | ⟨hr, -⟩
      · rw [hi.id] at hmem
        have hfound := hchain.found hmem hcanonical
        rcases hi.state with hs | ⟨found, hfound', ⟨-, hone, hblock⟩ | ⟨hs, -⟩⟩
        · rw [hs] at hmined
          cases hmined
        · rw [hfound] at hfound'
          cases hfound'
          exact ⟨hone, hblock⟩
        · rw [hmined] at hs
          rcases hs with hbad | hbad <;> cases hbad
      · exact hcurrent r hr hmined hash hmem receipt hcanonical hdeep

/-- A call that keeps what the agreement rests on, or raises, keeps the agreement. -/
theorem commit_agrees {result : Except IntentError TxTable} (hsigned : s.table.Signed)
    (hkeep : ∀ t, result = .ok t → t.Signed ∧ (s.Agrees d →
      ({ s with table := t } : DispatchState).OnlySettled d ∧
        ({ s with table := t } : DispatchState).Current d s.chain))
    (hchain' : (s.commit result).ChainHolds d) :
    (s.commit result).table.Signed ∧ (s.Agrees d → ((s.commit result).Agrees d ↔ True)) := by
  cases result with
  | error _ => exact ⟨hsigned, fun hagrees => iff_true_intro hagrees⟩
  | ok t =>
    obtain ⟨hsigned', hafter⟩ := hkeep t rfl
    exact ⟨hsigned', fun hagrees => iff_true_intro
      ((agrees_iff (s := { s with table := t }) hsigned' hchain').mpr (hafter hagrees))⟩

/-- So does a call other than `reconcile`. -/
theorem commit_opens {result : Except IntentError TxTable} (hsigned : s.table.Signed)
    (hchain : s.ChainHolds d) (hopens : ∀ t, result = .ok t → s.table.Opens t)
    (hchain' : (s.commit result).ChainHolds d) :
    (s.commit result).table.Signed ∧ (s.Agrees d → ((s.commit result).Agrees d ↔ True)) := by
  refine commit_agrees hsigned (fun t hok => ⟨(hopens t hok).signed, fun hagrees => ?_⟩) hchain'
  obtain ⟨honly, hcurrent⟩ := (agrees_iff hsigned hchain).mp hagrees
  exact opens_agrees (hopens t hok) honly hcurrent

end DispatchState

section
variable {d : Dispatcher} {s s' : DispatchState} {a : DispatchAction}

/-- A step keeps the table in order, and keeps the agreement if and only if the chain does not go on
to a receipt that an intent misses. -/
theorem DispatchStep.agrees (hsigned : s.table.Signed) (hchain : s.ChainHolds d)
    (h : DispatchStep d s a s') :
    s'.table.Signed ∧ (s.Agrees d → (s'.Agrees d ↔ a.KeepsMined d s)) := by
  obtain ⟨rfl, hchain'⟩ := h
  cases a with
  | chain node =>
    refine ⟨hsigned, fun hagrees => ?_⟩
    obtain ⟨honly, -⟩ := (DispatchState.agrees_iff hsigned hchain).mp hagrees
    rw [DispatchState.agrees_iff (s := d.next s (.chain node)) hsigned hchain']
    refine and_iff_right fun i hi hclosed => ?_
    obtain ⟨hash, hmem, receipt, -, hrecords, seen, hseen, hcanonical, hdeep⟩ := honly i hi hclosed
    exact ⟨hash, hmem, receipt, hchain'.shallow seen hseen hash receipt hcanonical hdeep, hrecords,
      seen, List.mem_cons_of_mem _ hseen, hcanonical, hdeep⟩
  | prepare id jobId purpose calldata simulated =>
    refine DispatchState.commit_opens hsigned hchain (fun t hok => ?_) hchain'
    obtain ⟨⟨i, t'⟩, hprepare, rfl⟩ := map_eq_ok.mp hok
    exact Dispatcher.prepare_opens hsigned hprepare
  | broadcast id sent =>
    exact DispatchState.commit_opens hsigned hchain
      (fun t hok => Dispatcher.broadcast_opens hsigned hok) hchain'
  | feeBump id signed =>
    exact DispatchState.commit_opens hsigned hchain
      (fun t hok => hsigned.recordFeeBump hok) hchain'
  | reconcile id =>
    refine DispatchState.commit_agrees hsigned (fun t hok => ?_) hchain'
    exact DispatchState.reconcile_agrees hsigned hchain hok

/-- In every run on a chain whose reorgs are shallower than the finality depth, the intents agree
with the chain all along if and only if the chain never goes on to a receipt that an intent in
`PENDING_MINED` misses. -/
theorem tx_outcomes_agree (d : Dispatcher) (actions : List DispatchAction) :
    (∀ pre post s, actions = pre ++ post → Steps (DispatchStep d) .initial pre s → s.Agrees d) ↔
      ∀ s a s', StepOf (DispatchStep d) .initial actions s a s' → a.KeepsMined d s := by
  have hempty : ∀ i, i ∉ (DispatchState.initial).table.rows := fun i => List.not_mem_nil
  have hinitial : (DispatchState.initial).table.Signed ∧ DispatchState.initial.ChainHolds d :=
    ⟨TxTable.initial_signed, nofun, fun _ _ _ _ _ => nofun, fun _ hnode => absurd hnode List.not_mem_nil⟩
  refine Steps.stays_iff (I := fun s : DispatchState => s.table.Signed ∧ s.ChainHolds d)
    (P := fun s => s.Agrees d) (Q := fun s (a : DispatchAction) => a.KeepsMined d s) hinitial ?_ ?_ ?_
  · rintro s a s' ⟨hsigned, hchain⟩ h
    exact ⟨(h.agrees hsigned hchain).1, h.2⟩
  · exact ⟨fun i hi => absurd hi (hempty i), fun i hi => absurd hi (hempty i)⟩
  · rintro s a s' ⟨hsigned, hchain⟩ hagrees h
    exact (h.agrees hsigned hchain).2 hagrees

end

namespace Sample

/-- The calldata of the sample, a selector without arguments. -/
def calldata : HexString := "0x12345678".toList

/-- The hash of the one transaction. -/
def txHash : HexString := "0x".toList ++ List.replicate 64 'a'

/-- A dispatcher that waits for two blocks. -/
def dispatcher : Dispatcher where
  signerRole := Purpose.treasury
  contracts := fun _ => some ("0x".toList ++ List.replicate 40 'b')
  maxGas := 3000000
  maxFeePerGas := 100000000000
  finalityDepth := 2
  selector := fun _ => calldata
  keccakHex := fun data =>
    if data = calldata then "0x".toList ++ List.replicate 64 'c' else txHash
  signTransaction := fun _ => "0x02".toList
  positive := by decide

/-- The chain at a head, with the transaction mined in a block. -/
def minedIn (block head : Int) : TxNode where
  getReceipt := fun hash =>
    if hash = txHash then some { blockNumber := block, blockHash := [], status := 1 } else none
  getBlock := fun _ => some []
  blockNumber := head

/-- The transaction is seen in block 10, and then mined in block 11 of another branch. -/
def remined : List DispatchAction :=
  [.prepare "A" "job" "manager.repayFor" calldata
      (some { estimateGas := 100000, gasPrice := 1000, transactionCount := 0 }),
    .broadcast "A" (some txHash), .chain (minedIn 10 10), .reconcile "A", .chain (minedIn 11 12)]

theorem minedIn_canonical {block head : Int} {hash : HexString} {receipt : TxReceipt}
    (h : (minedIn block head).canonical hash = some receipt) :
    hash = txHash ∧ receipt = { blockNumber := block, blockHash := [], status := 1 } := by
  obtain ⟨hget, -⟩ := Option.filter_eq_some_iff.mp h
  simp only [minedIn] at hget
  split at hget
  · rename_i hsame
    cases hget
    exact ⟨hsame, rfl⟩
  · cases hget

theorem minedIn_holds {s : DispatchState} {block head : Int} {past : List TxNode}
    (hchain : s.chain = minedIn block head) (hpast : s.past = past)
    (hlow : ∀ node ∈ past, ∀ hash receipt, node.canonical hash = some receipt →
      node.depth receipt < 2) : s.ChainHolds dispatcher where
  status := by
    intro hash receipt hcanonical
    rw [hchain] at hcanonical
    rw [(minedIn_canonical hcanonical).2]
    exact .inr rfl
  one := by
    intro id h₁ _ h₂ _ hsome₁ hsome₂
    obtain ⟨r₁, hr₁⟩ := Option.isSome_iff_exists.mp hsome₁
    obtain ⟨r₂, hr₂⟩ := Option.isSome_iff_exists.mp hsome₂
    rw [hchain] at hr₁ hr₂
    rw [(minedIn_canonical hr₁).1, (minedIn_canonical hr₂).1]
  shallow := by
    intro node hnode hash receipt hcanonical hdeep
    rw [hpast] at hnode
    have hshallow := hlow node hnode hash receipt hcanonical
    replace hdeep : 2 ≤ node.depth receipt := hdeep
    omega

/-- Before the first block every chain holds. -/
theorem unmined_holds {s : DispatchState} (hchain : s.chain = DispatchState.initial.chain)
    (hpast : s.past = []) : s.ChainHolds dispatcher where
  status := by
    intro hash receipt hcanonical
    rw [hchain] at hcanonical
    cases hcanonical
  one := by
    intro id h₁ _ h₂ _ hsome
    rw [hchain] at hsome
    cases hsome
  shallow := by
    intro node hnode
    rw [hpast] at hnode
    cases hnode

end Sample

/-- The row that was mined in block 10 becomes final there, while the transaction is in block 11. -/
theorem remined_stays_stale : ¬∀ pre post s, Sample.remined = pre ++ post →
    Steps (DispatchStep Sample.dispatcher) .initial pre s → s.Agrees Sample.dispatcher := by
  intro hall
  let d := Sample.dispatcher
  let s₁ := d.next .initial (.prepare "A" "job" "manager.repayFor" Sample.calldata
      (some { estimateGas := 100000, gasPrice := 1000, transactionCount := 0 }))
  let s₂ := d.next s₁ (.broadcast "A" (some Sample.txHash))
  let s₃ := d.next s₂ (.chain (Sample.minedIn 10 10))
  let s₄ := d.next s₃ (.reconcile "A")
  let s₅ := d.next s₄ (.chain (Sample.minedIn 11 12))
  have hone : s₁.chain = DispatchState.initial.chain ∧ s₁.past = [] :=
    ⟨DispatchState.commit_chain _ _, DispatchState.commit_past _ _⟩
  have htwo : s₂.chain = DispatchState.initial.chain ∧ s₂.past = [] :=
    ⟨(DispatchState.commit_chain _ _).trans hone.1, (DispatchState.commit_past _ _).trans hone.2⟩
  have hthree : s₃.past = [DispatchState.initial.chain] := by
    show s₂.chain :: s₂.past = _
    rw [htwo.1, htwo.2]
  have hfour : s₄.chain = Sample.minedIn 10 10 ∧ s₄.past = [DispatchState.initial.chain] :=
    ⟨DispatchState.commit_chain _ _, (DispatchState.commit_past _ _).trans hthree⟩
  have hfive : s₅.past = [Sample.minedIn 10 10, DispatchState.initial.chain] := by
    show s₄.chain :: s₄.past = _
    rw [hfour.1, hfour.2]
  -- No receipt was at the finality depth before the last block.
  have hempty : ∀ hash receipt, DispatchState.initial.chain.canonical hash = some receipt →
      DispatchState.initial.chain.depth receipt < 2 := nofun
  have hshallow : ∀ hash receipt, (Sample.minedIn 10 10).canonical hash = some receipt →
      (Sample.minedIn 10 10).depth receipt < 2 := by
    intro hash receipt hcanonical
    rw [(Sample.minedIn_canonical hcanonical).2]
    decide
  have hrun : Steps (DispatchStep d) .initial Sample.remined s₅ := by
    refine .cons ⟨rfl, Sample.unmined_holds hone.1 hone.2⟩
      (.cons ⟨rfl, Sample.unmined_holds htwo.1 htwo.2⟩
        (.cons ⟨rfl, Sample.minedIn_holds rfl hthree ?_⟩
          (.cons ⟨rfl, Sample.minedIn_holds hfour.1 hfour.2 ?_⟩
            (.cons ⟨rfl, Sample.minedIn_holds rfl hfive ?_⟩ (.nil s₅)))))
    · exact List.forall_mem_singleton.mpr hempty
    · exact List.forall_mem_singleton.mpr hempty
    · exact List.forall_mem_cons.mpr ⟨hshallow, List.forall_mem_singleton.mpr hempty⟩
  obtain ⟨hsettles, -⟩ := hall _ [] s₅ (by simp) hrun
  have hrows : s₅.table.rows.map (fun i => (i.txIntentId, i.state, i.minedBlock)) =
      [("A", .PENDING_MINED, some 10)] ∧ s₅.table.allHashes "A" = [Sample.txHash] := by
    decide +kernel
  have hafter : (d.reconcile s₅.table "A" s₅.chain).toOption.map (fun t =>
      t.rows.map fun i => (i.state, i.minedBlock)) = some [(.FINALIZED, some 10)] := by
    decide +kernel
  obtain ⟨i, hi, hrow⟩ : ∃ i ∈ s₅.table.rows,
      (i.txIntentId, i.state, i.minedBlock) = ("A", .PENDING_MINED, some 10) :=
    List.mem_map.mp (by rw [hrows.1]; exact List.mem_singleton_self _)
  simp only [Prod.mk.injEq] at hrow
  obtain ⟨t, i', hreconcile, hget, hrecords⟩ := hsettles i hi Sample.txHash
    (by rw [hrow.1, hrows.2]; exact List.mem_singleton_self _)
    { blockNumber := 11, blockHash := [], status := 1 } (by decide +kernel) (by decide)
  rw [hrow.1] at hreconcile
  rw [hreconcile] at hafter
  have hstale : (i'.state, i'.minedBlock) ∈ [(IntentState.FINALIZED, some (10 : Int))] := by
    rw [← Option.some.inj hafter]
    exact List.mem_map_of_mem (TxTable.get_ok hget).1
  have hblock := hrecords.block
  rw [(Prod.mk.inj (List.mem_singleton.mp hstale)).2] at hblock
  exact absurd hblock (by decide)

end Rackline
