import Mathlib.Data.List.Forall2
import Rackline.ReadModels
import Rackline.Proofs.IndexedFinality

/-!
# `Rackline.Proofs.PathIndependence`: the index depends on the chain alone

`ChainIndexer.sync` comes to a head by way of chunks, rollbacks of abandoned blocks and calls that
fail. Whatever the way, once a call reaches the head the rows and the tables are those of the chain
that it has seen, and no others: the rows are a function of the chain (`Journal.Mirrors`), and the
tables are what `replay` makes of the rows.

Between calls the journal mirrors the chain of an earlier call, up to the cursor. The walk finds
the last block that this chain and the present one share; up to there the two agree, since a hash
commits to its parent (`Chain.Consistent.agree`), so what a rollback leaves is a mirror of the
present chain, on which the chunk grows. The tiers follow because no head goes back.
-/

set_option autoImplicit false

namespace Rackline

open Evm Transition ChainDeployment

/-! ### Sorted rows -/

/-- The order of the logs of a chain. -/
def ChainLog.Before (a b : ChainLog) : Prop :=
  a.blockNumber < b.blockNumber ∨ a.blockNumber = b.blockNumber ∧
    (a.txIndex < b.txIndex ∨ a.txIndex = b.txIndex ∧ a.logIndex < b.logIndex)

theorem ChainLog.Before.asymm {a b : ChainLog} (h : a.Before b) : ¬b.Before a := by
  intro h'
  unfold Before at h h'
  omega

/-- Rows in the order of the chain are known by their members. -/
theorem ChainLog.eq_of_mem_iff {logs logs' : List ChainLog} (h : logs.Pairwise ChainLog.Before)
    (h' : logs'.Pairwise ChainLog.Before) (hmem : ∀ l, l ∈ logs ↔ l ∈ logs') : logs = logs' := by
  have hnodup : ∀ {rows : List ChainLog}, rows.Pairwise ChainLog.Before → rows.Nodup := by
    intro rows hrows
    refine hrows.imp fun {a b} hab => ?_
    rintro rfl
    exact hab.asymm hab
  have hperm : logs.Perm logs' :=
    (List.perm_ext_iff_of_nodup (hnodup h) (hnodup h')).mpr hmem
  exact hperm.eq_of_pairwise (fun a b _ _ hab hba => absurd hba hab.asymm) h h'

/-- A relation of the elements of a list carries over to a list that follows it. -/
theorem pairwise_of_forall₂ {α β : Type} {R : α → β → Prop} {P : α → α → Prop} {Q : β → β → Prop}
    (himp : ∀ a a' b b', R a b → R a' b' → P a a' → Q b b') {as : List α} {bs : List β}
    (h : List.Forall₂ R as bs) (hp : as.Pairwise P) : bs.Pairwise Q := by
  induction h with
  | nil => exact .nil
  | @cons a b as bs hab hrest ih =>
    obtain ⟨hhead, htail⟩ := List.pairwise_cons.mp hp
    refine .cons (fun b' hb' => ?_) (ih htail)
    obtain ⟨i, hi, rfl⟩ := List.mem_iff_getElem.mp hb'
    have hi' : i < as.length := by rw [hrest.length_eq]; exact hi
    exact himp a as[i] b bs[i] hab (hrest.get hi' hi) (hhead _ (List.getElem_mem hi'))

/-- Each element of the second list follows one of the first. -/
theorem exists_of_forall₂_right {α β : Type} {R : α → β → Prop} {as : List α} {bs : List β}
    (h : List.Forall₂ R as bs) {b : β} (hb : b ∈ bs) : ∃ a ∈ as, R a b := by
  obtain ⟨i, hi, rfl⟩ := List.mem_iff_getElem.mp hb
  have hi' : i < as.length := by rw [h.length_eq]; exact hi
  exact ⟨as[i], List.getElem_mem hi', h.get hi' hi⟩

theorem exists_of_forall₂_left {α β : Type} {R : α → β → Prop} {as : List α} {bs : List β}
    (h : List.Forall₂ R as bs) {a : α} (ha : a ∈ as) : ∃ b ∈ bs, R a b :=
  exists_of_forall₂_right h.flip ha

/-! ### Mirrors of a chain -/

/-- The row of a block of the chain. -/
def Chain.row (contents : HexString → BlockContent) (chain : Chain) (final n : Int) : ChainBlock where
  number := n
  hash := chain.hashAt n
  parentHash := (chain.blockAt contents n).parentHash
  timestamp := (chain.blockAt contents n).timestamp
  tier := .at n final

/-- The rows are those of the chain from the deployment on, up to `last`, and those up to `final`
are final. -/
structure Journal.Mirrors (j : Journal) (d : ChainDeployment) (contents : HexString → BlockContent)
    (chain : Chain) (last final : Int) : Prop where
  blocks : ∀ n, j.blocks n =
    if d.beforeFirst < n ∧ n ≤ last then some (chain.row contents final n) else none
  logs : ∀ l, l ∈ j.logs ↔ ∃ n, d.beforeFirst < n ∧ n ≤ last ∧
    ∃ raw ∈ (chain.blockAt contents n).logs, d.IsLogRow (chain.hashAt n) final raw l
  sorted : j.logs.Pairwise ChainLog.Before

section
variable {d : ChainDeployment} {contents : HexString → BlockContent} {chain chain' : Chain}
  {j j' : Journal} {last last' final : Int}

/-- There is one mirror of a chain. -/
theorem Journal.Mirrors.unique (h : j.Mirrors d contents chain last final)
    (h' : j'.Mirrors d contents chain last final) : j.blocks = j'.blocks ∧ j.logs = j'.logs := by
  constructor
  · funext n
    rw [h.blocks, h'.blocks]
  · exact ChainLog.eq_of_mem_iff h.sorted h'.sorted fun l => by rw [h.logs, h'.logs]

theorem Journal.Mirrors.empty (hblocks : ∀ n, j.blocks n = none) (hlogs : j.logs = [])
    (hlast : last ≤ d.beforeFirst) : j.Mirrors d contents chain last final where
  blocks n := by
    rw [hblocks, if_neg (by omega)]
  logs l := by
    rw [hlogs]
    constructor
    · exact nofun
    · rintro ⟨n, hlow, hhigh, -⟩
      omega
  sorted := by
    rw [hlogs]
    exact .nil

/-- Two chains that share a block share every block below it. -/
theorem Chain.Consistent.agree (h : chain.Consistent d contents) (h' : chain'.Consistent d contents)
    (hhead : last ≤ chain.head) (hhead' : last ≤ chain'.head)
    (hsame : chain.hashAt last = chain'.hashAt last) {n : Int} (hlow : d.beforeFirst < n)
    (hle : n ≤ last) : chain.hashAt n = chain'.hashAt n := by
  obtain ⟨k, rfl⟩ : ∃ k : Nat, last = n + k := ⟨(last - n).toNat, by omega⟩
  induction k with
  | zero => simpa using hsame
  | succ k ih =>
    have hprev : n + ((k + 1 : Nat) : Int) - 1 = n + k := by push_cast; omega
    push_cast at hhead hhead' hle
    refine ih (by omega) (by omega) ?_ (by omega)
    rw [← hprev]
    calc chain.hashAt (n + ((k + 1 : Nat) : Int) - 1)
        = (chain.blockAt contents (n + ((k + 1 : Nat) : Int))).parentHash :=
          (h.parent _ (by push_cast; omega) (by push_cast; omega)).symm
      _ = (chain'.blockAt contents (n + ((k + 1 : Nat) : Int))).parentHash := by
          unfold Chain.blockAt
          rw [hsame]
      _ = chain'.hashAt (n + ((k + 1 : Nat) : Int) - 1) :=
          h'.parent _ (by push_cast; omega) (by push_cast; omega)

/-- A mirror of one chain is a mirror of every chain that agrees with it. -/
theorem Journal.Mirrors.rechain (h : j.Mirrors d contents chain last final)
    (hagree : ∀ n, d.beforeFirst < n → n ≤ last → chain.hashAt n = chain'.hashAt n) :
    j.Mirrors d contents chain' last final where
  blocks n := by
    rw [h.blocks]
    split
    · rename_i hn
      unfold Chain.row Chain.blockAt
      rw [hagree n hn.1 hn.2]
    · rfl
  logs l := by
    rw [h.logs]
    refine exists_congr fun n => and_congr_right fun hlow => and_congr_right fun hhigh => ?_
    unfold Chain.blockAt
    rw [hagree n hlow hhigh]
  sorted := h.sorted

theorem Journal.Mirrors.cut (h : j.Mirrors d contents chain last final)
    (hplaced : chain.Consistent d contents) (hhead : last ≤ chain.head) (hle : last' ≤ last)
    (hcut : j.Cut last' j') : j'.Mirrors d contents chain last' final where
  blocks n := by
    by_cases hn : n ≤ last'
    · rw [hcut.below n hn, h.blocks]
      congr 1
      exact propext (and_congr_right fun _ => iff_of_true (hn.trans hle) hn)
    · rw [hcut.above n (by omega), if_neg (by omega)]
  logs l := by
    rw [hcut.logs, h.logs]
    constructor
    · rintro ⟨⟨n, hlow, hhigh, raw, hraw, hrow⟩, hnumber⟩
      obtain ⟨decoded, contractName, -, -, rfl⟩ := id hrow
      have hn : raw.blockNumber = n := (hplaced.placed n hlow (by omega) raw hraw).1
      replace hnumber : raw.blockNumber ≤ last' := hnumber
      exact ⟨n, hlow, by omega, raw, hraw, hrow⟩
    · rintro ⟨n, hlow, hhigh, raw, hraw, hrow⟩
      refine ⟨⟨n, hlow, by omega, raw, hraw, hrow⟩, ?_⟩
      obtain ⟨decoded, contractName, -, -, rfl⟩ := hrow
      show raw.blockNumber ≤ last'
      rw [(hplaced.placed n hlow (by omega) raw hraw).1]
      exact hhigh
  sorted := h.sorted.sublist hcut.order

end

/-! ### The chunk -/

/-- The row of a log, once what is up to `targetFinal` is final. -/
def ChainLog.mark (targetFinal : Int) (l : ChainLog) : ChainLog :=
  if l.blockNumber ≤ targetFinal then { l with tier := .finalized } else l

theorem ChainLog.mark_eq (targetFinal : Int) (l : ChainLog) : l.mark targetFinal =
    { l with tier := if l.blockNumber ≤ targetFinal then .finalized else l.tier } := by
  unfold mark
  split
  · rfl
  · rfl

theorem Tier.at_mark {final targetFinal : Int} (hle : final ≤ targetFinal) (n : Int) :
    (if n ≤ targetFinal then .finalized else Tier.at n final) = Tier.at n targetFinal := by
  unfold Tier.at
  split
  · rfl
  · rw [if_neg (by omega)]

section
variable {d : ChainDeployment} {contents : HexString → BlockContent} {chain : Chain} {rpc : Rpc}
  {j j' : Journal} {last last' final targetFinal : Int} {hash : HexString} {raw : RpcLog}
  {l l' : ChainLog}

theorem ChainLog.Before.mark (h : l.Before l') : (l.mark targetFinal).Before (l'.mark targetFinal) := by
  rw [mark_eq, mark_eq]
  exact h

namespace ChainDeployment.IsLogRow

theorem unique (h : d.IsLogRow hash final raw l) (h' : d.IsLogRow hash final raw l') : l = l' := by
  obtain ⟨decoded, contractName, hdecoded, hcontract, rfl⟩ := h
  obtain ⟨decoded', contractName', hdecoded', hcontract', rfl⟩ := h'
  rw [hdecoded] at hdecoded'
  rw [hcontract] at hcontract'
  cases hdecoded'
  cases hcontract'
  rfl

/-- Marking what is final makes the row of a log into its row at the new finalized block. -/
theorem mark (h : d.IsLogRow hash final raw l) (hle : final ≤ targetFinal) :
    d.IsLogRow hash targetFinal raw (l.mark targetFinal) := by
  obtain ⟨decoded, contractName, hdecoded, hcontract, rfl⟩ := h
  refine ⟨decoded, contractName, hdecoded, hcontract, ?_⟩
  rw [ChainLog.mark_eq, ← Tier.at_mark hle]

/-- A log that has a row at one finalized block has one at another. -/
theorem retier (h : d.IsLogRow hash final raw l) : ∃ r, d.IsLogRow hash targetFinal raw r := by
  obtain ⟨decoded, contractName, hdecoded, hcontract, -⟩ := h
  exact ⟨_, decoded, contractName, hdecoded, hcontract, rfl⟩

end ChainDeployment.IsLogRow

/-- The rows of a chunk are those of the logs of its blocks, in the order of the chain. -/
theorem ChainDeployment.LogRows.of_chain {raws kept : List RpcLog} {rows : List ChainLog}
    {blocks : Int → Option ChainBlock}
    (h : d.LogRows blocks targetFinal (raws.mergeSort logOrder) kept rows)
    (hchain : chain.Consistent d contents) (hsees : rpc.Sees d contents chain)
    (hfirst : d.beforeFirst ≤ last) (hhead : last' ≤ chain.head)
    (hraws : rpc.getLogs (last + 1) last' = .ok raws)
    (hblocks : ∀ n b, last < n → n ≤ last' → blocks n = some b → b.hash = chain.hashAt n) :
    (∀ l, l ∈ rows ↔ ∃ n, last < n ∧ n ≤ last' ∧
      ∃ raw ∈ (chain.blockAt contents n).logs, d.IsLogRow (chain.hashAt n) targetFinal raw l) ∧
    rows.Pairwise ChainLog.Before := by
  have hkept : ∀ raw ∈ kept, ∃ n, last < n ∧ n ≤ last' ∧ raw ∈ (chain.blockAt contents n).logs ∧
      raw.blockNumber = n ∧ lower raw.blockHash = chain.hashAt n := by
    intro raw hmem
    have hraw : raw ∈ raws := List.mem_mergeSort.mp (h.sublist.subset hmem)
    obtain ⟨n, hlow, hhigh, hin⟩ :=
      (hsees.logs _ _ raws (by omega) hhead hraws raw).mp hraw
    obtain ⟨hnumber, hhash⟩ := hchain.placed n (by omega) (by omega) raw hin
    exact ⟨n, by omega, hhigh, hin, hnumber, hhash⟩
  refine ⟨fun l => ⟨fun hl => ?_, ?_⟩, ?_⟩
  · obtain ⟨raw, hmem, b, hb, -, hrow⟩ := exists_of_forall₂_right h.rows hl
    obtain ⟨n, hlow, hhigh, hin, hnumber, -⟩ := hkept raw hmem
    rw [hnumber] at hb
    rw [hblocks n b hlow hhigh hb] at hrow
    exact ⟨n, hlow, hhigh, raw, hin, hrow⟩
  · rintro ⟨n, hlow, hhigh, raw, hin, hrow⟩
    obtain ⟨hnumber, hhash⟩ := hchain.placed n (by omega) (by omega) raw hin
    have hraw : raw ∈ raws.mergeSort logOrder :=
      List.mem_mergeSort.mpr ((hsees.logs _ _ raws (by omega) hhead hraws raw).mpr
        ⟨n, by omega, hhigh, hin⟩)
    -- The log that is kept at this position is the log itself.
    obtain ⟨raw', hmem, hposition⟩ := h.complete raw hraw
    obtain ⟨n', hlow', hhigh', hin', hnumber', hhash'⟩ := hkept raw' hmem
    have hsame : chain.hashAt n' = chain.hashAt n := by
      rw [← hhash', ← hhash]
      exact congrArg lower (congrArg Prod.fst hposition)
    have hin'' : raw' ∈ (chain.blockAt contents n).logs := by
      unfold Chain.blockAt at hin' ⊢
      rw [← hsame]
      exact hin'
    obtain rfl : raw' = raw := hchain.indexed n (by omega) (by omega) raw' hin'' raw hin
      (congrArg (fun position => position.2.2) hposition)
    obtain ⟨r, hr, b, hb, -, hrow'⟩ := exists_of_forall₂_left h.rows hmem
    rw [hnumber] at hb
    rw [hblocks n b hlow hhigh hb] at hrow'
    rw [hrow.unique hrow']
    exact hr
  · have hsorted : (raws.mergeSort logOrder).Pairwise fun a b => logOrder a b = true := by
      refine List.pairwise_mergeSort (fun a b c hab hbc => ?_) (fun a b => ?_) raws
      · unfold logOrder at hab hbc ⊢
        simp only [decide_eq_true_eq] at hab hbc ⊢
        omega
      · unfold logOrder
        simp only [Bool.or_eq_true, decide_eq_true_eq]
        omega
    have hboth := (hsorted.sublist h.sublist).and h.once
    refine pairwise_of_forall₂ (P := fun raw raw' => raw.blockNumber < raw'.blockNumber ∨
      raw.blockNumber = raw'.blockNumber ∧ (raw.transactionIndex < raw'.transactionIndex ∨
        raw.transactionIndex = raw'.transactionIndex ∧ raw.logIndex < raw'.logIndex)) ?_ h.rows
      (hboth.imp_of_mem ?_)
    · rintro raw raw' l l' ⟨b, -, -, _, _, -, -, rfl⟩ ⟨b', -, -, _, _, -, -, rfl⟩ hbefore
      exact hbefore
    · rintro raw raw' hmem hmem' ⟨horder, hdiffers⟩
      unfold logOrder at horder
      simp only [decide_eq_true_eq] at horder
      obtain ⟨n, hlow, hhigh, hin, hnumber, -⟩ := hkept raw hmem
      obtain ⟨n', -, -, hin', hnumber', -⟩ := hkept raw' hmem'
      -- Two logs of one block with one index are one log, which is kept once.
      have hindex : raw.blockNumber = raw'.blockNumber → raw.logIndex ≠ raw'.logIndex := by
        intro hblock hsame
        obtain rfl : n = n' := by omega
        exact hdiffers (congrArg RpcLog.position
          (hchain.indexed n (by omega) (by omega) raw hin raw' hin' hsame))
      omega

/-- A chunk of the chain that is read and committed on top of a mirror gives a mirror. -/
theorem Journal.Mirrors.grow {j₁ j₂ : Journal} (h : j₁.Mirrors d contents chain last final)
    (hchain : chain.Consistent d contents) (hsees : rpc.Sees d contents chain)
    (hfirst : d.beforeFirst ≤ last) (hle : last ≤ last') (hhead : last' ≤ chain.head)
    (hfinal : final ≤ targetFinal) (hgrown : j₁.Grown d rpc targetFinal last last' j₂)
    (hcommit : j₂.Committed targetFinal last' j') :
    j'.Mirrors d contents chain last' targetFinal := by
  have hnew : ∀ n b, last < n → n ≤ last' → j₂.blocks n = some b →
      b = chain.row contents targetFinal n := by
    intro n b hlow hhigh hb
    obtain ⟨hnumber, htier, -, ⟨a, ha, hhash, hparent, htime⟩, -⟩ := hgrown.row n b hlow hhigh hb
    obtain ⟨hhash', hparent', htime'⟩ := hsees.block n a (by omega) (by omega) ha
    obtain ⟨number, hash, parentHash, timestamp, tier⟩ := b
    simp only at hnumber htier hhash hparent htime
    rw [hnumber, htier, hhash, hparent, htime, hhash', hparent', htime']
    rfl
  have hmark : ∀ (n : Int) {t : Int}, t ≤ targetFinal →
      (if n ≤ targetFinal then { chain.row contents t n with tier := .finalized }
        else chain.row contents t n) = chain.row contents targetFinal n := by
    intro n t ht
    unfold Chain.row
    rw [← Tier.at_mark ht]
    split
    · rfl
    · rfl
  have hblocks : ∀ n, j'.blocks n = if d.beforeFirst < n ∧ n ≤ last' then
      some (chain.row contents targetFinal n) else none := by
    intro n
    rw [hcommit.blocks]
    by_cases hchunk : last < n ∧ n ≤ last'
    · obtain ⟨b, hb⟩ := hgrown.new n hchunk.1 hchunk.2
      rw [if_pos ⟨by omega, hchunk.2⟩, hb, hnew n b hchunk.1 hchunk.2 hb, Option.map_some,
        hmark n (le_refl _)]
    · rw [hgrown.old n (by omega), h.blocks]
      by_cases hold : d.beforeFirst < n ∧ n ≤ last
      · rw [if_pos hold, if_pos ⟨hold.1, by omega⟩, Option.map_some, hmark n hfinal]
      · rw [if_neg hold, if_neg (by omega), Option.map_none]
  obtain ⟨rows, hlogs, hrange, hread⟩ := hgrown.logs
  -- The rows of the chunk, whether or not there is a block to read.
  have hrows : (∀ l, l ∈ rows ↔ ∃ n, last < n ∧ n ≤ last' ∧
        ∃ raw ∈ (chain.blockAt contents n).logs, d.IsLogRow (chain.hashAt n) targetFinal raw l) ∧
      rows.Pairwise ChainLog.Before := by
    rcases hread with ⟨hnone, rfl⟩ | ⟨-, raws, kept, hraws, hkept⟩
    · refine ⟨fun l => ⟨nofun, ?_⟩, .nil⟩
      rintro ⟨n, hlow, hhigh, -⟩
      omega
    · refine hkept.of_chain hchain hsees hfirst hhead hraws fun n b hlow hhigh hb => ?_
      rw [hnew n b hlow hhigh hb]
      rfl
  have hplaced : ∀ {n : Int} {raw : RpcLog} {l : ChainLog} {t : Int}, d.beforeFirst < n →
      n ≤ last' → raw ∈ (chain.blockAt contents n).logs → d.IsLogRow (chain.hashAt n) t raw l →
      l.blockNumber = n := by
    intro n raw l t hlow hhigh hraw hrow
    obtain ⟨_, _, -, -, rfl⟩ := hrow
    exact (hchain.placed n hlow (by omega) raw hraw).1
  have hlogs' : j'.logs = (j₁.logs ++ rows).map (ChainLog.mark targetFinal) := by
    rw [hcommit.logs, hlogs]
    rfl
  refine ⟨hblocks, fun l => ?_, ?_⟩
  · rw [hlogs', List.mem_map]
    constructor
    · rintro ⟨l₀, hl₀, rfl⟩
      rcases List.mem_append.mp hl₀ with hold | hrow
      · obtain ⟨n, hlow, hhigh, raw, hraw, hrow⟩ := (h.logs l₀).mp hold
        exact ⟨n, hlow, by omega, raw, hraw, hrow.mark hfinal⟩
      · obtain ⟨n, hlow, hhigh, raw, hraw, hrow⟩ := (hrows.1 l₀).mp hrow
        exact ⟨n, by omega, hhigh, raw, hraw, hrow.mark (le_refl _)⟩
    · rintro ⟨n, hlow, hhigh, raw, hraw, hrow⟩
      by_cases hn : n ≤ last
      · obtain ⟨l₀, hrow₀⟩ : ∃ l₀, d.IsLogRow (chain.hashAt n) final raw l₀ := hrow.retier
        refine ⟨l₀, List.mem_append_left _ ((h.logs l₀).mpr ⟨n, hlow, hn, raw, hraw, hrow₀⟩), ?_⟩
        exact (hrow₀.mark hfinal).unique hrow
      · refine ⟨l, List.mem_append_right _ ((hrows.1 l).mpr
          ⟨n, by omega, hhigh, raw, hraw, hrow⟩), ?_⟩
        exact (hrow.mark (le_refl _)).unique hrow
  · rw [hlogs', List.pairwise_map]
    refine List.Pairwise.imp (fun {a b} hab => hab.mark) (List.pairwise_append.mpr
      ⟨h.sorted, hrows.2, fun l hl l' hl' => ?_⟩)
    obtain ⟨n, hlow, hhigh, raw, hraw, hrow⟩ := (h.logs l).mp hl
    have hn := hplaced hlow (by omega) hraw hrow
    exact .inl (by have := (hrange l' hl').1; omega)

end

/-! ### A call -/

/-- The rows and the tables of the chain up to `last`. Nothing is there before the deployment. -/
structure Database.IndexedTo {T : Type} (db : Database T) (ix : Indexer T)
    (contents : HexString → BlockContent) (chain : Chain) (last : Int) : Prop where
  mirrors : db.journal.Mirrors ix.deployment contents chain last
    (ix.deployment.targetFinal chain.head last)
  replayed : ix.deployment.beforeFirst < last →
    ix.models.replay db.journal.blocks db.journal.logs = .ok db.tables
  empty : last ≤ ix.deployment.beforeFirst → db.tables = ix.models.empty

/-- Between calls, the database is that of the chain of an earlier call, up to the cursor. -/
structure Database.Current {T : Type} (db : Database T) (ix : Indexer T)
    (contents : HexString → BlockContent) (calls : List IndexCall) : Prop where
  indexed : db.journal.Indexed ix.deployment
  linked : db.journal.Linked ix.deployment
  fresh : db.journal.cursor = none → db.tables = ix.models.empty
  cursor : ∀ c, db.journal.cursor = some c → ∃ a ∈ calls, a.chain.Consistent ix.deployment contents ∧
    ix.deployment.beforeFirst < c.lastBlockNumber ∧ c.lastBlockNumber ≤ a.chain.head ∧
    c.finalizedBlockNumber = ix.deployment.targetFinal a.chain.head c.lastBlockNumber ∧
    db.IndexedTo ix contents a.chain c.lastBlockNumber

section
variable {T : Type} {ix : Indexer T} {contents : HexString → BlockContent}
  {calls : List IndexCall} {a : IndexCall} {db db' : Database T} {result : SyncResult}

theorem Database.IndexedTo.unique {chain : Chain} {last : Int}
    (h : db.IndexedTo ix contents chain last) (h' : db'.IndexedTo ix contents chain last) :
    db.journal.blocks = db'.journal.blocks ∧ db.journal.logs = db'.journal.logs ∧
      db.tables = db'.tables := by
  obtain ⟨hblocks, hlogs⟩ := h.mirrors.unique h'.mirrors
  refine ⟨hblocks, hlogs, ?_⟩
  by_cases hlast : ix.deployment.beforeFirst < last
  · have hreplay := h.replayed hlast
    rw [hblocks, hlogs, h'.replayed hlast] at hreplay
    exact (Except.ok.inj hreplay).symm
  · rw [h.empty (by omega), h'.empty (by omega)]

theorem Indexer.initial_current : ix.initial.Current ix contents [] where
  indexed := ⟨fun _ => ⟨fun _ => rfl, rfl⟩, nofun, nofun⟩
  linked := nofun
  fresh _ := rfl
  cursor := nofun

/-- A call that returned: the journal is that of `sync`, and the tables are those of `replay`, or
they stay where there is no block of the deployment yet. -/
theorem Indexer.sync_ok {call : SyncCall} (h : ix.sync db call = .ok (result, db')) :
    ix.deployment.sync db.journal call = .ok (result, db'.journal) ∧
      ((result.finalizedBlock = none ∧ db'.tables = db.tables) ∨
        (∃ final, result.finalizedBlock = some final) ∧
          ix.models.replay db'.journal.blocks db'.journal.logs = .ok db'.tables) := by
  unfold Indexer.sync at h
  obtain ⟨⟨result', j⟩, hsync, h⟩ := bind_eq_ok.mp h
  dsimp only at h
  split at h
  · rename_i hnone
    cases h
    exact ⟨hsync, .inl ⟨hnone, rfl⟩⟩
  · rename_i final hsome
    obtain ⟨tables, htables, h⟩ := bind_eq_ok.mp h
    cases h
    exact ⟨hsync, .inr ⟨⟨final, hsome⟩, htables⟩⟩

/-- What a rollback leaves of the chain of an earlier call is the chain of this one. -/
theorem Database.Current.resumed (h : db.Current ix contents calls)
    (hheads : ∀ b ∈ calls, b.chain.head ≤ a.chain.head)
    (hchain : a.chain.Consistent ix.deployment contents)
    (hsees : a.call.rpc.Sees ix.deployment contents a.chain) {last last' : Int} {j₁ : Journal}
    (hresumes : db.journal.Resumes ix.deployment a.call.rpc last j₁)
    (hgoes : ∀ n, n ≤ last → n ≤ a.chain.head → n ≤ last')
    (hfirst : ix.deployment.deploymentBlock ≤ a.chain.head) :
    last ≤ last' ∧ ∃ final, final ≤ ix.deployment.targetFinal a.chain.head last' ∧
      j₁.Mirrors ix.deployment contents a.chain last final := by
  have hbefore : ix.deployment.beforeFirst = ix.deployment.deploymentBlock - 1 := rfl
  have hlow := hresumes.first
  cases hc : db.journal.cursor with
  | none =>
    -- There is nothing yet.
    obtain ⟨hblocks, hlogs⟩ := h.indexed.fresh hc
    have hnone : ∀ n, j₁.blocks n = none := by
      intro n
      by_cases hn : n ≤ last
      · rw [hresumes.cut.below n hn]
        exact hblocks n
      · exact hresumes.cut.above n (by omega)
    have hlast : last ≤ ix.deployment.beforeFirst := by
      by_contra habove
      obtain ⟨b, -, hb, -⟩ := hresumes.block (by omega)
      rw [hnone] at hb
      cases hb
    refine ⟨hgoes last (le_refl _) (by omega), _, le_refl _, .empty hnone ?_ hlast⟩
    exact List.eq_nil_iff_forall_not_mem.mpr fun l hl => by
      have hold := ((hresumes.cut.logs l).mp hl).1
      rw [hlogs] at hold
      cases hold
  | some c =>
    obtain ⟨b, hb, hchain', -, hhead, hfinal, hto⟩ := h.cursor c hc
    obtain ⟨hkeeps, hle⟩ := hresumes.bounds c hc
    have hrise := hheads b hb
    have hgo := hgoes last (le_refl _) (by omega)
    have hcut := hto.mirrors.cut hchain' hhead hle hresumes.cut
    refine ⟨hgo, c.finalizedBlockNumber, ?_, ?_⟩
    · unfold targetFinal at hfinal ⊢
      omega
    · rw [hfinal]
      refine hcut.rechain fun n hn hnle => ?_
      -- The walk ended at a block of both chains.
      obtain ⟨r, answer, hr, hwalk, hsame⟩ := hresumes.block (by omega)
      rw [hcut.blocks, if_pos ⟨by omega, le_refl _⟩] at hr
      cases hr
      have hshared : b.chain.hashAt last = a.chain.hashAt last :=
        hsame.trans (hsees.walk last answer (by omega) (by omega) hwalk)
      exact hchain'.agree hchain (by omega) (by omega) hshared hn hnle

/-- A call that returns keeps the invariant, and where it reaches the head it leaves the database of
its chain. -/
theorem Database.Current.sync (h : db.Current ix contents calls)
    (hheads : ∀ b ∈ calls, b.chain.head ≤ a.chain.head)
    (hok : ix.sync db a.call = .ok (result, db'))
    (hchain : a.chain.Consistent ix.deployment contents)
    (hsees : a.call.rpc.Sees ix.deployment contents a.chain) :
    db'.Current ix contents (calls ++ [a]) ∧
      (result.lag = 0 → db'.IndexedTo ix contents a.chain a.chain.head) := by
  have hbefore : ix.deployment.beforeFirst = ix.deployment.deploymentBlock - 1 := rfl
  obtain ⟨hsync, htables⟩ := Indexer.sync_ok hok
  obtain ⟨head, last, j₁, j₂, e, hresult⟩ := sync_effect h.indexed h.linked hsync
  obtain rfl : head = a.chain.head := hsees.head head e.answered
  have hindexed := e.indexed h.indexed h.linked
  have hlinked := (e.linked h.linked).2
  rcases hresult with ⟨hearly, hnone⟩ | ⟨hlate, hsome, hlag⟩
  · -- No block of the deployment has been seen by any call.
    have hfresh : db.journal.cursor = none := by
      cases hc : db.journal.cursor with
      | none => rfl
      | some c =>
        obtain ⟨b, hb, -, habove, hhead, -⟩ := h.cursor c hc
        have hrise := hheads b hb
        omega
    have hcursor : db'.journal.cursor = none := by
      rcases e.ends with ⟨-, hsame⟩ | ⟨hlate, -⟩
      · rw [hsame, e.cursor, hfresh]
      · omega
    have hempty : db'.tables = ix.models.empty := by
      rcases htables with ⟨-, hkept⟩ | ⟨⟨final, hsome⟩, -⟩
      · rw [hkept, h.fresh hfresh]
      · rw [hnone] at hsome
        cases hsome
    obtain ⟨hblocks, hlogs⟩ := hindexed.fresh hcursor
    refine ⟨⟨hindexed, hlinked, fun _ => hempty, fun c hc => ?_⟩, fun _ => ⟨?_, ?_, ?_⟩⟩
    · rw [hcursor] at hc
      cases hc
    · exact .empty hblocks hlogs (by omega)
    · intro habove
      omega
    · exact fun _ => hempty
  · have hsize := e.chunkSize
    have hfirst := e.resumes.first
    have hgoes : ∀ n, n ≤ last → n ≤ a.chain.head → n ≤ min a.chain.head (last + a.call.chunkSize) := by
      intro n hn hhead
      omega
    obtain ⟨hgo, final, hfinal, hmirrors⟩ :=
      h.resumed hheads hchain hsees e.resumes hgoes hlate
    have hcommit := (e.ends.resolve_left (by omega)).2
    have hreplay : ix.models.replay db'.journal.blocks db'.journal.logs = .ok db'.tables := by
      rcases htables with ⟨hnone, -⟩ | ⟨-, hreplay⟩
      · rw [hsome] at hnone
        cases hnone
      · exact hreplay
    have hto : db'.IndexedTo ix contents a.chain (min a.chain.head (last + a.call.chunkSize)) := by
      refine ⟨?_, fun _ => hreplay, fun hbelow => ?_⟩
      · exact hmirrors.grow hchain hsees hfirst hgo (by omega) hfinal e.grown hcommit
      · omega
    refine ⟨⟨hindexed, hlinked, fun hnone => ?_, fun c hc => ?_⟩, fun hdone => ?_⟩
    · obtain ⟨hash, hcursor⟩ := hcommit.cursor
      rw [hcursor] at hnone
      cases hnone
    · obtain ⟨hash, hcursor⟩ := hcommit.cursor
      rw [hcursor] at hc
      cases hc
      exact ⟨a, by simp, hchain, by show ix.deployment.beforeFirst < min _ _; omega,
        by show min _ _ ≤ a.chain.head; omega, rfl, hto⟩
    · have hend : min a.chain.head (last + a.call.chunkSize) = a.chain.head := by omega
      rw [hend] at hto
      exact hto

/-! ### Runs -/

/-- What the invariant says of a longer list of calls. -/
theorem Database.Current.snoc (h : db.Current ix contents calls) (a : IndexCall) :
    db.Current ix contents (calls ++ [a]) where
  indexed := h.indexed
  linked := h.linked
  fresh := h.fresh
  cursor c hc := by
    obtain ⟨b, hb, hrest⟩ := h.cursor c hc
    exact ⟨b, List.mem_append_left _ hb, hrest⟩

theorem HeadsRise.snoc_iff : HeadsRise (calls ++ [a]) ↔
    HeadsRise calls ∧ ∀ b ∈ calls, b.chain.head ≤ a.chain.head := by
  unfold HeadsRise
  rw [List.pairwise_append]
  simp

theorem IndexStep.current (h : db.Current ix contents calls)
    (hheads : ∀ b ∈ calls, b.chain.head ≤ a.chain.head) (hstep : IndexStep ix contents db a db') :
    db'.Current ix contents (calls ++ [a]) := by
  unfold IndexStep at hstep
  split at hstep
  · rw [hstep]
    exact h.snoc a
  · rename_i result out hok
    obtain ⟨rfl, hchain, hsees⟩ := hstep
    exact (h.sync hheads hok hchain hsees).1

theorem IndexStep.run_current (hrun : Steps (IndexStep ix contents) ix.initial calls db)
    (hrise : HeadsRise calls) : db.Current ix contents calls := by
  refine Steps.history (P := fun calls db => HeadsRise calls → db.Current ix contents calls)
    (fun _ => ix.initial_current) ?_ hrun hrise
  intro calls db a db' _ ih hstep hrise
  obtain ⟨hbefore, hheads⟩ := HeadsRise.snoc_iff.mp hrise
  exact hstep.current (ih hbefore) hheads

/-- A run from an empty database whose last call has returned at the head of its chain. -/
def ReachesHead (ix : Indexer T) (contents : HexString → BlockContent) (calls : List IndexCall)
    (a : IndexCall) (db' : Database T) : Prop :=
  ∃ db result, Steps (IndexStep ix contents) ix.initial calls db ∧ IndexStep ix contents db a db' ∧
    ix.sync db a.call = .ok (result, db') ∧ result.lag = 0

theorem ReachesHead.indexedTo (h : ReachesHead ix contents calls a db')
    (hrise : HeadsRise (calls ++ [a])) : db'.IndexedTo ix contents a.chain a.chain.head := by
  obtain ⟨db, result, hrun, hstep, hok, hlag⟩ := h
  obtain ⟨hbefore, hheads⟩ := HeadsRise.snoc_iff.mp hrise
  unfold IndexStep at hstep
  rw [hok] at hstep
  obtain ⟨-, hchain, hsees⟩ := hstep
  exact ((IndexStep.run_current hrun hbefore).sync hheads hok hchain hsees).2 hlag

/-- Whatever calls have led to the head of a chain, the rows and the tables are those of the chain,
and so those of every run on this chain alone. -/
theorem index_path_independent {fresh : List IndexCall} {b : IndexCall} {scratch : Database T}
    (hrise : HeadsRise (calls ++ [a])) (h : ReachesHead ix contents calls a db)
    (halone : ∀ c ∈ fresh ++ [b], c.chain = a.chain) (h' : ReachesHead ix contents fresh b scratch) :
    db.IndexedTo ix contents a.chain a.chain.head ∧
      db.journal.blocks = scratch.journal.blocks ∧ db.journal.logs = scratch.journal.logs ∧
      db.tables = scratch.tables := by
  have hto := h.indexedTo hrise
  have hrise' : HeadsRise (fresh ++ [b]) := by
    refine List.Pairwise.imp_of_mem (R := fun _ _ => True) (fun {c c'} hc hc' _ => ?_)
      (List.pairwise_of_forall fun _ _ => trivial)
    rw [halone c hc, halone c' hc']
  have hto' := h'.indexedTo hrise'
  rw [halone b (by simp)] at hto'
  exact ⟨hto, hto.unique hto'⟩

/-- The calls that see their chains determine where their run ends. -/
theorem Indexer.run_steps (hanswers : ∀ a ∈ calls, a.chain.Consistent ix.deployment contents ∧
    a.call.rpc.Sees ix.deployment contents a.chain) :
    Steps (IndexStep ix contents) ix.initial calls (ix.run calls) := by
  unfold Indexer.run
  generalize ix.initial = db
  induction calls generalizing db with
  | nil => exact .nil db
  | cons a calls ih =>
    obtain ⟨hchain, hsees⟩ := hanswers a List.mem_cons_self
    have hstep : IndexStep ix contents db a (ix.after db a) := by
      unfold IndexStep Indexer.after
      split
      · rfl
      · exact ⟨rfl, hchain, hsees⟩
    exact .cons hstep (ih (fun b hb => hanswers b (List.mem_cons_of_mem _ hb)) _)

end

namespace Sample

/-- What the hash of a block of either chain commits to. Block 2 of each chain has a log. -/
def contentOf (hash : HexString) : BlockContent where
  parentHash := parentOf hash
  timestamp := 100
  logs := match hash.drop 65 with
    | ['2'] => [{ blockNumber := 2, blockHash := hash, transactionHash := hash,
                  transactionIndex := 0, logIndex := 0,
                  address := '0' :: 'x' :: List.replicate 40 '0', topics := [], data := [],
                  removed := false }]
    | _ => []

/-- The transactions of the logs, for each tier. -/
def transactions : ReadModels (List (Tier × HexString)) where
  empty := []
  beginTier := fun _ tables => tables
  repayments := fun _ _ _ tables => .ok tables
  event := fun tier _ _ l tables => .ok (tables ++ [(tier, l.txHash)])

/-- The deployment at block 1, with a vault whose logs are all shares moving. -/
def shares : Indexer (List (Tier × HexString)) where
  deployment := { indexed with
    contractOf := fun _ => some "LendingVaultV2"
    decode := fun _ _ _ => .ok (some { event := "Transfer", args := [] })
    replay := fun blocks logs => (transactions.replay blocks logs).map fun _ => () }
  models := transactions
  replays := rfl

/-- The chain that forks at `fork`, up to `head`. -/
def forked (fork head : Int) : Chain := { head := head, hashAt := hashAt fork }

/-- A call against a node that has this chain. -/
def indexWith (chunkSize fork head : Int) : IndexCall where
  call := { chunkSize := chunkSize, rpc := { node fork head with
    getBlock := fun n => .ok <| if 1 ≤ n ∧ n ≤ head then
      some { number := n, hash := hashAt fork n, parentHash := hashAt fork (n - 1),
             timestamp := 100 } else none
    getLogs := fun a b => .ok <| (List.range (b + 1 - a).toNat).flatMap fun k : Nat =>
      ((forked fork head).blockAt contentOf (a + k)).logs
    getReceipt := fun hash => .ok (some { blockHash := hash, status := 1 }) } }
  chain := forked fork head

/-- A fork at block 2 while that block is pending, and a call that is refused. -/
def forkedCalls : List IndexCall := [indexWith 250 9 2, indexWith 0 9 2]

/-- The chain after the fork, in chunks of 2. -/
def freshCalls : List IndexCall := [indexWith 2 2 3]

theorem indexWith_answers {chunkSize fork head : Int} (hfork : fork = 9 ∨ fork = 2)
    (hhead : head ≤ 3) :
    (indexWith chunkSize fork head).chain.Consistent shares.deployment contentOf ∧
      (indexWith chunkSize fork head).call.rpc.Sees shares.deployment contentOf
        (indexWith chunkSize fork head).chain := by
  have hfirst : shares.deployment.beforeFirst = 0 := rfl
  have hnumber : ∀ n : Int, 0 < n → n ≤ head → n = 1 ∨ n = 2 ∨ n = 3 := by
    intro n hlow hhigh
    omega
  have hlower : ∀ n : Int, n = 1 ∨ n = 2 ∨ n = 3 → lower (hashAt fork n) = hashAt fork n ∧
      lower (hashAt fork (n - 1)) = (contentOf (hashAt fork n)).parentHash := by
    rintro n (rfl | rfl | rfl) <;> rcases hfork with rfl | rfl <;> decide +kernel
  have hparent : ∀ n : Int, n = 2 ∨ n = 3 →
      (contentOf (hashAt fork n)).parentHash = hashAt fork (n - 1) := by
    rintro n (rfl | rfl) <;> rcases hfork with rfl | rfl <;> decide +kernel
  have hlogs : ∀ n : Int, n = 1 ∨ n = 2 ∨ n = 3 →
      (contentOf (hashAt fork n)).logs = if n = 2 then [{
        blockNumber := 2, blockHash := hashAt fork 2, transactionHash := hashAt fork 2,
        transactionIndex := 0, logIndex := 0, address := '0' :: 'x' :: List.replicate 40 '0',
        topics := [], data := [], removed := false }] else [] := by
    rintro n (rfl | rfl | rfl) <;> rcases hfork with rfl | rfl <;> rfl
  have hanswer : ∀ {n : Int} {x b : RpcBlock}, (if 1 ≤ n ∧ n ≤ head then some x else none) = some b →
      x = b := by
    intro n x b h
    split at h
    · exact Option.some.inj h
    · cases h
  constructor
  · constructor
    · intro n hlow hhigh
      replace hhigh : n ≤ head := hhigh
      exact hparent n (by omega)
    · intro n hlow hhigh raw hraw
      have hn := hnumber n hlow hhigh
      replace hraw : raw ∈ (contentOf (hashAt fork n)).logs := hraw
      rw [hlogs n hn] at hraw
      split at hraw
      · rename_i htwo
        obtain rfl := List.mem_singleton.mp hraw
        subst htwo
        exact ⟨rfl, (hlower 2 hn).1⟩
      · cases hraw
    · intro n hlow hhigh raw hraw raw' hraw' _
      have hn := hnumber n hlow hhigh
      replace hraw : raw ∈ (contentOf (hashAt fork n)).logs := hraw
      replace hraw' : raw' ∈ (contentOf (hashAt fork n)).logs := hraw'
      rw [hlogs n hn] at hraw hraw'
      split at hraw
      · rename_i htwo
        rw [if_pos htwo] at hraw'
        rw [List.mem_singleton.mp hraw, List.mem_singleton.mp hraw']
      · cases hraw
  · constructor
    · intro h hh
      exact (Except.ok.inj hh).symm
    · intro n b hlow hhigh h
      rw [← hanswer (Except.ok.inj h)]
      exact (hlower n (hnumber n hlow hhigh)).1
    · intro n b hlow hhigh h
      rw [← hanswer (Except.ok.inj h)]
      obtain ⟨hhash, hparent⟩ := hlower n (hnumber n hlow hhigh)
      exact ⟨hhash, hparent, rfl⟩
    · intro a b raws _ _ h raw
      rw [← Except.ok.inj h, List.mem_flatMap]
      constructor
      · rintro ⟨k, hk, hraw⟩
        rw [List.mem_range] at hk
        exact ⟨a + k, by omega, by omega, hraw⟩
      · rintro ⟨n, hlow, hhigh, hraw⟩
        refine ⟨(n - a).toNat, List.mem_range.mpr (by omega), ?_⟩
        have hn : a + ((n - a).toNat : Int) = n := by omega
        rw [hn]
        exact hraw

end Sample

/-- Over a pending fork and a refused call, the rows and the tables are those of the fork alone. -/
theorem index_path_independent_sample :
    ∃ db scratch, ReachesHead Sample.shares Sample.contentOf Sample.forkedCalls
        (Sample.indexWith 250 2 3) db ∧
      ReachesHead Sample.shares Sample.contentOf Sample.freshCalls (Sample.indexWith 2 2 3) scratch ∧
      db.journal.blocks = scratch.journal.blocks ∧ db.journal.logs = scratch.journal.logs ∧
      db.tables = scratch.tables ∧
      db.tables = [(.finalized, Sample.hashAt 2 2), (.pending, Sample.hashAt 2 2)] := by
  have hreaches : ∀ {calls : List IndexCall} {a : IndexCall} {db : Database (List (Tier × HexString))}
      {result : SyncResult},
      (∀ c ∈ calls ++ [a], c.chain.Consistent Sample.shares.deployment Sample.contentOf ∧
        c.call.rpc.Sees Sample.shares.deployment Sample.contentOf c.chain) →
      Sample.shares.sync (Sample.shares.run calls) a.call = .ok (result, db) → result.lag = 0 →
      ReachesHead Sample.shares Sample.contentOf calls a db := by
    intro calls a db result hanswers hok hlag
    refine ⟨_, result, Indexer.run_steps fun c hc => hanswers c (List.mem_append_left _ hc), ?_, hok,
      hlag⟩
    obtain ⟨hchain, hsees⟩ := hanswers a (by simp)
    unfold IndexStep
    rw [hok]
    exact ⟨rfl, hchain, hsees⟩
  obtain ⟨⟨result, db⟩, hok, hview⟩ : ∃ out, (Sample.shares.sync
      (Sample.shares.run Sample.forkedCalls) (Sample.indexWith 250 2 3).call).toOption = some out ∧
      (out.1.lag, out.2.tables) =
        (0, [(.finalized, Sample.hashAt 2 2), (.pending, Sample.hashAt 2 2)]) :=
    Option.map_eq_some_iff.mp (by decide +kernel)
  obtain ⟨⟨result', scratch⟩, hok', hlag'⟩ : ∃ out, (Sample.shares.sync
      (Sample.shares.run Sample.freshCalls) (Sample.indexWith 2 2 3).call).toOption = some out ∧
      out.1.lag = 0 :=
    Option.map_eq_some_iff.mp (by decide +kernel)
  obtain ⟨hlag, htables⟩ := Prod.mk.inj hview
  have hforked := hreaches (by
    intro c hc
    simp only [Sample.forkedCalls, List.cons_append, List.nil_append, List.mem_cons,
      List.not_mem_nil, or_false] at hc
    rcases hc with rfl | rfl | rfl
    · exact Sample.indexWith_answers (.inl rfl) (by decide)
    · exact Sample.indexWith_answers (.inl rfl) (by decide)
    · exact Sample.indexWith_answers (.inr rfl) (by decide)) (toOption_eq_some.mp hok) hlag
  have hfresh := hreaches (by
    intro c hc
    simp only [Sample.freshCalls, List.cons_append, List.nil_append, List.mem_cons,
      List.not_mem_nil, or_false] at hc
    rcases hc with rfl | rfl
    · exact Sample.indexWith_answers (.inr rfl) (by decide)
    · exact Sample.indexWith_answers (.inr rfl) (by decide)) (toOption_eq_some.mp hok') hlag'
  have hrise : HeadsRise (Sample.forkedCalls ++ [Sample.indexWith 250 2 3]) := by
    show List.Pairwise _ [Sample.indexWith 250 9 2, Sample.indexWith 0 9 2, Sample.indexWith 250 2 3]
    simp [Sample.indexWith, Sample.forked]
  obtain ⟨-, hblocks, hlogs, hsame⟩ := index_path_independent hrise hforked (by
    intro c hc
    simp only [Sample.freshCalls, List.cons_append, List.nil_append, List.mem_cons,
      List.not_mem_nil, or_false] at hc
    rcases hc with rfl | rfl
    · rfl
    · rfl) hfresh
  exact ⟨db, scratch, hforked, hfresh, hblocks, hlogs, hsame, htables⟩

end Rackline
