import Rackline.ChainIndexer

/-!
# `Rackline.Proofs.IndexedFinality`: what a final row is worth

A block of the journal is final once it is `finality_depth` below the head that the node reported.
From then on it should stay: the cursor's finalized block does not go back, no final row is
deleted or replaced, and a chain that has changed below it is refused with `FinalizedReorg`.

`sync` takes the finalized block from the head of the current answer alone. A node that has fallen
behind takes it back, and then the rows above it, which are marked `FINALIZED`, count as pending
again. So the guarantee holds for the runs in which every reported head is at least
`finality_depth` above the finalized block of the cursor, and the first of its three parts holds
for no others.

`SyncStep.effect` says once what a sync does to the rows: it cuts the journal at a block that is
not below the finalized one, adds a chunk on top of it, and marks what is final.
-/

set_option autoImplicit false

namespace Rackline

open Evm Transition ChainDeployment

/-! ### The guarantee -/

/-- The node answers with blocks whose hash fixes their parent, and the blocks of one walk are a
chain. -/
structure Rpc.BlockConsistent (rpc : Rpc) (d : ChainDeployment) (parentOf : HexString → HexString) :
    Prop where
  addressed : ∀ n b, rpc.walkBlock n = .ok (some b) ∨ rpc.getBlock n = .ok (some b) →
    lower b.parentHash = parentOf (lower b.hash)
  chained : ∀ n b, rpc.walkBlock n = .ok (some b) → d.deploymentBlock < n →
    ∃ p, rpc.walkBlock (n - 1) = .ok (some p) ∧ lower p.hash = lower b.parentHash

/-- The head of a sync is below the deployment, or it is `finality_depth` above the finalized block
of the cursor, or nothing is final yet. -/
def SyncCall.HeadHolds (call : SyncCall) (d : ChainDeployment) (j : Journal) : Prop :=
  ∀ c head, j.cursor = some c → call.rpc.blockNumber = .ok head →
    head < d.deploymentBlock ∨ c.finalizedBlockNumber < d.deploymentBlock ∨
      c.finalizedBlockNumber + d.finalityDepth ≤ head

/-- The finalized block of the cursor never goes back. -/
def FinalityMonotone (d : ChainDeployment) (calls : List SyncCall) : Prop :=
  ∀ j call j', StepOf (SyncStep d) .initial calls j call j' → ∀ c, j.cursor = some c →
    ∃ c', j'.cursor = some c' ∧ c.finalizedBlockNumber ≤ c'.finalizedBlockNumber

/-- A row that is `FINALIZED` at some point of the run is there, unchanged, at every later one. -/
def FinalRowsKept (d : ChainDeployment) (calls : List SyncCall) : Prop :=
  ∀ pre mid post j j', calls = pre ++ mid ++ post → Steps (SyncStep d) .initial pre j →
    Steps (SyncStep d) j mid j' →
    (∀ n b, j.blocks n = some b → b.tier = .finalized → j'.blocks n = some b) ∧
      ∀ l ∈ j.logs, l.tier = .finalized → l ∈ j'.logs

/-- A sync whose walk does not find a block that was final at some point of the run, where the node
answers all it is asked, raises `FinalizedReorg`. -/
def FinalChangeRaised (d : ChainDeployment) (parentOf : HexString → HexString) (calls : List SyncCall) :
    Prop :=
  ∀ pre mid post j j', calls = pre ++ mid ++ post → Steps (SyncStep d) .initial pre j →
    Steps (SyncStep d) j mid j' →
    ∀ c (n : Int) b, j.cursor = some c → d.deploymentBlock ≤ n → n ≤ c.finalizedBlockNumber →
      j.blocks n = some b →
    ∀ call : SyncCall, 1 ≤ call.chunkSize → call.chunkSize ≤ 5000 →
      call.rpc.chainId = .ok d.chainId → (∃ head, call.rpc.blockNumber = .ok head) →
      (∀ m, ∃ answer, call.rpc.walkBlock m = .ok answer) → call.rpc.BlockConsistent d parentOf →
      (∀ a, call.rpc.walkBlock n = .ok (some a) → lower a.hash ≠ b.hash) →
      ∃ block, d.sync j' call = .error (.finalizedReorg block)

/-! ### What each part of a sync does -/

namespace ChainDeployment

variable {d : ChainDeployment} {rpc : Rpc} {j j' : Journal} {targetFinal last last' : Int}

/-- The walk ends between the finalized block and the cursor, at a block that the journal and the
node both have, or in front of the deployment. -/
theorem walk_ok {finalized ancestor : Int} {n : Nat} {start : Int}
    (hstart : start = d.beforeFirst + n) (hfinal : finalized ≤ start)
    (h : walk rpc j finalized n start = .ok ancestor) :
    finalized ≤ ancestor ∧ ancestor ≤ start ∧
      (d.beforeFirst < ancestor → ∃ b a, j.blocks ancestor = some b ∧
        rpc.walkBlock ancestor = .ok (some a) ∧ b.hash = lower a.hash) := by
  induction n generalizing start with
  | zero =>
    cases h
    refine ⟨hfinal, le_refl _, fun habove => ?_⟩
    omega
  | succ n ih =>
    rw [walk] at h
    obtain ⟨actual, hactual, h⟩ := bind_eq_ok.mp h
    split at h
    · rename_i hsame
      cases h
      refine ⟨hfinal, le_refl _, fun _ => ?_⟩
      unfold sameBlock at hsame
      split at hsame
      · rename_i known answer hknown
        exact ⟨known, answer, hknown, hactual, of_decide_eq_true hsame⟩
      · cases hsame
    · obtain ⟨_, hguard, h⟩ := bind_eq_ok.mp h
      have habove : ¬start ≤ finalized := revertIf_eq_ok.mp hguard
      obtain ⟨hlow, hhigh, hblock⟩ := ih (by omega) (by omega) h
      exact ⟨hlow, by omega, hblock⟩

end ChainDeployment

/-- The journal `j` without its rows above `last`. -/
structure Journal.Cut (j : Journal) (last : Int) (j' : Journal) : Prop where
  cursor : j'.cursor = j.cursor
  below : ∀ n, n ≤ last → j'.blocks n = j.blocks n
  above : ∀ n, last < n → j'.blocks n = none
  logs : ∀ l, l ∈ j'.logs ↔ l ∈ j.logs ∧ l.blockNumber ≤ last
  order : j'.logs.Sublist j.logs

theorem Journal.deleteAbove_cut (j : Journal) (last : Int) : j.Cut last (j.deleteAbove last) where
  cursor := rfl
  below n hn := by
    show (if last < n then none else j.blocks n) = j.blocks n
    rw [if_neg (by omega)]
  above n hn := by
    show (if last < n then none else j.blocks n) = none
    rw [if_pos hn]
  logs l := by
    show l ∈ j.logs.filter (fun l => decide (l.blockNumber ≤ last)) ↔ _
    simp
  order := List.filter_sublist

/-- A deeper cut is a cut of the journal. -/
theorem Journal.Cut.trans {j j' j'' : Journal} {last last' : Int} (h : j.Cut last' j')
    (h' : j'.Cut last j'') (hle : last ≤ last') : j.Cut last j'' where
  cursor := h'.cursor.trans h.cursor
  below n hn := (h'.below n hn).trans (h.below n (by omega))
  above := h'.above
  logs l := by
    rw [h'.logs, h.logs]
    constructor
    · exact fun hl => ⟨hl.1.1, hl.2⟩
    · exact fun hl => ⟨⟨hl.1, by omega⟩, hl.2⟩
  order := h'.order.trans h.order

namespace ChainDeployment

variable {d : ChainDeployment} {rpc : Rpc} {j j' : Journal} {targetFinal last last' : Int}

theorem rollBack_ok {head ancestor : Int} {cursor : ChainCursor}
    (hle : ancestor ≤ cursor.lastBlockNumber)
    (habove : ∀ n, cursor.lastBlockNumber < n → j.blocks n = none)
    (hlogs : ∀ l ∈ j.logs, l.blockNumber ≤ cursor.lastBlockNumber)
    (h : rollBack rpc j head ancestor cursor = .ok (last, j')) : last = ancestor ∧ j.Cut last j' := by
  unfold rollBack at h
  split at h
  · obtain ⟨newTip, -, h⟩ := bind_eq_ok.mp h
    split at h
    · cases h
    · obtain ⟨_, -, h⟩ := bind_eq_ok.mp h
      have hcut := j.deleteAbove_cut ancestor
      cases h
      exact ⟨rfl, hcut.cursor, hcut.below, hcut.above, hcut.logs, hcut.order⟩
  · cases h
    have hsame : cursor.lastBlockNumber = ancestor := by omega
    refine ⟨hsame, rfl, fun _ _ => rfl, habove, fun l => ?_, .refl _⟩
    constructor
    · exact fun hl => ⟨hl, hlogs l hl⟩
    · exact fun hl => hl.1

end ChainDeployment

/-- The journal of a deployment, next to its cursor: a journal without a cursor has no rows, the
finalized block is between the deployment and the cursor, and up to it there is a row for every
block. -/
structure Journal.Indexed (j : Journal) (d : ChainDeployment) : Prop where
  fresh : j.cursor = none → (∀ n, j.blocks n = none) ∧ j.logs = []
  bounds : ∀ c, j.cursor = some c →
    d.beforeFirst ≤ c.finalizedBlockNumber ∧ c.finalizedBlockNumber ≤ c.lastBlockNumber
  complete : ∀ c, j.cursor = some c → ∀ n, d.beforeFirst < n → n ≤ c.finalizedBlockNumber →
    ∃ b, j.blocks n = some b

/-- The rows of the journal are a chain, from the deployment on. -/
def Journal.Linked (j : Journal) (d : ChainDeployment) : Prop :=
  ∀ n b, j.blocks n = some b → d.beforeFirst < n ∧ b.hash ≠ [] ∧
    (d.beforeFirst < n - 1 → ∃ p, j.blocks (n - 1) = some p ∧ b.parentHash = p.hash)

/-- The block to go on from is not below the finalized one, and the journal and the node have
it. -/
structure Journal.Resumes (j : Journal) (d : ChainDeployment) (rpc : Rpc) (last : Int)
    (j' : Journal) : Prop where
  cut : j.Cut last j'
  first : d.beforeFirst ≤ last
  bounds : ∀ c, j.cursor = some c → c.finalizedBlockNumber ≤ last ∧ last ≤ c.lastBlockNumber
  block : d.beforeFirst < last → ∃ b a, j'.blocks last = some b ∧
    rpc.walkBlock last = .ok (some a) ∧ b.hash = lower a.hash

theorem ChainDeployment.resume_ok {d : ChainDeployment} {rpc : Rpc} {j j' : Journal}
    {head last : Int} (hi : j.Indexed d)
    (h : d.resume rpc j.dropOrphans head = .ok (last, j')) : j.Resumes d rpc last j' := by
  unfold resume at h
  cases hc : j.cursor with
  | none =>
    have hsame : j.dropOrphans = j := by
      unfold Journal.dropOrphans
      rw [hc]
    rw [hsame, hc] at h
    cases h
    obtain ⟨hblocks, hlogs⟩ := hi.fresh hc
    refine ⟨⟨rfl, fun _ _ => rfl, fun n _ => hblocks n, fun l => ?_, .refl _⟩, le_refl _, ?_, ?_⟩
    · rw [hlogs]
      simp
    · intro c hsome
      rw [hc] at hsome
      cases hsome
    · exact fun hlt => absurd hlt (lt_irrefl _)
  | some c =>
    have hsame : j.dropOrphans = j.deleteAbove c.lastBlockNumber := by
      unfold Journal.dropOrphans
      rw [hc]
    have hcut := j.deleteAbove_cut c.lastBlockNumber
    rw [hsame, hcut.cursor, hc] at h
    obtain ⟨ancestor, hwalk, h⟩ := bind_eq_ok.mp h
    obtain ⟨hlow, hhigh⟩ := hi.bounds c hc
    have hstart : c.lastBlockNumber =
        d.beforeFirst + (c.lastBlockNumber - d.beforeFirst).toNat := by omega
    obtain ⟨hfinal, hle, hblock⟩ := walk_ok hstart hhigh hwalk
    obtain ⟨rfl, hcut'⟩ := rollBack_ok hle hcut.above (fun l hl => ((hcut.logs l).mp hl).2) h
    refine ⟨hcut.trans hcut' hle, by omega, ?_, fun hlt => ?_⟩
    · intro c' hsome
      rw [hc] at hsome
      cases hsome
      exact ⟨hfinal, hle⟩
    · rw [hcut'.below _ (le_refl _)]
      exact hblock hlt

/-! ### The chunk -/

/-- The row of a block among new rows. -/
def rowAt (rows : List ChainBlock) (n : Int) : Option ChainBlock :=
  rows.find? fun b => decide (b.number = n)

theorem rowAt_cons (b : ChainBlock) (rows : List ChainBlock) (n : Int) :
    rowAt (b :: rows) n = if b.number = n then some b else rowAt rows n := by
  unfold rowAt
  rw [List.find?_cons]
  by_cases h : b.number = n
  · simp [h]
  · simp [h]

theorem rowAt_eq_some {rows : List ChainBlock} {n : Int} {b : ChainBlock}
    (h : rowAt rows n = some b) : b ∈ rows ∧ b.number = n :=
  ⟨List.mem_of_find?_eq_some h, by simpa using List.find?_some h⟩

/-- So many rows from a number on, read from the node, each linked to the one before it. -/
structure IsChunk (rpc : Rpc) (targetFinal number : Int) (n : Nat) (parentHash : Option HexString)
    (rows : List ChainBlock) : Prop where
  row : ∀ b ∈ rows, number ≤ b.number ∧ b.number < number + n ∧ b.tier = .at b.number targetFinal ∧
    ∃ a, rpc.getBlock b.number = .ok (some a) ∧ b.hash = lower a.hash ∧
      b.parentHash = lower a.parentHash ∧ b.timestamp = a.timestamp
  complete : ∀ m, number ≤ m → m < number + n → ∃ b, rowAt rows m = some b
  first : ∀ b, rowAt rows number = some b →
    parentHash = none ∨ parentHash = some [] ∨ parentHash = some b.parentHash
  linked : ∀ m b, number < m → rowAt rows m = some b →
    ∃ p, rowAt rows (m - 1) = some p ∧ (p.hash = [] ∨ b.parentHash = p.hash)

theorem ChainDeployment.readBlocks_ok {rpc : Rpc} {targetFinal number : Int} {n : Nat}
    {parentHash : Option HexString} {rows : List ChainBlock}
    (h : readBlocks rpc targetFinal n number parentHash = .ok rows) :
    IsChunk rpc targetFinal number n parentHash rows := by
  induction n generalizing number parentHash rows with
  | zero =>
    cases h
    refine ⟨nofun, fun m hlow hhigh => ?_, nofun, nofun⟩
    omega
  | succ n ih =>
    rw [readBlocks] at h
    obtain ⟨answer, hanswer, h⟩ := bind_eq_ok.mp h
    split at h
    · cases h
    · rename_i block
      obtain ⟨_, -, h⟩ := bind_eq_ok.mp h
      obtain ⟨_, hparent, h⟩ := bind_eq_ok.mp h
      obtain ⟨rest, hrest, h⟩ := bind_eq_ok.mp h
      cases h
      have hchunk := ih hrest
      refine ⟨?_, ?_, ?_, ?_⟩
      · intro b hb
        rcases List.mem_cons.mp hb with rfl | hb
        · exact ⟨le_refl _, by show number < number + _; omega, rfl, block, hanswer, rfl, rfl, rfl⟩
        · obtain ⟨hlow, hhigh, hrow⟩ := hchunk.row b hb
          exact ⟨by omega, by push_cast; omega, hrow⟩
      · intro m hlow hhigh
        rw [rowAt_cons]
        by_cases hm : number = m
        · exact ⟨_, if_pos hm⟩
        · rw [if_neg hm]
          exact hchunk.complete m (by omega) (by push_cast at hhigh; omega)
      · intro b hb
        rw [rowAt_cons, if_pos rfl] at hb
        cases hb
        have hnot := revertIf_eq_ok.mp hparent
        show parentHash = none ∨ parentHash = some [] ∨ parentHash = some (lower block.parentHash)
        tauto
      · intro m b hlow hb
        rw [rowAt_cons, if_neg (by show ¬number = m; omega)] at hb
        rw [rowAt_cons]
        by_cases hm : number = m - 1
        · obtain rfl : m = number + 1 := by omega
          refine ⟨_, if_pos hm, ?_⟩
          -- The first of the rest was compared with the hash of the new block.
          rcases hchunk.first b hb with hnone | hempty | hsame
          · cases hnone
          · exact .inl (Option.some.inj hempty)
          · exact .inr (Option.some.inj hsame).symm
        · rw [if_neg hm]
          exact hchunk.linked m b (by omega) hb

/-- The row of a log in the block with the given hash. -/
def ChainDeployment.IsLogRow (d : ChainDeployment) (hash : HexString) (targetFinal : Int)
    (raw : RpcLog) (l : ChainLog) : Prop :=
  ∃ decoded contractName, d.decode raw.address raw.topics raw.data = .ok decoded ∧
    d.contractOf raw.address = some contractName ∧
    l = { blockNumber := raw.blockNumber, blockHash := hash, txHash := lower raw.transactionHash,
          txIndex := raw.transactionIndex, logIndex := raw.logIndex, address := lower raw.address,
          contractName := contractName,
          eventName := (decoded.map DecodedLog.event).getD "UNKNOWN",
          topics := raw.topics, data := raw.data, decoded := (decoded.map DecodedLog.args).getD [],
          tier := .at raw.blockNumber targetFinal }

/-- `(raw["blockHash"], raw["transactionHash"], raw["logIndex"])`. -/
def RpcLog.position (raw : RpcLog) : HexString × HexString × Int :=
  (raw.blockHash, raw.transactionHash, raw.logIndex)

/-- Of the logs at one position the first is kept, and the rows are those of the kept logs. -/
structure ChainDeployment.LogRows (d : ChainDeployment) (blocks : Int → Option ChainBlock)
    (targetFinal : Int) (raws kept : List RpcLog) (rows : List ChainLog) : Prop where
  sublist : kept.Sublist raws
  once : kept.Pairwise fun raw raw' => raw.position ≠ raw'.position
  complete : ∀ raw ∈ raws, ∃ raw' ∈ kept, raw'.position = raw.position
  rows : List.Forall₂ (fun raw l => ∃ b, blocks raw.blockNumber = some b ∧
    lower raw.blockHash = b.hash ∧ d.IsLogRow b.hash targetFinal raw l) kept rows

/-- The journal `j` with the blocks and logs above `last`, up to `last'`. -/
structure Journal.Grown (j : Journal) (d : ChainDeployment) (rpc : Rpc)
    (targetFinal last last' : Int) (j' : Journal) : Prop where
  cursor : j'.cursor = j.cursor
  old : ∀ n, n ≤ last ∨ last' < n → j'.blocks n = j.blocks n
  new : ∀ n, last < n → n ≤ last' → ∃ b, j'.blocks n = some b
  row : ∀ n b, last < n → n ≤ last' → j'.blocks n = some b →
    b.number = n ∧ b.tier = .at n targetFinal ∧ b.hash ≠ [] ∧
    (∃ a, rpc.getBlock n = .ok (some a) ∧ b.hash = lower a.hash ∧
      b.parentHash = lower a.parentHash ∧ b.timestamp = a.timestamp) ∧
    (d.beforeFirst < n - 1 → ∃ p, j'.blocks (n - 1) = some p ∧ b.parentHash = p.hash)
  logs : ∃ rows, j'.logs = j.logs ++ rows ∧
    (∀ l ∈ rows, last < l.blockNumber ∧ l.blockNumber ≤ last' ∧
      l.tier = .at l.blockNumber targetFinal) ∧
    ((last' ≤ last ∧ rows = []) ∨ last < last' ∧ ∃ raws kept, rpc.getLogs (last + 1) last' = .ok raws ∧
      d.LogRows j'.blocks targetFinal (raws.mergeSort logOrder) kept rows)

namespace Journal

variable {j j' : Journal}

theorem insertBlocks_ok {rows : List ChainBlock} (h : j.insertBlocks rows = .ok j') :
    j'.cursor = j.cursor ∧ j'.logs = j.logs ∧
      (∀ n, j'.blocks n = (rowAt rows n).or (j.blocks n)) ∧
      ∀ b ∈ rows, j.blocks b.number = none ∧ b.hash ≠ [] := by
  unfold insertBlocks at h
  obtain ⟨_, hguard, h⟩ := bind_eq_ok.mp h
  obtain rfl := pure_eq_ok.mp h
  refine ⟨rfl, rfl, fun _ => rfl, fun b hb => ?_⟩
  have hnot : ¬((j.blocks b.number).isSome = true ∨ isHex 64 b.hash = false ∨
      isHex 64 b.parentHash = false) :=
    fun hbad => revertIf_eq_ok.mp hguard ⟨b, hb, hbad⟩
  refine ⟨by simpa using fun hsome => hnot (.inl hsome), fun hempty => ?_⟩
  refine hnot (.inr (.inl ?_))
  rw [hempty]
  rfl

theorem insertLogs_ok {rows : List ChainLog} (h : j.insertLogs rows = .ok j') :
    j'.cursor = j.cursor ∧ j'.blocks = j.blocks ∧ j'.logs = j.logs ++ rows := by
  unfold insertLogs at h
  obtain ⟨_, -, h⟩ := bind_eq_ok.mp h
  obtain rfl := pure_eq_ok.mp h
  exact ⟨rfl, rfl, rfl⟩

end Journal

namespace ChainDeployment

variable {d : ChainDeployment} {rpc : Rpc} {j j' : Journal} {targetFinal last last' : Int}

/-- The new log rows are in the range of the chunk. -/
theorem readLogs_ok {raws : List RpcLog} {seen : List (HexString × HexString × Int)}
    {rows : List ChainLog}
    (h : d.readLogs rpc j targetFinal last last' raws seen = .ok rows) :
    ∀ l ∈ rows, last < l.blockNumber ∧ l.blockNumber ≤ last' ∧
      l.tier = .at l.blockNumber targetFinal := by
  induction raws generalizing seen rows with
  | nil =>
    cases h
    exact nofun
  | cons raw rest ih =>
    rw [readLogs] at h
    obtain ⟨_, hrange, h⟩ := bind_eq_ok.mp h
    have hin : last < raw.blockNumber ∧ raw.blockNumber ≤ last' := by
      have hnot := revertIf_eq_ok.mp hrange
      omega
    split at h
    · cases h
    · obtain ⟨_, -, h⟩ := bind_eq_ok.mp h
      dsimp only at h
      split at h
      · exact ih h
      · obtain ⟨_, -, h⟩ := bind_eq_ok.mp h
        obtain ⟨_, -, h⟩ := bind_eq_ok.mp h
        obtain ⟨_, -, h⟩ := bind_eq_ok.mp h
        split at h
        · cases h
        · obtain ⟨logs, hlogs, h⟩ := bind_eq_ok.mp h
          cases h
          intro l hl
          rcases List.mem_cons.mp hl with rfl | hl
          · exact ⟨hin.1, hin.2, rfl⟩
          · exact ih hlogs l hl

/-- Next to the positions that were seen before, the logs that are kept. -/
theorem readLogs_kept {raws : List RpcLog} {seen : List (HexString × HexString × Int)}
    {rows : List ChainLog} (h : d.readLogs rpc j targetFinal last last' raws seen = .ok rows) :
    ∃ kept : List RpcLog, kept.Sublist raws ∧
      (kept.Pairwise fun raw raw' => raw.position ≠ raw'.position) ∧
      (∀ raw ∈ kept, raw.position ∉ seen) ∧
      (∀ raw ∈ raws, raw.position ∈ seen ∨ ∃ raw' ∈ kept, raw'.position = raw.position) ∧
      List.Forall₂ (fun raw l => ∃ b, j.blocks raw.blockNumber = some b ∧
        lower raw.blockHash = b.hash ∧ d.IsLogRow b.hash targetFinal raw l) kept rows := by
  induction raws generalizing seen rows with
  | nil =>
    cases h
    exact ⟨[], .slnil, .nil, nofun, nofun, .nil⟩
  | cons raw rest ih =>
    rw [readLogs] at h
    obtain ⟨_, -, h⟩ := bind_eq_ok.mp h
    split at h
    · cases h
    · rename_i block hblock
      obtain ⟨_, hhash, h⟩ := bind_eq_ok.mp h
      dsimp only at h
      split at h
      · rename_i hseen
        obtain ⟨kept, hsub, honce, hnew, hall, hrows⟩ := ih h
        refine ⟨kept, hsub.cons raw, honce, hnew, fun r hr => ?_, hrows⟩
        rcases List.mem_cons.mp hr with rfl | hr
        · exact .inl hseen
        · exact hall r hr
      · rename_i hseen
        obtain ⟨_, -, h⟩ := bind_eq_ok.mp h
        obtain ⟨_, -, h⟩ := bind_eq_ok.mp h
        obtain ⟨decoded, hdecoded, h⟩ := bind_eq_ok.mp h
        split at h
        · cases h
        · rename_i contractName hcontract
          obtain ⟨logs, hlogs, h⟩ := bind_eq_ok.mp h
          cases h
          obtain ⟨kept, hsub, honce, hnew, hall, hrows⟩ := ih hlogs
          refine ⟨raw :: kept, hsub.cons_cons raw, .cons (fun r hr => ?_) honce, fun r hr => ?_,
            fun r hr => ?_, .cons ⟨block, hblock, ?_, decoded, contractName, hdecoded, hcontract, rfl⟩
              hrows⟩
          · intro heq
            exact hnew r hr (heq ▸ List.mem_cons_self)
          · rcases List.mem_cons.mp hr with rfl | hr
            · exact hseen
            · exact fun hin => hnew r hr (List.mem_cons_of_mem _ hin)
          · rcases List.mem_cons.mp hr with rfl | hr
            · exact .inr ⟨r, List.mem_cons_self, rfl⟩
            · rcases hall r hr with hin | ⟨r', hr', heq⟩
              · rcases List.mem_cons.mp hin with heq | hin
                · exact .inr ⟨raw, List.mem_cons_self, heq.symm⟩
                · exact .inl hin
              · exact .inr ⟨r', List.mem_cons_of_mem _ hr', heq⟩
          · exact Classical.not_not.mp (revertIf_eq_ok.mp hhash)

theorem indexLogs_ok (h : d.indexLogs rpc j targetFinal last last' = .ok j') :
    j'.cursor = j.cursor ∧ j'.blocks = j.blocks ∧ ∃ rows, j'.logs = j.logs ++ rows ∧
      (∀ l ∈ rows, last < l.blockNumber ∧ l.blockNumber ≤ last' ∧
        l.tier = .at l.blockNumber targetFinal) ∧
      ∃ raws kept, rpc.getLogs (last + 1) last' = .ok raws ∧
        d.LogRows j'.blocks targetFinal (raws.mergeSort logOrder) kept rows := by
  unfold indexLogs at h
  obtain ⟨raws, hraws, h⟩ := bind_eq_ok.mp h
  obtain ⟨rows, hrows, h⟩ := bind_eq_ok.mp h
  obtain ⟨block, -, h⟩ := bind_eq_ok.mp h
  split at h
  · obtain ⟨_, -, h⟩ := bind_eq_ok.mp h
    obtain ⟨hcursor, hblocks, hlogs⟩ := Journal.insertLogs_ok h
    obtain ⟨kept, hsub, honce, -, hall, hread⟩ := readLogs_kept hrows
    refine ⟨hcursor, hblocks, rows, hlogs, readLogs_ok hrows, raws, kept, hraws, hsub, honce,
      fun raw hraw => (hall raw hraw).resolve_left nofun, ?_⟩
    rw [hblocks]
    exact hread
  · cases h

theorem indexChunk_ok (hblock : d.beforeFirst < last → ∃ b, j.blocks last = some b ∧ b.hash ≠ [])
    (h : d.indexChunk rpc j targetFinal last last' = .ok j') :
    j.Grown d rpc targetFinal last last' j' := by
  unfold indexChunk at h
  obtain ⟨rows, hrows, h⟩ := bind_eq_ok.mp h
  obtain ⟨mid, hmid, h⟩ := bind_eq_ok.mp h
  have hchunk := readBlocks_ok hrows
  obtain ⟨hcursor, hlogs, hblocks, hnew⟩ := Journal.insertBlocks_ok hmid
  have hsame : j'.cursor = mid.cursor ∧ j'.blocks = mid.blocks ∧ ∃ rows, j'.logs = mid.logs ++ rows ∧
      (∀ l ∈ rows, last < l.blockNumber ∧ l.blockNumber ≤ last' ∧
        l.tier = .at l.blockNumber targetFinal) ∧
      ((last' ≤ last ∧ rows = []) ∨ last < last' ∧ ∃ raws kept,
        rpc.getLogs (last + 1) last' = .ok raws ∧
          d.LogRows j'.blocks targetFinal (raws.mergeSort logOrder) kept rows) := by
    split at h
    · rename_i hlt
      obtain ⟨hc, hb, rows, hl, hrange, hread⟩ := indexLogs_ok h
      exact ⟨hc, hb, rows, hl, hrange, .inr ⟨hlt, hread⟩⟩
    · rename_i hle
      cases h
      exact ⟨rfl, rfl, [], by simp, nofun, .inl ⟨by omega, rfl⟩⟩
  obtain ⟨hcursor', hblocks', logs, hlogs', hrange, hread⟩ := hsame
  have hat : ∀ n, j'.blocks n = (rowAt rows n).or (j.blocks n) := by
    intro n
    rw [hblocks', hblocks]
  have hnone : ∀ n, n ≤ last ∨ last' < n → rowAt rows n = none := by
    intro n hn
    cases hrow : rowAt rows n with
    | none => rfl
    | some b =>
      obtain ⟨hmem, rfl⟩ := rowAt_eq_some hrow
      obtain ⟨hlow, hhigh, -⟩ := hchunk.row b hmem
      omega
  refine ⟨hcursor'.trans hcursor, ?_, ?_, ?_, ⟨logs, by rw [hlogs', hlogs], hrange, hread⟩⟩
  · intro n hn
    rw [hat, hnone n hn]
    rfl
  · intro n hlow hhigh
    obtain ⟨b, hb⟩ := hchunk.complete n (by omega) (by omega)
    exact ⟨b, by rw [hat, hb]; rfl⟩
  · intro n b hlow hhigh hb
    obtain ⟨b', hb'⟩ := hchunk.complete n (by omega) (by omega)
    rw [hat, hb'] at hb
    cases hb
    obtain ⟨hmem, hnumber⟩ := rowAt_eq_some hb'
    obtain ⟨-, -, htier, hanswer⟩ := hchunk.row b hmem
    rw [hnumber] at htier hanswer
    refine ⟨hnumber, htier, (hnew b hmem).2, hanswer, fun hbefore => ?_⟩
    by_cases hfirst : n = last + 1
    · subst hfirst
      -- The first block of the chunk was compared with the row that the journal had.
      rw [Int.add_sub_cancel] at hbefore ⊢
      obtain ⟨p, hp, hne⟩ := hblock hbefore
      refine ⟨p, by rw [hat, hnone last (.inl (le_refl _)), hp]; rfl, ?_⟩
      have hparent := hchunk.first b hb'
      rw [hp] at hparent
      rcases hparent with hnone | hempty | hsame
      · cases hnone
      · exact absurd (Option.some.inj hempty) hne
      · exact (Option.some.inj hsame).symm
    · obtain ⟨p, hp, hparent⟩ := hchunk.linked n b (by omega) hb'
      refine ⟨p, by rw [hat, hp]; rfl, ?_⟩
      exact hparent.resolve_left (hnew p (rowAt_eq_some hp).1).2

end ChainDeployment

/-! ### The effect of a sync -/

/-- The rows of `j` with the final ones marked, and the cursor at `last'`. -/
structure Journal.Committed (j : Journal) (targetFinal last' : Int) (j' : Journal) : Prop where
  cursor : ∃ hash, j'.cursor = some { lastBlockNumber := last', lastBlockHash := hash,
                                      finalizedBlockNumber := targetFinal }
  last : ∃ b, j.blocks last' = some b
  blocks : ∀ n, j'.blocks n = (j.blocks n).map fun b =>
    if n ≤ targetFinal then { b with tier := .finalized } else b
  logs : j'.logs = j.logs.map fun l =>
    if l.blockNumber ≤ targetFinal then { l with tier := .finalized } else l

theorem ChainDeployment.commit_ok {d : ChainDeployment} {j j' : Journal} {targetFinal last' : Int}
    (h : d.commit j targetFinal last' = .ok j') : j.Committed targetFinal last' j' := by
  unfold commit at h
  obtain ⟨_, -, h⟩ := bind_eq_ok.mp h
  split at h
  · cases h
  · rename_i block hblock
    cases h
    obtain ⟨b, hb, -⟩ := Option.map_eq_some_iff.mp hblock
    exact ⟨⟨_, rfl⟩, ⟨b, hb⟩, fun _ => rfl, rfl⟩

section
variable {d : ChainDeployment} {call : SyncCall} {j j' : Journal}

theorem Journal.Cut.linked {last : Int} (h : j.Cut last j') (hl : j.Linked d) : j'.Linked d := by
  intro n b hb
  by_cases hn : last < n
  · rw [h.above n hn] at hb
    cases hb
  · rw [h.below n (by omega)] at hb
    obtain ⟨hfirst, hhash, hparent⟩ := hl n b hb
    refine ⟨hfirst, hhash, fun hbefore => ?_⟩
    obtain ⟨p, hp, hsame⟩ := hparent hbefore
    exact ⟨p, by rw [h.below _ (by omega)]; exact hp, hsame⟩

/-- A sync that returned: where it went on from, the chunk it added, and what it committed. -/
structure SyncStep.Effect (d : ChainDeployment) (j : Journal) (call : SyncCall) (j' : Journal)
    (head last : Int) (j₁ j₂ : Journal) : Prop where
  answered : call.rpc.blockNumber = .ok head
  chunkSize : 1 ≤ call.chunkSize
  resumes : j.Resumes d call.rpc last j₁
  grown : j₁.Grown d call.rpc (d.targetFinal head (min head (last + call.chunkSize))) last
    (min head (last + call.chunkSize)) j₂
  ends : (head < d.deploymentBlock ∧ j' = j₂) ∨ (d.deploymentBlock ≤ head ∧
    j₂.Committed (d.targetFinal head (min head (last + call.chunkSize)))
      (min head (last + call.chunkSize)) j')

/-- The effect of a sync, and what it returns. -/
theorem ChainDeployment.sync_effect {result : SyncResult} (hi : j.Indexed d) (hl : j.Linked d)
    (h : d.sync j call = .ok (result, j')) :
    ∃ head last j₁ j₂, SyncStep.Effect d j call j' head last j₁ j₂ ∧
      ((head < d.deploymentBlock ∧ result.finalizedBlock = none) ∨
        d.deploymentBlock ≤ head ∧
          result.finalizedBlock = some (d.targetFinal head (min head (last + call.chunkSize))) ∧
          result.lag = head - min head (last + call.chunkSize)) := by
  unfold sync at h
  obtain ⟨_, hchunk, h⟩ := bind_eq_ok.mp h
  obtain ⟨chainId, -, h⟩ := bind_eq_ok.mp h
  obtain ⟨_, -, h⟩ := bind_eq_ok.mp h
  obtain ⟨head, hhead, h⟩ := bind_eq_ok.mp h
  obtain ⟨⟨last, j₁⟩, hresume, h⟩ := bind_eq_ok.mp h
  dsimp only at h
  obtain ⟨j₂, hindex, h⟩ := bind_eq_ok.mp h
  have hsize : 1 ≤ call.chunkSize := by
    have hnot := revertIf_eq_ok.mp hchunk
    omega
  have hresumes := resume_ok hi hresume
  have hgrown := indexChunk_ok (fun hlt => by
    obtain ⟨b, -, hb, -⟩ := hresumes.block hlt
    exact ⟨b, hb, (hresumes.cut.linked hl last b hb).2.1⟩) hindex
  have hfirst := hresumes.first
  have hbefore : d.beforeFirst = d.deploymentBlock - 1 := rfl
  split at h
  · rename_i hearly
    cases h
    have hbelow : head < d.deploymentBlock := by omega
    exact ⟨head, last, j₁, _, ⟨hhead, hsize, hresumes, hgrown, .inl ⟨hbelow, rfl⟩⟩,
      .inl ⟨hbelow, rfl⟩⟩
  · rename_i hlate
    obtain ⟨j₃, hcommit, h⟩ := bind_eq_ok.mp h
    cases h
    have habove : d.deploymentBlock ≤ head := by omega
    exact ⟨head, last, j₁, j₂, ⟨hhead, hsize, hresumes, hgrown, .inr ⟨habove, commit_ok hcommit⟩⟩,
      .inr ⟨habove, rfl, rfl⟩⟩

theorem SyncStep.effect (hi : j.Indexed d) (hl : j.Linked d) (h : SyncStep d j call j') :
    ∃ head last j₁ j₂, SyncStep.Effect d j call j' head last j₁ j₂ := by
  obtain ⟨result, h⟩ := h
  obtain ⟨head, last, j₁, j₂, he, -⟩ := sync_effect hi hl h
  exact ⟨head, last, j₁, j₂, he⟩

theorem Journal.Grown.linked {rpc : Rpc} {targetFinal last last' : Int}
    (h : j.Grown d rpc targetFinal last last' j') (hfirst : d.beforeFirst ≤ last)
    (habove : ∀ n, last < n → j.blocks n = none) (hl : j.Linked d) : j'.Linked d := by
  intro n b hb
  by_cases hn : last < n ∧ n ≤ last'
  · obtain ⟨-, -, hhash, -, hparent⟩ := h.row n b hn.1 hn.2 hb
    exact ⟨by omega, hhash, hparent⟩
  · have hold : n ≤ last ∨ last' < n := by omega
    rw [h.old n hold] at hb
    have hle : n ≤ last := by
      by_contra hlt
      rw [habove n (by omega)] at hb
      cases hb
    obtain ⟨hfirst, hhash, hparent⟩ := hl n b hb
    refine ⟨hfirst, hhash, fun hbefore => ?_⟩
    obtain ⟨p, hp, hsame⟩ := hparent hbefore
    exact ⟨p, by rw [h.old _ (.inl (by omega))]; exact hp, hsame⟩

theorem Journal.Committed.linked {targetFinal last' : Int} (h : j.Committed targetFinal last' j')
    (hl : j.Linked d) : j'.Linked d := by
  intro n b hb
  rw [h.blocks] at hb
  obtain ⟨b₀, hb₀, rfl⟩ := Option.map_eq_some_iff.mp hb
  obtain ⟨hfirst, hhash, hparent⟩ := hl n b₀ hb₀
  have hkeeps : ∀ m (r : ChainBlock),
      (if m ≤ targetFinal then { r with tier := .finalized } else r).hash = r.hash ∧
      (if m ≤ targetFinal then { r with tier := .finalized } else r).parentHash = r.parentHash := by
    intro m r
    split
    · exact ⟨rfl, rfl⟩
    · exact ⟨rfl, rfl⟩
  rw [(hkeeps n b₀).1, (hkeeps n b₀).2]
  refine ⟨hfirst, hhash, fun hbefore => ?_⟩
  obtain ⟨p, hp, hsame⟩ := hparent hbefore
  refine ⟨_, by rw [h.blocks, hp]; rfl, ?_⟩
  rw [(hkeeps _ p).1]
  exact hsame

/-- Below a row of the journal there is a row for every block, from the deployment on. -/
theorem Journal.Linked.down (hl : j.Linked d) {n m : Int} {b : ChainBlock}
    (hb : j.blocks n = some b) (hlow : d.beforeFirst < m) (hle : m ≤ n) :
    ∃ b', j.blocks m = some b' := by
  obtain ⟨k, rfl⟩ : ∃ k : Nat, n = m + k := ⟨(n - m).toNat, by omega⟩
  induction k generalizing b with
  | zero => exact ⟨b, by simpa using hb⟩
  | succ k ih =>
    obtain ⟨-, -, hparent⟩ := hl _ b hb
    obtain ⟨p, hp, -⟩ := hparent (by push_cast; omega)
    have hprev : (m + ((k + 1 : Nat) : Int) - 1) = m + k := by push_cast; omega
    rw [hprev] at hp
    exact ih hp (by omega)

namespace SyncStep.Effect

variable {head last : Int} {j₁ j₂ : Journal}

theorem linked (e : SyncStep.Effect d j call j' head last j₁ j₂) (hl : j.Linked d) :
    j₂.Linked d ∧ j'.Linked d := by
  have hl₂ : j₂.Linked d :=
    e.grown.linked e.resumes.first e.resumes.cut.above (e.resumes.cut.linked hl)
  rcases e.ends with ⟨-, rfl⟩ | ⟨-, hcommit⟩
  · exact ⟨hl₂, hl₂⟩
  · exact ⟨hl₂, hcommit.linked hl₂⟩

/-- What the chunk leaves in place: the rows up to `last`. -/
theorem blocks_below (e : SyncStep.Effect d j call j' head last j₁ j₂) {n : Int} (hn : n ≤ last) :
    j₂.blocks n = j.blocks n := by
  rw [e.grown.old n (.inl hn), e.resumes.cut.below n hn]

theorem cursor (e : SyncStep.Effect d j call j' head last j₁ j₂) : j₂.cursor = j.cursor :=
  e.grown.cursor.trans e.resumes.cut.cursor

/-- A row after the chunk was read is one of `j` or one of the chunk. -/
theorem blocks_cases (e : SyncStep.Effect d j call j' head last j₁ j₂) {n : Int} {b : ChainBlock}
    (hb : j₂.blocks n = some b) :
    (n ≤ last ∧ j.blocks n = some b) ∨
      last < n ∧ b.tier = .at n (d.targetFinal head (min head (last + call.chunkSize))) ∧
        ∃ a, call.rpc.getBlock n = .ok (some a) ∧ b.hash = lower a.hash ∧
          b.parentHash = lower a.parentHash := by
  by_cases hn : n ≤ last
  · exact .inl ⟨hn, by rw [← e.blocks_below hn]; exact hb⟩
  · by_cases hn' : n ≤ min head (last + call.chunkSize)
    · obtain ⟨-, htier, -, ⟨a, ha, hhash, hparent, -⟩, -⟩ := e.grown.row n b (by omega) hn' hb
      exact .inr ⟨by omega, htier, a, ha, hhash, hparent⟩
    · rw [e.grown.old n (.inr (by omega)), e.resumes.cut.above n (by omega)] at hb
      cases hb

theorem logs_cases (e : SyncStep.Effect d j call j' head last j₁ j₂) {l : ChainLog}
    (hl : l ∈ j₂.logs) :
    (l.blockNumber ≤ last ∧ l ∈ j.logs) ∨
      last < l.blockNumber ∧ l.blockNumber ≤ head ∧
        l.tier = .at l.blockNumber (d.targetFinal head (min head (last + call.chunkSize))) := by
  obtain ⟨rows, hrows, hrange, -⟩ := e.grown.logs
  rw [hrows, List.mem_append, e.resumes.cut.logs] at hl
  rcases hl with ⟨hold, hle⟩ | hnew
  · exact .inl ⟨hle, hold⟩
  · obtain ⟨hlow, hhigh, htier⟩ := hrange l hnew
    exact .inr ⟨hlow, by omega, htier⟩

theorem logs_below (e : SyncStep.Effect d j call j' head last j₁ j₂) {l : ChainLog}
    (hl : l ∈ j.logs) (hle : l.blockNumber ≤ last) : l ∈ j₂.logs := by
  obtain ⟨rows, hrows, -⟩ := e.grown.logs
  rw [hrows, List.mem_append, e.resumes.cut.logs]
  exact .inl ⟨hl, hle⟩

theorem indexed (e : SyncStep.Effect d j call j' head last j₁ j₂) (hi : j.Indexed d)
    (hl : j.Linked d) : j'.Indexed d := by
  have hfirst := e.resumes.first
  have hbefore : d.beforeFirst = d.deploymentBlock - 1 := rfl
  rcases e.ends with ⟨hearly, rfl⟩ | ⟨hlate, hcommit⟩
  · -- Nothing was read, and the cursor stays.
    refine ⟨fun hnone => ?_, fun c hc => ?_, fun c hc n hlow hhigh => ?_⟩
    · obtain ⟨hblocks, hlogs⟩ := hi.fresh (e.cursor.symm.trans hnone)
      constructor
      · intro n
        cases hrow : j'.blocks n with
        | none => rfl
        | some b =>
          rcases e.blocks_cases hrow with ⟨-, hb⟩ | ⟨habove, -, a, ha, -⟩
          · rw [hblocks n] at hb
            cases hb
          · by_cases hn : n ≤ min head (last + call.chunkSize)
            · omega
            · rw [e.grown.old n (.inr (by omega)), e.resumes.cut.above n habove] at hrow
              cases hrow
      · refine List.eq_nil_iff_forall_not_mem.mpr fun l hmem => ?_
        rcases e.logs_cases hmem with ⟨-, hold⟩ | ⟨hlow, hhigh, -⟩
        · rw [hlogs] at hold
          cases hold
        · omega
    · exact hi.bounds c (e.cursor.symm.trans hc)
    · have hc' := e.cursor.symm.trans hc
      obtain ⟨hfinal, -⟩ := e.resumes.bounds c hc'
      rw [e.blocks_below (by omega)]
      exact hi.complete c hc' n hlow hhigh
  · obtain ⟨hash, hcursor⟩ := hcommit.cursor
    have htarget : d.targetFinal head (min head (last + call.chunkSize)) =
      max d.beforeFirst (min (min head (last + call.chunkSize)) (head - d.finalityDepth)) := rfl
    have hsize := e.chunkSize
    refine ⟨fun hnone => ?_, fun c hc => ?_, fun c hc n hlow hhigh => ?_⟩
    · rw [hcursor] at hnone
      cases hnone
    · rw [hcursor] at hc
      cases hc
      constructor
      · show d.beforeFirst ≤ d.targetFinal head (min head (last + call.chunkSize))
        omega
      · show d.targetFinal head (min head (last + call.chunkSize)) ≤
          min head (last + call.chunkSize)
        omega
    · rw [hcursor] at hc
      cases hc
      replace hhigh : n ≤ d.targetFinal head (min head (last + call.chunkSize)) := hhigh
      obtain ⟨b, hb⟩ := hcommit.last
      obtain ⟨b', hb'⟩ := (e.linked hl).1.down hb hlow (by omega)
      exact ⟨_, by rw [hcommit.blocks, hb']; rfl⟩

/-- The finalized block of the cursor does not go back in a sync if and only if its head holds. -/
theorem monotone_iff (e : SyncStep.Effect d j call j' head last j₁ j₂) (hi : j.Indexed d) :
    (∀ c, j.cursor = some c →
      ∃ c', j'.cursor = some c' ∧ c.finalizedBlockNumber ≤ c'.finalizedBlockNumber) ↔
      call.HeadHolds d j := by
  have hbefore : d.beforeFirst = d.deploymentBlock - 1 := rfl
  have htarget : d.targetFinal head (min head (last + call.chunkSize)) =
    max d.beforeFirst (min (min head (last + call.chunkSize)) (head - d.finalityDepth)) := rfl
  have hsize := e.chunkSize
  have hsame : ∀ {head'}, call.rpc.blockNumber = .ok head' → head' = head := by
    intro head' hhead
    have hboth := hhead.symm.trans e.answered
    cases hboth
    rfl
  rcases e.ends with ⟨hearly, rfl⟩ | ⟨hlate, hcommit⟩
  · constructor
    · intro _ c head' _ hhead
      rw [hsame hhead]
      exact .inl hearly
    · intro _ c hc
      exact ⟨c, e.cursor.trans hc, le_refl _⟩
  · obtain ⟨hash, hcursor⟩ := hcommit.cursor
    constructor
    · intro hmono c head' hc hhead
      rw [hsame hhead]
      obtain ⟨c', hc', hle⟩ := hmono c hc
      rw [hcursor] at hc'
      cases hc'
      replace hle : c.finalizedBlockNumber ≤
        d.targetFinal head (min head (last + call.chunkSize)) := hle
      omega
    · intro hholds c hc
      obtain ⟨hlow, -⟩ := hi.bounds c hc
      obtain ⟨hfinal, -⟩ := e.resumes.bounds c hc
      refine ⟨_, hcursor, ?_⟩
      show c.finalizedBlockNumber ≤ d.targetFinal head (min head (last + call.chunkSize))
      have hcases := hholds c head hc e.answered
      omega

end SyncStep.Effect

/-! ### Final rows -/

/-- The rows marked `FINALIZED` are those up to the finalized block of the cursor. -/
structure Journal.Sealed (j : Journal) : Prop where
  blocks : ∀ c, j.cursor = some c → ∀ n b, j.blocks n = some b →
    (b.tier = .finalized ↔ n ≤ c.finalizedBlockNumber)
  logs : ∀ c, j.cursor = some c → ∀ l ∈ j.logs,
    (l.tier = .finalized ↔ l.blockNumber ≤ c.finalizedBlockNumber)

theorem Tier.at_finalized {n targetFinal : Int} : Tier.at n targetFinal = .finalized ↔
    n ≤ targetFinal := by
  unfold Tier.at
  split <;> simp_all

namespace SyncStep.Effect

variable {head last : Int} {j₁ j₂ : Journal}

/-- A row that is final by the cursor is in every cut of the sync. -/
theorem final_below (e : SyncStep.Effect d j call j' head last j₁ j₂) {c : ChainCursor}
    (hc : j.cursor = some c) {n : Int} (hn : n ≤ c.finalizedBlockNumber) : n ≤ last :=
  hn.trans (e.resumes.bounds c hc).1

theorem sealed (e : SyncStep.Effect d j call j' head last j₁ j₂) (hi : j.Indexed d)
    (hsealed : j.Sealed) (hholds : call.HeadHolds d j) : j'.Sealed := by
  have hmono := (e.monotone_iff hi).mpr hholds
  rcases e.ends with ⟨hearly, rfl⟩ | ⟨hlate, hcommit⟩
  · -- The cursor stays and the chunk is empty.
    have hbefore : d.beforeFirst = d.deploymentBlock - 1 := rfl
    have hfirst := e.resumes.first
    refine ⟨fun c hc n b hb => ?_, fun c hc l hl => ?_⟩
    · rcases e.blocks_cases hb with ⟨-, hold⟩ | ⟨habove, -, -⟩
      · exact hsealed.blocks c (e.cursor.symm.trans hc) n b hold
      · rw [e.grown.old n (.inr (by omega)), e.resumes.cut.above n habove] at hb
        cases hb
    · rcases e.logs_cases hl with ⟨-, hold⟩ | ⟨habove, hhead, -⟩
      · exact hsealed.logs c (e.cursor.symm.trans hc) l hold
      · omega
  · obtain ⟨hash, hcursor⟩ := hcommit.cursor
    have hle : ∀ c, j.cursor = some c → c.finalizedBlockNumber ≤
        d.targetFinal head (min head (last + call.chunkSize)) := by
      intro c hc
      obtain ⟨c', hc', hle⟩ := hmono c hc
      rw [hcursor] at hc'
      cases hc'
      exact hle
    refine ⟨fun c' hc' n b hb => ?_, fun c' hc' l hl => ?_⟩
    · rw [hcursor] at hc'
      cases hc'
      show b.tier = .finalized ↔ n ≤ d.targetFinal head (min head (last + call.chunkSize))
      rw [hcommit.blocks] at hb
      obtain ⟨b₀, hb₀, rfl⟩ := Option.map_eq_some_iff.mp hb
      split
      · rename_i hn
        exact iff_of_true rfl hn
      · rename_i hn
        rcases e.blocks_cases hb₀ with ⟨-, hold⟩ | ⟨-, htier, -⟩
        · cases hc : j.cursor with
          | none =>
            rw [(hi.fresh hc).1] at hold
            cases hold
          | some c =>
            have hfinal := hle c hc
            rw [hsealed.blocks c hc n b₀ hold]
            omega
        · rw [htier, Tier.at_finalized]
    · rw [hcursor] at hc'
      cases hc'
      show l.tier = .finalized ↔
        l.blockNumber ≤ d.targetFinal head (min head (last + call.chunkSize))
      rw [hcommit.logs] at hl
      obtain ⟨l₀, hl₀, rfl⟩ := List.mem_map.mp hl
      split
      · rename_i hn
        exact iff_of_true rfl hn
      · rename_i hn
        rcases e.logs_cases hl₀ with ⟨-, hold⟩ | ⟨-, -, htier⟩
        · cases hc : j.cursor with
          | none =>
            rw [(hi.fresh hc).2] at hold
            cases hold
          | some c =>
            have hfinal := hle c hc
            rw [hsealed.logs c hc l₀ hold]
            omega
        · rw [htier, Tier.at_finalized]

/-- A sync keeps every final block row as it is. -/
theorem keeps_block (e : SyncStep.Effect d j call j' head last j₁ j₂) (hi : j.Indexed d)
    (hsealed : j.Sealed) {n : Int} {b : ChainBlock} (hb : j.blocks n = some b)
    (htier : b.tier = .finalized) : j'.blocks n = some b := by
  cases hc : j.cursor with
  | none =>
    rw [(hi.fresh hc).1] at hb
    cases hb
  | some c =>
    have hfinal := (hsealed.blocks c hc n b hb).mp htier
    have hmid : j₂.blocks n = some b := by
      rw [e.blocks_below (e.final_below hc hfinal)]
      exact hb
    rcases e.ends with ⟨-, rfl⟩ | ⟨-, hcommit⟩
    · exact hmid
    · rw [hcommit.blocks, hmid, Option.map_some]
      split
      · rw [← htier]
      · rfl

/-- A sync keeps every final log row as it is. -/
theorem keeps_log (e : SyncStep.Effect d j call j' head last j₁ j₂) (hi : j.Indexed d)
    (hsealed : j.Sealed) {l : ChainLog} (hl : l ∈ j.logs) (htier : l.tier = .finalized) :
    l ∈ j'.logs := by
  cases hc : j.cursor with
  | none =>
    rw [(hi.fresh hc).2] at hl
    cases hl
  | some c =>
    have hfinal := (hsealed.logs c hc l hl).mp htier
    have hmid := e.logs_below hl (e.final_below hc hfinal)
    rcases e.ends with ⟨-, rfl⟩ | ⟨-, hcommit⟩
    · exact hmid
    · rw [hcommit.logs]
      refine List.mem_map.mpr ⟨l, hmid, ?_⟩
      split
      · rw [← htier]
      · rfl

/-- The rows of a sync have the parents that their hashes fix. -/
theorem addressed (e : SyncStep.Effect d j call j' head last j₁ j₂)
    {parentOf : HexString → HexString} (hrpc : call.rpc.BlockConsistent d parentOf)
    (haddr : ∀ n b, j.blocks n = some b → b.parentHash = parentOf b.hash) :
    ∀ n b, j'.blocks n = some b → b.parentHash = parentOf b.hash := by
  have hmid : ∀ n b, j₂.blocks n = some b → b.parentHash = parentOf b.hash := by
    intro n b hb
    rcases e.blocks_cases hb with ⟨-, hold⟩ | ⟨-, -, a, ha, hhash, hparent⟩
    · exact haddr n b hold
    · rw [hhash, hparent]
      exact hrpc.addressed n a (.inr ha)
  rcases e.ends with ⟨-, rfl⟩ | ⟨-, hcommit⟩
  · exact hmid
  · intro n b hb
    rw [hcommit.blocks] at hb
    obtain ⟨b₀, hb₀, rfl⟩ := Option.map_eq_some_iff.mp hb
    have hsame := hmid n b₀ hb₀
    split
    · exact hsame
    · exact hsame

end SyncStep.Effect

end

/-! ### A change below the finalized block -/

section
variable {d : ChainDeployment} {rpc : Rpc} {j : Journal} {parentOf : HexString → HexString}

theorem ChainDeployment.sameBlock_eq_true {known : Option ChainBlock} {actual : Option RpcBlock}
    (h : sameBlock known actual = true) :
    ∃ b a, known = some b ∧ actual = some a ∧ b.hash = lower a.hash := by
  unfold sameBlock at h
  split at h
  · exact ⟨_, _, rfl, rfl, of_decide_eq_true h⟩
  · cases h

/-- Where the node and the journal have the same block, they have the same blocks below it. -/
theorem Journal.Linked.agree (hl : j.Linked d)
    (haddr : ∀ n b, j.blocks n = some b → b.parentHash = parentOf b.hash)
    (hrpc : rpc.BlockConsistent d parentOf) {n m : Int} {b : ChainBlock} {a : RpcBlock}
    (hb : j.blocks m = some b) (ha : rpc.walkBlock m = .ok (some a)) (hsame : b.hash = lower a.hash)
    (hlow : d.beforeFirst < n) (hle : n ≤ m) :
    ∃ b' a', j.blocks n = some b' ∧ rpc.walkBlock n = .ok (some a') ∧ b'.hash = lower a'.hash := by
  obtain ⟨k, rfl⟩ : ∃ k : Nat, m = n + k := ⟨(m - n).toNat, by omega⟩
  induction k generalizing b a with
  | zero => exact ⟨b, a, by simpa using hb, by simpa using ha, hsame⟩
  | succ k ih =>
    have hbefore : d.beforeFirst = d.deploymentBlock - 1 := rfl
    have hprev : (n + ((k + 1 : Nat) : Int) - 1) = n + k := by push_cast; omega
    obtain ⟨-, -, hparent⟩ := hl _ b hb
    obtain ⟨p, hp, hlink⟩ := hparent (by push_cast; omega)
    obtain ⟨p', hp', hlink'⟩ := hrpc.chained _ a ha (by push_cast; omega)
    rw [hprev] at hp hp'
    have hagree : p.hash = lower p'.hash :=
      calc p.hash = parentOf b.hash := by rw [← hlink, haddr _ b hb]
        _ = parentOf (lower a.hash) := by rw [hsame]
        _ = lower a.parentHash := (hrpc.addressed _ a (.inl ha)).symm
        _ = lower p'.hash := hlink'.symm
    exact ih hagree hp hp' (by omega)

/-- A walk that finds no common block above the finalized one is refused there. -/
theorem ChainDeployment.walk_raises {finalized start : Int} {n : Nat}
    (hstart : start = d.beforeFirst + n) (hfinal : finalized ≤ start)
    (hbefore : d.beforeFirst < finalized)
    (hanswers : ∀ m, finalized ≤ m → m ≤ start →
      ∃ a, rpc.walkBlock m = .ok a ∧ sameBlock (j.blocks m) a = false) :
    walk rpc j finalized n start = .error (.finalizedReorg finalized) := by
  induction n generalizing start with
  | zero => omega
  | succ n ih =>
    obtain ⟨a, ha, hdiffers⟩ := hanswers start hfinal (le_refl _)
    rw [walk, ha, ok_bind, hdiffers, if_neg Bool.false_ne_true]
    by_cases hlast : start ≤ finalized
    · obtain rfl : start = finalized := by omega
      exact revertIf_bind_of _ hlast _
    · rw [revertIf_of_not _ hlast, ok_bind]
      exact ih (by omega) (by omega) fun m hlow hhigh => hanswers m hlow (by omega)

/-- A sync whose node has another block at a final number raises `FinalizedReorg`. -/
theorem ChainDeployment.sync_raises {call : SyncCall} {c : ChainCursor} {n : Int} {b : ChainBlock}
    (hi : j.Indexed d) (hl : j.Linked d)
    (haddr : ∀ n b, j.blocks n = some b → b.parentHash = parentOf b.hash)
    (hc : j.cursor = some c) (hlow : d.deploymentBlock ≤ n) (hn : n ≤ c.finalizedBlockNumber)
    (hb : j.blocks n = some b) (hsize : 1 ≤ call.chunkSize) (hsize' : call.chunkSize ≤ 5000)
    (hchain : call.rpc.chainId = .ok d.chainId) {head : Int}
    (hhead : call.rpc.blockNumber = .ok head)
    (hanswers : ∀ m, ∃ answer, call.rpc.walkBlock m = .ok answer)
    (hrpc : call.rpc.BlockConsistent d parentOf)
    (hchange : ∀ a, call.rpc.walkBlock n = .ok (some a) → lower a.hash ≠ b.hash) :
    d.sync j call = .error (.finalizedReorg c.finalizedBlockNumber) := by
  have hbefore : d.beforeFirst = d.deploymentBlock - 1 := rfl
  obtain ⟨-, hhigh⟩ := hi.bounds c hc
  have hcut := j.deleteAbove_cut c.lastBlockNumber
  have hl' : (j.deleteAbove c.lastBlockNumber).Linked d := hcut.linked hl
  have haddr' : ∀ m r, (j.deleteAbove c.lastBlockNumber).blocks m = some r →
      r.parentHash = parentOf r.hash := by
    intro m r hr
    by_cases hm : c.lastBlockNumber < m
    · rw [hcut.above m hm] at hr
      cases hr
    · rw [hcut.below m (by omega)] at hr
      exact haddr m r hr
  have hdiffers : ∀ m, c.finalizedBlockNumber ≤ m → m ≤ c.lastBlockNumber →
      ∃ a, call.rpc.walkBlock m = .ok a ∧
        sameBlock ((j.deleteAbove c.lastBlockNumber).blocks m) a = false := by
    intro m hmlow _
    obtain ⟨a, ha⟩ := hanswers m
    refine ⟨a, ha, ?_⟩
    by_contra hsame
    obtain ⟨r, a', hr, rfl, hhash⟩ := sameBlock_eq_true (Bool.not_eq_false _ ▸ hsame)
    obtain ⟨b', a'', hb', ha'', hhash'⟩ :=
      hl'.agree haddr' hrpc hr ha hhash (show d.beforeFirst < n by omega) (by omega)
    rw [hcut.below n (by omega), hb] at hb'
    cases hb'
    exact hchange a'' ha'' hhash'.symm
  have hstart : c.lastBlockNumber =
      d.beforeFirst + (c.lastBlockNumber - d.beforeFirst).toNat := by omega
  have hwalk := walk_raises hstart hhigh (by omega) hdiffers
  have hdrop : j.dropOrphans = j.deleteAbove c.lastBlockNumber := by
    unfold Journal.dropOrphans
    rw [hc]
  have hcursor : (j.deleteAbove c.lastBlockNumber).cursor = some c := hc
  have hresume : d.resume call.rpc j.dropOrphans head =
      .error (.finalizedReorg c.finalizedBlockNumber) := by
    unfold resume
    rw [hdrop, hcursor]
    show (walk call.rpc _ _ _ _ >>= _) = _
    rw [hwalk]
    rfl
  unfold sync
  rw [revertIf_of_not _ (by omega), ok_bind, hchain, ok_bind,
    revertIf_of_not _ (not_not.mpr rfl), ok_bind, hhead, ok_bind, hresume]
  rfl

end

/-! ### Runs -/

section
variable {d : ChainDeployment} {calls : List SyncCall} {j j' : Journal}

/-- Every run keeps the journal in order. -/
theorem SyncStep.sound (h : Steps (SyncStep d) .initial calls j) : j.Indexed d ∧ j.Linked d := by
  refine h.invariant (P := fun j : Journal => j.Indexed d ∧ j.Linked d) ?_ ⟨?_, nofun⟩
  · rintro j call j' ⟨hi, hl⟩ hstep
    obtain ⟨head, last, j₁, j₂, e⟩ := hstep.effect hi hl
    exact ⟨e.indexed hi hl, (e.linked hl).2⟩
  · exact ⟨fun _ => ⟨fun _ => rfl, rfl⟩, nofun, nofun⟩

/-- The syncs of a run whose heads hold. -/
def HeldStep (d : ChainDeployment) (parentOf : HexString → HexString) (j : Journal)
    (call : SyncCall) (j' : Journal) : Prop :=
  SyncStep d j call j' ∧ call.HeadHolds d j ∧ call.rpc.BlockConsistent d parentOf

/-- What a run whose heads hold keeps, next to the order of the journal. -/
structure Journal.Held (j : Journal) (d : ChainDeployment) (parentOf : HexString → HexString) :
    Prop where
  indexed : j.Indexed d
  linked : j.Linked d
  sealed : j.Sealed
  addressed : ∀ n b, j.blocks n = some b → b.parentHash = parentOf b.hash

theorem Journal.initial_held {parentOf : HexString → HexString} :
    Journal.initial.Held d parentOf where
  indexed := ⟨fun _ => ⟨fun _ => rfl, rfl⟩, nofun, nofun⟩
  linked := nofun
  sealed := ⟨nofun, nofun⟩
  addressed := nofun

theorem HeldStep.held {parentOf : HexString → HexString} {call : SyncCall}
    (h : j.Held d parentOf) (hstep : HeldStep d parentOf j call j') : j'.Held d parentOf := by
  obtain ⟨hsync, hholds, hrpc⟩ := hstep
  obtain ⟨head, last, j₁, j₂, e⟩ := hsync.effect h.indexed h.linked
  exact ⟨e.indexed h.indexed h.linked, (e.linked h.linked).2, e.sealed h.indexed h.sealed hholds,
    e.addressed hrpc h.addressed⟩

/-- The final rows of `j` are rows of `j'`, and the finalized block of the cursor has not gone
back. -/
structure Journal.Keeps (j j' : Journal) : Prop where
  blocks : ∀ n b, j.blocks n = some b → b.tier = .finalized → j'.blocks n = some b
  logs : ∀ l ∈ j.logs, l.tier = .finalized → l ∈ j'.logs
  cursor : ∀ c, j.cursor = some c →
    ∃ c', j'.cursor = some c' ∧ c.finalizedBlockNumber ≤ c'.finalizedBlockNumber

theorem HeldStep.keeps {parentOf : HexString → HexString} {call : SyncCall}
    (h : j.Held d parentOf) (hstep : HeldStep d parentOf j call j') : j.Keeps j' := by
  obtain ⟨hsync, hholds, -⟩ := hstep
  obtain ⟨head, last, j₁, j₂, e⟩ := hsync.effect h.indexed h.linked
  exact ⟨fun n b => e.keeps_block h.indexed h.sealed, fun l => e.keeps_log h.indexed h.sealed,
    (e.monotone_iff h.indexed).mpr hholds⟩

theorem Journal.Keeps.refl (j : Journal) : j.Keeps j :=
  ⟨fun _ _ h _ => h, fun _ h _ => h, fun c h => ⟨c, h, le_refl _⟩⟩

theorem Journal.Keeps.trans {j j' j'' : Journal} (h : j.Keeps j') (h' : j'.Keeps j'') :
    j.Keeps j'' where
  blocks n b hb htier := h'.blocks n b (h.blocks n b hb htier) htier
  logs l hl htier := h'.logs l (h.logs l hl htier) htier
  cursor c hc := by
    obtain ⟨c', hc', hle⟩ := h.cursor c hc
    obtain ⟨c'', hc'', hle'⟩ := h'.cursor c' hc'
    exact ⟨c'', hc'', hle.trans hle'⟩

theorem Journal.Held.keeps {parentOf : HexString → HexString} (h : j.Held d parentOf)
    (hrun : Steps (HeldStep d parentOf) j calls j') : j.Keeps j' :=
  hrun.related (P := fun j : Journal => j.Held d parentOf) (R := Journal.Keeps)
    (fun _ _ _ hp hs => hs.held hp) Journal.Keeps.refl (fun h h' => h.trans h')
    (fun _ _ _ hp hs => hs.keeps hp) h

/-- The guarantee, and the heads it needs: the finalized block of the cursor never goes back if and
only if the head of every sync holds. Then the final rows of a run stay as they are, and a change
below the highest finalized block raises `FinalizedReorg`. -/
theorem finality_monotone {parentOf : HexString → HexString}
    (hanswers : ∀ call ∈ calls, call.rpc.BlockConsistent d parentOf) :
    (FinalityMonotone d calls ↔
      ∀ j call j', StepOf (SyncStep d) .initial calls j call j' → call.HeadHolds d j) ∧
    ((∀ j call j', StepOf (SyncStep d) .initial calls j call j' → call.HeadHolds d j) →
      FinalRowsKept d calls ∧ FinalChangeRaised d parentOf calls) := by
  refine ⟨?_, fun hheads => ?_⟩
  · have hiff : ∀ j call j', StepOf (SyncStep d) .initial calls j call j' →
        ((∀ c, j.cursor = some c →
          ∃ c', j'.cursor = some c' ∧ c.finalizedBlockNumber ≤ c'.finalizedBlockNumber) ↔
          call.HeadHolds d j) := by
      rintro j call j' ⟨pre, post, -, hpre, hstep⟩
      obtain ⟨hi, hl⟩ := SyncStep.sound hpre
      obtain ⟨head, last, j₁, j₂, e⟩ := hstep.effect hi hl
      exact e.monotone_iff hi
    constructor
    · intro hmono j call j' hstep
      exact (hiff j call j' hstep).mp (hmono j call j' hstep)
    · intro hheads j call j' hstep
      exact (hiff j call j' hstep).mpr (hheads j call j' hstep)
  · -- Each sync of a stretch of the run is one of the run, so its head holds.
    have hheld : ∀ {pre as post : List SyncCall} {j j' : Journal}, calls = pre ++ (as ++ post) →
        Steps (SyncStep d) .initial pre j → Steps (SyncStep d) j as j' →
        Steps (HeldStep d parentOf) j as j' := by
      intro pre as post j j' hcalls hpre hrun
      refine (hrun.located (fun _ _ _ hs => hs) post hpre).mono ?_
      rintro s call s' ⟨hs, hstep⟩
      rw [← hcalls] at hstep
      have hmem : call ∈ calls := by
        obtain ⟨front, back, hcut, -⟩ := hstep
        rw [hcut]
        simp
      exact ⟨hs, hheads s call s' hstep, hanswers call hmem⟩
    have hstretch : ∀ {pre mid post : List SyncCall} {j j' : Journal},
        calls = pre ++ mid ++ post → Steps (SyncStep d) .initial pre j →
        Steps (SyncStep d) j mid j' →
        j.Held d parentOf ∧ j'.Held d parentOf ∧ j.Keeps j' := by
      intro pre mid post j j' hcalls hpre hmid
      have hwhole : calls = [] ++ (pre ++ (mid ++ post)) := by simpa using hcalls
      have hfront := hheld hwhole (.nil _) hpre
      have hback := hheld (by simpa using hcalls) hpre hmid
      have hj : j.Held d parentOf :=
        hfront.invariant (fun _ _ _ hp hs => hs.held hp) Journal.initial_held
      exact ⟨hj, hback.invariant (fun _ _ _ hp hs => hs.held hp) hj, hj.keeps hback⟩
    constructor
    · intro pre mid post j j' hcalls hpre hmid
      obtain ⟨-, -, hkeeps⟩ := hstretch hcalls hpre hmid
      exact ⟨hkeeps.blocks, hkeeps.logs⟩
    · intro pre mid post j j' hcalls hpre hmid c n b hc hlow hn hb call hsize hsize' hchain hhead
        htotal hrpc hchange
      obtain ⟨hj, hj', hkeeps⟩ := hstretch hcalls hpre hmid
      have htier : b.tier = .finalized := (hj.sealed.blocks c hc n b hb).mpr hn
      obtain ⟨c', hc', hle⟩ := hkeeps.cursor c hc
      obtain ⟨head, hhead⟩ := hhead
      exact ⟨_, sync_raises hj'.indexed hj'.linked hj'.addressed hc' hlow (by omega)
        (hkeeps.blocks n b hb htier) hsize hsize' hchain hhead htotal hrpc hchange⟩

end

namespace Sample

/-- A deployment at block 1 with a finality depth of 1. -/
def indexed : ChainDeployment where
  chainId := 1
  deploymentBlock := 1
  finalityDepth := 1
  contractOf := fun _ => none
  decode := fun _ _ _ => .ok none
  replay := fun _ _ => .ok ()

/-- The hash of a block of the chain `'a'` or of its fork `'b'`. -/
def blockHash (chain number : Char) : HexString :=
  '0' :: 'x' :: List.replicate 62 '0' ++ [chain, number]

/-- The hash of block `n` where the fork begins at `fork`. -/
def hashAt (fork n : Int) : HexString :=
  blockHash (if fork ≤ n then 'b' else 'a') (Nat.digitChar n.toNat)

/-- The parent of a block is known from its hash. -/
def parentOf (hash : HexString) : HexString :=
  match hash.drop 64 with
  | [_, '1'] => blockHash 'a' '0'
  | [_, '2'] => blockHash 'a' '1'
  | [chain, _] => blockHash chain '2'
  | _ => []

/-- A node that has the blocks up to `head`, on the chain that forks at `fork`. -/
def node (fork head : Int) : Rpc :=
  let answer := fun n => .ok <| if 1 ≤ n ∧ n ≤ head then
    some { number := n, hash := hashAt fork n, parentHash := hashAt fork (n - 1),
           timestamp := 100 + n } else none
  { chainId := .ok 1, blockNumber := .ok head, walkBlock := answer, tipBlock := answer,
    getBlock := answer, endBlock := answer, getLogs := fun _ _ => .ok [],
    getReceipt := fun _ => .ok none }

/-- A sync against such a node. -/
def syncWith (fork head : Int) : SyncCall := { chunkSize := 250, rpc := node fork head }

theorem node_consistent {fork head : Int} (hfork : fork = 9 ∨ fork = 2) (hhead : head ≤ 3) :
    (node fork head).BlockConsistent indexed parentOf := by
  have hlinks : ∀ n : Int, n = 1 ∨ n = 2 ∨ n = 3 →
      lower (hashAt fork (n - 1)) = parentOf (lower (hashAt fork n)) := by
    rintro n (rfl | rfl | rfl) <;> rcases hfork with rfl | rfl <;> decide +kernel
  constructor
  · intro n b h
    have hanswer : (if 1 ≤ n ∧ n ≤ head then some
        { number := n, hash := hashAt fork n, parentHash := hashAt fork (n - 1),
          timestamp := 100 + n } else none) = some b := by
      rcases h with h | h <;> exact Except.ok.inj h
    split at hanswer
    · cases hanswer
      exact hlinks n (by omega)
    · cases hanswer
  · intro n b h hlow
    replace h : (if 1 ≤ n ∧ n ≤ head then some
        { number := n, hash := hashAt fork n, parentHash := hashAt fork (n - 1),
          timestamp := 100 + n } else none) = some b := Except.ok.inj h
    split at h
    · cases h
      have hfirst : (indexed.deploymentBlock : Int) = 1 := rfl
      refine ⟨_, congrArg Except.ok (if_pos ?_), rfl⟩
      omega
    · cases h

/-- The node falls behind: its heads are 3, 2 and 1. -/
def laggingSyncs : List SyncCall := [syncWith 9 3, syncWith 9 2, syncWith 9 1]

end Sample

/-- Heads of 3, 2 and 1 take the finalized block from 2 to 1 to 0. The row of block 2, marked
`FINALIZED` by the first sync, is deleted by the third, and a fourth sync against a chain that
forks at block 2 replaces it and raises nothing. -/
theorem lagging_head_unfinalizes :
    (∀ call ∈ Sample.laggingSyncs, call.rpc.BlockConsistent Sample.indexed Sample.parentOf) ∧
    ¬FinalityMonotone Sample.indexed Sample.laggingSyncs ∧
    ¬FinalRowsKept Sample.indexed Sample.laggingSyncs ∧
    ¬FinalChangeRaised Sample.indexed Sample.parentOf Sample.laggingSyncs := by
  obtain ⟨j₁, hrun₁, hview₁⟩ : ∃ j, Sample.indexed.run .initial [Sample.syncWith 9 3] = some j ∧
      (j.cursor.map ChainCursor.finalizedBlockNumber,
        (j.blocks 2).map fun b => (b.hash, b.tier)) =
        (some 2, some (Sample.hashAt 9 2, .finalized)) :=
    Option.map_eq_some_iff.mp (by decide +kernel)
  obtain ⟨j₂, hrun₂, hview₂⟩ : ∃ j, Sample.indexed.run .initial
      [Sample.syncWith 9 3, Sample.syncWith 9 2] = some j ∧
      j.cursor.map ChainCursor.finalizedBlockNumber = some 1 :=
    Option.map_eq_some_iff.mp (by decide +kernel)
  obtain ⟨j₃, hrun₃, hview₃⟩ : ∃ j, Sample.indexed.run .initial Sample.laggingSyncs = some j ∧
      j.blocks 2 = none :=
    Option.map_eq_some_iff.mp (by decide +kernel)
  obtain ⟨j₄, hrun₄⟩ : ∃ j, Sample.indexed.run .initial
      (Sample.laggingSyncs ++ [Sample.syncWith 2 3]) = some j :=
    Option.isSome_iff_exists.mp (by decide +kernel)
  have hconsistent : ∀ call ∈ Sample.laggingSyncs,
      call.rpc.BlockConsistent Sample.indexed Sample.parentOf := by
    intro call hmem
    simp only [Sample.laggingSyncs, List.mem_cons, List.not_mem_nil, or_false] at hmem
    rcases hmem with rfl | rfl | rfl
    · exact Sample.node_consistent (.inl rfl) (by decide)
    · exact Sample.node_consistent (.inl rfl) (by decide)
    · exact Sample.node_consistent (.inl rfl) (by decide)
  obtain ⟨hfinal₁, hrow₁⟩ := Prod.mk.inj hview₁
  obtain ⟨c₁, hc₁, hc₁final⟩ := Option.map_eq_some_iff.mp hfinal₁
  obtain ⟨b, hb, hbview⟩ := Option.map_eq_some_iff.mp hrow₁
  obtain ⟨hhash, htier⟩ := Prod.mk.inj hbview
  have hfirst := run_steps hrun₁
  have hsecond : SyncStep Sample.indexed j₁ (Sample.syncWith 9 2) j₂ := run_last hrun₁ hrun₂
  have hthird : SyncStep Sample.indexed j₂ (Sample.syncWith 9 1) j₃ := run_last hrun₂ hrun₃
  have hrest : Steps (SyncStep Sample.indexed) j₁ [Sample.syncWith 9 2, Sample.syncWith 9 1] j₃ :=
    .cons hsecond (.single hthird)
  refine ⟨hconsistent, fun hmono => ?_, fun hkept => ?_, fun hraised => ?_⟩
  · obtain ⟨c', hc', hle⟩ := hmono j₁ _ j₂ ⟨_, _, rfl, hfirst, hsecond⟩ c₁ hc₁
    rw [hc'] at hview₂
    have hone : c'.finalizedBlockNumber = 1 := Option.some.inj hview₂
    omega
  · have hkeeps := (hkept _ _ [] j₁ j₃ rfl hfirst hrest).1 2 b hb htier
    rw [hview₃] at hkeeps
    cases hkeeps
  · obtain ⟨result, hfourth⟩ := run_last hrun₃ hrun₄
    obtain ⟨block, herror⟩ := hraised _ _ [] j₁ j₃ rfl hfirst hrest c₁ 2 b hc₁ (by decide)
      (by omega) hb (Sample.syncWith 2 3) (by decide) (by decide) rfl ⟨3, rfl⟩ (fun _ => ⟨_, rfl⟩)
      (Sample.node_consistent (.inr rfl) (by decide)) (by
        intro a ha
        cases ha
        rw [hhash]
        decide +kernel)
    rw [hfourth] at herror
    cases herror

/-- The chain forks at block 2 while that block is pending. -/
def Sample.forkingSyncs : List SyncCall := [syncWith 9 2, syncWith 2 3]

/-- The row of block 1, final after the first sync, is there when the second has replaced
block 2. -/
theorem finality_monotone_sample :
    ∃ j j' b, Steps (SyncStep Sample.indexed) .initial Sample.forkingSyncs j' ∧
      Steps (SyncStep Sample.indexed) .initial [Sample.syncWith 9 2] j ∧
      j.blocks 1 = some b ∧ b.tier = .finalized ∧ j'.blocks 1 = some b ∧
      (j'.blocks 2).map ChainBlock.hash ≠ (j.blocks 2).map ChainBlock.hash := by
  obtain ⟨j, hrun, hview⟩ : ∃ j, Sample.indexed.run .initial [Sample.syncWith 9 2] = some j ∧
      (j.cursor.map ChainCursor.finalizedBlockNumber, (j.blocks 1).map ChainBlock.tier,
        (j.blocks 2).map ChainBlock.hash) = (some 1, some .finalized, some (Sample.hashAt 9 2)) :=
    Option.map_eq_some_iff.mp (by decide +kernel)
  obtain ⟨j', hrun', hview'⟩ : ∃ j, Sample.indexed.run .initial Sample.forkingSyncs = some j ∧
      (j.blocks 2).map ChainBlock.hash = some (Sample.hashAt 2 2) :=
    Option.map_eq_some_iff.mp (by decide +kernel)
  simp only [Prod.mk.injEq] at hview
  obtain ⟨hfinal, htier, hhash⟩ := hview
  obtain ⟨b, hb, hbtier⟩ := Option.map_eq_some_iff.mp htier
  have hfirst := run_steps hrun
  have hsecond : SyncStep Sample.indexed j (Sample.syncWith 2 3) j' := run_last hrun hrun'
  have hconsistent : ∀ call ∈ Sample.forkingSyncs,
      call.rpc.BlockConsistent Sample.indexed Sample.parentOf := by
    intro call hmem
    simp only [Sample.forkingSyncs, List.mem_cons, List.not_mem_nil, or_false] at hmem
    rcases hmem with rfl | rfl
    · exact Sample.node_consistent (.inl rfl) (by decide)
    · exact Sample.node_consistent (.inr rfl) (by decide)
  have hheads : ∀ s call s',
      StepOf (SyncStep Sample.indexed) .initial Sample.forkingSyncs s call s' →
        call.HeadHolds Sample.indexed s := by
    rintro s call s' ⟨pre, post, hcut, hpre, -⟩ c head hc hhead
    match pre, hcut with
    | [], _ =>
      cases hpre
      cases hc
    | [first], hcut =>
      cases hcut
      have hsame := (run_of_steps hpre).symm.trans hrun
      cases hsame
      rw [hc] at hfinal
      have hone : c.finalizedBlockNumber = 1 := Option.some.inj hfinal
      obtain rfl : (3 : Int) = head := Except.ok.inj hhead
      exact .inr (.inr (by rw [hone]; decide))
    | _ :: _ :: _ :: _, hcut => cases hcut
    | [_, _], hcut => cases hcut
  have hkept := ((finality_monotone hconsistent).2 hheads).1
  refine ⟨j, j', b, run_steps hrun', hfirst, hb, hbtier, ?_, ?_⟩
  · exact (hkept _ _ [] j j' rfl hfirst (.single hsecond)).1 1 b hb hbtier
  · rw [hview', hhash]
    decide +kernel

end Rackline
