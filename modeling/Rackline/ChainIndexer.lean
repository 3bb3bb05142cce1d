import Mathlib.Tactic.Common
import Rackline.Evm.Arith
import Rackline.Lib.Transition

/-!
# `Rackline.ChainIndexer`: the block and log journal of a deployment

`projections/indexer.py`. `ChainIndexer.sync` brings the journal of one deployment up to the head
that the node reports: it removes what lies above its cursor, walks back to the last block that
the node still has, rolls the journal back to it, reads the next chunk of blocks and logs, marks
what is final, rebuilds the read models and moves the cursor.

A sync is one database transaction. A sync that raises is rolled back, so the model is a function
into `Except`, and an error carries no journal.

The node is asked anew at each point, and may answer differently each time. So an `Rpc` holds
the answers of one sync, with a field for each place that asks for a block; a sync asks for no
number twice at one place. A hexadecimal quantity is the number it is parsed to; a hash is the
string of the answer, and the code lowers it. `updated_at` and the log messages are left out.
-/

set_option autoImplicit false

namespace Rackline

open Evm Transition

/-! ### What the node answers -/

/-- What a sync can raise. -/
inductive SyncError
  | valueError (message : String)
  | transientChainChange (message : String)
  /-- `FinalizedReorg`, at the block where the walk met it. -/
  | finalizedReorg (block : Int)
  /-- A field of `None` was read. -/
  | noneType
  /-- A database constraint. -/
  | integrity
  /-- The node did not answer. -/
  | rpc
deriving DecidableEq

/-- A hexadecimal string, as its characters. -/
abbrev HexString : Type := List Char

/-- A block of `eth_getBlockByNumber`. -/
structure RpcBlock where
  number : Int
  hash : HexString
  parentHash : HexString
  timestamp : Int

/-- A log of `eth_getLogs`. -/
structure RpcLog where
  blockNumber : Int
  blockHash : HexString
  transactionHash : HexString
  transactionIndex : Int
  logIndex : Int
  address : HexString
  topics : List HexString
  data : HexString
  removed : Bool

/-- A receipt of `eth_getTransactionReceipt`. -/
structure RpcReceipt where
  blockHash : HexString
  status : Int

/-- The answers of the node during one sync. -/
structure Rpc where
  chainId : Except SyncError Int
  blockNumber : Except SyncError Int
  /-- `get_block` in the walk to the common ancestor. -/
  walkBlock : Int → Except SyncError (Option RpcBlock)
  /-- `get_block` for the new tip of a rollback. -/
  tipBlock : Int → Except SyncError (Option RpcBlock)
  /-- `get_block` for a block of the chunk. -/
  getBlock : Int → Except SyncError (Option RpcBlock)
  /-- `get_block` for the end of the chunk, once its logs have been read. -/
  endBlock : Int → Except SyncError (Option RpcBlock)
  getLogs : Int → Int → Except SyncError (List RpcLog)
  getReceipt : HexString → Except SyncError (Option RpcReceipt)

/-! ### The journal -/

/-- The `tier` of a row. -/
inductive Tier
  | pending
  | finalized
deriving DecidableEq

/-- A row of `chain_blocks`. -/
structure ChainBlock where
  number : Int
  hash : HexString
  parentHash : HexString
  timestamp : Int
  tier : Tier
deriving DecidableEq

/-- A row of `chain_logs`. Every row has `tx_status = 1`. -/
structure ChainLog where
  blockNumber : Int
  blockHash : HexString
  txHash : HexString
  txIndex : Int
  logIndex : Int
  address : HexString
  contractName : String
  eventName : String
  topics : List HexString
  data : HexString
  decoded : List (String × String)
  tier : Tier
deriving DecidableEq

/-- `uq_chain_logs_position`. -/
def ChainLog.position (l : ChainLog) : HexString × HexString × Int :=
  (l.blockHash, l.txHash, l.logIndex)

/-- The row of `chain_cursors`. -/
structure ChainCursor where
  lastBlockNumber : Int
  lastBlockHash : HexString
  finalizedBlockNumber : Int
deriving DecidableEq

/-- A row of `reorg_journal`. -/
structure ReorgJournal where
  forkBlock : Int
  oldHash : HexString
  newHash : HexString
  logsRolledBack : Nat

/-- The rows of one deployment. The number of a block is its primary key. -/
structure Journal where
  blocks : Int → Option ChainBlock
  logs : List ChainLog
  cursor : Option ChainCursor
  reorgs : List ReorgJournal

/-- The journal before the first sync. -/
def Journal.initial : Journal :=
  { blocks := fun _ => none, logs := [], cursor := none, reorgs := [] }

/-- `DecodedLog`. -/
structure DecodedLog where
  event : String
  args : List (String × String)

/-- A row of `chain_deployments`, with what the decoder and the read models make of its contracts.
`replay` reads the rows and writes the read models only; it can raise. -/
structure ChainDeployment where
  chainId : Int
  deploymentBlock : Nat
  finalityDepth : Nat
  /-- `Decoder.contract_of`. -/
  contractOf : HexString → Option String
  /-- `Decoder.decode`. -/
  decode : HexString → List HexString → HexString → Except SyncError (Option DecodedLog)
  /-- `replay`. -/
  replay : (Int → Option ChainBlock) → List ChainLog → Except SyncError Unit

/-- `str.lower` on hexadecimal digits. -/
def lower (s : HexString) : HexString := s.map Char.toLower

/-- `'0x'` and so many lower-case hexadecimal digits: `HEX32_CHECK` with 64, `ADDR_CHECK` with
40. -/
def isHex (digits : Nat) (s : HexString) : Bool :=
  match s with
  | '0' :: 'x' :: rest =>
    rest.length == digits && rest.all fun c => c.isDigit || ('a' ≤ c && c ≤ 'f')
  | _ => false

namespace Journal

variable (j : Journal)

/-- `delete(ChainLog)` and `delete(ChainBlock)` of all rows above a block. -/
def deleteAbove (number : Int) : Journal :=
  { j with
    blocks := fun n => if number < n then none else j.blocks n
    logs := j.logs.filter fun l => decide (l.blockNumber ≤ number) }

/-- The rows above the committed cursor are orphans. -/
def dropOrphans : Journal :=
  match j.cursor with
  | none => j
  | some cursor => j.deleteAbove cursor.lastBlockNumber

/-- `s.flush()` of new block rows. -/
def insertBlocks (rows : List ChainBlock) : Except SyncError Journal := do
  revertIf (∃ b ∈ rows, (j.blocks b.number).isSome = true ∨ isHex 64 b.hash = false ∨
    isHex 64 b.parentHash = false) .integrity
  return { j with
    blocks := fun n => (rows.find? fun b => decide (b.number = n)).or (j.blocks n) }

/-- `s.flush()` of new log rows. -/
def insertLogs (rows : List ChainLog) : Except SyncError Journal := do
  revertIf (¬((j.logs ++ rows).map ChainLog.position).Nodup ∨ ∃ l ∈ rows,
    isHex 64 l.blockHash = false ∨ isHex 64 l.txHash = false ∨ isHex 40 l.address = false ∨
      l.blockNumber < 0 ∨ l.txIndex < 0 ∨ l.logIndex < 0) .integrity
  return { j with logs := j.logs ++ rows }

/-- `update(model).where(field <= target_final).values(tier="FINALIZED")`, for both tables. -/
def finalizeUpTo (targetFinal : Int) : Journal :=
  { j with
    blocks := fun n => (j.blocks n).map fun b =>
      if n ≤ targetFinal then { b with tier := .finalized } else b
    logs := j.logs.map fun l =>
      if l.blockNumber ≤ targetFinal then { l with tier := .finalized } else l }

end Journal

/-! ### One sync -/

/-- The tier of a new row. -/
def Tier.at (number targetFinal : Int) : Tier :=
  if number ≤ targetFinal then .finalized else .pending

/-- A call of `sync`, with the answers it gets. -/
structure SyncCall where
  chunkSize : Int
  rpc : Rpc

/-- What a sync returns; `finalizedBlock` is missing when the head is below the deployment. -/
structure SyncResult where
  lastBlock : Int
  finalizedBlock : Option Int
  head : Int
  lag : Int

namespace ChainDeployment

variable (d : ChainDeployment) (rpc : Rpc) (j : Journal)

/-- `d.deployment_block - 1`. -/
def beforeFirst : Int := d.deploymentBlock - 1

/-- `known and actual and known.hash == actual["hash"].lower()`. -/
def sameBlock (known : Option ChainBlock) (actual : Option RpcBlock) : Bool :=
  match known, actual with
  | some known, some actual => decide (known.hash = lower actual.hash)
  | _, _ => false

/-- The loop `while ancestor >= d.deployment_block`, with the number of blocks from the deployment
to the ancestor. -/
def walk (finalized : Int) : Nat → Int → Except SyncError Int
  | 0, ancestor => .ok ancestor
  | n + 1, ancestor => do
    let actual ← rpc.walkBlock ancestor
    if sameBlock (j.blocks ancestor) actual = true then
      return ancestor
    else
      revertIf (ancestor ≤ finalized) (.finalizedReorg ancestor)
      walk finalized n (ancestor - 1)

/-- `if ancestor < last`: the rows above the ancestor go. The block to go on from. -/
def rollBack (head ancestor : Int) (cursor : ChainCursor) : Except SyncError (Int × Journal) :=
  if ancestor < cursor.lastBlockNumber then do
    let newTip ← rpc.tipBlock (min cursor.lastBlockNumber head)
    match newTip with
    | none => .error .noneType
    | some newTip =>
      revertIf (isHex 64 (lower newTip.hash) = false) .integrity
      return (ancestor, { j.deleteAbove ancestor with
        reorgs := j.reorgs ++ [
          { forkBlock := ancestor, oldHash := cursor.lastBlockHash, newHash := lower newTip.hash,
            logsRolledBack := j.logs.countP fun l => decide (ancestor < l.blockNumber) }] })
  else .ok (cursor.lastBlockNumber, j)

/-- From the cursor back to the block to go on from. -/
def resume (head : Int) : Except SyncError (Int × Journal) :=
  match j.cursor with
  | none => .ok (d.beforeFirst, j)
  | some cursor => do
    let ancestor ← walk rpc j cursor.finalizedBlockNumber
      (cursor.lastBlockNumber - d.beforeFirst).toNat cursor.lastBlockNumber
    rollBack rpc j head ancestor cursor

/-- The loop over the blocks of the chunk: so many of them, from a number on. -/
def readBlocks (targetFinal : Int) : Nat → Int → Option HexString →
    Except SyncError (List ChainBlock)
  | 0, _, _ => .ok []
  | n + 1, number, parentHash => do
    let block ← rpc.getBlock number
    match block with
    | none => .error (.transientChainChange "canonical block unavailable")
    | some block =>
      revertIf (block.number ≠ number) (.transientChainChange "canonical block unavailable")
      revertIf (parentHash ≠ none ∧ parentHash ≠ some [] ∧
          parentHash ≠ some (lower block.parentHash))
        (.transientChainChange "chain changed while indexing; retry atomically")
      let rest ← readBlocks targetFinal n (number + 1) (some (lower block.hash))
      return { number := number, hash := lower block.hash, parentHash := lower block.parentHash,
               timestamp := block.timestamp, tier := .at number targetFinal } :: rest

/-- The key that the logs of a chunk are sorted by. -/
def logOrder (a b : RpcLog) : Bool :=
  decide (a.blockNumber < b.blockNumber ∨ a.blockNumber = b.blockNumber ∧
    (a.transactionIndex < b.transactionIndex ∨ a.transactionIndex = b.transactionIndex ∧
      a.logIndex ≤ b.logIndex))

/-- The receipt is that of a successful transaction of the block. -/
def goodReceipt (receipt : Option RpcReceipt) (blockHash : HexString) : Bool :=
  match receipt with
  | none => false
  | some receipt => decide (lower receipt.blockHash = blockHash ∧ receipt.status = 1)

/-- The loop over the logs of the chunk, with the positions seen so far. -/
def readLogs (targetFinal last last' : Int) :
    List RpcLog → List (HexString × HexString × Int) → Except SyncError (List ChainLog)
  | [], _ => .ok []
  | raw :: rest, seen => do
    revertIf (raw.blockNumber ≤ last ∨ last' < raw.blockNumber ∨ raw.removed = true)
      (.transientChainChange "RPC returned log outside canonical requested range")
    match j.blocks raw.blockNumber with
    | none => .error .noneType
    | some block =>
      revertIf (lower raw.blockHash ≠ block.hash)
        (.transientChainChange "log belongs to another block hash")
      let position := (raw.blockHash, raw.transactionHash, raw.logIndex)
      if position ∈ seen then
        readLogs targetFinal last last' rest seen
      else
        let receipt ← rpc.getReceipt (lower raw.transactionHash)
        revertIf (goodReceipt receipt block.hash = false)
          (.transientChainChange "log lacks canonical successful receipt")
        let decoded ← d.decode raw.address raw.topics raw.data
        match d.contractOf raw.address with
        | none => .error (.valueError "RPC returned unregistered contract")
        | some contractName =>
          let logs ← readLogs targetFinal last last' rest (position :: seen)
          return { blockNumber := raw.blockNumber, blockHash := block.hash,
                   txHash := lower raw.transactionHash, txIndex := raw.transactionIndex,
                   logIndex := raw.logIndex, address := lower raw.address,
                   contractName := contractName,
                   eventName := (decoded.map DecodedLog.event).getD "UNKNOWN",
                   topics := raw.topics, data := raw.data,
                   decoded := (decoded.map DecodedLog.args).getD [],
                   tier := .at raw.blockNumber targetFinal } :: logs

/-- The logs of the chunk, and the check that the chain has not moved since its blocks were
read. -/
def indexLogs (targetFinal last last' : Int) : Except SyncError Journal := do
  let raws ← rpc.getLogs (last + 1) last'
  let rows ← d.readLogs rpc j targetFinal last last' (raws.mergeSort logOrder) []
  let block ← rpc.endBlock last'
  match block, j.blocks last' with
  | some block, some known =>
    revertIf (lower block.hash ≠ known.hash)
      (.transientChainChange "chain changed before index commit")
    j.insertLogs rows
  | _, _ => .error .noneType

/-- The blocks and the logs of the chunk above `last`, up to `end`. -/
def indexChunk (targetFinal last last' : Int) : Except SyncError Journal := do
  let rows ← readBlocks rpc targetFinal (last' - last).toNat (last + 1)
    ((j.blocks last).map ChainBlock.hash)
  let j ← j.insertBlocks rows
  if last < last' then
    d.indexLogs rpc j targetFinal last last'
  else
    return j

/-- What is final, the read models and the cursor. -/
def commit (targetFinal last' : Int) : Except SyncError Journal := do
  let j := j.finalizeUpTo targetFinal
  d.replay j.blocks j.logs
  match j.blocks last' with
  | none => .error .noneType
  | some block =>
    return { j with
      cursor := some { lastBlockNumber := last', lastBlockHash := block.hash,
                       finalizedBlockNumber := targetFinal } }

/-- `target_final`. -/
def targetFinal (head last' : Int) : Int :=
  max d.beforeFirst (min last' (head - d.finalityDepth))

/-- `ChainIndexer.sync`. -/
def sync (call : SyncCall) : Except SyncError (SyncResult × Journal) := do
  revertIf (call.chunkSize < 1 ∨ 5000 < call.chunkSize)
    (.valueError "chunk_size must be between 1 and 5000")
  let chainId ← call.rpc.chainId
  revertIf (chainId ≠ d.chainId) (.valueError "RPC chain differs from deployment")
  let head ← call.rpc.blockNumber
  let (last, j) ← d.resume call.rpc j.dropOrphans head
  let last' := min head (last + call.chunkSize)
  let targetFinal := d.targetFinal head last'
  let j ← d.indexChunk call.rpc j targetFinal last last'
  if last' < d.deploymentBlock then
    return ({ lastBlock := last, finalizedBlock := none, head := head, lag := max 0 (head - last) },
      j)
  else
    let j ← d.commit j targetFinal last'
    return ({ lastBlock := last', finalizedBlock := some targetFinal, head := head,
              lag := head - last' }, j)

end ChainDeployment

/-! ### Runs -/

/-- One sync that returned. -/
def SyncStep (d : ChainDeployment) (j : Journal) (call : SyncCall) (j' : Journal) : Prop :=
  ∃ result, d.sync j call = .ok (result, j')

/-- Run a list of syncs, as long as they return. -/
def ChainDeployment.run (d : ChainDeployment) (j : Journal) : List SyncCall → Option Journal
  | [] => some j
  | call :: rest => (d.sync j call).toOption.bind fun out => run d out.2 rest

theorem ChainDeployment.run_steps {d : ChainDeployment} :
    ∀ {calls : List SyncCall} {j j' : Journal}, d.run j calls = some j' →
      Steps (SyncStep d) j calls j' := by
  intro calls
  induction calls with
  | nil =>
    intro j j' h
    cases h
    exact .nil j
  | cons call rest ih =>
    intro j j' h
    obtain ⟨⟨result, mid⟩, hsync, h⟩ := Option.bind_eq_some_iff.mp h
    exact .cons ⟨result, toOption_eq_some.mp hsync⟩ (ih h)

/-- The syncs of a run determine where it ends. -/
theorem ChainDeployment.run_of_steps {d : ChainDeployment} {calls : List SyncCall} {j j' : Journal}
    (h : Steps (SyncStep d) j calls j') : d.run j calls = some j' := by
  induction h with
  | nil => rfl
  | cons hstep _ ih =>
    obtain ⟨result, hsync⟩ := hstep
    rw [run, hsync]
    exact ih

/-- The last sync of a run that returned. -/
theorem ChainDeployment.run_last {d : ChainDeployment} {call : SyncCall} {j'' : Journal} :
    ∀ {calls : List SyncCall} {j j' : Journal}, d.run j calls = some j' →
      d.run j (calls ++ [call]) = some j'' → SyncStep d j' call j'' := by
  intro calls
  induction calls with
  | nil =>
    intro j j' h h'
    cases h
    cases run_steps h' with
    | cons hstep hnil =>
      cases hnil
      exact hstep
  | cons first rest ih =>
    intro j j' h h'
    obtain ⟨out, hsync, h⟩ := Option.bind_eq_some_iff.mp h
    obtain ⟨out', hsync', h'⟩ := Option.bind_eq_some_iff.mp h'
    rw [hsync] at hsync'
    cases hsync'
    exact ih h h'

end Rackline
