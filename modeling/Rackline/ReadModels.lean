import Rackline.ChainIndexer

/-!
# `Rackline.ReadModels`: the tables rebuilt from the journal

`replay` in `projections/indexer.py` deletes the read models of a deployment and rebuilds them from
the rows of `chain_logs` in the order of the chain, once for the final rows and once for all rows.
What one log adds to the tables is left open here (`ReadModels.event`, `ReadModels.repayments`):
nothing below depends on it.

An `Indexer` is a deployment with its read models, and `Indexer.sync` is `ChainIndexer.sync` with
the tables that `replay` leaves. `IndexStep` is one call of it, which returns or is rolled back.

A block hash commits to the block: `BlockContent` is what it commits to, and a `Chain` is the hash
at each height. `Rpc.Sees` says that the answers of one call are those of one chain.
-/

set_option autoImplicit false

namespace Rackline

open Evm Transition

/-! ### The read models -/

/-- `CREDIT_EVENTS`. -/
def creditEvents : List (String × String) :=
  [("CreditFacilityManager", "StateChanged"), ("RecoveryManager", "ScheduleSet"),
    ("RecoveryManager", "DisputeSet"), ("RecoveryManager", "DefaultApproved"),
    ("RecoveryManager", "ReserveFunded"), ("RecoveryManager", "ReserveApplied"),
    ("RecoveryManager", "LossApplied"), ("LendingVaultV2", "ImpairmentRecognized"),
    ("LendingVaultV2", "ImpairmentReversed"), ("LendingVaultV2", "WrittenOff")]

namespace ChainLog

/-- A column of `decoded`. -/
def arg (l : ChainLog) (name : String) : Option String := l.decoded.lookup name

/-- A log that the native verifier emits. -/
def isVerified (l : ChainLog) : Bool :=
  l.contractName == "AttestcoinRevenueVerifier" && l.eventName == "SourceEventVerified"

/-- A log whose block is needed for its timestamp. -/
def isTimed (l : ChainLog) : Bool :=
  l.eventName == "Repaid" || creditEvents.contains (l.contractName, l.eventName)

/-- `order_by(block_number, tx_index, log_index)`. -/
def order (a b : ChainLog) : Bool :=
  decide (a.blockNumber < b.blockNumber ∨ a.blockNumber = b.blockNumber ∧
    (a.txIndex < b.txIndex ∨ a.txIndex = b.txIndex ∧ a.logIndex ≤ b.logIndex))

end ChainLog

/-- `verified`: the arguments of the last verifier log of a transaction for an id. -/
def verifiedArgs (logs : List ChainLog) (txHash : HexString) (id : Option String) :
    Option (List (String × String)) :=
  (logs.reverse.find? fun l => l.isVerified && l.txHash == txHash && l.arg "id" == id).map
    ChainLog.decoded

/-- `blocks`: the rows of the blocks that a timed log is in. -/
def timedBlocks (blocks : Int → Option ChainBlock) (logs : List ChainLog) (n : Int) :
    Option ChainBlock :=
  if logs.any (fun l => l.isTimed && l.blockNumber == n) = true then blocks n else none

/-- The tables of a deployment, with the rows that a pass over the logs has found so far, and what
the logs do to them. -/
structure ReadModels (T : Type) where
  /-- The tables once the rows of the deployment are deleted. -/
  empty : T
  /-- The dictionaries of a pass start empty. -/
  beginTier : Tier → T → T
  /-- `_project_repayments`. -/
  repayments : Tier → List ChainLog → (Int → Option ChainBlock) → T → Except SyncError T
  /-- The body of the loop over the logs. -/
  event : Tier → (HexString → Option String → Option (List (String × String))) →
    (Int → Option ChainBlock) → ChainLog → T → Except SyncError T

namespace ReadModels

variable {T : Type} (p : ReadModels T)

/-- One pass: `PENDING` takes every log, `FINALIZED` the final ones. -/
def pass (blocks : Int → Option ChainBlock) (logs : List ChainLog) (tier : Tier) (tables : T) :
    Except SyncError T := do
  let tierLogs := logs.filter fun l => decide (tier = .pending ∨ l.tier = tier)
  let tables ← p.repayments tier tierLogs (timedBlocks blocks logs) (p.beginTier tier tables)
  tierLogs.foldlM (fun tables l =>
    if l.eventName = "UNKNOWN" then .ok tables
    else p.event tier (verifiedArgs logs) (timedBlocks blocks logs) l tables) tables

/-- `replay`. -/
def replay (blocks : Int → Option ChainBlock) (logs : List ChainLog) : Except SyncError T := do
  let logs := logs.mergeSort ChainLog.order
  let tables ← p.pass blocks logs .finalized p.empty
  p.pass blocks logs .pending tables

end ReadModels

/-! ### The database -/

/-- A deployment with its read models. -/
structure Indexer (T : Type) where
  deployment : ChainDeployment
  models : ReadModels T
  replays : deployment.replay = fun blocks logs => (models.replay blocks logs).map fun _ => ()

/-- The rows and the tables of one deployment. -/
structure Database (T : Type) where
  journal : Journal
  tables : T

namespace Indexer

variable {T : Type} (ix : Indexer T)

/-- The database before the first sync. -/
def initial : Database T := { journal := .initial, tables := ix.models.empty }

/-- `ChainIndexer.sync`. A sync that has seen no block of the deployment ends before `replay`. -/
def sync (db : Database T) (call : SyncCall) : Except SyncError (SyncResult × Database T) := do
  let (result, j) ← ix.deployment.sync db.journal call
  match result.finalizedBlock with
  | none => return (result, { db with journal := j })
  | some _ =>
    let tables ← ix.models.replay j.blocks j.logs
    return (result, { journal := j, tables := tables })

end Indexer

/-! ### Chains -/

/-- What the hash of a block commits to. The logs are those of the contracts of the deployment. -/
structure BlockContent where
  parentHash : HexString
  timestamp : Int
  logs : List RpcLog

/-- The head of a chain, and the hash of its block at each height. -/
structure Chain where
  head : Int
  hashAt : Int → HexString

section
variable (d : ChainDeployment) (contents : HexString → BlockContent) (chain : Chain)

/-- The block at a height of the chain. -/
def Chain.blockAt (n : Int) : BlockContent := contents (chain.hashAt n)

/-- From the deployment on, each block names the one before it as its parent, and its logs are in
it, each with an index of its own. -/
structure Chain.Consistent : Prop where
  parent : ∀ n, d.beforeFirst < n - 1 → n ≤ chain.head →
    (chain.blockAt contents n).parentHash = chain.hashAt (n - 1)
  placed : ∀ n, d.beforeFirst < n → n ≤ chain.head → ∀ raw ∈ (chain.blockAt contents n).logs,
    raw.blockNumber = n ∧ lower raw.blockHash = chain.hashAt n
  indexed : ∀ n, d.beforeFirst < n → n ≤ chain.head → ∀ raw ∈ (chain.blockAt contents n).logs,
    ∀ raw' ∈ (chain.blockAt contents n).logs, raw.logIndex = raw'.logIndex → raw = raw'

/-- The answers of a call are those of the chain, as far as there are answers. -/
structure Rpc.Sees (rpc : Rpc) : Prop where
  head : ∀ h, rpc.blockNumber = .ok h → h = chain.head
  walk : ∀ n b, d.beforeFirst < n → n ≤ chain.head → rpc.walkBlock n = .ok (some b) →
    lower b.hash = chain.hashAt n
  block : ∀ n b, d.beforeFirst < n → n ≤ chain.head → rpc.getBlock n = .ok (some b) →
    lower b.hash = chain.hashAt n ∧
      lower b.parentHash = (chain.blockAt contents n).parentHash ∧
      b.timestamp = (chain.blockAt contents n).timestamp
  logs : ∀ a b raws, d.beforeFirst < a → b ≤ chain.head → rpc.getLogs a b = .ok raws →
    ∀ raw, raw ∈ raws ↔ ∃ n, a ≤ n ∧ n ≤ b ∧ raw ∈ (chain.blockAt contents n).logs

end

/-- A call, with the chain it is made on. -/
structure IndexCall where
  call : SyncCall
  chain : Chain

/-- One call of `sync`. A call that returns has seen its chain; one that raises is rolled back,
whatever it has seen. -/
def IndexStep {T : Type} (ix : Indexer T) (contents : HexString → BlockContent) (db : Database T)
    (a : IndexCall) (db' : Database T) : Prop :=
  match ix.sync db a.call with
  | .error _ => db' = db
  | .ok (_, out) => db' = out ∧ a.chain.Consistent ix.deployment contents ∧
      a.call.rpc.Sees ix.deployment contents a.chain

/-- The database after a call, whether it returns or not. -/
def Indexer.after {T : Type} (ix : Indexer T) (db : Database T) (a : IndexCall) : Database T :=
  match ix.sync db a.call with
  | .error _ => db
  | .ok (_, out) => out

/-- Run a list of calls. -/
def Indexer.run {T : Type} (ix : Indexer T) (calls : List IndexCall) : Database T :=
  calls.foldl ix.after ix.initial

/-- No head is below an earlier one. -/
def HeadsRise (calls : List IndexCall) : Prop :=
  calls.Pairwise fun a b => a.chain.head ≤ b.chain.head

end Rackline
