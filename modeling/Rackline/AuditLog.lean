import Mathlib.Data.List.MinMax
import Mathlib.Logic.Function.Basic
import Rackline.Lib.Transition

/-!
# `Rackline.AuditLog`: the hash-chained audit log

`write_audit` of `jobs/queue.py` and the table `audit_log` of the migration. An append is two
statements of the caller's transaction: it reads the hash of the newest row, and inserts a row that
carries it as `prev_hash`. A statement at READ COMMITTED sees the committed rows and those of its
own transaction, and it takes no lock. The ids come from a sequence, which no rollback turns back.

The hash of an entry is a parameter: SHA-256 of the canonical JSON of its arguments. A JSON value is
its canonical text.
-/

set_option autoImplicit false

namespace Rackline.Audit

variable {Hash : Type}

/-- Canonical JSON. -/
abbrev Json : Type := String

/-- The arguments of `write_audit`. -/
structure Entry where
  actor : String
  actorRole : String
  action : String
  entityTable : String
  entityId : String
  before : Option Json
  after : Option Json
  correlationId : Option String

/-- A row of `audit_log`. -/
structure AuditRow (Hash : Type) extends Entry where
  id : Nat
  prevHash : Option Hash
  entryHash : Hash

/-- `_audit_entry_hash`, of the previous hash, the actor, the action, the entity and `after`. -/
abbrev EntryHash (Hash : Type) : Type := Option Hash → String → String → String → Json → Hash

/-- The hash that `write_audit` gives an entry; `after or {}` stands for no `after`. -/
def Entry.hash (H : EntryHash Hash) (e : Entry) (prev : Option Hash) : Hash :=
  H prev e.actor e.action e.entityId (e.after.getD "\x7b\x7d")

/-- `SELECT … ORDER BY id DESC LIMIT 1`. -/
def newest (rows : List (AuditRow Hash)) : Option (AuditRow Hash) := rows.argmax AuditRow.id

/-- The hash of the newest row. -/
def tailHash (rows : List (AuditRow Hash)) : Option Hash := (newest rows).map AuditRow.entryHash

abbrev TxId : Type := Nat

/-- An open transaction. -/
structure Session (Hash : Type) where
  /-- The rows it has inserted, the latest last. -/
  own : List (AuditRow Hash)
  /-- The hash that a `write_audit` has read, before its insert. -/
  prev : Option (Option Hash)
  /-- How many rows were committed at the first read of the tail. -/
  base : Option Nat

/-- The log, its sequence, and the open transactions. -/
structure AuditLog (Hash : Type) where
  /-- The committed rows, in the order of their commits. -/
  rows : List (AuditRow Hash)
  /-- The last value that the sequence has drawn. -/
  seq : Nat
  sessions : TxId → Option (Session Hash)

/-- An empty log. -/
def AuditLog.empty : AuditLog Hash := ⟨[], 0, fun _ => none⟩

namespace AuditLog

variable (H : EntryHash Hash) (s : AuditLog Hash) (x : TxId)

/-- `x` goes on as `ses`. -/
def goOn (ses : Session Hash) : AuditLog Hash :=
  { s with sessions := Function.update s.sessions x (some ses) }

/-- A transaction begins. -/
def open_ : Option (AuditLog Hash) :=
  match s.sessions x with
  | none => some (s.goOn x ⟨[], none, none⟩)
  | some _ => none

/-- The `SELECT` of `write_audit`. -/
def readTail : Option (AuditLog Hash) :=
  match s.sessions x with
  | some ⟨own, none, base⟩ =>
    some (s.goOn x ⟨own, some (tailHash (s.rows ++ own)), some (base.getD s.rows.length)⟩)
  | _ => none

/-- The `INSERT` of `write_audit`. -/
def insert (e : Entry) : Option (AuditLog Hash) :=
  match s.sessions x with
  | some ⟨own, some prev, base⟩ =>
    let row : AuditRow Hash := { e with id := s.seq + 1, prevHash := prev, entryHash := e.hash H prev }
    some { s.goOn x ⟨own ++ [row], none, base⟩ with seq := s.seq + 1 }
  | _ => none

/-- The transaction commits, after its last `write_audit`. -/
def commit : Option (AuditLog Hash) :=
  match s.sessions x with
  | some ⟨own, none, _⟩ =>
    some { s with rows := s.rows ++ own, sessions := Function.update s.sessions x none }
  | _ => none

/-- The transaction is rolled back. The ids it has drawn stay drawn. -/
def rollback : Option (AuditLog Hash) :=
  match s.sessions x with
  | some _ => some { s with sessions := Function.update s.sessions x none }
  | none => none

end AuditLog

/-! ### The steps -/

inductive Action
  | begin_ (x : TxId)
  | readTail (x : TxId)
  | insert (x : TxId) (e : Entry)
  | commit (x : TxId)
  | rollback (x : TxId)

/-- One action, if it can happen. -/
def AuditLog.step (H : EntryHash Hash) (s : AuditLog Hash) : Action → Option (AuditLog Hash)
  | .begin_ x => s.open_ x
  | .readTail x => s.readTail x
  | .insert x e => s.insert H x e
  | .commit x => s.commit x
  | .rollback x => s.rollback x

/-- The actions one after the other. -/
def AuditLog.run (H : EntryHash Hash) (s : AuditLog Hash) : List Action → Option (AuditLog Hash)
  | [] => some s
  | a :: as => (s.step H a).bind fun t => t.run H as

/-- The steps of the transactions that call `write_audit`. -/
def Step (H : EntryHash Hash) (s : AuditLog Hash) (a : Action) (s' : AuditLog Hash) : Prop :=
  s.step H a = some s'

theorem AuditLog.run_steps {H : EntryHash Hash} : ∀ {as : List Action} {s s' : AuditLog Hash},
    s.run H as = some s' → Transition.Steps (Step H) s as s'
  | [], s, s', h => by
    obtain rfl := Option.some.inj h
    exact .nil s
  | a :: as, s, s', h => by
    obtain ⟨t, hstep, hrest⟩ := Option.bind_eq_some_iff.mp h
    exact .cons hstep (run_steps hrest)

/-- The two statements of one `write_audit`. -/
def writeAudit (x : TxId) (e : Entry) : List Action := [.readTail x, .insert x e]

end Rackline.Audit
