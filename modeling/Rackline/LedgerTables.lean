import Mathlib.Algebra.Ring.Int.Defs
import Rackline.Evm.Arith
import Rackline.Types

/-!
# `Rackline.LedgerTables`: what the off-chain ledgers share

The two tables that every off-chain service writes beside its own, and the values that they check
in the same way. An event goes into the `outbox` in the transaction of the change it announces, and
once for a key (`jobs/outbox.py`). A case that a reviewer has to decide goes into `exceptions`, and
it stands there until it is resolved.
-/

set_option autoImplicit false

namespace Rackline

open Evm

/-- What a call can raise. -/
inductive LedgerError
  /-- `ValueError`, with its text. -/
  | valueError (message : String)
  /-- A database constraint or trigger. -/
  | integrity
deriving DecidableEq

namespace Tables

/-- `units`: the value is an exact number of base units. -/
def units (value : Int) (name : String) (signed : Bool) : Except LedgerError Unit :=
  revertIf (signed = false ∧ value < 0 ∨ 10 ^ 78 ≤ value.natAbs)
    (.valueError (name ++ " must be exact " ++ (if signed then "signed " else "nonnegative ") ++
      "integer base units"))

end Tables

/-- The range of an `Integer` column. -/
def isInteger (n : Int) : Prop := -2 ^ 31 ≤ n ∧ n < 2 ^ 31

instance (n : Int) : Decidable (isInteger n) := inferInstanceAs (Decidable (_ ∧ _))

/-- The range of a `BigInteger` column. -/
def isBigInteger (n : Int) : Prop := -2 ^ 63 ≤ n ∧ n < 2 ^ 63

instance (n : Int) : Decidable (isBigInteger n) := inferInstanceAs (Decidable (_ ∧ _))

/-- `AssetRef` of `domain/money.py`. -/
structure LedgerAsset where
  chainId : Int
  address : Option String
  decimals : Int
deriving DecidableEq

/-- `AssetRef.key`. -/
def LedgerAsset.key (a : LedgerAsset) : Int × String × Int := (a.chainId, a.address.getD "", a.decimals)

/-- The value of an execution profile. -/
def ExecutionProfile.value : ExecutionProfile → String
  | localMock => "LOCAL_MOCK"
  | nativeTestnet => "NATIVE_TESTNET"
  | production => "PRODUCTION"

/-- A value of a JSON payload. -/
inductive PayloadValue
  | null
  | str (s : String)
  | int (n : Int)
  | bool (b : Bool)
deriving DecidableEq

/-- A row of `outbox`. -/
structure OutboxEvent where
  aggregateType : String
  aggregateId : String
  eventType : String
  idempotencyKey : String
  payload : List (String × PayloadValue)
deriving DecidableEq

/-- `emit`: the rows after it. A key that is there already leaves them as they are. -/
def emit (outbox : List OutboxEvent) (event : OutboxEvent) : List OutboxEvent :=
  if outbox.any (fun r => r.idempotencyKey == event.idempotencyKey) then outbox
  else outbox ++ [event]

/-- The key is there already, or the event is put at the end. -/
theorem emit_cases (outbox : List OutboxEvent) (event : OutboxEvent) :
    (emit outbox event = outbox ∧ ∃ r ∈ outbox, r.idempotencyKey = event.idempotencyKey) ∨
      (emit outbox event = outbox ++ [event] ∧
        ∀ r ∈ outbox, r.idempotencyKey ≠ event.idempotencyKey) := by
  unfold emit
  split
  · rename_i hheld
    simp only [List.any_eq_true, beq_iff_eq] at hheld
    exact .inl ⟨rfl, hheld⟩
  · rename_i hnew
    simp only [List.any_eq_true, beq_iff_eq, not_exists, not_and] at hnew
    exact .inr ⟨rfl, hnew⟩

theorem mem_emit {outbox : List OutboxEvent} {event r : OutboxEvent} (h : r ∈ outbox) :
    r ∈ emit outbox event := by
  rcases emit_cases outbox event with ⟨heq, -⟩ | ⟨heq, -⟩
  · rw [heq]
    exact h
  · rw [heq]
    exact List.mem_append_left _ h

/-- The keys of the outbox stay distinct. -/
theorem nodup_emit {outbox : List OutboxEvent} {event : OutboxEvent}
    (h : (outbox.map OutboxEvent.idempotencyKey).Nodup) :
    ((emit outbox event).map OutboxEvent.idempotencyKey).Nodup := by
  rcases emit_cases outbox event with ⟨heq, -⟩ | ⟨heq, hnew⟩
  · rw [heq]
    exact h
  · rw [heq, List.map_append, List.nodup_append]
    refine ⟨h, by simp, fun a ha b hb hab => ?_⟩
    obtain ⟨r, hr, rfl⟩ := List.mem_map.mp ha
    rw [List.map_singleton, List.mem_singleton] at hb
    exact hnew r hr (hab.trans hb)

/-- `EXCEPTION_SEVERITIES`. -/
inductive Severity
  | INFO | WARNING | BLOCKING
deriving DecidableEq

/-- A row of `exceptions`. -/
structure ExceptionCase where
  kind : String
  severity : Severity
  entityTable : String
  entityId : String
  detail : List (String × String)
  resolved : Bool
deriving DecidableEq

/-- `exception`: the cases after it. One that is open on the entity already leaves them as they
are. -/
def exception (cases : List ExceptionCase) (code table entityId : String)
    (detail : List (String × String)) : List ExceptionCase :=
  if cases.any fun r => r.kind == code && r.entityTable == table && r.entityId == entityId &&
      !r.resolved then cases
  else cases ++ [{
    kind := code, severity := .BLOCKING, entityTable := table, entityId := entityId,
    detail := detail, resolved := false }]

end Rackline
