import Mathlib.Algebra.Order.BigOperators.Group.List
import Mathlib.Tactic.Linarith
import Rackline.CashReconciliation
import Rackline.Lib.Transition

/-!
# `Rackline.Proofs.CashConservation`: cash is received once and allocated once

What a call of the reconciliation writes, and what holds of receipts and allocations in every run of
calls that overlap. A call writes at most one row: a receipt for a log that has none, or an
allocation within what is left of the receipt that it has locked.
-/

set_option autoImplicit false

namespace Rackline.Cash

open Evm Transition

variable {db db' : CashDb} {c c' : CashCall} {result : ReconciliationResult}

/-! ### What a call writes -/

/-- A call writes neither a receipt nor an allocation, or it puts a receipt for a new log, or it
puts an allocation of the receipt that it has locked. -/
inductive CashEffect (db : CashDb) : CashCall → CashDb → Prop
  | quiet {c : CashCall} {db' : CashDb} (hreceipts : db'.receipts = db.receipts)
      (hallocations : db'.allocations = db.allocations)
      (hsettlements : db'.settlements = db.settlements) (houtbox : db'.outbox = db.outbox) :
      CashEffect db c db'
  | received {reference : String} {fact : ReceiptFact} {route : DestinationRoute} {db' : CashDb}
      (hamount : 0 < fact.amount)
      (hnew : ∀ q ∈ db.receipts, q.cashReceiptId ≠ fact.cashReceiptId ∧ q.key ≠ fact.key)
      (hreceipts : db'.receipts = db.receipts ++ [fact.row route])
      (hallocations : db'.allocations = db.allocations)
      (hsettlements : db'.settlements = db.settlements)
      (houtbox : db'.outbox = emit db.outbox (fact.event reference)) :
      CashEffect db (.receipt reference fact route none) db'
  | allocated {reference : String} {fact : AllocationFact} {receipt : CashReceipt}
      {facility : Facility} {db' : CashDb} (hstate : receipt.cashState ≠ .RETURNED)
      (hfacility : facility.facilityId = fact.facilityId) (hpositive : 0 < fact.received)
      (hsplit : fact.feePaid + fact.interestPaid + fact.principalPaid + fact.excess = fact.received)
      (hwithin : db.allocated receipt.cashReceiptId + fact.received ≤ receipt.amount)
      (hnew : ∀ q ∈ db.allocations, q.allocationId ≠ fact.allocationId ∧
        ¬(q.cashReceiptId = receipt.cashReceiptId ∧ q.facilityId = facility.facilityId))
      (hreceipts : db'.receipts =
        (if db.allocated receipt.cashReceiptId + fact.received = receipt.amount then
          db.setCashState receipt.cashReceiptId .ALLOCATED else db).receipts)
      (hallocations : db'.allocations = db.allocations ++ [fact.row receipt facility])
      (hsettlements : db'.settlements = db.settlements)
      (houtbox : db'.outbox = emit db.outbox (fact.event reference receipt facility)) :
      CashEffect db (.allocation reference fact (some receipt)) db'

namespace CashDb

theorem insertReceipt_ok {r : CashReceipt} (h : db.insertReceipt r = .ok db') :
    0 < r.amount ∧ (∀ q ∈ db.receipts, q.cashReceiptId ≠ r.cashReceiptId ∧ q.key ≠ r.key) ∧
      db' = { db with receipts := db.receipts ++ [r] } := by
  obtain ⟨_, hvalues, hok⟩ := bind_eq_ok.mp h
  obtain ⟨_, -, hok⟩ := bind_eq_ok.mp hok
  obtain ⟨_, -, hok⟩ := bind_eq_ok.mp hok
  obtain ⟨_, hunique, hok⟩ := bind_eq_ok.mp hok
  cases hok
  refine ⟨?_, ?_, rfl⟩
  · have := revertIf_eq_ok.mp hvalues
    push Not at this
    exact this.2.2.2.2.1
  · intro q hq
    have := revertIf_eq_ok.mp hunique
    push Not at this
    exact this q hq

theorem insertAllocation_ok {a : Allocation} (h : db.insertAllocation a = .ok db') :
    (0 < a.received ∧ a.feePaid + a.interestPaid + a.principalPaid + a.excess = a.received) ∧
      (∀ q ∈ db.allocations, q.allocationId ≠ a.allocationId ∧
        ¬(q.cashReceiptId = a.cashReceiptId ∧ q.facilityId = a.facilityId)) ∧
      db' = { db with allocations := db.allocations ++ [a] } := by
  unfold insertAllocation at h
  split at h
  · cases h
  · obtain ⟨_, -, hok⟩ := bind_eq_ok.mp h
    obtain ⟨_, hvalues, hok⟩ := bind_eq_ok.mp hok
    obtain ⟨_, -, hok⟩ := bind_eq_ok.mp hok
    obtain ⟨_, hunique, hok⟩ := bind_eq_ok.mp hok
    cases hok
    have hvalues := revertIf_eq_ok.mp hvalues
    push Not at hvalues
    refine ⟨⟨hvalues.2.1, hvalues.1⟩, ?_, rfl⟩
    intro q hq
    have := revertIf_eq_ok.mp hunique
    push Not at this
    exact ⟨(this q hq).1, fun h => (this q hq).2 h.1 h.2⟩

theorem createReceipt_effect {reference : String} {fact : ReceiptFact} {route : DestinationRoute}
    (h : db.createReceipt reference fact route = .ok (result, db')) :
    CashEffect db (.receipt reference fact route none) db' ∧
      result.entityId = some fact.cashReceiptId ∧ fact.row route ∈ db'.receipts := by
  obtain ⟨mid, hinsert, hok⟩ := bind_eq_ok.mp h
  obtain ⟨hamount, hnew, rfl⟩ := insertReceipt_ok hinsert
  simp only at hok
  split at hok
  · cases hok
    exact ⟨.received hamount hnew rfl rfl rfl rfl, rfl,
      List.mem_append_right _ (List.mem_singleton_self _)⟩
  · cases hok
    exact ⟨.received hamount hnew rfl rfl rfl rfl, rfl,
      List.mem_append_right _ (List.mem_singleton_self _)⟩

/-- The answer names the receipt of the fact: a new one, or the one that was read. -/
def ReceiptNamed (db : CashDb) (fact : ReceiptFact) (existing : Option CashReceipt) (id : String)
    (db' : CashDb) : Prop :=
  (existing = none ∧ ∃ r ∈ db'.receipts, r.cashReceiptId = id ∧ r.key = fact.key) ∨
    ∃ r, existing = some r ∧ r.cashReceiptId = id ∧ db'.receipts = db.receipts

/-- What the call leaves, and what an answer with an id says. -/
theorem recordReceipt_effect {reference : String} {fact : ReceiptFact} {route : DestinationRoute}
    {existing : Option CashReceipt}
    (h : db.recordReceipt reference fact route existing = .ok (result, db')) :
    CashEffect db (.receipt reference fact route existing) db' ∧
      (∀ id, result.entityId = some id → ReceiptNamed db fact existing id db') := by
  have hblocked : ∀ {code : String} {entityId : String},
      (pure (db.block code "cash_receipts" entityId) : Except LedgerError _) = .ok (result, db') →
      CashEffect db (.receipt reference fact route existing) db' ∧
        (∀ id, result.entityId = some id → ReceiptNamed db fact existing id db') := by
    intro code entityId hblock
    cases hblock
    exact ⟨.quiet rfl rfl rfl rfl, nofun⟩
  unfold recordReceipt at h
  simp only at h
  split at h
  · exact hblocked h
  · split at h
    · cases h
      exact ⟨.quiet rfl rfl rfl rfl, nofun⟩
    · split at h
      · exact hblocked h
      · split at h
        · exact hblocked h
        · obtain ⟨_, -, hok⟩ := bind_eq_ok.mp h
          split at hok
          · exact hblocked hok
          · cases existing with
            | some row =>
              simp only at hok
              split at hok
              · cases hok
                exact ⟨.quiet rfl rfl rfl rfl, fun id hid => .inr ⟨row, rfl, Option.some.inj hid, rfl⟩⟩
              · exact hblocked hok
            | none =>
              obtain ⟨heffect, hentity, hmem⟩ := createReceipt_effect hok
              refine ⟨heffect, fun id hid => .inl ⟨rfl, _, hmem, ?_, rfl⟩⟩
              exact Option.some.inj (hentity.symm.trans hid)

theorem facility_id {id : String} {f : Facility} (h : db.facility id = some f) :
    f.facilityId = id := by
  have := List.find?_some h
  simpa using this

theorem allocation_some {cashReceiptId facilityId : String} {a : Allocation}
    (h : db.allocation cashReceiptId facilityId = some a) :
    a ∈ db.allocations ∧ a.cashReceiptId = cashReceiptId ∧ a.facilityId = facilityId := by
  have := List.find?_some h
  simp only [Bool.and_eq_true, beq_iff_eq] at this
  exact ⟨List.mem_of_find?_eq_some h, this.1, this.2⟩

theorem createAllocation_effect {reference : String} {fact : AllocationFact} {receipt : CashReceipt}
    {facility : Facility} (hstate : receipt.cashState ≠ .RETURNED)
    (hfacility : facility.facilityId = fact.facilityId)
    (h : db.createAllocation reference fact receipt facility = .ok (result, db')) :
    CashEffect db (.allocation reference fact (some receipt)) db' ∧
      (result.entityId.isSome = true → fact.row receipt facility ∈ db'.allocations) := by
  unfold createAllocation at h
  simp only at h
  split at h
  · cases h
    exact ⟨.quiet rfl rfl rfl rfl, nofun⟩
  · rename_i hwithin
    obtain ⟨mid, hinsert, hok⟩ := bind_eq_ok.mp h
    obtain ⟨⟨hpositive, hsplit⟩, hnew, rfl⟩ := insertAllocation_ok hinsert
    cases hok
    refine ⟨.allocated hstate hfacility hpositive hsplit (not_lt.mp hwithin) hnew ?_ ?_ ?_ ?_,
      fun _ => ?_⟩
    · show (ite _ _ _ : CashDb).receipts = _
      split <;> rfl
    · show (ite _ _ _ : CashDb).allocations = _
      split <;> rfl
    · show (ite _ _ _ : CashDb).settlements = _
      split <;> rfl
    · show emit (ite _ _ _ : CashDb).outbox _ = _
      split <;> rfl
    · show _ ∈ (ite _ _ _ : CashDb).allocations
      split <;> exact List.mem_append_right _ (List.mem_singleton_self _)

/-- What the call leaves, and what an answer with an id says. -/
theorem recordAllocation_effect {reference : String} {fact : AllocationFact}
    {receipt : Option CashReceipt}
    (h : db.recordAllocation reference fact receipt = .ok (result, db')) :
    CashEffect db (.allocation reference fact receipt) db' ∧
      (result.entityId.isSome = true → ∃ r a, receipt = some r ∧ a ∈ db'.allocations ∧
        a.cashReceiptId = r.cashReceiptId ∧ a.facilityId = fact.facilityId) := by
  have hblocked : ∀ {code table entityId : String},
      (pure (db.block code table entityId) : Except LedgerError _) = .ok (result, db') →
      CashEffect db (.allocation reference fact receipt) db' ∧
        (result.entityId.isSome = true → ∃ r a, receipt = some r ∧ a ∈ db'.allocations ∧
          a.cashReceiptId = r.cashReceiptId ∧ a.facilityId = fact.facilityId) := by
    intro code table entityId hblock
    cases hblock
    exact ⟨.quiet rfl rfl rfl rfl, nofun⟩
  unfold recordAllocation at h
  split at h
  · exact hblocked h
  · rename_i receipt
    split at h
    · exact hblocked h
    · split at h
      · cases h
        exact ⟨.quiet rfl rfl rfl rfl, nofun⟩
      · split at h
        · exact hblocked h
        · rename_i facility hget
          have hfacility := facility_id hget
          split at h
          · exact hblocked h
          · split at h
            · exact hblocked h
            · split at h
              · exact hblocked h
              · rename_i hallocatable
                split at h
                · cases h
                  exact ⟨.quiet rfl rfl rfl rfl, nofun⟩
                · obtain ⟨other, -, hok⟩ := bind_eq_ok.mp h
                  split at hok
                  · exact hblocked hok
                  · split at hok
                    · rename_i existing hexisting
                      obtain ⟨hmem, hreceipt, hsame⟩ := allocation_some hexisting
                      split at hok
                      · cases hok
                        exact ⟨.quiet rfl rfl rfl rfl, fun _ =>
                          ⟨receipt, existing, rfl, hmem, hreceipt, hsame.trans hfacility⟩⟩
                      · exact hblocked hok
                    · obtain ⟨heffect, hmem⟩ := createAllocation_effect
                        (fun hbad => hallocatable (.inl hbad)) hfacility hok
                      exact ⟨heffect, fun hid => ⟨receipt, _, rfl, hmem hid, rfl, hfacility⟩⟩

end CashDb

theorem CashCall.run_effect (h : c.run db = .ok (result, db')) : CashEffect db c db' := by
  cases c with
  | receipt => exact (CashDb.recordReceipt_effect h).1
  | allocation => exact (CashDb.recordAllocation_effect h).1

/-! ### What holds of the tables -/

/-- The amounts of receipts and allocations agree, and no cash stands twice. -/
structure CashDb.Conserved (db : CashDb) : Prop where
  /-- One receipt for a log. -/
  keys : (db.receipts.map CashReceipt.key).Nodup
  /-- No receipt is allocated beyond its amount. -/
  within : ∀ r ∈ db.receipts, db.allocated r.cashReceiptId ≤ r.amount
  /-- A receipt that was not sent back is `ALLOCATED` exactly when all of it is. -/
  state : ∀ r ∈ db.receipts, r.cashState ≠ .RETURNED →
    (r.cashState = .ALLOCATED ↔ db.allocated r.cashReceiptId = r.amount)
  /-- One allocation of a receipt to a facility. -/
  pairs : (db.allocations.map fun a => (a.cashReceiptId, a.facilityId)).Nodup
  /-- The parts of an allocation are what it received. -/
  split : ∀ a ∈ db.allocations,
    a.feePaid + a.interestPaid + a.principalPaid + a.excess = a.received

/-- What the writes rely on beyond that. -/
structure CashDb.Sound (db : CashDb) : Prop extends db.Conserved where
  ids : (db.receipts.map CashReceipt.cashReceiptId).Nodup
  funded : ∀ a ∈ db.allocations, ∃ r ∈ db.receipts, r.cashReceiptId = a.cashReceiptId

/-- Everything of a receipt but its state. -/
def CashReceipt.core (r : CashReceipt) : CashReceipt := { r with cashState := .DESTINATION_RECEIVED }

namespace CashDb

theorem allocated_append {a : Allocation} {id : String}
    (h : db'.allocations = db.allocations ++ [a]) :
    db'.allocated id = db.allocated id + if a.cashReceiptId = id then a.received else 0 := by
  unfold allocated
  rw [h, List.filter_append, List.map_append, List.sum_append]
  congr 1
  by_cases hid : a.cashReceiptId = id <;> simp [hid]

theorem allocated_congr {id : String} (h : db'.allocations = db.allocations) :
    db'.allocated id = db.allocated id := by
  unfold allocated
  rw [h]

theorem mem_setCashState {id : String} {state : CashState} {r : CashReceipt}
    (h : r ∈ (db.setCashState id state).receipts) :
    ∃ q ∈ db.receipts, (q.cashReceiptId = id ∧ r = { q with cashState := state }) ∨
      (q.cashReceiptId ≠ id ∧ r = q) := by
  obtain ⟨q, hq, rfl⟩ := List.mem_map.mp h
  refine ⟨q, hq, ?_⟩
  by_cases hid : q.cashReceiptId = id
  · exact .inl ⟨hid, if_pos hid⟩
  · exact .inr ⟨hid, if_neg hid⟩

/-- A state that is set changes no key and no id. -/
theorem map_setCashState {β : Type} {id : String} {state : CashState} {f : CashReceipt → β}
    (hf : ∀ r : CashReceipt, f { r with cashState := state } = f r) :
    (db.setCashState id state).receipts.map f = db.receipts.map f := by
  show (db.receipts.map _).map f = _
  rw [List.map_map]
  refine List.map_congr_left fun r _ => ?_
  show f (if r.cashReceiptId = id then { r with cashState := state } else r) = f r
  split
  · exact hf r
  · rfl

theorem allocated_zero {id : String} (h : ∀ a ∈ db.allocations, a.cashReceiptId ≠ id) :
    db.allocated id = 0 := by
  have hnone : (db.allocations.filter fun a => a.cashReceiptId = id) = [] :=
    List.filter_eq_nil_iff.mpr fun a ha => by simpa using h a ha
  unfold allocated
  rw [hnone]
  rfl

/-- The tables stay sound when a receipt is marked as sent back. -/
theorem Sound.markReturned {id : String} (h : db.Sound) : (db.setCashState id .RETURNED).Sound where
  keys := by
    rw [map_setCashState fun _ => rfl]
    exact h.keys
  ids := by
    rw [map_setCashState fun _ => rfl]
    exact h.ids
  pairs := h.pairs
  split := h.split
  within := by
    intro r hr
    obtain ⟨q, hq, ⟨-, rfl⟩ | ⟨-, rfl⟩⟩ := mem_setCashState hr
    · exact h.within q hq
    · exact h.within r hq
  state := by
    intro r hr hreturned
    obtain ⟨q, hq, ⟨-, rfl⟩ | ⟨-, rfl⟩⟩ := mem_setCashState hr
    · exact absurd rfl hreturned
    · exact h.state r hq hreturned
  funded := by
    intro a ha
    obtain ⟨r, hr, hid⟩ := h.funded a ha
    have hids : r.cashReceiptId ∈
        (db.setCashState id .RETURNED).receipts.map CashReceipt.cashReceiptId := by
      rw [map_setCashState fun _ => rfl]
      exact List.mem_map_of_mem hr
    obtain ⟨r', hr', hsame⟩ := List.mem_map.mp hids
    exact ⟨r', hr', hsame.trans hid⟩

/-- A state that is set to what it is changes nothing. -/
theorem setCashState_self {receipt : CashReceipt} (hids : (db.receipts.map CashReceipt.cashReceiptId).Nodup)
    (hmem : receipt ∈ db.receipts) :
    (db.setCashState receipt.cashReceiptId receipt.cashState).receipts = db.receipts := by
  show db.receipts.map _ = _
  refine (List.map_congr_left fun r hr => ?_).trans (List.map_id _)
  by_cases hid : r.cashReceiptId = receipt.cashReceiptId
  · obtain rfl : r = receipt := List.inj_on_of_nodup_map hids hr hmem hid
    exact if_pos rfl
  · exact if_neg hid

/-- The tables stay sound when an allocation is put that fits, and its receipt is left in the state
that the allocations ask for. -/
theorem Sound.addAllocation {a : Allocation} {receipt : CashReceipt} {state : CashState}
    (h : db.Sound) (hmem : receipt ∈ db.receipts) (hreceipt : a.cashReceiptId = receipt.cashReceiptId)
    (hwithin : db.allocated receipt.cashReceiptId + a.received ≤ receipt.amount)
    (hstate : state = .ALLOCATED ↔
      db.allocated receipt.cashReceiptId + a.received = receipt.amount)
    (hsplit : a.feePaid + a.interestPaid + a.principalPaid + a.excess = a.received)
    (hnew : ∀ q ∈ db.allocations,
      ¬(q.cashReceiptId = a.cashReceiptId ∧ q.facilityId = a.facilityId))
    (hreceipts : db'.receipts = (db.setCashState receipt.cashReceiptId state).receipts)
    (hallocations : db'.allocations = db.allocations ++ [a]) : db'.Sound := by
  have hsum : ∀ id, db'.allocated id =
      db.allocated id + if receipt.cashReceiptId = id then a.received else 0 := by
    intro id
    rw [allocated_append hallocations, hreceipt]
  -- The receipt of the allocation is the only one that the new sum and the new state concern.
  have hrow : ∀ r ∈ db'.receipts,
      (r.cashState = state ∧ r.amount = receipt.amount ∧ db'.allocated r.cashReceiptId =
        db.allocated receipt.cashReceiptId + a.received) ∨
      (r ∈ db.receipts ∧ db'.allocated r.cashReceiptId = db.allocated r.cashReceiptId) := by
    intro r hr
    rw [hreceipts] at hr
    obtain ⟨q, hq, ⟨hid, rfl⟩ | ⟨hid, rfl⟩⟩ := mem_setCashState hr
    · obtain rfl : q = receipt := List.inj_on_of_nodup_map h.ids hq hmem hid
      exact .inl ⟨rfl, rfl, by rw [hsum, if_pos rfl]⟩
    · exact .inr ⟨hq, by rw [hsum, if_neg (Ne.symm hid), add_zero]⟩
  refine ⟨⟨?_, ?_, ?_, ?_, ?_⟩, ?_, ?_⟩
  · rw [hreceipts, map_setCashState fun _ => rfl]
    exact h.keys
  · intro r hr
    rcases hrow r hr with ⟨-, hamount, heq⟩ | ⟨hold, heq⟩
    · rw [heq, hamount]
      exact hwithin
    · rw [heq]
      exact h.within r hold
  · intro r hr hreturned
    rcases hrow r hr with ⟨hnow, hamount, heq⟩ | ⟨hold, heq⟩
    · rw [heq, hamount, hnow]
      exact hstate
    · rw [heq]
      exact h.state r hold hreturned
  · rw [hallocations, List.map_append, List.nodup_append]
    refine ⟨h.pairs, by simp, fun p hp q hq hpq => ?_⟩
    obtain ⟨b, hb, rfl⟩ := List.mem_map.mp hp
    rw [List.map_singleton, List.mem_singleton] at hq
    have hpair := hpq.trans hq
    exact hnew b hb ⟨congrArg Prod.fst hpair, congrArg Prod.snd hpair⟩
  · intro b hb
    rw [hallocations] at hb
    rcases List.mem_append.mp hb with hb | hb
    · exact h.split b hb
    · rw [List.mem_singleton.mp hb]
      exact hsplit
  · rw [hreceipts, map_setCashState fun _ => rfl]
    exact h.ids
  · intro b hb
    rw [hallocations] at hb
    obtain ⟨r, hr, hid⟩ : ∃ r ∈ db.receipts, r.cashReceiptId = b.cashReceiptId := by
      rcases List.mem_append.mp hb with hb | hb
      · exact h.funded b hb
      · rw [List.mem_singleton.mp hb]
        exact ⟨receipt, hmem, hreceipt.symm⟩
    have hids : r.cashReceiptId ∈ db'.receipts.map CashReceipt.cashReceiptId := by
      rw [hreceipts, map_setCashState fun _ => rfl]
      exact List.mem_map_of_mem hr
    obtain ⟨r', hr', hsame⟩ := List.mem_map.mp hids
    exact ⟨r', hr', hsame.trans hid⟩

/-- The tables stay sound when a receipt is put for a new log. -/
theorem Sound.addReceipt {r : CashReceipt} (h : db.Sound) (hamount : 0 < r.amount)
    (hstate : r.cashState = .DESTINATION_RECEIVED)
    (hnew : ∀ q ∈ db.receipts, q.cashReceiptId ≠ r.cashReceiptId ∧ q.key ≠ r.key)
    (hreceipts : db'.receipts = db.receipts ++ [r])
    (hallocations : db'.allocations = db.allocations) : db'.Sound := by
  have hnothing : db'.allocated r.cashReceiptId = 0 := by
    rw [allocated_congr hallocations]
    refine allocated_zero fun a ha hid => ?_
    obtain ⟨q, hq, hsame⟩ := h.funded a ha
    exact (hnew q hq).1 (hsame.trans hid)
  have hnodup : ∀ {β : Type} {f : CashReceipt → β}, (db.receipts.map f).Nodup →
      (∀ q ∈ db.receipts, f q ≠ f r) → (db'.receipts.map f).Nodup := by
    intro β f hold hfresh
    rw [hreceipts, List.map_append, List.nodup_append]
    refine ⟨hold, by simp, fun x hx y hy hxy => ?_⟩
    obtain ⟨q, hq, rfl⟩ := List.mem_map.mp hx
    rw [List.map_singleton, List.mem_singleton] at hy
    exact hfresh q hq (hxy.trans hy)
  refine ⟨⟨hnodup h.keys fun q hq => (hnew q hq).2, ?_, ?_, ?_, ?_⟩,
    hnodup h.ids fun q hq => (hnew q hq).1, ?_⟩
  · intro q hq
    rw [hreceipts] at hq
    rcases List.mem_append.mp hq with hq | hq
    · rw [allocated_congr hallocations]
      exact h.within q hq
    · rw [List.mem_singleton.mp hq, hnothing]
      exact le_of_lt hamount
  · intro q hq hreturned
    rw [hreceipts] at hq
    rcases List.mem_append.mp hq with hq | hq
    · rw [allocated_congr hallocations]
      exact h.state q hq hreturned
    · rw [List.mem_singleton.mp hq, hnothing, hstate]
      constructor
      · nofun
      · intro hzero
        omega
  · rw [hallocations]
    exact h.pairs
  · rw [hallocations]
    exact h.split
  · rw [hallocations, hreceipts]
    intro a ha
    obtain ⟨q, hq, hid⟩ := h.funded a ha
    exact ⟨q, List.mem_append_left _ hq, hid⟩

theorem Sound.congr (h : db.Sound) (hreceipts : db'.receipts = db.receipts)
    (hallocations : db'.allocations = db.allocations) : db'.Sound := by
  have hsum : ∀ id, db'.allocated id = db.allocated id := fun id => allocated_congr hallocations
  exact ⟨⟨hreceipts ▸ h.keys, by simpa [hreceipts, hsum] using h.within,
    by simpa [hreceipts, hsum] using h.state, hallocations ▸ h.pairs, hallocations ▸ h.split⟩,
    hreceipts ▸ h.ids, by simpa [hreceipts, hallocations] using h.funded⟩

/-- Receipts stay, and nothing of them changes but the state. -/
def Keeps (db db' : CashDb) : Prop := ∀ r ∈ db.receipts, ∃ r' ∈ db'.receipts, r'.core = r.core

theorem Keeps.of_eq (h : db'.receipts = db.receipts) : db.Keeps db' :=
  fun r hr => ⟨r, h ▸ hr, rfl⟩

theorem setCashState_keeps {id : String} {state : CashState} :
    db.Keeps (db.setCashState id state) := by
  intro r hr
  refine ⟨_, List.mem_map_of_mem hr, ?_⟩
  split <;> rfl

end CashDb

/-- The receipt that the call read is the one in the tables. -/
def CashCall.Current (db : CashDb) : CashCall → Prop
  | receipt _ fact _ existing => existing = db.receiptAt fact.key
  | allocation _ fact row => row = none ∨ row = db.receipt fact.cashReceiptId

/-- A call leaves sound tables, and it keeps the receipts. -/
theorem CashDb.Sound.effect (h : db.Sound) (hcurrent : c.Current db) (heffect : CashEffect db c db') :
    db'.Sound ∧ db.Keeps db' := by
  cases heffect with
  | quiet hreceipts hallocations => exact ⟨h.congr hreceipts hallocations, .of_eq hreceipts⟩
  | received hamount hnew hreceipts hallocations =>
    refine ⟨h.addReceipt hamount rfl hnew hreceipts hallocations, fun r hr => ⟨r, ?_, rfl⟩⟩
    rw [hreceipts]
    exact List.mem_append_left _ hr
  | @allocated reference fact receipt facility _ hstate hfacility hpositive hsplit hwithin hnew
      hreceipts hallocations =>
    have hmem : receipt ∈ db.receipts := by
      rcases hcurrent with hnone | hread
      · cases hnone
      · exact List.mem_of_find?_eq_some hread.symm
    have hold := h.state receipt hmem hstate
    have hpair : ∀ q ∈ db.allocations,
        ¬(q.cashReceiptId = receipt.cashReceiptId ∧ q.facilityId = facility.facilityId) :=
      fun q hq => (hnew q hq).2
    by_cases hfull : db.allocated receipt.cashReceiptId + fact.received = receipt.amount
    · rw [if_pos hfull] at hreceipts
      refine ⟨h.addAllocation hmem rfl hwithin (iff_of_true rfl hfull) hsplit hpair hreceipts
        hallocations, fun r hr => ?_⟩
      rw [hreceipts]
      exact CashDb.setCashState_keeps r hr
    · rw [if_neg hfull] at hreceipts
      refine ⟨h.addAllocation hmem rfl hwithin (iff_of_false ?_ hfull) hsplit hpair
        (hreceipts.trans (CashDb.setCashState_self h.ids hmem).symm) hallocations, .of_eq hreceipts⟩
      intro hbad
      have := hold.mp hbad
      omega

/-! ### Calls that overlap -/

namespace CashDb

theorem receipt_id {id : String} {r : CashReceipt} (h : db.receipt id = some r) :
    r ∈ db.receipts ∧ r.cashReceiptId = id := by
  have := List.find?_some h
  exact ⟨List.mem_of_find?_eq_some h, by simpa using this⟩

theorem receiptAt_key {key : Int × HexString × Int} {r : CashReceipt}
    (h : db.receiptAt key = some r) : r ∈ db.receipts ∧ r.key = key := by
  have := List.find?_some h
  exact ⟨List.mem_of_find?_eq_some h, by simpa using this⟩

/-- A row that is not the one whose state is set is read as before. -/
theorem find_setCashState {id : String} {state : CashState} {p : CashReceipt → Bool}
    (hp : ∀ r : CashReceipt, p { r with cashState := state } = p r)
    (hother : ∀ r ∈ db.receipts.find? p, r.cashReceiptId ≠ id) :
    (db.setCashState id state).receipts.find? p = db.receipts.find? p := by
  show (db.receipts.map _).find? p = _
  rw [List.find?_map]
  have hsame : (p ∘ fun r : CashReceipt =>
      if r.cashReceiptId = id then { r with cashState := state } else r) = p := by
    funext r
    show p (ite _ _ _) = p r
    split
    · exact hp r
    · rfl
  rw [hsame]
  cases hfound : db.receipts.find? p with
  | none => rfl
  | some r => exact congrArg some (if_neg (hother r hfound))

theorem find_append {r : CashReceipt} {p : CashReceipt → Bool}
    (h : db'.receipts = db.receipts ++ [r]) (hother : p r = false ∨ db.receipts.find? p ≠ none) :
    db'.receipts.find? p = db.receipts.find? p := by
  rw [h, List.find?_append]
  cases hfound : db.receipts.find? p with
  | some q => rfl
  | none =>
    rcases hother with hr | hbad
    · simp [hr]
    · exact absurd hfound hbad

end CashDb

/-- A row whose state is set is not the row of a call that holds another one. -/
theorem CashCall.Current.setCashState {id : String} {state : CashState} (h : c.Current db)
    (hrow : ¬c.HoldsRow id) : c.Current (db.setCashState id state) := by
  cases c with
  | receipt reference fact route existing =>
    refine Eq.trans h (CashDb.find_setCashState (fun _ => rfl) fun r hr hid => hrow ?_).symm
    exact ⟨r, Eq.trans h hr, hid⟩
  | allocation reference fact row =>
    rcases h with hnone | hread
    · exact .inl hnone
    · refine .inr (hread.trans (CashDb.find_setCashState (fun _ => rfl) fun r hr hid => hrow ?_).symm)
      exact ⟨r, hread.trans hr, hid⟩

theorem CashCall.Current.congr (h : c.Current db) (hreceipts : db'.receipts = db.receipts) :
    c.Current db' := by
  cases c with
  | receipt =>
    show _ = db'.receipts.find? _
    rw [hreceipts]
    exact h
  | allocation =>
    show _ ∨ _ = db'.receipts.find? _
    rw [hreceipts]
    exact h

/-- What a call writes is not what another one has locked. -/
theorem CashCall.Current.effect (h : c'.Current db) (heffect : CashEffect db c db')
    (hkey : ∀ key, c.HoldsKey key → ¬c'.HoldsKey key) (hrow : ∀ id, c.HoldsRow id → ¬c'.HoldsRow id) :
    c'.Current db' := by
  cases heffect with
  | quiet hreceipts => exact h.congr hreceipts
  | @received reference fact route _ _ _ hreceipts =>
    cases c' with
    | receipt _ fact' _ existing =>
      have hother : fact'.key ≠ fact.key := hkey fact.key rfl
      refine Eq.trans h (CashDb.find_append hreceipts (.inl ?_)).symm
      show ((fact.row route).key == fact'.key) = false
      exact beq_false_of_ne (Ne.symm hother)
    | allocation _ fact' row =>
      cases row with
      | none => exact .inl rfl
      | some r =>
        rcases h with hnone | hread
        · cases hnone
        · refine .inr (hread.trans (CashDb.find_append hreceipts (.inr ?_)).symm)
          rw [show db.receipts.find? _ = some r from hread.symm]
          nofun
  | @allocated _ _ receipt _ _ _ _ _ _ _ _ hreceipts =>
    split at hreceipts
    · exact (h.setCashState (hrow receipt.cashReceiptId ⟨receipt, rfl, rfl⟩)).congr hreceipts
    · exact h.congr hreceipts

namespace Reconciliation

variable {s s' : Reconciliation} {t u : Nat}

/-- The tables are sound, each call holds what it read, and no lock has two holders. -/
structure Inv (s : Reconciliation) : Prop where
  sound : s.db.Sound
  current : ∀ t c, s.calls t = some c → c.Current s.db
  keys : ∀ t u c c', t ≠ u → s.calls t = some c → s.calls u = some c' →
    ∀ key, c.HoldsKey key → ¬c'.HoldsKey key
  rows : ∀ t u c c', t ≠ u → s.calls t = some c → s.calls u = some c' →
    ∀ id, c.HoldsRow id → ¬c'.HoldsRow id

theorem calls_stop {v : Nat} {c : CashCall} (h : Function.update s.calls t none v = some c) :
    v ≠ t ∧ s.calls v = some c := by
  by_cases hv : v = t
  · subst hv
    rw [Function.update_self] at h
    cases h
  · rw [Function.update_of_ne hv] at h
    exact ⟨hv, h⟩

/-- A call that starts when its locks are free. -/
theorem Inv.start (h : s.Inv) (hcurrent : c.Current s.db)
    (hkey : ∀ u c', s.calls u = some c' → ∀ key, c.HoldsKey key → ¬c'.HoldsKey key)
    (hrow : ∀ u c', s.calls u = some c' → ∀ id, c.HoldsRow id → ¬c'.HoldsRow id) :
    Inv { s with calls := Function.update s.calls t (some c) } := by
  have hcases : ∀ v d, Function.update s.calls t (some c) v = some d →
      (v = t ∧ d = c) ∨ (v ≠ t ∧ s.calls v = some d) := by
    intro v d hd
    by_cases hv : v = t
    · subst hv
      rw [Function.update_self] at hd
      exact .inl ⟨rfl, (Option.some.inj hd).symm⟩
    · rw [Function.update_of_ne hv] at hd
      exact .inr ⟨hv, hd⟩
  refine ⟨h.sound, ?_, ?_, ?_⟩
  · intro v d hd
    rcases hcases v d hd with ⟨-, rfl⟩ | ⟨-, hold⟩
    · exact hcurrent
    · exact h.current v d hold
  · intro v w d e hvw hd he key hheld hbad
    rcases hcases v d hd with ⟨hv, rfl⟩ | ⟨-, hd'⟩ <;>
      rcases hcases w e he with ⟨hw, rfl⟩ | ⟨-, he'⟩
    · exact hvw (hv.trans hw.symm)
    · exact hkey w e he' key hheld hbad
    · exact hkey v d hd' key hbad hheld
    · exact h.keys v w d e hvw hd' he' key hheld hbad
  · intro v w d e hvw hd he id hheld hbad
    rcases hcases v d hd with ⟨hv, rfl⟩ | ⟨-, hd'⟩ <;>
      rcases hcases w e he with ⟨hw, rfl⟩ | ⟨-, he'⟩
    · exact hvw (hv.trans hw.symm)
    · exact hrow w e he' id hheld hbad
    · exact hrow v d hd' id hbad hheld
    · exact h.rows v w d e hvw hd' he' id hheld hbad

/-- A call that ends, with what it leaves to the others. -/
theorem Inv.stop {db : CashDb} (h : s.Inv) (hsound : db.Sound)
    (hcurrent : ∀ u c', u ≠ t → s.calls u = some c' → c'.Current db) :
    Inv { db := db, calls := Function.update s.calls t none } where
  sound := hsound
  current := by
    intro v d hd
    obtain ⟨hv, hold⟩ := calls_stop hd
    exact hcurrent v d hv hold
  keys := by
    intro v w d e hvw hd he
    exact h.keys v w d e hvw (calls_stop hd).2 (calls_stop he).2
  rows := by
    intro v w d e hvw hd he
    exact h.rows v w d e hvw (calls_stop hd).2 (calls_stop he).2

theorem initial_inv (db : CashDb) : (initial db).Inv where
  sound := {
    keys := List.nodup_nil
    within := fun _ hr => absurd hr List.not_mem_nil
    state := fun _ hr => absurd hr List.not_mem_nil
    pairs := List.nodup_nil
    split := fun _ ha => absurd ha List.not_mem_nil
    ids := List.nodup_nil
    funded := fun _ ha => absurd ha List.not_mem_nil }
  current := fun _ _ hc => by cases hc
  keys := fun _ _ _ _ _ hc => by cases hc
  rows := fun _ _ _ _ _ hc => by cases hc

/-- What a step does to the tables: receipts keep all but their state, and allocations stay. -/
def Grows (db db' : CashDb) : Prop := db.Keeps db' ∧ ∀ a ∈ db.allocations, a ∈ db'.allocations

theorem Grows.of_eq {db db' : CashDb} (hreceipts : db'.receipts = db.receipts)
    (hallocations : db'.allocations = db.allocations) : Grows db db' :=
  ⟨.of_eq hreceipts, fun _ ha => hallocations ▸ ha⟩

theorem Grows.trans {db₁ db₂ db₃ : CashDb} (h : Grows db₁ db₂) (h' : Grows db₂ db₃) :
    Grows db₁ db₃ := by
  refine ⟨fun r hr => ?_, fun a ha => h'.2 a (h.2 a ha)⟩
  obtain ⟨q, hq, hcore⟩ := h.1 r hr
  obtain ⟨p, hp, hcore'⟩ := h'.1 q hq
  exact ⟨p, hp, hcore'.trans hcore⟩

theorem effect_grows {db db' : CashDb} (h : db.Sound) (hcurrent : c.Current db)
    (heffect : CashEffect db c db') : Grows db db' := by
  refine ⟨(h.effect hcurrent heffect).2, ?_⟩
  cases heffect with
  | quiet _ hallocations => exact fun _ ha => hallocations ▸ ha
  | received _ _ _ hallocations => exact fun _ ha => hallocations ▸ ha
  | allocated _ _ _ _ _ _ _ hallocations =>
    intro a ha
    rw [hallocations]
    exact List.mem_append_left _ ha

/-- One step of any worker. -/
theorem Inv.step {action : CashAction} (h : s.Inv) (hstep : CashStep s action s') :
    s'.Inv ∧ Grows s.db s'.db := by
  cases hstep with
  | @readReceipt t reference fact route hidle hchecked hkey hrow =>
    refine ⟨h.start rfl ?_ ?_, .of_eq rfl rfl⟩
    · rintro u c' hu key rfl
      exact hkey u c' hu
    · rintro u c' hu id ⟨r, hr, rfl⟩
      exact hrow r hr u c' hu
  | @readAllocation t reference fact hidle hchecked hrow =>
    refine ⟨h.start (.inr rfl) ?_ ?_, .of_eq rfl rfl⟩
    · intro u c' hu key hheld
      cases hheld
    · rintro u c' hu id ⟨r, hr, rfl⟩
      exact hrow r hr u c' hu
  | @commit t c result db hcall hrun =>
    have hcurrent := h.current t c hcall
    have heffect := CashCall.run_effect hrun
    refine ⟨h.stop (h.sound.effect hcurrent heffect).1 ?_, effect_grows h.sound hcurrent heffect⟩
    intro u c' hu hc'
    exact (h.current u c' hc').effect heffect (h.keys t u c c' (Ne.symm hu) hcall hc')
      (h.rows t u c c' (Ne.symm hu) hcall hc')
  | rollback => exact ⟨h.stop h.sound fun u c' _ hc' => h.current u c' hc', .of_eq rfl rfl⟩
  | crash => exact ⟨h.stop h.sound fun u c' _ hc' => h.current u c' hc', .of_eq rfl rfl⟩
  | others hreceipts hallocations =>
    exact ⟨⟨h.sound.congr hreceipts hallocations,
      fun t c hc => (h.current t c hc).congr hreceipts, h.keys, h.rows⟩,
      .of_eq hreceipts hallocations⟩
  | @returned id hrow =>
    refine ⟨⟨h.sound.markReturned, ?_, h.keys, h.rows⟩, CashDb.setCashState_keeps, fun _ ha => ha⟩
    intro t c hc
    refine (h.current t c hc).setCashState ?_
    rintro ⟨r, hr, rfl⟩
    -- The row that the call holds is in the tables, so its lock is not free.
    have hmem : r ∈ s.db.receipts := by
      cases c with
      | receipt _ fact _ existing =>
        have hread : existing = s.db.receiptAt fact.key := h.current t _ hc
        exact (CashDb.receiptAt_key (hread.symm.trans hr)).1
      | allocation _ fact row =>
        rcases h.current t _ hc with hnone | hread
        · rw [show row = some r from hr] at hnone
          cases hnone
        · exact (CashDb.receipt_id (hread.symm.trans hr)).1
    cases hfound : s.db.receipt r.cashReceiptId with
    | none =>
      have := List.find?_eq_none.mp hfound r hmem
      simp at this
    | some q =>
      refine hrow q hfound t c hc ⟨r, hr, ?_⟩
      exact (CashDb.receipt_id hfound).2.symm

theorem Inv.run {actions : List CashAction} (h : s.Inv) (hrun : Steps CashStep s actions s') :
    s'.Inv ∧ Grows s.db s'.db := by
  induction hrun with
  | nil => exact ⟨h, .of_eq rfl rfl⟩
  | cons hstep _ ih =>
    obtain ⟨hmid, hgrows⟩ := h.step hstep
    obtain ⟨hend, hgrows'⟩ := ih hmid
    exact ⟨hend, hgrows.trans hgrows'⟩

end Reconciliation

/-! ### Facts that come again -/

/-- The fact that a call is about. -/
def CashCall.fact : CashCall → ReceiptFact ⊕ AllocationFact
  | receipt _ fact _ _ => .inl fact
  | allocation _ fact _ => .inr fact

/-- The call ends well: its answer names the receipt or the allocation of its fact. -/
def Reconciliation.Accepts (s : Reconciliation) (t : Nat) (c : CashCall) (s' : Reconciliation) :
    Prop :=
  s.calls t = some c ∧ ∃ result db, c.run s.db = .ok (result, db) ∧
    result.entityId.isSome = true ∧ s' = { db := db, calls := Function.update s.calls t none }

/-- The receipt or the allocation of a fact is in the tables. -/
def CashDb.Holds (db : CashDb) : ReceiptFact ⊕ AllocationFact → Prop
  | .inl fact => ∃ r ∈ db.receipts, r.key = fact.key
  | .inr fact => ∃ a ∈ db.allocations,
      a.cashReceiptId = fact.cashReceiptId ∧ a.facilityId = fact.facilityId

theorem CashReceipt.key_of_core {r r' : CashReceipt} (h : r'.core = r.core) : r'.key = r.key := by
  show r'.core.key = r.core.key
  rw [h]

theorem CashDb.Holds.grows {fact : ReceiptFact ⊕ AllocationFact} (h : db.Holds fact)
    (hgrows : Reconciliation.Grows db db') : db'.Holds fact := by
  cases fact with
  | inl fact =>
    obtain ⟨r, hr, hkey⟩ := h
    obtain ⟨r', hr', hcore⟩ := hgrows.1 r hr
    exact ⟨r', hr', (CashReceipt.key_of_core hcore).trans hkey⟩
  | inr fact =>
    obtain ⟨a, ha, hpair⟩ := h
    exact ⟨a, hgrows.2 a ha, hpair⟩

namespace Reconciliation

variable {s s' : Reconciliation} {t : Nat}

/-- A call that ends well leaves the receipt or the allocation of its fact. -/
theorem Inv.accepted (h : s.Inv) (haccepts : s.Accepts t c s') :
    CashStep s (.finish t) s' ∧ s'.db.Holds c.fact := by
  obtain ⟨hcall, result, db, hrun, hid, rfl⟩ := haccepts
  have hstep := CashStep.commit hcall hrun
  refine ⟨hstep, ?_⟩
  have hcurrent := h.current t c hcall
  obtain ⟨-, hgrows⟩ := h.step hstep
  cases c with
  | receipt reference fact route existing =>
    obtain ⟨id, hid⟩ := Option.isSome_iff_exists.mp hid
    rcases (CashDb.recordReceipt_effect hrun).2 id hid with ⟨-, r, hr, -, hkey⟩ | ⟨r, rfl, -, -⟩
    · exact ⟨r, hr, hkey⟩
    · have hread : some r = s.db.receiptAt fact.key := hcurrent
      have hold : s.db.Holds (.inl fact) := ⟨r, CashDb.receiptAt_key hread.symm⟩
      exact hold.grows hgrows
  | allocation reference fact row =>
    obtain ⟨-, hnamed⟩ := CashDb.recordAllocation_effect hrun
    obtain ⟨r, a, rfl, ha, hreceipt, hfacility⟩ := hnamed hid
    refine ⟨a, ha, ?_, hfacility⟩
    rcases hcurrent with hnone | hread
    · cases hnone
    · exact hreceipt.trans (CashDb.receipt_id hread.symm).2

/-- A call about a fact that is in the tables writes no receipt and no allocation. -/
theorem Inv.finish_held (h : s.Inv) (hcall : s.calls t = some c) (hheld : s.db.Holds c.fact)
    (hstep : CashStep s (.finish t) s') :
    s'.db.receipts = s.db.receipts ∧ s'.db.allocations = s.db.allocations := by
  cases hstep with
  | rollback => exact ⟨rfl, rfl⟩
  | @commit _ c' result db hcall' hrun =>
    rw [hcall] at hcall'
    cases hcall'
    have hcurrent := h.current t c hcall
    cases CashCall.run_effect hrun with
    | quiet hreceipts hallocations => exact ⟨hreceipts, hallocations⟩
    | @received _ fact _ _ _ hnew =>
      obtain ⟨r, hr, hkey⟩ := hheld
      exact absurd hkey (hnew r hr).2
    | @allocated _ fact receipt facility _ _ hfacility _ _ _ hnew =>
      obtain ⟨a, ha, hreceipt, hsame⟩ := hheld
      refine absurd ⟨?_, hsame.trans hfacility.symm⟩ (hnew a ha).2
      rcases hcurrent with hnone | hread
      · cases hnone
      · exact hreceipt.trans (CashDb.receipt_id hread.symm).2.symm

end Reconciliation

/-- In every run of calls that overlap: the amounts of receipts and allocations agree and no log has
two receipts, a receipt keeps everything but its state, and a fact that was accepted changes no
receipt and no allocation when it comes again. -/
theorem cash_is_conservative {db : CashDb} {actions : List CashAction} {s : Reconciliation}
    (hrun : Steps CashStep (.initial db) actions s) :
    s.db.Conserved ∧
    (∀ more s', Steps CashStep s more s' →
      ∀ r ∈ s.db.receipts, ∃ r' ∈ s'.db.receipts, r'.core = r.core) ∧
    ∀ t c s₁ more s₂ u c' s₃, s.Accepts t c s₁ → Steps CashStep s₁ more s₂ →
      s₂.calls u = some c' → c'.fact = c.fact → CashStep s₂ (.finish u) s₃ →
      s₃.db.receipts = s₂.db.receipts ∧ s₃.db.allocations = s₂.db.allocations := by
  obtain ⟨hinv, -⟩ := (Reconciliation.initial_inv db).run hrun
  refine ⟨hinv.sound.toConserved, ?_, ?_⟩
  · intro more s' hmore
    exact (hinv.run hmore).2.1
  · intro t c s₁ more s₂ u c' s₃ haccepts hmore hcall hfact hstep
    obtain ⟨hfirst, hheld⟩ := hinv.accepted haccepts
    obtain ⟨hinv₁, -⟩ := hinv.step hfirst
    obtain ⟨hinv₂, hgrows⟩ := hinv₁.run hmore
    refine hinv₂.finish_held hcall ?_ hstep
    rw [hfact]
    exact hheld.grows hgrows

/-! ### A payment and its allocation -/

namespace Sample

/-- The loan currency. -/
def asset : LedgerAsset := { chainId := 102031, address := some "0xusdt", decimals := 6 }

/-- One facility in it. -/
def tables : CashDb where
  settlements := []
  facilities := [⟨"FACILITY", "BORROWER", "vault-1", asset, .nativeTestnet⟩]
  accounts := []
  receipts := []
  allocations := []
  exceptions := []
  outbox := []

/-- A hash of one digit. -/
def hash (digit : Char) : HexString := '0' :: 'x' :: List.replicate 64 digit

/-- An address of one digit. -/
def address (digit : Char) : HexString := '0' :: 'x' :: List.replicate 40 digit

/-- A payment of 1200 by a known payer. -/
def payment : ReceiptFact where
  cashReceiptId := "CASH"
  asset := asset
  amount := 1200
  txHash := hash '1'
  logIndex := 0
  blockHash := hash '2'
  blockNumber := 100
  payerAddress := some (address '3')
  payeeAddress := address '4'
  sourceKind := .DIRECT_REPAYMENT
  executionProfile := .nativeTestnet
  receivedAt := 50
  canonical := true
  finalized := true
  receiptStatus := 1
  settlementId := none

/-- The route that it took. -/
def route : DestinationRoute where
  vaultId := "vault-1"
  receiverAddress := address '4'
  asset := asset
  executionProfile := .nativeTestnet

/-- All of it pays back the facility. -/
def repayment : AllocationFact where
  allocationId := "ALLOCATION"
  cashReceiptId := "CASH"
  facilityId := "FACILITY"
  received := 1200
  feePaid := 10
  interestPaid := 90
  principalPaid := 1000
  excess := 100
  newDebt := 0
  txHash := hash '5'
  chainId := 102031
  executionProfile := .nativeTestnet
  canonical := true
  finalized := true
  receiptStatus := 1

/-- No call is under way. -/
def idle (db : CashDb) : Reconciliation := { db := db, calls := fun _ => none }

/-- A call ends that nothing overlaps. -/
theorem finish_step {db db' : CashDb} {c : CashCall} {result : ReconciliationResult}
    (hrun : c.run db = .ok (result, db')) :
    CashStep { db := db, calls := Function.update (fun _ => none) 0 (some c) } (.finish 0)
      (idle db') := by
  have hcalls : Function.update (Function.update (fun _ : Nat => none) 0 (some c)) 0 none =
      fun _ => none := by
    rw [Function.update_idem]
    exact Function.update_eq_self (0 : Nat) fun _ => (none : Option CashCall)
  have hcall : Function.update (fun _ : Nat => none) 0 (some c) 0 = some c :=
    Function.update_self ..
  have hstep := CashStep.commit (t := 0)
    (s := { db := db, calls := Function.update (fun _ => none) 0 (some c) }) hcall hrun
  rwa [hcalls] at hstep

theorem idle_calls {db : CashDb} {t : Nat} {c : CashCall} : (idle db).calls t ≠ some c := by
  intro hc
  cases hc

theorem receipt_steps {db db' : CashDb} {reference : String} {fact : ReceiptFact}
    {route : DestinationRoute} {result : ReconciliationResult}
    (hchecked : fact.checked route = .ok ())
    (hrun : db.recordReceipt reference fact route (db.receiptAt fact.key) = .ok (result, db')) :
    Steps CashStep (idle db) [.readReceipt 0 reference fact route, .finish 0] (idle db') := by
  have hkey : (idle db).KeyFree fact.key := fun t c hc => absurd hc idle_calls
  have hrow : (idle db).RowFree (db.receiptAt fact.key) := fun r _ t c hc => absurd hc idle_calls
  have hfinish := finish_step (c := .receipt reference fact route (db.receiptAt fact.key)) hrun
  exact .cons (.readReceipt rfl hchecked hkey hrow) (.single hfinish)

theorem allocation_steps {db db' : CashDb} {reference : String} {fact : AllocationFact}
    {result : ReconciliationResult} (hchecked : fact.checked = .ok ())
    (hrun : db.recordAllocation reference fact (db.receipt fact.cashReceiptId) = .ok (result, db')) :
    Steps CashStep (idle db) [.readAllocation 0 reference fact, .finish 0] (idle db') := by
  have hrow : (idle db).RowFree (db.receipt fact.cashReceiptId) :=
    fun r _ t c hc => absurd hc idle_calls
  have hfinish := finish_step (c := .allocation reference fact (db.receipt fact.cashReceiptId)) hrun
  exact .cons (.readAllocation rfl hchecked hrow) (.single hfinish)

/-- The tables after the payment. -/
def received : CashDb :=
  match tables.recordReceipt "receipt" payment route (tables.receiptAt payment.key) with
  | .ok (_, db) => db
  | .error _ => tables

/-- The tables after the repayment. -/
def allocated : CashDb :=
  match received.recordAllocation "allocation" repayment (received.receipt repayment.cashReceiptId) with
  | .ok (_, db) => db
  | .error _ => received

theorem allocated_steps : Steps CashStep (.initial tables)
    ([.readReceipt 0 "receipt" payment route, .finish 0] ++
      [.readAllocation 0 "allocation" repayment, .finish 0]) (idle allocated) := by
  have hreceipt : (tables.recordReceipt "receipt" payment route
      (tables.receiptAt payment.key)).toOption = some (⟨some "CASH", true, none⟩, received) := by
    decide +kernel
  have hallocation : (received.recordAllocation "allocation" repayment
      (received.receipt repayment.cashReceiptId)).toOption =
        some (⟨some "ALLOCATION", true, none⟩, allocated) := by
    decide +kernel
  have hpayment : (payment.checked route).toOption = some () := by decide +kernel
  have hrepayment : repayment.checked.toOption = some () := by decide +kernel
  exact (receipt_steps (toOption_eq_some.mp hpayment) (toOption_eq_some.mp hreceipt)).append
    (allocation_steps (toOption_eq_some.mp hrepayment) (toOption_eq_some.mp hallocation))

end Sample

/-- The payment is received and all of it is allocated. -/
theorem cash_is_conservative_sample :
    Sample.allocated.receipts.map CashReceipt.cashState = [.ALLOCATED] ∧
      Sample.allocated.allocations.map Allocation.received = [1200] ∧ Sample.allocated.Conserved :=
  ⟨by decide +kernel, by decide +kernel, (cash_is_conservative Sample.allocated_steps).1⟩

end Rackline.Cash
