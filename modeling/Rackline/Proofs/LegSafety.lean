import Rackline.Proofs.CashConservation
import Rackline.SettlementLegs

/-!
# `Rackline.Proofs.LegSafety`: legs stay within their settlement and are paid once

What the transactions of `enqueue` and `handle` write, and what holds in every run of workers that
overlap. A plan and its job are written together, so whoever runs a job finds the plan of its leg,
and the lock of the settlement keeps the sum that a plan was checked against until the plan is
there. The reference of a leg is the one that its rail keeps for the key of the leg.
-/

set_option autoImplicit false

namespace Rackline.Legs

open Evm Cash Transition

variable {db db' db'' : LegDb} {quote quote' : Quote} {railId : String} {fresh : Bool}

/-! ### Keys -/

theorem append_inj_right {scheme x y : String} (h : scheme ++ x = scheme ++ y) : x = y := by
  have := congrArg String.toList h
  rw [String.toList_append, String.toList_append, List.append_cancel_left_eq] at this
  exact String.toList_inj.mp this

/-- Keys under two schemes differ when neither scheme continues the other. -/
theorem scheme_ne {a b x y : String} (hab : ¬a.toList <+: b.toList) (hba : ¬b.toList <+: a.toList) :
    a ++ x ≠ b ++ y := by
  intro h
  have hlists : a.toList ++ x.toList = b.toList ++ y.toList := by
    rw [← String.toList_append, ← String.toList_append, h]
  rcases List.prefix_or_prefix_of_prefix (List.prefix_append a.toList x.toList)
    (hlists ▸ List.prefix_append b.toList y.toList) with hprefix | hprefix
  · exact hab hprefix
  · exact hba hprefix

theorem plan_ne_ack {x y : String} : "settlement-plan:" ++ x ≠ "settlement-ack:" ++ y :=
  scheme_ne (by decide) (by decide)

/-- An event that is neither the plan of a leg nor an acknowledgement. -/
structure Foreign (event : OutboxEvent) : Prop where
  kind : event.eventType ≠ "SETTLEMENT_LEG_PLANNED"
  plan : ∀ name, event.idempotencyKey ≠ "settlement-plan:" ++ name
  ack : ∀ name, event.idempotencyKey ≠ "settlement-ack:" ++ name

/-- An event of another kind under another scheme. -/
theorem foreign_of {event : OutboxEvent} (kind scheme rest : String) (hkind : event.eventType = kind)
    (hkey : event.idempotencyKey = scheme ++ rest)
    (hschemes : kind ≠ "SETTLEMENT_LEG_PLANNED" ∧
      ∀ taken ∈ ["settlement-plan:", "settlement-ack:"],
        ¬scheme.toList <+: taken.toList ∧ ¬taken.toList <+: scheme.toList) : Foreign event where
  kind := hkind ▸ hschemes.1
  plan name := by
    obtain ⟨hleft, hright⟩ := hschemes.2 "settlement-plan:" (by simp)
    rw [hkey]
    exact scheme_ne hleft hright
  ack name := by
    obtain ⟨hleft, hright⟩ := hschemes.2 "settlement-ack:" (by simp)
    rw [hkey]
    exact scheme_ne hleft hright

theorem foreign_refund {reference : String} : Foreign (refundEvent railId quote reference) :=
  foreign_of "SETTLEMENT_LEG_REFUNDED" "settlement-refund:" _ rfl rfl (by decide)

theorem foreign_breach {amount : Int} : Foreign (breachEvent railId quote amount) :=
  foreign_of "SETTLEMENT_LEG_SLIPPAGE_BREACH" "settlement-slippage:" _ rfl rfl (by decide)

theorem foreign_allocated {reference id : String} :
    Foreign (allocatedEvent railId quote reference id) :=
  foreign_of "SETTLEMENT_LEG_ALLOCATED" "settlement-allocated:" _ rfl rfl (by decide)

theorem foreign_cash {fact : ReceiptFact} {reference : String} : Foreign (fact.event reference) := by
  refine foreign_of "DESTINATION_CASH_RECONCILED" "destination-cash:"
    (toString fact.asset.chainId ++ (":" ++ (String.ofList fact.txHash ++ (":" ++
      toString fact.logIndex)))) rfl ?_ (by decide)
  show fact.eventKey = _
  unfold ReceiptFact.eventKey
  simp only [String.append_assoc]

theorem foreign_allocation {fact : AllocationFact} {reference : String} {receipt : CashReceipt}
    {facility : Cash.Facility} : Foreign (fact.event reference receipt facility) := by
  refine foreign_of "CONFIRMED_REPAYMENT_RECONCILED" "cash-allocation:"
    (receipt.cashReceiptId ++ (":" ++ facility.facilityId)) rfl ?_ (by decide)
  show "cash-allocation:" ++ receipt.cashReceiptId ++ ":" ++ facility.facilityId = _
  simp only [String.append_assoc]

theorem plannedAmount_plan : plannedAmount (planEvent railId quote) = quote.sourceAmount := by
  simp [plannedAmount, planEvent, settlementEvent, Quote.payload, List.lookup_cons]

theorem ackReference_ack {reference : String} :
    ackReference (ackEvent railId quote reference) = reference := by
  simp [ackReference, ackEvent, settlementEvent]

/-- A payload tells its quote. -/
theorem payload_inj (h : quote.payload = quote'.payload) : quote = quote' := by
  cases quote
  cases quote'
  simp only [Quote.payload, List.cons.injEq, Prod.mk.injEq, PayloadValue.str.injEq,
    PayloadValue.int.injEq, true_and, and_true, String.ofList_inj] at h
  obtain ⟨rfl, rfl, rfl, rfl, rfl, rfl, rfl, rfl, rfl, rfl⟩ := h
  rfl

/-! ### Writes that leave the legs alone -/

namespace LegDb

/-- The keys of the events. -/
def keys (db : LegDb) : List String := db.cash.outbox.map OutboxEvent.idempotencyKey

theorem reserved_append {id : String} (event : OutboxEvent)
    (h : db'.cash.outbox = db.cash.outbox ++ [event]) :
    db'.reserved id = db.reserved id +
      if event.aggregateType = "settlement" ∧ event.aggregateId = id ∧
        event.eventType = "SETTLEMENT_LEG_PLANNED" then plannedAmount event else 0 := by
  unfold reserved plans
  rw [h, List.filter_append, List.map_append, List.sum_append]
  congr 1
  by_cases hplan : event.aggregateType = "settlement" ∧ event.aggregateId = id ∧
      event.eventType = "SETTLEMENT_LEG_PLANNED"
  · simp [hplan]
  · rw [if_neg hplan]
    have hfilter : (event.aggregateType == "settlement" && event.aggregateId == id &&
        event.eventType == "SETTLEMENT_LEG_PLANNED") = false := by
      simpa [and_assoc] using hplan
    simp [hfilter]

theorem reserved_congr {id : String} (h : db'.cash.outbox = db.cash.outbox) :
    db'.reserved id = db.reserved id := by
  unfold reserved plans
  rw [h]

/-- Writes that put no plan, no acknowledgement and no job, and leave the amounts of settlements. -/
structure Beside (db db' : LegDb) : Prop where
  jobs : db'.jobs = db.jobs
  amounts : db.KeepsAmounts db'
  checked : db.Checked → db'.Checked
  rows : ∀ row ∈ db.cash.outbox, row ∈ db'.cash.outbox
  foreign : ∀ row ∈ db'.cash.outbox, row ∈ db.cash.outbox ∨ Foreign row
  keys : db.keys.Nodup → db'.keys.Nodup
  reserved : ∀ id, db'.reserved id = db.reserved id
  sound : db.cash.Sound → db'.cash.Sound ∧ Reconciliation.Grows db.cash db'.cash

theorem KeepsAmounts.of_eq (h : db'.cash.settlements = db.cash.settlements) :
    db.KeepsAmounts db' := by
  intro id st hst
  refine ⟨st, ?_, rfl⟩
  show db'.cash.settlements.find? _ = some st
  rw [h]
  exact hst

theorem KeepsAmounts.trans (h : db.KeepsAmounts db') (h' : db'.KeepsAmounts db'') :
    db.KeepsAmounts db'' := by
  intro id st hst
  obtain ⟨st', hst', hamount⟩ := h id st hst
  obtain ⟨st'', hst'', hamount'⟩ := h' id st' hst'
  exact ⟨st'', hst'', hamount'.trans hamount⟩

theorem Beside.of_outbox (hjobs : db'.jobs = db.jobs) (hamounts : db.KeepsAmounts db')
    (hchecked : db.Checked → db'.Checked) (houtbox : db'.cash.outbox = db.cash.outbox)
    (hsound : db.cash.Sound → db'.cash.Sound ∧ Reconciliation.Grows db.cash db'.cash) :
    db.Beside db' where
  jobs := hjobs
  amounts := hamounts
  checked := hchecked
  rows row hrow := houtbox ▸ hrow
  foreign row hrow := .inl (houtbox ▸ hrow)
  keys h := by
    unfold LegDb.keys
    rw [houtbox]
    exact h
  reserved id := reserved_congr houtbox
  sound := hsound

theorem Beside.refl : db.Beside db :=
  .of_outbox rfl (.of_eq rfl) id rfl fun h => ⟨h, .of_eq rfl rfl⟩

theorem Beside.trans (h : db.Beside db') (h' : db'.Beside db'') : db.Beside db'' where
  jobs := h'.jobs.trans h.jobs
  amounts := h.amounts.trans h'.amounts
  checked hchecks := h'.checked (h.checked hchecks)
  rows row hrow := h'.rows row (h.rows row hrow)
  foreign row hrow := by
    rcases h'.foreign row hrow with hold | hforeign
    · exact h.foreign row hold
    · exact .inr hforeign
  keys hkeys := h'.keys (h.keys hkeys)
  reserved id := (h'.reserved id).trans (h.reserved id)
  sound hsound := by
    obtain ⟨hmid, hgrows⟩ := h.sound hsound
    obtain ⟨hend, hgrows'⟩ := h'.sound hmid
    exact ⟨hend, hgrows.trans hgrows'⟩

theorem reserved_foreign {id : String} (event : OutboxEvent)
    (h : event.eventType ≠ "SETTLEMENT_LEG_PLANNED")
    (houtbox : db'.cash.outbox = Rackline.emit db.cash.outbox event) :
    db'.reserved id = db.reserved id := by
  rcases emit_cases db.cash.outbox event with ⟨heq, -⟩ | ⟨heq, -⟩
  · exact reserved_congr (houtbox.trans heq)
  · rw [reserved_append event (houtbox.trans heq), if_neg fun hplan => h hplan.2.2, add_zero]

theorem mem_emit_cases {event row : OutboxEvent} {outbox : List OutboxEvent}
    (h : row ∈ Rackline.emit outbox event) : row ∈ outbox ∨ row = event := by
  rcases emit_cases outbox event with ⟨heq, -⟩ | ⟨heq, -⟩
  · exact .inl (heq ▸ h)
  · rw [heq] at h
    exact (List.mem_append.mp h).imp id fun h => List.mem_singleton.mp h

/-- A foreign event is put. -/
theorem Beside.of_emit {event : OutboxEvent} (hforeign : Foreign event) (hjobs : db'.jobs = db.jobs)
    (hsettlements : db'.cash.settlements = db.cash.settlements)
    (houtbox : db'.cash.outbox = Rackline.emit db.cash.outbox event)
    (hsound : db.cash.Sound → db'.cash.Sound ∧ Reconciliation.Grows db.cash db'.cash) :
    db.Beside db' where
  jobs := hjobs
  amounts := .of_eq hsettlements
  checked hchecks := by
    show ∀ st ∈ db'.cash.settlements, _
    rw [hsettlements]
    exact hchecks
  rows row hrow := houtbox ▸ mem_emit hrow
  foreign row hrow := by
    rw [houtbox] at hrow
    rcases mem_emit_cases hrow with hold | rfl
    · exact .inl hold
    · exact .inr hforeign
  keys h := by
    unfold LegDb.keys
    rw [houtbox]
    exact nodup_emit h
  reserved id := reserved_foreign _ hforeign.kind houtbox
  sound := hsound

theorem Beside.emit {event : OutboxEvent} (hforeign : Foreign event) :
    db.Beside (db.emit event) :=
  .of_emit hforeign rfl rfl rfl fun h =>
    ⟨h.congr rfl rfl, Reconciliation.Grows.of_eq rfl rfl⟩

/-- A call of the reconciliation that reads and writes in one step. -/
theorem Beside.of_effect {c : CashCall} {cash : CashDb} (hcurrent : c.Current db.cash)
    (heffect : CashEffect db.cash c cash) : db.Beside { db with cash := cash } := by
  have hsound : db.cash.Sound → cash.Sound ∧ Reconciliation.Grows db.cash cash := fun h =>
    ⟨(h.effect hcurrent heffect).1, Reconciliation.effect_grows h hcurrent heffect⟩
  cases heffect with
  | quiet hreceipts hallocations hsettlements houtbox =>
    refine .of_outbox rfl (.of_eq hsettlements) (fun hchecks => ?_) houtbox hsound
    show ∀ st ∈ cash.settlements, _
    rw [hsettlements]
    exact hchecks
  | received _ _ _ _ hsettlements houtbox =>
    exact .of_emit foreign_cash rfl hsettlements houtbox hsound
  | allocated _ _ _ _ _ _ _ _ hsettlements houtbox =>
    exact .of_emit foreign_allocation rfl hsettlements houtbox hsound

theorem Beside.receipt {reference : String} {route : DestinationRoute} {reader : CashEvidenceReader}
    {result : ReconciliationResult} {cash : CashDb}
    (h : db.cash.recordDestinationReceipt reference route (some reader) = .ok (result, cash)) :
    db.Beside { db with cash := cash } := by
  unfold CashDb.recordDestinationReceipt at h
  simp only at h
  split at h
  · cases h
    exact .refl
  · rename_i fact _
    obtain ⟨_, -, hrun⟩ := bind_eq_ok.mp h
    exact .of_effect (show (CashCall.receipt reference fact route _).Current db.cash from rfl)
      (CashDb.recordReceipt_effect hrun).1

theorem Beside.allocation {reference : String} {reader : CashEvidenceReader}
    {result : ReconciliationResult} {cash : CashDb}
    (h : db.cash.recordConfirmedAllocation reference (some reader) = .ok (result, cash)) :
    db.Beside { db with cash := cash } := by
  unfold CashDb.recordConfirmedAllocation at h
  simp only at h
  split at h
  · cases h
    exact .refl
  · rename_i fact _
    obtain ⟨_, -, hrun⟩ := bind_eq_ok.mp h
    exact .of_effect (show (CashCall.allocation reference fact _).Current db.cash from .inr rfl)
      (CashDb.recordAllocation_effect hrun).1

theorem OthersWrite.beside (h : db.OthersWrite db') : db.Beside db' :=
  .of_outbox h.jobs h.amounts (fun _ => h.checked) h.outbox fun hsound =>
    ⟨hsound.congr h.receipts h.allocations, Reconciliation.Grows.of_eq h.receipts h.allocations⟩

/-- The transaction that records a receipt. -/
theorem receive_beside {e : Executor} {receiptReference : String} {fact : ReceiptFact}
    {again : Option ReceiptFact} {result : ReconciliationResult}
    (h : db.receive e quote receiptReference fact again = .ok (result, db')) : db.Beside db' := by
  obtain ⟨⟨answer, cash⟩, hcash, hok⟩ := bind_eq_ok.mp h
  have hreceipt := Beside.receipt hcash
  simp only at hok
  split at hok
  · cases hok
    refine hreceipt.trans (Beside.trans ?_ (Beside.emit foreign_breach))
    exact .of_outbox rfl (.of_eq rfl) id rfl fun hsound =>
      ⟨hsound.congr rfl rfl, Reconciliation.Grows.of_eq rfl rfl⟩
  · cases hok
    exact hreceipt

theorem allocate_beside {e : Executor} {reference receiptReference : String}
    {reader : CashEvidenceReader}
    (h : db.allocate e quote reference receiptReference reader = .ok db') : db.Beside db' := by
  unfold allocate at h
  split at h
  · cases h
  · rename_i allocated cash hcash
    split at h
    · cases h
    · cases h
      exact (Beside.allocation hcash).trans (Beside.emit foreign_allocated)

/-- The receipt that an answer with an id names is about the log that the reader told. -/
theorem receive_names {e : Executor} {receiptReference id : String} {fact : ReceiptFact}
    {again : Option ReceiptFact} {result : ReconciliationResult}
    (h : db.receive e quote receiptReference fact again = .ok (result, db'))
    (hid : result.entityId = some id) :
    ∃ told ∈ again, ∃ r ∈ db'.cash.receipts, r.cashReceiptId = id ∧ r.key = told.key := by
  obtain ⟨⟨answer, cash⟩, hcash, hok⟩ := bind_eq_ok.mp h
  -- The case and the event of a breach leave the receipts.
  have hleft : answer = result ∧ db'.cash.receipts = cash.receipts := by
    simp only at hok
    split at hok
    · cases hok
      exact ⟨rfl, rfl⟩
    · cases hok
      exact ⟨rfl, rfl⟩
  obtain ⟨rfl, hreceipts⟩ := hleft
  unfold CashDb.recordDestinationReceipt at hcash
  simp only at hcash
  cases again with
  | none =>
    cases hcash
    cases hid
  | some told =>
    obtain ⟨_, -, hrun⟩ := bind_eq_ok.mp hcash
    refine ⟨told, rfl, ?_⟩
    rcases (CashDb.recordReceipt_effect hrun).2 id hid with ⟨-, r, hr, hnamed⟩ | ⟨r, hread, hnamed, heq⟩
    · exact ⟨r, hreceipts ▸ hr, hnamed⟩
    · obtain ⟨hmem, hkey⟩ := CashDb.receiptAt_key hread
      refine ⟨r, ?_, hnamed, hkey⟩
      rw [hreceipts, heq]
      exact hmem

theorem event_some {key : String} {row : OutboxEvent} (h : db.event key = some row) :
    row ∈ db.cash.outbox ∧ row.idempotencyKey = key := by
  have hkey := List.find?_some h
  exact ⟨List.mem_of_find?_eq_some h, by simpa using hkey⟩

theorem event_none {key : String} (h : db.event key = none) :
    ∀ row ∈ db.cash.outbox, row.idempotencyKey ≠ key := by
  intro row hrow
  simpa using List.find?_eq_none.mp h row hrow

theorem railId_of_validateQuote {binding : RailBinding} {now : Int}
    (h : validateQuote quote binding now = .ok ()) : quote.railId = binding.railId := by
  obtain ⟨_, -, h⟩ := bind_eq_ok.mp h
  obtain ⟨_, -, h⟩ := bind_eq_ok.mp h
  obtain ⟨_, hroute, -⟩ := bind_eq_ok.mp h
  have hroute := revertIf_eq_ok.mp hroute
  push Not at hroute
  exact hroute.1

/-- The plan of a leg of a rail has this quote. -/
def Bound (db : LegDb) (railId legId : String) (quote : Quote) : Prop :=
  ∃ row ∈ db.cash.outbox, row.idempotencyKey = planKey railId legId ∧ row.payload = quote.payload

/-- What another plan of a settlement leaves for this quote is enough. -/
def Fits (db : LegDb) (quote : Quote) : Prop :=
  ∃ st, db.cash.settlement quote.settlementId = some st ∧
    db.reserved quote.settlementId + quote.sourceAmount ≤ st.sourceAmount

/-- What the checks of `enqueue` say. -/
theorem accept_ok {e : Executor} {now : Int} (h : db.accept e quote now = .ok fresh) :
    quote.railId = e.binding.railId ∧
      ((fresh = false ∧ db.Bound e.binding.railId quote.legId quote) ∨
        (fresh = true ∧ db.event (planKey e.binding.railId quote.legId) = none ∧ db.Fits quote)) := by
  obtain ⟨_, hquote, h⟩ := bind_eq_ok.mp h
  obtain ⟨_, -, h⟩ := bind_eq_ok.mp h
  obtain ⟨_, -, h⟩ := bind_eq_ok.mp h
  refine ⟨railId_of_validateQuote hquote, ?_⟩
  split at h
  · cases h
  · rename_i settlement hsettlement
    obtain ⟨_, -, h⟩ := bind_eq_ok.mp h
    split at h
    · rename_i prior hprior
      obtain ⟨_, hsame, h⟩ := bind_eq_ok.mp h
      obtain ⟨hmem, hkey⟩ := event_some hprior
      cases h
      exact Or.inl ⟨rfl, prior, hmem, hkey, not_not.mp (revertIf_eq_ok.mp hsame)⟩
    · rename_i hnone
      obtain ⟨_, hwithin, h⟩ := bind_eq_ok.mp h
      cases h
      exact Or.inr ⟨rfl, hnone, settlement, hsettlement, not_lt.mp (revertIf_eq_ok.mp hwithin)⟩

/-! ### Plans and their jobs -/

/-- Plans and jobs go in pairs, no key stands twice, and no settlement is exceeded. -/
structure Books (db : LegDb) : Prop where
  keys : db.keys.Nodup
  sound : db.cash.Sound
  checked : db.Checked
  /-- What is reserved is reserved of a settlement, and within what it paid. -/
  within : ∀ id, db.reserved id = 0 ∨
    ∃ st, db.cash.settlement id = some st ∧ db.reserved id ≤ st.sourceAmount
  /-- A plan is the one of a job. -/
  planned : ∀ row ∈ db.cash.outbox, ∀ name, row.idempotencyKey = "settlement-plan:" ++ name →
    ∃ job ∈ db.jobs, name = legName job.payload.railId job.payload.legId ∧
      row = planEvent job.payload.railId job.payload
  /-- A job has its plan. -/
  jobs : ∀ job ∈ db.jobs, job.semanticKey = jobKey job.payload.railId job.payload.legId ∧
    planEvent job.payload.railId job.payload ∈ db.cash.outbox

/-- Rows, jobs, receipts and the amounts of settlements stay. -/
structure Grows (db db' : LegDb) : Prop where
  rows : ∀ row ∈ db.cash.outbox, row ∈ db'.cash.outbox
  jobs : ∀ job ∈ db.jobs, job ∈ db'.jobs
  amounts : db.KeepsAmounts db'
  cash : Reconciliation.Grows db.cash db'.cash

theorem Grows.refl : db.Grows db := ⟨fun _ h => h, fun _ h => h, .of_eq rfl, .of_eq rfl rfl⟩

theorem Grows.trans (h : db.Grows db') (h' : db'.Grows db'') : db.Grows db'' where
  rows row hrow := h'.rows row (h.rows row hrow)
  jobs job hjob := h'.jobs job (h.jobs job hjob)
  amounts := h.amounts.trans h'.amounts
  cash := h.cash.trans h'.cash

theorem Bound.grows {legId : String} (h : db.Bound railId legId quote) (hgrows : db.Grows db') :
    db'.Bound railId legId quote := by
  obtain ⟨row, hrow, hplan⟩ := h
  exact ⟨row, hgrows.rows row hrow, hplan⟩

theorem Fits.grows (h : db.Fits quote) (hgrows : db.Grows db')
    (hreserved : db'.reserved quote.settlementId = db.reserved quote.settlementId) :
    db'.Fits quote := by
  obtain ⟨st, hst, hfits⟩ := h
  obtain ⟨st', hst', hamount⟩ := hgrows.amounts _ st hst
  refine ⟨st', hst', ?_⟩
  rw [hreserved, hamount]
  exact hfits

/-- Two rows with one key are one row. -/
theorem Books.row_unique {row row' : OutboxEvent} (h : db.Books) (hrow : row ∈ db.cash.outbox)
    (hrow' : row' ∈ db.cash.outbox) (hkey : row.idempotencyKey = row'.idempotencyKey) : row = row' :=
  List.inj_on_of_nodup_map h.keys hrow hrow' hkey

theorem Beside.grows (h : db.Beside db') (hsound : db.cash.Sound) : db.Grows db' where
  rows := h.rows
  jobs _ hjob := h.jobs ▸ hjob
  amounts := h.amounts
  cash := (h.sound hsound).2

theorem Books.beside (h : db.Books) (hbeside : db.Beside db') : db'.Books where
  keys := hbeside.keys h.keys
  sound := (hbeside.sound h.sound).1
  checked := hbeside.checked h.checked
  within id := by
    rw [hbeside.reserved id]
    rcases h.within id with hzero | ⟨st, hst, hwithin⟩
    · exact Or.inl hzero
    · obtain ⟨st', hst', hamount⟩ := hbeside.amounts id st hst
      exact Or.inr ⟨st', hst', hamount ▸ hwithin⟩
  planned row hrow name hkey := by
    rw [hbeside.jobs]
    rcases hbeside.foreign row hrow with hold | hforeign
    · exact h.planned row hold name hkey
    · exact absurd hkey (hforeign.plan name)
  jobs job hjob := by
    rw [hbeside.jobs] at hjob
    obtain ⟨hkey, hplan⟩ := h.jobs job hjob
    exact ⟨hkey, hbeside.rows _ hplan⟩

theorem jobKey_inj {legId : String} {rail leg : String} (h : jobKey railId legId = jobKey rail leg) :
    legName railId legId = legName rail leg := append_inj_right h

/-- The writes of an `enqueue`: nothing when its leg has a plan, else the plan with the job. -/
theorem Books.plan_cases (h : db.Books)
    (hplanned : fresh = false → db.Bound railId quote.legId quote) :
    db.plan railId quote fresh = db ∨
      (fresh = true ∧ (∀ row ∈ db.cash.outbox, row.idempotencyKey ≠ planKey railId quote.legId) ∧
        db.plan railId quote fresh =
          { db with
            cash := { db.cash with outbox := db.cash.outbox ++ [planEvent railId quote] }
            jobs := db.jobs ++ [⟨jobKey railId quote.legId, quote⟩] }) := by
  have hheld : ∀ row ∈ db.cash.outbox, row.idempotencyKey = planKey railId quote.legId →
      (db.jobs.any fun j => j.semanticKey == jobKey railId quote.legId) = true := by
    intro row hrow hkey
    obtain ⟨job, hjob, hname, -⟩ := h.planned row hrow _ hkey
    refine List.any_eq_true.mpr ⟨job, hjob, beq_iff_eq.mpr ?_⟩
    rw [(h.jobs job hjob).1]
    exact congrArg ("settlement-leg:" ++ ·) hname.symm
  unfold plan
  cases fresh with
  | false =>
    obtain ⟨row, hrow, hkey, -⟩ := hplanned rfl
    left
    simp only [Bool.false_eq_true, if_false]
    exact if_pos (hheld row hrow hkey)
  | true =>
    rcases emit_cases db.cash.outbox (planEvent railId quote) with ⟨heq, row, hrow, hkey⟩ | ⟨heq, hnew⟩
    · have hemit : db.emit (planEvent railId quote) = db := by
        show { db with cash := { db.cash with outbox := _ } } = db
        rw [heq]
      left
      simp only [if_true, hemit]
      exact if_pos (hheld row hrow hkey)
    · right
      refine ⟨rfl, hnew, ?_⟩
      -- A job of this key would have brought the plan.
      have hnone : ¬(db.jobs.any fun j => j.semanticKey == jobKey railId quote.legId) = true := by
        intro hany
        obtain ⟨job, hjob, hkey⟩ := List.any_eq_true.mp hany
        obtain ⟨hname, hplan⟩ := h.jobs job hjob
        have hsame := jobKey_inj (hname.symm.trans (beq_iff_eq.mp hkey))
        exact hnew _ hplan (congrArg ("settlement-plan:" ++ ·) hsame)
      have hemit : db.emit (planEvent railId quote) =
          { db with cash := { db.cash with outbox := db.cash.outbox ++ [planEvent railId quote] } } := by
        show { db with cash := { db.cash with outbox := _ } } = _
        rw [heq]
      simp only [if_true, hemit]
      exact if_neg hnone

/-- The plan with the job keeps the books, when the quote fits what is left of the settlement. -/
theorem Books.plan (h : db.Books) (hrail : quote.railId = railId)
    (hplanned : fresh = false → db.Bound railId quote.legId quote)
    (hfits : fresh = true → db.Fits quote) :
    (db.plan railId quote fresh).Books ∧ db.Grows (db.plan railId quote fresh) := by
  rcases h.plan_cases hplanned with heq | ⟨hfresh, hnew, heq⟩
  · rw [heq]
    exact ⟨h, .refl⟩
  · subst hrail
    have hgrows : db.Grows (db.plan quote.railId quote fresh) := by
      rw [heq]
      exact ⟨fun row hrow => List.mem_append_left _ hrow, fun job hjob => List.mem_append_left _ hjob,
        .of_eq rfl, .of_eq rfl rfl⟩
    refine ⟨?_, hgrows⟩
    rw [heq]
    constructor
    · show (List.map _ (db.cash.outbox ++ [planEvent quote.railId quote])).Nodup
      rw [List.map_append, List.nodup_append]
      refine ⟨h.keys, by simp, ?_⟩
      intro x hx y hy hxy
      obtain ⟨row, hrow, rfl⟩ := List.mem_map.mp hx
      rw [List.map_singleton, List.mem_singleton] at hy
      exact hnew row hrow (hxy.trans hy)
    · exact h.sound.congr rfl rfl
    · exact h.checked
    · intro id
      rw [reserved_append (planEvent quote.railId quote) (show _ = db.cash.outbox ++ _ from rfl)]
      by_cases hid : quote.settlementId = id
      · subst hid
        obtain ⟨st, hst, hwithin⟩ := hfits hfresh
        rw [if_pos ⟨rfl, rfl, rfl⟩, plannedAmount_plan]
        exact Or.inr ⟨st, hst, hwithin⟩
      · rw [if_neg fun hbad => hid hbad.2.1, add_zero]
        exact h.within id
    · intro row hrow name hkey
      rcases List.mem_append.mp hrow with hold | hnewrow
      · obtain ⟨job, hjob, hjobname⟩ := h.planned row hold name hkey
        exact ⟨job, List.mem_append_left _ hjob, hjobname⟩
      · rw [List.mem_singleton.mp hnewrow] at hkey ⊢
        exact ⟨_, List.mem_append_right _ (List.mem_singleton_self _),
          (append_inj_right hkey).symm, rfl⟩
    · intro job hjob
      rcases List.mem_append.mp hjob with hold | hnewjob
      · obtain ⟨hkey, hplan⟩ := h.jobs job hold
        exact ⟨hkey, List.mem_append_left _ hplan⟩
      · rw [List.mem_singleton.mp hnewjob]
        exact ⟨rfl, List.mem_append_right _ (List.mem_singleton_self _)⟩

/-- An acknowledgement keeps the books. -/
theorem Books.ack (h : db.Books) (railId : String) (quote : Quote) (reference : String) :
    (db.emit (ackEvent railId quote reference)).Books ∧
      db.Grows (db.emit (ackEvent railId quote reference)) := by
  have hrows : ∀ row ∈ (db.emit (ackEvent railId quote reference)).cash.outbox,
      row ∈ db.cash.outbox ∨ row = ackEvent railId quote reference :=
    fun row hrow => mem_emit_cases hrow
  refine ⟨⟨nodup_emit h.keys, h.sound.congr rfl rfl, h.checked, ?_, ?_, ?_⟩, ?_⟩
  · intro id
    rw [reserved_foreign (ackEvent railId quote reference) (by simp [ackEvent, settlementEvent]) rfl]
    exact h.within id
  · intro row hrow name hkey
    rcases hrows row hrow with hold | rfl
    · exact h.planned row hold name hkey
    · exact absurd hkey.symm plan_ne_ack
  · intro job hjob
    obtain ⟨hkey, hplan⟩ := h.jobs job hjob
    exact ⟨hkey, mem_emit hplan⟩
  · exact ⟨fun row hrow => mem_emit hrow, fun job hjob => hjob, .of_eq rfl, .of_eq rfl rfl⟩

/-- Only a new plan raises what is reserved, and only for its settlement. -/
theorem Books.reserved_plan {id : String} (h : db.Books)
    (hplanned : fresh = false → db.Bound railId quote.legId quote)
    (hother : quote.settlementId ≠ id) : (db.plan railId quote fresh).reserved id = db.reserved id := by
  rcases h.plan_cases hplanned with heq | ⟨-, -, heq⟩
  · rw [heq]
  · rw [heq, reserved_append (planEvent railId quote) (show _ = db.cash.outbox ++ _ from rfl),
      if_neg fun hbad => hother hbad.2.1, add_zero]

end LegDb

/-! ### Workers that overlap -/

namespace LegRun

variable {s s' s'' : LegRun} {t : Nat} {landing : String → String → Int × HexString × Int}

/-- What an open transaction can rely on. -/
def Holds (s : LegRun) : LegCall → Prop
  | .enqueue e quote fresh => quote.railId = e.binding.railId ∧
      (fresh = false → s.db.Bound e.binding.railId quote.legId quote) ∧ (fresh = true → s.db.Fits quote)
  | .handle e quote stage => (∃ job ∈ s.db.jobs, job.payload = quote) ∧
      (∀ fresh ∈ stage.plan, fresh = false ∧ quote.railId = e.binding.railId) ∧
      match stage with
      | .unsent => True
      | .admitted _ => True
      | .referred reference _ => s.lookup e.binding.railId quote.legId = some reference
      | .acknowledged reference _ | .received reference _ _ =>
        ∃ row ∈ s.db.cash.outbox, row.idempotencyKey = ackKey e.binding.railId quote.legId ∧
          ackReference row = reference

/-- The books are in order, each transaction has what it relies on, and a request stands behind each
acknowledgement, and a job behind each request. -/
structure Inv (s : LegRun) : Prop where
  books : s.db.Books
  calls : ∀ t c, s.calls t = some c → s.Holds c
  locks : ∀ t u c c', t ≠ u → s.calls t = some c → s.calls u = some c' →
    ∀ id, c.HoldsLock id → ¬c'.HoldsLock id
  acks : ∀ row ∈ s.db.cash.outbox, ∀ name, row.idempotencyKey = "settlement-ack:" ++ name →
    ∃ railId legId, name = legName railId legId ∧ s.lookup railId legId = some (ackReference row)
  requests : ∀ railId legId reference, s.lookup railId legId = some reference →
    ∃ job ∈ s.db.jobs, job.payload.railId = railId ∧ job.payload.legId = legId

/-- The tables grow, and a request keeps its reference. -/
structure Grows (s s' : LegRun) : Prop where
  db : s.db.Grows s'.db
  requests : ∀ railId legId reference, s.lookup railId legId = some reference →
    s'.lookup railId legId = some reference

theorem Grows.refl : s.Grows s := ⟨.refl, fun _ _ _ h => h⟩

theorem Grows.trans (h : s.Grows s') (h' : s'.Grows s'') : s.Grows s'' :=
  ⟨h.db.trans h'.db, fun _ _ _ hold => h'.requests _ _ _ (h.requests _ _ _ hold)⟩

/-- What the transactions are does not enter. -/
theorem Grows.setCall {c : Option LegCall} (h : s.Grows s') : s.Grows (s'.setCall t c) :=
  ⟨h.db, h.requests⟩

/-- What a transaction relies on stays there, when no other one reserves of its settlement. -/
theorem Holds.grows {c : LegCall} (h : s.Holds c) (hgrows : s.Grows s')
    (hreserved : ∀ id, c.HoldsLock id → s'.db.reserved id = s.db.reserved id) : s'.Holds c := by
  cases c with
  | enqueue e quote fresh =>
    obtain ⟨hrail, hbound, hfits⟩ := h
    refine ⟨hrail, fun hfresh => (hbound hfresh).grows hgrows.db, fun hfresh => ?_⟩
    exact (hfits hfresh).grows hgrows.db (hreserved _ rfl)
  | handle e quote stage =>
    obtain ⟨⟨job, hjob, hquote⟩, hplan, hstage⟩ := h
    refine ⟨⟨job, hgrows.db.jobs job hjob, hquote⟩, hplan, ?_⟩
    cases stage with
    | unsent => trivial
    | admitted => trivial
    | referred reference => exact hgrows.requests _ _ _ hstage
    | acknowledged =>
      obtain ⟨row, hrow, hack⟩ := hstage
      exact ⟨row, hgrows.db.rows row hrow, hack⟩
    | received =>
      obtain ⟨row, hrow, hack⟩ := hstage
      exact ⟨row, hgrows.db.rows row hrow, hack⟩

theorem setCall_calls {c : Option LegCall} {u : Nat} {d : LegCall}
    (h : (s.setCall t c).calls u = some d) :
    (u = t ∧ c = some d) ∨ (u ≠ t ∧ s.calls u = some d) := by
  by_cases hu : u = t
  · subst hu
    rw [show (s.setCall u c).calls u = c from Function.update_self ..] at h
    exact Or.inl ⟨rfl, h⟩
  · rw [show (s.setCall t c).calls u = s.calls u from Function.update_of_ne hu ..] at h
    exact Or.inr ⟨hu, h⟩

/-- A transaction starts or goes on, with a lock that no other one has. -/
theorem Inv.setCall {c : LegCall} (h : s.Inv) (hholds : s.Holds c)
    (hlock : ∀ u c', u ≠ t → s.calls u = some c' → ∀ id, c.HoldsLock id → ¬c'.HoldsLock id) :
    (s.setCall t (some c)).Inv where
  books := h.books
  calls := by
    intro u d hd
    rcases setCall_calls hd with ⟨-, hc⟩ | ⟨-, hold⟩
    · cases hc
      exact hholds
    · exact h.calls u d hold
  locks := by
    intro u v d e huv hd he id hid hbad
    rcases setCall_calls hd with ⟨hu, hc⟩ | ⟨hu, hd'⟩
    · rcases setCall_calls he with ⟨hv, -⟩ | ⟨hv, he'⟩
      · exact huv (hu.trans hv.symm)
      · cases hc
        exact hlock v e hv he' id hid hbad
    · rcases setCall_calls he with ⟨-, hc⟩ | ⟨-, he'⟩
      · cases hc
        exact hlock u d hu hd' id hbad hid
      · exact h.locks u v d e huv hd' he' id hid hbad
  acks := h.acks
  requests := h.requests

/-- A transaction that goes on keeps its lock. -/
theorem Inv.goOn {c c' : LegCall} (h : s.Inv) (hcall : s.calls t = some c) (hholds : s.Holds c')
    (hsame : ∀ id, c'.HoldsLock id → c.HoldsLock id) : (s.setCall t (some c')).Inv :=
  h.setCall hholds fun u d hu hd id hid =>
    h.locks t u c d (Ne.symm hu) hcall hd id (hsame id hid)

/-- A transaction ends. -/
theorem Inv.endCall (h : s.Inv) : (s.setCall t none).Inv where
  books := h.books
  calls := by
    intro u d hd
    rcases setCall_calls hd with ⟨-, hc⟩ | ⟨-, hold⟩
    · cases hc
    · exact h.calls u d hold
  locks := by
    intro u v d e huv hd he
    rcases setCall_calls hd with ⟨-, hc⟩ | ⟨-, hd'⟩
    · cases hc
    · rcases setCall_calls he with ⟨-, hc⟩ | ⟨-, he'⟩
      · cases hc
      · exact h.locks u v d e huv hd' he'
  acks := h.acks
  requests := h.requests

/-- Writes beside the legs. -/
theorem Inv.beside {db : LegDb} (h : s.Inv) (hbeside : s.db.Beside db) :
    Inv { s with db := db } ∧ s.Grows { s with db := db } := by
  have hgrows : s.Grows { s with db := db } :=
    ⟨hbeside.grows h.books.sound, fun _ _ _ hold => hold⟩
  refine ⟨⟨h.books.beside hbeside, ?_, h.locks, ?_, ?_⟩, hgrows⟩
  · intro u c hc
    exact (h.calls u c hc).grows hgrows fun id _ => hbeside.reserved id
  · intro row hrow name hkey
    rcases hbeside.foreign row hrow with hold | hforeign
    · exact h.acks row hold name hkey
    · exact absurd hkey (hforeign.ack name)
  · intro railId legId reference hlookup
    obtain ⟨job, hjob, hleg⟩ := h.requests railId legId reference hlookup
    exact ⟨job, hbeside.jobs ▸ hjob, hleg⟩

/-- A request that is there keeps its reference; a request that comes is the one of the key. -/
theorem lookup_send (railId key new leg legId : String) :
    (s.send railId key new).lookup leg legId = s.lookup leg legId ∨
      (leg = railId ∧ legId = key ∧ s.lookup railId key = none) := by
  unfold send
  split
  · exact Or.inl rfl
  · rename_i hnone
    by_cases hrail : leg = railId
    · subst hrail
      by_cases hkey : legId = key
      · exact Or.inr ⟨rfl, hkey, hnone⟩
      · left
        show List.lookup legId (Function.update s.requests leg _ leg) = _
        rw [Function.update_self, List.lookup_append]
        have hother : List.lookup legId [(key, new)] = none := by
          simp [List.lookup_cons, beq_false_of_ne hkey]
        rw [hother]
        exact Option.or_none
    · left
      show List.lookup legId (Function.update s.requests railId _ leg) = _
      rw [Function.update_of_ne hrail]
      rfl

theorem send_db (railId key new : String) :
    (s.send railId key new).db = s.db ∧ (s.send railId key new).calls = s.calls := by
  unfold send
  split
  · exact ⟨rfl, rfl⟩
  · exact ⟨rfl, rfl⟩

/-- A leg that has a job is sent. -/
theorem Inv.send {railId key : String} (h : s.Inv) (new : String)
    (hjob : ∃ job ∈ s.db.jobs, job.payload.railId = railId ∧ job.payload.legId = key) :
    (s.send railId key new).Inv ∧ s.Grows (s.send railId key new) := by
  obtain ⟨hdb, hcalls⟩ := send_db (s := s) railId key new
  have hgrows : s.Grows (s.send railId key new) := by
    refine ⟨hdb ▸ .refl, fun leg legId reference hold => ?_⟩
    rcases lookup_send (s := s) railId key new leg legId with heq | ⟨rfl, rfl, hnone⟩
    · exact heq.trans hold
    · rw [hnone] at hold
      cases hold
  refine ⟨⟨hdb ▸ h.books, ?_, ?_, ?_, ?_⟩, hgrows⟩
  · intro u c hc
    rw [hcalls] at hc
    exact (h.calls u c hc).grows hgrows fun id _ => by rw [hdb]
  · rw [hcalls]
    exact h.locks
  · intro row hrow name hkey
    rw [hdb] at hrow
    obtain ⟨leg, legId, hname, hlookup⟩ := h.acks row hrow name hkey
    exact ⟨leg, legId, hname, hgrows.requests _ _ _ hlookup⟩
  · intro leg legId reference hlookup
    rw [hdb]
    rcases lookup_send (s := s) railId key new leg legId with heq | ⟨rfl, rfl, -⟩
    · exact h.requests leg legId reference (heq.symm.trans hlookup)
    · exact hjob

/-- Two legs with requests that share a name are one leg. -/
theorem Inv.leg_unique {railId legId rail leg reference reference' : String} (h : s.Inv)
    (hlookup : s.lookup railId legId = some reference)
    (hlookup' : s.lookup rail leg = some reference') (hname : legName railId legId = legName rail leg) :
    railId = rail ∧ legId = leg := by
  obtain ⟨job, hjob, rfl, rfl⟩ := h.requests railId legId reference hlookup
  obtain ⟨job', hjob', rfl, rfl⟩ := h.requests rail leg reference' hlookup'
  have hrows := h.books.row_unique (h.books.jobs job hjob).2 (h.books.jobs job' hjob').2
    (congrArg ("settlement-plan:" ++ ·) hname)
  have hquotes : job.payload = job'.payload := payload_inj (congrArg OutboxEvent.payload hrows)
  rw [hquotes]
  exact ⟨rfl, rfl⟩

/-- The acknowledgement of a request is put, or it is there. -/
theorem Inv.acknowledge {e : Executor} {quote : Quote} {reference : String} {plan : Option Bool}
    (h : s.Inv) (hcall : s.calls t = some (.handle e quote (.referred reference plan))) :
    ({ s.setCall t (some (.handle e quote (.acknowledged reference plan))) with
      db := s.db.emit (ackEvent e.binding.railId quote reference) } : LegRun).Inv ∧
    s.Grows { s.setCall t (some (.handle e quote (.acknowledged reference plan))) with
      db := s.db.emit (ackEvent e.binding.railId quote reference) } := by
  obtain ⟨hjob, hplan, hlookup⟩ := h.calls t _ hcall
  obtain ⟨hbooks, hgrows⟩ := h.books.ack e.binding.railId quote reference
  have hafter : s.Grows { s with db := s.db.emit (ackEvent e.binding.railId quote reference) } :=
    ⟨hgrows, fun _ _ _ hold => hold⟩
  have hmid : Inv { s with db := s.db.emit (ackEvent e.binding.railId quote reference) } := by
    refine ⟨hbooks, ?_, h.locks, ?_, h.requests⟩
    · intro u c hc
      refine (h.calls u c hc).grows hafter fun id _ => ?_
      exact LegDb.reserved_foreign (ackEvent e.binding.railId quote reference)
        (by simp [ackEvent, settlementEvent]) rfl
    · intro row hrow name hkey
      rcases LegDb.mem_emit_cases hrow with hold | rfl
      · exact h.acks row hold name hkey
      · refine ⟨e.binding.railId, quote.legId, (append_inj_right hkey).symm, ?_⟩
        rw [ackReference_ack]
        exact hlookup
  refine ⟨hmid.goOn hcall ⟨hjob, hplan, ?_⟩ fun id hid => hid, hafter.setCall⟩
  rcases emit_cases s.db.cash.outbox (ackEvent e.binding.railId quote reference) with
    ⟨heq, row, hrow, hkey⟩ | ⟨heq, -⟩
  · -- The row that is there is about the same leg, so it has the same reference.
    obtain ⟨rail, leg, hname, hack⟩ := h.acks row hrow _ hkey
    obtain ⟨rfl, hleg⟩ := h.leg_unique hlookup hack hname
    refine ⟨row, mem_emit hrow, hkey, ?_⟩
    rw [← hleg, hlookup] at hack
    exact (Option.some.inj hack).symm
  · refine ⟨ackEvent e.binding.railId quote reference, ?_, rfl, ackReference_ack⟩
    show _ ∈ emit _ _
    rw [heq]
    exact List.mem_append_right _ (List.mem_singleton_self _)

/-- An `enqueue` commits. -/
theorem Inv.commitEnqueue {e : Executor} {quote : Quote} {fresh : Bool} (h : s.Inv)
    (hcall : s.calls t = some (.enqueue e quote fresh)) :
    ({ s.setCall t none with db := s.db.plan e.binding.railId quote fresh } : LegRun).Inv ∧
    s.Grows { s.setCall t none with db := s.db.plan e.binding.railId quote fresh } := by
  obtain ⟨hrail, hbound, hfits⟩ := h.calls t _ hcall
  obtain ⟨hbooks, hgrows⟩ := h.books.plan hrail hbound hfits
  have hafter : s.Grows { s.setCall t none with db := s.db.plan e.binding.railId quote fresh } :=
    ⟨hgrows, fun _ _ _ hold => hold⟩
  refine ⟨⟨hbooks, ?_, h.endCall.locks, ?_, ?_⟩, hafter⟩
  · intro u c hc
    rcases setCall_calls hc with ⟨-, hnone⟩ | ⟨hu, hold⟩
    · cases hnone
    · refine (h.calls u c hold).grows hafter fun id hid => ?_
      -- This transaction has the lock of its settlement, so the other one is about another.
      have hother : quote.settlementId ≠ id := by
        intro hsame
        exact h.locks t u _ c (Ne.symm hu) hcall hold id hsame hid
      exact h.books.reserved_plan hbound hother
  · intro row hrow name hkey
    rcases h.books.plan_cases hbound with heq | ⟨-, -, heq⟩
    · rw [heq] at hrow
      exact h.acks row hrow name hkey
    · rw [heq] at hrow
      rcases List.mem_append.mp hrow with hold | hnew
      · exact h.acks row hold name hkey
      · rw [List.mem_singleton.mp hnew] at hkey
        exact absurd hkey plan_ne_ack
  · intro railId legId reference hlookup
    obtain ⟨job, hjob, hleg⟩ := h.requests railId legId reference hlookup
    exact ⟨job, hgrows.jobs job hjob, hleg⟩

/-- The `enqueue` inside a job finds the plan of the leg. -/
theorem Inv.reaccept {e : Executor} {quote : Quote} {now : Int} {stage : Stage} (h : s.Inv)
    (hjob : ∃ job ∈ s.db.jobs, job.payload = quote) (hstage : s.db.reaccept e quote now = .ok stage) :
    stage = .admitted false ∧ quote.railId = e.binding.railId := by
  unfold LegDb.reaccept at hstage
  split at hstage
  · rename_i fresh haccept
    cases hstage
    obtain ⟨hrail, ⟨rfl, -⟩ | ⟨-, hnone, -⟩⟩ := LegDb.accept_ok haccept
    · exact ⟨rfl, hrail⟩
    · obtain ⟨job, hmem, rfl⟩ := hjob
      have hplan := (h.books.jobs job hmem).2
      refine absurd ?_ (LegDb.event_none hnone _ hplan)
      show planKey job.payload.railId job.payload.legId = _
      rw [hrail]
  · cases hstage
  · cases hstage

/-- A job that ran `enqueue` itself has nothing to write for it. -/
theorem Inv.planned {e : Executor} {quote : Quote} {stage : Stage} (h : s.Inv)
    (hcall : s.calls t = some (.handle e quote stage)) :
    s.db.planned e.binding.railId quote stage.plan = s.db := by
  obtain ⟨⟨job, hjob, rfl⟩, hplan, -⟩ := h.calls t _ hcall
  unfold LegDb.planned
  split
  · rfl
  · rename_i fresh hfresh
    obtain ⟨rfl, hrail⟩ := hplan fresh hfresh
    have hbound : s.db.Bound e.binding.railId job.payload.legId job.payload := by
      rw [← hrail]
      exact ⟨_, (h.books.jobs job hjob).2, rfl, rfl⟩
    have hplanned : false = false → s.db.Bound e.binding.railId job.payload.legId job.payload :=
      fun _ => hbound
    rcases h.books.plan_cases hplanned with heq | ⟨hbad, -, -⟩
    · exact heq
    · cases hbad

/-- One step of any worker or service. -/
theorem Inv.step {action : LegAction} (h : s.Inv) (hstep : LegStep landing s action s') :
    s'.Inv ∧ s.Grows s' := by
  cases hstep with
  | @readEnqueue t e quote now fresh hidle hlock haccept =>
    obtain ⟨hrail, hfresh⟩ := LegDb.accept_ok haccept
    refine ⟨h.setCall ⟨hrail, ?_, ?_⟩ ?_, Grows.refl.setCall⟩
    · rintro rfl
      rcases hfresh with ⟨-, hbound⟩ | ⟨hbad, -⟩
      · exact hbound
      · cases hbad
    · rintro rfl
      rcases hfresh with ⟨hbad, -⟩ | ⟨-, -, hfits⟩
      · cases hbad
      · exact hfits
    · intro u c hu hc id hid
      cases hid
      exact hlock u c hc
  | commitEnqueue hcall => exact h.commitEnqueue hcall
  | @start t e job stage hidle hjob hbegin =>
    refine ⟨h.setCall ⟨⟨job, hjob, rfl⟩, ?_⟩ ?_, Grows.refl.setCall⟩
    · unfold LegDb.begin at hbegin
      split at hbegin
      · cases hbegin
      · split at hbegin
        · rename_i ack hack
          obtain ⟨hmem, hkey⟩ := LegDb.event_some hack
          cases hbegin
          exact ⟨nofun, ack, hmem, hkey, rfl⟩
        · cases hbegin
          exact ⟨nofun, trivial⟩
    · rintro u c hu hc id ⟨hplan, -⟩
      unfold LegDb.begin at hbegin
      repeat' split at hbegin
      all_goals cases hbegin
      all_goals cases hplan
  | @found t e quote now reference stage hcall hlookup hstage =>
    obtain ⟨hjob, -, -⟩ := h.calls t _ hcall
    unfold knownReference at hstage
    split at hstage
    · cases hstage
    · cases hstage
      refine ⟨h.goOn hcall ⟨hjob, nofun, hlookup⟩ ?_, Grows.refl.setCall⟩
      rintro id ⟨hbad, -⟩
      cases hbad
  | @reaccept t e quote now stage hcall hlookup hlock hstage =>
    obtain ⟨hjob, -, -⟩ := h.calls t _ hcall
    obtain ⟨rfl, hrail⟩ := h.reaccept hjob hstage
    refine ⟨h.setCall ⟨hjob, ?_, trivial⟩ ?_, Grows.refl.setCall⟩
    · intro fresh hfresh
      cases hfresh
      exact ⟨rfl, hrail⟩
    · rintro u c hu hc id ⟨-, rfl⟩
      exact hlock u c hc
  | @send t e quote fresh new reference stage hcall hsent hstage =>
    obtain ⟨hjob, hplan, -⟩ := h.calls t _ hcall
    obtain ⟨rfl, hrail⟩ := hplan fresh rfl
    obtain ⟨job, hmem, rfl⟩ := hjob
    obtain ⟨hinv, hgrows⟩ := h.send new ⟨job, hmem, hrail, rfl⟩
    obtain ⟨hdb, hcalls⟩ := send_db (s := s) e.binding.railId job.payload.legId new
    unfold knownReference at hstage
    split at hstage
    · cases hstage
    · cases hstage
      have hcall' : (s.send e.binding.railId job.payload.legId new).calls t =
          some (.handle e job.payload (.admitted false)) := by
        rw [hcalls]
        exact hcall
      refine ⟨hinv.goOn hcall' ⟨⟨job, hdb ▸ hmem, rfl⟩, ?_, hsent⟩ fun id hid => hid,
        hgrows.setCall⟩
      intro fresh hfresh
      cases hfresh
      exact ⟨rfl, hrail⟩
  | @sendLost t e quote fresh new hcall =>
    obtain ⟨⟨job, hmem, rfl⟩, hplan, -⟩ := h.calls t _ hcall
    obtain ⟨-, hrail⟩ := hplan fresh rfl
    obtain ⟨hinv, hgrows⟩ := h.send new ⟨job, hmem, hrail, rfl⟩
    exact ⟨hinv.endCall, hgrows.setCall⟩
  | acknowledge hcall => exact h.acknowledge hcall
  | @refund t e quote reference plan observation hcall hobserved =>
    have hplan : s.db.planned e.binding.railId quote plan = s.db := h.planned hcall
    rw [hplan]
    obtain ⟨hinv, hgrows⟩ := h.beside
      (LegDb.Beside.emit (show Foreign (refundEvent e.binding.railId quote reference) from
        foreign_refund))
    exact ⟨hinv.endCall, hgrows.setCall⟩
  | @receive t e quote reference receiptReference id plan observation fact first again result db hcall
      hobserved hfact hlanding hreceive hid =>
    obtain ⟨hinv, hgrows⟩ := h.beside (LegDb.receive_beside hreceive)
    have hholds : Holds { s with db := db } (.handle e quote (.acknowledged reference plan)) :=
      hinv.calls t _ hcall
    exact ⟨hinv.goOn hcall hholds fun id hid => hid, hgrows.setCall⟩
  | @notReceived t e quote reference receiptReference plan observation fact first again result db hcall
      hobserved hfact hlanding hreceive hid =>
    obtain ⟨hinv, hgrows⟩ := h.beside (LegDb.receive_beside hreceive)
    exact ⟨hinv.endCall, hgrows.setCall⟩
  | @complete t e quote reference receiptReference plan reader db hcall hallocate =>
    have hplan : s.db.planned e.binding.railId quote plan = s.db := h.planned hcall
    rw [hplan] at hallocate
    obtain ⟨hinv, hgrows⟩ := h.beside (LegDb.allocate_beside hallocate)
    exact ⟨hinv.endCall, hgrows.setCall⟩
  | stop => exact ⟨h.endCall, Grows.refl.setCall⟩
  | others hothers => exact h.beside hothers.beside
  | receipt hrun => exact h.beside (LegDb.Beside.receipt hrun)
  | allocation hrun => exact h.beside (LegDb.Beside.allocation hrun)

theorem Inv.run {actions : List LegAction} (h : s.Inv) (hrun : Steps (LegStep landing) s actions s') :
    s'.Inv ∧ s.Grows s' := by
  induction hrun with
  | nil => exact ⟨h, .refl⟩
  | cons hstep _ ih =>
    obtain ⟨hmid, hgrows⟩ := h.step hstep
    obtain ⟨hend, hgrows'⟩ := ih hmid
    exact ⟨hend, hgrows.trans hgrows'⟩

theorem initial_inv {db : LegDb} (hchecked : db.Checked) : (initial db).Inv where
  books := {
    keys := List.nodup_nil
    sound := (Reconciliation.initial_inv db.cash).sound.congr rfl rfl
    checked := hchecked
    within := fun _ => Or.inl rfl
    planned := fun _ hrow => absurd hrow List.not_mem_nil
    jobs := fun _ hjob => absurd hjob List.not_mem_nil }
  calls := fun _ _ hc => by cases hc
  locks := fun _ _ _ _ _ hc => by cases hc
  acks := fun _ hrow => absurd hrow List.not_mem_nil
  requests := fun _ _ _ hlookup => by cases hlookup

/-- A job records the destination cash of a leg of a rail, as the receipt `id`. -/
def Records (landing : String → String → Int × HexString × Int) (s : LegRun)
    (railId legId id : String) (s' : LegRun) : Prop :=
  ∃ t e quote reference receiptReference plan observation fact first again result db,
    e.binding.railId = railId ∧ quote.legId = legId ∧
      s.calls t = some (.handle e quote (.acknowledged reference plan)) ∧
      observed reference observation = .ok (.received receiptReference) ∧
      ownFact quote first = .ok fact ∧
      s.db.receive e quote receiptReference fact again = .ok (result, db) ∧
      result.entityId = some id ∧ LegStep landing s (.receive t observation first again) s'

/-- The receipt of a recording is about the log in which the request of the leg landed. -/
theorem Inv.records {railId legId id : String} (h : s.Inv)
    (hrecords : s.Records landing railId legId id s') :
    (∃ row ∈ s.db.cash.outbox, row.idempotencyKey = ackKey railId legId ∧
      ∃ r ∈ s'.db.cash.receipts, r.cashReceiptId = id ∧ r.key = landing railId (ackReference row)) ∧
    s'.Inv ∧ s.Grows s' := by
  obtain ⟨t, e, quote, reference, receiptReference, plan, observation, fact, first, again, result, db,
    rfl, rfl, hcall, hobserved, hfact, hreceive, hid, hstep⟩ := hrecords
  refine ⟨?_, h.step hstep⟩
  obtain ⟨-, -, row, hrow, hkey, rfl⟩ := h.calls t _ hcall
  obtain ⟨told, htold, r, hr, hnamed, hlog⟩ := LegDb.receive_names hreceive hid
  refine ⟨row, hrow, hkey, r, ?_⟩
  cases hstep with
  | receive hcall' hobserved' hfact' hlanding hreceive' =>
    cases hcall.symm.trans hcall'
    cases hobserved.symm.trans hobserved'
    cases hfact.symm.trans hfact'
    cases hreceive.symm.trans hreceive'
    exact ⟨hr, hnamed, hlog.trans (hlanding told htold)⟩
  | notReceived hcall' hobserved' hfact' _ hreceive' hid' =>
    cases hcall.symm.trans hcall'
    cases hobserved.symm.trans hobserved'
    cases hfact.symm.trans hfact'
    cases hreceive.symm.trans hreceive'
    cases hid.symm.trans hid'

/-- A leg is recorded as one receipt. -/
theorem Inv.records_once {railId legId id id' : String} {s₁ s₂ s₃ : LegRun} {more : List LegAction}
    (h : s.Inv) (hfirst : s.Records landing railId legId id s₁)
    (hmore : Steps (LegStep landing) s₁ more s₂)
    (hsecond : s₂.Records landing railId legId id' s₃) : id' = id := by
  obtain ⟨⟨row, hrow, hkey, r, hr, rfl, hlog⟩, hinv₁, hgrows₁⟩ := h.records hfirst
  obtain ⟨hinv₂, hgrows₂⟩ := hinv₁.run hmore
  obtain ⟨⟨row', hrow', hkey', r', hr', rfl, hlog'⟩, hinv₃, hgrows₃⟩ := hinv₂.records hsecond
  -- The acknowledgement is the same row, so the log is the same, and it has one receipt.
  have hkept : row ∈ s₂.db.cash.outbox := hgrows₂.db.rows row (hgrows₁.db.rows row hrow)
  have hsame : row' = row := hinv₂.books.row_unique hrow' hkept (hkey'.trans hkey.symm)
  obtain ⟨q, hq, hcore⟩ := (hgrows₂.trans hgrows₃).db.cash.1 r hr
  have hlogs : r'.key = q.key := by
    rw [hlog', hsame, CashReceipt.key_of_core hcore, hlog]
  have hreceipts : r' = q := List.inj_on_of_nodup_map hinv₃.books.sound.keys hr' hq hlogs
  have hids : q.cashReceiptId = r.cashReceiptId := by
    show q.core.cashReceiptId = r.core.cashReceiptId
    rw [hcore]
  rw [hreceipts, hids]

end LegRun

/-- In every run of workers that overlap, are lost and start again: the plans of a settlement stay
within what it paid, a leg keeps the quote of its plan, what a rail is asked to send has a plan, and
the destination cash of a leg is recorded as one receipt. -/
theorem legs_pay_once {landing : String → String → Int × HexString × Int} {db : LegDb}
    {actions : List LegAction} {s : LegRun} (hchecked : db.Checked)
    (hrun : Steps (LegStep landing) (.initial db) actions s) :
    (∀ id st, s.db.cash.settlement id = some st → s.db.reserved id ≤ st.sourceAmount) ∧
    (∀ more s', Steps (LegStep landing) s more s' → ∀ railId legId quote,
      s.db.Bound railId legId quote → s'.db.Bound railId legId quote ∧
        ∀ quote', s'.db.Bound railId legId quote' → quote' = quote) ∧
    (∀ t new s', LegStep landing s (.send t new) s' ∨ LegStep landing s (.sendLost t new) s' →
      ∃ e quote fresh, s.calls t = some (.handle e quote (.admitted fresh)) ∧
        quote.railId = e.binding.railId ∧ s.db.Bound quote.railId quote.legId quote) ∧
    ∀ railId legId id s₁ more s₂ id' s₃, s.Records landing railId legId id s₁ →
      Steps (LegStep landing) s₁ more s₂ → s₂.Records landing railId legId id' s₃ → id' = id := by
  obtain ⟨hinv, -⟩ := (LegRun.initial_inv hchecked).run hrun
  refine ⟨?_, ?_, ?_, ?_⟩
  · intro id st hst
    rcases hinv.books.within id with hzero | ⟨st', hst', hwithin⟩
    · rw [hzero]
      exact hinv.books.checked st (List.mem_of_find?_eq_some hst)
    · cases hst.symm.trans hst'
      exact hwithin
  · intro more s' hmore railId legId quote hbound
    obtain ⟨hinv', hgrows⟩ := hinv.run hmore
    have hkept := hbound.grows hgrows.db
    refine ⟨hkept, ?_⟩
    rintro quote' ⟨row', hrow', hkey', hpayload'⟩
    obtain ⟨row, hrow, hkey, hpayload⟩ := hkept
    have hrows := hinv'.books.row_unique hrow' hrow (hkey'.trans hkey.symm)
    refine payload_inj ?_
    rw [← hpayload, ← hpayload', hrows]
  · intro t new s' hstep
    obtain ⟨e, quote, fresh, hcall⟩ :
        ∃ e quote fresh, s.calls t = some (.handle e quote (.admitted fresh)) := by
      rcases hstep with hsend | hlost
      · cases hsend with
        | send hcall => exact ⟨_, _, _, hcall⟩
      · cases hlost with
        | sendLost hcall => exact ⟨_, _, _, hcall⟩
    obtain ⟨⟨job, hjob, rfl⟩, hplan, -⟩ := hinv.calls t _ hcall
    obtain ⟨-, hrail⟩ := hplan fresh rfl
    exact ⟨e, job.payload, fresh, hcall, hrail, _, (hinv.books.jobs job hjob).2, rfl, rfl⟩
  · intro railId legId id s₁ more s₂ id' s₃ hfirst hmore hsecond
    exact hinv.records_once hfirst hmore hsecond

/-! ### A leg that is sent, lost and taken up again -/

namespace Sample

/-- A payout of 1000 at the source, with native evidence, and nothing planned. -/
def tables : LegDb where
  cash := { Cash.Sample.tables with
    settlements := [{
      settlementId := "SETTLEMENT", providerAccountId := "ACCOUNT", state := .PAID_AT_SOURCE
      asset := Cash.Sample.asset, sourceAmount := 1000, payoutConsumptionId := some "CONSUMPTION"
      executionProfile := .nativeTestnet }] }
  consumptions := [⟨"CONSUMPTION", "VERIFICATION", "ACCOUNT", .PAYOUT, .PROVEN, .attestcoinNative⟩]
  verifications := [⟨"VERIFICATION", .ACCEPTED⟩]
  jobs := []

/-- The executor of one rail. -/
def executor : Executor where
  binding := {
    railId := "RAIL", executionProfile := .nativeTestnet, status := .APPROVED
    partnerBinding := .LIVE_VERIFIED, sourceAsset := Cash.Sample.asset
    destinationAsset := Cash.Sample.asset, destinationReceiver := Cash.Sample.address '4'
    vaultId := "vault-1", sourceCap := 1000, maxFeeDestination := 10, maxSlippageBps := 100
    approvalRef := "APPROVAL", refundAddress := Cash.Sample.address '5' }
  isMock := false
  idempotentRequests := true

/-- A leg of 600. -/
def leg : Quote where
  legId := "LEG"
  settlementId := "SETTLEMENT"
  railId := "RAIL"
  sourceAmount := 600
  expectedDestination := 600
  minimumDestination := 595
  feeDestination := 1
  expiresAt := 100
  destinationReceiver := Cash.Sample.address '4'
  refundAddress := Cash.Sample.address '5'

/-- Its cash. -/
def cashFact : ReceiptFact := { Cash.Sample.payment with
  amount := 599
  sourceKind := .SETTLEMENT
  settlementId := some "SETTLEMENT" }

/-- The log that it arrives in. -/
def landing : String → String → Int × HexString × Int := fun _ _ => cashFact.key

/-- What the rail says when it is there. -/
def observation : LegObservation := ⟨.DESTINATION_RECEIVED, "REQUEST", some "RECEIPT"⟩

/-- The leg has its plan. -/
def planned : LegDb := tables.plan "RAIL" leg true

/-- The rail has its request. -/
def acknowledged : LegDb := planned.emit (ackEvent "RAIL" leg "REQUEST")

/-- One worker, and what the rail knows of the leg. -/
def state (db : LegDb) (call : Option LegCall) (requests : List (String × String)) : LegRun where
  db := db
  calls := Function.update (fun _ => none) 0 call
  requests := Function.update (fun _ => []) "RAIL" requests

theorem state_setCall {db : LegDb} {call next : Option LegCall} {requests : List (String × String)} :
    (state db call requests).setCall 0 next = state db next requests := by
  show LegRun.mk _ (Function.update (Function.update _ 0 call) 0 next) _ = _
  rw [Function.update_idem]
  rfl

theorem state_lockFree {db : LegDb} {requests : List (String × String)} {id : String} :
    (state db none requests).LockFree id := by
  intro t c hc
  have hnone : (state db none requests).calls t = none := by
    show Function.update (fun _ => none) 0 none t = none
    rw [Function.update_eq_self]
  rw [hnone] at hc
  cases hc

theorem state_initial : state tables none [] = LegRun.initial tables := by
  have hcalls : Function.update (fun _ : Nat => (none : Option LegCall)) 0 none = fun _ => none :=
    Function.update_eq_self ..
  have hrequests : Function.update (fun _ : String => ([] : List (String × String))) "RAIL" [] =
      fun _ => [] := Function.update_eq_self ..
  show LegRun.mk _ _ _ = LegRun.mk _ _ _
  rw [hcalls, hrequests]
  rfl

theorem state_send {db : LegDb} {call : Option LegCall} :
    (state db call []).send "RAIL" "LEG" "REQUEST" = state db call [("LEG", "REQUEST")] := by
  show LegRun.mk _ _ (Function.update (Function.update _ "RAIL" []) "RAIL" _) = LegRun.mk _ _ _
  rw [Function.update_idem]
  rfl

/-- The cash is there. -/
def received : LegDb :=
  match acknowledged.receive executor leg "RECEIPT" cashFact (some cashFact) with
  | .ok (_, db) => db
  | .error _ => acknowledged

/-- The leg is planned. -/
theorem plan_steps : Steps (LegStep landing) (state tables none [])
    [.readEnqueue 0 executor leg 50, .commitEnqueue 0] (state planned none []) := by
  have haccept : (tables.accept executor leg 50).toOption = some true := by decide +kernel
  have hread : LegStep landing (state tables none []) (.readEnqueue 0 executor leg 50) _ :=
    .readEnqueue rfl state_lockFree (toOption_eq_some.mp haccept)
  rw [state_setCall] at hread
  have hcommit : LegStep landing (state tables (some (.enqueue executor leg true)) [])
      (.commitEnqueue 0) _ := .commitEnqueue rfl
  rw [state_setCall] at hcommit
  exact .cons hread (.single hcommit)

theorem start_step {requests : List (String × String)} : LegStep landing (state planned none requests)
    (.start 0 executor ⟨jobKey "RAIL" "LEG", leg⟩)
    (state planned (some (.handle executor leg .unsent)) requests) := by
  have hjob : ⟨jobKey "RAIL" "LEG", leg⟩ ∈ planned.jobs := by decide +kernel
  have hsettlement : (planned.cash.settlement "SETTLEMENT").isSome = true := by decide +kernel
  have hack : planned.event (ackKey "RAIL" "LEG") = none := by decide +kernel
  have hbegin : planned.begin executor leg = .ok .unsent := by
    obtain ⟨st, hst⟩ := Option.isSome_iff_exists.mp hsettlement
    unfold LegDb.begin
    rw [show planned.cash.settlement leg.settlementId = some st from hst,
      show planned.event (ackKey executor.binding.railId leg.legId) = none from hack]
  have hstart : LegStep landing (state planned none requests)
      (.start 0 executor ⟨jobKey "RAIL" "LEG", leg⟩) _ := .start rfl hjob hbegin
  rw [state_setCall] at hstart
  exact hstart

/-- The leg is sent, and the worker is lost. -/
theorem send_steps : Steps (LegStep landing) (state planned none [])
    [.start 0 executor ⟨jobKey "RAIL" "LEG", leg⟩, .ask 0 50, .sendLost 0 "REQUEST"]
    (state planned none [("LEG", "REQUEST")]) := by
  have haccept : (planned.accept executor leg 50).toOption = some false := by decide +kernel
  have hstage : planned.reaccept executor leg 50 = .ok (.admitted false) := by
    unfold LegDb.reaccept
    rw [toOption_eq_some.mp haccept]
  have hlock : (state planned (some (.handle executor leg .unsent)) []).LockFree leg.settlementId := by
    intro t c hc hheld
    have hcall : (state planned (some (.handle executor leg .unsent)) []).calls t =
        if t = 0 then some (.handle executor leg .unsent) else none := by
      show Function.update (fun _ => none) 0 _ t = _
      rw [Function.update_apply]
    rw [hcall] at hc
    split at hc
    · cases hc
      exact absurd hheld.1 (by decide)
    · cases hc
  have hask : LegStep landing (state planned (some (.handle executor leg .unsent)) []) (.ask 0 50) _ :=
    .reaccept rfl rfl hlock hstage
  rw [state_setCall] at hask
  have hsend : LegStep landing (state planned (some (.handle executor leg (.admitted false))) [])
      (.sendLost 0 "REQUEST") _ := .sendLost rfl
  rw [show (state planned (some (.handle executor leg (.admitted false))) []).send
      executor.binding.railId leg.legId "REQUEST" = _ from state_send, state_setCall] at hsend
  exact .cons start_step (.cons hask (.single hsend))

/-- The next run of the job finds the request, and the cash arrives. -/
theorem receive_steps : Steps (LegStep landing) (state planned none [("LEG", "REQUEST")])
    [.start 0 executor ⟨jobKey "RAIL" "LEG", leg⟩, .ask 0 200, .acknowledge 0,
      .receive 0 observation (some cashFact) (some cashFact)]
    (state received (some (.handle executor leg (.received "REQUEST" "RECEIPT" none)))
      [("LEG", "REQUEST")]) := by
  have hask : LegStep landing (state planned (some (.handle executor leg .unsent))
      [("LEG", "REQUEST")]) (.ask 0 200) _ := .found rfl rfl rfl
  rw [state_setCall] at hask
  have hacknowledge : LegStep landing (state planned
      (some (.handle executor leg (.referred "REQUEST" none))) [("LEG", "REQUEST")])
      (.acknowledge 0) _ := .acknowledge rfl
  rw [state_setCall] at hacknowledge
  have hlanding : ∀ fact ∈ some cashFact, fact.key = landing "RAIL" "REQUEST" := by
    intro fact hfact
    cases hfact
    rfl
  have hreceive : (acknowledged.receive executor leg "RECEIPT" cashFact (some cashFact)).toOption =
      some (⟨some "CASH", true, none⟩, received) := by decide +kernel
  have hreceived : LegStep landing (state acknowledged
      (some (.handle executor leg (.acknowledged "REQUEST" none))) [("LEG", "REQUEST")])
      (.receive 0 observation (some cashFact) (some cashFact)) _ :=
    .receive rfl rfl rfl hlanding (toOption_eq_some.mp hreceive) rfl
  rw [state_setCall] at hreceived
  exact .cons start_step (.cons hask (.cons hacknowledge (.single hreceived)))

theorem received_steps : ∃ actions, Steps (LegStep landing) (.initial tables) actions
    (state received (some (.handle executor leg (.received "REQUEST" "RECEIPT" none)))
      [("LEG", "REQUEST")]) :=
  ⟨_, state_initial ▸ (plan_steps.append send_steps).append receive_steps⟩

end Sample

/-- The leg is planned once and received once, and it stays within the settlement. -/
theorem legs_pay_once_sample :
    Sample.received.reserved "SETTLEMENT" = 600 ∧
      Sample.received.cash.receipts.map CashReceipt.amount = [599] ∧
      ∀ st, Sample.received.cash.settlement "SETTLEMENT" = some st →
        Sample.received.reserved "SETTLEMENT" ≤ st.sourceAmount := by
  have hchecked : Sample.tables.Checked := by
    show ∀ st ∈ Sample.tables.cash.settlements, 0 ≤ st.sourceAmount
    decide +kernel
  obtain ⟨actions, hrun⟩ := Sample.received_steps
  exact ⟨by decide +kernel, by decide +kernel,
    fun st hst => (legs_pay_once hchecked hrun).1 "SETTLEMENT" st hst⟩

end Rackline.Legs
