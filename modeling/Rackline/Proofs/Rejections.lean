import Rackline.Proofs.Reconciled

/-!
# `Rackline.Proofs.Rejections`: what a rejected observation leaves behind

No turn of either loop reads the exceptions, so exceptions that stand in front of a ledger go
through `reconcile` untouched (`merge_after`, `apply_after`). A rejected observation whose turn
writes its exception only is therefore as good as absent.

One kind of rejection writes more. The source event of a consumed observation is entered before its
emitter, its anchor and its amount are looked at, so that a rejection for one of these keeps the
source event (`Observation.Enters`). A later observation that consumes it is then a duplicate
(`Apart.poisoned`), or the source event stays consumed by nobody. `rejected_leaves_no_trace` says
that these, and no others, leave a trace.
-/

set_option autoImplicit false

namespace Rackline.Reconciler

/-! ### Exceptions in front of a ledger -/

/-- The ledger with the exceptions `es` in front of its own. -/
def Ledger.after (es : List ExceptionEntry) (L : Ledger) : Ledger :=
  { L with exceptions := es ++ L.exceptions }

section
variable (es : List ExceptionEntry) (L : Ledger)

@[simp] theorem after_receivables : (L.after es).receivables = L.receivables := rfl

@[simp] theorem after_except (code : ExceptionCode) (id observation : Option String) :
    (L.after es).except code id observation = (L.except code id observation).after es := by
  show { L with exceptions := (es ++ L.exceptions) ++ [_] } =
    { L with exceptions := es ++ (L.exceptions ++ [_]) }
  rw [List.append_assoc]

@[simp] theorem after_setReceivable (k : String) (r : Receivable) :
    (L.after es).setReceivable k r = (L.setReceivable k r).after es := rfl

@[simp] theorem after_withSettlement (id : Option String) (f : Settlement → Settlement) :
    (L.after es).withSettlement id f = (L.withSettlement id f).after es := rfl

@[simp] theorem after_addCash (c : CashEntry) :
    (L.after es).addCash c = (L.addCash c).after es := rfl

@[simp] theorem after_revoke (r : Receivable) : (L.after es).revoke r = (L.revoke r).after es := rfl

@[simp] theorem after_refuse (e : EconomicEvent) (code : ExceptionCode) :
    refuse e (L.after es) code = (refuse e L code).map (Ledger.after es) :=
  congrArg some (after_except es L code _ _)

/-- A turn of the first loop. -/
theorem merge_after (o : Observation) : merge (L.after es) o = (merge L o).after es := by
  have hevent : ∀ L : Ledger, mergeEvent (L.after es) o = (mergeEvent L o).after es := by
    intro L
    unfold mergeEvent
    have hsame : (L.after es).event o.economicEventId = L.event o.economicEventId := rfl
    rw [hsame]
    cases L.event o.economicEventId with
    | none => rfl
    | some e =>
      dsimp only
      split
      · exact after_except es L _ _ _
      · rfl
  have hchecked : ∀ L : Ledger, mergeChecked (L.after es) o = (mergeChecked L o).after es := by
    intro L
    unfold mergeChecked
    split
    · exact after_except es L _ _ _
    split
    · exact after_except es L _ _ _
    · exact hevent L
  unfold merge
  split
  · exact after_except es L _ _ _
  cases o.consumes with
  | none => exact hchecked L
  | some sev =>
    show (if sev ∈ L.consumedSourceEvents then _ else _) = _
    dsimp only
    split
    · exact after_except es L _ _ _
    · exact hchecked { L with consumedSourceEvents := sev :: L.consumedSourceEvents }

end

/-- A turn of the second loop. -/
theorem apply_after (facilities : FacilityTable) (e : EconomicEvent) (es : List ExceptionEntry)
    (L : Ledger) :
    apply facilities e (L.after es) = (apply facilities e L).map (Ledger.after es) := by
  unfold apply
  cases e.eventType with
  | OBLIGATION =>
    show obligation e (L.after es) = (obligation e L).map (Ledger.after es)
    unfold obligation
    simp only [after_receivables]
    cases L.receivables (key e.account e.obligationRef) with
    | none => cases e.amount <;> simp
    | some r =>
      dsimp only
      split
      · simp
      · cases e.amount <;> simp
  | ASSIGNMENT =>
    show assignment facilities e (L.after es) = (assignment facilities e L).map (Ledger.after es)
    unfold assignment
    simp only [after_receivables]
    split
    · simp
    cases L.receivables (key e.account e.obligationRef) with
    | none => simp
    | some r =>
      dsimp only
      split <;> simp
  | CORRECTION =>
    show correction e (L.after es) = (correction e L).map (Ledger.after es)
    unfold correction
    have htarget : (e.target.bind (L.after es).event).map (fun t => key e.account t.obligationRef) =
        (e.target.bind L.event).map fun t => key e.account t.obligationRef := rfl
    simp only [htarget]
    cases (e.target.bind L.event).map fun t => key e.account t.obligationRef with
    | none => simp
    | some k =>
      simp only [after_receivables]
      cases L.receivables k with
      | none => simp
      | some r =>
        dsimp only
        split
        · simp
        cases e.delta with
        | none => rfl
        | some delta =>
          simp only [Option.bind_eq_bind, Option.bind_some, Option.pure_def]
          split <;> rfl
  | PAYOUT =>
    show payout e (L.after es) = (payout e L).map (Ledger.after es)
    have htarget : payoutTarget e (L.after es) = payoutTarget e L := rfl
    unfold payout
    rw [htarget]
    cases e.amount with
    | none => rfl
    | some amount =>
      simp only [Option.bind_eq_bind, Option.bind_some, Option.pure_def]
      cases payoutTarget e L with
      | none => split <;> simp
      | some p =>
        obtain ⟨k, r⟩ := p
        dsimp only
        by_cases hasset : r.asset = e.asset <;>
          by_cases hprovenance : payoutProvenance e (some (k, r)) = .PROVIDER_SETTLEMENT <;>
          split <;> simp [hasset, hprovenance]
  | CANCELLATION =>
    show cancellation e (L.after es) = (cancellation e L).map (Ledger.after es)
    unfold cancellation
    simp only [after_receivables]
    cases L.receivables (key e.account e.obligationRef) with
    | none => simp
    | some r =>
      cases e.amount with
      | none => rfl
      | some amount =>
        simp only [Option.bind_eq_bind, Option.bind_some, Option.pure_def]
        split
        · simp
        · cases r.usedInDecision <;> simp
  | LEG =>
    show leg e (L.after es) = (leg e L).map (Ledger.after es)
    unfold leg
    cases e.amount <;> simp
  | DESTINATION_RECEIPT =>
    show destinationReceipt e (L.after es) = (destinationReceipt e L).map (Ledger.after es)
    unfold destinationReceipt
    cases e.amount <;> simp
  | ALLOCATION =>
    show allocation facilities e (L.after es) = (allocation facilities e L).map (Ledger.after es)
    unfold allocation
    cases e.facility with
    | none => simp
    | some fid =>
      dsimp only
      split
      · simp
      cases e.amount with
      | none => rfl
      | some amount =>
        show (if allocated L.allocations e.settlementId + amount >
            received L.cash e.settlementId then _ else some _) = Option.map _
          (if allocated L.allocations e.settlementId + amount >
            received L.cash e.settlementId then _ else some _)
        split
        · simp
        · rfl
  | DECISION_USE =>
    show decisionUse e (L.after es) = (decisionUse e L).map (Ledger.after es)
    unfold decisionUse
    simp only [after_receivables]
    cases L.receivables (key e.account e.obligationRef) <;> simp
  | other name => exact after_refuse es L e _

/-! ### What the second loop leaves alone -/

/-- The number of duplicate consumptions. -/
def Ledger.duplicates (L : Ledger) : Nat :=
  L.exceptions.countP fun x => x.code = .DUPLICATE_CONSUMPTION

/-- Nothing was consumed, and no duplicate was found. -/
def Stays (L : Ledger) (x : Option Ledger) : Prop :=
  ∀ M, x = some M → M.consumedSourceEvents = L.consumedSourceEvents ∧ M.duplicates = L.duplicates

theorem duplicates_except (L : Ledger) (code : ExceptionCode) (id observation : Option String) :
    (L.except code id observation).duplicates =
      L.duplicates + if code = .DUPLICATE_CONSUMPTION then 1 else 0 := by
  show (L.exceptions ++ [_]).countP _ = L.exceptions.countP _ + _
  rw [List.countP_append, List.countP_singleton]
  simp

theorem Stays.none (L : Ledger) : Stays L none := fun _ h => nomatch h

theorem Stays.some {L M : Ledger} (hconsumed : M.consumedSourceEvents = L.consumedSourceEvents)
    (hexceptions : M.exceptions = L.exceptions) : Stays L (some M) := by
  intro M' hM
  cases hM
  refine ⟨hconsumed, ?_⟩
  unfold Ledger.duplicates
  rw [hexceptions]

theorem refuse_stays {e : EconomicEvent} {L : Ledger} {code : ExceptionCode}
    (h : code ≠ .DUPLICATE_CONSUMPTION) : Stays L (refuse e L code) := by
  intro M hM
  cases hM
  refine ⟨rfl, ?_⟩
  rw [duplicates_except, if_neg h, Nat.add_zero]

theorem Stays.trans {L M : Ledger} {x : Option Ledger} (h : Stays L (Option.some M))
    (hx : Stays M x) : Stays L x := by
  intro N hN
  have hM := h M rfl
  have hN := hx N hN
  exact ⟨hN.1.trans hM.1, hN.2.trans hM.2⟩

theorem payout_stays (e : EconomicEvent) (L : Ledger) : Stays L (payout e L) := by
  unfold payout
  cases e.amount with
  | none => exact .none L
  | some amount =>
    simp only [Option.bind_eq_bind, Option.bind_some, Option.pure_def]
    -- A mismatch is an exception, and all that follows writes none.
    generalize hM : (if (payoutTarget e L).any (fun r => r.2.asset ≠ e.asset) then
      L.except .TOKEN_MISMATCH (some e.economicEventId) none else L) = M
    have hmismatch : Stays L (some M) := by
      rw [← hM]
      split
      · exact refuse_stays (e := e) (by decide)
      · exact .some rfl rfl
    apply hmismatch.trans
    cases payoutTarget e L with
    | none => split <;> exact .some rfl rfl
    | some p =>
      obtain ⟨k, r⟩ := p
      by_cases hcounted : decide (r.asset ≠ e.asset) = false ∧
          payoutProvenance e (some (k, r)) = .PROVIDER_SETTLEMENT
      · simp only [Option.any_some, if_pos hcounted]
        split <;> exact .some rfl rfl
      · simp only [Option.any_some, if_neg hcounted]
        split <;> exact .some rfl rfl

theorem apply_stays (facilities : FacilityTable) (e : EconomicEvent) (L : Ledger) :
    Stays L (apply facilities e L) := by
  unfold apply
  cases e.eventType with
  | OBLIGATION =>
    show Stays L (obligation e L)
    unfold obligation
    dsimp only
    split
    · split
      · exact refuse_stays (by decide)
      · cases e.amount with
        | none => exact .none L
        | some amount => exact .some rfl rfl
    · cases e.amount with
      | none => exact .none L
      | some amount => exact .some rfl rfl
  | ASSIGNMENT =>
    show Stays L (assignment facilities e L)
    unfold assignment
    dsimp only
    split
    · exact refuse_stays (by decide)
    split
    · exact refuse_stays (by decide)
    split
    · exact refuse_stays (by decide)
    · exact .some rfl rfl
  | CORRECTION =>
    show Stays L (correction e L)
    unfold correction
    split
    · exact refuse_stays (by decide)
    split
    · exact refuse_stays (by decide)
    split
    · exact refuse_stays (by decide)
    cases e.delta with
    | none => exact .none L
    | some delta =>
      simp only [Option.bind_eq_bind, Option.bind_some, Option.pure_def]
      split <;> exact .some rfl rfl
  | PAYOUT => exact payout_stays e L
  | CANCELLATION =>
    show Stays L (cancellation e L)
    unfold cancellation
    dsimp only
    split
    · exact refuse_stays (by decide)
    cases e.amount with
    | none => exact .none L
    | some amount =>
      simp only [Option.bind_eq_bind, Option.bind_some, Option.pure_def]
      split
      · exact refuse_stays (by decide)
      split <;> exact .some rfl rfl
  | LEG =>
    show Stays L (leg e L)
    unfold leg
    cases e.amount with
    | none => exact .none L
    | some amount => exact .some rfl rfl
  | DESTINATION_RECEIPT =>
    show Stays L (destinationReceipt e L)
    unfold destinationReceipt
    cases e.amount with
    | none => exact .none L
    | some amount => exact .some rfl rfl
  | ALLOCATION =>
    show Stays L (allocation facilities e L)
    unfold allocation
    split
    · exact refuse_stays (by decide)
    split
    · exact refuse_stays (by decide)
    cases e.amount with
    | none => exact .none L
    | some amount =>
      simp only [Option.bind_eq_bind, Option.bind_some, Option.pure_def]
      split
      · exact refuse_stays (by decide)
      · exact .some rfl rfl
  | DECISION_USE =>
    show Stays L (decisionUse e L)
    unfold decisionUse
    dsimp only
    split
    · exact .some rfl rfl
    · exact .some rfl rfl
  | other name => exact refuse_stays (by decide)

/-! ### A turn of the first loop -/

/-- The exception with which the first loop rejects `o` on the ledger `L`. -/
def rejection (L : Ledger) (o : Observation) : Option ExceptionEntry :=
  (merge L o).exceptions[L.exceptions.length]?

/-- The verdicts of the first loop on a list of observations. -/
def verdicts (L : Ledger) : List Observation → List (Option ExceptionEntry)
  | [] => []
  | o :: obs => rejection L o :: verdicts (merge L o) obs

/-- The turn of `o` enters a source event into `consumed`. -/
def Observation.Enters (consumed : List String) (o : Observation) : Prop :=
  o.tampered = false ∧ ∃ sev, o.consumes = some sev ∧ sev ∉ consumed

/-- `o` consumes a source event of `consumed` once more. -/
def Observation.Repeats (consumed : List String) (o : Observation) : Prop :=
  o.tampered = false ∧ ∃ sev, o.consumes = some sev ∧ sev ∈ consumed

/-- The source events after the turn of `o`. -/
def Observation.consumedAfter (consumed : List String) (o : Observation) : List String :=
  if o.tampered then consumed
  else
    match o.consumes with
    | none => consumed
    | some sev => if sev ∈ consumed then consumed else sev :: consumed

/-- What a turn does to the ledger: it merges into an event, or it writes one exception. -/
inductive Turn (L : Ledger) (consumed : List String) (repeats : Prop) : Ledger → Prop
  | merged (events : List EconomicEvent) : ¬ repeats → Turn L consumed repeats { L with
      economicEvents := events
      consumedSourceEvents := consumed }
  | rejected (entry : ExceptionEntry) : (entry.code = .DUPLICATE_CONSUMPTION ↔ repeats) →
      Turn L consumed repeats { L with
        exceptions := L.exceptions ++ [entry]
        consumedSourceEvents := consumed }

namespace Observation

variable {o : Observation} {consumed : List String} {sev : String}

theorem consumes_chain (h : o.consumes = some sev) : o.source = .CHAIN := by
  unfold consumes at h
  split at h
  case isTrue hchain => exact hchain.1
  case isFalse => cases h

theorem consumedAfter_tampered (h : o.tampered = true) : o.consumedAfter consumed = consumed := by
  unfold consumedAfter
  rw [if_pos h]

theorem consumedAfter_none (h : o.consumes = none) : o.consumedAfter consumed = consumed := by
  unfold consumedAfter
  rw [h]
  split <;> rfl

theorem consumedAfter_mem (h : o.consumes = some sev) (hmem : sev ∈ consumed) :
    o.consumedAfter consumed = consumed := by
  unfold consumedAfter
  rw [h]
  split
  · rfl
  · exact if_pos hmem

theorem consumedAfter_enters (htampered : o.tampered = false) (h : o.consumes = some sev)
    (hnew : sev ∉ consumed) : o.consumedAfter consumed = sev :: consumed := by
  unfold consumedAfter
  rw [if_neg (by simp [htampered]), h]
  exact if_neg hnew

/-- A turn that enters nothing leaves the source events as they are. -/
theorem consumedAfter_same (h : ¬ o.Enters consumed) : o.consumedAfter consumed = consumed := by
  cases htampered : o.tampered with
  | true => exact consumedAfter_tampered htampered
  | false =>
    cases hconsumes : o.consumes with
    | none => exact consumedAfter_none hconsumes
    | some sev =>
      by_cases hmem : sev ∈ consumed
      · exact consumedAfter_mem hconsumes hmem
      · exact absurd ⟨htampered, sev, hconsumes, hmem⟩ h

end Observation

theorem mergeChecked_turn (L : Ledger) (consumed : List String) {repeats : Prop}
    (hrepeats : ¬ repeats) (o : Observation) :
    Turn L consumed repeats (mergeChecked { L with consumedSourceEvents := consumed } o) := by
  unfold mergeChecked
  split
  · exact .rejected _ (iff_of_false (by simp) hrepeats)
  split
  · exact .rejected _ (iff_of_false (by simp) hrepeats)
  unfold mergeEvent
  split
  · exact .merged _ hrepeats
  split
  · exact .rejected _ (iff_of_false (by simp) hrepeats)
  · exact .merged _ hrepeats

theorem merge_turn (L : Ledger) (o : Observation) :
    Turn L (o.consumedAfter L.consumedSourceEvents) (o.Repeats L.consumedSourceEvents)
      (merge L o) := by
  unfold merge
  split
  case isTrue htampered =>
    rw [Observation.consumedAfter_tampered htampered.2]
    refine .rejected _ (iff_of_false (by simp) ?_)
    rintro ⟨hfalse, -⟩
    exact nomatch hfalse.symm.trans htampered.2
  case isFalse htampered =>
    split
    next hnone =>
      rw [Observation.consumedAfter_none hnone]
      refine mergeChecked_turn L _ ?_ o
      rintro ⟨-, sev, hsev, -⟩
      exact nomatch hnone.symm.trans hsev
    next sev hsev =>
      -- A tampered locator is looked at in native observations only, and this one is native.
      have hfalse : o.tampered = false := by
        cases h : o.tampered with
        | false => rfl
        | true => exact absurd ⟨Observation.consumes_chain hsev, h⟩ htampered
      split
      case isTrue hmem =>
        rw [Observation.consumedAfter_mem hsev hmem]
        exact .rejected _ ⟨fun _ => ⟨hfalse, sev, hsev, hmem⟩, fun _ => rfl⟩
      case isFalse hnew =>
        rw [Observation.consumedAfter_enters hfalse hsev hnew]
        refine mergeChecked_turn L _ ?_ o
        rintro ⟨-, sev', hsev', hmem⟩
        cases hsev.symm.trans hsev'
        exact hnew hmem

theorem merge_consumed (L : Ledger) (o : Observation) :
    (merge L o).consumedSourceEvents = o.consumedAfter L.consumedSourceEvents := by
  have hturn := merge_turn L o
  generalize merge L o = M at hturn ⊢
  cases hturn <;> rfl

theorem merge_repeats {L : Ledger} {o : Observation} (h : o.Repeats L.consumedSourceEvents) :
    (merge L o).duplicates = L.duplicates + 1 := by
  have hturn := merge_turn L o
  generalize merge L o = M at hturn ⊢
  cases hturn with
  | merged events hrepeats => exact absurd h hrepeats
  | rejected entry hcode =>
    show (L.exceptions ++ [entry]).countP _ = L.exceptions.countP _ + 1
    rw [List.countP_append, List.countP_singleton, if_pos (by simp [hcode.mpr h])]

theorem merge_fresh {L : Ledger} {o : Observation} (h : ¬ o.Repeats L.consumedSourceEvents) :
    (merge L o).duplicates = L.duplicates := by
  have hturn := merge_turn L o
  generalize merge L o = M at hturn ⊢
  cases hturn with
  | merged events hrepeats => rfl
  | rejected entry hcode =>
    show (L.exceptions ++ [entry]).countP _ = L.exceptions.countP _
    rw [List.countP_append, List.countP_singleton, if_neg (by simp [mt hcode.mp h]), Nat.add_zero]

/-- A rejected turn writes its exception, and the source event if it enters one. -/
theorem merge_rejected {L : Ledger} {o : Observation} {entry : ExceptionEntry}
    (h : rejection L o = some entry) :
    merge L o = { L with
      exceptions := L.exceptions ++ [entry]
      consumedSourceEvents := o.consumedAfter L.consumedSourceEvents } ∧
    (entry.code = .DUPLICATE_CONSUMPTION ↔ o.Repeats L.consumedSourceEvents) := by
  have hturn := merge_turn L o
  unfold rejection at h
  generalize merge L o = M at h hturn
  cases hturn with
  | merged events hrepeats =>
    rw [List.getElem?_eq_none (Nat.le_refl _)] at h
    cases h
  | rejected entry' hcode =>
    have hsame : some entry' = some entry := List.getElem?_concat_length.symm.trans h
    cases hsame
    exact ⟨rfl, hcode⟩

/-! ### An observation that is taken out -/

instance : IsTrans Observation Observation.before where
  trans a b c := by
    rintro (hab | ⟨hab, hab'⟩) (hbc | ⟨hbc, hbc'⟩)
    · exact .inl (String.lt_trans hab hbc)
    · exact .inl (hbc ▸ hab)
    · exact .inl (hab ▸ hbc)
    · exact .inr ⟨hab.trans hbc, String.le_trans hab' hbc'⟩

instance : Std.Total Observation.before where
  total a b := by
    by_cases heq : a.observedAt = b.observedAt
    · exact (String.le_total a.observationId b.observationId).imp (fun h => .inr ⟨heq, h⟩)
        (fun h => .inr ⟨heq.symm, h⟩)
    by_cases hlt : a.observedAt < b.observedAt
    · exact .inl (.inl hlt)
    · have hle := String.not_lt.mp hlt
      exact .inr (.inl (String.not_le.mp fun h => heq (String.le_antisymm h hle)))

/-- The observation `o` between `xs` and `ys` is merged between `pre` and `post`, and without it
these are merged in the same order. -/
def MergedBetween (xs : List Observation) (o : Observation) (ys pre post : List Observation) :
    Prop :=
  (xs ++ o :: ys).insertionSort Observation.before = pre ++ o :: post ∧
  (xs ++ ys).insertionSort Observation.before = pre ++ post

/-- One more observation goes to the same place with and without `o`. -/
theorem orderedInsert_between (a o : Observation) :
    ∀ pre post : List Observation, (o :: post).Pairwise Observation.before →
      ∃ pre' post',
        (pre ++ o :: post).orderedInsert Observation.before a = pre' ++ o :: post' ∧
        (pre ++ post).orderedInsert Observation.before a = pre' ++ post' := by
  intro pre
  induction pre with
  | nil =>
    intro post hsorted
    by_cases hao : a.before o
    · -- What comes before `o` comes before all that follows it.
      refine ⟨[a], post, by simp [hao], ?_⟩
      cases post with
      | nil => rfl
      | cons b post =>
        have hob := (List.pairwise_cons.mp hsorted).1 b List.mem_cons_self
        have hab : a.before b := Trans.trans hao hob
        simp [hab]
    · exact ⟨[], post.orderedInsert Observation.before a, by simp [hao], rfl⟩
  | cons b pre ih =>
    intro post hsorted
    by_cases hab : a.before b
    · exact ⟨a :: b :: pre, post, by simp [hab], by simp [hab]⟩
    · obtain ⟨pre', post', hwith, hwithout⟩ := ih post hsorted
      exact ⟨b :: pre', post', by simp [hab, hwith], by simp [hab, hwithout]⟩

/-- Each observation has its place in the merge. -/
theorem mergedBetween (xs : List Observation) (o : Observation) (ys : List Observation) :
    ∃ pre post, MergedBetween xs o ys pre post := by
  induction xs with
  | nil =>
    exact ⟨_, _, List.orderedInsert_eq_take_drop _ _ _, (List.takeWhile_append_dropWhile).symm⟩
  | cons a xs ih =>
    obtain ⟨pre, post, hwith, hwithout⟩ := ih
    have hsorted := List.pairwise_insertionSort Observation.before (xs ++ o :: ys)
    rw [hwith] at hsorted
    obtain ⟨pre', post', hwith', hwithout'⟩ :=
      orderedInsert_between a o pre post (List.pairwise_append.mp hsorted).2.1
    refine ⟨pre', post', ?_, ?_⟩
    · rw [List.cons_append, List.insertionSort_cons, hwith, hwith']
    · rw [List.cons_append, List.insertionSort_cons, hwithout, hwithout']

/-! ### No trace -/

/-- The ledgers are the same but for one exception of the first. -/
structure Ledger.SameBut (entry : ExceptionEntry) (L L' : Ledger) : Prop where
  economicEvents : L.economicEvents = L'.economicEvents
  receivables : L.receivables = L'.receivables
  settlements : L.settlements = L'.settlements
  cash : L.cash = L'.cash
  allocations : L.allocations = L'.allocations
  facilityDebt : L.facilityDebt = L'.facilityDebt
  consumedSourceEvents : ∀ sev, sev ∈ L.consumedSourceEvents ↔ sev ∈ L'.consumedSourceEvents
  decisionsRevoked : ∀ f, f ∈ L.decisionsRevoked ↔ f ∈ L'.decisionsRevoked
  exceptions : ∃ earlier later, L.exceptions = earlier ++ entry :: later ∧
    L'.exceptions = earlier ++ later

/-- The ledger without its exceptions. -/
def Ledger.clear (L : Ledger) : Ledger := { L with exceptions := [] }

theorem clear_after (L : Ledger) (es : List ExceptionEntry) :
    L.clear.after es = { L with exceptions := es } := by
  show { L with exceptions := es ++ [] } = _
  rw [List.append_nil]

theorem rejection_after (es : List ExceptionEntry) (L : Ledger) (o : Observation) :
    rejection (L.after es) o = rejection L o := by
  unfold rejection
  rw [merge_after]
  show (es ++ (merge L o).exceptions)[(es ++ L.exceptions).length]? = _
  rw [List.length_append, List.getElem?_append_right (Nat.le_add_right _ _),
    Nat.add_sub_cancel_left]

/-- The whole first loop. -/
theorem foldl_merge_after (es : List ExceptionEntry) : ∀ (obs : List Observation) (L : Ledger),
    obs.foldl merge (L.after es) = (obs.foldl merge L).after es := by
  intro obs
  induction obs with
  | nil => intro L; rfl
  | cons o obs ih =>
    intro L
    rw [List.foldl_cons, List.foldl_cons, merge_after, ih]

theorem verdicts_after (es : List ExceptionEntry) : ∀ (obs : List Observation) (L : Ledger),
    verdicts (L.after es) obs = verdicts L obs := by
  intro obs
  induction obs with
  | nil => intro L; rfl
  | cons o obs ih =>
    intro L
    show rejection (L.after es) o :: verdicts (merge (L.after es) o) obs = _
    rw [rejection_after, merge_after, ih]
    rfl

/-- The whole second loop. -/
theorem foldlM_apply_after (facilities : FacilityTable) (es : List ExceptionEntry) :
    ∀ (events : List EconomicEvent) (L : Ledger),
      events.foldlM (fun L e => apply facilities e L) (L.after es) =
        (events.foldlM (fun L e => apply facilities e L) L).map (Ledger.after es) := by
  intro events
  induction events with
  | nil => intro L; rfl
  | cons e events ih =>
    intro L
    rw [List.foldlM_cons, List.foldlM_cons, apply_after]
    cases apply facilities e L with
    | none => rfl
    | some M => exact ih M

theorem foldlM_apply_stays (facilities : FacilityTable) : ∀ (events : List EconomicEvent)
    (L : Ledger), Stays L (events.foldlM (fun L e => apply facilities e L) L) := by
  intro events
  induction events with
  | nil => intro L; exact .some rfl rfl
  | cons e events ih =>
    intro L
    rw [List.foldlM_cons]
    have hturn := apply_stays facilities e L
    cases h : apply facilities e L with
    | none => exact .none L
    | some M =>
      rw [h] at hturn
      exact hturn.trans (ih M)

/-! ### A trace -/

/-- The source event `sev` is consumed in the first ledger and not in the second, or it is so in
both and the first has found one more duplicate. -/
inductive Apart (sev : String) (L L' : Ledger) : Prop
  | entered : sev ∉ L'.consumedSourceEvents →
      (∀ s, s ∈ L.consumedSourceEvents ↔ s = sev ∨ s ∈ L'.consumedSourceEvents) →
      L.duplicates = L'.duplicates → Apart sev L L'
  | poisoned : (∀ s, s ∈ L.consumedSourceEvents ↔ s ∈ L'.consumedSourceEvents) →
      L.duplicates = L'.duplicates + 1 → Apart sev L L'

theorem Observation.mem_consumedAfter {o : Observation} {consumed : List String} {s : String} :
    s ∈ o.consumedAfter consumed ↔ s ∈ consumed ∨ (o.tampered = false ∧ o.consumes = some s) := by
  cases htampered : o.tampered with
  | true => simp [consumedAfter_tampered htampered]
  | false =>
    cases hconsumes : o.consumes with
    | none => simp [consumedAfter_none hconsumes]
    | some sev =>
      by_cases hmem : sev ∈ consumed
      · rw [consumedAfter_mem hconsumes hmem]
        refine ⟨.inl, ?_⟩
        rintro (h | ⟨-, h⟩)
        · exact h
        · cases h
          exact hmem
      · rw [consumedAfter_enters htampered hconsumes hmem, List.mem_cons]
        simp [or_comm, eq_comm]

/-- The first loop keeps the two apart. -/
theorem Apart.merge {sev : String} {L L' : Ledger} (h : Apart sev L L') (o : Observation) :
    Apart sev (merge L o) (merge L' o) := by
  have hmem : ∀ (M : Ledger) (s : String), s ∈ (Reconciler.merge M o).consumedSourceEvents ↔
      s ∈ M.consumedSourceEvents ∨ (o.tampered = false ∧ o.consumes = some s) := by
    intro M s
    rw [merge_consumed, Observation.mem_consumedAfter]
  -- Unless `o` consumes what the two ledgers differ on, it repeats in both or in neither.
  have hsame : (∀ s, o.tampered = false → o.consumes = some s →
      (s ∈ L.consumedSourceEvents ↔ s ∈ L'.consumedSourceEvents)) →
      (o.Repeats L.consumedSourceEvents ↔ o.Repeats L'.consumedSourceEvents) := by
    intro hs
    constructor
    · rintro ⟨ht, s, hc, hm⟩
      exact ⟨ht, s, hc, (hs s ht hc).mp hm⟩
    · rintro ⟨ht, s, hc, hm⟩
      exact ⟨ht, s, hc, (hs s ht hc).mpr hm⟩
  have hcount : ∀ d, (o.Repeats L.consumedSourceEvents ↔ o.Repeats L'.consumedSourceEvents) →
      L.duplicates = L'.duplicates + d →
      (Reconciler.merge L o).duplicates = (Reconciler.merge L' o).duplicates + d := by
    intro d hiff hd
    by_cases hr : o.Repeats L.consumedSourceEvents
    · rw [merge_repeats hr, merge_repeats (hiff.mp hr), hd]
      omega
    · rw [merge_fresh hr, merge_fresh (mt hiff.mpr hr), hd]
  cases h with
  | entered hnew hset hdup =>
    by_cases ho : o.tampered = false ∧ o.consumes = some sev
    · -- The first ledger finds a duplicate where the second consumes.
      have hr : o.Repeats L.consumedSourceEvents := ⟨ho.1, sev, ho.2, (hset sev).mpr (.inl rfl)⟩
      have hr' : ¬ o.Repeats L'.consumedSourceEvents := by
        rintro ⟨-, s, hs, hm⟩
        cases ho.2.symm.trans hs
        exact hnew hm
      refine .poisoned ?_ (by rw [merge_repeats hr, merge_fresh hr', hdup])
      intro s
      rw [hmem, hmem, hset]
      constructor
      · rintro ((rfl | hs) | hs)
        · exact .inr ho
        · exact .inl hs
        · exact .inr hs
      · rintro (hs | hs)
        · exact .inl (.inr hs)
        · exact .inr hs
    · refine .entered ?_ ?_ (hcount 0 (hsame ?_) hdup)
      · rw [hmem]
        rintro (hm | hm)
        · exact hnew hm
        · exact ho hm
      · intro s
        rw [hmem, hmem, hset, or_assoc]
      · intro s ht hc
        rw [hset]
        refine ⟨?_, .inr⟩
        rintro (rfl | hm)
        · exact absurd ⟨ht, hc⟩ ho
        · exact hm
  | poisoned hset hdup =>
    refine .poisoned ?_ (hcount 1 (hsame fun s _ _ => hset s) hdup)
    intro s
    rw [hmem, hmem, hset]

theorem Apart.foldl {sev : String} : ∀ (obs : List Observation) {L L' : Ledger},
    Apart sev L L' → Apart sev (obs.foldl Reconciler.merge L) (obs.foldl Reconciler.merge L') := by
  intro obs
  induction obs with
  | nil => exact fun h => h
  | cons o obs ih => exact fun h => ih (h.merge o)

/-- The second loop keeps them apart too. -/
theorem Apart.applied {sev : String} {L L' : Ledger} (h : Apart sev L L') {x x' : Option Ledger}
    (hx : Stays L x) (hx' : Stays L' x') {M M' : Ledger} (hM : x = some M) (hM' : x' = some M') :
    Apart sev M M' := by
  obtain ⟨hc, hd⟩ := hx M hM
  obtain ⟨hc', hd'⟩ := hx' M' hM'
  cases h with
  | entered hnew hset hdup =>
    refine .entered ?_ ?_ ?_
    · rwa [hc']
    · rwa [hc, hc']
    · rw [hd, hd', hdup]
  | poisoned hset hdup =>
    refine .poisoned ?_ ?_
    · rwa [hc, hc']
    · rw [hd, hd', hdup]

/-- Ledgers that are the same but for an exception of another kind are not apart. -/
theorem Ledger.SameBut.not_apart {entry : ExceptionEntry} {L L' : Ledger} (h : L.SameBut entry L')
    (hcode : entry.code ≠ .DUPLICATE_CONSUMPTION) (sev : String) : ¬ Apart sev L L' := by
  rintro (⟨hnew, hset, -⟩ | ⟨-, hdup⟩)
  · exact hnew ((h.consumedSourceEvents sev).mp ((hset sev).mpr (.inl rfl)))
  · obtain ⟨earlier, later, hL, hL'⟩ := h.exceptions
    have hcount : L.duplicates = L'.duplicates := by
      show L.exceptions.countP _ = L'.exceptions.countP _
      rw [hL, hL', List.countP_append, List.countP_append,
        List.countP_cons_of_neg (by simp [hcode])]
    omega

/-! ### What a rejected observation leaves -/

/-- A run without a rejected observation yields the same ledger but for its exception, and the same
verdicts on the others, just when the observation enters no source event. -/
theorem rejected_leaves_no_trace (facilities : FacilityTable) {xs ys pre post : List Observation}
    {o : Observation} (hplace : MergedBetween xs o ys pre post) {entry : ExceptionEntry}
    (hrejected : rejection (pre.foldl merge (.initial facilities)) o = some entry) {L : Ledger}
    (hrun : reconcile facilities (xs ++ o :: ys) = some L) :
    ((∃ L', reconcile facilities (xs ++ ys) = some L' ∧ L.SameBut entry L') ∧
      verdicts (merge (pre.foldl merge (.initial facilities)) o) post =
        verdicts (pre.foldl merge (.initial facilities)) post) ↔
    ¬ o.Enters (pre.foldl merge (.initial facilities)).consumedSourceEvents := by
  obtain ⟨hwith, hwithout⟩ := hplace
  have hmerged : merged facilities (xs ++ o :: ys) =
      post.foldl merge (merge (pre.foldl merge (.initial facilities)) o) := by
    unfold merged
    rw [hwith, List.foldl_append, List.foldl_cons]
  have hmerged' : merged facilities (xs ++ ys) =
      post.foldl merge (pre.foldl merge (.initial facilities)) := by
    unfold merged
    rw [hwithout, List.foldl_append]
  unfold reconcile at hrun ⊢
  rw [hmerged] at hrun
  rw [hmerged']
  generalize pre.foldl merge (.initial facilities) = M at hrejected hrun ⊢
  obtain ⟨hturn, hcode⟩ := merge_rejected hrejected
  constructor
  · -- An entered source event keeps the two runs apart to their ends.
    rintro ⟨⟨L', hrun', hsame⟩, -⟩ ⟨htampered, sev, hsev, hnew⟩
    have hfresh : ¬ o.Repeats M.consumedSourceEvents := by
      rintro ⟨-, s, hs, hm⟩
      cases hsev.symm.trans hs
      exact hnew hm
    have hapart : Apart sev (merge M o) M := by
      refine .entered hnew ?_ (merge_fresh hfresh)
      intro s
      rw [merge_consumed, Observation.consumedAfter_enters htampered hsev hnew, List.mem_cons]
    exact hsame.not_apart (mt hcode.mp hfresh) sev ((hapart.foldl post).applied
      (foldlM_apply_stays facilities _ _) (foldlM_apply_stays facilities _ _) hrun hrun')
  · -- Nothing is entered: both runs are one run behind different exceptions.
    intro henters
    rw [Observation.consumedAfter_same henters] at hturn
    have hM : M = M.clear.after M.exceptions := (clear_after M M.exceptions).symm
    rw [← clear_after] at hturn
    have hverdicts : verdicts M post = verdicts M.clear post := by
      nth_rewrite 1 [hM]
      exact verdicts_after M.exceptions post M.clear
    refine ⟨?_, by rw [hturn, verdicts_after, hverdicts]⟩
    rw [hturn, foldl_merge_after] at hrun
    rw [hM, foldl_merge_after]
    obtain ⟨R, hR, hL⟩ := Option.map_eq_some_iff.mp
      ((foldlM_apply_after facilities _ _ (post.foldl merge M.clear)).symm.trans hrun)
    rw [← hL]
    refine ⟨R.after M.exceptions, ?_, ?_⟩
    · exact (foldlM_apply_after facilities _ _ (post.foldl merge M.clear)).trans
        (congrArg (Option.map (Ledger.after M.exceptions)) hR)
    · exact {
        economicEvents := rfl
        receivables := rfl
        settlements := rfl
        cash := rfl
        allocations := rfl
        facilityDebt := rfl
        consumedSourceEvents := fun _ => .rfl
        decisionsRevoked := fun _ => .rfl
        exceptions := ⟨M.exceptions, R.exceptions, List.append_assoc _ _ _, rfl⟩ }

namespace Sample

/-- The log of an obligation, seen before its emitter is registered. -/
def unregistered : Observation := { observation "1" "01" .OBLIGATION 80 with
  emitterRegistered := some false }

/-- The same log, seen after. -/
def registered : Observation := { observation "1" "02" .OBLIGATION 80 with
  observationId := "2" }

/-- The same log, claimed at another height. -/
def displaced : Observation := { registered with
  proven := some [("height", 7)]
  claimed := some [("height", 8)] }

end Sample

/-- The log that was seen too early keeps its source event, and the registered one is a duplicate:
without the first observation the obligation is booked, with it nothing is. -/
theorem rejection_leaves_trace :
    rejection (.initial Sample.facilities) Sample.unregistered =
      some ⟨.EMITTER_NOT_REGISTERED, none, some "1"⟩ ∧
    (reconcile Sample.facilities [Sample.unregistered, Sample.registered]).map
      (fun L => (L.economicEvents.length, L.exceptions.map (·.code))) =
        some (0, [.EMITTER_NOT_REGISTERED, .DUPLICATE_CONSUMPTION]) ∧
    (reconcile Sample.facilities [Sample.registered]).map
      (fun L => (L.economicEvents.length, L.exceptions.map (·.code))) = some (1, []) := by
  decide +kernel

/-- A displaced log is rejected before its source event is looked at. -/
theorem rejected_leaves_no_trace_sample :
    ∃ L L', reconcile Sample.facilities [Sample.registered, Sample.displaced] = some L ∧
      reconcile Sample.facilities [Sample.registered] = some L' ∧
      L.SameBut ⟨.LOCATOR_TAMPERED, none, some "2"⟩ L' := by
  obtain ⟨L, hrun⟩ : ∃ L, reconcile Sample.facilities [Sample.registered, Sample.displaced] =
      some L := Option.isSome_iff_exists.mp (by decide +kernel)
  have hplace : MergedBetween [Sample.registered] Sample.displaced [] [Sample.registered] [] :=
    ⟨by decide +kernel, by decide +kernel⟩
  have hrejected : rejection ([Sample.registered].foldl merge (.initial Sample.facilities))
      Sample.displaced = some ⟨.LOCATOR_TAMPERED, none, some "2"⟩ := by decide +kernel
  obtain ⟨⟨L', hrun', hsame⟩, -⟩ :=
    (rejected_leaves_no_trace Sample.facilities hplace hrejected hrun).mpr fun h => nomatch h.1
  exact ⟨L, L', hrun, hrun', hsame⟩

end Rackline.Reconciler
