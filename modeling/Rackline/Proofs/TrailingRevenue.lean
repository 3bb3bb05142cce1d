import Rackline.Proofs.LegacyDebt
import Rackline.Lib.Window

/-!
# `Rackline.Proofs.TrailingRevenue`: the history behind the trailing revenue

The history of a borrower is an array that two loops shift. Together with the pops they drop the
records in front: the oldest when the array is full (`removeOldest_eq`), and those that the window
has passed (`pruneAndCalculateTrailingRevenue_eq`).

`Run` keeps next to the manager every payout that it has recorded. The payouts of a borrower come in
the order of the block times, so that what is left is what the window holds of the last
`MAX_PAYOUT_RECORDS` of them (`trailing_revenue_exact`).
-/

set_option autoImplicit false

namespace Rackline.HashCreditManager

open Evm Transition Window

variable {s s' : State} {e : Env} {b : Address} {history : List PayoutRecord}

/-! ### The loops -/

theorem recordAt_eq {i : Nat} (h : i < history.length) : recordAt history i = .ok history[i] := by
  simp [recordAt, h]

/-- After `count` turns from the turn `i` on, the front of the array is what stood from `from_`
on. -/
theorem shiftLoop_at (from_ : Nat) : ∀ (count i : Nat), from_ + (i + count) ≤ history.length →
    shiftLoop from_ count i ((history.drop from_).take i ++ history.drop i) =
      .ok ((history.drop from_).take (i + count) ++ history.drop (i + count)) := by
  intro count
  induction count with
  | zero =>
    intro i _
    rfl
  | succ count ih =>
    intro i hle
    have hfront : ((history.drop from_).take i).length = i := by
      simp only [List.length_take, List.length_drop]
      omega
    have hlt : i < history.length := by omega
    have hread : recordAt ((history.drop from_).take i ++ history.drop i) (from_ + i) =
        .ok history[from_ + i] := by
      rw [recordAt_eq (by simp only [List.length_append, hfront, List.length_drop]; omega)]
      congr 1
      -- The turn reads behind the part that it has written.
      rw [List.getElem_append_right (by omega), List.getElem_drop]
      congr 1
      omega
    have hwrite : ((history.drop from_).take i ++ history.drop i).set i history[from_ + i] =
        (history.drop from_).take (i + 1) ++ history.drop (i + 1) := by
      rw [List.set_append_right _ _ (by omega), hfront, Nat.sub_self,
        List.drop_eq_getElem_cons hlt, List.set_cons_zero,
        List.take_succ_eq_append_getElem (by simp only [List.length_drop]; omega)]
      simp [List.append_assoc]
    show (recordAt _ (from_ + i) >>= fun record => _) = _
    rw [hread, ok_bind, hwrite, ih (i + 1) (by omega)]
    congr 3
    · omega
    · omega

theorem shiftLoop_eq {from_ count : Nat} (h : from_ + count ≤ history.length) :
    shiftLoop from_ count 0 history =
      .ok ((history.drop from_).take count ++ history.drop count) := by
  have hloop : shiftLoop from_ count 0 ((history.drop from_).take 0 ++ history.drop 0) = _ :=
    shiftLoop_at from_ count 0 (by omega)
  simpa using hloop

theorem popLoop_eq : ∀ (count : Nat) (history : List PayoutRecord), count ≤ history.length →
    popLoop count history = .ok (history.take (history.length - count)) := by
  intro count
  induction count with
  | zero =>
    intro history _
    simp [popLoop]
  | succ count ih =>
    intro history hle
    have hne : history ≠ [] := by
      rintro rfl
      simp at hle
    show (revertIf (history = []) Err.panic >>= fun _ => popLoop count history.dropLast) = _
    rw [revertIf_of_not _ hne, ok_bind, ih _ (by rw [List.length_dropLast]; omega),
      List.length_dropLast, List.dropLast_eq_take, List.take_take]
    congr 2
    omega

/-- The loop and the pops drop the front. -/
theorem removeExpired_eq {count : Nat} (h : count ≤ history.length) :
    removeExpired history count count = .ok (history.drop count) := by
  have hsub : (subW history.length count : Except Err Nat) = .ok (history.length - count) :=
    subW_eq_ok.mpr ⟨h, rfl⟩
  have hfront : (history.drop count).take (history.length - count) = history.drop count := by
    rw [← List.length_drop, List.take_length]
  unfold removeExpired
  rw [hsub, ok_bind, shiftLoop_eq (by omega), ok_bind, hfront, popLoop_eq _ _ (by
    simp only [List.length_append, List.length_drop]
    omega)]
  congr 1
  rw [List.take_append_of_le_length (by simp only [List.length_append, List.length_drop]; omega)]
  refine List.take_of_length_le ?_
  simp only [List.length_append, List.length_drop]
  omega

theorem removeOldest_eq (history : List PayoutRecord) :
    removeOldest history =
      .ok (if MAX_PAYOUT_RECORDS ≤ history.length then history.tail else history) := by
  unfold removeOldest
  by_cases hfull : MAX_PAYOUT_RECORDS ≤ history.length
  · have hpos : 1 ≤ history.length := le_trans (by decide) hfull
    have hdrop := removeExpired_eq hpos
    have hsub : (subW history.length 1 : Except Err Nat) = .ok (history.length - 1) :=
      subW_eq_ok.mpr ⟨hpos, rfl⟩
    unfold removeExpired at hdrop
    rw [hsub, ok_bind] at hdrop
    rw [if_pos hfull, if_pos hfull, ← List.drop_one]
    exact hdrop
  · rw [if_neg hfull, if_neg hfull]

/-- The record is older than the cutoff. -/
def expired (cutoffTime : UInt64) (record : PayoutRecord) : Bool :=
  !decide (record.timestamp ≥ cutoffTime)

/-- The search stops at the first record that has not expired, or at the end. -/
theorem findLoop_eq (cutoffTime : UInt64) {length : Nat} :
    ∀ (records : List PayoutRecord) (i firstValid : Nat), i + records.length = length →
      (records = [] → firstValid = length) →
      findLoop length cutoffTime records i firstValid i =
        (i + (records.takeWhile (expired cutoffTime)).length,
          i + (records.takeWhile (expired cutoffTime)).length) := by
  intro records
  induction records with
  | nil =>
    intro i firstValid hi hend
    simp only [List.length_nil] at hi
    simp [findLoop, hend rfl, ← hi]
  | cons record records ih =>
    intro i firstValid hi _
    simp only [List.length_cons] at hi
    by_cases hvalid : record.timestamp ≥ cutoffTime
    · simp [findLoop, expired, hvalid]
    · have hnext := ih (i + 1) (if i = length - 1 then length else firstValid) (by omega) (by
        rintro rfl
        simp only [List.length_nil] at hi
        rw [if_pos (by omega)])
      have hexpired : expired cutoffTime record = true := by simp [expired, hvalid]
      rw [List.takeWhile_cons_of_pos hexpired, List.length_cons]
      simp only [findLoop, if_neg hvalid, hnext]
      congr 1
      · omega
      · omega

/-! ### The sum -/

/-- The amounts of the records. -/
def revenue (history : List PayoutRecord) : Nat :=
  (history.map fun record => record.effectiveAmountSats.toNat).sum

theorem sumLoop_eq_ok : ∀ (history : List PayoutRecord) {start total : Nat},
    sumLoop history start = .ok total → total = start + revenue history ∧
      (start < wordSize 128 → total < wordSize 128) := by
  intro history
  induction history with
  | nil =>
    intro start total h
    cases h
    exact ⟨rfl, fun h => h⟩
  | cons record history ih =>
    intro start total h
    obtain ⟨next, hnext, h⟩ := bind_eq_ok.mp h
    obtain ⟨hfits, rfl⟩ := addW_eq_ok.mp hnext
    obtain ⟨htotal, hlt⟩ := ih h
    have hcons : revenue (record :: history) =
        record.effectiveAmountSats.toNat + revenue history := by
      simp [revenue]
    exact ⟨by omega, fun _ => hlt hfits⟩

theorem withSum_eq_ok {trailing : BitVec 128} {kept : List PayoutRecord}
    (h : withSum history = .ok (kept, trailing)) :
    kept = history ∧ trailing.toNat = revenue history := by
  obtain ⟨total, htotal, h⟩ := bind_eq_ok.mp h
  have hpair := pure_eq_ok.mp h
  injection hpair with hkept htrailing
  obtain ⟨hsum, hlt⟩ := sumLoop_eq_ok history htotal
  have hfits : total < wordSize 128 := hlt (by unfold wordSize; omega)
  refine ⟨hkept.symm, ?_⟩
  rw [← htrailing, BitVec.toNat_ofNat]
  exact (Nat.mod_eq_of_lt hfits).trans (by omega)

/-- Pruning drops the expired records in front. -/
theorem pruneAndCalculateTrailingRevenue_eq (now : UInt64) (history : List PayoutRecord)
    (windowSeconds : UInt32) :
    pruneAndCalculateTrailingRevenue now history windowSeconds =
      withSum (history.dropWhile (expired (cutoff now windowSeconds))) := by
  unfold pruneAndCalculateTrailingRevenue
  by_cases hempty : history.length = 0
  · have hnil := List.length_eq_zero_iff.mp hempty
    subst hnil
    rfl
  · have hfind := findLoop_eq (cutoff now windowSeconds) history 0 0 (Nat.zero_add _) (by
      rintro rfl
      exact absurd rfl hempty)
    rw [Nat.zero_add] at hfind
    have hdrop : history.dropWhile (expired (cutoff now windowSeconds)) =
        history.drop (history.takeWhile (expired (cutoff now windowSeconds))).length := by
      have hsplit : (history.takeWhile (expired (cutoff now windowSeconds)) ++
          history.dropWhile (expired (cutoff now windowSeconds))).drop
            (history.takeWhile (expired (cutoff now windowSeconds))).length = _ := List.drop_left
      rw [List.takeWhile_append_dropWhile] at hsplit
      exact hsplit.symm
    rw [if_neg hempty, hfind, hdrop]
    have hle := (List.takeWhile_sublist (expired (cutoff now windowSeconds))
      (l := history)).length_le
    generalize (history.takeWhile (expired (cutoff now windowSeconds))).length = count at hle ⊢
    simp only []
    by_cases hfirst : 0 < count ∧ count < history.length
    · rw [if_pos hfirst, removeExpired_eq hle, ok_bind]
    · rw [if_neg hfirst]
      by_cases hall : 0 < count ∧ count = history.length
      · -- All records have expired: the array is deleted.
        rw [if_pos hall, hall.2, List.drop_length]
        rfl
      · have hzero : count = 0 := by omega
        rw [if_neg hall, hzero, List.drop_zero]

/-! ### The window -/

/-- The time of a record. -/
def PayoutRecord.time (record : PayoutRecord) : Nat := record.timestamp.toNat

/-- A record has expired when it is older than the window. -/
theorem expired_cutoff (now : UInt64) (windowSeconds : UInt32) (record : PayoutRecord) :
    expired (cutoff now windowSeconds) record =
      !decide (now.toNat ≤ record.time + windowSeconds.toNat) := by
  have hcutoff : (cutoff now windowSeconds).toNat = now.toNat - windowSeconds.toNat := by
    have hlt := now.toNat_lt
    unfold cutoff
    split
    · exact Nat.mod_eq_of_lt (by omega)
    · show 0 = _
      omega
  have hiff : record.timestamp ≥ cutoff now windowSeconds ↔
      now.toNat ≤ record.time + windowSeconds.toNat := by
    rw [ge_iff_le, UInt64.le_iff_toNat_le, hcutoff]
    unfold PayoutRecord.time
    omega
  simp only [expired, hiff]

/-- A new record and the pruning after it, on a history in the order of the times. -/
theorem added_and_pruned {now effective : UInt64} {windowSeconds : UInt32}
    {added kept : List PayoutRecord} {trailing : BitVec 128}
    (hsorted : Chronological PayoutRecord.time history)
    (hnow : ∀ record ∈ history, record.time ≤ now.toNat)
    (hadded : addPayoutRecord history now effective = .ok added)
    (hpruned : pruneAndCalculateTrailingRevenue now added windowSeconds = .ok (kept, trailing)) :
    kept = within PayoutRecord.time now.toNat windowSeconds.toNat
        ((if MAX_PAYOUT_RECORDS ≤ history.length then history.tail else history) ++
          [⟨now, effective⟩]) ∧
      trailing.toNat = revenue kept := by
  unfold addPayoutRecord at hadded
  rw [removeOldest_eq, ok_bind] at hadded
  have hlist := pure_eq_ok.mp hadded
  generalize hroom : (if MAX_PAYOUT_RECORDS ≤ history.length then history.tail else history) = room
    at hlist ⊢
  have hsub : room.Sublist history := by
    rw [← hroom]
    split
    · exact List.tail_sublist history
    · exact List.Sublist.refl history
  have hordered : Chronological PayoutRecord.time (room ++ [⟨now, effective⟩]) := by
    have hroomed : Chronological PayoutRecord.time room := List.Pairwise.sublist hsub hsorted
    refine hroomed.push fun record hmem => ?_
    exact hnow record (hsub.subset hmem)
  rw [pruneAndCalculateTrailingRevenue_eq, ← hlist] at hpruned
  obtain ⟨hkept, htrailing⟩ := withSum_eq_ok hpruned
  have hwithin : within PayoutRecord.time now.toNat windowSeconds.toNat
      (room ++ [⟨now, effective⟩]) = _ := (dropWhile_eq_within hordered).symm
  simp only [← expired_cutoff] at hwithin
  refine ⟨hkept.trans hwithin.symm, ?_⟩
  rw [htrailing, hkept]

/-! ### Runs -/

/-- What a successful call records, and for whom: a payout that is not below the minimum. -/
def recordedBy (s : State) (e : Env) : Call → Option (Address × PayoutRecord)
  | .submitPayout proof =>
    match e.verifyPayout proof with
    | some evidence =>
      if State.BelowMinimum e.params evidence then none
      else some (evidence.borrower, ⟨e.now, e.params.applyPayoutHeuristics evidence.amountSats
        ((s.borrowers evidence.borrower).payoutCount + 1)⟩)
    | none => none
  | _ => none

/-- The manager, the time of the last call, and every payout that each borrower has recorded. -/
structure Run where
  manager : State
  now : UInt64
  recorded : Address → List PayoutRecord

/-- A deployed manager. -/
def Run.Initial (r : Run) : Prop :=
  HashCreditManager.Initial r.manager ∧ r.recorded = fun _ => []

/-- The records after a call. -/
def Run.log (r : Run) (e : Env) (c : Call) : Address → List PayoutRecord :=
  match recordedBy r.manager e c with
  | some (b, record) => Function.update r.recorded b (r.recorded b ++ [record])
  | none => r.recorded

/-- One successful call, at a time that is not before the last one, under the window. -/
def RunStep (windowSeconds : UInt32) (r : Run) (a : Env × Call) (r' : Run) : Prop :=
  r.now ≤ a.1.now ∧ a.1.params.windowSeconds = windowSeconds ∧ Step r.manager a r'.manager ∧
    r'.now = a.1.now ∧ r'.recorded = r.log a.1 a.2

/-- Run a list of calls. A call that is no step is not made, and the run stops. -/
def Run.run (windowSeconds : UInt32) (r : Run) : List (Env × Call) → Except Err Run
  | [] => .ok r
  | (e, c) :: rest =>
    if r.now ≤ e.now ∧ e.params.windowSeconds = windowSeconds then do
      let manager ← exec e r.manager c
      Run.run windowSeconds { manager, now := e.now, recorded := r.log e c } rest
    else .error .panic

theorem Run.run_steps {windowSeconds : UInt32} : ∀ {as : List (Env × Call)} {r r' : Run},
    r.run windowSeconds as = .ok r' → Steps (RunStep windowSeconds) r as r' := by
  intro as
  induction as with
  | nil =>
    intro r r' h
    cases h
    exact .nil r
  | cons a rest ih =>
    intro r r' h
    obtain ⟨e, c⟩ := a
    unfold Run.run at h
    split at h
    · rename_i hc
      obtain ⟨manager, hmanager, h⟩ := bind_eq_ok.mp h
      have hstep : RunStep windowSeconds r (e, c)
          { manager, now := e.now, recorded := r.log e c } := ⟨hc.1, hc.2, hmanager, rfl, rfl⟩
      exact .cons hstep (ih h)
    · cases h

/-- The last `MAX_PAYOUT_RECORDS` records of the borrower that are in the window at `now`. -/
def Run.window (r : Run) (now : UInt64) (windowSeconds : UInt32) (b : Address) :
    List PayoutRecord :=
  within PayoutRecord.time now.toNat windowSeconds.toNat ((r.recorded b).rtake MAX_PAYOUT_RECORDS)

/-- The history of the borrower is the window at `now`, and the trailing revenue is its sum. -/
structure Run.Exact (r : Run) (now : UInt64) (windowSeconds : UInt32) (b : Address) : Prop where
  history : r.manager.payoutHistory b = r.window now windowSeconds b
  trailing : (r.manager.borrowers b).trailingRevenueSats.toNat =
    revenue (r.window now windowSeconds b)

/-- What holds between the calls: the histories are exact as of some time up to now. -/
structure Run.Kept (windowSeconds : UInt32) (r : Run) : Prop where
  exact_ : ∀ b, ∃ now ≤ r.now, r.Exact now windowSeconds b
  chronological : ∀ b, Chronological PayoutRecord.time (r.recorded b)
  past : ∀ b, ∀ record ∈ r.recorded b, record.time ≤ r.now.toNat
  unregistered : ∀ b, (r.manager.borrowers b).status = .none →
    (r.manager.borrowers b).trailingRevenueSats = 0

theorem Run.Kept.initial {windowSeconds : UInt32} {r : Run} (h : r.Initial) :
    r.Kept windowSeconds := by
  obtain ⟨⟨sender, verifier, vault, riskConfig, poolRegistry, stablecoin, hdeploy⟩, hrecorded⟩ := h
  unfold State.deploy at hdeploy
  obtain ⟨-, -, hdeploy⟩ := bind_eq_ok.mp hdeploy
  obtain ⟨-, -, hdeploy⟩ := bind_eq_ok.mp hdeploy
  obtain ⟨-, -, hdeploy⟩ := bind_eq_ok.mp hdeploy
  obtain ⟨-, -, hdeploy⟩ := bind_eq_ok.mp hdeploy
  have hs := pure_eq_ok.mp hdeploy
  refine ⟨fun b => ⟨r.now, UInt64.le_refl _, ?_⟩, ?_, ?_, ?_⟩
  · constructor
    · simp [← hs, Run.window, hrecorded, within]
    · simp [← hs, Run.window, hrecorded, within, revenue, BorrowerInfo.empty]
  · intro b
    rw [hrecorded]
    exact List.Pairwise.nil
  · intro b record hmem
    rw [hrecorded] at hmem
    cases hmem
  · intro b _
    rw [← hs]
    rfl

/-- A call that records nothing for the borrower and keeps its history and its revenue. -/
structure Untouched (s s' : State) (b : Address) : Prop where
  history : s'.payoutHistory b = s.payoutHistory b
  trailing : (s'.borrowers b).trailingRevenueSats = (s.borrowers b).trailingRevenueSats
  status : (s'.borrowers b).status = .none → (s.borrowers b).status = .none

theorem OwnerStep.untouched (h : OwnerStep s s')
    (hnone : (s.borrowers b).status = .none → (s.borrowers b).trailingRevenueSats = 0) :
    Untouched s s' b where
  history := by rw [h.history]
  trailing := (h.borrowers b).trailing hnone
  status := (h.borrowers b).unregistered

/-- A write to the debt of a borrower, as in `borrow` and `repay`. -/
theorem debtWrite_untouched {sender : Address} {currentDebt : BitVec 128} {now : UInt64}
    {total : Nat} :
    Untouched s { s.setBorrower sender { s.borrowers sender with
        currentDebt
        lastDebtUpdateTimestamp := now } with
      totalGlobalDebt := total } b := by
  by_cases hb : b = sender
  · subst hb
    exact ⟨rfl, by simp [State.setBorrower], by simp [State.setBorrower]⟩
  · exact ⟨rfl, by simp [State.setBorrower, hb], by simp [State.setBorrower, hb]⟩

/-- What a call does for one borrower: it records a payout, or it leaves the history alone. -/
theorem step_records {c : Call} (hstep : Step s (e, c) s')
    (hnone : (s.borrowers b).status = .none → (s.borrowers b).trailingRevenueSats = 0) :
    (∃ proof evidence, c = .submitPayout proof ∧ evidence.borrower = b ∧
      recordedBy s e c = some (b, ⟨e.now, e.params.applyPayoutHeuristics evidence.amountSats
        ((s.borrowers b).payoutCount + 1)⟩) ∧ Recorded e evidence s s') ∨
    (∀ record, recordedBy s e c ≠ some (b, record)) ∧ Untouched s s' b := by
  cases c with
  | submitPayout proof =>
    have hsubmit : s.submitPayout e proof = .ok s' := hstep
    obtain ⟨evidence, hevidence, hactive, hcases⟩ := submitPayout_cases hsubmit
    rcases hcases with ⟨hbelow, -, hborrowers, hhistory⟩ | ⟨hcounts, hrec⟩
    · refine .inr ⟨?_, ?_⟩
      · simp [recordedBy, hevidence, hbelow]
      · exact ⟨by rw [hhistory], by rw [hborrowers], by rw [hborrowers]; exact fun h => h⟩
    · by_cases hb : b = evidence.borrower
      · subst hb
        exact .inl ⟨proof, evidence, rfl, rfl, by simp [recordedBy, hevidence, hcounts], hrec⟩
      · refine .inr ⟨?_, ?_⟩
        · intro record hrecord
          simp only [recordedBy, hevidence, hcounts, if_false, Option.some.injEq,
            Prod.mk.injEq] at hrecord
          exact hb hrecord.1.symm
        · exact ⟨hrec.histories b hb, by rw [hrec.others b hb],
            by rw [hrec.others b hb]; exact fun h => h⟩
  | borrow amount =>
    obtain ⟨_, -, -, -, rfl⟩ := borrow_cases hstep
    exact .inr ⟨by simp [recordedBy], debtWrite_untouched⟩
  | repay amount =>
    obtain ⟨⟨s₁, taken⟩, hrepay, hs⟩ := map_eq_ok.mp hstep
    obtain ⟨_, -, -, -, -, -, rfl⟩ := repay_cases hrepay
    subst hs
    exact .inr ⟨by simp [recordedBy], debtWrite_untouched⟩
  | _ =>
    exact .inr ⟨by simp [recordedBy],
      (step_owner (by simp) (by simp) (by simp) hstep).untouched hnone⟩

theorem Run.log_recorded {r : Run} {c : Call} {record : PayoutRecord}
    (h : recordedBy r.manager e c = some (b, record)) :
    r.log e c b = r.recorded b ++ [record] := by
  simp [Run.log, h]

theorem Run.log_other {r : Run} {c : Call}
    (h : ∀ record, recordedBy r.manager e c ≠ some (b, record)) : r.log e c b = r.recorded b := by
  cases hrecord : recordedBy r.manager e c with
  | none => simp [Run.log, hrecord]
  | some entry =>
    obtain ⟨b', record⟩ := entry
    have hne : b ≠ b' := by
      rintro rfl
      exact h record hrecord
    simp [Run.log, hrecord, hne]

/-- A recorded payout makes the history of its borrower exact. -/
theorem Recorded.exact_ {windowSeconds : UInt32} {r r' : Run} {c : Call}
    {evidence : BtcSpvVerifier.PayoutEvidence Address} (hkept : r.Kept windowSeconds)
    (hstep : RunStep windowSeconds r (e, c) r')
    (hrec : Recorded e evidence r.manager r'.manager)
    (hrecord : recordedBy r.manager e c = some (evidence.borrower, ⟨e.now,
      e.params.applyPayoutHeuristics evidence.amountSats
        ((r.manager.borrowers evidence.borrower).payoutCount + 1)⟩)) :
    r'.Exact e.now windowSeconds evidence.borrower := by
  obtain ⟨hnow, hwindow, -, -, hlog⟩ := hstep
  change r.now ≤ e.now at hnow
  change e.params.windowSeconds = windowSeconds at hwindow
  subst hwindow
  obtain ⟨since, hsince, hexact⟩ := hkept.exact_ evidence.borrower
  obtain ⟨added, hadded, hpruned⟩ := hrec.pruned
  have hchronological := hkept.chronological evidence.borrower
  have hsub : (r.manager.payoutHistory evidence.borrower).Sublist
      (r.recorded evidence.borrower) := by
    rw [hexact.history]
    exact (List.filter_sublist).trans (List.drop_sublist _ _)
  have hpast : ∀ record ∈ r.manager.payoutHistory evidence.borrower,
      record.time ≤ e.now.toNat := by
    intro record hmem
    have hold := hkept.past evidence.borrower record (hsub.subset hmem)
    have hle := UInt64.le_iff_toNat_le.mp hnow
    omega
  obtain ⟨hhistory, htrailing⟩ :=
    added_and_pruned (List.Pairwise.sublist hsub hchronological) hpast hadded hpruned
  have hbefore : since.toNat ≤ e.now.toNat := by
    have h₁ := UInt64.le_iff_toNat_le.mp hsince
    have h₂ := UInt64.le_iff_toNat_le.mp hnow
    omega
  have hwindowed : r'.manager.payoutHistory evidence.borrower =
      r'.window e.now e.params.windowSeconds evidence.borrower := by
    rw [hhistory, hexact.history]
    unfold Run.window
    rw [hlog, Run.log_recorded hrecord]
    exact within_push (n := 99) hchronological hbefore _
  exact ⟨hwindowed, by rw [htrailing, hwindowed]⟩

theorem Untouched.exact_ {windowSeconds : UInt32} {now : UInt64} {r r' : Run}
    (h : Untouched r.manager r'.manager b) (hlog : r'.recorded b = r.recorded b)
    (hexact : r.Exact now windowSeconds b) : r'.Exact now windowSeconds b := by
  have hwindow : r'.window now windowSeconds b = r.window now windowSeconds b := by
    unfold Run.window
    rw [hlog]
  constructor
  · rw [h.history, hwindow, hexact.history]
  · rw [h.trailing, hwindow, hexact.trailing]

theorem Run.Kept.step {windowSeconds : UInt32} {r r' : Run} {a : Env × Call}
    (h : r.Kept windowSeconds) (hstep : RunStep windowSeconds r a r') : r'.Kept windowSeconds := by
  obtain ⟨e, c⟩ := a
  obtain ⟨hnow, -, hcall, hnow', hlog⟩ := id hstep
  have hle : r.now.toNat ≤ r'.now.toNat := by
    rw [hnow']
    exact UInt64.le_iff_toNat_le.mp hnow
  constructor
  · intro b
    rcases step_records hcall (h.unregistered b) with
      ⟨proof, evidence, rfl, rfl, hrecord, hrec⟩ | ⟨hother, huntouched⟩
    · exact ⟨e.now, by rw [hnow']; exact UInt64.le_refl _, hrec.exact_ h hstep hrecord⟩
    · obtain ⟨since, hsince, hexact⟩ := h.exact_ b
      have hlog' : r'.recorded b = r.recorded b := by rw [hlog, Run.log_other hother]
      exact ⟨since, by rw [UInt64.le_iff_toNat_le] at hsince ⊢; omega,
        huntouched.exact_ hlog' hexact⟩
  · intro b
    rcases step_records hcall (h.unregistered b) with
      ⟨proof, evidence, rfl, rfl, hrecord, -⟩ | ⟨hother, -⟩
    · rw [hlog, Run.log_recorded hrecord]
      refine (h.chronological _).push fun record hmem => ?_
      exact (h.past _ record hmem).trans (UInt64.le_iff_toNat_le.mp hnow)
    · rw [hlog, Run.log_other hother]
      exact h.chronological b
  · intro b record hmem
    rcases step_records hcall (h.unregistered b) with
      ⟨proof, evidence, rfl, rfl, hrecord, -⟩ | ⟨hother, -⟩
    · rw [hlog, Run.log_recorded hrecord] at hmem
      rcases List.mem_append.mp hmem with hold | hnew
      · exact (h.past _ record hold).trans hle
      · rw [List.mem_singleton.mp hnew, hnow']
        exact Nat.le_refl _
    · rw [hlog, Run.log_other hother] at hmem
      exact (h.past b record hmem).trans hle
  · intro b hnone
    rcases step_records hcall (h.unregistered b) with
      ⟨proof, evidence, rfl, rfl, -, hrec⟩ | ⟨-, huntouched⟩
    · rw [hrec.status] at hnone
      cases hnone
    · rw [huntouched.trailing]
      exact h.unregistered b (huntouched.status hnone)

/-- In every run with a constant window and times that do not go back: a call that records a payout
of the borrower leaves its history as what the window holds, at the time of the call, of its last
`MAX_PAYOUT_RECORDS` recorded payouts, in their order, and the trailing revenue as the sum of their
amounts. Every other call leaves both as they are. -/
theorem trailing_revenue_exact {windowSeconds : UInt32} {r r' : Run} {c : Call}
    (h : Reachable Run.Initial (RunStep windowSeconds) r)
    (hstep : RunStep windowSeconds r (e, c) r') (b : Address) :
    (∀ record, recordedBy r.manager e c = some (b, record) →
      r'.recorded b = r.recorded b ++ [record] ∧ r'.Exact e.now windowSeconds b) ∧
    ((∀ record, recordedBy r.manager e c ≠ some (b, record)) →
      r'.recorded b = r.recorded b ∧
      r'.manager.payoutHistory b = r.manager.payoutHistory b ∧
      (r'.manager.borrowers b).trailingRevenueSats =
        (r.manager.borrowers b).trailingRevenueSats) := by
  have hkept := h.invariant (fun _ => Run.Kept.initial) fun _ _ _ hk hs => hk.step hs
  obtain ⟨-, -, hcall, -, hlog⟩ := id hstep
  rcases step_records hcall (hkept.unregistered b) with
    ⟨proof, evidence, rfl, rfl, hrecord, hrec⟩ | ⟨hother, huntouched⟩
  · refine ⟨fun record hsome => ?_, fun hnever => absurd hrecord (hnever _)⟩
    exact ⟨by rw [hlog, Run.log_recorded hsome], hrec.exact_ hkept hstep hrecord⟩
  · refine ⟨fun record hsome => absurd hsome (hother record), fun _ => ?_⟩
    exact ⟨by rw [hlog, Run.log_other hother], huntouched.history, huntouched.trailing⟩

namespace Sample

/-- The outputs of one transaction pay 30,000 satoshis each to the borrower. -/
def payout (proof : List UInt8) : Option (BtcSpvVerifier.PayoutEvidence Address) :=
  some ⟨20, ⟨List.replicate 32 0, rfl⟩, UInt32.ofNat proof.length, 30000, 0, 0⟩

/-- A call under a window of 100 seconds. -/
def windowed (sender : Address) (now : UInt64) : Env :=
  { env sender now with
    verifyPayout := payout
    params := { (env sender now).params with windowSeconds := 100 } }

/-- Two payouts in one window. -/
def payouts : List (Env × Call) :=
  [(windowed 1 900, .registerBorrower 20 7), (windowed 30 1000, .submitPayout []),
    (windowed 30 1040, .submitPayout [0])]

/-- The manager after the two payouts. -/
def paid : Except Err Run := do
  let s ← State.deploy 1 2 3 4 0 5
  Run.run 100 { manager := s, now := 0, recorded := fun _ => [] } payouts

theorem paid_reachable {r : Run} (h : paid = .ok r) :
    Reachable Run.Initial (RunStep 100) r := by
  obtain ⟨s, hs, hrun⟩ := bind_eq_ok.mp h
  exact ⟨_, payouts, ⟨⟨1, 2, 3, 4, 0, 5, hs⟩, rfl⟩, Run.run_steps hrun⟩

/-- A third payout, when the window has passed the first. -/
def third : Env × Call := (windowed 30 1120, .submitPayout [0, 0])

end Sample

/-- Of three payouts the window holds the last two. -/
theorem trailing_revenue_exact_sample : ∃ r r', Reachable Run.Initial (RunStep 100) r ∧
    RunStep 100 r Sample.third r' ∧ r'.Exact 1120 100 20 ∧
    r'.window 1120 100 20 = [⟨1040, 30000⟩, ⟨1120, 30000⟩] ∧ (r'.recorded 20).length = 3 := by
  have hview : (do
      let r ← Sample.paid
      let r' ← r.run 100 [Sample.third]
      pure (recordedBy r.manager Sample.third.1 Sample.third.2, r'.window 1120 100 20,
        (r'.recorded 20).length)).toOption =
      some (some (20, ⟨1120, 30000⟩), [⟨1040, 30000⟩, ⟨1120, 30000⟩], 3) := by
    decide +kernel
  obtain ⟨r, hr, hview⟩ := bind_eq_ok.mp (toOption_eq_some.mp hview)
  obtain ⟨r', hr', hview⟩ := bind_eq_ok.mp hview
  have hvalues := pure_eq_ok.mp hview
  simp only [Prod.mk.injEq] at hvalues
  obtain ⟨hrecord, hwindow, hlength⟩ := hvalues
  have hstep : RunStep 100 r Sample.third r' := by
    cases Run.run_steps hr' with
    | cons hstep hrest =>
      cases hrest
      exact hstep
  obtain ⟨hrecorded, -⟩ := trailing_revenue_exact (Sample.paid_reachable hr) hstep 20
  exact ⟨r, r', Sample.paid_reachable hr, hstep, (hrecorded _ hrecord).2, hwindow, hlength⟩

end Rackline.HashCreditManager
