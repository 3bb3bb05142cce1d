import Rackline.SourceEscrow
import Rackline.Lib.Replay
import Mathlib.Algebra.BigOperators.Group.List.Basic
import Mathlib.Tactic.Linarith

/-!
# `Rackline.ObligationLog`: an obligation as the replay of its logs

What the escrow and the book are both about, apart from either: the logs of an obligation, read in
the order in which they were emitted, say what is owed. `ObligationView.apply` is the reading of one
log. It refuses a log that cannot stand where it stands.

The amounts do not need the order. The net amount is the sum of the recognitions and corrections,
the paid amount is the sum of the payouts less the cancelled ones, and the revision is the number
of the logs (`Tally`).
-/

set_option autoImplicit false

namespace Rackline

open Evm Replay

namespace SourceEvent

/-- The fact that a log states. Both versions of a recognition state one fact. -/
def fact : SourceEvent → SourceEvent
  | .obligationRecognizedV2 a ref issuer payer payee _ amount dueAt revision =>
    .obligationRecognized a ref issuer payer payee amount dueAt revision
  | e => e

/-- The obligation whose revision a fact moves by one. -/
def obligation : SourceEvent → Option (AccountKey × Bytes32)
  | .obligationRecognized a ref .. => some (a, ref)
  | .obligationAssigned a ref .. => some (a, ref)
  | .obligationCorrected a ref .. => some (a, ref)
  | .payoutReceived a ref .. => if ref = 0 then none else some (a, ref)
  | .payoutCancelled a ref .. => if ref = 0 then none else some (a, ref)
  | _ => none

/-- Whether a fact is about this obligation. -/
def concerns (a : AccountKey) (ref : Bytes32) (e : SourceEvent) : Bool :=
  decide (e.obligation = some (a, ref))

/-- Whether a fact is about an obligation of this account. -/
def counts (a : AccountKey) (e : SourceEvent) : Bool :=
  decide (e.obligation.map Prod.fst = some a)

/-- What a fact adds to the net amount. -/
def netDelta : SourceEvent → Int
  | .obligationRecognized _ _ _ _ _ amount _ _ => amount
  | .obligationCorrected _ _ delta _ _ => delta
  | _ => 0

/-- What a fact adds to the paid amount. -/
def paidDelta : SourceEvent → Int
  | .payoutReceived _ _ _ _ amount _ => amount
  | .payoutCancelled _ _ _ amount => -amount
  | _ => 0

/-- Whether a fact is a correction for the reason `CANCEL`. -/
def cancels : SourceEvent → Bool
  | .obligationCorrected _ _ _ _ reason => decide (reason = CorrectionReason.cancel.code)
  | _ => false

/-- The revision that a fact carries. A payout carries none, although it is one more revision. -/
def ownRevision : SourceEvent → Option Nat
  | .obligationRecognized _ _ _ _ _ _ _ revision => some revision
  | .obligationAssigned _ _ _ revision => some revision
  | .obligationCorrected _ _ _ revision _ => some revision
  | _ => none

theorem counts_of_concerns {a : AccountKey} {ref : Bytes32} {e : SourceEvent}
    (h : e.concerns a ref = true) : e.counts a = true := by
  have hob : e.obligation = some (a, ref) := of_decide_eq_true h
  simp [counts, hob]

end SourceEvent

/-- The logs about one obligation. -/
def logsOf (a : AccountKey) (ref : Bytes32) (l : List SourceEvent) : List SourceEvent :=
  l.filter (·.concerns a ref)

/-- The logs of an obligation are among those of its account. -/
theorem logsOf_filter (a : AccountKey) (ref : Bytes32) (l : List SourceEvent) :
    logsOf a ref (l.filter (·.counts a)) = logsOf a ref l := by
  unfold logsOf
  rw [List.filter_filter]
  refine List.filter_congr fun e _ => ?_
  cases h : e.concerns a ref with
  | false => rfl
  | true =>
    rw [SourceEvent.counts_of_concerns h]
    rfl

/-- The part of the logs' net amount that one obligation has. -/
def netOf (a : AccountKey) (ref : Bytes32) (l : List SourceEvent) : Int :=
  ((logsOf a ref l).map SourceEvent.netDelta).sum

/-- The part of the logs' paid amount that one obligation has. -/
def paidOf (a : AccountKey) (ref : Bytes32) (l : List SourceEvent) : Int :=
  ((logsOf a ref l).map SourceEvent.paidDelta).sum

section Snoc

variable {a : AccountKey} {ref : Bytes32} {l : List SourceEvent} {e : SourceEvent}

theorem logsOf_snoc_of (h : e.concerns a ref = true) :
    logsOf a ref (l ++ [e]) = logsOf a ref l ++ [e] := by
  simp [logsOf, h]

theorem logsOf_snoc_of_not (h : e.concerns a ref = false) :
    logsOf a ref (l ++ [e]) = logsOf a ref l := by
  simp [logsOf, h]

theorem netOf_snoc_of (h : e.concerns a ref = true) :
    netOf a ref (l ++ [e]) = netOf a ref l + e.netDelta := by
  simp [netOf, logsOf_snoc_of h]

theorem netOf_snoc_of_not (h : e.concerns a ref = false) :
    netOf a ref (l ++ [e]) = netOf a ref l := by
  simp [netOf, logsOf_snoc_of_not h]

theorem paidOf_snoc_of (h : e.concerns a ref = true) :
    paidOf a ref (l ++ [e]) = paidOf a ref l + e.paidDelta := by
  simp [paidOf, logsOf_snoc_of h]

theorem paidOf_snoc_of_not (h : e.concerns a ref = false) :
    paidOf a ref (l ++ [e]) = paidOf a ref l := by
  simp [paidOf, logsOf_snoc_of_not h]

end Snoc

/-! ### Corrections -/

/-- When a correction by `delta` returns: the result is a word, and not under what is paid. -/
def Correctable (net paid : Nat) (delta : Int) : Prop :=
  delta ≠ -(2 : Int) ^ 255 ∧ (paid : Int) ≤ net + delta ∧
    (0 ≤ delta → net + delta < wordSize 256)

instance (net paid : Nat) (delta : Int) : Decidable (Correctable net paid delta) :=
  inferInstanceAs (Decidable (_ ∧ _ ∧ _))

/-- A correction that returns a net amount at or over the paid one. -/
theorem correctedNet_eq_ok {ε : Type} [Panics ε] {below : ε} {net paid n : Nat} {delta : Int} :
    (correctedNet below net paid delta = .ok n ∧ paid ≤ n) ↔
      Correctable net paid delta ∧ n = (net + delta).toNat := by
  unfold correctedNet Correctable
  split
  case isTrue h =>
    simp only [bind_eq_ok, revertIf_eq_ok, pure_eq_ok, exists_const]
    constructor
    · rintro ⟨⟨hmin, hbelow, rfl⟩, -⟩
      exact ⟨⟨hmin, by omega, by omega⟩, by omega⟩
    · rintro ⟨⟨hmin, hpaid, -⟩, rfl⟩
      exact ⟨⟨hmin, by omega, by omega⟩, by omega⟩
  case isFalse h =>
    have hmin : delta ≠ -(2 : Int) ^ 255 := by
      intro heq
      rw [heq] at h
      exact h (by decide)
    rw [addW_eq_ok]
    constructor
    · rintro ⟨⟨hword, rfl⟩, hpaid⟩
      exact ⟨⟨hmin, by omega, by omega⟩, by omega⟩
    · rintro ⟨⟨-, hpaid, hword⟩, rfl⟩
      have := hword (by omega)
      exact ⟨⟨by omega, by omega⟩, by omega⟩

/-! ### The reading of a log -/

/-- What the logs of an obligation say. -/
structure ObligationView where
  net : Nat
  paid : Nat
  revision : Nat
  assignedTo : Bytes32
  status : ObligationStatus

/-- No log yet. -/
def ObligationView.blank : ObligationView :=
  { net := 0, paid := 0, revision := 0, assignedTo := 0, status := .none }

/-- The reading of one log. -/
def ObligationView.apply (v : ObligationView) : SourceEvent → Option ObligationView
  | .obligationRecognized _ _ _ _ _ amount _ revision =>
    if v.status = .none ∧ revision = 1 then
      some { v with net := amount, revision := 1, status := .open_ }
    else none
  | .obligationAssigned _ _ facilityKey revision =>
    if v.status = .open_ ∧ (v.assignedTo = 0 ∨ v.assignedTo = facilityKey) ∧
        revision = v.revision + 1 ∧ v.revision + 1 < wordSize 32 then
      some { v with assignedTo := facilityKey, revision := revision }
    else none
  | .obligationCorrected _ _ delta revision reason =>
    if v.status = .open_ ∧ revision = v.revision + 1 ∧ v.revision + 1 < wordSize 32 ∧
        Correctable v.net v.paid delta ∧
        (reason = CorrectionReason.cancel.code → (v.net : Int) + delta = v.paid) then
      some { v with
        net := ((v.net : Int) + delta).toNat
        revision := revision
        status := if reason = CorrectionReason.cancel.code then .cancelled else v.status }
    else none
  | .payoutReceived _ _ _ _ amount _ =>
    if v.status = .open_ ∧ v.paid + amount ≤ v.net ∧ v.paid + amount < wordSize 256 ∧
        v.revision + 1 < wordSize 32 then
      some { v with
        paid := v.paid + amount
        revision := v.revision + 1
        status := if v.paid + amount = v.net then .paid else v.status }
    else none
  | .payoutCancelled _ _ _ amount =>
    if v.status ≠ .none ∧ amount ≤ v.paid ∧ v.revision + 1 < wordSize 32 then
      some { v with
        paid := v.paid - amount
        revision := v.revision + 1
        status := if v.status = .paid then .open_ else v.status }
    else none
  | _ => none

/-- What the logs `l` of an obligation say, in this order. -/
def readLogs (l : List SourceEvent) : Option ObligationView :=
  replay ObligationView.apply .blank l

/-- What the amounts of an obligation are in terms of its logs alone, whatever their order. -/
structure Tally (l : List SourceEvent) (v : ObligationView) : Prop where
  net : (v.net : Int) = (l.map SourceEvent.netDelta).sum
  paid : (v.paid : Int) = (l.map SourceEvent.paidDelta).sum
  revision : v.revision = l.length
  blank : v.status = .none → v = .blank
  ne_none : v.status = .none ↔ l = []
  cancelled : v.status = .cancelled ↔ ∃ e ∈ l, e.cancels = true

/-- One more log. -/
theorem Tally.apply {l : List SourceEvent} {v w : ObligationView} {e : SourceEvent}
    (h : Tally l v) (hstep : v.apply e = some w) : Tally (l ++ [e]) w := by
  have hnet := h.net
  have hpaid := h.paid
  have hrev := h.revision
  have hcancelled := h.cancelled
  cases e with
  | obligationRecognized a ref issuer payer payee amount dueAt revision =>
    simp only [ObligationView.apply, Option.ite_none_right_eq_some, Option.some.injEq] at hstep
    obtain ⟨⟨hnone, -⟩, rfl⟩ := hstep
    -- A recognition comes first, so the sums start from zero.
    have hl : l = [] := h.ne_none.mp hnone
    have hv : v = .blank := h.blank hnone
    subst hl hv
    constructor <;> simp [ObligationView.blank, SourceEvent.netDelta, SourceEvent.paidDelta,
      SourceEvent.cancels]
  | obligationAssigned a ref facilityKey revision =>
    simp only [ObligationView.apply, Option.ite_none_right_eq_some, Option.some.injEq] at hstep
    obtain ⟨⟨hopen, -, hnext, -⟩, rfl⟩ := hstep
    constructor <;> simp_all [SourceEvent.netDelta, SourceEvent.paidDelta, SourceEvent.cancels]
  | obligationCorrected a ref delta revision reason =>
    simp only [ObligationView.apply, Option.ite_none_right_eq_some, Option.some.injEq] at hstep
    obtain ⟨⟨hopen, hnext, -, ⟨-, hfits, -⟩, -⟩, rfl⟩ := hstep
    have hno : ¬∃ e ∈ l, e.cancels = true := by simp [← hcancelled, hopen]
    constructor
    · simp [SourceEvent.netDelta]
      omega
    · simpa [SourceEvent.paidDelta] using hpaid
    · simp [hnext, hrev]
    · intro hnone
      split at hnone <;> simp_all
    · constructor
      · intro hnone
        split at hnone <;> simp_all
      · simp
    · simp only [List.mem_append, List.mem_singleton, SourceEvent.cancels]
      constructor
      · intro hc
        refine ⟨_, .inr rfl, decide_eq_true ?_⟩
        by_contra hr
        simp [hr, hopen] at hc
      · rintro ⟨e, he | rfl, hc⟩
        · exact absurd ⟨e, he, hc⟩ hno
        · simp [of_decide_eq_true hc]
  | payoutReceived a ref token payer amount seq =>
    simp only [ObligationView.apply, Option.ite_none_right_eq_some, Option.some.injEq] at hstep
    obtain ⟨⟨hopen, -⟩, rfl⟩ := hstep
    have hno : ¬∃ e ∈ l, e.cancels = true := by simp [← hcancelled, hopen]
    constructor
    · simpa [SourceEvent.netDelta] using hnet
    · simp [SourceEvent.paidDelta, hpaid]
    · simp [hrev]
    · intro hnone
      split at hnone <;> simp_all
    · constructor
      · intro hnone
        split at hnone <;> simp_all
      · simp
    · constructor
      · intro hc
        split at hc <;> simp_all
      · simp_all [SourceEvent.cancels]
  | payoutCancelled a ref seq amount =>
    simp only [ObligationView.apply, Option.ite_none_right_eq_some, Option.some.injEq] at hstep
    obtain ⟨⟨hsome, hle, -⟩, rfl⟩ := hstep
    constructor
    · simpa [SourceEvent.netDelta] using hnet
    · simp [SourceEvent.paidDelta]
      omega
    · simp [hrev]
    · intro hnone
      split at hnone <;> simp_all
    · constructor
      · intro hnone
        split at hnone <;> simp_all
      · simp
    · rw [show (∃ e ∈ l ++ [SourceEvent.payoutCancelled a ref seq amount], e.cancels = true) ↔
        ∃ e ∈ l, e.cancels = true by simp [SourceEvent.cancels, or_and_right, exists_or]]
      rw [← hcancelled]
      show (if v.status = .paid then .open_ else v.status) = .cancelled ↔ _
      split <;> simp_all
  | obligationRecognizedV2 => cases hstep
  | sourceCheckpoint => cases hstep
  | sourceCheckpointV2 => cases hstep

/-- The sums of the logs that were read. -/
theorem readLogs_tally {l : List SourceEvent} {v : ObligationView} (h : readLogs l = some v) :
    Tally l v := by
  refine replay_rule ?_ (fun l v e w hl hstep => hl.apply hstep) h
  constructor <;> simp [ObligationView.blank]

/-- A log that carries its revision carries its own place among the logs of the obligation. -/
theorem readLogs_place {p q : List SourceEvent} {e : SourceEvent} {v : ObligationView} {n : Nat}
    (h : readLogs (p ++ e :: q) = some v) (hrev : e.ownRevision = some n) : n = p.length + 1 := by
  obtain ⟨u, w, hu, hw⟩ := replay_at h
  have htally := readLogs_tally hu
  have hlen := htally.revision
  cases e with
  | obligationRecognized a ref issuer payer payee amount dueAt revision =>
    simp only [ObligationView.apply, Option.ite_none_right_eq_some, Option.some.injEq] at hw
    obtain ⟨⟨hnone, hone⟩, -⟩ := hw
    have hp : p = [] := htally.ne_none.mp hnone
    cases hrev
    simp [hp, hone]
  | obligationAssigned a ref facilityKey revision =>
    simp only [ObligationView.apply, Option.ite_none_right_eq_some, Option.some.injEq] at hw
    obtain ⟨⟨-, -, hnext, -⟩, -⟩ := hw
    cases hrev
    rw [hnext, hlen]
  | obligationCorrected a ref delta revision reason =>
    simp only [ObligationView.apply, Option.ite_none_right_eq_some, Option.some.injEq] at hw
    obtain ⟨⟨-, hnext, -⟩, -⟩ := hw
    cases hrev
    rw [hnext, hlen]
  | obligationRecognizedV2 => cases hrev
  | payoutReceived => cases hrev
  | payoutCancelled => cases hrev
  | sourceCheckpoint => cases hrev
  | sourceCheckpointV2 => cases hrev

end Rackline
