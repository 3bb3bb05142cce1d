import Rackline.ReceivableProjection
import Rackline.Proofs.Pledge

/-!
# `Rackline.Proofs.ReceivableProjection`: when the folded receivables are the book's

`Lockstep v d` relates the projection to the book in every run: amounts, revisions, facilities and
dispute flags are equal, and a receivable is paid in one exactly when it is paid in the other. It is
all that the checks of `_project_receivable` need, so the fold never raises.

The other states can differ in one way. The book reads the facility id zero as "not assigned", and
the projection reads any facility as "assigned". So the cancellation of a payout of a paid
receivable that is assigned to facility zero makes it open in the book and assigned in the
projection. `receivables_projected_iff` says that this is the only way.
-/

set_option autoImplicit false

namespace Rackline

open Evm EventLog Transition

/-! ### The relation of one receivable -/

/-- What the projection of a receivable shares with the receivable in every run. `onZero` says
whether the receivable is on the list of facility zero. -/
structure ProjectedReceivable.Tracks (q : ProjectedReceivable) (r : Receivable) (onZero : Prop) :
    Prop where
  net : q.net = r.net
  paid : q.paid = r.paid
  revision : q.revision = r.revision
  disputed : q.disputed = r.disputed
  facility : q.facilityKey.getD 0 = r.facilityId
  zero : q.facilityKey = some 0 ↔ r.facilityId = 0 ∧ onZero
  settled : q.state = .paid ↔ r.state = .paid
  known : r.state ≠ .none
  le : r.paid ≤ r.net

/-- A receivable that was never recognized. -/
structure Receivable.Blank (r : Receivable) (onZero : Prop) : Prop where
  state : r.state = .none
  paid : r.paid = 0
  facility : r.facilityId = 0
  disputed : r.disputed = false
  list : ¬onZero

/-- The projection and the book in lockstep. -/
structure Lockstep (v : ReceivableView) (d : Destination) : Prop where
  blank : ∀ id, v id = none → (d.book.receivables id).Blank (id ∈ d.book.facilityReceivables 0)
  tracks : ∀ id q, v id = some q →
    q.Tracks (d.book.receivables id) (id ∈ d.book.facilityReceivables 0)
  settled : ∀ P seq id, (d.book.settlements P seq).receivableId = some id → v id ≠ none

/-- The projected states are the states of the book. -/
def StatesAgree (v : ReceivableView) (d : Destination) : Prop :=
  ∀ id q, v id = some q → q.state = (d.book.receivables id).state

/-- In lockstep, the view equals the book as soon as the states agree. -/
theorem Lockstep.equals_iff {v : ReceivableView} {d : Destination} (h : Lockstep v d) :
    v.Equals d ↔ StatesAgree v d := by
  constructor
  · intro heq id q hq
    exact ((heq id).2 q hq).2.state
  · intro hst id
    refine ⟨fun hnone => (h.blank id hnone).state, fun q hq => ?_⟩
    have ht := h.tracks id q hq
    exact ⟨ht.known, ht.net, ht.paid, ht.revision, hst id q hq, ht.facility, ht.disputed⟩

section
variable {v : ReceivableView} {d d' : Destination} {id : ReceivableId} {q q' : ProjectedReceivable}
  {r' : Receivable}

/-- A step that writes no receivable, no list and no new settlement of a receivable. -/
theorem Lockstep.quiet (h : Lockstep v d) (hr : d'.book.receivables = d.book.receivables)
    (hl : d'.book.facilityReceivables = d.book.facilityReceivables)
    (hs : ∀ P seq id, (d'.book.settlements P seq).receivableId = some id →
      (d.book.settlements P seq).receivableId = some id) : Lockstep v d' := by
  refine ⟨?_, ?_, fun P seq id hid => h.settled P seq id (hs P seq id hid)⟩
  · rw [hr, hl]
    exact h.blank
  · rw [hr, hl]
    exact h.tracks

/-- What one written receivable leaves of the book: the other receivables, whether they are on the
list of facility zero, and settlements of known receivables. -/
structure WritesOne (d : Destination) (id : ReceivableId) (r' : Receivable) (d' : Destination) :
    Prop where
  receivables : d'.book.receivables = Function.update d.book.receivables id r'
  list : ∀ id', id' ≠ id →
    (id' ∈ d'.book.facilityReceivables 0 ↔ id' ∈ d.book.facilityReceivables 0)
  settled : ∀ P seq id', (d'.book.settlements P seq).receivableId = some id' →
    id' = id ∨ (d.book.settlements P seq).receivableId = some id'

/-- A write of one receivable on both sides keeps the lockstep of the others. -/
theorem Lockstep.write (h : Lockstep v d) (hw : WritesOne d id r' d')
    (ht : q'.Tracks r' (id ∈ d'.book.facilityReceivables 0)) :
    Lockstep (Function.update v id (some q')) d' := by
  refine ⟨fun id' hnone => ?_, fun id' q hq => ?_, fun P seq id' hid => ?_⟩
  · have hne : id' ≠ id := by
      rintro rfl
      rw [Function.update_self] at hnone
      cases hnone
    rw [Function.update_of_ne hne] at hnone
    have hb := h.blank id' hnone
    rw [hw.receivables, Function.update_of_ne hne]
    exact ⟨hb.state, hb.paid, hb.facility, hb.disputed, fun hin => hb.list ((hw.list id' hne).mp hin)⟩
  · by_cases hne : id' = id
    · subst hne
      rw [Function.update_self] at hq
      cases hq
      rw [hw.receivables, Function.update_self]
      exact ht
    · rw [Function.update_of_ne hne] at hq
      have hold := h.tracks id' q hq
      rw [hw.receivables, Function.update_of_ne hne]
      exact { hold with
        zero := hold.zero.trans (and_congr_right fun _ => (hw.list id' hne).symm) }
  · by_cases hne : id' = id
    · subst hne
      rw [Function.update_self]
      simp
    · rw [Function.update_of_ne hne]
      exact h.settled P seq id' ((hw.settled P seq id' hid).resolve_left hne)

/-- After such a write the states agree if and only if the written ones do. -/
theorem StatesAgree.write_iff (h : StatesAgree v d) (hw : WritesOne d id r' d') :
    StatesAgree (Function.update v id (some q')) d' ↔ q'.state = r'.state := by
  constructor
  · intro hall
    have hst := hall id q' (Function.update_self ..)
    rwa [hw.receivables, Function.update_self] at hst
  · intro hst id' q hq
    rw [hw.receivables]
    by_cases hne : id' = id
    · subst hne
      rw [Function.update_self] at hq ⊢
      cases hq
      exact hst
    · rw [Function.update_of_ne hne] at hq ⊢
      exact h id' q hq

/-! ### The checks of the fold -/

variable {z : Prop}

/-- What tracks a receivable of the book passes the last check. -/
theorem ReceivableView.put_ok (ht : q'.Tracks r' z) :
    v.put id q' = .ok (Function.update v id (some q')) := by
  have hnet := ht.net
  have hpaid := ht.paid
  have hle := ht.le
  have hcheck : ¬(q'.net < 0 ∨ q'.paid < 0 ∨ q'.paid > q'.net) := by omega
  unfold ReceivableView.put
  rw [revertIf_of_not _ hcheck]
  rfl

theorem ReceivableView.amend_ok {f : ProjectedReceivable → Except String ProjectedReceivable}
    (hq : v id = some q) (hf : f q = .ok q') (ht : q'.Tracks r' z) :
    v.amend id f = .ok (Function.update v id (some q')) := by
  unfold ReceivableView.amend
  rw [hq]
  show (f q >>= fun r => v.put id r) = _
  rw [hf]
  exact ReceivableView.put_ok ht

end

/-! ### The two sides of each event -/

section
variable {q : ProjectedReceivable} {r : Receivable} {z : Prop}

namespace ProjectedReceivable.Tracks

theorem assign (h : q.Tracks r z) (z' : Prop) (f : FacilityId) (revision validUntil : Nat)
    (hz : f = 0 → z') :
    (q.assign f revision).Tracks
      { r with
        revision := revision, facilityId := f, state := .assigned
        evidenceValidUntil := validUntil } z' where
  net := h.net
  paid := h.paid
  revision := rfl
  disputed := h.disputed
  facility := rfl
  zero := by
    show some f = some 0 ↔ f = 0 ∧ z'
    rw [Option.some_inj]
    exact ⟨fun hf => ⟨hf, hz hf⟩, And.left⟩
  settled := Iff.rfl
  known := nofun
  le := h.le

theorem correct (h : q.Tracks r z) {delta : Int} (revision reason validUntil : Nat)
    (hle : (r.paid : Int) ≤ r.net + delta) :
    (q.correct delta revision reason).Tracks
      { r with
        net := ((r.net : Int) + delta).toNat
        revision := revision
        state := if reason = ReceivableBook.correctionReasonCancel then .cancelled else r.state
        evidenceValidUntil := validUntil } z where
  net := by
    show q.net + delta = (((r.net : Int) + delta).toNat : Int)
    rw [h.net]
    omega
  paid := h.paid
  revision := rfl
  disputed := h.disputed
  facility := h.facility
  zero := h.zero
  settled := by
    show (if _ then _ else q.state) = _ ↔ (if _ then _ else r.state) = _
    split
    · exact ⟨nofun, nofun⟩
    · exact h.settled
  known := by
    show (if _ then _ else r.state) ≠ _
    split
    · exact nofun
    · exact h.known
  le := by
    show r.paid ≤ ((r.net : Int) + delta).toNat
    omega

/-- A payout settles a receivable on both sides or on none. -/
theorem pay (h : q.Tracks r z) {amount : Nat} (token : Address) (hle : r.paid + amount ≤ r.net) :
    (q.pay amount).Tracks
      { r with
        token := token
        paid := r.paid + amount
        revision := r.revision + 1
        state := if r.paid + amount = r.net then .paid else r.state } z := by
  have hwhole : q.paid + amount = q.net ↔ r.paid + amount = r.net := by
    rw [h.paid, h.net]
    omega
  refine ⟨h.net, ?_, congrArg (· + 1) h.revision, h.disputed, h.facility, h.zero, ?_, ?_, hle⟩
  · show q.paid + amount = ((r.paid + amount : Nat) : Int)
    rw [h.paid]
    omega
  · show (if _ then _ else q.state) = _ ↔ (if _ then _ else r.state) = _
    simp only [hwhole]
    split
    · exact Iff.rfl
    · exact h.settled
  · show (if _ then _ else r.state) ≠ _
    split
    · exact nofun
    · exact h.known

/-- A cancelled payout unsettles a receivable on both sides or on none. -/
theorem cancelPayout (h : q.Tracks r z) {amount : Nat} (hle : amount ≤ r.paid) :
    (q.cancelPayout amount).Tracks
      { r with
        paid := r.paid - amount
        revision := r.revision + 1
        state :=
          if r.state = .paid then if r.facilityId ≠ 0 then .assigned else .open_ else r.state }
      z := by
  refine ⟨h.net, ?_, congrArg (· + 1) h.revision, h.disputed, h.facility, h.zero, ?_, ?_,
    (Nat.sub_le _ _).trans h.le⟩
  · show q.paid - amount = ((r.paid - amount : Nat) : Int)
    rw [h.paid]
    omega
  · show (if q.state = .paid then if _ then _ else _ else q.state) = _ ↔
      (if r.state = .paid then if _ then _ else _ else r.state) = _
    simp only [h.settled]
    split
    · constructor
      · split
        · exact nofun
        · exact nofun
      · split
        · exact nofun
        · exact nofun
    · exact h.settled
  · show (if r.state = .paid then if _ then _ else _ else r.state) ≠ _
    split
    · split
      · exact nofun
      · exact nofun
    · exact h.known

/-- The states after a cancelled payout differ exactly when a paid receivable of facility zero
becomes open in the book. -/
theorem cancelPayout_state (h : q.Tracks r z) (hst : q.state = r.state) {amount : Nat} :
    (q.cancelPayout amount).state =
        (if r.state = .paid then if r.facilityId ≠ 0 then .assigned else .open_ else r.state) ↔
      ¬(r.state = .paid ∧ r.facilityId = 0 ∧ z) := by
  show (if q.state = .paid then if q.facilityKey.isSome = true then _ else _ else q.state) = _ ↔ _
  rw [hst]
  by_cases hpaid : r.state = .paid
  · simp only [hpaid, if_true, true_and]
    rw [← h.zero, ← h.facility]
    cases q.facilityKey with
    | none => simp
    | some f =>
      by_cases hf : f = 0
      · simp [hf]
      · simp [hf]
  · simp [hpaid]

theorem dispute (h : q.Tracks r z) (disputed : Bool) :
    ProjectedReceivable.Tracks { q with disputed := disputed } { r with disputed := disputed } z :=
  { h with disputed := rfl }

end ProjectedReceivable.Tracks

end

/-! ### One log -/

/-- What reading the events of a step does to the view: nothing, next to a step that writes no
receivable, or one write, next to the same write of the book. -/
inductive Reading (v : ReceivableView) (d : Destination) (reopens : Prop) (d' : Destination) :
    ReceivableView → Prop
  | quiet (h : ∀ id, d'.book.receivables id = d.book.receivables id) (h' : Lockstep v d') :
      ¬reopens → Reading v d reopens d' v
  | write {id : ReceivableId} {q' : ProjectedReceivable} {r' : Receivable}
      (hw : WritesOne d id r' d') (ht : q'.Tracks r' (id ∈ d'.book.facilityReceivables 0))
      (hst : StatesAgree v d → (q'.state = r'.state ↔ ¬reopens)) :
      Reading v d reopens d' (Function.update v id (some q'))

section
variable {now : Nat} {reg : Providers} {emitter : Address} {P : ProviderId} {rec : EvidenceRecord}
  {event : SourceEvent} {v : ReceivableView} {d d' : Destination}

/-- A written settlement names a receivable in `N`, or the one it named before. -/
theorem settled_set2 {settlements : ProviderId → Nat → Settlement} {P : ProviderId} {seq : Nat}
    {st : Settlement} (N : ReceivableId → Prop)
    (hst : ∀ id, st.receivableId = some id → N id ∨ (settlements P seq).receivableId = some id) :
    ∀ P' seq' id, (set2 settlements P seq st P' seq').receivableId = some id →
      N id ∨ (settlements P' seq').receivableId = some id := by
  intro P' seq' id hid
  rw [set2_apply] at hid
  split at hid
  · rename_i hat
    obtain ⟨rfl, rfl⟩ := hat
    exact hst id hid
  · exact .inr hid

/-- A receivable that the book reads as known is projected. -/
theorem Lockstep.projected (h : Lockstep v d) {id : ReceivableId}
    (hst : (d.book.receivables id).state ≠ .none) :
    ∃ q, v id = some q ∧ q.Tracks (d.book.receivables id) (id ∈ d.book.facilityReceivables 0) := by
  cases hq : v id with
  | none => exact (hst (h.blank id hq).state).elim
  | some q => exact ⟨q, rfl, h.tracks id q hq⟩

theorem Lockstep.unknown (h : Lockstep v d) {id : ReceivableId}
    (hst : (d.book.receivables id).state = .none) : v id = none := by
  cases hq : v id with
  | none => rfl
  | some q => exact ((h.tracks id q hq).known hst).elim

/-- A state from which the book takes an assignment, a correction or a payout is known. -/
theorem live_ne_none {r : Receivable} (h : r.state = .open_ ∨ r.state = .assigned) :
    r.state ≠ .none := by
  obtain h | h := h
  · rw [h]
    exact nofun
  · rw [h]
    exact nofun

/-- One accepted event that writes one receivable on both sides. -/
theorem Reading.single {reopens : Prop} {e : BookEvent} {id : ReceivableId}
    {q' : ProjectedReceivable} {r' : Receivable}
    (hread : projectReceivable v e = .ok (Function.update v id (some q')))
    (hw : WritesOne d id r' d') (ht : q'.Tracks r' (id ∈ d'.book.facilityReceivables 0))
    (hst : StatesAgree v d → (q'.state = r'.state ↔ ¬reopens)) :
    ∃ v', fold projectReceivable v [e] = .ok v' ∧ Reading v d reopens d' v' :=
  ⟨_, by rw [fold_single, hread], .write hw ht hst⟩

/-- The projection reads what the book made of a log. -/
theorem BookEffect.reading {b' : ReceivableBook} (h : Lockstep v d)
    (he : BookEffect now reg emitter P rec d.book event b') (hd : d'.book = b') (log : Nat)
    (c : ReceivableClaim) :
    ∃ v', fold projectReceivable v (d.book.applied P event) = .ok v' ∧
      Reading v d (d.ReopensZeroFacility (.ingest reg emitter P log event c)) d' v' := by
  obtain ⟨evidence, book⟩ := d'
  obtain rfl : book = b' := hd
  cases he with
  | recognized event id issuer payer token amount dueAt hev hP hnone hamount hword =>
    subst hP
    have hv := h.unknown hnone
    have hblank := h.blank id hv
    have hevents : d.book.applied id.providerId event =
        [.receivableRecognized id id.accountKey id.obligationRef amount] := by
      obtain ⟨rfl, -⟩ | ⟨t, rfl, -⟩ := hev
      · rfl
      · rfl
    have hno : ¬d.ReopensZeroFacility (.ingest reg emitter id.providerId log event c) := by
      obtain ⟨rfl, -⟩ | ⟨t, rfl, -⟩ := hev
      · exact fun hc => hc
      · exact fun hc => hc
    rw [hevents]
    -- What was never recognized has nothing paid, no facility and no dispute.
    have ht : ProjectedReceivable.Tracks
        { accountKey := id.accountKey, obligationRef := id.obligationRef, facilityKey := none,
          state := .open_, net := amount, paid := 0, revision := 1, disputed := false }
        { d.book.receivables id with
          providerId := id.providerId, accountKey := id.accountKey
          obligationRef := id.obligationRef, payer := payer, token := token.getD 0
          denominationProven := token.isSome, net := amount, revision := 1, dueAt := dueAt
          evidenceValidUntil := rec.validUntil, state := .open_ }
        (id ∈ d.book.facilityReceivables 0) := by
      refine ⟨rfl, ?_, rfl, hblank.disputed.symm, hblank.facility.symm, ?_, Iff.rfl, nofun, ?_⟩
      · show (0 : Int) = ((d.book.receivables id).paid : Int)
        rw [hblank.paid]
        rfl
      · exact ⟨nofun, fun hc => (hblank.list hc.2).elim⟩
      · show (d.book.receivables id).paid ≤ amount
        rw [hblank.paid]
        exact Nat.zero_le amount
    refine Reading.single ?_ ⟨rfl, fun _ _ => Iff.rfl, fun _ _ _ hs => .inr hs⟩ ht ?_
    · simp only [projectReceivable, hv]
      exact ReceivableView.put_ok ht
    · exact fun _ => ⟨fun _ => hno, fun _ => rfl⟩
  | assigned id facilityKey hP hopen hexists hprovider htoken hne hsame =>
    subst hP
    obtain ⟨q, hq, ht⟩ := h.projected (live_ne_none hopen)
    have ht' := ht.assign (id ∈ d.book.facilityReceivables 0) (d.book.receivables id).facilityId
      ((d.book.receivables id).revision + 1) rec.validUntil (fun hz => (hne hz).elim)
    show ∃ v', fold projectReceivable v [.receivableAssigned id (d.book.facilityByKey facilityKey) _]
      = .ok v' ∧ _
    rw [← hsame]
    exact Reading.single (ReceivableView.amend_ok hq rfl ht')
      ⟨rfl, fun _ _ => Iff.rfl, fun _ _ _ hs => .inr hs⟩ ht' fun _ => ⟨fun _ hc => hc, fun _ => rfl⟩
  | assignedFirst id facilityKey hP hopen hexists hprovider htoken hfirst =>
    subst hP
    obtain ⟨q, hq, ht⟩ := h.projected (live_ne_none hopen)
    -- The first assignment lists the receivable.
    have hlist : ∀ id', id' ∈ Function.update d.book.facilityReceivables
        (d.book.facilityByKey facilityKey)
        (d.book.facilityReceivables (d.book.facilityByKey facilityKey) ++ [id]) 0 ↔
          id' ∈ d.book.facilityReceivables 0 ∨
            d.book.facilityByKey facilityKey = 0 ∧ id' = id := by
      intro id'
      by_cases hz : d.book.facilityByKey facilityKey = 0
      · rw [hz, Function.update_self, List.mem_append, List.mem_singleton]
        simp
      · rw [Function.update_of_ne (Ne.symm hz)]
        simp [hz]
    have ht' := ht.assign _ (d.book.facilityByKey facilityKey) ((d.book.receivables id).revision + 1)
      rec.validUntil (fun hz => (hlist id).mpr (.inr ⟨hz, rfl⟩))
    refine Reading.single (ReceivableView.amend_ok hq rfl ht')
      ⟨rfl, fun id' hne => ?_, fun _ _ _ hs => .inr hs⟩ ht' fun _ => ⟨fun _ hc => hc, fun _ => rfl⟩
    refine (hlist id').trans ⟨fun hin => ?_, .inl⟩
    exact hin.resolve_right fun hc => hne hc.2
  | corrected id delta reason openAmount' hP hopen hle hfits hcancel hcover hopenAmount =>
    subst hP
    obtain ⟨q, hq, ht⟩ := h.projected (live_ne_none hopen)
    have ht' := ht.correct ((d.book.receivables id).revision + 1) reason rec.validUntil hfits.2.1
    refine Reading.single (ReceivableView.amend_ok hq rfl ht')
      ⟨rfl, fun _ _ => Iff.rfl, fun _ _ _ hs => .inr hs⟩ ht' fun hst => ⟨fun _ hc => hc, fun _ => ?_⟩
    show (if reason = _ then _ else q.state) = if reason = _ then _ else _
    rw [hst id q hq]
  | paid id token payer amount seq hP href hseen hopen htoken hfacility hle hcover =>
    subst hP
    obtain ⟨q, hq, ht⟩ := h.projected (live_ne_none hopen)
    have ht' := ht.pay (if (d.book.receivables id).token = 0 then token
      else (d.book.receivables id).token) hle
    have hevents : d.book.applied id.providerId
        (.payoutReceived id.accountKey id.obligationRef token payer amount seq) =
          [.receivablePaid id amount seq ((d.book.receivables id).net -
            ((d.book.receivables id).paid + amount))] := if_neg href
    have hunpaid : (q.pay amount).net - (q.pay amount).paid =
        (((d.book.receivables id).net - ((d.book.receivables id).paid + amount) : Nat) : Int) := by
      have hnet := ht.net
      have hpaid := ht.paid
      show q.net - (q.paid + amount) = _
      omega
    rw [hevents]
    refine Reading.single (ReceivableView.amend_ok hq ?_ ht')
      ⟨rfl, fun _ _ => Iff.rfl, settled_set2 (· = id) fun id' hs => .inl ?_⟩ ht'
      fun hst => ⟨fun _ hc => hc, fun _ => ?_⟩
    · show (revertIf _ _ >>= fun _ => pure (q.pay amount)) = _
      rw [revertIf_of_not _ (not_not_intro hunpaid)]
      rfl
    · exact (Option.some_inj.mp hs).symm
    · show (if q.paid + amount = q.net then _ else q.state) = if _ then _ else _
      rw [hst id q hq]
      have hwhole : q.paid + amount = q.net ↔
          (d.book.receivables id).paid + amount = (d.book.receivables id).net := by
        have hnet := ht.net
        have hpaid := ht.paid
        omega
      simp only [hwhole]
  | paidUnnamed a token payer amount seq hseen =>
    have hsettled : ∀ P' seq' id, (set2 d.book.settlements P seq
        ⟨a, none, amount, true, false⟩ P' seq').receivableId = some id →
          False ∨ (d.book.settlements P' seq').receivableId = some id :=
      settled_set2 (fun _ => False) fun id hs => by cases hs
    exact ⟨v, rfl, .quiet (fun _ => rfl)
      (h.quiet rfl rfl fun P' seq' id hs => (hsettled P' seq' id hs).resolve_left fun hc => hc)
      fun hc => hc⟩
  | unpaid id seq amount hP hexists haccount hid hcancelled hamount hle hpaid hword =>
    subst hP
    have hknown := h.settled id.providerId seq id hid
    obtain ⟨q, hq⟩ := Option.ne_none_iff_exists'.mp hknown
    have ht := h.tracks id q hq
    have ht' := ht.cancelPayout hle
    have hevents : d.book.applied id.providerId
        (.payoutCancelled id.accountKey id.obligationRef seq amount) =
          [.receivablePayoutCancelled id amount seq] := by
      unfold ReceivableBook.applied
      simp only [hid]
    rw [hevents]
    refine Reading.single (ReceivableView.amend_ok hq rfl ht')
      ⟨rfl, fun _ _ => Iff.rfl, settled_set2 (· = id) fun id' hs => .inr hs⟩ ht' fun hst => ?_
    refine (ht.cancelPayout_state (hst id q hq)).trans (not_congr ?_)
    constructor
    · intro hc
      exact ⟨id, hid, hc⟩
    · rintro ⟨id', hid', hc⟩
      rw [hid] at hid'
      cases hid'
      exact hc
  | unpaidUnnamed a ref seq amount hexists haccount hid hcancelled hamount hpaid =>
    have hevents : d.book.applied P (.payoutCancelled a ref seq amount) = [] := by
      unfold ReceivableBook.applied
      simp only [hid]
    have hsettled : ∀ P' seq' id, (set2 d.book.settlements P seq
        { d.book.settlements P seq with cancelled := true } P' seq').receivableId = some id →
          False ∨ (d.book.settlements P' seq').receivableId = some id :=
      settled_set2 (fun _ => False) fun id hs => .inr hs
    rw [hevents]
    refine ⟨v, rfl, .quiet (fun _ => rfl)
      (h.quiet rfl rfl fun P' seq' id hs => (hsettled P' seq' id hs).resolve_left fun hc => hc) ?_⟩
    rintro ⟨id', hid', -⟩
    rw [hid] at hid'
    cases hid'
  | checkpointed event a seq latestRevision openAmount paidCumulative observedAt until_ hev =>
    have hevents : d.book.applied P event = [.checkpointRecorded a seq latestRevision] := by
      obtain ⟨rfl, -⟩ | rfl := hev
      · rfl
      · rfl
    have hno : ¬d.ReopensZeroFacility (.ingest reg emitter P log event c) := by
      obtain ⟨rfl, -⟩ | rfl := hev
      · exact fun hc => hc
      · exact fun hc => hc
    rw [hevents]
    exact ⟨v, rfl, .quiet (fun _ => rfl) (h.quiet rfl rfl fun _ _ _ hs => hs) hno⟩

end

/-! ### One step -/

section
variable {v v' : ReceivableView} {d d' : Destination} {reopens : Prop}

theorem Reading.lockstep (h : Lockstep v d) (hread : Reading v d reopens d' v') : Lockstep v' d' := by
  cases hread with
  | quiet _ h' _ => exact h'
  | write hw ht _ => exact h.write hw ht

/-- After a step from states that agree, the states agree unless the step reopens. -/
theorem Reading.agree_iff (h : StatesAgree v d) (hread : Reading v d reopens d' v') :
    StatesAgree v' d' ↔ ¬reopens := by
  cases hread with
  | quiet hr _ hno =>
    refine ⟨fun _ => hno, fun _ id q hq => ?_⟩
    rw [hr id]
    exact h id q hq
  | write hw _ hst => exact (h.write_iff hw).trans (hst h)

/-- The projection reads the events of every transaction. -/
theorem DestinationStep.reading {facilityKey : FacilityId → Bytes32} {tx : BookTx}
    (h : Lockstep v d) (hs : DestinationStep facilityKey d tx d') :
    ∃ v', fold projectReceivable v (d.events tx) = .ok v' ∧
      Reading v d (d.ReopensZeroFacility tx.2) d' v' := by
  obtain ⟨m, call⟩ := tx
  obtain ⟨reg, emitter, P, log, event, c, rec, htx, heffect⟩ | ⟨id, disputed, htx, hknown, hbook⟩ |
    ⟨reg, facilityId, borrowerId, providerId, sourceAsset, htx, -, hbook⟩ := hs.effect
  · cases htx
    exact heffect.reading h rfl log c
  · cases htx
    obtain ⟨q, hq, ht⟩ := h.projected hknown
    have ht' := ht.dispute disputed
    rw [← congrArg ReceivableBook.facilityReceivables hbook] at ht'
    refine Reading.single (ReceivableView.amend_ok hq rfl ht')
      ⟨congrArg _ hbook, fun _ _ => by rw [hbook], fun _ _ _ hs => .inr (by rwa [hbook] at hs)⟩ ht' ?_
    exact fun hst => ⟨fun _ hc => hc, fun _ => hst id q hq⟩
  · cases htx
    have hr := congrArg ReceivableBook.receivables hbook
    refine ⟨v, rfl, .quiet (fun id => congrFun hr id) (h.quiet hr ?_ fun P seq id hs => ?_)
      fun hc => hc⟩
    · rw [hbook]
    · rwa [hbook] at hs

end

/-! ### Runs -/

theorem lockstep_initial : Lockstep .empty .initial where
  blank := fun _ _ => ⟨rfl, rfl, rfl, rfl, List.not_mem_nil⟩
  tracks := nofun
  settled := nofun

section
variable {facilityKey : FacilityId → Bytes32} {txs : List BookTx} {s : Logged Destination BookEvent}

/-- The folded receivables equal those of the book after every transaction of a run if and only if
no transaction of the run cancels a payout of a paid receivable of facility zero. -/
theorem receivables_projected_iff (facilityKey : FacilityId → Bytes32) (txs : List BookTx) :
    (∀ pre post t, txs = pre ++ post →
        Steps (ReceivableStep facilityKey) bookDeployment pre t → ReceivablesProjected t) ↔
      ∀ t tx t', StepOf (ReceivableStep facilityKey) bookDeployment txs t tx t' →
        ¬t.state.ReopensZeroFacility tx.2 := by
  have hequals : ReceivableView.Equals .empty Destination.initial :=
    lockstep_initial.equals_iff.mpr nofun
  refine projects_iff (R := Lockstep) (Q := fun d (tx : BookTx) => ¬d.ReopensZeroFacility tx.2) rfl
    lockstep_initial hequals ?_ ?_
  · intro d tx d' v h hs
    obtain ⟨v', hv', hread⟩ := DestinationStep.reading h hs
    exact ⟨v', hv', hread.lockstep h⟩
  · intro d tx d' v w h heq hs hw
    obtain ⟨v', hv', hread⟩ := DestinationStep.reading h hs
    rw [hw] at hv'
    cases hv'
    rw [(hread.lockstep h).equals_iff]
    exact hread.agree_iff (h.equals_iff.mp heq)

end

/-! ### A run to evaluate -/

theorem runBook_steps {facilityKey : FacilityId → Bytes32} :
    ∀ {txs : List BookTx} {s s' : Logged Destination BookEvent},
      runBook facilityKey s txs = .ok s' → Steps (ReceivableStep facilityKey) s txs s' := by
  intro txs
  induction txs with
  | nil =>
    intro s s' h
    cases h
    exact .nil s
  | cons tx rest ih =>
    intro s s' h
    obtain ⟨d, hcall, h⟩ := bind_eq_ok.mp h
    have hstep : ReceivableStep facilityKey s tx ⟨d, s.log ++ s.state.events tx⟩ := by
      refine ⟨?_, rfl⟩
      show s.state.call facilityKey tx.1 tx.2 = .ok d
      exact hcall
    exact .cons hstep (ih h)

namespace Sample

/-- A receivable of 100 is assigned to the facility that is registered under the id zero, paid, and
its payout is cancelled. -/
def reopenedCalls : List BookTx :=
  [(bookMsg 1, .registerFacility providers 0 3 1 ⟨1, 5, 6⟩),
    ingestTx 2 0 (.obligationRecognizedV2 1 1 1 9 100 5 100 0 1),
    ingestTx 3 1 (.obligationAssigned 1 1 0 2), ingestTx 4 2 (.payoutReceived 1 1 5 9 100 1),
    ingestTx 5 3 (.payoutCancelled 1 1 1 100)]

end Sample

/-- In no run the fold raises, and in every run it has all of the book but the states: the
receivables that were recognized, with their net and paid amounts, their revision, their facility,
whether they are disputed and whether they are settled. -/
theorem receivables_folded {facilityKey : FacilityId → Bytes32} {txs : List BookTx}
    {s : Logged Destination BookEvent}
    (hrun : Steps (ReceivableStep facilityKey) bookDeployment txs s) :
    ∃ v, fold projectReceivable .empty s.log = .ok v ∧ Lockstep v s.state := by
  refine projects_of_steps (R := Lockstep) rfl lockstep_initial ?_ hrun
  intro d tx d' v h hs
  obtain ⟨v', hv', hread⟩ := DestinationStep.reading h hs
  exact ⟨v', hv', hread.lockstep h⟩

/-- Also where a payout of facility zero is cancelled. -/
theorem receivables_folded_sample :
    ∃ s v, Steps (ReceivableStep fun id => id) bookDeployment Sample.reopenedCalls s ∧
      fold projectReceivable .empty s.log = .ok v ∧ Lockstep v s.state := by
  have hreturns : (runBook (fun id => id) bookDeployment Sample.reopenedCalls).toOption.isSome =
      true := by decide +kernel
  obtain ⟨s, hs⟩ := Option.isSome_iff_exists.mp hreturns
  have hrun := runBook_steps (toOption_eq_some.mp hs)
  obtain ⟨v, hv, hlockstep⟩ := receivables_folded hrun
  exact ⟨s, v, hrun, hv, hlockstep⟩

/-- After the cancelled payout the receivable of facility zero is open in the book and assigned in
the projection. -/
theorem zero_facility_projected_assigned :
    ∃ s, Steps (ReceivableStep fun id => id) bookDeployment Sample.reopenedCalls s ∧
      (s.state.book.receivables ⟨1, 1, 1⟩).state = .open_ ∧
      (∃ v q, fold projectReceivable .empty s.log = .ok v ∧ v ⟨1, 1, 1⟩ = some q ∧
        q.state = .assigned) ∧
      ¬ReceivablesProjected s := by
  obtain ⟨s, hrun, hview⟩ := map_eq_ok.mp (toOption_eq_some.mp (show
    ((runBook (fun id => id) bookDeployment Sample.reopenedCalls).map fun s =>
      ((s.state.book.receivables ⟨1, 1, 1⟩).state,
        ((fold projectReceivable .empty s.log).map fun v =>
          (v ⟨1, 1, 1⟩).map (·.state)).toOption)).toOption =
      some (.open_, some (some .assigned)) by decide +kernel))
  simp only [Prod.mk.injEq] at hview
  obtain ⟨hopen, hfold⟩ := hview
  obtain ⟨v, hv, hq⟩ := map_eq_ok.mp (toOption_eq_some.mp hfold)
  obtain ⟨q, hq, hassigned⟩ := Option.map_eq_some_iff.mp hq
  refine ⟨s, runBook_steps hrun, hopen, ⟨v, q, hv, hq, hassigned⟩, ?_⟩
  rintro ⟨w, hw, hequals⟩
  rw [hv] at hw
  cases hw
  have hstate := ((hequals ⟨1, 1, 1⟩).2 q hq).2.state
  rw [hassigned, hopen] at hstate
  cases hstate

end Rackline
