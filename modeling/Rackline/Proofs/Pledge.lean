import Mathlib.Data.Fintype.Prod
import Rackline.Proofs.OpenAmounts

/-!
# `Rackline.Proofs.Pledge`: a receivable is pledged once

The book puts a receivable on the list of a facility when its first assignment is ingested, and it
takes a facility of zero for "not assigned yet". A facility that is registered under the id zero is
then never seen as assigned: each further assignment log lists the receivable once more.

`pledged_at_most_once` is the exact condition. As long as no assignment log is ingested for a
receivable that is on the list of the facility zero, lists have no duplicates, and what all
facilities count together is at most what is unpaid of the assigned receivables. Two parts need no
condition: paid amounts stay below net amounts, and a receivable is recognised once in a run.
-/

set_option autoImplicit false

namespace Rackline

open Evm Transition Finset

/-- The identifiers as triples. -/
def ReceivableId.equiv : ReceivableId ≃ ProviderId × AccountKey × Bytes32 where
  toFun id := (id.providerId, id.accountKey, id.obligationRef)
  invFun t := ⟨t.1, t.2.1, t.2.2⟩
  left_inv _ := rfl
  right_inv _ := rfl

instance : Fintype ReceivableId := Fintype.ofEquiv _ ReceivableId.equiv.symm

/-- What is unpaid of an assigned receivable. -/
def Receivable.assignedPart (r : Receivable) : Nat :=
  if r.state = .assigned then r.net - r.paid else 0

/-- The receivable that a call recognises. -/
def BookCall.recognizes : BookCall → Option ReceivableId
  | .ingest _ _ P _ (.obligationRecognized a ref ..) _ => some ⟨P, a, ref⟩
  | .ingest _ _ P _ (.obligationRecognizedV2 a ref ..) _ => some ⟨P, a, ref⟩
  | _ => none

namespace ReceivableBook

/-- What is unpaid of all assigned receivables. -/
def assignedTotal (b : ReceivableBook) : Nat := ∑ id, (b.receivables id).assignedPart

/-- What a facility counts; nothing where `eligibleUnpaid` reverts. -/
def eligibleAmount (reg : Providers) (maxAge toleranceBps haircutBps at_ : Nat)
    (b : ReceivableBook) (facilityId : FacilityId) : Nat :=
  match b.eligibleUnpaid reg facilityId maxAge toleranceBps haircutBps at_ with
  | .ok e => e.eligible
  | .error _ => 0

/-- Receivables are listed once, paid at most in full, and counted at most once. -/
structure PledgedOnce (b : ReceivableBook) : Prop where
  once : ∀ f, (b.facilityReceivables f).Nodup
  single : ∀ f g id, id ∈ b.facilityReceivables f → id ∈ b.facilityReceivables g → f = g
  covered : ∀ id, (b.receivables id).paid ≤ (b.receivables id).net
  counted : ∀ reg maxAge toleranceBps haircutBps at_,
    ∑ f, b.eligibleAmount reg maxAge toleranceBps haircutBps at_ f ≤ b.assignedTotal

/-- The lists hold what is assigned to their facility. -/
structure Listed (b : ReceivableBook) : Prop where
  once : ∀ f, (b.facilityReceivables f).Nodup
  member : ∀ f id, id ∈ b.facilityReceivables f → (b.receivables id).facilityId = f

/-- The call ingests an assignment of a receivable that is on the list of the facility zero. -/
def AssignsAgain (b : ReceivableBook) : BookCall → Prop
  | .ingest _ _ P _ (.obligationAssigned a ref _ _) _ => ⟨P, a, ref⟩ ∈ b.facilityReceivables 0
  | _ => False

variable {now : Nat} {reg : Providers} {emitter : Address} {P : ProviderId} {rec : EvidenceRecord}
  {b b' : ReceivableBook} {event : SourceEvent} {id : ReceivableId} {r : Receivable} {n m : Nat}

/-! ### What is counted -/

theorem haircut_le {haircutBps at_ unpaid counted : Nat}
    (h : haircut r haircutBps at_ unpaid = .ok counted) : counted ≤ unpaid := by
  unfold haircut at h
  split at h
  · simp only [bind_eq_ok, subW_eq_ok, mulW_eq_ok, pure_eq_ok] at h
    obtain ⟨factor, ⟨-, rfl⟩, product, ⟨-, rfl⟩, rfl⟩ := h
    have hfactor : unpaid * (10000 - haircutBps) ≤ unpaid * 10000 :=
      Nat.mul_le_mul_left _ (Nat.sub_le _ _)
    omega
  · cases h
    exact Nat.le_refl _

/-- What one receivable may add to the count of a facility. -/
def share (b : ReceivableBook) (f : FacilityId) (id : ReceivableId) : Nat :=
  if (b.receivables id).facilityId = f then (b.receivables id).assignedPart else 0

/-- A round of the loop counts nothing, or at most what is unpaid of a receivable that is assigned to
the facility, under a checkpoint that is in order. -/
theorem countReceivable_ok {facilityId : FacilityId} {f : BookFacility}
    {maxAge toleranceBps haircutBps at_ : Nat} {acc out : Eligibility}
    (h : b.countReceivable facilityId f maxAge toleranceBps haircutBps at_ acc id = .ok out) :
    out.eligible = acc.eligible ∨
      (b.receivables id).state = .assigned ∧ (b.receivables id).facilityId = facilityId ∧
      (∃ age, b.checkpointOk ⟨f.providerId, (b.receivables id).accountKey⟩ maxAge toleranceBps at_
        = .ok (true, age)) ∧
      out.eligible ≤ acc.eligible + ((b.receivables id).net - (b.receivables id).paid) := by
  dsimp only [countReceivable] at h
  -- The guards that skip a receivable leave the count as it is.
  split at h
  · cases h
    exact .inl rfl
  rename_i hstate
  split at h
  · cases h
    exact .inl rfl
  rename_i hfacility
  split at h
  · cases h
    exact .inl rfl
  split at h
  · cases h
    exact .inl rfl
  obtain ⟨⟨fresh, age⟩, hcheckpoint, h⟩ := bind_eq_ok.mp h
  dsimp only at h
  split at h
  · rw [← pure_eq_ok.mp h]
    exact .inl rfl
  rename_i hfresh
  simp only [bind_eq_ok, subW_eq_ok, addW_eq_ok, pure_eq_ok] at h
  obtain ⟨_, ⟨-, rfl⟩, counted, hcounted, _, ⟨-, rfl⟩, rfl⟩ := h
  have hle := haircut_le hcounted
  have hfresh : fresh = true := by simpa using hfresh
  rw [hfresh] at hcheckpoint
  exact .inr ⟨by tauto, Classical.not_not.mp hfacility, ⟨age, hcheckpoint⟩,
    Nat.add_le_add_left hle _⟩

theorem countReceivable_le {facilityId : FacilityId} {f : BookFacility}
    {maxAge toleranceBps haircutBps at_ : Nat} {acc out : Eligibility}
    (h : b.countReceivable facilityId f maxAge toleranceBps haircutBps at_ acc id = .ok out) :
    out.eligible ≤ acc.eligible + b.share facilityId id := by
  rcases countReceivable_ok h with hsame | ⟨hassigned, hfacility, -, hle⟩
  · rw [hsame]
    exact Nat.le_add_right _ _
  · simpa only [share, Receivable.assignedPart, hassigned, hfacility, if_true] using hle

/-- What each round adds bounds what the loop adds. -/
theorem countReceivables_le {facilityId : FacilityId} {f : BookFacility}
    {maxAge toleranceBps haircutBps at_ : Nat} {bound : ReceivableId → Nat}
    (hbound : ∀ acc out id,
      b.countReceivable facilityId f maxAge toleranceBps haircutBps at_ acc id = .ok out →
        out.eligible ≤ acc.eligible + bound id) :
    ∀ {ids : List ReceivableId} {acc out : Eligibility},
      ids.foldlM (b.countReceivable facilityId f maxAge toleranceBps haircutBps at_) acc = .ok out →
        out.eligible ≤ acc.eligible + (ids.map bound).sum := by
  intro ids
  induction ids with
  | nil =>
    intro acc out h
    cases h
    exact Nat.le_refl _
  | cons id rest ih =>
    intro acc out h
    obtain ⟨next, hone, hrest⟩ := bind_eq_ok.mp h
    have hfirst := hbound acc next id hone
    have hothers := ih hrest
    rw [List.map_cons, List.sum_cons]
    omega

/-- What each round adds bounds what a facility counts. -/
theorem eligibleUnpaid_le {facilityId : FacilityId} {maxAge toleranceBps haircutBps at_ : Nat}
    {bound : ReceivableId → Nat}
    (hbound : ∀ acc out id, b.countReceivable facilityId (b.facilities facilityId) maxAge toleranceBps
      haircutBps at_ acc id = .ok out → out.eligible ≤ acc.eligible + bound id)
    {e : Eligibility}
    (h : b.eligibleUnpaid reg facilityId maxAge toleranceBps haircutBps at_ = .ok e) :
    e.eligible ≤ ((b.facilityReceivables facilityId).map bound).sum := by
  simp only [eligibleUnpaid, bind_eq_ok, revertIf_eq_ok, exists_const] at h
  obtain ⟨-, cfg, -, h⟩ := h
  split at h
  · rw [← pure_eq_ok.mp h]
    exact Nat.zero_le _
  · obtain ⟨total, hfold, h⟩ := bind_eq_ok.mp h
    have hle := countReceivables_le hbound hfold
    have heq : e.eligible = total.eligible := by
      rw [← pure_eq_ok.mp h]
      split <;> rfl
    rw [heq]
    dsimp only at hle
    omega

theorem eligibleAmount_le (maxAge toleranceBps haircutBps at_ : Nat) (facilityId : FacilityId) :
    b.eligibleAmount reg maxAge toleranceBps haircutBps at_ facilityId ≤
      ((b.facilityReceivables facilityId).map (b.share facilityId)).sum := by
  unfold eligibleAmount
  split
  · rename_i e h
    exact eligibleUnpaid_le (fun _ _ _ => countReceivable_le) h
  · exact Nat.zero_le _

/-- With lists that have no duplicates, the facilities count no receivable twice: each receivable has
one facility. -/
theorem sum_eligibleAmount_le (h : ∀ f, (b.facilityReceivables f).Nodup)
    (maxAge toleranceBps haircutBps at_ : Nat) :
    ∑ f, b.eligibleAmount reg maxAge toleranceBps haircutBps at_ f ≤ b.assignedTotal := by
  calc ∑ f, b.eligibleAmount reg maxAge toleranceBps haircutBps at_ f
      ≤ ∑ f, ∑ id, b.share f id := by
        refine sum_le_sum fun f _ => le_trans (eligibleAmount_le ..) ?_
        rw [← List.sum_toFinset _ (h f)]
        exact sum_le_sum_of_subset (subset_univ _)
    _ = ∑ id, ∑ f, b.share f id := sum_comm
    _ = b.assignedTotal := by
        refine sum_congr rfl fun id _ => ?_
        simp only [share, sum_ite_eq, mem_univ, if_true]

/-! ### The lists -/

theorem Listed.pledgedOnce (h : b.Listed) (hs : b.Sound) : b.PledgedOnce where
  once := h.once
  single f g id hf hg := (h.member f id hf).symm.trans (h.member g id hg)
  covered id := (hs id).le
  counted _ _ _ _ _ := sum_eligibleAmount_le h.once ..

/-- A change that keeps the lists, and the facility of each receivable. -/
theorem Listed.congr (h : b.Listed) (hl : b'.facilityReceivables = b.facilityReceivables)
    (hf : ∀ id, (b'.receivables id).facilityId = (b.receivables id).facilityId) : b'.Listed := by
  constructor
  · rw [hl]
    exact h.once
  · intro f id hid
    rw [hl] at hid
    rw [hf]
    exact h.member f id hid

theorem moved_facilityId (hr : r.facilityId = (b.receivables id).facilityId) (id' : ReceivableId) :
    ((b.moved id r n m).receivables id').facilityId = (b.receivables id').facilityId := by
  by_cases hid : id' = id
  · subst hid
    rw [moved_receivables_self, hr]
  · rw [moved_receivables_of_ne hid]

/-- The first assignment of a receivable lists it for its facility. -/
theorem Listed.assignedFirst {f : FacilityId} (h : b.Listed) (hr : r.facilityId = f)
    (h0 : (b.receivables id).facilityId = 0) (hnot : id ∉ b.facilityReceivables 0) :
    ((b.moved id r n m).listed id f).Listed := by
  have hfresh : ∀ g, id ∉ b.facilityReceivables g := by
    intro g hg
    have hzero := h.member g id hg
    rw [h0] at hzero
    rw [← hzero] at hg
    exact hnot hg
  have hlist : ∀ g, ((b.moved id r n m).listed id f).facilityReceivables g =
      if g = f then b.facilityReceivables f ++ [id] else b.facilityReceivables g := by
    intro g
    show Function.update b.facilityReceivables f _ g = _
    rw [Function.update_apply]
    rfl
  constructor
  · intro g
    rw [hlist]
    split
    · refine List.Nodup.append (h.once f) (List.nodup_singleton id) ?_
      rw [List.disjoint_singleton]
      exact hfresh f
    · exact h.once g
  · intro g id' hg
    rw [hlist] at hg
    show ((b.moved id r n m).receivables id').facilityId = g
    by_cases hid : id' = id
    · subst hid
      rw [moved_receivables_self, hr]
      split at hg
      · rename_i heq
        exact heq.symm
      · exact absurd hg (hfresh g)
    · rw [moved_receivables_of_ne hid]
      split at hg
      · rename_i heq
        rw [heq]
        obtain hold | hnew := List.mem_append.mp hg
        · exact h.member f id' hold
        · exact absurd (List.mem_singleton.mp hnew) hid
      · exact h.member g id' hg

/-- A log that does not assign again keeps the lists. -/
theorem Listed.effect (h : b.Listed) {log : Nat} {c : ReceivableClaim}
    (hnot : ¬b.AssignsAgain (.ingest reg emitter P log event c))
    (heffect : BookEffect now reg emitter P rec b event b') : b'.Listed := by
  cases heffect with
  | assignedFirst id facilityKey hP hopen hexists hprovider htoken h0 =>
    refine h.assignedFirst rfl h0 ?_
    rw [← hP] at hnot
    exact hnot
  | recognized | assigned | corrected =>
    refine h.congr rfl fun id' => ?_
    apply moved_facilityId
    rfl
  | paid | unpaid =>
    refine h.congr rfl fun id' => ?_
    apply moved_facilityId (b := b) (n := 0) (m := 0)
    rfl
  | paidUnnamed | unpaidUnnamed | checkpointed => exact h.congr rfl fun _ => rfl

/-- A log that assigns again lists a receivable a second time. -/
theorem Listed.assignsAgain (h : b.Listed) {log : Nat} {c : ReceivableClaim}
    (hagain : b.AssignsAgain (.ingest reg emitter P log event c))
    (heffect : BookEffect now reg emitter P rec b event b') : ¬b'.PledgedOnce := by
  cases heffect with
  | recognized _ id issuer payer token amount dueAt hev =>
    obtain ⟨rfl, -⟩ | ⟨t, rfl, -⟩ := hev <;> exact hagain.elim
  | checkpointed _ a seq latestRevision openAmount paidCumulative observedAt until_ hev =>
    obtain ⟨rfl, -⟩ | rfl := hev <;> exact hagain.elim
  | assigned id facilityKey hP hopen hexists hprovider htoken h0 hsame =>
    rw [← hP] at hagain
    exact absurd (h.member 0 id hagain) h0
  | assignedFirst id facilityKey hP hopen hexists hprovider htoken h0 =>
    rw [← hP] at hagain
    have hon : id ∈ b.facilityReceivables 0 := hagain
    intro hbad
    have hnew := hbad.once (b.facilityByKey facilityKey)
    have hone := hbad.single 0 (b.facilityByKey facilityKey) id
    have hlist : ∀ {b₁ : ReceivableBook} {f : FacilityId}, (b₁.listed id f).facilityReceivables f =
        b₁.facilityReceivables f ++ [id] := Function.update_self ..
    rw [hlist] at hnew hone
    by_cases hkey : b.facilityByKey facilityKey = 0
    · rw [hkey] at hnew
      exact (List.nodup_append.mp hnew).2.2 id hon id (List.mem_singleton_self id) rfl
    · refine hkey (hone ?_ (by simp)).symm
      show id ∈ Function.update b.facilityReceivables (b.facilityByKey facilityKey) _ 0
      rw [Function.update_of_ne (Ne.symm hkey)]
      exact hon
  | corrected | paid | paidUnnamed | unpaid | unpaidUnnamed => exact hagain.elim

/-! ### Recognition -/

/-- No log takes a receivable back to unrecognised. -/
theorem effect_known (heffect : BookEffect now reg emitter P rec b event b') (id' : ReceivableId)
    (h : (b.receivables id').state ≠ .none) : (b'.receivables id').state ≠ .none := by
  have hmoved : ∀ {id r n m}, (id' = id → r.state ≠ .none) →
      ((b.moved id r n m).receivables id').state ≠ .none := by
    intro id r n m hr
    by_cases hid : id' = id
    · subst hid
      rw [moved_receivables_self]
      exact hr rfl
    · rwa [moved_receivables_of_ne hid]
  cases heffect with
  | recognized | assigned => exact hmoved fun _ hs => nomatch hs
  | assignedFirst => exact hmoved (n := 0) (m := 0) fun _ hs => nomatch hs
  | corrected =>
    refine hmoved fun hid => ?_
    dsimp only
    split
    · simp
    · rwa [← hid]
  | paid =>
    refine hmoved (n := 0) (m := 0) fun hid => ?_
    dsimp only
    split
    · simp
    · rwa [← hid]
  | unpaid =>
    refine hmoved (n := 0) (m := 0) fun hid => ?_
    dsimp only
    split
    · split <;> simp
    · rwa [← hid]
  | paidUnnamed | unpaidUnnamed | checkpointed => exact h

/-- A recognition is of an unknown receivable, and makes it known. -/
theorem effect_recognizes {log : Nat} {c : ReceivableClaim}
    (heffect : BookEffect now reg emitter P rec b event b') {id' : ReceivableId}
    (h : (BookCall.ingest reg emitter P log event c).recognizes = some id') :
    (b.receivables id').state = .none ∧ (b'.receivables id').state ≠ .none := by
  cases heffect with
  | recognized _ id issuer payer token amount dueAt hev hP hnone hzero hword =>
    have hid : id' = id := by
      rw [← hP] at h
      obtain ⟨rfl, -⟩ | ⟨t, rfl, -⟩ := hev <;> exact (Option.some.inj h).symm
    subst hid
    refine ⟨hnone, ?_⟩
    rw [moved_receivables_self]
    exact fun hs => nomatch hs
  | checkpointed _ a seq latestRevision openAmount paidCumulative observedAt until_ hev =>
    obtain ⟨rfl, -⟩ | rfl := hev <;> cases h
  | assigned | assignedFirst | corrected | paid | paidUnnamed | unpaid | unpaidUnnamed => cases h

/-! ### The facility zero -/

/-- The facility zero is not registered, and its list is empty. -/
def NoZero (b : ReceivableBook) : Prop :=
  (b.facilities 0).exists_ = false ∧ b.facilityReceivables 0 = []

/-- Only a facility that is registered gets a list. -/
theorem NoZero.effect (h : b.NoZero) (heffect : BookEffect now reg emitter P rec b event b') :
    b'.NoZero := by
  cases heffect with
  | assignedFirst id facilityKey hP hopen hexists hprovider htoken h0 =>
    refine ⟨h.1, ?_⟩
    have hne : (0 : FacilityId) ≠ b.facilityByKey facilityKey := by
      intro heq
      rw [← heq, h.1] at hexists
      cases hexists
    show Function.update b.facilityReceivables (b.facilityByKey facilityKey) _ 0 = []
    rw [Function.update_of_ne hne]
    exact h.2
  | recognized | assigned | corrected | paid | unpaid | paidUnnamed | unpaidUnnamed |
    checkpointed => exact h

end ReceivableBook

/-- The call registers the facility zero. -/
def BookCall.RegistersZero (c : BookCall) : Prop :=
  ∃ reg borrowerId providerId sourceAsset,
    c = .registerFacility reg 0 borrowerId providerId sourceAsset

/-! ### Runs -/

section Runs

variable {facilityKey : FacilityId → Bytes32} {d d' : Destination} {tx : BookTx}
  {txs : List BookTx}

theorem DestinationStep.known (hstep : DestinationStep facilityKey d tx d') (id : ReceivableId)
    (h : (d.book.receivables id).state ≠ .none) : (d'.book.receivables id).state ≠ .none := by
  obtain ⟨reg, emitter, P, log, event, c, rec, -, heffect⟩ | ⟨id', disputed, -, -, hbook⟩ |
    ⟨reg, facilityId, borrowerId, providerId, sourceAsset, -, -, hbook⟩ := hstep.effect
  · exact ReceivableBook.effect_known heffect id h
  · rw [hbook]
    show (Function.update d.book.receivables id' _ id).state ≠ .none
    by_cases hid : id = id'
    · subst hid
      rwa [Function.update_self]
    · rwa [Function.update_of_ne hid]
  · rwa [hbook]

theorem DestinationStep.recognizes (hstep : DestinationStep facilityKey d tx d') {id : ReceivableId}
    (h : tx.2.recognizes = some id) :
    (d.book.receivables id).state = .none ∧ (d'.book.receivables id).state ≠ .none := by
  obtain ⟨reg, emitter, P, log, event, c, rec, htx, heffect⟩ | ⟨id', disputed, htx, -, hbook⟩ |
    ⟨reg, facilityId, borrowerId, providerId, sourceAsset, htx, -, hbook⟩ := hstep.effect
  · rw [htx] at h
    exact ReceivableBook.effect_recognizes heffect h
  · rw [htx] at h
    cases h
  · rw [htx] at h
    cases h

/-- A run recognises no receivable twice: what was recognised stays known. -/
theorem recognized_once (hrun : Steps (DestinationStep facilityKey) .initial txs d) :
    (txs.filterMap fun tx => tx.2.recognizes).Nodup := by
  refine (Steps.history (P := fun txs d => (txs.filterMap fun tx => tx.2.recognizes).Nodup ∧
    ∀ id ∈ txs.filterMap fun tx => tx.2.recognizes, (d.book.receivables id).state ≠ .none)
    ⟨List.nodup_nil, fun _ hid => nomatch hid⟩ ?_ hrun).1
  intro txs d tx d' _ ih hstep
  rw [List.filterMap_append]
  cases htx : tx.2.recognizes with
  | none =>
    simp only [List.filterMap_cons, htx, List.filterMap_nil, List.append_nil]
    exact ⟨ih.1, fun id hid => hstep.known id (ih.2 id hid)⟩
  | some id =>
    obtain ⟨hnone, hknown⟩ := hstep.recognizes htx
    simp only [List.filterMap_cons, htx, List.filterMap_nil]
    constructor
    · refine List.Nodup.append ih.1 (List.nodup_singleton id) ?_
      rw [List.disjoint_singleton]
      exact fun hid => ih.2 id hid hnone
    · intro id' hid'
      obtain hold | hnew := List.mem_append.mp hid'
      · exact hstep.known id' (ih.2 id' hold)
      · rw [List.mem_singleton.mp hnew]
        exact hknown

theorem DestinationStep.listed (hstep : DestinationStep facilityKey d tx d') (h : d.book.Listed)
    (hnot : ¬d.book.AssignsAgain tx.2) : d'.book.Listed := by
  obtain ⟨reg, emitter, P, log, event, c, rec, htx, heffect⟩ | ⟨id, disputed, -, -, hbook⟩ |
    ⟨reg, facilityId, borrowerId, providerId, sourceAsset, -, -, hbook⟩ := hstep.effect
  · rw [htx] at hnot
    exact h.effect hnot heffect
  · rw [hbook]
    refine h.congr rfl fun id' => ?_
    show (Function.update d.book.receivables id _ id').facilityId = _
    by_cases hid : id' = id
    · subst hid
      rw [Function.update_self]
    · rw [Function.update_of_ne hid]
  · rw [hbook]
    exact h.congr rfl fun _ => rfl

theorem DestinationStep.assignsAgain (hstep : DestinationStep facilityKey d tx d') (h : d.book.Listed)
    (hagain : d.book.AssignsAgain tx.2) : ¬d'.book.PledgedOnce := by
  obtain ⟨reg, emitter, P, log, event, c, rec, htx, heffect⟩ | ⟨id, disputed, htx, -, -⟩ |
    ⟨reg, facilityId, borrowerId, providerId, sourceAsset, htx, -, -⟩ := hstep.effect
  · rw [htx] at hagain
    exact h.assignsAgain hagain heffect
  · rw [htx] at hagain
    exact hagain.elim
  · rw [htx] at hagain
    exact hagain.elim

theorem DestinationStep.noZero (hstep : DestinationStep facilityKey d tx d') (h : d.book.NoZero)
    (hnot : ¬tx.2.RegistersZero) : d'.book.NoZero := by
  obtain ⟨reg, emitter, P, log, event, c, rec, htx, heffect⟩ | ⟨id, disputed, htx, -, hbook⟩ |
    ⟨reg, facilityId, borrowerId, providerId, sourceAsset, htx, -, hbook⟩ := hstep.effect
  · exact h.effect heffect
  · rw [hbook]
    exact h
  · rw [hbook]
    refine ⟨?_, h.2⟩
    show (Function.update d.book.facilities facilityId _ 0).exists_ = false
    have hne : (0 : FacilityId) ≠ facilityId := by
      rintro rfl
      exact hnot ⟨reg, borrowerId, providerId, sourceAsset, htx⟩
    rw [Function.update_of_ne hne]
    exact h.1

/-- Without a registration of the facility zero, no log assigns again. -/
theorem StepOf.not_assignsAgain (hnot : ∀ tx ∈ txs, ¬tx.2.RegistersZero)
    (h : StepOf (DestinationStep facilityKey) .initial txs d tx d') : ¬d.book.AssignsAgain tx.2 := by
  obtain ⟨pre, post, rfl, hpre, hstep⟩ := h
  have hzero : d.book.NoZero := by
    refine Steps.history (P := fun pre d => (∀ tx ∈ pre, ¬tx.2.RegistersZero) → d.book.NoZero)
      (fun _ => ⟨rfl, rfl⟩) ?_ hpre fun tx htx => hnot tx (List.mem_append_left _ htx)
    intro pre d tx d' _ ih hstep hall
    exact hstep.noZero (ih fun tx htx => hall tx (List.mem_append_left _ htx))
      (hall tx (by simp))
  intro hagain
  obtain ⟨m, call⟩ := tx
  cases call with
  | ingest reg emitter P log event c =>
    cases event with
    | obligationAssigned a ref key revision =>
      have hmem : _ ∈ d.book.facilityReceivables 0 := hagain
      rw [hzero.2] at hmem
      cases hmem
    | _ => exact hagain
  | _ => exact hagain

end Runs

/-- Over any logs that the book ingests: a receivable is recognised once; and the receivables are
listed once, paid at most in full and counted at most once by all facilities together, in every state
of a run, if and only if no assignment is ingested for a receivable on the list of the facility zero.
None is when the facility zero is never registered. -/
theorem pledged_at_most_once (facilityKey : FacilityId → Bytes32) (txs : List BookTx) :
    (∀ d, Steps (DestinationStep facilityKey) .initial txs d →
      (txs.filterMap fun tx => tx.2.recognizes).Nodup) ∧
    ((∀ pre post d, txs = pre ++ post → Steps (DestinationStep facilityKey) .initial pre d →
        d.book.PledgedOnce) ↔
      ∀ d tx d', StepOf (DestinationStep facilityKey) .initial txs d tx d' →
        ¬d.book.AssignsAgain tx.2) ∧
    ((∀ tx ∈ txs, ¬tx.2.RegistersZero) →
      ∀ d tx d', StepOf (DestinationStep facilityKey) .initial txs d tx d' →
        ¬d.book.AssignsAgain tx.2) := by
  refine ⟨fun d hrun => recognized_once hrun, ?_, fun hnot d tx d' h => StepOf.not_assignsAgain hnot h⟩
  refine Steps.holds_iff (K := fun d => d.book.Sound ∧ d.book.Listed)
    ⟨ReceivableBook.initial_sound, ?_⟩ (fun d h => h.2.pledgedOnce h.1) ?_ ?_
  · exact ⟨fun _ => List.nodup_nil, fun _ _ hid => nomatch hid⟩
  · intro d tx d' h hstep hp hagain
    exact hstep.assignsAgain h.2 hagain hp
  · intro d tx d' h hnot hstep
    exact ⟨hstep.sound h.1, hstep.listed h.2 hnot⟩

namespace Sample

/-- Providers that admit the provider 1 with the escrow of the sample and the token 5. -/
def providers : Providers where
  provider := fun _ => some { executionProfile := .localMock, sourceChainId := 1, manifestHash := 0 }
  isAdmitted := fun _ _ => true
  isIssuer := fun _ issuer => issuer = 1
  isTokenAdmitted := fun _ _ token => token = 5
  emitterMeaning := fun _ topic => some topic.kind.expectedMeaning
  borrowerOfWallet := fun _ => 0
  borrowerOfAccount := fun _ => 3
  evidencePaused := false
  isConsumer := true
  verificationMethod := fun _ => some .attestcoinNative
  selfAsserted := fun _ => false
  maxValidity := 10000

/-- The sender 1, who has every role. -/
def bookMsg (now : Nat) : Msg :=
  { sender := 1, now := now, hasRole := fun _ _ => true, hasCode := fun _ => true }

/-- The ingestion of a log of the sample escrow at a place. -/
def ingestTx (now log : Nat) (event : SourceEvent) : BookTx :=
  (bookMsg now, .ingest providers 100 1 log event ⟨event, 0, 5000⟩)

/-- A facility is registered under the id zero, and a receivable of 100 is assigned to it twice. -/
def assignedTwice : List BookTx :=
  [(bookMsg 1, .registerFacility providers 0 3 1 ⟨1, 5, 6⟩),
    ingestTx 2 0 (.obligationRecognizedV2 1 1 1 9 100 5 100 0 1),
    ingestTx 3 1 (.obligationAssigned 1 1 0 2), ingestTx 4 2 (.obligationAssigned 1 1 0 3),
    ingestTx 5 3 (.sourceCheckpointV2 1 1 3 100 0 4 500)]

end Sample

/-- A receivable of 100 that was assigned twice to the facility zero is on its list twice, and counts
for 200. -/
theorem zero_facility_counts_twice :
    ∃ d, Reachable (· = Destination.initial) (DestinationStep fun id => id) d ∧
      d.book.facilityReceivables 0 = [⟨1, 1, 1⟩, ⟨1, 1, 1⟩] ∧
      (d.book.receivables ⟨1, 1, 1⟩).net = 100 ∧
      d.book.eligibleUnpaid Sample.providers 0 100 0 0 10 = .ok ⟨200, 500, 6⟩ ∧
      ¬d.book.PledgedOnce := by
  obtain ⟨d, hrun, hview⟩ := Destination.initial.run_view (fun id => id) Sample.assignedTwice
    (fun d => (d.book.facilityReceivables 0, (d.book.receivables ⟨1, 1, 1⟩).net,
      (d.book.eligibleUnpaid Sample.providers 0 100 0 0 10).toOption))
    (v := ([⟨1, 1, 1⟩, ⟨1, 1, 1⟩], 100, some ⟨200, 500, 6⟩)) (by decide +kernel)
  simp only [Prod.mk.injEq] at hview
  obtain ⟨hlist, hnet, helig⟩ := hview
  refine ⟨d, ⟨_, _, rfl, Destination.run_steps hrun⟩, hlist, hnet, toOption_eq_some.mp helig, ?_⟩
  intro h
  have hbad := h.once 0
  rw [hlist] at hbad
  exact absurd hbad (by decide)

end Rackline
