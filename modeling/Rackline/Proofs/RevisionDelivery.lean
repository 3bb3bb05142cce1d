import Mathlib.Tactic.Linarith
import Rackline.Lib.Delivery
import Rackline.ReceivableService

/-!
# `Rackline.Proofs.RevisionDelivery`: revisions that arrive early and again

What one call of `apply_revision` leaves, and what the receivable is after any deliveries of a set
of revisions. A revision that is applied is a duplicate ever after, and so is one that was put down
before its turn: its row is found when it arrives as the next one.
-/

set_option autoImplicit false

namespace Rackline.Receivables

open Evm Delivery

namespace Db

variable {db db' : Db} {r q : Revision} {rs : List Revision} {row row' : Receivable}
  {result : ReceivableResult}

/-! ### The writes -/

/-- The tables that no call writes. -/
def reference (db : Db) : List Provider × List ProviderAccount × List RawSourceObservation :=
  (db.providers, db.accounts, db.observations)

theorem source_congr (h : db'.reference = db.reference) : db'.source = db.source := by
  obtain ⟨hproviders, haccounts, hobservations⟩ : db'.providers = db.providers ∧
      db'.accounts = db.accounts ∧ db'.observations = db.observations := by
    simpa [reference] using h
  funext accountId observationId profile
  unfold source
  rw [hproviders, haccounts, hobservations]

theorem find_map_receivable {id : String} {f : Receivable → Receivable} {l : List Receivable}
    (hf : ∀ q, (f q).receivableId = q.receivableId) :
    (l.map f).find? (fun q => q.receivableId == id) =
      (l.find? fun q => q.receivableId == id).map f := by
  rw [List.find?_map]
  congr 2
  funext q
  show ((f q).receivableId == id) = _
  rw [hf]

theorem receivable_id {id : String} (h : db.receivable id = some row) : row.receivableId = id := by
  have := List.find?_some h
  simpa using this

/-- A row that is updated is read back. -/
theorem updateReceivable_ok (h : db.updateReceivable row' = .ok db')
    (hget : db.receivable row'.receivableId = some row) :
    db'.receivable row'.receivableId = some row' ∧ db'.revisions = db.revisions ∧
      db'.reference = db.reference := by
  obtain ⟨_, -, hok⟩ := bind_eq_ok.mp h
  cases hok
  refine ⟨?_, rfl, rfl⟩
  show (db.receivables.map _).find? _ = _
  rw [find_map_receivable fun q => by split <;> simp_all]
  rw [show db.receivables.find? _ = some row from hget]
  simp [receivable_id hget]

/-- A revision is put at the end of the table. -/
theorem insertRevision_ok {e : ReceivableRevision} (h : db.insertRevision e = .ok db') :
    (1 ≤ e.revision ∧ isInteger e.revision ∧ 0 ≤ e.netAfter ∧ 0 ≤ e.unpaidAfter) ∧
      db'.revisions = db.revisions ++ [e] ∧ db'.reference = db.reference := by
  obtain ⟨_, hvalues, hok⟩ := bind_eq_ok.mp h
  obtain ⟨_, -, hok⟩ := bind_eq_ok.mp hok
  obtain ⟨_, -, hok⟩ := bind_eq_ok.mp hok
  cases hok
  have := revertIf_eq_ok.mp hvalues
  push Not at this
  exact ⟨⟨this.1, this.2.1, this.2.2.1, this.2.2.2.1⟩, rfl, rfl⟩

/-- The trigger moves no revision number that is not below the new one. -/
theorem insertRevision_receivable {e : ReceivableRevision} {id : String}
    (h : db.insertRevision e = .ok db') (hget : db.receivable id = some row)
    (hstays : e.outOfOrder = true ∨ e.revision ≤ row.revision) : db'.receivable id = some row := by
  obtain ⟨_, -, hok⟩ := bind_eq_ok.mp h
  obtain ⟨_, -, hok⟩ := bind_eq_ok.mp hok
  obtain ⟨_, -, hok⟩ := bind_eq_ok.mp hok
  cases hok
  show (db.receivables.map _).find? _ = _
  rw [find_map_receivable fun q => by split <;> rfl]
  rw [show db.receivables.find? _ = some row from hget]
  refine congrArg some (if_neg ?_)
  rintro ⟨hcurrent, -, hlow⟩
  rcases hstays with hearly | hle
  · rw [hcurrent] at hearly
    cases hearly
  · omega

/-- A row that is put down before its turn goes in where the table takes it. -/
theorem insertRevision_early {e : ReceivableRevision} (hearly : e.outOfOrder = true)
    (hobservation : e.observationId ≠ none)
    (hvalues : 1 ≤ e.revision ∧ isInteger e.revision ∧ 0 ≤ e.netAfter ∧ 0 ≤ e.unpaidAfter)
    (hnew : ∀ q ∈ db.revisions, ¬(q.receivableId = e.receivableId ∧ q.revision = e.revision ∧
      q.kind = e.kind)) :
    ∃ db', db.insertRevision e = .ok db' := by
  unfold insertRevision
  rw [revertIf_of_not, ok_bind, revertIf_of_not, ok_bind, revertIf_of_not, ok_bind]
  · exact ⟨_, rfl⟩
  · rintro ⟨hcurrent, -⟩
    rw [hearly] at hcurrent
    cases hcurrent
  · rintro ⟨q, hq, hsame⟩
    exact hnew q hq hsame
  · rintro (hlow | hwide | hnet | hunpaid | hnone)
    · omega
    · exact hwide hvalues.2.1
    · omega
    · omega
    · exact hobservation hnone

/-! ### What one call does -/

/-- The ends of a call that finds the receivable and its source: nothing is recorded, the revision
is put down before its turn, or it is the next one and it is applied. -/
inductive Outcome (db : Db) (r : Revision) (row : Receivable) :
    ReceivableResult → Db → Prop
  | quiet {result : ReceivableResult} {db' : Db} (hresult : result.applied = false)
      (hrow : db'.receivable r.receivableId = some row) (hrevisions : db'.revisions = db.revisions)
      (hreference : db'.reference = db.reference) : Outcome db r row result db'
  | early {result : ReceivableResult} {db' : Db} (hresult : result.applied = false)
      (hnew : db.previous r = none) (hgap : r.revision ≠ row.revision + 1)
      (hrow : db'.receivable r.receivableId = some row)
      (hrevisions : db'.revisions = db.revisions ++ [r.entry row.net row.unpaidAmount true])
      (hreference : db'.reference = db.reference) : Outcome db r row result db'
  | next {db' : Db} (hnew : db.previous r = none)
      (hunused : ∀ e ∈ db.revisions, e.receivableId = r.receivableId →
        e.observationId ≠ some r.observationId)
      (hnext : r.revision = row.revision + 1) (hwide : 1 ≤ r.revision ∧ isInteger r.revision)
      (hrow : db'.receivable r.receivableId = some (r.applied row))
      (hchecks : (r.applied row).checks)
      (hrevisions : ∃ netAfter unpaidAfter,
        db'.revisions = db.revisions ++ [r.entry netAfter unpaidAfter false])
      (hreference : db'.reference = db.reference) :
      Outcome db r row ⟨some r.receivableId, false, true, none⟩ db'

theorem outcome_refuse {code : String} (hget : db.receivable r.receivableId = some row)
    (h : db.refuse r code = (result, db')) : Outcome db r row result db' := by
  cases h
  exact .quiet rfl hget rfl rfl

theorem setAside_ok (h : db.setAside r row = .ok (result, db'))
    (hget : db.receivable r.receivableId = some row) (hnew : db.previous r = none)
    (hgap : r.revision ≠ row.revision + 1) : Outcome db r row result db' := by
  obtain ⟨mid, hinsert, hok⟩ := bind_eq_ok.mp h
  cases hok
  obtain ⟨-, hrevisions, hreference⟩ := insertRevision_ok hinsert
  have hrow : mid.receivable r.receivableId = some row :=
    insertRevision_receivable hinsert hget (.inl rfl)
  exact .early rfl hnew hgap hrow hrevisions hreference

theorem applyNext_ok (h : db.applyNext r row = .ok (result, db'))
    (hget : db.receivable r.receivableId = some row) (hnew : db.previous r = none)
    (hunused : ∀ e ∈ db.revisions, e.receivableId = r.receivableId →
      e.observationId ≠ some r.observationId)
    (hnext : r.revision = row.revision + 1) : Outcome db r row result db' := by
  obtain ⟨_, -, hok⟩ := bind_eq_ok.mp h
  simp only at hok
  split at hok
  · exact outcome_refuse hget (by simpa [pure_eq_ok] using hok)
  · obtain ⟨mid, hupdate, hok⟩ := bind_eq_ok.mp hok
    obtain ⟨last, hinsert, hok⟩ := bind_eq_ok.mp hok
    cases hok
    have hid : (r.applied row).receivableId = r.receivableId :=
      show row.receivableId = r.receivableId from receivable_id hget
    obtain ⟨hrow, hrevisions, hreference⟩ := updateReceivable_ok hupdate (hid ▸ hget)
    obtain ⟨hvalues, hentered, hkept⟩ := insertRevision_ok hinsert
    obtain ⟨_, hchecks, -⟩ := bind_eq_ok.mp hupdate
    have hlast : last.receivable r.receivableId = some (r.applied row) :=
      insertRevision_receivable hinsert (hid ▸ hrow) (.inr (le_refl r.revision))
    exact .next hnew hunused hnext ⟨hvalues.1, hvalues.2.1⟩ hlast
      (Classical.not_not.mp (revertIf_eq_ok.mp hchecks)) ⟨_, _, hentered.trans (by rw [hrevisions])⟩
      (hkept.trans hreference)

/-- A call that does not raise. -/
theorem applyRevision_ok (h : db.applyRevision r = .ok (result, db')) :
    r.valid = .ok () ∧ ∃ row, db.receivable r.receivableId = some row ∧
      (∃ found, db.source row.providerAccountId r.observationId row.executionProfile = .ok found) ∧
      Outcome db r row result db' := by
  obtain ⟨_, hvalid, hok⟩ := bind_eq_ok.mp h
  refine ⟨hvalid, ?_⟩
  cases hget : db.receivable r.receivableId with
  | none =>
    rw [hget] at hok
    cases hok
  | some row =>
    rw [hget] at hok
    obtain ⟨found, hsource, hok⟩ := bind_eq_ok.mp hok
    refine ⟨row, rfl, ⟨found, hsource⟩, ?_⟩
    cases hprevious : db.previous r with
    | some previous =>
      simp only [hprevious] at hok
      split at hok
      · cases hok
        exact .quiet rfl hget rfl rfl
      · exact outcome_refuse hget (by simpa [pure_eq_ok] using hok)
    | none =>
      simp only [hprevious] at hok
      split at hok
      · exact outcome_refuse hget (by simpa [pure_eq_ok] using hok)
      · rename_i hreused
        split at hok
        · exact setAside_ok hok hget hprevious ‹_›
        · refine applyNext_ok hok hget hprevious ?_ (Classical.not_not.mp ‹_›)
          intro e he hid hobservation
          exact hreused ⟨e, he, hid, hobservation⟩

theorem deliver_of_ok (h : db.applyRevision r = .ok (result, db')) : db.deliver r = db' := by
  unfold deliver
  rw [h]

/-- The rows and the tables that a delivery leaves. -/
theorem deliver_kept {id : String} (hid : r.receivableId = id)
    (hget : db.receivable id = some row) :
    (db.deliver r).reference = db.reference ∧ (∃ more, (db.deliver r).revisions = db.revisions ++ more) ∧
      ∃ row', (db.deliver r).receivable id = some row' ∧
        row'.providerAccountId = row.providerAccountId ∧
        row'.executionProfile = row.executionProfile := by
  subst hid
  cases hcall : db.applyRevision r with
  | error e =>
    have hsame : db.deliver r = db := by
      unfold deliver
      rw [hcall]
    rw [hsame]
    exact ⟨rfl, ⟨[], (List.append_nil _).symm⟩, row, hget, rfl, rfl⟩
  | ok done =>
    obtain ⟨result, db'⟩ := done
    rw [deliver_of_ok hcall]
    obtain ⟨-, cur, hcur, -, houtcome⟩ := applyRevision_ok hcall
    rw [hget] at hcur
    cases hcur
    cases houtcome with
    | quiet _ hrow hrevisions hreference =>
      exact ⟨hreference, ⟨[], by rw [hrevisions, List.append_nil]⟩, row, hrow, rfl, rfl⟩
    | early _ _ _ hrow hrevisions hreference =>
      exact ⟨hreference, ⟨_, hrevisions⟩, row, hrow, rfl, rfl⟩
    | next _ _ _ _ hrow _ hrevisions hreference =>
      obtain ⟨netAfter, unpaidAfter, hrevisions⟩ := hrevisions
      exact ⟨hreference, ⟨_, hrevisions⟩, _, hrow, rfl, rfl⟩

/-! ### Revisions that are all applied -/

/-- The revisions are applied, one after another. -/
def AppliesAll (db : Db) : List Revision → Prop
  | [] => True
  | r :: rs => ∃ result db', db.applyRevision r = .ok (result, db') ∧ result.applied = true ∧
      db'.AppliesAll rs

/-- A call that applies the revision finds it new, unused and next. -/
theorem applied_next (h : db.applyRevision r = .ok (result, db')) (happlied : result.applied = true) :
    ∃ row, db.receivable r.receivableId = some row ∧ db.previous r = none ∧
      (∀ e ∈ db.revisions, e.receivableId = r.receivableId →
        e.observationId ≠ some r.observationId) ∧
      r.revision = row.revision + 1 ∧ (1 ≤ r.revision ∧ isInteger r.revision) ∧
      db'.receivable r.receivableId = some (r.applied row) ∧ (r.applied row).checks ∧
      ∃ netAfter unpaidAfter, db'.revisions = db.revisions ++ [r.entry netAfter unpaidAfter false] := by
  obtain ⟨-, row, hget, -, houtcome⟩ := applyRevision_ok h
  cases houtcome with
  | quiet hresult => rw [happlied] at hresult; cases hresult
  | early hresult => rw [happlied] at hresult; cases hresult
  | next hnew hunused hnext hwide hrow hchecks hrevisions =>
    exact ⟨row, hget, hnew, hunused, hnext, hwide, hrow, hchecks, hrevisions⟩

theorem appliesAll_append {rs' : List Revision} :
    db.AppliesAll (rs ++ rs') ↔ db.AppliesAll rs ∧ (db.deliverAll rs).AppliesAll rs' := by
  induction rs generalizing db with
  | nil => exact ⟨fun h => ⟨trivial, h⟩, fun h => h.2⟩
  | cons r rs ih =>
    constructor
    · rintro ⟨result, db', hcall, happlied, hrest⟩
      obtain ⟨hfirst, hlast⟩ := ih.mp hrest
      refine ⟨⟨result, db', hcall, happlied, hfirst⟩, ?_⟩
      show (rs.foldl deliver (db.deliver r)).AppliesAll rs'
      rw [deliver_of_ok hcall]
      exact hlast
    · rintro ⟨⟨result, db', hcall, happlied, hfirst⟩, hlast⟩
      refine ⟨result, db', hcall, happlied, ih.mpr ⟨hfirst, ?_⟩⟩
      rw [← deliver_of_ok hcall]
      exact hlast

/-- Revisions that are all applied come with rising numbers, and they take the receivable to the
last of them. -/
theorem AppliesAll.rising {id : String} (h : db.AppliesAll rs) (hone : ∀ r ∈ rs, r.receivableId = id)
    (hget : db.receivable id = some row) (hchecks : row.checks) :
    (∀ r ∈ rs, row.revision < r.revision) ∧ rs.Pairwise (fun r q => r.revision < q.revision) ∧
      ∃ row', (db.deliverAll rs).receivable id = some row' ∧ row'.checks ∧
        row.revision ≤ row'.revision ∧ ∀ r ∈ rs, r.revision ≤ row'.revision := by
  induction rs generalizing db row with
  | nil => exact ⟨nofun, List.Pairwise.nil, row, hget, hchecks, le_refl _, nofun⟩
  | cons r rs ih =>
    obtain ⟨result, db', hcall, happlied, hrest⟩ := h
    obtain rfl := hone r (List.mem_cons_self ..)
    obtain ⟨cur, hcur, -, -, hnext, -, hrow, hafter, -⟩ := applied_next hcall happlied
    rw [hget] at hcur
    cases hcur
    obtain ⟨habove, hsorted, row', hlast, hchecks', hle, hreach⟩ :=
      ih hrest (fun q hq => hone q (List.mem_cons_of_mem r hq)) hrow hafter
    have hnumber : (r.applied row).revision = r.revision := rfl
    rw [hnumber] at habove hle
    refine ⟨?_, List.pairwise_cons.mpr ⟨habove, hsorted⟩, row', ?_, hchecks', by omega, ?_⟩
    · intro q hq
      rcases List.mem_cons.mp hq with rfl | hq
      · omega
      · have := habove q hq
        omega
    · show (rs.foldl deliver (db.deliver r)).receivable _ = _
      rw [deliver_of_ok hcall]
      exact hlast
    · intro q hq
      rcases List.mem_cons.mp hq with rfl | hq
      · exact hle
      · exact hreach q hq

/-- A revision that is applied later is in order already: only its number can be ahead. -/
theorem AppliesAll.later {id : String} (h : db.AppliesAll rs) (hone : ∀ r ∈ rs, r.receivableId = id)
    (hget : db.receivable id = some row) (hr : r ∈ rs) :
    r.valid = .ok () ∧
      (∃ found, db.source row.providerAccountId r.observationId row.executionProfile = .ok found) ∧
      db.previous r = none ∧
      (∀ e ∈ db.revisions, e.receivableId = r.receivableId →
        e.observationId ≠ some r.observationId) ∧
      1 ≤ r.revision ∧ isInteger r.revision := by
  induction rs generalizing db row with
  | nil => cases hr
  | cons first rs ih =>
    obtain ⟨result, db', hcall, happlied, hrest⟩ := h
    have hfirst := hone first (List.mem_cons_self ..)
    rcases List.mem_cons.mp hr with rfl | hr
    · subst hfirst
      obtain ⟨hvalid, cur, hcur, hsource, -⟩ := applyRevision_ok hcall
      obtain ⟨-, -, hnew, hunused, -, hwide, -⟩ := applied_next hcall happlied
      rw [hget] at hcur
      cases hcur
      exact ⟨hvalid, hsource, hnew, hunused, hwide⟩
    · obtain ⟨hreference, ⟨more, hrevisions⟩, row', hget', haccount, hprofile⟩ :=
        deliver_kept hfirst hget
      rw [deliver_of_ok hcall] at hreference hrevisions hget'
      obtain ⟨hvalid, hsource, hnew, hunused, hwide⟩ :=
        ih hrest (fun q hq => hone q (List.mem_cons_of_mem first hq)) hget' hr
      rw [source_congr hreference, haccount, hprofile] at hsource
      refine ⟨hvalid, hsource, ?_, ?_, hwide⟩
      · unfold previous at hnew ⊢
        rw [hrevisions, List.find?_append, Option.or_eq_none_iff] at hnew
        exact hnew.1
      · intro e he
        exact hunused e (by rw [hrevisions]; exact List.mem_append_left _ he)

/-! ### A revision that is in the table -/

/-- The revision is in the table with its amount, and its arguments and its source are in order. -/
structure Known (db : Db) (r : Revision) : Prop where
  valid : r.valid = .ok ()
  found : ∃ row, db.receivable r.receivableId = some row ∧
    ∃ found, db.source row.providerAccountId r.observationId row.executionProfile = .ok found
  recorded : ∃ e, db.previous r = some e ∧ e.delta = r.delta

/-- Its delivery is a duplicate and writes nothing. -/
theorem Known.deliver (h : db.Known r) : db.deliver r = db := by
  obtain ⟨hvalid, ⟨row, hget, found, hsource⟩, e, hprevious, hdelta⟩ := h
  have hcall : db.applyRevision r = .ok (r.refused "DUPLICATE_REVISION", db) := by
    unfold applyRevision
    rw [hvalid, ok_bind, hget]
    simp only [hsource, ok_bind, hprevious, hdelta, if_true]
    rfl
  exact deliver_of_ok hcall

theorem previous_append {e : ReceivableRevision} {more : List ReceivableRevision}
    (h : db'.revisions = db.revisions ++ more) (hprevious : db.previous r = some e) :
    db'.previous r = some e := by
  unfold previous at hprevious ⊢
  rw [h, List.find?_append, hprevious]
  rfl

/-- It stays in the table. -/
theorem Known.after (h : db.Known q) (hid : r.receivableId = q.receivableId) :
    (db.deliver r).Known q := by
  obtain ⟨hvalid, ⟨row, hget, found, hsource⟩, e, hprevious, hdelta⟩ := h
  obtain ⟨hreference, ⟨more, hrevisions⟩, row', hget', haccount, hprofile⟩ := deliver_kept hid hget
  refine ⟨hvalid, ⟨row', hget', found, ?_⟩, e, previous_append hrevisions hprevious, hdelta⟩
  rw [source_congr hreference, haccount, hprofile]
  exact hsource

theorem Known.afterAll (h : db.Known q) (hone : ∀ r ∈ rs, r.receivableId = q.receivableId) :
    (db.deliverAll rs).Known q := by
  induction rs generalizing db with
  | nil => exact h
  | cons r rs ih =>
    exact ih (h.after (hone r (List.mem_cons_self ..))) fun x hx =>
      hone x (List.mem_cons_of_mem r hx)

/-- A revision that is applied is in the table. -/
theorem known_of_applied (h : db.applyRevision r = .ok (result, db'))
    (happlied : result.applied = true) : db'.Known r := by
  obtain ⟨row, hget, hnew, -, -, -, hrow, -, netAfter, unpaidAfter, hrevisions⟩ :=
    applied_next h happlied
  obtain ⟨hvalid, cur, hcur, ⟨found, hsource⟩, -⟩ := applyRevision_ok h
  obtain ⟨hreference, -⟩ := deliver_kept rfl hget
  rw [deliver_of_ok h] at hreference
  rw [hget] at hcur
  cases hcur
  refine ⟨hvalid, ⟨_, hrow, found, ?_⟩, r.entry netAfter unpaidAfter false, ?_, rfl⟩
  · rw [source_congr hreference]
    exact hsource
  · unfold previous at hnew ⊢
    rw [hrevisions, List.find?_append, hnew]
    simp [Revision.sameKey, Revision.entry]

/-- Each of the revisions that are applied is a duplicate afterwards. -/
theorem AppliesAll.passesOver {id : String} (h : db.AppliesAll rs)
    (hone : ∀ r ∈ rs, r.receivableId = id) : PassesOver deliver db rs := by
  rintro taken left rfl r hr
  refine Known.deliver (show (db.deliverAll taken).Known r from ?_)
  obtain ⟨before, after, rfl⟩ := List.append_of_mem hr
  obtain ⟨htaken, -⟩ := appliesAll_append.mp h
  obtain ⟨-, result, db', hcall, happlied, -⟩ := appliesAll_append.mp htaken
  have hknown := known_of_applied hcall happlied
  show ((before ++ r :: after).foldl deliver db).Known r
  rw [List.foldl_append, List.foldl_cons]
  show (((db.deliverAll before).deliver r).deliverAll after).Known r
  rw [deliver_of_ok hcall]
  refine hknown.afterAll fun x hx => ?_
  rw [hone x (by simp [hx]), hone r (by simp)]

/-! ### A revision that was put down before its turn -/

/-- The revision is in the table, and the receivable has not come to it. -/
structure Blocked (db : Db) (r : Revision) : Prop where
  below : ∃ row, db.receivable r.receivableId = some row ∧ row.revision < r.revision
  recorded : (db.previous r).isSome = true

/-- No delivery takes the receivable to it, and its own delivery is a duplicate. -/
theorem Blocked.deliver (h : db.Blocked r) (hid : q.receivableId = r.receivableId)
    (hsame : q.revision = r.revision → q = r) : (db.deliver q).Blocked r := by
  obtain ⟨⟨row, hget, hbelow⟩, hrecorded⟩ := h
  obtain ⟨e, hprevious⟩ := Option.isSome_iff_exists.mp hrecorded
  obtain ⟨-, ⟨more, hrevisions⟩, row', hget', -⟩ := deliver_kept hid hget
  have hstays := previous_append hrevisions hprevious
  refine ⟨⟨row', hget', ?_⟩, by rw [hstays]; rfl⟩
  cases hcall : db.applyRevision q with
  | error err =>
    have hunmoved : db.deliver q = db := by
      unfold Db.deliver
      rw [hcall]
    rw [hunmoved, hget] at hget'
    cases hget'
    exact hbelow
  | ok done =>
    obtain ⟨result, db'⟩ := done
    rw [deliver_of_ok hcall] at hget'
    obtain ⟨-, cur, hcur, -, houtcome⟩ := applyRevision_ok hcall
    rw [hid, hget] at hcur
    cases hcur
    cases houtcome with
    | quiet _ hrow => rw [hid, hget'] at hrow; cases hrow; exact hbelow
    | early _ _ _ hrow => rw [hid, hget'] at hrow; cases hrow; exact hbelow
    | next hnew _ hnext _ hrow =>
      rw [hid, hget'] at hrow
      cases hrow
      show q.revision < r.revision
      have hne : q.revision ≠ r.revision := by
        intro heq
        rw [hsame heq, hprevious] at hnew
        cases hnew
      omega

theorem Blocked.deliverAll (h : db.Blocked r) (hid : ∀ q ∈ rs, q.receivableId = r.receivableId)
    (hsame : ∀ q ∈ rs, q.revision = r.revision → q = r) : (db.deliverAll rs).Blocked r := by
  induction rs generalizing db with
  | nil => exact h
  | cons q rs ih =>
    exact ih (h.deliver (hid q (List.mem_cons_self ..)) (hsame q (List.mem_cons_self ..)))
      (fun x hx => hid x (List.mem_cons_of_mem q hx)) fun x hx =>
        hsame x (List.mem_cons_of_mem q hx)

/-- A revision that arrives before its turn is put down, and it is blocked from then on. -/
theorem AppliesAll.blocked (h : db.AppliesAll rs) (hone : ∀ q ∈ rs, q.receivableId = r.receivableId)
    (hget : db.receivable r.receivableId = some row) (hchecks : row.checks) (hr : r ∈ rs)
    (hgap : row.revision + 1 < r.revision) : (db.deliver r).Blocked r := by
  obtain ⟨hvalid, ⟨found, hsource⟩, hnew, hunused, hwide⟩ := h.later hone hget hr
  obtain ⟨mid, hinsert⟩ : ∃ mid,
      db.insertRevision (r.entry row.net row.unpaidAmount true) = .ok mid := by
    refine insertRevision_early rfl (by simp [Revision.entry])
      ⟨hwide.1, hwide.2, hchecks.2.1.2.1, hchecks.2.1.2.2.2⟩ ?_
    rintro e he ⟨hid, hrevision, hkind⟩
    have := List.find?_eq_none.mp hnew e he
    simp [Revision.sameKey, hid, hrevision, hkind, Revision.entry] at this
  have hcall : db.applyRevision r = .ok (mid.refuse r "REVISION_OUT_OF_ORDER") := by
    unfold applyRevision
    rw [hvalid, ok_bind, hget]
    simp only [hsource, ok_bind, hnew]
    rw [if_neg (by rintro ⟨e, he, hid, hobservation⟩; exact hunused e he hid hobservation),
      if_pos (by omega)]
    unfold setAside
    rw [hinsert]
    rfl
  obtain ⟨-, cur, hcur, -, houtcome⟩ := applyRevision_ok hcall
  rw [hget] at hcur
  cases hcur
  rw [deliver_of_ok hcall]
  cases houtcome with
  | quiet _ _ hrevisions =>
    obtain ⟨-, hentered, -⟩ := insertRevision_ok hinsert
    have hgrown : db.revisions = db.revisions ++ [r.entry row.net row.unpaidAmount true] :=
      hrevisions.symm.trans hentered
    simp at hgrown
  | early _ _ _ hrow hrevisions =>
    refine ⟨⟨row, hrow, by omega⟩, ?_⟩
    unfold previous at hnew ⊢
    rw [hrevisions, List.find?_append, hnew]
    simp [Revision.sameKey, Revision.entry]

end Db

/-- What a receivable comes to: its amounts, its revision and its state. -/
def Receivable.figures (row : Receivable) : Int × Int × Int × Int × ReceivableState :=
  (row.net, row.paidAmount, row.unpaidAmount, row.revision, row.state)

namespace Db

/-- The first revision that arrives too early stops the receivable below it for good. -/
theorem AppliesAll.stuck {db : Db} {id : String} {row : Receivable} {revisions arrivals : List Revision}
    (hset : db.AppliesAll revisions) (hone : ∀ r ∈ revisions, r.receivableId = id)
    (hget : db.receivable id = some row) (hchecks : row.checks)
    (harrive : ∀ r ∈ arrivals, r ∈ revisions) (hearly : ¬InTurn revisions arrivals) :
    ∃ r ∈ revisions, (db.deliverAll (arrivals ++ revisions)).Blocked r := by
  obtain ⟨-, hsorted, -⟩ := hset.rising hone hget hchecks
  have hnumbers : (revisions.map Revision.revision).Nodup := by
    rw [List.Nodup, List.pairwise_map]
    exact hsorted.imp fun h => ne_of_lt h
  obtain ⟨early, r, late, before, after, q, harrivals, hturn, hcut, hq, hmissing⟩ :=
    exists_first_early hearly
  have hmem : ∀ x ∈ early, x ∈ revisions := fun x hx => harrive x (by simp [harrivals, hx])
  obtain ⟨taken, left, hsplit, hstate, hsame⟩ :=
    hturn.taken hnumbers.of_map hmem (hset.passesOver hone)
  have hr : r ∈ revisions := by simp [hcut]
  -- `q` comes before `r` and has not arrived, so both are left.
  have hbelow : q.revision < r.revision := by
    rw [hcut] at hsorted
    exact (List.pairwise_append.mp hsorted).2.2 q hq r (List.mem_cons_self ..)
  have hqLeft : q ∈ left := by
    have : q ∈ revisions := by simp [hcut, hq]
    rw [hsplit, List.mem_append] at this
    exact this.resolve_left fun h => hmissing ((hsame q).mp h)
  have hrLeft : r ∈ left := by
    rw [hsplit, List.mem_append] at hr
    refine hr.resolve_left fun h => ?_
    rw [hsplit] at hsorted
    have := (List.pairwise_append.mp hsorted).2.2 r h q hqLeft
    omega
  rw [hsplit] at hset hone
  obtain ⟨htaken, hleft⟩ := appliesAll_append.mp hset
  obtain ⟨-, -, cur, hcur, hcurChecks, -⟩ :=
    htaken.rising (fun x hx => hone x (List.mem_append_left _ hx)) hget hchecks
  have honeLeft : ∀ x ∈ left, x.receivableId = id := fun x hx =>
    hone x (List.mem_append_right _ hx)
  obtain rfl := honeLeft r hrLeft
  obtain ⟨habove, -⟩ := hleft.rising honeLeft hcur hcurChecks
  have hblocked := hleft.blocked honeLeft hcur hcurChecks hrLeft (by
    have := habove q hqLeft
    omega)
  refine ⟨r, hr, ?_⟩
  have hrun : db.deliverAll (arrivals ++ revisions) =
      ((db.deliverAll taken).deliver r).deliverAll (late ++ revisions) := by
    show (arrivals ++ revisions).foldl Db.deliver db = _
    rw [harrivals, List.append_assoc, List.foldl_append, hstate]
    rfl
  rw [hrun]
  have hrest : ∀ x ∈ late ++ revisions, x ∈ revisions := by
    intro x hx
    rcases List.mem_append.mp hx with hx | hx
    · exact harrive x (by simp [harrivals, hx])
    · exact hx
  rw [← hsplit] at hone
  exact hblocked.deliverAll (fun x hx => hone x (hrest x hx)) fun x hx heq =>
    List.inj_on_of_nodup_map hnumbers (hrest x hx) hr heq

end Db

/-- When revisions of one receivable can be applied in their order, and they arrive in some order
and any number of times before all of them are delivered again in their order, then the receivable
comes to what it comes to when they are applied once if and only if each of them arrived in turn. -/
theorem revisions_converge (db : Db) (id : String) (revisions arrivals : List Revision)
    (hchecks : ∀ row ∈ db.receivables, row.checks)
    (hone : ∀ r ∈ revisions, r.receivableId = id) (hset : db.AppliesAll revisions)
    (harrive : ∀ r ∈ arrivals, r ∈ revisions) :
    ((db.deliverAll (arrivals ++ revisions)).receivable id).map Receivable.figures =
        ((db.deliverAll revisions).receivable id).map Receivable.figures ↔
      InTurn revisions arrivals := by
  cases revisions with
  | nil =>
    obtain rfl : arrivals = [] := List.eq_nil_iff_forall_not_mem.mpr fun r hr => nomatch harrive r hr
    exact ⟨fun _ => InTurn.nil, fun _ => rfl⟩
  | cons first rest =>
    obtain ⟨row, hget⟩ : ∃ row, db.receivable id = some row := by
      obtain ⟨result, db', hcall, -⟩ := hset
      obtain ⟨-, row, hget, -⟩ := Db.applyRevision_ok hcall
      exact ⟨row, hone first (List.mem_cons_self ..) ▸ hget⟩
    have hrow : row.checks := hchecks row (List.mem_of_find?_eq_some hget)
    obtain ⟨-, hsorted, last, hlast, -, -, hreach⟩ := hset.rising hone hget hrow
    constructor
    · intro hfigures
      by_contra hearly
      obtain ⟨r, hr, ⟨stuck, hstuck, hbelow⟩, -⟩ := hset.stuck hone hget hrow harrive hearly
      rw [hone r hr] at hstuck
      rw [hstuck, hlast] at hfigures
      have hrevision : stuck.revision = last.revision :=
        congrArg (fun f => f.2.2.2.1) (Option.some.inj hfigures)
      have := hreach r hr
      omega
    · intro hturn
      have hnodup : (first :: rest).Nodup := hsorted.imp fun h heq => by
        rw [heq] at h
        exact lt_irrefl _ h
      have hsame : db.deliverAll (arrivals ++ first :: rest) = db.deliverAll (first :: rest) :=
        hturn.sent_again hnodup harrive (hset.passesOver hone)
      rw [hsame]

/-! ### A receivable with two revisions -/

namespace Sample

/-- A provider with one account, and three observations of it. -/
def tables : Db where
  providers := [⟨"mockdepin", 11155111, .nativeTestnet⟩]
  accounts := [⟨"mockdepin/acct-A", "mockdepin", "acct-A"⟩]
  observations := [⟨"obs1", "mockdepin"⟩, ⟨"obs2", "mockdepin"⟩, ⟨"obs3", "mockdepin"⟩]
  receivables := []
  revisions := []
  decisions := []
  exceptions := []
  outbox := []

/-- An obligation of 1000 after deductions. -/
def obligation : ObligationInput where
  receivableId := "01ARZ3NDEKTSV4RRFFQ69G5FAV"
  providerAccountId := "mockdepin/acct-A"
  obligationRef := "inv-1"
  observationId := "obs1"
  asset := { chainId := 11155111, address := none, decimals := 6 }
  gross := 1100
  net := 1000
  paidAmount := 0
  revision := 1
  kind := .OPERATING_RECEIVABLE
  periodFrom := 10
  periodTo := 20
  dueAt := 30
  executionProfile := .nativeTestnet

/-- The tables when it is recorded. -/
def recorded : Db :=
  match tables.recordObligation obligation 25 with
  | .ok (_, db) => db
  | .error _ => tables

/-- A payout of 400. -/
def payout : Revision where
  receivableId := "01ARZ3NDEKTSV4RRFFQ69G5FAV"
  observationId := "obs2"
  revision := 2
  kind := .PAYOUT
  delta := 400

/-- A correction by -100 after it. -/
def correction : Revision where
  receivableId := "01ARZ3NDEKTSV4RRFFQ69G5FAV"
  observationId := "obs3"
  revision := 3
  kind := .CORRECTION
  delta := -100

theorem appliesAll_cons {db : Db} {r : Revision} {rs : List Revision}
    (hcall : (db.applyRevision r).toOption.map (fun done => done.1.applied) = some true)
    (hrest : (db.deliver r).AppliesAll rs) : db.AppliesAll (r :: rs) := by
  obtain ⟨⟨result, db'⟩, hdone, happlied⟩ := Option.map_eq_some_iff.mp hcall
  have hok := toOption_eq_some.mp hdone
  rw [Db.deliver_of_ok hok] at hrest
  exact ⟨result, db', hok, happlied, hrest⟩

theorem recorded_checks : ∀ row ∈ recorded.receivables, row.checks := by decide +kernel

theorem recorded_applies : recorded.AppliesAll [payout, correction] :=
  appliesAll_cons (by decide +kernel) (appliesAll_cons (by decide +kernel) trivial)

end Sample

/-- The payout arrives twice, and then the two are delivered in their order. -/
theorem revisions_converge_sample :
    ((Sample.recorded.deliverAll ([Sample.payout, Sample.payout] ++
        [Sample.payout, Sample.correction])).receivable "01ARZ3NDEKTSV4RRFFQ69G5FAV").map
          Receivable.figures =
        ((Sample.recorded.deliverAll [Sample.payout, Sample.correction]).receivable
          "01ARZ3NDEKTSV4RRFFQ69G5FAV").map Receivable.figures ↔
      InTurn [Sample.payout, Sample.correction] [Sample.payout, Sample.payout] :=
  revisions_converge Sample.recorded "01ARZ3NDEKTSV4RRFFQ69G5FAV"
    [Sample.payout, Sample.correction] [Sample.payout, Sample.payout] Sample.recorded_checks
    (by decide +kernel) Sample.recorded_applies (by decide +kernel)

/-- The correction arrives first, and it is passed over as a duplicate when it is the next one: not
every order of deliveries converges. -/
theorem early_revision_is_lost :
    ¬∀ (db : Db) (id : String) (revisions arrivals : List Revision),
      (∀ row ∈ db.receivables, row.checks) → (∀ r ∈ revisions, r.receivableId = id) →
      db.AppliesAll revisions → (∀ r ∈ arrivals, r ∈ revisions) →
      ((db.deliverAll (arrivals ++ revisions)).receivable id).map Receivable.figures =
        ((db.deliverAll revisions).receivable id).map Receivable.figures := by
  intro hall
  have hbad := hall Sample.recorded "01ARZ3NDEKTSV4RRFFQ69G5FAV"
    [Sample.payout, Sample.correction] [Sample.correction] Sample.recorded_checks
    (by decide +kernel) Sample.recorded_applies (by decide +kernel)
  have hstuck : ((Sample.recorded.deliverAll ([Sample.correction] ++
      [Sample.payout, Sample.correction])).receivable "01ARZ3NDEKTSV4RRFFQ69G5FAV").map
        Receivable.figures = some (1000, 400, 600, 2, .PARTIALLY_PAID) := by
    decide +kernel
  have happlied : ((Sample.recorded.deliverAll [Sample.payout, Sample.correction]).receivable
      "01ARZ3NDEKTSV4RRFFQ69G5FAV").map Receivable.figures =
        some (900, 400, 500, 3, .PARTIALLY_PAID) := by
    decide +kernel
  rw [hstuck, happlied] at hbad
  exact absurd hbad (by decide)

end Rackline.Receivables
