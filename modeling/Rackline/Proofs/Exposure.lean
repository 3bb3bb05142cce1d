import Rackline.Proofs.Booking
import Rackline.Lib.Sum

/-!
# `Rackline.Proofs.Exposure`: caps and reservations

What the controller guards is stated without its lists and counters. The exposure of a category,
a borrower, a group, a provider or everyone, is the sum over its enrolled facilities of the legal
debt and the reservations (`exposureOver`). What is reserved for a facility is the sum of its
`ACTIVE` reservations (`activeTotal`).

The lists of the controller hold each facility of their category once (`Lists`), so the loop of
`_exposure` computes the sum. A draw that the evaluation allows fits under every cap
(`evaluateDraw_room`), and reserving or consuming it adds its amount to one facility only.

Reservations are stored under the hash of the facility and a nonce. The book is right as long as
no two pairs that were used have one hash (`CollisionFree`).
-/

set_option autoImplicit false

namespace Rackline

open Evm Transition
open Finset (univ)

/-! ### The exposure of a category -/

namespace Credit

variable {d : Deployment} {reg : Registries} {m : Msg} {now : Nat} {c c' : Credit}
  {id : FacilityId} {ids : List FacilityId}

/-- What a facility takes of every cap: its legal debt and its reservations. -/
def committedAt (c : Credit) (t : Nat) (id : FacilityId) : Nat :=
  (c.account id).debtAt t + c.exposure.reserved id

open Classical in
/-- The exposure of the enrolled facilities of a category. -/
noncomputable def exposureOver (c : Credit) (t : Nat) (category : Enrollment → Prop) : Nat :=
  ∑ i : FacilityId,
    if (c.exposure.enrolled i).exists_ = true ∧ category (c.exposure.enrolled i) then
      c.committedAt t i
    else 0

/-- The loop of `_exposure` adds up what the facilities of the list take. -/
theorem exposureOf_ok {total result : Nat} (h : c.exposureOf now ids total = .ok result) :
    result = total + (ids.map (c.committedAt now)).sum := by
  induction ids generalizing total with
  | nil =>
    cases h
    simp
  | cons i rest ih =>
    unfold exposureOf at h
    obtain ⟨debt, hdebt, h⟩ := bind_eq_ok.mp h
    obtain ⟨committed, hcommitted, h⟩ := bind_eq_ok.mp h
    obtain ⟨total', htotal, h⟩ := bind_eq_ok.mp h
    obtain ⟨-, rfl⟩ := addW_eq_ok.mp hcommitted
    obtain ⟨-, rfl⟩ := addW_eq_ok.mp htotal
    obtain ⟨_, -, hdebt⟩ := bind_eq_ok.mp hdebt
    obtain rfl := Facility.legalDebtAt_eq_ok hdebt
    rw [ih h, List.map_cons, List.sum_cons, ← Nat.add_assoc, ← Nat.add_assoc, committedAt,
      ← Nat.add_assoc]
    rfl

end Credit

/-- The list has every enrolled facility of the category, each once. -/
def Exposure.Lists (e : Exposure) (ids : List FacilityId) (category : Enrollment → Prop) : Prop :=
  ids.Nodup ∧ ∀ i, i ∈ ids ↔ (e.enrolled i).exists_ = true ∧ category (e.enrolled i)

/-- A list of a category adds up to its exposure. -/
theorem Exposure.Lists.sum {c : Credit} {ids : List FacilityId} {category : Enrollment → Prop}
    (h : c.exposure.Lists ids category) (t : Nat) :
    (ids.map (c.committedAt t)).sum = c.exposureOver t category := by
  classical
  rw [← List.sum_toFinset _ h.1, Credit.exposureOver, ← Finset.sum_filter]
  refine Finset.sum_congr (Finset.ext fun i => ?_) fun _ _ => rfl
  rw [List.mem_toFinset, Finset.mem_filter, h.2 i]
  exact ⟨fun hi => ⟨Finset.mem_univ i, hi⟩, fun hi => hi.2⟩

/-- Every list of the controller is the list of its category. -/
structure Exposure.Enrollments (e : Exposure) : Prop where
  borrower : ∀ b, e.Lists (e.byBorrower b) (fun n => n.borrowerId = b)
  group : ∀ g, e.Lists (e.byGroup g) (fun n => n.groupId = g)
  provider : ∀ p, e.Lists (e.byProvider p) (fun n => n.providerId = p)
  all : e.Lists e.all (fun _ => True)

/-- A new enrollment goes at the end of the lists of its categories. -/
theorem Exposure.Lists.enroll {e e' : Exposure} {ids : List FacilityId}
    {category : Enrollment → Prop} {id : FacilityId} {n : Enrollment}
    (h : e.Lists ids category) (hnew : (e.enrolled id).exists_ = false) (hn : n.exists_ = true)
    (he : e'.enrolled = Function.update e.enrolled id n) :
    (category n → e'.Lists (ids ++ [id]) category) ∧ (¬category n → e'.Lists ids category) := by
  have hfresh : id ∉ ids := fun hmem => by
    have hx := ((h.2 id).mp hmem).1
    rw [hnew] at hx
    cases hx
  have hmem : ∀ i, i ≠ id →
      (i ∈ ids ↔ (e'.enrolled i).exists_ = true ∧ category (e'.enrolled i)) := by
    intro i hi
    rw [he, Function.update_of_ne hi]
    exact h.2 i
  constructor
  · intro hc
    refine ⟨List.nodup_append.mpr ⟨h.1, List.nodup_singleton id, ?_⟩, fun i => ?_⟩
    · intro a ha b hb hab
      rw [hab, List.mem_singleton.mp hb] at ha
      exact hfresh ha
    · rw [List.mem_append, List.mem_singleton]
      by_cases hi : i = id
      · subst hi
        rw [he, Function.update_self]
        exact ⟨fun _ => ⟨hn, hc⟩, fun _ => .inr rfl⟩
      · rw [← hmem i hi]
        exact ⟨fun hor => hor.resolve_right hi, .inl⟩
  · intro hc
    refine ⟨h.1, fun i => ?_⟩
    by_cases hi : i = id
    · subst hi
      rw [he, Function.update_self]
      exact ⟨fun hin => absurd hin hfresh, fun hin => absurd hin.2 hc⟩
    · exact hmem i hi

/-- The lists of a key after an enrollment under `key`. -/
theorem Exposure.Lists.enroll_key {e e' : Exposure} {K : Type} [DecidableEq K]
    {lists : K → List FacilityId} {keyOf : Enrollment → K} {id : FacilityId} {n : Enrollment}
    (h : ∀ k, e.Lists (lists k) (fun n => keyOf n = k)) (hnew : (e.enrolled id).exists_ = false)
    (hn : n.exists_ = true) (he : e'.enrolled = Function.update e.enrolled id n) (k : K) :
    e'.Lists (Function.update lists (keyOf n) (lists (keyOf n) ++ [id]) k)
      (fun n => keyOf n = k) := by
  obtain ⟨hin, hout⟩ := (h k).enroll hnew hn he
  by_cases hk : k = keyOf n
  · subst hk
    rw [Function.update_self]
    exact hin rfl
  · rw [Function.update_of_ne hk]
    exact hout fun heq => hk heq.symm

theorem Exposure.Enrollments.initial : Exposure.initial.Enrollments := by
  have hempty : ∀ category : Enrollment → Prop, Exposure.initial.Lists [] category := by
    refine fun category => ⟨List.nodup_nil, fun i => ?_⟩
    exact ⟨fun hin => (List.not_mem_nil hin).elim, fun hin => absurd hin.1 nofun⟩
  exact ⟨fun _ => hempty _, fun _ => hempty _, fun _ => hempty _, hempty _⟩

namespace Credit

variable {d : Deployment} {reg : Registries} {m : Msg} {now : Nat} {c c' : Credit}
  {id : FacilityId}

theorem enrollFacility_enrollments {groupId : Bytes32} (h : c.exposure.Enrollments)
    (hrun : c.enrollFacility reg m id groupId = .ok c') : c'.exposure.Enrollments := by
  unfold enrollFacility at hrun
  obtain ⟨_, -, hrun⟩ := bind_eq_ok.mp hrun
  obtain ⟨_, hnew, hrun⟩ := bind_eq_ok.mp hrun
  obtain ⟨_, -, hrun⟩ := bind_eq_ok.mp hrun
  obtain ⟨_, -, hrun⟩ := bind_eq_ok.mp hrun
  obtain ⟨_, -, hrun⟩ := bind_eq_ok.mp hrun
  have hnew : (c.exposure.enrolled id).exists_ = false := by
    simpa using revertIf_eq_ok.mp hnew
  obtain rfl := pure_eq_ok.mp hrun
  let n : Enrollment :=
    { borrowerId := (reg.bookFacility id).borrowerId,
      groupId := if groupId = 0 then (reg.bookFacility id).borrowerId else groupId,
      providerId := (reg.bookFacility id).providerId, exists_ := true }
  exact ⟨Exposure.Lists.enroll_key (n := n) h.borrower hnew rfl rfl,
    Exposure.Lists.enroll_key (n := n) h.group hnew rfl rfl,
    Exposure.Lists.enroll_key (n := n) h.provider hnew rfl rfl,
    (h.all.enroll (n := n) hnew rfl rfl).1 trivial⟩

/-- An enrollment writes the enrollment and the lists. -/
theorem enrollFacility_spec {groupId : Bytes32} (h : c.enrollFacility reg m id groupId = .ok c') :
    (c.exposure.enrolled id).exists_ = false ∧
    ∃ enrolled byBorrower byGroup byProvider all,
      c' = { c with exposure := { c.exposure with
        enrolled := enrolled, byBorrower := byBorrower, byGroup := byGroup,
        byProvider := byProvider, all := all } } := by
  unfold enrollFacility at h
  obtain ⟨_, -, h⟩ := bind_eq_ok.mp h
  obtain ⟨_, hnew, h⟩ := bind_eq_ok.mp h
  obtain ⟨_, -, h⟩ := bind_eq_ok.mp h
  obtain ⟨_, -, h⟩ := bind_eq_ok.mp h
  obtain ⟨_, -, h⟩ := bind_eq_ok.mp h
  exact ⟨by simpa using revertIf_eq_ok.mp hnew, _, _, _, _, _, (pure_eq_ok.mp h).symm⟩

/-- An authorization is written under the next epoch. -/
theorem setAuthorization_spec {limit controlVersion validUntil : Nat}
    {policyVersionId controlAgreementId : Bytes32}
    (h : c.setAuthorization reg m id limit policyVersionId controlAgreementId controlVersion
      validUntil = .ok c') :
    m.hasRole .underwriter m.sender = true ∧
    c' = { c with exposure := { c.exposure with
      auth := Function.update c.exposure.auth id
        { limit := limit, policyVersionId := policyVersionId,
          controlAgreementId := controlAgreementId, controlVersion := controlVersion,
          validUntil := validUntil, epoch := (c.exposure.auth id).epoch + 1, exists_ := true } } }
    := by
  unfold setAuthorization at h
  obtain ⟨_, hrole, h⟩ := bind_eq_ok.mp h
  obtain ⟨_, -, h⟩ := bind_eq_ok.mp h
  obtain ⟨_, -, h⟩ := bind_eq_ok.mp h
  obtain ⟨_, -, h⟩ := bind_eq_ok.mp h
  obtain ⟨_, -, h⟩ := bind_eq_ok.mp h
  obtain ⟨epoch, hepoch, h⟩ := bind_eq_ok.mp h
  obtain ⟨-, rfl⟩ := addW_eq_ok.mp hepoch
  exact ⟨by simpa using revertIf_eq_ok.mp hrole, (pure_eq_ok.mp h).symm⟩

/-! ### What an evaluation allows -/

theorem params_ok {policyVersionId : Bytes32} {p : PolicyParams}
    (h : reg.params policyVersionId = .ok p) : reg.policyParams policyVersionId = some p := by
  unfold Registries.params at h
  split at h
  · cases h
  · rename_i hp
    cases h
    exact hp

/-- What `evaluate` leaves to draw: the least of the rooms. -/
theorem evaluate_ok {p : PolicyParams} {eligible cap debt reserved headroom cash : Nat}
    {e : DrawEvaluation} (h : p.evaluate eligible cap debt reserved headroom cash = .ok e) :
    e.availableDraw = min (min (min (cap - (debt + reserved))
      (e.receivableLimit - (debt + reserved))) headroom) cash := by
  unfold PolicyParams.evaluate at h
  obtain ⟨keep, -, h⟩ := bind_eq_ok.mp h
  obtain ⟨scaled, -, h⟩ := bind_eq_ok.mp h
  obtain ⟨advanced, -, h⟩ := bind_eq_ok.mp h
  obtain ⟨committed, hcommitted, h⟩ := bind_eq_ok.mp h
  obtain ⟨-, rfl⟩ := addW_eq_ok.mp hcommitted
  obtain rfl := pure_eq_ok.mp h
  dsimp only
  have hroom : ∀ a b : Nat, (if a > b then a - b else 0) = a - b := by
    intro a b
    split <;> omega
  have hmin : ∀ a b : Nat, (if a < b then a else b) = min a b := by
    intro a b
    split <;> omega
  rw [hroom, hroom, hmin, hmin, hmin, Nat.min_comm headroom, Nat.min_comm cash]

/-- The exposure of the categories of an enrollment, and `more`, are within the caps. -/
structure WithinCaps (p : PolicyParams) (t : Nat) (n : Enrollment) (more : Nat) (c : Credit) :
    Prop where
  borrower : c.exposureOver t (fun k => k.borrowerId = n.borrowerId) + more ≤ p.perBorrowerCap
  group : c.exposureOver t (fun k => k.groupId = n.groupId) + more ≤ p.perGroupCap
  provider : c.exposureOver t (fun k => k.providerId = n.providerId) + more ≤ p.perProviderCap
  global : c.exposureOver t (fun _ => True) + more ≤ p.globalCap

/-- An amount within the headroom fits under the four caps. -/
theorem headroomOf_ok {policyVersionId : Bytes32} {headroom amount : Nat}
    (he : c.exposure.Enrollments) (h : c.headroomOf reg id policyVersionId now = .ok headroom)
    (hpos : 0 < amount) (hle : amount ≤ headroom) :
    ∃ p, reg.policyParams policyVersionId = some p ∧
      c.WithinCaps p now (c.exposure.enrolled id) amount := by
  unfold headroomOf at h
  obtain ⟨_, -, h⟩ := bind_eq_ok.mp h
  obtain ⟨p, hp, h⟩ := bind_eq_ok.mp h
  obtain ⟨_, -, h⟩ := bind_eq_ok.mp h
  obtain ⟨borrower, hborrower, h⟩ := bind_eq_ok.mp h
  obtain ⟨group, hgroup, h⟩ := bind_eq_ok.mp h
  obtain ⟨provider, hprovider, h⟩ := bind_eq_ok.mp h
  obtain ⟨global, hglobal, h⟩ := bind_eq_ok.mp h
  have hhead := pure_eq_ok.mp h
  have hborrower := exposureOf_ok hborrower
  have hgroup := exposureOf_ok hgroup
  have hprovider := exposureOf_ok hprovider
  have hglobal := exposureOf_ok hglobal
  rw [(he.borrower _).sum] at hborrower
  rw [(he.group _).sum] at hgroup
  rw [(he.provider _).sum] at hprovider
  rw [he.all.sum] at hglobal
  have hroom : ∀ cap exposure, Exposure.room cap exposure = cap - exposure := by
    intro cap exposure
    unfold Exposure.room
    split <;> omega
  have hmin : ∀ a b, Exposure.minOf a b = min a b := by
    intro a b
    unfold Exposure.minOf
    split <;> omega
  simp only [hroom, hmin] at hhead
  refine ⟨p, params_ok hp, ?_, ?_, ?_, ?_⟩
  · omega
  · omega
  · omega
  · omega

/-- An amount that the evaluation allows fits under the limit, the receivable limit and the caps
of the pinned policy. -/
theorem evaluateDraw_room {ev : DrawEvaluation} {amount : Nat} (he : c.exposure.Enrollments)
    (h : c.evaluateDraw reg id now = .ok ev) (hpos : 0 < amount)
    (hle : amount ≤ ev.availableDraw) :
    c.committedAt now id + amount ≤ min (c.exposure.auth id).limit ev.receivableLimit ∧
    ∃ p, reg.policyParams (c.exposure.auth id).policyVersionId = some p ∧
      c.WithinCaps p now (c.exposure.enrolled id) amount := by
  unfold evaluateDraw at h
  obtain ⟨_, -, h⟩ := bind_eq_ok.mp h
  obtain ⟨p, -, h⟩ := bind_eq_ok.mp h
  obtain ⟨debt, hdebt, h⟩ := bind_eq_ok.mp h
  obtain ⟨headroom, hheadroom, h⟩ := bind_eq_ok.mp h
  obtain ⟨⟨eligible, validUntil, cpAge⟩, -, h⟩ := bind_eq_ok.mp h
  obtain ⟨cash, -, h⟩ := bind_eq_ok.mp h
  obtain ⟨e, hev, h⟩ := bind_eq_ok.mp h
  obtain ⟨usable, -, h⟩ := bind_eq_ok.mp h
  obtain rfl := pure_eq_ok.mp h
  obtain ⟨_, -, hdebt⟩ := bind_eq_ok.mp hdebt
  have hdebt : debt = (c.account id).debtAt now := Facility.legalDebtAt_eq_ok hdebt
  have havail := evaluate_ok hev
  -- A draw that is not usable is evaluated at zero.
  have hle : amount ≤ e.availableDraw := by
    dsimp only at hle
    split at hle
    · exact hle
    · omega
  rw [havail] at hle
  obtain ⟨p', hp', hcaps⟩ := headroomOf_ok he hheadroom hpos (by omega)
  refine ⟨?_, p', hp', hcaps⟩
  unfold committedAt
  dsimp only
  omega

/-- When one facility takes `amount` more, every exposure grows by at most `amount`. -/
theorem exposureOver_le {amount : Nat} (category : Enrollment → Prop)
    (hn : c'.exposure.enrolled = c.exposure.enrolled)
    (hothers : ∀ i, i ≠ id → c'.committedAt now i = c.committedAt now i)
    (hself : c'.committedAt now id = c.committedAt now id + amount) :
    c'.exposureOver now category ≤ c.exposureOver now category + amount := by
  classical
  unfold exposureOver
  rw [hn]
  have hsum := Total.sum_univ_add_eq
    (f := fun i => if (c.exposure.enrolled i).exists_ = true ∧ category (c.exposure.enrolled i) then
      c.committedAt now i else 0)
    (g := fun i => if (c.exposure.enrolled i).exists_ = true ∧ category (c.exposure.enrolled i) then
      c'.committedAt now i else 0) id (fun j hj => by simp only [hothers j hj])
  rw [hself] at hsum
  split at hsum
  · omega
  · omega

/-- The caps that had room for `amount` hold after one facility took it. -/
theorem WithinCaps.taken {p : PolicyParams} {n : Enrollment} {amount : Nat}
    (h : c.WithinCaps p now n amount) (hn : c'.exposure.enrolled = c.exposure.enrolled)
    (hothers : ∀ i, i ≠ id → c'.committedAt now i = c.committedAt now i)
    (hself : c'.committedAt now id = c.committedAt now id + amount) :
    c'.WithinCaps p now n 0 := by
  have hle := fun category => exposureOver_le category hn hothers hself
  constructor
  · rw [Nat.add_zero]
    exact (hle _).trans h.borrower
  · rw [Nat.add_zero]
    exact (hle _).trans h.group
  · rw [Nat.add_zero]
    exact (hle _).trans h.provider
  · rw [Nat.add_zero]
    exact (hle _).trans h.global

/-! ### Reserving and consuming -/

/-- The books after a reservation of `amount` under `nonce`. -/
def bookReserved (d : Deployment) (id : FacilityId) (amount nonce expiresAt : Nat) (c : Credit) :
    Credit :=
  { c with exposure := { c.exposure with
    nonceUsed := set2 c.exposure.nonceUsed id nonce true
    reservations := Function.update c.exposure.reservations (d.reservationId id nonce)
      { facilityId := id, amount := amount, approvalNonce := nonce, expiresAt := expiresAt,
        policyVersionId := (c.exposure.auth id).policyVersionId,
        authorizationEpoch := (c.exposure.auth id).epoch, state := .active }
    reserved := Function.update c.exposure.reserved id (c.exposure.reserved id + amount) } }

/-- The books after a reservation left `ACTIVE`. -/
def bookClosed (rid : Bytes32) (next : ReservationState) (c : Credit) : Credit :=
  { c with exposure := { c.exposure with
    reservations := Function.update c.exposure.reservations rid
      { c.exposure.reservations rid with state := next }
    reserved := Function.update c.exposure.reserved (c.exposure.reservations rid).facilityId
      (c.exposure.reserved (c.exposure.reservations rid).facilityId -
        (c.exposure.reservations rid).amount) } }

theorem reserve_spec {amount nonce expiresAt : Nat} {rid : Bytes32}
    (h : c.reserve d reg m id amount nonce expiresAt = .ok (rid, c')) :
    amount ≠ 0 ∧ c.exposure.nonceUsed id nonce = false ∧ rid = d.reservationId id nonce ∧
    (∃ ev, c.evaluateDraw reg id m.now = .ok ev ∧ amount ≤ ev.availableDraw) ∧
    c' = c.bookReserved d id amount nonce expiresAt := by
  unfold reserve at h
  obtain ⟨_, -, h⟩ := bind_eq_ok.mp h
  obtain ⟨_, hamount, h⟩ := bind_eq_ok.mp h
  obtain ⟨_, -, h⟩ := bind_eq_ok.mp h
  obtain ⟨_, -, h⟩ := bind_eq_ok.mp h
  obtain ⟨_, -, h⟩ := bind_eq_ok.mp h
  obtain ⟨_, -, h⟩ := bind_eq_ok.mp h
  obtain ⟨p, -, h⟩ := bind_eq_ok.mp h
  obtain ⟨usable, -, h⟩ := bind_eq_ok.mp h
  obtain ⟨_, -, h⟩ := bind_eq_ok.mp h
  obtain ⟨_, -, h⟩ := bind_eq_ok.mp h
  obtain ⟨_, hnonce, h⟩ := bind_eq_ok.mp h
  obtain ⟨ev, hev, h⟩ := bind_eq_ok.mp h
  obtain ⟨_, hroom, h⟩ := bind_eq_ok.mp h
  obtain ⟨total, htotal, h⟩ := bind_eq_ok.mp h
  obtain ⟨-, rfl⟩ := addW_eq_ok.mp htotal
  have hres := pure_eq_ok.mp h
  simp only [Prod.mk.injEq] at hres
  exact ⟨revertIf_eq_ok.mp hamount, by simpa using revertIf_eq_ok.mp hnonce, hres.1.symm,
    ⟨ev, hev, Nat.le_of_not_lt (revertIf_eq_ok.mp hroom)⟩, hres.2.symm⟩

theorem consumeReservation_spec {rid : Bytes32} (h : c.consumeReservation d reg m rid = .ok c') :
    (c.exposure.reservations rid).state = .active ∧
    (c.exposure.auth (c.exposure.reservations rid).facilityId).epoch =
      (c.exposure.reservations rid).authorizationEpoch ∧
    (c.exposure.reservations rid).amount ≤
      c.exposure.reserved (c.exposure.reservations rid).facilityId ∧
    ∃ ev l, (c.bookClosed rid .consumed).evaluateDraw reg
        (c.exposure.reservations rid).facilityId m.now = .ok ev ∧
      (c.exposure.reservations rid).amount ≤ ev.availableDraw ∧
      c.pool.ledger.recordDraw (m.calledBy d.exposure) (c.exposure.reservations rid).facilityId
        (c.exposure.reservations rid).amount = .ok l ∧
      c' = { c.bookClosed rid .consumed with pool := { c.pool with ledger := l } } := by
  unfold consumeReservation at h
  obtain ⟨_, -, h⟩ := bind_eq_ok.mp h
  obtain ⟨_, hactive, h⟩ := bind_eq_ok.mp h
  obtain ⟨_, -, h⟩ := bind_eq_ok.mp h
  obtain ⟨_, hepoch, h⟩ := bind_eq_ok.mp h
  obtain ⟨_, -, h⟩ := bind_eq_ok.mp h
  obtain ⟨p, -, h⟩ := bind_eq_ok.mp h
  obtain ⟨usable, -, h⟩ := bind_eq_ok.mp h
  obtain ⟨_, -, h⟩ := bind_eq_ok.mp h
  obtain ⟨reserved, hreserved, h⟩ := bind_eq_ok.mp h
  obtain ⟨hle, rfl⟩ := subW_eq_ok.mp hreserved
  obtain ⟨ev, hev, h⟩ := bind_eq_ok.mp h
  obtain ⟨_, hroom, h⟩ := bind_eq_ok.mp h
  obtain ⟨l, hl, h⟩ := bind_eq_ok.mp h
  have hroom := not_or.mp (revertIf_eq_ok.mp hroom)
  exact ⟨Classical.not_not.mp (revertIf_eq_ok.mp hactive),
    Classical.not_not.mp (revertIf_eq_ok.mp hepoch), hle, ev, l, hev, Nat.le_of_not_lt hroom.2, hl,
    (pure_eq_ok.mp h).symm⟩

theorem releaseReservation_spec {rid : Bytes32} {next : ReservationState}
    (h : c.releaseReservation rid next = .ok c') :
    (c.exposure.reservations rid).state = .active ∧
    (c.exposure.reservations rid).amount ≤
      c.exposure.reserved (c.exposure.reservations rid).facilityId ∧
    c' = c.bookClosed rid next := by
  unfold releaseReservation at h
  obtain ⟨_, hactive, h⟩ := bind_eq_ok.mp h
  obtain ⟨reserved, hreserved, h⟩ := bind_eq_ok.mp h
  obtain ⟨hle, rfl⟩ := subW_eq_ok.mp hreserved
  exact ⟨Classical.not_not.mp (revertIf_eq_ok.mp hactive), hle, (pure_eq_ok.mp h).symm⟩

/-- The caps of the pinned policy hold for the categories of the facility, and the facility takes
at most its limit and the receivable limit of the evaluation. -/
def Capped (reg : Registries) (t : Nat) (id : FacilityId) (ev : DrawEvaluation) (c : Credit) :
    Prop :=
  ∃ p, reg.policyParams (c.exposure.auth id).policyVersionId = some p ∧
    c.WithinCaps p t (c.exposure.enrolled id) 0 ∧
    c.committedAt t id ≤ min (c.exposure.auth id).limit ev.receivableLimit

/-- Immediately after a reservation the facility is within the caps. -/
theorem reserve_capped {amount nonce expiresAt : Nat} {rid : Bytes32}
    (he : c.exposure.Enrollments)
    (h : c.reserve d reg m id amount nonce expiresAt = .ok (rid, c')) :
    ∃ ev, c.evaluateDraw reg id m.now = .ok ev ∧ c'.Capped reg m.now id ev := by
  obtain ⟨hamount, -, -, ⟨ev, hev, hle⟩, rfl⟩ := reserve_spec h
  obtain ⟨hlimit, p, hp, hcaps⟩ := evaluateDraw_room he hev (Nat.pos_of_ne_zero hamount) hle
  have hself : (c.bookReserved d id amount nonce expiresAt).committedAt m.now id =
      c.committedAt m.now id + amount := by
    simp [committedAt, bookReserved, account, Nat.add_assoc]
  refine ⟨ev, hev, p, hp, hcaps.taken rfl (fun i hi => ?_) hself, hself ▸ hlimit⟩
  simp [committedAt, bookReserved, account, hi]

/-- Immediately after a consumption the facility is within the caps. -/
theorem consumeReservation_capped {rid : Bytes32} (he : c.exposure.Enrollments)
    (hid : id = (c.exposure.reservations rid).facilityId)
    (h : c.consumeReservation d reg m rid = .ok c') :
    ∃ ev, (c.bookClosed rid .consumed).evaluateDraw reg id m.now = .ok ev ∧
      c'.Capped reg m.now id ev := by
  obtain ⟨-, -, -, ev, l, hev, hle, hl, rfl⟩ := consumeReservation_spec h
  rw [← hid] at hev hl
  obtain ⟨-, -, hothers, hdebt⟩ := Ledger.recordDraw_ok hl
  obtain ⟨-, f, hf, -⟩ := Ledger.modifyFacility_ok hl
  have hpos : 0 < (c.exposure.reservations rid).amount := (recordDraw_principal hf).2.1
  obtain ⟨hlimit, p, hp, hcaps⟩ :=
    evaluateDraw_room (c := c.bookClosed rid .consumed)
      ⟨he.borrower, he.group, he.provider, he.all⟩ hev hpos hle
  have hself : Credit.committedAt
      { c.bookClosed rid .consumed with pool := { c.pool with ledger := l } } m.now id =
      (c.bookClosed rid .consumed).committedAt m.now id + (c.exposure.reservations rid).amount := by
    have hdebt : (l.facilities id).debtAt m.now = (c.pool.ledger.facilities id).debtAt m.now +
      (c.exposure.reservations rid).amount := hdebt
    simp only [committedAt, account, hdebt]
    exact Nat.add_right_comm _ _ _
  refine ⟨ev, hev, p, hp, hcaps.taken rfl (fun i hi => ?_) hself, hself ▸ hlimit⟩
  simp only [committedAt, account, hothers i hi]
  rfl

/-! ### The book of reservations -/

end Credit

namespace Exposure

/-- What a reservation holds for a facility: its amount, while it is `ACTIVE`. -/
def share (r : Reservation) (id : FacilityId) : Nat :=
  if r.state = .active ∧ r.facilityId = id then r.amount else 0

/-- What the `ACTIVE` reservations of a facility add up to. -/
noncomputable def activeTotal (e : Exposure) (id : FacilityId) : Nat :=
  ∑ rid : Bytes32, share (e.reservations rid) id

/-- The total after one reservation changed. -/
theorem activeTotal_update (e e' : Exposure) {rid : Bytes32} {r : Reservation}
    (h : e'.reservations = Function.update e.reservations rid r) (id : FacilityId) :
    e'.activeTotal id + share (e.reservations rid) id = e.activeTotal id + share r id := by
  have hsum := Total.sum_univ_add_eq (f := fun i => share (e.reservations i) id)
    (g := fun i => share (e'.reservations i) id) rid
    (fun i hi => by rw [h, Function.update_of_ne hi])
  rw [h, Function.update_self] at hsum
  unfold activeTotal
  rw [h]
  exact hsum

/-- No two pairs of facility and nonce that were used have one reservation id. -/
def CollisionFree (d : Deployment) (e : Exposure) : Prop :=
  ∀ i n i' n', e.nonceUsed i n = true → e.nonceUsed i' n' = true →
    d.reservationId i n = d.reservationId i' n' → i = i' ∧ n = n'

/-- Every reservation is stored under the id of its facility and nonce, which was used. -/
def Filed (d : Deployment) (e : Exposure) : Prop :=
  ∀ rid, (e.reservations rid).state ≠ .none →
    rid = d.reservationId (e.reservations rid).facilityId (e.reservations rid).approvalNonce ∧
    e.nonceUsed (e.reservations rid).facilityId (e.reservations rid).approvalNonce = true

/-- What a transaction may do to a reservation: nothing, make it, consume it as it is made, or
take it out of `ACTIVE` for good. -/
def Lives (r r' : Reservation) : Prop :=
  r' = r ∨ r.state = .none ∧ (r'.state = .active ∨ r'.state = .consumed) ∨
    r.state = .active ∧ (r' = { r with state := .consumed } ∨ r' = { r with state := .cancelled } ∨
      r' = { r with state := .expired })

/-- The reservation was consumed between the two states. -/
def Consumes (e e' : Exposure) (rid : Bytes32) : Prop :=
  (e.reservations rid).state ≠ .consumed ∧ (e'.reservations rid).state = .consumed

end Exposure

namespace Credit

open Exposure

variable {d : Deployment} {reg : Registries} {m : Msg} {c c' : Credit} {id : FacilityId}
  {rid : Bytes32}

theorem bookReserved_used {nonce : Nat} {i : FacilityId} {n : Nat}
    (h : c.exposure.nonceUsed i n = true) :
    set2 c.exposure.nonceUsed id nonce true i n = true := by
  rw [set2_apply]
  split
  · rfl
  · exact h

/-- A reservation under a new nonce goes where nothing was stored. -/
theorem bookReserved_fresh {amount nonce expiresAt : Nat} (hf : c.exposure.Filed d)
    (hnonce : c.exposure.nonceUsed id nonce = false)
    (hfree : (c.bookReserved d id amount nonce expiresAt).exposure.CollisionFree d) :
    (c.exposure.reservations (d.reservationId id nonce)).state = .none := by
  by_contra hstored
  obtain ⟨hrid, hused⟩ := hf _ hstored
  obtain ⟨hi, hn⟩ := hfree id nonce _ _ (set2_self ..) (bookReserved_used hused) hrid
  rw [← hi, ← hn, hnonce] at hused
  cases hused

theorem bookReserved_filed {amount nonce expiresAt : Nat} (hf : c.exposure.Filed d) :
    (c.bookReserved d id amount nonce expiresAt).exposure.Filed d := by
  intro rid hstored
  by_cases hrid : rid = d.reservationId id nonce
  · subst hrid
    simp [bookReserved]
  · have hkept : (c.bookReserved d id amount nonce expiresAt).exposure.reservations rid =
        c.exposure.reservations rid := Function.update_of_ne hrid ..
    rw [hkept] at hstored ⊢
    exact ⟨(hf rid hstored).1, bookReserved_used (hf rid hstored).2⟩

theorem bookReserved_total {amount nonce expiresAt : Nat}
    (hfresh : (c.exposure.reservations (d.reservationId id nonce)).state = .none)
    (h : ∀ i, c.exposure.reserved i = c.exposure.activeTotal i) (i : FacilityId) :
    (c.bookReserved d id amount nonce expiresAt).exposure.reserved i =
      (c.bookReserved d id amount nonce expiresAt).exposure.activeTotal i := by
  have hsum := activeTotal_update c.exposure
    (c.bookReserved d id amount nonce expiresAt).exposure rfl i
  have hbefore := h i
  show Function.update c.exposure.reserved id (c.exposure.reserved id + amount) i = _
  by_cases hi : i = id
  · subst hi
    rw [Function.update_self]
    simp only [share, hfresh, reduceCtorEq, false_and, if_false, and_self, if_true] at hsum
    omega
  · rw [Function.update_of_ne hi]
    simp only [share, hfresh, reduceCtorEq, false_and, if_false, Ne.symm hi, and_false] at hsum
    omega

theorem bookClosed_total {next : ReservationState} (hnext : next ≠ .active)
    (hactive : (c.exposure.reservations rid).state = .active)
    (h : ∀ i, c.exposure.reserved i = c.exposure.activeTotal i) (i : FacilityId) :
    (c.bookClosed rid next).exposure.reserved i =
      (c.bookClosed rid next).exposure.activeTotal i := by
  have hsum := activeTotal_update c.exposure (c.bookClosed rid next).exposure rfl i
  have hbefore := h i
  show Function.update c.exposure.reserved _ _ i = _
  by_cases hi : i = (c.exposure.reservations rid).facilityId
  · subst hi
    rw [Function.update_self]
    simp only [share, hactive, hnext, false_and, if_false, and_self, if_true] at hsum
    omega
  · rw [Function.update_of_ne hi]
    simp only [share, hactive, hnext, if_false, Ne.symm hi, and_false] at hsum
    omega

theorem bookClosed_filed {next : ReservationState}
    (hactive : (c.exposure.reservations rid).state = .active) (hf : c.exposure.Filed d) :
    (c.bookClosed rid next).exposure.Filed d := by
  intro i hstored
  by_cases hi : i = rid
  · subst hi
    have hfiled := hf i (by rw [hactive]; exact nofun)
    simpa [bookClosed] using hfiled
  · have hkept : (c.bookClosed rid next).exposure.reservations i = c.exposure.reservations i :=
      Function.update_of_ne hi ..
    rw [hkept] at hstored ⊢
    exact hf i hstored

theorem anchorAuthorization_exposure {auth : CreditAuthorization}
    {approval : SupplementaryAssertion}
    (h : c.anchorAuthorization d reg m auth approval = .ok c') : c'.exposure = c.exposure := by
  unfold anchorAuthorization at h
  obtain ⟨_, -, h⟩ := bind_eq_ok.mp h
  obtain ⟨_, -, h⟩ := bind_eq_ok.mp h
  obtain ⟨_, -, h⟩ := bind_eq_ok.mp h
  obtain ⟨_, -, h⟩ := bind_eq_ok.mp h
  obtain ⟨_, -, h⟩ := bind_eq_ok.mp h
  obtain ⟨_, -, h⟩ := bind_eq_ok.mp h
  obtain ⟨_, -, h⟩ := bind_eq_ok.mp h
  obtain ⟨_, -, h⟩ := bind_eq_ok.mp h
  obtain ⟨_, -, h⟩ := bind_eq_ok.mp h
  obtain rfl := pure_eq_ok.mp h
  rfl

/-! ### The invariant of the books -/

/-- What the controller's storage keeps in every state. -/
structure Booked (d : Deployment) (e : Exposure) : Prop where
  enrollments : e.Enrollments
  filed : e.Filed d
  totals : e.CollisionFree d → ∀ i, e.reserved i = e.activeTotal i

theorem Booked.reserved {amount nonce expiresAt : Nat} (h : Booked d c.exposure)
    (hnonce : c.exposure.nonceUsed id nonce = false) :
    Booked d (c.bookReserved d id amount nonce expiresAt).exposure := by
  refine ⟨⟨h.enrollments.borrower, h.enrollments.group, h.enrollments.provider,
    h.enrollments.all⟩, bookReserved_filed h.filed, fun hfree => ?_⟩
  have hfree' : c.exposure.CollisionFree d := fun i n i' n' hi hi' =>
    hfree i n i' n' (bookReserved_used hi) (bookReserved_used hi')
  exact bookReserved_total (bookReserved_fresh h.filed hnonce hfree) (h.totals hfree')

theorem Booked.closed {next : ReservationState} (h : Booked d c.exposure)
    (hactive : (c.exposure.reservations rid).state = .active) (hnext : next ≠ .active) :
    Booked d (c.bookClosed rid next).exposure :=
  ⟨⟨h.enrollments.borrower, h.enrollments.group, h.enrollments.provider, h.enrollments.all⟩,
    bookClosed_filed hactive h.filed, fun hfree => bookClosed_total hnext hactive (h.totals hfree)⟩

/-- The manager's reservation is one of the controller. -/
theorem reserveInternal_books {amount expiresAt : Nat}
    (h : c.reserveInternal d reg m id amount expiresAt = .ok (rid, c')) :
    ∃ nonce manager, c.exposure.nonceUsed id nonce = false ∧
      rid = d.reservationId id nonce ∧ nonce < wordSize 64 ∧
      c' = { c.bookReserved d id amount nonce expiresAt with manager := manager } := by
  unfold reserveInternal at h
  obtain ⟨_, -, h⟩ := bind_eq_ok.mp h
  obtain ⟨_, -, h⟩ := bind_eq_ok.mp h
  obtain ⟨_, -, h⟩ := bind_eq_ok.mp h
  obtain ⟨_, -, h⟩ := bind_eq_ok.mp h
  obtain ⟨ev, -, h⟩ := bind_eq_ok.mp h
  obtain ⟨_, -, h⟩ := bind_eq_ok.mp h
  obtain ⟨_, -, h⟩ := bind_eq_ok.mp h
  obtain ⟨cash, -, h⟩ := bind_eq_ok.mp h
  obtain ⟨_, -, h⟩ := bind_eq_ok.mp h
  obtain ⟨nonce, hnext, h⟩ := bind_eq_ok.mp h
  obtain ⟨hfit, rfl⟩ := addW_eq_ok.mp hnext
  obtain ⟨⟨rid', q⟩, hq, h⟩ := bind_eq_ok.mp h
  obtain ⟨-, hnonce, hrid, -, rfl⟩ := reserve_spec hq
  have hres := pure_eq_ok.mp h
  simp only [Prod.mk.injEq] at hres
  obtain ⟨rfl, rfl⟩ := hres
  exact ⟨_, _, hnonce, hrid, hfit, rfl⟩

/-- The manager's draw consumes one reservation, and the principal of its facility rises by the
amount. -/
theorem executeInternal_books {minReceived : Nat}
    (h : c.executeInternal d reg m rid minReceived = .ok c') :
    (c.exposure.reservations rid).state = .active ∧
    c'.exposure = (c.bookClosed rid .consumed).exposure ∧
    (∀ i, (c'.account i).principal = (c.account i).principal +
      if i = (c.exposure.reservations rid).facilityId then (c.exposure.reservations rid).amount
      else 0) := by
  unfold executeInternal at h
  obtain ⟨_, -, h⟩ := bind_eq_ok.mp h
  obtain ⟨_, -, h⟩ := bind_eq_ok.mp h
  obtain ⟨_, -, h⟩ := bind_eq_ok.mp h
  obtain ⟨q, hq, h⟩ := bind_eq_ok.mp h
  obtain ⟨pool, hlend, h⟩ := bind_eq_ok.mp h
  obtain ⟨_, -, h⟩ := bind_eq_ok.mp h
  obtain ⟨_, -, h⟩ := bind_eq_ok.mp h
  obtain ⟨_, -, h⟩ := bind_eq_ok.mp h
  obtain rfl := pure_eq_ok.mp h
  obtain ⟨hactive, -, -, ev, l, -, -, hl, rfl⟩ := consumeReservation_spec hq
  have hledger : pool.ledger = l := VaultCall.exec_ledger (c := .lend _ _ _) hlend
  obtain ⟨-, f, hf, rfl⟩ := Ledger.modifyFacility_ok hl
  refine ⟨hactive, rfl, fun i => ?_⟩
  show (pool.ledger.facilities i).principal = _
  rw [hledger]
  by_cases hi : i = (c.exposure.reservations rid).facilityId
  · subst hi
    rw [if_pos rfl]
    dsimp only
    rw [Function.update_self]
    exact (recordDraw_principal hf).1
  · rw [if_neg hi]
    dsimp only
    rw [Function.update_of_ne hi]
    rfl

end Credit

open Credit

section
variable {d : Deployment} {reg : Registries} {m : Msg} {c c' : Credit} {call : CreditCall}

/-- Every transaction keeps the books right. -/
theorem Booking.booked (h : Booking d reg m c c' call) (hb : Booked d c.exposure) :
    Booked d c'.exposure := by
  have hsame : c'.exposure = c.exposure → Booked d c'.exposure := fun he => he ▸ hb
  cases h with
  | framed _ hframe => exact hsame hframe.exposure
  | opened _ _ he _ _ => exact hsame he
  | enrolled hrun =>
    obtain ⟨-, enrolled, byBorrower, byGroup, byProvider, all, hc'⟩ := enrollFacility_spec hrun
    have henrolled := enrollFacility_enrollments hb.enrollments hrun
    rw [hc'] at henrolled ⊢
    exact ⟨henrolled, hb.filed, hb.totals⟩
  | authorized hrun =>
    obtain ⟨-, rfl⟩ := setAuthorization_spec hrun
    exact ⟨⟨hb.enrollments.borrower, hb.enrollments.group, hb.enrollments.provider,
      hb.enrollments.all⟩, hb.filed, hb.totals⟩
  | anchored hrun => exact hsame (anchorAuthorization_exposure hrun)
  | released _ hnext hrun =>
    obtain ⟨hactive, -, rfl⟩ := releaseReservation_spec hrun
    exact hb.closed hactive (by rcases hnext with rfl | rfl <;> exact nofun)
  | reserved hrun =>
    obtain ⟨nonce, manager, hnonce, -, -, rfl⟩ := reserveInternal_books hrun
    exact hb.reserved hnonce
  | drawn hrun =>
    obtain ⟨hactive, he, -⟩ := executeInternal_books hrun
    rw [he]
    exact hb.closed hactive nofun
  | borrowed hres hrun =>
    obtain ⟨nonce, manager, hnonce, -, -, rfl⟩ := reserveInternal_books hres
    obtain ⟨hactive, he, -⟩ := executeInternal_books hrun
    rw [he]
    exact Booked.closed (hb.reserved hnonce) hactive nofun

open Exposure

/-- A reservation that left `ACTIVE`, in the book it left. -/
theorem Credit.bookClosed_reservations (c : Credit) (rid : Bytes32) (next : ReservationState)
    (i : Bytes32) : (c.bookClosed rid next).exposure.reservations i =
      if i = rid then { c.exposure.reservations rid with state := next }
      else c.exposure.reservations i := by
  by_cases hi : i = rid
  · subst hi
    simp [bookClosed]
  · simp [bookClosed, hi]

theorem Credit.bookReserved_reservations (c : Credit) (id : FacilityId)
    (amount nonce expiresAt : Nat) {i : Bytes32} (hi : i ≠ d.reservationId id nonce) :
    (c.bookReserved d id amount nonce expiresAt).exposure.reservations i =
      c.exposure.reservations i := Function.update_of_ne hi ..

theorem Credit.bookReserved_state (c : Credit) (id : FacilityId) (amount nonce expiresAt : Nat) :
    ((c.bookReserved d id amount nonce expiresAt).exposure.reservations
      (d.reservationId id nonce)).state = .active := by
  simp [bookReserved]

/-- What a transaction does to each reservation. Only a draw consumes one. -/
theorem Booking.lives (h : Booking d reg m c c' call) (hf : c.exposure.Filed d)
    (hfree : c'.exposure.CollisionFree d) (rid : Bytes32) :
    Lives (c.exposure.reservations rid) (c'.exposure.reservations rid) ∧
      (¬call.Draws → ¬Consumes c.exposure c'.exposure rid) := by
  have hsame : c'.exposure.reservations rid = c.exposure.reservations rid →
      Lives (c.exposure.reservations rid) (c'.exposure.reservations rid) ∧
        (¬call.Draws → ¬Consumes c.exposure c'.exposure rid) := by
    intro he
    refine ⟨.inl he, fun _ hc => hc.1 ?_⟩
    rw [← he]
    exact hc.2
  cases h with
  | framed _ hframe => exact hsame (by rw [hframe.exposure])
  | opened _ _ he _ _ => exact hsame (by rw [he])
  | enrolled hrun =>
    obtain ⟨-, enrolled, byBorrower, byGroup, byProvider, all, rfl⟩ := enrollFacility_spec hrun
    exact hsame rfl
  | authorized hrun =>
    obtain ⟨-, rfl⟩ := setAuthorization_spec hrun
    exact hsame rfl
  | anchored hrun => exact hsame (by rw [anchorAuthorization_exposure hrun])
  | @released _ i next _ hnext hrun =>
    obtain ⟨hactive, -, rfl⟩ := releaseReservation_spec hrun
    by_cases hrid : rid = i
    · subst hrid
      have hafter := bookClosed_reservations c rid next rid
      rw [if_pos rfl] at hafter
      refine ⟨.inr (.inr ⟨hactive, ?_⟩), fun _ hc => ?_⟩
      · rcases hnext with rfl | rfl
        · exact .inr (.inl hafter)
        · exact .inr (.inr hafter)
      · have hconsumed := hc.2
        rw [hafter] at hconsumed
        rcases hnext with rfl | rfl <;> cases hconsumed
    · exact hsame ((bookClosed_reservations c i next rid).trans (if_neg hrid))
  | @reserved id amount ttl expiresAt _ hrun =>
    obtain ⟨nonce, manager, hnonce, -, -, rfl⟩ := reserveInternal_books hrun
    by_cases hrid : rid = d.reservationId id nonce
    · subst hrid
      have hafter := bookReserved_state (d := d) c id amount nonce expiresAt
      refine ⟨.inr (.inl ⟨bookReserved_fresh hf hnonce hfree, .inl hafter⟩), fun _ hc => ?_⟩
      exact absurd (hafter.symm.trans hc.2) nofun
    · exact hsame (bookReserved_reservations c id amount nonce expiresAt hrid)
  | @drawn i _ hrun =>
    obtain ⟨hactive, he, -⟩ := executeInternal_books hrun
    refine ⟨?_, fun hnot => absurd trivial hnot⟩
    rw [he, bookClosed_reservations]
    split
    · rename_i hrid
      subst hrid
      exact .inr (.inr ⟨hactive, .inl rfl⟩)
    · exact .inl rfl
  | @borrowed id amount minReceived expiresAt _ _ hres hrun =>
    obtain ⟨nonce, manager, hnonce, hid, -, rfl⟩ := reserveInternal_books hres
    obtain ⟨-, he, -⟩ := executeInternal_books hrun
    have hfree : (c.bookReserved d id amount nonce expiresAt).exposure.CollisionFree d := by
      rw [he] at hfree
      exact hfree
    refine ⟨?_, fun hnot => absurd trivial hnot⟩
    rw [he, bookClosed_reservations]
    split
    · rename_i hrid
      refine .inr (.inl ⟨?_, .inr rfl⟩)
      rw [hrid, hid]
      exact bookReserved_fresh hf hnonce hfree
    · rename_i hrid
      exact .inl (bookReserved_reservations c id amount nonce expiresAt (hid ▸ hrid))

/-- How draws and consumed reservations correspond in a transaction: principal rises only for a
reservation that was consumed, by its amount, and one transaction consumes one at most. -/
structure MovesInStep (c c' : Credit) : Prop where
  raised : ∀ id, (c.account id).principal < (c'.account id).principal →
    ∃ rid, Consumes c.exposure c'.exposure rid ∧ (c'.exposure.reservations rid).facilityId = id
  consumed : ∀ rid, Consumes c.exposure c'.exposure rid →
    (c'.account (c'.exposure.reservations rid).facilityId).principal =
      (c.account (c'.exposure.reservations rid).facilityId).principal +
        (c'.exposure.reservations rid).amount
  once : ∀ rid rid', Consumes c.exposure c'.exposure rid → Consumes c.exposure c'.exposure rid' →
    rid = rid'

/-- A transaction that draws on the reservation `rid` alone moves in step. -/
theorem MovesInStep.of_drawn (rid : Bytes32) {r : Reservation}
    (hr : c'.exposure.reservations rid = r) (hconsumed : r.state = .consumed)
    (hbefore : (c.exposure.reservations rid).state ≠ .consumed)
    (hothers : ∀ i, i ≠ rid → c'.exposure.reservations i = c.exposure.reservations i)
    (hprincipal : ∀ i, (c'.account i).principal = (c.account i).principal +
      if i = r.facilityId then r.amount else 0) : MovesInStep c c' := by
  have honly : ∀ i, Consumes c.exposure c'.exposure i → i = rid := by
    intro i hi
    by_contra hne
    have hafter := hi.2
    rw [hothers i hne] at hafter
    exact hi.1 hafter
  refine ⟨fun id hlt => ⟨rid, ⟨hbefore, hr ▸ hconsumed⟩, ?_⟩, fun i hi => ?_, fun i j hi hj => ?_⟩
  · rw [hprincipal id] at hlt
    rw [hr]
    by_contra hne
    rw [if_neg fun heq => hne heq.symm] at hlt
    exact Nat.lt_irrefl _ hlt
  · rw [honly i hi, hr, hprincipal, if_pos rfl]
  · exact (honly i hi).trans (honly j hj).symm

/-- A transaction that consumes nothing and raises no principal moves in step. -/
theorem MovesInStep.of_quiet
    (hnone : ∀ rid, ¬Consumes c.exposure c'.exposure rid)
    (hprincipal : ∀ id, (c'.account id).principal ≤ (c.account id).principal) :
    MovesInStep c c' :=
  ⟨fun id hlt => absurd (hprincipal id) (Nat.not_le_of_lt hlt),
    fun rid hc => absurd hc (hnone rid), fun rid _ hc => absurd hc (hnone rid)⟩

/-- The ledger and the book of reservations move in step. -/
theorem Booking.movesInStep (h : Booking d reg m c c' call) (hf : c.exposure.Filed d)
    (hfree : c'.exposure.CollisionFree d)
    (hprincipal : ¬call.Draws → ∀ id, (c'.account id).principal ≤ (c.account id).principal) :
    MovesInStep c c' := by
  have hlives := h.lives hf hfree
  cases h with
  | @drawn rid _ hrun =>
    obtain ⟨hactive, he, hraised⟩ := executeInternal_books hrun
    refine .of_drawn rid (r := { c.exposure.reservations rid with state := .consumed })
      ?_ rfl (by rw [hactive]; exact nofun) (fun i hi => ?_) hraised
    · rw [he, bookClosed_reservations, if_pos rfl]
    · rw [he, bookClosed_reservations, if_neg hi]
  | @borrowed id amount minReceived expiresAt rid _ hres hrun =>
    obtain ⟨nonce, manager, hnonce, hid, -, rfl⟩ := reserveInternal_books hres
    obtain ⟨-, he, hraised⟩ := executeInternal_books hrun
    have hfree : (c.bookReserved d id amount nonce expiresAt).exposure.CollisionFree d := by
      rw [he] at hfree
      exact hfree
    have hfresh := bookReserved_fresh hf hnonce hfree
    refine .of_drawn rid
      (r := { (c.bookReserved d id amount nonce expiresAt).exposure.reservations rid with
        state := .consumed }) ?_ rfl ?_ (fun i hi => ?_) hraised
    · rw [he, bookClosed_reservations, if_pos rfl]
    · rw [hid, hfresh]
      exact nofun
    · rw [he, bookClosed_reservations, if_neg hi]
      exact bookReserved_reservations c id amount nonce expiresAt (hid ▸ hi)
  | framed hnot _ => exact .of_quiet (fun rid => (hlives rid).2 hnot) (hprincipal hnot)
  | opened hnot _ _ _ _ => exact .of_quiet (fun rid => (hlives rid).2 hnot) (hprincipal hnot)
  | released hnot _ _ => exact .of_quiet (fun rid => (hlives rid).2 hnot) (hprincipal hnot)
  | _ =>
    -- None of the other calls is a draw.
    have hnot := fun hdraws : False => hdraws
    exact .of_quiet (fun rid => (hlives rid).2 hnot) (hprincipal hnot)

end

/-- The books are right in every reachable state. -/
theorem CreditReachable.booked {d : Deployment} {s : CreditState} (h : CreditReachable d s) :
    Booked d s.credit.exposure := by
  refine (Reachable.invariant (P := fun s => s.Inv d ∧ Booked d s.credit.exposure) ?_ ?_ h).2
  · intro s hinit
    refine ⟨hinit.inv, ?_⟩
    obtain ⟨token, -, hs⟩ := hinit
    rw [hs]
    refine ⟨⟨Exposure.Enrollments.initial.borrower, Exposure.Enrollments.initial.group,
      Exposure.Enrollments.initial.provider, Exposure.Enrollments.initial.all⟩,
      fun rid hstored => absurd rfl hstored, fun _ i => ?_⟩
    symm
    refine Finset.sum_eq_zero fun rid _ => ?_
    exact if_neg fun hactive => absurd hactive.1 nofun
  · rintro s tx s' ⟨hi, hb⟩ hstep
    exact ⟨hstep.inv hi, (hstep.booking hi).booked hb⟩

/-! ### Nonces stay used -/

section
variable {d : Deployment} {reg : Registries} {m : Msg} {c c' : Credit} {call : CreditCall}

/-- A nonce that was used stays used. -/
theorem Booking.nonceUsed (h : Booking d reg m c c' call) {id : FacilityId} {nonce : Nat}
    (hused : c.exposure.nonceUsed id nonce = true) : c'.exposure.nonceUsed id nonce = true := by
  have hsame : c'.exposure.nonceUsed = c.exposure.nonceUsed →
      c'.exposure.nonceUsed id nonce = true := fun he => he ▸ hused
  cases h with
  | framed _ hframe => exact hsame (by rw [hframe.exposure])
  | opened _ _ he _ _ => exact hsame (by rw [he])
  | enrolled hrun =>
    obtain ⟨-, enrolled, byBorrower, byGroup, byProvider, all, rfl⟩ := enrollFacility_spec hrun
    exact hused
  | authorized hrun =>
    obtain ⟨-, rfl⟩ := setAuthorization_spec hrun
    exact hused
  | anchored hrun => exact hsame (by rw [anchorAuthorization_exposure hrun])
  | released _ _ hrun =>
    obtain ⟨-, -, rfl⟩ := releaseReservation_spec hrun
    exact hused
  | reserved hrun =>
    obtain ⟨nonce, manager, -, -, -, rfl⟩ := reserveInternal_books hrun
    exact bookReserved_used hused
  | drawn hrun =>
    obtain ⟨-, he, -⟩ := executeInternal_books hrun
    exact hsame (by rw [he]; rfl)
  | borrowed hres hrun =>
    obtain ⟨nonce', manager, -, -, -, rfl⟩ := reserveInternal_books hres
    obtain ⟨-, he, -⟩ := executeInternal_books hrun
    rw [he]
    show set2 _ _ _ _ id nonce = true
    exact bookReserved_used hused

theorem Booking.collisionFree (h : Booking d reg m c c' call)
    (hfree : c'.exposure.CollisionFree d) : c.exposure.CollisionFree d :=
  fun i n i' n' hi hi' => hfree i n i' n' (h.nonceUsed hi) (h.nonceUsed hi')

end

/-- A reservation that has left `ACTIVE` is the same in every later state. -/
theorem CreditStep.reservation_closed {d : Deployment} {s s' : CreditState} {txs : List Tx}
    (hrun : Steps (CreditStep d) s txs s') (hs : s.Inv d ∧ Booked d s.credit.exposure) :
    s'.credit.exposure.CollisionFree d → s.credit.exposure.CollisionFree d ∧
      ∀ rid, (s.credit.exposure.reservations rid).state ≠ .none →
        (s.credit.exposure.reservations rid).state ≠ .active →
        s'.credit.exposure.reservations rid = s.credit.exposure.reservations rid := by
  induction hrun with
  | nil => exact fun hfree => ⟨hfree, fun _ _ _ => rfl⟩
  | @cons s t u tx txs hstep _ ih =>
    intro hfree
    have hbooking := hstep.booking hs.1
    obtain ⟨hfree', hrest⟩ := ih ⟨hstep.inv hs.1, hbooking.booked hs.2⟩ hfree
    refine ⟨hbooking.collisionFree hfree', fun rid hnone hactive => ?_⟩
    rcases (hbooking.lives hs.2.filed hfree' rid).1 with hsame | ⟨hwas, -⟩ | ⟨hwas, -⟩
    · rw [← hsame] at hnone hactive
      exact (hrest rid hnone hactive).trans hsame
    · exact absurd hwas hnone
    · exact absurd hwas hactive

/-- Both books move in step in every transaction. -/
theorem CreditStep.movesInStep {d : Deployment} {s s' : CreditState} {tx : Tx} (hi : s.Inv d)
    (hb : Booked d s.credit.exposure) (hstep : CreditStep d s tx s')
    (hfree : s'.credit.exposure.CollisionFree d) : MovesInStep s.credit s'.credit :=
  (hstep.booking hi).movesInStep hb.filed hfree fun hnot id =>
    (CreditCall.exec_serviced hi.wired hstep.2.1 hnot hstep.2.2.1 id).account.principal

/-! ### The caps -/

/-- The books that a call of the manager within a transaction finds: those the transaction
found, or those after a reservation it made. -/
inductive Exposure.Within (d : Deployment) (e : Exposure) : Exposure → Prop
  | found : Within d e e
  | reserved {reg : Registries} {m : Msg} {c c' : Credit} {id : FacilityId}
      {amount nonce expiresAt : Nat} {rid : Bytes32} : Within d e c.exposure →
      c.reserve d reg m id amount nonce expiresAt = .ok (rid, c') → Within d e c'.exposure

theorem Exposure.Within.enrollments {d : Deployment} {e e' : Exposure} (h : Within d e e')
    (he : e.Enrollments) : e'.Enrollments := by
  induction h with
  | found => exact he
  | reserved _ hrun ih =>
    obtain ⟨-, -, -, -, rfl⟩ := reserve_spec hrun
    exact ⟨ih.borrower, ih.group, ih.provider, ih.all⟩

/-- The exposure controller in every run of the protocol. What is reserved for a facility is what
its `ACTIVE` reservations add up to; a reservation leaves `ACTIVE` once, and principal rises in
step with the reservations that are consumed; after every reservation and every consumption the
caps of the pinned policy and the limits of the facility hold. -/
theorem exposure_within_caps {d : Deployment} {s : CreditState} (h : CreditReachable d s)
    (hash : s.credit.exposure.CollisionFree d) :
    (∀ id, s.credit.exposure.reserved id = s.credit.exposure.activeTotal id) ∧
    (∀ tx s', CreditStep d s tx s' → s'.credit.exposure.CollisionFree d →
      (∀ rid, Exposure.Lives (s.credit.exposure.reservations rid)
        (s'.credit.exposure.reservations rid)) ∧
      MovesInStep s.credit s'.credit) ∧
    (∀ txs s', Steps (CreditStep d) s txs s' → s'.credit.exposure.CollisionFree d →
      ∀ rid, (s.credit.exposure.reservations rid).state ≠ .none →
        (s.credit.exposure.reservations rid).state ≠ .active →
        s'.credit.exposure.reservations rid = s.credit.exposure.reservations rid) ∧
    ∀ c : Credit, Exposure.Within d s.credit.exposure c.exposure →
      (∀ reg m id amount nonce expiresAt rid c',
        c.reserve d reg m id amount nonce expiresAt = .ok (rid, c') →
        ∃ ev, c.evaluateDraw reg id m.now = .ok ev ∧ c'.Capped reg m.now id ev) ∧
      (∀ reg m rid c', c.consumeReservation d reg m rid = .ok c' →
        ∃ ev, (c.bookClosed rid .consumed).evaluateDraw reg
            (c.exposure.reservations rid).facilityId m.now = .ok ev ∧
          c'.Capped reg m.now (c.exposure.reservations rid).facilityId ev) := by
  have hb := h.booked
  refine ⟨hb.totals hash, fun tx s' hstep hfree => ?_, fun txs s' hrun hfree => ?_,
    fun c hwithin => ?_⟩
  · exact ⟨fun rid => ((hstep.booking h.inv).lives hb.filed hfree rid).1,
      hstep.movesInStep h.inv hb hfree⟩
  · exact (CreditStep.reservation_closed hrun ⟨h.inv, hb⟩ hfree).2
  · have he := hwithin.enrollments hb.enrollments
    refine ⟨fun reg m id amount nonce expiresAt rid c' hrun => ?_, fun reg m rid c' hrun => ?_⟩
    · exact reserve_capped he hrun
    · exact consumeReservation_capped he rfl hrun

/-- The facility that a call reserves for. -/
def CreditCall.reservesFor : CreditCall → Option FacilityId
  | .manager (.borrow id _ _) => some id
  | .manager (.reserveDraw id _ _) => some id
  | _ => none

/-- A nonce is used by a call that reserves, and fits in 64 bits. -/
theorem Booking.nonceUsed_new {d : Deployment} {reg : Registries} {m : Msg} {c c' : Credit}
    {call : CreditCall} (h : Booking d reg m c c' call) {id : FacilityId} {nonce : Nat}
    (hused : c'.exposure.nonceUsed id nonce = true) :
    c.exposure.nonceUsed id nonce = true ∨
      call.reservesFor = some id ∧ nonce < wordSize 64 := by
  have hsame : c'.exposure.nonceUsed = c.exposure.nonceUsed →
      c.exposure.nonceUsed id nonce = true := fun he => he ▸ hused
  -- What a reservation for `i` under `n` makes used.
  have hset : ∀ {i n}, n < wordSize 64 → set2 c.exposure.nonceUsed i n true id nonce = true →
      c.exposure.nonceUsed id nonce = true ∨ some i = some id ∧ nonce < wordSize 64 := by
    intro i n hfit hin
    rw [set2_apply] at hin
    split at hin
    · rename_i heq
      exact .inr ⟨by rw [heq.1], heq.2 ▸ hfit⟩
    · exact .inl hin
  cases h with
  | framed _ hframe => exact .inl (hsame (by rw [hframe.exposure]))
  | opened _ _ he _ _ => exact .inl (hsame (by rw [he]))
  | enrolled hrun =>
    obtain ⟨-, enrolled, byBorrower, byGroup, byProvider, all, rfl⟩ := enrollFacility_spec hrun
    exact .inl hused
  | authorized hrun =>
    obtain ⟨-, rfl⟩ := setAuthorization_spec hrun
    exact .inl hused
  | anchored hrun => exact .inl (hsame (by rw [anchorAuthorization_exposure hrun]))
  | released _ _ hrun =>
    obtain ⟨-, -, rfl⟩ := releaseReservation_spec hrun
    exact .inl hused
  | reserved hrun =>
    obtain ⟨n, manager, -, -, hfit, rfl⟩ := reserveInternal_books hrun
    exact hset hfit hused
  | drawn hrun =>
    obtain ⟨-, he, -⟩ := executeInternal_books hrun
    exact .inl (hsame (by rw [he]; rfl))
  | borrowed hres hrun =>
    obtain ⟨n, manager, -, -, hfit, rfl⟩ := reserveInternal_books hres
    obtain ⟨-, he, -⟩ := executeInternal_books hrun
    rw [he] at hused
    exact hset hfit hused

/-- In a run of the sample deployment that reserves for facility 5 only, no two reservation ids
collide. -/
theorem Sample.collisionFree {txs : List Tx} {s : CreditState}
    (hrun : Sample.creditDeployment.run Sample.protocol txs = .ok s)
    (hfive : ∀ tx ∈ txs, tx.call.reservesFor = none ∨ tx.call.reservesFor = some 5) :
    s.credit.exposure.CollisionFree Sample.protocol := by
  have hsteps := (CreditState.run_steps hrun).restrict
    (Q := fun _ tx => tx.call.reservesFor = none ∨ tx.call.reservesFor = some 5)
    fun tx htx _ => hfive tx htx
  have hused := (hsteps.invariant (P := fun s => s.Inv Sample.protocol ∧
    ∀ i n, s.credit.exposure.nonceUsed i n = true → i = 5 ∧ n < wordSize 64) ?_
    ⟨Sample.creditDeployment_initial.inv, fun i n hin => nomatch hin⟩).2
  · intro i n i' n' hi hi' heq
    obtain ⟨rfl, hn⟩ := hused i n hi
    obtain ⟨rfl, hn'⟩ := hused i' n' hi'
    have heq : n % 2 ^ 256 = n' % 2 ^ 256 := congrArg Fin.val heq
    have hword : wordSize 64 ≤ 2 ^ 256 := by decide
    rw [Nat.mod_eq_of_lt (hn.trans_le hword), Nat.mod_eq_of_lt (hn'.trans_le hword)] at heq
    exact ⟨rfl, heq⟩
  · rintro s tx s' ⟨hi, hold⟩ ⟨hcall, hstep⟩
    refine ⟨hstep.inv hi, fun i n hin => ?_⟩
    rcases (hstep.booking hi).nonceUsed_new hin with hin | ⟨hfor, hfit⟩
    · exact hold i n hin
    · rw [hfor] at hcall
      rcases hcall with hcall | hcall
      · cases hcall
      · exact ⟨Option.some.inj hcall, hfit⟩

/-- Facility 5 is active and has reserved 600. -/
def Sample.reservedFacility : List Tx :=
  (activeFacility 1000 600).take 8 ++ [tx 9 10 (.manager (.reserveDraw 5 600 100))]

/-- The draw of the reservation, at time 20. -/
def Sample.reservedDraw : Tx := tx 9 20 (.manager (.executeReservedDraw 1 0))

/-- Facility 5 draws its reservation of 600: the reservation counts before and not after, the
principal rises by it, and consuming it leaves the facility within the caps. -/
theorem exposure_within_caps_sample :
    ∃ s s' c', CreditReachable Sample.protocol s ∧
      CreditStep Sample.protocol s Sample.reservedDraw s' ∧
      s.credit.exposure.activeTotal 5 = 600 ∧ s'.credit.exposure.activeTotal 5 = 0 ∧
      (s'.credit.account 5).principal = (s.credit.account 5).principal + 600 ∧
      s.credit.consumeReservation Sample.protocol Sample.registries
        (Sample.reservedDraw.msg.calledBy Sample.protocol.manager) 1 = .ok c' ∧
      ∃ ev, c'.Capped Sample.registries 20 5 ev := by
  have hfive : ∀ tx ∈ Sample.reservedFacility ++ [Sample.reservedDraw],
    tx.call.reservesFor = none ∨ tx.call.reservesFor = some 5 := by decide +kernel
  obtain ⟨s, hrun, hview⟩ := Sample.creditDeployment.run_view Sample.protocol
    Sample.reservedFacility (fun s => decide (s.credit.exposure.reserved 5 = 600 ∧
      (s.credit.exposure.reservations 1).state = .active ∧
      (s.credit.exposure.reservations 1).facilityId = 5 ∧
      (s.credit.exposure.reservations 1).amount = 600 ∧
      ((s.credit.consumeReservation Sample.protocol Sample.registries
        (Sample.reservedDraw.msg.calledBy Sample.protocol.manager) 1).map fun _ => ()).toOption =
          some ())) (v := true) (by decide +kernel)
  obtain ⟨hreserved, hactive, hfor, hamount, hconsume⟩ := of_decide_eq_true hview
  obtain ⟨s', hrun', hview'⟩ := Sample.creditDeployment.run_view Sample.protocol
    (Sample.reservedFacility ++ [Sample.reservedDraw])
    (fun s => decide (s.credit.exposure.reserved 5 = 0 ∧
      (s.credit.exposure.reservations 1).state = .consumed ∧
      (s.credit.exposure.reservations 1).facilityId = 5 ∧
      (s.credit.exposure.reservations 1).amount = 600)) (v := true) (by decide +kernel)
  obtain ⟨hreserved', hconsumed, hfor', hamount'⟩ := of_decide_eq_true hview'
  have hstep := (CreditState.run_last hrun hrun').step
  have hreach : CreditReachable Sample.protocol s :=
    ⟨_, _, Sample.creditDeployment_initial, CreditState.run_steps hrun⟩
  have hfree' := Sample.collisionFree hrun' hfive
  have hfree := Sample.collisionFree hrun fun tx htx => hfive tx (List.mem_append_left _ htx)
  obtain ⟨htotals, hsteps, -, hcaps⟩ := exposure_within_caps hreach hfree
  obtain ⟨htotals', -⟩ := exposure_within_caps (hreach.step hstep) hfree'
  have hmoved := (hsteps _ _ hstep hfree').2.consumed 1 ⟨by rw [hactive]; exact nofun, hconsumed⟩
  rw [hfor', hamount'] at hmoved
  obtain ⟨c', hc', -⟩ := map_eq_ok.mp (toOption_eq_some.mp hconsume)
  obtain ⟨ev, -, hev⟩ := (hcaps s.credit .found).2 _ _ _ _ hc'
  rw [hfor] at hev
  exact ⟨s, s', c', hreach, hstep, (htotals 5).symm.trans hreserved,
    (htotals' 5).symm.trans hreserved', hmoved, hc', ev, hev⟩

end Rackline
