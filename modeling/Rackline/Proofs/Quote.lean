import Rackline.Proofs.Authorization
import Rackline.Evm.Errors
import Rackline.SecuredRun

/-!
# `Rackline.Proofs.Quote`: what a draw quote promises

`CreditFacilityManager.evaluateDraw` quotes what a facility may draw now. It asks the controller
for its evaluation and then for three things that `borrow` checks: a valid anchor, draws that are
not paused and an active facility.

`borrow` has more gates. Some of them the evaluation has too, under the terms of the controller,
and the rest it does not have at all: the link of the wallet, the role and the key epoch of the
signer, the profile and the method of the verifier, the count of the authorization, and the age
of the last observation that the control registry itself allows. `quote_honoured_iff` says that
these are all: a quote is honoured by every gate exactly when they pass (`Honoured`).

The control registry is the one of `Rackline.ControlRegistry`, in any state. What the receivable
book answers is a parameter; the book reports a positive amount only with evidence that is still
valid.
-/

set_option autoImplicit false

namespace Rackline

open Evm Transition

/-- The reverts of the gates of a draw: pause, wallet, state, anchor, signer, profile and method,
manifest, policy, control, evidence, headroom and cash. -/
def Revert.isDrawGate : Revert → Bool
  | .drawsArePaused | .walletNotLinked .. | .facilityNotActive .. => true
  | .authorizationMissingOrExpired .. | .authorizationManifestMismatch .. => true
  | .noAuthorization .. | .authorizationExpired .. | .facilityLimitZero .. => true
  | .profileMismatch .. | .nativeEvidenceRequired .. => true
  | .policyStale .. | .policyUnknown .. | .capNotSet .. => true
  | .controlInsufficientOrStale .. | .controlNotUsable .. => true
  | .reservationInvalidated .. | .registry => true
  | .facilityNotEnrolled .. | .insufficientHeadroom .. | .exceedsAvailableDraw .. => true
  | .insufficientCash .. | .withdrawalQueueActive | .epochRecapitalizationRequired => true
  | _ => false

/-- The call does not revert on a draw gate. -/
def PassesGates {α : Type} (x : Except Revert α) : Prop :=
  ErrorsIn (fun r => r.isDrawGate = false) x

/-! ### The control registry -/

/-- An effective agreement of grade E2 is usable when its last observation is not older than the
registry allows. -/
theorem ControlRegistry.requireUsable_iff {k : ControlRegistry} {agreementId : Bytes32}
    {observationMaxAge now version : Nat}
    (heffective : k.isEffective agreementId version now = true)
    (hgrade : (k.agreements agreementId).terms.grade ≠ .e0 ∧
      (k.agreements agreementId).terms.grade ≠ .e1) :
    (k.requireUsable agreementId observationMaxAge now version .e2).toOption.isSome = true ↔
      k.isFresh agreementId observationMaxAge now = true := by
  have hversion : version = (k.agreements agreementId).version := by
    by_contra hne
    simp [isEffective, hne] at heffective
  have hrank : 2 ≤ (k.agreements agreementId).terms.grade.rank := by
    revert hgrade
    cases (k.agreements agreementId).terms.grade <;> simp [ControlGrade.rank]
  -- An observation that contradicts the grade would have ended the agreement.
  have hobserved : (k.status agreementId).observedReceiver ≠ 0 →
      (k.agreements agreementId).terms.grade.rank ≤ (k.status agreementId).observedGrade.rank := by
    intro hseen
    by_contra hlow
    simp [isEffective, hseen, Nat.lt_of_not_le hlow] at heffective
  have heff : ¬(k.effectiveGrade agreementId now).rank < ControlGrade.rank .e2 := by
    have htrue : k.isEffective agreementId (k.agreements agreementId).version now = true :=
      hversion ▸ heffective
    simp only [effectiveGrade, htrue, Bool.true_eq_false, if_false]
    split
    · exact Nat.not_lt_of_le hrank
    · rename_i hseen
      exact Nat.not_lt_of_le (hrank.trans (hobserved fun h0 => hseen (.inl h0)))
  have hok : k.requireUsable agreementId observationMaxAge now version .e2 =
      revertIf (k.isFresh agreementId observationMaxAge now = false)
        (.observationStale (k.agreements agreementId).lastObservedAt observationMaxAge) := by
    unfold requireUsable
    rw [revertIf_of_not _ (by simp [heffective]), ok_bind, revertIf_of_not _ heff, ok_bind]
  rw [hok]
  cases hfresh : k.isFresh agreementId observationMaxAge now with
  | true => simp [revertIf, Except.toOption]
  | false => simp [revertIf, Except.toOption]

namespace Credit

variable {d : Deployment} {reg : Registries} {m : Msg} {now amount : Nat} {c c' : Credit}
  {id : FacilityId} {e : DrawEvaluation}

/-! ### What the evaluation has checked -/

theorem read_eq_ok {α : Type} {x : Option α} {a : α} : Registries.read x = .ok a ↔ x = some a := by
  cases x with
  | none => exact ⟨nofun, nofun⟩
  | some b => simp [Registries.read]

/-- What an evaluation at `now` that leaves `amount` says of the authorization, the policy, the
agreement, the evidence and the cash. -/
structure Evaluated (reg : Registries) (id : FacilityId) (now amount : Nat) (e : DrawEvaluation)
    (c : Credit) : Prop where
  result : c.evaluateDraw reg id now = .ok e
  available : amount ≤ e.availableDraw
  auth : (c.exposure.auth id).exists_ = true ∧ (c.exposure.auth id).limit ≠ 0 ∧
    now < (c.exposure.auth id).validUntil
  policy : reg.isCurrent (c.exposure.auth id).policyVersionId = true
  control : ∃ p, reg.params (c.exposure.auth id).policyVersionId = .ok p ∧
    Exposure.controlUsable reg (c.exposure.auth id) p now = .ok true
  eligible : e.eligibleReceivables ≠ 0
  evidence : ∃ maxAge tolerance haircut unpaid age, 0 < unpaid ∧
    reg.eligibleUnpaid id maxAge tolerance haircut now =
      some (unpaid, e.evidenceValidUntil, age)
  cash : ∃ cash, c.pool.availableCash = .ok cash ∧ amount ≤ cash

/-- What is left to draw of nothing eligible is nothing. -/
theorem evaluate_eligible {p : PolicyParams} {eligible cap debt reserved headroom cash : Nat}
    (h : p.evaluate eligible cap debt reserved headroom cash = .ok e) (hpos : 0 < amount)
    (hle : amount ≤ e.availableDraw) : 0 < eligible ∧ e.eligibleReceivables ≠ 0 ∧ amount ≤ cash := by
  have havail := evaluate_ok h
  unfold PolicyParams.evaluate at h
  obtain ⟨keep, -, h⟩ := bind_eq_ok.mp h
  obtain ⟨scaled, hscaled, h⟩ := bind_eq_ok.mp h
  obtain ⟨advanced, hadvanced, h⟩ := bind_eq_ok.mp h
  obtain ⟨committed, -, h⟩ := bind_eq_ok.mp h
  obtain ⟨-, rfl⟩ := mulW_eq_ok.mp hscaled
  obtain ⟨-, rfl⟩ := mulW_eq_ok.mp hadvanced
  obtain rfl := pure_eq_ok.mp h
  have hlimit : 0 < eligible * keep / 10000 * p.advanceRateBps / 10000 := by
    dsimp only at havail hle
    omega
  have hscaled : eligible * keep / 10000 ≠ 0 := by
    intro hzero
    rw [hzero, Nat.zero_mul, Nat.zero_div] at hlimit
    exact Nat.lt_irrefl 0 hlimit
  refine ⟨Nat.pos_of_ne_zero fun hzero => ?_, hscaled, by dsimp only at havail hle; omega⟩
  rw [hzero, Nat.zero_mul, Nat.zero_div] at hscaled
  exact hscaled rfl

theorem evaluateDraw_evaluated (h : c.evaluateDraw reg id now = .ok e) (hpos : 0 < amount)
    (hle : amount ≤ e.availableDraw) : c.Evaluated reg id now amount e := by
  have hresult := h
  unfold evaluateDraw at h
  obtain ⟨_, hauth, h⟩ := bind_eq_ok.mp h
  obtain ⟨p, hp, h⟩ := bind_eq_ok.mp h
  obtain ⟨debt, -, h⟩ := bind_eq_ok.mp h
  obtain ⟨headroom, -, h⟩ := bind_eq_ok.mp h
  obtain ⟨⟨eligible, validUntil, cpAge⟩, hbook, h⟩ := bind_eq_ok.mp h
  obtain ⟨cash, hcash, h⟩ := bind_eq_ok.mp h
  obtain ⟨ev, hev, h⟩ := bind_eq_ok.mp h
  obtain ⟨usable, husable, h⟩ := bind_eq_ok.mp h
  obtain rfl := pure_eq_ok.mp h
  have hauth : (c.exposure.auth id).exists_ = true := by simpa using revertIf_eq_ok.mp hauth
  have hleft : usable = true ∧ amount ≤ ev.availableDraw := by
    dsimp only at hle
    split at hle
    · exact ⟨by assumption, hle⟩
    · omega
  obtain ⟨rfl, hleft⟩ := hleft
  obtain ⟨heligible, hreceivables, hcashLe⟩ := evaluate_eligible hev hpos hleft
  unfold authorityUsable at husable
  dsimp only at husable
  split at husable
  · cases husable
  · rename_i hgates
    obtain ⟨hlimit, hrest⟩ := not_or.mp hgates
    obtain ⟨hvalid, hcurrent⟩ := not_or.mp hrest
    obtain ⟨usable, hcontrol, -⟩ := bind_eq_ok.mp husable
    refine ⟨hresult, hle, ⟨hauth, hlimit, Nat.lt_of_not_le hvalid⟩, by simpa using hcurrent,
      ⟨p, hp, ?_⟩, hreceivables, ?_, cash, hcash, hcashLe⟩
    · rw [hcontrol]
      cases usable with
      | true => rfl
      | false =>
        rw [hcontrol, ok_bind, if_pos rfl] at husable
        cases husable
    · exact ⟨p.checkpointMaxAge, p.checkpointToleranceBps, p.overdueHaircutBps, eligible, cpAge,
        heligible, read_eq_ok.mp hbook⟩

/-! ### The gates of the manager -/

/-- What a valid anchor says. -/
theorem anchorValid_eq_true (h : c.anchorValid d reg now id = .ok true) :
    (c.manager.anchors id).exists_ = true ∧ now < (c.manager.anchors id).auth.validUntil ∧
    ∃ v, reg.verifierOf (c.manager.facilities id).providerId = some v ∧
      (c.manager.anchors id).auth.manifestHash = v.manifestHash ∧
      reg.isCurrent (c.manager.anchors id).auth.policyVersionId = true ∧
      (c.manager.anchors id).auth.controlAgreementVersionHash =
        d.controlVersionHash (c.manager.facilities id).controlAgreementId
          (c.manager.facilities id).controlVersion := by
  unfold anchorValid at h
  dsimp only at h
  split at h
  · cases h
  · rename_i hanchor
    obtain ⟨hx, hvalid⟩ := not_or.mp hanchor
    obtain ⟨v, hv, h⟩ := bind_eq_ok.mp h
    refine ⟨by simpa using hx, Nat.lt_of_not_le hvalid, v, read_eq_ok.mp hv, ?_⟩
    split at h
    · cases h
    · rename_i hmanifest
      split at h
      · cases h
      · rename_i hcurrent
        exact ⟨Classical.not_not.mp hmanifest, by simpa using hcurrent,
          of_decide_eq_true (pure_eq_ok.mp h)⟩

/-- What a quote of `amount` says. -/
structure Quoted (d : Deployment) (reg : Registries) (id : FacilityId) (now amount : Nat)
    (e : DrawEvaluation) (c : Credit) : Prop extends c.Evaluated reg id now amount e where
  known : (c.manager.facilities id).exists_ = true
  valid : c.anchorValid d reg now id = .ok true
  running : c.manager.drawsPaused = false
  active : (c.manager.facilities id).state = .active

theorem managerEvaluateDraw_quoted (h : c.managerEvaluateDraw d reg id now = .ok e)
    (hpos : 0 < amount) (hle : amount ≤ e.availableDraw) : c.Quoted d reg id now amount e := by
  unfold managerEvaluateDraw at h
  obtain ⟨_, hknown, h⟩ := bind_eq_ok.mp h
  obtain ⟨ev, hev, h⟩ := bind_eq_ok.mp h
  obtain ⟨valid, hvalid, h⟩ := bind_eq_ok.mp h
  split at h
  · obtain rfl := pure_eq_ok.mp h
    dsimp only at hle
    omega
  · rename_i hgates
    obtain rfl := pure_eq_ok.mp h
    obtain ⟨hv, hrest⟩ := not_or.mp hgates
    obtain ⟨hpaused, hactive⟩ := not_or.mp hrest
    obtain rfl : valid = true := by simpa using hv
    have hknown : (c.manager.facilities id).exists_ = true := by
      simpa [requireFacility] using revertIf_eq_ok.mp hknown
    exact ⟨evaluateDraw_evaluated hev hpos hle, hknown, hvalid, by simpa using hpaused,
      Classical.not_not.mp hactive⟩

/-- What the manager checks before a draw and a quote does not say. -/
structure Drawable (reg : Registries) (m : Msg) (id : FacilityId) (c : Credit) : Prop where
  wallet : reg.isWalletOf (c.manager.facilities id).borrowerId
    (c.manager.facilities id).wallet = true
  signer : m.hasRole .underwriter (c.manager.anchors id).signer = true
  key : reg.isEpochValid .underwriter (c.manager.anchors id).signerEpoch = true
  verifier : ∃ v, reg.verifierOf (c.manager.facilities id).providerId = some v ∧
    v.executionProfile = (c.manager.facilities id).profile ∧
    ((c.manager.facilities id).profile = .localMock ∨ v.verificationMethod = .attestcoinNative)
  epoch : (c.manager.anchors id).exposureEpoch = (c.exposure.auth id).epoch
  control : reg.requireUsable (c.manager.facilities id).controlAgreementId
    (c.manager.facilities id).controlVersion = true

/-- After a quote, the gates of `_checkDrawable` are those of `Drawable`. -/
theorem checkDrawable_gates (hq : c.Quoted d reg id m.now amount e) :
    PassesGates (c.checkDrawable d reg m id) ↔ c.Drawable reg m id := by
  obtain ⟨hx, hvalid, v, hv, hmanifest, hcurrent, hhash⟩ := anchorValid_eq_true hq.valid
  unfold checkDrawable PassesGates
  dsimp only
  rw [errorsIn_gate (by simp [Revert.isDrawGate]), errorsIn_gate (by simp [Revert.isDrawGate]),
    errorsIn_gate (by simp [Revert.isDrawGate]), errorsIn_gate (by simp [Revert.isDrawGate]),
    errorsIn_gate (by simp [Revert.isDrawGate]), errorsIn_bind_ok (read_eq_ok.mpr hv),
    errorsIn_gate (by simp [Revert.isDrawGate]), errorsIn_gate (by simp [Revert.isDrawGate]),
    errorsIn_gate (by simp [Revert.isDrawGate]), errorsIn_gate (by simp [Revert.isDrawGate]),
    errorsIn_gate (by simp [Revert.isDrawGate]), errorsIn_gate (by simp [Revert.isDrawGate]),
    errorsIn_revertIf]
  constructor
  · rintro ⟨-, hwallet, -, -, hsigner, hprofile, hmethod, hepoch, -, -, -, hcontrol⟩
    have hsigner := not_or.mp hsigner
    refine ⟨by simpa using hwallet, by simpa using hsigner.1, by simpa using hsigner.2,
      ⟨v, hv, Classical.not_not.mp hprofile, ?_⟩, Classical.not_not.mp hepoch, ?_⟩
    · by_contra hnot
      exact hmethod (not_or.mp hnot)
    · by_contra hnot
      exact absurd (hcontrol (by simpa using hnot)) (by simp [Revert.isDrawGate])
  · intro hd
    obtain ⟨v', hv', hprofile, hmethod⟩ := hd.verifier
    obtain rfl : v' = v := Option.some.inj (hv'.symm.trans hv)
    refine ⟨by simp [hq.running], by simp [hd.wallet], by simp [hq.active], ?_,
      by simp [hd.signer, hd.key], not_not_intro hprofile, ?_, not_not_intro hd.epoch,
      not_not_intro hmanifest, by simp [hcurrent], not_not_intro hhash, by simp [hd.control]⟩
    · rw [hx]
      simpa using hvalid
    · rintro ⟨hlocal, hnative⟩
      exact hmethod.elim hlocal hnative

/-! ### The gates of the controller and the vault -/

theorem exposureOf_congr (hpool : c'.pool = c.pool)
    (hreserved : c'.exposure.reserved = c.exposure.reserved) (ids : List FacilityId) :
    ∀ total, c'.exposureOf now ids total = c.exposureOf now ids total := by
  induction ids with
  | nil => exact fun _ => rfl
  | cons i rest ih =>
    intro total
    simp only [exposureOf, hpool, hreserved, ih]

/-- The evaluation reads the pool, the enrollments, the authorizations and what is reserved, and
not the book of reservations. -/
theorem evaluateDraw_congr {nonceUsed : FacilityId → Nat → Bool}
    {reservations : Bytes32 → Reservation} (hpool : c'.pool = c.pool)
    (he : c'.exposure = { c.exposure with nonceUsed := nonceUsed, reservations := reservations }) :
    c'.evaluateDraw reg id now = c.evaluateDraw reg id now := by
  have hexposure : ∀ ids total, c'.exposureOf now ids total = c.exposureOf now ids total :=
    exposureOf_congr hpool (by rw [he])
  simp only [evaluateDraw, headroomOf, authorityUsable, hexposure]
  rw [hpool, he]

theorem growth_gates {principal rateBps elapsed : Nat} :
    PassesGates (InterestMath.growth principal rateBps elapsed) :=
  .guard rfl fun _ => .bind (.mulW rfl) fun _ _ => .mulW rfl

theorem legalDebtAt_gates {l : Ledger} : PassesGates (l.legalDebtAt id now) := by
  refine .guard rfl fun _ => .bind (.addW rfl) fun _ _ => .bind ?_ fun _ _ => .addW rfl
  unfold Facility.unpaidInterestAt
  split
  · exact .of_ok rfl
  · exact .bind growth_gates fun _ _ => .bind (.addW rfl) fun _ _ => errorsIn_pure _

theorem recordDraw_gates {l : Ledger} :
    PassesGates (l.recordDraw m id amount) := by
  refine .guard rfl fun _ => .guard rfl fun _ => .bind ?_ fun _ _ => errorsIn_pure _
  refine .guard rfl fun _ => .guard rfl fun _ => .bind ?_ fun _ _ => .bind (.addW rfl) fun _ _ =>
    .guard rfl fun _ => errorsIn_pure _
  unfold Facility.accrue
  refine .guard rfl fun _ => ?_
  split
  · exact errorsIn_pure _
  · split
    · exact .bind growth_gates fun _ _ => .bind (.addW rfl) fun _ _ => errorsIn_pure _
    · exact errorsIn_pure _

/-- With the cash that the quote found, the vault has no gate left. -/
theorem lend_gates {p : Pool} {dst : Address} {cash : Nat} (hcash : p.availableCash = .ok cash)
    (hpos : 0 < amount) (hle : amount ≤ cash) : PassesGates (p.lend m id dst amount) := by
  -- A vault with a queue or a rollover has no available cash.
  have hopen : ¬(p.vault.pendingWithdrawalShares ≠ 0 ∨ p.vault.epochRolloverRequired = true) := by
    intro hclosed
    rw [Pool.availableCash, if_pos hclosed] at hcash
    cases hcash
    omega
  obtain ⟨hqueue, hrollover⟩ := not_or.mp hopen
  have hcash' : p.absorbDonation.availableCash = .ok cash := by
    rw [Pool.absorbDonation_eq]
    exact hcash
  refine .guard rfl fun _ => .guard rfl fun _ => .guard rfl fun _ => .guard rfl fun _ => ?_
  refine (errorsIn_gate (by simp [Revert.isDrawGate])).mpr ⟨hrollover, ?_⟩
  refine (errorsIn_gate (by simp [Revert.isDrawGate])).mpr ⟨hqueue, ?_⟩
  refine (errorsIn_bind_ok hcash').mpr ?_
  refine (errorsIn_gate (by simp [Revert.isDrawGate])).mpr ⟨Nat.not_lt_of_le hle, ?_⟩
  refine .bind ?_ fun _ _ => errorsIn_pure _
  unfold Pool.push
  split
  · exact (errorsIn_error _).mpr rfl
  · exact .guard rfl fun _ => errorsIn_pure _

/-- The evaluation reads nothing of the manager. -/
theorem Evaluated.withManager (h : c.Evaluated reg id now amount e) (manager : Manager) :
    Evaluated reg id now amount e { c with manager := manager } := by
  have hsame : evaluateDraw reg id now { c with manager := manager } =
      c.evaluateDraw reg id now := evaluateDraw_congr (by rfl) (by rfl)
  exact ⟨hsame.trans h.result, h.available, h.auth, h.policy, h.control, h.eligible, h.evidence,
    h.cash⟩

/-- A reservation of what the evaluation leaves passes the gates of the controller. -/
theorem reserve_gates {nonce expiresAt : Nat} (hev : c.Evaluated reg id m.now amount e) :
    PassesGates (c.reserve d reg m id amount nonce expiresAt) := by
  obtain ⟨hx, hlimit, hvalid⟩ := hev.auth
  obtain ⟨p, hp, hcontrol⟩ := hev.control
  refine .guard rfl fun _ => .guard rfl fun _ => ?_
  refine (errorsIn_gate (by simp [Revert.isDrawGate])).mpr ⟨by simp [hx], ?_⟩
  refine (errorsIn_gate (by simp [Revert.isDrawGate])).mpr ⟨hlimit, ?_⟩
  refine (errorsIn_gate (by simp [Revert.isDrawGate])).mpr ⟨Nat.not_le_of_lt hvalid, ?_⟩
  refine (errorsIn_gate (by simp [Revert.isDrawGate])).mpr ⟨by simp [hev.policy], ?_⟩
  refine (errorsIn_bind_ok hp).mpr ?_
  refine (errorsIn_bind_ok hcontrol).mpr ?_
  refine (errorsIn_gate (by simp [Revert.isDrawGate])).mpr ⟨nofun, ?_⟩
  refine .guard rfl fun _ => .guard rfl fun _ => (errorsIn_bind_ok hev.result).mpr ?_
  refine (errorsIn_gate (by simp [Revert.isDrawGate])).mpr ⟨Nat.not_lt_of_le hev.available, ?_⟩
  exact .bind (.addW rfl) fun _ _ => errorsIn_pure _

/-- A reservation made in the same transaction, when it is consumed. -/
theorem consumeReservation_gates {rid : Bytes32} {expiresAt nonce : Nat} {manager : Manager}
    (hev : c.Evaluated reg id m.now amount e)
    (hfresh : m.now < e.evidenceValidUntil) (hrid : rid = d.reservationId id nonce)
    (hc' : c' = { c.bookReserved d id amount nonce expiresAt with manager := manager }) :
    PassesGates (c'.consumeReservation d reg m rid) := by
  obtain ⟨p, hp, hcontrol⟩ := hev.control
  have hr : c'.exposure.reservations rid =
      { facilityId := id, amount := amount, approvalNonce := nonce, expiresAt := expiresAt,
        policyVersionId := (c.exposure.auth id).policyVersionId,
        authorizationEpoch := (c.exposure.auth id).epoch, state := .active } := by
    rw [hc', hrid]
    exact Function.update_self ..
  have hauth : c'.exposure.auth = c.exposure.auth := by
    rw [hc']
    rfl
  have hreserved : c'.exposure.reserved id = c.exposure.reserved id + amount := by
    rw [hc']
    exact Function.update_self ..
  unfold consumeReservation PassesGates
  dsimp only
  rw [hr, hauth, hreserved]
  dsimp only
  refine .guard rfl fun _ => .guard rfl fun _ => .guard rfl fun _ => ?_
  refine (errorsIn_gate (by simp [Revert.isDrawGate])).mpr ⟨not_not_intro rfl, ?_⟩
  refine (errorsIn_gate (by simp [Revert.isDrawGate])).mpr ⟨by simp [hev.policy], ?_⟩
  refine (errorsIn_bind_ok hp).mpr ?_
  refine (errorsIn_bind_ok hcontrol).mpr ?_
  refine (errorsIn_gate (by simp [Revert.isDrawGate])).mpr ⟨nofun, ?_⟩
  refine .bind (.subW rfl) fun reserved hsub => ?_
  obtain ⟨-, rfl⟩ := subW_eq_ok.mp hsub
  -- Without this reservation, what is reserved is what it was.
  have hback : Function.update c'.exposure.reserved id (c.exposure.reserved id + amount - amount) =
      c.exposure.reserved := by
    rw [hc', Nat.add_sub_cancel]
    show Function.update (Function.update c.exposure.reserved id _) id _ = _
    rw [Function.update_idem, Function.update_eq_self]
  rw [hback]
  have hpool : c'.pool = c.pool := by
    rw [hc']
    rfl
  refine (errorsIn_bind_ok (a := e) ?_).mpr ?_
  · rw [← hev.result]
    exact evaluateDraw_congr (by exact hpool) (by rw [hc']; rfl)
  have hgate : ¬(e.evidenceValidUntil ≤ m.now ∨ e.availableDraw < amount) := by
    have := hev.available
    omega
  refine (errorsIn_gate (by simp [Revert.isDrawGate])).mpr ⟨hgate, ?_⟩
  exact .bind recordDraw_gates fun _ _ => errorsIn_pure _


/-- After the reservation of a quoted draw, its execution passes the gates. -/
theorem executeInternal_gates {rid : Bytes32} {expiresAt minReceived : Nat}
    (hpos : 0 < amount) (hq : c.Quoted d reg id m.now amount e)
    (hfresh : m.now < e.evidenceValidUntil) (hd : c.Drawable reg m id)
    (hreserve : c.reserveInternal d reg m id amount expiresAt = .ok (rid, c')) :
    PassesGates (c'.executeInternal d reg m rid minReceived) := by
  obtain ⟨nonce, manager, -, hrid, -, hc'⟩ := reserveInternal_books hreserve
  obtain ⟨hfacilities, hanchors, hauth, hid, hpaused⟩ := reserveInternal_manager hreserve
  have hdrawable : c'.checkDrawable d reg m id = c.checkDrawable d reg m id := by
    simp only [checkDrawable, hfacilities, hanchors, hauth, hpaused]
  unfold executeInternal PassesGates
  dsimp only
  rw [hid]
  refine .guard rfl fun _ => .guard rfl fun _ => .bind ?_ fun _ _ => ?_
  · rw [hdrawable]
    exact (checkDrawable_gates hq).mpr hd
  refine .bind ?_ fun q hconsume => ?_
  · exact consumeReservation_gates (m := m.calledBy d.manager) hq.toEvaluated hfresh hrid hc'
  -- The vault is as the quote found it.
  obtain ⟨cash, hcash, hle⟩ := hq.cash
  obtain ⟨-, -, -, _, l, -, -, -, rfl⟩ := consumeReservation_spec hconsume
  have hamount : (c'.exposure.reservations rid).amount = amount := by
    rw [hc', hrid]
    simp [bookReserved]
  refine .bind ?_ fun _ _ => .bind (.subW rfl) fun _ _ => .guard rfl fun _ =>
    .bind legalDebtAt_gates fun _ _ => errorsIn_pure _
  rw [hamount]
  refine lend_gates ?_ hpos hle
  rw [hc']
  exact hcash

/-- After a quote, `borrow` passes every gate exactly when the facility is drawable. -/
theorem borrow_gates {minReceived : Nat} (hpos : 0 < amount) (hnow : m.now + 1 < wordSize 256)
    (hsender : m.sender = (c.manager.facilities id).wallet)
    (hq : c.Quoted d reg id m.now amount e) (hfresh : m.now < e.evidenceValidUntil) :
    PassesGates (c.borrow d reg m id amount minReceived) ↔ c.Drawable reg m id := by
  have hknown : c.requireFacility id = .ok () := revertIf_of_not _ (by simp [hq.known])
  have hwallet : ¬(m.sender ≠ (c.manager.facilities id).wallet) := not_not_intro hsender
  have hnz : ¬amount = 0 := by omega
  unfold borrow PassesGates
  rw [errorsIn_bind_ok (addW_eq_ok.mpr ⟨hnow, rfl⟩), errorsIn_bind]
  constructor
  · rintro ⟨hreserve, -⟩
    unfold reserveInternal at hreserve
    rw [errorsIn_bind_ok hknown, errorsIn_bind_ok (revertIf_of_not _ hwallet),
      errorsIn_bind_ok (revertIf_of_not _ hnz), errorsIn_bind] at hreserve
    exact (checkDrawable_gates hq).mp hreserve.1
  · intro hd
    constructor
    · obtain ⟨cash, hcash, hle⟩ := hq.cash
      have hevidence : ¬(e.eligibleReceivables = 0 ∨ e.evidenceValidUntil ≤ m.now) :=
        not_or.mpr ⟨hq.eligible, Nat.not_le_of_lt hfresh⟩
      unfold reserveInternal
      refine .guard rfl fun _ => .guard rfl fun _ => .guard rfl fun _ => .bind ?_ fun _ _ => ?_
      · exact (checkDrawable_gates hq).mpr hd
      refine (errorsIn_bind_ok hq.result).mpr ?_
      refine (errorsIn_gate (by simp [Revert.isDrawGate])).mpr ⟨hevidence, ?_⟩
      refine (errorsIn_gate (by simp [Revert.isDrawGate])).mpr ⟨Nat.not_lt_of_le hq.available, ?_⟩
      refine (errorsIn_bind_ok hcash).mpr ?_
      refine (errorsIn_gate (by simp [Revert.isDrawGate])).mpr ⟨Nat.not_lt_of_le hle, ?_⟩
      refine .bind (.addW rfl) fun nonce _ => .bind ?_ fun _ _ => errorsIn_pure _
      exact reserve_gates (m := m.calledBy d.manager) (hq.toEvaluated.withManager _)
    · rintro ⟨rid, c₁⟩ hreserve
      exact executeInternal_gates hpos hq hfresh hd hreserve

end Credit

open Credit

/-- What a quote leaves open: the link of the wallet, the role and key epoch of the signer, the
profile and method of the verifier, the count of the authorization, and an observation of the
agreement that is not older than the control registry allows. -/
structure Honoured (reg : Registries) (k : ControlRegistry) (observationMaxAge : Nat) (m : Msg)
    (id : FacilityId) (c : Credit) : Prop where
  wallet : reg.isWalletOf (c.manager.facilities id).borrowerId
    (c.manager.facilities id).wallet = true
  signer : m.hasRole .underwriter (c.manager.anchors id).signer = true
  key : reg.isEpochValid .underwriter (c.manager.anchors id).signerEpoch = true
  verifier : ∃ v, reg.verifierOf (c.manager.facilities id).providerId = some v ∧
    v.executionProfile = (c.manager.facilities id).profile ∧
    ((c.manager.facilities id).profile = .localMock ∨ v.verificationMethod = .attestcoinNative)
  epoch : (c.manager.anchors id).exposureEpoch = (c.exposure.auth id).epoch
  observed :
    k.isFresh (c.manager.facilities id).controlAgreementId observationMaxAge m.now = true

/-- What `_controlUsable` says of the registry it asked. -/
theorem Exposure.controlUsable_withControl {reg : Registries} {k : ControlRegistry}
    {observationMaxAge now : Nat} {a : Authorization} {p : PolicyParams}
    (h : Exposure.controlUsable (reg.withControl k observationMaxAge now) a p now = .ok true) :
    k.isEffective a.controlAgreementId a.controlVersion now = true ∧
    (k.agreements a.controlAgreementId).terms.grade ≠ .e0 ∧
    (k.agreements a.controlAgreementId).terms.grade ≠ .e1 := by
  unfold Exposure.controlUsable at h
  split at h
  · cases h
  · rename_i heffective
    obtain ⟨agr, hagr, h⟩ := bind_eq_ok.mp h
    have hagr := read_eq_ok.mp hagr
    simp only [Registries.withControl] at hagr
    split at hagr
    · cases hagr
      split at h
      · cases h
      · rename_i hgrade
        exact ⟨by simpa [Registries.withControl] using heffective, not_or.mp hgrade⟩
    · cases hagr

/-- A quote and the execution of a draw. In every reachable state, when the quote of a facility is
`amount` or more, `borrow` by its wallet in the same block passes every draw gate if and only if
the facility meets `Honoured`. -/
theorem quote_honoured_iff {d : Deployment} {s : CreditState} {reg : Registries}
    {k : ControlRegistry} {observationMaxAge amount : Nat} {m : Msg} {id : FacilityId}
    {e : DrawEvaluation} (h : CreditReachable d s)
    (hbook : ∀ maxAge tolerance haircut unpaid validUntil age,
      reg.eligibleUnpaid id maxAge tolerance haircut m.now = some (unpaid, validUntil, age) →
      0 < unpaid → m.now < validUntil)
    (hnow : m.now + 1 < wordSize 256)
    (hsender : m.sender = (s.credit.manager.facilities id).wallet)
    (hquote : s.credit.managerEvaluateDraw d (reg.withControl k observationMaxAge m.now) id m.now =
      .ok e) (hpos : 0 < amount) (hle : amount ≤ e.availableDraw) :
    PassesGates (s.credit.borrow d (reg.withControl k observationMaxAge m.now) m id amount 0) ↔
      Honoured reg k observationMaxAge m id s.credit := by
  have hq := managerEvaluateDraw_quoted hquote hpos hle
  obtain ⟨maxAge, tolerance, haircut, unpaid, age, hunpaid, hev⟩ := hq.evidence
  have hfresh := hbook _ _ _ _ _ _ hev hunpaid
  rw [borrow_gates hpos hnow hsender hq hfresh]
  -- Under the count of the anchor, both sides ask for the same agreement.
  have husable : (s.credit.manager.anchors id).exposureEpoch = (s.credit.exposure.auth id).epoch →
      ((k.requireUsable (s.credit.manager.facilities id).controlAgreementId observationMaxAge m.now
          (s.credit.manager.facilities id).controlVersion .e2).toOption.isSome = true ↔
        k.isFresh (s.credit.manager.facilities id).controlAgreementId observationMaxAge m.now =
          true) := by
    intro hepoch
    obtain ⟨hx, -⟩ := anchorValid_eq_true hq.valid
    have hsigned := (h.anchored hx).signed hepoch
    obtain ⟨p, -, hcontrol⟩ := hq.control
    obtain ⟨heffective, hgrade⟩ := Exposure.controlUsable_withControl hcontrol
    rw [hsigned.agreement.1, hsigned.agreement.2] at heffective
    rw [hsigned.agreement.1] at hgrade
    exact ControlRegistry.requireUsable_iff heffective hgrade
  constructor
  · intro hd
    exact ⟨hd.wallet, hd.signer, hd.key, hd.verifier, hd.epoch, (husable hd.epoch).mp hd.control⟩
  · intro hh
    exact ⟨hh.wallet, hh.signer, hh.key, hh.verifier, hh.epoch, (husable hh.epoch).mpr hh.observed⟩

/-- A registry whose agreements are of grade E2 and were observed at time 5. -/
def Sample.control : ControlRegistry where
  agreements := fun agreementId =>
    { agreementId := agreementId, borrowerId := 1, accountKey := 1, version := 1,
      lastObservedAt := 5,
      terms := { grade := .e2, receiver := 30, receiverChainId := 1, agreementHash := 1,
                 effectiveFrom := 1, effectiveTo := 0, pocRef := 1 } }
  status := fun _ =>
    { exists_ := true, revoked := false, released := false, observedGrade := .e2,
      observedReceiver := 30, facilityId := 5, releaseApprovedVersion := 0,
      reconciliationClosesAt := 0, refundPending := false }

/-- The registries at time 20, with the observations of `Sample.control` usable for 1000 s. -/
def Sample.controlled : Registries := registries.withControl control 1000 20

/-- The wallet of facility 5 at time 20, where the underwriters are those of `isUnderwriter`. -/
def Sample.borrower (isUnderwriter : Address → Bool) : Msg where
  sender := 9
  now := 20
  hasRole := fun _ a => isUnderwriter a
  hasCode := fun _ => true

/-- The call reverted on a draw gate. -/
def Sample.hitsGate : Except Revert Credit → Bool
  | .error r => r.isDrawGate
  | .ok _ => false

theorem Sample.hitsGate_not_passes {x : Except Revert Credit} (h : hitsGate x = true) :
    ¬PassesGates x := by
  intro hpasses
  cases x with
  | error r =>
    have hgate : r.isDrawGate = false := hpasses r rfl
    rw [hitsGate, hgate] at h
    cases h
  | ok c => cases h

/-- The quote of an active facility, in a view of the state. -/
theorem Sample.quote_eq {c : Credit} {v : Nat}
    (h : ((c.managerEvaluateDraw protocol controlled 5 20).map (·.availableDraw)).toOption =
      some v) :
    ∃ e, c.managerEvaluateDraw protocol controlled 5 20 = .ok e ∧ e.availableDraw = v :=
  map_eq_ok.mp (toOption_eq_some.mp h)

/-- Facility 5 is quoted 1000, and account 7, which signed its authorization, is still an
underwriter: a draw of 600 passes every gate. -/
theorem quote_honoured_iff_sample : ∃ s e, CreditReachable Sample.protocol s ∧
    s.credit.managerEvaluateDraw Sample.protocol Sample.controlled 5 20 = .ok e ∧
    e.availableDraw = 1000 ∧
    PassesGates (s.credit.borrow Sample.protocol Sample.controlled
      (Sample.borrower fun a => a = 7) 5 600 0) := by
  obtain ⟨s, hrun, hview⟩ := Sample.creditDeployment.run_view Sample.protocol
    ((Sample.activeFacility 1000 600).take 8) (fun s => decide (
      ((s.credit.managerEvaluateDraw Sample.protocol Sample.controlled 5 20).map
        (·.availableDraw)).toOption = some 1000 ∧
      (s.credit.manager.facilities 5).wallet = 9 ∧ (s.credit.manager.anchors 5).signer = 7 ∧
      (s.credit.manager.facilities 5).profile = .localMock ∧
      (s.credit.manager.anchors 5).exposureEpoch = (s.credit.exposure.auth 5).epoch)) (v := true)
    (by decide +kernel)
  obtain ⟨hquote, hwallet, hsigner, hprofile, hepoch⟩ := of_decide_eq_true hview
  obtain ⟨e, hquote, hdraw⟩ := Sample.quote_eq hquote
  have hreach : CreditReachable Sample.protocol s :=
    ⟨_, _, Sample.creditDeployment_initial, CreditState.run_steps hrun⟩
  have hiff : PassesGates (s.credit.borrow Sample.protocol Sample.controlled
      (Sample.borrower fun a => a = 7) 5 600 0) ↔
      Honoured Sample.registries Sample.control 1000 (Sample.borrower fun a => a = 7) 5 s.credit := by
    refine quote_honoured_iff hreach ?_ (by decide +kernel) hwallet.symm hquote (by decide)
      (by omega)
    intro maxAge tolerance haircut unpaid validUntil age hbook _
    cases hbook
    decide
  refine ⟨s, e, hreach, hquote, hdraw, hiff.mpr ⟨rfl, ?_, rfl, ?_, hepoch, rfl⟩⟩
  · rw [hsigner]
    rfl
  · exact ⟨_, rfl, hprofile.symm, .inl hprofile⟩

/-- Account 7 lost its role after its authorization was anchored. Facility 5 is still quoted 1000,
and its draw of 600 reverts on the gate of the signer. -/
theorem quote_outlives_signer : ∃ s e, CreditReachable Sample.protocol s ∧
    s.credit.managerEvaluateDraw Sample.protocol Sample.controlled 5 20 = .ok e ∧
    e.availableDraw = 1000 ∧ (s.credit.manager.facilities 5).wallet = 9 ∧
    ¬PassesGates (s.credit.borrow Sample.protocol Sample.controlled
      (Sample.borrower fun _ => false) 5 600 0) := by
  obtain ⟨s, hrun, hview⟩ := Sample.creditDeployment.run_view Sample.protocol
    ((Sample.activeFacility 1000 600).take 8) (fun s => decide (
      ((s.credit.managerEvaluateDraw Sample.protocol Sample.controlled 5 20).map
        (·.availableDraw)).toOption = some 1000 ∧
      (s.credit.manager.facilities 5).wallet = 9 ∧
      Sample.hitsGate (s.credit.borrow Sample.protocol Sample.controlled
        (Sample.borrower fun _ => false) 5 600 0) = true)) (v := true) (by decide +kernel)
  obtain ⟨hquote, hwallet, hgate⟩ := of_decide_eq_true hview
  obtain ⟨e, hquote, hdraw⟩ := Sample.quote_eq hquote
  exact ⟨s, e, ⟨_, _, Sample.creditDeployment_initial, CreditState.run_steps hrun⟩, hquote, hdraw,
    hwallet, Sample.hitsGate_not_passes hgate⟩

end Rackline
