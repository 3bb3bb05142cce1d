import Rackline.Proofs.Collateral

/-!
# `Rackline.Proofs.Replacement`: what a replacement inherits

A device that is replaced may carry rights of third parties and open review flags. The device that
stands in for it is to stay ineligible until a reviewer has released these rights and resolved these
flags, or the ones that were recorded on the new device in their place.

`replace_asset` copies the ownership review to the new row and moves the encumbrance of a facility.
The rights of third parties and the flags stay on the retired row, which `eligibility` of the new
one does not look at. So one review of the new device makes it eligible, whatever the old one
carried, and the law holds of a replacement exactly when the old device carried nothing.
-/

set_option autoImplicit false

namespace Rackline.Assets

open Evm Transition

/-! ### The law -/

namespace Registry

variable (db : Registry)

/-- An open lien, pledge or assignment of a third party. -/
structure OpenRight (assetId : String) (e : AssetEncumbrance) : Prop where
  mem : e ∈ db.encumbrances
  asset : e.assetId = assetId
  isOpen : e.isOpen = true
  thirdParty : e.facilityId = none
  kind : e.kind ∈ thirdPartyKinds

/-- A flag that no reviewer has resolved. -/
structure OpenFlag (assetId : String) (f : AssetReviewFlag) : Prop where
  mem : f ∈ db.flags
  asset : f.assetId = assetId
  unresolved : f.resolved = false

/-- No reviewer has released the right, nor one that was recorded on the replacement for it. -/
structure Unreleased (newAssetId : String) (e : AssetEncumbrance) : Prop where
  held : ∃ q ∈ db.encumbrances, q.encumbranceId = e.encumbranceId ∧ q.isOpen = true
  equivalent : ∀ q ∈ db.encumbrances, q.assetId = newAssetId → q.facilityId = none →
    q.holder = e.holder → q.kind = e.kind → q.isOpen = true

/-- No reviewer has resolved the flag, nor one that was raised on the replacement for it. -/
structure Unresolved (newAssetId : String) (f : AssetReviewFlag) : Prop where
  raised : ∃ q ∈ db.flags, q.id = f.id ∧ q.resolved = false
  equivalent : ∀ q ∈ db.flags, q.assetId = newAssetId → q.flag = f.flag → q.resolved = false

/-- `eligibility` is false, for whatever facility it is asked. -/
def Ineligible (assetId : String) : Prop :=
  ∀ forFacilityId reasons db', db.eligibility assetId forFacilityId = .ok (reasons, db') →
    reasons ≠ []

/-- The replacement is ineligible as long as something that the old asset carried stands. -/
structure Inherits (before : Registry) (oldAssetId newAssetId : String) : Prop where
  rights : ∀ e, before.OpenRight oldAssetId e → db.Unreleased newAssetId e →
    db.Ineligible newAssetId
  flags : ∀ f, before.OpenFlag oldAssetId f → db.Unresolved newAssetId f →
    db.Ineligible newAssetId

end Registry

/-! ### One review of a replacement -/

namespace Registry

variable {db db' : Registry} {old a : GpuAsset} {newAssetId : String}
  {rows : List AssetEncumbrance}

/-- A row of a replacement that is reviewed meets the checks. -/
theorem replacement_checks {eligible : Bool} (h : (old.replacement newAssetId).checks = true) :
    ({ old.replacement newAssetId with
        ownershipReview := .VERIFIED, ownership := .OWNED, eligible := eligible } :
      GpuAsset).checks = true := by
  simp only [GpuAsset.checks, Bool.and_eq_true, decide_eq_true_eq] at h ⊢
  obtain ⟨⟨⟨⟨⟨hid, hparent⟩, hreplaces⟩, -⟩, -⟩, href⟩ := h
  refine ⟨⟨⟨⟨⟨hid, hparent⟩, hreplaces⟩, ?_⟩, ?_⟩, href⟩
  · simp
  · simp [GpuAsset.replacement]

theorem Linked.get_of_mem {assetId : String} (h : db.Linked) (ha : a ∈ db.assets)
    (hid : a.assetId = assetId) : db.get assetId = .ok a := by
  unfold get
  cases hfound : db.asset assetId with
  | none =>
    have hnone := List.find?_eq_none.mp hfound a ha
    simp [hid] at hnone
  | some found =>
    obtain ⟨hmem, hsame⟩ := asset_some hfound
    rw [h.eq_of_id hmem ha (hsame.trans hid.symm)]

theorem updateAsset_eq (h : a.checks = true) : db.updateAsset a = .ok (db.setAsset a) := by
  unfold updateAsset
  rw [revertIf_of_not _ (by rw [h]; decide), ok_bind]
  rfl

theorem get_setAsset (hold : old ∈ db.assets) (hid : a.assetId = old.assetId) :
    (db.setAsset a).get a.assetId = .ok a := by
  have hfind : (db.setAsset a).asset a.assetId = some a := by
    unfold asset setAsset
    simp only [List.find?_map]
    cases hfound : db.assets.find? ((fun r => r.assetId == a.assetId) ∘
        fun r => if r.assetId = a.assetId then a else r) with
    | none =>
      have hnone := List.find?_eq_none.mp hfound old hold
      simp [hid] at hnone
    | some found =>
      have hsame := List.find?_some hfound
      rw [Option.map_some]
      by_cases hfid : found.assetId = a.assetId
      · rw [if_pos hfid]
      · simp [hfid] at hsame
  unfold get
  rw [hfind]

/-- The encumbrances of a new asset: the one that was carried over, if there is one. -/
theorem Linked.moved_new (h : db.Linked) (hfresh : ¬db.Has newAssetId)
    (hmoved : db.Moved old.assetId newAssetId rows) :
    ∃ facility, ∀ q ∈ rows, q.assetId = newAssetId → q.facilityId.isSome = true ∧
      q.facilityId = facility := by
  have hnone : ∀ q ∈ db.encumbrances, q.assetId ≠ newAssetId :=
    fun q hq hasset => hfresh (hasset ▸ h.encumbrances q hq)
  rcases hmoved with ⟨-, rfl⟩ | ⟨e, newEncumbranceId, hheld, -, rfl⟩
  · exact ⟨none, fun q hq hasset => absurd hasset (hnone q hq)⟩
  · refine ⟨e.facilityId, fun q hq hasset => ?_⟩
    rcases List.mem_append.mp hq with hq | hq
    · obtain ⟨q₀, hq₀, hsame, -⟩ := closed_row hq
      exact absurd (hsame.trans hasset) (hnone q₀ hq₀)
    · rw [List.mem_singleton.mp hq]
      exact ⟨(openFacilityEncumbrance_some hheld).2.2.2, rfl⟩

/-- A right of a third party stays where it was recorded. -/
theorem Linked.moved_right {e : AssetEncumbrance} (h : db.Linked)
    (hmoved : db.Moved old.assetId newAssetId rows) (he : e ∈ db.encumbrances)
    (hthird : e.facilityId = none) : e ∈ rows := by
  rcases hmoved with ⟨-, rfl⟩ | ⟨held, newEncumbranceId, hheld, -, rfl⟩
  · exact he
  · obtain ⟨hmem, -, -, hfacility⟩ := openFacilityEncumbrance_some hheld
    refine List.mem_append_left _ (List.mem_map.mpr ⟨e, he, if_neg fun hsame => ?_⟩)
    rw [List.inj_on_of_nodup_map h.encumbranceIds he hmem hsame] at hthird
    rw [hthird] at hfacility
    cases hfacility

/-- A reviewed replacement has no reason against it. -/
theorem reasons_replacement {forFacilityId : Option String} {later : Registry}
    (hid : a.assetId = newAssetId) (hstatus : a.status = .ACTIVE) (hreview : a.ownershipReview = .VERIFIED)
    (howner : a.ownership = .OWNED) (hparent : a.parentAssetId = none)
    (hflags : ∀ f ∈ later.flags, f.assetId ≠ newAssetId)
    (hrights : ∀ q ∈ later.encumbrances, q.assetId = newAssetId → q.facilityId.isSome = true ∧
      q.facilityId = forFacilityId)
    (hchildren : ∀ b ∈ later.assets, b.parentAssetId ≠ some newAssetId) :
    later.reasons a forFacilityId = [] := by
  have hopenFlags : later.openFlags a.assetId = [] := by
    refine List.filter_eq_nil_iff.mpr fun f hf => ?_
    simp [hid, hflags f hf]
  have hencumbrances : (later.openEncumbrances a.assetId).filterMap
      (encumbranceReason forFacilityId) = [] := by
    refine List.filterMap_eq_nil_iff.mpr fun q hq => ?_
    unfold openEncumbrances at hq
    rw [List.mem_insertionSort, List.mem_filter] at hq
    obtain ⟨hq, hmatch⟩ := hq
    simp only [Bool.and_eq_true, beq_iff_eq] at hmatch
    obtain ⟨hsome, hfacility⟩ := hrights q hq (hmatch.1.trans hid)
    obtain ⟨facility, hf⟩ := Option.isSome_iff_exists.mp hsome
    simp [encumbranceReason, hf, ← hfacility]
  have hnoChildren : later.children a.assetId = [] := by
    have hfilter : later.assets.filter (fun r => r.parentAssetId == some a.assetId) = [] := by
      refine List.filter_eq_nil_iff.mpr fun b hb => ?_
      simpa [hid] using hchildren b hb
    unfold children
    rw [hfilter]
    rfl
  simp [reasons, hstatus, hreview, howner, hparent, hopenFlags, hencumbrances, hnoChildren]

/-- After one review the replacement is eligible. -/
theorem Linked.review_clears {oldAssetId byRole assignmentId : String}
    {movedKeys newKeys : List (String × String)} {carry : Bool} (h : db.Linked)
    (hok : db.replaceAsset oldAssetId newAssetId movedKeys newKeys byRole assignmentId carry =
      .ok db') :
    ∃ later, AssetStep db' (.reviewOwnership newAssetId .VERIFIED .OWNED "underwriter" none) later ∧
      later.encumbrances = db'.encumbrances ∧ later.flags = db'.flags ∧
        ¬later.Ineligible newAssetId := by
  obtain ⟨old, hold, -, hfresh, ⟨rows, hmoved, hframe⟩, hchecks, hrow, hflags⟩ := h.replaceAsset_ok hok
  have hmid := h.effect (.replaced old hold newAssetId hfresh rows hmoved)
  have hlinked := hmid.frame hframe
  let reviewed : GpuAsset := { old.replacement newAssetId with
    ownershipReview := .VERIFIED, ownership := .OWNED }
  have hlater := hlinked.setAsset (a := reviewed) hrow rfl
  have hget : db'.get newAssetId = .ok (old.replacement newAssetId) := hlinked.get_of_mem hrow rfl
  have hget' : (db'.setAsset reviewed).get newAssetId = .ok reviewed :=
    get_setAsset (a := reviewed) hrow rfl
  refine ⟨db'.setAsset reviewed, ?_, rfl, rfl, ?_⟩
  · show db'.reviewOwnership newAssetId .VERIFIED .OWNED "underwriter" none = _
    unfold Registry.reviewOwnership
    rw [show require "underwriter" reviewRoles "review asset ownership" = .ok () by decide +kernel,
      ok_bind, revertIf_of_not _ (by decide), ok_bind, revertIf_of_not _ (by decide), ok_bind,
      hget, ok_bind]
    exact updateAsset_eq (replacement_checks hchecks)
  · obtain ⟨facility, hrights⟩ := h.moved_new hfresh hmoved
    have hreasons : (db'.setAsset reviewed).reasons reviewed facility = [] := by
      refine reasons_replacement (show reviewed.assetId = newAssetId from rfl) rfl rfl rfl rfl ?_ ?_ ?_
      · intro f hf hasset
        have hmem : f ∈ db.flags := hflags ▸ hf
        exact hfresh (hasset ▸ h.flags f hmem)
      · intro q hq
        replace hq : q ∈ db'.encumbrances := hq
        rw [hframe.encumbrances] at hq
        exact hrights q hq
      · intro b hb hparent
        obtain ⟨c, hc, hl⟩ := row_of_lineages (hlater.lineages.trans hframe.lineages) hb
        have hparent' : c.parentAssetId = some newAssetId :=
          (congrArg Lineage.parentAssetId hl).trans hparent
        rcases List.mem_append.mp hc with hc | hc
        · exact hfresh (h.parents c hc newAssetId hparent').2
        · rw [List.mem_singleton.mp hc] at hparent'
          cases hparent'
    intro hineligible
    have heligible : (db'.setAsset reviewed).eligibility newAssetId facility =
        .ok ([], (db'.setAsset reviewed).setAsset { reviewed with eligible := true }) := by
      unfold Registry.eligibility
      rw [hget', ok_bind, hreasons]
      show ((db'.setAsset reviewed).updateAsset { reviewed with eligible := true } >>= fun db =>
        pure ([], db)) = _
      rw [updateAsset_eq (replacement_checks hchecks)]
      rfl
    exact hineligible facility [] _ heligible rfl

end Registry

/-! ### Runs -/

/-- After any run, a replacement is kept ineligible for what the old asset carried, in every
continuation, if and only if the old asset carried no right of a third party and no flag. -/
theorem replacement_inherits {pre : List AssetAction} {db db' : Registry}
    {oldAssetId newAssetId byRole assignmentId : String}
    {movedKeys newKeys : List (String × String)} {carry : Bool}
    (hrun : Steps AssetStep .initial pre db)
    (hreplace : AssetStep db
      (.replaceAsset oldAssetId newAssetId movedKeys newKeys byRole assignmentId carry) db') :
    (∀ actions later, Steps AssetStep db' actions later → later.Inherits db oldAssetId newAssetId) ↔
      (∀ e, ¬db.OpenRight oldAssetId e) ∧ ∀ f, ¬db.OpenFlag oldAssetId f := by
  have h : db.Linked := hrun.invariant (fun _ _ _ h hs => hs.linked h) Registry.initial_linked
  constructor
  · intro hall
    obtain ⟨old, hold, rfl, hfresh, ⟨rows, hmoved, hframe⟩, -, -, hflags⟩ :=
      h.replaceAsset_ok hreplace
    obtain ⟨later, hreview, hencumbrances, hlaterFlags, heligible⟩ := h.review_clears hreplace
    obtain ⟨hrights, hflagged⟩ := hall _ later (.single hreview)
    constructor
    · intro e he
      refine heligible (hrights e he ⟨⟨e, ?_, rfl, he.isOpen⟩, fun q hq hasset hthird => ?_⟩)
      · rw [hencumbrances, hframe.encumbrances]
        exact h.moved_right hmoved he.mem he.thirdParty
      · -- On the new asset there is at most the encumbrance of the facility.
        rw [hencumbrances, hframe.encumbrances] at hq
        obtain ⟨_, hnew⟩ := h.moved_new hfresh hmoved
        have hsome := (hnew q hq hasset).1
        rw [hthird] at hsome
        cases hsome
    · intro f hf
      refine heligible (hflagged f hf ⟨⟨f, ?_, rfl, hf.unresolved⟩, fun q hq hasset => ?_⟩)
      · rw [hlaterFlags, hflags]
        exact hf.mem
      · rw [hlaterFlags, hflags] at hq
        exact absurd (hasset ▸ h.flags q hq) hfresh
  · rintro ⟨hrights, hflags⟩ actions later _
    exact ⟨fun e he => absurd he (hrights e), fun f hf => absurd hf (hflags f)⟩

namespace Sample

/-- The device that stands in for `gpu`. -/
def rma : String := "01J0000000000000000000RMA1"

/-- A device is reviewed, and a bank has a lien on it. -/
def pledged : List AssetAction :=
  [.registerAsset gpu .PHYSICAL_GPU [("SERIAL", "SN-0001")] "operator" none,
    .reviewOwnership gpu .VERIFIED .OWNED "underwriter" none,
    .recordThirdPartyRight "01J0000000000000000000ENC3" gpu "Bank X" .LIEN 1 "doc://ucc/1"
      "underwriter"]

/-- The device is sent back. -/
def sentBack : AssetAction :=
  .replaceAsset gpu rma [("SERIAL", "SN-0001")] [("GPU_UUID", "GPU-bbbb-2222")] "operator"
    "01J0000000000000000000ASR1" false

/-- The lien. -/
def lien : AssetEncumbrance :=
  { encumbranceId := "01J0000000000000000000ENC3", assetId := gpu, holder := "Bank X", priority := 1,
    kind := .LIEN, documentRef := some "doc://ucc/1", facilityId := none, isOpen := true }

/-- The lien stays open on the old device, and nothing speaks against the new one. -/
theorem sentBack_run : ∃ db db', Registry.initial.run pledged = some db ∧
    sentBack.exec db = .ok db' ∧ db.encumbrances = [lien] ∧ db'.encumbrances = [lien] ∧
      (db'.eligibility rma none).toOption.map Prod.fst = some [] := by
  have hview : ((Registry.initial.run pledged).bind fun db =>
      (sentBack.exec db).toOption.map fun db' =>
        (db.encumbrances, db'.encumbrances, (db'.eligibility rma none).toOption.map Prod.fst)) =
      some ([lien], [lien], some []) := by
    decide +kernel
  obtain ⟨db, hrun, hview⟩ := Option.bind_eq_some_iff.mp hview
  obtain ⟨db', hexec, hview⟩ := Option.map_eq_some_iff.mp hview
  simp only [Prod.mk.injEq] at hview
  exact ⟨db, db', hrun, toOption_eq_some.mp hexec, hview⟩

end Sample

/-- The replacement of a device with a lien is eligible while the lien stands. -/
theorem lien_left_behind : ∃ db db', Steps AssetStep .initial Sample.pledged db ∧
    AssetStep db Sample.sentBack db' ∧ ¬db'.Inherits db Sample.gpu Sample.rma := by
  obtain ⟨db, db', hrun, hexec, hbefore, hafter, heligible⟩ := Sample.sentBack_run
  refine ⟨db, db', Registry.run_steps hrun, hexec, fun hinherits => ?_⟩
  have hopen : db.OpenRight Sample.gpu Sample.lien :=
    ⟨by rw [hbefore]; exact List.mem_singleton_self _, rfl, rfl, rfl, by decide⟩
  have hstands : db'.Unreleased Sample.rma Sample.lien := by
    refine ⟨⟨Sample.lien, by rw [hafter]; exact List.mem_singleton_self _, rfl, rfl⟩, ?_⟩
    intro q hq _ _ _ _
    rw [hafter] at hq
    rw [List.mem_singleton.mp hq]
    rfl
  obtain ⟨⟨reasons, db''⟩, hok, hnone⟩ := Option.map_eq_some_iff.mp heligible
  replace hnone : reasons = [] := hnone
  exact hinherits.rights Sample.lien hopen hstands none reasons db'' (toOption_eq_some.mp hok) hnone

/-- The law fails of the sample's replacement, which has a lien to inherit. -/
theorem replacement_inherits_sample : ∃ db db', Steps AssetStep .initial Sample.pledged db ∧
    AssetStep db Sample.sentBack db' ∧
      ((∀ actions later, Steps AssetStep db' actions later →
          later.Inherits db Sample.gpu Sample.rma) ↔
        (∀ e, ¬db.OpenRight Sample.gpu e) ∧ ∀ f, ¬db.OpenFlag Sample.gpu f) := by
  obtain ⟨db, db', hrun, hexec, -⟩ := Sample.sentBack_run
  exact ⟨db, db', Registry.run_steps hrun, hexec,
    replacement_inherits (Registry.run_steps hrun) hexec⟩

end Rackline.Assets
