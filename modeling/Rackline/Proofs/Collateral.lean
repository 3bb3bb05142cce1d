import Rackline.AssetRegistry

/-!
# `Rackline.Proofs.Collateral`: one facility for one device

The facilities that hold a device, one of its partitions, a device that it replaced or that replaced
it, or a partition of such a device, are to be one and the same.

`eligibility` looks at the asset itself, at its parent and at its partitions. It does not look at
the other partitions of the parent, nor along `replaces_asset_id`. So the guarantee holds for the
runs in which no asset is assigned to a facility while another facility holds a relative that
`eligibility` does not look at, and for no others.

`AssetEffect` says once what an action does to the lineages and to the encumbrances.
-/

set_option autoImplicit false

namespace Rackline.Assets

open Evm Transition

/-! ### The guarantee -/

namespace Registry

variable (db : Registry)

/-- The asset is a partition of the device. -/
def PartOf (assetId device : String) : Prop :=
  ∃ a ∈ db.assets, a.assetId = assetId ∧ a.parentAssetId = some device

/-- One of the two replaced the other. -/
def Swapped (device other : String) : Prop :=
  ∃ a ∈ db.assets, a.assetId = device ∧ a.replacesAssetId = some other ∨
    a.assetId = other ∧ a.replacesAssetId = some device

/-- The device or one of its partitions. -/
def Covers (device assetId : String) : Prop := assetId = device ∨ db.PartOf assetId device

/-- The device, a device that it replaced or that replaced it, or a partition of one of these. -/
def Family (device assetId : String) : Prop :=
  db.Covers device assetId ∨ ∃ other, db.Swapped device other ∧ db.Covers other assetId

/-- The facility holds an open encumbrance on the asset. -/
def Secures (facilityId assetId : String) : Prop :=
  ∃ e ∈ db.encumbrances, e.assetId = assetId ∧ e.isOpen = true ∧ e.facilityId = some facilityId

/-- The asset is a physical device. -/
def IsDevice (device : String) : Prop :=
  ∃ a ∈ db.assets, a.assetId = device ∧ a.kind = .PHYSICAL_GPU

/-- The facilities that hold the family of a physical device are one and the same. -/
def OneFacility : Prop :=
  ∀ device, db.IsDevice device → ∀ facility₁ facility₂ asset₁ asset₂,
    db.Family device asset₁ → db.Secures facility₁ asset₁ →
      db.Family device asset₂ → db.Secures facility₂ asset₂ → facility₁ = facility₂

/-- `eligibility` of the asset looks at the facilities of the other. -/
def LooksAt (assetId other : String) : Prop :=
  other = assetId ∨ db.PartOf assetId other ∨ db.PartOf other assetId

end Registry

/-- The asset that the action assigns, and the facility. -/
def AssetAction.assigns : AssetAction → Option (String × String)
  | assignToFacility _ assetId facilityId _ _ => some (assetId, facilityId)
  | _ => none

/-- An asset is assigned only while no other facility holds a relative of it that `eligibility` does
not look at. -/
def AssetAction.KeepsCollateral (db : Registry) (action : AssetAction) : Prop :=
  ∀ assetId facilityId, action.assigns = some (assetId, facilityId) →
    ∀ device, db.IsDevice device → db.Family device assetId →
      ∀ other facility, db.Family device other → ¬db.LooksAt assetId other →
        db.Secures facility other → facility = facilityId

/-! ### The rows that calls write -/

/-- What no call changes in a row of `gpu_assets`. -/
structure Lineage where
  assetId : String
  kind : AssetKind
  parentAssetId : Option String
  replacesAssetId : Option String

/-- The lineage of a row. -/
def GpuAsset.lineage (a : GpuAsset) : Lineage :=
  { assetId := a.assetId, kind := a.kind, parentAssetId := a.parentAssetId,
    replacesAssetId := a.replacesAssetId }

namespace Registry

variable {db db' mid : Registry} {id : String} {a : GpuAsset}

/-- There is a row with the id. -/
def Has (db : Registry) (assetId : String) : Prop := ∃ a ∈ db.assets, a.assetId = assetId

theorem asset_some (h : db.asset id = some a) : a ∈ db.assets ∧ a.assetId = id :=
  ⟨List.mem_of_find?_eq_some h, by simpa using List.find?_some h⟩

theorem get_ok (h : db.get id = .ok a) : a ∈ db.assets ∧ a.assetId = id := by
  unfold get at h
  cases hfind : db.asset id with
  | none =>
    rw [hfind] at h
    cases h
  | some found =>
    rw [hfind] at h
    cases h
    exact asset_some hfind

theorem get_has (h : db.get id = .ok a) : db.Has id := ⟨a, get_ok h⟩

theorem insertKey_ok {key : String × String} (h : db.insertKey id key = .ok db') :
    ∃ keys, db' = { db with keys := keys } := by
  obtain ⟨_, -, h⟩ := bind_eq_ok.mp h
  cases h
  exact ⟨_, rfl⟩

theorem insertKeys_ok {keys : List (String × String)} (h : db.insertKeys id keys = .ok db') :
    ∃ keys, db' = { db with keys := keys } := by
  unfold insertKeys at h
  induction keys generalizing db with
  | nil => exact ⟨db.keys, (Except.ok.inj h).symm⟩
  | cons key rest ih =>
    obtain ⟨mid, hkey, h⟩ := bind_eq_ok.mp h
    obtain ⟨keys₁, rfl⟩ := insertKey_ok hkey
    obtain ⟨keys₂, rfl⟩ := ih h
    exact ⟨keys₂, rfl⟩

theorem moveKeys_ok {old : String} {keys : List (String × String)}
    (h : db.moveKeys old id keys = .ok db') : ∃ keys, db' = { db with keys := keys } := by
  unfold moveKeys at h
  induction keys generalizing db with
  | nil => exact ⟨db.keys, (Except.ok.inj h).symm⟩
  | cons key rest ih =>
    obtain ⟨mid, hkey, h⟩ := bind_eq_ok.mp h
    obtain ⟨_, -, hkey⟩ := bind_eq_ok.mp hkey
    obtain ⟨keys₁, rfl⟩ := insertKey_ok hkey
    obtain ⟨keys₂, rfl⟩ := ih h
    exact ⟨keys₂, rfl⟩

theorem insertAsset_ok (h : db.insertAsset a = .ok db') :
    a.checks = true ∧ ¬db.Has a.assetId ∧ db' = { db with assets := db.assets ++ [a] } := by
  obtain ⟨_, hguard, h⟩ := bind_eq_ok.mp h
  have hnot := revertIf_eq_ok.mp hguard
  cases h
  refine ⟨?_, fun ⟨r, hr, hsame⟩ => hnot (.inr ⟨r, hr, hsame⟩), rfl⟩
  cases hchecks : a.checks with
  | true => rfl
  | false => exact absurd (.inl hchecks) hnot

theorem insertEncumbrance_ok {e : AssetEncumbrance} (h : db.insertEncumbrance e = .ok db') :
    (∀ q ∈ db.encumbrances, q.encumbranceId ≠ e.encumbranceId) ∧
      (e.isOpen = true → e.facilityId.isSome = true → ∀ q ∈ db.encumbrances,
        q.assetId = e.assetId → q.isOpen = true → q.facilityId = none) ∧
      db' = { db with encumbrances := db.encumbrances ++ [e] } := by
  obtain ⟨_, hguard, h⟩ := bind_eq_ok.mp h
  have hnot := revertIf_eq_ok.mp hguard
  cases h
  refine ⟨fun q hq hsame => hnot ?_, fun hopen hfacility q hq hasset hq' => ?_, rfl⟩
  · exact .inr (.inr (.inr (.inl ⟨q, hq, hsame⟩)))
  · by_contra hheld
    exact hnot (.inr (.inr (.inr (.inr ⟨hopen, hfacility, q, hq, hasset, hq',
      Option.isSome_iff_ne_none.mpr hheld⟩))))

/-! ### References -/

/-- The foreign keys and the unique indexes of the tables. -/
structure Linked (db : Registry) : Prop where
  ids : (db.assets.map GpuAsset.assetId).Nodup
  parents : ∀ a ∈ db.assets, ∀ parent, a.parentAssetId = some parent →
    a.kind = .MIG_PARTITION ∧ db.Has parent
  replaced : ∀ a ∈ db.assets, ∀ old, a.replacesAssetId = some old → db.Has old
  encumbrances : ∀ e ∈ db.encumbrances, db.Has e.assetId
  encumbranceIds : (db.encumbrances.map AssetEncumbrance.encumbranceId).Nodup
  oneOpen : ∀ e₁ ∈ db.encumbrances, ∀ e₂ ∈ db.encumbrances, e₁.assetId = e₂.assetId →
    e₁.isOpen = true → e₁.facilityId.isSome = true → e₂.isOpen = true →
      e₂.facilityId.isSome = true → e₁ = e₂
  flags : ∀ f ∈ db.flags, db.Has f.assetId
  assignments : ∀ r ∈ db.assignments, db.Has r.assetId

/-- The lineages and the encumbrances are as before, and new flags and assignments are those of
assets. -/
structure Frame (db db' : Registry) : Prop where
  lineages : db'.assets.map GpuAsset.lineage = db.assets.map GpuAsset.lineage
  encumbrances : db'.encumbrances = db.encumbrances
  flags : ∀ f ∈ db'.flags, db.Has f.assetId ∨ ∃ q ∈ db.flags, q.assetId = f.assetId
  assignments : ∀ r ∈ db'.assignments, db.Has r.assetId ∨ ∃ q ∈ db.assignments, q.assetId = r.assetId

theorem initial_linked : Registry.initial.Linked where
  ids := .nil
  parents := fun _ ha => absurd ha List.not_mem_nil
  replaced := fun _ ha => absurd ha List.not_mem_nil
  encumbrances := fun _ he => absurd he List.not_mem_nil
  encumbranceIds := .nil
  oneOpen := fun _ he => absurd he List.not_mem_nil
  flags := fun _ hf => absurd hf List.not_mem_nil
  assignments := fun _ hr => absurd hr List.not_mem_nil

/-- A frame with the same flags and assignments. -/
theorem Frame.of_lineages (hlineages : db'.assets.map GpuAsset.lineage = db.assets.map GpuAsset.lineage)
    (hencumbrances : db'.encumbrances = db.encumbrances) (hflags : db'.flags = db.flags)
    (hassignments : db'.assignments = db.assignments) : Frame db db' where
  lineages := hlineages
  encumbrances := hencumbrances
  flags := fun f hf => .inr ⟨f, hflags ▸ hf, rfl⟩
  assignments := fun r hr => .inr ⟨r, hassignments ▸ hr, rfl⟩

theorem Frame.refl (db : Registry) : Frame db db := .of_lineages rfl rfl rfl rfl

/-- Tables with the same lineages have rows of the same lineage. -/
theorem row_of_lineages (hl : db'.assets.map GpuAsset.lineage = db.assets.map GpuAsset.lineage)
    (ha : a ∈ db'.assets) : ∃ b ∈ db.assets, b.lineage = a.lineage := by
  have hmem : a.lineage ∈ db.assets.map GpuAsset.lineage := by
    rw [← hl]
    exact List.mem_map_of_mem ha
  exact List.mem_map.mp hmem

theorem Frame.has (h : Frame db db') (hid : db.Has id) : db'.Has id := by
  obtain ⟨a, ha, rfl⟩ := hid
  obtain ⟨b, hb, hl⟩ := row_of_lineages h.lineages.symm ha
  exact ⟨b, hb, congrArg Lineage.assetId hl⟩

theorem Frame.has' (h : Frame db db') (hid : db'.Has id) : db.Has id := by
  obtain ⟨a, ha, rfl⟩ := hid
  obtain ⟨b, hb, hl⟩ := row_of_lineages h.lineages ha
  exact ⟨b, hb, congrArg Lineage.assetId hl⟩

theorem Frame.trans (h : Frame db mid) (h' : Frame mid db') : Frame db db' where
  lineages := h'.lineages.trans h.lineages
  encumbrances := h'.encumbrances.trans h.encumbrances
  flags := by
    intro f hf
    rcases h'.flags f hf with hhas | ⟨q, hq, hsame⟩
    · exact .inl (h.has' hhas)
    · rw [← hsame]
      exact h.flags q hq
  assignments := by
    intro r hr
    rcases h'.assignments r hr with hhas | ⟨q, hq, hsame⟩
    · exact .inl (h.has' hhas)
    · rw [← hsame]
      exact h.assignments q hq

theorem Linked.frame (h : db.Linked) (hf : Frame db db') : db'.Linked where
  ids := by
    have hmap : ∀ l : List GpuAsset,
        l.map GpuAsset.assetId = (l.map GpuAsset.lineage).map Lineage.assetId := fun l => by
      rw [List.map_map]
      rfl
    rw [hmap, hf.lineages, ← hmap]
    exact h.ids
  parents := by
    intro a ha parent hparent
    obtain ⟨b, hb, hl⟩ := row_of_lineages hf.lineages ha
    obtain ⟨hkind, hhas⟩ := h.parents b hb parent
      ((congrArg Lineage.parentAssetId hl).trans hparent)
    exact ⟨(congrArg Lineage.kind hl).symm.trans hkind, hf.has hhas⟩
  replaced := by
    intro a ha old hold
    obtain ⟨b, hb, hl⟩ := row_of_lineages hf.lineages ha
    exact hf.has (h.replaced b hb old ((congrArg Lineage.replacesAssetId hl).trans hold))
  encumbrances := by
    rw [hf.encumbrances]
    exact fun e he => hf.has (h.encumbrances e he)
  encumbranceIds := by
    rw [hf.encumbrances]
    exact h.encumbranceIds
  oneOpen := by
    rw [hf.encumbrances]
    exact h.oneOpen
  flags := by
    intro f hmem
    rcases hf.flags f hmem with hhas | ⟨q, hq, hsame⟩
    · exact hf.has hhas
    · rw [← hsame]
      exact hf.has (h.flags q hq)
  assignments := by
    intro r hmem
    rcases hf.assignments r hmem with hhas | ⟨q, hq, hsame⟩
    · exact hf.has hhas
    · rw [← hsame]
      exact hf.has (h.assignments q hq)

theorem insertKeys_frame {keys : List (String × String)} (h : db.insertKeys id keys = .ok db') :
    Frame db db' := by
  obtain ⟨rows, rfl⟩ := insertKeys_ok h
  exact .of_lineages rfl rfl rfl rfl

theorem moveKeys_frame {old : String} {keys : List (String × String)}
    (h : db.moveKeys old id keys = .ok db') : Frame db db' := by
  obtain ⟨rows, rfl⟩ := moveKeys_ok h
  exact .of_lineages rfl rfl rfl rfl

theorem retireKeys_frame (id : String) (which : AssetIdentityKey → Bool) :
    Frame db (db.retireKeys id which) :=
  .of_lineages rfl rfl rfl rfl

theorem Linked.eq_of_id {b : GpuAsset} (h : db.Linked) (ha : a ∈ db.assets) (hb : b ∈ db.assets)
    (hsame : a.assetId = b.assetId) : a = b :=
  List.inj_on_of_nodup_map h.ids ha hb hsame

/-! ### The calls that change no lineage and no encumbrance -/

theorem Linked.setAsset {cur : GpuAsset} (h : db.Linked) (hcur : cur ∈ db.assets)
    (hsame : a.lineage = cur.lineage) : Frame db (db.setAsset a) := by
  refine .of_lineages ?_ rfl rfl rfl
  show (db.assets.map _).map _ = _
  rw [List.map_map]
  refine List.map_congr_left fun r hr => ?_
  show (if r.assetId = a.assetId then a else r).lineage = r.lineage
  split
  · rename_i hid
    rw [h.eq_of_id hr hcur (hid.trans (congrArg Lineage.assetId hsame)), hsame]
  · rfl

theorem updateAsset_ok (h : db.updateAsset a = .ok db') : a.checks = true ∧ db' = db.setAsset a := by
  obtain ⟨_, hguard, h⟩ := bind_eq_ok.mp h
  cases h
  have hnot := revertIf_eq_ok.mp hguard
  exact ⟨by simpa using hnot, rfl⟩

theorem Linked.updateAsset {cur : GpuAsset} (h : db.Linked) (hok : db.updateAsset a = .ok db')
    (hcur : cur ∈ db.assets) (hsame : a.lineage = cur.lineage) : Frame db db' := by
  obtain ⟨-, rfl⟩ := updateAsset_ok hok
  exact h.setAsset hcur hsame

theorem Linked.raiseFlag {flag : AssetFlag} (h : db.Linked) (hok : db.raiseFlag id flag = .ok db') :
    Frame db db' := by
  obtain ⟨cur, hget, hok⟩ := bind_eq_ok.mp hok
  obtain ⟨mid, hupdate, hok⟩ := bind_eq_ok.mp hok
  cases hok
  obtain ⟨hcur, hid⟩ := get_ok hget
  have hframe := h.updateAsset hupdate hcur rfl
  obtain ⟨-, rfl⟩ := updateAsset_ok hupdate
  refine ⟨hframe.lineages, rfl, fun f hf => ?_, hframe.assignments⟩
  rcases List.mem_append.mp hf with hold | hnew
  · exact .inr ⟨f, hold, rfl⟩
  · rw [List.mem_singleton.mp hnew]
    exact .inl ⟨cur, hcur, hid⟩

theorem resolveFlag_frame {flagId : Nat} {byRole : String}
    (hok : db.resolveFlag flagId byRole = .ok db') : Frame db db' := by
  obtain ⟨_, -, hok⟩ := bind_eq_ok.mp hok
  split at hok
  · cases hok
  · obtain ⟨_, -, hok⟩ := bind_eq_ok.mp hok
    cases hok
    refine ⟨rfl, rfl, fun f hf => ?_, fun r hr => .inr ⟨r, hr, rfl⟩⟩
    obtain ⟨q, hq, rfl⟩ := List.mem_map.mp hf
    refine .inr ⟨q, hq, ?_⟩
    split <;> rfl

theorem Linked.assignProvider {account byRole assignmentId : String} (h : db.Linked)
    (hok : db.assignProvider id account byRole assignmentId = .ok db') : Frame db db' := by
  obtain ⟨_, -, hok⟩ := bind_eq_ok.mp hok
  obtain ⟨cur, hget, hok⟩ := bind_eq_ok.mp hok
  obtain ⟨_, -, hok⟩ := bind_eq_ok.mp hok
  obtain ⟨_, -, hok⟩ := bind_eq_ok.mp hok
  split at hok
  · split at hok
    · cases hok
    · exact h.raiseFlag hok
  · obtain ⟨_, -, hok⟩ := bind_eq_ok.mp hok
    cases hok
    refine ⟨rfl, rfl, fun f hf => .inr ⟨f, hf, rfl⟩, fun r hr => ?_⟩
    rcases List.mem_append.mp hr with hold | hnew
    · exact .inr ⟨r, hold, rfl⟩
    · rw [List.mem_singleton.mp hnew]
      exact .inl (get_has hget)

/-- An asset without an open assignment gets one. -/
theorem assignProvider_new {account byRole assignmentId : String}
    (hok : db.assignProvider id account byRole assignmentId = .ok db')
    (hnone : db.openAssignment id = none) : db'.assets = db.assets ∧ db'.flags = db.flags := by
  obtain ⟨_, -, hok⟩ := bind_eq_ok.mp hok
  obtain ⟨_, -, hok⟩ := bind_eq_ok.mp hok
  obtain ⟨_, -, hok⟩ := bind_eq_ok.mp hok
  obtain ⟨_, -, hok⟩ := bind_eq_ok.mp hok
  rw [hnone] at hok
  obtain ⟨_, -, hok⟩ := bind_eq_ok.mp hok
  cases hok
  exact ⟨rfl, rfl⟩

theorem closeAssignment_frame : Frame db (db.closeAssignment id) := by
  refine ⟨rfl, rfl, fun f hf => .inr ⟨f, hf, rfl⟩, fun r hr => ?_⟩
  obtain ⟨q, hq, rfl⟩ := List.mem_map.mp hr
  refine .inr ⟨q, hq, ?_⟩
  split <;> rfl

theorem endAssignment_frame {byRole : String} (hok : db.endAssignment id byRole = .ok db') :
    Frame db db' := by
  obtain ⟨_, -, hok⟩ := bind_eq_ok.mp hok
  obtain ⟨_, -, hok⟩ := bind_eq_ok.mp hok
  cases hok
  exact closeAssignment_frame

theorem changeIdentityKey_frame {scheme newValue byRole : String} {oldValue : Option String}
    (hok : db.changeIdentityKey id scheme oldValue newValue byRole = .ok db') : Frame db db' := by
  obtain ⟨_, -, hok⟩ := bind_eq_ok.mp hok
  obtain ⟨_, -, hok⟩ := bind_eq_ok.mp hok
  obtain ⟨_, -, hok⟩ := bind_eq_ok.mp hok
  dsimp only at hok
  split at hok
  · rw [pure_bind] at hok
    obtain ⟨_, -, hok⟩ := bind_eq_ok.mp hok
    obtain ⟨keys, rfl⟩ := insertKey_ok hok
    exact .of_lineages rfl rfl rfl rfl
  · obtain ⟨_, -, hok⟩ := bind_eq_ok.mp hok
    rw [pure_bind] at hok
    obtain ⟨_, -, hok⟩ := bind_eq_ok.mp hok
    obtain ⟨keys, rfl⟩ := insertKey_ok hok
    exact .of_lineages rfl rfl rfl rfl

theorem Linked.reviewOwnership {verdict : OwnershipReview} {ownership : Ownership}
    {byRole : String} {reviewRef : Option String} (h : db.Linked)
    (hok : db.reviewOwnership id verdict ownership byRole reviewRef = .ok db') : Frame db db' := by
  obtain ⟨_, -, hok⟩ := bind_eq_ok.mp hok
  obtain ⟨_, -, hok⟩ := bind_eq_ok.mp hok
  obtain ⟨_, -, hok⟩ := bind_eq_ok.mp hok
  obtain ⟨cur, hget, hok⟩ := bind_eq_ok.mp hok
  exact h.updateAsset hok (get_ok hget).1 rfl

theorem attachDocument_frame {kind documentRef byRole : String}
    (hok : db.attachDocument id kind documentRef byRole = .ok db') : Frame db db' := by
  obtain ⟨_, -, hok⟩ := bind_eq_ok.mp hok
  obtain ⟨_, -, hok⟩ := bind_eq_ok.mp hok
  obtain ⟨_, -, hok⟩ := bind_eq_ok.mp hok
  cases hok
  exact .of_lineages rfl rfl rfl rfl

theorem Linked.eligibility {forFacilityId : Option String} {reasons : List String} (h : db.Linked)
    (hok : db.eligibility id forFacilityId = .ok (reasons, db')) :
    (∃ a ∈ db.assets, a.assetId = id ∧ reasons = db.reasons a forFacilityId) ∧ Frame db db' := by
  obtain ⟨cur, hget, hok⟩ := bind_eq_ok.mp hok
  obtain ⟨mid, hupdate, hok⟩ := bind_eq_ok.mp hok
  cases hok
  obtain ⟨hcur, hid⟩ := get_ok hget
  exact ⟨⟨cur, hcur, hid, rfl⟩, h.updateAsset hupdate hcur rfl⟩

/-! ### The other writes -/

theorem Linked.addAsset (h : db.Linked) (hfresh : ¬db.Has a.assetId)
    (hparent : ∀ parent, a.parentAssetId = some parent → a.kind = .MIG_PARTITION ∧ db.Has parent)
    (hreplaced : ∀ old, a.replacesAssetId = some old → db.Has old) :
    ({ db with assets := db.assets ++ [a] } : Registry).Linked := by
  have hkeep : ∀ {id}, db.Has id → ({ db with assets := db.assets ++ [a] } : Registry).Has id :=
    fun ⟨b, hb, hid⟩ => ⟨b, List.mem_append_left _ hb, hid⟩
  refine ⟨?_, ?_, ?_, fun e he => hkeep (h.encumbrances e he), h.encumbranceIds, h.oneOpen,
    fun f hf => hkeep (h.flags f hf), fun r hr => hkeep (h.assignments r hr)⟩
  · simp only [List.map_append, List.map_singleton]
    refine List.nodup_append.mpr ⟨h.ids, List.nodup_singleton _, ?_⟩
    intro x hx y hy
    obtain ⟨b, hb, rfl⟩ := List.mem_map.mp hx
    rw [List.mem_singleton.mp hy]
    exact fun hsame => hfresh ⟨b, hb, hsame⟩
  · intro b hb parent hp
    rcases List.mem_append.mp hb with hb | hb
    · exact (h.parents b hb parent hp).imp_right hkeep
    · rw [List.mem_singleton.mp hb] at hp ⊢
      exact (hparent parent hp).imp_right hkeep
  · intro b hb old ho
    rcases List.mem_append.mp hb with hb | hb
    · exact hkeep (h.replaced b hb old ho)
    · rw [List.mem_singleton.mp hb] at ho
      exact hkeep (hreplaced old ho)

theorem Linked.addEncumbrance {e : AssetEncumbrance} (h : db.Linked) (hhas : db.Has e.assetId)
    (hid : ∀ q ∈ db.encumbrances, q.encumbranceId ≠ e.encumbranceId)
    (hfree : e.isOpen = true → e.facilityId.isSome = true → ∀ q ∈ db.encumbrances,
      q.assetId = e.assetId → q.isOpen = true → q.facilityId = none) :
    ({ db with encumbrances := db.encumbrances ++ [e] } : Registry).Linked := by
  refine ⟨h.ids, h.parents, h.replaced, ?_, ?_, ?_, h.flags, h.assignments⟩
  · intro q hq
    rcases List.mem_append.mp hq with hq | hq
    · exact h.encumbrances q hq
    · rw [List.mem_singleton.mp hq]
      exact hhas
  · simp only [List.map_append, List.map_singleton]
    refine List.nodup_append.mpr ⟨h.encumbranceIds, List.nodup_singleton _, ?_⟩
    intro x hx y hy
    obtain ⟨q, hq, rfl⟩ := List.mem_map.mp hx
    rw [List.mem_singleton.mp hy]
    exact hid q hq
  · intro e₁ h₁ e₂ h₂ hsame hopen₁ hfacility₁ hopen₂ hfacility₂
    rcases List.mem_append.mp h₁ with h₁ | h₁ <;> rcases List.mem_append.mp h₂ with h₂ | h₂
    · exact h.oneOpen e₁ h₁ e₂ h₂ hsame hopen₁ hfacility₁ hopen₂ hfacility₂
    · rw [List.mem_singleton.mp h₂] at hsame hopen₂ hfacility₂
      rw [hfree hopen₂ hfacility₂ e₁ h₁ hsame hopen₁] at hfacility₁
      cases hfacility₁
    · rw [List.mem_singleton.mp h₁] at hsame hopen₁ hfacility₁
      rw [hfree hopen₁ hfacility₁ e₂ h₂ hsame.symm hopen₂] at hfacility₂
      cases hfacility₂
    · rw [List.mem_singleton.mp h₁, List.mem_singleton.mp h₂]

/-- An encumbrance that is open after a release was open before it, and is not the released one. -/
theorem mem_close {e : AssetEncumbrance} (he : e ∈ (db.closeEncumbrance id).encumbrances)
    (hopen : e.isOpen = true) : e ∈ db.encumbrances ∧ e.encumbranceId ≠ id := by
  obtain ⟨q, hq, heq⟩ := List.mem_map.mp he
  split at heq
  · rw [← heq] at hopen
    cases hopen
  · rename_i hother
    rw [← heq]
    exact ⟨hq, hother⟩

theorem closed_row {e : AssetEncumbrance} (he : e ∈ (db.closeEncumbrance id).encumbrances) :
    ∃ q ∈ db.encumbrances, q.assetId = e.assetId ∧ q.encumbranceId = e.encumbranceId := by
  obtain ⟨q, hq, rfl⟩ := List.mem_map.mp he
  refine ⟨q, hq, ?_⟩
  split <;> exact ⟨rfl, rfl⟩

theorem Linked.close (h : db.Linked) : (db.closeEncumbrance id).Linked := by
  refine ⟨h.ids, h.parents, h.replaced, ?_, ?_, ?_, h.flags, h.assignments⟩
  · intro e he
    obtain ⟨q, hq, hasset, -⟩ := closed_row he
    rw [← hasset]
    exact h.encumbrances q hq
  · have hids : (db.closeEncumbrance id).encumbrances.map AssetEncumbrance.encumbranceId =
        db.encumbrances.map AssetEncumbrance.encumbranceId := by
      show (db.encumbrances.map _).map _ = _
      rw [List.map_map]
      refine List.map_congr_left fun e _ => ?_
      simp only [Function.comp_apply]
      split <;> rfl
    rw [hids]
    exact h.encumbranceIds
  · intro e₁ h₁ e₂ h₂ hsame hopen₁ hfacility₁ hopen₂ hfacility₂
    exact h.oneOpen e₁ (mem_close h₁ hopen₁).1 e₂ (mem_close h₂ hopen₂).1 hsame hopen₁ hfacility₁
      hopen₂ hfacility₂

theorem openFacilityEncumbrance_some {e : AssetEncumbrance}
    (h : db.openFacilityEncumbrance id = some e) :
    e ∈ db.encumbrances ∧ e.assetId = id ∧ e.isOpen = true ∧ e.facilityId.isSome = true := by
  have hfound := List.find?_some h
  simp only [Bool.and_eq_true, beq_iff_eq] at hfound
  exact ⟨List.mem_of_find?_eq_some h, hfound.1.1, hfound.1.2, hfound.2⟩

theorem openFacilityEncumbrance_none (h : db.openFacilityEncumbrance id = none) :
    ∀ q ∈ db.encumbrances, q.assetId = id → q.isOpen = true → q.facilityId = none := by
  intro q hq hasset hopen
  have hnot := List.find?_eq_none.mp h q hq
  simpa [hasset, hopen] using hnot

end Registry

/-! ### What an action does -/

/-- The row that `replace_asset` adds for an asset. -/
def GpuAsset.replacement (old : GpuAsset) (newAssetId : String) : GpuAsset :=
  { assetId := newAssetId, kind := old.kind, ownership := old.ownership, parentAssetId := none,
    eligible := false, status := .ACTIVE, replacesAssetId := some old.assetId,
    ownershipReview := old.ownershipReview, reviewRef := none }

/-- The encumbrances after a replacement: if a facility holds the old asset, it holds the new one
instead. -/
def Registry.Moved (db : Registry) (oldAssetId newAssetId : String)
    (rows : List AssetEncumbrance) : Prop :=
  db.openFacilityEncumbrance oldAssetId = none ∧ rows = db.encumbrances ∨
    ∃ e newEncumbranceId, db.openFacilityEncumbrance oldAssetId = some e ∧
      (∀ q ∈ db.encumbrances, q.encumbranceId ≠ newEncumbranceId) ∧
      rows = (db.closeEncumbrance e.encumbranceId).encumbrances ++
        [{ e with encumbranceId := newEncumbranceId, assetId := newAssetId, isOpen := true }]

/-- What an action does to the lineages and to the encumbrances, with the asset that it assigns and
the facility. -/
inductive AssetEffect (db : Registry) : Option (String × String) → Registry → Prop
  | quiet : AssetEffect db none db
  | added (a : GpuAsset) (hfresh : ¬db.Has a.assetId)
      (hparent : ∀ parent, a.parentAssetId = some parent → a.kind = .MIG_PARTITION ∧ db.Has parent)
      (hnew : a.replacesAssetId = none) :
      AssetEffect db none { db with assets := db.assets ++ [a] }
  | right (e : AssetEncumbrance) (hhas : db.Has e.assetId)
      (hid : ∀ q ∈ db.encumbrances, q.encumbranceId ≠ e.encumbranceId) (hthird : e.facilityId = none) :
      AssetEffect db none { db with encumbrances := db.encumbrances ++ [e] }
  | released (encumbranceId : String) : AssetEffect db none (db.closeEncumbrance encumbranceId)
  | assigned (a : GpuAsset) (ha : a ∈ db.assets) (facilityId : String) (e : AssetEncumbrance)
      (hasset : e.assetId = a.assetId) (hfacility : e.facilityId = some facilityId)
      (hopen : e.isOpen = true)
      (hid : ∀ q ∈ db.encumbrances, q.encumbranceId ≠ e.encumbranceId)
      (hclear : db.reasons a (some facilityId) = [])
      (hfree : db.openFacilityEncumbrance a.assetId = none) :
      AssetEffect db (some (a.assetId, facilityId))
        { db with encumbrances := db.encumbrances ++ [e] }
  | replaced (old : GpuAsset) (hold : old ∈ db.assets) (newAssetId : String)
      (hfresh : ¬db.Has newAssetId) (rows : List AssetEncumbrance)
      (hmoved : db.Moved old.assetId newAssetId rows) :
      AssetEffect db none { db with
        assets := db.assets ++ [old.replacement newAssetId], encumbrances := rows }

namespace Registry

variable {db db' mid : Registry} {id : String} {a : GpuAsset} {assigns : Option (String × String)}

/-- An action keeps the references. -/
theorem Linked.effect (h : db.Linked) (heffect : AssetEffect db assigns mid) : mid.Linked := by
  cases heffect with
  | quiet => exact h
  | added a hfresh hparent hnew =>
    exact h.addAsset hfresh hparent fun old hold => by rw [hnew] at hold; cases hold
  | right e hhas hid hthird =>
    exact h.addEncumbrance hhas hid fun _ hsome => by rw [hthird] at hsome; cases hsome
  | released => exact h.close
  | assigned a ha _ e hasset _ _ hid _ hfree =>
    refine h.addEncumbrance ⟨a, ha, hasset.symm⟩ hid fun _ _ => ?_
    rw [hasset]
    exact openFacilityEncumbrance_none hfree
  | replaced old hold newAssetId hfresh rows hmoved =>
    have hreplaced : ∀ r, (old.replacement newAssetId).replacesAssetId = some r → db.Has r := by
      intro r hr
      cases hr
      exact ⟨old, hold, rfl⟩
    rcases hmoved with ⟨-, rfl⟩ | ⟨e, newEncumbranceId, -, hid, rfl⟩
    · exact h.addAsset hfresh nofun hreplaced
    · have hadd : ({ db.closeEncumbrance e.encumbranceId with
          assets := db.assets ++ [old.replacement newAssetId] } : Registry).Linked :=
        h.close.addAsset (fun hhas => hfresh hhas) nofun hreplaced
      refine hadd.addEncumbrance ⟨_, List.mem_append_right _ (List.mem_singleton_self _), rfl⟩ ?_ ?_
      · intro q hq
        obtain ⟨q₀, hq₀, -, hsame⟩ := closed_row hq
        rw [← hsame]
        exact hid q₀ hq₀
      · -- Nothing is recorded on an asset that was not there.
        intro _ _ q hq hasset
        obtain ⟨q₀, hq₀, hsame, -⟩ := closed_row hq
        have hhas := h.encumbrances q₀ hq₀
        rw [hsame, hasset] at hhas
        exact absurd hhas hfresh

/-- A call with an effect, followed by what changes no lineage and no encumbrance. -/
def Does (db : Registry) (assigns : Option (String × String)) (db' : Registry) : Prop :=
  ∃ mid, AssetEffect db assigns mid ∧ Frame mid db'

theorem Frame.does (h : Frame db db') : db.Does none db' := ⟨db, .quiet, h⟩

theorem Linked.registerAsset {kind : AssetKind} {keys : List (String × String)} {byRole : String}
    {account : Option String} (h : db.Linked)
    (hok : db.registerAsset id kind keys byRole account = .ok db') : db.Does none db' := by
  obtain ⟨_, -, hok⟩ := bind_eq_ok.mp hok
  obtain ⟨_, -, hok⟩ := bind_eq_ok.mp hok
  split at hok
  · exact (h.raiseFlag hok).does
  · obtain ⟨db₁, hinsert, hok⟩ := bind_eq_ok.mp hok
    obtain ⟨-, hfresh, rfl⟩ := insertAsset_ok hinsert
    have heffect := AssetEffect.added _ hfresh nofun rfl
    obtain ⟨db₂, hkeys, hok⟩ := bind_eq_ok.mp hok
    have hframe := insertKeys_frame hkeys
    split at hok
    · cases hok
      exact ⟨_, heffect, hframe⟩
    · exact ⟨_, heffect, hframe.trans (((h.effect heffect).frame hframe).assignProvider hok)⟩

theorem registerPartition_does {parent : String} {keys : List (String × String)} {byRole : String}
    (hok : db.registerPartition parent id keys byRole = .ok db') : db.Does none db' := by
  obtain ⟨_, -, hok⟩ := bind_eq_ok.mp hok
  obtain ⟨p, hget, hok⟩ := bind_eq_ok.mp hok
  obtain ⟨_, -, hok⟩ := bind_eq_ok.mp hok
  obtain ⟨_, -, hok⟩ := bind_eq_ok.mp hok
  obtain ⟨db₁, hinsert, hok⟩ := bind_eq_ok.mp hok
  obtain ⟨-, hfresh, rfl⟩ := insertAsset_ok hinsert
  refine ⟨_, .added _ hfresh (fun q hq => ?_) rfl, insertKeys_frame hok⟩
  cases hq
  exact ⟨rfl, get_has hget⟩

theorem Linked.recordThirdPartyRight {encumbranceId holder documentRef byRole : String}
    {kind : EncumbranceKind} {priority : Int} (h : db.Linked)
    (hok : db.recordThirdPartyRight encumbranceId id holder kind priority documentRef byRole =
      .ok db') : db.Does none db' := by
  obtain ⟨_, -, hok⟩ := bind_eq_ok.mp hok
  obtain ⟨_, -, hok⟩ := bind_eq_ok.mp hok
  obtain ⟨a, hget, hok⟩ := bind_eq_ok.mp hok
  obtain ⟨db₁, hinsert, hok⟩ := bind_eq_ok.mp hok
  obtain ⟨hid, -, rfl⟩ := insertEncumbrance_ok hinsert
  have heffect := AssetEffect.right _ (get_has hget) hid rfl
  exact ⟨_, heffect, (h.effect heffect).raiseFlag hok⟩

theorem release_does {byRole : String} (hok : db.release id byRole = .ok db') :
    db.Does none db' := by
  obtain ⟨_, -, hok⟩ := bind_eq_ok.mp hok
  split at hok
  · cases hok
  · obtain ⟨_, -, hok⟩ := bind_eq_ok.mp hok
    cases hok
    exact ⟨_, .released id, .refl _⟩

theorem Linked.assignToFacility {encumbranceId facilityId byRole : String}
    {documentRef : Option String} (h : db.Linked)
    (hok : db.assignToFacility encumbranceId id facilityId byRole documentRef = .ok db') :
    db.Does (some (id, facilityId)) db' := by
  obtain ⟨_, -, hok⟩ := bind_eq_ok.mp hok
  obtain ⟨_, -, hok⟩ := bind_eq_ok.mp hok
  obtain ⟨⟨reasons, db₁⟩, heligible, hok⟩ := bind_eq_ok.mp hok
  obtain ⟨⟨a, ha, rfl, hreasons⟩, hframe⟩ := h.eligibility heligible
  obtain ⟨_, hclear, hok⟩ := bind_eq_ok.mp hok
  obtain ⟨_, hfree, hok⟩ := bind_eq_ok.mp hok
  obtain ⟨hid, -, rfl⟩ := insertEncumbrance_ok hok
  have hempty : db.reasons a (some facilityId) = [] := by
    rw [← hreasons]
    exact Classical.not_not.mp (revertIf_eq_ok.mp hclear)
  have hnone : db.openFacilityEncumbrance a.assetId = none := by
    have hnot := revertIf_eq_ok.mp hfree
    simp only [openFacilityEncumbrance, hframe.encumbrances] at hnot
    simpa [openFacilityEncumbrance] using hnot
  let e : AssetEncumbrance :=
    { encumbranceId := encumbranceId, assetId := a.assetId, holder := "facility:" ++ facilityId,
      priority := 1, kind := .ASSIGNMENT, documentRef := documentRef,
      facilityId := some facilityId, isOpen := true }
  refine ⟨_, .assigned a ha facilityId e rfl rfl rfl ?_ hempty hnone,
    ⟨hframe.lineages, ?_, hframe.flags, hframe.assignments⟩⟩
  · rw [← hframe.encumbrances]
    exact hid
  · show db₁.encumbrances ++ _ = db.encumbrances ++ _
    rw [hframe.encumbrances]

/-- The tables of a replacement when the old row is retired, before the provider account and the
encumbrance move. -/
theorem Linked.retire {old : GpuAsset} {db₁ db₂ db₃ db₄ : Registry} {newAssetId : String}
    {movedKeys newKeys : List (String × String)} (h : db.Linked) (hold : old ∈ db.assets)
    (hinsert : db.insertAsset (old.replacement newAssetId) = .ok db₁)
    (hmoved : db₁.moveKeys old.assetId newAssetId movedKeys = .ok db₂)
    (hkeys : db₂.insertKeys newAssetId newKeys = .ok db₃)
    (hupdate : (db₃.retireKeys old.assetId fun _ => true).updateAsset
      { old with status := .RETIRED, eligible := false } = .ok db₄) :
    (old.replacement newAssetId).checks = true ∧ ¬db.Has newAssetId ∧
      db₁ = { db with assets := db.assets ++ [old.replacement newAssetId] } ∧ db₁.Linked ∧
      Frame db₁ db₄ ∧ old.replacement newAssetId ∈ db₄.assets ∧ db₄.flags = db.flags ∧
      db₄.assignments = db.assignments := by
  obtain ⟨hchecks, hfresh, rfl⟩ := insertAsset_ok hinsert
  have hlinked : ({ db with assets := db.assets ++ [old.replacement newAssetId] } : Registry).Linked := by
    refine h.addAsset hfresh nofun fun r hr => ?_
    cases hr
    exact ⟨old, hold, rfl⟩
  have hframe := (moveKeys_frame hmoved).trans ((insertKeys_frame hkeys).trans
    (retireKeys_frame old.assetId fun _ => true))
  obtain ⟨rows₂, rfl⟩ := moveKeys_ok hmoved
  obtain ⟨rows₃, rfl⟩ := insertKeys_ok hkeys
  have hupdated := (hlinked.frame hframe).updateAsset hupdate
    (show old ∈ _ from List.mem_append_left _ hold) rfl
  obtain ⟨-, rfl⟩ := updateAsset_ok hupdate
  refine ⟨hchecks, hfresh, rfl, hlinked, hframe.trans hupdated, ?_, rfl, rfl⟩
  refine List.mem_map.mpr ⟨_, List.mem_append_right _ (List.mem_singleton_self _), if_neg ?_⟩
  exact fun hsame => hfresh ⟨old, hold, hsame.symm⟩

/-- What a replacement that goes through does. -/
theorem Linked.replaceAsset_ok {newAssetId : String} {movedKeys newKeys : List (String × String)}
    {byRole assignmentId : String} {carry : Bool} (h : db.Linked)
    (hok : db.replaceAsset id newAssetId movedKeys newKeys byRole assignmentId carry = .ok db') :
    ∃ old ∈ db.assets, old.assetId = id ∧ ¬db.Has newAssetId ∧
      (∃ rows, db.Moved old.assetId newAssetId rows ∧ Frame { db with
        assets := db.assets ++ [old.replacement newAssetId], encumbrances := rows } db') ∧
      (old.replacement newAssetId).checks = true ∧ old.replacement newAssetId ∈ db'.assets ∧
      db'.flags = db.flags := by
  obtain ⟨_, -, hok⟩ := bind_eq_ok.mp hok
  obtain ⟨old, hget, hok⟩ := bind_eq_ok.mp hok
  obtain ⟨_, -, hok⟩ := bind_eq_ok.mp hok
  obtain ⟨_, -, hok⟩ := bind_eq_ok.mp hok
  obtain ⟨db₁, hinsert, hok⟩ := bind_eq_ok.mp hok
  obtain ⟨db₂, hmoved, hok⟩ := bind_eq_ok.mp hok
  obtain ⟨db₃, hkeys, hok⟩ := bind_eq_ok.mp hok
  obtain ⟨db₄, hupdate, hrest⟩ := bind_eq_ok.mp hok
  obtain ⟨hold, rfl⟩ := get_ok hget
  obtain ⟨hchecks, hfresh, rfl, hlinked, hframe, hrow, hflags, hassigned⟩ :=
    h.retire hold hinsert hmoved hkeys hupdate
  -- The provider account moves first, and then the encumbrance.
  obtain ⟨db₅, hmove, hrow₅, hflags₅, hrest⟩ : ∃ db₅, Frame db₄ db₅ ∧
      old.replacement newAssetId ∈ db₅.assets ∧ db₅.flags = db.flags ∧
      (db.openFacilityEncumbrance old.assetId).elim (pure db₅ : Except AssetsError Registry)
        (fun enc => db₅.carryOver enc newAssetId (deriveUlid newAssetId "EN")) = .ok db' := by
    cases hcurrent : db.openAssignment old.assetId with
    | none =>
      simp only [hcurrent, pure_bind] at hrest
      refine ⟨db₄, .refl db₄, hrow, hflags, ?_⟩
      cases hheld : db.openFacilityEncumbrance old.assetId <;> rwa [hheld] at hrest
    | some assignment =>
      simp only [hcurrent] at hrest
      obtain ⟨db₅, hassign, hrest⟩ := bind_eq_ok.mp hrest
      have hnone : (db₄.closeAssignment old.assetId).openAssignment newAssetId = none := by
        refine List.find?_eq_none.mpr fun r hr hmatch => ?_
        simp only [Bool.and_eq_true, beq_iff_eq] at hmatch
        obtain ⟨q, hq, heq⟩ := List.mem_map.mp hr
        have hasset : q.assetId = newAssetId := by
          rw [← hmatch.1, ← heq]
          split <;> rfl
        rw [hassigned] at hq
        exact hfresh (hasset ▸ h.assignments q hq)
      obtain ⟨hassets, hflags'⟩ := assignProvider_new hassign hnone
      refine ⟨db₅, closeAssignment_frame.trans
        (((hlinked.frame hframe).frame closeAssignment_frame).assignProvider hassign), ?_, ?_, ?_⟩
      · rw [hassets]
        exact hrow
      · rw [hflags']
        exact hflags
      · cases hheld : db.openFacilityEncumbrance old.assetId <;> rwa [hheld] at hrest
  have hmid := hframe.trans hmove
  cases hheld : db.openFacilityEncumbrance old.assetId with
  | none =>
    rw [hheld] at hrest
    cases hrest
    exact ⟨old, hold, rfl, hfresh, ⟨_, .inl ⟨hheld, rfl⟩, hmid⟩, hchecks, hrow₅, hflags₅⟩
  | some e =>
    rw [hheld] at hrest
    obtain ⟨_, -, hrest⟩ := bind_eq_ok.mp hrest
    obtain ⟨hid, -, rfl⟩ := insertEncumbrance_ok hrest
    have hids : ∀ q ∈ db.encumbrances, q.encumbranceId ≠ deriveUlid newAssetId "EN" := by
      intro q hq hsame
      have hmem : ∃ q' ∈ (db₅.closeEncumbrance e.encumbranceId).encumbrances,
          q'.encumbranceId = q.encumbranceId := by
        refine ⟨_, List.mem_map_of_mem (by rw [hmid.encumbrances]; exact hq), ?_⟩
        split <;> rfl
      obtain ⟨q', hq', hsame'⟩ := hmem
      exact hid q' hq' (hsame'.trans hsame)
    refine ⟨old, hold, rfl, hfresh, ⟨_, .inr ⟨e, _, hheld, hids, rfl⟩, hmid.lineages, ?_, hmid.flags,
      hmid.assignments⟩, hchecks, hrow₅, hflags₅⟩
    show List.map _ db₅.encumbrances ++ _ = List.map _ db.encumbrances ++ _
    rw [hmid.encumbrances]

end Registry

/-- What an action does: one effect on the lineages and the encumbrances, and whatever changes
neither. -/
theorem AssetStep.does {db db' : Registry} {action : AssetAction} (h : db.Linked)
    (hs : AssetStep db action db') : db.Does action.assigns db' := by
  unfold AssetStep at hs
  cases action with
  | facility id =>
    cases hs
    exact ⟨db, .quiet, .of_lineages rfl rfl rfl rfl⟩
  | providerAccount id =>
    cases hs
    exact ⟨db, .quiet, .of_lineages rfl rfl rfl rfl⟩
  | registerAsset => exact h.registerAsset hs
  | registerPartition => exact Registry.registerPartition_does hs
  | assignProvider => exact (h.assignProvider hs).does
  | endAssignment => exact (Registry.endAssignment_frame hs).does
  | changeIdentityKey => exact (Registry.changeIdentityKey_frame hs).does
  | replaceAsset =>
    obtain ⟨old, hold, -, hfresh, ⟨rows, hmoved, hframe⟩, -⟩ := h.replaceAsset_ok hs
    exact ⟨_, .replaced old hold _ hfresh rows hmoved, hframe⟩
  | reviewOwnership => exact (h.reviewOwnership hs).does
  | raiseFlag => exact (h.raiseFlag hs).does
  | resolveFlag => exact (Registry.resolveFlag_frame hs).does
  | recordThirdPartyRight => exact h.recordThirdPartyRight hs
  | attachDocument => exact (Registry.attachDocument_frame hs).does
  | eligibility =>
    obtain ⟨⟨reasons, db₁⟩, hok, rfl⟩ := map_eq_ok.mp hs
    exact (h.eligibility hok).2.does
  | assignToFacility => exact h.assignToFacility hs
  | release => exact Registry.release_does hs

theorem AssetStep.linked {db db' : Registry} {action : AssetAction} (h : db.Linked)
    (hs : AssetStep db action db') : db'.Linked := by
  obtain ⟨mid, heffect, hframe⟩ := hs.does h
  exact (h.effect heffect).frame hframe

/-! ### Families -/

namespace Registry

variable {db db' mid : Registry} {x y device : String} {a old : GpuAsset} {e : AssetEncumbrance}
  {facilityId : String}

/-- The relations follow the lineages. -/
theorem PartOf.of_lineages (hl : db'.assets.map GpuAsset.lineage = db.assets.map GpuAsset.lineage)
    (h : db'.PartOf x y) : db.PartOf x y := by
  obtain ⟨a, ha, hid, hparent⟩ := h
  obtain ⟨b, hb, hb'⟩ := row_of_lineages hl ha
  exact ⟨b, hb, (congrArg Lineage.assetId hb').trans hid,
    (congrArg Lineage.parentAssetId hb').trans hparent⟩

theorem Swapped.of_lineages (hl : db'.assets.map GpuAsset.lineage = db.assets.map GpuAsset.lineage)
    (h : db'.Swapped x y) : db.Swapped x y := by
  obtain ⟨a, ha, hswap⟩ := h
  obtain ⟨b, hb, hb'⟩ := row_of_lineages hl ha
  have hid : b.assetId = a.assetId := congrArg Lineage.assetId hb'
  have hreplaces : b.replacesAssetId = a.replacesAssetId := congrArg Lineage.replacesAssetId hb'
  refine ⟨b, hb, ?_⟩
  rw [hid, hreplaces]
  exact hswap

theorem IsDevice.of_lineages (hl : db'.assets.map GpuAsset.lineage = db.assets.map GpuAsset.lineage)
    (h : db'.IsDevice x) : db.IsDevice x := by
  obtain ⟨a, ha, hid, hkind⟩ := h
  obtain ⟨b, hb, hb'⟩ := row_of_lineages hl ha
  exact ⟨b, hb, (congrArg Lineage.assetId hb').trans hid, (congrArg Lineage.kind hb').trans hkind⟩

/-- The relatives of a device after a change that adds no relation. -/
theorem Family.mono {g : String → String} (hpart : ∀ {x y}, db'.PartOf x y → db.PartOf (g x) (g y))
    (hswap : ∀ {x y}, db'.Swapped x y → db.Swapped (g x) (g y) ∨ g x = g y)
    (h : db'.Family device x) : db.Family (g device) (g x) := by
  have hcovers : ∀ {d y}, db'.Covers d y → db.Covers (g d) (g y) := by
    intro d y hc
    rcases hc with rfl | hp
    · exact .inl rfl
    · exact .inr (hpart hp)
  rcases h with hc | ⟨other, hs, hc⟩
  · exact .inl (hcovers hc)
  · rcases hswap hs with hs | heq
    · exact .inr ⟨g other, hs, hcovers hc⟩
    · rw [heq]
      exact .inl (hcovers hc)

/-- The guarantee survives a change under which the devices, the relatives and the facilities come
from those before. -/
theorem OneFacility.mono (g : String → String) (h : db.OneFacility)
    (hkeep : ∀ device facility asset, db'.IsDevice device → db'.Family device asset →
      db'.Secures facility asset →
        db.IsDevice (g device) ∧ db.Family (g device) (g asset) ∧ db.Secures facility (g asset)) :
    db'.OneFacility := by
  intro device hdevice f₁ f₂ x₁ x₂ hfamily₁ hsecures₁ hfamily₂ hsecures₂
  obtain ⟨hd, hf₁, hs₁⟩ := hkeep device f₁ x₁ hdevice hfamily₁ hsecures₁
  obtain ⟨-, hf₂, hs₂⟩ := hkeep device f₂ x₂ hdevice hfamily₂ hsecures₂
  exact h (g device) hd f₁ f₂ (g x₁) (g x₂) hf₁ hs₁ hf₂ hs₂

theorem OneFacility.of_lineages
    (hl : db'.assets.map GpuAsset.lineage = db.assets.map GpuAsset.lineage)
    (he : db'.encumbrances = db.encumbrances) (h : db.OneFacility) : db'.OneFacility := by
  refine h.mono id fun device facility asset hdevice hfamily hsecures => ⟨hdevice.of_lineages hl,
    hfamily.mono (g := id) (PartOf.of_lineages hl) fun hs => .inl (hs.of_lineages hl), ?_⟩
  obtain ⟨e, he', hrest⟩ := hsecures
  exact ⟨e, he ▸ he', hrest⟩

theorem Frame.oneFacility_iff (h : Frame db db') : db'.OneFacility ↔ db.OneFacility :=
  ⟨OneFacility.of_lineages h.lineages.symm h.encumbrances.symm,
    OneFacility.of_lineages h.lineages h.encumbrances⟩

theorem partOf_append (db : Registry)
    (h : ({ db with assets := db.assets ++ [a] } : Registry).PartOf x y) :
    db.PartOf x y ∨ a.assetId = x ∧ a.parentAssetId = some y := by
  obtain ⟨b, hb, hid, hparent⟩ := h
  rcases List.mem_append.mp hb with hb | hb
  · exact .inl ⟨b, hb, hid, hparent⟩
  · rw [List.mem_singleton.mp hb] at hid hparent
    exact .inr ⟨hid, hparent⟩

theorem swapped_append (db : Registry)
    (h : ({ db with assets := db.assets ++ [a] } : Registry).Swapped x y) :
    db.Swapped x y ∨ a.assetId = x ∧ a.replacesAssetId = some y ∨
      a.assetId = y ∧ a.replacesAssetId = some x := by
  obtain ⟨b, hb, hswap⟩ := h
  rcases List.mem_append.mp hb with hb | hb
  · exact .inl ⟨b, hb, hswap⟩
  · rw [List.mem_singleton.mp hb] at hswap
    exact .inr hswap

theorem Linked.partOf (h : db.Linked) (hp : db.PartOf x y) : db.Has x ∧ db.Has y := by
  obtain ⟨a, ha, hid, hparent⟩ := hp
  exact ⟨⟨a, ha, hid⟩, (h.parents a ha y hparent).2⟩

theorem Linked.swapped (h : db.Linked) (hs : db.Swapped x y) : db.Has x ∧ db.Has y := by
  obtain ⟨a, ha, ⟨hid, hreplaces⟩ | ⟨hid, hreplaces⟩⟩ := hs
  · exact ⟨⟨a, ha, hid⟩, h.replaced a ha y hreplaces⟩
  · exact ⟨h.replaced a ha x hreplaces, ⟨a, ha, hid⟩⟩

theorem Linked.secures (h : db.Linked) (hs : db.Secures facilityId x) : db.Has x := by
  obtain ⟨e, he, rfl, -⟩ := hs
  exact h.encumbrances e he

/-- A new asset that replaces none has no relatives but its parent and what belongs to the parent. -/
theorem Linked.added_oneFacility (h : db.Linked) (hfresh : ¬db.Has a.assetId)
    (hnew : a.replacesAssetId = none) (hone : db.OneFacility) :
    ({ db with assets := db.assets ++ [a] } : Registry).OneFacility := by
  have hswap : ∀ {x y}, ({ db with assets := db.assets ++ [a] } : Registry).Swapped x y →
      db.Swapped x y := by
    intro x y hs
    rcases swapped_append _ hs with hs | ⟨-, hbad⟩ | ⟨-, hbad⟩
    · exact hs
    · rw [hnew] at hbad
      cases hbad
    · rw [hnew] at hbad
      cases hbad
  refine hone.mono id fun device facility asset hdevice hfamily hsecures => ?_
  replace hsecures : db.Secures facility asset := hsecures
  have hasset := h.secures hsecures
  -- What is secured was there before, so its relations are those from before.
  have hcovers : ∀ {d}, ({ db with assets := db.assets ++ [a] } : Registry).Covers d asset →
      db.Covers d asset ∧ db.Has d := by
    intro d hc
    rcases hc with rfl | hp
    · exact ⟨.inl rfl, hasset⟩
    · rcases partOf_append _ hp with hp | ⟨hid, -⟩
      · exact ⟨.inr hp, (h.partOf hp).2⟩
      · rw [← hid] at hasset
        exact absurd hasset hfresh
  have hhas : db.Has device ∧ db.Family device asset := by
    rcases hfamily with hc | ⟨other, hs, hc⟩
    · exact ⟨(hcovers hc).2, .inl (hcovers hc).1⟩
    · exact ⟨(h.swapped (hswap hs)).1, .inr ⟨other, hswap hs, (hcovers hc).1⟩⟩
  refine ⟨?_, hhas.2, hsecures⟩
  obtain ⟨b, hb, hid, hkind⟩ := hdevice
  rcases List.mem_append.mp hb with hb | hb
  · exact ⟨b, hb, hid, hkind⟩
  · rw [List.mem_singleton.mp hb] at hid
    rw [← hid] at hhas
    exact absurd hhas.1 hfresh

/-- The replacement stands where the old asset stood. -/
theorem Linked.replaced_oneFacility {newAssetId : String} {rows : List AssetEncumbrance}
    (h : db.Linked) (hold : old ∈ db.assets) (hfresh : ¬db.Has newAssetId)
    (hrows : ∀ e ∈ rows, e.isOpen = true → ∀ facility, e.facilityId = some facility →
      db.Secures facility e.assetId ∨ e.assetId = newAssetId ∧ db.Secures facility old.assetId)
    (hone : db.OneFacility) :
    ({ db with assets := db.assets ++ [old.replacement newAssetId], encumbrances := rows } :
      Registry).OneFacility := by
  let stand : String → String := fun x => if x = newAssetId then old.assetId else x
  have hstand : ∀ {x}, db.Has x → stand x = x := by
    intro x hx
    exact if_neg fun heq : x = newAssetId => hfresh (heq ▸ hx)
  have hnew : stand newAssetId = old.assetId := if_pos rfl
  have holdHas : stand old.assetId = old.assetId := hstand ⟨old, hold, rfl⟩
  refine hone.mono stand fun device facility asset hdevice hfamily hsecures => ⟨?_, ?_, ?_⟩
  · obtain ⟨b, hb, rfl, hkind⟩ := hdevice
    rcases List.mem_append.mp hb with hb | hb
    · rw [hstand ⟨b, hb, rfl⟩]
      exact ⟨b, hb, rfl, hkind⟩
    · rw [List.mem_singleton.mp hb] at hkind ⊢
      rw [show (old.replacement newAssetId).assetId = newAssetId from rfl, hnew]
      exact ⟨old, hold, rfl, hkind⟩
  · refine hfamily.mono (g := stand) (fun {x y} hp => ?_) fun {x y} hs => ?_
    · rcases partOf_append { db with encumbrances := rows } hp with hp | ⟨-, hbad⟩
      · obtain ⟨hx, hy⟩ := h.partOf hp
        rw [hstand hx, hstand hy]
        exact hp
      · cases hbad
    · rcases swapped_append { db with encumbrances := rows } hs with hs | ⟨hx, hy⟩ | ⟨hy, hx⟩
      · obtain ⟨hx, hy⟩ := h.swapped hs
        rw [hstand hx, hstand hy]
        exact .inl hs
      · cases hy
        rw [← hx]
        exact .inr (hnew.trans holdHas.symm)
      · cases hx
        rw [← hy]
        exact .inr (holdHas.trans hnew.symm)
  · obtain ⟨e, he, rfl, hopen, hfacility⟩ := hsecures
    rcases hrows e he hopen facility hfacility with hs | ⟨hasset, hs⟩
    · rw [hstand (h.secures hs)]
      exact hs
    · rw [hasset, hnew]
      exact hs

/-- An asset that is eligible for a facility has no parent and no partition that another one
holds. -/
theorem reasons_nil (h : db.reasons a (some facilityId) = []) :
    (∀ parent, a.parentAssetId = some parent → ∀ e, db.openFacilityEncumbrance parent = some e →
      e.facilityId = some facilityId) ∧
    ∀ child ∈ db.assets, child.parentAssetId = some a.assetId →
      ∀ e, db.openFacilityEncumbrance child.assetId = some e → e.facilityId = some facilityId := by
  have hfinanced : ∀ label id, db.financedReason label id (some facilityId) = none →
      ∀ e, db.openFacilityEncumbrance id = some e → e.facilityId = some facilityId := by
    intro label id hnone e he
    unfold financedReason at hnone
    rw [he, Option.bind_some] at hnone
    by_contra hother
    rw [if_pos hother] at hnone
    cases hnone
  simp only [reasons, List.append_eq_nil_iff, Option.toList_eq_nil_iff,
    List.filterMap_eq_nil_iff] at h
  obtain ⟨⟨-, hparents⟩, hchildren⟩ := h
  constructor
  · intro parent hparent
    rw [hparent, Option.bind_some] at hparents
    exact hfinanced _ parent hparents
  · intro child hchild hparent
    refine hfinanced _ child.assetId (hchildren child ?_)
    unfold children
    rw [List.mem_insertionSort, List.mem_filter]
    exact ⟨hchild, by simp [hparent]⟩

/-- A facility that holds an asset is the one that the lookup finds. -/
theorem Linked.secures_iff (h : db.Linked) (hs : db.Secures facilityId x) :
    ∃ e, db.openFacilityEncumbrance x = some e ∧ e.facilityId = some facilityId := by
  obtain ⟨e, he, rfl, hopen, hfacility⟩ := hs
  cases hfound : db.openFacilityEncumbrance e.assetId with
  | none =>
    rw [openFacilityEncumbrance_none hfound e he rfl hopen] at hfacility
    cases hfacility
  | some found =>
    obtain ⟨hmem, hasset, hopen', hfacility'⟩ := openFacilityEncumbrance_some hfound
    have hsame := h.oneOpen found hmem e he hasset hopen' hfacility' hopen (by rw [hfacility]; rfl)
    exact ⟨found, rfl, by rw [hsame]; exact hfacility⟩

/-- An assignment keeps the guarantee if and only if no other facility holds a relative that was not
looked at. -/
theorem Linked.assigned_oneFacility (h : db.Linked) (ha : a ∈ db.assets)
    (hasset : e.assetId = a.assetId) (hfacility : e.facilityId = some facilityId)
    (hopen : e.isOpen = true) (hclear : db.reasons a (some facilityId) = [])
    (hfree : db.openFacilityEncumbrance a.assetId = none) (hone : db.OneFacility) :
    ({ db with encumbrances := db.encumbrances ++ [e] } : Registry).OneFacility ↔
      ∀ device, db.IsDevice device → db.Family device a.assetId →
        ∀ other facility, db.Family device other → ¬db.LooksAt a.assetId other →
          db.Secures facility other → facility = facilityId := by
  obtain ⟨hparents, hchildren⟩ := reasons_nil hclear
  have hnew : ({ db with encumbrances := db.encumbrances ++ [e] } : Registry).Secures facilityId
      a.assetId :=
    ⟨e, List.mem_append_right _ (List.mem_singleton_self e), hasset, hopen, hfacility⟩
  have hsecures : ∀ {facility asset}, ({ db with encumbrances := db.encumbrances ++ [e] } :
      Registry).Secures facility asset →
        db.Secures facility asset ∨ asset = a.assetId ∧ facility = facilityId := by
    rintro facility asset ⟨q, hq, hid, hq', hfac⟩
    rcases List.mem_append.mp hq with hq | hq
    · exact .inl ⟨q, hq, hid, hq', hfac⟩
    · rw [List.mem_singleton.mp hq] at hid hfac
      rw [hfacility] at hfac
      exact .inr ⟨hid.symm.trans hasset, (Option.some.inj hfac).symm⟩
  constructor
  · intro hafter device hdevice hfamily other facility hother _ hs
    obtain ⟨q, hq, hrest⟩ := hs
    exact hafter device hdevice facility facilityId other a.assetId hother
      ⟨q, List.mem_append_left _ hq, hrest⟩ hfamily hnew
  · intro hunseen
    -- What the code looked at is free, or held by the same facility.
    have hsame : ∀ device, db.IsDevice device → db.Family device a.assetId →
        ∀ other facility, db.Family device other → db.Secures facility other →
          facility = facilityId := by
      intro device hdevice hfamily other facility hother hs
      obtain ⟨q, hfound, hfac⟩ := h.secures_iff hs
      by_cases hlooks : db.LooksAt a.assetId other
      · rcases hlooks with rfl | ⟨b, hb, hid, hparent⟩ | ⟨b, hb, hid, hparent⟩
        · rw [hfree] at hfound
          cases hfound
        · rw [h.eq_of_id hb ha hid] at hparent
          rw [hparents other hparent q hfound] at hfac
          exact (Option.some.inj hfac).symm
        · rw [hchildren b hb hparent q (by rw [hid]; exact hfound)] at hfac
          exact (Option.some.inj hfac).symm
      · exact hunseen device hdevice hfamily other facility hother hlooks hs
    intro device hdevice f₁ f₂ x₁ x₂ hfamily₁ hs₁ hfamily₂ hs₂
    rcases hsecures hs₁ with hs₁ | ⟨rfl, rfl⟩ <;> rcases hsecures hs₂ with hs₂ | ⟨rfl, rfl⟩
    · exact hone device hdevice f₁ f₂ x₁ x₂ hfamily₁ hs₁ hfamily₂ hs₂
    · exact hsame device hdevice hfamily₂ x₁ f₁ hfamily₁ hs₁
    · exact (hsame device hdevice hfamily₁ x₂ f₂ hfamily₂ hs₂).symm
    · rfl

/-- An effect keeps the guarantee if and only if what it assigns meets the condition. -/
theorem Linked.effect_oneFacility {assigns : Option (String × String)} (h : db.Linked)
    (heffect : AssetEffect db assigns mid) (hone : db.OneFacility) :
    mid.OneFacility ↔ ∀ assetId facilityId, assigns = some (assetId, facilityId) →
      ∀ device, db.IsDevice device → db.Family device assetId →
        ∀ other facility, db.Family device other → ¬db.LooksAt assetId other →
          db.Secures facility other → facility = facilityId := by
  cases heffect with
  | quiet => exact iff_of_true hone nofun
  | added a hfresh _ hnew => exact iff_of_true (h.added_oneFacility hfresh hnew hone) nofun
  | right e _ _ hthird =>
    refine iff_of_true (hone.mono id fun device facility asset hdevice hfamily hs =>
      ⟨hdevice, hfamily, ?_⟩) nofun
    obtain ⟨q, hq, hid, hopen, hfacility⟩ := hs
    rcases List.mem_append.mp hq with hq | hq
    · exact ⟨q, hq, hid, hopen, hfacility⟩
    · rw [List.mem_singleton.mp hq, hthird] at hfacility
      cases hfacility
  | released =>
    refine iff_of_true (hone.mono id fun device facility asset hdevice hfamily hs =>
      ⟨hdevice, hfamily, ?_⟩) nofun
    obtain ⟨q, hq, hid, hopen, hfacility⟩ := hs
    exact ⟨q, (mem_close hq hopen).1, hid, hopen, hfacility⟩
  | assigned a ha facilityId e hasset hfacility hopen _ hclear hfree =>
    rw [h.assigned_oneFacility ha hasset hfacility hopen hclear hfree hone]
    constructor
    · rintro hall _ _ ⟨rfl, rfl⟩
      exact hall
    · exact fun hall => hall a.assetId facilityId rfl
  | replaced old hold newAssetId hfresh rows hmoved =>
    refine iff_of_true (h.replaced_oneFacility hold hfresh (fun q hq hopen facility hfacility => ?_)
      hone) nofun
    rcases hmoved with ⟨-, rfl⟩ | ⟨e, newEncumbranceId, hheld, -, rfl⟩
    · exact .inl ⟨q, hq, rfl, hopen, hfacility⟩
    · rcases List.mem_append.mp hq with hq | hq
      · exact .inl ⟨q, (mem_close hq hopen).1, rfl, hopen, hfacility⟩
      · rw [List.mem_singleton.mp hq] at hfacility ⊢
        obtain ⟨hmem, hasset, hopen', -⟩ := openFacilityEncumbrance_some hheld
        exact .inr ⟨rfl, e, hmem, hasset, hopen', hfacility⟩

end Registry

/-! ### Runs -/

section
variable {db db' : Registry} {action : AssetAction}

/-- A step keeps the guarantee if and only if it meets the condition. -/
theorem AssetStep.oneFacility (h : db.Linked) (hone : db.OneFacility) (hs : AssetStep db action db') :
    db'.OneFacility ↔ action.KeepsCollateral db := by
  obtain ⟨mid, heffect, hframe⟩ := hs.does h
  rw [hframe.oneFacility_iff]
  exact h.effect_oneFacility heffect hone

/-- In every run the family of each physical device is held by one facility all along if and only
if no asset is ever assigned while another facility holds a relative that `eligibility` does not
look at. -/
theorem one_facility_per_device (actions : List AssetAction) :
    (∀ pre post db, actions = pre ++ post → Steps AssetStep .initial pre db → db.OneFacility) ↔
      ∀ db action db', StepOf AssetStep .initial actions db action db' →
        action.KeepsCollateral db := by
  refine Steps.stays_iff (I := Registry.Linked) (P := Registry.OneFacility)
    (Q := fun db (action : AssetAction) => action.KeepsCollateral db) Registry.initial_linked
    (fun _ _ _ h hs => hs.linked h) ?_ fun _ _ _ h hone hs => hs.oneFacility h hone
  rintro device ⟨a, ha, -⟩
  exact absurd ha List.not_mem_nil

end

namespace Sample

/-- A device. -/
def gpu : String := "01J0000000000000000000GPX1"

/-- Its partitions. -/
def mig₁ : String := "01J0000000000000000000M1G1"

/-- The other one. -/
def mig₂ : String := "01J0000000000000000000M1G2"

/-- Two partitions of one device are reviewed, and each is assigned to another facility. -/
def siblings : List AssetAction :=
  [.facility "F1", .facility "F2",
    .registerAsset gpu .PHYSICAL_GPU [("SERIAL", "SN-0001")] "operator" none,
    .registerPartition gpu mig₁ [("GPU_UUID", "MIG-1")] "operator",
    .registerPartition gpu mig₂ [("GPU_UUID", "MIG-2")] "operator",
    .reviewOwnership mig₁ .VERIFIED .OWNED "underwriter" none,
    .reviewOwnership mig₂ .VERIFIED .OWNED "underwriter" none,
    .assignToFacility "01J0000000000000000000ENC1" mig₁ "F1" "underwriter" none,
    .assignToFacility "01J0000000000000000000ENC2" mig₂ "F2" "underwriter" none]

end Sample

/-- Two facilities hold partitions of one device. -/
theorem siblings_secure_two_facilities : ¬∀ pre post db, Sample.siblings = pre ++ post →
    Steps AssetStep .initial pre db → db.OneFacility := by
  intro hall
  obtain ⟨db, hrun, hview⟩ : ∃ db, Registry.initial.run Sample.siblings = some db ∧
      (db.assets.map (fun a => (a.assetId, a.kind, a.parentAssetId)),
        db.encumbrances.map (fun e => (e.assetId, e.isOpen, e.facilityId))) =
      ([(Sample.gpu, .PHYSICAL_GPU, none), (Sample.mig₁, .MIG_PARTITION, some Sample.gpu),
          (Sample.mig₂, .MIG_PARTITION, some Sample.gpu)],
        [(Sample.mig₁, true, some "F1"), (Sample.mig₂, true, some "F2")]) :=
    Option.map_eq_some_iff.mp (by decide +kernel)
  simp only [Prod.mk.injEq] at hview
  obtain ⟨hassets, hencumbrances⟩ := hview
  have hrow : ∀ id kind parent, (id, kind, parent) ∈ db.assets.map (fun a =>
      (a.assetId, a.kind, a.parentAssetId)) →
        ∃ a ∈ db.assets, a.assetId = id ∧ a.kind = kind ∧ a.parentAssetId = parent := by
    intro id kind parent hmem
    obtain ⟨a, ha, heq⟩ := List.mem_map.mp hmem
    cases heq
    exact ⟨a, ha, rfl, rfl, rfl⟩
  have hsecures : ∀ id facility, (id, true, some facility) ∈ db.encumbrances.map (fun e =>
      (e.assetId, e.isOpen, e.facilityId)) → db.Secures facility id := by
    intro id facility hmem
    obtain ⟨e, he, heq⟩ := List.mem_map.mp hmem
    simp only [Prod.mk.injEq] at heq
    exact ⟨e, he, heq⟩
  have hone := hall _ [] db (by simp) (Registry.run_steps hrun)
  obtain ⟨g, hg, hgpu, hkind, -⟩ := hrow Sample.gpu .PHYSICAL_GPU none (by rw [hassets]; simp)
  obtain ⟨a, ha, hmig₁, -, hparent₁⟩ :=
    hrow Sample.mig₁ .MIG_PARTITION (some Sample.gpu) (by rw [hassets]; simp)
  obtain ⟨b, hb, hmig₂, -, hparent₂⟩ :=
    hrow Sample.mig₂ .MIG_PARTITION (some Sample.gpu) (by rw [hassets]; simp)
  have hsame := hone Sample.gpu ⟨g, hg, hgpu, hkind⟩ "F1" "F2" Sample.mig₁ Sample.mig₂
    (.inl (.inr ⟨a, ha, hmig₁, hparent₁⟩)) (hsecures _ _ (by rw [hencumbrances]; simp))
    (.inl (.inr ⟨b, hb, hmig₂, hparent₂⟩)) (hsecures _ _ (by rw [hencumbrances]; simp))
  exact absurd hsame (by decide)

end Rackline.Assets
